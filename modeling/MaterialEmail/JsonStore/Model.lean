import Mathlib.Data.List.Sort
import MaterialEmail.Library.Directory

/-! `JsonStore`: one JSON state in a live file, with a backup, and the temporaries, candidates and
displaced copies that its writes pass through. -/
namespace JsonStore

open Interrupted

/-- The names the store gives to files; each number stands for a process id and a UUID. -/
inductive Path where
  | live
  | backup
  | temporary (id : Nat)
  | candidate (id : Nat)
  | displacedBackup (id : Nat)
  | displaced (id : Nat)
  | quarantine (id : Nat)
  deriving DecidableEq, Repr

/-- The filter of `#findRecoveryCandidate`. -/
def Path.isCandidate : Path → Bool
  | .live => false
  | .quarantine _ => false
  | _ => true

def Path.id : Path → Nat
  | .live => 0
  | .backup => 0
  | .temporary id => id
  | .candidate id => id
  | .displacedBackup id => id
  | .displaced id => id
  | .quarantine id => id

/-- `DecodedCandidate`. -/
structure Decoded (T : Type) where
  filePath : Path
  modifiedAt : Nat
  value : T
  deriving DecidableEq, Repr

/-- `corruption` is `JsonStoreCorruptionError`. -/
inductive StoreError where
  | corruption (message : String)
  | errno (code : Errno)
  | mutator (reason : String)
  | afterWrite
  deriving DecidableEq, Repr

/-- The constructor arguments. `D` is what a mutator may leave behind, `T` what `validate` accepts,
which survives JSON; `stringify` and `size` give the length in bytes. -/
structure Config (D T : Type) where
  defaults : D
  stringify : D → Option Nat
  validate : D → Option T
  size : T → Nat
  maxBytes : Nat

abbrev Mutator (D T : Type) := T → Except String D

/-- The directory and the `#data` of the instance. `writing` and `written` are history variables:
what `#write` is about to store, and what it has stored. -/
structure State (T : Type) where
  directory : Directory Path T
  data : Option T
  writing : Option T
  written : Option T
  deriving DecidableEq, Repr

inductive Op (T : Type) where
  | file (op : FileOp Path T)
  | randomUUID
  | afterWrite
  | getData
  | setData (value : T)
  | begin (value : T)
  | acknowledge
  deriving DecidableEq

abbrev Reply (T : Type) : Op T → Type
  | .file op => op.Reply
  | .randomUUID => Nat
  | .afterWrite => Except StoreError Unit
  | .getData => Option T
  | _ => Unit

/-- A number in no name of the directory. -/
def unused (d : Directory Path T) : Nat := (d.names.map Path.id).foldr max 0 + 1

def effect (op : Op T) (extent : Extent) (s : State T) : State T :=
  match op, extent with
  | .file op, extent => { s with directory := op.effect extent s.directory }
  | .setData value, .after => { s with data := some value }
  | .begin value, .after => { s with writing := some value }
  | .acknowledge, .after => { s with writing := none, written := s.writing }
  | _, _ => s

def reply (op : Op T) (s : State T) : Reply T op :=
  match op with
  | .file op => op.reply s.directory
  | .randomUUID => unused s.directory
  | .afterWrite => .ok ()
  | .getData => s.data
  | .setData _ => ()
  | .begin _ => ()
  | .acknowledge => ()

def refuse (op : Op T) (code : Errno) : Reply T op :=
  match op with
  | .file op => op.refuse code
  | .randomUUID => 0
  | .afterWrite => .error .afterWrite
  | .getData => none
  | .setData _ => ()
  | .begin _ => ()
  | .acknowledge => ()

def infallible : Op T → Bool
  | .file _ => false
  | .afterWrite => false
  | _ => true

def device (T : Type) : Device (Op T) (Reply T) Errno (State T) where
  effect op fault := effect op fault.extent
  reply := reply
  refuse := refuse
  infallible := infallible

abbrev Store (T : Type) := Program (Op T) (Reply T) StoreError

section Operations

variable {D T : Type}

def orThrow : Except Errno α → Store T α
  | .ok value => .done value
  | .error code => .throw (.errno code)

def orRaise : Except StoreError α → Store T α
  | .ok value => .done value
  | .error error => .throw error

def mkdir : Store T Unit := .call (.file .mkdir) orThrow
def stat (path : Path) : Store T Nat := .call (.file (.stat path)) orThrow
def readFile (path : Path) : Store T (Content T) := .call (.file (.readFile path)) orThrow
def openFile (path : Path) : Store T Unit := .call (.file (.openFile path true)) orThrow
def reopen (path : Path) : Store T Unit := .call (.file (.reopen path)) orThrow
def writeFile (path : Path) (value : T) : Store T Unit := .call (.file (.writeFile path value)) orThrow
def sync (path : Path) : Store T Unit := .call (.file (.sync path)) orThrow
def close (path : Path) : Store T Unit := .call (.file (.close path)) orThrow
def rm (path : Path) : Store T Unit := .call (.file (.rm path)) orThrow
def rename (source target : Path) : Store T Unit := .call (.file (.rename source target)) orThrow
def copyFile (source target : Path) : Store T Unit := .call (.file (.copyFile source target)) orThrow
def readdir : Store T (Except Errno (List Path)) := .call (.file .readdir) .done
def randomUUID : Store T Nat := .call .randomUUID .done
def afterWrite : Store T Unit := .call .afterWrite orRaise
def getData : Store T (Option T) := .call .getData .done
def setData (value : T) : Store T Unit := .call (.setData value) .done
def begin_ (value : T) : Store T Unit := .call (.begin value) .done
def acknowledge : Store T Unit := .call .acknowledge .done

/-- `.catch(() => undefined)`. -/
def ignoringErrors (program : Store T Unit) : Store T Unit := program.catching fun _ => return

def onlyIf (condition : Bool) (program : Store T Unit) : Store T Unit :=
  if condition then program else return

/-- `#syncDirectory`. -/
def toleratedBySyncDirectory (code : Errno) : Bool :=
  code ∈ [Errno.EACCES, .EBADF, .EINVAL, .EISDIR, .ENOTSUP, .EPERM]

def syncDirectory : Store T Unit :=
  .call (.file .syncDirectory) fun
    | .ok () => .done ()
    | .error code => if toleratedBySyncDirectory code then .done () else .throw (.errno code)

def syncFile (path : Path) : Store T Unit := do
  reopen path
  Program.finally_ (sync path) (close path)

def writeSyncedFile (path : Path) (value : T) : Store T Unit := do
  openFile path
  Program.finally_ (do writeFile path value; sync path) (close path)

def invalidJson : StoreError := .corruption "A state or recovery file contains invalid JSON."

/-- `#decode`. What the store writes is a regular file within the limit that the schema accepts. -/
def decode (path : Path) : Store T (Decoded T) := do
  let modifiedAt ← stat path
  match ← readFile path with
  | .text value => return ⟨path, modifiedAt, value⟩
  | .torn => .throw invalidJson

/-- Whether the file is there, by the outcome of an operation that needs it. -/
def unlessMissing : Except StoreError α → Store T Bool
  | .ok _ => .done true
  | .error (.errno .ENOENT) => .done false
  | .error error => .throw error

/-- `left` comes before `right` in the order of recovery. -/
def Newer (left right : Decoded T) : Prop := right.modifiedAt ≤ left.modifiedAt

instance : DecidableRel (Newer (T := T)) := fun _ _ => inferInstanceAs (Decidable (_ ≤ _))

/-- The loop over the candidates: what does not decode is passed over. -/
def decodeAll : List Path → Store T (List (Decoded T))
  | [] => return []
  | path :: paths => do
    let first ← (decode path).attempt
    let rest ← decodeAll paths
    match first with
    | .ok decoded => return decoded :: rest
    | .error _ => return rest

/-- `RecoverySearch`. -/
structure RecoverySearch (T : Type) where
  candidate : Option (Decoded T)
  foundFiles : Bool
  deriving DecidableEq, Repr

def findRecoveryCandidate : Store T (RecoverySearch T) := do
  match ← readdir with
  | .error .ENOENT => return ⟨none, false⟩
  | .error code => .throw (.errno code)
  | .ok names => do
    let candidates := names.filter Path.isCandidate
    let valid ← decodeAll candidates
    return ⟨(valid.insertionSort Newer).head?, candidates ≠ []⟩

def preservationRefused : StoreError :=
  .corruption "The corrupt state could not be preserved, so automatic recovery was refused."

def restoreFailed : StoreError :=
  .corruption "A valid recovery copy was found, but it could not be restored."

def bothPreserved : StoreError :=
  .corruption ("Recovery failed, but both the quarantined original and the recovery candidate were " ++
    "preserved in application data.")

/-- The handler around the restoration. -/
def undoRestore (quarantine temporary : Path) (quarantined : Bool) : Store T α := do
  ignoringErrors (rm temporary)
  onlyIf quarantined (Program.catching (rename quarantine .live) fun _ => .throw bothPreserved)
  .throw restoreFailed

/-- The body of the `try` in `#restoreCandidate`. -/
def promote (source temporary : Path) : Store T T := do
  copyFile source temporary
  syncFile temporary
  let _ ← decode temporary
  rename temporary .live
  syncDirectory
  let decoded ← decode .live
  return decoded.value

def restoreCandidate (candidate : Decoded T) : Store T T := do
  let quarantine := Path.quarantine (← randomUUID)
  let quarantined ← (rename .live quarantine).resume fun
    | .ok () => .done true
    | .error (.errno .ENOENT) => .done false
    | .error _ => .throw preservationRefused
  let temporary := Path.temporary (← randomUUID)
  let restored ← Program.catching (promote candidate.filePath temporary) fun _ =>
    undoRestore quarantine temporary quarantined
  afterWrite
  return restored

def tooLarge (what : String) (maxBytes : Nat) : StoreError :=
  .corruption ("The " ++ what ++ " state exceeds the " ++ toString maxBytes ++ "-byte safety limit.")

/-- `#serializeAndValidate`, up to the text itself. -/
def serializeAndValidate (config : Config D T) (value : D) : Except StoreError T :=
  match config.stringify value with
  | none => .error (.corruption "The requested state cannot be serialized safely.")
  | some bytes =>
    if config.maxBytes < bytes then .error (tooLarge "requested" config.maxBytes)
    else
      match config.validate value with
      | none => .error (.corruption
          "The requested state does not match the required schema; the current state was not changed.")
      | some validated =>
        if config.maxBytes < config.size validated then .error (tooLarge "validated" config.maxBytes)
        else .ok validated

/-- The errors after which a rename is tried again over a displaced target. -/
def displaceable : StoreError → Bool
  | .errno .EEXIST => true
  | .errno .EPERM => true
  | _ => false

def putBackupBack (displaced : Path) (hadBackup : Bool) (error : StoreError) : Store T Unit := do
  onlyIf hadBackup (ignoringErrors (rename displaced .backup))
  .throw error

def displaceBackup (candidate displaced : Path) : Store T Unit := do
  let hadBackup ← (rename .backup displaced).resume unlessMissing
  Program.catching (rename candidate .backup) (putBackupBack displaced hadBackup)
  onlyIf hadBackup (ignoringErrors (rm displaced))
  syncDirectory

def refreshBackup : Store T Unit := do
  let candidate := Path.candidate (← randomUUID)
  copyFile .live candidate
  syncFile candidate
  let _ ← decode candidate
  Program.catching (do rename candidate .backup; syncDirectory) fun error =>
    if displaceable error then do
      let displaced := Path.displacedBackup (← randomUUID)
      displaceBackup candidate displaced
    else .throw error

def windowsRenameFailed : StoreError :=
  .corruption ("The Windows rename failed. Both the prior state and the new candidate remain " ++
    "recoverable in application data.")

def putLiveBack (displaced : Path) (error : StoreError) : Store T Unit := do
  Program.catching (rename displaced .live) fun _ => .throw windowsRenameFailed
  .throw error

def displaceLive (temporary displaced : Path) : Store T Unit := do
  rename .live displaced
  Program.catching (rename temporary .live) (putLiveBack displaced)
  ignoringErrors (rm displaced)
  syncDirectory

def replaceLiveFile (temporary : Path) (hasCurrent : Bool) : Store T Unit :=
  Program.catching (do rename temporary .live; syncDirectory) fun error =>
    if hasCurrent && displaceable error then do
      let displaced := Path.displaced (← randomUUID)
      displaceLive temporary displaced
    else .throw error

/-- The body of the `try` in `#write`. -/
def publish (temporary : Path) : Store T T := do
  let hasCurrent ← (decode .live).resume unlessMissing
  onlyIf hasCurrent refreshBackup
  replaceLiveFile temporary hasCurrent
  let committed ← decode .live
  afterWrite
  return committed.value

def writeValidated (value : T) : Store T T := do
  begin_ value
  let temporary := Path.temporary (← randomUUID)
  writeSyncedFile temporary value
  syncDirectory
  let committed ← Program.finally_ (publish temporary) (ignoringErrors (rm temporary))
  acknowledge
  return committed

def write (config : Config D T) (value : D) : Store T T := do
  let prepared ← orRaise (serializeAndValidate config value)
  writeValidated prepared

def noneValid : StoreError :=
  .corruption ("The primary state is missing and recovery files exist, but none are valid. Defaults " ++
    "were not written over the recovery evidence.")

def noRecoveryCopy : StoreError :=
  .corruption ("The state file is corrupt and no valid recovery copy exists. The original was left " ++
    "untouched in application data.")

/-- The handler of `#loadFromDisk`. -/
def recover (config : Config D T) : StoreError → Store T T
  | .errno .ENOENT => do
    let recovery ← findRecoveryCandidate
    match recovery.candidate with
    | some candidate => restoreCandidate candidate
    | none => if recovery.foundFiles then .throw noneValid else write config config.defaults
  | .corruption _ => do
    let recovery ← findRecoveryCandidate
    match recovery.candidate with
    | some candidate => restoreCandidate candidate
    | none => .throw noRecoveryCopy
  | error => .throw error

def loadFromDisk (config : Config D T) : Store T T := do
  mkdir
  (decode .live).resume fun
    | .ok decoded => .done decoded.value
    | .error error => recover config error

def load (config : Config D T) : Store T T := do
  match ← getData with
  | some data => return data
  | none => do
    let data ← loadFromDisk config
    setData data
    return data

/-- The operation that `update` appends to the queue. -/
def update (config : Config D T) (mutator : Mutator D T) : Store T T := do
  let current ← load config
  match mutator current with
  | .error reason => .throw (.mutator reason)
  | .ok draft => do
    let committed ← write config draft
    setData committed
    return committed

end Operations

end JsonStore
