import Mathlib.Data.List.Sort
import MaterialEmail.Library.Directory

/-! `AtomicJsonStore`: one JSON envelope behind three file slots and a lock. The
methods are programs over file operations, the lock and the `#data` field. A slot
holds a whole envelope or bytes that do not parse; the lock is coarse here, its
directory protocol is modelled in `Lock`. -/
namespace AtomicJsonStore

open Interrupted

/-- `StoredEnvelope`; `formatVersion` is the constant 1. -/
structure Envelope (T : Type) where
  generation : Nat
  payload : T
  deriving DecidableEq, Repr

/-- `AtomicStorePaths`. -/
inductive Slot where
  | current
  | next
  | backup
  deriving DecidableEq, Repr

/-- The third argument of `#readCandidate`. -/
def Slot.priority : Slot → Nat
  | .current => 3
  | .next => 2
  | .backup => 1

structure Candidate (T : Type) where
  path : Slot
  present : Bool
  envelope : Option (Envelope T)
  deriving DecidableEq, Repr

inductive StoreError where
  | persistence (message : String)
  | errno (code : Errno)
  | schema
  | mutator (reason : String)
  deriving DecidableEq, Repr

/-- The constructor arguments. `D` is what a mutator may leave behind, `T` what the schema
accepts; a value the schema accepts survives JSON. -/
structure Config (D T : Type) where
  fileName : String
  parse : D → Option T
  defaults : D

def Config.slotName (config : Config D T) : Slot → String
  | .current => config.fileName
  | .next => config.fileName ++ ".next"
  | .backup => config.fileName ++ ".backup"

structure MutationDecision (D R : Type) where
  changed : Bool
  draft : D
  result : R

/-- A mutator receives a clone of the payload and throws or decides. -/
abbrev Mutator (D T R : Type) := T → Except String (MutationDecision D R)

/-- The directory, the `#data` and `#generation` of the running instance, and whether the lock
directory names a live owner, which is then the operation that runs. -/
structure State (T : Type) where
  directory : Directory Slot (Envelope T)
  data : Option (Envelope T)
  locked : Bool
  deriving DecidableEq, Repr

inductive Op (T : Type) where
  | file (op : FileOp Slot (Envelope T))
  | acquireLock
  | assertLockOwnership
  | releaseLock
  | getData
  | setData (envelope : Envelope T)

abbrev Reply (T : Type) : Op T → Type
  | .file op => op.Reply
  | .getData => Option (Envelope T)
  | .setData _ => Unit
  | _ => Except StoreError Unit

def lockLost : StoreError :=
  .persistence "Exclusive ownership of the local PIM state lock was lost; no write was attempted."

def effect (op : Op T) (extent : Extent) (s : State T) : State T :=
  match op, extent with
  | .file op, extent => { s with directory := op.effect extent s.directory }
  | .acquireLock, .after => { s with locked := true }
  | .releaseLock, .after => { s with locked := false }
  | .setData envelope, .after => { s with data := some envelope }
  | _, _ => s

def reply (op : Op T) (s : State T) : Reply T op :=
  match op with
  | .file op => op.reply s.directory
  | .acquireLock =>
    if s.locked then
      .error (.persistence "The local PIM state remained locked for 5000ms; no changes were committed.")
    else .ok ()
  | .assertLockOwnership => if s.locked then .ok () else .error lockLost
  | .releaseLock => if s.locked then .ok () else .error lockLost
  | .getData => s.data
  | .setData _ => ()

def refuse (op : Op T) (code : Errno) : Reply T op :=
  match op with
  | .file op => op.refuse code
  | .acquireLock => .error (.persistence "The local PIM state lock could not be acquired.")
  | .assertLockOwnership => .error (.persistence "The local PIM state lock could not be inspected.")
  | .releaseLock => .error (.persistence "The local PIM state lock could not be released safely.")
  | .getData => none
  | .setData _ => ()

def infallible : Op T → Bool
  | .getData => true
  | .setData _ => true
  | _ => false

def Op.locks : Op T → Bool
  | .acquireLock => true
  | .releaseLock => true
  | _ => false

def device (T : Type) : Device (Op T) (Reply T) Errno (State T) where
  effect op fault := effect op fault.extent
  reply := reply
  refuse := refuse
  infallible := infallible

abbrev Store (T : Type) := Program (Op T) (Reply T) StoreError

section Operations

variable {D T R : Type}

def orThrow : Except Errno α → Store T α
  | .ok value => .done value
  | .error code => .throw (.errno code)

def orRaise : Except StoreError α → Store T α
  | .ok value => .done value
  | .error error => .throw error

def mkdir : Store T Unit := .call (.file .mkdir) orThrow
def openFile (slot : Slot) : Store T Unit := .call (.file (.openFile slot false)) orThrow
def writeFile (slot : Slot) (envelope : Envelope T) : Store T Unit :=
  .call (.file (.writeFile slot envelope)) orThrow
def sync (slot : Slot) : Store T Unit := .call (.file (.sync slot)) orThrow
def close (slot : Slot) : Store T Unit := .call (.file (.close slot)) orThrow
def rm (slot : Slot) : Store T Unit := .call (.file (.rm slot)) orThrow
def rename (source target : Slot) : Store T Unit := .call (.file (.rename source target)) orThrow
def exists_ (slot : Slot) : Store T Bool := .call (.file (.access slot)) .done
def assertLockOwnership : Store T Unit := .call .assertLockOwnership orRaise
def acquireLock : Store T Unit := .call .acquireLock orRaise
def releaseLock : Store T Unit := .call .releaseLock orRaise
def getData : Store T (Option (Envelope T)) := .call .getData .done
def setData (envelope : Envelope T) : Store T Unit := .call (.setData envelope) .done

/-- `#syncDirectory`: filesystems without directory fsync are tolerated. -/
def toleratedBySyncDirectory (code : Errno) : Bool :=
  code ∈ [Errno.EACCES, .EBADF, .EINVAL, .EISDIR, .ENOTSUP, .EPERM]

def syncDirectory : Store T Unit :=
  .call (.file .syncDirectory) fun
    | .ok () => .done ()
    | .error code => if toleratedBySyncDirectory code then .done () else .throw (.errno code)

def readCandidate (slot : Slot) : Store T (Candidate T) :=
  .call (.file (.readFile slot)) fun
    | .ok content => .done ⟨slot, true, content.value?⟩
    | .error .ENOENT => .done ⟨slot, false, none⟩
    | .error _ => .done ⟨slot, true, none⟩

def readCandidates : Store T (List (Candidate T)) := do
  let current ← readCandidate .current
  let next ← readCandidate .next
  let backup ← readCandidate .backup
  return [current, next, backup]

/-- The comparison by which `#selectCandidate` sorts: generation, then priority, descending. -/
def Precedes (left right : Slot × Envelope T) : Prop :=
  right.2.generation < left.2.generation ∨
    right.2.generation = left.2.generation ∧ right.1.priority ≤ left.1.priority

instance : DecidableRel (Precedes (T := T)) := fun _ _ => inferInstanceAs (Decidable (_ ∨ _))

def Candidate.valid? (candidate : Candidate T) : Option (Slot × Envelope T) :=
  candidate.envelope.map fun envelope => (candidate.path, envelope)

def selectCandidate (candidates : List (Candidate T)) : Option (Slot × Envelope T) :=
  ((candidates.filterMap Candidate.valid?).insertionSort Precedes).head?

variable [DecidableEq T]

def assertCompatibleWithCache (observed : Envelope T) : Store T Unit := do
  match ← getData with
  | none => return
  | some cached =>
    if observed.generation < cached.generation then
      .throw (.persistence ("The local PIM state generation moved backwards from " ++
        toString cached.generation ++ " to " ++ toString observed.generation ++
        "; refusing to overwrite newer cached state."))
    else if observed.generation = cached.generation ∧ observed.payload ≠ cached.payload then
      .throw (.persistence ("The local PIM state contains conflicting payloads for generation " ++
        toString observed.generation ++ "; refusing to choose one silently."))
    else return

def assertDiskMatches (expected : Envelope T) : Store T Unit := do
  match selectCandidate (← readCandidates) with
  | some (_, selected) =>
    if selected = expected then return
    else .throw (.persistence
      "The local PIM state changed while a mutation was in progress; the mutation was not committed.")
  | none => .throw (.persistence
      "The local PIM state changed while a mutation was in progress; the mutation was not committed.")

omit [DecidableEq T] in
/-- The handler around the second rename: put the old primary back if it was moved away. -/
def undoMove : Store T Unit := do
  if !(← exists_ .current) then
    if ← exists_ .backup then
      (rename .backup .current).catching fun _ => return
  .throw (.persistence "The local PIM state could not be committed atomically.")

omit [DecidableEq T] in
def commit (envelope : Envelope T) : Store T Unit := do
  assertLockOwnership
  mkdir
  openFile .next
  Program.finally_ (do writeFile .next envelope; sync .next) (close .next)
  syncDirectory
  assertLockOwnership
  rm .backup
  let hadCurrent ← exists_ .current
  if hadCurrent then rename .current .backup
  Program.catching (do rename .next .current; syncDirectory) fun _ => undoMove
  -- A stale lower-generation backup is harmless.
  Program.catching (do rm .backup; syncDirectory) fun _ => return

omit [DecidableEq T] in
/-- `Promise.all` of the two removals: both are tried, in either order. -/
def removeLeftovers (backupFirst : Bool) : Store T Unit := do
  let first ← (rm (if backupFirst then .backup else .next)).attempt
  let second ← (rm (if backupFirst then .next else .backup)).attempt
  orRaise first
  orRaise second

def parse (config : Config D T) (draft : D) : Store T T :=
  match config.parse draft with
  | some payload => .done payload
  | none => .throw .schema

def invalidMessage (config : Config D T) (invalid : List (Candidate T)) : String :=
  "The local PIM state is invalid in " ++
    ", ".intercalate (invalid.map fun candidate => config.slotName candidate.path) ++
    "; no valid crash-recovery copy is available."

def loadLatest (config : Config D T) (backupFirst : Bool) : Store T (Envelope T) := do
  assertLockOwnership
  mkdir
  let candidates ← readCandidates
  match selectCandidate candidates with
  | none =>
    let invalid := candidates.filter (·.present)
    if invalid ≠ [] then
      .throw (.persistence (invalidMessage config invalid))
    else if (← getData).isSome then
      .throw (.persistence
        "The local PIM state disappeared after it had been loaded; refusing to replace it with defaults.")
    else do
      let defaults ← parse config config.defaults
      commit ⟨0, defaults⟩
      setData ⟨0, defaults⟩
      return ⟨0, defaults⟩
  | some (path, envelope) =>
    assertCompatibleWithCache envelope
    if path ≠ .current then commit envelope
    else removeLeftovers backupFirst
    setData envelope
    return envelope

omit [DecidableEq T] in
/-- `#withExclusiveLock`: the error of the operation wins over that of the release. -/
def withExclusiveLock (operation : Store T α) : Store T α := do
  acquireLock
  let result ← operation.attempt
  let released ← releaseLock.attempt
  match result, released with
  | .error error, _ => .throw error
  | .ok _, .error error => .throw error
  | .ok value, .ok () => return value

/-- `read` and `generation` run this and project the envelope. -/
def load (config : Config D T) (backupFirst : Bool) : Store T (Envelope T) :=
  withExclusiveLock (loadLatest config backupFirst)

/-- What `mutate` does with the loaded state. -/
def update (config : Config D T) (mutator : Mutator D T R) (base : Envelope T) : Store T R := do
  match mutator base.payload with
  | .error reason => .throw (.mutator reason)
  | .ok decision =>
    if !decision.changed then return decision.result
    else do
      let validated ← parse config decision.draft
      assertDiskMatches base
      commit ⟨base.generation + 1, validated⟩
      setData ⟨base.generation + 1, validated⟩
      return decision.result

/-- The operation `mutate` runs under the lock. -/
def mutation (config : Config D T) (backupFirst : Bool) (mutator : Mutator D T R) : Store T R := do
  let base ← loadLatest config backupFirst
  update config mutator base

def mutate (config : Config D T) (backupFirst : Bool) (mutator : Mutator D T R) : Store T R :=
  withExclusiveLock (mutation config backupFirst mutator)

end Operations

end AtomicJsonStore
