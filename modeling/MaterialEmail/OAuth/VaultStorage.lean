import MaterialEmail.Library.Directory
import MaterialEmail.Library.JsDate
import MaterialEmail.OAuth.VaultDocument

/-! The file of the token vault. A document is written to a temporary that then takes the file's name; where that
is refused, the file is first moved aside. One operation runs after the other. -/
namespace OAuth.Vault

open JsString Interrupted

inductive Path where
  | file
  | previous
  | temporary (id : Nat)
  | other (id : Nat)
  deriving DecidableEq, Repr

def Path.id : Path → Nat
  | .temporary id => id
  | _ => 0

/-- The names that `#cleanupDebris` takes for its own. -/
def Path.isDebris : Path → Bool
  | .previous => true
  | .temporary _ => true
  | _ => false

abbrev Disk := Directory Path OAuthTokenVaultDocument

inductive Op where
  | file (op : FileOp Path OAuthTokenVaultDocument)
  | randomUUID
  | revoke (provider : Provider) (accessToken refreshToken : JsString)

abbrev Reply : Op → Type
  | .file op => op.Reply
  | .randomUUID => Nat
  | .revoke _ _ _ => Bool

/-- A number in no name of the directory. -/
def unused (d : Disk) : Nat := (d.names.map Path.id).foldr max 0 + 1

def device : Device Op Reply Errno Disk where
  effect op fault d :=
    match op with
    | .file op => op.effect fault.extent d
    | _ => d
  reply op d :=
    match op with
    | .file op => op.reply d
    | .randomUUID => unused d
    | .revoke _ _ _ => true
  refuse op code :=
    match op with
    | .file op => op.refuse code
    | .randomUUID => 0
    | .revoke _ _ _ => false
  infallible op :=
    match op with
    | .randomUUID => true
    | _ => false

inductive StorageError where
  | vault (code : OAuthTokenVaultErrorCode)
  | errno (code : Errno)
  | other
  deriving DecidableEq, Repr

abbrev Store := Program Op Reply StorageError

section Programs

def orThrow : Except Errno α → Store α
  | .ok value => .done value
  | .error code => .throw (.errno code)

def orRaise : Attempt α → Store α
  | .ok value => .done value
  | .error (.code code) => .throw (.vault code)
  | .error .other => .throw .other

def stop : Store α := .throw (.vault .storageFailed)

def mkdir : Store Unit := .call (.file .mkdir) orThrow
def readdir : Store (List Path) := .call (.file .readdir) orThrow
def stat (path : Path) : Store Nat := .call (.file (.stat path)) orThrow
def readFile (path : Path) : Store (Content OAuthTokenVaultDocument) := .call (.file (.readFile path)) orThrow
def openFile (path : Path) : Store Unit := .call (.file (.openFile path true)) orThrow
def writeFile (path : Path) (document : OAuthTokenVaultDocument) : Store Unit := .call (.file (.writeFile path document)) orThrow
def sync (path : Path) : Store Unit := .call (.file (.sync path)) orThrow
def close (path : Path) : Store Unit := .call (.file (.close path)) orThrow
def rm (path : Path) : Store Unit := .call (.file (.rm path)) orThrow
def rename (source target : Path) : Store Unit := .call (.file (.rename source target)) orThrow
def randomUUID : Store Nat := .call .randomUUID .done

/-- `.catch(() => undefined)`. -/
def ignoringErrors (program : Store Unit) : Store Unit := program.catching fun _ => return

/-- `error instanceof OAuthTokenVaultError ? error : new OAuthTokenVaultError("storage-failed")`. -/
def StorageError.asVault : StorageError → StorageError
  | .vault code => .vault code
  | _ => .vault .storageFailed

/-- `#syncDirectory`. -/
def syncDirectory : Store Unit :=
  .call (.file .syncDirectory) fun
    | .ok () => .done ()
    | .error code => if code ∈ [Errno.EACCES, .EBADF, .EINVAL, .EISDIR, .ENOTSUP, .EPERM] then .done () else stop

def removeAll : List Path → Store Unit
  | [] => return
  | path :: paths => do
    ignoringErrors (rm path)
    removeAll paths

/-- `#cleanupDebris`. -/
def cleanupDebris : Store Unit := do
  match ← readdir.attempt with
  | .ok names => removeAll (names.filter Path.isDebris)
  | .error _ => return

variable (host : Host)

/-- `#readCandidate`. -/
def readCandidate (path : Path) : Store OAuthTokenVaultDocument := do
  let _ ← stat path
  match ← readFile path with
  | .text document =>
    if fileLimit < host.byteLength document then stop
    else orRaise (checked (parseDocument host document))
  | .torn => stop

/-- The recovery of `#readDocument`. -/
def recoverPrevious : Store OAuthTokenVaultDocument := do
  let recovered ← readCandidate host .previous
  rename .previous .file
  syncDirectory
  cleanupDebris
  return recovered

/-- What a `catch` of `#readDocument` does with the outcome: it goes on if a file was missing. -/
def unlessMissing (outcome : Except StorageError OAuthTokenVaultDocument) (otherwise : Store OAuthTokenVaultDocument) :
    Store OAuthTokenVaultDocument :=
  match outcome with
  | .ok document => return document
  | .error (.errno .ENOENT) => otherwise
  | .error error => .throw error.asVault

/-- The file as it stands. -/
def readCurrent : Store OAuthTokenVaultDocument := do
  let document ← readCandidate host .file
  cleanupDebris
  return document

def readDocument : Store OAuthTokenVaultDocument := do
  mkdir
  let current ← (readCurrent host).attempt
  unlessMissing current do
    let recovered ← (recoverPrevious host).attempt
    unlessMissing recovered do
      cleanupDebris
      return emptyDocument

/-- The temporary of `#writeDocument`, written and on the medium. -/
def writeTemporary (path : Path) (document : OAuthTokenVaultDocument) : Store Unit := do
  (openFile path).catching fun _ => stop
  Program.finally_
    (Program.catching (do writeFile path document; sync path) fun _ => stop)
    (ignoringErrors (close path))

/-- The temporary takes the name of the file, and is read back. -/
def publish (temporary : Path) : Store Unit := do
  rename temporary .file
  syncDirectory
  let _ ← readCandidate host .file

/-- What `#writeDocument` does where a file that exists cannot be replaced. -/
def replaceDisplaced (temporary : Path) : Store Unit := do
  ignoringErrors (rm .previous)
  Program.finally_
    (Program.catching
      (do
        rename .file .previous
        (publish host temporary).catching fun _ => do
          ignoringErrors (rm .file)
          ignoringErrors (rename .previous .file)
          stop
        rm .previous
        syncDirectory)
      fun error => .throw error.asVault)
    (ignoringErrors (rm temporary))

def writeDocument (document : OAuthTokenVaultDocument) : Store Unit := do
  let validated ← orRaise (checked (parseDocument host document))
  if fileLimit < host.byteLength validated then stop
  else
    let id ← randomUUID
    let temporary := Path.temporary id
    writeTemporary temporary validated
    match ← (publish host temporary).attempt with
    | .ok () => return
    | .error (.errno .EEXIST) | .error (.errno .EPERM) => replaceDisplaced host temporary
    | .error error => do
      ignoringErrors (rm temporary)
      .throw error.asVault

/-- The body that most operations hand to the queue. -/
def withDocument (change : Change) : Store Unit := do
  let document ← readDocument host
  match ← orRaise (change document) with
  | some next => writeDocument host next
  | none => return

variable (surroundings : Surroundings)

def status : Store Unit := (do let _ ← readDocument host : Store Unit).catching fun _ => return

def saveInitial (provider : Provider) (accountKey : JsString) (material : OAuthTokenMaterial) : Store Unit := do
  let accountKey ← orRaise (checked (requireAccountKey accountKey))
  orRaise (checked (requireRegistration surroundings provider))
  orRaise (checked (requireProtection surroundings))
  let material ← orRaise (checked (ofCheck (validateMaterial material)))
  withDocument host (saveInitialChange host surroundings provider accountKey material)

def rotate (provider : Provider) (accountKey : JsString) (rotation : OAuthTokenRotation) : Store Unit := do
  let accountKey ← orRaise (checked (requireAccountKey accountKey))
  orRaise (checked (requireRegistration surroundings provider))
  orRaise (checked (requireProtection surroundings))
  let rotation ← orRaise (checked (ofCheck (validateRotation rotation)))
  withDocument host (rotateChange host surroundings provider accountKey rotation)

/-- The tokens of one account, in plain text. -/
structure PlainRecord where
  accessToken : JsString
  refreshToken : JsString
  expiresAt : JsString
  scopes : List JsString

def read (provider : Provider) (accountKey : JsString) : Store (Option PlainRecord) := do
  let accountKey ← orRaise (checked (requireAccountKey accountKey))
  orRaise (checked (requireProtection surroundings))
  let document ← readDocument host
  match document.records.find? (fun record => record.key = (provider, accountKey)) with
  | none => return none
  | some record => do
    let accessToken ← orRaise (checked (unprotect surroundings record.accessTokenCiphertext))
    let refreshToken ← orRaise (checked (unprotect surroundings record.refreshTokenCiphertext))
    return some ⟨accessToken, refreshToken, record.expiresAt, record.scopes⟩

def forgetAccount (provider : Provider) (accountKey : JsString) : Store Unit := do
  let accountKey ← orRaise (checked (requireAccountKey accountKey))
  withDocument host (forgetAccountChange provider accountKey)

def clear (provider : Provider) : Store Unit := withDocument host (clearChange provider)

/-- The tokens of the records are revoked one after the other, whatever becomes of it. -/
def revokeAll (provider : Provider) : List StoredOAuthTokenRecord → Store Unit
  | [] => return
  | record :: records => do
    (do
      let accessToken ← orRaise (checked (unprotect surroundings record.accessTokenCiphertext))
      let refreshToken ← orRaise (checked (unprotect surroundings record.refreshTokenCiphertext))
      let _ ← (.call (.revoke provider accessToken refreshToken) .done : Store Bool) : Store Unit).catching fun _ => return
    revokeAll provider records

def revokeAndClear (provider : Provider) : Store Unit := do
  let document ← readDocument host
  let records := document.records.filter fun record => record.provider = provider
  if !records.isEmpty && surroundings.registered provider && surroundings.hasRevoker provider && surroundings.available then
    revokeAll surroundings provider records
  match clearChange provider document with
  | .ok (some next) => writeDocument host next
  | _ => return

def Operation.program : Operation → Store Unit
  | .status => Vault.status host
  | .saveInitial provider accountKey material => Vault.saveInitial host surroundings provider accountKey material
  | .rotate provider accountKey rotation => Vault.rotate host surroundings provider accountKey rotation
  | .read provider accountKey => do let _ ← Vault.read host surroundings provider accountKey
  | .forgetAccount provider accountKey => Vault.forgetAccount host provider accountKey
  | .clear provider => Vault.clear host provider
  | .revokeAndClear provider => Vault.revokeAndClear host surroundings provider

end Programs

section Durability

variable {host : Host} {document before after : OAuthTokenVaultDocument} {d d' : Disk} {path : Path} {faulty : Prop}

/-- A document that reading accepts. -/
structure Accepted (host : Host) (document : OAuthTokenVaultDocument) : Prop where
  parsed : parseDocument host document = .ok document
  fits : host.byteLength document ≤ fileLimit

/-- The document is in the file, or in the one that was moved aside if there is no file, or there is neither
and it is the empty one. -/
inductive Stored (host : Host) (document : OAuthTokenVaultDocument) (d : Disk) : Prop where
  | file (content : d.content .file = some (.text document)) (accepted : Accepted host document)
  | previous (missing : d.content .file = none) (content : d.content .previous = some (.text document))
      (accepted : Accepted host document)
  | empty (missing : d.content .file = none) (none : d.content .previous = none) (isEmpty : document = emptyDocument)

/-- There is nothing to recover. -/
inductive Settled (host : Host) (document : OAuthTokenVaultDocument) (d : Disk) : Prop where
  | file (content : d.content .file = some (.text document)) (accepted : Accepted host document)
  | empty (missing : d.content .file = none) (none : d.content .previous = none) (isEmpty : document = emptyDocument)

theorem Settled.stored (settled : Settled host document d) : Stored host document d := by
  cases settled with
  | file content accepted => exact .file content accepted
  | empty missing none isEmpty => exact .empty missing none isEmpty

/-- The files that a document is looked for in are as they were. -/
structure Aside (d d' : Disk) : Prop where
  file : d'.content .file = d.content .file
  previous : d'.content .previous = d.content .previous

theorem Aside.refl (d : Disk) : Aside d d := ⟨rfl, rfl⟩

theorem Aside.trans {d'' : Disk} (first : Aside d d') (second : Aside d' d'') : Aside d d'' :=
  ⟨second.file.trans first.file, second.previous.trans first.previous⟩

theorem Stored.aside (stored : Stored host document d) (aside : Aside d d') : Stored host document d' := by
  cases stored with
  | file content accepted => exact .file (aside.file.trans content) accepted
  | previous missing content accepted => exact .previous (aside.file.trans missing) (aside.previous.trans content) accepted
  | empty missing none isEmpty => exact .empty (aside.file.trans missing) (aside.previous.trans none) isEmpty

theorem Settled.aside (settled : Settled host document d) (aside : Aside d d') : Settled host document d' := by
  cases settled with
  | file content accepted => exact .file (aside.file.trans content) accepted
  | empty missing none isEmpty => exact .empty (aside.file.trans missing) (aside.previous.trans none) isEmpty

/-- With the file in place, or with nothing moved aside, what was moved aside may go. -/
theorem Settled.cleaned (settled : Settled host document d) (file : d'.content .file = d.content .file)
    (previous : d'.content .previous = d.content .previous ∨ d'.content .previous = none) : Settled host document d' := by
  cases settled with
  | file content accepted => exact .file (file.trans content) accepted
  | empty missing none isEmpty =>
    refine .empty (file.trans missing) ?_ isEmpty
    rcases previous with same | gone
    · exact same.trans none
    · exact gone

theorem effect_content (op : FileOp Path OAuthTokenVaultDocument) (extent : Extent) (untouched : ¬ op.touches path) :
    (op.effect extent d).content path = d.content path := by
  rw [Directory.content, Directory.content, FileOp.effect_get op extent d untouched]

theorem effect_aside (op : FileOp Path OAuthTokenVaultDocument) (extent : Extent) (file : ¬ op.touches .file)
    (previous : ¬ op.touches .previous) : Aside d (op.effect extent d) :=
  ⟨effect_content op extent file, effect_content op extent previous⟩

/-- No operation that fails for another reason says that its file is missing. Whether operations fail at all
is `faulty`. -/
def honest (faulty : Prop) (_ : Op) (fault : Fault Errno) (_ : Disk) : Prop :=
  match fault with
  | .fail code _ => code ≠ .ENOENT ∧ faulty
  | _ => True

section Rules

variable {crash : Disk → Prop}

theorem file_wp {op : FileOp Path OAuthTokenVaultDocument} {next : op.Reply → Store α} {post : Except StorageError α → Disk → Prop}
    (goes : wp device (honest faulty) crash (next (op.reply d)) post (op.effect .after d))
    (fails : ∀ code extent, code ≠ .ENOENT ∧ faulty → wp device (honest faulty) crash (next (op.refuse code)) post (op.effect extent d))
    (crashes : ∀ extent, crash (op.effect extent d)) : wp device (honest faulty) crash (.call (.file op) next) post d :=
  ⟨fun _ => goes, fun code extent _ isHonest => fails code extent isHonest, fun extent _ => crashes extent⟩

theorem look_wp {op : FileOp Path OAuthTokenVaultDocument} {next : op.Reply → Store α} {post : Except StorageError α → Disk → Prop}
    (looks : ∀ extent, op.effect extent d = d) (goes : wp device (honest faulty) crash (next (op.reply d)) post d)
    (fails : ∀ code, code ≠ .ENOENT ∧ faulty → wp device (honest faulty) crash (next (op.refuse code)) post d) (crashes : crash d) :
    wp device (honest faulty) crash (.call (.file op) next) post d := by
  refine file_wp ?_ (fun code extent isHonest => ?_) fun extent => ?_
  · rw [looks]
    exact goes
  · rw [looks]
    exact fails code isHonest
  · rw [looks]
    exact crashes

theorem orThrow_wp {reply : Except Errno α} {inv : Disk → Prop} (holds : inv d) :
    wp device (honest faulty) crash (orThrow reply) (fun _ => inv) d := by
  cases reply <;> exact holds

theorem ignoring_wp {program : Store Unit} {inv : Disk → Prop} (keeps : wp device (honest faulty) crash program (fun _ => inv) d) :
    wp device (honest faulty) crash (ignoringErrors program) (either (fun _ => inv) fun _ _ => False) d := by
  rw [ignoringErrors, wp_catching]
  refine wp_mono keeps (fun result d' holds => ?_) fun _ => id
  cases result <;> exact holds

theorem ignoring_rm (inv : Disk → Prop) (effect : ∀ extent, inv ((FileOp.rm path).effect extent d))
    (crashes : ∀ d', inv d' → crash d') :
    wp device (honest faulty) crash (ignoringErrors (rm path)) (either (fun _ => inv) fun _ _ => False) d :=
  ignoring_wp (file_wp (orThrow_wp (effect .after)) (fun _ extent _ => orThrow_wp (effect extent))
    fun extent => crashes _ (effect extent))

theorem ignoring_rename {source target : Path} {inv : Disk → Prop}
    (effect : ∀ extent, inv ((FileOp.rename source target).effect extent d)) (crashes : ∀ d', inv d' → crash d') :
    wp device (honest faulty) crash (ignoringErrors (rename source target)) (either (fun _ => inv) fun _ _ => False) d :=
  ignoring_wp (file_wp (orThrow_wp (effect .after)) (fun _ extent _ => orThrow_wp (effect extent))
    fun extent => crashes _ (effect extent))

theorem syncDirectory_wp {post : Except StorageError Unit → Disk → Prop} (ok : post (.ok ()) d)
    (error : faulty → post (.error (.vault .storageFailed)) d) (crashes : crash d) :
    wp device (honest faulty) crash syncDirectory post d := by
  refine look_wp (fun extent => by cases extent <;> rfl) ok (fun code isHonest => ?_) crashes
  simp only [FileOp.refuse]
  split
  · exact ok
  · exact error isHonest.2

end Rules

section Cleaning

/-- Nothing but debris has gone. -/
structure Swept (d d' : Disk) : Prop where
  file : d'.content .file = d.content .file
  previous : d'.content .previous = d.content .previous ∨ d'.content .previous = none

theorem Swept.rm {extent : Extent} (swept : Swept d d') (isDebris : path.isDebris = true) :
    Swept d ((FileOp.rm path).effect extent d') := by
  cases extent with
  | before => exact swept
  | partway => exact swept
  | after =>
    have isOther : Path.file ≠ path := by
      rintro rfl
      cases isDebris
    constructor
    · exact (Directory.content_remove d' path .file).trans ((if_neg isOther).trans swept.file)
    · by_cases isPrevious : Path.previous = path
      · exact Or.inr ((Directory.content_remove d' path .previous).trans (if_pos isPrevious))
      · have same : (d'.remove path).content .previous = d'.content .previous :=
          (Directory.content_remove d' path .previous).trans (if_neg isPrevious)
        exact swept.previous.imp same.trans same.trans

theorem removeAll_wp {paths : List Path} (debris : ∀ path ∈ paths, path.isDebris = true) (swept : Swept d d') :
    wp device (honest faulty) (Swept d) (removeAll paths) (either (fun _ => Swept d) fun _ _ => False) d' := by
  induction paths generalizing d' with
  | nil => exact swept
  | cons path paths ih =>
    refine wp_seq (wp_mono (ignoring_rm _ (fun _ => swept.rm (debris path List.mem_cons_self)) fun _ => id)
      (fun result d'' ends => ?_) fun _ => id)
    cases result with
    | ok value => exact ih (fun path member => debris path (List.mem_cons_of_mem _ member)) ends
    | error error => exact ends.elim

theorem cleanupDebris_wp :
    wp device (honest faulty) (Swept d) cleanupDebris (either (fun _ => Swept d) fun _ _ => False) d := by
  have still : Swept d d := ⟨rfl, Or.inl rfl⟩
  refine wp_seq ?_
  rw [wp_attempt]
  refine look_wp (fun extent => by cases extent <;> rfl) ?_ (fun _ _ => still) still
  exact removeAll_wp (fun path member => (List.mem_filter.1 member).2) still

end Cleaning

section Reading

variable {crash : Disk → Prop} {post : Except StorageError OAuthTokenVaultDocument → Disk → Prop}

theorem get_of_content {content : Content OAuthTokenVaultDocument} (found : d.content path = some content) :
    ∃ file, d.get path = some file := by
  obtain ⟨file, isThere, -⟩ := Option.map_eq_some_iff.1 found
  exact ⟨file, isThere⟩

theorem readCandidate_wp (content : d.content path = some (.text document)) (accepted : Accepted host document)
    (ok : post (.ok document) d) (error : ∀ error, error ≠ .errno .ENOENT → faulty → post (.error error) d) (crashes : crash d) :
    wp device (honest faulty) crash (readCandidate host path) post d := by
  obtain ⟨file, isThere⟩ := get_of_content content
  have fits : ¬ fileLimit < host.byteLength document := Nat.not_lt.2 accepted.fits
  have refused (code : Errno) (isHonest : code ≠ .ENOENT ∧ faulty) : post (.error (.errno code)) d :=
    error _ (fun same => isHonest.1 (StorageError.errno.inj same)) isHonest.2
  refine wp_seq (look_wp (fun extent => by cases extent <;> rfl) ?_ refused crashes)
  simp only [FileOp.reply, isThere, Option.map_some, FileOp.found, orThrow, wp_done, either_ok]
  refine wp_seq (look_wp (fun extent => by cases extent <;> rfl) ?_ refused crashes)
  simp only [FileOp.reply, content, FileOp.found, orThrow, wp_done, either_ok, fits, if_false, accepted.parsed, checked, orRaise]
  exact ok

theorem readCandidate_missing (missing : d.content path = none)
    (error : ∀ error, (error ≠ .errno .ENOENT → faulty) → post (.error error) d) (crashes : crash d) :
    wp device (honest faulty) crash (readCandidate host path) post d := by
  refine wp_seq (look_wp (fun extent => by cases extent <;> rfl) ?_ (fun code isHonest => error (.errno code) fun _ => isHonest.2) crashes)
  rw [Directory.content_eq_none] at missing
  simp only [FileOp.reply, missing, Option.map_none, FileOp.found, orThrow, wp_throw, either_error]
  exact error _ fun isOther => absurd rfl isOther

theorem unlessMissing_wp {outcome : Except StorageError OAuthTokenVaultDocument} {otherwise : Store OAuthTokenVaultDocument}
    (ok : ∀ document, outcome = .ok document → post (.ok document) d)
    (error : ∀ error thrown, outcome = .error error → error ≠ .errno .ENOENT → post (.error thrown) d)
    (missing : outcome = .error (.errno .ENOENT) → wp device (honest faulty) crash otherwise post d) :
    wp device (honest faulty) crash (unlessMissing outcome otherwise) post d := by
  unfold unlessMissing
  split
  · exact ok _ rfl
  · exact missing rfl
  · rename_i isOther
    exact error _ _ rfl isOther

/-- The document and no more is read while there is a file. -/
theorem readCurrent_wp (content : d.content .file = some (.text document)) (accepted : Accepted host document) :
    wp device (honest faulty) (Stored host document) (readCurrent host)
      (either (fun value d' => value = document ∧ Settled host document d')
        (fun error d' => error ≠ .errno .ENOENT ∧ faulty ∧ Stored host document d')) d := by
  have settled : Settled host document d := .file content accepted
  refine wp_seq (readCandidate_wp content accepted ?_ (fun error isOther fails => ⟨isOther, fails, settled.stored⟩) settled.stored)
  refine wp_seq (wp_mono cleanupDebris_wp (fun result d' ends => ?_) fun d' swept => ?_)
  · cases result with
    | ok value => exact ⟨rfl, settled.cleaned ends.file ends.previous⟩
    | error error => exact ends.elim
  · exact (settled.cleaned swept.file swept.previous).stored

theorem move_previous (content : d.content .previous = some (.text document)) :
    (d.move .previous .file).content .file = some (.text document) := by
  rw [Directory.content_move _ _ _ _ (by rw [content]; simp), if_pos rfl, content]

theorem recoverPrevious_wp (missing : d.content .file = none) (content : d.content .previous = some (.text document))
    (accepted : Accepted host document) :
    wp device (honest faulty) (Stored host document) (recoverPrevious host)
      (either (fun value d' => value = document ∧ Settled host document d')
        (fun error d' => error ≠ .errno .ENOENT ∧ faulty ∧ Stored host document d')) d := by
  have stored : Stored host document d := .previous missing content accepted
  have settled : Settled host document (d.move .previous .file) := .file (move_previous content) accepted
  obtain ⟨file, isThere⟩ := get_of_content content
  have renamed (extent : Extent) :
      Stored host document ((FileOp.rename Path.previous Path.file : FileOp Path OAuthTokenVaultDocument).effect extent d) := by
    cases extent with
    | before => exact stored
    | partway => exact stored
    | after => exact settled.stored
  refine wp_seq (readCandidate_wp content accepted ?_ (fun error isOther fails => ⟨isOther, fails, stored⟩) stored)
  refine wp_seq (file_wp ?_ (fun code extent isHonest => ?_) renamed)
  · simp only [FileOp.reply, isThere, Option.map_some, FileOp.found, orThrow, wp_done, either_ok]
    refine wp_seq (syncDirectory_wp ?_ (fun fails => ⟨by simp, fails, settled.stored⟩) settled.stored)
    refine wp_seq (wp_mono cleanupDebris_wp (fun result d' ends => ?_) fun d' swept => ?_)
    · cases result with
      | ok value => exact ⟨rfl, settled.cleaned ends.file ends.previous⟩
      | error error => exact ends.elim
    · exact (settled.cleaned swept.file swept.previous).stored
  · exact ⟨fun same => isHonest.1 (StorageError.errno.inj same), isHonest.2, renamed extent⟩

theorem recoverPrevious_missing (settled : Settled host document d) (none : d.content .previous = none) :
    wp device (honest faulty) (Stored host document) (recoverPrevious host)
      (either (fun _ _ => False) (fun error d' => (error ≠ .errno .ENOENT → faulty) ∧ Settled host document d')) d :=
  wp_seq (readCandidate_missing none (fun _ fails => ⟨fails, settled⟩) settled.stored)

theorem mkdir_wp (stored : Stored host document d) {next : Store α} {post : Except StorageError α → Disk → Prop}
    (goes : wp device (honest faulty) (Stored host document) next post d)
    (fails : ∀ error, faulty → post (.error error) d) :
    wp device (honest faulty) (Stored host document) (mkdir >>= fun _ => next) post d :=
  wp_seq (look_wp (fun extent => by cases extent <;> rfl) goes (fun code isHonest => fails (.errno code) isHonest.2) stored)

theorem found_wp {otherwise : Store OAuthTokenVaultDocument} {outcome : Except StorageError OAuthTokenVaultDocument}
    (ends : either (fun value d' => value = document ∧ Settled host document d')
      (fun error d' => error ≠ .errno .ENOENT ∧ faulty ∧ Stored host document d') outcome d) :
    wp device (honest faulty) (Stored host document) (unlessMissing outcome otherwise)
      (either (fun value d' => value = document ∧ Settled host document d') (fun _ d' => faulty ∧ Stored host document d')) d := by
  cases outcome with
  | ok value => exact ends
  | error error =>
    refine unlessMissing_wp (fun _ same => nomatch same) (fun _ _ _ _ => ends.2) fun same => ?_
    exact absurd (Except.error.inj same) ends.1

/-- Reading finds the document, and settles where it is. -/
theorem readDocument_wp (stored : Stored host document d) :
    wp device (honest faulty) (Stored host document) (readDocument host)
      (either (fun value d' => value = document ∧ Settled host document d') (fun _ d' => faulty ∧ Stored host document d')) d := by
  refine mkdir_wp stored (wp_seq ?_) fun _ fails => ⟨fails, stored⟩
  rw [wp_attempt]
  cases stored with
  | file content accepted => exact wp_mono (readCurrent_wp content accepted) (fun _ _ => found_wp) fun _ => id
  | previous missing content accepted =>
    have stored : Stored host document d := .previous missing content accepted
    refine wp_seq (readCandidate_missing missing (fun error fails => ?_) stored)
    refine unlessMissing_wp (fun _ same => nomatch same) (fun _ _ same isOther => ?_) fun _ => wp_seq ?_
    · cases same
      exact ⟨fails isOther, stored⟩
    rw [wp_attempt]
    exact wp_mono (recoverPrevious_wp missing content accepted) (fun _ _ => found_wp) fun _ => id
  | empty missing none isEmpty =>
    have settled : Settled host document d := .empty missing none isEmpty
    refine wp_seq (readCandidate_missing missing (fun error fails => ?_) settled.stored)
    refine unlessMissing_wp (fun _ same => nomatch same) (fun _ _ same isOther => ?_) fun _ => wp_seq ?_
    · cases same
      exact ⟨fails isOther, settled.stored⟩
    rw [wp_attempt]
    refine wp_mono (recoverPrevious_missing settled none) (fun result d' ends => ?_) fun _ => id
    cases result with
    | ok value => exact ends.elim
    | error error =>
      obtain ⟨fails, settled⟩ := ends
      refine unlessMissing_wp (fun _ same => nomatch same) (fun _ _ same isOther => ?_) fun _ => ?_
      · cases same
        exact ⟨fails isOther, settled.stored⟩
      refine wp_seq (wp_mono cleanupDebris_wp (fun result d'' swept => ?_) fun d'' swept => ?_)
      · cases result with
        | ok value => exact ⟨isEmpty.symm, settled.cleaned swept.file swept.previous⟩
        | error error => exact swept.elim
      · exact (settled.cleaned swept.file swept.previous).stored

end Reading

section Writing

variable {crash : Disk → Prop} {uuid : Nat}

/-- What a write may leave: the document before it or the one it writes. -/
def Left (host : Host) (before after : OAuthTokenVaultDocument) (d : Disk) : Prop := Stored host before d ∨ Stored host after d

/-- A temporary that is whole, or has stopped the write. -/
theorem writeTemporary_wp :
    wp device (honest faulty) (Aside d) (writeTemporary (.temporary uuid) document)
      (either (fun _ d' => Aside d d' ∧ d'.content (.temporary uuid) = some (.text document)) (fun _ => Aside d)) d := by
  have step {d' : Disk} (aside : Aside d d') (op : FileOp Path OAuthTokenVaultDocument) (extent : Extent)
      (file : ¬ op.touches .file) (previous : ¬ op.touches .previous) : Aside d (op.effect extent d') :=
    aside.trans (effect_aside op extent file previous)
  have opens (extent : Extent) : Aside d ((FileOp.openFile (.temporary uuid) true).effect extent d) :=
    step (.refl d) _ extent (by simp [FileOp.touches]) (by simp [FileOp.touches])
  refine wp_seq ?_
  rw [wp_catching]
  refine file_wp ?_ (fun code extent _ => opens extent) opens
  generalize opened : (FileOp.openFile (Path.temporary uuid) true : FileOp Path OAuthTokenVaultDocument).effect .after d = d₁
  have aside₁ : Aside d d₁ := opened ▸ opens .after
  cases (FileOp.openFile (Path.temporary uuid) true : FileOp Path OAuthTokenVaultDocument).reply d with
  | error code => exact aside₁
  | ok value =>
    rw [orThrow, wp_done, either_ok, either_ok, wp_finally, wp_catching]
    have writes (extent : Extent) : Aside d ((FileOp.writeFile (.temporary uuid) document).effect extent d₁) :=
      step aside₁ _ extent (by simp [FileOp.touches]) (by simp [FileOp.touches])
    -- However the handle is closed, what was written stays.
    have closes {d' : Disk} (outcome : Except StorageError Unit) (aside : Aside d d')
        (whole : outcome = .ok () → d'.content (.temporary uuid) = some (.text document)) :
        wp device (honest faulty) (Aside d) (ignoringErrors (close (.temporary uuid)))
          (either (fun _ d'' => either (fun _ d' => Aside d d' ∧ d'.content (.temporary uuid) = some (.text document))
            (fun _ => Aside d) outcome d'') (fun error d'' => Aside d d'')) d' := by
      have kept : either (fun _ d' => Aside d d' ∧ d'.content (.temporary uuid) = some (.text document)) (fun _ => Aside d) outcome d' := by
        cases outcome with
        | ok value => exact ⟨aside, whole rfl⟩
        | error error => exact aside
      rw [ignoringErrors, wp_catching]
      exact look_wp (fun extent => by cases extent <;> rfl) kept (fun _ _ => kept) aside
    refine wp_seq (file_wp ?_ (fun code extent _ => closes _ (writes extent) fun same => by cases same) writes)
    have syncs (extent : Extent) : Aside d ((FileOp.sync (.temporary uuid)).effect extent (d₁.store (.temporary uuid) (.text document))) :=
      step (writes .after) _ extent (by simp [FileOp.touches]) (by simp [FileOp.touches])
    refine file_wp ?_ (fun code extent _ => closes _ (syncs extent) fun same => by cases same) syncs
    refine closes _ (writes .after) fun _ => ?_
    exact (Directory.content_store d₁ _ _ _).trans (if_pos rfl)

/-- The temporary has become the file. -/
structure Published (uuid : Nat) (d : Disk) (document : OAuthTokenVaultDocument) (d' : Disk) : Prop where
  file : d'.content .file = some (.text document)
  previous : d'.content .previous = d.content .previous
  gone : d'.content (.temporary uuid) = none

/-- The temporary is whole, or has become the file before. -/
def Written (uuid : Nat) (document : OAuthTokenVaultDocument) (d : Disk) : Prop :=
  d.content (.temporary uuid) = some (.text document) ∨ d.content (.temporary uuid) = none

theorem move_missing {target : Path} (missing : d.content path = none) : d.move path target = d := by
  rw [Directory.content_eq_none] at missing
  rw [Directory.move, missing]

theorem published_move (whole : d.content (.temporary uuid) = some (.text after)) :
    Published uuid d after (d.move (.temporary uuid) .file) := by
  have present : d.content (.temporary uuid) ≠ none := by simp [whole]
  refine ⟨?_, ?_, ?_⟩
  · exact (Directory.content_move d _ _ _ present).trans ((if_pos rfl).trans whole)
  · exact (Directory.content_move d _ _ _ present).trans (by simp)
  · exact (Directory.content_move d _ _ _ present).trans (by simp)

theorem publish_wp (written : Written uuid after d) (accepted : Accepted host after) :
    wp device (honest faulty) (fun d' => d' = d ∨ Published uuid d after d') (publish host (.temporary uuid))
      (either (fun _ => Published uuid d after) (fun _ d' => d' = d ∨ Published uuid d after d')) d := by
  have moved (extent : Extent) : (FileOp.rename (.temporary uuid) .file).effect extent d = d ∨
      Published uuid d after ((FileOp.rename (.temporary uuid) .file).effect extent d) := by
    cases extent with
    | before => exact Or.inl rfl
    | partway => exact Or.inl rfl
    | after =>
      rcases written with whole | missing
      · exact Or.inr (published_move whole)
      · exact Or.inl (move_missing missing)
  refine wp_seq (file_wp ?_ (fun _ extent _ => moved extent) moved)
  rcases written with whole | missing
  · obtain ⟨file, isThere⟩ := get_of_content whole
    have published := published_move whole
    simp only [FileOp.reply, isThere, Option.map_some, FileOp.found, orThrow, wp_done, either_ok]
    refine wp_seq (syncDirectory_wp ?_ (fun _ => Or.inr published) (Or.inr published))
    refine wp_seq (readCandidate_wp published.file accepted ?_ (fun _ _ _ => Or.inr published) (Or.inr published))
    exact published
  · have gone := missing
    rw [Directory.content_eq_none] at gone
    simp only [FileOp.reply, gone, Option.map_none, FileOp.found, orThrow, wp_throw, either_error]
    exact moved .after

/-- The file has been moved aside, and the new one may be in its place. -/
inductive Displaced (before after : OAuthTokenVaultDocument) (d : Disk) : Prop where
  | aside (missing : d.content .file = none) (previous : d.content .previous = some (.text before))
  | replaced (file : d.content .file = some (.text after)) (previous : d.content .previous = some (.text before))

theorem Displaced.left (displaced : Displaced before after d) (acceptedBefore : Accepted host before)
    (acceptedAfter : Accepted host after) : Left host before after d := by
  cases displaced with
  | aside missing previous => exact Or.inl (.previous missing previous acceptedBefore)
  | replaced file previous => exact Or.inr (.file file acceptedAfter)

theorem Displaced.rm (displaced : Displaced before after d) (extent : Extent) :
    Displaced before after ((FileOp.rm Path.file).effect extent d) := by
  cases extent with
  | before => exact displaced
  | partway => exact displaced
  | after =>
    have removed : (d.remove .file).content .file = none := (Directory.content_remove d _ _).trans (if_pos rfl)
    have kept : (d.remove .file).content .previous = d.content .previous :=
      (Directory.content_remove d _ _).trans (if_neg (by simp))
    cases displaced with
    | aside missing previous => exact .aside removed (kept.trans previous)
    | replaced file previous => exact .aside removed (kept.trans previous)

theorem Displaced.restored (displaced : Displaced before after d) (acceptedBefore : Accepted host before)
    (acceptedAfter : Accepted host after) (extent : Extent) :
    Left host before after ((FileOp.rename Path.previous Path.file).effect extent d) := by
  cases extent with
  | before => exact displaced.left acceptedBefore acceptedAfter
  | partway => exact displaced.left acceptedBefore acceptedAfter
  | after =>
    cases displaced with
    | aside missing previous => exact Or.inl (.file (move_previous previous) acceptedBefore)
    | replaced file previous => exact Or.inl (.file (move_previous previous) acceptedBefore)

/-- The file moved aside takes its place again. -/
theorem restore_wp (displaced : Displaced before after d) (acceptedBefore : Accepted host before)
    (acceptedAfter : Accepted host after) :
    wp device (honest faulty) (Left host before after) (do
      ignoringErrors (rm .file)
      ignoringErrors (rename .previous .file)
      stop : Store Unit) (either (fun _ _ => False) (fun _ => Left host before after)) d := by
  refine wp_seq (wp_mono (ignoring_rm _ displaced.rm fun _ holds => holds.left acceptedBefore acceptedAfter)
    (fun result d₁ ends => ?_) fun _ => id)
  cases result with
  | error error => exact ends.elim
  | ok value =>
    have displaced : Displaced before after d₁ := ends
    refine wp_seq (wp_mono (ignoring_rename (displaced.restored acceptedBefore acceptedAfter) fun _ => id)
      (fun result d₂ ends => ?_) fun _ => id)
    cases result with
    | error error => exact ends.elim
    | ok value => exact ends

theorem Settled.rm_previous (settled : Settled host document d) (extent : Extent) :
    Settled host document ((FileOp.rm Path.previous).effect extent d) := by
  have swept : Swept d ((FileOp.rm Path.previous).effect extent d) := Swept.rm ⟨rfl, Or.inl rfl⟩ rfl
  exact settled.cleaned swept.file swept.previous

theorem Left.aside (left : Left host before after d) (aside : Aside d d') : Left host before after d' :=
  left.imp (fun stored => stored.aside aside) fun stored => stored.aside aside

theorem dropTemporary_wp (result : Except StorageError Unit)
    (ends : either (fun _ => Stored host after) (fun _ => Left host before after) result d) :
    wp device (honest faulty) (Left host before after) (ignoringErrors (rm (.temporary uuid)))
      (either (fun _ d' => either (fun _ => Stored host after) (fun _ => Left host before after) result d')
        (fun _ => Left host before after)) d := by
  have left : Left host before after d := by
    cases result with
    | ok value => exact Or.inr ends
    | error error => exact ends
  have aside (extent : Extent) : Aside d ((FileOp.rm (.temporary uuid)).effect extent d) :=
    effect_aside _ extent (by simp [FileOp.touches]) (by simp [FileOp.touches])
  refine wp_mono (ignoring_rm _ aside fun d' isAside => left.aside isAside) (fun ended d' isAside => ?_) fun _ => id
  cases ended with
  | error error => exact isAside.elim
  | ok value =>
    cases result with
    | ok value => exact Stored.aside ends isAside
    | error error => exact left.aside isAside

theorem displaced_move (content : d.content .file = some (.text before)) :
    Displaced before after (d.move .file .previous) := by
  have present : d.content .file ≠ none := by simp [content]
  refine .aside ?_ ?_
  · exact (Directory.content_move d _ _ _ present).trans (by simp)
  · exact (Directory.content_move d _ _ _ present).trans ((if_pos rfl).trans content)

theorem Written.effect (written : Written uuid after d) (op : FileOp Path OAuthTokenVaultDocument) (extent : Extent)
    (untouched : ¬ op.touches (.temporary uuid)) : Written uuid after (op.effect extent d) := by
  unfold Written
  rw [effect_content op extent untouched]
  exact written

/-- Moving the file aside first, the temporary takes its place or it comes back. -/
theorem displace_wp (content : d.content .file = some (.text before)) (acceptedBefore : Accepted host before)
    (written : Written uuid after d) (acceptedAfter : Accepted host after) :
    wp device (honest faulty) (Left host before after) (do
      rename .file .previous
      (publish host (.temporary uuid)).catching fun _ => do
        ignoringErrors (rm .file)
        ignoringErrors (rename .previous .file)
        stop
      rm .previous
      syncDirectory : Store Unit) (either (fun _ => Stored host after) (fun _ => Left host before after)) d := by
  have stored : Left host before after d := Or.inl (.file content acceptedBefore)
  have renamed (extent : Extent) : Left host before after ((FileOp.rename Path.file Path.previous).effect extent d) := by
    cases extent with
    | before => exact stored
    | partway => exact stored
    | after => exact (displaced_move content).left acceptedBefore acceptedAfter
  obtain ⟨file, isThere⟩ := get_of_content content
  refine wp_seq (file_wp ?_ (fun _ extent _ => renamed extent) renamed)
  simp only [FileOp.reply, isThere, Option.map_some, FileOp.found, orThrow, wp_done, either_ok]
  have written₁ : Written uuid after (d.move .file .previous) :=
    written.effect (.rename .file .previous) .after (by simp [FileOp.touches])
  have aside : Displaced before after (d.move .file .previous) := displaced_move content
  have previous : (d.move .file .previous).content .previous = some (.text before) := by
    cases aside with
    | aside missing previous => exact previous
    | replaced file previous => exact previous
  have either_displaced {d₁ : Disk} (state : d₁ = d.move .file .previous ∨ Published uuid (d.move .file .previous) after d₁) :
      Displaced before after d₁ := by
    rcases state with rfl | published
    · exact aside
    · exact .replaced published.file (published.previous.trans previous)
  refine wp_seq ?_
  rw [wp_catching]
  refine wp_mono (publish_wp written₁ acceptedAfter) (fun result d₁ ends => ?_)
    fun d₁ state => (either_displaced state).left acceptedBefore acceptedAfter
  cases result with
  | error error =>
    refine wp_mono (restore_wp (either_displaced ends) acceptedBefore acceptedAfter) (fun result d₂ ends => ?_) fun _ => id
    cases result with
    | ok value => exact ends.elim
    | error error => exact ends
  | ok value =>
    have settled : Settled host after d₁ := .file (Published.file ends) acceptedAfter
    refine wp_seq (file_wp ?_ (fun _ extent _ => Or.inr (settled.rm_previous extent).stored)
      fun extent => Or.inr (settled.rm_previous extent).stored)
    have final := (settled.rm_previous .after).stored
    exact syncDirectory_wp final (fun _ => Or.inr final) (Or.inr final)

theorem replaceDisplaced_wp (settled : Settled host before d) (written : Written uuid after d)
    (accepted : Accepted host after) :
    wp device (honest faulty) (Left host before after) (replaceDisplaced host (.temporary uuid))
      (either (fun _ => Stored host after) (fun _ => Left host before after)) d := by
  have first (extent : Extent) : Settled host before ((FileOp.rm Path.previous).effect extent d) ∧
      Written uuid after ((FileOp.rm Path.previous).effect extent d) :=
    ⟨settled.rm_previous extent, written.effect _ extent (by simp [FileOp.touches])⟩
  refine wp_seq (wp_mono (ignoring_rm (fun d => Settled host before d ∧ Written uuid after d) first
    fun _ holds => Or.inl holds.1.stored) (fun result d₁ ends => ?_) fun _ => id)
  cases result with
  | error error => exact ends.elim
  | ok value =>
    obtain ⟨settled, written⟩ := ends
    rw [either_ok, wp_finally, wp_catching]
    have dropped (result : Except StorageError Unit) {d₂ : Disk}
        (ends : either (fun _ => Stored host after) (fun _ => Left host before after) result d₂) :=
      @dropTemporary_wp _ _ _ _ faulty uuid result ends
    cases settled with
    | file content acceptedBefore =>
      refine wp_mono (displace_wp content acceptedBefore written accepted) (fun result d₂ ends => ?_) fun _ => id
      cases result with
      | ok value => exact dropped _ ends
      | error error => exact dropped (.error error.asVault) ends
    | empty missing none isEmpty =>
      have stored : Left host before after d₁ := Or.inl (.empty missing none isEmpty)
      have still (extent : Extent) : (FileOp.rename Path.file Path.previous : FileOp Path OAuthTokenVaultDocument).effect extent d₁ = d₁ := by
        cases extent with
        | before => rfl
        | partway => rfl
        | after => exact move_missing missing
      have gone := missing
      rw [Directory.content_eq_none] at gone
      refine wp_seq (look_wp still ?_ (fun code _ => dropped (.error (StorageError.errno code).asVault) stored) stored)
      simp only [FileOp.reply, gone, Option.map_none, FileOp.found, orThrow, wp_throw, either_error]
      exact dropped (.error (StorageError.errno .ENOENT).asVault) stored

theorem orRaise_wp {attempt : Attempt α} {post : Except StorageError α → Disk → Prop}
    (ok : ∀ value, attempt = .ok value → post (.ok value) d) (error : ∀ error, post (.error error) d) :
    wp device (honest faulty) crash (orRaise attempt) post d := by
  cases attempt with
  | ok value => exact ok value rfl
  | error failure => cases failure <;> exact error _

theorem randomUUID_wp {post : Except StorageError Nat → Disk → Prop} (draws : ∀ uuid, post (.ok uuid) d) (crashes : crash d) :
    wp device (honest faulty) crash randomUUID post d :=
  ⟨fun _ => draws _, fun _ _ isFallible => (nomatch isFallible), fun _ _ => crashes⟩

/-- A write that returns has stored its document; at every other point one of the two is stored. -/
theorem writeDocument_wp (settled : Settled host before d) :
    wp device (honest faulty) (Left host before after) (writeDocument host after)
      (either (fun _ => Stored host after) (fun _ => Left host before after)) d := by
  have left : Left host before after d := Or.inl settled.stored
  refine wp_seq (orRaise_wp (fun validated valid => ?_) fun _ => left)
  have parsed := checked_eq_ok valid
  obtain ⟨rfl, -⟩ := parseDocument_eq parsed
  dsimp only [either_ok]
  split
  · exact left
  · rename_i fits
    have accepted : Accepted host validated := ⟨parsed, Nat.not_lt.1 fits⟩
    refine wp_seq (randomUUID_wp (fun uuid => ?_) left)
    refine wp_seq (wp_mono writeTemporary_wp (fun result d₁ ends => ?_) fun _ aside => left.aside aside)
    cases result with
    | error error => exact left.aside ends
    | ok value =>
      obtain ⟨aside, whole⟩ := ends
      have settled₁ := settled.aside aside
      have left₁ : Left host before validated d₁ := Or.inl settled₁.stored
      have either_left {d₂ : Disk} (state : d₂ = d₁ ∨ Published uuid d₁ validated d₂) : Left host before validated d₂ := by
        rcases state with rfl | published
        · exact left₁
        · exact Or.inr (.file published.file accepted)
      refine wp_seq ?_
      rw [wp_attempt]
      refine wp_mono (publish_wp (Or.inl whole) accepted) (fun result d₂ ends => ?_) fun _ => either_left
      have displaces (state : d₂ = d₁ ∨ Published uuid d₁ validated d₂) :
          wp device (honest faulty) (Left host before validated) (replaceDisplaced host (.temporary uuid))
            (either (fun _ => Stored host validated) (fun _ => Left host before validated)) d₂ := by
        rcases state with rfl | published
        · exact replaceDisplaced_wp settled₁ (Or.inl whole) accepted
        · have stored : ∀ d', Left host validated validated d' → Stored host validated d' := fun _ => Or.rec id id
          refine wp_mono (replaceDisplaced_wp (.file published.file accepted) (Or.inr published.gone) accepted)
            (fun result d' ends => ?_) fun d' ends => Or.inr (stored d' ends)
          cases result with
          | ok value => exact ends
          | error error => exact Or.inr (stored d' ends)
      rw [either_ok]
      split
      · exact Stored.file (Published.file ends) accepted
      · exact displaces ends
      · exact displaces ends
      · rename_i error _ _
        refine wp_seq (wp_mono (dropTemporary_wp (.error error) (either_left ends))
          (fun result d₃ ends => ?_) fun _ => id)
        cases result <;> exact ends

end Writing

section Operations

variable {operation : Operation} {surroundings : Surroundings} {change : Change} {result : Attempt (Option OAuthTokenVaultDocument)}

/-- The document is the one before an operation or the one that the operation makes of it. -/
def Advances (host : Host) (result : Attempt (Option OAuthTokenVaultDocument)) (before : OAuthTokenVaultDocument) (d : Disk) :
    Prop :=
  ∃ after, Stored host after d ∧ (after = before ∨ result = .ok (some after))

/-- The document is what the operation makes of the one before it. -/
def Completes (host : Host) (result : Attempt (Option OAuthTokenVaultDocument)) (before : OAuthTokenVaultDocument) (d : Disk) :
    Prop :=
  ∃ written, result = .ok written ∧ Stored host (written.getD before) d

/-- An operation that returns is complete; at every other point it may be. -/
abbrev carries (host : Host) (faulty : Prop) (result : Attempt (Option OAuthTokenVaultDocument))
    (before : OAuthTokenVaultDocument) (program : Store α) (d : Disk) : Prop :=
  wp device (honest faulty) (Advances host result before) program
    (either (fun _ => Completes host result before) fun _ => Advances host result before) d

theorem Stored.advances (stored : Stored host before d) : Advances host result before d := ⟨before, stored, Or.inl rfl⟩

theorem Left.advances (left : Left host before after d) (made : result = .ok (some after)) : Advances host result before d := by
  rcases left with stored | stored
  · exact stored.advances
  · exact ⟨after, stored, Or.inr made⟩

theorem Stored.completes (stored : Stored host before d) : Completes host (.ok none) before d := ⟨none, rfl, stored⟩

theorem Completes.advances (completes : Completes host result before d) : Advances host result before d := by
  obtain ⟨written, made, stored⟩ := completes
  cases written with
  | none => exact stored.advances
  | some after => exact ⟨after, stored, Or.inr made⟩

theorem reads_wp (stored : Stored host before d) {next : OAuthTokenVaultDocument → Store α}
    (goes : ∀ d', Settled host before d' → carries host faulty result before (next before) d') :
    carries host faulty result before (readDocument host >>= next) d := by
  refine wp_seq (wp_mono (readDocument_wp stored) (fun read d' ends => ?_) fun _ => Stored.advances)
  cases read with
  | ok value =>
    obtain ⟨rfl, settled⟩ := ends
    exact goes d' settled
  | error error => exact ends.2.advances

theorem writes_wp (settled : Settled host before d) (made : result = .ok (some after)) :
    carries host faulty result before (writeDocument host after) d := by
  refine wp_mono (writeDocument_wp settled) (fun wrote d' ends => ?_) fun _ left => Left.advances left made
  cases wrote with
  | ok value => exact ⟨some after, made, ends⟩
  | error error => exact Left.advances ends made

theorem withDocument_wp (stored : Stored host before d) (made : change before = result) :
    carries host faulty result before (withDocument host change) d := by
  refine reads_wp stored fun d' settled => wp_seq (orRaise_wp (fun next changed => ?_) fun _ => settled.stored.advances)
  rw [made] at changed
  cases next with
  | none =>
    rw [changed]
    exact settled.stored.completes
  | some next => exact writes_wp settled changed

theorem check_wp {check : Attempt α} {next : α → Store β} (stored : Stored host before d)
    (goes : ∀ value, check = .ok value → carries host faulty result before (next value) d) :
    carries host faulty result before (orRaise check >>= next) d :=
  wp_seq (orRaise_wp goes fun _ => stored.advances)

/-- Whatever is revoked, the files stay as they are. -/
theorem revokeAll_wp (inv : Disk → Prop) {provider : Provider} (records : List StoredOAuthTokenRecord) (holds : inv d) :
    wp device (honest faulty) inv (revokeAll surroundings provider records) (either (fun _ => inv) fun _ _ => False) d := by
  induction records with
  | nil => exact holds
  | cons record records ih =>
    refine wp_seq ?_
    rw [wp_catching]
    refine wp_seq (orRaise_wp (fun accessToken _ => ?_) fun _ => ih)
    refine wp_seq (orRaise_wp (fun refreshToken _ => ?_) fun _ => ih)
    exact wp_seq ⟨fun _ => ih, fun _ _ _ _ => ih, fun _ _ => holds⟩

theorem revokeAndClear_wp {provider : Provider} (stored : Stored host before d) :
    carries host faulty (clearChange provider before) before (revokeAndClear host surroundings provider) d := by
  refine reads_wp stored fun d' settled => ?_
  have clears : carries host faulty (clearChange provider before) before
      (match clearChange provider before with
        | .ok (some next) => writeDocument host next
        | _ => return) d' := by
    unfold clearChange
    split
    · exact writes_wp settled rfl
    · exact settled.stored.completes
  dsimp only
  split
  · refine wp_seq (wp_mono (revokeAll_wp (fun d => d = d') _ rfl) (fun result d'' ends => ?_) fun d'' same => ?_)
    · cases result with
      | ok value =>
        obtain rfl : d'' = d' := ends
        exact clears
      | error error => exact ends.elim
    · exact same ▸ settled.stored.advances
  · exact clears

/-- At every point of an operation the document is the one before it or the one that it makes of it; an operation that
returns has made it. -/
theorem program_wp (stored : Stored host before d) :
    carries host faulty (operation.change host surroundings before) before (operation.program host surroundings) d := by
  cases operation with
  | status =>
    have reads : carries host faulty (.ok none) before (do let _ ← readDocument host) d :=
      reads_wp stored fun d' settled => settled.stored.completes
    have caught : carries host faulty (.ok none) before (status host) d := by
      refine (wp_catching _ _ _ _).2 (wp_mono reads (fun result d' ends => ?_) fun _ => id)
      cases result with
      | ok value => exact ends
      | error error =>
        obtain ⟨after, isStored, same | made⟩ := ends
        · exact Stored.completes (same ▸ isStored)
        · cases made
    exact caught
  | saveInitial provider accountKey material =>
    refine check_wp stored fun key isKey => check_wp stored fun _ registered => check_wp stored fun _ protects =>
      check_wp stored fun valid isValid => withDocument_wp stored ?_
    simp only [Operation.change, isKey, registered, protects, isValid]
    rfl
  | rotate provider accountKey rotation =>
    refine check_wp stored fun key isKey => check_wp stored fun _ registered => check_wp stored fun _ protects =>
      check_wp stored fun valid isValid => withDocument_wp stored ?_
    simp only [Operation.change, isKey, registered, protects, isValid]
    rfl
  | read provider accountKey =>
    have reads : carries host faulty (.ok none) before (Vault.read host surroundings provider accountKey) d := by
      refine check_wp stored fun key isKey => check_wp stored fun _ _ => reads_wp stored fun d' settled => ?_
      split
      · exact settled.stored.completes
      · exact check_wp settled.stored fun _ _ => check_wp settled.stored fun _ _ => settled.stored.completes
    refine wp_seq (wp_mono reads (fun result d' ends => ?_) fun _ => id)
    cases result <;> exact ends
  | forgetAccount provider accountKey =>
    refine check_wp stored fun key isKey => withDocument_wp stored ?_
    simp only [Operation.change, isKey]
    rfl
  | clear provider => exact withDocument_wp stored rfl
  | revokeAndClear provider => exact revokeAndClear_wp stored

end Operations

end Durability

section Runs

variable {host : Host} {document : OAuthTokenVaultDocument} {d : Disk}

/-- One operation of a run, with what it comes to see and the faults that strike it. A crash ends the process;
the next operation is one of the next process. -/
structure Step where
  operation : Operation
  surroundings : Surroundings
  faults : List (Fault Errno)

/-- No failure that is not of the program's making names a missing file. -/
def Step.Honest (step : Step) : Prop := ∀ code extent, .fail code extent ∈ step.faults → code ≠ .ENOENT

def Step.run (host : Host) (step : Step) (d : Disk) : Outcome StorageError Unit × Disk :=
  Interrupted.run device (step.operation.program host step.surroundings) step.faults d

def perform (host : Host) (d : Disk) (step : Step) : Disk := (step.run host d).2

/-- What a step makes of a document. -/
def Step.change (host : Host) (step : Step) : Change := step.operation.change host step.surroundings

def performAll (host : Host) (d : Disk) (steps : List Step) : Disk := steps.foldl (perform host) d

/-- What the next `#readDocument` that nothing interrupts returns. -/
def nextRead (host : Host) (d : Disk) : Outcome StorageError OAuthTokenVaultDocument := (run device (readDocument host) [] d).1

/-- A fault that tells no lie about a missing file. -/
def Candid (fault : Fault Errno) : Prop := ∀ code extent, fault = .fail code extent → code ≠ .ENOENT

theorem Candid.honest {fault : Fault Errno} (candid : Candid fault) (op : Op) (d : Disk) : honest True op fault d := by
  cases fault with
  | none => trivial
  | crash extent => trivial
  | fail code extent => exact ⟨candid code extent rfl, trivial⟩

theorem candid_none : Candid .none := fun _ _ none => nomatch none

theorem candid_of_mem {faults : List (Fault Errno)} (allHonest : ∀ code extent, .fail code extent ∈ faults → code ≠ .ENOENT) :
    ∀ fault ∈ faults, Candid fault := by
  rintro _ member code extent rfl
  exact allHonest code extent member

theorem honest_meets {program : Store α} {faults : List (Fault Errno)}
    (allHonest : ∀ code extent, .fail code extent ∈ faults → code ≠ .ENOENT) (d : Disk) :
    Meets device (honest True) program faults d :=
  meets_of_faults Candid candid_none (fun op _ d candid => candid.honest op d) (candid_of_mem allHonest) d

theorem perform_carries {step : Step} (stored : Stored host document d) (isHonest : step.Honest) :
    Advances host (step.change host document) document (perform host d step) ∧
      ((step.run host d).1 = .returned () → Completes host (step.change host document) document (perform host d step)) := by
  have carried : carries host True (step.change host document) document (step.operation.program host step.surroundings) d :=
    program_wp stored
  have sound := wp_sound carried (honest_meets isHonest d)
  unfold perform Step.run
  generalize Interrupted.run device (step.operation.program host step.surroundings) step.faults d = ended at sound ⊢
  obtain ⟨outcome, d'⟩ := ended
  cases outcome with
  | returned value => exact ⟨Completes.advances sound, fun _ => sound⟩
  | threw error => exact ⟨sound, fun is => by cases is⟩
  | crashed => exact ⟨sound, fun is => by cases is⟩

theorem performAll_stored {steps : List Step} (stored : Stored host document d) (allHonest : ∀ step ∈ steps, step.Honest) :
    ∃ after, Stored host after (performAll host d steps) := by
  induction steps generalizing d document with
  | nil => exact ⟨document, stored⟩
  | cons step steps ih =>
    obtain ⟨next, isStored, -⟩ := (perform_carries stored (allHonest step List.mem_cons_self)).1
    exact ih isStored fun step member => allHonest step (List.mem_cons_of_mem _ member)

theorem nextRead_eq (stored : Stored host document d) : nextRead host d = .returned document := by
  have never : ∀ op s, honest False op .none s := fun _ _ => trivial
  have reads : wp device (honest False) _ (readDocument host) _ d := readDocument_wp stored
  rcases wp_run_clean reads never with ⟨value, s', ran, ends⟩ | ⟨error, s', ran, ends⟩
  · obtain ⟨rfl, -⟩ := ends
    rw [nextRead, ran]
  · exact ends.1.elim

theorem Stored.unique (stored : Stored host document d) : (document.records.map (·.key)).Nodup := by
  cases stored with
  | file content accepted => exact (parseDocument_eq accepted.parsed).2
  | previous missing content accepted => exact (parseDocument_eq accepted.parsed).2
  | empty missing none isEmpty =>
    rw [isEmpty]
    exact List.nodup_nil

/-- Whatever operations were performed, and wherever they were cut short: what is read after one more operation is
what would have been read before it, or what the operation makes of that, and this where it returns. No account has two
records, and a rotation raises the generation of its record by one. -/
theorem vault_durable (host : Host) {start : Disk} (stored : Stored host document start) {steps : List Step} {step : Step}
    (allHonest : ∀ other ∈ steps ++ [step], other.Honest) :
    ∃ before after, nextRead host (performAll host start steps) = .returned before ∧
      nextRead host (performAll host start (steps ++ [step])) = .returned after ∧
      (after = before ∨ step.change host before = .ok (some after) ∧ Follows step.operation before after) ∧
      ((step.run host (performAll host start steps)).1 = .returned () →
        ∃ written, step.change host before = .ok written ∧ after = written.getD before ∧
          ∀ provider accountKey rotation, step.operation = .rotate provider accountKey rotation →
            Follows step.operation before after) ∧
      (before.records.map (·.key)).Nodup ∧ (after.records.map (·.key)).Nodup := by
  obtain ⟨before, isBefore⟩ := performAll_stored stored fun other member => allHonest other (List.mem_append_left _ member)
  obtain ⟨⟨after, isAfter, advances⟩, completes⟩ :=
    perform_carries isBefore (allHonest step (List.mem_append_right _ List.mem_cons_self))
  have last : performAll host start (steps ++ [step]) = perform host (performAll host start steps) step := by
    rw [performAll, List.foldl_append]
    rfl
  refine ⟨before, after, nextRead_eq isBefore, by rw [last, nextRead_eq isAfter], advances.imp_right fun made =>
    ⟨made, change_follows made⟩, fun returned => ?_, isBefore.unique, isAfter.unique⟩
  obtain ⟨written, made, isWritten⟩ := completes returned
  have same : after = written.getD before :=
    Outcome.returned.inj ((nextRead_eq isAfter).symm.trans (nextRead_eq isWritten))
  refine ⟨written, made, same, fun provider accountKey rotation isRotation => ?_⟩
  have rotates : ∃ next, written = some next := by
    rw [Step.change, isRotation] at made
    exact rotate_writes made
  obtain ⟨next, rfl⟩ := rotates
  exact same ▸ change_follows made

/-- The bytes of a document without characters that JSON escapes or that take more than one byte. -/
def plainLength (document : OAuthTokenVaultDocument) : Nat :=
  if document.records = [] then 42
  else 44 + (document.records.map fun record => 246 + (match record.provider with
      | .google => 6
      | .microsoft => 9) + record.accountKey.length + record.accessTokenCiphertext.length +
    record.refreshTokenCiphertext.length + record.expiresAt.length + (record.scopes.map (·.length + 12)).sum +
    (JsDate.decimal record.generation).length + record.createdAt.length + record.updatedAt.length).sum

def Host.plain : Host where
  dateParse := JsDate.parse
  toISOString instant := if instant.natAbs ≤ 8640000000000000 then some (JsDate.toISOString instant) else none
  byteLength := plainLength

/-- Windows at the beginning of 1970, with a cipher that keeps texts of one letter in a group of four. -/
def windows : Surroundings where
  registered _ := true
  available := true
  now := some 0
  encryptString text := some (text ++ ofString "AAA")
  decryptString text := some (text.take 1)
  hasRevoker _ := false

/-- An account is saved. -/
def savesFirst : Step := ⟨.saveInitial .microsoft [49] ⟨[65], [66], .finite 3600, [[115]]⟩, windows, []⟩

/-- Its tokens are rotated; the file cannot be replaced, and the process ends when it has been moved aside. -/
def rotatesCutShort : Step :=
  ⟨.rotate .microsoft [49] ⟨[67], none, .finite 3600, [[115]]⟩, windows,
    List.replicate 9 .none ++ [.fail .EPERM .before, .none, .none, .crash .before]⟩

theorem rotatesCutShort_durable :
    ∃ before after, nextRead Host.plain (performAll Host.plain ⟨[], 0⟩ [savesFirst]) = .returned before ∧
      nextRead Host.plain (performAll Host.plain ⟨[], 0⟩ ([savesFirst] ++ [rotatesCutShort])) = .returned after ∧
      (after = before ∨ rotatesCutShort.change Host.plain before = .ok (some after) ∧
        Follows rotatesCutShort.operation before after) ∧
      ((rotatesCutShort.run Host.plain (performAll Host.plain ⟨[], 0⟩ [savesFirst])).1 = .returned () →
        ∃ written, rotatesCutShort.change Host.plain before = .ok written ∧ after = written.getD before ∧
          ∀ provider accountKey rotation, rotatesCutShort.operation = .rotate provider accountKey rotation →
            Follows rotatesCutShort.operation before after) ∧
      (before.records.map (·.key)).Nodup ∧ (after.records.map (·.key)).Nodup := by
  refine vault_durable Host.plain (.empty rfl rfl rfl) fun other member code extent fails => ?_
  simp only [List.cons_append, List.nil_append, List.mem_cons, List.not_mem_nil, or_false] at member
  rcases member with rfl | rfl
  · cases fails
  · simp only [rotatesCutShort, List.mem_append, List.mem_replicate, reduceCtorEq, and_false, List.mem_cons, Fault.fail.injEq,
      List.not_mem_nil, or_false, false_or] at fails
    rw [fails.1]
    exact fun same => by cases same

end Runs

end OAuth.Vault
