import MaterialEmail.AppService.Operations
import MaterialEmail.Library.Translation
import Mathlib.Algebra.GroupWithZero.Nat

/-! Attachments are files that the user has chosen in a dialog of the system. A path that comes with a draft is
taken only if it is known by a key from there, or from the draft as it is stored. -/
namespace AppService

open Interrupted Interleaved

/-- Paths and where they lead. Links stay as they are, a path that has been resolved has none left in it, and
names do not differ by case alone. -/
structure FileSystem where
  normalize : String → String
  isAbsolute : String → Bool
  toLocaleLowerCase : String → String
  realpath : String → String
  normalize_normalize : ∀ path, normalize (normalize path) = normalize path
  realpath_realpath : ∀ path, realpath (realpath path) = realpath path
  caseless : ∀ path path', toLocaleLowerCase (normalize path) = toLocaleLowerCase (normalize path') →
    toLocaleLowerCase (normalize (realpath path)) = toLocaleLowerCase (normalize (realpath path'))

def FileSystem.pathKey (fs : FileSystem) (value : String) : String := fs.toLocaleLowerCase (fs.normalize value)

/-- `length`, in UTF-16 code units. -/
def utf16Length (text : String) : Nat :=
  (text.toList.map fun character => if character.toNat < 0x10000 then 1 else 2).sum

/-- `nativePathSchema`, with its first complaint. -/
def nativePathSchema (fs : FileSystem) (value : String) : Except ServiceError String :=
  if utf16Length value < 1 then .error (.failed "Too small: expected string to have >=1 characters")
  else if 32767 < utf16Length value then .error (.failed "Too big: expected string to have <=32767 characters")
  else if value.toList.any fun character => character.toNat ≤ 0x1F || character.toNat = 0x7F then
    .error (.failed "File paths cannot contain control characters.")
  else if fs.isAbsolute value then .ok value
  else .error (.failed "An absolute Windows path is required.")

/-- What is asked of the file system, and of the keys that the dialog has approved. -/
inductive PathOp where
  | realpath (path : String)
  | isFile (path : String)
  | approve (keys : List String)
  | approvedKeys

abbrev PathReply : PathOp → Type
  | .realpath _ => Except String String
  | .isFile _ => Except String Bool
  | .approve _ => Unit
  | .approvedKeys => List String

inductive PathChoice where
  | proceeds
  | fails (text : String)
  | isFile (answer : Bool)
  deriving DecidableEq

abbrev DeskOp := Op ⊕ PathOp

abbrev DeskReply : DeskOp → Type := Sum.elim Reply PathReply

/-- Work at the desk where drafts are written: on the service and on paths. -/
abbrev Work := Program DeskOp DeskReply ServiceError

section Authorization

variable (fs : FileSystem)

def parsePath (value : String) : Work String :=
  match nativePathSchema fs value with
  | .ok path => .done path
  | .error error => .throw error

/-- The path a file is shown by, and its keys. -/
def inspectRegularFile (value : String) : Work (String × List String) := do
  let path ← parsePath fs value
  let lexicalPath := fs.normalize path
  .call (.inr (.realpath lexicalPath)) fun
    | .error text => .throw (.failed text)
    | .ok resolvedPath => .call (.inr (.isFile resolvedPath)) fun
      | .error text => .throw (.failed text)
      | .ok isFile =>
        if isFile then .done (resolvedPath, [fs.pathKey lexicalPath, fs.pathKey resolvedPath])
        else .throw (.failed "The selected path is not a regular file.")

def knownPathKeys (value : String) : Work (List String) := do
  let path ← parsePath fs value
  let lexicalPath := fs.normalize path
  .call (.inr (.realpath lexicalPath)) fun
    | .ok resolvedPath => .done [fs.pathKey lexicalPath, fs.pathKey resolvedPath]
    | .error _ => .done [fs.pathKey lexicalPath]

def approveAll : List String → Work (List String)
  | [] => return []
  | candidate :: candidates => do
    let inspected ← inspectRegularFile fs candidate
    .call (.inr (.approve inspected.2)) fun _ => do
      let approved ← approveAll candidates
      return inspected.1 :: approved

def approveDialogSelection (paths : List String) : Work (List String) :=
  if 100 < paths.length then .throw (.failed "A message can contain at most 100 attachments.")
  else approveAll fs paths

/-- The keys of the paths that a draft has been stored with. -/
def persistedKeys : List String → Work (List String)
  | [] => return []
  | path :: paths => do
    let keys ← knownPathKeys fs path
    let others ← persistedKeys paths
    return keys ++ others

def notApproved : ServiceError :=
  .failed ("An attachment was not approved by the native file picker. " ++
    "Choose the file again before saving or sending.")

/-- The path that is stored or sent: with a file that must exist, the one it is shown by. -/
def acceptedPath (requireExistingFiles : Bool) (lexicalPath : String) : Work String :=
  if requireExistingFiles then do
    let inspected ← inspectRegularFile fs lexicalPath
    return inspected.1
  else return lexicalPath

def acceptAll (persistedKeys : List String) (requireExistingFiles : Bool) : List String → Work (List String)
  | [] => return []
  | candidate :: candidates => do
    let path ← parsePath fs candidate
    let lexicalPath := fs.normalize path
    let knownKeys ← knownPathKeys fs lexicalPath
    .call (.inr .approvedKeys) fun (approved : List String) =>
      if knownKeys.any fun key => key ∈ approved || key ∈ persistedKeys then do
        let accepted ← acceptedPath fs requireExistingFiles lexicalPath
        let others ← acceptAll persistedKeys requireExistingFiles candidates
        return accepted :: others
      else .throw notApproved

/-- `authorizeDraft` of the authorization. A draft passes on its keys to the same draft of the same account. -/
def authorizeAttachments (draft : ComposeDraft) (persistedDraft : Option ComposeDraft) (requireExistingFiles : Bool) :
    Work ComposeDraft :=
  if draft.attachments = [] then return draft
  else do
    let inherited ← persistedKeys fs <|
      match persistedDraft with
      | some persisted =>
        if draft.id.isSome ∧ persisted.id = draft.id ∧ persisted.accountId = draft.accountId then persisted.attachments else []
      | none => []
    let attachments ← acceptAll fs inherited requireExistingFiles draft.attachments
    return { draft with attachments := attachments }

def carryOut : (op : Op) → Program DeskOp DeskReply Empty (Reply op)
  | .authorizeDraft draft persistedDraft requireExistingFiles =>
    (authorizeAttachments fs draft persistedDraft requireExistingFiles).attempt
  | op => .call (.inl op) .done

end Authorization

/-- Where a draft is: among the drafts, in an item of the Outbox, or with a call. -/
inductive Holder where
  | drafts
  | item (outboxId : Identifier)
  | call
  deriving DecidableEq

def Origin.holder : Origin → Holder
  | .call => .call
  | .queue outboxId => .item outboxId

/-- The drafts of a store, those in the Outbox among them. -/
def PersistedState.stored (state : PersistedState) : List (Holder × ComposeDraft) :=
  state.drafts.map (Prod.mk .drafts) ++ state.outbox.map fun item => (.item item.id, item.draft)

/-- `approved` are the keys from the dialog, `handed` the drafts that the mail service has been given to send.
`keptAs` notes which draft has been stored under an identifier that was drawn for it. -/
structure Desk where
  service : State
  approved : List String
  handed : List (Holder × ComposeDraft)
  keptAs : List (Identifier × (Holder × ComposeDraft))

/-- The draft that a mutator may store under a new identifier. -/
def Commit.drawsFor (persisted : PersistedState) : Commit → Option (Holder × ComposeDraft)
  | .sent draft _ _ | .draftSaved draft => some (.call, draft)
  | .delivered accountId outboxId _ => (findOutboxItem persisted accountId outboxId).map fun item => (.item item.id, item.draft)
  | _ => none

/-- The identifier that has been drawn, if a draft is stored under it, and that draft. -/
def Commit.keeps (c : Commit) (before after : PersistedState) (fresh : Identifier) :
    List (Identifier × (Holder × ComposeDraft)) :=
  if some fresh ∈ after.stored.map (·.2.id) then ((c.drawsFor before).map (Prod.mk fresh)).toList else []

/-- What is noted when the service carries out an operation. -/
def Desk.note (desk : Desk) (service : State) (op : Op) (choice : Choice) : Desk :=
  match op, choice with
  | .sendMessage origin _ draft _, _ => { desk with service := service, handed := desk.handed ++ [(origin.holder, draft)] }
  | .commit c, .draws fresh =>
    { desk with
      service := service
      keptAs := desk.keptAs ++ c.keeps desk.service.persisted service.persisted fresh }
  | _, _ => { desk with service := service }

def deskEnvironment (localeCompare : String → String → Ordering) (fs : FileSystem) :
    Environment DeskOp DeskReply (Choice ⊕ PathChoice) Desk where
  answer task op choice desk :=
    match op, choice with
    | .inl op, .inl choice =>
      ((environment localeCompare).answer task op choice desk.service).map fun (reply, service) =>
        (reply, desk.note service op choice)
    | .inr (.realpath path), .inr .proceeds => some (.ok (fs.realpath path), desk)
    | .inr (.realpath _), .inr (.fails text) => some (.error text, desk)
    | .inr (.isFile _), .inr (.isFile answer) => some (.ok answer, desk)
    | .inr (.isFile _), .inr (.fails text) => some (.error text, desk)
    | .inr (.approve keys), .inr .proceeds => some ((), { desk with approved := desk.approved ++ keys })
    | .inr .approvedKeys, .inr .proceeds => some (desk.approved, desk)
    | _, _ => none

inductive DeskRequest where
  | service (request : Request)
  | chooseAttachments (filePaths : List String)

def DeskRequest.chosen : DeskRequest → List String
  | .service _ => []
  | .chooseAttachments filePaths => filePaths

def DeskRequest.program (localeCompare : String → String → Ordering) (fs : FileSystem) : DeskRequest → Work Unit
  | .service request => (request.program localeCompare).translate (carryOut fs)
  | .chooseAttachments filePaths => do
    let _ ← approveDialogSelection fs filePaths

/-- The application has been started on a store: nothing has been approved. -/
def Desk.initial (persisted : PersistedState) : Desk := ⟨.initial persisted, [], [], []⟩

end AppService
