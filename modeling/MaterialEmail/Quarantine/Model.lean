import MaterialEmail.Library.Interleaving
import MaterialEmail.MailService.AttachmentSafety
import Mathlib.Logic.Function.Basic

/-! The local quarantine of risky attachments: each has a record in the store and a file of its content. Calls that
quarantine, release and delete go on side by side, and in each of them one operation may fail. -/
namespace Quarantine

open JsString Interrupted Interleaved MailService

abbrev Content := List UInt8

/-- What `randomUUID` draws. No two are alike, and each tells by which call it was drawn. -/
structure Uuid where
  task : Nat
  serial : Nat
  deriving DecidableEq

structure Source where
  accountId : JsString
  folderPath : JsString
  uid : Nat
  uidValidity : JsString
  attachmentIndex : Nat
  messageId : Option JsString
  deriving DecidableEq

structure QuarantinedAttachment where
  id : Uuid
  filename : JsString
  contentType : JsString
  size : Nat
  sha256 : JsString
  risk : AttachmentRiskAssessment
  quarantinedAt : JsString
  source : Source
  deriving DecidableEq

/-- An attachment that is to be quarantined, with its place in the message and its assessment. -/
structure Item where
  filename : JsString
  contentType : JsString
  content : Content
  index : Nat
  risk : AttachmentRiskAssessment

/-- Files in the directory of the quarantine. Those of attachments that are being released or deleted have been renamed. -/
inductive Path where
  | payload (id : Uuid)
  | retired (id name : Uuid)
  deriving DecidableEq

structure State where
  files : Path → Option Content
  quarantinedAttachments : List QuarantinedAttachment
  /-- The names of all records that there have ever been. -/
  known : List Uuid
  /-- The number of the next name that is drawn. -/
  next : Nat
  /-- The calls in which an operation has failed. -/
  failed : List Nat

inductive Failure where
  | ENOENT
  | EEXIST
  /-- An error of the file system or the store. -/
  | other
  | text (message : String)
  deriving DecidableEq

/-- What the update of the store leaves behind: the names of the records that were added, and the record for each of
those that were to be. -/
structure Accepted where
  acceptedIds : List Uuid
  results : List QuarantinedAttachment

inductive Op where
  | mkdir
  | readStore
  /-- `randomUUID()` and `new Date().toISOString()`. -/
  | draw
  | writePayload (id : Uuid) (content : Content)
  | readPayload (id : Uuid)
  | showSaveDialog
  /-- Outside the quarantine. -/
  | writeReleased (path : JsString) (content : Content)
  | rename (old new : Path)
  /-- `rm` with `force`. -/
  | remove (path : Path)
  | storeCreated (created : List QuarantinedAttachment)
  | storeWithout (id : Uuid)

abbrev Reply : Op → Type
  | .mkdir => Except Failure Unit
  | .readStore => Except Failure (List QuarantinedAttachment)
  | .draw => Uuid × JsString
  | .writePayload _ _ => Except Failure Unit
  | .readPayload _ => Except Failure Content
  | .showSaveDialog => Option JsString
  | .writeReleased _ _ => Except Failure Unit
  | .rename _ _ => Except Failure Unit
  | .remove _ => Except Failure Unit
  | .storeCreated _ => Except Failure Accepted
  | .storeWithout _ => Except Failure Unit

abbrev Work (α : Type) := Program Op Reply Failure α

def noLongerAvailable : Failure := .text "That quarantined attachment is no longer available."

section Updates

/-- A record of the same attachment. -/
def sameAttachment (source : Source) (filename contentType sha256 : JsString) (existing : QuarantinedAttachment) : Bool :=
  existing.source.accountId = source.accountId && existing.source.folderPath = source.folderPath &&
    existing.source.uid = source.uid && existing.source.uidValidity = source.uidValidity &&
    existing.source.attachmentIndex = source.attachmentIndex && existing.filename = filename &&
    existing.contentType = contentType && existing.sha256 = sha256

/-- The update of `#quarantineAttachments`. -/
def addCreated : List QuarantinedAttachment → List QuarantinedAttachment → Accepted × List QuarantinedAttachment
  | [], records => (⟨[], []⟩, records)
  | record :: created, records =>
    match records.find? (sameAttachment record.source record.filename record.contentType record.sha256) with
    | some duplicate =>
      let (accepted, records) := addCreated created records
      (⟨accepted.acceptedIds, duplicate :: accepted.results⟩, records)
    | none =>
      let (accepted, records) := addCreated created (record :: records)
      (⟨record.id :: accepted.acceptedIds, record :: accepted.results⟩, records)

def hasRecord (id : Uuid) (records : List QuarantinedAttachment) : Prop := ∃ record ∈ records, record.id = id

instance (id : Uuid) (records : List QuarantinedAttachment) : Decidable (hasRecord id records) :=
  inferInstanceAs (Decidable (∃ record ∈ records, record.id = id))

def recordOf (id : Uuid) (records : List QuarantinedAttachment) : Option QuarantinedAttachment :=
  records.find? fun candidate => candidate.id = id

def withoutRecord (id : Uuid) (records : List QuarantinedAttachment) : List QuarantinedAttachment :=
  records.filter fun candidate => candidate.id ≠ id

end Updates

section Calls

variable (sha256 : Content → JsString)

def ask (op : Op) : Work (Reply op) := Program.ask op

def orThrow : Except Failure α → Work α
  | .ok value => .done value
  | .error error => .throw error

/-- A result of `#quarantineAttachments`: a record there has been, or one for which a file has been written. -/
inductive Prepared where
  | existing (record : QuarantinedAttachment)
  | created (record : QuarantinedAttachment)

def createdOf (prepared : List Prepared) : List QuarantinedAttachment :=
  prepared.filterMap fun
    | .existing _ => none
    | .created record => some record

/-- What a message is called by. -/
structure MessagePlace where
  accountId : JsString
  folderPath : JsString
  uid : Nat
  uidValidity : JsString
  messageId : Option JsString

def sourceOf (place : MessagePlace) (item : Item) : Source :=
  ⟨place.accountId, place.folderPath, place.uid, place.uidValidity, item.index, place.messageId⟩

def newRecord (place : MessagePlace) (item : Item) (drawn : Uuid × JsString) : QuarantinedAttachment where
  id := drawn.1
  filename := item.filename
  contentType := item.contentType
  size := item.content.length
  sha256 := sha256 item.content
  risk := item.risk
  quarantinedAt := drawn.2
  source := sourceOf place item

/-- The loop over the items. -/
def prepare (place : MessagePlace) (current : List QuarantinedAttachment) : List Item → List Prepared → Work (List Prepared)
  | [], prepared => .done prepared
  | item :: items, prepared =>
    if item.risk.level = .ordinary then .throw (.text "Ordinary attachments must not enter local quarantine.")
    else
      match current.find? (sameAttachment (sourceOf place item) item.filename item.contentType (sha256 item.content)) with
      | some existing => prepare place current items (prepared ++ [.existing existing])
      | none =>
        .call .draw fun drawn => do
          let record := newRecord sha256 place item drawn
          let written ← ask (.writePayload record.id item.content)
          orThrow written
          prepare place current items (prepared ++ [.created record])

/-- `Promise.all` of removals, each of which is tried; the first error is thrown. -/
def removeAll : List QuarantinedAttachment → Work (Except Failure Unit)
  | [] => .done (.ok ())
  | record :: records =>
    .call (.remove (.payload record.id)) fun removed => do
      let others ← removeAll records
      return match removed with
        | .ok _ => others
        | .error error => .error error

/-- The records of those that have been prepared: created ones take the results of the update. -/
def resultsOf : List Prepared → List QuarantinedAttachment → List QuarantinedAttachment
  | [], _ => []
  | .existing record :: prepared, results => record :: resultsOf prepared results
  | .created _ :: prepared, result :: results => result :: resultsOf prepared results
  | .created _ :: _, [] => []

def quarantineAttachments (place : MessagePlace) (items : List Item) : Work (List QuarantinedAttachment) :=
  if items = [] then return []
  else do
    orThrow (← ask .mkdir)
    let currentState ← orThrow (← ask .readStore)
    let prepared ← prepare sha256 place currentState items []
    let created := createdOf prepared
    if created = [] then return resultsOf prepared []
    else
      match ← ask (.storeCreated created) with
      | .error error =>
        let _ ← removeAll created
        .throw error
      | .ok accepted =>
        orThrow (← removeAll (created.filter fun record => record.id ∉ accepted.acceptedIds))
        return resultsOf prepared accepted.results

def changedOnDisk : Failure :=
  .text ("The quarantined attachment changed on disk, so release was refused. Delete it or inspect the local " ++
    "application data manually.")

def releaseQuarantinedAttachment (id : Uuid) : Work (Option JsString) := do
  let state ← orThrow (← ask .readStore)
  match recordOf id state with
  | none => .throw noLongerAvailable
  | some record =>
    let payload ← orThrow (← ask (.readPayload record.id))
    if payload.length ≠ record.size ∨ sha256 payload ≠ record.sha256 then .throw changedOnDisk
    else
      match ← ask .showSaveDialog with
      | none => return none
      | some filePath =>
        orThrow (← ask (.writeReleased filePath payload))
        let (name, _) ← ask .draw
        orThrow (← ask (.rename (.payload record.id) (.retired record.id name)))
        match ← ask (.storeWithout id) with
        | .error error =>
          let _ ← ask (.rename (.retired record.id name) (.payload record.id))
          .throw error
        | .ok _ =>
          orThrow (← ask (.remove (.retired record.id name)))
          return some filePath

/-- Whether the file has been moved. It need not exist. -/
def moveAside (id name : Uuid) : Work Bool := do
  match ← ask (.rename (.payload id) (.retired id name)) with
  | .ok _ => return true
  | .error error => if error = .ENOENT then return false else .throw error

def deleteQuarantinedAttachment (id : Uuid) : Work Unit := do
  let state ← orThrow (← ask .readStore)
  match recordOf id state with
  | none => .throw noLongerAvailable
  | some record =>
    let (name, _) ← ask .draw
    let payloadMoved ← moveAside record.id name
    match ← ask (.storeWithout id) with
    | .error error =>
      if payloadMoved then
        let _ ← ask (.rename (.retired record.id name) (.payload record.id))
        .throw error
      else .throw error
    | .ok _ => if payloadMoved then orThrow (← ask (.remove (.retired record.id name))) else return

inductive Request where
  | quarantine (place : MessagePlace) (items : List Item)
  | release (id : Uuid)
  | delete (id : Uuid)

def Request.program : Request → Work Unit
  | .quarantine place items => do
    let _ ← quarantineAttachments sha256 place items
    return
  | .release id => do
    let _ ← releaseQuarantinedAttachment sha256 id
    return
  | .delete id => deleteQuarantinedAttachment id

end Calls

section World

/-- How an operation is answered. A file that cannot be written may be left behind in part. -/
inductive Choice where
  | proceeds
  | stamped (now : JsString)
  | chosen (filePath : Option JsString)
  | fails (left : Option Content)

def State.withFile (s : State) (path : Path) (content : Option Content) : State :=
  { s with files := Function.update s.files path content }

def rename (old new : Path) (s : State) : Except Failure Unit × State :=
  match s.files old with
  | none => (.error .ENOENT, s)
  | some content => (.ok (), (s.withFile old none).withFile new (some content))

def writePayload (id : Uuid) (content : Content) (s : State) : Except Failure Unit × State :=
  if (s.files (.payload id)).isSome then (.error .EEXIST, s) else (.ok (), s.withFile (.payload id) (some content))

def storeCreated (created : List QuarantinedAttachment) (s : State) : Except Failure Accepted × State :=
  let (accepted, records) := addCreated created s.quarantinedAttachments
  (.ok accepted, { s with quarantinedAttachments := records, known := accepted.acceptedIds ++ s.known })

def storeWithout (id : Uuid) (s : State) : Except Failure Unit × State :=
  if hasRecord id s.quarantinedAttachments then
    (.ok (), { s with quarantinedAttachments := withoutRecord id s.quarantinedAttachments })
  else (.error noLongerAvailable, s)

def perform (task : Nat) : (op : Op) → Choice → State → Option (Reply op × State)
  | .mkdir, .proceeds, s => some (.ok (), s)
  | .readStore, .proceeds, s => some (.ok s.quarantinedAttachments, s)
  | .draw, .stamped now, s => some ((⟨task, s.next⟩, now), { s with next := s.next + 1 })
  | .writePayload id content, .proceeds, s => some (writePayload id content s)
  | .readPayload id, .proceeds, s =>
    match s.files (.payload id) with
    | none => some (.error .ENOENT, s)
    | some content => some (.ok content, s)
  | .showSaveDialog, .chosen filePath, s => some (filePath, s)
  | .writeReleased _ _, .proceeds, s => some (.ok (), s)
  | .rename old new, .proceeds, s => some (rename old new s)
  | .remove path, .proceeds, s => some (.ok (), s.withFile path none)
  | .storeCreated created, .proceeds, s => some (storeCreated created s)
  | .storeWithout id, .proceeds, s => some (storeWithout id s)
  | _, _, _ => none

/-- The answer to an operation that fails. -/
def refused : (op : Op) → Option (Reply op)
  | .mkdir => some (.error .other)
  | .readStore => some (.error .other)
  | .draw => none
  | .writePayload _ _ => some (.error .other)
  | .readPayload _ => some (.error .other)
  | .showSaveDialog => none
  | .writeReleased _ _ => some (.error .other)
  | .rename _ _ => some (.error .other)
  | .remove _ => some (.error .other)
  | .storeCreated _ => some (.error .other)
  | .storeWithout _ => some (.error .other)

/-- What an operation that fails has done. -/
def damage (op : Op) (left : Option Content) (s : State) : State :=
  match op with
  | .writePayload id _ => if (s.files (.payload id)).isSome then s else s.withFile (.payload id) left
  | _ => s

/-- One operation may fail in each call. -/
def environment : Environment Op Reply Choice State where
  answer task op choice s :=
    match choice with
    | .fails left =>
      if task ∈ s.failed then none
      else (refused op).map fun reply => (reply, { damage op left s with failed := task :: s.failed })
    | choice => perform task op choice s

/-- Nothing has been quarantined yet. -/
def State.empty : State := ⟨fun _ => none, [], [], 0, []⟩

def State.Has (s : State) (path : Path) : Prop := (s.files path).isSome = true

def State.Recorded (s : State) (id : Uuid) : Prop := hasRecord id s.quarantinedAttachments

instance (s : State) (id : Uuid) : Decidable (s.Recorded id) :=
  inferInstanceAs (Decidable (hasRecord id s.quarantinedAttachments))

/-- The files of attachments are those of the records. -/
def Consistent (s : State) : Prop := ∀ id, s.Has (.payload id) ↔ s.Recorded id

end World

end Quarantine
