import MaterialEmail.Pim.Types
import MaterialEmail.Library.Keyed

/-! The operations of the personal information manager on its stored state. Each runs as one mutator of
the store: it throws and nothing has happened, or it ends in a new state. -/
namespace Pim

open JsString

inductive PimError where
  | notFound (text : JsString)
  | conflict (text : JsString)
  /-- A schema has refused a value. -/
  | invalid
  | type (text : JsString)
  deriving DecidableEq

section Patches

/-- What a patch says about a field that can be cleared: `undefined`, `null` or a value. -/
inductive Change (α : Type) where
  | keep
  | clear
  | set (value : α)
  deriving DecidableEq

def Change.parse (schema : α → Option α) : Change α → Option (Change α)
  | .keep => some .keep
  | .clear => some .clear
  | .set value => (schema value).map .set

/-- `applyPatch` on a field that may be left out. -/
def Change.apply (change : Change α) (current : Option α) : Option α :=
  match change with
  | .keep => current
  | .clear => none
  | .set value => some value

structure ContactPatch where
  displayName : Option JsString := none
  name : Change ContactName := .keep
  nickname : Change JsString := .keep
  emails : Option (List ContactEmail) := none
  phones : Option (List ContactPhone) := none
  addresses : Option (List ContactAddress) := none
  organization : Change JsString := .keep
  title : Change JsString := .keep
  notes : Change JsString := .keep

structure MailingListPatch where
  name : Option JsString := none
  nickname : Change JsString := .keep
  description : Change JsString := .keep
  memberUids : Option (List JsString) := none

structure CalendarEventPatch where
  title : Option JsString := none
  description : Change JsString := .keep
  location : Change JsString := .keep
  start : Option TemporalValue := none
  finish : Option TemporalValue := none
  recurrence : Change Recurrence := .keep
  organizer : Change Attendee := .keep
  attendees : Option (List Attendee) := none
  alarms : Option (List Alarm) := none
  categories : Option (List JsString) := none
  status : Option EventStatus := none
  transparency : Option Transparency := none

structure TaskPatch where
  title : Option JsString := none
  description : Change JsString := .keep
  status : Option TaskStatus := none
  entry : Change TemporalValue := .keep
  due : Change TemporalValue := .keep
  priority : Option Nat := none
  percentComplete : Option Nat := none
  completedAt : Change JsString := .keep
  categories : Option (List JsString) := none
  recurrence : Change Recurrence := .keep
  sourceRevision : Change JsString := .keep

abbrev Patch : PimEntityKind → Type
  | .contact => ContactPatch
  | .mailingList => MailingListPatch
  | .calendarEvent => CalendarEventPatch
  | .task => TaskPatch

variable (letters : LetterCase)

def contactPatchSchema (patch : ContactPatch) : Option ContactPatch := do
  return {
    displayName := ← optional (shortText 300) patch.displayName
    name := ← patch.name.parse ContactName.parse
    nickname := ← patch.nickname.parse (shortText 120)
    emails := ← optional (bounded 100 (ContactEmail.parse letters)) patch.emails
    phones := ← optional (bounded 100 (ContactPhone.parse letters)) patch.phones
    addresses := ← optional (bounded 50 (ContactAddress.parse letters)) patch.addresses
    organization := ← patch.organization.parse (shortText 300)
    title := ← patch.title.parse (shortText 300)
    notes := ← patch.notes.parse (shortText 16384) }

def mailingListPatchSchema (patch : MailingListPatch) : Option MailingListPatch := do
  return {
    name := ← optional (shortText 300) patch.name
    nickname := ← patch.nickname.parse (shortText 120)
    description := ← patch.description.parse (shortText 4096)
    memberUids := ← optional (memberUidsSchema letters) patch.memberUids }

def calendarEventPatchSchema (patch : CalendarEventPatch) : Option CalendarEventPatch := do
  return { patch with
    title := ← optional (shortText 500) patch.title
    description := ← patch.description.parse (shortText 32768)
    location := ← patch.location.parse (shortText 1000)
    start := ← optional temporalValueSchema patch.start
    finish := ← optional temporalValueSchema patch.finish
    recurrence := ← patch.recurrence.parse Recurrence.parse
    organizer := ← patch.organizer.parse Attendee.parse
    attendees := ← optional (bounded 1000 Attendee.parse) patch.attendees
    alarms := ← optional (bounded 100 Alarm.parse) patch.alarms
    categories := ← optional (bounded 100 (shortText 100)) patch.categories }

def taskPatchSchema (patch : TaskPatch) : Option TaskPatch := do
  let parsed := { patch with
    title := ← optional (shortText 500) patch.title
    description := ← patch.description.parse (shortText 32768)
    entry := ← patch.entry.parse temporalValueSchema
    due := ← patch.due.parse temporalValueSchema
    completedAt := ← patch.completedAt.parse isoDateTimeSchema
    categories := ← optional (bounded 100 (shortText 100)) patch.categories
    recurrence := ← patch.recurrence.parse Recurrence.parse
    sourceRevision := ← patch.sourceRevision.parse (shortText 500) }
  if (∀ value ∈ parsed.priority, value ≤ 9) ∧ ∀ value ∈ parsed.percentComplete, value ≤ 100 then some parsed else none

def patchSchema : (kind : PimEntityKind) → Patch kind → Option (Patch kind)
  | .contact => contactPatchSchema letters
  | .mailingList => mailingListPatchSchema letters
  | .calendarEvent => calendarEventPatchSchema
  | .task => taskPatchSchema

/-- `applyPatch`. A cleared name is empty. -/
def applyPatch : (kind : PimEntityKind) → Content kind → Patch kind → Content kind
  | .contact, (current : ContactContent), (patch : ContactPatch) => ({
      displayName := patch.displayName.getD current.displayName
      name := match patch.name with
        | .keep => current.name
        | .clear => {}
        | .set name => name
      nickname := patch.nickname.apply current.nickname
      emails := patch.emails.getD current.emails
      phones := patch.phones.getD current.phones
      addresses := patch.addresses.getD current.addresses
      organization := patch.organization.apply current.organization
      title := patch.title.apply current.title
      notes := patch.notes.apply current.notes } : ContactContent)
  | .mailingList, (current : MailingListContent), (patch : MailingListPatch) => ({
      name := patch.name.getD current.name
      nickname := patch.nickname.apply current.nickname
      description := patch.description.apply current.description
      memberUids := patch.memberUids.getD current.memberUids } : MailingListContent)
  | .calendarEvent, (current : CalendarEventContent), (patch : CalendarEventPatch) => ({
      title := patch.title.getD current.title
      description := patch.description.apply current.description
      location := patch.location.apply current.location
      start := patch.start.getD current.start
      finish := patch.finish.getD current.finish
      recurrence := patch.recurrence.apply current.recurrence
      organizer := patch.organizer.apply current.organizer
      attendees := patch.attendees.getD current.attendees
      alarms := patch.alarms.getD current.alarms
      categories := patch.categories.getD current.categories
      status := patch.status.getD current.status
      transparency := patch.transparency.getD current.transparency } : CalendarEventContent)
  | .task, (current : TaskContent), (patch : TaskPatch) => ({
      title := patch.title.getD current.title
      description := patch.description.apply current.description
      status := patch.status.getD current.status
      entry := patch.entry.apply current.entry
      due := patch.due.apply current.due
      priority := patch.priority.getD current.priority
      percentComplete := patch.percentComplete.getD current.percentComplete
      completedAt := patch.completedAt.apply current.completedAt
      categories := patch.categories.getD current.categories
      recurrence := patch.recurrence.apply current.recurrence
      sourceRevision := patch.sourceRevision.apply current.sourceRevision } : TaskContent)

/-- `normalizeTaskContent`: what a status implies for a task's progress. -/
def normalizeTaskContent (content : TaskContent) (now : JsString) : TaskContent :=
  if content.status = .completed then
    { content with percentComplete := 100, completedAt := some (content.completedAt.getD now) }
  else
    { content with
      completedAt := none
      percentComplete := if 100 ≤ content.percentComplete then 99 else content.percentComplete }

end Patches

section Drafts

/-- What the clock says and which identifiers the factory makes, in turn, while a mutator runs. -/
structure Surroundings where
  clock : Option Int
  ids : Nat → JsString

structure Draft where
  state : PersistedPimState
  drawn : Nat

def orInvalid : Option α → Except PimError α
  | some value => .ok value
  | none => .error .invalid

/-- `#now`. -/
def Surroundings.now (env : Surroundings) : Except PimError JsString :=
  match env.clock with
  | some instant => .ok (JsDate.toISOString instant)
  | none => .error (.type (ofString "The PIM clock returned an invalid date."))

def PersistedPimState.setCollection (state : PersistedPimState) (kind : PimEntityKind) (entities : List (Entity kind)) :
    PersistedPimState :=
  { state with collection := Function.update state.collection kind entities }

def Draft.setCollection (draft : Draft) (kind : PimEntityKind) (entities : List (Entity kind)) : Draft :=
  { draft with state := draft.state.setCollection kind entities }

def Draft.countMutation (draft : Draft) : PimEntityKind → Draft
  | .task => { draft with state := { draft.state with taskMutationVersion := draft.state.taskMutationVersion + 1 } }
  | _ => draft

def PersistedPimState.find (state : PersistedPimState) (kind : PimEntityKind) (uid : JsString) : Option (Entity kind) :=
  Keyed.get Entity.uid uid (state.collection kind)

/-- `#isHistoricalUid`. -/
def isHistoricalUid (state : PersistedPimState) (kind : PimEntityKind) (uid : JsString) : Bool :=
  state.transactions.any fun transaction => transaction.entityKind = kind && transaction.entityUid = uid

/-- `isKnown` of `#availableUid`. -/
def isKnown (state : PersistedPimState) (kind : PimEntityKind) (uid : JsString) : Bool :=
  (state.collection kind).any (·.uid = uid) || isHistoricalUid state kind uid

def drawUid (env : Surroundings) (taken : JsString → Bool) (exhausted : PimError) :
    Nat → Draft → Except PimError (Draft × JsString)
  | 0, _ => .error exhausted
  | attempts + 1, draft => do
    let uid ← orInvalid (uidSchema (env.ids draft.drawn))
    let draft := { draft with drawn := draft.drawn + 1 }
    if taken uid then drawUid env taken exhausted attempts draft else return (draft, uid)

def PimEntityKind.name : PimEntityKind → JsString
  | .contact => ofString "contact"
  | .mailingList => ofString "mailing-list"
  | .calendarEvent => ofString "calendar-event"
  | .task => ofString "task"

def PimEntityKind.label : PimEntityKind → JsString
  | .contact => ofString "Contact"
  | .mailingList => ofString "Mailing list"
  | .calendarEvent => ofString "Calendar event"
  | .task => ofString "Task"

/-- `#availableUid`. -/
def availableUid (env : Surroundings) (kind : PimEntityKind) (requested : Option JsString) (draft : Draft) :
    Except PimError (Draft × JsString) :=
  match requested with
  | some requested => do
    let uid ← orInvalid (uidSchema requested)
    if isKnown draft.state kind uid then
      .error (.conflict (kind.name ++ ofString " UID " ++ uid ++
        ofString " already exists or is reserved by its history."))
    else return (draft, uid)
  | none => drawUid env (isKnown draft.state kind)
      (.conflict (ofString "Could not allocate a unique " ++ kind.name ++ ofString " UID.")) 100 draft

/-- `requested ?? availableUid`: imports take a requested UID as it is. -/
def requestedUid (env : Surroundings) (kind : PimEntityKind) (requested : Option JsString) (draft : Draft) :
    Except PimError (Draft × JsString) :=
  match requested with
  | some uid => .ok (draft, uid)
  | none => availableUid env kind none draft

def PimTransaction.revision (transaction : PimTransaction) : Nat :=
  max ((transaction.before.map (·.revision)).getD 0) ((transaction.after.map (·.revision)).getD 0)

def PimTransaction.concerns (transaction : PimTransaction) (kind : PimEntityKind) (uid : JsString) : Bool :=
  transaction.entityKind = kind && transaction.entityUid = uid

/-- `#latestRevision`. -/
def latestRevision (state : PersistedPimState) (kind : PimEntityKind) (uid : JsString) : Nat :=
  (state.transactions.filter (·.concerns kind uid)).foldl (fun revision transaction => max revision transaction.revision)
    (((state.find kind uid).map (·.revision)).getD 0)

/-- `#assertContactsExist`. -/
def assertContactsExist (state : PersistedPimState) (memberUids : List JsString) : Except PimError Unit :=
  let missing := memberUids.filter fun uid => !(state.collection .contact).any (·.uid = uid)
  if missing = [] then .ok ()
  else .error (.conflict (ofString "Mailing-list members do not exist: " ++
    (missing.intersperse (ofString ", ")).flatten ++ ofString "."))

variable (letters : LetterCase)

/-- `#record`. -/
def record (env : Surroundings) (action : TransactionAction) (kind : PimEntityKind) (uid : JsString)
    (before after : Option (Entity kind)) (occurredAt : JsString) (draft : Draft) : Except PimError Draft := do
  let beforeSnapshot ← orInvalid (optional (entitySchema letters kind) before)
  let afterSnapshot ← orInvalid (optional (entitySchema letters kind) after)
  let (draft, id) ← drawUid env (fun id => draft.state.transactions.any (·.id = id))
    (.conflict (ofString "Could not allocate a unique PIM transaction UID.")) 101 draft
  let transaction ← orInvalid (pimTransactionSchema letters
    ⟨id, draft.state.nextTransactionSequence, occurredAt, action, kind, uid, beforeSnapshot, afterSnapshot⟩)
  return { draft with
    state := { draft.state with
      transactions := draft.state.transactions ++ [transaction]
      nextTransactionSequence := draft.state.nextTransactionSequence + 1 } }

/-- What a mutator decides: whether its draft is to be stored, and its result. -/
structure Decision (α : Type) where
  changed : Bool
  result : α

/-- `AtomicJsonStore.mutate`, where nothing goes wrong with the files. -/
def mutate (mutator : Draft → Except PimError (Draft × Decision α)) (state : PersistedPimState) :
    Except PimError (PersistedPimState × α) := do
  let (draft, decision) ← mutator ⟨state, 0⟩
  if decision.changed then return (← orInvalid (persistedPimStateSchema letters draft.state), decision.result)
  else return (state, decision.result)

end Drafts

section Entities

variable (letters : LetterCase)

def assertReferences : (kind : PimEntityKind) → Content kind → PersistedPimState → Except PimError Unit
  | .mailingList, (content : MailingListContent), state => assertContactsExist state content.memberUids
  | _, _, _ => .ok ()

def assertPatchReferences : (kind : PimEntityKind) → Patch kind → PersistedPimState → Except PimError Unit
  | .mailingList, (patch : MailingListPatch), state =>
    match patch.memberUids with
    | some memberUids => assertContactsExist state memberUids
    | none => .ok ()
  | _, _, _ => .ok ()

def normalizeContent : (kind : PimEntityKind) → Content kind → Except PimError JsString → Except PimError (Content kind)
  | .task, (content : TaskContent), now => do return normalizeTaskContent content (← now)
  | .contact, content, _ => .ok content
  | .mailingList, content, _ => .ok content
  | .calendarEvent, content, _ => .ok content

def insertEntity (env : Surroundings) (kind : PimEntityKind) (uid : JsString) (content : Content kind)
    (revision : Nat) (now : JsString) (draft : Draft) : Except PimError (Draft × Entity kind) := do
  let entity ← orInvalid (entitySchema letters kind ⟨uid, content, now, now, revision⟩)
  let draft := draft.setCollection kind (draft.state.collection kind ++ [entity])
  return (← record letters env .created kind entity.uid none (some entity) now draft, entity)

def replaceEntity (env : Surroundings) (kind : PimEntityKind) (current : Entity kind) (updated : Entity kind)
    (now : JsString) (draft : Draft) : Except PimError (Draft × Entity kind) := do
  let entity ← orInvalid (entitySchema letters kind updated)
  let draft := draft.setCollection kind
    (Keyed.edit Entity.uid current.uid (fun _ => entity) (draft.state.collection kind))
  return (← record letters env .updated kind current.uid (some current) (some entity) now draft, entity)

/-- `createContact` and its like. -/
def create (env : Surroundings) (kind : PimEntityKind) (input : CreateInput kind) (state : PersistedPimState) :
    Except PimError (PersistedPimState × Entity kind) := do
  let parsed ← orInvalid (createSchema letters kind input)
  mutate letters (fun draft => do
    assertReferences kind parsed.content draft.state
    let (draft, uid) ← availableUid env kind parsed.uid draft
    let now ← env.now
    let content ← normalizeContent kind parsed.content env.now
    let (draft, entity) ← insertEntity letters env kind uid content 1 now draft
    return (draft.countMutation kind, ⟨true, entity⟩)) state

def notFound (kind : PimEntityKind) (uid : JsString) : PimError :=
  .notFound (kind.label ++ ofString " " ++ uid ++ ofString " does not exist.")

/-- `updateContact` and its like. -/
def update (env : Surroundings) (kind : PimEntityKind) (uid : JsString) (patch : Patch kind)
    (state : PersistedPimState) : Except PimError (PersistedPimState × Entity kind) := do
  let validatedUid ← orInvalid (uidSchema uid)
  let parsedPatch ← orInvalid (patchSchema letters kind patch)
  mutate letters (fun draft =>
    match draft.state.find kind validatedUid with
    | none => .error (notFound kind validatedUid)
    | some current => do
      assertPatchReferences kind parsedPatch draft.state
      let content ← normalizeContent kind (applyPatch kind current.content parsedPatch) env.now
      let candidate ← orInvalid (entitySchema letters kind { current with content := content })
      if current.content = candidate.content then return (draft, ⟨false, current⟩)
      else do
        let now ← env.now
        let updated := { candidate with
          uid := current.uid, createdAt := current.createdAt, updatedAt := now, revision := current.revision + 1 }
        let (draft, entity) ← replaceEntity letters env kind current updated now draft
        return (draft.countMutation kind, ⟨true, entity⟩)) state

/-- `deleteContact` and its like. -/
def delete (env : Surroundings) (kind : PimEntityKind) (uid : JsString) (state : PersistedPimState) :
    Except PimError (PersistedPimState × Bool) := do
  let validatedUid ← orInvalid (uidSchema uid)
  mutate letters (fun draft =>
    match draft.state.find kind validatedUid with
    | none => .ok (draft, ⟨false, false⟩)
    | some current => do
      let entities := (draft.state.collection kind).eraseP (·.uid = validatedUid)
      let draft ← record letters env .deleted kind current.uid (some current) none (← env.now)
        (draft.setCollection kind entities)
      return (draft.countMutation kind, ⟨true, true⟩)) state

def PimTransaction.snapshots (transaction : PimTransaction) (kind : PimEntityKind) :
    Option (Entity kind) × Option (Entity kind) :=
  if same : transaction.entityKind = kind then (same ▸ transaction.before, same ▸ transaction.after) else (none, none)

/-- `#restoreSource`. -/
def restoreSource (state : PersistedPimState) (kind : PimEntityKind) (uid : JsString) (transactionId : Option JsString) :
    Option (Entity kind) := do
  let transaction ← match transactionId with
    | some id => state.transactions.find? fun candidate => candidate.id = id && candidate.concerns kind uid
    | none => state.transactions.reverse.find? fun candidate =>
        candidate.concerns kind uid && (candidate.before.or candidate.after).isSome
  let (before, after) := transaction.snapshots kind
  if transaction.action = .created then after else before.or after

/-- The mutator of `#restore`. -/
def restoreIn (env : Surroundings) (kind : PimEntityKind) (uid : JsString) (transactionId : Option JsString)
    (draft : Draft) : Except PimError (Draft × Decision (Entity kind)) := do
  let current := draft.state.find kind uid
  match restoreSource draft.state kind uid transactionId with
  | none => .error (.notFound (ofString "No restorable " ++ kind.name ++ ofString " revision exists for " ++ uid ++
      ofString "."))
  | some source =>
    match current.filter fun entity => entity.content = source.content with
    | some entity => return (draft, ⟨false, entity⟩)
    | none => do
      let now ← env.now
      let restored ← orInvalid (entitySchema letters kind { source with
        uid := uid, updatedAt := now, revision := latestRevision draft.state kind uid + 1 })
      let draft ← record letters env .restored kind uid current (some restored) now
        (draft.setCollection kind (Keyed.put Entity.uid restored (draft.state.collection kind)))
      return (draft.countMutation kind, ⟨true, restored⟩)

/-- `#restore`. -/
def restore (env : Surroundings) (kind : PimEntityKind) (uid : JsString) (sourceTransactionId : Option JsString)
    (state : PersistedPimState) : Except PimError (PersistedPimState × Entity kind) := do
  let validatedUid ← orInvalid (uidSchema uid)
  let validatedTransactionId ← orInvalid (optional uidSchema sourceTransactionId)
  mutate letters (restoreIn letters env kind validatedUid validatedTransactionId) state

def createContact (env : Surroundings) := create letters env .contact
def createMailingList (env : Surroundings) := create letters env .mailingList
def createCalendarEvent (env : Surroundings) := create letters env .calendarEvent
def createTask (env : Surroundings) := create letters env .task

def updateContact (env : Surroundings) := update letters env .contact
def updateMailingList (env : Surroundings) := update letters env .mailingList
def updateCalendarEvent (env : Surroundings) := update letters env .calendarEvent
def updateTask (env : Surroundings) := update letters env .task

def deleteContact (env : Surroundings) := delete letters env .contact
def deleteMailingList (env : Surroundings) := delete letters env .mailingList
def deleteCalendarEvent (env : Surroundings) := delete letters env .calendarEvent
def deleteTask (env : Surroundings) := delete letters env .task

def restoreContact (env : Surroundings) := restore letters env .contact
def restoreMailingList (env : Surroundings) := restore letters env .mailingList
def restoreCalendarEvent (env : Surroundings) := restore letters env .calendarEvent
def restoreTask (env : Surroundings) := restore letters env .task

end Entities

section Imports

inductive ImportOutcome where
  | created
  | updated
  | unchanged
  | skipped
  deriving DecidableEq, Repr

/-- What becomes of one record of an import, with the entity, if the record is not left out. -/
abbrev Imported (kind : PimEntityKind) := ImportOutcome × Option (Entity kind)

def ImportOutcome.changes (outcome : ImportOutcome) : Bool := outcome = .created || outcome = .updated

variable (letters : LetterCase) (env : Surroundings)

def mergeRecord (kind : PimEntityKind) (current : Entity kind) (content : Content kind) (now : JsString)
    (draft : Draft) : Except PimError (Draft × Imported kind) := do
  let candidate ← orInvalid (entitySchema letters kind { current with content := content })
  if current.content = candidate.content then return (draft, .unchanged, some current)
  else do
    let updated := { candidate with
      createdAt := current.createdAt, updatedAt := now, revision := current.revision + 1 }
    let (draft, entity) ← replaceEntity letters env kind current updated now draft
    return (draft, .updated, some entity)

def historyConflict (kind : PimEntityKind) (uid : JsString) : PimError :=
  let (label, name) := match kind with
    | .contact => (ofString "Contact", ofString "contact")
    | .mailingList => (ofString "Mailing-list", ofString "list")
    | kind => (kind.label, kind.name)
  .conflict (label ++ ofString " UID " ++ uid ++ ofString " belongs to deleted history; restore that " ++ name ++
    ofString " before importing an update.")

/-- The loops of `importVCard`: what they do with a contact and a mailing list. -/
def importCard (kind : PimEntityKind) (input : CreateInput kind) (now : JsString) (draft : Draft) :
    Except PimError (Draft × Imported kind) := do
  let (draft, uid) ← requestedUid env kind input.uid draft
  match draft.state.find kind uid with
  | some current => mergeRecord letters env kind current input.content now draft
  | none =>
    if isHistoricalUid draft.state kind uid then
      .error (historyConflict kind uid)
    else do
      let revision := latestRevision draft.state kind uid + 1
      let (draft, entity) ← insertEntity letters env kind uid input.content revision now draft
      return (draft, .created, some entity)

def importAll (importOne : α → Draft → Except PimError (Draft × β)) :
    List α → Draft → Except PimError (Draft × List β)
  | [], draft => .ok (draft, [])
  | record :: records, draft => do
    let (draft, outcome) ← importOne record draft
    let (draft, outcomes) ← importAll importOne records draft
    return (draft, outcome :: outcomes)

structure VCardImportResult where
  contacts : List (Imported .contact)
  mailingLists : List (Imported .mailingList)

def importContact (rawContact : CreateInput .contact) (now : JsString) (draft : Draft) :
    Except PimError (Draft × Imported .contact) := do
  importCard letters env .contact (← orInvalid (createSchema letters .contact rawContact)) now draft

def resolveMember (state : PersistedPimState) (address : JsString) : Except PimError JsString :=
  match (state.collection .contact).filter fun contact =>
      contact.content.emails.any fun email => letters.lower email.value = letters.lower address with
  | [contact] => .ok contact.uid
  | [] => .error (.conflict (ofString "Mailing-list member " ++ address ++
      ofString " does not match an imported or existing contact."))
  | _ => .error (.conflict (ofString "Mailing-list member " ++ address ++ ofString " matches more than one contact."))

def importMailingList (rawList : ParsedVCardMailingList) (now : JsString) (draft : Draft) :
    Except PimError (Draft × Imported .mailingList) := do
  let withoutEmailMembers ← orInvalid (createSchema letters .mailingList rawList.input)
  let resolved ← rawList.memberEmailAddresses.mapM (resolveMember letters draft.state)
  let content : MailingListContent := withoutEmailMembers.content
  let memberUids := (content.memberUids ++ resolved).eraseDups
  let input ← orInvalid (createSchema letters .mailingList
    ⟨withoutEmailMembers.uid, ({ content with memberUids := memberUids } : MailingListContent)⟩)
  let parsed : MailingListContent := input.content
  assertContactsExist draft.state parsed.memberUids
  importCard letters env .mailingList input now draft

/-- `importVCard`, of a source that `parseVCardBundle` accepts. -/
def importVCard (parsed : ParsedVCardBundle) (state : PersistedPimState) :
    Except PimError (PersistedPimState × VCardImportResult) :=
  mutate letters (fun draft => do
    let now ← env.now
    let (draft, contacts) ← importAll (fun contact => importContact letters env contact now) parsed.contacts draft
    let (draft, lists) ← importAll (fun list => importMailingList letters env list now) parsed.mailingLists draft
    let changed := contacts.any (·.1.changes) || lists.any (·.1.changes)
    return (draft, ⟨changed, ⟨contacts, lists⟩⟩)) state

inductive ICalendarDuplicatePolicy where
  | skip
  | update
  deriving DecidableEq, Repr

structure ICalendarImportResult where
  events : List (Imported .calendarEvent)
  tasks : List (Imported .task)

/-- The loops of `importICalendar`: what they do with an event and a task; `other` is the kind that must
not use the UID as well. -/
def importComponent (kind other : PimEntityKind) (policy : ICalendarDuplicatePolicy) (rawInput : CreateInput kind)
    (now : JsString) (draft : Draft) : Except PimError (Draft × Imported kind) := do
  let input ← orInvalid (createSchema letters kind rawInput)
  let uid ← orInvalid input.uid
  let current := draft.state.find kind uid
  let reserved := isHistoricalUid draft.state kind uid && current.isNone
  if reserved || isKnown draft.state other uid then
    match policy with
    | .skip => return (draft, .skipped, none)
    | .update => .error (.conflict (ofString "iCalendar UID " ++ uid ++
        ofString " is reserved by deleted history or another local record type."))
  else do
    let content ← normalizeContent kind input.content (.ok now)
    match current, policy with
    | some current, .skip => return (draft, .skipped, some current)
    | some current, .update => do
      let (draft, imported) ← mergeRecord letters env kind current content now draft
      return (if imported.1.changes then draft.countMutation kind else draft, imported)
    | none, _ => do
      let (draft, entity) ← insertEntity letters env kind uid content 1 now draft
      return (draft.countMutation kind, .created, some entity)

/-- `importICalendar`, of a source that `parseICalendarBundle` accepts. -/
def importICalendar (parsed : ParsedICalendarBundle) (policy : ICalendarDuplicatePolicy) (state : PersistedPimState) :
    Except PimError (PersistedPimState × ICalendarImportResult) :=
  mutate letters (fun draft => do
    let now ← env.now
    let (draft, events) ← importAll
      (fun event => importComponent letters env .calendarEvent .task policy event now) parsed.events draft
    let (draft, tasks) ← importAll
      (fun task => importComponent letters env .task .calendarEvent policy task now) parsed.tasks draft
    let changed := events.any (·.1.changes) || tasks.any (·.1.changes)
    return (draft, ⟨changed, ⟨events, tasks⟩⟩)) state

end Imports

section Refresh

/-- A task as the loader of a refresh gives it. Its title is always there. -/
structure TaskRefreshInput where
  uid : JsString
  patch : TaskPatch

def taskRefreshInputSchema (input : TaskRefreshInput) : Option TaskRefreshInput := do
  let parsed : TaskRefreshInput := ⟨← uidSchema input.uid, ← taskPatchSchema input.patch⟩
  let value (change : Change TemporalValue) : Option TemporalValue := change.apply none
  if parsed.patch.title.isSome ∧ dueInTime (value parsed.patch.entry) (value parsed.patch.due) then some parsed
  else none

inductive RefreshReason where
  | applied
  | superseded
  | localStateChanged
  deriving DecidableEq, Repr

structure TaskRefreshResult where
  requestId : Nat
  reason : RefreshReason
  tasks : List (Imported .task)

variable (letters : LetterCase) (env : Surroundings)

/-- The loop of `refreshTasks`: what it does with a task. -/
def refreshTask (incoming : TaskRefreshInput) (now : JsString) (draft : Draft) :
    Except PimError (Draft × Imported .task) := do
  match draft.state.find .task incoming.uid with
  | none =>
    if isHistoricalUid draft.state .task incoming.uid then
      .error (.conflict (ofString "Task UID " ++ incoming.uid ++
        ofString " belongs to deleted history; restore that task before refreshing an update."))
    else do
      let parsedNew ← orInvalid (createSchema letters .task
        ⟨some incoming.uid, applyPatch .task ({ title := [] } : TaskContent) incoming.patch⟩)
      let content := normalizeTaskContent parsedNew.content now
      let revision := latestRevision draft.state .task incoming.uid + 1
      let (draft, entity) ← insertEntity letters env .task incoming.uid content revision now draft
      return (draft, .created, some entity)
  | some current =>
    mergeRecord letters env .task current (normalizeTaskContent (applyPatch .task current.content incoming.patch) now)
      now draft

/-- What `refreshTasks` does once the loader has answered; `latestRequest` is the last refresh that was
begun and `baseline` the version of the tasks that this one began with. -/
def refreshTasks (requestId latestRequest baseline : Nat) (rawTasks : List TaskRefreshInput)
    (state : PersistedPimState) : Except PimError (PersistedPimState × TaskRefreshResult) :=
  if requestId ≠ latestRequest then .ok (state, ⟨requestId, .superseded, []⟩)
  else if state.taskMutationVersion ≠ baseline then .ok (state, ⟨requestId, .localStateChanged, []⟩)
  else do
    let refreshed ← orInvalid (bounded 100000 taskRefreshInputSchema rawTasks)
    if ¬ (refreshed.map (·.uid)).Nodup then
      .error (.conflict (ofString "A task refresh cannot contain duplicate UIDs."))
    else
      mutate letters (fun draft => do
        let now ← env.now
        let (draft, tasks) ← importAll (fun task => refreshTask letters env task now) refreshed draft
        let changed := tasks.any (·.1.changes)
        return (if changed then draft.countMutation .task else draft, ⟨changed, ⟨requestId, .applied, tasks⟩⟩)) state

end Refresh

end Pim
