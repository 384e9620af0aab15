import MaterialEmail.Library.JsDate

/-! The records of the personal information manager and the schemas that they pass. A schema refuses a
value or returns it in normal form. -/
namespace Pim

open JsString

section Texts

/-- `z.string().trim().min(1).max(maximum)`. -/
def shortText (maximum : Nat) (value : JsString) : Option JsString :=
  if 1 ≤ value.trim.length ∧ value.trim.length ≤ maximum then some value.trim else none

/-- A schema for a value that may be left out. -/
def optional (schema : α → Option α) : Option α → Option (Option α)
  | none => some none
  | some value => (schema value).map some

def optionalText (maximum : Nat) : Option JsString → Option (Option JsString) := optional (shortText maximum)

def uidSchema (value : JsString) : Option JsString :=
  (shortText 255 value).filter fun uid => uid.all fun unit => !isControl unit

def isoDateTimeSchema (value : JsString) : Option JsString :=
  if (JsDate.readDateTime value).isSome ∧ value.length ≤ 64 then some value else none

/-- A calendar date; `Date.UTC` takes the years below 100 for years of the twentieth century. -/
def localDateSchema (value : JsString) : Option JsString :=
  match JsDate.readDate value with
  | some (date, []) => if date.Real ∧ 100 ≤ date.year then some value else none
  | _ => none

/-- `[A-Za-z0-9_'+\-.]`. -/
def isMailboxUnit (unit : UInt16) : Bool :=
  isAlphanumeric unit || unit = 95 || unit = 39 || unit = 43 || unit = 45 || unit = 46

def isDomainLabel : JsString → Bool
  | [] => false
  | first :: rest => isAlphanumeric first && rest.all fun unit => isAlphanumeric unit || unit = 45

/-- The pattern of `z.email()`. -/
def isEmail (value : JsString) : Bool :=
  match value.splitOn 64 with
  | [mailbox, domain] =>
    let labels := domain.splitOn 46
    mailbox.all isMailboxUnit && mailbox.head? ≠ some 46 &&
      (mailbox.getLast?.any fun unit => isMailboxUnit unit && unit ≠ 46 && unit ≠ 39) &&
      (value.splitOn 46).tail.dropLast.all (· ≠ []) && 2 ≤ labels.length && labels.dropLast.all isDomainLabel &&
      (labels.getLast?.any fun label => 2 ≤ label.length && label.all isLetter)
  | _ => false

def emailSchema (value : JsString) : Option JsString :=
  if isEmail value ∧ value.length ≤ 320 then some value else none

/-- `z.array(schema).max(maximum)`. -/
def bounded (maximum : Nat) (schema : α → Option α) (values : List α) : Option (List α) :=
  if values.length ≤ maximum then values.mapM schema else none

variable (letters : LetterCase)

/-- A type of an address, in lower case. Its length is checked before. -/
def typeText (value : JsString) : Option JsString := (shortText 32 value).map letters.lower

def uniqueStrings (values : List JsString) : Prop := (values.map letters.lower).Nodup

instance (values : List JsString) : Decidable (uniqueStrings letters values) := inferInstanceAs (Decidable (List.Nodup _))

end Texts

section Contacts

structure ContactName where
  namePrefix : Option JsString := none
  given : Option JsString := none
  additional : Option JsString := none
  family : Option JsString := none
  suffix : Option JsString := none
  deriving DecidableEq

def ContactName.parse (name : ContactName) : Option ContactName := do
  return {
    namePrefix := ← optionalText 80 name.namePrefix
    given := ← optionalText 120 name.given
    additional := ← optionalText 120 name.additional
    family := ← optionalText 120 name.family
    suffix := ← optionalText 80 name.suffix }

structure ContactEmail where
  value : JsString
  types : List JsString := []
  preferred : Bool := false
  deriving DecidableEq

structure ContactPhone where
  value : JsString
  types : List JsString := []
  preferred : Bool := false
  deriving DecidableEq

structure ContactAddress where
  poBox : Option JsString := none
  extended : Option JsString := none
  street : Option JsString := none
  locality : Option JsString := none
  region : Option JsString := none
  postalCode : Option JsString := none
  country : Option JsString := none
  types : List JsString := []
  preferred : Bool := false
  deriving DecidableEq

/-- The parts of an address that are there. -/
def ContactAddress.components (address : ContactAddress) : List JsString :=
  [address.poBox, address.extended, address.street, address.locality, address.region, address.postalCode,
    address.country].filterMap id

structure ContactContent where
  displayName : JsString
  name : ContactName := {}
  nickname : Option JsString := none
  emails : List ContactEmail := []
  phones : List ContactPhone := []
  addresses : List ContactAddress := []
  organization : Option JsString := none
  title : Option JsString := none
  notes : Option JsString := none
  deriving DecidableEq

variable (letters : LetterCase)

def ContactEmail.parse (email : ContactEmail) : Option ContactEmail := do
  return { email with
    value := ← emailSchema email.value
    types := ← bounded 12 (typeText letters) email.types }

def ContactPhone.parse (phone : ContactPhone) : Option ContactPhone := do
  return { phone with
    value := ← shortText 100 phone.value
    types := ← bounded 12 (typeText letters) phone.types }

def ContactAddress.parse (address : ContactAddress) : Option ContactAddress := do
  let parsed : ContactAddress := {
    poBox := ← optionalText 200 address.poBox
    extended := ← optionalText 500 address.extended
    street := ← optionalText 500 address.street
    locality := ← optionalText 200 address.locality
    region := ← optionalText 200 address.region
    postalCode := ← optionalText 80 address.postalCode
    country := ← optionalText 200 address.country
    types := ← bounded 12 (typeText letters) address.types
    preferred := address.preferred }
  if parsed.components ≠ [] then some parsed else none

/-- `validateContactMethods`. -/
def ContactContent.Consistent (contact : ContactContent) : Prop :=
  uniqueStrings letters (contact.emails.map (·.value)) ∧ (contact.emails.filter (·.preferred)).length ≤ 1 ∧
    uniqueStrings letters (contact.phones.map (·.value)) ∧ (contact.phones.filter (·.preferred)).length ≤ 1 ∧
    (contact.addresses.filter (·.preferred)).length ≤ 1

instance (contact : ContactContent) : Decidable (contact.Consistent letters) :=
  inferInstanceAs (Decidable (_ ∧ _ ∧ _ ∧ _ ∧ _))

def ContactContent.parse (contact : ContactContent) : Option ContactContent := do
  let parsed : ContactContent := {
    displayName := ← shortText 300 contact.displayName
    name := ← contact.name.parse
    nickname := ← optionalText 120 contact.nickname
    emails := ← bounded 100 (ContactEmail.parse letters) contact.emails
    phones := ← bounded 100 (ContactPhone.parse letters) contact.phones
    addresses := ← bounded 50 (ContactAddress.parse letters) contact.addresses
    organization := ← optionalText 300 contact.organization
    title := ← optionalText 300 contact.title
    notes := ← optionalText 16384 contact.notes }
  if parsed.Consistent letters then some parsed else none

structure MailingListContent where
  name : JsString
  nickname : Option JsString := none
  description : Option JsString := none
  memberUids : List JsString := []
  deriving DecidableEq

def memberUidsSchema (uids : List JsString) : Option (List JsString) :=
  (bounded 10000 uidSchema uids).filter fun uids => decide (uniqueStrings letters uids)

def MailingListContent.parse (list : MailingListContent) : Option MailingListContent := do
  return {
    name := ← shortText 300 list.name
    nickname := ← optionalText 120 list.nickname
    description := ← optionalText 4096 list.description
    memberUids := ← memberUidsSchema letters list.memberUids }

end Contacts

section Calendar

/-- A calendar date, or a date with a time of day. -/
inductive TemporalValue where
  | date (value : JsString)
  | dateTime (value : JsString) (timeZone : Option JsString)
  deriving DecidableEq

def TemporalValue.isDate : TemporalValue → Bool
  | .date _ => true
  | .dateTime _ _ => false

def temporalValueSchema : TemporalValue → Option TemporalValue
  | .date value => do return .date (← localDateSchema value)
  | .dateTime value timeZone => do return .dateTime (← isoDateTimeSchema value) (← optionalText 100 timeZone)

/-- `temporalOrder`. -/
def temporalOrder : TemporalValue → Option Int
  | .date value => JsDate.parse (value ++ ofString "T00:00:00.000Z")
  | .dateTime value _ => JsDate.parse value

/-- `left < right`, of numbers that may be missing. -/
def before (left right : Option Int) : Bool :=
  match left, right with
  | some left, some right => left < right
  | _, _ => false

inductive Frequency where
  | daily
  | weekly
  | monthly
  | yearly
  deriving DecidableEq, Repr

inductive Weekday where
  | mo
  | tu
  | we
  | th
  | fr
  | sa
  | su
  deriving DecidableEq, Repr

structure Recurrence where
  frequency : Frequency
  interval : Nat := 1
  count : Option Nat := none
  until_ : Option TemporalValue := none
  byWeekday : Option (List Weekday) := none
  byMonthDay : Option (List Int) := none
  weekStart : Option Weekday := none
  additionalDates : List TemporalValue := []
  exceptionDates : List TemporalValue := []
  deriving DecidableEq

/-- A value within bounds. -/
def within (low high : Int) (value : Int) : Prop := low ≤ value ∧ value ≤ high

instance (low high value : Int) : Decidable (within low high value) := inferInstanceAs (Decidable (_ ∧ _))

/-- What the schema asks of the numbers and lists of a recurrence. -/
def Recurrence.Consistent (recurrence : Recurrence) : Prop :=
  within 1 10000 recurrence.interval ∧ (∀ count ∈ recurrence.count, within 1 1000000 count) ∧
    (∀ days ∈ recurrence.byWeekday, days.length ≤ 7 ∧ days.Nodup) ∧
    (∀ days ∈ recurrence.byMonthDay,
      days.length ≤ 62 ∧ (∀ day ∈ days, within (-31) 31 day ∧ day ≠ 0) ∧ days.Nodup) ∧
    ¬ (recurrence.count.isSome ∧ recurrence.until_.isSome)

instance (recurrence : Recurrence) : Decidable recurrence.Consistent :=
  inferInstanceAs (Decidable (_ ∧ _ ∧ _ ∧ _ ∧ _))

def Recurrence.parse (recurrence : Recurrence) : Option Recurrence := do
  let parsed := { recurrence with
    until_ := ← optional temporalValueSchema recurrence.until_
    additionalDates := ← bounded 10000 temporalValueSchema recurrence.additionalDates
    exceptionDates := ← bounded 10000 temporalValueSchema recurrence.exceptionDates }
  if parsed.Consistent then some parsed else none

inductive AttendeeRole where
  | required
  | optional
  | chair
  | nonParticipant
  deriving DecidableEq, Repr

inductive ParticipationStatus where
  | needsAction
  | accepted
  | declined
  | tentative
  | delegated
  deriving DecidableEq, Repr

structure Attendee where
  email : JsString
  name : Option JsString := none
  role : AttendeeRole := .required
  participationStatus : ParticipationStatus := .needsAction
  rsvp : Bool := false
  deriving DecidableEq

def Attendee.parse (attendee : Attendee) : Option Attendee := do
  return { attendee with
    email := ← emailSchema attendee.email
    name := ← optionalText 300 attendee.name }

inductive AlarmAction where
  | display
  | audio
  deriving DecidableEq, Repr

inductive AlarmTrigger where
  | relative (minutes : Int)
  | absolute (moment : JsString)
  deriving DecidableEq

def AlarmTrigger.parse : AlarmTrigger → Option AlarmTrigger
  | .relative minutes => if within (-5256000) 5256000 minutes then some (.relative minutes) else none
  | .absolute moment => (isoDateTimeSchema moment).map .absolute

structure Alarm where
  uid : JsString
  action : AlarmAction := .display
  trigger : AlarmTrigger
  description : Option JsString := none
  deriving DecidableEq

def Alarm.parse (alarm : Alarm) : Option Alarm := do
  return { alarm with
    uid := ← uidSchema alarm.uid
    trigger := ← alarm.trigger.parse
    description := ← optionalText 1000 alarm.description }

inductive EventStatus where
  | tentative
  | confirmed
  | cancelled
  deriving DecidableEq, Repr

inductive Transparency where
  | opaqueTime
  | transparent
  deriving DecidableEq, Repr

structure CalendarEventContent where
  title : JsString
  description : Option JsString := none
  location : Option JsString := none
  start : TemporalValue
  finish : TemporalValue
  recurrence : Option Recurrence := none
  organizer : Option Attendee := none
  attendees : List Attendee := []
  alarms : List Alarm := []
  categories : List JsString := []
  status : EventStatus := .confirmed
  transparency : Transparency := .opaqueTime
  deriving DecidableEq

variable (letters : LetterCase)

/-- `validateEvent`. -/
def CalendarEventContent.Consistent (event : CalendarEventContent) : Prop :=
  event.start.isDate = event.finish.isDate ∧ before (temporalOrder event.start) (temporalOrder event.finish) = true ∧
    uniqueStrings letters (event.attendees.map (·.email)) ∧ (event.alarms.map (·.uid)).Nodup ∧
    ∀ recurrence ∈ event.recurrence, ∀ limit ∈ recurrence.until_, limit.isDate = event.start.isDate

instance (event : CalendarEventContent) : Decidable (event.Consistent letters) :=
  inferInstanceAs (Decidable (_ ∧ _ ∧ _ ∧ _ ∧ _))

def CalendarEventContent.parse (event : CalendarEventContent) : Option CalendarEventContent := do
  let parsed := { event with
    title := ← shortText 500 event.title
    description := ← optionalText 32768 event.description
    location := ← optionalText 1000 event.location
    start := ← temporalValueSchema event.start
    finish := ← temporalValueSchema event.finish
    recurrence := ← optional Recurrence.parse event.recurrence
    organizer := ← optional Attendee.parse event.organizer
    attendees := ← bounded 1000 Attendee.parse event.attendees
    alarms := ← bounded 100 Alarm.parse event.alarms
    categories := ← bounded 100 (shortText 100) event.categories }
  if parsed.Consistent letters then some parsed else none

inductive TaskStatus where
  | needsAction
  | inProgress
  | completed
  | cancelled
  deriving DecidableEq, Repr

structure TaskContent where
  title : JsString
  description : Option JsString := none
  status : TaskStatus := .needsAction
  entry : Option TemporalValue := none
  due : Option TemporalValue := none
  priority : Nat := 0
  percentComplete : Nat := 0
  completedAt : Option JsString := none
  categories : List JsString := []
  recurrence : Option Recurrence := none
  sourceRevision : Option JsString := none
  deriving DecidableEq

/-- `validateTask`: a task is not due before its entry. -/
def dueInTime (entry due : Option TemporalValue) : Prop :=
  ∀ first ∈ entry, ∀ last ∈ due, first.isDate = last.isDate →
    before (temporalOrder last) (temporalOrder first) = false

instance (entry due : Option TemporalValue) : Decidable (dueInTime entry due) :=
  inferInstanceAs (Decidable (∀ first ∈ entry, ∀ last ∈ due, _ → _))

def TaskContent.parse (task : TaskContent) : Option TaskContent := do
  let parsed := { task with
    title := ← shortText 500 task.title
    description := ← optionalText 32768 task.description
    entry := ← optional temporalValueSchema task.entry
    due := ← optional temporalValueSchema task.due
    completedAt := ← optional isoDateTimeSchema task.completedAt
    categories := ← bounded 100 (shortText 100) task.categories
    recurrence := ← optional Recurrence.parse task.recurrence
    sourceRevision := ← optionalText 500 task.sourceRevision }
  if task.priority ≤ 9 ∧ task.percentComplete ≤ 100 ∧ dueInTime parsed.entry parsed.due then some parsed else none

end Calendar

section Entities

inductive PimEntityKind where
  | contact
  | mailingList
  | calendarEvent
  | task
  deriving DecidableEq, Repr

/-- What an entity of a kind holds beside its metadata. -/
abbrev Content : PimEntityKind → Type
  | .contact => ContactContent
  | .mailingList => MailingListContent
  | .calendarEvent => CalendarEventContent
  | .task => TaskContent

instance : (kind : PimEntityKind) → DecidableEq (Content kind)
  | .contact => inferInstanceAs (DecidableEq ContactContent)
  | .mailingList => inferInstanceAs (DecidableEq MailingListContent)
  | .calendarEvent => inferInstanceAs (DecidableEq CalendarEventContent)
  | .task => inferInstanceAs (DecidableEq TaskContent)

structure Entity (kind : PimEntityKind) where
  uid : JsString
  content : Content kind
  createdAt : JsString
  updatedAt : JsString
  revision : Nat
  deriving DecidableEq

/-- What is asked for when an entity is created. -/
structure CreateInput (kind : PimEntityKind) where
  uid : Option JsString
  content : Content kind

inductive TransactionAction where
  | created
  | updated
  | deleted
  | restored
  deriving DecidableEq, Repr

/-- The snapshots are of the kind of the transaction. -/
structure PimTransaction where
  id : JsString
  sequence : Nat
  occurredAt : JsString
  action : TransactionAction
  entityKind : PimEntityKind
  entityUid : JsString
  before : Option (Entity entityKind)
  after : Option (Entity entityKind)

structure PersistedPimState where
  collection : (kind : PimEntityKind) → List (Entity kind)
  transactions : List PimTransaction
  nextTransactionSequence : Nat
  taskMutationVersion : Nat

variable (letters : LetterCase)

/-- The schema of an entity's own fields. -/
def contentSchema : (kind : PimEntityKind) → Content kind → Option (Content kind)
  | .contact => ContactContent.parse letters
  | .mailingList => MailingListContent.parse letters
  | .calendarEvent => CalendarEventContent.parse letters
  | .task => TaskContent.parse

/-- `createContactSchema` and its like. -/
def createSchema (kind : PimEntityKind) (input : CreateInput kind) : Option (CreateInput kind) := do
  return ⟨← optional uidSchema input.uid, ← contentSchema letters kind input.content⟩

/-- `contactSchema` and its like. -/
def entitySchema (kind : PimEntityKind) (entity : Entity kind) : Option (Entity kind) := do
  let parsed : Entity kind := {
    uid := ← uidSchema entity.uid
    content := ← contentSchema letters kind entity.content
    createdAt := ← isoDateTimeSchema entity.createdAt
    updatedAt := ← isoDateTimeSchema entity.updatedAt
    revision := entity.revision }
  if 0 < parsed.revision then some parsed else none

/-- Which snapshots a transaction has. -/
def TransactionAction.Snapshots (action : TransactionAction) (before after : Option α) : Prop :=
  match action with
  | .created => before.isNone ∧ after.isSome
  | .updated => before.isSome ∧ after.isSome
  | .deleted => before.isSome ∧ after.isNone
  | .restored => after.isSome

instance (action : TransactionAction) (before after : Option α) : Decidable (action.Snapshots before after) :=
  match action with
  | .created => inferInstanceAs (Decidable (_ ∧ _))
  | .updated => inferInstanceAs (Decidable (_ ∧ _))
  | .deleted => inferInstanceAs (Decidable (_ ∧ _))
  | .restored => inferInstanceAs (Decidable (_ = _))

def pimTransactionSchema (transaction : PimTransaction) : Option PimTransaction := do
  let parsed := { transaction with
    id := ← uidSchema transaction.id
    occurredAt := ← isoDateTimeSchema transaction.occurredAt
    entityUid := ← uidSchema transaction.entityUid
    before := ← optional (entitySchema letters transaction.entityKind) transaction.before
    after := ← optional (entitySchema letters transaction.entityKind) transaction.after }
  if 0 < parsed.sequence ∧ (∀ entity ∈ parsed.before, entity.uid = parsed.entityUid) ∧
      (∀ entity ∈ parsed.after, entity.uid = parsed.entityUid) ∧ parsed.action.Snapshots parsed.before parsed.after then
    some parsed
  else none

def allKinds : List PimEntityKind := [.contact, .mailingList, .calendarEvent, .task]

/-- What `persistedPimStateSchema` asks of the state as a whole. -/
def PersistedPimState.Consistent (state : PersistedPimState) : Prop :=
  (∀ kind ∈ allKinds, ((state.collection kind).map (·.uid)).Nodup) ∧ (state.transactions.map (·.id)).Nodup ∧
    state.transactions.IsChain (fun earlier later => earlier.sequence < later.sequence) ∧
    ((state.transactions.getLast?.map (·.sequence)).getD 0) + 1 ≤ state.nextTransactionSequence

instance (state : PersistedPimState) : Decidable state.Consistent :=
  inferInstanceAs (Decidable (_ ∧ _ ∧ _ ∧ _))

def persistedPimStateSchema (state : PersistedPimState) : Option PersistedPimState := do
  let contacts ← (state.collection .contact).mapM (entitySchema letters .contact)
  let mailingLists ← (state.collection .mailingList).mapM (entitySchema letters .mailingList)
  let calendarEvents ← (state.collection .calendarEvent).mapM (entitySchema letters .calendarEvent)
  let tasks ← (state.collection .task).mapM (entitySchema letters .task)
  let parsed := { state with
    collection := fun
      | .contact => contacts
      | .mailingList => mailingLists
      | .calendarEvent => calendarEvents
      | .task => tasks
    transactions := ← state.transactions.mapM (pimTransactionSchema letters) }
  if 0 < parsed.nextTransactionSequence ∧ parsed.Consistent then some parsed else none

end Entities

section Imports

/-- `ParsedVCardMailingList`. -/
structure ParsedVCardMailingList where
  input : CreateInput .mailingList
  memberEmailAddresses : List JsString

/-- What `parseVCardBundle` returns. -/
structure ParsedVCardBundle where
  contacts : List (CreateInput .contact)
  mailingLists : List ParsedVCardMailingList

/-- What `parseICalendarBundle` returns. -/
structure ParsedICalendarBundle where
  events : List (CreateInput .calendarEvent)
  tasks : List (CreateInput .task)

end Imports

end Pim
