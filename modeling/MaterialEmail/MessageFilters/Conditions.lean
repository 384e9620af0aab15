import MaterialEmail.MailService.Model
import MaterialEmail.MessageFilters
import MaterialEmail.SearchPatterns.Model

/-! Message filters: what is asked of one before it is kept, and when its conditions hold of a message. -/
namespace MessageFilters

open JsString
open MailService (Address MessageSummary)

def filterLimit : Nat := 200
def conditionLimit : Nat := 20
def actionLimit : Nat := 20
def filterNameLimit : Nat := 120
def valueLimit : Nat := 2048

inductive MessageFilterField where
  | «from»
  | «to»
  | cc
  | recipient
  | subject
  | body
  | account
  | folder
  | tag
  | size
  | ageDays
  | attachments
  | readState
  | starState
  deriving DecidableEq, Repr

inductive MessageFilterOperator where
  | contains
  | notContains
  | is
  | isNot
  | startsWith
  | endsWith
  | regex
  | greaterThan
  | lessThan
  deriving DecidableEq, Repr

structure MessageFilterCondition where
  field : MessageFilterField
  operator : MessageFilterOperator
  value : JsString
  caseSensitive : Bool
  deriving DecidableEq

inductive Match where
  | all
  | any
  deriving DecidableEq, Repr

structure MessageFilter where
  id : JsString
  name : JsString
  enabled : Bool
  ordinal : Int
  «match» : Match
  runOnSync : Bool
  accountId : Option JsString
  conditions : List MessageFilterCondition
  actions : List MessageFilterAction
  deriving DecidableEq

structure MessageFilterSubject where
  message : MessageSummary
  accountEmail : JsString
  folderName : JsString
  tagIds : List JsString
  body : Option JsString

/-- What the host knows of letters, numbers, times and regular expressions. -/
structure Host where
  patterns : SearchPatterns.Host
  /-- `new RegExp(pattern, flags).test(text)`. -/
  test : JsString → JsString → JsString → Bool
  localeCompare : JsString → JsString → Ordering
  toLocaleLowerCase : JsString → JsString
  /-- `Number(text)`, if it is one. -/
  number : JsString → Option JsNumber
  dateParse : JsString → Option Int
  /-- Milliseconds in days. -/
  days : Int → Rat

/-- A host that knows the letters of the basic alphabet, no numbers, no times and no patterns. -/
def Host.plain : Host where
  patterns := ⟨fun _ _ => .ok (), fun _ => []⟩
  test := fun _ _ _ => false
  localeCompare := List.compareLex compare
  toLocaleLowerCase := List.map asciiLower
  number := fun _ => none
  dateParse := fun _ => none
  days := fun milliseconds => milliseconds / 86400000

section Kinds

inductive FieldKind where
  | text
  | numeric
  | boolean
  | tag
  deriving DecidableEq, Repr

def messageFilterFieldKind : MessageFilterField → FieldKind
  | .from | .to | .cc | .recipient | .subject | .body | .account | .folder => .text
  | .size | .ageDays => .numeric
  | .attachments | .readState | .starState => .boolean
  | .tag => .tag

def operatorsFor (field : MessageFilterField) : List MessageFilterOperator :=
  match messageFilterFieldKind field with
  | .text => [.contains, .notContains, .is, .isNot, .startsWith, .endsWith, .regex]
  | .numeric => [.greaterThan, .lessThan, .is, .isNot]
  | .boolean => [.is, .isNot]
  | .tag => [.is, .isNot]

/-- The actions that need no value. -/
def valuelessActions : List MessageFilterActionKind :=
  [.markRead, .markUnread, .star, .unstar, .archive, .trash, .markJunk, .markNotJunk, .stop]

def MessageFilterField.text : MessageFilterField → JsString
  | .from => ofString "from"
  | .to => ofString "to"
  | .cc => ofString "cc"
  | .recipient => ofString "recipient"
  | .subject => ofString "subject"
  | .body => ofString "body"
  | .account => ofString "account"
  | .folder => ofString "folder"
  | .tag => ofString "tag"
  | .size => ofString "size"
  | .ageDays => ofString "age-days"
  | .attachments => ofString "attachments"
  | .readState => ofString "read-state"
  | .starState => ofString "star-state"

def MessageFilterOperator.text : MessageFilterOperator → JsString
  | .contains => ofString "contains"
  | .notContains => ofString "not-contains"
  | .is => ofString "is"
  | .isNot => ofString "is-not"
  | .startsWith => ofString "starts-with"
  | .endsWith => ofString "ends-with"
  | .regex => ofString "regex"
  | .greaterThan => ofString "greater-than"
  | .lessThan => ofString "less-than"

def MessageFilterActionKind.text : MessageFilterActionKind → JsString
  | .markRead => ofString "mark-read"
  | .markUnread => ofString "mark-unread"
  | .star => ofString "star"
  | .unstar => ofString "unstar"
  | .addTag => ofString "add-tag"
  | .removeTag => ofString "remove-tag"
  | .move => ofString "move"
  | .archive => ofString "archive"
  | .trash => ofString "trash"
  | .markJunk => ofString "mark-junk"
  | .markNotJunk => ofString "mark-not-junk"
  | .stop => ofString "stop"

end Kinds

section Validation

inductive MessageFilterErrorCode where
  | nameRequired
  | conditionRequired
  | actionRequired
  | operatorUnsupported
  | valueRequired
  | valueInvalid
  | patternInvalid
  | limitReached
  | notFound
  deriving DecidableEq, Repr

structure MessageFilterError where
  code : MessageFilterErrorCode
  message : JsString
  deriving DecidableEq

variable (host : Host)

/-- `caseSensitive ? "u" : "iu"`. -/
def MessageFilterCondition.flags (condition : MessageFilterCondition) : JsString :=
  ofString (if condition.caseSensitive then "u" else "iu")

def complaint (condition : MessageFilterCondition) (needs : String) : JsString :=
  ofString "The " ++ condition.field.text ++ ofString " condition needs " ++ ofString needs

/-- A number that a condition may compare with. -/
def isNonNegative : JsNumber → Bool
  | .finite value => 0 ≤ value
  | .infinite _ => false

def validateMessageFilterCondition (condition : MessageFilterCondition) : Except MessageFilterError Unit :=
  if condition.operator ∉ operatorsFor condition.field then
    .error ⟨.operatorUnsupported, ofString "The " ++ condition.field.text ++ ofString " condition does not support the " ++
      condition.operator.text ++ ofString " comparison."⟩
  else
    let value := condition.value.trim
    match messageFilterFieldKind condition.field with
    | .numeric =>
      if value = [] ∨ (host.number value).any isNonNegative = false then
        .error ⟨.valueInvalid, complaint condition "a non-negative number."⟩
      else .ok ()
    | .boolean =>
      if value ≠ ofString "true" ∧ value ≠ ofString "false" then
        .error ⟨.valueInvalid, complaint condition "either true or false."⟩
      else .ok ()
    | _ =>
      if value = [] then .error ⟨.valueRequired, complaint condition "a value."⟩
      else if condition.operator = .regex then
        let validation := SearchPatterns.validatePattern host.patterns ⟨.regex, value, condition.flags⟩
        if validation.valid then .ok () else .error ⟨.patternInvalid, validation.message⟩
      else .ok ()

def validateMessageFilterAction (action : MessageFilterAction) : Except MessageFilterError Unit :=
  if action.kind ∈ valuelessActions then .ok ()
  else if action.value.trim = [] then
    .error ⟨.valueRequired, ofString "The " ++ action.kind.text ++ ofString " action needs a target."⟩
  else .ok ()

def validateMessageFilter (filter : MessageFilter) : Except MessageFilterError Unit :=
  if filter.name.trim = [] then .error ⟨.nameRequired, ofString "A filter needs a name."⟩
  else if filter.conditions = [] then .error ⟨.conditionRequired, ofString "A filter needs at least one condition."⟩
  else if filter.actions = [] then .error ⟨.actionRequired, ofString "A filter needs at least one action."⟩
  else do
    (filter.conditions.take conditionLimit).forM (validateMessageFilterCondition host)
    (filter.actions.take actionLimit).forM validateMessageFilterAction

end Validation

section Matching

variable (host : Host)

def addressText (addresses : List Address) : JsString :=
  (ofString ", ").intercalate (addresses.map fun entry =>
    if entry.name = [] then entry.address else entry.name ++ ofString " <" ++ entry.address ++ ofString ">")

def textFor (field : MessageFilterField) (subject : MessageFilterSubject) : JsString :=
  let message := subject.message
  match field with
  | .from => addressText message.from
  | .to => addressText message.to
  | .cc => addressText message.cc
  | .recipient => (ofString ", ").intercalate ([addressText message.to, addressText message.cc].filter (· ≠ []))
  | .subject => message.subject
  | .body => subject.body.getD message.preview
  | .account => subject.accountEmail
  | .folder => subject.folderName ++ ofString " " ++ message.folderPath
  | _ => []

def numberFor (field : MessageFilterField) (subject : MessageFilterSubject) (now : Int) : Rat :=
  if field = .size then subject.message.size
  else
    match host.dateParse subject.message.date with
    | none => 0
    | some parsed => max 0 (host.days (now - parsed))

def booleanFor (field : MessageFilterField) (subject : MessageFilterSubject) : Bool :=
  match field with
  | .attachments => subject.message.hasAttachments
  | .readState => !subject.message.unread
  | _ => subject.message.starred

def sampleLimit : Nat := 50000

def compareText (condition : MessageFilterCondition) (haystack : JsString) : Bool :=
  let bounded := haystack.take sampleLimit
  let needle := condition.value.trim.take valueLimit
  if condition.operator = .regex then
    let validation := SearchPatterns.validatePattern host.patterns ⟨.regex, needle, condition.flags⟩
    validation.valid && host.test needle validation.normalizedFlags bounded
  else
    let left : JsString := if condition.caseSensitive then bounded else host.toLocaleLowerCase bounded
    let right : JsString := if condition.caseSensitive then needle else host.toLocaleLowerCase needle
    match condition.operator with
    | .contains => right <:+: left
    | .notContains => ¬right <:+: left
    | .is => left.trim = right
    | .isNot => left.trim ≠ right
    | .startsWith => right.isPrefixOf (left.dropWhile isWhiteSpace)
    | .endsWith => right.isSuffixOf (left.rdropWhile isWhiteSpace)
    | _ => false

/-- `Math.trunc`. -/
def trunc (value : Rat) : Int := if value < 0 then -(-value).floor else value.floor

def evaluateMessageFilterCondition (condition : MessageFilterCondition) (subject : MessageFilterSubject) (now : Int) : Bool :=
  match messageFilterFieldKind condition.field with
  | .text => compareText host condition (textFor condition.field subject)
  | .numeric =>
    let actual := numberFor host condition.field subject now
    match host.number condition.value.trim with
    | some (.finite expected) =>
      match condition.operator with
      | .greaterThan => expected < actual
      | .lessThan => actual < expected
      | .is => trunc actual = trunc expected
      | .isNot => trunc actual ≠ trunc expected
      | _ => false
    | _ => false
  | .boolean =>
    let actual := booleanFor condition.field subject
    let expected : Bool := condition.value.trim = ofString "true"
    if condition.operator = .is then actual = expected else actual ≠ expected
  | .tag =>
    let has := subject.tagIds.contains condition.value.trim
    if condition.operator = .is then has else !has

def messageFilterMatches (filter : MessageFilter) (subject : MessageFilterSubject) (now : Int) : Bool :=
  if filter.accountId.any (fun accountId => accountId ≠ [] && accountId ≠ subject.message.accountId) then false
  else
    let conditions := filter.conditions.take conditionLimit
    let results := conditions.map fun condition => evaluateMessageFilterCondition host condition subject now
    if conditions = [] then false
    else
      match filter.match with
      | .all => results.all id
      | .any => results.any id

end Matching

end MessageFilters
