import MaterialEmail.Library.JsDate
import MaterialEmail.Library.Keyed
import Mathlib.Data.List.Sort

/-! The catalogue of message tags, and which of its tags a message has. -/
namespace MessageTags

open JsString

def nameLimit : Nat := 64
def catalogLimit : Nat := 64
def tagsPerMessageLimit : Nat := 20
def assignmentLimit : Nat := 20000
/-- The length of a key that is stored. -/
def keyLimit : Nat := 4096

/-- What the host knows of the letters. -/
structure Host extends LetterCase where
  /-- `normalize("NFKC")`. -/
  normalize : JsString → JsString
  localeCompare : JsString → JsString → Ordering
  /-- `/[\p{Letter}\p{Number}]/u`, of the units of a code point. -/
  isLetterOrNumber : JsString → Bool
  ascii_letter : ∀ unit < 128, isLetterOrNumber [unit] = isAlphanumeric unit
  surrogate_letter : ∀ unit, (isHighSurrogate unit || isLowSurrogate unit) = true → isLetterOrNumber [unit] = false

/-- A host that knows the letters and digits of the basic alphabet. -/
def Host.plain : Host where
  toLetterCase := LetterCase.ascii
  normalize := id
  localeCompare := fun left right => compareOfLessAndEq left right
  isLetterOrNumber := fun point => point.all fun unit => unit < 128 && isAlphanumeric unit
  ascii_letter := by
    intro unit small
    simp [small]
  surrogate_letter := by
    intro unit surrogate
    have large : ¬ unit < 128 := by
      simp only [isHighSurrogate, isLowSurrogate, Bool.or_eq_true, Bool.and_eq_true, decide_eq_true_eq,
        UInt16.le_iff_toNat_le, UInt16.lt_iff_toNat_lt, UInt16.reduceToNat] at surrogate ⊢
      omega
    simp [large]

structure MessageTag where
  id : JsString
  name : JsString
  colour : JsString
  ordinal : Int
  builtIn : Bool
  deriving DecidableEq

/-- The identifiers of the tags of messages by the messages' keys, in the order in which the keys were
first set. -/
abbrev Assignments := List (JsString × List JsString)

structure MessageTagState where
  catalog : List MessageTag
  assignments : Assignments
  deriving DecidableEq

def builtInMessageTags : List MessageTag :=
  [⟨ofString "important", ofString "Important", ofString "#c62828", 0, true⟩,
    ⟨ofString "work", ofString "Work", ofString "#1565c0", 1, true⟩,
    ⟨ofString "personal", ofString "Personal", ofString "#2e7d32", 2, true⟩,
    ⟨ofString "to-do", ofString "To Do", ofString "#ef6c00", 3, true⟩,
    ⟨ofString "later", ofString "Later", ofString "#6a1b9a", 4, true⟩]

def emptyMessageTagState : MessageTagState := ⟨builtInMessageTags, []⟩

section Keys

/-- What of a message its key is made of. -/
structure MessageRef where
  accountId : JsString
  folderPath : JsString
  /-- `String(uid)`. -/
  uid : JsString
  uidValidity : Option JsString

def messageTagKey (message : MessageRef) : JsString :=
  message.accountId ++ 0 :: message.folderPath ++ 0 :: message.uidValidity.getD [] ++ 0 :: message.uid

def messageTagKeyAccountId (key : JsString) : Option JsString :=
  match key.splitOn 0 with
  | [accountId, _, _, _] => if accountId = [] then none else some accountId
  | _ => none

def messageTagKeyFolderPath (key : JsString) : Option JsString :=
  match key.splitOn 0 with
  | [_, folderPath, _, _] => some folderPath
  | _ => none

end Keys

inductive MessageTagErrorCode where
  | nameRequired
  | colourInvalid
  | limitReached
  | nameTaken
  | notFound
  | builtIn
  deriving DecidableEq

structure MessageTagError where
  code : MessageTagErrorCode
  message : JsString
  deriving DecidableEq

def tagNotFound : MessageTagError := ⟨.notFound, ofString "That tag no longer exists."⟩

variable (host : Host)

section Names

def normalizeMessageTagName (value : JsString) : JsString :=
  (trim (replaceRuns isWhiteSpace 32 false (host.normalize value))).take nameLimit

/-- `/[0-9a-f]/`. -/
def isHexDigit (unit : UInt16) : Bool := (48 ≤ unit && unit ≤ 57) || (97 ≤ unit && unit ≤ 102)

/-- `/^#[0-9a-f]{6}$/`. -/
def isColour : JsString → Bool
  | 35 :: digits => digits.length = 6 && digits.all isHexDigit
  | _ => false

def normalizeMessageTagColour (value : JsString) : Option JsString :=
  let candidate := host.lower value.trim
  let expanded := match candidate with
    | [35, r, g, b] => if [r, g, b].all isHexDigit then [35, r, r, g, g, b, b] else candidate
    | _ => candidate
  if isColour expanded then some expanded else none

/-- The letters and the numbers of a name, with dashes for what lies between them. -/
def slug (name : JsString) : JsString :=
  let points := replaceRuns (fun point => !host.isLetterOrNumber point) [45] false
    (characters (host.lower (normalizeMessageTagName host name)))
  ((points.dropWhile (· = [45])).rdropWhile (· = [45])).flatten

def messageTagId (name : JsString) : JsString :=
  let slug := (slug host name).take nameLimit
  if slug = [] then ofString "tag" else slug

def suffixed (candidate : JsString) (suffix : Nat) : JsString := candidate ++ 45 :: JsDate.decimal suffix

def uniqueTagId (candidate : JsString) (taken : List JsString) : JsString :=
  if candidate ∉ taken then candidate
  else
    match ((List.range catalogLimit).map fun index => suffixed candidate (index + 2)).find? (· ∉ taken) with
    | some next => next
    | none => suffixed candidate (taken.length + 1)

end Names

section Catalogue

def sortMessageTags (tags : List MessageTag) : List MessageTag :=
  tags.insertionSort fun left right =>
    (((compare left.ordinal right.ordinal).then (host.localeCompare left.name right.name)).then
      (host.localeCompare left.id right.id)) ≠ .gt

def assertName (name : JsString) : Except MessageTagError JsString :=
  let normalized := normalizeMessageTagName host name
  if normalized = [] then .error ⟨.nameRequired, ofString "A tag needs a name."⟩ else .ok normalized

def assertColour (colour : JsString) : Except MessageTagError JsString :=
  match normalizeMessageTagColour host colour with
  | none => .error ⟨.colourInvalid,
      ofString "A tag colour must be a six-digit hexadecimal value such as #1565c0."⟩
  | some normalized => .ok normalized

def nameTaken (catalog : List MessageTag) (name : JsString) (exceptId : Option JsString) : Bool :=
  catalog.any fun tag => some tag.id ≠ exceptId && host.lower tag.name = host.lower name

def assertNameAvailable (catalog : List MessageTag) (name : JsString) (exceptId : Option JsString) :
    Except MessageTagError Unit :=
  if nameTaken host catalog name exceptId then
    .error ⟨.nameTaken, ofString "A tag named " ++ name ++ ofString " already exists."⟩
  else .ok ()

def highestOrdinal (catalog : List MessageTag) : Int :=
  catalog.foldl (fun highest tag => max highest tag.ordinal) (-1)

def createMessageTag (catalog : List MessageTag) (name colour : JsString) : Except MessageTagError MessageTag :=
  if catalogLimit ≤ catalog.length then
    .error ⟨.limitReached, ofString "Material Email keeps at most 64 tags."⟩
  else do
    let name ← assertName host name
    assertNameAvailable host catalog name none
    let colour ← assertColour host colour
    return ⟨uniqueTagId (messageTagId host name) (catalog.map (·.id)), name, colour, highestOrdinal catalog + 1, false⟩

structure TagPatch where
  name : Option JsString
  colour : Option JsString
  ordinal : Option JsNumber

/-- `Number.isSafeInteger`, with the integer. -/
def safeInteger? (number : JsNumber) : Option Int := number.toInt?.filter fun value => value.natAbs < 2 ^ 53

/-- What a patch gives for a field, or what the field has. -/
def patched (given : Option JsString) (existing : JsString) (check : JsString → Except MessageTagError JsString) :
    Except MessageTagError JsString :=
  match given with
  | none => .ok existing
  | some text => check text

def updateMessageTag (catalog : List MessageTag) (id : JsString) (patch : TagPatch) :
    Except MessageTagError (List MessageTag) :=
  match catalog.find? fun tag => tag.id = id with
  | none => .error tagNotFound
  | some existing => do
    let name ← patched patch.name existing.name (assertName host)
    let _ ← (if patch.name.isSome then assertNameAvailable host catalog name (some id) else .ok ())
    let colour ← patched patch.colour existing.colour (assertColour host)
    let ordinal := match patch.ordinal.bind safeInteger? with
      | none => existing.ordinal
      | some ordinal => max 0 (min catalogLimit ordinal)
    return sortMessageTags host (catalog.map fun tag =>
      if tag.id = id then { tag with name := name, colour := colour, ordinal := ordinal } else tag)

def deleteMessageTag (state : MessageTagState) (id : JsString) : Except MessageTagError MessageTagState :=
  match state.catalog.find? fun tag => tag.id = id with
  | none => .error tagNotFound
  | some existing =>
    if existing.builtIn then
      .error ⟨.builtIn, ofString "Built-in tags can be renamed or recoloured, but not removed."⟩
    else
      let remaining := state.assignments.map fun (key, ids) => (key, ids.filter (· ≠ id))
      .ok ⟨state.catalog.filter (·.id ≠ id), remaining.filter (·.2 ≠ [])⟩

end Catalogue

section Assignments

def boundAssignments (assignments : Assignments) : Assignments :=
  assignments.drop (assignments.length - assignmentLimit)

def MessageTagState.tagIds (state : MessageTagState) (key : JsString) : Option (List JsString) :=
  (Keyed.get Prod.fst key state.assignments).map (·.2)

def setMessageTags (state : MessageTagState) (key : JsString) (tagIds : List JsString) : MessageTagState :=
  let ordered := (sortMessageTags host (state.catalog.filter fun tag => tag.id ∈ tagIds)).map (·.id)
  let bounded := ordered.take tagsPerMessageLimit
  let assignments :=
    if bounded ≠ [] then Keyed.put Prod.fst (key, bounded) state.assignments
    else Keyed.without Prod.fst key state.assignments
  ⟨state.catalog, boundAssignments assignments⟩

def retagMovedMessage (state : MessageTagState) (fromKey : JsString) (toKey : Option JsString) : MessageTagState :=
  match state.tagIds fromKey with
  | none => state
  | some ids =>
    let assignments := Keyed.without Prod.fst fromKey state.assignments
    let assignments := match toKey with
      | some toKey => Keyed.put Prod.fst (toKey, ids) assignments
      | none => assignments
    ⟨state.catalog, boundAssignments assignments⟩

def forgetMessageTags (state : MessageTagState) (forgotten : JsString → Bool) : MessageTagState :=
  ⟨state.catalog, state.assignments.filter fun (key, _) => !forgotten key⟩

end Assignments

section Operations

structure MessageTagCatalog where
  tags : List MessageTag
  usage : List (JsString × Nat)

/-- How many messages have each tag. -/
def messageTagUsageCounts (state : MessageTagState) : List (JsString × Nat) :=
  state.catalog.map fun tag => (tag.id, state.assignments.countP fun (_, ids) => tag.id ∈ ids)

def tagCatalogOf (state : MessageTagState) : MessageTagCatalog :=
  ⟨sortMessageTags host state.catalog, messageTagUsageCounts state⟩

/-- A state with what an operation returns beside it. -/
def withCatalog (state : MessageTagState) : MessageTagState × MessageTagCatalog := (state, tagCatalogOf host state)

def addMessageTag (state : MessageTagState) (name colour : JsString) :
    Except MessageTagError (MessageTagState × MessageTagCatalog) := do
  let tag ← createMessageTag host state.catalog name colour
  return withCatalog host ⟨sortMessageTags host (state.catalog ++ [tag]), state.assignments⟩

def editMessageTag (state : MessageTagState) (id : JsString) (patch : TagPatch) :
    Except MessageTagError (MessageTagState × MessageTagCatalog) := do
  let catalog ← updateMessageTag host state.catalog id patch
  return withCatalog host ⟨catalog, state.assignments⟩

def removeMessageTag (state : MessageTagState) (id : JsString) :
    Except MessageTagError (MessageTagState × MessageTagCatalog) := do
  return withCatalog host (← deleteMessageTag state id)

def applyMessageTags (state : MessageTagState) (message : MessageRef) (tagIds : List JsString) :
    MessageTagState × List JsString :=
  let next := setMessageTags host state (messageTagKey message) tagIds
  (next, (next.tagIds (messageTagKey message)).getD [])

/-- Where a message was moved, as far as the server said. -/
structure Destination where
  folderPath : JsString
  uid : Option JsString
  uidValidity : Option JsString

def Destination.key (destination : Destination) (accountId : JsString) : Option JsString :=
  destination.uid.map fun uid => messageTagKey ⟨accountId, destination.folderPath, uid, destination.uidValidity⟩

def carryTagsThroughMove (state : MessageTagState) (source : MessageRef) (destination : Option Destination) :
    MessageTagState :=
  retagMovedMessage state (messageTagKey source) (destination.bind (·.key source.accountId))

def forgetAccountTags (state : MessageTagState) (accountId : JsString) : MessageTagState :=
  forgetMessageTags state fun key => messageTagKeyAccountId key = some accountId

def forgetFolderTags (state : MessageTagState) (accountId folderPath : JsString) : MessageTagState :=
  forgetMessageTags state fun key =>
    messageTagKeyAccountId key = some accountId && messageTagKeyFolderPath key = some folderPath

inductive Operation where
  | add (name colour : JsString)
  | edit (id : JsString) (patch : TagPatch)
  | remove (id : JsString)
  | apply (message : MessageRef) (tagIds : List JsString)
  | carry (source : MessageRef) (destination : Option Destination)
  | forgetAccount (accountId : JsString)
  | forgetFolder (accountId folderPath : JsString)

def perform (state : MessageTagState) : Operation → Except MessageTagError MessageTagState
  | .add name colour => (addMessageTag host state name colour).map (·.1)
  | .edit id patch => (editMessageTag host state id patch).map (·.1)
  | .remove id => (removeMessageTag host state id).map (·.1)
  | .apply message tagIds => .ok (applyMessageTags host state message tagIds).1
  | .carry source destination => .ok (carryTagsThroughMove state source destination)
  | .forgetAccount accountId => .ok (forgetAccountTags state accountId)
  | .forgetFolder accountId folderPath => .ok (forgetFolderTags state accountId folderPath)

/-- A call that is refused changes nothing. -/
def step (state : MessageTagState) (operation : Operation) : MessageTagState :=
  (perform host state operation).toOption.getD state

def run (state : MessageTagState) (operations : List Operation) : MessageTagState := operations.foldl (step host) state

end Operations

section Schema

/-- `/^[\p{Letter}\p{Number}-]+$/u`. -/
def isTagIdText (id : JsString) : Bool :=
  (characters id).all fun point => host.isLetterOrNumber point || point = [45]

def messageTagIdSchema (id : JsString) : Bool := id ≠ [] && id.length ≤ nameLimit && isTagIdText host id

def messageTagSchema (tag : MessageTag) : Bool :=
  messageTagIdSchema host tag.id && tag.name ≠ [] && tag.name.length ≤ nameLimit && isColour tag.colour &&
    0 ≤ tag.ordinal && tag.ordinal ≤ catalogLimit

def assignmentSchema : JsString × List JsString → Bool
  | (key, ids) => key ≠ [] && key.length ≤ keyLimit && ids ≠ [] && ids.length ≤ tagsPerMessageLimit &&
      ids.all (messageTagIdSchema host)

/-- The state that a stored one is read as. -/
def messageTagStateSchema (state : MessageTagState) : Option MessageTagState :=
  if state.catalog.length ≤ catalogLimit ∧ state.catalog.all (messageTagSchema host) = true ∧
      state.assignments.all (assignmentSchema host) = true ∧ state.assignments.length ≤ assignmentLimit then
    let known := state.catalog.map (·.id)
    let assignments := state.assignments.map fun (key, ids) => (key, ids.eraseDups.filter (· ∈ known))
    some ⟨state.catalog, assignments.filter (·.2 ≠ [])⟩
  else none

end Schema

end MessageTags
