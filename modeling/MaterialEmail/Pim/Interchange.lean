import MaterialEmail.Library.ContentLine

/-! The gate that interchange documents pass before they are imported and after they are exported. It
looks at one physical line after another. -/
namespace Pim

open JsString ContentLine

def PIM_INTERCHANGE_MAX_BYTES : Nat := 1048576

def PIM_INTERCHANGE_MAX_LINES : Nat := 20000

inductive PimInterchangeFormat where
  | vcard
  | icalendar
  deriving DecidableEq, Repr

/-- What an inspection counts. -/
structure PimInterchangeInspection where
  byteLength : Nat
  lineCount : Nat
  contactCount : Nat
  eventCount : Nat
  taskCount : Nat
  timeZoneCount : Nat
  recurrenceRuleCount : Nat
  deriving DecidableEq, Repr

/-- What is inspected or parsed, or the text of the error. -/
abbrev Checked := Except JsString

def numeral (value : Nat) : JsString := ofString (toString value)

def assertSourceBounds (source : JsString) : Checked (Nat × List JsString) :=
  let size := byteLength source
  let lines := normalizedLines source
  if size = 0 then .error (ofString "The interchange document is empty.")
  else if PIM_INTERCHANGE_MAX_BYTES < size then
    .error (ofString "The interchange document exceeds the " ++ numeral PIM_INTERCHANGE_MAX_BYTES ++
      ofString "-byte local limit.")
  else if 0 ∈ source then .error (ofString "The interchange document contains a NUL byte.")
  else if PIM_INTERCHANGE_MAX_LINES < lines.length then
    .error (ofString "The interchange document exceeds the " ++ numeral PIM_INTERCHANGE_MAX_LINES ++
      ofString "-line local limit.")
  else if lines.any fun line => 8192 < byteLength line then
    .error (ofString "An interchange line exceeds the 8192-byte local limit.")
  else .ok (size, lines)

/-- What has been seen of a document: the open components, innermost first, all that were opened, and the
properties. -/
structure ComponentInspection where
  stack : List JsString := []
  opened : List JsString := []
  properties : List (JsString × JsString) := []
  previousWasProperty : Bool := false

def ComponentInspection.count (inspection : ComponentInspection) (component : JsString) : Nat :=
  inspection.opened.count component

def ComponentInspection.values (inspection : ComponentInspection) (name : JsString) : List JsString :=
  (inspection.properties.filter (·.1 = name)).map (·.2)

/-- `[A-Za-z0-9-]`. -/
def isNameUnit (unit : UInt16) : Bool := isAlphanumeric unit || unit = 45

/-- `/^[A-Za-z][A-Za-z0-9-]*(?:;[^:]+)*$/`, of a text without a colon. -/
def isRawName (rawName : JsString) : Bool :=
  (rawName.head?.any isLetter) &&
    match rawName.dropWhile isNameUnit with
    | [] => true
    | unit :: parameters => unit = 59 && parameters ≠ []

variable (letters : LetterCase)

/-- The name and the value of a physical line, as far as the line goes. -/
def readLine (rawLine : JsString) : Checked (JsString × JsString) :=
  let rawName := rawLine.takeWhile (· ≠ 58)
  if rawName = [] ∨ rawName = rawLine then
    .error (ofString "Every non-folded interchange line must contain a property separator.")
  else if !isRawName rawName then .error (ofString "An interchange property name or parameter is malformed.")
  else .ok (letters.upper (rawName.takeWhile (· ≠ 59)), trim (rawLine.drop (rawName.length + 1)))

/-- What a property does to the inspection. -/
def inspectProperty (allowedComponents : List JsString) (name value : JsString) (inspection : ComponentInspection) :
    Checked ComponentInspection :=
  if name = ofString "BEGIN" then
    let component := letters.upper value
    if component ∉ allowedComponents then
      .error (ofString "Unsupported " ++ (if component = [] then ofString "unnamed" else component) ++
        ofString " component.")
    else .ok { inspection with
      stack := component :: inspection.stack
      opened := inspection.opened ++ [component]
      previousWasProperty := true }
  else if name = ofString "END" then
    let component := letters.upper value
    if inspection.stack.head? ≠ some component then
      .error (ofString "The " ++ (if component = [] then ofString "unnamed" else component) ++
        ofString " component is not balanced.")
    else .ok { inspection with stack := inspection.stack.tail, previousWasProperty := true }
  else if inspection.stack = [] then .error (ofString "Interchange properties must be inside a component.")
  else .ok { inspection with properties := inspection.properties ++ [(name, value)], previousWasProperty := true }

def inspectLine (allowedComponents : List JsString) (inspection : ComponentInspection) (rawLine : JsString) :
    Checked ComponentInspection :=
  if rawLine = [] then .ok { inspection with previousWasProperty := false }
  else if startsWithBlank rawLine then
    if inspection.previousWasProperty then .ok inspection
    else .error (ofString "A folded interchange line must follow a property line.")
  else do
    let (name, value) ← readLine letters rawLine
    inspectProperty letters allowedComponents name value inspection

def inspectComponents (lines allowedComponents : List JsString) : Checked ComponentInspection := do
  let inspection ← lines.foldlM (inspectLine letters allowedComponents) {}
  match inspection.stack with
  | [] => return inspection
  | component :: _ => .error (ofString "The " ++ component ++ ofString " component is not closed.")

def judgeVCard (size lineCount : Nat) (inspection : ComponentInspection) : Checked PimInterchangeInspection :=
  let contactCount := inspection.count (ofString "VCARD")
  let versions := inspection.values (ofString "VERSION")
  if contactCount < 1 ∨ 2000 < contactCount then
    .error (ofString "A bounded vCard document must contain from 1 through 2000 cards.")
  else if versions.length ≠ contactCount ∨ versions.any fun version => version ≠ ofString "3.0" && version ≠ ofString "4.0" then
    .error (ofString "Each vCard must declare VERSION:3.0 or VERSION:4.0.")
  else .ok ⟨size, lineCount, contactCount, 0, 0, 0, 0⟩

def calendarComponents : List JsString :=
  [ofString "VCALENDAR", ofString "VEVENT", ofString "VTODO", ofString "VTIMEZONE", ofString "VALARM",
    ofString "STANDARD", ofString "DAYLIGHT"]

def judgeICalendar (size lineCount : Nat) (inspection : ComponentInspection) : Checked PimInterchangeInspection :=
  let eventCount := inspection.count (ofString "VEVENT")
  let taskCount := inspection.count (ofString "VTODO")
  let uids := inspection.values (ofString "UID")
  if inspection.count (ofString "VCALENDAR") ≠ 1 then
    .error (ofString "The document must contain exactly 1 VCALENDAR component.")
  else if inspection.values (ofString "VERSION") ≠ [ofString "2.0"] then
    .error (ofString "An iCalendar document must declare VERSION:2.0 exactly once.")
  else if inspection.values (ofString "METHOD") ≠ [] then
    .error (ofString "Scheduling METHOD payloads are outside the local ICS import/export boundary.")
  else if inspection.values (ofString "ATTACH") ≠ [] then
    .error (ofString "iCalendar attachments are outside the local ICS import/export boundary.")
  else if eventCount + taskCount < 1 ∨ 5000 < eventCount + taskCount then
    .error (ofString "A bounded iCalendar document must contain from 1 through 5000 events or tasks.")
  else if uids.length ≠ eventCount + taskCount ∨ uids.any fun uid => uid = [] || 512 < uid.length then
    .error (ofString "Every local event or task must contain one non-empty UID no longer than 512 characters.")
  else if ¬ uids.Nodup then
    .error (ofString "Local event and task UIDs must be unique within one iCalendar document.")
  else .ok ⟨size, lineCount, 0, eventCount, taskCount, inspection.count (ofString "VTIMEZONE"),
    (inspection.values (ofString "RRULE")).length⟩

def inspectPimInterchange (format : PimInterchangeFormat) (source : JsString) : Checked PimInterchangeInspection := do
  let (size, lines) ← assertSourceBounds source
  match format with
  | .vcard => judgeVCard size lines.length (← inspectComponents letters lines [ofString "VCARD"])
  | .icalendar => judgeICalendar size lines.length (← inspectComponents letters lines calendarComponents)

def joinLines (lines : List JsString) : JsString := (lines.intersperse [13, 10]).flatten

/-- `replace(/(?:\r\n)+$/, "")`. -/
def dropFinalNewlines (text : JsString) : JsString :=
  let rec drop : JsString → JsString
    | 10 :: 13 :: rest => drop rest
    | rest => rest
  (drop text.reverse).reverse

def normalizePimInterchangeForExport (format : PimInterchangeFormat) (source : JsString) : Checked JsString := do
  let _ ← inspectPimInterchange letters format source
  let lines := normalizedLines source
  let kept := if lines.getLast? = some [] then lines.dropLast else lines
  return dropFinalNewlines (joinLines kept) ++ [13, 10]

end Pim
