import MaterialEmail.Library.Uri
import MaterialEmail.Pim.Interchange
import MaterialEmail.Pim.Types

/-! The iCalendar documents that are imported. -/
namespace Pim

open JsString ContentLine
open JsDate (decimal)

structure WallClockParts where
  year : Nat
  month : Nat
  day : Nat
  hour : Nat
  minute : Nat
  second : Nat

/-- What the host knows: the letters, dates in other formats than the one of ISO 8601, numbers in other
notations than the decimal one, and the time zones. -/
structure Host extends LetterCase where
  /-- `new Date(text).getTime()`. -/
  parseDate : JsString → Option Int
  /-- `Number(text)`, where it is an integer. -/
  toNumber : JsString → Option Int
  /-- What the clocks of a time zone show at an instant. -/
  wallClock : Int → JsString → Option WallClockParts
  systemTimeZone : JsString
  /-- The digest in hexadecimal digits. -/
  sha256 : JsString → JsString
  parseDate_iso : ∀ text, (JsDate.readDateTime text).isSome → parseDate text = JsDate.parse text
  toNumber_decimal : ∀ text value, text ≠ [] → JsDate.number text = some value → value < 2 ^ 53 →
    toNumber text = some (value : Int) ∧ toNumber (45 :: text) = some (-(value : Int))

/-- `/^-?\d+$/`, with the number. -/
def readInteger : JsString → Option Int
  | 45 :: rest => if rest = [] then none else (JsDate.number rest).map fun value => -(value : Int)
  | text => if text = [] then none else (JsDate.number text).map (↑)

theorem readInteger_number {text : JsString} {value : Nat} (nonempty : text ≠ [])
    (number : JsDate.number text = some value) :
    readInteger text = some (value : Int) ∧ readInteger (45 :: text) = some (-(value : Int)) := by
  constructor
  · unfold readInteger
    split
    · rename_i rest
      have digit : digit? 45 = none := by decide
      unfold JsDate.number at number
      rw [List.foldlM_cons, digit] at number
      cases number
    · rw [if_neg nonempty, number]
      rfl
  · rw [readInteger, if_neg nonempty, number]
    rfl

/-- A host that knows no more than the model does. -/
def Host.plain : Host where
  toLetterCase := LetterCase.ascii
  parseDate := JsDate.parse
  toNumber := readInteger
  wallClock := fun _ _ => none
  systemTimeZone := ofString "UTC"
  sha256 := id
  parseDate_iso := fun _ _ => rfl
  toNumber_decimal := fun _ _ nonempty number _ => readInteger_number nonempty number

/-- A property; a parameter with several values stands there several times. -/
structure ICalendarProperty where
  name : JsString
  params : List (JsString × JsString) := []
  value : JsString

/-- The values of a parameter. -/
def ICalendarProperty.param (property : ICalendarProperty) (key : String) : List JsString :=
  (property.params.filter (·.1 = ofString key)).map (·.2)

structure ICalendarComponent where
  name : JsString
  properties : List ICalendarProperty := []
  children : List ICalendarComponent := []

section Lines

/-- The error of what is thrown by something else than the parser. -/
def unsafeField : JsString := ofString "The iCalendar document contains a field that cannot be imported safely."

def dropByteOrderMark : JsString → JsString
  | 0xFEFF :: rest => rest
  | source => source

theorem dropByteOrderMark_of_head {source : JsString} (unmarked : source.head? ≠ some 0xFEFF) :
    dropByteOrderMark source = source := by
  unfold dropByteOrderMark
  split
  · simp at unmarked
  · rfl

def unfoldLine (logical : List JsString) (line : JsString) : Checked (List JsString) :=
  if startsWithBlank line then
    match logical.getLast? with
    | some last =>
      if last = [] then .error (ofString "A folded iCalendar line has no property to continue.")
      else .ok (logical.dropLast ++ [last ++ line.tail])
    | none => .error (ofString "A folded iCalendar line has no property to continue.")
  else if line = [] then .ok logical
  else .ok (logical ++ [line])

def unfold (source : JsString) : Checked (List JsString) :=
  (normalizedLines (dropByteOrderMark source)).foldlM unfoldLine []

def isUpperLetter (unit : UInt16) : Bool := 65 ≤ unit && unit ≤ 90

def isDigit (unit : UInt16) : Bool := 48 ≤ unit && unit ≤ 57

/-- `/^[A-Z][A-Z0-9-]*$/`. -/
def isPropertyName (name : JsString) : Bool :=
  (name.head?.any isUpperLetter) && name.all fun unit => isUpperLetter unit || isDigit unit || unit = 45

variable (host : Host)

def parseParameter (name segment : JsString) : Checked (List (JsString × JsString)) :=
  let rawKey := segment.takeWhile (· ≠ 61)
  if rawKey = [] ∨ rawKey = segment then
    .error (ofString "The " ++ name ++ ofString " property contains a malformed parameter.")
  else
    let key := host.upper rawKey
    if !isPropertyName key then
      .error (ofString "The " ++ name ++ ofString " property contains a malformed parameter name.")
    else
      let values := (splitUnescaped (segment.drop (rawKey.length + 1)) 44).map unquote
      if [] ∈ values then .error (ofString "The " ++ name ++ ofString " property contains an empty parameter value.")
      else .ok (values.map (key, ·))

def parseProperty (line : JsString) : Checked ICalendarProperty :=
  match separatorFrom false line with
  | none | some 0 => .error (ofString "An iCalendar property is missing its value separator.")
  | some separator => do
    let segments := splitUnescaped (line.take separator) 59
    let name := host.upper (segments.headD [])
    if !isPropertyName name then .error (ofString "An iCalendar property name is malformed.")
    else
      let params ← segments.tail.mapM (parseParameter host name)
      return ⟨name, params.flatten, line.drop (separator + 1)⟩

/-- The components that are complete, and those that are open, innermost first. -/
structure ComponentTree where
  roots : List ICalendarComponent := []
  stack : List ICalendarComponent := []

/-- A component that is complete becomes a child of the one around it. -/
def ComponentTree.close (roots outer : List ICalendarComponent) (component : ICalendarComponent) : ComponentTree :=
  match outer with
  | [] => ⟨roots ++ [component], []⟩
  | parent :: others => ⟨roots, { parent with children := parent.children ++ [component] } :: others⟩

def addProperty (tree : ComponentTree) (property : ICalendarProperty) : Checked ComponentTree :=
  if property.name = ofString "BEGIN" then
    .ok { tree with stack := ⟨host.upper property.value, [], []⟩ :: tree.stack }
  else if property.name = ofString "END" then
    match tree.stack with
    | component :: outer =>
      if component.name = host.upper property.value then .ok (.close tree.roots outer component)
      else .error (ofString "The " ++ (if property.value = [] then ofString "unnamed" else property.value) ++
        ofString " iCalendar component is not balanced.")
    | [] => .error (ofString "The " ++ (if property.value = [] then ofString "unnamed" else property.value) ++
        ofString " iCalendar component is not balanced.")
  else
    match tree.stack with
    | component :: outer => .ok { tree with
        stack := { component with properties := component.properties ++ [property] } :: outer }
    | [] => .error (ofString "An iCalendar property appears outside a component.")

def parseLine (tree : ComponentTree) (line : JsString) : Checked ComponentTree := do
  addProperty host tree (← parseProperty host line)

def parseComponents (source : JsString) : Checked ICalendarComponent := do
  let tree ← (← unfold source).foldlM (parseLine host) {}
  match tree.stack, tree.roots with
  | [], [root] =>
    if root.name = ofString "VCALENDAR" then return root
    else .error (ofString "The document must contain one balanced VCALENDAR component.")
  | _, _ => .error (ofString "The document must contain one balanced VCALENDAR component.")

end Lines

section Properties

def propertiesNamed (component : ICalendarComponent) (name : String) : List ICalendarProperty :=
  component.properties.filter (·.name = ofString name)

def optionalProperty (component : ICalendarComponent) (name : String) : Checked (Option ICalendarProperty) :=
  match propertiesNamed component name with
  | [] => .ok none
  | [property] => .ok (some property)
  | _ => .error (component.name ++ ofString " may contain at most one " ++ ofString name ++ ofString " property.")

def requiredProperty (component : ICalendarComponent) (name : String) : Checked ICalendarProperty := do
  match ← optionalProperty component name with
  | some property =>
    if property.value = [] then
      .error (component.name ++ ofString " requires one non-empty " ++ ofString name ++ ofString " property.")
    else return property
  | none => .error (component.name ++ ofString " requires one non-empty " ++ ofString name ++ ofString " property.")

/-- The member of an enumeration with a name. -/
def memberNamed (members : List α) (name : α → JsString) (text : JsString) : Option α :=
  members.find? (name · = text)

def parseInteger (property : Option ICalendarProperty) (label : String) (minimum maximum fallback : Nat) : Checked Nat :=
  match property with
  | none => .ok fallback
  | some property =>
    match readInteger property.value with
    | none => .error (ofString label ++ ofString " must be an integer.")
    | some value =>
      if value < minimum ∨ maximum < value then
        .error (ofString label ++ ofString " must be from " ++ numeral minimum ++ ofString " through " ++
          numeral maximum ++ ofString ".")
      else .ok value.toNat

end Properties

section Temporal

/-- The date that eight digits write, `YYYY-MM-DD`. -/
def compactDate (value : JsString) (label : String) : Checked JsString :=
  if value.length ≠ 8 ∨ !value.all isDigit then
    .error (ofString label ++ ofString " must use YYYYMMDD for a calendar date.")
  else
    let normalized := value.take 4 ++ 45 :: (value.drop 4).take 2 ++ 45 :: value.drop 6
    match JsDate.parse (normalized ++ ofString "T00:00:00.000Z") with
    | some date =>
      if (JsDate.toISOString date).take 10 = normalized then .ok normalized
      else .error (ofString label ++ ofString " is not a real calendar date.")
    | none => .error (ofString label ++ ofString " is not a real calendar date.")

/-- `Date.UTC`, which takes the years below 100 for years of the twentieth century. -/
def wallClockUtcValue (parts : WallClockParts) : Int :=
  let year := if parts.year < 100 then 1900 + parts.year else parts.year
  JsDate.IsoDateTime.instant ⟨⟨year, parts.month, parts.day⟩, parts.hour, parts.minute, parts.second, 0, 0⟩

variable (host : Host)

/-- Moves an instant until the clocks of a time zone show what is wanted, so many times at most. -/
def adjust (wanted : Int) (timeZone : JsString) : Nat → Int → Option Int
  | 0, guess => some guess
  | attempts + 1, guess => do
    let observed ← host.wallClock guess timeZone
    let adjustment := wanted - wallClockUtcValue observed
    if adjustment = 0 then some guess else adjust wanted timeZone attempts (guess + adjustment)

def zonedDateTime (parts : WallClockParts) (timeZone : JsString) (label : String) : Checked JsString :=
  let wanted := wallClockUtcValue parts
  let found : Option Int := do
    let guess ← adjust host wanted timeZone 4 wanted
    let observed ← host.wallClock guess timeZone
    if wallClockUtcValue observed = wanted then some guess else none
  match found with
  | some guess => .ok (JsDate.toISOString guess)
  | none => .error (ofString label ++ ofString " uses an unsupported time zone " ++ timeZone ++ ofString ".")

/-- The groups of `/^(\d{4})(\d{2})(\d{2})T(\d{2})(\d{2})(\d{2})(Z|[+-]\d{4})?$/`. -/
structure DateTimeText where
  year : JsString
  month : JsString
  day : JsString
  hour : JsString
  minute : JsString
  second : JsString
  suffix : JsString

def matchDateTime (value : JsString) : Option DateTimeText :=
  let date := value.take 8
  let time := (value.drop 9).take 6
  let suffix := value.drop 15
  if date.length = 8 ∧ date.all isDigit ∧ value[8]? = some 84 ∧ time.length = 6 ∧ time.all isDigit ∧
      (suffix = [] ∨ suffix = [90] ∨
        (suffix.length = 5 ∧ (suffix.head? = some 43 ∨ suffix.head? = some 45) ∧ suffix.tail.all isDigit)) then
    some ⟨date.take 4, (date.drop 4).take 2, date.drop 6, time.take 2, (time.drop 2).take 2, time.drop 4, suffix⟩
  else none

/-- The numbers of the groups. -/
def DateTimeText.parts (text : DateTimeText) : WallClockParts :=
  ⟨(JsDate.number text.year).getD 0, (JsDate.number text.month).getD 0, (JsDate.number text.day).getD 0,
    (JsDate.number text.hour).getD 0, (JsDate.number text.minute).getD 0, (JsDate.number text.second).getD 0⟩

/-- The groups in the format of ISO 8601. -/
def DateTimeText.iso (text : DateTimeText) (offset : JsString) : JsString :=
  text.year ++ 45 :: text.month ++ 45 :: text.day ++ 84 :: text.hour ++ 58 :: text.minute ++ 58 :: text.second ++ offset

/-- `new Date(text).toISOString()`. -/
def normalizeDate (text : JsString) : Checked JsString :=
  match host.parseDate text with
  | some instant => .ok (JsDate.toISOString instant)
  | none => .error unsafeField

def parseTemporal (property : ICalendarProperty) (label : String) (inheritedTimeZone : Option JsString) :
    Checked TemporalValue := do
  let values := property.param "VALUE"
  let named := property.param "TZID"
  let timeZones := if named = [] then inheritedTimeZone.toList else named
  if 1 < values.length then .error (ofString label ++ ofString " declares more than one VALUE parameter.")
  else
    let kind := values.head?.map host.upper
    if 1 < timeZones.length then .error (ofString label ++ ofString " declares more than one TZID parameter.")
    else if kind = some (ofString "DATE") ∨
        (kind = none ∧ property.value.length = 8 ∧ property.value.all isDigit) then
      if timeZones ≠ [] then .error (ofString label ++ ofString " cannot combine VALUE=DATE with TZID.")
      else return .date (← compactDate property.value label)
    else if kind ≠ none ∧ kind ≠ some (ofString "DATE-TIME") then
      .error (ofString label ++ ofString " uses unsupported VALUE=" ++ kind.getD [] ++ ofString ".")
    else
      match matchDateTime property.value with
      | none => .error (ofString label ++ ofString " must use an iCalendar DATE-TIME with second precision.")
      | some text =>
        let parts := text.parts
        if parts.month < 1 ∨ 12 < parts.month ∨ parts.day < 1 ∨ 31 < parts.day ∨ 23 < parts.hour ∨
            59 < parts.minute ∨ 59 < parts.second then
          .error (ofString label ++ ofString " is not a valid date-time.")
        else if text.suffix = [90] then
          return .dateTime (← normalizeDate host (text.iso [90])) none
        else if text.suffix ≠ [] then
          return .dateTime (← normalizeDate host (text.iso (text.suffix.take 3 ++ 58 :: text.suffix.drop 3))) none
        else
          let timeZone := timeZones.headD host.systemTimeZone
          return .dateTime (← zonedDateTime host parts timeZone label) (some timeZone)

end Temporal

section Recurrence

def Frequency.text : Frequency → JsString
  | .daily => ofString "daily"
  | .weekly => ofString "weekly"
  | .monthly => ofString "monthly"
  | .yearly => ofString "yearly"

def frequencies : List Frequency := [.daily, .weekly, .monthly, .yearly]

def Weekday.text : Weekday → JsString
  | .mo => ofString "MO"
  | .tu => ofString "TU"
  | .we => ofString "WE"
  | .th => ofString "TH"
  | .fr => ofString "FR"
  | .sa => ofString "SA"
  | .su => ofString "SU"

def weekdays : List Weekday := [.mo, .tu, .we, .th, .fr, .sa, .su]

variable (host : Host)

/-- The fields of a rule, in their order. -/
def ruleFields (fields : List (JsString × JsString)) (part : JsString) : Checked (List (JsString × JsString)) :=
  let rawKey := part.takeWhile (· ≠ 61)
  if rawKey = [] ∨ rawKey = part then .error (ofString "RRULE contains a malformed field.")
  else
    let key := host.upper rawKey
    if key ∈ fields.map (·.1) then .error (ofString "RRULE repeats " ++ key ++ ofString ".")
    else .ok (fields ++ [(key, part.drop (rawKey.length + 1))])

def ruleField (fields : List (JsString × JsString)) (name : String) : Option JsString :=
  (fields.find? (·.1 = ofString name)).map (·.2)

def supportedFields : List JsString :=
  [ofString "FREQ", ofString "INTERVAL", ofString "COUNT", ofString "UNTIL", ofString "BYDAY", ofString "BYMONTHDAY",
    ofString "WKST"]

def integerField (fields : List (JsString × JsString)) (name : String) (maximum : Nat) : Checked (Option Nat) :=
  match ruleField fields name with
  | none => .ok none
  | some raw =>
    if raw = [] then .error (ofString "RRULE " ++ ofString name ++ ofString " must be an integer.")
    else match JsDate.number raw with
    | none => .error (ofString "RRULE " ++ ofString name ++ ofString " must be an integer.")
    | some value =>
      if value < 1 ∨ maximum < value then
        .error (ofString "RRULE " ++ ofString name ++ ofString " is outside its supported bounds.")
      else .ok (some value)

def zoneOf : Option TemporalValue → Option JsString
  | some (.dateTime _ timeZone) => timeZone
  | _ => none

def parseUntil (start : Option TemporalValue) : Option JsString → Checked (Option TemporalValue)
  | none | some [] => .ok none
  | some raw => do
    let params := if start.any TemporalValue.isDate then [(ofString "VALUE", ofString "DATE")] else []
    return some (← parseTemporal host ⟨ofString "UNTIL", params, raw⟩ "RRULE UNTIL" (zoneOf start))

def parseByDay : Option JsString → Checked (Option (List Weekday))
  | none => .ok none
  | some raw =>
    match (raw.splitOn 44).mapM fun value => memberNamed weekdays Weekday.text (host.upper value) with
    | some days => .ok (some days)
    | none => .error (ofString "RRULE BYDAY contains an unsupported weekday or ordinal.")

def monthDay (value : JsString) : Option Int :=
  (host.toNumber value).filter fun day => day ≠ 0 && -31 ≤ day && day ≤ 31

def parseByMonthDay : Option JsString → Checked (Option (List Int))
  | none => .ok none
  | some raw =>
    match (raw.splitOn 44).mapM (monthDay host) with
    | some days => .ok (some days)
    | none => .error (ofString "RRULE BYMONTHDAY contains an invalid day.")

/-- The first day of the week, and whether the schema takes it: an empty text passes here. -/
def parseWeekStart : Option JsString → Checked (Option Weekday × Bool)
  | none => .ok (none, true)
  | some raw =>
    let weekStart := host.upper raw
    if weekStart = [] then .ok (none, false)
    else match memberNamed weekdays Weekday.text weekStart with
    | some day => .ok (some day, true)
    | none => .error (ofString "RRULE WKST contains an unsupported weekday.")

def recurrenceDates (start : Option TemporalValue) (label : String) (properties : List ICalendarProperty) :
    Checked (List TemporalValue) := do
  let dates ← properties.mapM fun property =>
    (splitUnescaped property.value 44).mapM fun value =>
      parseTemporal host { property with value := value } label (zoneOf start)
  return dates.flatten

/-- The recurrence of a component, and whether the schema takes its first day of the week. -/
def parseRecurrence (component : ICalendarComponent) (start : Option TemporalValue) :
    Checked (Option Recurrence × Bool) := do
  let rule ← optionalProperty component "RRULE"
  let rdates := propertiesNamed component "RDATE"
  let exdates := propertiesNamed component "EXDATE"
  match rule with
  | none =>
    if rdates.isEmpty ∧ exdates.isEmpty then return (none, true)
    else .error (component.name ++ ofString " uses recurrence dates without an RRULE.")
  | some rule =>
    let fields ← (rule.value.splitOn 59).foldlM (ruleFields host) []
    match (ruleField fields "FREQ").bind fun raw => memberNamed frequencies Frequency.text (host.lower raw) with
    | none => .error (ofString "RRULE requires a supported FREQ value.")
    | some frequency =>
      let unsupported := (fields.map (·.1)).filter (· ∉ supportedFields)
      if unsupported ≠ [] then
        .error (ofString "RRULE fields are unsupported: " ++ (unsupported.intersperse (ofString ", ")).flatten ++
          ofString ".")
      else
        let interval ← integerField fields "INTERVAL" 10000
        let count ← integerField fields "COUNT" 1000000
        let limit ← parseUntil host start (ruleField fields "UNTIL")
        if count.isSome ∧ limit.isSome then .error (ofString "RRULE COUNT and UNTIL are mutually exclusive.")
        else
          let byWeekday ← parseByDay host (ruleField fields "BYDAY")
          let byMonthDay ← parseByMonthDay host (ruleField fields "BYMONTHDAY")
          let (weekStart, known) ← parseWeekStart host (ruleField fields "WKST")
          let additionalDates ← recurrenceDates host start "RDATE" rdates
          let exceptionDates ← recurrenceDates host start "EXDATE" exdates
          return (some {
            frequency := frequency
            interval := interval.getD 1
            count := count
            until_ := limit
            byWeekday := byWeekday
            byMonthDay := byMonthDay
            weekStart := weekStart
            additionalDates := additionalDates
            exceptionDates := exceptionDates }, known)

end Recurrence

section Participants

def AttendeeRole.text : AttendeeRole → JsString
  | .required => ofString "REQ-PARTICIPANT"
  | .optional => ofString "OPT-PARTICIPANT"
  | .chair => ofString "CHAIR"
  | .nonParticipant => ofString "NON-PARTICIPANT"

def attendeeRoles : List AttendeeRole := [.required, .optional, .chair, .nonParticipant]

def ParticipationStatus.text : ParticipationStatus → JsString
  | .needsAction => ofString "NEEDS-ACTION"
  | .accepted => ofString "ACCEPTED"
  | .declined => ofString "DECLINED"
  | .tentative => ofString "TENTATIVE"
  | .delegated => ofString "DELEGATED"

def participationStatuses : List ParticipationStatus :=
  [.needsAction, .accepted, .declined, .tentative, .delegated]

/-- The value of a parameter that stands there once at most. -/
def oneParam (property : ICalendarProperty) (name : String) : Checked (Option JsString) :=
  match property.param name with
  | [] => .ok none
  | [value] => .ok (some value)
  | _ => .error (property.name ++ ofString " declares more than one " ++ ofString name ++ ofString " value.")

variable (host : Host)

def parseAttendee (property : ICalendarProperty) (organizer : Bool) : Checked Attendee := do
  if (property.value.take 7).map asciiLower ≠ ofString "mailto:" then
    .error (property.name ++ ofString " must use a mailto URI.")
  else
    match Uri.decodeURIComponent (property.value.drop 7) with
    | none => .error (property.name ++ ofString " contains an invalid mailto URI.")
    | some email =>
      let roleRaw := (← oneParam property "ROLE").map host.upper
      let statusRaw := (← oneParam property "PARTSTAT").map host.upper
      let role := roleRaw.bind (memberNamed attendeeRoles AttendeeRole.text)
      let status := statusRaw.bind (memberNamed participationStatuses ParticipationStatus.text)
      if roleRaw.isSome ∧ role.isNone then
        .error (property.name ++ ofString " uses unsupported ROLE=" ++ roleRaw.getD [] ++ ofString ".")
      else if statusRaw.isSome ∧ status.isNone then
        .error (property.name ++ ofString " uses unsupported PARTSTAT=" ++ statusRaw.getD [] ++ ofString ".")
      else
        let rsvpRaw := (← oneParam property "RSVP").map host.upper
        if rsvpRaw ≠ none ∧ rsvpRaw ≠ some (ofString "TRUE") ∧ rsvpRaw ≠ some (ofString "FALSE") then
          .error (property.name ++ ofString " RSVP must be TRUE or FALSE.")
        else
          return {
            email := email
            name := (← oneParam property "CN").map unescapeText
            role := if organizer then .chair else role.getD .required
            participationStatus := if organizer then .accepted else status.getD .needsAction
            rsvp := rsvpRaw = some (ofString "TRUE") }

def alarmUid (eventUid : JsString) (index : Nat) : JsString :=
  let candidate := eventUid ++ ofString "-alarm-" ++ decimal (index + 1)
  if candidate.length ≤ 255 then candidate else ofString "alarm-" ++ host.sha256 candidate

/-- `(?:(\d+)W)?` and its like: the number, and what follows it. -/
def readUnit (unit : UInt16) (text : JsString) : Nat × JsString :=
  let amount := text.takeWhile isDigit
  match text.dropWhile isDigit with
  | next :: rest => if amount ≠ [] ∧ next = unit then ((JsDate.number amount).getD 0, rest) else (0, text)
  | [] => (0, text)

/-- The seconds of `P(?:(\d+)W)?(?:(\d+)D)?(?:T(?:(\d+)H)?(?:(\d+)M)?(?:(\d+)S)?)?`. -/
def readDuration : JsString → Option Nat
  | 80 :: text =>
    let (weeks, text) := readUnit 87 text
    let (days, text) := readUnit 68 text
    match text with
    | [] => some ((weeks * 7 + days) * 86400)
    | 84 :: text =>
      let (hours, text) := readUnit 72 text
      let (minutes, text) := readUnit 77 text
      let (seconds, text) := readUnit 83 text
      if text = [] then some ((((weeks * 7 + days) * 24 + hours) * 60 + minutes) * 60 + seconds) else none
    | _ => none
  | _ => none

def parseRelativeMinutes (value : JsString) : Checked Int :=
  let (negative, text) := match value with
    | 45 :: rest => (true, rest)
    | value => (false, value)
  match readDuration text with
  | none => .error (ofString "VALARM TRIGGER uses an unsupported duration.")
  | some seconds =>
    if seconds = 0 ∨ seconds % 60 ≠ 0 then
      .error (ofString "VALARM TRIGGER must be a non-zero whole-minute duration.")
    else .ok (if negative then -(seconds / 60 : Nat) else (seconds / 60 : Nat))

def AlarmAction.text : AlarmAction → JsString
  | .display => ofString "DISPLAY"
  | .audio => ofString "AUDIO"

/-- `/^\d{4}-\d{2}-\d{2}T/`, of what `toISOString` writes or of a date. -/
def startsWithDate (text : JsString) : Bool :=
  match text with
  | y₁ :: y₂ :: y₃ :: y₄ :: 45 :: m₁ :: m₂ :: 45 :: d₁ :: d₂ :: 84 :: _ => [y₁, y₂, y₃, y₄, m₁, m₂, d₁, d₂].all isDigit
  | _ => false

def TemporalValue.text : TemporalValue → JsString
  | .date value => value
  | .dateTime value _ => value

def parseTrigger (trigger : ICalendarProperty) : Checked AlarmTrigger := do
  if (trigger.param "VALUE").head?.map host.upper = some (ofString "DATE-TIME") then
    let moment := (← parseTemporal host trigger "VALARM TRIGGER" none).text
    if startsWithDate moment then return .absolute moment
    else .error (ofString "An absolute VALARM trigger must be a date-time.")
  else return .relative (← parseRelativeMinutes trigger.value)

def textProperty (component : ICalendarComponent) (name : String) : Checked (Option JsString) := do
  return (← optionalProperty component name).map fun property => unescapeText property.value

def parseAlarm (eventUid : JsString) (component : ICalendarComponent) (index : Nat) : Checked Alarm := do
  let action := host.upper (← requiredProperty component "ACTION").value
  match memberNamed [.display, .audio] AlarmAction.text action with
  | none => .error (ofString "VALARM uses unsupported ACTION=" ++ action ++ ofString ".")
  | some alarmAction =>
    let trigger ← parseTrigger host (← requiredProperty component "TRIGGER")
    let description ← textProperty component "DESCRIPTION"
    return ⟨alarmUid host eventUid index, alarmAction, trigger, description⟩

end Participants

section Bundles

def EventStatus.text : EventStatus → JsString
  | .tentative => ofString "tentative"
  | .confirmed => ofString "confirmed"
  | .cancelled => ofString "cancelled"

def Transparency.text : Transparency → JsString
  | .opaqueTime => ofString "opaque"
  | .transparent => ofString "transparent"

def TaskStatus.text : TaskStatus → JsString
  | .needsAction => ofString "needs-action"
  | .inProgress => ofString "in-progress"
  | .completed => ofString "completed"
  | .cancelled => ofString "cancelled"

def taskStatuses : List TaskStatus := [.needsAction, .inProgress, .completed, .cancelled]

def categories (component : ICalendarComponent) : List JsString :=
  (propertiesNamed component "CATEGORIES").flatMap fun property =>
    ((splitUnescaped property.value 44).map unescapeText).filter (· ≠ [])

/-- Reads what may be left out. -/
def ifPresent (read : α → Checked β) : Option α → Checked (Option β)
  | none => .ok none
  | some value => (read value).map some

/-- `schema.parse`, whose error becomes the one of an unsafe field. -/
def checked (known : Bool) (parsed : Option α) : Checked α :=
  match parsed with
  | some value => if known then .ok value else .error unsafeField
  | none => .error unsafeField

variable (host : Host)

def parseEvent (component : ICalendarComponent) : Checked (CreateInput .calendarEvent) := do
  let uid := unescapeText (← requiredProperty component "UID").value
  let start ← parseTemporal host (← requiredProperty component "DTSTART") "VEVENT DTSTART" none
  let finish ← parseTemporal host (← requiredProperty component "DTEND") "VEVENT DTEND" (zoneOf (some start))
  let organizerProperty ← optionalProperty component "ORGANIZER"
  let statusText := ((← optionalProperty component "STATUS").map fun property => host.lower property.value).getD
    EventStatus.confirmed.text
  let transparencyText := ((← optionalProperty component "TRANSP").map fun property => host.lower property.value).getD
    Transparency.opaqueTime.text
  match memberNamed [.tentative, .confirmed, .cancelled] EventStatus.text statusText with
  | none => .error (ofString "VEVENT uses unsupported STATUS=" ++ statusText ++ ofString ".")
  | some status =>
    match memberNamed [.opaqueTime, .transparent] Transparency.text transparencyText with
    | none => .error (ofString "VEVENT uses unsupported TRANSP=" ++ transparencyText ++ ofString ".")
    | some transparency =>
      let title := unescapeText (← requiredProperty component "SUMMARY").value
      let description ← textProperty component "DESCRIPTION"
      let location ← textProperty component "LOCATION"
      let (recurrence, known) ← parseRecurrence host component (some start)
      let organizer ← ifPresent (parseAttendee host · true) organizerProperty
      let attendees ← (propertiesNamed component "ATTENDEE").mapM (parseAttendee host · false)
      let alarms ← (component.children.filter (·.name = ofString "VALARM")).zipIdx.mapM fun (alarm, index) =>
        parseAlarm host uid alarm index
      checked known (createSchema host.toLetterCase .calendarEvent ⟨some uid, {
        title := title
        description := description
        location := location
        start := start
        finish := finish
        recurrence := recurrence
        organizer := organizer
        attendees := attendees
        alarms := alarms
        categories := categories component
        status := status
        transparency := transparency }⟩)

def parseTask (component : ICalendarComponent) : Checked (CreateInput .task) := do
  if !component.children.isEmpty then
    .error (ofString "VTODO child components are outside the local task boundary.")
  else
    let entry ← ifPresent (parseTemporal host · "VTODO DTSTART" none) (← optionalProperty component "DTSTART")
    let due ← ifPresent (parseTemporal host · "VTODO DUE" (zoneOf entry)) (← optionalProperty component "DUE")
    let completed ← ifPresent (parseTemporal host · "VTODO COMPLETED" none) (← optionalProperty component "COMPLETED")
    if completed.any TemporalValue.isDate then .error (ofString "VTODO COMPLETED must be a date-time.")
    else
      let statusText := ((← optionalProperty component "STATUS").map fun property => host.lower property.value).getD
        TaskStatus.needsAction.text
      match memberNamed taskStatuses TaskStatus.text statusText with
      | none => .error (ofString "VTODO uses unsupported STATUS=" ++ statusText ++ ofString ".")
      | some status =>
        let sequence ← optionalProperty component "SEQUENCE"
        let lastModified ← optionalProperty component "LAST-MODIFIED"
        let uid := unescapeText (← requiredProperty component "UID").value
        let title := unescapeText (← requiredProperty component "SUMMARY").value
        let description ← textProperty component "DESCRIPTION"
        let priority ← parseInteger (← optionalProperty component "PRIORITY") "VTODO PRIORITY" 0 9 0
        let percentComplete ← parseInteger (← optionalProperty component "PERCENT-COMPLETE") "VTODO PERCENT-COMPLETE"
          0 100 (if status = .completed then 100 else 0)
        let (recurrence, known) ← parseRecurrence host component (entry.or due)
        checked known (createSchema host.toLetterCase .task ⟨some uid, {
          title := title
          description := description
          status := status
          entry := entry
          due := due
          priority := priority
          percentComplete := percentComplete
          completedAt := completed.map TemporalValue.text
          categories := categories component
          recurrence := recurrence
          sourceRevision := (sequence.map fun property => ofString "SEQUENCE:" ++ property.value).or
            (lastModified.map fun property => ofString "LAST-MODIFIED:" ++ property.value) }⟩)

def childrenNamed (component : ICalendarComponent) (name : String) : List ICalendarComponent :=
  component.children.filter (·.name = ofString name)

def parseICalendarBundle (source : JsString) : Checked ParsedICalendarBundle := do
  let _ ← inspectPimInterchange host.toLetterCase .icalendar source
  let calendar ← parseComponents host source
  if calendar.children.any fun component =>
      component.name ∉ [ofString "VEVENT", ofString "VTODO", ofString "VTIMEZONE"] then
    .error (ofString "VCALENDAR contains an unsupported direct child component.")
  else if (childrenNamed calendar "VEVENT").any fun component =>
      component.children.any fun child => child.name ≠ ofString "VALARM" then
    .error (ofString "VEVENT contains an unsupported child component.")
  else
    let events ← (childrenNamed calendar "VEVENT").mapM (parseEvent host)
    let tasks ← (childrenNamed calendar "VTODO").mapM (parseTask host)
    return ⟨events, tasks⟩

end Bundles

end Pim
