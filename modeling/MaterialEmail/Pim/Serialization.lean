import MaterialEmail.Pim.ICalendar

/-! Calendar events and tasks written as an iCalendar document. -/
namespace Pim

open JsString ContentLine

/-- `join`. -/
def joined (separator : JsString) (texts : List JsString) : JsString := (texts.intersperse separator).flatten

/-- The physical lines of a line: no more than 75 bytes each, as far as characters allow. -/
def foldLine (text : JsString) : List JsString := foldFrom 75 [] (characters text)

/-- The text of a line before it is folded. -/
def lineText (name : String) (value : JsString) (parameters : List JsString) : JsString :=
  ofString name ++ (if parameters = [] then [] else 59 :: joined [59] parameters) ++ 58 :: value

def line (name : String) (value : JsString) (parameters : List JsString := []) : JsString :=
  joinLines (foldLine (lineText name value parameters))

/-- `replace(/\.\d{3}Z$/, "Z")`. -/
def dropMilliseconds (text : JsString) : JsString :=
  match text.reverse with
  | 90 :: d₃ :: d₂ :: d₁ :: 46 :: rest => if [d₁, d₂, d₃].all isDigit then rest.reverse ++ [90] else text
  | _ => text

def withoutHyphens (text : JsString) : JsString := text.filter (· ≠ 45)

def compactUtc (value : JsString) : Checked JsString :=
  match JsDate.parse value with
  | some instant => .ok (dropMilliseconds ((JsDate.toISOString instant).filter fun unit => unit ≠ 45 ∧ unit ≠ 58))
  | none => .error (ofString "Invalid time value")

/-- The value of a date or of a moment, without separators. -/
def compactTemporal : TemporalValue → Checked JsString
  | .date value => .ok (withoutHyphens value)
  | .dateTime value _ => compactUtc value

def temporalLine (name : String) (temporal : TemporalValue) : Checked JsString := do
  let value ← compactTemporal temporal
  return line name value (if temporal.isDate then [ofString "VALUE=DATE"] else [])

/-- `String`, of an integer. -/
def integerText (value : Int) : JsString := if value < 0 then 45 :: JsDate.decimal value.natAbs else JsDate.decimal value.natAbs

/-- `toUpperCase`, of the texts of the enumerations. -/
def upperText (text : JsString) : JsString := text.map asciiUpper

/-- What stands in a rule. -/
def ruleParts (recurrence : Recurrence) : Checked (List JsString) := do
  let limit ← ifPresent compactTemporal recurrence.until_
  return [ofString "FREQ=" ++ upperText recurrence.frequency.text] ++
    (if recurrence.interval ≠ 1 then [ofString "INTERVAL=" ++ JsDate.decimal recurrence.interval] else []) ++
    (recurrence.count.map fun count => ofString "COUNT=" ++ JsDate.decimal count).toList ++
    (limit.map fun limit => ofString "UNTIL=" ++ limit).toList ++
    ((recurrence.byWeekday.filter (· ≠ [])).map fun days =>
      ofString "BYDAY=" ++ joined [44] (days.map Weekday.text)).toList ++
    ((recurrence.byMonthDay.filter (· ≠ [])).map fun days =>
      ofString "BYMONTHDAY=" ++ joined [44] (days.map integerText)).toList ++
    (recurrence.weekStart.map fun day => ofString "WKST=" ++ day.text).toList

def recurrenceLines : Option Recurrence → Checked (List JsString)
  | none => .ok []
  | some recurrence => do
    let parts ← ruleParts recurrence
    return [line "RRULE" (joined [59] parts)] ++ (← recurrence.additionalDates.mapM (temporalLine "RDATE")) ++
      (← recurrence.exceptionDates.mapM (temporalLine "EXDATE"))

/-- A name between quotes: quotes and line breaks become apostrophes. -/
def quotedName (name : JsString) : JsString :=
  ofString "CN=\"" ++ (name.map fun unit => if unit = 34 ∨ unit = 13 ∨ unit = 10 then 39 else unit) ++ [34]

def attendeeLine (name : String) (attendee : Attendee) : JsString :=
  line name (ofString "mailto:" ++ attendee.email)
    (((attendee.name.filter (· ≠ [])).map quotedName).toList ++
      if name = "ATTENDEE" then
        [ofString "ROLE=" ++ attendee.role.text, ofString "PARTSTAT=" ++ attendee.participationStatus.text,
          ofString "RSVP=" ++ (if attendee.rsvp then ofString "TRUE" else ofString "FALSE")]
      else [])

def durationFromMinutes (minutes : Int) : JsString :=
  let absolute := minutes.natAbs
  let days := absolute / 1440
  let hours := absolute % 1440 / 60
  let remaining := absolute % 60
  (if minutes < 0 then ofString "-" else []) ++ ofString "P" ++
    (if days ≠ 0 then JsDate.decimal days ++ ofString "D" else []) ++
    (if hours ≠ 0 ∨ remaining ≠ 0 then
      ofString "T" ++ (if hours ≠ 0 then JsDate.decimal hours ++ ofString "H" else []) ++
        (if remaining ≠ 0 then JsDate.decimal remaining ++ ofString "M" else [])
    else [])

def triggerLine : AlarmTrigger → Checked JsString
  | .relative minutes => .ok (line "TRIGGER" (durationFromMinutes minutes))
  | .absolute moment => do return line "TRIGGER" (← compactUtc moment) [ofString "VALUE=DATE-TIME"]

def alarmLines (fallbackDescription : JsString) (alarm : Alarm) : Checked (List JsString) := do
  let trigger ← triggerLine alarm.trigger
  let described := (alarm.description.any (· ≠ [])) || alarm.action = .display
  return [ofString "BEGIN:VALARM", line "ACTION" alarm.action.text, trigger] ++
    (if described then [line "DESCRIPTION" (escapeText (alarm.description.getD fallbackDescription))] else []) ++
    [ofString "END:VALARM"]

/-- A line for a text that is there and not empty. -/
def textLine (name : String) (text : Option JsString) : List JsString :=
  ((text.filter (· ≠ [])).map fun text => line name (escapeText text)).toList

def categoriesLine (categories : List JsString) : List JsString :=
  if categories = [] then [] else [line "CATEGORIES" (joined [44] (categories.map escapeText))]

def eventLines (event : Entity .calendarEvent) : Checked (List JsString) := do
  let content : CalendarEventContent := event.content
  return [ofString "BEGIN:VEVENT", line "UID" (escapeText event.uid), line "DTSTAMP" (← compactUtc event.updatedAt),
      ← temporalLine "DTSTART" content.start, ← temporalLine "DTEND" content.finish,
      line "SUMMARY" (escapeText content.title)] ++
    textLine "DESCRIPTION" content.description ++ textLine "LOCATION" content.location ++
    [line "STATUS" (upperText content.status.text), line "TRANSP" (upperText content.transparency.text)] ++
    categoriesLine content.categories ++ (content.organizer.map (attendeeLine "ORGANIZER")).toList ++
    content.attendees.map (attendeeLine "ATTENDEE") ++ (← recurrenceLines content.recurrence) ++
    (← content.alarms.mapM (alarmLines content.title)).flatten ++ [ofString "END:VEVENT"]

def taskLines (task : Entity .task) : Checked (List JsString) := do
  let content : TaskContent := task.content
  return [ofString "BEGIN:VTODO", line "UID" (escapeText task.uid), line "DTSTAMP" (← compactUtc task.updatedAt),
      line "SEQUENCE" (JsDate.decimal (task.revision - 1)), line "SUMMARY" (escapeText content.title)] ++
    textLine "DESCRIPTION" content.description ++ [line "STATUS" (upperText content.status.text)] ++
    (← ifPresent (temporalLine "DTSTART") content.entry).toList ++ (← ifPresent (temporalLine "DUE") content.due).toList ++
    [line "PRIORITY" (JsDate.decimal content.priority), line "PERCENT-COMPLETE" (JsDate.decimal content.percentComplete)] ++
    (← ifPresent (fun moment => do return line "COMPLETED" (← compactUtc moment)) content.completedAt).toList ++
    categoriesLine content.categories ++ (← recurrenceLines content.recurrence) ++ [ofString "END:VTODO"]

/-- The lines of a document, folded. -/
def documentLines (events : List (Entity .calendarEvent)) (tasks : List (Entity .task)) : Checked (List JsString) := do
  return [ofString "BEGIN:VCALENDAR", ofString "VERSION:2.0", ofString "PRODID:-//Material Email//Local PIM 1.0//EN",
      ofString "CALSCALE:GREGORIAN"] ++
    (← events.mapM eventLines).flatten ++ (← tasks.mapM taskLines).flatten ++ [ofString "END:VCALENDAR"]

variable (letters : LetterCase)

def serializeICalendarBundle (events : List (Entity .calendarEvent)) (tasks : List (Entity .task)) : Checked JsString := do
  if events.length + tasks.length < 1 then
    .error (ofString "Select at least one local event or task to export.")
  else
    let lines ← documentLines events tasks
    normalizePimInterchangeForExport letters .icalendar (joinLines lines ++ [13, 10])

/-- `exportICalendar` of all events and tasks. -/
def exportAll (state : PersistedPimState) : Checked JsString :=
  serializeICalendarBundle letters (state.collection .calendarEvent) (state.collection .task)

end Pim
