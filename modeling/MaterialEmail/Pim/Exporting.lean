import MaterialEmail.Pim.Serialization
import MaterialEmail.Pim.Separation
import MaterialEmail.Pim.Components

/-! The UIDs that an exported document has for the inspection it passes: of the lines for UIDs, which are
folded like all others, the inspection reads the first physical line. -/
namespace Pim

open JsString ContentLine Fallible

/-- What an inspection reads of a UID. -/
def inspectedUid (uid : JsString) : JsString :=
  trim (((foldLine (lineText "UID" (escapeText uid) [])).headD []).drop 4)

/-- The UIDs of an exported document as its inspection reads them. -/
def inspectedUids (s : PersistedPimState) : List JsString :=
  (uids s .calendarEvent ++ uids s .task).map inspectedUid

/-- The error of an inspection that finds a UID twice. -/
def duplicateUid : JsString := ofString "Local event and task UIDs must be unique within one iCalendar document."

section Texts

variable {text : JsString} {texts : List JsString} {separator : JsString}

theorem number_digit {value start : Nat}
    (isNumber : text.foldlM (fun value unit => (digit? unit).map (value * 10 + ·)) start = some value) :
    ∀ unit ∈ text, (digit? unit).isSome = true := by
  induction text generalizing start with
  | nil => simp
  | cons unit rest ih =>
    rw [List.foldlM_cons] at isNumber
    obtain ⟨next, isNext, isRest⟩ := Option.bind_eq_some_iff.1 isNumber
    obtain ⟨digit, isDigit, -⟩ := Option.map_eq_some_iff.1 isNext
    have later := ih isRest
    simpa [isDigit] using later

theorem number_oneLine {value : Nat} (isNumber : JsDate.number text = some value) : OneLine text :=
  digit_oneLine (number_digit isNumber)

theorem digits_oneLine (width value : Nat) : OneLine (JsDate.digits width value) :=
  digit_oneLine (JsDate.isDigit_digits width value)

theorem decimal_oneLine (value : Nat) : OneLine (JsDate.decimal value) := digits_oneLine _ _

theorem integerText_oneLine (value : Int) : OneLine (integerText value) := by
  unfold integerText
  split
  · simp [decimal_oneLine]
  · exact decimal_oneLine _

theorem joined_oneLine (between : OneLine separator) (oneLine : ∀ text ∈ texts, OneLine text) :
    OneLine (joined separator texts) := by
  unfold joined
  induction texts with
  | nil => simp
  | cons text texts ih =>
    have tail := ih fun other member => oneLine other (List.mem_cons_of_mem _ member)
    have head := oneLine text List.mem_cons_self
    cases texts with
    | nil => simpa using head
    | cons next others => simpa [head, between] using tail

theorem splitOn_oneLine (delimiter : UInt16) (between : OneLine [delimiter])
    (oneLine : ∀ part ∈ text.splitOn delimiter, OneLine part) : OneLine text := by
  have whole : joined [delimiter] (text.splitOn delimiter) = text := List.intercalate_splitOn delimiter
  rw [← whole]
  exact joined_oneLine between oneLine

theorem yearText_oneLine (year : Int) : OneLine (JsDate.yearText year) := by
  unfold JsDate.yearText
  split
  · exact digits_oneLine _ _
  · split <;> simp [digits_oneLine]

theorem toISOString_oneLine (instant : Int) : OneLine (JsDate.toISOString instant) := by
  simp [JsDate.toISOString, digits_oneLine, yearText_oneLine]

theorem dropMilliseconds_oneLine (oneLine : OneLine text) : OneLine (dropMilliseconds text) := by
  unfold dropMilliseconds
  split
  · rename_i d₃ d₂ d₁ rest reversed
    split
    · have inside : rest.reverse ⊆ text := by
        intro unit member
        rw [← List.mem_reverse, reversed]
        simp [List.mem_reverse.1 member]
      simp [oneLine.subset inside]
    · exact oneLine
  · exact oneLine

theorem compactUtc_oneLine {value compact : JsString} (ok : compactUtc value = .ok compact) : OneLine compact := by
  unfold compactUtc at ok
  split at ok
  · cases ok
    exact dropMilliseconds_oneLine ((toISOString_oneLine _).subset (List.filter_subset_self _))
  · cases ok

theorem localDate_oneLine {value : JsString} (normal : localDateSchema value = some value) : OneLine value := by
  unfold localDateSchema at normal
  split at normal
  · rename_i date isDate
    unfold JsDate.readDate at isDate
    split at isDate
    · simp only [bind_eq_some, Option.pure_def, Option.some.injEq, Prod.mk.injEq] at isDate
      obtain ⟨year, isYear, month, isMonth, day, isDay, -, rfl⟩ := isDate
      have digits := number_oneLine isYear
      have months := number_oneLine isMonth
      have days := number_oneLine isDay
      simp only [oneLine_cons] at digits months days ⊢
      simp [digits, months, days]
    · cases isDate
  · cases normal

theorem isEmail_oneLine {value : JsString} (email : isEmail value = true) : OneLine value := by
  have units : ∀ {part : JsString} {test : UInt16 → Bool}, test 10 = false → test 13 = false → part.all test = true →
      OneLine part := by
    intro part test feed carriage tested unit member
    have passes := List.all_eq_true.1 tested unit member
    constructor
    · rintro rfl
      simp [feed] at passes
    · rintro rfl
      simp [carriage] at passes
  unfold isEmail at email
  split at email
  · rename_i mailbox domain parts
    simp only [Bool.and_eq_true] at email
    obtain ⟨⟨⟨⟨⟨⟨isMailbox, -⟩, -⟩, -⟩, -⟩, labels⟩, last⟩ := email
    refine splitOn_oneLine 64 (by decide) fun part member => ?_
    rw [parts] at member
    rcases List.mem_cons.1 member with rfl | member
    · exact units (by decide) (by decide) isMailbox
    · obtain rfl : part = domain := by simpa using member
      refine splitOn_oneLine 46 (by decide) fun label member => ?_
      obtain ⟨final, isFinal, letters⟩ := (Option.any_eq_true _ _).1 last
      have split := List.dropLast_append_getLast? final isFinal
      rw [← split] at member
      rcases List.mem_append.1 member with early | isLast
      · have isLabel := List.all_eq_true.1 labels label early
        unfold isDomainLabel at isLabel
        split at isLabel
        · cases isLabel
        · rename_i first rest
          rw [Bool.and_eq_true] at isLabel
          have alphanumeric : ∀ {unit : UInt16}, isAlphanumeric unit = true → unit ≠ 10 ∧ unit ≠ 13 := by
            intro unit isUnit
            constructor
            · rintro rfl
              cases isUnit
            · rintro rfl
              cases isUnit
          rw [oneLine_cons]
          exact ⟨alphanumeric isLabel.1, units (by decide) (by decide) isLabel.2⟩
      · obtain rfl : label = final := by simpa using isLast
        rw [Bool.and_eq_true] at letters
        exact units (by decide) (by decide) letters.2
  · cases email

end Texts

section Reading

variable (letters : LetterCase)

/-- The UID that an inspection takes from a physical line. -/
def uidValue (line : JsString) : Option JsString :=
  if startsWithBlank line then none
  else
    match readLine letters line with
    | .ok (name, value) => if name = ofString "UID" then some value else none
    | .error _ => none

variable {letters} {allowed physical : List JsString} {inspection inspection' : ComponentInspection}
  {base rest value : JsString} {separator : UInt16}

theorem inspectLine_uids {line : JsString} (ok : inspectLine letters allowed inspection line = .ok inspection') :
    inspection'.values (ofString "UID") = inspection.values (ofString "UID") ++ (uidValue letters line).toList := by
  unfold inspectLine at ok
  split at ok
  · rename_i empty
    cases ok
    rw [empty]
    simp [ComponentInspection.values, uidValue, startsWithBlank, readLine]
  · split at ok
    · rename_i blank
      split at ok
      · cases ok
        simp [uidValue, blank]
      · cases ok
    · rename_i blank
      obtain ⟨⟨name, seen⟩, read, takes⟩ := bind_eq_ok ok
      rw [(inspectProperty_effect takes).2, uidValue, if_neg blank, read]
      by_cases isUid : name = ofString "UID"
      · simp [isUid]
      · simp [isUid]

theorem inspection_uids (ok : physical.foldlM (inspectLine letters allowed) inspection = .ok inspection') :
    inspection'.values (ofString "UID") =
      inspection.values (ofString "UID") ++ physical.filterMap (uidValue letters) := by
  induction physical generalizing inspection with
  | nil =>
    cases ok
    simp
  | cons line rest ih =>
    rw [List.foldlM_cons] at ok
    obtain ⟨between, first, later⟩ := bind_eq_ok ok
    rw [ih later, inspectLine_uids first, List.append_assoc, List.filterMap_cons]
    cases uidValue letters line with
    | none => simp
    | some uid => simp

/-- The name of a property that is no UID. -/
structure OtherName (base : JsString) : Prop where
  units : ∀ unit ∈ base, isNameUnit unit = true
  short : base.length ≤ 74
  other : base.map asciiUpper ≠ ofString "UID"

instance (base : JsString) : Decidable (OtherName base) :=
  decidable_of_iff ((∀ unit ∈ base, isNameUnit unit = true) ∧ base.length ≤ 74 ∧ base.map asciiUpper ≠ ofString "UID")
    ⟨fun ⟨units, short, other⟩ => ⟨units, short, other⟩, fun ⟨units, short, other⟩ => ⟨units, short, other⟩⟩

theorem isNameUnit_basic {unit : UInt16} (isName : isNameUnit unit = true) : unit < 0x80 := by
  unfold isNameUnit isAlphanumeric isLetter at isName
  simp only [Bool.or_eq_true, Bool.and_eq_true, decide_eq_true_eq, UInt16.le_iff_toNat_le] at isName
  rw [UInt16.lt_iff_toNat_lt]
  rcases isName with ((upper | lower) | digit) | hyphen
  · simp only [UInt16.reduceToNat] at upper ⊢
    omega
  · simp only [UInt16.reduceToNat] at lower ⊢
    omega
  · simp only [UInt16.reduceToNat] at digit ⊢
    omega
  · rw [hyphen]
    decide

/-- The name in front of a line is all of its name units. -/
theorem name_unique {base' rest' : JsString} {separator' : UInt16} (units : ∀ unit ∈ base, isNameUnit unit = true)
    (units' : ∀ unit ∈ base', isNameUnit unit = true) (ends : isNameUnit separator = false)
    (ends' : isNameUnit separator' = false) (same : base ++ separator :: rest = base' ++ separator' :: rest') :
    base = base' := by
  have taken : ∀ {front back : JsString} {unit : UInt16}, (∀ unit ∈ front, isNameUnit unit = true) →
      isNameUnit unit = false → (front ++ unit :: back).takeWhile isNameUnit = front := by
    intro front back unit plain stops
    rw [List.takeWhile_append_of_pos plain, List.takeWhile_cons_of_neg (by simp [stops]), List.append_nil]
  rw [← taken units ends, same, taken units' ends']

theorem uidValue_other (name : OtherName base) (isSeparator : separator = 58 ∨ separator = 59) :
    uidValue letters (base ++ separator :: rest) = none := by
  have ends : ∀ {unit : UInt16}, unit = 58 ∨ unit = 59 → isNameUnit unit = false := by
    rintro unit (rfl | rfl) <;> decide
  unfold uidValue
  split
  · rfl
  · split
    · rename_i read
      obtain ⟨base', rest', same, units, starts, isName⟩ := readLine_name read
      cases rest' with
      | nil => simp at starts
      | cons unit others =>
        simp only [List.head?_cons, Option.some.injEq] at starts
        have named := name_unique name.units units (ends isSeparator) (ends starts) same
        subst named
        rw [letters.upper_ascii _ fun unit member => isNameUnit_basic (units unit member)] at isName
        rw [if_neg (isName ▸ name.other)]
    · rfl

theorem uidValue_uid : uidValue letters (ofString "UID" ++ 58 :: rest) = some (trim rest) := by
  have upper : letters.upper (ofString "UID") = ofString "UID" := by
    rw [letters.upper_ascii _ (by decide)]
    decide
  have taken : (ofString "UID" ++ 58 :: rest).takeWhile (· ≠ 58) = ofString "UID" := by
    rw [List.takeWhile_append_of_pos (by decide)]
    simp
  have longer : ¬ ofString "UID" = ofString "UID" ++ 58 :: rest := by simp
  have raw : isRawName (ofString "UID") = true := by decide
  have name : (ofString "UID").takeWhile (· ≠ 59) = ofString "UID" := by decide
  have read : readLine letters (ofString "UID" ++ 58 :: rest) = .ok (ofString "UID", trim rest) := by
    unfold readLine
    simp only [taken, name, raw, upper]
    rw [if_neg (by simp [longer]; decide)]
    simp [ofString]
  have blank : startsWithBlank (ofString "UID" ++ 58 :: rest) = false := by
    simp [ofString, startsWithBlank]
  rw [uidValue, blank, read]
  simp

/-- A text that is folded begins with its name on the first physical line, and continues on the others. -/
theorem foldLine_named (rest : JsString) (basic : ∀ unit ∈ base, unit < 0x80) (short : base.length ≤ 75) :
    ∃ rest' others, foldLine (base ++ rest) = (base ++ rest') :: others ∧
      ∀ line ∈ others, startsWithBlank line = true := by
  have plain : ∀ unit ∈ base, isHighSurrogate unit = false := by
    intro unit member
    have small := UInt16.lt_iff_toNat_lt.1 (basic unit member)
    unfold isHighSurrogate
    simp only [Bool.and_eq_false_iff, decide_eq_false_iff_not, UInt16.le_iff_toNat_le]
    simp only [UInt16.reduceToNat] at small ⊢
    omega
  unfold foldLine
  rw [characters_plain plain, foldFrom_fits (by simpa using basic) (by simpa using short), List.nil_append]
  exact foldFrom_first

theorem foldLine_oneLine {text : JsString} (oneLine : OneLine text) : ∀ line ∈ foldLine text, OneLine line :=
  foldFrom_oneLine oneLine_nil (by rwa [flatten_characters])

theorem uidValue_blank {lines : List JsString} (blank : ∀ line ∈ lines, startsWithBlank line = true) :
    lines.filterMap (uidValue letters) = [] := by
  rw [List.filterMap_eq_nil_iff]
  intro line member
  simp [uidValue, blank line member]

theorem terminated_joinLines (nonempty : physical ≠ []) : joinLines physical ++ [13, 10] = terminated physical := by
  unfold joinLines
  induction physical with
  | nil => exact absurd rfl nonempty
  | cons line rest ih =>
    cases rest with
    | nil => simp [terminated]
    | cons next others =>
      have tail := ih (by simp)
      simp only [List.intersperse_cons_cons, List.flatten_cons, List.append_assoc] at tail ⊢
      rw [tail]
      simp [terminated]

end Reading

section Writing

variable (letters : LetterCase)

/-- Lines that an inspection reads these UIDs from, once they are written. -/
def Writes (lines uids : List JsString) : Prop :=
  ∃ physical, terminated lines = terminated physical ∧ (∀ line ∈ physical, OneLine line) ∧
    physical.filterMap (uidValue letters) = uids

variable {letters} {first second uids uids' : List JsString} {base rest value : JsString} {separator : UInt16}

@[simp] theorem writes_nil : Writes letters [] [] := ⟨[], rfl, by simp, rfl⟩

theorem Writes.append (one : Writes letters first uids) (two : Writes letters second uids') :
    Writes letters (first ++ second) (uids ++ uids') := by
  obtain ⟨physical, same, oneLine, read⟩ := one
  obtain ⟨physical', same', oneLine', read'⟩ := two
  refine ⟨physical ++ physical', by simp [same, same'], ?_, by simp [read, read']⟩
  intro line member
  rcases List.mem_append.1 member with isFirst | isSecond
  · exact oneLine line isFirst
  · exact oneLine' line isSecond

theorem Writes.plain_first (one : Writes letters first []) (two : Writes letters second uids) :
    Writes letters (first ++ second) uids := one.append two

theorem Writes.plain_last (one : Writes letters first uids) (two : Writes letters second []) :
    Writes letters (first ++ second) uids := by
  simpa using one.append two

theorem Writes.all {lines : List JsString} (each : ∀ line ∈ lines, Writes letters [line] []) : Writes letters lines [] := by
  induction lines with
  | nil => exact writes_nil
  | cons line rest ih =>
    have tail := ih fun other member => each other (List.mem_cons_of_mem _ member)
    have head := each line List.mem_cons_self
    simpa using head.append tail

/-- What is written for each of a list. -/
theorem Writes.mapM {items : List α} {step : α → Checked (List JsString)} {lists : List (List JsString)}
    (uidsOf : α → List JsString) (each : ∀ item ∈ items, ∀ lines, step item = .ok lines → Writes letters lines (uidsOf item))
    (ok : items.mapM step = .ok lists) : Writes letters lists.flatten (items.flatMap uidsOf) := by
  induction items generalizing lists with
  | nil =>
    cases ok
    exact writes_nil
  | cons item rest ih =>
    rw [List.mapM_cons] at ok
    obtain ⟨lines, head, ok₁⟩ := bind_eq_ok ok
    obtain ⟨others, tail, ok₂⟩ := bind_eq_ok ok₁
    cases ok₂
    exact (each item List.mem_cons_self lines head).append
      (ih (fun other member => each other (List.mem_cons_of_mem _ member)) tail)

/-- A line of its own. -/
theorem writes_plain (base rest : JsString) (name : OtherName base) (oneLine : OneLine (base ++ 58 :: rest)) :
    Writes letters [base ++ 58 :: rest] [] := by
  refine ⟨[base ++ 58 :: rest], rfl, by simpa using oneLine, ?_⟩
  simp only [List.filterMap_cons, uidValue_other name (Or.inl rfl), List.filterMap_nil]

theorem writes_folded {text : JsString} (oneLine : OneLine text) (read : (foldLine text).filterMap (uidValue letters) = uids) :
    Writes letters [joinLines (foldLine text)] uids := by
  refine ⟨foldLine text, ?_, foldLine_oneLine oneLine, read⟩
  have nonempty : foldLine text ≠ [] := foldFrom_ne_nil
  rw [← terminated_joinLines nonempty]
  simp [terminated]

theorem writes_named (name : OtherName base) (isSeparator : separator = 58 ∨ separator = 59)
    (oneLine : OneLine (base ++ separator :: rest)) : Writes letters [joinLines (foldLine (base ++ separator :: rest))] [] := by
  apply writes_folded oneLine
  have basic : ∀ unit ∈ base ++ [separator], unit < 0x80 := by
    intro unit member
    rcases List.mem_append.1 member with inName | isLast
    · exact isNameUnit_basic (name.units unit inName)
    · obtain rfl : unit = separator := by simpa using isLast
      rcases isSeparator with rfl | rfl <;> decide
  have short := name.short
  obtain ⟨rest', others, folded, blank⟩ := foldLine_named rest basic (by simp; omega)
  simp only [List.append_assoc, List.singleton_append] at folded
  rw [folded, List.filterMap_cons, uidValue_other name isSeparator]
  exact uidValue_blank blank

/-- A line that is no UID. -/
theorem writes_line {name : String} {parameters : List JsString} (other : OtherName (ofString name))
    (oneLine : OneLine value) (parametersOneLine : ∀ parameter ∈ parameters, OneLine parameter) :
    Writes letters [line name value parameters] [] := by
  have nameOneLine : OneLine (ofString name) := by
    intro unit member
    have isName := other.units unit member
    constructor
    · rintro rfl
      cases isName
    · rintro rfl
      cases isName
  unfold line lineText
  split
  · rw [List.append_nil]
    exact writes_named other (Or.inl rfl) (by simp [nameOneLine, oneLine])
  · rw [List.append_assoc, List.cons_append]
    have semicolon : OneLine [59] := by decide
    have between := joined_oneLine semicolon parametersOneLine
    exact writes_named other (Or.inr rfl) (by simp [nameOneLine, oneLine, between])

theorem writes_uid (uid : JsString) : Writes letters [line "UID" (escapeText uid)] [inspectedUid uid] := by
  have isText : lineText "UID" (escapeText uid) [] = (ofString "UID" ++ [58]) ++ escapeText uid := by
    simp [lineText]
  have oneLine : OneLine (lineText "UID" (escapeText uid) []) := by
    rw [isText, oneLine_append]
    exact ⟨by decide, escapeText_oneLine uid⟩
  apply writes_folded oneLine
  have uidBasic : ∀ unit ∈ ofString "UID" ++ [58], unit < 0x80 := by decide
  obtain ⟨rest', others, folded, blank⟩ := foldLine_named (escapeText uid) uidBasic (by decide)
  have isUid : inspectedUid uid = trim rest' := by
    unfold inspectedUid
    rw [isText, folded]
    rfl
  rw [isUid, isText, folded, List.filterMap_cons, List.append_assoc, List.singleton_append, uidValue_uid,
    uidValue_blank blank]

/-- The inspection reads the UIDs of what is written. -/
theorem Writes.read {lines allowed : List JsString} {inspection : ComponentInspection} (writes : Writes letters lines uids)
    (nonempty : lines ≠ []) (ok : inspectComponents letters (normalizedLines (joinLines lines ++ [13, 10])) allowed = .ok inspection) :
    inspection.values (ofString "UID") = uids := by
  obtain ⟨physical, same, oneLine, read⟩ := writes
  obtain ⟨after, ran, ok₁⟩ := bind_eq_ok ok
  split at ok₁
  · cases ok₁
    rw [terminated_joinLines nonempty, same, normalizedLines_terminated oneLine] at ran
    rw [inspection_uids ran, List.filterMap_append, read]
    simp [ComponentInspection.values, uidValue, startsWithBlank, readLine]
  · cases ok₁

end Writing

section Contents

variable {letters : LetterCase} {temporal : TemporalValue}

/-- A list whose elements pass a schema as they are. -/
theorem mapM_fixed {schema : α → Option α} {values : List α} (same : values.mapM schema = some values) :
    ∀ value ∈ values, schema value = some value := by
  induction values with
  | nil => simp
  | cons value values ih =>
    simp only [List.mapM_cons, Option.pure_def, Option.bind_eq_bind, Option.bind_eq_some_iff, Option.some.injEq,
      List.cons.injEq] at same
    obtain ⟨parsed, isParsed, rest, areParsed, rfl, rfl⟩ := same
    intro other member
    rcases List.mem_cons.1 member with rfl | later
    · exact isParsed
    · exact ih areParsed other later

theorem optional_fixed {schema : α → Option α} {value : Option α} (same : optional schema value = some value) :
    ∀ present ∈ value, schema present = some present := by
  rintro present rfl
  obtain ⟨parsed, isParsed, isSame⟩ := Option.map_eq_some_iff.1 same
  rw [Option.some.injEq] at isSame
  rw [isSame] at isParsed
  exact isParsed

theorem compactTemporal_oneLine {compact : JsString} (normal : temporalValueSchema temporal = some temporal)
    (ok : compactTemporal temporal = .ok compact) : OneLine compact := by
  cases temporal with
  | date value =>
    cases ok
    simp only [temporalValueSchema, bind_eq_some, Option.pure_def, Option.some.injEq, TemporalValue.date.injEq] at normal
    obtain ⟨parsed, isParsed, same⟩ := normal
    rw [same] at isParsed
    exact (localDate_oneLine isParsed).subset (List.filter_subset_self _)
  | dateTime value timeZone => exact compactUtc_oneLine ok

theorem writes_temporal (name : String) {text : JsString} (other : OtherName (ofString name))
    (normal : temporalValueSchema temporal = some temporal) (ok : temporalLine name temporal = .ok text) :
    Writes letters [text] [] := by
  obtain ⟨value, compact, ok₁⟩ := bind_eq_ok ok
  cases ok₁
  apply writes_line other (compactTemporal_oneLine normal compact)
  intro parameter member
  split at member
  · obtain rfl : parameter = ofString "VALUE=DATE" := by simpa using member
    decide
  · cases member

/-- The lines of the values of a list. -/
theorem writes_temporals {name : String} {temporals : List TemporalValue} {texts : List JsString}
    (other : OtherName (ofString name)) (normal : ∀ temporal ∈ temporals, temporalValueSchema temporal = some temporal)
    (ok : temporals.mapM (temporalLine name) = .ok texts) : Writes letters texts [] := by
  induction temporals generalizing texts with
  | nil =>
    cases ok
    exact writes_nil
  | cons temporal rest ih =>
    rw [List.mapM_cons] at ok
    obtain ⟨text, head, ok₁⟩ := bind_eq_ok ok
    obtain ⟨others, tail, ok₂⟩ := bind_eq_ok ok₁
    cases ok₂
    exact (writes_temporal name other (normal temporal List.mem_cons_self) head).append
      (ih (fun other member => normal other (List.mem_cons_of_mem _ member)) tail)

theorem writes_optional {name : String} {temporal : Option TemporalValue} {text : Option JsString}
    (other : OtherName (ofString name)) (normal : ∀ present ∈ temporal, temporalValueSchema present = some present)
    (ok : ifPresent (temporalLine name) temporal = .ok text) : Writes letters text.toList [] := by
  cases temporal with
  | none =>
    cases ok
    exact writes_nil
  | some present =>
    obtain ⟨line, isLine, ok₁⟩ := bind_eq_ok ok
    cases ok₁
    exact writes_temporal name other (normal present rfl) isLine

theorem frequency_oneLine (frequency : Frequency) : OneLine (upperText frequency.text) := by
  cases frequency <;> decide

theorem weekday_oneLine (day : Weekday) : OneLine day.text := by
  cases day <;> decide

theorem recurrence_temporals {recurrence : Recurrence} (normal : recurrence.parse = some recurrence) :
    (∀ limit ∈ recurrence.until_, temporalValueSchema limit = some limit) ∧
      (∀ date ∈ recurrence.additionalDates, temporalValueSchema date = some date) ∧
      ∀ date ∈ recurrence.exceptionDates, temporalValueSchema date = some date := by
  simp only [Recurrence.parse, bind_eq_some, Option.ite_none_right_eq_some, Option.some.injEq] at normal
  obtain ⟨limit, isLimit, additional, areAdditional, exceptions, areExceptions, -, same⟩ := normal
  have sameLimit : limit = recurrence.until_ := congrArg Recurrence.until_ same
  have sameAdditional : additional = recurrence.additionalDates := congrArg Recurrence.additionalDates same
  have sameExceptions : exceptions = recurrence.exceptionDates := congrArg Recurrence.exceptionDates same
  rw [sameLimit] at isLimit
  rw [bounded_eq, sameAdditional] at areAdditional
  rw [bounded_eq, sameExceptions] at areExceptions
  exact ⟨optional_fixed isLimit, mapM_fixed areAdditional.2, mapM_fixed areExceptions.2⟩

theorem ruleParts_oneLine {recurrence : Recurrence} {parts : List JsString} (normal : recurrence.parse = some recurrence)
    (ok : ruleParts recurrence = .ok parts) : ∀ part ∈ parts, OneLine part := by
  obtain ⟨limit, isLimit, ok₁⟩ := bind_eq_ok ok
  cases ok₁
  have limited : ∀ text ∈ limit, OneLine text := by
    rintro text rfl
    cases given : recurrence.until_ with
    | none =>
      rw [given] at isLimit
      cases isLimit
    | some temporal =>
      rw [given] at isLimit
      obtain ⟨compact, isCompact, ok₂⟩ := bind_eq_ok isLimit
      cases ok₂
      exact compactTemporal_oneLine ((recurrence_temporals normal).1 temporal given) isCompact
  have comma : OneLine [44] := by decide
  intro part member
  simp only [List.mem_append, List.mem_singleton, Option.mem_toList,
    Option.map_eq_some_iff] at member
  rcases member with (((((rfl | interval) | ⟨count, -, rfl⟩) | ⟨text, isText, rfl⟩) | ⟨days, -, rfl⟩) | ⟨days, -, rfl⟩) | ⟨day, -, rfl⟩
  · exact oneLine_append.2 ⟨by decide, frequency_oneLine _⟩
  · split at interval
    · obtain rfl : part = _ := by simpa using interval
      exact oneLine_append.2 ⟨by decide, decimal_oneLine _⟩
    · cases interval
  · exact oneLine_append.2 ⟨by decide, decimal_oneLine _⟩
  · exact oneLine_append.2 ⟨by decide, limited text isText⟩
  · refine oneLine_append.2 ⟨by decide, joined_oneLine comma fun text isText => ?_⟩
    obtain ⟨day, -, rfl⟩ := List.mem_map.1 isText
    exact weekday_oneLine day
  · refine oneLine_append.2 ⟨by decide, joined_oneLine comma fun text isText => ?_⟩
    obtain ⟨day, -, rfl⟩ := List.mem_map.1 isText
    exact integerText_oneLine day
  · exact oneLine_append.2 ⟨by decide, weekday_oneLine day⟩

theorem writes_recurrence {recurrence : Option Recurrence} {lines : List JsString}
    (normal : ∀ present ∈ recurrence, present.parse = some present) (ok : recurrenceLines recurrence = .ok lines) :
    Writes letters lines [] := by
  cases recurrence with
  | none =>
    cases ok
    exact writes_nil
  | some recurrence =>
    have isNormal := normal recurrence rfl
    obtain ⟨-, additional, exceptions⟩ := recurrence_temporals isNormal
    obtain ⟨parts, areParts, ok₁⟩ := bind_eq_ok ok
    obtain ⟨dates, areDates, ok₂⟩ := bind_eq_ok ok₁
    obtain ⟨exdates, areExdates, ok₃⟩ := bind_eq_ok ok₂
    cases ok₃
    have rule : Writes letters [line "RRULE" (joined [59] parts)] [] :=
      writes_line (by decide) (joined_oneLine (by decide) (ruleParts_oneLine isNormal areParts)) (by simp)
    exact (rule.append (writes_temporals (by decide) additional areDates)).append
      (writes_temporals (by decide) exceptions areExdates)

theorem attendee_email {attendee : Attendee} (normal : attendee.parse = some attendee) : OneLine attendee.email := by
  simp only [Attendee.parse, bind_eq_some, Option.pure_def, Option.some.injEq] at normal
  obtain ⟨email, isEmail, name, -, same⟩ := normal
  have sameEmail : email = attendee.email := congrArg Attendee.email same
  rw [sameEmail] at isEmail
  exact isEmail_oneLine (Option.ite_none_right_eq_some.1 isEmail).1.1

theorem quotedName_oneLine (name : JsString) : OneLine (quotedName name) := by
  have inside : OneLine (name.map fun unit => if unit = 34 ∨ unit = 13 ∨ unit = 10 then 39 else unit) := by
    intro unit member
    obtain ⟨original, -, rfl⟩ := List.mem_map.1 member
    split
    · decide
    · rename_i plain
      simp only [not_or] at plain
      exact ⟨plain.2.2, plain.2.1⟩
  exact oneLine_append.2 ⟨oneLine_append.2 ⟨by decide, inside⟩, by decide⟩

theorem writes_attendee {name : String} {attendee : Attendee} (other : OtherName (ofString name))
    (normal : attendee.parse = some attendee) : Writes letters [attendeeLine name attendee] [] := by
  have role : OneLine (ofString "ROLE=" ++ attendee.role.text) := by
    cases attendee.role <;> decide
  have status : OneLine (ofString "PARTSTAT=" ++ attendee.participationStatus.text) := by
    cases attendee.participationStatus <;> decide
  have rsvp : OneLine (ofString "RSVP=" ++ (if attendee.rsvp then ofString "TRUE" else ofString "FALSE")) := by
    cases attendee.rsvp <;> decide
  apply writes_line other
  · exact oneLine_append.2 ⟨by decide, attendee_email normal⟩
  · intro parameter member
    rcases List.mem_append.1 member with isName | isState
    · simp only [Option.mem_toList, Option.map_eq_some_iff] at isName
      obtain ⟨text, -, rfl⟩ := isName
      exact quotedName_oneLine text
    · split at isState
      · simp only [List.mem_cons, List.not_mem_nil, or_false] at isState
        rcases isState with rfl | rfl | rfl
        · exact role
        · exact status
        · exact rsvp
      · cases isState

theorem duration_oneLine (minutes : Int) : OneLine (durationFromMinutes minutes) := by
  have sign : OneLine (if minutes < 0 then ofString "-" else []) := by split <;> decide
  have part : ∀ (amount : Nat) {unit : String}, OneLine (ofString unit) →
      OneLine (if amount ≠ 0 then JsDate.decimal amount ++ ofString unit else []) := by
    intro amount unit oneLine
    split
    · exact oneLine_append.2 ⟨decimal_oneLine _, oneLine⟩
    · exact oneLine_nil
  unfold durationFromMinutes
  refine oneLine_append.2 ⟨oneLine_append.2 ⟨oneLine_append.2 ⟨sign, by decide⟩, part _ (by decide)⟩, ?_⟩
  split
  · exact oneLine_append.2 ⟨oneLine_append.2 ⟨by decide, part _ (by decide)⟩, part _ (by decide)⟩
  · exact oneLine_nil

theorem writes_alarm {fallback : JsString} {alarm : Alarm} {lines : List JsString}
    (ok : alarmLines fallback alarm = .ok lines) : Writes letters lines [] := by
  obtain ⟨trigger, isTrigger, ok₁⟩ := bind_eq_ok ok
  cases ok₁
  have action : OneLine alarm.action.text := by cases alarm.action <;> decide
  have triggers : Writes letters [trigger] [] := by
    cases given : alarm.trigger with
    | relative minutes =>
      rw [given] at isTrigger
      cases isTrigger
      exact writes_line (by decide) (duration_oneLine minutes) (by simp)
    | absolute moment =>
      rw [given] at isTrigger
      obtain ⟨value, isValue, ok₂⟩ := bind_eq_ok isTrigger
      cases ok₂
      exact writes_line (by decide) (compactUtc_oneLine isValue) (by decide)
  have opens : Writes letters [ofString "BEGIN:VALARM"] [] :=
    writes_plain (ofString "BEGIN") (ofString "VALARM") (by decide) (by decide)
  have closes : Writes letters [ofString "END:VALARM"] [] :=
    writes_plain (ofString "END") (ofString "VALARM") (by decide) (by decide)
  have acts : Writes letters [line "ACTION" alarm.action.text] [] := writes_line (by decide) action (by simp)
  have described : Writes letters (if (alarm.description.any (· ≠ []) || alarm.action = .display) = true then
      [line "DESCRIPTION" (escapeText (alarm.description.getD fallback))] else []) [] := by
    split
    · exact writes_line (by decide) (escapeText_oneLine _) (by simp)
    · exact writes_nil
  exact ((opens.append (acts.append triggers)).append described).append closes

theorem writes_text (name : String) (text : Option JsString) (other : OtherName (ofString name)) :
    Writes letters (textLine name text) [] := by
  unfold textLine
  cases text.filter (· ≠ []) with
  | none => exact writes_nil
  | some text => exact writes_line other (escapeText_oneLine text) (by simp)

theorem writes_categories (categories : List JsString) : Writes letters (categoriesLine categories) [] := by
  unfold categoriesLine
  split
  · exact writes_nil
  · refine writes_line (by decide) (joined_oneLine (by decide) fun text member => ?_) (by simp)
    obtain ⟨category, -, rfl⟩ := List.mem_map.1 member
    exact escapeText_oneLine category

theorem event_parts {content : CalendarEventContent} (normal : CalendarEventContent.parse letters content = some content) :
    temporalValueSchema content.start = some content.start ∧ temporalValueSchema content.finish = some content.finish ∧
      (∀ recurrence ∈ content.recurrence, recurrence.parse = some recurrence) ∧
      (∀ organizer ∈ content.organizer, organizer.parse = some organizer) ∧
      ∀ attendee ∈ content.attendees, attendee.parse = some attendee := by
  simp only [CalendarEventContent.parse, bind_eq_some, Option.ite_none_right_eq_some, Option.some.injEq] at normal
  obtain ⟨a₁, -, a₂, -, a₃, -, start, isStart, finish, isFinish, recurrence, isRecurrence, organizer, isOrganizer,
    attendees, areAttendees, a₄, -, a₅, -, -, same⟩ := normal
  have sameStart : start = content.start := congrArg CalendarEventContent.start same
  have sameFinish : finish = content.finish := congrArg CalendarEventContent.finish same
  have sameRecurrence : recurrence = content.recurrence := congrArg CalendarEventContent.recurrence same
  have sameOrganizer : organizer = content.organizer := congrArg CalendarEventContent.organizer same
  have sameAttendees : attendees = content.attendees := congrArg CalendarEventContent.attendees same
  rw [sameStart] at isStart
  rw [sameFinish] at isFinish
  rw [sameRecurrence] at isRecurrence
  rw [sameOrganizer] at isOrganizer
  rw [sameAttendees, bounded_eq] at areAttendees
  exact ⟨isStart, isFinish, optional_fixed isRecurrence, optional_fixed isOrganizer, mapM_fixed areAttendees.2⟩

theorem task_parts {content : TaskContent} (normal : content.parse = some content) :
    (∀ entry ∈ content.entry, temporalValueSchema entry = some entry) ∧
      (∀ due ∈ content.due, temporalValueSchema due = some due) ∧
      ∀ recurrence ∈ content.recurrence, recurrence.parse = some recurrence := by
  simp only [TaskContent.parse, bind_eq_some, Option.ite_none_right_eq_some, Option.some.injEq] at normal
  obtain ⟨a₁, -, a₂, -, entry, isEntry, due, isDue, a₃, -, a₄, -, recurrence, isRecurrence, a₅, -, -, same⟩ := normal
  have sameEntry : entry = content.entry := congrArg TaskContent.entry same
  have sameDue : due = content.due := congrArg TaskContent.due same
  have sameRecurrence : recurrence = content.recurrence := congrArg TaskContent.recurrence same
  rw [sameEntry] at isEntry
  rw [sameDue] at isDue
  rw [sameRecurrence] at isRecurrence
  exact ⟨optional_fixed isEntry, optional_fixed isDue, optional_fixed isRecurrence⟩

theorem writes_event {event : Entity .calendarEvent} {lines : List JsString} (normal : Normal letters event)
    (ok : eventLines event = .ok lines) : Writes letters lines [inspectedUid event.uid] := by
  obtain ⟨-, isContent, -⟩ := normal_iff.1 normal
  obtain ⟨start, finish, recurrence, organizer, attendees⟩ := event_parts isContent
  obtain ⟨stamp, isStamp, ok₁⟩ := bind_eq_ok ok
  obtain ⟨dtstart, isStart, ok₂⟩ := bind_eq_ok ok₁
  obtain ⟨dtend, isEnd, ok₃⟩ := bind_eq_ok ok₂
  obtain ⟨rules, areRules, ok₄⟩ := bind_eq_ok ok₃
  obtain ⟨alarms, areAlarms, ok₅⟩ := bind_eq_ok ok₄
  cases ok₅
  have opens : Writes letters [ofString "BEGIN:VEVENT"] [] :=
    writes_plain (ofString "BEGIN") (ofString "VEVENT") (by decide) (by decide)
  have closes : Writes letters [ofString "END:VEVENT"] [] :=
    writes_plain (ofString "END") (ofString "VEVENT") (by decide) (by decide)
  have stamped : Writes letters [line "DTSTAMP" stamp] [] :=
    writes_line (by decide) (compactUtc_oneLine isStamp) (by simp)
  have starts : Writes letters [dtstart] [] := writes_temporal "DTSTART" (by decide) start isStart
  have ends : Writes letters [dtend] [] := writes_temporal "DTEND" (by decide) finish isEnd
  have titled : Writes letters [line "SUMMARY" (escapeText event.content.title)] [] :=
    writes_line (by decide) (escapeText_oneLine _) (by simp)
  have status : OneLine (upperText event.content.status.text) := by cases event.content.status <;> decide
  have transparency : OneLine (upperText event.content.transparency.text) := by
    cases event.content.transparency <;> decide
  have states : Writes letters [line "STATUS" (upperText event.content.status.text)] [] :=
    writes_line (by decide) status (by simp)
  have transparent : Writes letters [line "TRANSP" (upperText event.content.transparency.text)] [] :=
    writes_line (by decide) transparency (by simp)
  have organized : Writes letters (event.content.organizer.map (attendeeLine "ORGANIZER")).toList [] := by
    cases given : event.content.organizer with
    | none => exact writes_nil
    | some attendee => exact writes_attendee (by decide) (organizer attendee given)
  have attended : Writes letters (event.content.attendees.map (attendeeLine "ATTENDEE")) [] := by
    apply Writes.all
    intro text member
    obtain ⟨attendee, isAttendee, rfl⟩ := List.mem_map.1 member
    exact writes_attendee (by decide) (attendees attendee isAttendee)
  have alarmed : Writes letters alarms.flatten [] := by
    have all : Writes letters alarms.flatten _ := Writes.mapM (fun _ => []) (fun _ _ _ ok => writes_alarm ok) areAlarms
    rwa [List.flatMap_eq_nil_iff.2 fun _ _ => rfl] at all
  have head := opens.plain_first ((writes_uid event.uid).plain_last
    (stamped.plain_first (starts.plain_first (ends.plain_first titled))))
  have texts := (head.plain_last (writes_text "DESCRIPTION" event.content.description (by decide))).plain_last
    (writes_text "LOCATION" event.content.location (by decide))
  have people := ((((texts.plain_last (states.plain_first transparent)).plain_last
    (writes_categories event.content.categories)).plain_last organized).plain_last attended)
  exact ((people.plain_last (writes_recurrence recurrence areRules)).plain_last alarmed).plain_last closes

theorem writes_task {task : Entity .task} {lines : List JsString} (normal : Normal letters task)
    (ok : taskLines task = .ok lines) : Writes letters lines [inspectedUid task.uid] := by
  obtain ⟨-, isContent, -⟩ := normal_iff.1 normal
  obtain ⟨entry, due, recurrence⟩ := task_parts isContent
  obtain ⟨stamp, isStamp, ok₁⟩ := bind_eq_ok ok
  obtain ⟨dtstart, isStart, ok₂⟩ := bind_eq_ok ok₁
  obtain ⟨dtdue, isDue, ok₃⟩ := bind_eq_ok ok₂
  obtain ⟨completed, isCompleted, ok₄⟩ := bind_eq_ok ok₃
  obtain ⟨rules, areRules, ok₅⟩ := bind_eq_ok ok₄
  cases ok₅
  have opens : Writes letters [ofString "BEGIN:VTODO"] [] :=
    writes_plain (ofString "BEGIN") (ofString "VTODO") (by decide) (by decide)
  have closes : Writes letters [ofString "END:VTODO"] [] :=
    writes_plain (ofString "END") (ofString "VTODO") (by decide) (by decide)
  have stamped : Writes letters [line "DTSTAMP" stamp] [] :=
    writes_line (by decide) (compactUtc_oneLine isStamp) (by simp)
  have sequence : Writes letters [line "SEQUENCE" (JsDate.decimal (task.revision - 1))] [] :=
    writes_line (by decide) (decimal_oneLine _) (by simp)
  have titled : Writes letters [line "SUMMARY" (escapeText task.content.title)] [] :=
    writes_line (by decide) (escapeText_oneLine _) (by simp)
  have status : OneLine (upperText task.content.status.text) := by cases task.content.status <;> decide
  have states : Writes letters [line "STATUS" (upperText task.content.status.text)] [] :=
    writes_line (by decide) status (by simp)
  have ranked : Writes letters [line "PRIORITY" (JsDate.decimal task.content.priority)] [] :=
    writes_line (by decide) (decimal_oneLine _) (by simp)
  have measured : Writes letters [line "PERCENT-COMPLETE" (JsDate.decimal task.content.percentComplete)] [] :=
    writes_line (by decide) (decimal_oneLine _) (by simp)
  have finished : Writes letters completed.toList [] := by
    cases given : task.content.completedAt with
    | none =>
      rw [given] at isCompleted
      cases isCompleted
      exact writes_nil
    | some moment =>
      rw [given] at isCompleted
      obtain ⟨text, isText, ok₆⟩ := bind_eq_ok isCompleted
      obtain ⟨value, isValue, ok₇⟩ := bind_eq_ok isText
      cases ok₆
      cases ok₇
      exact writes_line (by decide) (compactUtc_oneLine isValue) (by simp)
  have head := opens.plain_first ((writes_uid task.uid).plain_last (stamped.plain_first (sequence.plain_first titled)))
  have moments := (((head.plain_last (writes_text "DESCRIPTION" task.content.description (by decide))).plain_last states).plain_last
    (writes_optional (by decide) entry isStart)).plain_last (writes_optional (by decide) due isDue)
  have counts := ((moments.plain_last (ranked.plain_first measured)).plain_last finished).plain_last
    (writes_categories task.content.categories)
  exact (counts.plain_last (writes_recurrence recurrence areRules)).plain_last closes

theorem writes_document {events : List (Entity .calendarEvent)} {tasks : List (Entity .task)} {lines : List JsString}
    (normalEvents : ∀ event ∈ events, Normal letters event) (normalTasks : ∀ task ∈ tasks, Normal letters task)
    (ok : documentLines events tasks = .ok lines) :
    Writes letters lines ((events.map Entity.uid ++ tasks.map Entity.uid).map inspectedUid) := by
  obtain ⟨eventTexts, areEvents, ok₁⟩ := bind_eq_ok ok
  obtain ⟨taskTexts, areTasks, ok₂⟩ := bind_eq_ok ok₁
  cases ok₂
  have opens : Writes letters [ofString "BEGIN:VCALENDAR"] [] :=
    writes_plain (ofString "BEGIN") (ofString "VCALENDAR") (by decide) (by decide)
  have version : Writes letters [ofString "VERSION:2.0"] [] :=
    writes_plain (ofString "VERSION") (ofString "2.0") (by decide) (by decide)
  have product : Writes letters [ofString "PRODID:-//Material Email//Local PIM 1.0//EN"] [] :=
    writes_plain (ofString "PRODID") (ofString "-//Material Email//Local PIM 1.0//EN") (by decide)
      (by decide)
  have scale : Writes letters [ofString "CALSCALE:GREGORIAN"] [] :=
    writes_plain (ofString "CALSCALE") (ofString "GREGORIAN") (by decide) (by decide)
  have closes : Writes letters [ofString "END:VCALENDAR"] [] :=
    writes_plain (ofString "END") (ofString "VCALENDAR") (by decide) (by decide)
  have writesEvents := Writes.mapM (fun event : Entity .calendarEvent => [inspectedUid event.uid])
    (fun event member _ ok => writes_event (normalEvents event member) ok) areEvents
  have writesTasks := Writes.mapM (fun task : Entity .task => [inspectedUid task.uid])
    (fun task member _ ok => writes_task (normalTasks task member) ok) areTasks
  have whole := (((opens.plain_first (version.plain_first (product.plain_first scale))).plain_first writesEvents).append
    writesTasks).plain_last closes
  have isUids : (events.flatMap fun event => [inspectedUid event.uid]) ++ (tasks.flatMap fun task => [inspectedUid task.uid]) =
      (events.map Entity.uid ++ tasks.map Entity.uid).map inspectedUid := by
    simp [List.map_append, List.map_map, ← List.map_eq_flatMap, Function.comp_def]
  rw [isUids] at whole
  exact whole

end Contents

section Exports

variable {letters : LetterCase} {s : PersistedPimState}

/-- The errors of an export before the inspection counts, by their first letters. -/
def Early (error : JsString) : Prop := error.head? ≠ some 76

theorem early_text {first : Char} {others : List Char} (other : first ≠ 'L') (basic : first.toNat < 128) :
    Early (ofString (String.ofList (first :: others))) := by
  rw [Early, ofString, String.toList_ofList]
  intro isFirst
  have units := congrArg UInt16.toNat (Option.some.inj isFirst)
  rw [UInt16.toNat_ofNat', Nat.mod_eq_of_lt (by omega)] at units
  exact other (by rw [← Char.ofNat_toNat first, units]; rfl)

theorem early_error {first : Char} {others : List Char} (other : first ≠ 'L') (basic : first.toNat < 128) :
    FailsWith Early (.error (ofString (String.ofList (first :: others))) : Checked α) :=
  failsWith_error.2 (early_text other basic)

theorem early_ne {error : JsString} (early : Early error) : error ≠ duplicateUid := by
  rintro rfl
  exact early (by decide)

theorem bounds_early (source : JsString) : FailsWith Early (assertSourceBounds source) := by
  unfold assertSourceBounds
  simp only
  repeat' split
  all_goals
    first
    | exact failsWith_ok
    | apply early_error <;> decide
    | simp [Early, ofString]

theorem readLine_early (line : JsString) : FailsWith Early (readLine letters line) := by
  unfold readLine
  simp only
  repeat' split
  all_goals
    first
    | exact failsWith_ok
    | apply early_error <;> decide

theorem inspectProperty_early (allowed : List JsString) (name value : JsString) (inspection : ComponentInspection) :
    FailsWith Early (inspectProperty letters allowed name value inspection) := by
  unfold inspectProperty
  simp only
  repeat' split
  all_goals
    first
    | exact failsWith_ok
    | apply early_error <;> decide
    | simp [Early, ofString]

theorem inspectLine_early (allowed : List JsString) (inspection : ComponentInspection) (line : JsString) :
    FailsWith Early (inspectLine letters allowed inspection line) := by
  unfold inspectLine
  split
  · simp
  · split
    · split
      · exact failsWith_ok
      · apply early_error <;> decide
    · exact (readLine_early line).bind fun ⟨name, value⟩ => inspectProperty_early allowed name value inspection

theorem components_early (lines allowed : List JsString) : FailsWith Early (inspectComponents letters lines allowed) := by
  refine (FailsWith.foldlM (inspectLine_early allowed) lines {}).bind fun inspection => ?_
  split
  · exact failsWith_ok
  · simp [Early, ofString]

theorem compactUtc_early (value : JsString) : FailsWith Early (compactUtc value) := by
  unfold compactUtc
  split
  · exact failsWith_ok
  · apply early_error <;> decide

theorem temporalLine_early (name : String) (temporal : TemporalValue) : FailsWith Early (temporalLine name temporal) := by
  refine FailsWith.bind ?_ fun value => failsWith_ok
  cases temporal with
  | date value => exact failsWith_ok
  | dateTime value timeZone => exact compactUtc_early value

theorem ifPresent_early {step : α → Checked β} (each : ∀ value, FailsWith Early (step value)) (given : Option α) :
    FailsWith Early (ifPresent step given) := by
  cases given with
  | none => exact failsWith_ok
  | some value => exact (each value).bind fun result => failsWith_ok

theorem recurrenceLines_early (recurrence : Option Recurrence) : FailsWith Early (recurrenceLines recurrence) := by
  cases recurrence with
  | none => exact failsWith_ok
  | some recurrence =>
    have parts : FailsWith Early (ruleParts recurrence) := by
      refine (ifPresent_early (fun limit => ?_) _).bind fun limit => failsWith_ok
      cases limit with
      | date value => exact failsWith_ok
      | dateTime value timeZone => exact compactUtc_early value
    exact parts.bind fun _ => (FailsWith.mapM (temporalLine_early _) _).bind fun _ =>
      (FailsWith.mapM (temporalLine_early _) _).bind fun _ => failsWith_ok

theorem alarmLines_early (fallback : JsString) (alarm : Alarm) : FailsWith Early (alarmLines fallback alarm) := by
  refine FailsWith.bind ?_ fun trigger => failsWith_ok
  cases alarm.trigger with
  | relative minutes => exact failsWith_ok
  | absolute moment => exact (compactUtc_early moment).bind fun _ => failsWith_ok

theorem documentLines_early (events : List (Entity .calendarEvent)) (tasks : List (Entity .task)) :
    FailsWith Early (documentLines events tasks) := by
  have event : ∀ event, FailsWith Early (eventLines event) := fun event =>
    (compactUtc_early _).bind fun _ => (temporalLine_early _ _).bind fun _ => (temporalLine_early _ _).bind fun _ =>
      (recurrenceLines_early _).bind fun _ => (FailsWith.mapM (alarmLines_early _) _).bind fun _ => failsWith_ok
  have task : ∀ task, FailsWith Early (taskLines task) := fun task =>
    (compactUtc_early _).bind fun _ => (ifPresent_early (temporalLine_early _) _).bind fun _ =>
      (ifPresent_early (temporalLine_early _) _).bind fun _ =>
        (ifPresent_early (fun _ => (compactUtc_early _).bind fun _ => failsWith_ok) _).bind fun _ =>
          (recurrenceLines_early _).bind fun _ => failsWith_ok
  exact (FailsWith.mapM event _).bind fun _ => (FailsWith.mapM task _).bind fun _ => failsWith_ok

theorem judgeICalendar_duplicate {size lineCount : Nat} {inspection : ComponentInspection} :
    (judgeICalendar size lineCount inspection = .error duplicateUid → ¬ (inspection.values (ofString "UID")).Nodup) ∧
      (∀ counts, judgeICalendar size lineCount inspection = .ok counts → (inspection.values (ofString "UID")).Nodup) := by
  unfold judgeICalendar
  simp only
  constructor
  · intro fails distinct
    rw [if_neg (not_not.2 distinct)] at fails
    repeat' split at fails
    all_goals
      first
      | exact early_ne (early_text (by decide) (by decide)) (Except.error.inj fails)
      | cases fails
  · intro counts ok
    repeat' split at ok
    all_goals
      first
      | cases ok; done
      | rename_i distinct; exact not_not.1 distinct

theorem inspect_duplicate {source : JsString} {found : List JsString}
    (reads : ∀ inspection, inspectComponents letters (normalizedLines source) calendarComponents = .ok inspection →
      inspection.values (ofString "UID") = found) :
    (inspectPimInterchange letters .icalendar source = .error duplicateUid → ¬ found.Nodup) ∧
      (∀ counts, inspectPimInterchange letters .icalendar source = .ok counts → found.Nodup) := by
  unfold inspectPimInterchange
  cases bounds : assertSourceBounds source with
  | error error =>
    refine ⟨fun fails => ?_, fun counts ok => by cases ok⟩
    cases fails
    exact absurd rfl (early_ne (bounds_early source _ bounds))
  | ok measured =>
    obtain ⟨size, lines⟩ := measured
    have isLines : lines = normalizedLines source := by
      unfold assertSourceBounds at bounds
      simp only at bounds
      repeat' split at bounds
      all_goals
        cases bounds
        try rfl
    subst isLines
    simp only [bind, Except.bind]
    cases components : inspectComponents letters (normalizedLines source) calendarComponents with
    | error error =>
      refine ⟨fun fails => ?_, fun counts ok => by cases ok⟩
      cases fails
      exact absurd rfl (early_ne (components_early _ _ _ components))
    | ok inspection =>
      rw [← reads inspection components]
      exact judgeICalendar_duplicate

theorem Ledger.normal_of_mem (ledger : Ledger letters s) {kind : PimEntityKind} {entity : Entity kind}
    (member : entity ∈ s.collection kind) : Normal letters entity :=
  (ledger.normal_live (ledger.find_of_mem member)).1

/-- The export of all events and tasks finds a UID twice only where the inspection reads one twice. -/
theorem exportAll_uids (ledger : Ledger letters s) :
    (exportAll letters s = .error duplicateUid → ¬ (inspectedUids s).Nodup) ∧
      (∀ text, exportAll letters s = .ok text → (inspectedUids s).Nodup) := by
  unfold exportAll serializeICalendarBundle
  split
  · refine ⟨fun fails => ?_, fun text ok => by cases ok⟩
    exact absurd (Except.error.inj fails) (early_ne (early_text (by decide) (by decide)))
  · cases document : documentLines (s.collection .calendarEvent) (s.collection .task) with
    | error error =>
      refine ⟨fun fails => ?_, fun text ok => by cases ok⟩
      cases fails
      exact absurd rfl (early_ne (documentLines_early _ _ _ document))
    | ok lines =>
      have writes := writes_document (fun _ member => ledger.normal_of_mem member)
        (fun _ member => ledger.normal_of_mem member) document
      have nonempty : lines ≠ [] := by
        rintro rfl
        obtain ⟨_, -, ok₁⟩ := bind_eq_ok document
        obtain ⟨_, -, ok₂⟩ := bind_eq_ok ok₁
        cases ok₂
      obtain ⟨refused, passed⟩ := inspect_duplicate fun inspection ok => writes.read nonempty ok
      simp only [normalizePimInterchangeForExport, bind, Except.bind]
      cases inspected : inspectPimInterchange letters .icalendar (joinLines lines ++ [13, 10]) with
      | error error =>
        refine ⟨fun fails => ?_, fun text ok => by cases ok⟩
        cases fails
        exact refused inspected
      | ok counts => exact ⟨fun fails => (by cases fails), fun text _ => passed counts inspected⟩

/-- Every run keeps the UIDs of events and tasks apart exactly if each of its requests is refused or brings no
UID of the other kind; and wherever the inspection reads different UIDs, the export of all of them finds none
twice. -/
theorem uids_apart (letters : LetterCase) (requests : List (Surroundings × Request)) :
    ((∀ earlier, earlier <+: requests → Apart (run letters .empty earlier)) ↔ AllSeparate letters .empty requests) ∧
      ∀ earlier, earlier <+: requests →
        ((inspectedUids (run letters .empty earlier)).Nodup →
          exportAll letters (run letters .empty earlier) ≠ .error duplicateUid) ∧
        ∀ text, exportAll letters (run letters .empty earlier) = .ok text →
          (inspectedUids (run letters .empty earlier)).Nodup := by
  have apart : Apart PersistedPimState.empty := by
    intro uid isEvent
    cases isEvent
  refine ⟨run_apart Ledger.empty apart requests, fun earlier _ => ?_⟩
  have ledger : Ledger letters (run letters .empty earlier) := run_ledger earlier
  obtain ⟨refused, passed⟩ := exportAll_uids ledger
  exact ⟨fun distinct twice => refused twice distinct, passed⟩

section Collisions

def surroundings (id : String) : Surroundings := ⟨some 0, fun _ => ofString id⟩

def requestTask (uid : JsString) : Request := .create .task ⟨some uid, { title := ofString "Call" }⟩

def requestEvent (uid : JsString) : Request :=
  .create .calendarEvent ⟨some uid, {
    title := ofString "Call"
    start := .date (ofString "2026-01-01")
    finish := .date (ofString "2026-01-02") }⟩

def sharedUid : List (Surroundings × Request) :=
  [(surroundings "t-1", requestTask (ofString "x")), (surroundings "t-2", requestEvent (ofString "x"))]

/-- A UID of 72 letters. -/
def longUid (last : UInt16) : JsString := List.replicate 71 120 ++ [last]

def longUids : List (Surroundings × Request) :=
  [(surroundings "t-1", requestTask (longUid 120)), (surroundings "t-2", requestTask (longUid 121))]

/-- A task and an event share a UID; and two tasks whose UIDs differ behind the fold are refused as well. -/
theorem sharedUid_collides :
    (¬ Apart (run LetterCase.ascii .empty sharedUid) ∧
      exportAll LetterCase.ascii (run LetterCase.ascii .empty sharedUid) = .error duplicateUid) ∧
    Apart (run LetterCase.ascii .empty longUids) ∧
      exportAll LetterCase.ascii (run LetterCase.ascii .empty longUids) = .error duplicateUid := by
  decide +kernel

end Collisions

end Exports

end Pim
