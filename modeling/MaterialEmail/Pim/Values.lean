import MaterialEmail.Library.TextList
import MaterialEmail.Pim.VCard

/-! Values as they are written and read back: the durations of alarms, in days, hours and minutes that are not
zero, and lists of texts. -/
namespace Pim

open JsString
open JsDate (decimal)

/-- An amount with its unit, or nothing if there is none. -/
def amountText (value : Nat) (unit : UInt16) : JsString := if value ≠ 0 then decimal value ++ [unit] else []

/-- What is written of a duration after its sign. -/
def durationText (minutes : Nat) : JsString :=
  80 :: (amountText (minutes / 1440) 68 ++
    if minutes % 1440 / 60 ≠ 0 ∨ minutes % 60 ≠ 0 then
      84 :: (amountText (minutes % 1440 / 60) 72 ++ amountText (minutes % 60) 77)
    else [])

theorem durationFromMinutes_eq (minutes : Int) :
    durationFromMinutes minutes = (if minutes < 0 then [45] else []) ++ durationText minutes.natAbs := by
  simp only [durationFromMinutes, durationText, amountText, ofString]
  simp

section Units

variable {unit other : UInt16} {value : Nat} {rest : JsString}

theorem isDigit_decimal (value : Nat) : ∀ digit ∈ decimal value, isDigit digit = true := by
  intro digit member
  have some := JsDate.isDigit_digits _ _ digit member
  unfold digit? at some
  split at some
  · rename_i inside
    simp [isDigit, inside]
  · cases some

theorem decimal_ne_nil (value : Nat) : decimal value ≠ [] := by
  intro empty
  have lengths := JsDate.length_decimal value
  rw [empty] at lengths
  cases lengths

/-- A text that begins with no digit has no amount in front. -/
theorem readUnit_none (plain : ∀ first ∈ rest.head?, isDigit first = false) : readUnit unit rest = (0, rest) := by
  unfold readUnit
  cases rest with
  | nil => rfl
  | cons first others =>
    have noDigit : ¬ isDigit first = true := by simp [plain first rfl]
    rw [List.takeWhile_cons_of_neg noDigit, List.dropWhile_cons_of_neg noDigit]
    simp

theorem readUnit_decimal (ends : isDigit other = false) :
    readUnit unit (decimal value ++ other :: rest) =
      if other = unit then (value, rest) else (0, decimal value ++ other :: rest) := by
  have noDigit : ¬ isDigit other = true := by simp [ends]
  unfold readUnit
  rw [List.takeWhile_append_of_pos (isDigit_decimal value), List.dropWhile_append_of_pos (isDigit_decimal value),
    List.takeWhile_cons_of_neg noDigit, List.dropWhile_cons_of_neg noDigit]
  simp [decimal_ne_nil, JsDate.number_decimal]

theorem readUnit_amount (ends : isDigit unit = false) (nothing : readUnit unit rest = (0, rest)) :
    readUnit unit (amountText value unit ++ rest) = (value, rest) := by
  unfold amountText
  split
  · rw [List.append_assoc, List.singleton_append, readUnit_decimal ends, if_pos rfl]
  · rename_i zero
    simpa [not_not.1 zero] using nothing

theorem readUnit_other (ends : isDigit other = false) (differs : other ≠ unit) (nothing : readUnit unit rest = (0, rest)) :
    readUnit unit (amountText value other ++ rest) = (0, amountText value other ++ rest) := by
  unfold amountText
  split
  · rw [List.append_assoc, List.singleton_append, readUnit_decimal ends, if_neg differs]
  · simpa using nothing

end Units

section Durations

theorem readDuration_durationText (minutes : Nat) : readDuration (durationText minutes) = some (60 * minutes) := by
  have nothing (unit : UInt16) : readUnit unit [] = (0, []) := readUnit_none (by simp)
  have atTime (unit : UInt16) (rest : JsString) : readUnit unit (84 :: rest) = (0, 84 :: rest) :=
    readUnit_none (by simp; decide)
  unfold durationText
  by_cases timed : minutes % 1440 / 60 ≠ 0 ∨ minutes % 60 ≠ 0
  · have weeks : readUnit 87 (amountText (minutes / 1440) 68 ++
        84 :: (amountText (minutes % 1440 / 60) 72 ++ amountText (minutes % 60) 77)) = (0, _) :=
      readUnit_other (by decide) (by decide) (atTime 87 _)
    have days : readUnit 68 (amountText (minutes / 1440) 68 ++
        84 :: (amountText (minutes % 1440 / 60) 72 ++ amountText (minutes % 60) 77)) = (minutes / 1440, _) :=
      readUnit_amount (by decide) (atTime 68 _)
    have later : readUnit 72 (amountText (minutes % 60) 77) = (0, amountText (minutes % 60) 77) := by
      simpa using @readUnit_other 72 77 (minutes % 60) [] (by decide) (by decide) (nothing 72)
    have hours : readUnit 72 (amountText (minutes % 1440 / 60) 72 ++ amountText (minutes % 60) 77) =
        (minutes % 1440 / 60, amountText (minutes % 60) 77) := readUnit_amount (by decide) later
    have remaining : readUnit 77 (amountText (minutes % 60) 77) = (minutes % 60, []) := by
      simpa using @readUnit_amount 77 (minutes % 60) [] (by decide) (nothing 77)
    rw [if_pos timed]
    simp only [readDuration, weeks, days, hours, remaining, nothing, if_true, Option.some.injEq]
    omega
  · have weeks : readUnit 87 (amountText (minutes / 1440) 68 ++ []) = (0, _) :=
      readUnit_other (by decide) (by decide) (nothing 87)
    have days : readUnit 68 (amountText (minutes / 1440) 68 ++ []) = (minutes / 1440, _) :=
      readUnit_amount (by decide) (nothing 68)
    rw [if_neg timed]
    simp only [readDuration, weeks, days, Option.some.injEq]
    omega

theorem parseRelativeMinutes_of_text (negative : Bool) (minutes : Nat) :
    parseRelativeMinutes ((if negative then [45] else []) ++ durationText minutes) =
      if minutes = 0 then .error (ofString "VALARM TRIGGER must be a non-zero whole-minute duration.")
      else .ok (if negative then -(minutes : Int) else minutes) := by
  have seconds := readDuration_durationText minutes
  have begins : ∃ rest, durationText minutes = 80 :: rest := ⟨_, rfl⟩
  obtain ⟨rest, isText⟩ := begins
  rw [isText] at seconds ⊢
  cases negative <;> simp [parseRelativeMinutes, seconds]

/-- Every duration that an alarm may have is read back as it was, but for the one of no minutes: it is
written without an amount, and not accepted. -/
theorem duration_roundTrip {minutes : Int} (_ : (AlarmTrigger.parse (.relative minutes)).isSome) :
    parseRelativeMinutes (durationFromMinutes minutes) = .ok minutes ↔ minutes ≠ 0 := by
  have text := parseRelativeMinutes_of_text (decide (minutes < 0)) minutes.natAbs
  rw [durationFromMinutes_eq]
  simp only [decide_eq_true_eq] at text
  rw [text]
  by_cases nothing : minutes = 0
  · simp [nothing]
  · have some : minutes.natAbs ≠ 0 := Int.natAbs_ne_zero.2 nothing
    have signed : (if minutes < 0 then -(minutes.natAbs : Int) else minutes.natAbs) = minutes := by
      split <;> omega
    simp only [if_neg some, signed, nothing, ne_eq, not_false_iff]

theorem earlier_roundTrip : parseRelativeMinutes (durationFromMinutes (-1501)) = .ok (-1501) :=
  (duration_roundTrip (by decide)).2 (by decide)

theorem noMinutes_refused : (AlarmTrigger.parse (.relative 0)).isSome ∧
    parseRelativeMinutes (durationFromMinutes 0) ≠ .ok 0 := by
  decide

end Durations

/-! The lists of texts in one value, the categories of a calendar component and the structured values of a
vCard. The writers escape no quotes, and the readers see no separators between them. -/
section Lists

open ContentLine

variable {texts : List JsString}

theorem structuredText_eq (values : List (Option JsString)) :
    VCard.structuredText values = textList 59 (values.map (·.getD [])) := by
  simp [VCard.structuredText, textList, joined, Function.comp_def]

/-- Lists of texts, with commas and with semicolons, are read back as they were exactly where no text but the
last one has an odd number of quotes. -/
theorem textLists_roundTrip (nonempty : texts ≠ []) (plain : ∀ text ∈ texts, text ≠ [] ∧ 13 ∉ text) :
    ((splitUnescaped (joined [44] (texts.map escapeText)) 44).map unescapeText = texts ↔
      ∀ text ∈ texts.dropLast, Even (text.count 34)) ∧
    ((splitUnescaped (VCard.structuredText (texts.map some)) 59).map unescapeText = texts ↔
      ∀ text ∈ texts.dropLast, Even (text.count 34)) := by
  have unbroken : ∀ text ∈ texts, 13 ∉ text := fun text member => (plain text member).2
  constructor
  · exact @split_textList_iff 44 texts (by decide) nonempty unbroken
  · have written : VCard.structuredText (texts.map some) = textList 59 texts := by
      rw [structuredText_eq]
      simp [Function.comp_def]
    rw [written]
    exact split_textList_iff (by decide) nonempty unbroken

theorem quotedWords_kept :
    (splitUnescaped (joined [44] ([ofString "\"a,b\";\\", [10, 44], ofString "12\""].map escapeText)) 44).map unescapeText =
      [ofString "\"a,b\";\\", [10, 44], ofString "12\""] :=
  (textLists_roundTrip (by decide) (by decide)).1.2 (by decide)

/-- A quote that is not closed takes the next text with it. -/
theorem openQuote_merged :
    (splitUnescaped (joined [44] ([ofString "12\"", ofString "b"].map escapeText)) 44).map unescapeText ≠
      [ofString "12\"", ofString "b"] ∧
    (splitUnescaped (VCard.structuredText ([ofString "12\"", ofString "b"].map some)) 59).map unescapeText ≠
      [ofString "12\"", ofString "b"] := by
  decide

end Lists

end Pim
