import MaterialEmail.Library.JsDate

/-! The times that a date can hold: a hundred million days either way. Years that do not have four digits are
written with a sign and six digits. -/
namespace JsDate

abbrev TimeValue := { instant : Int // -8640000000000000 ≤ instant ∧ instant ≤ 8640000000000000 }

/-- `Date.parse`. Of the texts that it reads, only those of `toISOString` have one meaning everywhere. -/
structure DateParser where
  parse : JsString → Option TimeValue
  parse_toISOString : ∀ time : TimeValue, parse (toISOString time) = some time

/-- A text with an expanded year: that of the same day in the first cycle, and the cycles between. -/
def parseExpanded : JsString → Option Int
  | sign :: y₁ :: y₂ :: y₃ :: y₄ :: y₅ :: y₆ :: rest => do
    let magnitude ← number [y₁, y₂, y₃, y₄, y₅, y₆]
    let year : Int := if sign = 45 then -magnitude else magnitude
    let instant ← parse (digits 4 (year % 400).toNat ++ rest)
    return instant + year / 400 * cycleDays * 86400000
  | _ => none

def parseIso (text : JsString) : Option Int :=
  if text.head? = some 43 ∨ text.head? = some 45 then parseExpanded text else parse text

/-- What `toISOString` writes after the year. -/
def afterYear (instant : Int) : JsString :=
  let time := (instant % 86400000).toNat
  let date := dateInCycle ((instant / 86400000 + daysBeforeYear 1970) % cycleDays).toNat
  45 :: digits 2 date.month ++ 45 :: digits 2 date.day ++ 84 :: digits 2 (time / 3600000) ++
    58 :: digits 2 (time / 60000 % 60) ++ 58 :: digits 2 (time / 1000 % 60) ++ 46 :: digits 3 (time % 1000) ++ [90]

def yearOf (instant : Int) : Int :=
  (instant / 86400000 + daysBeforeYear 1970) / cycleDays * 400 +
    (dateInCycle ((instant / 86400000 + daysBeforeYear 1970) % cycleDays).toNat).year

theorem toISOString_eq (instant : Int) : toISOString instant = yearText (yearOf instant) ++ afterYear instant := by
  simp only [toISOString, yearOf, afterYear, List.append_assoc, List.cons_append]

theorem length_afterYear (instant : Int) : (afterYear instant).length = 20 := by
  simp [afterYear, length_digits]

theorem length_yearText (year : Int) : (yearText year).length = 4 ∨ (yearText year).length = 7 := by
  unfold yearText
  split
  · exact Or.inl (length_digits _ _)
  · exact Or.inr (by rw [List.length_cons, length_digits])

theorem length_toISOString_le (instant : Int) : (toISOString instant).length ≤ 27 := by
  rw [toISOString_eq, List.length_append, length_afterYear]
  have lengths := length_yearText (yearOf instant)
  omega

/-- The year within its cycle. -/
def yearInCycle (instant : Int) : Nat :=
  (dateInCycle ((instant / 86400000 + daysBeforeYear 1970) % cycleDays).toNat).year

theorem yearOf_spec (instant : Int) :
    yearInCycle instant ≤ 399 ∧ yearOf instant % 400 = yearInCycle instant ∧
      yearOf instant / 400 = (instant / 86400000 + daysBeforeYear 1970) / cycleDays := by
  have inCycle : ((instant / 86400000 + daysBeforeYear 1970) % cycleDays).toNat < cycleDays := by
    unfold cycleDays
    omega
  have bound : yearInCycle instant ≤ 399 := (dateInCycle_spec inCycle).1
  have whole : yearOf instant = (instant / 86400000 + daysBeforeYear 1970) / cycleDays * 400 + yearInCycle instant := rfl
  omega

theorem afterYear_cycle (instant cycles : Int) : afterYear (instant - cycles * cycleDays * 86400000) = afterYear instant := by
  have time : (instant - cycles * cycleDays * 86400000) % 86400000 = instant % 86400000 := by omega
  have day : ((instant - cycles * cycleDays * 86400000) / 86400000 + daysBeforeYear 1970) % cycleDays =
      (instant / 86400000 + daysBeforeYear 1970) % cycleDays := by
    unfold cycleDays
    omega
  simp only [afterYear, time, day]

theorem parse_toISOString {instant : Int} (inYears : InFourDigitYears instant) : parse (toISOString instant) = some instant := by
  obtain ⟨time, reads, same⟩ := readDateTime_toISOString inYears
  rw [parse, reads, Option.map_some, same]

theorem head_digits (width value : Nat) : ∀ unit ∈ (digits width value).head?, (JsString.digit? unit).isSome = true :=
  fun unit first => isDigit_digits width value unit (List.mem_of_mem_head? first)

/-- Years of four digits are the first twenty-five cycles. -/
theorem inFourDigitYears {instant : Int} (low : 0 ≤ yearOf instant) (high : yearOf instant ≤ 9999) :
    InFourDigitYears instant := by
  obtain ⟨bound, place, cycle⟩ := yearOf_spec instant
  have first : daysBeforeYear 1970 = 719528 := by decide
  rw [first] at cycle
  unfold cycleDays at cycle
  unfold InFourDigitYears
  omega

theorem parseExpanded_eq {instant : Int} (inRange : -8640000000000000 ≤ instant ∧ instant ≤ 8640000000000000)
    (expanded : ¬ (0 ≤ yearOf instant ∧ yearOf instant ≤ 9999)) : parseExpanded (toISOString instant) = some instant := by
  obtain ⟨bound, place, cycle⟩ := yearOf_spec instant
  have first : daysBeforeYear 1970 = 719528 := by decide
  have fits : (yearOf instant).natAbs < 10 ^ 6 := by
    rw [first] at cycle
    unfold cycleDays at cycle
    omega
  obtain ⟨base, isBase⟩ : ∃ base, base = instant - yearOf instant / 400 * cycleDays * 86400000 := ⟨_, rfl⟩
  have baseYear : yearOf base = yearInCycle instant := by
    have day : (base / 86400000 + daysBeforeYear 1970) / cycleDays = 0 := by
      rw [isBase, cycle]
      unfold cycleDays
      omega
    have same : (base / 86400000 + daysBeforeYear 1970) % cycleDays =
        (instant / 86400000 + daysBeforeYear 1970) % cycleDays := by
      rw [isBase]
      unfold cycleDays
      omega
    rw [yearOf, day, same]
    exact Int.zero_add _
  have baseText : digits 4 (yearOf instant % 400).toNat ++ afterYear instant = toISOString base := by
    rw [toISOString_eq, baseYear, yearText_natCast (by omega), place, Int.toNat_natCast, isBase, afterYear_cycle]
  have reads : parse (toISOString base) = some base := parse_toISOString (inFourDigitYears (by omega) (by omega))
  have sixDigits : ∃ y₁ y₂ y₃ y₄ y₅ y₆, digits 6 (yearOf instant).natAbs = [y₁, y₂, y₃, y₄, y₅, y₆] :=
    ⟨_, _, _, _, _, _, rfl⟩
  obtain ⟨y₁, y₂, y₃, y₄, y₅, y₆, isYear⟩ := sixDigits
  have magnitude := number_of_digits fits
  rw [isYear] at magnitude
  have signed : (if (if 0 ≤ yearOf instant then (43 : UInt16) else 45) = 45 then -((yearOf instant).natAbs : Int)
      else (yearOf instant).natAbs) = yearOf instant := by
    by_cases negative : 0 ≤ yearOf instant
    · rw [if_pos negative, if_neg (by decide)]
      omega
    · rw [if_neg negative, if_pos rfl]
      omega
  rw [toISOString_eq, yearText, if_neg expanded, isYear]
  simp only [List.cons_append, List.nil_append, parseExpanded, magnitude, Option.bind_eq_bind, Option.bind_some, signed,
    baseText, reads, Option.pure_def, Option.some.injEq]
  omega

theorem parseIso_toISOString (time : TimeValue) : parseIso (toISOString time) = some time.1 := by
  by_cases four : 0 ≤ yearOf time ∧ yearOf time ≤ 9999
  · have isDigit : ∀ unit ∈ (toISOString time.1).head?, (JsString.digit? unit).isSome = true := by
      rw [toISOString_eq, yearText, if_pos four, List.head?_append]
      intro unit first
      exact head_digits 4 (yearOf time).toNat unit first
    have unsigned : ¬ ((toISOString time.1).head? = some 43 ∨ (toISOString time.1).head? = some 45) := by
      rintro (plus | minus)
      · exact absurd (isDigit 43 plus) (by decide)
      · exact absurd (isDigit 45 minus) (by decide)
    rw [parseIso, if_neg unsigned]
    exact parse_toISOString (inFourDigitYears four.1 four.2)
  · have signed : (toISOString time.1).head? = some 43 ∨ (toISOString time.1).head? = some 45 := by
      rw [toISOString_eq, yearText, if_neg four]
      by_cases negative : 0 ≤ yearOf time
      · exact Or.inl (by rw [if_pos negative]; rfl)
      · exact Or.inr (by rw [if_neg negative]; rfl)
    rw [parseIso, if_pos signed]
    exact parseExpanded_eq time.2 four

/-- The texts of `toISOString` and no others. -/
def DateParser.iso : DateParser where
  parse text := (parseIso text).bind fun instant =>
    if inRange : -8640000000000000 ≤ instant ∧ instant ≤ 8640000000000000 then some ⟨instant, inRange⟩ else none
  parse_toISOString time := by
    rw [parseIso_toISOString, Option.bind_some, dif_pos time.2]

end JsDate
