import MaterialEmail.Library.JsString
import Mathlib.Data.Nat.Find
import Mathlib.Data.Nat.Log

/-! Dates and times in the formats of ISO 8601, and the instants they name, in milliseconds from the
beginning of 1970 in UTC. The calendar is the Gregorian one in both directions. -/
namespace JsDate

def isLeapYear (year : Nat) : Bool := year % 4 = 0 && (year % 100 ≠ 0 || year % 400 = 0)

def daysInMonth (year month : Nat) : Nat :=
  match month with
  | 2 => if isLeapYear year then 29 else 28
  | 4 | 6 | 9 | 11 => 30
  | _ => 31

def daysBeforeYear (year : Nat) : Nat :=
  365 * year + (year + 3) / 4 - (year + 99) / 100 + (year + 399) / 400

def daysBeforeMonth (year month : Nat) : Nat :=
  ((List.range' 1 (month - 1)).map (daysInMonth year)).sum

structure CalendarDate where
  year : Nat
  month : Nat
  day : Nat
  deriving DecidableEq, Repr

def CalendarDate.Real (date : CalendarDate) : Prop :=
  date.year ≤ 9999 ∧ 1 ≤ date.month ∧ date.month ≤ 12 ∧ 1 ≤ date.day ∧ date.day ≤ daysInMonth date.year date.month

instance (date : CalendarDate) : Decidable date.Real := inferInstanceAs (Decidable (_ ∧ _ ∧ _ ∧ _ ∧ _))

def CalendarDate.dayNumber (date : CalendarDate) : Int :=
  daysBeforeYear date.year + daysBeforeMonth date.year date.month + date.day - 1 - daysBeforeYear 1970

open JsString in
/-- The number that a run of decimal digits stands for. -/
def number (digits : JsString) : Option Nat :=
  digits.foldlM (fun value unit => (digit? unit).map (value * 10 + ·)) 0

/-- `YYYY-MM-DD`, and what follows it. -/
def readDate : JsString → Option (CalendarDate × JsString)
  | y₁ :: y₂ :: y₃ :: y₄ :: 45 :: m₁ :: m₂ :: 45 :: d₁ :: d₂ :: rest => do
    return (⟨← number [y₁, y₂, y₃, y₄], ← number [m₁, m₂], ← number [d₁, d₂]⟩, rest)
  | _ => none

structure IsoDateTime where
  date : CalendarDate
  hour : Nat
  minute : Nat
  second : Nat
  millisecond : Nat
  /-- Minutes east of UTC. -/
  offset : Int
  deriving DecidableEq, Repr

/-- Milliseconds: of a fraction of a second the first three digits count. -/
def readFraction (fraction : JsString) : Option Nat :=
  if fraction = [] then none else number ((fraction ++ [48, 48]).take 3)

/-- `(?::\d\d(?:\.\d+)?)?`: seconds and milliseconds, and what follows them. -/
def readSeconds : JsString → Option (Nat × Nat × JsString)
  | 58 :: s₁ :: s₂ :: 46 :: rest => do
    let isDigit (unit : UInt16) : Bool := (JsString.digit? unit).isSome
    return (← number [s₁, s₂], ← readFraction (rest.takeWhile isDigit), rest.dropWhile isDigit)
  | 58 :: s₁ :: s₂ :: rest => do return (← number [s₁, s₂], 0, rest)
  | rest => some (0, 0, rest)

/-- `Z`, or a sign with hours and minutes. -/
def readOffset : JsString → Option Int
  | [90] => some 0
  | [sign, h₁, h₂, 58, m₁, m₂] => do
    let hours ← number [h₁, h₂]
    let minutes ← number [m₁, m₂]
    if 23 < hours ∨ 59 < minutes then none
    else if sign = 43 then some (hours * 60 + minutes)
    else if sign = 45 then some (-(hours * 60 + minutes : Nat))
    else none
  | _ => none

/-- A date and a time of day with its offset from UTC; the seconds may be left out. -/
def readDateTime (text : JsString) : Option IsoDateTime := do
  let (date, rest) ← readDate text
  match rest with
  | 84 :: h₁ :: h₂ :: 58 :: n₁ :: n₂ :: rest =>
    let hour ← number [h₁, h₂]
    let minute ← number [n₁, n₂]
    let (second, millisecond, rest) ← readSeconds rest
    let offset ← readOffset rest
    if date.Real ∧ hour ≤ 23 ∧ minute ≤ 59 ∧ second ≤ 59 then some ⟨date, hour, minute, second, millisecond, offset⟩
    else none
  | _ => none

def IsoDateTime.instant (time : IsoDateTime) : Int :=
  (((time.date.dayNumber * 24 + time.hour) * 60 + time.minute - time.offset) * 60 + time.second) * 1000 +
    time.millisecond

/-- `Date.parse`, of a date with a time. -/
def parse (text : JsString) : Option Int := (readDateTime text).map IsoDateTime.instant

/-- Decimal digits, with zeros in front up to a width. -/
def digits (width value : Nat) : JsString :=
  match width with
  | 0 => []
  | width + 1 => digits width (value / 10) ++ [UInt16.ofNat (48 + value % 10)]

def cycleDays : Nat := 146097

def dateInCycle (days : Nat) : CalendarDate :=
  let year := Nat.findGreatest (fun year => daysBeforeYear year ≤ days) 399
  let days := days - daysBeforeYear year
  let month := Nat.findGreatest (fun month => daysBeforeMonth year month ≤ days) 12
  ⟨year, month, days - daysBeforeMonth year month + 1⟩

/-- A year as `toISOString` writes it. -/
def yearText (year : Int) : JsString :=
  if 0 ≤ year ∧ year ≤ 9999 then digits 4 year.toNat
  else (if 0 ≤ year then 43 else 45) :: digits 6 year.natAbs

/-- `toISOString`. -/
def toISOString (instant : Int) : JsString :=
  let day := instant / 86400000
  let time := (instant % 86400000).toNat
  let sinceYearZero := day + daysBeforeYear 1970
  let date := dateInCycle (sinceYearZero % cycleDays).toNat
  yearText (sinceYearZero / cycleDays * 400 + date.year) ++ 45 :: digits 2 date.month ++ 45 :: digits 2 date.day ++
    84 :: digits 2 (time / 3600000) ++ 58 :: digits 2 (time / 60000 % 60) ++ 58 :: digits 2 (time / 1000 % 60) ++
    46 :: digits 3 (time % 1000) ++ [90]

section Calendar

theorem daysBeforeYear_succ (year : Nat) :
    daysBeforeYear (year + 1) = daysBeforeYear year + 365 + (if isLeapYear year then 1 else 0) := by
  have four : (year + 1 + 3) / 4 = (year + 3) / 4 + (if year % 4 = 0 then 1 else 0) := by split <;> omega
  have hundred : (year + 1 + 99) / 100 = (year + 99) / 100 + (if year % 100 = 0 then 1 else 0) := by split <;> omega
  have cycle : (year + 1 + 399) / 400 = (year + 399) / 400 + (if year % 400 = 0 then 1 else 0) := by split <;> omega
  have enough : (year + 99) / 100 ≤ year := by omega
  have leap : (isLeapYear year = true) = (year % 4 = 0 ∧ (year % 100 ≠ 0 ∨ year % 400 = 0)) := by
    simp [isLeapYear]
  unfold daysBeforeYear
  rw [four, hundred, cycle]
  simp only [leap]
  by_cases byFour : year % 4 = 0
  · by_cases byHundred : year % 100 = 0
    · by_cases byCycle : year % 400 = 0
      · rw [if_pos byFour, if_pos byHundred, if_pos byCycle, if_pos (by omega)]
        omega
      · rw [if_pos byFour, if_pos byHundred, if_neg byCycle, if_neg (by omega)]
        omega
    · rw [if_pos byFour, if_neg byHundred, if_neg (by omega), if_pos (by omega)]
      omega
  · rw [if_neg byFour, if_neg (by omega), if_neg (by omega), if_neg (by omega)]
    omega

theorem daysBeforeYear_cycle (cycles year : Nat) :
    daysBeforeYear (cycles * 400 + year) = cycles * cycleDays + daysBeforeYear year := by
  unfold daysBeforeYear cycleDays
  omega

theorem isLeapYear_cycle (cycles year : Nat) : isLeapYear (cycles * 400 + year) = isLeapYear year := by
  have four : (cycles * 400 + year) % 4 = year % 4 := by omega
  have hundred : (cycles * 400 + year) % 100 = year % 100 := by omega
  have cycle : (cycles * 400 + year) % 400 = year % 400 := by omega
  unfold isLeapYear
  rw [four, hundred, cycle]

theorem daysInMonth_cycle (cycles year month : Nat) :
    daysInMonth (cycles * 400 + year) month = daysInMonth year month := by
  unfold daysInMonth
  rw [isLeapYear_cycle]

theorem daysBeforeMonth_cycle (cycles year month : Nat) :
    daysBeforeMonth (cycles * 400 + year) month = daysBeforeMonth year month := by
  unfold daysBeforeMonth
  rw [funext (daysInMonth_cycle cycles year)]

theorem daysBeforeMonth_succ (year month : Nat) :
    daysBeforeMonth year (month + 2) = daysBeforeMonth year (month + 1) + daysInMonth year (month + 1) := by
  unfold daysBeforeMonth
  simp [List.range'_concat, Nat.add_comm]

theorem daysBeforeMonth_year (year : Nat) :
    daysBeforeMonth year 13 = 365 + (if isLeapYear year then 1 else 0) := by
  unfold daysBeforeMonth
  simp only [List.range', List.map_cons, List.map_nil, List.sum_cons, List.sum_nil, daysInMonth]
  split <;> rfl

theorem daysBeforeYear_mono : Monotone daysBeforeYear := by
  refine monotone_nat_of_le_succ fun year => ?_
  rw [daysBeforeYear_succ]
  omega

theorem daysBeforeMonth_mono (year : Nat) {month later : Nat} (order : month ≤ later) :
    daysBeforeMonth year (month + 1) ≤ daysBeforeMonth year (later + 1) := by
  induction later, order using Nat.le_induction with
  | base => exact Nat.le_refl _
  | succ later _ ih =>
    rw [daysBeforeMonth_succ]
    exact Nat.le_add_right_of_le ih

theorem daysInMonth_le (year month : Nat) : daysInMonth year month ≤ 31 := by
  unfold daysInMonth
  split
  · split <;> omega
  all_goals omega

theorem dayOfYear_le {year month day : Nat} (first : 1 ≤ month) (last : month ≤ 12)
    (inMonth : day ≤ daysInMonth year month) :
    daysBeforeYear year + daysBeforeMonth year month + day ≤ daysBeforeYear (year + 1) := by
  obtain ⟨month, rfl⟩ := Nat.exists_eq_add_of_le' first
  have after := daysBeforeMonth_mono year last
  rw [daysBeforeMonth_succ, daysBeforeMonth_year] at after
  rw [daysBeforeYear_succ]
  omega

theorem dateInCycle_spec {days : Nat} (inCycle : days < cycleDays) :
    (dateInCycle days).year ≤ 399 ∧ 1 ≤ (dateInCycle days).month ∧ (dateInCycle days).month ≤ 12 ∧
      1 ≤ (dateInCycle days).day ∧
      (dateInCycle days).day ≤ daysInMonth (dateInCycle days).year (dateInCycle days).month ∧
      daysBeforeYear (dateInCycle days).year + daysBeforeMonth (dateInCycle days).year (dateInCycle days).month +
        (dateInCycle days).day = days + 1 := by
  unfold dateInCycle
  simp only
  generalize isYear : Nat.findGreatest (fun year => daysBeforeYear year ≤ days) 399 = year
  obtain ⟨yearBound, yearStarted, yearLast⟩ := Nat.findGreatest_eq_iff.1 isYear
  have started : daysBeforeYear year ≤ days := by
    by_cases zero : year = 0
    · subst zero
      exact Nat.zero_le _
    · exact yearStarted zero
  have ends : days < daysBeforeYear (year + 1) := by
    by_cases last : year + 1 ≤ 399
    · exact Nat.lt_of_not_le (yearLast (Nat.lt_succ_self year) last)
    · have same : year = 399 := by omega
      subst same
      exact inCycle
  rw [daysBeforeYear_succ] at ends
  generalize isMonth : Nat.findGreatest (fun month => daysBeforeMonth year month ≤ days - daysBeforeYear year) 12 = month
  obtain ⟨monthBound, monthStarted, monthLast⟩ := Nat.findGreatest_eq_iff.1 isMonth
  have positive : 1 ≤ month := by
    by_contra zero
    have none : month = 0 := by omega
    subst none
    exact monthLast Nat.one_pos (by omega) (Nat.zero_le _)
  have before : daysBeforeMonth year month ≤ days - daysBeforeYear year := monthStarted (by omega)
  have after : days - daysBeforeYear year < daysBeforeMonth year month + daysInMonth year month := by
    obtain ⟨month, rfl⟩ := Nat.exists_eq_add_of_le' positive
    rw [← daysBeforeMonth_succ]
    by_cases last : month + 2 ≤ 12
    · exact Nat.lt_of_not_le (monthLast (Nat.lt_succ_self _) last)
    · have same : month = 11 := by omega
      subst same
      rw [daysBeforeMonth_year]
      omega
  omega

end Calendar

section Texts

open JsString

theorem digit_ofNat {value : Nat} (small : value < 10) : digit? (UInt16.ofNat (48 + value)) = some value := by
  revert value
  decide

theorem number_digits (width value : Nat) : number (digits width value) = some (value % 10 ^ width) := by
  induction width generalizing value with
  | zero => simp [number, digits, Nat.mod_one]
  | succ width ih =>
    have front : (digits width (value / 10)).foldlM (fun value unit => (digit? unit).map (value * 10 + ·)) 0 =
        some (value / 10 % 10 ^ width) := ih (value / 10)
    have split : value % 10 ^ (width + 1) = value / 10 % 10 ^ width * 10 + value % 10 := by
      rw [Nat.pow_succ, Nat.mul_comm, Nat.mod_mul]
      omega
    unfold number digits
    rw [List.foldlM_append, front, split]
    simp only [List.foldlM_cons, List.foldlM_nil, digit_ofNat (Nat.mod_lt value (by decide : 0 < 10)),
      Option.map_some, Option.bind_eq_bind, Option.bind_some, Option.pure_def]

theorem number_of_digits {width value : Nat} (fits : value < 10 ^ width) : number (digits width value) = some value := by
  rw [number_digits, Nat.mod_eq_of_lt fits]

theorem isDigit_digits (width value : Nat) : ∀ unit ∈ digits width value, (digit? unit).isSome = true := by
  induction width generalizing value with
  | zero => simp [digits]
  | succ width ih =>
    intro unit member
    rcases List.mem_append.1 member with front | last
    · exact ih (value / 10) unit front
    · rw [List.mem_singleton.1 last, digit_ofNat (Nat.mod_lt value (by decide))]
      rfl

def decimal (value : Nat) : JsString := digits (Nat.log 10 value + 1) value

theorem number_decimal (value : Nat) : number (decimal value) = some value :=
  number_of_digits (Nat.lt_pow_succ_log_self (by decide) value)

theorem length_digits (width value : Nat) : (digits width value).length = width := by
  induction width generalizing value with
  | zero => rfl
  | succ width ih => simp [digits, ih]

theorem length_decimal (value : Nat) : (decimal value).length = Nat.log 10 value + 1 := length_digits _ _

def isoText (date : CalendarDate) (hour minute second millisecond : Nat) : JsString :=
  digits 4 date.year ++ 45 :: digits 2 date.month ++ 45 :: digits 2 date.day ++ 84 :: digits 2 hour ++
    58 :: digits 2 minute ++ 58 :: digits 2 second ++ 46 :: digits 3 millisecond ++ [90]

theorem readDateTime_isoText {date : CalendarDate} {hour minute second millisecond : Nat} (real : date.Real)
    (hours : hour ≤ 23) (minutes : minute ≤ 59) (seconds : second ≤ 59) (milliseconds : millisecond ≤ 999) :
    readDateTime (isoText date hour minute second millisecond) =
      some ⟨date, hour, minute, second, millisecond, 0⟩ := by
  obtain ⟨year, month, day⟩ := date
  have parts := real
  simp only [CalendarDate.Real] at parts
  have dayBound : day ≤ 31 := Nat.le_trans parts.2.2.2.2 (daysInMonth_le year month)
  have y := number_of_digits (show year < 10 ^ 4 by omega)
  have m := number_of_digits (show month < 10 ^ 2 by omega)
  have d := number_of_digits (show day < 10 ^ 2 by omega)
  have h := number_of_digits (show hour < 10 ^ 2 by omega)
  have n := number_of_digits (show minute < 10 ^ 2 by omega)
  have s := number_of_digits (show second < 10 ^ 2 by omega)
  have f := number_of_digits (show millisecond < 10 ^ 3 by omega)
  have isDigit := isDigit_digits 3 millisecond
  obtain ⟨y₁, y₂, y₃, y₄, isYear⟩ : ∃ y₁ y₂ y₃ y₄, digits 4 year = [y₁, y₂, y₃, y₄] := ⟨_, _, _, _, rfl⟩
  obtain ⟨m₁, m₂, isMonth⟩ : ∃ m₁ m₂, digits 2 month = [m₁, m₂] := ⟨_, _, rfl⟩
  obtain ⟨d₁, d₂, isDay⟩ : ∃ d₁ d₂, digits 2 day = [d₁, d₂] := ⟨_, _, rfl⟩
  obtain ⟨h₁, h₂, isHour⟩ : ∃ h₁ h₂, digits 2 hour = [h₁, h₂] := ⟨_, _, rfl⟩
  obtain ⟨n₁, n₂, isMinute⟩ : ∃ n₁ n₂, digits 2 minute = [n₁, n₂] := ⟨_, _, rfl⟩
  obtain ⟨s₁, s₂, isSecond⟩ : ∃ s₁ s₂, digits 2 second = [s₁, s₂] := ⟨_, _, rfl⟩
  obtain ⟨f₁, f₂, f₃, isMillisecond⟩ : ∃ f₁ f₂ f₃, digits 3 millisecond = [f₁, f₂, f₃] := ⟨_, _, _, rfl⟩
  rw [isYear] at y
  rw [isMonth] at m
  rw [isDay] at d
  rw [isHour] at h
  rw [isMinute] at n
  rw [isSecond] at s
  rw [isMillisecond] at f isDigit
  simp only [List.mem_cons, List.not_mem_nil, or_false, forall_eq_or_imp, forall_eq] at isDigit
  have seconds' : readSeconds [58, s₁, s₂, 46, f₁, f₂, f₃, 90] = some (second, millisecond, [90]) := by
    have last : (digit? 90).isSome = false := by decide
    simp [readSeconds, readFraction, isDigit, last, s, f]
  simp only [isoText, isYear, isMonth, isDay, isHour, isMinute, isSecond, isMillisecond, List.cons_append,
    List.nil_append]
  simp [readDateTime, readDate, y, m, d, h, n, seconds', readOffset, real, hours, minutes, seconds]

/-- The instants of the years 0 to 9999. -/
def InFourDigitYears (instant : Int) : Prop := -62167219200000 ≤ instant ∧ instant < 253402300800000

instance (instant : Int) : Decidable (InFourDigitYears instant) := inferInstanceAs (Decidable (_ ∧ _))

theorem yearText_natCast {year : Nat} (bound : year ≤ 9999) : yearText year = digits 4 year := by
  unfold yearText
  rw [if_pos (by omega), Int.toNat_natCast]

theorem toISOString_isoText {instant : Int} (inYears : InFourDigitYears instant) :
    ∃ date hour minute second millisecond, toISOString instant = isoText date hour minute second millisecond ∧
      date.Real ∧ hour ≤ 23 ∧ minute ≤ 59 ∧ second ≤ 59 ∧ millisecond ≤ 999 ∧
      IsoDateTime.instant ⟨date, hour, minute, second, millisecond, 0⟩ = instant := by
  obtain ⟨low, high⟩ := inYears
  have first : daysBeforeYear 1970 = 719528 := by decide
  obtain ⟨time, isTime⟩ : ∃ time : Nat, instant % 86400000 = time := ⟨_, (Int.toNat_of_nonneg (by omega)).symm⟩
  obtain ⟨days, isDays⟩ : ∃ days : Nat, instant / 86400000 + daysBeforeYear 1970 = days :=
    ⟨_, (Int.toNat_of_nonneg (by omega)).symm⟩
  have inCycle : days % cycleDays < cycleDays := Nat.mod_lt _ (by decide)
  have isCycle : days / cycleDays * cycleDays + days % cycleDays = days := Nat.div_add_mod' days cycleDays
  have cycles : days / cycleDays ≤ 24 := by
    unfold cycleDays
    omega
  obtain ⟨yearBound, monthLow, monthHigh, dayLow, dayHigh, isDay⟩ := dateInCycle_spec inCycle
  have text : toISOString instant = isoText ⟨days / cycleDays * 400 + (dateInCycle (days % cycleDays)).year,
      (dateInCycle (days % cycleDays)).month, (dateInCycle (days % cycleDays)).day⟩ (time / 3600000)
      (time / 60000 % 60) (time / 1000 % 60) (time % 1000) := by
    have modulo : ((days : Int) % cycleDays).toNat = days % cycleDays := by
      rw [← Int.natCast_emod, Int.toNat_natCast]
    have year : (days : Int) / cycleDays * 400 + ((dateInCycle (days % cycleDays)).year : Int) =
        ((days / cycleDays * 400 + (dateInCycle (days % cycleDays)).year : Nat) : Int) := by
      push_cast
      rfl
    unfold toISOString isoText
    simp only [isDays, isTime, Int.toNat_natCast, modulo, year]
    rw [yearText_natCast (by omega)]
  generalize dateInCycle (days % cycleDays) = date at *
  have number : CalendarDate.dayNumber ⟨days / cycleDays * 400 + date.year, date.month, date.day⟩ =
      instant / 86400000 := by
    simp only [CalendarDate.dayNumber, daysBeforeYear_cycle, daysBeforeMonth_cycle]
    omega
  refine ⟨_, _, _, _, _, text, ⟨?_, monthLow, monthHigh, dayLow, ?_⟩, by omega, by omega, by omega, by omega, ?_⟩
  · simp only
    omega
  · simp only [daysInMonth_cycle]
    exact dayHigh
  · simp only [IsoDateTime.instant, number]
    omega

theorem readDateTime_toISOString {instant : Int} (inYears : InFourDigitYears instant) :
    ∃ time, readDateTime (toISOString instant) = some time ∧ time.instant = instant := by
  obtain ⟨date, hour, minute, second, millisecond, text, real, hours, minutes, seconds, milliseconds, same⟩ :=
    toISOString_isoText inYears
  rw [text]
  exact ⟨_, readDateTime_isoText real hours minutes seconds milliseconds, same⟩

theorem readDateTime_signed {sign : UInt16} (isSign : digit? sign = none) (rest : JsString) :
    readDateTime (sign :: rest) = none := by
  have unread : readDate (sign :: rest) = none := by
    unfold readDate
    split
    · rename_i shape
      cases shape
      simp [number, isSign]
    · rfl
  simp [readDateTime, unread]

theorem dateInCycle_year_le (days : Nat) : (dateInCycle days).year ≤ 399 := by
  simp only [dateInCycle]
  exact Nat.findGreatest_le _

theorem inFourDigitYears_of_read {instant : Int} (isRead : (readDateTime (toISOString instant)).isSome = true) :
    InFourDigitYears instant := by
  have first : daysBeforeYear 1970 = 719528 := by decide
  unfold toISOString at isRead
  simp only [first] at isRead
  generalize sinceYearZero : instant / 86400000 + ((719528 : Nat) : Int) = day at isRead
  have inCycle := dateInCycle_year_le (day % cycleDays).toNat
  generalize isYear : day / cycleDays * 400 + ((dateInCycle (day % cycleDays).toNat).year : Int) = year at isRead
  by_cases fourDigits : 0 ≤ year ∧ year ≤ 9999
  · unfold cycleDays at isYear inCycle
    have afterZero : 0 ≤ day / 146097 := by omega
    have inCycles : day / 146097 ≤ 24 := by omega
    constructor <;> omega
  · have signed : digit? (if 0 ≤ year then 43 else 45) = none := by split <;> rfl
    simp only [yearText, if_neg fourDigits, List.cons_append, readDateTime_signed signed] at isRead
    cases isRead

theorem toISOString_injective {first second : Int} (same : toISOString first = toISOString second)
    (isRead : (readDateTime (toISOString first)).isSome = true) : first = second := by
  obtain ⟨time, reads, isFirst⟩ := readDateTime_toISOString (inFourDigitYears_of_read isRead)
  obtain ⟨other, readsOther, isSecond⟩ := readDateTime_toISOString (inFourDigitYears_of_read (same ▸ isRead))
  rw [same, readsOther, Option.some.injEq] at reads
  rw [← isFirst, ← isSecond, reads]
theorem length_toISOString {instant : Int} (inYears : InFourDigitYears instant) : (toISOString instant).length = 24 := by
  obtain ⟨date, hour, minute, second, millisecond, text, -⟩ := toISOString_isoText inYears
  rw [text]
  simp [isoText, length_digits]

end Texts
example : toISOString 1785499200123 = JsString.ofString "2026-07-31T12:00:00.123Z" := by decide +kernel

example : parse (JsString.ofString "2026-07-31T13:00:00.1234+01:00") = some 1785499200123 := by decide

end JsDate
