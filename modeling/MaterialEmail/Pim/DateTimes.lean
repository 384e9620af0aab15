import MaterialEmail.Library.Fallible
import MaterialEmail.Library.LocalTime
import MaterialEmail.Pim.ICalendar

/-! What the date-times of an imported calendar denote. -/
namespace Pim

open JsString LocalTime
open JsDate (daysBeforeYear daysBeforeMonth daysInMonth cycleDays dateInCycle)

section Faces

/-- What clocks show at a local time in seconds. Years before the first are counted backwards, without the era. -/
def clockFace (time : Int) : WallClockParts :=
  let day := time / 86400 + daysBeforeYear 1970
  let inDay := (time % 86400).toNat
  let date := dateInCycle (day % cycleDays).toNat
  let year := day / cycleDays * 400 + date.year
  ⟨(if 1 ≤ year then year else 1 - year).toNat, date.month, date.day, inDay / 3600, inDay / 60 % 60, inDay % 60⟩

namespace WallClockParts

variable (parts : WallClockParts)

def date : JsDate.CalendarDate := ⟨parts.year, parts.month, parts.day⟩

/-- The local time at which clocks show it, in seconds. -/
def time : Int := ((parts.date.dayNumber * 24 + parts.hour) * 60 + parts.minute) * 60 + parts.second

/-- The wall clock that `Date.UTC` takes it for. -/
def asUtc : WallClockParts := { parts with year := if parts.year < 100 then 1900 + parts.year else parts.year }

/-- What `parseTemporal` demands of the numbers. -/
def InRange : Prop :=
  1 ≤ parts.month ∧ parts.month ≤ 12 ∧ 1 ≤ parts.day ∧ parts.day ≤ 31 ∧ parts.hour ≤ 23 ∧ parts.minute ≤ 59 ∧
    parts.second ≤ 59

end WallClockParts

variable {parts : WallClockParts} {time : Int}

theorem wallClockUtcValue_eq (parts : WallClockParts) : wallClockUtcValue parts = parts.asUtc.time * 1000 := by
  simp only [wallClockUtcValue, JsDate.IsoDateTime.instant, WallClockParts.time, WallClockParts.asUtc,
    WallClockParts.date]
  omega

theorem asUtc_late (late : 100 ≤ parts.year) : parts.asUtc = parts := by
  simp only [WallClockParts.asUtc, if_neg (Nat.not_lt.2 late)]

theorem dayNumber_ge {date : JsDate.CalendarDate} (year : Nat) (late : year ≤ date.year) (day : 1 ≤ date.day) :
    (daysBeforeYear year : Int) - 719528 ≤ date.dayNumber := by
  have order := JsDate.daysBeforeYear_mono late
  have epoch : daysBeforeYear 1970 = 719528 := by decide
  simp only [JsDate.CalendarDate.dayNumber, epoch]
  omega

theorem time_ge (year : Nat) (late : year ≤ parts.year) (day : 1 ≤ parts.day) :
    ((daysBeforeYear year : Int) - 719528) * 86400 ≤ parts.time := by
  have first : (daysBeforeYear year : Int) - 719528 ≤ parts.date.dayNumber := dayNumber_ge year late day
  simp only [WallClockParts.time]
  omega

theorem dayNumber_lt {date : JsDate.CalendarDate} (year : Nat) (early : date.year < year) (first : 1 ≤ date.month)
    (last : date.month ≤ 12) (inMonth : date.day ≤ daysInMonth date.year date.month) :
    date.dayNumber < (daysBeforeYear year : Int) - 719528 := by
  have ends := JsDate.dayOfYear_le first last inMonth
  have order := JsDate.daysBeforeYear_mono early
  have epoch : daysBeforeYear 1970 = 719528 := by decide
  simp only [Nat.succ_eq_add_one] at order
  simp only [JsDate.CalendarDate.dayNumber, epoch]
  omega

theorem time_lt (year : Nat) (inRange : parts.InRange) (inMonth : parts.day ≤ daysInMonth parts.year parts.month)
    (early : parts.year < year) : parts.time < ((daysBeforeYear year : Int) - 719528) * 86400 := by
  obtain ⟨first, last, _, _, hour, minute, second⟩ := inRange
  have before : parts.date.dayNumber < (daysBeforeYear year : Int) - 719528 :=
    dayNumber_lt year early first last inMonth
  simp only [WallClockParts.time]
  omega

theorem asUtc_time_century (early : parts.year < 100) (day : 1 ≤ parts.day) : -2208988800 ≤ parts.asUtc.time := by
  have year : 1900 ≤ parts.asUtc.year := by
    simp only [WallClockParts.asUtc, if_pos early]
    omega
  have after := time_ge 1900 year day
  have century : daysBeforeYear 1900 = 693961 := by decide
  omega

theorem clockFace_spec (since : -62135596800 ≤ time) :
    (clockFace time).InRange ∧ (clockFace time).day ≤ daysInMonth (clockFace time).year (clockFace time).month ∧
      (clockFace time).time = time := by
  have epoch : daysBeforeYear 1970 = 719528 := by decide
  obtain ⟨days, isDays⟩ : ∃ days : Nat, time / 86400 + daysBeforeYear 1970 = days :=
    ⟨_, (Int.toNat_of_nonneg (by omega)).symm⟩
  have inCycle : days % cycleDays < cycleDays := Nat.mod_lt _ (by decide)
  have isCycle : days / cycleDays * cycleDays + days % cycleDays = days := Nat.div_add_mod' days cycleDays
  obtain ⟨-, monthLow, monthHigh, dayLow, dayHigh, isDay⟩ := JsDate.dateInCycle_spec inCycle
  have modulo : ((days : Int) % cycleDays).toNat = days % cycleDays := by
    rw [← Int.natCast_emod, Int.toNat_natCast]
  have ends := JsDate.dayOfYear_le monthLow monthHigh dayHigh
  have year : ((days : Int) / cycleDays * 400 + ((dateInCycle (days % cycleDays)).year : Int)) =
      ((days / cycleDays * 400 + (dateInCycle (days % cycleDays)).year : Nat) : Int) := by
    push_cast
    rfl
  have positive : 1 ≤ days / cycleDays * 400 + (dateInCycle (days % cycleDays)).year := by
    by_contra zero
    have none : days / cycleDays = 0 ∧ (dateInCycle (days % cycleDays)).year = 0 := by omega
    rw [none.2, show daysBeforeYear (0 + 1) = 366 by decide] at ends
    rw [none.2, show daysBeforeYear 0 = 0 by decide] at isDay
    rw [none.1] at isCycle
    omega
  have face : clockFace time = ⟨days / cycleDays * 400 + (dateInCycle (days % cycleDays)).year,
      (dateInCycle (days % cycleDays)).month, (dateInCycle (days % cycleDays)).day, (time % 86400).toNat / 3600,
      (time % 86400).toNat / 60 % 60, (time % 86400).toNat % 60⟩ := by
    simp only [clockFace, isDays, modulo, year]
    rw [if_pos (by omega), Int.toNat_natCast]
  rw [face]
  generalize dateInCycle (days % cycleDays) = date at *
  have long := JsDate.daysInMonth_le date.year date.month
  refine ⟨⟨monthLow, monthHigh, dayLow, by simp only; omega, by simp only; omega, by simp only; omega,
    by simp only; omega⟩, ?_, ?_⟩
  · simp only [JsDate.daysInMonth_cycle]
    exact dayHigh
  · simp only [WallClockParts.time, WallClockParts.date, JsDate.CalendarDate.dayNumber, JsDate.daysBeforeYear_cycle,
      JsDate.daysBeforeMonth_cycle]
    omega

theorem clockFace_ancient (ancient : time < -100035561600) :
    1202 ≤ (clockFace time).year ∧ 1 ≤ (clockFace time).day := by
  have epoch : daysBeforeYear 1970 = 719528 := by decide
  have inCycle : ((time / 86400 + daysBeforeYear 1970) % cycleDays).toNat < cycleDays := by
    unfold cycleDays
    omega
  obtain ⟨yearBound, -, -, dayLow, -⟩ := JsDate.dateInCycle_spec inCycle
  have cycles : (time / 86400 + daysBeforeYear 1970) / cycleDays ≤ -4 := by
    unfold cycleDays
    omega
  refine ⟨?_, dayLow⟩
  simp only [clockFace]
  generalize dateInCycle ((time / 86400 + daysBeforeYear 1970) % cycleDays).toNat = date at *
  rw [if_neg (by omega)]
  omega

end Faces

section Looks

/-- What `Date.UTC` makes of what the clocks show, in seconds. -/
def look (time : Int) : Int := (clockFace time).asUtc.time

variable {time : Int}

theorem look_late (late : -59011459200 ≤ time) : look time = time := by
  obtain ⟨inRange, inMonth, same⟩ := clockFace_spec (by omega : -62135596800 ≤ time)
  have year : 100 ≤ (clockFace time).year := by
    by_contra early
    have before := time_lt 100 inRange inMonth (Nat.lt_of_not_le early)
    have hundred : daysBeforeYear 100 = 36525 := by decide
    omega
  rw [look, asUtc_late year, same]

theorem look_early (since : -62135596800 ≤ time) (early : time < -59011459200) : -2208988800 ≤ look time := by
  obtain ⟨inRange, -, same⟩ := clockFace_spec since
  have year : (clockFace time).year < 100 := by
    by_contra late
    have after := time_ge 100 (Nat.le_of_not_lt late) inRange.2.2.1
    have hundred : daysBeforeYear 100 = 36525 := by decide
    omega
  exact asUtc_time_century year inRange.2.2.1

theorem look_ancient (ancient : time < -100035561600) : -24235718400 ≤ look time := by
  obtain ⟨year, day⟩ := clockFace_ancient ancient
  rw [look, asUtc_late (Nat.le_trans (by decide) year)]
  have after := time_ge 1202 year day
  have then_ : daysBeforeYear 1202 = 439022 := by decide
  omega

end Looks

section Search

variable {zone : Zone} {wanted guess : Int}

/-- The search of `zonedDateTime`, in seconds. -/
def seek (zone : Zone) (wanted : Int) : Nat → Int → Int
  | 0, guess => guess
  | attempts + 1, guess =>
    if look (zone.clock guess) = wanted then guess
    else seek zone wanted attempts (guess + (wanted - look (zone.clock guess)))

/-- The search ends, and on its way the clocks show no year that `Date.UTC` takes for another. -/
def SearchEnds (zone : Zone) (wanted : Int) : Prop :=
  ¬zone.Alternates wanted ∧ -59011459200 ≤ zone.clock wanted ∧
    -59011459200 ≤ zone.clock (zone.back wanted wanted) ∧
    -59011459200 ≤ zone.clock (zone.back wanted (zone.back wanted wanted))

theorem seek_zero : seek zone wanted 0 guess = guess := rfl

theorem seek_succ (attempts : Nat) :
    seek zone wanted (attempts + 1) guess =
      if look (zone.clock guess) = wanted then guess
      else seek zone wanted attempts (guess + (wanted - look (zone.clock guess))) := rfl

theorem seek_settled (late : -59011459200 ≤ wanted) (settled : zone.clock guess = wanted) (attempts : Nat) :
    seek zone wanted attempts guess = guess := by
  cases attempts with
  | zero => rfl
  | succ attempts => rw [seek_succ, look_late (settled ▸ late), if_pos settled]

theorem seek_step (late : -59011459200 ≤ zone.clock guess) (attempts : Nat) :
    seek zone wanted (attempts + 1) guess = seek zone wanted attempts (zone.back wanted guess) := by
  rw [seek_succ, look_late late]
  by_cases settled : zone.clock guess = wanted
  · rw [if_pos settled, Zone.back_eq_iff.2 settled, seek_settled (settled ▸ late) settled]
  · have moved : guess + (wanted - zone.clock guess) = zone.back wanted guess := by
      simp only [Zone.clock, Zone.back]
      omega
    rw [if_neg settled, moved]

theorem seek_ancient (near : wanted < -59011286400) (ancient : zone.clock guess < -100035561600) (attempts : Nat) :
    look (zone.clock (seek zone wanted attempts guess)) ≠ wanted := by
  induction attempts generalizing guess with
  | zero =>
    have shown := look_ancient ancient
    rw [seek_zero]
    omega
  | succ attempts ih =>
    have shown := look_ancient ancient
    rw [seek_succ, if_neg (by omega)]
    refine ih ?_
    have below := zone.below guess
    have below' := zone.below (guess + (wanted - look (zone.clock guess)))
    simp only [Zone.clock] at *
    omega

theorem seek_astray (late : -59011459200 ≤ wanted) (near : wanted - 86400 < guess ∧ guess < wanted + 86400)
    (early : zone.clock guess < -59011459200) (attempts : Nat) :
    look (zone.clock (seek zone wanted attempts guess)) ≠ wanted := by
  have below := zone.below guess
  have since : -62135596800 ≤ zone.clock guess := by
    simp only [Zone.clock]
    omega
  have shown := look_early since early
  have soon : wanted < -59011286400 := by
    simp only [Zone.clock] at early
    omega
  cases attempts with
  | zero =>
    rw [seek_zero]
    omega
  | succ attempts =>
    rw [seek_succ, if_neg (by omega)]
    refine seek_ancient soon ?_ attempts
    have below' := zone.below (guess + (wanted - look (zone.clock guess)))
    simp only [Zone.clock] at *
    omega

/-- At what the search finds, the clocks show what is wanted. -/
theorem seek_sound (late : -59011459200 ≤ wanted) (near : wanted - 86400 < guess ∧ guess < wanted + 86400)
    (attempts : Nat) (found : look (zone.clock (seek zone wanted attempts guess)) = wanted) :
    zone.clock (seek zone wanted attempts guess) = wanted := by
  induction attempts generalizing guess with
  | zero =>
    by_cases early : zone.clock guess < -59011459200
    · exact absurd found (seek_astray late near early 0)
    · rw [seek_zero] at *
      rwa [look_late (Int.not_lt.1 early)] at found
  | succ attempts ih =>
    by_cases early : zone.clock guess < -59011459200
    · exact absurd found (seek_astray late near early _)
    · rw [seek_step (Int.not_lt.1 early)] at *
      exact ih (zone.back_near _ _) found

theorem seek_found_iff (sparse : zone.Sparse) (late : -59011459200 ≤ wanted) :
    look (zone.clock (seek zone wanted 4 wanted)) = wanted ↔ zone.Shows wanted ∧ SearchEnds zone wanted := by
  have here : wanted - 86400 < wanted ∧ wanted < wanted + 86400 := by omega
  constructor
  · intro found
    have settled := seek_sound late here 4 found
    have zeroth : -59011459200 ≤ zone.clock wanted := by
      by_contra early
      exact seek_astray late here (Int.not_le.1 early) 4 found
    rw [seek_step zeroth] at found settled
    have first : -59011459200 ≤ zone.clock (zone.back wanted wanted) := by
      by_contra early
      exact seek_astray late (zone.back_near _ _) (Int.not_le.1 early) 3 found
    rw [seek_step first] at found settled
    have second : -59011459200 ≤ zone.clock (zone.back wanted (zone.back wanted wanted)) := by
      by_contra early
      exact seek_astray late (zone.back_near _ _) (Int.not_le.1 early) 2 found
    rw [seek_step second] at found settled
    have third : -59011459200 ≤ zone.clock (zone.back wanted (zone.back wanted (zone.back wanted wanted))) := by
      by_contra early
      exact seek_astray late (zone.back_near _ _) (Int.not_le.1 early) 1 found
    rw [seek_step third, seek_zero] at settled
    obtain ⟨shows, ends⟩ := sparse.found_iff.1 (sparse.found_by_three settled)
    exact ⟨shows, ends, zeroth, first, second⟩
  · rintro ⟨shows, ends, zeroth, first, second⟩
    have settled := sparse.found_iff.2 ⟨shows, ends⟩
    rw [seek_step zeroth, seek_step first, seek_step second, seek_settled late settled, settled, look_late late]

end Search

section Zoned

variable {host : Host} {zone : Zone} {timeZone : JsString} {parts : WallClockParts} {label : String}

theorem asUtc_time_ge (inRange : parts.InRange) : -59011459200 ≤ parts.asUtc.time := by
  have year : 100 ≤ parts.asUtc.year := by
    simp only [WallClockParts.asUtc]
    split <;> omega
  have after := time_ge 100 year inRange.2.2.1
  have hundred : daysBeforeYear 100 = 36525 := by decide
  omega

theorem wallClockUtcValue_face (time : Int) : wallClockUtcValue (clockFace time) = look time * 1000 :=
  wallClockUtcValue_eq _

theorem adjust_eq (keeps : ∀ instant, host.wallClock instant timeZone = some (clockFace (zone.clock (instant / 1000))))
    (wanted guess : Int) (attempts : Nat) :
    adjust host (wanted * 1000) timeZone attempts (guess * 1000) = some (seek zone wanted attempts guess * 1000) := by
  induction attempts generalizing guess with
  | zero => rfl
  | succ attempts ih =>
    have seconds : guess * 1000 / 1000 = guess := by omega
    simp only [adjust, keeps, seconds, Option.bind_eq_bind, Option.bind_some, wallClockUtcValue_face, seek]
    by_cases settled : look (zone.clock guess) = wanted
    · rw [if_pos settled, settled, if_pos (by omega)]
    · have moved : guess * 1000 + (wanted * 1000 - look (zone.clock guess) * 1000) =
          (guess + (wanted - look (zone.clock guess))) * 1000 := by omega
      rw [if_neg settled, if_neg (by omega), moved, ih]

theorem zonedDateTime_eq
    (keeps : ∀ instant, host.wallClock instant timeZone = some (clockFace (zone.clock (instant / 1000)))) :
    zonedDateTime host parts timeZone label =
      if look (zone.clock (seek zone parts.asUtc.time 4 parts.asUtc.time)) = parts.asUtc.time then
        .ok (JsDate.toISOString (seek zone parts.asUtc.time 4 parts.asUtc.time * 1000))
      else .error (ofString label ++ ofString " uses an unsupported time zone " ++ timeZone ++ ofString ".") := by
  have seconds : seek zone parts.asUtc.time 4 parts.asUtc.time * 1000 / 1000 =
      seek zone parts.asUtc.time 4 parts.asUtc.time := by omega
  simp only [zonedDateTime, wallClockUtcValue_eq parts, wallClockUtcValue_face, adjust_eq keeps, keeps, seconds,
    Option.bind_eq_bind, Option.bind_some]
  by_cases found : look (zone.clock (seek zone parts.asUtc.time 4 parts.asUtc.time)) = parts.asUtc.time
  · rw [if_pos found, if_pos (by omega)]
  · rw [if_neg found, if_neg (by omega)]

/-- At an instant that `zonedDateTime` returns, the clocks of the zone show what `Date.UTC` makes of the parts. -/
theorem zonedDateTime_ok
    (keeps : ∀ instant, host.wallClock instant timeZone = some (clockFace (zone.clock (instant / 1000))))
    (inRange : parts.InRange) {value : JsString} (ok : zonedDateTime host parts timeZone label = .ok value) :
    ∃ now, value = JsDate.toISOString (now * 1000) ∧ zone.clock now = parts.asUtc.time := by
  rw [zonedDateTime_eq keeps] at ok
  split at ok
  · rename_i found
    have settled := seek_sound (asUtc_time_ge inRange) (by omega) 4 found
    injection ok with same
    exact ⟨_, same.symm, settled⟩
  · cases ok

theorem zonedDateTime_accepts
    (keeps : ∀ instant, host.wallClock instant timeZone = some (clockFace (zone.clock (instant / 1000))))
    (sparse : zone.Sparse) (inRange : parts.InRange) :
    (∃ value, zonedDateTime host parts timeZone label = .ok value) ↔
      zone.Shows parts.asUtc.time ∧ SearchEnds zone parts.asUtc.time := by
  rw [zonedDateTime_eq keeps, ← seek_found_iff sparse (asUtc_time_ge inRange)]
  split <;> simp [*]

end Zoned

section Suffixes

/-- The offset of a date-time that does not stand in a zone, as `new Date` reads it. -/
def DateTimeText.offset (text : DateTimeText) : JsString :=
  if text.suffix = [90] then [90] else text.suffix.take 3 ++ 58 :: text.suffix.drop 3

variable {text : DateTimeText} {value : JsString}

theorem exists_number {digits : JsString} (areDigits : digits.all isDigit = true) :
    ∃ number, JsDate.number digits = some number := by
  suffices reads : ∀ start, ∃ number, digits.foldlM
      (fun value unit => (digit? unit).map (value * 10 + ·)) start = some number from reads 0
  induction digits with
  | nil => exact fun start => ⟨start, rfl⟩
  | cons unit rest ih =>
    rw [List.all_cons, Bool.and_eq_true] at areDigits
    have digit : 48 ≤ unit ∧ unit ≤ 57 := by simpa [isDigit] using areDigits.1
    intro start
    rw [List.foldlM_cons, digit?, if_pos digit]
    exact ih areDigits.2 _

theorem matchDateTime_groups (matches_ : matchDateTime value = some text) :
    (text.year.length = 4 ∧ text.month.length = 2 ∧ text.day.length = 2 ∧ text.hour.length = 2 ∧
      text.minute.length = 2 ∧ text.second.length = 2) ∧
    (text.year.all isDigit ∧ text.month.all isDigit ∧ text.day.all isDigit ∧ text.hour.all isDigit ∧
      text.minute.all isDigit ∧ text.second.all isDigit) ∧
    (text.suffix = [] ∨ text.suffix = [90] ∨ (text.suffix.length = 5 ∧
      (text.suffix.head? = some 43 ∨ text.suffix.head? = some 45))) := by
  unfold matchDateTime at matches_
  simp only at matches_
  split at matches_
  · rename_i shape
    obtain ⟨eight, digits, -, six, digits', suffix⟩ := shape
    injection matches_ with same
    subst same
    generalize value.take 8 = date at *
    generalize (value.drop 9).take 6 = time at *
    refine ⟨?_, ?_, ?_⟩
    · simp only [List.length_take, List.length_drop, eight, six]
      decide
    · rw [List.all_eq_true] at digits digits'
      simp only [List.all_eq_true]
      exact ⟨fun unit member => digits unit (List.mem_of_mem_take member),
        fun unit member => digits unit (List.mem_of_mem_drop (List.mem_of_mem_take member)),
        fun unit member => digits unit (List.mem_of_mem_drop member),
        fun unit member => digits' unit (List.mem_of_mem_take member),
        fun unit member => digits' unit (List.mem_of_mem_drop (List.mem_of_mem_take member)),
        fun unit member => digits' unit (List.mem_of_mem_drop member)⟩
    · rcases suffix with none_ | zulu | ⟨five, sign, -⟩
      · exact Or.inl none_
      · exact Or.inr (Or.inl zulu)
      · exact Or.inr (Or.inr ⟨five, sign⟩)
  · cases matches_

theorem readDateTime_iso (matches_ : matchDateTime value = some text) (real : text.parts.date.Real)
    (inRange : text.parts.InRange) {minutes : Int} (suffix : text.suffix ≠ [])
    (isOffset : JsDate.readOffset text.offset = some minutes) :
    JsDate.readDateTime (text.iso text.offset) =
      some ⟨text.parts.date, text.parts.hour, text.parts.minute, text.parts.second, 0, minutes⟩ := by
  obtain ⟨⟨year, month, day, hour, minute, second⟩, ⟨year', month', day', hour', minute', second'⟩, isSuffix⟩ :=
    matchDateTime_groups matches_
  obtain ⟨_, _, _, _, hours, minutes, seconds⟩ := inRange
  obtain ⟨y, isYear⟩ := exists_number year'
  obtain ⟨m, isMonth⟩ := exists_number month'
  obtain ⟨d, isDay⟩ := exists_number day'
  obtain ⟨h, isHour⟩ := exists_number hour'
  obtain ⟨n, isMinute⟩ := exists_number minute'
  obtain ⟨s, isSecond⟩ := exists_number second'
  simp only [WallClockParts.date, DateTimeText.parts, isYear, isMonth, isDay, isHour, isMinute, isSecond,
    Option.getD_some] at real hours minutes seconds ⊢
  obtain ⟨y₁, y₂, y₃, y₄, yearIs⟩ := List.length_eq_four.1 year
  obtain ⟨m₁, m₂, monthIs⟩ := List.length_eq_two.1 month
  obtain ⟨d₁, d₂, dayIs⟩ := List.length_eq_two.1 day
  obtain ⟨h₁, h₂, hourIs⟩ := List.length_eq_two.1 hour
  obtain ⟨n₁, n₂, minuteIs⟩ := List.length_eq_two.1 minute
  obtain ⟨s₁, s₂, secondIs⟩ := List.length_eq_two.1 second
  rw [yearIs] at isYear
  rw [monthIs] at isMonth
  rw [dayIs] at isDay
  rw [hourIs] at isHour
  rw [minuteIs] at isMinute
  rw [secondIs] at isSecond
  -- no fraction of a second follows, for neither `Z` nor a sign is a point
  have rest : JsDate.readSeconds (58 :: s₁ :: s₂ :: text.offset) = some (s, 0, text.offset) := by
    cases starts : text.suffix with
    | nil => exact absurd starts suffix
    | cons unit others =>
      rw [starts] at isSuffix
      rcases isSuffix with none_ | zulu | ⟨_, sign⟩
      · cases none_
      · simp [DateTimeText.offset, starts, zulu, JsDate.readSeconds, isSecond]
      · rcases sign with plus | minus
        · simp_all [DateTimeText.offset, JsDate.readSeconds]
        · simp_all [DateTimeText.offset, JsDate.readSeconds]
  simp only [DateTimeText.iso, yearIs, monthIs, dayIs, hourIs, minuteIs, secondIs, List.cons_append, List.nil_append]
  simp only [JsDate.readDateTime, JsDate.readDate, isYear, isMonth, isDay, isHour, isMinute, rest, isOffset,
    Option.bind_eq_bind, Option.bind_some, Option.pure_def]
  rw [if_pos ⟨real, hours, minutes, seconds⟩]

end Suffixes

section Temporal

/-- The date exists, and read back in the offset or in the zone, the instant is the wall clock that is written. -/
def Denotes (zones : JsString → Option Zone) (text : DateTimeText) (timeZone : Option JsString) (instant : Int) : Prop :=
  text.parts.date.Real ∧
    if text.suffix = [] then
      ∃ name zone now, timeZone = some name ∧ zones name = some zone ∧ instant = now * 1000 ∧
        zone.clock now = text.parts.time
    else ∃ minutes, JsDate.readOffset text.offset = some minutes ∧ instant + minutes * 60000 = text.parts.time * 1000

/-- The date exists, and there is such an offset, or in a zone the year is not taken for another. -/
def DateTimeText.Faithful (text : DateTimeText) : Prop :=
  text.parts.date.Real ∧
    if text.suffix = [] then 100 ≤ text.parts.year else (JsDate.readOffset text.offset).isSome

/-- The clocks of a zone show it some time. -/
def WallClockParts.Exists (parts : WallClockParts) (zone : Zone) : Prop :=
  parts.day ≤ daysInMonth parts.year parts.month ∧ zone.Shows parts.time

/-- If the clocks show it, the search for it settles. What `Date.UTC` takes for another wall clock exists if and only
if that one is found. -/
def WallClockParts.Searchable (parts : WallClockParts) (zone : Zone) : Prop :=
  if 100 ≤ parts.year ∧ parts.day ≤ daysInMonth parts.year parts.month then
    zone.Shows parts.time → SearchEnds zone parts.time
  else parts.Exists zone ↔ zone.Shows parts.asUtc.time ∧ SearchEnds zone parts.asUtc.time

variable {host : Host} {zones : JsString → Option Zone}

theorem parseTemporal_dateTime {property : ICalendarProperty} {label : String} {inherited timeZone : Option JsString}
    {value : JsString} (ok : parseTemporal host property label inherited = .ok (.dateTime value timeZone)) :
    ∃ text, matchDateTime property.value = some text ∧ text.parts.InRange ∧
      if text.suffix = [] then ∃ name, timeZone = some name ∧ zonedDateTime host text.parts name label = .ok value
      else normalizeDate host (text.iso text.offset) = .ok value := by
  unfold parseTemporal at ok
  simp only at ok
  generalize (if property.param "TZID" = [] then inherited.toList else property.param "TZID") = timeZones at ok
  split at ok
  · cases ok
  split at ok
  · cases ok
  split at ok
  · split at ok
    · cases ok
    · obtain ⟨_, _, ok'⟩ := Fallible.bind_eq_ok ok
      cases ok'
  split at ok
  · cases ok
  split at ok
  · cases ok
  rename_i text matches_
  split at ok
  · cases ok
  rename_i valid
  have inRange : text.parts.InRange := by
    simp only [not_or, Nat.not_lt] at valid
    exact valid
  refine ⟨text, matches_, inRange, ?_⟩
  split at ok
  · rename_i zulu
    obtain ⟨_, normal, ok'⟩ := Fallible.bind_eq_ok ok
    cases ok'
    rw [if_neg (by simp [zulu]), DateTimeText.offset, if_pos zulu]
    exact normal
  rename_i notZulu
  split at ok
  · rename_i suffix
    obtain ⟨_, normal, ok'⟩ := Fallible.bind_eq_ok ok
    cases ok'
    rw [if_neg suffix, DateTimeText.offset, if_neg notZulu]
    exact normal
  · rename_i suffix
    obtain ⟨_, normal, ok'⟩ := Fallible.bind_eq_ok ok
    cases ok'
    rw [if_pos (not_not.1 suffix)]
    exact ⟨_, rfl, normal⟩

theorem faithful_of_suffix {text : DateTimeText} {written : JsString} (matches_ : matchDateTime written = some text)
    (inRange : text.parts.InRange) (suffix : text.suffix ≠ []) {value : JsString} {timeZone : Option JsString}
    (ok : normalizeDate host (text.iso text.offset) = .ok value) :
    ∃ instant, value = JsDate.toISOString instant ∧ (Denotes zones text timeZone instant ↔ text.Faithful) := by
  unfold normalizeDate at ok
  split at ok
  · rename_i instant parses
    injection ok with same
    refine ⟨instant, same.symm, ?_⟩
    simp only [Denotes, DateTimeText.Faithful, if_neg suffix]
    refine and_congr_right fun real => ?_
    cases isOffset : JsDate.readOffset text.offset with
    | none => simp
    | some minutes =>
      have reads := readDateTime_iso matches_ real inRange suffix isOffset
      rw [host.parseDate_iso _ (by rw [reads]; rfl), JsDate.parse, reads] at parses
      injection parses with isInstant
      simp only [Option.some.injEq, exists_eq_left', Option.isSome_some, iff_true]
      rw [← isInstant]
      simp only [JsDate.IsoDateTime.instant, WallClockParts.time]
      omega
  · cases ok

theorem faithful_of_zone
    (keeps : ∀ instant name, host.wallClock instant name =
      (zones name).map fun zone => clockFace (zone.clock (instant / 1000)))
    {text : DateTimeText} (inRange : text.parts.InRange) (suffix : text.suffix = []) {name value : JsString}
    {label : String} (ok : zonedDateTime host text.parts name label = .ok value) :
    ∃ instant, value = JsDate.toISOString instant ∧ (Denotes zones text (some name) instant ↔ text.Faithful) := by
  cases known : zones name with
  | none =>
    have unknown : ∀ instant, host.wallClock instant name = none := fun instant => by rw [keeps, known]; rfl
    simp [zonedDateTime, adjust, unknown] at ok
  | some zone =>
    have keeps' : ∀ instant, host.wallClock instant name = some (clockFace (zone.clock (instant / 1000))) :=
      fun instant => by rw [keeps, known]; rfl
    obtain ⟨now, isValue, shown⟩ := zonedDateTime_ok keeps' inRange ok
    refine ⟨now * 1000, isValue, ?_⟩
    simp only [Denotes, DateTimeText.Faithful, if_pos suffix]
    refine and_congr_right fun real => ⟨?_, fun late => ?_⟩
    · rintro ⟨name', zone', now', isName, isZone, same, shown'⟩
      injection isName with isName
      subst isName
      obtain rfl : zone = zone' := Option.some.inj (known.symm.trans isZone)
      obtain rfl : now = now' := by omega
      by_contra early
      have moved := asUtc_time_century (Nat.lt_of_not_le early) inRange.2.2.1
      have before := time_lt 100 inRange real.2.2.2.2 (Nat.lt_of_not_le early)
      have hundred : daysBeforeYear 100 = 36525 := by decide
      omega
    · exact ⟨name, zone, now, rfl, known, rfl, by rw [shown, asUtc_late late]⟩

/-- What is found is what exists, just where the search is for what is written and settles. -/
theorem zonedDateTime_exact {zone : Zone} {timeZone : JsString} {parts : WallClockParts} {label : String}
    (keeps : ∀ instant, host.wallClock instant timeZone = some (clockFace (zone.clock (instant / 1000))))
    (sparse : zone.Sparse) (inRange : parts.InRange) :
    ((∃ value, zonedDateTime host parts timeZone label = .ok value) ↔ parts.Exists zone) ↔ parts.Searchable zone := by
  rw [zonedDateTime_accepts keeps sparse inRange]
  unfold WallClockParts.Searchable
  split
  · rename_i real
    rw [asUtc_late real.1, WallClockParts.Exists]
    have inMonth := real.2
    tauto
  · exact iff_comm

/-- A date-time that is accepted denotes what is written if and only if its date exists, its offset is one and, in a
zone, its year is not taken for another. A time zone accepts the wall clocks that it shows, and no others, if and
only if the search is for them and settles. -/
theorem temporal_faithful (host : Host) (zones : JsString → Option Zone)
    (keeps : ∀ instant name, host.wallClock instant name =
      (zones name).map fun zone => clockFace (zone.clock (instant / 1000))) :
    (∀ property label inherited value timeZone,
      parseTemporal host property label inherited = .ok (.dateTime value timeZone) →
      ∃ text instant, matchDateTime property.value = some text ∧ value = JsDate.toISOString instant ∧
        (Denotes zones text timeZone instant ↔ text.Faithful)) ∧
    ∀ name zone, zones name = some zone → zone.Sparse → ∀ parts : WallClockParts, parts.InRange → ∀ label,
      ((∃ value, zonedDateTime host parts name label = .ok value) ↔ parts.Exists zone) ↔ parts.Searchable zone := by
  constructor
  · intro property label inherited value timeZone ok
    obtain ⟨text, matches_, inRange, branch⟩ := parseTemporal_dateTime ok
    by_cases suffix : text.suffix = []
    · rw [if_pos suffix] at branch
      obtain ⟨name, rfl, zoned⟩ := branch
      obtain ⟨instant, isValue, faithful⟩ := faithful_of_zone keeps inRange suffix zoned
      exact ⟨text, instant, matches_, isValue, faithful⟩
    · rw [if_neg suffix] at branch
      obtain ⟨instant, isValue, faithful⟩ := faithful_of_suffix matches_ inRange suffix branch
      exact ⟨text, instant, matches_, isValue, faithful⟩
  · intro name zone known sparse parts inRange label
    exact zonedDateTime_exact (fun instant => by rw [keeps, known]; rfl) sparse inRange

/-- One hour ahead, and two hours from the last Sunday of March 2026 on. -/
def summerZone : Zone where
  offset now := if now < 1774746000 then 3600 else 7200
  below now := by split <;> omega

theorem sparse_summerZone : summerZone.Sparse := by
  have only : ∀ now, summerZone.Changes now → now = 1774746000 := by
    intro now changes
    simp only [Zone.Changes, summerZone] at changes
    by_contra other
    split at changes <;> split at changes <;> omega
  intro now later before changes changes'
  rw [only now changes, only later changes'] at before
  exact absurd before (Int.lt_irrefl _)

def knownZones (name : JsString) : Option Zone :=
  if name = ofString "Europe/Paris" then some summerZone
  else if name = ofString "UTC" then some (.fixed 0 (by decide))
  else none

def Host.zoned : Host :=
  { Host.plain with
    wallClock := fun instant name =>
      (knownZones name).map fun zone => clockFace (zone.clock (instant / 1000)) }

def summerMeeting : ICalendarProperty where
  name := ofString "DTSTART"
  params := [(ofString "TZID", ofString "Europe/Paris")]
  value := ofString "20260701T083000"

theorem temporal_faithful_summer :
    (∃ text instant, matchDateTime summerMeeting.value = some text ∧
      ofString "2026-07-01T06:30:00.000Z" = JsDate.toISOString instant ∧
      (Denotes knownZones text (some (ofString "Europe/Paris")) instant ↔ text.Faithful)) ∧
    (((∃ value, zonedDateTime Host.zoned ⟨2026, 3, 29, 2, 30, 0⟩ (ofString "Europe/Paris") "Event DTSTART" = .ok value) ↔
      WallClockParts.Exists ⟨2026, 3, 29, 2, 30, 0⟩ summerZone) ↔
      WallClockParts.Searchable ⟨2026, 3, 29, 2, 30, 0⟩ summerZone) := by
  obtain ⟨faithful, exact_⟩ := temporal_faithful Host.zoned knownZones fun _ _ => rfl
  refine ⟨faithful summerMeeting "Event DTSTART" none _ _ (by decide +kernel), ?_⟩
  exact exact_ (ofString "Europe/Paris") summerZone rfl sparse_summerZone _ (by simp [WallClockParts.InRange])
    "Event DTSTART"

def lastOfFebruary : ICalendarProperty where
  name := ofString "DTSTART"
  params := [(ofString "TZID", ofString "UTC")]
  value := ofString "20260231T120000"

/-- It is accepted, as the 3rd of March. -/
theorem lastOfFebruary_moves :
    parseTemporal Host.zoned lastOfFebruary "Event DTSTART" none =
        .ok (.dateTime (ofString "2026-03-03T12:00:00.000Z") (some (ofString "UTC"))) ∧
      (matchDateTime lastOfFebruary.value).map (fun text => text.parts.date) = some ⟨2026, 2, 31⟩ ∧
      ¬JsDate.CalendarDate.Real ⟨2026, 2, 31⟩ := by
  decide +kernel

end Temporal
end Pim
