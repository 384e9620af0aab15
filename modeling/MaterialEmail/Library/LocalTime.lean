import Mathlib.Tactic.Common

/-! Clocks that are set to local time: ahead of a universal time by an offset that changes now and then. A local
time is found by taking the offset away from it, again and again, until the clocks show it. Times are in
seconds. -/
namespace LocalTime

/-- Seconds that the clocks are ahead, always less than a day. -/
structure Zone where
  offset : Int → Int
  below : ∀ now, -86400 < offset now ∧ offset now < 86400

namespace Zone

variable (zone : Zone) (wanted : Int)

def clock (now : Int) : Int := now + zone.offset now

def Shows : Prop := ∃ now, zone.clock now = wanted

def Changes (now : Int) : Prop := zone.offset now ≠ zone.offset (now - 1)

/-- At least a day passes between two changes. -/
def Sparse : Prop := ∀ now later, now < later → zone.Changes now → zone.Changes later → now + 86400 ≤ later

/-- The time at which the clocks would show what is wanted, if they were ahead as they are now. -/
def back (now : Int) : Int := wanted - zone.offset now

/-- The search goes to and fro between two offsets. -/
def Alternates : Prop :=
  zone.offset (zone.back wanted wanted) ≠ zone.offset wanted ∧
    zone.offset (zone.back wanted (zone.back wanted wanted)) = zone.offset wanted

def fixed (offset : Int) (below : -86400 < offset ∧ offset < 86400) : Zone := ⟨fun _ => offset, fun _ => below⟩

end Zone

section Search

variable {zone : Zone} {wanted now : Int}

theorem Zone.back_eq_iff : zone.back wanted now = now ↔ zone.clock now = wanted := by
  simp only [Zone.back, Zone.clock]
  omega

theorem Zone.back_near (zone : Zone) (wanted now : Int) :
    wanted - 86400 < zone.back wanted now ∧ zone.back wanted now < wanted + 86400 := by
  have below := zone.below now
  simp only [Zone.back]
  omega

theorem Zone.changes_between {later : Int} (before : now < later) (differ : zone.offset now ≠ zone.offset later) :
    ∃ change, now < change ∧ change ≤ later ∧ zone.Changes change := by
  obtain ⟨steps, rfl⟩ : ∃ steps : Nat, later = now + steps := ⟨(later - now).toNat, by omega⟩
  induction steps with
  | zero => simp at before
  | succ steps ih =>
    by_cases same : zone.offset (now + steps) = zone.offset (now + (steps + 1 : Nat))
    · obtain rfl | some_ := Nat.eq_zero_or_pos steps
      · exact absurd same (by simpa using differ)
      · obtain ⟨change, after, until_, changes⟩ := ih (by omega) (same ▸ differ)
        exact ⟨change, after, by omega, changes⟩
    · refine ⟨now + (steps + 1 : Nat), before, by omega, ?_⟩
      have earlier : now + (steps + 1 : Nat) - 1 = now + steps := by omega
      rw [Zone.Changes, earlier]
      exact Ne.symm same

theorem Zone.Sparse.three_offsets {middle later : Int} (sparse : zone.Sparse) (first : now < middle)
    (second : middle < later) (differ : zone.offset now ≠ zone.offset middle)
    (differ' : zone.offset middle ≠ zone.offset later) : now + 86400 < later := by
  obtain ⟨change, after, until_, changes⟩ := changes_between first differ
  obtain ⟨change', after', until', changes'⟩ := changes_between second differ'
  have apart := sparse change change' (by omega) changes changes'
  omega

theorem Zone.Sparse.one_other {one two : Int} (sparse : zone.Sparse) (near : wanted - 86400 < one ∧ one < wanted + 86400)
    (near' : wanted - 86400 < two ∧ two < wanted + 86400) (other : zone.offset one ≠ zone.offset wanted)
    (other' : zone.offset two ≠ zone.offset wanted) (side : one < wanted ↔ two < wanted) :
    zone.offset one = zone.offset two := by
  by_contra differ
  have apart : one ≠ wanted ∧ two ≠ wanted ∧ one ≠ two := by
    refine ⟨?_, ?_, ?_⟩
    · rintro rfl
      exact other rfl
    · rintro rfl
      exact other' rfl
    · rintro rfl
      exact differ rfl
  by_cases earlier : one < wanted
  · rcases Int.lt_or_gt_of_ne apart.2.2 with first | first
    · have long := sparse.three_offsets first (side.1 earlier) differ other'
      omega
    · have long := sparse.three_offsets first earlier (Ne.symm differ) other
      omega
  · rcases Int.lt_or_gt_of_ne apart.2.2 with first | first
    · have long := sparse.three_offsets (by omega : wanted < one) first (Ne.symm other) differ
      omega
    · have long := sparse.three_offsets (by omega : wanted < two) first (Ne.symm other') (Ne.symm differ)
      omega

theorem Zone.Sparse.found (sparse : zone.Sparse) (shows : zone.Shows wanted) (settles : ¬zone.Alternates wanted) :
    zone.clock (zone.back wanted (zone.back wanted (zone.back wanted wanted))) = wanted := by
  obtain ⟨now, isNow⟩ := shows
  obtain ⟨first, isFirst⟩ : ∃ first, zone.back wanted wanted = first := ⟨_, rfl⟩
  obtain ⟨second, isSecond⟩ : ∃ second, zone.back wanted first = second := ⟨_, rfl⟩
  have firstNear := zone.back_near wanted wanted
  have secondNear := zone.back_near wanted first
  have nowNear := zone.back_near wanted now
  simp only [Zone.Alternates, isFirst, isSecond, not_and] at settles
  rw [isFirst] at firstNear
  rw [isSecond] at secondNear
  rw [Zone.back_eq_iff.2 isNow] at nowNear
  rw [isFirst, isSecond]
  simp only [Zone.clock, Zone.back] at isNow isFirst isSecond ⊢
  by_cases atFirst : zone.offset first = zone.offset wanted
  · obtain rfl : second = first := by omega
    have again : wanted - zone.offset second = second := by omega
    rw [again]
    omega
  by_cases atSecond : zone.offset second = zone.offset first
  · have again : wanted - zone.offset second = second := by omega
    rw [again]
    omega
  have third := settles atFirst
  -- the offset at which the clocks show it is neither of the first two, which lead elsewhere
  have notStart : zone.offset now ≠ zone.offset wanted := by
    intro same
    obtain rfl : now = first := by omega
    exact atFirst same
  have notFirst : zone.offset now ≠ zone.offset first := by
    intro same
    obtain rfl : now = second := by omega
    exact atSecond same
  have atThird : zone.offset now = zone.offset second := by
    by_contra differ
    have one := sparse.one_other firstNear secondNear atFirst third
    have two := sparse.one_other firstNear nowNear atFirst notStart
    have three := sparse.one_other secondNear nowNear third notStart
    by_cases firstSide : first < wanted <;> by_cases secondSide : second < wanted <;>
      by_cases nowSide : now < wanted <;> simp_all
  have again : wanted - zone.offset second = now := by omega
  rw [again]
  omega

theorem Zone.Alternates.unfound (alternates : zone.Alternates wanted) :
    zone.clock wanted ≠ wanted ∧ zone.clock (zone.back wanted wanted) ≠ wanted ∧
      zone.clock (zone.back wanted (zone.back wanted wanted)) ≠ wanted ∧
      zone.back wanted (zone.back wanted (zone.back wanted wanted)) = zone.back wanted wanted := by
  obtain ⟨differ, same⟩ := alternates
  have third : zone.back wanted (zone.back wanted (zone.back wanted wanted)) = zone.back wanted wanted := by
    rw [Zone.back, same, ← Zone.back]
  refine ⟨?_, ?_, ?_, third⟩
  · intro settled
    rw [← Zone.back_eq_iff] at settled
    exact differ (by rw [settled])
  · intro settled
    rw [← Zone.back_eq_iff] at settled
    exact differ (by rw [← same, settled])
  · intro settled
    rw [← Zone.back_eq_iff, third] at settled
    exact differ (by rw [settled, same])

/-- Three steps find what the clocks show some time if and only if the search does not go to and fro. -/
theorem Zone.Sparse.found_iff (sparse : zone.Sparse) :
    zone.clock (zone.back wanted (zone.back wanted (zone.back wanted wanted))) = wanted ↔
      zone.Shows wanted ∧ ¬zone.Alternates wanted := by
  constructor
  · intro found
    refine ⟨⟨_, found⟩, fun alternates => ?_⟩
    obtain ⟨_, unfound, _, third⟩ := alternates.unfound
    rw [third] at found
    exact unfound found
  · rintro ⟨shows, settles⟩
    exact sparse.found shows settles

theorem Zone.Sparse.found_by_three (sparse : zone.Sparse)
    (found : zone.clock (zone.back wanted (zone.back wanted (zone.back wanted (zone.back wanted wanted)))) = wanted) :
    zone.clock (zone.back wanted (zone.back wanted (zone.back wanted wanted))) = wanted := by
  refine sparse.found ⟨_, found⟩ fun alternates => ?_
  obtain ⟨_, _, unfound, third⟩ := alternates.unfound
  rw [third] at found
  exact unfound found

end Search

end LocalTime
