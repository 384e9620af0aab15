import Mathlib.Data.List.Basic
import Mathlib.Data.List.Infix

/-! Where a pattern occurs in a text: its first and its last place, and what becomes of a place when the text
is put together from parts. -/
namespace Occurrence

variable {α : Type} {pattern text front back x w : List α} {i j : Nat}

def OccursAt (pattern text : List α) (i : Nat) : Prop := pattern <+: text.drop i

instance [DecidableEq α] : Decidable (OccursAt pattern text i) := inferInstanceAs (Decidable (_ <+: _))

theorem occursAt_append (front pattern back : List α) : OccursAt pattern (front ++ pattern ++ back) front.length := by
  simp [OccursAt]

theorem OccursAt.split (occurs : OccursAt pattern text i) (inside : i ≤ text.length) :
    ∃ front back, text = front ++ pattern ++ back ∧ front.length = i := by
  obtain ⟨back, whole⟩ := occurs
  refine ⟨text.take i, back, ?_, List.length_take_of_le inside⟩
  rw [List.append_assoc, whole, List.take_append_drop]

theorem OccursAt.length_le (occurs : OccursAt pattern text i) (inside : i ≤ text.length) :
    i + pattern.length ≤ text.length := by
  obtain ⟨front, back, rfl, rfl⟩ := occurs.split inside
  simp

theorem OccursAt.lt_length (occurs : OccursAt pattern text i) (nonempty : pattern ≠ []) : i < text.length := by
  by_contra beyond
  unfold OccursAt at occurs
  rw [List.drop_eq_nil_of_le (Nat.not_lt.1 beyond)] at occurs
  exact nonempty (List.prefix_nil.1 occurs)

theorem OccursAt.mono (occurs : OccursAt pattern front i) (isPrefix : front <+: text) : OccursAt pattern text i :=
  List.IsPrefix.trans occurs (isPrefix.drop i)

theorem occursAt_append_right : OccursAt pattern (front ++ back) (front.length + i) ↔ OccursAt pattern back i := by
  rw [OccursAt, OccursAt, List.drop_append, List.drop_eq_nil_of_le (Nat.le_add_right _ _)]
  simp

/-- A place in two parts lies in one of them if the pattern cannot reach into the second. -/
theorem OccursAt.either (occurs : OccursAt pattern (front ++ back) i) (nonempty : pattern ≠ [])
    (apart : ∀ a ∈ back.head?, a ∉ pattern) :
    OccursAt pattern front i ∨ ∃ k, i = front.length + k ∧ OccursAt pattern back k := by
  by_cases later : front.length ≤ i
  · obtain ⟨k, rfl⟩ := Nat.exists_eq_add_of_le later
    exact Or.inr ⟨k, rfl, occursAt_append_right.1 occurs⟩
  · refine Or.inl ?_
    obtain ⟨tail, whole⟩ := occurs
    rw [List.drop_append_of_le_length (Nat.le_of_not_le later)] at whole
    rcases List.append_eq_append_iff.1 whole with ⟨between, here, -⟩ | ⟨reaching, rfl, rfl⟩
    · exact ⟨between, here.symm⟩
    · cases reaching with
      | nil => exact ⟨[], by simp⟩
      | cons a reaching => exact absurd (List.mem_append_right _ List.mem_cons_self) (apart a rfl)

/-- A text that begins with itself moved on by `x` holds nothing that `x` does not hold. -/
theorem OccursAt.of_period (occurs : OccursAt pattern (x ++ w) i) (period : w <+: x ++ w) (shift : x ≠ [])
    (nonempty : pattern ≠ []) (apart : ∀ a ∈ w.head?, a ∉ pattern) : ∃ j, OccursAt pattern x j := by
  induction i using Nat.strong_induction_on with
  | h i ih =>
    rcases occurs.either nonempty apart with here | ⟨k, rfl, later⟩
    · exact ⟨i, here⟩
    · have moved : 0 < x.length := List.length_pos_of_ne_nil shift
      exact ih k (by omega) (later.mono period)

section Search

variable [DecidableEq α]

def indexOf (pattern text : List α) : Option Nat := (List.range (text.length + 1)).find? fun i => OccursAt pattern text i

def lastIndexFrom (pattern text : List α) : Nat → Option Nat
  | 0 => if OccursAt pattern text 0 then some 0 else none
  | i + 1 => if OccursAt pattern text (i + 1) then some (i + 1) else lastIndexFrom pattern text i

def lastIndexOf (pattern text : List α) : Option Nat := lastIndexFrom pattern text text.length

theorem indexOf_eq_some : indexOf pattern text = some i ↔
    OccursAt pattern text i ∧ i ≤ text.length ∧ ∀ j < i, ¬ OccursAt pattern text j := by
  unfold indexOf
  rw [List.find?_range_eq_some]
  simp [Nat.lt_succ_iff]

theorem indexOf_eq_none : indexOf pattern text = none ↔ ∀ i ≤ text.length, ¬ OccursAt pattern text i := by
  unfold indexOf
  rw [List.find?_range_eq_none]
  simp [Nat.lt_succ_iff]

theorem lastIndexFrom_eq_some {limit : Nat} : lastIndexFrom pattern text limit = some i ↔
    OccursAt pattern text i ∧ i ≤ limit ∧ ∀ j, i < j → j ≤ limit → ¬ OccursAt pattern text j := by
  induction limit with
  | zero =>
    by_cases here : OccursAt pattern text 0
    · simp only [lastIndexFrom, here, if_true, Option.some.injEq]
      constructor
      · rintro rfl
        exact ⟨here, Nat.le_refl _, fun j after small => absurd after (Nat.not_lt.2 small)⟩
      · exact fun ⟨_, small, _⟩ => (Nat.le_zero.1 small).symm
    · simp only [lastIndexFrom, here, if_false, reduceCtorEq, false_iff]
      rintro ⟨occurs, small, -⟩
      exact here (Nat.le_zero.1 small ▸ occurs)
  | succ limit ih =>
    by_cases here : OccursAt pattern text (limit + 1)
    · simp only [lastIndexFrom, here, if_true, Option.some.injEq]
      constructor
      · rintro rfl
        exact ⟨here, Nat.le_refl _, fun j after small => absurd after (Nat.not_lt.2 small)⟩
      · rintro ⟨-, small, none⟩
        by_contra different
        exact none (limit + 1) (by omega) (Nat.le_refl _) here
    · simp only [lastIndexFrom, here, if_false]
      rw [ih]
      constructor
      · rintro ⟨occurs, small, none⟩
        refine ⟨occurs, by omega, fun j after within => ?_⟩
        by_cases last : j = limit + 1
        · exact last ▸ here
        · exact none j after (by omega)
      · rintro ⟨occurs, small, none⟩
        have before : i ≠ limit + 1 := fun last => here (last ▸ occurs)
        exact ⟨occurs, by omega, fun j after within => none j after (by omega)⟩

theorem lastIndexOf_eq_some : lastIndexOf pattern text = some i ↔
    OccursAt pattern text i ∧ i ≤ text.length ∧ ∀ j, i < j → j ≤ text.length → ¬ OccursAt pattern text j :=
  lastIndexFrom_eq_some

/-- The last place is not before any other. -/
theorem lastIndexOf_of_occursAt (occurs : OccursAt pattern text i) (inside : i ≤ text.length) :
    ∃ last, lastIndexOf pattern text = some last ∧ i ≤ last := by
  unfold lastIndexOf
  generalize text.length = limit at inside
  induction limit with
  | zero =>
    obtain rfl := Nat.le_zero.1 inside
    exact ⟨0, if_pos occurs, Nat.le_refl _⟩
  | succ limit ih =>
    by_cases here : OccursAt pattern text (limit + 1)
    · exact ⟨limit + 1, if_pos here, inside⟩
    · have before : i ≠ limit + 1 := fun last => here (last ▸ occurs)
      obtain ⟨last, found, after⟩ := ih (by omega)
      exact ⟨last, (if_neg here).trans found, after⟩

end Search

/-- What stands between separators occurs in the text. -/
theorem splitOnP_infix {p : α → Bool} {part : List α} (member : part ∈ text.splitOnP p) : part <:+: text := by
  suffices both : ∀ first rest, text.splitOnP p = first :: rest → first <+: text ∧ ∀ part ∈ rest, part <:+: text by
    cases parts : text.splitOnP p with
    | nil => exact absurd parts (List.splitOnP_ne_nil p text)
    | cons first rest =>
      obtain ⟨isPrefix, others⟩ := both first rest parts
      rcases List.mem_cons.1 (parts ▸ member) with rfl | later
      · exact isPrefix.isInfix
      · exact others part later
  clear member
  induction text with
  | nil =>
    rintro first rest ⟨⟩
    simp
  | cons head tail ih =>
    intro first rest parts
    rw [List.splitOnP_cons_eq_if_modifyHead] at parts
    cases tailParts : tail.splitOnP p with
    | nil => exact absurd tailParts (List.splitOnP_ne_nil p tail)
    | cons next others =>
      obtain ⟨isPrefix, later⟩ := ih next others tailParts
      have within (part : List α) (inTail : part <:+: tail) : part <:+: head :: tail := inTail.trans (List.suffix_cons _ _).isInfix
      cases separates : p head with
      | true =>
        rw [separates, if_pos rfl, tailParts, List.cons.injEq] at parts
        obtain ⟨rfl, rfl⟩ := parts
        refine ⟨List.nil_prefix, fun part member => ?_⟩
        rcases List.mem_cons.1 member with rfl | member
        · exact within part isPrefix.isInfix
        · exact within part (later part member)
      | false =>
        rw [separates, if_neg Bool.false_ne_true, tailParts, List.modifyHead_cons, List.cons.injEq] at parts
        obtain ⟨rfl, rfl⟩ := parts
        exact ⟨List.prefix_cons_inj head |>.2 isPrefix, fun part member => within part (later part member)⟩

end Occurrence
