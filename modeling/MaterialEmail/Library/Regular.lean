import Mathlib.Computability.Language

/-! Regular expressions whose letters are given by predicates, and the search for a match by derivatives. -/

inductive Regular (α : Type) where
  | nothing
  | empty
  | letter (accepts : α → Bool)
  | seq (first second : Regular α)
  | alt (left right : Regular α)
  | star (body : Regular α)

namespace Regular

open Computability

variable {α : Type} {r s : Regular α} {w : List α}

/-- The words that an expression matches. -/
def language : Regular α → Language α
  | nothing => 0
  | empty => 1
  | letter accepts => fun word => ∃ unit, word = [unit] ∧ accepts unit = true
  | seq first second => first.language * second.language
  | alt left right => left.language + right.language
  | star body => body.language∗

/-- One or more. -/
def plus (body : Regular α) : Regular α := seq body (star body)

def optional (body : Regular α) : Regular α := alt empty body

def nullable : Regular α → Bool
  | nothing => false
  | empty => true
  | letter _ => false
  | seq first second => first.nullable && second.nullable
  | alt left right => left.nullable || right.nullable
  | star _ => true

/-- Two expressions one after the other, without what cannot match. -/
def andThen : Regular α → Regular α → Regular α
  | nothing, _ => nothing
  | empty, second => second
  | first, second => seq first second

/-- Either of two expressions, without what cannot match. -/
def orElse : Regular α → Regular α → Regular α
  | nothing, right => right
  | left, nothing => left
  | left, right => alt left right

/-- What is left to match after a letter. -/
def derive (unit : α) : Regular α → Regular α
  | nothing => nothing
  | empty => nothing
  | letter accepts => if accepts unit then empty else nothing
  | seq first second =>
    let later := andThen (derive unit first) second
    if first.nullable then orElse later (derive unit second) else later
  | alt left right => orElse (derive unit left) (derive unit right)
  | star body => andThen (derive unit body) (star body)

/-- Some beginning of a word matches. -/
def beginsWith (r : Regular α) : List α → Bool
  | [] => r.nullable
  | unit :: word => r.nullable || beginsWith (derive unit r) word

/-- `test`: some part of a word matches. -/
def test (r : Regular α) (word : List α) : Bool := word.tails.any r.beginsWith

@[simp] theorem mem_nothing : ¬w ∈ (nothing : Regular α).language := id

@[simp] theorem mem_empty : w ∈ (empty : Regular α).language ↔ w = [] := Iff.rfl

@[simp] theorem mem_letter {accepts : α → Bool} :
    w ∈ (letter accepts).language ↔ ∃ unit, w = [unit] ∧ accepts unit = true := Iff.rfl

theorem mem_seq : w ∈ (seq r s).language ↔ ∃ first ∈ r.language, ∃ second ∈ s.language, first ++ second = w :=
  Language.mem_mul

@[simp] theorem mem_alt : w ∈ (alt r s).language ↔ w ∈ r.language ∨ w ∈ s.language := Iff.rfl

theorem mem_star : w ∈ (star r).language ↔
    ∃ parts : List (List α), w = parts.flatten ∧ ∀ part ∈ parts, part ∈ r.language :=
  Language.mem_kstar

@[simp] theorem mem_optional : w ∈ (optional r).language ↔ w = [] ∨ w ∈ r.language := Iff.rfl

theorem nullable_iff : r.nullable = true ↔ [] ∈ r.language := by
  induction r with
  | nothing => simp [nullable]
  | empty => simp [nullable]
  | letter accepts => simp [nullable]
  | seq first second firstIh secondIh => simp [nullable, mem_seq, firstIh, secondIh]
  | alt left right leftIh rightIh => simp [nullable, leftIh, rightIh]
  | star body _ => simp [nullable, language, Language.nil_mem_kstar]

theorem mem_andThen : w ∈ (andThen r s).language ↔ w ∈ (seq r s).language := by
  unfold andThen
  split
  · simp [mem_seq]
  · simp [mem_seq]
  · rfl

theorem mem_orElse : w ∈ (orElse r s).language ↔ w ∈ r.language ∨ w ∈ s.language := by
  unfold orElse
  split
  · simp
  · simp
  · rfl

/-- The first letter of a sequence of words belongs to the first of them that is not empty. -/
theorem mem_star_cons {unit : α} : unit :: w ∈ (star r).language ↔
    ∃ first second, unit :: first ∈ r.language ∧ second ∈ (star r).language ∧ first ++ second = w := by
  constructor
  · intro member
    obtain ⟨parts, isWord, inBody⟩ := Language.mem_kstar_iff_exists_nonempty.1 member
    cases parts with
    | nil => cases isWord
    | cons part parts =>
      obtain ⟨⟨isPart, nonempty⟩, rest⟩ := List.forall_mem_cons.1 inBody
      cases part with
      | nil => exact absurd rfl nonempty
      | cons first part =>
        rw [List.flatten_cons, List.cons_append, List.cons.injEq] at isWord
        obtain ⟨rfl, isRest⟩ := isWord
        have inStar := mem_star.2 ⟨parts, rfl, fun other inRest => (rest other inRest).1⟩
        exact ⟨part, parts.flatten, isPart, inStar, isRest.symm⟩
  · rintro ⟨first, second, isFirst, isSecond, rfl⟩
    obtain ⟨parts, rfl, inBody⟩ := mem_star.1 isSecond
    exact mem_star.2 ⟨(unit :: first) :: parts, rfl, List.forall_mem_cons.2 ⟨isFirst, inBody⟩⟩

theorem mem_star_letter {accepts : α → Bool} :
    w ∈ (star (letter accepts)).language ↔ ∀ unit ∈ w, accepts unit = true := by
  induction w with
  | nil => exact iff_of_true (Language.nil_mem_kstar _) (by simp)
  | cons unit word ih =>
    rw [mem_star_cons, List.forall_mem_cons, ← ih]
    constructor
    · rintro ⟨_, second, ⟨_, isUnit, accepted⟩, rest, rfl⟩
      cases isUnit
      exact ⟨accepted, rest⟩
    · rintro ⟨accepted, rest⟩
      exact ⟨[], word, ⟨unit, rfl, accepted⟩, rest, rfl⟩

theorem mem_derive {unit : α} : w ∈ (derive unit r).language ↔ unit :: w ∈ r.language := by
  induction r generalizing w with
  | nothing => simp [derive]
  | empty => simp [derive]
  | letter accepts =>
    unfold derive
    split <;> simp_all
  | seq first second firstIh secondIh =>
    have later : w ∈ (andThen (derive unit first) second).language ↔
        ∃ front, unit :: front ∈ first.language ∧ ∃ back ∈ second.language, front ++ back = w := by
      rw [mem_andThen, mem_seq]
      simp only [firstIh]
    have split : unit :: w ∈ (seq first second).language ↔ w ∈ (andThen (derive unit first) second).language ∨
        [] ∈ first.language ∧ unit :: w ∈ second.language := by
      rw [later, mem_seq]
      constructor
      · rintro ⟨front, isFront, back, isBack, isWord⟩
        cases front with
        | nil => exact Or.inr ⟨isFront, isWord ▸ isBack⟩
        | cons head front =>
          rw [List.cons_append, List.cons.injEq] at isWord
          obtain ⟨rfl, isRest⟩ := isWord
          exact Or.inl ⟨front, isFront, back, isBack, isRest⟩
      · rintro (⟨front, isFront, back, isBack, rfl⟩ | ⟨isFront, isBack⟩)
        · exact ⟨unit :: front, isFront, back, isBack, rfl⟩
        · exact ⟨[], isFront, unit :: w, isBack, rfl⟩
    rw [split, ← nullable_iff, ← secondIh, derive]
    split
    · rename_i canBeEmpty
      rw [mem_orElse]
      simp [canBeEmpty]
    · rename_i cannot
      simp [cannot]
  | alt left right leftIh rightIh => rw [derive, mem_orElse, mem_alt, leftIh, rightIh]
  | star body ih =>
    rw [derive, mem_andThen, mem_seq, mem_star_cons]
    simp only [ih]
    constructor
    · rintro ⟨first, isFirst, second, isSecond, isWord⟩
      exact ⟨first, second, isFirst, isSecond, isWord⟩
    · rintro ⟨first, second, isFirst, isSecond, isWord⟩
      exact ⟨first, isFirst, second, isSecond, isWord⟩

theorem beginsWith_iff : beginsWith r w = true ↔ ∃ inside ∈ r.language, ∃ after, inside ++ after = w := by
  induction w generalizing r with
  | nil => simp [beginsWith, nullable_iff]
  | cons unit word ih =>
    simp only [beginsWith, Bool.or_eq_true, nullable_iff, ih, mem_derive]
    constructor
    · rintro (isEmpty | ⟨inside, isInside, after, rfl⟩)
      · exact ⟨[], isEmpty, unit :: word, rfl⟩
      · exact ⟨unit :: inside, isInside, after, rfl⟩
    · rintro ⟨inside, isInside, after, isWord⟩
      cases inside with
      | nil => exact Or.inl isInside
      | cons head inside =>
        rw [List.cons_append, List.cons.injEq] at isWord
        obtain ⟨rfl, isRest⟩ := isWord
        exact Or.inr ⟨inside, isInside, after, isRest⟩

theorem test_iff : test r w = true ↔ ∃ before, ∃ inside ∈ r.language, ∃ after, before ++ (inside ++ after) = w := by
  simp only [test, List.any_eq_true, List.mem_tails, beginsWith_iff]
  constructor
  · rintro ⟨_, ⟨before, rfl⟩, inside, isInside, after, rfl⟩
    exact ⟨before, inside, isInside, after, rfl⟩
  · rintro ⟨before, inside, isInside, after, rfl⟩
    exact ⟨inside ++ after, ⟨before, rfl⟩, inside, isInside, after, rfl⟩

end Regular
