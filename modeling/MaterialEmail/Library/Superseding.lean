import Mathlib.Data.List.Induction
import Mathlib.Logic.Function.Basic

/-! Lists of steps in which a later step makes earlier ones void. A settled list has no void steps left in
it; whoever carries it out ends where the whole list leads. -/
namespace Superseding

variable {α σ : Type}

section Settling

-- `supersedes new old`: once `new` comes, `old` is void.
variable (supersedes : α → α → Bool)

def push (steps : List α) (new : α) : List α := (steps.filter fun old => !supersedes new old) ++ [new]

def settle (steps : List α) : List α := steps.foldl (push supersedes) []

/-- Nothing in the list is void. -/
def Settled (steps : List α) : Prop := steps.Pairwise fun old new => supersedes new old = false

variable {supersedes} {steps : List α} {new : α}

theorem push_of_none (none : ∀ old ∈ steps, supersedes new old = false) : push supersedes steps new = steps ++ [new] := by
  unfold push
  rw [List.filter_eq_self.2 fun old member => by simp [none old member]]

theorem Settled.push (settled : Settled supersedes steps) : Settled supersedes (push supersedes steps new) := by
  refine List.pairwise_append.2 ⟨settled.sublist List.filter_sublist, List.pairwise_singleton _ _, ?_⟩
  intro old member last isLast
  obtain rfl := List.mem_singleton.1 isLast
  simpa using (List.mem_filter.1 member).2

theorem settle_concat : settle supersedes (steps ++ [new]) = push supersedes (settle supersedes steps) new := by
  simp [settle]

theorem settled_settle (steps : List α) : Settled supersedes (settle supersedes steps) := by
  induction steps using List.reverseRecOn with
  | nil => exact List.Pairwise.nil
  | append_singleton steps new ih =>
    rw [settle_concat]
    exact ih.push

theorem settle_of_settled (settled : Settled supersedes steps) : settle supersedes steps = steps := by
  induction steps using List.reverseRecOn with
  | nil => rfl
  | append_singleton steps new ih =>
    obtain ⟨earlier, -, last⟩ := List.pairwise_append.1 settled
    rw [settle_concat, ih earlier]
    exact push_of_none fun old member => last old member new (List.mem_singleton_self new)

theorem settle_settle (steps : List α) : settle supersedes (settle supersedes steps) = settle supersedes steps :=
  settle_of_settled (settled_settle steps)

theorem settle_append (first second : List α) :
    settle supersedes (first ++ second) = settle supersedes (settle supersedes first ++ second) := by
  have same : settle supersedes (settle supersedes first) = settle supersedes first := settle_settle first
  unfold settle at same ⊢
  rw [List.foldl_append, List.foldl_append, same]

theorem settle_subset (steps : List α) : settle supersedes steps ⊆ steps := by
  induction steps using List.reverseRecOn with
  | nil => exact List.Subset.refl _
  | append_singleton steps new ih =>
    intro step member
    rw [settle_concat] at member
    rcases List.mem_append.1 member with kept | last
    · exact List.mem_append_left _ (ih (List.mem_filter.1 kept).1)
    · exact List.mem_append_right _ last

end Settling

section Effects

variable (perform : α → σ → σ)

def carryOut (steps : List α) (s : σ) : σ := steps.foldl (fun s step => perform step s) s

/-- `new` overwrites what `old` does. -/
def Voids (new old : α) : Prop := ∀ s, perform new (perform old s) = perform new s

/-- What `new` does not tell apart, it does not tell apart after `old`. -/
def Passes (new old : α) : Prop :=
  ∀ s s', perform new s = perform new s' → perform new (perform old s) = perform new (perform old s')

variable {perform} {supersedes : α → α → Bool} {steps : List α} {new : α} {s : σ}

/-- Two runs stay alike for `new` when one of them leaves out what `new` makes void. -/
theorem perform_filter (voids : ∀ old ∈ steps, supersedes new old = true → Voids perform new old)
    (passes : ∀ old ∈ steps, supersedes new old = false → Passes perform new old) {s' : σ}
    (same : perform new s = perform new s') :
    perform new (carryOut perform (steps.filter fun old => !supersedes new old) s) =
      perform new (carryOut perform steps s') := by
  induction steps generalizing s s' with
  | nil => exact same
  | cons old steps ih =>
    have voidsLater := fun step member => voids step (List.mem_cons_of_mem old member)
    have passesLater := fun step member => passes step (List.mem_cons_of_mem old member)
    cases isVoid : supersedes new old with
    | true =>
      have overwritten := voids old List.mem_cons_self isVoid s'
      rw [List.filter_cons_of_neg (by simp [isVoid])]
      exact ih voidsLater passesLater (same.trans overwritten.symm)
    | false =>
      rw [List.filter_cons_of_pos (by simp [isVoid])]
      exact ih voidsLater passesLater (passes old List.mem_cons_self isVoid s s' same)

theorem carryOut_push (voids : ∀ old ∈ steps, supersedes new old = true → Voids perform new old)
    (passes : ∀ old ∈ steps, supersedes new old = false → Passes perform new old) :
    carryOut perform (push supersedes steps new) s = carryOut perform (steps ++ [new]) s := by
  have alike := perform_filter voids passes (Eq.refl (perform new s))
  unfold carryOut at alike ⊢
  rw [push, List.foldl_append, List.foldl_append]
  exact alike

/-- The settled list leads where the whole list leads. -/
theorem carryOut_settle
    (voids : steps.Pairwise fun old new => supersedes new old = true → Voids perform new old)
    (passes : steps.Pairwise fun old new => supersedes new old = false → Passes perform new old) :
    carryOut perform (settle supersedes steps) s = carryOut perform steps s := by
  induction steps using List.reverseRecOn with
  | nil => rfl
  | append_singleton steps new ih =>
    obtain ⟨voidsBefore, -, voidsLast⟩ := List.pairwise_append.1 voids
    obtain ⟨passesBefore, -, passesLast⟩ := List.pairwise_append.1 passes
    have last := List.mem_singleton_self new
    rw [settle_concat, carryOut_push
      (fun old member => voidsLast old (settle_subset steps member) new last)
      (fun old member => passesLast old (settle_subset steps member) new last)]
    have before := ih voidsBefore passesBefore
    unfold carryOut at before ⊢
    rw [List.foldl_append, List.foldl_append, before]

end Effects

section Decisions

variable {κ ν : Type} [DecidableEq κ] (decision : α → Option (κ × ν))

/-- Each step answers at most one question, and the last answer to it stands. -/
def decide (step : α) (answers : κ → ν) : κ → ν :=
  match decision step with
  | none => answers
  | some (question, answer) => Function.update answers question answer

variable {decision} {old new : α}

/-- A step with an answer to the same question overwrites the earlier one. -/
theorem voids_of_question (same : ∀ question answer, decision old = some (question, answer) →
    ∃ other, decision new = some (question, other)) : Voids (decide decision) new old := by
  intro answers
  unfold decide
  cases decided : decision old with
  | none => rfl
  | some pair =>
    obtain ⟨other, sameQuestion⟩ := same pair.1 pair.2 decided
    rw [sameQuestion]
    exact Function.update_idem _ _ _

theorem passes_decision (new old : α) : Passes (decide decision) new old := by
  intro answers answers' agree
  cases asks : decision new with
  | none =>
    simp only [decide, asks] at agree ⊢
    rw [agree]
  | some pair =>
    cases before : decision old with
    | none => simpa only [decide, before] using agree
    | some earlier =>
      simp only [decide, asks, before] at agree ⊢
      funext question
      by_cases asked : question = pair.1
      · simp [asked]
      · have same := congrFun agree question
        simp only [Function.update_of_ne asked] at same ⊢
        by_cases answered : question = earlier.1
        · simp [answered]
        · simpa only [Function.update_of_ne answered] using same

end Decisions

end Superseding
