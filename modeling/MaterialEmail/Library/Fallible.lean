import Mathlib.Data.List.Forall2

/-! Sequences of computations that may fail. -/
namespace Fallible

theorem bind_eq_ok {first : Except ε α} {next : α → Except ε β} {value : β}
    (ok : (first >>= next) = .ok value) : ∃ between, first = .ok between ∧ next between = .ok value := by
  cases first with
  | error error => cases ok
  | ok between => exact ⟨between, rfl, ok⟩

theorem toOption_eq_some {outcome : Except ε α} {value : α} : outcome.toOption = some value ↔ outcome = .ok value := by
  cases outcome <;> simp [Except.toOption]

/-- Each of the values comes from the element at its place. -/
theorem mapM_eq_ok {step : α → Except ε β} {list : List α} {values : List β} (ok : list.mapM step = .ok values) :
    List.Forall₂ (fun element value => step element = .ok value) list values := by
  induction list generalizing values with
  | nil =>
    cases ok
    exact .nil
  | cons head tail ih =>
    rw [List.mapM_cons] at ok
    obtain ⟨value, first, rest⟩ := bind_eq_ok ok
    obtain ⟨others, later, last⟩ := bind_eq_ok rest
    cases last
    exact .cons first (ih later)

/-- What is related to an element is related to one that is listed. -/
theorem exists_of_mem_forall₂ {related : α → β → Prop} {list : List α} {values : List β}
    (each : List.Forall₂ related list values) {value : β} (member : value ∈ values) :
    ∃ element ∈ list, related element value := by
  induction each with
  | nil => cases member
  | cons is _ ih =>
    rcases List.mem_cons.1 member with rfl | later
    · exact ⟨_, List.mem_cons_self, is⟩
    · obtain ⟨element, listed, is⟩ := ih later
      exact ⟨element, List.mem_cons_of_mem _ listed, is⟩

theorem exists_of_mem_mapM {step : α → Except ε β} {list : List α} {values : List β} (ok : list.mapM step = .ok values)
    {value : β} (member : value ∈ values) : ∃ element ∈ list, step element = .ok value :=
  exists_of_mem_forall₂ (mapM_eq_ok ok) member

/-- All steps succeed, with good values, exactly if each does. -/
theorem exists_mapM_ok {step : α → Except ε β} {good : β → Prop} {list : List α} :
    (∃ values, list.mapM step = .ok values ∧ ∀ value ∈ values, good value) ↔
      ∀ element ∈ list, ∃ value, step element = .ok value ∧ good value := by
  induction list with
  | nil => exact iff_of_true ⟨[], rfl, fun value member => nomatch member⟩ fun element member => nomatch member
  | cons head tail ih =>
    rw [List.forall_mem_cons, ← ih]
    constructor
    · rintro ⟨values, ok, each⟩
      rw [List.mapM_cons] at ok
      obtain ⟨value, first, rest⟩ := bind_eq_ok ok
      obtain ⟨others, later, last⟩ := bind_eq_ok rest
      cases last
      exact ⟨⟨value, first, each value List.mem_cons_self⟩,
        others, later, fun other member => each other (List.mem_cons_of_mem _ member)⟩
    · rintro ⟨⟨value, first, isGood⟩, others, later, each⟩
      exact ⟨value :: others, by rw [List.mapM_cons, first, later]; rfl, List.forall_mem_cons.2 ⟨isGood, each⟩⟩

/-- The errors that a computation can end with. -/
def FailsWith (errors : ε → Prop) (action : Except ε α) : Prop := ∀ error, action = .error error → errors error

variable {errors : ε → Prop}

@[simp] theorem failsWith_ok {value : α} : FailsWith errors (.ok value) := by simp [FailsWith]

@[simp] theorem failsWith_error {error : ε} : FailsWith errors (.error error : Except ε α) ↔ errors error := by
  simp [FailsWith]

theorem FailsWith.bind {first : Except ε α} {next : α → Except ε β} (one : FailsWith errors first)
    (two : ∀ value, FailsWith errors (next value)) : FailsWith errors (first >>= next) := by
  intro error fails
  cases first with
  | error early =>
    cases fails
    exact one _ rfl
  | ok value => exact two value error fails

theorem FailsWith.mapM {step : α → Except ε β} (each : ∀ item, FailsWith errors (step item)) (list : List α) :
    FailsWith errors (list.mapM step) := by
  induction list with
  | nil => simp [pure, Except.pure]
  | cons item rest ih =>
    rw [List.mapM_cons]
    exact (each item).bind fun value => ih.bind fun others => failsWith_ok

theorem FailsWith.foldlM {step : β → α → Except ε β} (each : ∀ state item, FailsWith errors (step state item))
    (list : List α) (state : β) : FailsWith errors (list.foldlM step state) := by
  induction list generalizing state with
  | nil => simp [pure, Except.pure]
  | cons item rest ih =>
    rw [List.foldlM_cons]
    exact (each state item).bind ih

end Fallible
