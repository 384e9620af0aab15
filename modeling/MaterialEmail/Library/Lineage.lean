import Mathlib.Data.List.Basic

/-! Linear histories whose revisions are named by what they hold together with all that they descend from. A revision
is the list of what it and its ancestors hold, newest first; the empty list is no revision. -/
namespace Lineage

variable {α : Type}

/-- The revisions of a history, newest first. -/
def revisions : List α → List (List α)
  | [] => []
  | content :: older => (content :: older) :: revisions older

/-- What revisions hold themselves. -/
def contents (chosen : List (List α)) : List α := chosen.filterMap List.head?

/-- The contents of a revision on another parent. -/
def onto (parent revision : List α) : List α := revision.head?.toList ++ parent

/-- Revisions, oldest first, each with its copy; the first is copied onto `parent`. -/
def copies (parent : List α) : List (List α) → List (List α × List α)
  | [] => []
  | revision :: newer => (revision, onto parent revision) :: copies (onto parent revision) newer

section Revisions

@[simp] theorem revisions_nil : revisions ([] : List α) = [] := rfl

@[simp] theorem revisions_cons (content : α) (older : List α) :
    revisions (content :: older) = (content :: older) :: revisions older := rfl

@[simp] theorem length_revisions (head : List α) : (revisions head).length = head.length := by
  induction head with
  | nil => rfl
  | cons content older ih => simp [ih]

theorem ne_nil_of_mem_revisions {head revision : List α} (member : revision ∈ revisions head) : revision ≠ [] := by
  induction head with
  | nil => cases member
  | cons content older ih =>
    rcases List.mem_cons.1 member with rfl | later
    · exact List.cons_ne_nil _ _
    · exact ih later

theorem revisions_onto {parent revision : List α} (isRevision : revision ≠ []) :
    revisions (onto parent revision) = onto parent revision :: revisions parent := by
  cases revision with
  | nil => exact absurd rfl isRevision
  | cons content older => rfl

end Revisions

section Copies

variable {parent : List α} {chosen : List (List α)}

theorem map_fst_copies : (copies parent chosen).map Prod.fst = chosen := by
  induction chosen generalizing parent with
  | nil => rfl
  | cons revision newer ih => simp [copies, ih]

theorem foldl_onto : chosen.foldl onto parent = contents chosen.reverse ++ parent := by
  induction chosen generalizing parent with
  | nil => rfl
  | cons revision newer ih =>
    rw [List.foldl_cons, ih, List.reverse_cons, contents, contents, List.filterMap_append, List.append_assoc]
    cases revision <;> rfl

theorem revisions_foldl_onto (areRevisions : ∀ revision ∈ chosen, revision ≠ []) :
    revisions (chosen.foldl onto parent) = ((copies parent chosen).map Prod.snd).reverse ++ revisions parent := by
  induction chosen generalizing parent with
  | nil => rfl
  | cons revision newer ih =>
    have first := areRevisions revision List.mem_cons_self
    have rest := fun other isNewer => areRevisions other (List.mem_cons_of_mem _ isNewer)
    rw [List.foldl_cons, ih rest, revisions_onto first]
    simp [copies]

/-- What holds of every revision and its copy relates the two histories as wholes. -/
theorem map_copies {β : Type} {old new : List α → β} (areRevisions : ∀ revision ∈ chosen, revision ≠ [])
    (same : ∀ pair ∈ copies [] chosen, new pair.2 = old pair.1) :
    (revisions (chosen.foldl onto [])).map new = chosen.reverse.map old := by
  have pointwise : (copies [] chosen).map (new ∘ Prod.snd) = (copies [] chosen).map (old ∘ Prod.fst) :=
    List.map_congr_left same
  calc (revisions (chosen.foldl onto [])).map new
      = (((copies [] chosen).map Prod.snd).map new).reverse := by
        rw [revisions_foldl_onto areRevisions, revisions_nil, List.append_nil, List.map_reverse]
    _ = (((copies [] chosen).map Prod.fst).map old).reverse := by rw [List.map_map, pointwise, List.map_map]
    _ = chosen.reverse.map old := by rw [map_fst_copies, List.map_reverse]

end Copies

end Lineage
