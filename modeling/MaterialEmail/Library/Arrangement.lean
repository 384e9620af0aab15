import Mathlib.Data.List.Nodup
import Mathlib.Data.List.Perm.Basic

/-! Lists whose entries are told apart by a key: the entry with a key, an entry in the place of another one, and the
entries that are asked for put in front of the others. -/
namespace Arrangement

section Duplicates

variable {κ : Type} [BEq κ] [LawfulBEq κ]

theorem filter_eraseDups (keeps : κ → Bool) (keys : List κ) :
    (keys.filter keeps).eraseDups = keys.eraseDups.filter keeps := by
  induction length : keys.length using Nat.strongRecOn generalizing keys with
  | ind n ih =>
    cases keys with
    | nil => rfl
    | cons first rest =>
      have shorter : (rest.filter fun other => !other == first).length < n := by
        have := List.length_filter_le (fun other => !other == first) rest
        simp only [List.length_cons] at length
        omega
      have later := ih _ shorter (rest.filter fun other => !other == first) rfl
      rw [List.filter_comm] at later
      cases kept : keeps first with
      | true =>
        rw [List.filter_cons_of_pos kept, List.eraseDups_cons, List.eraseDups_cons, List.filter_cons_of_pos kept, later]
      | false =>
        rw [List.filter_cons_of_neg (by simp [kept]), List.eraseDups_cons, List.filter_cons_of_neg (by simp [kept]), ← later]
        congr 1
        refine (List.filter_eq_self.2 fun other member => ?_).symm
        have isKept := (List.mem_filter.1 member).2
        simp only [Bool.not_eq_true', beq_eq_false_iff_ne]
        rintro rfl
        simp [kept] at isKept

theorem nodup_eraseDups (keys : List κ) : keys.eraseDups.Nodup := by
  induction keys with
  | nil => exact List.nodup_nil
  | cons first rest ih =>
    rw [List.eraseDups_cons, filter_eraseDups]
    exact List.nodup_cons.2 ⟨by simp, ih.filter _⟩

end Duplicates

variable {α κ : Type} [DecidableEq κ] {key : α → κ} {list : List α}

theorem find?_of_mem (distinct : (list.map key).Nodup) {entry : α} (member : entry ∈ list) :
    (list.find? fun other => key other = key entry) = some entry := by
  induction list with
  | nil => cases member
  | cons first rest ih =>
    have apart := List.nodup_cons.1 distinct
    rcases List.mem_cons.1 member with rfl | later
    · simp
    · have other : key first ≠ key entry := fun same => apart.1 (same ▸ List.mem_map_of_mem later)
      rw [List.find?_cons_of_neg (by simpa using other)]
      exact ih apart.2 later

/-- An entry in the place of the one with its key. -/
def replace (key : α → κ) (entry : α) (list : List α) : List α := list.map fun other => if key other = key entry then entry else other

theorem replace_keys (entry : α) (list : List α) : (replace key entry list).map key = list.map key := by
  rw [replace, List.map_map]
  refine List.map_congr_left fun other _ => ?_
  simp only [Function.comp_apply]
  split <;> simp_all

theorem replace_perm (distinct : (list.map key).Nodup) {entry old : α} (member : old ∈ list) (same : key old = key entry) :
    (list.filter (fun other => key other ≠ key entry) ++ [entry]).Perm (replace key entry list) := by
  induction list with
  | nil => cases member
  | cons first rest ih =>
    have apart := List.nodup_cons.1 distinct
    by_cases isOld : key first = key entry
    · have others : ∀ other ∈ rest, key other ≠ key entry := fun other later equal =>
        apart.1 (isOld.trans equal.symm ▸ List.mem_map_of_mem later)
      have kept : rest.filter (fun other => key other ≠ key entry) = rest :=
        List.filter_eq_self.2 fun other later => by simpa using others other later
      have unchanged : replace key entry rest = rest := by
        rw [replace]
        exact (List.map_congr_left fun other later => if_neg (others other later)).trans (List.map_id' rest)
      rw [List.filter_cons_of_neg (by simp [isOld]), kept]
      simp only [replace, List.map_cons, if_pos isOld] at unchanged ⊢
      rw [unchanged]
      exact List.perm_append_singleton entry rest
    · have later : old ∈ rest := (List.mem_cons.1 member).resolve_left fun here => isOld (here ▸ same)
      rw [List.filter_cons_of_pos (by simp [isOld])]
      simp only [replace, List.map_cons, if_neg isOld, List.cons_append]
      exact (ih apart.2 later).cons first

theorem replace_others (entry : α) (list : List α) :
    (replace key entry list).filter (fun other => key other ≠ key entry) =
      list.filter fun other => key other ≠ key entry := by
  induction list with
  | nil => rfl
  | cons first rest ih =>
    simp only [replace, List.map_cons] at ih ⊢
    by_cases isOld : key first = key entry
    · rw [if_pos isOld, List.filter_cons_of_neg (by simp), List.filter_cons_of_neg (by simp [isOld]), ih]
    · rw [if_neg isOld, List.filter_cons_of_pos (by simp [isOld]), List.filter_cons_of_pos (by simp [isOld]), ih]

section Listing

variable [BEq κ] [LawfulBEq κ]

/-- The entries that are asked for, in the order in which they are first asked for, before all others. -/
def listedFirst (key : α → κ) (keys : List κ) (list : List α) : List α :=
  keys.eraseDups.filterMap (fun wanted => list.find? fun entry => key entry = wanted) ++
    list.filter fun entry => key entry ∉ keys

theorem listedFirst_perm (distinct : (list.map key).Nodup) (keys : List κ) : (listedFirst key keys list).Perm list := by
  have found {wanted : κ} {entry : α} (isFound : (list.find? fun entry => key entry = wanted) = some entry) :
      entry ∈ list ∧ key entry = wanted :=
    ⟨List.mem_of_find?_eq_some isFound, by simpa using List.find?_some isFound⟩
  have apart : (listedFirst key keys list).Nodup := by
    refine List.nodup_append.2 ⟨?_, distinct.of_map.filter _, ?_⟩
    · refine (nodup_eraseDups keys).filterMap fun one two entry isOne isTwo => ?_
      rw [← (found isOne).2, ← (found isTwo).2]
    · intro one isOne two isTwo same
      obtain ⟨wanted, asked, isFound⟩ := List.mem_filterMap.1 isOne
      have unasked := (List.mem_filter.1 isTwo).2
      rw [decide_eq_true_eq, ← same, (found isFound).2] at unasked
      exact unasked (List.mem_eraseDups.1 asked)
  refine (List.perm_ext_iff_of_nodup apart distinct.of_map).2 fun entry => ?_
  rw [listedFirst, List.mem_append, List.mem_filterMap, List.mem_filter]
  constructor
  · rintro (⟨wanted, -, isFound⟩ | ⟨member, -⟩)
    · exact (found isFound).1
    · exact member
  · intro member
    by_cases asked : key entry ∈ keys
    · exact Or.inl ⟨key entry, List.mem_eraseDups.2 asked, find?_of_mem distinct member⟩
    · exact Or.inr ⟨member, by simpa using asked⟩

end Listing

end Arrangement
