import Mathlib.Data.List.Nodup

/-! Lists of records with a key, as a program edits them in place: the first record with a key is the
one that counts, and a record is put where the one with its key stands, or at the end. -/
namespace Keyed

variable {α κ : Type} [DecidableEq κ] (key : α → κ)

def get (k : κ) (records : List α) : Option α := records.find? fun record => key record = k

def without (k : κ) (records : List α) : List α := records.filter fun record => key record ≠ k

def put (new : α) : List α → List α
  | [] => [new]
  | record :: records => if key record = key new then new :: records else record :: put new records

/-- Changes the first record with a key. -/
def edit (k : κ) (change : α → α) : List α → List α
  | [] => []
  | record :: records =>
    if key record = k then change record :: records else record :: edit k change records

section Lemmas

variable {key : α → κ} {k : κ} {records : List α}

theorem get_eq_some {record : α} (found : get key k records = some record) :
    record ∈ records ∧ key record = k := by
  have member := List.mem_of_find?_eq_some found
  have same := List.find?_some found
  simp only [decide_eq_true_eq] at same
  exact ⟨member, same⟩

theorem mem_without {record : α} : record ∈ without key k records ↔ record ∈ records ∧ key record ≠ k := by
  simp [without]

theorem without_sublist : (without key k records).Sublist records := List.filter_sublist

theorem without_of_not_mem (absent : k ∉ records.map key) : without key k records = records := by
  unfold without
  rw [List.filter_eq_self]
  intro record member
  simp only [decide_eq_true_eq]
  rintro rfl
  exact absent (List.mem_map_of_mem member)

theorem without_cons_self {record : α} (absent : key record ∉ records.map key) :
    without key (key record) (record :: records) = records := by
  have rest : without key (key record) records = records := without_of_not_mem absent
  calc without key (key record) (record :: records) = without key (key record) records := by simp [without]
    _ = records := rest

theorem filter_without (q : α → Bool) : (without key k records).filter q = without key k (records.filter q) := by
  unfold without
  rw [List.filter_filter, List.filter_filter]
  congr 1
  funext record
  exact Bool.and_comm _ _

omit [DecidableEq κ] in
/-- Records with distinct keys are told apart by them. -/
theorem eq_of_key {first second : α} (distinct : (records.map key).Nodup) (one : first ∈ records)
    (two : second ∈ records) (same : key first = key second) : first = second :=
  List.inj_on_of_nodup_map distinct one two same

theorem nodup_without (distinct : (records.map key).Nodup) : ((without key k records).map key).Nodup :=
  distinct.sublist (without_sublist.map key)

omit [DecidableEq κ] in
theorem nodup_append {record : α} (distinct : (records.map key).Nodup) (absent : key record ∉ records.map key) :
    ((records ++ [record]).map key).Nodup := by
  rw [List.map_append, List.nodup_append]
  refine ⟨distinct, List.nodup_singleton _, ?_⟩
  intro k member k' last
  simp only [List.map_cons, List.map_nil, List.mem_singleton] at last
  rw [last]
  rintro rfl
  exact absent member

theorem map_put (new : α) : (put key new records).map key =
    if key new ∈ records.map key then records.map key else records.map key ++ [key new] := by
  induction records with
  | nil => simp [put]
  | cons record records ih =>
    unfold put
    by_cases here : key record = key new
    · simp [here]
    · rw [if_neg here, List.map_cons, ih]
      have elsewhere : key new ≠ key record := Ne.symm here
      by_cases later : key new ∈ records.map key
      · simp [later]
      · simp [later, elsewhere]

theorem nodup_put {new : α} (distinct : (records.map key).Nodup) : ((put key new records).map key).Nodup := by
  rw [map_put]
  split
  · exact distinct
  · rename_i absent
    exact List.Nodup.append distinct (List.nodup_singleton _) (by simpa using absent)

theorem mem_put {new record : α} (member : record ∈ put key new records) : record = new ∨ record ∈ records := by
  induction records with
  | nil => simpa [put] using member
  | cons first records ih =>
    unfold put at member
    split at member
    · rcases List.mem_cons.1 member with same | later
      · exact Or.inl same
      · exact Or.inr (List.mem_cons_of_mem _ later)
    · rcases List.mem_cons.1 member with same | later
      · exact Or.inr (same ▸ List.mem_cons_self)
      · exact (ih later).imp id (List.mem_cons_of_mem _)

/-- Where keys are distinct every record is found by its key. -/
theorem get_of_mem {record : α} (distinct : (records.map key).Nodup) (member : record ∈ records) :
    get key (key record) records = some record := by
  cases found : get key (key record) records with
  | none =>
    have absent := List.find?_eq_none.1 found record member
    simp at absent
  | some other =>
    obtain ⟨isMember, same⟩ := get_eq_some found
    rw [List.inj_on_of_nodup_map distinct isMember member same]

theorem get_put {new : α} : get key k (put key new records) = if key new = k then some new else get key k records := by
  induction records with
  | nil =>
    by_cases same : key new = k
    · simp [get, put, same]
    · simp [get, put, same]
  | cons record records ih =>
    unfold put
    by_cases here : key record = key new
    · rw [if_pos here]
      by_cases same : key new = k
      · simp [get, same]
      · have different : key record ≠ k := fun is => same (here.symm.trans is)
        simp [get, same, different]
    · rw [if_neg here]
      by_cases first : key record = k
      · have different : key new ≠ k := fun is => here (first.trans is.symm)
        simp [get, first, different]
      · have rest : ∀ list : List α, get key k (record :: list) = get key k list := fun list => by simp [get, first]
        rw [rest, rest, ih]

theorem get_without {other : κ} : get key k (without key other records) = if k = other then none else get key k records := by
  by_cases same : k = other
  · subst same
    rw [if_pos rfl]
    refine List.find?_eq_none.2 fun record member => ?_
    simpa using (mem_without.1 member).2
  · rw [if_neg same]
    unfold get without
    rw [List.find?_filter]
    congr 1
    funext record
    by_cases is : key record = k
    · simp [is, same]
    · simp [is]

theorem get_isSome : (get key k records).isSome ↔ k ∈ records.map key := by
  simp [get, List.find?_isSome]

theorem put_of_not_mem {new : α} (absent : key new ∉ records.map key) : put key new records = records ++ [new] := by
  induction records with
  | nil => rfl
  | cons record records ih =>
    simp only [List.map_cons, List.mem_cons, not_or] at absent
    unfold put
    rw [if_neg (Ne.symm absent.1), ih absent.2]
    rfl

/-- An edit that does not look at the record puts another in its place. -/
theorem edit_const {new : α} (present : key new ∈ records.map key) :
    edit key (key new) (fun _ => new) records = put key new records := by
  induction records with
  | nil => cases present
  | cons record records ih =>
    unfold edit put
    by_cases here : key record = key new
    · rw [if_pos here, if_pos here]
    · rw [if_neg here, if_neg here]
      have later : key new ∈ records.map key := by
        rcases List.mem_cons.1 present with same | later
        · exact absurd same.symm here
        · exact later
      rw [ih later]

theorem eraseP_eq_without (distinct : (records.map key).Nodup) :
    records.eraseP (fun record => key record = k) = without key k records := by
  induction records with
  | nil => rfl
  | cons record records ih =>
    simp only [List.map_cons, List.nodup_cons] at distinct
    by_cases here : key record = k
    · subst here
      rw [without_cons_self distinct.1]
      simp
    · have step : without key k (record :: records) = record :: without key k records := by simp [without, here]
      rw [step, List.eraseP_cons_of_neg (by simp [here]), ih distinct.2]

theorem mem_edit {change : α → α} {record : α} (member : record ∈ edit key k change records) :
    record ∈ records ∨ ∃ old ∈ records, record = change old := by
  induction records with
  | nil => exact Or.inl member
  | cons first rest ih =>
    unfold edit at member
    split at member
    · rcases List.mem_cons.1 member with rfl | later
      · exact Or.inr ⟨first, List.mem_cons_self, rfl⟩
      · exact Or.inl (List.mem_cons_of_mem _ later)
    · rcases List.mem_cons.1 member with rfl | later
      · exact Or.inl List.mem_cons_self
      · rcases ih later with old | ⟨old, isOld, same⟩
        · exact Or.inl (List.mem_cons_of_mem _ old)
        · exact Or.inr ⟨old, List.mem_cons_of_mem _ isOld, same⟩

/-- Where keys are distinct, an edit changes all that has the key. -/
theorem mem_edit_distinct {change : α → α} {record : α} (distinct : (records.map key).Nodup)
    (member : record ∈ edit key k change records) :
    (record ∈ records ∧ key record ≠ k) ∨ ∃ old ∈ records, key old = k ∧ record = change old := by
  induction records with
  | nil => cases member
  | cons first rest ih =>
    simp only [List.map_cons, List.nodup_cons] at distinct
    unfold edit at member
    split at member
    · rename_i here
      rcases List.mem_cons.1 member with rfl | later
      · exact Or.inr ⟨first, List.mem_cons_self, here, rfl⟩
      · refine Or.inl ⟨List.mem_cons_of_mem _ later, fun same => distinct.1 ?_⟩
        rw [here, ← same]
        exact List.mem_map_of_mem later
    · rename_i elsewhere
      rcases List.mem_cons.1 member with rfl | later
      · exact Or.inl ⟨List.mem_cons_self, elsewhere⟩
      · rcases ih distinct.2 later with ⟨old, other⟩ | ⟨old, isOld, has, same⟩
        · exact Or.inl ⟨List.mem_cons_of_mem _ old, other⟩
        · exact Or.inr ⟨old, List.mem_cons_of_mem _ isOld, has, same⟩

/-- An edit does not show in what it leaves as it is. -/
theorem map_edit {β : Type} {view : α → β} {change : α → α} (keeps : ∀ record, view (change record) = view record) :
    (edit key k change records).map view = records.map view := by
  induction records with
  | nil => rfl
  | cons record records ih =>
    unfold edit
    by_cases here : key record = k
    · simp [here, keeps]
    · simp [here, ih]

theorem edit_of_not_mem {change : α → α} (absent : k ∉ records.map key) :
    edit key k change records = records := by
  induction records with
  | nil => rfl
  | cons record records ih =>
    simp only [List.map_cons, List.mem_cons, not_or] at absent
    unfold edit
    rw [if_neg (Ne.symm absent.1), ih absent.2]

/-- An edit of one record and a selection that does not depend on what is edited. -/
theorem filter_edit {change : α → α} (q : α → Bool) (keeps : ∀ record, q (change record) = q record)
    (distinct : (records.map key).Nodup) :
    (edit key k change records).filter q = edit key k change (records.filter q) := by
  induction records with
  | nil => rfl
  | cons record records ih =>
    simp only [List.map_cons, List.nodup_cons] at distinct
    have step : edit key k change (record :: records) =
        if key record = k then change record :: records else record :: edit key k change records := rfl
    by_cases selected : q record = true
    · have selected' : edit key k change ((record :: records).filter q) =
          if key record = k then change record :: records.filter q
          else record :: edit key k change (records.filter q) := by
        rw [List.filter_cons_of_pos selected]
        rfl
      rw [step, selected']
      by_cases here : key record = k
      · simp [here, keeps, selected]
      · simp [here, selected, ih distinct.2]
    · have dropped : (record :: records).filter q = records.filter q := List.filter_cons_of_neg selected
      rw [step, dropped]
      by_cases here : key record = k
      · have absent : k ∉ (records.filter q).map key := by
          intro member
          rw [← here] at member
          exact distinct.1 ((List.filter_sublist.map key).subset member)
        simp [here, keeps, selected, edit_of_not_mem absent]
      · simp [here, selected, ih distinct.2]

end Lemmas

end Keyed
