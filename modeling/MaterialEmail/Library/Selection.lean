import Mathlib.Data.List.Sort

/-! The head of a sorted list as a choice: it is listed, and nothing listed comes before it. What sorting makes of a
list whose entries are in a total order, which need not be one on anything else. -/
namespace Interrupted

variable {α : Type} {r : α → α → Prop} [DecidableRel r]

theorem head_insertionSort [Std.Total r] [IsTrans α r] {l : List α} {first : α}
    (chosen : (l.insertionSort r).head? = some first) : first ∈ l ∧ ∀ other ∈ l, r first other := by
  have sorted := List.pairwise_insertionSort r l
  have member := fun entry => List.mem_insertionSort r (l := l) (x := entry)
  generalize l.insertionSort r = ranked at *
  cases ranked with
  | nil => cases chosen
  | cons head rest =>
    obtain rfl : head = first := Option.some.inj chosen
    refine ⟨(member head).1 List.mem_cons_self, fun other listed => ?_⟩
    rcases List.mem_cons.1 ((member other).2 listed) with rfl | later
    · exact (or_self_iff.1 (Std.Total.total other other))
    · exact (List.pairwise_cons.1 sorted).1 other later

theorem head_insertionSort_eq_none {l : List α} : (l.insertionSort r).head? = none ↔ l = [] := by
  rw [List.head?_eq_none_iff, ← List.length_eq_zero_iff, List.length_insertionSort,
    List.length_eq_zero_iff]

section Sorting

/-- A comparison that puts the different entries of a list in a strict order. -/
structure Ranks (rank : α → α → Ordering) (list : List α) : Prop where
  swap : ∀ a ∈ list, ∀ b ∈ list, a ≠ b → rank b a = (rank a b).swap
  apart : ∀ a ∈ list, ∀ b ∈ list, a ≠ b → rank a b ≠ .eq
  trans : ∀ a ∈ list, ∀ b ∈ list, ∀ c ∈ list, a ≠ b → b ≠ c → rank a b = .lt → rank b c = .lt → rank a c = .lt

theorem mergeSort_congr {le le' : α → α → Bool} :
    ∀ {list : List α}, (list.Pairwise fun a b => le a b = le' a b) → list.mergeSort le = list.mergeSort le'
  | [], _ => by simp
  | [_], _ => by simp
  | first :: second :: rest, agree => by
    have parts := agree
    rw [← List.take_append_drop (((first :: second :: rest).length + 1) / 2) (first :: second :: rest),
      List.pairwise_append] at parts
    have left := mergeSort_congr parts.1
    have right := mergeSort_congr parts.2.1
    simp only [List.mergeSort, List.MergeSort.Internal.splitInTwo_fst, List.MergeSort.Internal.splitInTwo_snd]
    rw [left, right]
    have same : ∀ left right : List α, (∀ a ∈ left, ∀ b ∈ right, le a b = le' a b) →
        left.merge right le = left.merge right le' := by
      intro left right agree
      simpa only [List.map_id, id_eq] using List.map_merge (f := id) agree
    exact same _ _ fun a inLeft b inRight => parts.2.2 a (List.mem_mergeSort.1 inLeft) b (List.mem_mergeSort.1 inRight)
  termination_by list => list.length
  decreasing_by all_goals simp; omega

variable {rank : α → α → Ordering} {list list' : List α}

theorem Ranks.of_subset (ranks : Ranks rank list) (within : ∀ a ∈ list', a ∈ list) : Ranks rank list' :=
  ⟨fun a ha b hb => ranks.swap a (within a ha) b (within b hb),
    fun a ha b hb => ranks.apart a (within a ha) b (within b hb),
    fun a ha b hb c hc => ranks.trans a (within a ha) b (within b hb) c (within c hc)⟩

theorem Ranks.pairwise (ranks : Ranks rank list) (distinct : list.Nodup) :
    (list.mergeSort fun a b => rank a b ≠ .gt).Pairwise fun a b => a = b ∨ rank a b ≠ .gt := by
  classical
  let le : α → α → Bool := fun a b => a = b ∨ rank a b ≠ .gt
  have agree : list.Pairwise fun a b => decide (rank a b ≠ .gt) = le a b := by
    refine distinct.imp fun {a b} differ => ?_
    simp [le, differ]
  have restricted : (list.attach.mergeSort fun a b => le a.val b.val).map Subtype.val =
      (list.attach.map Subtype.val).mergeSort le := List.map_mergeSort fun a _ b _ => rfl
  rw [List.attach_map_subtype_val] at restricted
  rw [mergeSort_congr agree, ← restricted, List.pairwise_map]
  have sorted : (list.attach.mergeSort fun a b => le a.val b.val).Pairwise
      fun a b => le a.val b.val = true := by
    refine List.pairwise_mergeSort (fun a b c ab bc => ?_) (fun a b => ?_) _
    · by_cases one : a.val = b.val
      · simpa [le, one] using bc
      by_cases two : b.val = c.val
      · simpa [le, two] using ab
      by_cases three : a.val = c.val
      · simp [le, three]
      have first : rank a.val b.val = .lt := by
        have apart := ranks.apart a.val a.property b.val b.property one
        have notAfter : rank a.val b.val ≠ .gt := by simpa [le, one] using ab
        cases found : rank a.val b.val <;> simp_all
      have second : rank b.val c.val = .lt := by
        have apart := ranks.apart b.val b.property c.val c.property two
        have notAfter : rank b.val c.val ≠ .gt := by simpa [le, two] using bc
        cases found : rank b.val c.val <;> simp_all
      have both := ranks.trans a.val a.property b.val b.property c.val c.property one two first second
      simp [le, both]
    · by_cases same : a.val = b.val
      · simp [le, same]
      · have swap := ranks.swap a.val a.property b.val b.property same
        cases found : rank a.val b.val <;> simp [le, same, found, swap]
  exact sorted.imp fun {a b} before => by simpa [le] using before

/-- A list is cut in one place only into entries that have a property and entries that do not. -/
theorem append_inj_of (p : α → Bool) {front back front' back' : List α} (same : front ++ back = front' ++ back')
    (has : ∀ a ∈ front, p a) (lacks : ∀ a ∈ back, ¬ p a) (has' : ∀ a ∈ front', p a) (lacks' : ∀ a ∈ back', ¬ p a) :
    front = front' ∧ back = back' := by
  have cut {front back : List α} (has : ∀ a ∈ front, p a) (lacks : ∀ a ∈ back, ¬ p a) :
      (front ++ back).filter p = front := by
    rw [List.filter_append, List.filter_eq_self.2 has, List.filter_eq_nil_iff.2 lacks, List.append_nil]
  have fronts : front = front' := by rw [← cut has lacks, same, cut has' lacks']
  exact ⟨fronts, List.append_cancel_left (fronts ▸ same)⟩

theorem mergeSort_filter {le : α → α → Bool} (trans : ∀ a b c, le a b → le b c → le a c) (total : ∀ a b, le a b || le b a)
    (keeps : α → Bool) (list : List α) : (list.filter keeps).mergeSort le = (list.mergeSort le).filter keeps := by
  induction list with
  | nil => simp
  | cons a list ih =>
    obtain ⟨front, back, sorted, others, before⟩ := List.mergeSort_cons trans total a list
    have rest : (list.filter keeps).mergeSort le = front.filter keeps ++ back.filter keeps := by
      rw [ih, others, List.filter_append]
    by_cases kept : keeps a = true
    · obtain ⟨front', back', sorted', others', before'⟩ := List.mergeSort_cons trans total a (list.filter keeps)
      -- Both places of the entry are where the ones begin that it does not come after.
      have after : ∀ b ∈ back, le a b := by
        have pairwise : (front ++ a :: back).Pairwise fun a b => le a b := sorted ▸ List.pairwise_mergeSort trans total _
        exact (List.pairwise_cons.1 (List.pairwise_append.1 pairwise).2.1).1
      have after' : ∀ b ∈ back', le a b := by
        have pairwise : (front' ++ a :: back').Pairwise fun a b => le a b := sorted' ▸ List.pairwise_mergeSort trans total _
        exact (List.pairwise_cons.1 (List.pairwise_append.1 pairwise).2.1).1
      have same : front' ++ back' = front.filter keeps ++ back.filter keeps := others'.symm.trans rest
      obtain ⟨rfl, rfl⟩ := append_inj_of (fun b => !le a b) same before' (fun b member => by simp [after' b member])
        (fun b member => before b (List.mem_filter.1 member).1) fun b member => by simp [after b (List.mem_filter.1 member).1]
      rw [List.filter_cons_of_pos kept, sorted', sorted, List.filter_append, List.filter_cons_of_pos kept]
    · rw [List.filter_cons_of_neg kept, rest, sorted, List.filter_append, List.filter_cons_of_neg kept]

/-- Where a comparison is an order on the entries, their order in the list does not matter. -/
theorem Ranks.mergeSort_perm_eq (ranks : Ranks rank list) (distinct : list.Nodup) (perm : list.Perm list') :
    (list.mergeSort fun a b => rank a b ≠ .gt) = list'.mergeSort fun a b => rank a b ≠ .gt := by
  have ranks' := ranks.of_subset fun a (member : a ∈ list') => perm.mem_iff.2 member
  refine List.Perm.eq_of_pairwise (fun a b one two before after => ?_) (ranks.pairwise distinct)
    (ranks'.pairwise (perm.nodup_iff.1 distinct))
    ((List.mergeSort_perm list _).trans (perm.trans (List.mergeSort_perm list' _).symm))
  by_contra differ
  have inList := List.mem_mergeSort.1 one
  have inList' := perm.mem_iff.2 (List.mem_mergeSort.1 two)
  have swap := ranks.swap a inList b inList' differ
  have apart := ranks.apart a inList b inList' differ
  have notAfter : rank a b ≠ .gt := before.resolve_left differ
  have notBefore : rank b a ≠ .gt := after.resolve_left (Ne.symm differ)
  cases found : rank a b <;> simp_all

theorem Ranks.along {β : Type} {rank' : β → β → Ordering} {things : List β} (of : β → α → Prop)
    (ranks : Ranks rank list) (has : ∀ thing ∈ things, ∃ entry ∈ list, of thing entry)
    (agree : ∀ thing ∈ things, ∀ thing' ∈ things, thing ≠ thing' → ∀ entry entry', of thing entry →
      of thing' entry' → entry ≠ entry' ∧ rank' thing thing' = rank entry entry') : Ranks rank' things := by
  constructor
  · intro a ha b hb differ
    obtain ⟨x, hx, ofX⟩ := has a ha
    obtain ⟨y, hy, ofY⟩ := has b hb
    obtain ⟨apart, is⟩ := agree a ha b hb differ x y ofX ofY
    rw [is, (agree b hb a ha (Ne.symm differ) y x ofY ofX).2]
    exact ranks.swap x hx y hy apart
  · intro a ha b hb differ
    obtain ⟨x, hx, ofX⟩ := has a ha
    obtain ⟨y, hy, ofY⟩ := has b hb
    obtain ⟨apart, is⟩ := agree a ha b hb differ x y ofX ofY
    rw [is]
    exact ranks.apart x hx y hy apart
  · intro a ha b hb c hc ab bc first second
    obtain ⟨x, hx, ofX⟩ := has a ha
    obtain ⟨y, hy, ofY⟩ := has b hb
    obtain ⟨z, hz, ofZ⟩ := has c hc
    obtain ⟨xy, isXY⟩ := agree a ha b hb ab x y ofX ofY
    obtain ⟨yz, isYZ⟩ := agree b hb c hc bc y z ofY ofZ
    rw [isXY] at first
    rw [isYZ] at second
    have both := ranks.trans x hx y hy z hz xy yz first second
    by_cases same : a = c
    · subst same
      have back := ranks.swap x hx y hy xy
      rw [first] at back
      rw [← (agree b hb a ha (Ne.symm ab) y x ofY ofX).2, isYZ, second] at back
      cases back
    · rwa [(agree a ha c hc same x z ofX ofZ).2]

end Sorting

end Interrupted
