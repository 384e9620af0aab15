import Mathlib.Data.List.DropRight

/-! The end of a list: what stands behind the last of the elements that part it. -/
namespace LastPart

variable {α β : Type} {p : α → Bool} {list front back : List α}

theorem rdropWhile_append (left : back.rdropWhile p ≠ []) :
    (front ++ back).rdropWhile p = front ++ back.rdropWhile p := by
  have open_ : (back.reverse.dropWhile p).isEmpty = false := by
    rw [List.isEmpty_eq_false_iff]
    intro empty
    exact left (by rw [List.rdropWhile, empty, List.reverse_nil])
  rw [List.rdropWhile, List.reverse_append, List.dropWhile_append, open_]
  simp [List.rdropWhile]

theorem rtakeWhile_append (stops : ∃ x ∈ back, p x = false) : (front ++ back).rtakeWhile p = back.rtakeWhile p := by
  obtain ⟨x, member, stop⟩ := stops
  have short : (back.reverse.takeWhile p).length ≠ back.reverse.length := by
    intro same
    have whole := (List.takeWhile_prefix p).eq_of_length same
    have passes := List.takeWhile_eq_self_iff.1 whole x (List.mem_reverse.2 member)
    rw [stop] at passes
    cases passes
  rw [List.rtakeWhile, List.reverse_append, List.takeWhile_append, if_neg short, List.rtakeWhile]

theorem rtakeWhile_append_of_all (all : ∀ x ∈ back, p x = true) :
    (front ++ back).rtakeWhile p = front.rtakeWhile p ++ back := by
  rw [List.rtakeWhile, List.reverse_append, List.takeWhile_append_of_pos, List.reverse_append, List.reverse_reverse,
    List.rtakeWhile]
  exact fun x member => all x (List.mem_reverse.1 member)

theorem getLast?_of_suffix (suffix : back <:+ list) {last : α} (isLast : last ∈ back.getLast?) : last ∈ list.getLast? := by
  obtain ⟨front, rfl⟩ := suffix
  simp [List.getLast?_append, Option.mem_def.1 isLast]

/-- Nothing is dropped from the end of a list whose last element stays. -/
theorem rdropWhile_of_suffix (suffix : back <:+ list) (closed : ∀ last ∈ list.getLast?, p last = false) :
    back.rdropWhile p = back := by
  rw [List.rdropWhile_eq_self_iff]
  intro nonempty
  have isLast := getLast?_of_suffix suffix (List.getLast?_eq_some_getLast nonempty)
  simp [closed _ isLast]

/-- The last part of a list ends with that of its end. -/
theorem rtakeWhile_suffix (suffix : back <:+ list) : back.rtakeWhile p <:+ list.rtakeWhile p := by
  obtain ⟨front, rfl⟩ := suffix
  by_cases stops : ∃ x ∈ back, p x = false
  · simp [rtakeWhile_append stops]
  · have all : ∀ x ∈ back, p x = true := fun x member => by
      by_contra stop
      exact stops ⟨x, member, by simpa using stop⟩
    rw [rtakeWhile_append_of_all all, List.rtakeWhile_eq_self_iff.2 all]
    exact List.suffix_append _ _

theorem map_rdropWhile {f : α → β} {q : β → Bool} : (list.map f).rdropWhile q = (list.rdropWhile (q ∘ f)).map f := by
  rw [List.rdropWhile, ← List.map_reverse, List.dropWhile_map, ← List.map_reverse, List.rdropWhile]

theorem map_rtakeWhile {f : α → β} {q : β → Bool} : (list.map f).rtakeWhile q = (list.rtakeWhile (q ∘ f)).map f := by
  rw [List.rtakeWhile, ← List.map_reverse, List.takeWhile_map, ← List.map_reverse, List.rtakeWhile]

/-- What stands behind the last separator is the last part. -/
theorem getLast?_splitOnP (list : List α) :
    (list.splitOnP p).getLast? = some (list.rtakeWhile fun x => !p x) := by
  have whole : (list.rdropWhile fun x => !p x) ++ (list.rtakeWhile fun x => !p x) = list :=
    List.rdropWhile_append_rtakeWhile
  have clean : ∀ x ∈ list.rtakeWhile fun x => !p x, p x = false := fun x member => by
    simpa using List.mem_rtakeWhile_imp member
  by_cases parted : (list.rdropWhile fun x => !p x) = []
  · rw [parted, List.nil_append] at whole
    rw [whole] at clean ⊢
    rw [List.splitOnP_eq_singleton clean, List.getLast?_singleton]
  · have separates : p ((list.rdropWhile fun x => !p x).getLast parted) = true := by
      simpa using List.rdropWhile_last_not (fun x => !p x) list parted
    have split : list = (list.rdropWhile fun x => !p x).dropLast ++
        (list.rdropWhile fun x => !p x).getLast parted :: list.rtakeWhile fun x => !p x := by
      rw [List.append_cons, List.dropLast_append_getLast, whole]
    rw [congrArg (List.splitOnP p) split, List.splitOnP_append_cons _ _ separates, List.splitOnP_eq_singleton clean,
      List.getLast?_append, List.getLast?_singleton]
    rfl

end LastPart
