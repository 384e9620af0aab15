import MaterialEmail.Library.LineFolding
import MaterialEmail.Pim.Components
import MaterialEmail.Pim.VCard
import Mathlib.Data.List.Infix

/-! Folded lines are unfolded to what they were. What begins a document with a byte order mark loses it, and
in iCalendar documents empty lines are none. -/
namespace Pim

open JsString ContentLine Utf8

/-- Lines that are folded, one after another. -/
def foldedLines (fold : JsString → List JsString) (lines : List JsString) : JsString :=
  joinLines (lines.map fun line => joinLines (fold line))

/-- A line that can stand in a document: it has no line break and continues nothing. -/
structure IsLogical (line : JsString) : Prop where
  oneLine : OneLine line
  unblank : startsWithBlank line = false

instance (line : JsString) : Decidable (IsLogical line) :=
  decidable_of_iff (OneLine line ∧ startsWithBlank line = false)
    ⟨fun ⟨oneLine, unblank⟩ => ⟨oneLine, unblank⟩, fun ⟨oneLine, unblank⟩ => ⟨oneLine, unblank⟩⟩

section Documents

variable {line : JsString} {lines others : List JsString}

theorem foldsTo (line : JsString) : FoldsTo line (folded 75 line) := foldsTo_folded (by decide) line

theorem foldLine_eq (line : JsString) : foldLine line = (folded 75 line).first :: (folded 75 line).continuations :=
  foldFrom_characters 75 line

theorem folded_oneLine (logical : IsLogical line) : ∀ physical ∈ foldLine line, OneLine physical :=
  foldFrom_oneLine oneLine_nil (by simpa [flatten_characters] using logical.oneLine)

theorem startsWithBlank_head (front back : JsString) (same : front.head? = back.head?) :
    startsWithBlank front = startsWithBlank back := by
  cases front with
  | nil =>
    cases back with
    | nil => rfl
    | cons unit rest => simp at same
  | cons unit rest =>
    cases back with
    | nil => simp at same
    | cons unit' rest' =>
      obtain rfl : unit = unit' := by simpa using same
      rfl

theorem folded_wellFormed (logical : IsLogical line) : Folded.WellFormed (folded 75 line) where
  first := by rw [startsWithBlank_head _ _ (foldsTo line).first, logical.unblank]
  continuations := (foldsTo line).continuations

theorem foldedLines_eq (lines : List JsString) : foldedLines foldLine lines = joinLines (lines.flatMap foldLine) := by
  have nonempty : ∀ physical ∈ lines.map foldLine, physical ≠ [] := by
    intro physical member
    obtain ⟨line, -, rfl⟩ := List.mem_map.1 member
    exact foldFrom_ne_nil
  have joined := @flatten_joined (lines.map foldLine) [13, 10] nonempty
  simpa [foldedLines, joinLines, List.flatMap, Function.comp_def] using joined

theorem normalizedLines_foldedLines (logical : ∀ other ∈ line :: others, IsLogical other) :
    normalizedLines (foldedLines foldLine (line :: others)) = (line :: others).flatMap foldLine := by
  rw [foldedLines_eq]
  apply normalizedLines_joined
  · simp [foldLine_eq]
  · intro physical member
    obtain ⟨other, isIn, isPhysical⟩ := List.mem_flatMap.1 member
    exact folded_oneLine (logical other isIn) physical isPhysical

theorem joinLines_head (rest : List JsString) :
    (joinLines (line :: rest)).head? = line.head?.or (if rest = [] then none else some 13) := by
  cases rest with
  | nil => cases line <;> simp [joinLines]
  | cons next others => cases line <;> simp [joinLines]

theorem dropByteOrderMark_foldedLines (unmarked : line.head? ≠ some 0xFEFF) :
    dropByteOrderMark (foldedLines foldLine (line :: others)) = foldedLines foldLine (line :: others) := by
  apply dropByteOrderMark_of_head
  rw [foldedLines_eq, List.flatMap_cons, foldLine_eq, List.cons_append, joinLines_head, (foldsTo line).first]
  cases line with
  | nil => split <;> simp
  | cons unit rest => simpa using unmarked

end Documents

section Calendars

variable {line : JsString} {lines others : List JsString}

/-- Lines without a byte order mark in front are unfolded to what they were; empty ones are left out. -/
theorem unfold_foldedLines (logical : ∀ other ∈ line :: others, IsLogical other) (unmarked : line.head? ≠ some 0xFEFF) :
    unfold (foldedLines foldLine (line :: others)) = .ok ((line :: others).filter (· ≠ [])) := by
  have formed : ∀ group ∈ (line :: others).map (folded 75), Folded.WellFormed group := by
    intro group member
    obtain ⟨other, isIn, rfl⟩ := List.mem_map.1 member
    exact folded_wellFormed (logical other isIn)
  have empty (other : JsString) : (folded 75 other).first = [] ↔ other = [] := by
    have first := (foldsTo other).first
    cases other <;> cases isFirst : (folded 75 _).first <;> simp_all
  have unbroken : ∀ group ∈ (line :: others).map (folded 75), group.first = [] → group.continuations = [] := by
    intro group member nothing
    obtain ⟨other, -, rfl⟩ := List.mem_map.1 member
    exact (foldsTo other).continued ((empty other).1 nothing)
  have physical : (line :: others).flatMap foldLine =
      ((line :: others).map (folded 75)).flatMap fun group => group.first :: group.continuations := by
    rw [List.flatMap_map]
    exact List.flatMap_congr fun other _ => foldLine_eq other
  have whole (lines : List JsString) :
      ((lines.map (folded 75)).filter (·.first ≠ [])).map Folded.whole = lines.filter (· ≠ []) := by
    simp [List.filter_map, Function.comp_def, empty, (foldsTo _).whole]
  unfold unfold
  rw [dropByteOrderMark_foldedLines unmarked, normalizedLines_foldedLines logical, physical,
    unfold_groups formed unbroken, whole, List.nil_append]

end Calendars

section Cards

variable {line front back : JsString} {physical others : List JsString}

theorem afterPrefix_append {start : String} {rest : JsString} (after : VCard.afterPrefix start front = some rest) :
    VCard.afterPrefix start (front ++ back) = some (rest ++ back) := by
  unfold VCard.afterPrefix at after ⊢
  split at after
  · rename_i same
    have long : start.length ≤ front.length := by
      have length := congrArg List.length same
      simp only [List.length_map, List.length_take, ofString, String.length_toList] at length
      omega
    rw [List.take_append_of_le_length long, if_pos same, List.drop_append_of_le_length long]
    simpa using after
  · cases after

theorem isQuotedPrintable_append (declared : VCard.isQuotedPrintable front = true) :
    VCard.isQuotedPrintable (front ++ back) = true := by
  unfold VCard.isQuotedPrintable at declared ⊢
  simp only [List.any_eq_true, List.mem_tails, Option.any_eq_true] at declared ⊢
  obtain ⟨tail, ⟨start, whole⟩, rest, after, ends⟩ := declared
  refine ⟨tail ++ back, ⟨start, by rw [← List.append_assoc, whole, List.cons_append]⟩, rest ++ back,
    afterPrefix_append after, ?_⟩
  cases rest with
  | nil => simp at ends
  | cons unit others => simpa using ends

/-- Continuations go to the end of a line that stays without a declaration of quoted-printable text. -/
theorem unfoldCard_continuations (blank : ∀ next ∈ physical, startsWithBlank next = true)
    (plain : VCard.isQuotedPrintable (line ++ physical.flatMap List.tail) = false) :
    physical.foldl VCard.unfoldLine [line] = [line ++ physical.flatMap List.tail] := by
  induction physical generalizing line with
  | nil => simp
  | cons next rest ih =>
    have isBlank := blank next List.mem_cons_self
    have start : VCard.isQuotedPrintable line = false := by
      rw [Bool.eq_false_iff]
      intro declared
      rw [isQuotedPrintable_append declared] at plain
      cases plain
    have step : VCard.unfoldLine [line] next = [line ++ next.tail] := by simp [VCard.unfoldLine, start, isBlank]
    rw [List.flatMap_cons, ← List.append_assoc] at plain ⊢
    rw [List.foldl_cons, step]
    exact ih (fun other member => blank other (List.mem_cons_of_mem _ member)) plain

theorem unfoldCard_front (logical : List JsString) (nonempty : logical ≠ []) :
    physical.foldl VCard.unfoldLine (line :: logical) = line :: physical.foldl VCard.unfoldLine logical := by
  induction physical generalizing logical with
  | nil => rfl
  | cons next rest ih =>
    obtain ⟨start, last, rfl⟩ := List.eq_nil_or_concat logical |>.resolve_left nonempty
    have step : VCard.unfoldLine (line :: (start ++ [last])) next = line :: VCard.unfoldLine (start ++ [last]) next := by
      have front : line :: (start ++ [last]) = (line :: start) ++ [last] := rfl
      unfold VCard.unfoldLine
      rw [front, List.getLast?_concat, List.getLast?_concat, List.dropLast_concat, List.dropLast_concat]
      simp only
      split
      · rfl
      · split <;> rfl
    have more : VCard.unfoldLine (start ++ [last]) next ≠ [] := by
      unfold VCard.unfoldLine
      simp only [List.getLast?_concat]
      split
      · simp
      · split <;> simp
    rw [List.concat_eq_append, List.foldl_cons, step, ih _ more, List.foldl_cons]

/-- A line that declares no quoted-printable text ends where the next one begins. -/
theorem unfoldCard_next (plain : VCard.isQuotedPrintable line = false)
    (begins : ∀ next ∈ physical.head?, startsWithBlank next = false) :
    physical.foldl VCard.unfoldLine [line] = line :: physical.foldl VCard.unfoldLine [] := by
  cases physical with
  | nil => rfl
  | cons next rest =>
    have unblank := begins next rfl
    have step : VCard.unfoldLine [line] next = line :: VCard.unfoldLine [] next := by
      simp [VCard.unfoldLine, plain, unblank]
    rw [List.foldl_cons, step, List.foldl_cons]
    exact unfoldCard_front _ (by simp [VCard.unfoldLine])

theorem unfoldCard_line (plain : VCard.isQuotedPrintable line = false)
    (begins : ∀ next ∈ physical.head?, startsWithBlank next = false) :
    (foldLine line ++ physical).foldl VCard.unfoldLine [] = line :: physical.foldl VCard.unfoldLine [] := by
  have whole := (foldsTo line).whole
  unfold Folded.whole at whole
  have gathered : (foldLine line).foldl VCard.unfoldLine [] = [line] := by
    rw [foldLine_eq, List.foldl_cons]
    have started := @unfoldCard_continuations (folded 75 line).first _ (foldsTo line).continuations (by rw [whole, plain])
    rw [whole] at started
    exact started
  rw [List.foldl_append, gathered, unfoldCard_next plain begins]

theorem foldedLines_begin (logical : ∀ other ∈ others, IsLogical other) :
    ∀ next ∈ (others.flatMap foldLine).head?, startsWithBlank next = false := by
  cases others with
  | nil => simp
  | cons other rest =>
    have first := (folded_wellFormed (logical other List.mem_cons_self)).first
    simpa [foldLine_eq] using first

/-- A line without quoted-printable text in front of others. -/
theorem unfoldCard_foldedLines (logical : ∀ other ∈ line :: others, IsLogical other) (unmarked : line.head? ≠ some 0xFEFF)
    (plain : VCard.isQuotedPrintable line = false) :
    VCard.unfold (foldedLines VCard.foldLine (line :: others)) =
      line :: (others.flatMap foldLine).foldl VCard.unfoldLine [] := by
  have read : VCard.unfold (foldedLines foldLine (line :: others)) =
      ((line :: others).flatMap foldLine).foldl VCard.unfoldLine [] := by
    unfold VCard.unfold
    rw [dropByteOrderMark_foldedLines unmarked, normalizedLines_foldedLines logical]
  change VCard.unfold (foldedLines foldLine (line :: others)) = _
  rw [read, List.flatMap_cons]
  exact unfoldCard_line plain (foldedLines_begin fun other member => logical other (List.mem_cons_of_mem _ member))

theorem unfoldCard_others (logical : ∀ other ∈ others, IsLogical other)
    (plain : ∀ other ∈ others, VCard.isQuotedPrintable other = false) :
    (others.flatMap foldLine).foldl VCard.unfoldLine [] = others := by
  induction others with
  | nil => rfl
  | cons other rest ih =>
    have later : ∀ next ∈ rest, IsLogical next := fun next member => logical next (List.mem_cons_of_mem _ member)
    rw [List.flatMap_cons, unfoldCard_line (plain other List.mem_cons_self) (foldedLines_begin later),
      ih later fun next member => plain next (List.mem_cons_of_mem _ member)]

end Cards

section Documents

variable {line : JsString} {others : List JsString}

/-- In both formats a folded line is unfolded to what it was, whatever lines follow it. An iCalendar document
drops empty lines, and both drop a byte order mark in front of the first one. -/
theorem folding_lossless (logical : ∀ other ∈ line :: others, IsLogical other) :
    (line ≠ [] ∧ line.head? ≠ some 0xFEFF →
      unfold (foldedLines foldLine (line :: others)) = .ok (line :: others.filter (· ≠ []))) ∧
    (VCard.isQuotedPrintable line = false ∧ line.head? ≠ some 0xFEFF →
      ∃ rest, VCard.unfold (foldedLines VCard.foldLine (line :: others)) = line :: rest ∧
        ((∀ other ∈ others, VCard.isQuotedPrintable other = false) → rest = others)) ∧
    ∀ physical ∈ foldLine line ++ VCard.foldLine line, (utf8Bytes physical).length ≤ 75 := by
  refine ⟨?_, ?_, ?_⟩
  · rintro ⟨nonempty, unmarked⟩
    have lines := unfold_foldedLines logical unmarked
    simpa [nonempty] using lines
  · rintro ⟨plain, unmarked⟩
    have later : ∀ other ∈ others, IsLogical other := fun other member => logical other (List.mem_cons_of_mem _ member)
    exact ⟨_, unfoldCard_foldedLines logical unmarked plain, unfoldCard_others later⟩
  · intro physical member
    have bounded := @foldFrom_characters_bounded 75 (by decide) line
    rcases List.mem_append.1 member with isPhysical | isPhysical
    · exact bounded physical isPhysical
    · exact bounded physical isPhysical

theorem longNote_lossless :
    unfold (foldedLines foldLine [ofString "NOTE:" ++ List.replicate 30 0x4E2D ++ ofString "  ", [], ofString "A:1"]) =
      .ok [ofString "NOTE:" ++ List.replicate 30 0x4E2D ++ ofString "  ", ofString "A:1"] :=
  (folding_lossless (by decide)).1 (by decide)

/-- A byte order mark in front of the first line is lost, and an empty line of an iCalendar document. -/
theorem markedLine_lost :
    (IsLogical (0xFEFF :: ofString "A:1") ∧ VCard.isQuotedPrintable (0xFEFF :: ofString "A:1") = false ∧
      unfold (foldedLines foldLine [0xFEFF :: ofString "A:1"]) ≠ .ok [0xFEFF :: ofString "A:1"] ∧
      VCard.unfold (foldedLines VCard.foldLine [0xFEFF :: ofString "A:1"]) ≠ [0xFEFF :: ofString "A:1"]) ∧
    IsLogical [] ∧ unfold (foldedLines foldLine [[]]) ≠ .ok [[]] := by
  decide

end Documents

end Pim
