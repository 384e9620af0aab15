import MaterialEmail.Library.Utf8

/-! Folded lines: the physical lines of a line continue its first one, give it back without the blanks in
front of them, and are no longer than the limit. -/
namespace ContentLine

open JsString Utf8

section Lengths

/-- The bytes of a code point, whose first one says how many there are. -/
theorem length_utf8 (point : Nat) :
    (Uri.utf8 point).length = if point < 0x80 then 1 else if point < 0x800 then 2 else if point < 0x10000 then 3 else 4 := by
  unfold Uri.utf8
  split
  · rfl
  · split
    · rfl
    · split <;> rfl

theorem unitBytes_eq (unit : UInt16) : unitBytes unit = (unitUtf8 unit).length := by
  have below : unit.toNat < 0x10000 := unit.toNat_lt
  unfold unitBytes unitUtf8
  simp only [UInt16.lt_iff_toNat_lt, UInt16.reduceToNat]
  split
  · rename_i small
    rw [← unitUtf8, unitUtf8_of_small small]
    rfl
  · split
    · rename_i large small
      have plain : (isHighSurrogate unit || isLowSurrogate unit) = false := by
        simp only [isHighSurrogate, isLowSurrogate, Bool.or_eq_false_iff, Bool.and_eq_false_iff,
          decide_eq_false_iff_not, UInt16.le_iff_toNat_le, UInt16.reduceToNat]
        omega
      simp [plain, length_utf8, large, small]
    · rename_i large small
      split
      · rfl
      · simp [length_utf8, large, small, below]

theorem byteLength_eq (text : JsString) : byteLength text = (utf8Bytes text).length := by
  induction text using byteLength.induct with
  | case1 high low rest isPair ih =>
    have four : (Uri.utf8 (Uri.pairPoint high low)).length = 4 := by
      have large : 0x10000 ≤ Uri.pairPoint high low := by
        unfold Uri.pairPoint
        omega
      rw [length_utf8, if_neg (by omega), if_neg (by omega), if_neg (by omega)]
    simp [byteLength, utf8Bytes, isPair, ih, four]
  | case2 high low rest single ih => simp [byteLength, utf8Bytes, single, ih, unitBytes_eq]
  | case3 unit => simp [byteLength, utf8Bytes, unitBytes_eq]
  | case4 => rfl

theorem byteLength_character {text point : JsString} (member : point ∈ characters text) : byteLength point ≤ 4 := by
  have unit (unit : UInt16) : unitBytes unit ≤ 3 := by
    unfold unitBytes
    split
    · omega
    · split <;> omega
  rcases mem_characters member with ⟨single, rfl⟩ | whole
  · have := unit single
    simp only [byteLength]
    omega
  · cases whole with
    | unit single high low =>
      have := unit single
      simp only [byteLength]
      omega
    | pair high low isHigh isLow => simp [byteLength, isHigh, isLow]

theorem character_ne_nil {text point : JsString} (member : point ∈ characters text) : point ≠ [] := by
  rcases mem_characters member with ⟨single, rfl⟩ | whole
  · simp
  · cases whole with
    | unit => simp
    | pair => simp

end Lengths

section Folds

variable {limit : Nat} {current : JsString} {points : List JsString}

/-- What folding gives: physical lines that continue the first one and give the text back. -/
theorem foldFrom_spec : ∃ folded : Folded, foldFrom limit current points = folded.first :: folded.continuations ∧
    (∃ rest, folded.first = current ++ rest) ∧ folded.whole = current ++ points.flatten ∧
    ∀ line ∈ folded.continuations, startsWithBlank line = true := by
  induction points generalizing current with
  | nil => exact ⟨⟨current, []⟩, by simp [foldFrom, Folded.whole]⟩
  | cons point points ih =>
    unfold foldFrom
    split
    · obtain ⟨folded, lines, ⟨rest, first⟩, whole, blank⟩ := @ih (32 :: point)
      refine ⟨⟨current, folded.first :: folded.continuations⟩, by rw [lines], ⟨[], by simp⟩, ?_, ?_⟩
      · -- The first of the further lines loses the blank that was put in front of the point.
        have tail : folded.first.tail ++ folded.continuations.flatMap List.tail = point ++ points.flatten := by
          have same : folded.first ++ folded.continuations.flatMap List.tail = 32 :: point ++ points.flatten := whole
          rw [first] at same ⊢
          simpa using same
        simp [Folded.whole, tail]
      · intro line member
        rcases List.mem_cons.1 member with rfl | later
        · simp [first, startsWithBlank]
        · exact blank line later
    · obtain ⟨folded, lines, ⟨rest, first⟩, whole, blank⟩ := @ih (current ++ point)
      exact ⟨folded, lines, ⟨point ++ rest, by simp [first]⟩, by simp [whole], blank⟩

/-- No physical line is longer than the limit where each character has its place on a line of its own. -/
theorem foldFrom_bounded (start : byteLength current ≤ limit)
    (fits : ∀ point ∈ points, byteLength (32 :: point) ≤ limit) :
    ∀ line ∈ foldFrom limit current points, byteLength line ≤ limit := by
  induction points generalizing current with
  | nil => simpa [foldFrom] using start
  | cons point points ih =>
    have later : ∀ other ∈ points, byteLength (32 :: other) ≤ limit :=
      fun other member => fits other (List.mem_cons_of_mem _ member)
    unfold foldFrom
    split
    · have tail := ih (fits point List.mem_cons_self) later
      simpa [start] using tail
    · rename_i short
      exact ih (Nat.le_of_not_lt short) later

theorem byteLength_blank (text : JsString) : byteLength (32 :: text) = 1 + byteLength text := by
  rw [byteLength_eq, byteLength_eq, utf8Bytes_cons (by decide), List.length_cons]
  omega

/-- A line in physical lines of at most `limit` bytes. -/
def folded (limit : Nat) (text : JsString) : Folded :=
  ⟨(foldFrom limit [] (characters text)).headD [], (foldFrom limit [] (characters text)).tail⟩

theorem foldFrom_characters (limit : Nat) (text : JsString) :
    foldFrom limit [] (characters text) = (folded limit text).first :: (folded limit text).continuations := by
  obtain ⟨lines, isFolded, -⟩ := @foldFrom_spec limit [] (characters text)
  simp [folded, isFolded]

/-- A line and its physical lines: the first one begins as the line does, and only blanks are added. -/
structure FoldsTo (text : JsString) (folded : Folded) : Prop where
  whole : folded.whole = text
  first : folded.first.head? = text.head?
  continuations : ∀ line ∈ folded.continuations, startsWithBlank line = true
  /-- An empty line has no continuations. -/
  continued : text = [] → folded.continuations = []

theorem foldsTo_folded (wide : 5 ≤ limit) (text : JsString) : FoldsTo text (folded limit text) := by
  have flat := flatten_characters text
  obtain ⟨lines, isFolded, -, whole, blank⟩ := @foldFrom_spec limit [] (characters text)
  have same : folded limit text = lines := by simp [folded, isFolded]
  rw [same]
  refine ⟨by simp [whole, flat], ?_, blank, ?_⟩
  · cases isText : characters text with
    | nil =>
      rw [isText, foldFrom, List.cons.injEq] at isFolded
      rw [isText] at flat
      simp [← isFolded.1, ← flat]
    | cons point points =>
      have member : point ∈ characters text := isText ▸ List.mem_cons_self
      have short := byteLength_character member
      have fits : ¬ limit < byteLength ([] ++ point) := by
        simp only [List.nil_append]
        omega
      obtain ⟨unit, units, rfl⟩ := List.exists_cons_of_ne_nil (character_ne_nil member)
      obtain ⟨lines', isFolded', ⟨rest, first⟩, -⟩ := @foldFrom_spec limit (unit :: units) points
      rw [isText, foldFrom, if_neg fits, List.nil_append, isFolded', List.cons.injEq] at isFolded
      rw [isText] at flat
      simp [← isFolded.1, first, ← flat]
  · rintro rfl
    rw [characters, foldFrom, List.cons.injEq] at isFolded
    exact isFolded.2.symm

theorem foldFrom_characters_bounded (wide : 5 ≤ limit) (text : JsString) :
    ∀ line ∈ foldFrom limit [] (characters text), (utf8Bytes line).length ≤ limit := by
  intro line member
  rw [← byteLength_eq]
  refine foldFrom_bounded (by simp [byteLength]) (fun point isPoint => ?_) line member
  have short := byteLength_character isPoint
  rw [byteLength_blank]
  omega

end Folds

section Lines

variable {lines : List JsString}

theorem unifyNewlines_oneLine {text : JsString} (oneLine : OneLine text) : unifyNewlines text = text := by
  induction text with
  | nil => rfl
  | cons unit rest ih =>
    simp only [oneLine_cons] at oneLine
    have tail := ih oneLine.2
    rw [unifyNewlines, tail, if_neg oneLine.1.2]
    intro others isBreak
    exact absurd isBreak oneLine.1.2

theorem normalizedLines_joined (nonempty : lines ≠ []) (oneLine : ∀ line ∈ lines, OneLine line) :
    normalizedLines (lines.intersperse [13, 10]).flatten = lines := by
  induction lines with
  | nil => exact absurd rfl nonempty
  | cons line rest ih =>
    have head := oneLine line List.mem_cons_self
    have unbroken : 10 ∉ line := fun member => (head 10 member).1 rfl
    cases rest with
    | nil =>
      simp [normalizedLines, unifyNewlines_oneLine head, List.splitOn_eq_singleton unbroken]
    | cons next others =>
      have tail := ih (by simp) fun other member => oneLine other (List.mem_cons_of_mem _ member)
      have written : ((line :: next :: others).intersperse [13, 10]).flatten =
          line ++ 13 :: 10 :: ((next :: others).intersperse [13, 10]).flatten := by simp
      unfold normalizedLines at tail ⊢
      rw [written, unifyNewlines_line head, List.splitOn_append_cons_self_of_not_mem unbroken, tail]

theorem flatten_joined {groups : List (List JsString)} {separator : JsString} (nonempty : ∀ group ∈ groups, group ≠ []) :
    ((groups.map fun group => (group.intersperse separator).flatten).intersperse separator).flatten =
      (groups.flatten.intersperse separator).flatten := by
  have append (front back : List JsString) (some : front ≠ []) (more : back ≠ []) :
      ((front ++ back).intersperse separator).flatten =
        (front.intersperse separator).flatten ++ separator ++ (back.intersperse separator).flatten := by
    induction front with
    | nil => exact absurd rfl some
    | cons line rest ih =>
      cases rest with
      | nil =>
        obtain ⟨next, others, rfl⟩ := List.exists_cons_of_ne_nil more
        simp
      | cons next others =>
        have tail := ih (by simp)
        simp only [List.cons_append, List.intersperse_cons_cons, List.flatten_cons] at tail ⊢
        simp [tail]
  induction groups with
  | nil => rfl
  | cons group groups ih =>
    have head := nonempty group List.mem_cons_self
    have tail := ih fun other member => nonempty other (List.mem_cons_of_mem _ member)
    cases groups with
    | nil => simp
    | cons next others =>
      obtain ⟨line, rest, isNext⟩ := List.exists_cons_of_ne_nil (nonempty next (by simp))
      have more : (next :: others).flatten ≠ [] := by simp [isNext]
      rw [List.flatten_cons, append group _ head more, ← tail]
      simp

end Lines

end ContentLine
