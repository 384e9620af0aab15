import MaterialEmail.SearchPatterns.Catastrophe

/-! What two of the checks find in a pattern: a `*` or `+` in plain parentheses that are repeated, and two repeated
atoms beside each other. -/
namespace SearchPatterns

open JsString Regular

section Flat

/-- A unit that is no parenthesis, one after a backslash, or a text between brackets. -/
def GroupPiece (piece : JsString) : Prop :=
  (∃ unit, piece = [92, unit] ∧ isNoLineTerminator unit = true) ∨
    (∃ inside, piece = 91 :: (inside ++ [93]) ∧ 93 ∉ inside) ∨ ∃ unit, piece = [unit] ∧ unit ≠ 40 ∧ unit ≠ 41

/-- A text whose parentheses all stand after backslashes or between brackets. -/
def Flat (text : JsString) : Prop :=
  ∃ pieces : List JsString, text = pieces.flatten ∧ ∀ piece ∈ pieces, GroupPiece piece

def Digits (text : JsString) : Prop := ∀ unit ∈ text, isDigit unit = true

def Blank (text : JsString) : Prop := ∀ unit ∈ text, isWhiteSpace unit = true

/-- `*`, `+`, `{n}`, `{n,}` or `{n,m}`. -/
def Quantifier (text : JsString) : Prop :=
  text = [43] ∨ text = [42] ∨ ∃ digits upper, digits ≠ [] ∧ Digits digits ∧
    (upper = [] ∨ ∃ most, upper = 44 :: most ∧ Digits most) ∧ text = 123 :: (digits ++ upper ++ [125])

/-- A `*` or `+` within parentheses that hold no others, and a quantifier after them. -/
def FlatRepetition (pattern : JsString) : Prop :=
  ∃ before left mark right blanks quantifier after, Flat left ∧ (mark = 43 ∨ mark = 42) ∧ Flat right ∧ Blank blanks ∧
    Quantifier quantifier ∧
      pattern = before ++ 40 :: (left ++ mark :: (right ++ 41 :: (blanks ++ (quantifier ++ after))))

/-- `.*` or `.+`, and a quantifier after it. -/
def WildcardRepetition (pattern : JsString) : Prop :=
  ∃ before mark blanks quantifier after, (mark = 43 ∨ mark = 42) ∧ Blank blanks ∧ Quantifier quantifier ∧
    pattern = before ++ 46 :: mark :: (blanks ++ (quantifier ++ after))

variable {text : JsString}

theorem mem_oneOf {units : JsString} : text ∈ (oneOf units).language ↔ ∃ unit ∈ units, text = [unit] := by
  simp only [oneOf, mem_letter, decide_eq_true_eq]
  constructor
  · rintro ⟨unit, is, among⟩
    exact ⟨unit, among, is⟩
  · rintro ⟨unit, among, is⟩
    exact ⟨unit, is, among⟩

theorem mem_one {unit : UInt16} : text ∈ (oneOf [unit]).language ↔ text = [unit] := by simp [mem_oneOf]

theorem mem_marks : text ∈ (oneOf [43, 42]).language ↔ ∃ mark, (mark = 43 ∨ mark = 42) ∧ text = [mark] := by
  simp [mem_oneOf]

theorem mem_groupPiece : text ∈ groupPiece.language ↔ GroupPiece text := by
  simp only [groupPiece, mem_alt, mem_seq, mem_one, mem_letter, mem_star_letter, GroupPiece]
  refine or_congr ?_ (or_congr ?_ ?_)
  · constructor
    · rintro ⟨_, rfl, _, ⟨unit, rfl, accepted⟩, rfl⟩
      exact ⟨unit, rfl, accepted⟩
    · rintro ⟨unit, rfl, accepted⟩
      exact ⟨_, rfl, _, ⟨unit, rfl, accepted⟩, rfl⟩
  · constructor
    · rintro ⟨_, rfl, _, ⟨inside, open_, _, rfl, rfl⟩, rfl⟩
      refine ⟨inside, rfl, fun closes => ?_⟩
      simpa using open_ 93 closes
    · rintro ⟨inside, rfl, open_⟩
      refine ⟨_, rfl, _, ⟨inside, fun unit member => ?_, _, rfl, rfl⟩, rfl⟩
      simp only [decide_eq_true_eq]
      rintro rfl
      exact open_ member
  · simp

theorem mem_flat : text ∈ (star groupPiece).language ↔ Flat text := by
  simp only [mem_star, mem_groupPiece, Flat]

theorem mem_quantifier : text ∈ quantifier.language ↔ Quantifier text := by
  simp only [quantifier, plus, mem_alt, mem_seq, mem_one, mem_marks, mem_optional, mem_star_letter]
  constructor
  · rintro (⟨_, rfl | rfl, rfl⟩ | ⟨_, rfl, _, ⟨_, ⟨_, ⟨first, rfl, isFirst⟩, digits, areDigits, rfl⟩, _,
      ⟨upper, isUpper, _, rfl, rfl⟩, rfl⟩, rfl⟩)
    · exact Or.inl rfl
    · exact Or.inr (Or.inl rfl)
    · refine Or.inr (Or.inr ⟨first :: digits, upper, List.cons_ne_nil _ _,
        List.forall_mem_cons.2 ⟨isFirst, areDigits⟩, ?_, ?_⟩)
      · refine isUpper.imp id ?_
        rintro ⟨_, isComma, most, areMost, whole⟩
        exact ⟨most, by rw [← whole, isComma]; rfl, areMost⟩
      · simp
  · rintro (rfl | rfl | ⟨digits, upper, nonempty, are, isUpper, rfl⟩)
    · exact Or.inl ⟨43, Or.inl rfl, rfl⟩
    · exact Or.inl ⟨42, Or.inr rfl, rfl⟩
    · obtain ⟨first, rest, rfl⟩ := List.exists_cons_of_ne_nil nonempty
      obtain ⟨isFirst, areRest⟩ := List.forall_mem_cons.1 are
      refine Or.inr ⟨[123], rfl, _, ⟨first :: rest, ⟨[first], ⟨first, rfl, isFirst⟩, rest, areRest, rfl⟩,
        upper ++ [125], ⟨upper, ?_, [125], rfl, rfl⟩, rfl⟩, by simp⟩
      refine isUpper.imp id ?_
      rintro ⟨most, isMost, areMost⟩
      exact ⟨[44], rfl, most, areMost, isMost.symm⟩

theorem mem_groupWithQuantifier : text ∈ groupWithQuantifier.language ↔ ∃ left mark right blanks quantifier, Flat left ∧
    (mark = 43 ∨ mark = 42) ∧ Flat right ∧ Blank blanks ∧ Quantifier quantifier ∧
    text = 40 :: (left ++ mark :: (right ++ 41 :: (blanks ++ quantifier))) := by
  simp only [groupWithQuantifier, mem_seq, mem_one, mem_marks, mem_flat, mem_star_letter, mem_quantifier]
  constructor
  · rintro ⟨_, rfl, _, ⟨left, isLeft, _, ⟨_, ⟨mark, isMark, rfl⟩, _, ⟨right, isRight, _, ⟨_, rfl, _,
      ⟨blanks, areBlank, quantifier, isQuantifier, rfl⟩, rfl⟩, rfl⟩, rfl⟩, rfl⟩, rfl⟩
    exact ⟨left, mark, right, blanks, quantifier, isLeft, isMark, isRight, areBlank, isQuantifier, rfl⟩
  · rintro ⟨left, mark, right, blanks, quantifier, isLeft, isMark, isRight, areBlank, isQuantifier, rfl⟩
    exact ⟨_, rfl, _, ⟨left, isLeft, _, ⟨_, ⟨mark, isMark, rfl⟩, _, ⟨right, isRight, _, ⟨_, rfl, _,
      ⟨blanks, areBlank, quantifier, isQuantifier, rfl⟩, rfl⟩, rfl⟩, rfl⟩, rfl⟩, rfl⟩

theorem mem_repeatedWildcard : text ∈ repeatedWildcard.language ↔ ∃ mark blanks quantifier, (mark = 43 ∨ mark = 42) ∧
    Blank blanks ∧ Quantifier quantifier ∧ text = 46 :: mark :: (blanks ++ quantifier) := by
  simp only [repeatedWildcard, mem_alt, mem_seq, mem_one, mem_star_letter, mem_quantifier]
  constructor
  · rintro ⟨_, ⟨_, rfl, _, rfl, rfl⟩ | ⟨_, rfl, _, rfl, rfl⟩, _, ⟨blanks, areBlank, quantifier, isQuantifier, rfl⟩, rfl⟩
    · exact ⟨42, blanks, quantifier, Or.inr rfl, areBlank, isQuantifier, rfl⟩
    · exact ⟨43, blanks, quantifier, Or.inl rfl, areBlank, isQuantifier, rfl⟩
  · rintro ⟨_, blanks, quantifier, rfl | rfl, areBlank, isQuantifier, rfl⟩
    · exact ⟨[46, 43], Or.inr ⟨_, rfl, _, rfl, rfl⟩, _, ⟨blanks, areBlank, quantifier, isQuantifier, rfl⟩, rfl⟩
    · exact ⟨[46, 42], Or.inl ⟨_, rfl, _, rfl, rfl⟩, _, ⟨blanks, areBlank, quantifier, isQuantifier, rfl⟩, rfl⟩

/-- The first of the checks finds both of these and nothing else. -/
theorem nestedQuantifier_iff {pattern : JsString} :
    hasRiskyNestedQuantifier pattern = true ↔ FlatRepetition pattern ∨ WildcardRepetition pattern := by
  simp only [hasRiskyNestedQuantifier, Bool.or_eq_true, test_iff, mem_groupWithQuantifier, mem_repeatedWildcard]
  refine or_congr ?_ ?_
  · constructor
    · rintro ⟨before, _, ⟨left, mark, right, blanks, quantifier, isLeft, isMark, isRight, areBlank, isQuantifier, rfl⟩,
        after, rfl⟩
      exact ⟨before, left, mark, right, blanks, quantifier, after, isLeft, isMark, isRight, areBlank, isQuantifier,
        by simp⟩
    · rintro ⟨before, left, mark, right, blanks, quantifier, after, isLeft, isMark, isRight, areBlank, isQuantifier,
        rfl⟩
      exact ⟨before, _, ⟨left, mark, right, blanks, quantifier, isLeft, isMark, isRight, areBlank, isQuantifier, rfl⟩,
        after, by simp⟩
  · constructor
    · rintro ⟨before, _, ⟨mark, blanks, quantifier, isMark, areBlank, isQuantifier, rfl⟩, after, rfl⟩
      exact ⟨before, mark, blanks, quantifier, after, isMark, areBlank, isQuantifier, by simp⟩
    · rintro ⟨before, mark, blanks, quantifier, after, isMark, areBlank, isQuantifier, rfl⟩
      exact ⟨before, _, ⟨mark, blanks, quantifier, isMark, areBlank, isQuantifier, rfl⟩, after, by simp⟩

end Flat

section Adjacent

/-- An atom with an unbounded quantifier at a place, and what follows them. -/
def RepeatedAtom (place key next : JsString) : Prop :=
  ∃ after, readPatternAtom place = some (key, after) ∧ readUnboundedQuantifierEnd after = some next

/-- From one place of the scan to the next: after a unit that begins no atom, an atom or a repeated atom. -/
inductive ScanStep : JsString → JsString → Prop
  | skip {unit : UInt16} {rest : JsString} (none : readPatternAtom (unit :: rest) = none) : ScanStep (unit :: rest) rest
  | atom {place key after : JsString} (isAtom : readPatternAtom place = some (key, after))
      (once : readUnboundedQuantifierEnd after = none) : ScanStep place after
  | repeated {place key next : JsString} (isAtom : RepeatedAtom place key next) : ScanStep place next

/-- The scan comes to two repeated atoms, one right after the other, that can match the same. -/
inductive AdjacentRepetition : JsString → Prop
  | here {place left middle right next : JsString} (isLeft : RepeatedAtom place left middle)
      (isRight : RepeatedAtom middle right next) (same : atomsCanOverlap left right = true) : AdjacentRepetition place
  | later {place next : JsString} (step : ScanStep place next) (found : AdjacentRepetition next) :
    AdjacentRepetition place

variable {place key after next : JsString}

theorem readClass_spec {escaped : Bool} (reads : readClass escaped place = some (key, after)) :
    key ++ after = place := by
  induction place generalizing escaped key with
  | nil => cases reads
  | cons value rest ih =>
    rw [readClass] at reads
    split at reads
    · rename_i closes
      cases reads
      simp_all
    · obtain ⟨⟨inside, _⟩, isInside, isKey⟩ := Option.map_eq_some_iff.1 reads
      cases isKey
      rw [List.cons_append, ih isInside]

theorem readBraces_spec (reads : readBraces place = some (key, after)) : key ++ after = place := by
  induction place generalizing key with
  | nil => cases reads
  | cons value rest ih =>
    rw [readBraces] at reads
    split at reads
    · rename_i closes
      cases reads
      rw [closes]
      rfl
    · obtain ⟨⟨inside, _⟩, isInside, isKey⟩ := Option.map_eq_some_iff.1 reads
      cases isKey
      rw [List.cons_append, ih isInside]

/-- An atom is the text that it stands at. -/
theorem readPatternAtom_spec (reads : readPatternAtom place = some (key, after)) : key ≠ [] ∧ key ++ after = place := by
  unfold readPatternAtom at reads
  split at reads
  · cases reads
  · rename_i first rest
    split at reads
    · cases reads
    · split at reads
      · split at reads
        · cases reads
        · rename_i second after'
          dsimp only at reads
          split at reads
          · split at reads
            · split at reads
              · rename_i inside _ _ closes
                cases reads
                simp [readBraces_spec closes]
              · cases reads
                simp
            · cases reads
              simp
          · cases reads
            simp
      · split at reads
        · obtain ⟨⟨inside, _⟩, isInside, isKey⟩ := Option.map_eq_some_iff.1 reads
          cases isKey
          simp [readClass_spec isInside]
        · split at reads
          · split at reads <;> cases reads <;> simp
          · cases reads
            simp

theorem readPatternAtom_length (reads : readPatternAtom place = some (key, after)) : after.length < place.length := by
  obtain ⟨nonempty, rfl⟩ := readPatternAtom_spec reads
  have := List.length_pos_of_ne_nil nonempty
  rw [List.length_append]
  omega

theorem skipLazy_length (place : JsString) : (skipLazy place).length ≤ place.length := by
  unfold skipLazy
  split
  · exact Nat.le_succ _
  · exact le_rfl

theorem readUnboundedQuantifierEnd_length (reads : readUnboundedQuantifierEnd place = some next) :
    next.length < place.length := by
  unfold readUnboundedQuantifierEnd at reads
  split at reads
  · cases reads
    exact Nat.lt_succ_of_le (skipLazy_length _)
  · cases reads
    exact Nat.lt_succ_of_le (skipLazy_length _)
  · rename_i rest
    split at reads
    · cases reads
    · split at reads
      · rename_i back isBack
        cases reads
        have shorter : (rest.dropWhile isDigit).length ≤ rest.length := (List.dropWhile_sublist _).length_le
        have lazily := skipLazy_length back
        rw [isBack] at shorter
        simp only [List.length_cons] at shorter ⊢
        omega
      · cases reads
  · cases reads

theorem repeatedAtom_iff {isKey isAfter : JsString} (reads : readPatternAtom place = some (isKey, isAfter)) :
    RepeatedAtom place key next ↔ key = isKey ∧ readUnboundedQuantifierEnd isAfter = some next := by
  constructor
  · rintro ⟨after, isAtom, repeats⟩
    rw [reads] at isAtom
    cases isAtom
    exact ⟨rfl, repeats⟩
  · rintro ⟨rfl, repeats⟩
    exact ⟨isAfter, reads, repeats⟩

theorem not_repeatedAtom (none : readPatternAtom place = none) : ¬RepeatedAtom place key next := by
  rintro ⟨after, isAtom, _⟩
  rw [none] at isAtom
  cases isAtom

theorem adjacentRepetition_skip {unit : UInt16} {rest : JsString} (none : readPatternAtom (unit :: rest) = none) :
    AdjacentRepetition (unit :: rest) ↔ AdjacentRepetition rest := by
  constructor
  · rintro (⟨isLeft, _, _⟩ | ⟨step, found⟩)
    · exact absurd isLeft (not_repeatedAtom none)
    · cases step with
      | skip => exact found
      | atom isAtom => rw [none] at isAtom; cases isAtom
      | repeated isAtom => exact absurd isAtom (not_repeatedAtom none)
  · exact AdjacentRepetition.later (.skip none)

theorem adjacentRepetition_atom (reads : readPatternAtom place = some (key, after))
    (once : readUnboundedQuantifierEnd after = none) : AdjacentRepetition place ↔ AdjacentRepetition after := by
  have notRepeated {other next : JsString} : ¬RepeatedAtom place other next := by
    rw [repeatedAtom_iff reads, once]
    rintro ⟨_, isSome⟩
    cases isSome
  constructor
  · rintro (⟨isLeft, _, _⟩ | ⟨step, found⟩)
    · exact absurd isLeft notRepeated
    · cases step with
      | skip none => rw [none] at reads; cases reads
      | atom isAtom =>
        rw [reads] at isAtom
        cases isAtom
        exact found
      | repeated isAtom => exact absurd isAtom notRepeated
  · exact AdjacentRepetition.later (.atom reads once)

theorem adjacentRepetition_repeated (isAtom : RepeatedAtom place key next) : AdjacentRepetition place ↔
    (∃ right after, RepeatedAtom next right after ∧ atomsCanOverlap key right = true) ∨ AdjacentRepetition next := by
  obtain ⟨after, reads, repeats⟩ := isAtom
  have unique {other later : JsString} (isOther : RepeatedAtom place other later) : other = key ∧ later = next := by
    obtain ⟨isKey, isNext⟩ := (repeatedAtom_iff reads).1 isOther
    rw [repeats] at isNext
    exact ⟨isKey, (Option.some.inj isNext).symm⟩
  constructor
  · rintro (⟨isLeft, isRight, same⟩ | ⟨step, found⟩)
    · obtain ⟨rfl, rfl⟩ := unique isLeft
      exact Or.inl ⟨_, _, isRight, same⟩
    · cases step with
      | skip none => rw [none] at reads; cases reads
      | atom isAtom once =>
        rw [reads] at isAtom
        cases isAtom
        rw [repeats] at once
        cases once
      | repeated isAtom =>
        obtain ⟨_, rfl⟩ := unique isAtom
        exact Or.inr found
  · rintro (⟨right, _, isRight, same⟩ | found)
    · exact .here ⟨after, reads, repeats⟩ isRight same
    · exact .later (.repeated ⟨after, reads, repeats⟩) found

theorem not_adjacentRepetition_nil : ¬AdjacentRepetition [] := by
  rintro (⟨⟨_, isAtom, _⟩, _, _⟩ | ⟨step, _⟩)
  · cases isAtom
  · cases step with
    | atom isAtom => cases isAtom
    | repeated isAtom => exact not_repeatedAtom rfl isAtom

/-- The loop finds a repeated atom right after the one before, or two that come later. -/
theorem scanAdjacent_iff {fuel : Nat} (prior : Option JsString) (enough : place.length ≤ fuel) :
    scanAdjacent fuel (prior.map (·, place)) place = true ↔
      (∃ left ∈ prior, ∃ right next, RepeatedAtom place right next ∧ atomsCanOverlap left right = true) ∨
        AdjacentRepetition place := by
  have nowhere {key next : JsString} : ¬RepeatedAtom [] key next := not_repeatedAtom rfl
  induction fuel generalizing place prior with
  | zero =>
    cases List.eq_nil_of_length_eq_zero (Nat.le_zero.1 enough)
    simp [scanAdjacent, not_adjacentRepetition_nil, nowhere]
  | succ fuel ih =>
    cases place with
    | nil => simp [scanAdjacent, not_adjacentRepetition_nil, nowhere]
    | cons first rest =>
      have none_iff {place : JsString} (shorter : place.length < (first :: rest).length) :
          scanAdjacent fuel none place = true ↔ AdjacentRepetition place := by
        have scan := ih none (Nat.le_of_lt_succ (shorter.trans_le enough))
        simpa using scan
      rw [scanAdjacent]
      split
      · rename_i isNone
        rw [none_iff (Nat.lt_succ_self _), adjacentRepetition_skip isNone, or_iff_right]
        rintro ⟨_, _, _, _, isAtom, _⟩
        exact not_repeatedAtom isNone isAtom
      · rename_i key after reads
        split
        · rename_i once
          rw [none_iff (readPatternAtom_length reads), adjacentRepetition_atom reads once, or_iff_right]
          rintro ⟨_, _, _, _, isAtom, _⟩
          rw [repeatedAtom_iff reads, once] at isAtom
          cases isAtom.2
        · rename_i next repeats
          have isAtom : RepeatedAtom (first :: rest) key next := ⟨after, reads, repeats⟩
          have shorter := (readUnboundedQuantifierEnd_length repeats).trans (readPatternAtom_length reads)
          have scan := ih (some key) (Nat.le_of_lt_succ (shorter.trans_le enough))
          rw [Option.map_some] at scan
          rw [Bool.or_eq_true, adjacentRepetition_repeated isAtom]
          refine or_congr ?_ (scan.trans ?_)
          · simp [repeatedAtom_iff reads, repeats, Option.any_map, Option.any_eq_true]
          · simp

theorem adjacentOverlapping_iff {pattern : JsString} :
    hasAdjacentOverlappingQuantifiers pattern = true ↔ AdjacentRepetition pattern := by
  have scan := scanAdjacent_iff none (le_refl pattern.length)
  rw [hasAdjacentOverlappingQuantifiers]
  simpa using scan

end Adjacent

end SearchPatterns
