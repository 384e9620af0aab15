import MaterialEmail.SearchPatterns.Alternatives

/-! Which of the patterns that keep the engine busy are refused: those in which one of the three checks finds
something. The checks do not look into groups within a group, for `{n,}` within one, or at what a class matches. -/
namespace SearchPatterns

open JsString

/-- What the three checks find. -/
inductive Visible (pattern : JsString) : Prop
  | flat (found : FlatRepetition pattern)
  | wildcard (found : WildcardRepetition pattern)
  | adjacent (found : AdjacentRepetition pattern)
  | alternatives (found : RepeatedAlternatives pattern)

variable {host : Host} {meaning : Meaning} {options : MatcherOptions} {pattern : JsString}

theorem hasRiskyRepetition_iff : hasRiskyRepetition pattern = true ↔ Visible pattern := by
  rw [hasRiskyRepetition, Bool.or_eq_true, Bool.or_eq_true, nestedQuantifier_iff, adjacentOverlapping_iff,
    repeatedGroupOverlapping_iff]
  constructor
  · rintro (((found | found) | found) | found)
    · exact .flat found
    · exact .wildcard found
    · exact .adjacent found
    · exact .alternatives found
  · rintro (found | found | found | found)
    · exact Or.inl (Or.inl (Or.inl found))
    · exact Or.inl (Or.inl (Or.inr found))
    · exact Or.inl (Or.inr found)
    · exact Or.inr found

-- a quantifier in braces, and a class that has the other alternative as a member
example : hasRiskyRepetition (ofString "(a\x7b1,\x7d)+") = false := by decide

example : hasRiskyRepetition (ofString "(a|[ab])+") = false := by decide

theorem validatePattern_valid (regex : options.mode = .regex) (some : options.pattern ≠ [])
    (short : options.pattern.length ≤ maxPatternLength)
    (compiles : host.compile options.pattern (normalizeFlags options.flags) = .ok ()) :
    (validatePattern host options).valid = !hasRiskyRepetition options.pattern := by
  have notPlain : options.mode ≠ .plain := by
    rw [regex]
    exact MatchMode.noConfusion
  unfold validatePattern
  dsimp only
  rw [if_neg some, if_neg (Nat.not_lt.2 short), if_neg notPlain, compiles]
  cases hasRiskyRepetition options.pattern <;> rfl

theorem Catastrophic.ne_nil (catastrophic : Catastrophic meaning pattern) : pattern ≠ [] := by
  obtain ⟨before, opening, content, after, group, _⟩ := catastrophic
  rw [group.whole]
  simp

section PlainGroups

theorem flat_of_notMem {text : JsString} (opens : 40 ∉ text) (closes : 41 ∉ text) : Flat text := by
  refine ⟨text.map ([·]), (List.flatMap_singleton' text).symm, fun piece member => ?_⟩
  obtain ⟨unit, isUnit, rfl⟩ := List.mem_map.1 member
  refine Or.inr (Or.inr ⟨unit, rfl, ?_, ?_⟩)
  · rintro rfl
    exact opens isUnit
  · rintro rfl
    exact closes isUnit

theorem UnboundedQuantifier.quantifier {text : JsString} (unbounded : UnboundedQuantifier text) :
    ∃ quantifier rest, Quantifier quantifier ∧ text = quantifier ++ rest := by
  obtain ⟨rest, rfl | rfl | ⟨digits, nonempty, are, rfl⟩⟩ := unbounded
  · exact ⟨[42], rest, Or.inr (Or.inl rfl), rfl⟩
  · exact ⟨[43], rest, Or.inl rfl, rfl⟩
  · refine ⟨123 :: (digits ++ [44] ++ [125]), rest, Or.inr (Or.inr ⟨digits, [44], nonempty, are, ?_, rfl⟩), by simp⟩
    exact Or.inr ⟨[], rfl, by simp [Digits]⟩

/-- A repeated group that has a `*` or `+`, and no parenthesis, is always found. -/
theorem RepeatedGroup.visible {before opening content after : JsString} {mark : UInt16}
    (group : RepeatedGroup pattern before opening content after) (opens : 40 ∉ opening ++ content)
    (closes : 41 ∉ opening ++ content) (isMark : mark = 43 ∨ mark = 42) (member : mark ∈ content) :
    Visible pattern := by
  obtain ⟨left, right, rfl⟩ := List.append_of_mem member
  obtain ⟨quantifier, rest, isQuantifier, rfl⟩ := group.repeated.quantifier
  simp only [List.mem_append, List.mem_cons, not_or] at opens closes
  have isLeft : Flat (opening ++ left) := flat_of_notMem (by simp [opens]) (by simp [closes])
  have isRight : Flat right := flat_of_notMem opens.2.2.2 closes.2.2.2
  refine .flat ⟨before, opening ++ left, mark, right, [], quantifier, rest, isLeft, isMark, isRight, by simp [Blank],
    isQuantifier, ?_⟩
  simp [group.whole]

end PlainGroups

/-- A pattern that is to be refused is refused when one of the checks finds something, and only then. -/
theorem refused_iff (must : MustRefuse host meaning options) :
    (validatePattern host options).valid = false ↔ Visible options.pattern := by
  rw [validatePattern_valid must.regex must.catastrophic.ne_nil must.short must.compiles, Bool.not_eq_false',
    hasRiskyRepetition_iff]

section Patterns

/-- An engine that takes a pattern, whose characters stand for themselves. -/
def engine : Host := ⟨fun _ _ => .ok (), fun _ => ofString "2,048"⟩

def literally : Meaning := fun _ part _ text => text = part

theorem repeatedTwice_refused : MustRefuse engine literally ⟨.regex, ofString "(a+)+", []⟩ ∧
    (validatePattern engine ⟨.regex, ofString "(a+)+", []⟩).valid = false := by
  have group : RepeatedGroup (ofString "(a+)+") [] [] (ofString "a+") (ofString "+") :=
    ⟨rfl, rfl, Or.inl rfl, by decide, by decide, ⟨[], Or.inr (Or.inl rfl)⟩⟩
  have within : RepeatsWithin (ofString "a+") := ⟨ofString "a", ofString "+", rfl, by decide, [], Or.inr (Or.inl rfl)⟩
  have must : MustRefuse engine literally ⟨.regex, ofString "(a+)+", []⟩ :=
    ⟨rfl, by decide, rfl, [], [], _, _, group, Or.inl within⟩
  exact ⟨must, (refused_iff must).2 (group.visible (by decide) (by decide) (Or.inl rfl) (by decide))⟩

/-- The checks do not see a repetition in a group within the group that is repeated. -/
theorem innerGroup_accepted : MustRefuse engine literally ⟨.regex, ofString "((a+))+", []⟩ ∧
    (validatePattern engine ⟨.regex, ofString "((a+))+", []⟩).valid = true := by
  have group : RepeatedGroup (ofString "((a+))+") [] [] (ofString "(a+)") (ofString "+") :=
    ⟨rfl, rfl, Or.inl rfl, by decide, by decide, ⟨[], Or.inr (Or.inl rfl)⟩⟩
  have within : RepeatsWithin (ofString "(a+)") :=
    ⟨ofString "(a", ofString "+)", rfl, by decide, ofString ")", Or.inr (Or.inl rfl)⟩
  refine ⟨⟨rfl, by decide, rfl, [], [], _, _, group, Or.inl within⟩, ?_⟩
  decide

end Patterns

end SearchPatterns
