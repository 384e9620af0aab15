import MaterialEmail.SearchPatterns.Repetition

/-! What the third check finds: a repeated group with two alternatives of plain atoms, of which one begins like the
other, or with an empty one. -/
namespace SearchPatterns

open JsString

section Split

/-- A content, divided at the bars of its top level. -/
structure Divided (content : JsString) (alternatives : List JsString) : Prop where
  joined : content = [124].intercalate alternatives
  nonempty : alternatives ≠ []
  each : ∀ alternative ∈ alternatives, Alternative alternative

/-- No bar of a text stands at the top level, when the text is read from some place on. -/
def Unbarred (state : Reading × Nat) (text : JsString) : Prop :=
  ∀ front back, text = front ++ 124 :: back → front.foldlM readNested state ≠ some (.outside, 0)

variable {state next : Reading × Nat} {current text rest : JsString} {value : UInt16}

/-- The loop of the source counts what `readNested` counts. -/
theorem splitAlternatives_cons (read : readNested state value = some next)
    (bar : ¬(state = (.outside, 0) ∧ value = 124)) :
    splitAlternatives state.2 state.1.inClass state.1.escaped current (value :: rest) =
      splitAlternatives next.2 next.1.inClass next.1.escaped (current ++ [value]) rest := by
  obtain ⟨⟨inClass, escaped⟩, depth⟩ := state
  unfold readNested at read
  split at read
  · rename_i opens
    obtain ⟨isOutside, rfl⟩ := opens
    cases isOutside
    cases read
    simp [splitAlternatives]
  · split at read
    · rename_i closes
      obtain ⟨isOutside, rfl⟩ := closes
      cases isOutside
      cases depth with
      | zero => cases read
      | succ depth =>
        cases read
        simp [splitAlternatives]
    · rename_i notOpening notClosing
      cases read
      rw [splitAlternatives]
      cases escaped with
      | true => simp [Reading.read]
      | false =>
        cases inClass with
        | true => by_cases isEscape : value = 92 <;> simp [Reading.read, isEscape]
        | false =>
          have notOpen : value ≠ 40 := fun is => notOpening ⟨rfl, is⟩
          have notClose : value ≠ 41 := fun is => notClosing ⟨rfl, is⟩
          have notTop : ¬(value = 124 ∧ depth = 0) := fun ⟨isBar, isTop⟩ => bar ⟨by rw [isTop]; rfl, isBar⟩
          by_cases isEscape : value = 92
          · simp [Reading.read, isEscape]
          · by_cases isClass : value = 91
            · simp [Reading.read, isClass]
            · simp [Reading.read, isEscape, isClass, notOpen, notClose, notTop]

theorem splitAlternatives_append (current rest : JsString) (read : text.foldlM readNested state = some next)
    (bars : Unbarred state text) :
    splitAlternatives state.2 state.1.inClass state.1.escaped current (text ++ rest) =
      splitAlternatives next.2 next.1.inClass next.1.escaped (current ++ text) rest := by
  induction text generalizing state current with
  | nil =>
    cases read
    simp
  | cons value text ih =>
    rw [List.foldlM_cons, Option.bind_eq_bind, Option.bind_eq_some_iff] at read
    obtain ⟨middle, isMiddle, read⟩ := read
    have notBar : ¬(state = (.outside, 0) ∧ value = 124) := by
      rintro ⟨rfl, rfl⟩
      exact bars [] text rfl rfl
    rw [List.cons_append, splitAlternatives_cons isMiddle notBar, ih _ read, List.append_assoc, List.singleton_append]
    intro front back whole
    have bar := bars (value :: front) back (by rw [whole, List.cons_append])
    rwa [List.foldlM_cons, isMiddle] at bar

theorem splitAlternatives_last (isAlternative : Alternative text) :
    splitAlternatives 0 false false [] text = [text] := by
  have split := splitAlternatives_append [] [] isAlternative.1 isAlternative.2
  rw [List.append_nil] at split
  exact split

theorem splitAlternatives_bar (isAlternative : Alternative text) :
    splitAlternatives 0 false false [] (text ++ 124 :: rest) = text :: splitAlternatives 0 false false [] rest := by
  have split := splitAlternatives_append [] (124 :: rest) isAlternative.1 isAlternative.2
  refine Eq.trans split ?_
  simp [splitAlternatives, Reading.outside]

theorem Divided.splitTopLevelAlternatives_eq {content : JsString} {alternatives : List JsString}
    (divided : Divided content alternatives) : splitTopLevelAlternatives content = alternatives := by
  obtain ⟨rfl, nonempty, each⟩ := divided
  unfold splitTopLevelAlternatives
  induction alternatives with
  | nil => exact absurd rfl nonempty
  | cons alternative later ih =>
    obtain ⟨isAlternative, areLater⟩ := List.forall_mem_cons.1 each
    cases later with
    | nil => rw [List.intercalate_singleton, splitAlternatives_last isAlternative]
    | cons following later =>
      have split := ih (List.cons_ne_nil _ _) areLater
      rw [List.intercalate_cons_cons, List.append_assoc, List.singleton_append, splitAlternatives_bar isAlternative,
        split]

theorem unbarred_snoc (unbarred : Unbarred state text) (read : text.foldlM readNested state = some next)
    (bar : ¬(next = (.outside, 0) ∧ value = 124)) : Unbarred state (text ++ [value]) := by
  rintro front back whole isTop
  rcases List.eq_nil_or_concat back with rfl | ⟨back, last, rfl⟩
  · obtain ⟨rfl, isBar⟩ := List.append_inj' whole rfl
    rw [read] at isTop
    cases isTop
    cases isBar
    exact bar ⟨rfl, rfl⟩
  · rw [List.concat_eq_append, ← List.cons_append, ← List.append_assoc] at whole
    obtain ⟨rfl, _⟩ := List.append_inj' whole rfl
    exact unbarred front back rfl isTop

theorem divided_splitAlternatives (current : JsString) (read : current.foldlM readNested (.outside, 0) = some state)
    (unbarred : Unbarred (.outside, 0) current) (reads : rest.foldlM readNested state = some (.outside, 0)) :
    Divided (current ++ rest) (splitAlternatives state.2 state.1.inClass state.1.escaped current rest) := by
  induction rest generalizing current state with
  | nil =>
    cases reads
    refine ⟨by simp [splitAlternatives], by simp [splitAlternatives], fun alternative member => ?_⟩
    cases List.mem_singleton.1 member
    exact ⟨read, unbarred⟩
  | cons value rest ih =>
    rw [List.foldlM_cons, Option.bind_eq_bind, Option.bind_eq_some_iff] at reads
    obtain ⟨next, isNext, reads⟩ := reads
    by_cases bar : state = (.outside, 0) ∧ value = 124
    · obtain ⟨rfl, rfl⟩ := bar
      cases isNext
      have later : Divided rest (splitAlternatives 0 false false [] rest) :=
        ih [] rfl (fun front back whole => by simp at whole) reads
      have split : splitAlternatives 0 false false current (124 :: rest) =
          current :: splitAlternatives 0 false false [] rest := by
        simp [splitAlternatives]
      refine Eq.subst split.symm ⟨?_, List.cons_ne_nil _ _, List.forall_mem_cons.2 ⟨⟨read, unbarred⟩, later.each⟩⟩
      rw [List.intercalate_cons_of_ne_nil later.nonempty, ← later.joined, List.append_assoc, List.singleton_append]
    · rw [splitAlternatives_cons isNext bar]
      have extended : (current ++ [value]).foldlM readNested (.outside, 0) = some next := by
        simp [List.foldlM_append, read, isNext]
      have divided := ih _ extended (unbarred_snoc unbarred read bar) reads
      rwa [List.append_assoc, List.singleton_append] at divided

theorem divided_splitTopLevelAlternatives {content : JsString} (balanced : Balanced content) :
    Divided content (splitTopLevelAlternatives content) :=
  divided_splitAlternatives [] rfl (fun front back whole => by simp at whole) balanced

end Split

section Overlap

/-- An alternative that is nothing but atoms, one after the other. -/
inductive Atoms : JsString → List JsString → Prop
  | nil : Atoms [] []
  | cons {text key after : JsString} {keys : List JsString} (isAtom : readPatternAtom text = some (key, after))
      (later : Atoms after keys) : Atoms text (key :: keys)

/-- Two alternatives of atoms, of which one begins like the other. -/
def BeginAlike (left right : JsString) : Prop :=
  ∃ first second, Atoms left first ∧ Atoms right second ∧
    (isAtomPrefix first second = true ∨ isAtomPrefix second first = true)

/-- A content with several alternatives, of which one is empty or two begin alike. -/
def OverlappingAlternatives (content : JsString) : Prop :=
  ∃ alternatives, Divided content alternatives ∧ 2 ≤ alternatives.length ∧
    ([] ∈ alternatives ∨ ∃ left right, [left, right].Sublist alternatives ∧ BeginAlike left right)

variable {text : JsString} {keys : List JsString}

theorem scanAtoms_iff {fuel : Nat} (enough : text.length ≤ fuel) :
    scanAtoms fuel text = some keys ↔ Atoms text keys := by
  induction fuel generalizing text keys with
  | zero =>
    cases List.eq_nil_of_length_eq_zero (Nat.le_zero.1 enough)
    constructor
    · intro reads
      cases reads
      exact .nil
    · rintro (_ | ⟨isAtom, _⟩)
      · rfl
      · cases isAtom
  | succ fuel ih =>
    cases text with
    | nil =>
      constructor
      · intro reads
        cases reads
        exact .nil
      · rintro (_ | ⟨isAtom, _⟩)
        · rfl
        · cases isAtom
    | cons first rest =>
      simp only [scanAtoms, Option.bind_eq_bind, Option.pure_def, Option.bind_eq_some_iff, Option.some.injEq]
      constructor
      · rintro ⟨⟨key, after⟩, isAtom, later, isLater, rfl⟩
        have shorter := readPatternAtom_length isAtom
        exact .cons isAtom ((ih (Nat.le_of_lt_succ (shorter.trans_le enough))).1 isLater)
      · rintro (_ | ⟨isAtom, later⟩)
        have shorter := readPatternAtom_length isAtom
        exact ⟨_, isAtom, _, (ih (Nat.le_of_lt_succ (shorter.trans_le enough))).2 later, rfl⟩

theorem simpleAlternativeAtoms_iff : simpleAlternativeAtoms text = some keys ↔ Atoms text keys := scanAtoms_iff le_rfl

theorem atoms_nil : Atoms text [] ↔ text = [] := by
  constructor
  · rintro ⟨⟩
    rfl
  · rintro rfl
    exact .nil

theorem overlapping_iff {left right : JsString} :
    overlapping (simpleAlternativeAtoms left) (simpleAlternativeAtoms right) = true ↔ BeginAlike left right := by
  unfold BeginAlike
  simp only [← simpleAlternativeAtoms_iff]
  cases simpleAlternativeAtoms left with
  | none => simp [overlapping]
  | some first =>
    cases simpleAlternativeAtoms right with
    | none => simp [overlapping]
    | some second => simp [overlapping]

theorem anyOverlap_iff {α : Type} {atoms : α → Option (List JsString)} {alternatives : List α} :
    anyOverlap (alternatives.map atoms) = true ↔
      ∃ left right, [left, right].Sublist alternatives ∧ overlapping (atoms left) (atoms right) = true := by
  induction alternatives with
  | nil => simp [anyOverlap]
  | cons alternative later ih =>
    simp only [List.map_cons, anyOverlap, Bool.or_eq_true, ih, List.any_map, List.any_eq_true, Function.comp_apply]
    constructor
    · rintro (⟨right, member, overlaps⟩ | ⟨left, right, sub, overlaps⟩)
      · exact ⟨alternative, right, (List.singleton_sublist.2 member).cons_cons _, overlaps⟩
      · exact ⟨left, right, sub.cons _, overlaps⟩
    · rintro ⟨left, right, sub, overlaps⟩
      cases sub with
      | cons _ sub => exact Or.inr ⟨left, right, sub, overlaps⟩
      | cons_cons _ sub => exact Or.inl ⟨right, List.singleton_sublist.1 sub, overlaps⟩

theorem alternativesOverlap_iff {content : JsString} (balanced : Balanced content) :
    alternativesOverlap content = true ↔ OverlappingAlternatives content := by
  have divided := divided_splitTopLevelAlternatives balanced
  have found {alternatives : List JsString} : ((alternatives.map simpleAlternativeAtoms).any (· = some []) ||
      anyOverlap (alternatives.map simpleAlternativeAtoms)) = true ↔
      [] ∈ alternatives ∨ ∃ left right, [left, right].Sublist alternatives ∧ BeginAlike left right := by
    simp [anyOverlap_iff, overlapping_iff, simpleAlternativeAtoms_iff, atoms_nil]
  unfold alternativesOverlap
  dsimp only
  rw [Bool.and_eq_true, decide_eq_true_eq, found]
  constructor
  · rintro ⟨several, overlap⟩
    exact ⟨_, divided, several, overlap⟩
  · rintro ⟨alternatives, isDivided, several, overlap⟩
    rw [isDivided.splitTopLevelAlternatives_eq]
    exact ⟨several, overlap⟩

end Overlap

section Groups

/-- A group that an unbounded quantifier applies to, as the scan of the source sees it, with the content after the
parenthesis, or after `?:`. -/
def groupContent (inner : JsString) : JsString := if inner.take 2 = [63, 58] then inner.drop 2 else inner

/-- A repeated group with overlapping alternatives. -/
def RepeatedAlternatives (pattern : JsString) : Prop :=
  ∃ before inner after, pattern = before ++ 40 :: (inner ++ 41 :: after) ∧ Outside before ∧ Balanced inner ∧
    UnboundedQuantifier after ∧ OverlappingAlternatives (groupContent inner)

/-- The rest of a group that has begun earlier in a pattern, where the scan has come to an index. -/
def ClosesGroup (pattern : JsString) (index contentStart : Nat) (state : Reading × Nat) (rest : JsString) : Prop :=
  ∃ inner after, rest = inner ++ 41 :: after ∧ inner.foldlM readNested state = some (.outside, 0) ∧
    UnboundedQuantifier after ∧ alternativesOverlap ((pattern.take (index + inner.length)).drop contentStart) = true

/-- Where the content of a group begins that is opened before some text. -/
def contentStart (index : Nat) (rest : JsString) : Nat := index + 1 + if rest.take 2 = [63, 58] then 2 else 0

/-- A group that begins later in a pattern. -/
def HoldsGroup (pattern : JsString) (index : Nat) (reading : Reading) (rest : JsString) : Prop :=
  ∃ between later, rest = between ++ 40 :: later ∧ between.foldl Reading.read reading = .outside ∧
    ClosesGroup pattern (index + between.length + 1) (contentStart (index + between.length) later) (.outside, 0) later

variable {pattern rest : JsString} {index start : Nat} {state : Reading × Nat} {reading : Reading} {value : UInt16}

theorem closesGroup_cons : ClosesGroup pattern index start state (value :: rest) ↔
    (value = 41 ∧ state = (.outside, 0) ∧ UnboundedQuantifier rest ∧
      alternativesOverlap ((pattern.take index).drop start) = true) ∨
    ∃ next, readNested state value = some next ∧ ClosesGroup pattern (index + 1) start next rest := by
  constructor
  · rintro ⟨inner, after, whole, read, repeats, overlap⟩
    cases inner with
    | nil =>
      cases whole
      cases read
      exact Or.inl ⟨rfl, rfl, repeats, overlap⟩
    | cons head inner =>
      cases whole
      rw [List.foldlM_cons, Option.bind_eq_bind, Option.bind_eq_some_iff] at read
      obtain ⟨next, isNext, read⟩ := read
      rw [List.length_cons, Nat.add_comm inner.length, ← Nat.add_assoc] at overlap
      exact Or.inr ⟨next, isNext, inner, after, rfl, read, repeats, overlap⟩
  · rintro (⟨rfl, rfl, repeats, overlap⟩ | ⟨next, isNext, inner, after, rfl, read, repeats, overlap⟩)
    · exact ⟨[], rest, rfl, rfl, repeats, overlap⟩
    · refine ⟨value :: inner, after, rfl, ?_, repeats, ?_⟩
      · rw [List.foldlM_cons, isNext]
        exact read
      · rwa [List.length_cons, Nat.add_comm inner.length, ← Nat.add_assoc]

theorem holdsGroup_cons : HoldsGroup pattern index reading (value :: rest) ↔
    (value = 40 ∧ reading = .outside ∧ ClosesGroup pattern (index + 1) (contentStart index rest) (.outside, 0) rest) ∨
    HoldsGroup pattern (index + 1) (reading.read value) rest := by
  constructor
  · rintro ⟨between, later, whole, read, closes⟩
    cases between with
    | nil =>
      cases whole
      cases read
      exact Or.inl ⟨rfl, rfl, closes⟩
    | cons head between =>
      cases whole
      rw [List.length_cons, Nat.add_comm between.length, ← Nat.add_assoc] at closes
      exact Or.inr ⟨between, later, rfl, read, closes⟩
  · rintro (⟨rfl, rfl, closes⟩ | ⟨between, later, rfl, read, closes⟩)
    · exact ⟨[], rest, rfl, rfl, closes⟩
    · refine ⟨value :: between, later, rfl, read, ?_⟩
      rwa [List.length_cons, Nat.add_comm between.length, ← Nat.add_assoc]

theorem readNested_plain {depth : Nat} (plain : ¬(reading = .outside ∧ (value = 40 ∨ value = 41))) :
    readNested (reading, depth) value = some (reading.read value, depth) := by
  unfold readNested
  rw [if_neg fun opens => plain ⟨opens.1, Or.inl opens.2⟩, if_neg fun closes => plain ⟨closes.1, Or.inr closes.2⟩]

theorem closesGroup_plain {depth : Nat} (plain : ¬(reading = .outside ∧ (value = 40 ∨ value = 41))) :
    ClosesGroup pattern index start (reading, depth) (value :: rest) ↔
      ClosesGroup pattern (index + 1) start (reading.read value, depth) rest := by
  rw [closesGroup_cons, readNested_plain plain, or_iff_right]
  · simp
  · rintro ⟨closes, isOutside, _⟩
    exact plain ⟨congrArg Prod.fst isOutside, Or.inr closes⟩

theorem closesGroup_open {depth : Nat} : ClosesGroup pattern index start (.outside, depth) (40 :: rest) ↔
    ClosesGroup pattern (index + 1) start (.outside, depth + 1) rest := by
  simp [closesGroup_cons, readNested]

theorem closesGroup_close_zero : ClosesGroup pattern index start (.outside, 0) (41 :: rest) ↔
    UnboundedQuantifier rest ∧ alternativesOverlap ((pattern.take index).drop start) = true := by
  simp [closesGroup_cons, readNested]

theorem closesGroup_close_succ {depth : Nat} : ClosesGroup pattern index start (.outside, depth + 1) (41 :: rest) ↔
    ClosesGroup pattern (index + 1) start (.outside, depth) rest := by
  simp [closesGroup_cons, readNested]

theorem holdsGroup_open : HoldsGroup pattern index .outside (40 :: rest) ↔
    ClosesGroup pattern (index + 1) (contentStart index rest) (.outside, 0) rest ∨
      HoldsGroup pattern (index + 1) .outside rest := by
  rw [holdsGroup_cons]
  exact or_congr (by simp) Iff.rfl

theorem holdsGroup_other (other : ¬(reading = .outside ∧ value = 40)) :
    HoldsGroup pattern index reading (value :: rest) ↔ HoldsGroup pattern (index + 1) (reading.read value) rest := by
  rw [holdsGroup_cons, or_iff_right]
  rintro ⟨opens, isOutside, _⟩
  exact other ⟨isOutside, opens⟩

theorem scanGroups_plain {groups : List Nat} (plain : ¬(reading = .outside ∧ (value = 40 ∨ value = 41))) :
    scanGroups pattern index groups reading.inClass reading.escaped (value :: rest) =
      scanGroups pattern (index + 1) groups (reading.read value).inClass (reading.read value).escaped rest := by
  obtain ⟨inClass, escaped⟩ := reading
  rw [scanGroups.eq_def]
  cases escaped with
  | true => simp [Reading.read]
  | false =>
    cases inClass with
    | true => by_cases isEscape : value = 92 <;> simp [Reading.read, isEscape]
    | false =>
      have notOpen : value ≠ 40 := fun is => plain ⟨rfl, Or.inl is⟩
      have notClose : value ≠ 41 := fun is => plain ⟨rfl, Or.inr is⟩
      by_cases isEscape : value = 92
      · simp [Reading.read, isEscape]
      · by_cases isClass : value = 91
        · simp [Reading.read, isClass]
        · simp [Reading.read, isEscape, isClass, notOpen, notClose]

theorem scanGroups_open {groups : List Nat} : scanGroups pattern index groups false false (40 :: rest) =
    scanGroups pattern (index + 1) (contentStart index rest :: groups) false false rest := rfl

theorem scanGroups_close_none : scanGroups pattern index [] false false (41 :: rest) =
    scanGroups pattern (index + 1) [] false false rest := rfl

theorem scanGroups_close {groups : List Nat} : scanGroups pattern index (start :: groups) false false (41 :: rest) =
    ((readUnboundedQuantifierEnd rest).isSome && alternativesOverlap ((pattern.take index).drop start) ||
      scanGroups pattern (index + 1) groups false false rest) := rfl

/-- The scan finds a group that is open and closes later, or one that opens later. -/
theorem scanGroups_iff (index : Nat) (reading : Reading) (groups : List Nat) :
    scanGroups pattern index groups reading.inClass reading.escaped rest = true ↔
      (∃ depth start, groups[depth]? = some start ∧ ClosesGroup pattern index start (reading, depth) rest) ∨
        HoldsGroup pattern index reading rest := by
  induction rest generalizing index groups reading with
  | nil => simp [scanGroups, ClosesGroup, HoldsGroup]
  | cons value rest ih =>
    have scan (index : Nat) (groups : List Nat) := ih index .outside groups
    by_cases plain : reading = .outside ∧ (value = 40 ∨ value = 41)
    · obtain ⟨rfl, rfl | rfl⟩ := plain
      · refine Iff.trans (Eq.to_iff (congrArg (· = true) scanGroups_open)) ((scan _ _).trans ?_)
        simp only [closesGroup_open, holdsGroup_open]
        constructor
        · rintro (⟨depth, start, isOpen, closes⟩ | holds)
          · cases depth with
            | zero =>
              cases isOpen
              exact Or.inr (Or.inl closes)
            | succ depth => exact Or.inl ⟨depth, start, isOpen, closes⟩
          · exact Or.inr (Or.inr holds)
        · rintro (⟨depth, start, isOpen, closes⟩ | closes | holds)
          · exact Or.inl ⟨depth + 1, start, isOpen, closes⟩
          · exact Or.inl ⟨0, _, rfl, closes⟩
          · exact Or.inr holds
      · have later : HoldsGroup pattern index .outside (41 :: rest) ↔ HoldsGroup pattern (index + 1) .outside rest :=
          holdsGroup_other fun opens => absurd opens.2 (by decide)
        rw [later]
        cases groups with
        | nil =>
          refine Iff.trans (Eq.to_iff (congrArg (· = true) scanGroups_close_none)) ((scan _ _).trans (or_congr_left ?_))
          simp
        | cons start groups =>
          refine Iff.trans (Eq.to_iff (congrArg (· = true) scanGroups_close)) ?_
          rw [Bool.or_eq_true, Bool.and_eq_true, unboundedQuantifier_iff]
          refine (or_congr_right (scan _ _)).trans ?_
          rw [← or_assoc]
          refine or_congr_left ?_
          constructor
          · rintro (found | ⟨depth, other, isOpen, closes⟩)
            · exact ⟨0, start, rfl, closesGroup_close_zero.2 found⟩
            · exact ⟨depth + 1, other, isOpen, closesGroup_close_succ.2 closes⟩
          · rintro ⟨depth, other, isOpen, closes⟩
            cases depth with
            | zero =>
              cases isOpen
              exact Or.inl (closesGroup_close_zero.1 closes)
            | succ depth => exact Or.inr ⟨depth, other, isOpen, closesGroup_close_succ.1 closes⟩
    · rw [scanGroups_plain plain, ih, holdsGroup_other fun opens => plain ⟨opens.1, Or.inl opens.2⟩]
      simp only [closesGroup_plain plain]

theorem contentStart_eq {inner after : JsString} :
    contentStart index (inner ++ 41 :: after) = index + 1 + if inner.take 2 = [63, 58] then 2 else 0 := by
  unfold contentStart
  -- the parenthesis that closes is none of the two units
  match inner with
  | [] => simp
  | [unit] => simp
  | first :: second :: inner => simp

/-- The part of the pattern that the source looks at is the content of the group. -/
theorem slice_content {before inner after : JsString} :
    ((before ++ 40 :: (inner ++ 41 :: after)).take (before.length + 1 + inner.length)).drop
      (contentStart before.length (inner ++ 41 :: after)) = groupContent inner := by
  have upTo :
      (before ++ 40 :: (inner ++ 41 :: after)).take (before.length + 1 + inner.length) = before ++ 40 :: inner := by
    rw [Nat.add_assoc, List.take_length_add_append, Nat.add_comm 1, List.take_succ_cons, List.take_left']
    rfl
  rw [upTo, contentStart_eq, Nat.add_assoc, List.drop_length_add_append, Nat.add_comm 1, List.drop_succ_cons]
  unfold groupContent
  split <;> rfl

theorem balanced_groupContent {inner : JsString} (balanced : Balanced inner) : Balanced (groupContent inner) := by
  unfold groupContent
  split
  · rename_i isPrefix
    match inner with
    | [] => exact balanced
    | [unit] => cases isPrefix
    | first :: second :: inner =>
      cases isPrefix
      exact balanced
  · exact balanced

/-- The third check finds a repeated group with overlapping alternatives and nothing else. -/
theorem repeatedGroupOverlapping_iff :
    repeatedGroupHasOverlappingAlternatives pattern = true ↔ RepeatedAlternatives pattern := by
  have scan := @scanGroups_iff pattern pattern 0 .outside []
  refine scan.trans ?_
  simp only [List.getElem?_nil]
  constructor
  · rintro (⟨_, _, isNone, _⟩ | ⟨before, later, isPattern, isOutside, inner, after, rfl, balanced, repeats, overlap⟩)
    · cases isNone
    · rw [isPattern, Nat.zero_add, slice_content] at overlap
      exact ⟨before, inner, after, isPattern, isOutside, balanced, repeats,
        (alternativesOverlap_iff (balanced_groupContent balanced)).1 overlap⟩
  · rintro ⟨before, inner, after, isPattern, isOutside, balanced, repeats, overlap⟩
    refine Or.inr ⟨before, _, isPattern, isOutside, inner, after, rfl, balanced, repeats, ?_⟩
    rw [isPattern, Nat.zero_add, slice_content]
    exact (alternativesOverlap_iff (balanced_groupContent balanced)).2 overlap

end Groups

end SearchPatterns
