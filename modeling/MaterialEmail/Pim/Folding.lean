import MaterialEmail.Pim.Interchange
import MaterialEmail.Library.Fallible

/-! Folding and the inspection of interchange documents. An inspection reads the first physical line of
each logical one, so it does not depend on the folding where that line says what the whole does. -/
namespace Pim

open JsString ContentLine Fallible

section Groups

/-- What stands in a document: lines that do not start with a blank, and those that continue them. -/
structure Folded.WellFormed (folded : Folded) : Prop where
  first : startsWithBlank folded.first = false
  continuations : ∀ line ∈ folded.continuations, startsWithBlank line = true

theorem gather_spec (lines : List JsString) :
    lines = (gather lines).1 ++ (gather lines).2.flatMap (fun folded => folded.first :: folded.continuations) ∧
      (∀ line ∈ (gather lines).1, startsWithBlank line = true) ∧
      ∀ folded ∈ (gather lines).2, Folded.WellFormed folded := by
  induction lines with
  | nil => simp [gather]
  | cons line rest ih =>
    obtain ⟨whole, blanks, groups⟩ := ih
    unfold gather
    cases blank : startsWithBlank line with
    | true =>
      refine ⟨?_, ?_, groups⟩
      · simpa using whole
      · simpa [blank] using blanks
    | false =>
      refine ⟨?_, by simp, ?_⟩
      · simpa using whole
      · simp only [Bool.false_eq_true, if_false, List.mem_cons, forall_eq_or_imp]
        exact ⟨⟨blank, blanks⟩, groups⟩

end Groups

variable (letters : LetterCase)

/-- The properties whose values an inspection looks at: UIDs are compared in calendars only. -/
def inspectedNames : PimInterchangeFormat → List JsString
  | .vcard => [ofString "BEGIN", ofString "END", ofString "VERSION"]
  | .icalendar => [ofString "BEGIN", ofString "END", ofString "VERSION", ofString "UID"]

variable (format : PimInterchangeFormat)

/-- A property as far as an inspection looks at it. -/
def relevant (property : JsString × JsString) : JsString × JsString :=
  if property.1 ∈ inspectedNames format then property else (property.1, [])

/-- The first physical line of a logical one says what the whole does. -/
structure ReadsAlike (folded : Folded) : Prop where
  /-- Nothing continues an empty line. -/
  continued : folded.first = [] → folded.continuations = []
  reading : folded.first ≠ [] →
    (readLine letters folded.first).map (relevant format) = (readLine letters folded.whole).map (relevant format)

instance (folded : Folded) : Decidable (ReadsAlike letters format folded) :=
  decidable_of_iff ((folded.first = [] → folded.continuations = []) ∧ (folded.first ≠ [] →
      (readLine letters folded.first).map (relevant format) = (readLine letters folded.whole).map (relevant format)))
    ⟨fun ⟨continued, reading⟩ => ⟨continued, reading⟩, fun ⟨continued, reading⟩ => ⟨continued, reading⟩⟩

def ReadsAlikeThroughout (source : JsString) : Prop :=
  ∀ folded ∈ groupLines (normalizedLines source), ReadsAlike letters format folded

def ComponentInspection.relevant (inspection : ComponentInspection) : ComponentInspection :=
  { inspection with properties := inspection.properties.map (Pim.relevant format) }

instance (source : JsString) : Decidable (ReadsAlikeThroughout letters format source) :=
  inferInstanceAs (Decidable (∀ folded ∈ _, _))

variable {letters format} {allowed : List JsString} {inspection : ComponentInspection}

theorem begin_inspected : ofString "BEGIN" ∈ inspectedNames format := by
  cases format <;> decide

theorem end_inspected : ofString "END" ∈ inspectedNames format := by
  cases format <;> decide

section Steps

@[simp] theorem relevant_fst (property : JsString × JsString) : (relevant format property).1 = property.1 := by
  unfold relevant
  split <;> rfl

theorem relevant_relevant (property : JsString × JsString) :
    relevant format (relevant format property) = relevant format property := by
  by_cases member : property.1 ∈ inspectedNames format
  · have same : relevant format property = property := if_pos member
    rw [same, same]
  · have cleared : relevant format property = (property.1, []) := if_neg member
    rw [cleared]
    exact if_neg member

theorem inspectProperty_relevant (name value : JsString) :
    (inspectProperty letters allowed name value inspection).map (ComponentInspection.relevant format) =
      (inspectProperty letters allowed (relevant format (name, value)).1 (relevant format (name, value)).2 (inspection.relevant format)).map
        (ComponentInspection.relevant format) := by
  have sameName : (relevant format (name, value)).1 = name := relevant_fst _
  rw [sameName]
  unfold inspectProperty
  by_cases begins : name = ofString "BEGIN"
  · have same : (relevant format (name, value)).2 = value := by rw [relevant, if_pos (begins ▸ begin_inspected)]
    rw [if_pos begins, if_pos begins, same]
    by_cases isAllowed : letters.upper value ∈ allowed
    · simp [isAllowed, Except.map, ComponentInspection.relevant, relevant_relevant]
    · simp [isAllowed, Except.map]
  · rw [if_neg begins, if_neg begins]
    by_cases ends : name = ofString "END"
    · have same : (relevant format (name, value)).2 = value := by rw [relevant, if_pos (ends ▸ end_inspected)]
      rw [if_pos ends, if_pos ends, same]
      by_cases balanced : inspection.stack.head? = some (letters.upper value)
      · simp [balanced, Except.map, ComponentInspection.relevant, relevant_relevant]
      · simp [balanced, Except.map, ComponentInspection.relevant]
    · have again : relevant format (name, (relevant format (name, value)).2) = relevant format (name, value) := by
        have pair : (name, (relevant format (name, value)).2) = relevant format (name, value) := Prod.ext sameName.symm rfl
        rw [pair, relevant_relevant]
      rw [if_neg ends, if_neg ends]
      by_cases outside : inspection.stack = []
      · simp [outside, Except.map, ComponentInspection.relevant]
      · simp [outside, Except.map, ComponentInspection.relevant, relevant_relevant, again]

theorem inspectProperty_previous {name value : JsString} {after : ComponentInspection}
    (ok : inspectProperty letters allowed name value inspection = .ok after) : after.previousWasProperty = true := by
  unfold inspectProperty at ok
  simp only at ok
  split at ok
  · split at ok <;> cases ok
    rfl
  · split at ok
    · split at ok <;> cases ok
      rfl
    · split at ok <;> cases ok
      rfl

/-- Lines that start with a blank change nothing after a property. -/
theorem inspect_continuations {lines : List JsString} (blank : ∀ line ∈ lines, startsWithBlank line = true)
    (previous : inspection.previousWasProperty = true) :
    lines.foldlM (inspectLine letters allowed) inspection = .ok inspection := by
  induction lines with
  | nil => rfl
  | cons line rest ih =>
    have isBlank := blank line List.mem_cons_self
    have nonempty : line ≠ [] := by
      rintro rfl
      cases isBlank
    have one : inspectLine letters allowed inspection line = .ok inspection := by
      simp [inspectLine, nonempty, isBlank, previous]
    rw [List.foldlM_cons, one]
    exact ih fun other member => blank other (List.mem_cons_of_mem _ member)

end Steps

section Documents

variable {first : JsString} {inspection' : ComponentInspection}

/-- Properties that are alike for an inspection do the same to inspections that are alike. -/
theorem inspectProperty_alike {property property' : JsString × JsString}
    (same : relevant format property = relevant format property')
    (alike : inspection.relevant format = inspection'.relevant format) :
    (inspectProperty letters allowed property.1 property.2 inspection).map (ComponentInspection.relevant format) =
      (inspectProperty letters allowed property'.1 property'.2 inspection').map (ComponentInspection.relevant format) := by
  have one := @inspectProperty_relevant letters format allowed inspection property.1 property.2
  have two := @inspectProperty_relevant letters format allowed inspection' property'.1 property'.2
  rw [same, alike] at one
  exact one.trans two.symm

theorem inspectLine_property (nonempty : first ≠ []) (unblank : startsWithBlank first = false) :
    inspectLine letters allowed inspection first = (do
      let property ← readLine letters first
      inspectProperty letters allowed property.1 property.2 inspection) := by
  unfold inspectLine
  rw [if_neg nonempty, unblank]
  rfl

theorem inspectLine_alike {line line' : JsString} (nonempty : line ≠ []) (unblank : startsWithBlank line = false)
    (nonempty' : line' ≠ []) (unblank' : startsWithBlank line' = false)
    (same : (readLine letters line).map (relevant format) = (readLine letters line').map (relevant format))
    (alike : inspection.relevant format = inspection'.relevant format) :
    (inspectLine letters allowed inspection line).map (ComponentInspection.relevant format) =
      (inspectLine letters allowed inspection' line').map (ComponentInspection.relevant format) := by
  rw [inspectLine_property nonempty unblank, inspectLine_property nonempty' unblank']
  cases one : readLine letters line with
  | error message =>
    cases two : readLine letters line' with
    | error message' =>
      rw [one, two] at same
      cases same
      rfl
    | ok property' =>
      rw [one, two] at same
      cases same
  | ok property =>
    cases two : readLine letters line' with
    | error message' =>
      rw [one, two] at same
      cases same
    | ok property' =>
      rw [one, two] at same
      simp only [Except.map, Except.ok.injEq] at same
      exact inspectProperty_alike same alike

variable (letters format allowed) in
/-- Lines that an inspection takes alike, wherever it stands. -/
def Agree (lines lines' : List JsString) : Prop :=
  ∀ inspection inspection' : ComponentInspection, inspection.relevant format = inspection'.relevant format →
    (lines.foldlM (inspectLine letters allowed) inspection).map (ComponentInspection.relevant format) =
      (lines'.foldlM (inspectLine letters allowed) inspection').map (ComponentInspection.relevant format)

theorem Agree.append {lines lines' rest rest' : List JsString} (front : Agree letters format allowed lines lines')
    (back : Agree letters format allowed rest rest') : Agree letters format allowed (lines ++ rest) (lines' ++ rest') := by
  intro inspection inspection' alike
  rw [List.foldlM_append, List.foldlM_append]
  have one := front inspection inspection' alike
  cases first : lines.foldlM (inspectLine letters allowed) inspection with
  | error message =>
    cases second : lines'.foldlM (inspectLine letters allowed) inspection' with
    | error message' =>
      rw [first, second] at one
      cases one
      rfl
    | ok after' =>
      rw [first, second] at one
      cases one
  | ok after =>
    cases second : lines'.foldlM (inspectLine letters allowed) inspection' with
    | error message' =>
      rw [first, second] at one
      cases one
    | ok after' =>
      rw [first, second] at one
      simp only [Except.map, Except.ok.injEq] at one
      exact back after after' one

theorem startsWithBlank_append (nonempty : first ≠ []) (rest : JsString) :
    startsWithBlank (first ++ rest) = startsWithBlank first := by
  cases first with
  | nil => exact absurd rfl nonempty
  | cons unit others => rfl

theorem Agree.folded {folded : Folded} (formed : Folded.WellFormed folded) (reads : ReadsAlike letters format folded) :
    Agree letters format allowed (folded.first :: folded.continuations) [folded.whole] := by
  obtain ⟨first, continuations⟩ := folded
  intro inspection inspection' alike
  by_cases nonempty : first = []
  · have alone := reads.continued nonempty
    simp only at alone
    subst nonempty alone
    simp only [Folded.whole, List.flatMap_nil, List.append_nil, List.foldlM_cons, List.foldlM_nil, inspectLine]
    simp only [if_true, Except.map, bind, Except.bind, pure, Except.pure, Except.ok.injEq]
    simp only [ComponentInspection.relevant, ComponentInspection.mk.injEq] at alike ⊢
    exact ⟨alike.1, alike.2.1, alike.2.2.1, trivial⟩
  · have unblank : startsWithBlank first = false := formed.first
    have wholeNonempty : Folded.whole ⟨first, continuations⟩ ≠ [] := by simp [Folded.whole, nonempty]
    have wholeUnblank : startsWithBlank (Folded.whole ⟨first, continuations⟩) = false :=
      (startsWithBlank_append nonempty _).trans unblank
    have one : (inspectLine letters allowed inspection first).map (ComponentInspection.relevant format) =
        (inspectLine letters allowed inspection' (Folded.whole ⟨first, continuations⟩)).map (ComponentInspection.relevant format) :=
      inspectLine_alike nonempty unblank wholeNonempty wholeUnblank (reads.reading nonempty) alike
    rw [List.foldlM_cons, List.foldlM_cons]
    simp only [List.foldlM_nil, bind_pure]
    cases after : inspectLine letters allowed inspection first with
    | error message =>
      rw [after] at one
      exact one
    | ok taken =>
      rw [after] at one
      have previous : taken.previousWasProperty = true := by
        rw [inspectLine_property nonempty unblank] at after
        obtain ⟨property, -, takes⟩ := bind_eq_ok after
        exact inspectProperty_previous takes
      simp only [bind, Except.bind]
      rw [inspect_continuations formed.continuations previous]
      exact one

theorem Agree.refl (lines : List JsString) : Agree letters format allowed lines lines := by
  induction lines with
  | nil =>
    intro inspection inspection' alike
    simpa [Except.map, pure, Except.pure] using alike
  | cons line rest ih =>
    have head : Agree letters format allowed [line] [line] := by
      intro inspection inspection' alike
      rw [List.foldlM_cons, List.foldlM_cons]
      simp only [List.foldlM_nil, bind_pure]
      by_cases nonempty : line = []
      · subst nonempty
        simp only [inspectLine, if_true, Except.map, Except.ok.injEq]
        simp only [ComponentInspection.relevant, ComponentInspection.mk.injEq] at alike ⊢
        exact ⟨alike.1, alike.2.1, alike.2.2.1, trivial⟩
      · cases blank : startsWithBlank line with
        | false => exact inspectLine_alike nonempty blank nonempty blank rfl alike
        | true =>
          have previous : (inspection.relevant format).previousWasProperty = (inspection'.relevant format).previousWasProperty := by
            rw [alike]
          simp only [ComponentInspection.relevant] at previous
          simp only [inspectLine, if_neg nonempty, blank, if_true, previous]
          split
          · simpa [Except.map] using alike
          · rfl
    exact head.append ih

theorem Agree.groups {groups : List Folded} (formed : ∀ folded ∈ groups, Folded.WellFormed folded)
    (reads : ∀ folded ∈ groups, ReadsAlike letters format folded) :
    Agree letters format allowed (groups.flatMap fun folded => folded.first :: folded.continuations)
      (groups.map Folded.whole) := by
  induction groups with
  | nil => exact Agree.refl []
  | cons folded rest ih =>
    have head : Agree letters format allowed (folded.first :: folded.continuations) [folded.whole] :=
      Agree.folded (formed folded List.mem_cons_self) (reads folded List.mem_cons_self)
    have tail := ih (fun other member => formed other (List.mem_cons_of_mem _ member))
      fun other member => reads other (List.mem_cons_of_mem _ member)
    exact head.append tail

/-- What starts with a blank at the beginning of a document is refused. -/
theorem inspect_blank_start {rest : List JsString} (blank : startsWithBlank first = true) :
    (first :: rest).foldlM (inspectLine letters allowed) {} =
      .error (ofString "A folded interchange line must follow a property line.") := by
  have nonempty : first ≠ [] := by
    rintro rfl
    cases blank
  rw [List.foldlM_cons]
  simp [inspectLine, nonempty, blank, bind, Except.bind]

/-- Lines that read alike throughout are inspected like the lines that they unfold to. -/
theorem inspect_groupLines {lines : List JsString} (reads : ∀ folded ∈ groupLines lines, ReadsAlike letters format folded) :
    (lines.foldlM (inspectLine letters allowed) {}).map (ComponentInspection.relevant format) =
      (((groupLines lines).map Folded.whole).foldlM (inspectLine letters allowed) {}).map (ComponentInspection.relevant format) := by
  cases lines with
  | nil => rfl
  | cons first rest =>
    obtain ⟨isRest, blanks, formed⟩ := gather_spec rest
    simp only [groupLines, List.mem_cons, forall_eq_or_imp] at reads
    cases blank : startsWithBlank first with
    | true =>
      have nonempty : first ≠ [] := by
        rintro rfl
        cases blank
      have wholeBlank : startsWithBlank (Folded.whole ⟨first, (gather rest).1⟩) = true :=
        (startsWithBlank_append nonempty _).trans blank
      rw [inspect_blank_start blank, groupLines, List.map_cons, inspect_blank_start wholeBlank]
    | false =>
      have head : Agree letters format allowed (first :: (gather rest).1) [Folded.whole ⟨first, (gather rest).1⟩] :=
        Agree.folded ⟨blank, blanks⟩ reads.1
      have lines : first :: rest =
          (first :: (gather rest).1) ++ (gather rest).2.flatMap fun folded => folded.first :: folded.continuations := by
        rw [List.cons_append, ← isRest]
      simp only [groupLines, List.map_cons]
      rw [lines]
      exact head.append (Agree.groups formed reads.2) {} {} rfl

theorem inspectComponents_groupLines {lines : List JsString}
    (reads : ∀ folded ∈ groupLines lines, ReadsAlike letters format folded) :
    (inspectComponents letters lines allowed).map (ComponentInspection.relevant format) =
      (inspectComponents letters ((groupLines lines).map Folded.whole) allowed).map (ComponentInspection.relevant format) := by
  have folds : (lines.foldlM (inspectLine letters allowed) {}).map (ComponentInspection.relevant format) =
      (((groupLines lines).map Folded.whole).foldlM (inspectLine letters allowed) {}).map (ComponentInspection.relevant format) :=
    inspect_groupLines reads
  unfold inspectComponents
  cases one : lines.foldlM (inspectLine letters allowed) {} with
  | error message =>
    cases two : ((groupLines lines).map Folded.whole).foldlM (inspectLine letters allowed) {} with
    | error message' =>
      rw [one, two] at folds
      cases folds
      rfl
    | ok after' =>
      rw [one, two] at folds
      cases folds
  | ok after =>
    cases two : ((groupLines lines).map Folded.whole).foldlM (inspectLine letters allowed) {} with
    | error message' =>
      rw [one, two] at folds
      cases folds
    | ok after' =>
      rw [one, two] at folds
      simp only [Except.map, Except.ok.injEq] at folds
      have stack : (after.relevant format).stack = (after'.relevant format).stack := by rw [folds]
      simp only [ComponentInspection.relevant] at stack
      simp only [bind, Except.bind, stack]
      cases after'.stack with
      | nil => simp [Except.map, pure, Except.pure, folds]
      | cons component rest => rfl

/-- The counts of an inspection. -/
def PimInterchangeInspection.counts (inspection : PimInterchangeInspection) : Nat × Nat × Nat × Nat × Nat :=
  (inspection.contactCount, inspection.eventCount, inspection.taskCount, inspection.timeZoneCount,
    inspection.recurrenceRuleCount)

theorem filter_relevant (inspection : ComponentInspection) (name : JsString) :
    (inspection.relevant format).properties.filter (·.1 = name) = (inspection.properties.filter (·.1 = name)).map (relevant format) := by
  unfold ComponentInspection.relevant
  rw [List.filter_map]
  congr 1
  apply List.filter_congr
  intro property _
  simp

theorem values_relevant (inspection : ComponentInspection) {name : JsString} (looked : name ∈ inspectedNames format) :
    (inspection.relevant format).values name = inspection.values name := by
  unfold ComponentInspection.values
  rw [filter_relevant, List.map_map]
  apply List.map_congr_left
  intro property member
  have isName : property.1 = name := by simpa using (List.mem_filter.1 member).2
  have same : relevant format property = property := if_pos (isName ▸ looked)
  simp [same]

theorem length_values_relevant (inspection : ComponentInspection) (name : JsString) :
    ((inspection.relevant format).values name).length = (inspection.values name).length := by
  unfold ComponentInspection.values
  rw [filter_relevant, List.length_map, List.length_map, List.length_map]

theorem values_nil_relevant (inspection : ComponentInspection) (name : JsString) :
    (inspection.relevant format).values name = [] ↔ inspection.values name = [] := by
  rw [← List.length_eq_zero_iff, length_values_relevant, List.length_eq_zero_iff]

theorem judgeVCard_relevant (size lineCount : Nat) (inspection : ComponentInspection) :
    judgeVCard size lineCount (inspection.relevant .vcard) = judgeVCard size lineCount inspection := by
  unfold judgeVCard
  rw [values_relevant inspection (by decide)]
  rfl

theorem judgeICalendar_relevant (size lineCount : Nat) (inspection : ComponentInspection) :
    judgeICalendar size lineCount (inspection.relevant .icalendar) = judgeICalendar size lineCount inspection := by
  unfold judgeICalendar
  simp only [values_relevant inspection (show ofString "UID" ∈ inspectedNames .icalendar by decide),
    values_relevant inspection (show ofString "VERSION" ∈ inspectedNames .icalendar by decide), ne_eq,
    values_nil_relevant, length_values_relevant]
  rfl

/-- Size and number of the lines do not matter for what is counted. -/
theorem counts_judgeVCard (size size' lineCount lineCount' : Nat) (inspection : ComponentInspection) :
    (judgeVCard size lineCount inspection).map PimInterchangeInspection.counts =
      (judgeVCard size' lineCount' inspection).map PimInterchangeInspection.counts := by
  simp only [judgeVCard, apply_ite (Except.map PimInterchangeInspection.counts)]
  simp only [Except.map, PimInterchangeInspection.counts]

theorem counts_judgeICalendar (size size' lineCount lineCount' : Nat) (inspection : ComponentInspection) :
    (judgeICalendar size lineCount inspection).map PimInterchangeInspection.counts =
      (judgeICalendar size' lineCount' inspection).map PimInterchangeInspection.counts := by
  simp only [judgeICalendar, apply_ite (Except.map PimInterchangeInspection.counts)]
  simp only [Except.map, PimInterchangeInspection.counts]

theorem isOk_iff {outcome : Except ε α} : outcome.isOk ↔ ∃ value, outcome = .ok value := by
  cases outcome with
  | error error => simp [Except.isOk, Except.toBool]
  | ok value => simp [Except.isOk, Except.toBool]

theorem bounds_lines {source : JsString} {bounds : Nat × List JsString}
    (inBounds : assertSourceBounds source = .ok bounds) : bounds = (byteLength source, normalizedLines source) := by
  unfold assertSourceBounds at inBounds
  simp only at inBounds
  repeat' split at inBounds
  all_goals cases inBounds
  rfl

/-- Documents that unfold to the same lines and read alike are inspected alike. -/
theorem inspectComponents_alike {lines lines' : List JsString}
    (same : (groupLines lines).map Folded.whole = (groupLines lines').map Folded.whole)
    (reads : ∀ folded ∈ groupLines lines, ReadsAlike letters format folded)
    (reads' : ∀ folded ∈ groupLines lines', ReadsAlike letters format folded) :
    (inspectComponents letters lines allowed).map (ComponentInspection.relevant format) =
      (inspectComponents letters lines' allowed).map (ComponentInspection.relevant format) := by
  rw [inspectComponents_groupLines reads, inspectComponents_groupLines reads', same]

theorem judge_alike {outcome outcome' : Checked ComponentInspection}
    {judge judge' : ComponentInspection → Checked PimInterchangeInspection}
    (alike : outcome.map (ComponentInspection.relevant format) = outcome'.map (ComponentInspection.relevant format))
    (relevant : ∀ inspection, judge (inspection.relevant format) = judge inspection)
    (counts : ∀ inspection, (judge inspection).map PimInterchangeInspection.counts =
      (judge' inspection).map PimInterchangeInspection.counts)
    (relevant' : ∀ inspection, judge' (inspection.relevant format) = judge' inspection) :
    (outcome >>= judge).map PimInterchangeInspection.counts =
      (outcome' >>= judge').map PimInterchangeInspection.counts := by
  cases outcome with
  | error message =>
    cases outcome' with
    | error message' =>
      cases alike
      rfl
    | ok inspection' => cases alike
  | ok inspection =>
    cases outcome' with
    | error message' => cases alike
    | ok inspection' =>
      simp only [Except.map, Except.ok.injEq] at alike
      simp only [bind, Except.bind]
      rw [← relevant, alike, counts, relevant']

/-- What an inspection finds does not depend on the folding, for documents that read alike throughout. -/
theorem inspection_fold_invariant (format : PimInterchangeFormat) (source source' : JsString)
    (same : logicalLines source = logicalLines source') (inBounds : (assertSourceBounds source).isOk)
    (inBounds' : (assertSourceBounds source').isOk) (alike : ReadsAlikeThroughout letters format source)
    (alike' : ReadsAlikeThroughout letters format source') :
    (inspectPimInterchange letters format source).map PimInterchangeInspection.counts =
      (inspectPimInterchange letters format source').map PimInterchangeInspection.counts := by
  obtain ⟨bounds, isBounds⟩ := isOk_iff.1 inBounds
  obtain ⟨bounds', isBounds'⟩ := isOk_iff.1 inBounds'
  unfold inspectPimInterchange
  rw [isBounds, isBounds', bounds_lines isBounds, bounds_lines isBounds']
  cases format with
  | vcard =>
    exact judge_alike (inspectComponents_alike same alike alike') (judgeVCard_relevant _ _)
      (counts_judgeVCard _ _ _ _) (judgeVCard_relevant _ _)
  | icalendar =>
    exact judge_alike (inspectComponents_alike same alike alike') (judgeICalendar_relevant _ _)
      (counts_judgeICalendar _ _ _ _) (judgeICalendar_relevant _ _)

/-- A calendar of two events, whose second UID is written as given. -/
def exampleCalendar (secondUid summary : JsString) : JsString :=
  ofString "BEGIN:VCALENDAR\r\nVERSION:2.0\r\nBEGIN:VEVENT\r\nUID:lunch\r\n" ++ summary ++
    ofString "END:VEVENT\r\nBEGIN:VEVENT\r\n" ++ secondUid ++ ofString "END:VEVENT\r\nEND:VCALENDAR\r\n"

def exampleUnfolded : JsString := exampleCalendar (ofString "UID:lunch-2\r\n") (ofString "SUMMARY:Lunch\r\n")

theorem refoldedSummary_invariant :
    (inspectPimInterchange LetterCase.ascii .icalendar exampleUnfolded).map PimInterchangeInspection.counts =
      (inspectPimInterchange LetterCase.ascii .icalendar
        (exampleCalendar (ofString "UID:lunch-2\r\n") (ofString "SUMMARY:Lu\r\n nch\r\n"))).map
          PimInterchangeInspection.counts :=
  inspection_fold_invariant .icalendar _ _ (by decide +kernel) (by decide +kernel) (by decide +kernel)
    (by decide) (by decide)

/-- A fold within a UID hides what tells it from another. -/
theorem refoldedUid_refused :
    let refolded := exampleCalendar (ofString "UID:lunch\r\n -2\r\n") (ofString "SUMMARY:Lunch\r\n")
    logicalLines exampleUnfolded = logicalLines refolded ∧ (assertSourceBounds exampleUnfolded).isOk ∧
      (assertSourceBounds refolded).isOk ∧
      (inspectPimInterchange LetterCase.ascii .icalendar exampleUnfolded).map PimInterchangeInspection.counts =
        .ok (0, 2, 0, 0, 0) ∧
      inspectPimInterchange LetterCase.ascii .icalendar refolded =
        .error (ofString "Local event and task UIDs must be unique within one iCalendar document.") := by
  decide +kernel

end Documents

end Pim
