import MaterialEmail.Pim.ICalendar
import MaterialEmail.Pim.Folding
import Mathlib.Data.List.Perm.Subperm
import Mathlib.Data.List.Flatten
import Mathlib.Data.List.Nodup

/-! The components of a calendar that the inspection counts, and those that the parser returns. The
inspection reads the first physical line of a property, the parser reads the whole of it; the inspection
counts components wherever they are, the parser returns those directly in the calendar. -/
namespace Pim

open JsString ContentLine Fallible

/-- A property as the inspection and the parser read it. -/
structure Reading where
  seen : JsString
  property : ICalendarProperty

/-- A component that is opened: how many are around it, and what the inspection and the parser take it for. -/
structure Opening where
  depth : Nat
  seen : JsString
  named : JsString

/-- A record for the parser. -/
def Opening.isRecord (component : JsString) (opening : Opening) : Bool :=
  opening.depth = 1 && opening.named = component

/-- Components that the inspection counts without there being a record. -/
def phantoms (component : JsString) (openings : List Opening) : List Opening :=
  openings.filter fun opening => opening.seen = component && !opening.isRecord component

/-- Records that the inspection does not take for what they are. -/
def hidden (component : JsString) (openings : List Opening) : List Opening :=
  openings.filter fun opening => opening.seen ≠ component && opening.isRecord component

/-- A text that names a record, as the record has it. -/
def Reading.meaning (reading : Reading) : JsString := trim (unescapeText reading.property.value)

variable (host : Host)

def reading (folded : Folded) : Option Reading := do
  let (_, seen) ← (readLine host.toLetterCase folded.first).toOption
  let property ← (parseProperty host folded.whole).toOption
  return ⟨seen, property⟩

def readings (source : JsString) : List Reading := (groupLines (normalizedLines source)).filterMap (reading host)

def openingsFrom (depth : Nat) : List Reading → List Opening
  | [] => []
  | reading :: rest =>
    if reading.property.name = ofString "BEGIN" then
      ⟨depth, host.upper reading.seen, host.upper reading.property.value⟩ :: openingsFrom (depth + 1) rest
    else if reading.property.name = ofString "END" then openingsFrom (depth - 1) rest
    else openingsFrom depth rest

def openings (source : JsString) : List Opening := openingsFrom host 0 (readings host source)

/-- The lines that name records. -/
def uidReadings (readings : List Reading) : List Reading := readings.filter (·.property.name = ofString "UID")

/-- The inspection sees the records of a document as they are. -/
structure SeenAsTheyAre (source : JsString) : Prop where
  events : (phantoms (ofString "VEVENT") (openings host source)).length =
    (hidden (ofString "VEVENT") (openings host source)).length
  tasks : (phantoms (ofString "VTODO") (openings host source)).length =
    (hidden (ofString "VTODO") (openings host source)).length
  /-- What names the same record looks the same. -/
  uids : ∀ first ∈ uidReadings (readings host source), ∀ second ∈ uidReadings (readings host source),
    first.meaning = second.meaning → first.seen = second.seen

/-- No record is dropped, and none is there twice. -/
structure ParsedICalendarBundle.Complete (bundle : ParsedICalendarBundle) (inspection : PimInterchangeInspection) : Prop where
  events : bundle.events.length = inspection.eventCount
  tasks : bundle.tasks.length = inspection.taskCount
  uids : (bundle.events.map (·.uid) ++ bundle.tasks.map (·.uid)).Nodup

variable {host} {folded : Folded} {inspection inspection' : ComponentInspection} {allowed : List JsString}

section Names

variable {base rest line : JsString}

theorem isNameUnit_ne {unit other : UInt16} (isName : isNameUnit unit = true) (differs : isNameUnit other = false) :
    unit ≠ other := by
  rintro rfl
  rw [isName] at differs
  cases differs

theorem readLine_name {name seen : JsString} {letters : LetterCase} (ok : readLine letters line = .ok (name, seen)) :
    ∃ base rest, line = base ++ rest ∧ (∀ unit ∈ base, isNameUnit unit = true) ∧
      (rest.head? = some 58 ∨ rest.head? = some 59) ∧ name = letters.upper base := by
  unfold readLine at ok
  simp only at ok
  split at ok
  · cases ok
  · rename_i separated
    rw [not_or] at separated
    split at ok
    · cases ok
    · rename_i isRaw
      simp only [Except.ok.injEq, Prod.mk.injEq] at ok
      obtain ⟨rfl, -⟩ := ok
      simp only [Bool.not_eq_true', Bool.not_eq_false] at isRaw
      obtain ⟨rawName, isRawName'⟩ : ∃ rawName, line.takeWhile (· ≠ 58) = rawName := ⟨_, rfl⟩
      rw [isRawName'] at separated isRaw ⊢
      have behind : ∃ value, line = rawName ++ 58 :: value := by
        have parts : rawName ++ line.dropWhile (· ≠ 58) = line := by
          rw [← isRawName']
          exact List.takeWhile_append_dropWhile
        cases colon : line.dropWhile (· ≠ 58) with
        | nil =>
          rw [colon, List.append_nil] at parts
          exact absurd parts separated.2
        | cons unit value =>
          have stops := List.head?_dropWhile_not (· ≠ 58) line
          rw [colon] at stops
          have isColon : unit = 58 := by simpa using stops
          exact ⟨value, by rw [← parts, colon, isColon]⟩
      obtain ⟨value, isLine⟩ := behind
      have split : rawName.takeWhile isNameUnit ++ rawName.dropWhile isNameUnit = rawName :=
        List.takeWhile_append_dropWhile
      have plain : ∀ unit ∈ rawName.takeWhile isNameUnit, isNameUnit unit = true :=
        fun unit member => List.mem_takeWhile_imp member
      have noSemicolon : ∀ unit ∈ rawName.takeWhile isNameUnit, (decide (unit ≠ 59)) = true := by
        intro unit member
        simpa using isNameUnit_ne (plain unit member) (by decide : isNameUnit 59 = false)
      simp only [isRawName, Bool.and_eq_true] at isRaw
      cases behind : rawName.dropWhile isNameUnit with
      | nil =>
        rw [behind, List.append_nil] at split
        refine ⟨rawName, 58 :: value, isLine, fun unit member => plain unit (split.symm ▸ member), Or.inl rfl, ?_⟩
        have whole : rawName.takeWhile (· ≠ 59) = rawName :=
          List.takeWhile_eq_self_iff.2 fun unit member => noSemicolon unit (split.symm ▸ member)
        rw [whole]
      | cons unit params =>
        have isSemicolon : unit = 59 := by
          have second := isRaw.2
          rw [behind] at second
          simp only [Bool.and_eq_true, decide_eq_true_eq] at second
          exact second.1
        subst isSemicolon
        rw [behind] at split
        refine ⟨rawName.takeWhile isNameUnit, 59 :: params ++ 58 :: value, ?_, plain, Or.inr rfl, ?_⟩
        · rw [isLine, ← List.append_assoc, split]
        · have whole : rawName.takeWhile (· ≠ 59) = rawName.takeWhile isNameUnit := by
            conv_lhs => rw [← split]
            rw [List.takeWhile_append_of_pos noSemicolon]
            simp
          rw [whole]

theorem parseProperty_name {property : ICalendarProperty} (plain : ∀ unit ∈ base, isNameUnit unit = true)
    (starts : rest.head? = some 58 ∨ rest.head? = some 59) (ok : parseProperty host (base ++ rest) = .ok property) :
    property.name = host.upper base := by
  have separates : separatorFrom false (base ++ rest) = (separatorFrom false rest).map (· + base.length) :=
    separatorFrom_append fun unit member => ⟨isNameUnit_ne (plain unit member) (by decide),
      isNameUnit_ne (plain unit member) (by decide)⟩
  have splits : ∀ behind, splitUnescaped (base ++ behind) 59 = splitFrom 59 false false base behind := by
    intro behind
    unfold splitUnescaped
    rw [splitFrom_append fun unit member => ⟨isNameUnit_ne (plain unit member) (by decide),
      isNameUnit_ne (plain unit member) (by decide), isNameUnit_ne (plain unit member) (by decide)⟩, List.nil_append]
  have nameOf : ∀ separator, separatorFrom false (base ++ rest) = some separator →
      (splitUnescaped ((base ++ rest).take separator) 59).headD [] = base := by
    intro separator isSeparator
    rw [separates] at isSeparator
    obtain ⟨index, isIndex, rfl⟩ := Option.map_eq_some_iff.1 isSeparator
    have taken : (base ++ rest).take (index + base.length) = base ++ rest.take index := by
      rw [Nat.add_comm, List.take_length_add_append]
    rw [taken, splits]
    cases rest with
    | nil => simp at starts
    | cons unit behind =>
      simp only [List.head?_cons, Option.some.injEq] at starts
      rcases starts with rfl | rfl
      · simp only [separatorFrom] at isIndex
        simp at isIndex
        subst isIndex
        simp [splitFrom]
      · simp only [separatorFrom] at isIndex
        simp at isIndex
        obtain ⟨index', -, rfl⟩ := isIndex
        simp [splitFrom]
  unfold parseProperty at ok
  split at ok
  · cases ok
  · cases ok
  · rename_i separator _ isSeparator
    simp only [nameOf separator isSeparator] at ok
    split at ok
    · cases ok
    · obtain ⟨params, -, ok⟩ := bind_eq_ok ok
      cases ok
      rfl

end Names

section Runs

variable {letters : LetterCase} {groups : List Folded} {tree tree' : ComponentTree}

/-- An inspection up to whether the last line was a property. -/
def ComponentInspection.settled (inspection : ComponentInspection) : ComponentInspection :=
  { inspection with previousWasProperty := true }

theorem inspectProperty_settled (name seen : JsString) :
    inspectProperty letters allowed name seen inspection.settled = inspectProperty letters allowed name seen inspection := by
  unfold inspectProperty ComponentInspection.settled
  rfl

theorem settled_of_property {name seen : JsString}
    (ok : inspectProperty letters allowed name seen inspection = .ok inspection') : inspection'.settled = inspection' := by
  have previous := inspectProperty_previous ok
  cases inspection'
  cases previous
  rfl

theorem inspected_folded (formed : Folded.WellFormed folded)
    (ok : (folded.first :: folded.continuations).foldlM (inspectLine letters allowed) inspection = .ok inspection') :
    (folded.first = [] ∧ folded.continuations = [] ∧ inspection'.settled = inspection.settled) ∨
      (folded.first ≠ [] ∧ ∃ name seen, readLine letters folded.first = .ok (name, seen) ∧
        inspectProperty letters allowed name seen inspection.settled = .ok inspection'.settled) := by
  rw [List.foldlM_cons] at ok
  obtain ⟨between, first, rest⟩ := bind_eq_ok ok
  by_cases empty : folded.first = []
  · left
    rw [inspectLine, if_pos empty, Except.ok.injEq] at first
    subst first
    cases continuations : folded.continuations with
    | nil =>
      rw [continuations] at rest
      cases rest
      exact ⟨empty, rfl, rfl⟩
    | cons line others =>
      have blank := formed.continuations line (continuations ▸ List.mem_cons_self)
      have nonempty : line ≠ [] := by
        rintro rfl
        cases blank
      rw [continuations, List.foldlM_cons] at rest
      obtain ⟨_, stuck, -⟩ := bind_eq_ok rest
      simp [inspectLine, nonempty, blank] at stuck
  · right
    rw [inspectLine_property empty formed.first] at first
    obtain ⟨⟨name, seen⟩, read, takes⟩ := bind_eq_ok first
    rw [inspect_continuations formed.continuations (inspectProperty_previous takes), Except.ok.injEq] at rest
    subst rest
    refine ⟨empty, name, seen, read, ?_⟩
    rw [inspectProperty_settled, settled_of_property takes]
    exact takes

theorem unfold_continuations {logical : List JsString} {line : JsString} (nonempty : line ≠ [])
    {continuations : List JsString} (blank : ∀ line ∈ continuations, startsWithBlank line = true) :
    continuations.foldlM unfoldLine (logical ++ [line]) = .ok (logical ++ [line ++ continuations.flatMap List.tail]) := by
  induction continuations generalizing line with
  | nil => simp [pure, Except.pure]
  | cons next rest ih =>
    have isBlank := blank next List.mem_cons_self
    have step : unfoldLine (logical ++ [line]) next = .ok (logical ++ [line ++ next.tail]) := by
      simp [unfoldLine, isBlank, nonempty]
    have longer : line ++ next.tail ≠ [] := by simp [nonempty]
    rw [List.foldlM_cons, step]
    simp only [bind, Except.bind]
    rw [ih longer fun other member => blank other (List.mem_cons_of_mem _ member), List.flatMap_cons, List.append_assoc]

theorem unfold_folded {logical : List JsString} (formed : Folded.WellFormed folded)
    (unbroken : folded.first = [] → folded.continuations = []) :
    (folded.first :: folded.continuations).foldlM unfoldLine logical =
      .ok (logical ++ if folded.first = [] then [] else [folded.whole]) := by
  rw [List.foldlM_cons]
  by_cases empty : folded.first = []
  · rw [unbroken empty, empty]
    simp [unfoldLine, startsWithBlank, bind, Except.bind, pure, Except.pure]
  · have step : unfoldLine logical folded.first = .ok (logical ++ [folded.first]) := by
      simp [unfoldLine, formed.first, empty]
    rw [step]
    simp only [bind, Except.bind]
    rw [unfold_continuations empty formed.continuations, if_neg empty]
    rfl

theorem unfold_groups {logical : List JsString} (formed : ∀ folded ∈ groups, Folded.WellFormed folded)
    (unbroken : ∀ folded ∈ groups, folded.first = [] → folded.continuations = []) :
    (groups.flatMap fun folded => folded.first :: folded.continuations).foldlM unfoldLine logical =
      .ok (logical ++ (groups.filter (·.first ≠ [])).map Folded.whole) := by
  induction groups generalizing logical with
  | nil => simp [pure, Except.pure]
  | cons folded rest ih =>
    have head := @unfold_folded folded logical (formed folded List.mem_cons_self) (unbroken folded List.mem_cons_self)
    rw [List.flatMap_cons, List.foldlM_append, head]
    simp only [bind, Except.bind]
    rw [ih (fun other member => formed other (List.mem_cons_of_mem _ member))
      fun other member => unbroken other (List.mem_cons_of_mem _ member)]
    by_cases empty : folded.first = []
    · simp [empty]
    · simp [empty]

theorem inspected_unbroken (formed : ∀ folded ∈ groups, Folded.WellFormed folded)
    (ok : (groups.flatMap fun folded => folded.first :: folded.continuations).foldlM (inspectLine letters allowed)
      inspection = .ok inspection') :
    ∀ folded ∈ groups, folded.first = [] → folded.continuations = [] := by
  induction groups generalizing inspection with
  | nil => simp
  | cons folded rest ih =>
    rw [List.flatMap_cons, List.foldlM_append] at ok
    obtain ⟨between, first, others⟩ := bind_eq_ok ok
    intro other member empty
    rcases List.mem_cons.1 member with rfl | later
    · rcases inspected_folded (formed other List.mem_cons_self) first with ⟨-, alone, -⟩ | ⟨nonempty, -⟩
      · exact alone
      · exact absurd empty nonempty
    · exact ih (fun folded isIn => formed folded (List.mem_cons_of_mem _ isIn)) others other later empty

theorem reading_eq {name seen : JsString} {property : ICalendarProperty}
    (seenAs : readLine host.toLetterCase folded.first = .ok (name, seen))
    (readAs : parseProperty host folded.whole = .ok property) :
    reading host folded = some ⟨seen, property⟩ ∧ property.name = name := by
  constructor
  · unfold reading
    rw [seenAs, readAs]
    rfl
  · obtain ⟨base, rest, isLine, plain, starts, isName⟩ := readLine_name seenAs
    unfold Folded.whole at readAs
    rw [isLine, List.append_assoc] at readAs
    rw [isName]
    apply parseProperty_name plain _ readAs
    cases rest with
    | nil => simp at starts
    | cons unit others => exact starts

theorem runs_readings (formed : ∀ folded ∈ groups, Folded.WellFormed folded)
    (inspected : (groups.flatMap fun folded => folded.first :: folded.continuations).foldlM
      (inspectLine host.toLetterCase allowed) inspection = .ok inspection')
    (parsed : ((groups.filter (·.first ≠ [])).map Folded.whole).foldlM (parseLine host) tree = .ok tree') :
    (groups.filterMap (reading host)).foldlM (fun inspection reading =>
        inspectProperty host.toLetterCase allowed reading.property.name reading.seen inspection) inspection.settled =
      .ok inspection'.settled ∧
    (groups.filterMap (reading host)).foldlM (fun tree reading => addProperty host tree reading.property) tree =
      .ok tree' := by
  induction groups generalizing inspection tree with
  | nil =>
    cases inspected
    cases parsed
    exact ⟨rfl, rfl⟩
  | cons folded rest ih =>
    have others := fun other member => formed other (List.mem_cons_of_mem folded member)
    rw [List.flatMap_cons, List.foldlM_append] at inspected
    obtain ⟨between, first, inspected⟩ := bind_eq_ok inspected
    rcases inspected_folded (formed folded List.mem_cons_self) first with
      ⟨empty, alone, same⟩ | ⟨nonempty, name, seen, seenAs, takes⟩
    · have nothing : reading host folded = none := by
        unfold reading
        rw [empty]
        simp [readLine, Except.toOption]
      have skipped : (folded :: rest).filter (·.first ≠ []) = rest.filter (·.first ≠ []) := by simp [empty]
      rw [skipped] at parsed
      rw [List.filterMap_cons_none nothing, ← same]
      exact ih others inspected parsed
    · have kept : (folded :: rest).filter (·.first ≠ []) = folded :: rest.filter (·.first ≠ []) := by simp [nonempty]
      rw [kept, List.map_cons, List.foldlM_cons] at parsed
      obtain ⟨middle, line, parsed⟩ := bind_eq_ok parsed
      obtain ⟨property, readAs, adds⟩ := bind_eq_ok line
      obtain ⟨isReading, sameName⟩ := reading_eq seenAs readAs
      obtain ⟨one, two⟩ := ih others inspected parsed
      rw [List.filterMap_cons_some isReading, List.foldlM_cons, List.foldlM_cons]
      simp only [sameName, takes, adds, bind, Except.bind]
      exact ⟨one, two⟩

end Runs

section Inspections

variable {letters : LetterCase}

theorem inspectProperty_effect {name seen : JsString}
    (ok : inspectProperty letters allowed name seen inspection = .ok inspection') :
    inspection'.opened = inspection.opened ++ (if name = ofString "BEGIN" then [letters.upper seen] else []) ∧
      inspection'.values (ofString "UID") =
        inspection.values (ofString "UID") ++ if name = ofString "UID" then [seen] else [] := by
  unfold inspectProperty at ok
  simp only at ok
  by_cases begins : name = ofString "BEGIN"
  · have other : name ≠ ofString "UID" := by
      rw [begins]
      decide
    rw [if_pos begins] at ok
    split at ok
    · cases ok
    · cases ok
      rw [if_pos begins, if_neg other, List.append_nil]
      exact ⟨rfl, rfl⟩
  · rw [if_neg begins] at ok
    rw [if_neg begins, List.append_nil]
    by_cases ends : name = ofString "END"
    · have other : name ≠ ofString "UID" := by
        rw [ends]
        decide
      rw [if_pos ends] at ok
      split at ok
      · cases ok
      · cases ok
        rw [if_neg other, List.append_nil]
        exact ⟨rfl, rfl⟩
    · rw [if_neg ends] at ok
      split at ok
      · cases ok
      · cases ok
        refine ⟨rfl, ?_⟩
        by_cases isUid : name = ofString "UID"
        · simp [ComponentInspection.values, isUid]
        · simp [ComponentInspection.values, isUid]

theorem openingsFrom_seen (depth : Nat) (taken : List Reading) :
    (openingsFrom host depth taken).map (·.seen) =
      (taken.filter (·.property.name = ofString "BEGIN")).map fun reading => host.upper reading.seen := by
  induction taken generalizing depth with
  | nil => rfl
  | cons reading rest ih =>
    unfold openingsFrom
    by_cases begins : reading.property.name = ofString "BEGIN"
    · simp [begins, ih]
    · by_cases ends : reading.property.name = ofString "END"
      · have differs : ¬ ofString "END" = ofString "BEGIN" := by decide
        simp [ends, differs, ih]
      · simp [begins, ends, ih]

theorem inspection_run {taken : List Reading}
    (run : taken.foldlM (fun inspection reading =>
      inspectProperty host.toLetterCase allowed reading.property.name reading.seen inspection) inspection =
        .ok inspection') :
    inspection'.opened = inspection.opened ++ ((taken.filter (·.property.name = ofString "BEGIN")).map
        fun reading => host.upper reading.seen) ∧
      inspection'.values (ofString "UID") = inspection.values (ofString "UID") ++ (uidReadings taken).map (·.seen) := by
  induction taken generalizing inspection with
  | nil =>
    cases run
    simp [uidReadings]
  | cons reading rest ih =>
    rw [List.foldlM_cons] at run
    obtain ⟨between, first, run⟩ := bind_eq_ok run
    obtain ⟨opened, values⟩ := inspectProperty_effect first
    obtain ⟨openedLater, valuesLater⟩ := ih run
    constructor
    · rw [openedLater, opened, List.append_assoc]
      by_cases begins : reading.property.name = ofString "BEGIN"
      · simp [begins]
      · simp [begins]
    · rw [valuesLater, values, List.append_assoc]
      by_cases isUid : reading.property.name = ofString "UID"
      · simp [uidReadings, isUid]
      · simp [uidReadings, isUid]

end Inspections

section Trees

/-- A component without its children. -/
def ICalendarComponent.shape (component : ICalendarComponent) : JsString × List ICalendarProperty :=
  (component.name, component.properties)

/-- The components directly in an open calendar, in their order. -/
def directIn : List ICalendarComponent → List (JsString × List ICalendarProperty)
  | [] => []
  | [calendar] => calendar.children.map ICalendarComponent.shape
  | [component, calendar] => calendar.children.map ICalendarComponent.shape ++ [component.shape]
  | _ :: outer => directIn outer

/-- The components that are directly in a calendar. -/
def ComponentTree.direct (tree : ComponentTree) : List (JsString × List ICalendarProperty) :=
  tree.roots.flatMap (fun calendar => calendar.children.map ICalendarComponent.shape) ++ directIn tree.stack

/-- What names a component, of its own properties. -/
def uidValues (shape : JsString × List ICalendarProperty) : List JsString :=
  (shape.2.filter (·.name = ofString "UID")).map fun property => trim (unescapeText property.value)

variable {tree tree' : ComponentTree} {property : ICalendarProperty}

theorem directIn_children (component parent : ICalendarComponent) (outer : List ICalendarComponent)
    (children : List ICalendarComponent) :
    directIn ({ component with children := children } :: parent :: outer) = directIn (component :: parent :: outer) := by
  cases outer with
  | nil => rfl
  | cons other rest => rfl

theorem directIn_begin (name : JsString) (stack : List ICalendarComponent) :
    directIn (⟨name, [], []⟩ :: stack) = directIn stack ++ if stack.length = 1 then [(name, [])] else [] := by
  match stack with
  | [] => rfl
  | [calendar] => rfl
  | component :: calendar :: rest => simp [directIn]

theorem direct_close (roots outer : List ICalendarComponent) (component : ICalendarComponent) :
    (ComponentTree.close roots outer component).direct = (ComponentTree.mk roots (component :: outer)).direct := by
  match outer with
  | [] => simp [ComponentTree.close, ComponentTree.direct, directIn]
  | [calendar] => simp [ComponentTree.close, ComponentTree.direct, directIn]
  | parent :: calendar :: rest =>
    unfold ComponentTree.close ComponentTree.direct
    simp only [directIn_children]
    rfl

theorem directIn_property (component : ICalendarComponent) (outer : List ICalendarComponent) :
    (directIn ({ component with properties := component.properties ++ [property] } :: outer)).map (·.1) =
        (directIn (component :: outer)).map (·.1) ∧
      ((directIn ({ component with properties := component.properties ++ [property] } :: outer)).flatMap uidValues).Sublist
        ((directIn (component :: outer)).flatMap uidValues ++
          if property.name = ofString "UID" then [trim (unescapeText property.value)] else []) := by
  match outer with
  | [] => exact ⟨rfl, List.sublist_append_left _ _⟩
  | [calendar] =>
    refine ⟨by simp [directIn, ICalendarComponent.shape], ?_⟩
    by_cases isUid : property.name = ofString "UID"
    · simp [directIn, ICalendarComponent.shape, uidValues, isUid]
    · simp [directIn, ICalendarComponent.shape, uidValues, isUid]
  | parent :: calendar :: rest => exact ⟨rfl, List.sublist_append_left _ _⟩

theorem length_close (roots outer : List ICalendarComponent) (component : ICalendarComponent) :
    (ComponentTree.close roots outer component).stack.length = outer.length := by
  cases outer <;> rfl

theorem addProperty_direct (ok : addProperty host tree property = .ok tree') :
    tree'.direct.map (·.1) = tree.direct.map (·.1) ++
        (if property.name = ofString "BEGIN" ∧ tree.stack.length = 1 then [host.upper property.value] else []) ∧
      (tree'.direct.flatMap uidValues).Sublist (tree.direct.flatMap uidValues ++
        if property.name = ofString "UID" then [trim (unescapeText property.value)] else []) ∧
      tree'.stack.length = if property.name = ofString "BEGIN" then tree.stack.length + 1
        else if property.name = ofString "END" then tree.stack.length - 1 else tree.stack.length := by
  unfold addProperty at ok
  by_cases begins : property.name = ofString "BEGIN"
  · rw [if_pos begins] at ok
    cases ok
    have other : property.name ≠ ofString "UID" := by
      rw [begins]
      decide
    unfold ComponentTree.direct
    rw [directIn_begin, if_neg other, if_pos begins, List.append_nil]
    by_cases inCalendar : tree.stack.length = 1
    · simp [begins, inCalendar, uidValues]
    · simp [begins, inCalendar]
  · rw [if_neg begins] at ok
    by_cases ends : property.name = ofString "END"
    · have other : property.name ≠ ofString "UID" := by
        rw [ends]
        decide
      rw [if_pos ends] at ok
      rw [if_neg begins, if_pos ends, if_neg other, List.append_nil, if_neg fun both => begins both.1, List.append_nil]
      split at ok
      · rename_i component outer isStack
        split at ok
        · cases ok
          have same : (ComponentTree.close tree.roots outer component).direct = tree.direct := by
            rw [direct_close, ← isStack]
          rw [same, length_close, isStack]
          exact ⟨rfl, List.Sublist.refl _, rfl⟩
        · cases ok
      · cases ok
    · rw [if_neg ends] at ok
      rw [if_neg begins, if_neg ends, if_neg fun both => begins both.1, List.append_nil]
      split at ok
      · rename_i component outer isStack
        cases ok
        obtain ⟨names, values⟩ := @directIn_property property component outer
        unfold ComponentTree.direct
        rw [isStack]
        refine ⟨?_, ?_, rfl⟩
        · rw [List.map_append, List.map_append, names]
        · rw [List.flatMap_append, List.flatMap_append, List.append_assoc]
          exact values.append_left _
      · cases ok

/-- The components directly in a calendar are those that were opened with one component around them. -/
theorem tree_run {taken : List Reading}
    (run : taken.foldlM (fun tree reading => addProperty host tree reading.property) tree = .ok tree') :
    tree'.direct.map (·.1) = tree.direct.map (·.1) ++
        ((openingsFrom host tree.stack.length taken).filter (·.depth = 1)).map (·.named) ∧
      (tree'.direct.flatMap uidValues).Sublist
        (tree.direct.flatMap uidValues ++ (uidReadings taken).map Reading.meaning) := by
  induction taken generalizing tree with
  | nil =>
    cases run
    simp [openingsFrom, uidReadings]
  | cons reading rest ih =>
    rw [List.foldlM_cons] at run
    obtain ⟨between, first, run⟩ := bind_eq_ok run
    obtain ⟨names, values, depth⟩ := addProperty_direct first
    obtain ⟨namesLater, valuesLater⟩ := ih run
    constructor
    · rw [namesLater, names, depth, openingsFrom, List.append_assoc]
      by_cases begins : reading.property.name = ofString "BEGIN"
      · by_cases inCalendar : tree.stack.length = 1
        · simp [begins, inCalendar]
        · simp [begins, inCalendar]
      · by_cases ends : reading.property.name = ofString "END"
        · have differs : ¬ ofString "END" = ofString "BEGIN" := by decide
          simp [ends, differs]
        · simp [begins, ends]
    · have whole := valuesLater.trans (values.append_right _)
      by_cases isUid : reading.property.name = ofString "UID"
      · simpa [uidReadings, isUid, Reading.meaning] using whole
      · simpa [uidReadings, isUid] using whole

end Trees

section Documents

variable {lines : List JsString} {source : JsString}

theorem groupLines_spec {first : JsString} {rest : List JsString} (unblank : startsWithBlank first = false) :
    first :: rest = (groupLines (first :: rest)).flatMap (fun folded => folded.first :: folded.continuations) ∧
      ∀ folded ∈ groupLines (first :: rest), Folded.WellFormed folded := by
  obtain ⟨isRest, blanks, formed⟩ := gather_spec rest
  constructor
  · rw [groupLines, List.flatMap_cons, List.cons_append, ← isRest]
  · intro folded member
    rcases List.mem_cons.1 member with rfl | later
    · exact ⟨unblank, blanks⟩
    · exact formed folded later

theorem normalizedLines_mark (rest : JsString) : ∃ first others, normalizedLines (0xFEFF :: rest) = (0xFEFF :: first) :: others := by
  have unified : unifyNewlines (0xFEFF :: rest) = 0xFEFF :: unifyNewlines rest := by
    rw [unifyNewlines.eq_def]
    split
    · rename_i same
      exact absurd (List.cons.inj same).1 (by decide)
    · rename_i same
      obtain ⟨rfl, rfl⟩ := List.cons.inj same
      rfl
    · contradiction
  have parts := List.splitOnP_ne_nil (· == 10) (unifyNewlines rest)
  cases split : (unifyNewlines rest).splitOnP (· == 10) with
  | nil => exact absurd split parts
  | cons first others =>
    refine ⟨first, others, ?_⟩
    unfold normalizedLines List.splitOn
    rw [unified, List.splitOnP_cons_eq_if_modifyHead, split]
    rfl

theorem inspected_unmarked {allowed : List JsString} {inspection : ComponentInspection} {letters : LetterCase}
    (ok : (normalizedLines source).foldlM (inspectLine letters allowed) {} = .ok inspection) :
    dropByteOrderMark source = source := by
  unfold dropByteOrderMark
  split
  · rename_i rest
    obtain ⟨first, others, isLines⟩ := normalizedLines_mark rest
    rw [isLines, List.foldlM_cons] at ok
    obtain ⟨between, taken, -⟩ := bind_eq_ok ok
    rw [inspectLine_property (by simp) rfl] at taken
    obtain ⟨⟨name, seen⟩, read, -⟩ := bind_eq_ok taken
    obtain ⟨base, behind, isLine, plain, starts, -⟩ := readLine_name read
    cases base with
    | nil =>
      rw [List.nil_append] at isLine
      rw [← isLine] at starts
      simp at starts
    | cons unit others =>
      obtain ⟨rfl, -⟩ := List.cons.inj isLine
      exact absurd (plain _ List.mem_cons_self) (by decide)
  · rfl

theorem documents_run {inspection : ComponentInspection} {calendar : ICalendarComponent}
    (inspected : (normalizedLines source).foldlM (inspectLine host.toLetterCase calendarComponents) {} = .ok inspection)
    (parsed : parseComponents host source = .ok calendar) :
    inspection.opened = (openings host source).map (·.seen) ∧
      inspection.values (ofString "UID") = (uidReadings (readings host source)).map (·.seen) ∧
      calendar.children.map (·.name) = ((openings host source).filter (·.depth = 1)).map (·.named) ∧
      ((calendar.children.map ICalendarComponent.shape).flatMap uidValues).Sublist
        ((uidReadings (readings host source)).map Reading.meaning) := by
  unfold parseComponents at parsed
  obtain ⟨logical, unfolded, parsed⟩ := bind_eq_ok parsed
  obtain ⟨tree, walked, parsed⟩ := bind_eq_ok parsed
  unfold Pim.unfold at unfolded
  rw [inspected_unmarked inspected] at unfolded
  unfold openings readings
  cases isLines : normalizedLines source with
  | nil => exact absurd isLines (List.splitOnP_ne_nil _ _)
  | cons first rest =>
    rw [isLines] at inspected unfolded
    cases blank : startsWithBlank first with
    | true =>
      rw [inspect_blank_start blank] at inspected
      cases inspected
    | false =>
      obtain ⟨groups, formed⟩ := @groupLines_spec first rest blank
      rw [groups] at inspected unfolded
      rw [unfold_groups formed (inspected_unbroken formed inspected), List.nil_append, Except.ok.injEq] at unfolded
      rw [← unfolded] at walked
      obtain ⟨inspects, builds⟩ := runs_readings formed inspected walked
      obtain ⟨opened, values⟩ := inspection_run inspects
      obtain ⟨names, uids⟩ := tree_run builds
      have direct : tree.direct = calendar.children.map ICalendarComponent.shape := by
        split at parsed
        · rename_i root isStack isRoots
          split at parsed
          · cases parsed
            simp [ComponentTree.direct, isStack, isRoots, directIn]
          · cases parsed
        · cases parsed
      refine ⟨?_, values, ?_, ?_⟩
      · rw [openingsFrom_seen]
        exact opened
      · rw [direct, List.map_map] at names
        exact names
      · rw [direct] at uids
        exact uids

end Documents

section Counting

theorem length_filter_split (list : List α) (p q : α → Bool) :
    (list.filter p).length =
      (list.filter fun x => p x && q x).length + (list.filter fun x => p x && !q x).length := by
  induction list with
  | nil => rfl
  | cons x rest ih =>
    cases isP : p x <;> cases isQ : q x <;> simp [isP, isQ] <;> omega

/-- As many elements have one property as another if as many have only the one as only the other. -/
theorem length_filter_eq_iff (list : List α) (p q : α → Bool) :
    (list.filter q).length = (list.filter p).length ↔
      (list.filter fun x => p x && !q x).length = (list.filter fun x => !p x && q x).length := by
  have first := length_filter_split list p q
  have second := length_filter_split list q p
  have both : (list.filter fun x => q x && p x) = list.filter fun x => p x && q x := by simp only [Bool.and_comm]
  have only : (list.filter fun x => q x && !p x) = list.filter fun x => !p x && q x := by simp only [Bool.and_comm]
  rw [both, only] at second
  omega

theorem count_map (list : List α) (key : α → JsString) (value : JsString) :
    (list.map key).count value = (list.filter fun x => decide (key x = value)).length := by
  rw [List.count, List.countP_map, List.countP_eq_length_filter]
  congr 1
  apply List.filter_congr
  intro x _
  by_cases same : key x = value
  · simp [same]
  · simp [same]

theorem filters_subperm {p q : α → Bool} (list : List α) (apart : ∀ x, p x = true → q x = false) :
    (list.filter p ++ list.filter q).Subperm list := by
  have inside : (list.filter q).Sublist (list.filter fun x => !p x) := by
    apply List.monotone_filter_right
    intro x isQ
    cases isP : p x with
    | true => simp [apart x isP] at isQ
    | false => rfl
  exact (inside.append_left _).subperm.trans (List.filter_append_perm p list).subperm

end Counting

section Records

variable {component : ICalendarComponent}

theorem requiredProperty_spec {name : String} {property : ICalendarProperty}
    (ok : requiredProperty component name = .ok property) : propertiesNamed component name = [property] := by
  unfold requiredProperty at ok
  obtain ⟨found, isFound, ok⟩ := bind_eq_ok ok
  split at ok
  · split at ok
    · cases ok
    · cases ok
      unfold optionalProperty at isFound
      split at isFound
      · cases isFound
      · rename_i only
        cases isFound
        exact only
      · cases isFound
  · cases ok

theorem checked_ok {known : Bool} {parsed : Option α} {value : α} (ok : checked known parsed = .ok value) :
    parsed = some value := by
  unfold checked at ok
  split at ok
  · split at ok
    · cases ok
      rfl
    · cases ok
  · cases ok

theorem createSchema_uid {letters : LetterCase} {kind : PimEntityKind} {uid : JsString} {content : Content kind}
    {input : CreateInput kind} (ok : createSchema letters kind ⟨some uid, content⟩ = some input) :
    input.uid = some uid.trim := by
  unfold createSchema at ok
  obtain ⟨taken, isTaken, ok⟩ := Option.bind_eq_some_iff.1 ok
  obtain ⟨content', -, ok⟩ := Option.bind_eq_some_iff.1 ok
  cases ok
  simp only [optional, Option.map_eq_some_iff] at isTaken
  obtain ⟨trimmed, isTrimmed, rfl⟩ := isTaken
  obtain ⟨short, -⟩ := Option.filter_eq_some_iff.1 isTrimmed
  unfold shortText at short
  split at short
  · cases short
    rfl
  · cases short

theorem uidValues_shape {property : ICalendarProperty} (only : propertiesNamed component "UID" = [property]) :
    uidValues component.shape = [trim (unescapeText property.value)] := by
  unfold propertiesNamed at only
  simp [uidValues, ICalendarComponent.shape, only]

/-- What a record of a component is: it has passed its schema, under the UID of the component. -/
def ReadFrom (letters : LetterCase) (kind : PimEntityKind) (component : ICalendarComponent) (input : CreateInput kind) :
    Prop :=
  ∃ property content, requiredProperty component "UID" = .ok property ∧
    createSchema letters kind ⟨some (unescapeText property.value), content⟩ = some input

theorem parseEvent_spec {input : CreateInput .calendarEvent} (ok : parseEvent host component = .ok input) :
    ReadFrom host.toLetterCase .calendarEvent component input := by
  unfold parseEvent at ok
  obtain ⟨property, isUid, ok⟩ := bind_eq_ok ok
  obtain ⟨_, _, ok⟩ := bind_eq_ok ok
  obtain ⟨_, _, ok⟩ := bind_eq_ok ok
  obtain ⟨_, _, ok⟩ := bind_eq_ok ok
  obtain ⟨_, _, ok⟩ := bind_eq_ok ok
  obtain ⟨_, _, ok⟩ := bind_eq_ok ok
  obtain ⟨_, _, ok⟩ := bind_eq_ok ok
  obtain ⟨_, _, ok⟩ := bind_eq_ok ok
  simp only at ok
  split at ok
  · cases ok
  · split at ok
    · cases ok
    · obtain ⟨_, _, ok⟩ := bind_eq_ok ok
      obtain ⟨_, _, ok⟩ := bind_eq_ok ok
      obtain ⟨_, _, ok⟩ := bind_eq_ok ok
      obtain ⟨_, _, ok⟩ := bind_eq_ok ok
      obtain ⟨_, _, ok⟩ := bind_eq_ok ok
      obtain ⟨_, _, ok⟩ := bind_eq_ok ok
      obtain ⟨_, _, ok⟩ := bind_eq_ok ok
      exact ⟨property, _, isUid, checked_ok ok⟩

theorem parseTask_spec {input : CreateInput .task} (ok : parseTask host component = .ok input) :
    ReadFrom host.toLetterCase .task component input := by
  unfold parseTask at ok
  split at ok
  · cases ok
  · obtain ⟨_, _, ok⟩ := bind_eq_ok ok
    obtain ⟨_, _, ok⟩ := bind_eq_ok ok
    obtain ⟨_, _, ok⟩ := bind_eq_ok ok
    obtain ⟨_, _, ok⟩ := bind_eq_ok ok
    obtain ⟨_, _, ok⟩ := bind_eq_ok ok
    obtain ⟨_, _, ok⟩ := bind_eq_ok ok
    split at ok
    · cases ok
    · obtain ⟨_, _, ok⟩ := bind_eq_ok ok
      simp only at ok
      split at ok
      · cases ok
      · obtain ⟨_, _, ok⟩ := bind_eq_ok ok
        obtain ⟨_, _, ok⟩ := bind_eq_ok ok
        obtain ⟨property, isUid, ok⟩ := bind_eq_ok ok
        obtain ⟨_, _, ok⟩ := bind_eq_ok ok
        obtain ⟨_, _, ok⟩ := bind_eq_ok ok
        obtain ⟨_, _, ok⟩ := bind_eq_ok ok
        obtain ⟨_, _, ok⟩ := bind_eq_ok ok
        obtain ⟨_, _, ok⟩ := bind_eq_ok ok
        obtain ⟨_, _, ok⟩ := bind_eq_ok ok
        obtain ⟨_, _, ok⟩ := bind_eq_ok ok
        exact ⟨property, _, isUid, checked_ok ok⟩

theorem ReadFrom.uid {kind : PimEntityKind} {input : CreateInput kind}
    (readFrom : ReadFrom host.toLetterCase kind component input) : (uidValues component.shape).map some = [input.uid] := by
  obtain ⟨property, content, isUid, parses⟩ := readFrom
  rw [uidValues_shape (requiredProperty_spec isUid), createSchema_uid parses]
  rfl

theorem map_uid {kind : PimEntityKind} {components : List ICalendarComponent} {inputs : List (CreateInput kind)}
    {read : ICalendarComponent → Checked (CreateInput kind)}
    (reads : List.Forall₂ (fun component input => read component = .ok input) components inputs)
    (uid : ∀ component input, read component = .ok input → (uidValues component.shape).map some = [input.uid]) :
    inputs.map (·.uid) = (components.flatMap fun component => uidValues component.shape).map some := by
  induction reads with
  | nil => rfl
  | cons first _ ih =>
    rw [List.map_cons, List.flatMap_cons, List.map_append, uid _ _ first, ← ih]
    rfl

end Records

section Imports

variable {source : JsString} {bundle : ParsedICalendarBundle} {inspection : PimInterchangeInspection}

theorem inspected_spec {letters : LetterCase} (ok : inspectPimInterchange letters .icalendar source = .ok inspection) :
    ∃ seen, (normalizedLines source).foldlM (inspectLine letters calendarComponents) {} = .ok seen ∧
      inspection.eventCount = seen.count (ofString "VEVENT") ∧ inspection.taskCount = seen.count (ofString "VTODO") ∧
      (seen.values (ofString "UID")).length = inspection.eventCount + inspection.taskCount ∧
      (seen.values (ofString "UID")).Nodup := by
  unfold inspectPimInterchange at ok
  obtain ⟨bounds, inBounds, ok⟩ := bind_eq_ok ok
  rw [bounds_lines inBounds] at ok
  obtain ⟨seen, sees, ok⟩ := bind_eq_ok ok
  unfold inspectComponents at sees
  obtain ⟨run, runs, sees⟩ := bind_eq_ok sees
  have same : run = seen := by
    split at sees
    · cases sees
      rfl
    · cases sees
  subst same
  unfold judgeICalendar at ok
  simp only at ok
  repeat' split at ok
  all_goals cases ok
  rename_i lengths distinct _
  rw [not_or] at lengths
  exact ⟨run, runs, rfl, rfl, not_not.1 lengths.1, not_not.1 distinct⟩

theorem parsed_spec (ok : parseICalendarBundle host source = .ok bundle) :
    ∃ calendar, parseComponents host source = .ok calendar ∧
      List.Forall₂ (fun component input => parseEvent host component = .ok input) (childrenNamed calendar "VEVENT")
        bundle.events ∧
      List.Forall₂ (fun component input => parseTask host component = .ok input) (childrenNamed calendar "VTODO")
        bundle.tasks := by
  unfold parseICalendarBundle at ok
  obtain ⟨_, -, ok⟩ := bind_eq_ok ok
  obtain ⟨calendar, components, ok⟩ := bind_eq_ok ok
  split at ok
  · cases ok
  · split at ok
    · cases ok
    · obtain ⟨events, parsedEvents, ok⟩ := bind_eq_ok ok
      obtain ⟨tasks, parsedTasks, ok⟩ := bind_eq_ok ok
      cases ok
      exact ⟨calendar, components, mapM_eq_ok parsedEvents, mapM_eq_ok parsedTasks⟩

theorem bundle_parsed (ok : parseICalendarBundle host source = .ok bundle) :
    (∀ event ∈ bundle.events, ∃ raw, createSchema host.toLetterCase .calendarEvent raw = some event) ∧
      ∀ task ∈ bundle.tasks, ∃ raw, createSchema host.toLetterCase .task raw = some task := by
  obtain ⟨calendar, -, events, tasks⟩ := parsed_spec ok
  constructor
  · intro event member
    obtain ⟨component, -, reads⟩ := exists_of_mem_forall₂ events member
    obtain ⟨_, _, -, parses⟩ := parseEvent_spec reads
    exact ⟨_, parses⟩
  · intro task member
    obtain ⟨component, -, reads⟩ := exists_of_mem_forall₂ tasks member
    obtain ⟨_, _, -, parses⟩ := parseTask_spec reads
    exact ⟨_, parses⟩

theorem length_records {calendar : ICalendarComponent} (name : String)
    (names : calendar.children.map (·.name) = ((openings host source).filter (·.depth = 1)).map (·.named)) :
    (childrenNamed calendar name).length = ((openings host source).map (·.seen)).count (ofString name) ↔
      (phantoms (ofString name) (openings host source)).length =
        (hidden (ofString name) (openings host source)).length := by
  have records : (childrenNamed calendar name).length =
      ((openings host source).filter (·.isRecord (ofString name))).length := by
    have mapped : (childrenNamed calendar name).length = (calendar.children.map (·.name)).count (ofString name) := by
      rw [count_map]
      rfl
    rw [mapped, names, count_map, List.filter_filter]
    congr 1
    apply List.filter_congr
    intro opening _
    exact Bool.and_comm _ _
  have counted : ((openings host source).map (·.seen)).count (ofString name) =
      ((openings host source).filter fun opening => decide (opening.seen = ofString name)).length := count_map _ _ _
  rw [records, counted, length_filter_eq_iff]
  unfold phantoms hidden
  simp only [ne_eq, decide_not]

/-- A bundle is complete if and only if the inspection sees the records of the document as they are. -/
theorem imported_complete_iff (parsed : parseICalendarBundle host source = .ok bundle)
    (inspected : inspectPimInterchange host.toLetterCase .icalendar source = .ok inspection) :
    bundle.Complete inspection ↔ SeenAsTheyAre host source := by
  obtain ⟨seen, run, events, tasks, total, distinct⟩ := inspected_spec inspected
  obtain ⟨calendar, components, parsedEvents, parsedTasks⟩ := parsed_spec parsed
  obtain ⟨opened, values, names, uids⟩ := documents_run run components
  have eventUids := map_uid parsedEvents fun _ _ ok => (parseEvent_spec ok).uid
  have taskUids := map_uid parsedTasks fun _ _ ok => (parseTask_spec ok).uid
  have eventCount : bundle.events.length = inspection.eventCount ↔
      (phantoms (ofString "VEVENT") (openings host source)).length =
        (hidden (ofString "VEVENT") (openings host source)).length := by
    rw [events, ComponentInspection.count, opened, ← parsedEvents.length_eq]
    exact length_records "VEVENT" names
  have taskCount : bundle.tasks.length = inspection.taskCount ↔
      (phantoms (ofString "VTODO") (openings host source)).length =
        (hidden (ofString "VTODO") (openings host source)).length := by
    rw [tasks, ComponentInspection.count, opened, ← parsedTasks.length_eq]
    exact length_records "VTODO" names
  -- The UIDs of the records are among those of the document.
  have among : (bundle.events.map (·.uid) ++ bundle.tasks.map (·.uid)).Subperm
      (((uidReadings (readings host source)).map Reading.meaning).map some) := by
    rw [eventUids, taskUids, ← List.map_append, ← List.flatMap_append]
    have kinds : (childrenNamed calendar "VEVENT" ++ childrenNamed calendar "VTODO").Subperm calendar.children := by
      apply filters_subperm
      intro child isEvent
      have isName : child.name = ofString "VEVENT" := by simpa using isEvent
      rw [isName]
      decide
    obtain ⟨records, perm, sub⟩ := kinds
    have inChildren := (perm.flatMap_right fun component => uidValues component.shape).symm.subperm.trans
      (sub.flatMap fun component => uidValues component.shape).subperm
    rw [List.flatMap_map] at uids
    obtain ⟨part, perm, sub⟩ := inChildren.trans uids.subperm
    exact ⟨part.map some, perm.map some, sub.map some⟩
  have lengthSeen : (uidReadings (readings host source)).length = inspection.eventCount + inspection.taskCount := by
    rw [← total, values, List.length_map]
  rw [values] at distinct
  constructor
  · intro complete
    refine ⟨eventCount.1 complete.events, taskCount.1 complete.tasks, ?_⟩
    have all : ((uidReadings (readings host source)).map fun reading => some reading.meaning).Nodup := by
      have same := among.perm_of_length_le (by
        rw [List.length_map, List.length_map, lengthSeen, List.length_append, List.length_map, List.length_map,
          complete.events, complete.tasks])
      rw [List.map_map] at same
      exact same.nodup_iff.1 complete.uids
    intro first isFirst second isSecond same
    rw [List.inj_on_of_nodup_map all isFirst isSecond (congrArg some same)]
  · intro asTheyAre
    refine ⟨eventCount.2 asTheyAre.events, taskCount.2 asTheyAre.tasks, ?_⟩
    obtain ⟨part, perm, sub⟩ := among
    rw [← perm.nodup_iff]
    apply List.Nodup.sublist sub
    rw [List.map_map]
    apply List.Nodup.map_on _ distinct.of_map
    intro first isFirst second isSecond same
    exact List.inj_on_of_nodup_map distinct isFirst isSecond
      (asTheyAre.uids first isFirst second isSecond (Option.some.inj same))

def exampleCalendarWith (before : JsString) : JsString :=
  ofString "BEGIN:VCALENDAR\r\nVERSION:2.0\r\n" ++ before ++
    ofString "BEGIN:VEVENT\r\nUID:lunch\r\nDTSTART:20260801T100000Z\r\nDTEND:20260801T110000Z\r\n" ++
    ofString "SUMMARY:Lunch\r\nEND:VEVENT\r\nEND:VCALENDAR\r\n"

theorem exampleCalendar_complete_iff : ∃ bundle inspection,
    parseICalendarBundle Host.plain (exampleCalendarWith []) = .ok bundle ∧
      inspectPimInterchange LetterCase.ascii .icalendar (exampleCalendarWith []) = .ok inspection ∧
      (bundle.Complete inspection ↔ SeenAsTheyAre Host.plain (exampleCalendarWith [])) := by
  obtain ⟨bundle, parsed⟩ := isOk_iff.1
    (by decide +kernel : (parseICalendarBundle Host.plain (exampleCalendarWith [])).isOk)
  obtain ⟨inspection, inspected⟩ := isOk_iff.1
    (by decide +kernel : (inspectPimInterchange LetterCase.ascii .icalendar (exampleCalendarWith [])).isOk)
  exact ⟨bundle, inspection, parsed, inspected, imported_complete_iff parsed inspected⟩

/-- An event within a time zone is counted and dropped. -/
theorem nestedEvent_dropped : ∃ source bundle inspection,
    parseICalendarBundle Host.plain source = .ok bundle ∧
      inspectPimInterchange LetterCase.ascii .icalendar source = .ok inspection ∧
      bundle.events.length = 1 ∧ inspection.eventCount = 2 ∧ ¬ bundle.Complete inspection := by
  let source := exampleCalendarWith (ofString
    "BEGIN:VTIMEZONE\r\nBEGIN:VEVENT\r\nUID:hidden\r\nEND:VEVENT\r\nEND:VTIMEZONE\r\n")
  have one : (parseICalendarBundle Host.plain source).map (·.events.length) = .ok 1 := by decide +kernel
  have two : (inspectPimInterchange LetterCase.ascii .icalendar source).map (·.eventCount) = .ok 2 := by decide +kernel
  cases parsed : parseICalendarBundle Host.plain source with
  | error message =>
    rw [parsed] at one
    cases one
  | ok bundle =>
    cases inspected : inspectPimInterchange LetterCase.ascii .icalendar source with
    | error message =>
      rw [inspected] at two
      cases two
    | ok inspection =>
      rw [parsed] at one
      rw [inspected] at two
      simp only [Except.map, Except.ok.injEq] at one two
      refine ⟨source, bundle, inspection, parsed, inspected, one, two, fun complete => ?_⟩
      have := complete.events
      omega

end Imports

end Pim
