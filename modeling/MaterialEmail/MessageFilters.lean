import MaterialEmail.Library.JsString
import MaterialEmail.Library.Superseding

/-! The actions of message filters: how a list of them is collapsed, and how one is carried out on a
message. What a list decides about a message does not change when it is collapsed. -/
namespace MessageFilters

open JsString

inductive MessageFilterActionKind where
  | markRead
  | markUnread
  | star
  | unstar
  | addTag
  | removeTag
  | move
  | archive
  | trash
  | markJunk
  | markNotJunk
  | stop
  deriving DecidableEq, Repr

structure MessageFilterAction where
  kind : MessageFilterActionKind
  value : JsString
  deriving DecidableEq

section Collapsing

/-- `CONTRADICTIONS`. -/
def contradictions : MessageFilterActionKind → Option MessageFilterActionKind
  | .markRead => some .markUnread
  | .markUnread => some .markRead
  | .star => some .unstar
  | .unstar => some .star
  | .markJunk => some .markNotJunk
  | .markNotJunk => some .markJunk
  | _ => none

def isDestination (kind : MessageFilterActionKind) : Bool := kind = .move || kind = .archive || kind = .trash

/-- An action that has been collected goes when this one comes. -/
def supersedes (action existing : MessageFilterAction) : Bool :=
  let sameAction := existing.kind = action.kind && existing.value = action.value
  let contradicts := contradictions action.kind = some existing.kind
  let destinationClash := isDestination action.kind && isDestination existing.kind
  let tagClash :=
    (action.kind = .addTag && existing.kind = .removeTag && existing.value = action.value)
    || (action.kind = .removeTag && existing.kind = .addTag && existing.value = action.value)
  sameAction || contradicts || destinationClash || tagClash

/-- The loop over what has been collected, from its last action down to its first. -/
def spliceSuperseded (action : MessageFilterAction) : Nat → List MessageFilterAction → List MessageFilterAction
  | 0, collapsed => collapsed
  | index + 1, collapsed =>
    match collapsed[index]? with
    | none => spliceSuperseded action index collapsed
    | some existing =>
      spliceSuperseded action index (if supersedes action existing then collapsed.eraseIdx index else collapsed)

def collapseMessageFilterActions (actions : List MessageFilterAction) : List MessageFilterAction :=
  actions.foldl (fun collapsed action =>
    if action.kind = .stop then collapsed
    else spliceSuperseded action collapsed.length collapsed ++ [action]) []

def withoutStops (actions : List MessageFilterAction) : List MessageFilterAction :=
  actions.filter fun action => action.kind ≠ .stop

theorem spliceSuperseded_append (action : MessageFilterAction) (front back : List MessageFilterAction) :
    spliceSuperseded action front.length (front ++ back) = (front.filter fun old => !supersedes action old) ++ back := by
  induction front using List.reverseRecOn generalizing back with
  | nil => rfl
  | append_singleton front existing ih =>
    have here : (front ++ existing :: back)[front.length]? = some existing := by simp
    have erased : (front ++ existing :: back).eraseIdx front.length = front ++ back := by
      simp [List.eraseIdx_append_of_length_le]
    rw [List.append_assoc, List.length_append, List.length_singleton, List.singleton_append, spliceSuperseded, here]
    cases isVoid : supersedes action existing with
    | true => simp [isVoid, erased, ih]
    | false => simp [isVoid, ih]

/-- The loop leaves out what the new action makes void. -/
theorem spliceSuperseded_eq (action : MessageFilterAction) (collapsed : List MessageFilterAction) :
    spliceSuperseded action collapsed.length collapsed ++ [action] = Superseding.push supersedes collapsed action := by
  have loop := spliceSuperseded_append action collapsed []
  rw [List.append_nil, List.append_nil] at loop
  rw [loop, Superseding.push]

theorem collapse_eq_settle (actions : List MessageFilterAction) :
    collapseMessageFilterActions actions = Superseding.settle supersedes (withoutStops actions) := by
  unfold collapseMessageFilterActions Superseding.settle withoutStops
  rw [List.foldl_filter]
  congr 1
  funext collapsed action
  by_cases stops : action.kind = .stop
  · simp [stops]
  · simpa [stops] using spliceSuperseded_eq action collapsed

theorem withoutStops_of_none {actions : List MessageFilterAction} (none : ∀ action ∈ actions, action.kind ≠ .stop) :
    withoutStops actions = actions := List.filter_eq_self.2 fun action member => by simpa using none action member

theorem collapse_subset (actions : List MessageFilterAction) :
    collapseMessageFilterActions actions ⊆ withoutStops actions := by
  rw [collapse_eq_settle]
  exact Superseding.settle_subset _

theorem withoutStops_collapse (actions : List MessageFilterAction) :
    withoutStops (collapseMessageFilterActions actions) = collapseMessageFilterActions actions := by
  refine withoutStops_of_none fun action member => ?_
  have kept := List.mem_filter.1 (collapse_subset actions member)
  simpa using kept.2

theorem collapse_settled (actions : List MessageFilterAction) :
    Superseding.Settled supersedes (collapseMessageFilterActions actions) := by
  rw [collapse_eq_settle]
  exact Superseding.settled_settle _

theorem collapse_collapse (actions : List MessageFilterAction) :
    collapseMessageFilterActions (collapseMessageFilterActions actions) = collapseMessageFilterActions actions := by
  rw [collapse_eq_settle (collapseMessageFilterActions actions), withoutStops_collapse]
  exact Superseding.settle_of_settled (collapse_settled actions)

theorem collapse_append (first second : List MessageFilterAction) :
    collapseMessageFilterActions (first ++ second) =
      collapseMessageFilterActions (collapseMessageFilterActions first ++ second) := by
  have split (list : List MessageFilterAction) : withoutStops (list ++ second) = withoutStops list ++ withoutStops second :=
    List.filter_append ..
  rw [collapse_eq_settle, collapse_eq_settle (_ ++ second), split, split, withoutStops_collapse, collapse_eq_settle first]
  exact Superseding.settle_append _ _

end Collapsing

section Coherence

/-- Nothing in the list speaks against anything else in it. -/
structure Coherent (actions : List MessageFilterAction) : Prop where
  opposites : ∀ one ∈ actions, ∀ two ∈ actions, contradictions one.kind ≠ some two.kind
  tags : ∀ one ∈ actions, ∀ two ∈ actions, one.kind = .addTag → two.kind = .removeTag → one.value ≠ two.value
  destinations : (actions.filter fun action => isDestination action.kind).length ≤ 1

/-- Two actions are the same, or the later one leaves the earlier one alone. -/
theorem Settled.pair {actions : List MessageFilterAction} (settled : Superseding.Settled supersedes actions)
    {one two : MessageFilterAction} (isOne : one ∈ actions) (isTwo : two ∈ actions) :
    one = two ∨ supersedes two one = false ∨ supersedes one two = false := by
  obtain ⟨i, inside, rfl⟩ := List.getElem_of_mem isOne
  obtain ⟨j, inside', rfl⟩ := List.getElem_of_mem isTwo
  have ordered := List.pairwise_iff_getElem.1 settled
  rcases lt_trichotomy i j with before | rfl | after
  · exact Or.inr (Or.inl (ordered i j inside inside' before))
  · exact Or.inl rfl
  · exact Or.inr (Or.inr (ordered j i inside' inside after))

theorem contradictions_symm {one two : MessageFilterActionKind} (opposed : contradictions one = some two) :
    contradictions two = some one := by
  cases one <;> cases opposed <;> rfl

theorem contradictions_irrefl (kind : MessageFilterActionKind) : contradictions kind ≠ some kind := by
  cases kind <;> decide

theorem coherent_of_settled {actions : List MessageFilterAction} (settled : Superseding.Settled supersedes actions) :
    Coherent actions := by
  constructor
  case opposites =>
    intro one isOne two isTwo opposed
    rcases Settled.pair settled isOne isTwo with rfl | free | free
    · exact contradictions_irrefl _ opposed
    · simp [supersedes, contradictions_symm opposed] at free
    · simp [supersedes, opposed] at free
  case tags =>
    intro one isOne two isTwo adds removes sameTag
    rcases Settled.pair settled isOne isTwo with rfl | free | free
    · simp [adds] at removes
    · simp [supersedes, adds, removes, sameTag] at free
    · simp [supersedes, adds, removes, sameTag] at free
  case destinations =>
    -- A second destination would have superseded the first.
    have clash : (actions.filter fun action => isDestination action.kind).Pairwise fun _ _ => False := by
      refine List.Pairwise.imp_of_mem ?_ (settled.sublist List.filter_sublist)
      intro old new isOld isNew free
      have oldMoves := (List.mem_filter.1 isOld).2
      have newMoves := (List.mem_filter.1 isNew).2
      simp [supersedes, oldMoves, newMoves] at free
    cases listed : actions.filter fun action => isDestination action.kind with
    | nil => simp
    | cons first rest =>
      rw [listed, List.pairwise_cons] at clash
      cases rest with
      | nil => simp
      | cons second rest => exact (clash.1 second List.mem_cons_self).elim

end Coherence

inductive FolderRole where
  | inbox
  | sent
  | drafts
  | archive
  | junk
  | trash
  | other
  deriving DecidableEq, Repr

structure FolderSummary where
  path : JsString
  role : FolderRole
  deriving DecidableEq

inductive JunkLabel where
  | junk
  | good
  deriving DecidableEq, Repr

section Executor

/-- What `#applyFilterPlan` has gathered about a message. -/
structure Gathered where
  destination : Option JsString
  junkLabel : Option JunkLabel
  /-- `flagPatch.unread`. -/
  unread : Option Bool
  /-- `flagPatch.starred`. -/
  starred : Option Bool
  /-- A set, in the order in which its elements came in. -/
  tagIds : List JsString
  tagsChanged : Bool
  deriving DecidableEq

def addToSet (set : List JsString) (tag : JsString) : List JsString := if tag ∈ set then set else set ++ [tag]

def Gathered.initial (tagIds : List JsString) : Gathered :=
  ⟨none, none, none, none, tagIds.foldl addToSet [], false⟩

variable (folders : List FolderSummary)

def roleFolder (role : FolderRole) : Option JsString := (folders.find? fun folder => folder.role = role).map (·.path)

def gather (s : Gathered) (action : MessageFilterAction) : Gathered :=
  match action.kind with
  | .markRead => { s with unread := some false }
  | .markUnread => { s with unread := some true }
  | .star => { s with starred := some true }
  | .unstar => { s with starred := some false }
  | .addTag => { s with
      tagsChanged := action.value ∉ s.tagIds || s.tagsChanged
      tagIds := addToSet s.tagIds action.value }
  | .removeTag => { s with
      tagsChanged := action.value ∈ s.tagIds || s.tagsChanged
      tagIds := s.tagIds.filter (· ≠ action.value) }
  | .move => { s with destination := some action.value }
  | .archive => { s with destination := roleFolder folders .archive }
  | .trash => { s with destination := roleFolder folders .trash }
  | .markJunk => { s with
      junkLabel := some .junk
      destination := s.destination.or (roleFolder folders .junk) }
  | .markNotJunk => { s with junkLabel := some .good }
  | .stop => s

/-- The loop over the actions of an entry. -/
def gatherAll (tagIds : List JsString) (actions : List MessageFilterAction) : Gathered :=
  actions.foldl (gather folders) (Gathered.initial tagIds)

end Executor

section Questions

/-- What there is to decide about a message, its destination aside. -/
inductive Question where
  | unread
  | starred
  | junk
  | tag (id : JsString)
  deriving DecidableEq

/-- The question an action answers, if it answers one. -/
def MessageFilterAction.decision (action : MessageFilterAction) : Option (Question × Option Bool) :=
  match action.kind with
  | .markRead => some (.unread, some false)
  | .markUnread => some (.unread, some true)
  | .star => some (.starred, some true)
  | .unstar => some (.starred, some false)
  | .addTag => some (.tag action.value, some true)
  | .removeTag => some (.tag action.value, some false)
  | .markJunk => some (.junk, some true)
  | .markNotJunk => some (.junk, some false)
  | .move | .archive | .trash | .stop => none

/-- The answers that have been gathered. -/
def Gathered.answers (s : Gathered) : Question → Option Bool
  | .unread => s.unread
  | .starred => s.starred
  | .junk => s.junkLabel.map (· = .junk)
  | .tag id => some (id ∈ s.tagIds)

theorem mem_addToSet {set : List JsString} {tag other : JsString} :
    other ∈ addToSet set tag ↔ other = tag ∨ other ∈ set := by
  unfold addToSet
  by_cases present : tag ∈ set
  · rw [if_pos present]
    exact ⟨Or.inr, fun either => either.elim (fun same => same ▸ present) id⟩
  · rw [if_neg present, List.mem_append, List.mem_singleton, or_comm]

theorem answers_gather (folders : List FolderSummary) (s : Gathered) (action : MessageFilterAction) :
    (gather folders s action).answers = Superseding.decide MessageFilterAction.decision action s.answers := by
  obtain ⟨kind, value⟩ := action
  funext question
  cases kind <;> cases question <;> try rfl
  all_goals simp only [gather, Gathered.answers, Superseding.decide, MessageFilterAction.decision, Function.update_apply,
    Question.tag.injEq]
  case addTag.tag id => by_cases same : id = value <;> simp [same, mem_addToSet]
  case removeTag.tag id => by_cases same : id = value <;> simp [same]

theorem answers_gatherAll (folders : List FolderSummary) (s : Gathered) (actions : List MessageFilterAction) :
    (actions.foldl (gather folders) s).answers =
      Superseding.carryOut (Superseding.decide MessageFilterAction.decision) actions s.answers := by
  induction actions generalizing s with
  | nil => rfl
  | cons action actions ih =>
    rw [List.foldl_cons, ih, answers_gather]
    rfl

theorem decision_of_supersedes {new old : MessageFilterAction} (isVoid : supersedes new old = true)
    (question : Question) (answer : Option Bool) (decided : old.decision = some (question, answer)) :
    ∃ other, new.decision = some (question, other) := by
  obtain ⟨newKind, newValue⟩ := new
  obtain ⟨oldKind, oldValue⟩ := old
  cases oldKind <;> cases decided <;> cases newKind <;>
    simp_all [supersedes, contradictions, isDestination, MessageFilterAction.decision]

theorem answers_settle (steps : List MessageFilterAction) (answers : Question → Option Bool) :
    Superseding.carryOut (Superseding.decide MessageFilterAction.decision) (Superseding.settle supersedes steps) answers =
      Superseding.carryOut (Superseding.decide MessageFilterAction.decision) steps answers := by
  apply Superseding.carryOut_settle
  · refine List.pairwise_of_forall fun old new isVoid => ?_
    exact Superseding.voids_of_question (decision_of_supersedes isVoid)
  · exact List.pairwise_of_forall fun old new _ => Superseding.passes_decision new old

end Questions

section Destinations

variable (folders : List FolderSummary)

/-- What an action does to the destination. -/
def MessageFilterAction.route (action : MessageFilterAction) (destination : Option JsString) : Option JsString :=
  match action.kind with
  | .move => some action.value
  | .archive => roleFolder folders .archive
  | .trash => roleFolder folders .trash
  | .markJunk => destination.or (roleFolder folders .junk)
  | _ => destination

theorem destination_gatherAll (s : Gathered) (actions : List MessageFilterAction) :
    (actions.foldl (gather folders) s).destination =
      Superseding.carryOut (MessageFilterAction.route folders) actions s.destination := by
  induction actions generalizing s with
  | nil => rfl
  | cons action actions ih =>
    have step : (gather folders s action).destination = action.route folders s.destination := by
      obtain ⟨kind, value⟩ := action
      cases kind <;> rfl
    rw [List.foldl_cons, ih, step]
    rfl

/-- A message that is marked as junk is not later marked as good. -/
def JunkStands (actions : List MessageFilterAction) : Prop :=
  actions.Pairwise fun earlier later => ¬ (earlier.kind = .markJunk ∧ later.kind = .markNotJunk)

variable {folders} {new old : MessageFilterAction}

theorem route_voids (isVoid : supersedes new old = true)
    (stands : ¬ (old.kind = .markJunk ∧ new.kind = .markNotJunk)) :
    Superseding.Voids (MessageFilterAction.route folders) new old := by
  obtain ⟨newKind, newValue⟩ := new
  obtain ⟨oldKind, oldValue⟩ := old
  intro destination
  cases newKind <;> cases oldKind <;> simp_all [supersedes, contradictions, isDestination, MessageFilterAction.route, Option.or_assoc]

/-- A destination that is set is set whatever came before; junk asks only for the first one. -/
theorem route_passes (new old : MessageFilterAction) : Superseding.Passes (MessageFilterAction.route folders) new old := by
  obtain ⟨newKind, newValue⟩ := new
  obtain ⟨oldKind, oldValue⟩ := old
  intro destination destination' alike
  cases newKind <;> cases oldKind <;> simp_all [MessageFilterAction.route]

theorem destination_settle {steps : List MessageFilterAction} (stands : JunkStands steps)
    (destination : Option JsString) :
    Superseding.carryOut (MessageFilterAction.route folders) (Superseding.settle supersedes steps) destination =
      Superseding.carryOut (MessageFilterAction.route folders) steps destination := by
  apply Superseding.carryOut_settle
  · exact stands.imp fun notTakenBack isVoid => route_voids isVoid notTakenBack
  · exact List.pairwise_of_forall fun old new _ => route_passes new old

end Destinations

/-- The same flags, tags and junk label come out. -/
structure SameDecisions (one two : Gathered) : Prop where
  unread : one.unread = two.unread
  starred : one.starred = two.starred
  tags : ∀ tag, tag ∈ one.tagIds ↔ tag ∈ two.tagIds
  junkLabel : one.junkLabel = two.junkLabel

theorem sameDecisions_of_answers {one two : Gathered} (same : one.answers = two.answers) : SameDecisions one two := by
  constructor
  case unread => exact congrFun same .unread
  case starred => exact congrFun same .starred
  case tags =>
    intro tag
    simpa [Gathered.answers] using congrFun same (.tag tag)
  case junkLabel =>
    have labels := congrFun same .junk
    unfold Gathered.answers at labels
    cases first : one.junkLabel with
    | none => simpa [first, eq_comm] using labels
    | some label =>
      cases second : two.junkLabel with
      | none => simp [first, second] at labels
      | some label' => cases label <;> cases label' <;> simp_all

/-- The collapsed list decides what the whole list decides, and nothing in it is void. -/
theorem collapse_preserves (folders : List FolderSummary) (tagIds : List JsString)
    (actions more : List MessageFilterAction) :
    SameDecisions (gatherAll folders tagIds (collapseMessageFilterActions actions))
      (gatherAll folders tagIds (withoutStops actions)) ∧
    (JunkStands actions → (gatherAll folders tagIds (collapseMessageFilterActions actions)).destination =
      (gatherAll folders tagIds (withoutStops actions)).destination) ∧
    Coherent (collapseMessageFilterActions actions) ∧
    collapseMessageFilterActions (collapseMessageFilterActions actions) = collapseMessageFilterActions actions ∧
    collapseMessageFilterActions (actions ++ more) =
      collapseMessageFilterActions (collapseMessageFilterActions actions ++ more) := by
  refine ⟨?_, fun stands => ?_, coherent_of_settled (collapse_settled actions), collapse_collapse actions,
    collapse_append actions more⟩
  · apply sameDecisions_of_answers
    unfold gatherAll
    rw [answers_gatherAll, answers_gatherAll, collapse_eq_settle]
    exact answers_settle _ _
  · unfold gatherAll
    rw [destination_gatherAll, destination_gatherAll, collapse_eq_settle]
    exact destination_settle (stands.sublist List.filter_sublist) _

end MessageFilters
