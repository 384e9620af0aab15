import MaterialEmail.MessageFilters.Catalogue
import MaterialEmail.MessageTags.Model

/-! What the filters come to for a message, and the plan for all messages of a folder. Of a list of filters only those
count that fire, in their order and up to the first that stops. -/
namespace MessageFilters

open JsString
open MailService (MessageSummary)

def runLimit : Nat := 5000

structure MessageFilterOutcome where
  filterId : JsString
  filterName : JsString
  actions : List MessageFilterAction
  stopped : Bool
  deriving DecidableEq

structure MessageFilterEvaluation where
  matched : Bool
  outcomes : List MessageFilterOutcome
  effective : List MessageFilterAction
  deriving DecidableEq

section Evaluating

variable (host : Host) (subject : MessageFilterSubject) (now : Int)

def isStop (action : MessageFilterAction) : Bool := action.kind = .stop

/-- The loop over the sorted filters: the outcomes and the actions that have been collected. -/
def collect : List MessageFilter → List MessageFilterOutcome → List MessageFilterAction →
    List MessageFilterOutcome × List MessageFilterAction
  | [], outcomes, collected => (outcomes, collected)
  | filter :: rest, outcomes, collected =>
    if !filter.enabled || !messageFilterMatches host filter subject now then collect rest outcomes collected
    else
      let actions := filter.actions.take actionLimit
      let stopped := actions.any isStop
      let outcomes := outcomes ++ [⟨filter.id, filter.name, actions, stopped⟩]
      let collected := collected ++ actions.takeWhile fun action => !isStop action
      if stopped then (outcomes, collected) else collect rest outcomes collected

def evaluateMessageFilters (filters : List MessageFilter) : MessageFilterEvaluation :=
  let (outcomes, collected) := collect host subject now ((sortMessageFilters host filters).take filterLimit) [] []
  ⟨0 < outcomes.length, outcomes, collapseMessageFilterActions collected⟩

end Evaluating

section Planning

structure MessageFilterRunEntry where
  subject : MessageFilterSubject
  evaluation : MessageFilterEvaluation

structure MessageFilterRunPlan where
  entries : List MessageFilterRunEntry
  consideredCount : Nat
  matchedCount : Nat
  limitReached : Bool

variable (host : Host)

def planMessageFilterRun (filters : List MessageFilter) (subjects : List MessageFilterSubject) (now : Int)
    (runOnSyncOnly : Bool) : MessageFilterRunPlan :=
  let applicable := filters.filter fun filter => if runOnSyncOnly then filter.runOnSync else true
  let bounded := subjects.take runLimit
  let entries := bounded.filterMap fun subject =>
    let evaluation := evaluateMessageFilters host subject now applicable
    if evaluation.matched && evaluation.effective ≠ [] then some ⟨subject, evaluation⟩ else none
  ⟨entries, bounded.length, entries.length, runLimit < subjects.length⟩

structure Folder where
  path : JsString
  name : JsString
  role : FolderRole
  uidValidity : Option JsString

/-- What of a message's stored detail the filters look at, and where the message is. -/
structure StoredDetail where
  id : JsString
  accountId : JsString
  folderPath : JsString
  text : JsString

/-- What of the stored state the filters look at. -/
structure StoredState where
  messageFilters : List MessageFilter
  /-- By keys of an account and a folder. -/
  messages : List (JsString × List MessageSummary)
  details : List StoredDetail
  messageTags : MessageTags.MessageTagState
  folders : JsString → List Folder
  email : JsString → Option JsString

structure FilterRunContext where
  accountId : JsString
  folderPath : JsString
  accountEmail : JsString
  folders : List Folder

def cachedMessages (state : StoredState) (accountId folderPath : JsString) : List MessageSummary :=
  state.messages.flatMap fun (key, messages) =>
    if 0 < key.idxOf 0 ∧ key.idxOf 0 < key.length ∧ key.take (key.idxOf 0) = accountId ∧
      key.drop (key.idxOf 0 + 1) = folderPath then messages else []

def tagIdsForMessage (state : StoredState) (message : MessageSummary) : List JsString :=
  let key := MessageTags.messageTagKey
    ⟨message.accountId, message.folderPath, ofString (toString message.uid), message.uidValidity⟩
  (state.messageTags.tagIds key).getD []

def buildFilterSubjects (state : StoredState) (context : FilterRunContext) (messageIds : Option (List JsString)) :
    List MessageFilterSubject :=
  let folderName := ((context.folders.find? fun folder => folder.path = context.folderPath).map (·.name)).getD context.folderPath
  ((cachedMessages state context.accountId context.folderPath).filter fun message =>
    messageIds.all fun wanted => message.id ∈ wanted).map fun message =>
      ⟨message, context.accountEmail, folderName, tagIdsForMessage state message,
        ((Keyed.get StoredDetail.id message.id state.details).map (·.text)).filter (· ≠ [])⟩

def planFilterRun (state : StoredState) (context : FilterRunContext) (runOnSyncOnly : Bool)
    (messageIds : Option (List JsString)) (now : Int) : MessageFilterRunPlan :=
  planMessageFilterRun host (listFilters host state.messageFilters) (buildFilterSubjects state context messageIds) now runOnSyncOnly

/-- `#filterContext`, if there is such an account. -/
def filterContext (state : StoredState) (accountId folderPath : JsString) : Option FilterRunContext :=
  (state.email accountId).map fun email => ⟨accountId, folderPath, email, state.folders accountId⟩

def previewEntryLimit : Nat := 200

structure SummaryEntry where
  messageId : JsString
  subject : JsString
  sender : JsString
  filterNames : List JsString
  actions : List MessageFilterAction
  deriving DecidableEq

/-- What applying a plan came to. -/
structure Applied where
  appliedCount : Nat
  failures : List JsString
  deriving DecidableEq

structure MessageFilterRunSummary where
  applied : Bool
  accountId : JsString
  folderPath : JsString
  consideredCount : Nat
  matchedCount : Nat
  limitReached : Bool
  entries : List SummaryEntry
  entriesTruncated : Bool
  outcome : Applied
  deriving DecidableEq

def summarizeFilterPlan (plan : MessageFilterRunPlan) (context : FilterRunContext) (applied : Bool) (outcome : Applied) :
    MessageFilterRunSummary where
  applied := applied
  accountId := context.accountId
  folderPath := context.folderPath
  consideredCount := plan.consideredCount
  matchedCount := plan.matchedCount
  limitReached := plan.limitReached
  entries := (plan.entries.take previewEntryLimit).map fun entry =>
    ⟨entry.subject.message.id, entry.subject.message.subject,
      (entry.subject.message.from.head?.map (·.address)).getD [],
      entry.evaluation.outcomes.map (·.filterName), entry.evaluation.effective⟩
  entriesTruncated := previewEntryLimit < plan.entries.length
  outcome := outcome

def previewMessageFilterRun (state : StoredState) (accountId folderPath : JsString) (now : Int) :
    Option MessageFilterRunSummary :=
  (filterContext state accountId folderPath).map fun context =>
    summarizeFilterPlan (planFilterRun host state context false none now) context false ⟨0, []⟩

/-- `applyFilterPlan` is given the plan and says what came of it. -/
def runMessageFilters (applyFilterPlan : StoredState → FilterRunContext → MessageFilterRunPlan → Applied)
    (state : StoredState) (accountId folderPath : JsString) (now : Int) :
    Option (MessageFilterRunPlan × MessageFilterRunSummary) :=
  (filterContext state accountId folderPath).map fun context =>
    let plan := planFilterRun host state context false none now
    (plan, summarizeFilterPlan plan context true (applyFilterPlan state context plan))

end Planning

section Firing

variable (host : Host) (subject : MessageFilterSubject) (now : Int)

/-- A filter that is enabled and matches. -/
def fires (filter : MessageFilter) : Bool := filter.enabled && messageFilterMatches host filter subject now

/-- A filter after which no other one is asked. -/
def stops (filter : MessageFilter) : Bool := (filter.actions.take actionLimit).any isStop

def upToStop : List MessageFilter → List MessageFilter
  | [] => []
  | filter :: rest => if stops filter then [filter] else filter :: upToStop rest

def outcomeOf (filter : MessageFilter) : MessageFilterOutcome :=
  ⟨filter.id, filter.name, filter.actions.take actionLimit, stops filter⟩

/-- The actions that a filter asks for: those before it stops. -/
def beforeStop (filter : MessageFilter) : List MessageFilterAction :=
  (filter.actions.take actionLimit).takeWhile fun action => !isStop action

/-- What filters come to that fire, in their order. -/
def report (fired : List MessageFilter) : MessageFilterEvaluation :=
  ⟨0 < fired.length, fired.map outcomeOf, collapseMessageFilterActions (fired.flatMap beforeStop)⟩

theorem collect_eq (filters : List MessageFilter) (outcomes : List MessageFilterOutcome)
    (collected : List MessageFilterAction) :
    collect host subject now filters outcomes collected =
      (outcomes ++ (upToStop (filters.filter (fires host subject now))).map outcomeOf,
        collected ++ (upToStop (filters.filter (fires host subject now))).flatMap beforeStop) := by
  induction filters generalizing outcomes collected with
  | nil => simp [collect, upToStop]
  | cons filter rest ih =>
    rw [collect]
    by_cases isFiring : fires host subject now filter = true
    · have silent : (!filter.enabled || !messageFilterMatches host filter subject now) = false := by
        simpa [fires] using isFiring
      rw [silent, if_neg (by simp), List.filter_cons_of_pos isFiring, upToStop]
      by_cases isLast : stops filter = true
      · have stopped : (filter.actions.take actionLimit).any isStop = true := isLast
        rw [if_pos isLast]
        simp only [stopped, if_true]
        simp [outcomeOf, beforeStop, isLast]
      · have goesOn : (filter.actions.take actionLimit).any isStop = false := by simpa [stops] using isLast
        rw [if_neg isLast]
        simp only [goesOn]
        rw [if_neg (by simp), ih]
        simp [outcomeOf, beforeStop, isLast]
    · have silent : (!filter.enabled || !messageFilterMatches host filter subject now) = true := by
        cases enabled : filter.enabled <;> simp_all [fires]
      rw [if_pos silent, ih, List.filter_cons_of_neg isFiring]

theorem evaluate_eq {filters : List MessageFilter} (bounded : filters.length ≤ filterLimit) :
    evaluateMessageFilters host subject now filters =
      report (upToStop ((sortMessageFilters host filters).filter (fires host subject now))) := by
  have whole : (sortMessageFilters host filters).take filterLimit = sortMessageFilters host filters :=
    List.take_of_length_le (by rw [sortMessageFilters, List.length_mergeSort]; exact bounded)
  simp [evaluateMessageFilters, whole, collect_eq, report]

end Firing

section Order

variable (host : Host) [Std.TransCmp host.localeCompare] {filters : List MessageFilter}

theorem transCmp_on {α β : Type} (compare : β → β → Ordering) [Std.TransCmp compare] (of : α → β) :
    Std.TransCmp fun left right => compare (of left) (of right) where
  eq_swap := Std.OrientedCmp.eq_swap
  isLE_trans := Std.TransCmp.isLE_trans

instance : Std.TransCmp (rank host) := by
  have ordinals := transCmp_on compare MessageFilter.ordinal
  have names := transCmp_on host.localeCompare MessageFilter.name
  have ids := transCmp_on host.localeCompare MessageFilter.id
  exact inferInstanceAs (Std.TransCmp (compareLex (fun left right : MessageFilter => compare left.ordinal right.ordinal)
    (compareLex (fun left right => host.localeCompare left.name right.name)
      fun left right => host.localeCompare left.id right.id)))

/-- No two filters of a list have the same rank. -/
def ToldApart (filters : List MessageFilter) : Prop :=
  ∀ left ∈ filters, ∀ right ∈ filters, left ≠ right → rank host left right ≠ .eq

variable {host}

theorem ToldApart.ranks (apart : ToldApart host filters) : Interrupted.Ranks (rank host) filters where
  swap _ _ _ _ _ := Std.OrientedCmp.eq_swap
  apart := apart
  trans _ _ _ _ _ _ _ _ first second := Std.TransCmp.lt_trans first second

variable (host)

theorem rank_trans (one two three : MessageFilter) (first : decide (rank host one two ≠ .gt) = true)
    (second : decide (rank host two three ≠ .gt) = true) : decide (rank host one three ≠ .gt) = true := by
  simp only [decide_eq_true_eq, ← Ordering.isLE_iff_ne_gt] at first second ⊢
  exact Std.TransCmp.isLE_trans first second

theorem rank_total (one two : MessageFilter) :
    (decide (rank host one two ≠ .gt) || decide (rank host two one ≠ .gt)) = true := by
  have swap : rank host two one = (rank host one two).swap := Std.OrientedCmp.eq_swap
  rw [swap]
  cases rank host one two <;> rfl

theorem sort_pairwise (filters : List MessageFilter) :
    (sortMessageFilters host filters).Pairwise fun left right => rank host left right ≠ .gt :=
  (List.pairwise_mergeSort (rank_trans host) (rank_total host) filters).imp fun before => of_decide_eq_true before

variable {host}

theorem sort_perm (distinct : filters.Nodup) (apart : ToldApart host filters) {listed : List MessageFilter}
    (perm : listed.Perm filters) : sortMessageFilters host listed = sortMessageFilters host filters :=
  (apart.ranks.mergeSort_perm_eq distinct perm.symm).symm

/-- Leaving filters out and sorting come to the same in either order. -/
theorem sort_filter (keeps : MessageFilter → Bool) (filters : List MessageFilter) :
    sortMessageFilters host (filters.filter keeps) = (sortMessageFilters host filters).filter keeps :=
  Interrupted.mergeSort_filter (rank_trans host) (rank_total host) keeps filters

end Order

section Independence

variable {host : Host} {subject : MessageFilterSubject} {now : Int} {filters : List MessageFilter}

/-- What is ranked after a filter that stops is not asked. -/
theorem upToStop_filter {ranked : List MessageFilter} {keeps : MessageFilter → Bool} {stopper : MessageFilter}
    (ordered : ranked.Pairwise fun left right => rank host left right ≠ .gt) (member : stopper ∈ ranked)
    (isStopper : stops stopper = true) (itself : keeps stopper = true)
    (kept : ∀ filter ∈ ranked, rank host filter stopper ≠ .gt → keeps filter = true) :
    upToStop (ranked.filter keeps) = upToStop ranked := by
  induction ranked with
  | nil => rfl
  | cons first rest ih =>
    obtain ⟨before, ordered⟩ := List.pairwise_cons.1 ordered
    have keepsFirst : keeps first = true := by
      rcases List.mem_cons.1 member with rfl | later
      · exact itself
      · exact kept first List.mem_cons_self (before stopper later)
    rw [List.filter_cons_of_pos keepsFirst, upToStop, upToStop]
    by_cases isLast : stops first = true
    · rw [if_pos isLast, if_pos isLast]
    · have later : stopper ∈ rest := (List.mem_cons.1 member).resolve_left fun same => isLast (same ▸ isStopper)
      rw [if_neg isLast, if_neg isLast, ih ordered later fun filter inRest => kept filter (List.mem_cons_of_mem _ inRest)]

variable [Std.TransCmp host.localeCompare]

/-- Filters that do not fire count for nothing. -/
theorem evaluate_filter (bounded : filters.length ≤ filterLimit) {keeps : MessageFilter → Bool}
    (kept : ∀ filter ∈ filters, fires host subject now filter = true → keeps filter = true) :
    evaluateMessageFilters host subject now (filters.filter keeps) = evaluateMessageFilters host subject now filters := by
  rw [evaluate_eq host subject now bounded, evaluate_eq host subject now ((List.length_filter_le _ _).trans bounded),
    sort_filter, List.filter_filter]
  refine congrArg (fun fired => report (upToStop fired)) (List.filter_congr fun filter member => ?_)
  have inFilters := List.mem_mergeSort.1 member
  cases firing : fires host subject now filter with
  | true => simp [kept filter inFilters firing]
  | false => rfl

/-- Filters behind one that fires and stops count for nothing. -/
theorem evaluate_stopped (bounded : filters.length ≤ filterLimit) {stopper : MessageFilter} (member : stopper ∈ filters)
    (isFiring : fires host subject now stopper = true) (isStopper : stops stopper = true) {keeps : MessageFilter → Bool}
    (kept : ∀ filter ∈ filters, rank host filter stopper ≠ .gt → keeps filter = true) :
    evaluateMessageFilters host subject now (filters.filter keeps) = evaluateMessageFilters host subject now filters := by
  rw [evaluate_eq host subject now bounded, evaluate_eq host subject now ((List.length_filter_le _ _).trans bounded),
    sort_filter, List.filter_comm]
  have itself : rank host stopper stopper ≠ .gt := by simp [Std.ReflCmp.compare_self]
  refine congrArg report (upToStop_filter ((sort_pairwise host filters).filter _) ?_ isStopper (kept stopper member itself) ?_)
  · exact List.mem_filter.2 ⟨List.mem_mergeSort.2 member, isFiring⟩
  · exact fun filter inRanked => kept filter (List.mem_mergeSort.1 (List.mem_filter.1 inRanked).1)

theorem evaluate_perm (distinct : filters.Nodup) (apart : ToldApart host filters) {listed : List MessageFilter}
    (perm : listed.Perm filters) :
    evaluateMessageFilters host subject now listed = evaluateMessageFilters host subject now filters := by
  unfold evaluateMessageFilters
  rw [sort_perm distinct apart perm]

end Independence

section AfterStop

variable {host : Host} {subject : MessageFilterSubject} {now : Int}

/-- What there is to an evaluation but for the lists of actions of its outcomes. -/
def settled (evaluation : MessageFilterEvaluation) :
    Bool × List (JsString × JsString × Bool) × List MessageFilterAction :=
  (evaluation.matched, evaluation.outcomes.map fun outcome => (outcome.filterId, outcome.filterName, outcome.stopped),
    evaluation.effective)

def upToStopAction : List MessageFilterAction → List MessageFilterAction
  | [] => []
  | action :: rest => if isStop action then [action] else action :: upToStopAction rest

/-- A filter without the actions after the first stop. -/
def truncate (filter : MessageFilter) : MessageFilter := { filter with actions := upToStopAction filter.actions }

/-- Two filters that differ at most in actions after a stop. -/
inductive SameToStop : MessageFilter → MessageFilter → Prop where
  | same (filter : MessageFilter) : SameToStop filter filter
  | after (filter : MessageFilter) (before after after' : List MessageFilterAction) (stop : MessageFilterAction)
      (isStop : isStop stop = true) :
      SameToStop { filter with actions := before ++ stop :: after } { filter with actions := before ++ stop :: after' }

theorem upToStopAction_append {stop : MessageFilterAction} (stopping : isStop stop = true)
    (before after : List MessageFilterAction) : upToStopAction (before ++ stop :: after) = upToStopAction (before ++ [stop]) := by
  induction before with
  | nil => simp [upToStopAction, stopping]
  | cons action rest ih => rw [List.cons_append, upToStopAction, ih]; rfl

theorem SameToStop.truncate {left right : MessageFilter} (same : SameToStop left right) : truncate left = truncate right := by
  cases same with
  | same => rfl
  | after filter before after after' stop stopping =>
    simp only [MessageFilters.truncate]
    rw [upToStopAction_append stopping, upToStopAction_append stopping before after']

theorem any_upToStopAction (count : Nat) (actions : List MessageFilterAction) :
    ((upToStopAction actions).take count).any isStop = (actions.take count).any isStop := by
  induction actions generalizing count with
  | nil => rfl
  | cons action rest ih =>
    cases count with
    | zero => rfl
    | succ count =>
      rw [upToStopAction]
      cases stopping : isStop action with
      | true => simp [stopping]
      | false => simp [stopping, ih]

theorem takeWhile_upToStopAction (count : Nat) (actions : List MessageFilterAction) :
    ((upToStopAction actions).take count).takeWhile (fun action => !isStop action) =
      (actions.take count).takeWhile fun action => !isStop action := by
  induction actions generalizing count with
  | nil => rfl
  | cons action rest ih =>
    cases count with
    | zero => rfl
    | succ count =>
      rw [upToStopAction]
      cases stopping : isStop action with
      | true => simp [stopping]
      | false => simp [stopping, ih]

theorem stops_truncate (filter : MessageFilter) : stops (truncate filter) = stops filter := any_upToStopAction _ _

theorem upToStop_truncate (filters : List MessageFilter) :
    upToStop (filters.map truncate) = (upToStop filters).map truncate := by
  induction filters with
  | nil => rfl
  | cons first rest ih =>
    rw [List.map_cons, upToStop, upToStop, stops_truncate, ih]
    split <;> rfl

theorem settled_report (fired : List MessageFilter) : settled (report (fired.map truncate)) = settled (report fired) := by
  have before : ∀ filter, beforeStop (truncate filter) = beforeStop filter := fun filter => takeWhile_upToStopAction _ _
  simp only [settled, report, List.length_map, List.map_map, List.flatMap_map, before]
  refine congrArg (fun outcomes => (_, outcomes, _)) (List.map_congr_left fun filter _ => ?_)
  show (filter.id, filter.name, stops (truncate filter)) = (filter.id, filter.name, stops filter)
  rw [stops_truncate]

/-- Actions after a stop show in no part of an evaluation but in the lists of actions. -/
theorem settled_truncate {filters : List MessageFilter} (bounded : filters.length ≤ filterLimit) :
    settled (evaluateMessageFilters host subject now (filters.map truncate)) =
      settled (evaluateMessageFilters host subject now filters) := by
  have same : ∀ left ∈ filters, ∀ right ∈ filters, decide (rank host left right ≠ .gt) =
      decide (rank host (truncate left) (truncate right) ≠ .gt) := fun _ _ _ _ => rfl
  have sorted : sortMessageFilters host (filters.map truncate) = (sortMessageFilters host filters).map truncate :=
    (List.map_mergeSort same).symm
  have firing : ∀ ranked : List MessageFilter, (ranked.map truncate).filter (fires host subject now) =
      (ranked.filter (fires host subject now)).map truncate := fun ranked => List.filter_map
  rw [evaluate_eq host subject now bounded, evaluate_eq host subject now (by rwa [List.length_map]), sorted, firing,
    upToStop_truncate, settled_report]

end AfterStop

section Settled

variable (host : Host)

/-- One plan is shown by the preview and carried out by the run. -/
def OnePlan (applyFilterPlan : StoredState → FilterRunContext → MessageFilterRunPlan → Applied) (state : StoredState)
    (accountId folderPath : JsString) (now : Int) : Prop :=
  match filterContext state accountId folderPath with
  | none => previewMessageFilterRun host state accountId folderPath now = none ∧
      runMessageFilters host applyFilterPlan state accountId folderPath now = none
  | some context => ∃ plan,
      previewMessageFilterRun host state accountId folderPath now = some (summarizeFilterPlan plan context false ⟨0, []⟩) ∧
      runMessageFilters host applyFilterPlan state accountId folderPath now =
        some (plan, summarizeFilterPlan plan context true (applyFilterPlan state context plan))

theorem onePlan (applyFilterPlan : StoredState → FilterRunContext → MessageFilterRunPlan → Applied) (state : StoredState)
    (accountId folderPath : JsString) (now : Int) : OnePlan host applyFilterPlan state accountId folderPath now := by
  unfold OnePlan previewMessageFilterRun runMessageFilters
  split
  · rename_i noAccount
    exact ⟨congrArg _ noAccount, congrArg _ noAccount⟩
  · rename_i context found
    exact ⟨_, congrArg (Option.map _) found, congrArg (Option.map _) found⟩

theorem truncate_of_sameToStop {filters filters' : List MessageFilter} (same : List.Forall₂ SameToStop filters filters') :
    filters'.map truncate = filters.map truncate := by
  induction same with
  | nil => rfl
  | cons first _ ih => rw [List.map_cons, List.map_cons, first.truncate, ih]

/-- Filters that are disabled or do not match and filters behind one that stops do not change what the filters come to,
nor does the order of a list of which no two compare equal; actions behind a stop show only in the lists of actions of
the outcomes. The plan that a run carries out is the one that the preview was made of. -/
theorem evaluation_settled [Std.TransCmp host.localeCompare] (subject : MessageFilterSubject) (now : Int)
    (filters : List MessageFilter) (bounded : filters.length ≤ filterLimit) (distinct : (filters.map (·.id)).Nodup) :
    (ToldApart host filters → ∀ listed : List MessageFilter, listed.Perm filters →
      evaluateMessageFilters host subject now listed = evaluateMessageFilters host subject now filters) ∧
    (∀ keeps : MessageFilter → Bool, (∀ filter ∈ filters, filter.enabled = true →
        messageFilterMatches host filter subject now = true → keeps filter = true) →
      evaluateMessageFilters host subject now (filters.filter keeps) = evaluateMessageFilters host subject now filters) ∧
    (∀ stopper ∈ filters, stopper.enabled = true → messageFilterMatches host stopper subject now = true →
      stops stopper = true → ∀ keeps : MessageFilter → Bool,
        (∀ filter ∈ filters, rank host filter stopper ≠ .gt → keeps filter = true) →
        evaluateMessageFilters host subject now (filters.filter keeps) =
          evaluateMessageFilters host subject now filters) ∧
    (∀ filters', List.Forall₂ SameToStop filters filters' →
      settled (evaluateMessageFilters host subject now filters') =
        settled (evaluateMessageFilters host subject now filters)) ∧
    ∀ applyFilterPlan state accountId folderPath, OnePlan host applyFilterPlan state accountId folderPath now := by
  refine ⟨fun apart listed perm => evaluate_perm distinct.of_map apart perm, fun keeps kept => ?_,
    fun stopper member enabled isMatch isStopper keeps kept => ?_, fun filters' same => ?_,
    fun applyFilterPlan state accountId folderPath => onePlan host applyFilterPlan state accountId folderPath now⟩
  · refine evaluate_filter bounded fun filter member firing => ?_
    obtain ⟨enabled, isMatch⟩ := Bool.and_eq_true_iff.1 firing
    exact kept filter member enabled isMatch
  · exact evaluate_stopped bounded member (Bool.and_eq_true_iff.2 ⟨enabled, isMatch⟩) isStopper kept
  · have long : filters'.length ≤ filterLimit := same.length_eq ▸ bounded
    rw [← settled_truncate long, truncate_of_sameToStop same, settled_truncate bounded]

section Examples

def plainMessage : MessageSummary where
  id := ofString "m"
  accountId := ofString "a"
  folderPath := ofString "INBOX"
  uid := 1
  uidValidity := none
  messageId := none
  inReplyTo := none
  references := none
  «from» := []
  «to» := []
  cc := []
  subject := ofString "x"
  date := []
  preview := []
  unread := true
  starred := false
  hasAttachments := false
  size := 0

def plainSubject : MessageFilterSubject := ⟨plainMessage, [], [], [], none⟩

def plainFilter (id : JsString) (actions : List MessageFilterAction) : MessageFilter :=
  ⟨id, ofString "f", true, 0, .all, false, none, [⟨.subject, .contains, ofString "x", false⟩], actions⟩

instance : Std.TransCmp Host.plain.localeCompare := inferInstanceAs (Std.TransCmp
  (List.compareLex (compare : UInt16 → UInt16 → Ordering)))

def starring : MessageFilterAction := ⟨.star, []⟩
def stopping : MessageFilterAction := ⟨.stop, []⟩

theorem twoFilters_settled :
    evaluateMessageFilters Host.plain plainSubject 0
        [plainFilter (ofString "b") [stopping], plainFilter (ofString "a") [starring]] =
      evaluateMessageFilters Host.plain plainSubject 0
        [plainFilter (ofString "a") [starring], plainFilter (ofString "b") [stopping]] :=
  (evaluation_settled Host.plain plainSubject 0
    [plainFilter (ofString "a") [starring], plainFilter (ofString "b") [stopping]] (by decide) (by decide)).1
    (by unfold ToldApart; decide) _ (List.Perm.swap _ _ [])

/-- A comparison that does not see the soft hyphen. -/
def Host.hyphenless : Host := { Host.plain with
  localeCompare := fun left right => List.compareLex compare (left.filter (· ≠ 0xAD)) (right.filter (· ≠ 0xAD)) }

theorem sort_of_alike {host : Host} {one two : MessageFilter} (alike : rank host one two = .eq) :
    sortMessageFilters host [one, two] = [one, two] :=
  List.mergeSort_of_pairwise (by simp [alike])

/-- An action behind a stop is listed, and filters whose ids compare equal are asked in the order of the list. -/
theorem listed_shows :
    evaluateMessageFilters Host.plain plainSubject 0 [plainFilter (ofString "a") [stopping]] ≠
      evaluateMessageFilters Host.plain plainSubject 0 [plainFilter (ofString "a") [stopping, starring]] ∧
    evaluateMessageFilters Host.hyphenless plainSubject 0
        [plainFilter (ofString "a") [starring], plainFilter [97, 0xAD] [stopping]] ≠
      evaluateMessageFilters Host.hyphenless plainSubject 0
        [plainFilter [97, 0xAD] [stopping], plainFilter (ofString "a") [starring]] := by
  constructor
  · rw [evaluate_eq _ _ _ (by decide), evaluate_eq _ _ _ (by decide), sortMessageFilters, sortMessageFilters,
      List.mergeSort_singleton, List.mergeSort_singleton]
    decide
  · rw [evaluate_eq _ _ _ (by decide), evaluate_eq _ _ _ (by decide), sort_of_alike (by decide), sort_of_alike (by decide)]
    decide

end Examples

end Settled

end MessageFilters
