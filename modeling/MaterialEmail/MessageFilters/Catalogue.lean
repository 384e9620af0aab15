import MaterialEmail.Identities.Model
import MaterialEmail.Library.Arrangement
import MaterialEmail.Library.Selection
import MaterialEmail.MessageFilters.Conditions

/-! The catalogue of message filters. The filters are kept in the order of their ordinals, which are their places. -/
namespace MessageFilters

open JsString
open Identities (identifierSchema identifierSchema_idem)

structure MessageFilterInput where
  id : Option JsString
  name : JsString
  enabled : Bool
  «match» : Match
  runOnSync : Bool
  accountId : Option JsString
  conditions : List MessageFilterCondition
  actions : List MessageFilterAction

section Schemas

/-- A text or nothing, where a text is what `identifierSchema` accepts. -/
def optionalIdentifier : Option JsString → Option (Option JsString)
  | none => some none
  | some text => (identifierSchema text).map some

def conditionsFit (conditions : List MessageFilterCondition) : Bool :=
  1 ≤ conditions.length && conditions.length ≤ conditionLimit &&
    conditions.all fun condition => condition.value.length ≤ valueLimit

def actionsFit (actions : List MessageFilterAction) : Bool :=
  1 ≤ actions.length && actions.length ≤ actionLimit && actions.all fun action => action.value.length ≤ valueLimit

def nameFits (name : JsString) : Bool := 1 ≤ name.length && name.length ≤ filterNameLimit

/-- What a call from a window may ask to be saved. -/
def messageFilterInputSchema (input : MessageFilterInput) : Option MessageFilterInput := do
  let id ← optionalIdentifier input.id
  let accountId ← optionalIdentifier input.accountId
  if nameFits input.name && input.name.all (!isControl ·) && conditionsFit input.conditions && actionsFit input.actions then
    some { input with id, accountId }
  else none

/-- `messageFilterOrder`. -/
def messageFilterOrder (orderedIds : List JsString) : Option (List JsString) :=
  if orderedIds.length ≤ filterLimit then orderedIds.mapM identifierSchema else none

def messageFilterSchema (filter : MessageFilter) : Option MessageFilter := do
  let id ← identifierSchema filter.id
  let accountId ← optionalIdentifier filter.accountId
  if nameFits filter.name && 0 ≤ filter.ordinal && filter.ordinal ≤ filterLimit && conditionsFit filter.conditions &&
      actionsFit filter.actions then
    some { filter with id, accountId }
  else none

/-- `messageFilters` of the stored state. -/
def messageFiltersSchema (filters : List MessageFilter) : Option (List MessageFilter) :=
  if filters.length ≤ filterLimit then filters.mapM messageFilterSchema else none

end Schemas

section Operations

variable (host : Host)

def rank (left right : MessageFilter) : Ordering :=
  (compare left.ordinal right.ordinal).then
    ((host.localeCompare left.name right.name).then (host.localeCompare left.id right.id))

def sortMessageFilters (filters : List MessageFilter) : List MessageFilter :=
  filters.mergeSort fun left right => rank host left right ≠ .gt

def listFilters (filters : List MessageFilter) : List MessageFilter := sortMessageFilters host filters

def notFound : MessageFilterError := ⟨.notFound, ofString "That filter no longer exists."⟩

/-- The filter to be stored, for an input and the filter that it replaces. -/
def candidate (existing : List MessageFilter) (input : MessageFilterInput) (current : Option MessageFilter)
    (randomUUID : JsString) : MessageFilter where
  id := (current.map (·.id)).getD randomUUID
  name := input.name.trim.take filterNameLimit
  enabled := input.enabled
  ordinal := (current.map (·.ordinal)).getD ((existing.foldl (fun highest filter => max highest filter.ordinal) (-1)) + 1)
  «match» := input.match
  runOnSync := input.runOnSync
  accountId := input.accountId
  conditions := input.conditions.take conditionLimit
  actions := input.actions.take actionLimit

def upsertFilter (filters : List MessageFilter) (input : MessageFilterInput) (randomUUID : JsString) :
    Except MessageFilterError (List MessageFilter) :=
  let existing := listFilters host filters
  let wanted := input.id.filter (· ≠ [])
  let current := wanted.bind fun id => existing.find? fun filter => filter.id = id
  if wanted.isSome ∧ current = none then .error notFound
  else if current = none ∧ filterLimit ≤ existing.length then
    .error ⟨.limitReached, ofString "Material Email keeps at most " ++ ofString (toString filterLimit) ++ ofString " filters."⟩
  else
    let candidate := candidate existing input current randomUUID
    match validateMessageFilter host candidate with
    | .error error => .error error
    | .ok _ => .ok (sortMessageFilters host (existing.filter (fun filter => filter.id ≠ candidate.id) ++ [candidate]))

/-- The ordinals become the places. -/
def reindex (filters : List MessageFilter) : List MessageFilter :=
  filters.mapIdx fun index filter => { filter with ordinal := index }

def removeFilter (filters : List MessageFilter) (id : JsString) : Except MessageFilterError (List MessageFilter) :=
  let existing := listFilters host filters
  if existing.any (fun filter => filter.id = id) then .ok (reindex (existing.filter fun filter => filter.id ≠ id))
  else .error notFound

/-- The loop over the listed ids: the filters that are still to be listed, by their ids, and those that are. -/
def takeListed : List JsString → (JsString → Option MessageFilter) → List MessageFilter →
    (JsString → Option MessageFilter) × List MessageFilter
  | [], byId, ordered => (byId, ordered)
  | id :: rest, byId, ordered =>
    match byId id with
    | none => takeListed rest byId ordered
    | some filter =>
      if ordered.any fun other => other.id = id then takeListed rest byId ordered
      else takeListed rest (Function.update byId id none) (ordered ++ [filter])

def byId (filters : List MessageFilter) : JsString → Option MessageFilter :=
  filters.foldl (fun map filter => Function.update map filter.id (some filter)) fun _ => none

def reorderFilters (filters : List MessageFilter) (orderedIds : List JsString) : List MessageFilter :=
  let existing := listFilters host filters
  let (left, ordered) := takeListed orderedIds (byId existing) []
  reindex (ordered ++ existing.filter fun filter => (left filter.id).isSome)

end Operations

section Calls

/-- A call from a window, with the identifier that is drawn for a new filter. -/
inductive Call where
  | upsert (input : MessageFilterInput) (randomUUID : JsString)
  | remove (id : JsString)
  | reorder (orderedIds : List JsString)

/-- A payload that is not one, or what the operation says. -/
inductive Refusal where
  | payload
  | filter (error : MessageFilterError)
  deriving DecidableEq

variable (host : Host)

def perform (filters : List MessageFilter) : Call → Except Refusal (List MessageFilter)
  | .upsert input randomUUID =>
    match messageFilterInputSchema input with
    | none => .error .payload
    | some input => (upsertFilter host filters input randomUUID).mapError .filter
  | .remove id =>
    match identifierSchema id with
    | none => .error .payload
    | some id => (removeFilter host filters id).mapError .filter
  | .reorder orderedIds =>
    match messageFilterOrder orderedIds with
    | none => .error .payload
    | some orderedIds => .ok (reorderFilters host filters orderedIds)

/-- A call that is refused changes nothing. -/
def step (filters : List MessageFilter) (call : Call) : List MessageFilter := (perform host filters call).toOption.getD filters

def run (calls : List Call) : List MessageFilter := calls.foldl (step host) []

end Calls

section Ordinals

variable {filters : List MessageFilter}

/-- The ordinals are the places. -/
def Placed (filters : List MessageFilter) : Prop := ∀ (index : Nat) (inside : index < filters.length), filters[index].ordinal = index

theorem placed_reindex (filters : List MessageFilter) : Placed (reindex filters) := by
  intro index inside
  simp [reindex]

theorem Placed.append {last : MessageFilter} : Placed (filters ++ [last]) ↔ Placed filters ∧ last.ordinal = filters.length := by
  constructor
  · intro placed
    refine ⟨fun index inside => ?_, ?_⟩
    · have here := placed index (by simp; omega)
      rwa [List.getElem_append_left inside] at here
    · simpa using placed filters.length (by simp)
  · rintro ⟨placed, isLast⟩ index inside
    by_cases before : index < filters.length
    · rw [List.getElem_append_left before]
      exact placed index before
    · obtain rfl : index = filters.length := by simp at inside; omega
      simpa using isLast

theorem Placed.increasing (placed : Placed filters) : filters.Pairwise fun left right => left.ordinal < right.ordinal := by
  refine List.pairwise_iff_getElem.2 fun i j first second before => ?_
  rw [placed i first, placed j second]
  exact_mod_cast before

theorem Placed.highest (placed : Placed filters) :
    filters.foldl (fun highest filter => max highest filter.ordinal) (-1) = filters.length - 1 := by
  induction filters using List.reverseRecOn with
  | nil => rfl
  | append_singleton filters last ih =>
    obtain ⟨placed, isLast⟩ := Placed.append.1 placed
    rw [List.foldl_append, ih placed, List.foldl_cons, List.foldl_nil, isLast]
    simp

theorem placed_of_ordinals {before : List MessageFilter} (placed : Placed before)
    (same : filters.map (·.ordinal) = before.map (·.ordinal)) : Placed filters := by
  have long : filters.length = before.length := by simpa using congrArg List.length same
  intro index inside
  have here := congrArg (·[index]?) same
  simp only [List.getElem?_map, List.getElem?_eq_getElem inside, List.getElem?_eq_getElem (long ▸ inside), Option.map_some,
    Option.some.injEq] at here
  rw [here, placed index (long ▸ inside)]

variable (host : Host)

theorem rank_of_lt {left right : MessageFilter} (before : left.ordinal < right.ordinal) : rank host left right = .lt := by
  rw [rank, compare_lt_iff_lt.2 before]
  rfl

theorem rank_of_gt {left right : MessageFilter} (after : right.ordinal < left.ordinal) : rank host left right = .gt := by
  rw [rank, compare_gt_iff_gt.2 after]
  rfl

/-- Different ordinals settle the order, whatever the names and ids are. -/
theorem ranks_of_ordinals (apart : ∀ left ∈ filters, ∀ right ∈ filters, left ≠ right → left.ordinal ≠ right.ordinal) :
    Interrupted.Ranks (rank host) filters := by
  have either {left right : MessageFilter} (inLeft : left ∈ filters) (inRight : right ∈ filters) (differ : left ≠ right) :
      left.ordinal < right.ordinal ∨ right.ordinal < left.ordinal := lt_or_gt_of_ne (apart left inLeft right inRight differ)
  have less {left right : MessageFilter} (inLeft : left ∈ filters) (inRight : right ∈ filters) (differ : left ≠ right)
      (before : rank host left right = .lt) : left.ordinal < right.ordinal := by
    rcases either inLeft inRight differ with less | more
    · exact less
    · rw [rank_of_gt host more] at before
      cases before
  constructor
  case swap =>
    intro left inLeft right inRight differ
    rcases either inLeft inRight differ with less | more
    · rw [rank_of_lt host less, rank_of_gt host less]
      rfl
    · rw [rank_of_lt host more, rank_of_gt host more]
      rfl
  case apart =>
    intro left inLeft right inRight differ
    rcases either inLeft inRight differ with less | more
    · simp [rank_of_lt host less]
    · simp [rank_of_gt host more]
  case trans =>
    intro one inOne two inTwo three inThree differ differ' first second
    exact rank_of_lt host ((less inOne inTwo differ first).trans (less inTwo inThree differ' second))

theorem sort_of_increasing (increasing : filters.Pairwise fun left right => left.ordinal < right.ordinal) :
    sortMessageFilters host filters = filters := by
  refine List.mergeSort_of_pairwise (increasing.imp fun {left right} before => ?_)
  simp [rank_of_lt host before]

theorem sort_of_perm {listed : List MessageFilter} (placed : Placed filters) (perm : listed.Perm filters) :
    sortMessageFilters host listed = filters := by
  have increasing := placed.increasing
  have distinct : filters.Nodup := increasing.imp fun {left right} before same => by simp [same] at before
  have apart : ∀ left ∈ filters, ∀ right ∈ filters, left ≠ right → left.ordinal ≠ right.ordinal := by
    have nodup : (filters.map (·.ordinal)).Nodup := (List.pairwise_map.2 increasing).imp fun before => before.ne
    exact fun left inLeft right inRight differ same => differ (List.inj_on_of_nodup_map nodup inLeft inRight same)
  have ranks := ranks_of_ordinals host apart
  rw [sortMessageFilters, ← ranks.mergeSort_perm_eq distinct perm.symm]
  exact sort_of_increasing host increasing

end Ordinals

section Fitting

/-- A filter that is stored as it is, its ordinal aside. -/
structure Fits (filter : MessageFilter) : Prop where
  id : identifierSchema filter.id = some filter.id
  accountId : optionalIdentifier filter.accountId = some filter.accountId
  name : nameFits filter.name = true
  conditions : conditionsFit filter.conditions = true
  actions : actionsFit filter.actions = true

theorem messageFilterSchema_of_fits {filter : MessageFilter} (fits : Fits filter) (low : 0 ≤ filter.ordinal)
    (high : filter.ordinal ≤ filterLimit) : messageFilterSchema filter = some filter := by
  simp [messageFilterSchema, fits.id, fits.accountId, fits.name, fits.conditions, fits.actions, low, high]

theorem Fits.at_ordinal {filter : MessageFilter} (fits : Fits filter) (ordinal : Int) : Fits { filter with ordinal } :=
  ⟨fits.id, fits.accountId, fits.name, fits.conditions, fits.actions⟩

theorem optionalIdentifier_idem {text parsed : Option JsString} (ok : optionalIdentifier text = some parsed) :
    optionalIdentifier parsed = some parsed := by
  cases text with
  | none =>
    cases ok
    rfl
  | some text =>
    obtain ⟨value, isValue, rfl⟩ := Option.map_eq_some_iff.1 ok
    exact congrArg (Option.map some) (identifierSchema_idem isValue)

theorem identifierSchema_ne_nil {text parsed : JsString} (ok : identifierSchema text = some parsed) : parsed ≠ [] := by
  unfold identifierSchema at ok
  split at ok
  · rename_i valid
    cases ok
    exact valid.1
  · cases ok

/-- What a call may ask for, as it was parsed. -/
structure Parsed (input : MessageFilterInput) : Prop where
  id : ∀ id ∈ input.id, id ≠ []
  accountId : optionalIdentifier input.accountId = some input.accountId
  conditions : conditionsFit input.conditions = true
  actions : actionsFit input.actions = true

theorem parsed_of_schema {input parsed : MessageFilterInput} (ok : messageFilterInputSchema input = some parsed) :
    Parsed parsed ∧ optionalIdentifier input.id = some parsed.id := by
  simp only [messageFilterInputSchema, Option.bind_eq_bind, Option.bind_eq_some_iff] at ok
  obtain ⟨id, isId, accountId, isAccount, ok⟩ := ok
  split at ok
  · rename_i fits
    cases ok
    simp only [Bool.and_eq_true] at fits
    refine ⟨⟨fun given member => ?_, optionalIdentifier_idem isAccount, fits.1.2, fits.2⟩, isId⟩
    cases member
    cases source : input.id with
    | none => simp [source, optionalIdentifier] at isId
    | some text =>
      obtain ⟨value, isValue, same⟩ := Option.map_eq_some_iff.1 (source ▸ isId)
      cases same
      exact identifierSchema_ne_nil isValue
  · cases ok

theorem validated_name {host : Host} {filter : MessageFilter} (valid : validateMessageFilter host filter = .ok ()) :
    filter.name ≠ [] := by
  intro empty
  simp [validateMessageFilter, empty, trim] at valid

theorem fits_candidate {host : Host} {existing : List MessageFilter} {input : MessageFilterInput}
    {current : Option MessageFilter} {randomUUID : JsString} (parsed : Parsed input)
    (isId : identifierSchema (candidate existing input current randomUUID).id =
      some (candidate existing input current randomUUID).id)
    (valid : validateMessageFilter host (candidate existing input current randomUUID) = .ok ()) :
    Fits (candidate existing input current randomUUID) := by
  have conditions := parsed.conditions
  have actions := parsed.actions
  refine ⟨isId, parsed.accountId, ?_, ?_, ?_⟩
  · have named := List.length_pos_of_ne_nil (validated_name valid)
    simp only [nameFits, Bool.and_eq_true, decide_eq_true_eq]
    exact ⟨named, List.length_take_le _ _⟩
  · have short : input.conditions.length ≤ conditionLimit := by simp_all [conditionsFit]
    rwa [candidate, List.take_of_length_le short]
  · have short : input.actions.length ≤ actionLimit := by simp_all [actionsFit]
    rwa [candidate, List.take_of_length_le short]

end Fitting

section Keeping

variable {host : Host} {filters next : List MessageFilter}

/-- What holds of the stored filters at any time. -/
structure Kept (filters : List MessageFilter) : Prop where
  placed : Placed filters
  distinct : (filters.map (·.id)).Nodup
  bounded : filters.length ≤ filterLimit
  fits : ∀ filter ∈ filters, Fits filter

theorem Kept.listed (kept : Kept filters) (host : Host) : listFilters host filters = filters :=
  sort_of_increasing host kept.placed.increasing

theorem Kept.accepted (kept : Kept filters) : messageFiltersSchema filters = some filters := by
  rw [messageFiltersSchema, if_pos kept.bounded]
  have each : ∀ filter ∈ filters, messageFilterSchema filter = some filter := by
    intro filter member
    obtain ⟨index, inside, rfl⟩ := List.getElem_of_mem member
    have place := kept.placed index inside
    have bounded := kept.bounded
    exact messageFilterSchema_of_fits (kept.fits _ member) (by omega) (by omega)
  clear kept
  induction filters with
  | nil => rfl
  | cons filter rest ih =>
    have later := ih fun other member => each other (List.mem_cons_of_mem _ member)
    rw [List.mapM_cons, each filter List.mem_cons_self, later]
    rfl

/-- A filter without its place. -/
def content (filter : MessageFilter) : MessageFilter := { filter with ordinal := 0 }

theorem content_reindex (filters : List MessageFilter) : (reindex filters).map content = filters.map content := by
  refine List.ext_getElem (by simp [reindex]) fun index inside inside' => ?_
  simp [reindex, content]

theorem ids_of_content {one two : List MessageFilter} (same : one.map content = two.map content) :
    one.map (·.id) = two.map (·.id) := by
  simpa [Function.comp_def, content] using congrArg (List.map (·.id)) same

/-- Filters that are kept stay so when they are left out or put in another order. -/
theorem Kept.reindexed (kept : Kept filters) {listed : List MessageFilter} (distinct : (listed.map (·.id)).Nodup)
    (within : ∀ filter ∈ listed, filter ∈ filters) : Kept (reindex listed) := by
  have ids := ids_of_content (content_reindex listed)
  constructor
  case placed => exact placed_reindex listed
  case distinct => rwa [ids]
  case bounded =>
    have fewer := (List.subperm_of_subset distinct.of_map within).length_le
    have bounded := kept.bounded
    simp only [reindex, List.length_mapIdx]
    omega
  case fits =>
    intro filter member
    obtain ⟨index, inside, rfl⟩ := List.mem_mapIdx.1 member
    exact (kept.fits _ (within _ (List.getElem_mem inside))).at_ordinal index

theorem Kept.placed_replace (kept : Kept filters) {current filter : MessageFilter} (member : current ∈ filters)
    (sameId : filter.id = current.id) (sameOrdinal : filter.ordinal = current.ordinal) :
    Placed (Arrangement.replace (·.id) filter filters) := by
  refine placed_of_ordinals kept.placed ?_
  rw [Arrangement.replace, List.map_map]
  refine List.map_congr_left fun other inList => ?_
  simp only [Function.comp_apply]
  split
  · rename_i isCurrent
    rw [List.inj_on_of_nodup_map kept.distinct inList member (isCurrent.trans sameId), sameOrdinal]
  · rfl

theorem upsertFilter_new (kept : Kept filters) {input : MessageFilterInput} (parsed : Parsed input) (noId : input.id = none)
    {randomUUID : JsString} (fresh : ∀ filter ∈ filters, filter.id ≠ randomUUID)
    (ok : upsertFilter host filters input randomUUID = .ok next) :
    next = filters ++ [candidate filters input none randomUUID] ∧ filters.length < filterLimit ∧
      (identifierSchema randomUUID = some randomUUID → Fits (candidate filters input none randomUUID)) := by
  simp only [upsertFilter, kept.listed host, noId, Option.filter_none, Option.bind_none, Option.isSome_none] at ok
  split at ok
  · rename_i impossible
    simp at impossible
  · split at ok
    · cases ok
    · rename_i room
      split at ok
      · cases ok
      · rename_i valid
        have others : filters.filter (fun filter => filter.id ≠ (candidate filters input none randomUUID).id) = filters :=
          List.filter_eq_self.2 fun filter member => decide_eq_true (fresh filter member)
        have placed : Placed (filters ++ [candidate filters input none randomUUID]) := by
          refine Placed.append.2 ⟨kept.placed, ?_⟩
          simp [candidate, kept.placed.highest]
        rw [others] at ok
        cases ok
        refine ⟨sort_of_perm host placed (List.Perm.refl _), by simpa using room, fun isId => ?_⟩
        exact fits_candidate parsed isId valid

theorem upsertFilter_existing (kept : Kept filters) {input : MessageFilterInput} (parsed : Parsed input) {id : JsString}
    (isId : input.id = some id) {randomUUID : JsString} (ok : upsertFilter host filters input randomUUID = .ok next) :
    ∃ current ∈ filters, current.id = id ∧ Fits (candidate filters input (some current) randomUUID) ∧
      next = Arrangement.replace (·.id) (candidate filters input (some current) randomUUID) filters := by
  have wanted : (some id).filter (· ≠ []) = some id := by simp [parsed.id id isId]
  simp only [upsertFilter, kept.listed host, isId, wanted, Option.bind_some] at ok
  split at ok
  · cases ok
  · rename_i found
    cases current : filters.find? fun filter => filter.id = id with
    | none => simp [current] at found
    | some current' =>
      have member := List.mem_of_find?_eq_some current
      have same : current'.id = id := by simpa using List.find?_some current
      simp only [current] at ok
      split at ok
      · cases ok
      · split at ok
        · cases ok
        · rename_i valid
          have isCandidate : Fits (candidate filters input (some current') randomUUID) :=
            fits_candidate parsed (kept.fits _ member).id valid
          cases ok
          refine ⟨current', member, same, isCandidate, sort_of_perm host (kept.placed_replace member rfl rfl) ?_⟩
          exact Arrangement.replace_perm kept.distinct member rfl

theorem removeFilter_spec (kept : Kept filters) {id : JsString} (ok : removeFilter host filters id = .ok next) :
    id ∈ filters.map (·.id) ∧ next = reindex (filters.filter fun filter => filter.id ≠ id) := by
  simp only [removeFilter, kept.listed host] at ok
  split at ok
  · rename_i present
    cases ok
    exact ⟨by simpa using present, rfl⟩
  · cases ok

theorem byId_eq (distinct : (filters.map (·.id)).Nodup) (id : JsString) :
    byId filters id = filters.find? fun filter => filter.id = id := by
  induction filters using List.reverseRecOn with
  | nil => rfl
  | append_singleton filters last ih =>
    rw [List.map_append] at distinct
    have earlier := ih (List.nodup_append.1 distinct).1
    rw [byId] at earlier
    rw [byId, List.foldl_append, List.foldl_cons, List.foldl_nil, List.find?_append]
    by_cases isLast : id = last.id
    · subst isLast
      have absent : filters.find? (fun filter => filter.id = last.id) = none := by
        refine List.find?_eq_none.2 fun filter member => ?_
        have apart := (List.nodup_append.1 distinct).2.2 filter.id (List.mem_map_of_mem member) last.id (by simp)
        simpa using apart
      simp [absent]
    · rw [Function.update_of_ne isLast, earlier]
      have other : ¬last.id = id := fun same => isLast same.symm
      simp [other]

/-- The loop lists the filters that are asked for once each, and leaves the others. -/
theorem takeListed_spec (orderedIds : List JsString) (byId : JsString → Option MessageFilter) (ordered : List MessageFilter)
    (unlisted : ∀ id filter, byId id = some filter → ∀ other ∈ ordered, other.id ≠ id)
    (own : ∀ id filter, byId id = some filter → filter.id = id) :
    takeListed orderedIds byId ordered =
      (fun id => if id ∈ orderedIds then none else byId id, ordered ++ orderedIds.eraseDups.filterMap byId) := by
  induction orderedIds generalizing byId ordered with
  | nil => simp [takeListed]
  | cons id rest ih =>
    rw [List.eraseDups_cons, Arrangement.filter_eraseDups, takeListed]
    split
    · rename_i absent
      rw [ih byId ordered unlisted own, List.filterMap_cons_none absent, List.filterMap_filter]
      refine Prod.ext (funext fun other => ?_) (congrArg (ordered ++ ·) (List.filterMap_congr fun other _ => ?_))
      · by_cases same : other = id <;> simp [same, absent]
      · by_cases same : other = id <;> simp [same, absent]
    · rename_i filter found
      have notListed : ¬ordered.any (fun other => other.id = id) = true := by
        simpa using unlisted id filter found
      rw [if_neg notListed, List.filterMap_cons_some found]
      have removed {wanted : JsString} {other : MessageFilter} (left : Function.update byId id none wanted = some other) :
          wanted ≠ id ∧ byId wanted = some other := by
        by_cases same : wanted = id
        · simp [same] at left
        · exact ⟨same, by rwa [Function.update_of_ne same] at left⟩
      rw [ih]
      · refine Prod.ext (funext fun other => ?_) ?_
        · by_cases same : other = id <;> simp [same]
        · rw [List.append_assoc, List.singleton_append, List.filterMap_filter]
          refine congrArg (fun later => ordered ++ filter :: later) (List.filterMap_congr fun other _ => ?_)
          by_cases same : other = id <;> simp [same]
      · intro wanted other left listed member
        rcases List.mem_append.1 member with before | isNew
        · exact unlisted wanted other (removed left).2 listed before
        · cases List.mem_singleton.1 isNew
          rw [own id filter found]
          exact (removed left).1.symm
      · exact fun wanted other left => own wanted other (removed left).2

theorem reorderFilters_spec (kept : Kept filters) (host : Host) (orderedIds : List JsString) :
    reorderFilters host filters orderedIds = reindex (Arrangement.listedFirst (·.id) orderedIds filters) := by
  have byIds : byId filters = fun id => filters.find? fun filter => filter.id = id := funext (byId_eq kept.distinct)
  have left := takeListed_spec orderedIds (byId filters) [] (by simp) fun id filter found => by
    rw [byIds] at found
    simpa using List.find?_some found
  simp only [reorderFilters, kept.listed host, left, List.nil_append]
  rw [Arrangement.listedFirst, byIds]
  refine congrArg (fun others => reindex (_ ++ others)) (List.filter_congr fun filter member => ?_)
  by_cases listed : filter.id ∈ orderedIds
  · simp [listed]
  · simp only [listed, if_false, not_false_eq_true, decide_true]
    rw [Arrangement.find?_of_mem kept.distinct member]
    rfl

theorem ok_of_mapError {ε ε' α : Type} {outcome : Except ε α} {translate : ε → ε'} {value : α}
    (ok : outcome.mapError translate = .ok value) : outcome = .ok value := by
  cases outcome with
  | error error => cases ok
  | ok result =>
    cases ok
    rfl

/-- An accepted call, as the operation that it came to. -/
inductive Performed (host : Host) (filters : List MessageFilter) : Call → List MessageFilter → Prop where
  | upsert {input parsed : MessageFilterInput} {randomUUID : JsString} {next : List MessageFilter}
      (isParsed : messageFilterInputSchema input = some parsed)
      (ok : upsertFilter host filters parsed randomUUID = .ok next) : Performed host filters (.upsert input randomUUID) next
  | remove {id parsed : JsString} {next : List MessageFilter} (isParsed : identifierSchema id = some parsed)
      (ok : removeFilter host filters parsed = .ok next) : Performed host filters (.remove id) next
  | reorder {orderedIds parsed : List JsString} (isParsed : messageFilterOrder orderedIds = some parsed) :
      Performed host filters (.reorder orderedIds) (reorderFilters host filters parsed)

theorem performed_of_ok {call : Call} (ok : perform host filters call = .ok next) : Performed host filters call next := by
  cases call with
  | upsert input randomUUID =>
    simp only [perform] at ok
    split at ok
    · cases ok
    · exact .upsert ‹_› (ok_of_mapError ok)
  | remove id =>
    simp only [perform] at ok
    split at ok
    · cases ok
    · exact .remove ‹_› (ok_of_mapError ok)
  | reorder orderedIds =>
    simp only [perform] at ok
    split at ok
    · cases ok
    · cases ok
      exact .reorder ‹_›

/-- The identifier that is drawn for a call is one, and no filter has it. -/
def Drawn (filters : List MessageFilter) : Call → Prop
  | .upsert _ randomUUID => identifierSchema randomUUID = some randomUUID ∧ ∀ filter ∈ filters, filter.id ≠ randomUUID
  | _ => True

theorem Kept.added (kept : Kept filters) {filter : MessageFilter} (room : filters.length < filterLimit)
    (isLast : filter.ordinal = filters.length) (isNew : ∀ other ∈ filters, other.id ≠ filter.id) (fits : Fits filter) :
    Kept (filters ++ [filter]) := by
  constructor
  case placed => exact Placed.append.2 ⟨kept.placed, isLast⟩
  case distinct =>
    rw [List.map_append]
    refine List.nodup_append.2 ⟨kept.distinct, by simp, ?_⟩
    rintro id known other isOther rfl
    obtain ⟨old, member, isOld⟩ := List.mem_map.1 known
    simp only [List.map_cons, List.map_nil, List.mem_singleton] at isOther
    exact isNew old member (isOld.trans isOther)
  case bounded =>
    rw [List.length_append]
    exact room
  case fits =>
    intro other member
    rcases List.mem_append.1 member with before | here
    · exact kept.fits other before
    · exact List.mem_singleton.1 here ▸ fits

theorem Kept.replaced (kept : Kept filters) {current filter : MessageFilter} (member : current ∈ filters)
    (sameId : filter.id = current.id) (sameOrdinal : filter.ordinal = current.ordinal) (fits : Fits filter) :
    Kept (Arrangement.replace (·.id) filter filters) := by
  constructor
  case placed => exact kept.placed_replace member sameId sameOrdinal
  case distinct =>
    rw [Arrangement.replace_keys]
    exact kept.distinct
  case bounded =>
    rw [Arrangement.replace, List.length_map]
    exact kept.bounded
  case fits =>
    intro other inList
    obtain ⟨old, inOld, rfl⟩ := List.mem_map.1 inList
    split
    · exact fits
    · exact kept.fits old inOld

theorem Kept.performed (kept : Kept filters) {call : Call} (drawn : Drawn filters call)
    (done : Performed host filters call next) : Kept next := by
  cases done with
  | upsert isParsed ok =>
    rename_i parsed randomUUID
    have valid := (parsed_of_schema isParsed).1
    cases wanted : parsed.id with
    | none =>
      obtain ⟨rfl, room, fits⟩ := upsertFilter_new kept valid wanted drawn.2 ok
      exact kept.added room (by simp [candidate, kept.placed.highest]) drawn.2 (fits drawn.1)
    | some id =>
      obtain ⟨current, member, -, fits, rfl⟩ := upsertFilter_existing kept valid wanted ok
      exact kept.replaced member rfl rfl fits
  | remove _ ok =>
    obtain ⟨-, rfl⟩ := removeFilter_spec kept ok
    exact kept.reindexed (kept.distinct.sublist (List.filter_sublist.map _)) fun filter member =>
      (List.mem_filter.1 member).1
  | reorder _ =>
    rw [reorderFilters_spec kept]
    have perm := Arrangement.listedFirst_perm kept.distinct
    exact kept.reindexed (((perm _).map _).nodup_iff.2 kept.distinct) fun filter member => (perm _).mem_iff.1 member

end Keeping

section Runs

variable (host : Host)

theorem kept_nil : Kept [] :=
  ⟨fun _ inside => absurd inside (by simp), List.nodup_nil, by simp [filterLimit], by simp⟩

theorem Kept.step {host : Host} {filters : List MessageFilter} (kept : Kept filters) {call : Call} (drawn : Drawn filters call) :
    Kept (step host filters call) := by
  unfold MessageFilters.step
  cases outcome : perform host filters call with
  | error refusal => exact kept
  | ok next => exact kept.performed drawn (performed_of_ok outcome)

def Call.randomUUID : Call → Option JsString
  | .upsert _ randomUUID => some randomUUID
  | _ => none

/-- `randomUUID` draws identifiers, and none of them twice. -/
def DrawsApart (calls : List Call) : Prop :=
  (calls.filterMap Call.randomUUID).Nodup ∧ ∀ id ∈ calls.filterMap Call.randomUUID, identifierSchema id = some id

theorem run_concat (calls : List Call) (call : Call) : run host (calls ++ [call]) = step host (run host calls) call := by
  simp [run]

variable {host}

/-- An identifier is one that was there before or was drawn for the call. -/
theorem ids_performed {filters next : List MessageFilter} (kept : Kept filters) {call : Call} (drawn : Drawn filters call)
    (done : Performed host filters call next) :
    ∀ filter ∈ next, filter.id ∈ filters.map (·.id) ∨ call.randomUUID = some filter.id := by
  have same {listed : List MessageFilter} (within : ∀ filter ∈ listed, filter ∈ filters) :
      ∀ filter ∈ reindex listed, filter.id ∈ filters.map (·.id) := by
    intro filter member
    have known := List.mem_map_of_mem (f := (·.id)) member
    rw [ids_of_content (content_reindex listed)] at known
    obtain ⟨old, inListed, isOld⟩ := List.mem_map.1 known
    exact isOld ▸ List.mem_map_of_mem (within old inListed)
  intro filter member
  cases done with
  | upsert isParsed ok =>
    rename_i parsed randomUUID
    have valid := (parsed_of_schema isParsed).1
    cases wanted : parsed.id with
    | none =>
      obtain ⟨rfl, -, -⟩ := upsertFilter_new kept valid wanted drawn.2 ok
      rcases List.mem_append.1 member with before | here
      · exact Or.inl (List.mem_map_of_mem before)
      · exact Or.inr (by rw [List.mem_singleton.1 here]; rfl)
    | some id =>
      obtain ⟨current, -, -, -, rfl⟩ := upsertFilter_existing kept valid wanted ok
      rw [← Arrangement.replace_keys]
      exact Or.inl (List.mem_map_of_mem member)
  | remove _ ok =>
    obtain ⟨-, rfl⟩ := removeFilter_spec kept ok
    exact Or.inl (same (fun other inList => (List.mem_filter.1 inList).1) filter member)
  | reorder _ =>
    rw [reorderFilters_spec kept] at member
    exact Or.inl (same (fun other => ((Arrangement.listedFirst_perm kept.distinct _).mem_iff).1) filter member)

variable (host)

theorem run_kept (calls : List Call) (draws : DrawsApart calls) :
    Kept (run host calls) ∧ ∀ filter ∈ run host calls, filter.id ∈ calls.filterMap Call.randomUUID := by
  induction calls using List.reverseRecOn with
  | nil => exact ⟨kept_nil, by simp [run]⟩
  | append_singleton calls call ih =>
    obtain ⟨distinct, identifiers⟩ := draws
    rw [List.filterMap_append] at distinct identifiers
    obtain ⟨kept, known⟩ := ih ⟨(List.nodup_append.1 distinct).1, fun id member =>
      identifiers id (List.mem_append_left _ member)⟩
    have drawn : Drawn (run host calls) call := by
      cases call with
      | upsert input randomUUID =>
        refine ⟨identifiers _ (by simp [Call.randomUUID]), fun filter member same => ?_⟩
        exact (List.nodup_append.1 distinct).2.2 _ (known filter member) randomUUID (by simp [Call.randomUUID]) same
      | remove id => trivial
      | reorder orderedIds => trivial
    rw [run_concat]
    refine ⟨kept.step drawn, fun filter member => ?_⟩
    rw [List.filterMap_append, List.mem_append]
    unfold step at member
    cases outcome : perform host (run host calls) call with
    | error refusal =>
      rw [outcome] at member
      exact Or.inl (known filter member)
    | ok next =>
      rw [outcome] at member
      rcases ids_performed kept drawn (performed_of_ok outcome) filter member with before | isNew
      · obtain ⟨old, inRun, isOld⟩ := List.mem_map.1 before
        exact Or.inl (isOld ▸ known old inRun)
      · exact Or.inr (by simp [isNew])

/-- What the catalogue is worth: the ids tell the filters apart, there are not too many of them, and they are read back
as they are stored. -/
structure Valid (filters : List MessageFilter) : Prop where
  distinct : (filters.map (·.id)).Nodup
  bounded : filters.length ≤ filterLimit
  accepted : messageFiltersSchema filters = some filters

/-- All filters but one are as they were and in the order in which they were, their ordinals aside. -/
def OthersKept (id : JsString) (before after : List MessageFilter) : Prop :=
  (after.filter fun filter => filter.id ≠ id).map content = (before.filter fun filter => filter.id ≠ id).map content

/-- What an accepted call may change. -/
def Lawful (filters next : List MessageFilter) : Call → Prop
  | .upsert input _ => ∀ id, input.id.bind identifierSchema = some id →
      OthersKept id filters next ∧ next.map (·.id) = filters.map (·.id)
  | .remove id => ∀ parsed, identifierSchema id = some parsed →
      OthersKept parsed filters next ∧ parsed ∈ filters.map (·.id) ∧ parsed ∉ next.map (·.id)
  | .reorder orderedIds => ∀ parsed, messageFilterOrder orderedIds = some parsed →
      next.map content = (Arrangement.listedFirst (·.id) parsed filters).map content ∧
        (next.map content).Perm (filters.map content)

theorem content_id (filter : MessageFilter) : (content filter).id = filter.id := rfl

/-- What a filter is but for its place decides whether it is one of the others. -/
theorem othersKept_of_content {id : JsString} {before after : List MessageFilter}
    (same : after.map content = (before.filter fun filter => filter.id ≠ id).map content) : OthersKept id before after := by
  have all : after.filter (fun filter => filter.id ≠ id) = after := by
    refine List.filter_eq_self.2 fun filter member => ?_
    have known := List.mem_map_of_mem (f := content) member
    rw [same] at known
    obtain ⟨old, inBefore, isOld⟩ := List.mem_map.1 known
    have other := (List.mem_filter.1 inBefore).2
    rwa [← content_id old, isOld] at other
  rw [OthersKept, all, same]

theorem lawful_of_kept {filters next : List MessageFilter} (kept : Kept filters) {call : Call}
    (done : Performed host filters call next) : Lawful filters next call := by
  cases done with
  | upsert isParsed ok =>
    rename_i input parsed randomUUID
    obtain ⟨valid, isId⟩ := parsed_of_schema isParsed
    intro id given
    have wanted : parsed.id = some id := by
      obtain ⟨text, isText, isGiven⟩ := Option.bind_eq_some_iff.1 given
      simpa [isText, optionalIdentifier, isGiven, eq_comm] using isId
    obtain ⟨current, member, rfl, -, rfl⟩ := upsertFilter_existing kept valid wanted ok
    generalize isNew : candidate filters parsed (some current) randomUUID = filter
    have sameId : filter.id = current.id := isNew ▸ rfl
    refine ⟨congrArg (List.map content) ?_, Arrangement.replace_keys filter filters⟩
    rw [← sameId]
    exact Arrangement.replace_others filter filters
  | remove isParsed ok =>
    rename_i parsed
    intro id isId
    obtain rfl : parsed = id := Option.some.inj (isParsed.symm.trans isId)
    obtain ⟨present, rfl⟩ := removeFilter_spec kept ok
    refine ⟨othersKept_of_content (content_reindex _), present, ?_⟩
    rw [ids_of_content (content_reindex _)]
    simp
  | reorder isParsed =>
    rename_i parsed
    intro ids isIds
    obtain rfl : parsed = ids := Option.some.inj (isParsed.symm.trans isIds)
    rw [reorderFilters_spec kept, content_reindex]
    exact ⟨rfl, (Arrangement.listedFirst_perm kept.distinct parsed).map content⟩

/-- In every run of calls the catalogue stays valid, and an accepted call changes only what it is about. -/
theorem catalogue_kept (calls : List Call) (draws : DrawsApart calls) :
    Valid (run host calls) ∧
      ∀ call next, perform host (run host calls) call = .ok next → Lawful (run host calls) next call := by
  obtain ⟨kept, -⟩ := run_kept host calls draws
  exact ⟨⟨kept.distinct, kept.bounded, kept.accepted⟩, fun call next ok => lawful_of_kept host kept (performed_of_ok ok)⟩

/-- Two filters, of which the second is put first and the first is then taken out. -/
def callsOnTwo : List Call :=
  let input (name : String) : MessageFilterInput :=
    ⟨none, ofString name, true, .all, false, none, [⟨.subject, .contains, ofString "x", false⟩], [⟨.star, []⟩]⟩
  [.upsert (input "one") (ofString "a"), .upsert (input "two") (ofString "b"), .reorder [ofString "b", ofString "c"],
    .remove (ofString "a")]

theorem callsOnTwo_kept : Valid (run Host.plain callsOnTwo) ∧
    ∀ call next, perform Host.plain (run Host.plain callsOnTwo) call = .ok next →
      Lawful (run Host.plain callsOnTwo) next call :=
  catalogue_kept Host.plain callsOnTwo ⟨by decide, by decide⟩

end Runs

end MessageFilters
