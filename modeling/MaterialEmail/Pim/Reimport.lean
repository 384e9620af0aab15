import MaterialEmail.AtomicJsonStore.Model
import MaterialEmail.Pim.Components
import MaterialEmail.Pim.Merging
import MaterialEmail.Pim.VCard
import Mathlib.Data.List.Pairwise

/-! A document that is imported again finds what its first import has stored, and nothing happens. Calendars
do so unless the clock or another record of the document decides what is stored of a record. -/
namespace Pim

open Fallible JsString

variable {letters : LetterCase} {s m s' : PersistedPimState} {env : Surroundings} {kind : PimEntityKind}
  {uid now : JsString}

section Store

/-- A mutator, as the store runs it; `describe` gives the text of what it throws. -/
def inStore (describe : PimError → String) (mutator : Draft → Except PimError (Draft × Decision α)) :
    AtomicJsonStore.Mutator PersistedPimState PersistedPimState α := fun state =>
  match mutator ⟨state, 0⟩ with
  | .ok (draft, decision) => .ok ⟨decision.changed, draft.state, decision.result⟩
  | .error error => .error (describe error)

/-- A mutator succeeds and changes neither the state nor, in the store, its generation. -/
structure Idle (letters : LetterCase) (mutator : Draft → Except PimError (Draft × Decision α)) (s : PersistedPimState)
    (result : α) : Prop where
  state : mutate letters mutator s = .ok (s, result)
  generation : ∀ [DecidableEq PersistedPimState] (config : AtomicJsonStore.Config PersistedPimState PersistedPimState)
    (describe : PimError → String) (generation : Nat),
    AtomicJsonStore.update config (inStore describe mutator) ⟨generation, s⟩ = .done result

theorem idle_of_unchanged {mutator : Draft → Except PimError (Draft × Decision α)} {draft : Draft} {result : α}
    (ok : mutator ⟨s, 0⟩ = .ok (draft, ⟨false, result⟩)) : Idle letters mutator s result where
  state := by
    unfold mutate
    rw [ok]
    rfl
  generation := by
    intro _ config describe generation
    simp only [AtomicJsonStore.update, inStore, ok]
    rfl

theorem mutate_stored {mutator : Draft → Except PimError (Draft × Decision α)} {result : α}
    (ok : mutate letters mutator s = .ok (s', result)) :
    ∃ draft decision, mutator ⟨s, 0⟩ = .ok (draft, decision) ∧ decision.result = result ∧
      (Ledger letters draft.state → (decision.changed = false → draft.state = s) → s' = draft.state) := by
  obtain ⟨⟨draft, decision⟩, mutates, ok₁⟩ := bind_eq_ok ok
  refine ⟨draft, decision, mutates, ?_⟩
  by_cases changed : decision.changed = true
  · simp only [changed, if_true] at ok₁
    obtain ⟨stored, isStored, ok₂⟩ := bind_eq_ok ok₁
    cases ok₂
    refine ⟨rfl, fun ledger _ => ?_⟩
    rw [orInvalid_ok, ledger.persists, Option.some.injEq] at isStored
    exact isStored.symm
  · simp only [changed] at ok₁
    cases ok₁
    exact ⟨rfl, fun _ still => (still (by simpa using changed)).symm⟩

theorem unchanged_of_replicate {results : List (Imported kind)} {count : Nat}
    (unchanged : results.map (·.1) = List.replicate count .unchanged) : results.any (·.1.changes) = false := by
  have same : results.any (·.1.changes) = (results.map (·.1)).any ImportOutcome.changes := by
    rw [List.any_map]
    rfl
  rw [same, unchanged, List.any_eq_false]
  intro outcome member
  rw [List.eq_of_mem_replicate member]
  exact nofun

end Store

section Calendars

variable {parsed : ParsedICalendarBundle} {result : ICalendarImportResult}

/-- The mutator of `importICalendar`. -/
def importICalendarIn (letters : LetterCase) (env : Surroundings) (parsed : ParsedICalendarBundle)
    (policy : ICalendarDuplicatePolicy) (draft : Draft) : Except PimError (Draft × Decision ICalendarImportResult) := do
  let now ← env.now
  let (draft, events) ← importAll
    (fun event => importComponent letters env .calendarEvent .task policy event now) parsed.events draft
  let (draft, tasks) ← importAll
    (fun task => importComponent letters env .task .calendarEvent policy task now) parsed.tasks draft
  return (draft, ⟨events.any (·.1.changes) || tasks.any (·.1.changes), ⟨events, tasks⟩⟩)

theorem importICalendar_eq (policy : ICalendarDuplicatePolicy) :
    importICalendar letters env parsed policy = mutate letters (importICalendarIn letters env parsed policy) := rfl

/-- An import of a calendar reports each record as unchanged, and nothing is stored. -/
def ICalendarUnchanged (letters : LetterCase) (env : Surroundings) (parsed : ParsedICalendarBundle)
    (s : PersistedPimState) : Prop :=
  ∃ result, Idle letters (importICalendarIn letters env parsed .update) s result ∧
    result.events.map (·.1) = List.replicate parsed.events.length .unchanged ∧
    result.tasks.map (·.1) = List.replicate parsed.tasks.length .unchanged

/-- The records of a calendar have passed their schemas. -/
structure Parsed (letters : LetterCase) (parsed : ParsedICalendarBundle) : Prop where
  events : ∀ event ∈ parsed.events, createSchema letters .calendarEvent event = some event
  tasks : ∀ task ∈ parsed.tasks, createSchema letters .task task = some task

theorem createSchema_normalizes (letters : LetterCase) (kind : PimEntityKind)
    (normalizes : Normalizes (contentSchema letters kind)) : Normalizes (createSchema letters kind) := by
  intro raw once first
  simp only [createSchema, bind_eq_some, Option.pure_def, Option.some.injEq] at first ⊢
  obtain ⟨uid, isUid, content, isContent, rfl⟩ := first
  exact ⟨uid, optional_normalizes uidSchema_normalizes _ _ isUid, content, normalizes _ _ isContent, rfl⟩

theorem parsed_of_source {host : Host} {source : JsString} (ok : parseICalendarBundle host source = .ok parsed) :
    Parsed host.toLetterCase parsed := by
  obtain ⟨events, tasks⟩ := bundle_parsed ok
  constructor
  · intro event member
    obtain ⟨raw, parses⟩ := events event member
    exact createSchema_normalizes _ .calendarEvent (calendarEventContent_normalizes host.toLetterCase) _ _ parses
  · intro task member
    obtain ⟨raw, parses⟩ := tasks task member
    exact createSchema_normalizes _ .task taskContent_normalizes _ _ parses

theorem now_eq (ok : env.now = .ok now) : ∃ instant, env.clock = some instant ∧ now = JsDate.toISOString instant := by
  unfold Surroundings.now at ok
  split at ok
  · rename_i instant isClock
    cases ok
    exact ⟨instant, isClock, rfl⟩
  · cases ok

theorem componentAsks_congr {other : PimEntityKind} (differ : other ≠ kind) (elsewhere : Elsewhere kind s s') :
    componentAsks kind other s' now = componentAsks kind other s now := by
  funext input
  unfold componentAsks
  simp only [elsewhere.isKnown differ]

theorem importComponents_store {other : PimEntityKind} {inputs : List (CreateInput kind)} {draft draft' : Draft}
    {results : List (Imported kind)} (differ : other ≠ kind)
    (normal : ∀ input ∈ inputs, createSchema letters kind input = some input)
    (ok : importAll (fun input => importComponent letters env kind other .update input now) inputs draft =
      .ok (draft', results)) :
    StoresAll (componentAsks kind other draft.state now) inputs draft.state (results.map (·.1)) draft'.state := by
  refine importAll_stores ?_ Elsewhere.refl ok
  intro input member between after imported elsewhere one
  rw [← componentAsks_congr differ elsewhere]
  exact importComponent_stores (normal input member) one

theorem importComponents_again {other : PimEntityKind} {inputs : List (CreateInput kind)} (env : Surroundings)
    (draft : Draft) (ledger : Ledger letters draft.state)
    (normal : ∀ input ∈ inputs, createSchema letters kind input = some input)
    (finds : ∀ input ∈ inputs, ∃ uid content,
      componentAsks kind other draft.state now input = some (uid, content) ∧ Has draft.state kind uid content) :
    ∃ results, importAll (fun input => importComponent letters env kind other .update input now) inputs draft =
        .ok (draft, results) ∧
      results.map (·.1) = List.replicate inputs.length .unchanged := by
  apply importAll_again
  intro input member
  obtain ⟨uid, content, asks, has⟩ := finds input member
  obtain ⟨entity, again⟩ := importComponent_again ledger (normal input member) asks has
  exact ⟨some entity, again⟩

theorem importICalendar_stores (ledger : Ledger letters s) (normal : Parsed letters parsed)
    (ok : importICalendar letters env parsed .update s = .ok (s', result)) :
    ∃ instant m, env.clock = some instant ∧
      StoresAll (componentAsks .calendarEvent .task s (JsDate.toISOString instant)) parsed.events s
        (result.events.map (·.1)) m ∧
      StoresAll (componentAsks .task .calendarEvent m (JsDate.toISOString instant)) parsed.tasks m
        (result.tasks.map (·.1)) s' := by
  rw [importICalendar_eq] at ok
  obtain ⟨draft, decision, mutates, isResult, stored⟩ := mutate_stored ok
  obtain ⟨now, isNow, ok₁⟩ := bind_eq_ok mutates
  obtain ⟨⟨between, events⟩, first, ok₂⟩ := bind_eq_ok ok₁
  obtain ⟨⟨after, tasks⟩, second, ok₃⟩ := bind_eq_ok ok₂
  obtain ⟨instant, isClock, rfl⟩ := now_eq isNow
  have storesEvents := importComponents_store (by decide) normal.events first
  have storesTasks := importComponents_store (by decide) normal.tasks second
  cases ok₃
  subst isResult
  have grown := importAll_ok (fun _ _ _ _ _ ledger ok => importComponent_ok ledger ok) ledger first
  have ledger' := grown.ledger ledger
  have grown' := importAll_ok (fun _ _ _ _ _ ledger ok => importComponent_ok ledger ok) ledger' second
  have same : s' = draft.state := by
    refine stored (grown'.ledger ledger') fun idle => ?_
    simp only [Bool.or_eq_false_iff, List.any_eq_false, Bool.not_eq_true] at idle
    rw [storesTasks.still (by simpa using idle.2), storesEvents.still (by simpa using idle.1)]
  rw [same]
  exact ⟨instant, between.state, isClock, storesEvents, storesTasks⟩

structure Finds (s : PersistedPimState) (now : JsString) (parsed : ParsedICalendarBundle) : Prop where
  events : ∀ event ∈ parsed.events, ∃ uid content,
    componentAsks .calendarEvent .task s now event = some (uid, content) ∧ Has s .calendarEvent uid content
  tasks : ∀ task ∈ parsed.tasks, ∃ uid content,
    componentAsks .task .calendarEvent s now task = some (uid, content) ∧ Has s .task uid content

theorem importICalendar_unchanged_iff (ledger : Ledger letters s) (normal : Parsed letters parsed) {instant : Int}
    (isClock : env.clock = some instant) :
    ICalendarUnchanged letters env parsed s ↔ Finds s (JsDate.toISOString instant) parsed := by
  constructor
  · rintro ⟨result, idle, events, tasks⟩
    obtain ⟨_, m, isClock', storesEvents, storesTasks⟩ := importICalendar_stores ledger normal idle.state
    rw [isClock, Option.some.injEq] at isClock'
    subst isClock'
    obtain ⟨rfl, foundEvents⟩ := storesEvents.unchanged fun outcome member => by
      rw [events] at member
      exact List.eq_of_mem_replicate member
    obtain ⟨-, foundTasks⟩ := storesTasks.unchanged fun outcome member => by
      rw [tasks] at member
      exact List.eq_of_mem_replicate member
    exact ⟨foundEvents, foundTasks⟩
  · intro finds
    obtain ⟨events, first, eventsUnchanged⟩ := importComponents_again env ⟨s, 0⟩ ledger normal.events finds.events
    obtain ⟨tasks, second, tasksUnchanged⟩ := importComponents_again env ⟨s, 0⟩ ledger normal.tasks finds.tasks
    refine ⟨⟨events, tasks⟩, idle_of_unchanged (?_ : _ = Except.ok (⟨s, 0⟩, _)), eventsUnchanged, tasksUnchanged⟩
    simp only [importICalendarIn, Surroundings.now, isClock, first, second, bind, Except.bind,
      unchanged_of_replicate eventsUnchanged, unchanged_of_replicate tasksUnchanged]
    rfl

/-- Two contents that are stored alike: a status keeps the completion of a task or how far it has come, not both. -/
def TaskContent.Alike (first second : TaskContent) : Prop :=
  { first with percentComplete := 0, completedAt := none } = { second with percentComplete := 0, completedAt := none } ∧
    if first.status = .completed then first.completedAt = second.completedAt
    else min first.percentComplete 99 = min second.percentComplete 99

/-- A calendar whose completed tasks have a time of completion, and whose records of one kind and UID are alike. -/
structure Repeatable (parsed : ParsedICalendarBundle) : Prop where
  dated : ∀ task ∈ parsed.tasks, TaskContent.status task.content = .completed →
    (TaskContent.completedAt task.content).isSome
  events : ∀ first ∈ parsed.events, ∀ second ∈ parsed.events, first.uid = second.uid → first.content = second.content
  tasks : ∀ first ∈ parsed.tasks, ∀ second ∈ parsed.tasks, first.uid = second.uid →
    TaskContent.Alike first.content second.content

theorem normalizeTaskContent_dated {content : TaskContent}
    (dated : content.status = .completed → content.completedAt.isSome) (first second : JsString) : normalizeTaskContent content first = normalizeTaskContent content second := by
  unfold normalizeTaskContent
  split
  · rename_i completed
    obtain ⟨moment, isMoment⟩ := Option.isSome_iff_exists.1 (dated completed)
    rw [isMoment]
    rfl
  · rfl

theorem getD_inj {first second : Option α} {other : α} (isSome : first.isSome) (isSome' : second.isSome) :
    first.getD other = second.getD other ↔ first = second := by
  obtain ⟨value, rfl⟩ := Option.isSome_iff_exists.1 isSome
  obtain ⟨value', rfl⟩ := Option.isSome_iff_exists.1 isSome'
  simp

theorem alike_iff {first second : TaskContent} (dated : first.status = .completed → first.completedAt.isSome)
    (dated' : second.status = .completed → second.completedAt.isSome) :
    normalizeTaskContent first now = normalizeTaskContent second now ↔ first.Alike second := by
  rw [normalizeTaskContent_eq, normalizeTaskContent_eq, TaskContent.Alike]
  simp only [TaskContent.mk.injEq, and_assoc, true_and]
  constructor
  · rintro ⟨title, description, status, entry, due, priority, percent, completed, rest⟩
    rw [← status] at percent completed dated'
    refine ⟨title, description, status, entry, due, priority, rest.1, rest.2.1, rest.2.2, ?_⟩
    split
    · rename_i done
      simp only [if_pos done, Option.some.injEq] at completed
      exact (getD_inj (dated done) (dated' done)).1 completed
    · rename_i undone
      simpa only [if_neg undone] using percent
  · rintro ⟨title, description, status, entry, due, priority, categories, recurrence, source, stored⟩
    rw [← status]
    refine ⟨title, description, rfl, entry, due, priority, ?_, ?_, categories, recurrence, source⟩
    · split
      · rfl
      · rename_i undone
        rwa [if_neg undone] at stored
    · split
      · rename_i done
        rw [if_pos done] at stored
        rw [stored]
      · rfl

open JsDate in
theorem dated_of_same {content : TaskContent} {first second : Int} (differ : first ≠ second)
    (normal : TaskContent.parse (normalizeTaskContent content (toISOString first)) =
      some (normalizeTaskContent content (toISOString first)))
    (same : normalizeTaskContent content (toISOString first) = normalizeTaskContent content (toISOString second))
    (completed : content.status = .completed) : content.completedAt.isSome := by
  obtain ⟨-, -, -, -, isMoment, -⟩ := taskContent_fields normal
  cases isCompleted : content.completedAt with
  | some moment => rfl
  | none =>
    have stored (instant : Int) :
        (normalizeTaskContent content (toISOString instant)).completedAt = some (toISOString instant) := by
      rw [normalizeTaskContent_eq, if_pos completed, isCompleted]
      simp [completed]
    have texts : toISOString first = toISOString second := by
      have := congrArg TaskContent.completedAt same
      rwa [stored, stored, Option.some.injEq] at this
    rw [stored] at isMoment
    obtain ⟨parsed, isParsed, -⟩ := Option.map_eq_some_iff.1 isMoment
    unfold isoDateTimeSchema at isParsed
    split at isParsed
    · rename_i valid
      exact absurd (toISOString_injective texts valid.1) differ
    · cases isParsed

theorem Has.unique {first second : Content kind} (one : Has s kind uid first) (two : Has s kind uid second) :
    first = second := by
  obtain ⟨entity, found, rfl⟩ := one
  obtain ⟨entity', found', rfl⟩ := two
  rw [found, Option.some.injEq] at found'
  rw [found']

theorem Has.elsewhere {other : PimEntityKind} {content : Content kind} (has : Has s kind uid content)
    (elsewhere : Elsewhere other s s') (differ : kind ≠ other) : Has s' kind uid content := by
  obtain ⟨entity, found, same⟩ := has
  refine ⟨entity, ?_, same⟩
  unfold PersistedPimState.find at found ⊢
  rwa [elsewhere.collection kind differ]

theorem Has.normal {content : Content kind} (has : Has s kind uid content) (ledger : Ledger letters s) :
    contentSchema letters kind content = some content := by
  obtain ⟨entity, found, rfl⟩ := has
  exact (normal_iff.1 (ledger.normal_live found).1).2.1

section Stored

variable {events tasks : List ImportOutcome} (storesEvents : StoresAll (componentAsks .calendarEvent .task s now)
  parsed.events s events m) (storesTasks : StoresAll (componentAsks .task .calendarEvent m now) parsed.tasks m tasks s')

include storesEvents storesTasks

theorem free_again :
    (∀ event ∈ parsed.events, ∀ uid, event.uid = some uid → isKnown s' .task uid = false) ∧
      ∀ task ∈ parsed.tasks, ∀ uid, task.uid = some uid → isKnown s' .calendarEvent uid = false := by
  constructor
  · intro event member uid isUid
    obtain ⟨_, content, asks⟩ := storesEvents.asked event member
    obtain ⟨isUid', free, -⟩ := componentAsks_eq.1 asks
    rw [isUid, Option.some.injEq] at isUid'
    subst isUid'
    have known := storesEvents.live member asks
    have apart : ∀ task ∈ parsed.tasks, ∀ other, componentAsks .task .calendarEvent m now task ≠ some (uid, other) := by
      intro task _ other asksTask
      obtain ⟨-, unknown, -⟩ := componentAsks_eq.1 asksTask
      rw [known] at unknown
      cases unknown
    rw [storesTasks.untouched apart, storesEvents.elsewhere.isKnown (by decide), free]
  · intro task member uid isUid
    obtain ⟨_, content, asks⟩ := storesTasks.asked task member
    obtain ⟨isUid', free, -⟩ := componentAsks_eq.1 asks
    rw [isUid, Option.some.injEq] at isUid'
    subst isUid'
    rw [storesTasks.elsewhere.isKnown (by decide), free]

theorem finds_of_repeatable (repeatable : Repeatable parsed) (later : JsString) : Finds s' later parsed := by
  obtain ⟨freeEvents, freeTasks⟩ := free_again storesEvents storesTasks
  constructor
  · intro event member
    obtain ⟨uid, content, asks⟩ := storesEvents.asked event member
    obtain ⟨isUid, -, rfl⟩ := componentAsks_eq.1 asks
    refine ⟨uid, _, componentAsks_eq.2 ⟨isUid, freeEvents event member uid isUid, rfl⟩, ?_⟩
    refine (storesEvents.stored ?_ member asks).elsewhere storesTasks.elsewhere (by decide)
    intro record isRecord other asksOther
    obtain ⟨sameUid, -, rfl⟩ := componentAsks_eq.1 asksOther
    exact repeatable.events record isRecord event member (sameUid.trans isUid.symm)
  · intro task member
    obtain ⟨uid, content, asks⟩ := storesTasks.asked task member
    obtain ⟨isUid, -, rfl⟩ := componentAsks_eq.1 asks
    refine ⟨uid, _, componentAsks_eq.2 ⟨isUid, freeTasks task member uid isUid, rfl⟩, ?_⟩
    have timeless : stamped .task task.content later = stamped .task task.content now :=
      normalizeTaskContent_dated (repeatable.dated task member) later now
    rw [timeless]
    refine storesTasks.stored ?_ member asks
    intro record isRecord other asksOther
    obtain ⟨sameUid, -, rfl⟩ := componentAsks_eq.1 asksOther
    exact (alike_iff (repeatable.dated record isRecord) (repeatable.dated task member)).2
      (repeatable.tasks record isRecord task member (sameUid.trans isUid.symm))

end Stored

theorem repeatable_of_finds (ledger : Ledger letters s) {first second : Int} (differ : first ≠ second)
    (finds : Finds s (JsDate.toISOString first) parsed) (findsLater : Finds s (JsDate.toISOString second) parsed) :
    Repeatable parsed := by
  have dated : ∀ task ∈ parsed.tasks, TaskContent.status task.content = .completed →
      (TaskContent.completedAt task.content).isSome := by
    intro task member completed
    obtain ⟨uid, content, asks, has⟩ := finds.tasks task member
    obtain ⟨_, content', asks', has'⟩ := findsLater.tasks task member
    obtain ⟨isUid, -, rfl⟩ := componentAsks_eq.1 asks
    obtain ⟨isUid', -, rfl⟩ := componentAsks_eq.1 asks'
    rw [isUid, Option.some.injEq] at isUid'
    subst isUid'
    exact dated_of_same differ (has.normal ledger) (has.unique has') completed
  refine ⟨dated, ?_, ?_⟩
  · intro one isOne two isTwo same
    obtain ⟨uid, content, asks, has⟩ := finds.events one isOne
    obtain ⟨_, content', asks', has'⟩ := finds.events two isTwo
    obtain ⟨isUid, -, rfl⟩ := componentAsks_eq.1 asks
    obtain ⟨isUid', -, rfl⟩ := componentAsks_eq.1 asks'
    rw [← same, isUid, Option.some.injEq] at isUid'
    subst isUid'
    exact has.unique has'
  · intro one isOne two isTwo same
    obtain ⟨uid, content, asks, has⟩ := finds.tasks one isOne
    obtain ⟨_, content', asks', has'⟩ := finds.tasks two isTwo
    obtain ⟨isUid, -, rfl⟩ := componentAsks_eq.1 asks
    obtain ⟨isUid', -, rfl⟩ := componentAsks_eq.1 asks'
    rw [← same, isUid, Option.some.injEq] at isUid'
    subst isUid'
    exact (alike_iff (dated one isOne) (dated two isTwo)).1 (has.unique has')

def Later (env later : Surroundings) : Prop :=
  ∃ first second, env.clock = some first ∧ later.clock = some second ∧ first < second

theorem calendar_unchanged_iff (ledger : Ledger letters s) (normal : Parsed letters parsed)
    (ok : importICalendar letters env parsed .update s = .ok (s', result)) :
    (∀ later, Later env later → ICalendarUnchanged letters later parsed s') ↔ Repeatable parsed := by
  have ledger' := (importICalendar_ok ledger ok).ledger ledger
  obtain ⟨instant, m, isClock, storesEvents, storesTasks⟩ := importICalendar_stores ledger normal ok
  constructor
  · intro always
    have finds (delay : Int) (positive : 0 < delay) : Finds s' (JsDate.toISOString (instant + delay)) parsed := by
      let later : Surroundings := ⟨some (instant + delay), env.ids⟩
      have isLater : later.clock = some (instant + delay) := rfl
      have unchanged := always later ⟨instant, instant + delay, isClock, isLater, by omega⟩
      exact (importICalendar_unchanged_iff ledger' normal isLater).1 unchanged
    exact repeatable_of_finds ledger' (by omega) (finds 1 (by decide)) (finds 2 (by decide))
  · rintro repeatable later ⟨_, instant', -, isLater, -⟩
    exact (importICalendar_unchanged_iff ledger' normal isLater).2
      (finds_of_repeatable storesEvents storesTasks repeatable _)

end Calendars

section Cards

variable {parsed : ParsedVCardBundle} {result : VCardImportResult}

/-- The mutator of `importVCard`. -/
def importVCardIn (letters : LetterCase) (env : Surroundings) (parsed : ParsedVCardBundle) (draft : Draft) :
    Except PimError (Draft × Decision VCardImportResult) := do
  let now ← env.now
  let (draft, contacts) ← importAll (fun contact => importContact letters env contact now) parsed.contacts draft
  let (draft, lists) ← importAll (fun list => importMailingList letters env list now) parsed.mailingLists draft
  return (draft, ⟨contacts.any (·.1.changes) || lists.any (·.1.changes), ⟨contacts, lists⟩⟩)

theorem importVCard_eq : importVCard letters env parsed = mutate letters (importVCardIn letters env parsed) := rfl

/-- An import of cards reports each of them as unchanged, and nothing is stored. -/
def VCardUnchanged (letters : LetterCase) (env : Surroundings) (parsed : ParsedVCardBundle) (s : PersistedPimState) :
    Prop :=
  ∃ result, Idle letters (importVCardIn letters env parsed) s result ∧
    result.contacts.map (·.1) = List.replicate parsed.contacts.length .unchanged ∧
    result.mailingLists.map (·.1) = List.replicate parsed.mailingLists.length .unchanged

structure AllNamed (parsed : ParsedVCardBundle) : Prop where
  contacts : ∀ contact ∈ parsed.contacts, contact.uid.isSome
  mailingLists : ∀ list ∈ parsed.mailingLists, list.input.uid.isSome

def listInput (letters : LetterCase) (s : PersistedPimState) (rawList : ParsedVCardMailingList) :
    Except PimError (CreateInput .mailingList) := do
  let withoutEmailMembers ← orInvalid (createSchema letters .mailingList rawList.input)
  let resolved ← rawList.memberEmailAddresses.mapM (resolveMember letters s)
  let content : MailingListContent := withoutEmailMembers.content
  let memberUids := (content.memberUids ++ resolved).eraseDups
  let input ← orInvalid (createSchema letters .mailingList
    ⟨withoutEmailMembers.uid, ({ content with memberUids := memberUids } : MailingListContent)⟩)
  let parsed : MailingListContent := input.content
  assertContactsExist s parsed.memberUids
  return input

theorem importMailingList_eq (rawList : ParsedVCardMailingList) (draft : Draft) :
    importMailingList letters env rawList now draft =
      listInput letters draft.state rawList >>= fun input => importCard letters env .mailingList input now draft := by
  unfold importMailingList listInput
  simp only [bind_assoc, pure_bind]

theorem listInput_congr (same : s'.collection .contact = s.collection .contact) (rawList : ParsedVCardMailingList) :
    listInput letters s' rawList = listInput letters s rawList := by
  have resolve : resolveMember letters s' = resolveMember letters s := by
    funext address
    unfold resolveMember
    rw [same]
  unfold listInput assertContactsExist
  rw [resolve, same]

theorem uid_normal {raw input : CreateInput kind} (parses : createSchema letters kind raw = some input) :
    optional uidSchema input.uid = some input.uid := by
  simp only [createSchema, bind_eq_some, Option.pure_def, Option.some.injEq] at parses
  obtain ⟨uid, isUid, _, -, rfl⟩ := parses
  exact optional_normalizes uidSchema_normalizes _ _ isUid

theorem uid_again {raw input again : CreateInput kind} (once : createSchema letters kind raw = some input)
    {content : Content kind} (twice : createSchema letters kind ⟨input.uid, content⟩ = some again) :
    again.uid = input.uid := by
  simp only [createSchema, bind_eq_some, Option.pure_def, Option.some.injEq, uid_normal once] at twice
  obtain ⟨uid, rfl, _, -, rfl⟩ := twice
  rfl

theorem createSchema_settles : Settles (createSchema letters kind) := by
  intro raw once twice first second
  have isUid := uid_normal second
  simp only [createSchema, bind_eq_some, Option.pure_def, Option.some.injEq] at first second ⊢
  obtain ⟨uid, -, content, isContent, rfl⟩ := first
  obtain ⟨uid', -, content', isContent', rfl⟩ := second
  exact ⟨uid', isUid, content', content_settles letters kind _ _ _ isContent isContent', rfl⟩

theorem listInput_ok {rawList : ParsedVCardMailingList} {raw input : CreateInput .mailingList}
    (parses : createSchema letters .mailingList raw = some rawList.input)
    (ok : listInput letters s rawList = .ok input) :
    input.uid = rawList.input.uid ∧ createSchema letters .mailingList input = some input := by
  have normalizes := createSchema_normalizes letters .mailingList (mailingListContent_normalizes letters)
  obtain ⟨withoutEmailMembers, first, ok₁⟩ := bind_eq_ok ok
  obtain ⟨resolved, -, ok₂⟩ := bind_eq_ok ok₁
  obtain ⟨input', second, ok₃⟩ := bind_eq_ok ok₂
  obtain ⟨-, -, ok₄⟩ := bind_eq_ok ok₃
  cases ok₄
  rw [orInvalid_ok] at first second
  rw [normalizes _ _ parses, Option.some.injEq] at first
  subst first
  exact ⟨uid_again parses second, normalizes _ _ second⟩

def contactAsks (letters : LetterCase) (contact : CreateInput .contact) : Option (JsString × Content .contact) :=
  (createSchema letters .contact contact).bind cardAsks

def listAsks (letters : LetterCase) (s : PersistedPimState) (list : ParsedVCardMailingList) :
    Option (JsString × Content .mailingList) :=
  (listInput letters s list).toOption.bind cardAsks

theorem listAsks_eq {list : ParsedVCardMailingList} {content : Content .mailingList} :
    listAsks letters s list = some (uid, content) ↔
      ∃ input, listInput letters s list = .ok input ∧ input.uid = some uid ∧ input.content = content := by
  unfold listAsks
  rw [Option.bind_eq_some_iff]
  exact exists_congr fun input => and_congr toOption_eq_some cardAsks_eq

theorem importContact_stores {raw contact : CreateInput .contact} {draft draft' : Draft} {imported : Imported .contact}
    (parses : createSchema letters .contact raw = some contact) (isUid : contact.uid = some uid)
    (ok : importContact letters env contact now draft = .ok (draft', imported)) :
    ∃ content, contactAsks letters contact = some (uid, content) ∧
      Stores .contact uid content draft.state draft'.state imported.1 := by
  obtain ⟨input, isInput, ok₁⟩ := bind_eq_ok ok
  rw [orInvalid_ok] at isInput
  have isUid' := (uid_again parses isInput).trans isUid
  refine ⟨input.content, ?_, importCard_stores (createSchema_settles _ _ _ parses isInput) isUid' ok₁⟩
  rw [contactAsks, isInput]
  exact cardAsks_eq.2 ⟨isUid', rfl⟩

theorem importContact_again {contact : CreateInput .contact} {content : Content .contact} (draft : Draft)
    (ledger : Ledger letters draft.state) (asks : contactAsks letters contact = some (uid, content))
    (has : Has draft.state .contact uid content) :
    ∃ entity, importContact letters env contact now draft = .ok (draft, .unchanged, some entity) := by
  obtain ⟨input, isInput, asks⟩ := Option.bind_eq_some_iff.1 asks
  obtain ⟨isUid, rfl⟩ := cardAsks_eq.1 asks
  obtain ⟨entity, again⟩ := importCard_again env now ledger isUid has
  refine ⟨entity, ?_⟩
  unfold importContact
  rw [isInput]
  exact again

theorem importMailingList_stores {raw : CreateInput .mailingList} {list : ParsedVCardMailingList} {draft draft' : Draft}
    {imported : Imported .mailingList} (parses : createSchema letters .mailingList raw = some list.input)
    (isUid : list.input.uid = some uid)
    (ok : importMailingList letters env list now draft = .ok (draft', imported)) :
    ∃ content, listAsks letters draft.state list = some (uid, content) ∧
      Stores .mailingList uid content draft.state draft'.state imported.1 := by
  rw [importMailingList_eq] at ok
  obtain ⟨input, isInput, ok₁⟩ := bind_eq_ok ok
  obtain ⟨sameUid, normal⟩ := listInput_ok parses isInput
  have isUid' := sameUid.trans isUid
  exact ⟨input.content, listAsks_eq.2 ⟨input, isInput, isUid', rfl⟩, importCard_stores normal isUid' ok₁⟩

theorem importMailingList_again {list : ParsedVCardMailingList} {content : Content .mailingList} (draft : Draft)
    (ledger : Ledger letters draft.state) (asks : listAsks letters draft.state list = some (uid, content))
    (has : Has draft.state .mailingList uid content) :
    ∃ entity, importMailingList letters env list now draft = .ok (draft, .unchanged, some entity) := by
  obtain ⟨input, isInput, isUid, rfl⟩ := listAsks_eq.1 asks
  obtain ⟨entity, again⟩ := importCard_again env now ledger isUid has
  refine ⟨entity, ?_⟩
  rw [importMailingList_eq, isInput]
  exact again

/-- What cards store that are imported: first the contacts, then the mailing lists, whose members are looked up
among them. -/
theorem importVCard_stores (ledger : Ledger letters s) (formed : VCard.WellFormed letters parsed)
    (named : AllNamed parsed) (ok : importVCard letters env parsed s = .ok (s', result)) :
    ∃ m, StoresAll (contactAsks letters) parsed.contacts s (result.contacts.map (·.1)) m ∧
      StoresAll (listAsks letters m) parsed.mailingLists m (result.mailingLists.map (·.1)) s' := by
  rw [importVCard_eq] at ok
  obtain ⟨draft, decision, mutates, isResult, stored⟩ := mutate_stored ok
  obtain ⟨now, isNow, ok₁⟩ := bind_eq_ok mutates
  obtain ⟨⟨between, contacts⟩, first, ok₂⟩ := bind_eq_ok ok₁
  obtain ⟨⟨after, lists⟩, second, ok₃⟩ := bind_eq_ok ok₂
  have storesContacts : StoresAll (contactAsks letters) parsed.contacts s (contacts.map (·.1)) between.state := by
    refine importAll_stores ?_ (Elsewhere.refl (s := s)) first
    intro contact member draft draft' imported _ one
    obtain ⟨raw, parses⟩ := formed.parsedContacts contact member
    obtain ⟨uid, isUid⟩ := Option.isSome_iff_exists.1 (named.contacts contact member)
    exact ⟨uid, importContact_stores parses isUid one⟩
  have storesLists : StoresAll (listAsks letters between.state) parsed.mailingLists between.state (lists.map (·.1))
      after.state := by
    refine importAll_stores ?_ Elsewhere.refl second
    intro list member draft draft' imported elsewhere one
    obtain ⟨raw, parses⟩ := formed.parsedLists list member
    obtain ⟨uid, isUid⟩ := Option.isSome_iff_exists.1 (named.mailingLists list member)
    obtain ⟨content, asks, stores⟩ := importMailingList_stores parses isUid one
    obtain ⟨input, isInput, asks⟩ := listAsks_eq.1 asks
    rw [listInput_congr (elsewhere.collection .contact (by decide))] at isInput
    exact ⟨uid, content, listAsks_eq.2 ⟨input, isInput, asks⟩, stores⟩
  have grown := importAll_ok (fun _ _ _ _ _ ledger ok => importContact_ok ledger ok) ledger first
  have ledger' := grown.ledger ledger
  have grown' := importAll_ok (fun _ _ _ _ _ ledger ok => importMailingList_ok ledger ok) ledger' second
  cases ok₃
  subst isResult
  have same : s' = draft.state := by
    refine stored (grown'.ledger ledger') fun idle => ?_
    simp only [Bool.or_eq_false_iff, List.any_eq_false, Bool.not_eq_true] at idle
    rw [storesLists.still (by simpa using idle.2), storesContacts.still (by simpa using idle.1)]
  rw [same]
  exact ⟨between.state, storesContacts, storesLists⟩

theorem importVCard_again (ledger : Ledger letters s) {instant : Int} (isClock : env.clock = some instant)
    (contacts : ∀ contact ∈ parsed.contacts, ∃ uid content,
      contactAsks letters contact = some (uid, content) ∧ Has s .contact uid content)
    (lists : ∀ list ∈ parsed.mailingLists, ∃ uid content,
      listAsks letters s list = some (uid, content) ∧ Has s .mailingList uid content) :
    VCardUnchanged letters env parsed s := by
  have first : ∃ results, importAll (fun contact => importContact letters env contact (JsDate.toISOString instant))
      parsed.contacts ⟨s, 0⟩ = .ok (⟨s, 0⟩, results) ∧
      results.map (·.1) = List.replicate parsed.contacts.length .unchanged := by
    apply importAll_again
    intro contact member
    obtain ⟨uid, content, asks, has⟩ := contacts contact member
    obtain ⟨entity, again⟩ := importContact_again ⟨s, 0⟩ ledger asks has
    exact ⟨some entity, again⟩
  have second : ∃ results, importAll (fun list => importMailingList letters env list (JsDate.toISOString instant))
      parsed.mailingLists ⟨s, 0⟩ = .ok (⟨s, 0⟩, results) ∧
      results.map (·.1) = List.replicate parsed.mailingLists.length .unchanged := by
    apply importAll_again
    intro list member
    obtain ⟨uid, content, asks, has⟩ := lists list member
    obtain ⟨entity, again⟩ := importMailingList_again ⟨s, 0⟩ ledger asks has
    exact ⟨some entity, again⟩
  obtain ⟨contacts, first, contactsUnchanged⟩ := first
  obtain ⟨lists, second, listsUnchanged⟩ := second
  refine ⟨⟨contacts, lists⟩, idle_of_unchanged (?_ : _ = Except.ok (⟨s, 0⟩, _)), contactsUnchanged, listsUnchanged⟩
  simp only [importVCardIn, Surroundings.now, isClock, first, second, bind, Except.bind,
    unchanged_of_replicate contactsUnchanged, unchanged_of_replicate listsUnchanged]
  rfl

theorem eq_of_uid {α : Type} {uidOf : α → Option JsString} {records : List α}
    (distinct : (records.filterMap uidOf).Nodup) {first second : α} (isFirst : first ∈ records) (isSecond : second ∈ records) (named : uidOf first = some uid)
    (named' : uidOf second = some uid) : first = second := by
  let Differ (one other : α) : Prop := ∀ uid, uidOf one = some uid → uidOf other ≠ some uid
  have apart : records.Pairwise Differ :=
    (List.pairwise_filterMap.1 distinct).imp fun differ uid isOne isOther => differ uid isOne uid isOther rfl
  have symm : Std.Symm Differ := ⟨fun _ _ differ uid isOther isOne => differ uid isOne isOther⟩
  by_contra differ
  exact apart.forall isFirst isSecond differ uid named named'

theorem contactAsks_uid {raw contact : CreateInput .contact} {content : Content .contact}
    (parses : createSchema letters .contact raw = some contact)
    (asks : contactAsks letters contact = some (uid, content)) : contact.uid = some uid := by
  obtain ⟨input, isInput, asks⟩ := Option.bind_eq_some_iff.1 asks
  rw [← uid_again parses isInput]
  exact (cardAsks_eq.1 asks).1

theorem listAsks_uid {raw : CreateInput .mailingList} {list : ParsedVCardMailingList} {content : Content .mailingList}
    (parses : createSchema letters .mailingList raw = some list.input)
    (asks : listAsks letters s list = some (uid, content)) : list.input.uid = some uid := by
  obtain ⟨input, isInput, isUid, -⟩ := listAsks_eq.1 asks
  rw [← (listInput_ok parses isInput).1, isUid]

theorem cards_unchanged (ledger : Ledger letters s) (formed : VCard.WellFormed letters parsed) (named : AllNamed parsed)
    (ok : importVCard letters env parsed s = .ok (s', result)) {later : Surroundings} (isLater : Later env later) :
    VCardUnchanged letters later parsed s' := by
  have ledger' := (importVCard_ok ledger ok).ledger ledger
  obtain ⟨m, storesContacts, storesLists⟩ := importVCard_stores ledger formed named ok
  obtain ⟨_, instant, -, isClock, -⟩ := isLater
  refine importVCard_again ledger' isClock ?_ ?_
  · intro contact member
    obtain ⟨uid, content, asks⟩ := storesContacts.asked contact member
    have uidOf {contact : CreateInput .contact} {content : Content .contact} (member : contact ∈ parsed.contacts)
        (asks : contactAsks letters contact = some (uid, content)) : contact.uid = some uid := by
      obtain ⟨raw, parses⟩ := formed.parsedContacts contact member
      exact contactAsks_uid parses asks
    refine ⟨uid, content, asks, (storesContacts.stored ?_ member asks).elsewhere storesLists.elsewhere (by decide)⟩
    intro other isOther otherContent asksOther
    rw [eq_of_uid formed.contacts isOther member (uidOf isOther asksOther) (uidOf member asks), asks] at asksOther
    exact (Prod.mk.inj (Option.some.inj asksOther)).2.symm
  · intro list member
    obtain ⟨uid, content, asks⟩ := storesLists.asked list member
    have uidOf {list : ParsedVCardMailingList} {content : Content .mailingList} (member : list ∈ parsed.mailingLists)
        (asks : listAsks letters m list = some (uid, content)) : list.input.uid = some uid := by
      obtain ⟨raw, parses⟩ := formed.parsedLists list member
      exact listAsks_uid parses asks
    have asksAgain : listAsks letters s' list = some (uid, content) := by
      obtain ⟨input, isInput, asks⟩ := listAsks_eq.1 asks
      rw [← listInput_congr (storesLists.elsewhere.collection .contact (by decide))] at isInput
      exact listAsks_eq.2 ⟨input, isInput, asks⟩
    refine ⟨uid, content, asksAgain, storesLists.stored ?_ member asks⟩
    intro other isOther otherContent asksOther
    rw [eq_of_uid formed.mailingLists isOther member (uidOf isOther asksOther) (uidOf member asks), asks] at asksOther
    exact (Prod.mk.inj (Option.some.inj asksOther)).2.symm

end Cards

section Documents

/-- Whatever has happened before, a calendar that is imported with updates changes nothing at any later time if and
only if it is repeatable, and cards that all carry UIDs never do. -/
theorem reimports_idle (requests : List (Surroundings × Request)) :
    (∀ (host : Host) (env : Surroundings) source parsed s' result, parseICalendarBundle host source = .ok parsed →
      importICalendar host.toLetterCase env parsed .update (run host.toLetterCase .empty requests) = .ok (s', result) →
        ((∀ later, Later env later → ICalendarUnchanged host.toLetterCase later parsed s') ↔ Repeatable parsed)) ∧
    ∀ (host : VCard.Host) (env : Surroundings) source parsed s' result, VCard.parseVCardBundle host source = .ok parsed →
      AllNamed parsed →
      importVCard host.toLetterCase env parsed (run host.toLetterCase .empty requests) = .ok (s', result) →
        ∀ later, Later env later → VCardUnchanged host.toLetterCase later parsed s' := by
  constructor
  · intro host env source parsed s' result parses imports
    exact calendar_unchanged_iff (run_ledger requests) (parsed_of_source parses) imports
  · intro host env source parsed s' result parses named imports later isLater
    exact cards_unchanged (run_ledger requests) (VCard.parseVCardBundle_wellFormed parses) named imports isLater

instance (first second : TaskContent) : Decidable (first.Alike second) := inferInstanceAs (Decidable (_ ∧ _))

instance (parsed : ParsedICalendarBundle) : Decidable (Repeatable parsed) :=
  decidable_of_iff
    ((∀ task ∈ parsed.tasks, TaskContent.status task.content = .completed →
        (TaskContent.completedAt task.content).isSome) ∧
      (∀ first ∈ parsed.events, ∀ second ∈ parsed.events, first.uid = second.uid → first.content = second.content) ∧
      ∀ first ∈ parsed.tasks, ∀ second ∈ parsed.tasks, first.uid = second.uid →
        TaskContent.Alike first.content second.content)
    ⟨fun ⟨dated, events, tasks⟩ => ⟨dated, events, tasks⟩,
      fun repeatable => ⟨repeatable.dated, repeatable.events, repeatable.tasks⟩⟩

instance (parsed : ParsedVCardBundle) : Decidable (AllNamed parsed) :=
  decidable_of_iff
    ((∀ contact ∈ parsed.contacts, contact.uid.isSome) ∧ ∀ list ∈ parsed.mailingLists, list.input.uid.isSome)
    ⟨fun ⟨contacts, lists⟩ => ⟨contacts, lists⟩, fun named => ⟨named.contacts, named.mailingLists⟩⟩

def clockAt (instant : Int) : Surroundings := ⟨some instant, JsDate.digits 6⟩

/-- A calendar that is imported into a new installation, and then once more. -/
def importTwice (source : JsString) :
    Option (ParsedICalendarBundle × (PersistedPimState × ICalendarImportResult) ×
      PersistedPimState × ICalendarImportResult) := do
  let parsed ← (parseICalendarBundle Host.plain source).toOption
  let first ← (importICalendar LetterCase.ascii (clockAt 0) parsed .update .empty).toOption
  let second ← (importICalendar LetterCase.ascii (clockAt 1) parsed .update first.1).toOption
  return (parsed, first, second)

theorem importTwice_eq_some {source : JsString} {parsed : ParsedICalendarBundle}
    {first second : PersistedPimState × ICalendarImportResult}
    (twice : importTwice source = some (parsed, first, second)) :
    parseICalendarBundle Host.plain source = .ok parsed ∧
      importICalendar LetterCase.ascii (clockAt 0) parsed .update .empty = .ok first ∧
      importICalendar LetterCase.ascii (clockAt 1) parsed .update first.1 = .ok second := by
  simp only [importTwice, bind_eq_some, Option.pure_def, Option.some.injEq, Prod.mk.injEq, toOption_eq_some] at twice
  obtain ⟨_, parses, _, imports, _, again, rfl, rfl, rfl⟩ := twice
  exact ⟨parses, imports, again⟩

def importCards (source : JsString) : Option (ParsedVCardBundle × PersistedPimState × VCardImportResult) := do
  let parsed ← (VCard.parseVCardBundle VCard.Host.plain source).toOption
  let stored ← (importVCard LetterCase.ascii (clockAt 0) parsed .empty).toOption
  return (parsed, stored)

theorem importCards_eq_some {source : JsString} {parsed : ParsedVCardBundle}
    {stored : PersistedPimState × VCardImportResult} (imported : importCards source = some (parsed, stored)) :
    VCard.parseVCardBundle VCard.Host.plain source = .ok parsed ∧
      importVCard LetterCase.ascii (clockAt 0) parsed .empty = .ok stored := by
  simp only [importCards, bind_eq_some, Option.pure_def, Option.some.injEq, Prod.mk.injEq, toOption_eq_some] at imported
  obtain ⟨_, parses, _, imports, rfl, rfl⟩ := imported
  exact ⟨parses, imports⟩

/-- A calendar with a task that is done. -/
def doneTask (completed : String) : JsString :=
  ofString "BEGIN:VCALENDAR\r\nVERSION:2.0\r\nBEGIN:VTODO\r\nUID:chores\r\nSUMMARY:Chores\r\nSTATUS:COMPLETED\r\n" ++
    ofString completed ++ ofString "END:VTODO\r\nEND:VCALENDAR\r\n"

def twoCards : JsString :=
  ofString "BEGIN:VCARD\r\nVERSION:4.0\r\nUID:ada\r\nFN:Ada\r\nEMAIL:ada@example.org\r\nEND:VCARD\r\n" ++
    ofString "BEGIN:VCARD\r\nVERSION:4.0\r\nKIND:group\r\nUID:all\r\nFN:All\r\n" ++
    ofString "MEMBER:mailto:ada@example.org\r\nEND:VCARD\r\n"

theorem later_clockAt {instant : Int} (isLater : 0 < instant) : Later (clockAt 0) (clockAt instant) :=
  ⟨0, instant, rfl, rfl, isLater⟩

theorem reimports_idle_example :
    (∃ parsed s' result, parseICalendarBundle Host.plain (doneTask "COMPLETED:19700101T000000Z\r\n") = .ok parsed ∧
      importICalendar LetterCase.ascii (clockAt 0) parsed .update .empty = .ok (s', result) ∧
        ∀ later, Later (clockAt 0) later → ICalendarUnchanged LetterCase.ascii later parsed s') ∧
    ∃ parsed s' result, VCard.parseVCardBundle VCard.Host.plain twoCards = .ok parsed ∧
      importVCard LetterCase.ascii (clockAt 0) parsed .empty = .ok (s', result) ∧
        VCardUnchanged LetterCase.ascii (clockAt 1) parsed s' := by
  obtain ⟨calendars, cards⟩ := reimports_idle []
  constructor
  · have repeatable : (importTwice (doneTask "COMPLETED:19700101T000000Z\r\n")).any fun run =>
        decide (Repeatable run.1) := by decide +kernel
    obtain ⟨⟨parsed, ⟨s', result⟩, second⟩, twice, isRepeatable⟩ := (Option.any_eq_true _ _).1 repeatable
    obtain ⟨parses, imports, -⟩ := importTwice_eq_some twice
    exact ⟨parsed, s', result, parses, imports,
      (calendars Host.plain (clockAt 0) _ parsed s' result parses imports).2 (of_decide_eq_true isRepeatable)⟩
  · have named : (importCards twoCards).any fun run => decide (AllNamed run.1) := by decide +kernel
    obtain ⟨⟨parsed, s', result⟩, imported, allNamed⟩ := (Option.any_eq_true _ _).1 named
    obtain ⟨parses, imports⟩ := importCards_eq_some imported
    exact ⟨parsed, s', result, parses, imports, cards VCard.Host.plain (clockAt 0) _ parsed s' result parses
      (of_decide_eq_true allNamed) imports (clockAt 1) (later_clockAt (by decide))⟩

/-- A task that does not say when it was done is updated when it is imported again. -/
theorem undatedTask_updated : ∃ parsed s' result s'' result',
    parseICalendarBundle Host.plain (doneTask "") = .ok parsed ∧
      importICalendar LetterCase.ascii (clockAt 0) parsed .update .empty = .ok (s', result) ∧
      importICalendar LetterCase.ascii (clockAt 1) parsed .update s' = .ok (s'', result') ∧
      result'.tasks.map (·.1) = [.updated] ∧ s''.transactions.length = 2 ∧ s''.taskMutationVersion = 2 ∧
      Later (clockAt 0) (clockAt 1) ∧ ¬ICalendarUnchanged LetterCase.ascii (clockAt 1) parsed s' := by
  have again : (importTwice (doneTask "")).any fun run =>
      run.2.2.2.tasks.map (·.1) = [.updated] && run.2.2.1.transactions.length = 2 &&
        run.2.2.1.taskMutationVersion = 2 := by
    decide +kernel
  obtain ⟨⟨parsed, ⟨s', result⟩, s'', result'⟩, twice, seen⟩ := (Option.any_eq_true _ _).1 again
  obtain ⟨parses, imports, importsAgain⟩ := importTwice_eq_some twice
  simp only [Bool.and_eq_true, decide_eq_true_eq] at seen
  obtain ⟨⟨updated, transactions⟩, version⟩ := seen
  refine ⟨parsed, s', result, s'', result', parses, imports, importsAgain, updated, transactions, version,
    later_clockAt (by decide), ?_⟩
  rintro ⟨idle, isIdle, -, unchanged⟩
  have same := importsAgain.symm.trans isIdle.state
  simp only [Except.ok.injEq, Prod.mk.injEq] at same
  rw [← same.2, updated] at unchanged
  cases List.eq_of_mem_replicate (unchanged ▸ List.mem_singleton_self ImportOutcome.updated)

end Documents

end Pim
