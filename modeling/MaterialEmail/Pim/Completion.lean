import MaterialEmail.Pim.Operations

/-! A task is completed, at a moment and by all of its hundred per cent, or it is none of these: live tasks and the
snapshots of the history alike. -/
namespace Pim

open Fallible

structure TaskContent.Completes (task : TaskContent) : Prop where
  percent : task.status = .completed ↔ task.percentComplete = 100
  moment : task.completedAt.isSome = true ↔ task.status = .completed

/-- Only tasks are completed. -/
def Completes : (kind : PimEntityKind) → Content kind → Prop
  | .task, (content : TaskContent) => content.Completes
  | .contact, _ => True
  | .mailingList, _ => True
  | .calendarEvent, _ => True

def PimTransaction.Completes (t : PimTransaction) : Prop :=
  (∀ entity ∈ t.before, Pim.Completes t.entityKind entity.content) ∧
    ∀ entity ∈ t.after, Pim.Completes t.entityKind entity.content

structure Completed (s : PersistedPimState) : Prop where
  live : ∀ kind, ∀ entity ∈ s.collection kind, Completes kind entity.content
  history : ∀ t ∈ s.transactions, t.Completes

variable {letters : LetterCase} {s s' : PersistedPimState} {env : Surroundings} {kind : PimEntityKind}
  {uid now : JsString} {draft draft' : Draft}

section Contents

theorem normalizeTaskContent_completes (content : TaskContent) (now : JsString) :
    (normalizeTaskContent content now).Completes := by
  unfold normalizeTaskContent
  split
  · rename_i completed
    exact ⟨iff_of_true completed rfl, iff_of_true rfl completed⟩
  · rename_i open_
    refine ⟨iff_of_false open_ ?_, iff_of_false Bool.false_ne_true open_⟩
    simp only
    split <;> omega

/-- What is stored of a task as a whole has been normalised. -/
theorem normalizeContent_completes {content normalized : Content kind} {moment : Except PimError JsString}
    (ok : normalizeContent kind content moment = .ok normalized) : Completes kind normalized := by
  cases kind with
  | task =>
    obtain ⟨now, -, rest⟩ := bind_eq_ok ok
    cases rest
    exact normalizeTaskContent_completes _ _
  | contact => trivial
  | mailingList => trivial
  | calendarEvent => trivial

theorem contentSchema_completes {content parsed : Content kind} (completes : Completes kind content)
    (parses : contentSchema letters kind content = some parsed) : Completes kind parsed := by
  cases kind with
  | task =>
    simp only [contentSchema, TaskContent.parse, bind_eq_some, Option.ite_none_right_eq_some, Option.some.injEq]
      at parses
    obtain ⟨_, -, _, -, _, -, _, -, completedAt, isMoment, _, -, _, -, _, -, -, rfl⟩ := parses
    have kept : completedAt.isSome = content.completedAt.isSome := by
      cases given : content.completedAt with
      | none =>
        rw [given] at isMoment
        cases isMoment
        rfl
      | some moment =>
        rw [given] at isMoment
        obtain ⟨value, -, rfl⟩ := Option.map_eq_some_iff.1 isMoment
        rfl
    exact ⟨completes.percent, by rw [kept]; exact completes.moment⟩
  | contact => trivial
  | mailingList => trivial
  | calendarEvent => trivial

theorem entitySchema_completes {entity parsed : Entity kind} (completes : Completes kind entity.content)
    (parses : entitySchema letters kind entity = some parsed) : Completes kind parsed.content :=
  contentSchema_completes completes (entitySchema_fields parses).2.1

theorem optional_completes {entity parsed : Option (Entity kind)} (completes : ∀ e ∈ entity, Completes kind e.content)
    (parses : optional (entitySchema letters kind) entity = some parsed) : ∀ e ∈ parsed, Completes kind e.content := by
  cases entity with
  | none =>
    cases parses
    exact fun _ member => nomatch member
  | some entity =>
    obtain ⟨value, isValue, rfl⟩ := Option.map_eq_some_iff.1 parses
    rintro _ ⟨⟩
    exact entitySchema_completes (completes entity rfl) isValue

theorem transactionSchema_completes {t parsed : PimTransaction} (completes : t.Completes)
    (parses : pimTransactionSchema letters t = some parsed) : parsed.Completes := by
  simp only [pimTransactionSchema, bind_eq_some, Option.ite_none_right_eq_some, Option.some.injEq] at parses
  obtain ⟨_, -, _, -, _, -, before, isBefore, after, isAfter, -, rfl⟩ := parses
  exact ⟨optional_completes completes.1 isBefore, optional_completes completes.2 isAfter⟩

/-- What is stored passes the schema of the store first. -/
theorem persisted_completed {stored : PersistedPimState} (completed : Completed s)
    (isStored : persistedPimStateSchema letters s = some stored) : Completed stored := by
  simp only [persistedPimStateSchema, Option.bind_eq_bind, Option.bind_eq_some_iff, Option.ite_none_right_eq_some,
    Option.some.injEq] at isStored
  obtain ⟨contacts, areContacts, lists, areLists, events, areEvents, tasks, areTasks, transactions, areTransactions, -,
    rfl⟩ := isStored
  have each : ∀ {kind} {entities stored : List (Entity kind)},
      (∀ entity ∈ entities, Completes kind entity.content) →
      entities.mapM (entitySchema letters kind) = some stored → ∀ entity ∈ stored, Completes kind entity.content := by
    intro kind entities stored completes parses entity member
    obtain ⟨raw, isRaw, isEntity⟩ := mapM_mem parses entity member
    exact entitySchema_completes (completes raw isRaw) isEntity
  constructor
  · intro kind
    cases kind with
    | contact => exact each (completed.live .contact) areContacts
    | mailingList => exact each (completed.live .mailingList) areLists
    | calendarEvent => exact each (completed.live .calendarEvent) areEvents
    | task => exact each (completed.live .task) areTasks
  · intro t member
    obtain ⟨raw, isRaw, isTransaction⟩ := mapM_mem areTransactions t member
    exact transactionSchema_completes (completed.history raw isRaw) isTransaction

end Contents

section Steps

theorem record_completed {action : TransactionAction} {before after : Option (Entity kind)}
    (completed : Completed draft.state) (befores : ∀ entity ∈ before, Completes kind entity.content)
    (afters : ∀ entity ∈ after, Completes kind entity.content)
    (ok : record letters env action kind uid before after now draft = .ok draft') : Completed draft'.state := by
  obtain ⟨before', isBefore, ok₁⟩ := bind_eq_ok ok
  obtain ⟨after', isAfter, ok₂⟩ := bind_eq_ok ok₁
  obtain ⟨⟨drawn, id⟩, draws, ok₃⟩ := bind_eq_ok ok₂
  obtain ⟨t, isTransaction, ok₄⟩ := bind_eq_ok ok₃
  rw [orInvalid_ok] at isBefore isAfter isTransaction
  obtain ⟨-, -, same⟩ := drawUid_ok draws
  cases ok₄
  simp only [same]
  refine ⟨completed.live, fun other member => ?_⟩
  rcases List.mem_append.1 member with old | new
  · exact completed.history other old
  · rw [List.mem_singleton.1 new]
    exact transactionSchema_completes ⟨optional_completes befores isBefore, optional_completes afters isAfter⟩
      isTransaction

theorem Completed.setCollection (draft : Draft) {entities : List (Entity kind)} (completed : Completed draft.state)
    (each : ∀ entity ∈ entities, Completes kind entity.content) : Completed (draft.setCollection kind entities).state := by
  refine ⟨fun other => ?_, completed.history⟩
  simp only [Draft.setCollection, PersistedPimState.setCollection]
  by_cases same : other = kind
  · subst same
    rwa [Function.update_self]
  · rw [Function.update_of_ne same]
    exact completed.live other

theorem Completed.countMutation (completed : Completed draft.state) (kind : PimEntityKind) :
    Completed (draft.countMutation kind).state := by
  cases kind with
  | task => exact ⟨completed.live, completed.history⟩
  | contact => exact completed
  | mailingList => exact completed
  | calendarEvent => exact completed

theorem Completed.found {entity : Entity kind} (completed : Completed s) (found : s.find kind uid = some entity) :
    Completes kind entity.content := completed.live kind entity (Keyed.get_eq_some found).1

theorem insertEntity_completed {content : Content kind} {revision : Nat} {entity : Entity kind}
    (completed : Completed draft.state) (completes : Completes kind content)
    (ok : insertEntity letters env kind uid content revision now draft = .ok (draft', entity)) :
    Completed draft'.state := by
  obtain ⟨parsed, isParsed, ok₁⟩ := bind_eq_ok ok
  obtain ⟨recorded, records, ok₂⟩ := bind_eq_ok ok₁
  cases ok₂
  rw [orInvalid_ok] at isParsed
  have new := entitySchema_completes completes isParsed
  refine record_completed (completed.setCollection _ ?_) (by simp) (by simpa using new) records
  intro other member
  rcases List.mem_append.1 member with old | last
  · exact completed.live kind other old
  · rw [List.mem_singleton.1 last]
    exact new

theorem replaceEntity_completed {current updated entity : Entity kind} (completed : Completed draft.state)
    (found : draft.state.find kind uid = some current) (completes : Completes kind updated.content)
    (ok : replaceEntity letters env kind current updated now draft = .ok (draft', entity)) : Completed draft'.state := by
  obtain ⟨parsed, isParsed, ok₁⟩ := bind_eq_ok ok
  obtain ⟨recorded, records, ok₂⟩ := bind_eq_ok ok₁
  cases ok₂
  rw [orInvalid_ok] at isParsed
  have new := entitySchema_completes completes isParsed
  refine record_completed (completed.setCollection _ ?_) (by simpa using completed.found found) (by simpa using new)
    records
  intro other member
  rcases Keyed.mem_edit member with old | ⟨_, -, rfl⟩
  · exact completed.live kind other old
  · exact new

theorem mergeRecord_completed {current : Entity kind} {content : Content kind} {imported : Imported kind}
    (completed : Completed draft.state) (found : draft.state.find kind uid = some current)
    (completes : Completes kind content)
    (ok : mergeRecord letters env kind current content now draft = .ok (draft', imported)) :
    Completed draft'.state := by
  obtain ⟨candidate, isCandidate, ok₁⟩ := bind_eq_ok ok
  rw [orInvalid_ok] at isCandidate
  split at ok₁
  · cases ok₁
    exact completed
  · obtain ⟨⟨replaced, entity⟩, replaces, ok₂⟩ := bind_eq_ok ok₁
    cases ok₂
    refine replaceEntity_completed completed found ?_ replaces
    exact contentSchema_completes completes (entitySchema_fields isCandidate).2.1

theorem mutate_completed {mutator : Draft → Except PimError (Draft × Decision α)} {result : α} (completed : Completed s)
    (keeps : ∀ draft decision, mutator ⟨s, 0⟩ = .ok (draft, decision) → Completed draft.state)
    (ok : mutate letters mutator s = .ok (s', result)) : Completed s' := by
  obtain ⟨⟨draft, decision⟩, mutates, ok₁⟩ := bind_eq_ok ok
  by_cases changed : decision.changed = true
  · simp only [changed, if_true] at ok₁
    obtain ⟨stored, isStored, ok₂⟩ := bind_eq_ok ok₁
    rw [orInvalid_ok] at isStored
    cases ok₂
    exact persisted_completed (keeps draft decision mutates) isStored
  · simp only [changed] at ok₁
    cases ok₁
    exact completed

end Steps

section Operations

theorem create_completed {input : CreateInput kind} {entity : Entity kind} (completed : Completed s)
    (ok : create letters env kind input s = .ok (s', entity)) : Completed s' := by
  obtain ⟨parsed, -, ok₁⟩ := bind_eq_ok ok
  refine mutate_completed completed ?_ ok₁
  intro draft decision mutates
  obtain ⟨-, -, ok₂⟩ := bind_eq_ok mutates
  obtain ⟨⟨drawn, uid⟩, draws, ok₃⟩ := bind_eq_ok ok₂
  obtain ⟨now, -, ok₄⟩ := bind_eq_ok ok₃
  obtain ⟨content, isContent, ok₅⟩ := bind_eq_ok ok₄
  obtain ⟨⟨inserted, entity⟩, inserts, ok₆⟩ := bind_eq_ok ok₅
  obtain ⟨-, -, same⟩ := availableUid_ok draws
  simp only at same
  have inserted_ := insertEntity_completed (by rwa [same]) (normalizeContent_completes isContent) inserts
  cases ok₆
  exact inserted_.countMutation kind

theorem update_completed {patch : Patch kind} {entity : Entity kind} (completed : Completed s)
    (ok : update letters env kind uid patch s = .ok (s', entity)) : Completed s' := by
  obtain ⟨validatedUid, -, ok₁⟩ := bind_eq_ok ok
  obtain ⟨parsedPatch, -, ok₂⟩ := bind_eq_ok ok₁
  refine mutate_completed completed ?_ ok₂
  intro draft decision mutates
  split at mutates
  · cases mutates
  · rename_i current found
    obtain ⟨-, -, ok₃⟩ := bind_eq_ok mutates
    obtain ⟨content, isContent, ok₄⟩ := bind_eq_ok ok₃
    obtain ⟨candidate, isCandidate, ok₅⟩ := bind_eq_ok ok₄
    rw [orInvalid_ok] at isCandidate
    split at ok₅
    · cases ok₅
      exact completed
    · obtain ⟨now, -, ok₆⟩ := bind_eq_ok ok₅
      obtain ⟨⟨replaced, entity⟩, replaces, ok₇⟩ := bind_eq_ok ok₆
      cases ok₇
      refine Completed.countMutation (replaceEntity_completed completed found ?_ replaces) kind
      exact contentSchema_completes (normalizeContent_completes isContent) (entitySchema_fields isCandidate).2.1

theorem delete_completed {deleted : Bool} (completed : Completed s)
    (ok : delete letters env kind uid s = .ok (s', deleted)) : Completed s' := by
  obtain ⟨validatedUid, -, ok₁⟩ := bind_eq_ok ok
  refine mutate_completed completed ?_ ok₁
  intro draft decision mutates
  split at mutates
  · cases mutates
    exact completed
  · rename_i current found
    obtain ⟨now, -, ok₂⟩ := bind_eq_ok mutates
    obtain ⟨recorded, records, ok₃⟩ := bind_eq_ok ok₂
    have kept := completed.setCollection ⟨s, 0⟩ fun entity
      (member : entity ∈ (s.collection kind).eraseP (·.uid = validatedUid)) =>
      completed.live kind entity (List.mem_of_mem_eraseP member)
    have recorded_ := record_completed kept (by simpa using completed.found found) (by simp) records
    cases ok₃
    exact recorded_.countMutation kind

/-- A snapshot that is restored comes from the history. -/
theorem restoreSource_completes {transactionId : Option JsString} {source : Entity kind} (completed : Completed s)
    (is : restoreSource s kind uid transactionId = some source) : Completes kind source.content := by
  have fromHistory : ∀ t ∈ s.transactions,
      (if t.action = .created then (t.snapshots kind).2 else (t.snapshots kind).1.or (t.snapshots kind).2) = some source →
      Completes kind source.content := by
    intro t member chosen
    have completes := completed.history t member
    by_cases same : t.entityKind = kind
    · subst same
      rw [snapshots_self] at chosen
      split at chosen
      · exact completes.2 source chosen
      · rcases Option.or_eq_some_iff.1 chosen with before | ⟨-, after⟩
        · exact completes.1 source before
        · exact completes.2 source after
    · rw [snapshots_other same] at chosen
      simp at chosen
  cases transactionId with
  | some id =>
    obtain ⟨t, found, chosen⟩ := Option.bind_eq_some_iff.1 is
    exact fromHistory t (List.mem_of_find?_eq_some found) chosen
  | none =>
    obtain ⟨t, found, chosen⟩ := Option.bind_eq_some_iff.1 is
    exact fromHistory t (List.mem_reverse.1 (List.mem_of_find?_eq_some found)) chosen

theorem restore_completed {transactionId : Option JsString} {entity : Entity kind} (completed : Completed s)
    (ok : restore letters env kind uid transactionId s = .ok (s', entity)) : Completed s' := by
  obtain ⟨validatedUid, -, ok₁⟩ := bind_eq_ok ok
  obtain ⟨validatedId, -, ok₂⟩ := bind_eq_ok ok₁
  refine mutate_completed completed ?_ ok₂
  intro draft decision mutates
  unfold restoreIn at mutates
  simp only at mutates
  split at mutates
  · cases mutates
  · rename_i source isSource
    split at mutates
    · cases mutates
      exact completed
    · obtain ⟨now, -, ok₃⟩ := bind_eq_ok mutates
      obtain ⟨restored, isRestored, ok₄⟩ := bind_eq_ok ok₃
      obtain ⟨recorded, records, ok₅⟩ := bind_eq_ok ok₄
      rw [orInvalid_ok] at isRestored
      have new : Completes kind restored.content :=
        contentSchema_completes (restoreSource_completes completed isSource) (entitySchema_fields isRestored).2.1
      have put := completed.setCollection ⟨s, 0⟩ fun entity
        (member : entity ∈ Keyed.put Entity.uid restored (s.collection kind)) => by
          rcases Keyed.mem_put member with rfl | old
          · exact new
          · exact completed.live kind entity old
      have recorded_ := record_completed put (fun entity found => completed.found found) (by simpa using new) records
      cases ok₅
      exact recorded_.countMutation kind

theorem importAll_completed {importOne : α → Draft → Except PimError (Draft × β)} {records : List α}
    (each : ∀ record draft draft' outcome, Completed draft.state → importOne record draft = .ok (draft', outcome) →
      Completed draft'.state) {outcomes : List β} (completed : Completed draft.state)
    (ok : importAll importOne records draft = .ok (draft', outcomes)) : Completed draft'.state := by
  induction records generalizing draft outcomes with
  | nil =>
    cases ok
    exact completed
  | cons record records ih =>
    obtain ⟨⟨between, outcome⟩, one, ok₁⟩ := bind_eq_ok ok
    obtain ⟨⟨after, rest⟩, others, ok₂⟩ := bind_eq_ok ok₁
    cases ok₂
    exact ih (each record draft between outcome completed one) others

/-- Cards are of contacts and mailing lists. -/
theorem importCard_completed {input : CreateInput kind} {imported : Imported kind} (completed : Completed draft.state)
    (card : kind ≠ .task) (ok : importCard letters env kind input now draft = .ok (draft', imported)) :
    Completed draft'.state := by
  have completes : ∀ content : Content kind, Completes kind content := by
    intro content
    cases kind with
    | task => exact absurd rfl card
    | contact => trivial
    | mailingList => trivial
    | calendarEvent => trivial
  obtain ⟨⟨drawn, uid⟩, draws, ok₁⟩ := bind_eq_ok ok
  have same : drawn.state = draft.state := by
    unfold requestedUid at draws
    split at draws
    · cases draws
      rfl
    · exact (availableUid_ok draws).2.2
  rw [← same] at completed
  simp only at ok₁
  split at ok₁
  · rename_i current found
    exact mergeRecord_completed completed found (completes _) ok₁
  · split at ok₁
    · cases ok₁
    · obtain ⟨⟨inserted, entity⟩, inserts, ok₂⟩ := bind_eq_ok ok₁
      cases ok₂
      exact insertEntity_completed completed (completes _) inserts

theorem importVCard_completed {parsed : ParsedVCardBundle} {result : VCardImportResult} (completed : Completed s)
    (ok : importVCard letters env parsed s = .ok (s', result)) : Completed s' := by
  refine mutate_completed completed ?_ ok
  intro draft decision mutates
  obtain ⟨now, -, ok₁⟩ := bind_eq_ok mutates
  obtain ⟨⟨between, contacts⟩, first, ok₂⟩ := bind_eq_ok ok₁
  obtain ⟨⟨after, lists⟩, second, ok₃⟩ := bind_eq_ok ok₂
  cases ok₃
  refine importAll_completed (fun list draft draft' imported completed ok => ?_)
    (importAll_completed (fun contact draft draft' imported completed ok => ?_) completed first) second
  · obtain ⟨withoutEmailMembers, -, ok₁⟩ := bind_eq_ok ok
    obtain ⟨resolved, -, ok₂⟩ := bind_eq_ok ok₁
    obtain ⟨input, -, ok₃⟩ := bind_eq_ok ok₂
    obtain ⟨-, -, ok₄⟩ := bind_eq_ok ok₃
    exact importCard_completed completed (by simp) ok₄
  · obtain ⟨input, -, ok₁⟩ := bind_eq_ok ok
    exact importCard_completed completed (by simp) ok₁

theorem importComponent_completed {other : PimEntityKind} {policy : ICalendarDuplicatePolicy} {raw : CreateInput kind}
    {imported : Imported kind} (completed : Completed draft.state)
    (ok : importComponent letters env kind other policy raw now draft = .ok (draft', imported)) :
    Completed draft'.state := by
  obtain ⟨input, -, ok₁⟩ := bind_eq_ok ok
  obtain ⟨uid, -, ok₂⟩ := bind_eq_ok ok₁
  simp only at ok₂
  split at ok₂
  · split at ok₂
    · cases ok₂
      exact completed
    · cases ok₂
  · obtain ⟨content, isContent, ok₃⟩ := bind_eq_ok ok₂
    have completes := normalizeContent_completes isContent
    split at ok₃
    · cases ok₃
      exact completed
    · rename_i current found
      obtain ⟨⟨merged, outcome⟩, merges, ok₄⟩ := bind_eq_ok ok₃
      have merged_ := mergeRecord_completed completed found completes merges
      cases ok₄
      split
      · exact merged_.countMutation kind
      · exact merged_
    · obtain ⟨⟨inserted, entity⟩, inserts, ok₄⟩ := bind_eq_ok ok₃
      have inserted_ := insertEntity_completed completed completes inserts
      cases ok₄
      exact inserted_.countMutation kind

theorem importICalendar_completed {parsed : ParsedICalendarBundle} {policy : ICalendarDuplicatePolicy}
    {result : ICalendarImportResult} (completed : Completed s)
    (ok : importICalendar letters env parsed policy s = .ok (s', result)) : Completed s' := by
  refine mutate_completed completed ?_ ok
  intro draft decision mutates
  obtain ⟨now, -, ok₁⟩ := bind_eq_ok mutates
  obtain ⟨⟨between, events⟩, first, ok₂⟩ := bind_eq_ok ok₁
  obtain ⟨⟨after, tasks⟩, second, ok₃⟩ := bind_eq_ok ok₂
  cases ok₃
  have events_ : Completed between.state :=
    importAll_completed (fun _ _ _ _ completed ok => importComponent_completed completed ok) completed first
  exact importAll_completed (fun _ _ _ _ completed ok => importComponent_completed completed ok) events_ second

theorem refreshTask_completed {incoming : TaskRefreshInput} {imported : Imported .task} (completed : Completed draft.state)
    (ok : refreshTask letters env incoming now draft = .ok (draft', imported)) : Completed draft'.state := by
  unfold refreshTask at ok
  split at ok
  · split at ok
    · cases ok
    · obtain ⟨parsedNew, -, ok₁⟩ := bind_eq_ok ok
      obtain ⟨⟨inserted, entity⟩, inserts, ok₂⟩ := bind_eq_ok ok₁
      cases ok₂
      exact insertEntity_completed completed
        (show Completes .task (normalizeTaskContent _ _) from normalizeTaskContent_completes _ _) inserts
  · rename_i current found
    exact mergeRecord_completed completed found
      (show Completes .task (normalizeTaskContent _ _) from normalizeTaskContent_completes _ _) ok

theorem refreshTasks_completed {requestId latestRequest baseline : Nat} {rawTasks : List TaskRefreshInput}
    {result : TaskRefreshResult} (completed : Completed s)
    (ok : refreshTasks letters env requestId latestRequest baseline rawTasks s = .ok (s', result)) : Completed s' := by
  unfold refreshTasks at ok
  split at ok
  · cases ok
    exact completed
  · split at ok
    · cases ok
      exact completed
    · obtain ⟨refreshed, -, ok₁⟩ := bind_eq_ok ok
      split at ok₁
      · cases ok₁
      · refine mutate_completed completed ?_ ok₁
        intro draft decision mutates
        obtain ⟨now, -, ok₂⟩ := bind_eq_ok mutates
        obtain ⟨⟨between, tasks⟩, imports, ok₃⟩ := bind_eq_ok ok₂
        have refreshed_ :=
          importAll_completed (fun _ _ _ _ completed ok => refreshTask_completed completed ok) completed imports
        cases ok₃
        split
        · exact refreshed_.countMutation .task
        · exact refreshed_

end Operations

section Runs

theorem stored_completed {outcome : Except PimError (PersistedPimState × α)} (completed : Completed s)
    (keeps : ∀ s' result, outcome = .ok (s', result) → Completed s') : Completed (stored s outcome) := by
  cases outcome with
  | error error => exact completed
  | ok stored => exact keeps stored.1 stored.2 rfl

theorem perform_completed (completed : Completed s) (request : Request) : Completed (perform letters env request s) := by
  cases request with
  | create kind input => exact stored_completed completed fun _ _ ok => create_completed completed ok
  | update kind uid patch => exact stored_completed completed fun _ _ ok => update_completed completed ok
  | delete kind uid => exact stored_completed completed fun _ _ ok => delete_completed completed ok
  | restore kind uid sourceTransactionId => exact stored_completed completed fun _ _ ok => restore_completed completed ok
  | importVCard parsed => exact stored_completed completed fun _ _ ok => importVCard_completed completed ok
  | importICalendar parsed policy =>
    exact stored_completed completed fun _ _ ok => importICalendar_completed completed ok
  | refreshTasks requestId latestRequest baseline rawTasks =>
    exact stored_completed completed fun _ _ ok => refreshTasks_completed completed ok

theorem run_completed (completed : Completed s) (requests : List (Surroundings × Request)) :
    Completed (run letters s requests) := by
  induction requests generalizing s with
  | nil => exact completed
  | cons request requests ih => exact ih (perform_completed completed request.2)

/-- A task says throughout that it is completed, or not at all. -/
theorem tasks_complete (letters : LetterCase) (requests : List (Surroundings × Request)) :
    (∀ task ∈ (run letters .empty requests).collection .task, TaskContent.Completes task.content) ∧
      ∀ t ∈ (run letters .empty requests).transactions, ∀ task : Entity .task,
        (t.snapshots .task).1 = some task ∨ (t.snapshots .task).2 = some task → TaskContent.Completes task.content := by
  have completed : Completed (run letters .empty requests) :=
    run_completed ⟨by simp [PersistedPimState.empty], by simp [PersistedPimState.empty]⟩ requests
  refine ⟨completed.live .task, fun t member task snapshot => ?_⟩
  by_cases same : t.entityKind = .task
  · obtain ⟨id, sequence, occurredAt, action, kind, uid, before, after⟩ := t
    cases same
    rw [snapshots_self] at snapshot
    exact snapshot.elim ((completed.history _ member).1 task) ((completed.history _ member).2 task)
  · rw [snapshots_other same] at snapshot
    simp at snapshot

end Runs

end Pim
