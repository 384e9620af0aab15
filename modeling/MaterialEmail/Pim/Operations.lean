import MaterialEmail.Pim.Recording

/-! The operations of the personal information manager take its ledger on: its state is the replay of its recorded
transactions. -/
namespace Pim

open EventLog Fallible

variable {letters : LetterCase} {allowed : TransactionAction → Prop} {s s' : PersistedPimState} {env : Surroundings}
  {kind : PimEntityKind} {uid now : JsString} {draft draft' : Draft}

section Edits

theorem normalizeContent_settled {raw content normalized : Content kind} {moment : Except PimError JsString}
    (once : contentSchema letters kind raw = some content)
    (ok : normalizeContent kind content moment = .ok normalized) : Settled letters kind normalized := by
  cases kind with
  | task => exact settled_task normalized
  | contact =>
    cases ok
    exact settled_of_parsed once
  | mailingList =>
    cases ok
    exact settled_of_parsed once
  | calendarEvent =>
    cases ok
    exact settled_of_parsed once

theorem createSchema_ok {input parsed : CreateInput kind} (parses : createSchema letters kind input = some parsed) :
    (∀ uid ∈ parsed.uid, uidSchema uid = some uid) ∧
      contentSchema letters kind input.content = some parsed.content := by
  simp only [createSchema, bind_eq_some, Option.pure_def, Option.some.injEq] at parses
  obtain ⟨uid, isUid, content, isContent, rfl⟩ := parses
  refine ⟨?_, isContent⟩
  rintro uid rfl
  cases requested : input.uid with
  | none =>
    rw [requested] at isUid
    cases isUid
  | some raw =>
    rw [requested] at isUid
    obtain ⟨parsed, isParsed, same⟩ := Option.map_eq_some_iff.1 isUid
    cases same
    exact uidSchema_normalizes _ _ isParsed

theorem create_ok {input : CreateInput kind} {entity : Entity kind} (ledger : Ledger letters s)
    (ok : create letters env kind input s = .ok (s', entity)) : Grows letters (· = .created) s s' := by
  obtain ⟨parsed, isParsed, ok₁⟩ := bind_eq_ok ok
  rw [orInvalid_ok] at isParsed
  refine mutate_ok ledger ?_ ok₁
  intro draft decision mutates
  obtain ⟨-, -, ok₂⟩ := bind_eq_ok mutates
  obtain ⟨⟨drawn, uid⟩, draws, ok₃⟩ := bind_eq_ok ok₂
  obtain ⟨now, -, ok₄⟩ := bind_eq_ok ok₃
  obtain ⟨content, isContent, ok₅⟩ := bind_eq_ok ok₄
  obtain ⟨⟨inserted, entity⟩, inserts, ok₆⟩ := bind_eq_ok ok₅
  obtain ⟨isUid, unknown, same⟩ := availableUid_ok draws
  have settled := normalizeContent_settled (createSchema_ok isParsed).2 isContent
  simp only at same
  have grown := insertEntity_ok (same ▸ ledger) isUid (same ▸ historical_of_known unknown) settled rfl inserts
  rw [same] at grown
  cases ok₆
  exact grown.countMutation

theorem update_ok {patch : Patch kind} {entity : Entity kind} (ledger : Ledger letters s)
    (ok : update letters env kind uid patch s = .ok (s', entity)) : Grows letters (· = .updated) s s' := by
  obtain ⟨validatedUid, -, ok₁⟩ := bind_eq_ok ok
  obtain ⟨parsedPatch, -, ok₂⟩ := bind_eq_ok ok₁
  refine mutate_ok ledger ?_ ok₂
  intro draft decision mutates
  split at mutates
  · cases mutates
  · rename_i current found
    obtain ⟨-, -, ok₃⟩ := bind_eq_ok mutates
    obtain ⟨content, -, ok₄⟩ := bind_eq_ok ok₃
    obtain ⟨candidate, isCandidate, ok₅⟩ := bind_eq_ok ok₄
    rw [orInvalid_ok] at isCandidate
    have settled := settled_of_parsed (entitySchema_fields isCandidate).2.1
    split at ok₅
    · cases ok₅
      exact Grows.refl
    · obtain ⟨now, -, ok₆⟩ := bind_eq_ok ok₅
      obtain ⟨⟨replaced, entity⟩, replaces, ok₇⟩ := bind_eq_ok ok₆
      have grown := replaceEntity_ok ledger found replaces settled rfl rfl
      cases ok₇
      exact grown.countMutation

theorem delete_ok {deleted : Bool} (ledger : Ledger letters s)
    (ok : delete letters env kind uid s = .ok (s', deleted)) : Grows letters (· = .deleted) s s' := by
  obtain ⟨validatedUid, -, ok₁⟩ := bind_eq_ok ok
  refine mutate_ok ledger ?_ ok₁
  intro draft decision mutates
  split at mutates
  · cases mutates
    exact Grows.refl
  · rename_i current found
    obtain ⟨now, -, ok₂⟩ := bind_eq_ok mutates
    obtain ⟨recorded, records, ok₃⟩ := bind_eq_ok ok₂
    obtain ⟨normal, rfl⟩ := ledger.normal_live found
    obtain ⟨id, fresh, isTransaction, state⟩ :=
      record_ok (normal_iff.1 normal).1 (by simpa using normal) (by simp) records
    cases ok₃
    apply Grows.countMutation
    rw [state]
    refine Grows.refl.record (t := ⟨id, _, now, .deleted, kind, current.uid, some current, none⟩)
      ⟨isTransaction, rfl, fresh, found.symm, nofun, nofun⟩ rfl (records_of_setCollection ?_)
    rw [PimTransaction.applyTo, entry_self rfl, snapshots_self]
    exact Keyed.eraseP_eq_without ledger.distinct

/-- What is restored is a snapshot of the entity. -/
theorem restoreSource_normal {transactionId : Option JsString} {source : Entity kind} (ledger : Ledger letters s)
    (isSource : restoreSource s kind uid transactionId = some source) : Normal letters source ∧ source.uid = uid := by
  have found : ∃ t ∈ s.transactions, t.concerns kind uid = true ∧
      (if t.action = .created then (t.snapshots kind).2 else (t.snapshots kind).1.or (t.snapshots kind).2) =
        some source := by
    unfold restoreSource at isSource
    cases transactionId with
    | some id =>
      obtain ⟨t, found, ofSnapshot⟩ := Option.bind_eq_some_iff.1 isSource
      have concerns := List.find?_some found
      rw [Bool.and_eq_true] at concerns
      exact ⟨t, List.mem_of_find?_eq_some found, concerns.2, ofSnapshot⟩
    | none =>
      obtain ⟨t, found, ofSnapshot⟩ := Option.bind_eq_some_iff.1 isSource
      have concerns := List.find?_some found
      rw [Bool.and_eq_true] at concerns
      exact ⟨t, List.mem_reverse.1 (List.mem_of_find?_eq_some found), concerns.1, ofSnapshot⟩
  obtain ⟨t, inLog, concerns, ofSnapshot⟩ := found
  have normal := ledger.normal t inLog
  have snapshot : source ∈ (t.snapshots kind).1 ∨ source ∈ (t.snapshots kind).2 := by
    split at ofSnapshot
    · exact Or.inr ofSnapshot
    · exact (Option.or_eq_some_iff.1 ofSnapshot).imp id (·.2)
  obtain ⟨-, rfl⟩ := concerns_iff.1 concerns
  rcases snapshot with before | after
  · exact snapshots_before_normal normal source before
  · exact snapshots_normal normal source after

theorem restoreIn_ok {transactionId : Option JsString} {decision : Decision (Entity kind)}
    (ledger : Ledger letters draft.state) (normalUid : uidSchema uid = some uid)
    (ok : restoreIn letters env kind uid transactionId draft = .ok (draft', decision)) :
    Grows letters (· = .restored) draft.state draft'.state := by
  unfold restoreIn at ok
  simp only at ok
  split at ok
  · cases ok
  · rename_i source isSource
    obtain ⟨normal, rfl⟩ := restoreSource_normal ledger isSource
    split at ok
    · cases ok
      exact Grows.refl
    · obtain ⟨now, -, ok₁⟩ := bind_eq_ok ok
      obtain ⟨restored, isRestored, ok₂⟩ := bind_eq_ok ok₁
      obtain ⟨recorded, records, ok₃⟩ := bind_eq_ok ok₂
      rw [orInvalid_ok] at isRestored
      have normalRestored := entitySchema_ok isRestored (settled_of_parsed (normal_iff.1 normal).2.1)
      obtain ⟨parsedUid, -, -, -, revision, -⟩ := entitySchema_fields isRestored
      rw [normalUid, Option.some.injEq] at parsedUid
      obtain ⟨id, fresh, isTransaction, state⟩ := record_ok normalUid
        (fun current found => (ledger.normal_live found).1) (by simpa using normalRestored) records
      cases ok₃
      apply Grows.countMutation
      rw [state]
      refine Grows.refl.record (t := ⟨id, _, now, .restored, kind, source.uid, _, some restored⟩)
        ⟨isTransaction, rfl, fresh, rfl, fun wrong => (by cases wrong), ?_⟩ rfl (records_of_setCollection ?_)
      · rintro entity ⟨⟩
        exact revision
      · rw [PimTransaction.applyTo, entry_self rfl, snapshots_self]
        rfl

theorem restore_ok {transactionId : Option JsString} {entity : Entity kind} (ledger : Ledger letters s)
    (ok : restore letters env kind uid transactionId s = .ok (s', entity)) : Grows letters (· = .restored) s s' := by
  obtain ⟨validatedUid, isUid, ok₁⟩ := bind_eq_ok ok
  obtain ⟨validatedId, -, ok₂⟩ := bind_eq_ok ok₁
  rw [orInvalid_ok] at isUid
  exact mutate_ok ledger (fun _ _ ok => restoreIn_ok ledger (uidSchema_normalizes _ _ isUid) ok) ok₂

end Edits

section Bulk

/-- What imports and refreshes record. -/
def CreatesOrUpdates (action : TransactionAction) : Prop := action = .created ∨ action = .updated

theorem importAll_ok {importOne : α → Draft → Except PimError (Draft × β)}
    {records : List α} (each : ∀ record ∈ records, ∀ draft draft' outcome, Ledger letters draft.state →
      importOne record draft = .ok (draft', outcome) → Grows letters allowed draft.state draft'.state)
    {outcomes : List β} (ledger : Ledger letters draft.state) (ok : importAll importOne records draft = .ok (draft', outcomes)) :
    Grows letters allowed draft.state draft'.state := by
  induction records generalizing draft outcomes with
  | nil =>
    cases ok
    exact Grows.refl
  | cons record records ih =>
    obtain ⟨⟨between, outcome⟩, one, ok₁⟩ := bind_eq_ok ok
    obtain ⟨⟨after, rest⟩, others, ok₂⟩ := bind_eq_ok ok₁
    cases ok₂
    have first := each record List.mem_cons_self draft between outcome ledger one
    have rest := ih (fun other member => each other (List.mem_cons_of_mem _ member)) (first.ledger ledger) others
    exact first.trans rest

theorem mergeRecord_ok {current : Entity kind} {content : Content kind} {imported : Imported kind}
    (ledger : Ledger letters draft.state) (found : draft.state.find kind uid = some current)
    (ok : mergeRecord letters env kind current content now draft = .ok (draft', imported)) :
    Grows letters CreatesOrUpdates draft.state draft'.state := by
  obtain ⟨candidate, isCandidate, ok₁⟩ := bind_eq_ok ok
  rw [orInvalid_ok] at isCandidate
  have settled := settled_of_parsed (entitySchema_fields isCandidate).2.1
  have sameUid : candidate.uid = current.uid := by
    have isUid := (normal_iff.1 (ledger.normal_live found).1).1
    have parsed := (entitySchema_fields isCandidate).1
    rw [isUid, Option.some.injEq] at parsed
    exact parsed.symm
  split at ok₁
  · cases ok₁
    exact Grows.refl
  · obtain ⟨⟨replaced, entity⟩, replaces, ok₂⟩ := bind_eq_ok ok₁
    cases ok₂
    exact (replaceEntity_ok ledger found replaces settled sameUid rfl).mono fun _ => Or.inr

theorem importCard_ok {raw input : CreateInput kind} {imported : Imported kind} (ledger : Ledger letters draft.state)
    (isInput : createSchema letters kind raw = some input)
    (ok : importCard letters env kind input now draft = .ok (draft', imported)) :
    Grows letters CreatesOrUpdates draft.state draft'.state := by
  obtain ⟨isUid, once⟩ := createSchema_ok isInput
  obtain ⟨⟨drawn, uid⟩, draws, ok₁⟩ := bind_eq_ok ok
  have given : uidSchema uid = some uid ∧ drawn.state = draft.state := by
    unfold requestedUid at draws
    split at draws
    · rename_i requested isRequested
      cases draws
      exact ⟨isUid uid isRequested, rfl⟩
    · obtain ⟨normal, -, same⟩ := availableUid_ok draws
      exact ⟨normal, same⟩
  obtain ⟨normalUid, same⟩ := given
  rw [← same] at ledger ⊢
  simp only at ok₁
  split at ok₁
  · rename_i current found
    exact mergeRecord_ok ledger found ok₁
  · split at ok₁
    · cases ok₁
    · rename_i unknown
      rw [Bool.not_eq_true] at unknown
      obtain ⟨⟨inserted, entity⟩, inserts, ok₂⟩ := bind_eq_ok ok₁
      cases ok₂
      have first : latestRevision drawn.state kind uid + 1 = 1 := by rw [ledger.latest_of_unknown unknown]
      exact (insertEntity_ok ledger normalUid unknown (settled_of_parsed once) first inserts).mono fun _ => Or.inl

theorem importContact_ok {contact : CreateInput .contact} {imported : Imported .contact}
    (ledger : Ledger letters draft.state) (ok : importContact letters env contact now draft = .ok (draft', imported)) :
    Grows letters CreatesOrUpdates draft.state draft'.state := by
  obtain ⟨input, isInput, ok₁⟩ := bind_eq_ok ok
  rw [orInvalid_ok] at isInput
  exact importCard_ok ledger isInput ok₁

theorem importMailingList_ok {list : ParsedVCardMailingList} {imported : Imported .mailingList}
    (ledger : Ledger letters draft.state) (ok : importMailingList letters env list now draft = .ok (draft', imported)) :
    Grows letters CreatesOrUpdates draft.state draft'.state := by
  obtain ⟨withoutEmailMembers, -, ok₁⟩ := bind_eq_ok ok
  obtain ⟨resolved, -, ok₂⟩ := bind_eq_ok ok₁
  obtain ⟨input, isInput, ok₃⟩ := bind_eq_ok ok₂
  obtain ⟨-, -, ok₄⟩ := bind_eq_ok ok₃
  rw [orInvalid_ok] at isInput
  exact importCard_ok ledger isInput ok₄

theorem importVCard_ok {parsed : ParsedVCardBundle} {result : VCardImportResult} (ledger : Ledger letters s)
    (ok : importVCard letters env parsed s = .ok (s', result)) : Grows letters CreatesOrUpdates s s' := by
  refine mutate_ok ledger ?_ ok
  intro draft decision mutates
  obtain ⟨now, -, ok₁⟩ := bind_eq_ok mutates
  obtain ⟨⟨between, contacts⟩, first, ok₂⟩ := bind_eq_ok ok₁
  obtain ⟨⟨after, lists⟩, second, ok₃⟩ := bind_eq_ok ok₂
  cases ok₃
  have grown := importAll_ok (fun _ _ _ _ _ ledger ok => importContact_ok ledger ok) ledger first
  exact grown.trans (importAll_ok (fun _ _ _ _ _ ledger ok => importMailingList_ok ledger ok) (grown.ledger ledger) second)

theorem importComponent_ok {other : PimEntityKind} {policy : ICalendarDuplicatePolicy} {raw : CreateInput kind}
    {imported : Imported kind} (ledger : Ledger letters draft.state)
    (ok : importComponent letters env kind other policy raw now draft = .ok (draft', imported)) :
    Grows letters CreatesOrUpdates draft.state draft'.state := by
  obtain ⟨input, isInput, ok₁⟩ := bind_eq_ok ok
  obtain ⟨uid, isGiven, ok₂⟩ := bind_eq_ok ok₁
  rw [orInvalid_ok] at isInput isGiven
  obtain ⟨isUid, once⟩ := createSchema_ok isInput
  have normalUid := isUid uid isGiven
  simp only at ok₂
  by_cases taken : (isHistoricalUid draft.state kind uid && (draft.state.find kind uid).isNone ||
      isKnown draft.state other uid) = true
  · rw [if_pos taken] at ok₂
    cases policy with
    | skip =>
      cases ok₂
      exact Grows.refl
    | update => cases ok₂
  · rw [if_neg taken] at ok₂
    obtain ⟨content, isContent, ok₃⟩ := bind_eq_ok ok₂
    split at ok₃
    · cases ok₃
      exact Grows.refl
    · rename_i current found
      obtain ⟨⟨merged, outcome⟩, merges, ok₄⟩ := bind_eq_ok ok₃
      have grown := mergeRecord_ok ledger found merges
      cases ok₄
      split
      · exact grown.countMutation
      · exact grown
    · rename_i absent
      obtain ⟨⟨inserted, entity⟩, inserts, ok₄⟩ := bind_eq_ok ok₃
      cases ok₄
      have unknown : isHistoricalUid draft.state kind uid = false := by
        simp only [absent, Option.isNone_none, Bool.and_true, Bool.or_eq_true, not_or, Bool.not_eq_true] at taken
        exact taken.1
      have settled := normalizeContent_settled once isContent
      have grown := insertEntity_ok ledger normalUid unknown settled rfl inserts
      exact (grown.mono fun _ => Or.inl).countMutation

theorem importICalendar_ok {parsed : ParsedICalendarBundle} {policy : ICalendarDuplicatePolicy}
    {result : ICalendarImportResult} (ledger : Ledger letters s)
    (ok : importICalendar letters env parsed policy s = .ok (s', result)) : Grows letters CreatesOrUpdates s s' := by
  refine mutate_ok ledger ?_ ok
  intro draft decision mutates
  obtain ⟨now, -, ok₁⟩ := bind_eq_ok mutates
  obtain ⟨⟨between, events⟩, first, ok₂⟩ := bind_eq_ok ok₁
  obtain ⟨⟨after, tasks⟩, second, ok₃⟩ := bind_eq_ok ok₂
  cases ok₃
  have grown := importAll_ok (fun _ _ _ _ _ ledger ok => importComponent_ok ledger ok) ledger first
  exact grown.trans (importAll_ok (fun _ _ _ _ _ ledger ok => importComponent_ok ledger ok) (grown.ledger ledger) second)

theorem refreshTask_ok {incoming : TaskRefreshInput} {imported : Imported .task} (ledger : Ledger letters draft.state)
    (isUid : uidSchema incoming.uid = some incoming.uid)
    (ok : refreshTask letters env incoming now draft = .ok (draft', imported)) :
    Grows letters CreatesOrUpdates draft.state draft'.state := by
  unfold refreshTask at ok
  split at ok
  · split at ok
    · cases ok
    · rename_i unknown
      rw [Bool.not_eq_true] at unknown
      obtain ⟨parsedNew, -, ok₁⟩ := bind_eq_ok ok
      obtain ⟨⟨inserted, entity⟩, inserts, ok₂⟩ := bind_eq_ok ok₁
      cases ok₂
      have first : latestRevision draft.state .task incoming.uid + 1 = 1 := by rw [ledger.latest_of_unknown unknown]
      exact (insertEntity_ok ledger isUid unknown (settled_task _) first inserts).mono fun _ => Or.inl
  · rename_i current found
    exact mergeRecord_ok ledger found ok

theorem mapM_mem {schema : α → Option β} {values : List α} {parsed : List β}
    (areParsed : values.mapM schema = some parsed) : ∀ result ∈ parsed, ∃ value ∈ values, schema value = some result := by
  induction values generalizing parsed with
  | nil =>
    cases areParsed
    simp
  | cons value values ih =>
    simp only [List.mapM_cons, Option.pure_def, Option.bind_eq_bind, Option.bind_eq_some_iff, Option.some.injEq] at areParsed
    obtain ⟨head, isHead, tail, areTail, rfl⟩ := areParsed
    intro result member
    rcases List.mem_cons.1 member with rfl | later
    · exact ⟨value, List.mem_cons_self, isHead⟩
    · obtain ⟨source, inValues, isResult⟩ := ih areTail result later
      exact ⟨source, List.mem_cons_of_mem _ inValues, isResult⟩

theorem refreshTasks_ok {requestId latestRequest baseline : Nat} {rawTasks : List TaskRefreshInput}
    {result : TaskRefreshResult} (ledger : Ledger letters s)
    (ok : refreshTasks letters env requestId latestRequest baseline rawTasks s = .ok (s', result)) :
    Grows letters CreatesOrUpdates s s' := by
  unfold refreshTasks at ok
  split at ok
  · cases ok
    exact Grows.refl
  · split at ok
    · cases ok
      exact Grows.refl
    · obtain ⟨refreshed, areRefreshed, ok₁⟩ := bind_eq_ok ok
      rw [orInvalid_ok, bounded_eq] at areRefreshed
      split at ok₁
      · cases ok₁
      · refine mutate_ok ledger ?_ ok₁
        intro draft decision mutates
        obtain ⟨now, -, ok₂⟩ := bind_eq_ok mutates
        obtain ⟨⟨between, tasks⟩, imports, ok₃⟩ := bind_eq_ok ok₂
        have grown : Grows letters CreatesOrUpdates s between.state := by
          refine importAll_ok ?_ ledger imports
          intro task member draft draft' imported ledger ok
          obtain ⟨raw, -, isTask⟩ := mapM_mem areRefreshed.2 task member
          simp only [taskRefreshInputSchema, bind_eq_some, Option.ite_none_right_eq_some, Option.some.injEq] at isTask
          obtain ⟨uid, isUid, patch, -, -, rfl⟩ := isTask
          exact refreshTask_ok ledger (uidSchema_normalizes _ _ isUid) ok
        cases ok₃
        split
        · exact grown.countMutation
        · exact grown

end Bulk

section Runs

/-- A request to the personal information manager. The counts of a refresh are those that it was begun with. -/
inductive Request where
  | create (kind : PimEntityKind) (input : CreateInput kind)
  | update (kind : PimEntityKind) (uid : JsString) (patch : Patch kind)
  | delete (kind : PimEntityKind) (uid : JsString)
  | restore (kind : PimEntityKind) (uid : JsString) (sourceTransactionId : Option JsString)
  | importVCard (parsed : ParsedVCardBundle)
  | importICalendar (parsed : ParsedICalendarBundle) (policy : ICalendarDuplicatePolicy)
  | refreshTasks (requestId latestRequest baseline : Nat) (rawTasks : List TaskRefreshInput)

/-- The actions that a request may record. -/
def Request.Allows : Request → TransactionAction → Prop
  | .create _ _, action => action = .created
  | .update _ _ _, action => action = .updated
  | .delete _ _, action => action = .deleted
  | .restore _ _ _, action => action = .restored
  | .importVCard _, action => CreatesOrUpdates action
  | .importICalendar _ _, action => CreatesOrUpdates action
  | .refreshTasks _ _ _ _, action => CreatesOrUpdates action

/-- The state that an operation leaves: the former one, if it throws. -/
def stored (s : PersistedPimState) (outcome : Except PimError (PersistedPimState × α)) : PersistedPimState :=
  match outcome with
  | .ok (s', _) => s'
  | .error _ => s

variable (letters)

def perform (env : Surroundings) (request : Request) (s : PersistedPimState) : PersistedPimState :=
  match request with
  | .create kind input => stored s (create letters env kind input s)
  | .update kind uid patch => stored s (update letters env kind uid patch s)
  | .delete kind uid => stored s (delete letters env kind uid s)
  | .restore kind uid sourceTransactionId => stored s (restore letters env kind uid sourceTransactionId s)
  | .importVCard parsed => stored s (importVCard letters env parsed s)
  | .importICalendar parsed policy => stored s (importICalendar letters env parsed policy s)
  | .refreshTasks requestId latestRequest baseline rawTasks =>
    stored s (refreshTasks letters env requestId latestRequest baseline rawTasks s)

/-- Performs requests, one after another, each in its own surroundings. -/
def run (s : PersistedPimState) (requests : List (Surroundings × Request)) : PersistedPimState :=
  requests.foldl (fun s request => perform letters request.1 request.2 s) s

/-- The state of a new installation. -/
def PersistedPimState.empty : PersistedPimState := ⟨fun _ => [], [], 1, 0⟩

variable {letters}

theorem stored_grows {outcome : Except PimError (PersistedPimState × α)}
    (grows : ∀ s' result, outcome = .ok (s', result) → Grows letters allowed s s') :
    Grows letters allowed s (stored s outcome) := by
  cases outcome with
  | error error => exact Grows.refl
  | ok stored => exact grows stored.1 stored.2 rfl

/-- What one request does to a ledger. -/
theorem perform_grows (ledger : Ledger letters s) (request : Request) :
    Grows letters request.Allows s (perform letters env request s) := by
  cases request with
  | create kind input => exact stored_grows fun _ _ ok => create_ok ledger ok
  | update kind uid patch => exact stored_grows fun _ _ ok => update_ok ledger ok
  | delete kind uid => exact stored_grows fun _ _ ok => delete_ok ledger ok
  | restore kind uid sourceTransactionId => exact stored_grows fun _ _ ok => restore_ok ledger ok
  | importVCard parsed => exact stored_grows fun _ _ ok => importVCard_ok ledger ok
  | importICalendar parsed policy => exact stored_grows fun _ _ ok => importICalendar_ok ledger ok
  | refreshTasks requestId latestRequest baseline rawTasks => exact stored_grows fun _ _ ok => refreshTasks_ok ledger ok

theorem run_grows (ledger : Ledger letters s) (requests : List (Surroundings × Request)) :
    Grows letters (fun _ => True) s (run letters s requests) := by
  induction requests generalizing s with
  | nil => exact Grows.refl
  | cons request requests ih =>
    have one : Grows letters request.2.Allows s (perform letters request.1 request.2 s) := perform_grows ledger request.2
    have first := one.mono fun _ _ => trivial
    exact first.trans (ih (first.ledger ledger))

theorem Ledger.empty : Ledger letters PersistedPimState.empty := by
  constructor <;> simp [PersistedPimState.empty, Pim.replayed, entries, replay, revisionsOf]

theorem run_ledger (requests : List (Surroundings × Request)) :
    Ledger letters (run letters .empty requests) :=
  (run_grows Ledger.empty requests).ledger Ledger.empty

end Runs

section Replay

/-- What the recorded transactions say about a state. -/
structure EventSourced (s : PersistedPimState) : Prop where
  /-- The four collections are the replay of the log. -/
  replayed : ∀ kind, s.collection kind = replayed kind s.transactions
  /-- A live entity is the snapshot after its last transaction. -/
  live : ∀ kind, ∀ entity ∈ s.collection kind, ∃ t,
    lastTransaction kind entity.uid s.transactions = some t ∧ (t.snapshots kind).2 = some entity
  /-- An entity with a history is gone when its last transaction is a deletion, and only then. -/
  absent : ∀ kind uid t, lastTransaction kind uid s.transactions = some t →
    ((∀ entity ∈ s.collection kind, entity.uid ≠ uid) ↔ t.action = .deleted)
  sequences : s.transactions.Pairwise (·.sequence < ·.sequence)
  below : ∀ t ∈ s.transactions, t.sequence < s.nextTransactionSequence
  /-- Each transaction has the entity as the replay of those before it leaves it. -/
  befores : ∀ earlier t later, s.transactions = earlier ++ t :: later →
    t.before = Keyed.get Entity.uid t.entityUid (Pim.replayed t.entityKind earlier)
  revisions : ∀ kind uid, (revisionsOf kind uid s.transactions).Pairwise (· < ·)

theorem find_eq_none :
    s.find kind uid = none ↔ ∀ entity ∈ s.collection kind, entity.uid ≠ uid := by
  unfold PersistedPimState.find Keyed.get
  simp

theorem Ledger.event_sourced (ledger : Ledger letters s) : EventSourced s where
  replayed := ledger.replayed
  live := by
    intro kind entity member
    exact ledger.live (ledger.find_of_mem member)
  absent := by
    intro kind uid t last
    rw [← find_eq_none]
    exact ledger.absent last
  sequences := ledger.sequences
  below := ledger.below
  befores := ledger.befores
  revisions := ledger.revisions

/-- Whatever is requested, in whatever surroundings, the state stays the replay of its log. -/
theorem history_replays (letters : LetterCase) (requests : List (Surroundings × Request)) :
    EventSourced (run letters .empty requests) :=
  (run_ledger requests).event_sourced

end Replay

end Pim
