import MaterialEmail.Pim.Frames
import MaterialEmail.Pim.Operations

/-! Every operation that changes the tasks advances their version. -/
namespace Pim

open Fallible

variable {letters : LetterCase} {s s' : PersistedPimState} {env : Surroundings} {kind : PimEntityKind}
  {uid now : JsString} {draft draft' : Draft}

section Edits

theorem create_counted {input : CreateInput kind} {entity : Entity kind} (ledger : Ledger letters s)
    (ok : create letters env kind input s = .ok (s', entity)) : Counted s s' := by
  obtain ⟨parsed, -, ok₁⟩ := bind_eq_ok ok
  refine mutate_counted ledger ?_ ok₁
  intro draft decision mutates
  obtain ⟨-, -, ok₂⟩ := bind_eq_ok mutates
  obtain ⟨⟨drawn, uid⟩, draws, ok₃⟩ := bind_eq_ok ok₂
  obtain ⟨now, -, ok₄⟩ := bind_eq_ok ok₃
  obtain ⟨content, -, ok₅⟩ := bind_eq_ok ok₄
  obtain ⟨⟨inserted, entity⟩, inserts, ok₆⟩ := bind_eq_ok ok₅
  obtain ⟨isUid, -, same⟩ := availableUid_ok draws
  have edits := insertEntity_edits isUid inserts
  simp only at same
  rw [same] at edits
  cases ok₆
  exact edits.counted

theorem update_counted {patch : Patch kind} {entity : Entity kind} (ledger : Ledger letters s)
    (ok : update letters env kind uid patch s = .ok (s', entity)) : Counted s s' := by
  obtain ⟨validatedUid, -, ok₁⟩ := bind_eq_ok ok
  obtain ⟨parsedPatch, -, ok₂⟩ := bind_eq_ok ok₁
  refine mutate_counted ledger ?_ ok₂
  intro draft decision mutates
  split at mutates
  · cases mutates
  · rename_i current found
    obtain ⟨-, -, ok₃⟩ := bind_eq_ok mutates
    obtain ⟨content, -, ok₄⟩ := bind_eq_ok ok₃
    obtain ⟨candidate, -, ok₅⟩ := bind_eq_ok ok₄
    split at ok₅
    · cases ok₅
      exact Counted.refl
    · obtain ⟨now, -, ok₆⟩ := bind_eq_ok ok₅
      obtain ⟨⟨replaced, entity⟩, replaces, ok₇⟩ := bind_eq_ok ok₆
      have edits := replaceEntity_edits ledger.normalUids found replaces rfl
      cases ok₇
      exact edits.counted

theorem delete_counted {deleted : Bool} (ledger : Ledger letters s)
    (ok : delete letters env kind uid s = .ok (s', deleted)) : Counted s s' := by
  obtain ⟨validatedUid, -, ok₁⟩ := bind_eq_ok ok
  refine mutate_counted ledger ?_ ok₁
  intro draft decision mutates
  split at mutates
  · cases mutates
    exact Counted.refl
  · obtain ⟨now, -, ok₂⟩ := bind_eq_ok mutates
    obtain ⟨recorded, records, ok₃⟩ := bind_eq_ok ok₂
    have edits : Edits kind (fun _ => False) true s recorded.state :=
      edits_of_record (fun entity member => Or.inl (List.mem_map_of_mem (List.mem_of_mem_eraseP member))) records
    cases ok₃
    exact edits.counted

theorem restoreIn_edits {transactionId : Option JsString} {decision : Decision (Entity kind)}
    (normalUid : uidSchema uid = some uid)
    (ok : restoreIn letters env kind uid transactionId draft = .ok (draft', decision)) :
    ∃ edited : Draft, Edits kind (· = uid) true draft.state edited.state ∧
      (draft' = draft ∨ draft' = edited.countMutation kind) := by
  unfold restoreIn at ok
  simp only at ok
  split at ok
  · cases ok
  · split at ok
    · cases ok
      exact ⟨draft, Edits.refl, Or.inl rfl⟩
    · obtain ⟨now, -, ok₁⟩ := bind_eq_ok ok
      obtain ⟨restored, isRestored, ok₂⟩ := bind_eq_ok ok₁
      obtain ⟨recorded, records, ok₃⟩ := bind_eq_ok ok₂
      rw [orInvalid_ok] at isRestored
      have parsedUid := (entitySchema_fields isRestored).1
      rw [normalUid, Option.some.injEq] at parsedUid
      cases ok₃
      refine ⟨recorded, edits_of_record (fun entity member => ?_) records, Or.inr rfl⟩
      rcases Keyed.mem_put member with rfl | old
      · exact Or.inr parsedUid.symm
      · exact Or.inl (List.mem_map_of_mem old)

theorem restore_counted {transactionId : Option JsString} {entity : Entity kind} (ledger : Ledger letters s)
    (ok : restore letters env kind uid transactionId s = .ok (s', entity)) : Counted s s' := by
  obtain ⟨validatedUid, isUid, ok₁⟩ := bind_eq_ok ok
  obtain ⟨validatedId, -, ok₂⟩ := bind_eq_ok ok₁
  rw [orInvalid_ok] at isUid
  refine mutate_counted ledger ?_ ok₂
  intro draft decision mutates
  obtain ⟨edited, edits, rfl | rfl⟩ := restoreIn_edits (uidSchema_normalizes _ _ isUid) mutates
  · exact Counted.refl
  · exact edits.counted

end Edits

section Bulk

/-- What each record of an import preserves. -/
theorem importAll_preserves {P : PersistedPimState → PersistedPimState → Prop} (refl : ∀ s, P s s)
    (trans : ∀ s m s', P s m → P m s' → P s s') {importOne : α → Draft → Except PimError (Draft × β)}
    {records : List α} (each : ∀ record ∈ records, ∀ draft draft' outcome, NormalUids draft.state →
      importOne record draft = .ok (draft', outcome) → NormalUids draft'.state ∧ P draft.state draft'.state)
    {outcomes : List β} (normal : NormalUids draft.state)
    (ok : importAll importOne records draft = .ok (draft', outcomes)) :
    NormalUids draft'.state ∧ P draft.state draft'.state := by
  induction records generalizing draft outcomes with
  | nil =>
    cases ok
    exact ⟨normal, refl _⟩
  | cons record records ih =>
    obtain ⟨⟨between, outcome⟩, one, ok₁⟩ := bind_eq_ok ok
    obtain ⟨⟨after, rest⟩, others, ok₂⟩ := bind_eq_ok ok₁
    cases ok₂
    obtain ⟨normalBetween, first⟩ := each record List.mem_cons_self draft between outcome normal one
    obtain ⟨normalAfter, later⟩ :=
      ih (fun other member => each other (List.mem_cons_of_mem _ member)) normalBetween others
    exact ⟨normalAfter, trans _ _ _ first later⟩

theorem requestedUid_ok {requested : Option JsString} (normal : ∀ uid ∈ requested, uidSchema uid = some uid)
    (ok : requestedUid env kind requested draft = .ok (draft', uid)) :
    uidSchema uid = some uid ∧ draft'.state = draft.state := by
  cases requested with
  | some requested =>
    cases ok
    exact ⟨normal uid rfl, rfl⟩
  | none =>
    have drawn : availableUid env kind none draft = .ok (draft', uid) := ok
    obtain ⟨isUid, -, same⟩ := availableUid_ok drawn
    exact ⟨isUid, same⟩

theorem importCard_edits {raw input : CreateInput kind} {imported : Imported kind} (normal : NormalUids draft.state)
    (isInput : createSchema letters kind raw = some input)
    (ok : importCard letters env kind input now draft = .ok (draft', imported)) :
    ∃ uid, uidSchema uid = some uid ∧ Edits kind (· = uid) imported.1.changes draft.state draft'.state := by
  obtain ⟨⟨drawn, uid⟩, draws, ok₁⟩ := bind_eq_ok ok
  obtain ⟨isUid, same⟩ := requestedUid_ok (createSchema_ok isInput).1 draws
  refine ⟨uid, isUid, ?_⟩
  rw [← same] at normal ⊢
  simp only at ok₁
  split at ok₁
  · rename_i current found
    exact (mergeRecord_edits normal found ok₁).mono (by simp)
  · split at ok₁
    · cases ok₁
    · obtain ⟨⟨inserted, entity⟩, inserts, ok₂⟩ := bind_eq_ok ok₁
      cases ok₂
      exact insertEntity_edits isUid inserts

theorem importVCard_counted {parsed : ParsedVCardBundle} {result : VCardImportResult} (ledger : Ledger letters s)
    (ok : importVCard letters env parsed s = .ok (s', result)) : Counted s s' := by
  refine mutate_counted ledger ?_ ok
  intro draft decision mutates
  obtain ⟨now, -, ok₁⟩ := bind_eq_ok mutates
  obtain ⟨⟨between, contacts⟩, first, ok₂⟩ := bind_eq_ok ok₁
  obtain ⟨⟨after, lists⟩, second, ok₃⟩ := bind_eq_ok ok₂
  cases ok₃
  obtain ⟨normal, cards⟩ := importAll_preserves (fun _ => Counted.refl) (fun _ _ _ => Counted.trans)
    (fun contact _ draft draft' imported normal ok => by
      obtain ⟨input, isInput, ok₁⟩ := bind_eq_ok ok
      rw [orInvalid_ok] at isInput
      obtain ⟨uid, isUid, edits⟩ := importCard_edits normal isInput ok₁
      exact ⟨edits.normalUids normal (by rintro _ rfl; exact isUid), edits.uncounted (Or.inl (by simp))⟩)
    ledger.normalUids first
  obtain ⟨-, lists⟩ := importAll_preserves (fun _ => Counted.refl) (fun _ _ _ => Counted.trans)
    (fun list _ draft draft' imported normal ok => by
      obtain ⟨withoutEmailMembers, -, ok₁⟩ := bind_eq_ok ok
      obtain ⟨resolved, -, ok₂⟩ := bind_eq_ok ok₁
      obtain ⟨input, isInput, ok₃⟩ := bind_eq_ok ok₂
      obtain ⟨-, -, ok₄⟩ := bind_eq_ok ok₃
      rw [orInvalid_ok] at isInput
      obtain ⟨uid, isUid, edits⟩ := importCard_edits normal isInput ok₄
      exact ⟨edits.normalUids normal (by rintro _ rfl; exact isUid), edits.uncounted (Or.inl (by simp))⟩)
    normal second
  exact cards.trans lists

/-- A component enters with a UID that the other kind does not know. -/
theorem importComponent_edits {other : PimEntityKind} {policy : ICalendarDuplicatePolicy} {raw : CreateInput kind}
    {imported : Imported kind} (normal : NormalUids draft.state)
    (ok : importComponent letters env kind other policy raw now draft = .ok (draft', imported)) :
    ∃ edited : Draft, ∃ uid, uidSchema uid = some uid ∧
      Edits kind (fun new => new = uid ∧ isKnown draft.state other uid = false) imported.1.changes draft.state edited.state ∧
      draft' = if imported.1.changes then edited.countMutation kind else edited := by
  obtain ⟨input, isInput, ok₁⟩ := bind_eq_ok ok
  obtain ⟨uid, isGiven, ok₂⟩ := bind_eq_ok ok₁
  rw [orInvalid_ok] at isInput isGiven
  have isUid := (createSchema_ok isInput).1 uid isGiven
  simp only at ok₂
  by_cases taken : (isHistoricalUid draft.state kind uid && (draft.state.find kind uid).isNone ||
      isKnown draft.state other uid) = true
  · rw [if_pos taken] at ok₂
    cases policy with
    | skip =>
      cases ok₂
      exact ⟨draft, uid, isUid, Edits.refl, rfl⟩
    | update => cases ok₂
  · rw [if_neg taken] at ok₂
    obtain ⟨content, -, ok₃⟩ := bind_eq_ok ok₂
    split at ok₃
    · cases ok₃
      exact ⟨draft, uid, isUid, Edits.refl, rfl⟩
    · rename_i current found
      obtain ⟨⟨merged, outcome⟩, merges, ok₄⟩ := bind_eq_ok ok₃
      have edits := mergeRecord_edits normal found merges
      cases ok₄
      exact ⟨merged, uid, isUid, edits.mono (by simp), rfl⟩
    · obtain ⟨⟨inserted, entity⟩, inserts, ok₄⟩ := bind_eq_ok ok₃
      have free : isKnown draft.state other uid = false := by
        rw [Bool.not_eq_true, Bool.or_eq_false_iff] at taken
        exact taken.2
      have edits := insertEntity_edits isUid inserts
      cases ok₄
      exact ⟨inserted, uid, isUid, edits.mono (by rintro _ rfl; exact ⟨rfl, free⟩), rfl⟩

theorem importICalendar_counted {parsed : ParsedICalendarBundle} {policy : ICalendarDuplicatePolicy}
    {result : ICalendarImportResult} (ledger : Ledger letters s)
    (ok : importICalendar letters env parsed policy s = .ok (s', result)) : Counted s s' := by
  refine mutate_counted ledger ?_ ok
  intro draft decision mutates
  obtain ⟨now, -, ok₁⟩ := bind_eq_ok mutates
  obtain ⟨⟨between, events⟩, first, ok₂⟩ := bind_eq_ok ok₁
  obtain ⟨⟨after, tasks⟩, second, ok₃⟩ := bind_eq_ok ok₂
  cases ok₃
  have each : ∀ (kind other : PimEntityKind) (record : CreateInput kind) (draft draft' : Draft) (outcome : Imported kind),
      NormalUids draft.state → importComponent letters env kind other policy record now draft = .ok (draft', outcome) →
      NormalUids draft'.state ∧ Counted draft.state draft'.state := by
    intro kind other record draft draft' outcome normal ok
    obtain ⟨edited, uid, isUid, edits, rfl⟩ := importComponent_edits normal ok
    have normalEdited := edits.normalUids normal (by rintro _ ⟨rfl, -⟩; exact isUid)
    cases changes : outcome.1.changes with
    | true => exact ⟨fun kind uid member => normalEdited kind uid (by simpa using member), edits.counted⟩
    | false => exact ⟨normalEdited, edits.uncounted (Or.inr changes)⟩
  obtain ⟨normal, one⟩ := importAll_preserves (fun _ => Counted.refl) (fun _ _ _ => Counted.trans)
    (fun record _ => each .calendarEvent .task record) ledger.normalUids first
  obtain ⟨-, two⟩ := importAll_preserves (fun _ => Counted.refl) (fun _ _ _ => Counted.trans)
    (fun record _ => each .task .calendarEvent record) normal second
  exact one.trans two

theorem refreshTask_edits {incoming : TaskRefreshInput} {imported : Imported .task} (normal : NormalUids draft.state)
    (isUid : uidSchema incoming.uid = some incoming.uid)
    (ok : refreshTask letters env incoming now draft = .ok (draft', imported)) :
    Edits .task (· = incoming.uid) imported.1.changes draft.state draft'.state := by
  unfold refreshTask at ok
  split at ok
  · split at ok
    · cases ok
    · obtain ⟨parsedNew, -, ok₁⟩ := bind_eq_ok ok
      obtain ⟨⟨inserted, entity⟩, inserts, ok₂⟩ := bind_eq_ok ok₁
      cases ok₂
      exact insertEntity_edits isUid inserts
  · rename_i current found
    exact (mergeRecord_edits normal found ok).mono (by simp)

theorem refreshAll_edits {records : List TaskRefreshInput} {outcomes : List (Imported .task)}
    (normal : NormalUids draft.state) (areUids : ∀ record ∈ records, uidSchema record.uid = some record.uid)
    (ok : importAll (fun task => refreshTask letters env task now) records draft = .ok (draft', outcomes)) :
    Edits .task (· ∈ records.map (·.uid)) (outcomes.any (·.1.changes)) draft.state draft'.state := by
  induction records generalizing draft outcomes with
  | nil =>
    cases ok
    exact Edits.refl
  | cons record records ih =>
    obtain ⟨⟨between, outcome⟩, one, ok₁⟩ := bind_eq_ok ok
    obtain ⟨⟨after, rest⟩, others, ok₂⟩ := bind_eq_ok ok₁
    cases ok₂
    have isUid := areUids record List.mem_cons_self
    have first := refreshTask_edits normal isUid one
    have normalBetween := first.normalUids normal (by rintro _ rfl; exact isUid)
    have later := ih normalBetween (fun other member => areUids other (List.mem_cons_of_mem _ member)) others
    have head : Edits .task (· ∈ (record :: records).map (·.uid)) outcome.1.changes draft.state between.state :=
      first.mono (by simp +contextual)
    have tail : Edits .task (· ∈ (record :: records).map (·.uid)) (rest.any (·.1.changes)) between.state draft'.state :=
      later.mono fun uid member => List.mem_cons_of_mem _ member
    exact head.trans tail

theorem mapM_image {schema : α → Option β} {values : List α} {parsed : List β}
    (areParsed : values.mapM schema = some parsed) : ∀ value ∈ values, ∃ result ∈ parsed, schema value = some result := by
  induction values generalizing parsed with
  | nil => simp
  | cons value values ih =>
    simp only [List.mapM_cons, Option.pure_def, Option.bind_eq_bind, Option.bind_eq_some_iff, Option.some.injEq] at areParsed
    obtain ⟨head, isHead, tail, areTail, rfl⟩ := areParsed
    intro other member
    rcases List.mem_cons.1 member with rfl | later
    · exact ⟨head, List.mem_cons_self, isHead⟩
    · obtain ⟨result, inTail, isResult⟩ := ih areTail other later
      exact ⟨result, List.mem_cons_of_mem _ inTail, isResult⟩

theorem refreshed_uids {rawTasks refreshed : List TaskRefreshInput}
    (areRefreshed : rawTasks.mapM taskRefreshInputSchema = some refreshed) :
    ∀ record ∈ refreshed, uidSchema record.uid = some record.uid ∧
      ∃ raw ∈ rawTasks, uidSchema raw.uid = some record.uid := by
  intro record member
  obtain ⟨raw, isRaw, isTask⟩ := mapM_mem areRefreshed record member
  simp only [taskRefreshInputSchema, bind_eq_some, Option.ite_none_right_eq_some, Option.some.injEq] at isTask
  obtain ⟨uid, isUid, patch, -, -, rfl⟩ := isTask
  exact ⟨uidSchema_normalizes _ _ isUid, raw, isRaw, isUid⟩

/-- The ways in which a refresh ends. -/
theorem refreshTasks_cases {requestId latestRequest baseline : Nat} {rawTasks : List TaskRefreshInput}
    {result : TaskRefreshResult}
    (ok : refreshTasks letters env requestId latestRequest baseline rawTasks s = .ok (s', result)) :
    (result.reason ≠ .applied ∧ s' = s) ∨
      result.reason = .applied ∧ requestId = latestRequest ∧ s.taskMutationVersion = baseline ∧
        ∃ refreshed, rawTasks.mapM taskRefreshInputSchema = some refreshed ∧
          mutate letters (fun draft => do
            let now ← env.now
            let (draft, tasks) ← importAll (fun task => refreshTask letters env task now) refreshed draft
            let changed := tasks.any (·.1.changes)
            return (if changed then draft.countMutation .task else draft, ⟨changed, ⟨requestId, .applied, tasks⟩⟩)) s =
              .ok (s', result) := by
  unfold refreshTasks at ok
  by_cases newest : requestId ≠ latestRequest
  · rw [if_pos newest] at ok
    cases ok
    exact Or.inl ⟨by simp, rfl⟩
  · rw [if_neg newest] at ok
    by_cases current : s.taskMutationVersion ≠ baseline
    · rw [if_pos current] at ok
      cases ok
      exact Or.inl ⟨by simp, rfl⟩
    · rw [if_neg current] at ok
      obtain ⟨refreshed, areRefreshed, ok₁⟩ := bind_eq_ok ok
      rw [orInvalid_ok, bounded_eq] at areRefreshed
      split at ok₁
      · cases ok₁
      · refine Or.inr ⟨?_, not_not.1 newest, not_not.1 current, refreshed, areRefreshed.2, ok₁⟩
        obtain ⟨⟨draft, decision⟩, mutates, ok₂⟩ := bind_eq_ok ok₁
        obtain ⟨now, -, ok₃⟩ := bind_eq_ok mutates
        obtain ⟨⟨between, tasks⟩, -, ok₄⟩ := bind_eq_ok ok₃
        cases ok₄
        simp only at ok₂
        split at ok₂
        · obtain ⟨stored, -, ok₅⟩ := bind_eq_ok ok₂
          cases ok₅
          rfl
        · cases ok₂
          rfl

theorem refreshTasks_counted {requestId latestRequest baseline : Nat} {rawTasks : List TaskRefreshInput}
    {result : TaskRefreshResult} (ledger : Ledger letters s)
    (ok : refreshTasks letters env requestId latestRequest baseline rawTasks s = .ok (s', result)) : Counted s s' := by
  rcases refreshTasks_cases ok with ⟨-, rfl⟩ | ⟨-, -, -, refreshed, areRefreshed, ok₁⟩
  · exact Counted.refl
  · refine mutate_counted ledger ?_ ok₁
    intro draft decision mutates
    obtain ⟨now, -, ok₂⟩ := bind_eq_ok mutates
    obtain ⟨⟨between, tasks⟩, imports, ok₃⟩ := bind_eq_ok ok₂
    have edits := refreshAll_edits ledger.normalUids (fun record member => (refreshed_uids areRefreshed record member).1) imports
    cases ok₃
    cases changes : tasks.any (·.1.changes) with
    | true => exact edits.counted
    | false => exact edits.uncounted (Or.inr changes)

end Bulk

section Runs

theorem stored_counted {outcome : Except PimError (PersistedPimState × α)}
    (counted : ∀ s' result, outcome = .ok (s', result) → Counted s s') : Counted s (stored s outcome) := by
  cases outcome with
  | error error => exact Counted.refl
  | ok stored => exact counted stored.1 stored.2 rfl

/-- Whatever is requested, a change of the tasks advances their version. -/
theorem perform_counted (ledger : Ledger letters s) (request : Request) : Counted s (perform letters env request s) := by
  cases request with
  | create kind input => exact stored_counted fun _ _ ok => create_counted ledger ok
  | update kind uid patch => exact stored_counted fun _ _ ok => update_counted ledger ok
  | delete kind uid => exact stored_counted fun _ _ ok => delete_counted ledger ok
  | restore kind uid sourceTransactionId => exact stored_counted fun _ _ ok => restore_counted ledger ok
  | importVCard parsed => exact stored_counted fun _ _ ok => importVCard_counted ledger ok
  | importICalendar parsed policy => exact stored_counted fun _ _ ok => importICalendar_counted ledger ok
  | refreshTasks requestId latestRequest baseline rawTasks =>
    exact stored_counted fun _ _ ok => refreshTasks_counted ledger ok

end Runs

end Pim
