import MaterialEmail.Pim.TaskVersion

/-! Calendar events and tasks have UIDs apart from each other where every operation that brings a UID to
one of the kinds brings one that the other does not use. Imports see to it themselves; new entities,
restored ones and the tasks of a refresh are checked against their own kind only. -/
namespace Pim

open Fallible

variable {letters : LetterCase} {s m s' : PersistedPimState} {env : Surroundings} {kind : PimEntityKind}
  {uid now : JsString} {draft draft' : Draft}

/-- The kind that is exported into the same document. -/
def PimEntityKind.rival : PimEntityKind → Option PimEntityKind
  | .calendarEvent => some .task
  | .task => some .calendarEvent
  | _ => none

/-- No live event has the UID of a live task. -/
def Apart (s : PersistedPimState) : Prop := ∀ uid ∈ uids s .calendarEvent, uid ∉ uids s .task

instance (s : PersistedPimState) : Decidable (Apart s) := inferInstanceAs (Decidable (∀ uid ∈ _, _))

/-- The UIDs of a kind are joined by new ones, those of the other kinds stay. -/
structure Brings (kind : PimEntityKind) (new : JsString → Prop) (s s' : PersistedPimState) : Prop where
  others : ∀ other, other ≠ kind → uids s' other = uids s other
  joined : ∀ uid, uid ∈ uids s' kind ↔ uid ∈ uids s kind ∨ new uid

section Bringing

theorem Brings.refl {new : JsString → Prop} (known : ∀ uid, new uid → uid ∈ uids s kind) : Brings kind new s s where
  others _ _ := rfl
  joined uid := by
    constructor
    · exact Or.inl
    · rintro (old | isNew)
      · exact old
      · exact known uid isNew

theorem Brings.trans {first second : JsString → Prop} (one : Brings kind first s m) (two : Brings kind second m s') :
    Brings kind (fun uid => first uid ∨ second uid) s s' where
  others other different := (two.others other different).trans (one.others other different)
  joined uid := by rw [two.joined, one.joined, or_assoc]

theorem Brings.apart_iff {new : JsString → Prop} (brings : Brings kind new s s') (apart : Apart s) :
    Apart s' ↔ ∀ rival ∈ kind.rival, ∀ uid, new uid → uid ∉ uids s rival := by
  unfold Apart
  cases kind with
  | calendarEvent =>
    have tasks := brings.others .task (by simp)
    simp only [brings.joined, tasks, PimEntityKind.rival, Option.mem_some_iff, forall_eq']
    constructor
    · exact fun apart' uid isNew => apart' uid (Or.inr isNew)
    · rintro free uid (old | isNew)
      · exact apart uid old
      · exact free uid isNew
  | task =>
    have events := brings.others .calendarEvent (by simp)
    simp only [brings.joined, events, PimEntityKind.rival, Option.mem_some_iff, forall_eq', not_or]
    constructor
    · exact fun apart' uid isNew isEvent => (apart' uid isEvent).2 isNew
    · exact fun free uid isEvent => ⟨apart uid isEvent, fun isNew => free uid isNew isEvent⟩
  | contact =>
    rw [brings.others .calendarEvent (by simp), brings.others .task (by simp)]
    exact iff_of_true apart (by simp [PimEntityKind.rival])
  | mailingList =>
    rw [brings.others .calendarEvent (by simp), brings.others .task (by simp)]
    exact iff_of_true apart (by simp [PimEntityKind.rival])

theorem Edits.apart {new : JsString → Prop} {changed : Bool} (edits : Edits kind new changed s s') (apart : Apart s)
    (free : ∀ rival ∈ kind.rival, ∀ uid, new uid → uid ∉ uids s rival) : Apart s' := by
  have others : ∀ other, other ≠ kind → uids s' other = uids s other := fun other different => by
    unfold uids
    rw [edits.others other different]
  intro uid isEvent isTask
  cases kind with
  | calendarEvent =>
    rw [others .task (by simp)] at isTask
    rcases edits.joins uid isEvent with old | isNew
    · exact apart uid old isTask
    · exact free .task rfl uid isNew isTask
  | task =>
    rw [others .calendarEvent (by simp)] at isEvent
    rcases edits.joins uid isTask with old | isNew
    · exact apart uid isEvent old
    · exact free .calendarEvent rfl uid isNew isEvent
  | contact =>
    rw [others .calendarEvent (by simp)] at isEvent
    rw [others .task (by simp)] at isTask
    exact apart uid isEvent isTask
  | mailingList =>
    rw [others .calendarEvent (by simp)] at isEvent
    rw [others .task (by simp)] at isTask
    exact apart uid isEvent isTask

theorem Edits.brings {changed : Bool} (edits : Edits kind (· = uid) changed s s')
    (kept : ∀ old ∈ uids s kind, old ∈ uids s' kind) (present : uid ∈ uids s' kind) : Brings kind (· = uid) s s' where
  others other different := by
    unfold uids
    rw [edits.others other different]
  joined new := by
    constructor
    · exact edits.joins new
    · rintro (old | rfl)
      · exact kept new old
      · exact present

theorem Brings.countMutation {new : JsString → Prop} (brings : Brings kind new s draft.state) :
    Brings kind new s (draft.countMutation kind).state := by
  constructor
  · simpa using brings.others
  · simpa using brings.joined

/-- A collection that is replaced, as far as its UIDs go. -/
theorem uids_of_record {action : TransactionAction} {before after : Option (Entity kind)} {entities : List (Entity kind)}
    (ok : record letters env action kind uid before after now (draft.setCollection kind entities) = .ok draft') :
    uids draft'.state kind = entities.map Entity.uid := by
  unfold uids
  rw [(record_frame ok).1]
  exact congrArg _ (Function.update_self ..)

theorem insertEntity_brings {content : Content kind} {revision : Nat} {entity : Entity kind}
    (isUid : uidSchema uid = some uid)
    (ok : insertEntity letters env kind uid content revision now draft = .ok (draft', entity)) :
    Brings kind (· = uid) draft.state draft'.state := by
  have edits := insertEntity_edits isUid ok
  obtain ⟨parsed, isParsed, ok₁⟩ := bind_eq_ok ok
  obtain ⟨recorded, records, ok₂⟩ := bind_eq_ok ok₁
  cases ok₂
  rw [orInvalid_ok] at isParsed
  have parsedUid := (entitySchema_fields isParsed).1
  rw [isUid, Option.some.injEq] at parsedUid
  have after := uids_of_record records
  rw [List.map_append] at after
  refine edits.brings (fun old member => ?_) ?_
  · rw [after]
    exact List.mem_append_left _ member
  · rw [after, parsedUid]
    simp

theorem restoreIn_brings {transactionId : Option JsString} {decision : Decision (Entity kind)}
    (normalUid : uidSchema uid = some uid)
    (ok : restoreIn letters env kind uid transactionId draft = .ok (draft', decision)) :
    Brings kind (· = uid) draft.state draft'.state := by
  unfold restoreIn at ok
  simp only at ok
  split at ok
  · cases ok
  · split at ok
    · rename_i current isCurrent
      cases ok
      have found := (Option.filter_eq_some_iff.1 isCurrent).1
      refine Brings.refl fun new same => ?_
      rw [same, ← (Keyed.get_eq_some found).2]
      exact mem_uids_of_find found
    · obtain ⟨now, -, ok₁⟩ := bind_eq_ok ok
      obtain ⟨restored, isRestored, ok₂⟩ := bind_eq_ok ok₁
      obtain ⟨recorded, records, ok₃⟩ := bind_eq_ok ok₂
      rw [orInvalid_ok] at isRestored
      have parsedUid := (entitySchema_fields isRestored).1
      rw [normalUid, Option.some.injEq] at parsedUid
      cases ok₃
      apply Brings.countMutation
      have after := uids_of_record records
      constructor
      · intro other different
        unfold uids
        rw [(record_frame records).1]
        exact congrArg _ (Function.update_of_ne different _ _)
      · intro new
        rw [after, Keyed.map_put, ← parsedUid]
        split
        · rename_i present
          constructor
          · exact Or.inl
          · rintro (old | rfl)
            · exact old
            · exact present
        · simp [uids]

theorem mergeRecord_brings {current : Entity kind} {content : Content kind} {imported : Imported kind}
    (normal : NormalUids draft.state) (found : draft.state.find kind uid = some current)
    (ok : mergeRecord letters env kind current content now draft = .ok (draft', imported)) :
    Brings kind (· = uid) draft.state draft'.state := by
  have edits := mergeRecord_edits normal found ok
  have isUid := (Keyed.get_eq_some found).2
  have member : uid ∈ uids draft.state kind := isUid ▸ mem_uids_of_find found
  have kept : uids draft'.state kind = uids draft.state kind := by
    obtain ⟨candidate, isCandidate, ok₁⟩ := bind_eq_ok ok
    rw [orInvalid_ok] at isCandidate
    split at ok₁
    · cases ok₁
      rfl
    · obtain ⟨⟨replaced, entity⟩, replaces, ok₂⟩ := bind_eq_ok ok₁
      obtain ⟨parsed, isParsed, ok₃⟩ := bind_eq_ok replaces
      obtain ⟨recorded, records, ok₄⟩ := bind_eq_ok ok₃
      cases ok₂
      cases ok₄
      rw [orInvalid_ok] at isParsed
      have candidateUid := (entitySchema_fields isCandidate).1
      rw [isUid, normal kind uid member, Option.some.injEq] at candidateUid
      have parsedUid := (entitySchema_fields isParsed).1
      rw [← candidateUid, normal kind uid member, Option.some.injEq] at parsedUid
      rw [uids_of_record records, isUid, parsedUid, Keyed.edit_const (parsedUid ▸ member), Keyed.map_put,
        if_pos (parsedUid ▸ member)]
      rfl
  constructor
  · intro other different
    unfold uids
    rw [edits.others other different]
  · intro new
    rw [kept]
    constructor
    · exact Or.inl
    · rintro (old | rfl)
      · exact old
      · exact member

theorem refreshTask_brings {incoming : TaskRefreshInput} {imported : Imported .task} (normal : NormalUids draft.state)
    (isUid : uidSchema incoming.uid = some incoming.uid)
    (ok : refreshTask letters env incoming now draft = .ok (draft', imported)) :
    Brings .task (· = incoming.uid) draft.state draft'.state := by
  unfold refreshTask at ok
  split at ok
  · split at ok
    · cases ok
    · obtain ⟨parsedNew, -, ok₁⟩ := bind_eq_ok ok
      obtain ⟨⟨inserted, entity⟩, inserts, ok₂⟩ := bind_eq_ok ok₁
      cases ok₂
      exact insertEntity_brings isUid inserts
  · rename_i current found
    exact mergeRecord_brings normal found ok

theorem refreshAll_brings {records : List TaskRefreshInput} {outcomes : List (Imported .task)}
    (normal : NormalUids draft.state) (areUids : ∀ record ∈ records, uidSchema record.uid = some record.uid)
    (ok : importAll (fun task => refreshTask letters env task now) records draft = .ok (draft', outcomes)) :
    Brings .task (· ∈ records.map (·.uid)) draft.state draft'.state := by
  induction records generalizing draft outcomes with
  | nil =>
    cases ok
    exact Brings.refl (by simp)
  | cons record records ih =>
    obtain ⟨⟨between, outcome⟩, one, ok₁⟩ := bind_eq_ok ok
    obtain ⟨⟨after, rest⟩, others, ok₂⟩ := bind_eq_ok ok₁
    cases ok₂
    have isUid := areUids record List.mem_cons_self
    have normalBetween := (refreshTask_edits normal isUid one).normalUids normal (by rintro _ rfl; exact isUid)
    have first := refreshTask_brings normal isUid one
    have later := ih normalBetween (fun other member => areUids other (List.mem_cons_of_mem _ member)) others
    constructor
    · exact (first.trans later).others
    · intro uid
      rw [(first.trans later).joined, List.map_cons, List.mem_cons]

end Bringing

section Storing

/-- What a mutator leaves in the store, as far as UIDs go. -/
theorem mutate_uids {mutator : Draft → Except PimError (Draft × Decision α)} {result : α}
    (ok : mutate letters mutator s = .ok (s', result)) :
    ∃ draft decision, mutator ⟨s, 0⟩ = .ok (draft, decision) ∧
      (decision.changed = false → s' = s) ∧
      (decision.changed = true → NormalUids draft.state → ∀ kind, uids s' kind = uids draft.state kind) := by
  obtain ⟨⟨draft, decision⟩, mutates, ok₁⟩ := bind_eq_ok ok
  refine ⟨draft, decision, mutates, fun unchanged => ?_, fun changed normal kind => ?_⟩
  · simp only [unchanged] at ok₁
    cases ok₁
    rfl
  · simp only [changed, if_true] at ok₁
    obtain ⟨stored, isStored, ok₂⟩ := bind_eq_ok ok₁
    rw [orInvalid_ok] at isStored
    cases ok₂
    exact persisted_uids normal isStored kind

theorem Brings.congr {new : JsString → Prop} (brings : Brings kind new s m) (same : ∀ kind, uids s' kind = uids m kind) :
    Brings kind new s s' where
  others other different := (same other).trans (brings.others other different)
  joined uid := by rw [same, brings.joined]

theorem Apart.congr (apart : Apart s) (same : ∀ kind, uids s' kind = uids s kind) : Apart s' := by
  unfold Apart
  rw [same, same]
  exact apart

end Storing

section Choosing

/-- The UID that a new entity gets: the one asked for, or the first that is drawn and that its kind does not
know. -/
def IsChosen (env : Surroundings) (s : PersistedPimState) (kind : PimEntityKind) (uid : JsString) :
    Option JsString → Prop
  | some requested => uidSchema requested = some uid
  | none => ∃ n, uidSchema (env.ids n) = some uid ∧ isKnown s kind uid = false ∧
      ∀ m < n, ∀ earlier ∈ uidSchema (env.ids m), isKnown s kind earlier = true

theorem IsChosen.unique {requested : Option JsString} {first second : JsString}
    (one : IsChosen env s kind first requested) (two : IsChosen env s kind second requested) : first = second := by
  cases requested with
  | some requested => exact Option.some.inj (one.symm.trans two)
  | none =>
    obtain ⟨n, isFirst, unknownFirst, beforeFirst⟩ := one
    obtain ⟨m, isSecond, unknownSecond, beforeSecond⟩ := two
    rcases Nat.lt_trichotomy n m with less | rfl | greater
    · rw [beforeSecond n less first isFirst] at unknownFirst
      cases unknownFirst
    · exact Option.some.inj (isFirst.symm.trans isSecond)
    · rw [beforeFirst m greater second isSecond] at unknownSecond
      cases unknownSecond

theorem drawUid_first {taken : JsString → Bool} {exhausted : PimError} {attempts : Nat}
    (ok : drawUid env taken exhausted attempts draft = .ok (draft', uid)) :
    ∃ n, draft.drawn ≤ n ∧ uidSchema (env.ids n) = some uid ∧ taken uid = false ∧
      ∀ m, draft.drawn ≤ m → m < n → ∀ earlier ∈ uidSchema (env.ids m), taken earlier = true := by
  induction attempts generalizing draft with
  | zero => cases ok
  | succ attempts ih =>
    obtain ⟨drawn, isDrawn, rest⟩ := bind_eq_ok ok
    rw [orInvalid_ok] at isDrawn
    split at rest
    · rename_i isTaken
      obtain ⟨n, behind, isUid, free, before⟩ := ih rest
      refine ⟨n, Nat.le_of_succ_le behind, isUid, free, fun m reached earlier => ?_⟩
      rcases Nat.eq_or_lt_of_le reached with rfl | later
      · intro other isOther
        rw [Option.mem_def, isDrawn, Option.some.injEq] at isOther
        rw [← isOther]
        exact isTaken
      · exact before m later earlier
    · rename_i free
      cases rest
      exact ⟨draft.drawn, Nat.le_refl _, isDrawn, by simpa using free, fun m reached earlier => by omega⟩

theorem availableUid_chosen {requested : Option JsString} (first : draft.drawn = 0)
    (ok : availableUid env kind requested draft = .ok (draft', uid)) : IsChosen env draft.state kind uid requested := by
  cases requested with
  | some requested =>
    obtain ⟨parsed, isParsed, rest⟩ := bind_eq_ok ok
    rw [orInvalid_ok] at isParsed
    split at rest
    · cases rest
    · cases rest
      exact isParsed
  | none =>
    obtain ⟨n, -, isUid, free, before⟩ := drawUid_first ok
    exact ⟨n, isUid, free, fun m less => before m (by omega) less⟩

/-- A UID that is asked for is put in normal form twice. -/
theorem chosen_parsed {input parsed : CreateInput kind} (isParsed : createSchema letters kind input = some parsed) :
    IsChosen env s kind uid parsed.uid ↔ IsChosen env s kind uid input.uid := by
  simp only [createSchema, bind_eq_some, Option.pure_def, Option.some.injEq] at isParsed
  obtain ⟨parsedUid, isParsedUid, -, -, rfl⟩ := isParsed
  cases requested : input.uid with
  | none =>
    rw [requested] at isParsedUid
    cases isParsedUid
    exact Iff.rfl
  | some raw =>
    rw [requested] at isParsedUid
    obtain ⟨once, isOnce, same⟩ := Option.map_eq_some_iff.1 isParsedUid
    cases same
    have twice := uidSchema_normalizes _ _ isOnce
    simp only [IsChosen, isOnce, twice]

end Choosing

section Operations

/-- Whether a request is performed. What throws changes nothing. -/
def Accepted (letters : LetterCase) (env : Surroundings) (s : PersistedPimState) : Request → Prop
  | .create kind input => (create letters env kind input s).isOk
  | .update kind uid patch => (update letters env kind uid patch s).isOk
  | .delete kind uid => (delete letters env kind uid s).isOk
  | .restore kind uid sourceTransactionId => (restore letters env kind uid sourceTransactionId s).isOk
  | .importVCard parsed => (importVCard letters env parsed s).isOk
  | .importICalendar parsed policy => (importICalendar letters env parsed policy s).isOk
  | .refreshTasks requestId latestRequest baseline rawTasks =>
    (refreshTasks letters env requestId latestRequest baseline rawTasks s).isOk

/-- No UID that a request brings stands for a live entity of the other kind. -/
def Separate (env : Surroundings) (s : PersistedPimState) : Request → Prop
  | .create kind input => ∀ rival ∈ kind.rival, ∀ uid, IsChosen env s kind uid input.uid → uid ∉ uids s rival
  | .restore kind uid _ => ∀ rival ∈ kind.rival, ∀ parsed ∈ uidSchema uid, parsed ∉ uids s rival
  | .refreshTasks requestId latestRequest baseline rawTasks =>
    requestId = latestRequest → s.taskMutationVersion = baseline →
      ∀ task ∈ rawTasks, ∀ uid ∈ uidSchema task.uid, uid ∉ uids s .calendarEvent
  | _ => True

theorem create_apart {input : CreateInput kind} {entity : Entity kind} (ledger : Ledger letters s) (apart : Apart s)
    (ok : create letters env kind input s = .ok (s', entity)) : Apart s' ↔ Separate env s (.create kind input) := by
  obtain ⟨parsed, isParsed, ok₁⟩ := bind_eq_ok ok
  rw [orInvalid_ok] at isParsed
  obtain ⟨draft, decision, mutates, -, stored⟩ := mutate_uids ok₁
  obtain ⟨-, -, ok₂⟩ := bind_eq_ok mutates
  obtain ⟨⟨drawn, uid⟩, draws, ok₃⟩ := bind_eq_ok ok₂
  obtain ⟨now, -, ok₄⟩ := bind_eq_ok ok₃
  obtain ⟨content, -, ok₅⟩ := bind_eq_ok ok₄
  obtain ⟨⟨inserted, entity⟩, inserts, ok₆⟩ := bind_eq_ok ok₅
  obtain ⟨isUid, -, same⟩ := availableUid_ok draws
  have chosen := availableUid_chosen rfl draws
  have edits := insertEntity_edits isUid inserts
  have brings := insertEntity_brings isUid inserts
  simp only at same
  rw [same] at edits brings
  cases ok₆
  have normal := edits.normalUids ledger.normalUids (by rintro _ rfl; exact isUid)
  have joined := brings.countMutation.congr (stored rfl fun kind uid member => normal kind uid (by simpa using member))
  rw [joined.apart_iff apart]
  rw [chosen_parsed isParsed] at chosen
  have asked : ∀ other, IsChosen env s kind other input.uid ↔ other = uid := by
    intro other
    constructor
    · exact fun chosen' => chosen'.unique chosen
    · rintro rfl
      exact chosen
  simp only [Separate, asked]

theorem restore_apart {transactionId : Option JsString} {entity : Entity kind} (ledger : Ledger letters s)
    (apart : Apart s) (ok : restore letters env kind uid transactionId s = .ok (s', entity)) :
    Apart s' ↔ Separate env s (.restore kind uid transactionId) := by
  obtain ⟨validatedUid, isUid, ok₁⟩ := bind_eq_ok ok
  obtain ⟨validatedId, -, ok₂⟩ := bind_eq_ok ok₁
  rw [orInvalid_ok] at isUid
  have normalUid := uidSchema_normalizes _ _ isUid
  obtain ⟨draft, decision, mutates, unchanged, stored⟩ := mutate_uids ok₂
  have brings := restoreIn_brings normalUid mutates
  have normal : NormalUids draft.state := by
    intro other member isMember
    by_cases same : other = kind
    · subst same
      rcases (brings.joined member).1 isMember with old | rfl
      · exact ledger.normalUids other member old
      · exact normalUid
    · rw [brings.others other same] at isMember
      exact ledger.normalUids other member isMember
  have joined : Brings kind (· = validatedUid) s s' := by
    cases changed : decision.changed with
    | true => exact brings.congr (stored changed normal)
    | false =>
      -- Nothing is stored when the content that is asked for is live.
      rw [unchanged changed]
      unfold restoreIn at mutates
      simp only at mutates
      split at mutates
      · cases mutates
      · split at mutates
        · rename_i current isCurrent
          cases mutates
          exact brings
        · obtain ⟨now, -, ok₃⟩ := bind_eq_ok mutates
          obtain ⟨restored, -, ok₄⟩ := bind_eq_ok ok₃
          obtain ⟨recorded, -, ok₅⟩ := bind_eq_ok ok₄
          cases ok₅
          cases changed
  rw [joined.apart_iff apart]
  simp [Separate, isUid]

theorem mem_refreshed_uids {rawTasks refreshed : List TaskRefreshInput}
    (areRefreshed : rawTasks.mapM taskRefreshInputSchema = some refreshed) (uid : JsString) :
    uid ∈ refreshed.map (·.uid) ↔ ∃ task ∈ rawTasks, uidSchema task.uid = some uid := by
  constructor
  · intro member
    obtain ⟨record, isRecord, rfl⟩ := List.mem_map.1 member
    exact (refreshed_uids areRefreshed record isRecord).2
  · rintro ⟨task, member, isUid⟩
    obtain ⟨record, isRecord, isTask⟩ := mapM_image areRefreshed task member
    simp only [taskRefreshInputSchema, bind_eq_some, Option.ite_none_right_eq_some, Option.some.injEq] at isTask
    obtain ⟨other, isOther, patch, -, -, rfl⟩ := isTask
    rw [isUid, Option.some.injEq] at isOther
    subst isOther
    exact List.mem_map_of_mem isRecord

theorem refreshTasks_apart {requestId latestRequest baseline : Nat} {rawTasks : List TaskRefreshInput}
    {result : TaskRefreshResult} (ledger : Ledger letters s) (apart : Apart s)
    (ok : refreshTasks letters env requestId latestRequest baseline rawTasks s = .ok (s', result)) :
    Apart s' ↔ Separate env s (.refreshTasks requestId latestRequest baseline rawTasks) := by
  unfold refreshTasks at ok
  by_cases newest : requestId ≠ latestRequest
  · rw [if_pos newest] at ok
    cases ok
    exact iff_of_true apart fun same => absurd same newest
  · rw [if_neg newest] at ok
    by_cases current : s.taskMutationVersion ≠ baseline
    · rw [if_pos current] at ok
      cases ok
      exact iff_of_true apart fun _ same => absurd same current
    · rw [if_neg current] at ok
      obtain ⟨refreshed, areRefreshed, ok₁⟩ := bind_eq_ok ok
      rw [orInvalid_ok, bounded_eq] at areRefreshed
      split at ok₁
      · cases ok₁
      · obtain ⟨draft, decision, mutates, unchanged, stored⟩ := mutate_uids ok₁
        obtain ⟨now, -, ok₂⟩ := bind_eq_ok mutates
        obtain ⟨⟨between, tasks⟩, imports, ok₃⟩ := bind_eq_ok ok₂
        have areUids := fun record member => (refreshed_uids areRefreshed.2 record member).1
        have edits := refreshAll_edits ledger.normalUids areUids imports
        have brings := refreshAll_brings ledger.normalUids areUids imports
        have normal : NormalUids between.state := edits.normalUids ledger.normalUids fun uid member => by
          obtain ⟨record, isRecord, rfl⟩ := List.mem_map.1 member
          exact areUids record isRecord
        cases ok₃
        have joined : Brings .task (· ∈ refreshed.map (·.uid)) s s' := by
          cases changed : tasks.any (·.1.changes) with
          | true =>
            refine brings.congr fun kind => ?_
            rw [stored changed (by simpa [changed, NormalUids] using normal)]
            simp [changed]
          | false =>
            rw [unchanged changed]
            refine brings.congr fun kind => ?_
            by_cases same : kind = .task
            · subst same
              exact congrArg _ (edits.untouched changed).symm
            · exact congrArg _ (edits.others kind same).symm
        rw [joined.apart_iff apart]
        have parses := mem_refreshed_uids areRefreshed.2
        simp only [Separate, not_not.1 newest, not_not.1 current, PimEntityKind.rival, Option.mem_some_iff, forall_eq',
          parses, forall_true_left]
        constructor
        · exact fun free task member uid isUid => free uid ⟨task, member, isUid⟩
        · rintro free uid ⟨task, member, isUid⟩
          exact free task member uid isUid

theorem update_apart {patch : Patch kind} {entity : Entity kind} (ledger : Ledger letters s) (apart : Apart s)
    (ok : update letters env kind uid patch s = .ok (s', entity)) : Apart s' := by
  obtain ⟨validatedUid, -, ok₁⟩ := bind_eq_ok ok
  obtain ⟨parsedPatch, -, ok₂⟩ := bind_eq_ok ok₁
  obtain ⟨draft, decision, mutates, unchanged, stored⟩ := mutate_uids ok₂
  split at mutates
  · cases mutates
  · rename_i current found
    obtain ⟨-, -, ok₃⟩ := bind_eq_ok mutates
    obtain ⟨content, -, ok₄⟩ := bind_eq_ok ok₃
    obtain ⟨candidate, -, ok₅⟩ := bind_eq_ok ok₄
    split at ok₅
    · cases ok₅
      rw [unchanged rfl]
      exact apart
    · obtain ⟨now, -, ok₆⟩ := bind_eq_ok ok₅
      obtain ⟨⟨replaced, entity⟩, replaces, ok₇⟩ := bind_eq_ok ok₆
      have edits := replaceEntity_edits ledger.normalUids found replaces rfl
      have normal := edits.normalUids ledger.normalUids (by simp)
      cases ok₇
      refine (edits.apart apart (by simp)).congr fun kind => ?_
      rw [stored rfl fun kind uid member => normal kind uid (by simpa using member)]
      simp

theorem delete_apart {deleted : Bool} (ledger : Ledger letters s) (apart : Apart s)
    (ok : delete letters env kind uid s = .ok (s', deleted)) : Apart s' := by
  obtain ⟨validatedUid, -, ok₁⟩ := bind_eq_ok ok
  obtain ⟨draft, decision, mutates, unchanged, stored⟩ := mutate_uids ok₁
  split at mutates
  · cases mutates
    rw [unchanged rfl]
    exact apart
  · obtain ⟨now, -, ok₂⟩ := bind_eq_ok mutates
    obtain ⟨recorded, records, ok₃⟩ := bind_eq_ok ok₂
    have edits : Edits kind (fun _ => False) true s recorded.state :=
      edits_of_record (fun entity member => Or.inl (List.mem_map_of_mem (List.mem_of_mem_eraseP member))) records
    have normal := edits.normalUids ledger.normalUids (by simp)
    cases ok₃
    refine (edits.apart apart (by simp)).congr fun kind => ?_
    rw [stored rfl fun kind uid member => normal kind uid (by simpa using member)]
    simp

theorem importVCard_apart {parsed : ParsedVCardBundle} {result : VCardImportResult} (ledger : Ledger letters s)
    (apart : Apart s) (ok : importVCard letters env parsed s = .ok (s', result)) : Apart s' := by
  obtain ⟨draft, decision, mutates, unchanged, stored⟩ := mutate_uids ok
  obtain ⟨now, -, ok₁⟩ := bind_eq_ok mutates
  obtain ⟨⟨between, contacts⟩, first, ok₂⟩ := bind_eq_ok ok₁
  obtain ⟨⟨after, lists⟩, second, ok₃⟩ := bind_eq_ok ok₂
  cases ok₃
  obtain ⟨normal, cards⟩ := importAll_preserves (P := fun s s' => Apart s → Apart s') (fun _ apart => apart)
    (fun _ _ _ one two apart => two (one apart))
    (fun contact _ draft draft' imported normal ok => by
      obtain ⟨input, isInput, ok₁⟩ := bind_eq_ok ok
      rw [orInvalid_ok] at isInput
      obtain ⟨uid, isUid, edits⟩ := importCard_edits normal isInput ok₁
      exact ⟨edits.normalUids normal (by rintro _ rfl; exact isUid), fun apart => edits.apart apart (by simp [PimEntityKind.rival])⟩)
    ledger.normalUids first
  obtain ⟨normalAfter, later⟩ := importAll_preserves (P := fun s s' => Apart s → Apart s') (fun _ apart => apart)
    (fun _ _ _ one two apart => two (one apart))
    (fun list _ draft draft' imported normal ok => by
      obtain ⟨withoutEmailMembers, -, ok₁⟩ := bind_eq_ok ok
      obtain ⟨resolved, -, ok₂⟩ := bind_eq_ok ok₁
      obtain ⟨input, isInput, ok₃⟩ := bind_eq_ok ok₂
      obtain ⟨-, -, ok₄⟩ := bind_eq_ok ok₃
      rw [orInvalid_ok] at isInput
      obtain ⟨uid, isUid, edits⟩ := importCard_edits normal isInput ok₄
      exact ⟨edits.normalUids normal (by rintro _ rfl; exact isUid), fun apart => edits.apart apart (by simp [PimEntityKind.rival])⟩)
    normal second
  by_cases changed : (contacts.any (·.1.changes) || lists.any (·.1.changes)) = true
  · exact (later (cards apart)).congr (stored changed normalAfter)
  · rw [unchanged (by simpa using changed)]
    exact apart

/-- A component that is imported keeps away from the other kind. -/
theorem importComponent_apart {other : PimEntityKind} {policy : ICalendarDuplicatePolicy} {raw : CreateInput kind}
    {imported : Imported kind} (rivals : kind.rival = some other) (normal : NormalUids draft.state)
    (ok : importComponent letters env kind other policy raw now draft = .ok (draft', imported)) :
    NormalUids draft'.state ∧ (Apart draft.state → Apart draft'.state) := by
  obtain ⟨edited, uid, isUid, edits, rfl⟩ := importComponent_edits normal ok
  have normalEdited := edits.normalUids normal (by rintro _ ⟨rfl, -⟩; exact isUid)
  have apartEdited : Apart draft.state → Apart edited.state := by
    intro apart
    refine edits.apart apart fun rival isRival new isNew isLive => ?_
    rw [rivals, Option.mem_some_iff] at isRival
    subst isRival
    obtain ⟨rfl, unknown⟩ := isNew
    unfold isKnown at unknown
    rw [Bool.or_eq_false_iff, List.any_eq_false] at unknown
    obtain ⟨entity, isEntity, same⟩ := List.mem_map.1 isLive
    exact unknown.1 entity isEntity (by simpa using same)
  split
  · exact ⟨fun kind uid member => normalEdited kind uid (by simpa using member),
      fun apart => (apartEdited apart).congr (by simp)⟩
  · exact ⟨normalEdited, apartEdited⟩

theorem importICalendar_apart {parsed : ParsedICalendarBundle} {policy : ICalendarDuplicatePolicy}
    {result : ICalendarImportResult} (ledger : Ledger letters s) (apart : Apart s)
    (ok : importICalendar letters env parsed policy s = .ok (s', result)) : Apart s' := by
  obtain ⟨draft, decision, mutates, unchanged, stored⟩ := mutate_uids ok
  obtain ⟨now, -, ok₁⟩ := bind_eq_ok mutates
  obtain ⟨⟨between, events⟩, first, ok₂⟩ := bind_eq_ok ok₁
  obtain ⟨⟨after, tasks⟩, second, ok₃⟩ := bind_eq_ok ok₂
  cases ok₃
  obtain ⟨normal, one⟩ := importAll_preserves (P := fun s s' => Apart s → Apart s') (fun _ apart => apart)
    (fun _ _ _ one two apart => two (one apart)) (fun _ _ _ _ _ normal ok => importComponent_apart rfl normal ok)
    ledger.normalUids first
  obtain ⟨normalAfter, two⟩ := importAll_preserves (P := fun s s' => Apart s → Apart s') (fun _ apart => apart)
    (fun _ _ _ one two apart => two (one apart)) (fun _ _ _ _ _ normal ok => importComponent_apart rfl normal ok)
    normal second
  by_cases changed : (events.any (·.1.changes) || tasks.any (·.1.changes)) = true
  · exact (two (one apart)).congr (stored changed normalAfter)
  · rw [unchanged (by simpa using changed)]
    exact apart

end Operations

section Runs

/-- One request keeps events and tasks apart exactly if it is refused or brings no UID of the other kind. -/
theorem perform_apart (ledger : Ledger letters s) (apart : Apart s) (request : Request) :
    Apart (perform letters env request s) ↔ (Accepted letters env s request → Separate env s request) := by
  have decide : ∀ {α : Type} {outcome : Except PimError (PersistedPimState × α)} {separate : Prop},
      (∀ s' result, outcome = .ok (s', result) → (Apart s' ↔ separate)) →
        (Apart (stored s outcome) ↔ (outcome.isOk = true → separate)) := by
    intro α outcome separate decides
    cases outcome with
    | error error => exact iff_of_true apart (by simp [Except.isOk, Except.toBool])
    | ok after =>
      have left : stored s (.ok after) = after.1 := rfl
      rw [left]
      simpa [Except.isOk, Except.toBool] using decides after.1 after.2 rfl
  have keeps : ∀ {α : Type} {outcome : Except PimError (PersistedPimState × α)},
      (∀ s' result, outcome = .ok (s', result) → Apart s') →
        (Apart (stored s outcome) ↔ (outcome.isOk = true → True)) :=
    fun apart' => decide fun s' result ok => iff_of_true (apart' s' result ok) trivial
  cases request with
  | create kind input => exact decide fun _ _ ok => create_apart ledger apart ok
  | update kind uid patch => exact keeps fun _ _ ok => update_apart ledger apart ok
  | delete kind uid => exact keeps fun _ _ ok => delete_apart ledger apart ok
  | restore kind uid sourceTransactionId => exact decide fun _ _ ok => restore_apart ledger apart ok
  | importVCard parsed => exact keeps fun _ _ ok => importVCard_apart ledger apart ok
  | importICalendar parsed policy => exact keeps fun _ _ ok => importICalendar_apart ledger apart ok
  | refreshTasks requestId latestRequest baseline rawTasks => exact decide fun _ _ ok => refreshTasks_apart ledger apart ok

/-- Every request of a run is refused or brings no UID of the other kind. -/
def AllSeparate (letters : LetterCase) (s : PersistedPimState) : List (Surroundings × Request) → Prop
  | [] => True
  | (env, request) :: requests =>
    (Accepted letters env s request → Separate env s request) ∧
      AllSeparate letters (perform letters env request s) requests

theorem run_apart (ledger : Ledger letters s) (apart : Apart s) (requests : List (Surroundings × Request)) :
    (∀ earlier, earlier <+: requests → Apart (run letters s earlier)) ↔ AllSeparate letters s requests := by
  induction requests generalizing s with
  | nil =>
    refine iff_of_true (fun earlier isPrefix => ?_) trivial
    rw [List.prefix_nil.1 isPrefix]
    exact apart
  | cons first requests ih =>
    obtain ⟨env, request⟩ := first
    have decided : Apart (perform letters env request s) ↔ (Accepted letters env s request → Separate env s request) :=
      perform_apart ledger apart request
    have ledger' : Ledger letters (perform letters env request s) := (perform_grows ledger request).ledger ledger
    constructor
    · intro throughout
      have next : Apart (perform letters env request s) := throughout [(env, request)] ⟨requests, rfl⟩
      refine ⟨decided.1 next, (ih ledger' next).1 fun earlier isPrefix => ?_⟩
      exact throughout ((env, request) :: earlier) (List.cons_prefix_cons.2 ⟨rfl, isPrefix⟩)
    · rintro ⟨separate, later⟩ earlier isPrefix
      rcases List.prefix_cons_iff.1 isPrefix with rfl | ⟨short, rfl, isShort⟩
      · exact apart
      · exact (ih ledger' (decided.2 separate)).2 later short isShort

end Runs

end Pim
