import MaterialEmail.Pim.Ledger
import MaterialEmail.Library.Fallible

/-! What the operations of the personal information manager record: each that succeeds takes the ledger
on by transactions that fit it. -/
namespace Pim

open EventLog Fallible

variable (letters : LetterCase)

/-- A state grows into another by transactions whose actions are among those allowed. -/
inductive Grows (allowed : TransactionAction → Prop) (s : PersistedPimState) : PersistedPimState → Prop where
  | refl : Grows allowed s s
  | record {m s' : PersistedPimState} {t : PimTransaction} (grown : Grows allowed s m) (fits : Fits letters m t)
      (isAllowed : allowed t.action) (records : Records t m s') : Grows allowed s s'
  | count {m : PersistedPimState} (grown : Grows allowed s m) (version : Nat) :
      Grows allowed s { m with taskMutationVersion := version }

variable {letters} {allowed : TransactionAction → Prop} {s m s' : PersistedPimState} {env : Surroundings}
  {kind : PimEntityKind} {uid now : JsString} {draft draft' : Draft}

section Growth

theorem Grows.trans (first : Grows letters allowed s m) (second : Grows letters allowed m s') :
    Grows letters allowed s s' := by
  induction second with
  | refl => exact first
  | record _ fits isAllowed records ih => exact ih.record fits isAllowed records
  | count _ version ih => exact ih.count version

theorem Grows.mono {wider : TransactionAction → Prop} (widens : ∀ action, allowed action → wider action)
    (grows : Grows letters allowed s s') : Grows letters wider s s' := by
  induction grows with
  | refl => exact Grows.refl
  | record _ fits isAllowed records ih => exact ih.record fits (widens _ isAllowed) records
  | count _ version ih => exact ih.count version

theorem Ledger.count (ledger : Ledger letters s) (version : Nat) :
    Ledger letters { s with taskMutationVersion := version } where
  replayed := ledger.replayed
  normal := ledger.normal
  ids := ledger.ids
  sequences := ledger.sequences
  below := ledger.below
  positive := ledger.positive
  befores := ledger.befores
  created := ledger.created
  revisions := ledger.revisions
  bounded := ledger.bounded
  attained := ledger.attained
  latest := ledger.latest

theorem Grows.ledger (grows : Grows letters allowed s s') (ledger : Ledger letters s) : Ledger letters s' := by
  induction grows with
  | refl => exact ledger
  | record _ fits _ records ih => exact ih.step fits records
  | count _ version ih => exact ih.count version

/-- Nothing that was recorded is lost. -/
theorem Grows.append_only (grows : Grows letters allowed s s') :
    ∃ added, s'.transactions = s.transactions ++ added ∧ ∀ t ∈ added, allowed t.action := by
  induction grows with
  | refl => exact ⟨[], by simp⟩
  | @record m s' t _ _ isAllowed records ih =>
    obtain ⟨added, same, allAllowed⟩ := ih
    refine ⟨added ++ [t], by rw [records.transactions, same, List.append_assoc], ?_⟩
    intro other member
    rcases List.mem_append.1 member with old | new
    · exact allAllowed other old
    · rw [List.mem_singleton.1 new]
      exact isAllowed
  | count _ _ ih => exact ih

theorem Grows.countMutation (grows : Grows letters allowed s draft.state) :
    Grows letters allowed s (draft.countMutation kind).state := by
  cases kind with
  | task => exact grows.count _
  | contact => exact grows
  | mailingList => exact grows
  | calendarEvent => exact grows

end Growth

section Drawing

theorem orInvalid_ok {value : Option α} {result : α} : orInvalid value = .ok result ↔ value = some result := by
  cases value <;> simp [orInvalid]

theorem drawUid_ok {taken : JsString → Bool} {exhausted : PimError} {attempts : Nat}
    (ok : drawUid env taken exhausted attempts draft = .ok (draft', uid)) :
    uidSchema uid = some uid ∧ taken uid = false ∧ draft'.state = draft.state := by
  induction attempts generalizing draft with
  | zero => cases ok
  | succ attempts ih =>
    obtain ⟨drawn, isDrawn, rest⟩ := bind_eq_ok ok
    rw [orInvalid_ok] at isDrawn
    split at rest
    · obtain ⟨normal, free, same⟩ := ih rest
      exact ⟨normal, free, same⟩
    · rename_i free
      cases rest
      exact ⟨uidSchema_normalizes _ _ isDrawn, by simpa using free, rfl⟩

theorem availableUid_ok {requested : Option JsString}
    (ok : availableUid env kind requested draft = .ok (draft', uid)) :
    uidSchema uid = some uid ∧ isKnown draft.state kind uid = false ∧ draft'.state = draft.state := by
  cases requested with
  | none => exact drawUid_ok ok
  | some requested =>
    obtain ⟨parsed, isParsed, rest⟩ := bind_eq_ok ok
    rw [orInvalid_ok] at isParsed
    split at rest
    · cases rest
    · rename_i free
      cases rest
      exact ⟨uidSchema_normalizes _ _ isParsed, by simpa using free, rfl⟩

theorem historical_of_known (unknown : isKnown s kind uid = false) : isHistoricalUid s kind uid = false := by
  unfold isKnown at unknown
  simp only [Bool.or_eq_false_iff] at unknown
  exact unknown.2

end Drawing

section Record

/-- The transaction that is recorded is the one that was asked for. -/
theorem record_ok {action : TransactionAction} {before after : Option (Entity kind)}
    (isUid : uidSchema uid = some uid) (befores : ∀ entity ∈ before, Normal letters entity)
    (afters : ∀ entity ∈ after, Normal letters entity)
    (ok : record letters env action kind uid before after now draft = .ok draft') :
    ∃ id, id ∉ draft.state.transactions.map (·.id) ∧
      pimTransactionSchema letters ⟨id, draft.state.nextTransactionSequence, now, action, kind, uid, before, after⟩ =
        some ⟨id, draft.state.nextTransactionSequence, now, action, kind, uid, before, after⟩ ∧
      draft'.state = { draft.state with
        transactions := draft.state.transactions ++
          [⟨id, draft.state.nextTransactionSequence, now, action, kind, uid, before, after⟩]
        nextTransactionSequence := draft.state.nextTransactionSequence + 1 } := by
  obtain ⟨before', isBefore, ok₁⟩ := bind_eq_ok ok
  obtain ⟨after', isAfter, ok₂⟩ := bind_eq_ok ok₁
  obtain ⟨⟨drawn, id⟩, draws, ok₃⟩ := bind_eq_ok ok₂
  obtain ⟨t, isTransaction, ok₄⟩ := bind_eq_ok ok₃
  rw [orInvalid_ok, optional_normal.2 befores, Option.some.injEq] at isBefore
  rw [orInvalid_ok, optional_normal.2 afters, Option.some.injEq] at isAfter
  obtain ⟨isId, fresh, same⟩ := drawUid_ok draws
  subst isBefore isAfter
  rw [orInvalid_ok, same] at isTransaction
  have parsed := isTransaction
  simp only [pimTransactionSchema, bind_eq_some, Option.ite_none_right_eq_some, Option.some.injEq, isId, isUid,
    optional_normal.2 befores, optional_normal.2 afters] at parsed
  obtain ⟨_, rfl, occurredAt, isMoment, _, rfl, _, rfl, _, rfl, fields, rfl⟩ := parsed
  cases isoDateTimeSchema_eq isMoment
  refine ⟨id, by simpa using fresh, isTransaction, ?_⟩
  cases ok₄
  rw [same]

/-- A change of one collection, recorded. -/
theorem records_of_setCollection {t : PimTransaction} {entities : List (Entity t.entityKind)}
    (effect : entities = t.applyTo t.entityKind (s.collection t.entityKind)) :
    Records t s { s.setCollection t.entityKind entities with
      transactions := s.transactions ++ [t]
      nextTransactionSequence := s.nextTransactionSequence + 1 } where
  collection := by
    intro kind
    simp only [PersistedPimState.setCollection]
    by_cases same : kind = t.entityKind
    · subst same
      rw [Function.update_self, effect]
    · rw [Function.update_of_ne same, PimTransaction.applyTo, entry_other (Ne.symm same)]
  transactions := rfl
  next := rfl

/-- One pass of a schema puts content in normal form. -/
def Settled (letters : LetterCase) (kind : PimEntityKind) (content : Content kind) : Prop :=
  ∀ parsed, contentSchema letters kind content = some parsed → contentSchema letters kind parsed = some parsed

theorem settled_of_parsed {raw content : Content kind} (once : contentSchema letters kind raw = some content) :
    Settled letters kind content :=
  fun parsed twice => content_settles letters kind raw content parsed once twice

theorem settled_task (content : Content .task) : Settled letters .task content :=
  fun parsed once => taskContent_normalizes content parsed once

theorem entitySchema_fields {entity parsed : Entity kind} (parses : entitySchema letters kind entity = some parsed) :
    uidSchema entity.uid = some parsed.uid ∧ contentSchema letters kind entity.content = some parsed.content ∧
      isoDateTimeSchema entity.createdAt = some parsed.createdAt ∧
      isoDateTimeSchema entity.updatedAt = some parsed.updatedAt ∧ parsed.revision = entity.revision ∧
      0 < parsed.revision := by
  simp only [entitySchema, bind_eq_some, Option.ite_none_right_eq_some, Option.some.injEq] at parses
  obtain ⟨uid, p₁, content, p₂, createdAt, p₃, updatedAt, p₄, positive, rfl⟩ := parses
  exact ⟨p₁, p₂, p₃, p₄, rfl, positive⟩

theorem entitySchema_ok {entity parsed : Entity kind} (parses : entitySchema letters kind entity = some parsed)
    (settled : Settled letters kind entity.content) : Normal letters parsed := by
  obtain ⟨uid, content, createdAt, updatedAt, -, positive⟩ := entitySchema_fields parses
  exact normal_iff.2 ⟨uidSchema_normalizes _ _ uid, settled _ content, isoDateTimeSchema_normalizes _ _ createdAt,
    isoDateTimeSchema_normalizes _ _ updatedAt, positive⟩

theorem not_mem_of_find (absent : s.find kind uid = none) : uid ∉ (s.collection kind).map Entity.uid := by
  intro member
  have isSome := Keyed.get_isSome.2 member
  rw [show Keyed.get Entity.uid uid (s.collection kind) = none from absent] at isSome
  cases isSome

/-- A new entity has a UID without history, and starts its revisions. -/
theorem insertEntity_ok {content : Content kind} {revision : Nat} {entity : Entity kind}
    (ledger : Ledger letters draft.state) (isUid : uidSchema uid = some uid)
    (unknown : isHistoricalUid draft.state kind uid = false) (settled : Settled letters kind content)
    (first : revision = 1) (ok : insertEntity letters env kind uid content revision now draft = .ok (draft', entity)) :
    Grows letters (· = .created) draft.state draft'.state := by
  obtain ⟨parsed, isParsed, ok₁⟩ := bind_eq_ok ok
  obtain ⟨recorded, records, ok₂⟩ := bind_eq_ok ok₁
  cases ok₂
  rw [orInvalid_ok] at isParsed
  have normal := entitySchema_ok isParsed settled
  obtain ⟨sameUid, -, -, -, sameRevision, -⟩ := entitySchema_fields isParsed
  rw [isUid, Option.some.injEq] at sameUid
  subst sameUid
  obtain ⟨id, fresh, isTransaction, state⟩ := record_ok isUid (by simp) (by simpa using normal) records
  have absent := ledger.find_of_unknown unknown
  rw [state]
  refine Grows.refl.record (t := ⟨id, _, now, .created, kind, entity.uid, none, some entity⟩)
    ⟨isTransaction, rfl, fresh, absent.symm, fun _ => unknown, ?_⟩ rfl (records_of_setCollection ?_)
  · rintro entity' ⟨⟩
    rw [sameRevision, first, ledger.latest_of_unknown unknown]
  · rw [PimTransaction.applyTo, entry_self rfl, snapshots_self]
    exact (Keyed.put_of_not_mem (not_mem_of_find absent)).symm

/-- An entity that is replaced keeps its UID and takes the next revision. -/
theorem replaceEntity_ok {current updated entity : Entity kind} (ledger : Ledger letters draft.state)
    (found : draft.state.find kind uid = some current)
    (ok : replaceEntity letters env kind current updated now draft = .ok (draft', entity))
    (settled : Settled letters kind updated.content) (sameUid : updated.uid = current.uid)
    (next : updated.revision = current.revision + 1) :
    Grows letters (· = .updated) draft.state draft'.state := by
  obtain ⟨parsed, isParsed, ok₁⟩ := bind_eq_ok ok
  obtain ⟨recorded, records, ok₂⟩ := bind_eq_ok ok₁
  cases ok₂
  rw [orInvalid_ok] at isParsed
  have normal := entitySchema_ok isParsed settled
  obtain ⟨parsedUid, -, -, -, sameRevision, -⟩ := entitySchema_fields isParsed
  obtain ⟨normalCurrent, rfl⟩ := ledger.normal_live found
  have isUid := (normal_iff.1 normalCurrent).1
  rw [sameUid, isUid, Option.some.injEq] at parsedUid
  obtain ⟨id, fresh, isTransaction, state⟩ := record_ok isUid (by simpa using normalCurrent) (by simpa using normal) records
  have present : entity.uid ∈ (draft.state.collection kind).map Entity.uid := by
    rw [← parsedUid]
    exact List.mem_map_of_mem (Keyed.get_eq_some found).1
  rw [state]
  refine Grows.refl.record (t := ⟨id, _, now, .updated, kind, current.uid, some current, some entity⟩)
    ⟨isTransaction, rfl, fresh, found.symm, nofun, ?_⟩ rfl (records_of_setCollection ?_)
  · rintro entity' ⟨⟩
    rw [sameRevision, next, ledger.latestRevision, ledger.latest kind current (Keyed.get_eq_some found).1]
  · rw [PimTransaction.applyTo, entry_self rfl, snapshots_self, parsedUid]
    exact Keyed.edit_const present

end Record

section Storing

theorem mapM_of_normal {schema : α → Option α} {values : List α} (normal : ∀ value ∈ values, schema value = some value) :
    values.mapM schema = some values := by
  induction values with
  | nil => rfl
  | cons value values ih =>
    have tail := ih fun other member => normal other (List.mem_cons_of_mem _ member)
    simp only [List.mapM_cons, normal value List.mem_cons_self, tail, Option.pure_def, Option.bind_eq_bind,
      Option.bind_some]

/-- What a ledger holds passes the schema of the store as it is. -/
theorem Ledger.persists (ledger : Ledger letters s) : persistedPimStateSchema letters s = some s := by
  have entities : ∀ kind, (s.collection kind).mapM (entitySchema letters kind) = some (s.collection kind) := by
    intro kind
    apply mapM_of_normal
    intro entity member
    exact (ledger.normal_live (ledger.find_of_mem member)).1
  have transactions := mapM_of_normal ledger.normal
  have same : ∀ collection : (kind : PimEntityKind) → List (Entity kind), (∀ kind, collection kind = s.collection kind) →
      { s with collection := collection } = s := by
    intro collection is
    rw [funext is]
  have consistent : s.Consistent := by
    refine ⟨fun kind _ => ledger.distinct, ledger.ids, List.isChain_iff_pairwise.2 ledger.sequences, ?_⟩
    cases last : s.transactions.getLast? with
    | none => simpa using Nat.succ_le_of_lt ledger.positive
    | some t => simpa using Nat.succ_le_of_lt (ledger.below t (List.mem_of_getLast? last))
  unfold persistedPimStateSchema
  simp only [entities, transactions, Option.bind_eq_bind, Option.bind_some]
  rw [Option.ite_none_right_eq_some, Option.some.injEq, same _ (by intro kind; cases kind <;> rfl)]
  exact ⟨⟨ledger.positive, consistent⟩, rfl⟩

theorem mutate_ok {mutator : Draft → Except PimError (Draft × Decision α)} {result : α} (ledger : Ledger letters s)
    (grows : ∀ draft decision, mutator ⟨s, 0⟩ = .ok (draft, decision) → Grows letters allowed s draft.state)
    (ok : mutate letters mutator s = .ok (s', result)) : Grows letters allowed s s' := by
  obtain ⟨⟨draft, decision⟩, mutates, ok₁⟩ := bind_eq_ok ok
  have grown := grows draft decision mutates
  by_cases changed : decision.changed = true
  · simp only [changed, if_true] at ok₁
    obtain ⟨stored, isStored, ok₂⟩ := bind_eq_ok ok₁
    rw [orInvalid_ok, (grown.ledger ledger).persists, Option.some.injEq] at isStored
    cases ok₂
    rw [← isStored]
    exact grown
  · simp only [changed] at ok₁
    cases ok₁
    exact Grows.refl

end Storing

end Pim
