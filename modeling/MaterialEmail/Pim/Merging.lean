import MaterialEmail.Pim.TaskVersion

/-! What an import makes of its records: each entity takes over a content, and one that has it already stays as
it is. -/
namespace Pim

open Fallible

variable {letters : LetterCase} {s m s' : PersistedPimState} {env : Surroundings} {kind : PimEntityKind}
  {uid now : JsString} {draft draft' : Draft}

/-- A live entity has a content. -/
def Has (s : PersistedPimState) (kind : PimEntityKind) (uid : JsString) (content : Content kind) : Prop :=
  ∃ entity, s.find kind uid = some entity ∧ entity.content = content

/-- An entity takes a content; no other entity is touched, and no other UID becomes known. -/
structure Puts (kind : PimEntityKind) (uid : JsString) (content : Content kind) (s s' : PersistedPimState) : Prop where
  live : Has s' kind uid content
  same : ∀ other, other ≠ uid → s'.find kind other = s.find kind other
  others : ∀ other, other ≠ kind → s'.collection other = s.collection other
  history : ∀ other otherUid, other ≠ kind ∨ otherUid ≠ uid →
    isHistoricalUid s' other otherUid = isHistoricalUid s other otherUid

section Storing

theorem isKnown_eq (s : PersistedPimState) (kind : PimEntityKind) (uid : JsString) :
    isKnown s kind uid = ((s.find kind uid).isSome || isHistoricalUid s kind uid) := by
  have found : (s.collection kind).any (fun entity => entity.uid = uid) = (s.find kind uid).isSome := by
    rw [Bool.eq_iff_iff, List.any_eq_true, PersistedPimState.find, Keyed.get_isSome, List.mem_map]
    simp
  rw [isKnown, found]

theorem record_history {action : TransactionAction} {before after : Option (Entity kind)}
    (isUid : uidSchema uid = some uid)
    (ok : record letters env action kind uid before after now draft = .ok draft')
    {other : PimEntityKind} {otherUid : JsString} (apart : other ≠ kind ∨ otherUid ≠ uid) :
    isHistoricalUid draft'.state other otherUid = isHistoricalUid draft.state other otherUid := by
  obtain ⟨before', -, ok₁⟩ := bind_eq_ok ok
  obtain ⟨after', -, ok₂⟩ := bind_eq_ok ok₁
  obtain ⟨⟨drawn, id⟩, draws, ok₃⟩ := bind_eq_ok ok₂
  obtain ⟨t, isTransaction, ok₄⟩ := bind_eq_ok ok₃
  obtain ⟨-, -, same⟩ := drawUid_ok draws
  rw [orInvalid_ok] at isTransaction
  simp only [pimTransactionSchema, bind_eq_some, Option.ite_none_right_eq_some, Option.some.injEq, isUid]
    at isTransaction
  obtain ⟨_, -, _, -, _, rfl, _, -, _, -, -, rfl⟩ := isTransaction
  cases ok₄
  have elsewhere : ¬(kind = other ∧ uid = otherUid) := by
    rintro ⟨rfl, rfl⟩
    exact apart.elim (fun differ => differ rfl) fun differ => differ rfl
  simp [isHistoricalUid, same, elsewhere]

theorem puts_of_record {action : TransactionAction} {before after : Option (Entity kind)} {entity : Entity kind}
    {entities : List (Entity kind)} (isUid : uidSchema uid = some uid) (named : entity.uid = uid)
    (is : entities = Keyed.put Entity.uid entity (draft.state.collection kind))
    (ok : record letters env action kind uid before after now (draft.setCollection kind entities) = .ok draft') :
    Puts kind uid entity.content draft.state draft'.state := by
  obtain ⟨collection, -⟩ := record_frame ok
  have here : draft'.state.collection kind = Keyed.put Entity.uid entity (draft.state.collection kind) := by
    rw [collection, ← is]
    exact Function.update_self ..
  constructor
  · refine ⟨entity, ?_, rfl⟩
    rw [PersistedPimState.find, here, Keyed.get_put, if_pos named]
  · intro other differ
    rw [PersistedPimState.find, here, Keyed.get_put, named, if_neg (Ne.symm differ)]
    rfl
  · intro other differ
    rw [collection]
    exact Function.update_of_ne differ _ _
  · intro other otherUid apart
    exact record_history isUid ok apart

theorem insertEntity_puts {content : Content kind} {revision : Nat} {entity : Entity kind}
    (isUid : uidSchema uid = some uid) (absent : draft.state.find kind uid = none)
    (ok : insertEntity letters env kind uid content revision now draft = .ok (draft', entity)) :
    contentSchema letters kind content = some entity.content ∧
      Puts kind uid entity.content draft.state draft'.state := by
  obtain ⟨parsed, isParsed, ok₁⟩ := bind_eq_ok ok
  obtain ⟨recorded, records, ok₂⟩ := bind_eq_ok ok₁
  cases ok₂
  rw [orInvalid_ok] at isParsed
  obtain ⟨sameUid, isContent, -⟩ := entitySchema_fields isParsed
  rw [isUid, Option.some.injEq] at sameUid
  subst sameUid
  exact ⟨isContent, puts_of_record isUid rfl (Keyed.put_of_not_mem (not_mem_of_find absent)).symm records⟩

theorem replaceEntity_puts {current updated entity : Entity kind} (isUid : uidSchema uid = some uid)
    (found : draft.state.find kind uid = some current)
    (ok : replaceEntity letters env kind current updated now draft = .ok (draft', entity))
    (sameUid : updated.uid = current.uid) :
    contentSchema letters kind updated.content = some entity.content ∧
      Puts kind uid entity.content draft.state draft'.state := by
  obtain ⟨parsed, isParsed, ok₁⟩ := bind_eq_ok ok
  obtain ⟨recorded, records, ok₂⟩ := bind_eq_ok ok₁
  cases ok₂
  rw [orInvalid_ok] at isParsed
  obtain ⟨member, rfl⟩ := Keyed.get_eq_some found
  obtain ⟨parsedUid, isContent, -⟩ := entitySchema_fields isParsed
  rw [sameUid, isUid, Option.some.injEq] at parsedUid
  refine ⟨isContent, puts_of_record isUid parsedUid.symm ?_ records⟩
  rw [parsedUid]
  exact Keyed.edit_const (parsedUid ▸ List.mem_map_of_mem member)

end Storing

section Records

/-- A record is imported: its entity takes the content, and nothing happens where it has had it before. -/
structure Stores (kind : PimEntityKind) (uid : JsString) (content : Content kind) (s s' : PersistedPimState)
    (outcome : ImportOutcome) : Prop where
  puts : Puts kind uid content s s'
  unchanged : outcome = .unchanged ↔ Has s kind uid content
  changes : outcome.changes = false ↔ outcome = .unchanged
  still : outcome = .unchanged → s' = s

theorem mergeRecord_stores {current : Entity kind} {content : Content kind} {imported : Imported kind}
    (isUid : uidSchema uid = some uid) (found : draft.state.find kind uid = some current)
    (settled : Settled letters kind content)
    (ok : mergeRecord letters env kind current content now draft = .ok (draft', imported)) :
    ∃ stored, contentSchema letters kind content = some stored ∧
      Stores kind uid stored draft.state draft'.state imported.1 := by
  obtain ⟨candidate, isCandidate, ok₁⟩ := bind_eq_ok ok
  rw [orInvalid_ok] at isCandidate
  obtain ⟨candidateUid, isContent, -⟩ := entitySchema_fields isCandidate
  have named := (Keyed.get_eq_some found).2
  rw [named, isUid, Option.some.injEq] at candidateUid
  refine ⟨candidate.content, isContent, ?_⟩
  split at ok₁
  · rename_i unchanged
    cases ok₁
    have has : Has draft.state kind uid candidate.content := ⟨current, found, unchanged⟩
    exact ⟨⟨has, fun _ _ => rfl, fun _ _ => rfl, fun _ _ _ => rfl⟩, iff_of_true rfl has, iff_of_true rfl rfl,
      fun _ => rfl⟩
  · rename_i differs
    obtain ⟨⟨replaced, entity⟩, replaces, ok₂⟩ := bind_eq_ok ok₁
    cases ok₂
    obtain ⟨again, puts⟩ := replaceEntity_puts isUid found replaces (candidateUid.symm.trans named.symm)
    rw [settled _ isContent, Option.some.injEq] at again
    rw [← again] at puts
    refine ⟨puts, iff_of_false nofun ?_, iff_of_false nofun nofun, nofun⟩
    rintro ⟨entity, isCurrent, same⟩
    rw [found, Option.some.injEq] at isCurrent
    exact differs (isCurrent ▸ same)

theorem mergeRecord_again {content : Content kind} (env : Surroundings) (now : JsString)
    (ledger : Ledger letters draft.state) {current : Entity kind} (found : draft.state.find kind uid = some current) (same : current.content = content) :
    mergeRecord letters env kind current content now draft = .ok (draft, .unchanged, some current) := by
  have normal : entitySchema letters kind { current with content := content } = some current := by
    rw [← same]
    exact (ledger.normal_live found).1
  unfold mergeRecord
  rw [normal]
  exact if_pos rfl

theorem insertEntity_stores {content : Content kind} {revision : Nat} {entity : Entity kind}
    (isUid : uidSchema uid = some uid) (absent : draft.state.find kind uid = none)
    (ok : insertEntity letters env kind uid content revision now draft = .ok (draft', entity)) :
    ∃ stored, contentSchema letters kind content = some stored ∧
      Stores kind uid stored draft.state draft'.state .created := by
  obtain ⟨isContent, puts⟩ := insertEntity_puts isUid absent ok
  refine ⟨entity.content, isContent, puts, iff_of_false nofun ?_, iff_of_false nofun nofun, nofun⟩
  rintro ⟨entity, found, -⟩
  rw [absent] at found
  cases found

theorem Stores.countMutation {content : Content kind} {outcome : ImportOutcome}
    (stores : Stores kind uid content s draft.state outcome) (changed : outcome ≠ .unchanged) :
    Stores kind uid content s (draft.countMutation kind).state outcome where
  puts := by
    obtain ⟨live, same, others, history⟩ := stores.puts
    cases kind <;> exact ⟨live, same, others, history⟩
  unchanged := stores.unchanged
  changes := stores.changes
  still := fun unchanged => absurd unchanged changed

/-- What a content becomes when it is imported. -/
def stamped : (kind : PimEntityKind) → Content kind → JsString → Content kind
  | .task, (content : TaskContent), now => normalizeTaskContent content now
  | .contact, content, _ => content
  | .mailingList, content, _ => content
  | .calendarEvent, content, _ => content

theorem normalizeContent_stamped (content : Content kind) :
    normalizeContent kind content (.ok now) = .ok (stamped kind content now) := by
  cases kind <;> rfl

theorem taskContent_fields {task parsed : TaskContent} (parses : TaskContent.parse task = some parsed) :
    shortText 500 task.title = some parsed.title ∧ optionalText 32768 task.description = some parsed.description ∧
      optional temporalValueSchema task.entry = some parsed.entry ∧
      optional temporalValueSchema task.due = some parsed.due ∧
      optional isoDateTimeSchema task.completedAt = some parsed.completedAt ∧
      bounded 100 (shortText 100) task.categories = some parsed.categories ∧
      optional Recurrence.parse task.recurrence = some parsed.recurrence ∧
      optionalText 500 task.sourceRevision = some parsed.sourceRevision ∧ parsed.status = task.status ∧
      parsed.priority = task.priority ∧ parsed.percentComplete = task.percentComplete := by
  simp only [TaskContent.parse, bind_eq_some, Option.ite_none_right_eq_some, Option.some.injEq] at parses
  obtain ⟨_, p₁, _, p₂, _, p₃, _, p₄, _, p₅, _, p₆, _, p₇, _, p₈, -, rfl⟩ := parses
  exact ⟨p₁, p₂, p₃, p₄, p₅, p₆, p₇, p₈, rfl, rfl, rfl⟩

/-- What a status implies is about the progress of a task alone. -/
theorem normalizeTaskContent_eq (content : TaskContent) (now : JsString) : normalizeTaskContent content now =
    { content with
      percentComplete := if content.status = .completed then 100 else min content.percentComplete 99
      completedAt := if content.status = .completed then some (content.completedAt.getD now) else none } := by
  unfold normalizeTaskContent
  split
  · rfl
  · have least : (if 100 ≤ content.percentComplete then 99 else content.percentComplete) =
        min content.percentComplete 99 := by
      split <;> omega
    rw [least]

/-- A task that passes its schema stays what it is when its status has been seen to. -/
theorem normalizeTaskContent_normal {content stored : TaskContent} (normal : TaskContent.parse content = some content)
    (parses : TaskContent.parse (normalizeTaskContent content now) = some stored) :
    stored = normalizeTaskContent content now := by
  rw [normalizeTaskContent_eq] at parses ⊢
  obtain ⟨title, description, entry, due, -, categories, recurrence, source, -⟩ := taskContent_fields normal
  obtain ⟨title', description', entry', due', completed', categories', recurrence', source', status, priority, percent⟩ :=
    taskContent_fields parses
  have completed := optional_eq (fun _ _ => isoDateTimeSchema_eq) completed'
  cases stored
  simp_all only [Option.some.injEq]

theorem stamped_normal {content stored : Content kind} (normal : contentSchema letters kind content = some content)
    (parses : contentSchema letters kind (stamped kind content now) = some stored) :
    stored = stamped kind content now := by
  cases kind with
  | task => exact normalizeTaskContent_normal normal parses
  | contact => exact (Option.some.inj (normal.symm.trans parses)).symm
  | mailingList => exact (Option.some.inj (normal.symm.trans parses)).symm
  | calendarEvent => exact (Option.some.inj (normal.symm.trans parses)).symm

/-- What a record of a calendar asks for, of a state where no record of the other kind has its UID. -/
def componentAsks (kind other : PimEntityKind) (s : PersistedPimState) (now : JsString) (input : CreateInput kind) :
    Option (JsString × Content kind) :=
  (input.uid.filter fun uid => !isKnown s other uid).map fun uid => (uid, stamped kind input.content now)

theorem componentAsks_eq {other : PimEntityKind} {input : CreateInput kind} {content : Content kind} :
    componentAsks kind other s now input = some (uid, content) ↔
      input.uid = some uid ∧ isKnown s other uid = false ∧ stamped kind input.content now = content := by
  simp only [componentAsks, Option.map_eq_some_iff, Option.filter_eq_some_iff, Prod.mk.injEq, Bool.not_eq_true']
  constructor
  · rintro ⟨_, ⟨isUid, free⟩, rfl, same⟩
    exact ⟨isUid, free, same⟩
  · rintro ⟨isUid, free, same⟩
    exact ⟨uid, ⟨isUid, free⟩, rfl, same⟩

theorem importComponent_stores {other : PimEntityKind} {input : CreateInput kind} {imported : Imported kind}
    (normal : createSchema letters kind input = some input)
    (ok : importComponent letters env kind other .update input now draft = .ok (draft', imported)) :
    ∃ uid content, componentAsks kind other draft.state now input = some (uid, content) ∧
      Stores kind uid content draft.state draft'.state imported.1 := by
  obtain ⟨parsed, isInput, ok₁⟩ := bind_eq_ok ok
  rw [orInvalid_ok, normal, Option.some.injEq] at isInput
  subst isInput
  obtain ⟨uid, isGiven, ok₂⟩ := bind_eq_ok ok₁
  rw [orInvalid_ok] at isGiven
  obtain ⟨uids, normalContent⟩ := createSchema_ok normal
  have isUid := uids uid isGiven
  by_cases taken : (isHistoricalUid draft.state kind uid && (draft.state.find kind uid).isNone ||
      isKnown draft.state other uid) = true
  · simp only [if_pos taken] at ok₂
    cases ok₂
  · simp only [if_neg taken] at ok₂
    obtain ⟨content, isContent, ok₃⟩ := bind_eq_ok ok₂
    have settled := normalizeContent_settled normalContent isContent
    rw [normalizeContent_stamped, Except.ok.injEq] at isContent
    subst isContent
    have free : isKnown draft.state other uid = false := by
      simp only [Bool.or_eq_true, not_or, Bool.not_eq_true] at taken
      exact taken.2
    refine ⟨uid, stamped kind input.content now, componentAsks_eq.2 ⟨isGiven, free, rfl⟩, ?_⟩
    cases found : draft.state.find kind uid with
    | some current =>
      simp only [found] at ok₃
      obtain ⟨⟨merged, outcome⟩, merges, ok₄⟩ := bind_eq_ok ok₃
      obtain ⟨stored, isStored, stores⟩ := mergeRecord_stores isUid found settled merges
      rw [← stamped_normal normalContent isStored]
      cases ok₄
      split
      · rename_i changes
        refine stores.countMutation fun unchanged => ?_
        rw [stores.changes.2 unchanged] at changes
        cases changes
      · exact stores
    | none =>
      simp only [found] at ok₃
      obtain ⟨⟨inserted, entity⟩, inserts, ok₄⟩ := bind_eq_ok ok₃
      obtain ⟨stored, isStored, stores⟩ := insertEntity_stores isUid found inserts
      rw [← stamped_normal normalContent isStored]
      cases ok₄
      exact stores.countMutation nofun

/-- A record of a calendar whose entity has the content that it asks for changes nothing. -/
theorem importComponent_again {other : PimEntityKind} {input : CreateInput kind} {content : Content kind}
    (ledger : Ledger letters draft.state) (normal : createSchema letters kind input = some input)
    (asks : componentAsks kind other draft.state now input = some (uid, content))
    (has : Has draft.state kind uid content) :
    ∃ entity, importComponent letters env kind other .update input now draft = .ok (draft, .unchanged, some entity) := by
  obtain ⟨isGiven, free, rfl⟩ := componentAsks_eq.1 asks
  obtain ⟨entity, found, same⟩ := has
  have merges := mergeRecord_again env now ledger found same
  refine ⟨entity, ?_⟩
  simp only [importComponent, normal, isGiven, orInvalid, found, free, normalizeContent_stamped, bind, Except.bind,
    Option.isNone_some, Bool.and_false, Bool.or_false, Bool.false_eq_true, if_false, merges]
  rfl

def cardAsks (input : CreateInput kind) : Option (JsString × Content kind) :=
  input.uid.map fun uid => (uid, input.content)

theorem cardAsks_eq {input : CreateInput kind} {content : Content kind} :
    cardAsks input = some (uid, content) ↔ input.uid = some uid ∧ input.content = content := by
  cases isUid : input.uid <;> simp [cardAsks, isUid]

/-- A card whose UID is given is stored under it. -/
theorem importCard_stores {input : CreateInput kind} {imported : Imported kind}
    (normal : createSchema letters kind input = some input) (isGiven : input.uid = some uid)
    (ok : importCard letters env kind input now draft = .ok (draft', imported)) :
    Stores kind uid input.content draft.state draft'.state imported.1 := by
  obtain ⟨uids, normalContent⟩ := createSchema_ok normal
  have isUid := uids uid isGiven
  have settled := settled_of_parsed normalContent
  unfold importCard at ok
  rw [isGiven] at ok
  obtain ⟨⟨drawn, given⟩, draws, ok₁⟩ := bind_eq_ok ok
  cases draws
  cases found : draft.state.find kind uid with
  | some current =>
    simp only [found] at ok₁
    obtain ⟨stored, isStored, stores⟩ := mergeRecord_stores isUid found settled ok₁
    rw [normalContent, Option.some.injEq] at isStored
    rwa [isStored]
  | none =>
    simp only [found] at ok₁
    split at ok₁
    · cases ok₁
    · obtain ⟨⟨inserted, entity⟩, inserts, ok₂⟩ := bind_eq_ok ok₁
      obtain ⟨stored, isStored, stores⟩ := insertEntity_stores isUid found inserts
      cases ok₂
      rw [normalContent, Option.some.injEq] at isStored
      rwa [isStored]

theorem importCard_again {input : CreateInput kind} (env : Surroundings) (now : JsString)
    (ledger : Ledger letters draft.state) (isGiven : input.uid = some uid) (has : Has draft.state kind uid input.content) :
    ∃ entity, importCard letters env kind input now draft = .ok (draft, .unchanged, some entity) := by
  obtain ⟨entity, found, same⟩ := has
  refine ⟨entity, ?_⟩
  simp only [importCard, isGiven, requestedUid, bind, Except.bind, found]
  exact mergeRecord_again env now ledger found same

end Records

section Bulk

/-- Records are imported one after another, each storing what it asks for. -/
inductive StoresAll (asks : α → Option (JsString × Content kind)) :
    List α → PersistedPimState → List ImportOutcome → PersistedPimState → Prop where
  | nil {s : PersistedPimState} : StoresAll asks [] s [] s
  | cons {record : α} {records : List α} {uid : JsString} {content : Content kind} {outcome : ImportOutcome}
      {outcomes : List ImportOutcome} {s m s' : PersistedPimState} (isAsked : asks record = some (uid, content))
      (stores : Stores kind uid content s m outcome) (rest : StoresAll asks records m outcomes s') :
      StoresAll asks (record :: records) s (outcome :: outcomes) s'

/-- Nothing happens to the other kinds. -/
structure Elsewhere (kind : PimEntityKind) (s s' : PersistedPimState) : Prop where
  collection : ∀ other, other ≠ kind → s'.collection other = s.collection other
  history : ∀ other uid, other ≠ kind → isHistoricalUid s' other uid = isHistoricalUid s other uid

theorem Elsewhere.refl : Elsewhere kind s s := ⟨fun _ _ => rfl, fun _ _ _ => rfl⟩

theorem Elsewhere.trans (first : Elsewhere kind s m) (second : Elsewhere kind m s') : Elsewhere kind s s' where
  collection := fun other differ => (second.collection other differ).trans (first.collection other differ)
  history := fun other uid differ => (second.history other uid differ).trans (first.history other uid differ)

theorem Elsewhere.isKnown (elsewhere : Elsewhere kind s s') {other : PimEntityKind} (differ : other ≠ kind)
    (uid : JsString) : isKnown s' other uid = isKnown s other uid := by
  unfold Pim.isKnown
  rw [elsewhere.collection other differ, elsewhere.history other uid differ]

theorem Puts.elsewhere {content : Content kind} (puts : Puts kind uid content s s') : Elsewhere kind s s' where
  collection := puts.others
  history := fun other otherUid differ => puts.history other otherUid (Or.inl differ)

variable {asks : α → Option (JsString × Content kind)} {records : List α} {outcomes : List ImportOutcome}

/-- An import stores all its records if each import of one, on its way, stores it. -/
theorem importAll_stores {importOne : α → Draft → Except PimError (Draft × Imported kind)}
    {results : List (Imported kind)}
    (each : ∀ record ∈ records, ∀ draft draft' imported, Elsewhere kind s draft.state →
      importOne record draft = .ok (draft', imported) → ∃ uid content, asks record = some (uid, content) ∧
        Stores kind uid content draft.state draft'.state imported.1)
    (elsewhere : Elsewhere kind s draft.state) (ok : importAll importOne records draft = .ok (draft', results)) :
    StoresAll asks records draft.state (results.map (·.1)) draft'.state := by
  induction records generalizing draft results with
  | nil =>
    cases ok
    exact .nil
  | cons record records ih =>
    obtain ⟨⟨between, imported⟩, one, ok₁⟩ := bind_eq_ok ok
    obtain ⟨⟨after, rest⟩, others, ok₂⟩ := bind_eq_ok ok₁
    cases ok₂
    obtain ⟨uid, content, isAsked, stores⟩ := each record List.mem_cons_self draft between imported elsewhere one
    exact .cons isAsked stores (ih (fun other member => each other (List.mem_cons_of_mem _ member))
      (elsewhere.trans stores.puts.elsewhere) others)

theorem StoresAll.elsewhere (all : StoresAll asks records s outcomes s') : Elsewhere kind s s' := by
  induction all with
  | nil => exact Elsewhere.refl
  | cons _ stores _ ih => exact stores.puts.elsewhere.trans ih

theorem StoresAll.asked (all : StoresAll asks records s outcomes s') :
    ∀ record ∈ records, ∃ uid content, asks record = some (uid, content) := by
  induction all with
  | nil => simp
  | cons isAsked _ _ ih => exact List.forall_mem_cons.2 ⟨⟨_, _, isAsked⟩, ih⟩

/-- Nothing happens to a UID that no record asks for. -/
theorem StoresAll.untouched (all : StoresAll asks records s outcomes s')
    (apart : ∀ record ∈ records, ∀ content, asks record ≠ some (uid, content)) :
    isKnown s' kind uid = isKnown s kind uid := by
  induction all with
  | nil => rfl
  | @cons _ _ asked _ _ _ _ _ _ isAsked stores _ ih =>
    obtain ⟨first, others⟩ := List.forall_mem_cons.1 apart
    have differ : uid ≠ asked := by
      rintro rfl
      exact first _ isAsked
    rw [ih others, isKnown_eq, isKnown_eq, stores.puts.same uid differ, stores.puts.history kind uid (Or.inr differ)]

theorem StoresAll.keeps {content : Content kind} (all : StoresAll asks records s outcomes s')
    (agree : ∀ record ∈ records, ∀ other, asks record = some (uid, other) → other = content)
    (has : Has s kind uid content) : Has s' kind uid content := by
  induction all with
  | nil => exact has
  | @cons record records askedUid asked _ _ s m s' isAsked stores _ ih =>
    obtain ⟨first, others⟩ := List.forall_mem_cons.1 agree
    refine ih others ?_
    by_cases same : askedUid = uid
    · subst same
      rw [← first _ isAsked]
      exact stores.puts.live
    · obtain ⟨entity, found, isContent⟩ := has
      exact ⟨entity, (stores.puts.same uid (Ne.symm same)).trans found, isContent⟩

theorem StoresAll.stored {content : Content kind} (all : StoresAll asks records s outcomes s')
    (agree : ∀ record ∈ records, ∀ other, asks record = some (uid, other) → other = content) {record : α}
    (member : record ∈ records) (isAsked : asks record = some (uid, content)) : Has s' kind uid content := by
  induction all with
  | nil => cases member
  | cons asksFirst stores rest ih =>
    obtain ⟨-, others⟩ := List.forall_mem_cons.1 agree
    rcases List.mem_cons.1 member with rfl | later
    · rw [asksFirst, Option.some.injEq, Prod.mk.injEq] at isAsked
      obtain ⟨rfl, rfl⟩ := isAsked
      exact rest.keeps others stores.puts.live
    · exact ih others later

theorem Puts.isKnown {content : Content kind} (puts : Puts kind uid content s s') : isKnown s' kind uid = true := by
  obtain ⟨entity, found, -⟩ := puts.live
  rw [isKnown_eq, found]
  rfl

theorem StoresAll.knows (all : StoresAll asks records s outcomes s') (known : isKnown s kind uid = true) :
    isKnown s' kind uid = true := by
  induction all with
  | nil => exact known
  | @cons _ _ asked _ _ _ s m s' _ stores _ ih =>
    refine ih ?_
    by_cases same : asked = uid
    · exact same ▸ stores.puts.isKnown
    · have differ := Ne.symm same
      rwa [isKnown_eq, stores.puts.same uid differ, stores.puts.history kind uid (Or.inr differ), ← isKnown_eq]

theorem StoresAll.live (all : StoresAll asks records s outcomes s') {record : α} {content : Content kind}
    (member : record ∈ records) (isAsked : asks record = some (uid, content)) : isKnown s' kind uid = true := by
  induction all with
  | nil => cases member
  | cons asksFirst stores rest ih =>
    rcases List.mem_cons.1 member with rfl | later
    · rw [asksFirst, Option.some.injEq, Prod.mk.injEq] at isAsked
      exact rest.knows (isAsked.1 ▸ stores.puts.isKnown)
    · exact ih later

/-- Where every outcome is unchanged, nothing has happened, and every record has found what it asks for. -/
theorem StoresAll.unchanged (all : StoresAll asks records s outcomes s')
    (unchanged : ∀ outcome ∈ outcomes, outcome = .unchanged) :
    s' = s ∧ ∀ record ∈ records, ∃ uid content, asks record = some (uid, content) ∧ Has s kind uid content := by
  induction all with
  | nil => simp
  | cons isAsked stores _ ih =>
    obtain ⟨first, others⟩ := List.forall_mem_cons.1 unchanged
    obtain ⟨still, rest⟩ := ih others
    have same := stores.still first
    subst same
    exact ⟨still, List.forall_mem_cons.2 ⟨⟨_, _, isAsked, stores.unchanged.1 first⟩, rest⟩⟩

theorem StoresAll.still (all : StoresAll asks records s outcomes s')
    (idle : ∀ outcome ∈ outcomes, outcome.changes = false) : s' = s := by
  induction all with
  | nil => rfl
  | cons _ stores _ ih =>
    obtain ⟨first, others⟩ := List.forall_mem_cons.1 idle
    rw [ih others, stores.still (stores.changes.1 first)]

/-- An import of which every record changes nothing changes nothing. -/
theorem importAll_again {importOne : α → Draft → Except PimError (Draft × Imported kind)}
    (each : ∀ record ∈ records, ∃ entity, importOne record draft = .ok (draft, .unchanged, entity)) :
    ∃ results, importAll importOne records draft = .ok (draft, results) ∧
      results.map (·.1) = List.replicate records.length .unchanged := by
  induction records with
  | nil => exact ⟨[], rfl, rfl⟩
  | cons record records ih =>
    obtain ⟨⟨entity, one⟩, others⟩ := List.forall_mem_cons.1 each
    obtain ⟨results, rest, unchanged⟩ := ih others
    refine ⟨(.unchanged, entity) :: results, ?_, by simp [unchanged, List.replicate_succ]⟩
    simp only [importAll, one, rest, bind, Except.bind]
    rfl

end Bulk

end Pim
