import MaterialEmail.Pim.Operations

/-! The history of the personal information manager stays, and every transaction in it can be gone back
behind: restoring brings the content from before it. -/
namespace Pim

open Fallible

variable {letters : LetterCase} {s : PersistedPimState} {env : Surroundings} {kind : PimEntityKind} {uid : JsString}
  {draft : Draft}

/-- The clock tells a time and the factory makes identifiers that are new soon enough. -/
structure Available (env : Surroundings) (s : PersistedPimState) : Prop where
  clock : ∃ instant, env.clock = some instant ∧ JsDate.InFourDigitYears instant
  ids : ∃ n ≤ 100, (∀ k ≤ n, (uidSchema (env.ids k)).isSome) ∧
    ∀ id ∈ uidSchema (env.ids n), id ∉ s.transactions.map (·.id)

section Succeeding

theorem Available.now (available : Available env s) : ∃ now, env.now = .ok now ∧ isoDateTimeSchema now = some now := by
  obtain ⟨instant, isInstant, inYears⟩ := available.clock
  obtain ⟨time, isTime, -⟩ := JsDate.readDateTime_toISOString inYears
  refine ⟨JsDate.toISOString instant, by simp [Surroundings.now, isInstant], ?_⟩
  unfold isoDateTimeSchema
  rw [isTime, JsDate.length_toISOString inYears]
  simp

theorem drawUid_succeeds {taken : JsString → Bool} {n : Nat} (exhausted : PimError) (attempts : Nat)
    (inReach : draft.drawn ≤ n ∧ n < draft.drawn + attempts) (valid : ∀ k ≤ n, (uidSchema (env.ids k)).isSome)
    (free : ∀ id ∈ uidSchema (env.ids n), taken id = false) :
    ∃ draft' id, drawUid env taken exhausted attempts draft = .ok (draft', id) := by
  induction attempts generalizing draft with
  | zero => omega
  | succ attempts ih =>
    obtain ⟨id, isId⟩ := Option.isSome_iff_exists.1 (valid draft.drawn inReach.1)
    unfold drawUid
    rw [isId]
    by_cases isTaken : taken id = true
    · have later : draft.drawn ≠ n := by
        rintro rfl
        rw [free id isId] at isTaken
        cases isTaken
      have inReach' : draft.drawn + 1 ≤ n ∧ n < draft.drawn + 1 + attempts := by omega
      obtain ⟨draft', id', draws⟩ := @ih { draft with drawn := draft.drawn + 1 } inReach'
      refine ⟨draft', id', ?_⟩
      simp only [orInvalid, bind, Except.bind, isTaken, if_true]
      exact draws
    · exact ⟨_, id, by simp only [orInvalid, bind, Except.bind, isTaken]; rfl⟩

theorem record_succeeds {action : TransactionAction} {now : JsString} {before after : Option (Entity kind)}
    (isUid : uidSchema uid = some uid) (isMoment : isoDateTimeSchema now = some now)
    (befores : ∀ entity ∈ before, Normal letters entity ∧ entity.uid = uid)
    (afters : ∀ entity ∈ after, Normal letters entity ∧ entity.uid = uid)
    (snapshots : action.Snapshots before after) (positive : 0 < draft.state.nextTransactionSequence)
    (first : draft.drawn = 0) (available : Available env draft.state) :
    ∃ draft', record letters env action kind uid before after now draft = .ok draft' := by
  obtain ⟨n, inReach, valid, free⟩ := available.ids
  have isBefore := optional_normal.2 fun entity member => (befores entity member).1
  have isAfter := optional_normal.2 fun entity member => (afters entity member).1
  have unused : ∀ id ∈ uidSchema (env.ids n), (draft.state.transactions.any fun t => t.id = id) = false := by
    simpa using free
  have reaches : draft.drawn ≤ n ∧ n < draft.drawn + 101 := by omega
  obtain ⟨drawn, id, draws⟩ := drawUid_succeeds
    (.conflict (JsString.ofString "Could not allocate a unique PIM transaction UID.")) 101 reaches valid unused
  obtain ⟨isId, -, same⟩ := drawUid_ok draws
  have isTransaction : pimTransactionSchema letters
      ⟨id, drawn.state.nextTransactionSequence, now, action, kind, uid, before, after⟩ = some
      ⟨id, drawn.state.nextTransactionSequence, now, action, kind, uid, before, after⟩ := by
    refine transaction_normal.2 ⟨isId, isMoment, isUid, fun entity member => (befores entity member).1,
      fun entity member => (afters entity member).1, ?_, fun entity member => (befores entity member).2,
      fun entity member => (afters entity member).2, snapshots⟩
    rw [same]
    exact positive
  unfold record
  simp only [isBefore, isAfter, orInvalid, bind, Except.bind, draws, isTransaction]
  exact ⟨_, rfl⟩

theorem mutate_succeeds {mutator : Draft → Except PimError (Draft × Decision α)} {draft : Draft} {result : α}
    (ends : mutator ⟨s, 0⟩ = .ok (draft, ⟨true, result⟩)) (ledger : Ledger letters draft.state) :
    mutate letters mutator s = .ok (draft.state, result) := by
  unfold mutate
  simp only [ends, bind, Except.bind, if_true, ledger.persists, orInvalid]
  rfl

end Succeeding

section Restoring

variable {t : PimTransaction}

theorem restoreSource_of_mem (ledger : Ledger letters s) (member : t ∈ s.transactions) :
    restoreSource s t.entityKind t.entityUid (some t.id) = t.before.or t.after := by
  have found : (s.transactions.find? fun candidate =>
      candidate.id = t.id && candidate.concerns t.entityKind t.entityUid) = some t := by
    cases found : s.transactions.find? fun candidate =>
        candidate.id = t.id && candidate.concerns t.entityKind t.entityUid with
    | none =>
      have absent := List.find?_eq_none.1 found t member
      simp [PimTransaction.concerns] at absent
    | some other =>
      have isMember := List.mem_of_find?_eq_some found
      have same := List.find?_some found
      simp only [Bool.and_eq_true, decide_eq_true_eq] at same
      rw [List.inj_on_of_nodup_map ledger.ids isMember member same.1]
  obtain ⟨-, -, -, -, -, -, -, -, snapshots⟩ := transaction_normal.1 (ledger.normal t member)
  unfold restoreSource
  simp only [found, bind, Option.bind, snapshots_self]
  split
  · rename_i isCreated
    rw [isCreated] at snapshots
    rw [Option.isNone_iff_eq_none.1 snapshots.1]
    rfl
  · rfl

/-- Content that is not live is restored under the next revision. -/
theorem restoreIn_changes {transactionId : Option JsString} {source : Entity kind} (ledger : Ledger letters s)
    (available : Available env s) (isSource : restoreSource s kind uid transactionId = some source)
    (different : ∀ live ∈ s.find kind uid, live.content ≠ source.content) :
    ∃ draft entity, restoreIn letters env kind uid transactionId ⟨s, 0⟩ = .ok (draft, ⟨true, entity⟩) ∧
      draft.state.find kind uid = some entity ∧ entity.content = source.content ∧
      entity.revision = latestRevision s kind uid + 1 := by
  obtain ⟨normal, rfl⟩ := restoreSource_normal ledger isSource
  obtain ⟨now, isNow, isMoment⟩ := available.now
  obtain ⟨isUid, isContent, isCreatedAt, -, -⟩ := normal_iff.1 normal
  let restored : Entity kind := { source with updatedAt := now, revision := latestRevision s kind source.uid + 1 }
  have normalRestored : Normal letters restored :=
    normal_iff.2 ⟨isUid, isContent, isCreatedAt, isMoment, Nat.succ_pos _⟩
  have filtered : (s.find kind source.uid).filter (fun entity => entity.content = source.content) = none := by
    rw [Option.filter_eq_none_iff]
    intro live found
    simpa using different live found
  let working : Draft := Draft.setCollection ⟨s, 0⟩ kind (Keyed.put Entity.uid restored (s.collection kind))
  have befores : ∀ entity ∈ s.find kind source.uid, Normal letters entity ∧ entity.uid = source.uid :=
    fun entity found => ledger.normal_live found
  have afters : ∀ entity ∈ some restored, Normal letters entity ∧ entity.uid = source.uid := by
    rintro entity ⟨⟩
    exact ⟨normalRestored, rfl⟩
  have available' : Available env working.state := ⟨available.clock, available.ids⟩
  have snapshots : TransactionAction.restored.Snapshots (s.find kind source.uid) (some restored) := by
    simp [TransactionAction.Snapshots]
  obtain ⟨recorded, records⟩ :=
    record_succeeds isUid isMoment befores afters snapshots ledger.positive rfl available'
  obtain ⟨id, -, -, state⟩ := record_ok isUid (fun entity member => (befores entity member).1)
    (fun entity member => (afters entity member).1) records
  have found : recorded.state.find kind source.uid = some restored := by
    rw [state]
    unfold PersistedPimState.find
    simp only [working, Draft.setCollection, PersistedPimState.setCollection, Function.update_self]
    rw [Keyed.get_put, if_pos rfl]
  refine ⟨recorded.countMutation kind, restored, ?_, ?_, rfl, rfl⟩
  · have parsed : orInvalid (entitySchema letters kind { source with
        updatedAt := now, revision := latestRevision s kind source.uid + 1 }) = .ok restored :=
      orInvalid_ok.2 normalRestored
    simp only [working] at records
    unfold restoreIn
    simp only [isSource, filtered, isNow, bind, Except.bind, parsed, records]
    rfl
  · cases kind <;> exact found

theorem greatest_max (ledger : Ledger letters s) (member : t ∈ s.transactions) :
    (revisionsOf t.entityKind t.entityUid s.transactions).max? =
      some (greatestRevision t.entityKind t.entityUid s.transactions) := by
  rw [List.max?_eq_some_iff]
  exact ⟨ledger.attained _ _ t member (concerns_iff.2 ⟨rfl, rfl⟩), ledger.bounded _ _⟩

/-- A request for the content of a source has brought it back. -/
def BroughtBack (kind : PimEntityKind) (uid : JsString) (source : Entity kind) (s : PersistedPimState)
    (outcome : Except PimError (PersistedPimState × Entity kind)) : Prop :=
  ∃ s' entity, outcome = .ok (s', entity) ∧ s'.find kind uid = some entity ∧ entity.content = source.content ∧
    ((∃ live, s.find kind uid = some live ∧ live.content = source.content) → s' = s) ∧
    ((∀ live, s.find kind uid = some live → live.content ≠ source.content) →
      ∃ used, (revisionsOf kind uid s.transactions).max? = some used ∧ entity.revision = used + 1)

theorem restore_succeeds {source : Entity t.entityKind} (ledger : Ledger letters s) (member : t ∈ s.transactions)
    (available : Available env s) (isSource : t.before.or t.after = some source) :
    BroughtBack t.entityKind t.entityUid source s
      (restore letters env t.entityKind t.entityUid (some t.id) s) := by
  obtain ⟨isId, -, isUid, -⟩ := transaction_normal.1 (ledger.normal t member)
  have isId' : optional uidSchema (some t.id) = some (some t.id) := by simp [optional, isId]
  have begins : restore letters env t.entityKind t.entityUid (some t.id) s =
      mutate letters (restoreIn letters env t.entityKind t.entityUid (some t.id)) s := by
    unfold restore
    simp only [isUid, isId', orInvalid, bind, Except.bind]
  have found := (restoreSource_of_mem ledger member).trans isSource
  rw [begins]
  by_cases same : ∃ live, s.find t.entityKind t.entityUid = some live ∧ live.content = source.content
  · obtain ⟨live, isLive, sameContent⟩ := same
    refine ⟨s, live, ?_, isLive, sameContent, fun _ => rfl, fun different => absurd sameContent (different live isLive)⟩
    unfold mutate restoreIn
    simp [found, isLive, sameContent, Option.filter, bind, Except.bind, pure, Except.pure]
  · have different : ∀ live ∈ s.find t.entityKind t.entityUid, live.content ≠ source.content :=
      fun live isLive sameContent => same ⟨live, isLive, sameContent⟩
    obtain ⟨draft, entity, ends, isLive, sameContent, revision⟩ := restoreIn_changes ledger available found different
    have ledger' := (restoreIn_ok ledger isUid ends).ledger ledger
    refine ⟨draft.state, entity, mutate_succeeds ends ledger', isLive, sameContent, fun is => absurd is same, fun _ => ?_⟩
    rw [ledger.latestRevision] at revision
    exact ⟨_, greatest_max ledger member, revision⟩

theorem snapshot_exists (normal : pimTransactionSchema letters t = some t) : ∃ source, t.before.or t.after = some source := by
  obtain ⟨-, -, -, -, -, -, -, -, snapshots⟩ := transaction_normal.1 normal
  cases before : t.before with
  | some entity => exact ⟨entity, rfl⟩
  | none =>
    cases after : t.after with
    | some entity => exact ⟨entity, rfl⟩
    | none => exact absurd before (snapshots_some snapshots after)

end Restoring

section Creation

def Request.CreatesAnew : Request → Prop
  | .restore _ _ _ => False
  | _ => True

theorem allows_not_restored {request : Request} (anew : request.CreatesAnew) {action : TransactionAction}
    (allowed : request.Allows action) : action ≠ .restored := by
  rintro rfl
  cases request with
  | restore kind uid id => exact anew
  | create kind input => cases allowed
  | update kind uid patch => cases allowed
  | delete kind uid => cases allowed
  | importVCard parsed => rcases allowed with is | is <;> cases is
  | importICalendar parsed policy => rcases allowed with is | is <;> cases is
  | refreshTasks requestId latestRequest baseline rawTasks => rcases allowed with is | is <;> cases is

/-- An entity that comes to be without being restored has a UID without history. -/
theorem unknown_of_new {s' : PersistedPimState} {allowed : TransactionAction → Prop}
    (anew : ∀ action, allowed action → action ≠ .restored) (grows : Grows letters allowed s s')
    (absent : s.find kind uid = none) (present : s'.find kind uid ≠ none) : isHistoricalUid s kind uid = false := by
  induction grows with
  | refl => exact absurd absent present
  | count _ version ih => exact ih present
  | @record m s' t grown fits isAllowed records ih =>
    by_cases already : m.find kind uid = none
    · rw [records.find fits.normal] at present
      split at present
      · rename_i concerns
        obtain ⟨rfl, rfl⟩ := concerns_iff.1 concerns
        rw [snapshots_self] at present
        obtain ⟨-, -, -, -, -, -, -, -, snapshots⟩ := transaction_normal.1 fits.normal
        have isCreated := snapshots_created snapshots (fits.before.trans already) (anew _ isAllowed)
        have unknown := historical_iff.1 (fits.created isCreated)
        obtain ⟨added, same, -⟩ := grown.append_only
        rw [historical_iff]
        intro other member
        exact unknown other (by rw [same]; exact List.mem_append_left _ member)
      · exact absurd already present
    · exact ih already

end Creation

section Histories

/-- What an entity was before a transaction, by what was recorded earlier; after it, if it was not there. -/
def priorTo (earlier : List PimTransaction) (t : PimTransaction) : Option (Entity t.entityKind) :=
  (Keyed.get Entity.uid t.entityUid (replayed t.entityKind earlier)).or t.after

/-- What holds of the history of a state, whatever is requested from then on. -/
structure LastingHistory (letters : LetterCase) (s : PersistedPimState) : Prop where
  /-- No request removes or alters a transaction. -/
  appendOnly : ∀ env request, s.transactions <+: (perform letters env request s).transactions
  /-- Every transaction can be gone back behind, however much has happened since. -/
  restorable : ∀ earlier t later, s.transactions = earlier ++ t :: later → ∀ requests env,
    Available env (run letters s requests) → ∃ source, priorTo earlier t = some source ∧
      BroughtBack t.entityKind t.entityUid source (run letters s requests)
        (restore letters env t.entityKind t.entityUid (some t.id) (run letters s requests))
  /-- A UID with a history is not given to a new entity. -/
  unused : ∀ earlier t later, s.transactions = earlier ++ t :: later → t.action = .created →
    ∀ other ∈ earlier, other.concerns t.entityKind t.entityUid = false
  created : ∀ env request kind uid, Request.CreatesAnew request → s.find kind uid = none →
    (perform letters env request s).find kind uid ≠ none → isHistoricalUid s kind uid = false

theorem Ledger.lasting (ledger : Ledger letters s) : LastingHistory letters s where
  appendOnly := by
    intro env request
    obtain ⟨added, same, -⟩ := (perform_grows ledger request : Grows letters _ s (perform letters env request s)).append_only
    exact ⟨added, same.symm⟩
  restorable := by
    intro earlier t later split requests env available
    have grown := run_grows ledger requests
    have ledger' := grown.ledger ledger
    obtain ⟨added, same, -⟩ := grown.append_only
    have member : t ∈ s.transactions := by
      rw [split]
      simp
    have isBefore := ledger.befores earlier t later split
    obtain ⟨source, isSource⟩ := snapshot_exists (ledger.normal t member)
    have later : t ∈ (run letters s requests).transactions := by
      rw [same]
      exact List.mem_append_left _ member
    exact ⟨source, by rw [priorTo, ← isBefore, isSource], restore_succeeds ledger' later available isSource⟩
  unused := ledger.created
  created := by
    intro env request kind uid anew absent present
    exact unknown_of_new (fun _ => allows_not_restored anew) (perform_grows ledger request) absent present

theorem history_lasts (letters : LetterCase) (requests : List (Surroundings × Request)) :
    LastingHistory letters (run letters .empty requests) :=
  (run_ledger requests).lasting

end Histories

section Example

open JsString

def exampleClock (ids : List JsString) : Surroundings := ⟨some 1785499200123, fun n => ids.getD n []⟩

def exampleCreated : PersistedPimState :=
  run LetterCase.ascii .empty [(exampleClock [ofString "list-1", ofString "t-1"],
    .create .mailingList ⟨none, ({ name := ofString "Friends" } : MailingListContent)⟩)]

def exampleDeleted : PersistedPimState :=
  run LetterCase.ascii exampleCreated [(exampleClock [ofString "t-2"], .delete .mailingList (ofString "list-1"))]

theorem deletedList_restorable : ∃ t, ∃ source, exampleCreated.transactions = [t] ∧
    BroughtBack t.entityKind t.entityUid source exampleDeleted
      (restore LetterCase.ascii (exampleClock [ofString "t-3"]) t.entityKind t.entityUid (some t.id) exampleDeleted) := by
  have one : exampleCreated.transactions.length = 1 := by decide +kernel
  obtain ⟨t, log⟩ := List.length_eq_one_iff.1 one
  have recorded : exampleDeleted.transactions.map (·.id) = [ofString "t-1", ofString "t-2"] := by decide +kernel
  have available : Available (exampleClock [ofString "t-3"]) exampleDeleted :=
    ⟨⟨_, rfl, by decide⟩, 0, by decide, by decide, by rw [recorded]; decide⟩
  obtain ⟨source, -, back⟩ := (history_lasts LetterCase.ascii _).restorable [] t [] log _ _ available
  exact ⟨t, source, log, back⟩
end Example

end Pim
