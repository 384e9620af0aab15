import MaterialEmail.Pim.History

/-! The ledger that the stored state of the personal information manager is: one transaction after
another, each fitting what was recorded before it, and the collections that follow from them. -/
namespace Pim

open EventLog

variable (letters : LetterCase)

/-- A transaction that may be recorded next. -/
structure Fits (s : PersistedPimState) (t : PimTransaction) : Prop where
  normal : pimTransactionSchema letters t = some t
  sequence : t.sequence = s.nextTransactionSequence
  fresh : t.id ∉ s.transactions.map (·.id)
  before : t.before = s.find t.entityKind t.entityUid
  created : t.action = .created → isHistoricalUid s t.entityKind t.entityUid = false
  revision : ∀ entity ∈ t.after, entity.revision = latestRevision s t.entityKind t.entityUid + 1

/-- A transaction is recorded and takes effect. -/
structure Records (t : PimTransaction) (s s' : PersistedPimState) : Prop where
  collection : ∀ kind, s'.collection kind = t.applyTo kind (s.collection kind)
  transactions : s'.transactions = s.transactions ++ [t]
  next : s'.nextTransactionSequence = s.nextTransactionSequence + 1

/-- The collections are what the log says, and the log is in order. -/
structure Ledger (s : PersistedPimState) : Prop where
  replayed : ∀ kind, s.collection kind = replayed kind s.transactions
  normal : ∀ t ∈ s.transactions, pimTransactionSchema letters t = some t
  ids : (s.transactions.map (·.id)).Nodup
  sequences : s.transactions.Pairwise (·.sequence < ·.sequence)
  below : ∀ t ∈ s.transactions, t.sequence < s.nextTransactionSequence
  positive : 0 < s.nextTransactionSequence
  befores : ∀ earlier t later, s.transactions = earlier ++ t :: later →
    t.before = Keyed.get Entity.uid t.entityUid (Pim.replayed t.entityKind earlier)
  created : ∀ earlier t later, s.transactions = earlier ++ t :: later → t.action = .created →
    ∀ other ∈ earlier, other.concerns t.entityKind t.entityUid = false
  revisions : ∀ kind uid, (revisionsOf kind uid s.transactions).Pairwise (· < ·)
  bounded : ∀ kind uid, ∀ revision ∈ revisionsOf kind uid s.transactions,
    revision ≤ greatestRevision kind uid s.transactions
  attained : ∀ kind uid, ∀ t ∈ s.transactions, t.concerns kind uid = true →
    greatestRevision kind uid s.transactions ∈ revisionsOf kind uid s.transactions
  latest : ∀ kind, ∀ entity ∈ s.collection kind, entity.revision = greatestRevision kind entity.uid s.transactions

variable {letters} {s s' : PersistedPimState} {t : PimTransaction} {kind : PimEntityKind} {uid : JsString}

theorem snapshots_before_normal (normal : pimTransactionSchema letters t = some t) :
    ∀ entity ∈ (t.snapshots kind).1, Normal letters entity ∧ entity.uid = t.entityUid := by
  by_cases same : t.entityKind = kind
  · subst same
    rw [snapshots_self]
    obtain ⟨-, -, -, normals, -, -, uids, -, -⟩ := transaction_normal.1 normal
    exact fun entity member => ⟨normals entity member, uids entity member⟩
  · rw [snapshots_other same]
    simp

theorem snapshots_normal (normal : pimTransactionSchema letters t = some t) :
    ∀ entity ∈ (t.snapshots kind).2, Normal letters entity ∧ entity.uid = t.entityUid := by
  by_cases same : t.entityKind = kind
  · subst same
    rw [snapshots_self]
    obtain ⟨-, -, -, -, normals, -, -, uids, -⟩ := transaction_normal.1 normal
    exact fun entity member => ⟨normals entity member, uids entity member⟩
  · rw [snapshots_other same]
    simp

section Readings

theorem Ledger.find (ledger : Ledger letters s) :
    s.find kind uid = (lastTransaction kind uid s.transactions).bind fun t => (t.snapshots kind).2 := by
  unfold PersistedPimState.find
  rw [ledger.replayed]
  exact find_replayed fun t member entity after => (snapshots_normal (ledger.normal t member) entity after).2

theorem Ledger.distinct (ledger : Ledger letters s) : ((s.collection kind).map Entity.uid).Nodup := by
  rw [ledger.replayed]
  exact nodup_replay

theorem Ledger.find_of_mem (ledger : Ledger letters s) {entity : Entity kind} (member : entity ∈ s.collection kind) :
    s.find kind entity.uid = some entity :=
  Keyed.get_of_mem ledger.distinct member

theorem lastTransaction_mem {log : List PimTransaction} (last : lastTransaction kind uid log = some t) :
    t ∈ log ∧ t.concerns kind uid = true :=
  List.mem_filter.1 (List.mem_of_getLast? last)

/-- Every live entity is the snapshot after its last transaction. -/
theorem Ledger.live (ledger : Ledger letters s) {entity : Entity kind} (found : s.find kind uid = some entity) :
    ∃ t, lastTransaction kind uid s.transactions = some t ∧ (t.snapshots kind).2 = some entity := by
  rw [ledger.find] at found
  exact Option.bind_eq_some_iff.1 found

theorem Ledger.normal_live (ledger : Ledger letters s) {entity : Entity kind}
    (found : s.find kind uid = some entity) : Normal letters entity ∧ entity.uid = uid := by
  obtain ⟨t, last, after⟩ := ledger.live found
  obtain ⟨member, concerns⟩ := lastTransaction_mem last
  obtain ⟨normal, isUid⟩ := snapshots_normal (ledger.normal t member) entity after
  exact ⟨normal, isUid.trans (concerns_iff.1 concerns).2⟩

/-- An entity is gone when its last transaction is a deletion. -/
theorem Ledger.absent (ledger : Ledger letters s) (last : lastTransaction kind uid s.transactions = some t) :
    s.find kind uid = none ↔ t.action = .deleted := by
  obtain ⟨member, concerns⟩ := lastTransaction_mem last
  obtain ⟨rfl, -⟩ := concerns_iff.1 concerns
  obtain ⟨-, -, -, -, -, -, -, -, snapshots⟩ := transaction_normal.1 (ledger.normal t member)
  rw [ledger.find, last, Option.bind_some, snapshots_self]
  exact snapshots_after snapshots

theorem Ledger.latestRevision (ledger : Ledger letters s) :
    latestRevision s kind uid = greatestRevision kind uid s.transactions := by
  rw [latestRevision_eq]
  cases found : s.find kind uid with
  | none => simp
  | some entity =>
    obtain ⟨member, rfl⟩ := Keyed.get_eq_some found
    have latest := ledger.latest kind entity member
    simp [latest]

theorem historical_iff : isHistoricalUid s kind uid = false ↔ ∀ t ∈ s.transactions, t.concerns kind uid = false := by
  simp [isHistoricalUid, PimTransaction.concerns]

theorem Ledger.find_of_unknown (ledger : Ledger letters s) (unknown : isHistoricalUid s kind uid = false) :
    s.find kind uid = none := by
  cases found : s.find kind uid with
  | none => rfl
  | some entity =>
    obtain ⟨t, last, -⟩ := ledger.live found
    obtain ⟨member, concerns⟩ := lastTransaction_mem last
    rw [historical_iff.1 unknown t member] at concerns
    cases concerns

theorem Ledger.latest_of_unknown (ledger : Ledger letters s) (unknown : isHistoricalUid s kind uid = false) :
    Pim.latestRevision s kind uid = 0 := by
  rw [ledger.latestRevision]
  have none : s.transactions.filter (·.concerns kind uid) = [] := by
    rw [List.filter_eq_nil_iff]
    intro t member
    simp [historical_iff.1 unknown t member]
  simp [greatestRevision, none]

end Readings

section Step

theorem Records.find (records : Records t s s') (normal : pimTransactionSchema letters t = some t) :
    s'.find kind uid = if t.concerns kind uid then (t.snapshots kind).2 else s.find kind uid := by
  unfold PersistedPimState.find
  rw [records.collection, get_applyTo fun entity after => (snapshots_normal normal entity after).2]

/-- The greatest revision that a fitting transaction mentions. -/
theorem Fits.greatest (fits : Fits letters s t) (ledger : Ledger letters s) :
    t.revision = greatestRevision t.entityKind t.entityUid s.transactions + (if t.after = none then 0 else 1) := by
  have before : (t.before.map (·.revision)).getD 0 ≤ greatestRevision t.entityKind t.entityUid s.transactions := by
    rw [fits.before, ← ledger.latestRevision, latestRevision_eq]
    omega
  unfold PimTransaction.revision
  cases after : t.after with
  | some entity =>
    have revision := fits.revision entity after
    rw [ledger.latestRevision] at revision
    simp only [Option.map_some, Option.getD_some, revision]
    simp
    omega
  | none =>
    obtain ⟨-, -, -, -, -, -, -, -, snapshots⟩ := transaction_normal.1 fits.normal
    cases found : t.before with
    | none => exact absurd found (snapshots_some snapshots after)
    | some entity =>
      have live := fits.before.symm.trans found
      obtain ⟨member, isUid⟩ := Keyed.get_eq_some live
      have latest := ledger.latest _ entity member
      rw [isUid] at latest
      simp [latest]

theorem split_concat {log earlier later : List PimTransaction} {last : PimTransaction}
    (split : log ++ [last] = earlier ++ t :: later) :
    (earlier = log ∧ t = last ∧ later = []) ∨ ∃ rest, later = rest ++ [last] ∧ log = earlier ++ t :: rest := by
  induction later using List.reverseRecOn with
  | nil =>
    obtain ⟨same, isLast⟩ := List.append_inj' split rfl
    simp only [List.cons.injEq, and_true] at isLast
    exact Or.inl ⟨same.symm, isLast.symm, rfl⟩
  | append_singleton rest final _ =>
    have split' : log ++ [last] = (earlier ++ t :: rest) ++ [final] := by simpa using split
    obtain ⟨same, isLast⟩ := List.append_inj' split' rfl
    simp only [List.cons.injEq, and_true] at isLast
    exact Or.inr ⟨rest, by rw [isLast], same⟩

theorem greatestRevision_mono {log : List PimTransaction} :
    greatestRevision kind uid log ≤ greatestRevision kind uid (log ++ [t]) := by
  rw [greatestRevision_concat]
  split <;> omega

/-- A ledger in which one more transaction is recorded is a ledger. -/
theorem Ledger.step (ledger : Ledger letters s) (fits : Fits letters s t) (records : Records t s s') :
    Ledger letters s' := by
  have greatest := fits.greatest ledger
  have known : ∀ kind uid, ∀ revision ∈ revisionsOf kind uid s.transactions,
      revision ≤ greatestRevision kind uid s.transactions := ledger.bounded
  constructor
  case replayed =>
    intro kind
    rw [records.collection, records.transactions, replayed_concat, ledger.replayed]
  case normal =>
    intro other member
    rw [records.transactions, List.mem_append, List.mem_singleton] at member
    rcases member with member | rfl
    · exact ledger.normal other member
    · exact fits.normal
  case ids =>
    rw [records.transactions, List.map_append]
    exact List.Nodup.append ledger.ids (List.nodup_singleton _) (by simpa using fits.fresh)
  case sequences =>
    rw [records.transactions, List.pairwise_append]
    refine ⟨ledger.sequences, List.pairwise_singleton _ _, ?_⟩
    intro earlier member last isLast
    rw [List.mem_singleton.1 isLast, fits.sequence]
    exact ledger.below earlier member
  case below =>
    intro other member
    rw [records.transactions, List.mem_append, List.mem_singleton] at member
    rw [records.next]
    rcases member with member | rfl
    · have := ledger.below other member
      omega
    · have := fits.sequence
      omega
  case positive =>
    rw [records.next]
    omega
  case befores =>
    intro earlier other later isSplit
    rw [records.transactions] at isSplit
    rcases split_concat isSplit with ⟨rfl, rfl, -⟩ | ⟨rest, -, inner⟩
    · rw [fits.before, ← ledger.replayed]
      rfl
    · exact ledger.befores earlier other rest inner
  case created =>
    intro earlier other later isSplit isCreated
    rw [records.transactions] at isSplit
    rcases split_concat isSplit with ⟨rfl, rfl, -⟩ | ⟨rest, -, inner⟩
    · exact historical_iff.1 (fits.created isCreated)
    · exact ledger.created earlier other rest inner isCreated
  case revisions =>
    intro kind uid
    rw [records.transactions, revisionsOf_concat]
    split
    · rename_i concerns
      obtain ⟨rfl, rfl⟩ := concerns_iff.1 concerns
      rw [snapshots_self, List.pairwise_append]
      refine ⟨ledger.revisions _ _, ?_, ?_⟩
      · cases t.after <;> simp
      · intro revision member written isWritten
        simp only [Option.mem_toList, Option.map_eq_some_iff] at isWritten
        obtain ⟨entity, after, rfl⟩ := isWritten
        have old := known _ _ revision member
        have new := fits.revision entity after
        rw [ledger.latestRevision] at new
        omega
    · simpa using ledger.revisions kind uid
  case bounded =>
    intro kind uid revision member
    rw [records.transactions] at member ⊢
    rw [revisionsOf_concat, List.mem_append] at member
    rcases member with member | member
    · exact Nat.le_trans (known kind uid revision member) greatestRevision_mono
    · split at member
      · rename_i concerns
        obtain ⟨rfl, rfl⟩ := concerns_iff.1 concerns
        rw [snapshots_self] at member
        simp only [Option.mem_toList, Option.map_eq_some_iff] at member
        obtain ⟨entity, after, rfl⟩ := member
        have new := fits.revision entity after
        rw [ledger.latestRevision] at new
        rw [greatestRevision_concat, if_pos concerns, greatest, after]
        simp
        omega
      · cases member
  case attained =>
    intro kind uid other member concerns
    rw [records.transactions] at member ⊢
    rw [greatestRevision_concat, revisionsOf_concat, List.mem_append]
    split
    · rename_i isLast
      obtain ⟨rfl, rfl⟩ := concerns_iff.1 isLast
      rw [snapshots_self]
      cases after : t.after with
      | some entity =>
        have new := fits.revision entity after
        rw [ledger.latestRevision] at new
        refine Or.inr ?_
        simp only [Option.map_some, Option.toList_some, List.mem_singleton, greatest, after, new]
        simp
      | none =>
        -- What is deleted was live, and so has been written before.
        obtain ⟨-, -, -, -, -, -, -, -, snapshots⟩ := transaction_normal.1 fits.normal
        obtain ⟨entity, isBefore⟩ := Option.ne_none_iff_exists'.1 (snapshots_some snapshots after)
        obtain ⟨last, isLastOf, -⟩ := ledger.live (fits.before.symm.trans isBefore)
        obtain ⟨inLog, lastConcerns⟩ := lastTransaction_mem isLastOf
        refine Or.inl ?_
        rw [greatest, after, if_pos rfl, Nat.add_zero, max_self]
        exact ledger.attained _ _ last inLog lastConcerns
    · rename_i elsewhere
      refine Or.inl (ledger.attained kind uid other ?_ concerns)
      rcases List.mem_append.1 member with old | new
      · exact old
      · rw [List.mem_singleton.1 new] at concerns
        exact absurd concerns elsewhere
  case latest =>
    intro kind entity member
    have distinct : ((s'.collection kind).map Entity.uid).Nodup := by
      rw [records.collection]
      exact nodup_applyTo ledger.distinct
    have found : s'.find kind entity.uid = some entity := Keyed.get_of_mem distinct member
    rw [records.find fits.normal] at found
    rw [records.transactions, greatestRevision_concat]
    split at found
    · rename_i concerns
      rw [if_pos concerns]
      obtain ⟨rfl, isUid⟩ := concerns_iff.1 concerns
      rw [snapshots_self] at found
      have new := fits.revision entity found
      rw [ledger.latestRevision] at new
      have isSome : t.after ≠ none := by simp [show t.after = some entity from found]
      rw [greatest, new, isUid, if_neg isSome]
      omega
    · rename_i elsewhere
      rw [if_neg elsewhere]
      exact ledger.latest kind entity (Keyed.get_eq_some found).1

end Step

end Pim
