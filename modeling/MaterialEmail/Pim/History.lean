import MaterialEmail.Pim.Service
import MaterialEmail.Pim.Schemas
import MaterialEmail.Library.EventLog

/-! The history of the personal information manager. Every change is recorded as a transaction, and the
live collections are what the replay of the recorded transactions gives. -/
namespace Pim

open EventLog

section Logs

theorem snapshots_self (transaction : PimTransaction) :
    transaction.snapshots transaction.entityKind = (transaction.before, transaction.after) := by
  simp [PimTransaction.snapshots]

theorem snapshots_other {transaction : PimTransaction} {kind : PimEntityKind} (other : transaction.entityKind ≠ kind) :
    transaction.snapshots kind = (none, none) := by
  simp [PimTransaction.snapshots, other]

theorem concerns_iff {transaction : PimTransaction} {kind : PimEntityKind} {uid : JsString} :
    transaction.concerns kind uid = true ↔ transaction.entityKind = kind ∧ transaction.entityUid = uid := by
  simp [PimTransaction.concerns]

/-- What a transaction says about the entities of a kind. -/
def PimTransaction.entry (transaction : PimTransaction) (kind : PimEntityKind) :
    Option (Entry JsString (Entity kind)) :=
  if transaction.entityKind = kind then
    some ⟨transaction.entityUid, (transaction.snapshots kind).1, (transaction.snapshots kind).2⟩
  else none

/-- What a transaction makes of the entities of a kind. -/
def PimTransaction.applyTo (transaction : PimTransaction) (kind : PimEntityKind) (entities : List (Entity kind)) :
    List (Entity kind) :=
  match transaction.entry kind with
  | some entry => entry.apply Entity.uid entities
  | none => entities

def entries (kind : PimEntityKind) (log : List PimTransaction) : List (Entry JsString (Entity kind)) :=
  log.filterMap (·.entry kind)

/-- The entities of a kind that the replay of a log gives. -/
def replayed (kind : PimEntityKind) (log : List PimTransaction) : List (Entity kind) :=
  replay Entity.uid (entries kind log)

/-- The revisions that the transactions of an entity have written. -/
def revisionsOf (kind : PimEntityKind) (uid : JsString) (log : List PimTransaction) : List Nat :=
  (log.filter (·.concerns kind uid)).filterMap fun transaction => (transaction.snapshots kind).2.map (·.revision)

/-- The last transaction of an entity. -/
def lastTransaction (kind : PimEntityKind) (uid : JsString) (log : List PimTransaction) : Option PimTransaction :=
  (log.filter (·.concerns kind uid)).getLast?

/-- The greatest revision that a log knows of an entity. -/
def greatestRevision (kind : PimEntityKind) (uid : JsString) (log : List PimTransaction) : Nat :=
  (log.filter (·.concerns kind uid)).foldl (fun revision transaction => max revision transaction.revision) 0

variable {kind : PimEntityKind} {uid : JsString} {log : List PimTransaction} {t : PimTransaction}

theorem entry_self (same : t.entityKind = kind) :
    t.entry kind = some ⟨t.entityUid, (t.snapshots kind).1, (t.snapshots kind).2⟩ := if_pos same

theorem entry_other (other : t.entityKind ≠ kind) : t.entry kind = none := if_neg other

theorem replayed_concat : replayed kind (log ++ [t]) = t.applyTo kind (replayed kind log) := by
  unfold replayed entries PimTransaction.applyTo
  rw [List.filterMap_append]
  cases isEntry : t.entry kind with
  | some entry =>
    have single : [t].filterMap (·.entry kind) = [entry] := by simp [isEntry]
    rw [single, replay_concat]
  | none =>
    have nothing : [t].filterMap (·.entry kind) = [] := by simp [isEntry]
    rw [nothing, List.append_nil]

theorem lastTransaction_concat : lastTransaction kind uid (log ++ [t]) =
    if t.concerns kind uid then some t else lastTransaction kind uid log := by
  by_cases here : t.concerns kind uid
  · simp [lastTransaction, here]
  · simp [lastTransaction, here]

theorem revisionsOf_concat : revisionsOf kind uid (log ++ [t]) =
    revisionsOf kind uid log ++
      if t.concerns kind uid then ((t.snapshots kind).2.map (·.revision)).toList else [] := by
  by_cases here : t.concerns kind uid
  · cases written : (t.snapshots kind).2 with
    | some entity => simp [revisionsOf, here, written]
    | none => simp [revisionsOf, here, written]
  · simp [revisionsOf, here]

theorem greatestRevision_concat : greatestRevision kind uid (log ++ [t]) =
    if t.concerns kind uid then max (greatestRevision kind uid log) t.revision else greatestRevision kind uid log := by
  by_cases here : t.concerns kind uid
  · simp [greatestRevision, here]
  · simp [greatestRevision, here]

/-- The greatest revision is found together with the live one. -/
theorem latestRevision_eq (s : PersistedPimState) :
    latestRevision s kind uid =
      max (((s.find kind uid).map (·.revision)).getD 0) (greatestRevision kind uid s.transactions) := by
  unfold latestRevision greatestRevision
  generalize ((s.find kind uid).map (·.revision)).getD 0 = first
  induction s.transactions.filter (·.concerns kind uid) using List.reverseRecOn with
  | nil => simp
  | append_singleton log t ih =>
    rw [List.foldl_concat, List.foldl_concat, ih]
    omega

theorem get_applyTo {entities : List (Entity kind)} (keyed : ∀ entity ∈ (t.snapshots kind).2, entity.uid = t.entityUid) :
    Keyed.get Entity.uid uid (t.applyTo kind entities) =
      if t.concerns kind uid then (t.snapshots kind).2 else Keyed.get Entity.uid uid entities := by
  unfold PimTransaction.applyTo
  by_cases same : t.entityKind = kind
  · rw [entry_self same]
    simp only
    rw [get_apply keyed]
    simp [PimTransaction.concerns, same]
  · rw [entry_other same]
    simp [PimTransaction.concerns, same]

theorem nodup_applyTo {entities : List (Entity kind)} (distinct : (entities.map Entity.uid).Nodup) :
    ((t.applyTo kind entities).map Entity.uid).Nodup := by
  unfold PimTransaction.applyTo
  split
  · exact nodup_apply distinct
  · exact distinct

/-- The entity that a replay has is that of its last transaction. -/
theorem find_replayed (keyed : ∀ t ∈ log, ∀ entity ∈ (t.snapshots kind).2, entity.uid = t.entityUid) :
    Keyed.get Entity.uid uid (replayed kind log) = (lastTransaction kind uid log).bind fun t => (t.snapshots kind).2 := by
  induction log using List.reverseRecOn with
  | nil => rfl
  | append_singleton log t ih =>
    have before := ih fun t member => keyed t (List.mem_append_left _ member)
    rw [replayed_concat, lastTransaction_concat, get_applyTo (keyed t (by simp)), before]
    split <;> rfl

end Logs

section Snapshots

variable {action : TransactionAction} {before after : Option α}

theorem snapshots_after (snapshots : action.Snapshots before after) : after = none ↔ action = .deleted := by
  cases action <;> cases after <;> simp [TransactionAction.Snapshots] at snapshots ⊢

theorem snapshots_some (snapshots : action.Snapshots before after) (gone : after = none) : before ≠ none := by
  cases action <;> cases before <;> simp [TransactionAction.Snapshots, gone] at snapshots ⊢

theorem snapshots_created (snapshots : action.Snapshots before after) (absent : before = none)
    (notRestored : action ≠ .restored) : action = .created := by
  cases action <;> simp [TransactionAction.Snapshots, absent] at snapshots notRestored ⊢

end Snapshots

section Schemas

variable {letters : LetterCase} {kind : PimEntityKind}

variable (letters) in
/-- An entity in normal form. -/
def Normal (entity : Entity kind) : Prop := entitySchema letters kind entity = some entity

theorem normal_iff {entity : Entity kind} : Normal letters entity ↔
    uidSchema entity.uid = some entity.uid ∧ contentSchema letters kind entity.content = some entity.content ∧
      isoDateTimeSchema entity.createdAt = some entity.createdAt ∧
      isoDateTimeSchema entity.updatedAt = some entity.updatedAt ∧ 0 < entity.revision := by
  obtain ⟨uid, content, createdAt, updatedAt, revision⟩ := entity
  unfold Normal
  simp only [entitySchema, bind_eq_some, Option.ite_none_right_eq_some, Option.some.injEq, Entity.mk.injEq,
    and_true]
  constructor
  · rintro ⟨_, p₁, _, p₂, _, p₃, _, p₄, positive, rfl, rfl, rfl, rfl⟩
    exact ⟨p₁, p₂, p₃, p₄, positive⟩
  · rintro ⟨p₁, p₂, p₃, p₄, positive⟩
    exact ⟨_, p₁, _, p₂, _, p₃, _, p₄, positive, rfl, rfl, rfl, rfl⟩

theorem optional_normal {snapshot : Option (Entity kind)} :
    optional (entitySchema letters kind) snapshot = some snapshot ↔ ∀ entity ∈ snapshot, Normal letters entity := by
  cases snapshot with
  | none => simp [optional]
  | some entity => simp [optional, Normal]

theorem transaction_normal {t : PimTransaction} : pimTransactionSchema letters t = some t ↔
    uidSchema t.id = some t.id ∧ isoDateTimeSchema t.occurredAt = some t.occurredAt ∧
      uidSchema t.entityUid = some t.entityUid ∧ (∀ entity ∈ t.before, Normal letters entity) ∧
      (∀ entity ∈ t.after, Normal letters entity) ∧ 0 < t.sequence ∧
      (∀ entity ∈ t.before, entity.uid = t.entityUid) ∧ (∀ entity ∈ t.after, entity.uid = t.entityUid) ∧
      t.action.Snapshots t.before t.after := by
  obtain ⟨id, sequence, occurredAt, action, kind, uid, before, after⟩ := t
  simp only [pimTransactionSchema, bind_eq_some, Option.ite_none_right_eq_some, Option.some.injEq,
    PimTransaction.mk.injEq, heq_eq_eq, true_and, ← optional_normal]
  constructor
  · rintro ⟨_, p₁, _, p₂, _, p₃, _, p₄, _, p₅, fields, rfl, rfl, rfl, rfl, rfl⟩
    exact ⟨p₁, p₂, p₃, p₄, p₅, fields⟩
  · rintro ⟨p₁, p₂, p₃, p₄, p₅, fields⟩
    exact ⟨_, p₁, _, p₂, _, p₃, _, p₄, _, p₅, fields, rfl, rfl, rfl, rfl, rfl⟩

end Schemas

end Pim
