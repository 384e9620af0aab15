import MaterialEmail.Pim.Recording

/-! What the operations of the personal information manager leave alone: an operation on entities of one
kind does not touch the other kinds, and the version of the tasks tells whether tasks have changed. -/
namespace Pim

open Fallible

variable {letters : LetterCase} {s m s' : PersistedPimState} {env : Surroundings} {kind : PimEntityKind}
  {uid now : JsString} {draft draft' : Draft}

def uids (s : PersistedPimState) (kind : PimEntityKind) : List JsString := (s.collection kind).map Entity.uid

/-- A part of a mutator that works on entities of one kind. No UIDs come but new ones. -/
structure Edits (kind : PimEntityKind) (new : JsString → Prop) (changed : Bool) (s s' : PersistedPimState) : Prop where
  others : ∀ other, other ≠ kind → s'.collection other = s.collection other
  joins : ∀ uid ∈ uids s' kind, uid ∈ uids s kind ∨ new uid
  untouched : changed = false → s'.collection kind = s.collection kind
  version : s'.taskMutationVersion = s.taskMutationVersion

/-- A change of the tasks advances their version. -/
structure Counted (s s' : PersistedPimState) : Prop where
  advances : s.taskMutationVersion ≤ s'.taskMutationVersion
  counts : s'.collection .task ≠ s.collection .task → s.taskMutationVersion < s'.taskMutationVersion

/-- The UIDs of live entities are in normal form. -/
def NormalUids (s : PersistedPimState) : Prop := ∀ kind, ∀ uid ∈ uids s kind, uidSchema uid = some uid

section Relations

theorem Edits.refl {new : JsString → Prop} {changed : Bool} : Edits kind new changed s s :=
  ⟨fun _ _ => rfl, fun _ member => Or.inl member, fun _ => rfl, rfl⟩

theorem Edits.mono {new wider : JsString → Prop} {changed : Bool} (edits : Edits kind new changed s s')
    (widens : ∀ uid, new uid → wider uid) : Edits kind wider changed s s' :=
  ⟨edits.others, fun uid member => (edits.joins uid member).imp id (widens uid), edits.untouched, edits.version⟩

theorem Edits.trans {new : JsString → Prop} {first second : Bool} (one : Edits kind new first s m)
    (two : Edits kind new second m s') : Edits kind new (first || second) s s' where
  others other different := (two.others other different).trans (one.others other different)
  joins uid member := by
    rcases two.joins uid member with old | new
    · exact one.joins uid old
    · exact Or.inr new
  untouched unchanged := by
    rw [Bool.or_eq_false_iff] at unchanged
    exact (two.untouched unchanged.2).trans (one.untouched unchanged.1)
  version := two.version.trans one.version

theorem Edits.normalUids {new : JsString → Prop} {changed : Bool} (edits : Edits kind new changed s s')
    (normal : NormalUids s) (newNormal : ∀ uid, new uid → uidSchema uid = some uid) : NormalUids s' := by
  intro other uid member
  by_cases same : other = kind
  · subst same
    rcases edits.joins uid member with old | new
    · exact normal other uid old
    · exact newNormal uid new
  · unfold Pim.uids at member
    rw [edits.others other same] at member
    exact normal other uid member

theorem Counted.refl : Counted s s := ⟨Nat.le_refl _, fun changed => absurd rfl changed⟩

theorem Counted.trans (first : Counted s m) (second : Counted m s') : Counted s s' where
  advances := Nat.le_trans first.advances second.advances
  counts changed := by
    have one := first.advances
    have two := second.advances
    by_cases later : s'.collection .task = m.collection .task
    · have counts := first.counts (later ▸ changed)
      omega
    · have counts := second.counts later
      omega

@[simp] theorem countMutation_collection : (draft.countMutation kind).state.collection = draft.state.collection := by
  cases kind <;> rfl

@[simp] theorem uids_countMutation (other : PimEntityKind) : uids (draft.countMutation kind).state other = uids draft.state other := by
  simp [uids]

theorem Edits.counted {new : JsString → Prop} {changed : Bool} (edits : Edits kind new changed s draft.state) :
    Counted s (draft.countMutation kind).state := by
  have version := edits.version
  by_cases same : kind = .task
  · subst same
    have counted : (draft.countMutation .task).state.taskMutationVersion = draft.state.taskMutationVersion + 1 := rfl
    constructor <;> omega
  · have tasks := edits.others .task (Ne.symm same)
    have counted : (draft.countMutation kind).state.taskMutationVersion = draft.state.taskMutationVersion := by
      cases kind with
      | task => exact absurd rfl same
      | _ => rfl
    constructor
    · omega
    · intro changed
      rw [countMutation_collection] at changed
      exact absurd tasks changed

/-- What is not counted has not changed the tasks. -/
theorem Edits.uncounted {new : JsString → Prop} {changed : Bool} (edits : Edits kind new changed s s')
    (harmless : kind ≠ .task ∨ changed = false) : Counted s s' := by
  have version := edits.version
  have tasks : s'.collection .task = s.collection .task := by
    by_cases same : kind = .task
    · subst same
      exact edits.untouched (harmless.resolve_left (by simp))
    · exact edits.others .task (Ne.symm same)
  constructor
  · omega
  · intro changed
    exact absurd tasks changed

end Relations

section Parts

theorem record_frame {action : TransactionAction} {before after : Option (Entity kind)}
    (ok : record letters env action kind uid before after now draft = .ok draft') :
    draft'.state.collection = draft.state.collection ∧
      draft'.state.taskMutationVersion = draft.state.taskMutationVersion := by
  obtain ⟨before', -, ok₁⟩ := bind_eq_ok ok
  obtain ⟨after', -, ok₂⟩ := bind_eq_ok ok₁
  obtain ⟨⟨drawn, id⟩, draws, ok₃⟩ := bind_eq_ok ok₂
  obtain ⟨t, -, ok₄⟩ := bind_eq_ok ok₃
  obtain ⟨-, -, same⟩ := drawUid_ok draws
  cases ok₄
  simp [same]

/-- A collection is replaced, and the change recorded. -/
theorem edits_of_record {action : TransactionAction} {before after : Option (Entity kind)}
    {entities : List (Entity kind)} {new : JsString → Prop}
    (from_ : ∀ entity ∈ entities, entity.uid ∈ uids draft.state kind ∨ new entity.uid)
    (ok : record letters env action kind uid before after now (draft.setCollection kind entities) = .ok draft') :
    Edits kind new true draft.state draft'.state := by
  obtain ⟨collection, version⟩ := record_frame ok
  constructor
  · intro other different
    rw [collection]
    exact Function.update_of_ne different _ _
  · intro uid member
    unfold uids at member
    rw [collection, show (draft.setCollection kind entities).state.collection kind = entities from
      Function.update_self ..] at member
    obtain ⟨entity, inEntities, rfl⟩ := List.mem_map.1 member
    exact from_ entity inEntities
  · simp
  · exact version

theorem insertEntity_edits {content : Content kind} {revision : Nat} {entity : Entity kind}
    (isUid : uidSchema uid = some uid)
    (ok : insertEntity letters env kind uid content revision now draft = .ok (draft', entity)) :
    Edits kind (· = uid) true draft.state draft'.state := by
  obtain ⟨parsed, isParsed, ok₁⟩ := bind_eq_ok ok
  obtain ⟨recorded, records, ok₂⟩ := bind_eq_ok ok₁
  cases ok₂
  rw [orInvalid_ok] at isParsed
  have parsedUid := (entitySchema_fields isParsed).1
  rw [isUid, Option.some.injEq] at parsedUid
  refine edits_of_record (fun other member => ?_) records
  rcases List.mem_append.1 member with old | new
  · exact Or.inl (List.mem_map_of_mem old)
  · rw [List.mem_singleton.1 new]
    exact Or.inr parsedUid.symm

theorem mem_uids_of_find {entity : Entity kind} (found : s.find kind uid = some entity) : entity.uid ∈ uids s kind :=
  List.mem_map_of_mem (Keyed.get_eq_some found).1

theorem replaceEntity_edits {current updated entity : Entity kind} (normal : NormalUids draft.state)
    (found : draft.state.find kind uid = some current)
    (ok : replaceEntity letters env kind current updated now draft = .ok (draft', entity))
    (sameUid : updated.uid = current.uid) : Edits kind (fun _ => False) true draft.state draft'.state := by
  obtain ⟨parsed, isParsed, ok₁⟩ := bind_eq_ok ok
  obtain ⟨recorded, records, ok₂⟩ := bind_eq_ok ok₁
  cases ok₂
  rw [orInvalid_ok] at isParsed
  have member := mem_uids_of_find found
  have parsedUid := (entitySchema_fields isParsed).1
  rw [sameUid, normal kind _ member, Option.some.injEq] at parsedUid
  have present : entity.uid ∈ (draft.state.collection kind).map Entity.uid := parsedUid ▸ member
  refine edits_of_record (fun other inEdited => ?_) records
  rw [parsedUid, Keyed.edit_const present] at inEdited
  rcases Keyed.mem_put inEdited with rfl | old
  · exact Or.inl present
  · exact Or.inl (List.mem_map_of_mem old)

theorem mergeRecord_edits {current : Entity kind} {content : Content kind} {imported : Imported kind}
    (normal : NormalUids draft.state) (found : draft.state.find kind uid = some current)
    (ok : mergeRecord letters env kind current content now draft = .ok (draft', imported)) :
    Edits kind (fun _ => False) imported.1.changes draft.state draft'.state := by
  obtain ⟨candidate, isCandidate, ok₁⟩ := bind_eq_ok ok
  rw [orInvalid_ok] at isCandidate
  have sameUid : candidate.uid = current.uid := by
    have parsed := (entitySchema_fields isCandidate).1
    rw [normal kind _ (mem_uids_of_find found), Option.some.injEq] at parsed
    exact parsed.symm
  split at ok₁
  · cases ok₁
    exact Edits.refl
  · obtain ⟨⟨replaced, entity⟩, replaces, ok₂⟩ := bind_eq_ok ok₁
    cases ok₂
    exact replaceEntity_edits normal found replaces sameUid

end Parts

section Storing

theorem mapM_uids {entities stored : List (Entity kind)} (normal : ∀ entity ∈ entities, uidSchema entity.uid = some entity.uid)
    (parses : entities.mapM (entitySchema letters kind) = some stored) :
    stored.map Entity.uid = entities.map Entity.uid := by
  induction entities generalizing stored with
  | nil =>
    cases parses
    rfl
  | cons entity entities ih =>
    simp only [List.mapM_cons, Option.pure_def, Option.bind_eq_bind, Option.bind_eq_some_iff, Option.some.injEq] at parses
    obtain ⟨head, isHead, tail, areTail, rfl⟩ := parses
    have parsedUid := (entitySchema_fields isHead).1
    rw [normal entity List.mem_cons_self, Option.some.injEq] at parsedUid
    have rest := ih (fun other member => normal other (List.mem_cons_of_mem _ member)) areTail
    rw [List.map_cons, List.map_cons, rest, parsedUid]

theorem persisted_frame {stored : PersistedPimState} (isStored : persistedPimStateSchema letters s = some stored) :
    (∀ kind, (s.collection kind).mapM (entitySchema letters kind) = some (stored.collection kind)) ∧
      stored.taskMutationVersion = s.taskMutationVersion := by
  simp only [persistedPimStateSchema, Option.bind_eq_bind, Option.bind_eq_some_iff, Option.ite_none_right_eq_some,
    Option.some.injEq] at isStored
  obtain ⟨contacts, areContacts, lists, areLists, events, areEvents, tasks, areTasks, transactions, -, -, rfl⟩ := isStored
  refine ⟨fun kind => ?_, rfl⟩
  cases kind <;> assumption

theorem persisted_uids {stored : PersistedPimState} (normal : NormalUids s)
    (isStored : persistedPimStateSchema letters s = some stored) (kind : PimEntityKind) : uids stored kind = uids s kind :=
  mapM_uids (fun _ member => normal kind _ (List.mem_map_of_mem member)) ((persisted_frame isStored).1 kind)

theorem Ledger.normalUids (ledger : Ledger letters s) : NormalUids s := by
  intro kind uid member
  obtain ⟨entity, inCollection, rfl⟩ := List.mem_map.1 member
  exact (normal_iff.1 (ledger.normal_live (ledger.find_of_mem inCollection)).1).1

theorem mutate_counted {mutator : Draft → Except PimError (Draft × Decision α)} {result : α} (ledger : Ledger letters s)
    (counted : ∀ draft decision, mutator ⟨s, 0⟩ = .ok (draft, decision) → Counted s draft.state)
    (ok : mutate letters mutator s = .ok (s', result)) : Counted s s' := by
  obtain ⟨⟨draft, decision⟩, mutates, ok₁⟩ := bind_eq_ok ok
  have counts := counted draft decision mutates
  by_cases changed : decision.changed = true
  · simp only [changed, if_true] at ok₁
    obtain ⟨stored, isStored, ok₂⟩ := bind_eq_ok ok₁
    rw [orInvalid_ok] at isStored
    cases ok₂
    obtain ⟨collections, version⟩ := persisted_frame isStored
    constructor
    · rw [version]
      exact counts.advances
    · intro differ
      rw [version]
      apply counts.counts
      intro same
      have tasks := collections .task
      rw [same] at tasks
      have kept : (s.collection .task).mapM (entitySchema letters .task) = some (s.collection .task) :=
        mapM_of_normal fun entity member => (ledger.normal_live (ledger.find_of_mem member)).1
      rw [kept, Option.some.injEq] at tasks
      exact differ tasks.symm
  · simp only [changed] at ok₁
    cases ok₁
    exact Counted.refl

end Storing

end Pim
