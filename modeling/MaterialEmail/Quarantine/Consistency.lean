import MaterialEmail.Quarantine.Model

/-! Files and records of the quarantine agree when no call is on its way, while a record is removed only by the call
that has set its file aside, and nothing fails that leaves a file behind which nobody will remove. -/
namespace Quarantine

open JsString Interrupted Interleaved MailService

section Contract

/-- Callers pass on risky attachments only. No file of an attachment fails to be written once others have been, or is
left behind in part; none without a record fails to be removed; and a record is removed only by the call that has set
its file aside. -/
def conditions : Conditions Op Request Choice State where
  starts request _ :=
    match request with
    | .quarantine _ items => ∀ item ∈ items, item.risk.level ≠ .ordinary
    | _ => True
  allowed task op choice s :=
    match op, choice with
    | .writePayload _ _, .fails left => left = none ∧ ∀ id : Uuid, id.task = task → s.Has (.payload id) → s.Recorded id
    | .remove (.payload id), .fails _ => s.Has (.payload id) → s.Recorded id
    | .storeWithout id, .proceeds => s.Recorded id → ∃ name : Uuid, name.task = task ∧ s.Has (.retired id name)
    | _, _ => True

/-- What holds throughout. -/
structure Sound (s : State) : Prop where
  distinct : (s.quarantinedAttachments.map QuarantinedAttachment.id).Nodup
  recordedKnown : ∀ id, s.Recorded id → id ∈ s.known
  drawn : ∀ id ∈ s.known, id.serial < s.next
  drawnPayload : ∀ id, s.Has (.payload id) → id.serial < s.next
  drawnRetired : ∀ id name, s.Has (.retired id name) → name.serial < s.next
  retiredKnown : ∀ id name, s.Has (.retired id name) → id ∈ s.known
  backed : ∀ id, s.Recorded id → s.Has (.payload id) ∨ ∃ name, s.Has (.retired id name)
  aside : ∀ id name, s.Recorded id → s.Has (.retired id name) → ¬ s.Has (.payload id)
  single : ∀ id name name', s.Recorded id → s.Has (.retired id name) → s.Has (.retired id name') → name = name'
  live : ∀ id ∈ s.known, s.Has (.payload id) → s.Recorded id

/-- What the others leave as it is while a call waits. -/
structure Leaves (task : Nat) (s s' : State) : Prop where
  next : s.next ≤ s'.next
  known : ∀ id ∈ s.known, id ∈ s'.known
  own : ∀ id ∈ s'.known, id.task = task → id ∈ s.known
  payload : ∀ id : Uuid, id.task = task → id ∉ s.known → s'.files (.payload id) = s.files (.payload id)
  retired : ∀ id name : Uuid, name.task = task → s'.files (.retired id name) = s.files (.retired id name)
  held : ∀ id name : Uuid, name.task = task → s.Has (.retired id name) → s.Recorded id → s'.Recorded id
  gone : ∀ id name : Uuid, name.task = task → s.Has (.retired id name) → s'.Recorded id → s.Recorded id
  failed : task ∈ s.failed → task ∈ s'.failed

theorem Leaves.has_retired {task : Nat} {s s' : State} (leaves : Leaves task s s') {id name : Uuid}
    (mine : name.task = task) : s'.Has (.retired id name) ↔ s.Has (.retired id name) := by
  rw [State.Has, State.Has, leaves.retired id name mine]

theorem Leaves.refl (task : Nat) (s : State) : Leaves task s s where
  next := Nat.le_refl _
  known _ member := member
  own _ member _ := member
  payload _ _ _ := rfl
  retired _ _ _ := rfl
  held _ _ _ _ recorded := recorded
  gone _ _ _ _ recorded := recorded
  failed member := member

theorem Leaves.trans {task : Nat} {s s' s'' : State} (first : Leaves task s s') (second : Leaves task s' s'') :
    Leaves task s s'' where
  next := Nat.le_trans first.next second.next
  known id member := second.known id (first.known id member)
  own id member mine := first.own id (second.own id member mine) mine
  payload id mine unknown :=
    (second.payload id mine fun member => unknown (first.own id member mine)).trans (first.payload id mine unknown)
  retired id name mine := (second.retired id name mine).trans (first.retired id name mine)
  held id name mine has recorded :=
    second.held id name mine ((first.has_retired mine).2 has) (first.held id name mine has recorded)
  gone id name mine has recorded :=
    first.gone id name mine has (second.gone id name mine ((first.has_retired mine).2 has) recorded)
  failed member := second.failed (first.failed member)

/-- A call that is over has left no file without a record, and set none aside that has one. -/
structure Settled (task : Nat) (s : State) : Prop where
  payload : ∀ id : Uuid, id.task = task → s.Has (.payload id) → id ∈ s.known
  retired : ∀ id name : Uuid, name.task = task → s.Has (.retired id name) → ¬ s.Recorded id

theorem Settled.stable {task : Nat} {s s' : State} (settled : Settled task s) (leaves : Leaves task s s') :
    Settled task s' where
  payload id mine has := by
    by_cases known : id ∈ s.known
    · exact leaves.known id known
    · rw [State.Has, leaves.payload id mine known] at has
      exact absurd (settled.payload id mine has) known
  retired id name mine has recorded := by
    have before := (leaves.has_retired mine).1 has
    exact settled.retired id name mine before (leaves.gone id name mine before recorded)

def contract : Contract Op Request Choice State where
  toConditions := conditions
  inv := Sound
  rely := Leaves
  guar task s s' := Sound s' ∧ ∀ other, other ≠ task → Leaves other s s'
  demand _ _ _ := True
  ends := Settled

theorem contract_lawful : contract.Lawful where
  refl := Leaves.refl
  trans _ _ _ _ first second := first.trans second
  others task _ _ _ different guaranteed := guaranteed.2 task different
  keeps _ _ _ _ guaranteed := guaranteed.1
  stable _ _ _ leaves settled := settled.stable leaves

end Contract

section Changes

variable {s s' : State} {task : Nat} {id name : Uuid}

@[simp] theorem withFile_known (path : Path) (content : Option Content) : (s.withFile path content).known = s.known := rfl
@[simp] theorem withFile_next (path : Path) (content : Option Content) : (s.withFile path content).next = s.next := rfl
@[simp] theorem withFile_failed (path : Path) (content : Option Content) : (s.withFile path content).failed = s.failed :=
  rfl
@[simp] theorem withFile_recorded (path : Path) (content : Option Content) :
    (s.withFile path content).Recorded id = s.Recorded id := rfl
@[simp] theorem withFile_records (path : Path) (content : Option Content) :
    (s.withFile path content).quarantinedAttachments = s.quarantinedAttachments := rfl

theorem withFile_files (path other : Path) (content : Option Content) :
    (s.withFile path content).files other = if other = path then content else s.files other :=
  Function.update_apply s.files path content other

@[simp] theorem withFile_has (path other : Path) (content : Option Content) :
    (s.withFile path content).Has other ↔ if other = path then content.isSome = true else s.Has other := by
  rw [State.Has, withFile_files]
  split <;> rfl

/-- Only files have changed, none of them one that a call waits for. -/
theorem Leaves.ofFiles {files : Path → Option Content}
    (payload : ∀ id : Uuid, id.task = task → id ∉ s.known → files (.payload id) = s.files (.payload id))
    (retired : ∀ id name : Uuid, name.task = task → files (.retired id name) = s.files (.retired id name)) :
    Leaves task s { s with files := files } where
  next := Nat.le_refl _
  known _ member := member
  own _ member _ := member
  payload := payload
  retired := retired
  held _ _ _ _ recorded := recorded
  gone _ _ _ _ recorded := recorded
  failed member := member

/-- Nothing has changed but what has been drawn and which calls have failed. -/
structure Quiet (s s' : State) : Prop where
  files : s'.files = s.files
  records : s'.quarantinedAttachments = s.quarantinedAttachments
  known : s'.known = s.known
  next : s.next ≤ s'.next
  failed : ∀ other ∈ s.failed, other ∈ s'.failed

theorem Quiet.has (quiet : Quiet s s') (path : Path) : s'.Has path ↔ s.Has path := by
  rw [State.Has, State.Has, quiet.files]

theorem Quiet.recorded (quiet : Quiet s s') (id : Uuid) : s'.Recorded id ↔ s.Recorded id := by
  rw [State.Recorded, State.Recorded, quiet.records]

theorem Quiet.leaves (quiet : Quiet s s') (task : Nat) : Leaves task s s' where
  next := quiet.next
  known id member := quiet.known ▸ member
  own id member _ := quiet.known ▸ member
  payload id _ _ := by rw [quiet.files]
  retired id name _ := by rw [quiet.files]
  held id _ _ _ := (quiet.recorded id).2
  gone id _ _ _ := (quiet.recorded id).1
  failed member := quiet.failed task member

theorem Quiet.sound (quiet : Quiet s s') (sound : Sound s) : Sound s' where
  distinct := quiet.records ▸ sound.distinct
  recordedKnown id recorded := quiet.known ▸ sound.recordedKnown id ((quiet.recorded id).1 recorded)
  drawn id member := Nat.lt_of_lt_of_le (sound.drawn id (quiet.known ▸ member)) quiet.next
  drawnPayload id has := Nat.lt_of_lt_of_le (sound.drawnPayload id ((quiet.has _).1 has)) quiet.next
  drawnRetired id name has := Nat.lt_of_lt_of_le (sound.drawnRetired id name ((quiet.has _).1 has)) quiet.next
  retiredKnown id name has := quiet.known ▸ sound.retiredKnown id name ((quiet.has _).1 has)
  backed id recorded := by
    refine (sound.backed id ((quiet.recorded id).1 recorded)).imp (quiet.has _).2 ?_
    exact fun ⟨name, has⟩ => ⟨name, (quiet.has _).2 has⟩
  aside id name recorded has present :=
    sound.aside id name ((quiet.recorded id).1 recorded) ((quiet.has _).1 has) ((quiet.has _).1 present)
  single id name name' recorded has has' :=
    sound.single id name name' ((quiet.recorded id).1 recorded) ((quiet.has _).1 has) ((quiet.has _).1 has')
  live id member has := (quiet.recorded id).2 (sound.live id (quiet.known ▸ member) ((quiet.has _).1 has))

theorem Quiet.guar (quiet : Quiet s s') (sound : Sound s) : contract.guar task s s' :=
  ⟨quiet.sound sound, fun other _ => quiet.leaves other⟩

/-- A call writes or removes a file of its own, before there is a record. -/
theorem guar_payload (sound : Sound s) (mine : id.task = task) (unknown : id ∉ s.known) (drawn : id.serial < s.next)
    (content : Option Content) : contract.guar task s (s.withFile (.payload id) content) := by
  constructor
  · constructor
    case distinct => exact sound.distinct
    case recordedKnown => exact sound.recordedKnown
    case drawn => exact sound.drawn
    case drawnPayload =>
      intro other has
      rw [withFile_has] at has
      split at has
      · rename_i same
        cases same
        exact drawn
      · exact sound.drawnPayload other has
    case drawnRetired =>
      intro other name has
      exact sound.drawnRetired other name (by simpa using has)
    case retiredKnown =>
      intro other name has
      exact sound.retiredKnown other name (by simpa using has)
    case backed =>
      intro other recorded
      have different : other ≠ id := fun same => unknown (same ▸ sound.recordedKnown other recorded)
      simpa [different] using sound.backed other recorded
    case aside =>
      intro other name recorded has
      have different : other ≠ id := fun same => unknown (same ▸ sound.recordedKnown other recorded)
      simpa [different] using sound.aside other name recorded (by simpa using has)
    case single =>
      intro other name name' recorded has has'
      exact sound.single other name name' recorded (by simpa using has) (by simpa using has')
    case live =>
      intro other known has
      have different : other ≠ id := fun same => unknown (same ▸ known)
      exact sound.live other known (by simpa [different] using has)
  · intro other different
    refine .ofFiles ?payload ?retired
    case payload =>
      intro id' theirs _
      refine Function.update_of_ne ?_ _ _
      rintro ⟨⟩
      exact different (theirs.symm.trans mine)
    case retired =>
      intro id' name _
      exact Function.update_of_ne (by simp) _ _

/-- The file of an attachment that is on record is set aside under a new name. -/
theorem guar_aside (sound : Sound s) (mine : name.task = task) (drawn : name.serial < s.next)
    (known : id ∈ s.known) (present : s.Has (.payload id)) {content : Content} :
    contract.guar task s ((s.withFile (.payload id) none).withFile (.retired id name) (some content)) := by
  have recorded := sound.live id known present
  constructor
  · constructor
    case distinct => exact sound.distinct
    case recordedKnown => exact sound.recordedKnown
    case drawn => exact sound.drawn
    case drawnPayload =>
      intro other has
      simp only [withFile_has, reduceCtorEq, if_false] at has
      split at has
      · cases has
      · exact sound.drawnPayload other has
    case drawnRetired =>
      intro other name' has
      simp only [withFile_has, reduceCtorEq, if_false] at has
      split at has
      · rename_i same
        cases same
        exact drawn
      · exact sound.drawnRetired other name' has
    case retiredKnown =>
      intro other name' has
      simp only [withFile_has, reduceCtorEq, if_false] at has
      split at has
      · rename_i same
        cases same
        exact known
      · exact sound.retiredKnown other name' has
    case backed =>
      intro other isRecorded
      by_cases same : other = id
      · subst same
        exact Or.inr ⟨name, by simp⟩
      · refine (sound.backed other isRecorded).imp (fun has => ?_) fun ⟨name', has⟩ => ⟨name', ?_⟩
        · simpa [same] using has
        · simpa [same] using has
    case aside =>
      intro other name' isRecorded has
      by_cases same : other = id
      · subst same
        simp
      · simp only [withFile_has, reduceCtorEq, if_false, Path.retired.injEq, same, false_and] at has
        simpa [same] using sound.aside other name' isRecorded has
    case single =>
      intro other name₁ name₂ isRecorded has₁ has₂
      by_cases same : other = id
      · subst same
        have only : ∀ name', ((s.withFile (.payload other) none).withFile (.retired other name) (some content)).Has
            (.retired other name') → name' = name := by
          intro name' has
          simp only [withFile_has, reduceCtorEq, if_false, Path.retired.injEq, true_and] at has
          split at has
          · assumption
          · exact absurd present (sound.aside other name' recorded has)
        rw [only name₁ has₁, only name₂ has₂]
      · simp only [withFile_has, reduceCtorEq, if_false, Path.retired.injEq, same, false_and] at has₁ has₂
        exact sound.single other name₁ name₂ isRecorded has₁ has₂
    case live =>
      intro other isKnown has
      simp only [withFile_has, reduceCtorEq, if_false] at has
      split at has
      · cases has
      · exact sound.live other isKnown has
  · intro other different
    refine .ofFiles ?payload ?retired
    case payload =>
      intro id' _ unknown
      have other' : id' ≠ id := fun same => unknown (same ▸ known)
      simp [other', State.withFile]
    case retired =>
      intro id' name' theirs
      have other' : name' ≠ name := fun same => different (theirs.symm.trans (same ▸ mine))
      simp [other', State.withFile]

/-- A file that was set aside is put back while its record is there. -/
theorem guar_restore (sound : Sound s) (mine : name.task = task) (has : s.Has (.retired id name))
    (recorded : s.Recorded id) {content : Content} :
    contract.guar task s ((s.withFile (.retired id name) none).withFile (.payload id) (some content)) := by
  have known := sound.recordedKnown id recorded
  constructor
  · constructor
    case distinct => exact sound.distinct
    case recordedKnown => exact sound.recordedKnown
    case drawn => exact sound.drawn
    case drawnPayload =>
      intro other present
      simp only [withFile_has, reduceCtorEq, if_false] at present
      split at present
      · rename_i same
        cases same
        exact sound.drawn id known
      · exact sound.drawnPayload other present
    case drawnRetired =>
      intro other name' present
      simp only [withFile_has, reduceCtorEq, if_false] at present
      split at present
      · cases present
      · exact sound.drawnRetired other name' present
    case retiredKnown =>
      intro other name' present
      simp only [withFile_has, reduceCtorEq, if_false] at present
      split at present
      · cases present
      · exact sound.retiredKnown other name' present
    case backed =>
      intro other isRecorded
      by_cases same : other = id
      · subst same
        exact Or.inl (by simp)
      · refine (sound.backed other isRecorded).imp (fun present => ?_) fun ⟨name', present⟩ => ⟨name', ?_⟩
        · simpa [same] using present
        · simpa [same] using present
    case aside =>
      intro other name' isRecorded present
      simp only [withFile_has, reduceCtorEq, if_false, Path.retired.injEq] at present
      split at present
      · cases present
      · rename_i apart
        have same : other ≠ id := by
          rintro rfl
          exact apart ⟨rfl, sound.single other name' name isRecorded present has⟩
        simpa [same] using sound.aside other name' isRecorded present
    case single =>
      intro other name₁ name₂ isRecorded has₁ has₂
      simp only [withFile_has, reduceCtorEq, if_false] at has₁ has₂
      split at has₁
      · cases has₁
      · split at has₂
        · cases has₂
        · exact sound.single other name₁ name₂ isRecorded has₁ has₂
    case live =>
      intro other isKnown present
      simp only [withFile_has, reduceCtorEq, if_false] at present
      split at present
      · rename_i same
        cases same
        exact recorded
      · exact sound.live other isKnown present
  · intro other different
    refine .ofFiles ?payload ?retired
    case payload =>
      intro id' _ unknown
      have other' : id' ≠ id := fun same => unknown (same ▸ known)
      simp [other', State.withFile]
    case retired =>
      intro id' name' theirs
      have other' : name' ≠ name := fun same => different (theirs.symm.trans (same ▸ mine))
      simp [other', State.withFile]

/-- A file that was set aside is removed when its record has gone. -/
theorem guar_discard (sound : Sound s) (mine : name.task = task)
    (unrecorded : s.Has (.retired id name) → ¬ s.Recorded id) :
    contract.guar task s (s.withFile (.retired id name) none) := by
  have before : ∀ other name', (s.withFile (.retired id name) none).Has (.retired other name') →
      s.Has (.retired other name') := by
    intro other name' has
    rw [withFile_has] at has
    split at has
    · cases has
    · exact has
  constructor
  · constructor
    case distinct => exact sound.distinct
    case recordedKnown => exact sound.recordedKnown
    case drawn => exact sound.drawn
    case drawnPayload => exact fun other has => sound.drawnPayload other (by simpa using has)
    case drawnRetired => exact fun other name' has => sound.drawnRetired other name' (before other name' has)
    case retiredKnown => exact fun other name' has => sound.retiredKnown other name' (before other name' has)
    case backed =>
      intro other recorded
      refine (sound.backed other recorded).imp (fun has => ?_) fun ⟨name', has⟩ => ⟨name', ?_⟩
      · simpa using has
      · rw [withFile_has, if_neg]
        · exact has
        · rintro ⟨⟩
          exact unrecorded has recorded
    case aside =>
      intro other name' recorded has present
      exact sound.aside other name' recorded (before other name' has) (by simpa using present)
    case single =>
      intro other name₁ name₂ recorded has₁ has₂
      exact sound.single other name₁ name₂ recorded (before other name₁ has₁) (before other name₂ has₂)
    case live => exact fun other known has => sound.live other known (by simpa using has)
  · intro other different
    refine .ofFiles ?payload ?retired
    case payload =>
      intro id' _ _
      exact Function.update_of_ne (by simp) _ _
    case retired =>
      intro id' name' theirs
      have other' : name' ≠ name := fun same => different (theirs.symm.trans (same ▸ mine))
      simp [other']

theorem hasRecord_without {other : Uuid} {records : List QuarantinedAttachment} :
    hasRecord other (withoutRecord id records) ↔ hasRecord other records ∧ other ≠ id := by
  unfold hasRecord withoutRecord
  simp only [List.mem_filter, decide_eq_true_eq]
  constructor
  · rintro ⟨record, ⟨member, different⟩, rfl⟩
    exact ⟨⟨record, member, rfl⟩, different⟩
  · rintro ⟨⟨record, member, rfl⟩, different⟩
    exact ⟨record, ⟨member, different⟩, rfl⟩

/-- The record of a file that the call itself has set aside is removed. -/
theorem guar_without (sound : Sound s) (mine : name.task = task) (has : s.Has (.retired id name)) (recorded : s.Recorded id) :
    contract.guar task s { s with quarantinedAttachments := withoutRecord id s.quarantinedAttachments } := by
  constructor
  · constructor
    case distinct => exact sound.distinct.sublist (List.filter_sublist.map _)
    case recordedKnown => exact fun other left => sound.recordedKnown other (hasRecord_without.1 left).1
    case drawn => exact sound.drawn
    case drawnPayload => exact sound.drawnPayload
    case drawnRetired => exact sound.drawnRetired
    case retiredKnown => exact sound.retiredKnown
    case backed => exact fun other left => sound.backed other (hasRecord_without.1 left).1
    case aside => exact fun other name' left => sound.aside other name' (hasRecord_without.1 left).1
    case single => exact fun other one two left => sound.single other one two (hasRecord_without.1 left).1
    case live =>
      intro other known present
      refine hasRecord_without.2 ⟨sound.live other known present, ?_⟩
      rintro rfl
      exact sound.aside other name recorded has present
  · intro other different
    constructor
    case next => exact Nat.le_refl _
    case known => exact fun _ member => member
    case own => exact fun _ member _ => member
    case payload => exact fun _ _ _ => rfl
    case retired => exact fun _ _ _ => rfl
    case held =>
      intro id' name' theirs has' recorded'
      refine hasRecord_without.2 ⟨recorded', ?_⟩
      rintro rfl
      rw [sound.single id' name' name recorded has' has, mine] at theirs
      exact different theirs.symm
    case gone => exact fun id' _ _ _ left => (hasRecord_without.1 left).1
    case failed => exact fun member => member

theorem addCreated_ids (created records : List QuarantinedAttachment) {other : Uuid}
    (accepted : other ∈ (addCreated created records).1.acceptedIds) :
    other ∈ created.map QuarantinedAttachment.id := by
  induction created generalizing records with
  | nil => cases accepted
  | cons record created ih =>
    rw [List.map_cons, List.mem_cons]
    rw [addCreated] at accepted
    split at accepted
    · exact Or.inr (ih records accepted)
    · rcases List.mem_cons.1 accepted with rfl | later
      · exact Or.inl rfl
      · exact Or.inr (ih _ later)

theorem hasRecord_addCreated (created records : List QuarantinedAttachment) {other : Uuid} :
    hasRecord other (addCreated created records).2 ↔
      hasRecord other records ∨ other ∈ (addCreated created records).1.acceptedIds := by
  induction created generalizing records with
  | nil => simp [addCreated]
  | cons record created ih =>
    rw [addCreated]
    split
    · exact ih records
    · have first : hasRecord other (record :: records) ↔ record.id = other ∨ hasRecord other records := by
        simp [hasRecord]
      simp only [ih, first, List.mem_cons, eq_comm (a := record.id)]
      rw [or_assoc, or_left_comm]

theorem nodup_addCreated {created records : List QuarantinedAttachment}
    (distinct : (records.map QuarantinedAttachment.id).Nodup) (others : (created.map QuarantinedAttachment.id).Nodup)
    (apart : ∀ record ∈ created, ¬ hasRecord record.id records) :
    ((addCreated created records).2.map QuarantinedAttachment.id).Nodup := by
  induction created generalizing records with
  | nil => exact distinct
  | cons record created ih =>
    obtain ⟨alone, others⟩ := List.nodup_cons.1 others
    obtain ⟨new, apart⟩ := List.forall_mem_cons.1 apart
    rw [addCreated]
    split
    · exact ih distinct others apart
    · refine ih (List.nodup_cons.2 ⟨fun member => new ?_, distinct⟩) others fun other member => ?_
      · obtain ⟨old, listed, same⟩ := List.mem_map.1 member
        exact ⟨old, listed, same⟩
      · rintro ⟨old, listed, same⟩
        rcases List.mem_cons.1 listed with rfl | listed
        · exact alone (List.mem_map.2 ⟨other, member, same.symm⟩)
        · exact apart other member ⟨old, listed, same⟩

/-- A record whose file a call has written, and of which nobody else knows. -/
structure Written (task : Nat) (s : State) (id : Uuid) : Prop where
  mine : id.task = task
  unknown : id ∉ s.known
  has : s.Has (.payload id)

theorem guar_created (sound : Sound s) {created : List QuarantinedAttachment}
    (written : ∀ record ∈ created, Written task s record.id) (distinct : (created.map QuarantinedAttachment.id).Nodup) :
    contract.guar task s (storeCreated created s).2 := by
  have accepted : ∀ other ∈ (addCreated created s.quarantinedAttachments).1.acceptedIds, Written task s other := by
    intro other member
    obtain ⟨record, listed, rfl⟩ := List.mem_map.1 (addCreated_ids _ _ member)
    exact written record listed
  have recorded : ∀ other, (storeCreated created s).2.Recorded other ↔
      s.Recorded other ∨ other ∈ (addCreated created s.quarantinedAttachments).1.acceptedIds :=
    fun other => hasRecord_addCreated created s.quarantinedAttachments
  have known : ∀ other, other ∈ (storeCreated created s).2.known ↔
      other ∈ (addCreated created s.quarantinedAttachments).1.acceptedIds ∨ other ∈ s.known :=
    fun other => List.mem_append
  have unretired : ∀ other name', other ∈ (addCreated created s.quarantinedAttachments).1.acceptedIds →
      ¬ s.Has (.retired other name') :=
    fun other name' member has => (accepted other member).unknown (sound.retiredKnown other name' has)
  constructor
  · constructor
    case distinct =>
      exact nodup_addCreated sound.distinct distinct fun record member has =>
        (written record member).unknown (sound.recordedKnown _ has)
    case recordedKnown =>
      intro other has
      exact (known other).2 (((recorded other).1 has).elim (fun old => Or.inr (sound.recordedKnown other old)) Or.inl)
    case drawn =>
      intro other member
      rcases (known other).1 member with new | old
      · exact sound.drawnPayload other (accepted other new).has
      · exact sound.drawn other old
    case drawnPayload => exact sound.drawnPayload
    case drawnRetired => exact sound.drawnRetired
    case retiredKnown => exact fun other name' has => (known other).2 (Or.inr (sound.retiredKnown other name' has))
    case backed =>
      intro other has
      rcases (recorded other).1 has with old | new
      · exact sound.backed other old
      · exact Or.inl (accepted other new).has
    case aside =>
      intro other name' has retired
      rcases (recorded other).1 has with old | new
      · exact sound.aside other name' old retired
      · exact absurd retired (unretired other name' new)
    case single =>
      intro other one two has first second
      rcases (recorded other).1 has with old | new
      · exact sound.single other one two old first second
      · exact absurd first (unretired other one new)
    case live =>
      intro other member has
      rcases (known other).1 member with new | old
      · exact (recorded other).2 (Or.inr new)
      · exact (recorded other).2 (Or.inl (sound.live other old has))
  · intro other different
    constructor
    case next => exact Nat.le_refl _
    case known => exact fun other member => (known other).2 (Or.inr member)
    case own =>
      intro id' member theirs
      rcases (known id').1 member with new | old
      · exact absurd (theirs.symm.trans (accepted id' new).mine) different
      · exact old
    case payload => exact fun _ _ _ => rfl
    case retired => exact fun _ _ _ => rfl
    case held => exact fun id' _ _ _ old => (recorded id').2 (Or.inl old)
    case gone =>
      intro id' name' _ has is
      rcases (recorded id').1 is with old | new
      · exact old
      · exact absurd has (unretired id' name' new)
    case failed => exact fun member => member

end Changes

section Rules

variable {s s' : State} {task : Nat}

theorem answer_cases {op : Op} {choice : Choice} {reply : Reply op}
    (answered : environment.answer task op choice s = some (reply, s')) :
    (∃ left, choice = .fails left ∧ refused op = some reply ∧
      s' = { damage op left s with failed := task :: s.failed } ∧ task ∉ s.failed) ∨
      perform task op choice s = some (reply, s') := by
  cases choice with
  | fails left =>
    simp only [environment] at answered
    split at answered
    · cases answered
    · rename_i first
      obtain ⟨reply', is, same⟩ := Option.map_eq_some_iff.1 answered
      cases same
      exact Or.inl ⟨left, rfl, is, rfl, first⟩
  | proceeds => exact Or.inr answered
  | stamped now => exact Or.inr answered
  | chosen filePath => exact Or.inr answered

/-- A call waits with what the others leave it, and goes on with the answer. -/
theorem call_meets {op : Op} {A : State → Prop} {next : Reply op → Work α} {post : Except Failure α → State → Prop}
    (stable : ∀ s s', Leaves task s s' → A s → A s') (holds : A s)
    (answers : ∀ s', A s' → Sound s' → ∀ choice reply s'', conditions.allowed task op choice s' →
      environment.answer task op choice s' = some (reply, s'') →
        contract.guar task s' s'' ∧ meets environment contract task (next reply) post s'') :
    meets environment contract task (.call op next) post s := by
  intro s' leaves sound
  refine ⟨trivial, fun choice reply s'' allowed answered => ?_⟩
  exact answers s' (stable s s' leaves holds) sound choice reply s'' allowed answered

/-- Operations that change nothing in the quarantine. -/
def Op.isQuiet : Op → Bool
  | .mkdir => true
  | .readStore => true
  | .draw => true
  | .readPayload _ => true
  | .showSaveDialog => true
  | .writeReleased _ _ => true
  | _ => false

theorem quiet_failed : Quiet s { s with failed := task :: s.failed } where
  files := rfl
  records := rfl
  known := rfl
  next := Nat.le_refl _
  failed _ member := List.mem_cons_of_mem _ member

theorem quiet_refl : Quiet s s where
  files := rfl
  records := rfl
  known := rfl
  next := Nat.le_refl _
  failed _ member := member

theorem quiet_drawn : Quiet s { s with next := s.next + 1 } where
  files := rfl
  records := rfl
  known := rfl
  next := Nat.le_succ _
  failed _ member := member

theorem quiet_answer {op : Op} {choice : Choice} {reply : Reply op} (isQuiet : op.isQuiet = true)
    (answered : environment.answer task op choice s = some (reply, s')) : Quiet s s' := by
  rcases answer_cases answered with ⟨left, -, -, rfl, -⟩ | performed
  · cases op with
    | writePayload | rename | remove | storeCreated | storeWithout => cases isQuiet
    | _ => exact quiet_failed
  · cases op with
    | writePayload | rename | remove | storeCreated | storeWithout => cases isQuiet
    | draw =>
      cases choice <;> cases performed
      exact quiet_drawn
    | readPayload id =>
      cases choice with
      | proceeds =>
        simp only [perform] at performed
        split at performed <;> cases performed <;> exact quiet_refl
      | _ => cases performed
    | _ =>
      cases choice <;> cases performed
      exact quiet_refl

theorem quiet_meets (op : Op) {A : State → Prop} {next : Reply op → Work α} {post : Except Failure α → State → Prop}
    (isQuiet : op.isQuiet = true) (stable : ∀ s s', Leaves task s s' → A s → A s') (holds : A s)
    (goes : ∀ choice reply s' s'', A s' → A s'' → Sound s' → environment.answer task op choice s' = some (reply, s'') →
      meets environment contract task (next reply) post s'') :
    meets environment contract task (.call op next) post s := by
  refine call_meets stable holds fun s' before sound choice reply s'' _ answered => ?_
  have quiet := quiet_answer isQuiet answered
  exact ⟨quiet.guar sound, goes choice reply s' s'' before (stable _ _ (quiet.leaves task) before) sound answered⟩

theorem orThrow_meets {result : Except Failure β} {next : β → Work α} {post : Except Failure α → State → Prop}
    (ok : ∀ value, result = .ok value → meets environment contract task (next value) post s)
    (error : ∀ error, result = .error error → post (.error error) s) :
    meets environment contract task (orThrow result >>= next) post s := by
  cases result with
  | ok value => exact ok value rfl
  | error thrown => exact error thrown rfl

end Rules

section Quarantining

variable {s s' : State} {task : Nat} {created : List QuarantinedAttachment}

/-- Files have been written for records that are not stored yet. -/
structure Preparing (task : Nat) (created : List QuarantinedAttachment) (s : State) : Prop where
  written : ∀ record ∈ created, Written task s record.id
  distinct : (created.map QuarantinedAttachment.id).Nodup
  payload : ∀ id : Uuid, id.task = task → s.Has (.payload id) → id ∈ s.known ∨ id ∈ created.map QuarantinedAttachment.id
  retired : ∀ id name : Uuid, name.task = task → s.Has (.retired id name) → ¬ s.Recorded id

theorem Written.stable {id : Uuid} (leaves : Leaves task s s') (written : Written task s id) : Written task s' id where
  mine := written.mine
  unknown member := written.unknown (leaves.own id member written.mine)
  has := by
    rw [State.Has, leaves.payload id written.mine written.unknown]
    exact written.has

theorem Preparing.stable (leaves : Leaves task s s') (preparing : Preparing task created s) :
    Preparing task created s' where
  written record member := (preparing.written record member).stable leaves
  distinct := preparing.distinct
  payload id mine has := by
    by_cases known : id ∈ s.known
    · exact Or.inl (leaves.known id known)
    · rw [State.Has, leaves.payload id mine known] at has
      exact (preparing.payload id mine has).imp_left (leaves.known id)
  retired id name mine has recorded := by
    have before := (leaves.has_retired mine).1 has
    exact preparing.retired id name mine before (leaves.gone id name mine before recorded)

theorem preparing_nil : Preparing task [] s ↔ Settled task s := by
  constructor
  · intro preparing
    refine ⟨fun id mine has => ?_, preparing.retired⟩
    exact (preparing.payload id mine has).resolve_right (by simp)
  · intro settled
    refine ⟨fun _ none => (nomatch none), List.nodup_nil, fun id mine has => ?_, settled.retired⟩
    exact Or.inl (settled.payload id mine has)

/-- A name that a call has drawn for a record. -/
structure Drawn (task : Nat) (id : Uuid) (s : State) : Prop where
  mine : id.task = task
  drawn : id.serial < s.next
  unknown : id ∉ s.known
  absent : ¬ s.Has (.payload id)

theorem Drawn.stable {id : Uuid} (leaves : Leaves task s s') (drawn : Drawn task id s) : Drawn task id s' where
  mine := drawn.mine
  drawn := Nat.lt_of_lt_of_le drawn.drawn leaves.next
  unknown member := drawn.unknown (leaves.own id member drawn.mine)
  absent := by
    rw [State.Has, leaves.payload id drawn.mine drawn.unknown]
    exact drawn.absent

theorem draw_eq {choice : Choice} {reply : Reply .draw} (answered : environment.answer task .draw choice s = some (reply, s')) :
    reply.1 = ⟨task, s.next⟩ ∧ s' = { s with next := s.next + 1 } := by
  rcases answer_cases answered with ⟨left, -, refused, -, -⟩ | performed
  · cases refused
  · cases choice <;> cases performed
    exact ⟨rfl, rfl⟩

theorem drawn_of_answer (sound : Sound s) {choice : Choice} {reply : Reply .draw}
    (answered : environment.answer task .draw choice s = some (reply, s')) : Drawn task reply.1 s' := by
  obtain ⟨is, rfl⟩ := draw_eq answered
  rw [is]
  refine ⟨rfl, Nat.lt_succ_self _, fun member => ?_, fun has => ?_⟩
  · exact Nat.lt_irrefl _ (sound.drawn _ member)
  · exact Nat.lt_irrefl _ (sound.drawnPayload _ has)

theorem writePayload_meets {record : QuarantinedAttachment} {content : Content} {next : Except Failure Unit → Work α}
    {post : Except Failure α → State → Prop} (preparing : Preparing task created s) (drawn : Drawn task record.id s)
    (ok : ∀ s', Preparing task (created ++ [record]) s' → meets environment contract task (next (.ok ())) post s')
    (error : ∀ error s', Settled task s' → meets environment contract task (next (.error error)) post s') :
    meets environment contract task (.call (.writePayload record.id content) next) post s := by
  refine call_meets (A := fun s => Preparing task created s ∧ Drawn task record.id s)
    (fun s s' leaves both => ⟨both.1.stable leaves, both.2.stable leaves⟩) ⟨preparing, drawn⟩ ?_
  rintro s' ⟨preparing, drawn⟩ sound choice reply s'' allowed answered
  rcases answer_cases answered with ⟨left, rfl, is, rfl, -⟩ | performed
  · cases is
    obtain ⟨rfl, recorded⟩ := allowed
    have same : s'.withFile (.payload record.id) none = s' := by
      have nothing : s'.files (.payload record.id) = none := by simpa [State.Has] using drawn.absent
      rw [State.withFile, ← nothing, Function.update_eq_self]
    have quiet : Quiet s' { damage (.writePayload record.id content) none s' with failed := task :: s'.failed } := by
      have unharmed : damage (.writePayload record.id content) none s' = s' := by
        rw [damage, same, ite_self]
      rw [unharmed]
      exact quiet_failed
    refine ⟨quiet.guar sound, error _ _ (Settled.stable ⟨fun id mine has => ?_, preparing.retired⟩ (quiet.leaves task))⟩
    exact sound.recordedKnown id (recorded id mine has)
  · have written : writePayload record.id content s' = (.ok (), s'.withFile (.payload record.id) (some content)) :=
      if_neg drawn.absent
    cases choice <;> simp only [perform, written, Option.some.injEq, Prod.mk.injEq, reduceCtorEq] at performed
    obtain ⟨rfl, rfl⟩ := performed
    refine ⟨guar_payload sound drawn.mine drawn.unknown drawn.drawn _, ok _ ?_⟩
    have other : ∀ earlier ∈ created, earlier.id ≠ record.id := fun earlier member same =>
      drawn.absent (same ▸ (preparing.written earlier member).has)
    constructor
    case written =>
      intro earlier member
      rcases List.mem_append.1 member with old | new
      · have before := preparing.written earlier old
        exact ⟨before.mine, before.unknown, by simpa [other earlier old] using before.has⟩
      · rw [List.mem_singleton.1 new]
        exact ⟨drawn.mine, drawn.unknown, by simp⟩
    case distinct =>
      rw [List.map_append, List.nodup_append]
      refine ⟨preparing.distinct, by simp, ?_⟩
      intro id old id' new
      obtain ⟨earlier, member, rfl⟩ := List.mem_map.1 old
      rw [List.mem_singleton.1 new]
      exact other earlier member
    case payload =>
      intro id mine has
      rw [List.map_append, List.mem_append]
      by_cases same : id = record.id
      · exact Or.inr (Or.inr (by simp [same]))
      · exact (preparing.payload id mine (by simpa [same] using has)).imp_right Or.inl
    case retired => exact fun id name mine has => preparing.retired id name mine (by simpa using has)

theorem createdOf_append (prepared : List Prepared) (record : QuarantinedAttachment) :
    createdOf (prepared ++ [.created record]) = createdOf prepared ++ [record] := by
  simp [createdOf, List.filterMap_append]

theorem createdOf_existing (prepared : List Prepared) (record : QuarantinedAttachment) :
    createdOf (prepared ++ [.existing record]) = createdOf prepared := by
  simp [createdOf, List.filterMap_append]

/-- The loop over the items leaves files for those that it has made records for. -/
theorem prepare_meets (sha256 : Content → JsString) (place : MessagePlace) (current : List QuarantinedAttachment)
    {items : List Item} (risky : ∀ item ∈ items, item.risk.level ≠ .ordinary) {prepared : List Prepared}
    (preparing : Preparing task (createdOf prepared) s) :
    meets environment contract task (prepare sha256 place current items prepared)
      (either (fun prepared => Preparing task (createdOf prepared)) fun _ => Settled task) s := by
  induction items generalizing prepared s with
  | nil => exact preparing
  | cons item items ih =>
    obtain ⟨isRisky, risky⟩ := List.forall_mem_cons.1 risky
    rw [prepare, if_neg isRisky]
    split
    · exact ih risky (createdOf_existing prepared _ ▸ preparing)
    · refine quiet_meets .draw rfl (fun _ _ => Preparing.stable) preparing fun choice drawn s₁ s₂ _ preparing sound answered => ?_
      have isDrawn := drawn_of_answer sound answered
      refine writePayload_meets preparing isDrawn (fun s₃ preparing => ?_) fun error s₃ settled => settled
      exact ih risky (createdOf_append prepared _ ▸ preparing)

theorem removeAll_meets {left : List QuarantinedAttachment} (preparing : Preparing task left s) :
    meets environment contract task (removeAll left) (fun _ => Settled task) s := by
  induction left generalizing s with
  | nil => exact preparing_nil.1 preparing
  | cons record left ih =>
    refine call_meets (fun _ _ => Preparing.stable) preparing fun s' preparing sound choice reply s'' allowed answered => ?_
    have written := preparing.written record List.mem_cons_self
    rcases answer_cases answered with ⟨kept, rfl, -, -, -⟩ | performed
    · exact absurd (sound.recordedKnown _ (allowed written.has)) written.unknown
    · cases choice <;> cases performed
      obtain ⟨alone, distinct⟩ := List.nodup_cons.1 preparing.distinct
      refine ⟨guar_payload sound written.mine written.unknown (sound.drawnPayload _ written.has) _, ?_⟩
      refine meets_seq (meets_mono (ih ⟨fun other member => ?_, distinct, fun id mine has => ?_, fun id name mine has => ?_⟩) ?_)
      · have different : other.id ≠ record.id := fun same => alone (List.mem_map.2 ⟨other, member, same⟩)
        have before := preparing.written other (List.mem_cons_of_mem _ member)
        exact ⟨before.mine, before.unknown, by simpa [different] using before.has⟩
      · have different : id ≠ record.id := by
          rintro rfl
          simp at has
        have before := preparing.payload id mine (by simpa [different] using has)
        rwa [List.map_cons, List.mem_cons, or_iff_right different] at before
      · exact preparing.retired id name mine (by simpa using has)
      · intro result s₃ settled
        cases result with
        | ok others => exact settled
        | error error => exact settled

/-- The records that were not added still have files. -/
theorem preparing_rest (sound : Sound s) (preparing : Preparing task created s) :
    Preparing task (created.filter fun record =>
      record.id ∉ (addCreated created s.quarantinedAttachments).1.acceptedIds) (storeCreated created s).2 := by
  have known : ∀ other, other ∈ (storeCreated created s).2.known ↔
      other ∈ (addCreated created s.quarantinedAttachments).1.acceptedIds ∨ other ∈ s.known :=
    fun other => List.mem_append
  constructor
  case written =>
    intro record member
    obtain ⟨listed, rest⟩ := List.mem_filter.1 member
    have before := preparing.written record listed
    have unaccepted := of_decide_eq_true rest
    exact ⟨before.mine, fun isKnown => ((known _).1 isKnown).elim unaccepted before.unknown, before.has⟩
  case distinct => exact preparing.distinct.sublist (List.filter_sublist.map _)
  case payload =>
    intro id mine has
    rcases preparing.payload id mine has with old | new
    · exact Or.inl ((known id).2 (Or.inr old))
    · by_cases accepted : id ∈ (addCreated created s.quarantinedAttachments).1.acceptedIds
      · exact Or.inl ((known id).2 (Or.inl accepted))
      · obtain ⟨record, listed, rfl⟩ := List.mem_map.1 new
        exact Or.inr (List.mem_map.2 ⟨record, List.mem_filter.2 ⟨listed, by simpa using accepted⟩, rfl⟩)
  case retired =>
    intro id name mine has recorded
    rcases (hasRecord_addCreated created s.quarantinedAttachments).1 recorded with old | new
    · exact preparing.retired id name mine has old
    · obtain ⟨record, listed, rfl⟩ := List.mem_map.1 (addCreated_ids _ _ new)
      exact (preparing.written record listed).unknown (sound.retiredKnown _ name has)

theorem storeCreated_meets {next : Except Failure Accepted → Work α} {post : Except Failure α → State → Prop}
    (preparing : Preparing task created s)
    (ok : ∀ accepted s', Preparing task (created.filter fun record => record.id ∉ accepted.acceptedIds) s' →
      meets environment contract task (next (.ok accepted)) post s')
    (error : ∀ error s', Preparing task created s' → meets environment contract task (next (.error error)) post s') :
    meets environment contract task (.call (.storeCreated created) next) post s := by
  refine call_meets (fun _ _ => Preparing.stable) preparing fun s' preparing sound choice reply s'' _ answered => ?_
  rcases answer_cases answered with ⟨left, -, is, rfl, -⟩ | performed
  · cases is
    have quiet : Quiet s' { damage (.storeCreated created) left s' with failed := task :: s'.failed } := quiet_failed
    exact ⟨quiet.guar sound, error _ _ (preparing.stable (quiet.leaves task))⟩
  · cases choice <;> cases performed
    exact ⟨guar_created sound preparing.written preparing.distinct, ok _ _ (preparing_rest sound preparing)⟩

theorem quarantineAttachments_meets (sha256 : Content → JsString) (place : MessagePlace) {items : List Item}
    (risky : ∀ item ∈ items, item.risk.level ≠ .ordinary) (settled : Settled task s) :
    meets environment contract task (quarantineAttachments sha256 place items) (fun _ => Settled task) s := by
  have stable : ∀ s s', Leaves task s s' → Settled task s → Settled task s' := fun _ _ leaves settled => settled.stable leaves
  unfold quarantineAttachments
  split
  · exact settled
  · refine quiet_meets .mkdir rfl stable settled fun _ made _ s₁ _ settled _ _ => ?_
    refine orThrow_meets (fun _ _ => ?_) fun _ _ => settled
    refine quiet_meets .readStore rfl stable settled fun _ read _ s₂ _ settled _ _ => ?_
    refine orThrow_meets (fun currentState _ => ?_) fun _ _ => settled
    refine meets_seq (meets_mono (prepare_meets sha256 place currentState risky (preparing_nil.2 settled)) ?_)
    intro result s₃ ended
    cases result with
    | error error => exact ended
    | ok prepared =>
      dsimp only [either]
      split
      · rename_i nothing
        exact preparing_nil.1 (nothing ▸ ended)
      · refine storeCreated_meets ended (fun accepted s₄ rest => ?_) fun error s₄ preparing => ?_
        · refine meets_seq (meets_mono (removeAll_meets rest) fun result s₅ settled => ?_)
          cases result with
          | error error => exact settled
          | ok removed => exact orThrow_meets (fun _ _ => settled) fun _ _ => settled
        · refine meets_seq (meets_mono (removeAll_meets preparing) fun result s₅ settled => ?_)
          cases result with
          | error error => exact settled
          | ok removed => exact settled

end Quarantining

section Retiring

variable {s s' : State} {task : Nat} {id name : Uuid}

/-- A file has been set aside, and its record is still there. -/
structure Holding (task : Nat) (id name : Uuid) (s : State) : Prop where
  mine : name.task = task
  payload : ∀ id : Uuid, id.task = task → s.Has (.payload id) → id ∈ s.known
  has : s.Has (.retired id name)
  recorded : s.Recorded id
  retired : ∀ other name' : Uuid, name'.task = task → s.Has (.retired other name') →
    ¬ s.Recorded other ∨ other = id ∧ name' = name

theorem Holding.stable (leaves : Leaves task s s') (holding : Holding task id name s) : Holding task id name s' where
  mine := holding.mine
  payload id mine has := by
    by_cases known : id ∈ s.known
    · exact leaves.known id known
    · rw [State.Has, leaves.payload id mine known] at has
      exact absurd (holding.payload id mine has) known
  has := (leaves.has_retired holding.mine).2 holding.has
  recorded := leaves.held id name holding.mine holding.has holding.recorded
  retired other name' mine has := by
    have before := (leaves.has_retired mine).1 has
    exact (holding.retired other name' mine before).imp_left fun gone recorded =>
      gone (leaves.gone other name' mine before recorded)

theorem storeWithout_meets {next : Except Failure Unit → Work α} {post : Except Failure α → State → Prop}
    (holding : Holding task id name s)
    (ok : ∀ s', Settled task s' → meets environment contract task (next (.ok ())) post s')
    (error : ∀ error s', Holding task id name s' ∧ task ∈ s'.failed →
      meets environment contract task (next (.error error)) post s') :
    meets environment contract task (.call (.storeWithout id) next) post s := by
  refine call_meets (fun _ _ => Holding.stable) holding fun s' holding sound choice reply s'' _ answered => ?_
  rcases answer_cases answered with ⟨left, -, is, rfl, -⟩ | performed
  · cases is
    have quiet : Quiet s' { damage (.storeWithout id) left s' with failed := task :: s'.failed } := quiet_failed
    exact ⟨quiet.guar sound, error _ _ ⟨holding.stable (quiet.leaves task), List.mem_cons_self⟩⟩
  · have removed : storeWithout id s' =
        (.ok (), { s' with quarantinedAttachments := withoutRecord id s'.quarantinedAttachments }) :=
      if_pos holding.recorded
    cases choice <;> simp only [perform, removed, Option.some.injEq, Prod.mk.injEq, reduceCtorEq] at performed
    obtain ⟨rfl, rfl⟩ := performed
    refine ⟨guar_without sound holding.mine holding.has holding.recorded, ok _ ⟨holding.payload, ?_⟩⟩
    intro other name' mine has recorded
    obtain ⟨before, different⟩ := hasRecord_without.1 recorded
    exact (holding.retired other name' mine has).elim (fun gone => gone before) fun same => different same.1

/-- A call that has set nothing aside finds no record. -/
theorem storeWithout_refused {next : Except Failure Unit → Work α} {post : Except Failure α → State → Prop}
    (settled : Settled task s)
    (error : ∀ error s', Settled task s' → meets environment contract task (next (.error error)) post s') :
    meets environment contract task (.call (.storeWithout id) next) post s := by
  refine call_meets (fun _ _ leaves settled => Settled.stable settled leaves) settled ?_
  intro s' settled sound choice reply s'' allowed answered
  rcases answer_cases answered with ⟨left, -, is, rfl, -⟩ | performed
  · cases is
    have quiet : Quiet s' { damage (.storeWithout id) left s' with failed := task :: s'.failed } := quiet_failed
    exact ⟨quiet.guar sound, error _ _ (settled.stable (quiet.leaves task))⟩
  · cases choice with
    | proceeds =>
      have gone : ¬ s'.Recorded id := by
        intro recorded
        obtain ⟨name, mine, has⟩ := allowed recorded
        exact settled.retired id name mine has recorded
      have refused : storeWithout id s' = (.error noLongerAvailable, s') := if_neg gone
      simp only [perform, refused, Option.some.injEq, Prod.mk.injEq] at performed
      obtain ⟨rfl, rfl⟩ := performed
      exact ⟨quiet_refl.guar sound, error _ _ settled⟩
    | _ => cases performed

/-- The file is put back; nothing else fails in a call in which the store has. -/
theorem restore_meets {next : Except Failure Unit → Work α} {post : Except Failure α → State → Prop}
    (holding : Holding task id name s ∧ task ∈ s.failed)
    (goes : ∀ reply s', Settled task s' → meets environment contract task (next reply) post s') :
    meets environment contract task (.call (.rename (.retired id name) (.payload id)) next) post s := by
  refine call_meets (A := fun s => Holding task id name s ∧ task ∈ s.failed)
    (fun _ _ leaves both => ⟨both.1.stable leaves, leaves.failed both.2⟩) holding ?_
  rintro s' ⟨holding, failed⟩ sound choice reply s'' _ answered
  rcases answer_cases answered with ⟨_, -, -, -, first⟩ | performed
  · exact absurd failed first
  · obtain ⟨content, is⟩ := Option.isSome_iff_exists.1 holding.has
    have renamed : rename (.retired id name) (.payload id) s' =
        (.ok (), (s'.withFile (.retired id name) none).withFile (.payload id) (some content)) := by
      rw [rename, is]
    cases choice <;> simp only [perform, renamed, Option.some.injEq, Prod.mk.injEq, reduceCtorEq] at performed
    obtain ⟨rfl, rfl⟩ := performed
    refine ⟨guar_restore sound holding.mine holding.has holding.recorded, goes _ _ ⟨?_, ?_⟩⟩
    · intro other mine has
      by_cases same : other = id
      · exact same ▸ sound.recordedKnown id holding.recorded
      · exact holding.payload other mine (by simpa [same] using has)
    · intro other name' mine has recorded
      simp only [withFile_has, reduceCtorEq, if_false, Path.retired.injEq] at has
      split at has
      · cases has
      · rename_i apart
        exact (holding.retired other name' mine has).elim (fun gone => gone recorded) apart

/-- What has been set aside is removed, if that does not fail. -/
theorem discard_meets {next : Except Failure Unit → Work α} {post : Except Failure α → State → Prop}
    (mine : name.task = task) (settled : Settled task s)
    (goes : ∀ reply s', Settled task s' → meets environment contract task (next reply) post s') :
    meets environment contract task (.call (.remove (.retired id name)) next) post s := by
  refine call_meets (fun _ _ leaves settled => Settled.stable settled leaves) settled ?_
  intro s' settled sound choice reply s'' _ answered
  rcases answer_cases answered with ⟨left, -, is, rfl, -⟩ | performed
  · have quiet : Quiet s' { damage (.remove (.retired id name)) left s' with failed := task :: s'.failed } := quiet_failed
    exact ⟨quiet.guar sound, goes _ _ (settled.stable (quiet.leaves task))⟩
  · cases choice <;> cases performed
    refine ⟨guar_discard sound mine (settled.retired id name mine), goes _ _ ⟨fun other mine has => ?_, ?_⟩⟩
    · exact settled.payload other mine (by simpa using has)
    · intro other name' mine has
      rw [withFile_has] at has
      split at has
      · cases has
      · exact settled.retired other name' mine has

/-- A call that knows a record and has drawn a name for its file. -/
structure Named (task : Nat) (id name : Uuid) (s : State) : Prop where
  settled : Settled task s
  known : id ∈ s.known
  mine : name.task = task
  drawn : name.serial < s.next

theorem Named.stable (leaves : Leaves task s s') (named : Named task id name s) : Named task id name s' where
  settled := named.settled.stable leaves
  known := leaves.known id named.known
  mine := named.mine
  drawn := Nat.lt_of_lt_of_le named.drawn leaves.next

theorem setAside_meets {next : Except Failure Unit → Work α} {post : Except Failure α → State → Prop}
    (named : Named task id name s)
    (ok : ∀ s', Holding task id name s' → meets environment contract task (next (.ok ())) post s')
    (error : ∀ error s', Settled task s' → meets environment contract task (next (.error error)) post s') :
    meets environment contract task (.call (.rename (.payload id) (.retired id name)) next) post s := by
  refine call_meets (fun _ _ => Named.stable) named fun s' named sound choice reply s'' _ answered => ?_
  rcases answer_cases answered with ⟨left, -, is, rfl, -⟩ | performed
  · cases is
    have quiet : Quiet s' { damage (.rename (.payload id) (.retired id name)) left s' with failed := task :: s'.failed } :=
      quiet_failed
    exact ⟨quiet.guar sound, error _ _ (named.settled.stable (quiet.leaves task))⟩
  · cases is : s'.files (.payload id) with
    | none =>
      have missing : rename (.payload id) (.retired id name) s' = (.error .ENOENT, s') := by
        rw [rename, is]
      cases choice <;> simp only [perform, missing, Option.some.injEq, Prod.mk.injEq, reduceCtorEq] at performed
      obtain ⟨rfl, rfl⟩ := performed
      exact ⟨quiet_refl.guar sound, error _ _ named.settled⟩
    | some content =>
      have present : s'.Has (.payload id) := by rw [State.Has, is]; rfl
      have renamed : rename (.payload id) (.retired id name) s' =
          (.ok (), (s'.withFile (.payload id) none).withFile (.retired id name) (some content)) := by
        rw [rename, is]
      cases choice <;> simp only [perform, renamed, Option.some.injEq, Prod.mk.injEq, reduceCtorEq] at performed
      obtain ⟨rfl, rfl⟩ := performed
      refine ⟨guar_aside sound named.mine named.drawn named.known present, ok _ ⟨named.mine, ?_, by simp, ?_, ?_⟩⟩
      · intro other mine has
        simp only [withFile_has, reduceCtorEq, if_false] at has
        split at has
        · cases has
        · exact named.settled.payload other mine has
      · exact sound.live id named.known present
      · intro other name' mine has
        simp only [withFile_has, reduceCtorEq, if_false, Path.retired.injEq] at has
        split at has
        · rename_i same
          exact Or.inr same
        · exact Or.inl (named.settled.retired other name' mine has)

theorem recordOf_eq_some {records : List QuarantinedAttachment} {record : QuarantinedAttachment}
    (found : recordOf id records = some record) : record ∈ records ∧ record.id = id :=
  ⟨List.mem_of_find?_eq_some found, by simpa using List.find?_some found⟩

/-- The records that the store has are known from then on. -/
theorem readStore_meets {next : Except Failure (List QuarantinedAttachment) → Work α}
    {post : Except Failure α → State → Prop} (settled : Settled task s)
    (ok : ∀ records s', Settled task s' → (∀ record ∈ records, record.id ∈ s'.known) →
      meets environment contract task (next (.ok records)) post s')
    (error : ∀ error s', Settled task s' → meets environment contract task (next (.error error)) post s') :
    meets environment contract task (.call .readStore next) post s := by
  refine quiet_meets .readStore rfl (fun _ _ leaves settled => Settled.stable settled leaves) settled ?_
  intro choice reply s₁ s₂ _ settled sound answered
  rcases answer_cases answered with ⟨left, -, is, rfl, -⟩ | performed
  · cases is
    exact error _ _ settled
  · cases choice <;> cases performed
    exact ok _ _ settled fun record member => sound.recordedKnown _ ⟨record, member, rfl⟩

theorem drawName_meets {next : Uuid × JsString → Work α} {post : Except Failure α → State → Prop}
    (settled : Settled task s) (known : id ∈ s.known)
    (goes : ∀ drawn s', Named task id drawn.1 s' → meets environment contract task (next drawn) post s') :
    meets environment contract task (.call .draw next) post s := by
  refine quiet_meets (A := fun s => Settled task s ∧ id ∈ s.known) .draw rfl
    (fun _ _ leaves both => ⟨both.1.stable leaves, leaves.known id both.2⟩) ⟨settled, known⟩ ?_
  rintro choice drawn s₁ s₂ _ ⟨settled, known⟩ sound answered
  obtain ⟨is, rfl⟩ := draw_eq answered
  refine goes drawn _ ⟨settled, known, ?_, ?_⟩
  · rw [is]
  · rw [is]
    exact Nat.lt_succ_self _

theorem releaseQuarantinedAttachment_meets (sha256 : Content → JsString) (settled : Settled task s) :
    meets environment contract task (releaseQuarantinedAttachment sha256 id) (fun _ => Settled task) s := by
  unfold releaseQuarantinedAttachment
  refine readStore_meets settled (fun state s₁ settled known => ?_) fun _ _ settled => settled
  refine orThrow_meets (fun _ is => ?_) fun _ _ => settled
  cases is
  cases found : recordOf id state with
  | none => exact settled
  | some record =>
    obtain ⟨member, rfl⟩ := recordOf_eq_some found
    have stable : ∀ s s', Leaves task s s' → (Settled task s ∧ record.id ∈ s.known) →
        Settled task s' ∧ record.id ∈ s'.known :=
      fun _ _ leaves both => ⟨both.1.stable leaves, leaves.known _ both.2⟩
    refine quiet_meets (.readPayload record.id) rfl stable ⟨settled, known record member⟩ ?_
    rintro _ read _ s₂ - ⟨settled, known⟩ - -
    refine orThrow_meets (fun payload _ => ?_) fun _ _ => settled
    dsimp only
    split
    · exact settled
    · refine quiet_meets .showSaveDialog rfl stable ⟨settled, known⟩ ?_
      rintro _ chosen _ s₃ - ⟨settled, known⟩ - -
      cases chosen with
      | none => exact settled
      | some filePath =>
        refine quiet_meets (.writeReleased filePath payload) rfl stable ⟨settled, known⟩ ?_
        rintro _ written _ s₄ - ⟨settled, known⟩ - -
        refine orThrow_meets (fun _ _ => ?_) fun _ _ => settled
        refine drawName_meets settled known fun drawn s₅ named => ?_
        refine setAside_meets named (fun s₆ holding => ?_) fun _ _ settled => settled
        refine storeWithout_meets holding (fun s₇ settled => ?_) fun error s₇ holding => ?_
        · refine discard_meets named.mine settled fun removed s₈ settled => ?_
          exact orThrow_meets (fun _ _ => settled) fun _ _ => settled
        · exact restore_meets holding fun _ _ settled => settled

theorem moveAside_meets (named : Named task id name s) :
    meets environment contract task (moveAside id name)
      (either (fun moved => if moved then Holding task id name else Settled task) fun _ => Settled task) s := by
  unfold moveAside
  refine setAside_meets named (fun s' holding => holding) fun error s' settled => ?_
  by_cases missing : error = .ENOENT
  · subst missing
    exact settled
  · show meets environment contract task (if error = .ENOENT then (pure false : Work Bool) else .throw error) _ s'
    rw [if_neg missing]
    exact settled

theorem deleteQuarantinedAttachment_meets (settled : Settled task s) :
    meets environment contract task (deleteQuarantinedAttachment id) (fun _ => Settled task) s := by
  unfold deleteQuarantinedAttachment
  refine readStore_meets settled (fun state s₁ settled known => ?_) fun _ _ settled => settled
  refine orThrow_meets (fun _ is => ?_) fun _ _ => settled
  cases is
  cases found : recordOf id state with
  | none => exact settled
  | some record =>
    obtain ⟨member, rfl⟩ := recordOf_eq_some found
    refine drawName_meets settled (known record member) fun drawn s₂ named => ?_
    refine meets_seq (meets_mono (moveAside_meets named) fun result s₃ moved => ?_)
    cases result with
    | error error => exact moved
    | ok payloadMoved =>
      cases payloadMoved with
      | false => exact storeWithout_refused moved fun _ _ settled => settled
      | true =>
        refine storeWithout_meets moved (fun s₄ settled => ?_) fun error s₄ holding => ?_
        · refine discard_meets named.mine settled fun removed s₅ settled => ?_
          cases removed with
          | ok _ => exact settled
          | error error => exact settled
        · exact restore_meets holding fun _ _ settled => settled

end Retiring

section Runs

variable {s : State} {task : Nat}

theorem request_meets (sha256 : Content → JsString) (request : Request) (starts : conditions.starts request s)
    (settled : Settled task s) :
    meets environment contract task (request.program sha256) (fun _ => Settled task) s := by
  cases request with
  | quarantine place items =>
    refine meets_seq (meets_mono (quarantineAttachments_meets sha256 place starts settled) fun result s' settled => ?_)
    cases result with
    | ok value => exact settled
    | error error => exact settled
  | release id =>
    refine meets_seq (meets_mono (releaseQuarantinedAttachment_meets sha256 settled) fun result s' settled => ?_)
    cases result with
    | ok value => exact settled
    | error error => exact settled
  | delete id => exact deleteQuarantinedAttachment_meets settled

theorem empty_sound : Sound .empty := by
  constructor <;> simp [State.empty, State.Recorded, State.Has, hasRecord]

theorem empty_settled (task : Nat) : Settled task .empty := by
  constructor <;> simp [State.empty, State.Recorded, State.Has, hasRecord]

/-- Files and records are the same when all calls are over. -/
theorem consistent_of_settled (sound : Sound s) (settled : ∀ task, Settled task s) : Consistent s := by
  intro id
  constructor
  · exact fun has => sound.live id ((settled id.task).payload id rfl has) has
  · intro recorded
    rcases sound.backed id recorded with has | ⟨name, has⟩
    · exact has
    · exact absurd recorded ((settled name.task).retired id name rfl has)

/-- In every run in which the conditions are met, files and records agree whenever no call is on its way. -/
theorem quarantine_consistent (sha256 : Content → JsString) {events : List (Event Request Choice)}
    {w : World Op Reply Failure State}
    (admitted : (⟨.empty, []⟩ : World Op Reply Failure State).Admitted environment conditions (Request.program sha256) events)
    (ran : (⟨.empty, []⟩ : World Op Reply Failure State).run environment (Request.program sha256) events = some w)
    (idle : w.Finished) : Consistent w.state := by
  have kept := run_kept contract_lawful
    (fun task request s _ settled starts => request_meets sha256 request starts settled)
    (idle_kept empty_sound empty_settled) admitted ran
  exact consistent_of_settled kept.inv (kept.finished idle)

/-- An attachment without content. -/
def macroDocument : Item where
  filename := ofString "invoice.docm"
  contentType := ofString "application/vnd.ms-word.document.macroenabled.12"
  content := []
  index := 0
  risk := ⟨.caution, [.macroEnabledDocument]⟩

def invoiceMessage : MessagePlace := ⟨ofString "account", ofString "INBOX", 7, ofString "1", none⟩

def digestOfNothing (_ : Content) : JsString :=
  ofString "e3b0c44298fc1c149afbf4c8996fb92427ae41e4649b934ca495991b7852b855"

/-- One attachment is quarantined. -/
def quarantined : List (Event Request Choice) :=
  [.start (.quarantine invoiceMessage [macroDocument]), .act 0 .proceeds, .act 0 .proceeds, .act 0 (.stamped []),
    .act 0 .proceeds, .act 0 .proceeds]

theorem quarantined_consistent : ∃ w : World Op Reply Failure State,
    (⟨.empty, []⟩ : World Op Reply Failure State).run environment (Request.program digestOfNothing) quarantined = some w ∧
      w.state.Recorded ⟨0, 0⟩ ∧ Consistent w.state := by
  have risky : ∀ item ∈ [macroDocument], item.risk.level ≠ .ordinary := by decide
  have admitted : (⟨.empty, []⟩ : World Op Reply Failure State).Admitted environment conditions
      (Request.program digestOfNothing) quarantined := by
    refine World.admitted_cons risky rfl ?_
    refine World.admitted_cons trivial rfl (World.admitted_cons trivial rfl (World.admitted_cons trivial rfl ?_))
    exact World.admitted_cons trivial rfl (World.admitted_cons trivial rfl trivial)
  exact ⟨_, rfl, by decide, quarantine_consistent digestOfNothing admitted rfl (by decide)⟩

/-- Two calls delete the attachment. The first has set the file aside when the second, which finds none, removes the
record; the first then puts the file back. -/
def deletedTwice : List (Event Request Choice) :=
  quarantined ++ [.start (.delete ⟨0, 0⟩), .start (.delete ⟨0, 0⟩), .act 1 .proceeds, .act 2 .proceeds,
    .act 1 (.stamped []), .act 2 (.stamped []), .act 1 .proceeds, .act 2 .proceeds, .act 2 .proceeds, .act 1 .proceeds,
    .act 1 .proceeds]

theorem deletedTwice_leaves_file : ¬ ∀ (events : List (Event Request Choice)) (w : World Op Reply Failure State),
    (⟨.empty, []⟩ : World Op Reply Failure State).run environment (Request.program digestOfNothing) events = some w →
      w.Finished → Consistent w.state := by
  intro consistent
  have recorded := (consistent deletedTwice _ rfl (by decide) ⟨0, 0⟩).1 rfl
  exact absurd recorded (by decide)

end Runs

end Quarantine
