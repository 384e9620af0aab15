import MaterialEmail.MessageTags.Invariant

/-! When the store takes the states of the message tags: whether an operation leaves what the schema accepts
is decided by the identifier and the ordinal of a tag that is created, and by the length of a new key. -/
namespace MessageTags

open JsString

variable {host : Host} {state next : MessageTagState} {catalog : List MessageTag}

/-- The store takes the state, and gives it back as it is. -/
def Accepted (host : Host) (state : MessageTagState) : Prop := messageTagStateSchema host state = some state

structure Sound (host : Host) (state : MessageTagState) : Prop where
  formed : WellFormed host state
  accepted : Accepted host state

/-- What the schema asks of a state beyond what every state keeps. -/
structure Storable (host : Host) (state : MessageTagState) : Prop where
  ids : ∀ tag ∈ state.catalog, messageTagIdSchema host tag.id = true
  ordinals : ∀ tag ∈ state.catalog, tag.ordinal ≤ catalogLimit
  keys : ∀ assignment ∈ state.assignments, assignment.1.length ≤ keyLimit

section Schema

theorem messageTagSchema_iff {tag : MessageTag} (presentable : Presentable tag) :
    messageTagSchema host tag = true ↔ messageTagIdSchema host tag.id = true ∧ tag.ordinal ≤ catalogLimit := by
  simp [messageTagSchema, presentable.named, presentable.short, presentable.coloured, presentable.ordered]

theorem eraseDups_eq_self {ids : List JsString} (distinct : ids.Nodup) : ids.eraseDups = ids := by
  induction ids with
  | nil => rfl
  | cons id ids ih =>
    obtain ⟨absent, distinct⟩ := List.nodup_cons.1 distinct
    have others : ids.filter (fun other => !other == id) = ids := by
      rw [List.filter_eq_self]
      intro other member
      simpa using fun same : other = id => absent (same ▸ member)
    rw [List.eraseDups_cons, others, ih distinct]

/-- Tags that messages have already are what the schema leaves of them. -/
theorem schema_assignments {assignments : Assignments} (assigned : ∀ assignment ∈ assignments, Assigned catalog assignment.2) :
    ((assignments.map fun (key, ids) => (key, ids.eraseDups.filter (· ∈ catalog.map (·.id)))).filter (·.2 ≠ [])) =
      assignments := by
  have same : (assignments.map fun (key, ids) => (key, ids.eraseDups.filter (· ∈ catalog.map (·.id)))) = assignments := by
    refine (List.map_congr_left fun assignment member => ?_).trans (List.map_id _)
    have kept := assigned assignment member
    have allKnown : assignment.2.filter (· ∈ catalog.map (·.id)) = assignment.2 := by
      rw [List.filter_eq_self]
      intro id member
      simpa using kept.known member
    simp only [eraseDups_eq_self kept.distinct, allKnown]
    rfl
  rw [same, List.filter_eq_self]
  intro assignment member
  simpa using (assigned assignment member).nonempty

theorem accepted_iff (formed : WellFormed host state) : Accepted host state ↔ Storable host state := by
  have tags : state.catalog.all (messageTagSchema host) = true ↔
      ∀ tag ∈ state.catalog, messageTagIdSchema host tag.id = true ∧ tag.ordinal ≤ catalogLimit := by
    rw [List.all_eq_true]
    exact forall₂_congr fun tag member => messageTagSchema_iff (formed.catalogue.presentable tag member)
  have unchanged := schema_assignments formed.assignments.assigned
  unfold Accepted messageTagStateSchema
  constructor
  · intro accepted
    split at accepted
    · rename_i fits
      obtain ⟨-, catalogOk, assignmentsOk, -⟩ := fits
      have tagsOk := tags.1 catalogOk
      refine ⟨fun tag member => (tagsOk tag member).1, fun tag member => (tagsOk tag member).2, ?_⟩
      intro assignment member
      have ok := List.all_eq_true.1 assignmentsOk assignment member
      simp only [assignmentSchema, Bool.and_eq_true, decide_eq_true_eq] at ok
      exact ok.1.1.1.2
    · cases accepted
  · intro storable
    have assignmentsOk : state.assignments.all (assignmentSchema host) = true := by
      rw [List.all_eq_true]
      intro assignment member
      have kept := formed.assignments.assigned assignment member
      have idsOk : ∀ id ∈ assignment.2, messageTagIdSchema host id = true := by
        intro id inIds
        obtain ⟨tag, isTag, rfl⟩ := List.mem_map.1 (kept.known inIds)
        exact storable.ids tag isTag
      simp only [assignmentSchema, Bool.and_eq_true, decide_eq_true_eq, List.all_eq_true]
      exact ⟨⟨⟨⟨formed.assignments.key_nonempty _ (List.mem_map_of_mem member), storable.keys _ member⟩,
        kept.nonempty⟩, kept.few⟩, idsOk⟩
    have tagsOk := tags.2 fun tag member => ⟨storable.ids tag member, storable.ordinals tag member⟩
    rw [if_pos ⟨formed.catalogue.few, tagsOk, assignmentsOk, formed.assignments.few⟩]
    simp only [unchanged]

end Schema

/-- The operations that leave a state the store takes. A tag is created below the highest ordinal, its
slug is not cut within a pair, and where the slug is an identifier already there is room for a suffix; a
message that is given tags has a key of a length that is stored. -/
def Fits (host : Host) (state : MessageTagState) : Operation → Prop
  | .add name colour => Creates host state.catalog name colour →
      (∀ tag ∈ state.catalog, tag.ordinal < catalogLimit) ∧
      SlugCut host (normalizeMessageTagName host name) ∧
      HasRoom (messageTagId host (normalizeMessageTagName host name)) (state.catalog.map (·.id))
  | .apply message tagIds => (∃ tag ∈ state.catalog, tag.id ∈ tagIds) → (messageTagKey message).length ≤ keyLimit
  | .carry source destination => (state.tagIds (messageTagKey source)).isSome = true →
      ∀ key ∈ destination.bind (·.key source.accountId), key.length ≤ keyLimit
  | .edit _ _ | .remove _ | .forgetAccount _ | .forgetFolder _ _ => True

section Steps

theorem wellFormed_perform {operation : Operation} (formed : WellFormed host state)
    (ok : perform host state operation = .ok next) : WellFormed host next := by
  cases operation with
  | add name colour =>
    cases made : createMessageTag host state.catalog name colour with
    | error error =>
      simp only [perform, addMessageTag, made] at ok
      cases ok
    | ok tag =>
      simp only [perform, addMessageTag, made] at ok
      cases ok
      refine ⟨(formed.catalogue.add made).perm sortMessageTags_perm, formed.assignments.mono ?_⟩
      intro id member
      exact (sortMessageTags_perm.map _).symm.subset (by simpa using Or.inl (List.mem_map.1 member))
  | edit id patch =>
    cases made : updateMessageTag host state.catalog id patch with
    | error error =>
      simp only [perform, editMessageTag, made] at ok
      cases ok
    | ok catalog =>
      simp only [perform, editMessageTag, made] at ok
      cases ok
      obtain ⟨name, colour, ordinal, edited, rfl⟩ := updateMessageTag_eq_ok formed.catalogue made
      refine ⟨(formed.catalogue.edit edited).perm sortMessageTags_perm, formed.assignments.mono ?_⟩
      intro known member
      obtain ⟨tag, isTag, rfl⟩ := List.mem_map.1 member
      refine (sortMessageTags_perm.map _).symm.subset (List.mem_map.2 ⟨_, List.mem_map_of_mem isTag, ?_⟩)
      split <;> rfl
  | remove id =>
    cases made : deleteMessageTag state id with
    | error error =>
      simp only [perform, removeMessageTag, made] at ok
      cases ok
    | ok deleted =>
      simp only [perform, removeMessageTag, made] at ok
      cases ok
      exact formed.delete made
  | apply message tagIds =>
    cases ok
    exact formed.set message tagIds
  | carry source destination =>
    cases ok
    refine formed.retag _ ?_
    intro key isKey
    obtain ⟨destination, _, hasKey⟩ := Option.bind_eq_some_iff.1 isKey
    obtain ⟨uid, _, rfl⟩ := Option.map_eq_some_iff.1 hasKey
    exact messageTagKey_ne_nil _
  | forgetAccount accountId =>
    cases ok
    exact formed.forget _
  | forgetFolder accountId folderPath =>
    cases ok
    exact formed.forget _

theorem storable_add {name colour : JsString} (storable : Storable host state)
    {tag : MessageTag} (made : createMessageTag host state.catalog name colour = .ok tag) :
    Storable host ⟨sortMessageTags host (state.catalog ++ [tag]), state.assignments⟩ ↔
      (∀ tag ∈ state.catalog, tag.ordinal < catalogLimit) ∧ SlugCut host (normalizeMessageTagName host name) ∧
        HasRoom (messageTagId host (normalizeMessageTagName host name)) (state.catalog.map (·.id)) := by
  obtain ⟨creates, _, _, isId, isOrdinal⟩ := createMessageTag_eq_ok made
  have idOk : messageTagIdSchema host tag.id = true ↔ SlugCut host (normalizeMessageTagName host name) ∧
      HasRoom (messageTagId host (normalizeMessageTagName host name)) (state.catalog.map (·.id)) := by
    rw [isId]
    exact messageTagIdSchema_unique (by simpa using creates.room)
  have ordinalOk : tag.ordinal ≤ catalogLimit ↔ ∀ tag ∈ state.catalog, tag.ordinal < catalogLimit := by
    rw [isOrdinal, ← highestOrdinal_lt (by decide)]
    exact Int.add_one_le_iff
  rw [← idOk, ← ordinalOk]
  have isNew : tag ∈ sortMessageTags host (state.catalog ++ [tag]) :=
    sortMessageTags_perm.symm.subset (List.mem_append_right _ (List.mem_singleton_self _))
  constructor
  · intro stored
    exact ⟨stored.ordinals tag isNew, stored.ids tag isNew⟩
  · rintro ⟨ordinal, id⟩
    refine ⟨?_, ?_, storable.keys⟩
    · intro other member
      rcases List.mem_append.1 (sortMessageTags_perm.subset member) with old | new
      · exact storable.ids other old
      · rw [List.mem_singleton.1 new]
        exact id
    · intro other member
      rcases List.mem_append.1 (sortMessageTags_perm.subset member) with old | new
      · exact storable.ordinals other old
      · rw [List.mem_singleton.1 new]
        exact ordinal

theorem storable_edit {id : JsString} {patch : TagPatch} (formed : WellFormed host state)
    (storable : Storable host state) (made : updateMessageTag host state.catalog id patch = .ok catalog) :
    Storable host ⟨catalog, state.assignments⟩ := by
  obtain ⟨name, colour, ordinal, edited, rfl⟩ := updateMessageTag_eq_ok formed.catalogue made
  have small : ordinal ≤ catalogLimit := by
    rcases edited.small with ⟨existing, isMember, rfl⟩ | small
    · exact storable.ordinals existing isMember
    · exact small
  refine ⟨?_, ?_, storable.keys⟩
  · intro tag member
    obtain ⟨old, isMember, rfl⟩ := List.mem_map.1 (sortMessageTags_perm.subset member)
    split
    · exact storable.ids old isMember
    · exact storable.ids old isMember
  · intro tag member
    obtain ⟨old, isMember, rfl⟩ := List.mem_map.1 (sortMessageTags_perm.subset member)
    split
    · exact small
    · exact storable.ordinals old isMember

theorem Storable.key_short {assignments : Assignments} (storable : Storable host ⟨catalog, assignments⟩)
    {assignment : JsString × List JsString} (member : assignment ∈ assignments) :
    assignment.1.length ≤ keyLimit := storable.keys assignment member

theorem Storable.with_assignments {assignments others : Assignments} (storable : Storable host ⟨catalog, assignments⟩)
    (short : ∀ assignment ∈ others, assignment.1.length ≤ keyLimit) : Storable host ⟨catalog, others⟩ :=
  ⟨storable.ids, storable.ordinals, short⟩

/-- Assignments with one more are stored if and only if the key of this one is. -/
theorem storable_put {assignments : Assignments} {key : JsString} {ids : List JsString}
    (storable : Storable host ⟨catalog, assignments⟩) :
    Storable host ⟨catalog, boundAssignments (Keyed.put Prod.fst (key, ids) assignments)⟩ ↔ key.length ≤ keyLimit := by
  constructor
  · intro stored
    by_cases present : key ∈ assignments.map Prod.fst
    · obtain ⟨assignment, member, rfl⟩ := List.mem_map.1 present
      exact storable.keys assignment member
    · have last : Keyed.put Prod.fst (key, ids) assignments = assignments ++ [(key, ids)] := Keyed.put_of_not_mem present
      have isNew := mem_boundAssignments assignments (key, ids)
      rw [← last] at isNew
      exact stored.key_short isNew
  · intro short
    have shorts : ∀ assignment ∈ boundAssignments (Keyed.put Prod.fst (key, ids) assignments),
        assignment.1.length ≤ keyLimit := by
      intro assignment member
      rcases Keyed.mem_put (boundAssignments_sublist.subset member) with rfl | old
      · exact short
      · exact storable.keys assignment old
    exact storable.with_assignments shorts

theorem Storable.sublist {assignments : Assignments} (storable : Storable host state)
    (fewer : assignments.Sublist state.assignments) : Storable host ⟨state.catalog, assignments⟩ :=
  ⟨storable.ids, storable.ordinals, fun assignment member => storable.keys assignment (fewer.subset member)⟩

theorem storable_delete {id : JsString} (storable : Storable host state) (made : deleteMessageTag state id = .ok next) :
    Storable host next := by
  obtain rfl := deleteMessageTag_eq_ok made
  refine ⟨fun tag member => storable.ids tag (List.mem_of_mem_filter member),
    fun tag member => storable.ordinals tag (List.mem_of_mem_filter member), ?_⟩
  intro assignment member
  have isKey := (remaining_keys _ id).subset (List.mem_map_of_mem member)
  obtain ⟨old, isMember, same⟩ := List.mem_map.1 isKey
  exact same ▸ storable.keys old isMember

theorem storable_set (storable : Storable host state) (message : MessageRef) (tagIds : List JsString) :
    Storable host (setMessageTags host state (messageTagKey message) tagIds) ↔
      ((∃ tag ∈ state.catalog, tag.id ∈ tagIds) → (messageTagKey message).length ≤ keyLimit) := by
  have selected : ((sortMessageTags host (state.catalog.filter fun tag => tag.id ∈ tagIds)).map (·.id)).take
      tagsPerMessageLimit ≠ [] ↔ ∃ tag ∈ state.catalog, tag.id ∈ tagIds := by
    have limit : tagsPerMessageLimit ≠ 0 := by decide
    rw [Ne, List.take_eq_nil_iff, or_iff_right limit, List.map_eq_nil_iff,
      ← List.length_eq_zero_iff, sortMessageTags_perm.length_eq, List.length_eq_zero_iff, List.filter_eq_nil_iff]
    simp
  rw [← selected]
  by_cases some : ((sortMessageTags host (state.catalog.filter fun tag => tag.id ∈ tagIds)).map (·.id)).take
      tagsPerMessageLimit ≠ []
  · simp only [setMessageTags, if_pos some]
    rw [storable_put storable]
    exact ⟨fun short _ => short, fun short => short some⟩
  · simp only [setMessageTags, if_neg some]
    have removed : (Keyed.without Prod.fst (messageTagKey message) state.assignments).Sublist state.assignments :=
      Keyed.without_sublist
    have fewer := storable.sublist (boundAssignments_sublist.trans removed)
    exact ⟨fun _ isSome => absurd isSome some, fun _ => fewer⟩

theorem storable_retag {key : JsString} {toKey : Option JsString} (storable : Storable host state) :
    Storable host (retagMovedMessage state key toKey) ↔
      ((state.tagIds key).isSome = true → ∀ target ∈ toKey, target.length ≤ keyLimit) := by
  unfold retagMovedMessage
  cases found : state.tagIds key with
  | none => exact ⟨fun _ isSome => (nomatch isSome), fun _ => storable⟩
  | some ids =>
    have rest : Storable host ⟨state.catalog, Keyed.without Prod.fst key state.assignments⟩ :=
      storable.sublist Keyed.without_sublist
    cases toKey with
    | none => exact ⟨fun _ _ target isTarget => (nomatch isTarget), fun _ => rest.sublist boundAssignments_sublist⟩
    | some target =>
      dsimp only
      rw [storable_put rest]
      simp

/-- A step from a state that is stored leaves one that is, if and only if the operation fits. -/
theorem storable_step (operation : Operation) (formed : WellFormed host state) (storable : Storable host state) :
    Storable host (step host state operation) ↔ Fits host state operation := by
  cases operation with
  | add name colour =>
    cases made : createMessageTag host state.catalog name colour with
    | error error =>
      simp only [step, perform, addMessageTag, made, Fits]
      refine ⟨fun _ creates => ?_, fun _ => storable⟩
      obtain ⟨tag, created⟩ := createMessageTag_ok creates
      rw [created] at made
      cases made
    | ok tag =>
      have creates := (createMessageTag_eq_ok made).1
      simp only [step, perform, addMessageTag, made, Fits]
      exact (storable_add storable made).trans ⟨fun fits _ => fits, fun fits => fits creates⟩
  | edit id patch =>
    refine iff_of_true ?_ trivial
    cases made : updateMessageTag host state.catalog id patch with
    | error error =>
      simp only [step, perform, editMessageTag, made]
      exact storable
    | ok catalog =>
      simp only [step, perform, editMessageTag, made]
      exact storable_edit formed storable made
  | remove id =>
    refine iff_of_true ?_ trivial
    cases made : deleteMessageTag state id with
    | error error =>
      simp only [step, perform, removeMessageTag, made]
      exact storable
    | ok deleted =>
      simp only [step, perform, removeMessageTag, made]
      exact storable_delete storable made
  | apply message tagIds => exact storable_set storable message tagIds
  | carry source destination => exact storable_retag storable
  | forgetAccount accountId => exact iff_of_true (storable.sublist List.filter_sublist) trivial
  | forgetFolder accountId folderPath => exact iff_of_true (storable.sublist List.filter_sublist) trivial

end Steps

section Runs

/-- The operations that are performed all fit. -/
def Fitting (host : Host) : MessageTagState → List Operation → Prop
  | _, [] => True
  | state, operation :: operations => Fits host state operation ∧ Fitting host (step host state operation) operations

theorem wellFormed_step (formed : WellFormed host state) (operation : Operation) :
    WellFormed host (step host state operation) := by
  unfold step
  cases performed : perform host state operation with
  | error error => exact formed
  | ok next => exact wellFormed_perform formed performed

theorem wellFormed_run (formed : WellFormed host state) (operations : List Operation) :
    WellFormed host (run host state operations) := by
  induction operations generalizing state with
  | nil => exact formed
  | cons operation operations ih => exact ih (wellFormed_step formed operation)

theorem storable_run {operations : List Operation} (formed : WellFormed host state) (storable : Storable host state) :
    (∀ earlier, earlier <+: operations → Storable host (run host state earlier)) ↔ Fitting host state operations := by
  induction operations generalizing state with
  | nil =>
    refine iff_of_true (fun earlier isPrefix => ?_) trivial
    rw [List.prefix_nil.1 isPrefix]
    exact storable
  | cons operation operations ih =>
    have next := storable_step operation formed storable
    constructor
    · intro stored
      have first := stored [operation] ⟨operations, rfl⟩
      refine ⟨next.1 first, (ih (wellFormed_step formed operation) first).1 fun earlier isPrefix => ?_⟩
      exact stored (operation :: earlier) (List.cons_prefix_cons.2 ⟨rfl, isPrefix⟩)
    · rintro ⟨fits, rest⟩ earlier isPrefix
      rcases List.prefix_cons_iff.1 isPrefix with rfl | ⟨later, rfl, isLater⟩
      · exact storable
      · exact (ih (wellFormed_step formed operation) (next.2 fits)).2 rest later isLater

theorem ascii_builtIn : ∀ tag ∈ builtInMessageTags, ∀ unit ∈ tag.name, unit < 128 := by decide

theorem wellFormed_emptyMessageTagState (host : Host) : WellFormed host emptyMessageTagState := by
  have names : builtInMessageTags.map (fun tag => host.lower tag.name) =
      builtInMessageTags.map fun tag => tag.name.map asciiLower :=
    List.map_congr_left fun tag member => host.lower_ascii tag.name (ascii_builtIn tag member)
  have presentable : ∀ tag ∈ builtInMessageTags,
      tag.name ≠ [] ∧ tag.name.length ≤ nameLimit ∧ isColour tag.colour = true ∧ 0 ≤ tag.ordinal := by decide
  refine ⟨⟨by decide, ?_, by decide, fun tag member => ?_⟩, ⟨List.nodup_nil, ?_, by decide, ?_⟩⟩
  · exact names ▸ (by decide : (builtInMessageTags.map fun tag => tag.name.map asciiLower).Nodup)
  · obtain ⟨named, short, coloured, ordered⟩ := presentable tag member
    exact ⟨named, short, coloured, ordered⟩
  · exact fun key member => nomatch member
  · exact fun assignment member => nomatch member

theorem storable_emptyMessageTagState (host : Host) : Storable host emptyMessageTagState := by
  have plain : ∀ tag ∈ builtInMessageTags, tag.id ≠ [] ∧ tag.id.length ≤ nameLimit ∧
      ∀ unit ∈ tag.id, unit < 128 ∧ (isAlphanumeric unit = true ∨ unit = 45) := by decide
  refine ⟨fun tag member => ?_, by decide, fun assignment member => nomatch member⟩
  obtain ⟨nonempty, short, symbols⟩ := plain tag member
  simp [messageTagIdSchema, nonempty, short, isTagIdText_ascii symbols]

/-- Tags are told apart and messages have known ones in every state that is reached, and the store takes
every state that is reached if and only if the operations fit. -/
theorem tag_states_sound (host : Host) (operations : List Operation) :
    WellFormed host (run host emptyMessageTagState operations) ∧
    ((∀ earlier, earlier <+: operations → Sound host (run host emptyMessageTagState earlier)) ↔
      Fitting host emptyMessageTagState operations) := by
  have formed := wellFormed_emptyMessageTagState host
  refine ⟨wellFormed_run formed operations, ?_⟩
  rw [← storable_run formed (storable_emptyMessageTagState host)]
  constructor
  · intro sound earlier isPrefix
    exact (accepted_iff (sound earlier isPrefix).formed).1 (sound earlier isPrefix).accepted
  · intro stored earlier isPrefix
    have reached := wellFormed_run formed earlier
    exact ⟨reached, (accepted_iff reached).2 (stored earlier isPrefix)⟩

/-- A tag is moved to the highest ordinal, and another is added after it. -/
def tagAfterTheLast : List Operation :=
  [.edit (ofString "later") ⟨none, none, some (.finite 64)⟩, .add (ofString "Trips") (ofString "#00897b")]

theorem tagAfterTheLast_refused :
    ¬ ∀ operations, Accepted Host.plain (run Host.plain emptyMessageTagState operations) := by
  intro accepted
  have refused : messageTagStateSchema Host.plain (run Host.plain emptyMessageTagState tagAfterTheLast) = none := by
    decide
  have taken := accepted tagAfterTheLast
  unfold Accepted at taken
  rw [refused] at taken
  cases taken

end Runs

end MessageTags
