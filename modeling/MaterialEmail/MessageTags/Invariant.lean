import MaterialEmail.MessageTags.Identifiers
import MaterialEmail.Library.Fallible

/-! What every state of the message tags keeps: tags that are told apart by their identifiers and their
names, and messages with some of them. -/
namespace MessageTags

open JsString

variable {host : Host} {state next : MessageTagState} {catalog : List MessageTag} {tag : MessageTag}

/-- A name, a colour and an ordinal as the operations make them. -/
structure Presentable (tag : MessageTag) : Prop where
  named : tag.name ≠ []
  short : tag.name.length ≤ nameLimit
  coloured : isColour tag.colour = true
  ordered : 0 ≤ tag.ordinal

structure CatalogueKept (host : Host) (catalog : List MessageTag) : Prop where
  ids : (catalog.map (·.id)).Nodup
  names : (catalog.map fun tag => host.lower tag.name).Nodup
  few : catalog.length ≤ catalogLimit
  presentable : ∀ tag ∈ catalog, Presentable tag

/-- The tags of one message. -/
structure Assigned (catalog : List MessageTag) (ids : List JsString) : Prop where
  nonempty : ids ≠ []
  distinct : ids.Nodup
  few : ids.length ≤ tagsPerMessageLimit
  known : ids ⊆ catalog.map (·.id)

structure AssignmentsKept (catalog : List MessageTag) (assignments : Assignments) : Prop where
  keys : (assignments.map Prod.fst).Nodup
  key_nonempty : ∀ key ∈ assignments.map Prod.fst, key ≠ []
  few : assignments.length ≤ assignmentLimit
  assigned : ∀ assignment ∈ assignments, Assigned catalog assignment.2

structure WellFormed (host : Host) (state : MessageTagState) : Prop where
  catalogue : CatalogueKept host state.catalog
  assignments : AssignmentsKept state.catalog state.assignments

section Catalogue

variable {name colour id : JsString} {patch : TagPatch}

theorem sortMessageTags_perm : (sortMessageTags host catalog).Perm catalog := List.perm_insertionSort _ _

theorem CatalogueKept.perm {other : List MessageTag} (kept : CatalogueKept host catalog) (same : other.Perm catalog) :
    CatalogueKept host other where
  ids := (same.map _).nodup_iff.2 kept.ids
  names := (same.map _).nodup_iff.2 kept.names
  few := same.length_eq ▸ kept.few
  presentable tag member := kept.presentable tag (same.subset member)

theorem Assigned.mono {other : List MessageTag} {ids : List JsString} (assigned : Assigned catalog ids)
    (known : catalog.map (·.id) ⊆ other.map (·.id)) : Assigned other ids :=
  { assigned with known := List.Subset.trans assigned.known known }

theorem AssignmentsKept.mono {other : List MessageTag} {assignments : Assignments}
    (kept : AssignmentsKept catalog assignments) (known : catalog.map (·.id) ⊆ other.map (·.id)) :
    AssignmentsKept other assignments :=
  { kept with assigned := fun assignment member => (kept.assigned assignment member).mono known }

theorem assertName_eq_ok {normalized : JsString} (ok : assertName host name = .ok normalized) :
    normalized = normalizeMessageTagName host name ∧ normalized ≠ [] := by
  simp only [assertName] at ok
  split at ok
  · cases ok
  · cases ok
    exact ⟨rfl, ‹_›⟩

theorem length_normalizeMessageTagName : (normalizeMessageTagName host name).length ≤ nameLimit :=
  List.length_take_le _ _

theorem assertColour_eq_ok {normalized : JsString} (ok : assertColour host colour = .ok normalized) :
    normalizeMessageTagColour host colour = some normalized ∧ isColour normalized = true := by
  unfold assertColour at ok
  split at ok
  · cases ok
  · rename_i found
    cases ok
    refine ⟨found, ?_⟩
    simp only [normalizeMessageTagColour, Option.ite_none_right_eq_some, Option.some.injEq] at found
    obtain ⟨valid, rfl⟩ := found
    exact valid

theorem assertNameAvailable_eq_ok {exceptId : Option JsString}
    (ok : assertNameAvailable host catalog name exceptId = .ok ()) : nameTaken host catalog name exceptId = false := by
  unfold assertNameAvailable at ok
  split at ok
  · cases ok
  · simpa using ‹¬ nameTaken host catalog name exceptId = true›

theorem not_nameTaken {exceptId : Option JsString} (available : nameTaken host catalog name exceptId = false) :
    ∀ tag ∈ catalog, some tag.id ≠ exceptId → host.lower tag.name ≠ host.lower name := by
  simpa [nameTaken] using available

theorem highestOrdinal_foldl (catalog : List MessageTag) (highest bound : Int) :
    catalog.foldl (fun highest tag => max highest tag.ordinal) highest < bound ↔
      highest < bound ∧ ∀ tag ∈ catalog, tag.ordinal < bound := by
  induction catalog generalizing highest with
  | nil => simp
  | cons tag catalog ih =>
    rw [List.foldl_cons, ih, max_lt_iff, List.forall_mem_cons, and_assoc]

theorem highestOrdinal_lt {bound : Int} (positive : -1 < bound) :
    highestOrdinal catalog < bound ↔ ∀ tag ∈ catalog, tag.ordinal < bound := by
  unfold highestOrdinal
  rw [highestOrdinal_foldl]
  exact and_iff_right positive

theorem highestOrdinal_nonneg : 0 ≤ highestOrdinal catalog + 1 := by
  have := (highestOrdinal_foldl catalog (-1) (-1)).1
  unfold highestOrdinal
  by_contra negative
  have impossible := (this (by omega)).1
  omega

/-- A creation is not refused. -/
structure Creates (host : Host) (catalog : List MessageTag) (name colour : JsString) : Prop where
  room : catalog.length < catalogLimit
  named : normalizeMessageTagName host name ≠ []
  available : nameTaken host catalog (normalizeMessageTagName host name) none = false
  coloured : (normalizeMessageTagColour host colour).isSome = true

theorem createMessageTag_eq_ok (ok : createMessageTag host catalog name colour = .ok tag) :
    Creates host catalog name colour ∧ Presentable tag ∧ tag.name = normalizeMessageTagName host name ∧
      tag.id = uniqueTagId (messageTagId host (normalizeMessageTagName host name)) (catalog.map (·.id)) ∧
      tag.ordinal = highestOrdinal catalog + 1 := by
  unfold createMessageTag at ok
  split at ok
  · cases ok
  · rename_i room
    obtain ⟨normalized, named, ok⟩ := Fallible.bind_eq_ok ok
    obtain ⟨⟨⟩, free, ok⟩ := Fallible.bind_eq_ok ok
    obtain ⟨shade, coloured, ok⟩ := Fallible.bind_eq_ok ok
    cases ok
    obtain ⟨rfl, nonempty⟩ := assertName_eq_ok named
    obtain ⟨normal, isColour⟩ := assertColour_eq_ok coloured
    refine ⟨⟨Nat.lt_of_not_le room, nonempty, assertNameAvailable_eq_ok free, by rw [normal]; rfl⟩,
      ⟨nonempty, length_normalizeMessageTagName, isColour, highestOrdinal_nonneg⟩, rfl, rfl, rfl⟩

theorem createMessageTag_ok (creates : Creates host catalog name colour) :
    ∃ tag, createMessageTag host catalog name colour = .ok tag := by
  obtain ⟨shade, coloured⟩ := Option.isSome_iff_exists.1 creates.coloured
  unfold createMessageTag
  rw [if_neg (Nat.not_le.2 creates.room)]
  have named : assertName host name = .ok (normalizeMessageTagName host name) := if_neg creates.named
  have free : assertNameAvailable host catalog (normalizeMessageTagName host name) none = .ok () := by
    simp [assertNameAvailable, creates.available]
  have shaded : assertColour host colour = .ok shade := by
    simp [assertColour, coloured]
  simp only [named, shaded]
  exact ⟨_, congrArg (· >>= fun _ => _) free⟩

theorem CatalogueKept.add (kept : CatalogueKept host catalog) (ok : createMessageTag host catalog name colour = .ok tag) :
    CatalogueKept host (catalog ++ [tag]) := by
  obtain ⟨creates, presentable, isName, isId, _⟩ := createMessageTag_eq_ok ok
  have free := not_nameTaken creates.available
  constructor
  · refine Keyed.nodup_append kept.ids ?_
    rw [isId]
    exact uniqueTagId_fresh (by simpa using creates.room)
  · refine Keyed.nodup_append kept.names ?_
    intro member
    obtain ⟨other, isMember, same⟩ := List.mem_map.1 member
    exact free other isMember (by simp) (by rw [same, isName])
  · have room := creates.room
    simp only [List.length_append, List.length_singleton]
    omega
  · intro other member
    rcases List.mem_append.1 member with old | new
    · exact kept.presentable other old
    · rw [List.mem_singleton.1 new]
      exact presentable

/-- What an accepted edit puts in place of a tag. -/
structure Edited (host : Host) (catalog : List MessageTag) (id : JsString) (name colour : JsString) (ordinal : Int) :
    Prop where
  presentable : ∀ tag : MessageTag, Presentable { tag with name := name, colour := colour, ordinal := ordinal }
  free : ∀ tag ∈ catalog, tag.id ≠ id → host.lower tag.name ≠ host.lower name
  small : (∃ existing ∈ catalog, ordinal = existing.ordinal) ∨ ordinal ≤ catalogLimit

theorem updateMessageTag_eq_ok {edited : List MessageTag} (kept : CatalogueKept host catalog)
    (ok : updateMessageTag host catalog id patch = .ok edited) :
    ∃ name colour ordinal, Edited host catalog id name colour ordinal ∧ edited = sortMessageTags host (catalog.map fun tag =>
      if tag.id = id then { tag with name := name, colour := colour, ordinal := ordinal } else tag) := by
  unfold updateMessageTag at ok
  split at ok
  · cases ok
  · rename_i existing found
    have isMember := List.mem_of_find?_eq_some found
    have isId : existing.id = id := by simpa using List.find?_some found
    obtain ⟨name, named, ok⟩ := Fallible.bind_eq_ok ok
    obtain ⟨⟨⟩, free, ok⟩ := Fallible.bind_eq_ok ok
    obtain ⟨colour, coloured, ok⟩ := Fallible.bind_eq_ok ok
    cases ok
    have nameKept : name ≠ [] ∧ name.length ≤ nameLimit ∧
        ∀ tag ∈ catalog, tag.id ≠ id → host.lower tag.name ≠ host.lower name := by
      cases given : patch.name with
      | none =>
        rw [given] at named
        cases named
        refine ⟨(kept.presentable _ isMember).named, (kept.presentable _ isMember).short, ?_⟩
        intro tag member different same
        have isSame := List.inj_on_of_nodup_map kept.names member isMember same
        exact different (isSame ▸ isId)
      | some text =>
        rw [given] at named free
        obtain ⟨rfl, nonempty⟩ := assertName_eq_ok named
        refine ⟨nonempty, length_normalizeMessageTagName, ?_⟩
        intro tag member different
        exact not_nameTaken (assertNameAvailable_eq_ok free) tag member (by simpa using different)
    have colourKept : isColour colour = true := by
      cases given : patch.colour with
      | none =>
        rw [given] at coloured
        cases coloured
        exact (kept.presentable _ isMember).coloured
      | some text =>
        rw [given] at coloured
        exact (assertColour_eq_ok coloured).2
    refine ⟨name, colour, _, ⟨fun tag => ⟨nameKept.1, nameKept.2.1, colourKept, ?_⟩, nameKept.2.2, ?_⟩, rfl⟩
    · cases patch.ordinal.bind safeInteger? with
      | none => exact (kept.presentable _ isMember).ordered
      | some ordinal => exact le_max_left _ _
    · cases patch.ordinal.bind safeInteger? with
      | none => exact Or.inl ⟨existing, isMember, rfl⟩
      | some ordinal =>
        refine Or.inr (max_le (by decide) (min_le_left _ _))

theorem CatalogueKept.edit {ordinal : Int} (kept : CatalogueKept host catalog)
    (edited : Edited host catalog id name colour ordinal) :
    CatalogueKept host (catalog.map fun tag =>
      if tag.id = id then { tag with name := name, colour := colour, ordinal := ordinal } else tag) := by
  constructor
  · have same : ∀ tag : MessageTag,
        (if tag.id = id then { tag with name := name, colour := colour, ordinal := ordinal } else tag).id = tag.id := by
      intro tag
      split <;> rfl
    rw [List.map_map]
    simpa only [Function.comp_def, same] using kept.ids
  · rw [List.map_map]
    refine List.Nodup.map_on ?_ (kept.ids.of_map _)
    intro first isFirst second isSecond same
    simp only [Function.comp_apply] at same
    by_cases one : first.id = id
    · by_cases two : second.id = id
      · exact List.inj_on_of_nodup_map kept.ids isFirst isSecond (one.trans two.symm)
      · rw [if_pos one, if_neg two] at same
        exact absurd same.symm (edited.free second isSecond two)
    · by_cases two : second.id = id
      · rw [if_neg one, if_pos two] at same
        exact absurd same (edited.free first isFirst one)
      · rw [if_neg one, if_neg two] at same
        exact List.inj_on_of_nodup_map kept.names isFirst isSecond same
  · rw [List.length_map]
    exact kept.few
  · intro tag member
    obtain ⟨old, isMember, rfl⟩ := List.mem_map.1 member
    split
    · exact edited.presentable old
    · exact kept.presentable old isMember

end Catalogue

section Assignments

variable {assignments : Assignments} {key id : JsString} {ids : List JsString}

theorem boundAssignments_sublist : (boundAssignments assignments).Sublist assignments := List.drop_sublist _ _

theorem length_boundAssignments : (boundAssignments assignments).length ≤ assignmentLimit := by
  unfold boundAssignments
  rw [List.length_drop]
  omega

/-- The newest assignment is within the bounds. -/
theorem mem_boundAssignments (assignments : Assignments) (assignment : JsString × List JsString) :
    assignment ∈ boundAssignments (assignments ++ [assignment]) := by
  have limit : 0 < assignmentLimit := by decide
  have inFront : (assignments ++ [assignment]).length - assignmentLimit ≤ assignments.length := by
    rw [List.length_append, List.length_singleton]
    omega
  unfold boundAssignments
  rw [List.drop_append_of_le_length inFront]
  exact List.mem_append_right _ (List.mem_singleton_self _)

/-- What the bounds leave of assignments of which only the number may be too large. -/
theorem AssignmentsKept.bound (keys : (assignments.map Prod.fst).Nodup)
    (key_nonempty : ∀ key ∈ assignments.map Prod.fst, key ≠ [])
    (assigned : ∀ assignment ∈ assignments, Assigned catalog assignment.2) :
    AssignmentsKept catalog (boundAssignments assignments) where
  keys := keys.sublist (boundAssignments_sublist.map _)
  key_nonempty key member := key_nonempty key ((boundAssignments_sublist.map _).subset member)
  few := length_boundAssignments
  assigned assignment member := assigned assignment (boundAssignments_sublist.subset member)

theorem AssignmentsKept.sublist {fewer : Assignments} (kept : AssignmentsKept catalog assignments)
    (sublist : fewer.Sublist assignments) : AssignmentsKept catalog fewer where
  keys := kept.keys.sublist (sublist.map _)
  key_nonempty key member := kept.key_nonempty key ((sublist.map _).subset member)
  few := Nat.le_trans sublist.length_le kept.few
  assigned assignment member := kept.assigned assignment (sublist.subset member)

theorem AssignmentsKept.put (kept : AssignmentsKept catalog assignments) (nonempty : key ≠ [])
    (assigned : Assigned catalog ids) :
    AssignmentsKept catalog (boundAssignments (Keyed.put Prod.fst (key, ids) assignments)) := by
  refine .bound (Keyed.nodup_put kept.keys) ?_ ?_
  · intro other member
    obtain ⟨assignment, isMember, rfl⟩ := List.mem_map.1 member
    rcases Keyed.mem_put isMember with rfl | old
    · exact nonempty
    · exact kept.key_nonempty _ (List.mem_map_of_mem old)
  · intro assignment member
    rcases Keyed.mem_put member with rfl | old
    · exact assigned
    · exact kept.assigned assignment old

theorem messageTagKey_ne_nil (message : MessageRef) : messageTagKey message ≠ [] := by
  simp [messageTagKey]

/-- The tags that a message is given: known ones, each once, and not too many. -/
theorem assigned_bounded (ids : (catalog.map (·.id)).Nodup) (tagIds : List JsString)
    (some : (((sortMessageTags host (catalog.filter fun tag => tag.id ∈ tagIds)).map (·.id)).take tagsPerMessageLimit) ≠ []) :
    Assigned catalog
      (((sortMessageTags host (catalog.filter fun tag => tag.id ∈ tagIds)).map (·.id)).take tagsPerMessageLimit) := by
  have sorted : ((sortMessageTags host (catalog.filter fun tag => tag.id ∈ tagIds)).map (·.id)).Perm
      ((catalog.filter fun tag => tag.id ∈ tagIds).map (·.id)) := sortMessageTags_perm.map _
  have selected := (List.filter_sublist (p := fun tag : MessageTag => decide (tag.id ∈ tagIds)) (l := catalog)).map (·.id)
  refine ⟨some, ?_, List.length_take_le _ _, ?_⟩
  · exact (sorted.nodup_iff.2 (ids.sublist selected)).sublist (List.take_sublist _ _)
  · intro id member
    exact selected.subset (sorted.subset (List.take_subset _ _ member))

theorem WellFormed.with_assignments (formed : WellFormed host state)
    (kept : AssignmentsKept state.catalog assignments) : WellFormed host ⟨state.catalog, assignments⟩ :=
  ⟨formed.catalogue, kept⟩

theorem WellFormed.set (formed : WellFormed host state) (message : MessageRef) (tagIds : List JsString) :
    WellFormed host (setMessageTags host state (messageTagKey message) tagIds) := by
  refine formed.with_assignments ?_
  split
  · rename_i some
    exact formed.assignments.put (messageTagKey_ne_nil message) (assigned_bounded formed.catalogue.ids tagIds some)
  · exact (formed.assignments.sublist Keyed.without_sublist).sublist boundAssignments_sublist

theorem tagIds_eq_some (found : state.tagIds key = some ids) : (key, ids) ∈ state.assignments := by
  unfold MessageTagState.tagIds at found
  obtain ⟨⟨found, _⟩, isGot, rfl⟩ := Option.map_eq_some_iff.1 found
  obtain ⟨member, rfl⟩ := Keyed.get_eq_some isGot
  exact member

theorem WellFormed.retag (formed : WellFormed host state) (toKey : Option JsString) (nonempty : ∀ key ∈ toKey, key ≠ []) :
    WellFormed host (retagMovedMessage state key toKey) := by
  unfold retagMovedMessage
  split
  · exact formed
  · rename_i ids found
    have assigned := formed.assignments.assigned _ (tagIds_eq_some found)
    have rest : AssignmentsKept state.catalog (Keyed.without Prod.fst key state.assignments) :=
      formed.assignments.sublist Keyed.without_sublist
    refine formed.with_assignments ?_
    cases toKey with
    | none => exact rest.sublist boundAssignments_sublist
    | some target => exact rest.put (nonempty target rfl) assigned

theorem WellFormed.forget (formed : WellFormed host state) (forgotten : JsString → Bool) :
    WellFormed host (forgetMessageTags state forgotten) :=
  ⟨formed.catalogue, formed.assignments.sublist List.filter_sublist⟩

theorem deleteMessageTag_eq_ok (ok : deleteMessageTag state id = .ok next) :
    next = ⟨state.catalog.filter (·.id ≠ id),
      (state.assignments.map fun (key, ids) => (key, ids.filter (· ≠ id))).filter (·.2 ≠ [])⟩ := by
  unfold deleteMessageTag at ok
  split at ok
  · cases ok
  · split at ok
    · cases ok
    · cases ok
      rfl

theorem remaining_keys (assignments : Assignments) (id : JsString) :
    (((assignments.map fun (key, ids) => (key, ids.filter (· ≠ id))).filter (·.2 ≠ [])).map Prod.fst).Sublist
      (assignments.map Prod.fst) := by
  have same : (assignments.map fun (key, ids) => (key, ids.filter (· ≠ id))).map Prod.fst = assignments.map Prod.fst := by
    rw [List.map_map]
    rfl
  rw [← same]
  exact List.filter_sublist.map _

theorem WellFormed.delete (formed : WellFormed host state) (ok : deleteMessageTag state id = .ok next) :
    WellFormed host next := by
  obtain rfl := deleteMessageTag_eq_ok ok
  have fewer : (state.catalog.filter (·.id ≠ id)).Sublist state.catalog := List.filter_sublist
  refine ⟨⟨formed.catalogue.ids.sublist (fewer.map _), formed.catalogue.names.sublist (fewer.map _),
    Nat.le_trans fewer.length_le formed.catalogue.few, fun tag member => formed.catalogue.presentable tag (fewer.subset member)⟩, ?_⟩
  constructor
  · exact formed.assignments.keys.sublist (remaining_keys _ id)
  · exact fun key member => formed.assignments.key_nonempty key ((remaining_keys _ id).subset member)
  · have count := (remaining_keys state.assignments id).length_le
    simp only [List.length_map] at count
    exact Nat.le_trans count formed.assignments.few
  · intro assignment member
    obtain ⟨inMap, nonempty⟩ := List.mem_filter.1 member
    obtain ⟨⟨key, ids⟩, isMember, rfl⟩ := List.mem_map.1 inMap
    have old := formed.assignments.assigned _ isMember
    refine ⟨by simpa using nonempty, old.distinct.filter _, Nat.le_trans (List.length_filter_le _ _) old.few, ?_⟩
    intro tagId inIds
    obtain ⟨isOld, different⟩ := List.mem_filter.1 inIds
    obtain ⟨tag, isTag, rfl⟩ := List.mem_map.1 (old.known isOld)
    exact List.mem_map_of_mem (List.mem_filter.2 ⟨isTag, different⟩)

end Assignments

end MessageTags
