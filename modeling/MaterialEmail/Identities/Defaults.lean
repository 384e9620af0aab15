import MaterialEmail.Identities.Model
import MaterialEmail.Library.Fallible
import Mathlib.Data.List.Nodup

/-! Every account that has identities has one default and not too many of them, whatever is done to the
identities of this account or of another. -/
namespace Identities

open JsString

variable {host : Host} {identities next : List MailIdentity} {identity item : MailIdentity}
  {account other id newId : Identifier}

structure ListKept (identities : List MailIdentity) : Prop where
  ids : (identities.map (·.id)).Nodup
  default : ∀ account, belonging account identities ≠ [] → (belonging account identities).countP (·.isDefault) = 1
  few : ∀ account, (belonging account identities).length ≤ limitPerAccount

section Lists

theorem mem_belonging : item ∈ belonging account identities ↔ item ∈ identities ∧ item.accountId = account := by
  simp [belonging]

theorem belonging_nodup (ids : (identities.map (·.id)).Nodup) : ((belonging account identities).map (·.id)).Nodup :=
  ids.sublist (List.filter_sublist.map _)

/-- What is changed of identities but not their account. -/
theorem belonging_map {change : MailIdentity → MailIdentity} (keeps : ∀ item, (change item).accountId = item.accountId) :
    belonging account (identities.map change) = (belonging account identities).map change := by
  simp [belonging, List.filter_map, Function.comp_def, keeps]

theorem belonging_append : belonging account (identities ++ next) = belonging account identities ++ belonging account next := by
  simp [belonging]

theorem belonging_filter (p : MailIdentity → Bool) :
    belonging account (identities.filter p) = (belonging account identities).filter p := by
  simp [belonging, List.filter_filter, Bool.and_comm]

@[simp] theorem makeDefault_ids : (makeDefault id identities).map (·.id) = identities.map (·.id) := by
  simp only [makeDefault, List.map_map]
  apply List.map_congr_left
  intro item _
  simp only [Function.comp_apply]
  split <;> rfl

theorem belonging_makeDefault : belonging account (makeDefault id identities) = makeDefault id (belonging account identities) := by
  apply belonging_map
  intro item
  split <;> rfl

theorem makeDefault_of_not_mem (absent : ∀ item ∈ identities, item.id ≠ id) : makeDefault id identities = identities := by
  have same : ∀ item ∈ identities, (if item.id = id then { item with isDefault := true } else item) = item := by
    intro item member
    simp [absent item member]
  simpa [makeDefault] using List.map_congr_left same

theorem sortIdentities_perm : (sortIdentities host identities).Perm identities := List.perm_insertionSort _ _

theorem sortIdentities_head (empty : (sortIdentities host identities).head? = none) : identities = [] := by
  have same : sortIdentities host identities = [] := List.head?_eq_none_iff.1 empty
  have listed := @sortIdentities_perm host identities
  simpa [same] using listed

/-- Of identities without a default one is made it. -/
theorem countP_makeDefault (ids : (identities.map (·.id)).Nodup) (none : identities.countP (·.isDefault) = 0)
    (member : item ∈ identities) : (makeDefault item.id identities).countP (·.isDefault) = 1 := by
  induction identities with
  | nil => cases member
  | cons first rest ih =>
    have step : makeDefault item.id (first :: rest) =
        (if first.id = item.id then { first with isDefault := true } else first) :: makeDefault item.id rest := rfl
    obtain ⟨absent, ids⟩ := List.nodup_cons.1 ids
    rw [List.countP_cons] at none
    by_cases here : first.id = item.id
    · have later : makeDefault item.id rest = rest :=
        makeDefault_of_not_mem fun other isMember same => absent (List.mem_map.2 ⟨other, isMember, same.trans here.symm⟩)
      rw [step, if_pos here, later, List.countP_cons]
      simp only [if_true]
      omega
    · have isLater : item ∈ rest := by
        rcases List.mem_cons.1 member with rfl | later
        · exact absurd rfl here
        · exact later
      have isNone : first.isDefault = false := by
        cases found : first.isDefault with
        | true => simp [found] at none
        | false => rfl
      rw [step, if_neg here, List.countP_cons, ih ids (by omega) isLater]
      simp [isNone]

/-- One of the identities is left out. -/
theorem countP_without (ids : (identities.map (·.id)).Nodup) (member : item ∈ identities) :
    identities.countP (·.isDefault) =
      (identities.filter (·.id ≠ item.id)).countP (·.isDefault) + item.isDefault.toNat := by
  induction identities with
  | nil => cases member
  | cons first rest ih =>
    obtain ⟨absent, ids⟩ := List.nodup_cons.1 ids
    by_cases here : first.id = item.id
    · have same : first = item := by
        rcases List.mem_cons.1 member with same | later
        · exact same.symm
        · exact absurd (List.mem_map.2 ⟨item, later, here.symm⟩) absent
      have all : rest.filter (·.id ≠ first.id) = rest := by
        rw [List.filter_eq_self]
        intro other isMember
        simpa using fun equal : other.id = first.id => absent (List.mem_map.2 ⟨other, isMember, equal⟩)
      subst same
      rw [List.filter_cons_of_neg (by simp), all, List.countP_cons]
      cases first.isDefault <;> simp
    · have isLater : item ∈ rest := by
        rcases List.mem_cons.1 member with rfl | later
        · exact absurd rfl here
        · exact later
      rw [List.filter_cons_of_pos (by simpa using here), List.countP_cons, List.countP_cons, ih ids isLater]
      omega

/-- Identities of another account than the one whose identity is left out. -/
theorem belonging_without_other (ids : (identities.map (·.id)).Nodup) (member : item ∈ identities)
    (different : item.accountId ≠ other) :
    belonging other (identities.filter (·.id ≠ item.id)) = belonging other identities := by
  rw [belonging_filter, List.filter_eq_self]
  intro candidate isMember
  obtain ⟨isListed, isOther⟩ := mem_belonging.1 isMember
  simp only [ne_eq, decide_eq_true_eq]
  intro same
  have equal := List.inj_on_of_nodup_map ids isListed member same
  exact different (equal ▸ isOther)

theorem makeDefault_other (ids : (identities.map (·.id)).Nodup) (member : item ∈ identities)
    (different : item.accountId ≠ other) :
    belonging other (makeDefault item.id identities) = belonging other identities := by
  rw [belonging_makeDefault]
  apply makeDefault_of_not_mem
  intro candidate isMember same
  obtain ⟨isListed, isOther⟩ := mem_belonging.1 isMember
  have equal := List.inj_on_of_nodup_map ids isListed member same
  exact different (equal ▸ isOther)

end Lists

section Placing

/-- The list after an identity was put in its place, as far as its account goes and as far as the
others do. -/
structure Placed (before after : List MailIdentity) (account : Identifier) : Prop where
  kept : ListKept after
  nonempty : belonging account after ≠ []
  others : ∀ other, other ≠ account → belonging other after = belonging other before

/-- What holds of an account and is left as it was for the others. -/
theorem ListKept.of_account {before after : List MailIdentity} (kept : ListKept before)
    (ids : (after.map (·.id)).Nodup)
    (others : ∀ other, other ≠ account → belonging other after = belonging other before)
    (default : belonging account after ≠ [] → (belonging account after).countP (·.isDefault) = 1)
    (few : (belonging account after).length ≤ limitPerAccount) : ListKept after := by
  refine ⟨ids, fun other some => ?_, fun other => ?_⟩
  · by_cases same : other = account
    · subst same
      exact default some
    · rw [others other same] at some ⊢
      exact kept.default other some
  · by_cases same : other = account
    · subst same
      exact few
    · rw [others other same]
      exact kept.few other

@[simp] theorem demoted_id : (demoted account item).id = item.id := by
  unfold demoted
  split <;> rfl

@[simp] theorem demoted_accountId : (demoted account item).accountId = item.accountId := by
  unfold demoted
  split <;> rfl

theorem belonging_demoted_same : (belonging account (identities.map (demoted account))).countP (·.isDefault) = 0 := by
  rw [belonging_map fun _ => demoted_accountId, List.countP_map, List.countP_eq_zero]
  intro item member
  simp [demoted, (mem_belonging.1 member).2]

theorem belonging_demoted_other (different : other ≠ account) :
    belonging other (identities.map (demoted account)) = belonging other identities := by
  rw [belonging_map fun _ => demoted_accountId]
  refine (List.map_congr_left fun item member => ?_).trans (List.map_id _)
  have isOther := (mem_belonging.1 member).2
  simp [demoted, isOther, different]

/-- The other identities, when one is put in its place. -/
structure Rest (identities rest : List MailIdentity) (identity : MailIdentity) : Prop where
  ids : (rest.map (·.id)).Nodup
  absent : identity.id ∉ rest.map (·.id)
  others : ∀ other, other ≠ identity.accountId → belonging other rest = belonging other identities
  room : (belonging identity.accountId rest).length < limitPerAccount

section Places

variable {rest : List MailIdentity}

theorem belonging_own (identity : MailIdentity) : belonging identity.accountId [identity] = [identity] := by
  simp [belonging]

theorem belonging_elsewhere (different : other ≠ identity.accountId) : belonging other [identity] = [] := by
  simp [belonging, Ne.symm different]

theorem Rest.append_ids (free : Rest identities rest identity) : ((rest ++ [identity]).map (·.id)).Nodup := by
  rw [List.map_append]
  exact List.Nodup.append free.ids (List.nodup_singleton _) (by simpa using free.absent)

theorem Rest.append_others (free : Rest identities rest identity) (different : other ≠ identity.accountId) :
    belonging other (rest ++ [identity]) = belonging other identities := by
  rw [belonging_append, free.others other different, belonging_elsewhere different, List.append_nil]

theorem Rest.append_length (free : Rest identities rest identity) :
    (belonging identity.accountId (rest ++ [identity])).length ≤ limitPerAccount := by
  have room := free.room
  simp only [belonging_append, belonging_own, List.length_append, List.length_singleton]
  omega

theorem Rest.append_nonempty : belonging identity.accountId (rest ++ [identity]) ≠ [] := by
  simp [belonging_append, belonging_own]

/-- The others of the account are demoted, so that the new one is the only default. -/
theorem Rest.demoted (free : Rest identities rest identity) :
    Rest identities (rest.map (demoted identity.accountId)) identity := by
  have ids : (rest.map (Identities.demoted identity.accountId)).map (·.id) = rest.map (·.id) := by
    simp [List.map_map, Function.comp_def]
  refine ⟨ids ▸ free.ids, ids ▸ free.absent, fun other different => ?_, ?_⟩
  · rw [belonging_demoted_other different, free.others other different]
  · rw [belonging_map fun _ => demoted_accountId, List.length_map]
    exact free.room

/-- Where one of the account is a default already. -/
theorem placed_among (kept : ListKept identities) (free : Rest identities rest identity)
    (one : (belonging identity.accountId (rest ++ [identity])).countP (·.isDefault) = 1) :
    Placed identities (rest ++ [identity]) identity.accountId where
  kept := kept.of_account free.append_ids (fun _ => free.append_others) (fun _ => one) free.append_length
  nonempty := Rest.append_nonempty
  others _ := free.append_others

/-- Where none of the account is a default, one of them is made it. -/
theorem placed_promoted (kept : ListKept identities) (free : Rest identities rest identity)
    (none : (belonging identity.accountId (rest ++ [identity])).countP (·.isDefault) = 0)
    (chosen : item ∈ belonging identity.accountId (rest ++ [identity])) :
    Placed identities (makeDefault item.id (rest ++ [identity])) identity.accountId := by
  obtain ⟨isListed, isOwn⟩ := mem_belonging.1 chosen
  have others : ∀ other, other ≠ identity.accountId →
      belonging other (makeDefault item.id (rest ++ [identity])) = belonging other identities := by
    intro other different
    rw [makeDefault_other free.append_ids isListed (by simpa [isOwn] using Ne.symm different),
      free.append_others different]
  refine ⟨kept.of_account ?_ others ?_ ?_, ?_, others⟩
  · simpa using free.append_ids
  · intro _
    rw [belonging_makeDefault]
    exact countP_makeDefault (belonging_nodup free.append_ids) none chosen
  · rw [belonging_makeDefault, makeDefault, List.length_map]
    exact free.append_length
  · rw [belonging_makeDefault]
    simpa [makeDefault] using List.ne_nil_of_mem chosen

theorem placed_settled (kept : ListKept identities) (free : Rest identities rest identity)
    (atMost : (belonging identity.accountId (rest ++ [identity])).countP (·.isDefault) ≤ 1) :
    Placed identities (settleDefault host identity.accountId (rest ++ [identity])) identity.accountId := by
  unfold settleDefault
  split
  · rename_i some
    obtain ⟨item, member, isDefault⟩ := List.any_eq_true.1 some
    have positive := List.countP_pos_iff.2 ⟨item, member, isDefault⟩
    exact placed_among kept free (Nat.le_antisymm atMost positive)
  · rename_i none
    have zero : (belonging identity.accountId (rest ++ [identity])).countP (·.isDefault) = 0 := by
      simpa [List.countP_eq_zero, List.any_eq_true] using none
    split
    · rename_i first sorted
      exact placed_promoted kept free zero (sortIdentities_perm.subset (List.mem_of_mem_head? sorted))
    · rename_i sorted
      exact absurd (sortIdentities_head sorted) Rest.append_nonempty

end Places

theorem place_spec (kept : ListKept identities)
    (own : ∀ item ∈ identities, item.id = identity.id → item.accountId = identity.accountId)
    (room : (belonging identity.accountId (identities.filter (·.id ≠ identity.id))).length < limitPerAccount)
    (first : belonging identity.accountId identities = [] → identity.isDefault = true) :
    Placed identities (place host identities identity) identity.accountId := by
  have free : Rest identities (identities.filter (·.id ≠ identity.id)) identity := by
    refine ⟨kept.ids.sublist (List.filter_sublist.map _), by simp, fun other different => ?_, room⟩
    rw [belonging_filter, List.filter_eq_self]
    intro item member
    obtain ⟨isListed, isOther⟩ := mem_belonging.1 member
    have notOwn : item.id ≠ identity.id := fun same => different (isOther ▸ own item isListed same)
    simpa using notOwn
  simp only [place]
  cases isDefault : identity.isDefault with
  | true =>
    rw [if_pos rfl]
    apply placed_settled kept free.demoted
    simp [belonging_append, belonging_own, belonging_demoted_same, isDefault]
  | false =>
    have nonempty : belonging identity.accountId identities ≠ [] := fun empty => by simp [first empty] at isDefault
    have atMost : (belonging identity.accountId (identities.filter (·.id ≠ identity.id))).countP (·.isDefault) ≤ 1 := by
      rw [belonging_filter, ← kept.default _ nonempty]
      exact List.filter_sublist.countP_le
    rw [if_neg Bool.false_ne_true]
    apply placed_settled kept free
    simpa [belonging_append, belonging_own, isDefault] using atMost

end Placing

end Identities
