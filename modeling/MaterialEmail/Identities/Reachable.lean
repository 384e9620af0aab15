import MaterialEmail.Identities.Defaults

/-! What every run of the operations on identities keeps, as long as no identity is taken over by another
account. -/
namespace Identities

open JsString

variable {host : Host} {identities next : List MailIdentity} {identity item : MailIdentity}
  {account other newId : Identifier} {input : CheckedInput} {text : JsString}

/-- What an accepted operation on the identities of an account leaves. -/
structure Changed (before after : List MailIdentity) (account : Identifier) : Prop where
  kept : ListKept after
  others : ∀ other, other ≠ account → belonging other after = belonging other before

section Removing

theorem find_id (found : identities.find? (·.id.val = text) = some item) : item ∈ identities ∧ item.id.val = text := by
  have same := List.find?_some found
  exact ⟨List.mem_of_find?_eq_some found, by simpa using same⟩

theorem filter_text (is : item.id.val = text) :
    identities.filter (·.id.val ≠ text) = identities.filter (·.id ≠ item.id) := by
  apply List.filter_congr
  intro candidate _
  simp [← is, Subtype.ext_iff]

theorem countP_siblings (kept : ListKept identities) (member : item ∈ identities) :
    (belonging item.accountId (identities.filter (·.id ≠ item.id))).countP (·.isDefault) + item.isDefault.toNat = 1 := by
  have isOwn : item ∈ belonging item.accountId identities := mem_belonging.2 ⟨member, rfl⟩
  rw [belonging_filter, ← countP_without (belonging_nodup kept.ids) isOwn]
  exact kept.default _ (List.ne_nil_of_mem isOwn)

theorem removeIdentity_ok (kept : ListKept identities) (removed : removeIdentity host identities text = .ok next) :
    ∃ identity ∈ identities, identities.find? (·.id.val = text) = some identity ∧
      Changed identities next identity.accountId ∧ belonging identity.accountId next ≠ [] := by
  unfold removeIdentity at removed
  split at removed
  · cases removed
  · rename_i identity found
    obtain ⟨member, isText⟩ := find_id found
    refine ⟨identity, member, found, ?_⟩
    simp only [filter_text isText] at removed
    have rest_ids : ((identities.filter (·.id ≠ identity.id)).map (·.id)).Nodup :=
      kept.ids.sublist (List.filter_sublist.map _)
    have rest_others : ∀ other, other ≠ identity.accountId →
        belonging other (identities.filter (·.id ≠ identity.id)) = belonging other identities :=
      fun other different => belonging_without_other kept.ids member (Ne.symm different)
    have rest_few : (belonging identity.accountId (identities.filter (·.id ≠ identity.id))).length ≤ limitPerAccount := by
      rw [belonging_filter]
      exact Nat.le_trans (List.length_filter_le _ _) (kept.few _)
    have count := countP_siblings kept member
    generalize identities.filter (·.id ≠ identity.id) = rest at *
    split at removed
    · cases removed
    · rename_i notLast
      split at removed
      · rename_i leave
        cases removed
        -- The one that is removed was not the default, and then the default is still there.
        have notDefault : identity.isDefault = false := by
          cases isDefault : identity.isDefault with
          | false => rfl
          | true => simp_all
        have one : (belonging identity.accountId next).countP (·.isDefault) = 1 := by simpa [notDefault] using count
        refine ⟨⟨kept.of_account rest_ids rest_others (fun _ => one) rest_few, rest_others⟩, fun empty => ?_⟩
        simp [empty] at one
      · rename_i promotes
        have isDefault : identity.isDefault = true := by
          cases isDefault : identity.isDefault with
          | false => simp [isDefault] at promotes
          | true => rfl
        have zero : (belonging identity.accountId rest).countP (·.isDefault) = 0 := by simpa [isDefault] using count
        split at removed
        · rename_i promoted sorted
          cases removed
          have chosen := sortIdentities_perm.subset (List.mem_of_mem_head? sorted)
          obtain ⟨isListed, isOwn⟩ := mem_belonging.1 chosen
          have others : ∀ other, other ≠ identity.accountId →
              belonging other (makeDefault promoted.id rest) = belonging other identities := by
            intro other different
            rw [makeDefault_other rest_ids isListed (by simpa [isOwn] using Ne.symm different), rest_others other different]
          refine ⟨⟨kept.of_account (by simpa using rest_ids) others (fun _ => ?_) ?_, others⟩, ?_⟩
          · rw [belonging_makeDefault]
            exact countP_makeDefault (belonging_nodup rest_ids) zero chosen
          · rw [belonging_makeDefault, makeDefault, List.length_map]
            exact rest_few
          · rw [belonging_makeDefault]
            simpa [makeDefault] using List.ne_nil_of_mem chosen
        · rename_i sorted
          simp [sortIdentities_head sorted] at promotes

end Removing

section Promoting

theorem countP_one (ids : (identities.map (·.id)).Nodup) (member : item ∈ identities) :
    identities.countP (·.id = item.id) = 1 := by
  have occurs := List.count_eq_one_of_mem ids (List.mem_map_of_mem member)
  rw [List.count, List.countP_map] at occurs
  exact Eq.trans (List.countP_congr fun candidate _ => by simp [Subtype.ext_iff]) occurs

theorem promoteIdentityToDefault_ok (kept : ListKept identities)
    (promoted : promoteIdentityToDefault identities text = .ok next) :
    ∃ identity ∈ identities, identities.find? (·.id.val = text) = some identity ∧
      Changed identities next identity.accountId ∧ belonging identity.accountId next ≠ [] := by
  unfold promoteIdentityToDefault at promoted
  split at promoted
  · cases promoted
  · rename_i identity found
    obtain ⟨member, isText⟩ := find_id found
    refine ⟨identity, member, found, ?_⟩
    cases promoted
    have accounts : ∀ candidate : MailIdentity, (if candidate.accountId = identity.accountId then
        { candidate with isDefault := candidate.id.val = text } else candidate).accountId = candidate.accountId := by
      intro candidate
      split <;> rfl
    have ids : ∀ candidate : MailIdentity, (if candidate.accountId = identity.accountId then
        { candidate with isDefault := candidate.id.val = text } else candidate).id = candidate.id := by
      intro candidate
      split <;> rfl
    have isOwn : identity ∈ belonging identity.accountId identities := mem_belonging.2 ⟨member, rfl⟩
    have others : ∀ other, other ≠ identity.accountId → belonging other (identities.map fun candidate =>
        if candidate.accountId = identity.accountId then { candidate with isDefault := candidate.id.val = text }
        else candidate) = belonging other identities := by
      intro other different
      rw [belonging_map accounts]
      refine (List.map_congr_left fun candidate isMember => ?_).trans (List.map_id _)
      simp [(mem_belonging.1 isMember).2, different]
    refine ⟨⟨kept.of_account ?_ others (fun _ => ?_) ?_, others⟩, ?_⟩
    · simpa [List.map_map, Function.comp_def, ids] using kept.ids
    · rw [belonging_map accounts, List.countP_map]
      refine Eq.trans (List.countP_congr fun candidate isMember => ?_) (countP_one (belonging_nodup kept.ids) isOwn)
      simp [(mem_belonging.1 isMember).2, ← isText, Subtype.ext_iff]
    · rw [belonging_map accounts, List.length_map]
      exact kept.few _
    · rw [belonging_map accounts]
      simpa using List.ne_nil_of_mem isOwn

end Promoting

section Building

theorem length_identitiesForAccount :
    (identitiesForAccount host identities account).length = (belonging account identities).length :=
  sortIdentities_perm.length_eq

theorem newIdentity_first {current : Option MailIdentity} (empty : belonging account identities = []) :
    (newIdentity host input (identitiesForAccount host identities account) current newId).isDefault = true := by
  have none : (identitiesForAccount host identities account).length = 0 := by
    rw [length_identitiesForAccount, empty]
    rfl
  simp [newIdentity, none]

/-- A new identity, or one in the place of another of its account. -/
theorem buildIdentity_ok (kept : ListKept identities) (fresh : newId ∉ identities.map (·.id))
    (own : ∀ id ∈ input.knownId, ∀ current, identities.find? (·.id = id) = some current → current.accountId = input.owner)
    (built : buildIdentity host identities input newId = .ok next) :
    Changed identities next input.owner ∧ belonging input.owner next ≠ [] := by
  obtain ⟨⟨⟩, valid, built⟩ := Fallible.bind_eq_ok built
  simp only at built
  split at built
  · cases built
  · split at built
    · cases built
    · rename_i known room
      cases built
      cases found : (input.knownId.bind fun id => identities.find? (·.id = id)) with
      | none =>
        have free : ∀ candidate ∈ identities, candidate.id ≠ newId :=
          fun candidate member same => fresh (same ▸ List.mem_map_of_mem member)
        have all : identities.filter (·.id ≠ newId) = identities := by
          rw [List.filter_eq_self]
          intro candidate member
          simpa using free candidate member
        have space : (belonging input.owner identities).length < limitPerAccount := by
          simpa [found, length_identitiesForAccount] using room
        have placed : Placed identities (place host identities (newIdentity host input
            (identitiesForAccount host identities input.owner) none newId)) input.owner :=
          place_spec kept (fun candidate member same => absurd same (free candidate member))
            (by change (belonging input.owner (identities.filter (·.id ≠ newId))).length < _; rwa [all])
            newIdentity_first
        exact ⟨⟨placed.kept, placed.others⟩, placed.nonempty⟩
      | some current =>
        obtain ⟨id, isKnown, isFound⟩ := Option.bind_eq_some_iff.1 found
        have isOwn := own id isKnown current isFound
        have member := List.mem_of_find?_eq_some isFound
        have isListed : current ∈ belonging input.owner identities := mem_belonging.2 ⟨member, isOwn⟩
        have fewer : (belonging input.owner (identities.filter (·.id ≠ current.id))).length < limitPerAccount := by
          rw [belonging_filter]
          refine Nat.lt_of_lt_of_le (List.length_filter_lt_length_iff_exists.2 ⟨current, isListed, by simp⟩) (kept.few _)
        have placed : Placed identities (place host identities (newIdentity host input
            (identitiesForAccount host identities input.owner) (some current) newId)) input.owner :=
          place_spec kept
            (fun candidate isMember same => (List.inj_on_of_nodup_map kept.ids isMember member same) ▸ isOwn) fewer
            newIdentity_first
        exact ⟨⟨placed.kept, placed.others⟩, placed.nonempty⟩

theorem seedAccountIdentity_ok {account : StoredAccount} (kept : ListKept identities)
    (fresh : newId ∉ identities.map (·.id)) (seeded : seedAccountIdentity host identities account newId = .ok next) :
    Changed identities next account.id ∧ belonging account.id next ≠ [] := by
  unfold seedAccountIdentity at seeded
  split at seeded
  · rename_i some
    cases seeded
    exact ⟨⟨kept, fun _ _ => rfl⟩, some⟩
  · exact buildIdentity_ok kept fresh (fun id isKnown => by cases isKnown) seeded

theorem forgetAccountIdentities_changed (kept : ListKept identities) :
    Changed identities (forgetAccountIdentities identities account) account := by
  have own : belonging account (forgetAccountIdentities identities account) = [] := by
    simp [belonging, forgetAccountIdentities, List.filter_filter]
  have others : ∀ other, other ≠ account →
      belonging other (forgetAccountIdentities identities account) = belonging other identities := by
    intro other different
    rw [forgetAccountIdentities, belonging_filter, List.filter_eq_self]
    intro item member
    simpa [(mem_belonging.1 member).2] using different
  refine ⟨kept.of_account (kept.ids.sublist (List.filter_sublist.map _)) others (fun some => absurd own some) ?_, others⟩
  simp [own]

end Building

section Reading

theorem countP_belonging_cons (account : Identifier) (first : MailIdentity) (rest : List MailIdentity) :
    (belonging account (first :: rest)).countP (·.isDefault) =
      (belonging account rest).countP (·.isDefault) + if first.accountId = account ∧ first.isDefault = true then 1 else 0 := by
  by_cases own : first.accountId = account
  · simp [belonging, own, List.countP_cons]
  · simp [belonging, own]

theorem demote_claimed (claimed : List Identifier) (identities : List MailIdentity)
    (none : ∀ account ∈ claimed, (belonging account identities).countP (·.isDefault) = 0)
    (atMost : ∀ account, (belonging account identities).countP (·.isDefault) ≤ 1) :
    (demote claimed identities).1 = identities ∧ claimed ⊆ (demote claimed identities).2 ∧
      ∀ item ∈ identities, item.isDefault = true → item.accountId ∈ (demote claimed identities).2 := by
  induction identities generalizing claimed with
  | nil => simp [demote]
  | cons first rest ih =>
    simp only [countP_belonging_cons] at none atMost
    have atMostLater : ∀ account, (belonging account rest).countP (·.isDefault) ≤ 1 :=
      fun account => Nat.le_trans (Nat.le_add_right _ _) (atMost account)
    unfold demote
    cases isDefault : first.isDefault with
    | false =>
      have noneLater : ∀ account ∈ claimed, (belonging account rest).countP (·.isDefault) = 0 := by
        intro account member
        have before := none account member
        omega
      obtain ⟨same, grows, defaults⟩ := ih claimed noneLater atMostLater
      refine ⟨by simp [same], by simpa using grows, ?_⟩
      intro item member isOne
      rcases List.mem_cons.1 member with rfl | isLater
      · simp [isDefault] at isOne
      · simpa using defaults item isLater isOne
    | true =>
      have unclaimed : first.accountId ∉ claimed := by
        intro member
        have zero := none _ member
        simp [isDefault] at zero
      have noneLater : ∀ account ∈ first.accountId :: claimed, (belonging account rest).countP (·.isDefault) = 0 := by
        intro account member
        rcases List.mem_cons.1 member with rfl | isClaimed
        · have bound := atMost first.accountId
          rw [if_pos ⟨rfl, isDefault⟩] at bound
          omega
        · have zero := none account isClaimed
          omega
      obtain ⟨same, grows, defaults⟩ := ih (first.accountId :: claimed) noneLater atMostLater
      have collected : (if first.accountId ∈ claimed then
          ({ first with isDefault := false } :: (demote claimed rest).1, (demote claimed rest).2)
          else (first :: (demote (first.accountId :: claimed) rest).1, (demote (first.accountId :: claimed) rest).2)) =
            (first :: (demote (first.accountId :: claimed) rest).1, (demote (first.accountId :: claimed) rest).2) :=
        if_neg unclaimed
      simp only [Bool.not_true, Bool.false_eq_true, if_false, collected]
      refine ⟨by rw [same], fun account member => grows (List.mem_cons_of_mem _ member), ?_⟩
      intro item member isOne
      rcases List.mem_cons.1 member with rfl | isLater
      · exact grows List.mem_cons_self
      · exact defaults item isLater isOne

theorem promote_claimed {claimed promoted : List Identifier} (all : ∀ item ∈ identities, item.accountId ∈ claimed) :
    promote claimed promoted identities = identities := by
  induction identities with
  | nil => rfl
  | cons first rest ih =>
    have isFirst := all first List.mem_cons_self
    simp [promote, isFirst, ih fun item member => all item (List.mem_cons_of_mem _ member)]

/-- A list in which every account has its default is read as it was stored. -/
theorem identityListSchema_same
    (default : ∀ account, belonging account identities ≠ [] → (belonging account identities).countP (·.isDefault) = 1)
    (read : identityListSchema identities = some next) : next = identities := by
  unfold identityListSchema at read
  split at read
  · have atMost : ∀ account, (belonging account identities).countP (·.isDefault) ≤ 1 := by
      intro account
      by_cases some : belonging account identities = []
      · simp [some]
      · exact Nat.le_of_eq (default account some)
    obtain ⟨same, _, defaults⟩ := demote_claimed [] identities (by simp) atMost
    have all : ∀ item ∈ identities, item.accountId ∈ (demote [] identities).2 := by
      intro item member
      have isOwn : item ∈ belonging item.accountId identities := mem_belonging.2 ⟨member, rfl⟩
      have one := default _ (List.ne_nil_of_mem isOwn)
      obtain ⟨first, isMember, isDefault⟩ := List.countP_pos_iff.1 (one ▸ Nat.one_pos)
      obtain ⟨isListed, account⟩ := mem_belonging.1 isMember
      exact account ▸ defaults first isListed isDefault
    simp only [same, promote_claimed all] at read
    cases read
    rfl
  · cases read

end Reading

section Runs

variable {state : State} {operation : Operation}

structure Kept (state : State) : Prop where
  list : ListKept state.identities
  seeded : ∀ account ∈ state.seeded, belonging account state.identities ≠ []

/-- The account that an operation is about. -/
def target (state : State) : Operation → Option Identifier
  | .addAccount account _ => some account.id
  | .seed accountId _ => some accountId
  | .save input _ => (mailIdentityInputSchema input).map (·.owner)
  | .delete id | .setDefault id => (state.identities.find? (·.id.val = id)).map (·.accountId)
  | .removeAccount accountId => some accountId
  | .reload => none

/-- The identities of the other accounts are as they were. -/
def Spares (host : Host) (state : State) (operation : Operation) : Prop :=
  ∀ account, target state operation ≠ some account →
    belonging account (step host state operation).identities = belonging account state.identities

/-- An identity that is saved, and is there, is one of the account it is saved for. -/
def Fits (host : Host) (state : State) : Operation → Prop
  | .save input _ => ∀ parsed, mailIdentityInputSchema input = some parsed →
      (accountOf state parsed.owner).isSome = true → validateIdentityInput host parsed.toMailIdentityInput = .ok () →
      ∀ id ∈ parsed.knownId, ∀ current, state.identities.find? (·.id = id) = some current → current.accountId = parsed.owner
  | _ => True

/-- An identifier that is drawn is not in use. -/
def Fresh (state : State) : Operation → Prop
  | .addAccount _ newId | .seed _ newId | .save _ newId => newId ∉ state.identities.map (·.id)
  | _ => True

instance (state : State) (operation : Operation) : Decidable (Fresh state operation) :=
  match operation with
  | .addAccount _ newId | .seed _ newId | .save _ newId => inferInstanceAs (Decidable (newId ∉ state.identities.map (·.id)))
  | .delete _ | .setDefault _ | .removeAccount _ | .reload => isTrue trivial

theorem step_ok {after : State} (ok : perform host state operation = .ok after) : step host state operation = after := by
  simp [step, ok, Except.toOption]

theorem step_error {error : MailIdentityError} (refused : perform host state operation = .error error) :
    step host state operation = state := by
  simp [step, refused, Except.toOption]

/-- An operation on one account that leaves it an identity. -/
theorem Kept.changed {after : State} (kept : Kept state) (changed : Changed state.identities after.identities account)
    (some : belonging account after.identities ≠ []) (seeded : ∀ other ∈ after.seeded, other = account ∨ other ∈ state.seeded) :
    Kept after := by
  refine ⟨changed.kept, fun other isSeeded => ?_⟩
  by_cases same : other = account
  · exact same ▸ some
  · rw [changed.others other same]
    rcases seeded other isSeeded with isAccount | before
    · exact absurd isAccount same
    · exact kept.seeded other before

/-- What an accepted operation does to the accounts. -/
theorem perform_ok {after : State} (kept : Kept state) (fresh : Fresh state operation) (fits : Fits host state operation)
    (ok : perform host state operation = .ok after) :
    Kept after ∧ ∀ account, target state operation ≠ some account →
      belonging account after.identities = belonging account state.identities := by
  cases operation with
  | addAccount added newId =>
    obtain ⟨next, seeded, ok⟩ := Fallible.bind_eq_ok ok
    cases ok
    obtain ⟨changed, some⟩ := seedAccountIdentity_ok kept.list fresh seeded
    refine ⟨kept.changed changed some fun _ => List.mem_cons.1, fun account different => changed.others account ?_⟩
    simpa [target, eq_comm] using different
  | seed accountId newId =>
    simp only [perform] at ok
    split at ok
    · cases ok
    · rename_i added found
      obtain ⟨next, seeded, ok⟩ := Fallible.bind_eq_ok ok
      cases ok
      have isAccount : added.id = accountId := by simpa using List.find?_some found
      obtain ⟨changed, some⟩ := seedAccountIdentity_ok kept.list fresh seeded
      refine ⟨kept.changed changed some fun _ => List.mem_cons.1, fun account different => changed.others account ?_⟩
      simpa [target, isAccount, eq_comm] using different
  | save input newId =>
    obtain ⟨next, saved, ok⟩ := Fallible.bind_eq_ok ok
    cases ok
    unfold saveIdentity at saved
    split at saved
    · cases saved
    · rename_i parsed accepted
      split at saved
      · cases saved
      · rename_i owner found
        obtain ⟨⟨⟩, valid, _⟩ := Fallible.bind_eq_ok saved
        have own := fits parsed accepted (by simp [found]) valid
        obtain ⟨changed, some⟩ := buildIdentity_ok kept.list fresh own saved
        refine ⟨kept.changed changed some fun _ => Or.inr, fun account different => changed.others account ?_⟩
        simpa [target, accepted, eq_comm] using different
  | delete id =>
    obtain ⟨next, removed, ok⟩ := Fallible.bind_eq_ok ok
    cases ok
    obtain ⟨identity, _, found, changed, some⟩ := removeIdentity_ok kept.list removed
    have isTarget : target state (.delete id) = Option.some identity.accountId := by simp only [target, found, Option.map_some]
    refine ⟨kept.changed changed some fun _ => Or.inr, fun account different => changed.others account ?_⟩
    simpa [isTarget, eq_comm] using different
  | setDefault id =>
    obtain ⟨next, promoted, ok⟩ := Fallible.bind_eq_ok ok
    cases ok
    obtain ⟨identity, _, found, changed, some⟩ := promoteIdentityToDefault_ok kept.list promoted
    have isTarget : target state (.setDefault id) = Option.some identity.accountId := by simp only [target, found, Option.map_some]
    refine ⟨kept.changed changed some fun _ => Or.inr, fun account different => changed.others account ?_⟩
    simpa [isTarget, eq_comm] using different
  | removeAccount accountId =>
    simp only [perform] at ok
    split at ok
    · cases ok
      exact ⟨kept, fun _ _ => rfl⟩
    · cases ok
      have changed : Changed state.identities (forgetAccountIdentities state.identities accountId) accountId :=
        forgetAccountIdentities_changed kept.list
      refine ⟨⟨changed.kept, fun account member => ?_⟩, fun account different => changed.others account ?_⟩
      · obtain ⟨isSeeded, different⟩ := List.mem_filter.1 member
        have notIt : account ≠ accountId := by simpa using different
        rw [changed.others account notIt]
        exact kept.seeded account isSeeded
      · simpa [target, eq_comm] using different
  | reload =>
    simp only [perform] at ok
    split at ok
    · cases ok
    · rename_i next read
      cases ok
      obtain rfl := identityListSchema_same kept.list.default read
      exact ⟨kept, fun _ _ => rfl⟩

theorem step_spec (kept : Kept state) (fresh : Fresh state operation) (fits : Fits host state operation) :
    Kept (step host state operation) ∧ Spares host state operation := by
  cases performed : perform host state operation with
  | error error =>
    have same := step_error performed
    exact ⟨same.symm ▸ kept, fun _ _ => by rw [same]⟩
  | ok after =>
    have isAfter := step_ok performed
    obtain ⟨stays, others⟩ := perform_ok kept fresh fits performed
    exact ⟨isAfter.symm ▸ stays, fun account different => by rw [isAfter, others account different]⟩

theorem mem_makeDefault {id : Identifier} (member : item ∈ makeDefault id identities) :
    ∃ old ∈ identities, old.id = item.id ∧ old.accountId = item.accountId := by
  obtain ⟨old, isOld, rfl⟩ := List.mem_map.1 member
  refine ⟨old, isOld, ?_, ?_⟩ <;> split <;> rfl

theorem mem_settleDefault (member : item ∈ settleDefault host account identities) :
    ∃ old ∈ identities, old.id = item.id ∧ old.accountId = item.accountId := by
  unfold settleDefault at member
  split at member
  · exact ⟨item, member, rfl, rfl⟩
  · split at member
    · exact mem_makeDefault member
    · exact ⟨item, member, rfl, rfl⟩

/-- What is put in its place belongs to its account. -/
theorem place_own (member : item ∈ place host identities identity) (same : item.id = identity.id) :
    item.accountId = identity.accountId := by
  obtain ⟨old, isOld, isId, isAccount⟩ := mem_settleDefault member
  rw [← isAccount]
  rcases List.mem_append.1 isOld with isOther | isNew
  · have different : old.id ≠ identity.id := by
      split at isOther
      · obtain ⟨before, isBefore, rfl⟩ := List.mem_map.1 isOther
        simpa using (List.mem_filter.1 isBefore).2
      · simpa using (List.mem_filter.1 isOther).2
    exact absurd (isId.trans same) different
  · rw [List.mem_singleton.1 isNew]

/-- An identity that is taken over is missing where it was. -/
theorem fits_of_spares (spares : Spares host state operation) : Fits host state operation := by
  cases operation with
  | save input newId =>
    intro parsed accepted owner valid id isKnown current found
    by_contra different
    obtain ⟨account, isOwner⟩ := Option.isSome_iff_exists.1 owner
    have isMember := List.mem_of_find?_eq_some found
    have isId : current.id = id := by simpa using List.find?_some found
    have built : buildIdentity host state.identities parsed newId = .ok (place host state.identities
        (newIdentity host parsed (identitiesForAccount host state.identities parsed.owner) (some current) newId)) := by
      have looked : (parsed.knownId.bind fun id => state.identities.find? (·.id = id)) = some current := by
        rw [Option.mem_def.1 isKnown]
        exact found
      have found : ¬ (parsed.knownId.isSome = true ∧ (some current).isNone = true) := by simp
      have room : ¬ ((some current).isNone = true ∧
          limitPerAccount ≤ (identitiesForAccount host state.identities parsed.owner).length) := by simp
      unfold buildIdentity
      rw [valid]
      simp only [looked, if_neg found, if_neg room]
      rfl
    have isAfter : step host state (.save input newId) = ⟨state.accounts, place host state.identities
        (newIdentity host parsed (identitiesForAccount host state.identities parsed.owner) (some current) newId),
        state.seeded⟩ := by
      apply step_ok
      simp only [perform, saveIdentity, accepted, isOwner, built]
      rfl
    have listed : current ∈ belonging current.accountId state.identities := mem_belonging.2 ⟨isMember, rfl⟩
    rw [← spares current.accountId (by simpa [target, accepted, eq_comm] using different), isAfter] at listed
    have own := place_own (mem_belonging.1 listed).1 rfl
    exact different own
  | _ => trivial

/-- In every state each account has its default, and no step touches the identities of another account. -/
def RunKept (host : Host) : State → List Operation → Prop
  | state, [] => Kept state
  | state, operation :: operations =>
    Kept state ∧ Spares host state operation ∧ RunKept host (step host state operation) operations

def Fitting (host : Host) : State → List Operation → Prop
  | _, [] => True
  | state, operation :: operations => Fits host state operation ∧ Fitting host (step host state operation) operations

def Drawn (host : Host) : State → List Operation → Prop
  | _, [] => True
  | state, operation :: operations => Fresh state operation ∧ Drawn host (step host state operation) operations

theorem run_kept {operations : List Operation} (kept : Kept state) (drawn : Drawn host state operations) :
    RunKept host state operations ↔ Fitting host state operations := by
  induction operations generalizing state with
  | nil => exact iff_of_true kept trivial
  | cons operation operations ih =>
    constructor
    · rintro ⟨_, spares, later⟩
      have fits := fits_of_spares spares
      exact ⟨fits, (ih (step_spec kept drawn.1 fits).1 drawn.2).1 later⟩
    · rintro ⟨fits, later⟩
      obtain ⟨stays, spares⟩ := step_spec kept drawn.1 fits
      exact ⟨kept, spares, (ih stays drawn.2).2 later⟩

theorem kept_start (accounts : List StoredAccount) : Kept (start accounts) :=
  ⟨⟨List.nodup_nil, fun _ some => absurd rfl some, fun _ => Nat.zero_le _⟩, fun _ isSeeded => nomatch isSeeded⟩

/-- From the empty list on, whatever accounts there are: the identities are kept in order and apart if
and only if no identity is saved for another account than its own. -/
theorem identities_kept_iff (accounts : List StoredAccount) (operations : List Operation)
    (drawn : Drawn host (start accounts) operations) :
    RunKept host (start accounts) operations ↔ Fitting host (start accounts) operations :=
  run_kept (kept_start accounts) drawn

def workAccount : StoredAccount := ⟨⟨ofString "work", identifierSchema_work⟩, ofString "Work", ofString "me@work.example"⟩

def homeAccount : StoredAccount := ⟨⟨ofString "home", by decide⟩, ofString "Home", ofString "me@home.example"⟩

def firstId : Identifier := ⟨ofString "1", identifierSchema_one⟩

def secondId : Identifier := ⟨ofString "2", by decide⟩

/-- What is sent to save an identity with an address only. -/
def addressInput (id : Option JsString) (accountId : JsString) : MailIdentityInput :=
  ⟨id, accountId, ofString "Me", ofString "me@other.example", none, none, none, none, none⟩

theorem ownIdentity_kept :
    RunKept Host.plain (start [workAccount]) [.seed workAccount.id firstId, .save (addressInput (ofString "1") (ofString "work")) secondId] ↔
      Fitting Host.plain (start [workAccount])
        [.seed workAccount.id firstId, .save (addressInput (ofString "1") (ofString "work")) secondId] :=
  identities_kept_iff _ _ ⟨by decide, by decide, trivial⟩

/-- The identity of one account is saved for the other. -/
def takenOver : List Operation :=
  [.seed workAccount.id firstId, .seed homeAccount.id secondId, .save (addressInput (ofString "1") (ofString "home")) secondId]

theorem takenOver_lost : ¬ ∀ operations, RunKept Host.plain (start [workAccount, homeAccount]) operations := by
  intro kept
  obtain ⟨-, -, -, -, -, spares, -⟩ := kept takenOver
  have same := spares workAccount.id (by decide)
  revert same
  decide

end Runs

end Identities
