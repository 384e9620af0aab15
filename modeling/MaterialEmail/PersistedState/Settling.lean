import MaterialEmail.Identities.Reachable
import MaterialEmail.Library.Arrangement
import MaterialEmail.MessageTags.Storage

/-! What a stored list of identities and a stored state of tags are read as: each account has its one default, a message has
tags of the catalogue, each once, and what is so already is left as it is. -/

namespace Identities

variable {identities next : List MailIdentity}

/-- Nothing but the marks of the defaults is another. -/
def Remarked (identities next : List MailIdentity) : Prop :=
  List.Forall₂ (fun before after => after = { before with isDefault := after.isDefault }) identities next

theorem Remarked.trans {between : List MailIdentity} (first : Remarked identities between) (second : Remarked between next) :
    Remarked identities next := by
  induction first generalizing next with
  | nil => exact second
  | cons same _ ih =>
    cases second with
    | cons again rest =>
      refine List.Forall₂.cons ?_ (ih rest)
      rw [again, same]

theorem Remarked.accounts (remarked : Remarked identities next) :
    next.map (·.accountId) = identities.map (·.accountId) := by
  induction remarked with
  | nil => rfl
  | cons same _ ih => rw [List.map_cons, List.map_cons, ih, same]

theorem Remarked.schema (remarked : Remarked identities next) : next.all identitySchema = identities.all identitySchema := by
  induction remarked with
  | nil => rfl
  | cons same _ ih =>
    rw [List.all_cons, List.all_cons, ih, same]
    rfl

theorem Remarked.none (remarked : Remarked identities next) (account : Identifier) :
    belonging account next = [] ↔ belonging account identities = [] := by
  have onAccounts (list : List MailIdentity) : belonging account list = [] ↔ account ∉ list.map (·.accountId) := by
    simp [belonging, List.filter_eq_nil_iff]
  rw [onAccounts, onAccounts, remarked.accounts]

theorem remarked_demote (claimed : List Identifier) : Remarked identities (demote claimed identities).1 := by
  induction identities generalizing claimed with
  | nil => exact List.Forall₂.nil
  | cons first rest ih =>
    unfold demote
    split
    · exact List.Forall₂.cons rfl (ih claimed)
    · split
      · exact List.Forall₂.cons rfl (ih claimed)
      · exact List.Forall₂.cons rfl (ih _)

theorem remarked_promote (claimed promoted : List Identifier) : Remarked identities (promote claimed promoted identities) := by
  induction identities generalizing promoted with
  | nil => exact List.Forall₂.nil
  | cons first rest ih =>
    unfold promote
    split
    · exact List.Forall₂.cons rfl (ih promoted)
    · exact List.Forall₂.cons rfl (ih _)

/-- Of the accounts that were not claimed before, those that are have one default, and the others none. -/
theorem demote_defaults (claimed : List Identifier) (identities : List MailIdentity) (account : Identifier) :
    claimed ⊆ (demote claimed identities).2 ∧ (belonging account (demote claimed identities).1).countP (·.isDefault) =
      if account ∈ claimed then 0 else if account ∈ (demote claimed identities).2 then 1 else 0 := by
  induction identities generalizing claimed with
  | nil =>
    refine ⟨fun _ member => member, ?_⟩
    by_cases member : account ∈ claimed <;> simp [demote, belonging, member]
  | cons first rest ih =>
    unfold demote
    by_cases isDefault : first.isDefault = true
    · by_cases isClaimed : first.accountId ∈ claimed
      · obtain ⟨grows, count⟩ := ih claimed
        simp only [isDefault, isClaimed, Bool.not_true, Bool.false_eq_true, if_false, if_true]
        refine ⟨grows, ?_⟩
        rw [countP_belonging_cons, count]
        simp
      · obtain ⟨grows, count⟩ := ih (first.accountId :: claimed)
        simp only [isDefault, isClaimed, Bool.not_true, Bool.false_eq_true, if_false]
        refine ⟨fun other member => grows (List.mem_cons_of_mem _ member), ?_⟩
        rw [countP_belonging_cons, count]
        by_cases own : first.accountId = account
        · subst own
          have inside := grows List.mem_cons_self
          simp [isDefault, isClaimed, inside]
        · simp [own, Ne.symm own]
    · obtain ⟨grows, count⟩ := ih claimed
      simp only [Bool.not_eq_true] at isDefault
      simp only [isDefault, Bool.not_false, if_true]
      refine ⟨grows, ?_⟩
      rw [countP_belonging_cons, count]
      simp [isDefault]

theorem promote_defaults {claimed : List Identifier} {account : Identifier} (promoted : List Identifier)
    (identities : List MailIdentity)
    (none : account ∉ claimed → (belonging account identities).countP (·.isDefault) = 0) :
    (belonging account (promote claimed promoted identities)).countP (·.isDefault) =
      if account ∈ claimed then (belonging account identities).countP (·.isDefault)
      else if account ∈ promoted then 0
      else if belonging account identities = [] then 0 else 1 := by
  induction identities generalizing promoted with
  | nil => simp [promote, belonging]
  | cons first rest ih =>
    rw [countP_belonging_cons] at none
    have noneLater : account ∉ claimed → (belonging account rest).countP (·.isDefault) = 0 := fun unclaimed => by
      have := none unclaimed
      omega
    unfold promote
    by_cases skipped : first.accountId ∈ claimed ∨ first.accountId ∈ promoted
    · rw [if_pos skipped, countP_belonging_cons, countP_belonging_cons, ih promoted noneLater]
      by_cases isClaimed : account ∈ claimed
      · simp [isClaimed]
      · have none := none isClaimed
        by_cases own : first.accountId = account
        · subst own
          have isPromoted : first.accountId ∈ promoted := skipped.resolve_left isClaimed
          have unmarked : ¬ first.isDefault = true := fun marked => by simp [marked] at none
          simp [isClaimed, isPromoted, unmarked]
        · simp [isClaimed, own, belonging]
    · rw [if_neg skipped, countP_belonging_cons, countP_belonging_cons, ih (first.accountId :: promoted) noneLater]
      obtain ⟨unclaimed, unpromoted⟩ := not_or.1 skipped
      by_cases isClaimed : account ∈ claimed
      · have other : first.accountId ≠ account := fun own => unclaimed (own ▸ isClaimed)
        simp [isClaimed, other]
      · by_cases own : first.accountId = account
        · subst own
          simp [isClaimed, unpromoted, belonging]
        · simp [isClaimed, own, Ne.symm own, belonging]

/-- What a stored list is read as has a default for each account, and is read as it is. -/
theorem identityListSchema_settled (read : identityListSchema identities = some next) :
    (∀ account, belonging account next ≠ [] → (belonging account next).countP (·.isDefault) = 1) ∧
      Remarked identities next ∧ identityListSchema next = some next := by
  obtain ⟨⟨valid, few⟩, made⟩ := Option.ite_none_right_eq_some.1 read
  obtain rfl : promote (demote [] identities).2 [] (demote [] identities).1 = next := Option.some.inj made
  have demoted : Remarked identities (demote [] identities).1 := remarked_demote []
  have remarked := demoted.trans (remarked_promote (demote [] identities).2 [])
  have counts (account : Identifier) := (demote_defaults [] identities account).2
  have default (account : Identifier)
      (some : belonging account (promote (demote [] identities).2 [] (demote [] identities).1) ≠ []) :
      (belonging account (promote (demote [] identities).2 [] (demote [] identities).1)).countP (·.isDefault) = 1 := by
    have filled : belonging account (demote [] identities).1 ≠ [] := fun empty => some ((remarked_promote _ _).none account |>.2 empty)
    have count := counts account
    rw [promote_defaults [] _ fun unclaimed => by rw [count]; simp [unclaimed], count]
    by_cases isClaimed : account ∈ (demote [] identities).2 <;> simp [isClaimed, filled]
  refine ⟨default, remarked, ?_⟩
  have again : identityListSchema (promote (demote [] identities).2 [] (demote [] identities).1) ≠ none := by
    rw [identityListSchema, if_pos ⟨remarked.schema.trans valid, remarked.length_eq ▸ few⟩]
    simp
  obtain ⟨other, isOther⟩ := Option.ne_none_iff_exists'.1 again
  rw [isOther, identityListSchema_same default isOther]

end Identities

namespace MessageTags

variable {host : Host} {state next : MessageTagState}

theorem messageTagStateSchema_same (read : messageTagStateSchema host state = some next)
    (assigned : ∀ assignment ∈ state.assignments, assignment.2.Nodup ∧ assignment.2 ⊆ state.catalog.map (·.id)) :
    next = state := by
  obtain ⟨⟨-, -, valid, -⟩, made⟩ := Option.ite_none_right_eq_some.1 read
  have kept (assignment : JsString × List JsString) (member : assignment ∈ state.assignments) :
      Assigned state.catalog assignment.2 := by
    have ok := List.all_eq_true.1 valid assignment member
    simp only [assignmentSchema, Bool.and_eq_true, decide_eq_true_eq] at ok
    exact ⟨ok.1.1.2, (assigned assignment member).1, ok.1.2, (assigned assignment member).2⟩
  have same := Option.some.inj made
  rw [schema_assignments kept] at same
  exact same.symm

/-- The assignments that are left of those of a state. -/
def retained (state : MessageTagState) : Assignments :=
  (state.assignments.map fun (key, ids) => (key, ids.eraseDups.filter (· ∈ state.catalog.map (·.id)))).filter (·.2 ≠ [])

theorem mem_retained {assignment : JsString × List JsString} (member : assignment ∈ retained state) :
    ∃ ids, (assignment.1, ids) ∈ state.assignments ∧ assignment.2.Nodup ∧ assignment.2 ⊆ ids ∧
      assignment.2 ⊆ state.catalog.map (·.id) ∧ assignment.2 ≠ [] := by
  obtain ⟨made, filled⟩ := List.mem_filter.1 member
  obtain ⟨⟨key, ids⟩, isMember, rfl⟩ := List.mem_map.1 made
  refine ⟨ids, isMember, (Arrangement.nodup_eraseDups ids).filter _, fun id inside => ?_, fun id inside => ?_,
    by simpa using filled⟩
  · exact List.mem_eraseDups.1 (List.mem_of_mem_filter inside)
  · exact of_decide_eq_true (List.mem_filter.1 inside).2

theorem keys_retained (state : MessageTagState) :
    ((retained state).map Prod.fst).Sublist (state.assignments.map Prod.fst) := by
  have keys : (state.assignments.map fun (key, ids) =>
      (key, ids.eraseDups.filter (· ∈ state.catalog.map (·.id)))).map Prod.fst = state.assignments.map Prod.fst := by
    rw [List.map_map]
    rfl
  rw [← keys]
  exact List.filter_sublist.map _

/-- What a stored state is read as names no tag that is not there, no tag twice, and is read as it is. -/
theorem messageTagStateSchema_settled (read : messageTagStateSchema host state = some next) :
    (∀ assignment ∈ next.assignments, assignment.2.Nodup ∧ assignment.2 ⊆ next.catalog.map (·.id)) ∧
      (next.assignments.map Prod.fst).Sublist (state.assignments.map Prod.fst) ∧
      messageTagStateSchema host next = some next := by
  obtain ⟨⟨few, catalogue, valid, short⟩, made⟩ := Option.ite_none_right_eq_some.1 read
  obtain rfl : MessageTagState.mk state.catalog (retained state) = next := Option.some.inj made
  have assigned (assignment : JsString × List JsString) (member : assignment ∈ retained state) :
      assignment.2.Nodup ∧ assignment.2 ⊆ state.catalog.map (·.id) := by
    obtain ⟨ids, -, distinct, -, known, -⟩ := mem_retained member
    exact ⟨distinct, known⟩
  have validAgain : (retained state).all (assignmentSchema host) = true := by
    rw [List.all_eq_true]
    intro assignment member
    obtain ⟨ids, isMember, distinct, inside, -, filled⟩ := mem_retained member
    have ok := List.all_eq_true.1 valid _ isMember
    have length := (List.subperm_of_subset distinct inside).length_le
    simp only [assignmentSchema, Bool.and_eq_true, decide_eq_true_eq, List.all_eq_true] at ok ⊢
    obtain ⟨⟨⟨⟨keyed, keyShort⟩, -⟩, idsFew⟩, ids⟩ := ok
    exact ⟨⟨⟨⟨keyed, keyShort⟩, filled⟩, Nat.le_trans length idsFew⟩, fun id isId => ids id (inside isId)⟩
  have shortAgain : (retained state).length ≤ assignmentLimit := by
    have lengths := (keys_retained state).length_le
    simp only [List.length_map] at lengths
    omega
  refine ⟨assigned, keys_retained state, ?_⟩
  have again : messageTagStateSchema host ⟨state.catalog, retained state⟩ ≠ none := by
    rw [messageTagStateSchema, if_pos ⟨few, catalogue, validAgain, shortAgain⟩]
    simp
  obtain ⟨other, isOther⟩ := Option.ne_none_iff_exists'.1 again
  rw [isOther, messageTagStateSchema_same isOther assigned]

end MessageTags
