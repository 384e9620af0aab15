import MaterialEmail.AppService.Queue

/-! Stored drafts have identifiers of their own, so that each of them can be opened and deleted. -/
namespace AppService

open Interrupted Interleaved

variable {localeCompare : String → String → Ordering}

/-- Every draft has an identifier, and no two have the same. -/
structure Addressable (drafts : List ComposeDraft) : Prop where
  named : ∀ draft ∈ drafts, draft.id.isSome
  distinct : (drafts.map (·.id)).Nodup

/-- What a mutator may do to the drafts, if every draft that it stores has an identifier. -/
inductive NamedEdit (drafts : List ComposeDraft) : List ComposeDraft → Prop where
  | same : NamedEdit drafts drafts
  | put (draft : ComposeDraft) (named : draft.id.isSome) :
    NamedEdit drafts (Keyed.put ComposeDraft.id draft drafts)
  | without (id : Option Identifier) : NamedEdit drafts (Keyed.without ComposeDraft.id id drafts)

theorem Addressable.edit {drafts drafts' : List ComposeDraft} (addressable : Addressable drafts)
    (edit : NamedEdit drafts drafts') : Addressable drafts' := by
  cases edit with
  | same => exact addressable
  | put draft named =>
    refine ⟨fun other member => ?_, Keyed.nodup_put addressable.distinct⟩
    rcases Keyed.mem_put member with rfl | old
    · exact named
    · exact addressable.named other old
  | without id =>
    exact ⟨fun draft member => addressable.named draft (Keyed.mem_without.1 member).1,
      Keyed.nodup_without addressable.distinct⟩

section Mutators

variable {p p' : PersistedState} {fresh : Identifier}

theorem sent_edit (draft : ComposeDraft) (snapshot : Option ComposeDraft) (result : SendResult) :
    NamedEdit p.drafts (p.sent draft snapshot result fresh).drafts := by
  unfold PersistedState.sent
  dsimp only
  repeat' split
  all_goals first
    | exact .put _ rfl
    | exact .without _
    | exact .same

theorem delivered_edit (queued : OutboxItem) (result : SendResult) :
    NamedEdit p.drafts (p.delivered queued result fresh).drafts := by
  unfold PersistedState.delivered
  dsimp only
  repeat' split
  all_goals first
    | exact .put _ rfl
    | exact .same

theorem cancelled_edit {item : OutboxItem} (named : item.draft.id.isSome) :
    NamedEdit p.drafts (p.cancelled item).drafts := by
  unfold PersistedState.cancelled
  rw [if_pos named]
  exact .put item.draft named

/-- Only the cancellation of an item without an identifier stores such a draft. -/
theorem Commit.run_edit {c : Commit} {result : c.Result} (ran : c.run localeCompare fresh p = .ok (p', result))
    (named : ∀ accountId outboxId item, c = .cancelled accountId outboxId →
      findOutboxItem p accountId outboxId = some item → item.draft.id.isSome) : NamedEdit p.drafts p'.drafts := by
  have mailOnly : MailOnly p p' → NamedEdit p.drafts p'.drafts := by
    intro only
    rw [only.drafts]
    exact .same
  have queues : ∀ {mail : PersistedState} {queued : Prop} [Decidable queued] {operation : PendingOperation},
      MailOnly p mail → p' = (if queued then mail.queueOperation operation else mail) →
      NamedEdit p.drafts p'.drafts := by
    intro mail queued _ operation only effect
    rw [effect]
    split
    · show NamedEdit p.drafts mail.drafts
      rw [only.drafts]
      exact .same
    · rw [only.drafts]
      exact .same
  have effect := Commit.run_effect ran
  cases c with
  | flagged accountId folderPath uid patch uidValidity networkError =>
    obtain ⟨mail, only, effect⟩ := effect
    exact queues only effect
  | moved accountId folderPath uid destination uidValidity moveResult networkError =>
    obtain ⟨mail, only, effect⟩ := effect
    exact queues only effect
  | sent draft snapshot sent =>
    cases effect
    exact sent_edit draft snapshot sent
  | draftSaved draft =>
    cases effect
    exact .put _ rfl
  | draftDeleted accountId draftId =>
    cases effect
    split
    · exact .without _
    · exact .same
  | cancelled accountId outboxId =>
    obtain ⟨item, found, rfl⟩ := effect
    exact cancelled_edit (named accountId outboxId item rfl found)
  | delivered accountId outboxId sent =>
    obtain ⟨queued, found, rfl⟩ := effect
    exact delivered_edit queued sent
  | operationDiscarded accountId operationId =>
    obtain ⟨-, rfl⟩ := effect
    exact .same
  | synchronized accountId operationId =>
    cases effect
    exact .same
  | operationFailed operationId =>
    cases effect
    exact .same
  | deliveryFailed outboxId =>
    cases effect
    exact .same
  | _ => exact mailOnly effect

end Mutators

/-- No Outbox item is cancelled whose message has no identifier. -/
def cancelsNamed : Conditions Op Request Choice State where
  starts _ _ := True
  allowed _ op _ s := match op with
    | .commit (.cancelled accountId outboxId) =>
      ∀ item ∈ findOutboxItem s.persisted accountId outboxId, item.draft.id.isSome
    | _ => True

instance (request : Request) (s : State) : Decidable (cancelsNamed.starts request s) := .isTrue trivial

instance (task : Nat) (op : Op) (choice : Choice) (s : State) : Decidable (cancelsNamed.allowed task op choice s) := by
  unfold cancelsNamed
  dsimp only
  split <;> infer_instance

theorem addressable_step {task : Nat} {op : Op} {choice : Choice} {reply : Reply op} {s s' : State}
    (addressable : Addressable s.persisted.drafts) (allowed : cancelsNamed.allowed task op choice s)
    (answered : (environment localeCompare).answer task op choice s = some (reply, s')) :
    Addressable s'.persisted.drafts := by
  rcases answer_persisted answered with same | ⟨c, fresh, result, rfl, -, -, ran⟩
  · rw [same]
    exact addressable
  · refine addressable.edit (Commit.run_edit ran fun accountId outboxId item isCancel found => ?_)
    subst isCancel
    exact allowed item found

section Use

variable {p : PersistedState} {draft : ComposeDraft}

theorem Addressable.retrieved (addressable : Addressable p.drafts) (member : draft ∈ p.drafts) :
    findDraft p.drafts draft.id = some draft := by
  obtain ⟨id, named⟩ := Option.isSome_iff_exists.1 (addressable.named draft member)
  have found := Keyed.get_of_mem addressable.distinct member
  rw [named] at found
  rw [named]
  exact found

theorem Addressable.without_self (addressable : Addressable p.drafts) (member : draft ∈ p.drafts) :
    Keyed.without ComposeDraft.id draft.id p.drafts = p.drafts.filter (· ≠ draft) := by
  unfold Keyed.without
  refine List.filter_congr fun other isMember => ?_
  have same : other.id = draft.id ↔ other = draft :=
    ⟨Keyed.eq_of_key addressable.distinct isMember member, fun same => same ▸ rfl⟩
  simp only [ne_eq, same]

theorem Addressable.deleted (addressable : Addressable p.drafts) (member : draft ∈ p.drafts) {account : Account}
    (known : requireAccount p draft.accountId = .ok account) (fresh : Identifier) :
    ∃ id, draft.id = some id ∧ (Commit.draftDeleted draft.accountId id).run localeCompare fresh p =
      .ok ({ p with drafts := p.drafts.filter (· ≠ draft) }, true) := by
  obtain ⟨id, named⟩ := Option.isSome_iff_exists.1 (addressable.named draft member)
  refine ⟨id, named, ?_⟩
  obtain ⟨found, isFound⟩ : ∃ found, p.drafts.find? (fun other => decide (other.accountId = draft.accountId ∧
      other.id = some id)) = some found := by
    rw [← Option.isSome_iff_exists, List.find?_isSome]
    exact ⟨draft, member, by simp [named]⟩
  have without := addressable.without_self member
  rw [named] at without
  simp only [Commit.run, known, isFound, without]
  rfl

end Use

/-- What can be done with the drafts of a store. -/
structure PersistedState.DraftsAddressable (p : PersistedState) (localeCompare : String → String → Ordering) :
    Prop where
  addressable : Addressable p.drafts
  retrieved : ∀ draft ∈ p.drafts, findDraft p.drafts draft.id = some draft
  deleted : ∀ draft ∈ p.drafts, ∀ account, requireAccount p draft.accountId = .ok account → ∀ fresh,
    ∃ id, draft.id = some id ∧ (Commit.draftDeleted draft.accountId id).run localeCompare fresh p =
      .ok ({ p with drafts := p.drafts.filter (· ≠ draft) }, true)

/-- As long as no message without an identifier is cancelled in the Outbox, every draft can be opened and
deleted by its own identifier. -/
theorem drafts_stay_addressable (localeCompare : String → String → Ordering) (persisted : PersistedState)
    (initially : Addressable persisted.drafts) (events : List (Event Request Choice))
    (w : World Op Reply ServiceError State)
    (ran : World.run (environment localeCompare) (Request.program localeCompare) ⟨.initial persisted, []⟩ events =
      some w)
    (admitted : World.Admitted (environment localeCompare) cancelsNamed (Request.program localeCompare)
      ⟨.initial persisted, []⟩ events) : w.state.persisted.DraftsAddressable localeCompare := by
  have addressable : Addressable w.state.persisted.drafts :=
    @run_preserves _ _ _ _ _ _ _ cancelsNamed _ (fun s => Addressable s.persisted.drafts)
      (fun _ _ _ _ _ _ holds allowed answered => addressable_step holds allowed answered) _ _ _ initially admitted ran
  exact ⟨addressable, fun draft member => addressable.retrieved member,
    fun draft member account known fresh => addressable.deleted member known fresh⟩

def someDraft (id : Option Identifier) : ComposeDraft :=
  ⟨id, someAccount.id, none, ["kim@example.test"], [], [], "Lunch", "Noon?", none, none, []⟩

/-- A draft is saved and sent; the server cannot be reached, and the message is taken back. -/
def savedThenCancelled : List (Event Request Choice) :=
  [.start (.saveDraft (someDraft none)), .act 0 .proceeds, .act 0 (.attachments []), .act 0 (.draws ⟨"0", zero_filled⟩),
    .start (.sendMessage (someDraft (some ⟨"0", zero_filled⟩))), .act 1 .proceeds, .act 1 (.attachments []),
    .act 1 (.refused (.failed "offline")), .act 1 (.draws ⟨"1", one_filled⟩),
    .start (.cancelOutbox someAccount.id ⟨"1", one_filled⟩), .act 2 .proceeds, .act 2 (.draws ⟨"2", two_filled⟩)]

theorem savedThenCancelled_addressable :
    ∃ w, World.run (environment compare) (Request.program compare) ⟨.initial oneMessage, []⟩ savedThenCancelled =
        some w ∧
      w.state.persisted.drafts = [someDraft (some ⟨"0", by decide⟩)] ∧
      w.state.persisted.DraftsAddressable compare := by
  have ran : (World.run (environment compare) (Request.program compare) ⟨.initial oneMessage, []⟩
      savedThenCancelled).isSome := by decide
  have ends : ∀ w ∈ World.run (environment compare) (Request.program compare) ⟨.initial oneMessage, []⟩
      savedThenCancelled, w.state.persisted.drafts = [someDraft (some ⟨"0", by decide⟩)] := by decide
  obtain ⟨w, ran⟩ := Option.isSome_iff_exists.1 ran
  exact ⟨w, ran, ends w ran, drafts_stay_addressable compare oneMessage ⟨by simp [oneMessage], by simp [oneMessage]⟩
    savedThenCancelled w ran (by decide)⟩

/-- The same with a message that has never been saved: what comes back has no identifier. -/
def sentThenCancelled : List (Event Request Choice) :=
  [.start (.sendMessage (someDraft none)), .act 0 .proceeds, .act 0 (.attachments []),
    .act 0 (.refused (.failed "offline")), .act 0 (.draws ⟨"0", by decide⟩),
    .start (.cancelOutbox someAccount.id ⟨"0", by decide⟩), .act 1 .proceeds, .act 1 (.draws ⟨"1", by decide⟩)]

theorem sentThenCancelled_unaddressable :
    ¬ ∀ w, World.run (environment compare) (Request.program compare) ⟨.initial oneMessage, []⟩ sentThenCancelled =
        some w → w.state.persisted.DraftsAddressable compare := by
  intro addressable
  have ran : (World.run (environment compare) (Request.program compare) ⟨.initial oneMessage, []⟩
      sentThenCancelled).isSome := by decide
  have ends : ∀ w ∈ World.run (environment compare) (Request.program compare) ⟨.initial oneMessage, []⟩
      sentThenCancelled, w.state.persisted.drafts = [someDraft none] := by decide
  obtain ⟨w, ran⟩ := Option.isSome_iff_exists.1 ran
  have named := (addressable w ran).addressable.named (someDraft none) (by simp [ends w ran])
  cases named

end AppService
