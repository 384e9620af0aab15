import MaterialEmail.AppService.Operations
import MaterialEmail.Library.Fallible

/-! What the mutators do to the accounts and to the two queues, and what an observer notes of the
flights and of the requests that the server has confirmed. -/
namespace AppService

open Interrupted Interleaved Fallible

def pendingOf (s : PersistedState) (accountId : Identifier) : List PendingOperation :=
  s.pendingOperations.filter (·.accountId = accountId)

def outboxOf (s : PersistedState) (accountId : Identifier) : List OutboxItem :=
  s.outbox.filter (·.draft.accountId = accountId)

/-- At most the cached mail and the tags change. -/
structure MailOnly (s s' : PersistedState) : Prop where
  accounts : s'.accounts = s.accounts
  drafts : s'.drafts = s.drafts
  pendingOperations : s'.pendingOperations = s.pendingOperations
  outbox : s'.outbox = s.outbox

theorem MailOnly.refl (s : PersistedState) : MailOnly s s := ⟨rfl, rfl, rfl, rfl⟩

theorem MailOnly.trans {s s' s'' : PersistedState} (first : MailOnly s s') (second : MailOnly s' s'') :
    MailOnly s s'' :=
  ⟨second.accounts.trans first.accounts, second.drafts.trans first.drafts,
    second.pendingOperations.trans first.pendingOperations, second.outbox.trans first.outbox⟩

/-- What a mutator that has run did, as far as accounts, drafts and queues are concerned. -/
def Commit.Effect (fresh : Identifier) (s s' : PersistedState) : Commit → Prop
  | .synced _ _ _ | .opened _ _ _ _ _ | .demoFolderRead _ _ | .folderRead _ _ | .tagged _ _ _ _ => MailOnly s s'
  | .flagged accountId folderPath uid patch uidValidity networkError => ∃ mail, MailOnly s mail ∧
      s' = if networkError = true ∧ (uidValidity.isSome ∨ (cachedMessage s accountId folderPath uid).isSome) then
        mail.queueOperation ⟨fresh, accountId, .flags, folderPath, uid, uidValidity, some patch, none, 0⟩
      else mail
  | .moved accountId folderPath uid destination uidValidity _ networkError => ∃ mail, MailOnly s mail ∧
      s' = if networkError = true ∧ (uidValidity.isSome ∨ (cachedMessage s accountId folderPath uid).isSome) then
        mail.queueOperation ⟨fresh, accountId, .move, folderPath, uid, uidValidity, none, some destination, 0⟩
      else mail
  | .sent draft persistedDraftSnapshot result => s' = s.sent draft persistedDraftSnapshot result fresh
  | .draftSaved draft => s' = s.putDraft { draft with id := some (draft.id.getD fresh) }
  | .draftDeleted accountId draftId => s' =
      if (s.drafts.find? fun draft => draft.accountId = accountId ∧ draft.id = some draftId).isSome then
        { s with drafts := Keyed.without ComposeDraft.id (some draftId) s.drafts }
      else s
  | .synchronized _ operationId => s' = withoutOperation s operationId
  | .operationFailed operationId => s' = { s with
      pendingOperations := Keyed.edit PendingOperation.id operationId
        (fun item => { item with attempts := item.attempts + 1 }) s.pendingOperations }
  | .operationDiscarded accountId operationId =>
    (findOperation s accountId operationId).isSome ∧ s' = withoutOperation s operationId
  | .cancelled accountId outboxId => ∃ item, findOutboxItem s accountId outboxId = some item ∧ s' = s.cancelled item
  | .delivered accountId outboxId result => ∃ queued, findOutboxItem s accountId outboxId = some queued ∧
      s' = s.delivered queued result fresh
  | .deliveryFailed outboxId => s' = { s with
      outbox := Keyed.edit OutboxItem.id outboxId
        (fun item => { item with attempts := item.attempts + 1 }) s.outbox }

section Commits

variable {s s' : PersistedState} {fresh : Identifier} {localeCompare : String → String → Ordering}

theorem findOutboxItem_id {accountId outboxId : Identifier} {item : OutboxItem}
    (found : findOutboxItem s accountId outboxId = some item) :
    item ∈ s.outbox ∧ item.id = outboxId ∧ item.draft.accountId = accountId := by
  have member := List.mem_of_find?_eq_some found
  have same := List.find?_some found
  simp only [decide_eq_true_eq] at same
  exact ⟨member, same⟩

theorem findOperation_id {accountId operationId : Identifier} {operation : PendingOperation}
    (found : findOperation s accountId operationId = some operation) :
    operation ∈ s.pendingOperations ∧ operation.id = operationId ∧ operation.accountId = accountId := by
  have member := List.mem_of_find?_eq_some found
  have same := List.find?_some found
  simp only [decide_eq_true_eq] at same
  exact ⟨member, same⟩

theorem synced_mailOnly (s : PersistedState) (accountId : Identifier) (folders : List FolderSummary)
    (batches : List (FolderPath × List MessageSummary)) : MailOnly s (s.synced accountId folders batches) := by
  have stores : ∀ (batches : List (FolderPath × List MessageSummary)) (s' : PersistedState), MailOnly s s' →
      MailOnly s (batches.foldl (fun state batch => state.setMessages (accountId, batch.1) batch.2) s') := by
    intro batches
    induction batches with
    | nil => exact fun s' only => only
    | cons batch batches ih =>
      intro s' only
      apply ih
      exact only.trans ⟨rfl, rfl, rfl, rfl⟩
  exact stores batches _ ⟨rfl, rfl, rfl, rfl⟩

theorem moved_mailOnly (s : PersistedState) (accountId : Identifier) (folderPath : FolderPath) (uid : Nat)
    (destination : FolderPath) (message : MessageSummary) (moveResult : Option MoveResult) :
    MailOnly s (s.moved accountId folderPath uid destination message moveResult) := by
  unfold PersistedState.moved
  cases PersistedState.movedMessage message destination moveResult with
  | none => exact ⟨rfl, rfl, rfl, rfl⟩
  | some row => exact ⟨rfl, rfl, rfl, rfl⟩

theorem targetMessage_found {accountId : Identifier} {folderPath : FolderPath} {uid : Nat} {uidValidity : Option Nat}
    {message : Option MessageSummary}
    (target : targetMessage s accountId folderPath uid uidValidity = .ok message) :
    message.isSome ↔ uidValidity.isSome ∨ (cachedMessage s accountId folderPath uid).isSome := by
  cases uidValidity with
  | none =>
    cases target
    simp
  | some uidValidity =>
    cases current : requireCurrentMessage s accountId folderPath uid (some uidValidity) with
    | error error => simp [targetMessage, current, Except.map] at target
    | ok found =>
      simp only [targetMessage, current, Except.map, Except.ok.injEq] at target
      simp [← target]

theorem Commit.run_effect {c : Commit} {result : c.Result}
    (ran : c.run localeCompare fresh s = .ok (s', result)) : c.Effect fresh s s' := by
  cases c with
  | synced accountId folders batches =>
    obtain ⟨account, -, done⟩ := bind_eq_ok ran
    cases done
    exact synced_mailOnly s accountId folders batches
  | opened accountId folderPath uid uidValidity detail =>
    obtain ⟨account, -, rest⟩ := bind_eq_ok ran
    obtain ⟨current, -, done⟩ := bind_eq_ok rest
    cases done
    exact ⟨rfl, rfl, rfl, rfl⟩
  | flagged accountId folderPath uid patch uidValidity networkError =>
    obtain ⟨account, -, rest⟩ := bind_eq_ok ran
    obtain ⟨message, target, done⟩ := bind_eq_ok rest
    have found := targetMessage_found target
    cases message with
    | none =>
      cases done
      refine ⟨s, .refl s, ?_⟩
      rw [if_neg fun queued => absurd (found.2 queued.2) Bool.false_ne_true]
    | some message =>
      refine ⟨s.flagged accountId folderPath uid message patch, ⟨rfl, rfl, rfl, rfl⟩, ?_⟩
      cases networkError with
      | false =>
        cases done
        rw [if_neg fun queued => absurd queued.1 Bool.false_ne_true]
      | true =>
        cases done
        rw [if_pos ⟨rfl, found.1 rfl⟩]
  | moved accountId folderPath uid destination uidValidity moveResult networkError =>
    obtain ⟨account, -, rest⟩ := bind_eq_ok ran
    obtain ⟨message, target, done⟩ := bind_eq_ok rest
    have found := targetMessage_found target
    cases message with
    | none =>
      cases done
      refine ⟨s, .refl s, ?_⟩
      rw [if_neg fun queued => absurd (found.2 queued.2) Bool.false_ne_true]
    | some message =>
      refine ⟨s.moved accountId folderPath uid destination message moveResult, moved_mailOnly .., ?_⟩
      cases networkError with
      | false =>
        cases done
        rw [if_neg fun queued => absurd queued.1 Bool.false_ne_true]
      | true =>
        cases done
        rw [if_pos ⟨rfl, found.1 rfl⟩]
  | demoFolderRead accountId folderPath =>
    cases ran
    exact ⟨rfl, rfl, rfl, rfl⟩
  | folderRead accountId folderPath =>
    obtain ⟨account, -, done⟩ := bind_eq_ok ran
    cases done
    exact ⟨rfl, rfl, rfl, rfl⟩
  | tagged accountId folderPath uid tagIds =>
    obtain ⟨account, -, done⟩ := bind_eq_ok ran
    cases cached : cachedMessage s accountId folderPath uid with
    | none =>
      rw [cached] at done
      cases done
    | some message =>
      rw [cached] at done
      cases done
      exact ⟨rfl, rfl, rfl, rfl⟩
  | sent draft persistedDraftSnapshot result =>
    obtain ⟨account, -, done⟩ := bind_eq_ok ran
    cases done
    rfl
  | draftSaved draft =>
    obtain ⟨account, -, done⟩ := bind_eq_ok ran
    cases done
    rfl
  | draftDeleted accountId draftId =>
    obtain ⟨account, -, done⟩ := bind_eq_ok ran
    show s' = _
    split at done
    · rename_i absent
      cases done
      rw [absent]
      rfl
    · rename_i draft found
      cases done
      rw [found]
      rfl
  | synchronized accountId operationId =>
    obtain ⟨account, -, done⟩ := bind_eq_ok ran
    cases done
    rfl
  | operationFailed operationId =>
    cases ran
    rfl
  | operationDiscarded accountId operationId =>
    obtain ⟨account, -, done⟩ := bind_eq_ok ran
    cases found : findOperation s accountId operationId with
    | none =>
      rw [found] at done
      cases done
    | some operation =>
      rw [found] at done
      cases done
      exact ⟨by rw [found]; rfl, rfl⟩
  | cancelled accountId outboxId =>
    obtain ⟨account, -, done⟩ := bind_eq_ok ran
    cases found : findOutboxItem s accountId outboxId with
    | none =>
      rw [found] at done
      cases done
    | some item =>
      rw [found] at done
      cases done
      exact ⟨item, found, rfl⟩
  | delivered accountId outboxId result =>
    obtain ⟨account, -, done⟩ := bind_eq_ok ran
    cases found : findOutboxItem s accountId outboxId with
    | none =>
      rw [found] at done
      cases done
    | some queued =>
      rw [found] at done
      cases done
      exact ⟨queued, found, rfl⟩
  | deliveryFailed outboxId =>
    cases ran
    rfl

theorem commit_accounts {c : Commit} {result : c.Result} (ran : c.run localeCompare fresh s = .ok (s', result)) :
    s'.accounts = s.accounts := by
  have effect := Commit.run_effect ran
  cases c with
  | synced accountId folders batches => exact MailOnly.accounts effect
  | opened accountId folderPath uid uidValidity detail => exact MailOnly.accounts effect
  | flagged accountId folderPath uid patch uidValidity networkError =>
    obtain ⟨mail, only, rfl⟩ := effect
    rw [← only.accounts]
    split <;> rfl
  | moved accountId folderPath uid destination uidValidity moveResult networkError =>
    obtain ⟨mail, only, rfl⟩ := effect
    rw [← only.accounts]
    split <;> rfl
  | demoFolderRead accountId folderPath => exact MailOnly.accounts effect
  | folderRead accountId folderPath => exact MailOnly.accounts effect
  | tagged accountId folderPath uid tagIds => exact MailOnly.accounts effect
  | sent draft snapshot sent =>
    cases effect
    unfold PersistedState.sent
    dsimp only
    split
    · rfl
    · split <;> split <;> rfl
  | draftDeleted accountId draftId =>
    cases effect
    split <;> rfl
  | operationDiscarded accountId operationId =>
    obtain ⟨-, rfl⟩ := effect
    rfl
  | cancelled accountId outboxId =>
    obtain ⟨item, -, rfl⟩ := effect
    unfold PersistedState.cancelled
    split <;> rfl
  | delivered accountId outboxId sent =>
    obtain ⟨queued, -, rfl⟩ := effect
    unfold PersistedState.delivered
    dsimp only
    split <;> rfl
  | _ =>
    cases effect
    rfl

end Commits

/-- The ways in which an update is answered. -/
theorem commit_answered {localeCompare : String → String → Ordering} {task : Nat} {c : Commit} {choice : Choice}
    {reply : Except ServiceError c.Result} {state state' : State}
    (answered : (environment localeCompare).answer task (.commit c) choice state = some (reply, state')) :
    (state'.persisted = state.persisted ∧ ∃ error, reply = .error error ∧
      (choice = .storeFails ∨ ∃ fresh, choice = .draws fresh ∧ c.run localeCompare fresh state.persisted = .error error)) ∨
      ∃ fresh value, choice = .draws fresh ∧ reply = .ok value ∧
        c.run localeCompare fresh state.persisted = .ok (state'.persisted, value) := by
  cases choice with
  | storeFails =>
    cases answered
    exact Or.inl ⟨rfl, _, rfl, Or.inl rfl⟩
  | draws fresh =>
    simp only [AppService.environment] at answered
    split at answered
    · split at answered
      · rename_i persisted value ran
        cases answered
        exact Or.inr ⟨fresh, value, rfl, rfl, ran⟩
      · rename_i error ran
        cases answered
        exact Or.inl ⟨rfl, error, rfl, Or.inr ⟨fresh, rfl, ran⟩⟩
    · cases answered
  | _ => cases answered

/-- Only an update changes what is stored. -/
theorem answer_persisted {localeCompare : String → String → Ordering} {task : Nat} {op : Op} {choice : Choice}
    {reply : Reply op} {s s' : State}
    (answered : (environment localeCompare).answer task op choice s = some (reply, s')) :
    s'.persisted = s.persisted ∨ ∃ c fresh result, op = .commit c ∧ choice = .draws fresh ∧ s.Fresh fresh ∧
      c.run localeCompare fresh s.persisted = .ok (s'.persisted, result) := by
  cases op with
  | commit c =>
    cases choice with
    | storeFails =>
      cases answered
      exact Or.inl rfl
    | draws fresh =>
      simp only [environment] at answered
      split at answered
      · rename_i isFresh
        split at answered
        · rename_i persisted result ran
          cases answered
          exact Or.inr ⟨c, fresh, result, rfl, rfl, isFresh, ran⟩
        · cases answered
          exact Or.inl rfl
      · cases answered
    | _ => cases answered
  | enter accountId work =>
    cases choice with
    | proceeds =>
      simp only [environment] at answered
      split at answered
      · cases answered
        exact Or.inl rfl
      · cases answered
        exact Or.inl rfl
    | _ => cases answered
  | setFlags origin account folderPath uid patch uidValidity =>
    cases choice with
    | flags stored result =>
      simp only [environment, Option.ite_none_right_eq_some, Option.some.injEq, Prod.mk.injEq] at answered
      rw [← answered.2.2]
      exact Or.inl rfl
    | _ => cases answered
  | _ =>
    cases choice <;> cases answered <;> exact Or.inl rfl

end AppService
