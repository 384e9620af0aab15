import MaterialEmail.AppService.Listings
import MaterialEmail.AppService.Removal

/-! Cached bodies and cached messages of one UIDVALIDITY. A body is looked up by the id of a message, in which
there is no UIDVALIDITY. -/
namespace AppService.Folders

open Interrupted Interleaved Fallible

variable {localeCompare : String → String → Ordering}

/-- `state.details[message.id]`, as `buildFilterSubjects`, the classification of junk and the search of cached
mail look it up. -/
def bodyOf (state : PersistedState) (message : MessageSummary) : Option MessageDetail := state.details message.id

/-- The body that would be used for a message is of its UIDVALIDITY. -/
def Agrees (state : PersistedState) (message : MessageSummary) : Prop :=
  ∀ body ∈ bodyOf state message, body.uidValidity = message.uidValidity

instance (state : PersistedState) (message : MessageSummary) : Decidable (Agrees state message) :=
  decidable_of_iff ((bodyOf state message).all fun body => body.uidValidity = message.uidValidity) <| by
    unfold Agrees
    cases bodyOf state message <;> simp

def Matched (state : PersistedState) : Prop := ∀ key, ∀ message ∈ state.messages key, Agrees state message

section Synced

variable {state : PersistedState} {accountId : Identifier} {folders : List FolderSummary}
  {batches : List (FolderPath × List MessageSummary)}

theorem withoutRenewed_bodyOf (message : MessageSummary) :
    bodyOf (withoutRenewed state accountId folders) message =
      if message.accountId = accountId ∧ renewed state accountId folders message.folderPath = true then none
      else bodyOf state message := rfl

theorem withoutRenewed_agrees {message : MessageSummary} :
    Agrees (withoutRenewed state accountId folders) message ↔
      (message.accountId = accountId ∧ renewed state accountId folders message.folderPath = true ∨
        Agrees state message) := by
  unfold Agrees
  rw [withoutRenewed_bodyOf]
  split
  · rename_i dropped
    simp [dropped]
  · rename_i kept
    simp [kept]

/-- A synchronization keeps bodies and messages together exactly if the listed rows agree with the bodies that
it does not drop. -/
theorem synced_matched (matched : Matched state) :
    Matched (state.synced accountId folders batches) ↔
      ∀ path, ∀ rows ∈ lastListing batches path, ∀ row ∈ rows,
        row.accountId = accountId ∧ renewed state accountId folders row.folderPath = true ∨ Agrees state row := by
  have agrees : ∀ row, Agrees (state.synced accountId folders batches) row ↔
      Agrees (withoutRenewed state accountId folders) row := by
    intro row
    unfold Agrees bodyOf
    rw [synced_eq, batches_details]
  have old : ∀ key, ∀ row ∈ (withoutRenewed state accountId folders).messages key,
      Agrees (withoutRenewed state accountId folders) row := by
    intro key row member
    simp only [withoutRenewed] at member
    split at member
    · cases member
    · exact withoutRenewed_agrees.2 (Or.inr (matched key row member))
  constructor
  · intro matched' path rows isLast row member
    have stored : row ∈ (state.synced accountId folders batches).messages (accountId, path) := by
      rw [synced_eq, batches_messages, if_pos rfl, Option.mem_def.1 isLast]
      exact member
    exact withoutRenewed_agrees.1 ((agrees row).1 (matched' _ row stored))
  · intro listed key row member
    rw [agrees]
    rw [synced_eq, batches_messages] at member
    split at member
    · cases isLast : lastListing batches key.2 with
      | none =>
        rw [isLast] at member
        exact old key row member
      | some rows =>
        rw [isLast] at member
        exact withoutRenewed_agrees.2 (listed key.2 rows isLast row member)
    · exact old key row member

end Synced

section Mutators

variable {state state' : PersistedState} {accountId : Identifier} {folderPath destination : FolderPath} {uid : Nat}
  {message : MessageSummary}

/-- What of a cached message matters to the bodies. -/
def tokens (state : PersistedState) (key : FolderKey) : List (MessageId × Option Nat) :=
  (state.messages key).map fun message => (message.id, message.uidValidity)

theorem mem_tokens {key : FolderKey} {id : MessageId} {uidValidity : Option Nat} :
    (id, uidValidity) ∈ tokens state key ↔ ∃ row ∈ state.messages key, row.id = id ∧ row.uidValidity = uidValidity := by
  simp [tokens]

theorem matched_iff : Matched state ↔ ∀ key, ∀ token ∈ tokens state key, ∀ body ∈ state.details token.1,
    body.uidValidity = token.2 := by
  simp [Matched, Agrees, bodyOf, tokens]

/-- Ids and UIDVALIDITY of what is cached come from what was cached. -/
structure Inherits (state state' : PersistedState) : Prop where
  rows : ∀ key, tokens state' key ⊆ tokens state key
  bodies : ∀ id, ∀ body' ∈ state'.details id, ∃ body ∈ state.details id, body'.uidValidity = body.uidValidity

theorem Inherits.matched (inherits : Inherits state state') (matched : Matched state) : Matched state' := by
  rw [matched_iff] at matched ⊢
  intro key token member body' isBody
  obtain ⟨body, old, same⟩ := inherits.bodies token.1 body' isBody
  rw [same]
  exact matched key token (inherits.rows key member) body old

theorem Inherits.of_same (messages : state'.messages = state.messages) (details : state'.details = state.details) :
    Inherits state state' where
  rows key := by simp [tokens, messages]
  bodies id body isBody := ⟨body, by rwa [← details], rfl⟩

theorem setMessages_tokens {key : FolderKey} {rows : List MessageSummary} (other : FolderKey) :
    tokens (state.setMessages key rows) other =
      if other = key then rows.map fun message => (message.id, message.uidValidity) else tokens state other := by
  unfold tokens PersistedState.setMessages
  by_cases same : other = key
  · simp [same]
  · simp [same]

theorem editMessage_tokens (change : MessageSummary → MessageSummary)
    (stays : ∀ row, (change row).id = row.id ∧ (change row).uidValidity = row.uidValidity) (key : FolderKey) :
    tokens (state.editMessage accountId folderPath uid change) key = tokens state key := by
  unfold PersistedState.editMessage
  rw [setMessages_tokens]
  split
  · rename_i same
    rw [same]
    exact Keyed.map_edit fun row => Prod.ext (stays row).1 (stays row).2
  · rfl

theorem readMessages_tokens (key : FolderKey) :
    tokens (state.setMessages (accountId, folderPath)
      ((state.messages (accountId, folderPath)).map fun message => { message with unread := false })) key =
        tokens state key := by
  rw [setMessages_tokens]
  split
  · rename_i same
    rw [same, List.map_map]
    rfl
  · rfl

theorem flagged_inherits {patch : FlagPatch} :
    Inherits state (state.flagged accountId folderPath uid message patch) where
  rows key := by
    have same : tokens (state.flagged accountId folderPath uid message patch) key = tokens state key :=
      editMessage_tokens (PersistedState.FlagPatch.apply patch) (fun row => ⟨rfl, rfl⟩) key
    simp [same]
  bodies id body' isBody := by
    by_cases same : id = message.id
    · subst same
      simp only [PersistedState.flagged, PersistedState.setDetail, Function.update_self] at isBody
      obtain ⟨body, old, rfl⟩ := Option.map_eq_some_iff.1 isBody
      exact ⟨body, old, rfl⟩
    · simp only [PersistedState.flagged, PersistedState.setDetail, Function.update_of_ne same] at isBody
      exact ⟨body', isBody, rfl⟩

theorem demoFolderRead_inherits : Inherits state (state.setMessages (accountId, folderPath)
    ((state.messages (accountId, folderPath)).map fun message => { message with unread := false })) where
  rows key := by simp [readMessages_tokens]
  bodies id body isBody := ⟨body, isBody, rfl⟩

theorem folderRead_inherits : Inherits state (state.folderRead accountId folderPath) where
  rows key := by
    have same : tokens (state.folderRead accountId folderPath) key = tokens state key := readMessages_tokens key
    simp [same]
  bodies id body' isBody := by
    simp only [PersistedState.folderRead] at isBody
    split at isBody
    · obtain ⟨body, old, rfl⟩ := Option.map_eq_some_iff.1 isBody
      exact ⟨body, old, rfl⟩
    · exact ⟨body', isBody, rfl⟩

theorem setMessages_matched {key : FolderKey} {rows : List MessageSummary} (matched : Matched state) :
    Matched (state.setMessages key rows) ↔ ∀ row ∈ rows, Agrees state row := by
  constructor
  · intro matched' row member
    refine matched' key row ?_
    simp only [PersistedState.setMessages, Function.update_self]
    exact member
  · intro listed other row member
    by_cases same : other = key
    · subst same
      simp only [PersistedState.setMessages, Function.update_self] at member
      exact listed row member
    · simp only [PersistedState.setMessages, Function.update_of_ne same] at member
      exact matched other row member

theorem opened_matched {detail : MessageDetail} (matched : Matched state) :
    Matched (state.opened accountId folderPath uid detail) ↔
      ∀ key, ∀ row ∈ state.messages key, row.id = (accountId, folderPath, uid) → detail.uidValidity = row.uidValidity := by
  have sameTokens : ∀ key, tokens (state.opened accountId folderPath uid detail) key = tokens state key :=
    editMessage_tokens _ fun row => ⟨rfl, rfl⟩
  have details : (state.opened accountId folderPath uid detail).details =
      Function.update state.details (accountId, folderPath, uid) (some detail) := rfl
  rw [matched_iff] at matched ⊢
  simp only [sameTokens, details]
  constructor
  · intro matched' key row member isId
    have token := mem_tokens.2 ⟨row, member, isId, rfl⟩
    exact matched' key _ token detail (Function.update_self ..)
  · rintro agrees key ⟨id, uidValidity⟩ member body isBody
    by_cases isId : id = (accountId, folderPath, uid)
    · subst isId
      obtain ⟨row, isRow, sameId, rfl⟩ := mem_tokens.1 member
      obtain rfl : detail = body := by simpa using isBody
      exact agrees key row isRow sameId
    · rw [Function.update_of_ne isId] at isBody
      exact matched key _ member body isBody

theorem without_tokens {rows : List MessageSummary} {token : MessageId × Option Nat}
    (member : token ∈ (Keyed.without MessageSummary.uid uid rows).map fun message => (message.id, message.uidValidity)) :
    token ∈ rows.map fun message => (message.id, message.uidValidity) :=
  (Keyed.without_sublist.map _).subset member

theorem moved_details {moveResult : Option MoveResult} (id : MessageId) :
    (state.moved accountId folderPath uid destination message moveResult).details id =
      if id = message.id then none else state.details id := by
  have details : (state.moved accountId folderPath uid destination message moveResult).details =
      Function.update state.details message.id none := by
    unfold PersistedState.moved
    cases PersistedState.movedMessage message destination moveResult <;> rfl
  rw [details, Function.update_apply]

/-- A move leaves the tokens that were there and that of the row that the message has become. -/
theorem moved_tokens {moveResult : Option MoveResult} {key : FolderKey} {token : MessageId × Option Nat}
    (member : token ∈ tokens (state.moved accountId folderPath uid destination message moveResult) key) :
    token ∈ tokens state key ∨
      ∃ row ∈ PersistedState.movedMessage message destination moveResult, token = (row.id, row.uidValidity) := by
  have left : ∀ key, ∀ token ∈ tokens (state.setMessages (accountId, folderPath)
      (Keyed.without MessageSummary.uid uid (state.messages (accountId, folderPath)))) key, token ∈ tokens state key := by
    intro key token member
    rw [setMessages_tokens] at member
    split at member
    · rename_i same
      rw [same]
      exact without_tokens member
    · exact member
  unfold PersistedState.moved at member
  cases isMoved : PersistedState.movedMessage message destination moveResult with
  | none =>
    rw [isMoved] at member
    exact Or.inl (left key token member)
  | some row =>
    rw [isMoved] at member
    let between := state.setMessages (accountId, folderPath)
      (Keyed.without MessageSummary.uid uid (state.messages (accountId, folderPath)))
    have arrived : token ∈ tokens (between.setMessages (accountId, destination)
        (row :: Keyed.without MessageSummary.uid row.uid (between.messages (accountId, destination)))) key := member
    rw [setMessages_tokens] at arrived
    split at arrived
    · rename_i same
      rcases List.mem_cons.1 arrived with isRow | kept
      · exact Or.inr ⟨row, rfl, isRow⟩
      · rw [same]
        exact Or.inl (left _ token (without_tokens kept))
    · exact Or.inl (left key token arrived)

/-- The row that a message has become needs a body of its own UIDVALIDITY, if there is one under its id. -/
theorem moved_matched {moveResult : Option MoveResult} (matched : Matched state) :
    Matched (state.moved accountId folderPath uid destination message moveResult) ↔
      ∀ row ∈ PersistedState.movedMessage message destination moveResult, row.id = message.id ∨ Agrees state row := by
  have arrives : ∀ row ∈ PersistedState.movedMessage message destination moveResult,
      row ∈ (state.moved accountId folderPath uid destination message moveResult).messages (accountId, destination) := by
    intro row isMoved
    unfold PersistedState.moved
    rw [Option.mem_def.1 isMoved]
    simp [PersistedState.setMessages, PersistedState.setDetail]
  constructor
  · intro matched' row isMoved
    by_cases same : row.id = message.id
    · exact Or.inl same
    · refine Or.inr fun body isBody => matched' (accountId, destination) row (arrives row isMoved) body ?_
      unfold bodyOf
      rw [moved_details, if_neg same]
      exact isBody
  · intro agrees
    rw [matched_iff] at matched ⊢
    intro key token member body isBody
    rw [moved_details] at isBody
    split at isBody
    · cases isBody
    · rename_i other
      rcases moved_tokens member with old | ⟨row, isMoved, rfl⟩
      · exact matched key token old body isBody
      · rcases agrees row isMoved with same | agrees
        · exact absurd same other
        · exact agrees body isBody

end Mutators

section Steps

variable {state state' : PersistedState} {entries entries' : Entries}

/-- What a mutator stores agrees with what it leaves: a listed row with a body that is kept, a body with the
rows of its id, a moved row with a body that its new id has. -/
def Consistent (state : PersistedState) : Commit → Prop
  | .synced accountId folders batches => HasAccount state accountId →
    ∀ path, ∀ rows ∈ lastListing batches path, ∀ row ∈ rows,
      row.accountId = accountId ∧ renewed state accountId folders row.folderPath = true ∨ Agrees state row
  | .opened accountId folderPath uid uidValidity detail => HasAccount state accountId →
    (requireCurrentMessage state accountId folderPath uid (some uidValidity)).isOk →
    ∀ key, ∀ row ∈ state.messages key, row.id = (accountId, folderPath, uid) → detail.uidValidity = row.uidValidity
  | .moved accountId folderPath uid destination uidValidity moveResult _ => HasAccount state accountId →
    ∀ message, targetMessage state accountId folderPath uid uidValidity = .ok (some message) →
    ∀ row ∈ PersistedState.movedMessage message destination moveResult, row.id = message.id ∨ Agrees state row
  | _ => True

/-- The same for a listing of `listMessages`. -/
def Change.Consistent (state : PersistedState) : Change → Prop
  | .folderListed accountId _ rows => HasAccount state accountId → ∀ row ∈ rows, Agrees state row
  | _ => True

theorem HasAccount.found {accountId : Identifier} (has : HasAccount state accountId) :
    ∃ account, requireAccount state accountId = .ok account := by
  obtain ⟨account, member, isAccount⟩ := has
  unfold requireAccount
  cases found : state.accounts.find? fun account => account.id = accountId with
  | some account => exact ⟨account, rfl⟩
  | none =>
    have absent := List.find?_eq_none.1 found account member
    simp [isAccount] at absent

theorem commit_matched {c : Commit} {fresh : Identifier} {result : c.Result} (matched : Matched state)
    (ran : c.run localeCompare fresh state = .ok (state', result)) : Matched state' ↔ Consistent state c := by
  cases c with
  | synced accountId folders batches =>
    obtain ⟨account, found, done⟩ := bind_eq_ok ran
    cases done
    rw [synced_matched matched]
    exact ⟨fun agrees _ => agrees, fun agrees => agrees (requireAccount_known found)⟩
  | opened accountId folderPath uid uidValidity detail =>
    obtain ⟨account, found, rest⟩ := bind_eq_ok ran
    obtain ⟨current, isCurrent, done⟩ := bind_eq_ok rest
    cases done
    rw [opened_matched matched]
    refine ⟨fun agrees _ _ => agrees, fun agrees => agrees (requireAccount_known found) ?_⟩
    rw [isCurrent]
    rfl
  | flagged accountId folderPath uid patch uidValidity networkError =>
    refine iff_of_true ?_ trivial
    obtain ⟨account, -, rest⟩ := bind_eq_ok ran
    obtain ⟨message, -, done⟩ := bind_eq_ok rest
    cases message with
    | none =>
      cases done
      exact matched
    | some message =>
      have flagged := (@flagged_inherits state accountId folderPath uid message patch).matched matched
      cases networkError <;> cases done <;> exact flagged
  | moved accountId folderPath uid destination uidValidity moveResult networkError =>
    obtain ⟨account, found, rest⟩ := bind_eq_ok ran
    obtain ⟨message, target, done⟩ := bind_eq_ok rest
    cases message with
    | none =>
      cases done
      refine iff_of_true matched fun _ message isTarget => ?_
      rw [target] at isTarget
      cases isTarget
    | some message =>
      have moved := @moved_matched state accountId folderPath destination uid message moveResult matched
      have consistent : Consistent state
            (.moved accountId folderPath uid destination uidValidity moveResult networkError) ↔
          ∀ row ∈ PersistedState.movedMessage message destination moveResult, row.id = message.id ∨ Agrees state row := by
        refine ⟨fun agrees => agrees (requireAccount_known found) message target, fun agrees _ other isTarget => ?_⟩
        rw [target] at isTarget
        cases isTarget
        exact agrees
      rw [consistent, ← moved]
      cases networkError <;> cases done <;> rfl
  | demoFolderRead accountId folderPath =>
    cases ran
    exact iff_of_true (demoFolderRead_inherits.matched matched) trivial
  | folderRead accountId folderPath =>
    obtain ⟨account, -, done⟩ := bind_eq_ok ran
    cases done
    exact iff_of_true (folderRead_inherits.matched matched) trivial
  | tagged accountId folderPath uid tagIds =>
    refine iff_of_true ?_ trivial
    obtain ⟨account, -, rest⟩ := bind_eq_ok ran
    cases cached : cachedMessage state accountId folderPath uid with
    | none => simp [cached] at rest
    | some message =>
      simp only [cached] at rest
      cases rest
      refine (Inherits.of_same ?_ ?_).matched matched
      · rfl
      · rfl
  | sent draft snapshot sent =>
    refine iff_of_true ?_ trivial
    have effect := Commit.run_effect ran
    cases effect
    refine (Inherits.of_same ?_ ?_).matched matched
    all_goals
      unfold PersistedState.sent
      dsimp only
      split
      · rfl
      · split <;> split <;> rfl
  | draftDeleted accountId draftId =>
    refine iff_of_true ?_ trivial
    have effect := Commit.run_effect ran
    cases effect
    split <;> exact matched
  | operationDiscarded accountId operationId =>
    obtain ⟨-, rfl⟩ := Commit.run_effect ran
    exact iff_of_true matched trivial
  | cancelled accountId outboxId =>
    obtain ⟨item, -, rfl⟩ := Commit.run_effect ran
    refine iff_of_true ((Inherits.of_same ?_ ?_).matched matched) trivial
    all_goals
      unfold PersistedState.cancelled
      split <;> rfl
  | delivered accountId outboxId sent =>
    obtain ⟨queued, -, rfl⟩ := Commit.run_effect ran
    refine iff_of_true ((Inherits.of_same ?_ ?_).matched matched) trivial
    all_goals
      unfold PersistedState.delivered
      dsimp only
      split <;> rfl
  | _ =>
    have effect := Commit.run_effect ran
    cases effect
    exact iff_of_true matched trivial

theorem commit_throws {c : Commit} {fresh : Identifier} {error : ServiceError}
    (ran : c.run localeCompare fresh state = .error error) : Consistent state c := by
  cases c with
  | synced accountId folders batches =>
    intro has
    obtain ⟨account, found⟩ := has.found
    simp [Commit.run, found, bind, Except.bind, pure, Except.pure] at ran
  | opened accountId folderPath uid uidValidity detail =>
    intro has isCurrent
    obtain ⟨account, found⟩ := has.found
    cases current : requireCurrentMessage state accountId folderPath uid (some uidValidity) with
    | error error =>
      rw [current] at isCurrent
      cases isCurrent
    | ok found' => simp [Commit.run, found, current, bind, Except.bind, pure, Except.pure] at ran
  | moved accountId folderPath uid destination uidValidity moveResult networkError =>
    intro has message target
    obtain ⟨account, found⟩ := has.found
    cases networkError <;> simp [Commit.run, found, target, bind, Except.bind, pure, Except.pure] at ran
  | _ => trivial

theorem withoutFolders_inherits (entries : Entries) (accountId : Identifier) (dropped : FolderPath → Bool) :
    Inherits state (withoutFolders accountId dropped state entries).1 where
  rows key := by
    unfold tokens withoutFolders
    dsimp only
    split <;> simp
  bodies id body isBody := ⟨body, (Option.filter_eq_some_iff.1 isBody).1, rfl⟩

theorem removed_inherits (accountId : Identifier) : Inherits state (removed accountId state entries).1 where
  rows key := by
    unfold tokens removed
    dsimp only
    split <;> simp
  bodies id body isBody := ⟨body, (Option.filter_eq_some_iff.1 isBody).1, rfl⟩

theorem change_matched {c : Change} (matched : Matched state) (ran : c.run state entries = .ok (state', entries')) :
    Matched state' ↔ c.Consistent state := by
  cases c with
  | accountRemoved accountId =>
    simp only [Change.run] at ran
    split at ran
    · cases ran
      exact iff_of_true matched trivial
    · cases ran
      exact iff_of_true ((removed_inherits accountId).matched matched) trivial
  | foldersRefreshed accountId folders =>
    obtain ⟨account, -, done⟩ := bind_eq_ok ran
    cases done
    exact iff_of_true matched trivial
  | folderListed accountId folderPath rows =>
    obtain ⟨account, found, done⟩ := bind_eq_ok ran
    cases done
    rw [setMessages_matched matched]
    exact ⟨fun agrees _ => agrees, fun agrees => agrees (requireAccount_known found)⟩
  | folderRenamed accountId folderPath destination =>
    obtain ⟨account, -, done⟩ := bind_eq_ok ran
    cases done
    exact iff_of_true ((withoutFolders_inherits entries accountId (isBeneath folderPath)).matched matched)
      trivial
  | folderDeleted accountId folderPath =>
    obtain ⟨account, -, done⟩ := bind_eq_ok ran
    cases done
    exact iff_of_true ((withoutFolders_inherits entries accountId (· = folderPath)).matched matched)
      trivial

end Steps

section Runs

/-- Every mutator that runs is consistent with what is cached when it runs. -/
def consistently : Conditions (Op ⊕ FolderOp) (Request ⊕ FolderRequest) (Choice ⊕ FolderChoice) Store where
  starts _ _ := True
  allowed _ op choice s := match op, choice with
    | .inl (.commit c), .inl (.draws _) => Consistent s.1.persisted c
    | .inr (.change c), .inr .proceeds => c.Consistent s.1.persisted
    | _, _ => True

variable {task : Nat} {s s' : Store}

theorem mail_answer_matched {op : Op} {choice : Choice} {reply : Reply op} (matched : Matched s.1.persisted)
    (answered : ((AppService.environment localeCompare).observed noteEntries).answer task op choice s =
      some (reply, s')) : Matched s'.1.persisted ↔ consistently.allowed task (.inl op) (.inl choice) s := by
  obtain ⟨state, entries⟩ := s
  simp only [Environment.observed, Option.map_eq_some_iff, Prod.exists] at answered
  obtain ⟨given, state', answered, same⟩ := answered
  cases same
  cases op with
  | commit c =>
    rcases commit_answered answered with ⟨same, error, rfl, rfl | ⟨fresh, rfl, ran⟩⟩ | ⟨fresh, value, rfl, rfl, ran⟩
    · rw [same]
      exact iff_of_true matched trivial
    · rw [same]
      exact iff_of_true matched (commit_throws ran)
    · exact commit_matched matched ran
  | _ =>
    rcases answer_persisted answered with same | ⟨c, fresh, result, isCommit, -⟩
    · rw [same]
      exact iff_of_true matched trivial
    · cases isCommit

theorem change_throws {state : PersistedState} {entries : Entries} {c : Change} {error : ServiceError}
    (ran : c.run state entries = .error error) : c.Consistent state := by
  cases c with
  | folderListed accountId folderPath rows =>
    intro has
    obtain ⟨account, found⟩ := has.found
    simp [Change.run, found, bind, Except.bind, pure, Except.pure] at ran
  | _ => trivial

theorem folder_answer_matched {op : FolderOp} {choice : FolderChoice} {reply : FolderReply op}
    (matched : Matched s.1.persisted) (answered : folderEnvironment.answer task op choice s = some (reply, s')) :
    Matched s'.1.persisted ↔ consistently.allowed task (.inr op) (.inr choice) s := by
  cases op with
  | change c =>
    cases choice with
    | proceeds =>
      simp only [folderEnvironment] at answered
      split at answered
      · rename_i persisted entries' ran
        cases answered
        exact change_matched matched ran
      · rename_i error ran
        cases answered
        exact iff_of_true matched (change_throws ran)
    | storeFails =>
      cases answered
      exact iff_of_true matched trivial
    | server result => cases answered
  | _ =>
    cases choice <;> cases answered
    exact iff_of_true matched trivial

theorem answer_matched {op : Op ⊕ FolderOp} {choice : Choice ⊕ FolderChoice} {reply : Sum.elim Reply FolderReply op}
    (matched : Matched s.1.persisted)
    (answered : (environment localeCompare).answer task op choice s = some (reply, s')) :
    Matched s'.1.persisted ↔ consistently.allowed task op choice s := by
  cases op with
  | inl op =>
    cases choice with
    | inl choice => exact mail_answer_matched matched answered
    | inr choice => cases answered
  | inr op =>
    cases choice with
    | inl choice => cases answered
    | inr choice => exact folder_answer_matched matched answered

/-- Cached bodies belong to the cached messages throughout a run exactly if every mutator that runs is
consistent with what is cached when it runs. -/
theorem bodies_matched (localeCompare : String → String → Ordering) (s : Store) (matched : Matched s.1.persisted)
    (events : List (Event (Request ⊕ FolderRequest) (Choice ⊕ FolderChoice)))
    (w : World (Op ⊕ FolderOp) (Sum.elim Reply FolderReply) ServiceError Store)
    (ran : World.run (environment localeCompare) (program localeCompare) ⟨s, []⟩ events = some w) :
    (∀ earlier, earlier <+: events → ∀ between,
        World.run (environment localeCompare) (program localeCompare) ⟨s, []⟩ earlier = some between →
        Matched between.state.1.persisted) ↔
      World.Admitted (environment localeCompare) consistently (program localeCompare) ⟨s, []⟩ events :=
  run_preserves_iff (D := consistently) (P := fun s : Store => Matched s.1.persisted) (fun _ _ => trivial)
    (fun _ _ _ _ _ _ holds answered => answer_matched holds answered) matched ran

/-- One account with a message in its inbox whose body is cached. -/
def bodyStore : Store :=
  let (state, entries) := accountStore someAccount
  ({ state with persisted := state.persisted.setDetail someMessage.id (some someMessage) }, entries)

theorem bodyStore_matched : Matched bodyStore.1.persisted := by
  intro key message member body isBody
  simp only [bodyStore, accountStore, State.initial, PersistedState.setDetail] at member
  split at member
  · obtain rfl := List.mem_singleton.1 member
    obtain rfl : someMessage = body := by simpa [bodyOf, bodyStore, PersistedState.setDetail, someMessage] using isBody
    rfl
  · cases member

/-- The message that has the uid once the mailbox has been replaced. -/
def replacedMessage : MessageSummary := { someMessage with uidValidity := some 8 }

/-- A synchronization of a mailbox that has been replaced. -/
def refreshed (task : Nat) : List (Event (Request ⊕ FolderRequest) (Choice ⊕ FolderChoice)) :=
  [.start (.inl (.syncAccount someAccount.id)), .act task (.inl .proceeds), .act task (.inl .proceeds),
    .act task (.inl .proceeds), .act task (.inl .proceeds), .act task (.inl .proceeds), .act task (.inl .proceeds),
    .act task (.inl .proceeds), .act task (.inl (.folders (.ok [⟨inboxPath, .inbox, 1, some 8⟩]))),
    .act task (.inl (.messages (.ok fun _ => [replacedMessage]))), .act task (.inl (.draws ⟨"0", zero_filled⟩))]

theorem refreshed_matched :
    ∃ w, World.run (environment compare) (program compare) ⟨bodyStore, []⟩ (refreshed 0) = some w ∧
      ((∀ earlier, earlier <+: refreshed 0 → ∀ between,
          World.run (environment compare) (program compare) ⟨bodyStore, []⟩ earlier = some between →
          Matched between.state.1.persisted) ↔
        World.Admitted (environment compare) consistently (program compare) ⟨bodyStore, []⟩ (refreshed 0)) := by
  have ran : (World.run (environment compare) (program compare) ⟨bodyStore, []⟩ (refreshed 0)).isSome := by
    decide
  obtain ⟨w, ran⟩ := Option.isSome_iff_exists.1 ran
  exact ⟨w, ran, bodies_matched compare _ bodyStore_matched _ w ran⟩

/-- A folder is created once the mailbox has been replaced, which lists the folders again. -/
def refreshedFolders : List (Event (Request ⊕ FolderRequest) (Choice ⊕ FolderChoice)) :=
  [.start (.inr (.createFolder someAccount.id archivePath)), .act 0 (.inl .proceeds), .act 0 (.inl .proceeds),
    .act 0 (.inr (.server (.ok ()))), .act 0 (.inl .proceeds), .act 0 (.inl .proceeds),
    .act 0 (.inl (.folders (.ok [⟨inboxPath, .inbox, 1, some 8⟩]))), .act 0 (.inr .proceeds)]

/-- The synchronization after it does not notice, and the new message is shown with the old body. -/
theorem refreshedFolders_unmatched :
    Matched bodyStore.1.persisted ∧
      ∃ w, World.run (environment compare) (program compare) ⟨bodyStore, []⟩ (refreshedFolders ++ refreshed 1) = some w ∧
        w.Finished ∧ w.state.1.persisted.messages (someAccount.id, inboxPath) = [replacedMessage] ∧
        bodyOf w.state.1.persisted replacedMessage = some someMessage ∧ ¬ Matched w.state.1.persisted := by
  have ran : (World.run (environment compare) (program compare) ⟨bodyStore, []⟩
      (refreshedFolders ++ refreshed 1)).isSome := by decide
  obtain ⟨w, ran⟩ := Option.isSome_iff_exists.1 ran
  have ends : ∀ w ∈ World.run (environment compare) (program compare) ⟨bodyStore, []⟩ (refreshedFolders ++ refreshed 1),
      w.Finished ∧ w.state.1.persisted.messages (someAccount.id, inboxPath) = [replacedMessage] ∧
        bodyOf w.state.1.persisted replacedMessage = some someMessage := by decide
  obtain ⟨finished, listed, isBody⟩ := ends w ran
  refine ⟨bodyStore_matched, w, ran, finished, listed, isBody, fun matched => ?_⟩
  have same := matched (someAccount.id, inboxPath) replacedMessage (by simp [listed]) someMessage isBody
  cases same

end Runs

end AppService.Folders
