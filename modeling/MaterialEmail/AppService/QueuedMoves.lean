import MaterialEmail.AppService.Queue

/-! The tags of a message whose move is queued. The tags go when the move is queued, not when the server
performs it, and nothing that is done about the queued move brings them back. -/
namespace AppService

open Interrupted Interleaved Fallible

variable {localeCompare : String → String → Ordering}

/-- Tags that are kept stand at the source until the server has performed the move, then at the row that
the message has become. -/
def TagsKept (tags : MessageTagState) (source : TagKey) (ids : List String) (performed : Option TagKey) : Prop :=
  (performed.getD source, ids) ∈ tags.assignments

instance (tags : MessageTagState) (source : TagKey) (ids : List String) (performed : Option TagKey) :
    Decidable (TagsKept tags source ids performed) := inferInstanceAs (Decidable (_ ∈ _))

/-- The mutators of refreshes, replays, retries and discards. -/
def Commit.Settles : Commit → Bool
  | .synced _ _ _ | .synchronized _ _ | .operationFailed _ | .operationDiscarded _ _ | .delivered _ _ _
  | .deliveryFailed _ => true
  | _ => false

/-- Only refreshes, replays, retries and discards take effect. -/
def settling : Conditions Op Request Choice State where
  starts _ _ := True
  allowed _ op _ _ := match op with
    | .commit c => c.Settles = true
    | _ => True

instance (request : Request) (s : State) : Decidable (settling.starts request s) := .isTrue trivial

def Op.settles : Op → Bool
  | .commit c => c.Settles
  | _ => true

theorem settling_allowed_iff {task : Nat} {op : Op} {choice : Choice} {s : State} :
    op.settles = true ↔ settling.allowed task op choice s := by
  unfold Op.settles settling
  dsimp only
  split <;> simp

instance (task : Nat) (op : Op) (choice : Choice) (s : State) : Decidable (settling.allowed task op choice s) :=
  decidable_of_iff _ settling_allowed_iff

section Mutators

variable {s s' : PersistedState} {fresh : Identifier}

@[simp] theorem queueOperation_tags (operation : PendingOperation) :
    (s.queueOperation operation).messageTags = s.messageTags := rfl

theorem synced_tags (accountId : Identifier) (folders : List FolderSummary)
    (batches : List (FolderPath × List MessageSummary)) :
    (s.synced accountId folders batches).messageTags = s.messageTags := by
  have stores : ∀ (batches : List (FolderPath × List MessageSummary)) (s : PersistedState),
      (batches.foldl (fun state batch => state.setMessages (accountId, batch.1) batch.2) s).messageTags =
        s.messageTags := by
    intro batches
    induction batches with
    | nil => simp
    | cons batch batches ih =>
      intro s
      rw [List.foldl_cons, ih]
      rfl
  exact stores batches _

theorem delivered_tags (queued : OutboxItem) (result : SendResult) :
    (s.delivered queued result fresh).messageTags = s.messageTags := by
  unfold PersistedState.delivered
  dsimp only
  split
  · rfl
  · rfl

theorem settles_tags {c : Commit} {result : c.Result} (settles : c.Settles = true)
    (ran : c.run localeCompare fresh s = .ok (s', result)) : s'.messageTags = s.messageTags := by
  cases c with
  | synced accountId folders batches =>
    obtain ⟨account, -, done⟩ := bind_eq_ok ran
    cases done
    exact synced_tags accountId folders batches
  | synchronized accountId operationId =>
    have effect := Commit.run_effect ran
    cases effect
    rfl
  | operationFailed operationId =>
    have effect := Commit.run_effect ran
    cases effect
    rfl
  | operationDiscarded accountId operationId =>
    obtain ⟨-, rfl⟩ := Commit.run_effect ran
    rfl
  | delivered accountId outboxId sent =>
    obtain ⟨queued, -, rfl⟩ := Commit.run_effect ran
    exact delivered_tags queued sent
  | deliveryFailed outboxId =>
    have effect := Commit.run_effect ran
    cases effect
    rfl
  | _ => cases settles

theorem boundAssignments_subset (assignments : List (TagKey × List String)) :
    boundAssignments assignments ⊆ assignments := by
  unfold boundAssignments
  exact List.drop_subset _ _

/-- Without a row that the message has become its tags are dropped, and no others come. -/
theorem retagMoved_none (tags : MessageTagState) (source : TagKey) :
    ∀ entry ∈ (tags.retagMoved source none).assignments, entry ∈ tags.assignments ∧ entry.1 ≠ source := by
  intro entry member
  unfold MessageTagState.retagMoved at member
  split at member
  · rename_i absent
    refine ⟨member, fun same => ?_⟩
    have missing := List.find?_eq_none.1 absent entry member
    simp [same] at missing
  · dsimp only at member
    exact Keyed.mem_without.1 (boundAssignments_subset _ member)

theorem moved_none_tags {accountId : Identifier} {folderPath : FolderPath} {uid : Nat} (destination : FolderPath)
    (message : MessageSummary) :
    (s.moved accountId folderPath uid destination message none).messageTags =
      s.messageTags.retagMoved ⟨accountId, folderPath, message.uidValidity, uid⟩ none := rfl

theorem moved_queued {accountId : Identifier} {folderPath : FolderPath} {uid uidValidity : Nat}
    {destination : FolderPath} {message : MessageSummary} {result : Unit}
    (cached : cachedMessage s accountId folderPath uid = some message)
    (ran : (Commit.moved accountId folderPath uid destination (some uidValidity) none true).run localeCompare fresh s =
      .ok (s', result)) :
    s'.messageTags = s.messageTags.retagMoved ⟨accountId, folderPath, message.uidValidity, uid⟩ none := by
  obtain ⟨account, -, rest⟩ := bind_eq_ok ran
  obtain ⟨target, isTarget, done⟩ := bind_eq_ok rest
  have found : target = some message := by
    unfold targetMessage at isTarget
    simp only at isTarget
    cases current : requireCurrentMessage s accountId folderPath uid (some uidValidity) with
    | error error => simp [current, Except.map] at isTarget
    | ok found =>
      simp only [current, Except.map, Except.ok.injEq] at isTarget
      rw [← isTarget, ← (requireCurrentMessage_ok current).1]
      exact cached
  subst found
  cases done
  rw [queueOperation_tags, moved_none_tags]

end Mutators

theorem settling_step {task : Nat} {op : Op} {choice : Choice} {reply : Reply op} {s s' : State}
    (allowed : settling.allowed task op choice s)
    (answered : (environment localeCompare).answer task op choice s = some (reply, s')) :
    s'.persisted.messageTags = s.persisted.messageTags := by
  rcases answer_persisted answered with same | ⟨c, fresh, result, rfl, -, -, ran⟩
  · rw [same]
  · exact settles_tags allowed ran

/-- Once a move is queued, the tags of its message are kept neither before nor after the server performs it,
whatever is refreshed, replayed, retried and discarded. -/
theorem queued_move_loses_tags (localeCompare : String → String → Ordering)
    (w w' w'' : World Op Reply ServiceError State) (task : Nat) (choice : Choice)
    (accountId : Identifier) (folderPath : FolderPath) (uid : Nat) (destination : FolderPath) (uidValidity : Nat)
    (message : MessageSummary) (ids : List String)
    (isDue : w.tasks[task]?.bind due =
      some (.commit (.moved accountId folderPath uid destination (some uidValidity) none true)))
    (stepped : w.step (environment localeCompare) (Request.program localeCompare) (.act task choice) = some w')
    (queued : w'.state.persisted.pendingOperations ≠ w.state.persisted.pendingOperations)
    (cached : cachedMessage w.state.persisted accountId folderPath uid = some message)
    (later : List (Event Request Choice))
    (admitted : w'.Admitted (environment localeCompare) settling (Request.program localeCompare) later)
    (ran : w'.run (environment localeCompare) (Request.program localeCompare) later = some w'')
    (performed : Option TagKey)
    (untagged : ∀ target ∈ performed, (target, ids) ∉ w.state.persisted.messageTags.assignments) :
    ¬ TagsKept w''.state.persisted.messageTags ⟨accountId, folderPath, message.uidValidity, uid⟩ ids performed := by
  have lost : w'.state.persisted.messageTags =
      w.state.persisted.messageTags.retagMoved ⟨accountId, folderPath, message.uidValidity, uid⟩ none := by
    obtain ⟨p, found, isDue⟩ := Option.bind_eq_some_iff.1 isDue
    obtain ⟨next, rfl⟩ := due_eq_some isDue
    unfold World.step at stepped
    simp only [found, Option.map_eq_some_iff, Prod.exists] at stepped
    obtain ⟨reply, state, answered, rfl⟩ := stepped
    rcases answer_persisted answered with same | ⟨c, fresh, result, isCommit, -, -, ran⟩
    · exact absurd (congrArg PersistedState.pendingOperations same) queued
    · cases isCommit
      exact moved_queued cached ran
  have stays : w''.state.persisted.messageTags = w'.state.persisted.messageTags :=
    @run_preserves _ _ _ _ _ _ _ settling _
      (fun s => s.persisted.messageTags = w'.state.persisted.messageTags)
      (fun _ _ _ _ _ _ holds allowed answered => (settling_step allowed answered).trans holds) _ _ _ rfl admitted ran
  intro kept
  unfold TagsKept at kept
  rw [stays, lost] at kept
  obtain ⟨old, notSource⟩ := retagMoved_none _ _ _ kept
  cases performed with
  | none => exact notSource rfl
  | some target => exact untagged target rfl old

/-- One message, which is tagged. -/
def taggedMessage : PersistedState :=
  { oneMessage with messageTags := ⟨[⟨"work", "Work", 1⟩], [(tagKey someMessage, ["work"])]⟩ }

def archivePath : FolderPath := ⟨"Archive", by decide⟩

/-- The message is moved while the server cannot be reached. -/
def moveWhileOffline : List (Event Request Choice) :=
  [.start (.moveMessage someAccount.id inboxPath 1 archivePath), .act 0 .proceeds,
    .act 0 (.refused (.failed "offline"))]

/-- The queued move is discarded, and a refresh lists the message at its old place. -/
def discardAndRefresh : List (Event Request Choice) :=
  [.start (.discardPendingOperation someAccount.id ⟨"0", zero_filled⟩), .act 1 .proceeds, .act 1 (.draws ⟨"1", one_filled⟩),
    .act 1 .proceeds, .start (.syncAccount someAccount.id), .act 2 .proceeds, .act 2 .proceeds, .act 2 .proceeds,
    .act 2 .proceeds, .act 2 .proceeds, .act 2 .proceeds, .act 2 .proceeds,
    .act 2 (.folders (.ok [⟨inboxPath, .inbox, 1, some 7⟩])), .act 2 (.messages (.ok fun _ => [someMessage])),
    .act 2 (.draws ⟨"2", two_filled⟩)]

theorem discardAndRefresh_loses :
    ∃ w w' w'', World.run (environment compare) (Request.program compare) ⟨.initial taggedMessage, []⟩
        moveWhileOffline = some w ∧
      w.step (environment compare) (Request.program compare) (.act 0 (.draws ⟨"0", by decide⟩)) = some w' ∧
      w'.run (environment compare) (Request.program compare) discardAndRefresh = some w'' ∧
      TagsKept w.state.persisted.messageTags (tagKey someMessage) ["work"] none ∧
      ¬ TagsKept w''.state.persisted.messageTags (tagKey someMessage) ["work"] none := by
  have runs : ((World.run (environment compare) (Request.program compare) ⟨.initial taggedMessage, []⟩
      moveWhileOffline).bind fun w => (w.step (environment compare) (Request.program compare)
        (.act 0 (.draws ⟨"0", by decide⟩))).bind fun w' =>
          w'.run (environment compare) (Request.program compare) discardAndRefresh).isSome := by decide
  obtain ⟨w'', ran⟩ := Option.isSome_iff_exists.1 runs
  obtain ⟨w, first, rest⟩ := Option.bind_eq_some_iff.1 ran
  obtain ⟨w', stepped, last⟩ := Option.bind_eq_some_iff.1 rest
  have before : ∀ w ∈ World.run (environment compare) (Request.program compare) ⟨.initial taggedMessage, []⟩
      moveWhileOffline, w.tasks[0]?.bind due = some (.commit (.moved someAccount.id inboxPath 1 archivePath (some 7) none
        true)) ∧ cachedMessage w.state.persisted someAccount.id inboxPath 1 = some someMessage ∧
      w.state.persisted.pendingOperations = [] ∧
      TagsKept w.state.persisted.messageTags (tagKey someMessage) ["work"] none := by decide
  have between : ∀ w ∈ World.run (environment compare) (Request.program compare) ⟨.initial taggedMessage, []⟩
      moveWhileOffline, ∀ w' ∈ w.step (environment compare) (Request.program compare) (.act 0 (.draws ⟨"0", by decide⟩)),
      w'.state.persisted.pendingOperations ≠ [] ∧
        w'.Admitted (environment compare) settling (Request.program compare) discardAndRefresh := by decide
  obtain ⟨isDue, cached, empty, tagged⟩ := before w first
  obtain ⟨queued, admitted⟩ := between w first w' stepped
  refine ⟨w, w', w'', first, stepped, last, tagged, ?_⟩
  exact queued_move_loses_tags compare w w' w'' 0 (.draws ⟨"0", by decide⟩) someAccount.id inboxPath 1 archivePath 7
    someMessage ["work"] isDue stepped (by rw [empty]; exact queued) cached discardAndRefresh admitted last none (by simp)

/-- In the end nothing is queued, the message is where it was, and its tags are gone. -/
theorem discardAndRefresh_untagged :
    ∃ w, World.run (environment compare) (Request.program compare) ⟨.initial taggedMessage, []⟩
        (moveWhileOffline ++ .act 0 (.draws ⟨"0", by decide⟩) :: discardAndRefresh) = some w ∧
      w.state.persisted.pendingOperations = [] ∧
      w.state.persisted.messages (someAccount.id, inboxPath) = [someMessage] ∧
      TagsKept taggedMessage.messageTags (tagKey someMessage) ["work"] none ∧
      ¬ TagsKept w.state.persisted.messageTags (tagKey someMessage) ["work"] none := by
  have ran : (World.run (environment compare) (Request.program compare) ⟨.initial taggedMessage, []⟩
      (moveWhileOffline ++ .act 0 (.draws ⟨"0", by decide⟩) :: discardAndRefresh)).isSome := by decide
  obtain ⟨w, ran⟩ := Option.isSome_iff_exists.1 ran
  have ends : ∀ w ∈ World.run (environment compare) (Request.program compare) ⟨.initial taggedMessage, []⟩
      (moveWhileOffline ++ .act 0 (.draws ⟨"0", by decide⟩) :: discardAndRefresh),
      w.state.persisted.pendingOperations = [] ∧
        w.state.persisted.messages (someAccount.id, inboxPath) = [someMessage] ∧
        TagsKept taggedMessage.messageTags (tagKey someMessage) ["work"] none ∧
        ¬ TagsKept w.state.persisted.messageTags (tagKey someMessage) ["work"] none := by decide
  exact ⟨w, ran, ends w ran⟩

end AppService
