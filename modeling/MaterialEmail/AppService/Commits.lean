import MaterialEmail.AppService.Model

/-! The mutators that the operations hand to `store.update`, each with the values it captures. Notices
and history entries are left out. An identifier is drawn by the mutator that stores it. -/
namespace AppService

/-- Which mutator, and what it has captured. -/
inductive Commit where
  /-- `syncAccount`. -/
  | synced (accountId : Identifier) (folders : List FolderSummary)
      (batches : List (FolderPath × List MessageSummary))
  /-- `getMessage`. -/
  | opened (accountId : Identifier) (folderPath : FolderPath) (uid uidValidity : Nat) (detail : MessageDetail)
  /-- `setMessageFlags`. Without a UIDVALIDITY for the demonstration account. -/
  | flagged (accountId : Identifier) (folderPath : FolderPath) (uid : Nat) (patch : FlagPatch)
      (uidValidity : Option Nat) (networkError : Bool)
  /-- `moveMessage`. -/
  | moved (accountId : Identifier) (folderPath : FolderPath) (uid : Nat) (destination : FolderPath)
      (uidValidity : Option Nat) (moveResult : Option MoveResult) (networkError : Bool)
  /-- `markFolderRead` of the demonstration account. -/
  | demoFolderRead (accountId : Identifier) (folderPath : FolderPath)
  /-- `markFolderRead`. -/
  | folderRead (accountId : Identifier) (folderPath : FolderPath)
  /-- `setMessageTags`. -/
  | tagged (accountId : Identifier) (folderPath : FolderPath) (uid : Nat) (tagIds : List String)
  /-- `sendMessage`. -/
  | sent (draft : ComposeDraft) (persistedDraftSnapshot : Option ComposeDraft) (result : SendResult)
  /-- `saveDraft`. -/
  | draftSaved (draft : ComposeDraft)
  /-- `deleteDraft`. -/
  | draftDeleted (accountId draftId : Identifier)
  /-- `#replayPending` and `retryPendingOperation`, after the server has confirmed. -/
  | synchronized (accountId operationId : Identifier)
  /-- `#recordPendingFailure`. -/
  | operationFailed (operationId : Identifier)
  /-- `discardPendingOperation`. -/
  | operationDiscarded (accountId operationId : Identifier)
  /-- `cancelOutbox`. -/
  | cancelled (accountId outboxId : Identifier)
  /-- `#deliverOutboxItem`, after the server has answered. -/
  | delivered (accountId outboxId : Identifier) (result : SendResult)
  /-- `#recordOutboxFailure`. -/
  | deliveryFailed (outboxId : Identifier)
  deriving DecidableEq

/-- What the caller takes out of the mutator. -/
abbrev Commit.Result : Commit → Type
  | .demoFolderRead _ _ => Nat
  | .tagged _ _ _ _ => List String
  | .draftSaved _ => ComposeDraft
  | .draftDeleted _ _ => Bool
  | .cancelled _ _ => ComposeDraft
  | _ => Unit

namespace PersistedState

variable (state : PersistedState)

def setMessages (key : FolderKey) (messages : List MessageSummary) : PersistedState :=
  { state with messages := Function.update state.messages key messages }

def setDetail (id : MessageId) (detail : Option MessageDetail) : PersistedState :=
  { state with details := Function.update state.details id detail }

def editMessage (accountId : Identifier) (folderPath : FolderPath) (uid : Nat)
    (change : MessageSummary → MessageSummary) : PersistedState :=
  state.setMessages (accountId, folderPath)
    (Keyed.edit MessageSummary.uid uid change (state.messages (accountId, folderPath)))

def queueOperation (operation : PendingOperation) : PersistedState :=
  { state with pendingOperations := state.pendingOperations ++ [operation] }

def putDraft (draft : ComposeDraft) : PersistedState :=
  { state with drafts := Keyed.put ComposeDraft.id draft state.drafts }

/-- `syncAccount`: what was cached under another UIDVALIDITY is dropped, then everything that was
listed is stored. -/
def synced (accountId : Identifier) (folders : List FolderSummary)
    (batches : List (FolderPath × List MessageSummary)) : PersistedState :=
  let previous (path : FolderPath) : Option Nat := folderUidValidity state accountId path
  let renewed (path : FolderPath) : Bool := folders.any fun folder =>
    folder.path = path && (previous path).isSome && folder.uidValidity.isSome && previous path ≠ folder.uidValidity
  let kept (key : FolderKey) : Bool := ¬ (key.1 = accountId ∧ renewed key.2)
  let state := { state with
    messages := fun key => if kept key then state.messages key else []
    details := fun id => if kept (id.1, id.2.1) then state.details id else none
    folders := Function.update state.folders accountId folders }
  batches.foldl (fun state batch => state.setMessages (accountId, batch.1) batch.2) state

def opened (accountId : Identifier) (folderPath : FolderPath) (uid : Nat) (detail : MessageDetail) :
    PersistedState :=
  (state.setDetail (accountId, folderPath, uid) (some detail)).editMessage accountId folderPath uid fun message =>
    { message with
      preview := detail.preview
      inReplyTo := detail.inReplyTo.filter (· ≠ "")
      references := detail.references.filter (· ≠ []) }

def FlagPatch.apply (patch : FlagPatch) (message : MessageSummary) : MessageSummary :=
  { message with
    unread := patch.unread.getD message.unread
    starred := patch.starred.getD message.starred }

def flagged (accountId : Identifier) (folderPath : FolderPath) (uid : Nat) (message : MessageSummary)
    (patch : FlagPatch) : PersistedState :=
  (state.editMessage accountId folderPath uid (FlagPatch.apply patch)).setDetail message.id
    ((state.details message.id).map (FlagPatch.apply patch))

/-- The row under which a message that has been moved is cached. -/
def movedMessage (message : MessageSummary) (destination : FolderPath) (moveResult : Option MoveResult) :
    Option MessageSummary :=
  moveResult.bind fun result => result.destinationUid.map fun destinationUid =>
    { message with
      folderPath := destination
      uid := destinationUid
      uidValidity := result.destinationUidValidity }

def moved (accountId : Identifier) (folderPath : FolderPath) (uid : Nat) (destination : FolderPath)
    (message : MessageSummary) (moveResult : Option MoveResult) : PersistedState :=
  let moved := movedMessage message destination moveResult
  let source : FolderKey := (accountId, folderPath)
  let target : FolderKey := (accountId, destination)
  let state := state.setMessages source (Keyed.without MessageSummary.uid uid (state.messages source))
  let state := match moved with
    | some row => state.setMessages target (row :: Keyed.without MessageSummary.uid row.uid (state.messages target))
    | none => state
  let state := state.setDetail message.id none
  { state with
    messageTags := state.messageTags.retagMoved ⟨accountId, folderPath, message.uidValidity, uid⟩
      (moved.map fun row => ⟨accountId, destination, row.uidValidity, row.uid⟩) }

def folderRead (accountId : Identifier) (folderPath : FolderPath) : PersistedState :=
  { state with
    messages := Function.update state.messages (accountId, folderPath)
      ((state.messages (accountId, folderPath)).map fun message => { message with unread := false })
    details := fun id =>
      if id.1 = accountId ∧ id.2.1 = folderPath then (state.details id).map ({ · with unread := false })
      else state.details id
    folders := Function.update state.folders accountId
      (Keyed.edit FolderSummary.path folderPath ({ · with unread := 0 }) (state.folders accountId)) }

/-- `sendMessage`, once the server has answered or could not be reached. -/
def sent (draft : ComposeDraft) (persistedDraftSnapshot : Option ComposeDraft) (result : SendResult)
    (fresh : Identifier) : PersistedState :=
  let persistedDraftUnchanged := sameDraftSnapshot (findDraft state.drafts draft.id) persistedDraftSnapshot
  if classifySendResult result = .rejected then
    let id := if persistedDraftUnchanged then draft.id.getD fresh else fresh
    state.putDraft { draft with id := some id }
  else
    let state := if persistedDraftUnchanged then
        { state with drafts := Keyed.without ComposeDraft.id draft.id state.drafts }
      else state
    if result.queued then { state with outbox := state.outbox ++ [⟨fresh, draft, 0⟩] } else state

/-- `#deliverOutboxItem`, with the item as it stands in the queue. -/
def delivered (queued : OutboxItem) (result : SendResult) (fresh : Identifier) : PersistedState :=
  let state := { state with outbox := Keyed.without OutboxItem.id queued.id state.outbox }
  if classifySendResult result = .rejected then
    let currentDraft := findDraft state.drafts queued.draft.id
    let id := if currentDraft.isNone ∨ sameDraftSnapshot currentDraft queued.draft
      then queued.draft.id.getD fresh else fresh
    state.putDraft { queued.draft with id := some id }
  else state

def cancelled (item : OutboxItem) : PersistedState :=
  let state := { state with outbox := Keyed.without OutboxItem.id item.id state.outbox }
  if item.draft.id.isSome then state.putDraft item.draft
  else { state with drafts := state.drafts ++ [item.draft] }

end PersistedState

open PersistedState

def findOperation (state : PersistedState) (accountId operationId : Identifier) : Option PendingOperation :=
  state.pendingOperations.find? fun operation => operation.id = operationId ∧ operation.accountId = accountId

def findOutboxItem (state : PersistedState) (accountId outboxId : Identifier) : Option OutboxItem :=
  state.outbox.find? fun item => item.id = outboxId ∧ item.draft.accountId = accountId

def withoutOperation (state : PersistedState) (operationId : Identifier) : PersistedState :=
  { state with pendingOperations := Keyed.without PendingOperation.id operationId state.pendingOperations }

/-- The row that a change is about; for an account with a server it must be of the right generation. -/
def targetMessage (state : PersistedState) (accountId : Identifier) (folderPath : FolderPath) (uid : Nat) :
    Option Nat → Except ServiceError (Option MessageSummary)
  | some uidValidity =>
    (requireCurrentMessage state accountId folderPath uid (some uidValidity)).map fun found => some found.1
  | none => .ok (cachedMessage state accountId folderPath uid)

/-- What a mutator does with the state, or why it throws. -/
def Commit.run (localeCompare : String → String → Ordering) (fresh : Identifier) (state : PersistedState) :
    (c : Commit) → Except ServiceError (PersistedState × c.Result)
  | .synced accountId folders batches => do
    let _ ← requireAccount state accountId
    return (state.synced accountId folders batches, ())
  | .opened accountId folderPath uid uidValidity detail => do
    let _ ← requireAccount state accountId
    let _ ← requireCurrentMessage state accountId folderPath uid (some uidValidity)
    return (state.opened accountId folderPath uid detail, ())
  | .flagged accountId folderPath uid patch uidValidity networkError => do
    let _ ← requireAccount state accountId
    match ← targetMessage state accountId folderPath uid uidValidity with
    | none => return (state, ())
    | some message =>
      let state := state.flagged accountId folderPath uid message patch
      if networkError then
        return (state.queueOperation ⟨fresh, accountId, .flags, folderPath, uid, uidValidity, some patch, none, 0⟩, ())
      else return (state, ())
  | .moved accountId folderPath uid destination uidValidity moveResult networkError => do
    let _ ← requireAccount state accountId
    match ← targetMessage state accountId folderPath uid uidValidity with
    | none => return (state, ())
    | some message =>
      let state := state.moved accountId folderPath uid destination message moveResult
      if networkError then
        return (state.queueOperation
          ⟨fresh, accountId, .move, folderPath, uid, uidValidity, none, some destination, 0⟩, ())
      else return (state, ())
  | .demoFolderRead accountId folderPath =>
    let messages := state.messages (accountId, folderPath)
    .ok (state.setMessages (accountId, folderPath) (messages.map fun message => { message with unread := false }),
      (messages.filter (·.unread)).length)
  | .folderRead accountId folderPath => do
    let _ ← requireAccount state accountId
    return (state.folderRead accountId folderPath, ())
  | .tagged accountId folderPath uid tagIds => do
    let _ ← requireAccount state accountId
    match cachedMessage state accountId folderPath uid with
    | none => .error (.failed ("That message is no longer in this folder's local cache. " ++
        "Refresh the folder and try again."))
    | some message =>
      let messageTags := state.messageTags.set localeCompare (tagKey message) tagIds
      return ({ state with messageTags := messageTags }, messageTags.tagsOf (tagKey message))
  | .sent draft persistedDraftSnapshot result => do
    let _ ← requireAccount state draft.accountId
    return (state.sent draft persistedDraftSnapshot result fresh, ())
  | .draftSaved draft => do
    let _ ← requireAccount state draft.accountId
    let saved := { draft with id := some (draft.id.getD fresh) }
    return (state.putDraft saved, saved)
  | .draftDeleted accountId draftId => do
    let _ ← requireAccount state accountId
    match state.drafts.find? fun draft => draft.accountId = accountId ∧ draft.id = some draftId with
    | none => return (state, false)
    | some _ => return ({ state with drafts := Keyed.without ComposeDraft.id (some draftId) state.drafts }, true)
  | .synchronized accountId operationId => do
    let _ ← requireAccount state accountId
    return (withoutOperation state operationId, ())
  | .operationFailed operationId =>
    .ok ({ state with
      pendingOperations := Keyed.edit PendingOperation.id operationId
        (fun item => { item with attempts := item.attempts + 1 }) state.pendingOperations }, ())
  | .operationDiscarded accountId operationId => do
    let _ ← requireAccount state accountId
    match findOperation state accountId operationId with
    | none => .error (.failed "That pending mail operation no longer exists.")
    | some _ => return (withoutOperation state operationId, ())
  | .cancelled accountId outboxId => do
    let _ ← requireAccount state accountId
    match findOutboxItem state accountId outboxId with
    | none => .error (.failed "That Outbox item no longer exists.")
    | some item => return (state.cancelled item, item.draft)
  | .delivered accountId outboxId result => do
    let _ ← requireAccount state accountId
    match findOutboxItem state accountId outboxId with
    | none => .error (.failed ("That Outbox item changed while delivery was in flight; " ++
        "its local queue record was preserved for review."))
    | some queued => return (state.delivered queued result fresh, ())
  | .deliveryFailed outboxId =>
    .ok ({ state with
      outbox := Keyed.edit OutboxItem.id outboxId
        (fun item => { item with attempts := item.attempts + 1 }) state.outbox }, ())

end AppService
