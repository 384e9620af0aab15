import MaterialEmail.AppService.Commits
import MaterialEmail.Library.Interleaving

/-! The operations on one account's mail, as programs over reads and updates of the store, the flights
that keep queued work apart, and requests to the server. They may run side by side. -/
namespace AppService

open Interrupted Interleaved

/-- Whether a request to the server comes straight from a call or is queued work. -/
inductive Origin where
  | call
  | queue (id : Identifier)
  deriving DecidableEq

/-- What a flight has been entered for. -/
inductive QueueWork where
  | replay
  | retry
  | discard
  | cancel
  deriving DecidableEq, Repr

inductive Op where
  | read
  | commit (c : Commit)
  | enter (accountId : Identifier) (work : QueueWork)
  | leave (accountId : Identifier)
  | runtimeAccount (account : Account)
  | authorizeDraft (draft : ComposeDraft) (persistedDraft : Option ComposeDraft) (requireExistingFiles : Bool)
  | listFolders (account : Account)
  | listMessages (account : Account) (paths : List FolderPath)
  | getMessage (account : Account) (folderPath : FolderPath) (uid uidValidity : Nat)
  | setFlags (origin : Origin) (account : Account) (folderPath : FolderPath) (uid : Nat) (patch : FlagPatch)
      (uidValidity : Nat)
  | moveMessage (origin : Origin) (account : Account) (folderPath : FolderPath) (uid : Nat)
      (destination : FolderPath) (uidValidity : Nat)
  | setMessageKeywords (account : Account) (folderPath : FolderPath) (uid : Nat) (names : List String)
      (uidValidity : Nat)
  | markFolderRead (account : Account) (folderPath : FolderPath) (uidValidity : Nat)
  | sendMessage (origin : Origin) (account : Account) (draft : ComposeDraft) (identity : Option MailIdentity)
  deriving DecidableEq

abbrev Reply : Op → Type
  | .read => PersistedState
  | .commit c => Except ServiceError c.Result
  | .enter _ _ => Bool
  | .leave _ => Unit
  | .runtimeAccount _ => Except ServiceError Unit
  | .authorizeDraft _ _ _ => Except ServiceError ComposeDraft
  | .listFolders _ => Except MailFailure (List FolderSummary)
  | .listMessages _ _ => Except MailFailure (List (FolderPath × List MessageSummary))
  | .getMessage _ _ _ _ => Except MailFailure MessageDetail
  | .setFlags _ _ _ _ _ _ => Except MailFailure Unit
  | .moveMessage _ _ _ _ _ _ => Except MailFailure MoveResult
  | .setMessageKeywords _ _ _ _ _ => Except MailFailure Unit
  | .markFolderRead _ _ _ => Except MailFailure Nat
  | .sendMessage _ _ _ _ => Except MailFailure SendResult

/-- How the world answers an operation. -/
inductive Choice where
  /-- It does what it does. -/
  | proceeds
  /-- The identifier that a mutator draws. -/
  | draws (fresh : Identifier)
  | storeFails
  | refused (error : ServiceError)
  | attachments (paths : List String)
  | folders (result : Except MailFailure (List FolderSummary))
  | messages (result : Except MailFailure (FolderPath → List MessageSummary))
  | detail (result : Except MailFailure MessageDetail)
  /-- The flags that have been stored, and what the caller comes to know of it. -/
  | flags (stored : FlagPatch) (result : Except MailFailure Unit)
  | move (result : Except MailFailure MoveResult)
  | keywords (result : Except MailFailure Unit)
  | folderRead (result : Except MailFailure Nat)
  /-- The recipients that have been accepted and rejected. -/
  | send (result : Except MailFailure (List String × List String))

structure State where
  persisted : PersistedState
  /-- `#queueFlights`. -/
  flights : List Identifier
  /-- The identifiers that have been drawn. -/
  drawn : List Identifier

def PersistedState.identifiers (state : PersistedState) : List Identifier :=
  state.drafts.filterMap (·.id) ++ state.pendingOperations.map (·.id) ++ state.outbox.map (·.id) ++
    state.outbox.filterMap (·.draft.id)

/-- The service has been started on a store; nothing runs yet. -/
def State.initial (persisted : PersistedState) : State := ⟨persisted, [], persisted.identifiers⟩

/-- An identifier that `randomUUID` may draw. -/
def State.Fresh (s : State) (id : Identifier) : Prop := id ∉ s.drawn ∧ id ∉ s.persisted.identifiers

instance (s : State) (id : Identifier) : Decidable (s.Fresh id) := inferInstanceAs (Decidable (_ ∧ _))

/-- A part of what was asked for has been stored, all of it if that is confirmed. -/
def FlagPatch.Stores (asked stored : FlagPatch) (result : Except MailFailure Unit) : Prop :=
  (stored.unread = asked.unread ∨ stored.unread = none ∧ ¬ result.isOk) ∧
    (stored.starred = asked.starred ∨ stored.starred = none ∧ ¬ result.isOk)

instance (asked stored : FlagPatch) (result : Except MailFailure Unit) :
    Decidable (asked.Stores stored result) := inferInstanceAs (Decidable (_ ∧ _))

/-- A row as the mail service builds it. -/
def MessageSummary.at (message : MessageSummary) (accountId : Identifier) (folderPath : FolderPath) :
    MessageSummary :=
  { message with accountId := accountId, folderPath := folderPath }

def environment (localeCompare : String → String → Ordering) : Environment Op Reply Choice State where
  answer _ op choice s :=
    match op, choice with
    | .read, .proceeds => some (s.persisted, s)
    | .commit c, .draws fresh =>
      if s.Fresh fresh then
        match c.run localeCompare fresh s.persisted with
        | .ok (persisted, result) => some (.ok result, { s with persisted := persisted, drawn := fresh :: s.drawn })
        | .error error => some (.error error, { s with drawn := fresh :: s.drawn })
      else none
    | .commit _, .storeFails => some (.error .storeFailed, s)
    | .enter accountId _, .proceeds =>
      if accountId ∈ s.flights then some (false, s)
      else some (true, { s with flights := accountId :: s.flights })
    | .leave accountId, .proceeds => some ((), { s with flights := s.flights.filter (· ≠ accountId) })
    | .runtimeAccount _, .proceeds => some (.ok (), s)
    | .runtimeAccount _, .refused error => some (.error error, s)
    | .authorizeDraft draft _ _, .attachments paths => some (.ok { draft with attachments := paths }, s)
    | .authorizeDraft _ _ _, .refused error => some (.error error, s)
    | .listFolders _, .folders result => some (result, s)
    | .listMessages account paths, .messages result =>
      some (result.map fun rows => paths.map fun path => (path, (rows path).map (·.at account.id path)), s)
    | .getMessage account folderPath uid uidValidity, .detail result =>
      some (result.map fun detail => { detail.at account.id folderPath with uid := uid, uidValidity := uidValidity }, s)
    | .setFlags _ _ _ _ patch _, .flags stored result =>
      if patch.Stores stored result then some (result, s) else none
    | .moveMessage _ _ _ _ _ _, .move result => some (result, s)
    | .setMessageKeywords _ _ _ _ _, .keywords result => some (result, s)
    | .markFolderRead _ _ _, .folderRead result => some (result, s)
    | .sendMessage _ _ _ _, .send result =>
      some (result.map fun (accepted, rejected) => ⟨accepted, rejected, false⟩, s)
    | _, _ => none

abbrev Service := Program Op Reply ServiceError

section Primitives

def orThrow {ε : Type} (wrap : ε → ServiceError) : Except ε α → Service α
  | .ok value => .done value
  | .error error => .throw (wrap error)

def require (result : Except ServiceError α) : Service α := orThrow id result

def storeRead : Service PersistedState := .call .read .done
def update (c : Commit) : Service c.Result := .call (.commit c) (orThrow id)
def runtimeAccount (account : Account) : Service Unit := .call (.runtimeAccount account) (orThrow id)
def authorizeDraft (draft : ComposeDraft) (persistedDraft : Option ComposeDraft) (requireExistingFiles : Bool) :
    Service ComposeDraft := .call (.authorizeDraft draft persistedDraft requireExistingFiles) (orThrow id)
def listFolders (account : Account) : Service (List FolderSummary) :=
  .call (.listFolders account) (orThrow .mail)
def listMessages (account : Account) (paths : List FolderPath) : Service (List (FolderPath × List MessageSummary)) :=
  .call (.listMessages account paths) (orThrow .mail)
def fetchMessage (account : Account) (folderPath : FolderPath) (uid uidValidity : Nat) : Service MessageDetail :=
  .call (.getMessage account folderPath uid uidValidity) (orThrow .mail)
def storeFlags (origin : Origin) (account : Account) (folderPath : FolderPath) (uid : Nat) (patch : FlagPatch)
    (uidValidity : Nat) : Service Unit :=
  .call (.setFlags origin account folderPath uid patch uidValidity) (orThrow .mail)
def serverMove (origin : Origin) (account : Account) (folderPath : FolderPath) (uid : Nat)
    (destination : FolderPath) (uidValidity : Nat) : Service MoveResult :=
  .call (.moveMessage origin account folderPath uid destination uidValidity) (orThrow .mail)
def storeKeywords (account : Account) (folderPath : FolderPath) (uid : Nat) (names : List String)
    (uidValidity : Nat) : Service Unit :=
  .call (.setMessageKeywords account folderPath uid names uidValidity) (orThrow .mail)
def serverMarkFolderRead (account : Account) (folderPath : FolderPath) (uidValidity : Nat) : Service Nat :=
  .call (.markFolderRead account folderPath uidValidity) (orThrow .mail)
def transmit (origin : Origin) (account : Account) (draft : ComposeDraft) (identity : Option MailIdentity) :
    Service SendResult := .call (.sendMessage origin account draft identity) (orThrow .mail)

end Primitives

section Queue

/-- `#withQueueFlight`. -/
def withQueueFlight (accountId : Identifier) (work : QueueWork) (operation : Service α) : Service α :=
  .call (.enter accountId work) fun entered =>
    if entered then operation.finally_ (.call (.leave accountId) .done)
    else .throw (.failed ("Another queued mail operation is already running for this account. " ++
      "Wait for it to finish before retrying or discarding."))

/-- `#queueHead`: the pending operation or the Outbox item that is next. -/
def queueHead (state : PersistedState) (accountId : Identifier) : Option (Identifier ⊕ Identifier) :=
  match state.pendingOperations.find? fun item => item.accountId = accountId with
  | some operation => some (.inl operation.id)
  | none => (state.outbox.find? fun item => item.draft.accountId = accountId).map fun item => .inr item.id

def assertQueueHead (state : PersistedState) (accountId : Identifier) (item : Identifier ⊕ Identifier) :
    Except ServiceError Unit :=
  if queueHead state accountId = some item then .ok ()
  else .error (.failed ("Only the account queue head can be retried. " ++
    "Resolve or discard the earlier queued item first."))

/-- `#pendingOperationConflict`. -/
def pendingOperationConflict (state : PersistedState) (operation : PendingOperation) : Option String :=
  match operation.uidValidity with
  | none => some "This queued change has no UIDVALIDITY identity and cannot be retried safely."
  | some uidValidity =>
    match folderUidValidity state operation.accountId operation.folderPath with
    | none => none
    | some current =>
      if current ≠ uidValidity then
        some ("The " ++ operation.folderPath.1 ++ " mailbox changed from UIDVALIDITY " ++ toString uidValidity ++
          " to " ++ toString current ++ "; UID " ++ toString operation.uid ++
          " may now identify a different message.")
      else none

/-- `#performPendingOperation`. -/
def performPendingOperation (account : Account) (operation : PendingOperation) : Service Unit :=
  match operation.uidValidity with
  | none => .throw (.failed "The queued operation has no mailbox UIDVALIDITY and cannot be replayed safely.")
  | some uidValidity =>
    match operation.kind, operation.patch, operation.destination with
    | .flags, some patch, _ =>
      storeFlags (.queue operation.id) account operation.folderPath operation.uid patch uidValidity
    | .move, _, some destination => do
      let _ ← serverMove (.queue operation.id) account operation.folderPath operation.uid destination uidValidity
      return ()
    | _, _, _ => .throw (.failed "The queued operation is incomplete.")

/-- The first loop of `#replayPending`; `snapshot` is what was read before it. -/
def replayOperations (account : Account) (snapshot : PersistedState) : List PendingOperation → Service Unit
  | [] => return ()
  | operation :: operations =>
    if (pendingOperationConflict snapshot operation).isSome then return ()
    else if attemptLimit ≤ operation.attempts then return ()
    else do
      let performed ← Program.catching
        (do
          performPendingOperation account operation
          let _ ← update (.synchronized account.id operation.id)
          return true)
        (fun _ => do
          let _ ← update (.operationFailed operation.id)
          return false)
      if performed then replayOperations account snapshot operations else return ()

variable (localeCompare : String → String → Ordering)

/-- `#deliverOutboxItem`. -/
def deliverOutboxItem (account : Account) (item : OutboxItem) : Service SendResult := do
  let state ← storeRead
  let identity := identityForDraft localeCompare state item.draft
  let sent ← Program.catching (transmit (.queue item.id) account item.draft identity) fun error => do
    let _ ← update (.deliveryFailed item.id)
    .throw (.shown error)
  let _ ← update (.delivered account.id item.id sent)
  return sent

/-- The second loop of `#replayPending`. -/
def replayOutbox (account : Account) : List OutboxItem → Service Unit
  | [] => return ()
  | item :: items =>
    if attemptLimit ≤ item.attempts then return ()
    else do
      let delivered ← Program.catching
        (do
          let _ ← deliverOutboxItem localeCompare account item
          return true)
        (fun _ => return false)
      if delivered then replayOutbox account items else return ()

/-- `#replayPending`. -/
def replayPending (account : Account) : Service Unit := do
  let snapshot ← storeRead
  replayOperations account snapshot (snapshot.pendingOperations.filter (·.accountId = account.id))
  let afterOperations ← storeRead
  if afterOperations.pendingOperations.any (·.accountId = account.id) then return ()
  else replayOutbox localeCompare account (afterOperations.outbox.filter (·.draft.accountId = account.id))

/-- `retryPendingOperation`. -/
def retryPendingOperation (accountId operationId : Identifier) : Service Unit :=
  withQueueFlight accountId .retry do
    let state ← storeRead
    let account ← require (requireAccount state accountId)
    runtimeAccount account
    match findOperation state accountId operationId with
    | none => .throw (.failed "That pending mail operation no longer exists.")
    | some operation => do
      require (assertQueueHead state accountId (.inl operationId))
      match pendingOperationConflict state operation with
      | some conflict => .throw (.failed (conflict ++
          " Discard this queued change or refresh the account before reviewing it again."))
      | none =>
        Program.catching
          (do
            performPendingOperation account operation
            update (.synchronized accountId operationId))
          (fun error => do
            let _ ← update (.operationFailed operationId)
            .throw (.shown error))

def discardPendingOperation (accountId operationId : Identifier) : Service Unit :=
  withQueueFlight accountId .discard (update (.operationDiscarded accountId operationId))

def cancelOutbox (accountId outboxId : Identifier) : Service ComposeDraft :=
  withQueueFlight accountId .cancel (update (.cancelled accountId outboxId))

def retryOutbox (accountId outboxId : Identifier) : Service SendResult :=
  withQueueFlight accountId .retry do
    let state ← storeRead
    let account ← require (requireAccount state accountId)
    runtimeAccount account
    match findOutboxItem state accountId outboxId with
    | none => .throw (.failed "That Outbox item no longer exists.")
    | some item => do
      require (assertQueueHead state accountId (.inr outboxId))
      deliverOutboxItem localeCompare account item

/-- `syncAccount`. The filters that run after it are calls of their own. -/
def syncAccount (accountId : Identifier) : Service Unit := do
  let state ← storeRead
  let stored ← require (requireAccount state accountId)
  match stored.kind with
  | .demo => return ()
  | .imap => do
    runtimeAccount stored
    Program.catching
      (do
        withQueueFlight accountId .replay (replayPending localeCompare stored)
        let state ← storeRead
        let folders ← listFolders stored
        let targets := folders.filter fun folder =>
          folder.role = .inbox ∨ some folder.path = state.selectedFolderPath
        let batches ← listMessages stored (targets.map (·.path))
        update (.synced accountId folders batches))
      (fun error => .throw (.shown error))

end Queue

section Messages

/-- The largest message that is opened, in bytes. -/
def mimeSourceLimit : Nat := 32 * 1024 * 1024

/-- `byteLabel`, from one mebibyte on: one decimal, rounded. -/
def byteLabel (value : Nat) : String :=
  let tenths := (value * 10 + 512 * 1024) / (1024 * 1024)
  toString (tenths / 10) ++ "." ++ toString (tenths % 10) ++ " MiB"

def assertMimeSourceSize (sourceBytes : Nat) : Except ServiceError Unit :=
  if sourceBytes ≤ mimeSourceLimit then .ok ()
  else .error (.failed ("This message is " ++ byteLabel sourceBytes ++ ", above Material Email's " ++
    byteLabel mimeSourceLimit ++ " raw MIME parsing limit. The message was left unopened and unchanged; " ++
    "select it again to retry after the server copy changes."))

def getMessage (accountId : Identifier) (folderPath : FolderPath) (uid : Nat) : Service MessageDetail := do
  let state ← storeRead
  let account ← require (requireAccount state accountId)
  let cached := state.details (accountId, folderPath, uid)
  match account.kind, cached with
  | .demo, some detail => return detail
  | .demo, none => .throw (.failed "The demo message is no longer available.")
  | .imap, cached => do
    let (message, uidValidity) ← require (requireCurrentMessage state accountId folderPath uid none)
    match cached.filter (·.uidValidity = some uidValidity) with
    | some detail => return detail
    | none => do
      require (assertMimeSourceSize message.size)
      runtimeAccount account
      let detail ← fetchMessage account folderPath uid uidValidity
      let _ ← update (.opened accountId folderPath uid uidValidity detail)
      return detail

/-- A failure of the mailbox's generation ends the call, any other is a network error. -/
def networkError : ServiceError → Service Bool
  | .mail .generationMismatch => .throw (.mail .generationMismatch)
  | _ => return true

def setMessageFlags (accountId : Identifier) (folderPath : FolderPath) (uid : Nat) (patch : FlagPatch) :
    Service Unit := do
  let state ← storeRead
  let account ← require (requireAccount state accountId)
  match account.kind with
  | .demo => update (.flagged accountId folderPath uid patch none false)
  | .imap => do
    let (_, uidValidity) ← require (requireCurrentMessage state accountId folderPath uid none)
    let failed ← Program.catching
      (do
        runtimeAccount account
        storeFlags .call account folderPath uid patch uidValidity
        return false)
      networkError
    update (.flagged accountId folderPath uid patch (some uidValidity) failed)

def moveMessage (accountId : Identifier) (folderPath : FolderPath) (uid : Nat) (destination : FolderPath) :
    Service Unit := do
  let state ← storeRead
  let account ← require (requireAccount state accountId)
  match account.kind with
  | .demo => update (.moved accountId folderPath uid destination none (some ⟨some uid, none⟩) false)
  | .imap => do
    let (_, uidValidity) ← require (requireCurrentMessage state accountId folderPath uid none)
    let moveResult ← Program.catching
      (do
        runtimeAccount account
        let result ← serverMove .call account folderPath uid destination uidValidity
        return some result)
      (fun error => do
        let _ ← networkError error
        return none)
    update (.moved accountId folderPath uid destination (some uidValidity) moveResult moveResult.isNone)

def markFolderRead (accountId : Identifier) (folderPath : FolderPath) : Service Nat := do
  let state ← storeRead
  let account ← require (requireAccount state accountId)
  match account.kind with
  | .demo => update (.demoFolderRead accountId folderPath)
  | .imap =>
    match folderUidValidity state accountId folderPath with
    | none => .throw (.failed "Refresh this folder before marking it read: its mailbox generation is unknown.")
    | some uidValidity => do
      let changed ← Program.catching
        (do
          runtimeAccount account
          serverMarkFolderRead account folderPath uidValidity)
        (fun error => .throw (.shown error))
      update (.folderRead accountId folderPath)
      return changed

variable (localeCompare : String → String → Ordering)

def setMessageTags (accountId : Identifier) (folderPath : FolderPath) (uid : Nat) (tagIds : List String) :
    Service (List String) := do
  let state ← storeRead
  let account ← require (requireAccount state accountId)
  match account.kind with
  | .demo => update (.tagged accountId folderPath uid tagIds)
  | .imap => do
    let (message, uidValidity) ← require (requireCurrentMessage state accountId folderPath uid none)
    let names := state.messageTags.previewNames localeCompare (tagKey message) tagIds
    Program.catching
      (do
        runtimeAccount account
        storeKeywords account folderPath uid names uidValidity)
      (fun error => .throw (.shown error))
    update (.tagged accountId folderPath uid tagIds)

end Messages

section Drafts

variable (localeCompare : String → String → Ordering)

/-- The request of `sendMessage`; a message that does not get through is to be queued. -/
def attemptSend (account : Account) (draft : ComposeDraft) (identity : Option MailIdentity) : Service SendResult :=
  match account.kind with
  | .demo => return ⟨draft.«to» ++ draft.cc ++ draft.bcc, [], false⟩
  | .imap => Program.catching
    (do
      runtimeAccount account
      transmit .call account draft identity)
    (fun _ => return ⟨[], [], true⟩)

/-- `sendMessage`, of a draft that has passed `composeDraftSchema`. -/
def sendMessage (parsedDraft : ComposeDraft) : Service SendResult := do
  let state ← storeRead
  let persistedDraft := findDraft state.drafts parsedDraft.id
  let draft ← authorizeDraft parsedDraft persistedDraft true
  let account ← require (requireAccount state draft.accountId)
  if draft.«to».length = 0 ∧ draft.cc.length = 0 ∧ draft.bcc.length = 0 then
    .throw (.failed "Add at least one recipient before sending.")
  else do
    let result ← attemptSend account draft (identityForDraft localeCompare state draft)
    update (.sent draft persistedDraft result)
    return result

def saveDraft (parsedDraft : ComposeDraft) : Service ComposeDraft := do
  let snapshot ← storeRead
  let _ ← require (requireAccount snapshot parsedDraft.accountId)
  let persistedDraft := findDraft snapshot.drafts parsedDraft.id
  let draft ← authorizeDraft parsedDraft persistedDraft false
  update (.draftSaved draft)

def deleteDraft (accountId draftId : Identifier) : Service Bool := update (.draftDeleted accountId draftId)

end Drafts

/-- What can be asked of the service. -/
inductive Request where
  | syncAccount (accountId : Identifier)
  | getMessage (accountId : Identifier) (folderPath : FolderPath) (uid : Nat)
  | setMessageFlags (accountId : Identifier) (folderPath : FolderPath) (uid : Nat) (patch : FlagPatch)
  | moveMessage (accountId : Identifier) (folderPath : FolderPath) (uid : Nat) (destination : FolderPath)
  | markFolderRead (accountId : Identifier) (folderPath : FolderPath)
  | setMessageTags (accountId : Identifier) (folderPath : FolderPath) (uid : Nat) (tagIds : List String)
  | sendMessage (draft : ComposeDraft)
  | saveDraft (draft : ComposeDraft)
  | deleteDraft (accountId draftId : Identifier)
  | retryPendingOperation (accountId operationId : Identifier)
  | discardPendingOperation (accountId operationId : Identifier)
  | cancelOutbox (accountId outboxId : Identifier)
  | retryOutbox (accountId outboxId : Identifier)
  deriving DecidableEq

def ignore (p : Service α) : Service Unit := do
  let _ ← p
  return ()

def Request.program (localeCompare : String → String → Ordering) : Request → Service Unit
  | .syncAccount accountId => AppService.syncAccount localeCompare accountId
  | .getMessage accountId folderPath uid => ignore (AppService.getMessage accountId folderPath uid)
  | .setMessageFlags accountId folderPath uid patch => AppService.setMessageFlags accountId folderPath uid patch
  | .moveMessage accountId folderPath uid destination =>
    AppService.moveMessage accountId folderPath uid destination
  | .markFolderRead accountId folderPath => ignore (AppService.markFolderRead accountId folderPath)
  | .setMessageTags accountId folderPath uid tagIds =>
    ignore (AppService.setMessageTags localeCompare accountId folderPath uid tagIds)
  | .sendMessage draft => ignore (AppService.sendMessage localeCompare draft)
  | .saveDraft draft => ignore (AppService.saveDraft draft)
  | .deleteDraft accountId draftId => ignore (AppService.deleteDraft accountId draftId)
  | .retryPendingOperation accountId operationId => AppService.retryPendingOperation accountId operationId
  | .discardPendingOperation accountId operationId => AppService.discardPendingOperation accountId operationId
  | .cancelOutbox accountId outboxId => ignore (AppService.cancelOutbox accountId outboxId)
  | .retryOutbox accountId outboxId => ignore (AppService.retryOutbox localeCompare accountId outboxId)

end AppService
