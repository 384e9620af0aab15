import MaterialEmail.Library.Keyed
import Mathlib.Logic.Function.Basic

/-! The mail side of the application's state: accounts, cached folders and messages, tags, drafts and
the two queues of work that waits for the server. -/
namespace AppService

/-- A text that has passed `identifierSchema` or `folderPathSchema`: it is not empty. -/
abbrev Identifier := { text : String // text ≠ "" }

abbrev FolderPath := Identifier

inductive AccountKind where
  | imap
  | demo
  deriving DecidableEq, Repr

structure Account where
  id : Identifier
  kind : AccountKind
  deriving DecidableEq

structure MailIdentity where
  id : Identifier
  accountId : Identifier
  displayName : String
  isDefault : Bool
  ordinal : Nat
  deriving DecidableEq

inductive FolderRole where
  | inbox
  | sent
  | drafts
  | archive
  | junk
  | trash
  | other
  deriving DecidableEq, Repr

structure FolderSummary where
  path : FolderPath
  role : FolderRole
  unread : Nat
  uidValidity : Option Nat
  deriving DecidableEq

/-- `folderKey`. -/
abbrev FolderKey := Identifier × FolderPath

/-- `${accountId}:${folderPath}:${uid}`. -/
abbrev MessageId := Identifier × FolderPath × Nat

structure MessageSummary where
  accountId : Identifier
  folderPath : FolderPath
  uid : Nat
  uidValidity : Option Nat
  inReplyTo : Option String
  references : Option (List String)
  preview : String
  unread : Bool
  starred : Bool
  size : Nat
  deriving DecidableEq

def MessageSummary.id (message : MessageSummary) : MessageId :=
  (message.accountId, message.folderPath, message.uid)

/-- What a detail has beyond its summary is not looked at here. -/
abbrev MessageDetail := MessageSummary

structure MessageTag where
  id : String
  name : String
  ordinal : Nat
  deriving DecidableEq

/-- `messageTagKey`. -/
structure TagKey where
  accountId : Identifier
  folderPath : FolderPath
  uidValidity : Option Nat
  uid : Nat
  deriving DecidableEq

/-- Assignments stand in the order in which their keys were first set. -/
structure MessageTagState where
  catalog : List MessageTag
  assignments : List (TagKey × List String)
  deriving DecidableEq

structure ComposeDraft where
  id : Option Identifier
  accountId : Identifier
  identityId : Option Identifier
  «to» : List String
  cc : List String
  bcc : List String
  subject : String
  text : String
  inReplyTo : Option String
  references : Option (List String)
  attachments : List String
  deriving DecidableEq

structure FlagPatch where
  unread : Option Bool
  starred : Option Bool
  deriving DecidableEq

inductive OperationKind where
  | flags
  | move
  deriving DecidableEq, Repr

structure PendingOperation where
  id : Identifier
  accountId : Identifier
  kind : OperationKind
  folderPath : FolderPath
  uid : Nat
  uidValidity : Option Nat
  patch : Option FlagPatch
  destination : Option FolderPath
  attempts : Nat
  deriving DecidableEq

structure OutboxItem where
  id : Identifier
  draft : ComposeDraft
  attempts : Nat
  deriving DecidableEq

structure PersistedState where
  accounts : List Account
  identities : List MailIdentity
  selectedFolderPath : Option FolderPath
  folders : Identifier → List FolderSummary
  messages : FolderKey → List MessageSummary
  details : MessageId → Option MessageDetail
  messageTags : MessageTagState
  drafts : List ComposeDraft
  pendingOperations : List PendingOperation
  outbox : List OutboxItem

/-- `SendResult`. Its message id is that of the new Outbox item when it is queued. -/
structure SendResult where
  accepted : List String
  rejected : List String
  queued : Bool
  deriving DecidableEq

inductive SendDisposition where
  | queued
  | sent
  | partly
  | rejected
  deriving DecidableEq, Repr

def classifySendResult (result : SendResult) : SendDisposition :=
  if result.queued then .queued
  else if result.accepted.length = 0 then .rejected
  else if 0 < result.rejected.length then .partly
  else .sent

/-- `MailMoveResult`. -/
structure MoveResult where
  destinationUid : Option Nat
  destinationUidValidity : Option Nat
  deriving DecidableEq

/-- What the mail service throws; a mailbox of another generation has a code of its own. -/
inductive MailFailure where
  | generationMismatch
  | other (text : String)
  deriving DecidableEq, Repr

inductive ServiceError where
  | failed (text : String)
  | mail (failure : MailFailure)
  | storeFailed
  /-- `publicMailError`. -/
  | shown (cause : ServiceError)
  deriving DecidableEq, Repr

/-- `AUTOMATIC_MAIL_QUEUE_ATTEMPT_LIMIT`. -/
def attemptLimit : Nat := 3

section Tags

def tagsPerMessageLimit : Nat := 20
def tagAssignmentLimit : Nat := 20000

def tagKey (message : MessageSummary) : TagKey :=
  ⟨message.accountId, message.folderPath, message.uidValidity, message.uid⟩

variable (localeCompare : String → String → Ordering)

def sortMessageTags (tags : List MessageTag) : List MessageTag :=
  tags.mergeSort fun left right =>
    (((compare left.ordinal right.ordinal).then (localeCompare left.name right.name)).then
      (localeCompare left.id right.id)) ≠ .gt

def boundAssignments (assignments : List (TagKey × List String)) : List (TagKey × List String) :=
  assignments.drop (assignments.length - tagAssignmentLimit)

def MessageTagState.tagsOf (state : MessageTagState) (key : TagKey) : List String :=
  ((Keyed.get Prod.fst key state.assignments).map Prod.snd).getD []

/-- `setMessageTags` of the tag catalogue. -/
def MessageTagState.set (state : MessageTagState) (key : TagKey) (tagIds : List String) : MessageTagState :=
  let ordered := (sortMessageTags localeCompare (state.catalog.filter fun tag => tag.id ∈ tagIds)).map (·.id)
  let bounded := ordered.take tagsPerMessageLimit
  let assignments :=
    if bounded ≠ [] then Keyed.put Prod.fst (key, bounded) state.assignments
    else Keyed.without Prod.fst key state.assignments
  { state with assignments := boundAssignments assignments }

/-- `previewMessageTagNames`. -/
def MessageTagState.previewNames (state : MessageTagState) (key : TagKey) (tagIds : List String) : List String :=
  ((state.set localeCompare key tagIds).tagsOf key).filterMap fun id =>
    ((state.catalog.find? fun tag => tag.id = id).map (·.name)).filter (· ≠ "")

/-- `retagMovedMessage`. -/
def MessageTagState.retagMoved (state : MessageTagState) (source : TagKey) (target : Option TagKey) :
    MessageTagState :=
  match Keyed.get Prod.fst source state.assignments with
  | none => state
  | some (_, ids) =>
    let assignments := Keyed.without Prod.fst source state.assignments
    let assignments := match target with
      | some target => Keyed.put Prod.fst (target, ids) assignments
      | none => assignments
    { state with assignments := boundAssignments assignments }

end Tags

section Identities

variable (localeCompare : String → String → Ordering)

def sortIdentities (identities : List MailIdentity) : List MailIdentity :=
  identities.mergeSort fun left right =>
    ((((compare right.isDefault.toNat left.isDefault.toNat).then (compare left.ordinal right.ordinal)).then
      (localeCompare left.displayName right.displayName)).then (localeCompare left.id right.id)) ≠ .gt

def resolveIdentity (identities : List MailIdentity) (accountId : Identifier) (identityId : Option Identifier) :
    Option MailIdentity :=
  let candidates := sortIdentities localeCompare (identities.filter fun identity => identity.accountId = accountId)
  let requested := identityId.bind fun id => candidates.find? fun identity => identity.id = id
  requested.or candidates.head?

def identityForDraft (state : PersistedState) (draft : ComposeDraft) : Option MailIdentity :=
  resolveIdentity localeCompare state.identities draft.accountId draft.identityId

end Identities

/-- `sameDraftSnapshot`. The identity is not compared. -/
def sameDraftSnapshot : Option ComposeDraft → Option ComposeDraft → Bool
  | none, none => true
  | some left, some right =>
    left.id = right.id && left.accountId = right.accountId && left.«to» = right.«to» && left.cc = right.cc &&
      left.bcc = right.bcc && left.subject = right.subject && left.text = right.text &&
      left.inReplyTo = right.inReplyTo && left.references = right.references &&
      left.attachments = right.attachments
  | _, _ => false

/-- The draft that has an id, if any has. -/
def findDraft (drafts : List ComposeDraft) (id : Option Identifier) : Option ComposeDraft :=
  id.bind fun id => Keyed.get ComposeDraft.id (some id) drafts

def requireAccount (state : PersistedState) (accountId : Identifier) : Except ServiceError Account :=
  match state.accounts.find? fun account => account.id = accountId with
  | some account => .ok account
  | none => .error (.failed "The selected account no longer exists.")

def folderUidValidity (state : PersistedState) (accountId : Identifier) (folderPath : FolderPath) : Option Nat :=
  ((state.folders accountId).find? fun folder => folder.path = folderPath).bind (·.uidValidity)

def cachedMessage (state : PersistedState) (accountId : Identifier) (folderPath : FolderPath) (uid : Nat) :
    Option MessageSummary :=
  Keyed.get MessageSummary.uid uid (state.messages (accountId, folderPath))

/-- `#requireCurrentMessage`. -/
def requireCurrentMessage (state : PersistedState) (accountId : Identifier) (folderPath : FolderPath) (uid : Nat)
    (expectedUidValidity : Option Nat) : Except ServiceError (MessageSummary × Nat) :=
  match cachedMessage state accountId folderPath uid with
  | none => .error (.failed ("The message is no longer present in the current folder generation. " ++
      "Refresh the folder before retrying."))
  | some message =>
    let folder := folderUidValidity state accountId folderPath
    if message.uidValidity.isSome ∧ folder.isSome ∧ message.uidValidity ≠ folder then
      .error (.failed ("The cached message and folder UIDVALIDITY values disagree. " ++
        "Refresh the folder before retrying."))
    else
      match message.uidValidity.or folder with
      | none => .error (.failed ("The message UIDVALIDITY is unavailable, so the server action was refused. " ++
          "Refresh the folder before retrying."))
      | some uidValidity =>
        match expectedUidValidity with
        | some expected =>
          if uidValidity ≠ expected then
            .error (.failed ("The message generation changed from UIDVALIDITY " ++ toString expected ++ " to " ++
              toString uidValidity ++ ". Refresh the folder before retrying."))
          else .ok (message, uidValidity)
        | none => .ok (message, uidValidity)

theorem requireAccount_ok {state : PersistedState} {accountId : Identifier} {account : Account}
    (found : requireAccount state accountId = .ok account) : account ∈ state.accounts ∧ account.id = accountId := by
  unfold requireAccount at found
  split at found
  · rename_i isFound
    cases found
    exact ⟨List.mem_of_find?_eq_some isFound, by simpa using List.find?_some isFound⟩
  · cases found

/-- A message that may be acted on is cached, and nothing that is known contradicts its UIDVALIDITY. -/
theorem requireCurrentMessage_ok {state : PersistedState} {accountId : Identifier} {folderPath : FolderPath}
    {uid uidValidity : Nat} {expected : Option Nat} {message : MessageSummary}
    (current : requireCurrentMessage state accountId folderPath uid expected = .ok (message, uidValidity)) :
    cachedMessage state accountId folderPath uid = some message ∧
      message.uidValidity.or (folderUidValidity state accountId folderPath) = some uidValidity ∧
      (∀ folder ∈ folderUidValidity state accountId folderPath, folder = uidValidity) ∧
      ∀ asked ∈ expected, asked = uidValidity := by
  unfold requireCurrentMessage at current
  cases cached : cachedMessage state accountId folderPath uid with
  | none => simp [cached] at current
  | some row =>
    simp only [cached] at current
    split at current
    · cases current
    · rename_i agree
      split at current
      · cases current
      · rename_i known isKnown
        have folders : ∀ folder ∈ folderUidValidity state accountId folderPath, folder = known := by
          intro folder isFolder
          cases own : row.uidValidity with
          | none =>
            rw [own, Option.none_or, isFolder] at isKnown
            simpa using isKnown
          | some validity =>
            rw [own, Option.some_or, Option.some.injEq] at isKnown
            rw [own, isFolder] at agree
            simp at agree
            omega
        split at current
        · rename_i asked
          split at current
          · cases current
          · rename_i same
            cases current
            exact ⟨rfl, isKnown, folders, by simpa using (not_not.1 same).symm⟩
        · cases current
          exact ⟨rfl, isKnown, folders, by simp⟩

def someAccount : Account := ⟨⟨"work", by decide⟩, .imap⟩

def inboxPath : FolderPath := ⟨"INBOX", by decide⟩

theorem zero_filled : "0" ≠ "" := by decide

theorem one_filled : "1" ≠ "" := by decide

theorem two_filled : "2" ≠ "" := by decide

def someMessage : MessageSummary := ⟨someAccount.id, inboxPath, 1, some 7, none, none, "", true, false, 100⟩

/-- A store with one account, one folder and one message. -/
def oneMessage : PersistedState where
  accounts := [someAccount]
  identities := []
  selectedFolderPath := some inboxPath
  folders accountId := if accountId = someAccount.id then [⟨inboxPath, .inbox, 1, some 7⟩] else []
  messages key := if key = (someAccount.id, inboxPath) then [someMessage] else []
  details _ := none
  messageTags := ⟨[], []⟩
  drafts := []
  pendingOperations := []
  outbox := []

end AppService
