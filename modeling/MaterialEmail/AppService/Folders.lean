import MaterialEmail.AppService.Operations

/-! The operations on accounts and folders, beside those on mail: an account is removed, and folders are
listed, created, renamed and deleted. -/
namespace AppService.Folders

open Interrupted Interleaved

/-- What the store holds beside the mail state: the account that is selected, and for which accounts and
folders there are entries. An entry may be empty. -/
structure Entries where
  selectedAccountId : Option Identifier
  folders : Identifier → Bool
  messages : FolderKey → Bool

abbrev Store := State × Entries

section Mutators

/-- `/` where the path has one, else the dot. -/
def separatorOf (path : FolderPath) : Char := if '/' ∈ path.1.toList then '/' else '.'

/-- The path up to its last separator, with it. -/
def parentOf (path : FolderPath) : List Char :=
  (path.1.toList.reverse.dropWhile (· ≠ separatorOf path)).reverse

/-- The path of a folder of another name beside a folder. -/
def renamedPath (path : FolderPath) (name : Identifier) : FolderPath :=
  ⟨String.ofList (parentOf path) ++ name.1, fun empty => name.2 (String.append_eq_empty_iff.1 empty).2⟩

def isBeneath (folderPath path : FolderPath) : Bool :=
  path = folderPath || (folderPath.1.toList ++ [separatorOf folderPath]).isPrefixOf path.1.toList

inductive Change where
  /-- `removeAccount`. -/
  | accountRemoved (accountId : Identifier)
  /-- `#refreshFolders`. -/
  | foldersRefreshed (accountId : Identifier) (folders : List FolderSummary)
  /-- `listMessages`. -/
  | folderListed (accountId : Identifier) (folderPath : FolderPath) (messages : List MessageSummary)
  /-- `renameFolder`. -/
  | folderRenamed (accountId : Identifier) (folderPath destination : FolderPath)
  /-- `deleteFolder`. -/
  | folderDeleted (accountId : Identifier) (folderPath : FolderPath)
  deriving DecidableEq

/-- `removeAccount`, of an account that is there. -/
def removed (accountId : Identifier) (state : PersistedState) (entries : Entries) : PersistedState × Entries :=
  let accounts := state.accounts.filter (·.id ≠ accountId)
  let selected : Bool := entries.selectedAccountId = some accountId
  ({ state with
      accounts := accounts
      folders := Function.update state.folders accountId []
      messages := fun key => if key.1 = accountId then [] else state.messages key
      details := fun id => (state.details id).filter (·.accountId ≠ accountId)
      drafts := state.drafts.filter (·.accountId ≠ accountId)
      outbox := state.outbox.filter (·.draft.accountId ≠ accountId)
      pendingOperations := state.pendingOperations.filter (·.accountId ≠ accountId)
      messageTags := { state.messageTags with
        assignments := state.messageTags.assignments.filter (·.1.accountId ≠ accountId) }
      identities := state.identities.filter (·.accountId ≠ accountId)
      selectedFolderPath := if selected then none else state.selectedFolderPath },
    { selectedAccountId := if selected then accounts.head?.map (·.id) else entries.selectedAccountId
      folders := Function.update entries.folders accountId false
      messages := fun key => if key.1 = accountId then false else entries.messages key })

def withoutFolders (accountId : Identifier) (dropped : FolderPath → Bool) (state : PersistedState)
    (entries : Entries) : PersistedState × Entries :=
  ({ state with
      messages := fun key => if key.1 = accountId ∧ dropped key.2 then [] else state.messages key
      details := fun id => (state.details id).filter fun detail =>
        ¬ (detail.accountId = accountId ∧ dropped detail.folderPath) },
    { entries with
      messages := fun key => if key.1 = accountId ∧ dropped key.2 then false else entries.messages key })

def Change.run (state : PersistedState) (entries : Entries) : Change → Except ServiceError (PersistedState × Entries)
  | .accountRemoved accountId =>
    match state.accounts.find? (·.id = accountId) with
    | none => .ok (state, entries)
    | some _ => .ok (removed accountId state entries)
  | .foldersRefreshed accountId folders => do
    let _ ← requireAccount state accountId
    return ({ state with folders := Function.update state.folders accountId folders },
      { entries with folders := Function.update entries.folders accountId true })
  | .folderListed accountId folderPath messages => do
    let _ ← requireAccount state accountId
    return (state.setMessages (accountId, folderPath) messages,
      { entries with messages := Function.update entries.messages (accountId, folderPath) true })
  | .folderRenamed accountId folderPath destination => do
    let _ ← requireAccount state accountId
    let (state, entries) := withoutFolders accountId (isBeneath folderPath) state entries
    return ({ state with
      selectedFolderPath :=
        if state.selectedFolderPath = some folderPath then some destination else state.selectedFolderPath }, entries)
  | .folderDeleted accountId folderPath => do
    let _ ← requireAccount state accountId
    let (state, entries) := withoutFolders accountId (· = folderPath) state entries
    return ({ state with
      messageTags := { state.messageTags with
        assignments := state.messageTags.assignments.filter fun assignment =>
          ¬ (assignment.1.accountId = accountId ∧ assignment.1.folderPath = folderPath) }
      selectedFolderPath :=
        if state.selectedFolderPath = some folderPath then none else state.selectedFolderPath }, entries)

/-- The folders for whose messages a mutator of the operations on mail leaves an entry. -/
def entriesAfter (c : Commit) (state : PersistedState) (entries : FolderKey → Bool) : FolderKey → Bool :=
  match c with
  | .synced accountId folders batches => fun key =>
    let renewed : Bool := folders.any fun folder =>
      folder.path = key.2 && (folderUidValidity state accountId key.2).isSome && folder.uidValidity.isSome &&
        folderUidValidity state accountId key.2 ≠ folder.uidValidity
    if key.1 = accountId then (entries key && !renewed) || batches.any (·.1 = key.2) else entries key
  | .moved accountId folderPath uid destination uidValidity moveResult _ =>
    match targetMessage state accountId folderPath uid uidValidity with
    | .ok (some message) =>
      let entries := Function.update entries (accountId, folderPath) true
      if (PersistedState.movedMessage message destination moveResult).isSome then
        Function.update entries (accountId, destination) true
      else entries
    | _ => entries
  | .demoFolderRead accountId folderPath | .folderRead accountId folderPath =>
    Function.update entries (accountId, folderPath) true
  | _ => entries

end Mutators

def noted (c : Commit) (state : PersistedState) (entries : Entries) : Entries :=
  { entries with
    folders := match c with
      | .synced accountId _ _ => Function.update entries.folders accountId true
      | _ => entries.folders
    messages := entriesAfter c state entries.messages }

/-- The entries that the operations on mail leave. -/
def noteEntries : Observer Op Reply Choice State Entries := fun _ op _ reply s entries =>
  match op, reply with
  | .commit c, .ok _ => noted c s.persisted entries
  | _, _ => entries

inductive FolderOp where
  /-- `store.read`, with the entries. -/
  | read
  | change (c : Change)
  | createFolder (account : Account) (folderPath : FolderPath)
  | renameFolder (account : Account) (folderPath destination : FolderPath)
  | deleteFolder (account : Account) (folderPath : FolderPath)
  deriving DecidableEq

abbrev FolderReply : FolderOp → Type
  | .read => PersistedState × Entries
  | .change _ => Except ServiceError Unit
  | _ => Except MailFailure Unit

inductive FolderChoice where
  | proceeds
  | storeFails
  | server (result : Except MailFailure Unit)

def folderEnvironment : Environment FolderOp FolderReply FolderChoice Store where
  answer _ op choice s :=
    match op, choice with
    | .read, .proceeds => some ((s.1.persisted, s.2), s)
    | .change c, .proceeds =>
      match c.run s.1.persisted s.2 with
      | .ok (persisted, entries) => some (.ok (), ({ s.1 with persisted := persisted }, entries))
      | .error error => some (.error error, s)
    | .change _, .storeFails => some (.error .storeFailed, s)
    | .createFolder _ _, .server result => some (result, s)
    | .renameFolder _ _ _, .server result => some (result, s)
    | .deleteFolder _ _, .server result => some (result, s)
    | _, _ => none

def environment (localeCompare : String → String → Ordering) :
    Environment (Op ⊕ FolderOp) (Sum.elim Reply FolderReply) (Choice ⊕ FolderChoice) Store :=
  ((AppService.environment localeCompare).observed noteEntries).sum folderEnvironment

abbrev FolderService := Program (Op ⊕ FolderOp) (Sum.elim Reply FolderReply) ServiceError

section Operations

def mail (p : Service α) : FolderService α := p.among

def change (c : Change) : FolderService Unit := .call (.inr (.change c)) fun reply => mail (orThrow id reply)

def removeAccount (accountId : Identifier) : FolderService Unit := change (.accountRemoved accountId)

/-- `listMessages`: what is cached is not listed again. -/
def listMessages (accountId : Identifier) (folderPath : FolderPath) : FolderService Unit :=
  .call (.inr .read) fun (state, entries) => do
    let account ← mail (require (requireAccount state accountId))
    if entries.messages (accountId, folderPath) then return ()
    else
      match account.kind with
      | .demo => return ()
      | .imap => do
        mail (runtimeAccount account)
        let batches ← mail (AppService.listMessages account [folderPath])
        change (.folderListed accountId folderPath (batches.flatMap (·.2)))

/-- `#refreshFolders`. -/
def refreshFolders (accountId : Identifier) : FolderService Unit := do
  let state ← mail storeRead
  let account ← mail (require (requireAccount state accountId))
  mail (runtimeAccount account)
  let folders ← mail (listFolders account)
  change (.foldersRefreshed accountId folders)

/-- A request to the server; its errors are shown. -/
def onServer (account : Account) (request : FolderService Unit) : FolderService Unit :=
  Program.catching
    (do
      mail (runtimeAccount account)
      request)
    (fun error => .throw (.shown error))

def requireServer (account : Account) : Except ServiceError Unit :=
  match account.kind with
  | .demo => .error (.failed "The demonstration account has a fixed set of folders.")
  | .imap => .ok ()

def serverRequest (op : FolderOp) (answered : FolderReply op → Except MailFailure Unit) : FolderService Unit :=
  .call (.inr op) fun reply => mail (orThrow .mail (answered reply))

def createFolder (accountId : Identifier) (folderPath : FolderPath) : FolderService Unit := do
  let state ← mail storeRead
  let account ← mail (require (requireAccount state accountId))
  mail (require (requireServer account))
  onServer account (serverRequest (.createFolder account folderPath) id)
  refreshFolders accountId

def renameFolder (accountId : Identifier) (folderPath : FolderPath) (name : Identifier) : FolderService Unit := do
  let state ← mail storeRead
  let account ← mail (require (requireAccount state accountId))
  mail (require (requireServer account))
  let destination := renamedPath folderPath name
  if destination = folderPath then return ()
  else do
    onServer account (serverRequest (.renameFolder account folderPath destination) id)
    -- The server may have moved a whole subtree.
    change (.folderRenamed accountId folderPath destination)
    refreshFolders accountId

/-- The text of the error has the name of the folder, which is left out of the summaries here. -/
def requireOrdinary (state : PersistedState) (accountId : Identifier) (folderPath : FolderPath) :
    Except ServiceError Unit :=
  match (state.folders accountId).find? (·.path = folderPath) with
  | some folder =>
    if folder.role ≠ .other then
      .error (.failed (" is a special folder this account relies on, so it cannot be removed."))
    else .ok ()
  | none => .ok ()

def deleteFolder (accountId : Identifier) (folderPath : FolderPath) : FolderService Unit := do
  let state ← mail storeRead
  let account ← mail (require (requireAccount state accountId))
  mail (require (requireServer account))
  mail (require (requireOrdinary state accountId folderPath))
  onServer account (serverRequest (.deleteFolder account folderPath) id)
  change (.folderDeleted accountId folderPath)
  refreshFolders accountId

end Operations

/-- What can be asked of the service beside the operations on mail. -/
inductive FolderRequest where
  | removeAccount (accountId : Identifier)
  | listMessages (accountId : Identifier) (folderPath : FolderPath)
  | createFolder (accountId : Identifier) (folderPath : FolderPath)
  | renameFolder (accountId : Identifier) (folderPath : FolderPath) (name : Identifier)
  | deleteFolder (accountId : Identifier) (folderPath : FolderPath)
  deriving DecidableEq

def program (localeCompare : String → String → Ordering) : Request ⊕ FolderRequest → FolderService Unit
  | .inl request => mail (request.program localeCompare)
  | .inr (.removeAccount accountId) => removeAccount accountId
  | .inr (.listMessages accountId folderPath) => listMessages accountId folderPath
  | .inr (.createFolder accountId folderPath) => createFolder accountId folderPath
  | .inr (.renameFolder accountId folderPath name) => renameFolder accountId folderPath name
  | .inr (.deleteFolder accountId folderPath) => deleteFolder accountId folderPath

end AppService.Folders
