import MaterialEmail.AppService.Operations

/-! Which operations a call may come to. -/
namespace AppService

open Interrupted Interleaved

/-- The mutators that at most add to a queue, those of `sendMessage` apart. -/
def Commit.Plain : Commit → Prop
  | .synced _ _ _ | .opened _ _ _ _ _ | .flagged _ _ _ _ _ _ | .moved _ _ _ _ _ _ _ | .demoFolderRead _ _
  | .folderRead _ _ | .tagged _ _ _ _ | .draftSaved _ | .draftDeleted _ _ => True
  | _ => False

/-- Operations that need no flight. -/
def Plain : Op → Prop
  | .commit c => c.Plain
  | .enter _ _ | .leave _ => False
  | .setFlags origin _ _ _ _ _ | .moveMessage origin _ _ _ _ _ | .sendMessage origin _ _ _ => origin = .call
  | _ => True

/-- Operations that store nothing that the server has listed or sent. -/
def Quiet : Op → Prop
  | .commit (.synced _ _ _) | .commit (.opened _ _ _ _ _) => False
  | _ => True

def Direct (op : Op) : Prop := Plain op ∧ Quiet op

/-- Operations that authorize, send and store no draft that comes from outside. -/
def Draftless : Op → Prop
  | .authorizeDraft _ _ _ | .sendMessage _ _ _ _ | .commit (.sent _ _ _) | .commit (.draftSaved _) => False
  | _ => True

/-- The operations that deliver queued mail. -/
def Delivers : Op → Prop
  | .read | .sendMessage (.queue _) _ _ _ | .commit (.delivered _ _ _) | .commit (.deliveryFailed _) => True
  | _ => False

theorem delivers_quiet {op : Op} (delivers : Delivers op) : Quiet op := by
  cases op with
  | commit c => cases c <;> first | exact delivers.elim | trivial
  | _ => trivial

section Primitives

variable {kind : Op → Prop}

theorem orThrow_uses {ε : Type} (wrap : ε → ServiceError) (result : Except ε α) :
    (orThrow wrap result).Uses kind := by
  cases result with
  | ok value => exact .done value
  | error error => exact .throw _

theorem require_uses (result : Except ServiceError α) : (require result).Uses kind := orThrow_uses id result

theorem storeRead_uses (ofKind : kind .read) : storeRead.Uses kind := .call _ _ ofKind .done

theorem runtimeAccount_uses (account : Account) (ofKind : kind (.runtimeAccount account)) :
    (runtimeAccount account).Uses kind := .call _ _ ofKind fun result => orThrow_uses id result

theorem listFolders_uses (account : Account) (ofKind : kind (.listFolders account)) :
    (listFolders account).Uses kind := .call _ _ ofKind fun result => orThrow_uses .mail result

theorem listMessages_uses (account : Account) (paths : List FolderPath) (ofKind : kind (.listMessages account paths)) :
    (listMessages account paths).Uses kind := .call _ _ ofKind fun result => orThrow_uses .mail result

theorem fetchMessage_uses (account : Account) (folderPath : FolderPath) (uid uidValidity : Nat)
    (ofKind : kind (.getMessage account folderPath uid uidValidity)) :
    (fetchMessage account folderPath uid uidValidity).Uses kind :=
  .call _ _ ofKind fun result => orThrow_uses .mail result

theorem transmit_uses (origin : Origin) (account : Account) (draft : ComposeDraft) (identity : Option MailIdentity)
    (ofKind : kind (.sendMessage origin account draft identity)) : (transmit origin account draft identity).Uses kind :=
  .call _ _ ofKind fun result => orThrow_uses .mail result

theorem update_uses {c : Commit} (ofKind : kind (.commit c)) : (update c).Uses kind :=
  .call _ _ ofKind fun result => orThrow_uses id result

theorem ignore_uses {p : Service α} (uses : p.Uses kind) : (ignore p).Uses kind := uses.bind fun _ => .done ()

theorem networkError_uses (error : ServiceError) : (networkError error).Uses kind := by
  unfold networkError
  split
  · exact .throw _
  · exact .done true

end Primitives

section Messages

theorem getMessage_uses (accountId : Identifier) (folderPath : FolderPath) (uid : Nat) :
    (getMessage accountId folderPath uid).Uses (fun op => Plain op ∧ Draftless op) := by
  refine (storeRead_uses ⟨trivial, trivial⟩).bind fun state => (require_uses _).bind fun account => ?_
  cases account.kind with
  | demo =>
    cases state.details (accountId, folderPath, uid) with
    | none => exact .throw _
    | some detail => exact .done detail
  | imap =>
    refine (require_uses _).bind fun current => ?_
    dsimp only
    split
    · exact .done _
    · refine (require_uses _).bind fun _ => (runtimeAccount_uses account ⟨trivial, trivial⟩).bind fun _ => ?_
      refine (fetchMessage_uses account folderPath uid current.2 ⟨trivial, trivial⟩).bind fun detail => ?_
      exact (update_uses (c := .opened accountId folderPath uid current.2 detail) ⟨trivial, trivial⟩).bind fun _ => .done detail

theorem setMessageFlags_uses (accountId : Identifier) (folderPath : FolderPath) (uid : Nat) (patch : FlagPatch) :
    (setMessageFlags accountId folderPath uid patch).Uses (fun op => Direct op ∧ Draftless op) := by
  refine (storeRead_uses ⟨⟨trivial, trivial⟩, trivial⟩).bind fun state => (require_uses _).bind fun account => ?_
  cases account.kind with
  | demo => exact update_uses ⟨⟨trivial, trivial⟩, trivial⟩
  | imap =>
    refine (require_uses _).bind fun current => ?_
    have stores : (storeFlags .call account folderPath uid patch current.2).Uses (fun op => Direct op ∧ Draftless op) :=
      .call _ _ ⟨⟨rfl, trivial⟩, trivial⟩ fun result => orThrow_uses .mail result
    refine Program.Uses.bind (Program.Uses.catching ?_ networkError_uses) fun failed => update_uses ⟨⟨trivial, trivial⟩, trivial⟩
    exact (runtimeAccount_uses account ⟨⟨trivial, trivial⟩, trivial⟩).bind fun _ => stores.bind fun _ => .done false

theorem moveMessage_uses (accountId : Identifier) (folderPath : FolderPath) (uid : Nat) (destination : FolderPath) :
    (moveMessage accountId folderPath uid destination).Uses (fun op => Direct op ∧ Draftless op) := by
  refine (storeRead_uses ⟨⟨trivial, trivial⟩, trivial⟩).bind fun state => (require_uses _).bind fun account => ?_
  cases account.kind with
  | demo => exact update_uses ⟨⟨trivial, trivial⟩, trivial⟩
  | imap =>
    refine (require_uses _).bind fun current => ?_
    have moves : (serverMove .call account folderPath uid destination current.2).Uses (fun op => Direct op ∧ Draftless op) :=
      .call _ _ ⟨⟨rfl, trivial⟩, trivial⟩ fun result => orThrow_uses .mail result
    refine Program.Uses.bind (Program.Uses.catching ?_ fun error => ?_) fun moveResult => update_uses ⟨⟨trivial, trivial⟩, trivial⟩
    · exact (runtimeAccount_uses account ⟨⟨trivial, trivial⟩, trivial⟩).bind fun _ => moves.bind fun result => .done (some result)
    · exact (networkError_uses error).bind fun _ => .done none

theorem markFolderRead_uses (accountId : Identifier) (folderPath : FolderPath) :
    (markFolderRead accountId folderPath).Uses (fun op => Direct op ∧ Draftless op) := by
  refine (storeRead_uses ⟨⟨trivial, trivial⟩, trivial⟩).bind fun state => (require_uses _).bind fun account => ?_
  cases account.kind with
  | demo => exact update_uses ⟨⟨trivial, trivial⟩, trivial⟩
  | imap =>
    dsimp only
    split
    · exact .throw _
    · rename_i uidValidity known
      have marks : (serverMarkFolderRead account folderPath uidValidity).Uses (fun op => Direct op ∧ Draftless op) :=
        .call _ _ ⟨⟨trivial, trivial⟩, trivial⟩ fun result => orThrow_uses .mail result
      refine Program.Uses.bind (Program.Uses.catching ?_ fun error => .throw _) fun changed => ?_
      · exact (runtimeAccount_uses account ⟨⟨trivial, trivial⟩, trivial⟩).bind fun _ => marks
      · exact (update_uses (c := .folderRead accountId folderPath) ⟨⟨trivial, trivial⟩, trivial⟩).bind fun _ => .done changed

theorem setMessageTags_uses (localeCompare : String → String → Ordering) (accountId : Identifier)
    (folderPath : FolderPath) (uid : Nat) (tagIds : List String) :
    (setMessageTags localeCompare accountId folderPath uid tagIds).Uses (fun op => Direct op ∧ Draftless op) := by
  refine (storeRead_uses ⟨⟨trivial, trivial⟩, trivial⟩).bind fun state => (require_uses _).bind fun account => ?_
  cases account.kind with
  | demo => exact update_uses ⟨⟨trivial, trivial⟩, trivial⟩
  | imap =>
    refine (require_uses _).bind fun current => ?_
    refine Program.Uses.bind (Program.Uses.catching ?_ fun error => .throw _) fun _ => update_uses ⟨⟨trivial, trivial⟩, trivial⟩
    refine (runtimeAccount_uses account ⟨⟨trivial, trivial⟩, trivial⟩).bind fun _ => ?_
    exact .call _ _ ⟨⟨trivial, trivial⟩, trivial⟩ fun result => orThrow_uses .mail result

theorem saveDraft_uses (parsedDraft : ComposeDraft) : (saveDraft parsedDraft).Uses Direct := by
  refine (storeRead_uses ⟨trivial, trivial⟩).bind fun snapshot => (require_uses _).bind fun account => ?_
  refine Program.Uses.bind ?_ fun draft => update_uses ⟨trivial, trivial⟩
  exact .call _ _ ⟨trivial, trivial⟩ fun result => orThrow_uses id result

end Messages

section Queue

variable (localeCompare : String → String → Ordering)

theorem withQueueFlight_uses {kind : Op → Prop} {accountId : Identifier} {work : QueueWork} {operation : Service α}
    (uses : operation.Uses kind) (enters : kind (.enter accountId work)) (leaves : kind (.leave accountId)) :
    (withQueueFlight accountId work operation).Uses kind := by
  refine .call _ _ enters fun entered => ?_
  cases entered with
  | false => exact .throw _
  | true => exact uses.finally_ (.call _ _ leaves .done)

theorem withQueueFlight_quiet {accountId : Identifier} {work : QueueWork} {operation : Service α}
    (quiet : operation.Uses Quiet) : (withQueueFlight accountId work operation).Uses Quiet :=
  withQueueFlight_uses quiet trivial trivial

theorem performPendingOperation_quiet (account : Account) (operation : PendingOperation) :
    (performPendingOperation account operation).Uses (fun op => Quiet op ∧ Draftless op) := by
  unfold performPendingOperation
  split
  · exact .throw _
  · split
    · exact .call _ _ ⟨trivial, trivial⟩ fun result => orThrow_uses .mail result
    · refine Program.Uses.bind (.call _ _ ⟨trivial, trivial⟩ fun result => orThrow_uses .mail result) fun _ => .done ()
    · exact .throw _

theorem replayOperations_quiet (account : Account) (snapshot : PersistedState) (operations : List PendingOperation) :
    (replayOperations account snapshot operations).Uses (fun op => Quiet op ∧ Draftless op) := by
  induction operations with
  | nil => exact .done ()
  | cons operation operations ih =>
    unfold replayOperations
    split
    · exact .done ()
    split
    · exact .done ()
    refine Program.Uses.bind (Program.Uses.catching ?_ fun error => ?_) fun performed => ?_
    · exact (performPendingOperation_quiet account operation).bind fun _ => (update_uses ⟨trivial, trivial⟩).bind fun _ => .done true
    · exact (update_uses ⟨trivial, trivial⟩).bind fun _ => .done false
    · cases performed with
      | false => exact .done ()
      | true => exact ih

theorem deliverOutboxItem_uses (account : Account) (item : OutboxItem) :
    (deliverOutboxItem localeCompare account item).Uses Delivers := by
  refine (storeRead_uses trivial).bind fun state => Program.Uses.bind (Program.Uses.catching ?_ fun error => ?_)
    fun sent => (update_uses trivial).bind fun _ => .done sent
  · exact transmit_uses _ _ _ _ trivial
  · exact (update_uses trivial).bind fun _ => .throw _

theorem replayOutbox_uses (account : Account) (items : List OutboxItem) :
    (replayOutbox localeCompare account items).Uses Delivers := by
  induction items with
  | nil => exact .done ()
  | cons item items ih =>
    unfold replayOutbox
    split
    · exact .done ()
    refine Program.Uses.bind (Program.Uses.catching ?_ fun error => .done false) fun delivered => ?_
    · exact (deliverOutboxItem_uses localeCompare account item).bind fun _ => .done true
    · cases delivered with
      | false => exact .done ()
      | true => exact ih

theorem replayPending_quiet (account : Account) : (replayPending localeCompare account).Uses Quiet := by
  refine (storeRead_uses trivial).bind fun snapshot => ((replayOperations_quiet account snapshot _).mono fun _ => And.left).bind fun _ =>
    (storeRead_uses trivial).bind fun afterOperations => ?_
  split
  · exact .done ()
  · exact (replayOutbox_uses localeCompare account _).mono fun _ => delivers_quiet

theorem retryPendingOperation_quiet (accountId operationId : Identifier) :
    (retryPendingOperation accountId operationId).Uses (fun op => Quiet op ∧ Draftless op) := by
  refine withQueueFlight_uses ((storeRead_uses ⟨trivial, trivial⟩).bind fun state => (require_uses _).bind fun account =>
    (runtimeAccount_uses account ⟨trivial, trivial⟩).bind fun _ => ?_) ⟨trivial, trivial⟩ ⟨trivial, trivial⟩
  split
  · exact .throw _
  · rename_i operation _
    refine (require_uses _).bind fun _ => ?_
    split
    · exact .throw _
    · refine Program.Uses.catching ?_ fun error => (update_uses ⟨trivial, trivial⟩).bind fun _ => .throw _
      exact (performPendingOperation_quiet account operation).bind fun _ => update_uses ⟨trivial, trivial⟩

theorem retryOutbox_quiet (accountId outboxId : Identifier) :
    (retryOutbox localeCompare accountId outboxId).Uses Quiet := by
  refine withQueueFlight_quiet ((storeRead_uses trivial).bind fun state => (require_uses _).bind fun account =>
    (runtimeAccount_uses account trivial).bind fun _ => ?_)
  split
  · exact .throw _
  · exact (require_uses _).bind fun _ => (deliverOutboxItem_uses localeCompare account _).mono fun _ => delivers_quiet

theorem sendMessage_quiet (parsedDraft : ComposeDraft) : (sendMessage localeCompare parsedDraft).Uses Quiet := by
  refine (storeRead_uses trivial).bind fun state => Program.Uses.bind
    (.call _ _ trivial fun result => orThrow_uses id result) fun draft => (require_uses _).bind fun account => ?_
  split
  · exact .throw _
  refine Program.Uses.bind ?_ fun result => (update_uses trivial).bind fun _ => .done result
  unfold attemptSend
  cases account.kind with
  | demo => exact .done _
  | imap =>
    refine Program.Uses.catching ?_ fun error => .done _
    exact (runtimeAccount_uses account trivial).bind fun _ => transmit_uses _ _ _ _ trivial

/-- Only `syncAccount` and `getMessage` store what they have been answered. -/
theorem program_quiet (request : Request) (notSync : ∀ accountId, request ≠ .syncAccount accountId)
    (notGet : ∀ accountId folderPath uid, request ≠ .getMessage accountId folderPath uid) :
    (request.program localeCompare).Uses Quiet := by
  have direct : ∀ {α : Type} {p : Service α}, p.Uses (fun op => Direct op ∧ Draftless op) → p.Uses Quiet :=
    fun uses => uses.mono fun _ both => both.1.2
  cases request with
  | syncAccount accountId => exact absurd rfl (notSync accountId)
  | getMessage accountId folderPath uid => exact absurd rfl (notGet accountId folderPath uid)
  | setMessageFlags accountId folderPath uid patch => exact direct (setMessageFlags_uses accountId folderPath uid patch)
  | moveMessage accountId folderPath uid destination =>
    exact direct (moveMessage_uses accountId folderPath uid destination)
  | markFolderRead accountId folderPath => exact direct (ignore_uses (markFolderRead_uses accountId folderPath))
  | setMessageTags accountId folderPath uid tagIds =>
    exact direct (ignore_uses (setMessageTags_uses localeCompare accountId folderPath uid tagIds))
  | sendMessage draft => exact ignore_uses (sendMessage_quiet localeCompare draft)
  | saveDraft draft => exact ignore_uses ((saveDraft_uses draft).mono fun _ => And.right)
  | deleteDraft accountId draftId => exact ignore_uses (update_uses trivial)
  | retryPendingOperation accountId operationId => exact (retryPendingOperation_quiet accountId operationId).mono fun _ => And.left
  | discardPendingOperation accountId operationId => exact withQueueFlight_quiet (update_uses trivial)
  | cancelOutbox accountId outboxId => exact ignore_uses (withQueueFlight_quiet (update_uses trivial))
  | retryOutbox accountId outboxId => exact ignore_uses (retryOutbox_quiet localeCompare accountId outboxId)

end Queue

end AppService
