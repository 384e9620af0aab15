import MaterialEmail.AppService.Calls
import MaterialEmail.AppService.Overlap

/-! The cache agrees with the server once overlapping synchronizations, flag changes, moves and folders marked as
read are over, as long as none of them records what the server no longer has. -/
namespace AppService.Overlap

open Interrupted Interleaved Fallible

variable {localeCompare : String → String → Ordering} {validity : FolderKey → Nat}

/-- Synchronizations, flag changes, moves and folders marked as read, of accounts with a server. -/
def Starts : Request → PersistedState → Prop
  | .syncAccount accountId, state | .setMessageFlags accountId _ _ _, state | .moveMessage accountId _ _ _, state
  | .markFolderRead accountId _, state => ¬ IsDemo state accountId
  | _, _ => False

/-- All succeeds: the server does what it is asked to do and answers truthfully, and the store can be written.
A uid is given to one message of a mailbox only. -/
def Succeeds (validity : FolderKey → Nat) (op : Op) (choice : Choice × Aside) (g : Seen) : Prop :=
  match op, choice.1 with
  | .runtimeAccount _, .refused _ => False
  | .listFolders account, .folders (.ok folders) =>
    ∀ folder ∈ folders, ∀ uidValidity ∈ folder.uidValidity, uidValidity = validity (account.id, folder.path)
  | .listMessages account paths, .messages (.ok rows) => ∀ path ∈ paths, ((rows path).map (·.uid)).Nodup ∧
    ∀ row ∈ rows path, row.uidValidity = some (validity (account.id, path))
  | .setFlags _ _ _ _ _ _, .flags _ result => result.isOk
  | .moveMessage _ account _ _ destination _, .move (.ok result) =>
    g.mailboxes (account.id, destination) choice.2.uid = none ∧ ∀ uid ∈ result.destinationUid,
      uid = choice.2.uid ∧ result.destinationUidValidity = some (validity (account.id, destination))
  | .moveMessage _ _ _ _ _ _, .move (.error _) => False
  | .markFolderRead _ _ _, .folderRead (.ok changed) => choice.2.left = [] ∨ changed = markLimit
  | .markFolderRead _ _ _, .folderRead (.error _) => False
  | .commit _, .storeFails => False
  | _, _ => True

/-- What a mutator records is what the server has when it runs, as far as no other change is still to be
recorded. -/
def Current (state : PersistedState) (g : Seen) (task : Nat) : Commit → Prop
  | .synced accountId _ batches => ∀ batch ∈ batches, ∀ row ∈ batch.2,
    Shows g.mailboxes (g.unrecorded.others task) (accountId, batch.1) row.uid row.flag
  | .flagged accountId folderPath uid patch _ _ => (cachedMessage state accountId folderPath uid).isSome →
    ∀ flags ∈ g.mailboxes (accountId, folderPath) uid, ∀ aspect, ∀ value ∈ patch.value aspect,
      value = flags.of aspect ∨ Covered (g.unrecorded.others task) aspect (accountId, folderPath) uid
  | .moved accountId folderPath uid destination _ moveResult _ =>
    ∀ message ∈ cachedMessage state accountId folderPath uid, ∀ result ∈ moveResult,
    ∀ destinationUid ∈ result.destinationUid,
      Shows g.mailboxes (g.unrecorded.others task) (accountId, destination) destinationUid message.flag
  | .folderRead accountId folderPath => ∀ row ∈ state.messages (accountId, folderPath),
    ∀ flags ∈ g.mailboxes (accountId, folderPath) row.uid,
      flags.unread = false ∨ Covered (g.unrecorded.others task) .unread (accountId, folderPath) row.uid
  | _ => True

def succeeding (validity : FolderKey → Nat) : Conditions Op Request (Choice × Aside) Overseen where
  starts request s := Starts request s.1.persisted
  allowed _ op choice s := Succeeds validity op choice s.2

/-- Nothing is recorded that the server no longer has. -/
def currently (validity : FolderKey → Nat) : Conditions Op Request (Choice × Aside) Overseen where
  starts request s := Starts request s.1.persisted
  allowed task op choice s := Succeeds validity op choice s.2 ∧
    match op with
    | .commit c => Current s.1.persisted s.2 task c
    | _ => True

/-- What the operations have made sure of when they come to an update. -/
def Ready (validity : FolderKey → Nat) (state : PersistedState) (g : Seen) (task : Nat) : Commit → Prop
  | .synced accountId folders batches => WellListed validity accountId folders batches ∧ g.Clear task
  | .flagged accountId folderPath uid patch uidValidity networkError => (requireAccount state accountId).isOk ∧
    uidValidity = some (validity (accountId, folderPath)) ∧ networkError = false ∧
      g.Owes task (.flags (accountId, folderPath) uid patch)
  | .moved accountId folderPath uid destination uidValidity moveResult networkError =>
    (requireAccount state accountId).isOk ∧
    uidValidity = some (validity (accountId, folderPath)) ∧ networkError = false ∧
      (∀ result ∈ moveResult, ∀ destinationUid ∈ result.destinationUid,
        result.destinationUidValidity = some (validity (accountId, destination))) ∧
      g.Owes task (.moved (accountId, folderPath) uid)
  | .folderRead accountId folderPath => (requireAccount state accountId).isOk ∧
    ∃ left, g.Owes task (.read (accountId, folderPath) left)
  | .delivered _ _ _ | .deliveryFailed _ => g.Clear task
  | _ => False

def Demand (validity : FolderKey → Nat) (task : Nat) (op : Op) (s : Overseen) : Prop :=
  match op with
  | .commit c => Ready validity s.1.persisted s.2 task c
  | .setFlags origin _ _ _ _ _ | .moveMessage origin _ _ _ _ _ => origin = .call ∧ s.2.Clear task
  | .markFolderRead _ _ _ => s.2.Clear task
  | .setMessageKeywords _ _ _ _ _ | .getMessage _ _ _ _ | .authorizeDraft _ _ _ => False
  | _ => True

/-- The others leave a task's unrecorded changes to it, and the accounts as they are. -/
structure Leaves (task : Nat) (s s' : Overseen) : Prop where
  accounts : s'.1.persisted.accounts = s.1.persisted.accounts
  unrecorded : ∀ action, (task, action) ∈ s'.2.unrecorded ↔ (task, action) ∈ s.2.unrecorded

def agreement (validity : FolderKey → Nat) : Contract Op Request (Choice × Aside) Overseen where
  toConditions := succeeding validity
  inv s := Settled validity s.1.persisted
  rely := Leaves
  guar task s s' := Settled validity s'.1.persisted ∧ ∀ other, other ≠ task → Leaves other s s'
  demand task op s := Demand validity task op s
  ends task s := s.2.Clear task

section Relations

variable {s s' s'' : Overseen} {task : Nat}

theorem Leaves.refl (task : Nat) (s : Overseen) : Leaves task s s := ⟨rfl, fun _ => Iff.rfl⟩

theorem Leaves.trans (first : Leaves task s s') (second : Leaves task s' s'') : Leaves task s s'' :=
  ⟨second.accounts.trans first.accounts, fun action => (second.unrecorded action).trans (first.unrecorded action)⟩

theorem Leaves.clear (leaves : Leaves task s s') (clear : s.2.Clear task) : s'.2.Clear task := by
  rintro ⟨owner, action⟩ member rfl
  exact clear _ ((leaves.unrecorded action).1 member) rfl

theorem Leaves.owes (leaves : Leaves task s s') {action : Action} (owes : s.2.Owes task action) : s'.2.Owes task action := by
  rintro ⟨owner, other⟩ member rfl
  exact owes _ ((leaves.unrecorded other).1 member) rfl

theorem agreement_lawful : (agreement validity).Lawful where
  refl task s := Leaves.refl task s
  trans _ _ _ _ first second := first.trans second
  others task _ _ _ different guaranteed := guaranteed.2 task different
  keeps _ _ _ _ guaranteed := guaranteed.1
  stable _ _ _ relies ends := relies.clear ends

theorem same_guar (settled : Settled validity s.1.persisted) (persisted : s'.1.persisted = s.1.persisted)
    (same : s'.2 = s.2) : (agreement validity).guar task s s' := by
  refine ⟨?_, fun other _ => ⟨by rw [persisted], fun action => by rw [same]⟩⟩
  show Settled validity s'.1.persisted
  rw [persisted]
  exact settled

theorem does_guar (settled : Settled validity s.1.persisted) (persisted : s'.1.persisted = s.1.persisted)
    {action : Action} (did : s'.2.unrecorded = (task, action) :: s.2.unrecorded) :
    (agreement validity).guar task s s' := by
  refine ⟨?_, fun other different => ⟨by rw [persisted], fun otherAction => ?_⟩⟩
  · show Settled validity s'.1.persisted
    rw [persisted]
    exact settled
  · simp [did, different]

theorem recorded_guar (settled : Settled validity s'.1.persisted)
    (accounts : s'.1.persisted.accounts = s.1.persisted.accounts) (recorded : s'.2 = s.2.recorded task) :
    (agreement validity).guar task s s' := by
  refine ⟨settled, fun other different => ⟨accounts, fun action => ?_⟩⟩
  simp [recorded, Seen.recorded, Unrecorded.others, different]

theorem recorded_clear (g : Seen) (task : Nat) : (g.recorded task).Clear task := fun _ member =>
  of_decide_eq_true (List.mem_filter.1 member).2

end Relations

end AppService.Overlap
