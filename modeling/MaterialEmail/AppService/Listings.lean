import MaterialEmail.AppService.Commits
import Mathlib.Data.List.Induction

/-! What a synchronization stores, folder by folder. -/
namespace AppService

/-- `syncAccount`: another UIDVALIDITY has been recorded for the folder before. -/
def renewed (state : PersistedState) (accountId : Identifier) (folders : List FolderSummary) (path : FolderPath) : Bool :=
  folders.any fun folder =>
    folder.path = path && (folderUidValidity state accountId path).isSome && folder.uidValidity.isSome &&
      folderUidValidity state accountId path ≠ folder.uidValidity

/-- What is stored for a folder: the last of its listings. -/
def lastListing (batches : List (FolderPath × List MessageSummary)) (path : FolderPath) :
    Option (List MessageSummary) :=
  (batches.reverse.find? fun batch => batch.1 = path).map (·.2)

section Synced

variable {state : PersistedState} {accountId : Identifier} {folders : List FolderSummary}
  {batches : List (FolderPath × List MessageSummary)}

theorem batches_details (batches : List (FolderPath × List MessageSummary)) (state : PersistedState) :
    (batches.foldl (fun state batch => state.setMessages (accountId, batch.1) batch.2) state).details =
      state.details := by
  induction batches generalizing state with
  | nil => rfl
  | cons batch batches ih => exact ih _

theorem batches_messages (batches : List (FolderPath × List MessageSummary)) (state : PersistedState) (key : FolderKey) :
    (batches.foldl (fun state batch => state.setMessages (accountId, batch.1) batch.2) state).messages key =
      if key.1 = accountId then (lastListing batches key.2).getD (state.messages key) else state.messages key := by
  induction batches using List.reverseRecOn with
  | nil => simp [lastListing]
  | append_singleton batches batch ih =>
    rw [List.foldl_concat]
    by_cases same : key = (accountId, batch.1)
    · subst same
      simp [PersistedState.setMessages, lastListing]
    · have untouched : ∀ state : PersistedState,
          (state.setMessages (accountId, batch.1) batch.2).messages key = state.messages key :=
        fun state => Function.update_of_ne same _ _
      rw [untouched, ih]
      by_cases isAccount : key.1 = accountId
      · have other : batch.1 ≠ key.2 := fun isPath => same (Prod.ext isAccount isPath.symm)
        simp [lastListing, other]
      · simp [isAccount]

/-- The cached mail of the folders that have another UIDVALIDITY is dropped. -/
def withoutRenewed (state : PersistedState) (accountId : Identifier) (folders : List FolderSummary) : PersistedState :=
  { state with
    messages := fun key =>
      if key.1 = accountId ∧ renewed state accountId folders key.2 = true then [] else state.messages key
    details := fun id =>
      if id.1 = accountId ∧ renewed state accountId folders id.2.1 = true then none else state.details id
    folders := Function.update state.folders accountId folders }

theorem kept_if {α : Type} {dropped : Prop} [Decidable dropped] (a b : α) :
    (if (decide ¬ dropped) = true then a else b) = if dropped then b else a := by
  by_cases isDropped : dropped <;> simp [isDropped]

theorem synced_eq : state.synced accountId folders batches =
    batches.foldl (fun state batch => state.setMessages (accountId, batch.1) batch.2)
      (withoutRenewed state accountId folders) := by
  unfold PersistedState.synced withoutRenewed
  dsimp only
  congr 2
  · funext key
    exact kept_if _ _
  · funext id
    exact kept_if _ _

end Synced

end AppService
