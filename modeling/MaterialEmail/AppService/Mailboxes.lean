import MaterialEmail.AppService.Operations

/-! The mailboxes of the server, as an observer sees them, and the changes that the server has made and that
are still to be recorded in the store. -/
namespace AppService

open Interrupted Interleaved

inductive Aspect where
  | unread
  | starred
  deriving DecidableEq, Repr

instance decidableAspects (p : Aspect → Prop) [∀ aspect, Decidable (p aspect)] : Decidable (∀ aspect, p aspect) :=
  decidable_of_iff (p .unread ∧ p .starred) ⟨fun ⟨unread, starred⟩ aspect => by cases aspect <;> assumption,
    fun all => ⟨all .unread, all .starred⟩⟩

structure Flags where
  unread : Bool
  starred : Bool
  deriving DecidableEq

def Flags.of (flags : Flags) : Aspect → Bool
  | .unread => flags.unread
  | .starred => flags.starred

def MessageSummary.flag (message : MessageSummary) : Aspect → Bool
  | .unread => message.unread
  | .starred => message.starred

def FlagPatch.value (patch : FlagPatch) : Aspect → Option Bool
  | .unread => patch.unread
  | .starred => patch.starred

def Flags.patched (flags : Flags) (patch : FlagPatch) : Flags :=
  ⟨patch.unread.getD flags.unread, patch.starred.getD flags.starred⟩

@[simp] theorem Flags.patched_of (flags : Flags) (patch : FlagPatch) (aspect : Aspect) :
    (flags.patched patch).of aspect = (patch.value aspect).getD (flags.of aspect) := by
  cases aspect <;> rfl

@[simp] theorem apply_flag (patch : FlagPatch) (message : MessageSummary) (aspect : Aspect) :
    (PersistedState.FlagPatch.apply patch message).flag aspect = (patch.value aspect).getD (message.flag aspect) := by
  cases aspect <;> rfl

/-- The messages of a mailbox, by their uids. -/
abbrev Mailboxes := FolderKey → Nat → Option Flags

/-- A change that the server has made. `left` are the unread messages beyond those that are marked at a time. -/
inductive Action where
  | flags (key : FolderKey) (uid : Nat) (patch : FlagPatch)
  | moved (key : FolderKey) (uid : Nat)
  | read (key : FolderKey) (left : List Nat)
  deriving DecidableEq

def Action.sets (aspect : Aspect) (key : FolderKey) (uid : Nat) : Action → Bool
  | .flags key' uid' patch => key' = key && uid' = uid && (patch.value aspect).isSome
  | .moved _ _ => false
  | .read key' left => aspect = .unread && key' = key && uid ∉ left

def Action.takes (key : FolderKey) (uid : Nat) : Action → Bool
  | .moved key' uid' => key' = key && uid' = uid
  | _ => false

/-- The changes that are still to be recorded, each with the task that will. -/
abbrev Unrecorded := List (Nat × Action)

def Unrecorded.others (entries : Unrecorded) (task : Nat) : Unrecorded := entries.filter (·.1 ≠ task)

def Covered (entries : Unrecorded) (aspect : Aspect) (key : FolderKey) (uid : Nat) : Prop :=
  ∃ entry ∈ entries, entry.2.sets aspect key uid = true

def TakenAway (entries : Unrecorded) (key : FolderKey) (uid : Nat) : Prop :=
  ∃ entry ∈ entries, entry.2.takes key uid = true

instance (entries : Unrecorded) (aspect : Aspect) (key : FolderKey) (uid : Nat) :
    Decidable (Covered entries aspect key uid) := inferInstanceAs (Decidable (∃ entry ∈ entries, _))

instance (entries : Unrecorded) (key : FolderKey) (uid : Nat) : Decidable (TakenAway entries key uid) :=
  inferInstanceAs (Decidable (∃ entry ∈ entries, _))

/-- A flag that is stored for a message is that of the server, as far as no change is still to be recorded. -/
def Flags.Shown (flags : Flags) (entries : Unrecorded) (key : FolderKey) (uid : Nat) (flag : Aspect → Bool) : Prop :=
  ∀ aspect, flag aspect = flags.of aspect ∨ Covered entries aspect key uid

/-- What is stored for a message is what the server has, as far as no change is still to be recorded. -/
def Shows (mailboxes : Mailboxes) (entries : Unrecorded) (key : FolderKey) (uid : Nat) (flag : Aspect → Bool) : Prop :=
  TakenAway entries key uid ∨ ∃ flags ∈ mailboxes key uid, flags.Shown entries key uid flag

instance (flags : Flags) (entries : Unrecorded) (key : FolderKey) (uid : Nat) (flag : Aspect → Bool) :
    Decidable (flags.Shown entries key uid flag) := inferInstanceAs (Decidable (∀ _, _))

instance (mailboxes : Mailboxes) (entries : Unrecorded) (key : FolderKey) (uid : Nat) (flag : Aspect → Bool) :
    Decidable (Shows mailboxes entries key uid flag) := by
  unfold Shows
  cases mailboxes key uid with
  | none => exact decidable_of_iff (TakenAway entries key uid) (by simp)
  | some flags => exact decidable_of_iff (TakenAway entries key uid ∨ flags.Shown entries key uid flag) (by simp)

/-- What the server does. -/
def Mailboxes.after (mailboxes : Mailboxes) : Action → Mailboxes
  | .flags key uid patch =>
    Function.update mailboxes key (Function.update (mailboxes key) uid ((mailboxes key uid).map (·.patched patch)))
  | .moved key uid => Function.update mailboxes key (Function.update (mailboxes key) uid none)
  | .read key left => Function.update mailboxes key fun uid =>
    if uid ∈ left then mailboxes key uid else (mailboxes key uid).map ({ · with unread := false })

/-- A message arrives in a mailbox. -/
def Mailboxes.arrived (mailboxes : Mailboxes) (key : FolderKey) (uid : Nat) (flags : Option Flags) : Mailboxes :=
  Function.update mailboxes key (Function.update (mailboxes key) uid flags)

section Shows

variable {mailboxes : Mailboxes} {entries entries' : Unrecorded} {key : FolderKey} {uid : Nat} {flag : Aspect → Bool}
  {task : Nat}

theorem Shows.settled (shows : Shows mailboxes [] key uid flag) :
    ∃ flags ∈ mailboxes key uid, ∀ aspect, flag aspect = flags.of aspect := by
  rcases shows with ⟨entry, member, -⟩ | ⟨flags, isFlags, shown⟩
  · cases member
  · refine ⟨flags, isFlags, fun aspect => ?_⟩
    rcases shown aspect with same | ⟨entry, member, -⟩
    · exact same
    · cases member

/-- A change of the server leaves nothing wrong that it is not known to have changed. -/
theorem Shows.after (shows : Shows mailboxes entries key uid flag) (action : Action) :
    Shows (mailboxes.after action) ((task, action) :: entries) key uid flag := by
  rcases shows with ⟨entry, member, takes⟩ | ⟨flags, isFlags, shown⟩
  · exact Or.inl ⟨entry, List.mem_cons_of_mem _ member, takes⟩
  have older : ∀ aspect, flag aspect = flags.of aspect ∨ Covered ((task, action) :: entries) aspect key uid := by
    intro aspect
    rcases shown aspect with same | ⟨entry, member, sets⟩
    · exact Or.inl same
    · exact Or.inr ⟨entry, List.mem_cons_of_mem _ member, sets⟩
  cases action with
  | flags key' uid' patch =>
    by_cases here : key' = key ∧ uid' = uid
    · obtain ⟨rfl, rfl⟩ := here
      refine Or.inr ⟨flags.patched patch, by simp [Mailboxes.after, Option.mem_def.1 isFlags], fun aspect => ?_⟩
      cases isValue : patch.value aspect with
      | none =>
        rw [Flags.patched_of, isValue]
        exact older aspect
      | some value => exact Or.inr ⟨_, List.mem_cons_self, by simp [Action.sets, isValue]⟩
    · refine Or.inr ⟨flags, ?_, older⟩
      by_cases sameKey : key = key'
      · subst sameKey
        have other : uid ≠ uid' := fun same => here ⟨rfl, same.symm⟩
        simpa [Mailboxes.after, other] using isFlags
      · simpa [Mailboxes.after, sameKey] using isFlags
  | moved key' uid' =>
    by_cases here : key' = key ∧ uid' = uid
    · obtain ⟨rfl, rfl⟩ := here
      exact Or.inl ⟨_, List.mem_cons_self, by simp [Action.takes]⟩
    · refine Or.inr ⟨flags, ?_, older⟩
      by_cases sameKey : key = key'
      · subst sameKey
        have other : uid ≠ uid' := fun same => here ⟨rfl, same.symm⟩
        simpa [Mailboxes.after, other] using isFlags
      · simpa [Mailboxes.after, sameKey] using isFlags
  | read key' left =>
    by_cases here : key' = key ∧ uid ∉ left
    · obtain ⟨rfl, marked⟩ := here
      refine Or.inr ⟨{ flags with unread := false },
        by simp [Mailboxes.after, marked, Option.mem_def.1 isFlags], fun aspect => ?_⟩
      cases aspect with
      | unread => exact Or.inr ⟨_, List.mem_cons_self, by simp [Action.sets, marked]⟩
      | starred => exact older .starred
    · refine Or.inr ⟨flags, ?_, older⟩
      by_cases sameKey : key = key'
      · subst sameKey
        have isLeft : uid ∈ left := not_not.1 fun marked => here ⟨rfl, marked⟩
        simpa [Mailboxes.after, isLeft] using isFlags
      · simpa [Mailboxes.after, sameKey] using isFlags

theorem Shows.arrived (shows : Shows mailboxes entries key uid flag) {key' : FolderKey} {uid' : Nat}
    (isNew : mailboxes key' uid' = none) (flags' : Option Flags) :
    Shows (mailboxes.arrived key' uid' flags') entries key uid flag := by
  rcases shows with taken | ⟨flags, isFlags, shown⟩
  · exact Or.inl taken
  · refine Or.inr ⟨flags, ?_, shown⟩
    by_cases sameKey : key = key'
    · subst sameKey
      by_cases sameUid : uid = uid'
      · subst sameUid
        rw [isNew] at isFlags
        cases isFlags
      · simpa [Mailboxes.arrived, sameUid] using isFlags
    · simpa [Mailboxes.arrived, sameKey] using isFlags

/-- A task has recorded its changes. Messages that they do not concern are shown as before. -/
theorem Shows.others (shows : Shows mailboxes entries key uid flag)
    (apart : ∀ entry ∈ entries, entry.1 = task →
      entry.2.takes key uid = false ∧ ∀ aspect, entry.2.sets aspect key uid = false) :
    Shows mailboxes (entries.others task) key uid flag := by
  have kept : ∀ entry ∈ entries, (entry.2.takes key uid = true ∨ ∃ aspect, entry.2.sets aspect key uid = true) →
      entry ∈ entries.others task := by
    intro entry member concerns
    refine List.mem_filter.2 ⟨member, decide_eq_true fun own => ?_⟩
    obtain ⟨notTakes, notSets⟩ := apart entry member own
    rcases concerns with takes | ⟨aspect, sets⟩
    · rw [notTakes] at takes
      cases takes
    · rw [notSets aspect] at sets
      cases sets
  rcases shows with ⟨entry, member, takes⟩ | ⟨flags, isFlags, shown⟩
  · exact Or.inl ⟨entry, kept entry member (Or.inl takes), takes⟩
  · refine Or.inr ⟨flags, isFlags, fun aspect => ?_⟩
    rcases shown aspect with same | ⟨entry, member, sets⟩
    · exact Or.inl same
    · exact Or.inr ⟨entry, kept entry member (Or.inr ⟨aspect, sets⟩), sets⟩

end Shows

end AppService
