import MaterialEmail.AppService.Flights
import MaterialEmail.AppService.Listings
import MaterialEmail.AppService.Mailboxes

/-! Synchronizations, flag changes, moves and folders marked as read that overlap, beside the mailboxes of the
server: what each answer does to the messages that are cached. -/
namespace AppService.Overlap

open Interrupted Interleaved Fallible

variable {localeCompare : String → String → Ordering}

/-- What the server does beside what it answers: the uid under which a moved message stands, and the unread
messages that are left when a folder is marked as read. -/
structure Aside where
  uid : Nat
  left : List Nat

/-- The most messages of a folder that are marked as read at a time. -/
def markLimit : Nat := 50000

structure Seen where
  mailboxes : Mailboxes
  unrecorded : Unrecorded

abbrev Overseen := State × Seen

/-- A task has nothing to record, or a change of its own. -/
def Seen.Clear (g : Seen) (task : Nat) : Prop := ∀ entry ∈ g.unrecorded, entry.1 ≠ task

def Seen.Owes (g : Seen) (task : Nat) (action : Action) : Prop :=
  ∀ entry ∈ g.unrecorded, entry.1 = task → entry.2 = action

def Seen.recorded (g : Seen) (task : Nat) : Seen := { g with unrecorded := g.unrecorded.others task }

def Seen.does (g : Seen) (task : Nat) (action : Action) : Seen :=
  ⟨g.mailboxes.after action, (task, action) :: g.unrecorded⟩

/-- The server acts when it answers. A task has recorded what it had to when its update is over. -/
def oversee : Observer Op Reply (Choice × Aside) State Seen := fun task op choice reply _ g =>
  match op, reply with
  | .setFlags _ account folderPath uid patch _, .ok _ => g.does task (.flags (account.id, folderPath) uid patch)
  | .moveMessage _ account folderPath uid destination _, .ok _ =>
    let left := g.does task (.moved (account.id, folderPath) uid)
    { left with
      mailboxes := left.mailboxes.arrived (account.id, destination) choice.2.uid (g.mailboxes (account.id, folderPath) uid) }
  | .markFolderRead account folderPath _, .ok _ => g.does task (.read (account.id, folderPath) choice.2.left)
  | .commit _, _ => g.recorded task
  | _, _ => g

def overseen (localeCompare : String → String → Ordering) : Environment Op Reply (Choice × Aside) Overseen :=
  ((environment localeCompare).aside Aside).observed oversee

/-- Nothing is queued, and what is cached is of the mailboxes' UIDVALIDITY. -/
structure Settled (validity : FolderKey → Nat) (state : PersistedState) : Prop where
  pending : state.pendingOperations = []
  distinct : ∀ key, ((state.messages key).map (·.uid)).Nodup
  rows : ∀ key, ∀ row ∈ state.messages key, row.uidValidity = some (validity key)
  folders : ∀ accountId, ∀ folder ∈ state.folders accountId, ∀ uidValidity ∈ folder.uidValidity,
    uidValidity = validity (accountId, folder.path)

/-- All that is cached is as the server has it, as far as no change is still to be recorded. -/
def Faithful (state : PersistedState) (g : Seen) : Prop :=
  ∀ key, ∀ row ∈ state.messages key, Shows g.mailboxes g.unrecorded key row.uid row.flag

section Mutators

variable {validity : FolderKey → Nat} {state state' : PersistedState} {accountId : Identifier}
  {folderPath destination : FolderPath} {uid : Nat} {message : MessageSummary} {patch : FlagPatch}

theorem Settled.current (settled : Settled validity state)
    (cached : cachedMessage state accountId folderPath uid = some message) :
    requireCurrentMessage state accountId folderPath uid (some (validity (accountId, folderPath))) =
      .ok (message, validity (accountId, folderPath)) := by
  have own := settled.rows (accountId, folderPath) message (Keyed.get_eq_some cached).1
  have agree : ¬ (message.uidValidity.isSome = true ∧ (folderUidValidity state accountId folderPath).isSome = true ∧
      message.uidValidity ≠ folderUidValidity state accountId folderPath) := by
    rintro ⟨-, isKnown, differ⟩
    obtain ⟨uidValidity, isFolder⟩ := Option.isSome_iff_exists.1 isKnown
    obtain ⟨folder, found, isValidity⟩ := Option.bind_eq_some_iff.1 isFolder
    have same := settled.folders accountId folder (List.mem_of_find?_eq_some found) uidValidity isValidity
    have isPath : folder.path = folderPath := by simpa using List.find?_some found
    rw [isPath] at same
    exact differ (by rw [own, isFolder, same])
  unfold requireCurrentMessage
  simp only [cached]
  rw [if_neg agree, own]
  simp

theorem Settled.target (settled : Settled validity state) (error : ServiceError)
    (fails : targetMessage state accountId folderPath uid (some (validity (accountId, folderPath))) = .error error) :
    cachedMessage state accountId folderPath uid = none := by
  cases cached : cachedMessage state accountId folderPath uid with
  | none => rfl
  | some message => simp [targetMessage, settled.current cached, Except.map] at fails

theorem targetMessage_some {uidValidity : Nat} {found : Option MessageSummary}
    (target : targetMessage state accountId folderPath uid (some uidValidity) = .ok found) :
    ∃ message, found = some message ∧ cachedMessage state accountId folderPath uid = some message := by
  unfold targetMessage at target
  simp only at target
  cases current : requireCurrentMessage state accountId folderPath uid (some uidValidity) with
  | error error => simp [current, Except.map] at target
  | ok pair =>
    simp only [current, Except.map, Except.ok.injEq] at target
    exact ⟨pair.1, target.symm, (requireCurrentMessage_ok current).1⟩

theorem uncached (absent : cachedMessage state accountId folderPath uid = none) :
    ∀ row ∈ state.messages (accountId, folderPath), row.uid ≠ uid := by
  intro row member same
  have missing := List.find?_eq_none.1 absent row member
  simp [same] at missing

theorem Settled.setMessages (settled : Settled validity state) {key : FolderKey} {rows : List MessageSummary}
    (distinct : (rows.map (·.uid)).Nodup) (current : ∀ row ∈ rows, row.uidValidity = some (validity key)) :
    Settled validity (state.setMessages key rows) where
  pending := settled.pending
  folders := settled.folders
  distinct other := by
    by_cases same : other = key
    · subst same
      simpa [PersistedState.setMessages] using distinct
    · simpa [PersistedState.setMessages, same] using settled.distinct other
  rows other row member := by
    by_cases same : other = key
    · subst same
      simp only [PersistedState.setMessages, Function.update_self] at member
      exact current row member
    · simp only [PersistedState.setMessages, Function.update_of_ne same] at member
      exact settled.rows other row member

theorem Settled.editMessages (settled : Settled validity state) {key : FolderKey} {rows : List MessageSummary}
    (same : rows.map (fun row => (row.uid, row.uidValidity)) =
      (state.messages key).map fun row => (row.uid, row.uidValidity)) :
    Settled validity (state.setMessages key rows) := by
  refine settled.setMessages ?_ ?_
  · have uids := congrArg (List.map Prod.fst) same
    simp only [List.map_map] at uids
    have old := settled.distinct key
    exact uids ▸ old
  · intro row member
    have token : (row.uid, row.uidValidity) ∈ rows.map fun row => (row.uid, row.uidValidity) :=
      List.mem_map.2 ⟨row, member, rfl⟩
    rw [same] at token
    obtain ⟨old, isOld, isToken⟩ := List.mem_map.1 token
    obtain ⟨-, sameValidity⟩ := Prod.ext_iff.1 isToken
    rw [← settled.rows key old isOld]
    exact sameValidity.symm

theorem Settled.setDetail (settled : Settled validity state) (id : MessageId) (detail : Option MessageDetail) :
    Settled validity (state.setDetail id detail) := ⟨settled.pending, settled.distinct, settled.rows, settled.folders⟩

theorem Settled.flagged (settled : Settled validity state) :
    Settled validity (state.flagged accountId folderPath uid message patch) := by
  have edited : Settled validity
      (state.editMessage accountId folderPath uid (PersistedState.FlagPatch.apply patch)) :=
    settled.editMessages (Keyed.map_edit fun _ => rfl)
  exact edited.setDetail _ _

theorem Settled.moved (settled : Settled validity state) {moveResult : Option MoveResult}
    (arrives : ∀ result ∈ moveResult, ∀ destinationUid ∈ result.destinationUid,
      result.destinationUidValidity = some (validity (accountId, destination))) :
    Settled validity (state.moved accountId folderPath uid destination message moveResult) := by
  have left : Settled validity (state.setMessages (accountId, folderPath)
      (Keyed.without MessageSummary.uid uid (state.messages (accountId, folderPath)))) :=
    settled.setMessages (Keyed.nodup_without (settled.distinct _)) fun row member =>
      settled.rows _ row (Keyed.mem_without.1 member).1
  unfold PersistedState.moved
  dsimp only
  cases isMoved : PersistedState.movedMessage message destination moveResult with
  | none => exact ⟨left.pending, left.distinct, left.rows, left.folders⟩
  | some row =>
    obtain ⟨result, isResult, isRow⟩ := Option.bind_eq_some_iff.1 isMoved
    obtain ⟨destinationUid, isUid, rfl⟩ := Option.map_eq_some_iff.1 isRow
    have isCurrent := arrives result isResult destinationUid isUid
    obtain ⟨between, isBetween⟩ : ∃ between, state.setMessages (accountId, folderPath)
        (Keyed.without MessageSummary.uid uid (state.messages (accountId, folderPath))) = between := ⟨_, rfl⟩
    rw [isBetween] at left ⊢
    have arrived : Settled validity (between.setMessages (accountId, destination)
        ({ message with
            folderPath := destination
            uid := destinationUid
            uidValidity := result.destinationUidValidity } ::
          Keyed.without MessageSummary.uid destinationUid (between.messages (accountId, destination)))) := by
      refine left.setMessages ?_ fun other member => ?_
      · rw [List.map_cons, List.nodup_cons]
        refine ⟨fun again => ?_, Keyed.nodup_without (left.distinct _)⟩
        obtain ⟨other, member, same⟩ := List.mem_map.1 again
        exact (Keyed.mem_without.1 member).2 same
      · rcases List.mem_cons.1 member with rfl | old
        · exact isCurrent
        · exact left.rows _ other (Keyed.mem_without.1 old).1
    exact ⟨arrived.pending, arrived.distinct, arrived.rows, arrived.folders⟩

theorem Settled.folderRead (settled : Settled validity state) : Settled validity (state.folderRead accountId folderPath) := by
  have read : Settled validity (state.setMessages (accountId, folderPath)
      ((state.messages (accountId, folderPath)).map fun message => { message with unread := false })) :=
    settled.editMessages (by rw [List.map_map]; rfl)
  refine ⟨read.pending, read.distinct, read.rows, fun other folder member uidValidity isValidity => ?_⟩
  by_cases same : other = accountId
  · subst same
    simp only [PersistedState.folderRead, Function.update_self] at member
    rcases Keyed.mem_edit member with old | ⟨old, isOld, rfl⟩
    · exact settled.folders other folder old uidValidity isValidity
    · exact settled.folders other old isOld uidValidity isValidity
  · simp only [PersistedState.folderRead, Function.update_of_ne same] at member
    exact settled.folders other folder member uidValidity isValidity

/-- The listings that a synchronization stores. -/
structure WellListed (validity : FolderKey → Nat) (accountId : Identifier) (folders : List FolderSummary)
    (batches : List (FolderPath × List MessageSummary)) : Prop where
  folders : ∀ folder ∈ folders, ∀ uidValidity ∈ folder.uidValidity, uidValidity = validity (accountId, folder.path)
  distinct : ∀ batch ∈ batches, (batch.2.map (·.uid)).Nodup
  rows : ∀ batch ∈ batches, ∀ row ∈ batch.2, row.uidValidity = some (validity (accountId, batch.1))

theorem lastListing_mem {batches : List (FolderPath × List MessageSummary)} {path : FolderPath}
    {rows : List MessageSummary} (isLast : lastListing batches path = some rows) : (path, rows) ∈ batches := by
  obtain ⟨batch, found, rfl⟩ := Option.map_eq_some_iff.1 isLast
  have isPath : batch.1 = path := by simpa using List.find?_some found
  rw [← isPath]
  exact List.mem_reverse.1 (List.mem_of_find?_eq_some found)

theorem synced_rows {folders : List FolderSummary} {batches : List (FolderPath × List MessageSummary)} (key : FolderKey) :
    (state.synced accountId folders batches).messages key = [] ∨
      (state.synced accountId folders batches).messages key = state.messages key ∨
      key.1 = accountId ∧ (key.2, (state.synced accountId folders batches).messages key) ∈ batches := by
  rw [synced_eq, batches_messages]
  have left : (withoutRenewed state accountId folders).messages key = [] ∨
      (withoutRenewed state accountId folders).messages key = state.messages key := by
    simp only [withoutRenewed]
    split
    · exact Or.inl rfl
    · exact Or.inr rfl
  split
  · rename_i isAccount
    cases isLast : lastListing batches key.2 with
    | none =>
      rcases left with empty | same
      · exact Or.inl empty
      · exact Or.inr (Or.inl same)
    | some rows => exact Or.inr (Or.inr ⟨isAccount, lastListing_mem isLast⟩)
  · rcases left with empty | same
    · exact Or.inl empty
    · exact Or.inr (Or.inl same)

theorem batches_same (batches : List (FolderPath × List MessageSummary)) (state : PersistedState) :
    (batches.foldl (fun state batch => state.setMessages (accountId, batch.1) batch.2) state).folders = state.folders ∧
      (batches.foldl (fun state batch => state.setMessages (accountId, batch.1) batch.2) state).pendingOperations =
        state.pendingOperations := by
  induction batches generalizing state with
  | nil => exact ⟨rfl, rfl⟩
  | cons batch batches ih => exact ih _

theorem Settled.synced (settled : Settled validity state) {folders : List FolderSummary}
    {batches : List (FolderPath × List MessageSummary)} (listed : WellListed validity accountId folders batches) :
    Settled validity (state.synced accountId folders batches) where
  pending := by
    rw [synced_eq, (batches_same batches _).2]
    exact settled.pending
  distinct key := by
    rcases synced_rows key with empty | same | ⟨-, isBatch⟩
    · rw [empty]
      exact List.nodup_nil
    · rw [same]
      exact settled.distinct key
    · exact listed.distinct _ isBatch
  rows key row member := by
    rcases @synced_rows state accountId folders batches key with empty | same | ⟨isAccount, isBatch⟩
    · rw [empty] at member
      cases member
    · rw [same] at member
      exact settled.rows key row member
    · have isKey : key = (accountId, key.2) := Prod.ext isAccount rfl
      rw [isKey]
      exact listed.rows _ isBatch row member
  folders other folder member uidValidity isValidity := by
    rw [synced_eq, (batches_same batches _).1] at member
    by_cases same : other = accountId
    · subst same
      simp only [withoutRenewed, Function.update_self] at member
      exact listed.folders folder member uidValidity isValidity
    · simp only [withoutRenewed, Function.update_of_ne same] at member
      exact settled.folders other folder member uidValidity isValidity

end Mutators

section Recorded

variable {validity : FolderKey → Nat} {state : PersistedState} {g : Seen} {task : Nat} {accountId : Identifier}
  {folderPath destination : FolderPath} {uid : Nat} {message : MessageSummary} {patch : FlagPatch}

theorem owes_apart {action : Action} {key : FolderKey} {other : Nat} (owes : g.Owes task action)
    (apart : action.takes key other = false ∧ ∀ aspect, action.sets aspect key other = false) :
    ∀ entry ∈ g.unrecorded, entry.1 = task →
      entry.2.takes key other = false ∧ ∀ aspect, entry.2.sets aspect key other = false := by
  intro entry member own
  rw [owes entry member own]
  exact apart

theorem flags_apart {key key' : FolderKey} {uid' : Nat} (other : key' = key → uid' ≠ uid) :
    (Action.flags key' uid' patch).takes key uid = false ∧
      ∀ aspect, (Action.flags key' uid' patch).sets aspect key uid = false := by
  refine ⟨rfl, fun aspect => ?_⟩
  by_cases same : key' = key
  · simp [Action.sets, other same]
  · simp [Action.sets, same]

theorem moved_apart {key key' : FolderKey} {uid' : Nat} (other : key' = key → uid' ≠ uid) :
    (Action.moved key' uid').takes key uid = false ∧ ∀ aspect, (Action.moved key' uid').sets aspect key uid = false := by
  refine ⟨?_, fun aspect => rfl⟩
  by_cases same : key' = key
  · simp [Action.takes, other same]
  · simp [Action.takes, same]

/-- Nothing that the task has to record is cached. -/
theorem absent_faithful {action : Action} (faithful : Faithful state g) (owes : g.Owes task action)
    (apart : ∀ key, ∀ row ∈ state.messages key,
      action.takes key row.uid = false ∧ ∀ aspect, action.sets aspect key row.uid = false) :
    Faithful state (g.recorded task) :=
  fun key row member => (faithful key row member).others (owes_apart owes (apart key row member))

theorem clear_faithful (faithful : Faithful state g) (clear : g.Clear task) : Faithful state (g.recorded task) :=
  fun key row member => (faithful key row member).others fun entry isEntry own => absurd own (clear entry isEntry)

/-- The flags that are recorded are those that the server has now, or another change of them is to come. -/
theorem flagged_faithful (settled : Settled validity state) (faithful : Faithful state g)
    (owes : g.Owes task (.flags (accountId, folderPath) uid patch))
    (current : ∀ flags ∈ g.mailboxes (accountId, folderPath) uid, ∀ aspect, ∀ value ∈ patch.value aspect,
      value = flags.of aspect ∨ Covered (g.unrecorded.others task) aspect (accountId, folderPath) uid) :
    Faithful (state.flagged accountId folderPath uid message patch) (g.recorded task) := by
  intro key row member
  have edited : row ∈ (state.editMessage accountId folderPath uid (PersistedState.FlagPatch.apply patch)).messages key :=
    member
  by_cases same : (accountId, folderPath) = key
  · subst same
    simp only [PersistedState.editMessage, PersistedState.setMessages, Function.update_self] at edited
    rcases Keyed.mem_edit_distinct (settled.distinct _) edited with ⟨old, other⟩ | ⟨old, isOld, rfl, rfl⟩
    · exact (faithful _ row old).others (owes_apart owes (flags_apart fun _ same => other same.symm))
    · show Shows g.mailboxes (g.unrecorded.others task) _ old.uid _
      rcases faithful _ old isOld with ⟨entry, isEntry, takes⟩ | ⟨flags, isFlags, shown⟩
      · refine Or.inl ⟨entry, List.mem_filter.2 ⟨isEntry, decide_eq_true fun own => ?_⟩, takes⟩
        rw [owes entry isEntry own] at takes
        cases takes
      · refine Or.inr ⟨flags, isFlags, fun aspect => ?_⟩
        rw [apply_flag]
        cases isValue : patch.value aspect with
        | some value => exact current flags isFlags aspect value isValue
        | none =>
          rcases shown aspect with same | ⟨entry, isEntry, sets⟩
          · exact Or.inl same
          · refine Or.inr ⟨entry, List.mem_filter.2 ⟨isEntry, decide_eq_true fun own => ?_⟩, sets⟩
            rw [owes entry isEntry own] at sets
            simp [Action.sets, isValue] at sets
  · simp only [PersistedState.editMessage, PersistedState.setMessages, Function.update_of_ne (Ne.symm same)] at edited
    exact (faithful key row edited).others (owes_apart owes (flags_apart fun isKey => absurd isKey same))

/-- All that is cached of a folder that is marked as read has been read on the server, or another change of it
is to come. -/
theorem folderRead_faithful {left : List Nat} (faithful : Faithful state g)
    (owes : g.Owes task (.read (accountId, folderPath) left))
    (current : ∀ row ∈ state.messages (accountId, folderPath), ∀ flags ∈ g.mailboxes (accountId, folderPath) row.uid,
      flags.unread = false ∨ Covered (g.unrecorded.others task) .unread (accountId, folderPath) row.uid) :
    Faithful (state.folderRead accountId folderPath) (g.recorded task) := by
  intro key row member
  by_cases same : (accountId, folderPath) = key
  · subst same
    simp only [PersistedState.folderRead, Function.update_self] at member
    obtain ⟨old, isOld, rfl⟩ := List.mem_map.1 member
    show Shows g.mailboxes (g.unrecorded.others task) _ old.uid _
    rcases faithful _ old isOld with ⟨entry, isEntry, takes⟩ | ⟨flags, isFlags, shown⟩
    · refine Or.inl ⟨entry, List.mem_filter.2 ⟨isEntry, decide_eq_true fun own => ?_⟩, takes⟩
      rw [owes entry isEntry own] at takes
      cases takes
    · refine Or.inr ⟨flags, isFlags, fun aspect => ?_⟩
      cases aspect with
      | unread =>
        rcases current old isOld flags isFlags with read | covered
        · exact Or.inl read.symm
        · exact Or.inr covered
      | starred =>
        rcases shown .starred with same | ⟨entry, isEntry, sets⟩
        · exact Or.inl same
        · refine Or.inr ⟨entry, List.mem_filter.2 ⟨isEntry, decide_eq_true fun own => ?_⟩, sets⟩
          rw [owes entry isEntry own] at sets
          simp [Action.sets] at sets
  · simp only [PersistedState.folderRead, Function.update_of_ne (Ne.symm same)] at member
    refine (faithful key row member).others (owes_apart owes ⟨rfl, fun aspect => ?_⟩)
    simp [Action.sets, same]

theorem moved_faithful {moveResult : Option MoveResult} (faithful : Faithful state g)
    (owes : g.Owes task (.moved (accountId, folderPath) uid))
    (current : ∀ result ∈ moveResult, ∀ destinationUid ∈ result.destinationUid,
      Shows g.mailboxes (g.unrecorded.others task) (accountId, destination) destinationUid message.flag) :
    Faithful (state.moved accountId folderPath uid destination message moveResult) (g.recorded task) := by
  have left : ∀ key, ∀ row ∈ (state.setMessages (accountId, folderPath)
      (Keyed.without MessageSummary.uid uid (state.messages (accountId, folderPath)))).messages key,
      Shows g.mailboxes (g.unrecorded.others task) key row.uid row.flag := by
    intro key row member
    by_cases same : (accountId, folderPath) = key
    · subst same
      simp only [PersistedState.setMessages, Function.update_self] at member
      obtain ⟨old, other⟩ := Keyed.mem_without.1 member
      exact (faithful _ row old).others (owes_apart owes (moved_apart fun _ same => other same.symm))
    · simp only [PersistedState.setMessages, Function.update_of_ne (Ne.symm same)] at member
      exact (faithful key row member).others (owes_apart owes (moved_apart fun isKey => absurd isKey same))
  intro key row member
  unfold PersistedState.moved at member
  cases isMoved : PersistedState.movedMessage message destination moveResult with
  | none =>
    rw [isMoved] at member
    exact left key row member
  | some arrived =>
    rw [isMoved] at member
    obtain ⟨result, isResult, isRow⟩ := Option.bind_eq_some_iff.1 isMoved
    obtain ⟨destinationUid, isUid, rfl⟩ := Option.map_eq_some_iff.1 isRow
    obtain ⟨between, isBetween⟩ : ∃ between, state.setMessages (accountId, folderPath)
        (Keyed.without MessageSummary.uid uid (state.messages (accountId, folderPath))) = between := ⟨_, rfl⟩
    dsimp only at member
    rw [isBetween] at member left
    by_cases same : key = (accountId, destination)
    · subst same
      simp only [PersistedState.setMessages, PersistedState.setDetail, Function.update_self] at member
      rcases List.mem_cons.1 member with rfl | old
      · exact current result isResult destinationUid isUid
      · exact left _ row (Keyed.mem_without.1 old).1
    · simp only [PersistedState.setMessages, PersistedState.setDetail, Function.update_of_ne same] at member
      exact left key row member

theorem synced_faithful {folders : List FolderSummary} {batches : List (FolderPath × List MessageSummary)}
    (faithful : Faithful state g) (clear : g.Clear task)
    (current : ∀ batch ∈ batches, ∀ row ∈ batch.2,
      Shows g.mailboxes (g.unrecorded.others task) (accountId, batch.1) row.uid row.flag) :
    Faithful (state.synced accountId folders batches) (g.recorded task) := by
  intro key row member
  rcases @synced_rows state accountId folders batches key with empty | same | ⟨isAccount, isBatch⟩
  · rw [empty] at member
    cases member
  · rw [same] at member
    exact clear_faithful faithful clear key row member
  · have isKey : key = (accountId, key.2) := Prod.ext isAccount rfl
    rw [isKey]
    exact current _ isBatch row member

end Recorded

section Served

variable {state : PersistedState} {g : Seen}

theorem does_faithful (faithful : Faithful state g) (task : Nat) (action : Action) :
    Faithful state (g.does task action) := fun key row member => (faithful key row member).after action

/-- The server has moved a message to where none was. -/
theorem arrived_faithful (faithful : Faithful state g) {key : FolderKey} {uid : Nat} (isNew : g.mailboxes key uid = none)
    (flags : Option Flags) : Faithful state { g with mailboxes := g.mailboxes.arrived key uid flags } :=
  fun key row member => (faithful key row member).arrived isNew flags

end Served

end AppService.Overlap
