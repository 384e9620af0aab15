import MaterialEmail.AppService.Calls
import MaterialEmail.AppService.Folders
import MaterialEmail.AppService.QueuedMoves

/-! All stored data belong to accounts that are there, whatever runs while an account is removed: a mutator
stores data of one account and finds that account first. -/
namespace AppService.Folders

open Interrupted Interleaved Fallible

variable {localeCompare : String → String → Ordering}

/-- The account is there. -/
def HasAccount (state : PersistedState) (accountId : Identifier) : Prop :=
  ∃ account ∈ state.accounts, account.id = accountId

instance (state : PersistedState) (accountId : Identifier) : Decidable (HasAccount state accountId) :=
  inferInstanceAs (Decidable (∃ account ∈ state.accounts, _))

/-- What is stored belongs to known accounts. Cached rows and details stand where their fields say, and where
there are rows there is an entry. -/
structure Holdings (known : Identifier → Prop) (state : PersistedState) (entries : Entries) : Prop where
  folders : ∀ accountId, entries.folders accountId = true → known accountId
  summaries : ∀ accountId, state.folders accountId ≠ [] → entries.folders accountId = true
  messages : ∀ key, entries.messages key = true → known key.1
  rows : ∀ key, ∀ row ∈ state.messages key,
    entries.messages key = true ∧ row.accountId = key.1 ∧ row.folderPath = key.2
  details : ∀ id detail, state.details id = some detail →
    known id.1 ∧ detail.accountId = id.1 ∧ detail.folderPath = id.2.1
  drafts : ∀ draft ∈ state.drafts, known draft.accountId
  outbox : ∀ item ∈ state.outbox, known item.draft.accountId
  pendingOperations : ∀ operation ∈ state.pendingOperations, known operation.accountId
  identities : ∀ identity ∈ state.identities, known identity.accountId
  tags : ∀ assignment ∈ state.messageTags.assignments, known assignment.1.accountId

/-- Every entry belongs to an account that is there. -/
def Owned (s : Store) : Prop := Holdings (HasAccount s.1.persisted) s.1.persisted s.2

/-- The account whose data a mutator stores. -/
def accountOf : Commit → Option Identifier
  | .synced accountId _ _ | .opened accountId _ _ _ _ | .flagged accountId _ _ _ _ _
  | .moved accountId _ _ _ _ _ _ | .demoFolderRead accountId _ | .folderRead accountId _ | .tagged accountId _ _ _
  | .draftDeleted accountId _ | .synchronized accountId _ | .operationDiscarded accountId _ | .cancelled accountId _
  | .delivered accountId _ _ => some accountId
  | .sent draft _ _ | .draftSaved draft => some draft.accountId
  | .operationFailed _ | .deliveryFailed _ => none

/-- What a mutator stores stands where it belongs. -/
def Placed : Commit → Prop
  | .synced accountId _ batches => ∀ batch ∈ batches, ∀ row ∈ batch.2,
    row.accountId = accountId ∧ row.folderPath = batch.1
  | .opened accountId folderPath _ _ detail => detail.accountId = accountId ∧ detail.folderPath = folderPath
  | _ => True

section Parts

variable {known : Identifier → Prop} {state state' : PersistedState} {entries : Entries} {key : FolderKey}
  {rows : List MessageSummary}

theorem Holdings.setMessages (holdings : Holdings known state entries) (isKnown : known key.1)
    (placed : ∀ row ∈ rows, row.accountId = key.1 ∧ row.folderPath = key.2) :
    Holdings known (state.setMessages key rows)
      { entries with messages := Function.update entries.messages key true } where
  folders := holdings.folders
  summaries := holdings.summaries
  messages other present := by
    by_cases same : other = key
    · rw [same]
      exact isKnown
    · simp only [Function.update_of_ne same] at present
      exact holdings.messages other present
  rows other row member := by
    by_cases same : other = key
    · subst same
      simp only [PersistedState.setMessages, Function.update_self] at member
      exact ⟨Function.update_self .., placed row member⟩
    · simp only [PersistedState.setMessages, Function.update_of_ne same] at member ⊢
      exact holdings.rows other row member
  details := holdings.details
  drafts := holdings.drafts
  outbox := holdings.outbox
  pendingOperations := holdings.pendingOperations
  identities := holdings.identities
  tags := holdings.tags

/-- Rows that come from rows of the folder stand in it. -/
theorem Holdings.editMessages (holdings : Holdings known state entries)
    (from_ : ∀ row ∈ rows, ∃ old ∈ state.messages key, row.accountId = old.accountId ∧ row.folderPath = old.folderPath) :
    Holdings known (state.setMessages key rows) entries where
  folders := holdings.folders
  summaries := holdings.summaries
  messages := holdings.messages
  rows other row member := by
    by_cases same : other = key
    · subst same
      simp only [PersistedState.setMessages, Function.update_self] at member
      obtain ⟨old, isOld, sameAccount, sameFolder⟩ := from_ row member
      rw [sameAccount, sameFolder]
      exact holdings.rows other old isOld
    · simp only [PersistedState.setMessages, Function.update_of_ne same] at member
      exact holdings.rows other row member
  details := holdings.details
  drafts := holdings.drafts
  outbox := holdings.outbox
  pendingOperations := holdings.pendingOperations
  identities := holdings.identities
  tags := holdings.tags

theorem Holdings.setDetail (holdings : Holdings known state entries) {id : MessageId} {detail : Option MessageDetail}
    (placed : ∀ new ∈ detail, known id.1 ∧ new.accountId = id.1 ∧ new.folderPath = id.2.1) :
    Holdings known (state.setDetail id detail) entries where
  folders := holdings.folders
  summaries := holdings.summaries
  messages := holdings.messages
  rows := holdings.rows
  details other new isNew := by
    by_cases same : other = id
    · subst same
      simp only [PersistedState.setDetail, Function.update_self] at isNew
      exact placed new isNew
    · simp only [PersistedState.setDetail, Function.update_of_ne same] at isNew
      exact holdings.details other new isNew
  drafts := holdings.drafts
  outbox := holdings.outbox
  pendingOperations := holdings.pendingOperations
  identities := holdings.identities
  tags := holdings.tags

theorem Holdings.editMessage (holdings : Holdings known state entries) {accountId : Identifier}
    {folderPath : FolderPath} {uid : Nat} {change : MessageSummary → MessageSummary}
    (stays : ∀ row, (change row).accountId = row.accountId ∧ (change row).folderPath = row.folderPath) :
    Holdings known (state.editMessage accountId folderPath uid change) entries := by
  refine holdings.editMessages fun row member => ?_
  rcases Keyed.mem_edit member with old | ⟨old, isOld, rfl⟩
  · exact ⟨row, old, rfl, rfl⟩
  · exact ⟨old, isOld, stays old⟩

/-- The row that is acted on stands in its folder. -/
theorem Holdings.cached (holdings : Holdings known state entries) {accountId : Identifier} {folderPath : FolderPath}
    {uid : Nat} {message : MessageSummary} (cached : cachedMessage state accountId folderPath uid = some message) :
    entries.messages (accountId, folderPath) = true ∧ message.accountId = accountId ∧
      message.folderPath = folderPath ∧ message.uid = uid := by
  obtain ⟨member, isUid⟩ := Keyed.get_eq_some cached
  obtain ⟨present, isAccount, isFolder⟩ := holdings.rows _ message member
  exact ⟨present, isAccount, isFolder, isUid⟩

theorem targetMessage_cached {accountId : Identifier} {folderPath : FolderPath} {uid : Nat} {uidValidity : Option Nat}
    {message : MessageSummary} (target : targetMessage state accountId folderPath uid uidValidity = .ok (some message)) :
    cachedMessage state accountId folderPath uid = some message := by
  cases uidValidity with
  | none => simpa [targetMessage] using target
  | some uidValidity =>
    unfold targetMessage at target
    simp only at target
    cases current : requireCurrentMessage state accountId folderPath uid (some uidValidity) with
    | error error => simp [current, Except.map] at target
    | ok found =>
      simp only [current, Except.map, Except.ok.injEq, Option.some.injEq] at target
      rw [← target]
      exact (requireCurrentMessage_ok current).1

theorem requireAccount_known {accountId : Identifier} {account : Account}
    (found : requireAccount state accountId = .ok account) : HasAccount state accountId :=
  ⟨account, requireAccount_ok found⟩

end Parts

section Commits

variable {known : Identifier → Prop} {state state' : PersistedState} {entries : Entries} {fresh : Identifier}

/-- Listings that are stored one after another. -/
theorem batches_holdings {accountId : Identifier} (isKnown : known accountId)
    (batches : List (FolderPath × List MessageSummary))
    (placed : ∀ batch ∈ batches, ∀ row ∈ batch.2, row.accountId = accountId ∧ row.folderPath = batch.1)
    (holdings : Holdings known state entries) :
    Holdings known (batches.foldl (fun state batch => state.setMessages (accountId, batch.1) batch.2) state)
      { entries with
        messages := fun key => entries.messages key || (decide (key.1 = accountId) && batches.any (·.1 = key.2)) } := by
  induction batches generalizing state entries with
  | nil => simpa using holdings
  | cons batch batches ih =>
    have stored : Holdings known (state.setMessages (accountId, batch.1) batch.2) _ :=
      holdings.setMessages isKnown (placed batch List.mem_cons_self)
    have rest := ih (fun other member => placed other (List.mem_cons_of_mem _ member)) stored
    have same : (fun key => Function.update entries.messages (accountId, batch.1) true key ||
        (decide (key.1 = accountId) && batches.any (·.1 = key.2))) =
        fun key => entries.messages key || (decide (key.1 = accountId) && (batch :: batches).any (·.1 = key.2)) := by
      funext key
      by_cases here : key = (accountId, batch.1)
      · subst here
        simp
      · rw [Function.update_of_ne here, List.any_cons]
        by_cases isAccount : key.1 = accountId
        · have other : batch.1 ≠ key.2 := fun isPath => here (Prod.ext isAccount isPath.symm)
          simp [other]
        · simp [isAccount]
    rw [List.foldl_cons]
    simpa only [same] using rest

theorem synced_holdings {accountId : Identifier} {folders : List FolderSummary}
    {batches : List (FolderPath × List MessageSummary)} (holdings : Holdings known state entries)
    (isKnown : known accountId)
    (placed : ∀ batch ∈ batches, ∀ row ∈ batch.2, row.accountId = accountId ∧ row.folderPath = batch.1) :
    Holdings known (state.synced accountId folders batches) (noted (.synced accountId folders batches) state entries) := by
  obtain ⟨renewed, isRenewed⟩ : ∃ renewed : FolderPath → Bool, renewed = fun path => folders.any fun folder =>
      folder.path = path && (folderUidValidity state accountId path).isSome && folder.uidValidity.isSome &&
        folderUidValidity state accountId path ≠ folder.uidValidity := ⟨_, rfl⟩
  obtain ⟨kept, isKept⟩ : ∃ kept : FolderKey → Bool, kept = fun key =>
      decide ¬ (key.1 = accountId ∧ renewed key.2 = true) := ⟨_, rfl⟩
  have dropped : Holdings known
      { state with
        messages := fun key => if kept key then state.messages key else []
        details := fun id => if kept (id.1, id.2.1) then state.details id else none
        folders := Function.update state.folders accountId folders }
      { entries with
        folders := Function.update entries.folders accountId true
        messages := fun key => entries.messages key && kept key } := by
    constructor
    case folders =>
      intro other present
      by_cases same : other = accountId
      · rw [same]
        exact isKnown
      · simp only [Function.update_of_ne same] at present
        exact holdings.folders other present
    case summaries =>
      intro other nonempty
      by_cases same : other = accountId
      · rw [same]
        exact Function.update_self ..
      · simp only [Function.update_of_ne same] at nonempty ⊢
        exact holdings.summaries other nonempty
    case messages =>
      intro key present
      simp only [Bool.and_eq_true] at present
      exact holdings.messages key present.1
    case rows =>
      intro key row member
      simp only at member
      split at member
      · rename_i isKept
        obtain ⟨present, placed⟩ := holdings.rows key row member
        exact ⟨by simp [present, isKept], placed⟩
      · cases member
    case details =>
      intro id detail isDetail
      simp only at isDetail
      split at isDetail
      · exact holdings.details id detail isDetail
      · cases isDetail
    case drafts => exact holdings.drafts
    case outbox => exact holdings.outbox
    case pendingOperations => exact holdings.pendingOperations
    case identities => exact holdings.identities
    case tags => exact holdings.tags
  have stored := batches_holdings isKnown batches placed dropped
  have same : (fun key => (entries.messages key && kept key) ||
      (decide (key.1 = accountId) && batches.any (·.1 = key.2))) =
      entriesAfter (.synced accountId folders batches) state entries.messages := by
    funext key
    simp only [entriesAfter, isKept, ← congrFun isRenewed key.2]
    by_cases isAccount : key.1 = accountId
    · simp [isAccount]
    · simp [isAccount]
  have synced : state.synced accountId folders batches =
      batches.foldl (fun state batch => state.setMessages (accountId, batch.1) batch.2)
        { state with
          messages := fun key => if kept key then state.messages key else []
          details := fun id => if kept (id.1, id.2.1) then state.details id else none
          folders := Function.update state.folders accountId folders } := by
    rw [isKept, isRenewed]
    rfl
  simp only [same] at stored
  rw [synced]
  exact stored

theorem opened_holdings {accountId : Identifier} {folderPath : FolderPath} {uid : Nat} {detail : MessageDetail}
    (holdings : Holdings known state entries) (isKnown : known accountId)
    (placed : detail.accountId = accountId ∧ detail.folderPath = folderPath) :
    Holdings known (state.opened accountId folderPath uid detail) entries :=
  (holdings.setDetail (by simpa using ⟨isKnown, placed⟩)).editMessage fun row => ⟨rfl, rfl⟩

theorem flagged_holdings {accountId : Identifier} {folderPath : FolderPath} {uid : Nat} {message : MessageSummary}
    {patch : FlagPatch} (holdings : Holdings known state entries) :
    Holdings known (state.flagged accountId folderPath uid message patch) entries := by
  have edited : Holdings known (state.editMessage accountId folderPath uid (PersistedState.FlagPatch.apply patch)) entries :=
    holdings.editMessage fun row => ⟨rfl, rfl⟩
  refine edited.setDetail fun new isNew => ?_
  obtain ⟨old, isOld, rfl⟩ := Option.map_eq_some_iff.1 isNew
  exact holdings.details message.id old isOld

theorem queueOperation_holdings {operation : PendingOperation} (holdings : Holdings known state entries)
    (isKnown : known operation.accountId) : Holdings known (state.queueOperation operation) entries :=
  { holdings with
    pendingOperations := by
      intro other member
      rcases List.mem_append.1 member with old | new
      · exact holdings.pendingOperations other old
      · obtain rfl : other = operation := by simpa using new
        exact isKnown }

theorem tagged_holdings {tags : MessageTagState} (holdings : Holdings known state entries)
    (areKnown : ∀ assignment ∈ tags.assignments, known assignment.1.accountId) :
    Holdings known { state with messageTags := tags } entries :=
  { holdings with tags := areKnown }

theorem retagMoved_known {tags : MessageTagState} {source : TagKey} {target : Option TagKey}
    (old : ∀ assignment ∈ tags.assignments, known assignment.1.accountId)
    (isKnown : ∀ key ∈ target, known key.accountId) :
    ∀ assignment ∈ (tags.retagMoved source target).assignments, known assignment.1.accountId := by
  intro assignment member
  unfold MessageTagState.retagMoved at member
  split at member
  · exact old assignment member
  · dsimp only at member
    have inside := boundAssignments_subset _ member
    split at inside
    · rcases Keyed.mem_put inside with rfl | kept
      · exact isKnown _ rfl
      · exact old assignment (Keyed.mem_without.1 kept).1
    · exact old assignment (Keyed.mem_without.1 inside).1

theorem set_known {tags : MessageTagState} {key : TagKey} {tagIds : List String}
    (old : ∀ assignment ∈ tags.assignments, known assignment.1.accountId) (isKnown : known key.accountId) :
    ∀ assignment ∈ (tags.set localeCompare key tagIds).assignments, known assignment.1.accountId := by
  intro assignment member
  unfold MessageTagState.set at member
  dsimp only at member
  have inside := boundAssignments_subset _ member
  split at inside
  · rcases Keyed.mem_put inside with rfl | kept
    · exact isKnown
    · exact old assignment kept
  · exact old assignment (Keyed.mem_without.1 inside).1

theorem moved_holdings {accountId : Identifier} {folderPath destination : FolderPath} {uid : Nat}
    {message : MessageSummary} {moveResult : Option MoveResult} (holdings : Holdings known state entries)
    (isKnown : known accountId) (cached : cachedMessage state accountId folderPath uid = some message) :
    Holdings known (state.moved accountId folderPath uid destination message moveResult)
      { entries with
        messages :=
          if (PersistedState.movedMessage message destination moveResult).isSome then
            Function.update (Function.update entries.messages (accountId, folderPath) true) (accountId, destination) true
          else Function.update entries.messages (accountId, folderPath) true } := by
  obtain ⟨-, isAccount, -, -⟩ := holdings.cached cached
  have left : Holdings known (state.setMessages (accountId, folderPath)
      (Keyed.without MessageSummary.uid uid (state.messages (accountId, folderPath)))) _ :=
    holdings.setMessages isKnown fun row member => (holdings.rows _ row (Keyed.mem_without.1 member).1).2
  unfold PersistedState.moved
  dsimp only
  cases isMoved : PersistedState.movedMessage message destination moveResult with
  | none =>
    refine tagged_holdings (left.setDetail (by simp)) (retagMoved_known left.tags (by simp))
  | some row =>
    have placed : row.accountId = accountId ∧ row.folderPath = destination := by
      unfold PersistedState.movedMessage at isMoved
      obtain ⟨result, -, isRow⟩ := Option.bind_eq_some_iff.1 isMoved
      obtain ⟨destinationUid, -, rfl⟩ := Option.map_eq_some_iff.1 isRow
      exact ⟨isAccount, rfl⟩
    obtain ⟨between, isBetween⟩ : ∃ between, state.setMessages (accountId, folderPath)
        (Keyed.without MessageSummary.uid uid (state.messages (accountId, folderPath))) = between := ⟨_, rfl⟩
    rw [isBetween] at left ⊢
    have arrived : Holdings known (between.setMessages (accountId, destination)
        (row :: Keyed.without MessageSummary.uid row.uid (between.messages (accountId, destination)))) _ :=
      left.setMessages isKnown fun other member => by
        rcases List.mem_cons.1 member with rfl | kept
        · exact placed
        · exact (left.rows _ other (Keyed.mem_without.1 kept).1).2
    exact tagged_holdings (arrived.setDetail (by simp)) (retagMoved_known arrived.tags (by simpa using isKnown))

theorem folderRead_holdings {accountId : Identifier} {folderPath : FolderPath} (holdings : Holdings known state entries)
    (isKnown : known accountId) :
    Holdings known (state.folderRead accountId folderPath)
      { entries with messages := Function.update entries.messages (accountId, folderPath) true } := by
  have read : Holdings known (state.setMessages (accountId, folderPath)
      ((state.messages (accountId, folderPath)).map fun message => { message with unread := false })) _ :=
    holdings.setMessages isKnown fun row member => by
      obtain ⟨old, isOld, rfl⟩ := List.mem_map.1 member
      exact (holdings.rows _ old isOld).2
  refine { read with summaries := ?_, details := ?_ }
  · intro other nonempty
    by_cases same : other = accountId
    · subst same
      refine holdings.summaries other fun empty => nonempty ?_
      simp [PersistedState.folderRead, empty, Keyed.edit]
    · simp only [PersistedState.folderRead, Function.update_of_ne same] at nonempty
      exact holdings.summaries other nonempty
  · intro id detail isDetail
    simp only [PersistedState.folderRead] at isDetail
    split at isDetail
    · obtain ⟨old, isOld, rfl⟩ := Option.map_eq_some_iff.1 isDetail
      exact holdings.details id old isOld
    · exact holdings.details id detail isDetail

theorem putDraft_holdings {draft : ComposeDraft} (holdings : Holdings known state entries)
    (isKnown : known draft.accountId) : Holdings known (state.putDraft draft) entries :=
  { holdings with
    drafts := by
      intro other member
      rcases Keyed.mem_put member with rfl | old
      · exact isKnown
      · exact holdings.drafts other old }

theorem withoutDraft_holdings (holdings : Holdings known state entries) (id : Option Identifier) :
    Holdings known { state with drafts := Keyed.without ComposeDraft.id id state.drafts } entries :=
  { holdings with drafts := fun draft member => holdings.drafts draft (Keyed.mem_without.1 member).1 }

theorem withoutItem_holdings (holdings : Holdings known state entries) (id : Identifier) :
    Holdings known { state with outbox := Keyed.without OutboxItem.id id state.outbox } entries :=
  { holdings with outbox := fun item member => holdings.outbox item (Keyed.mem_without.1 member).1 }

theorem withoutOperation_holdings (holdings : Holdings known state entries) (id : Identifier) :
    Holdings known (withoutOperation state id) entries :=
  { holdings with
    pendingOperations := fun operation member => holdings.pendingOperations operation (Keyed.mem_without.1 member).1 }

theorem sent_holdings {draft : ComposeDraft} {snapshot : Option ComposeDraft} {result : SendResult}
    (holdings : Holdings known state entries) (isKnown : known draft.accountId) :
    Holdings known (state.sent draft snapshot result fresh) entries := by
  have queued : ∀ {state : PersistedState}, Holdings known state entries →
      Holdings known { state with outbox := state.outbox ++ [⟨fresh, draft, 0⟩] } entries := fun holdings =>
    { holdings with
      outbox := by
        intro item member
        rcases List.mem_append.1 member with old | new
        · exact holdings.outbox item old
        · obtain rfl : item = _ := by simpa using new
          exact isKnown }
  unfold PersistedState.sent
  dsimp only
  split
  · exact putDraft_holdings holdings isKnown
  · have left : Holdings known (if sameDraftSnapshot (findDraft state.drafts draft.id) snapshot = true then
        { state with drafts := Keyed.without ComposeDraft.id draft.id state.drafts } else state) entries := by
      split
      · exact withoutDraft_holdings holdings _
      · exact holdings
    split
    · exact queued left
    · exact left

theorem delivered_holdings {queued : OutboxItem} {result : SendResult} (holdings : Holdings known state entries)
    (isKnown : known queued.draft.accountId) : Holdings known (state.delivered queued result fresh) entries := by
  have left := withoutItem_holdings holdings queued.id
  unfold PersistedState.delivered
  dsimp only
  split
  · exact putDraft_holdings left isKnown
  · exact left

theorem cancelled_holdings {item : OutboxItem} (holdings : Holdings known state entries)
    (isKnown : known item.draft.accountId) : Holdings known (state.cancelled item) entries := by
  have left := withoutItem_holdings holdings item.id
  unfold PersistedState.cancelled
  dsimp only
  split
  · exact putDraft_holdings left isKnown
  · exact { left with
      drafts := by
        intro draft member
        rcases List.mem_append.1 member with old | new
        · exact left.drafts draft old
        · obtain rfl : draft = item.draft := by simpa using new
          exact isKnown }

/-- Whatever a mutator of the operations on mail stores belongs to its account. -/
theorem commit_holdings {c : Commit} {result : c.Result} (holdings : Holdings known state entries) (placed : Placed c)
    (isKnown : ∀ accountId ∈ accountOf c, known accountId) (ran : c.run localeCompare fresh state = .ok (state', result)) :
    Holdings known state' (noted c state entries) := by
  cases c with
  | synced accountId folders batches =>
    obtain ⟨account, -, done⟩ := bind_eq_ok ran
    cases done
    exact synced_holdings holdings (isKnown accountId rfl) placed
  | opened accountId folderPath uid uidValidity detail =>
    obtain ⟨account, -, rest⟩ := bind_eq_ok ran
    obtain ⟨current, -, done⟩ := bind_eq_ok rest
    cases done
    exact opened_holdings holdings (isKnown accountId rfl) placed
  | flagged accountId folderPath uid patch uidValidity networkError =>
    obtain ⟨account, -, rest⟩ := bind_eq_ok ran
    obtain ⟨message, -, done⟩ := bind_eq_ok rest
    cases message with
    | none =>
      cases done
      exact holdings
    | some message =>
      have flagged := @flagged_holdings _ _ _ accountId folderPath uid message patch holdings
      cases networkError with
      | false =>
        cases done
        exact flagged
      | true =>
        cases done
        exact queueOperation_holdings flagged (isKnown accountId rfl)
  | moved accountId folderPath uid destination uidValidity moveResult networkError =>
    obtain ⟨account, -, rest⟩ := bind_eq_ok ran
    obtain ⟨message, target, done⟩ := bind_eq_ok rest
    cases message with
    | none =>
      cases done
      simpa [noted, entriesAfter, target] using holdings
    | some message =>
      have moved := @moved_holdings _ _ _ accountId folderPath destination uid message moveResult holdings
        (isKnown accountId rfl) (targetMessage_cached target)
      have same : noted (.moved accountId folderPath uid destination uidValidity moveResult networkError) state entries =
          { entries with
            messages :=
              if (PersistedState.movedMessage message destination moveResult).isSome then
                Function.update (Function.update entries.messages (accountId, folderPath) true) (accountId, destination) true
              else Function.update entries.messages (accountId, folderPath) true } := by
        simp [noted, entriesAfter, target]
      rw [same]
      cases networkError with
      | false =>
        cases done
        exact moved
      | true =>
        cases done
        exact queueOperation_holdings moved (isKnown accountId rfl)
  | demoFolderRead accountId folderPath =>
    cases ran
    exact holdings.setMessages (isKnown accountId rfl) fun row member => by
      obtain ⟨old, isOld, rfl⟩ := List.mem_map.1 member
      exact (holdings.rows _ old isOld).2
  | folderRead accountId folderPath =>
    obtain ⟨account, -, done⟩ := bind_eq_ok ran
    cases done
    exact folderRead_holdings holdings (isKnown accountId rfl)
  | tagged accountId folderPath uid tagIds =>
    obtain ⟨account, -, rest⟩ := bind_eq_ok ran
    cases cached : cachedMessage state accountId folderPath uid with
    | none => simp [cached] at rest
    | some message =>
      simp only [cached] at rest
      cases rest
      have isAccount := (holdings.cached cached).2.1
      have isKnown : known (tagKey message).accountId := by
        show known message.accountId
        rw [isAccount]
        exact isKnown accountId rfl
      exact tagged_holdings holdings (set_known holdings.tags isKnown)
  | sent draft snapshot sent =>
    have effect := Commit.run_effect ran
    cases effect
    exact sent_holdings holdings (isKnown _ rfl)
  | draftSaved draft =>
    have effect := Commit.run_effect ran
    cases effect
    exact putDraft_holdings holdings (isKnown _ rfl)
  | draftDeleted accountId draftId =>
    have effect := Commit.run_effect ran
    cases effect
    split
    · exact withoutDraft_holdings holdings _
    · exact holdings
  | synchronized accountId operationId =>
    have effect := Commit.run_effect ran
    cases effect
    exact withoutOperation_holdings holdings _
  | operationFailed operationId =>
    have effect := Commit.run_effect ran
    cases effect
    exact { holdings with
      pendingOperations := by
        intro operation member
        rcases Keyed.mem_edit member with old | ⟨old, isOld, rfl⟩
        · exact holdings.pendingOperations operation old
        · exact holdings.pendingOperations old isOld }
  | operationDiscarded accountId operationId =>
    obtain ⟨-, rfl⟩ := Commit.run_effect ran
    exact withoutOperation_holdings holdings _
  | cancelled accountId outboxId =>
    obtain ⟨item, found, rfl⟩ := Commit.run_effect ran
    exact cancelled_holdings holdings (holdings.outbox item (findOutboxItem_id found).1)
  | delivered accountId outboxId sent =>
    obtain ⟨queued, found, rfl⟩ := Commit.run_effect ran
    exact delivered_holdings holdings (holdings.outbox queued (findOutboxItem_id found).1)
  | deliveryFailed outboxId =>
    have effect := Commit.run_effect ran
    cases effect
    exact { holdings with
      outbox := by
        intro item member
        rcases Keyed.mem_edit member with old | ⟨old, isOld, rfl⟩
        · exact holdings.outbox item old
        · exact holdings.outbox old isOld }

/-- All mutators but that of the demonstration account's folders find the account first. -/
theorem commit_known {c : Commit} {result : c.Result} (ran : c.run localeCompare fresh state = .ok (state', result))
    (notDemo : ∀ accountId folderPath, c ≠ .demoFolderRead accountId folderPath) :
    ∀ accountId ∈ accountOf c, HasAccount state accountId := by
  intro accountId isAccount
  cases c with
  | demoFolderRead accountId folderPath => exact absurd rfl (notDemo accountId folderPath)
  | operationFailed operationId => cases isAccount
  | deliveryFailed outboxId => cases isAccount
  | _ =>
    cases isAccount
    obtain ⟨account, found, -⟩ := bind_eq_ok ran
    exact requireAccount_known found

end Commits

section Changes

variable {state state' : PersistedState} {entries entries' : Entries} {accountId : Identifier}

theorem removed_hasAccount (other : Identifier) :
    HasAccount (removed accountId state entries).1 other ↔ HasAccount state other ∧ other ≠ accountId := by
  constructor
  · rintro ⟨account, member, rfl⟩
    obtain ⟨old, isOther⟩ := List.mem_filter.1 member
    exact ⟨⟨account, old, rfl⟩, by simpa using isOther⟩
  · rintro ⟨⟨account, member, rfl⟩, isOther⟩
    exact ⟨account, List.mem_filter.2 ⟨member, by simpa using isOther⟩, rfl⟩

/-- Everything of the account goes with it. -/
theorem removed_owned (holdings : Holdings (HasAccount state) state entries) :
    Holdings (HasAccount (removed accountId state entries).1) (removed accountId state entries).1
      (removed accountId state entries).2 where
  folders other present := by
    by_cases same : other = accountId
    · subst same
      simp [removed] at present
    · simp only [removed, Function.update_of_ne same] at present
      exact (removed_hasAccount other).2 ⟨holdings.folders other present, same⟩
  summaries other nonempty := by
    by_cases same : other = accountId
    · subst same
      simp [removed] at nonempty
    · simp only [removed, Function.update_of_ne same] at nonempty ⊢
      exact holdings.summaries other nonempty
  messages key present := by
    simp only [removed, Bool.if_false_left, Bool.and_eq_true, Bool.not_eq_true', decide_eq_false_iff_not] at present
    exact (removed_hasAccount key.1).2 ⟨holdings.messages key present.2, present.1⟩
  rows key row member := by
    by_cases same : key.1 = accountId
    · simp [removed, same] at member
    · simp only [removed, same, if_false] at member ⊢
      exact holdings.rows key row member
  details id detail isDetail := by
    obtain ⟨old, isOther⟩ := Option.filter_eq_some_iff.1 isDetail
    obtain ⟨isKnown, isAccount, isFolder⟩ := holdings.details id detail old
    rw [isAccount] at isOther
    exact ⟨(removed_hasAccount id.1).2 ⟨isKnown, by simpa using isOther⟩, isAccount, isFolder⟩
  drafts draft member := by
    obtain ⟨old, isOther⟩ := List.mem_filter.1 member
    exact (removed_hasAccount _).2 ⟨holdings.drafts draft old, by simpa using isOther⟩
  outbox item member := by
    obtain ⟨old, isOther⟩ := List.mem_filter.1 member
    exact (removed_hasAccount _).2 ⟨holdings.outbox item old, by simpa using isOther⟩
  pendingOperations operation member := by
    obtain ⟨old, isOther⟩ := List.mem_filter.1 member
    exact (removed_hasAccount _).2 ⟨holdings.pendingOperations operation old, by simpa using isOther⟩
  identities identity member := by
    obtain ⟨old, isOther⟩ := List.mem_filter.1 member
    exact (removed_hasAccount _).2 ⟨holdings.identities identity old, by simpa using isOther⟩
  tags assignment member := by
    obtain ⟨old, isOther⟩ := List.mem_filter.1 member
    exact (removed_hasAccount _).2 ⟨holdings.tags assignment old, by simpa using isOther⟩

theorem withoutFolders_holdings {known : Identifier → Prop} (accountId : Identifier) (holdings : Holdings known state entries)
    (dropped : FolderPath → Bool) :
    Holdings known (withoutFolders accountId dropped state entries).1
      (withoutFolders accountId dropped state entries).2 where
  folders := holdings.folders
  summaries := holdings.summaries
  messages key present := by
    simp only [withoutFolders, Bool.if_false_left, Bool.and_eq_true] at present
    exact holdings.messages key present.2
  rows key row member := by
    by_cases gone : key.1 = accountId ∧ dropped key.2 = true
    · simp [withoutFolders, gone] at member
    · simp only [withoutFolders, gone, if_false] at member ⊢
      exact holdings.rows key row member
  details id detail isDetail := holdings.details id detail (Option.filter_eq_some_iff.1 isDetail).1
  drafts := holdings.drafts
  outbox := holdings.outbox
  pendingOperations := holdings.pendingOperations
  identities := holdings.identities
  tags := holdings.tags

/-- A listing is stored for the folder that has been listed. -/
def Change.Placed : Change → Prop
  | .folderListed accountId folderPath rows => ∀ row ∈ rows, row.accountId = accountId ∧ row.folderPath = folderPath
  | _ => True

theorem change_owned {c : Change} (holdings : Holdings (HasAccount state) state entries) (placed : c.Placed)
    (ran : c.run state entries = .ok (state', entries')) : Holdings (HasAccount state') state' entries' := by
  cases c with
  | accountRemoved accountId =>
    simp only [Change.run] at ran
    split at ran
    · cases ran
      exact holdings
    · cases ran
      exact removed_owned holdings
  | foldersRefreshed accountId folders =>
    obtain ⟨account, found, done⟩ := bind_eq_ok ran
    cases done
    exact { holdings with
      folders := by
        intro other present
        by_cases same : other = accountId
        · rw [same]
          exact requireAccount_known found
        · simp only [Function.update_of_ne same] at present
          exact holdings.folders other present
      summaries := by
        intro other nonempty
        by_cases same : other = accountId
        · simp [same]
        · simp only [Function.update_of_ne same] at nonempty ⊢
          exact holdings.summaries other nonempty }
  | folderListed accountId folderPath messages =>
    obtain ⟨account, found, done⟩ := bind_eq_ok ran
    cases done
    exact holdings.setMessages (requireAccount_known found) placed
  | folderRenamed accountId folderPath destination =>
    obtain ⟨account, -, done⟩ := bind_eq_ok ran
    cases done
    exact { withoutFolders_holdings accountId holdings (isBeneath folderPath) with }
  | folderDeleted accountId folderPath =>
    obtain ⟨account, -, done⟩ := bind_eq_ok ran
    cases done
    exact { withoutFolders_holdings accountId holdings (· = folderPath) with
      tags := fun assignment member => holdings.tags assignment (List.mem_filter.1 member).1 }

/-- What is stored for an account is the same in both states. -/
structure SameFor (other : Identifier) (s s' : Store) : Prop where
  accounts : s'.1.persisted.accounts.filter (·.id = other) = s.1.persisted.accounts.filter (·.id = other)
  folders : s'.1.persisted.folders other = s.1.persisted.folders other
  folderEntries : s'.2.folders other = s.2.folders other
  messages : ∀ path, s'.1.persisted.messages (other, path) = s.1.persisted.messages (other, path)
  messageEntries : ∀ path, s'.2.messages (other, path) = s.2.messages (other, path)
  details : ∀ id detail, detail.accountId = other →
    (s'.1.persisted.details id = some detail ↔ s.1.persisted.details id = some detail)
  drafts : s'.1.persisted.drafts.filter (·.accountId = other) = s.1.persisted.drafts.filter (·.accountId = other)
  outbox : s'.1.persisted.outbox.filter (·.draft.accountId = other) =
    s.1.persisted.outbox.filter (·.draft.accountId = other)
  pendingOperations : s'.1.persisted.pendingOperations.filter (·.accountId = other) =
    s.1.persisted.pendingOperations.filter (·.accountId = other)
  identities : s'.1.persisted.identities.filter (·.accountId = other) =
    s.1.persisted.identities.filter (·.accountId = other)
  tags : s'.1.persisted.messageTags.assignments.filter (·.1.accountId = other) =
    s.1.persisted.messageTags.assignments.filter (·.1.accountId = other)

theorem SameFor.refl (other : Identifier) (s : Store) : SameFor other s s := by
  constructor <;> simp

theorem filter_other {α : Type} (owner : α → Identifier) {other : Identifier} (isOther : other ≠ accountId)
    (records : List α) : (records.filter (owner · ≠ accountId)).filter (owner · = other) =
      records.filter (owner · = other) := by
  rw [List.filter_filter]
  apply List.filter_congr
  intro record _
  by_cases same : owner record = other
  · simp [same, isOther]
  · simp [same]

theorem removed_same {s : Store} {other : Identifier} (isOther : other ≠ accountId) :
    SameFor other s ({ s.1 with persisted := (removed accountId s.1.persisted s.2).1 },
      (removed accountId s.1.persisted s.2).2) where
  accounts := filter_other Account.id isOther _
  folders := Function.update_of_ne isOther _ _
  folderEntries := Function.update_of_ne isOther _ _
  messages path := if_neg isOther
  messageEntries path := if_neg isOther
  details id detail isOwn := by
    simp only [removed, Option.filter_eq_some_iff]
    constructor
    · exact And.left
    · intro isDetail
      refine ⟨isDetail, ?_⟩
      simpa [isOwn] using isOther
  drafts := filter_other ComposeDraft.accountId isOther _
  outbox := filter_other (fun item : OutboxItem => item.draft.accountId) isOther _
  pendingOperations := filter_other PendingOperation.accountId isOther _
  identities := filter_other MailIdentity.accountId isOther _
  tags := filter_other (fun assignment : TagKey × List String => assignment.1.accountId) isOther _

end Changes

end AppService.Folders
