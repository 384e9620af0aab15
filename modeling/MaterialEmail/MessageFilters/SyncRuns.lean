import MaterialEmail.MessageFilters.Evaluation

/-! The filters that run after a synchronization. A synchronization stores what the server lists and keeps what is new
in it; later it notes in a ledger of the process what it takes on, and makes a plan for each folder. Many of them are
under way at once, and whatever else the program does may change the stored state in between. -/
namespace MessageFilters

open JsString
open MailService (MessageSummary)

def ledgerLimit : Nat := 50000

def folderKey (accountId folderPath : JsString) : JsString := accountId ++ 0 :: folderPath

def syncFilterLedgerKey (message : MessageSummary) : JsString := message.id ++ 0 :: message.uidValidity.getD []

/-- What the server lists: the folders, and the messages of those that are looked into. -/
structure Listing where
  folders : List Folder
  batches : List (JsString × List MessageSummary)

section Storing

/-- The server has given a folder another UIDVALIDITY. -/
def isReset (previousFolders : List Folder) (folder : Folder) : Bool :=
  match (previousFolders.find? fun candidate => candidate.path = folder.path).bind (·.uidValidity), folder.uidValidity
    with
  | some previous, some current => previous ≠ [] && current ≠ [] && previous ≠ current
  | _, _ => false

def cachedRows (store : StoredState) (accountId folderPath : JsString) : List MessageSummary :=
  ((Keyed.get Prod.fst (folderKey accountId folderPath) store.messages).map (·.2)).getD []

def cachedKeys (store : StoredState) (accountId folderPath : JsString) : List JsString :=
  (cachedRows store accountId folderPath).map syncFilterLedgerKey

/-- What is stored of a folder goes when its UIDVALIDITY has changed. -/
def reconcile (accountId : JsString) (previousFolders : List Folder) (store : StoredState) (folder : Folder) :
    StoredState :=
  if isReset previousFolders folder then
    { store with
      messages := Keyed.without Prod.fst (folderKey accountId folder.path) store.messages
      details := store.details.filter fun detail => !(detail.accountId = accountId && detail.folderPath = folder.path) }
  else store

abbrev Arrivals := List (JsString × List MessageSummary)

/-- The messages of a folder are stored, and those that were not are noted. -/
def storeBatch (accountId : JsString) (s : StoredState × Arrivals) (batch : JsString × List MessageSummary) :
    StoredState × Arrivals :=
  let (folderPath, messages) := batch
  let known := cachedKeys s.1 accountId folderPath
  ({ s.1 with messages := Keyed.put Prod.fst (folderKey accountId folderPath, messages) s.1.messages },
    Keyed.put Prod.fst (folderPath, messages.filter fun message => syncFilterLedgerKey message ∉ known) s.2)

/-- The update of the stored state by a synchronization; nothing, if its account is gone. -/
def commitSync (store : StoredState) (accountId : JsString) (listing : Listing) : Option (StoredState × Arrivals) :=
  if store.email accountId = none then none
  else
    let reconciled := listing.folders.foldl (reconcile accountId (store.folders accountId)) store
    some (listing.batches.foldl (storeBatch accountId)
      ({ reconciled with folders := Function.update store.folders accountId listing.folders }, []))

end Storing

section Selecting

structure Selection where
  ledger : List JsString
  budget : Nat
  limitReached : Bool

/-- The loop over the new messages of a folder, and the messages that it takes on. -/
def selectMessages : List MessageSummary → Selection → List MessageSummary → Selection × List MessageSummary
  | [], s, selected => (s, selected)
  | message :: rest, s, selected =>
    if syncFilterLedgerKey message ∈ s.ledger then selectMessages rest s selected
    else if s.budget = 0 then ({ s with limitReached := true }, selected)
    else selectMessages rest { s with ledger := s.ledger ++ [syncFilterLedgerKey message], budget := s.budget - 1 }
      (selected ++ [message])

/-- The loop over the folders. -/
def selectFresh : Arrivals → Selection → Arrivals → Selection × Arrivals
  | [], s, fresh => (s, fresh)
  | (folderPath, messages) :: rest, s, fresh =>
    let (s, selected) := selectMessages messages s []
    selectFresh rest s (if selected = [] then fresh else fresh ++ [(folderPath, selected)])

/-- How many of the oldest keys go. -/
def excess (ledger : List JsString) : Nat := ledger.length - ledgerLimit

end Selecting

/-- The messages that a plan examines. -/
def examined (state : StoredState) (context : FilterRunContext) (messages : List MessageSummary) :
    List MessageSummary :=
  ((buildFilterSubjects state context (some (messages.map (·.id)))).take runLimit).map (·.message)

section System

inductive Phase where
  /-- The server has been asked. -/
  | listed
  | committed (arrived : Arrivals)
  | loaded (arrived : Arrivals) (state : StoredState)
  | planning (state : StoredState) (fresh : Arrivals)
  | finished

structure Sync where
  accountId : JsString
  listing : Listing
  phase : Phase
  /-- The keys that were stored for a folder before the update. -/
  before : JsString → List JsString

structure Planned where
  sync : Nat
  folderPath : JsString
  examined : List MessageSummary
  plan : MessageFilterRunPlan

def Planned.keys (planned : Planned) : List JsString := planned.examined.map syncFilterLedgerKey

/-- The process, with what has happened: the keys that came into the ledger and that went, and the plans. -/
structure System where
  store : StoredState
  ledger : List JsString
  syncs : List Sync
  recorded : List JsString
  evicted : List JsString
  plans : List Planned

inductive Event where
  | sync (accountId : JsString) (listing : Listing)
  | commit (sync : Nat)
  /-- `store.read()`, after the update. -/
  | load (sync : Nat)
  | select (sync : Nat)
  /-- The plan for the next folder. -/
  | plan (sync : Nat) (now : Int)
  | fail (sync : Nat)
  /-- Any other work on the stored state. -/
  | change (store : StoredState)

variable (host : Host)

def System.setPhase (s : System) (index : Nat) (sync : Sync) (phase : Phase) : System :=
  { s with syncs := s.syncs.set index { sync with phase } }

def commit (s : System) (index : Nat) (sync : Sync) : System :=
  match commitSync s.store sync.accountId sync.listing with
  | none => s.setPhase index sync .finished
  | some (store, arrived) =>
    { s with
      store
      syncs := s.syncs.set index { sync with
        phase := .committed arrived
        before := cachedKeys s.store sync.accountId } }

def select (s : System) (index : Nat) (sync : Sync) (arrived : Arrivals) (state : StoredState) : System :=
  if (listFilters host state.messageFilters).any fun filter => filter.enabled && filter.runOnSync then
    let (selection, fresh) := selectFresh arrived ⟨s.ledger, runLimit, false⟩ []
    { s with
      ledger := selection.ledger.drop (excess selection.ledger)
      evicted := s.evicted ++ selection.ledger.take (excess selection.ledger)
      recorded := s.recorded ++ selection.ledger.drop s.ledger.length
      syncs := s.syncs.set index { sync with phase := .planning state fresh } }
  else s.setPhase index sync .finished

def plan (s : System) (index : Nat) (sync : Sync) (state : StoredState) (fresh : Arrivals) (now : Int) : System :=
  match fresh with
  | [] => s.setPhase index sync .finished
  | (folderPath, messages) :: rest =>
    match filterContext state sync.accountId folderPath with
    | none => s.setPhase index sync .finished
    | some context =>
      { s with
        plans := s.plans ++ [{
          sync := index
          folderPath
          examined := examined state context messages
          plan := planFilterRun host state context true (some (messages.map (·.id))) now }]
        syncs := s.syncs.set index { sync with phase := .planning state rest } }

def System.step (s : System) : Event → System
  | .sync accountId listing => { s with syncs := s.syncs ++ [⟨accountId, listing, .listed, fun _ => []⟩] }
  | .commit index =>
    match s.syncs[index]? with
    | none => s
    | some sync =>
      match sync.phase with
      | .listed => commit s index sync
      | _ => s
  | .load index =>
    match s.syncs[index]? with
    | none => s
    | some sync =>
      match sync.phase with
      | .committed arrived => s.setPhase index sync (.loaded arrived s.store)
      | _ => s
  | .select index =>
    match s.syncs[index]? with
    | none => s
    | some sync =>
      match sync.phase with
      | .loaded arrived state => select host s index sync arrived state
      | _ => s
  | .plan index now =>
    match s.syncs[index]? with
    | none => s
    | some sync =>
      match sync.phase with
      | .planning state fresh => plan host s index sync state fresh now
      | _ => s
  | .fail index =>
    match s.syncs[index]? with
    | none => s
    | some sync => s.setPhase index sync .finished
  | .change store => { s with store }

def System.run (s : System) (events : List Event) : System := events.foldl (System.step host) s

/-- The process when it starts, with what is stored. -/
def System.start (store : StoredState) : System := ⟨store, [], [], [], [], []⟩

end System

section Conditions

/-- What an update lists of the folders that it resets is not what is stored of them. -/
def Spares (store : StoredState) (accountId : JsString) (listing : Listing) : Prop :=
  (listing.batches.map Prod.fst).Nodup ∧
    ∀ folder ∈ listing.folders, isReset (store.folders accountId) folder = true →
      ∀ batch ∈ listing.batches, batch.1 = folder.path →
        ∀ message ∈ batch.2, syncFilterLedgerKey message ∉ cachedKeys store accountId folder.path

/-- The messages stored of a folder are told apart by their ids, and those with the ids of the given ones are these. -/
def Tells (state : StoredState) (accountId : JsString) (batch : JsString × List MessageSummary) : Prop :=
  ((cachedMessages state accountId batch.1).map (·.id)).Nodup ∧
    ∀ message ∈ batch.2, ∀ row ∈ cachedMessages state accountId batch.1,
      row.id = message.id → syncFilterLedgerKey row = syncFilterLedgerKey message

/-- What is asked of a step, of an update and before messages are taken on. -/
def Meets (s : System) : Event → Prop
  | .commit index => ∀ sync, s.syncs[index]? = some sync → sync.phase = .listed →
      Spares s.store sync.accountId sync.listing
  | .select index => ∀ sync arrived state, s.syncs[index]? = some sync → sync.phase = .loaded arrived state →
      ∀ batch ∈ arrived, Tells state sync.accountId batch
  | _ => True

/-- Every step of a run meets what is asked of it. -/
def RunMeets (host : Host) : System → List Event → Prop
  | _, [] => True
  | s, event :: events => Meets s event ∧ RunMeets host (System.step host s event) events

/-- The number of messages that the plans of a synchronization examine. -/
def examinedBy (plans : List Planned) (index : Nat) : Nat :=
  ((plans.filter fun planned => planned.sync = index).map fun planned => planned.examined.length).sum

/-- The filters act once: a message comes to one plan more than it went from the ledger at most, no synchronization
examines too many, and none examines what was stored before it. -/
structure ActsOnce (s : System) : Prop where
  once : ∀ key, s.plans.countP (fun planned => key ∈ planned.keys) ≤ 1 + s.evicted.count key
  bounded : ∀ index, examinedBy s.plans index ≤ runLimit
  unseen : ∀ planned ∈ s.plans, ∀ sync, s.syncs[planned.sync]? = some sync →
    ∀ key ∈ planned.keys, key ∉ sync.before planned.folderPath

end Conditions

section Selections

def keysOf (arrivals : Arrivals) : List JsString := arrivals.flatMap fun batch => batch.2.map syncFilterLedgerKey

/-- What was taken on: it is added to the ledger, in which it was not, and taken from the budget. -/
structure Takes (s s' : Selection) (keys : List JsString) : Prop where
  ledger : s'.ledger = s.ledger ++ keys
  budget : s'.budget + keys.length = s.budget
  distinct : s.ledger.Nodup → s'.ledger.Nodup

theorem Takes.trans {s s' s'' : Selection} {keys keys' : List JsString} (first : Takes s s' keys)
    (second : Takes s' s'' keys') : Takes s s'' (keys ++ keys') := by
  constructor
  · rw [second.ledger, first.ledger, List.append_assoc]
  · have one := first.budget
    have two := second.budget
    rw [List.length_append]
    omega
  · exact fun distinct => second.distinct (first.distinct distinct)

theorem selectMessages_spec (messages : List MessageSummary) (s : Selection) (selected : List MessageSummary) :
    ∃ added : List MessageSummary, (selectMessages messages s selected).2 = selected ++ added ∧
      (∀ message ∈ added, message ∈ messages) ∧
      Takes s (selectMessages messages s selected).1 (added.map syncFilterLedgerKey) := by
  induction messages generalizing s selected with
  | nil => exact ⟨[], by simp [selectMessages], by simp, ⟨by simp [selectMessages], by simp [selectMessages], id⟩⟩
  | cons message rest ih =>
    rw [selectMessages]
    split
    · obtain ⟨added, isAdded, within, takes⟩ := ih s selected
      exact ⟨added, isAdded, fun other member => List.mem_cons_of_mem _ (within other member), takes⟩
    · rename_i absent
      split
      · exact ⟨[], by simp, by simp, ⟨by simp, by simp, id⟩⟩
      · rename_i left
        have one : Takes s { s with ledger := s.ledger ++ [syncFilterLedgerKey message], budget := s.budget - 1 }
            [syncFilterLedgerKey message] := by
          refine ⟨rfl, by simp only [List.length_singleton]; omega, fun distinct => ?_⟩
          exact distinct.append (List.nodup_singleton _) (by simpa using absent)
        obtain ⟨added, isAdded, within, takes⟩ := ih _ (selected ++ [message])
        refine ⟨message :: added, by rw [isAdded]; simp, ?_, one.trans takes⟩
        exact List.forall_mem_cons.2 ⟨List.mem_cons_self,
          fun other member => List.mem_cons_of_mem _ (within other member)⟩

theorem selectFresh_spec (arrived : Arrivals) (s : Selection) (fresh : Arrivals) :
    ∃ added : Arrivals, (selectFresh arrived s fresh).2 = fresh ++ added ∧
      (∀ batch ∈ added, ∃ messages, (batch.1, messages) ∈ arrived ∧ ∀ message ∈ batch.2, message ∈ messages) ∧
      Takes s (selectFresh arrived s fresh).1 (keysOf added) := by
  induction arrived generalizing s fresh with
  | nil =>
    exact ⟨[], by simp [selectFresh], by simp, ⟨by simp [selectFresh, keysOf], by simp [selectFresh, keysOf], id⟩⟩
  | cons batch rest ih =>
    obtain ⟨folderPath, messages⟩ := batch
    obtain ⟨selected, isSelected, within, takes⟩ := selectMessages_spec messages s []
    rw [List.nil_append] at isSelected
    rw [selectFresh]
    simp only [isSelected]
    obtain ⟨added, isAdded, known, takesRest⟩ := ih (selectMessages messages s []).1
      (if selected = [] then fresh else fresh ++ [(folderPath, selected)])
    have later : ∀ batch ∈ added, ∃ messages', (batch.1, messages') ∈ (folderPath, messages) :: rest ∧
        ∀ message ∈ batch.2, message ∈ messages' := by
      intro batch member
      obtain ⟨messages', listed, fromThem⟩ := known batch member
      exact ⟨messages', List.mem_cons_of_mem _ listed, fromThem⟩
    by_cases none : selected = []
    · subst none
      refine ⟨added, by rw [isAdded, if_pos rfl], later, takes.trans takesRest⟩
    · refine ⟨(folderPath, selected) :: added, by rw [isAdded, if_neg none]; simp, ?_, takes.trans takesRest⟩
      exact List.forall_mem_cons.2 ⟨⟨messages, List.mem_cons_self, within⟩, later⟩

end Selections

section Arriving

variable {accountId : JsString}

theorem folderKey_injective {folderPath folderPath' : JsString}
    (same : folderKey accountId folderPath = folderKey accountId folderPath') : folderPath = folderPath' := by
  have after := List.append_cancel_left same
  exact (List.cons.inj after).2

theorem cachedKeys_reconcile (previousFolders : List Folder) (store : StoredState) (folder : Folder)
    (folderPath : JsString) :
    cachedKeys (reconcile accountId previousFolders store folder) accountId folderPath =
        cachedKeys store accountId folderPath ∨
      (folder.path = folderPath ∧ isReset previousFolders folder = true) := by
  rw [reconcile]
  split
  · rename_i reset
    by_cases here : folder.path = folderPath
    · exact Or.inr ⟨here, reset⟩
    · have elsewhere : folderKey accountId folderPath ≠ folderKey accountId folder.path :=
        fun same => here (folderKey_injective same).symm
      refine Or.inl ?_
      simp only [cachedKeys, cachedRows, Keyed.get_without, if_neg elsewhere]
  · exact Or.inl rfl

theorem cachedKeys_reconciled (previousFolders folders : List Folder) (store : StoredState) (folderPath : JsString) :
    cachedKeys (folders.foldl (reconcile accountId previousFolders) store) accountId folderPath =
        cachedKeys store accountId folderPath ∨
      ∃ folder ∈ folders, folder.path = folderPath ∧ isReset previousFolders folder = true := by
  induction folders generalizing store with
  | nil => exact Or.inl rfl
  | cons folder rest ih =>
    rw [List.foldl_cons]
    rcases ih (reconcile accountId previousFolders store folder) with kept | ⟨other, member, isReset⟩
    · rcases cachedKeys_reconcile previousFolders store folder folderPath with kept' | isReset
      · exact Or.inl (kept.trans kept')
      · exact Or.inr ⟨folder, List.mem_cons_self, isReset⟩
    · exact Or.inr ⟨other, List.mem_cons_of_mem _ member, isReset⟩

theorem mem_storeBatches {batches : List (JsString × List MessageSummary)} (distinct : (batches.map Prod.fst).Nodup)
    (s : StoredState × Arrivals) {batch : JsString × List MessageSummary}
    (member : batch ∈ (batches.foldl (storeBatch accountId) s).2) :
    batch ∈ s.2 ∨ ∃ messages, (batch.1, messages) ∈ batches ∧
      batch.2 = messages.filter fun message => syncFilterLedgerKey message ∉ cachedKeys s.1 accountId batch.1 := by
  induction batches generalizing s with
  | nil => exact Or.inl member
  | cons first rest ih =>
    obtain ⟨folderPath, messages⟩ := first
    obtain ⟨once, distinct⟩ := List.nodup_cons.1 distinct
    rw [List.foldl_cons] at member
    rcases ih distinct (storeBatch accountId s (folderPath, messages)) member with earlier | ⟨others, listed, isFresh⟩
    · rcases Keyed.mem_put earlier with rfl | before
      · exact Or.inr ⟨messages, List.mem_cons_self, rfl⟩
      · exact Or.inl before
    · have elsewhere : folderKey accountId folderPath ≠ folderKey accountId batch.1 := by
        intro same
        have again : batch.1 ∈ rest.map Prod.fst := List.mem_map.2 ⟨_, listed, rfl⟩
        exact once (folderKey_injective same ▸ again)
      have kept : cachedKeys (storeBatch accountId s (folderPath, messages)).1 accountId batch.1 =
          cachedKeys s.1 accountId batch.1 := by
        simp only [cachedKeys, cachedRows, storeBatch, Keyed.get_put, if_neg elsewhere]
      rw [kept] at isFresh
      exact Or.inr ⟨others, List.mem_cons_of_mem _ listed, isFresh⟩

theorem commitSync_spec {store store' : StoredState} {listing : Listing} {arrived : Arrivals}
    (spares : Spares store accountId listing) (stored : commitSync store accountId listing = some (store', arrived)) :
    ∀ batch ∈ arrived, ∀ message ∈ batch.2, syncFilterLedgerKey message ∉ cachedKeys store accountId batch.1 := by
  obtain ⟨distinct, sparing⟩ := spares
  rw [commitSync] at stored
  split at stored
  · cases stored
  · intro batch member message inBatch
    rw [← (Prod.mk.inj (Option.some.inj stored)).2] at member
    rcases mem_storeBatches distinct _ member with none | ⟨messages, listed, isFresh⟩
    · cases none
    · rw [isFresh] at inBatch
      obtain ⟨inMessages, absent⟩ := List.mem_filter.1 inBatch
      rcases cachedKeys_reconciled (store.folders accountId) listing.folders store batch.1 with
        kept | ⟨folder, inFolders, here, reset⟩
      · simp only [decide_eq_true_eq] at absent
        rw [← kept]
        exact absent
      · rw [← here]
        exact sparing folder inFolders reset _ listed here.symm message inMessages

end Arriving

section Examining

variable {state : StoredState} {context : FilterRunContext} {messages : List MessageSummary}

theorem examined_eq : examined state context messages =
    ((cachedMessages state context.accountId context.folderPath).filter fun message =>
      message.id ∈ messages.map (·.id)).take runLimit := by
  rw [examined, buildFilterSubjects, ← List.map_take, List.map_map]
  exact List.map_id _

theorem mem_examined {row : MessageSummary} (member : row ∈ examined state context messages) :
    row ∈ cachedMessages state context.accountId context.folderPath ∧ ∃ message ∈ messages, message.id = row.id := by
  rw [examined_eq] at member
  obtain ⟨cached, wanted⟩ := List.mem_filter.1 (List.mem_of_mem_take member)
  exact ⟨cached, by simpa using wanted⟩

theorem examined_keys (tells : Tells state context.accountId (context.folderPath, messages)) {key : JsString}
    (member : key ∈ (examined state context messages).map syncFilterLedgerKey) :
    key ∈ messages.map syncFilterLedgerKey := by
  obtain ⟨row, isExamined, rfl⟩ := List.mem_map.1 member
  obtain ⟨cached, message, isWanted, same⟩ := mem_examined isExamined
  rw [tells.2 message isWanted row cached same.symm]
  exact List.mem_map_of_mem isWanted

theorem examined_length (tells : Tells state context.accountId (context.folderPath, messages)) :
    (examined state context messages).length ≤ messages.length := by
  have rows : (examined state context messages).Sublist
      (cachedMessages state context.accountId context.folderPath) := by
    rw [examined_eq]
    exact (List.take_sublist _ _).trans List.filter_sublist
  have distinct : ((examined state context messages).map (·.id)).Nodup := tells.1.sublist (rows.map _)
  have within : (examined state context messages).map (·.id) ⊆ messages.map (·.id) := by
    intro id member
    obtain ⟨row, isExamined, rfl⟩ := List.mem_map.1 member
    obtain ⟨_, message, isWanted, same⟩ := mem_examined isExamined
    exact same ▸ List.mem_map_of_mem isWanted
  have short := (List.subperm_of_subset distinct within).length_le
  rwa [List.length_map, List.length_map] at short

end Examining

section Steps

variable (host : Host)

/-- What a step can do. -/
inductive Steps (s : System) : Event → System → Prop
  | idle (event : Event) : Steps s event s
  | sync (accountId : JsString) (listing : Listing) :
      Steps s (.sync accountId listing) { s with syncs := s.syncs ++ [⟨accountId, listing, .listed, fun _ => []⟩] }
  | commit {index : Nat} {sync : Sync} (found : s.syncs[index]? = some sync) (listed : sync.phase = .listed) :
      Steps s (.commit index) (commit s index sync)
  | load {index : Nat} {sync : Sync} {arrived : Arrivals} (found : s.syncs[index]? = some sync)
      (committed : sync.phase = .committed arrived) :
      Steps s (.load index) (s.setPhase index sync (.loaded arrived s.store))
  | select {index : Nat} {sync : Sync} {arrived : Arrivals} {state : StoredState} (found : s.syncs[index]? = some sync)
      (loaded : sync.phase = .loaded arrived state) : Steps s (.select index) (select host s index sync arrived state)
  | plan {index : Nat} {sync : Sync} {state : StoredState} {fresh : Arrivals} (found : s.syncs[index]? = some sync)
      (planning : sync.phase = .planning state fresh) (now : Int) :
      Steps s (.plan index now) (plan host s index sync state fresh now)
  | fail {index : Nat} {sync : Sync} (found : s.syncs[index]? = some sync) :
      Steps s (.fail index) (s.setPhase index sync .finished)
  | change (store : StoredState) : Steps s (.change store) { s with store }

theorem step_spec (s : System) (event : Event) : Steps host s event (s.step host event) := by
  cases event with
  | sync accountId listing => exact .sync accountId listing
  | change store => exact .change store
  | commit index =>
    rw [System.step]
    split
    · exact .idle _
    · rename_i sync found
      split
      · rename_i listed
        exact .commit found listed
      · exact .idle _
  | load index =>
    rw [System.step]
    split
    · exact .idle _
    · rename_i sync found
      split
      · rename_i arrived committed
        exact .load found committed
      · exact .idle _
  | select index =>
    rw [System.step]
    split
    · exact .idle _
    · rename_i sync found
      split
      · rename_i arrived state loaded
        exact .select found loaded
      · exact .idle _
  | plan index now =>
    rw [System.step]
    split
    · exact .idle _
    · rename_i sync found
      split
      · rename_i state fresh planning
        exact .plan found planning now
      · exact .idle _
  | fail index =>
    rw [System.step]
    split
    · exact .idle _
    · rename_i sync found
      exact .fail found

end Steps

section Invariant

/-- The messages of a synchronization that are in the ledger and still to be examined. -/
def awaited (sync : Sync) : List JsString :=
  match sync.phase with
  | .planning _ fresh => keysOf fresh
  | _ => []

/-- It may have made plans. -/
def Phase.begun : Phase → Bool
  | .planning _ _ => true
  | .finished => true
  | _ => false

/-- None of the messages was stored before the synchronization. -/
def Unseen (sync : Sync) (arrivals : Arrivals) : Prop :=
  ∀ batch ∈ arrivals, ∀ message ∈ batch.2, syncFilterLedgerKey message ∉ sync.before batch.1

/-- What is known of what a synchronization holds. -/
def Sound (sync : Sync) : Prop :=
  match sync.phase with
  | .committed arrived => Unseen sync arrived
  | .loaded arrived _ => Unseen sync arrived
  | .planning state fresh => Unseen sync fresh ∧ ∀ batch ∈ fresh, Tells state sync.accountId batch
  | _ => True

/-- The invariant: what was recorded is in the ledger once or has gone from it, and what plans have examined or will
examine was recorded for them. -/
structure Guarded (s : System) : Prop where
  distinct : s.ledger.Nodup
  recorded : ∀ key, s.recorded.count key = s.evicted.count key + s.ledger.count key
  handed : ∀ key, s.plans.countP (fun planned => key ∈ planned.keys) + (s.syncs.flatMap awaited).count key ≤
    s.recorded.count key
  bounded : ∀ index sync, s.syncs[index]? = some sync → examinedBy s.plans index + (awaited sync).length ≤ runLimit
  begun : ∀ planned ∈ s.plans, ∃ sync, s.syncs[planned.sync]? = some sync ∧ sync.phase.begun = true
  sound : ∀ sync ∈ s.syncs, Sound sync
  unseen : ∀ planned ∈ s.plans, ∀ sync, s.syncs[planned.sync]? = some sync →
    ∀ key ∈ planned.keys, key ∉ sync.before planned.folderPath

theorem Guarded.start (store : StoredState) : Guarded (System.start store) := by
  constructor <;> simp [System.start]

theorem examinedBy_eq_zero {plans : List Planned} {index : Nat} (none : ∀ planned ∈ plans, planned.sync ≠ index) :
    examinedBy plans index = 0 := by
  have empty : (plans.filter fun planned => planned.sync = index) = [] :=
    List.filter_eq_nil_iff.2 fun planned member => by simpa using none planned member
  rw [examinedBy, empty]
  rfl

theorem Guarded.actsOnce {s : System} (guarded : Guarded s) : ActsOnce s where
  once key := by
    have handed := guarded.handed key
    have recorded := guarded.recorded key
    have once := List.nodup_iff_count_le_one.1 guarded.distinct key
    omega
  bounded index := by
    cases found : s.syncs[index]? with
    | some sync =>
      have bounded := guarded.bounded index sync found
      omega
    | none =>
      rw [examinedBy_eq_zero]
      · exact Nat.zero_le _
      · rintro planned member rfl
        obtain ⟨sync, isThere, -⟩ := guarded.begun planned member
        rw [found] at isThere
        cases isThere
  unseen := guarded.unseen

theorem count_awaited_set {syncs : List Sync} {index : Nat} {sync : Sync} (found : syncs[index]? = some sync)
    (sync' : Sync) (key : JsString) : ((syncs.set index sync').flatMap awaited).count key + (awaited sync).count key =
      (syncs.flatMap awaited).count key + (awaited sync').count key := by
  induction syncs generalizing index with
  | nil => cases found
  | cons first rest ih =>
    cases index with
    | zero =>
      cases found
      simp only [List.set_cons_zero, List.flatMap_cons, List.count_append]
      omega
    | succ index =>
      have later := ih found
      simp only [List.set_cons_succ, List.flatMap_cons, List.count_append]
      omega

/-- One synchronization goes on, and may have made plans. -/
structure Advances (s s' : System) (index : Nat) (sync sync' : Sync) (more : List Planned) : Prop where
  found : s.syncs[index]? = some sync
  syncs : s'.syncs = s.syncs.set index sync'
  plans : s'.plans = s.plans ++ more
  own : ∀ planned ∈ more, planned.sync = index ∧ sync'.phase.begun = true ∧
    ∀ key ∈ planned.keys, key ∉ sync'.before planned.folderPath
  goesOn : sync.phase.begun = true → sync'.phase.begun = true ∧ sync'.before = sync.before
  sound : Sound sync'

variable {s s' : System} {index : Nat} {sync sync' : Sync} {more : List Planned}

theorem Advances.here (advances : Advances s s' index sync sync' more) : s'.syncs[index]? = some sync' := by
  have within : index < s.syncs.length := (List.getElem?_eq_some_iff.1 advances.found).1
  rw [advances.syncs, List.getElem?_set_self within]

theorem Advances.elsewhere (advances : Advances s s' index sync sync' more) {other : Nat} (different : other ≠ index) :
    s'.syncs[other]? = s.syncs[other]? := by
  rw [advances.syncs, List.getElem?_set_ne (Ne.symm different)]

theorem Advances.examinedBy_eq (advances : Advances s s' index sync sync' more) (other : Nat) :
    examinedBy s'.plans other = examinedBy s.plans other + if other = index then (more.map fun planned => planned.examined.length).sum else 0 := by
  rw [advances.plans, examinedBy, List.filter_append, List.map_append, List.sum_append, ← examinedBy]
  congr 1
  split
  · rename_i same
    rw [List.filter_eq_self.2 fun planned member => by simpa [same] using (advances.own planned member).1]
  · rename_i different
    exact examinedBy_eq_zero fun planned member same => different (same.symm.trans (advances.own planned member).1)

theorem Guarded.advance (guarded : Guarded s) (advances : Advances s s' index sync sync' more)
    (distinct : s'.ledger.Nodup)
    (recorded : ∀ key, s'.recorded.count key = s'.evicted.count key + s'.ledger.count key)
    (handed : ∀ key,
      s.recorded.count key + more.countP (fun planned => key ∈ planned.keys) + (awaited sync').count key ≤
        s'.recorded.count key + (awaited sync).count key)
    (bounded : examinedBy s.plans index + (more.map fun planned => planned.examined.length).sum +
      (awaited sync').length ≤ runLimit) : Guarded s' where
  distinct := distinct
  recorded := recorded
  handed key := by
    have before := guarded.handed key
    have step := handed key
    have moved := count_awaited_set advances.found sync' key
    rw [advances.plans, advances.syncs, List.countP_append]
    omega
  bounded other otherSync found := by
    rw [advances.examinedBy_eq]
    by_cases here : other = index
    · subst here
      rw [advances.here] at found
      cases found
      simpa using bounded
    · rw [advances.elsewhere here] at found
      simpa [here] using guarded.bounded other otherSync found
  begun planned member := by
    rw [advances.plans] at member
    rcases List.mem_append.1 member with earlier | new
    · obtain ⟨planSync, found, begun⟩ := guarded.begun planned earlier
      by_cases here : planned.sync = index
      · rw [here, advances.found] at found
        cases found
        exact ⟨sync', here ▸ advances.here, (advances.goesOn begun).1⟩
      · exact ⟨planSync, (advances.elsewhere here).trans found, begun⟩
    · obtain ⟨rfl, begun, -⟩ := advances.own planned new
      exact ⟨sync', advances.here, begun⟩
  sound otherSync member := by
    rw [advances.syncs] at member
    rcases List.mem_or_eq_of_mem_set member with earlier | rfl
    · exact guarded.sound otherSync earlier
    · exact advances.sound
  unseen planned member planSync found key inKeys := by
    rw [advances.plans] at member
    rcases List.mem_append.1 member with earlier | new
    · by_cases here : planned.sync = index
      · obtain ⟨planSync', found', begun⟩ := guarded.begun planned earlier
        have known := guarded.unseen planned earlier planSync' found' key inKeys
        rw [here, advances.found] at found'
        cases found'
        rw [here, advances.here] at found
        cases found
        rwa [(advances.goesOn begun).2]
      · rw [advances.elsewhere here] at found
        exact guarded.unseen planned earlier planSync found key inKeys
    · obtain ⟨rfl, -, absent⟩ := advances.own planned new
      rw [advances.here] at found
      cases found
      exact absent key inKeys

theorem Guarded.replaced (guarded : Guarded s) (found : s.syncs[index]? = some sync) (store : StoredState)
    (goesOn : sync.phase.begun = true → sync'.phase.begun = true ∧ sync'.before = sync.before) (sound : Sound sync')
    (nothing : awaited sync' = []) : Guarded { s with store, syncs := s.syncs.set index sync' } := by
  have advances : Advances s { s with store, syncs := s.syncs.set index sync' } index sync sync' [] :=
    ⟨found, rfl, (List.append_nil _).symm, by simp, goesOn, sound⟩
  refine guarded.advance advances guarded.distinct guarded.recorded (fun key => ?_) ?_
  · rw [nothing]
    simp
  · have bounded := guarded.bounded index sync found
    rw [nothing]
    simp only [List.map_nil, List.sum_nil, List.length_nil]
    omega

theorem Guarded.finished (guarded : Guarded s) (found : s.syncs[index]? = some sync) :
    Guarded (s.setPhase index sync .finished) :=
  guarded.replaced found s.store (fun _ => ⟨rfl, rfl⟩) trivial rfl

theorem Guarded.listed (guarded : Guarded s) (accountId : JsString) (listing : Listing) :
    Guarded { s with syncs := s.syncs ++ [⟨accountId, listing, .listed, fun _ => []⟩] } := by
  have old : ∀ {other : Nat} {otherSync : Sync},
      (s.syncs ++ [⟨accountId, listing, .listed, fun _ => []⟩])[other]? = some otherSync →
      s.syncs[other]? = some otherSync ∨ (other = s.syncs.length ∧ awaited otherSync = []) := by
    intro other otherSync found
    rw [List.getElem?_append] at found
    split at found
    · exact Or.inl found
    · obtain ⟨last, is⟩ := List.getElem?_eq_some_iff.1 found
      have first : other - s.syncs.length = 0 := Nat.lt_one_iff.1 last
      simp only [first, List.getElem_cons_zero] at is
      exact Or.inr ⟨by omega, is ▸ rfl⟩
  have within : ∀ planned ∈ s.plans, planned.sync < s.syncs.length := by
    intro planned member
    obtain ⟨sync, found, -⟩ := guarded.begun planned member
    exact (List.getElem?_eq_some_iff.1 found).1
  constructor
  case distinct => exact guarded.distinct
  case recorded => exact guarded.recorded
  case handed =>
    intro key
    simpa [awaited] using guarded.handed key
  case bounded =>
    intro other otherSync found
    rcases old found with found | ⟨rfl, nothing⟩
    · exact guarded.bounded other otherSync found
    · rw [nothing, examinedBy_eq_zero fun planned member => (within planned member).ne]
      exact Nat.zero_le _
  case begun =>
    intro planned member
    obtain ⟨sync, found, begun⟩ := guarded.begun planned member
    exact ⟨sync, by rw [List.getElem?_append_left (within planned member), found], begun⟩
  case sound =>
    intro otherSync member
    rcases List.mem_append.1 member with earlier | new
    · exact guarded.sound otherSync earlier
    · rw [List.mem_singleton.1 new]
      trivial
  case unseen =>
    intro planned member otherSync found
    rw [List.getElem?_append_left (within planned member)] at found
    exact guarded.unseen planned member otherSync found

theorem Guarded.commit (guarded : Guarded s) (found : s.syncs[index]? = some sync) (listed : sync.phase = .listed)
    (spares : Spares s.store sync.accountId sync.listing) : Guarded (commit s index sync) := by
  rw [MessageFilters.commit]
  split
  · exact guarded.finished found
  · rename_i store arrived stored
    refine guarded.replaced found store (fun begun => ?_) ?_ rfl
    · rw [listed] at begun
      cases begun
    · exact commitSync_spec spares stored

/-- New messages are taken on by a synchronization that has made no plan, and the oldest keys go. -/
theorem Guarded.takenOn (guarded : Guarded s) (found : s.syncs[index]? = some sync) (unbegun : sync.phase.begun = false)
    (state : StoredState) {added : Arrivals} (count : Nat) (distinct : (s.ledger ++ keysOf added).Nodup)
    (bounded : (keysOf added).length ≤ runLimit) (unseen : Unseen sync added)
    (tells : ∀ batch ∈ added, Tells state sync.accountId batch) :
    Guarded { s with
      ledger := (s.ledger ++ keysOf added).drop count
      evicted := s.evicted ++ (s.ledger ++ keysOf added).take count
      recorded := s.recorded ++ keysOf added
      syncs := s.syncs.set index { sync with phase := .planning state added } } := by
  have unplanned : examinedBy s.plans index = 0 := by
    refine examinedBy_eq_zero ?_
    rintro planned member rfl
    obtain ⟨planSync, isThere, begun⟩ := guarded.begun planned member
    rw [found] at isThere
    cases isThere
    rw [unbegun] at begun
    cases begun
  have advances : Advances s { s with
      ledger := (s.ledger ++ keysOf added).drop count
      evicted := s.evicted ++ (s.ledger ++ keysOf added).take count
      recorded := s.recorded ++ keysOf added
      syncs := s.syncs.set index { sync with phase := .planning state added } } index sync
      { sync with phase := .planning state added } [] := by
    refine ⟨found, rfl, (List.append_nil _).symm, by simp, fun begun => ?_, unseen, tells⟩
    rw [unbegun] at begun
    cases begun
  refine guarded.advance advances (distinct.sublist (List.drop_sublist _ _)) (fun key => ?_) (fun key => ?_) ?_
  · have recorded := guarded.recorded key
    have parts : ((s.ledger ++ keysOf added).take count).count key + ((s.ledger ++ keysOf added).drop count).count key =
        s.ledger.count key + (keysOf added).count key := by
      rw [← List.count_append, List.take_append_drop, List.count_append]
    simp only [List.count_append]
    omega
  · simp only [awaited, List.count_append, List.countP_nil]
    omega
  · rw [unplanned]
    simpa [awaited] using bounded

variable (host : Host)

theorem Guarded.select {arrived : Arrivals} {state : StoredState} (guarded : Guarded s)
    (found : s.syncs[index]? = some sync) (loaded : sync.phase = .loaded arrived state)
    (tells : ∀ batch ∈ arrived, Tells state sync.accountId batch) : Guarded (select host s index sync arrived state) := by
  have unseen : Unseen sync arrived := by
    have sound := guarded.sound sync (List.mem_of_getElem? found)
    rwa [Sound, loaded] at sound
  rw [MessageFilters.select]
  split
  · obtain ⟨added, isAdded, within, takes⟩ := selectFresh_spec arrived ⟨s.ledger, runLimit, false⟩ []
    have ledger : (selectFresh arrived ⟨s.ledger, runLimit, false⟩ []).1.ledger = s.ledger ++ keysOf added :=
      takes.ledger
    have budget := takes.budget
    have distinct := takes.distinct guarded.distinct
    rw [List.nil_append] at isAdded
    simp only [isAdded, ledger, List.drop_left] at distinct budget ⊢
    refine guarded.takenOn found (by rw [loaded]; rfl) state _ distinct (by omega) ?_ ?_
    · intro batch member message inBatch
      obtain ⟨messages, isArrived, fromThem⟩ := within batch member
      exact unseen _ isArrived message (fromThem message inBatch)
    · intro batch member
      obtain ⟨messages, isArrived, fromThem⟩ := within batch member
      obtain ⟨apart, same⟩ := tells _ isArrived
      exact ⟨apart, fun message inBatch => same message (fromThem message inBatch)⟩
  · exact guarded.finished found

theorem Guarded.plan {state : StoredState} {fresh : Arrivals} (guarded : Guarded s)
    (found : s.syncs[index]? = some sync) (planning : sync.phase = .planning state fresh) (now : Int) :
    Guarded (plan host s index sync state fresh now) := by
  obtain ⟨unseen, tells⟩ : Unseen sync fresh ∧ ∀ batch ∈ fresh, Tells state sync.accountId batch := by
    have sound := guarded.sound sync (List.mem_of_getElem? found)
    rwa [Sound, planning] at sound
  have awaits : awaited sync = keysOf fresh := by rw [awaited, planning]
  cases fresh with
  | nil => exact guarded.finished found
  | cons batch rest =>
    obtain ⟨folderPath, messages⟩ := batch
    rw [MessageFilters.plan]
    split
    · exact guarded.finished found
    · rename_i context isContext
      obtain ⟨email, -, rfl⟩ := Option.map_eq_some_iff.1 isContext
      have mine : Tells state sync.accountId (folderPath, messages) := tells _ List.mem_cons_self
      refine guarded.advance
        ⟨found, rfl, rfl, ?_, fun _ => ⟨rfl, rfl⟩, ?_, ?_⟩ guarded.distinct guarded.recorded (fun key => ?_) ?_
      · refine List.forall_mem_singleton.2 ⟨rfl, rfl, fun key isExamined => ?_⟩
        obtain ⟨message, isListed, rfl⟩ := List.mem_map.1 (examined_keys mine isExamined)
        exact unseen _ List.mem_cons_self message isListed
      · exact fun batch member => unseen batch (List.mem_cons_of_mem _ member)
      · exact fun batch member => tells batch (List.mem_cons_of_mem _ member)
      · have share : awaited sync = messages.map syncFilterLedgerKey ++ keysOf rest := awaits
        rw [share, List.count_append, List.countP_singleton]
        show s.recorded.count key + (if _ then 1 else 0) + (keysOf rest).count key ≤ s.recorded.count key + (_ + _)
        split
        · rename_i isExamined
          have isListed := List.count_pos_iff.2 (examined_keys mine (of_decide_eq_true isExamined))
          omega
        · omega
      · have bounded : examinedBy s.plans index + (messages.length + (keysOf rest).length) ≤ runLimit := by
          simpa [awaits, keysOf] using guarded.bounded index sync found
        have fewer : (examined state ⟨sync.accountId, folderPath, email, state.folders sync.accountId⟩
            messages).length ≤ messages.length := examined_length mine
        show _ + (examined state _ messages).length + (keysOf rest).length ≤ _
        omega

theorem Guarded.step (guarded : Guarded s) {event : Event} (meets : Meets s event) :
    Guarded (System.step host s event) := by
  have step := step_spec host s event
  generalize System.step host s event = after at step ⊢
  cases step with
  | idle => exact guarded
  | sync accountId listing => exact guarded.listed accountId listing
  | commit found listed => exact guarded.commit found listed (meets _ found listed)
  | load found committed =>
    refine guarded.replaced found s.store (fun begun => ?_) ?_ rfl
    · rw [committed] at begun
      cases begun
    · have sound := guarded.sound _ (List.mem_of_getElem? found)
      rwa [Sound, committed] at sound
  | select found loaded => exact guarded.select host found loaded (meets _ _ _ found loaded)
  | plan found planning now => exact guarded.plan host found planning now
  | fail found => exact guarded.finished found
  | change store => exact ⟨guarded.distinct, guarded.recorded, guarded.handed, guarded.bounded, guarded.begun,
      guarded.sound, guarded.unseen⟩

theorem Guarded.run {events : List Event} (guarded : Guarded s) (meets : RunMeets host s events) :
    Guarded (System.run host s events) := by
  induction events generalizing s with
  | nil => exact guarded
  | cons event events ih => exact ih (guarded.step host meets.1) meets.2

end Invariant

section Runs

variable (host : Host)

/-- The filters act once in every run in which no update resets a folder of which it lists what is stored, and in which
what is stored under the ids of the messages that are taken on are these messages. -/
theorem run_actsOnce (store : StoredState) (events : List Event) (meets : RunMeets host (System.start store) events) :
    ActsOnce (System.run host (System.start store) events) :=
  ((Guarded.start store).run host meets).actsOnce

def inbox (uidValidity : JsString) : Folder := ⟨ofString "INBOX", ofString "Inbox", .inbox, some uidValidity⟩

def firstMessage (uidValidity : JsString) : MessageSummary := { plainMessage with uidValidity := some uidValidity }

/-- What is listed of an inbox with one message. -/
def oneMessage (uidValidity : JsString) : Listing :=
  ⟨[inbox uidValidity], [(ofString "INBOX", [firstMessage uidValidity])]⟩

def onSync : MessageFilter := { plainFilter (ofString "f") [starring] with runOnSync := true }

def newStore : StoredState := ⟨[onSync], [], [], ⟨[], []⟩, fun _ => [], fun _ => some []⟩

def inTurn : List Event :=
  [.sync (ofString "a") (oneMessage [49]), .commit 0, .load 0, .select 0, .plan 0 0]

/-- A second synchronization finds another UIDVALIDITY before the first has taken on its messages. -/
def overtaken : List Event :=
  [.sync (ofString "a") (oneMessage [49]), .sync (ofString "a") (oneMessage [50]), .commit 0, .commit 1,
    .load 0, .select 0, .plan 0 0, .load 1, .select 1, .plan 1 0]

theorem inTurn_actsOnce : ActsOnce (System.run Host.plain (System.start newStore) inTurn) := by
  refine run_actsOnce Host.plain newStore inTurn ⟨trivial, ?_, trivial, ?_, trivial, trivial⟩
  · intro sync found listed
    cases found
    unfold Spares
    decide
  · intro sync arrived state found loaded
    cases found
    cases loaded
    unfold Tells
    decide

/-- The message of the second one comes to the plans of both. -/
theorem overtaken_actsTwice : ¬ ActsOnce (System.run Host.plain (System.start newStore) overtaken) := by
  intro acts
  have twice : (System.run Host.plain (System.start newStore) overtaken).plans.countP
      (fun planned => syncFilterLedgerKey (firstMessage [50]) ∈ planned.keys) = 2 := by decide +kernel
  have kept : (System.run Host.plain (System.start newStore) overtaken).evicted = [] := by decide +kernel
  have once := acts.once (syncFilterLedgerKey (firstMessage [50]))
  rw [twice, kept] at once
  exact absurd once (by decide)

end Runs

end MessageFilters
