import MaterialEmail.AppService.Calls
import MaterialEmail.AppService.Flights

/-! Every operation of the service keeps the contract of the queues. -/
namespace AppService

open Interrupted Interleaved

variable {localeCompare : String → String → Ordering}

abbrev keeps (localeCompare : String → String → Ordering) (task : Nat) (p : Service α)
    (post : Except ServiceError α → Watched → Prop) (s : Watched) : Prop :=
  meets (watched localeCompare) contract task p post s

section Answers

variable {s s' : Watched} {task : Nat} {op : Op} {choice : Choice} {reply : Reply op}

theorem watched_answer (answered : (watched localeCompare).answer task op choice s = some (reply, s')) :
    ∃ state, (environment localeCompare).answer task op choice s.1 = some (reply, state) ∧
      s' = (state, watch task op choice reply s.1 s.2) := by
  simp only [watched, Environment.observed, Option.map_eq_some_iff, Prod.exists] at answered
  obtain ⟨reply', state, answered, same⟩ := answered
  cases same
  exact ⟨state, answered, rfl⟩

theorem commit_answer {c : Commit} {result : Except ServiceError c.Result}
    (answered : (watched localeCompare).answer task (.commit c) choice s = some (result, s')) :
    (result = .error .storeFailed ∧ s' = (s.1, { s.2 with storeFailed := true })) ∨
    ∃ fresh, s.1.Fresh fresh ∧
      ((∃ error, c.run localeCompare fresh s.1.persisted = .error error ∧ result = .error error ∧
          s' = ({ s.1 with drawn := fresh :: s.1.drawn }, s.2)) ∨
        ∃ persisted value, c.run localeCompare fresh s.1.persisted = .ok (persisted, value) ∧ result = .ok value ∧
          s' = ({ s.1 with persisted := persisted, drawn := fresh :: s.1.drawn }, s.2)) := by
  obtain ⟨state, chosen, rfl⟩ := watched_answer answered
  cases choice with
  | storeFails =>
    simp only [environment, Option.some.injEq, Prod.mk.injEq] at chosen
    obtain ⟨rfl, rfl⟩ := chosen
    exact Or.inl ⟨rfl, rfl⟩
  | draws fresh =>
    simp only [environment] at chosen
    split at chosen
    · rename_i isFresh
      refine Or.inr ⟨fresh, isFresh, ?_⟩
      split at chosen
      · rename_i persisted value ran
        simp only [Option.some.injEq, Prod.mk.injEq] at chosen
        obtain ⟨rfl, rfl⟩ := chosen
        exact Or.inr ⟨persisted, value, ran, rfl, rfl⟩
      · rename_i error ran
        simp only [Option.some.injEq, Prod.mk.injEq] at chosen
        obtain ⟨rfl, rfl⟩ := chosen
        exact Or.inl ⟨error, ran, rfl, rfl⟩
    · cases chosen
  | _ => simp [environment] at chosen

theorem MailOnly.grows {mail : PersistedState} (only : MailOnly s.1.persisted mail) (fresh : Identifier) :
    Grows s ({ s.1 with persisted := mail, drawn := fresh :: s.1.drawn }, s.2) where
  accounts := only.accounts
  flights := rfl
  holder := rfl
  begun := rfl
  accepted := rfl
  drawn := List.subset_cons_self _ _
  performed := List.Subset.refl _
  delivered := List.Subset.refl _
  storeFailed := id
  pending := ⟨none, by simp [only.pendingOperations], by simp⟩
  outbox := ⟨none, by simp [only.outbox], by simp⟩

theorem grows_queueOperation {mail : PersistedState} {operation : PendingOperation}
    (only : MailOnly s.1.persisted mail) (isFresh : s.1.Fresh operation.id) :
    Grows s ({ s.1 with persisted := mail.queueOperation operation, drawn := operation.id :: s.1.drawn }, s.2) :=
  { only.grows operation.id with
    pending := ⟨some operation, by simp [PersistedState.queueOperation, only.pendingOperations], by
      intro added member
      cases member
      exact ⟨isFresh.1, List.mem_cons_self⟩⟩
    outbox := ⟨none, by simp [PersistedState.queueOperation, only.outbox], by simp⟩ }

theorem plain_commit_grows {c : Commit} {fresh : Identifier} {persisted : PersistedState} (plain : c.Plain)
    (isFresh : s.1.Fresh fresh) (effect : c.Effect fresh s.1.persisted persisted) :
    Grows s ({ s.1 with persisted := persisted, drawn := fresh :: s.1.drawn }, s.2) := by
  have drafts : ∀ drafts, Grows s ({ s.1 with
      persisted := { s.1.persisted with drafts := drafts }, drawn := fresh :: s.1.drawn }, s.2) :=
    fun drafts => ⟨rfl, rfl, rfl, rfl, rfl, List.subset_cons_self _ _, List.Subset.refl _, List.Subset.refl _, id,
      ⟨none, by simp, by simp⟩, ⟨none, by simp, by simp⟩⟩
  cases c with
  | flagged accountId folderPath uid patch uidValidity networkError =>
    obtain ⟨mail, only, rfl⟩ := effect
    split
    · exact grows_queueOperation only isFresh
    · exact only.grows fresh
  | moved accountId folderPath uid destination uidValidity moveResult networkError =>
    obtain ⟨mail, only, rfl⟩ := effect
    split
    · exact grows_queueOperation only isFresh
    · exact only.grows fresh
  | draftSaved draft =>
    cases effect
    exact drafts _
  | draftDeleted accountId draftId =>
    cases effect
    split
    · exact drafts _
    · exact (MailOnly.refl s.1.persisted).grows fresh
  | synced accountId folders batches => exact MailOnly.grows effect fresh
  | opened accountId folderPath uid uidValidity detail => exact MailOnly.grows effect fresh
  | demoFolderRead accountId folderPath => exact MailOnly.grows effect fresh
  | folderRead accountId folderPath => exact MailOnly.grows effect fresh
  | tagged accountId folderPath uid tagIds => exact MailOnly.grows effect fresh
  | _ => exact plain.elim

theorem grows_watch (g : Watch) (holder : g.holder = s.2.holder) (begun : g.begun = s.2.begun)
    (accepted : g.accepted = s.2.accepted) (performed : s.2.performed ⊆ g.performed)
    (delivered : s.2.delivered ⊆ g.delivered) (failed : s.2.storeFailed = true → g.storeFailed = true)
    (drawn : List Identifier) (more : s.1.drawn ⊆ drawn) : Grows s ({ s.1 with drawn := drawn }, g) :=
  ⟨rfl, rfl, holder, begun, accepted, more, performed, delivered, failed, ⟨none, by simp, by simp⟩,
    ⟨none, by simp, by simp⟩⟩

theorem grows_refl (s : Watched) : Grows s s :=
  grows_watch s.2 rfl rfl rfl (List.Subset.refl _) (List.Subset.refl _) id s.1.drawn (List.Subset.refl _)

/-- A store that fails changes nothing. -/
theorem storeFails_grows (s : Watched) : Grows s (s.1, { s.2 with storeFailed := true }) :=
  grows_watch { s.2 with storeFailed := true } rfl rfl rfl (List.Subset.refl _) (List.Subset.refl _)
    (fun _ => rfl) s.1.drawn (List.Subset.refl _)

/-- A mutator that throws has at most drawn an identifier. -/
theorem throws_grows (s : Watched) (fresh : Identifier) :
    Grows s ({ s.1 with drawn := fresh :: s.1.drawn }, s.2) :=
  grows_watch s.2 rfl rfl rfl (List.Subset.refl _) (List.Subset.refl _) id (fresh :: s.1.drawn)
    (List.subset_cons_self _ _)

theorem plain_demand (plain : Plain op) : demand task op s := by
  cases op with
  | commit c => cases c <;> first | exact plain.elim | trivial
  | setFlags origin account folderPath uid patch uidValidity =>
    cases plain
    trivial
  | moveMessage origin account folderPath uid destination uidValidity =>
    cases plain
    trivial
  | sendMessage origin account draft identity =>
    cases plain
    trivial
  | _ => trivial

/-- Operations that only ask. -/
def Op.Asks : Op → Prop
  | .commit _ | .enter _ _ | .leave _ => False
  | _ => True

theorem asks_state {state : State}
    (chosen : (environment localeCompare).answer task op choice s.1 = some (reply, state)) (asks : op.Asks) :
    state = s.1 := by
  cases op with
  | commit c => exact asks.elim
  | enter accountId work => exact asks.elim
  | leave accountId => exact asks.elim
  | setFlags origin account folderPath uid patch uidValidity =>
    cases choice with
    | flags stored result =>
      simp only [environment, Option.ite_none_right_eq_some, Option.some.injEq, Prod.mk.injEq] at chosen
      exact chosen.2.2.symm
    | _ => cases chosen
  | _ => cases choice <;> cases chosen <;> rfl

theorem plain_grows (answered : (watched localeCompare).answer task op choice s = some (reply, s'))
    (plain : Plain op) : Grows s s' := by
  cases op with
  | commit c =>
    rcases commit_answer answered with ⟨-, rfl⟩ | ⟨fresh, isFresh, ⟨error, -, -, rfl⟩ |
      ⟨persisted, value, ran, -, rfl⟩⟩
    · exact storeFails_grows s
    · exact throws_grows s fresh
    · exact plain_commit_grows plain isFresh (Commit.run_effect ran)
  | enter accountId work => exact plain.elim
  | leave accountId => exact plain.elim
  | setFlags origin account folderPath uid patch uidValidity =>
    cases plain
    obtain ⟨state, chosen, rfl⟩ := watched_answer answered
    obtain rfl := asks_state chosen trivial
    cases reply <;> exact grows_refl s
  | moveMessage origin account folderPath uid destination uidValidity =>
    cases plain
    obtain ⟨state, chosen, rfl⟩ := watched_answer answered
    obtain rfl := asks_state chosen trivial
    cases reply <;> exact grows_refl s
  | sendMessage origin account draft identity =>
    cases plain
    obtain ⟨state, chosen, rfl⟩ := watched_answer answered
    obtain rfl := asks_state chosen trivial
    cases reply with
    | error failure => exact grows_refl s
    | ok sent =>
      simp only [watch, Watch.transmitted]
      split
      · exact grows_refl s
      · exact grows_watch { s.2 with delivered := draft :: s.2.delivered } rfl rfl rfl (List.Subset.refl _)
          (List.subset_cons_self _ _) id s.1.drawn (List.Subset.refl _)
  | _ =>
    obtain ⟨state, chosen, rfl⟩ := watched_answer answered
    obtain rfl := asks_state chosen trivial
    exact grows_refl s

end Answers

section Rules

variable {s : Watched} {task : Nat} {accountId : Identifier} {work : QueueWork}

/-- Programs that need no flight keep what no other task can disturb. -/
theorem plain_keeps {p : Service α} (uses : p.Uses Plain) {I : Watched → Prop}
    (stable : ∀ s s', I s → Respects task s s' → I s') (holds : I s) :
    keeps localeCompare task p (fun _ => I) s := by
  induction uses generalizing s with
  | done value => exact holds
  | throw error => exact holds
  | call op next plain rest ih =>
    intro s₁ respects orderly
    refine ⟨plain_demand plain, fun choice reply s₂ _ answered => ?_⟩
    have grows := plain_grows answered plain
    exact ⟨grows.guar orderly task, ih reply (stable _ _ (stable _ _ holds respects) (grows.respects orderly task))⟩

theorem storeRead_keeps {post : Except ServiceError PersistedState → Watched → Prop}
    (reads : ∀ s₁, Respects task s s₁ → Orderly s₁ → post (.ok s₁.1.persisted) s₁) :
    keeps localeCompare task storeRead post s := by
  intro s₁ respects orderly
  refine ⟨trivial, fun choice reply s₂ _ answered => ⟨(plain_grows answered trivial).guar orderly task, ?_⟩⟩
  obtain ⟨state, chosen, rfl⟩ := watched_answer answered
  cases choice with
  | proceeds =>
    cases chosen
    exact reads s₁ respects orderly
  | _ => cases chosen

theorem require_keeps {result : Except ServiceError α} {post : Except ServiceError α → Watched → Prop}
    (ends : post result s) : keeps localeCompare task (require result) post s := by
  cases result <;> exact ends

/-- An update, by the ways in which it may end. -/
theorem update_keeps {c : Commit} {post : Except ServiceError c.Result → Watched → Prop}
    (due : ∀ s₁, Respects task s s₁ → Orderly s₁ → demand task (.commit c) s₁)
    (fails : ∀ s₁ s₂ error, Respects task s s₁ → Respects task s₁ s₂ → s₂.1.persisted = s₁.1.persisted →
      (s₂.2.storeFailed = true ∨ ∃ fresh, c.run localeCompare fresh s₁.1.persisted = .error error) →
      post (.error error) s₂)
    (runs : ∀ s₁ fresh persisted result, Respects task s s₁ → Orderly s₁ → s₁.1.Fresh fresh →
      c.run localeCompare fresh s₁.1.persisted = .ok (persisted, result) →
      contract.guar task s₁ ({ s₁.1 with persisted := persisted, drawn := fresh :: s₁.1.drawn }, s₁.2) ∧
        post (.ok result) ({ s₁.1 with persisted := persisted, drawn := fresh :: s₁.1.drawn }, s₁.2)) :
    keeps localeCompare task (update c) post s := by
  intro s₁ respects orderly
  refine ⟨due s₁ respects orderly, fun choice result s₂ _ answered => ?_⟩
  rcases commit_answer answered with ⟨rfl, rfl⟩ | ⟨fresh, isFresh, ⟨error, ran, rfl, rfl⟩ |
    ⟨persisted, value, ran, rfl, rfl⟩⟩
  · have grows := storeFails_grows s₁
    exact ⟨grows.guar orderly task, fails s₁ _ _ respects (grows.respects orderly task) rfl (Or.inl rfl)⟩
  · have grows := throws_grows s₁ fresh
    exact ⟨grows.guar orderly task, fails s₁ _ _ respects (grows.respects orderly task) rfl (Or.inr ⟨fresh, ran⟩)⟩
  · exact runs s₁ fresh persisted value respects orderly isFresh ran

/-- Inside a flight the queues of the account are this task's alone to work on. -/
theorem flight_keeps {operation : Service α} (idle : Idle task s)
    (inside : ∀ s₁, s₁.1.persisted.accounts = s.1.persisted.accounts → Holds task accountId work none s₁ →
      keeps localeCompare task operation (fun _ => Holds task accountId work none) s₁) :
    keeps localeCompare task (withQueueFlight accountId work operation) (fun _ => Idle task) s := by
  intro s₁ respects orderly
  have idle₁ := idle.respects respects
  refine ⟨trivial, fun choice entered s₂ _ answered => ?_⟩
  obtain ⟨state, chosen, rfl⟩ := watched_answer answered
  cases choice with
  | proceeds =>
    by_cases busy : accountId ∈ s₁.1.flights
    · simp only [environment, busy, ↓reduceIte, Option.some.injEq, Prod.mk.injEq] at chosen
      obtain ⟨rfl, rfl⟩ := chosen
      exact ⟨(grows_refl s₁).guar orderly task, idle₁⟩
    · simp only [environment, busy, ↓reduceIte, Option.some.injEq, Prod.mk.injEq] at chosen
      obtain ⟨rfl, rfl⟩ := chosen
      have free : s₁.2.holder accountId = none := by
        have held := (orderly.flights accountId).not.1 busy
        simpa using held
      refine ⟨entered_guar orderly free task work, ?_⟩
      refine meets_finally (meets_mono (inside _ respects.accounts (entered_holds orderly free idle₁ work))
        fun result s₃ holds₃ => ?_)
      intro s₄ respects₄ orderly₄
      have holds₄ := holds₃.respects respects₄
      refine ⟨trivial, fun choice reply s₅ _ answered => ?_⟩
      obtain ⟨state, chosen, rfl⟩ := watched_answer answered
      cases choice with
      | proceeds =>
        simp only [environment, Option.some.injEq, Prod.mk.injEq] at chosen
        obtain ⟨-, rfl⟩ := chosen
        refine ⟨left_guar orderly₄ holds₄, ?_⟩
        cases result <;> exact left_idle holds₄
      | _ => cases chosen
  | _ => cases chosen

end Rules

section Work

variable {s : Watched} {task : Nat} {accountId : Identifier} {work : QueueWork}

/-- What one account has queued has another identifier than what the others have. -/
theorem elsewhere_absent {α : Type} {key : α → Identifier} (owner : α → Identifier) {records : List α} {record : α}
    (distinct : (records.map key).Nodup) (member : record ∈ records) (isOwner : owner record = accountId)
    {other : Identifier} (different : other ≠ accountId) :
    key record ∉ (records.filter fun record => owner record = other).map key := by
  intro found
  obtain ⟨second, isSecond, same⟩ := List.mem_map.1 found
  obtain ⟨member', owned⟩ := List.mem_filter.1 isSecond
  obtain rfl := Keyed.eq_of_key distinct member' member same
  simp only [decide_eq_true_eq] at owned
  exact different (owned.symm.trans isOwner)

theorem works_operation {persisted : PersistedState} {operation : PendingOperation}
    (change : PendingOperation → PendingOperation) {fresh : Identifier} (orderly : Orderly s)
    (member : operation ∈ pendingOf s.1.persisted accountId) (accounts : persisted.accounts = s.1.persisted.accounts)
    (outbox : persisted.outbox = s.1.persisted.outbox) (keepsId : ∀ record, (change record).id = record.id)
    (keepsAccount : ∀ record, (change record).accountId = record.accountId)
    (pending : persisted.pendingOperations =
        Keyed.without PendingOperation.id operation.id s.1.persisted.pendingOperations ∨
      persisted.pendingOperations =
        Keyed.edit PendingOperation.id operation.id change s.1.persisted.pendingOperations) :
    Works accountId s ({ s.1 with persisted := persisted, drawn := fresh :: s.1.drawn }, s.2) := by
  obtain ⟨isPending, owned⟩ := List.mem_filter.1 member
  simp only [decide_eq_true_eq] at owned
  refine ⟨accounts, rfl, rfl, List.subset_cons_self _ _, ?_, ?_, fun other different => ⟨?_, ?_⟩⟩
  · show (persisted.pendingOperations.map _).Sublist _
    rcases pending with removed | edited
    · rw [removed]
      exact Keyed.without_sublist.map _
    · rw [edited, Keyed.map_edit keepsId]
  · show (persisted.outbox.map _).Sublist _
    rw [outbox]
  · have absent := elsewhere_absent (·.accountId) orderly.pendingIds isPending owned different
    unfold pendingOf at absent ⊢
    rcases pending with removed | edited
    · rw [removed, Keyed.filter_without, Keyed.without_of_not_mem absent]
    · rw [edited, Keyed.filter_edit _ (fun record => by rw [keepsAccount]) orderly.pendingIds,
        Keyed.edit_of_not_mem absent]
  · unfold outboxOf
    rw [outbox]

theorem works_item {persisted : PersistedState} {item : OutboxItem} (change : OutboxItem → OutboxItem)
    {fresh : Identifier} (orderly : Orderly s) (member : item ∈ outboxOf s.1.persisted accountId)
    (accounts : persisted.accounts = s.1.persisted.accounts)
    (pending : persisted.pendingOperations = s.1.persisted.pendingOperations)
    (keepsId : ∀ record, (change record).id = record.id) (keepsDraft : ∀ record, (change record).draft = record.draft)
    (outbox : persisted.outbox = Keyed.without OutboxItem.id item.id s.1.persisted.outbox ∨
      persisted.outbox = Keyed.edit OutboxItem.id item.id change s.1.persisted.outbox) :
    Works accountId s ({ s.1 with persisted := persisted, drawn := fresh :: s.1.drawn }, s.2) := by
  obtain ⟨isWaiting, owned⟩ := List.mem_filter.1 member
  simp only [decide_eq_true_eq] at owned
  refine ⟨accounts, rfl, rfl, List.subset_cons_self _ _, ?_, ?_, fun other different => ⟨?_, ?_⟩⟩
  · show (persisted.pendingOperations.map _).Sublist _
    rw [pending]
  · show (persisted.outbox.map _).Sublist _
    rcases outbox with removed | edited
    · rw [removed]
      exact Keyed.without_sublist.map _
    · rw [edited, Keyed.map_edit keepsId]
  · unfold pendingOf
    rw [pending]
  · have absent := elsewhere_absent (·.draft.accountId) orderly.outboxIds isWaiting owned different
    unfold outboxOf at absent ⊢
    rcases outbox with removed | edited
    · rw [removed, Keyed.filter_without, Keyed.without_of_not_mem absent]
    · rw [edited, Keyed.filter_edit _ (fun record => by rw [keepsDraft]) orderly.outboxIds,
        Keyed.edit_of_not_mem absent]

/-- A task that has worked on its own queue without touching what is accepted. -/
theorem Holds.works {s' : Watched} {excepted : Option Identifier} (holds : Holds task accountId work excepted s)
    (works : Works accountId s s') (outbox : ∀ item ∈ outboxOf s'.1.persisted accountId,
      ∃ earlier ∈ outboxOf s.1.persisted accountId, earlier.id = item.id) :
    Holds task accountId work excepted s' := by
  refine ⟨by rw [works.watch]; exact holds.holder, fun other work' held => ?_, fun noFailure item member other => ?_⟩
  · rw [works.watch] at held
    exact holds.only other work' held
  · rw [works.watch] at noFailure ⊢
    obtain ⟨earlier, isEarlier, same⟩ := outbox item member
    rw [← same] at other ⊢
    exact holds.clean noFailure earlier isEarlier other

theorem mem_pendingOf {operation : PendingOperation} (found : operation ∈ s.1.persisted.pendingOperations)
    (owned : operation.accountId = accountId) : operation ∈ pendingOf s.1.persisted accountId :=
  List.mem_filter.2 ⟨found, by simp [owned]⟩

theorem mem_outboxOf {item : OutboxItem} (found : item ∈ s.1.persisted.outbox)
    (owned : item.draft.accountId = accountId) : item ∈ outboxOf s.1.persisted accountId :=
  List.mem_filter.2 ⟨found, by simp [owned]⟩

theorem pendingOf_nodup (orderly : Orderly s) (accountId : Identifier) :
    ((pendingOf s.1.persisted accountId).map (·.id)).Nodup :=
  orderly.pendingIds.sublist (List.filter_sublist.map _)

theorem outboxOf_nodup (orderly : Orderly s) (accountId : Identifier) :
    ((outboxOf s.1.persisted accountId).map (·.id)).Nodup :=
  orderly.outboxIds.sublist (List.filter_sublist.map _)

/-- The first operation of the queue is taken out. -/
theorem queued_without {operation : PendingOperation} {rest : List PendingOperation} {persisted : PersistedState}
    (orderly : Orderly s) (queued : Queued accountId (operation :: rest) s)
    (removed : persisted.pendingOperations =
      Keyed.without PendingOperation.id operation.id s.1.persisted.pendingOperations) {s' : Watched}
    (same : s'.1.persisted = persisted) : Queued accountId rest s' := by
  obtain ⟨more, isPending⟩ := queued
  have distinct := pendingOf_nodup orderly accountId
  rw [isPending] at distinct
  refine ⟨more, ?_⟩
  unfold pendingOf at isPending ⊢
  rw [same, removed, Keyed.filter_without, isPending]
  exact Keyed.without_cons_self (List.nodup_cons.1 distinct).1

theorem waiting_without {item : OutboxItem} {rest : List OutboxItem} {persisted : PersistedState}
    (orderly : Orderly s) (waiting : Waiting accountId (item :: rest) s)
    (removed : persisted.outbox = Keyed.without OutboxItem.id item.id s.1.persisted.outbox) {s' : Watched}
    (same : s'.1.persisted = persisted) : Waiting accountId rest s' := by
  obtain ⟨more, isOutbox⟩ := waiting
  have distinct := outboxOf_nodup orderly accountId
  rw [isOutbox] at distinct
  refine ⟨more, ?_⟩
  unfold outboxOf at isOutbox ⊢
  rw [same, removed, Keyed.filter_without, isOutbox]
  exact Keyed.without_cons_self (List.nodup_cons.1 distinct).1

theorem Queued.head_mem {operation : PendingOperation} {rest : List PendingOperation}
    (queued : Queued accountId (operation :: rest) s) : operation ∈ pendingOf s.1.persisted accountId := by
  obtain ⟨more, isPending⟩ := queued
  rw [isPending]
  exact List.mem_cons_self

theorem Waiting.head_mem {item : OutboxItem} {rest : List OutboxItem} (waiting : Waiting accountId (item :: rest) s) :
    item ∈ outboxOf s.1.persisted accountId := by
  obtain ⟨more, isOutbox⟩ := waiting
  rw [isOutbox]
  exact List.mem_cons_self

theorem confirmed_grows (s : Watched) (origin : Origin) : Grows s (s.1, s.2.confirmed origin) := by
  cases origin with
  | call => exact grows_refl s
  | queue operationId =>
    exact grows_watch { s.2 with performed := operationId :: s.2.performed } rfl rfl rfl (List.subset_cons_self _ _)
      (List.Subset.refl _) id s.1.drawn (List.Subset.refl _)

end Work

section Operations

variable {s : Watched} {task : Nat} {accountId : Identifier} {work : QueueWork}

theorem requireAccount_same {p p' : PersistedState} (accounts : p'.accounts = p.accounts) (accountId : Identifier) :
    requireAccount p' accountId = requireAccount p accountId := by
  unfold requireAccount
  rw [accounts]

/-- The account of that identifier. -/
def Known (accountId : Identifier) (account : Account) (s : Watched) : Prop :=
  requireAccount s.1.persisted accountId = .ok account

theorem Known.respects {s' : Watched} {account : Account} (known : Known accountId account s)
    (respects : Respects task s s') : Known accountId account s' :=
  (requireAccount_same respects.accounts accountId).trans known

theorem known_keeps {p : Service α} {post : Except ServiceError α → Watched → Prop} {account : Account}
    (h : keeps localeCompare task p post s) (known : Known accountId account s) :
    keeps localeCompare task p (fun result s' => post result s' ∧ Known accountId account s') s := by
  refine meets_keeping (fun s s' respects known => known.respects respects) (fun s s' guaranteed known => ?_) h known
  exact known.respects (guaranteed.2 (task + 1) (Nat.succ_ne_self task))

/-- The head of the queue is attempted. -/
theorem performPendingOperation_keeps {account : Account} {operation : PendingOperation}
    {rest : List PendingOperation} (holds : Holds task account.id work none s)
    (queued : Queued account.id (operation :: rest) s)
    (limit : work = .replay → operation.attempts < attemptLimit) :
    keeps localeCompare task (performPendingOperation account operation) (fun result s' =>
      Holds task account.id work none s' ∧ Queued account.id (operation :: rest) s' ∧
        (result = .ok () → operation.id ∈ s'.2.performed)) s := by
  have attempts : ∀ s₁ asked, Respects task s s₁ → asked operation →
      ∃ work operation' later, AttemptsOperation s₁ task account.id operation.id asked work operation' later := by
    intro s₁ asked respects isAsked
    obtain ⟨more, isPending⟩ := queued.respects holds respects
    exact ⟨work, operation, rest ++ more, (holds.respects respects).holder, isPending, rfl, isAsked, limit⟩
  have ends : ∀ s₁ origin, Respects task s s₁ → Orderly s₁ →
      contract.guar task s₁ (s₁.1, s₁.2.confirmed origin) ∧
      Holds task account.id work none (s₁.1, s₁.2.confirmed origin) ∧
        Queued account.id (operation :: rest) (s₁.1, s₁.2.confirmed origin) := by
    intro s₁ origin respects orderly
    have grows := confirmed_grows s₁ origin
    have holds₁ := holds.respects respects
    have own := grows.respects orderly task
    exact ⟨grows.guar orderly task, holds₁.respects own, (queued.respects holds respects).respects holds₁ own⟩
  unfold performPendingOperation
  split
  · exact ⟨holds, queued, fun ok => by cases ok⟩
  · rename_i uidValidity isValidity
    split
    · rename_i patch destination isFlags isPatch
      intro s₁ respects orderly
      refine ⟨attempts s₁ _ respects ⟨isFlags, rfl, rfl, isPatch, isValidity⟩, fun choice result s₂ _ answered => ?_⟩
      obtain ⟨state, chosen, rfl⟩ := watched_answer answered
      obtain rfl := asks_state chosen trivial
      cases result with
      | error failure =>
        obtain ⟨guaranteed, holds₂, queued₂⟩ := ends s₁ .call respects orderly
        exact ⟨guaranteed, holds₂, queued₂, fun ok => by cases ok⟩
      | ok done =>
        obtain ⟨guaranteed, holds₂, queued₂⟩ := ends s₁ (.queue operation.id) respects orderly
        exact ⟨guaranteed, holds₂, queued₂, fun _ => List.mem_cons_self⟩
    · rename_i destination isMove isDestination
      refine meets_seq ?_
      intro s₁ respects orderly
      refine ⟨attempts s₁ _ respects ⟨isMove, rfl, rfl, isDestination, isValidity⟩, fun choice result s₂ _ answered => ?_⟩
      obtain ⟨state, chosen, rfl⟩ := watched_answer answered
      obtain rfl := asks_state chosen trivial
      cases result with
      | error failure =>
        obtain ⟨guaranteed, holds₂, queued₂⟩ := ends s₁ .call respects orderly
        exact ⟨guaranteed, holds₂, queued₂, fun ok => by cases ok⟩
      | ok done =>
        obtain ⟨guaranteed, holds₂, queued₂⟩ := ends s₁ (.queue operation.id) respects orderly
        exact ⟨guaranteed, holds₂, queued₂, fun _ => List.mem_cons_self⟩
    · exact ⟨holds, queued, fun ok => by cases ok⟩

/-- What has been performed leaves the queue. -/
theorem synchronized_keeps {operation : PendingOperation} {rest : List PendingOperation}
    (holds : Holds task accountId work none s) (queued : Queued accountId (operation :: rest) s)
    (performed : operation.id ∈ s.2.performed) :
    keeps localeCompare task (update (.synchronized accountId operation.id)) (fun result s' =>
      Holds task accountId work none s' ∧
        Queued accountId (if result.isOk then rest else operation :: rest) s') s := by
  refine update_keeps ?_ ?_ ?_
  · exact fun s₁ respects _ => respects.performed performed
  · intro s₁ s₂ error respects still _ _
    have holds₁ := holds.respects respects
    exact ⟨holds₁.respects still, (queued.respects holds respects).respects holds₁ still⟩
  · intro s₁ fresh persisted result respects orderly isFresh ran
    have holds₁ := holds.respects respects
    have queued₁ := queued.respects holds respects
    have effect : persisted = withoutOperation s₁.1.persisted operation.id := Commit.run_effect ran
    have works : Works accountId s₁ ({ s₁.1 with persisted := persisted, drawn := fresh :: s₁.1.drawn }, s₁.2) :=
      works_operation id orderly queued₁.head_mem (by rw [effect]; rfl) (by rw [effect]; rfl) (fun _ => rfl)
        (fun _ => rfl) (Or.inl (by rw [effect]; rfl))
    refine ⟨works.guar orderly holds₁.holder, holds₁.works works ?_, ?_⟩
    · intro item member
      exact ⟨item, by rwa [effect] at member, rfl⟩
    · exact queued_without orderly queued₁ (by rw [effect]; rfl) rfl

theorem operationFailed_keeps {operation : PendingOperation} {rest : List PendingOperation}
    (holds : Holds task accountId work none s) (queued : Queued accountId (operation :: rest) s) :
    keeps localeCompare task (update (.operationFailed operation.id)) (fun _ => Holds task accountId work none) s := by
  refine update_keeps ?_ ?_ ?_
  · exact fun _ _ _ => trivial
  · exact fun s₁ s₂ error respects still _ _ => (holds.respects respects).respects still
  · intro s₁ fresh persisted result respects orderly isFresh ran
    have holds₁ := holds.respects respects
    have effect : persisted = { s₁.1.persisted with
        pendingOperations := Keyed.edit PendingOperation.id operation.id
          (fun item => { item with attempts := item.attempts + 1 }) s₁.1.persisted.pendingOperations } :=
      Commit.run_effect ran
    have works : Works accountId s₁ ({ s₁.1 with persisted := persisted, drawn := fresh :: s₁.1.drawn }, s₁.2) :=
      works_operation (fun item => { item with attempts := item.attempts + 1 }) orderly
        (queued.respects holds respects).head_mem (by rw [effect]) (by rw [effect]) (fun _ => rfl) (fun _ => rfl)
        (Or.inr (by rw [effect]))
    refine ⟨works.guar orderly holds₁.holder, holds₁.works works fun item member => ?_⟩
    exact ⟨item, by rwa [effect] at member, rfl⟩

/-- The first loop of a replay takes the queue in order. -/
theorem replayOperations_keeps {account : Account} (snapshot : PersistedState) (operations : List PendingOperation)
    (holds : Holds task account.id .replay none s) (queued : Queued account.id operations s) :
    keeps localeCompare task (replayOperations account snapshot operations)
      (fun _ => Holds task account.id .replay none) s := by
  induction operations generalizing s with
  | nil => exact holds
  | cons operation operations ih =>
    unfold replayOperations
    split
    · exact holds
    split
    · exact holds
    rename_i tried
    have attempt := @performPendingOperation_keeps localeCompare s task .replay account operation operations
      holds queued (fun _ => Nat.not_le.1 tried)
    have stops : ∀ {s₁ : Watched}, Holds task account.id .replay none s₁ →
        Queued account.id (operation :: operations) s₁ →
        keeps localeCompare task (do
          let _ ← update (.operationFailed operation.id)
          return false) (either (fun performed s₂ => keeps localeCompare task
            (if performed = true then replayOperations account snapshot operations else return ())
            (fun _ => Holds task account.id .replay none) s₂) (fun _ => Holds task account.id .replay none)) s₁ := by
      intro s₁ holds₁ queued₁
      refine meets_seq (meets_mono (operationFailed_keeps holds₁ queued₁) fun result s₂ holds₂ => ?_)
      cases result with
      | error error => exact holds₂
      | ok done => exact holds₂
    refine meets_seq (meets_catching (meets_seq (meets_mono attempt fun result s₁ after => ?_)))
    obtain ⟨holds₁, queued₁, performed⟩ := after
    cases result with
    | error error => exact stops holds₁ queued₁
    | ok done =>
      refine meets_seq (meets_mono (synchronized_keeps holds₁ queued₁ (performed rfl)) fun result s₂ after => ?_)
      obtain ⟨holds₂, queued₂⟩ := after
      cases result with
      | ok done => exact ih holds₂ queued₂
      | error error => exact stops holds₂ queued₂

/-- An item of the account has been taken over by the server. -/
theorem accepted_guar {item : OutboxItem} {rest : List OutboxItem} {draft : ComposeDraft} (orderly : Orderly s)
    (holds : Holds task accountId work none s) (waiting : Waiting accountId (item :: rest) s) :
    contract.guar task s (s.1, { s.2 with
      delivered := draft :: s.2.delivered, accepted := (accountId, item.id) :: s.2.accepted }) := by
  have elsewhere : ∀ other id, other ≠ accountId →
      ((other, id) ∈ (accountId, item.id) :: s.2.accepted ↔ (other, id) ∈ s.2.accepted) := by
    intro other id different
    simp [different]
  refine ⟨⟨orderly.pendingIds, orderly.outboxIds, orderly.pendingDrawn, orderly.outboxDrawn, orderly.begunDrawn, ?_,
    orderly.flights, ?_⟩, ?_⟩
  · intro entry member
    rcases List.mem_cons.1 member with rfl | old
    · exact orderly.outboxDrawn item (List.mem_of_mem_filter waiting.head_mem)
    · exact orderly.acceptedDrawn entry old
  · intro other free
    have different : other ≠ accountId := by
      rintro rfl
      have held : s.2.holder other = none := free
      rw [holds.holder] at held
      cases held
    intro noFailure waiting' member isOther
    rw [elsewhere other _ different]
    exact orderly.clean other free noFailure waiting' member isOther
  · intro other isOther
    refine ⟨rfl, fun _ _ => Iff.rfl, fun third work' held => ?_, List.Subset.refl _, List.subset_cons_self _ _, id⟩
    have different : third ≠ accountId := by
      rintro rfl
      rw [holds.holder] at held
      cases held
      exact isOther rfl
    exact ⟨rfl, fun id => elsewhere third id different, ⟨[], by simp⟩, ⟨[], by simp⟩⟩

/-- The task is about to deliver the first items of the Outbox. -/
structure Delivering (account : Account) (items : List OutboxItem) (task : Nat) (work : QueueWork)
    (excepted : Option Identifier) (s : Watched) : Prop where
  holds : Holds task account.id work excepted s
  waiting : Waiting account.id items s
  resolved : Resolved account.id s
  known : Known account.id account s

theorem Delivering.respects {s' : Watched} {account : Account} {items : List OutboxItem}
    {excepted : Option Identifier} (delivering : Delivering account items task work excepted s)
    (respects : Respects task s s') : Delivering account items task work excepted s' :=
  ⟨delivering.holds.respects respects, delivering.waiting.respects delivering.holds respects,
    delivering.resolved.respects delivering.holds respects, delivering.known.respects respects⟩

/-- The head of the Outbox is attempted; once the server has accepted it, it is the only one of which
that can be said. -/
theorem transmit_keeps {account : Account} {item : OutboxItem} {rest : List OutboxItem}
    {identity : Option MailIdentity} (delivering : Delivering account (item :: rest) task work none s)
    (limit : work = .replay → item.attempts < attemptLimit) :
    keeps localeCompare task (transmit (.queue item.id) account item.draft identity) (fun result s' =>
      Delivering account (item :: rest) task work (if result.isOk then some item.id else none) s' ∧
        ∀ sent, result = .ok sent → classifySendResult sent ≠ .rejected → item.draft ∈ s'.2.delivered) s := by
  intro s₁ respects orderly
  have delivering₁ := delivering.respects respects
  have holds₁ := delivering₁.holds
  refine ⟨?_, fun choice result s₂ _ answered => ?_⟩
  · obtain ⟨more, isOutbox⟩ := delivering₁.waiting
    refine ⟨work, item, rest ++ more, holds₁.holder, isOutbox, rfl, rfl, limit, delivering₁.resolved, ?_⟩
    exact fun noFailure => holds₁.clean noFailure item delivering₁.waiting.head_mem (by simp)
  obtain ⟨state, chosen, rfl⟩ := watched_answer answered
  obtain rfl := asks_state chosen trivial
  have weaker : Holds task account.id work (some item.id) s₁ :=
    ⟨holds₁.holder, holds₁.only, fun noFailure waiting member _ => holds₁.clean noFailure waiting member (by simp)⟩
  cases result with
  | error failure =>
    exact ⟨(grows_refl s₁).guar orderly task, delivering₁, fun sent ok => by cases ok⟩
  | ok sent =>
    by_cases rejected : classifySendResult sent = .rejected
    · have same : watch task (.sendMessage (.queue item.id) account item.draft identity) choice (.ok sent)
          s₁.1 s₁.2 = s₁.2 := by simp [watch, Watch.transmitted, rejected]
      rw [same]
      refine ⟨(grows_refl s₁).guar orderly task,
        ⟨weaker, delivering₁.waiting, delivering₁.resolved, delivering₁.known⟩, fun sent' ok accepted => ?_⟩
      cases ok
      exact absurd rejected accepted
    · have noted : watch task (.sendMessage (.queue item.id) account item.draft identity) choice (.ok sent)
          s₁.1 s₁.2 = { s₁.2 with
            delivered := item.draft :: s₁.2.delivered
            accepted := (account.id, item.id) :: s₁.2.accepted } := by
        simp [watch, Watch.transmitted, rejected]
      rw [noted]
      refine ⟨accepted_guar orderly holds₁ delivering₁.waiting,
        ⟨⟨holds₁.holder, holds₁.only, ?_⟩, delivering₁.waiting, delivering₁.resolved, delivering₁.known⟩,
        fun _ _ _ => List.mem_cons_self⟩
      intro noFailure waiting member isOther
      have older := holds₁.clean noFailure waiting member (by simp)
      have different : waiting.id ≠ item.id := fun same =>
        isOther (by simp [same, Except.isOk, Except.toBool])
      simp [older, different]

theorem find_first {α : Type} {q : α → Bool} (q' : α → Bool) {records : List α} {record : α} {later : List α}
    (isFirst : records.filter q = record :: later) (fits : q' record = true) :
    records.find? (fun record => q' record && q record) = some record := by
  rw [← List.head?_filter, ← List.filter_filter, isFirst]
  simp [fits]

theorem Waiting.findOutboxItem {item : OutboxItem} {rest : List OutboxItem}
    (waiting : Waiting accountId (item :: rest) s) :
    findOutboxItem s.1.persisted accountId item.id = some item := by
  obtain ⟨more, isOutbox⟩ := waiting
  have first := find_first (fun other : OutboxItem => decide (other.id = item.id)) isOutbox (by simp)
  simpa [AppService.findOutboxItem] using first

/-- What the server has answered for leaves the Outbox. -/
theorem delivered_keeps {account : Account} {item : OutboxItem} {rest : List OutboxItem} {sent : SendResult}
    (delivering : Delivering account (item :: rest) task work (some item.id) s)
    (taken : classifySendResult sent ≠ .rejected → item.draft ∈ s.2.delivered) :
    keeps localeCompare task (update (.delivered account.id item.id sent)) (fun result s' =>
      Holds task account.id work none s' ∧
        (result.isOk → Delivering account rest task work none s')) s := by
  refine update_keeps ?_ ?_ ?_
  · intro s₁ respects _
    have waiting₁ := (delivering.respects respects).waiting
    exact ⟨item, waiting₁.findOutboxItem, fun accepted => respects.delivered (taken accepted)⟩
  · intro s₁ s₂ error respects still _ why
    have delivering₁ := delivering.respects respects
    have holds₂ := delivering₁.holds.respects still
    refine ⟨⟨holds₂.holder, holds₂.only, fun noFailure => ?_⟩, fun ok => by cases ok⟩
    rcases why with failed | ⟨fresh, ran⟩
    · rw [failed] at noFailure
      cases noFailure
    · have known : requireAccount s₁.1.persisted account.id = .ok account := delivering₁.known
      simp [Commit.run, known, delivering₁.waiting.findOutboxItem, bind, Except.bind, pure, Except.pure] at ran
  · intro s₁ fresh persisted result respects orderly isFresh ran
    have delivering₁ := delivering.respects respects
    obtain ⟨queued, found, effect⟩ := Commit.run_effect ran
    obtain rfl : item = queued := Option.some.inj (delivering₁.waiting.findOutboxItem.symm.trans found)
    have accounts : persisted.accounts = s₁.1.persisted.accounts := by
      rw [effect]
      unfold PersistedState.delivered
      dsimp only
      split <;> rfl
    have pending : persisted.pendingOperations = s₁.1.persisted.pendingOperations := by
      rw [effect]
      unfold PersistedState.delivered
      dsimp only
      split <;> rfl
    have outbox : persisted.outbox = Keyed.without OutboxItem.id item.id s₁.1.persisted.outbox := by
      rw [effect]
      unfold PersistedState.delivered
      dsimp only
      split <;> rfl
    have works : Works account.id s₁ ({ s₁.1 with persisted := persisted, drawn := fresh :: s₁.1.drawn }, s₁.2) :=
      works_item id orderly delivering₁.waiting.head_mem accounts pending (fun _ => rfl) (fun _ => rfl)
        (Or.inl outbox)
    have left : ∀ waiting ∈ outboxOf persisted account.id,
        waiting ∈ outboxOf s₁.1.persisted account.id ∧ waiting.id ≠ item.id := by
      intro waiting member
      unfold outboxOf at member ⊢
      rw [outbox, Keyed.filter_without] at member
      exact Keyed.mem_without.1 member
    have holds₂ := delivering₁.holds.works works fun waiting member => ⟨waiting, (left waiting member).1, rfl⟩
    have clean : Holds task account.id work none
        ({ s₁.1 with persisted := persisted, drawn := fresh :: s₁.1.drawn }, s₁.2) := by
      refine ⟨holds₂.holder, holds₂.only, fun noFailure waiting member _ => ?_⟩
      exact holds₂.clean noFailure waiting member fun same => (left waiting member).2 (Option.some.inj same)
    refine ⟨works.guar orderly delivering₁.holds.holder, clean, fun _ => ⟨clean, ?_, ?_, ?_⟩⟩
    · exact waiting_without orderly delivering₁.waiting outbox rfl
    · intro operation member
      have same : pendingOf persisted account.id = pendingOf s₁.1.persisted account.id := by
        unfold pendingOf
        rw [pending]
      exact delivering₁.resolved operation (same ▸ member)
    · exact (requireAccount_same accounts account.id).trans delivering₁.known

theorem deliveryFailed_keeps {account : Account} {item : OutboxItem} {rest : List OutboxItem}
    (delivering : Delivering account (item :: rest) task work none s) :
    keeps localeCompare task (update (.deliveryFailed item.id)) (fun _ => Holds task account.id work none) s := by
  refine update_keeps ?_ ?_ ?_
  · exact fun _ _ _ => trivial
  · exact fun s₁ s₂ error respects still _ _ => (delivering.holds.respects respects).respects still
  · intro s₁ fresh persisted result respects orderly isFresh ran
    have delivering₁ := delivering.respects respects
    have effect : persisted = { s₁.1.persisted with
        outbox := Keyed.edit OutboxItem.id item.id (fun item => { item with attempts := item.attempts + 1 })
          s₁.1.persisted.outbox } := Commit.run_effect ran
    have works : Works account.id s₁ ({ s₁.1 with persisted := persisted, drawn := fresh :: s₁.1.drawn }, s₁.2) :=
      works_item (fun item => { item with attempts := item.attempts + 1 }) orderly delivering₁.waiting.head_mem
        (by rw [effect]) (by rw [effect]) (fun _ => rfl) (fun _ => rfl) (Or.inr (by rw [effect]))
    refine ⟨works.guar orderly delivering₁.holds.holder, delivering₁.holds.works works fun waiting member => ?_⟩
    have ids : (outboxOf persisted account.id).map (·.id) = (outboxOf s₁.1.persisted account.id).map (·.id) := by
      have filtered : outboxOf persisted account.id = Keyed.edit OutboxItem.id item.id
          (fun item => { item with attempts := item.attempts + 1 }) (outboxOf s₁.1.persisted account.id) := by
        rw [effect]
        exact Keyed.filter_edit _ (fun _ => rfl) orderly.outboxIds
      rw [filtered]
      exact Keyed.map_edit fun _ => rfl
    have isId : waiting.id ∈ (outboxOf s₁.1.persisted account.id).map (·.id) :=
      ids ▸ List.mem_map_of_mem member
    obtain ⟨earlier, isEarlier, same⟩ := List.mem_map.1 isId
    exact ⟨earlier, isEarlier, same⟩

theorem deliverOutboxItem_keeps {account : Account} {item : OutboxItem} {rest : List OutboxItem}
    (delivering : Delivering account (item :: rest) task work none s)
    (limit : work = .replay → item.attempts < attemptLimit) :
    keeps localeCompare task (deliverOutboxItem localeCompare account item) (fun result s' =>
      Holds task account.id work none s' ∧ (result.isOk → Delivering account rest task work none s')) s := by
  refine meets_seq (storeRead_keeps fun s₁ respects _ => ?_)
  have delivering₁ := delivering.respects respects
  refine meets_seq (meets_catching (meets_mono (transmit_keeps delivering₁ limit) fun result s₂ after => ?_))
  obtain ⟨delivering₂, taken⟩ := after
  cases result with
  | error error =>
    refine meets_seq (meets_mono (deliveryFailed_keeps delivering₂) fun result s₃ holds₃ => ?_)
    cases result with
    | error error => exact ⟨holds₃, fun ok => by cases ok⟩
    | ok done => exact ⟨holds₃, fun ok => by cases ok⟩
  | ok sent =>
    refine meets_seq (meets_mono (delivered_keeps delivering₂ (taken sent rfl)) fun result s₃ after => ?_)
    obtain ⟨holds₃, delivering₃⟩ := after
    cases result with
    | error error => exact ⟨holds₃, fun ok => by cases ok⟩
    | ok done => exact ⟨holds₃, fun _ => delivering₃ rfl⟩

/-- The second loop of a replay takes the Outbox in order. -/
theorem replayOutbox_keeps {account : Account} (items : List OutboxItem)
    (delivering : Delivering account items task .replay none s) :
    keeps localeCompare task (replayOutbox localeCompare account items)
      (fun _ => Holds task account.id .replay none) s := by
  induction items generalizing s with
  | nil => exact delivering.holds
  | cons item items ih =>
    unfold replayOutbox
    split
    · exact delivering.holds
    rename_i tried
    refine meets_seq (meets_catching (meets_seq ?_))
    refine meets_mono (deliverOutboxItem_keeps delivering fun _ => Nat.not_le.1 tried) fun result s₁ after => ?_
    obtain ⟨holds₁, delivering₁⟩ := after
    cases result with
    | error error => exact holds₁
    | ok sent => exact ih (delivering₁ rfl)

theorem replayPending_keeps {account : Account} (holds : Holds task account.id .replay none s)
    (known : Known account.id account s) :
    keeps localeCompare task (replayPending localeCompare account)
      (fun _ => Holds task account.id .replay none) s := by
  refine meets_seq (storeRead_keeps fun s₁ respects _ => ?_)
  have holds₁ := holds.respects respects
  have known₁ := known.respects respects
  have queued₁ : Queued account.id (s₁.1.persisted.pendingOperations.filter (·.accountId = account.id)) s₁ :=
    ⟨[], by simp [pendingOf]⟩
  refine meets_seq (meets_mono (known_keeps (replayOperations_keeps _ _ holds₁ queued₁) known₁) fun result s₂ after => ?_)
  obtain ⟨holds₂, known₂⟩ := after
  cases result with
  | error error => exact holds₂
  | ok done =>
    refine meets_seq (storeRead_keeps fun s₃ respects₃ _ => ?_)
    have holds₃ := holds₂.respects respects₃
    show keeps localeCompare task (if _ then _ else _) _ s₃
    split
    · exact holds₃
    · rename_i nonePending
      apply replayOutbox_keeps
      refine ⟨holds₃, ⟨[], by simp [outboxOf]⟩, fun operation member => ?_, known₂.respects respects₃⟩
      obtain ⟨isPending, owned⟩ := List.mem_filter.1 member
      exact absurd (List.any_eq_true.2 ⟨operation, isPending, owned⟩) nonePending

theorem queueHead_operation {p : PersistedState} {operation : PendingOperation}
    (head : assertQueueHead p accountId (.inl operation.id) = .ok ())
    (distinct : (p.pendingOperations.map (·.id)).Nodup) (isPending : operation ∈ p.pendingOperations) :
    ∃ later, pendingOf p accountId = operation :: later := by
  unfold assertQueueHead at head
  split at head
  · rename_i isHead
    unfold queueHead at isHead
    split at isHead
    · rename_i first found
      simp only [Option.some.injEq, Sum.inl.injEq] at isHead
      have same := Keyed.eq_of_key distinct (List.mem_of_find?_eq_some found) isPending isHead
      rw [← same]
      rw [← List.head?_filter] at found
      exact ⟨_, List.eq_cons_of_mem_head? found⟩
    · simp only [Option.map_eq_some_iff, reduceCtorEq, and_false, exists_false] at isHead
  · cases head

theorem queueHead_item {p : PersistedState} {item : OutboxItem}
    (head : assertQueueHead p accountId (.inr item.id) = .ok ())
    (distinct : (p.outbox.map (·.id)).Nodup) (isWaiting : item ∈ p.outbox) :
    pendingOf p accountId = [] ∧ ∃ later, outboxOf p accountId = item :: later := by
  unfold assertQueueHead at head
  split at head
  · rename_i isHead
    unfold queueHead at isHead
    split at isHead
    · cases isHead
    · rename_i none
      simp only [Option.map_eq_some_iff, Sum.inr.injEq] at isHead
      obtain ⟨first, found, named⟩ := isHead
      have same := Keyed.eq_of_key distinct (List.mem_of_find?_eq_some found) isWaiting named
      rw [← same]
      refine ⟨?_, ?_⟩
      · unfold pendingOf
        rw [List.filter_eq_nil_iff]
        exact List.find?_eq_none.1 none
      · rw [← List.head?_filter] at found
        exact ⟨_, List.eq_cons_of_mem_head? found⟩
  · cases head

theorem retryPendingOperation_keeps (operationId : Identifier) (idle : Idle task s) :
    keeps localeCompare task (retryPendingOperation accountId operationId) (fun _ => Idle task) s := by
  refine flight_keeps idle fun s₁ _ holds₁ => meets_seq (storeRead_keeps fun s₂ respects₂ orderly₂ => ?_)
  have holds₂ := holds₁.respects respects₂
  refine meets_seq (require_keeps ?_)
  cases known : requireAccount s₂.1.persisted accountId with
  | error error => exact holds₂
  | ok account =>
    obtain rfl := (requireAccount_ok known).2
    let heads (s : Watched) : Prop := Holds task account.id .retry none s ∧ ∀ operation,
      findOperation s₂.1.persisted account.id operationId = some operation →
      assertQueueHead s₂.1.persisted account.id (.inl operation.id) = .ok () → Queued account.id [operation] s
    have heads₂ : heads s₂ := by
      refine ⟨holds₂, fun operation found isHead => ?_⟩
      exact queueHead_operation isHead orderly₂.pendingIds (findOperation_id found).1
    have stable : ∀ s s', heads s → Respects task s s' → heads s' := fun s s' before respects =>
      ⟨before.1.respects respects, fun operation found isHead =>
        (before.2 operation found isHead).respects before.1 respects⟩
    refine meets_seq (meets_mono (plain_keeps (runtimeAccount_uses account trivial) stable heads₂) fun result s₃ heads₃ => ?_)
    cases result with
    | error error => exact heads₃.1
    | ok done =>
      cases found : findOperation s₂.1.persisted account.id operationId with
      | none => exact heads₃.1
      | some operation =>
        obtain rfl := (findOperation_id found).2.1
        refine meets_seq (require_keeps ?_)
        cases isHead : assertQueueHead s₂.1.persisted account.id (.inl operation.id) with
        | error error => exact heads₃.1
        | ok done =>
          have queued₃ := heads₃.2 operation found isHead
          simp only [either_ok]
          split
          · exact heads₃.1
          · have attempt := @performPendingOperation_keeps localeCompare s₃ task .retry account operation []
              heads₃.1 queued₃ (fun isReplay => by cases isReplay)
            have stops : ∀ {s₄ : Watched} (error : ServiceError), Holds task account.id .retry none s₄ →
                Queued account.id [operation] s₄ →
                keeps localeCompare task (do
                  let _ ← update (.operationFailed operation.id)
                  .throw (.shown error) : Service Unit) (fun _ => Holds task account.id .retry none) s₄ := by
              intro s₄ error holds₄ queued₄
              refine meets_seq (meets_mono (operationFailed_keeps holds₄ queued₄) fun result s₅ holds₅ => ?_)
              cases result with
              | error error => exact holds₅
              | ok done => exact holds₅
            refine meets_catching (meets_seq (meets_mono attempt fun result s₄ after => ?_))
            obtain ⟨holds₄, queued₄, performed⟩ := after
            cases result with
            | error error => exact stops error holds₄ queued₄
            | ok done =>
              refine meets_mono (synchronized_keeps holds₄ queued₄ (performed rfl)) fun result s₅ after => ?_
              cases result with
              | ok done => exact after.1
              | error error => exact stops error after.1 after.2

theorem discardPendingOperation_keeps (operationId : Identifier) (idle : Idle task s) :
    keeps localeCompare task (discardPendingOperation accountId operationId) (fun _ => Idle task) s := by
  refine flight_keeps idle fun s₁ _ holds₁ => update_keeps ?_ ?_ ?_
  · exact fun _ _ _ => trivial
  · exact fun s₂ s₃ error respects still _ _ => (holds₁.respects respects).respects still
  · intro s₂ fresh persisted result respects orderly isFresh ran
    have holds₂ := holds₁.respects respects
    obtain ⟨some, effect⟩ := Commit.run_effect ran
    obtain ⟨operation, found⟩ := Option.isSome_iff_exists.1 some
    obtain ⟨isPending, rfl, owned⟩ := findOperation_id found
    have works : Works accountId s₂ ({ s₂.1 with persisted := persisted, drawn := fresh :: s₂.1.drawn }, s₂.2) :=
      works_operation id orderly (mem_pendingOf isPending owned) (by rw [effect]; rfl) (by rw [effect]; rfl)
        (fun _ => rfl) (fun _ => rfl) (Or.inl (by rw [effect]; rfl))
    refine ⟨works.guar orderly holds₂.holder, holds₂.works works fun item member => ?_⟩
    exact ⟨item, by rwa [effect] at member, rfl⟩

theorem cancelOutbox_keeps (outboxId : Identifier) (idle : Idle task s) :
    keeps localeCompare task (cancelOutbox accountId outboxId) (fun _ => Idle task) s := by
  refine flight_keeps idle fun s₁ _ holds₁ => update_keeps ?_ ?_ ?_
  · exact fun _ _ _ => trivial
  · exact fun s₂ s₃ error respects still _ _ => (holds₁.respects respects).respects still
  · intro s₂ fresh persisted result respects orderly isFresh ran
    have holds₂ := holds₁.respects respects
    obtain ⟨item, found, effect⟩ := Commit.run_effect ran
    obtain ⟨isWaiting, rfl, owned⟩ := findOutboxItem_id found
    have outbox : persisted.outbox = Keyed.without OutboxItem.id item.id s₂.1.persisted.outbox := by
      rw [effect]
      unfold PersistedState.cancelled
      dsimp only
      split <;> rfl
    have works : Works accountId s₂ ({ s₂.1 with persisted := persisted, drawn := fresh :: s₂.1.drawn }, s₂.2) := by
      refine works_item id orderly (mem_outboxOf isWaiting owned) ?_ ?_ (fun _ => rfl) (fun _ => rfl) (Or.inl outbox)
      · rw [effect]
        unfold PersistedState.cancelled
        dsimp only
        split <;> rfl
      · rw [effect]
        unfold PersistedState.cancelled
        dsimp only
        split <;> rfl
    refine ⟨works.guar orderly holds₂.holder, holds₂.works works fun waiting member => ?_⟩
    have member' : waiting ∈ outboxOf persisted accountId := member
    unfold outboxOf at member' ⊢
    rw [outbox, Keyed.filter_without] at member'
    exact ⟨waiting, (Keyed.mem_without.1 member').1, rfl⟩

theorem retryOutbox_keeps (outboxId : Identifier) (idle : Idle task s) :
    keeps localeCompare task (retryOutbox localeCompare accountId outboxId) (fun _ => Idle task) s := by
  refine flight_keeps idle fun s₁ _ holds₁ => meets_seq (storeRead_keeps fun s₂ respects₂ orderly₂ => ?_)
  have holds₂ := holds₁.respects respects₂
  refine meets_seq (require_keeps ?_)
  cases known : requireAccount s₂.1.persisted accountId with
  | error error => exact holds₂
  | ok account =>
    obtain rfl := (requireAccount_ok known).2
    let heads (s : Watched) : Prop := Holds task account.id .retry none s ∧ ∀ item,
      findOutboxItem s₂.1.persisted account.id outboxId = some item →
      assertQueueHead s₂.1.persisted account.id (.inr item.id) = .ok () →
      Delivering account [item] task .retry none s
    have heads₂ : heads s₂ := by
      refine ⟨holds₂, fun item found isHead => ?_⟩
      obtain ⟨nonePending, isWaiting⟩ := queueHead_item isHead orderly₂.outboxIds (findOutboxItem_id found).1
      refine ⟨holds₂, isWaiting, fun operation member => ?_, known⟩
      rw [nonePending] at member
      cases member
    have stable : ∀ s s', heads s → Respects task s s' → heads s' := fun s s' before respects =>
      ⟨before.1.respects respects, fun item found isHead => (before.2 item found isHead).respects respects⟩
    refine meets_seq (meets_mono (plain_keeps (runtimeAccount_uses account trivial) stable heads₂) fun result s₃ heads₃ => ?_)
    cases result with
    | error error => exact heads₃.1
    | ok done =>
      cases found : findOutboxItem s₂.1.persisted account.id outboxId with
      | none => exact heads₃.1
      | some item =>
        obtain rfl := (findOutboxItem_id found).2.1
        refine meets_seq (require_keeps ?_)
        cases isHead : assertQueueHead s₂.1.persisted account.id (.inr item.id) with
        | error error => exact heads₃.1
        | ok done =>
          have delivering₃ := heads₃.2 item found isHead
          exact meets_mono (deliverOutboxItem_keeps delivering₃ fun isReplay => by cases isReplay)
            fun result s₄ after => after.1

theorem syncAccount_keeps (accountId : Identifier) (idle : Idle task s) :
    keeps localeCompare task (syncAccount localeCompare accountId) (fun _ => Idle task) s := by
  have stable : ∀ s s', Idle task s → Respects task s s' → Idle task s' := fun s s' idle respects =>
    idle.respects respects
  refine meets_seq (storeRead_keeps fun s₁ respects₁ _ => meets_seq (require_keeps ?_))
  have idle₁ := idle.respects respects₁
  cases known : requireAccount s₁.1.persisted accountId with
  | error error => exact idle₁
  | ok account =>
    obtain rfl := (requireAccount_ok known).2
    simp only [either_ok]
    split
    · exact idle₁
    have ready : keeps localeCompare task (runtimeAccount account)
        (fun _ s₂ => Idle task s₂ ∧ Known account.id account s₂) s₁ :=
      known_keeps (plain_keeps (runtimeAccount_uses account trivial) stable idle₁) known
    refine meets_seq (meets_mono ready fun result s₂ after => ?_)
    obtain ⟨idle₂, known₂⟩ := after
    cases result with
    | error error => exact idle₂
    | ok done =>
      refine meets_catching (meets_seq (meets_mono (flight_keeps idle₂ fun s₃ accounts holds₃ => ?_)
        fun result s₄ idle₄ => ?_))
      · exact replayPending_keeps holds₃ ((requireAccount_same accounts account.id).trans known₂)
      · cases result with
        | error error => exact idle₄
        | ok done =>
          refine meets_mono (plain_keeps ?_ stable idle₄) fun result s₅ idle₅ => ?_
          · refine (storeRead_uses trivial).bind fun state => (listFolders_uses account trivial).bind fun folders => ?_
            exact (listMessages_uses account _ trivial).bind fun batches => update_uses trivial
          · cases result <;> exact idle₅

/-- What the update of `sendMessage` adds to the Outbox is new. -/
theorem sent_grows {draft : ComposeDraft} {snapshot : Option ComposeDraft} {result : SendResult} {fresh : Identifier}
    {persisted : PersistedState} (isFresh : s.1.Fresh fresh)
    (effect : persisted = s.1.persisted.sent draft snapshot result fresh) :
    Grows s ({ s.1 with persisted := persisted, drawn := fresh :: s.1.drawn }, s.2) := by
  have others : persisted.accounts = s.1.persisted.accounts ∧
      persisted.pendingOperations = s.1.persisted.pendingOperations := by
    rw [effect]
    unfold PersistedState.sent
    dsimp only
    repeat' split
    all_goals exact ⟨rfl, rfl⟩
  have outbox : persisted.outbox = s.1.persisted.outbox ∨
      persisted.outbox = s.1.persisted.outbox ++ [⟨fresh, draft, 0⟩] := by
    rw [effect]
    unfold PersistedState.sent
    dsimp only
    repeat' split
    all_goals first | exact Or.inl rfl | exact Or.inr rfl
  refine ⟨others.1, rfl, rfl, rfl, rfl, List.subset_cons_self _ _, List.Subset.refl _, List.Subset.refl _, id,
    ⟨none, by simp [others.2], by simp⟩, ?_⟩
  rcases outbox with same | added
  · exact ⟨none, by simp [same], by simp⟩
  · refine ⟨some ⟨fresh, draft, 0⟩, by simp [added], ?_⟩
    intro item member
    cases member
    exact ⟨isFresh.1, List.mem_cons_self⟩

/-- Why the update of `sendMessage` may forget the draft. -/
def Taken (draft : ComposeDraft) (sent : SendResult) (s : Watched) : Prop :=
  sent.queued = true ∨ classifySendResult sent = .rejected ∨ draft ∈ s.2.delivered ∨
    IsDemo s.1.persisted draft.accountId

theorem Taken.respects {draft : ComposeDraft} {sent : SendResult} {s' : Watched} (taken : Taken draft sent s)
    (respects : Respects task s s') : Taken draft sent s' := by
  rcases taken with queued | rejected | delivered | ⟨account, known, demo⟩
  · exact Or.inl queued
  · exact Or.inr (Or.inl rejected)
  · exact Or.inr (Or.inr (Or.inl (respects.delivered delivered)))
  · exact Or.inr (Or.inr (Or.inr ⟨account, (requireAccount_same respects.accounts _).trans known, demo⟩))

theorem idle_stable (task : Nat) : ∀ s s', Idle task s → Respects task s s' → Idle task s' :=
  fun _ _ idle respects => idle.respects respects

/-- A message that is sent at once has been taken over, rejected, or is to be queued. -/
theorem attemptSend_keeps {account : Account} {draft : ComposeDraft} {identity : Option MailIdentity}
    (idle : Idle task s) (known : Known draft.accountId account s) :
    keeps localeCompare task (attemptSend account draft identity) (fun result s' =>
      Idle task s' ∧ ∀ sent, result = .ok sent → Taken draft sent s') s := by
  have queues : ∀ {s' : Watched}, Idle task s' → Idle task s' ∧
      ∀ sent, (Except.ok ⟨[], [], true⟩ : Except ServiceError SendResult) = .ok sent → Taken draft sent s' := by
    intro s' idle'
    refine ⟨idle', fun sent ok => ?_⟩
    cases ok
    exact Or.inl rfl
  unfold attemptSend
  split
  · rename_i demo
    refine ⟨idle, fun sent ok => ?_⟩
    exact Or.inr (Or.inr (Or.inr ⟨account, known, demo⟩))
  · refine meets_catching (meets_seq ?_)
    refine meets_mono (plain_keeps (runtimeAccount_uses account trivial) (idle_stable task) idle) fun result s₁ idle₁ => ?_
    cases result with
    | error error => exact queues idle₁
    | ok done =>
      intro s₂ respects₂ orderly₂
      have idle₂ := idle₁.respects respects₂
      refine ⟨trivial, fun choice result s₃ _ answered => ?_⟩
      have grows := plain_grows answered (rfl : Origin.call = Origin.call)
      have idle₃ := idle₂.respects (grows.respects orderly₂ task)
      obtain ⟨state, chosen, rfl⟩ := watched_answer answered
      obtain rfl := asks_state chosen trivial
      refine ⟨grows.guar orderly₂ task, ?_⟩
      cases result with
      | error failure => exact queues idle₃
      | ok sent =>
        refine ⟨idle₃, fun sent' ok => ?_⟩
        cases ok
        by_cases rejected : classifySendResult sent = .rejected
        · exact Or.inr (Or.inl rejected)
        · exact Or.inr (Or.inr (Or.inl (by simp [watch, Watch.transmitted, rejected])))

theorem sendMessage_keeps (parsedDraft : ComposeDraft) (idle : Idle task s) :
    keeps localeCompare task (sendMessage localeCompare parsedDraft) (fun _ => Idle task) s := by
  refine meets_seq (storeRead_keeps fun s₁ respects₁ _ => ?_)
  have idle₁ := idle.respects respects₁
  have authorizes : (authorizeDraft parsedDraft (findDraft s₁.1.persisted.drafts parsedDraft.id) true).Uses Plain :=
    .call _ _ trivial fun result => orThrow_uses id result
  let before (s : Watched) : Prop := Idle task s ∧ s.1.persisted.accounts = s₁.1.persisted.accounts
  have stable : ∀ s s', before s → Respects task s s' → before s' := fun s s' held respects =>
    ⟨held.1.respects respects, respects.accounts.trans held.2⟩
  have before₁ : before s₁ := ⟨idle₁, rfl⟩
  refine meets_seq (meets_mono (plain_keeps authorizes stable before₁) fun result s₂ after => ?_)
  obtain ⟨idle₂, accounts⟩ := after
  cases result with
  | error error => exact idle₂
  | ok draft =>
    refine meets_seq (require_keeps ?_)
    cases known : requireAccount s₁.1.persisted draft.accountId with
    | error error => exact idle₂
    | ok account =>
      have known₂ : Known draft.accountId account s₂ := (requireAccount_same accounts draft.accountId).trans known
      simp only [either_ok]
      split
      · exact idle₂
      · refine meets_seq (meets_mono (attemptSend_keeps idle₂ known₂) fun result s₃ after => ?_)
        obtain ⟨idle₃, taken⟩ := after
        cases result with
        | error error => exact idle₃
        | ok sent =>
          have commits : keeps localeCompare task
              (update (.sent draft (findDraft s₁.1.persisted.drafts parsedDraft.id) sent)) (fun _ => Idle task) s₃ := by
            refine update_keeps ?_ ?_ ?_
            · exact fun s₄ respects _ => (taken sent rfl).respects respects
            · exact fun s₄ s₅ error respects still _ _ => (idle₃.respects respects).respects still
            · intro s₄ fresh persisted result respects orderly isFresh ran
              have grows := sent_grows isFresh (Commit.run_effect ran)
              exact ⟨grows.guar orderly task, (idle₃.respects respects).respects (grows.respects orderly task)⟩
          refine meets_seq (meets_mono commits fun result s₄ idle₄ => ?_)
          cases result with
          | error error => exact idle₄
          | ok done => exact idle₄

end Operations

section Requests

/-- Every request keeps the contract. -/
theorem program_keeps (task : Nat) (request : Request) {s : Watched} (idle : Idle task s) :
    keeps localeCompare task (request.program localeCompare) (fun _ => Idle task) s := by
  have plainly : ∀ {p : Service Unit}, p.Uses Plain → keeps localeCompare task p (fun _ => Idle task) s :=
    fun uses => plain_keeps uses (idle_stable task) idle
  have directly : ∀ {p : Service Unit}, p.Uses (fun op => Direct op ∧ Draftless op) →
      keeps localeCompare task p (fun _ => Idle task) s := fun uses => plainly (uses.mono fun _ both => both.1.1)
  have ignoring : ∀ {α : Type} {p : Service α}, keeps localeCompare task p (fun _ => Idle task) s →
      keeps localeCompare task (ignore p) (fun _ => Idle task) s := by
    intro α p kept
    refine meets_seq (meets_mono kept fun result s' idle' => ?_)
    cases result with
    | error error => exact idle'
    | ok value => exact idle'
  cases request with
  | syncAccount accountId => exact syncAccount_keeps accountId idle
  | getMessage accountId folderPath uid => exact plainly ((ignore_uses (getMessage_uses accountId folderPath uid)).mono fun _ => And.left)
  | setMessageFlags accountId folderPath uid patch => exact directly (setMessageFlags_uses accountId folderPath uid patch)
  | moveMessage accountId folderPath uid destination =>
    exact directly (moveMessage_uses accountId folderPath uid destination)
  | markFolderRead accountId folderPath => exact directly (ignore_uses (markFolderRead_uses accountId folderPath))
  | setMessageTags accountId folderPath uid tagIds =>
    exact directly (ignore_uses (setMessageTags_uses localeCompare accountId folderPath uid tagIds))
  | sendMessage draft => exact ignoring (sendMessage_keeps draft idle)
  | saveDraft draft => exact plainly ((ignore_uses (saveDraft_uses draft)).mono fun _ => And.left)
  | deleteDraft accountId draftId => exact plainly (ignore_uses (update_uses trivial))
  | retryPendingOperation accountId operationId => exact retryPendingOperation_keeps operationId idle
  | discardPendingOperation accountId operationId => exact discardPendingOperation_keeps operationId idle
  | cancelOutbox accountId outboxId => exact ignoring (cancelOutbox_keeps outboxId idle)
  | retryOutbox accountId outboxId => exact ignoring (retryOutbox_keeps outboxId idle)

end Requests

end AppService
