import MaterialEmail.AppService.Tasks

/-! Queued work reaches the server in the order of its account's queue, one item at a time, whatever runs
beside it. -/
namespace AppService

open Interrupted Interleaved

variable {localeCompare : String → String → Ordering}

/-- The account and the queue entry that a request to the server is made for. -/
def Op.queuedWork : Op → Option (Identifier × Identifier)
  | .setFlags (.queue id) account _ _ _ _ => some (account.id, id)
  | .moveMessage (.queue id) account _ _ _ _ => some (account.id, id)
  | .sendMessage (.queue id) account _ _ => some (account.id, id)
  | _ => none

/-- Updates of the store succeed; a mutator may still throw. -/
def storeWorks : Conditions Op Request Choice Watched where
  starts _ _ := True
  allowed _ op choice _ := match op, choice with
    | .commit _, .storeFails => False
    | _, _ => True

instance (request : Request) (s : Watched) : Decidable (storeWorks.starts request s) := .isTrue trivial

/-- The update that an answer refuses. -/
def refused : Op → Choice → Bool
  | .commit _, .storeFails => true
  | _, _ => false

theorem storeWorks_allowed_iff {task : Nat} {op : Op} {choice : Choice} {s : Watched} :
    refused op choice = false ↔ storeWorks.allowed task op choice s := by
  unfold refused storeWorks
  dsimp only
  split <;> simp

instance (task : Nat) (op : Op) (choice : Choice) (s : Watched) : Decidable (storeWorks.allowed task op choice s) :=
  decidable_of_iff _ storeWorks_allowed_iff

/-- The queues as the store may hold them: their entries have identifiers of their own. -/
structure PersistedState.Distinct (persisted : PersistedState) : Prop where
  pendingIds : (persisted.pendingOperations.map (·.id)).Nodup
  outboxIds : (persisted.outbox.map (·.id)).Nodup

/-- What holds of the requests for queued work that are under way. -/
structure Disciplined (w : World Op Reply ServiceError Watched) : Prop where
  flags : ∀ task id account folderPath uid patch uidValidity next,
    w.tasks[task]? = some (.call (.setFlags (.queue id) account folderPath uid patch uidValidity) next) →
    ∃ work operation later, AttemptsOperation w.state task account.id id
      (fun operation => operation.kind = .flags ∧ operation.folderPath = folderPath ∧ operation.uid = uid ∧
        operation.patch = some patch ∧ operation.uidValidity = some uidValidity) work operation later
  moves : ∀ task id account folderPath uid destination uidValidity next,
    w.tasks[task]? = some (.call (.moveMessage (.queue id) account folderPath uid destination uidValidity) next) →
    ∃ work operation later, AttemptsOperation w.state task account.id id
      (fun operation => operation.kind = .move ∧ operation.folderPath = folderPath ∧ operation.uid = uid ∧
        operation.destination = some destination ∧ operation.uidValidity = some uidValidity) work operation later
  sends : ∀ task id account draft identity next,
    w.tasks[task]? = some (.call (.sendMessage (.queue id) account draft identity) next) →
    ∃ work item later, AttemptsItem w.state task account.id id draft work item later ∧
      (account.id, id) ∉ w.state.2.accepted
  alone : ∀ (task other : Nat) op op' next next' accountId id id', w.tasks[task]? = some (.call op next) →
    w.tasks[other]? = some (.call op' next') → Op.queuedWork op = some (accountId, id) →
    Op.queuedWork op' = some (accountId, id') → task = other

theorem initial_orderly {persisted : PersistedState} (distinct : persisted.Distinct) :
    Orderly (State.initial persisted, Watch.initial) where
  pendingIds := distinct.pendingIds
  outboxIds := distinct.outboxIds
  pendingDrawn operation member := by
    have listed : operation.id ∈ persisted.pendingOperations.map (·.id) := List.mem_map_of_mem member
    simp [State.initial, PersistedState.identifiers, listed]
  outboxDrawn item member := by
    have listed : item.id ∈ persisted.outbox.map (·.id) := List.mem_map_of_mem member
    simp [State.initial, PersistedState.identifiers, listed]
  begunDrawn _ _ member := by cases member
  acceptedDrawn _ member := by cases member
  flights accountId := by simp [State.initial, Watch.initial]
  clean _ _ _ _ _ _ member := by cases member

theorem initial_kept {persisted : PersistedState} (distinct : persisted.Distinct) :
    (⟨(State.initial persisted, Watch.initial), []⟩ : World Op Reply ServiceError Watched).Kept
      (watched localeCompare) contract :=
  idle_kept (initial_orderly distinct) fun _ _ _ held => by cases held

theorem storeFailed_step {task : Nat} {op : Op} {choice : Choice} {reply : Reply op} {s s' : Watched}
    (works : s.2.storeFailed = false) (allowed : storeWorks.allowed task op choice s)
    (answered : (watched localeCompare).answer task op choice s = some (reply, s')) : s'.2.storeFailed = false := by
  obtain ⟨state, -, rfl⟩ := watched_answer answered
  cases op with
  | commit c =>
    cases choice with
    | storeFails => exact allowed.elim
    | _ => exact works
  | enter accountId work => cases reply <;> exact works
  | setFlags origin account folderPath uid patch uidValidity =>
    cases reply <;> cases origin <;> exact works
  | moveMessage origin account folderPath uid destination uidValidity =>
    cases reply <;> cases origin <;> exact works
  | sendMessage origin account draft identity =>
    cases reply with
    | error failure => exact works
    | ok sent =>
      show (s.2.transmitted origin account.id draft sent).storeFailed = false
      unfold Watch.transmitted
      split
      · exact works
      · cases origin <;> exact works
  | _ => exact works

theorem queuedWork_holder {s : Watched} {task : Nat} {op : Op} {accountId id : Identifier}
    (demanded : demand task op s) (queued : op.queuedWork = some (accountId, id)) :
    ∃ work, s.2.holder accountId = some (task, work) := by
  cases op with
  | setFlags origin account folderPath uid patch uidValidity =>
    cases origin with
    | call => cases queued
    | queue queueId =>
      cases queued
      obtain ⟨work, operation, later, attempts⟩ := demanded
      exact ⟨work, attempts.holder⟩
  | moveMessage origin account folderPath uid destination uidValidity =>
    cases origin with
    | call => cases queued
    | queue queueId =>
      cases queued
      obtain ⟨work, operation, later, attempts⟩ := demanded
      exact ⟨work, attempts.holder⟩
  | sendMessage origin account draft identity =>
    cases origin with
    | call => cases queued
    | queue queueId =>
      cases queued
      obtain ⟨work, item, later, attempts⟩ := demanded
      exact ⟨work, attempts.holder⟩
  | _ => cases queued

theorem kept_disciplined {w : World Op Reply ServiceError Watched} (kept : w.Kept (watched localeCompare) contract)
    (works : w.state.2.storeFailed = false) : Disciplined w where
  flags _ _ _ _ _ _ _ _ due := kept.demand contract_lawful due
  moves _ _ _ _ _ _ _ _ due := kept.demand contract_lawful due
  sends task id account draft identity next due := by
    obtain ⟨work, item, later, attempts⟩ := kept.demand contract_lawful due
    exact ⟨work, item, later, attempts, attempts.unsent works⟩
  alone task other op op' next next' accountId id id' due due' queued queued' := by
    obtain ⟨work, held⟩ := queuedWork_holder (kept.demand contract_lawful due) queued
    obtain ⟨work', held'⟩ := queuedWork_holder (kept.demand contract_lawful due') queued'
    rw [held] at held'
    cases held'
    rfl

/-- In every run, from any store, queued work is attempted in the order of its queue. -/
theorem queued_work_disciplined (localeCompare : String → String → Ordering) (persisted : PersistedState)
    (distinct : persisted.Distinct) (events : List (Event Request Choice))
    (w : World Op Reply ServiceError Watched)
    (ran : World.run (watched localeCompare) (Request.program localeCompare)
      ⟨(State.initial persisted, Watch.initial), []⟩ events = some w)
    (admitted : World.Admitted (watched localeCompare) storeWorks (Request.program localeCompare)
      ⟨(State.initial persisted, Watch.initial), []⟩ events) : Disciplined w := by
  have invariant : w.Kept (watched localeCompare) contract ∧ w.state.2.storeFailed = false := by
    apply @run_invariant _ _ _ _ _ _ _ _ storeWorks _ contract_lawful ?_ ?_ ?_ (fun s => s.2.storeFailed = false) ?_
      ⟨(State.initial persisted, Watch.initial), []⟩ w events (initial_kept distinct) rfl admitted ran
    · exact fun task request s _ idle _ => program_keeps task request idle
    · exact fun _ _ _ => trivial
    · exact fun _ _ _ _ _ => trivial
    · exact fun task op choice reply s s' _ _ works allowed answered => storeFailed_step works allowed answered
  exact kept_disciplined invariant.1 invariant.2

/-- A message is marked as read while the server cannot be reached; a refresh then tries again. -/
def queuedThenReplayed : List (Event Request Choice) :=
  [.start (.setMessageFlags someAccount.id inboxPath 1 ⟨some false, none⟩), .act 0 .proceeds,
    .act 0 (.refused (.failed "offline")), .act 0 (.draws ⟨"0", zero_filled⟩), .start (.syncAccount someAccount.id),
    .act 1 .proceeds, .act 1 .proceeds, .act 1 .proceeds, .act 1 .proceeds]

theorem queuedThenReplayed_disciplined :
    ∃ w, World.run (watched compare) (Request.program compare) ⟨(State.initial oneMessage, Watch.initial), []⟩
        queuedThenReplayed = some w ∧
      (w.tasks.map fun task => (due task).map Op.queuedWork) =
        [none, some (some (someAccount.id, ⟨"0", by decide⟩))] ∧ Disciplined w := by
  have ran : (World.run (watched compare) (Request.program compare)
      ⟨(State.initial oneMessage, Watch.initial), []⟩ queuedThenReplayed).isSome := by decide
  have ends : ∀ w ∈ World.run (watched compare) (Request.program compare)
      ⟨(State.initial oneMessage, Watch.initial), []⟩ queuedThenReplayed,
      (w.tasks.map fun task => (due task).map Op.queuedWork) =
        [none, some (some (someAccount.id, ⟨"0", by decide⟩))] := by decide
  obtain ⟨w, ran⟩ := Option.isSome_iff_exists.1 ran
  exact ⟨w, ran, ends w ran, queued_work_disciplined compare oneMessage ⟨by decide, by decide⟩ queuedThenReplayed w ran
    (by decide)⟩

end AppService
