import MaterialEmail.AtomicJsonStore.Chain

/-! The lock protocol over whole runs: any interleaving of any number of calls, each process
free to die at any operation. -/
namespace AtomicJsonStore

open Interrupted

namespace Machine

variable {D T R : Type} {config : Config D T} {m m' : Machine D T R} {token : Token}
  {task : Task D T R} {phase : Phase T R}

def result? (phase : Phase T R) : Option (Except StoreError (Option R)) :=
  match phase with
  | .releasing result => some result
  | .unlocking result => some result
  | .settled result => some result
  | _ => none

def begun (phase : Phase T R) : Bool :=
  match phase with
  | .updating _ => true
  | phase => (result? phase).isSome

def outside (phase : Phase T R) : Bool :=
  match phase with
  | .loading _ => false
  | .updating _ => false
  | _ => true

theorem ended_outside (ended : (result? phase).isSome) : outside phase ∧ begun phase := by
  cases phase <;> first | exact ⟨rfl, rfl⟩ | cases ended

/-- The store as a task inside sees it. -/
def insideView (m : Machine D T R) (task : Task D T R) : State T :=
  ⟨m.directory, m.memory task.store, true⟩

/-- The update of a task that has got past its load. -/
def Began (m : Machine D T R) (update : Token × Mutator D T R) : Prop :=
  ∃ task, m.tasks update.1 = some task ∧ task.request = .mutate update.2 ∧ begun task.phase

/-- What is known of a task: where it stands in the critical section, and that its answer is right. -/
structure Doing (config : Config D T) (m : Machine D T R) (token : Token) (task : Task D T R) : Prop where
  loading : ∀ program, task.phase = .loading program → task.pid ∉ m.dead →
    Within program ∧ cwp config m.ledger program (Loads config m.ledger) (m.insideView task)
  updating : ∀ program, task.phase = .updating program → task.pid ∉ m.dead →
    Within program ∧ m.ledger.writer = task.request.writer token ∧
      ∃ entry, m.ledger.entries.getLast? = some entry ∧ cwp config m.ledger program
        (Finishes config m.ledger task.request entry.envelope) (m.insideView task)
  fulfilled : ∀ result mutator, result? task.phase = some (.ok result) →
    task.request = .mutate mutator → Fulfils config m.ledger.entries token mutator result

structure ChainInvariant (config : Config D T) (m : Machine D T R) : Prop where
  lock : LockInvariant m
  coherent : Coherent config m.ledger m.slots
  chained : Chained config m.ledger.entries
  doing : ∀ token task, m.tasks token = some task → Doing config m token task
  began : ∀ entry ∈ m.ledger.entries, ∀ update, entry.update = some update → m.Began update
  writer : ∀ token mutator, m.ledger.writer = some (token, mutator) →
    m.Began (token, mutator) ∧ token ∉ updaters m.ledger.entries
  once : (updaters m.ledger.entries).Nodup

structure Aside (m m' : Machine D T R) : Prop where
  directory : m'.directory = m.directory
  memory : m'.memory = m.memory
  ledger : m'.ledger = m.ledger
  dead : ∀ pid, pid ∈ m.dead → pid ∈ m'.dead

theorem Doing.aside (aside : Aside m m') (doing : Doing config m token task) :
    Doing config m' token task := by
  have view : m'.insideView task = m.insideView task := by
    simp [insideView, aside.directory, aside.memory]
  constructor
  · intro program phase alive
    rw [aside.ledger, view]
    exact doing.loading program phase fun dead => alive (aside.dead _ dead)
  · intro program phase alive
    rw [aside.ledger, view]
    exact doing.updating program phase fun dead => alive (aside.dead _ dead)
  · intro result mutator ended request
    rw [aside.ledger]
    exact doing.fulfilled result mutator ended request

theorem Doing.outside (isOutside : outside task.phase)
    (fulfilled : ∀ result mutator, result? task.phase = some (.ok result) →
      task.request = .mutate mutator → Fulfils config m.ledger.entries token mutator result) :
    Doing config m token task := by
  refine ⟨?_, ?_, fulfilled⟩
  · intro program isLoading
    rw [isLoading] at isOutside
    cases isOutside
  · intro program isUpdating
    rw [isUpdating] at isOutside
    cases isOutside

theorem Began.become {update : Token × Mutator D T R} (began : m.Began update)
    (found : m.tasks token = some task) (tasks : m'.tasks = m.tasks)
    (kept : begun task.phase → begun phase) : (m'.become token task phase).Began update := by
  obtain ⟨old, foundOld, request, isLoaded⟩ := began
  by_cases same : update.1 = token
  · rw [same, found] at foundOld
    cases foundOld
    exact ⟨{ task with phase := phase }, by simp [become_tasks, same], request, kept isLoaded⟩
  · exact ⟨old, by simp [become_tasks, same, tasks, foundOld], request, isLoaded⟩

theorem Doing.become (tasks : m'.tasks = m.tasks)
    (others : ∀ other old, other ≠ token → m.tasks other = some old → Doing config m' other old)
    (actor : Doing config m' token { task with phase := phase }) (other : Token) (new : Task D T R)
    (found : (m'.become token task phase).tasks other = some new) :
    Doing config (m'.become token task phase) other new := by
  have aside : Aside m' (m'.become token task phase) := ⟨rfl, rfl, rfl, fun _ dead => dead⟩
  rw [become_tasks] at found
  by_cases same : other = token
  · simp only [same, ↓reduceIte, Option.some.injEq] at found
    subst found
    rw [same]
    exact actor.aside aside
  · simp only [same, ↓reduceIte, tasks] at found
    exact (others other new same found).aside aside

/-- The invariant after a step of one task that notes nothing. -/
theorem ChainInvariant.become (inv : ChainInvariant config m) (found : m.tasks token = some task)
    (tasks : m'.tasks = m.tasks) (ledger : m'.ledger = m.ledger)
    (lock : LockInvariant (m'.become token task phase)) (coherent : Coherent config m'.ledger m'.slots)
    (others : ∀ other old, other ≠ token → m.tasks other = some old → Doing config m' other old)
    (actor : Doing config m' token { task with phase := phase })
    (kept : begun task.phase → begun phase) :
    ChainInvariant config (m'.become token task phase) := by
  have same : (m'.become token task phase).ledger = m.ledger := ledger
  refine ⟨lock, coherent, ?_, Doing.become tasks others actor, ?_, ?_, ?_⟩ <;> rw [same]
  · exact inv.chained
  · exact fun entry member update began => (inv.began entry member update began).become found tasks kept
  · intro other mutator writer
    obtain ⟨began, fresh⟩ := inv.writer other mutator writer
    exact ⟨began.become found tasks kept, fresh⟩
  · exact inv.once

theorem ChainInvariant.quiet (inv : ChainInvariant config m) (found : m.tasks token = some task)
    (aside : Aside m m') (tasks : m'.tasks = m.tasks) (lock : LockInvariant (m'.become token task phase))
    (actor : Doing config m' token { task with phase := phase })
    (kept : begun task.phase → begun phase) :
    ChainInvariant config (m'.become token task phase) := by
  apply inv.become found tasks aside.ledger lock _ _ actor kept
  · have slots : m'.slots = m.slots := by simp [Machine.slots, aside.directory]
    rw [aside.ledger, slots]
    exact inv.coherent
  · intro other old _ foundOld
    exact (inv.doing other old foundOld).aside aside

/-- While a live task is inside, the others only keep their answers. -/
theorem ChainInvariant.others (inv : ChainInvariant config m) (found : m.tasks token = some task)
    (alive : task.pid ∉ m.dead) (held : task.phase.holds) (dead : m'.dead = m.dead)
    (entries : ∃ rest, m'.ledger.entries = m.ledger.entries ++ rest) (other : Token)
    (old : Task D T R) (different : other ≠ token) (foundOld : m.tasks other = some old) :
    Doing config m' other old := by
  have outside : old.pid ∉ m.dead → old.phase.holds → False := by
    intro aliveOld heldOld
    exact different (inv.lock.exclusive ⟨old, foundOld, aliveOld, heldOld⟩ ⟨task, found, alive, held⟩)
  constructor
  · intro program phase aliveOld
    rw [dead] at aliveOld
    exact (outside aliveOld (by rw [phase]; rfl)).elim
  · intro program phase aliveOld
    rw [dead] at aliveOld
    exact (outside aliveOld (by rw [phase]; rfl)).elim
  · intro result mutator ended request
    obtain ⟨rest, grown⟩ := entries
    rw [grown]
    exact ((inv.doing other old foundOld).fulfilled result mutator ended request).mono rest

theorem cwp_call {ledger : Ledger D T R} {op : Op T} {next : Reply T op → Store T α}
    {post : Except StoreError α → State T → Prop} {s : State T} (free : op.locks = false)
    (inside : cwp config ledger (.call op next) post s) (locked : s.locked = true) :
    cwp config ledger (next (reply op s)) post { effect op .after s with locked := true } ∧
      ∀ extent, Coherent config ledger (effect op extent s).slots := by
  have same : (effect op .after s).locked = true := by
    cases op with
    | acquireLock => cases free
    | releaseLock => cases free
    | file op => exact locked
    | assertLockOwnership => exact locked
    | getData => exact locked
    | setData envelope => exact locked
  refine ⟨?_, fun extent => inside.2.2 extent fun _ => trivial⟩
  have after := inside.1 trivial
  have eta : { effect op .after s with locked := true } = effect op .after s := by
    rw [← same]
  rw [eta]
  exact after

theorem ChainInvariant.view (inv : ChainInvariant config m) (found : m.tasks token = some task)
    (alive : task.pid ∉ m.dead) (held : task.phase.holds) :
    m.view token task = m.insideView task := by
  simp [Machine.view, insideView, inv.lock.holder token task found alive held]

/-- One operation inside, whichever half of the critical section it belongs to. -/
theorem ChainInvariant.perform {op : Op T} {next : Reply T op → Store T α}
    {half : Store T α → Phase T R} {post : Except StoreError α → State T → Prop}
    (inv : ChainInvariant config m) (found : m.tasks token = some task) (alive : task.pid ∉ m.dead)
    (held : task.phase.holds) (within : Within (.call op next))
    (inside : cwp config m.ledger (.call op next) post (m.insideView task))
    (lock : LockInvariant (m.perform token task op fun answer => half (next answer)))
    (kept : ∀ program, begun task.phase → begun (half program))
    (actor : ∀ (m' : Machine D T R) program, m'.ledger = m.ledger → Within program →
      cwp config m.ledger program post (m'.insideView task) →
      Doing config m' token { task with phase := half program }) :
    ChainInvariant config (m.perform token task op fun answer => half (next answer)) := by
  cases within with
  | call _ _ free rest =>
    obtain ⟨after, coherent⟩ := cwp_call free inside rfl
    unfold Machine.perform at lock ⊢
    rw [inv.view found alive held] at lock ⊢
    have tasks : (m.keep task (effect op .after (m.insideView task))).tasks = m.tasks := rfl
    have ledger : (m.keep task (effect op .after (m.insideView task))).ledger = m.ledger := rfl
    apply inv.become found tasks ledger lock (coherent .after) _ _ (kept _)
    · have dead : (m.keep task (effect op .after (m.insideView task))).dead = m.dead := rfl
      exact inv.others found alive held dead ⟨[], (List.append_nil _).symm⟩
    · apply actor (m.keep task (effect op .after (m.insideView task))) _ rfl (rest _)
      have view : (m.keep task (effect op .after (m.insideView task))).insideView task =
          { effect op .after (m.insideView task) with locked := true } := by
        simp [insideView, Machine.keep]
      rw [view]
      exact after

theorem ChainInvariant.idle (inv : ChainInvariant config m) (found : m.tasks token = some task)
    (aside : Aside m m') (tasks : m'.tasks = m.tasks) (lock : LockInvariant (m'.become token task phase))
    (isOutside : outside phase)
    (kept : begun task.phase → begun phase)
    (answers : ∀ result, result? phase = some (.ok result) → result? task.phase = some (.ok result)) :
    ChainInvariant config (m'.become token task phase) := by
  apply inv.quiet found aside tasks lock _ kept
  apply Doing.outside isOutside
  intro result mutator isResult request
  rw [aside.ledger]
  exact (inv.doing token task found).fulfilled result mutator (answers result isResult) request

section Steps

variable [DecidableEq T]

/-- A step that notes what a task inside has settled. -/
theorem ChainInvariant.noted {envelope : Envelope T} {writer : Option (Token × Mutator D T R)}
    (inv : ChainInvariant config m) (found : m.tasks token = some task) (alive : task.pid ∉ m.dead)
    (held : task.phase.holds) (follows : Follows config m.ledger envelope)
    (slots : m.slots = Slots.only envelope)
    (writes : ∀ other mutator, writer = some (other, mutator) → other = token ∧
      task.request = .mutate mutator ∧ begun task.phase = false ∧ begun phase)
    (lock : LockInvariant ((m.note envelope writer).become token task phase))
    (actor : Doing config (m.note envelope writer) token { task with phase := phase })
    (kept : begun task.phase → begun phase) :
    ChainInvariant config ((m.note envelope writer).become token task phase) := by
  have tasks : (m.note envelope writer).tasks = m.tasks := rfl
  have once : (updaters (m.ledger.note envelope writer).entries).Nodup :=
    note_once inv.once fun other mutator began => (inv.writer other mutator began).2
  have began : ∀ entry ∈ (m.ledger.note envelope writer).entries, ∀ update,
      entry.update = some update → m.Began update := by
    intro entry member update began
    rcases mem_note member with before | here
    · exact inv.began entry before update began
    · rw [here] at began
      exact (inv.writer update.1 update.2 began).1
  refine ⟨lock, ?_, inv.chained.note follows, ?_, ?_, ?_, once⟩
  · obtain ⟨entry, last, rfl⟩ := note_last m.ledger envelope writer
    show Coherent config (m.ledger.note entry.envelope writer) m.slots
    rw [slots]
    exact Coherent.only last
  · have dead : (m.note envelope writer).dead = m.dead := rfl
    have grown : ∃ rest, (m.note envelope writer).ledger.entries = m.ledger.entries ++ rest :=
      note_prefix m.ledger envelope writer
    exact Doing.become tasks (inv.others found alive held dead grown) actor
  · intro entry member update isUpdate
    exact (began entry member update isUpdate).become found tasks kept
  · intro other mutator began'
    obtain ⟨rfl, request, early, late⟩ := writes other mutator began'
    refine ⟨⟨{ task with phase := phase }, by simp [become_tasks], request, late⟩, ?_⟩
    -- a task that is only now past its load is in no entry
    intro member
    obtain ⟨entry, isEntry, mutator', update⟩ := mem_updaters.1 member
    obtain ⟨task', found', -, past⟩ := began entry isEntry _ update
    rw [found] at found'
    cases found'
    rw [early] at past
    cases past

/-- The load is over: its base is the last entry, and the update begins. -/
theorem ChainInvariant.loaded {base : Envelope T} (inv : ChainInvariant config m)
    (found : m.tasks token = some task) (alive : task.pid ∉ m.dead)
    (isLoading : task.phase = .loading (.done base))
    (lock : LockInvariant ((m.note base (task.request.writer token)).become token task
      (.updating (task.request.update config base)))) :
    ChainInvariant config ((m.note base (task.request.writer token)).become token task
      (.updating (task.request.update config base))) := by
  obtain ⟨-, slots, data, follows⟩ := (inv.doing token task found).loading _ isLoading alive
  apply inv.noted found alive (by rw [isLoading]; rfl) follows slots _ lock _ fun _ => rfl
  · intro other mutator writer
    cases request : task.request with
    | load =>
      rw [request] at writer
      cases writer
    | mutate mutator' =>
      rw [request] at writer
      cases writer
      exact ⟨rfl, rfl, by rw [isLoading]; rfl, rfl⟩
  · refine ⟨nofun, fun program isUpdating _ => ?_, nofun⟩
    cases isUpdating
    obtain ⟨entry, last, rfl⟩ := note_last m.ledger base (task.request.writer token)
    refine ⟨task.request.update_within config entry.envelope, rfl, entry, last, ?_⟩
    exact update_cwp task.request rfl rfl last slots data

/-- The update is over: its commit, if there was one, is the last entry. -/
theorem ChainInvariant.updated {result : Option R} {envelope : Envelope T}
    (inv : ChainInvariant config m) (found : m.tasks token = some task) (alive : task.pid ∉ m.dead)
    (isUpdating : task.phase = .updating (.done result)) (memory : m.memory task.store = some envelope)
    (lock : LockInvariant ((m.note envelope none).become token task (.releasing (.ok result)))) :
    ChainInvariant config ((m.note envelope none).become token task (.releasing (.ok result))) := by
  obtain ⟨-, writer, entry, last, finishes⟩ := (inv.doing token task found).updating _ isUpdating alive
  have held : task.phase.holds := by rw [isUpdating]; rfl
  rcases finishes with ⟨slots, data, unchanged⟩ |
    ⟨mutator, new, answer, request, updates, answered, slots, data⟩
  · -- nothing was written: the entries already end in the cached state
    obtain rfl : envelope = entry.envelope := Option.some.inj (memory.symm.trans data)
    apply inv.noted found alive held (Follows.last last) slots (fun _ _ isNone => by cases isNone) lock _
      fun _ => rfl
    apply Doing.outside rfl
    intro result' mutator isResult request
    cases isResult
    have same : (m.note entry.envelope none).ledger.entries = m.ledger.entries := note_same last
    rw [same]
    exact Or.inl ⟨entry, List.mem_of_getLast? last, unchanged mutator request⟩
  · obtain rfl : envelope = new := Option.some.inj (memory.symm.trans data)
    rw [request] at writer
    have follows : Follows config m.ledger envelope := by
      unfold Follows
      rw [last]
      exact Or.inr ⟨token, mutator, writer, answer, updates⟩
    apply inv.noted found alive held follows slots (fun _ _ isNone => by cases isNone) lock _ fun _ => rfl
    apply Doing.outside rfl
    intro result' mutator' isResult request'
    cases isResult
    obtain rfl : mutator' = mutator := Request.mutate.inj (request'.symm.trans request)
    have isNew : m.ledger.entries.getLast?.map (·.envelope) ≠ some envelope := by
      intro same
      rw [last] at same
      have equal : entry.envelope = envelope := Option.some.inj same
      have generation := Successor.generation ⟨answer, updates⟩
      rw [equal] at generation
      omega
    have entries : (m.note envelope none).ledger.entries =
        m.ledger.entries ++ [⟨envelope, m.ledger.writer⟩] := note_new isNew
    obtain ⟨before, ends⟩ := List.getLast?_eq_some_iff.1 last
    refine Or.inr ⟨before, entry, envelope, [], answer, ?_, updates, answered⟩
    rw [entries, ends, writer]
    simp [Request.writer]

omit [DecidableEq T] in
theorem bind_error {result : Except StoreError (Option R)} {reason : StoreError} {answer : Option R}
    (ends : (result.bind fun _ => (.error reason : Except StoreError (Option R))) = .ok answer) :
    False := by
  cases result <;> cases ends

omit [DecidableEq T] in
theorem ChainInvariant.contend (inv : ChainInvariant config m) (found : m.tasks token = some task)
    (waits : begun task.phase = false) (lock : LockInvariant (m'.become token task phase))
    (same : m'.tasks = m.tasks ∧ m'.directory = m.directory ∧ m'.memory = m.memory ∧
      m'.ledger = m.ledger ∧ m'.dead = m.dead)
    (isOutside : outside phase) (noAnswer : (result? phase).bind Except.toOption = none) :
    ChainInvariant config (m'.become token task phase) := by
  obtain ⟨tasks, directory, memory, ledger, dead⟩ := same
  have aside : Aside m m' := ⟨directory, memory, ledger, fun pid isDead => by rwa [dead]⟩
  apply inv.idle found aside tasks lock isOutside
  · intro isLoaded
    rw [waits] at isLoaded
    cases isLoaded
  · intro answer isAnswer
    rw [isAnswer] at noAnswer
    cases noAnswer

omit [DecidableEq T] in
theorem ChainInvariant.release {result : Except StoreError (Option R)} (inv : ChainInvariant config m)
    (found : m.tasks token = some task) (ended : result? task.phase = some result)
    (lock : LockInvariant (m'.become token task phase))
    (same : m'.tasks = m.tasks ∧ m'.directory = m.directory ∧ m'.memory = m.memory ∧
      m'.ledger = m.ledger ∧ m'.dead = m.dead)
    (passes : result? phase = some result ∨
      ∃ reason, result? phase = some (result.bind fun _ => .error reason)) :
    ChainInvariant config (m'.become token task phase) := by
  obtain ⟨tasks, directory, memory, ledger, dead⟩ := same
  have aside : Aside m m' := ⟨directory, memory, ledger, fun pid isDead => by rwa [dead]⟩
  have ends : (result? phase).isSome := by
    rcases passes with passed | ⟨reason, failed⟩
    · rw [passed]
      rfl
    · rw [failed]
      rfl
  apply inv.idle found aside tasks lock (ended_outside ends).1 fun _ => (ended_outside ends).2
  intro answer isAnswer
  rcases passes with passed | ⟨reason, failed⟩
  · rw [ended, ← passed, isAnswer]
  · rw [failed] at isAnswer
    exact (bind_error (Option.some.inj isAnswer)).elim

omit [DecidableEq T] in
theorem ChainInvariant.abandon {reason : StoreError} (inv : ChainInvariant config m)
    (found : m.tasks token = some task)
    (lock : LockInvariant (m.become token task (.releasing (.error reason)))) :
    ChainInvariant config (m.become token task (.releasing (.error reason))) := by
  have aside : Aside m m := ⟨rfl, rfl, rfl, fun _ dead => dead⟩
  apply inv.idle found aside rfl lock rfl fun _ => rfl
  intro answer isAnswer
  cases isAnswer

theorem advance_chainInvariant (config : Config D T) (token : Token) (task : Task D T R)
    (choice : Bool) (inv : ChainInvariant config m) (found : m.tasks token = some task)
    (alive : task.pid ∉ m.dead) : ChainInvariant config (m.advance config token task choice) := by
  have lock := advance_invariant config token task choice inv.lock found alive
  cases phase : task.phase with
  | trying =>
    have waits : begun task.phase = false := by rw [phase]; rfl
    simp only [advance, phase] at lock ⊢
    cases locked : m.lock with
    | none =>
      simp only [locked] at lock ⊢
      have aside : Aside m (m.publish token task) := ⟨rfl, rfl, rfl, fun _ dead => dead⟩
      apply inv.quiet found aside rfl lock
      · refine ⟨fun program isLoading _ => ?_, fun _ wrong => (by cases wrong), fun _ _ wrong => by cases wrong⟩
        cases isLoading
        exact ⟨loadLatest_within config task.backupFirst,
          loadLatest_cwp task.backupFirst rfl inv.coherent⟩
      · intro isBegun
        rw [waits] at isBegun
        cases isBegun
    | some there =>
      simp only [locked] at lock ⊢
      exact inv.contend found waits lock ⟨rfl, rfl, rfl, rfl, rfl⟩ rfl rfl
  | contended =>
    have waits : begun task.phase = false := by rw [phase]; rfl
    simp only [advance, phase] at lock ⊢
    exact inv.contend found waits lock ⟨rfl, rfl, rfl, rfl, rfl⟩ (by split <;> rfl) (by split <;> rfl)
  | inspecting =>
    have waits : begun task.phase = false := by rw [phase]; rfl
    simp only [advance, phase] at lock ⊢
    cases locked : m.lock <;> simp only [locked] at lock ⊢
    · exact inv.contend found waits lock ⟨rfl, rfl, rfl, rfl, rfl⟩ rfl rfl
    · exact inv.contend found waits lock ⟨rfl, rfl, rfl, rfl, rfl⟩ rfl rfl
  | observing directory =>
    have waits : begun task.phase = false := by rw [phase]; rfl
    simp only [advance, phase] at lock ⊢
    exact inv.contend found waits lock ⟨rfl, rfl, rfl, rfl, rfl⟩ rfl rfl
  | judging observed =>
    have waits : begun task.phase = false := by rw [phase]; rfl
    simp only [advance, phase] at lock ⊢
    exact inv.contend found waits lock ⟨rfl, rfl, rfl, rfl, rfl⟩ (by split <;> rfl) (by split <;> rfl)
  | guarding observed =>
    have waits : begun task.phase = false := by rw [phase]; rfl
    simp only [advance, phase] at lock ⊢
    cases locked : m.lock <;> simp only [locked] at lock ⊢
    · exact inv.contend found waits lock ⟨rfl, rfl, rfl, rfl, rfl⟩ rfl rfl
    · exact inv.contend found waits lock ⟨rfl, rfl, rfl, rfl, rfl⟩ rfl rfl
  | confirming observed =>
    have waits : begun task.phase = false := by rw [phase]; rfl
    simp only [advance, phase] at lock ⊢
    cases locked : m.lock <;> simp only [locked] at lock ⊢
    · exact inv.contend found waits lock ⟨rfl, rfl, rfl, rfl, rfl⟩ rfl rfl
    · exact inv.contend found waits lock ⟨rfl, rfl, rfl, rfl, rfl⟩ rfl rfl
  | reobserving observed directory =>
    have waits : begun task.phase = false := by rw [phase]; rfl
    simp only [advance, phase] at lock ⊢
    exact inv.contend found waits lock ⟨rfl, rfl, rfl, rfl, rfl⟩ rfl rfl
  | comparing observed confirmed =>
    have waits : begun task.phase = false := by rw [phase]; rfl
    simp only [advance, phase] at lock ⊢
    exact inv.contend found waits lock ⟨rfl, rfl, rfl, rfl, rfl⟩ (by split <;> rfl) (by split <;> rfl)
  | quarantining observed =>
    have waits : begun task.phase = false := by rw [phase]; rfl
    simp only [advance, phase] at lock ⊢
    cases locked : m.lock with
    | none =>
      simp only [locked] at lock ⊢
      exact inv.contend found waits lock ⟨rfl, rfl, rfl, rfl, rfl⟩ rfl rfl
    | some there =>
      by_cases fenced : lockFingerprint observed ∈ m.stale
      · simp only [locked, fenced, ↓reduceIte] at lock ⊢
        exact inv.contend found waits lock ⟨rfl, rfl, rfl, rfl, rfl⟩ rfl rfl
      · simp only [locked, fenced, ↓reduceIte] at lock ⊢
        exact inv.contend found waits lock ⟨rfl, rfl, rfl, rfl, rfl⟩ rfl rfl
  | waiting =>
    have waits : begun task.phase = false := by rw [phase]; rfl
    simp only [advance, phase] at lock ⊢
    exact inv.contend found waits lock ⟨rfl, rfl, rfl, rfl, rfl⟩ (by split <;> rfl) (by split <;> rfl)
  | loading program =>
    have held : task.phase.holds := by rw [phase]; rfl
    obtain ⟨within, loads⟩ := (inv.doing token task found).loading program phase alive
    cases program with
    | done base =>
      simp only [advance, phase] at lock ⊢
      exact inv.loaded found alive phase lock
    | throw reason =>
      simp only [advance, phase] at lock ⊢
      exact inv.abandon found lock
    | call op next =>
      simp only [advance, phase] at lock ⊢
      apply inv.perform found alive held within loads lock
      · intro program isBegun
        rw [phase] at isBegun
        cases isBegun
      · intro m' program ledger within' loads'
        refine ⟨fun program' isLoading _ => ?_, fun _ wrong => (by cases wrong), fun _ _ wrong => by cases wrong⟩
        cases isLoading
        rw [ledger]
        exact ⟨within', loads'⟩
  | updating program =>
    have held : task.phase.holds := by rw [phase]; rfl
    obtain ⟨within, writer, entry, last, finishes⟩ :=
      (inv.doing token task found).updating program phase alive
    cases program with
    | done result =>
      simp only [advance, phase] at lock ⊢
      cases memory : m.memory task.store with
      | none => exact (finishes.remembers memory).elim
      | some envelope =>
        simp only [memory] at lock ⊢
        exact inv.updated found alive phase memory lock
    | throw reason =>
      simp only [advance, phase] at lock ⊢
      exact inv.abandon found lock
    | call op next =>
      simp only [advance, phase] at lock ⊢
      apply inv.perform found alive held within finishes lock
      · exact fun program _ => rfl
      · intro m' program ledger within' finishes'
        refine ⟨fun _ wrong => (by cases wrong), fun program' isUpdating _ => ?_, fun _ _ wrong => by cases wrong⟩
        cases isUpdating
        rw [ledger]
        exact ⟨within', writer, entry, last, finishes'⟩
  | releasing result =>
    have ended : result? task.phase = some result := by rw [phase]; rfl
    simp only [advance, phase] at lock ⊢
    by_cases own : m.lock = some ⟨token, task.pid⟩
    · simp only [own, ↓reduceIte] at lock ⊢
      exact inv.release found ended lock ⟨rfl, rfl, rfl, rfl, rfl⟩ (Or.inl rfl)
    · simp only [own, ↓reduceIte] at lock ⊢
      exact inv.release found ended lock ⟨rfl, rfl, rfl, rfl, rfl⟩ (Or.inr ⟨_, rfl⟩)
  | unlocking result =>
    have ended : result? task.phase = some result := by rw [phase]; rfl
    simp only [advance, phase] at lock ⊢
    cases locked : m.lock with
    | none =>
      simp only [locked] at lock ⊢
      exact inv.release found ended lock ⟨rfl, rfl, rfl, rfl, rfl⟩ (Or.inr ⟨_, rfl⟩)
    | some owner =>
      simp only [locked] at lock ⊢
      exact inv.release found ended lock ⟨rfl, rfl, rfl, rfl, rfl⟩ (Or.inl rfl)
  | settled result =>
    simp only [advance, phase]
    exact inv

omit [DecidableEq T] in
/-- A crash stops a task of `pid` inside at a point its program has answered for, or changes
nothing on disk. -/
theorem crash_directory (inv : ChainInvariant config m) (alive : pid ∉ m.dead) (token : Token)
    (extent : Extent) :
    Coherent config m.ledger (m.crash pid token extent).slots ∧
      ((m.crash pid token extent).directory = m.directory ∨
        ∃ task, m.tasks token = some task ∧ task.pid = pid ∧ task.phase.holds) := by
  unfold crash
  cases found : m.tasks token with
  | none => exact ⟨inv.coherent, Or.inl rfl⟩
  | some task =>
    dsimp only
    cases phase : task.phase with
    | loading program =>
      cases program with
      | call op next =>
        simp only [pending]
        split
        · rename_i same
          subst same
          have held : task.phase.holds := by rw [phase]; rfl
          obtain ⟨-, loads⟩ := (inv.doing token task found).loading _ phase alive
          rw [inv.view found alive held]
          exact ⟨loads.2.2 extent fun _ => trivial, Or.inr ⟨task, rfl, rfl, held⟩⟩
        · exact ⟨inv.coherent, Or.inl rfl⟩
      | done base => exact ⟨inv.coherent, Or.inl rfl⟩
      | throw reason => exact ⟨inv.coherent, Or.inl rfl⟩
    | updating program =>
      cases program with
      | call op next =>
        simp only [pending]
        split
        · rename_i same
          subst same
          have held : task.phase.holds := by rw [phase]; rfl
          obtain ⟨-, -, entry, -, finishes⟩ := (inv.doing token task found).updating _ phase alive
          rw [inv.view found alive held]
          exact ⟨finishes.2.2 extent fun _ => trivial, Or.inr ⟨task, rfl, rfl, held⟩⟩
        · exact ⟨inv.coherent, Or.inl rfl⟩
      | done base => exact ⟨inv.coherent, Or.inl rfl⟩
      | throw reason => exact ⟨inv.coherent, Or.inl rfl⟩
    | _ => exact ⟨inv.coherent, Or.inl rfl⟩

omit [DecidableEq T] in
theorem crash_kept (m : Machine D T R) (pid : Pid) (token : Token) (extent : Extent) :
    (m.crash pid token extent).memory = m.memory ∧ (m.crash pid token extent).ledger = m.ledger := by
  unfold crash
  repeat' split
  all_goals exact ⟨rfl, rfl⟩

omit [DecidableEq T] in
theorem crash_chainInvariant (inv : ChainInvariant config m) (alive : pid ∉ m.dead) (token : Token)
    (extent : Extent) (lock : LockInvariant (m.crash pid token extent)) :
    ChainInvariant config (m.crash pid token extent) := by
  obtain ⟨tasks, -, -, dead⟩ := crash_same m pid token extent
  obtain ⟨memory, ledger⟩ := crash_kept m pid token extent
  obtain ⟨coherent, touched⟩ := crash_directory inv alive token extent
  have began : ∀ update, m.Began update → (m.crash pid token extent).Began update := by
    rintro update ⟨task, found, request, isBegun⟩
    exact ⟨task, by rw [tasks]; exact found, request, isBegun⟩
  have deadBefore : ∀ other, other ∉ (m.crash pid token extent).dead → other ∉ m.dead := by
    intro other isAlive isDead
    rw [dead] at isAlive
    exact isAlive (List.mem_cons_of_mem _ isDead)
  refine ⟨lock, ?_, ?_, ?_, ?_, ?_, ?_⟩
  · rw [ledger]
    exact coherent
  · rw [ledger]
    exact inv.chained
  · intro other task found
    rw [tasks] at found
    have doing := inv.doing other task found
    rcases touched with same | ⟨victim, foundVictim, ofPid, held⟩
    · exact doing.aside ⟨same, memory, ledger, fun _ isDead => by
        rw [dead]
        exact List.mem_cons_of_mem _ isDead⟩
    · -- the victim held the lock, so no other live task is inside
      have alone : task.pid ∉ (m.crash pid token extent).dead → task.phase.holds → False := by
        intro isAlive heldToo
        have inside : m.Inside other := ⟨task, found, deadBefore _ isAlive, heldToo⟩
        have same := inv.lock.exclusive inside ⟨victim, foundVictim, by rwa [ofPid], held⟩
        subst same
        rw [found] at foundVictim
        cases foundVictim
        rw [dead, ofPid] at isAlive
        exact isAlive List.mem_cons_self
      constructor
      · intro program isLoading isAlive
        exact (alone isAlive (by rw [isLoading]; rfl)).elim
      · intro program isUpdating isAlive
        exact (alone isAlive (by rw [isUpdating]; rfl)).elim
      · intro result mutator ended request
        rw [ledger]
        exact doing.fulfilled result mutator ended request
  · rw [ledger]
    exact fun entry member update isUpdate => began update (inv.began entry member update isUpdate)
  · rw [ledger]
    intro other mutator writer
    exact ⟨began _ (inv.writer other mutator writer).1, (inv.writer other mutator writer).2⟩
  · rw [ledger]
    exact inv.once

theorem step_chainInvariant (config : Config D T) (action : Action D T R)
    (inv : ChainInvariant config m) : ChainInvariant config (m.step config action) := by
  have lock := step_lockInvariant config action inv.lock
  cases action with
  | spawn token pid store request backupFirst =>
    simp only [step] at lock ⊢
    cases found : m.tasks token with
    | some task => exact inv
    | none =>
      simp only [found] at lock ⊢
      by_cases isDead : pid ∈ m.dead
      · simp only [isDead, ↓reduceIte]
        exact inv
      · simp only [isDead, ↓reduceIte] at lock ⊢
        have began : ∀ update, m.Began update →
            (m.become token ⟨pid, store, request, backupFirst, .trying⟩ .trying).Began update := by
          rintro update ⟨task, foundTask, request, isBegun⟩
          have different : update.1 ≠ token := by
            intro same
            rw [same, found] at foundTask
            cases foundTask
          exact ⟨task, by simp [become_tasks, different, foundTask], request, isBegun⟩
        refine ⟨lock, inv.coherent, inv.chained, ?_, ?_, ?_, inv.once⟩
        · apply Doing.become rfl
          · exact fun other old _ foundOld => inv.doing other old foundOld
          · exact Doing.outside rfl fun _ _ wrong => by cases wrong
        · exact fun entry member update isUpdate => began update (inv.began entry member update isUpdate)
        · intro other mutator writer
          exact ⟨began _ (inv.writer other mutator writer).1, (inv.writer other mutator writer).2⟩
  | advance token choice =>
    simp only [step]
    cases found : m.tasks token with
    | none => exact inv
    | some task =>
      dsimp only
      split
      · exact inv
      · rename_i alive
        exact advance_chainInvariant config token task choice inv found alive
  | crash pid token extent =>
    simp only [step] at lock ⊢
    by_cases isDead : pid ∈ m.dead
    · simp only [isDead, ↓reduceIte]
      exact inv
    · simp only [isDead, ↓reduceIte] at lock ⊢
      exact crash_chainInvariant inv isDead token extent lock

omit [DecidableEq T] in
theorem initial_chainInvariant (config : Config D T) :
    ChainInvariant config (initial : Machine D T R) := by
  refine ⟨initial_lockInvariant, ⟨?_, nofun⟩, ⟨nofun, List.isChain_nil⟩, nofun, nofun, nofun, List.nodup_nil⟩
  intro slot envelope holds
  cases holds

theorem run_chainInvariant (config : Config D T) (actions : List (Action D T R))
    (inv : ChainInvariant config m) : ChainInvariant config (m.run config actions) := by
  induction actions generalizing m with
  | nil => exact inv
  | cons action actions ih => exact ih (step_chainInvariant config action inv)

/-- In every interleaving, with crashes anywhere: at most one live task is inside, nobody but its
owner moves the lock of a live process, and the settled states are one chain in which each is the
update of the one before it by its own call. No call updates twice, every fulfilled update is in
the chain, and the disk holds its end or what the call under way makes of it. -/
theorem lock_protocol (config : Config D T) (actions : List (Action D T R)) :
    let m := initial.run config actions
    (∀ token token', m.Inside token → m.Inside token' → token = token') ∧
    (∀ action owner, m.lock = some owner → owner.pid ∉ m.dead →
      (m.step config action).lock = some owner ∨ ∃ choice, action = .advance owner.token choice) ∧
    Chained config m.ledger.entries ∧ (updaters m.ledger.entries).Nodup ∧
    (∀ token mutator, m.ledger.writer = some (token, mutator) ∨
        (∃ entry ∈ m.ledger.entries, entry.update = some (token, mutator)) →
      ∃ task, m.tasks token = some task ∧ task.request = .mutate mutator) ∧
    (∀ token task mutator result, m.tasks token = some task → task.request = .mutate mutator →
      task.phase = .settled (.ok result) → Fulfils config m.ledger.entries token mutator result) ∧
    ∀ slot envelope, m.slots.holds slot envelope → Follows config m.ledger envelope := by
  intro m
  have inv : ChainInvariant config m := run_chainInvariant config actions (initial_chainInvariant config)
  refine ⟨?_, ?_, inv.chained, inv.once, ?_, ?_, inv.coherent.follows⟩
  · exact fun token token' first second => inv.lock.exclusive first second
  · exact fun action owner locked alive => step_keeps_lock config action inv.lock locked alive
  · intro token mutator update
    have began : m.Began (token, mutator) := by
      rcases update with writer | ⟨entry, member, isUpdate⟩
      · exact (inv.writer token mutator writer).1
      · exact inv.began entry member _ isUpdate
    obtain ⟨task, found, request, -⟩ := began
    exact ⟨task, found, request⟩
  · intro token task mutator result found request settled
    exact (inv.doing token task found).fulfilled result mutator (by rw [settled]; rfl) request

end Steps

/-- The first call dies in its update; the second quarantines the lock and starts from the same
state. -/
def takeover : List (Action Nat Nat Unit) :=
  .spawn 1 1 0 (.mutate (setTo 5)) true :: List.replicate 28 (.advance 1 true) ++
  .spawn 2 2 1 (.mutate (setTo 7)) true :: List.replicate 4 (.advance 2 true) ++
  .crash 1 1 .partway :: List.replicate 80 (.advance 2 true)

example :
    let m := initial.run numbers takeover
    m.ledger.entries.map (fun entry => (entry.envelope.payload, entry.update.map (·.1))) =
      [(0, none), (7, some 2)] ∧ m.lock = none ∧ m.dead = [1] := by decide +kernel

end Machine

end AtomicJsonStore
