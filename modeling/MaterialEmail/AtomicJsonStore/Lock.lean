import Mathlib.Logic.Function.Basic
import MaterialEmail.AtomicJsonStore.CrashSafety

/-! The lock directory and the processes that contend for it, one atomic file operation at a
time. A task is one call of `#withExclusiveLock`; whatever depends on the clock is left open.
No live owner's directory is ever moved, so at most one live task is inside. -/
namespace AtomicJsonStore

open Interrupted

abbrev Token := Nat
abbrev Pid := Nat

/-- `LockOwner`: what `owner.json` says, in every directory that is published as the lock. -/
structure LockOwner where
  token : Token
  pid : Pid
  deriving DecidableEq, Repr

/-- `LockSnapshot`: `stat` and the owner file are read one after the other. Device, inode and
birth time tell the directory from all others, as does the task that prepared it. -/
structure LockSnapshot where
  directory : Token
  owner : Option LockOwner
  deriving DecidableEq, Repr

/-- `#lockFingerprint`. -/
inductive Fingerprint where
  | token (token : Token)
  | device (directory : Token)
  deriving DecidableEq, Repr

def lockFingerprint (snapshot : LockSnapshot) : Fingerprint :=
  match snapshot.owner with
  | some owner => .token owner.token
  | none => .device snapshot.directory

/-- Where a task is: between two operations of `#acquireLock` and `#recoverStaleLock`, inside the
critical section, or in `#releaseLock`. -/
inductive Phase (T R : Type) where
  | trying
  | contended
  | inspecting
  | observing (directory : Token)
  | judging (observed : LockSnapshot)
  | guarding (observed : LockSnapshot)
  | confirming (observed : LockSnapshot)
  | reobserving (observed : LockSnapshot) (directory : Token)
  | comparing (observed confirmed : LockSnapshot)
  | quarantining (observed : LockSnapshot)
  | waiting
  | loading (program : Store T (Envelope T))
  | updating (program : Store T (Option R))
  | releasing (result : Except StoreError (Option R))
  | unlocking (result : Except StoreError (Option R))
  | settled (result : Except StoreError (Option R))

/-- `store` is the instance whose memory the task uses. -/
structure Task (D T R : Type) where
  pid : Pid
  store : Nat
  request : Request D T R
  backupFirst : Bool
  phase : Phase T R

/-- A state that a load settled or an update committed, and the update it is the commit of. -/
structure Entry (D T R : Type) where
  envelope : Envelope T
  update : Option (Token × Mutator D T R)

/-- A history variable: the states so far, and the last update to begin that is not among them. -/
structure Ledger (D T R : Type) where
  entries : List (Entry D T R)
  writer : Option (Token × Mutator D T R)

/-- All processes over one directory. -/
structure Machine (D T R : Type) where
  directory : Directory Slot (Envelope T)
  memory : Nat → Option (Envelope T)
  lock : Option LockOwner
  guarded : List Token
  stale : List Fingerprint
  dead : List Pid
  tasks : Token → Option (Task D T R)
  ledger : Ledger D T R

inductive Action (D T R : Type) where
  | spawn (token : Token) (pid : Pid) (store : Nat) (request : Request D T R) (backupFirst : Bool)
  | advance (token : Token) (choice : Bool)
  | crash (pid : Pid) (token : Token) (extent : Extent)

def Ledger.note [DecidableEq T] (ledger : Ledger D T R) (envelope : Envelope T)
    (writer : Option (Token × Mutator D T R)) : Ledger D T R where
  entries :=
    if ledger.entries.getLast?.map (·.envelope) = some envelope then ledger.entries
    else ledger.entries ++ [⟨envelope, ledger.writer⟩]
  writer := writer

def Request.writer (request : Request D T R) (token : Token) : Option (Token × Mutator D T R) :=
  match request with
  | .load => none
  | .mutate mutator => some (token, mutator)

/-- What a call does with the loaded state; `read` and `generation` only look at it. -/
def Request.update [DecidableEq T] (config : Config D T) (request : Request D T R)
    (base : Envelope T) : Store T (Option R) :=
  match request with
  | .load => .done none
  | .mutate mutator => do
    let result ← AtomicJsonStore.update config mutator base
    return some result

namespace Machine

variable {D T R : Type}

def initial : Machine D T R := ⟨⟨[], 0⟩, fun _ => none, none, [], [], [], fun _ => none, ⟨[], none⟩⟩

def slots (m : Machine D T R) : Slots T := m.directory.content

def become (m : Machine D T R) (token : Token) (task : Task D T R) (phase : Phase T R) :
    Machine D T R :=
  { m with tasks := Function.update m.tasks token (some { task with phase := phase }) }

/-- The store as the program of a task sees it. -/
def view (m : Machine D T R) (token : Token) (task : Task D T R) : State T :=
  ⟨m.directory, m.memory task.store, decide (m.lock = some ⟨token, task.pid⟩)⟩

def keep (m : Machine D T R) (task : Task D T R) (s : State T) : Machine D T R :=
  { m with directory := s.directory, memory := Function.update m.memory task.store s.data }

/-- `#isProcessAlive`. -/
def isProcessAlive (m : Machine D T R) (self pid : Pid) : Bool :=
  pid = self || pid ∉ m.dead

/-- `#isRecoverableStaleLock`; whether the grace period is over is `aged`. -/
def isRecoverableStaleLock (m : Machine D T R) (self : Pid) (aged : Bool) (snapshot : LockSnapshot) :
    Bool :=
  aged && match snapshot.owner with
    | some owner => !m.isProcessAlive self owner.pid
    | none => true

/-- `#sameLockIdentity`. -/
def sameLockIdentity (left right : LockSnapshot) : Bool :=
  left.directory = right.directory && left.owner.map (·.token) = right.owner.map (·.token)

def note [DecidableEq T] (m : Machine D T R) (envelope : Envelope T)
    (writer : Option (Token × Mutator D T R)) : Machine D T R :=
  { m with ledger := m.ledger.note envelope writer }

def lockNotReleased : StoreError :=
  .persistence "The local PIM state lock could not be released safely (ENOENT)."

def lockTimedOut : StoreError :=
  .persistence "The local PIM state remained locked for 5000ms; no changes were committed."

def perform (m : Machine D T R) (token : Token) (task : Task D T R) (op : Op T)
    (phase : Reply T op → Phase T R) : Machine D T R :=
  (m.keep task (effect op .after (m.view token task))).become token task
    (phase (reply op (m.view token task)))

def publish (m : Machine D T R) (token : Token) (task : Task D T R) : Machine D T R :=
  { m with lock := some ⟨token, task.pid⟩ }

variable [DecidableEq T]

/-- The next operation of a live task. `choice` decides what the clock decides in the source:
whether a lock is past its grace period, whether there is time for another attempt. -/
def advance (config : Config D T) (m : Machine D T R) (token : Token) (task : Task D T R)
    (choice : Bool) : Machine D T R :=
  match task.phase with
  | .trying =>
    match m.lock with
    | none => (m.publish token task).become token task (.loading (loadLatest config task.backupFirst))
    | some _ => m.become token task .contended
  | .contended => m.become token task (if m.lock.isSome then .inspecting else .waiting)
  | .inspecting =>
    match m.lock with
    | none => m.become token task .waiting
    | some there => m.become token task (.observing there.token)
  | .observing directory => m.become token task (.judging ⟨directory, m.lock⟩)
  | .judging observed =>
    m.become token task
      (if m.isRecoverableStaleLock task.pid choice observed then .guarding observed else .waiting)
  | .guarding observed =>
    -- an existing guard does not stop the contender
    match m.lock with
    | none => m.become token task .waiting
    | some there =>
      { m with guarded := there.token :: m.guarded }.become token task (.confirming observed)
  | .confirming observed =>
    match m.lock with
    | none => m.become token task .waiting
    | some there => m.become token task (.reobserving observed there.token)
  | .reobserving observed directory =>
    m.become token task (.comparing observed ⟨directory, m.lock⟩)
  | .comparing observed confirmed =>
    m.become token task
      (if sameLockIdentity observed confirmed && m.isRecoverableStaleLock task.pid choice confirmed
        then .quarantining observed else .waiting)
  | .quarantining observed =>
    match m.lock with
    | none => m.become token task .waiting
    | some _ =>
      if lockFingerprint observed ∈ m.stale then m.become token task .waiting
      else { m with lock := none, stale := lockFingerprint observed :: m.stale }.become token task
        .waiting
  | .waiting => m.become token task (if choice then .trying else .settled (.error lockTimedOut))
  | .loading program =>
    match program with
    | .done base =>
      (m.note base (task.request.writer token)).become token task
        (.updating (task.request.update config base))
    | .throw reason => m.become token task (.releasing (.error reason))
    | .call op next => m.perform token task op fun answer => .loading (next answer)
  | .updating program =>
    match program with
    | .done result =>
      match m.memory task.store with
      | none => m.become token task (.releasing (.ok result))
      | some envelope =>
        (m.note envelope none).become token task (.releasing (.ok result))
    | .throw reason => m.become token task (.releasing (.error reason))
    | .call op next => m.perform token task op fun answer => .updating (next answer)
  | .releasing result =>
    m.become token task
      (if m.lock = some ⟨token, task.pid⟩ then .unlocking result
        else .settled (result.bind fun _ => .error lockLost))
  | .unlocking result =>
    match m.lock with
    | none => m.become token task (.settled (result.bind fun _ => .error lockNotReleased))
    | some _ => { m with lock := none }.become token task (.settled result)
  | .settled _ => m

def pending (phase : Phase T R) : Option (Op T) :=
  match phase with
  | .loading (.call op _) => some op
  | .updating (.call op _) => some op
  | _ => none

/-- The crash of a process leaves the operation that `token` was in done up to `extent`. -/
def crash (m : Machine D T R) (pid : Pid) (token : Token) (extent : Extent) : Machine D T R :=
  match m.tasks token with
  | some task =>
    match pending task.phase with
    | some op =>
      if task.pid = pid then
        { m with dead := pid :: m.dead, directory := (effect op extent (m.view token task)).directory }
      else { m with dead := pid :: m.dead }
    | none => { m with dead := pid :: m.dead }
  | none => { m with dead := pid :: m.dead }

/-- Actions of the dead, and tokens drawn twice, change nothing. -/
def step (config : Config D T) (m : Machine D T R) : Action D T R → Machine D T R
  | .spawn token pid store request backupFirst =>
    match m.tasks token with
    | some _ => m
    | none =>
      if pid ∈ m.dead then m
      else m.become token ⟨pid, store, request, backupFirst, .trying⟩ .trying
  | .advance token choice =>
    match m.tasks token with
    | none => m
    | some task => if task.pid ∈ m.dead then m else m.advance config token task choice
  | .crash pid token extent => if pid ∈ m.dead then m else m.crash pid token extent

def run (config : Config D T) (m : Machine D T R) (actions : List (Action D T R)) : Machine D T R :=
  actions.foldl (step config) m

end Machine

variable {D T R : Type}

def Phase.acquiring : Phase T R → Bool
  | .loading _ => false
  | .updating _ => false
  | .releasing _ => false
  | .unlocking _ => false
  | .settled _ => false
  | _ => true

/-- Between the publication of the task's lock directory and its removal. -/
def Phase.holds : Phase T R → Bool
  | .loading _ => true
  | .updating _ => true
  | .releasing _ => true
  | .unlocking _ => true
  | _ => false

namespace Machine

variable {m m' : Machine D T R}

/-- The task has published its directory, or has given up: it will not publish again. -/
def Acquired (m : Machine D T R) (token : Token) : Prop :=
  ∃ task, m.tasks token = some task ∧ task.phase.acquiring = false

def IsOwner (m : Machine D T R) (owner : LockOwner) : Prop :=
  ∃ task, m.tasks owner.token = some task ∧ task.pid = owner.pid

/-- The directory of `token` is not the lock and never will be again. -/
def Left (m : Machine D T R) (token : Token) : Prop :=
  m.Acquired token ∧ ∀ owner, m.lock = some owner → owner.token ≠ token

/-- A snapshot names the owner of its directory, unless the directory left in between. -/
structure Seen (m : Machine D T R) (observed : LockSnapshot) : Prop where
  acquired : m.Acquired observed.directory
  owner : ∀ owner, observed.owner = some owner → m.IsOwner owner
  same : (∃ owner, observed.owner = some owner ∧ owner.token = observed.directory) ∨
    m.Left observed.directory

def DeadOwner (m : Machine D T R) (observed : LockSnapshot) : Prop :=
  ∀ owner, observed.owner = some owner → owner.pid ∈ m.dead

/-- The observed owner is dead, and its directory is the lock or its tombstone stands. -/
def Cornered (m : Machine D T R) (observed : LockSnapshot) : Prop :=
  ∃ owner, observed.owner = some owner ∧ owner.pid ∈ m.dead ∧
    (m.lock = some owner ∨ .token owner.token ∈ m.stale)

/-- What the phase of a contender has established. -/
def Observed (m : Machine D T R) : Phase T R → Prop
  | .observing directory => m.Acquired directory
  | .judging observed => m.Seen observed
  | .guarding observed => m.Seen observed ∧ m.DeadOwner observed
  | .confirming observed => m.Seen observed ∧ m.DeadOwner observed
  | .reobserving observed directory => observed.directory = directory → m.Cornered observed
  | .comparing observed confirmed => observed.directory = confirmed.directory → m.Cornered observed
  | .quarantining observed => m.Cornered observed
  | _ => True

structure LockInvariant (m : Machine D T R) : Prop where
  owner : ∀ owner, m.lock = some owner → m.IsOwner owner ∧ m.Acquired owner.token
  holder : ∀ token task, m.tasks token = some task → task.pid ∉ m.dead → task.phase.holds →
    m.lock = some ⟨token, task.pid⟩
  observed : ∀ token task, m.tasks token = some task → m.Observed task.phase

/-- What every step of a task keeps for the others: only the actor, alive, or a quarantine of the
dead takes the lock away. -/
structure Grows (actor : Token) (m m' : Machine D T R) : Prop where
  tasks : ∀ token task, m.tasks token = some task → ∃ task', m'.tasks token = some task' ∧
    task'.pid = task.pid ∧ (task.phase.acquiring = false → task'.phase.acquiring = false)
  dead : ∀ pid, pid ∈ m.dead → pid ∈ m'.dead
  stale : ∀ mark, mark ∈ m.stale → mark ∈ m'.stale
  lock : ∀ owner, m.lock = some owner → m'.lock = some owner ∨
    owner.token = actor ∧ owner.pid ∉ m.dead ∨ owner.pid ∈ m.dead ∧ .token owner.token ∈ m'.stale
  publishes : ∀ owner, m'.lock = some owner → m.lock = some owner ∨ ¬ m.Acquired owner.token

theorem Acquired.grows (acquired : m.Acquired token) (grows : Grows actor m m') : m'.Acquired token := by
  obtain ⟨task, found, published⟩ := acquired
  obtain ⟨task', found', -, kept⟩ := grows.tasks token task found
  exact ⟨task', found', kept published⟩

theorem IsOwner.grows (isOwner : m.IsOwner owner) (grows : Grows actor m m') : m'.IsOwner owner := by
  obtain ⟨task, found, pid⟩ := isOwner
  obtain ⟨task', found', same, -⟩ := grows.tasks owner.token task found
  exact ⟨task', found', same.trans pid⟩

theorem Left.grows (left : m.Left token) (grows : Grows actor m m') : m'.Left token := by
  refine ⟨left.1.grows grows, fun owner locked same => ?_⟩
  rcases grows.publishes owner locked with before | fresh
  · exact left.2 owner before same
  · rw [same] at fresh
    exact fresh left.1

theorem Seen.grows (seen : m.Seen observed) (grows : Grows actor m m') : m'.Seen observed := by
  refine ⟨seen.acquired.grows grows, fun owner h => (seen.owner owner h).grows grows, ?_⟩
  rcases seen.same with same | left
  · exact Or.inl same
  · exact Or.inr (left.grows grows)

theorem DeadOwner.grows (deadOwner : m.DeadOwner observed) (grows : Grows actor m m') :
    m'.DeadOwner observed :=
  fun owner h => grows.dead _ (deadOwner owner h)

theorem Cornered.grows (cornered : m.Cornered observed) (grows : Grows actor m m') :
    m'.Cornered observed := by
  obtain ⟨owner, found, dead, there⟩ := cornered
  refine ⟨owner, found, grows.dead _ dead, ?_⟩
  rcases there with locked | tombstone
  · rcases grows.lock owner locked with same | ⟨-, alive⟩ | ⟨-, quarantined⟩
    · exact Or.inl same
    · exact (alive dead).elim
    · exact Or.inr quarantined
  · exact Or.inr (grows.stale _ tombstone)

theorem Observed.grows {phase : Phase T R} (observed : m.Observed phase) (grows : Grows actor m m') :
    m'.Observed phase := by
  cases phase with
  | observing directory => exact Acquired.grows observed grows
  | judging snapshot => exact Seen.grows observed grows
  | guarding snapshot => exact ⟨observed.1.grows grows, observed.2.grows grows⟩
  | confirming snapshot => exact ⟨observed.1.grows grows, observed.2.grows grows⟩
  | reobserving snapshot directory => exact fun same => (observed same).grows grows
  | comparing snapshot confirmed => exact fun same => (observed same).grows grows
  | quarantining snapshot => exact Cornered.grows observed grows
  | trying => trivial
  | contended => trivial
  | inspecting => trivial
  | waiting => trivial
  | loading program => trivial
  | updating program => trivial
  | releasing result => trivial
  | unlocking result => trivial
  | settled result => trivial

structure Quiet (m m' : Machine D T R) : Prop where
  tasks : m'.tasks = m.tasks
  dead : m'.dead = m.dead
  stale : m'.stale = m.stale
  lock : m'.lock = m.lock

theorem become_tasks (m : Machine D T R) (token other : Token) (task : Task D T R) (phase : Phase T R) :
    (m.become token task phase).tasks other =
      if other = token then some { task with phase := phase } else m.tasks other := by
  simp [become, Function.update_apply]

theorem become_kept (tasks : m'.tasks = m.tasks) (found : m.tasks token = some task)
    (published : task.phase.acquiring = false → phase.acquiring = false) (other : Token)
    (old : Task D T R) (foundOld : m.tasks other = some old) :
    ∃ new, (m'.become token task phase).tasks other = some new ∧ new.pid = old.pid ∧
      (old.phase.acquiring = false → new.phase.acquiring = false) := by
  rw [become_tasks]
  by_cases same : other = token
  · subst other
    rw [found] at foundOld
    cases foundOld
    exact ⟨{ task with phase := phase }, by simp, rfl, published⟩
  · refine ⟨old, ?_, rfl, id⟩
    simp [same, tasks, foundOld]

theorem Quiet.grows (quiet : Quiet m m') (found : m.tasks token = some task)
    (published : task.phase.acquiring = false → phase.acquiring = false) :
    Grows token m (m'.become token task phase) where
  tasks := become_kept quiet.tasks found published
  dead pid dead := by
    show pid ∈ m'.dead
    rwa [quiet.dead]
  stale mark there := by
    show mark ∈ m'.stale
    rwa [quiet.stale]
  lock owner locked := by
    left
    show m'.lock = some owner
    rwa [quiet.lock]
  publishes owner locked := by
    left
    rw [← quiet.lock]
    exact locked

/-- The invariant after a step of one task, from what the step did to the lock and to the task. -/
theorem LockInvariant.act (inv : LockInvariant m)
    (grows : Grows token m (m'.become token task phase)) (tasks : m'.tasks = m.tasks)
    (owner : ∀ owner, m'.lock = some owner → m.lock = some owner ∨
      owner = ⟨token, task.pid⟩ ∧ phase.acquiring = false)
    (holds : phase.holds → m'.lock = some ⟨token, task.pid⟩)
    (observed : m.Observed phase ∨ (m'.become token task phase).Observed phase) :
    LockInvariant (m'.become token task phase) := by
  constructor
  · intro held locked
    rcases owner held locked with before | ⟨rfl, published⟩
    · obtain ⟨isOwner, acquired⟩ := inv.owner held before
      exact ⟨isOwner.grows grows, acquired.grows grows⟩
    · have here : (m'.become token task phase).tasks token = some { task with phase := phase } := by
        simp [become_tasks]
      exact ⟨⟨_, here, rfl⟩, ⟨_, here, published⟩⟩
  · intro other new foundNew alive held
    rw [become_tasks] at foundNew
    by_cases same : other = token
    · simp only [same, ↓reduceIte, Option.some.injEq] at foundNew
      subst foundNew
      rw [same]
      exact holds held
    · simp only [same, ↓reduceIte, tasks] at foundNew
      have aliveBefore : new.pid ∉ m.dead := fun dead => alive (grows.dead _ dead)
      have lockedBefore := inv.holder other new foundNew aliveBefore held
      rcases grows.lock _ lockedBefore with still | ⟨actor, -⟩ | ⟨dead, -⟩
      · exact still
      · exact (same actor).elim
      · exact (aliveBefore dead).elim
  · intro other new foundNew
    rw [become_tasks] at foundNew
    by_cases same : other = token
    · simp only [same, ↓reduceIte, Option.some.injEq] at foundNew
      subst foundNew
      rcases observed with before | now
      · exact before.grows grows
      · exact now
    · simp only [same, ↓reduceIte, tasks] at foundNew
      exact (inv.observed other new foundNew).grows grows

theorem LockInvariant.quiet (inv : LockInvariant m) (found : m.tasks token = some task)
    (alive : task.pid ∉ m.dead) (quiet : Quiet m m')
    (published : task.phase.acquiring = false → phase.acquiring = false)
    (holds : phase.holds → task.phase.holds) (observed : m.Observed phase) :
    LockInvariant (m'.become token task phase) := by
  apply inv.act (quiet.grows found published) quiet.tasks
  · intro owner locked
    rw [quiet.lock] at locked
    exact Or.inl locked
  · intro held
    rw [quiet.lock]
    exact inv.holder token task found alive (holds held)
  · exact Or.inl observed

theorem LockInvariant.contend (inv : LockInvariant m) (found : m.tasks token = some task)
    (alive : task.pid ∉ m.dead) (quiet : Quiet m m') (waits : task.phase.acquiring = true)
    (free : phase.holds = false) (observed : m.Observed phase) :
    LockInvariant (m'.become token task phase) := by
  apply inv.quiet found alive quiet _ _ observed
  · intro published
    rw [waits] at published
    cases published
  · intro held
    rw [free] at held
    cases held

theorem Quiet.refl (m : Machine D T R) : Quiet m m := ⟨rfl, rfl, rfl, rfl⟩

theorem LockInvariant.seen {directory : Token} (inv : LockInvariant m) (acquired : m.Acquired directory) :
    m.Seen ⟨directory, m.lock⟩ := by
  refine ⟨acquired, fun owner locked => (inv.owner owner locked).1, ?_⟩
  cases locked : m.lock with
  | none => exact Or.inr ⟨acquired, by simp [locked]⟩
  | some owner =>
    by_cases same : owner.token = directory
    · exact Or.inl ⟨owner, rfl, same⟩
    · refine Or.inr ⟨acquired, fun other lockedBy => ?_⟩
      rw [locked] at lockedBy
      cases lockedBy
      exact same

theorem deadOwner_of_stale {observed : LockSnapshot}
    (stale : m.isRecoverableStaleLock self aged observed = true) : m.DeadOwner observed := by
  intro owner found
  simp only [isRecoverableStaleLock, found, isProcessAlive, Bool.and_eq_true, Bool.not_eq_true',
    Bool.or_eq_false_iff, decide_eq_false_iff_not, not_not] at stale
  exact stale.2.2

/-- The second `stat` finds the directory that was observed: its owner is dead and it is the lock. -/
theorem LockInvariant.cornered {observed : LockSnapshot} (inv : LockInvariant m) (seen : m.Seen observed)
    (deadOwner : m.DeadOwner observed) (locked : m.lock = some there)
    (same : observed.directory = there.token) : m.Cornered observed := by
  rcases seen.same with ⟨owner, found, token⟩ | left
  · refine ⟨owner, found, deadOwner owner found, Or.inl ?_⟩
    obtain ⟨task, foundTask, pid⟩ := seen.owner owner found
    obtain ⟨task', foundTask', pid'⟩ := (inv.owner there locked).1
    have tokens : owner.token = there.token := token.trans same
    rw [tokens, foundTask'] at foundTask
    cases foundTask
    have : owner = there := by
      cases owner
      cases there
      simp_all
    rw [locked, this]
  · exact (left.2 there locked same.symm).elim

theorem Grows.publish (free : m.lock = none) (found : m.tasks token = some task)
    (trying : task.phase.acquiring = true) :
    Grows token m ((m.publish token task).become token task phase) where
  tasks := by
    apply become_kept rfl found
    intro published
    rw [trying] at published
    cases published
  dead _ dead := dead
  stale _ there := there
  lock owner locked := by
    rw [free] at locked
    cases locked
  publishes owner locked := by
    right
    obtain rfl : (⟨token, task.pid⟩ : LockOwner) = owner := Option.some.inj locked
    rintro ⟨task', found', published⟩
    rw [found] at found'
    cases found'
    rw [trying] at published
    cases published

theorem Grows.remove {stale : List Fingerprint} (found : m.tasks token = some task)
    (published : task.phase.acquiring = false → phase.acquiring = false)
    (kept : ∀ mark, mark ∈ m.stale → mark ∈ stale)
    (moved : ∀ owner, m.lock = some owner → owner.token = token ∧ owner.pid ∉ m.dead ∨
      owner.pid ∈ m.dead ∧ .token owner.token ∈ stale) :
    Grows token m ({ m with lock := none, stale := stale }.become token task phase) where
  tasks := become_kept rfl found published
  dead _ dead := dead
  stale := kept
  lock owner locked := Or.inr (moved owner locked)
  publishes owner locked := by cases locked

theorem LockInvariant.remove {stale : List Fingerprint} (inv : LockInvariant m)
    (grows : Grows token m ({ m with lock := none, stale := stale }.become token task phase))
    (free : phase.holds = false) (observed : m.Observed phase) :
    LockInvariant ({ m with lock := none, stale := stale }.become token task phase) := by
  apply inv.act grows rfl
  · intro owner locked
    cases locked
  · intro held
    rw [free] at held
    cases held
  · exact Or.inl observed

variable [DecidableEq T]

theorem advance_invariant (config : Config D T) (token : Token) (task : Task D T R) (choice : Bool)
    (inv : LockInvariant m) (found : m.tasks token = some task) (alive : task.pid ∉ m.dead) :
    LockInvariant (m.advance config token task choice) := by
  have observed := inv.observed token task found
  cases phase : task.phase with
  | trying =>
    have waits : task.phase.acquiring = true := by rw [phase]; rfl
    simp only [advance, phase]
    cases locked : m.lock with
    | none =>
      have grows : Grows token m ((m.publish token task).become token task
          (.loading (loadLatest config task.backupFirst))) :=
        Grows.publish locked found (by rw [phase]; rfl)
      apply inv.act grows rfl
      · intro owner published
        exact Or.inr ⟨(Option.some.inj published).symm, rfl⟩
      · exact fun _ => rfl
      · exact Or.inl trivial
    | some there => exact inv.contend found alive (.refl m) waits rfl trivial
  | contended =>
    have waits : task.phase.acquiring = true := by rw [phase]; rfl
    simp only [advance, phase]
    cases m.lock with
    | none =>
      simp only [Option.isSome_none, Bool.false_eq_true, ↓reduceIte]
      exact inv.contend found alive (.refl m) waits rfl trivial
    | some there =>
      simp only [Option.isSome_some, ↓reduceIte]
      exact inv.contend found alive (.refl m) waits rfl trivial
  | inspecting =>
    have waits : task.phase.acquiring = true := by rw [phase]; rfl
    simp only [advance, phase]
    cases locked : m.lock with
    | none =>
      dsimp only
      exact inv.contend found alive (.refl m) waits rfl trivial
    | some there =>
      apply inv.contend found alive (.refl m) waits rfl
      exact (inv.owner there locked).2
  | observing directory =>
    have waits : task.phase.acquiring = true := by rw [phase]; rfl
    simp only [advance, phase]
    rw [phase] at observed
    apply inv.contend found alive (.refl m) waits rfl
    exact inv.seen observed
  | judging snapshot =>
    have waits : task.phase.acquiring = true := by rw [phase]; rfl
    simp only [advance, phase]
    rw [phase] at observed
    split
    · rename_i stale
      apply inv.contend found alive (.refl m) waits rfl
      exact ⟨observed, deadOwner_of_stale stale⟩
    · exact inv.contend found alive (.refl m) waits rfl trivial
  | guarding snapshot =>
    have waits : task.phase.acquiring = true := by rw [phase]; rfl
    simp only [advance, phase]
    rw [phase] at observed
    cases locked : m.lock with
    | none =>
      dsimp only
      exact inv.contend found alive (.refl m) waits rfl trivial
    | some there =>
      exact inv.contend found alive ⟨rfl, rfl, rfl, locked.symm⟩ waits rfl observed
  | confirming snapshot =>
    have waits : task.phase.acquiring = true := by rw [phase]; rfl
    simp only [advance, phase]
    rw [phase] at observed
    cases locked : m.lock with
    | none =>
      dsimp only
      exact inv.contend found alive (.refl m) waits rfl trivial
    | some there =>
      apply inv.contend found alive (.refl m) waits rfl
      exact fun same => inv.cornered observed.1 observed.2 locked same
  | reobserving snapshot directory =>
    have waits : task.phase.acquiring = true := by rw [phase]; rfl
    simp only [advance, phase]
    rw [phase] at observed
    exact inv.contend found alive (.refl m) waits rfl observed
  | comparing snapshot confirmed =>
    have waits : task.phase.acquiring = true := by rw [phase]; rfl
    simp only [advance, phase]
    rw [phase] at observed
    split
    · rename_i same
      simp only [sameLockIdentity, Bool.and_eq_true, decide_eq_true_eq] at same
      exact inv.contend found alive (.refl m) waits rfl
        (observed same.1.1)
    · exact inv.contend found alive (.refl m) waits rfl trivial
  | quarantining snapshot =>
    have waits : task.phase.acquiring = true := by rw [phase]; rfl
    simp only [advance, phase]
    rw [phase] at observed
    cases locked : m.lock with
    | none =>
      dsimp only
      exact inv.contend found alive (.refl m) waits rfl trivial
    | some there =>
      simp only
      split
      · exact inv.contend found alive (.refl m) waits rfl trivial
      · rename_i fenced
        obtain ⟨owner, foundOwner, dead, still⟩ := observed
        have mark : lockFingerprint snapshot = .token owner.token := by
          simp [lockFingerprint, foundOwner]
        refine inv.remove (Grows.remove found (by simp [waits]) ?_ ?_) rfl trivial
        · exact fun other there => List.mem_cons_of_mem _ there
        · intro held lockedBy
          rcases still with same | tombstone
          · rw [same] at lockedBy
            cases lockedBy
            exact Or.inr ⟨dead, by simp [mark]⟩
          · rw [mark] at fenced
            exact (fenced tombstone).elim
  | waiting =>
    have waits : task.phase.acquiring = true := by rw [phase]; rfl
    simp only [advance, phase]
    cases choice with
    | false => exact inv.contend found alive (.refl m) waits rfl trivial
    | true => exact inv.contend found alive (.refl m) waits rfl trivial
  | loading program =>
    have holding : ∀ next : Phase T R, next.holds → task.phase.holds := fun _ _ => by rw [phase]; rfl
    cases program with
    | done base =>
      simp only [advance, phase]
      exact inv.quiet found alive ⟨rfl, rfl, rfl, rfl⟩ (fun _ => rfl) (holding _) trivial
    | throw reason =>
      simp only [advance, phase]
      exact inv.quiet found alive (.refl m) (fun _ => rfl) (holding _) trivial
    | call op next =>
      simp only [advance, phase]
      exact inv.quiet found alive ⟨rfl, rfl, rfl, rfl⟩ (fun _ => rfl) (holding _) trivial
  | updating program =>
    have holding : ∀ next : Phase T R, next.holds → task.phase.holds := fun _ _ => by rw [phase]; rfl
    cases program with
    | done result =>
      simp only [advance, phase]
      cases m.memory task.store with
      | none => exact inv.quiet found alive (.refl m) (fun _ => rfl) (holding _) trivial
      | some envelope =>
        exact inv.quiet found alive ⟨rfl, rfl, rfl, rfl⟩ (fun _ => rfl) (holding _) trivial
    | throw reason =>
      simp only [advance, phase]
      exact inv.quiet found alive (.refl m) (fun _ => rfl) (holding _) trivial
    | call op next =>
      simp only [advance, phase]
      exact inv.quiet found alive ⟨rfl, rfl, rfl, rfl⟩ (fun _ => rfl) (holding _) trivial
  | releasing result =>
    have holding : ∀ next : Phase T R, next.holds → task.phase.holds := fun _ _ => by rw [phase]; rfl
    simp only [advance, phase]
    split
    · exact inv.quiet found alive (.refl m) (fun _ => rfl) (holding _) trivial
    · exact inv.quiet found alive (.refl m) (fun _ => rfl) (holding _) trivial
  | unlocking result =>
    have locked := inv.holder token task found alive (by rw [phase]; rfl)
    simp only [advance, phase, locked]
    refine inv.remove (Grows.remove found (fun _ => rfl) (fun _ there => there) ?_) rfl trivial
    intro owner lockedBy
    rw [locked] at lockedBy
    cases lockedBy
    exact Or.inl ⟨rfl, alive⟩
  | settled result =>
    simp only [advance, phase]
    exact inv

omit [DecidableEq T] in
theorem crash_same (m : Machine D T R) (pid : Pid) (token : Token) (extent : Extent) :
    (m.crash pid token extent).tasks = m.tasks ∧ (m.crash pid token extent).lock = m.lock ∧
      (m.crash pid token extent).stale = m.stale ∧ (m.crash pid token extent).dead = pid :: m.dead := by
  unfold crash
  repeat' split
  all_goals exact ⟨rfl, rfl, rfl, rfl⟩

omit [DecidableEq T] in
theorem Grows.crash (actor : Token) (m : Machine D T R) (pid : Pid) (token : Token) (extent : Extent) :
    Grows actor m (m.crash pid token extent) := by
  obtain ⟨tasks, lock, stale, dead⟩ := crash_same m pid token extent
  constructor
  · intro other task found
    exact ⟨task, by rw [tasks]; exact found, rfl, id⟩
  · intro other there
    rw [dead]
    exact List.mem_cons_of_mem _ there
  · intro mark there
    rwa [stale]
  · intro owner locked
    rw [lock]
    exact Or.inl locked
  · intro owner locked
    rw [lock] at locked
    exact Or.inl locked

theorem step_lockInvariant (config : Config D T) (action : Action D T R) (inv : LockInvariant m) :
    LockInvariant (m.step config action) := by
  cases action with
  | spawn token pid store request backupFirst =>
    simp only [step]
    cases found : m.tasks token with
    | some task => exact inv
    | none =>
      dsimp only
      split
      · exact inv
      · have grows : Grows token m (m.become token ⟨pid, store, request, backupFirst, .trying⟩ .trying) := by
          constructor
          · intro other task foundOther
            refine ⟨task, ?_, rfl, id⟩
            have different : other ≠ token := by
              rintro rfl
              rw [found] at foundOther
              cases foundOther
            rw [become_tasks]
            simpa [different] using foundOther
          · exact fun _ dead => dead
          · exact fun _ there => there
          · exact fun _ locked => Or.inl locked
          · exact fun _ locked => Or.inl locked
        exact inv.act grows rfl (fun _ locked => Or.inl locked) nofun (Or.inl trivial)
  | advance token choice =>
    simp only [step]
    cases found : m.tasks token with
    | none => exact inv
    | some task =>
      dsimp only
      split
      · exact inv
      · rename_i alive
        exact advance_invariant config token task choice inv found alive
  | crash pid token extent =>
    simp only [step]
    split
    · exact inv
    · have grows := Grows.crash token m pid token extent
      obtain ⟨tasks, lock, stale, dead⟩ := crash_same m pid token extent
      constructor
      · intro owner locked
        rw [lock] at locked
        obtain ⟨isOwner, acquired⟩ := inv.owner owner locked
        exact ⟨isOwner.grows grows, acquired.grows grows⟩
      · intro other task found alive held
        rw [tasks] at found
        rw [lock]
        exact inv.holder other task found (fun dead => alive (grows.dead _ dead)) held
      · intro other task found
        rw [tasks] at found
        exact (inv.observed other task found).grows grows

omit [DecidableEq T] in
theorem initial_lockInvariant : LockInvariant (initial : Machine D T R) :=
  ⟨nofun, nofun, nofun⟩

/-- Inside the critical section, alive. -/
def Inside (m : Machine D T R) (token : Token) : Prop :=
  ∃ task, m.tasks token = some task ∧ task.pid ∉ m.dead ∧ task.phase.holds

omit [DecidableEq T] in
theorem LockInvariant.exclusive (inv : LockInvariant m) (first : m.Inside token)
    (second : m.Inside token') : token = token' := by
  obtain ⟨task, found, alive, held⟩ := first
  obtain ⟨task', found', alive', held'⟩ := second
  have locked := inv.holder token task found alive held
  have locked' := inv.holder token' task' found' alive' held'
  rw [locked] at locked'
  exact congrArg LockOwner.token (Option.some.inj locked')

/-- A held lock is moved by its holder, or because its owner is dead. -/
theorem advance_lock (config : Config D T) (choice : Bool) (inv : LockInvariant m)
    (found : m.tasks token = some task) (alive : task.pid ∉ m.dead) (locked : m.lock = some owner) :
    (m.advance config token task choice).lock = some owner ∨ owner.token = token ∨
      owner.pid ∈ m.dead := by
  have observed := inv.observed token task found
  cases phase : task.phase with
  | quarantining snapshot =>
    rw [phase] at observed
    obtain ⟨dead, foundDead, isDead, there⟩ := observed
    have mark : lockFingerprint snapshot = .token dead.token := by simp [lockFingerprint, foundDead]
    simp only [advance, phase, locked]
    split
    · exact Or.inl locked
    · rename_i fenced
      rw [mark] at fenced
      rcases there with same | tombstone
      · rw [locked] at same
        cases same
        exact Or.inr (Or.inr isDead)
      · exact (fenced tombstone).elim
  | unlocking result =>
    have own := inv.holder token task found alive (by rw [phase]; rfl)
    rw [locked] at own
    exact Or.inr (Or.inl (congrArg LockOwner.token (Option.some.inj own)))
  | loading program =>
    left
    cases program <;> simp only [advance, phase] <;> exact locked
  | updating program =>
    left
    cases program <;> simp only [advance, phase]
    · split <;> exact locked
    · exact locked
    · exact locked
  | trying => exact Or.inl (by simp only [advance, phase, locked]; exact locked)
  | contended => exact Or.inl (by simp only [advance, phase]; exact locked)
  | inspecting => exact Or.inl (by simp only [advance, phase, locked]; exact locked)
  | observing directory => exact Or.inl (by simp only [advance, phase]; exact locked)
  | judging snapshot => exact Or.inl (by simp only [advance, phase]; exact locked)
  | guarding snapshot => exact Or.inl (by simp only [advance, phase, locked]; rfl)
  | confirming snapshot => exact Or.inl (by simp only [advance, phase, locked]; exact locked)
  | reobserving snapshot directory => exact Or.inl (by simp only [advance, phase]; exact locked)
  | comparing snapshot confirmed => exact Or.inl (by simp only [advance, phase]; exact locked)
  | waiting => exact Or.inl (by simp only [advance, phase]; exact locked)
  | releasing result => exact Or.inl (by simp only [advance, phase]; exact locked)
  | settled result => exact Or.inl (by simp only [advance, phase]; exact locked)

theorem step_keeps_lock (config : Config D T) (action : Action D T R) (inv : LockInvariant m)
    (locked : m.lock = some owner) (alive : owner.pid ∉ m.dead) :
    (m.step config action).lock = some owner ∨ ∃ choice, action = .advance owner.token choice := by
  cases action with
  | spawn token pid store request backupFirst =>
    left
    simp only [step]
    split
    · exact locked
    · split <;> exact locked
  | advance token choice =>
    simp only [step]
    cases found : m.tasks token with
    | none => exact Or.inl locked
    | some task =>
      dsimp only
      split
      · exact Or.inl locked
      · rename_i live
        rcases advance_lock config choice inv found live locked with same | actor | dead
        · exact Or.inl same
        · exact Or.inr ⟨choice, by rw [actor]⟩
        · exact (alive dead).elim
  | crash pid token extent =>
    left
    simp only [step]
    split
    · exact locked
    · rw [(crash_same m pid token extent).2.1]
      exact locked

end Machine

end AtomicJsonStore
