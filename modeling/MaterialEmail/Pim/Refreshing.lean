import MaterialEmail.Pim.TaskVersion
import MaterialEmail.Library.Interleaving

/-! Refreshes of the tasks, side by side with each other and with all other operations, from any number
of services on one store. A refresh looks at the version of the tasks, waits for its loader, and is
applied by a mutator that looks again. -/
namespace Pim.Refreshing

open Interrupted Interleaved

inductive Op where
  /-- An operation that is one mutator of the store. -/
  | perform (request : Request)
  /-- `++this.#latestTaskRefreshRequest`. -/
  | nextRequest (service : Nat)
  /-- The read of the version that a refresh begins with. -/
  | readBaseline
  | load (requestId : Nat)
  | latestRequest (service : Nat)
  | readVersion
  /-- The mutator of `refreshTasks`. -/
  | apply (service requestId baseline : Nat) (rawTasks : List TaskRefreshInput)

abbrev Reply : Op → Type
  | .perform _ => Unit
  | .nextRequest _ => Nat
  | .readBaseline => Except PimError Nat
  | .load _ => Except PimError (List TaskRefreshInput)
  | .latestRequest _ => Nat
  | .readVersion => Except PimError Nat
  | .apply _ _ _ _ => Except PimError TaskRefreshResult

/-- How the world answers an operation. -/
inductive Choice where
  | proceeds
  | within (env : Surroundings)
  | loads (rawTasks : List TaskRefreshInput)
  | fails (error : PimError)

/-- The store that the services share, and the counter that each service has of its own. -/
structure State where
  store : PersistedPimState
  latestTaskRefreshRequest : Nat → Nat

variable (letters : LetterCase)

def environment : Environment Op Reply Choice State where
  answer _ op choice s :=
    match op, choice with
    | .perform request, .within env => some ((), { s with store := perform letters env request s.store })
    | .perform _, .fails _ => some ((), s)
    | .nextRequest service, .proceeds =>
      let requestId := s.latestTaskRefreshRequest service + 1
      some (requestId, { s with
        latestTaskRefreshRequest := Function.update s.latestTaskRefreshRequest service requestId })
    | .readBaseline, .proceeds => some (.ok s.store.taskMutationVersion, s)
    | .readBaseline, .fails error => some (.error error, s)
    | .load _, .loads rawTasks => some (.ok rawTasks, s)
    | .load _, .fails error => some (.error error, s)
    | .latestRequest service, .proceeds => some (s.latestTaskRefreshRequest service, s)
    | .readVersion, .proceeds => some (.ok s.store.taskMutationVersion, s)
    | .readVersion, .fails error => some (.error error, s)
    | .apply service requestId baseline rawTasks, .within env =>
      match Pim.refreshTasks letters env requestId (s.latestTaskRefreshRequest service) baseline rawTasks s.store with
      | .ok (store, result) => some (.ok result, { s with store := store })
      | .error error => some (.error error, s)
    | .apply _ _ _ _, .fails error => some (.error error, s)
    | _, _ => none

abbrev Service := Program Op Reply PimError

def orThrow : Except PimError α → Service α
  | .ok value => .done value
  | .error error => .throw error

/-- What `refreshTasks` asks of the tasks that have been loaded. -/
def checkTasks (rawTasks : List TaskRefreshInput) : Except PimError Unit := do
  let refreshed ← orInvalid (bounded 100000 taskRefreshInputSchema rawTasks)
  if (refreshed.map (·.uid)).Nodup then .ok ()
  else .error (.conflict (JsString.ofString "A task refresh cannot contain duplicate UIDs."))

def refreshTasks (service : Nat) : Service TaskRefreshResult :=
  .call (.nextRequest service) fun requestId => .call .readBaseline fun read => do
    let baseline ← orThrow read
    let rawTasks ← .call (.load requestId) orThrow
    .call (.latestRequest service) fun latest =>
      if requestId ≠ latest then .done ⟨requestId, .superseded, []⟩
      else .call .readVersion fun read => do
        let version ← orThrow read
        if version ≠ baseline then .done ⟨requestId, .localStateChanged, []⟩
        else do
          orThrow (checkTasks rawTasks)
          .call (.apply service requestId baseline rawTasks) orThrow

/-- What can be asked of the services. -/
inductive Call where
  | create (kind : PimEntityKind) (input : CreateInput kind)
  | update (kind : PimEntityKind) (uid : JsString) (patch : Patch kind)
  | delete (kind : PimEntityKind) (uid : JsString)
  | restore (kind : PimEntityKind) (uid : JsString) (sourceTransactionId : Option JsString)
  | importVCard (parsed : ParsedVCardBundle)
  | importICalendar (parsed : ParsedICalendarBundle) (policy : ICalendarDuplicatePolicy)
  | refreshTasks (service : Nat)

def Call.program : Call → Service Unit
  | .create kind input => .call (.perform (.create kind input)) .done
  | .update kind uid patch => .call (.perform (.update kind uid patch)) .done
  | .delete kind uid => .call (.perform (.delete kind uid)) .done
  | .restore kind uid sourceTransactionId => .call (.perform (.restore kind uid sourceTransactionId)) .done
  | .importVCard parsed => .call (.perform (.importVCard parsed)) .done
  | .importICalendar parsed policy => .call (.perform (.importICalendar parsed policy)) .done
  | .refreshTasks service => do
    let _ ← Refreshing.refreshTasks service
    return ()

section Watching

/-- What an observer notes of the refreshes. -/
structure Watch where
  /-- The refreshes that have been begun, the newest first: the service and the task. -/
  begun : List (Nat × Nat)
  /-- The version that the refresh of a task has begun with. -/
  baseline : Nat → Option Nat
  /-- Whether tasks have changed since. -/
  changed : Nat → Bool

abbrev Watched := State × Watch

/-- Whether an answer changes the tasks. -/
def changesTasks (task : Nat) (op : Op) (choice : Choice) (s : State) : Bool :=
  match (environment letters).answer task op choice s with
  | some (_, s') => s'.store.collection .task ≠ s.store.collection .task
  | none => false

def watch : Observer Op Reply Choice State Watch := fun task op choice reply s g =>
  match op, reply with
  | .nextRequest service, _ => { g with begun := (service, task) :: g.begun }
  | .readBaseline, .ok version => { g with
      baseline := Function.update g.baseline task (some version)
      changed := Function.update g.changed task false }
  | op, _ => if changesTasks letters task op choice s then { g with changed := fun _ => true } else g

abbrev watched : Environment Op Reply Choice Watched := (environment letters).observed (watch letters)

/-- The services have been started on a store. -/
def Watched.initial (store : PersistedPimState) : Watched := (⟨store, fun _ => 0⟩, ⟨[], fun _ => none, fun _ => false⟩)

end Watching

section Contract

/-- The requests of a service among those that have been begun. -/
def requestsOf (service : Nat) (begun : List (Nat × Nat)) : Nat := (begun.filter (·.1 = service)).length

structure Invariant (s : Watched) : Prop where
  ledger : Ledger letters s.1.store
  numbered : ∀ service, s.1.latestTaskRefreshRequest service = requestsOf service s.2.begun
  /-- The version tells whether tasks have changed since a refresh began. -/
  since : ∀ task version, s.2.baseline task = some version → version ≤ s.1.store.taskMutationVersion ∧
    (s.2.changed task = true → version < s.1.store.taskMutationVersion)

/-- The number that a task has taken for its refresh. -/
def Began (task service requestId : Nat) (s : Watched) : Prop :=
  ∃ later earlier, s.2.begun = later ++ (service, task) :: earlier ∧ requestId = requestsOf service earlier + 1

/-- What an answer to one task leaves to the others. -/
structure Guarantees (task : Nat) (s s' : Watched) : Prop where
  inv : Invariant letters s'
  begun : ∃ later, s'.2.begun = later ++ s.2.begun
  baseline : ∀ other, other ≠ task → s'.2.baseline other = s.2.baseline other

structure Relies (task : Nat) (s s' : Watched) : Prop where
  begun : ∃ later, s'.2.begun = later ++ s.2.begun
  baseline : s'.2.baseline task = s.2.baseline task

def contract : Contract Op Call Choice Watched where
  starts _ _ := True
  allowed _ _ _ _ := True
  inv := Invariant letters
  rely := Relies
  guar := Guarantees letters
  demand task op s := match op with
    | .apply service requestId baseline _ => Began task service requestId s ∧ s.2.baseline task = some baseline
    | _ => True
  ends _ _ := True

theorem Relies.refl (task : Nat) (s : Watched) : Relies task s s := ⟨⟨[], rfl⟩, rfl⟩

theorem Relies.trans {task : Nat} {s s' s'' : Watched} (first : Relies task s s') (second : Relies task s' s'') :
    Relies task s s'' := by
  obtain ⟨one, isOne⟩ := first.begun
  obtain ⟨two, isTwo⟩ := second.begun
  exact ⟨⟨two ++ one, by rw [isTwo, isOne, List.append_assoc]⟩, second.baseline.trans first.baseline⟩

theorem contract_lawful : (contract letters).Lawful where
  refl := Relies.refl
  trans _ _ _ _ := Relies.trans
  others _ _ _ _ different guaranteed := ⟨guaranteed.begun, guaranteed.baseline _ different⟩
  keeps _ _ _ _ guaranteed := guaranteed.inv
  stable _ _ _ _ _ := trivial

theorem Began.stable {task service requestId : Nat} {s s' : Watched} (relies : Relies task s s')
    (began : Began task service requestId s) : Began task service requestId s' := by
  obtain ⟨more, isMore⟩ := relies.begun
  obtain ⟨later, earlier, split, same⟩ := began
  exact ⟨more ++ later, earlier, by rw [isMore, split, List.append_assoc], same⟩

theorem Began.newest {task service : Nat} {s : Watched} (inv : Invariant letters s)
    (began : Began task service (s.1.latestTaskRefreshRequest service) s) :
    s.2.begun.find? (·.1 = service) = some (service, task) := by
  obtain ⟨later, earlier, split, same⟩ := began
  have count := inv.numbered service
  rw [split] at count ⊢
  have none : later.filter (·.1 = service) = [] := by
    rw [← List.length_eq_zero_iff]
    simp only [requestsOf, List.filter_append, List.length_append, List.filter_cons, decide_true, if_true,
      List.length_cons] at count same
    omega
  have missing : later.find? (·.1 = service) = Option.none := by
    rw [List.find?_eq_none]
    exact List.filter_eq_nil_iff.1 none
  simp [List.find?_append, missing]

end Contract

section Answers

variable {letters} {task : Nat} {op : Op} {choice : Choice} {reply : Reply op}

theorem answer_counted {s s' : State} (ledger : Ledger letters s.store)
    (answered : (environment letters).answer task op choice s = some (reply, s')) :
    Ledger letters s'.store ∧ Counted s.store s'.store := by
  cases op with
  | perform request =>
    cases choice with
    | within env =>
      cases answered
      exact ⟨(perform_grows ledger request).ledger ledger, perform_counted ledger request⟩
    | fails error =>
      cases answered
      exact ⟨ledger, Counted.refl⟩
    | _ => cases answered
  | apply service requestId baseline rawTasks =>
    cases choice with
    | within env =>
      simp only [environment] at answered
      split at answered
      · rename_i store result ok
        cases answered
        exact ⟨(refreshTasks_ok ledger ok).ledger ledger, refreshTasks_counted ledger ok⟩
      · cases answered
        exact ⟨ledger, Counted.refl⟩
    | fails error =>
      cases answered
      exact ⟨ledger, Counted.refl⟩
    | _ => cases answered
  | _ => cases choice <;> cases answered <;> exact ⟨ledger, Counted.refl⟩

theorem answer_latest {s s' : State} (other : ∀ service, op ≠ .nextRequest service)
    (answered : (environment letters).answer task op choice s = some (reply, s')) :
    s'.latestTaskRefreshRequest = s.latestTaskRefreshRequest := by
  cases op with
  | nextRequest service => exact absurd rfl (other service)
  | apply service requestId baseline rawTasks =>
    cases choice with
    | within env =>
      simp only [environment] at answered
      split at answered <;> cases answered <;> rfl
    | fails error =>
      cases answered
      rfl
    | _ => cases answered
  | _ => cases choice <;> cases answered <;> rfl

theorem changesTasks_iff {s s' : State} (answered : (environment letters).answer task op choice s = some (reply, s')) :
    changesTasks letters task op choice s = true ↔ s'.store.collection .task ≠ s.store.collection .task := by
  simp [changesTasks, answered]

theorem watched_answer {s s' : Watched} (answered : (watched letters).answer task op choice s = some (reply, s')) :
    (environment letters).answer task op choice s.1 = some (reply, s'.1) ∧
      s'.2 = watch letters task op choice reply s.1 s.2 := by
  simp only [watched, Environment.observed, Option.map_eq_some_iff, Prod.exists] at answered
  obtain ⟨reply', state, answered, same⟩ := answered
  cases same
  exact ⟨answered, rfl⟩

/-- What the observer notes of an answer that neither begins a refresh nor gives it its baseline. -/
theorem noted_keeps {s s' : Watched} (inv : Invariant letters s)
    (answered : (environment letters).answer task op choice s.1 = some (reply, s'.1))
    (other : ∀ service, op ≠ .nextRequest service)
    (noted : s'.2 = if changesTasks letters task op choice s.1 then { s.2 with changed := fun _ => true } else s.2) :
    Invariant letters s' ∧ s'.2.begun = s.2.begun ∧ s'.2.baseline = s.2.baseline := by
  have begun : s'.2.begun = s.2.begun := by
    rw [noted]
    split <;> rfl
  have baseline : s'.2.baseline = s.2.baseline := by
    rw [noted]
    split <;> rfl
  obtain ⟨ledger, counted⟩ := answer_counted inv.ledger answered
  have advances := counted.advances
  refine ⟨⟨ledger, fun service => ?_, fun task' version isBaseline => ?_⟩, begun, baseline⟩
  · rw [answer_latest other answered, begun]
    exact inv.numbered service
  · rw [baseline] at isBaseline
    obtain ⟨before, behind⟩ := inv.since task' version isBaseline
    refine ⟨by omega, fun changed => ?_⟩
    by_cases changes : changesTasks letters task op choice s.1 = true
    · have counts := counted.counts ((changesTasks_iff answered).1 changes)
      omega
    · rw [noted, if_neg changes] at changed
      have := behind changed
      omega

theorem watched_keeps {s s' : Watched} (inv : Invariant letters s)
    (answered : (watched letters).answer task op choice s = some (reply, s')) :
    Guarantees letters task s s' ∧ (op ≠ .readBaseline → s'.2.baseline task = s.2.baseline task) := by
  obtain ⟨answered, noted⟩ := watched_answer answered
  have plainly : (∀ service, op ≠ .nextRequest service) →
      (s'.2 = if changesTasks letters task op choice s.1 then { s.2 with changed := fun _ => true } else s.2) →
      Guarantees letters task s s' ∧ (op ≠ .readBaseline → s'.2.baseline task = s.2.baseline task) := by
    intro other noted
    obtain ⟨inv', begun, baseline⟩ := noted_keeps inv answered other noted
    exact ⟨⟨inv', ⟨[], begun⟩, fun _ _ => by rw [baseline]⟩, fun _ => by rw [baseline]⟩
  cases op with
  | nextRequest service =>
    cases choice with
    | proceeds =>
      simp only [environment, Option.some.injEq, Prod.mk.injEq] at answered
      obtain ⟨-, state⟩ := answered
      have store : s'.1.store = s.1.store := by rw [← state]
      have begun : s'.2.begun = (service, task) :: s.2.begun := by rw [noted]; rfl
      have baseline : s'.2.baseline = s.2.baseline := by rw [noted]; rfl
      have changed : s'.2.changed = s.2.changed := by rw [noted]; rfl
      refine ⟨⟨⟨store ▸ inv.ledger, fun other => ?_, ?_⟩, ⟨[(service, task)], begun⟩, fun _ _ => by rw [baseline]⟩,
        fun _ => by rw [baseline]⟩
      · have count := inv.numbered other
        rw [begun, ← state]
        by_cases same : service = other
        · subst same
          simp [requestsOf, count]
        · simp [requestsOf, same, Ne.symm same, count]
      · rw [baseline, changed, store]
        exact inv.since
    | _ => cases answered
  | readBaseline =>
    cases choice with
    | proceeds =>
      cases reply with
      | error error => cases answered
      | ok version =>
        simp only [environment, Option.some.injEq, Prod.mk.injEq, Except.ok.injEq] at answered
        obtain ⟨isVersion, state⟩ := answered
        have begun : s'.2.begun = s.2.begun := by rw [noted]; rfl
        have baseline : s'.2.baseline = Function.update s.2.baseline task (some version) := by rw [noted]; rfl
        have changed : s'.2.changed = Function.update s.2.changed task false := by rw [noted]; rfl
        refine ⟨⟨⟨state ▸ inv.ledger, fun other => ?_, fun other since isBaseline => ?_⟩, ⟨[], begun⟩,
          fun other different => ?_⟩, fun other => absurd rfl other⟩
        · rw [begun, ← state]
          exact inv.numbered other
        · rw [baseline] at isBaseline
          rw [changed, ← state]
          by_cases same : other = task
          · subst same
            rw [Function.update_self, Option.some.injEq] at isBaseline
            rw [Function.update_self]
            exact ⟨by omega, by simp⟩
          · rw [Function.update_of_ne same] at isBaseline
            rw [Function.update_of_ne same]
            exact inv.since other since isBaseline
        · rw [baseline, Function.update_of_ne different]
    | fails error =>
      cases reply with
      | error error' => exact plainly (by simp) noted
      | ok version => cases answered
    | _ => cases answered
  | perform request => exact plainly (by simp) noted
  | load requestId => exact plainly (by simp) noted
  | latestRequest service => exact plainly (by simp) noted
  | readVersion => exact plainly (by simp) noted
  | apply service requestId baseline rawTasks => exact plainly (by simp) noted

end Answers

section Programs

variable {letters} {task : Nat} {s : Watched}

theorem ask_keeps {op : Op} {next : Reply op → Service α} {post : Except PimError α → Watched → Prop}
    (other : op ≠ .readBaseline) (demanded : ∀ s', Relies task s s' → (contract letters).demand task op s')
    (rest : ∀ choice reply s' s'', Relies task s s' → Invariant letters s' →
      (watched letters).answer task op choice s' = some (reply, s'') → Relies task s s'' →
      meets (watched letters) (contract letters) task (next reply) post s'') :
    meets (watched letters) (contract letters) task (.call op next) post s := by
  intro s' relies inv
  refine ⟨demanded s' relies, fun choice reply s'' _ answered => ?_⟩
  obtain ⟨guaranteed, baseline⟩ := watched_keeps inv answered
  have goes : Relies task s' s'' := ⟨guaranteed.begun, baseline other⟩
  exact ⟨guaranteed, rest choice reply s' s'' relies inv answered (relies.trans goes)⟩

theorem refreshTasks_keeps (service : Nat) :
    meets (watched letters) (contract letters) task (refreshTasks service) (fun _ _ => True) s := by
  refine ask_keeps (by simp) (fun _ _ => trivial) fun choice requestId s s₁ _ inv answered _ => ?_
  have began : Began task service requestId s₁ := by
    obtain ⟨answered, noted⟩ := watched_answer answered
    cases choice with
    | proceeds =>
      simp only [environment, Option.some.injEq, Prod.mk.injEq] at answered
      refine ⟨[], s.2.begun, by rw [noted]; rfl, ?_⟩
      rw [← answered.1, inv.numbered service]
    | _ => cases answered
  intro s₂ relies₁ inv₂
  refine ⟨trivial, fun choice read s₃ _ answered => ?_⟩
  obtain ⟨guaranteed, -⟩ := watched_keeps inv₂ answered
  refine ⟨guaranteed, ?_⟩
  cases read with
  | error error => trivial
  | ok baseline =>
    have holds : Began task service requestId s₃ ∧ s₃.2.baseline task = some baseline := by
      obtain ⟨-, noted⟩ := watched_answer answered
      have begun : s₃.2.begun = s₂.2.begun := by rw [noted]; rfl
      obtain ⟨later, earlier, split, same⟩ := began.stable relies₁
      refine ⟨⟨later, earlier, begun.trans split, same⟩, ?_⟩
      rw [noted]
      exact Function.update_self ..
    have held : ∀ s', Relies task s₃ s' → Began task service requestId s' ∧ s'.2.baseline task = some baseline :=
      fun s' relies => ⟨holds.1.stable relies, relies.baseline.trans holds.2⟩
    refine ask_keeps (by simp) (fun _ _ => trivial) fun _ loaded _ s₄ _ _ _ relies₄ => ?_
    cases loaded with
    | error error => trivial
    | ok rawTasks =>
      refine ask_keeps (by simp) (fun _ _ => trivial) fun _ latest _ s₅ _ _ _ relies₅ => ?_
      by_cases newest : requestId ≠ latest
      · rw [if_pos newest]
        trivial
      · rw [if_neg newest]
        refine ask_keeps (by simp) (fun _ _ => trivial) fun _ read _ s₆ _ _ _ relies₆ => ?_
        cases read with
        | error error => trivial
        | ok version =>
          show meets _ _ _ (if version ≠ baseline then _ else _) _ _
          by_cases current : version ≠ baseline
          · rw [if_pos current]
            trivial
          · rw [if_neg current]
            cases checkTasks rawTasks with
            | error error => trivial
            | ok checked =>
              refine ask_keeps (by simp) (fun s' relies => held s' ?_) fun _ result _ _ _ _ _ _ => ?_
              · exact relies₄.trans (relies₅.trans (relies₆.trans relies))
              · cases result <;> trivial

theorem program_keeps (task : Nat) (call : Call) (s : Watched) :
    meets (watched letters) (contract letters) task call.program (fun _ => (contract letters).ends task) s := by
  have once : ∀ request, meets (watched letters) (contract letters) task
      (.call (.perform request) .done : Service Unit) (fun _ => (contract letters).ends task) s :=
    fun request => ask_keeps (by simp) (fun _ _ => trivial) fun _ _ _ _ _ _ _ _ => trivial
  cases call with
  | refreshTasks service =>
    refine meets_seq (meets_mono (refreshTasks_keeps service) fun result _ _ => ?_)
    cases result <;> trivial
  | create kind input => exact once (.create kind input)
  | update kind uid patch => exact once (.update kind uid patch)
  | delete kind uid => exact once (.delete kind uid)
  | restore kind uid sourceTransactionId => exact once (.restore kind uid sourceTransactionId)
  | importVCard parsed => exact once (.importVCard parsed)
  | importICalendar parsed policy => exact once (.importICalendar parsed policy)

end Programs

/-- What holds wherever a run has come to. -/
structure RefreshesInOrder (w : World Op Reply PimError Watched) : Prop where
  /-- Only the newest refresh of a service is applied, and only if no task has changed since it began. -/
  applied : ∀ task service requestId baseline rawTasks,
    w.tasks[task]?.bind due = some (.apply service requestId baseline rawTasks) → ∀ choice reply s',
    (watched letters).answer task (.apply service requestId baseline rawTasks) choice w.state = some (reply, s') →
      ((∃ result, reply = .ok result ∧ result.reason = .applied) ∧
        w.state.2.begun.find? (·.1 = service) = some (service, task) ∧
        w.state.2.baseline task = some baseline ∧ w.state.2.changed task = false) ∨
      ((∀ result, reply = .ok result → result.reason ≠ .applied) ∧ s'.1.store = w.state.1.store)
  /-- Nothing else that a refresh does touches the store. -/
  aside : ∀ task op, (∀ request, op ≠ .perform request) →
    (∀ service requestId baseline rawTasks, op ≠ .apply service requestId baseline rawTasks) → ∀ choice reply s',
    (watched letters).answer task op choice w.state = some (reply, s') → s'.1.store = w.state.1.store
  /-- A change of the tasks advances their version. -/
  counted : ∀ task op choice reply s', (watched letters).answer task op choice w.state = some (reply, s') →
    s'.1.store.collection .task ≠ w.state.1.store.collection .task →
    w.state.1.store.taskMutationVersion < s'.1.store.taskMutationVersion

theorem initial_inv {store : PersistedPimState} (ledger : Ledger letters store) :
    Invariant letters (Watched.initial store) := ⟨ledger, fun _ => rfl, nofun⟩

theorem kept_in_order {w : World Op Reply PimError Watched} (kept : w.Kept (watched letters) (contract letters)) :
    RefreshesInOrder letters w := by
  have inv := kept.inv
  constructor
  case applied =>
    intro task service requestId baseline rawTasks isDue choice reply ⟨state, seen⟩ answered
    obtain ⟨p, found, isDue⟩ := Option.bind_eq_some_iff.1 isDue
    obtain ⟨next, rfl⟩ := due_eq_some isDue
    obtain ⟨began, began_with⟩ := kept.demand (contract_lawful letters) found
    replace answered : _ = some (reply, state) := (watched_answer answered).1
    cases choice with
    | within env =>
      simp only [environment] at answered
      split at answered
      · rename_i store result ok
        cases answered
        rcases refreshTasks_cases ok with ⟨refused, same⟩ | ⟨isApplied, newest, current, -⟩
        · refine Or.inr ⟨?_, same⟩
          rintro _ ⟨⟩
          exact refused
        · refine Or.inl ⟨⟨result, rfl, isApplied⟩, ?_, began_with, ?_⟩
          · subst newest
            exact began.newest letters inv
          · have since := (inv.since task baseline began_with).2
            rw [Bool.eq_false_iff]
            intro changed
            have := since changed
            omega
      · cases answered
        exact Or.inr ⟨nofun, rfl⟩
    | fails error =>
      cases answered
      exact Or.inr ⟨nofun, rfl⟩
    | _ => cases answered
  case aside =>
    intro task op notPerform notApply choice reply ⟨state, seen⟩ answered
    replace answered : _ = some (reply, state) := (watched_answer answered).1
    cases op with
    | perform request => exact absurd rfl (notPerform request)
    | apply service requestId baseline rawTasks => exact absurd rfl (notApply service requestId baseline rawTasks)
    | _ => cases choice <;> cases answered <;> rfl
  case counted =>
    intro task op choice reply s' answered changed
    exact (answer_counted inv.ledger (watched_answer answered).1).2.counts changed

/-- A refresh is applied only if it is the newest of its service and no task has changed since it began. -/
theorem refreshes_in_order (letters : LetterCase) (store : PersistedPimState) (ledger : Ledger letters store)
    (events : List (Event Call Choice)) (w : World Op Reply PimError Watched)
    (ran : World.run (watched letters) Call.program ⟨Watched.initial store, []⟩ events = some w) :
    RefreshesInOrder letters w := by
  have kept : w.Kept (watched letters) (contract letters) :=
    run_kept (contract_lawful letters) (fun task call s _ _ _ => program_keeps task call s)
      (idle_kept (initial_inv letters ledger) fun _ => trivial)
      (World.admitted_of_always (fun _ _ => trivial) (fun _ _ _ _ => trivial) _ _) ran
  exact kept_in_order letters kept

open JsString

def loadedTask : List TaskRefreshInput := [⟨ofString "task-1", { title := some (ofString "Call") }⟩]

/-- Two services begin a refresh each. The loader of the first one answers while the second one waits. -/
def twoServices : List (Event Call Choice) :=
  [.start (.refreshTasks 0), .act 0 .proceeds, .act 0 .proceeds, .start (.refreshTasks 1), .act 1 .proceeds,
    .act 1 .proceeds, .act 0 (.loads loadedTask), .act 0 .proceeds, .act 0 .proceeds]

theorem twoServices_ordered :
    ∃ w, World.run (watched LetterCase.ascii) Call.program ⟨Watched.initial .empty, []⟩ twoServices = some w ∧
      w.state.2.begun = [(1, 1), (0, 0)] ∧ RefreshesInOrder LetterCase.ascii w := by
  have ran : (World.run (watched LetterCase.ascii) Call.program ⟨Watched.initial .empty, []⟩ twoServices).isSome := by
    decide
  have begun : ∀ w ∈ World.run (watched LetterCase.ascii) Call.program ⟨Watched.initial .empty, []⟩ twoServices,
      w.state.2.begun = [(1, 1), (0, 0)] := by decide
  obtain ⟨w, ran⟩ := Option.isSome_iff_exists.1 ran
  exact ⟨w, ran, begun w ran, refreshes_in_order LetterCase.ascii .empty Ledger.empty twoServices w ran⟩

/-- The older of the two refreshes is applied. -/
theorem twoServices_older :
    ∃ w w', World.run (watched LetterCase.ascii) Call.program ⟨Watched.initial .empty, []⟩ twoServices = some w ∧
      w.step (watched LetterCase.ascii) Call.program (.act 0 (.within ⟨some 0, fun _ => ofString "t-1"⟩)) = some w' ∧
      w.state.2.begun.head? = some (1, 1) ∧
      (uids w.state.1.store .task, uids w'.state.1.store .task) = ([], [ofString "task-1"]) := by
  have ran : ((World.run (watched LetterCase.ascii) Call.program ⟨Watched.initial .empty, []⟩ twoServices).bind fun w =>
      w.step (watched LetterCase.ascii) Call.program (.act 0 (.within ⟨some 0, fun _ => ofString "t-1"⟩))).isSome := by
    decide
  have ends : ∀ w ∈ World.run (watched LetterCase.ascii) Call.program ⟨Watched.initial .empty, []⟩ twoServices,
      ∀ w' ∈ w.step (watched LetterCase.ascii) Call.program (.act 0 (.within ⟨some 0, fun _ => ofString "t-1"⟩)),
      w.state.2.begun.head? = some (1, 1) ∧
        (uids w.state.1.store .task, uids w'.state.1.store .task) = ([], [ofString "task-1"]) := by decide
  obtain ⟨w', ran⟩ := Option.isSome_iff_exists.1 ran
  obtain ⟨w, first, stepped⟩ := Option.bind_eq_some_iff.1 ran
  exact ⟨w, w', first, stepped, ends w first w' stepped⟩

end Pim.Refreshing
