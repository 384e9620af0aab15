import MaterialEmail.Library.Program

/-! Many programs at work on one state, one operation at a time and in any order. What an operation
answers is chosen by the environment. A contract says what each task may rely on while it waits and
what it guarantees with each of its own operations. -/
namespace Interleaved

open Interrupted

/-- How an operation of a task may be answered, and what it does. No answer: not this choice. -/
structure Environment (Op : Type) (Reply : Op → Type) (χ σ : Type) where
  answer : Nat → (op : Op) → χ → σ → Option (Reply op × σ)

/-- The shared state, and what is left to do for each task that has been started. -/
structure World (Op : Type) (Reply : Op → Type) (ε σ : Type) where
  state : σ
  tasks : List (Program Op Reply ε Unit)

/-- The operation a program waits for. -/
def due : Program Op Reply ε α → Option Op
  | .call op _ => some op
  | _ => none

theorem due_eq_some {Op : Type} {Reply : Op → Type} {ε α : Type} {p : Program Op Reply ε α} {op : Op}
    (isDue : due p = some op) : ∃ next, p = .call op next := by
  cases p with
  | done value => cases isDue
  | throw error => cases isDue
  | call op next =>
    cases isDue
    exact ⟨next, rfl⟩

/-- A new task is started, or some task goes on by one operation. -/
inductive Event (κ χ : Type) where
  | start (request : κ)
  | act (task : Nat) (choice : χ)
  deriving DecidableEq, Repr

variable {Op : Type} {Reply : Op → Type} {ε ε' χ σ κ α β : Type}

section Runs

variable (E : Environment Op Reply χ σ) (program : κ → Program Op Reply ε Unit)

def World.step (w : World Op Reply ε σ) : Event κ χ → Option (World Op Reply ε σ)
  | .start request => some { w with tasks := w.tasks ++ [program request] }
  | .act task choice =>
    match w.tasks[task]? with
    | some (.call op next) =>
      (E.answer task op choice w.state).map fun (reply, state) =>
        { state := state, tasks := w.tasks.set task (next reply) }
    | _ => none

def World.run (w : World Op Reply ε σ) (events : List (Event κ χ)) : Option (World Op Reply ε σ) :=
  events.foldlM (World.step E program) w

end Runs

/-- Which requests may come and which answers may be given. -/
structure Conditions (Op κ χ σ : Type) where
  starts : κ → σ → Prop
  allowed : Nat → Op → χ → σ → Prop

/-- The answer to the operation that is due for a task, if one is. -/
def Conditions.allows (C : Conditions Op κ χ σ) (task : Nat) (choice : χ) (s : σ) :
    Option (Program Op Reply ε Unit) → Prop
  | some (.call op _) => C.allowed task op choice s
  | _ => True

instance (C : Conditions Op κ χ σ) [∀ task op choice s, Decidable (C.allowed task op choice s)]
    (task : Nat) (choice : χ) (s : σ) :
    (due : Option (Program Op Reply ε Unit)) → Decidable (C.allows task choice s due)
  | some (.call op _) => inferInstanceAs (Decidable (C.allowed task op choice s))
  | some (.done _) => .isTrue trivial
  | some (.throw _) => .isTrue trivial
  | none => .isTrue trivial

section Admitted

variable (E : Environment Op Reply χ σ) (C : Conditions Op κ χ σ) (program : κ → Program Op Reply ε Unit)

def World.Admits (w : World Op Reply ε σ) : Event κ χ → Prop
  | .start request => C.starts request w.state
  | .act task choice => C.allows task choice w.state w.tasks[task]?

/-- Every event of the run meets the conditions. -/
def World.Admitted (w : World Op Reply ε σ) : List (Event κ χ) → Prop
  | [] => True
  | event :: events =>
    w.Admits C event ∧
      match w.step E program event with
      | some w' => w'.Admitted events
      | none => True

variable [∀ request s, Decidable (C.starts request s)]
  [∀ task op choice s, Decidable (C.allowed task op choice s)]

instance (w : World Op Reply ε σ) : (event : Event κ χ) → Decidable (w.Admits C event)
  | .start request => inferInstanceAs (Decidable (C.starts request w.state))
  | .act task choice => inferInstanceAs (Decidable (C.allows task choice w.state w.tasks[task]?))

def World.Admitted.decide (w : World Op Reply ε σ) :
    (events : List (Event κ χ)) → Decidable (w.Admitted E C program events)
  | [] => .isTrue trivial
  | event :: events =>
    @instDecidableAnd _ _ inferInstance <|
      match w.step E program event with
      | some w' => World.Admitted.decide w' events
      | none => .isTrue trivial

instance (w : World Op Reply ε σ) (events : List (Event κ χ)) :
    Decidable (w.Admitted E C program events) := World.Admitted.decide E C program w events

end Admitted

section Runs

variable {E : Environment Op Reply χ σ} {C : Conditions Op κ χ σ} {program : κ → Program Op Reply ε Unit}
  {w between w' : World Op Reply ε σ} {event : Event κ χ} {events : List (Event κ χ)}

theorem World.run_cons : w.run E program (event :: events) = some w' ↔
    ∃ between, w.step E program event = some between ∧ between.run E program events = some w' := by
  unfold World.run
  rw [List.foldlM_cons, Option.bind_eq_bind, Option.bind_eq_some_iff]

theorem World.admitted_cons_iff (stepped : w.step E program event = some between) :
    w.Admitted E C program (event :: events) ↔ w.Admits C event ∧ between.Admitted E C program events := by
  rw [World.Admitted, stepped]

theorem World.admitted_cons (admits : w.Admits C event) (stepped : w.step E program event = some between)
    (later : between.Admitted E C program events) : w.Admitted E C program (event :: events) :=
  (World.admitted_cons_iff stepped).2 ⟨admits, later⟩

end Runs

theorem World.admitted_of_always {E : Environment Op Reply χ σ} {C : Conditions Op κ χ σ}
    {program : κ → Program Op Reply ε Unit} (starts : ∀ request s, C.starts request s)
    (allowed : ∀ task op choice s, C.allowed task op choice s) (w : World Op Reply ε σ) (events : List (Event κ χ)) :
    w.Admitted E C program events := by
  induction events generalizing w with
  | nil => trivial
  | cons event events ih =>
    constructor
    · cases event with
      | start request => exact starts request w.state
      | act task choice =>
        show C.allows task choice w.state w.tasks[task]?
        cases w.tasks[task]? with
        | none => trivial
        | some p =>
          cases p with
          | done value => trivial
          | throw error => trivial
          | call op next => exact allowed task op choice w.state
    · cases w.step E program event with
      | none => trivial
      | some w' => exact ih w'

/-- `inv` holds throughout, `demand` when an operation is due, and `ends` of a task that is over or
has not been started. -/
structure Contract (Op κ χ σ : Type) extends Conditions Op κ χ σ where
  inv : σ → Prop
  rely : Nat → σ → σ → Prop
  guar : Nat → σ → σ → Prop
  demand : Nat → Op → σ → Prop
  ends : Nat → σ → Prop

/-- What one task guarantees is what the others rely on. -/
structure Contract.Lawful (C : Contract Op κ χ σ) : Prop where
  refl : ∀ task s, C.rely task s s
  trans : ∀ task s s' s'', C.rely task s s' → C.rely task s' s'' → C.rely task s s''
  others : ∀ task other s s', task ≠ other → C.guar other s s' → C.rely task s s'
  keeps : ∀ task s s', C.inv s → C.guar task s s' → C.inv s'
  stable : ∀ task s s', C.rely task s s' → C.ends task s → C.ends task s'

/-- A task keeps the contract from here on, and ends with `post`. -/
def meets (E : Environment Op Reply χ σ) (C : Contract Op κ χ σ) (task : Nat) :
    Program Op Reply ε α → (Except ε α → σ → Prop) → σ → Prop
  | .done value, post, s => post (.ok value) s
  | .throw error, post, s => post (.error error) s
  | .call op next, post, s => ∀ s', C.rely task s s' → C.inv s' → C.demand task op s' ∧
      ∀ choice reply s'', C.allowed task op choice s' → E.answer task op choice s' = some (reply, s'') →
        C.guar task s' s'' ∧ meets E C task (next reply) post s''

section Rules

variable {E : Environment Op Reply χ σ} {C : Contract Op κ χ σ} {task : Nat} {s s' : σ}

theorem meets_mono {p : Program Op Reply ε α} {post post' : Except ε α → σ → Prop}
    (h : meets E C task p post s) (imp : ∀ result s', post result s' → post' result s') :
    meets E C task p post' s := by
  induction p generalizing s with
  | done value => exact imp _ _ h
  | throw error => exact imp _ _ h
  | call op next ih =>
    intro s' relies holds
    obtain ⟨due, rest⟩ := h s' relies holds
    refine ⟨due, fun choice reply s'' allowed answered => ?_⟩
    obtain ⟨guaranteed, after⟩ := rest choice reply s'' allowed answered
    exact ⟨guaranteed, ih reply after⟩

theorem meets_resume (p : Program Op Reply ε α) (next : Except ε α → Program Op Reply ε' β)
    (post : Except ε' β → σ → Prop)
    (h : meets E C task p (fun result s' => meets E C task (next result) post s') s) :
    meets E C task (p.resume next) post s := by
  induction p generalizing s with
  | done value => exact h
  | throw error => exact h
  | call op rest ih =>
    intro s' relies holds
    obtain ⟨due, after⟩ := h s' relies holds
    refine ⟨due, fun choice reply s'' allowed answered => ?_⟩
    obtain ⟨guaranteed, goes⟩ := after choice reply s'' allowed answered
    exact ⟨guaranteed, ih reply goes⟩

theorem meets_seq {p : Program Op Reply ε α} {next : α → Program Op Reply ε β}
    {post : Except ε β → σ → Prop}
    (h : meets E C task p (either (fun value s' => meets E C task (next value) post s')
      (fun error s' => post (.error error) s')) s) : meets E C task (p >>= next) post s := by
  apply meets_resume
  apply meets_mono h
  intro result s' ended
  cases result with
  | ok value => exact ended
  | error error => exact ended

theorem meets_catching {p : Program Op Reply ε α} {handler : ε → Program Op Reply ε α}
    {post : Except ε α → σ → Prop}
    (h : meets E C task p (either (fun value s' => post (.ok value) s')
      (fun error s' => meets E C task (handler error) post s')) s) :
    meets E C task (p.catching handler) post s := by
  apply meets_resume
  apply meets_mono h
  intro result s' ended
  cases result with
  | ok value => exact ended
  | error error => exact ended

theorem meets_finally {p : Program Op Reply ε α} {last : Program Op Reply ε Unit}
    {post : Except ε α → σ → Prop}
    (h : meets E C task p (fun result s' => meets E C task last
      (either (fun _ s'' => post result s'') (fun error s'' => post (.error error) s'')) s') s) :
    meets E C task (p.finally_ last) post s := by
  apply meets_resume
  apply meets_mono h
  intro result s' ended
  cases result with
  | ok value => exact meets_seq ended
  | error error => exact meets_seq ended

theorem meets_keeping {I : σ → Prop} (relies : ∀ s s', C.rely task s s' → I s → I s')
    (guarantees : ∀ s s', C.guar task s s' → I s → I s') {p : Program Op Reply ε α} {post : Except ε α → σ → Prop}
    (h : meets E C task p post s) (holds : I s) :
    meets E C task p (fun result s' => post result s' ∧ I s') s := by
  induction p generalizing s with
  | done value => exact ⟨h, holds⟩
  | throw error => exact ⟨h, holds⟩
  | call op next ih =>
    intro s' relied inv
    obtain ⟨due, rest⟩ := h s' relied inv
    refine ⟨due, fun choice reply s'' allowed answered => ?_⟩
    obtain ⟨guaranteed, after⟩ := rest choice reply s'' allowed answered
    exact ⟨guaranteed, ih reply after (guarantees s' s'' guaranteed (relies s s' relied holds))⟩

/-- While a task waits, what it relies on may happen. -/
theorem meets_stable (lawful : C.Lawful) {p : Program Op Reply ε α}
    (h : meets E C task p (fun _ => C.ends task) s) (relies : C.rely task s s') :
    meets E C task p (fun _ => C.ends task) s' := by
  cases p with
  | done value => exact lawful.stable task s s' relies h
  | throw error => exact lawful.stable task s s' relies h
  | call op next =>
    intro s'' relies' holds
    exact h s'' (lawful.trans task s s' s'' relies relies') holds

end Rules

section Soundness

variable {E : Environment Op Reply χ σ} {C : Contract Op κ χ σ} {program : κ → Program Op Reply ε Unit}

/-- The invariant holds and every task keeps its contract. -/
structure World.Kept (E : Environment Op Reply χ σ) (C : Contract Op κ χ σ) (w : World Op Reply ε σ) :
    Prop where
  inv : C.inv w.state
  tasks : ∀ task p, w.tasks[task]? = some p → meets E C task p (fun _ => C.ends task) w.state
  unstarted : ∀ task, w.tasks.length ≤ task → C.ends task w.state

theorem World.Kept.demand {w : World Op Reply ε σ} (kept : w.Kept E C) (lawful : C.Lawful)
    (due : w.tasks[task]? = some (.call op next)) : C.demand task op w.state :=
  (kept.tasks task _ due w.state (lawful.refl task w.state) kept.inv).1

theorem step_kept (lawful : C.Lawful)
    (starts : ∀ task request s, C.inv s → C.ends task s → C.starts request s →
      meets E C task (program request) (fun _ => C.ends task) s)
    {w w' : World Op Reply ε σ} {event : Event κ χ} (kept : w.Kept E C) (admits : w.Admits C.toConditions event)
    (stepped : w.step E program event = some w') : w'.Kept E C := by
  cases event with
  | start request =>
    cases stepped
    refine ⟨kept.inv, fun task p found => ?_, fun task unstarted => kept.unstarted task ?_⟩
    case refine_2 =>
      simp only [List.length_append] at unstarted
      omega
    by_cases old : task < w.tasks.length
    · rw [List.getElem?_append_left old] at found
      exact kept.tasks task p found
    · rw [List.getElem?_append_right (Nat.not_lt.1 old), List.getElem?_singleton] at found
      obtain rfl : program request = p := by
        by_cases new : task - w.tasks.length = 0
        · simpa [new] using found
        · simp [new] at found
      exact starts task request w.state kept.inv (kept.unstarted task (Nat.not_lt.1 old)) admits
  | act task choice =>
    unfold World.step at stepped
    cases due : w.tasks[task]? with
    | none => simp [due] at stepped
    | some p =>
      cases p with
      | done value => simp [due] at stepped
      | throw error => simp [due] at stepped
      | call op next =>
        simp only [due, Option.map_eq_some_iff, Prod.exists] at stepped
        obtain ⟨reply, state, answered, rfl⟩ := stepped
        obtain ⟨-, rest⟩ := kept.tasks task _ due w.state (lawful.refl task w.state) kept.inv
        have allowed : C.allows task choice w.state w.tasks[task]? := admits
        rw [due] at allowed
        obtain ⟨guaranteed, goes⟩ := rest choice reply state allowed answered
        have inside : task < w.tasks.length := (List.getElem?_eq_some_iff.1 due).1
        have others : ∀ other, task ≠ other → C.rely other w.state state :=
          fun other different => lawful.others other task w.state state (Ne.symm different) guaranteed
        refine ⟨lawful.keeps task w.state state kept.inv guaranteed, fun other p found => ?_,
          fun other unstarted => ?_⟩
        case refine_2 =>
          rw [List.length_set] at unstarted
          have different : task ≠ other := by omega
          exact lawful.stable other w.state state (others other different) (kept.unstarted other unstarted)
        by_cases same : task = other
        · subst same
          rw [List.getElem?_set_self inside] at found
          cases found
          exact goes
        · rw [List.getElem?_set_ne same] at found
          exact meets_stable lawful (kept.tasks other p found) (others other same)

theorem run_kept (lawful : C.Lawful)
    (starts : ∀ task request s, C.inv s → C.ends task s → C.starts request s →
      meets E C task (program request) (fun _ => C.ends task) s)
    {w w' : World Op Reply ε σ} {events : List (Event κ χ)} (kept : w.Kept E C)
    (admitted : w.Admitted E C.toConditions program events) (ran : w.run E program events = some w') : w'.Kept E C := by
  induction events generalizing w with
  | nil =>
    cases ran
    exact kept
  | cons event events ih =>
    obtain ⟨between, stepped, rest⟩ := World.run_cons.1 ran
    obtain ⟨admits, later⟩ := (World.admitted_cons_iff stepped).1 admitted
    exact ih (step_kept lawful starts kept admits stepped) later rest

theorem idle_kept {s : σ} (inv : C.inv s) (ends : ∀ task, C.ends task s) :
    (⟨s, []⟩ : World Op Reply ε σ).Kept E C := by
  refine ⟨inv, fun task p found => ?_, fun task _ => ends task⟩
  cases found

/-- Every task has run to its end. -/
def World.Finished (w : World Op Reply ε σ) : Prop :=
  ∀ p ∈ w.tasks, ∀ op next, p ≠ .call op next

instance (w : World Op Reply ε σ) : Decidable w.Finished :=
  decidable_of_iff (∀ p ∈ w.tasks, (due p).isNone = true) <| by
    constructor
    · rintro ended p member op next rfl
      cases ended _ member
    · intro finished p member
      cases p with
      | done value => rfl
      | throw error => rfl
      | call op next => exact absurd rfl (finished _ member op next)

theorem World.Kept.finished {w : World Op Reply ε σ} (kept : w.Kept E C) (finished : w.Finished) (task : Nat) :
    C.ends task w.state := by
  cases found : w.tasks[task]? with
  | none => exact kept.unstarted task (List.getElem?_eq_none_iff.1 found)
  | some p =>
    have meets := kept.tasks task p found
    cases p with
    | done value => exact meets
    | throw error => exact meets
    | call op next => exact absurd rfl (finished _ (List.mem_of_getElem? found) op next)

end Soundness

section Invariants

variable {E : Environment Op Reply χ σ} {C : Contract Op κ χ σ} {D : Conditions Op κ χ σ}
  {program : κ → Program Op Reply ε Unit}

theorem step_known {w w' : World Op Reply ε σ} {event : Event κ χ} (stepped : w.step E program event = some w') :
    (∃ request, event = .start request ∧ w'.state = w.state) ∨
      ∃ task op choice reply next, w.tasks[task]? = some (.call op next) ∧ event = .act task choice ∧
        E.answer task op choice w.state = some (reply, w'.state) := by
  cases event with
  | start request =>
    cases stepped
    exact Or.inl ⟨request, rfl, rfl⟩
  | act task choice =>
    unfold World.step at stepped
    cases due : w.tasks[task]? with
    | none => simp [due] at stepped
    | some p =>
      cases p with
      | done value => simp [due] at stepped
      | throw error => simp [due] at stepped
      | call op next =>
        simp only [due, Option.map_eq_some_iff, Prod.exists] at stepped
        obtain ⟨reply, state, answered, rfl⟩ := stepped
        exact Or.inr ⟨task, op, choice, reply, next, due, rfl, answered⟩

theorem step_state {w w' : World Op Reply ε σ} {event : Event κ χ} (stepped : w.step E program event = some w') :
    w'.state = w.state ∨ ∃ task op choice reply next, w.tasks[task]? = some (.call op next) ∧
      event = .act task choice ∧ E.answer task op choice w.state = some (reply, w'.state) :=
  (step_known stepped).imp_left fun ⟨_, _, same⟩ => same

/-- What every answer preserves holds after a run. -/
theorem run_preserves {P : σ → Prop}
    (answers : ∀ task op choice reply s s', P s → D.allowed task op choice s →
      E.answer task op choice s = some (reply, s') → P s')
    {w w' : World Op Reply ε σ} {events : List (Event κ χ)} (holds : P w.state)
    (admitted : w.Admitted E D program events) (ran : w.run E program events = some w') : P w'.state := by
  induction events generalizing w with
  | nil =>
    cases ran
    exact holds
  | cons event events ih =>
    obtain ⟨between, stepped, rest⟩ := World.run_cons.1 ran
    obtain ⟨admits, later⟩ := (World.admitted_cons_iff stepped).1 admitted
    refine ih ?_ later rest
    rcases step_state stepped with same | ⟨task, op, choice, reply, next, due, rfl, answered⟩
    · rw [same]
      exact holds
    · have allowed : D.allows task choice w.state w.tasks[task]? := admits
      rw [due] at allowed
      exact answers task op choice reply w.state between.state holds allowed answered

/-- Where an answer keeps a property exactly if it is allowed, the property holds throughout a run exactly
if all answers are. What is known of a world, whatever is done, may be used. -/
theorem run_known_iff {P : σ → Prop} {K : World Op Reply ε σ → Prop} (starts : ∀ request s, D.starts request s)
    (keeps : ∀ w w' event, K w → w.step E program event = some w' → K w')
    (answers : ∀ w task op next choice reply s', K w → w.tasks[task]? = some (.call op next) → P w.state →
      E.answer task op choice w.state = some (reply, s') → (P s' ↔ D.allowed task op choice w.state))
    {w w' : World Op Reply ε σ} {events : List (Event κ χ)} (known : K w) (holds : P w.state)
    (ran : w.run E program events = some w') :
    (∀ earlier, earlier <+: events → ∀ between, w.run E program earlier = some between → P between.state) ↔
      w.Admitted E D program events := by
  induction events generalizing w with
  | nil =>
    refine iff_of_true (fun earlier isPrefix between reached => ?_) trivial
    rw [List.prefix_nil.1 isPrefix] at reached
    cases reached
    exact holds
  | cons event events ih =>
    obtain ⟨between, stepped, rest⟩ := World.run_cons.1 ran
    have first : w.Admits D event ↔ P between.state := by
      rcases step_known stepped with ⟨request, rfl, same⟩ | ⟨task, op, choice, reply, next, due, rfl, answered⟩
      · rw [same]
        exact iff_of_true (starts request w.state) holds
      · have decided := answers w task op next choice reply between.state known due holds answered
        simpa only [World.Admits, Conditions.allows, due] using decided.symm
    have later := keeps w between event known stepped
    rw [World.admitted_cons_iff stepped]
    constructor
    · intro throughout
      have next := throughout [event] ⟨events, rfl⟩ between (World.run_cons.2 ⟨between, stepped, rfl⟩)
      refine ⟨first.2 next, (ih later next rest).1 fun earlier isPrefix state reached => ?_⟩
      exact throughout (event :: earlier) (List.cons_prefix_cons.2 ⟨rfl, isPrefix⟩) state
        (World.run_cons.2 ⟨between, stepped, reached⟩)
    · rintro ⟨admits, others⟩ earlier isPrefix state reached
      rcases List.prefix_cons_iff.1 isPrefix with rfl | ⟨short, rfl, isShort⟩
      · cases reached
        exact holds
      · obtain ⟨_, same, reached⟩ := World.run_cons.1 reached
        cases stepped.symm.trans same
        exact (ih later (first.1 admits) rest).2 others short isShort state reached

theorem run_preserves_iff {P : σ → Prop} (starts : ∀ request s, D.starts request s)
    (answers : ∀ task op choice reply s s', P s → E.answer task op choice s = some (reply, s') →
      (P s' ↔ D.allowed task op choice s))
    {w w' : World Op Reply ε σ} {events : List (Event κ χ)} (holds : P w.state)
    (ran : w.run E program events = some w') :
    (∀ earlier, earlier <+: events → ∀ between, w.run E program earlier = some between → P between.state) ↔
      w.Admitted E D program events :=
  run_known_iff (K := fun _ => True) starts (fun _ _ _ _ _ => trivial)
    (fun w task op _ choice reply s' _ _ => answers task op choice reply w.state s') trivial holds ran

/-- What every answer preserves holds where the tasks keep a contract, whose demands may then be used. -/
theorem run_invariant (lawful : C.Lawful)
    (begins : ∀ task request s, C.inv s → C.ends task s → C.starts request s →
      meets E C task (program request) (fun _ => C.ends task) s)
    (starts : ∀ request s, D.starts request s → C.starts request s)
    (allows : ∀ task op choice s, D.allowed task op choice s → C.allowed task op choice s) {P : σ → Prop}
    (answers : ∀ task op choice reply s s', C.inv s → C.demand task op s → P s → D.allowed task op choice s →
      E.answer task op choice s = some (reply, s') → P s')
    {w w' : World Op Reply ε σ} {events : List (Event κ χ)} (kept : w.Kept E C) (holds : P w.state)
    (admitted : w.Admitted E D program events) (ran : w.run E program events = some w') :
    w'.Kept E C ∧ P w'.state := by
  induction events generalizing w with
  | nil =>
    cases ran
    exact ⟨kept, holds⟩
  | cons event events ih =>
    obtain ⟨between, stepped, rest⟩ := World.run_cons.1 ran
    obtain ⟨admits, later⟩ := (World.admitted_cons_iff stepped).1 admitted
    have admits' : w.Admits C.toConditions event := by
      cases event with
      | start request => exact starts request w.state admits
      | act task choice =>
        show C.allows task choice w.state w.tasks[task]?
        have allowed : D.allows task choice w.state w.tasks[task]? := admits
        cases due : w.tasks[task]? with
        | none => trivial
        | some p =>
          rw [due] at allowed
          cases p with
          | done value => trivial
          | throw error => trivial
          | call op next => exact allows task op choice w.state allowed
    refine ih (step_kept lawful begins kept admits' stepped) ?_ later rest
    rcases step_state stepped with same | ⟨task, op, choice, reply, next, due, rfl, answered⟩
    · rw [same]
      exact holds
    · have allowed : D.allows task choice w.state w.tasks[task]? := admits
      rw [due] at allowed
      exact answers task op choice reply w.state between.state kept.inv (kept.demand lawful due) holds allowed
        answered

end Invariants

section Observers

variable {γ : Type}

/-- With every answer something else may be chosen, which the operation does not tell. -/
def Environment.aside (E : Environment Op Reply χ σ) (γ : Type) : Environment Op Reply (χ × γ) σ where
  answer task op choice s := E.answer task op choice.1 s

/-- An observer notes down what happens, from the state before it, and has no influence on it. -/
abbrev Observer (Op : Type) (Reply : Op → Type) (χ σ γ : Type) :=
  Nat → (op : Op) → χ → Reply op → σ → γ → γ

def Environment.observed (E : Environment Op Reply χ σ) (observe : Observer Op Reply χ σ γ) :
    Environment Op Reply χ (σ × γ) where
  answer task op choice s :=
    (E.answer task op choice s.1).map fun (reply, state) =>
      (reply, (state, observe task op choice reply s.1 s.2))

def Contract.observed (C : Contract Op κ χ σ) : Contract Op κ χ (σ × γ) where
  starts request s := C.starts request s.1
  allowed task op choice s := C.allowed task op choice s.1
  inv s := C.inv s.1
  rely task s s' := C.rely task s.1 s'.1
  guar task s s' := C.guar task s.1 s'.1
  demand task op s := C.demand task op s.1
  ends task s := C.ends task s.1

theorem meets_observed {E : Environment Op Reply χ σ} {C : Contract Op κ χ σ}
    {observe : Observer Op Reply χ σ γ} {task : Nat} {p : Program Op Reply ε α} {post : Except ε α → σ → Prop}
    {s : σ × γ} (h : meets E C task p post s.1) :
    meets (E.observed observe) C.observed task p (fun result s' => post result s'.1) s := by
  induction p generalizing s with
  | done value => exact h
  | throw error => exact h
  | call op next ih =>
    intro s' relies holds
    obtain ⟨due, rest⟩ := h s'.1 relies holds
    refine ⟨due, fun choice reply s'' allowed answered => ?_⟩
    simp only [Environment.observed, Option.map_eq_some_iff, Prod.exists] at answered
    obtain ⟨reply', state, answered, same⟩ := answered
    cases same
    obtain ⟨guaranteed, after⟩ := rest choice reply state allowed answered
    exact ⟨guaranteed, ih reply after⟩

end Observers

section Sums

variable {Op' : Type} {Reply' : Op' → Type} {χ' κ' : Type}

/-- Operations of two kinds on one state. -/
def Environment.sum (E : Environment Op Reply χ σ) (E' : Environment Op' Reply' χ' σ) :
    Environment (Op ⊕ Op') (Sum.elim Reply Reply') (χ ⊕ χ') σ where
  answer task op choice s :=
    match op, choice with
    | .inl op, .inl choice => E.answer task op choice s
    | .inr op, .inr choice => E'.answer task op choice s
    | _, _ => none

/-- A contract that only says which operations come. -/
def asking (good : Op → Prop) : Contract Op κ χ σ where
  starts _ _ := True
  allowed _ _ _ _ := True
  inv _ := True
  rely _ _ _ := True
  guar _ _ _ := True
  demand _ op _ := good op
  ends _ _ := True

theorem asking_lawful (good : Op → Prop) : (asking good : Contract Op κ χ σ).Lawful := by
  constructor <;> simp [asking]

theorem uses_asks {E : Environment Op Reply χ σ} {good : Op → Prop} {task : Nat} {p : Program Op Reply ε α}
    {s : σ} (uses : p.Uses good) : meets E (asking good : Contract Op κ χ σ) task p (fun _ _ => True) s := by
  induction uses generalizing s with
  | done value => trivial
  | throw error => trivial
  | call op next ofKind rest ih =>
    intro s' _ _
    exact ⟨ofKind, fun choice reply s'' _ _ => ⟨trivial, ih reply⟩⟩

theorem meets_among {E : Environment Op Reply χ σ} {E' : Environment Op' Reply' χ' σ} {good : Op → Prop}
    {good' : Op ⊕ Op' → Prop} (same : ∀ op, good op → good' (.inl op)) {task : Nat} {p : Program Op Reply ε α}
    {post : Except ε α → σ → Prop} {s : σ} (asks : meets E (asking good : Contract Op κ χ σ) task p post s) :
    meets (E.sum E') (asking good' : Contract (Op ⊕ Op') κ' (χ ⊕ χ') σ) task p.among post s := by
  induction p generalizing s with
  | done value => exact asks
  | throw error => exact asks
  | call op next ih =>
    intro s' _ _
    obtain ⟨isGood, rest⟩ := asks s' trivial trivial
    refine ⟨same op isGood, fun choice reply s'' _ answered => ?_⟩
    cases choice with
    | inl choice => exact ⟨trivial, ih reply (rest choice reply s'' trivial answered).2⟩
    | inr choice => cases answered

end Sums

end Interleaved
