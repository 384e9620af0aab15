/-! Programs that act on a device one operation at a time, each of which may fail
or be cut short by a crash. Faults are supplied from outside as a list, so one
program has one run for every list; `wp` speaks about all of them. -/
namespace Interrupted

/-- How far an operation got when it failed or when the crash struck. -/
inductive Extent where
  | before
  | partway
  | after
  deriving DecidableEq, Repr

/-- What befalls one operation. A failure is reported to the program, a crash is not. -/
inductive Fault (κ : Type) where
  | none
  | fail (code : κ) (extent : Extent)
  | crash (extent : Extent)
  deriving DecidableEq, Repr

def Fault.isFailure : Fault κ → Bool
  | .fail _ _ => true
  | _ => false

inductive Program (Op : Type) (Reply : Op → Type) (ε α : Type) where
  | done (value : α)
  | throw (error : ε)
  | call (op : Op) (next : Reply op → Program Op Reply ε α)

def Fault.extent : Fault κ → Extent
  | .none => .after
  | .fail _ extent => extent
  | .crash extent => extent

/-- `infallible` operations only touch the memory of the running process. -/
structure Device (Op : Type) (Reply : Op → Type) (κ σ : Type) where
  effect : Op → Fault κ → σ → σ
  reply : (op : Op) → σ → Reply op
  refuse : (op : Op) → κ → Reply op
  infallible : Op → Bool

variable {Op : Type} {Reply : Op → Type} {ε ε' κ σ α β : Type}

namespace Program

/-- Runs `next` on the way `p` ended. Sequencing, `catch` and `finally` are instances. -/
def resume (p : Program Op Reply ε α) (next : Except ε α → Program Op Reply ε' β) :
    Program Op Reply ε' β :=
  match p with
  | .done value => next (.ok value)
  | .throw error => next (.error error)
  | .call op rest => .call op fun reply => (rest reply).resume next

def bind (p : Program Op Reply ε α) (next : α → Program Op Reply ε β) : Program Op Reply ε β :=
  p.resume fun
    | .ok value => next value
    | .error error => .throw error

instance : Monad (Program Op Reply ε) where
  pure := .done
  bind := bind

/-- `try { p } catch (error) { handler }`. -/
def catching (p : Program Op Reply ε α) (handler : ε → Program Op Reply ε α) :
    Program Op Reply ε α :=
  p.resume fun
    | .ok value => .done value
    | .error error => handler error

/-- `try { p } finally { last }`: an error of `last` replaces the outcome of `p`. -/
def finally_ (p : Program Op Reply ε α) (last : Program Op Reply ε Unit) : Program Op Reply ε α :=
  p.resume fun
    | .ok value => last.bind fun _ => .done value
    | .error error => last.bind fun _ => .throw error

/-- The outcome of `p` as a value, for code that inspects it later. -/
def attempt (p : Program Op Reply ε α) : Program Op Reply ε' (Except ε α) :=
  p.resume .done

def ask (op : Op) : Program Op Reply ε (Reply op) := .call op .done

/-- A program among others that have operations of a second kind. -/
def among {Op' : Type} {Reply' : Op' → Type} :
    Program Op Reply ε α → Program (Op ⊕ Op') (Sum.elim Reply Reply') ε α
  | .done value => .done value
  | .throw error => .throw error
  | .call op next => .call (.inl op) fun reply => (next reply).among

/-- Every operation the program may come to is of the given kind. -/
inductive Uses (kind : Op → Prop) : Program Op Reply ε α → Prop where
  | done (value : α) : Uses kind (.done value)
  | throw (error : ε) : Uses kind (.throw error)
  | call (op : Op) (next : Reply op → Program Op Reply ε α) (ofKind : kind op)
      (rest : ∀ reply, Uses kind (next reply)) : Uses kind (.call op next)

theorem Uses.resume {kind : Op → Prop} {p : Program Op Reply ε α}
    {next : Except ε α → Program Op Reply ε' β} (uses : Uses kind p)
    (rest : ∀ result, Uses kind (next result)) : Uses kind (p.resume next) := by
  induction uses with
  | done value => exact rest _
  | throw error => exact rest _
  | call op after ofKind _ ih => exact .call op _ ofKind ih

theorem Uses.bind {kind : Op → Prop} {p : Program Op Reply ε α} {next : α → Program Op Reply ε β}
    (uses : Uses kind p) (rest : ∀ value, Uses kind (next value)) : Uses kind (p >>= next) := by
  refine Uses.resume uses fun result => ?_
  cases result with
  | ok value => exact rest value
  | error error => exact .throw error

theorem Uses.catching {kind : Op → Prop} {p : Program Op Reply ε α}
    {handler : ε → Program Op Reply ε α} (uses : Uses kind p) (handles : ∀ error, Uses kind (handler error)) :
    Uses kind (p.catching handler) := by
  refine Uses.resume uses fun result => ?_
  cases result with
  | ok value => exact .done value
  | error error => exact handles error

theorem Uses.finally_ {kind : Op → Prop} {p : Program Op Reply ε α} {last : Program Op Reply ε Unit}
    (uses : Uses kind p) (ends : Uses kind last) : Uses kind (p.finally_ last) := by
  refine Uses.resume uses fun result => ?_
  cases result with
  | ok value => exact ends.bind fun _ => .done value
  | error error => exact ends.bind fun _ => .throw error

theorem Uses.mono {kind kind' : Op → Prop} {p : Program Op Reply ε α} (uses : Uses kind p)
    (covers : ∀ op, kind op → kind' op) : Uses kind' p := by
  induction uses with
  | done value => exact .done value
  | throw error => exact .throw error
  | call op after ofKind _ ih => exact .call op after (covers op ofKind) ih

theorem Uses.among {Op' : Type} {Reply' : Op' → Type} {kind : Op → Prop} {kind' : Op ⊕ Op' → Prop}
    {p : Program Op Reply ε α} (uses : Uses kind p) (same : ∀ op, kind op → kind' (.inl op)) :
    Uses kind' (p.among : Program (Op ⊕ Op') (Sum.elim Reply Reply') ε α) := by
  induction uses with
  | done value => exact .done value
  | throw error => exact .throw error
  | call op next ofKind _ ih => exact .call _ _ (same op ofKind) ih

/-- The conversation of a program with a world that answers by what was said before, and how the program ends. -/
def converse (world : List ((op : Op) × Reply op) → (op : Op) → Reply op) :
    Program Op Reply ε α → List ((op : Op) × Reply op) → List ((op : Op) × Reply op) × Except ε α
  | .done value, log => (log, .ok value)
  | .throw error, log => (log, .error error)
  | .call op next, log => (next (world log op)).converse world (log ++ [⟨op, world log op⟩])

theorem converse_seq {world : List ((op : Op) × Reply op) → (op : Op) → Reply op} (p : Program Op Reply ε α)
    (next : α → Program Op Reply ε β) (log : List ((op : Op) × Reply op)) :
    (p >>= next).converse world log =
      match p.converse world log with
      | (log', .ok value) => (next value).converse world log'
      | (log', .error error) => (log', .error error) := by
  induction p generalizing log with
  | done value => rfl
  | throw error => rfl
  | call op rest ih => exact ih (world log op) (log ++ [⟨op, world log op⟩])

/-- What holds of the log and of the result when the conversation has ended. -/
def Ends (world : List ((op : Op) × Reply op) → (op : Op) → Reply op) (p : Program Op Reply ε α)
    (post : List ((op : Op) × Reply op) → Except ε α → Prop) (log : List ((op : Op) × Reply op)) : Prop :=
  post (p.converse world log).1 (p.converse world log).2

theorem Ends.mono {world : List ((op : Op) × Reply op) → (op : Op) → Reply op} {p : Program Op Reply ε α}
    {post post' : List ((op : Op) × Reply op) → Except ε α → Prop} {log : List ((op : Op) × Reply op)}
    (ends : p.Ends world post log) (imp : ∀ log' result, post log' result → post' log' result) :
    p.Ends world post' log :=
  imp _ _ ends

theorem Ends.seq {world : List ((op : Op) × Reply op) → (op : Op) → Reply op} {p : Program Op Reply ε α}
    {next : α → Program Op Reply ε β} {post : List ((op : Op) × Reply op) → Except ε β → Prop}
    {log : List ((op : Op) × Reply op)}
    (first : p.Ends world (fun log' result =>
      match result with
      | .ok value => (next value).Ends world post log'
      | .error error => post log' (.error error)) log) : (p >>= next).Ends world post log := by
  unfold Ends at first ⊢
  rw [converse_seq]
  generalize p.converse world log = ended at first ⊢
  obtain ⟨log', result⟩ := ended
  cases result with
  | ok value => exact first
  | error error => exact first

theorem Uses.attempt {kind : Op → Prop} {p : Program Op Reply ε α} (uses : Uses kind p) :
    Uses kind (p.attempt : Program Op Reply ε' (Except ε α)) :=
  uses.resume fun result => .done result

end Program

/-- How a run ended. A crashed run has no result for anybody. -/
inductive Outcome (ε α : Type) where
  | returned (value : α)
  | threw (error : ε)
  | crashed
  deriving DecidableEq, Repr

/-- The fault that an operation really meets: infallible operations never fail. -/
def Device.meets (D : Device Op Reply κ σ) (op : Op) : Fault κ → Fault κ
  | .fail code extent => if D.infallible op then .none else .fail code extent
  | fault => fault

theorem Device.meets_fail {D : Device Op Reply κ σ} {fault : Fault κ}
    (met : D.meets op fault = .fail code extent) : D.infallible op = false := by
  cases fault with
  | fail code' extent' =>
    cases fallible : D.infallible op with
    | false => rfl
    | true => simp [Device.meets, fallible] at met
  | none => simp [Device.meets] at met
  | crash extent' => simp [Device.meets] at met

/-- One run. The list gives the fault of each operation in turn; beyond its end none strike. -/
def run (D : Device Op Reply κ σ) : Program Op Reply ε α → List (Fault κ) → σ → Outcome ε α × σ
  | .done value, _, s => (.returned value, s)
  | .throw error, _, s => (.threw error, s)
  | .call op next, faults, s =>
    match D.meets op (faults.headD .none) with
    | .none => run D (next (D.reply op s)) faults.tail (D.effect op .none s)
    | .fail code extent =>
      run D (next (D.refuse op code)) faults.tail (D.effect op (.fail code extent) s)
    | .crash extent => (.crashed, D.effect op (.crash extent) s)

/-- The operations of a run, each with the fault it met and the state it met it in. -/
def trace (D : Device Op Reply κ σ) :
    Program Op Reply ε α → List (Fault κ) → σ → List (Op × Fault κ × σ)
  | .done _, _, _ => []
  | .throw _, _, _ => []
  | .call op next, faults, s =>
    (op, D.meets op (faults.headD .none), s) ::
      match D.meets op (faults.headD .none) with
      | .none => trace D (next (D.reply op s)) faults.tail (D.effect op .none s)
      | .fail code extent =>
        trace D (next (D.refuse op code)) faults.tail (D.effect op (.fail code extent) s)
      | .crash _ => []

/-- Every step of the run is `allowed`: a condition on the operation, its fault and the
state in which it starts. -/
def Meets (D : Device Op Reply κ σ) (allowed : Op → Fault κ → σ → Prop)
    (p : Program Op Reply ε α) (faults : List (Fault κ)) (s : σ) : Prop :=
  ∀ step ∈ trace D p faults s, allowed step.1 step.2.1 step.2.2

instance [∀ op fault s, Decidable (allowed op fault s)] : Decidable (Meets D allowed p faults s) :=
  inferInstanceAs (Decidable (∀ step ∈ trace D p faults s, _))

/-- One operation under every allowed fault: `post` for those the program lives to see,
`crash` for the states in which a crash may leave the device. -/
def wpCall (D : Device Op Reply κ σ) (allowed : Op → Fault κ → σ → Prop) (crash : σ → Prop)
    (op : Op) (post : Reply op → σ → Prop) (s : σ) : Prop :=
  (allowed op .none s → post (D.reply op s) (D.effect op .none s)) ∧
  (∀ code extent, D.infallible op = false → allowed op (.fail code extent) s →
    post (D.refuse op code) (D.effect op (.fail code extent) s)) ∧
  (∀ extent, allowed op (.crash extent) s → crash (D.effect op (.crash extent) s))

/-- Weakest precondition over all allowed faults. -/
def wp (D : Device Op Reply κ σ) (allowed : Op → Fault κ → σ → Prop) (crash : σ → Prop) :
    Program Op Reply ε α → (Except ε α → σ → Prop) → σ → Prop
  | .done value, post, s => post (.ok value) s
  | .throw error, post, s => post (.error error) s
  | .call op next, post, s =>
    wpCall D allowed crash op (fun reply s' => wp D allowed crash (next reply) post s') s

/-- A postcondition by its two ends. -/
def either (ok : α → σ → Prop) (error : ε → σ → Prop) : Except ε α → σ → Prop
  | .ok value => ok value
  | .error reason => error reason

@[simp] theorem either_ok (ok : α → σ → Prop) (error : ε → σ → Prop) (value : α) :
    either ok error (.ok value) = ok value := rfl

@[simp] theorem either_error (ok : α → σ → Prop) (error : ε → σ → Prop) (reason : ε) :
    either ok error (.error reason) = error reason := rfl

section Rules

variable {D : Device Op Reply κ σ} {allowed : Op → Fault κ → σ → Prop} {crash : σ → Prop}

@[simp] theorem wp_done (value : α) (post : Except ε α → σ → Prop) (s : σ) :
    wp D allowed crash (.done value : Program Op Reply ε α) post s ↔ post (.ok value) s := Iff.rfl

@[simp] theorem wp_pure (value : α) (post : Except ε α → σ → Prop) (s : σ) :
    wp D allowed crash (pure value : Program Op Reply ε α) post s ↔ post (.ok value) s := Iff.rfl

@[simp] theorem wp_throw (error : ε) (post : Except ε α → σ → Prop) (s : σ) :
    wp D allowed crash (.throw error : Program Op Reply ε α) post s ↔ post (.error error) s :=
  Iff.rfl

@[simp] theorem wp_call (op : Op) (next : Reply op → Program Op Reply ε α)
    (post : Except ε α → σ → Prop) (s : σ) :
    wp D allowed crash (.call op next) post s ↔
      wpCall D allowed crash op (fun reply s' => wp D allowed crash (next reply) post s') s :=
  Iff.rfl

/-- The rule of consequence, also for what a crash may leave. -/
theorem wp_mono {crash' : σ → Prop} {p : Program Op Reply ε α}
    {post post' : Except ε α → σ → Prop} (h : wp D allowed crash p post s)
    (imp : ∀ result s', post result s' → post' result s')
    (impCrash : ∀ s', crash s' → crash' s') : wp D allowed crash' p post' s := by
  induction p generalizing s with
  | done value => exact imp _ _ h
  | throw error => exact imp _ _ h
  | call op next ih =>
    refine ⟨fun ok => ih _ (h.1 ok), fun code extent fallible ok => ih _ (h.2.1 code extent fallible ok), ?_⟩
    exact fun extent ok => impCrash _ (h.2.2 extent ok)

theorem wp_congr {p : Program Op Reply ε α} {post post' : Except ε α → σ → Prop}
    (same : ∀ result s', post result s' ↔ post' result s') :
    wp D allowed crash p post s ↔ wp D allowed crash p post' s :=
  ⟨fun h => wp_mono h (fun _ _ => (same _ _).1) (fun _ h => h),
    fun h => wp_mono h (fun _ _ => (same _ _).2) (fun _ h => h)⟩

@[simp] theorem wp_resume (p : Program Op Reply ε α) (next : Except ε α → Program Op Reply ε' β)
    (post : Except ε' β → σ → Prop) (s : σ) :
    wp D allowed crash (p.resume next) post s ↔
      wp D allowed crash p (fun result s' => wp D allowed crash (next result) post s') s := by
  induction p generalizing s with
  | done value => rfl
  | throw error => rfl
  | call op rest ih => simp only [Program.resume, wp_call, ih]

@[simp] theorem wp_bind (p : Program Op Reply ε α) (next : α → Program Op Reply ε β)
    (post : Except ε β → σ → Prop) (s : σ) :
    wp D allowed crash (p >>= next) post s ↔
      wp D allowed crash p (either (fun value s' => wp D allowed crash (next value) post s')
        (fun error s' => post (.error error) s')) s := by
  show wp D allowed crash (p.resume _) post s ↔ _
  rw [wp_resume]
  refine wp_congr fun result s' => ?_
  cases result <;> simp

theorem wp_seq {p : Program Op Reply ε α} {next : α → Program Op Reply ε β}
    {post : Except ε β → σ → Prop}
    (h : wp D allowed crash p (either (fun value s' => wp D allowed crash (next value) post s')
      (fun error s' => post (.error error) s')) s) : wp D allowed crash (p >>= next) post s :=
  (wp_bind p next post s).2 h

theorem wp_then {p : Program Op Reply ε α} {next : α → Program Op Reply ε β} {first : α → σ → Prop}
    {last : β → σ → Prop} {rejected : σ → Prop}
    (starts : wp D allowed crash p (either first fun _ => rejected) s)
    (rest : ∀ value s', first value s' → wp D allowed crash (next value) (either last fun _ => rejected) s') :
    wp D allowed crash (p >>= next) (either last fun _ => rejected) s := by
  refine wp_seq (wp_mono starts (fun result s' holds => ?_) fun _ => id)
  cases result with
  | ok value => exact rest value s' holds
  | error error => exact holds

@[simp] theorem wp_catching (p : Program Op Reply ε α) (handler : ε → Program Op Reply ε α)
    (post : Except ε α → σ → Prop) (s : σ) :
    wp D allowed crash (p.catching handler) post s ↔
      wp D allowed crash p (either (fun value s' => post (.ok value) s')
        (fun error s' => wp D allowed crash (handler error) post s')) s := by
  rw [Program.catching, wp_resume]
  refine wp_congr fun result s' => ?_
  cases result <;> simp

@[simp] theorem wp_finally (p : Program Op Reply ε α) (last : Program Op Reply ε Unit)
    (post : Except ε α → σ → Prop) (s : σ) :
    wp D allowed crash (p.finally_ last) post s ↔
      wp D allowed crash p (fun result s' => wp D allowed crash last
        (either (fun _ s'' => post result s'') (fun error s'' => post (.error error) s'')) s') s := by
  rw [Program.finally_, wp_resume]
  refine wp_congr fun result s' => ?_
  cases result <;> exact wp_bind _ _ _ _

@[simp] theorem wp_attempt (p : Program Op Reply ε α) (post : Except ε' (Except ε α) → σ → Prop)
    (s : σ) : wp D allowed crash (p.attempt : Program Op Reply ε' (Except ε α)) post s ↔
      wp D allowed crash p (fun result s' => post (.ok result) s') s := by
  simp [Program.attempt]

@[simp] theorem wp_ask (op : Op) (post : Except ε (Reply op) → σ → Prop) (s : σ) :
    wp D allowed crash (Program.ask op : Program Op Reply ε (Reply op)) post s ↔
      wpCall D allowed crash op (fun reply s' => post (.ok reply) s') s := Iff.rfl

theorem wp_and {p : Program Op Reply ε α} {post post' : Except ε α → σ → Prop} {crash' : σ → Prop}
    (first : wp D allowed crash p post s) (second : wp D allowed crash' p post' s) :
    wp D allowed (fun s' => crash s' ∧ crash' s') p (fun result s' => post result s' ∧ post' result s') s := by
  induction p generalizing s with
  | done value => exact ⟨first, second⟩
  | throw error => exact ⟨first, second⟩
  | call op next ih =>
    refine ⟨fun ok => ih _ (first.1 ok) (second.1 ok), ?_, fun extent ok => ⟨first.2.2 extent ok, second.2.2 extent ok⟩⟩
    exact fun code extent fallible ok => ih _ (first.2.1 code extent fallible ok)
      (second.2.1 code extent fallible ok)

theorem wp_weaken {allowed' : Op → Fault κ → σ → Prop} {p : Program Op Reply ε α}
    {post : Except ε α → σ → Prop} (h : wp D allowed crash p post s)
    (fewer : ∀ op fault s, allowed' op fault s → allowed op fault s) : wp D allowed' crash p post s := by
  induction p generalizing s with
  | done value => exact h
  | throw error => exact h
  | call op next ih =>
    refine ⟨fun ok => ih _ (h.1 (fewer _ _ _ ok)), ?_, fun extent ok => h.2.2 extent (fewer _ _ _ ok)⟩
    exact fun code extent fallible ok => ih _ (h.2.1 code extent fallible (fewer _ _ _ ok))

theorem wp_true (p : Program Op Reply ε α) (s : σ) :
    wp D allowed (fun _ => True) p (fun _ _ => True) s := by
  induction p generalizing s with
  | done value => trivial
  | throw error => trivial
  | call op next ih => exact ⟨fun _ => ih _ _, fun _ _ _ _ => ih _ _, fun _ _ => trivial⟩

theorem wp_uncrashed {crash' : σ → Prop} {p : Program Op Reply ε α} {post : Except ε α → σ → Prop}
    (h : wp D allowed crash p post s) (never : ∀ op extent s, ¬ allowed op (.crash extent) s) :
    wp D allowed crash' p post s := by
  induction p generalizing s with
  | done value => exact h
  | throw error => exact h
  | call op next ih =>
    refine ⟨fun ok => ih _ (h.1 ok), fun code extent fallible ok => ih _ (h.2.1 code extent fallible ok), ?_⟩
    exact fun extent strikes => absurd strikes (never op extent s)

/-- What holds of the result if there is one. -/
abbrev owp (D : Device Op Reply κ σ) (allowed : Op → Fault κ → σ → Prop) (p : Program Op Reply ε α)
    (post : α → σ → Prop) (s : σ) : Prop :=
  wp D allowed (fun _ => True) p (either post fun _ _ => True) s

theorem owp_mono {p : Program Op Reply ε α} {post post' : α → σ → Prop} (h : owp D allowed p post s)
    (imp : ∀ value s', post value s' → post' value s') : owp D allowed p post' s := by
  refine wp_mono h (fun result s' holds => ?_) fun _ => id
  cases result with
  | ok value => exact imp value s' holds
  | error error => trivial

theorem owp_true (p : Program Op Reply ε α) (s : σ) : owp D allowed p (fun _ _ => True) s := by
  refine wp_mono (wp_true p s) (fun result _ _ => ?_) fun _ => id
  cases result <;> trivial

theorem owp_seq {p : Program Op Reply ε α} {next : α → Program Op Reply ε β} {post : β → σ → Prop}
    (h : owp D allowed p (fun value s' => owp D allowed (next value) post s') s) :
    owp D allowed (p >>= next) post s := by
  refine wp_seq (wp_mono h (fun result s' holds => ?_) fun _ => id)
  cases result with
  | ok value => exact holds
  | error error => trivial

theorem owp_finally {p : Program Op Reply ε α} {last : Program Op Reply ε Unit} {post : α → σ → Prop}
    (h : owp D allowed p (fun value s' => owp D allowed last (fun _ => post value) s') s) :
    owp D allowed (p.finally_ last) post s := by
  refine (wp_finally p last _ s).2 (wp_mono h (fun result s' holds => ?_) fun _ => id)
  cases result with
  | ok value => exact holds
  | error error =>
    refine wp_mono (wp_true last s') (fun ended _ _ => ?_) fun _ => id
    cases ended <;> trivial

theorem owp_call {op : Op} {next : Reply op → Program Op Reply ε α} {post : α → σ → Prop}
    (after : owp D allowed (next (D.reply op s)) post (D.effect op .none s))
    (refused : ∀ code, ∃ error, next (D.refuse op code) = .throw error) :
    owp D allowed (.call op next) post s := by
  refine ⟨fun _ => after, fun code extent _ _ => ?_, fun _ _ => trivial⟩
  obtain ⟨error, thrown⟩ := refused code
  rw [thrown]
  trivial

theorem wp_uses {kind : Op → Prop} {inv : σ → Prop} {p : Program Op Reply ε α} (uses : p.Uses kind)
    (keeps : ∀ op fault s, kind op → inv s → inv (D.effect op fault s)) (start : inv s) :
    wp D allowed inv p (fun _ => inv) s := by
  induction uses generalizing s with
  | done value => exact start
  | throw error => exact start
  | call op next ofKind rest ih =>
    refine ⟨fun _ => ih _ ?_, fun code extent _ _ => ih _ ?_, fun extent _ => ?_⟩
    · exact keeps op _ s ofKind start
    · exact keeps op _ s ofKind start
    · exact keeps op _ s ofKind start

/-- `wp` bounds every run whose steps are all allowed. -/
theorem wp_sound {p : Program Op Reply ε α} (h : wp D allowed crash p post s)
    (meets : Meets D allowed p faults s) :
    match run D p faults s with
    | (.returned value, s') => post (.ok value) s'
    | (.threw error, s') => post (.error error) s'
    | (.crashed, s') => crash s' := by
  induction p generalizing faults s with
  | done value => exact h
  | throw error => exact h
  | call op next ih =>
    simp only [Meets, trace, List.forall_mem_cons] at meets
    obtain ⟨ok, rest⟩ := meets
    cases met : D.meets op (faults.headD .none) with
    | none =>
      simp only [met] at ok rest
      simp only [run, met]
      exact ih _ (h.1 ok) rest
    | fail code extent =>
      simp only [met] at ok rest
      simp only [run, met]
      exact ih _ (h.2.1 code extent (D.meets_fail met) ok) rest
    | crash extent =>
      simp only [met] at ok
      simp only [run, met]
      exact h.2.2 extent ok

theorem run_bind (p : Program Op Reply ε α) (next : α → Program Op Reply ε β)
    (meets : Meets D allowed (p >>= next) faults s) :
    Meets D allowed p faults s ∧
      match run D p faults s with
      | (.returned value, s') => ∃ left, Meets D allowed (next value) left s' ∧
          run D (p >>= next) faults s = run D (next value) left s'
      | (.threw error, s') => run D (p >>= next) faults s = (.threw error, s')
      | (.crashed, s') => run D (p >>= next) faults s = (.crashed, s') := by
  induction p generalizing faults s with
  | done value => exact ⟨fun step member => (by cases member), faults, meets, rfl⟩
  | throw error => exact ⟨fun step member => (by cases member), rfl⟩
  | call op rest ih =>
    have bound : (Program.call op rest >>= next) = .call op fun reply => rest reply >>= next := rfl
    rw [bound] at meets ⊢
    unfold Meets at meets ⊢
    simp only [trace, run, List.forall_mem_cons] at meets ⊢
    cases met : D.meets op (faults.headD .none) with
    | none =>
      simp only [met] at meets ⊢
      obtain ⟨first, after⟩ := meets
      obtain ⟨meetsRest, ended⟩ := ih _ after
      exact ⟨⟨first, meetsRest⟩, ended⟩
    | fail code extent =>
      simp only [met] at meets ⊢
      obtain ⟨first, after⟩ := meets
      obtain ⟨meetsRest, ended⟩ := ih _ after
      exact ⟨⟨first, meetsRest⟩, ended⟩
    | crash extent =>
      simp only [met] at meets ⊢
      exact ⟨meets, trivial⟩

theorem Device.meets_eq (D : Device Op Reply κ σ) (op : Op) (fault : Fault κ) :
    D.meets op fault = fault ∨ D.meets op fault = .none := by
  cases fault with
  | none => exact Or.inl rfl
  | crash extent => exact Or.inl rfl
  | fail code extent =>
    rw [Device.meets]
    split
    · exact Or.inr rfl
    · exact Or.inl rfl

/-- Where it depends on the fault alone what is allowed, it is enough to look through the faults. -/
theorem meets_of_faults (lets : Fault κ → Prop) (clean : lets .none) (allows : ∀ op fault s, lets fault → allowed op fault s)
    {p : Program Op Reply ε α} {faults : List (Fault κ)} (every : ∀ fault ∈ faults, lets fault) (s : σ) :
    Meets D allowed p faults s := by
  induction p generalizing faults s with
  | done value => exact fun step member => nomatch member
  | throw error => exact fun step member => nomatch member
  | call op next ih =>
    have head : lets (faults.headD .none) := by
      cases faults with
      | nil => exact clean
      | cons fault faults => exact every fault List.mem_cons_self
    have first : lets (D.meets op (faults.headD .none)) := by
      rcases D.meets_eq op (faults.headD .none) with same | none
      · rwa [same]
      · rwa [none]
    have later : ∀ fault ∈ faults.tail, lets fault := fun fault member => every fault (List.mem_of_mem_tail member)
    unfold Meets
    simp only [trace, List.forall_mem_cons]
    refine ⟨allows op _ s first, ?_⟩
    cases D.meets op (faults.headD .none) with
    | none => exact ih _ later _
    | fail code extent => exact ih _ later _
    | crash extent => exact fun step member => nomatch member

theorem wp_run_clean {p : Program Op Reply ε α} (h : wp D allowed crash p post s)
    (clean : ∀ op s, allowed op .none s) :
    (∃ value s', run D p [] s = (.returned value, s') ∧ post (.ok value) s') ∨
      ∃ error s', run D p [] s = (.threw error, s') ∧ post (.error error) s' := by
  induction p generalizing s with
  | done value => exact Or.inl ⟨value, s, rfl, h⟩
  | throw error => exact Or.inr ⟨error, s, rfl, h⟩
  | call op next ih => exact ih _ (h.1 (clean op s))

end Rules

section Watched

variable {D : Device Op Reply κ σ} {good allowed : Op → Fault κ → σ → Prop}

/-- The device with a ghost beside its state that stays true while every step is `good`. -/
def Device.watched (D : Device Op Reply κ σ) (good : Op → Fault κ → σ → Prop) :
    Device Op Reply κ (σ × Prop) where
  effect op fault s := (D.effect op fault s.1, s.2 ∧ good op fault s.1)
  reply op s := D.reply op s.1
  refuse := D.refuse
  infallible := D.infallible

theorem meets_watched (op : Op) (fault : Fault κ) : (D.watched good).meets op fault = D.meets op fault := by
  cases fault <;> rfl

theorem trace_watched (p : Program Op Reply ε α) (faults : List (Fault κ)) (s : σ) (ghost : Prop) :
    (trace (D.watched good) p faults (s, ghost)).map (fun step => (step.1, step.2.1, step.2.2.1)) =
      trace D p faults s := by
  induction p generalizing faults s ghost with
  | done value => rfl
  | throw error => rfl
  | call op next ih =>
    simp only [trace, List.map_cons, meets_watched]
    cases D.meets op (faults.headD .none) with
    | none => exact congrArg _ (ih _ _ _ _)
    | fail code extent => exact congrArg _ (ih _ _ _ _)
    | crash extent => rfl

theorem run_watched (p : Program Op Reply ε α) (faults : List (Fault κ)) (s : σ) (ghost : Prop) :
    run (D.watched good) p faults (s, ghost) =
      ((run D p faults s).1, (run D p faults s).2, ghost ∧ Meets D good p faults s) := by
  induction p generalizing faults s ghost with
  | done value => simp [run, Meets, trace]
  | throw error => simp [run, Meets, trace]
  | call op next ih =>
    simp only [run, Meets, trace, List.forall_mem_cons, meets_watched]
    cases D.meets op (faults.headD .none) with
    | none => exact (ih _ _ _ _).trans (by simp only [Meets, and_assoc]; rfl)
    | fail code extent => exact (ih _ _ _ _).trans (by simp only [Meets, and_assoc]; rfl)
    | crash extent => simp [Device.watched]

/-- `wp` on the watched device bounds a run together with whether every step of it was good. -/
theorem wp_watched {p : Program Op Reply ε α} {crash : σ × Prop → Prop}
    {post : Except ε α → σ × Prop → Prop}
    (h : wp (D.watched good) (fun op fault s => allowed op fault s.1) crash p post (s, True))
    (meets : Meets D allowed p faults s) :
    match run D p faults s with
    | (.returned value, s') => post (.ok value) (s', Meets D good p faults s)
    | (.threw error, s') => post (.error error) (s', Meets D good p faults s)
    | (.crashed, s') => crash (s', Meets D good p faults s) := by
  have lifted : Meets (D.watched good) (fun op fault s => allowed op fault s.1) p faults (s, True) := by
    intro step member
    have := List.mem_map_of_mem (f := fun step : Op × Fault κ × σ × Prop => (step.1, step.2.1, step.2.2.1)) member
    rw [trace_watched] at this
    exact meets _ this
  have sound := wp_sound h lifted
  rw [run_watched, true_and] at sound
  generalize run D p faults s = result at sound
  obtain ⟨outcome, s'⟩ := result
  cases outcome <;> exact sound

end Watched

end Interrupted
