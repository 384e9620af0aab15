import Mathlib.Logic.Relation
import Mathlib.Order.WellFounded
import MaterialEmail.Library.Program

/-! Programs whose operations may have to wait for the world: while an operation is due, things happen by themselves,
and it is answered when they have gone far enough. That a program comes to an end, with a value of some kind,
whatever happens in between. -/
namespace Interrupted

open Relation

variable {Op : Type} {Reply : Op → Type} {ε α β σ : Type}

/-- How operations may be answered, and what may happen by itself. -/
structure Surrounding (Op : Type) (Reply : Op → Type) (σ : Type) where
  answers : (op : Op) → σ → Reply op → σ → Prop
  meanwhile : σ → σ → Prop

variable (S : Surrounding Op Reply σ)

/-- The operation that is due is answered, or something happens. -/
inductive Goes : Program Op Reply ε α × σ → Program Op Reply ε α × σ → Prop where
  | acts {op : Op} {next : Reply op → Program Op Reply ε α} {s s' : σ} {reply : Reply op}
      (answered : S.answers op s reply s') : Goes (.call op next, s) (next reply, s')
  | waits {p : Program Op Reply ε α} {s s' : σ} (happens : S.meanwhile s s') : Goes (p, s) (p, s')

/-- The program comes to a value that meets `post`: no operation of it can wait for ever. -/
def Completes (post : α → σ → Prop) : Program Op Reply ε α → σ → Prop
  | .done value, s => post value s
  | .throw _, _ => False
  | .call op next, s => ∀ s', ReflTransGen S.meanwhile s s' →
    (∀ reply s'', S.answers op s' reply s'' → Completes post (next reply) s'') ∧
      ((∃ reply s'', S.answers op s' reply s'') ∨ ∃ s'', S.meanwhile s' s'')

/-- Every run ends, and it ends in a value. -/
structure Returns (p : Program Op Reply ε α) (s : σ) (post : α → σ → Prop) : Prop where
  ends : Acc (fun c' c => Goes S c c') (p, s)
  returns : ∀ c, ReflTransGen (Goes S) (p, s) c →
    (∃ value, c.1 = .done value ∧ post value c.2) ∨ (∃ op next, c.1 = .call op next) ∧ ∃ c', Goes S c c'

/-- Where something holds, it goes on to hold. -/
def Lasts (inv : σ → Prop) : Prop := ∀ s s', S.meanwhile s s' → inv s → inv s'

variable {S}

theorem Lasts.later {inv : σ → Prop} {s s' : σ} (lasts : Lasts S inv) (happen : ReflTransGen S.meanwhile s s')
    (holds : inv s) : inv s' := by
  induction happen with
  | refl => exact holds
  | tail _ happens ih => exact lasts _ _ happens ih

theorem Completes.mono {p : Program Op Reply ε α} {post post' : α → σ → Prop} {s : σ} (completes : Completes S post p s)
    (imp : ∀ value s', post value s' → post' value s') : Completes S post' p s := by
  induction p generalizing s with
  | done value => exact imp _ _ completes
  | throw error => exact completes
  | call op next ih =>
    intro s' happen
    obtain ⟨goes, moves⟩ := completes s' happen
    exact ⟨fun reply s'' answered => ih _ (goes reply s'' answered), moves⟩

theorem Completes.bind {p : Program Op Reply ε α} {next : α → Program Op Reply ε β} {post : β → σ → Prop} {s : σ}
    (first : Completes S (fun value => Completes S post (next value)) p s) : Completes S post (p >>= next) s := by
  induction p generalizing s with
  | done value => exact first
  | throw error => exact first
  | call op rest ih =>
    intro s' happen
    obtain ⟨goes, moves⟩ := first s' happen
    exact ⟨fun reply s'' answered => ih _ (goes reply s'' answered), moves⟩

/-- An operation that is due while something goes on to hold. -/
theorem completes_call {op : Op} {next : Reply op → Program Op Reply ε α} {post : α → σ → Prop} {inv : σ → Prop} {s : σ}
    (lasts : Lasts S inv) (holds : inv s)
    (moves : ∀ s, inv s → (∃ reply s', S.answers op s reply s') ∨ ∃ s', S.meanwhile s s')
    (goes : ∀ s reply s', inv s → S.answers op s reply s' → Completes S post (next reply) s') :
    Completes S post (.call op next) s := fun s' happen =>
  ⟨fun reply s'' answered => goes s' reply s'' (lasts.later happen holds) answered, moves s' (lasts.later happen holds)⟩

theorem Completes.goes {p p' : Program Op Reply ε α} {post : α → σ → Prop} {s s' : σ}
    (lasts : ∀ value, Lasts S (post value)) (completes : Completes S post p s) (steps : Goes S (p, s) (p', s')) :
    Completes S post p' s' := by
  cases steps with
  | acts answered => exact (completes s .refl).1 _ _ answered
  | waits happens =>
    cases p with
    | done value => exact lasts value _ _ happens completes
    | throw error => exact completes
    | call op next => exact fun s'' happen => completes s'' (.head happens happen)

theorem goes_ends (wf : WellFounded fun s' s => S.meanwhile s s') (p : Program Op Reply ε α) (s : σ) :
    Acc (fun c' c => Goes S c c') (p, s) := by
  induction p generalizing s with
  | done value =>
    induction s using wf.induction with
    | h s ih =>
      constructor
      rintro _ (_ | happens)
      exact ih _ happens
  | throw error =>
    induction s using wf.induction with
    | h s ih =>
      constructor
      rintro _ (_ | happens)
      exact ih _ happens
  | call op next ihNext =>
    induction s using wf.induction with
    | h s ih =>
      constructor
      rintro _ (answered | happens)
      · exact ihNext _ _
      · exact ih _ happens

theorem Completes.returns {p : Program Op Reply ε α} {post : α → σ → Prop} {s : σ} (completes : Completes S post p s)
    (lasts : ∀ value, Lasts S (post value)) (wf : WellFounded fun s' s => S.meanwhile s s') : Returns S p s post := by
  refine ⟨goes_ends wf p s, fun c run => ?_⟩
  have still : Completes S post c.1 c.2 := by
    induction run with
    | refl => exact completes
    | tail _ steps ih => exact ih.goes lasts steps
  obtain ⟨p', s'⟩ := c
  cases p' with
  | done value => exact Or.inl ⟨value, rfl, still⟩
  | throw error => exact still.elim
  | call op next =>
    refine Or.inr ⟨⟨op, next, rfl⟩, ?_⟩
    rcases (still s' .refl).2 with ⟨reply, s'', answered⟩ | ⟨s'', happens⟩
    · exact ⟨_, .acts answered⟩
    · exact ⟨_, .waits happens⟩

end Interrupted
