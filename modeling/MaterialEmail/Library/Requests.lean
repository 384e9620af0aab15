import MaterialEmail.Library.Translation

/-! Programs that also turn to a party outside, which answers by what it is asked. Every request is remembered. -/
namespace Interrupted

variable {Op : Type} {Reply : Op → Type} {ε κ σ α Request Answer : Type}

/-- A device beside a party that keeps no state of it. -/
def Device.attended (D : Device Op Reply κ σ) (answer : Request → Answer) :
    Device (Op ⊕ Request) (Sum.elim Reply fun _ => Answer) κ (σ × List Request) where
  effect op fault s :=
    match op with
    | .inl op => (D.effect op fault s.1, s.2)
    | .inr request => (s.1, s.2 ++ [request])
  reply op s :=
    match op with
    | .inl op => D.reply op s.1
    | .inr request => answer request
  refuse op code :=
    match op with
    | .inl op => D.refuse op code
    | .inr request => answer request
  infallible op :=
    match op with
    | .inl op => D.infallible op
    | .inr _ => true

/-- What is allowed on the device, with whatever may befall a request. -/
def attending (allowed : Op → Fault κ → σ → Prop) (op : Op ⊕ Request) (fault : Fault κ) (s : σ × List Request) : Prop :=
  match op with
  | .inl op => allowed op fault s.1
  | .inr _ => True

variable {D : Device Op Reply κ σ} {answer : Request → Answer} {allowed : Op → Fault κ → σ → Prop}
  {crash : σ → Prop} {s : σ} {requests : List Request}

/-- A program that asks for nothing does what it does without the party. -/
theorem wp_among {p : Program Op Reply ε α} {post : Except ε α → σ → Prop} (h : wp D allowed crash p post s) :
    wp (D.attended answer) (attending allowed) (fun s' => crash s'.1) p.among
      (fun result s' => post result s'.1 ∧ s'.2 = requests) (s, requests) := by
  induction p generalizing s with
  | done value => exact ⟨h, rfl⟩
  | throw error => exact ⟨h, rfl⟩
  | call op next ih =>
    refine ⟨fun ok => ih _ (h.1 ok), fun code extent fallible ok => ih _ (h.2.1 code extent fallible ok), ?_⟩
    exact fun extent ok => h.2.2 extent ok

theorem wp_request {request : Request} {next : Answer → Program (Op ⊕ Request) (Sum.elim Reply fun _ => Answer) ε α}
    {post : Except ε α → σ × List Request → Prop} (crashes : crash s)
    (goes : wp (D.attended answer) (attending allowed) (fun s' => crash s'.1) (next (answer request)) post
      (s, requests ++ [request])) :
    wp (D.attended answer) (attending allowed) (fun s' => crash s'.1) (.call (.inr request) next) post (s, requests) :=
  ⟨fun _ => goes, fun _ _ _ _ => goes, fun _ _ => crashes⟩

end Interrupted
