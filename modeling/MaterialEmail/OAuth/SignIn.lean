import MaterialEmail.Library.Fallible
import MaterialEmail.Library.Interleaving
import MaterialEmail.OAuth.TokenExchange

/-! A sign-in that has been completed in the browser waits in one place until an account takes it. Sign-ins,
tests and accounts being added go on side by side. -/
namespace OAuth.SignIn

open JsString Interrupted Interleaved

def pendingSignInTtl : Nat := 10 * 60000

/-- What the build has: a token vault, and registrations with providers. -/
structure Host where
  vault : Bool
  registered : Provider → Bool

/-- Sign-ins are numbered as they are started. -/
structure PendingOAuthSignIn where
  signIn : Nat
  provider : Provider
  material : OAuthTokenMaterial
  capturedAt : Nat
  deriving DecidableEq

inductive OAuthSignInPhase where
  | exchanging
  | ready
  | failed
  deriving DecidableEq

structure OAuthSignInAccountHint where
  email : Option JsString
  displayName : Option JsString
  deriving DecidableEq

structure OAuthSignInSnapshot where
  signIn : Nat
  provider : Provider
  phase : OAuthSignInPhase
  failure : Option Template
  accountHint : Option OAuthSignInAccountHint
  deriving DecidableEq

/-- A record that the vault has taken, with the call that saved it and the sign-in it is of. -/
structure Saved where
  task : Nat
  signIn : Nat
  provider : Provider
  accountKey : JsString
  material : ValidMaterial JsString
  deriving DecidableEq

structure State where
  /-- How many sign-ins have been started. -/
  count : Nat
  pending : Option PendingOAuthSignIn
  status : Option OAuthSignInSnapshot
  vault : List Saved
  accounts : List JsString

inductive Op where
  /-- `completeOAuthSignIn` up to the exchange. -/
  | beginSignIn (provider : Provider)
  | exchangeAuthorizationCode (signIn : Nat) (provider : Provider)
  | randomUUID
  | peekPendingOAuthSignIn (provider : Provider) (consume : Bool)
  | testAccount (secret : JsString)
  | saveInitial (provider : Provider) (accountKey : JsString) (consumed : PendingOAuthSignIn)
  /-- The update that stores the account. -/
  | save (accountKey : JsString)

inductive SignInError where
  | text (message : Template)
  /-- An error of the mail service, the vault or the store. -/
  | other
  deriving DecidableEq

abbrev Reply : Op → Type
  | .beginSignIn _ => Option Nat
  | .exchangeAuthorizationCode _ _ => Unit
  | .randomUUID => JsString
  | .peekPendingOAuthSignIn _ _ => Except SignInError PendingOAuthSignIn
  | .testAccount _ => Except SignInError Unit
  | .saveInitial _ _ _ => Except SignInError Unit
  | .save _ => Except SignInError Unit

/-- How the world answers an operation. -/
inductive Choice where
  | proceeds
  | fails
  | draws (id : JsString)
  | clock (now : Nat)
  | answered (answer : Answer) (accountHint : Option OAuthSignInAccountHint) (now : Nat)
  deriving DecidableEq

def providerDisplayName : Provider → String
  | .google => "Google"
  | .microsoft => "Microsoft"

def signInFirst (provider : Provider) : SignInError :=
  .text [.inl "Sign in with ", .inl (providerDisplayName provider), .inl " before connecting this account."]

def hasExpired (provider : Provider) : SignInError :=
  .text [.inl "That ", .inl (providerDisplayName provider), .inl " sign-in has expired. Sign in again."]

def notAvailable : Template := [.inl "OAuth account connections are not available in this build."]

def State.failed (s : State) (signIn : Nat) (provider : Provider) (failure : Template) : State :=
  { s with status := some ⟨signIn, provider, .failed, some failure, none⟩ }

def beginSignIn (host : Host) (provider : Provider) (s : State) : Option Nat × State :=
  let started : State := { s with
    count := s.count + 1
    pending := none
    status := some ⟨s.count, provider, .exchanging, none, none⟩ }
  if host.vault = false then (none, started.failed s.count provider notAvailable)
  else if host.registered provider = false then
    (none, started.failed s.count provider [.inl "This build has no OAuth registration for that provider."])
  else (some s.count, started)

/-- What follows in `completeOAuthSignIn` when the exchange has ended. -/
def finishSignIn (signIn : Nat) (provider : Provider) (answer : Answer) (accountHint : Option OAuthSignInAccountHint)
    (now : Nat) (s : State) : State :=
  match exchangeAuthorizationCode answer with
  | .ok result =>
    { s with
      pending := some ⟨signIn, provider, initialMaterial result, now⟩
      status := some ⟨signIn, provider, .ready, none, accountHint⟩ }
  | .error error => s.failed signIn provider error.message

def peekPendingOAuthSignIn (provider : Provider) (consume : Bool) (now : Nat) (s : State) :
    Except SignInError PendingOAuthSignIn × State :=
  match s.pending with
  | none => (.error (signInFirst provider), s)
  | some pending =>
    if pending.provider ≠ provider then (.error (signInFirst provider), s)
    else if pending.capturedAt + pendingSignInTtl < now then (.error (hasExpired provider), { s with pending := none })
    else (.ok pending, if consume then { s with pending := none } else s)

/-- The vault takes a record whose material it accepts, unless it has one for the account. -/
def saveInitial (task : Nat) (provider : Provider) (accountKey : JsString) (consumed : PendingOAuthSignIn) (s : State) :
    Except SignInError Unit × State :=
  match validateMaterial consumed.material with
  | .ok material =>
    if s.vault.any (fun saved => saved.provider = provider && saved.accountKey = accountKey) then (.error .other, s)
    else (.ok (), { s with vault := s.vault ++ [⟨task, consumed.signIn, provider, accountKey, material⟩] })
  | .error _ => (.error .other, s)

def environment (host : Host) : Environment Op Reply Choice State where
  answer task op choice s :=
    match op, choice with
    | .beginSignIn provider, .proceeds => some (beginSignIn host provider s)
    | .exchangeAuthorizationCode signIn provider, .answered answer accountHint now =>
      some ((), finishSignIn signIn provider answer accountHint now s)
    | .randomUUID, .draws id => some (id, s)
    | .peekPendingOAuthSignIn provider consume, .clock now => some (peekPendingOAuthSignIn provider consume now s)
    | .testAccount _, .proceeds => some (.ok (), s)
    | .testAccount _, .fails => some (.error .other, s)
    | .saveInitial provider accountKey consumed, .proceeds => some (saveInitial task provider accountKey consumed s)
    | .saveInitial _ _ _, .fails => some (.error .other, s)
    | .save accountKey, .proceeds => some (.ok (), { s with accounts := s.accounts ++ [accountKey] })
    | .save _, .fails => some (.error .other, s)
    | _, _ => none

abbrev Call := Program Op Reply SignInError

def orThrow : Except SignInError α → Call α
  | .ok value => .done value
  | .error error => .throw error

section Programs

variable (host : Host)

def completeOAuthSignIn (provider : Provider) : Call Unit :=
  .call (.beginSignIn provider) fun
    | some signIn => .call (.exchangeAuthorizationCode signIn provider) .done
    | none => .done ()

def addOAuthAccount (provider : Provider) : Call Unit :=
  if host.vault = false then .throw (.text notAvailable)
  else
    .call .randomUUID fun id => do
      let forTest ← .call (.peekPendingOAuthSignIn provider false) orThrow
      .call (.testAccount forTest.material.accessToken) orThrow
      let consumed ← .call (.peekPendingOAuthSignIn provider true) orThrow
      .call (.saveInitial provider id consumed) orThrow
      .call (.save id) orThrow

/-- `testAccount` of a draft that signs in with OAuth. -/
def testAccount (provider : Provider) : Call Unit := do
  let pending ← .call (.peekPendingOAuthSignIn provider false) orThrow
  .call (.testAccount pending.material.accessToken) orThrow

inductive Request where
  | completeOAuthSignIn (provider : Provider)
  | addOAuthAccount (provider : Provider)
  | testAccount (provider : Provider)

def Request.program : Request → Call Unit
  | .completeOAuthSignIn provider => SignIn.completeOAuthSignIn provider
  | .addOAuthAccount provider => SignIn.addOAuthAccount host provider
  | .testAccount provider => SignIn.testAccount provider

end Programs

/-- What an observer notes of the calls. -/
structure Log where
  /-- The sign-in that a call looked at last, without taking it. -/
  lookedAt : Nat → Option PendingOAuthSignIn
  /-- Calls whose test succeeded, with the secret it was made with. -/
  tested : List (Nat × JsString)
  /-- Calls that took another sign-in than the one they had looked at. -/
  swapped : List Nat
  /-- Sign-ins whose exchange goes on, with the call. -/
  exchanging : List (Nat × Nat)
  /-- Sign-ins that a call has taken and not yet saved, with the call. -/
  taken : List (Nat × Nat)

def observe : Observer Op Reply Choice State Log := fun task op _ reply _ log =>
  match op, reply with
  | .beginSignIn _, some signIn => { log with exchanging := (signIn, task) :: log.exchanging }
  | .beginSignIn _, none => log
  | .exchangeAuthorizationCode signIn _, _ => { log with exchanging := log.exchanging.erase (signIn, task) }
  | .peekPendingOAuthSignIn _ false, .ok pending => { log with lookedAt := Function.update log.lookedAt task (some pending) }
  | .peekPendingOAuthSignIn _ true, .ok pending =>
    { log with
      taken := (pending.signIn, task) :: log.taken
      swapped := if log.lookedAt task = some pending then log.swapped else task :: log.swapped }
  | .peekPendingOAuthSignIn _ _, .error _ => log
  | .testAccount secret, .ok _ => { log with tested := (task, secret) :: log.tested }
  | .testAccount _, .error _ => log
  | .saveInitial _ _ consumed, _ => { log with taken := log.taken.erase (consumed.signIn, task) }
  | .randomUUID, _ | .save _, _ => log

/-- The calls on a service with nothing in it, observed. -/
def start : State × Log := (⟨0, none, none, [], []⟩, ⟨fun _ => none, [], [], [], []⟩)

section Contract

variable {host : Host} {s s' s'' : State × Log} {task : Nat} {op : Op}

/-- At how many places a sign-in is. -/
def places (s : State × Log) (signIn : Nat) : Nat :=
  s.2.exchanging.countP (·.1 = signIn) + s.1.pending.toList.countP (·.signIn = signIn) +
    s.2.taken.countP (·.1 = signIn) + s.1.vault.countP (·.signIn = signIn)

structure Sound (s : State × Log) : Prop where
  once : ∀ signIn, places s signIn ≤ 1
  numbered : ∀ signIn, s.1.count ≤ signIn → places s signIn = 0
  saved : ∀ saved ∈ s.1.vault, (saved.task, saved.material.accessToken) ∈ s.2.tested ∨ saved.task ∈ s.2.swapped

/-- What is noted of a call is there still. -/
structure Untouched (task : Nat) (s s' : State × Log) : Prop where
  lookedAt : s'.2.lookedAt task = s.2.lookedAt task
  tested : ∀ secret, (task, secret) ∈ s.2.tested → (task, secret) ∈ s'.2.tested
  swapped : task ∈ s.2.swapped → task ∈ s'.2.swapped
  exchanging : ∀ signIn, (signIn, task) ∈ s.2.exchanging → (signIn, task) ∈ s'.2.exchanging
  taken : ∀ signIn, (signIn, task) ∈ s.2.taken → (signIn, task) ∈ s'.2.taken

theorem Untouched.refl (task : Nat) (s : State × Log) : Untouched task s s :=
  ⟨rfl, fun _ => id, id, fun _ => id, fun _ => id⟩

theorem Untouched.trans (first : Untouched task s s') (second : Untouched task s' s'') : Untouched task s s'' where
  lookedAt := second.lookedAt.trans first.lookedAt
  tested secret member := second.tested secret (first.tested secret member)
  swapped member := second.swapped (first.swapped member)
  exchanging signIn member := second.exchanging signIn (first.exchanging signIn member)
  taken signIn member := second.taken signIn (first.taken signIn member)

/-- What a call has when it comes to an operation. -/
def Due (task : Nat) : Op → State × Log → Prop
  | .exchangeAuthorizationCode signIn _, s => (signIn, task) ∈ s.2.exchanging
  | .saveInitial _ _ consumed, s => (consumed.signIn, task) ∈ s.2.taken ∧
      ((task, consumed.material.accessToken) ∈ s.2.tested ∨ task ∈ s.2.swapped)
  | _, _ => True

def contract : Contract Op Request Choice (State × Log) where
  starts _ _ := True
  allowed _ _ _ _ := True
  inv := Sound
  rely := Untouched
  guar task s s' := Sound s' ∧ ∀ other, other ≠ task → Untouched other s s'
  demand := Due
  ends _ _ := True

theorem contract_lawful : contract.Lawful := by
  constructor
  · exact fun task s => .refl task s
  · exact fun task s s' s'' first second => first.trans second
  · exact fun task other s s' different guaranteed => guaranteed.2 task different
  · exact fun task s s' _ guaranteed => guaranteed.1
  · exact fun task s s' _ _ => trivial

abbrev observed (host : Host) : Environment Op Reply Choice (State × Log) := (environment host).observed observe

theorem observed_eq_some {choice : Choice} {reply : Reply op}
    (answered : (observed host).answer task op choice s = some (reply, s')) :
    (environment host).answer task op choice s.1 = some (reply, s'.1) ∧ s'.2 = observe task op choice reply s.1 s.2 := by
  simp only [Environment.observed, Option.map_eq_some_iff, Prod.exists] at answered
  obtain ⟨reply', state, answered, same⟩ := answered
  cases same
  exact ⟨answered, rfl⟩

theorem untouched_answer {choice : Choice} {reply : Reply op} {other : Nat} (different : other ≠ task)
    (answered : (observed host).answer task op choice s = some (reply, s')) : Untouched other s s' := by
  obtain ⟨-, noted⟩ := observed_eq_some answered
  have apart (signIn signIn' : Nat) : (signIn, other) ≠ (signIn', task) := fun same => different (Prod.mk.inj same).2
  constructor <;> rw [noted]
  · cases op with
    | peekPendingOAuthSignIn provider consume =>
      cases consume <;> cases reply <;> simp [observe, different]
    | beginSignIn provider => cases reply <;> rfl
    | testAccount secret => cases reply <;> rfl
    | _ => rfl
  · intro secret member
    cases op with
    | peekPendingOAuthSignIn provider consume => cases consume <;> cases reply <;> exact member
    | beginSignIn provider => cases reply <;> exact member
    | testAccount secret =>
      cases reply with
      | ok value => exact List.mem_cons_of_mem _ member
      | error error => exact member
    | _ => exact member
  · intro member
    cases op with
    | peekPendingOAuthSignIn provider consume =>
      cases consume <;> cases reply <;> simp only [observe]
      all_goals first | exact member | skip
      split
      · exact member
      · exact List.mem_cons_of_mem _ member
    | beginSignIn provider => cases reply <;> exact member
    | testAccount secret => cases reply <;> exact member
    | _ => exact member
  · intro signIn member
    cases op with
    | peekPendingOAuthSignIn provider consume => cases consume <;> cases reply <;> exact member
    | beginSignIn provider =>
      cases reply with
      | some started => exact List.mem_cons_of_mem _ member
      | none => exact member
    | testAccount secret => cases reply <;> exact member
    | exchangeAuthorizationCode started provider => exact (List.mem_erase_of_ne (apart _ _)).2 member
    | _ => exact member
  · intro signIn member
    cases op with
    | peekPendingOAuthSignIn provider consume =>
      cases consume <;> cases reply
      all_goals first | exact member | exact List.mem_cons_of_mem _ member
    | beginSignIn provider => cases reply <;> exact member
    | testAccount secret => cases reply <;> exact member
    | saveInitial provider accountKey consumed => exact (List.mem_erase_of_ne (apart _ _)).2 member
    | _ => exact member

theorem Sound.moved (sound : Sound s) (fewer : ∀ signIn, places s' signIn ≤ places s signIn) (later : s.1.count ≤ s'.1.count)
    (saved : ∀ saved ∈ s'.1.vault, (saved.task, saved.material.accessToken) ∈ s'.2.tested ∨ saved.task ∈ s'.2.swapped) :
    Sound s' := by
  refine ⟨fun signIn => (fewer signIn).trans (sound.once signIn), fun signIn beyond => ?_, saved⟩
  exact Nat.le_zero.1 ((fewer signIn).trans_eq (sound.numbered signIn (later.trans beyond)))

/-- A sign-in that was at one place of a log is taken from there. -/
theorem countP_erase_add {log : List (Nat × Nat)} {signIn : Nat} (member : (signIn, task) ∈ log) (other : Nat) :
    (log.erase (signIn, task)).countP (·.1 = other) + (if signIn = other then 1 else 0) = log.countP (·.1 = other) := by
  have split := (List.perm_cons_erase member).countP_eq (·.1 = other)
  rw [split, List.countP_cons]
  simp

section Answers

variable {log : Log} {state : State} {provider : Provider}

theorem sound_begin (sound : Sound (state, log)) :
    Sound ((beginSignIn host provider state).2,
      observe task (.beginSignIn provider) .proceeds (beginSignIn host provider state).1 state log) := by
  have added (signIn : Nat) : places ((beginSignIn host provider state).2,
      observe task (.beginSignIn provider) .proceeds (beginSignIn host provider state).1 state log) signIn ≤
        places (state, log) signIn + if state.count = signIn then 1 else 0 := by
    unfold beginSignIn
    split
    · simp only [places, State.failed, observe, Option.toList_none, List.countP_nil]
      omega
    · split
      · simp only [places, State.failed, observe, Option.toList_none, List.countP_nil]
        omega
      · simp only [places, observe, Option.toList_none, List.countP_nil, List.countP_cons, decide_eq_true_eq]
        omega
  have rest : (beginSignIn host provider state).2.count = state.count + 1 ∧
      (beginSignIn host provider state).2.vault = state.vault := by
    unfold beginSignIn
    split
    · exact ⟨rfl, rfl⟩
    · split <;> exact ⟨rfl, rfl⟩
  have noted : (observe task (.beginSignIn provider) .proceeds (beginSignIn host provider state).1 state log).tested = log.tested ∧
      (observe task (.beginSignIn provider) .proceeds (beginSignIn host provider state).1 state log).swapped = log.swapped := by
    cases (beginSignIn host provider state).1 <;> exact ⟨rfl, rfl⟩
  refine ⟨fun signIn => ?_, fun signIn beyond => ?_, fun saved member => ?_⟩
  · have before := sound.once signIn
    have most := added signIn
    by_cases new : state.count = signIn
    · rw [sound.numbered signIn (Nat.le_of_eq new), if_pos new] at most
      exact most
    · rw [if_neg new] at most
      omega
  · have past : state.count + 1 ≤ signIn := rest.1 ▸ beyond
    have most := added signIn
    rw [sound.numbered signIn (Nat.le_of_succ_le past), if_neg (by omega)] at most
    omega
  · rw [noted.1, noted.2]
    exact sound.saved saved (rest.2 ▸ member)

theorem sound_finish {signIn : Nat} {answer : Answer} {accountHint : Option OAuthSignInAccountHint} {now : Nat}
    (sound : Sound (state, log)) (due : (signIn, task) ∈ log.exchanging) :
    Sound (finishSignIn signIn provider answer accountHint now state,
      { log with exchanging := log.exchanging.erase (signIn, task) }) := by
  unfold finishSignIn
  split
  · refine sound.moved (fun other => ?_) (Nat.le_refl _) sound.saved
    have moved := countP_erase_add due other
    simp only [places, Option.toList_some, List.countP_cons, List.countP_nil, decide_eq_true_eq]
    omega
  · refine sound.moved (fun other => ?_) (Nat.le_refl _) sound.saved
    have moved := countP_erase_add due other
    simp only [places, State.failed]
    omega

theorem sound_peek {consume : Bool} {now : Nat} (sound : Sound (state, log)) :
    Sound ((peekPendingOAuthSignIn provider consume now state).2,
      observe task (.peekPendingOAuthSignIn provider consume) (.clock now)
        (peekPendingOAuthSignIn provider consume now state).1 state log) := by
  unfold peekPendingOAuthSignIn
  cases found : state.pending with
  | none => cases consume <;> exact sound
  | some pending =>
    dsimp only
    split
    · cases consume <;> exact sound
    · split
      · have fewer (signIn : Nat) : places ({ state with pending := none }, log) signIn ≤ places (state, log) signIn := by
          simp only [places, Option.toList_none, List.countP_nil]
          omega
        cases consume <;> exact sound.moved fewer (Nat.le_refl _) sound.saved
      · cases consume with
        | false => exact sound.moved (fun _ => Nat.le_refl _) (Nat.le_refl _) sound.saved
        | true =>
          refine sound.moved (fun other => ?_) (Nat.le_refl _) fun saved member => ?_
          · simp only [places, observe, found, Option.toList_none, Option.toList_some, List.countP_nil, List.countP_cons,
              decide_eq_true_eq, if_true]
            omega
          · refine (sound.saved saved member).imp id fun swapped => ?_
            simp only [observe]
            split
            · exact swapped
            · exact List.mem_cons_of_mem _ swapped

theorem validateMaterial_accessToken {value : OAuthTokenMaterial} {material : ValidMaterial JsString}
    (valid : validateMaterial value = .ok material) : material.accessToken = value.accessToken := by
  obtain ⟨accessToken, valid', rest⟩ := Fallible.bind_eq_ok valid
  obtain ⟨refreshToken, -, rest⟩ := Fallible.bind_eq_ok rest
  obtain ⟨seconds, -, rest⟩ := Fallible.bind_eq_ok rest
  obtain ⟨scopes, -, rest⟩ := Fallible.bind_eq_ok rest
  cases rest
  simp only [validateTokenText] at valid'
  split at valid'
  · cases valid'
    rfl
  · cases valid'

theorem sound_saveInitial {accountKey : JsString} {consumed : PendingOAuthSignIn} (sound : Sound (state, log))
    (due : Due task (.saveInitial provider accountKey consumed) (state, log)) :
    Sound ((saveInitial task provider accountKey consumed state).2,
      { log with taken := log.taken.erase (consumed.signIn, task) }) := by
  have isTaken : (consumed.signIn, task) ∈ log.taken := due.1
  have moved := countP_erase_add isTaken
  have dropped : Sound (state, { log with taken := log.taken.erase (consumed.signIn, task) }) := by
    refine sound.moved (fun other => ?_) (Nat.le_refl _) sound.saved
    have here := moved other
    simp only [places]
    omega
  unfold saveInitial
  split
  · rename_i material valid
    split
    · exact dropped
    · refine sound.moved (fun other => ?_) (Nat.le_refl _) fun saved member => ?_
      · have here := moved other
        simp only [places, List.countP_append, List.countP_cons, List.countP_nil, decide_eq_true_eq]
        omega
      · rcases List.mem_append.1 member with old | new
        · exact sound.saved saved old
        · obtain rfl := List.mem_singleton.1 new
          rw [validateMaterial_accessToken valid]
          exact due.2
  · exact dropped

end Answers

theorem sound_answer {choice : Choice} {reply : Reply op} (sound : Sound s) (due : Due task op s)
    (answered : (observed host).answer task op choice s = some (reply, s')) : Sound s' := by
  obtain ⟨state, log⟩ := s
  obtain ⟨state', log'⟩ := s'
  obtain ⟨answered, noted⟩ := observed_eq_some answered
  obtain rfl : log' = _ := noted
  have tests (secret : JsString) : Sound (state, { log with tested := (task, secret) :: log.tested }) :=
    ⟨sound.once, sound.numbered, fun saved member => (sound.saved saved member).imp (List.mem_cons_of_mem _) id⟩
  cases op with
  | beginSignIn provider =>
    cases choice with
    | proceeds =>
      obtain ⟨rfl, rfl⟩ := Prod.mk.inj (Option.some.inj answered)
      exact sound_begin sound
    | _ => cases answered
  | exchangeAuthorizationCode signIn provider =>
    cases choice <;> cases answered
    exact sound_finish sound due
  | randomUUID =>
    cases choice <;> cases answered
    exact sound
  | peekPendingOAuthSignIn provider consume =>
    cases choice with
    | clock now =>
      obtain ⟨rfl, rfl⟩ := Prod.mk.inj (Option.some.inj answered)
      exact sound_peek sound
    | _ => cases answered
  | testAccount secret =>
    cases choice <;> cases answered
    · exact tests secret
    · exact sound
  | saveInitial provider accountKey consumed =>
    cases choice with
    | proceeds =>
      obtain ⟨rfl, rfl⟩ := Prod.mk.inj (Option.some.inj answered)
      exact sound_saveInitial sound due
    | fails =>
      cases answered
      have isTaken : (consumed.signIn, task) ∈ log.taken := due.1
      have moved := countP_erase_add isTaken
      refine sound.moved (fun other => ?_) (Nat.le_refl _) sound.saved
      have here := moved other
      simp only [places, observe]
      omega
    | _ => cases answered
  | save accountKey =>
    cases choice <;> cases answered
    · exact sound.moved (fun _ => Nat.le_refl _) (Nat.le_refl _) sound.saved
    · exact sound

section Calls

variable {post : Except SignInError α → State × Log → Prop}

/-- An operation of a call, which has what is due to it. -/
theorem call_meets {next : Reply op → Call α} (due : ∀ s', Untouched task s s' → Due task op s')
    (goes : ∀ choice reply s' s'', Untouched task s s' → (observed host).answer task op choice s' = some (reply, s'') →
      meets (observed host) contract task (next reply) post s'') :
    meets (observed host) contract task (.call op next) post s := by
  intro s' untouched (sound : Sound s')
  refine ⟨due s' untouched, fun choice reply s'' _ answered => ⟨⟨?_, fun other different => ?_⟩, ?_⟩⟩
  · exact sound_answer sound (due s' untouched) answered
  · exact untouched_answer different answered
  · exact goes choice reply s' s'' untouched answered

theorem orThrow_meets {result : Except SignInError β} {post : Except SignInError β → State × Log → Prop}
    (ok : ∀ value, result = .ok value → post (.ok value) s) (error : ∀ error, post (.error error) s) :
    meets (observed host) contract task (orThrow result) post s := by
  cases result with
  | ok value => exact ok value rfl
  | error thrown => exact error thrown

theorem looked {provider : Provider} {choice : Choice} {pending : PendingOAuthSignIn}
    (answered : (observed host).answer task (.peekPendingOAuthSignIn provider false) choice s = some (.ok pending, s')) :
    s'.2.lookedAt task = some pending := by
  rw [(observed_eq_some answered).2]
  simp [observe]

theorem took {provider : Provider} {choice : Choice} {pending : PendingOAuthSignIn}
    (answered : (observed host).answer task (.peekPendingOAuthSignIn provider true) choice s = some (.ok pending, s')) :
    s'.2.tested = s.2.tested ∧ (pending.signIn, task) ∈ s'.2.taken ∧ (s.2.lookedAt task = some pending ∨ task ∈ s'.2.swapped) := by
  rw [(observed_eq_some answered).2]
  refine ⟨rfl, List.mem_cons_self, ?_⟩
  by_cases same : s.2.lookedAt task = some pending
  · exact Or.inl same
  · refine Or.inr ?_
    simp [observe, same]

theorem testedOk {secret : JsString} {choice : Choice} {value : Unit}
    (answered : (observed host).answer task (.testAccount secret) choice s = some (.ok value, s')) :
    (task, secret) ∈ s'.2.tested ∧ s'.2.lookedAt = s.2.lookedAt := by
  rw [(observed_eq_some answered).2]
  exact ⟨List.mem_cons_self, rfl⟩

theorem completeOAuthSignIn_meets (provider : Provider) :
    meets (observed host) contract task (completeOAuthSignIn provider) (fun _ _ => True) s := by
  refine call_meets (fun _ _ => trivial) fun choice reply s₁ s₂ _ answered => ?_
  cases reply with
  | none => trivial
  | some signIn =>
    have begun : (signIn, task) ∈ s₂.2.exchanging := by
      rw [(observed_eq_some answered).2]
      exact List.mem_cons_self
    exact call_meets (fun s' untouched => untouched.exchanging _ begun) fun _ _ _ _ _ _ => trivial

theorem testAccount_meets (provider : Provider) :
    meets (observed host) contract task (testAccount provider) (fun _ _ => True) s := by
  refine meets_seq (call_meets (fun _ _ => trivial) fun _ reply _ s₂ _ _ => ?_)
  refine orThrow_meets (fun pending _ => ?_) fun _ => trivial
  refine call_meets (fun _ _ => trivial) fun _ reply _ s₃ _ _ => ?_
  exact orThrow_meets (fun _ _ => trivial) fun _ => trivial

/-- A call has either saved the sign-in that it tested or taken another one. -/
theorem addOAuthAccount_meets (provider : Provider) :
    meets (observed host) contract task (addOAuthAccount host provider) (fun _ _ => True) s := by
  unfold addOAuthAccount
  split
  · trivial
  refine call_meets (fun _ _ => trivial) fun _ id _ s₁ _ _ => ?_
  refine meets_seq (call_meets (fun _ _ => trivial) fun _ reply _ s₂ _ peeked => ?_)
  refine orThrow_meets (fun forTest isOk => ?_) fun _ => trivial
  subst isOk
  have isLookedAt := looked peeked
  refine meets_seq (call_meets (fun _ _ => trivial) fun _ reply s₂' s₃ waits answered => ?_)
  refine orThrow_meets (fun _ isOk => ?_) fun _ => trivial
  subst isOk
  obtain ⟨isTested, still⟩ := testedOk answered
  have isLookedAt : s₃.2.lookedAt task = some forTest := by rw [still, waits.lookedAt, isLookedAt]
  refine meets_seq (call_meets (fun _ _ => trivial) fun _ reply s₃' s₄ waits' peeked' => ?_)
  refine orThrow_meets (fun consumed isOk => ?_) fun _ => trivial
  subst isOk
  obtain ⟨tests, isTaken, same⟩ := took peeked'
  rw [waits'.lookedAt, isLookedAt] at same
  have kept : (task, consumed.material.accessToken) ∈ s₄.2.tested ∨ task ∈ s₄.2.swapped := by
    refine same.imp (fun isSame => ?_) fun swapped => swapped
    rw [tests, ← Option.some.inj isSame]
    exact waits'.tested _ isTested
  refine meets_seq (call_meets (fun s' untouched => ?_) fun _ reply _ s₅ _ _ => ?_)
  · exact ⟨untouched.taken _ isTaken, kept.imp (untouched.tested _) untouched.swapped⟩
  refine orThrow_meets (fun _ _ => ?_) fun _ => trivial
  refine call_meets (fun _ _ => trivial) fun _ reply _ s₆ _ _ => ?_
  exact orThrow_meets (fun _ _ => trivial) fun _ => trivial

theorem request_meets (request : Request) :
    meets (observed host) contract task (request.program host) (fun _ => contract.ends task) s := by
  cases request with
  | completeOAuthSignIn provider => exact completeOAuthSignIn_meets provider
  | addOAuthAccount provider => exact addOAuthAccount_meets provider
  | testAccount provider => exact testAccount_meets provider

end Calls

end Contract

section Runs

variable {host : Host} {s s' : State × Log}

/-- No two accounts have been saved with one sign-in. -/
def AttachedOnce (s : State × Log) : Prop := (s.1.vault.map (·.signIn)).Nodup

/-- The token of every record that was saved is the one that its own call's test succeeded with. -/
def SavedTested (s : State × Log) : Prop :=
  ∀ saved ∈ s.1.vault, (saved.task, saved.material.accessToken) ∈ s.2.tested

/-- The pending sign-in and the status are those of the sign-in that was started last. -/
structure Newest (state : State) : Prop where
  pending : ∀ pending ∈ state.pending, pending.signIn + 1 = state.count
  status : (state.status.map (·.signIn + 1)).getD 0 = state.count

/-- A call takes the sign-in that it looked at before its test. -/
def takesTested : Conditions Op Request Choice (State × Log) where
  starts _ _ := True
  allowed task op choice s :=
    match op, choice with
    | .peekPendingOAuthSignIn provider true, .clock now =>
      ∀ pending ∈ s.1.pending, (peekPendingOAuthSignIn provider true now s.1).1.isOk = true → s.2.lookedAt task = some pending
    | _, _ => True

/-- When an exchange ends, no later sign-in has been started. -/
def newestEnds : Conditions Op Request Choice (State × Log) where
  starts _ _ := True
  allowed _ op _ s :=
    match op with
    | .exchangeAuthorizationCode signIn _ => signIn + 1 = s.1.count
    | _ => True

theorem peek_eq_ok {provider : Provider} {consume : Bool} {now : Nat} {state : State} {pending : PendingOAuthSignIn}
    (ok : (peekPendingOAuthSignIn provider consume now state).1 = .ok pending) : state.pending = some pending := by
  unfold peekPendingOAuthSignIn at ok
  split at ok
  · cases ok
  · rename_i found
    split at ok
    · cases ok
    · split at ok <;> cases ok
      exact found

/-- While every call takes what it has tested, none has taken another. -/
theorem swapped_answer {task : Nat} {op : Op} {choice : Choice} {reply : Reply op} (none : s.2.swapped = [])
    (allowed : takesTested.allowed task op choice s)
    (answered : (observed host).answer task op choice s = some (reply, s')) : s'.2.swapped = [] := by
  obtain ⟨answered, noted⟩ := observed_eq_some answered
  rw [noted]
  cases op with
  | peekPendingOAuthSignIn provider consume =>
    cases reply with
    | error error => cases consume <;> exact none
    | ok pending =>
      cases consume with
      | false => exact none
      | true =>
        cases choice with
        | clock now =>
          have same := congrArg Prod.fst (Option.some.inj answered)
          have same : (peekPendingOAuthSignIn provider true now s.1).1 = .ok pending := same
          have isSame : s.2.lookedAt task = some pending := allowed pending (peek_eq_ok same) (by rw [same]; rfl)
          simp only [observe, isSame, if_true]
          exact none
        | _ => cases answered
  | beginSignIn provider => cases reply <;> exact none
  | testAccount secret => cases reply <;> exact none
  | _ => exact none

section Answers

variable {state : State} {provider : Provider}

theorem Newest.emptied (newest : Newest state) : Newest { state with pending := none } :=
  ⟨fun _ found => (nomatch found), newest.status⟩

theorem newest_begin : Newest (beginSignIn host provider state).2 := by
  unfold beginSignIn
  split
  · exact ⟨fun _ found => (nomatch found), rfl⟩
  · split <;> exact ⟨fun _ found => (nomatch found), rfl⟩

/-- The exchange of an older sign-in leaves its own status and, if it succeeds, its own tokens. -/
theorem newest_finish {signIn : Nat} {answer : Answer} {accountHint : Option OAuthSignInAccountHint} {now : Nat}
    (newest : Newest state) :
    Newest (finishSignIn signIn provider answer accountHint now state) ↔ signIn + 1 = state.count := by
  unfold finishSignIn
  split
  · refine ⟨fun after => after.status, fun isNewest => ⟨fun pending found => ?_, isNewest⟩⟩
    cases found
    exact isNewest
  · exact ⟨fun after => after.status, fun isNewest => ⟨newest.pending, isNewest⟩⟩

theorem newest_peek {consume : Bool} {now : Nat} (newest : Newest state) :
    Newest (peekPendingOAuthSignIn provider consume now state).2 := by
  unfold peekPendingOAuthSignIn
  split
  · exact newest
  · split
    · exact newest
    · split
      · exact newest.emptied
      · cases consume with
        | true => exact newest.emptied
        | false => exact newest

theorem newest_saveInitial {task : Nat} {accountKey : JsString} {consumed : PendingOAuthSignIn} (newest : Newest state) :
    Newest (saveInitial task provider accountKey consumed state).2 := by
  unfold saveInitial
  split
  · split
    · exact newest
    · exact ⟨newest.pending, newest.status⟩
  · exact newest

end Answers

theorem newest_answer {task : Nat} {op : Op} {choice : Choice} {reply : Reply op} (newest : Newest s.1)
    (answered : (observed host).answer task op choice s = some (reply, s')) :
    Newest s'.1 ↔ newestEnds.allowed task op choice s := by
  obtain ⟨state', log'⟩ := s'
  replace answered := (observed_eq_some answered).1
  cases op with
  | beginSignIn provider =>
    cases choice with
    | proceeds =>
      obtain ⟨-, rfl⟩ := Prod.mk.inj (Option.some.inj answered)
      exact iff_of_true newest_begin trivial
    | _ => cases answered
  | exchangeAuthorizationCode signIn provider =>
    cases choice with
    | answered answer accountHint now =>
      obtain ⟨-, rfl⟩ := Prod.mk.inj (Option.some.inj answered)
      exact newest_finish newest
    | _ => cases answered
  | peekPendingOAuthSignIn provider consume =>
    cases choice with
    | clock now =>
      obtain ⟨-, rfl⟩ := Prod.mk.inj (Option.some.inj answered)
      exact iff_of_true (newest_peek newest) trivial
    | _ => cases answered
  | saveInitial provider accountKey consumed =>
    cases choice with
    | proceeds =>
      obtain ⟨-, rfl⟩ := Prod.mk.inj (Option.some.inj answered)
      exact iff_of_true (newest_saveInitial newest) trivial
    | fails =>
      cases answered
      exact iff_of_true newest trivial
    | _ => cases answered
  | save accountKey =>
    cases choice <;> cases answered
    · exact iff_of_true ⟨newest.pending, newest.status⟩ trivial
    · exact iff_of_true newest trivial
  | _ => cases choice <;> cases answered <;> exact iff_of_true newest trivial

theorem start_sound : Sound start :=
  ⟨fun _ => Nat.zero_le _, fun _ _ => rfl, fun _ member => (nomatch member)⟩

theorem start_newest : Newest start.1 := ⟨fun _ found => (nomatch found), rfl⟩

theorem attachedOnce (sound : Sound s) : AttachedOnce s := by
  rw [AttachedOnce, List.nodup_iff_count]
  intro signIn
  have once := sound.once signIn
  have same : (s.1.vault.map (·.signIn)).count signIn = s.1.vault.countP (·.signIn = signIn) := by
    rw [List.count_eq_countP, List.countP_map]
    rfl
  rw [same]
  unfold places at once
  omega

abbrev Reaches (host : Host) (events : List (Event Request Choice)) (after : World Op Reply SignInError (State × Log)) : Prop :=
  World.run (observed host) (Request.program host) ⟨start, []⟩ events = some after

/-- However calls and sign-ins overlap, a sign-in is saved for one account at most. If every call takes the sign-in
that it looked at before its test, what is saved is what was tested. What is pending and shown is of the sign-in
that was started last exactly if no exchange ends after a later sign-in was started. -/
theorem signIns_kept (host : Host) {events : List (Event Request Choice)} {after : World Op Reply SignInError (State × Log)}
    (ran : Reaches host events after) :
    AttachedOnce after.state ∧
      (World.Admitted (observed host) takesTested (Request.program host) ⟨start, []⟩ events → SavedTested after.state) ∧
      ((∀ earlier, earlier <+: events → ∀ between, Reaches host earlier between → Newest between.state.1) ↔
        World.Admitted (observed host) newestEnds (Request.program host) ⟨start, []⟩ events) := by
  have kept : after.Kept (observed host) contract :=
    run_kept contract_lawful (fun _ request _ _ _ _ => request_meets request) (idle_kept start_sound fun _ => trivial)
      (World.admitted_of_always (fun _ _ => trivial) (fun _ _ _ _ => trivial) _ events) ran
  have sound : Sound after.state := kept.inv
  refine ⟨attachedOnce sound, fun admitted saved member => ?_, ?_⟩
  · have none : after.state.2.swapped = [] :=
      run_preserves (P := fun s => s.2.swapped = []) (fun _ _ _ _ _ _ => swapped_answer) rfl admitted ran
    refine (sound.saved saved member).resolve_right ?_
    rw [none]
    exact List.not_mem_nil
  · exact run_preserves_iff (P := fun s => Newest s.1) (fun _ _ => trivial) (fun _ _ _ _ _ _ => newest_answer) start_newest ran

def windows : Host := ⟨true, fun _ => true⟩

/-- The token endpoint grants these for an hour. -/
def grants (accessToken : JsString) : Choice :=
  .answered (.object true 200 ⟨some (.string accessToken), some (.string [114]), some (.number (.finite 3600)), some (.string [115]),
    none, none⟩) none 0

/-- Two accounts, each with a sign-in of its own. The second sign-in is completed when the first account has taken the
one before it, and the second account is tested while the first is saved. -/
def twoSignIns : List (Event Request Choice) :=
  [.start (.completeOAuthSignIn .microsoft), .act 0 .proceeds, .act 0 (grants [97]), .start (.addOAuthAccount .microsoft),
    .act 1 (.draws [49]), .act 1 (.clock 0), .act 1 .proceeds, .act 1 (.clock 0),
    .start (.completeOAuthSignIn .microsoft), .act 2 .proceeds, .act 2 (grants [98]), .start (.addOAuthAccount .microsoft),
    .act 3 (.draws [50]), .act 3 (.clock 0), .act 1 .proceeds, .act 3 .proceeds, .act 1 .proceeds, .act 3 (.clock 0),
    .act 3 .proceeds, .act 3 .proceeds]

theorem twoSignIns_kept : ∃ after, Reaches windows twoSignIns after ∧ after.state.1.vault.length = 2 ∧
    (AttachedOnce after.state ∧
      (World.Admitted (observed windows) takesTested (Request.program windows) ⟨start, []⟩ twoSignIns →
        SavedTested after.state) ∧
      ((∀ earlier, earlier <+: twoSignIns → ∀ between, Reaches windows earlier between → Newest between.state.1) ↔
        World.Admitted (observed windows) newestEnds (Request.program windows) ⟨start, []⟩ twoSignIns)) := by
  have two : (World.run (observed windows) (Request.program windows) ⟨start, []⟩ twoSignIns).map
      (fun after => after.state.1.vault.length) = some 2 := by decide
  obtain ⟨after, ran, saved⟩ := Option.map_eq_some_iff.1 two
  exact ⟨after, ran, saved, signIns_kept windows ran⟩

/-- A second sign-in is completed while the account is tested with the first. -/
def signedInAgain : List (Event Request Choice) :=
  [.start (.completeOAuthSignIn .microsoft), .act 0 .proceeds, .act 0 (grants [97]), .start (.addOAuthAccount .microsoft),
    .act 1 (.draws [49]), .act 1 (.clock 0), .start (.completeOAuthSignIn .microsoft), .act 2 .proceeds, .act 2 (grants [98]),
    .act 1 .proceeds, .act 1 (.clock 0), .act 1 .proceeds, .act 1 .proceeds]

/-- The first exchange takes longer than the second. -/
def slowExchange : List (Event Request Choice) :=
  [.start (.completeOAuthSignIn .microsoft), .act 0 .proceeds, .start (.completeOAuthSignIn .google), .act 1 .proceeds,
    .act 1 (grants [98]), .act 0 (grants [97])]

instance (s : State × Log) : Decidable (SavedTested s) := List.decidableBAll _ _

theorem overlapping_signIns :
    (∃ after, Reaches windows signedInAgain after ∧ ¬ SavedTested after.state) ∧
      ∃ after, Reaches windows slowExchange after ∧ ¬ Newest after.state.1 := by
  constructor
  · have untested : (World.run (observed windows) (Request.program windows) ⟨start, []⟩ signedInAgain).map
        (fun after => decide (SavedTested after.state)) = some false := by decide
    obtain ⟨after, ran, lost⟩ := Option.map_eq_some_iff.1 untested
    exact ⟨after, ran, of_decide_eq_false lost⟩
  · have overtaken : (World.run (observed windows) (Request.program windows) ⟨start, []⟩ slowExchange).map
        (fun after => (after.state.1.status.map (·.signIn + 1), after.state.1.count)) = some (some 1, 2) := by decide
    obtain ⟨after, ran, shown⟩ := Option.map_eq_some_iff.1 overtaken
    obtain ⟨isFirst, isTwo⟩ := Prod.mk.inj shown
    refine ⟨after, ran, fun newest => ?_⟩
    have isNewest := newest.status
    rw [isFirst, isTwo] at isNewest
    cases isNewest

end Runs

end OAuth.SignIn
