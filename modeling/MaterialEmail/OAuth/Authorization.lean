import MaterialEmail.Library.Fallible
import MaterialEmail.Library.Keyed
import MaterialEmail.Library.Utf8
import MaterialEmail.OAuth.TokenVault

/-! Signing in through the browser: one session at a time, ended by the redirect URL that the user pastes, by
cancelling, by time or by a failure. Openings of the browser settle later, perhaps after their session. -/
namespace OAuth.Authorization

open JsString Utf8

def pastedRedirectUrlLimit : Nat := 8192
def authorizationCodeLimit : Nat := 8192
def maxInvalidRedirectPastes : Nat := 8

inductive Phase where
  | idle
  | preparing
  | openingBrowser
  | awaitingRedirectPaste
  | authorizationReceived
  | cancelled
  | timedOut
  | error
  deriving DecidableEq, Repr

inductive Failure where
  | providerNotConfigured
  | browserOpenFailed
  | providerDenied
  | providerError
  | redirectInvalid
  deriving DecidableEq, Repr

def allowedTransitions : Phase → List Phase
  | .idle => [.preparing, .error]
  | .preparing => [.openingBrowser, .cancelled, .timedOut, .error]
  | .openingBrowser => [.awaitingRedirectPaste, .authorizationReceived, .cancelled, .timedOut, .error]
  | .awaitingRedirectPaste => [.authorizationReceived, .cancelled, .timedOut, .error]
  | .authorizationReceived => [.preparing, .error]
  | .cancelled => [.preparing, .error]
  | .timedOut => [.preparing, .error]
  | .error => [.preparing, .error]

/-- What is looked at of a URL that has been parsed. -/
structure Url where
  origin : JsString
  pathname : JsString
  /-- Names and values, decoded. -/
  searchParams : List (JsString × JsString)

def Url.getAll (url : Url) (name : String) : List JsString :=
  (url.searchParams.filter fun pair => pair.1 = ofString name).map (·.2)

/-- `new URL`, which may throw, and SHA-256 of a text in base64url. -/
structure Host where
  parseUrl : JsString → Option Url
  sha256Base64Url : JsString → JsString

section Redirect

inductive RejectionReason where
  | tooLong
  | unparseable
  | wrongRedirect
  | state
  | unexpectedToken
  | ambiguousResult
  | missingResult
  deriving DecidableEq, Repr

inductive PastedRedirectValidation where
  | authorization (code : JsString)
  | providerError (error : JsString)
  | rejected (reason : RejectionReason)
  deriving DecidableEq

def safeTextEqual (left right : JsString) : Bool := utf8Bytes left = utf8Bytes right

/-- The one code or the one error that a URL with the right state carries. -/
def readResult (pasted : Url) : PastedRedirectValidation :=
  match pasted.getAll "code", pasted.getAll "error" with
  | [], [] => .rejected .missingResult
  | [], [error] =>
    if error = [] ∨ 128 < error.length ∨ hasControlCharacters error then .rejected .ambiguousResult
    else .providerError error
  | [code], [] =>
    if code = [] ∨ authorizationCodeLimit < code.length ∨ hasControlCharacters code then .rejected .ambiguousResult
    else .authorization code
  | _, _ => .rejected .ambiguousResult

def validatePastedRedirect (host : Host) (pastedUrl redirectUri state : JsString) : PastedRedirectValidation :=
  if pastedUrl = [] ∨ pastedRedirectUrlLimit < pastedUrl.length then .rejected .tooLong
  else
    match host.parseUrl pastedUrl.trim, host.parseUrl redirectUri with
    | some pasted, some expected =>
      if pasted.origin ≠ expected.origin ∨ pasted.pathname ≠ expected.pathname then .rejected .wrongRedirect
      else
        match pasted.getAll "state" with
        | [only] =>
          if 256 < only.length ∨ !safeTextEqual only state then .rejected .state
          else if ["access_token", "refresh_token", "id_token"].any fun parameter => pasted.getAll parameter ≠ [] then
            .rejected .unexpectedToken
          else readResult pasted
        | _ => .rejected .state
    | _, _ => .rejected .unparseable

end Redirect

structure ProviderConfiguration where
  provider : Provider
  authorizationEndpoint : JsString
  clientId : JsString
  scopes : List JsString
  redirectUri : JsString
  deriving DecidableEq

structure AuthorizationCodeGrant where
  provider : Provider
  code : JsString
  codeVerifier : JsString
  redirectUri : JsString
  deriving DecidableEq

structure Options where
  configurations : List ProviderConfiguration
  timeoutMs : Nat
  /-- Whether `onAuthorizationCode` is given. -/
  hasCallback : Bool

/-- `session` tells the sessions of a service apart, as the identity of the object does. -/
structure ActiveAuthorization where
  session : Nat
  provider : Provider
  redirectUri : JsString
  stateBytes : List UInt8
  verifierBytes : List UInt8
  invalidPastes : Nat
  deriving DecidableEq

structure Snapshot where
  phase : Phase
  provider : Option Provider
  expiresAt : Option Nat
  failure : Option Failure
  deriving DecidableEq

/-- A call of `openExternal` that has not settled. -/
structure Launch where
  session : Nat
  provider : Provider
  expiresAtMs : Nat
  /-- What is set on the authorization endpoint. -/
  parameters : List (String × JsString)
  deriving DecidableEq

/-- Beside the fields of the service stand the number of sessions that were started, what was given to
`onAuthorizationCode` in which session, and the session of each rejected paste. -/
structure Service where
  active : Option ActiveAuthorization
  snapshot : Snapshot
  launches : List Launch
  started : Nat
  received : List (Nat × AuthorizationCodeGrant)
  rejected : List Nat
  deriving DecidableEq

def Service.initial : Service := ⟨none, ⟨.idle, none, none, none⟩, [], 0, [], []⟩

/-- "Invalid OAuth authorization state transition." -/
structure InvalidTransition where
  source : Phase
  target : Phase

section Operations

def transition (s : Service) (phase : Phase) (provider : Option Provider) (expiresAt : Option Nat)
    (failure : Option Failure) : Except InvalidTransition Service :=
  if phase ∈ allowedTransitions s.snapshot.phase then .ok { s with snapshot := ⟨phase, provider, expiresAt, failure⟩ }
  else .error ⟨s.snapshot.phase, phase⟩

/-- `this.#active === session`. -/
def Service.isActive (s : Service) (session : Nat) : Bool := s.active.any (·.session = session)

def terminate (s : Service) (session : Nat) (phase : Phase) (failure : Option Failure) :
    Except InvalidTransition Service :=
  match s.active with
  | none => .ok s
  | some active =>
    if active.session ≠ session then .ok s
    else transition { s with active := none } phase (some active.provider) none failure

def joinWith (separator : JsString) : List JsString → JsString
  | [] => []
  | [part] => part
  | part :: parts => part ++ separator ++ joinWith separator parts

variable (host : Host) (options : Options)

def authorizationParameters (configuration : ProviderConfiguration) (stateBytes verifierBytes : List UInt8) :
    List (String × JsString) :=
  [("client_id", configuration.clientId), ("redirect_uri", configuration.redirectUri),
    ("response_type", ofString "code"), ("scope", joinWith [32] configuration.scopes),
    ("state", base64Url stateBytes), ("code_challenge", host.sha256Base64Url (base64Url verifierBytes)),
    ("code_challenge_method", ofString "S256")]

/-- `start`, up to where it waits for the browser. -/
def start (s : Service) (provider : Provider) (stateBytes verifierBytes : List UInt8) (now : Nat) :
    Except InvalidTransition Service :=
  if s.active.isSome then .ok s
  else
    match options.configurations.find? fun configuration => configuration.provider = provider with
    | none => transition s .error (some provider) none (some .providerNotConfigured)
    | some configuration => do
      let s ← transition s .preparing (some provider) none none
      let expiresAtMs := now + options.timeoutMs
      let session : ActiveAuthorization := ⟨s.started, provider, configuration.redirectUri, stateBytes, verifierBytes, 0⟩
      let s := { s with active := some session, started := s.started + 1 }
      let s ← transition s .openingBrowser (some provider) (some expiresAtMs) none
      let launch : Launch :=
        ⟨session.session, provider, expiresAtMs, authorizationParameters host configuration stateBytes verifierBytes⟩
      return { s with launches := s.launches ++ [launch] }

/-- The rest of `start`, when its browser has opened or has failed to. -/
def settle (s : Service) (index : Nat) (opened : Bool) : Except InvalidTransition Service :=
  match s.launches[index]? with
  | none => .ok s
  | some launch =>
    let s := { s with launches := s.launches.eraseIdx index }
    if !opened then terminate s launch.session .error (some .browserOpenFailed)
    else if s.isActive launch.session && s.snapshot.phase = .openingBrowser then
      transition s .awaitingRedirectPaste (some launch.provider) (some launch.expiresAtMs) none
    else .ok s

def submitRedirectUrl (s : Service) (pastedUrl : JsString) : Except InvalidTransition Service :=
  match s.active with
  | none => .ok s
  | some session =>
    if s.snapshot.phase ≠ .awaitingRedirectPaste then .ok s
    else
      match validatePastedRedirect host pastedUrl session.redirectUri (base64Url session.stateBytes) with
      | .rejected _ =>
        let session := { session with invalidPastes := session.invalidPastes + 1 }
        let s := { s with active := some session, rejected := s.rejected ++ [session.session] }
        if maxInvalidRedirectPastes ≤ session.invalidPastes then
          terminate s session.session .error (some .redirectInvalid)
        else .ok s
      | .providerError error =>
        terminate s session.session .error
          (some (if error = ofString "access_denied" then .providerDenied else .providerError))
      | .authorization code =>
        let grant : AuthorizationCodeGrant :=
          ⟨session.provider, code, base64Url session.verifierBytes, session.redirectUri⟩
        let s := if options.hasCallback then { s with received := s.received ++ [(session.session, grant)] } else s
        terminate s session.session .authorizationReceived none

/-- `cancel` and `dispose`. -/
def cancel (s : Service) : Except InvalidTransition Service :=
  match s.active with
  | none => .ok s
  | some session => terminate s session.session .cancelled none

inductive Event where
  | start (provider : Provider) (stateBytes verifierBytes : List UInt8) (now : Nat)
  /-- A call of `openExternal` resolves or rejects. -/
  | settle (launch : Nat) (opened : Bool)
  | submit (pastedUrl : JsString)
  | cancel
  | dispose
  /-- The timer of a session fires. -/
  | timeout (session : Nat)

def step (s : Service) : Event → Except InvalidTransition Service
  | .start provider stateBytes verifierBytes now => start host options s provider stateBytes verifierBytes now
  | .settle index opened => settle s index opened
  | .submit pastedUrl => submitRedirectUrl host options s pastedUrl
  | .cancel => cancel s
  | .dispose => cancel s
  | .timeout session => terminate s session .timedOut none

def run (s : Service) (events : List Event) : Except InvalidTransition Service := events.foldlM (step host options) s

end Operations

section Invariant

/-- The phases in which a session is under way. -/
def Phase.isOpen (phase : Phase) : Bool := phase = .openingBrowser || phase = .awaitingRedirectPaste

/-- What holds of the session that is active. -/
structure Ongoing (options : Options) (s : Service) (session : ActiveAuthorization) : Prop where
  registered : ∃ configuration ∈ options.configurations,
    configuration.provider = session.provider ∧ configuration.redirectUri = session.redirectUri
  known : session.session < s.started
  unused : session.session ∉ s.received.map (·.1)
  counted : s.rejected.count session.session = session.invalidPastes
  bounded : session.invalidPastes < maxInvalidRedirectPastes

structure Invariant (options : Options) (s : Service) : Prop where
  phase : s.active.isSome = s.snapshot.phase.isOpen
  closed : s.snapshot.phase ≠ .preparing
  ongoing : ∀ session ∈ s.active, Ongoing options s session
  distinct : (s.received.map (·.1)).Nodup
  receivedKnown : ∀ session ∈ s.received.map (·.1), session < s.started
  rejectedKnown : ∀ session ∈ s.rejected, session < s.started

variable {host : Host} {options : Options} {s : Service}

theorem ends_allowed {phase target : Phase} (isOpen : phase.isOpen = true)
    (ends : target = .authorizationReceived ∨ target = .cancelled ∨ target = .timedOut ∨ target = .error) :
    target ∈ allowedTransitions phase := by
  rcases ends with rfl | rfl | rfl | rfl <;> cases phase <;> revert isOpen <;> decide

/-- Without a session one may begin, or an attempt to begin one may fail. -/
theorem begins_allowed {phase : Phase} (isClosed : phase.isOpen = false) (closed : phase ≠ .preparing) :
    .preparing ∈ allowedTransitions phase ∧ .error ∈ allowedTransitions phase := by
  cases phase <;> revert isClosed closed <;> decide

theorem transition_ok {phase : Phase} (allowed : phase ∈ allowedTransitions s.snapshot.phase)
    (provider : Option Provider) (expiresAt : Option Nat) (failure : Option Failure) :
    transition s phase provider expiresAt failure = .ok { s with snapshot := ⟨phase, provider, expiresAt, failure⟩ } :=
  if_pos allowed

theorem Invariant.ended (inv : Invariant options s) {snapshot : Snapshot} (isClosed : snapshot.phase.isOpen = false)
    (closed : snapshot.phase ≠ .preparing) : Invariant options { s with active := none, snapshot := snapshot } where
  phase := isClosed.symm
  closed := closed
  ongoing := by simp
  distinct := inv.distinct
  receivedKnown := inv.receivedKnown
  rejectedKnown := inv.rejectedKnown

/-- A session ends once; later attempts to end it change nothing. -/
theorem terminate_spec (isOpen : s.active.isSome = s.snapshot.phase.isOpen) (session : Nat) {phase : Phase}
    (ends : phase = .authorizationReceived ∨ phase = .cancelled ∨ phase = .timedOut ∨ phase = .error)
    (failure : Option Failure) :
    terminate s session phase failure = .ok s ∧ s.isActive session = false ∨
      ∃ active, s.active = some active ∧ active.session = session ∧ terminate s session phase failure =
        .ok { s with active := none, snapshot := ⟨phase, some active.provider, none, failure⟩ } := by
  unfold terminate
  cases isActive : s.active with
  | none => exact Or.inl ⟨rfl, by simp [Service.isActive, isActive]⟩
  | some active =>
    by_cases same : active.session = session
    · have underWay : s.snapshot.phase.isOpen = true := by rw [← isOpen, isActive]; rfl
      refine Or.inr ⟨active, rfl, same, ?_⟩
      simp only [same, ne_eq, not_true_eq_false, if_false]
      exact @transition_ok { s with active := none } _ (ends_allowed underWay ends) _ _ _
    · exact Or.inl ⟨by simp [same], by simp [Service.isActive, isActive, same]⟩

theorem ending_closed {phase : Phase}
    (ends : phase = .authorizationReceived ∨ phase = .cancelled ∨ phase = .timedOut ∨ phase = .error) :
    phase.isOpen = false ∧ phase ≠ .preparing := by
  rcases ends with rfl | rfl | rfl | rfl <;> decide

theorem terminate_invariant (inv : Invariant options s) (session : Nat) {phase : Phase}
    (ends : phase = .authorizationReceived ∨ phase = .cancelled ∨ phase = .timedOut ∨ phase = .error)
    (failure : Option Failure) : ∃ s', terminate s session phase failure = .ok s' ∧ Invariant options s' := by
  rcases terminate_spec inv.phase session ends failure with ⟨same, -⟩ | ⟨active, -, -, ended⟩
  · exact ⟨s, same, inv⟩
  · exact ⟨_, ended, inv.ended (ending_closed ends).1 (ending_closed ends).2⟩

theorem cancel_invariant (inv : Invariant options s) : ∃ s', cancel s = .ok s' ∧ Invariant options s' := by
  unfold cancel
  cases s.active with
  | none => exact ⟨s, rfl, inv⟩
  | some session => exact terminate_invariant inv session.session (Or.inr (Or.inl rfl)) none

theorem start_invariant (inv : Invariant options s) (provider : Provider) (stateBytes verifierBytes : List UInt8)
    (now : Nat) : ∃ s', start host options s provider stateBytes verifierBytes now = .ok s' ∧ Invariant options s' := by
  unfold start
  cases isActive : s.active with
  | some session => exact ⟨s, rfl, inv⟩
  | none =>
    have isClosed : s.snapshot.phase.isOpen = false := by rw [← inv.phase, isActive]; rfl
    obtain ⟨prepares, fails⟩ := begins_allowed isClosed inv.closed
    cases configured : options.configurations.find? fun configuration => configuration.provider = provider with
    | none =>
      refine ⟨_, transition_ok fails _ _ _, ?_⟩
      have ended : Invariant options { s with active := none, snapshot := ⟨.error, some provider, none, some .providerNotConfigured⟩ } :=
        inv.ended rfl (by simp)
      rwa [← isActive] at ended
    | some configuration =>
      have opens : Phase.openingBrowser ∈ allowedTransitions .preparing := by decide
      simp only [Option.isSome_none, Bool.false_eq_true, if_false, transition, prepares, opens, if_true, bind,
        Except.bind, pure, Except.pure]
      refine ⟨_, rfl, ?_⟩
      have fresh : s.started ∉ s.received.map (·.1) := fun before => (inv.receivedKnown _ before).ne rfl
      have uncounted : s.rejected.count s.started = 0 :=
        List.count_eq_zero.2 fun before => (inv.rejectedKnown _ before).ne rfl
      constructor
      case phase => rfl
      case closed => simp
      case ongoing =>
        intro session new
        obtain rfl := Option.mem_some_iff.1 new
        have isFor : configuration.provider = provider := by simpa using List.find?_some configured
        exact ⟨⟨configuration, List.mem_of_find?_eq_some configured, isFor, rfl⟩, Nat.lt_succ_self _, fresh, uncounted,
          show 0 < maxInvalidRedirectPastes by decide⟩
      case distinct => exact inv.distinct
      case receivedKnown => exact fun session before => (inv.receivedKnown session before).trans (Nat.lt_succ_self _)
      case rejectedKnown => exact fun session before => (inv.rejectedKnown session before).trans (Nat.lt_succ_self _)

/-- Which calls of `openExternal` are under way does not matter to the invariant. -/
theorem Invariant.relaunched (inv : Invariant options s) (launches : List Launch) :
    Invariant options { s with launches := launches } where
  phase := inv.phase
  closed := inv.closed
  ongoing := fun session isActive =>
    let ongoing := inv.ongoing session isActive
    ⟨ongoing.registered, ongoing.known, ongoing.unused, ongoing.counted, ongoing.bounded⟩
  distinct := inv.distinct
  receivedKnown := inv.receivedKnown
  rejectedKnown := inv.rejectedKnown

theorem settle_invariant (inv : Invariant options s) (index : Nat) (opened : Bool) :
    ∃ s', settle s index opened = .ok s' ∧ Invariant options s' := by
  unfold settle
  cases s.launches[index]? with
  | none => exact ⟨s, rfl, inv⟩
  | some launch =>
    have left := inv.relaunched (s.launches.eraseIdx index)
    cases opened with
    | false => exact terminate_invariant left launch.session (Or.inr (Or.inr (Or.inr rfl))) _
    | true =>
      simp only [Bool.not_true, Bool.false_eq_true, if_false]
      split
      · rename_i waiting
        rw [Bool.and_eq_true, decide_eq_true_eq] at waiting
        have allowed : Phase.awaitingRedirectPaste ∈ allowedTransitions s.snapshot.phase := by
          rw [waiting.2]
          decide
        refine ⟨_, @transition_ok { s with launches := s.launches.eraseIdx index } _ allowed _ _ _, ?_⟩
        constructor
        case phase =>
          have before := inv.phase
          rw [waiting.2] at before
          exact before
        case closed => simp
        case ongoing =>
          intro session isActive
          have ongoing := inv.ongoing session isActive
          exact ⟨ongoing.registered, ongoing.known, ongoing.unused, ongoing.counted, ongoing.bounded⟩
        case distinct => exact inv.distinct
        case receivedKnown => exact inv.receivedKnown
        case rejectedKnown => exact inv.rejectedKnown
      · exact ⟨_, rfl, left⟩

/-- A paste that is rejected counts against its session, until the session ends. -/
theorem rejected_invariant (inv : Invariant options s) {session : ActiveAuthorization} (isActive : s.active = some session)
    (few : session.invalidPastes + 1 < maxInvalidRedirectPastes) :
    Invariant options { s with
      active := some { session with invalidPastes := session.invalidPastes + 1 }
      rejected := s.rejected ++ [session.session] } := by
  have ongoing := inv.ongoing session isActive
  constructor
  case phase =>
    have before := inv.phase
    rw [isActive] at before
    exact before
  case closed => exact inv.closed
  case ongoing =>
    intro session' same
    obtain rfl := Option.mem_some_iff.1 same
    refine ⟨ongoing.registered, ongoing.known, ongoing.unused, ?_, few⟩
    simp [ongoing.counted]
  case distinct => exact inv.distinct
  case receivedKnown => exact inv.receivedKnown
  case rejectedKnown =>
    intro other member
    rcases List.mem_append.1 member with before | last
    · exact inv.rejectedKnown other before
    · rw [List.mem_singleton.1 last]
      exact ongoing.known

/-- What a session that ends leaves behind keeps the invariant. -/
theorem left_invariant {received : List (Nat × AuthorizationCodeGrant)} {rejected : List Nat}
    {snapshot : Snapshot} (ended : snapshot.phase.isOpen = false ∧ snapshot.phase ≠ .preparing)
    (distinct : (received.map (·.1)).Nodup) (receivedKnown : ∀ session ∈ received.map (·.1), session < s.started)
    (rejectedKnown : ∀ session ∈ rejected, session < s.started) :
    Invariant options { s with active := none, snapshot := snapshot, received := received, rejected := rejected } where
  phase := ended.1.symm
  closed := ended.2
  ongoing := by simp
  distinct := distinct
  receivedKnown := receivedKnown
  rejectedKnown := rejectedKnown

theorem terminate_active {session : ActiveAuthorization} (isActive : s.active = some session)
    (isOpen : s.snapshot.phase.isOpen = true) {phase : Phase}
    (ends : phase = .authorizationReceived ∨ phase = .cancelled ∨ phase = .timedOut ∨ phase = .error)
    (failure : Option Failure) : terminate s session.session phase failure =
      .ok { s with active := none, snapshot := ⟨phase, some session.provider, none, failure⟩ } := by
  rcases terminate_spec (by rw [isActive, isOpen]; rfl) session.session ends failure with ⟨-, idle⟩ | ⟨active, found, -, ended⟩
  · simp [Service.isActive, isActive] at idle
  · obtain rfl : session = active := Option.some.inj (isActive.symm.trans found)
    exact ended

theorem submit_invariant (inv : Invariant options s) (pastedUrl : JsString) :
    ∃ s', submitRedirectUrl host options s pastedUrl = .ok s' ∧ Invariant options s' := by
  unfold submitRedirectUrl
  cases isActive : s.active with
  | none => exact ⟨s, rfl, inv⟩
  | some session =>
    have ongoing := inv.ongoing session isActive
    have isOpen : s.snapshot.phase.isOpen = true := by rw [← inv.phase, isActive]; rfl
    dsimp only
    split
    · exact ⟨s, rfl, inv⟩
    · split
      · split
        · rename_i many
          have ends : Phase.error = .authorizationReceived ∨ Phase.error = .cancelled ∨ Phase.error = .timedOut ∨
            Phase.error = .error := by decide
          let counted := { session with invalidPastes := session.invalidPastes + 1 }
          let after := { s with active := some counted, rejected := s.rejected ++ [session.session] }
          refine ⟨_, @terminate_active after counted rfl isOpen _ ends _, ?_⟩
          refine @left_invariant _ s _ _ _ (ending_closed ends) inv.distinct inv.receivedKnown fun other member => ?_
          rcases List.mem_append.1 member with before | last
          · exact inv.rejectedKnown other before
          · rw [List.mem_singleton.1 last]
            exact ongoing.known
        · rename_i few
          exact ⟨_, rfl, rejected_invariant inv isActive (Nat.not_le.1 few)⟩
      · exact terminate_invariant inv session.session (Or.inr (Or.inr (Or.inr rfl))) _
      · split
        · refine ⟨_, @terminate_active { s with active := some session, received := s.received ++ _ } _ rfl isOpen _
            (Or.inl rfl) none, ?_⟩
          refine @left_invariant _ s _ _ _ (ending_closed (Or.inl rfl)) (Keyed.nodup_append inv.distinct ongoing.unused) ?_
            inv.rejectedKnown
          intro other member
          rw [List.map_append] at member
          rcases List.mem_append.1 member with before | last
          · exact inv.receivedKnown other before
          · rw [List.mem_singleton.1 last]
            exact ongoing.known
        · exact terminate_invariant inv session.session (Or.inl rfl) none

theorem step_invariant (inv : Invariant options s) (event : Event) :
    ∃ s', step host options s event = .ok s' ∧ Invariant options s' := by
  cases event with
  | start provider stateBytes verifierBytes now => exact start_invariant inv provider stateBytes verifierBytes now
  | settle index opened => exact settle_invariant inv index opened
  | submit pastedUrl => exact submit_invariant inv pastedUrl
  | cancel => exact cancel_invariant inv
  | dispose => exact cancel_invariant inv
  | timeout session => exact terminate_invariant inv session (Or.inr (Or.inr (Or.inl rfl))) none

theorem run_invariant (inv : Invariant options s) (events : List Event) :
    ∃ s', run host options s events = .ok s' ∧ Invariant options s' := by
  induction events generalizing s with
  | nil => exact ⟨s, rfl, inv⟩
  | cons event events ih =>
    obtain ⟨between, first, kept⟩ : ∃ s', step host options s event = .ok s' ∧ Invariant options s' := step_invariant inv event
    obtain ⟨after, rest, last⟩ := ih kept
    refine ⟨after, ?_, last⟩
    unfold run at rest ⊢
    rw [List.foldlM_cons, first]
    exact rest

end Invariant

section Grants

variable {host : Host} {options : Options} {s s' : Service}

end Grants

/-- The first browser fails to open when the second session is under way. -/
example : (run ⟨fun _ => none, id⟩ ⟨[⟨.google, [], [], [], []⟩], 10, true⟩ .initial
    [.start .google [] [] 0, .cancel, .start .google [] [] 1, .settle 0 false]).toOption.map (·.snapshot.phase) =
      some .openingBrowser := rfl

end OAuth.Authorization
