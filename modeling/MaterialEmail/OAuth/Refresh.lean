import MaterialEmail.Library.Interleaving
import MaterialEmail.OAuth.TokenExchange

/-! Access tokens for mail operations that overlap. Reading the vault, refreshing and rotating are
three steps with nothing that keeps the operations on one account apart. -/
namespace OAuth

open Interrupted Interleaved

abbrev Key := Provider × String

def TokenRecord.key (record : TokenRecord) : Key := (record.provider, record.accountKey)

def lookUp (records : List TokenRecord) (key : Key) : Option TokenRecord :=
  records.find? fun record => record.key = key

/-- The assignments of `rotate`. -/
def TokenRecord.rotate (record : TokenRecord) (rotated : ValidMaterial (Option JsString)) (now : Nat) :
    TokenRecord :=
  { record with
    accessToken := rotated.accessToken
    refreshToken := rotated.refreshToken.getD record.refreshToken
    expiresAt := now + rotated.expiresInSeconds * 1000
    scopes := rotated.scopes
    generation := record.generation + 1 }

def rotateFirst (key : Key) (rotated : ValidMaterial (Option JsString)) (now : Nat) :
    List TokenRecord → List TokenRecord
  | [] => []
  | record :: records =>
    if record.key = key then record.rotate rotated now :: records
    else record :: rotateFirst key rotated now records

/-- `rotate`, once its turn in the queue has come. -/
def rotate (records : List TokenRecord) (key : Key) (rotation : OAuthTokenRotation) (now : Nat) :
    Except VaultError (List TokenRecord) := do
  let rotated ← validateRotation rotation
  if (lookUp records key).isNone then .error .recordNotFound
  else return rotateFirst key rotated now records

/-- `OAUTH_REFRESH_MARGIN_MS`. -/
def refreshMargin : Nat := 2 * 60000

def expiring (record : TokenRecord) (now : Nat) : Bool := record.expiresAt ≤ now + refreshMargin

/-- The vault and what the endpoint has seen. `sent` are the refresh tokens that reached it, `issued`
those it returned, the newest first; `refreshing` are the tasks that have found their account's
token expiring and have not ended. -/
structure State where
  records : List TokenRecord
  sent : List (Key × JsString)
  issued : List (Key × JsString)
  refreshing : List (Key × Nat)
  deriving DecidableEq

inductive Op where
  | read (key : Key)
  | post (key : Key) (refreshToken : JsString) (scopes : List JsString)
  | rotate (key : Key) (rotation : OAuthTokenRotation)
  deriving DecidableEq

abbrev Reply : Op → Type
  | .read _ => Except VaultError (Option TokenRecord) × Nat
  | .post _ _ _ => Answer
  | .rotate _ _ => Except VaultError Unit

/-- What the clock shows, whether the vault's file can be used, whether a request gets through and
how the endpoint answers it. -/
inductive Choice where
  | at (now : Nat)
  | storageFails
  | lost (timedOut : Bool)
  | answered (answer : Answer)
  deriving DecidableEq

def State.ended (s : State) (key : Key) (task : Nat) : State :=
  { s with refreshing := s.refreshing.filter (· ≠ (key, task)) }

/-- The refresh token of a successful answer. -/
def Answer.issues (answer : Answer) : Option JsString :=
  match refreshAccessToken answer with
  | .ok result => result.refreshToken
  | .error _ => none

def State.posted (s : State) (key : Key) (task : Nat) (token : JsString) (answer : Answer) : State :=
  let s := { s with
    sent := (key, token) :: s.sent
    issued := (answer.issues.map fun token => (key, token)).toList ++ s.issued }
  if (refreshAccessToken answer).isOk then s else s.ended key task

def environment (registered : Provider → Bool) : Environment Op Reply Choice State where
  answer task op choice s :=
    match op, choice with
    | .read key, .at now =>
      let record := lookUp s.records key
      let begins := registered key.1 && (record.map fun record => expiring record now).getD false
      some ((.ok record, now), if begins then { s with refreshing := (key, task) :: s.refreshing } else s)
    | .read _, .storageFails => some ((.error .storageFailed, 0), s)
    | .post key _ _, .lost timedOut => some (.unreachable timedOut, s.ended key task)
    | .post key token _, .answered answer => some (answer, s.posted key task token answer)
    | .rotate key rotation, .at now =>
      match OAuth.rotate s.records key rotation now with
      | .ok records => some (.ok (), { s with records := records }.ended key task)
      | .error error => some (.error error, s.ended key task)
    | .rotate key _, .storageFails => some (.error .storageFailed, s.ended key task)
    | _, _ => none

/-- What the operation needs to know of its account. -/
structure Account where
  email : JsString
  provider : Provider
  id : String
  deriving DecidableEq

def Account.key (account : Account) : Key := (account.provider, account.id)

def Provider.id : Provider → String
  | .google => "google"
  | .microsoft => "microsoft"

inductive AccountError where
  | vault (error : VaultError)
  | message (text : Template)
  deriving DecidableEq

def noRecord (account : Account) : AccountError :=
  .message [.inl "Reconnect ", .inr account.email,
    .inl ": its sign-in has expired or was cleared from this computer."]

def noRegistration (account : Account) : AccountError :=
  .message [.inl ("This build no longer has an OAuth registration for " ++ account.provider.id ++
    ". Remove and reconnect "), .inr account.email, .inl "."]

def refreshFailed (account : Account) (error : ExchangeError) : AccountError :=
  .message ([.inl "Reconnect ", .inr account.email, .inl ": refreshing its sign-in failed ("] ++
    error.message ++ [.inl ")."])

abbrev Mail := Program Op Reply AccountError

def vaultRead (key : Key) : Mail (Except VaultError (Option TokenRecord) × Nat) := .call (.read key) .done
def post (key : Key) (refreshToken : JsString) (scopes : List JsString) : Mail Answer :=
  .call (.post key refreshToken scopes) .done
def vaultRotate (key : Key) (rotation : OAuthTokenRotation) : Mail (Except VaultError Unit) :=
  .call (.rotate key rotation) .done

/-- `#runtimeOAuthAccount`, up to the access token. -/
def runtimeOAuthAccount (registered : Provider → Bool) (account : Account) : Mail JsString := do
  let (read, now) ← vaultRead account.key
  match read with
  | .error error => .throw (.vault error)
  | .ok none => .throw (noRecord account)
  | .ok (some record) =>
    if expiring record now then
      if registered account.provider then do
        let answer ← post account.key record.refreshToken record.scopes.1
        match refreshAccessToken answer with
        | .error error => .throw (refreshFailed account error)
        | .ok rotated => do
          let stored ← vaultRotate account.key (rotation record rotated)
          match stored with
          | .error error => .throw (.vault error)
          | .ok () => return rotated.accessToken
      else .throw (noRegistration account)
    else return record.accessToken

/-- A mail operation, as far as its access token is concerned. -/
def mailOperation (registered : Provider → Bool) (account : Account) : Mail Unit := do
  let _ ← runtimeOAuthAccount registered account
  return ()

/-- The newest refresh token that the endpoint has returned for an account. -/
def State.newest (s : State) (key : Key) : Option JsString :=
  (s.issued.find? fun entry => entry.1 = key).map (·.2)

/-- Operations on one account do not overlap once one of them has found its token expiring; the
endpoint answers what reaches it with a refresh token it has not seen before; the vault accepts it
and can store it. -/
def oneAtATime (registered : Provider → Bool) : Conditions Op Account Choice State where
  starts _ _ := True
  allowed _ op choice s :=
    match op, choice with
    | .read key, .at now =>
      registered key.1 = true → (∃ record ∈ lookUp s.records key, expiring record now = true) →
        ∀ entry ∈ s.refreshing, entry.1 ≠ key
    | .post key token _, .answered answer =>
      ∃ issued ∈ answer.issues, (key, issued) ∉ s.sent ∧ issued ≠ token
    | .rotate _ rotation, .at _ => (validateRotation rotation).isOk
    | .rotate _ _, .storageFails => False
    | _, _ => True

instance (registered : Provider → Bool) (request : Account) (s : State) :
    Decidable ((oneAtATime registered).starts request s) := .isTrue trivial

instance (registered : Provider → Bool) (task : Nat) (op : Op) (choice : Choice) (s : State) :
    Decidable ((oneAtATime registered).allowed task op choice s) := by
  unfold oneAtATime
  cases op <;> cases choice <;> infer_instance

section Contract

/-- Nothing has happened to an account. -/
structure Same (key : Key) (s s' : State) : Prop where
  record : lookUp s'.records key = lookUp s.records key
  newest : s'.newest key = s.newest key
  sent : ∀ token, (key, token) ∈ s'.sent ↔ (key, token) ∈ s.sent

theorem Same.refl (key : Key) (s : State) : Same key s s := ⟨rfl, rfl, fun _ => Iff.rfl⟩

theorem Same.trans {key : Key} {s s' s'' : State} (first : Same key s s') (second : Same key s' s'') :
    Same key s s'' :=
  ⟨second.record.trans first.record, second.newest.trans first.newest,
    fun token => (second.sent token).trans (first.sent token)⟩

/-- The vault holds the newest refresh token of an account, and it has not been sent. -/
structure Settled (s : State) (key : Key) : Prop where
  unsent : ∀ record, lookUp s.records key = some record → (key, record.refreshToken) ∉ s.sent
  newest : ∀ token, s.newest key = some token →
    ∃ record, lookUp s.records key = some record ∧ record.refreshToken = token

structure Orderly (s : State) : Prop where
  once : s.sent.Nodup
  single : ∀ key task other, (key, task) ∈ s.refreshing → (key, other) ∈ s.refreshing → task = other
  settled : ∀ key, (∀ task, (key, task) ∉ s.refreshing) → Settled s key

/-- Only a task that refreshes an account's token touches it. -/
def Respects (task : Nat) (s s' : State) : Prop :=
  ∀ key, ((key, task) ∈ s.refreshing ↔ (key, task) ∈ s'.refreshing) ∧
    ((key, task) ∈ s.refreshing → Same key s s')

def contract (registered : Provider → Bool) : Contract Op Account Choice State where
  toConditions := oneAtATime registered
  inv := Orderly
  rely := Respects
  guar task s s' := Orderly s' ∧ ∀ other, other ≠ task → Respects other s s'
  demand _ _ _ := True
  ends task s := ∀ key, (key, task) ∉ s.refreshing

theorem contract_lawful (registered : Provider → Bool) : (contract registered).Lawful := by
  constructor
  · exact fun task s key => ⟨Iff.rfl, fun _ => .refl key s⟩
  · intro task s s' s'' first second key
    refine ⟨(first key).1.trans (second key).1, fun marked => ?_⟩
    exact ((first key).2 marked).trans ((second key).2 ((first key).1.1 marked))
  · exact fun task other s s' different guaranteed => guaranteed.2 task different
  · exact fun task s s' _ guaranteed => guaranteed.1
  · exact fun task s s' relies ended key marked => ended key ((relies key).1.2 marked)

end Contract

section Steps

variable {s s' : State} {key : Key} {task : Nat} {record : TokenRecord}

theorem lookUp_rotateFirst (records : List TokenRecord) (key other : Key)
    (rotated : ValidMaterial (Option JsString)) (now : Nat) :
    lookUp (rotateFirst key rotated now records) other =
      if other = key then (lookUp records key).map (·.rotate rotated now) else lookUp records other := by
  induction records with
  | nil => simp [rotateFirst, lookUp]
  | cons record records ih =>
    unfold rotateFirst
    by_cases here : record.key = key
    · have kept : (record.rotate rotated now).key = key := here
      by_cases same : other = key
      · simp [lookUp, here, kept, same]
      · have different : ¬ key = other := fun eq => same eq.symm
        simp [lookUp, here, kept, same, different]
    · rw [if_neg here]
      by_cases same : other = key
      · subst same
        simpa [lookUp, here] using ih
      · by_cases found : record.key = other
        · simp [lookUp, found, same]
        · simpa [lookUp, found, same] using ih

theorem mem_ended (s : State) (key other : Key) (task task' : Nat) :
    (other, task') ∈ (s.ended key task).refreshing ↔
      (other, task') ∈ s.refreshing ∧ ¬ (other = key ∧ task' = task) := by
  simp only [State.ended, List.mem_filter, ne_eq, Prod.mk.injEq, decide_not, Bool.not_eq_eq_eq_not,
    Bool.not_true, decide_eq_false_iff_not]

/-- A task that has found the token of `key` expiring, and is the only one. -/
structure Refreshing (s : State) (key : Key) (task : Nat) (record : TokenRecord) : Prop where
  marked : (key, task) ∈ s.refreshing
  only : ∀ other, (other, task) ∈ s.refreshing → other = key
  record : lookUp s.records key = some record

theorem Refreshing.respects (refreshing : Refreshing s key task record) (respects : Respects task s s') :
    Refreshing s' key task record := by
  obtain ⟨stays, same⟩ := respects key
  refine ⟨stays.1 refreshing.marked, fun other marked => ?_, ?_⟩
  · exact refreshing.only other ((respects other).1.2 marked)
  · exact (same refreshing.marked).record.trans refreshing.record

theorem Orderly.others (orderly : Orderly s) (marked : (key, task) ∈ s.refreshing) {other : Nat} {key' : Key}
    (different : other ≠ task) (marked' : (key', other) ∈ s.refreshing) : key' ≠ key := by
  rintro rfl
  exact different (orderly.single key' other task marked' marked)

theorem Orderly.ends (orderly : Orderly s) (marked : (key, task) ∈ s.refreshing)
    (once : s'.sent.Nodup) (refreshing : s'.refreshing = (s.ended key task).refreshing)
    (settled : Settled s' key) (same : ∀ other, other ≠ key → Same other s s') :
    Orderly s' ∧ ∀ other, other ≠ task → Respects other s s' := by
  have member : ∀ other task', (other, task') ∈ s'.refreshing ↔
      (other, task') ∈ s.refreshing ∧ ¬ (other = key ∧ task' = task) := by
    intro other task'
    rw [refreshing, mem_ended]
  refine ⟨⟨once, ?_, ?_⟩, ?_⟩
  · intro other task' task'' first second
    exact orderly.single other task' task'' ((member _ _).1 first).1 ((member _ _).1 second).1
  · intro other unmarked
    by_cases here : other = key
    · rw [here]
      exact settled
    · have before : Settled s other := by
        apply orderly.settled other
        intro task' marked'
        exact unmarked task' ((member _ _).2 ⟨marked', fun both => here both.1⟩)
      constructor
      · intro record found
        rw [(same other here).record] at found
        rw [(same other here).sent]
        exact before.unsent record found
      · intro token isNewest
        rw [(same other here).newest] at isNewest
        rw [(same other here).record]
        exact before.newest token isNewest
  · intro other different key'
    refine ⟨?_, fun marked' => same key' (orderly.others marked different marked')⟩
    rw [member]
    simp [different]

section Operations

variable {registered : Provider → Bool} {ε : Type}

/-- The task refreshes no account. -/
def Idle (task : Nat) (s : State) : Prop := ∀ key, (key, task) ∉ s.refreshing

theorem Idle.respects (idle : Idle task s) (respects : Respects task s s') : Idle task s' :=
  fun key marked => idle key ((respects key).1.2 marked)

/-- A record whose token has not been sent; it is the newest there is. -/
structure Unspent (s : State) (key : Key) (record : TokenRecord) : Prop where
  unsent : (key, record.refreshToken) ∉ s.sent
  newest : ∀ token, s.newest key = some token → record.refreshToken = token

theorem Unspent.same (unspent : Unspent s key record) (same : Same key s s') : Unspent s' key record := by
  constructor
  · rw [same.sent]
    exact unspent.unsent
  · rw [same.newest]
    exact unspent.newest

theorem Unspent.settled (unspent : Unspent s key record) (found : lookUp s.records key = some record) :
    Settled s key := by
  constructor
  · intro record' found'
    rw [found] at found'
    cases found'
    exact unspent.unsent
  · exact fun token isNewest => ⟨record, found, unspent.newest token isNewest⟩

theorem vaultRead_meets {post : Except AccountError (Except VaultError (Option TokenRecord) × Nat) → State → Prop}
    (idle : Idle task s)
    (answers : ∀ reply s', Idle task s' →
      (∀ record, reply.1 = .ok (some record) → expiring record reply.2 = true → registered key.1 = false) →
      post (.ok reply) s')
    (begins : ∀ record now s', Refreshing s' key task record → Unspent s' key record →
      expiring record now = true → registered key.1 = true → post (.ok (.ok (some record), now)) s') :
    meets (environment registered) (contract registered) task (vaultRead key) post s := by
  intro s₁ respects (orderly : Orderly s₁)
  have idle₁ := idle.respects respects
  have still : (contract registered).guar task s₁ s₁ :=
    ⟨orderly, fun other _ key => ⟨Iff.rfl, fun _ => .refl key s₁⟩⟩
  refine ⟨trivial, fun choice reply s₂ allowed answered => ?_⟩
  cases choice with
  | storageFails =>
    cases answered
    exact ⟨still, answers _ s₁ idle₁ fun record same => by cases same⟩
  | lost timedOut => cases answered
  | answered answer => cases answered
  | «at» now =>
    simp only [environment, Option.some.injEq, Prod.mk.injEq] at answered
    obtain ⟨rfl, rfl⟩ := answered
    split
    · rename_i starts
      simp only [Bool.and_eq_true] at starts
      obtain ⟨isRegistered, expires⟩ := starts
      cases found : lookUp s₁.records key with
      | none => simp [found] at expires
      | some record =>
        simp only [found, Option.map_some, Option.getD_some] at expires
        have alone : ∀ other, (key, other) ∉ s₁.refreshing :=
          fun other marked => allowed isRegistered ⟨record, found, expires⟩ _ marked rfl
        have settled := orderly.settled key alone
        have unspent : Unspent s₁ key record := by
          refine ⟨settled.unsent record found, fun token isNewest => ?_⟩
          obtain ⟨record', found', same⟩ := settled.newest token isNewest
          rw [found] at found'
          cases found'
          exact same
        have member : ∀ other task', (other, task') ∈ (key, task) :: s₁.refreshing ↔
            other = key ∧ task' = task ∨ (other, task') ∈ s₁.refreshing := by
          simp
        refine ⟨⟨⟨orderly.once, ?_, ?_⟩, ?_⟩, ?_⟩
        · intro other task' task'' first second
          rcases (member _ _).1 first with ⟨rfl, rfl⟩ | old
          · rcases (member _ _).1 second with ⟨-, rfl⟩ | old
            · rfl
            · exact absurd old (alone task'')
          · rcases (member _ _).1 second with ⟨rfl, rfl⟩ | old'
            · exact absurd old (alone task')
            · exact orderly.single other task' task'' old old'
        · intro other unmarked
          have before := orderly.settled other fun task' marked =>
            unmarked task' ((member _ _).2 (Or.inr marked))
          exact ⟨before.unsent, before.newest⟩
        · intro other different other'
          refine ⟨?_, fun _ => ⟨rfl, rfl, fun _ => Iff.rfl⟩⟩
          rw [member]
          simp [different]
        · have refreshing : Refreshing { s₁ with refreshing := (key, task) :: s₁.refreshing } key task record := by
            refine ⟨List.mem_cons_self, fun other marked => ?_, found⟩
            rcases (member _ _).1 marked with ⟨rfl, -⟩ | old
            · rfl
            · exact absurd old (idle₁ other)
          exact begins record now _ refreshing ⟨unspent.unsent, unspent.newest⟩ expires isRegistered
    · rename_i starts
      refine ⟨still, answers _ s₁ idle₁ fun record same expires => ?_⟩
      cases found : lookUp s₁.records key with
      | none => simp [found] at same
      | some record' =>
        simp only [found, Except.ok.injEq, Option.some.injEq] at same
        subst same
        by_contra isRegistered
        apply starts
        simp [found, expires, Bool.not_eq_false _ ▸ isRegistered]

theorem validateRotation_refreshToken {value : OAuthTokenRotation} {material : ValidMaterial (Option JsString)}
    (valid : validateRotation value = .ok material) : material.refreshToken = value.refreshToken := by
  simp only [validateRotation, bind, Except.bind, pure, Except.pure] at valid
  split at valid
  · cases valid
  split at valid
  · cases valid
  rename_i token checked
  have same : token = value.refreshToken := by
    cases given : value.refreshToken with
    | none =>
      rw [given] at checked
      cases checked
      rfl
    | some text =>
      rw [given] at checked
      simp only [Option.mapM_some, validateTokenText] at checked
      split at checked
      · cases checked
        rfl
      · cases checked
  split at valid
  · cases valid
  split at valid
  · cases valid
  cases valid
  exact same

theorem rotate_eq_ok {records : List TokenRecord} {rotated : OAuthTokenRotation} {now : Nat}
    {material : ValidMaterial (Option JsString)} (valid : validateRotation rotated = .ok material)
    (found : lookUp records key = some record) :
    OAuth.rotate records key rotated now = .ok (rotateFirst key material now records) := by
  unfold OAuth.rotate
  rw [valid]
  simp [bind, Except.bind, found, pure, Except.pure]

theorem newest_posted (s : State) (key other : Key) (task : Nat) (token : JsString) (answer : Answer)
    (issued : JsString) (issues : answer.issues = some issued) :
    (s.posted key task token answer).newest other = if other = key then some issued else s.newest other := by
  have same : ∀ s' : State, (s'.ended key task).newest other = s'.newest other := fun _ => rfl
  unfold State.posted
  simp only [issues, Option.map_some, Option.toList_some, List.cons_append, List.nil_append]
  by_cases here : other = key
  · split <;> simp [State.newest, State.ended, here]
  · have different : ¬ key = other := fun eq => here eq.symm
    split <;> simp [State.newest, State.ended, different]

theorem sent_posted (s : State) (key : Key) (task : Nat) (token : JsString) (answer : Answer) :
    (s.posted key task token answer).sent = (key, token) :: s.sent := by
  unfold State.posted
  split <;> rfl

theorem records_posted (s : State) (key : Key) (task : Nat) (token : JsString) (answer : Answer) :
    (s.posted key task token answer).records = s.records := by
  unfold State.posted
  split <;> rfl

theorem issues_isOk {answer : Answer} {issued : JsString} (issues : answer.issues = some issued) :
    ∃ result, refreshAccessToken answer = .ok result ∧ result.refreshToken = some issued := by
  unfold Answer.issues at issues
  split at issues
  · exact ⟨_, by assumption, issues⟩
  · cases issues

theorem Refreshing.idle (refreshing : Refreshing s key task record)
    (ended : s'.refreshing = (s.ended key task).refreshing) : Idle task s' := by
  intro other marked
  rw [ended, mem_ended] at marked
  exact marked.2 ⟨refreshing.only other marked.1, rfl⟩

/-- What the endpoint answers with is the newest token, and it has not been sent. -/
theorem post_meets {token : JsString} {scopes : List JsString} {post : Except AccountError Answer → State → Prop}
    (refreshing : Refreshing s key task record) (unspent : Unspent s key record)
    (sends : token = record.refreshToken)
    (lost : ∀ timedOut s', Idle task s' → post (.ok (.unreachable timedOut)) s')
    (answers : ∀ answer issued s', answer.issues = some issued → Refreshing s' key task record →
      (key, issued) ∉ s'.sent → s'.newest key = some issued → post (.ok answer) s') :
    meets (environment registered) (contract registered) task (OAuth.post key token scopes) post s := by
  intro s₁ respects (orderly : Orderly s₁)
  have refreshing₁ := refreshing.respects respects
  have unspent₁ := unspent.same ((respects key).2 refreshing.marked)
  refine ⟨trivial, fun choice reply s₂ allowed answered => ?_⟩
  cases choice with
  | storageFails => cases answered
  | «at» now => cases answered
  | lost timedOut =>
    cases answered
    have settled : Settled (s₁.ended key task) key :=
      ⟨(unspent₁.settled refreshing₁.record).unsent, (unspent₁.settled refreshing₁.record).newest⟩
    refine ⟨orderly.ends refreshing₁.marked orderly.once rfl settled ?_, ?_⟩
    · exact fun other _ => ⟨rfl, rfl, fun _ => Iff.rfl⟩
    · exact lost timedOut _ (refreshing₁.idle rfl)
  | answered answer =>
    simp only [environment, Option.some.injEq, Prod.mk.injEq] at answered
    obtain ⟨rfl, rfl⟩ := answered
    obtain ⟨issued, issues, unseen, different⟩ := allowed
    obtain ⟨result, succeeds, -⟩ := issues_isOk issues
    have marks : (s₁.posted key task token answer).refreshing = s₁.refreshing := by
      unfold State.posted
      simp [succeeds, Except.isOk, Except.toBool]
    have same : ∀ other, other ≠ key → Same other s₁ (s₁.posted key task token answer) := by
      intro other elsewhere
      refine ⟨by rw [records_posted], ?_, fun token' => ?_⟩
      · rw [newest_posted s₁ key other task token answer issued issues, if_neg elsewhere]
      · rw [sent_posted]
        simp [elsewhere]
    have once : (s₁.posted key task token answer).sent.Nodup := by
      rw [sent_posted, sends]
      exact List.nodup_cons.2 ⟨unspent₁.unsent, orderly.once⟩
    refine ⟨⟨⟨once, ?_, ?_⟩, ?_⟩, ?_⟩
    · rw [marks]
      exact orderly.single
    · intro other unmarked
      rw [marks] at unmarked
      have elsewhere : other ≠ key := by
        rintro rfl
        exact unmarked task refreshing₁.marked
      have before := orderly.settled other unmarked
      have kept := same other elsewhere
      constructor
      · intro record' found
        rw [kept.sent]
        exact before.unsent record' (kept.record ▸ found)
      · intro token' isNewest
        rw [kept.record]
        exact before.newest token' (kept.newest ▸ isNewest)
    · intro other isOther key'
      rw [marks]
      exact ⟨Iff.rfl, fun marked => same key' (orderly.others refreshing₁.marked isOther marked)⟩
    · apply answers answer issued _ issues
      · constructor
        · rw [marks]
          exact refreshing₁.marked
        · rw [marks]
          exact refreshing₁.only
        · rw [records_posted]
          exact refreshing₁.record
      · rw [sent_posted]
        simp [unseen, different]
      · rw [newest_posted s₁ key key task token answer issued issues, if_pos rfl]

theorem vaultRotate_meets {rotated : OAuthTokenRotation} {issued : JsString}
    {post : Except AccountError (Except VaultError Unit) → State → Prop}
    (refreshing : Refreshing s key task record) (unsent : (key, issued) ∉ s.sent)
    (newest : s.newest key = some issued) (names : rotated.refreshToken = some issued)
    (stored : ∀ s', Idle task s' → post (.ok (.ok ())) s') :
    meets (environment registered) (contract registered) task (vaultRotate key rotated) post s := by
  intro s₁ respects (orderly : Orderly s₁)
  have refreshing₁ := refreshing.respects respects
  have same := (respects key).2 refreshing.marked
  refine ⟨trivial, fun choice reply s₂ allowed answered => ?_⟩
  cases choice with
  | storageFails => exact allowed.elim
  | lost timedOut => cases answered
  | answered answer => cases answered
  | «at» now =>
    cases valid : validateRotation rotated with
    | error error =>
      have accepted : (validateRotation rotated).isOk := allowed
      rw [valid] at accepted
      cases accepted
    | ok material =>
      have names' : material.refreshToken = some issued :=
        (validateRotation_refreshToken valid).trans names
      simp only [environment, rotate_eq_ok valid refreshing₁.record, Option.some.injEq, Prod.mk.injEq] at answered
      obtain ⟨rfl, rfl⟩ := answered
      have found : lookUp (rotateFirst key material now s₁.records) key = some (record.rotate material now) := by
        rw [lookUp_rotateFirst, if_pos rfl, refreshing₁.record]
        rfl
      have token : (record.rotate material now).refreshToken = issued := by
        simp [TokenRecord.rotate, names']
      have settled : Settled ({ s₁ with records := rotateFirst key material now s₁.records }.ended key task) key := by
        constructor
        · intro record' found'
          obtain rfl : record.rotate material now = record' := Option.some.inj (found.symm.trans found')
          rw [token]
          exact fun sent => unsent ((same.sent issued).1 sent)
        · intro token' isNewest
          refine ⟨_, found, ?_⟩
          have isIssued : s₁.newest key = some issued := same.newest.trans newest
          have isNewest' : s₁.newest key = some token' := isNewest
          rw [isIssued] at isNewest'
          cases isNewest'
          exact token
      refine ⟨orderly.ends refreshing₁.marked orderly.once rfl settled ?_, stored _ (refreshing₁.idle rfl)⟩
      intro other elsewhere
      refine ⟨?_, rfl, fun _ => Iff.rfl⟩
      show lookUp (rotateFirst key material now s₁.records) other = _
      rw [lookUp_rotateFirst, if_neg elsewhere]

theorem runtimeOAuthAccount_meets (account : Account) (idle : Idle task s) :
    meets (environment registered) (contract registered) task (runtimeOAuthAccount registered account)
      (fun _ => Idle task) s := by
  refine meets_seq (vaultRead_meets idle ?_ ?_)
  · rintro ⟨read, now⟩ s₁ idle₁ fresh
    simp only [either_ok]
    cases read with
    | error error => exact idle₁
    | ok found =>
      cases found with
      | none => exact idle₁
      | some record =>
        dsimp only
        split
        · rename_i expires
          have unregistered : registered account.provider = false := fresh record rfl expires
          rw [if_neg (by simp [unregistered])]
          exact idle₁
        · exact idle₁
  · intro record now s₁ refreshing unspent expires isRegistered
    have isRegistered' : registered account.provider = true := isRegistered
    simp only [either_ok, expires, isRegistered', ↓reduceIte]
    refine meets_seq (post_meets refreshing unspent rfl ?_ ?_)
    · intro timedOut s₂ idle₂
      exact idle₂
    · intro answer issued s₂ issues refreshing₂ unsent newest
      obtain ⟨result, succeeds, token⟩ := issues_isOk issues
      simp only [either_ok, succeeds]
      refine meets_seq (vaultRotate_meets refreshing₂ unsent newest token ?_)
      exact fun s₃ idle₃ => idle₃

theorem mailOperation_meets (account : Account) (idle : Idle task s) :
    meets (environment registered) (contract registered) task (mailOperation registered account)
      (fun _ => Idle task) s := by
  refine meets_seq (meets_mono (runtimeOAuthAccount_meets account idle) fun result s' idle' => ?_)
  cases result with
  | ok token => exact idle'
  | error error => exact idle'

end Operations

end Steps

/-- The accounts' records, before any mail operation. -/
def State.initial (records : List TokenRecord) : State := ⟨records, [], [], []⟩

theorem initial_orderly (records : List TokenRecord) : Orderly (State.initial records) := by
  constructor
  · exact List.nodup_nil
  · intro key task other marked
    cases marked
  · intro key _
    constructor
    · exact fun record _ sent => by cases sent
    · exact fun token isNewest => by cases isNewest

/-- The vault holds the newest refresh token that the endpoint has returned for each account. -/
def State.HoldsNewest (s : State) : Prop :=
  ∀ key token, s.newest key = some token → ∃ record ∈ lookUp s.records key, record.refreshToken = token

/-- Operations that do not overlap while they refresh send each refresh token once, and the newest
is in the vault when all have finished. -/
theorem refresh_tokens_single_use (registered : Provider → Bool) (records : List TokenRecord)
    (events : List (Event Account Choice)) (w : World Op Reply AccountError State)
    (ran : World.run (environment registered) (mailOperation registered) ⟨.initial records, []⟩ events = some w)
    (admitted : World.Admitted (environment registered) (oneAtATime registered) (mailOperation registered)
      ⟨.initial records, []⟩ events) :
    w.state.sent.Nodup ∧ (w.Finished → w.state.HoldsNewest) := by
  have lawful := contract_lawful registered
  have kept : w.Kept (environment registered) (contract registered) := by
    apply run_kept lawful ?_ (idle_kept (initial_orderly records) ?_) admitted ran
    · exact fun task request s _ idle _ => mailOperation_meets request idle
    · exact fun task key marked => by cases marked
  have orderly : Orderly w.state := kept.inv
  refine ⟨orderly.once, fun finished key token isNewest => ?_⟩
  have idle : ∀ task, (key, task) ∉ w.state.refreshing := fun task => kept.finished finished task key
  obtain ⟨record, found, same⟩ := (orderly.settled key idle).newest token isNewest
  exact ⟨record, found, same⟩

/-- An account whose token has expired. -/
def expiredAccount : Account := ⟨[97], .microsoft, "a"⟩

def expiredRecord : TokenRecord := ⟨.microsoft, "a", [97], [114], 0, ⟨[[115]], oneScope_valid⟩, 1⟩

/-- The endpoint grants an hour and a new refresh token. -/
def renewal (token : JsString) : Answer :=
  .object true 200
    { accessToken := some (.string [98])
      refreshToken := some (.string token)
      expiresIn := some (.number (.finite 3600))
      scope := none
      error := none
      errorDescription := none }

/-- A second operation starts when the first has its new token, and needs another one an hour later. -/
def refreshesInTurn : List (Event Account Choice) :=
  [.start expiredAccount, .act 0 (.at 10), .act 0 (.answered (renewal [50])), .act 0 (.at 20),
    .start expiredAccount, .act 1 (.at 3600000), .act 1 (.answered (renewal [51])), .act 1 (.at 3600010)]

theorem refreshesInTurn_single_use :
    ∃ w, World.run (environment fun _ => true) (mailOperation fun _ => true) ⟨.initial [expiredRecord], []⟩
        refreshesInTurn = some w ∧
      w.state.sent = [(expiredAccount.key, [50]), (expiredAccount.key, [114])] ∧ w.state.HoldsNewest := by
  have ran : (World.run (environment fun _ => true) (mailOperation fun _ => true)
      ⟨.initial [expiredRecord], []⟩ refreshesInTurn).isSome := by decide
  have ends : ∀ w ∈ World.run (environment fun _ => true) (mailOperation fun _ => true)
      ⟨.initial [expiredRecord], []⟩ refreshesInTurn, w.Finished ∧
        w.state.sent = [(expiredAccount.key, [50]), (expiredAccount.key, [114])] := by decide
  obtain ⟨w, ran⟩ := Option.isSome_iff_exists.1 ran
  obtain ⟨finished, sent⟩ := ends w ran
  have single := refresh_tokens_single_use (fun _ => true) [expiredRecord] refreshesInTurn w ran
    (by decide)
  exact ⟨w, ran, sent, single.2 finished⟩

/-- Two operations read the vault before either has rotated: the same refresh token is sent twice, and
the older of the two answers overwrites the newer. -/
def overlappingRefreshes : List (Event Account Choice) :=
  [.start expiredAccount, .start expiredAccount, .act 0 (.at 10), .act 1 (.at 11),
    .act 0 (.answered (renewal [50])), .act 1 (.answered (renewal [51])), .act 1 (.at 20), .act 0 (.at 30)]

theorem overlappingRefreshes_reuse :
    ¬ ∀ w, World.run (environment fun _ => true) (mailOperation fun _ => true) ⟨.initial [expiredRecord], []⟩
        overlappingRefreshes = some w →
      w.state.sent.Nodup ∧ (w.Finished → w.state.HoldsNewest) := by
  intro single
  have ran : (World.run (environment fun _ => true) (mailOperation fun _ => true)
      ⟨.initial [expiredRecord], []⟩ overlappingRefreshes).isSome := by decide
  have reused : ∀ w ∈ World.run (environment fun _ => true) (mailOperation fun _ => true)
      ⟨.initial [expiredRecord], []⟩ overlappingRefreshes, ¬ w.state.sent.Nodup := by decide
  obtain ⟨w, ran⟩ := Option.isSome_iff_exists.1 ran
  exact reused w ran (single w ran).1

end OAuth
