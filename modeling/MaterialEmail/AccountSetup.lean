import MaterialEmail.Identities.Reachable
import MaterialEmail.Library.Keyed
import MaterialEmail.Library.Interleaving
import MaterialEmail.OAuth.TokenVault

/-! Accounts are added by calls that test the connection between looking for the address and storing the
account. Any number of them may run side by side. -/
namespace AccountSetup

open JsString Interrupted Interleaved
open OAuth (Provider)
open Identities (Identifier StoredAccount MailIdentityError)

/-- What the host knows of the letters. -/
structure Host extends LetterCase, Identities.Host

/-- A draft that has passed `accountDraftSchema`, without its connection settings. -/
structure AccountDraft where
  displayName : JsString
  email : JsString
  /-- `incomingProtocol === "pop3"`. -/
  pop3 : Bool
  /-- `authMode === "oauth2"`. -/
  oauth2 : Bool
  oauthProvider : Option Provider
  deriving DecidableEq

inductive SetupError where
  | text (message : JsString)
  /-- An error of the mail service, the vault or the store. -/
  | other
  | identity (error : MailIdentityError)

structure State where
  store : Identities.State
  /-- `#pendingOAuthSignIn`. -/
  pendingSignIn : Option Provider

inductive Op where
  /-- `assertConnectionPreflight`. -/
  | preflight (draft : AccountDraft)
  | read
  | isEncryptionAvailable
  | randomUUID
  | testAccount (account : StoredAccount)
  | peekPendingOAuthSignIn (provider : Provider) (consume : Bool)
  | saveInitial (provider : Provider) (accountId : Identifier)
  /-- The update that stores the account with its first identity. -/
  | save (account : StoredAccount)
  /-- A sign-in has been completed in the browser. -/
  | captureSignIn (provider : Provider)

abbrev Reply : Op → Type
  | .preflight _ => Except SetupError Unit
  | .read => Identities.State
  | .isEncryptionAvailable => Bool
  | .randomUUID => Identifier
  | .testAccount _ => Except SetupError Unit
  | .peekPendingOAuthSignIn _ _ => Except SetupError Unit
  | .saveInitial _ _ => Except SetupError Unit
  | .save _ => Except SetupError Unit
  | .captureSignIn _ => Unit

/-- How the world answers an operation. -/
inductive Choice where
  | proceeds
  | fails
  | draws (id : Identifier)

def signInFirst (provider : Provider) : SetupError :=
  .text (ofString "Sign in with " ++ (match provider with
    | .google => ofString "Google"
    | .microsoft => ofString "Microsoft") ++ ofString " before connecting this account.")

/-- What the update does with the store, or why it throws. -/
def saveAccount (host : Host) (newId : Identifier) (account : StoredAccount) (store : Identities.State) :
    Except MailIdentityError Identities.State := do
  let identities ← Identities.seedAccountIdentity host.toHost store.identities account newId
  return ⟨store.accounts ++ [account], identities, account.id :: store.seeded⟩

def environment (host : Host) : Environment Op Reply Choice State where
  answer _ op choice s :=
    match op, choice with
    | .preflight _, .proceeds => some (.ok (), s)
    | .preflight _, .fails => some (.error .other, s)
    | .read, .proceeds => some (s.store, s)
    | .isEncryptionAvailable, .proceeds => some (true, s)
    | .isEncryptionAvailable, .fails => some (false, s)
    | .randomUUID, .draws id => some (id, s)
    | .testAccount _, .proceeds => some (.ok (), s)
    | .testAccount _, .fails => some (.error .other, s)
    | .peekPendingOAuthSignIn provider consume, .proceeds =>
      if s.pendingSignIn = some provider then
        some (.ok (), if consume then { s with pendingSignIn := none } else s)
      else some (.error (signInFirst provider), s)
    -- It has expired.
    | .peekPendingOAuthSignIn _ _, .fails => some (.error .other, { s with pendingSignIn := none })
    | .saveInitial _ _, .proceeds => some (.ok (), s)
    | .saveInitial _ _, .fails => some (.error .other, s)
    | .save account, .draws newId =>
      match saveAccount host newId account s.store with
      | .ok store => some (.ok (), { s with store := store })
      | .error error => some (.error (.identity error), s)
    | .save _, .fails => some (.error .other, s)
    | .captureSignIn provider, .proceeds => some ((), { s with pendingSignIn := some provider })
    | _, _ => none

abbrev Setup := Program Op Reply SetupError

def orThrow : Except SetupError α → Setup α
  | .ok value => .done value
  | .error error => .throw error

def fail (text : String) : Setup α := .throw (.text (ofString text))

section Programs

def addOAuthAccount (draft : AccountDraft) (provider : Provider) : Setup Unit :=
  .call .randomUUID fun id =>
    let account : StoredAccount := ⟨id, draft.displayName, draft.email⟩
    do
      .call (.peekPendingOAuthSignIn provider false) orThrow
      .call (.testAccount account) orThrow
      .call (.peekPendingOAuthSignIn provider true) orThrow
      .call (.saveInitial provider account.id) orThrow
      .call (.save account) orThrow

variable (host : Host)

def addressTaken (store : Identities.State) (email : JsString) : Bool :=
  store.accounts.any fun account => host.lower account.email = host.lower email

def addAccount (draft : AccountDraft) : Setup Unit :=
  if draft.pop3 then
    fail ("POP3 account saving is not available in this build. No server was contacted by this blocked Connect " ++
      "action, no credential was used, and no account was saved. Use Test settings for the bounded live POP3 check.")
  else do
    .call (.preflight draft) orThrow
    let existing : Identities.State ← .call .read .done
    if addressTaken host existing draft.email then
      .throw (.text (ofString "An account for " ++ draft.email ++ ofString " already exists on this computer."))
    else if draft.oauth2 then
      match draft.oauthProvider with
      | none => fail "An OAuth account draft must name its provider."
      | some provider => addOAuthAccount draft provider
    else
      .call .isEncryptionAvailable fun available =>
        if !available then fail "Windows credential encryption is not available on this computer."
        else
          .call .randomUUID fun id =>
            let account : StoredAccount := ⟨id, draft.displayName, draft.email⟩
            do
              .call (.testAccount account) orThrow
              .call (.save account) orThrow

inductive Request where
  | addAccount (draft : AccountDraft)
  | captureSignIn (provider : Provider)

def Request.program : Request → Setup Unit
  | .addAccount draft => AccountSetup.addAccount host draft
  | .captureSignIn provider => .call (.captureSignIn provider) .done

end Programs

section Uniqueness

variable {host : Host}

/-- No two accounts have addresses that are equal up to case. -/
def Unique (host : Host) (accounts : List StoredAccount) : Prop :=
  (accounts.map fun account => host.lower account.email).Nodup

/-- What happens to the accounts: a call looks for an address, or an account is stored. -/
inductive Note where
  | looked (task : Nat)
  | stored (account : StoredAccount)

def note : Observer Op Reply Choice State (List Note) := fun task op _ reply _ notes =>
  match op, reply with
  | .read, _ => .looked task :: notes
  | .save account, .ok () => .stored account :: notes
  | _, _ => notes

abbrev Noted := State × List Note

def noted (host : Host) : Environment Op Reply Choice Noted := (environment host).observed note

/-- The accounts that have been stored since a call has looked. -/
def storedSince (task : Nat) : List Note → List StoredAccount
  | [] => []
  | .looked other :: notes => if other = task then [] else storedSince task notes
  | .stored account :: notes => account :: storedSince task notes

/-- When the store takes a new account, none with its address has been stored since its call has looked. -/
def conditions (host : Host) : Conditions Op Request Choice Noted where
  starts _ _ := True
  allowed task op choice s :=
    match op, choice with
    | .save account, .draws newId => (saveAccount host newId account s.1.store).isOk = true →
        ∀ other ∈ storedSince task s.2, host.lower other.email ≠ host.lower account.email
    | _, _ => True

theorem saveAccount_accounts {newId : Identifier} {account : StoredAccount} {store after : Identities.State}
    (saved : saveAccount host newId account store = .ok after) : after.accounts = store.accounts ++ [account] := by
  obtain ⟨identities, _, saved⟩ := Fallible.bind_eq_ok saved
  cases saved
  rfl

theorem unique_append {accounts : List StoredAccount} {account : StoredAccount} (unique : Unique host accounts) :
    Unique host (accounts ++ [account]) ↔ ∀ stored ∈ accounts, host.lower stored.email ≠ host.lower account.email := by
  have apart : (∀ stored ∈ accounts, host.lower stored.email ≠ host.lower account.email) ↔
      host.lower account.email ∉ accounts.map fun account => host.lower account.email := by
    simp
  rw [apart]
  constructor
  · intro all present
    unfold Unique at all
    rw [List.map_append, List.nodup_append] at all
    exact all.2.2 _ present _ (List.mem_singleton_self _) rfl
  · exact Keyed.nodup_append unique

variable {task : Nat} {op : Op} {choice : Choice} {reply : Reply op} {s s' : Noted} {email : JsString}

/-- What an operation does to the accounts and the notes. -/
inductive Happens (host : Host) (task : Nat) (s s' : Noted) : Op → Choice → Prop where
  | nothing {op : Op} {choice : Choice} (accounts : s'.1.store = s.1.store) (notes : s'.2 = s.2)
      (allowed : (conditions host).allowed task op choice s) : Happens host task s s' op choice
  | looked {choice : Choice} (accounts : s'.1.store = s.1.store) (notes : s'.2 = .looked task :: s.2) :
      Happens host task s s' .read choice
  | stored {account : StoredAccount} {newId : Identifier} (accounts : s'.1.store.accounts = s.1.store.accounts ++ [account])
      (notes : s'.2 = .stored account :: s.2) (ok : (saveAccount host newId account s.1.store).isOk = true) :
      Happens host task s s' (.save account) (.draws newId)

theorem noted_answer (answered : (noted host).answer task op choice s = some (reply, s')) :
    Happens host task s s' op choice := by
  simp only [noted, Environment.observed, Option.map_eq_some_iff, Prod.exists] at answered
  obtain ⟨reply', state, answered, same⟩ := answered
  cases same
  cases op with
  | save account =>
    cases choice with
    | draws newId =>
      simp only [environment] at answered
      cases saved : saveAccount host newId account s.1.store with
      | ok store =>
        simp only [saved, Option.some.injEq, Prod.mk.injEq] at answered
        obtain ⟨rfl, rfl⟩ := answered
        exact .stored (saveAccount_accounts saved) rfl (by rw [saved]; rfl)
      | error error =>
        simp only [saved, Option.some.injEq, Prod.mk.injEq] at answered
        obtain ⟨rfl, rfl⟩ := answered
        refine .nothing rfl rfl fun ok => ?_
        rw [saved] at ok
        cases ok
    | proceeds => cases answered
    | fails =>
      cases answered
      exact .nothing rfl rfl trivial
  | peekPendingOAuthSignIn provider consume =>
    cases choice with
    | proceeds =>
      simp only [environment] at answered
      split at answered
      · cases answered
        cases consume <;> exact .nothing rfl rfl trivial
      · cases answered
        exact .nothing rfl rfl trivial
    | fails =>
      cases answered
      exact .nothing rfl rfl trivial
    | draws newId => cases answered
  | read =>
    cases choice <;> cases answered
    exact .looked rfl rfl
  | _ => cases choice <;> cases answered <;> exact .nothing rfl rfl trivial

/-- Whoever has the address has been stored since the call has looked. -/
def Watched (host : Host) (task : Nat) (email : JsString) (s : Noted) : Prop :=
  ∀ stored ∈ s.1.store.accounts, host.lower stored.email = host.lower email → stored ∈ storedSince task s.2

/-- A call stores an account for an address that it has not found. -/
def contract (host : Host) : Contract Op Request Choice Noted where
  starts _ _ := True
  allowed _ _ _ _ := True
  inv s := ∀ task, storedSince task s.2 ⊆ s.1.store.accounts
  rely task s s' := ∀ email, Watched host task email s → Watched host task email s'
  guar task s s' := (∀ other, other ≠ task → ∀ email, Watched host other email s → Watched host other email s') ∧
    ∀ other, storedSince other s'.2 ⊆ s'.1.store.accounts
  demand task op s := ∀ account, op = .save account → Watched host task account.email s
  ends _ _ := True

theorem contract_lawful (host : Host) : (contract host).Lawful where
  refl _ _ _ watched := watched
  trans _ _ _ _ first second email watched := second email (first email watched)
  others task _ _ _ different guaranteed := guaranteed.1 task different
  keeps _ _ _ _ guaranteed := guaranteed.2
  stable _ _ _ _ _ := trivial

theorem Happens.watched (happens : Happens host task s s' op choice) {other : Nat} (looks : op = .read → other ≠ task)
    (watched : Watched host other email s) : Watched host other email s' := by
  intro stored member same
  cases happens with
  | nothing accounts notes _ =>
    rw [notes]
    exact watched stored (accounts ▸ member) same
  | looked accounts notes =>
    rw [notes, storedSince, if_neg (looks rfl).symm]
    exact watched stored (accounts ▸ member) same
  | stored accounts notes _ =>
    rw [notes, storedSince]
    rw [accounts] at member
    rcases List.mem_append.1 member with before | new
    · exact List.mem_cons_of_mem _ (watched stored before same)
    · exact List.mem_singleton.1 new ▸ List.mem_cons_self

theorem Happens.since (happens : Happens host task s s' op choice)
    (since : ∀ other, storedSince other s.2 ⊆ s.1.store.accounts) (other : Nat) :
    storedSince other s'.2 ⊆ s'.1.store.accounts := by
  cases happens with
  | nothing accounts notes _ =>
    rw [notes, accounts]
    exact since other
  | looked accounts notes =>
    rw [notes, accounts, storedSince]
    split
    · exact List.nil_subset _
    · exact since other
  | stored accounts notes _ =>
    rw [notes, accounts, storedSince]
    exact List.cons_subset.2
      ⟨List.mem_append_right _ List.mem_cons_self, List.subset_append_of_subset_left _ (since other)⟩

theorem Happens.guar (happens : Happens host task s s' op choice) (inv : (contract host).inv s) :
    (contract host).guar task s s' :=
  ⟨fun _ different _ watched => happens.watched (fun _ => different) watched, happens.since inv⟩

theorem call_meets {next : Reply op → Setup Unit} (saves : ∀ account, op ≠ .save account)
    (rest : ∀ reply s', meets (noted host) (contract host) task (next reply) (fun _ _ => True) s') :
    meets (noted host) (contract host) task (.call op next) (fun _ _ => True) s :=
  fun _ _ inv => ⟨fun account same => absurd same (saves account), fun _ reply s'' _ answered =>
    ⟨(noted_answer answered).guar inv, rest reply s''⟩⟩

/-- An operation after it, of a call that watches the address. -/
theorem watching_meets {next : Reply op → Setup Unit} (looks : op ≠ .read)
    (saves : ∀ account, op = .save account → account.email = email) (watched : Watched host task email s)
    (rest : ∀ reply s', Watched host task email s' →
      meets (noted host) (contract host) task (next reply) (fun _ _ => True) s') :
    meets (noted host) (contract host) task (.call op next) (fun _ _ => True) s := by
  intro s₁ relied inv
  refine ⟨fun account same => saves account same ▸ relied email watched, fun choice reply s₂ _ answered => ?_⟩
  have happens := noted_answer answered
  exact ⟨happens.guar inv, rest reply s₂ (happens.watched (fun isRead => absurd isRead looks) (relied email watched))⟩

theorem orThrow_meets {α : Type} {reply : Except SetupError α} {next : α → Setup Unit}
    (rest : ∀ value, meets (noted host) (contract host) task (next value) (fun _ _ => True) s) :
    meets (noted host) (contract host) task (orThrow reply >>= next) (fun _ _ => True) s := by
  cases reply with
  | ok value => exact rest value
  | error error => trivial

theorem save_meets {account : StoredAccount} (watched : Watched host task account.email s) :
    meets (noted host) (contract host) task (.call (.save account) orThrow) (fun _ _ => True) s := by
  refine watching_meets nofun (fun _ same => by cases same; rfl) watched fun reply _ _ => ?_
  cases reply <;> trivial

theorem addOAuthAccount_meets (draft : AccountDraft) (provider : Provider) (watched : Watched host task draft.email s) :
    meets (noted host) (contract host) task (addOAuthAccount draft provider) (fun _ _ => True) s := by
  refine watching_meets nofun nofun watched fun id s₁ watched => ?_
  refine watching_meets nofun nofun watched fun _ s₂ watched => orThrow_meets fun _ => ?_
  refine watching_meets nofun nofun watched fun _ s₃ watched => orThrow_meets fun _ => ?_
  refine watching_meets nofun nofun watched fun _ s₄ watched => orThrow_meets fun _ => ?_
  exact watching_meets nofun nofun watched fun _ s₅ watched => orThrow_meets fun _ => save_meets watched

/-- A call that goes on has not found the address when it looked. -/
theorem look_meets {next : Identities.State → Setup Unit} (email : JsString)
    (takes : ∀ store s', addressTaken host store email = true →
      meets (noted host) (contract host) task (next store) (fun _ _ => True) s')
    (rest : ∀ store s', Watched host task email s' →
      meets (noted host) (contract host) task (next store) (fun _ _ => True) s') :
    meets (noted host) (contract host) task (.call .read next) (fun _ _ => True) s := by
  intro s₁ _ inv
  refine ⟨nofun, fun choice reply s₂ _ answered => ?_⟩
  refine ⟨(noted_answer answered).guar inv, ?_⟩
  cases choice <;> cases answered
  by_cases taken : addressTaken host s₁.1.store email = true
  · exact takes _ _ taken
  · refine rest _ _ fun stored member same => absurd (List.any_eq_true.2 ⟨stored, member, decide_eq_true same⟩) taken

theorem request_meets (request : Request) :
    meets (noted host) (contract host) task (request.program host) (fun _ _ => True) s := by
  cases request with
  | captureSignIn provider => exact call_meets nofun fun _ _ => trivial
  | addAccount draft =>
    unfold Request.program addAccount
    dsimp only
    split
    · trivial
    refine call_meets nofun fun _ s₁ => orThrow_meets fun _ => look_meets draft.email (fun store s₂ taken => ?_)
      fun store s₂ watched => ?_
    all_goals
      show meets _ _ task (if addressTaken host store draft.email = true then _ else _) _ s₂
    · rw [if_pos taken]
      trivial
    split
    · trivial
    split
    · split
      · trivial
      · exact addOAuthAccount_meets draft _ watched
    · refine watching_meets nofun nofun watched fun available s₃ watched => ?_
      split
      · trivial
      refine watching_meets nofun nofun watched fun id s₄ watched => ?_
      exact watching_meets nofun nofun watched fun _ s₅ watched => orThrow_meets fun _ => save_meets watched

theorem unique_answer (inv : (contract host).inv s) (due : (contract host).demand task op s)
    (unique : Unique host s.1.store.accounts)
    (answered : (noted host).answer task op choice s = some (reply, s')) :
    Unique host s'.1.store.accounts ↔ (conditions host).allowed task op choice s := by
  cases noted_answer answered with
  | nothing accounts _ allowed => exact iff_of_true (accounts ▸ unique) allowed
  | looked accounts _ => exact iff_of_true (accounts ▸ unique) trivial
  | stored accounts _ ok =>
    rw [accounts, unique_append unique]
    constructor
    · exact fun apart _ other member => apart other (inv task member)
    · exact fun allowed stored member same => allowed ok stored (due _ rfl stored member same) same

/-- Addresses stay unique throughout a run exactly if no account is stored for one for which another has been stored
since it was looked for. -/
theorem accounts_unique_iff (host : Host) {s : State} (unique : Unique host s.store.accounts)
    {events : List (Event Request Choice)} {after : World Op Reply SetupError Noted}
    (ran : World.run (noted host) (Request.program host) ⟨(s, []), []⟩ events = some after) :
    (∀ earlier, earlier <+: events → ∀ between,
      World.run (noted host) (Request.program host) ⟨(s, []), []⟩ earlier = some between →
        Unique host between.state.1.store.accounts) ↔
      World.Admitted (noted host) (conditions host) (Request.program host) ⟨(s, []), []⟩ events := by
  have idle : (⟨(s, []), []⟩ : World Op Reply SetupError Noted).Kept (noted host) (contract host) :=
    idle_kept (fun _ _ member => by cases member) fun _ => trivial
  refine run_known_iff (D := conditions host) (P := fun s => Unique host s.1.store.accounts) (fun _ _ => trivial)
    (fun w w' event kept stepped => ?_) (fun w task op next choice reply s' kept due holds answered => ?_) idle unique ran
  · have admits : w.Admits (contract host).toConditions event := by
      cases event with
      | start request => trivial
      | act task choice =>
        show Conditions.allows _ task choice w.state w.tasks[task]?
        unfold Conditions.allows
        split <;> trivial
    exact step_kept (contract_lawful host) (fun _ request _ _ _ _ => request_meets request) kept admits stepped
  · exact unique_answer kept.inv (kept.demand (contract_lawful host) due) holds answered

def Host.plain : Host where
  toLetterCase := LetterCase.ascii
  toHost := Identities.Host.plain

def noAccounts : State := ⟨Identities.start [], none⟩

def meDraft (email : String) : AccountDraft := ⟨ofString "Me", ofString email, false, false, none⟩

/-- A call that goes on until the account is stored. -/
def untilTested (task : Nat) (id : Identifier) : List (Event Request Choice) :=
  [.act task .proceeds, .act task .proceeds, .act task .proceeds, .act task (.draws id), .act task .proceeds]

/-- An account is added, and then the call for another spelling of its address is refused. -/
def oneAfterTheOther : List (Event Request Choice) :=
  .start (.addAccount (meDraft "me@work.example")) :: untilTested 0 Identities.firstId ++
    [.act 0 (.draws Identities.firstId), .start (.addAccount (meDraft "Me@Work.example")), .act 1 .proceeds, .act 1 .proceeds]

theorem oneAfterTheOther_unique : ∃ after,
    World.run (noted Host.plain) (Request.program Host.plain) ⟨(noAccounts, []), []⟩ oneAfterTheOther = some after ∧
    ((∀ earlier, earlier <+: oneAfterTheOther → ∀ between,
      World.run (noted Host.plain) (Request.program Host.plain) ⟨(noAccounts, []), []⟩ earlier = some between →
        Unique Host.plain between.state.1.store.accounts) ↔
      World.Admitted (noted Host.plain) (conditions Host.plain) (Request.program Host.plain) ⟨(noAccounts, []), []⟩
        oneAfterTheOther) := by
  have runs : (World.run (noted Host.plain) (Request.program Host.plain) ⟨(noAccounts, []), []⟩ oneAfterTheOther).isSome =
      true := by decide
  obtain ⟨after, ran⟩ := Option.isSome_iff_exists.1 runs
  have unique : Unique Host.plain noAccounts.store.accounts := List.nodup_nil
  exact ⟨after, ran, accounts_unique_iff Host.plain unique ran⟩

/-- Both calls look before either stores. -/
def sideBySide : List (Event Request Choice) :=
  [.start (.addAccount (meDraft "me@work.example")), .start (.addAccount (meDraft "Me@Work.example"))] ++
    untilTested 0 Identities.firstId ++ untilTested 1 Identities.secondId ++
    [.act 0 (.draws Identities.firstId), .act 1 (.draws Identities.secondId)]

theorem sideBySide_twice : ¬ ∀ events after,
    World.run (environment Host.plain) (Request.program Host.plain) ⟨noAccounts, []⟩ events = some after →
      Unique Host.plain after.state.store.accounts := by
  intro always
  have runs : (World.run (environment Host.plain) (Request.program Host.plain) ⟨noAccounts, []⟩ sideBySide).isSome =
      true := by decide
  have twice : ∀ after ∈ World.run (environment Host.plain) (Request.program Host.plain) ⟨noAccounts, []⟩ sideBySide,
      ¬ Unique Host.plain after.state.store.accounts := by
    have stored : (World.run (environment Host.plain) (Request.program Host.plain) ⟨noAccounts, []⟩ sideBySide).map
        (fun after => decide (after.state.store.accounts.map fun account => Host.plain.lower account.email).Nodup) =
          some false := by decide
    intro after ran
    rw [Option.mem_def.1 ran, Option.map_some, Option.some.injEq, decide_eq_false_iff_not] at stored
    exact stored
  obtain ⟨after, ran⟩ := Option.isSome_iff_exists.1 runs
  exact twice after ran (always sideBySide after ran)

end Uniqueness

end AccountSetup
