import MaterialEmail.AppService.Agreement

/-! Each update of synchronizations, flag changes, moves and folders marked as read leaves what is cached as the
server has it, and so does a run of them. -/
namespace AppService.Overlap

open Interrupted Interleaved Fallible

variable {localeCompare : String → String → Ordering} {validity : FolderKey → Nat}

section Commits

variable {state state' : PersistedState} {g : Seen} {task : Nat} {fresh : Identifier} {accountId : Identifier}
  {folderPath destination : FolderPath} {uid uidValidity : Nat} {patch : FlagPatch} {moveResult : Option MoveResult}

theorem flagged_ran {result : Unit} (ran : (Commit.flagged accountId folderPath uid patch (some uidValidity) false).run
      localeCompare fresh state = .ok (state', result)) :
    ∃ message, cachedMessage state accountId folderPath uid = some message ∧
      state' = state.flagged accountId folderPath uid message patch := by
  obtain ⟨account, -, ran⟩ := bind_eq_ok ran
  obtain ⟨found, target, done⟩ := bind_eq_ok ran
  obtain ⟨message, rfl, cached⟩ := targetMessage_some target
  cases done
  exact ⟨message, cached, rfl⟩

theorem moved_ran {result : Unit} (ran : (Commit.moved accountId folderPath uid destination (some uidValidity) moveResult
      false).run localeCompare fresh state = .ok (state', result)) :
    ∃ message, cachedMessage state accountId folderPath uid = some message ∧
      state' = state.moved accountId folderPath uid destination message moveResult := by
  obtain ⟨account, -, ran⟩ := bind_eq_ok ran
  obtain ⟨found, target, done⟩ := bind_eq_ok ran
  obtain ⟨message, rfl, cached⟩ := targetMessage_some target
  cases done
  exact ⟨message, cached, rfl⟩

/-- An account is known, so an update can only be refused for what it is about. -/
theorem known_bind {α : Type} {next : Account → Except ServiceError α} {error : ServiceError}
    (known : (requireAccount state accountId).isOk) (refused : (requireAccount state accountId >>= next) = .error error) :
    ∃ account, next account = .error error := by
  cases found : requireAccount state accountId with
  | error other => simp [found, Except.isOk, Except.toBool] at known
  | ok account =>
    rw [found] at refused
    exact ⟨account, refused⟩

theorem target_refused {next : Option MessageSummary → Except ServiceError α} {error : ServiceError}
    (settled : Settled validity state)
    (refused : (targetMessage state accountId folderPath uid (some (validity (accountId, folderPath))) >>= next) =
      .error error) (succeeds : ∀ message, ∃ value, next (some message) = .ok value) : cachedMessage state accountId folderPath uid = none := by
  cases target : targetMessage state accountId folderPath uid (some (validity (accountId, folderPath))) with
  | error other => exact settled.target other target
  | ok found =>
    obtain ⟨message, rfl, -⟩ := targetMessage_some target
    obtain ⟨value, succeeded⟩ := succeeds message
    rw [target] at refused
    cases succeeded.symm.trans refused

theorem delivered_mail (state : PersistedState) (queued : OutboxItem) (result : SendResult) (fresh : Identifier) :
    (state.delivered queued result fresh).messages = state.messages ∧
      (state.delivered queued result fresh).folders = state.folders ∧
      (state.delivered queued result fresh).pendingOperations = state.pendingOperations := by
  unfold PersistedState.delivered
  dsimp only
  split
  · exact ⟨rfl, rfl, rfl⟩
  · exact ⟨rfl, rfl, rfl⟩

/-- What is cached is left as it is. -/
structure SameMail (state state' : PersistedState) : Prop where
  messages : state'.messages = state.messages
  folders : state'.folders = state.folders
  pending : state'.pendingOperations = state.pendingOperations

theorem Settled.same (settled : Settled validity state) (same : SameMail state state') : Settled validity state' where
  pending := same.pending.trans settled.pending
  distinct key := by
    rw [same.messages]
    exact settled.distinct key
  rows key := by
    rw [same.messages]
    exact settled.rows key
  folders accountId := by
    rw [same.folders]
    exact settled.folders accountId

theorem Faithful.same (faithful : Faithful state g) (same : SameMail state state') : Faithful state' g := by
  intro key row member
  rw [same.messages] at member
  exact faithful key row member

theorem delivered_same {outboxId : Identifier} {sent : SendResult} {result : Unit}
    (ran : (Commit.delivered accountId outboxId sent).run localeCompare fresh state = .ok (state', result)) :
    SameMail state state' := by
  obtain ⟨account, -, ran⟩ := bind_eq_ok ran
  cases found : findOutboxItem state accountId outboxId with
  | none => simp [found] at ran
  | some queued =>
    rw [found] at ran
    cases ran
    obtain ⟨messages, folders, pending⟩ := delivered_mail state queued sent fresh
    exact ⟨messages, folders, pending⟩

theorem commit_settled {c : Commit} {result : c.Result} (settled : Settled validity state)
    (ready : Ready validity state g task c) (ran : c.run localeCompare fresh state = .ok (state', result)) :
    Settled validity state' := by
  cases c with
  | synced accountId folders batches =>
    obtain ⟨account, -, done⟩ := bind_eq_ok ran
    cases done
    exact settled.synced ready.1
  | flagged accountId folderPath uid patch uidValidity networkError =>
    obtain ⟨-, rfl, rfl, -⟩ := ready
    obtain ⟨message, -, rfl⟩ := flagged_ran ran
    exact settled.flagged
  | moved accountId folderPath uid destination uidValidity moveResult networkError =>
    obtain ⟨-, rfl, rfl, arrives, -⟩ := ready
    obtain ⟨message, -, rfl⟩ := moved_ran ran
    exact settled.moved arrives
  | folderRead accountId folderPath =>
    obtain ⟨account, -, done⟩ := bind_eq_ok ran
    cases done
    exact settled.folderRead
  | delivered accountId outboxId sent => exact settled.same (delivered_same ran)
  | deliveryFailed outboxId =>
    cases ran
    exact settled.same ⟨rfl, rfl, rfl⟩
  | _ => exact ready.elim

/-- An update that goes through leaves what is cached as the server has it. -/
theorem commit_faithful {c : Commit} {result : c.Result} (settled : Settled validity state) (faithful : Faithful state g)
    (ready : Ready validity state g task c) (current : Current state g task c)
    (ran : c.run localeCompare fresh state = .ok (state', result)) : Faithful state' (g.recorded task) := by
  cases c with
  | synced accountId folders batches =>
    obtain ⟨account, -, done⟩ := bind_eq_ok ran
    cases done
    exact synced_faithful faithful ready.2 current
  | flagged accountId folderPath uid patch uidValidity networkError =>
    obtain ⟨-, rfl, rfl, owes⟩ := ready
    obtain ⟨message, cached, rfl⟩ := flagged_ran ran
    exact flagged_faithful settled faithful owes (current (by rw [cached]; rfl))
  | moved accountId folderPath uid destination uidValidity moveResult networkError =>
    obtain ⟨-, rfl, rfl, -, owes⟩ := ready
    obtain ⟨message, cached, rfl⟩ := moved_ran ran
    exact moved_faithful faithful owes (current message cached)
  | folderRead accountId folderPath =>
    obtain ⟨-, left, owes⟩ := ready
    obtain ⟨account, -, done⟩ := bind_eq_ok ran
    cases done
    exact folderRead_faithful faithful owes current
  | delivered accountId outboxId sent => exact clear_faithful (faithful.same (delivered_same ran)) ready
  | deliveryFailed outboxId =>
    cases ran
    exact clear_faithful (faithful.same ⟨rfl, rfl, rfl⟩) ready
  | _ => exact ready.elim

/-- An update is refused where nothing that it is about is cached. -/
theorem refused_faithful {c : Commit} {error : ServiceError} (settled : Settled validity state)
    (faithful : Faithful state g) (ready : Ready validity state g task c)
    (refused : c.run localeCompare fresh state = .error error) : Faithful state (g.recorded task) := by
  cases c with
  | synced accountId folders batches => exact clear_faithful faithful ready.2
  | flagged accountId folderPath uid patch uidValidity networkError =>
    obtain ⟨known, rfl, rfl, owes⟩ := ready
    obtain ⟨account, refused⟩ := known_bind known refused
    have absent := target_refused settled refused fun message => ⟨_, rfl⟩
    refine absent_faithful faithful owes fun key row member => flags_apart ?_
    rintro rfl rfl
    exact uncached absent row member rfl
  | moved accountId folderPath uid destination uidValidity moveResult networkError =>
    obtain ⟨known, rfl, rfl, -, owes⟩ := ready
    obtain ⟨account, refused⟩ := known_bind known refused
    have absent := target_refused settled refused fun message => ⟨_, rfl⟩
    refine absent_faithful faithful owes fun key row member => moved_apart ?_
    rintro rfl rfl
    exact uncached absent row member rfl
  | folderRead accountId folderPath =>
    obtain ⟨account, refused⟩ := known_bind ready.1 refused
    cases refused
  | delivered accountId outboxId sent => exact clear_faithful faithful ready
  | deliveryFailed outboxId => cases refused
  | _ => exact ready.elim

end Commits

section Answers

variable {task : Nat} {s s' : Overseen} {op : Op} {choice : Choice × Aside} {reply : Reply op}

theorem overseen_answer (answered : (overseen localeCompare).answer task op choice s = some (reply, s')) :
    (environment localeCompare).answer task op choice.1 s.1 = some (reply, s'.1) ∧
      s'.2 = oversee task op choice reply s.1 s.2 := by
  simp only [overseen, Environment.observed, Environment.aside, Option.map_eq_some_iff, Prod.exists] at answered
  obtain ⟨given, state, answered, same⟩ := answered
  cases same
  exact ⟨answered, rfl⟩

/-- An update changes nothing that the others rely on, and leaves nothing to be recorded. -/
theorem commit_overseen {c : Commit} {reply : Except ServiceError c.Result} (settled : Settled validity s.1.persisted)
    (ready : Ready validity s.1.persisted s.2 task c)
    (answered : (overseen localeCompare).answer task (.commit c) choice s = some (reply, s')) :
    (agreement validity).guar task s s' ∧ s'.1.persisted.accounts = s.1.persisted.accounts ∧ s'.2 = s.2.recorded task := by
  obtain ⟨answered, recorded⟩ := overseen_answer answered
  have recorded : s'.2 = s.2.recorded task := recorded
  rcases commit_answered answered with ⟨same, -⟩ | ⟨fresh, value, -, -, ran⟩
  · refine ⟨recorded_guar ?_ (by rw [same]) recorded, by rw [same], recorded⟩
    rw [same]
    exact settled
  · have accounts := commit_accounts ran
    exact ⟨recorded_guar (commit_settled settled ready ran) accounts recorded, accounts, recorded⟩

/-- Operations that leave what is cached and what the server has as they are. -/
def Calm : Op → Prop
  | .read | .enter _ _ | .leave _ | .runtimeAccount _ | .listFolders _ | .listMessages _ _ | .sendMessage _ _ _ _ => True
  | .commit (.delivered _ _ _) | .commit (.deliveryFailed _) => True
  | _ => False

theorem calm_demand (calm : Calm op) (clear : s.2.Clear task) : Demand validity task op s := by
  cases op with
  | commit c => cases c <;> first | exact clear | exact calm.elim
  | _ => trivial

theorem calm_answer (calm : Calm op) (settled : Settled validity s.1.persisted) (clear : s.2.Clear task)
    (answered : (overseen localeCompare).answer task op choice s = some (reply, s')) :
    (agreement validity).guar task s s' ∧ s'.1.persisted.accounts = s.1.persisted.accounts ∧ s'.2.Clear task := by
  by_cases isCommit : ∃ c, op = .commit c
  · obtain ⟨c, rfl⟩ := isCommit
    obtain ⟨guaranteed, accounts, recorded⟩ := commit_overseen settled (calm_demand calm clear) answered
    rw [recorded]
    exact ⟨guaranteed, accounts, recorded_clear s.2 task⟩
  · obtain ⟨answered, observed⟩ := overseen_answer answered
    have same : s'.1.persisted = s.1.persisted := by
      rcases answer_persisted answered with same | ⟨c, fresh, result, isUpdate, -⟩
      · exact same
      · exact absurd ⟨c, isUpdate⟩ isCommit
    have unseen : s'.2 = s.2 := by
      rw [observed]
      cases op with
      | commit c => exact absurd ⟨c, rfl⟩ isCommit
      | _ => first | exact calm.elim | rfl
    rw [unseen]
    exact ⟨same_guar settled same unseen, by rw [same], clear⟩

end Answers

section Rules

variable {task : Nat} {s : Overseen}

abbrev agrees (localeCompare : String → String → Ordering) (validity : FolderKey → Nat) (task : Nat) (p : Service α)
    (post : Except ServiceError α → Overseen → Prop) (s : Overseen) : Prop :=
  meets (overseen localeCompare) (agreement validity) task p post s

/-- What a task still knows after an operation of its own that changes nothing for it. -/
structure Idle (task : Nat) (s s' : Overseen) : Prop where
  accounts : s'.1.persisted.accounts = s.1.persisted.accounts
  clear : s'.2.Clear task

theorem Idle.trans {s' s'' : Overseen} (first : Idle task s s') (second : Idle task s' s'') : Idle task s s'' :=
  ⟨second.accounts.trans first.accounts, second.clear⟩

theorem Leaves.idle {s' : Overseen} (leaves : Leaves task s s') (clear : s.2.Clear task) : Idle task s s' :=
  ⟨leaves.accounts, leaves.clear clear⟩

theorem calm_call {op : Op} {next : Reply op → Service α} {post : Except ServiceError α → Overseen → Prop}
    (calm : Calm op) (clear : s.2.Clear task)
    (goes : ∀ choice reply s₁ s₂, (agreement validity).allowed task op choice s₁ → Settled validity s₁.1.persisted →
      (environment localeCompare).answer task op choice.1 s₁.1 = some (reply, s₂.1) → Idle task s s₂ →
      agrees localeCompare validity task (next reply) post s₂) :
    agrees localeCompare validity task (.call op next) post s := by
  intro s₁ leaves settled
  have clear₁ := leaves.clear clear
  refine ⟨calm_demand calm clear₁, fun choice reply s₂ allowed answered => ?_⟩
  obtain ⟨guaranteed, accounts, clear₂⟩ := calm_answer calm settled clear₁ answered
  refine ⟨guaranteed, goes choice reply s₁ s₂ allowed settled (overseen_answer answered).1 ?_⟩
  exact (leaves.idle clear).trans ⟨accounts, clear₂⟩

/-- A part of which nothing has to be known. -/
theorem calmly {p : Service α} {post : Except ServiceError α → Overseen → Prop} (uses : p.Uses Calm)
    (clear : s.2.Clear task) (ends : ∀ result s', Idle task s s' → post result s') :
    agrees localeCompare validity task p post s := by
  induction uses generalizing s with
  | done value => exact ends _ s ⟨rfl, clear⟩
  | throw error => exact ends _ s ⟨rfl, clear⟩
  | call op next ofKind rest ih =>
    refine calm_call ofKind clear fun choice reply s₁ s₂ _ _ _ idle => ?_
    exact ih reply idle.clear fun result s' later => ends result s' (idle.trans later)

theorem storeRead_agrees {post : Except ServiceError PersistedState → Overseen → Prop} (clear : s.2.Clear task)
    (reads : ∀ s', Idle task s s' → Settled validity s'.1.persisted → post (.ok s'.1.persisted) s') :
    agrees localeCompare validity task storeRead post s := by
  intro s₁ leaves settled
  refine ⟨trivial, fun choice reply s₂ _ answered => ?_⟩
  obtain ⟨answered, observed⟩ := overseen_answer answered
  obtain ⟨choice, aside⟩ := choice
  cases choice with
  | proceeds =>
    obtain ⟨rfl, same⟩ : s₁.1.persisted = reply ∧ s₁.1 = s₂.1 := by simpa [environment] using answered
    obtain rfl : s₂ = s₁ := Prod.ext same.symm observed
    exact ⟨same_guar settled rfl rfl, reads s₂ (leaves.idle clear) settled⟩
  | _ => cases answered

theorem require_agrees {result : Except ServiceError α} {post : Except ServiceError α → Overseen → Prop}
    (ends : post result s) : agrees localeCompare validity task (require result) post s := by
  cases result with
  | ok value => exact ends
  | error error => exact ends

theorem runtimeAccount_agrees {account : Account} {post : Except ServiceError Unit → Overseen → Prop}
    (clear : s.2.Clear task) (goes : ∀ s', Idle task s s' → post (.ok ()) s') :
    agrees localeCompare validity task (runtimeAccount account) post s := by
  refine calm_call trivial clear fun choice reply s₁ s₂ allowed _ answered idle => ?_
  obtain ⟨choice, aside⟩ := choice
  cases choice with
  | proceeds =>
    obtain rfl : Except.ok () = reply := congrArg Prod.fst (Option.some.inj answered)
    exact goes s₂ idle
  | refused error => exact allowed.elim
  | _ => cases answered

theorem update_agrees {c : Commit} {post : Except ServiceError c.Result → Overseen → Prop}
    (ready : ∀ s', Leaves task s s' → Ready validity s'.1.persisted s'.2 task c)
    (ends : ∀ result s', s'.2.Clear task → post result s') :
    agrees localeCompare validity task (update c) post s := by
  intro s₁ leaves settled
  refine ⟨ready s₁ leaves, fun choice reply s₂ _ answered => ?_⟩
  obtain ⟨guaranteed, -, recorded⟩ := commit_overseen settled (ready s₁ leaves) answered
  have clear : s₂.2.Clear task := by
    rw [recorded]
    exact recorded_clear s₁.2 task
  refine ⟨guaranteed, ?_⟩
  cases reply with
  | ok value => exact ends _ s₂ clear
  | error error => exact ends _ s₂ clear

/-- The call goes on with the account that it is for, if that exists. -/
theorem account_agrees {accountId : Identifier} {rest : PersistedState → Account → Service α}
    {post : Except ServiceError α → Overseen → Prop} (clear : s.2.Clear task)
    (notDemo : ¬ IsDemo s.1.persisted accountId) (refuses : ∀ error s', s'.2.Clear task → post (.error error) s')
    (goes : ∀ s' account, requireAccount s'.1.persisted accountId = .ok account → account.kind = .imap →
      Settled validity s'.1.persisted → s'.2.Clear task →
      agrees localeCompare validity task (rest s'.1.persisted account) post s') :
    agrees localeCompare validity task
      (do
        let state ← storeRead
        let account ← require (requireAccount state accountId)
        rest state account) post s := by
  refine meets_seq (storeRead_agrees clear fun s₁ idle settled => meets_seq (require_agrees ?_))
  cases found : requireAccount s₁.1.persisted accountId with
  | error error => exact refuses error s₁ idle.clear
  | ok account =>
    refine goes s₁ account found ?_ settled idle.clear
    cases kind : account.kind with
    | imap => rfl
    | demo =>
      have same : requireAccount s.1.persisted accountId = .ok account := by
        unfold requireAccount at found ⊢
        rw [← idle.accounts]
        exact found
      exact absurd ⟨account, same, kind⟩ notDemo

/-- An account that has been found is not lost. -/
theorem known_later {s' : Overseen} {accountId : Identifier} {account : Account}
    (found : requireAccount s.1.persisted accountId = .ok account)
    (accounts : s'.1.persisted.accounts = s.1.persisted.accounts) :
    (requireAccount s'.1.persisted accountId).isOk := by
  unfold requireAccount at found ⊢
  rw [accounts, found]
  rfl

end Rules

section Programs

variable {task : Nat} {s : Overseen}

theorem owes_does {g : Seen} (clear : g.Clear task) (action : Action) : (g.does task action).Owes task action := by
  intro entry member own
  rcases List.mem_cons.1 member with rfl | old
  · rfl
  · exact absurd own (clear entry old)

theorem does_leaves {s' : Overseen} (settled : Settled validity s.1.persisted) {reply : Reply op} {choice : Choice}
    (answered : (environment localeCompare).answer task op choice s.1 = some (reply, s'.1)) (quiet : ∀ c, op ≠ .commit c)
    {action : Action} (did : s'.2.unrecorded = (task, action) :: s.2.unrecorded) :
    (agreement validity).guar task s s' ∧ s'.1.persisted.accounts = s.1.persisted.accounts := by
  rcases answer_persisted answered with same | ⟨c, fresh, result, isUpdate, -⟩
  · exact ⟨does_guar settled same did, by rw [same]⟩
  · exact absurd isUpdate (quiet c)

theorem storeFlags_agrees {account : Account} {folderPath : FolderPath} {uid : Nat} {patch : FlagPatch}
    {uidValidity : Nat} {post : Except ServiceError Unit → Overseen → Prop} (clear : s.2.Clear task)
    (stores : ∀ s', s'.1.persisted.accounts = s.1.persisted.accounts →
      s'.2.Owes task (.flags (account.id, folderPath) uid patch) → post (.ok ()) s') :
    agrees localeCompare validity task (storeFlags .call account folderPath uid patch uidValidity) post s := by
  intro s₁ leaves settled
  have clear₁ := leaves.clear clear
  refine ⟨⟨rfl, clear₁⟩, fun choice reply s₂ allowed answered => ?_⟩
  obtain ⟨answered, observed⟩ := overseen_answer answered
  obtain ⟨choice, aside⟩ := choice
  cases choice with
  | flags stored result =>
    have isReply : result = reply := by
      simp only [environment, Option.ite_none_right_eq_some, Option.some.injEq, Prod.mk.injEq] at answered
      exact answered.2.1
    subst isReply
    cases result with
    | error failure => cases allowed
    | ok value =>
      have did : s₂.2.unrecorded = (task, .flags (account.id, folderPath) uid patch) :: s₁.2.unrecorded := by
        rw [observed]
        rfl
      obtain ⟨guaranteed, accounts⟩ := does_leaves settled answered (fun c => by simp) did
      refine ⟨guaranteed, stores s₂ (accounts.trans leaves.accounts) ?_⟩
      rw [observed]
      exact owes_does clear₁ _
  | _ => cases answered

theorem serverMove_agrees {account : Account} {folderPath destination : FolderPath} {uid uidValidity : Nat}
    {post : Except ServiceError MoveResult → Overseen → Prop} (clear : s.2.Clear task)
    (moves : ∀ result s', s'.1.persisted.accounts = s.1.persisted.accounts →
      (∀ destinationUid ∈ result.destinationUid,
        result.destinationUidValidity = some (validity (account.id, destination))) →
      s'.2.Owes task (.moved (account.id, folderPath) uid) → post (.ok result) s') :
    agrees localeCompare validity task (serverMove .call account folderPath uid destination uidValidity) post s := by
  intro s₁ leaves settled
  have clear₁ := leaves.clear clear
  refine ⟨⟨rfl, clear₁⟩, fun choice reply s₂ allowed answered => ?_⟩
  obtain ⟨answered, observed⟩ := overseen_answer answered
  obtain ⟨choice, aside⟩ := choice
  cases choice with
  | move result =>
    have isReply : result = reply := congrArg Prod.fst (Option.some.inj answered)
    subst isReply
    cases result with
    | error failure => exact allowed.elim
    | ok result =>
      have did : s₂.2.unrecorded = (task, .moved (account.id, folderPath) uid) :: s₁.2.unrecorded := by
        rw [observed]
        rfl
      obtain ⟨guaranteed, accounts⟩ := does_leaves settled answered (fun c => by simp) did
      refine ⟨guaranteed, moves result s₂ (accounts.trans leaves.accounts) (fun uid member => (allowed.2 uid member).2) ?_⟩
      rw [observed]
      exact owes_does clear₁ _
  | _ => cases answered

theorem serverMarkFolderRead_agrees {account : Account} {folderPath : FolderPath} {uidValidity : Nat}
    {post : Except ServiceError Nat → Overseen → Prop} (clear : s.2.Clear task)
    (marks : ∀ changed s', s'.1.persisted.accounts = s.1.persisted.accounts →
      (∃ left, s'.2.Owes task (.read (account.id, folderPath) left)) → post (.ok changed) s') :
    agrees localeCompare validity task (serverMarkFolderRead account folderPath uidValidity) post s := by
  intro s₁ leaves settled
  have clear₁ := leaves.clear clear
  refine ⟨clear₁, fun choice reply s₂ allowed answered => ?_⟩
  obtain ⟨answered, observed⟩ := overseen_answer answered
  obtain ⟨choice, aside⟩ := choice
  cases choice with
  | folderRead result =>
    have isReply : result = reply := congrArg Prod.fst (Option.some.inj answered)
    subst isReply
    cases result with
    | error failure => exact allowed.elim
    | ok changed =>
      have did : s₂.2.unrecorded = (task, .read (account.id, folderPath) aside.left) :: s₁.2.unrecorded := by
        rw [observed]
        rfl
      obtain ⟨guaranteed, accounts⟩ := does_leaves settled answered (fun c => by simp) did
      refine ⟨guaranteed, marks changed s₂ (accounts.trans leaves.accounts) ⟨aside.left, ?_⟩⟩
      rw [observed]
      exact owes_does clear₁ _
  | _ => cases answered

theorem listFolders_agrees {account : Account} {post : Except ServiceError (List FolderSummary) → Overseen → Prop}
    (clear : s.2.Clear task) (fails : ∀ error s', Idle task s s' → post (.error error) s')
    (lists : ∀ folders s', Idle task s s' →
      (∀ folder ∈ folders, ∀ uidValidity ∈ folder.uidValidity, uidValidity = validity (account.id, folder.path)) →
      post (.ok folders) s') :
    agrees localeCompare validity task (listFolders account) post s := by
  refine calm_call trivial clear fun choice reply s₁ s₂ allowed _ answered idle => ?_
  obtain ⟨choice, aside⟩ := choice
  cases choice with
  | folders result =>
    have isReply : result = reply := congrArg Prod.fst (Option.some.inj answered)
    subst isReply
    cases result with
    | error failure => exact fails _ s₂ idle
    | ok folders => exact lists folders s₂ idle allowed
  | _ => cases answered

theorem listMessages_agrees {account : Account} {paths : List FolderPath}
    {post : Except ServiceError (List (FolderPath × List MessageSummary)) → Overseen → Prop} (clear : s.2.Clear task)
    (fails : ∀ error s', Idle task s s' → post (.error error) s')
    (lists : ∀ batches s', Idle task s s' → (∀ batch ∈ batches, (batch.2.map (·.uid)).Nodup) →
      (∀ batch ∈ batches, ∀ row ∈ batch.2, row.uidValidity = some (validity (account.id, batch.1))) →
      post (.ok batches) s') :
    agrees localeCompare validity task (listMessages account paths) post s := by
  refine calm_call trivial clear fun choice reply s₁ s₂ allowed _ answered idle => ?_
  obtain ⟨choice, aside⟩ := choice
  cases choice with
  | messages result =>
    have isReply := congrArg Prod.fst (Option.some.inj answered)
    subst isReply
    cases result with
    | error failure => exact fails _ s₂ idle
    | ok rows =>
      refine lists _ s₂ idle (fun batch member => ?_) fun batch member row isRow => ?_
      · obtain ⟨path, isPath, rfl⟩ := List.mem_map.1 member
        have distinct := (allowed path isPath).1
        rw [List.map_map]
        exact distinct
      · obtain ⟨path, isPath, rfl⟩ := List.mem_map.1 member
        obtain ⟨listed, isListed, rfl⟩ := List.mem_map.1 isRow
        exact (allowed path isPath).2 listed isListed
  | _ => cases answered

theorem delivers_calm {op : Op} (delivers : Delivers op) : Calm op := by
  cases op with
  | commit c => cases c <;> trivial
  | _ => trivial

/-- Nothing is queued, so only the Outbox is gone through. -/
theorem replayPending_agrees {account : Account} {post : Except ServiceError Unit → Overseen → Prop}
    (clear : s.2.Clear task) (ends : ∀ result s', Idle task s s' → post result s') :
    agrees localeCompare validity task (replayPending localeCompare account) post s := by
  refine meets_seq (storeRead_agrees clear fun s₁ first settled => ?_)
  simp only [either_ok, settled.pending, List.filter_nil]
  refine meets_seq (meets_seq (storeRead_agrees first.clear fun s₂ second settled' => ?_))
  simp only [either_ok, settled'.pending, List.any_nil, Bool.false_eq_true, if_false]
  refine calmly ((replayOutbox_uses localeCompare account _).mono fun _ => delivers_calm) second.clear fun result s₃ third => ?_
  exact ends result s₃ ((first.trans second).trans third)

theorem withQueueFlight_agrees {accountId : Identifier} {work : QueueWork} {operation : Service α}
    {post : Except ServiceError α → Overseen → Prop} (clear : s.2.Clear task)
    (works : ∀ s₁, Idle task s s₁ → agrees localeCompare validity task operation (fun _ s₂ => Idle task s s₂) s₁)
    (ends : ∀ result s', Idle task s s' → post result s') :
    agrees localeCompare validity task (withQueueFlight accountId work operation) post s := by
  refine calm_call trivial clear fun choice reply s₁ s₂ _ _ _ idle => ?_
  cases reply with
  | false => exact ends _ s₂ idle
  | true =>
    refine meets_finally (meets_mono (works s₂ idle) fun result s₃ worked => ?_)
    refine calmly (.call _ _ trivial .done) worked.clear fun left s₄ later => ?_
    cases left with
    | ok _ => exact ends result s₄ (worked.trans later)
    | error error => exact ends _ s₄ (worked.trans later)

theorem syncAccount_agrees {accountId : Identifier} (clear : s.2.Clear task) (notDemo : ¬ IsDemo s.1.persisted accountId) :
    agrees localeCompare validity task (syncAccount localeCompare accountId) (fun _ s' => s'.2.Clear task) s := by
  refine account_agrees clear notDemo (fun error s' clear' => clear') fun s₁ account found isImap settled clear₁ => ?_
  obtain rfl := (requireAccount_ok found).2
  rw [isImap]
  refine meets_seq (runtimeAccount_agrees clear₁ fun s₂ second => ?_)
  have stores : agrees localeCompare validity task (do
      withQueueFlight account.id .replay (replayPending localeCompare account)
      let state ← storeRead
      let folders ← listFolders account
      let targets := folders.filter fun folder =>
        folder.role = .inbox ∨ some folder.path = state.selectedFolderPath
      let batches ← listMessages account (targets.map (·.path))
      update (.synced account.id folders batches)) (fun _ s' => s'.2.Clear task) s₂ := by
    refine meets_seq (withQueueFlight_agrees second.clear (fun s₃ third => ?_) fun result s₃ third => ?_)
    · exact replayPending_agrees third.clear fun result s₄ fourth => third.trans fourth
    cases result with
    | error error => exact third.clear
    | ok _ =>
      refine meets_seq (storeRead_agrees third.clear fun s₄ fourth settled' => ?_)
      refine meets_seq (listFolders_agrees fourth.clear (fun error s₅ fifth => fifth.clear) fun folders s₅ fifth listed => ?_)
      refine meets_seq (listMessages_agrees fifth.clear (fun error s₆ sixth => sixth.clear) ?_)
      intro batches s₆ sixth distinct rows
      exact update_agrees (fun s₇ leaves => ⟨⟨listed, distinct, rows⟩, leaves.clear sixth.clear⟩) fun _ _ clear' => clear'
  refine meets_catching (meets_mono stores fun result s₃ clear' => ?_)
  cases result with
  | ok _ => exact clear'
  | error error => exact clear'

/-- In a settled store, what may be acted on is of its mailbox's UIDVALIDITY. -/
theorem Settled.generation {state : PersistedState} {accountId : Identifier} {folderPath : FolderPath} {uid : Nat}
    {current : MessageSummary × Nat} (settled : Settled validity state)
    (found : requireCurrentMessage state accountId folderPath uid none = .ok current) :
    current.2 = validity (accountId, folderPath) := by
  obtain ⟨cached, isKnown, -, -⟩ := requireCurrentMessage_ok found
  have isRow := settled.rows (accountId, folderPath) current.1 (Keyed.get_eq_some cached).1
  rw [isRow] at isKnown
  exact (Option.some.inj isKnown).symm

theorem setMessageFlags_agrees {accountId : Identifier} {folderPath : FolderPath} {uid : Nat} {patch : FlagPatch}
    (clear : s.2.Clear task) (notDemo : ¬ IsDemo s.1.persisted accountId) :
    agrees localeCompare validity task (setMessageFlags accountId folderPath uid patch) (fun _ s' => s'.2.Clear task) s := by
  refine account_agrees clear notDemo (fun error s' clear' => clear') fun s₁ account found isImap settled clear₁ => ?_
  obtain rfl := (requireAccount_ok found).2
  rw [isImap]
  refine meets_seq (require_agrees ?_)
  cases target : requireCurrentMessage s₁.1.persisted account.id folderPath uid none with
  | error error => exact clear₁
  | ok current =>
    have isCurrent := settled.generation target
    refine meets_seq (meets_catching (meets_seq (runtimeAccount_agrees clear₁ fun s₂ second => ?_)))
    refine meets_seq (storeFlags_agrees second.clear fun s₃ accounts owes => ?_)
    refine update_agrees (fun s₄ leaves => ⟨?_, ?_, rfl, leaves.owes owes⟩) fun _ _ clear' => clear'
    · exact known_later found (leaves.accounts.trans (accounts.trans second.accounts))
    · exact congrArg some isCurrent

theorem moveMessage_agrees {accountId : Identifier} {folderPath destination : FolderPath} {uid : Nat}
    (clear : s.2.Clear task) (notDemo : ¬ IsDemo s.1.persisted accountId) :
    agrees localeCompare validity task (moveMessage accountId folderPath uid destination) (fun _ s' => s'.2.Clear task)
      s := by
  refine account_agrees clear notDemo (fun error s' clear' => clear') fun s₁ account found isImap settled clear₁ => ?_
  obtain rfl := (requireAccount_ok found).2
  rw [isImap]
  refine meets_seq (require_agrees ?_)
  cases target : requireCurrentMessage s₁.1.persisted account.id folderPath uid none with
  | error error => exact clear₁
  | ok current =>
    have isCurrent := settled.generation target
    refine meets_seq (meets_catching (meets_seq (runtimeAccount_agrees clear₁ fun s₂ second => ?_)))
    refine meets_seq (serverMove_agrees second.clear fun result s₃ accounts arrives owes => ?_)
    refine update_agrees (fun s₄ leaves => ⟨?_, ?_, rfl, ?_, leaves.owes owes⟩) fun _ _ clear' => clear'
    · exact known_later found (leaves.accounts.trans (accounts.trans second.accounts))
    · exact congrArg some isCurrent
    · intro moved isMoved
      cases isMoved
      exact arrives

theorem markFolderRead_agrees {accountId : Identifier} {folderPath : FolderPath} (clear : s.2.Clear task)
    (notDemo : ¬ IsDemo s.1.persisted accountId) :
    agrees localeCompare validity task (markFolderRead accountId folderPath) (fun _ s' => s'.2.Clear task) s := by
  refine account_agrees clear notDemo (fun error s' clear' => clear') fun s₁ account found isImap settled clear₁ => ?_
  obtain rfl := (requireAccount_ok found).2
  rw [isImap]
  dsimp only
  cases folderUidValidity s₁.1.persisted account.id folderPath with
  | none => exact clear₁
  | some uidValidity =>
    refine meets_seq (meets_catching (meets_seq (runtimeAccount_agrees clear₁ fun s₂ second => ?_)))
    refine serverMarkFolderRead_agrees second.clear fun changed s₃ accounts owes => ?_
    obtain ⟨left, owes⟩ := owes
    refine meets_seq (update_agrees (fun s₄ leaves => ⟨?_, left, leaves.owes owes⟩) fun result s₄ clear' => ?_)
    · exact known_later found (leaves.accounts.trans (accounts.trans second.accounts))
    · cases result with
      | ok _ => exact clear'
      | error error => exact clear'

theorem program_agrees (request : Request) (clear : s.2.Clear task) (starts : Starts request s.1.persisted) :
    agrees localeCompare validity task (request.program localeCompare) (fun _ s' => s'.2.Clear task) s := by
  cases request with
  | syncAccount accountId => exact syncAccount_agrees clear starts
  | setMessageFlags accountId folderPath uid patch => exact setMessageFlags_agrees clear starts
  | moveMessage accountId folderPath uid destination => exact moveMessage_agrees clear starts
  | markFolderRead accountId folderPath =>
    refine meets_seq (meets_mono (markFolderRead_agrees clear starts) fun result s' clear' => ?_)
    cases result with
    | ok _ => exact clear'
    | error error => exact clear'
  | _ => exact starts.elim

end Programs

section Runs

variable {task : Nat} {s s' : Overseen}

theorem commit_answer_faithful {c : Commit} {choice : Choice × Aside} {reply : Except ServiceError c.Result}
    (settled : Settled validity s.1.persisted) (ready : Ready validity s.1.persisted s.2 task c)
    (faithful : Faithful s.1.persisted s.2) (allowed : (currently validity).allowed task (.commit c) choice s)
    (answered : (overseen localeCompare).answer task (.commit c) choice s = some (reply, s')) :
    Faithful s'.1.persisted s'.2 := by
  obtain ⟨answered, recorded⟩ := overseen_answer answered
  have recorded : s'.2 = s.2.recorded task := recorded
  rw [recorded]
  rcases commit_answered answered with ⟨same, error, -, fails | ⟨fresh, -, refused⟩⟩ | ⟨fresh, value, -, -, ran⟩
  · have succeeds : Succeeds validity (.commit c) choice s.2 := allowed.1
    unfold Succeeds at succeeds
    rw [fails] at succeeds
    exact succeeds.elim
  · rw [same]
    exact refused_faithful settled faithful ready refused
  · exact commit_faithful settled faithful ready allowed.2 ran

/-- Whatever is answered, what is cached stays as the server has it. -/
theorem answer_faithful {op : Op} {choice : Choice × Aside} {reply : Reply op} (settled : Settled validity s.1.persisted)
    (demanded : Demand validity task op s) (faithful : Faithful s.1.persisted s.2)
    (allowed : (currently validity).allowed task op choice s)
    (answered : (overseen localeCompare).answer task op choice s = some (reply, s')) : Faithful s'.1.persisted s'.2 := by
  by_cases isCommit : ∃ c, op = .commit c
  · obtain ⟨c, rfl⟩ := isCommit
    exact commit_answer_faithful settled demanded faithful allowed answered
  obtain ⟨answered, observed⟩ := overseen_answer answered
  have same : s'.1.persisted = s.1.persisted := by
    rcases answer_persisted answered with same | ⟨c, fresh, result, isUpdate, -⟩
    · exact same
    · exact absurd ⟨c, isUpdate⟩ isCommit
  rw [observed, same]
  cases op with
  | commit c => exact absurd ⟨c, rfl⟩ isCommit
  | setFlags origin account folderPath uid patch uidValidity =>
    cases reply with
    | error failure => exact faithful
    | ok value => exact does_faithful faithful task _
  | moveMessage origin account folderPath uid destination uidValidity =>
    obtain ⟨choice, aside⟩ := choice
    cases choice with
    | move result =>
      have isReply : result = reply := congrArg Prod.fst (Option.some.inj answered)
      subst isReply
      cases result with
      | error failure => exact faithful
      | ok result =>
        have isNew : s.2.mailboxes (account.id, destination) aside.uid = none := allowed.1.1
        refine arrived_faithful (does_faithful faithful task _) ?_ _
        by_cases sameKey : (account.id, destination) = (account.id, folderPath)
        · by_cases sameUid : aside.uid = uid
          · simp [Seen.does, Mailboxes.after, sameKey, sameUid]
          · rw [sameKey] at isNew ⊢
            simpa [Seen.does, Mailboxes.after, sameUid] using isNew
        · simpa [Seen.does, Mailboxes.after, Function.update_of_ne sameKey] using isNew
    | _ => cases answered
  | markFolderRead account folderPath uidValidity =>
    cases reply with
    | error failure => exact faithful
    | ok changed => exact does_faithful faithful task _
  | setMessageKeywords account folderPath uid names uidValidity => exact demanded.elim
  | getMessage account folderPath uid uidValidity => exact demanded.elim
  | authorizeDraft draft persistedDraft requireExistingFiles => exact demanded.elim
  | _ => exact faithful

/-- Synchronizations, flag changes, moves and folders marked as read overlap as they like, and all of them
succeed. As long as each update records what the server has when it runs, all that is cached is as the server has
it, as far as no change is still to be recorded; and once all is over, all of it is. -/
theorem cache_agrees (localeCompare : String → String → Ordering) (validity : FolderKey → Nat) (s : Overseen)
    (settled : Settled validity s.1.persisted) (faithful : Faithful s.1.persisted s.2) (nothing : s.2.unrecorded = [])
    (events : List (Event Request (Choice × Aside))) (w : World Op Reply ServiceError Overseen)
    (admitted : World.Admitted (overseen localeCompare) (currently validity) (Request.program localeCompare) ⟨s, []⟩ events)
    (ran : World.run (overseen localeCompare) (Request.program localeCompare) ⟨s, []⟩ events = some w) :
    Faithful w.state.1.persisted w.state.2 ∧
      (w.Finished → ∀ key, ∀ row ∈ w.state.1.persisted.messages key,
        ∃ flags ∈ w.state.2.mailboxes key row.uid, ∀ aspect, row.flag aspect = flags.of aspect) := by
  have clear : ∀ task, s.2.Clear task := by
    intro task entry member
    rw [nothing] at member
    cases member
  obtain ⟨kept, faithful⟩ := run_invariant (C := agreement validity) (D := currently validity) agreement_lawful
    (fun task request s _ clear starts => program_agrees request clear starts) (fun _ _ starts => starts)
    (fun _ _ _ _ allowed => allowed.1) (P := fun s => Faithful s.1.persisted s.2)
    (fun task op choice reply s s' inv demanded faithful allowed answered =>
      answer_faithful inv demanded faithful allowed answered)
    (idle_kept settled clear) faithful admitted ran
  refine ⟨faithful, fun finished key row member => ?_⟩
  have nothingLeft : w.state.2.unrecorded = [] :=
    List.eq_nil_iff_forall_not_mem.2 fun entry isEntry => kept.finished finished entry.1 entry isEntry rfl
  have shows := faithful key row member
  rw [nothingLeft] at shows
  exact shows.settled

/-- A store with one unread message, and a server that has it. -/
def unreadMail : Overseen :=
  (.initial oneMessage,
    ⟨fun key uid => if key = (someAccount.id, inboxPath) ∧ uid = 1 then some ⟨true, false⟩ else none, []⟩)

/-- A message is marked as read while a synchronization lists it. -/
def readWhileListing : List (Event Request (Choice × Aside)) :=
  [.start (.syncAccount someAccount.id), .act 0 (.proceeds, ⟨0, []⟩), .act 0 (.proceeds, ⟨0, []⟩), .act 0 (.proceeds, ⟨0, []⟩),
    .act 0 (.proceeds, ⟨0, []⟩), .act 0 (.proceeds, ⟨0, []⟩), .act 0 (.proceeds, ⟨0, []⟩), .act 0 (.proceeds, ⟨0, []⟩),
    .act 0 (.folders (.ok [⟨inboxPath, .inbox, 1, some 7⟩]), ⟨0, []⟩),
    .start (.setMessageFlags someAccount.id inboxPath 1 ⟨some false, none⟩), .act 1 (.proceeds, ⟨0, []⟩),
    .act 0 (.messages (.ok fun _ => [someMessage]), ⟨0, []⟩), .act 1 (.proceeds, ⟨0, []⟩),
    .act 1 (.flags ⟨some false, none⟩ (.ok ()), ⟨0, []⟩), .act 0 (.draws ⟨"0", zero_filled⟩, ⟨0, []⟩),
    .act 1 (.draws ⟨"1", one_filled⟩, ⟨0, []⟩)]

instance (state : PersistedState) (accountId : Identifier) : Decidable (IsDemo state accountId) :=
  decidable_of_iff ((requireAccount state accountId).toOption.any (·.kind = .demo) = true) <| by
    unfold IsDemo
    cases requireAccount state accountId with
    | ok account => simp [Except.toOption]
    | error error => simp [Except.toOption]

instance (request : Request) (state : PersistedState) : Decidable (Starts request state) := by
  unfold Starts
  split <;> infer_instance

instance (validity : FolderKey → Nat) (op : Op) (choice : Choice × Aside) (g : Seen) :
    Decidable (Succeeds validity op choice g) := by
  unfold Succeeds
  split <;> infer_instance

instance (state : PersistedState) (g : Seen) (task : Nat) (c : Commit) : Decidable (Current state g task c) := by
  unfold Current
  split <;> infer_instance

instance (validity : FolderKey → Nat) (request : Request) (s : Overseen) :
    Decidable ((currently validity).starts request s) := inferInstanceAs (Decidable (Starts request s.1.persisted))

instance (validity : FolderKey → Nat) (task : Nat) (op : Op) (choice : Choice × Aside) (s : Overseen) :
    Decidable ((currently validity).allowed task op choice s) := by
  unfold currently
  dsimp only
  cases op <;> infer_instance

theorem readWhileListing_agrees :
    ∃ w, World.run (overseen compare) (Request.program compare) ⟨unreadMail, []⟩ readWhileListing = some w ∧ w.Finished ∧
      ∀ key, ∀ row ∈ w.state.1.persisted.messages key,
        ∃ flags ∈ w.state.2.mailboxes key row.uid, ∀ aspect, row.flag aspect = flags.of aspect := by
  have ran : (World.run (overseen compare) (Request.program compare) ⟨unreadMail, []⟩ readWhileListing).isSome := by decide
  obtain ⟨w, ran⟩ := Option.isSome_iff_exists.1 ran
  have admitted : World.Admitted (overseen compare) (currently fun _ => 7) (Request.program compare) ⟨unreadMail, []⟩
      readWhileListing := by decide
  have finished : ∀ w ∈ World.run (overseen compare) (Request.program compare) ⟨unreadMail, []⟩ readWhileListing,
      w.Finished := by decide
  have settled : Settled (fun _ => 7) unreadMail.1.persisted := by
    refine ⟨rfl, fun key => ?_, fun key row member => ?_, fun accountId folder member uidValidity isValidity => ?_⟩
    · by_cases isInbox : key = (someAccount.id, inboxPath) <;> simp [unreadMail, State.initial, oneMessage, isInbox]
    · by_cases isInbox : key = (someAccount.id, inboxPath)
      · simp only [unreadMail, State.initial, oneMessage, if_pos isInbox, List.mem_singleton] at member
        rw [member]
        rfl
      · simp [unreadMail, State.initial, oneMessage, isInbox] at member
    · by_cases isAccount : accountId = someAccount.id
      · simp only [unreadMail, State.initial, oneMessage, if_pos isAccount, List.mem_singleton] at member
        rw [member] at isValidity
        exact (Option.some.inj isValidity).symm
      · simp [unreadMail, State.initial, oneMessage, isAccount] at member
  have faithful : Faithful unreadMail.1.persisted unreadMail.2 := by
    intro key row member
    by_cases isInbox : key = (someAccount.id, inboxPath)
    · simp only [unreadMail, State.initial, oneMessage, if_pos isInbox, List.mem_singleton] at member
      subst isInbox member
      exact Or.inr ⟨⟨true, false⟩, rfl, fun aspect => by cases aspect <;> exact Or.inl rfl⟩
    · simp [unreadMail, State.initial, oneMessage, isInbox] at member
  exact ⟨w, ran, finished w ran, (cache_agrees compare _ unreadMail settled faithful rfl _ w admitted ran).2 (finished w ran)⟩

end Runs

end AppService.Overlap
