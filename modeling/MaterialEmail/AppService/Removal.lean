import MaterialEmail.AppService.Ownership

/-! Accounts are removed while other operations run. Only one operation brings an account's data back. -/
namespace AppService.Folders

open Interrupted Interleaved Fallible

variable {localeCompare : String → String → Ordering}

/-- Updates store what they store where it belongs. -/
def Asked : Op ⊕ FolderOp → Prop
  | .inl (.commit c) => Placed c
  | .inr (.change c) => c.Placed
  | _ => True

def MailAsked (op : Op) : Prop := Asked (.inl op)

theorem quiet_asked {op : Op} (quiet : Quiet op) : MailAsked op := by
  cases op with
  | commit c =>
    cases c with
    | synced accountId folders batches => exact quiet.elim
    | opened accountId folderPath uid uidValidity detail => exact quiet.elim
    | _ => trivial
  | _ => trivial

section Mail

variable {task : Nat} {s : State}

abbrev asks (localeCompare : String → String → Ordering) (task : Nat) (p : Service α)
    (post : Except ServiceError α → State → Prop) (s : State) : Prop :=
  meets (AppService.environment localeCompare) (asking MailAsked : Contract Op Request Choice State) task p post s

theorem storeRead_asks {post : Except ServiceError PersistedState → State → Prop}
    (reads : ∀ state s', post (.ok state) s') : asks localeCompare task storeRead post s :=
  fun _ _ _ => ⟨trivial, fun _ state s' _ _ => ⟨trivial, reads state s'⟩⟩

theorem require_asks {result : Except ServiceError α} {post : Except ServiceError α → State → Prop}
    (ends : ∀ s', post result s') : asks localeCompare task (require result) post s := by
  cases result with
  | ok value => exact ends s
  | error error => exact ends s

/-- A part of which nothing has to be known. -/
theorem quietly_asks {p : Service α} {post : Except ServiceError α → State → Prop} (quiet : p.Uses Quiet)
    (ends : ∀ result s', post result s') : asks localeCompare task p post s :=
  meets_mono (uses_asks (quiet.mono fun _ => quiet_asked)) fun result s' _ => ends result s'

theorem listMessages_asks {account : Account} {paths : List FolderPath}
    {post : Except ServiceError (List (FolderPath × List MessageSummary)) → State → Prop}
    (fails : ∀ error s', post (.error error) s')
    (lists : ∀ batches s', (∀ batch ∈ batches, batch.1 ∈ paths ∧
      ∀ row ∈ batch.2, row.accountId = account.id ∧ row.folderPath = batch.1) → post (.ok batches) s') :
    asks localeCompare task (AppService.listMessages account paths) post s := by
  intro s' _ _
  refine ⟨trivial, fun choice reply s'' _ answered => ⟨trivial, ?_⟩⟩
  cases choice with
  | messages result =>
    cases result with
    | error failure =>
      cases answered
      exact fails _ _
    | ok rows =>
      cases answered
      refine lists _ _ fun batch member => ?_
      obtain ⟨path, isPath, rfl⟩ := List.mem_map.1 member
      refine ⟨isPath, fun row isRow => ?_⟩
      obtain ⟨listed, -, rfl⟩ := List.mem_map.1 isRow
      exact ⟨rfl, rfl⟩
  | _ => cases answered

theorem fetchMessage_asks {account : Account} {folderPath : FolderPath} {uid uidValidity : Nat}
    {post : Except ServiceError MessageDetail → State → Prop} (fails : ∀ error s', post (.error error) s')
    (fetches : ∀ detail s', detail.accountId = account.id ∧ detail.folderPath = folderPath → post (.ok detail) s') :
    asks localeCompare task (fetchMessage account folderPath uid uidValidity) post s := by
  intro s' _ _
  refine ⟨trivial, fun choice reply s'' _ answered => ⟨trivial, ?_⟩⟩
  cases choice with
  | detail result =>
    cases result with
    | error failure =>
      cases answered
      exact fails _ _
    | ok detail =>
      cases answered
      refine fetches _ _ ?_
      exact ⟨rfl, rfl⟩
  | _ => cases answered

theorem update_asks {c : Commit} {post : Except ServiceError c.Result → State → Prop} (placed : Placed c)
    (ends : ∀ result s', post result s') : asks localeCompare task (update c) post s :=
  meets_mono (uses_asks (update_uses placed)) fun result s' _ => ends result s'

theorem syncAccount_asks (accountId : Identifier) :
    asks localeCompare task (syncAccount localeCompare accountId) (fun _ _ => True) s := by
  refine meets_seq (storeRead_asks fun state s₁ => meets_seq (require_asks fun s₂ => ?_))
  cases found : requireAccount state accountId with
  | error error => trivial
  | ok account =>
    obtain rfl := (requireAccount_ok found).2
    simp only [either_ok]
    split
    · trivial
    refine meets_seq (quietly_asks (runtimeAccount_uses account trivial) fun result s₃ => ?_)
    cases result with
    | error error => trivial
    | ok _ =>
      have stores : asks localeCompare task (do
          withQueueFlight account.id .replay (replayPending localeCompare account)
          let state ← storeRead
          let folders ← AppService.listFolders account
          let targets := folders.filter fun folder =>
            folder.role = .inbox ∨ some folder.path = state.selectedFolderPath
          let batches ← AppService.listMessages account (targets.map (·.path))
          update (.synced account.id folders batches)) (fun _ _ => True) s₃ := by
        refine meets_seq (quietly_asks (withQueueFlight_quiet (replayPending_quiet localeCompare account)) fun result s₄ => ?_)
        cases result with
        | error error => trivial
        | ok _ =>
          refine meets_seq (storeRead_asks fun state s₅ => meets_seq ?_)
          refine quietly_asks (listFolders_uses account trivial) fun result s₆ => ?_
          cases result with
          | error error => trivial
          | ok folders =>
            refine meets_seq (listMessages_asks (fun _ _ => trivial) fun batches s₇ listed => ?_)
            exact update_asks (fun batch member => (listed batch member).2) fun _ _ => trivial
      refine meets_catching (meets_mono stores fun result s₄ _ => ?_)
      cases result <;> trivial

theorem getMessage_asks (accountId : Identifier) (folderPath : FolderPath) (uid : Nat) :
    asks localeCompare task (getMessage accountId folderPath uid) (fun _ _ => True) s := by
  refine meets_seq (storeRead_asks fun state s₁ => meets_seq (require_asks fun s₂ => ?_))
  cases found : requireAccount state accountId with
  | error error => trivial
  | ok account =>
    obtain rfl := (requireAccount_ok found).2
    simp only [either_ok]
    split
    · trivial
    · trivial
    refine meets_seq (require_asks fun s₃ => ?_)
    cases requireCurrentMessage state account.id folderPath uid none with
    | error error => trivial
    | ok current =>
      simp only [either_ok]
      split
      · trivial
      refine meets_seq (require_asks fun s₄ => ?_)
      cases assertMimeSourceSize current.1.size with
      | error error => trivial
      | ok _ =>
        refine meets_seq (quietly_asks (runtimeAccount_uses account trivial) fun result s₅ => ?_)
        cases result with
        | error error => trivial
        | ok _ =>
          refine meets_seq (fetchMessage_asks (fun _ _ => trivial) fun detail s₆ placed => ?_)
          refine meets_seq (update_asks placed fun result s₇ => ?_)
          cases result <;> trivial

theorem program_asks (request : Request) :
    asks localeCompare task (request.program localeCompare) (fun _ _ => True) s := by
  by_cases isSync : ∃ accountId, request = .syncAccount accountId
  · obtain ⟨accountId, rfl⟩ := isSync
    exact syncAccount_asks accountId
  by_cases isGet : ∃ accountId folderPath uid, request = .getMessage accountId folderPath uid
  · obtain ⟨accountId, folderPath, uid, rfl⟩ := isGet
    refine meets_seq (meets_mono (getMessage_asks accountId folderPath uid) fun result s' _ => ?_)
    cases result <;> trivial
  · have quiet := program_quiet localeCompare request (fun accountId same => isSync ⟨accountId, same⟩)
      fun accountId folderPath uid same => isGet ⟨accountId, folderPath, uid, same⟩
    exact quietly_asks quiet fun _ _ => trivial

end Mail

section Folders

theorem mail_uses {p : Service α} (quiet : p.Uses Quiet) : (mail p).Uses Asked := quiet.among fun _ => quiet_asked

theorem change_uses {c : Change} (placed : c.Placed) : (change c).Uses Asked :=
  .call _ _ placed fun reply => mail_uses (orThrow_uses id reply)

theorem refreshFolders_uses (accountId : Identifier) : (refreshFolders accountId).Uses Asked := by
  refine (mail_uses (storeRead_uses trivial)).bind fun state => (mail_uses (require_uses _)).bind fun account => ?_
  refine (mail_uses (runtimeAccount_uses account trivial)).bind fun _ => ?_
  exact (mail_uses (listFolders_uses account trivial)).bind fun folders => change_uses (c := .foldersRefreshed accountId folders) trivial

theorem onServer_uses {account : Account} {request : FolderService Unit} (asked : request.Uses Asked) :
    (onServer account request).Uses Asked := by
  refine Program.Uses.catching ?_ fun error => .throw _
  exact (mail_uses (runtimeAccount_uses account trivial)).bind fun _ => asked

theorem serverRequest_uses (op : FolderOp) (answered : FolderReply op → Except MailFailure Unit)
    (asked : Asked (.inr op)) : (serverRequest op answered).Uses Asked :=
  .call _ _ asked fun _ => mail_uses (orThrow_uses .mail _)

theorem createFolder_uses (accountId : Identifier) (folderPath : FolderPath) :
    (createFolder accountId folderPath).Uses Asked := by
  refine (mail_uses (storeRead_uses trivial)).bind fun state => (mail_uses (require_uses _)).bind fun account => ?_
  refine (mail_uses (require_uses _)).bind fun _ => ?_
  exact (onServer_uses (serverRequest_uses (.createFolder account folderPath) _ trivial)).bind fun _ => refreshFolders_uses accountId

theorem renameFolder_uses (accountId : Identifier) (folderPath : FolderPath) (name : Identifier) :
    (renameFolder accountId folderPath name).Uses Asked := by
  refine (mail_uses (storeRead_uses trivial)).bind fun state => (mail_uses (require_uses _)).bind fun account => ?_
  refine (mail_uses (require_uses _)).bind fun _ => ?_
  dsimp only
  split
  · exact .done ()
  · refine (onServer_uses (serverRequest_uses (.renameFolder account folderPath _) _ trivial)).bind fun _ => ?_
    exact (change_uses (c := .folderRenamed accountId folderPath _) trivial).bind fun _ => refreshFolders_uses accountId

theorem deleteFolder_uses (accountId : Identifier) (folderPath : FolderPath) :
    (deleteFolder accountId folderPath).Uses Asked := by
  refine (mail_uses (storeRead_uses trivial)).bind fun state => (mail_uses (require_uses _)).bind fun account => ?_
  refine (mail_uses (require_uses _)).bind fun _ => (mail_uses (require_uses _)).bind fun _ => ?_
  refine (onServer_uses (serverRequest_uses (.deleteFolder account folderPath) _ trivial)).bind fun _ => ?_
  exact (change_uses (c := .folderDeleted accountId folderPath) trivial).bind fun _ => refreshFolders_uses accountId

variable {task : Nat} {s : Store}

abbrev allAsk (localeCompare : String → String → Ordering) (task : Nat) (p : FolderService α)
    (post : Except ServiceError α → Store → Prop) (s : Store) : Prop :=
  meets (environment localeCompare)
    (asking Asked : Contract (Op ⊕ FolderOp) (Request ⊕ FolderRequest) (Choice ⊕ FolderChoice) Store) task p post s

theorem mail_asks {p : Service α} {post : Except ServiceError α → Store → Prop}
    (asked : asks localeCompare task p (fun result _ => ∀ s', post result s') s.1) :
    allAsk localeCompare task (mail p) post s := by
  have observed : meets ((AppService.environment localeCompare).observed noteEntries)
      (asking MailAsked : Contract Op Request Choice Store) task p (fun result _ => ∀ s', post result s') s :=
    meets_observed asked
  have among : allAsk localeCompare task (mail p) (fun result _ => ∀ s', post result s') s :=
    meets_among (fun _ isAsked => isAsked) observed
  exact meets_mono among fun result s' ends => ends s'

theorem listMessages_places (accountId : Identifier) (folderPath : FolderPath) :
    allAsk localeCompare task (listMessages accountId folderPath) (fun _ _ => True) s := by
  intro s₁ _ _
  refine ⟨trivial, fun choice reply s₂ _ _ => ⟨trivial, ?_⟩⟩
  obtain ⟨state, entries⟩ : PersistedState × Entries := reply
  refine meets_seq (mail_asks (require_asks fun _ s₃ => ?_))
  cases found : requireAccount state accountId with
  | error error => trivial
  | ok account =>
    obtain rfl := (requireAccount_ok found).2
    simp only [either_ok]
    split
    · trivial
    split
    · trivial
    refine meets_seq (mail_asks (quietly_asks (runtimeAccount_uses account trivial) fun result _ s₄ => ?_))
    cases result with
    | error error => trivial
    | ok _ =>
      refine meets_seq (mail_asks (listMessages_asks (fun _ _ _ => trivial) fun batches _ listed s₅ => ?_))
      have placed : Change.Placed (.folderListed account.id folderPath (batches.flatMap (·.2))) := by
        intro row member
        obtain ⟨batch, isBatch, isRow⟩ := List.mem_flatMap.1 member
        obtain ⟨isPath, rows⟩ := listed batch isBatch
        obtain ⟨isAccount, isFolder⟩ := rows row isRow
        exact ⟨isAccount, isFolder.trans (by simpa using isPath)⟩
      exact uses_asks (change_uses placed)

theorem all_ask (request : Request ⊕ FolderRequest) :
    allAsk localeCompare task (program localeCompare request) (fun _ _ => True) s := by
  cases request with
  | inl request => exact mail_asks (meets_mono (program_asks request) fun _ _ _ _ => trivial)
  | inr request =>
    cases request with
    | removeAccount accountId => exact uses_asks (change_uses (c := .accountRemoved accountId) trivial)
    | listMessages accountId folderPath => exact listMessages_places accountId folderPath
    | createFolder accountId folderPath => exact uses_asks (createFolder_uses accountId folderPath)
    | renameFolder accountId folderPath name => exact uses_asks (renameFolder_uses accountId folderPath name)
    | deleteFolder accountId folderPath => exact uses_asks (deleteFolder_uses accountId folderPath)

end Folders

section Runs

/-- `markFolderRead` stores for the demonstration account only while that account is there. -/
def accountFound : Conditions (Op ⊕ FolderOp) (Request ⊕ FolderRequest) (Choice ⊕ FolderChoice) Store where
  starts _ _ := True
  allowed _ op choice s := match op, choice with
    | .inl (.commit (.demoFolderRead accountId _)), .inl (.draws _) => HasAccount s.1.persisted accountId
    | _, _ => True

instance (request : Request ⊕ FolderRequest) (s : Store) : Decidable (accountFound.starts request s) := .isTrue trivial

instance (task : Nat) (op : Op ⊕ FolderOp) (choice : Choice ⊕ FolderChoice) (s : Store) :
    Decidable (accountFound.allowed task op choice s) := by
  unfold accountFound
  dsimp only
  split <;> infer_instance

variable {task : Nat} {s s' : Store}

theorem commit_owned {c : Commit} {fresh : Identifier} {result : c.Result} {state state' : State} {entries : Entries}
    (owned : Owned (state, entries)) (placed : Placed c)
    (found : ∀ accountId folderPath, c = .demoFolderRead accountId folderPath → HasAccount state.persisted accountId)
    (ran : c.run localeCompare fresh state.persisted = .ok (state'.persisted, result)) :
    Owned (state', noted c state.persisted entries) := by
  have isKnown : ∀ accountId ∈ accountOf c, HasAccount state.persisted accountId := by
    by_cases isDemo : ∃ accountId folderPath, c = .demoFolderRead accountId folderPath
    · obtain ⟨accountId, folderPath, rfl⟩ := isDemo
      intro other isAccount
      cases isAccount
      exact found accountId folderPath rfl
    · exact commit_known ran fun accountId folderPath same => isDemo ⟨accountId, folderPath, same⟩
  have holdings := commit_holdings owned placed isKnown ran
  have same : HasAccount state'.persisted = HasAccount state.persisted := by
    funext accountId
    unfold HasAccount
    rw [commit_accounts ran]
  unfold Owned
  rw [same]
  exact holdings

theorem mail_answer_owned {op : Op} {choice : Choice} {reply : Reply op} (asked : MailAsked op) (owned : Owned s)
    (allowed : accountFound.allowed task (.inl op) (.inl choice) s)
    (answered : ((AppService.environment localeCompare).observed noteEntries).answer task op choice s =
      some (reply, s')) : Owned s' := by
  obtain ⟨state, entries⟩ := s
  simp only [Environment.observed, Option.map_eq_some_iff, Prod.exists] at answered
  obtain ⟨given, state', answered, same⟩ := answered
  cases same
  cases op with
  | commit c =>
    rcases commit_answered answered with ⟨same, error, rfl, -⟩ | ⟨fresh, value, rfl, rfl, ran⟩
    · show Holdings (HasAccount state'.persisted) state'.persisted entries
      rw [same]
      exact owned
    · exact commit_owned owned asked (fun accountId folderPath isDemo => by cases isDemo; exact allowed) ran
  | _ =>
    rcases answer_persisted answered with same | ⟨c, fresh, result, isCommit, -⟩
    · show Holdings (HasAccount state'.persisted) state'.persisted entries
      rw [same]
      exact owned
    · cases isCommit

theorem folder_answer_owned (task : Nat) {op : FolderOp} {choice : FolderChoice} {reply : FolderReply op} (asked : Asked (.inr op))
    (owned : Owned s) (answered : folderEnvironment.answer task op choice s = some (reply, s')) : Owned s' := by
  cases op with
  | change c =>
    cases choice with
    | proceeds =>
      simp only [folderEnvironment] at answered
      split at answered
      · rename_i persisted entries ran
        cases answered
        exact change_owned owned asked ran
      · cases answered
        exact owned
    | storeFails =>
      cases answered
      exact owned
    | server result => cases answered
  | _ =>
    cases choice <;> cases answered
    exact owned

theorem answer_owned {op : Op ⊕ FolderOp} {choice : Choice ⊕ FolderChoice} {reply : Sum.elim Reply FolderReply op}
    (asked : Asked op) (owned : Owned s) (allowed : accountFound.allowed task op choice s)
    (answered : (environment localeCompare).answer task op choice s = some (reply, s')) : Owned s' := by
  cases op with
  | inl op =>
    cases choice with
    | inl choice => exact mail_answer_owned asked owned allowed answered
    | inr choice => cases answered
  | inr op =>
    cases choice with
    | inl choice => cases answered
    | inr choice => exact folder_answer_owned task asked owned answered

theorem accountRemoved_same {accountId : Identifier} {choice : Choice ⊕ FolderChoice} {reply : Except ServiceError Unit}
    (answered : (environment localeCompare).answer task (.inr (.change (.accountRemoved accountId))) choice s =
      some (reply, s')) {other : Identifier} (isOther : other ≠ accountId) : SameFor other s s' := by
  cases choice with
  | inl choice => cases answered
  | inr choice =>
    cases choice with
    | proceeds =>
      simp only [environment, Environment.sum, folderEnvironment, Change.run] at answered
      cases found : s.1.persisted.accounts.find? fun account => account.id = accountId with
      | none =>
        simp only [found] at answered
        cases answered
        exact SameFor.refl other s
      | some account =>
        simp only [found] at answered
        cases answered
        exact removed_same isOther
    | storeFails =>
      cases answered
      exact SameFor.refl other s
    | server result => cases answered

/-- Whatever runs while accounts are removed, what is stored belongs to accounts that are there, as long as
`markFolderRead` stores for the demonstration account only while that account is there. A removal leaves all
that is stored for other accounts as it is. -/
theorem stored_data_owned (localeCompare : String → String → Ordering) (s : Store) (owned : Owned s)
    (events : List (Event (Request ⊕ FolderRequest) (Choice ⊕ FolderChoice)))
    (w : World (Op ⊕ FolderOp) (Sum.elim Reply FolderReply) ServiceError Store)
    (admitted : World.Admitted (environment localeCompare) accountFound (program localeCompare) ⟨s, []⟩ events)
    (ran : World.run (environment localeCompare) (program localeCompare) ⟨s, []⟩ events = some w) :
    Owned w.state ∧
      ∀ task accountId choice reply s', (environment localeCompare).answer task (.inr (.change (.accountRemoved accountId)))
        choice w.state = some (reply, s') → ∀ other, other ≠ accountId → SameFor other w.state s' := by
  refine ⟨?_, fun task accountId choice reply s' answered other isOther => accountRemoved_same answered isOther⟩
  have lawful : (asking Asked : Contract (Op ⊕ FolderOp) (Request ⊕ FolderRequest) (Choice ⊕ FolderChoice) Store).Lawful :=
    asking_lawful Asked
  refine (run_invariant lawful (fun task request s _ _ _ => all_ask request) (fun _ _ _ => trivial)
    (fun _ _ _ _ _ => trivial) (fun task op choice reply s s' _ asked owned allowed answered => ?_)
    (idle_kept trivial fun _ => trivial) owned admitted ran).2
  exact answer_owned asked owned allowed answered

/-- One account with a message in its inbox. -/
def accountStore (account : Account) : Store :=
  (.initial { oneMessage with
      accounts := [account]
      folders := fun accountId => if accountId = account.id then [⟨inboxPath, .inbox, 1, some 7⟩] else []
      messages := fun key => if key = (account.id, inboxPath) then [{ someMessage with accountId := account.id }] else [] },
    ⟨some account.id, fun accountId => accountId = account.id, fun key => key = (account.id, inboxPath)⟩)

theorem accountStore_owned (account : Account) : Owned (accountStore account) where
  folders accountId present := ⟨account, List.mem_singleton_self _, (of_decide_eq_true present).symm⟩
  summaries accountId nonempty := by
    by_cases same : accountId = account.id
    · exact decide_eq_true same
    · simp [accountStore, State.initial, same] at nonempty
  messages key present := by
    have isKey : key = (account.id, inboxPath) := of_decide_eq_true present
    exact ⟨account, List.mem_singleton_self _, by rw [isKey]⟩
  rows key row member := by
    by_cases isKey : key = (account.id, inboxPath)
    · subst isKey
      simp only [accountStore, State.initial, if_pos, List.mem_singleton] at member
      subst member
      exact ⟨decide_eq_true rfl, rfl, rfl⟩
    · simp [accountStore, State.initial, isKey] at member
  details id detail isDetail := by cases isDetail
  drafts draft member := by cases member
  outbox item member := by cases member
  pendingOperations operation member := by cases member
  identities identity member := by cases member
  tags assignment member := by cases member

/-- The account is removed while a synchronization lists its messages. -/
def removedWhileListing : List (Event (Request ⊕ FolderRequest) (Choice ⊕ FolderChoice)) :=
  [.start (.inl (.syncAccount someAccount.id)), .act 0 (.inl .proceeds), .act 0 (.inl .proceeds), .act 0 (.inl .proceeds),
    .act 0 (.inl .proceeds), .act 0 (.inl .proceeds), .act 0 (.inl .proceeds), .act 0 (.inl .proceeds),
    .act 0 (.inl (.folders (.ok [⟨inboxPath, .inbox, 1, some 7⟩]))), .act 0 (.inl (.messages (.ok fun _ => [someMessage]))),
    .start (.inr (.removeAccount someAccount.id)), .act 1 (.inr .proceeds), .act 0 (.inl (.draws ⟨"0", zero_filled⟩))]

theorem removedWhileListing_owned :
    ∃ w, World.run (environment compare) (program compare) ⟨accountStore someAccount, []⟩ removedWhileListing = some w ∧
      w.Finished ∧ w.state.1.persisted.accounts = [] ∧ Owned w.state := by
  have ran : (World.run (environment compare) (program compare) ⟨accountStore someAccount, []⟩
      removedWhileListing).isSome := by decide
  obtain ⟨w, ran⟩ := Option.isSome_iff_exists.1 ran
  have admitted : World.Admitted (environment compare) accountFound (program compare) ⟨accountStore someAccount, []⟩
      removedWhileListing := by decide
  have ends : ∀ w ∈ World.run (environment compare) (program compare) ⟨accountStore someAccount, []⟩
      removedWhileListing, w.Finished ∧ w.state.1.persisted.accounts = [] := by decide
  obtain ⟨finished, gone⟩ := ends w ran
  exact ⟨w, ran, finished, gone,
    (stored_data_owned compare _ (accountStore_owned someAccount) _ w admitted ran).1⟩

def demoAccount : Account := ⟨⟨"demo", by decide⟩, .demo⟩

/-- The demonstration account is removed while one of its folders is marked as read. -/
def removedWhileReading : List (Event (Request ⊕ FolderRequest) (Choice ⊕ FolderChoice)) :=
  [.start (.inl (.markFolderRead demoAccount.id inboxPath)), .act 0 (.inl .proceeds),
    .start (.inr (.removeAccount demoAccount.id)), .act 1 (.inr .proceeds), .act 0 (.inl (.draws ⟨"0", zero_filled⟩))]

/-- The folder's messages have an entry again, and no account. -/
theorem removedWhileReading_unowned :
    Owned (accountStore demoAccount) ∧
      ∃ w, World.run (environment compare) (program compare) ⟨accountStore demoAccount, []⟩ removedWhileReading = some w ∧
        w.Finished ∧ w.state.2.messages (demoAccount.id, inboxPath) = true ∧
        ¬ HasAccount w.state.1.persisted demoAccount.id ∧ ¬ Owned w.state := by
  have ran : (World.run (environment compare) (program compare) ⟨accountStore demoAccount, []⟩
      removedWhileReading).isSome := by decide
  obtain ⟨w, ran⟩ := Option.isSome_iff_exists.1 ran
  have ends : ∀ w ∈ World.run (environment compare) (program compare) ⟨accountStore demoAccount, []⟩
      removedWhileReading, w.Finished ∧ w.state.2.messages (demoAccount.id, inboxPath) = true ∧
        ¬ HasAccount w.state.1.persisted demoAccount.id := by decide
  obtain ⟨finished, present, gone⟩ := ends w ran
  exact ⟨accountStore_owned demoAccount, w, ran, finished, present, gone, fun owned => gone (owned.messages _ present)⟩

end Runs

end AppService.Folders
