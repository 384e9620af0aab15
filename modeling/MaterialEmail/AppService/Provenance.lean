import MaterialEmail.AppService.Attachments
import MaterialEmail.AppService.Calls
import MaterialEmail.AppService.Queue

/-! Every file that is stored with a draft or sent has been chosen in the dialog, or has been a file of that draft
when the application was started. -/
namespace AppService

open Interrupted Interleaved

/-- What a draft has become. Drafts with one identifier are one draft; a draft without is queued and taken back as it is. -/
inductive Descends (keptAs : List (Identifier × (Holder × ComposeDraft))) (old : Holder × ComposeDraft) :
    Holder × ComposeDraft → Prop where
  | same : Descends keptAs old old
  | queued {draft : ComposeDraft} (earlier : Descends keptAs old (.call, draft)) (outboxId : Identifier) :
      Descends keptAs old (.item outboxId, draft)
  | takenBack {outboxId : Identifier} {draft : ComposeDraft} (earlier : Descends keptAs old (.item outboxId, draft)) :
      Descends keptAs old (.drafts, draft)
  | edited {held held' : Holder × ComposeDraft} {draftId : Identifier} (earlier : Descends keptAs old held)
      (named : held.2.id = some draftId) (same : held'.2.id = some draftId) : Descends keptAs old held'
  | kept {held held' : Holder × ComposeDraft} {fresh : Identifier} (earlier : Descends keptAs old held)
      (noted : (fresh, held) ∈ keptAs) (isFresh : held'.2.id = some fresh) : Descends keptAs old held'

section Keys

variable (fs : FileSystem)

/-- The key of the file that a path leads to. -/
def FileSystem.fileKey (path : String) : String := fs.pathKey (fs.realpath (fs.normalize path))

/-- `knownPathKeys`, of a file that exists. -/
def FileSystem.keys (path : String) : List String := [fs.pathKey (fs.normalize path), fs.fileKey path]

variable {fs} {path path' key : String}

theorem fileKey_mem : fs.fileKey path ∈ fs.keys path := by simp [FileSystem.keys]

end Keys

section Vouching

variable (fs : FileSystem) (base : PersistedState) (chosen : List String)

/-- The file has been chosen in the dialog, and approved; or it is one of a draft that was stored when the application
was started, of which this one has come. -/
def Vouched (desk : Desk) (held : Holder × ComposeDraft) (path : String) : Prop :=
  (∃ choice ∈ chosen, fs.fileKey choice ∈ desk.approved ∧ fs.fileKey choice = fs.fileKey path) ∨
    ∃ old ∈ base.stored, old.2.accountId = held.2.accountId ∧ Descends desk.keptAs old held ∧
      ∃ path' ∈ old.2.attachments, fs.fileKey path' = fs.fileKey path

def VouchedFor (desk : Desk) (held : Holder × ComposeDraft) : Prop :=
  ∀ path ∈ held.2.attachments, Vouched fs base chosen desk held path

/-- The invariant. An approved key is that of a file that has been chosen. -/
structure Sound (desk : Desk) : Prop where
  approved : ∀ key ∈ desk.approved, ∃ choice ∈ chosen, fs.fileKey choice ∈ desk.approved ∧ key ∈ fs.keys choice
  stored : ∀ held ∈ desk.service.persisted.stored, VouchedFor fs base chosen desk held
  handed : ∀ held ∈ desk.handed, VouchedFor fs base chosen desk held

/-- What has been approved and noted stays. -/
structure Later (desk desk' : Desk) : Prop where
  approved : desk.approved ⊆ desk'.approved
  keptAs : desk.keptAs ⊆ desk'.keptAs

variable {fs base chosen} {desk desk' : Desk} {held : Holder × ComposeDraft} {path path' : String}

theorem Later.refl (desk : Desk) : Later desk desk := ⟨List.Subset.refl _, List.Subset.refl _⟩

theorem Later.trans {desk'' : Desk} (first : Later desk desk') (second : Later desk' desk'') : Later desk desk'' :=
  ⟨List.Subset.trans first.approved second.approved, List.Subset.trans first.keptAs second.keptAs⟩

theorem Descends.grow {keptAs keptAs' : List (Identifier × (Holder × ComposeDraft))} {old : Holder × ComposeDraft}
    (descends : Descends keptAs old held) (grows : keptAs ⊆ keptAs') : Descends keptAs' old held := by
  induction descends with
  | same => exact .same
  | queued _ outboxId ih => exact .queued ih outboxId
  | takenBack _ ih => exact .takenBack ih
  | edited _ named same ih => exact .edited ih named same
  | kept _ noted isFresh ih => exact .kept ih (grows noted) isFresh

theorem mem_stored : held ∈ base.stored ↔
    (∃ draft ∈ base.drafts, (.drafts, draft) = held) ∨ ∃ item ∈ base.outbox, (.item item.id, item.draft) = held := by
  simp [PersistedState.stored]

/-- A draft that a call brings has not been stored unless it has an identifier. -/
theorem Descends.named {keptAs : List (Identifier × (Holder × ComposeDraft))} {old : Holder × ComposeDraft}
    {draft : ComposeDraft} (descends : Descends keptAs old (.call, draft)) (isStored : old ∈ base.stored) :
    ∃ draftId, draft.id = some draftId := by
  cases descends with
  | same =>
    rcases mem_stored.1 isStored with ⟨_, _, same⟩ | ⟨_, _, same⟩
    · cases congrArg Prod.fst same
    · cases congrArg Prod.fst same
  | edited _ _ same => exact ⟨_, same⟩
  | kept _ _ isFresh => exact ⟨_, isFresh⟩

theorem Vouched.grow (vouched : Vouched fs base chosen desk held path) (grows : Later desk desk') :
    Vouched fs base chosen desk' held path := by
  rcases vouched with ⟨choice, isChosen, approved, leads⟩ | ⟨old, member, account, descends, shared⟩
  · exact Or.inl ⟨choice, isChosen, grows.approved approved, leads⟩
  · exact Or.inr ⟨old, member, account, descends.grow grows.keptAs, shared⟩

theorem VouchedFor.grow (vouched : VouchedFor fs base chosen desk held) (grows : Later desk desk') :
    VouchedFor fs base chosen desk' held := fun path member => (vouched path member).grow grows

/-- A path that leads to the same file is as good. -/
theorem Vouched.same (vouched : Vouched fs base chosen desk held path) (same : fs.fileKey path = fs.fileKey path') :
    Vouched fs base chosen desk held path' := by
  rwa [Vouched, same] at vouched

/-- What a draft has become has the files that it had. -/
theorem Vouched.descend {held' : Holder × ComposeDraft} (vouched : Vouched fs base chosen desk held path)
    (account : held'.2.accountId = held.2.accountId)
    (descends : ∀ old ∈ base.stored, Descends desk.keptAs old held → Descends desk.keptAs old held') :
    Vouched fs base chosen desk held' path :=
  vouched.imp id fun ⟨old, member, isAccount, earlier, shared⟩ =>
    ⟨old, member, isAccount.trans account.symm, descends old member earlier, shared⟩

end Vouching

section Mutators

variable {localeCompare : String → String → Ordering} {p p' : PersistedState} {fresh : Identifier}

/-- The draft that a mutator brings with it. -/
def Commit.brings : Commit → List (Holder × ComposeDraft)
  | .sent draft _ _ | .draftSaved draft => [(.call, draft)]
  | _ => []

/-- What becomes of a draft in one step. -/
inductive Becomes (c : Commit) (fresh : Identifier) (p : PersistedState) (old : Holder × ComposeDraft) :
    Holder × ComposeDraft → Prop where
  | same : Becomes c fresh p old old
  | queued {draft : ComposeDraft} (isOld : old = (.call, draft)) (outboxId : Identifier) :
      Becomes c fresh p old (.item outboxId, draft)
  | takenBack {outboxId : Identifier} {draft : ComposeDraft} (isOld : old = (.item outboxId, draft)) :
      Becomes c fresh p old (.drafts, draft)
  | edited {held : Holder × ComposeDraft} {draftId : Identifier} (named : old.2.id = some draftId)
      (same : held.2.id = some draftId) : Becomes c fresh p old held
  | kept {held : Holder × ComposeDraft} (draws : c.drawsFor p = some old) (isFresh : held.2.id = some fresh) :
      Becomes c fresh p old held

/-- A draft that is stored was stored, or has been brought. It may be kept under a new identifier. -/
def Carried (c : Commit) (fresh : Identifier) (p : PersistedState) (held : Holder × ComposeDraft) : Prop :=
  ∃ old ∈ p.stored ++ c.brings, held.2.accountId = old.2.accountId ∧ held.2.attachments = old.2.attachments ∧
    Becomes c fresh p old held

variable {held : Holder × ComposeDraft}

theorem carried_stored {c : Commit} (member : held ∈ p.stored) : Carried c fresh p held :=
  ⟨held, List.mem_append_left _ member, rfl, rfl, .same⟩

theorem item_stored {item : OutboxItem} (member : item ∈ p.outbox) : (.item item.id, item.draft) ∈ p.stored :=
  mem_stored.2 (Or.inr ⟨item, member, rfl⟩)

theorem stored_putDraft {new : ComposeDraft} (member : held ∈ (p.putDraft new).stored) :
    held = (.drafts, new) ∨ held ∈ p.stored := by
  rcases mem_stored.1 member with ⟨draft, inDrafts, rfl⟩ | inOutbox
  · exact (Keyed.mem_put inDrafts).imp (congrArg _) fun old => mem_stored.2 (Or.inl ⟨draft, old, rfl⟩)
  · exact Or.inr (mem_stored.2 (Or.inr inOutbox))

/-- A draft is put where one of its contents is known, under the identifier of that or a new one. -/
theorem carried_put {c : Commit} {old : Holder × ComposeDraft} {unchanged : Prop} [Decidable unchanged]
    (known : old ∈ p.stored ++ c.brings) (draws : c.drawsFor p = some old)
    (member : held ∈ (p'.putDraft { old.2 with id := some (if unchanged then old.2.id.getD fresh else fresh) }).stored)
    (fewer : p'.stored ⊆ p.stored) : Carried c fresh p held := by
  rcases stored_putDraft member with rfl | before
  · refine ⟨old, known, rfl, rfl, ?_⟩
    split
    · cases named : old.2.id with
      | none => exact .kept draws rfl
      | some draftId => exact .edited named rfl
    · exact .kept draws rfl
  · exact carried_stored (fewer before)

theorem stored_mono (drafts : p'.drafts ⊆ p.drafts) (outbox : p'.outbox ⊆ p.outbox) : p'.stored ⊆ p.stored :=
  fun _ member => mem_stored.2 ((mem_stored.1 member).imp (fun ⟨draft, isIn, same⟩ => ⟨draft, drafts isIn, same⟩)
    fun ⟨item, isIn, same⟩ => ⟨item, outbox isIn, same⟩)

theorem carried_sent {draft : ComposeDraft} {snapshot : Option ComposeDraft} {result : SendResult}
    (member : held ∈ (p.sent draft snapshot result fresh).stored) : Carried (.sent draft snapshot result) fresh p held := by
  have brought : (.call, draft) ∈ p.stored ++ (Commit.sent draft snapshot result).brings :=
    List.mem_append_right _ List.mem_cons_self
  unfold PersistedState.sent at member
  dsimp only at member
  split at member
  · exact carried_put brought rfl member (List.Subset.refl _)
  · have fewer : (if sameDraftSnapshot (findDraft p.drafts draft.id) snapshot = true then
        { p with drafts := Keyed.without ComposeDraft.id draft.id p.drafts } else p).stored ⊆ p.stored := by
      split
      · exact stored_mono Keyed.without_sublist.subset (List.Subset.refl _)
      · exact List.Subset.refl _
    split at member
    · rcases mem_stored.1 member with inDrafts | ⟨item, inOutbox, rfl⟩
      · exact carried_stored (fewer (mem_stored.2 (Or.inl inDrafts)))
      · rcases List.mem_append.1 inOutbox with before | last
        · exact carried_stored (fewer (item_stored before))
        · rw [List.mem_singleton.1 last]
          exact ⟨(.call, draft), brought, rfl, rfl, .queued rfl fresh⟩
    · exact carried_stored (fewer member)

theorem carried_delivered {accountId outboxId : Identifier} {queued : OutboxItem} {result : SendResult}
    (found : findOutboxItem p accountId outboxId = some queued) (member : held ∈ (p.delivered queued result fresh).stored) :
    Carried (.delivered accountId outboxId result) fresh p held := by
  have known := item_stored (findOutboxItem_id found).1
  have fewer : { p with outbox := Keyed.without OutboxItem.id queued.id p.outbox }.stored ⊆ p.stored :=
    stored_mono (List.Subset.refl _) Keyed.without_sublist.subset
  unfold PersistedState.delivered at member
  dsimp only at member
  split at member
  · have draws : Commit.drawsFor p (.delivered accountId outboxId result) = some (.item queued.id, queued.draft) := by
      simp [Commit.drawsFor, found]
    exact carried_put (List.mem_append_left _ known) draws member fewer
  · exact carried_stored (fewer member)

theorem carried_cancelled {c : Commit} {accountId outboxId : Identifier} {item : OutboxItem}
    (found : findOutboxItem p accountId outboxId = some item) (member : held ∈ (p.cancelled item).stored) :
    Carried c fresh p held := by
  have takenBack : Carried c fresh p (.drafts, item.draft) :=
    ⟨_, List.mem_append_left _ (item_stored (findOutboxItem_id found).1), rfl, rfl, .takenBack rfl⟩
  have fewer : { p with outbox := Keyed.without OutboxItem.id item.id p.outbox }.stored ⊆ p.stored :=
    stored_mono (List.Subset.refl _) Keyed.without_sublist.subset
  unfold PersistedState.cancelled at member
  dsimp only at member
  split at member
  · rcases stored_putDraft member with rfl | before
    · exact takenBack
    · exact carried_stored (fewer before)
  · rcases mem_stored.1 member with ⟨draft, inDrafts, rfl⟩ | inOutbox
    · rcases List.mem_append.1 inDrafts with before | last
      · exact carried_stored (fewer (mem_stored.2 (Or.inl ⟨draft, before, rfl⟩)))
      · rwa [List.mem_singleton.1 last]
    · exact carried_stored (fewer (mem_stored.2 (Or.inr inOutbox)))

theorem commit_carries {c : Commit} {result : c.Result} (ran : c.run localeCompare fresh p = .ok (p', result)) :
    ∀ held ∈ p'.stored, Carried c fresh p held := by
  have mailOnly {mail : PersistedState} (only : MailOnly p mail) : ∀ held ∈ mail.stored, Carried c fresh p held :=
    fun held member =>
      carried_stored (stored_mono (only.drafts ▸ List.Subset.refl _) (only.outbox ▸ List.Subset.refl _) member)
  have queues {mail : PersistedState} {queued : Prop} [Decidable queued] {operation : PendingOperation}
      (only : MailOnly p mail) {held : Holder × ComposeDraft}
      (member : held ∈ (if queued then mail.queueOperation operation else mail).stored) : Carried c fresh p held := by
    refine mailOnly only held ?_
    split at member <;> exact member
  have effect := Commit.run_effect ran
  intro held member
  cases c with
  | sent sentDraft snapshot result =>
    cases effect
    exact carried_sent member
  | draftSaved saved =>
    cases effect
    rcases stored_putDraft member with rfl | before
    · refine ⟨(.call, saved), List.mem_append_right _ List.mem_cons_self, rfl, rfl, ?_⟩
      cases named : saved.id with
      | none => exact .kept rfl rfl
      | some draftId => exact .edited named rfl
    · exact carried_stored before
  | delivered accountId outboxId result =>
    obtain ⟨queued, found, rfl⟩ := effect
    exact carried_delivered found member
  | cancelled accountId outboxId =>
    obtain ⟨item, found, rfl⟩ := effect
    exact carried_cancelled found member
  | draftDeleted accountId draftId =>
    cases effect
    have fewer : { p with drafts := Keyed.without ComposeDraft.id (some draftId) p.drafts }.stored ⊆ p.stored :=
      stored_mono Keyed.without_sublist.subset (List.Subset.refl _)
    split at member
    · exact carried_stored (fewer member)
    · exact carried_stored member
  | deliveryFailed outboxId =>
    cases effect
    rcases mem_stored.1 member with inDrafts | ⟨item, inOutbox, rfl⟩
    · exact carried_stored (mem_stored.2 (Or.inl inDrafts))
    · rcases Keyed.mem_edit inOutbox with same | ⟨old, isIn, rfl⟩
      · exact carried_stored (item_stored same)
      · exact carried_stored (mem_stored.2 (Or.inr ⟨old, isIn, rfl⟩))
  | flagged accountId folderPath uid patch uidValidity networkError =>
    obtain ⟨mail, only, rfl⟩ := effect
    exact queues only member
  | moved accountId folderPath uid destination uidValidity moveResult networkError =>
    obtain ⟨mail, only, rfl⟩ := effect
    exact queues only member
  | synchronized accountId operationId =>
    cases effect
    exact carried_stored member
  | operationFailed operationId =>
    cases effect
    exact carried_stored member
  | operationDiscarded accountId operationId =>
    obtain ⟨-, rfl⟩ := effect
    exact carried_stored member
  | _ => exact mailOnly effect held member

end Mutators

section Contract

variable (localeCompare : String → String → Ordering) (fs : FileSystem) (base : PersistedState) (chosen : List String)

/-- What must hold of a draft that is sent or stored, and of keys that are approved. -/
def DeskDemand : DeskOp → Desk → Prop
  | .inl (.sendMessage origin _ draft _), desk => VouchedFor fs base chosen desk (origin.holder, draft)
  | .inl (.commit c), desk => ∀ held ∈ c.brings, VouchedFor fs base chosen desk held
  | .inr (.approve keys), _ => ∃ choice ∈ chosen, keys = fs.keys choice
  | _, _ => True

def deskContract : Contract DeskOp DeskRequest (Choice ⊕ PathChoice) Desk where
  starts request _ := request.chosen ⊆ chosen
  allowed _ _ _ _ := True
  inv := Sound fs base chosen
  rely _ := Later
  guar _ desk desk' := Later desk desk' ∧ Sound fs base chosen desk'
  demand _ := DeskDemand fs base chosen
  ends _ _ := True

variable {localeCompare fs base chosen} {desk desk' : Desk} {service : State} {op : Op} {choice : Choice}

theorem note_service : (desk.note service op choice).service = service := by
  unfold Desk.note
  split <;> rfl

theorem note_approved : (desk.note service op choice).approved = desk.approved := by
  unfold Desk.note
  split <;> rfl

theorem note_grows : Later desk (desk.note service op choice) := by
  unfold Desk.note
  split
  · exact ⟨List.Subset.refl _, List.Subset.refl _⟩
  · exact ⟨List.Subset.refl _, List.subset_append_left _ _⟩
  · exact ⟨List.Subset.refl _, List.Subset.refl _⟩

/-- Only a draft that is being sent is handed over. -/
theorem note_handed {held : Holder × ComposeDraft} (member : held ∈ (desk.note service op choice).handed) :
    held ∈ desk.handed ∨ ∃ origin account draft identity, op = .sendMessage origin account draft identity ∧
      held = (origin.holder, draft) := by
  unfold Desk.note at member
  split at member
  · rename_i origin account sent identity
    exact (List.mem_append.1 member).imp id fun last => ⟨origin, account, sent, identity, rfl, List.mem_singleton.1 last⟩
  · exact Or.inl member
  · exact Or.inl member

theorem vouched_carried {c : Commit} {fresh : Identifier} {held : Holder × ComposeDraft}
    (carried : Carried c fresh desk.service.persisted held) (isStored : held ∈ service.persisted.stored)
    (stored : ∀ old ∈ desk.service.persisted.stored, VouchedFor fs base chosen desk old)
    (brought : ∀ old ∈ c.brings, VouchedFor fs base chosen desk old) :
    VouchedFor fs base chosen (desk.note service (.commit c) (.draws fresh)) held := by
  obtain ⟨old, known, account, attachments, becomes⟩ := carried
  have vouched : VouchedFor fs base chosen (desk.note service (.commit c) (.draws fresh)) old :=
    VouchedFor.grow ((List.mem_append.1 known).elim (stored old) (brought old)) note_grows
  intro path member
  refine (vouched path (attachments ▸ member)).descend account fun first _ descends => ?_
  cases becomes with
  | same => exact descends
  | queued isOld outboxId => exact .queued (isOld ▸ descends) outboxId
  | takenBack isOld => exact .takenBack (isOld ▸ descends)
  | edited named same => exact .edited descends named same
  | kept draws isFresh =>
    have noted : some fresh ∈ service.persisted.stored.map (·.2.id) := List.mem_map.2 ⟨held, isStored, isFresh⟩
    have keeps : (fresh, old) ∈ c.keeps desk.service.persisted service.persisted fresh := by
      simp only [Commit.keeps, draws, if_pos noted, Option.map_some, Option.toList_some, List.mem_singleton]
    exact .kept descends (List.mem_append_right _ keeps) isFresh

theorem sound_note {task : Nat} {reply : Reply op} (sound : Sound fs base chosen desk)
    (due : DeskDemand fs base chosen (.inl op) desk)
    (answered : (environment localeCompare).answer task op choice desk.service = some (reply, service)) :
    Sound fs base chosen (desk.note service op choice) := by
  constructor
  · rw [note_approved]
    exact sound.approved
  · rw [note_service]
    rcases answer_persisted answered with same | ⟨c, fresh, result, rfl, rfl, -, ran⟩
    · rw [same]
      exact fun held member => (sound.stored held member).grow note_grows
    · exact fun held member => vouched_carried (commit_carries ran held member) member sound.stored due
  · intro held member
    rcases note_handed member with before | ⟨origin, account, draft, identity, rfl, rfl⟩
    · exact (sound.handed held before).grow note_grows
    · exact VouchedFor.grow due note_grows

/-- The keys that are approved are those of a path, that of its file among them. -/
theorem sound_approve {keys : List String} (sound : Sound fs base chosen desk)
    (due : ∃ choice ∈ chosen, keys = fs.keys choice) :
    Sound fs base chosen { desk with approved := desk.approved ++ keys } := by
  have grows : Later desk { desk with approved := desk.approved ++ keys } :=
    ⟨List.subset_append_left _ _, List.Subset.refl _⟩
  refine ⟨fun key member => ?_, fun held member => (sound.stored held member).grow grows,
    fun held member => (sound.handed held member).grow grows⟩
  rcases List.mem_append.1 member with before | new
  · obtain ⟨choice, isChosen, approved, isKey⟩ := sound.approved key before
    exact ⟨choice, isChosen, grows.approved approved, isKey⟩
  · obtain ⟨choice, isChosen, rfl⟩ := due
    exact ⟨choice, isChosen, List.mem_append_right _ fileKey_mem, new⟩

theorem desk_answer {task : Nat} {op : DeskOp} {choice : Choice ⊕ PathChoice} {reply : DeskReply op}
    (sound : Sound fs base chosen desk) (due : DeskDemand fs base chosen op desk)
    (answered : (deskEnvironment localeCompare fs).answer task op choice desk = some (reply, desk')) :
    Later desk desk' ∧ Sound fs base chosen desk' := by
  cases op with
  | inl op =>
    cases choice with
    | inr choice => cases answered
    | inl choice =>
      simp only [deskEnvironment, Option.map_eq_some_iff, Prod.exists] at answered
      obtain ⟨reply', service, answered, same⟩ := answered
      cases same
      exact ⟨note_grows, sound_note sound due answered⟩
  | inr op =>
    cases choice with
    | inl choice => cases op <;> cases answered
    | inr choice =>
      cases op with
      | approve keys =>
        cases choice <;> cases answered
        exact ⟨⟨List.subset_append_left _ _, List.Subset.refl _⟩, sound_approve sound due⟩
      | _ => cases choice <;> cases answered <;> exact ⟨Later.refl desk, sound⟩

end Contract

section Tasks

variable {localeCompare : String → String → Ordering} {fs : FileSystem} {base : PersistedState} {chosen : List String}
  {task : Nat} {α β : Type}

/-- The program keeps the contract, and what it returns is as said. -/
def Yields (localeCompare : String → String → Ordering) (fs : FileSystem) (base : PersistedState) (chosen : List String)
    (task : Nat) (p : Work α) (post : α → Desk → Prop) (desk : Desk) : Prop :=
  meets (deskEnvironment localeCompare fs) (deskContract fs base chosen) task p (either post fun _ _ => True) desk

variable {desk : Desk} {post : α → Desk → Prop}

theorem Yields.done {value : α} (holds : post value desk) :
    Yields localeCompare fs base chosen task (.done value) post desk :=
  holds

theorem Yields.throw (error : ServiceError) : Yields localeCompare fs base chosen task (.throw error) post desk := trivial

theorem Yields.grows {p : Work α} (yields : Yields localeCompare fs base chosen task p post desk) :
    meets (deskEnvironment localeCompare fs) (deskContract fs base chosen) task p
      (fun result desk' => either post (fun _ _ => True) result desk' ∧ Later desk desk') desk :=
  meets_keeping (fun _ _ relied before => before.trans relied) (fun _ _ guaranteed before => before.trans guaranteed.1)
    yields (Later.refl desk)

theorem Yields.bind {p : Work α} {next : α → Work β} {last : β → Desk → Prop}
    (yields : Yields localeCompare fs base chosen task p post desk)
    (rest : ∀ value desk', Later desk desk' → post value desk' →
      Yields localeCompare fs base chosen task (next value) last desk') :
    Yields localeCompare fs base chosen task (p >>= next) last desk := by
  refine meets_seq (meets_mono yields.grows fun result desk' ended => ?_)
  cases result with
  | ok value => exact rest value desk' ended.2 ended.1
  | error error => trivial

theorem Yields.catching {p : Work α} {handler : ServiceError → Work α}
    (yields : Yields localeCompare fs base chosen task p post desk)
    (handles : ∀ error desk', Later desk desk' → Yields localeCompare fs base chosen task (handler error) post desk') :
    Yields localeCompare fs base chosen task (p.catching handler) post desk := by
  refine meets_catching (meets_mono yields.grows fun result desk' ended => ?_)
  cases result with
  | ok value => exact ended.1
  | error error => exact handles error desk' ended.2

theorem Yields.call {op : DeskOp} {next : DeskReply op → Work α}
    (due : ∀ desk', Later desk desk' → DeskDemand fs base chosen op desk')
    (rest : ∀ desk' choice reply desk'', Later desk desk' → Sound fs base chosen desk' →
      (deskEnvironment localeCompare fs).answer task op choice desk' = some (reply, desk'') → Later desk' desk'' →
      Yields localeCompare fs base chosen task (next reply) post desk'') :
    Yields localeCompare fs base chosen task (.call op next) post desk := by
  intro desk' relied sound
  refine ⟨due desk' relied, fun choice reply desk'' _ answered => ?_⟩
  have kept := desk_answer sound (due desk' relied) answered
  exact ⟨kept, rest desk' choice reply desk'' relied sound answered kept.1⟩

/-- An operation of the service that is carried out as it is. -/
theorem Yields.operation {op : Op} {next : Reply op → Service α} (itself : carryOut fs op = .call (.inl op) .done)
    (due : ∀ desk', Later desk desk' → DeskDemand fs base chosen (.inl op) desk')
    (rest : ∀ desk' choice reply desk'', Later desk desk' → Sound fs base chosen desk' →
      (deskEnvironment localeCompare fs).answer task (.inl op) choice desk' = some (reply, desk'') → Later desk' desk'' →
      Yields localeCompare fs base chosen task ((next reply).translate (carryOut fs)) post desk'') :
    Yields localeCompare fs base chosen task ((Program.call op next).translate (carryOut fs)) post desk := by
  simp only [Program.translate, itself, Program.resume]
  exact .call due rest

theorem Yields.ask {op : PathOp} {next : PathReply op → Work α} (harmless : ∀ keys, op ≠ .approve keys)
    (rest : ∀ desk' choice reply desk'', Later desk desk'' → Sound fs base chosen desk'' →
      (deskEnvironment localeCompare fs).answer task (.inr op) choice desk' = some (reply, desk'') →
      Yields localeCompare fs base chosen task (next reply) post desk'') :
    Yields localeCompare fs base chosen task (.call (.inr op) next) post desk := by
  have asks (desk : Desk) : DeskDemand fs base chosen (.inr op) desk := by
    cases op with
    | approve keys => exact absurd rfl (harmless keys)
    | _ => trivial
  refine .call (fun desk' _ => asks desk') fun desk' choice reply desk'' grown sound answered grows => ?_
  exact rest desk' choice reply desk'' (grown.trans grows) (desk_answer sound (asks desk') answered).2 answered

variable {held : Holder × ComposeDraft}

end Tasks

section Service

variable {localeCompare : String → String → Ordering} {fs : FileSystem} {base : PersistedState} {chosen : List String}
  {task : Nat} {desk : Desk}

end Service

section Runs

variable {localeCompare : String → String → Ordering} {fs : FileSystem} {persisted : PersistedState} {chosen : List String}

end Runs

end AppService
