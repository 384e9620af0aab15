import MaterialEmail.AppService.Queue

/-! Flights. The task that holds an account's flight is the only one that works on its queues; the
others can only add to them. -/
namespace AppService

open Interrupted Interleaved

/-- What is noted of a run. `holder` says who has entered an account's flight and for what, `begun` which
pending operations were queued then. `performed` and `accepted` are the queued operations and Outbox
items that the server has confirmed, `delivered` the messages that it has taken over. -/
structure Watch where
  holder : Identifier → Option (Nat × QueueWork)
  begun : Identifier → List Identifier
  performed : List Identifier
  accepted : List (Identifier × Identifier)
  delivered : List ComposeDraft
  storeFailed : Bool

def Watch.initial : Watch := ⟨fun _ => none, fun _ => [], [], [], [], false⟩

def Watch.confirmed (g : Watch) : Origin → Watch
  | .call => g
  | .queue id => { g with performed := id :: g.performed }

def Watch.transmitted (g : Watch) (origin : Origin) (accountId : Identifier) (draft : ComposeDraft)
    (sent : SendResult) : Watch :=
  if classifySendResult sent = .rejected then g
  else
    match origin with
    | .call => { g with delivered := draft :: g.delivered }
    | .queue id => { g with delivered := draft :: g.delivered, accepted := (accountId, id) :: g.accepted }

def watch : Observer Op Reply Choice State Watch := fun task op choice reply s g =>
  match op, choice, reply with
  | .commit _, .storeFails, _ => { g with storeFailed := true }
  | .enter accountId work, _, true =>
    { g with
      holder := Function.update g.holder accountId (some (task, work))
      begun := Function.update g.begun accountId ((pendingOf s.persisted accountId).map (·.id)) }
  | .leave accountId, _, () => { g with holder := Function.update g.holder accountId none }
  | .setFlags origin _ _ _ _ _, _, .ok _ => g.confirmed origin
  | .moveMessage origin _ _ _ _ _, _, .ok _ => g.confirmed origin
  | .sendMessage origin account draft _, _, .ok sent => g.transmitted origin account.id draft sent
  | _, _, _ => g

abbrev Watched := State × Watch

def watched (localeCompare : String → String → Ordering) : Environment Op Reply Choice Watched :=
  (environment localeCompare).observed watch

/-- No waiting item of an account but the excepted one has been accepted by the server. -/
def Clean (accountId : Identifier) (excepted : Option Identifier) (s : Watched) : Prop :=
  s.2.storeFailed = false → ∀ item ∈ outboxOf s.1.persisted accountId, some item.id ≠ excepted →
    (accountId, item.id) ∉ s.2.accepted

structure Orderly (s : Watched) : Prop where
  pendingIds : (s.1.persisted.pendingOperations.map (·.id)).Nodup
  outboxIds : (s.1.persisted.outbox.map (·.id)).Nodup
  pendingDrawn : ∀ operation ∈ s.1.persisted.pendingOperations, operation.id ∈ s.1.drawn
  outboxDrawn : ∀ item ∈ s.1.persisted.outbox, item.id ∈ s.1.drawn
  begunDrawn : ∀ accountId, ∀ id ∈ s.2.begun accountId, id ∈ s.1.drawn
  acceptedDrawn : ∀ entry ∈ s.2.accepted, entry.2 ∈ s.1.drawn
  flights : ∀ accountId, accountId ∈ s.1.flights ↔ (s.2.holder accountId).isSome
  clean : ∀ accountId, s.2.holder accountId = none → Clean accountId none s

/-- What may happen to the queues of an account while its flight is held by someone else. -/
structure Undisturbed (accountId : Identifier) (s s' : Watched) : Prop where
  begun : s'.2.begun accountId = s.2.begun accountId
  accepted : ∀ id, (accountId, id) ∈ s'.2.accepted ↔ (accountId, id) ∈ s.2.accepted
  pending : ∃ more, pendingOf s'.1.persisted accountId = pendingOf s.1.persisted accountId ++ more ∧
    ∀ operation ∈ more, operation.id ∉ s.2.begun accountId
  outbox : ∃ more, outboxOf s'.1.persisted accountId = outboxOf s.1.persisted accountId ++ more ∧
    ∀ item ∈ more, (accountId, item.id) ∉ s.2.accepted

/-- What a task relies on. -/
structure Respects (task : Nat) (s s' : Watched) : Prop where
  accounts : s'.1.persisted.accounts = s.1.persisted.accounts
  holder : ∀ accountId work, s'.2.holder accountId = some (task, work) ↔ s.2.holder accountId = some (task, work)
  undisturbed : ∀ accountId work, s.2.holder accountId = some (task, work) → Undisturbed accountId s s'
  performed : s.2.performed ⊆ s'.2.performed
  delivered : s.2.delivered ⊆ s'.2.delivered
  storeFailed : s.2.storeFailed = true → s'.2.storeFailed = true

/-- A queued operation is attempted in a flight, at the head of the account's queue, and not by a replay
once it has failed too often. -/
structure AttemptsOperation (s : Watched) (task : Nat) (accountId id : Identifier)
    (asked : PendingOperation → Prop) (work : QueueWork) (operation : PendingOperation)
    (later : List PendingOperation) : Prop where
  holder : s.2.holder accountId = some (task, work)
  head : pendingOf s.1.persisted accountId = operation :: later
  named : operation.id = id
  asked : asked operation
  limit : work = .replay → operation.attempts < attemptLimit

/-- An Outbox item is attempted in a flight, at the head of the account's Outbox, when what was pending at
the beginning is gone, not by a replay once it has failed too often, and never after the server has
accepted it. -/
structure AttemptsItem (s : Watched) (task : Nat) (accountId id : Identifier) (draft : ComposeDraft)
    (work : QueueWork) (item : OutboxItem) (later : List OutboxItem) : Prop where
  holder : s.2.holder accountId = some (task, work)
  head : outboxOf s.1.persisted accountId = item :: later
  named : item.id = id
  content : item.draft = draft
  limit : work = .replay → item.attempts < attemptLimit
  resolved : ∀ operation ∈ pendingOf s.1.persisted accountId, operation.id ∉ s.2.begun accountId
  unsent : s.2.storeFailed = false → (accountId, id) ∉ s.2.accepted

def IsDemo (s : PersistedState) (accountId : Identifier) : Prop :=
  ∃ account, requireAccount s accountId = .ok account ∧ account.kind = .demo

def demand (task : Nat) (op : Op) (s : Watched) : Prop :=
  match op with
  | .setFlags (.queue id) account folderPath uid patch uidValidity =>
    ∃ work operation later, AttemptsOperation s task account.id id
      (fun operation => operation.kind = .flags ∧ operation.folderPath = folderPath ∧ operation.uid = uid ∧
        operation.patch = some patch ∧ operation.uidValidity = some uidValidity) work operation later
  | .moveMessage (.queue id) account folderPath uid destination uidValidity =>
    ∃ work operation later, AttemptsOperation s task account.id id
      (fun operation => operation.kind = .move ∧ operation.folderPath = folderPath ∧ operation.uid = uid ∧
        operation.destination = some destination ∧ operation.uidValidity = some uidValidity) work operation later
  | .sendMessage (.queue id) account draft _ =>
    ∃ work item later, AttemptsItem s task account.id id draft work item later
  | .commit (.synchronized _ operationId) => operationId ∈ s.2.performed
  | .commit (.delivered accountId outboxId result) =>
    ∃ item, findOutboxItem s.1.persisted accountId outboxId = some item ∧
      (classifySendResult result ≠ .rejected → item.draft ∈ s.2.delivered)
  | .commit (.sent draft _ result) =>
    result.queued = true ∨ classifySendResult result = .rejected ∨ draft ∈ s.2.delivered ∨
      IsDemo s.1.persisted draft.accountId
  | _ => True

/-- The task holds no flight. -/
def Idle (task : Nat) (s : Watched) : Prop := ∀ accountId work, s.2.holder accountId ≠ some (task, work)

def unconditional : Conditions Op Request Choice Watched := ⟨fun _ _ => True, fun _ _ _ _ => True⟩

def contract : Contract Op Request Choice Watched where
  toConditions := unconditional
  inv := Orderly
  rely := Respects
  guar task s s' := Orderly s' ∧ ∀ other, other ≠ task → Respects other s s'
  demand := demand
  ends := Idle

section Relations

variable {s s' s'' : Watched} {task : Nat} {accountId : Identifier}

theorem Undisturbed.refl (accountId : Identifier) (s : Watched) : Undisturbed accountId s s :=
  ⟨rfl, fun _ => Iff.rfl, ⟨[], by simp⟩, ⟨[], by simp⟩⟩

theorem Undisturbed.trans (first : Undisturbed accountId s s') (second : Undisturbed accountId s' s'') :
    Undisturbed accountId s s'' := by
  obtain ⟨pending, isPending, newer⟩ := first.pending
  obtain ⟨pending', isPending', newer'⟩ := second.pending
  obtain ⟨outbox, isOutbox, unsent⟩ := first.outbox
  obtain ⟨outbox', isOutbox', unsent'⟩ := second.outbox
  refine ⟨second.begun.trans first.begun, fun id => (second.accepted id).trans (first.accepted id),
    ⟨pending ++ pending', ?_, ?_⟩, ⟨outbox ++ outbox', ?_, ?_⟩⟩
  · rw [isPending', isPending, List.append_assoc]
  · intro operation member
    rcases List.mem_append.1 member with old | new
    · exact newer operation old
    · rw [← first.begun]
      exact newer' operation new
  · rw [isOutbox', isOutbox, List.append_assoc]
  · intro item member
    rcases List.mem_append.1 member with old | new
    · exact unsent item old
    · rw [← first.accepted]
      exact unsent' item new

theorem Respects.refl (task : Nat) (s : Watched) : Respects task s s :=
  ⟨rfl, fun _ _ => Iff.rfl, fun accountId _ _ => .refl accountId s, fun _ member => member,
    fun _ member => member, fun failed => failed⟩

theorem Respects.trans (first : Respects task s s') (second : Respects task s' s'') : Respects task s s'' where
  accounts := second.accounts.trans first.accounts
  holder accountId work := (second.holder accountId work).trans (first.holder accountId work)
  undisturbed accountId work held :=
    (first.undisturbed accountId work held).trans
      (second.undisturbed accountId work ((first.holder accountId work).2 held))
  performed := List.Subset.trans first.performed second.performed
  delivered := List.Subset.trans first.delivered second.delivered
  storeFailed failed := second.storeFailed (first.storeFailed failed)

theorem Idle.respects (idle : Idle task s) (respects : Respects task s s') : Idle task s' :=
  fun accountId work held => idle accountId work ((respects.holder accountId work).1 held)

theorem contract_lawful : contract.Lawful := by
  constructor
  · exact fun task s => .refl task s
  · exact fun task s s' s'' first second => first.trans second
  · exact fun task other s s' different guaranteed => guaranteed.2 task different
  · exact fun task s s' _ guaranteed => guaranteed.1
  · exact fun task s s' respects idle => idle.respects respects

theorem Clean.undisturbed {excepted : Option Identifier} (clean : Clean accountId excepted s)
    (undisturbed : Undisturbed accountId s s') (failed : s.2.storeFailed = true → s'.2.storeFailed = true) :
    Clean accountId excepted s' := by
  intro works item member other
  have worked : s.2.storeFailed = false := by
    by_contra storeFailed
    rw [failed (Bool.not_eq_false _ ▸ storeFailed)] at works
    cases works
  obtain ⟨more, isOutbox, unsent⟩ := undisturbed.outbox
  rw [undisturbed.accepted]
  rw [isOutbox] at member
  rcases List.mem_append.1 member with old | new
  · exact clean worked item old other
  · exact unsent item new

/-- The task holds the flight of this account and of no other. -/
structure Holds (task : Nat) (accountId : Identifier) (work : QueueWork) (excepted : Option Identifier)
    (s : Watched) : Prop where
  holder : s.2.holder accountId = some (task, work)
  only : ∀ other work', s.2.holder other = some (task, work') → other = accountId
  clean : Clean accountId excepted s

variable {work : QueueWork} {excepted : Option Identifier}

theorem Holds.respects (holds : Holds task accountId work excepted s) (respects : Respects task s s') :
    Holds task accountId work excepted s' where
  holder := (respects.holder accountId work).2 holds.holder
  only other work' held := holds.only other work' ((respects.holder other work').1 held)
  clean := holds.clean.undisturbed (respects.undisturbed accountId work holds.holder) respects.storeFailed

/-- These operations stand first in the queue of the account. -/
def Queued (accountId : Identifier) (operations : List PendingOperation) (s : Watched) : Prop :=
  ∃ more, pendingOf s.1.persisted accountId = operations ++ more

/-- These items stand first in the Outbox of the account. -/
def Waiting (accountId : Identifier) (items : List OutboxItem) (s : Watched) : Prop :=
  ∃ more, outboxOf s.1.persisted accountId = items ++ more

/-- What was pending when the flight began is gone. -/
def Resolved (accountId : Identifier) (s : Watched) : Prop :=
  ∀ operation ∈ pendingOf s.1.persisted accountId, operation.id ∉ s.2.begun accountId

theorem Queued.respects {operations : List PendingOperation} (queued : Queued accountId operations s)
    (holds : Holds task accountId work excepted s) (respects : Respects task s s') :
    Queued accountId operations s' := by
  obtain ⟨more, isPending⟩ := queued
  obtain ⟨more', isPending', -⟩ := (respects.undisturbed accountId work holds.holder).pending
  refine ⟨more ++ more', ?_⟩
  rw [isPending', isPending, List.append_assoc]

theorem Waiting.respects {items : List OutboxItem} (waiting : Waiting accountId items s)
    (holds : Holds task accountId work excepted s) (respects : Respects task s s') :
    Waiting accountId items s' := by
  obtain ⟨more, isOutbox⟩ := waiting
  obtain ⟨more', isOutbox', -⟩ := (respects.undisturbed accountId work holds.holder).outbox
  refine ⟨more ++ more', ?_⟩
  rw [isOutbox', isOutbox, List.append_assoc]

theorem Resolved.respects (resolved : Resolved accountId s) (holds : Holds task accountId work excepted s)
    (respects : Respects task s s') : Resolved accountId s' := by
  have undisturbed := respects.undisturbed accountId work holds.holder
  obtain ⟨more, isPending, newer⟩ := undisturbed.pending
  intro operation member
  rw [undisturbed.begun]
  rw [isPending] at member
  rcases List.mem_append.1 member with old | new
  · exact resolved operation old
  · exact newer operation new

end Relations

section Transitions

variable {s s' : Watched} {task : Nat} {accountId : Identifier}

/-- At most one operation and one item are added to the queues. -/
structure Grows (s s' : Watched) : Prop where
  accounts : s'.1.persisted.accounts = s.1.persisted.accounts
  flights : s'.1.flights = s.1.flights
  holder : s'.2.holder = s.2.holder
  begun : s'.2.begun = s.2.begun
  accepted : s'.2.accepted = s.2.accepted
  drawn : s.1.drawn ⊆ s'.1.drawn
  performed : s.2.performed ⊆ s'.2.performed
  delivered : s.2.delivered ⊆ s'.2.delivered
  storeFailed : s.2.storeFailed = true → s'.2.storeFailed = true
  pending : ∃ new : Option PendingOperation,
    s'.1.persisted.pendingOperations = s.1.persisted.pendingOperations ++ new.toList ∧
      ∀ operation ∈ new, operation.id ∉ s.1.drawn ∧ operation.id ∈ s'.1.drawn
  outbox : ∃ new : Option OutboxItem, s'.1.persisted.outbox = s.1.persisted.outbox ++ new.toList ∧
      ∀ item ∈ new, item.id ∉ s.1.drawn ∧ item.id ∈ s'.1.drawn

theorem nodup_grows {α : Type} {key : α → Identifier} {records : List α} {new : Option α}
    (distinct : (records.map key).Nodup) (fresh : ∀ record ∈ new, key record ∉ records.map key) :
    ((records ++ new.toList).map key).Nodup := by
  cases new with
  | none => simpa using distinct
  | some record => exact Keyed.nodup_append distinct (fresh record rfl)

theorem Grows.undisturbed (grows : Grows s s') (orderly : Orderly s) (accountId : Identifier) :
    Undisturbed accountId s s' := by
  obtain ⟨operation, isPending, newOperation⟩ := grows.pending
  obtain ⟨item, isOutbox, newItem⟩ := grows.outbox
  refine ⟨by rw [grows.begun], fun id => by rw [grows.accepted],
    ⟨operation.toList.filter (·.accountId = accountId), ?_, ?_⟩,
    ⟨item.toList.filter (·.draft.accountId = accountId), ?_, ?_⟩⟩
  · unfold pendingOf
    rw [isPending, List.filter_append]
  · intro added member old
    have member := Option.mem_toList.1 (List.mem_of_mem_filter member)
    exact (newOperation added member).1 (orderly.begunDrawn accountId added.id old)
  · unfold outboxOf
    rw [isOutbox, List.filter_append]
  · intro added member old
    have member := Option.mem_toList.1 (List.mem_of_mem_filter member)
    exact (newItem added member).1 (orderly.acceptedDrawn _ old)

theorem Grows.respects (grows : Grows s s') (orderly : Orderly s) (task : Nat) : Respects task s s' where
  accounts := grows.accounts
  holder accountId work := by rw [grows.holder]
  undisturbed accountId _ _ := grows.undisturbed orderly accountId
  performed := grows.performed
  delivered := grows.delivered
  storeFailed := grows.storeFailed

theorem Grows.orderly (grows : Grows s s') (orderly : Orderly s) : Orderly s' := by
  obtain ⟨operation, isPending, newOperation⟩ := grows.pending
  obtain ⟨item, isOutbox, newItem⟩ := grows.outbox
  constructor
  · rw [isPending]
    refine nodup_grows orderly.pendingIds fun added member old => ?_
    obtain ⟨earlier, isEarlier, same⟩ := List.mem_map.1 old
    exact (newOperation added member).1 (same ▸ orderly.pendingDrawn earlier isEarlier)
  · rw [isOutbox]
    refine nodup_grows orderly.outboxIds fun added member old => ?_
    obtain ⟨earlier, isEarlier, same⟩ := List.mem_map.1 old
    exact (newItem added member).1 (same ▸ orderly.outboxDrawn earlier isEarlier)
  · intro added member
    rw [isPending] at member
    rcases List.mem_append.1 member with old | new
    · exact grows.drawn (orderly.pendingDrawn added old)
    · exact (newOperation added (Option.mem_toList.1 new)).2
  · intro added member
    rw [isOutbox] at member
    rcases List.mem_append.1 member with old | new
    · exact grows.drawn (orderly.outboxDrawn added old)
    · exact (newItem added (Option.mem_toList.1 new)).2
  · intro accountId id member
    rw [grows.begun] at member
    exact grows.drawn (orderly.begunDrawn accountId id member)
  · intro entry member
    rw [grows.accepted] at member
    exact grows.drawn (orderly.acceptedDrawn entry member)
  · intro accountId
    rw [grows.flights, grows.holder]
    exact orderly.flights accountId
  · intro accountId free
    rw [grows.holder] at free
    exact (orderly.clean accountId free).undisturbed (grows.undisturbed orderly accountId) grows.storeFailed

theorem Grows.guar (grows : Grows s s') (orderly : Orderly s) (task : Nat) : contract.guar task s s' :=
  ⟨grows.orderly orderly, fun other _ => grows.respects orderly other⟩

/-- The queues of one account have been worked on: nothing is new in them, and the queues of the other
accounts are as they were. -/
structure Works (accountId : Identifier) (s s' : Watched) : Prop where
  accounts : s'.1.persisted.accounts = s.1.persisted.accounts
  flights : s'.1.flights = s.1.flights
  watch : s'.2 = s.2
  drawn : s.1.drawn ⊆ s'.1.drawn
  pending : (s'.1.persisted.pendingOperations.map (·.id)).Sublist (s.1.persisted.pendingOperations.map (·.id))
  outbox : (s'.1.persisted.outbox.map (·.id)).Sublist (s.1.persisted.outbox.map (·.id))
  others : ∀ other, other ≠ accountId → pendingOf s'.1.persisted other = pendingOf s.1.persisted other ∧
    outboxOf s'.1.persisted other = outboxOf s.1.persisted other

theorem Works.undisturbed (works : Works accountId s s') {other : Identifier} (different : other ≠ accountId) :
    Undisturbed other s s' := by
  obtain ⟨pending, outbox⟩ := works.others other different
  exact ⟨by rw [works.watch], fun id => by rw [works.watch], ⟨[], by simp [pending]⟩, ⟨[], by simp [outbox]⟩⟩

theorem Works.guar (works : Works accountId s s') (orderly : Orderly s) {work : QueueWork}
    (holder : s.2.holder accountId = some (task, work)) : contract.guar task s s' := by
  have drawn : ∀ {α : Type} {id : α → Identifier} {before after : List α},
      (∀ record ∈ before, id record ∈ s.1.drawn) → (after.map id).Sublist (before.map id) →
      ∀ record ∈ after, id record ∈ s'.1.drawn := by
    intro α id before after old sublist record member
    obtain ⟨earlier, isEarlier, same⟩ := List.mem_map.1 (sublist.subset (List.mem_map_of_mem member))
    exact works.drawn (same ▸ old earlier isEarlier)
  refine ⟨⟨orderly.pendingIds.sublist works.pending, orderly.outboxIds.sublist works.outbox,
    drawn orderly.pendingDrawn works.pending, drawn orderly.outboxDrawn works.outbox, ?_, ?_, ?_, ?_⟩, ?_⟩
  · intro other id member
    rw [works.watch] at member
    exact works.drawn (orderly.begunDrawn other id member)
  · intro entry member
    rw [works.watch] at member
    exact works.drawn (orderly.acceptedDrawn entry member)
  · intro other
    rw [works.flights, works.watch]
    exact orderly.flights other
  · intro other free
    rw [works.watch] at free
    have different : other ≠ accountId := by
      rintro rfl
      rw [holder] at free
      cases free
    exact (orderly.clean other free).undisturbed (works.undisturbed different) (by rw [works.watch]; exact id)
  · intro other isOther
    refine ⟨works.accounts, fun _ _ => by rw [works.watch], fun third work' held => ?_, ?_, ?_, ?_⟩
    · have different : third ≠ accountId := by
        rintro rfl
        rw [holder] at held
        cases held
        exact isOther rfl
      exact works.undisturbed different
    · rw [works.watch]
      exact List.Subset.refl _
    · rw [works.watch]
      exact List.Subset.refl _
    · rw [works.watch]
      exact id

/-- A task enters the flight of an account. -/
def entered (task : Nat) (accountId : Identifier) (work : QueueWork) (s : Watched) : Watched :=
  ({ s.1 with flights := accountId :: s.1.flights }, watch task (.enter accountId work) .proceeds true s.1 s.2)

/-- A task leaves the flight of an account. -/
def left (task : Nat) (accountId : Identifier) (s : Watched) : Watched :=
  ({ s.1 with flights := s.1.flights.filter (· ≠ accountId) }, watch task (.leave accountId) .proceeds () s.1 s.2)

theorem entered_holder (work : QueueWork) (other : Identifier) :
    (entered task accountId work s).2.holder other =
      if other = accountId then some (task, work) else s.2.holder other := by
  by_cases same : other = accountId
  · simp [entered, watch, same]
  · simp [entered, watch, same]

theorem left_holder (other : Identifier) :
    (left task accountId s).2.holder other = if other = accountId then none else s.2.holder other := by
  by_cases same : other = accountId
  · simp [left, watch, same]
  · simp [left, watch, same]

theorem entered_guar (orderly : Orderly s) (free : s.2.holder accountId = none) (task : Nat) (work : QueueWork) :
    contract.guar task s (entered task accountId work s) := by
  refine ⟨⟨orderly.pendingIds, orderly.outboxIds, orderly.pendingDrawn, orderly.outboxDrawn, ?_,
    orderly.acceptedDrawn, ?_, ?_⟩, ?_⟩
  · intro other id member
    by_cases same : other = accountId
    · subst same
      simp only [entered, watch, Function.update_self, List.mem_map] at member
      obtain ⟨operation, isPending, rfl⟩ := member
      exact orderly.pendingDrawn operation (List.mem_of_mem_filter isPending)
    · simp only [entered, watch, Function.update_of_ne same] at member
      exact orderly.begunDrawn other id member
  · intro other
    rw [entered_holder]
    by_cases same : other = accountId
    · simp [same, entered]
    · simp [same, entered, orderly.flights other]
  · intro other free'
    rw [entered_holder] at free'
    by_cases same : other = accountId
    · simp [same] at free'
    · rw [if_neg same] at free'
      exact orderly.clean other free'
  · intro other isOther
    refine ⟨rfl, fun third work' => ?_, fun third work' held => ?_, List.Subset.refl _, List.Subset.refl _, id⟩
    · rw [entered_holder]
      by_cases same : third = accountId
      · simp [same, free, Ne.symm isOther]
      · rw [if_neg same]
    · have different : third ≠ accountId := by
        rintro rfl
        rw [free] at held
        cases held
      exact ⟨by simp [entered, watch, Function.update_of_ne different], fun _ => Iff.rfl, ⟨[], by simp [entered]⟩,
        ⟨[], by simp [entered]⟩⟩

theorem entered_holds (orderly : Orderly s) (free : s.2.holder accountId = none) (idle : Idle task s)
    (work : QueueWork) : Holds task accountId work none (entered task accountId work s) := by
  refine ⟨by rw [entered_holder, if_pos rfl], fun other work' held => ?_, orderly.clean accountId free⟩
  by_contra different
  rw [entered_holder, if_neg different] at held
  exact idle other work' held

theorem left_guar (orderly : Orderly s) {work : QueueWork} (holds : Holds task accountId work none s) :
    contract.guar task s (left task accountId s) := by
  refine ⟨⟨orderly.pendingIds, orderly.outboxIds, orderly.pendingDrawn, orderly.outboxDrawn, orderly.begunDrawn,
    orderly.acceptedDrawn, ?_, ?_⟩, ?_⟩
  · intro other
    rw [left_holder]
    by_cases same : other = accountId
    · simp [same, left]
    · simp [same, left, orderly.flights other]
  · intro other free
    rw [left_holder] at free
    by_cases same : other = accountId
    · rw [same]
      exact holds.clean
    · rw [if_neg same] at free
      exact orderly.clean other free
  · intro other isOther
    refine ⟨rfl, fun third work' => ?_, fun third work' held => ?_, List.Subset.refl _, List.Subset.refl _, id⟩
    · rw [left_holder]
      by_cases same : third = accountId
      · simp [same, holds.holder, Ne.symm isOther]
      · rw [if_neg same]
    · exact ⟨rfl, fun _ => Iff.rfl, ⟨[], by simp [left]⟩, ⟨[], by simp [left]⟩⟩

theorem left_idle {work : QueueWork} (holds : Holds task accountId work none s) :
    Idle task (left task accountId s) := by
  intro other work' held
  rw [left_holder] at held
  by_cases same : other = accountId
  · simp [same] at held
  · rw [if_neg same] at held
    exact same (holds.only other work' held)

end Transitions

end AppService
