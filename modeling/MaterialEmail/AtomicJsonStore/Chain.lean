import Mathlib.Data.List.Chain
import MaterialEmail.AtomicJsonStore.Lock

/-! What happens to the state under the lock protocol: the settled states form one chain,
each the update of the one before it, and no fulfilled update is missing from it. -/
namespace AtomicJsonStore

open Interrupted

/-- A program for the inside of the critical section: it leaves the lock to those around it. -/
abbrev Within (program : Store T α) : Prop := program.Uses fun op => op.locks = false

section Within

variable {D T R : Type}

theorem orThrow_within (reply : Except Errno α) : Within (orThrow reply : Store T α) := by
  cases reply with
  | ok value => exact .done value
  | error code => exact .throw _

theorem orRaise_within (reply : Except StoreError α) : Within (orRaise reply : Store T α) := by
  cases reply with
  | ok value => exact .done value
  | error error => exact .throw _

theorem syncDirectory_within : Within (syncDirectory : Store T Unit) := by
  refine .call _ _ rfl fun reply => ?_
  cases reply with
  | ok value => exact .done value
  | error code =>
    show Within (if toleratedBySyncDirectory code then _ else _)
    split
    · exact .done ()
    · exact .throw _

theorem exists_within (slot : Slot) : Within (exists_ slot : Store T Bool) :=
  .call _ _ rfl fun _ => .done _

theorem rename_within (source target : Slot) : Within (rename source target : Store T Unit) :=
  .call _ _ rfl orThrow_within

theorem rm_within (slot : Slot) : Within (rm slot : Store T Unit) := .call _ _ rfl orThrow_within

theorem assertLockOwnership_within : Within (assertLockOwnership : Store T Unit) :=
  .call _ _ rfl orRaise_within

theorem mkdir_within : Within (mkdir : Store T Unit) := .call _ _ rfl orThrow_within

theorem setData_within (envelope : Envelope T) : Within (setData envelope) :=
  .call _ _ rfl fun _ => .done _

theorem getData_within : Within (getData : Store T (Option (Envelope T))) :=
  .call _ _ rfl fun _ => .done _

theorem readCandidate_within (slot : Slot) : Within (readCandidate slot : Store T (Candidate T)) := by
  refine .call _ _ rfl fun reply => ?_
  cases reply with
  | ok content => exact .done _
  | error code => cases code <;> exact .done _

theorem readCandidates_within : Within (readCandidates : Store T (List (Candidate T))) :=
  (readCandidate_within _).bind fun _ => (readCandidate_within _).bind fun _ =>
    (readCandidate_within _).bind fun _ => .done _

theorem undoMove_within : Within (undoMove : Store T Unit) := by
  refine (exists_within _).bind fun current => ?_
  split
  · refine (exists_within _).bind fun backup => ?_
    split
    · exact ((rename_within _ _).catching fun _ => .done _).bind fun _ => .throw _
    · exact .throw _
  · exact .throw _

theorem commit_within (envelope : Envelope T) : Within (commit envelope) := by
  have opened : Within (openFile .next : Store T Unit) := .call _ _ rfl orThrow_within
  have written : Within (writeFile .next envelope) := .call _ _ rfl orThrow_within
  have synced : Within (sync .next : Store T Unit) := .call _ _ rfl orThrow_within
  have closed : Within (close .next : Store T Unit) := .call _ _ rfl orThrow_within
  have published : Within (T := T) (do
      Program.catching (do rename .next .current; syncDirectory) fun _ => undoMove
      Program.catching (do rm .backup; syncDirectory) fun _ => pure ()) := by
    refine Program.Uses.bind ?_ fun _ => ?_
    · exact ((rename_within _ _).bind fun _ => syncDirectory_within).catching fun _ => undoMove_within
    · exact ((rm_within _).bind fun _ => syncDirectory_within).catching fun _ => .done _
  refine assertLockOwnership_within.bind fun _ => mkdir_within.bind fun _ => opened.bind fun _ => ?_
  refine Program.Uses.bind ((written.bind fun _ => synced).finally_ closed) fun _ => ?_
  refine syncDirectory_within.bind fun _ => assertLockOwnership_within.bind fun _ => ?_
  refine (rm_within _).bind fun _ => (exists_within _).bind fun hadCurrent => ?_
  split
  · exact (rename_within _ _).bind fun _ => published
  · exact published

theorem removeLeftovers_within (backupFirst : Bool) :
    Within (removeLeftovers backupFirst : Store T Unit) :=
  (rm_within _).attempt.bind fun first => (rm_within _).attempt.bind fun second =>
    (orRaise_within first).bind fun _ => orRaise_within second

theorem parse_within (config : Config D T) (draft : D) : Within (parse config draft) := by
  unfold parse
  split
  · exact .done _
  · exact .throw _

variable [DecidableEq T]

theorem assertCompatibleWithCache_within (envelope : Envelope T) :
    Within (assertCompatibleWithCache envelope) := by
  refine getData_within.bind fun cached => ?_
  split
  · exact .done _
  · split
    · exact .throw _
    · split
      · exact .throw _
      · exact .done _

theorem loadLatest_within (config : Config D T) (backupFirst : Bool) :
    Within (loadLatest config backupFirst) := by
  refine assertLockOwnership_within.bind fun _ => mkdir_within.bind fun _ => ?_
  refine readCandidates_within.bind fun candidates => ?_
  dsimp only
  split
  · split
    · exact .throw _
    · refine getData_within.bind fun cached => ?_
      split
      · exact .throw _
      · exact (parse_within _ _).bind fun _ => (commit_within _).bind fun _ =>
          (setData_within _).bind fun _ => .done _
  · refine (assertCompatibleWithCache_within _).bind fun _ => ?_
    split
    · exact (commit_within _).bind fun _ => (setData_within _).bind fun _ => .done _
    · exact (removeLeftovers_within _).bind fun _ => (setData_within _).bind fun _ => .done _

theorem assertDiskMatches_within (envelope : Envelope T) : Within (assertDiskMatches envelope) := by
  refine readCandidates_within.bind fun candidates => ?_
  split
  · split
    · exact .done _
    · exact .throw _
  · exact .throw _

theorem update_within (config : Config D T) (mutator : Mutator D T R) (base : Envelope T) :
    Within (update config mutator base) := by
  unfold update
  split
  · exact .throw _
  · split
    · exact .done _
    · exact (parse_within _ _).bind fun _ => (assertDiskMatches_within _).bind fun _ =>
        (commit_within _).bind fun _ => (setData_within _).bind fun _ => .done _

theorem Request.update_within (config : Config D T) (request : Request D T R) (base : Envelope T) :
    Within (request.update config base) := by
  cases request with
  | load => exact .done _
  | mutate mutator => exact (AtomicJsonStore.update_within config mutator base).bind fun _ => .done _

end Within

variable {D T R : Type} {config : Config D T} {ledger : Ledger D T R}

/-- `later` is the update of `earlier` by the call that the entry names. -/
def Continues (config : Config D T) (earlier later : Entry D T R) : Prop :=
  ∃ token mutator, later.update = some (token, mutator) ∧
    Successor config mutator earlier.envelope later.envelope

/-- The entries start from the defaults and continue by updates. -/
structure Chained (config : Config D T) (entries : List (Entry D T R)) : Prop where
  start : ∀ entry, entries.head? = some entry → entry.envelope.generation = 0 ∧
    config.parse config.defaults = some entry.envelope.payload
  continues : entries.IsChain (Continues config)

/-- What may come next: the defaults before all else, then the last entry again or its update by
the writer. -/
def Follows (config : Config D T) (ledger : Ledger D T R) (envelope : Envelope T) : Prop :=
  match ledger.entries.getLast? with
  | none => envelope.generation = 0 ∧ config.parse config.defaults = some envelope.payload
  | some last => envelope = last.envelope ∨
      ∃ token mutator, ledger.writer = some (token, mutator) ∧
        Successor config mutator last.envelope envelope

/-- Every slot holds what may come next, and what has been settled left evidence on disk. -/
structure Coherent (config : Config D T) (ledger : Ledger D T R) (slots : Slots T) : Prop where
  follows : ∀ slot envelope, slots.holds slot envelope → Follows config ledger envelope
  evidence : ledger.entries ≠ [] → ∃ slot, slots slot ≠ none

/-- The answer of a fulfilled `mutate`: from a settled state it left as it was, or from the one
before its own entry. -/
def Fulfils (config : Config D T) (entries : List (Entry D T R)) (token : Token)
    (mutator : Mutator D T R) (result : Option R) : Prop :=
  (∃ base ∈ entries, ∃ draft answer, mutator base.envelope.payload = .ok ⟨false, draft, answer⟩ ∧
    result = some answer) ∨
  ∃ before base envelope after answer,
    entries = before ++ base :: ⟨envelope, some (token, mutator)⟩ :: after ∧
    Updates config mutator base.envelope envelope answer ∧ result = some answer

def updaters (entries : List (Entry D T R)) : List Token :=
  entries.filterMap fun entry => entry.update.map (·.1)

theorem mem_updaters {entries : List (Entry D T R)} :
    token ∈ updaters entries ↔ ∃ entry ∈ entries, ∃ mutator, entry.update = some (token, mutator) := by
  simp [updaters]

section Entries

variable [DecidableEq T] {entries : List (Entry D T R)} {envelope : Envelope T}
  {writer : Option (Token × Mutator D T R)}

theorem note_same (last : ledger.entries.getLast? = some entry) :
    (ledger.note entry.envelope writer).entries = ledger.entries := by
  simp [Ledger.note, last]

theorem note_new (new : ledger.entries.getLast?.map (·.envelope) ≠ some envelope) :
    (ledger.note envelope writer).entries = ledger.entries ++ [⟨envelope, ledger.writer⟩] := by
  simp [Ledger.note, new]

theorem note_last (ledger : Ledger D T R) (envelope : Envelope T)
    (writer : Option (Token × Mutator D T R)) :
    ∃ entry, (ledger.note envelope writer).entries.getLast? = some entry ∧
      entry.envelope = envelope := by
  unfold Ledger.note
  split
  · rename_i same
    obtain ⟨entry, last, rfl⟩ := Option.map_eq_some_iff.1 same
    exact ⟨entry, last, rfl⟩
  · exact ⟨⟨envelope, ledger.writer⟩, by simp, rfl⟩

theorem note_prefix (ledger : Ledger D T R) (envelope : Envelope T)
    (writer : Option (Token × Mutator D T R)) :
    ∃ rest, (ledger.note envelope writer).entries = ledger.entries ++ rest := by
  unfold Ledger.note
  split
  · exact ⟨[], by simp⟩
  · exact ⟨_, rfl⟩

theorem mem_note {entry : Entry D T R} (member : entry ∈ (ledger.note envelope writer).entries) :
    entry ∈ ledger.entries ∨ entry.update = ledger.writer := by
  unfold Ledger.note at member
  dsimp only at member
  split at member
  · exact Or.inl member
  · rcases List.mem_append.1 member with before | here
    · exact Or.inl before
    · rw [List.mem_singleton.1 here]
      exact Or.inr rfl

/-- No update comes to the entries twice. -/
theorem note_once (once : (updaters ledger.entries).Nodup)
    (fresh : ∀ token mutator, ledger.writer = some (token, mutator) → token ∉ updaters ledger.entries) :
    (updaters (ledger.note envelope writer).entries).Nodup := by
  unfold Ledger.note
  dsimp only
  split
  · exact once
  · rw [updaters, List.filterMap_append]
    cases began : ledger.writer with
    | none => simpa [updaters] using once
    | some update =>
      exact once.append (List.nodup_singleton update.1)
        (List.disjoint_singleton.2 (fresh update.1 update.2 began))

omit [DecidableEq T] in
theorem Chained.snoc (chained : Chained config entries) (last : entries.getLast? = some entry)
    (continues : Continues config entry new) : Chained config (entries ++ [new]) := by
  constructor
  · intro first head
    apply chained.start
    cases entries with
    | nil => simp at last
    | cons entry' rest => simpa using head
  · rw [List.isChain_append]
    refine ⟨chained.continues, List.isChain_singleton _, ?_⟩
    intro earlier isLast later isFirst
    rw [last] at isLast
    cases isLast
    cases isFirst
    exact continues

/-- What may come next continues the chain. -/
theorem Chained.note (chained : Chained config ledger.entries) (follows : Follows config ledger envelope) :
    Chained config (ledger.note envelope writer).entries := by
  unfold Ledger.note
  dsimp only
  split
  · exact chained
  · rename_i new
    unfold Follows at follows
    cases last : ledger.entries.getLast? with
    | none =>
      rw [List.getLast?_eq_none_iff.1 last]
      simp only [last] at follows
      refine ⟨fun entry head => ?_, List.isChain_singleton _⟩
      cases head
      exact follows
    | some entry =>
      simp only [last] at follows new
      rcases follows with same | ⟨token, mutator, update, successor⟩
      · rw [same] at new
        exact (new rfl).elim
      · exact chained.snoc last ⟨token, mutator, update, successor⟩

omit [DecidableEq T] in
theorem Follows.last (last : ledger.entries.getLast? = some entry) :
    Follows config ledger entry.envelope := by
  simp [Follows, last]

omit [DecidableEq T] in
theorem Coherent.only (last : ledger.entries.getLast? = some entry) :
    Coherent config ledger (Slots.only entry.envelope) := by
  constructor
  · intro slot held holds
    obtain ⟨-, rfl⟩ := holds_only holds
    exact Follows.last last
  · intro _
    exact ⟨.current, by simp [Slots.only]⟩

omit [DecidableEq T] in
theorem Fulfils.mono {token : Token} {mutator : Mutator D T R} {result : Option R}
    (fulfils : Fulfils config entries token mutator result) (rest : List (Entry D T R)) :
    Fulfils config (entries ++ rest) token mutator result := by
  rcases fulfils with ⟨base, member, unchanged⟩ | ⟨before, base, envelope, after, answer, rfl, updates⟩
  · exact Or.inl ⟨base, List.mem_append_left _ member, unchanged⟩
  · refine Or.inr ⟨before, base, envelope, after ++ rest, answer, ?_, updates⟩
    simp

end Entries

section Programs

variable {slots : Slots T} {envelope : Envelope T}

/-- Crashes may tear `next` whatever the other slots hold. -/
def anyTear : Spare T := fun _ _ => True

theorem Coherent.base (coherent : Coherent config ledger slots) (isBase : Base config slots envelope) :
    Follows config ledger envelope := by
  rcases isBase with ⟨slot, selected⟩ | ⟨empty, initial⟩
  · exact coherent.follows slot envelope (selectCandidate_some slots selected).1
  · have nothing : ledger.entries = [] := by
      by_contra some
      obtain ⟨slot, present⟩ := coherent.evidence some
      exact present (empty slot)
    unfold Follows
    rw [nothing]
    exact initial

/-- Settling what may come next keeps the slots coherent at every crash point. -/
theorem Coherent.dies (coherent : Coherent config ledger slots)
    (follows : Follows config ledger envelope) :
    Dies anyTear slots envelope (Coherent config ledger) := by
  refine ⟨coherent, fun slots' keeps => ⟨?_, fun _ => ?_⟩, fun _ => ⟨?_, fun _ => ?_⟩⟩
  · intro slot held holds
    rcases keeps.older slot held holds with rfl | ⟨other, heldBefore⟩
    · exact follows
    · exact coherent.follows other held heldBefore
  · obtain ⟨slot, holds⟩ := keeps.kept
    exact ⟨slot, Option.isSome_iff_ne_none.1 holds.isSome⟩
  · intro slot held holds
    cases slot with
    | next => simp [Slots.holds] at holds
    | current => exact coherent.follows .current held (by simpa [Slots.holds, Slots.set] using holds)
    | backup => exact coherent.follows .backup held (by simpa [Slots.holds, Slots.set] using holds)
  · exact ⟨.next, by simp⟩

/-- How the first half of a critical section ends. -/
def Loads (config : Config D T) (ledger : Ledger D T R) :
    Except StoreError (Envelope T) → State T → Prop :=
  either
    (fun base s => s.slots = Slots.only base ∧ s.data = some base ∧ Follows config ledger base)
    (fun _ s => Coherent config ledger s.slots)

/-- How the second half ends: with the base as it was, or with its successor. -/
def Finishes (config : Config D T) (ledger : Ledger D T R) (request : Request D T R)
    (base : Envelope T) : Except StoreError (Option R) → State T → Prop :=
  either
    (fun result s =>
      s.slots = Slots.only base ∧ s.data = some base ∧ (∀ mutator, request = .mutate mutator →
        ∃ draft answer, mutator base.payload = .ok ⟨false, draft, answer⟩ ∧ result = some answer) ∨
      ∃ mutator envelope answer, request = .mutate mutator ∧
        Updates config mutator base envelope answer ∧ result = some answer ∧
        s.slots = Slots.only envelope ∧ s.data = some envelope)
    (fun _ s => Coherent config ledger s.slots)

/-- The update leaves something in memory. -/
theorem Finishes.remembers {request : Request D T R} {base : Envelope T} {answer : Option R} {s : State T}
    (ends : Finishes config ledger request base (.ok answer) s) (empty : s.data = none) : False := by
  rcases ends with ⟨_, data, _⟩ | ⟨_, _, _, _, _, _, _, data⟩
  · rw [empty] at data
    cases data
  · rw [empty] at data
    cases data

abbrev cwp (config : Config D T) (ledger : Ledger D T R) (program : Store T α)
    (post : Except StoreError α → State T → Prop) (s : State T) : Prop :=
  wp (device T) (crashOnly anyTear) (fun s' => Coherent config ledger s'.slots) program post s

variable [DecidableEq T]

theorem loadLatest_cwp {s : State T} (backupFirst : Bool) (locked : s.locked = true)
    (coherent : Coherent config ledger s.slots) :
    cwp config ledger (loadLatest config backupFirst) (Loads config ledger) s := by
  apply loadLatest_wp locked coherent
  · exact fun envelope isBase => coherent.dies (coherent.base isBase)
  · exact fun reason _ => coherent
  · intro envelope s' readable slots data _
    exact ⟨slots, data, coherent.base readable.base⟩

theorem update_cwp {s : State T} {entry : Entry D T R} (request : Request D T R)
    (writer : ledger.writer = request.writer token) (locked : s.locked = true)
    (last : ledger.entries.getLast? = some entry)
    (slots : s.slots = Slots.only entry.envelope) (data : s.data = some entry.envelope) :
    cwp config ledger (request.update config entry.envelope) (Finishes config ledger request entry.envelope)
      s := by
  have coherent : Coherent config ledger (Slots.only entry.envelope) := Coherent.only last
  cases request with
  | load => exact Or.inl ⟨slots, data, nofun⟩
  | mutate mutator =>
    have follows : ∀ envelope, Successor config mutator entry.envelope envelope →
        Follows config ledger envelope := by
      intro envelope successor
      unfold Follows
      rw [last]
      exact Or.inr ⟨token, mutator, writer, successor⟩
    refine wp_seq (update_wp locked slots ?_ ?_ ?_ ?_)
    · exact fun envelope successor => coherent.dies (follows envelope successor)
    · intro reason
      show Coherent config ledger s.slots
      rw [slots]
      exact coherent
    · intro draft result decided
      refine Or.inl ⟨slots, data, fun mutator' same => ?_⟩
      cases same
      exact ⟨draft, result, decided, rfl⟩
    · intro envelope result s' updates slots' data' _
      exact Or.inr ⟨mutator, envelope, result, rfl, updates, rfl, slots', data'⟩

end Programs

end AtomicJsonStore
