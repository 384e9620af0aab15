import MaterialEmail.AtomicJsonStore.Load

/-! Runs of calls cut short by crashes. An acknowledged state stays recoverable as long
as no crash tears `next` while it holds the only copy; a recovery that is itself
interrupted can do that. -/
namespace AtomicJsonStore

open Interrupted

variable {D T R : Type}

inductive Request (D T R : Type) where
  | load
  | mutate (mutator : Mutator D T R)

/-- One use of the store by some instance, with what that instance remembers: nothing if it is
fresh. The faults are the crashes that befall it. -/
structure Call (D T R : Type) where
  request : Request D T R
  memory : Option (Envelope T)
  backupFirst : Bool
  faults : List (Fault Errno)

/-- The directory and the last acknowledged state between two calls. -/
structure History (T : Type) where
  directory : Directory Slot (Envelope T)
  acknowledged : Option (Envelope T)
  deriving DecidableEq, Repr

def History.slots (h : History T) : Slots T := h.directory.content

/-- A process that starts finds no live owner of the lock. -/
def History.start (h : History T) (memory : Option (Envelope T)) : State T :=
  ⟨h.directory, memory, false⟩

/-- `envelope` is the state `acknowledged` or one that came later. -/
def Reaches (acknowledged envelope : Envelope T) : Prop :=
  acknowledged.generation < envelope.generation ∨ envelope = acknowledged

theorem Reaches.generation {a envelope : Envelope T} (reaches : Reaches a envelope) :
    a.generation ≤ envelope.generation := by
  rcases reaches with less | rfl
  · omega
  · exact Nat.le_refl _

instance [DecidableEq T] (acknowledged envelope : Envelope T) :
    Decidable (Reaches acknowledged envelope) := inferInstanceAs (Decidable (_ ∨ _))

def ReachedBy (acknowledged : Envelope T) : Option (Content (Envelope T)) → Prop
  | some (.text envelope) => Reaches acknowledged envelope
  | _ => False

instance [DecidableEq T] (acknowledged : Envelope T) :
    (content : Option (Content (Envelope T))) → Decidable (ReachedBy acknowledged content)
  | some (.text envelope) => inferInstanceAs (Decidable (Reaches acknowledged envelope))
  | some .torn => .isFalse id
  | none => .isFalse id

theorem ReachedBy.exists {acknowledged : Envelope T} {content : Option (Content (Envelope T))}
    (reached : ReachedBy acknowledged content) :
    ∃ envelope, content = some (.text envelope) ∧ Reaches acknowledged envelope := by
  rcases content with _ | envelope | _
  · exact reached.elim
  · exact ⟨envelope, rfl, reached⟩
  · exact reached.elim

/-- Slots that make a torn `next` harmless: `current` or `backup` holds the acknowledged state
or a later generation. -/
def covers (acknowledged : Option (Envelope T)) : Spare T := fun current backup =>
  match acknowledged with
  | none => True
  | some a => ReachedBy a current ∨ ReachedBy a backup

instance [DecidableEq T] (current backup : Option (Content (Envelope T))) :
    (acknowledged : Option (Envelope T)) → Decidable (covers acknowledged current backup)
  | none => .isTrue trivial
  | some a => inferInstanceAs (Decidable (ReachedBy a current ∨ ReachedBy a backup))

section Runs

variable [DecidableEq T]

/-- Returns whether the call acknowledged a state. -/
def Call.program (config : Config D T) (call : Call D T R) : Store T Bool :=
  match call.request with
  | .load => do
    let _ ← load config call.backupFirst
    return false
  | .mutate mutator => do
    let _ ← mutate config call.backupFirst mutator
    return true

def step (config : Config D T) (h : History T) (call : Call D T R) : History T :=
  match run (device T) (call.program config) call.faults (h.start call.memory) with
  | (.returned true, s) => ⟨s.directory, s.data⟩
  | (_, s) => ⟨s.directory, h.acknowledged⟩

def History.run (config : Config D T) (h : History T) (calls : List (Call D T R)) : History T :=
  calls.foldl (step config) h

/-- A later uninterrupted load by a fresh instance finds the acknowledged state or a later
generation in some slot. -/
def History.Recoverable (config : Config D T) (h : History T) : Prop :=
  ∀ acknowledged, h.acknowledged = some acknowledged → ∀ backupFirst, ∃ envelope s',
    Interrupted.run (device T) (load config backupFirst) [] (h.start none) = (.returned envelope, s') ∧
      (∃ slot, h.slots.holds slot envelope) ∧ Reaches acknowledged envelope

/-- Every fault of the run is a crash, and none tears `next` unless the rest covers. -/
def Spared (config : Config D T) : History T → List (Call D T R) → Prop
  | _, [] => True
  | h, call :: calls =>
    Meets (device T) (crashOnly (covers h.acknowledged)) (call.program config) call.faults
      (h.start call.memory) ∧ Spared config (step config h call) calls

def Spared.decide (config : Config D T) :
    (h : History T) → (calls : List (Call D T R)) → Decidable (Spared config h calls)
  | _, [] => .isTrue trivial
  | h, call :: calls => @instDecidableAnd _ _ inferInstance (Spared.decide config (step config h call) calls)

instance (config : Config D T) (h : History T) (calls : List (Call D T R)) :
    Decidable (Spared config h calls) := Spared.decide config h calls

end Runs

/-- `acknowledged` is covered by some slot, and no slot disagrees with it at its generation. -/
structure Safe (acknowledged : Envelope T) (slots : Slots T) : Prop where
  covered : ∃ slot envelope, slots.holds slot envelope ∧
    acknowledged.generation ≤ envelope.generation
  agrees : ∀ slot envelope, slots.holds slot envelope →
    envelope.generation = acknowledged.generation → envelope = acknowledged

variable {a envelope : Envelope T} {slots slots' : Slots T}

theorem Safe.base {config : Config D T} (safe : Safe a slots) (base : Base config slots envelope) :
    (∃ slot, slots.holds slot envelope) ∧ Reaches a envelope := by
  obtain ⟨slot, held, holds, newer⟩ := safe.covered
  rcases base with ⟨selected, chosen⟩ | ⟨empty, -⟩
  · obtain ⟨found, first⟩ := selectCandidate_some slots chosen
    refine ⟨⟨selected, found⟩, ?_⟩
    have atLeast : held.generation ≤ envelope.generation := by
      rcases first slot held holds with less | ⟨same, -⟩
      · exact Nat.le_of_lt less
      · exact Nat.le_of_eq same
    by_cases same : envelope.generation = a.generation
    · exact Or.inr (safe.agrees selected envelope found same)
    · exact Or.inl (by omega)
  · rw [Slots.holds, empty slot] at holds
    cases holds

theorem Safe.keeps (keeps : Keeps envelope slots slots') (reaches : Reaches a envelope)
    (agrees : ∀ slot held, slots.holds slot held → held.generation = a.generation → held = a) :
    Safe a slots' := by
  obtain ⟨slot, holds⟩ := keeps.kept
  refine ⟨⟨slot, envelope, holds, reaches.generation⟩, ?_⟩
  intro other held heldBy sameGeneration
  rcases keeps.older other held heldBy with rfl | ⟨before, heldBefore⟩
  · rcases reaches with less | same
    · omega
    · exact same
  · exact agrees before held heldBefore sameGeneration

theorem Safe.only (reaches : Reaches a envelope) : Safe a (Slots.only envelope) := by
  refine ⟨⟨.current, envelope, rfl, reaches.generation⟩, ?_⟩
  intro slot held holds sameGeneration
  obtain ⟨-, rfl⟩ := holds_only holds
  rcases reaches with less | same
  · omega
  · exact same

theorem Safe.torn (safe : Safe a slots) (covered : (covers (some a)).holds slots) :
    Safe a (slots.set .next (some .torn)) := by
  have older : ∀ slot held, (slots.set .next (some .torn)).holds slot held → slots.holds slot held := by
    intro slot held holds
    cases slot <;> simp_all [Slots.holds, Slots.set]
  refine ⟨?_, fun slot held holds => safe.agrees slot held (older slot held holds)⟩
  rcases covered with current | backup
  · obtain ⟨envelope, held, reaches⟩ := current.exists
    exact ⟨.current, envelope, by simpa [Slots.holds, Slots.set] using held, reaches.generation⟩
  · obtain ⟨envelope, held, reaches⟩ := backup.exists
    exact ⟨.backup, envelope, by simpa [Slots.holds, Slots.set] using held, reaches.generation⟩

/-- Whatever is settled over safe slots, if it reaches `a`, leaves them safe. -/
theorem Safe.dies (safe : Safe a slots) (reaches : Reaches a envelope) :
    Dies (covers (some a)) slots envelope (Safe a) :=
  ⟨safe, fun _ keeps => Safe.keeps keeps reaches safe.agrees, safe.torn⟩

theorem Reaches.successor {config : Config D T} {mutator : Mutator D T R} {base : Envelope T}
    (reaches : Reaches a base) (successor : Successor config mutator base envelope) :
    Reaches a envelope := by
  have atLeast := reaches.generation
  have next := successor.generation
  exact Or.inl (by omega)

def History.Safe (h : History T) : Prop :=
  ∀ a, h.acknowledged = some a → AtomicJsonStore.Safe a h.slots

section Steps

variable [DecidableEq T] {config : Config D T} {h : History T}

/-- Slots that are as safe as those of `h`. -/
def History.Dead (h : History T) (slots : Slots T) : Prop :=
  ∀ a, h.acknowledged = some a → AtomicJsonStore.Safe a slots

omit [DecidableEq T] in
theorem History.Safe.dies (safe : h.Safe) {base : Envelope T} (isBase : Base config h.slots base) :
    Dies (covers h.acknowledged) h.slots base h.Dead := by
  refine ⟨safe, fun slots' keeps a acknowledged => ?_, fun covered a acknowledged => ?_⟩
  · have reaches := ((safe a acknowledged).base isBase).2
    exact ((safe a acknowledged).dies reaches).kept slots' keeps
  · rw [acknowledged] at covered
    exact (safe a acknowledged).torn covered

omit [DecidableEq T] in
theorem History.Safe.diesNext (safe : h.Safe) {mutator : Mutator D T R} {base envelope : Envelope T}
    (isBase : Base config h.slots base) (successor : Successor config mutator base envelope) :
    Dies (covers h.acknowledged) (Slots.only base) envelope h.Dead := by
  refine ⟨fun a acknowledged => ?_, fun slots' keeps a acknowledged => ?_,
    fun covered a acknowledged => ?_⟩
  all_goals have reaches := ((safe a acknowledged).base isBase).2
  · exact Safe.only reaches
  · exact Safe.keeps keeps (reaches.successor successor) (Safe.only reaches).agrees
  · rw [acknowledged] at covered
    exact (Safe.only reaches).torn covered

/-- How a call may end: acknowledged with the slots safe for what it left in memory, or with
slots as safe as before. -/
def Ends (h : History T) : Except StoreError Bool → State T → Prop :=
  either
    (fun acknowledges s => if acknowledges then ∀ e, s.data = some e → AtomicJsonStore.Safe e s.slots
      else h.Dead s.slots)
    (fun _ s => h.Dead s.slots)

theorem program_wp (call : Call D T R) (safe : h.Safe) :
    wp (device T) (crashOnly (covers h.acknowledged)) (fun s => h.Dead s.slots)
      (call.program config) (Ends h) (h.start call.memory) := by
  have kept : ∀ base (s' : State T), Base config h.slots base → s'.slots = Slots.only base →
      h.Dead s'.slots := by
    intro base s' isBase slots
    rw [slots]
    exact (safe.dies isBase).kept _ (Keeps.only base h.slots)
  unfold Call.program
  cases call.request with
  | load =>
    refine wp_seq (load_wp rfl safe (fun _ => safe.dies) ?_ ?_)
    · intro reason s' _ slots
      show h.Dead s'.slots
      rw [slots]
      exact safe
    · intro envelope s' readable slots _ _
      exact kept envelope s' readable.base slots
  | mutate mutator =>
    refine wp_seq (mutate_wp rfl safe (fun _ => safe.dies) (fun _ _ => safe.diesNext) ?_ ?_ ?_ ?_)
    · intro reason s' slots
      show h.Dead s'.slots
      rw [slots]
      exact safe
    · intro reason base s' isBase slots
      exact kept base s' isBase slots
    · intro result base s' isBase slots data e remembered
      obtain rfl : base = e := by simpa [data] using remembered
      rw [slots]
      exact Safe.only (Or.inr rfl)
    · intro result base envelope s' isBase successor slots data e remembered
      obtain rfl : envelope = e := by simpa [data] using remembered
      rw [slots]
      exact Safe.only (Or.inr rfl)

theorem step_safe (call : Call D T R) (safe : h.Safe)
    (spared : Meets (device T) (crashOnly (covers h.acknowledged)) (call.program config) call.faults
      (h.start call.memory)) : (step config h call).Safe := by
  have ends := wp_sound (program_wp call safe) spared
  unfold step
  generalize Interrupted.run (device T) (call.program config) call.faults (h.start call.memory) =
    result at ends
  obtain ⟨outcome, s⟩ := result
  cases outcome with
  | returned acknowledges =>
    cases acknowledges with
    | true => exact ends
    | false => exact ends
  | threw reason => exact ends
  | crashed => exact ends

theorem run_safe (calls : List (Call D T R)) (safe : h.Safe) (spared : Spared config h calls) :
    (h.run config calls).Safe := by
  induction calls generalizing h with
  | nil => exact safe
  | cons call calls ih => exact ih (step_safe call safe spared.1) spared.2

theorem History.Safe.recoverable (safe : h.Safe) : h.Recoverable config := by
  intro a acknowledged backupFirst
  have safeSlots := safe a acknowledged
  obtain ⟨slot, held, holds, -⟩ := safeSlots.covered
  cases selected : selectCandidate h.slots.candidates with
  | none => exact ((selectCandidate_none h.slots).1 selected slot held holds).elim
  | some selection =>
    have base : Base config h.slots selection.2 := Or.inl ⟨selection.1, selected⟩
    have readable : Readable config (h.start none) selection.2 := ⟨base, nofun⟩
    obtain ⟨s', ran, -⟩ := load_returns backupFirst rfl readable
    exact ⟨selection.2, s', ran, safeSlots.base base⟩

end Steps

section Runs

variable [DecidableEq T]

/-- From any directory, whatever is called and crashes, what was acknowledged is recoverable:
provided no crash tears `next` while `current` and `backup` fall short of it. -/
theorem acknowledged_recoverable (config : Config D T) (directory : Directory Slot (Envelope T))
    (calls : List (Call D T R)) (spared : Spared config ⟨directory, none⟩ calls) :
    (History.run config ⟨directory, none⟩ calls).Recoverable config :=
  (run_safe calls (fun _ acknowledged => by cases acknowledged) spared).recoverable

end Runs

/-- Numbers behind `pim.json`, for runs on given inputs. -/
def numbers : Config Nat Nat := ⟨"pim.json", some, 0⟩

def setTo (value : Nat) : Mutator Nat Nat Unit := fun _ => .ok ⟨true, value, ()⟩

def crashAfter (operations : Nat) : List (Fault Errno) :=
  List.replicate operations .none ++ [.crash .after]

/-- The second mutation dies with its successor in `next` and the acknowledged state in
`backup`; a recovery dies rewriting `next`. -/
def backedUpRecovery : List (Call Nat Nat Unit) :=
  [⟨.mutate (setTo 1), none, true, []⟩,
   ⟨.mutate (setTo 2), none, true, crashAfter 23⟩,
   ⟨.load, none, true, crashAfter 9⟩]

theorem backedUpRecovery_recoverable :
    (History.run numbers ⟨⟨[], 0⟩, none⟩ backedUpRecovery).Recoverable numbers :=
  acknowledged_recoverable numbers ⟨[], 0⟩ backedUpRecovery (by decide)

/-- As before, but a first recovery gets as far as removing `backup`: the second one tears the
only copy. -/
def interruptedRecovery : List (Call Nat Nat Unit) :=
  [⟨.mutate (setTo 1), none, true, []⟩,
   ⟨.mutate (setTo 2), none, true, crashAfter 23⟩,
   ⟨.load, none, true, crashAfter 15⟩,
   ⟨.load, none, true, crashAfter 9⟩]

theorem interruptedRecovery_refuses :
    let h := History.run numbers ⟨⟨[], 0⟩, none⟩ interruptedRecovery
    (∀ call ∈ interruptedRecovery, ∀ fault ∈ call.faults, fault.isFailure = false) ∧
      h.acknowledged = some ⟨1, 1⟩ ∧
      (run (device Nat) (load numbers true) [] (h.start none)).1 = .threw (.persistence
        "The local PIM state is invalid in pim.json.next; no valid crash-recovery copy is available.") := by
  decide

end AtomicJsonStore
