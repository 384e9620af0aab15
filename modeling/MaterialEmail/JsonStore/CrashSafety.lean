import MaterialEmail.JsonStore.Load

/-! Runs of loads and updates cut short by crashes: once a write has been acknowledged, a fresh
instance finds its state or that of a write that a later crash interrupted. -/
namespace JsonStore

open Interrupted

variable {D T : Type}

inductive Request (D T : Type) where
  | load
  | update (mutator : Mutator D T)

/-- One use of the store, by a fresh instance or by the one before. -/
structure Call (D T : Type) where
  request : Request D T
  fresh : Bool
  faults : List (Fault Errno)

/-- Between two calls: the directory, the `#data` of the instance, and what a load may find: the
last acknowledged state, and the states whose writes have been interrupted since. -/
structure History (T : Type) where
  directory : Directory Path T
  memory : Option T
  states : List T
  acknowledged : Bool
  deriving DecidableEq, Repr

def History.initial : History T := ⟨⟨[], 0⟩, none, [], false⟩

def History.start (h : History T) (fresh : Bool) : State T :=
  ⟨h.directory, if fresh then none else h.memory, none, none⟩

def Call.program (config : Config D T) (call : Call D T) : Store T T :=
  match call.request with
  | .load => load config
  | .update mutator => update config mutator

/-- What was written last counts; what was being written counts if a crash interrupted it, or if
there is nothing better. -/
def History.after (h : History T) (crashed : Bool) (s : State T) : History T where
  directory := s.directory
  memory := if crashed then none else s.data
  states := (match s.written with
    | some value => [value]
    | none => h.states) ++
    if crashed || !(s.written.isSome || h.acknowledged) then s.writing.toList else []
  acknowledged := s.written.isSome || h.acknowledged

def step (config : Config D T) (h : History T) (call : Call D T) : History T :=
  match run (device T) (call.program config) call.faults (h.start call.fresh) with
  | (.crashed, s) => h.after true s
  | (_, s) => h.after false s

def History.run (config : Config D T) (h : History T) (calls : List (Call D T)) : History T :=
  calls.foldl (step config) h

/-- The faults of every call are crashes and renames that fail. -/
def Survivable (config : Config D T) : History T → List (Call D T) → Prop
  | _, [] => True
  | h, call :: calls =>
    Meets (device T) Interrupts (call.program config) call.faults (h.start call.fresh) ∧
      Survivable config (step config h call) calls

def Survivable.decide [DecidableEq T] (config : Config D T) :
    (h : History T) → (calls : List (Call D T)) → Decidable (Survivable config h calls)
  | _, [] => .isTrue trivial
  | h, call :: calls =>
    @instDecidableAnd _ _ inferInstance (Survivable.decide config (step config h call) calls)

instance [DecidableEq T] (config : Config D T) (h : History T) (calls : List (Call D T)) :
    Decidable (Survivable config h calls) := Survivable.decide config h calls

structure History.Safe (h : History T) : Prop where
  timed : h.directory.Timed
  sound : Sound (· ∈ h.states) (h.acknowledged = true) h.directory.get
  memory : ∀ value, h.memory = some value → h.directory.content .live = some (.text value)

section Steps

variable {config : Config D T} {h : History T} {s s' : State T} {value : T}

theorem History.Safe.aside (crashed : Bool) (fresh : Bool) (aside : Aside (h.start fresh) s)
    (timed : s.directory.Timed) (sound : Sound (· ∈ h.states) (h.acknowledged = true) s.files)
    (memory : crashed = false → ∀ value, s.data = some value → s.live = some (.text value)) :
    (h.after crashed s).Safe := by
  have written : s.written = none := aside.written
  have writing : s.writing = none := aside.writing
  refine ⟨timed, ?_, ?_⟩
  · apply sound.mono
    · intro value isOk
      simpa [History.after, written, writing] using isOk
    · simp [History.after, written]
  · intro value remembered
    cases crashed with
    | true => cases remembered
    | false => exact memory rfl value remembered

/-- A write is under way; `states` are those that could be found when it began. -/
theorem History.Safe.pending (states : List T) (kept : Prop) (crashed : Bool) (timed : s.directory.Timed)
    (writing : s.writing = some value)
    (found : (match s.written with
      | some value => [value]
      | none => h.states) = states)
    (keeps : s.written.isSome ∨ h.acknowledged = true → kept)
    (sound : Sound (fun found => found ∈ states ∨
      (crashed = true ∨ ¬ (s.written.isSome ∨ h.acknowledged = true)) ∧ found = value) kept s.files)
    (memory : crashed = false → ∀ value, s.data = some value → s.live = some (.text value)) :
    (h.after crashed s).Safe := by
  refine ⟨timed, ?_, ?_⟩
  · apply sound.mono
    · rintro other (isOk | ⟨interrupted, rfl⟩)
      · simp only [History.after, found, List.mem_append]
        exact Or.inl isOk
      · have counts : (crashed || !(s.written.isSome || h.acknowledged)) = true := by
          simpa using interrupted
        simp only [History.after, found, counts, ↓reduceIte, writing, Option.toList_some, List.mem_append,
          List.mem_singleton]
        exact Or.inr trivial
    · intro isAcknowledged
      exact keeps (by simpa [History.after] using isAcknowledged)
  · intro value' remembered
    cases crashed with
    | true => cases remembered
    | false => exact memory rfl value' remembered

theorem History.Safe.acknowledged (crashed : Bool) (timed : s.directory.Timed)
    (live : s.live = some (.text value)) (writing : s.writing = none) (written : s.written = some value)
    (memory : crashed = false → ∀ found, s.data = some found → found = value) :
    (h.after crashed s).Safe := by
  refine ⟨timed, ?_, ?_⟩
  · apply Sound.of_live live
    simp [History.after, written, writing]
  · intro found remembered
    cases crashed with
    | true => cases remembered
    | false =>
      rw [memory rfl found remembered]
      exact live

/-- A load has ended well: the instance remembers the live file, which is among the states. -/
structure Loaded (h : History T) (value : T) (s : State T) : Prop where
  timed : s.directory.Timed
  live : s.live = some (.text value)
  data : s.data = some value
  writing : s.writing = none
  found : value ∈ (h.after false s).states

theorem Loaded.safe (loaded : Loaded h value s) (crashed : Bool) : (h.after crashed s).Safe := by
  have states : (h.after crashed s).states = (h.after false s).states := by
    simp [History.after, loaded.writing]
  refine ⟨loaded.timed, Sound.of_live loaded.live ?_, ?_⟩
  · rw [states]
    exact loaded.found
  · intro found remembered
    cases crashed with
    | true => cases remembered
    | false =>
      have same : s.data = some found := remembered
      rw [loaded.data] at same
      cases same
      exact loaded.live

theorem start_sound (safe : h.Safe) (fresh : Bool) :
    Sound (· ∈ h.states) (h.acknowledged = true) (h.start fresh).files := safe.sound

/-- The defaults of a first run, or the state of an update, have been stored. -/
theorem Loaded.of_acknowledged (acknowledged : Acknowledged value s s') :
    Loaded h value { s' with data := some value } := by
  refine ⟨acknowledged.timed, acknowledged.live, rfl, acknowledged.writing, ?_⟩
  simp [History.after, acknowledged.written]

theorem load_settles (config : Config D T) (safe : h.Safe) (fresh : Bool) :
    wp (device T) Interrupts (fun s => (h.after true s).Safe) (load config)
      (either (Loaded h) fun _ s => (h.after false s).Safe) (h.start fresh) := by
  have timed : (h.start fresh).directory.Timed := safe.timed
  have sound := start_sound safe fresh
  have dies : ∀ s', Aside (h.start fresh) s' → s'.directory.Timed →
      Sound (· ∈ h.states) (h.acknowledged = true) s'.files → (h.after true s').Safe :=
    fun s' aside timed sound => .aside true fresh aside timed sound (fun survives => by cases survives)
  cases data : (h.start fresh).data with
  | some value =>
    -- the instance remembers what is in the live file
    have live : (h.start fresh).live = some (.text value) := by
      cases fresh with
      | true => cases data
      | false => exact safe.memory value data
    have loaded : Loaded h value (h.start fresh) := by
      refine ⟨timed, live, data, rfl, ?_⟩
      obtain ⟨file, found, content⟩ := Option.map_eq_some_iff.1 live
      obtain ⟨value', content', isOk⟩ := sound.live found
      rw [content] at content'
      cases content'
      simpa [History.after, History.start] using isOk
    refine wp_seq ⟨fun _ => ?_, (fun _ _ fallible _ => by cases fallible), fun extent _ => ?_⟩
    · show wp _ _ _ (match (h.start fresh).data with
        | some data => pure data
        | none => do
          let data ← loadFromDisk config
          setData data
          return data) _ (h.start fresh)
      rw [data]
      exact loaded
    · cases extent <;> exact dies _ (.refl _) timed sound
  | none =>
    have fails : ∀ s', Aside (h.start fresh) s' → s'.directory.Timed →
        Sound (· ∈ h.states) (h.acknowledged = true) s'.files → (h.after false s').Safe := by
      intro s' aside timed sound
      apply History.Safe.aside false fresh aside timed sound
      intro _ value remembered
      rw [aside.data, data] at remembered
      cases remembered
    apply load_wp data (dies _ (.refl _) timed sound)
    apply loadFromDisk_wp interrupts_gentle timed sound dies
    · intro value s' isOk aside timed live
      have loaded : Loaded h value { s' with data := some value } := by
        have writing : s'.writing = none := aside.writing
        have written : s'.written = none := aside.written
        refine ⟨timed, live, rfl, writing, ?_⟩
        simpa [History.after, writing, written] using isOk
      exact ⟨dies s' aside timed (.of_live live isOk), loaded.safe true, loaded⟩
    · exact fun error s' _ => fails s'
    · exact fun _ _ _ => fails _ (.refl _) timed sound
    · -- the first run: nothing has been acknowledged, or a copy would be there
      intro unwritten
      have unacknowledged : ¬ h.acknowledged = true := by
        intro kept
        obtain ⟨path, value, time, isCandidate, holds⟩ := (sound.missing unwritten.1).1 kept
        rw [unwritten.2 path isCandidate] at holds
        cases holds
      unfold write
      cases serializeAndValidate config config.defaults with
      | error error => exact fails _ (.refl _) timed sound
      | ok value =>
        apply writeFirst_wp interrupts_gentle timed sound unwritten.1 (dies _ (.refl _) timed sound)
        · intro s' pending sound
          have written : s'.written = none := pending.written
          apply History.Safe.pending h.states (h.acknowledged = true) true pending.timed pending.writing
          · rw [written]
          · simp [written]
          · exact sound.mono (fun _ isOk => by simpa using isOk) id
          · exact fun survives => by cases survives
        · intro s' acknowledged
          exact .acknowledged true acknowledged.timed acknowledged.live acknowledged.writing
            acknowledged.written (fun survives => by cases survives)
        · intro s' acknowledged
          have loaded : Loaded h value _ := .of_acknowledged acknowledged
          refine ⟨?_, loaded.safe true, loaded⟩
          exact .acknowledged true acknowledged.timed acknowledged.live acknowledged.writing
            acknowledged.written (fun survives => by cases survives)
        · intro error s' _ pending _ sound
          have written : s'.written = none := pending.written
          apply History.Safe.pending h.states (h.acknowledged = true) false pending.timed pending.writing
          · rw [written]
          · simp [written]
          · exact sound.mono (fun _ isOk => by simpa [written, unacknowledged] using isOk) id
          · intro _ found remembered
            rw [pending.data, data] at remembered
            cases remembered

/-- An update that has been refused before it wrote anything. -/
theorem Loaded.refused (loaded : Loaded h value s) : (h.after false s).Safe := loaded.safe false

theorem update_settles (config : Config D T) (mutator : Mutator D T) (safe : h.Safe) (fresh : Bool) :
    wp (device T) Interrupts (fun s => (h.after true s).Safe) (update config mutator)
      (either (Loaded h) fun _ s => (h.after false s).Safe) (h.start fresh) := by
  refine wp_seq (wp_mono (load_settles config safe fresh) ?_ fun _ => id)
  intro result s loaded
  cases result with
  | error error => exact loaded
  | ok current =>
    simp only [either_ok] at loaded ⊢
    cases mutator current with
    | error reason => exact loaded.refused
    | ok draft =>
      refine wp_seq ?_
      unfold write
      cases serializeAndValidate config draft with
      | error error => exact loaded.refused
      | ok value =>
        have agrees : s.Agrees := by
          rw [State.Agrees, loaded.live, loaded.data]
          rfl
        have sound : Sound (· ∈ (h.after false s).states) True s.files := .of_live loaded.live loaded.found
        have found : (match s.written with
            | some value => [value]
            | none => h.states) = (h.after false s).states := by
          simp [History.after, loaded.writing]
        refine wp_weaken (writeValidated_wp value loaded.timed sound agrees (loaded.safe true) ?_ ?_ ?_ ?_)
          fun op fault s => Interrupts.spares _
        · intro s' pending sound
          apply History.Safe.pending (h.after false s).states True true pending.timed pending.writing
          · rw [pending.written, found]
          · exact fun _ => trivial
          · exact sound.mono (fun _ isOk => by simpa using isOk) id
          · exact fun survives => by cases survives
        · intro s' acknowledged
          exact .acknowledged true acknowledged.timed acknowledged.live acknowledged.writing
            acknowledged.written (fun survives => by cases survives)
        · intro s' acknowledged
          have loaded' : Loaded h value _ := .of_acknowledged acknowledged
          refine ⟨fun _ => loaded', (fun _ _ fallible _ => by cases fallible), fun extent _ => ?_⟩
          cases extent with
          | after => exact loaded'.safe true
          | _ =>
            exact .acknowledged true acknowledged.timed acknowledged.live acknowledged.writing
              acknowledged.written (fun survives => by cases survives)
        · intro error s' pending live _
          -- the write has left the live file alone
          have same : s'.live = some (.text current) := live.trans loaded.live
          apply History.Safe.pending (h.after false s).states True false pending.timed pending.writing
          · rw [pending.written, found]
          · exact fun _ => trivial
          · exact .of_live same (Or.inl loaded.found)
          · intro _ remembered data
            rw [pending.data, loaded.data] at data
            cases data
            exact same

theorem step_safe (config : Config D T) (safe : h.Safe) (call : Call D T)
    (meets : Meets (device T) Interrupts (call.program config) call.faults (h.start call.fresh)) :
    (step config h call).Safe := by
  have settles : wp (device T) Interrupts (fun s => (h.after true s).Safe) (call.program config)
      (either (Loaded h) fun _ s => (h.after false s).Safe) (h.start call.fresh) := by
    unfold Call.program
    cases call.request with
    | load => exact load_settles config safe call.fresh
    | update mutator => exact update_settles config mutator safe call.fresh
  have sound := wp_sound settles meets
  unfold step
  generalize run (device T) (call.program config) call.faults (h.start call.fresh) = ended at sound
  obtain ⟨outcome, s⟩ := ended
  cases outcome with
  | returned value => exact Loaded.safe sound false
  | threw error => exact sound
  | crashed => exact sound

theorem run_safe (config : Config D T) (calls : List (Call D T)) (safe : h.Safe)
    (interrupted : Survivable config h calls) : (h.run config calls).Safe := by
  induction calls generalizing h with
  | nil => exact safe
  | cons call calls ih => exact ih (step_safe config safe call interrupted.1) interrupted.2

theorem initial_safe : (History.initial : History T).Safe := by
  constructor
  · intro path file found
    cases found
  · unfold Sound
    constructor
    · intro kept
      cases kept
    · intro path value time newest
      cases newest.1.2
  · intro value remembered
    cases remembered

theorem load_finds (config : Config D T) (safe : h.Safe) (acknowledged : h.acknowledged = true) :
    wp (device T) Undisturbed (fun _ => True) (load config)
      (either (fun value _ => value ∈ h.states) fun _ _ => False) (h.start true) := by
  have sound := start_sound safe true
  have unfailing : ¬ Fails (T := T) Undisturbed := by
    rintro ⟨op, code, extent, s, strikes⟩
    cases strikes
  have copy : (h.start true).files .live = none →
      ∃ path value time, Valid (h.start true).files path value time :=
    fun missing => (sound.missing missing).1 acknowledged
  apply load_wp rfl trivial
  apply loadFromDisk_wp undisturbed_gentle safe.timed sound (fun _ _ _ _ => trivial)
  · exact fun value s' isOk _ _ _ => ⟨trivial, trivial, isOk⟩
  · exact fun error s' strikes => absurd strikes unfailing
  · intro missing invalid
    obtain ⟨path, value, time, valid⟩ := copy missing
    exact absurd valid (invalid path value time)
  · intro unwritten
    obtain ⟨path, value, time, isCandidate, holds⟩ := copy unwritten.1
    rw [unwritten.2 path isCandidate] at holds
    cases holds

end Steps

/-- Once a write has been acknowledged, a fresh instance that nothing disturbs loads its state or
that of a write which a later crash interrupted. -/
theorem acknowledged_found (config : Config D T) (calls : List (Call D T))
    (interrupted : Survivable config .initial calls)
    (acknowledged : (History.initial.run config calls).acknowledged = true) :
    ∃ value s, run (device T) (load config) [] ((History.initial.run config calls).start true) =
        (.returned value, s) ∧ value ∈ (History.initial.run config calls).states := by
  have safe := run_safe config calls initial_safe interrupted
  rcases wp_run_clean (load_finds config safe acknowledged) fun _ _ => rfl with
    ⟨value, s, returned, found⟩ | ⟨error, s, threw, impossible⟩
  · exact ⟨value, s, returned, found⟩
  · exact impossible.elim

/-- Numbers in a store whose defaults are zero, for runs on given inputs. -/
def numbers : Config Nat Nat := ⟨0, some, some, id, 100⟩

def setTo (value : Nat) : Mutator Nat Nat := fun _ => .ok value

/-- The first update dies between the two renames over a displaced live file, and the recovery
dies while it copies the temporary. -/
def displacedUpdate : List (Call Nat Nat) :=
  [⟨.load, true, []⟩,
   ⟨.update (setTo 1), true, List.replicate 23 .none ++ [.fail .EPERM .before, .none, .none, .crash .before]⟩,
   ⟨.load, true, List.replicate 13 .none ++ [.crash .partway]⟩]

theorem displacedUpdate_found :
    ∃ value s, run (device Nat) (load numbers) [] ((History.initial.run numbers displacedUpdate).start true) =
        (.returned value, s) ∧ value ∈ (History.initial.run numbers displacedUpdate).states :=
  acknowledged_found numbers displacedUpdate (by decide) (by decide)

end JsonStore
