import MaterialEmail.AtomicJsonStore.CrashSafety
import MaterialEmail.JsonStore.CrashSafety

/-! First runs of both stores from an empty directory, cut short by crashes. A later load writes the
defaults or finds what an interrupted write has left, unless all that is left is torn. -/

open Interrupted

namespace JsonStore

variable {D T : Type} {config : Config D T} {h : History T}

/-- There is no live file; there are recovery files, and none of them decodes. -/
structure Barren (files : Files T) : Prop where
  missing : files .live = none
  present : ∃ path : Path, path.isCandidate ∧ files path ≠ none
  invalid : ∀ path value time, ¬ Valid files path value time

/-- What `#loadFromDisk` may return: an interrupted write's state or, on the first run, the defaults. -/
def Started (config : Config D T) (h : History T) (value : T) : Prop :=
  value ∈ h.states ∨ serializeAndValidate config config.defaults = .ok value

theorem load_barren (config : Config D T) (safe : h.Safe) (barren : Barren h.directory.get) :
    wp (device T) Undisturbed (fun _ => True) (load config)
      (either (fun _ _ => False) fun error s => error = noneValid ∧ s = h.start true) (h.start true) := by
  have nothing : Sound (fun _ : T => False) False (h.start true).files := by
    have missing : (h.start true).files .live = none := barren.missing
    unfold Sound
    rw [missing]
    constructor
    · intro kept
      exact kept.elim
    · intro path value time newest
      exact barren.invalid path value time newest.1
  apply load_wp rfl trivial
  apply loadFromDisk_wp undisturbed_gentle safe.timed nothing (fun _ _ _ _ => trivial)
  · exact fun value s' isOk => isOk.elim
  · rintro error s' ⟨op, code, extent, s, strikes⟩
    cases strikes
  · exact fun _ _ _ => ⟨rfl, rfl⟩
  · intro unwritten
    obtain ⟨path, isCandidate, present⟩ := barren.present
    exact absurd (unwritten.2 path isCandidate) present

theorem load_started {defaults : T} (defaultsOk : serializeAndValidate config config.defaults = .ok defaults)
    (safe : h.Safe) (fertile : ¬ Barren h.directory.get) :
    wp (device T) Undisturbed (fun _ => True) (load config)
      (either (fun value _ => Started config h value) fun _ _ => False) (h.start true) := by
  have unfailing : ¬ Fails (T := T) Undisturbed := by
    rintro ⟨op, code, extent, s, strikes⟩
    cases strikes
  have sound := start_sound safe true
  apply load_wp rfl trivial
  apply loadFromDisk_wp undisturbed_gentle safe.timed sound (fun _ _ _ _ => trivial)
  · exact fun value s' isOk _ _ _ => ⟨trivial, trivial, Or.inl isOk⟩
  · exact fun error s' strikes => absurd strikes unfailing
  · exact fun missing invalid present => absurd ⟨missing, present, invalid⟩ fertile
  · intro unwritten
    unfold write
    rw [defaultsOk]
    apply writeFirst_wp undisturbed_gentle safe.timed sound unwritten.1 trivial (fun _ _ _ => trivial)
      (fun _ _ => trivial)
    · exact fun s' acknowledged => ⟨trivial, trivial, Or.inr defaultsOk⟩
    · exact fun error s' strikes => absurd strikes unfailing

/-- How a load by a fresh instance ends that nothing disturbs: it starts, or it refuses and changes
nothing, and that only over recovery files none of which decodes. -/
def Starts (config : Config D T) (h : History T) : Prop :=
  (¬ Barren h.directory.get → ∃ value s,
    run (device T) (load config) [] (h.start true) = (.returned value, s) ∧ Started config h value) ∧
  (Barren h.directory.get →
    run (device T) (load config) [] (h.start true) = (.threw noneValid, h.start true))

theorem load_starts {defaults : T} (defaultsOk : serializeAndValidate config config.defaults = .ok defaults)
    (safe : h.Safe) : Starts config h := by
  constructor
  · intro fertile
    rcases wp_run_clean (load_started defaultsOk safe fertile) fun _ _ => rfl with
      ⟨value, s, returned, started⟩ | ⟨error, s, threw, impossible⟩
    · exact ⟨value, s, returned, started⟩
    · exact impossible.elim
  · intro barren
    rcases wp_run_clean (load_barren config safe barren) fun _ _ => rfl with
      ⟨value, s, returned, impossible⟩ | ⟨error, s, threw, rfl, rfl⟩
    · exact impossible.elim
    · exact threw

end JsonStore

namespace AtomicJsonStore

variable {D T R : Type} [DecidableEq T] {config : Config D T} {calls : List (Call D T R)}

/-- Slots are occupied and none of them holds an envelope. -/
structure Barren (slots : Slots T) : Prop where
  present : ∃ slot, slots slot ≠ none
  invalid : ∀ slot envelope, ¬ slots.holds slot envelope

/-- The defaults, and the states that the calls may have written over them. -/
inductive Begun (config : Config D T) (calls : List (Call D T R)) : Envelope T → Prop where
  | defaults (payload : T) (parsed : config.parse config.defaults = some payload) : Begun config calls ⟨0, payload⟩
  | mutated (call : Call D T R) (mutator : Mutator D T R) (base envelope : Envelope T) (listed : call ∈ calls)
      (request : call.request = .mutate mutator) (begun : Begun config calls base)
      (successor : Successor config mutator base envelope) : Begun config calls envelope

/-- Each call is made by a fresh instance, and crashes strike it anywhere. -/
def StartUps (config : Config D T) : History T → List (Call D T R) → Prop
  | _, [] => True
  | h, call :: calls =>
    call.memory = none ∧
      Meets (device T) (crashOnly fun _ _ => True) (call.program config) call.faults (h.start call.memory) ∧
      StartUps config (step config h call) calls

def StartUps.decide (config : Config D T) :
    (h : History T) → (calls : List (Call D T R)) → Decidable (StartUps config h calls)
  | _, [] => .isTrue trivial
  | h, call :: calls =>
    @instDecidableAnd _ _ inferInstance
      (@instDecidableAnd _ _ inferInstance (StartUps.decide config (step config h call) calls))

instance (config : Config D T) (h : History T) (calls : List (Call D T R)) :
    Decidable (StartUps config h calls) := StartUps.decide config h calls

/-- Whatever a slot holds has been begun. -/
def Grown (config : Config D T) (calls : List (Call D T R)) (slots : Slots T) : Prop :=
  ∀ slot envelope, slots.holds slot envelope → Begun config calls envelope

omit [DecidableEq T] in
theorem Grown.base {slots : Slots T} {envelope : Envelope T} (grown : Grown config calls slots)
    (base : Base config slots envelope) : Begun config calls envelope := by
  rcases base with ⟨slot, selected⟩ | ⟨-, generation, parsed⟩
  · exact grown slot envelope (selectCandidate_some slots selected).1
  · obtain ⟨number, payload⟩ := envelope
    obtain rfl : number = 0 := generation
    exact .defaults payload parsed

omit [DecidableEq T] in
theorem Grown.only {envelope : Envelope T} (begun : Begun config calls envelope) :
    Grown config calls (Slots.only envelope) := by
  intro slot held holds
  obtain ⟨-, rfl⟩ := holds_only holds
  exact begun

omit [DecidableEq T] in
theorem Grown.dies {slots : Slots T} {envelope : Envelope T} (grown : Grown config calls slots)
    (begun : Begun config calls envelope) :
    Dies (fun _ _ => True) slots envelope (Grown config calls) := by
  refine ⟨grown, fun slots' keeps slot held holds => ?_, fun _ slot held holds => ?_⟩
  · rcases keeps.older slot held holds with rfl | ⟨other, heldBefore⟩
    · exact begun
    · exact grown other held heldBefore
  · by_cases next : slot = .next
    · subst next
      simp [Slots.holds] at holds
    · rw [Slots.holds, Slots.set_other _ _ _ _ next] at holds
      exact grown slot held holds

theorem program_grows {h : History T} (call : Call D T R) (listed : call ∈ calls)
    (grown : Grown config calls h.slots) :
    wp (device T) (crashOnly fun _ _ => True) (fun s => Grown config calls s.slots) (call.program config)
      (fun _ s => Grown config calls s.slots) (h.start call.memory) := by
  have dies : ∀ base, Base config h.slots base → Dies (fun _ _ => True) h.slots base (Grown config calls) :=
    fun base isBase => grown.dies (grown.base isBase)
  have settled : ∀ base (s' : State T), Base config h.slots base → s'.slots = Slots.only base →
      Grown config calls s'.slots := by
    intro base s' isBase slots
    rw [slots]
    exact .only (grown.base isBase)
  unfold Call.program
  cases request : call.request with
  | load =>
    refine wp_seq (load_wp rfl grown dies ?_ ?_)
    · intro reason s' _ slots
      show Grown config calls s'.slots
      rw [slots]
      exact grown
    · exact fun envelope s' readable slots _ _ => settled envelope s' readable.base slots
  | mutate mutator =>
    have next : ∀ base envelope, Base config h.slots base → Successor config mutator base envelope →
        Begun config calls envelope :=
      fun base envelope isBase => .mutated call mutator base envelope listed request (grown.base isBase)
    have diesNext : ∀ base envelope, Base config h.slots base → Successor config mutator base envelope →
        Dies (fun _ _ => True) (Slots.only base) envelope (Grown config calls) :=
      fun base envelope isBase successor =>
        Grown.dies (.only (grown.base isBase)) (next base envelope isBase successor)
    refine wp_seq (mutate_wp rfl grown dies diesNext ?_ ?_ ?_ ?_)
    · intro reason s' slots
      show Grown config calls s'.slots
      rw [slots]
      exact grown
    · exact fun reason base s' isBase slots => settled base s' isBase slots
    · exact fun result base s' isBase slots _ => settled base s' isBase slots
    · intro result base envelope s' isBase successor slots _
      show Grown config calls s'.slots
      rw [slots]
      exact .only (next base envelope isBase successor)

theorem step_grows {h : History T} (call : Call D T R) (listed : call ∈ calls)
    (grown : Grown config calls h.slots)
    (meets : Meets (device T) (crashOnly fun _ _ => True) (call.program config) call.faults
      (h.start call.memory)) : Grown config calls (step config h call).slots := by
  have ends := wp_sound (program_grows call listed grown) meets
  unfold step
  generalize Interrupted.run (device T) (call.program config) call.faults (h.start call.memory) =
    result at ends
  obtain ⟨outcome, s⟩ := result
  cases outcome with
  | returned acknowledges =>
    cases acknowledges with
    | true => exact ends
    | false => exact ends
  | threw reason => exact ends
  | crashed => exact ends

theorem run_grows {h : History T} (later : List (Call D T R)) (listed : later ⊆ calls)
    (grown : Grown config calls h.slots) (startUps : StartUps config h later) :
    Grown config calls (h.run config later).slots := by
  induction later generalizing h with
  | nil => exact grown
  | cons call later ih =>
    have here : call ∈ calls := listed List.mem_cons_self
    have rest : later ⊆ calls := fun _ member => listed (List.mem_cons_of_mem call member)
    exact ih rest (step_grows call here grown startUps.2.1) startUps.2.2

/-- How a load by a fresh instance ends that nothing disturbs. -/
def Starts (config : Config D T) (calls : List (Call D T R)) (h : History T) (backupFirst : Bool) : Prop :=
  (¬ Barren h.slots → ∃ envelope s,
    Interrupted.run (device T) (load config backupFirst) [] (h.start none) = (.returned envelope, s) ∧
      Begun config calls envelope) ∧
  (Barren h.slots → ∃ error s,
    Interrupted.run (device T) (load config backupFirst) [] (h.start none) = (.threw error, s) ∧
      s.slots = h.slots)

theorem load_starts {h : History T} {defaults : T} (backupFirst : Bool)
    (defaultsOk : config.parse config.defaults = some defaults) (grown : Grown config calls h.slots) :
    Starts config calls h backupFirst := by
  constructor
  · intro fertile
    have found : ∃ envelope, Base config h.slots envelope := by
      cases selected : selectCandidate h.slots.candidates with
      | some selection => exact ⟨selection.2, Or.inl ⟨selection.1, selected⟩⟩
      | none =>
        refine ⟨⟨0, defaults⟩, Or.inr ⟨fun slot => ?_, rfl, defaultsOk⟩⟩
        by_contra occupied
        exact fertile ⟨⟨slot, occupied⟩, (selectCandidate_none h.slots).1 selected⟩
    obtain ⟨envelope, base⟩ := found
    have readable : Readable config (h.start none) envelope :=
      ⟨base, fun cached remembered => by cases remembered⟩
    obtain ⟨s, ran, -⟩ := load_returns backupFirst rfl readable
    exact ⟨envelope, s, ran, grown.base base⟩
  · intro barren
    have unreadable : ∀ envelope, ¬ Readable config (h.start none) envelope := by
      intro envelope readable
      rcases readable.base with ⟨slot, selected⟩ | ⟨empty, -⟩
      · exact barren.invalid slot envelope (selectCandidate_some h.slots selected).1
      · obtain ⟨slot, occupied⟩ := barren.present
        exact occupied (empty slot)
    let dead : Slots T → Prop := fun _ => True
    have refuses : wp (device T) (crashOnly fun _ _ => True) (fun s => dead s.slots)
        (load config backupFirst) (either (fun _ _ => False) fun _ s => s.slots = h.slots)
        (h.start none) := by
      apply load_wp rfl trivial (fun _ _ => ⟨trivial, fun _ _ => trivial, fun _ => trivial⟩)
      · exact fun _ s' _ slots => slots
      · exact fun envelope s' readable => absurd readable (unreadable envelope)
    rcases wp_run_clean refuses (fun _ _ => trivial) with ⟨_, _, _, no⟩ | ⟨error, s, ran, slots⟩
    · exact no.elim
    · exact ⟨error, s, ran, slots⟩

end AtomicJsonStore

namespace FirstRun

variable {D T R : Type} [DecidableEq T]

/-- After any interrupted start-ups in an empty directory, a load starts either store, unless what
the crashes have left there is all torn: then it refuses and leaves it alone. -/
theorem first_run_starts (json : JsonStore.Config D T) (atomic : AtomicJsonStore.Config D T)
    {jsonDefaults atomicDefaults : T}
    (jsonOk : JsonStore.serializeAndValidate json json.defaults = .ok jsonDefaults)
    (atomicOk : atomic.parse atomic.defaults = some atomicDefaults)
    (jsonCalls : List (JsonStore.Call D T)) (atomicCalls : List (AtomicJsonStore.Call D T R))
    (jsonInterrupted : JsonStore.Survivable json .initial jsonCalls)
    (atomicInterrupted : AtomicJsonStore.StartUps atomic ⟨⟨[], 0⟩, none⟩ atomicCalls) (backupFirst : Bool) :
    JsonStore.Starts json (JsonStore.History.initial.run json jsonCalls) ∧
      AtomicJsonStore.Starts atomic atomicCalls
        (AtomicJsonStore.History.run atomic ⟨⟨[], 0⟩, none⟩ atomicCalls) backupFirst := by
  constructor
  · exact JsonStore.load_starts jsonOk
      (JsonStore.run_safe json jsonCalls JsonStore.initial_safe jsonInterrupted)
  · apply AtomicJsonStore.load_starts backupFirst atomicOk
    apply AtomicJsonStore.run_grows atomicCalls (List.Subset.refl atomicCalls) _ atomicInterrupted
    intro slot envelope holds
    cases holds

/-- The second write of the defaults dies before its temporary is renamed. -/
def jsonStartUps : List (JsonStore.Call Nat Nat) :=
  [⟨.load, true, [.none, .crash .before]⟩,
   ⟨.load, true, List.replicate 11 .none ++ [.crash .after]⟩]

def atomicStartUps : List (AtomicJsonStore.Call Nat Nat Unit) :=
  [⟨.load, none, true, AtomicJsonStore.crashAfter 3⟩,
   ⟨.load, none, true, AtomicJsonStore.crashAfter 14⟩]

theorem first_runs_start :
    JsonStore.Starts JsonStore.numbers (JsonStore.History.initial.run JsonStore.numbers jsonStartUps) ∧
      AtomicJsonStore.Starts AtomicJsonStore.numbers atomicStartUps
        (AtomicJsonStore.History.run AtomicJsonStore.numbers ⟨⟨[], 0⟩, none⟩ atomicStartUps) true :=
  first_run_starts JsonStore.numbers AtomicJsonStore.numbers rfl rfl jsonStartUps atomicStartUps
    (by decide) (by decide) true

/-- The first write of the defaults is torn. -/
def jsonTorn : List (JsonStore.Call Nat Nat) :=
  [⟨.load, true, List.replicate 7 .none ++ [.crash .partway]⟩]

def atomicTorn : List (AtomicJsonStore.Call Nat Nat Unit) :=
  [⟨.load, none, true, List.replicate 10 .none ++ [.crash .partway]⟩]

theorem torn_first_runs_refuse :
    let j := JsonStore.History.initial.run JsonStore.numbers jsonTorn
    let a := AtomicJsonStore.History.run AtomicJsonStore.numbers ⟨⟨[], 0⟩, none⟩ atomicTorn
    JsonStore.Survivable JsonStore.numbers .initial jsonTorn ∧ j.acknowledged = false ∧
      (run (JsonStore.device Nat) (JsonStore.load JsonStore.numbers) [] (j.start true)).1 =
        .threw JsonStore.noneValid ∧
      AtomicJsonStore.StartUps AtomicJsonStore.numbers ⟨⟨[], 0⟩, none⟩ atomicTorn ∧ a.acknowledged = none ∧
      (run (AtomicJsonStore.device Nat) (AtomicJsonStore.load AtomicJsonStore.numbers true) []
        (a.start none)).1 = .threw (.persistence
          "The local PIM state is invalid in pim.json.next; no valid crash-recovery copy is available.") := by
  decide

end FirstRun
