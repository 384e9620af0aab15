import MaterialEmail.AtomicJsonStore.Commit
import MaterialEmail.Library.Selection

/-! Which envelope a load selects, and what `loadLatest` and `mutation` do under
crashes: every crash keeps the selected envelope in some slot, except one that
tears `next`, which then must be spare. -/
namespace AtomicJsonStore

open Interrupted

variable {D T R : Type}

instance : Std.Total (Precedes (T := T)) where
  total left right := by
    unfold Precedes
    omega

instance : IsTrans (Slot × Envelope T) Precedes where
  trans left middle right := by
    unfold Precedes
    omega

def Slots.holds (slots : Slots T) (slot : Slot) (envelope : Envelope T) : Prop :=
  slots slot = some (.text envelope)

theorem Slots.holds.isSome {slots : Slots T} {slot : Slot} {envelope : Envelope T}
    (holds : slots.holds slot envelope) : (slots slot).isSome := by
  rw [Slots.holds] at holds
  simp [holds]

def Slots.candidate (slots : Slots T) (slot : Slot) : Candidate T :=
  ⟨slot, (slots slot).isSome, (slots slot).bind Content.value?⟩

def Slots.candidates (slots : Slots T) : List (Candidate T) :=
  [slots.candidate .current, slots.candidate .next, slots.candidate .backup]

theorem mem_valid_candidates (slots : Slots T) (slot : Slot) (envelope : Envelope T) :
    (slot, envelope) ∈ slots.candidates.filterMap Candidate.valid? ↔ slots.holds slot envelope := by
  have valid : ∀ other, (slots.candidate other).valid? = some (slot, envelope) ↔
      other = slot ∧ slots.holds slot envelope := by
    intro other
    simp only [Slots.candidate, Candidate.valid?, Option.map_eq_some_iff, Prod.mk.injEq, Slots.holds]
    constructor
    · rintro ⟨value, found, rfl, rfl⟩
      refine ⟨rfl, ?_⟩
      cases content : slots other with
      | none => simp [content] at found
      | some content' => cases content' <;> simp_all [Content.value?]
    · rintro ⟨rfl, held⟩
      exact ⟨envelope, by simp [held, Content.value?], rfl, rfl⟩
  simp only [List.mem_filterMap, Slots.candidates, List.mem_cons, List.not_mem_nil, or_false,
    exists_eq_or_imp, exists_eq_left, valid]
  cases slot <;> simp

/-- The selected envelope is held and nothing held comes before it. -/
theorem selectCandidate_some (slots : Slots T) (selected : selectCandidate slots.candidates = some (slot, envelope)) :
    slots.holds slot envelope ∧
      ∀ other held, slots.holds other held → Precedes (slot, envelope) (other, held) := by
  obtain ⟨listed, first⟩ := head_insertionSort selected
  refine ⟨(mem_valid_candidates slots slot envelope).1 listed, fun other held holds => ?_⟩
  exact first _ ((mem_valid_candidates slots other held).2 holds)

theorem selectCandidate_none (slots : Slots T) :
    selectCandidate slots.candidates = none ↔ ∀ slot envelope, ¬ slots.holds slot envelope := by
  rw [selectCandidate, head_insertionSort_eq_none, List.eq_nil_iff_forall_not_mem]
  constructor
  · intro none slot envelope holds
    exact none _ ((mem_valid_candidates slots slot envelope).2 holds)
  · rintro none ⟨slot, envelope⟩ listed
    exact none slot envelope ((mem_valid_candidates slots slot envelope).1 listed)

/-- The selection is decided by what it must precede. -/
theorem selectCandidate_eq {slots : Slots T} {slot : Slot} {envelope : Envelope T}
    (holds : slots.holds slot envelope)
    (first : ∀ other held, slots.holds other held → Precedes (other, held) (slot, envelope) →
      other = slot) : selectCandidate slots.candidates = some (slot, envelope) := by
  cases selected : selectCandidate slots.candidates with
  | none => exact ((selectCandidate_none slots).1 selected slot envelope holds).elim
  | some selection =>
    obtain ⟨other, held⟩ := selection
    obtain ⟨heldBy, precedes⟩ := selectCandidate_some slots selected
    obtain rfl := first other held heldBy (precedes slot envelope holds)
    rw [Slots.holds, holds] at heldBy
    cases heldBy
    rfl

theorem no_present_candidates (slots : Slots T) :
    slots.candidates.filter (·.present) = [] ↔ ∀ slot, slots slot = none := by
  simp only [Slots.candidates, Slots.candidate, List.filter_eq_nil_iff, List.mem_cons,
    List.not_mem_nil, or_false, Bool.not_eq_true, forall_eq_or_imp, forall_eq,
    Option.isSome_eq_false_iff, Option.isNone_iff_eq_none]
  constructor
  · rintro ⟨current, next, backup⟩ slot
    cases slot <;> assumption
  · intro none
    exact ⟨none _, none _, none _⟩

/-- The slots after a finished commit: only the primary is left. -/
def Slots.only (envelope : Envelope T) : Slots T
  | .current => some (.text envelope)
  | _ => none

theorem holds_only {envelope held : Envelope T} {slot : Slot}
    (holds : (Slots.only envelope).holds slot held) : slot = .current ∧ held = envelope := by
  cases slot with
  | current => exact ⟨rfl, by simpa [Slots.holds, Slots.only] using holds.symm⟩
  | next => simp [Slots.holds, Slots.only] at holds
  | backup => simp [Slots.holds, Slots.only] at holds

theorem selectCandidate_only (envelope : Envelope T) :
    selectCandidate (Slots.only envelope).candidates = some (.current, envelope) := by
  cases selected : selectCandidate (Slots.only envelope).candidates with
  | none => exact ((selectCandidate_none _).1 selected .current envelope rfl).elim
  | some selection =>
    obtain ⟨slot, held⟩ := selection
    obtain ⟨rfl, rfl⟩ := holds_only (selectCandidate_some _ selected).1
    rfl

@[simp] theorem finished_slots (envelope : Envelope T) (slots : Slots T) :
    CommitPoint.finished.slots envelope slots = Slots.only envelope := by
  funext slot
  cases slot <;> simp [CommitPoint.slots, Slots.only]

/-- A slot holds `envelope`; whatever else is held was held before. -/
structure Keeps (envelope : Envelope T) (slots slots' : Slots T) : Prop where
  kept : ∃ slot, slots'.holds slot envelope
  older : ∀ slot held, slots'.holds slot held → held = envelope ∨ ∃ other, slots.holds other held

theorem Keeps.of_written (point : CommitPoint) (envelope : Envelope T) (slots : Slots T)
    (h : point ≠ .torn) (h' : point ≠ .untouched) : Keeps envelope slots (point.slots envelope slots) := by
  constructor
  · cases point with
    | untouched => exact (h' rfl).elim
    | torn => exact (h rfl).elim
    | written => exact ⟨.next, by simp [CommitPoint.slots, Slots.holds]⟩
    | backupCleared => exact ⟨.next, by simp [CommitPoint.slots, Slots.holds]⟩
    | currentMoved => exact ⟨.next, by simp [CommitPoint.slots, Slots.holds]⟩
    | published => exact ⟨.current, by simp [CommitPoint.slots, Slots.holds]⟩
    | finished => exact ⟨.current, by simp [CommitPoint.slots, Slots.holds]⟩
  · intro slot held holds
    by_cases same : held = envelope
    · exact Or.inl same
    · refine Or.inr ?_
      have different : ¬ envelope = held := fun eq => same eq.symm
      cases point <;> cases slot <;>
        simp [CommitPoint.slots, Slots.holds, Slots.set, different] at holds
      all_goals exact ⟨_, holds⟩

theorem Keeps.only (envelope : Envelope T) (slots : Slots T) :
    Keeps envelope slots (Slots.only envelope) := by
  have := Keeps.of_written .finished envelope slots nofun nofun
  rwa [finished_slots] at this

/-- What a load of these slots may take as the state: the selected envelope, or the defaults
when the directory holds nothing. -/
def Base (config : Config D T) (slots : Slots T) (envelope : Envelope T) : Prop :=
  (∃ slot, selectCandidate slots.candidates = some (slot, envelope)) ∨
  (∀ slot, slots slot = none) ∧ envelope.generation = 0 ∧
    config.parse config.defaults = some envelope.payload

theorem base_iff (config : Config D T) (slots : Slots T) (envelope : Envelope T) :
    (selectCandidate slots.candidates).map (·.2) = some envelope ∨
        (slots .current = none ∧ slots .next = none ∧ slots .backup = none) ∧
          envelope.generation = 0 ∧ config.parse config.defaults = some envelope.payload ↔
      Base config slots envelope := by
  apply or_congr
  · cases selectCandidate slots.candidates with
    | none => simp
    | some selection => simp [Prod.ext_iff]
  · apply and_congr_left'
    constructor
    · rintro ⟨current, next, backup⟩ slot
      cases slot <;> assumption
    · intro empty
      exact ⟨empty _, empty _, empty _⟩

instance [DecidableEq T] (config : Config D T) (slots : Slots T) (envelope : Envelope T) :
    Decidable (Base config slots envelope) := decidable_of_iff _ (base_iff config slots envelope)

theorem Base.unique {config : Config D T} {slots : Slots T} {envelope envelope' : Envelope T}
    (base : Base config slots envelope) (base' : Base config slots envelope') :
    envelope = envelope' := by
  have absent : ∀ slot held, (∀ other, slots other = none) → ¬ slots.holds slot held := by
    intro slot held empty holds
    rw [Slots.holds, empty slot] at holds
    cases holds
  rcases base with ⟨slot, selected⟩ | ⟨empty, generation, parsed⟩
  · rcases base' with ⟨slot', selected'⟩ | ⟨empty, -⟩
    · rw [selected] at selected'
      cases selected'
      rfl
    · exact (absent slot _ empty (selectCandidate_some slots selected).1).elim
  · rcases base' with ⟨slot', selected'⟩ | ⟨-, generation', parsed'⟩
    · exact (absent slot' _ empty (selectCandidate_some slots selected').1).elim
    · cases envelope
      cases envelope'
      simp_all

/-- The instance gets `envelope` from a load: it is the base, and if the instance remembers
anything, `envelope` is on disk and is not older or different. -/
structure Readable (config : Config D T) (s : State T) (envelope : Envelope T) : Prop where
  base : Base config s.slots envelope
  remembered : ∀ cached, s.data = some cached →
    (∃ slot, s.slots.holds slot envelope) ∧
      (cached.generation < envelope.generation ∨ cached = envelope)

/-- What a crash may leave of the slots when `envelope` is being settled: nothing has changed yet,
`envelope` is kept, or `next` is torn over spare slots. -/
structure Dies (spare : Spare T) (slots : Slots T) (envelope : Envelope T)
    (dead : Slots T → Prop) : Prop where
  untouched : dead slots
  kept : ∀ slots', Keeps envelope slots slots' → dead slots'
  torn : spare.holds slots → dead (slots.set .next (some .torn))

section Rules

variable {spare : Spare T} {dead : Slots T → Prop} {s : State T}

theorem readCandidates_wp {post : Except StoreError (List (Candidate T)) → State T → Prop}
    (dies : dead s.slots) (after : post (.ok s.slots.candidates) s) :
    wp (device T) (crashOnly spare) (fun s' => dead s'.slots) readCandidates post s := by
  refine wp_seq (readCandidate_wp dies ?_)
  refine wp_seq (readCandidate_wp dies ?_)
  refine wp_seq (readCandidate_wp dies ?_)
  exact after

theorem commit_kept {envelope : Envelope T} {post : Except StoreError Unit → State T → Prop}
    (locked : s.locked = true) (dies : Dies spare s.slots envelope dead)
    (after : ∀ s', Moved s (Slots.only envelope) s' → post (.ok ()) s') :
    wp (device T) (crashOnly spare) (fun s' => dead s'.slots) (commit envelope) post s := by
  refine commit_wp locked ?_ fun s' moved => after s' (by rwa [finished_slots] at moved)
  intro point s' moved torn
  rw [moved.slots] at torn ⊢
  by_cases untouched : point = .untouched
  · rw [untouched]; exact dies.untouched
  by_cases isTorn : point = .torn
  · rw [isTorn]
    refine dies.torn ?_
    have := torn isTorn
    rwa [isTorn, CommitPoint.slots, Spare.holds_set_next] at this
  · exact dies.kept _ (Keeps.of_written point envelope s.slots isTorn untouched)

theorem removeLeftovers_wp {envelope : Envelope T} {backupFirst : Bool}
    {post : Except StoreError Unit → State T → Prop} (current : s.slots.holds .current envelope)
    (dies : Dies spare s.slots envelope dead)
    (after : ∀ s', Moved s (Slots.only envelope) s' → post (.ok ()) s') :
    wp (device T) (crashOnly spare) (fun s' => dead s'.slots) (removeLeftovers backupFirst) post s := by
  have removed : ∀ slot slot', slot ≠ .current → slot' ≠ .current →
      Keeps envelope s.slots ((s.slots.set slot none).set slot' none) := by
    intro slot slot' other other'
    refine ⟨⟨.current, ?_⟩, ?_⟩
    · simpa [Slots.holds, Slots.set, other.symm, other'.symm] using current
    · intro held envelope' holds
      refine Or.inr ⟨held, ?_⟩
      simp only [Slots.holds, Slots.set] at holds ⊢
      split at holds
      · cases holds
      split at holds
      · cases holds
      exact holds
  have cleared : ∀ slot slot', slot ≠ .current → slot' ≠ .current → slot ≠ slot' →
      (s.slots.set slot none).set slot' none = Slots.only envelope := by
    intro slot slot' other other' different
    funext held
    cases slot <;> cases slot' <;> cases held <;> simp_all [Slots.set, Slots.only, Slots.holds]
  have both : ∀ slot slot', slot ≠ .current → slot' ≠ .current → slot ≠ slot' →
      wp (device T) (crashOnly spare) (fun s' => dead s'.slots) (do
        let first ← (rm slot).attempt
        let second ← (rm slot').attempt
        orRaise first
        orRaise second) post s := by
    intro slot slot' other other' different
    refine wp_seq ?_
    rw [wp_attempt]
    refine rm_wp dies.untouched fun s₁ first => ?_
    have deadFirst : dead s₁.slots := by
      have := removed slot slot other other
      rw [Slots.set_set, ← first.slots] at this
      exact dies.kept _ this
    refine ⟨deadFirst, wp_seq ?_⟩
    rw [wp_attempt]
    refine rm_wp deadFirst fun s₂ second => ?_
    rw [first.slots] at second
    have deadSecond : dead s₂.slots := by
      rw [second.slots]
      exact dies.kept _ (removed slot slot' other other')
    rw [cleared slot slot' other other' different] at second
    exact ⟨deadSecond, after s₂ (first.trans second)⟩
  cases backupFirst with
  | false => exact both .next .backup (by decide) (by decide) (by decide)
  | true => exact both .backup .next (by decide) (by decide) (by decide)

variable [DecidableEq T]

theorem assertCompatibleWithCache_wp {envelope : Envelope T}
    {post : Except StoreError Unit → State T → Prop} (dies : dead s.slots)
    (rejected : ∀ reason cached, s.data = some cached →
      ¬ (cached.generation < envelope.generation ∨ cached = envelope) → post (.error reason) s)
    (after : (∀ cached, s.data = some cached →
      cached.generation < envelope.generation ∨ cached = envelope) → post (.ok ()) s) :
    wp (device T) (crashOnly spare) (fun s' => dead s'.slots) (assertCompatibleWithCache envelope)
      post s := by
  refine wp_seq (getData_wp dies ?_)
  simp only [either_ok]
  cases remembered : s.data with
  | none => exact after (by simp [remembered])
  | some cached =>
    simp only
    split
    · rename_i older
      refine rejected _ cached remembered ?_
      rintro (newer | rfl)
      · omega
      · omega
    · rename_i notOlder
      split
      · rename_i conflict
        refine rejected _ cached remembered ?_
        rintro (newer | rfl)
        · omega
        · exact conflict.2 rfl
      · rename_i agreed
        refine after fun cached' remembered' => ?_
        obtain rfl : cached = cached' := by simpa [remembered] using remembered'
        rw [not_and_or, not_not] at agreed
        rcases agreed with different | same
        · exact Or.inl (by omega)
        · by_cases generation : envelope.generation = cached.generation
          · obtain ⟨_, _⟩ := envelope
            obtain ⟨_, _⟩ := cached
            simp_all
          · exact Or.inl (by omega)

omit [DecidableEq T] in
theorem parse_wp {config : Config D T} {draft : D} {post : Except StoreError T → State T → Prop}
    (rejected : ∀ reason, config.parse draft = none → post (.error reason) s)
    (after : ∀ payload, config.parse draft = some payload → post (.ok payload) s) :
    wp (device T) (crashOnly spare) (fun s' => dead s'.slots) (parse config draft) post s := by
  unfold parse
  cases parsed : config.parse draft with
  | none => exact rejected _ parsed
  | some payload => exact after payload parsed

/-- A load rejects without a trace, dies over slots it accounts for, or leaves the base alone
in `current` and in memory. -/
theorem loadLatest_wp {config : Config D T} {backupFirst : Bool}
    {post : Except StoreError (Envelope T) → State T → Prop} (locked : s.locked = true)
    (untouched : dead s.slots)
    (dies : ∀ envelope, Base config s.slots envelope → Dies spare s.slots envelope dead)
    (rejected : ∀ reason, (∀ envelope, ¬ Readable config s envelope) → post (.error reason) s)
    (loaded : ∀ envelope s', Readable config s envelope → s'.slots = Slots.only envelope →
      s'.data = some envelope → s'.locked = true → post (.ok envelope) s') :
    wp (device T) (crashOnly spare) (fun s' => dead s'.slots) (loadLatest config backupFirst)
      post s := by
  have settled : ∀ envelope s₁, Readable config s envelope → Moved s (Slots.only envelope) s₁ →
      wp (device T) (crashOnly spare) (fun s' => dead s'.slots)
        (do setData envelope; return envelope) post s₁ := by
    intro envelope s₁ readable moved
    refine wp_seq (setData_wp ?_ ?_)
    · intro data
      show dead s₁.slots
      rw [moved.slots]
      exact (dies envelope readable.base).kept _ (Keeps.only envelope s.slots)
    · exact loaded envelope _ readable moved.slots rfl (moved.locked.trans locked)
  refine wp_seq (assertLockOwnership_wp locked untouched ?_)
  refine wp_seq (mkdir_wp untouched ?_)
  refine wp_seq (readCandidates_wp untouched ?_)
  simp only [either_ok]
  cases selected : selectCandidate s.slots.candidates with
  | none =>
    have unheld := (selectCandidate_none s.slots).1 selected
    have onlyDefaults : ∀ envelope, Base config s.slots envelope →
        (∀ slot, s.slots slot = none) ∧ config.parse config.defaults = some envelope.payload := by
      rintro envelope (⟨slot, chosen⟩ | ⟨empty, -, parsed⟩)
      · simp [selected] at chosen
      · exact ⟨empty, parsed⟩
    simp only
    split
    · rename_i present
      refine rejected _ fun envelope readable => present ?_
      exact (no_present_candidates s.slots).2 (onlyDefaults envelope readable.base).1
    rename_i present
    refine wp_seq (getData_wp untouched ?_)
    simp only [either_ok]
    split
    · rename_i remembers
      obtain ⟨cached, remembered⟩ := Option.isSome_iff_exists.1 remembers
      refine rejected _ fun envelope readable => ?_
      obtain ⟨⟨slot, holds⟩, -⟩ := readable.remembered cached remembered
      exact unheld slot envelope holds
    rename_i forgets
    refine wp_seq (parse_wp (fun reason invalid => ?_) fun payload parsed => ?_)
    · refine rejected _ fun envelope readable => ?_
      simp [(onlyDefaults envelope readable.base).2] at invalid
    have empty := (no_present_candidates s.slots).1 (not_not.1 present)
    have readable : Readable config s ⟨0, payload⟩ :=
      ⟨Or.inr ⟨empty, rfl, parsed⟩, fun cached remembered => by simp [remembered] at forgets⟩
    refine wp_seq (commit_kept locked (dies _ readable.base) fun s₁ moved => ?_)
    exact settled _ s₁ readable moved
  | some selection =>
    obtain ⟨slot, envelope⟩ := selection
    have base : Base config s.slots envelope := Or.inl ⟨slot, selected⟩
    have holds := (selectCandidate_some s.slots selected).1
    refine wp_seq (assertCompatibleWithCache_wp untouched ?_ ?_)
    · intro reason cached remembered conflict
      refine rejected _ fun envelope' readable => conflict ?_
      obtain rfl := readable.base.unique base
      exact (readable.remembered cached remembered).2
    intro agrees
    have readable : Readable config s envelope :=
      ⟨base, fun cached remembered => ⟨⟨slot, holds⟩, agrees cached remembered⟩⟩
    simp only [either_ok]
    split
    · refine wp_seq (commit_kept locked (dies _ base) fun s₁ moved => ?_)
      exact settled _ s₁ readable moved
    · rename_i isCurrent
      refine wp_seq (removeLeftovers_wp (by simpa [not_not.1 isCurrent] using holds) (dies _ base)
        fun s₁ moved => ?_)
      exact settled _ s₁ readable moved

/-- The mutator turns `base` into `envelope`, one generation on, and answers `result`. -/
def Updates (config : Config D T) (mutator : Mutator D T R) (base envelope : Envelope T)
    (result : R) : Prop :=
  ∃ draft, mutator base.payload = .ok ⟨true, draft, result⟩ ∧
    config.parse draft = some envelope.payload ∧ envelope.generation = base.generation + 1

def Successor (config : Config D T) (mutator : Mutator D T R) (base envelope : Envelope T) : Prop :=
  ∃ result, Updates config mutator base envelope result

omit [DecidableEq T] in
theorem Successor.generation {config : Config D T} {mutator : Mutator D T R} {base envelope : Envelope T}
    (successor : Successor config mutator base envelope) :
    envelope.generation = base.generation + 1 := by
  obtain ⟨_, _, _, _, generation⟩ := successor
  exact generation

theorem assertDiskMatches_wp {envelope : Envelope T} {post : Except StoreError Unit → State T → Prop}
    (slots : s.slots = Slots.only envelope) (dies : dead s.slots) (after : post (.ok ()) s) :
    wp (device T) (crashOnly spare) (fun s' => dead s'.slots) (assertDiskMatches envelope) post s := by
  refine wp_seq (readCandidates_wp dies ?_)
  simp only [either_ok, slots, selectCandidate_only, ↓reduceIte]
  exact after

/-- An update over its settled base rejects or keeps it, dies over slots it accounts for, or leaves
the successor. -/
theorem update_wp {config : Config D T} {mutator : Mutator D T R} {base : Envelope T}
    {post : Except StoreError R → State T → Prop} (locked : s.locked = true)
    (slots : s.slots = Slots.only base)
    (dies : ∀ envelope, Successor config mutator base envelope →
      Dies spare (Slots.only base) envelope dead)
    (rejected : ∀ reason, post (.error reason) s)
    (kept : ∀ draft result, mutator base.payload = .ok ⟨false, draft, result⟩ → post (.ok result) s)
    (committed : ∀ envelope result s', Updates config mutator base envelope result →
      s'.slots = Slots.only envelope → s'.data = some envelope → s'.locked = true →
      post (.ok result) s') :
    wp (device T) (crashOnly spare) (fun s' => dead s'.slots) (update config mutator base) post s := by
  unfold update
  cases decided : mutator base.payload with
  | error reason => exact rejected _
  | ok decision =>
    obtain ⟨changed, draft, result⟩ := decision
    cases changed with
    | false => exact kept draft result decided
    | true =>
      refine wp_seq (parse_wp (fun _ _ => rejected _) fun payload parsed => ?_)
      have updates : Updates config mutator base ⟨base.generation + 1, payload⟩ result :=
        ⟨draft, decided, parsed, rfl⟩
      have diesHere : Dies spare s.slots ⟨base.generation + 1, payload⟩ dead := by
        rw [slots]
        exact dies _ ⟨result, updates⟩
      refine wp_seq (assertDiskMatches_wp slots diesHere.untouched ?_)
      refine wp_seq (commit_kept locked diesHere fun s₂ moved => ?_)
      refine wp_seq (setData_wp ?_ ?_)
      · intro data
        show dead s₂.slots
        rw [moved.slots]
        exact diesHere.kept _ (Keeps.only _ s.slots)
      · exact committed _ _ _ updates moved.slots rfl (moved.locked.trans locked)

/-- A mutation rejects with the slots as they were or as its load left them, dies over slots it
accounts for, or leaves its base or the successor. -/
theorem mutation_wp {config : Config D T} {backupFirst : Bool} {mutator : Mutator D T R}
    {post : Except StoreError R → State T → Prop} (locked : s.locked = true)
    (untouched : dead s.slots)
    (dies : ∀ base, Base config s.slots base → Dies spare s.slots base dead)
    (diesNext : ∀ base envelope, Base config s.slots base → Successor config mutator base envelope →
      Dies spare (Slots.only base) envelope dead)
    (rejected : ∀ reason, post (.error reason) s)
    (abandoned : ∀ reason base s', Base config s.slots base → s'.slots = Slots.only base →
      s'.locked = true → post (.error reason) s')
    (kept : ∀ result base s', Base config s.slots base → s'.slots = Slots.only base →
      s'.data = some base → s'.locked = true → post (.ok result) s')
    (committed : ∀ result base envelope s', Base config s.slots base →
      Successor config mutator base envelope → s'.slots = Slots.only envelope →
      s'.data = some envelope → s'.locked = true → post (.ok result) s') :
    wp (device T) (crashOnly spare) (fun s' => dead s'.slots) (mutation config backupFirst mutator)
      post s := by
  refine wp_seq (loadLatest_wp locked untouched dies (fun reason _ => rejected reason) ?_)
  intro base s₁ readable slots data locked₁
  have isBase := readable.base
  apply update_wp locked₁ slots
  · exact fun envelope => diesNext base envelope isBase
  · exact fun reason => abandoned reason base s₁ isBase slots locked₁
  · exact fun _ result _ => kept result base s₁ isBase slots data locked₁
  · intro envelope result s' updates slots' data' locked'
    exact committed result base envelope s' isBase ⟨result, updates⟩ slots' data' locked'

omit [DecidableEq T] in
/-- Under crashes alone the lock is taken and given back around the operation. -/
theorem withExclusiveLock_wp {operation : Store T α} {post : Except StoreError α → State T → Prop}
    (unlocked : s.locked = false) (untouched : dead s.slots)
    (inside : wp (device T) (crashOnly spare) (fun s' => dead s'.slots) operation
      (fun result s' => s'.locked = true ∧ dead s'.slots ∧ post result { s' with locked := false })
      { s with locked := true }) :
    wp (device T) (crashOnly spare) (fun s' => dead s'.slots) (withExclusiveLock operation) post s := by
  refine wp_seq ?_
  have acquired : reply (.acquireLock : Op T) s = .ok () := by simp [reply, unlocked]
  refine wpCall_crashOnly ?_ ?_
  · rw [acquired]
    refine wp_seq ?_
    rw [wp_attempt]
    refine wp_mono inside ?_ fun _ h => h
    rintro result s₁ ⟨locked, dies, after⟩
    refine wp_seq ?_
    rw [wp_attempt]
    refine wpCall_crashOnly ?_ fun extent _ => ?_
    · have released : reply (.releaseLock : Op T) s₁ = .ok () := by simp [reply, locked]
      rw [released]
      cases result with
      | error reason => exact after
      | ok value => exact after
    · cases extent <;> exact dies
  · intro extent _
    cases extent <;> exact untouched

theorem load_wp {config : Config D T} {backupFirst : Bool}
    {post : Except StoreError (Envelope T) → State T → Prop} (unlocked : s.locked = false)
    (untouched : dead s.slots)
    (dies : ∀ envelope, Base config s.slots envelope → Dies spare s.slots envelope dead)
    (rejected : ∀ reason s', (∀ envelope, ¬ Readable config s envelope) → s'.slots = s.slots →
      post (.error reason) s')
    (loaded : ∀ envelope s', Readable config s envelope → s'.slots = Slots.only envelope →
      s'.data = some envelope → s'.locked = false → post (.ok envelope) s') :
    wp (device T) (crashOnly spare) (fun s' => dead s'.slots) (load config backupFirst) post s := by
  refine withExclusiveLock_wp unlocked untouched ?_
  refine loadLatest_wp rfl untouched dies ?_ ?_
  · intro reason unreadable
    refine ⟨rfl, untouched, rejected reason _ (fun envelope readable => ?_) rfl⟩
    exact unreadable envelope ⟨readable.base, readable.remembered⟩
  · intro envelope s' readable slots data locked
    have settled : dead s'.slots := by
      rw [slots]
      exact (dies envelope readable.base).kept _ (Keeps.only envelope s.slots)
    exact ⟨locked, settled, loaded envelope _ ⟨readable.base, readable.remembered⟩ slots data rfl⟩

theorem mutate_wp {config : Config D T} {backupFirst : Bool} {mutator : Mutator D T R}
    {post : Except StoreError R → State T → Prop} (unlocked : s.locked = false)
    (untouched : dead s.slots)
    (dies : ∀ base, Base config s.slots base → Dies spare s.slots base dead)
    (diesNext : ∀ base envelope, Base config s.slots base → Successor config mutator base envelope →
      Dies spare (Slots.only base) envelope dead)
    (rejected : ∀ reason s', s'.slots = s.slots → post (.error reason) s')
    (abandoned : ∀ reason base s', Base config s.slots base → s'.slots = Slots.only base →
      post (.error reason) s')
    (kept : ∀ result base s', Base config s.slots base → s'.slots = Slots.only base →
      s'.data = some base → post (.ok result) s')
    (committed : ∀ result base envelope s', Base config s.slots base →
      Successor config mutator base envelope → s'.slots = Slots.only envelope →
      s'.data = some envelope → post (.ok result) s') :
    wp (device T) (crashOnly spare) (fun s' => dead s'.slots) (mutate config backupFirst mutator)
      post s := by
  have settled : ∀ base (s' : State T), Base config s.slots base → s'.slots = Slots.only base →
      dead s'.slots := by
    intro base s' isBase slots
    rw [slots]
    exact (dies base isBase).kept _ (Keeps.only base s.slots)
  refine withExclusiveLock_wp unlocked untouched ?_
  refine mutation_wp rfl untouched dies diesNext ?_ ?_ ?_ ?_
  · intro reason
    exact ⟨rfl, untouched, rejected reason _ rfl⟩
  · intro reason base s' isBase slots locked
    exact ⟨locked, settled base s' isBase slots, abandoned reason base _ isBase slots⟩
  · intro result base s' isBase slots data locked
    exact ⟨locked, settled base s' isBase slots, kept result base _ isBase slots data⟩
  · intro result base envelope s' isBase successor slots data locked
    refine ⟨locked, ?_, committed result base envelope _ isBase successor slots data⟩
    rw [slots]
    exact (diesNext base envelope isBase successor).kept _ (Keeps.only envelope (Slots.only base))

omit [DecidableEq T] in
theorem locked_refuses {operation : Store T α} {s : State T} (locked : s.locked = true) :
    ∃ reason s', run (device T) (withExclusiveLock operation) [] s = (.threw reason, s') := by
  have refused : reply (.acquireLock : Op T) s = .error (.persistence
      "The local PIM state remained locked for 5000ms; no changes were committed.") := by
    simp [reply, locked]
  have refuses : wp (device T) (crashOnly fun _ _ => True) (fun _ => True)
      (withExclusiveLock operation) (either (fun _ _ => False) fun _ _ => True) s := by
    refine wp_seq (wpCall_crashOnly ?_ fun _ _ => trivial)
    rw [refused]
    trivial
  rcases wp_run_clean refuses (fun _ _ => trivial) with ⟨_, _, _, no⟩ | ⟨reason, s', ran, _⟩
  · exact no.elim
  · exact ⟨reason, s', ran⟩

/-- A load that nothing disturbs returns what the instance can read and settles it. -/
theorem load_returns {config : Config D T} {s : State T} {envelope : Envelope T} (backupFirst : Bool)
    (unlocked : s.locked = false) (readable : Readable config s envelope) :
    ∃ s', run (device T) (load config backupFirst) [] s = (.returned envelope, s') ∧
      s'.slots = Slots.only envelope ∧ s'.data = some envelope ∧ s'.locked = false := by
  let dead : Slots T → Prop := fun _ => True
  have loads : wp (device T) (crashOnly fun _ _ => True) (fun s => dead s.slots)
      (load config backupFirst) (either (fun loaded s' => loaded = envelope ∧
        s'.slots = Slots.only envelope ∧ s'.data = some envelope ∧ s'.locked = false)
        fun _ _ => False) s := by
    apply load_wp unlocked trivial (fun _ _ => ⟨trivial, fun _ _ => trivial, fun _ => trivial⟩)
    · intro reason s' unreadable
      exact (unreadable envelope readable).elim
    · intro loaded s' isReadable slots data locked
      obtain rfl := isReadable.base.unique readable.base
      exact ⟨rfl, slots, data, locked⟩
  rcases wp_run_clean loads (fun _ _ => trivial) with ⟨loaded, s', ran, rfl, settled⟩ | ⟨_, _, _, no⟩
  · exact ⟨s', ran, settled⟩
  · exact no.elim

/-- Conversely a load returns nothing that the instance cannot read. -/
theorem load_returned {config : Config D T} {s s' : State T} {envelope : Envelope T}
    {backupFirst : Bool} (ran : run (device T) (load config backupFirst) [] s = (.returned envelope, s')) :
    s.locked = false ∧ Readable config s envelope := by
  cases locked : s.locked with
  | true =>
    obtain ⟨reason, _, refused⟩ := @locked_refuses T _ (loadLatest config backupFirst) s locked
    rw [load, refused] at ran
    cases ran
  | false =>
    refine ⟨rfl, ?_⟩
    let dead : Slots T → Prop := fun _ => True
    have loads : wp (device T) (crashOnly fun _ _ => True) (fun s => dead s.slots)
        (load config backupFirst) (either (fun loaded _ => Readable config s loaded)
          fun _ _ => True) s := by
      apply load_wp locked trivial (fun _ _ => ⟨trivial, fun _ _ => trivial, fun _ => trivial⟩)
      · intro reason s' _ _
        trivial
      · intro loaded s' isReadable _ _ _
        exact isReadable
    rcases wp_run_clean loads (fun _ _ => trivial) with ⟨loaded, _, again, readable⟩ | ⟨_, _, again, _⟩
    · rw [ran] at again
      cases again
      exact readable
    · rw [ran] at again
      cases again

end Rules

end AtomicJsonStore
