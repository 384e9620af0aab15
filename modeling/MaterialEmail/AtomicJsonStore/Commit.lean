import MaterialEmail.AtomicJsonStore.Model

/-! What a crash can leave of `commit`, `loadLatest` and `mutation`: one list of
crash points for each, from which the results about crashes are derived. Faults here
are crashes only; failing operations are treated in `FailureAtomicity`. -/
namespace AtomicJsonStore

open Interrupted

abbrev Slots (T : Type) := Slot → Option (Content (Envelope T))

def State.slots (s : State T) : Slots T := s.directory.content

/-- The slots became `slots`; memory and lock are as before. -/
structure Moved (s : State T) (slots : Slots T) (s' : State T) : Prop where
  slots : s'.slots = slots
  data : s'.data = s.data
  locked : s'.locked = s.locked

theorem Moved.refl (s : State T) : Moved s s.slots s := ⟨rfl, rfl, rfl⟩

def Slots.set (slots : Slots T) (slot : Slot) (content : Option (Content (Envelope T))) : Slots T :=
  fun other => if other = slot then content else slots other

@[simp] theorem Slots.set_same (slots : Slots T) (slot : Slot) (content) :
    slots.set slot content slot = content := by simp [Slots.set]

@[simp] theorem Slots.set_other (slots : Slots T) (slot other : Slot) (content) (h : other ≠ slot) :
    slots.set slot content other = slots other := by simp [Slots.set, h]

@[simp] theorem Slots.set_set (slots : Slots T) (slot : Slot) (content content') :
    (slots.set slot content).set slot content' = slots.set slot content' := by
  funext other
  by_cases same : other = slot <;> simp [same]

theorem Moved.trans {content content' : Slots T} (first : Moved s content s')
    (second : Moved s' content' s'') : Moved s content' s'' :=
  ⟨second.slots, second.data.trans first.data, second.locked.trans first.locked⟩

/-- What `current` and `backup` must offer for a crash to be allowed to tear `next`. -/
abbrev Spare (T : Type) := Option (Content (Envelope T)) → Option (Content (Envelope T)) → Prop

def Spare.holds (spare : Spare T) (slots : Slots T) : Prop :=
  spare (slots .current) (slots .backup)

@[simp] theorem Spare.holds_set_next (spare : Spare T) (slots : Slots T) (content) :
    spare.holds (slots.set .next content) = spare.holds slots := by
  simp [Spare.holds, Slots.set]

/-- Crashes may strike anywhere, but one that leaves `next` torn only over `spare` slots. -/
def crashOnly (spare : Spare T) (op : Op T) (fault : Fault Errno) (s : State T) : Prop :=
  match fault with
  | .none => True
  | .fail _ _ => False
  | .crash extent => (effect op extent s).slots .next = some .torn → spare.holds s.slots

instance [DecidableEq T] (spare : Spare T) [∀ current backup, Decidable (spare current backup)]
    (op : Op T) (fault : Fault Errno) (s : State T) : Decidable (crashOnly spare op fault s) :=
  match fault with
  | .none => .isTrue trivial
  | .fail _ _ => .isFalse id
  | .crash extent =>
    inferInstanceAs (Decidable ((effect op extent s).slots .next = some .torn →
      spare (s.slots .current) (s.slots .backup)))

section Rules

variable {T : Type} {spare : Spare T} {crash : State T → Prop} {s : State T}

/-- An operation under `crashOnly`: it succeeds or dies. -/
theorem wpCall_crashOnly {op : Op T} {post : Reply T op → State T → Prop}
    (after : post (reply op s) (effect op .after s))
    (dies : ∀ extent, ((effect op extent s).slots .next = some .torn → spare.holds s.slots) →
      crash (effect op extent s)) :
    wpCall (device T) (crashOnly spare) crash op post s :=
  ⟨fun _ => after, fun _ _ _ failed => failed.elim, dies⟩

/-- Operations that leave the state alone however far they get. -/
theorem wp_still {op : Op T} {next : Reply T op → Store T α} {post : Except StoreError α → State T → Prop}
    (still : ∀ extent, effect op extent s = s) (dies : crash s)
    (after : wp (device T) (crashOnly spare) crash (next (reply op s)) post s) :
    wp (device T) (crashOnly spare) crash (.call op next) post s := by
  refine wpCall_crashOnly ?_ fun extent _ => ?_
  · rw [still]; exact after
  · rw [still]; exact dies

theorem mkdir_wp {post : Except StoreError Unit → State T → Prop} (dies : crash s)
    (after : post (.ok ()) s) : wp (device T) (crashOnly spare) crash mkdir post s :=
  wp_still (fun extent => by cases extent <;> rfl) dies after

theorem close_wp {slot : Slot} {post : Except StoreError Unit → State T → Prop} (dies : crash s)
    (after : post (.ok ()) s) : wp (device T) (crashOnly spare) crash (close slot) post s :=
  wp_still (fun extent => by cases extent <;> rfl) dies after

theorem syncDirectory_wp {post : Except StoreError Unit → State T → Prop} (dies : crash s)
    (after : post (.ok ()) s) : wp (device T) (crashOnly spare) crash syncDirectory post s :=
  wp_still (fun extent => by cases extent <;> rfl) dies after

theorem assertLockOwnership_wp {post : Except StoreError Unit → State T → Prop}
    (locked : s.locked = true) (dies : crash s) (after : post (.ok ()) s) :
    wp (device T) (crashOnly spare) crash assertLockOwnership post s := by
  refine wp_still (fun extent => by cases extent <;> rfl) dies ?_
  simpa [reply, locked, orRaise] using after

theorem getData_wp {post : Except StoreError (Option (Envelope T)) → State T → Prop} (dies : crash s)
    (after : post (.ok s.data) s) : wp (device T) (crashOnly spare) crash getData post s :=
  wp_still (fun extent => by cases extent <;> rfl) dies after

theorem setData_wp {envelope : Envelope T} {post : Except StoreError Unit → State T → Prop}
    (dies : ∀ data, crash { s with data := data })
    (after : post (.ok ()) { s with data := some envelope }) :
    wp (device T) (crashOnly spare) crash (setData envelope) post s := by
  refine wpCall_crashOnly after fun extent _ => ?_
  cases extent <;> exact dies _

theorem exists_wp {slot : Slot} {post : Except StoreError Bool → State T → Prop} (dies : crash s)
    (after : post (.ok (s.slots slot).isSome) s) :
    wp (device T) (crashOnly spare) crash (exists_ slot) post s := by
  refine wp_still (fun extent => by cases extent <;> rfl) dies ?_
  simpa [reply, FileOp.reply, State.slots, Directory.content] using after

theorem readCandidate_wp {slot : Slot} {post : Except StoreError (Candidate T) → State T → Prop}
    (dies : crash s)
    (after : post (.ok ⟨slot, (s.slots slot).isSome, (s.slots slot).bind Content.value?⟩) s) :
    wp (device T) (crashOnly spare) crash (readCandidate slot) post s := by
  refine wp_still (fun extent => by cases extent <;> rfl) dies ?_
  change post (.ok ⟨slot, (s.directory.content slot).isSome,
    (s.directory.content slot).bind Content.value?⟩) s at after
  cases found : s.directory.content slot <;>
    simpa [reply, FileOp.reply, FileOp.found, found] using after

/-- Opening truncates, so a crash from here on finds the slot torn. -/
theorem openFile_wp {post : Except StoreError Unit → State T → Prop} (dies : crash s)
    (opened : ∀ s', Moved s (s.slots.set .next (some .torn)) s' →
      (spare.holds s'.slots → crash s') ∧ post (.ok ()) s') :
    wp (device T) (crashOnly spare) crash (openFile .next) post s := by
  have moved : Moved s (s.slots.set .next (some .torn))
      { s with directory := s.directory.store .next .torn } :=
    ⟨by funext other; simp [State.slots, Slots.set], rfl, rfl⟩
  obtain ⟨torn, after⟩ := opened _ moved
  rw [moved.slots, Spare.holds_set_next] at torn
  refine wpCall_crashOnly after fun extent ok => ?_
  cases extent with
  | before => exact dies
  | partway => exact torn (ok (by simp [effect, FileOp.effect, State.slots]))
  | after => exact torn (ok (by simp [effect, FileOp.effect, State.slots]))

theorem writeFile_wp {envelope : Envelope T} {post : Except StoreError Unit → State T → Prop}
    (opened : s.slots .next = some .torn)
    (torn : ∀ s', Moved s s.slots s' → spare.holds s'.slots → crash s')
    (written : ∀ s', Moved s (s.slots.set .next (some (.text envelope))) s' →
      crash s' ∧ post (.ok ()) s') :
    wp (device T) (crashOnly spare) crash (writeFile .next envelope) post s := by
  have whole : Moved s (s.slots.set .next (some (.text envelope)))
      { s with directory := s.directory.store .next (.text envelope) } :=
    ⟨by funext other; simp [State.slots, Slots.set], rfl, rfl⟩
  have cut : Moved s s.slots { s with directory := s.directory.store .next .torn } := by
    refine ⟨?_, rfl, rfl⟩
    funext other
    by_cases same : other = .next
    · subst other; simpa [State.slots] using opened.symm
    · simp [State.slots, same]
  have tornCut := torn _ cut
  rw [cut.slots] at tornCut
  obtain ⟨safe, after⟩ := written _ whole
  refine wpCall_crashOnly after fun extent ok => ?_
  cases extent with
  | before => exact torn s (.refl s) (ok (by simpa [effect, FileOp.effect] using opened))
  | partway => exact tornCut (ok (by simp [effect, FileOp.effect, State.slots]))
  | after => exact safe

theorem sync_wp {post : Except StoreError Unit → State T → Prop} (written : (s.slots .next).isSome)
    (dies : crash s)
    (torn : ∀ s', Moved s (s.slots.set .next (some .torn)) s' → spare.holds s'.slots → crash s')
    (after : post (.ok ()) s) : wp (device T) (crashOnly spare) crash (sync .next) post s := by
  have present : s.directory.content .next ≠ none := Option.isSome_iff_ne_none.mp written
  have lost : Moved s (s.slots.set .next (some .torn))
      { s with directory := s.directory.tear .next } := by
    refine ⟨?_, rfl, rfl⟩
    funext other
    simp [State.slots, Slots.set, Directory.content_tear _ _ _ present]
  have tornLost := torn _ lost
  rw [lost.slots, Spare.holds_set_next] at tornLost
  refine wpCall_crashOnly after fun extent ok => ?_
  cases extent with
  | before => exact dies
  | partway =>
    refine tornLost (ok ?_)
    have tornNow := congrFun lost.slots .next
    rwa [Slots.set_same] at tornNow
  | after => exact dies

theorem rm_wp {slot : Slot} {post : Except StoreError Unit → State T → Prop} (dies : crash s)
    (removed : ∀ s', Moved s (s.slots.set slot none) s' → crash s' ∧ post (.ok ()) s') :
    wp (device T) (crashOnly spare) crash (rm slot) post s := by
  have moved : Moved s (s.slots.set slot none) { s with directory := s.directory.remove slot } :=
    ⟨by funext other; simp [State.slots, Slots.set], rfl, rfl⟩
  obtain ⟨safe, after⟩ := removed _ moved
  refine wpCall_crashOnly after fun extent _ => ?_
  cases extent with
  | before => exact dies
  | partway => exact dies
  | after => exact safe

theorem rename_wp {source target : Slot} {post : Except StoreError Unit → State T → Prop}
    (present : (s.slots source).isSome) (dies : crash s)
    (renamed : ∀ s', Moved s ((s.slots.set source none).set target (s.slots source)) s' →
      crash s' ∧ post (.ok ()) s') :
    wp (device T) (crashOnly spare) crash (rename source target) post s := by
  have found : s.directory.content source ≠ none := Option.isSome_iff_ne_none.mp present
  have moved : Moved s ((s.slots.set source none).set target (s.slots source))
      { s with directory := s.directory.move source target } := by
    refine ⟨?_, rfl, rfl⟩
    funext other
    simp [State.slots, Slots.set, Directory.content_move _ _ _ _ found]
  obtain ⟨safe, after⟩ := renamed _ moved
  refine wpCall_crashOnly ?_ fun extent _ => ?_
  · cases got : s.directory.get source with
    | none => simp [Directory.content, got] at found
    | some file =>
      change wp _ _ _ (orThrow (FileOp.found _)) post _
      rw [got]
      exact after
  · cases extent with
    | before => exact dies
    | partway => exact dies
    | after => exact safe

/-- The slots that a crash inside `commit` can leave. -/
inductive CommitPoint where
  | untouched
  | torn
  | written
  | backupCleared
  | currentMoved
  | published
  | finished

def CommitPoint.slots (envelope : Envelope T) (slots : Slots T) : CommitPoint → Slots T
  | .untouched => slots
  | .torn => slots.set .next (some .torn)
  | .written => slots.set .next (some (.text envelope))
  | .backupCleared => (slots.set .next (some (.text envelope))).set .backup none
  | .currentMoved =>
    ((slots.set .next (some (.text envelope))).set .backup (slots .current)).set .current none
  | .published => ((slots.set .backup (slots .current)).set .next none).set .current (some (.text envelope))
  | .finished => ((slots.set .backup none).set .next none).set .current (some (.text envelope))

/-- The two guarded blocks that end `commit`, once the old primary is out of the way. -/
theorem publish_wp {envelope : Envelope T} {old : Slots T} {post : Except StoreError Unit → State T → Prop}
    (start : Moved s (CommitPoint.currentMoved.slots envelope old) s₄)
    (dies : ∀ (point : CommitPoint) s', Moved s (point.slots envelope old) s' →
      point ≠ .torn → crash s')
    (after : ∀ s', Moved s (CommitPoint.finished.slots envelope old) s' → post (.ok ()) s') :
    wp (device T) (crashOnly spare) crash (do
      Program.catching (do rename .next .current; syncDirectory) fun _ => undoMove
      Program.catching (do rm .backup; syncDirectory) fun _ => pure ()) post s₄ := by
  have deadMoved : crash s₄ := dies .currentMoved s₄ start nofun
  refine wp_seq ?_
  rw [wp_catching]
  have nextWhole : s₄.slots .next = some (.text envelope) := by
    simp [start.slots, CommitPoint.slots]
  refine wp_seq (rename_wp (by simp [nextWhole]) deadMoved fun s₅ renamed => ?_)
  have published : Moved s (CommitPoint.published.slots envelope old) s₅ := by
    refine ⟨?_, (start.trans renamed).data, (start.trans renamed).locked⟩
    funext slot
    cases slot <;> simp [renamed.slots, start.slots, CommitPoint.slots]
  have deadPublished : crash s₅ := dies .published s₅ published nofun
  refine ⟨deadPublished, syncDirectory_wp deadPublished ?_⟩
  simp only [either_ok]
  rw [wp_catching]
  refine wp_seq (rm_wp deadPublished fun s₆ removed => ?_)
  have finished : Moved s (CommitPoint.finished.slots envelope old) s₆ := by
    refine ⟨?_, (published.trans removed).data, (published.trans removed).locked⟩
    funext slot
    cases slot <;> simp [removed.slots, published.slots, CommitPoint.slots]
  have deadFinished : crash s₆ := dies .finished s₆ finished nofun
  exact ⟨deadFinished, syncDirectory_wp deadFinished (after s₆ finished)⟩

/-- A crash leaves one of the commit points, the torn one only over spare slots, and a
commit that lives finishes. -/
theorem commit_wp {envelope : Envelope T} {post : Except StoreError Unit → State T → Prop}
    (locked : s.locked = true)
    (dies : ∀ (point : CommitPoint) s', Moved s (point.slots envelope s.slots) s' →
      (point = .torn → spare.holds s'.slots) → crash s')
    (after : ∀ s', Moved s (CommitPoint.finished.slots envelope s.slots) s' → post (.ok ()) s') :
    wp (device T) (crashOnly spare) crash (commit envelope) post s := by
  have untouched : crash s := dies .untouched s (.refl s) nofun
  have torn : ∀ s', Moved s (s.slots.set .next (some .torn)) s' → spare.holds s'.slots → crash s' :=
    fun s' moved ok => dies .torn s' moved fun _ => ok
  refine wp_seq (assertLockOwnership_wp locked untouched ?_)
  refine wp_seq (mkdir_wp untouched ?_)
  refine wp_seq (openFile_wp untouched fun s₁ opened => ⟨torn s₁ opened, ?_⟩)
  refine wp_seq ?_
  rw [wp_finally]
  refine wp_seq (writeFile_wp (by simp [opened.slots]) ?_ ?_)
  · intro s' moved
    rw [opened.slots] at moved
    exact torn s' (opened.trans moved)
  intro s₂ wrote
  have written : Moved s (CommitPoint.written.slots envelope s.slots) s₂ := by
    simpa [opened.slots, CommitPoint.slots] using opened.trans wrote
  have deadWritten : crash s₂ := dies .written s₂ written nofun
  refine ⟨deadWritten, sync_wp (by simp [written.slots, CommitPoint.slots]) deadWritten ?_ ?_⟩
  · intro s' moved
    refine torn s' ?_
    simpa [written.slots, CommitPoint.slots] using written.trans moved
  refine close_wp deadWritten ?_
  refine wp_seq (syncDirectory_wp deadWritten ?_)
  refine wp_seq (assertLockOwnership_wp (written.locked.trans locked) deadWritten ?_)
  refine wp_seq (rm_wp deadWritten fun s₃ removed => ?_)
  have cleared : Moved s (CommitPoint.backupCleared.slots envelope s.slots) s₃ := by
    simpa [written.slots, CommitPoint.slots] using written.trans removed
  have deadCleared : crash s₃ := dies .backupCleared s₃ cleared nofun
  refine ⟨deadCleared, ?_⟩
  refine wp_seq (exists_wp deadCleared ?_)
  have settled : ∀ (point : CommitPoint) s', Moved s (point.slots envelope s.slots) s' →
      point ≠ .torn → crash s' :=
    fun point s' moved whole => dies point s' moved fun tornPoint => (whole tornPoint).elim
  cases had : s.slots .current with
  | none =>
    have current : s₃.slots .current = none := by simp [cleared.slots, CommitPoint.slots, had]
    have start : Moved s (CommitPoint.currentMoved.slots envelope s.slots) s₃ := by
      refine ⟨?_, cleared.data, cleared.locked⟩
      funext slot
      cases slot <;> simp [cleared.slots, CommitPoint.slots, had]
    simp only [either_ok, current, Option.isSome_none, Bool.false_eq_true, ↓reduceIte]
    exact publish_wp start settled after
  | some old =>
    have current : s₃.slots .current = some old := by simp [cleared.slots, CommitPoint.slots, had]
    simp only [either_ok, current, Option.isSome_some, ↓reduceIte]
    refine wp_seq (rename_wp (by simp [current]) deadCleared fun s₄ moved => ?_)
    have start : Moved s (CommitPoint.currentMoved.slots envelope s.slots) s₄ := by
      refine ⟨?_, (cleared.trans moved).data, (cleared.trans moved).locked⟩
      funext slot
      cases slot <;> simp [moved.slots, cleared.slots, CommitPoint.slots, had]
    exact ⟨dies .currentMoved s₄ start nofun, publish_wp start settled after⟩

end Rules

end AtomicJsonStore
