import MaterialEmail.AtomicJsonStore.CrashSafety

/-! Calls in which operations fail and report it. A failure is harmless when the state from
before the call is still what the slots select at that moment. The ghost beside the state says
whether all failures so far were; a rejected call leaves the old state to later reads just then. -/
namespace AtomicJsonStore

open Interrupted

variable {D T R : Type}

/-- Operations whose failure the store sees. Reads of candidates only rank them lower, and
`#exists` swallows its errors. -/
def Op.fails : Op T → Bool
  | .file (.readFile _) => false
  | .file (.access _) => false
  | _ => true

def failsOnly (op : Op T) (fault : Fault Errno) (_ : State T) : Prop :=
  match fault with
  | .none => True
  | .fail _ _ => op.fails = true
  | .crash _ => False

instance (op : Op T) (fault : Fault Errno) (s : State T) : Decidable (failsOnly op fault s) :=
  match fault with
  | .none => .isTrue trivial
  | .fail _ _ => inferInstanceAs (Decidable (op.fails = true))
  | .crash _ => .isFalse id

/-- Where the failing operation stops, the slots still select `before`, and a failing lock
operation leaves the lock free. -/
def Harmless (config : Config D T) (before : Envelope T) (op : Op T) (fault : Fault Errno)
    (s : State T) : Prop :=
  match fault with
  | .fail _ extent => Base config (effect op extent s).slots before ∧
      (op.locks = true → (effect op extent s).locked = false)
  | _ => True

instance [DecidableEq T] (config : Config D T) (before : Envelope T) (op : Op T)
    (fault : Fault Errno) (s : State T) : Decidable (Harmless config before op fault s) :=
  match fault with
  | .none => .isTrue trivial
  | .fail _ extent => inferInstanceAs (Decidable (Base config (effect op extent s).slots before ∧
      (op.locks = true → (effect op extent s).locked = false)))
  | .crash _ => .isTrue trivial

section Rules

variable {config : Config D T} {before : Envelope T} {s : State T} {ghost : Prop}

/-- `wp` under failures, with the ghost that all of them were harmless. -/
abbrev fwp (config : Config D T) (before : Envelope T) (p : Store T α)
    (post : Except StoreError α → State T × Prop → Prop) (s : State T × Prop) : Prop :=
  wp ((device T).watched (Harmless config before)) (fun op fault s => failsOnly op fault s.1)
    (fun _ => False) p post s

/-- The ghost of a state that a failing operation has left. -/
def Judged (config : Config D T) (before : Envelope T) (ghost : Prop) (s' : State T)
    (ghost' : Prop) : Prop :=
  ghost' ↔ ghost ∧ Base config s'.slots before

/-- A failed operation stopped with the slots as they were or already as `slots`. -/
structure Stopped (s : State T) (slots : Slots T) (s' : State T) : Prop where
  slots : s'.slots = s.slots ∨ s'.slots = slots
  moved : Moved s s'.slots s'

theorem Stopped.early (s : State T) (slots : Slots T) : Stopped s slots s := ⟨Or.inl rfl, .refl s⟩

theorem Stopped.unchanged {slots : Slots T} (moved : Moved s s.slots s') : Stopped s slots s' :=
  ⟨Or.inl moved.slots, rfl, moved.data, moved.locked⟩

theorem Stopped.after {slots : Slots T} (moved : Moved s slots s') : Stopped s slots s' :=
  ⟨Or.inr moved.slots, rfl, moved.data, moved.locked⟩

theorem call_fwp {op : Op T} {next : Reply T op → Store T α}
    {post : Except StoreError α → State T × Prop → Prop} (free : op.locks = false)
    (after : fwp config before (next (reply op s)) post (effect op .after s, ghost))
    (failed : op.fails = true → ∀ code extent ghost',
      Judged config before ghost (effect op extent s) ghost' →
      fwp config before (next (refuse op code)) post (effect op extent s, ghost')) :
    fwp config before (.call op next) post (s, ghost) := by
  refine ⟨fun _ => ?_, fun code extent _ fails => ?_, fun _ never => never.elim⟩
  · show wp _ _ _ _ _ (effect op .after s, ghost ∧ True)
    rw [and_true]
    exact after
  · exact failed fails code extent _ (by simp [Judged, Harmless, free])

theorem still_fwp {op : Op T} {next : Reply T op → Store T α}
    {post : Except StoreError α → State T × Prop → Prop} (free : op.locks = false)
    (still : ∀ extent, effect op extent s = s)
    (after : fwp config before (next (reply op s)) post (s, ghost))
    (failed : op.fails = true → ∀ code ghost', Judged config before ghost s ghost' →
      fwp config before (next (refuse op code)) post (s, ghost')) :
    fwp config before (.call op next) post (s, ghost) := by
  apply call_fwp free
  · rw [still]
    exact after
  · intro fails code extent ghost' judged
    rw [still] at judged ⊢
    exact failed fails code ghost' judged

variable {post : Except StoreError Unit → State T × Prop → Prop}

theorem mkdir_fwp (after : post (.ok ()) (s, ghost))
    (failed : ∀ reason ghost', Judged config before ghost s ghost' → post (.error reason) (s, ghost')) :
    fwp config before mkdir post (s, ghost) :=
  still_fwp rfl (fun extent => by cases extent <;> rfl) after fun _ _ => failed _

theorem close_fwp {slot : Slot} (after : post (.ok ()) (s, ghost))
    (failed : ∀ reason ghost', Judged config before ghost s ghost' → post (.error reason) (s, ghost')) :
    fwp config before (close slot) post (s, ghost) :=
  still_fwp rfl (fun extent => by cases extent <;> rfl) after fun _ _ => failed _

theorem assertLockOwnership_fwp (locked : s.locked = true) (after : post (.ok ()) (s, ghost))
    (failed : ∀ reason ghost', Judged config before ghost s ghost' → post (.error reason) (s, ghost')) :
    fwp config before assertLockOwnership post (s, ghost) := by
  apply still_fwp rfl (fun extent => by cases extent <;> rfl)
  · simpa [reply, locked, orRaise] using after
  · exact fun _ _ => failed _

theorem syncDirectory_fwp (after : post (.ok ()) (s, ghost))
    (tolerated : ∀ ghost', Judged config before ghost s ghost' → post (.ok ()) (s, ghost'))
    (failed : ∀ reason ghost', Judged config before ghost s ghost' → post (.error reason) (s, ghost')) :
    fwp config before syncDirectory post (s, ghost) := by
  apply still_fwp rfl (fun extent => by cases extent <;> rfl)
  · exact after
  intro _ code ghost' judged
  show fwp config before (if toleratedBySyncDirectory code then _ else _) post (s, ghost')
  split
  · exact tolerated ghost' judged
  · exact failed _ ghost' judged

theorem openFile_fwp (after : ∀ s', Moved s (s.slots.set .next (some .torn)) s' →
      post (.ok ()) (s', ghost))
    (failed : ∀ reason s' ghost', Stopped s (s.slots.set .next (some .torn)) s' →
      Judged config before ghost s' ghost' → post (.error reason) (s', ghost')) :
    fwp config before (openFile .next) post (s, ghost) := by
  have opened : Moved s (s.slots.set .next (some .torn))
      { s with directory := s.directory.store .next .torn } :=
    ⟨by funext other; simp [State.slots, Slots.set], rfl, rfl⟩
  apply call_fwp rfl
  · exact after _ opened
  · intro _ code extent ghost' judged
    cases extent with
    | before => exact failed _ s ghost' (.early s _) judged
    | partway => exact failed _ _ ghost' (.after opened) judged
    | after => exact failed _ _ ghost' (.after opened) judged

theorem writeFile_fwp {envelope : Envelope T} (opened : s.slots .next = some .torn)
    (after : ∀ s', Moved s (s.slots.set .next (some (.text envelope))) s' → post (.ok ()) (s', ghost))
    (failed : ∀ reason s' ghost',
      Stopped s (s.slots.set .next (some (.text envelope))) s' →
      Judged config before ghost s' ghost' → post (.error reason) (s', ghost')) :
    fwp config before (writeFile .next envelope) post (s, ghost) := by
  have whole : Moved s (s.slots.set .next (some (.text envelope)))
      { s with directory := s.directory.store .next (.text envelope) } :=
    ⟨by funext other; simp [State.slots, Slots.set], rfl, rfl⟩
  have cut : Moved s s.slots { s with directory := s.directory.store .next .torn } := by
    refine ⟨?_, rfl, rfl⟩
    funext other
    by_cases same : other = .next
    · subst other
      simpa [State.slots] using opened.symm
    · simp [State.slots, same]
  apply call_fwp rfl
  · exact after _ whole
  · intro _ code extent ghost' judged
    cases extent with
    | before => exact failed _ s ghost' (.early s _) judged
    | partway => exact failed _ _ ghost' (.unchanged cut) judged
    | after => exact failed _ _ ghost' (.after whole) judged

theorem sync_fwp (written : (s.slots .next).isSome) (after : post (.ok ()) (s, ghost))
    (failed : ∀ reason s' ghost', Stopped s (s.slots.set .next (some .torn)) s' →
      Judged config before ghost s' ghost' → post (.error reason) (s', ghost')) :
    fwp config before (sync .next) post (s, ghost) := by
  have present : s.directory.content .next ≠ none := Option.isSome_iff_ne_none.mp written
  have lost : Moved s (s.slots.set .next (some .torn))
      { s with directory := s.directory.tear .next } := by
    refine ⟨?_, rfl, rfl⟩
    funext other
    simp [State.slots, Slots.set, Directory.content_tear _ _ _ present]
  apply call_fwp rfl
  · exact after
  · intro _ code extent ghost' judged
    cases extent with
    | before => exact failed _ s ghost' (.early s _) judged
    | partway => exact failed _ _ ghost' (.after lost) judged
    | after => exact failed _ s ghost' (.early s _) judged

theorem rm_fwp {slot : Slot} (after : ∀ s', Moved s (s.slots.set slot none) s' →
      post (.ok ()) (s', ghost))
    (failed : ∀ reason s' ghost', Stopped s (s.slots.set slot none) s' →
      Judged config before ghost s' ghost' → post (.error reason) (s', ghost')) :
    fwp config before (rm slot) post (s, ghost) := by
  have removed : Moved s (s.slots.set slot none) { s with directory := s.directory.remove slot } :=
    ⟨by funext other; simp [State.slots, Slots.set], rfl, rfl⟩
  apply call_fwp rfl
  · exact after _ removed
  · intro _ code extent ghost' judged
    cases extent with
    | before => exact failed _ s ghost' (.early s _) judged
    | partway => exact failed _ s ghost' (.early s _) judged
    | after => exact failed _ _ ghost' (.after removed) judged

/-- The slots after `source` was renamed to `target`. -/
def Slots.renamed (slots : Slots T) (source target : Slot) : Slots T :=
  (slots.set source none).set target (slots source)

theorem rename_fwp {source target : Slot} (present : (s.slots source).isSome)
    (after : ∀ s', Moved s (s.slots.renamed source target) s' → post (.ok ()) (s', ghost))
    (failed : ∀ reason s' ghost', Stopped s (s.slots.renamed source target) s' →
      Judged config before ghost s' ghost' → post (.error reason) (s', ghost')) :
    fwp config before (rename source target) post (s, ghost) := by
  have found : s.directory.content source ≠ none := Option.isSome_iff_ne_none.mp present
  have moved : Moved s (s.slots.renamed source target)
      { s with directory := s.directory.move source target } := by
    refine ⟨?_, rfl, rfl⟩
    funext other
    simp [State.slots, Slots.renamed, Slots.set, Directory.content_move _ _ _ _ found]
  apply call_fwp rfl
  · cases got : s.directory.get source with
    | none => simp [Directory.content, got] at found
    | some file =>
      have whole : reply (.file (.rename source target) : Op T) s = .ok () := by
        simp [reply, FileOp.reply, got, FileOp.found]
      rw [whole]
      exact after _ moved
  · intro _ code extent ghost' judged
    cases extent with
    | before => exact failed _ s ghost' (.early s _) judged
    | partway => exact failed _ s ghost' (.early s _) judged
    | after => exact failed _ _ ghost' (.after moved) judged

theorem exists_fwp {slot : Slot} {post : Except StoreError Bool → State T × Prop → Prop}
    (after : post (.ok (s.slots slot).isSome) (s, ghost)) :
    fwp config before (exists_ slot) post (s, ghost) := by
  apply still_fwp rfl (fun extent => by cases extent <;> rfl)
  · simpa [reply, FileOp.reply, State.slots, Directory.content] using after
  · intro fails
    cases fails

theorem readCandidate_fwp {slot : Slot} {post : Except StoreError (Candidate T) → State T × Prop → Prop}
    (after : post (.ok (s.slots.candidate slot)) (s, ghost)) :
    fwp config before (readCandidate slot) post (s, ghost) := by
  apply still_fwp rfl (fun extent => by cases extent <;> rfl)
  · change post (.ok ⟨slot, (s.directory.content slot).isSome,
      (s.directory.content slot).bind Content.value?⟩) (s, ghost) at after
    cases found : s.directory.content slot <;>
      simpa [reply, FileOp.reply, FileOp.found, found] using after
  · intro fails
    cases fails

theorem readCandidates_fwp {post : Except StoreError (List (Candidate T)) → State T × Prop → Prop}
    (after : post (.ok s.slots.candidates) (s, ghost)) :
    fwp config before readCandidates post (s, ghost) := by
  refine wp_seq (readCandidate_fwp ?_)
  refine wp_seq (readCandidate_fwp ?_)
  refine wp_seq (readCandidate_fwp ?_)
  exact after

/-- `next` is whole and the old backup gone. -/
structure Cleared (envelope : Envelope T) (old slots : Slots T) : Prop where
  next : slots.holds .next envelope
  current : slots .current = old .current ∨ slots .current = none
  backup : slots .backup = none ∨ slots .backup = old .current

structure Published (envelope : Envelope T) (old slots : Slots T) : Prop where
  current : slots.holds .current envelope
  next : slots .next = none
  backup : slots .backup = none ∨ slots .backup = old .current

/-- The slots of a commit of `envelope` over `old` from the moment `next` is whole. -/
def Late (envelope : Envelope T) (old slots : Slots T) : Prop :=
  slots = old.set .next (some (.text envelope)) ∨ Cleared envelope old slots ∨
    Published envelope old slots

/-- A commit failed: the ghost says whether `before` still stands. -/
structure Fails (config : Config D T) (before : Envelope T) (s s' : State T) (ghost : Prop) : Prop where
  judged : ghost ↔ Base config s'.slots before
  data : s'.data = s.data
  locked : s'.locked = s.locked
  present : s'.slots = s.slots ∨ ∃ slot, s'.slots slot ≠ none

section Commit

variable {envelope : Envelope T} {old : Slots T} {s₀ s' : State T} {P ghost' : Prop}

theorem Late.present (late : Late envelope old slots) : ∃ slot, slots slot ≠ none := by
  rcases late with rfl | cleared | published
  · exact ⟨.next, by simp⟩
  · exact ⟨.next, by rw [cleared.next]; simp⟩
  · exact ⟨.current, by rw [published.current]; simp⟩

theorem Judged.late (judged : Judged config before ghost s' ghost') (clean : P → ghost)
    (stands : Base config s'.slots before ↔ P) : ghost' ↔ P := by
  rw [Judged, stands] at judged
  rw [judged]
  exact ⟨fun h => h.2, fun h => ⟨clean h, h⟩⟩

/-- What the rules for the late part of a commit share. -/
structure Ending (config : Config D T) (before envelope : Envelope T) (s₀ : State T) (P : Prop)
    (post : Except StoreError Unit → State T × Prop → Prop) : Prop where
  stands : ∀ slots, Late envelope s₀.slots slots → (Base config slots before ↔ P)
  failed : ∀ reason s' ghost', Fails config before s₀ s' ghost' → post (.error reason) (s', ghost')
  finished : ∀ s' ghost', Moved s₀ s'.slots s' → Published envelope s₀.slots s'.slots → (P → ghost') →
    post (.ok ()) (s', ghost')

theorem Ending.fails (ending : Ending config before envelope s₀ P post) (moved : Moved s₀ s'.slots s')
    (late : Late envelope s₀.slots s'.slots) (judged : ghost' ↔ P) (reason : StoreError) :
    post (.error reason) (s', ghost') := by
  refine ending.failed reason s' ghost' ⟨?_, moved.data, moved.locked, Or.inr late.present⟩
  rw [judged, ending.stands _ late]

theorem undoMove_fwp (ending : Ending config before envelope s₀ P post) (moved : Moved s₀ s.slots s)
    (late : Cleared envelope s₀.slots s.slots ∨ Published envelope s₀.slots s.slots)
    (judged : ghost ↔ P) : fwp config before undoMove post (s, ghost) := by
  refine wp_seq (exists_fwp ?_)
  simp only [either_ok]
  cases current : s.slots .current with
  | some content => exact ending.fails moved (Or.inr late) judged _
  | none =>
    simp only [Option.isSome_none, Bool.not_false, ↓reduceIte]
    refine wp_seq (exists_fwp ?_)
    simp only [either_ok]
    cases backup : s.slots .backup with
    | none => exact ending.fails moved (Or.inr late) judged _
    | some content =>
      have cleared : Cleared envelope s₀.slots s.slots := by
        rcases late with cleared | published
        · exact cleared
        · have := published.current
          rw [Slots.holds, current] at this
          cases this
      have restored : Cleared envelope s₀.slots (s.slots.renamed .backup .current) := by
        refine ⟨?_, ?_, ?_⟩
        · simpa [Slots.holds, Slots.renamed, Slots.set] using cleared.next
        · left
          rcases cleared.backup with none | same
          · rw [backup] at none
            cases none
          · simpa [Slots.renamed] using same
        · simp [Slots.renamed]
      simp only [Option.isSome_some, ↓reduceIte]
      refine wp_seq ?_
      rw [wp_catching]
      apply rename_fwp (by simp [backup])
      · intro s' renamed
        rw [← renamed.slots] at restored
        exact ending.fails (by simpa [renamed.slots] using moved.trans renamed)
          (Or.inr (Or.inl restored)) judged _
      · intro reason s' ghost' after judged'
        have lateNow : Cleared envelope s₀.slots s'.slots := by
          rcases after.slots with same | renamed
          · rwa [same]
          · rwa [renamed]
        have stands := ending.stands _ (Or.inr (Or.inl lateNow))
        exact ending.fails (moved.trans after.moved) (Or.inr (Or.inl lateNow))
          (judged'.late judged.2 stands) _

theorem Cleared.publish (cleared : Cleared envelope old slots) :
    Published envelope old (slots.renamed .next .current) := by
  refine ⟨?_, by simp [Slots.renamed], ?_⟩
  · simpa [Slots.holds, Slots.renamed] using cleared.next
  · simpa [Slots.renamed, Slots.set] using cleared.backup

theorem Published.dropBackup (published : Published envelope old slots) :
    Published envelope old (slots.set .backup none) := by
  refine ⟨?_, ?_, by simp⟩
  · simpa [Slots.holds, Slots.set] using published.current
  · simpa [Slots.set] using published.next

/-- The last block of `commit` swallows its errors. -/
theorem dropBackup_fwp (ending : Ending config before envelope s₀ P post)
    (moved : Moved s₀ s.slots s) (published : Published envelope s₀.slots s.slots)
    (clean : P → ghost) :
    fwp config before (Program.catching (do rm .backup; syncDirectory) fun _ => pure ()) post
      (s, ghost) := by
  refine (wp_catching _ _ _ _).2 ?_
  have late : ∀ s' ghost', Moved s₀ s'.slots s' → Published envelope s₀.slots s'.slots →
      Judged config before ghost s' ghost' → P → ghost' := by
    intro s' ghost' _ published' judged
    exact (judged.late clean (ending.stands _ (Or.inr (Or.inr published')))).2
  refine wp_seq (rm_fwp ?_ ?_)
  · intro s' removed
    have published' : Published envelope s₀.slots s'.slots := by
      rw [removed.slots]
      exact published.dropBackup
    have moved' : Moved s₀ s'.slots s' := ⟨rfl, (moved.trans removed).data, (moved.trans removed).locked⟩
    apply syncDirectory_fwp
    · exact ending.finished s' ghost moved' published' clean
    · intro ghost' judged
      exact ending.finished s' ghost' moved' published' (late s' ghost' moved' published' judged)
    · intro reason ghost' judged
      exact ending.finished s' ghost' moved' published' (late s' ghost' moved' published' judged)
  · intro reason s' ghost' stopped judged
    have published' : Published envelope s₀.slots s'.slots := by
      rcases stopped.slots with same | removed
      · rwa [same]
      · rw [removed]
        exact published.dropBackup
    have moved' := moved.trans stopped.moved
    exact ending.finished s' ghost' moved' published' (late s' ghost' moved' published' judged)

/-- The two guarded blocks that end `commit`, once the old primary is out of the way. -/
theorem publish_fwp (ending : Ending config before envelope s₀ P post)
    (moved : Moved s₀ s.slots s) (cleared : Cleared envelope s₀.slots s.slots) (clean : P → ghost) :
    fwp config before (do
      Program.catching (do rename .next .current; syncDirectory) fun _ => undoMove
      Program.catching (do rm .backup; syncDirectory) fun _ => pure ()) post (s, ghost) := by
  refine wp_seq ?_
  rw [wp_catching]
  have undoes : ∀ s' ghost', Moved s₀ s'.slots s' →
      Cleared envelope s₀.slots s'.slots ∨ Published envelope s₀.slots s'.slots →
      Judged config before ghost s' ghost' → fwp config before undoMove
        (either (fun _ s'' => fwp config before
          (Program.catching (do rm .backup; syncDirectory) fun _ => pure ()) post s'')
          fun reason s'' => post (.error reason) s'') (s', ghost') := by
    intro s' ghost' moved' late judged
    have judged' := judged.late clean (ending.stands _ (Or.inr late))
    apply undoMove_fwp (P := P) _ moved' late judged'
    exact ⟨ending.stands, ending.failed, fun s'' ghost'' moved'' published clean' =>
      dropBackup_fwp ending moved'' published clean'⟩
  refine wp_seq (rename_fwp cleared.next.isSome ?_ ?_)
  · intro s' renamed
    have published : Published envelope s₀.slots s'.slots := by
      rw [renamed.slots]
      exact cleared.publish
    have moved' : Moved s₀ s'.slots s' := ⟨rfl, (moved.trans renamed).data, (moved.trans renamed).locked⟩
    apply syncDirectory_fwp
    · exact dropBackup_fwp ending moved' published clean
    · intro ghost' judged
      exact dropBackup_fwp ending moved' published
        (judged.late clean (ending.stands _ (Or.inr (Or.inr published)))).2
    · intro reason ghost' judged
      exact undoes s' ghost' moved' (Or.inr published) judged
  · intro reason s' ghost' stopped judged
    apply undoes s' ghost' (moved.trans stopped.moved) _ judged
    rcases stopped.slots with same | renamed
    · rw [same]
      exact Or.inl cleared
    · rw [renamed]
      exact Or.inr cleared.publish

/-- From the second look at the lock on: the new envelope is in `next`. -/
theorem replace_fwp (ending : Ending config before envelope s₀ P post)
    (moved : Moved s₀ (s₀.slots.set .next (some (.text envelope))) s) (locked : s₀.locked = true)
    (clean : P → ghost) :
    fwp config before (do
      assertLockOwnership
      rm .backup
      let hadCurrent ← exists_ .current
      if hadCurrent then rename .current .backup
      Program.catching (do rename .next .current; syncDirectory) fun _ => undoMove
      Program.catching (do rm .backup; syncDirectory) fun _ => pure ()) post (s, ghost) := by
  have here : Moved s₀ s.slots s := ⟨rfl, moved.data, moved.locked⟩
  have late : Late envelope s₀.slots s.slots := Or.inl moved.slots
  have removed : Cleared envelope s₀.slots (s.slots.set .backup none) := by
    rw [moved.slots]
    refine ⟨by simp [Slots.holds, Slots.set], ?_, by simp⟩
    simp [Slots.set]
  refine wp_seq (assertLockOwnership_fwp (moved.locked.trans locked) ?_ ?_)
  swap
  · intro reason ghost' judged
    exact ending.fails here late (judged.late clean (ending.stands _ late)) reason
  refine wp_seq (rm_fwp ?_ ?_)
  swap
  · intro reason s' ghost' stopped judged
    have late' : Late envelope s₀.slots s'.slots := by
      rcases stopped.slots with same | gone
      · rwa [same]
      · rw [gone]
        exact Or.inr (Or.inl removed)
    exact ending.fails (here.trans stopped.moved) late' (judged.late clean (ending.stands _ late')) reason
  intro s₃ gone
  have moved₃ : Moved s₀ s₃.slots s₃ := ⟨rfl, (here.trans gone).data, (here.trans gone).locked⟩
  have cleared₃ : Cleared envelope s₀.slots s₃.slots := by
    rw [gone.slots]
    exact removed
  refine wp_seq (exists_fwp ?_)
  cases current : s₃.slots .current with
  | none =>
    simp only [either_ok, Option.isSome_none, Bool.false_eq_true, ↓reduceIte]
    exact publish_fwp ending moved₃ cleared₃ clean
  | some content =>
    simp only [either_ok, Option.isSome_some, ↓reduceIte]
    have renamed : Cleared envelope s₀.slots (s₃.slots.renamed .current .backup) := by
      refine ⟨?_, by simp [Slots.renamed, Slots.set], ?_⟩
      · simpa [Slots.holds, Slots.renamed, Slots.set] using cleared₃.next
      · rcases cleared₃.current with same | none
        · right
          simpa [Slots.renamed] using same
        · rw [current] at none
          cases none
    refine wp_seq (rename_fwp (by simp [current]) ?_ ?_)
    · intro s₄ backedUp
      have moved₄ : Moved s₀ s₄.slots s₄ :=
        ⟨rfl, (moved₃.trans backedUp).data, (moved₃.trans backedUp).locked⟩
      rw [← backedUp.slots] at renamed
      exact publish_fwp ending moved₄ renamed clean
    · intro reason s' ghost' stopped judged
      have late' : Late envelope s₀.slots s'.slots := by
        rcases stopped.slots with same | backedUp
        · rw [same]
          exact Or.inr (Or.inl cleared₃)
        · rw [backedUp]
          exact Or.inr (Or.inl renamed)
      exact ending.fails (moved₃.trans stopped.moved) late'
        (judged.late clean (ending.stands _ late')) reason

theorem Fails.of_judged (judged : Judged config before ghost s' ghost') (clean : ghost)
    (moved : Moved s₀ s'.slots s') (present : s'.slots = s₀.slots ∨ ∃ slot, s'.slots slot ≠ none) :
    Fails config before s₀ s' ghost' :=
  ⟨⟨fun h => (judged.1 h).2, fun h => judged.2 ⟨clean, h⟩⟩, moved.data, moved.locked, present⟩

theorem Fails.again (fails : Fails config before s₀ s' ghost)
    (judged : Judged config before ghost s' ghost') : Fails config before s₀ s' ghost' :=
  ⟨⟨fun h => (judged.1 h).2, fun h => judged.2 ⟨fails.judged.2 h, h⟩⟩, fails.data, fails.locked,
    fails.present⟩

/-- A commit that fails leaves the ghost knowing whether `before` still stands; one that lives
has published, and any failure on its way was harmless if `P`. -/
theorem commit_fwp (ending : Ending config before envelope s P post) (locked : s.locked = true)
    (clean : ghost) : fwp config before (commit envelope) post (s, ghost) := by
  have early : ∀ reason ghost', Judged config before ghost s ghost' → post (.error reason) (s, ghost') :=
    fun reason ghost' judged =>
      ending.failed reason s ghost' (.of_judged judged clean (.refl s) (Or.inl rfl))
  refine wp_seq (assertLockOwnership_fwp locked ?_ early)
  refine wp_seq (mkdir_fwp ?_ early)
  refine wp_seq (openFile_fwp ?_ ?_)
  swap
  · intro reason s' ghost' stopped judged
    apply ending.failed
    apply Fails.of_judged judged clean stopped.moved
    rcases stopped.slots with same | torn
    · exact Or.inl same
    · exact Or.inr ⟨.next, by simp [torn]⟩
  intro s₁ opened
  have closing : ∀ reason s' ghost', Fails config before s s' ghost' → fwp config before (close .next)
      (either (fun _ s'' => post (.error reason) s'') fun error s'' => post (.error error) s'')
      (s', ghost') := by
    intro reason s' ghost' fails
    apply close_fwp
    · exact ending.failed reason s' ghost' fails
    · intro error ghost'' judged
      exact ending.failed error s' ghost'' (fails.again judged)
  refine wp_seq ((wp_finally _ _ _ _).2 ?_)
  refine wp_seq (writeFile_fwp (by simp [opened.slots]) ?_ ?_)
  swap
  · intro reason s' ghost' stopped judged
    apply closing
    apply Fails.of_judged judged clean (opened.trans stopped.moved)
    rcases stopped.slots with torn | whole
    · exact Or.inr ⟨.next, by simp [torn, opened.slots]⟩
    · exact Or.inr ⟨.next, by simp [whole]⟩
  intro s₂ wrote
  have written : Moved s (s.slots.set .next (some (.text envelope))) s₂ := by
    simpa [opened.slots] using opened.trans wrote
  have late : Late envelope s.slots s₂.slots := Or.inl written.slots
  have here : Moved s s₂.slots s₂ := ⟨rfl, written.data, written.locked⟩
  apply sync_fwp (by simp [written.slots])
  swap
  · intro reason s' ghost' stopped judged
    apply closing
    apply Fails.of_judged judged clean (here.trans stopped.moved)
    rcases stopped.slots with same | torn
    · exact Or.inr ⟨.next, by simp [same, written.slots]⟩
    · exact Or.inr ⟨.next, by simp [torn]⟩
  apply close_fwp
  swap
  · intro reason ghost' judged
    exact ending.fails here late (judged.late (fun _ => clean) (ending.stands _ late)) reason
  refine wp_seq (syncDirectory_fwp ?_ ?_ ?_)
  · exact replace_fwp ending written locked fun _ => clean
  · intro ghost' judged
    exact replace_fwp ending written locked (judged.late (fun _ => clean) (ending.stands _ late)).2
  · intro reason ghost' judged
    exact ending.fails here late (judged.late (fun _ => clean) (ending.stands _ late)) reason

/-- Once the successor of `before` is whole in a slot, `before` no longer stands. -/
theorem Late.overtakes (late : Late envelope old slots)
    (newer : before.generation < envelope.generation) : ¬ Base config slots before := by
  have held : ∃ slot, slots.holds slot envelope := by
    rcases late with rfl | cleared | published
    · exact ⟨.next, by simp [Slots.holds]⟩
    · exact ⟨.next, cleared.next⟩
    · exact ⟨.current, published.current⟩
  obtain ⟨slot, holds⟩ := held
  rintro (⟨selected, chosen⟩ | ⟨empty, -⟩)
  · rcases (selectCandidate_some slots chosen).2 slot envelope holds with less | ⟨same, -⟩
    · have : envelope.generation < before.generation := less
      omega
    · have : envelope.generation = before.generation := same
      omega
  · rw [Slots.holds, empty slot] at holds
    cases holds

/-- While the selected copy of a recovery is moved to `current`, it stays the selected one. -/
theorem Late.stands (late : Late envelope old slots)
    (older : ∀ held, old.holds .current held → held.generation < envelope.generation)
    (notNewer : ∀ held, old.holds .backup held → held.generation ≤ envelope.generation) :
    Base config slots envelope := by
  have fromCurrent : ∀ slot held, slots slot = none ∨ slots slot = old .current →
      slots.holds slot held → held.generation < envelope.generation := by
    rintro slot held (none | same) holds
    · rw [Slots.holds, none] at holds
      cases holds
    · rw [Slots.holds, same] at holds
      exact older held holds
  rcases late with rfl | cleared | published
  · refine Or.inl ⟨.next, selectCandidate_eq (by simp [Slots.holds]) ?_⟩
    rintro other held holds (less | ⟨same, priority⟩)
    · cases other with
      | next => rfl
      | current =>
        have := older held (by simpa [Slots.holds, Slots.set] using holds)
        have : envelope.generation < held.generation := less
        omega
      | backup =>
        have := notNewer held (by simpa [Slots.holds, Slots.set] using holds)
        have : envelope.generation < held.generation := less
        omega
    · cases other with
      | next => rfl
      | current =>
        have := older held (by simpa [Slots.holds, Slots.set] using holds)
        have : envelope.generation = held.generation := same
        omega
      | backup => simp [Slot.priority] at priority
  · refine Or.inl ⟨.next, selectCandidate_eq cleared.next ?_⟩
    intro other held holds precedes
    have atLeast : envelope.generation ≤ held.generation := by
      rcases precedes with less | ⟨same, -⟩
      · exact Nat.le_of_lt less
      · exact Nat.le_of_eq same
    cases other with
    | next => rfl
    | current =>
      have := fromCurrent .current held cleared.current.symm holds
      omega
    | backup =>
      have := fromCurrent .backup held cleared.backup holds
      omega
  · refine Or.inl ⟨.current, selectCandidate_eq published.current ?_⟩
    intro other held holds precedes
    cases other with
    | current => rfl
    | next =>
      rw [Slots.holds, published.next] at holds
      cases holds
    | backup =>
      have := fromCurrent .backup held published.backup holds
      rcases precedes with less | ⟨same, -⟩
      · have : envelope.generation < held.generation := less
        omega
      · have : envelope.generation = held.generation := same
        omega

end Commit

theorem setData_fwp {envelope : Envelope T} (after : post (.ok ()) ({ s with data := some envelope }, ghost)) :
    fwp config before (setData envelope) post (s, ghost) := by
  refine ⟨fun _ => ?_, fun _ _ no => ?_, fun _ never => never.elim⟩
  · show post (.ok ()) ({ s with data := some envelope }, ghost ∧ True)
    rwa [and_true]
  · cases no

theorem getData_fwp {post : Except StoreError (Option (Envelope T)) → State T × Prop → Prop}
    (after : post (.ok s.data) (s, ghost)) : fwp config before getData post (s, ghost) := by
  refine ⟨fun _ => ?_, fun _ _ no => ?_, fun _ never => never.elim⟩
  · show post (.ok s.data) (s, ghost ∧ True)
    rwa [and_true]
  · cases no

/-- The slots after a load: `before` in `current` and selected. -/
structure Loaded (before : Envelope T) (s : State T) : Prop where
  current : s.slots.holds .current before
  selected : selectCandidate s.slots.candidates = some (.current, before)

theorem Loaded.base (loaded : Loaded before s) : Base config s.slots before :=
  Or.inl ⟨_, loaded.selected⟩

theorem removeLeftovers_fwp {backupFirst : Bool} (loaded : Loaded before s) (clean : ghost)
    (after : ∀ s' ghost', ghost' → Moved s s'.slots s' → Loaded before s' → post (.ok ()) (s', ghost'))
    (failed : ∀ reason s' ghost', Fails config before s s' ghost' → post (.error reason) (s', ghost')) :
    fwp config before (removeLeftovers backupFirst) post (s, ghost) := by
  have removed : ∀ (s' : State T) slot, slot ≠ .current → Loaded before s' → ∀ s'',
      s''.slots = s'.slots.set slot none → Loaded before s'' := by
    intro s' slot other loaded' s'' slots
    have holds : s''.slots.holds .current before := by
      rw [slots, Slots.holds, Slots.set_other _ _ _ _ other.symm]
      exact loaded'.current
    refine ⟨holds, selectCandidate_eq holds ?_⟩
    intro other' held heldBy precedes
    have heldBefore : s'.slots.holds other' held := by
      rw [slots, Slots.holds, Slots.set] at heldBy
      split at heldBy
      · cases heldBy
      · exact heldBy
    have first := (selectCandidate_some _ loaded'.selected).2 other' held heldBefore
    rcases precedes with less | ⟨same, priority⟩
    · rcases first with less' | ⟨same', -⟩
      · have : before.generation < held.generation := less
        have : held.generation < before.generation := less'
        omega
      · have : before.generation < held.generation := less
        have : held.generation = before.generation := same'
        omega
    · cases other' with
      | current => rfl
      | next => simp [Slot.priority] at priority
      | backup => simp [Slot.priority] at priority
  have judgedClean : ∀ (s' : State T) (ghost ghost' : Prop), ghost → Loaded before s' →
      Judged config before ghost s' ghost' → ghost' :=
    fun s' ghost ghost' clean loaded' judged => judged.2 ⟨clean, loaded'.base⟩
  -- either removal may fail; `current` stays selected, so the ghost stays true
  have both : ∀ slot slot', slot ≠ .current → slot' ≠ .current →
      fwp config before (do
        let first ← (rm slot).attempt
        let second ← (rm slot').attempt
        orRaise first
        orRaise second) post (s, ghost) := by
    intro slot slot' other other'
    have fails : ∀ reason s' ghost', Moved s s'.slots s' → Loaded before s' → ghost' →
        post (.error reason) (s', ghost') := by
      intro reason s' ghost' moved loaded' clean'
      refine failed reason s' ghost' ⟨⟨fun _ => loaded'.base, fun _ => clean'⟩, moved.data, moved.locked, ?_⟩
      exact Or.inr ⟨.current, by rw [loaded'.current]; simp⟩
    have second : ∀ (first : Except StoreError Unit) s' (ghost' : Prop), Moved s s'.slots s' →
        Loaded before s' → ghost' →
        fwp config before (do
          let second ← (rm slot').attempt
          orRaise first
          orRaise second) post (s', ghost') := by
      intro first s' ghost' moved loaded' clean'
      refine wp_seq ((wp_attempt _ _ _).2 ?_)
      apply rm_fwp
      · intro s'' gone
        have loaded'' := removed s' slot' other' loaded' s'' gone.slots
        have moved'' : Moved s s''.slots s'' := ⟨rfl, (moved.trans gone).data, (moved.trans gone).locked⟩
        cases first with
        | ok _ => exact after s'' ghost' clean' moved'' loaded''
        | error reason => exact fails reason s'' ghost' moved'' loaded'' clean'
      · intro reason s'' ghost'' stopped judged
        have loaded'' : Loaded before s'' := by
          rcases stopped.slots with unchanged | gone
          · exact ⟨by rw [unchanged]; exact loaded'.current, by rw [unchanged]; exact loaded'.selected⟩
          · exact removed s' slot' other' loaded' s'' gone
        have moved'' := moved.trans stopped.moved
        have clean'' := judgedClean s'' ghost' ghost'' clean' loaded'' judged
        cases first with
        | ok _ => exact fails reason s'' ghost'' moved'' loaded'' clean''
        | error reason' => exact fails reason' s'' ghost'' moved'' loaded'' clean''
    refine wp_seq ((wp_attempt _ _ _).2 ?_)
    apply rm_fwp
    · intro s' gone
      have loaded' := removed s slot other loaded s' gone.slots
      exact second (.ok ()) s' ghost ⟨rfl, gone.data, gone.locked⟩ loaded' clean
    · intro reason s' ghost' stopped judged
      have loaded' : Loaded before s' := by
        rcases stopped.slots with unchanged | gone
        · exact ⟨by rw [unchanged]; exact loaded.current, by rw [unchanged]; exact loaded.selected⟩
        · exact removed s slot other loaded s' gone
      have clean' := judgedClean s' ghost ghost' clean loaded' judged
      exact second (.error reason) s' ghost' stopped.moved loaded' clean'
  cases backupFirst with
  | false => exact both .next .backup (by decide) (by decide)
  | true => exact both .backup .next (by decide) (by decide)

theorem Published.loaded (published : Published before old s.slots)
    (older : ∀ held, old.holds .current held → held.generation < before.generation) :
    Loaded before s := by
  refine ⟨published.current, selectCandidate_eq published.current ?_⟩
  intro other held holds precedes
  cases other with
  | current => rfl
  | next =>
    rw [Slots.holds, published.next] at holds
    cases holds
  | backup =>
    rcases published.backup with none | same
    · rw [Slots.holds, none] at holds
      cases holds
    · rw [Slots.holds, same] at holds
      have := older held holds
      rcases precedes with less | ⟨equal, -⟩
      · have : before.generation < held.generation := less
        omega
      · have : before.generation = held.generation := equal
        omega

/-- The commit with which a load settles `before`: at worst its source is torn. -/
theorem recover_fwp (locked : s.locked = true) (clean : ghost)
    (older : ∀ held, s.slots.holds .current held → held.generation < before.generation)
    (notNewer : ∀ held, s.slots.holds .backup held → held.generation ≤ before.generation)
    (after : ∀ s' ghost', ghost' → Moved s s'.slots s' → Loaded before s' → post (.ok ()) (s', ghost'))
    (failed : ∀ reason s' ghost', Fails config before s s' ghost' → post (.error reason) (s', ghost')) :
    fwp config before (commit before) post (s, ghost) := by
  have ending : Ending config before before s True post := by
    refine ⟨fun slots late => ?_, failed, fun s' ghost' moved published clean' => ?_⟩
    · simpa using late.stands older notNewer
    · exact after s' ghost' (clean' trivial) moved (published.loaded older)
  exact commit_fwp ending locked clean

theorem parse_fwp {draft : D} {post : Except StoreError T → State T × Prop → Prop}
    (after : ∀ payload, post (.ok payload) (s, ghost)) (failed : ∀ reason, post (.error reason) (s, ghost)) :
    fwp config before (parse config draft) post (s, ghost) := by
  unfold parse
  cases config.parse draft with
  | none => exact failed _
  | some payload => exact after payload

/-- How the mutation leaves the state when it rejects: the ghost says whether `before` stands, and
then the instance can read it. -/
structure Rejected (config : Config D T) (before : Envelope T) (s : State T) (ghost : Prop) : Prop where
  judged : ghost ↔ Base config s.slots before
  readable : Base config s.slots before → Readable config s before

theorem Fails.rejected (fails : Fails config before s s' ghost) (readable : Readable config s before) :
    Rejected config before s' ghost := by
  refine ⟨fails.judged, fun base => ⟨base, fun cached remembered => ?_⟩⟩
  rw [fails.data] at remembered
  obtain ⟨⟨slot, holds⟩, agrees⟩ := readable.remembered cached remembered
  refine ⟨?_, agrees⟩
  rcases fails.present with same | ⟨slot', present⟩
  · rw [same]
    exact ⟨slot, holds⟩
  · rcases base with ⟨selected, chosen⟩ | ⟨empty, -⟩
    · exact ⟨selected, (selectCandidate_some _ chosen).1⟩
    · exact (present (empty slot')).elim

theorem Loaded.readable (loaded : Loaded before s) (data : s.data = some before) :
    Readable config s before := by
  refine ⟨loaded.base, fun cached remembered => ?_⟩
  rw [data] at remembered
  cases remembered
  exact ⟨⟨_, loaded.current⟩, Or.inr rfl⟩

theorem lockCall_fwp {op : Op T} {next : Reply T op → Store T α}
    {post : Except StoreError α → State T × Prop → Prop} (locks : op.locks = true) (after : fwp config before (next (reply op s)) post (effect op .after s, ghost))
    (failed : ∀ code extent ghost', (ghost' ↔ ghost ∧ Base config (effect op extent s).slots before ∧
        (effect op extent s).locked = false) →
      fwp config before (next (refuse op code)) post (effect op extent s, ghost')) :
    fwp config before (.call op next) post (s, ghost) := by
  refine ⟨fun _ => ?_, fun code extent _ _ => ?_, fun _ never => never.elim⟩
  · show wp _ _ _ _ _ (effect op .after s, ghost ∧ True)
    rwa [and_true]
  · exact failed code extent _ (by simp [Harmless, locks])

/-- How a rejected call leaves the store: the ghost says whether `before` stands with the lock
free, and then the instance can read it. -/
structure Settled (config : Config D T) (before : Envelope T) (s : State T) (ghost : Prop) : Prop where
  judged : ghost ↔ Base config s.slots before ∧ s.locked = false
  readable : Base config s.slots before → Readable config s before

theorem Readable.of_slots {s' : State T} (readable : Readable config s before) (slots : s'.slots = s.slots)
    (data : s'.data = s.data) : Readable config s' before := by
  refine ⟨by rw [slots]; exact readable.base, fun cached remembered => ?_⟩
  rw [slots]
  rw [data] at remembered
  exact readable.remembered cached remembered

theorem release_fwp {result : Except StoreError α} (locked : s.locked = true)
    (stands : Base config s.slots before → ghost ∧ Readable config s before)
    (known : ∀ reason, result = .error reason → ghost → Base config s.slots before) :
    fwp config before (do
      let released ← releaseLock.attempt
      match result, released with
      | .error error, _ => .throw error
      | .ok _, .error error => .throw error
      | .ok value, .ok () => return value)
      (either (fun _ _ => True) fun _ s' => Settled config before s'.1 s'.2) (s, ghost) := by
  refine wp_seq ((wp_attempt _ _ _).2 (lockCall_fwp rfl ?_ ?_))
  · have released : reply (.releaseLock : Op T) s = .ok () := by simp [reply, locked]
    rw [released]
    cases result with
    | ok value => trivial
    | error reason =>
      refine ⟨⟨fun h => ⟨known reason rfl h, rfl⟩, fun h => (stands h.1).1⟩, fun base => ?_⟩
      exact (stands base).2.of_slots rfl rfl
  · intro code extent ghost' judged
    have slots : (effect (.releaseLock : Op T) extent s).slots = s.slots := by cases extent <;> rfl
    have data : (effect (.releaseLock : Op T) extent s).data = s.data := by cases extent <;> rfl
    have settled : Settled config before (effect (.releaseLock : Op T) extent s) ghost' := by
      refine ⟨?_, fun base => ?_⟩
      · rw [judged]
        refine ⟨fun h => h.2, fun h => ⟨?_, h⟩⟩
        rw [slots] at h
        exact (stands h.1).1
      · rw [slots] at base
        exact (stands base).2.of_slots slots data
    cases result with
    | ok value => exact settled
    | error reason => exact settled

variable [DecidableEq T]

theorem assertCompatibleWithCache_fwp (readable : Readable config s before)
    (after : post (.ok ()) (s, ghost)) :
    fwp config before (assertCompatibleWithCache before) post (s, ghost) := by
  refine wp_seq (getData_fwp ?_)
  simp only [either_ok]
  cases remembered : s.data with
  | none => exact after
  | some cached =>
    have agrees := (readable.remembered cached remembered).2
    have notOlder : ¬ before.generation < cached.generation := by
      rcases agrees with newer | rfl
      · omega
      · omega
    have noConflict : ¬ (before.generation = cached.generation ∧ before.payload ≠ cached.payload) := by
      rintro ⟨same, different⟩
      rcases agrees with newer | rfl
      · omega
      · exact different rfl
    simp only [notOlder, noConflict, ↓reduceIte]
    exact after

theorem loadLatest_fwp {backupFirst : Bool}
    {post : Except StoreError (Envelope T) → State T × Prop → Prop} (locked : s.locked = true)
    (readable : Readable config s before) (clean : ghost)
    (loaded : ∀ s' ghost', ghost' → Loaded before s' → s'.data = some before → s'.locked = true →
      post (.ok before) (s', ghost'))
    (failed : ∀ reason s' ghost', Fails config before s s' ghost' → post (.error reason) (s', ghost')) :
    fwp config before (loadLatest config backupFirst) post (s, ghost) := by
  have early : ∀ reason ghost', Judged config before ghost s ghost' → post (.error reason) (s, ghost') :=
    fun reason ghost' judged => failed reason s ghost' (.of_judged judged clean (.refl s) (Or.inl rfl))
  have settled : ∀ s' ghost', ghost' → Moved s s'.slots s' → Loaded before s' →
      fwp config before (do setData before; return before) post (s', ghost') := by
    intro s' ghost' clean' moved isLoaded
    refine wp_seq (setData_fwp ?_)
    exact loaded _ ghost' clean' ⟨isLoaded.current, isLoaded.selected⟩ rfl (moved.locked.trans locked)
  refine wp_seq (assertLockOwnership_fwp locked ?_ early)
  refine wp_seq (mkdir_fwp ?_ early)
  refine wp_seq (readCandidates_fwp ?_)
  simp only [either_ok]
  cases selected : selectCandidate s.slots.candidates with
  | none =>
    have unheld := (selectCandidate_none s.slots).1 selected
    obtain ⟨empty, generation, parsed⟩ : (∀ slot, s.slots slot = none) ∧ before.generation = 0 ∧
        config.parse config.defaults = some before.payload := by
      rcases readable.base with ⟨slot, chosen⟩ | h
      · rw [selected] at chosen
        cases chosen
      · exact h
    have forgets : s.data = none := by
      cases remembered : s.data with
      | none => rfl
      | some cached =>
        obtain ⟨⟨slot, holds⟩, -⟩ := readable.remembered cached remembered
        exact (unheld slot before holds).elim
    have absent : ¬ s.slots.candidates.filter (·.present) ≠ [] :=
      not_not.2 ((no_present_candidates s.slots).2 empty)
    have isBefore : (⟨0, before.payload⟩ : Envelope T) = before := by
      cases before
      simp_all
    simp only [absent, ↓reduceIte]
    refine wp_seq (getData_fwp ?_)
    simp only [either_ok, forgets, Option.isSome_none, Bool.false_eq_true, ↓reduceIte, parse, parsed]
    refine wp_seq ?_
    simp only [wp_done, either_ok, isBefore]
    refine wp_seq (recover_fwp locked clean ?_ ?_ settled failed)
    · exact fun held holds => (unheld .current held holds).elim
    · exact fun held holds => (unheld .backup held holds).elim
  | some selection =>
    obtain ⟨slot, envelope⟩ := selection
    obtain rfl : envelope = before := Base.unique (Or.inl ⟨slot, selected⟩) readable.base
    obtain ⟨holds, first⟩ := selectCandidate_some s.slots selected
    refine wp_seq (assertCompatibleWithCache_fwp readable ?_)
    simp only [either_ok]
    split
    · rename_i elsewhere
      refine wp_seq (recover_fwp locked clean ?_ ?_ settled failed)
      · intro held heldBy
        rcases first .current held heldBy with less | ⟨-, priority⟩
        · exact less
        · cases slot with
          | current => exact (elsewhere rfl).elim
          | next => simp [Slot.priority] at priority
          | backup => simp [Slot.priority] at priority
      · intro held heldBy
        rcases first .backup held heldBy with less | ⟨same, -⟩
        · exact Nat.le_of_lt less
        · exact Nat.le_of_eq same
    · rename_i isCurrent
      obtain rfl := not_not.1 isCurrent
      exact wp_seq (removeLeftovers_fwp ⟨holds, selected⟩ clean settled failed)

theorem assertDiskMatches_fwp (loaded : Loaded before s) (after : post (.ok ()) (s, ghost)) :
    fwp config before (assertDiskMatches before) post (s, ghost) := by
  refine wp_seq (readCandidates_fwp ?_)
  simp only [either_ok, loaded.selected, ↓reduceIte]
  exact after

theorem mutation_fwp {backupFirst : Bool} {mutator : Mutator D T R}
    {post : Except StoreError R → State T × Prop → Prop} (locked : s.locked = true)
    (readable : Readable config s before) (clean : ghost)
    (finished : ∀ result s' ghost', s'.locked = true → (Base config s'.slots before → ghost' ∧
      Readable config s' before) → post (.ok result) (s', ghost'))
    (rejected : ∀ reason s' ghost', s'.locked = true → Rejected config before s' ghost' →
      post (.error reason) (s', ghost')) :
    fwp config before (mutation config backupFirst mutator) post (s, ghost) := by
  refine wp_seq (loadLatest_fwp locked readable clean ?_ ?_)
  swap
  · intro reason s' ghost' fails
    exact rejected reason s' ghost' (fails.locked.trans locked) (fails.rejected readable)
  intro s₁ ghost₁ clean₁ loaded data locked₁
  have readable₁ : Readable config s₁ before := loaded.readable data
  have stands : Rejected config before s₁ ghost₁ :=
    ⟨⟨fun _ => loaded.base, fun _ => clean₁⟩, fun _ => readable₁⟩
  simp only [either_ok, update]
  cases decided : mutator before.payload with
  | error reason => exact rejected _ s₁ ghost₁ locked₁ stands
  | ok decision =>
    simp only
    split
    · exact finished _ s₁ ghost₁ locked₁ fun _ => ⟨clean₁, readable₁⟩
    refine wp_seq (parse_fwp (fun payload => ?_) fun reason => rejected _ s₁ ghost₁ locked₁ stands)
    refine wp_seq (assertDiskMatches_fwp loaded ?_)
    refine wp_seq (commit_fwp (P := False) ?_ locked₁ clean₁)
    refine ⟨fun slots late => ?_, fun reason s' ghost' fails => ?_, fun s' ghost' moved published _ => ?_⟩
    · simpa using late.overtakes (Nat.lt_succ_self before.generation)
    · exact rejected reason s' ghost' (fails.locked.trans locked₁) (fails.rejected readable₁)
    · refine wp_seq (setData_fwp (finished _ _ ghost' (moved.locked.trans locked₁) fun base => ?_))
      exact (Late.overtakes (Or.inr (Or.inr published)) (Nat.lt_succ_self before.generation) base).elim

theorem mutate_fwp {backupFirst : Bool} {mutator : Mutator D T R} (unlocked : s.locked = false)
    (readable : Readable config s before) (clean : ghost) :
    fwp config before (mutate config backupFirst mutator)
      (either (fun _ _ => True) fun _ s' => Settled config before s'.1 s'.2) (s, ghost) := by
  refine wp_seq (lockCall_fwp rfl ?_ ?_)
  swap
  · intro code extent ghost' judged
    have slots : (effect (.acquireLock : Op T) extent s).slots = s.slots := by cases extent <;> rfl
    have data : (effect (.acquireLock : Op T) extent s).data = s.data := by cases extent <;> rfl
    refine ⟨?_, fun _ => readable.of_slots slots data⟩
    rw [judged]
    exact ⟨fun h => h.2, fun h => ⟨clean, h⟩⟩
  have acquired : reply (.acquireLock : Op T) s = .ok () := by simp [reply, unlocked]
  rw [acquired]
  refine wp_seq ((wp_attempt _ _ _).2 ?_)
  apply mutation_fwp (s := effect .acquireLock .after s) rfl (readable.of_slots rfl rfl) clean
  · intro result s' ghost' locked stands
    exact release_fwp locked stands fun _ wrong => by cases wrong
  · intro reason s' ghost' locked rejected
    have stands : Base config s'.slots before → ghost' ∧ Readable config s' before :=
      fun base => ⟨rejected.judged.2 base, rejected.readable base⟩
    exact @release_fwp D T config before s' ghost' R (.error reason) locked stands
      fun _ _ => rejected.judged.1

end Rules

section Readers

variable [DecidableEq T]

/-- Every load of the sequence returns `before`, by the same instance or by a fresh one. -/
def ReadsReturn (config : Config D T) (before : Envelope T) :
    List (Bool × Bool) → State T → Prop
  | [], _ => True
  | (fresh, backupFirst) :: readers, s =>
    let (outcome, s') := run (device T) (load config backupFirst) []
      (if fresh then { s with data := none } else s)
    outcome = .returned before ∧
      ReadsReturn config before readers (if fresh then { s' with data := s.data } else s')

theorem readable_reads {config : Config D T} {before : Envelope T} (readers : List (Bool × Bool))
    {s : State T} (unlocked : s.locked = false) (readable : Readable config s before) :
    ReadsReturn config before readers s := by
  induction readers generalizing s with
  | nil => trivial
  | cons reader readers ih =>
    obtain ⟨fresh, backupFirst⟩ := reader
    have reader : Readable config (if fresh then { s with data := none } else s) before := by
      cases fresh with
      | false => exact readable
      | true => exact ⟨readable.base, nofun⟩
    obtain ⟨s', ran, slots, data, unlocked'⟩ := load_returns backupFirst
      (s := if fresh then { s with data := none } else s) (by cases fresh <;> exact unlocked) reader
    simp only [ReadsReturn, ran, true_and]
    have loaded : s'.slots.holds .current before := by
      rw [slots]
      rfl
    have selected : Base config s'.slots before := by
      rw [slots]
      exact Or.inl ⟨_, selectCandidate_only before⟩
    cases fresh with
    | false =>
      apply ih unlocked'
      refine ⟨selected, fun cached remembered => ⟨⟨_, loaded⟩, Or.inr ?_⟩⟩
      simpa [data] using remembered.symm
    | true =>
      have kept : Readable config { s' with data := s.data } before :=
        ⟨selected, fun cached remembered => ⟨⟨_, loaded⟩, (readable.remembered cached remembered).2⟩⟩
      exact ih unlocked' kept

/-- A rejected call leaves what a read returned before it to every later read, exactly if each of
its failing operations was harmless. -/
theorem rejected_keeps_iff (config : Config D T) (mutator : Mutator D T R) (backupFirst : Bool)
    (faults : List (Fault Errno)) (s s' : State T) (before : Envelope T) (reason : StoreError)
    (reads : (run (device T) (load config backupFirst) [] s).1 = .returned before)
    (failures : Meets (device T) failsOnly (mutate config backupFirst mutator) faults s)
    (rejected : run (device T) (mutate config backupFirst mutator) faults s = (.threw reason, s')) :
    (∀ readers, ReadsReturn config before readers s') ↔
      Meets (device T) (Harmless config before) (mutate config backupFirst mutator) faults s := by
  obtain ⟨unlocked, readable⟩ := load_returned (Prod.ext reads rfl :
    run (device T) (load config backupFirst) [] s = (.returned before, _))
  have settled := wp_watched (mutate_fwp unlocked readable trivial) failures
  rw [rejected] at settled
  have judged := settled.judged
  constructor
  · intro returns
    obtain ⟨fresh, -⟩ := returns [(true, true)]
    obtain ⟨unlocked', readable'⟩ := load_returned (Prod.ext fresh rfl :
      run (device T) (load config true) [] { s' with data := none } = (.returned before, _))
    exact judged.2 ⟨readable'.base, unlocked'⟩
  · intro harmless readers
    obtain ⟨base, unlocked'⟩ := judged.1 harmless
    exact readable_reads readers unlocked' (settled.readable base)

end Readers

/-- One failure at the operation with the given index. -/
def failAt (operation : Nat) (code : Errno) (extent : Extent) : List (Fault Errno) :=
  List.replicate operation .none ++ [.fail code extent]

def oneSaved : State Nat := ⟨⟨[(.current, ⟨.text ⟨1, 1⟩, 0⟩)], 1⟩, none, false⟩

/-- The disk is full while `next` is being written: the old state stays. -/
theorem diskFull_keeps : ReadsReturn numbers ⟨1, 1⟩ [(false, true), (true, false)]
    (run (device Nat) (mutate numbers true (setTo 2)) (failAt 16 .ENOSPC .partway) oneSaved).2 := by
  have failures : Meets (device Nat) failsOnly (mutate numbers true (setTo 2))
      (failAt 16 .ENOSPC .partway) oneSaved := by decide
  have rejected : run (device Nat) (mutate numbers true (setTo 2)) (failAt 16 .ENOSPC .partway)
      oneSaved = (.threw (.errno .ENOSPC), _) := Prod.ext (by decide) rfl
  exact (rejected_keeps_iff numbers (setTo 2) true _ oneSaved _ ⟨1, 1⟩ _ (by decide) failures
    rejected).2 (by decide) _

/-- The directory fsync fails after `next` is whole: the call rejects and the next read returns
the state it should not have committed. -/
theorem failedSync_commits :
    run (device Nat) (mutate numbers true (setTo 2)) (failAt 19 .ENOSPC .before) oneSaved =
        (.threw (.errno .ENOSPC), ⟨⟨[(.next, ⟨.text ⟨2, 2⟩, 2⟩), (.current, ⟨.text ⟨1, 1⟩, 0⟩)], 3⟩,
          some ⟨1, 1⟩, false⟩) ∧
      (run (device Nat) (load numbers true) []
        ⟨⟨[(.next, ⟨.text ⟨2, 2⟩, 2⟩), (.current, ⟨.text ⟨1, 1⟩, 0⟩)], 3⟩, none, false⟩).1 =
          .returned ⟨2, 2⟩ := by
  decide

end AtomicJsonStore
