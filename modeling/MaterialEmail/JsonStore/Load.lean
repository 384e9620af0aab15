import MaterialEmail.JsonStore.Write
import MaterialEmail.Library.Selection

/-! What a load finds: the live file, or else the newest copy that decodes, or else nothing at all.
Crashes strike anywhere, and renames may fail. -/
namespace JsonStore

open Interrupted

variable {D T : Type}

/-- Crashes strike anywhere. Renames may fail, except the one that puts the live file back. -/
def Interrupts (op : Op T) (fault : Fault Errno) (s : State T) : Prop :=
  match fault with
  | .fail code extent => op.renames ∧ extent ≠ .after ∧ (s.Agrees ∨ op.caught code)
  | _ => True

instance [DecidableEq T] (op : Op T) (fault : Fault Errno) (s : State T) :
    Decidable (Interrupts op fault s) :=
  match fault with
  | .none => .isTrue trivial
  | .fail code extent =>
    inferInstanceAs (Decidable (op.renames = true ∧ extent ≠ .after ∧ (s.Agrees ∨ op.caught code)))
  | .crash _ => .isTrue trivial

theorem Interrupts.spares {op : Op T} {fault : Fault Errno} {s : State T} (data : Option T)
    (interrupts : Interrupts op fault s) : Spares data op fault s := by
  cases fault with
  | none => trivial
  | crash extent => trivial
  | fail code extent => exact ⟨fun _ => interrupts.2.1, fun _ => interrupts.2.2⟩

/-- Nothing but renames fails. -/
structure Gentle (allowed : Op T → Fault Errno → State T → Prop) : Prop where
  renames : ∀ op code extent s, allowed op (.fail code extent) s → op.renames ∧ extent ≠ .after
  spares : ∀ data op fault s, allowed op fault s → Spares data op fault s

theorem interrupts_gentle : Gentle (T := T) Interrupts :=
  ⟨fun _ _ _ _ strikes => ⟨strikes.1, strikes.2.1⟩, fun data _ _ _ interrupts => interrupts.spares data⟩

theorem Gentle.steady {allowed : Op T → Fault Errno → State T → Prop} {op : Op T} {code : Errno}
    {extent : Extent} {s : State T} {P : Prop} (gentle : Gentle allowed) (steady : op.renames = false)
    (strikes : allowed op (.fail code extent) s) : P := by
  have renames := (gentle.renames op code extent s strikes).1
  rw [steady] at renames
  cases renames

/-- No faults at all. -/
def Undisturbed (_ : Op T) (fault : Fault Errno) (_ : State T) : Prop := fault = .none

theorem undisturbed_gentle : Gentle (T := T) Undisturbed := by
  constructor
  · intro op code extent s strikes
    cases strikes
  · intro data op fault s none
    cases none
    trivial

/-- Some operation may fail. -/
def Fails (allowed : Op T → Fault Errno → State T → Prop) : Prop :=
  ∃ op code extent s, allowed op (.fail code extent) s

instance : Std.Total (Newer (T := T)) where
  total left right := by
    unfold Newer
    omega

instance : IsTrans (Decoded T) Newer where
  trans left middle right := by
    unfold Newer
    omega

theorem decode_known_wp {s : State T} {allowed : Op T → Fault Errno → State T → Prop}
    {crash : State T → Prop} {path : Path} {value : T}
    {post : Except StoreError (Decoded T) → State T → Prop} (gentle : Gentle allowed)
    (content : (s.files path).map (·.content) = some (.text value))
    (after : ∀ time, post (.ok ⟨path, time, value⟩) s) (dies : crash s) :
    wp (device T) allowed crash (decode path) post s := by
  obtain ⟨file, found, isText⟩ := Option.map_eq_some_iff.1 content
  apply decode_wp _ _ _ _ dies
  · intro time value' holds
    rw [found] at holds
    cases holds
    cases isText
    exact after time
  · intro missing
    rw [found] at missing
    cases missing
  · intro time torn
    rw [found] at torn
    cases torn
    cases isText
  · intro op code extent isOp strikes
    exact gentle.steady (by rcases isOp with rfl | rfl <;> rfl) strikes

section Search

variable {s : State T} {allowed : Op T → Fault Errno → State T → Prop} {crash : State T → Prop}

def decoded? (files : Files T) (path : Path) : Option (Decoded T) :=
  match files path with
  | some ⟨.text value, time⟩ => some ⟨path, time, value⟩
  | _ => none

theorem decoded?_eq_some {files : Files T} {path : Path} {found : Decoded T} :
    decoded? files path = some found ↔
      found.filePath = path ∧ files path = some ⟨.text found.value, found.modifiedAt⟩ := by
  unfold decoded?
  split
  · rename_i value time holds
    rw [holds]
    constructor
    · intro same
      cases same
      exact ⟨rfl, rfl⟩
    · rintro ⟨rfl, same⟩
      cases same
      rfl
  · rename_i notText
    constructor
    · intro none
      cases none
    · rintro ⟨-, holds⟩
      exact (notText _ _ holds).elim

theorem decodeAll_wp {post : Except StoreError (List (Decoded T)) → State T → Prop} (gentle : Gentle allowed)
    (paths : List Path) (after : post (.ok (paths.filterMap (decoded? s.files))) s) (dies : crash s) :
    wp (device T) allowed crash (decodeAll paths) post s := by
  induction paths generalizing post with
  | nil => exact after
  | cons path paths ih =>
    refine wp_seq ((wp_attempt _ _ _).2 (decode_wp ?_ ?_ ?_ ?_ dies))
    · intro time value holds
      refine wp_seq (ih ?_)
      have found : decoded? s.files path = some ⟨path, time, value⟩ := by simp [decoded?, holds]
      simpa [found] using after
    · intro missing
      refine wp_seq (ih ?_)
      have lost : decoded? s.files path = none := by simp [decoded?, missing]
      simpa [lost] using after
    · intro time torn
      refine wp_seq (ih ?_)
      have lost : decoded? s.files path = none := by simp [decoded?, torn]
      simpa [lost] using after
    · intro op code extent isOp strikes
      have renames := (gentle.renames _ code extent s strikes).1
      rcases isOp with rfl | rfl <;> cases renames

/-- A copy to recover from, or what says that there is none. -/
theorem findRecoveryCandidate_wp {post : Except StoreError (RecoverySearch T) → State T → Prop}
    (gentle : Gentle allowed)
    (chosen : ∀ candidate, Newest s.files candidate.filePath candidate.value candidate.modifiedAt →
      post (.ok ⟨some candidate, true⟩) s)
    (nothing : ∀ foundFiles : Bool, (∀ path value time, ¬ Valid s.files path value time) →
      (foundFiles ↔ ∃ path : Path, path.isCandidate ∧ s.files path ≠ none) → post (.ok ⟨none, foundFiles⟩) s)
    (dies : crash s) : wp (device T) allowed crash findRecoveryCandidate post s := by
  refine wp_seq (still_wp (fun extent => by cases extent <;> rfl) ?_ ?_ dies)
  case refine_2 =>
    intro code extent strikes
    cases (gentle.renames _ code extent s strikes).1
  show wp _ _ _ (do
    let candidates := s.directory.names.filter Path.isCandidate
    let valid ← decodeAll candidates
    return (⟨(valid.insertionSort Newer).head?, candidates ≠ []⟩ : RecoverySearch T)) post s
  have listed : ∀ path, path ∈ s.directory.names.filter Path.isCandidate ↔
      path.isCandidate ∧ s.files path ≠ none := by
    intro path
    rw [List.mem_filter, Directory.mem_names, and_comm, Option.isSome_iff_ne_none]
    rfl
  refine wp_seq (decodeAll_wp gentle _ ?_ dies)
  generalize found : s.directory.names.filter Path.isCandidate = candidates at listed
  have valid : ∀ decoded, decoded ∈ candidates.filterMap (decoded? s.files) ↔
      Valid s.files decoded.filePath decoded.value decoded.modifiedAt := by
    intro decoded
    simp only [List.mem_filterMap, decoded?_eq_some, Valid]
    constructor
    · rintro ⟨path, isListed, rfl, holds⟩
      exact ⟨((listed _).1 isListed).1, holds⟩
    · rintro ⟨isCandidate, holds⟩
      exact ⟨decoded.filePath, (listed _).2 ⟨isCandidate, by simp [holds]⟩, rfl, holds⟩
  cases head : ((candidates.filterMap (decoded? s.files)).insertionSort Newer).head? with
  | some candidate =>
    obtain ⟨isListed, newest⟩ := head_insertionSort head
    have isValid := (valid candidate).1 isListed
    have some : candidates ≠ [] := by
      intro empty
      rw [empty] at isListed
      cases isListed
    show post (.ok ⟨_, _⟩) s
    rw [head]
    simp only [ne_eq, some, not_false_eq_true, decide_true]
    apply chosen candidate ⟨isValid, ?_⟩
    intro path value time other
    exact newest ⟨path, time, value⟩ ((valid _).2 other)
  | none =>
    have empty := head_insertionSort_eq_none.1 head
    show post (.ok ⟨_, _⟩) s
    rw [head]
    apply nothing
    · intro path value time other
      have member := (valid ⟨path, time, value⟩).2 other
      rw [empty] at member
      cases member
    · rw [decide_eq_true_iff]
      constructor
      · intro some
        obtain ⟨path, member⟩ := List.exists_mem_of_ne_nil candidates some
        exact ⟨path, (listed path).1 member⟩
      · rintro ⟨path, present⟩
        exact List.ne_nil_of_mem ((listed path).2 present)

end Search

section Restore

variable {s : State T} {allowed : Op T → Fault Errno → State T → Prop} {w : Writing T}

namespace Writing

theorem Waiting.still {op : FileOp Path T} {post : Except StoreError α → State T → Prop}
    {next : op.Reply → Store T α} (waiting : w.Waiting s) (gentle : Gentle allowed)
    (still : ∀ extent, op.effect extent s.directory = s.directory) (steady : Op.renames (.file op) = false)
    (after : wp (device T) allowed w.Left (next (op.reply s.directory)) post s) :
    wp (device T) allowed w.Left (.call (.file op) next) post s := by
  exact still_wp still after (fun _ _ strikes => gentle.steady steady strikes) waiting.left

theorem Waiting.copies (waiting : w.Waiting s) {source : Path}
    (content : (s.files source).map (·.content) = some (.text w.value)) (extent : Extent) :
    w.Waiting (effect (.file (.copyFile source w.temporary)) extent s) := by
  have framed : Framed {path | path ≠ w.temporary} s
      (effect (.file (.copyFile source w.temporary)) extent s) := by
    apply (Framed.refl waiting.timed).effect
    exact fun path different touched => different touched
  apply waiting.elsewhere framed
  intro file found
  cases extent with
  | before => exact waiting.temporary file found
  | partway =>
    obtain ⟨copied, present, -⟩ := Option.map_eq_some_iff.1 content
    have torn : (if (s.directory.get source).isSome then s.directory.store w.temporary .torn
        else s.directory).get w.temporary = some file := found
    have isSome : (s.directory.get source).isSome := by
      rw [show s.directory.get source = some copied from present]
      rfl
    rw [if_pos isSome, Directory.get_store] at torn
    simp only [↓reduceIte, Option.some.injEq] at torn
    rw [← torn]
    exact Or.inl rfl
  | after =>
    have stored : ((FileOp.copyFile source w.temporary).effect .after s.directory).get w.temporary = some file := found
    rw [FileOp.effect_copyFile content] at stored
    simp only [Directory.get_store, ↓reduceIte, Option.some.injEq] at stored
    rw [← stored]
    exact Or.inr rfl

theorem Waiting.promote {source : Path} {post : Except StoreError T → State T → Prop}
    (waiting : w.Waiting s) (gentle : Gentle allowed)
    (content : (s.files source).map (·.content) = some (.text w.value))
    (done : ∀ s', w.Published s' → post (.ok w.value) s')
    (lost : ∀ error s', Fails allowed → w.Waiting s' → post (.error error) s') :
    wp (device T) allowed w.Left (JsonStore.promote source w.temporary) post s := by
  refine wp_seq ⟨fun _ => ?_, fun code extent _ strikes => gentle.steady rfl strikes,
    fun extent _ => (waiting.copies content extent).left⟩
  have waiting₁ : w.Waiting (effect (.file (.copyFile source w.temporary)) .after s) :=
    waiting.copies content .after
  have whole : (effect (.file (.copyFile source w.temporary)) .after s).files w.temporary =
      some ⟨.text w.value, s.directory.clock⟩ := by
    show ((FileOp.copyFile source w.temporary).effect .after s.directory).get w.temporary = _
    rw [FileOp.effect_copyFile content]
    simp
  have copied : FileOp.reply (.copyFile source w.temporary) s.directory = .ok () := by
    obtain ⟨file, present, -⟩ := Option.map_eq_some_iff.1 content
    show FileOp.found ((s.files source).map fun _ => ()) = _
    rw [present]
    rfl
  show wp _ _ _ (orThrow (FileOp.reply (.copyFile source w.temporary) s.directory)) _
    (effect (.file (.copyFile source w.temporary)) .after s)
  rw [copied]
  generalize effect (.file (.copyFile source w.temporary)) .after s = s₁ at waiting₁ whole ⊢
  refine wp_seq (wp_seq (waiting₁.still gentle (fun extent => by cases extent <;> rfl) rfl ?_))
  show wp _ _ _ (orThrow (FileOp.found ((s₁.files w.temporary).map fun _ => ()))) _ s₁
  rw [whole]
  refine (wp_finally _ _ _ _).2 ⟨fun _ => ?_, fun code extent _ strikes => gentle.steady rfl strikes,
    fun extent _ => (waiting₁.prepares (Or.inr (Or.inr (Or.inl rfl))) extent).left⟩
  refine waiting₁.still gentle (fun extent => by cases extent <;> rfl) rfl ?_
  have isWhole : (s₁.files w.temporary).map (·.content) = some (.text w.value) := by
    rw [whole]
    rfl
  refine wp_seq (decode_known_wp gentle isWhole (fun _ => ?_) waiting₁.left)
  refine wp_seq (rename_wp whole (fun code extent strikes => (gentle.renames _ _ _ _ strikes).2) ?_ ?_
    waiting₁.timed waiting₁.left ?_)
  case refine_2 => exact fun code extent strikes => lost _ s₁ ⟨_, code, extent, s₁, strikes⟩ waiting₁
  case refine_3 =>
    exact fun s₂ framed moved => (Writing.rename_published waiting₁.aside rfl framed moved).left
  intro s₂ framed moved
  have published := Writing.rename_published waiting₁.aside rfl framed moved
  refine wp_seq (still_wp (fun extent => by cases extent <;> rfl) ?_
    (fun code extent strikes => gentle.steady rfl strikes) published.left)
  exact wp_seq (decode_known_wp gentle published.live (fun _ => done s₂ published) published.left)

theorem Waiting.writes {post : Except StoreError Unit → State T → Prop} (waiting : w.Waiting s)
    (gentle : Gentle allowed) (absent : s.files w.temporary = none)
    (after : ∀ s' time, w.Waiting s' → Framed {path | path ≠ w.temporary} s s' →
      s'.files w.temporary = some ⟨.text w.value, time⟩ → post (.ok ()) s') :
    wp (device T) allowed w.Left (writeSyncedFile w.temporary w.value) post s := by
  have opens : w.Prepares (.file (.openFile w.temporary true)) := Or.inl rfl
  have fills : w.Prepares (.file (.writeFile w.temporary w.value)) := Or.inr (Or.inl rfl)
  have syncs : w.Prepares (.file (.sync w.temporary)) := Or.inr (Or.inr (Or.inl rfl))
  have frames : ∀ {op : FileOp Path T} {extent : Extent} {s' : State T},
      (∀ path, op.touches path → path = w.temporary) → Framed {path | path ≠ w.temporary} s s' →
      Framed {path | path ≠ w.temporary} s (effect (.file op) extent s') := by
    intro op extent s' one framed
    have avoids : Op.avoids {path | path ≠ w.temporary} (.file op) :=
      fun path different touched => different (one path touched)
    exact framed.effect avoids extent
  refine wp_seq ⟨fun _ => ?_, fun _ _ _ strikes => gentle.steady rfl strikes,
    fun extent _ => (waiting.prepares opens extent).left⟩
  have isAbsent : ¬ (True ∧ (s.directory.get w.temporary).isSome) := by
    rw [show s.directory.get w.temporary = none from absent]
    simp
  show wp _ _ _ (orThrow (if true = true ∧ (s.directory.get w.temporary).isSome then .error .EEXIST
    else .ok ())) _ (effect (.file (.openFile w.temporary true)) .after s)
  rw [if_neg (by simpa using isAbsent)]
  have waiting₁ := waiting.prepares opens .after
  have framed₁ : Framed {path | path ≠ w.temporary} s (effect (.file (.openFile w.temporary true)) .after s) :=
    frames (fun _ => id) (.refl waiting.timed)
  generalize effect (.file (.openFile w.temporary true)) .after s = s₁ at waiting₁ framed₁ ⊢
  refine (wp_finally _ _ _ _).2 (wp_seq ⟨fun _ => ?_, fun _ _ _ strikes => gentle.steady rfl strikes,
    fun extent _ => (waiting₁.prepares fills extent).left⟩)
  have waiting₂ := waiting₁.prepares fills .after
  have framed₂ : Framed {path | path ≠ w.temporary} s
      (effect (.file (.writeFile w.temporary w.value)) .after s₁) := frames (fun _ => id) framed₁
  have whole : (effect (.file (.writeFile w.temporary w.value)) .after s₁).files w.temporary =
      some ⟨.text w.value, s₁.directory.clock⟩ := by
    show (s₁.directory.store w.temporary (.text w.value)).get w.temporary = _
    simp
  show wp _ _ _ (sync w.temporary) _ (effect (.file (.writeFile w.temporary w.value)) .after s₁)
  generalize effect (.file (.writeFile w.temporary w.value)) .after s₁ = s₂ at waiting₂ framed₂ whole ⊢
  refine ⟨fun _ => ?_, fun _ _ _ strikes => gentle.steady rfl strikes,
    fun extent _ => (waiting₂.prepares syncs extent).left⟩
  exact waiting₂.still gentle (fun extent => by cases extent <;> rfl) rfl (after s₂ _ waiting₂ framed₂ whole)

/-- Where there is no live file only the rename can fail. -/
theorem Waiting.publishFirst {file : File T} {post : Except StoreError T → State T → Prop}
    (waiting : w.Waiting s) (gentle : Gentle allowed) (missing : s.files .live = none)
    (found : s.files w.temporary = some file) (whole : file.content = .text w.value)
    (after : ∀ s', w.Published s' → post (.ok w.value) s')
    (failed : ∀ error, Fails allowed → post (.error error) s) :
    wp (device T) allowed w.Left (JsonStore.publish w.temporary) post s := by
  refine wp_seq ((wp_resume _ _ _ _).2 (decode_wp ?_ ?_ ?_ ?_ waiting.left))
  · intro time value holds
    rw [missing] at holds
    cases holds
  · intro _
    show wp (device T) allowed w.Left (do
      replaceLiveFile w.temporary false
      let committed ← decode .live
      afterWrite
      return committed.value) post s
    refine wp_seq ((wp_catching _ _ _ _).2 (wp_seq (rename_wp found
      (fun code extent strikes => (gentle.renames _ _ _ _ strikes).2) ?_ ?_ waiting.timed waiting.left ?_)))
    · intro s₁ framed moved
      have published := rename_published waiting.aside whole framed moved
      refine still_wp (fun extent => by cases extent <;> rfl) ?_
        (fun code extent strikes => gentle.steady rfl strikes) published.left
      refine wp_seq (decode_known_wp gentle published.live (fun time => ?_) published.left)
      refine wp_seq ⟨fun _ => after s₁ published, fun _ _ _ strikes => gentle.steady rfl strikes,
        fun extent _ => ?_⟩
      cases extent <;> exact published.left
    · exact fun code extent strikes => failed _ ⟨_, code, extent, s, strikes⟩
    · exact fun s₁ framed moved => (rename_published waiting.aside whole framed moved).left
  · intro time torn
    rw [missing] at torn
    cases torn
  · intro op code extent isOp strikes
    exact gentle.steady (by rcases isOp with rfl | rfl <;> rfl) strikes

end Writing

/-- A copy is promoted, or, when its rename fails, left where it was. -/
theorem restoreCandidate_wp {ok : T → Prop} {kept : Prop} {candidate : Decoded T}
    {crash : State T → Prop} {post : Except StoreError T → State T → Prop} (gentle : Gentle allowed)
    (timed : s.directory.Timed) (sound : Sound ok kept s.files) (missing : s.files .live = none)
    (newest : Newest s.files candidate.filePath candidate.value candidate.modifiedAt)
    (dies : ∀ s', Aside s s' → s'.directory.Timed → Sound ok kept s'.files → crash s')
    (after : ∀ s', Aside s s' → s'.directory.Timed → s'.live = some (.text candidate.value) →
      post (.ok candidate.value) s')
    (failed : ∀ error s', Fails allowed → Aside s s' → s'.directory.Timed → Sound ok kept s'.files →
      post (.error error) s') :
    wp (device T) allowed crash (restoreCandidate candidate) post s := by
  have isOk : ok candidate.value := (sound.missing missing).2 _ _ _ newest
  let w : Writing T := ⟨ok, kept, candidate.value, unused s.directory, s⟩
  have absent : s.files w.temporary = none := unused_absent s.directory w.temporary rfl
  have waiting : w.Waiting s := by
    refine ⟨.refl _, timed, rfl, ?_, fun file found => ?_⟩
    · rw [update_absent absent]
      exact sound
    · rw [absent] at found
      cases found
  have settles : ∀ s', w.Left s' → Sound ok kept s'.files := by
    intro s' left
    apply left.sound.mono _ id
    rintro value (found | rfl)
    · exact found
    · exact isOk
  have diesLeft : ∀ s', w.Left s' → crash s' :=
    fun s' left => dies s' left.aside left.timed (settles s' left)
  suffices restores : wp (device T) allowed w.Left (restoreCandidate candidate) post s from
    wp_mono restores (fun _ _ h => h) diesLeft
  have fails : ∀ error s', Fails allowed → w.Waiting s' → post (.error error) s' :=
    fun error s' strikes waits => failed error s' strikes waits.aside waits.timed (settles s' waits.left)
  have content : (s.files candidate.filePath).map (·.content) = some (.text w.value) := by
    rw [newest.1.2]
    rfl
  have rest : ∀ quarantine, wp (device T) allowed w.Left (do
      let temporary := Path.temporary (← randomUUID)
      let restored ← Program.catching (promote candidate.filePath temporary) fun _ =>
        undoRestore quarantine temporary false
      afterWrite
      return restored) post s := by
    intro quarantine
    refine wp_seq (randomUUID_wp (wp_seq ((wp_catching _ _ _ _).2 (waiting.promote gentle content ?_ ?_))) waiting.left)
    · intro s₁ published
      refine wp_seq ⟨fun _ => after s₁ published.aside published.timed published.live,
        fun code extent _ strikes => gentle.steady rfl strikes, fun extent _ => ?_⟩
      cases extent <;> exact published.left
    · intro error s₁ strikes waiting₁
      refine wp_seq (wp_weaken (waiting₁.rm ?_) fun op fault s => gentle.spares _ op fault s)
      exact fun s₂ waiting₂ => fails _ s₂ strikes waiting₂
  refine wp_seq (randomUUID_wp (wp_seq ((wp_resume _ _ _ _).2 (rename_missing_wp missing ?_ ?_ waiting.left)))
    waiting.left)
  · exact rest _
  · intro code extent strikes
    cases code with
    | ENOENT => exact rest _
    | _ => exact fails _ s ⟨_, _, extent, s, strikes⟩ waiting

theorem writeFirst_wp {ok : T → Prop} {kept : Prop} {crash : State T → Prop}
    {post : Except StoreError T → State T → Prop} {value : T} (gentle : Gentle allowed)
    (timed : s.directory.Timed) (sound : Sound ok kept s.files) (missing : s.files .live = none)
    (dies₀ : crash s)
    (dies : ∀ s', Pending value s s' → Sound (fun found => ok found ∨ found = value) kept s'.files → crash s')
    (diesAfter : ∀ s', Acknowledged value s s' → crash s')
    (after : ∀ s', Acknowledged value s s' → post (.ok value) s')
    (failed : ∀ error s', Fails allowed → Pending value s s' → s'.live = none →
      Sound (fun found => ok found ∨ found = value) kept s'.files → post (.error error) s') :
    wp (device T) allowed crash (writeValidated value) post s := by
  let w := Writing.from ok kept value s
  have waiting : w.Waiting w.start := Writing.from_waiting timed sound
  have absent : w.start.files w.temporary = none := Writing.from_absent ok kept value s
  have diesLeft : ∀ s', w.Left s' → crash s' :=
    fun s' left => dies s' (Writing.Waiting.pending left.aside left.timed) left.sound
  have lift : ∀ {α : Type} {p : Store T α} {post' : Except StoreError α → State T → Prop} {s' : State T},
      wp (device T) allowed w.Left p post' s' → wp (device T) allowed crash p post' s' :=
    fun h => wp_mono h (fun _ _ h => h) diesLeft
  refine wp_seq (begin_wp dies₀ (diesLeft _ waiting.left) ?_)
  refine wp_seq (randomUUID_wp ?_ (diesLeft _ waiting.left))
  refine wp_seq (lift (waiting.writes gentle absent fun s₁ time waiting₁ framed whole => ?_))
  have missing₁ : s₁.files .live = none := (framed.files .live nofun).trans missing
  refine wp_seq (still_wp (fun extent => by cases extent <;> rfl) ?_
    (fun code extent strikes => gentle.steady rfl strikes) (diesLeft _ waiting₁.left))
  refine wp_seq ((wp_finally _ _ _ _).2 (lift (waiting₁.publishFirst gentle missing₁ whole rfl ?_ ?_)))
  · intro s₂ published
    refine lift (wp_weaken (published.rm ?_) fun op fault s => gentle.spares _ op fault s)
    intro s₃ published₃
    exact wp_seq (acknowledge_wp (diesLeft _ published₃.left) (diesAfter _ published₃.acknowledged)
      (after _ published₃.acknowledged))
  · intro error strikes
    refine lift (wp_weaken (waiting₁.rm ?_) fun op fault s => gentle.spares _ op fault s)
    intro s₂ waiting₂
    have noLive : w.start.live = none := by
      show (s.files .live).map (·.content) = none
      rw [missing]
      rfl
    exact failed error s₂ strikes (Writing.Waiting.pending waiting₂.aside waiting₂.timed)
      (waiting₂.live.trans noLive) waiting₂.left.sound

/-- The files a fresh instance starts from when there is nothing to load. -/
def Unwritten (files : Files T) : Prop :=
  files .live = none ∧ ∀ path : Path, path.isCandidate → files path = none

/-- What `#loadFromDisk` ends with, apart from the first run. -/
theorem loadFromDisk_wp {config : Config D T} {ok : T → Prop} {kept : Prop} {crash : State T → Prop}
    {post : Except StoreError T → State T → Prop} (gentle : Gentle allowed) (timed : s.directory.Timed)
    (sound : Sound ok kept s.files)
    (dies : ∀ s', Aside s s' → s'.directory.Timed → Sound ok kept s'.files → crash s')
    (after : ∀ value s', ok value → Aside s s' → s'.directory.Timed → s'.live = some (.text value) →
      post (.ok value) s')
    (failed : ∀ error s', Fails allowed → Aside s s' → s'.directory.Timed → Sound ok kept s'.files →
      post (.error error) s')
    (refused : s.files .live = none → (∀ path value time, ¬ Valid s.files path value time) →
      (∃ path : Path, path.isCandidate ∧ s.files path ≠ none) → post (.error noneValid) s)
    (first : Unwritten s.files → wp (device T) allowed crash (write config config.defaults) post s) :
    wp (device T) allowed crash (loadFromDisk config) post s := by
  have diesHere : crash s := dies s (.refl s) timed sound
  refine wp_seq (still_wp (fun extent => by cases extent <;> rfl) ?_
    (fun code extent strikes => gentle.steady rfl strikes) diesHere)
  refine (wp_resume _ _ _ _).2 ?_
  cases live : s.files .live with
  | some file =>
    obtain ⟨value, content, isOk⟩ := sound.live live
    have holds : s.live = some (.text value) := by
      show (s.files .live).map (·.content) = _
      rw [live, ← content]
      rfl
    exact decode_known_wp gentle holds (fun _ => after value s isOk (.refl s) timed holds) diesHere
  | none =>
    have missing : wp (device T) allowed crash (recover config (.errno .ENOENT)) post s := by
      refine wp_seq (findRecoveryCandidate_wp gentle ?_ ?_ diesHere)
      · intro candidate newest
        apply restoreCandidate_wp gentle timed sound live newest dies _ failed
        exact fun s' => after candidate.value s' ((sound.missing live).2 _ _ _ newest)
      · intro foundFiles nothing found
        cases foundFiles with
        | true => exact refused live nothing (found.1 rfl)
        | false =>
          apply first ⟨live, fun path isCandidate => ?_⟩
          by_contra present
          cases found.2 ⟨path, isCandidate, present⟩
    apply decode_wp _ _ _ _ diesHere
    · intro time value holds
      rw [live] at holds
      cases holds
    · exact fun _ => missing
    · intro time torn
      rw [live] at torn
      cases torn
    · intro op code extent isOp strikes
      exact gentle.steady (by rcases isOp with rfl | rfl <;> rfl) strikes

theorem load_wp {config : Config D T} {crash : State T → Prop}
    {post : Except StoreError T → State T → Prop} (fresh : s.data = none) (dies₀ : crash s)
    (loads : wp (device T) allowed crash (loadFromDisk config)
      (either (fun value s' => crash s' ∧ crash { s' with data := some value } ∧
        post (.ok value) { s' with data := some value }) fun error s' => post (.error error) s') s) :
    wp (device T) allowed crash (load config) post s := by
  refine wp_seq ⟨fun _ => ?_, (fun _ _ fallible _ => by cases fallible), fun extent _ => ?_⟩
  case refine_2 => cases extent <;> exact dies₀
  have nothing : (device T).reply (.getData : Op T) s = none := fresh
  rw [nothing]
  refine wp_seq (wp_mono loads ?_ fun _ h => h)
  intro result s₁ ended
  cases result with
  | error error => exact ended
  | ok value =>
    obtain ⟨dies, diesAfter, after⟩ := ended
    refine wp_seq ⟨fun _ => after, (fun _ _ fallible _ => by cases fallible), fun extent _ => ?_⟩
    cases extent with
    | after => exact diesAfter
    | before => exact dies
    | partway => exact dies

end Restore

end JsonStore
