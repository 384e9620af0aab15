import MaterialEmail.JsonStore.Files

/-! Rules for single operations, and what `#refreshBackup` leaves: a copy of the live file that
nothing is newer than. -/
namespace JsonStore

open Interrupted

def Op.renames (op : Op T) : Bool :=
  match op with
  | .file (.rename _ _) => true
  | _ => false

/-- Failures that the store catches wherever they strike. -/
def Op.caught (op : Op T) (code : Errno) : Bool :=
  match op with
  | .file (.rm _) => true
  | .file .syncDirectory => toleratedBySyncDirectory code
  | .file (.rename (.temporary _) .live) => true
  | _ => false

def State.live (s : State T) : Option (Content T) := s.directory.content .live

/-- The live file is what the instance remembers. -/
def State.Agrees (s : State T) : Prop := s.live = s.data.map .text

instance [DecidableEq T] (s : State T) : Decidable s.Agrees :=
  inferInstanceAs (Decidable (s.live = s.data.map .text))

/-- Crashes strike anywhere. Operations of an instance that remembers `data` fail only while the
live file is just that, unless the store catches it. A rename that fails has not happened. -/
def Spares (data : Option T) (op : Op T) (fault : Fault Errno) (s : State T) : Prop :=
  match fault with
  | .fail code extent =>
    (op.renames → extent ≠ .after) ∧ (s.data = data → s.Agrees ∨ op.caught code)
  | _ => True

section Rules

variable {T : Type} {allowed : Op T → Fault Errno → State T → Prop} {s : State T}

/-- `s` after an operation on its directory. -/
def State.with (s : State T) (directory : Directory Path T) : State T := { s with directory := directory }

theorem stat_owp {path : Path} {post : Nat → State T → Prop}
    (after : ∀ file, s.files path = some file → post file.modifiedAt s) :
    owp (device T) allowed (stat path) post s := by
  unfold stat
  refine owp_call ?_ fun code => ⟨.errno code, rfl⟩
  show owp _ _ (orThrow (FileOp.found ((s.files path).map (·.modifiedAt)))) post s
  cases found : s.files path with
  | none => trivial
  | some file => exact after file found

theorem readFile_owp {path : Path} {post : Content T → State T → Prop}
    (after : ∀ file, s.files path = some file → post file.content s) :
    owp (device T) allowed (readFile path) post s := by
  unfold readFile
  refine owp_call ?_ fun code => ⟨.errno code, rfl⟩
  show owp _ _ (orThrow (FileOp.found ((s.files path).map (·.content)))) post s
  cases found : s.files path with
  | none => trivial
  | some file => exact after file found

theorem decode_owp {path : Path} {post : Decoded T → State T → Prop}
    (after : ∀ time value, s.files path = some ⟨.text value, time⟩ → post ⟨path, time, value⟩ s) :
    owp (device T) allowed (decode path) post s := by
  refine owp_seq (stat_owp fun file found => owp_seq (readFile_owp fun file' found' => ?_))
  rw [found] at found'
  cases found'
  obtain ⟨content, time⟩ := file
  cases content with
  | text value => exact after time value found
  | torn => trivial

/-- Operations that answer and do nothing else. -/
theorem still_owp {op : FileOp Path T} {post : α → State T → Prop} {next : op.Reply → Store T α}
    (still : op.effect .after s.directory = s.directory)
    (after : owp (device T) allowed (next (op.reply s.directory)) post s)
    (refused : ∀ code, ∃ error, next (op.refuse code) = .throw error) :
    owp (device T) allowed (.call (.file op) next) post s := by
  apply owp_call _ refused
  have same : effect (.file op) .after s = s := by
    show s.with (op.effect .after s.directory) = s
    rw [still]
    rfl
  show owp (device T) allowed (next (op.reply s.directory)) post (effect (.file op) .after s)
  rw [same]
  exact after

/-- The same with every outcome accounted for. -/
theorem still_wp {op : FileOp Path T} {crash : State T → Prop} {post : Except StoreError α → State T → Prop}
    {next : op.Reply → Store T α} (still : ∀ extent, op.effect extent s.directory = s.directory)
    (after : wp (device T) allowed crash (next (op.reply s.directory)) post s)
    (failed : ∀ code extent, allowed (.file op) (.fail code extent) s →
      wp (device T) allowed crash (next (op.refuse code)) post s) (dies : crash s) :
    wp (device T) allowed crash (.call (.file op) next) post s := by
  have same : ∀ extent, effect (.file op) extent s = s := by
    intro extent
    show s.with (op.effect extent s.directory) = s
    rw [still]
    rfl
  refine ⟨fun _ => ?_, fun code extent _ strikes => ?_, fun extent _ => ?_⟩
  · show wp (device T) allowed crash (next (op.reply s.directory)) post (effect (.file op) .after s)
    rw [same]
    exact after
  · show wp (device T) allowed crash (next (op.refuse code)) post (effect (.file op) extent s)
    rw [same]
    exact failed code extent strikes
  · show crash (effect (.file op) extent s)
    rw [same]
    exact dies

/-- `decode`: what the file says, or an error because it says nothing or an operation failed. -/
theorem decode_wp {path : Path} {crash : State T → Prop} {post : Except StoreError (Decoded T) → State T → Prop}
    (after : ∀ time value, s.files path = some ⟨.text value, time⟩ → post (.ok ⟨path, time, value⟩) s)
    (missing : s.files path = none → post (.error (.errno .ENOENT)) s)
    (torn : ∀ time, s.files path = some ⟨.torn, time⟩ → post (.error invalidJson) s)
    (failed : ∀ op code extent, (op = .stat path ∨ op = .readFile path) →
      allowed (.file op) (.fail code extent) s → post (.error (.errno code)) s)
    (dies : crash s) : wp (device T) allowed crash (decode path) post s := by
  unfold decode stat
  refine wp_seq (still_wp (fun extent => by cases extent <;> rfl) ?_ ?_ dies)
  case refine_2 => exact fun code extent strikes => failed _ code extent (Or.inl rfl) strikes
  show wp _ _ _ (orThrow (FileOp.found ((s.files path).map (·.modifiedAt)))) _ s
  cases found : s.files path with
  | none => exact missing found
  | some file =>
    unfold readFile
    refine wp_seq (still_wp (fun extent => by cases extent <;> rfl) ?_ ?_ dies)
    case refine_2 => exact fun code extent strikes => failed _ code extent (Or.inr rfl) strikes
    show wp _ _ _ (orThrow (FileOp.found ((s.files path).map (·.content)))) _ s
    rw [found]
    obtain ⟨content, time⟩ := file
    cases content with
    | text value => exact after time value found
    | torn => exact torn time found

theorem randomUUID_wp {crash : State T → Prop} {post : Except StoreError Nat → State T → Prop}
    (after : post (.ok (unused s.directory)) s) (dies : crash s) :
    wp (device T) allowed crash randomUUID post s :=
  ⟨fun _ => after, (fun _ _ fallible _ => by cases fallible), fun extent _ => by cases extent <;> exact dies⟩

theorem close_owp {path : Path} {post : Unit → State T → Prop} (after : post () s) :
    owp (device T) allowed (close path) post s :=
  still_owp rfl after fun _ => ⟨_, rfl⟩

theorem sync_owp {path : Path} {post : Unit → State T → Prop} (after : post () s) :
    owp (device T) allowed (sync path) post s :=
  still_owp rfl after fun _ => ⟨_, rfl⟩

theorem syncDirectory_owp {post : Unit → State T → Prop} (after : post () s) :
    owp (device T) allowed syncDirectory post s := by
  refine ⟨fun _ => after, fun code extent _ _ => ?_, fun _ _ => trivial⟩
  have same : (device T).effect (.file .syncDirectory) (.fail code extent) s = s := by
    cases extent <;> rfl
  rw [same]
  show wp _ _ _ (if toleratedBySyncDirectory code then _ else _) _ s
  split
  · exact after
  · trivial

theorem reopen_owp {path : Path} {post : Unit → State T → Prop} (after : post () s) :
    owp (device T) allowed (reopen path) post s := by
  unfold reopen
  refine still_owp rfl ?_ fun code => ⟨.errno code, rfl⟩
  show owp _ _ (orThrow (FileOp.found ((s.files path).map fun _ => ()))) post s
  cases s.files path with
  | none => trivial
  | some file => exact after

theorem syncFile_owp {path : Path} {post : Unit → State T → Prop} (after : post () s) :
    owp (device T) allowed (syncFile path) post s :=
  owp_seq (reopen_owp (owp_finally (sync_owp (close_owp after))))

theorem randomUUID_owp {post : Nat → State T → Prop} (after : ∀ id, post id s) :
    owp (device T) allowed randomUUID post s :=
  ⟨fun _ => after _, (fun _ _ fallible _ => by cases fallible), fun _ _ => trivial⟩

theorem move_files {d : Directory Path T} {source target : Path} {file : File T}
    (found : d.get source = some file) :
    (d.move source target).get =
      Function.update (Function.update d.get source none) target (some file) := by
  funext path
  rw [Directory.get_move, found]
  simp [Function.update_apply]

/-- A rename whose source is there. Failures leave the directory as it was. -/
theorem rename_wp {source target : Path} {file : File T} {crash : State T → Prop}
    {post : Except StoreError Unit → State T → Prop} (found : s.files source = some file)
    (atomic : ∀ code extent, allowed (.file (.rename source target)) (.fail code extent) s → extent ≠ .after)
    (after : ∀ s', Framed {path | path ≠ source ∧ path ≠ target} s s' →
      s'.files = Function.update (Function.update s.files source none) target (some file) → post (.ok ()) s')
    (failed : ∀ code extent, allowed (.file (.rename source target)) (.fail code extent) s →
      post (.error (.errno code)) s)
    (timed : s.directory.Timed) (dies : crash s)
    (diesAfter : ∀ s', Framed {path | path ≠ source ∧ path ≠ target} s s' →
      s'.files = Function.update (Function.update s.files source none) target (some file) → crash s') :
    wp (device T) allowed crash (rename source target) post s := by
  have framed : ∀ extent, Framed {path | path ≠ source ∧ path ≠ target} s
      (effect (.file (.rename source target)) extent s) := by
    intro extent
    apply (Framed.refl timed).effect
    rintro path ⟨notSource, notTarget⟩ touched
    rcases touched with same | same
    · exact notSource same
    · exact notTarget same
  have moved : (effect (.file (.rename source target)) .after s).files =
      Function.update (Function.update s.files source none) target (some file) := move_files found
  refine ⟨fun _ => ?_, fun code extent _ strikes => ?_, fun extent _ => ?_⟩
  · show wp _ _ _ (orThrow (FileOp.found ((s.files source).map fun _ => ()))) _ _
    rw [found]
    exact after _ (framed .after) moved
  · cases extent with
    | after => exact (atomic code .after strikes rfl).elim
    | before => exact failed code _ strikes
    | partway => exact failed code _ strikes
  · cases extent with
    | after => exact diesAfter _ (framed .after) moved
    | before => exact dies
    | partway => exact dies

theorem rename_missing_wp {source target : Path} {crash : State T → Prop}
    {post : Except StoreError Unit → State T → Prop} (missing : s.files source = none)
    (absent : post (.error (.errno .ENOENT)) s)
    (failed : ∀ code extent, allowed (.file (.rename source target)) (.fail code extent) s →
      post (.error (.errno code)) s) (dies : crash s) :
    wp (device T) allowed crash (rename source target) post s := by
  have still : ∀ extent, effect (.file (.rename source target)) extent s = s := by
    intro extent
    cases extent with
    | after =>
      have absent : s.directory.get source = none := missing
      show s.with (s.directory.move source target) = s
      unfold Directory.move
      rw [absent]
      rfl
    | before => rfl
    | partway => rfl
  refine ⟨fun _ => ?_, fun code extent _ strikes => ?_, fun extent _ => ?_⟩
  · show wp _ _ _ (orThrow (FileOp.found ((s.files source).map fun _ => ()))) _
      (effect (.file (.rename source target)) .after s)
    rw [still, missing]
    exact absent
  · show wp _ _ _ (orThrow (.error code)) _ (effect (.file (.rename source target)) extent s)
    rw [still]
    exact failed code extent strikes
  · show crash (effect (.file (.rename source target)) extent s)
    rw [still]
    exact dies

theorem rmIgnored_wp {path : Path} {crash : State T → Prop} {post : Except StoreError Unit → State T → Prop}
    (timed : s.directory.Timed) (kept : post (.ok ()) s) (dies : crash s)
    (removed : ∀ s', Framed {other | other ≠ path} s s' → s'.files = Function.update s.files path none →
      post (.ok ()) s' ∧ crash s') :
    wp (device T) allowed crash (ignoringErrors (rm path)) post s := by
  have framed : Framed {other | other ≠ path} s (effect (.file (.rm path)) .after s) := by
    apply (Framed.refl timed).effect
    exact fun other different touched => different touched
  have files : (effect (.file (.rm path)) .after s).files = Function.update s.files path none := by
    funext other
    show (s.directory.remove path).get other = _
    simp [Function.update_apply, State.files]
  obtain ⟨after, diesAfter⟩ := removed _ framed files
  refine (wp_catching _ _ _ _).2 ⟨fun _ => after, fun code extent _ _ => ?_, fun extent _ => ?_⟩
  · cases extent with
    | after => exact after
    | before => exact kept
    | partway => exact kept
  · cases extent with
    | after => exact diesAfter
    | before => exact dies
    | partway => exact dies

end Rules

section Backup

variable {T : Type} {allowed : Op T → Fault Errno → State T → Prop} {s : State T} {value : T}

theorem Fresh.rename {files : Files T} {source target : Path} (fresh : Fresh files source value)
    (found : files source = some file) :
    Fresh (Function.update (Function.update files source none) target (some file)) target value := by
  obtain ⟨time, holds, newest⟩ := fresh
  rw [holds] at found
  cases found
  refine ⟨time, by simp, ?_⟩
  intro other file different present
  rw [Function.update_of_ne different] at present
  by_cases same : other = source
  · subst same
    simp at present
  · rw [Function.update_of_ne same] at present
    exact newest other file same present

/-- What is newest does not care where an older file goes. -/
theorem Fresh.renameOther {files : Files T} {path source target : Path} (fresh : Fresh files path value)
    (found : files source = some file) (notSource : path ≠ source) (notTarget : path ≠ target) :
    Fresh (Function.update (Function.update files source none) target (some file)) path value := by
  obtain ⟨time, holds, newest⟩ := fresh
  refine ⟨time, by simp [notSource, notTarget, holds], ?_⟩
  intro other file' different present
  by_cases isTarget : other = target
  · subst isTarget
    simp only [Function.update_self, Option.some.injEq] at present
    subst present
    exact newest source file (Ne.symm notSource) found
  · rw [Function.update_of_ne isTarget] at present
    by_cases isSource : other = source
    · subst isSource
      simp at present
    · rw [Function.update_of_ne isSource] at present
      exact newest other file' different present

theorem Fresh.remove {files : Files T} {path removed : Path} (fresh : Fresh files path value)
    (different : path ≠ removed) : Fresh (Function.update files removed none) path value := by
  obtain ⟨time, holds, newest⟩ := fresh
  refine ⟨time, by simp [different, holds], ?_⟩
  intro other file' isOther present
  by_cases same : other = removed
  · subst same
    simp at present
  · rw [Function.update_of_ne same] at present
    exact newest other file' isOther present

variable (atomic : ∀ op code extent s, allowed op (.fail code extent) s → op.renames → extent ≠ .after)

include atomic in
theorem displaceBackup_owp {candidate displaced : Path} (timed : s.directory.Timed)
    (fresh : Fresh s.files candidate value ∨ s.files candidate = none)
    (notBackup : candidate ≠ .backup) (notDisplaced : candidate ≠ displaced) (apart : displaced ≠ .backup) :
    owp (device T) allowed (displaceBackup candidate displaced)
      (fun _ s' => Fresh s'.files .backup value) s := by
  -- whatever becomes of the old backup, the candidate is renamed next
  have rest : ∀ (hadBackup : Bool) (s₁ : State T), s₁.directory.Timed →
      Fresh s₁.files candidate value ∨ s₁.files candidate = none →
      owp (device T) allowed (do
          Program.catching (rename candidate .backup) (putBackupBack displaced hadBackup)
          onlyIf hadBackup (ignoringErrors (rm displaced))
          syncDirectory) (fun _ s' => Fresh s'.files .backup value) s₁ := by
    intro hadBackup s₁ timed₁ fresh₁
    have throws : ∀ (error : StoreError) (s₂ : State T) (post : Unit → State T → Prop),
        owp (device T) allowed (putBackupBack displaced hadBackup error) post s₂ := by
      intro error s₂ post
      exact owp_seq (owp_mono (owp_true _ _) fun _ _ _ => trivial)
    refine owp_seq ((wp_catching _ _ _ _).2 ?_)
    rcases fresh₁ with fresh₁ | gone
    · obtain ⟨time, holds, newest⟩ := fresh₁
      have isFresh : Fresh s₁.files candidate value := ⟨time, holds, newest⟩
      apply rename_wp holds (fun code extent strikes => atomic _ code extent _ strikes rfl) _ _ timed₁ trivial
        fun _ _ _ => trivial
      · intro s₂ framed moved
        have backed : Fresh s₂.files .backup value := by
          rw [moved]
          exact isFresh.rename holds
        refine owp_seq ?_
        cases hadBackup with
        | false => exact syncDirectory_owp backed
        | true =>
          refine rmIgnored_wp framed.timed (syncDirectory_owp backed) trivial ?_
          intro s₃ _ removed
          refine ⟨syncDirectory_owp ?_, trivial⟩
          rw [removed]
          exact backed.remove (Ne.symm apart)
      · exact fun code extent _ => throws _ _ _
    · exact rename_missing_wp gone (throws _ _ _) (fun code _ _ => throws _ _ _) trivial
  refine owp_seq ((wp_resume _ _ _ _).2 ?_)
  cases present : s.files .backup with
  | none =>
    apply rename_missing_wp present (rest false s timed fresh) _ trivial
    intro code extent _
    unfold unlessMissing
    split
    · exact rest true s timed fresh
    · exact rest false s timed fresh
    · trivial
  | some file =>
    apply rename_wp present (fun code extent strikes => atomic _ code extent _ strikes rfl) _ _ timed trivial
      fun _ _ _ => trivial
    · intro s₁ framed moved
      refine rest true s₁ framed.timed ?_
      rw [moved]
      rcases fresh with fresh | gone
      · exact Or.inl (fresh.renameOther present notBackup notDisplaced)
      · exact Or.inr (by simp [notBackup, notDisplaced, gone])
    · intro code extent _
      unfold unlessMissing
      split
      · exact rest true s timed fresh
      · exact rest false s timed fresh
      · trivial

theorem copyFile_owp {source target : Path} {post : Unit → State T → Prop} (timed : s.directory.Timed)
    (content : (s.files source).map (·.content) = some (.text value))
    (after : ∀ s', s'.directory.Timed → Fresh s'.files target value → post () s') :
    owp (device T) allowed (copyFile source target) post s := by
  unfold copyFile
  refine owp_call ?_ fun code => ⟨.errno code, rfl⟩
  have copied : effect (.file (.copyFile source target)) .after s =
      s.with (s.directory.store target (.text value)) := by
    show s.with ((FileOp.copyFile source target).effect .after s.directory) = _
    rw [FileOp.effect_copyFile content]
  obtain ⟨file, found, -⟩ := Option.map_eq_some_iff.1 content
  show owp _ _ (orThrow (FileOp.found ((s.files source).map fun _ => ()))) post
    (effect (.file (.copyFile source target)) .after s)
  rw [found, copied]
  apply after _ (timed.store target _)
  refine ⟨s.directory.clock, by simp [State.files, State.with], ?_⟩
  intro other file' different present
  have before : s.directory.get other = some file' := by
    simpa [State.files, State.with, different] using present
  exact timed other file' before

include atomic in
theorem refreshBackup_owp (timed : s.directory.Timed)
    (live : (s.files .live).map (·.content) = some (.text value)) :
    owp (device T) allowed refreshBackup (fun _ s' => Fresh s'.files .backup value) s := by
  refine owp_seq (randomUUID_owp fun id => owp_seq (copyFile_owp timed live fun s₁ timed₁ fresh₁ => ?_))
  refine owp_seq (syncFile_owp (owp_seq (decode_owp fun time' value' _ => (wp_catching _ _ _ _).2 ?_)))
  -- the handler finds the candidate in place, or gone if only the fsync failed
  have handles : ∀ (error : StoreError) (s₂ : State T), s₂.directory.Timed →
      Fresh s₂.files (.candidate id) value ∨ s₂.files (.candidate id) = none →
      owp (device T) allowed (if displaceable error then do
          let displaced := Path.displacedBackup (← randomUUID)
          displaceBackup (.candidate id) displaced
        else .throw error) (fun _ s' => Fresh s'.files .backup value) s₂ := by
    intro error s₂ timed₂ fresh₂
    split
    · refine owp_seq (randomUUID_owp fun id' => ?_)
      exact displaceBackup_owp atomic timed₂ fresh₂ nofun nofun nofun
    · trivial
  obtain ⟨time, holds, newest⟩ := fresh₁
  have isFresh : Fresh s₁.files (.candidate id) value := ⟨time, holds, newest⟩
  refine wp_seq (rename_wp holds (fun code extent strikes => atomic _ code extent _ strikes rfl) ?_ ?_ timed₁
    trivial fun _ _ _ => trivial)
  · intro s₂ framed moved
    have backed : Fresh s₂.files .backup value := by
      rw [moved]
      exact isFresh.rename holds
    have gone : s₂.files (.candidate id) = none := by
      rw [moved]
      simp
    refine ⟨fun _ => backed, fun code extent _ _ => ?_, fun _ _ => trivial⟩
    have same : (device T).effect (.file .syncDirectory) (.fail code extent) s₂ = s₂ := by
      cases extent <;> rfl
    rw [same]
    show wp _ _ _ (if toleratedBySyncDirectory code then _ else _) _ s₂
    split
    · exact backed
    · exact handles _ s₂ framed.timed (Or.inr gone)
  · exact fun code extent _ => handles _ s₁ timed₁ (Or.inl isFresh)

/-- The live file and the temporaries are no business of `#refreshBackup`. -/
def Path.concernsWrite : Path → Bool
  | .live => true
  | .temporary _ => true
  | _ => false

theorem refreshBackup_avoids :
    (refreshBackup : Store T Unit).Uses (Op.avoids {path | path.concernsWrite}) := by
  have outside : ¬ (false = true) := Bool.false_ne_true
  refine randomUUID_avoids.bind fun id => (copyFile_avoids outside).bind fun _ => ?_
  refine (syncFile_avoids outside).bind fun _ => (decode_avoids _).bind fun _ => ?_
  refine Program.Uses.catching ?_ fun error => ?_
  · exact (rename_avoids outside outside).bind fun _ => syncDirectory_avoids
  · split
    · refine randomUUID_avoids.bind fun id' => ?_
      have renamed : (rename (.displacedBackup id') .backup : Store T Unit).Uses
          (Op.avoids {path | path.concernsWrite}) := rename_avoids outside outside
      have removed : (rm (.displacedBackup id') : Store T Unit).Uses
          (Op.avoids {path | path.concernsWrite}) := rm_avoids outside
      refine Program.Uses.bind ((rename_avoids outside outside).resume unlessMissing_avoids) fun hadBackup => ?_
      refine Program.Uses.bind ?_ fun _ => ?_
      · refine (rename_avoids outside outside).catching fun error => ?_
        exact (onlyIf_avoids (ignoringErrors_avoids renamed)).bind fun _ => .throw _
      · exact (onlyIf_avoids (ignoringErrors_avoids removed)).bind fun _ => syncDirectory_avoids
    · exact .throw _

end Backup

end JsonStore
