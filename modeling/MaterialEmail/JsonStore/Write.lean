import Mathlib.Data.List.MinMax
import Mathlib.Order.Nat
import MaterialEmail.JsonStore.Backup

/-! `#write`: at every point the live file is what it was, or the value written, or missing while
the backup is the newest copy of what it was. -/
namespace JsonStore

open Interrupted

/-- One call of `#write`, begun in `start`: the states a load could find then, and whether it was
certain to find one. -/
structure Writing (T : Type) where
  ok : T → Prop
  kept : Prop
  value : T
  uuid : Nat
  start : State T

namespace Writing

variable {T : Type} {w : Writing T} {s s' : State T} {value : T}

abbrev temporary (w : Writing T) : Path := .temporary w.uuid

/-- The live file is as it was; the temporary may be there. -/
structure Waiting (w : Writing T) (s : State T) : Prop where
  aside : Aside w.start s
  timed : s.directory.Timed
  live : s.live = w.start.live
  sound : Sound w.ok w.kept (Function.update s.files w.temporary none)
  temporary : ∀ file, s.files w.temporary = some file →
    file.content = .torn ∨ file.content = .text w.value

/-- The temporary has become the live file. -/
structure Published (w : Writing T) (s : State T) : Prop where
  aside : Aside w.start s
  timed : s.directory.Timed
  live : s.live = some (.text w.value)
  gone : s.files w.temporary = none

/-- What a crash may leave. -/
structure Left (w : Writing T) (s : State T) : Prop where
  aside : Aside w.start s
  timed : s.directory.Timed
  sound : Sound (fun value => w.ok value ∨ value = w.value) w.kept s.files

/-- What `#write` relies on: an instance that remembers a state finds it in the live file. -/
structure Ready (w : Writing T) : Prop where
  agrees : w.start.Agrees
  ok : ∀ value, w.start.live = some (.text value) → w.ok value

theorem Waiting.left (waiting : w.Waiting s) : w.Left s :=
  ⟨waiting.aside, waiting.timed, waiting.sound.temporary waiting.temporary⟩

theorem Published.left (published : w.Published s) : w.Left s :=
  ⟨published.aside, published.timed, Sound.of_live published.live (Or.inr rfl)⟩

theorem Ready.waiting (ready : w.Ready) (aside : Aside w.start s) (timed : s.directory.Timed)
    (live : s.live = some (.text value)) (same : w.start.live = some (.text value))
    (temporary : ∀ file, s.files w.temporary = some file →
      file.content = .torn ∨ file.content = .text w.value) : w.Waiting s := by
  have other : Path.live ≠ w.temporary := nofun
  refine ⟨aside, timed, live.trans same.symm, Sound.of_live ?_ (ready.ok value same), temporary⟩
  rw [Function.update_of_ne other]
  exact live

theorem Ready.same (ready : w.Ready) (aside : Aside w.start s) (agrees : s.Agrees) :
    s.live = w.start.live := by
  unfold State.Agrees at agrees
  rw [agrees, aside.data, ← ready.agrees]

theorem Waiting.framed (waiting : w.Waiting s) (framed : Framed {path | path.concernsWrite} s s')
    (ready : w.Ready) (live : s.live = some (.text value)) : w.Waiting s' := by
  have sameLive : s'.live = s.live := by
    show (s'.files .live).map (·.content) = (s.files .live).map (·.content)
    rw [framed.files .live rfl]
  apply ready.waiting (waiting.aside.trans framed.aside) framed.timed (sameLive.trans live)
    (waiting.live.symm.trans live)
  intro file found
  rw [framed.files _ rfl] at found
  exact waiting.temporary file found

abbrev wwp (w : Writing T) (p : Store T α) (post : Except StoreError α → State T → Prop)
    (s : State T) : Prop :=
  wp (device T) (Spares w.start.data) w.Left p post s

theorem Ready.strikes {op : Op T} {code : Errno} {extent : Extent} (ready : w.Ready)
    (aside : Aside w.start s) (strikes : Spares w.start.data op (.fail code extent) s) :
    s.live = w.start.live ∨ op.caught code := by
  rcases strikes.2 aside.data with agrees | caught
  · exact Or.inl (ready.same aside agrees)
  · exact Or.inr caught

theorem Published.struck {op : Op T} {code : Errno} {extent : Extent} (published : w.Published s)
    (ready : w.Ready) (strikes : Spares w.start.data op (.fail code extent) s)
    (loud : op.caught code = false) : w.Waiting s := by
  rcases ready.strikes published.aside strikes with same | caught
  · rw [published.live] at same
    apply ready.waiting published.aside published.timed published.live same.symm
    intro file found
    rw [published.gone] at found
    cases found
  · rw [loud] at caught
    cases caught

theorem Published.syncDirectory (published : w.Published s) (ready : w.Ready)
    {post : Except StoreError Unit → State T → Prop} (after : post (.ok ()) s)
    (failed : ∀ error, w.Waiting s → post (.error error) s) : w.wwp syncDirectory post s := by
  have still : ∀ extent, effect (.file .syncDirectory) extent s = s := by
    intro extent
    cases extent <;> rfl
  refine ⟨fun _ => after, fun code extent _ strikes => ?_, fun extent _ => ?_⟩
  · show wp _ _ _ (if toleratedBySyncDirectory code then _ else _) _ (effect (.file .syncDirectory) extent s)
    rw [still]
    split
    · exact after
    · rename_i notTolerated
      exact failed _ (published.struck ready strikes (by simpa [Op.caught] using notTolerated))
  · show w.Left (effect (.file .syncDirectory) extent s)
    rw [still]
    exact published.left

theorem rename_published {file : File T} (aside : Aside w.start s)
    (whole : file.content = .text w.value)
    (framed : Framed {path | path ≠ w.temporary ∧ path ≠ .live} s s')
    (moved : s'.files = Function.update (Function.update s.files w.temporary none) .live (some file)) :
    w.Published s' := by
  refine ⟨aside.trans framed.aside, framed.timed, ?_, ?_⟩
  · show (s'.files .live).map (·.content) = _
    rw [moved]
    simp [whole]
  · rw [moved]
    simp

/-- The live file is moved aside and, when the temporary cannot take its place, moved back. -/
theorem displaceLive_wp {id' : Nat} {current : T} (ready : w.Ready) (waiting : w.Waiting s)
    (live : s.live = some (.text current)) (backed : Fresh s.files .backup current)
    (temporary : ∀ file, s.files w.temporary = some file → file.content = .text w.value) :
    w.wwp (displaceLive w.temporary (.displaced id'))
      (either (fun _ => w.Published) fun _ => w.Waiting) s := by
  have start : w.start.live = some (.text current) := waiting.live.symm.trans live
  have isOk := ready.ok current start
  obtain ⟨file, found, content⟩ := Option.map_eq_some_iff.1 live
  refine wp_seq (rename_wp found (fun code extent strikes => strikes.1 rfl) ?_ ?_ waiting.timed waiting.left ?_)
  case refine_2 => exact fun _ _ _ => waiting
  case refine_3 =>
    intro s₁ framed moved
    refine ⟨waiting.aside.trans framed.aside, framed.timed, Fresh.sound ?_ (by rw [moved]; simp) (Or.inl isOk)⟩
    rw [moved]
    exact backed.renameOther found nofun nofun
  intro s₁ framed moved
  -- the live file is missing from here on until one of the two renames
  have aside₁ := waiting.aside.trans framed.aside
  have temporary₁ : s₁.files w.temporary = s.files w.temporary := by
    rw [moved]
    simp
  have missing : s₁.files .live = none := by
    rw [moved]
    simp
  have displaced : s₁.files (.displaced id') = some file := by
    rw [moved]
    simp
  have left₁ : w.Left s₁ := by
    refine ⟨aside₁, framed.timed, Fresh.sound ?_ missing (Or.inl isOk)⟩
    rw [moved]
    exact backed.renameOther found nofun nofun
  have moveBack : ∀ (error : StoreError) (post : Unit → State T → Prop),
      w.wwp (putLiveBack (.displaced id') error) (either post fun _ => w.Waiting) s₁ := by
    intro error post
    refine wp_seq ((wp_catching _ _ _ _).2 ?_)
    have restored : ∀ s₂, Framed {path | path ≠ .displaced id' ∧ path ≠ .live} s₁ s₂ →
        s₂.files = Function.update (Function.update s₁.files (.displaced id') none) .live (some file) →
        w.Waiting s₂ := by
      intro s₂ framed₂ moved₂
      have live₂ : s₂.live = some (.text current) := by
        show (s₂.files .live).map (·.content) = _
        rw [moved₂]
        simp [content]
      apply ready.waiting (aside₁.trans framed₂.aside) framed₂.timed live₂ start
      intro file' found'
      rw [moved₂] at found'
      simp only [ne_eq, reduceCtorEq, not_false_eq_true, Function.update_of_ne] at found'
      rw [temporary₁] at found'
      exact Or.inr (temporary file' found')
    apply rename_wp displaced (fun code extent strikes => strikes.1 rfl) restored _ framed.timed left₁
    · exact fun s₂ framed₂ moved₂ => (restored s₂ framed₂ moved₂).left
    · -- nothing but a caught operation fails while the live file is missing
      intro code extent strikes
      rcases ready.strikes aside₁ strikes with same | caught
      · rw [start] at same
        have absent : s₁.live = none := by
          show (s₁.files .live).map (·.content) = none
          rw [missing]
          rfl
        rw [absent] at same
        cases same
      · cases caught
  refine wp_seq ((wp_catching _ _ _ _).2 ?_)
  cases whole : s.files w.temporary with
  | none =>
    exact rename_missing_wp (temporary₁.trans whole) (moveBack _ _) (fun code _ _ => moveBack _ _) left₁
  | some next =>
    have isWhole := temporary next whole
    apply rename_wp (temporary₁.trans whole) (fun code extent strikes => strikes.1 rfl) _ _ framed.timed left₁
    · intro s₂ framed₂ moved₂
      exact (rename_published aside₁ isWhole framed₂ moved₂).left
    · intro s₂ framed₂ moved₂
      have published := rename_published aside₁ isWhole framed₂ moved₂
      have ends : ∀ s₃, w.Published s₃ →
          w.wwp syncDirectory (either (fun _ => w.Published) fun _ => w.Waiting) s₃ := by
        intro s₃ published₃
        exact published₃.syncDirectory ready published₃ fun _ waiting₃ => waiting₃
      refine wp_seq (rmIgnored_wp framed₂.timed (ends s₂ published) published.left ?_)
      intro s₃ framed₃ removed
      have published₃ : w.Published s₃ := by
        refine ⟨published.aside.trans framed₃.aside, framed₃.timed, ?_, ?_⟩
        · show (s₃.files .live).map (·.content) = _
          rw [framed₃.files .live nofun]
          exact published.live
        · rw [framed₃.files w.temporary nofun]
          exact published.gone
      exact ⟨ends s₃ published₃, published₃.left⟩
    · exact fun code extent _ => moveBack _ _

theorem replaceLiveFile_wp {hasCurrent : Bool} {file : File T} (ready : w.Ready)
    (waiting : w.Waiting s) (found : s.files w.temporary = some file) (whole : file.content = .text w.value)
    (backed : hasCurrent → ∃ current, s.live = some (.text current) ∧ Fresh s.files .backup current) :
    w.wwp (replaceLiveFile w.temporary hasCurrent)
      (either (fun _ => w.Published) fun _ => w.Waiting) s := by
  have handles : ∀ (error : StoreError) (s₁ : State T), w.Waiting s₁ →
      (∀ file, s₁.files w.temporary = some file → file.content = .text w.value) →
      (hasCurrent → ∃ current, s₁.live = some (.text current) ∧ Fresh s₁.files .backup current) →
      w.wwp (if hasCurrent && displaceable error then do
          let displaced := Path.displaced (← randomUUID)
          displaceLive w.temporary displaced
        else .throw error) (either (fun _ => w.Published) fun _ => w.Waiting) s₁ := by
    intro error s₁ waiting₁ temporary₁ backed₁
    split
    · rename_i both
      obtain ⟨isCurrent, -⟩ := Bool.and_eq_true_iff.1 both
      obtain ⟨current, live, fresh⟩ := backed₁ isCurrent
      exact wp_seq (randomUUID_wp (displaceLive_wp ready waiting₁ live fresh temporary₁) waiting₁.left)
    · exact waiting₁
  refine (wp_catching _ _ _ _).2 (wp_seq ?_)
  apply rename_wp found (fun code extent strikes => strikes.1 rfl) _ _ waiting.timed waiting.left
  · exact fun s₁ framed moved => (rename_published waiting.aside whole framed moved).left
  · intro s₁ framed moved
    have published := rename_published waiting.aside whole framed moved
    apply published.syncDirectory ready published
    intro error waiting₁
    apply handles error s₁ waiting₁
    · intro file' found'
      rw [published.gone] at found'
      cases found'
    · intro isCurrent
      obtain ⟨current, live, fresh⟩ := backed isCurrent
      refine ⟨current, (waiting₁.live.trans waiting.live.symm).trans live, ?_⟩
      rw [moved]
      exact fresh.renameOther found nofun nofun
  · intro code extent strikes
    apply handles _ s waiting _ backed
    intro file' found'
    rw [found] at found'
    cases found'
    exact whole

theorem publish_wp {file : File T} (ready : w.Ready) (waiting : w.Waiting s)
    (found : s.files w.temporary = some file) (whole : file.content = .text w.value) :
    w.wwp (publish w.temporary)
      (either (fun result s' => result = w.value ∧ w.Published s') fun _ => w.Waiting) s := by
  -- the rest, once it is known whether there is a current file
  have replaces : ∀ (hasCurrent : Bool) (s₁ : State T), w.Waiting s₁ →
      s₁.files w.temporary = some file →
      (hasCurrent → ∃ current, s₁.live = some (.text current) ∧ Fresh s₁.files .backup current) →
      w.wwp (do
          replaceLiveFile w.temporary hasCurrent
          let committed ← decode .live
          afterWrite
          return committed.value)
        (either (fun result s' => result = w.value ∧ w.Published s') fun _ => w.Waiting) s₁ := by
    intro hasCurrent s₁ waiting₁ found₁ backed
    refine wp_seq (wp_mono (replaceLiveFile_wp ready waiting₁ found₁ whole backed) ?_ fun _ => id)
    intro result s₂ ended
    cases result with
    | error error => exact ended
    | ok _ =>
      have published : w.Published s₂ := ended
      obtain ⟨live, foundLive, content⟩ := Option.map_eq_some_iff.1 published.live
      refine wp_seq (decode_wp ?_ ?_ ?_ ?_ published.left)
      · intro time value isValue
        have same : value = w.value := by
          have holds : s₂.files .live = some live := foundLive
          rw [isValue] at holds
          cases holds
          exact Content.text.inj content
        subst same
        refine wp_seq ⟨fun _ => ⟨rfl, published⟩, fun code extent _ strikes => ?_, fun extent _ => ?_⟩
        · cases extent <;> exact published.struck ready strikes rfl
        · cases extent <;> exact published.left
      · intro missing
        have holds : s₂.files .live = some live := foundLive
        rw [missing] at holds
        cases holds
      · intro time torn
        have holds : s₂.files .live = some live := foundLive
        rw [torn] at holds
        cases holds
        cases content
      · intro op code extent isOp strikes
        apply published.struck ready strikes
        rcases isOp with rfl | rfl <;> rfl
  refine wp_seq ((wp_resume _ _ _ _).2 (decode_wp ?_ ?_ ?_ ?_ waiting.left))
  · intro time current holds
    have live : s.live = some (.text current) := by
      show (s.files .live).map (·.content) = _
      rw [holds]
      rfl
    refine wp_seq (wp_mono (wp_and (framed_wp refreshBackup_avoids waiting.timed)
      (refreshBackup_owp (fun op code extent s' strikes => strikes.1) waiting.timed live)) ?_ ?_)
    · intro result s₁ ⟨framed, backed⟩
      have waiting₁ := waiting.framed framed ready live
      cases result with
      | error error => exact waiting₁
      | ok _ =>
        have temporary₁ : s₁.files w.temporary = s.files w.temporary := framed.files _ rfl
        apply replaces true s₁ waiting₁ (temporary₁.trans found)
        exact fun _ => ⟨current, waiting₁.live.trans (waiting.live.symm.trans live), backed⟩
    · intro s₁ ⟨framed, _⟩
      exact (waiting.framed framed ready live).left
  · intro missing
    exact replaces false s waiting found nofun
  · exact fun time torn => waiting
  · intro op code extent _ _
    unfold unlessMissing
    split
    · rename_i isOk
      cases isOk
    · exact replaces false s waiting found nofun
    · exact waiting

/-- Operations on the temporary that leave it torn or whole. -/
def Prepares (w : Writing T) (op : Op T) : Prop :=
  op = .file (.openFile w.temporary true) ∨ op = .file (.writeFile w.temporary w.value) ∨
    op = .file (.sync w.temporary) ∨ op = .file (.close w.temporary)

theorem Waiting.elsewhere (waiting : w.Waiting s) (framed : Framed {path | path ≠ w.temporary} s s')
    (temporary : ∀ file, s'.files w.temporary = some file →
      file.content = .torn ∨ file.content = .text w.value) : w.Waiting s' := by
  refine ⟨waiting.aside.trans framed.aside, framed.timed, ?_, ?_, temporary⟩
  · rw [← waiting.live]
    show (s'.files .live).map (·.content) = (s.files .live).map (·.content)
    rw [framed.files .live nofun]
  · have same : Function.update s'.files w.temporary none = Function.update s.files w.temporary none := by
      funext path
      by_cases isTemporary : path = w.temporary
      · simp [isTemporary]
      · simp only [ne_eq, isTemporary, not_false_eq_true, Function.update_of_ne]
        exact framed.files path isTemporary
    rw [same]
    exact waiting.sound

theorem Waiting.prepares {op : Op T} (waiting : w.Waiting s) (prepares : w.Prepares op) (extent : Extent) :
    w.Waiting (effect op extent s) := by
  have framed : Framed {path | path ≠ w.temporary} s (effect op extent s) := by
    apply (Framed.refl waiting.timed).effect
    rcases prepares with rfl | rfl | rfl | rfl
    · exact fun path different touched => different touched
    · exact fun path different touched => different touched
    · exact fun path different touched => different touched
    · exact fun _ _ => id
  apply waiting.elsewhere framed
  intro file found
  have stored : ∀ content, (s.directory.store w.temporary content).get w.temporary = some file →
      file.content = content := by
    intro content holds
    rw [Directory.get_store] at holds
    simp only [↓reduceIte, Option.some.injEq] at holds
    rw [← holds]
  rcases prepares with rfl | rfl | rfl | rfl
  · cases extent with
    | before => exact waiting.temporary file found
    | partway | after =>
      have opened : (if true ∧ (s.directory.get w.temporary).isSome then s.directory
          else s.directory.store w.temporary .torn).get w.temporary = some file := found
      split at opened
      · exact waiting.temporary file opened
      · exact Or.inl (stored _ opened)
  · cases extent with
    | before => exact waiting.temporary file found
    | partway => exact Or.inl (stored _ found)
    | after => exact Or.inr (stored _ found)
  · cases extent with
    | before => exact waiting.temporary file found
    | partway =>
      have torn : (s.directory.tear w.temporary).get w.temporary = some file := found
      unfold Directory.tear at torn
      cases before : s.directory.get w.temporary with
      | none =>
        rw [before] at torn
        rw [before] at torn
        cases torn
      | some old =>
        rw [before] at torn
        simp only [Directory.get_put, ↓reduceIte, Option.some.injEq] at torn
        rw [← torn]
        exact Or.inl rfl
    | after => exact waiting.temporary file found
  · cases extent <;> exact waiting.temporary file found

theorem writeSyncedFile_prepares : (writeSyncedFile w.temporary w.value).Uses w.Prepares := by
  have orThrow_prepares : ∀ reply : Except Errno Unit, (orThrow reply : Store T Unit).Uses w.Prepares := by
    intro reply
    cases reply with
    | ok value => exact .done value
    | error code => exact .throw _
  have written : (writeFile w.temporary w.value).Uses w.Prepares :=
    .call _ _ (Or.inr (Or.inl rfl)) orThrow_prepares
  have synced : (sync w.temporary : Store T Unit).Uses w.Prepares :=
    .call _ _ (Or.inr (Or.inr (Or.inl rfl))) orThrow_prepares
  have closed : (close w.temporary : Store T Unit).Uses w.Prepares :=
    .call _ _ (Or.inr (Or.inr (Or.inr rfl))) orThrow_prepares
  have opened : (openFile w.temporary : Store T Unit).Uses w.Prepares :=
    .call _ _ (Or.inl rfl) orThrow_prepares
  exact opened.bind fun _ => (written.bind fun _ => synced).finally_ closed

theorem writeSyncedFile_owp {allowed : Op T → Fault Errno → State T → Prop} (path : Path) (value : T) :
    owp (device T) allowed (writeSyncedFile path value)
      (fun _ s' => (s'.files path).map (·.content) = some (.text value)) s := by
  unfold writeSyncedFile openFile
  refine owp_seq (owp_call ?_ fun code => ⟨.errno code, rfl⟩)
  generalize (device T).effect (.file (.openFile path true)) .none s = s₁
  show owp _ _ (orThrow (if true ∧ (s.directory.get path).isSome then .error .EEXIST else .ok ())) _ s₁
  split
  · trivial
  · refine owp_finally (owp_seq (owp_call ?_ fun code => ⟨.errno code, rfl⟩))
    refine sync_owp (close_owp ?_)
    show (((s₁.directory.store path (.text value)).get path).map (·.content)) = _
    simp

theorem Waiting.rm (waiting : w.Waiting s) {post : Except StoreError Unit → State T → Prop}
    (after : ∀ s', w.Waiting s' → post (.ok ()) s') :
    w.wwp (ignoringErrors (rm w.temporary)) post s := by
  apply rmIgnored_wp waiting.timed (after s waiting) waiting.left
  intro s' framed removed
  have waiting' : w.Waiting s' := by
    apply waiting.elsewhere framed
    intro file found
    rw [removed] at found
    simp at found
  exact ⟨after s' waiting', waiting'.left⟩

theorem Published.rm (published : w.Published s) {post : Except StoreError Unit → State T → Prop}
    (after : ∀ s', w.Published s' → post (.ok ()) s') :
    w.wwp (ignoringErrors (JsonStore.rm w.temporary)) post s := by
  apply rmIgnored_wp published.timed (after s published) published.left
  intro s' framed removed
  have published' : w.Published s' := by
    refine ⟨published.aside.trans framed.aside, framed.timed, ?_, by rw [removed]; simp⟩
    rw [← published.live]
    show (s'.files .live).map (·.content) = (s.files .live).map (·.content)
    rw [framed.files .live nofun]
  exact ⟨after s' published', published'.left⟩

/-- What an error leaves: the temporary may still be there, which matters only where there is no
live file. -/
theorem Waiting.settled (waiting : w.Waiting s) :
    Sound (fun value => w.ok value ∨ w.start.live = none ∧ value = w.value) w.kept s.files := by
  have left := waiting.left.sound
  cases live : w.start.live with
  | none => exact left.mono (fun value isOk => isOk.imp id fun same => ⟨rfl, same⟩) id
  | some content =>
    obtain ⟨file, found, -⟩ := Option.map_eq_some_iff.1 (waiting.live.trans live)
    have present : Function.update s.files w.temporary none .live = some file := by
      have other : Path.live ≠ w.temporary := nofun
      rw [Function.update_of_ne other]
      exact found
    obtain ⟨value, content, isOk⟩ := waiting.sound.live present
    have holds : (s.files .live).map (·.content) = some (.text value) := by
      show (s.directory.get .live).map (·.content) = some (.text value)
      rw [found, ← content]
      rfl
    exact Sound.of_live holds (Or.inl isOk)

end Writing

variable {T : Type} {s : State T}

theorem unused_absent (d : Directory Path T) (path : Path) (isUnused : path.id = unused d) :
    d.get path = none := by
  by_contra present
  have member : path ∈ d.names := (d.mem_names path).2 (Option.isSome_iff_ne_none.2 present)
  have bound : path.id ≤ (d.names.map Path.id).foldr max 0 :=
    List.le_max_of_le (List.mem_map_of_mem member) (Nat.le_refl _)
  unfold unused at isUnused
  omega

structure Acknowledged (value : T) (s s' : State T) : Prop where
  timed : s'.directory.Timed
  live : s'.live = some (.text value)
  data : s'.data = s.data
  writing : s'.writing = none
  written : s'.written = some value

structure Pending (value : T) (s s' : State T) : Prop where
  timed : s'.directory.Timed
  data : s'.data = s.data
  writing : s'.writing = some value
  written : s'.written = s.written

def Writing.from (ok : T → Prop) (kept : Prop) (value : T) (s : State T) : Writing T :=
  ⟨ok, kept, value, unused s.directory, { s with writing := some value }⟩

theorem Writing.from_absent (ok : T → Prop) (kept : Prop) (value : T) (s : State T) :
    (Writing.from ok kept value s).start.files (Writing.from ok kept value s).temporary = none :=
  unused_absent s.directory _ rfl

theorem Writing.from_waiting {ok : T → Prop} {kept : Prop} {value : T} (timed : s.directory.Timed)
    (sound : Sound ok kept s.files) :
    (Writing.from ok kept value s).Waiting (Writing.from ok kept value s).start := by
  have absent := Writing.from_absent ok kept value s
  refine ⟨.refl _, timed, rfl, ?_, fun file found => ?_⟩
  · rw [update_absent absent]
    exact sound
  · rw [absent] at found
    cases found

theorem Writing.from_ready {ok : T → Prop} {kept : Prop} {value : T} (sound : Sound ok kept s.files)
    (agrees : s.Agrees) : (Writing.from ok kept value s).Ready := by
  refine ⟨agrees, fun found live => ?_⟩
  obtain ⟨file, present, content⟩ := Option.map_eq_some_iff.1 live
  obtain ⟨value', content', isOk⟩ := sound.live present
  rw [content] at content'
  cases content'
  exact isOk

theorem begin_wp {allowed : Op T → Fault Errno → State T → Prop} {crash : State T → Prop}
    {post : Except StoreError Unit → State T → Prop} {value : T} (dies : crash s)
    (diesAfter : crash { s with writing := some value })
    (after : post (.ok ()) { s with writing := some value }) :
    wp (device T) allowed crash (begin_ value) post s := by
  refine ⟨fun _ => after, (fun _ _ fallible _ => by cases fallible), fun extent _ => ?_⟩
  cases extent with
  | after => exact diesAfter
  | before => exact dies
  | partway => exact dies

theorem acknowledge_wp {allowed : Op T → Fault Errno → State T → Prop} {crash : State T → Prop}
    {post : Except StoreError Unit → State T → Prop} (dies : crash s)
    (diesAfter : crash { s with writing := none, written := s.writing })
    (after : post (.ok ()) { s with writing := none, written := s.writing }) :
    wp (device T) allowed crash acknowledge post s := by
  refine ⟨fun _ => after, (fun _ _ fallible _ => by cases fallible), fun extent _ => ?_⟩
  cases extent with
  | after => exact diesAfter
  | before => exact dies
  | partway => exact dies

theorem Writing.Waiting.pending {ok : T → Prop} {kept : Prop} {value : T} {s' : State T}
    (aside : Aside (Writing.from ok kept value s).start s') (timed : s'.directory.Timed) :
    Pending value s s' := ⟨timed, aside.data, aside.writing, aside.written⟩

theorem Writing.Published.acknowledged {ok : T → Prop} {kept : Prop} {value : T} {s' : State T}
    (published : (Writing.from ok kept value s).Published s') :
    Acknowledged value s { s' with writing := none, written := s'.writing } :=
  ⟨published.timed, published.live, published.aside.data, rfl, published.aside.writing⟩

theorem writeValidated_wp {ok : T → Prop} {kept : Prop} {crash : State T → Prop}
    {post : Except StoreError T → State T → Prop} (value : T) (timed : s.directory.Timed)
    (sound : Sound ok kept s.files) (agrees : s.Agrees) (dies₀ : crash s)
    (dies : ∀ s', Pending value s s' → Sound (fun found => ok found ∨ found = value) kept s'.files → crash s')
    (diesAfter : ∀ s', Acknowledged value s s' → crash s')
    (after : ∀ s', Acknowledged value s s' → post (.ok value) s')
    (failed : ∀ error s', Pending value s s' → s'.live = s.live →
      Sound (fun found => ok found ∨ s.live = none ∧ found = value) kept s'.files → post (.error error) s') :
    wp (device T) (Spares s.data) crash (writeValidated value) post s := by
  let w := Writing.from ok kept value s
  have ready : w.Ready := Writing.from_ready sound agrees
  have waiting : w.Waiting w.start := Writing.from_waiting timed sound
  have diesLeft : ∀ s', w.Left s' → crash s' :=
    fun s' left => dies s' (Writing.Waiting.pending left.aside left.timed) left.sound
  have fails : ∀ error s', w.Waiting s' → post (.error error) s' :=
    fun error s' waiting => failed error s' (Writing.Waiting.pending waiting.aside waiting.timed) waiting.live
      waiting.settled
  refine wp_seq (begin_wp dies₀ (diesLeft _ waiting.left) ?_)
  have lift : ∀ {α : Type} {p : Store T α} {post' : Except StoreError α → State T → Prop} {s' : State T},
      w.wwp p post' s' → wp (device T) (Spares s.data) crash p post' s' :=
    fun h => wp_mono h (fun _ _ h => h) diesLeft
  refine wp_seq (randomUUID_wp ?_ (diesLeft _ waiting.left))
  have prepares : wp (device T) (Spares s.data) w.Waiting (writeSyncedFile w.temporary value)
      (fun _ => w.Waiting) w.start :=
    wp_uses Writing.writeSyncedFile_prepares (fun _ fault _ prepares waits => waits.prepares prepares fault.extent)
      waiting
  have whole : owp (device T) (Spares s.data) (writeSyncedFile w.temporary value)
      (fun _ s' => (s'.files w.temporary).map (·.content) = some (.text value)) w.start :=
    Writing.writeSyncedFile_owp w.temporary value
  refine wp_seq (lift (wp_mono (wp_and prepares whole) ?_ fun s' both => both.1.left))
  intro result s₁ ⟨waiting₁, whole⟩
  cases result with
  | error error => exact fails error s₁ waiting₁
  | ok _ =>
    obtain ⟨file, found, content⟩ := Option.map_eq_some_iff.1 whole
    have rest : wp (device T) (Spares s.data) crash (do
        let committed ← Program.finally_ (publish w.temporary) (ignoringErrors (rm w.temporary))
        acknowledge
        return committed) post s₁ := by
      refine wp_seq ((wp_finally _ _ _ _).2 (lift (wp_mono (Writing.publish_wp ready waiting₁ found content)
        ?_ fun _ h => h)))
      intro result s₂ ended
      cases result with
      | error error =>
        refine lift (Writing.Waiting.rm ended ?_)
        exact fun s₃ waiting₃ => fails error s₃ waiting₃
      | ok committed =>
        obtain ⟨rfl, published⟩ := ended
        refine lift (published.rm ?_)
        intro s₃ published₃
        exact wp_seq (acknowledge_wp (diesLeft _ published₃.left) (diesAfter _ published₃.acknowledged)
          (after _ published₃.acknowledged))
    have sync : wp (device T) (Spares s.data) crash syncDirectory
        (either (fun _ => wp (device T) (Spares s.data) crash (do
          let committed ← Program.finally_ (publish w.temporary) (ignoringErrors (rm w.temporary))
          acknowledge
          return committed) post) fun error => post (.error error)) s₁ := by
      apply still_wp (fun extent => by cases extent <;> rfl) rest _ (diesLeft _ waiting₁.left)
      intro code extent _
      show wp _ _ _ (if toleratedBySyncDirectory code then _ else _) _ s₁
      split
      · exact rest
      · exact fails _ s₁ waiting₁
    exact wp_seq sync

end JsonStore
