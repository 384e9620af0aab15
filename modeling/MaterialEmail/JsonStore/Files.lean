import Mathlib.Data.Set.Basic
import MaterialEmail.JsonStore.Model

/-! What the files of a store say: which copies recovery can choose from, when they are sound, and
what a part of a program leaves alone. -/
namespace JsonStore

open Interrupted

abbrev Files (T : Type) := Path → Option (File T)

def State.files (s : State T) : Files T := s.directory.get

/-- A recovery candidate that decodes. -/
def Valid (files : Files T) (path : Path) (value : T) (time : Nat) : Prop :=
  path.isCandidate ∧ files path = some ⟨.text value, time⟩

def Newest (files : Files T) (path : Path) (value : T) (time : Nat) : Prop :=
  Valid files path value time ∧ ∀ path' value' time', Valid files path' value' time' → time' ≤ time

/-- What a load may find is `ok`; `kept` says that it will find something. -/
def Sound (ok : T → Prop) (kept : Prop) (files : Files T) : Prop :=
  match files .live with
  | some file => ∃ value, file.content = .text value ∧ ok value
  | none => (kept → ∃ path value time, Valid files path value time) ∧
      ∀ path value time, Newest files path value time → ok value

section Sound

variable {ok ok' : T → Prop} {kept kept' : Prop} {files : Files T} {value : T}

theorem Sound.mono (sound : Sound ok kept files) (oks : ∀ value, ok value → ok' value)
    (keeps : kept' → kept) : Sound ok' kept' files := by
  unfold Sound at *
  cases live : files .live with
  | some file =>
    simp only [live] at sound ⊢
    obtain ⟨value, content, isOk⟩ := sound
    exact ⟨value, content, oks value isOk⟩
  | none =>
    simp only [live] at sound ⊢
    refine ⟨fun isKept => sound.1 (keeps isKept), ?_⟩
    exact fun path value time newest => oks value (sound.2 path value time newest)

theorem Sound.of_live (live : (files .live).map (·.content) = some (.text value)) (isOk : ok value) :
    Sound ok kept files := by
  obtain ⟨file, found, content⟩ := Option.map_eq_some_iff.1 live
  unfold Sound
  rw [found]
  exact ⟨value, content, isOk⟩

theorem Sound.live (sound : Sound ok kept files) (present : files .live = some file) :
    ∃ value, file.content = .text value ∧ ok value := by
  unfold Sound at sound
  rwa [present] at sound

theorem Sound.missing (sound : Sound ok kept files) (absent : files .live = none) :
    (kept → ∃ path value time, Valid files path value time) ∧
      ∀ path value time, Newest files path value time → ok value := by
  unfold Sound at sound
  rwa [absent] at sound

/-- A temporary that is torn or holds `value` changes no more than that `value` may be found. -/
theorem Sound.temporary {id : Nat}
    (sound : Sound ok kept (Function.update files (.temporary id) none))
    (holds : ∀ file, files (.temporary id) = some file → file.content = .torn ∨ file.content = .text value) :
    Sound (fun found => ok found ∨ found = value) kept files := by
  have other : Function.update files (.temporary id) none .live = files .live := by
    simp
  have validIff : ∀ path value time, path ≠ .temporary id →
      (Valid (Function.update files (.temporary id) none) path value time ↔ Valid files path value time) := by
    intro path value time different
    simp [Valid, different]
  unfold Sound at *
  rw [other] at sound
  cases live : files .live with
  | some file =>
    simp only [live] at sound ⊢
    obtain ⟨found, content, isOk⟩ := sound
    exact ⟨found, content, Or.inl isOk⟩
  | none =>
    simp only [live] at sound ⊢
    constructor
    · intro isKept
      obtain ⟨path, found, time, valid⟩ := sound.1 isKept
      refine ⟨path, found, time, (validIff path found time ?_).1 valid⟩
      rintro rfl
      simp [Valid] at valid
    · intro path found time newest
      by_cases same : path = .temporary id
      · subst same
        rcases holds _ newest.1.2 with torn | text
        · cases torn
        · exact Or.inr (Content.text.inj text)
      · refine Or.inl (sound.2 path found time ⟨(validIff path found time same).2 newest.1, ?_⟩)
        intro path' found' time' valid'
        apply newest.2 path' found' time'
        refine (validIff path' found' time' ?_).1 valid'
        rintro rfl
        simp [Valid] at valid'

theorem update_absent {path : Path} (absent : files path = none) :
    Function.update files path none = files := by
  rw [← absent, Function.update_eq_self]

/-- Nothing is newer than the file at `path`, which holds `value`. -/
def Fresh (files : Files T) (path : Path) (value : T) : Prop :=
  ∃ time, files path = some ⟨.text value, time⟩ ∧
    ∀ other file, other ≠ path → files other = some file → file.modifiedAt < time

theorem Fresh.sound (backed : Fresh files .backup value) (absent : files .live = none) (isOk : ok value) :
    Sound ok kept files := by
  obtain ⟨time, backup, newest⟩ := backed
  unfold Sound
  rw [absent]
  refine ⟨fun _ => ⟨.backup, value, time, rfl, backup⟩, ?_⟩
  intro path found time' ⟨⟨isCandidate, holds⟩, latest⟩
  by_cases same : path = .backup
  · subst same
    rw [backup] at holds
    cases holds
    exact isOk
  · have older := newest path _ same holds
    have later := latest .backup value time ⟨rfl, backup⟩
    simp only at older
    omega

end Sound

/-- Only the directory has changed. -/
structure Aside (s s' : State T) : Prop where
  data : s'.data = s.data
  writing : s'.writing = s.writing
  written : s'.written = s.written

theorem Aside.refl (s : State T) : Aside s s := ⟨rfl, rfl, rfl⟩

theorem Aside.trans {s s' s'' : State T} (first : Aside s s') (second : Aside s' s'') : Aside s s'' :=
  ⟨second.data.trans first.data, second.writing.trans first.writing, second.written.trans first.written⟩

/-- Operations that touch none of the `kept` files nor anything outside the directory. -/
def Op.avoids (kept : Set Path) (op : Op T) : Prop :=
  match op with
  | .file op => ∀ path ∈ kept, ¬ op.touches path
  | .randomUUID => True
  | .afterWrite => True
  | _ => False

structure Framed (kept : Set Path) (s s' : State T) : Prop where
  aside : Aside s s'
  timed : s'.directory.Timed
  files : ∀ path ∈ kept, s'.files path = s.files path

theorem Framed.refl {kept : Set Path} {s : State T} (timed : s.directory.Timed) : Framed kept s s :=
  ⟨.refl s, timed, fun _ _ => rfl⟩

theorem Framed.effect {kept : Set Path} {s s' : State T} {op : Op T} (framed : Framed kept s s')
    (avoids : op.avoids kept) (extent : Extent) : Framed kept s (effect op extent s') := by
  cases op with
  | file op =>
    refine ⟨framed.aside.trans ⟨rfl, rfl, rfl⟩, op.effect_timed extent framed.timed, ?_⟩
    intro path isKept
    exact (op.effect_get extent s'.directory (avoids path isKept)).trans (framed.files path isKept)
  | randomUUID => cases extent <;> exact framed
  | afterWrite => cases extent <;> exact framed
  | getData => cases avoids
  | setData value => cases avoids
  | begin value => cases avoids
  | acknowledge => cases avoids

/-- A program keeps the files that none of its operations touches. -/
theorem framed_wp {kept : Set Path} {s : State T} {p : Store T α}
    {allowed : Op T → Fault Errno → State T → Prop} (uses : p.Uses (Op.avoids kept))
    (timed : s.directory.Timed) :
    wp (device T) allowed (Framed kept s) p (fun _ => Framed kept s) s :=
  wp_uses uses (fun _ fault _ avoids framed => framed.effect avoids fault.extent) (.refl timed)

section Avoids

variable {T : Type} {kept : Set Path}

theorem orThrow_avoids (reply : Except Errno α) : (orThrow reply : Store T α).Uses (Op.avoids kept) := by
  cases reply with
  | ok value => exact .done value
  | error code => exact .throw _

theorem call_avoids {op : FileOp Path T} (avoids : ∀ path ∈ kept, ¬ op.touches path)
    (next : op.Reply → Store T α) (rest : ∀ reply, (next reply).Uses (Op.avoids kept)) :
    (Program.call (.file op) next : Store T α).Uses (Op.avoids kept) :=
  .call _ _ avoids rest

/-- An operation on one file. -/
theorem callOne_avoids {op : FileOp Path T} {target : Path} (one : ∀ path, op.touches path → path = target)
    (outside : target ∉ kept) (next : op.Reply → Store T α)
    (rest : ∀ reply, (next reply).Uses (Op.avoids kept)) :
    (Program.call (.file op) next : Store T α).Uses (Op.avoids kept) := by
  refine call_avoids (fun path isKept touched => outside ?_) next rest
  rw [← one path touched]
  exact isKept

theorem randomUUID_avoids : (randomUUID : Store T Nat).Uses (Op.avoids kept) :=
  .call _ _ trivial fun _ => .done _

theorem syncDirectory_avoids : (syncDirectory : Store T Unit).Uses (Op.avoids kept) := by
  refine call_avoids (fun _ _ => id) _ fun reply => ?_
  cases reply with
  | ok value => exact .done value
  | error code =>
    show Program.Uses _ (if toleratedBySyncDirectory code then _ else _)
    split
    · exact .done ()
    · exact .throw _

theorem ignoringErrors_avoids {program : Store T Unit} (uses : program.Uses (Op.avoids kept)) :
    (ignoringErrors program).Uses (Op.avoids kept) :=
  uses.catching fun _ => .done _

theorem onlyIf_avoids {condition : Bool} {program : Store T Unit} (uses : program.Uses (Op.avoids kept)) :
    (onlyIf condition program).Uses (Op.avoids kept) := by
  cases condition with
  | true => exact uses
  | false => exact .done _

theorem rm_avoids {path : Path} (outside : path ∉ kept) : (rm path : Store T Unit).Uses (Op.avoids kept) :=
  callOne_avoids (fun _ => id) outside _ orThrow_avoids

theorem rename_avoids {source target : Path} (source_outside : source ∉ kept) (outside : target ∉ kept) :
    (rename source target : Store T Unit).Uses (Op.avoids kept) := by
  refine call_avoids (fun other isKept touched => ?_) _ orThrow_avoids
  rcases touched with same | same
  · exact source_outside (same ▸ isKept)
  · exact outside (same ▸ isKept)

theorem decode_avoids (path : Path) : (decode path : Store T (Decoded T)).Uses (Op.avoids kept) := by
  refine Program.Uses.bind (call_avoids (fun _ _ => id) _ orThrow_avoids) fun modifiedAt => ?_
  refine Program.Uses.bind (call_avoids (fun _ _ => id) _ orThrow_avoids) fun content => ?_
  cases content with
  | text value => exact .done _
  | torn => exact .throw _

theorem syncFile_avoids {path : Path} (outside : path ∉ kept) :
    (syncFile path : Store T Unit).Uses (Op.avoids kept) := by
  refine Program.Uses.bind (call_avoids (fun _ _ => id) _ orThrow_avoids) fun _ => ?_
  refine Program.Uses.finally_ ?_ ?_
  · exact callOne_avoids (fun _ => id) outside _ orThrow_avoids
  · exact call_avoids (fun _ _ => id) _ orThrow_avoids

theorem copyFile_avoids {source target : Path} (outside : target ∉ kept) :
    (copyFile source target : Store T Unit).Uses (Op.avoids kept) :=
  callOne_avoids (fun _ => id) outside _ orThrow_avoids

theorem unlessMissing_avoids (result : Except StoreError α) :
    (unlessMissing result : Store T Bool).Uses (Op.avoids kept) := by
  unfold unlessMissing
  split
  · exact .done _
  · exact .done _
  · exact .throw _

end Avoids

end JsonStore
