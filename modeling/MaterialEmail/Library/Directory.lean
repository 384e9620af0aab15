import MaterialEmail.Library.Program

/-! One directory of files as a device: names, contents that are whole or torn, and
modification times from a clock that ticks with every write. Renames and removals
are atomic; a write, a copy or an fsync that is cut short can leave a torn file. -/
namespace Interrupted

inductive Errno where
  | ENOENT | EEXIST | ENOTEMPTY | EPERM | EACCES | EBUSY | EBADF | EINVAL | EISDIR | ENOTSUP
  | EIO | ENOSPC
  deriving DecidableEq, Repr

/-- A whole file reads back as the value written; anything shorter does not parse. -/
inductive Content (χ : Type) where
  | text (value : χ)
  | torn
  deriving DecidableEq, Repr

def Content.value? : Content χ → Option χ
  | .text value => some value
  | .torn => none

structure File (χ : Type) where
  content : Content χ
  modifiedAt : Nat
  deriving DecidableEq, Repr

structure Directory (π χ : Type) where
  files : List (π × File χ)
  clock : Nat
  deriving DecidableEq, Repr

namespace Directory

variable {π χ : Type}

def names (d : Directory π χ) : List π := d.files.map (·.1)

variable [DecidableEq π]

def get (d : Directory π χ) (p : π) : Option (File χ) :=
  (d.files.find? fun entry => entry.1 = p).map (·.2)

def content (d : Directory π χ) (p : π) : Option (Content χ) := (d.get p).map (·.content)

def remove (d : Directory π χ) (p : π) : Directory π χ :=
  { d with files := d.files.filter fun entry => entry.1 ≠ p }

def put (d : Directory π χ) (p : π) (file : File χ) : Directory π χ :=
  { d with files := (p, file) :: (d.remove p).files }

/-- A new modification time for `p`, with new content. -/
def store (d : Directory π χ) (p : π) (content : Content χ) : Directory π χ :=
  { d.put p ⟨content, d.clock⟩ with clock := d.clock + 1 }

/-- An fsync that fails loses what was not yet on the medium, not the file's time. -/
def tear (d : Directory π χ) (p : π) : Directory π χ :=
  match d.get p with
  | none => d
  | some file => d.put p { file with content := .torn }

def move (d : Directory π χ) (p q : π) : Directory π χ :=
  match d.get p with
  | none => d
  | some file => (d.remove p).put q file

@[simp] theorem get_remove (d : Directory π χ) (p q : π) :
    (d.remove p).get q = if q = p then none else d.get q := by
  unfold get remove
  rw [List.find?_filter]
  split
  · rename_i same
    subst same
    rw [Option.map_eq_none_iff, List.find?_eq_none]
    simp
  · rename_i different
    congr 2
    funext entry
    by_cases h : entry.1 = q <;> simp [h, different]

@[simp] theorem get_put (d : Directory π χ) (p q : π) (file : File χ) :
    (d.put p file).get q = if q = p then some file else d.get q := by
  have other := get_remove d p q
  unfold put
  by_cases same : q = p
  · subst q; simp [get]
  · simp only [same, ↓reduceIte] at other ⊢
    rw [← other]
    simp [get, Ne.symm same]

@[simp] theorem get_store (d : Directory π χ) (p q : π) (content : Content χ) :
    (d.store p content).get q = if q = p then some ⟨content, d.clock⟩ else d.get q :=
  get_put d p q _

theorem get_move (d : Directory π χ) (p q r : π) :
    (d.move p q).get r = match d.get p with
      | none => d.get r
      | some file => if r = q then some file else if r = p then none else d.get r := by
  unfold move
  cases d.get p <;> simp

@[simp] theorem content_remove (d : Directory π χ) (p q : π) :
    (d.remove p).content q = if q = p then none else d.content q := by
  unfold content
  rw [get_remove]
  split <;> rfl

@[simp] theorem content_store (d : Directory π χ) (p q : π) (content : Content χ) :
    (d.store p content).content q = if q = p then some content else d.content q := by
  unfold Directory.content
  rw [get_store]
  split <;> rfl

theorem content_tear (d : Directory π χ) (p q : π) (present : d.content p ≠ none) :
    (d.tear p).content q = if q = p then some .torn else d.content q := by
  unfold Directory.content tear at *
  cases found : d.get p with
  | none => simp [found] at present
  | some file => simp only [get_put]; split <;> rfl

theorem content_move (d : Directory π χ) (p q r : π)
    (present : d.content p ≠ none) :
    (d.move p q).content r =
      if r = q then d.content p else if r = p then none else d.content r := by
  unfold Directory.content at *
  rw [get_move]
  cases found : d.get p with
  | none => simp [found] at present
  | some file => simp only; repeat' split
                 all_goals rfl

theorem content_eq_none (d : Directory π χ) (p : π) : d.content p = none ↔ d.get p = none := by
  simp [content]

/-- Every file is older than whatever is written next. -/
def Timed (d : Directory π χ) : Prop := ∀ p file, d.get p = some file → file.modifiedAt < d.clock

theorem Timed.remove {d : Directory π χ} (timed : d.Timed) (p : π) : (d.remove p).Timed := by
  intro q file found
  rw [get_remove] at found
  split at found
  · cases found
  · exact timed q file found

theorem Timed.put {d : Directory π χ} {file : File χ} (timed : d.Timed) (p : π)
    (older : file.modifiedAt < d.clock) : (d.put p file).Timed := by
  intro q file' found
  rw [get_put] at found
  split at found
  · cases found
    exact older
  · exact timed q file' found

theorem Timed.store {d : Directory π χ} (timed : d.Timed) (p : π) (content : Content χ) :
    (d.store p content).Timed := by
  intro q file found
  rw [get_store] at found
  have ticks : (d.store p content).clock = d.clock + 1 := rfl
  split at found
  · cases found
    simp [ticks]
  · have older := timed q file found
    omega

theorem Timed.tear {d : Directory π χ} (timed : d.Timed) (p : π) : (d.tear p).Timed := by
  unfold Directory.tear
  cases found : d.get p with
  | none => exact timed
  | some file => exact timed.put p (timed p file found)

theorem Timed.move {d : Directory π χ} (timed : d.Timed) (p q : π) : (d.move p q).Timed := by
  unfold Directory.move
  cases found : d.get p with
  | none => exact timed
  | some file => exact (timed.remove p).put q (timed p file found)

theorem mem_names (d : Directory π χ) (p : π) : p ∈ d.names ↔ (d.get p).isSome := by
  simp [names, get]

end Directory

/-- The file operations of Node that act on one directory. `openFile` truncates or creates,
`reopen` does neither. -/
inductive FileOp (π χ : Type) where
  | mkdir
  | readdir
  | stat (path : π)
  | readFile (path : π)
  | access (path : π)
  | openFile (path : π) (exclusive : Bool)
  | reopen (path : π)
  | writeFile (path : π) (value : χ)
  | sync (path : π)
  | close (path : π)
  | syncDirectory
  | rm (path : π)
  | rename (source target : π)
  | copyFile (source target : π)
  deriving DecidableEq, Repr

namespace FileOp

variable {π χ : Type}

abbrev Reply : FileOp π χ → Type
  | .readdir => Except Errno (List π)
  | .stat _ => Except Errno Nat
  | .readFile _ => Except Errno (Content χ)
  | .access _ => Bool
  | _ => Except Errno Unit

variable [DecidableEq π]

/-- What the operation has done to the directory when it got as far as `extent`. -/
def effect (op : FileOp π χ) (extent : Extent) (d : Directory π χ) : Directory π χ :=
  match op, extent with
  | _, .before => d
  | .openFile path exclusive, _ =>
    if exclusive ∧ (d.get path).isSome then d else d.store path .torn
  | .writeFile path _, .partway => d.store path .torn
  | .writeFile path value, .after => d.store path (.text value)
  | .sync path, .partway => d.tear path
  | .rm path, .after => d.remove path
  | .rename source target, .after => d.move source target
  | .copyFile source target, .partway =>
    if (d.get source).isSome then d.store target .torn else d
  | .copyFile source target, .after =>
    match d.content source with
    | none => d
    | some content => d.store target content
  | _, _ => d

def found : Option α → Except Errno α
  | none => .error .ENOENT
  | some value => .ok value

/-- The answer when nothing goes wrong outside the program. -/
def reply (op : FileOp π χ) (d : Directory π χ) : op.Reply :=
  match op with
  | .mkdir => .ok ()
  | .readdir => .ok d.names
  | .stat path => found ((d.get path).map (·.modifiedAt))
  | .readFile path => found (d.content path)
  | .access path => (d.get path).isSome
  | .openFile path exclusive => if exclusive ∧ (d.get path).isSome then .error .EEXIST else .ok ()
  | .reopen path => found ((d.get path).map fun _ => ())
  | .writeFile _ _ => .ok ()
  | .sync _ => .ok ()
  | .close _ => .ok ()
  | .syncDirectory => .ok ()
  | .rm _ => .ok ()
  | .rename source _ => found ((d.get source).map fun _ => ())
  | .copyFile source _ => found ((d.get source).map fun _ => ())

/-- The answer when the operation fails with `code`; `access` only says that it failed. -/
def refuse (op : FileOp π χ) (code : Errno) : op.Reply :=
  match op with
  | .mkdir => .error code
  | .readdir => .error code
  | .stat _ => .error code
  | .readFile _ => .error code
  | .access _ => false
  | .openFile _ _ => .error code
  | .reopen _ => .error code
  | .writeFile _ _ => .error code
  | .sync _ => .error code
  | .close _ => .error code
  | .syncDirectory => .error code
  | .rm _ => .error code
  | .rename _ _ => .error code
  | .copyFile _ _ => .error code

/-- The names an operation may bind, unbind or give new content. -/
def touches (op : FileOp π χ) (path : π) : Prop :=
  match op with
  | .openFile target _ => path = target
  | .writeFile target _ => path = target
  | .sync target => path = target
  | .rm target => path = target
  | .rename source target => path = source ∨ path = target
  | .copyFile _ target => path = target
  | _ => False

/-- A whole copy of a file that is there. -/
theorem effect_copyFile {source target : π} {d : Directory π χ} {content : Content χ}
    (present : d.content source = some content) :
    (copyFile source target).effect .after d = d.store target content := by
  simp only [effect, present]

theorem effect_timed (op : FileOp π χ) (extent : Extent) {d : Directory π χ} (timed : d.Timed) :
    (op.effect extent d).Timed := by
  cases op <;> cases extent <;> unfold effect <;> dsimp only
  all_goals first
    | exact timed
    | exact timed.store _ _
    | exact timed.tear _
    | exact timed.remove _
    | exact timed.move _ _
    | skip
  all_goals split
  all_goals first
    | exact timed
    | exact timed.store _ _

theorem effect_get (op : FileOp π χ) (extent : Extent) (d : Directory π χ) {path : π}
    (untouched : ¬ op.touches path) : (op.effect extent d).get path = d.get path := by
  cases op <;> cases extent <;> simp only [touches, not_or] at untouched <;> unfold effect <;>
    dsimp only
  all_goals first
    | rfl
    | simp [untouched]
    | skip
  all_goals first
    | (unfold Directory.tear; split <;> simp [untouched])
    | (rw [Directory.get_move]; split <;> simp [untouched])
    | (split <;> simp [untouched])

end FileOp

end Interrupted
