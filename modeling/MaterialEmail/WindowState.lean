import Mathlib.Data.Rat.Floor
import Mathlib.Tactic.Linarith
import MaterialEmail.Library.JsValue

/-! The window that is opened again: what is accepted of a saved state, and where the window stands on the displays
that there are now. -/
namespace WindowState

open JsString

def windowStateSchemaVersion : JsNumber := .finite 1
def windowMinWidth : Int := 760
def windowMinHeight : Int := 560
def windowDefaultWidth : Int := 1500
def windowDefaultHeight : Int := 940

section Parsing

/-- Bounds may have no position, but not half of one. -/
structure WindowBounds where
  position : Option (Int × Int)
  width : Int
  height : Int
  deriving DecidableEq

def CoordinateFits (value : Int) : Prop := -1000000 ≤ value ∧ value ≤ 1000000

/-- What is stored has passed these checks. -/
structure BoundsFit (bounds : WindowBounds) : Prop where
  width : windowMinWidth ≤ bounds.width ∧ bounds.width ≤ 32768
  height : windowMinHeight ≤ bounds.height ∧ bounds.height ≤ 32768
  position : ∀ x y, bounds.position = some (x, y) → CoordinateFits x ∧ CoordinateFits y

structure PersistedWindowState where
  bounds : WindowBounds
  maximized : Bool
  fit : BoundsFit bounds

/-- An integer within bounds. -/
def finiteInteger (value : JsValue) (minimum maximum : Int) : Option { value : Int // minimum ≤ value ∧ value ≤ maximum } :=
  match value with
  | .number value =>
    value.toInt?.bind fun value =>
      if within : minimum ≤ value ∧ value ≤ maximum then some ⟨value, within⟩ else none
  | _ => none

/-- A coordinate that may be left out. -/
def coordinate (value : JsValue) : Option (Option { value : Int // CoordinateFits value }) :=
  if value.isUndefined then some none else (finiteInteger value (-1000000) 1000000).map some

def parseBounds (bounds : JsValue) : Except String { bounds : WindowBounds // BoundsFit bounds } :=
  match finiteInteger (bounds.get (ofString "width")) windowMinWidth 32768,
    finiteInteger (bounds.get (ofString "height")) windowMinHeight 32768,
    coordinate (bounds.get (ofString "x")), coordinate (bounds.get (ofString "y")) with
  | some width, some height, some none, some none =>
    .ok ⟨⟨none, width, height⟩, width.2, height.2, fun _ _ is => nomatch is⟩
  | some width, some height, some (some x), some (some y) =>
    .ok ⟨⟨some (x, y), width, height⟩, width.2, height.2, by
      rintro _ _ ⟨⟩
      exact ⟨x.2, y.2⟩⟩
  | some _, some _, some _, some _ => .error "Window coordinates must be stored together."
  | _, _, _, _ => .error "Window bounds are outside the supported range."

def parseWindowState (value : JsValue) : Except String PersistedWindowState :=
  if !value.isObject then .error "Window state must be an object."
  else
    match value.get (ofString "schemaVersion"), value.get (ofString "maximized") with
    | .number version, .boolean maximized =>
      if version ≠ windowStateSchemaVersion then .error "Window state has an unsupported schema."
      else
        let bounds := value.get (ofString "bounds")
        if !bounds.isObject then .error "Window bounds are missing."
        else (parseBounds bounds).map fun bounds => ⟨bounds.val, maximized, bounds.property⟩
    | _, _ => .error "Window state has an unsupported schema."

end Parsing

section Resolving

structure WindowWorkArea where
  x : Int
  y : Int
  width : Int
  height : Int
  deriving DecidableEq

/-- `Required<WindowBounds>`. -/
structure PlacedBounds where
  x : Int
  y : Int
  width : Int
  height : Int
  deriving DecidableEq

/-- `Math.round`: halves go up. -/
def round (value : Rat) : Int := ⌊value + 1 / 2⌋

def overlapArea (bounds : PlacedBounds) (area : WindowWorkArea) : Int :=
  let width := max 0 (min (bounds.x + bounds.width) (area.x + area.width) - max bounds.x area.x)
  let height := max 0 (min (bounds.y + bounds.height) (area.y + area.height) - max bounds.y area.y)
  width * height

def clamp (value minimum maximum : Int) : Int := max minimum (min (max minimum maximum) value)

/-- The side by which something stands in the middle. -/
def middle (start outer inner : Int) : Int := start + round (((outer - inner : Int) : Rat) / 2)

def fallbackArea (workAreas : List WindowWorkArea) : WindowWorkArea :=
  workAreas.head?.getD ⟨0, 0, windowDefaultWidth, windowDefaultHeight⟩

/-- Where the window would stand: in the middle of an area, if it has no position. -/
def requested (bounds : WindowBounds) (area : WindowWorkArea) : PlacedBounds where
  x := (bounds.position.map (·.1)).getD (middle area.x area.width bounds.width)
  y := (bounds.position.map (·.2)).getD (middle area.y area.height bounds.height)
  width := bounds.width
  height := bounds.height

/-- The first of the areas with the largest overlap, if that is large enough. -/
def target (requested : PlacedBounds) (workAreas : List WindowWorkArea) : Option WindowWorkArea :=
  let overlaps := workAreas.map fun area => (area, overlapArea requested area)
  let ranked := overlaps.mergeSort fun left right => right.2 ≤ left.2
  (ranked.head?.filter fun first => 64 * 64 ≤ first.2).map (·.1)

/-- One coordinate, as near to the one that is wanted as the area lets it be, or in the middle. -/
def place (near : Bool) (wanted start outer inner : Int) : Int :=
  if near then clamp wanted start (start + outer - inner) else middle start outer inner

def resolveWindowBounds (state : PersistedWindowState) (workAreas : List WindowWorkArea) : PlacedBounds :=
  let requested := requested state.bounds (fallbackArea workAreas)
  let target := target requested workAreas
  let area := target.getD (fallbackArea workAreas)
  let width := clamp requested.width (min windowMinWidth area.width) area.width
  let height := clamp requested.height (min windowMinHeight area.height) area.height
  { x := place target.isSome requested.x area.x area.width width
    y := place target.isSome requested.y area.y area.height height
    width := width
    height := height }

end Resolving

section Storing

def WindowBounds.stored (bounds : WindowBounds) : JsValue :=
  let size := [(ofString "width", .number (.finite bounds.width)), (ofString "height", .number (.finite bounds.height))]
  match bounds.position with
  | none => .object size
  | some (x, y) => .object ((ofString "x", .number (.finite x)) :: (ofString "y", .number (.finite y)) :: size)

/-- The value that is written for a state. -/
def PersistedWindowState.stored (state : PersistedWindowState) : JsValue :=
  .object [
    (ofString "schemaVersion", .number windowStateSchemaVersion),
    (ofString "bounds", state.bounds.stored),
    (ofString "maximized", .boolean state.maximized)]

theorem finiteInteger_whole {value minimum maximum : Int} (within : minimum ≤ value ∧ value ≤ maximum) :
    finiteInteger (.number (.finite value)) minimum maximum = some ⟨value, within⟩ := by
  simp [finiteInteger, JsNumber.toInt?, within]

theorem coordinate_whole {value : Int} (fits : CoordinateFits value) :
    coordinate (.number (.finite value)) = some (some ⟨value, fits⟩) := by
  rw [coordinate, if_neg (by simp [JsValue.isUndefined]), finiteInteger_whole fits]
  rfl

theorem parseBounds_stored {bounds : WindowBounds} (fit : BoundsFit bounds) :
    parseBounds bounds.stored = .ok ⟨bounds, fit⟩ := by
  obtain ⟨position, width, height⟩ := bounds
  have isWidth := finiteInteger_whole fit.width
  have isHeight := finiteInteger_whole fit.height
  cases position with
  | none =>
    have atWidth : (WindowBounds.stored ⟨none, width, height⟩).get (ofString "width") = .number (.finite width) := rfl
    have atHeight : (WindowBounds.stored ⟨none, width, height⟩).get (ofString "height") = .number (.finite height) := rfl
    have atX : (WindowBounds.stored ⟨none, width, height⟩).get (ofString "x") = .undefined := rfl
    have atY : (WindowBounds.stored ⟨none, width, height⟩).get (ofString "y") = .undefined := rfl
    have absent : coordinate .undefined = some none := rfl
    rw [parseBounds, atWidth, atHeight, atX, atY, isWidth, isHeight, absent]
  | some position =>
    obtain ⟨x, y⟩ := position
    obtain ⟨fitsX, fitsY⟩ := fit.position x y rfl
    have atWidth : (WindowBounds.stored ⟨some (x, y), width, height⟩).get (ofString "width") =
      .number (.finite width) := rfl
    have atHeight : (WindowBounds.stored ⟨some (x, y), width, height⟩).get (ofString "height") =
      .number (.finite height) := rfl
    have atX : (WindowBounds.stored ⟨some (x, y), width, height⟩).get (ofString "x") = .number (.finite x) := rfl
    have atY : (WindowBounds.stored ⟨some (x, y), width, height⟩).get (ofString "y") = .number (.finite y) := rfl
    rw [parseBounds, atWidth, atHeight, atX, atY, isWidth, isHeight, coordinate_whole fitsX, coordinate_whole fitsY]

/-- Every state is accepted when it is read again. -/
theorem parse_stored (state : PersistedWindowState) : parseWindowState state.stored = .ok state := by
  have atVersion : state.stored.get (ofString "schemaVersion") = .number windowStateSchemaVersion := rfl
  have atMaximized : state.stored.get (ofString "maximized") = .boolean state.maximized := rfl
  have atBounds : state.stored.get (ofString "bounds") = state.bounds.stored := rfl
  have isObject : state.bounds.stored.isObject = true := by
    unfold WindowBounds.stored
    split <;> rfl
  have whole : state.stored.isObject = true := rfl
  rw [parseWindowState, whole, atVersion, atMaximized, atBounds]
  simp [isObject, parseBounds_stored state.fit, Except.map]

end Storing

section Placing

/-- Nothing of the window is off the area. -/
structure Inside (bounds : PlacedBounds) (area : WindowWorkArea) : Prop where
  left : area.x ≤ bounds.x
  right : bounds.x + bounds.width ≤ area.x + area.width
  top : area.y ≤ bounds.y
  bottom : bounds.y + bounds.height ≤ area.y + area.height

variable {minimum maximum start outer inner : Int}

theorem clamp_within (value : Int) (ordered : minimum ≤ maximum) :
    minimum ≤ clamp value minimum maximum ∧ clamp value minimum maximum ≤ maximum := by
  unfold clamp
  omega

theorem round_half {size : Int} (nonneg : 0 ≤ size) : 0 ≤ round ((size : Rat) / 2) ∧ round ((size : Rat) / 2) ≤ size := by
  have nonneg' : (0 : Rat) ≤ size := by exact_mod_cast nonneg
  constructor
  · exact Int.floor_nonneg.2 (by linarith)
  · refine Int.lt_add_one_iff.1 (Int.floor_lt.2 ?_)
    push_cast
    linarith

theorem middle_within (fits : inner ≤ outer) :
    start ≤ middle start outer inner ∧ middle start outer inner + inner ≤ start + outer := by
  have half := round_half (Int.sub_nonneg.2 fits)
  unfold middle
  omega

theorem target_mem {requested : PlacedBounds} {workAreas : List WindowWorkArea} {area : WindowWorkArea}
    (found : target requested workAreas = some area) : area ∈ workAreas := by
  obtain ⟨first, chosen, rfl⟩ := Option.map_eq_some_iff.1 found
  have isHead := (Option.filter_eq_some_iff.1 chosen).1
  have listed := List.mem_mergeSort.1 (List.mem_of_mem_head? isHead)
  obtain ⟨area, member, rfl⟩ := List.mem_map.1 listed
  exact member

theorem fallbackArea_mem {workAreas : List WindowWorkArea} (nonempty : workAreas ≠ []) :
    fallbackArea workAreas ∈ workAreas := by
  obtain ⟨first, others, rfl⟩ := List.exists_cons_of_ne_nil nonempty
  exact List.mem_cons_self

/-- Wherever it is put along one side, it does not stand out. -/
theorem place_within {near : Bool} {wanted : Int} (fits : inner ≤ outer) :
    start ≤ place near wanted start outer inner ∧ place near wanted start outer inner + inner ≤ start + outer := by
  unfold place
  split
  · have within : start ≤ clamp wanted start (start + outer - inner) ∧
        clamp wanted start (start + outer - inner) ≤ start + outer - inner := clamp_within _ (by omega)
    exact ⟨within.1, by omega⟩
  · exact middle_within fits

/-- A window comes back on one of the displays, whole, and as large as it must be or as the display. The numbers of a
work area are integers of 32 bits, for which the doubles of the source are exact. -/
theorem resolved_inside (state : PersistedWindowState) {workAreas : List WindowWorkArea} (nonempty : workAreas ≠ []) :
    ∃ area ∈ workAreas, Inside (resolveWindowBounds state workAreas) area ∧
      min windowMinWidth area.width ≤ (resolveWindowBounds state workAreas).width ∧
      min windowMinHeight area.height ≤ (resolveWindowBounds state workAreas).height := by
  let requested := requested state.bounds (fallbackArea workAreas)
  let area := (target requested workAreas).getD (fallbackArea workAreas)
  have member : area ∈ workAreas := by
    cases found : target requested workAreas with
    | none => simpa [area, found] using fallbackArea_mem nonempty
    | some chosen => simpa [area, found] using target_mem found
  have wide := clamp_within requested.width (min_le_right windowMinWidth area.width)
  have high := clamp_within requested.height (min_le_right windowMinHeight area.height)
  obtain ⟨left, right⟩ := place_within wide.2
  obtain ⟨top, bottom⟩ := place_within high.2
  exact ⟨area, member, ⟨left, right, top, bottom⟩, wide.1, high.1⟩

/-- A window that was on a display which is gone. -/
def leftBehind : PersistedWindowState :=
  ⟨⟨some (2400, -700), 1500, 940⟩, false, by decide, by decide, by
    rintro _ _ ⟨⟩
    exact ⟨⟨by decide, by decide⟩, by decide, by decide⟩⟩

theorem leftBehind_inside : ∃ area ∈ [⟨0, 0, 1024, 500⟩, ⟨-1280, 0, 1280, 1024⟩],
    Inside (resolveWindowBounds leftBehind [⟨0, 0, 1024, 500⟩, ⟨-1280, 0, 1280, 1024⟩]) area ∧
      min windowMinWidth area.width ≤
        (resolveWindowBounds leftBehind [⟨0, 0, 1024, 500⟩, ⟨-1280, 0, 1280, 1024⟩]).width ∧
      min windowMinHeight area.height ≤
        (resolveWindowBounds leftBehind [⟨0, 0, 1024, 500⟩, ⟨-1280, 0, 1280, 1024⟩]).height :=
  resolved_inside leftBehind (List.cons_ne_nil _ _)

end Placing

end WindowState
