import Mathlib.Data.List.Basic
import Mathlib.Data.List.DropRight
import Mathlib.Data.Rat.Cast.Order

/-! Strings as sequences of UTF-16 code units, with the classes of units that patterns name. A string
may hold lone surrogates; its length counts units. -/

abbrev JsString := List UInt16

namespace JsString

instance lawful : LawfulBEq JsString := inferInstance

/-- What holds of the units of a text is decided by going through the text, not through all units. -/
instance (priority := high) decidableUnits (text : JsString) (p : UInt16 → Prop) [DecidablePred p] :
    Decidable (∀ unit ∈ text, p unit) := List.decidableBAll p text

/-- `\s`: white space and line terminators. None of these is half of a surrogate pair. -/
def isWhiteSpace (unit : UInt16) : Bool :=
  (9 ≤ unit && unit ≤ 13) || unit = 32 || unit = 0xA0 || unit = 0x1680 ||
    (0x2000 ≤ unit && unit ≤ 0x200A) || unit = 0x2028 || unit = 0x2029 || unit = 0x202F ||
    unit = 0x205F || unit = 0x3000 || unit = 0xFEFF

/-- `[\u0000-\u001f\u007f]`. -/
def isControl (unit : UInt16) : Bool := unit ≤ 31 || unit = 127

/-- `split(/\s+/).filter(Boolean)`: the runs between the white space. -/
def words (text : JsString) : List JsString :=
  (text.splitOnP isWhiteSpace).filter (· ≠ [])

theorem splitOnP_clean {p : α → Bool} {list part : List α} (member : part ∈ list.splitOnP p) :
    ∀ x ∈ part, p x = false := by
  induction list generalizing part with
  | nil =>
    rw [List.splitOnP_nil, List.mem_singleton] at member
    subst member
    simp
  | cons head tail ih =>
    rw [List.splitOnP_cons_eq_if_modifyHead] at member
    cases separates : p head with
    | true =>
      rw [separates, if_pos rfl, List.mem_cons] at member
      rcases member with rfl | later
      · simp
      · exact ih later
    | false =>
      rw [separates, if_neg Bool.false_ne_true] at member
      cases parts : tail.splitOnP p with
      | nil => exact absurd parts (List.splitOnP_ne_nil p tail)
      | cons first rest =>
        rw [parts, List.modifyHead_cons, List.mem_cons] at member
        rcases member with rfl | later
        · intro x isIn
          rcases List.mem_cons.1 isIn with rfl | inFirst
          · exact separates
          · exact ih (parts ▸ List.mem_cons_self) x inFirst
        · exact ih (parts ▸ List.mem_cons_of_mem first later)

theorem words_clean {text word : JsString} (member : word ∈ words text) :
    word ≠ [] ∧ ∀ unit ∈ word, isWhiteSpace unit = false := by
  obtain ⟨part, nonempty⟩ := List.mem_filter.1 member
  exact ⟨by simpa using nonempty, splitOnP_clean part⟩

/-- A text of the basic plane, unit by unit. -/
def ofString (text : String) : JsString := text.toList.map fun character => UInt16.ofNat character.toNat

/-- `sort` without a comparison: by code units. -/
def sortTexts (texts : List JsString) : List JsString := texts.mergeSort fun left right => !decide (right < left)

/-- `trim`. -/
def trim (text : JsString) : JsString := (text.dropWhile isWhiteSpace).rdropWhile isWhiteSpace

/-- Neither the first nor the last unit is white space. -/
def Trimmed (text : JsString) : Prop :=
  (∀ unit ∈ text.head?, isWhiteSpace unit = false) ∧ ∀ unit ∈ text.getLast?, isWhiteSpace unit = false

theorem trim_of_trimmed {text : JsString} (trimmed : text.Trimmed) : text.trim = text := by
  have front : text.dropWhile isWhiteSpace = text := by
    cases text with
    | nil => rfl
    | cons unit rest => exact List.dropWhile_cons_of_neg (by simp [trimmed.1 unit rfl])
  unfold trim
  rw [front, List.rdropWhile_eq_self_iff]
  intro nonempty
  simp [trimmed.2 _ (List.getLast?_eq_some_getLast nonempty)]

theorem trimmed_trim (text : JsString) : text.trim.Trimmed := by
  have isPrefix : text.trim <+: text.dropWhile isWhiteSpace := List.rdropWhile_prefix _ _
  refine ⟨fun unit first => ?_, fun unit last => ?_⟩
  · have isFirst : (text.dropWhile isWhiteSpace).head? = some unit := by
      obtain ⟨rest, whole⟩ := isPrefix
      cases trimmed : text.trim with
      | nil => simp [trimmed] at first
      | cons head tail =>
        rw [← whole, trimmed]
        simpa [trimmed] using first
    have stops := List.head?_dropWhile_not isWhiteSpace text
    rw [isFirst] at stops
    simpa using stops
  · obtain ⟨nonempty, rfl⟩ := List.mem_getLast?_eq_getLast last
    have stops := List.rdropWhile_last_not isWhiteSpace (text.dropWhile isWhiteSpace) nonempty
    simpa [trim] using stops

theorem trim_trim (text : JsString) : text.trim.trim = text.trim := trim_of_trimmed (trimmed_trim text)

/-- `/[0-9]/`, with the digit. -/
def digit? (unit : UInt16) : Option Nat := if 48 ≤ unit ∧ unit ≤ 57 then some (unit.toNat - 48) else none

def isLetter (unit : UInt16) : Bool := (65 ≤ unit && unit ≤ 90) || (97 ≤ unit && unit ≤ 122)

def isAlphanumeric (unit : UInt16) : Bool := isLetter unit || (48 ≤ unit && unit ≤ 57)

def asciiLower (unit : UInt16) : UInt16 := if 65 ≤ unit ∧ unit ≤ 90 then unit + 32 else unit

def asciiUpper (unit : UInt16) : UInt16 := if 97 ≤ unit ∧ unit ≤ 122 then unit - 32 else unit

theorem upper_eq {unit : UInt16} (upper : 65 ≤ unit ∧ unit ≤ 90) : ∃ letter : Fin 26, unit = UInt16.ofNat (65 + letter) := by
  have low := UInt16.le_iff_toNat_le.1 upper.1
  have high := UInt16.le_iff_toNat_le.1 upper.2
  simp only [UInt16.reduceToNat] at low high
  refine ⟨⟨unit.toNat - 65, by omega⟩, ?_⟩
  have same : 65 + (unit.toNat - 65) = unit.toNat := by omega
  rw [same, UInt16.ofNat_toNat]

theorem asciiLower_asciiLower (unit : UInt16) : asciiLower (asciiLower unit) = asciiLower unit := by
  by_cases upper : 65 ≤ unit ∧ unit ≤ 90
  · obtain ⟨letter, rfl⟩ := upper_eq upper
    revert letter
    decide
  · have same : asciiLower unit = unit := if_neg upper
    rw [same, same]

theorem isWhiteSpace_asciiLower (unit : UInt16) : isWhiteSpace (asciiLower unit) = isWhiteSpace unit := by
  by_cases upper : 65 ≤ unit ∧ unit ≤ 90
  · obtain ⟨letter, rfl⟩ := upper_eq upper
    revert letter
    decide
  · have same : asciiLower unit = unit := if_neg upper
    rw [same]

def isHighSurrogate (unit : UInt16) : Bool := 0xD800 ≤ unit && unit ≤ 0xDBFF

def isLowSurrogate (unit : UInt16) : Bool := 0xDC00 ≤ unit && unit ≤ 0xDFFF

/-- The code points of a text, each with its units; half of a pair alone is one of them. -/
def characters : JsString → List JsString
  | high :: low :: rest =>
    if isHighSurrogate high && isLowSurrogate low then [high, low] :: characters rest
    else [high] :: characters (low :: rest)
  | [unit] => [[unit]]
  | [] => []

/-- `replace(/[…]+/gu, mark)`: each run of symbols of a class becomes one mark. -/
def replaceRuns (inClass : α → Bool) (mark : α) (inRun : Bool) : List α → List α
  | [] => []
  | symbol :: rest =>
    if inClass symbol then
      if inRun then replaceRuns inClass mark true rest else mark :: replaceRuns inClass mark true rest
    else symbol :: replaceRuns inClass mark false rest

theorem mem_replaceRuns {inClass : α → Bool} {mark symbol : α} {inRun : Bool} {symbols : List α}
    (member : symbol ∈ replaceRuns inClass mark inRun symbols) :
    symbol = mark ∨ symbol ∈ symbols ∧ inClass symbol = false := by
  induction symbols generalizing inRun with
  | nil => simp [replaceRuns] at member
  | cons first rest ih =>
    unfold replaceRuns at member
    split at member
    · split at member
      · exact (ih member).imp id fun later => ⟨List.mem_cons_of_mem _ later.1, later.2⟩
      · rcases List.mem_cons.1 member with here | later
        · exact Or.inl here
        · exact (ih later).imp id fun later => ⟨List.mem_cons_of_mem _ later.1, later.2⟩
    · rename_i outside
      rcases List.mem_cons.1 member with rfl | later
      · exact Or.inr ⟨List.mem_cons_self, by simpa using outside⟩
      · exact (ih later).imp id fun later => ⟨List.mem_cons_of_mem _ later.1, later.2⟩

/-- A code point with all of its units. -/
inductive Whole : JsString → Prop where
  | unit (unit : UInt16) (high : isHighSurrogate unit = false) (low : isLowSurrogate unit = false) : Whole [unit]
  | pair (high low : UInt16) (isHigh : isHighSurrogate high = true) (isLow : isLowSurrogate low = true) :
      Whole [high, low]

theorem mem_characters {text point : JsString} (member : point ∈ characters text) :
    (∃ unit, point = [unit]) ∨ point.Whole := by
  induction text using characters.induct with
  | case1 high low rest isPair ih =>
    rw [characters, if_pos isPair] at member
    rcases List.mem_cons.1 member with rfl | later
    · rw [Bool.and_eq_true] at isPair
      exact Or.inr (.pair high low isPair.1 isPair.2)
    · exact ih later
  | case2 high low rest single ih =>
    rw [characters, if_neg single] at member
    rcases List.mem_cons.1 member with rfl | later
    · exact Or.inl ⟨high, rfl⟩
    · exact ih later
  | case3 unit => exact Or.inl ⟨unit, by simpa [characters] using member⟩
  | case4 => simp [characters] at member

def PartsPair (front back : JsString) : Prop :=
  (∃ high ∈ front.getLast?, isHighSurrogate high = true) ∧ ∃ low ∈ back.head?, isLowSurrogate low = true

theorem characters_append {front back : JsString} (clean : ¬ PartsPair front back) :
    characters (front ++ back) = characters front ++ characters back := by
  induction front using characters.induct with
  | case1 high low rest isPair ih =>
    have rest := ih fun parts => clean <| by
      obtain ⟨⟨unit, last, isHigh⟩, next⟩ := parts
      refine ⟨⟨unit, ?_, isHigh⟩, next⟩
      cases rest with
      | nil => cases last
      | cons _ _ => exact last
    rw [List.cons_append, List.cons_append, characters, if_pos isPair, characters, if_pos isPair, rest,
      List.cons_append]
  | case2 high low rest single ih =>
    have rest := ih fun parts => clean <| by
      obtain ⟨⟨unit, last, isHigh⟩, next⟩ := parts
      exact ⟨⟨unit, last, isHigh⟩, next⟩
    rw [List.cons_append, List.cons_append, characters, if_neg single, characters, if_neg single]
    exact congrArg _ rest
  | case3 unit =>
    cases back with
    | nil => rfl
    | cons next back =>
      have single : ¬ (isHighSurrogate unit && isLowSurrogate next) = true := fun isPair => by
        rw [Bool.and_eq_true] at isPair
        exact clean ⟨⟨unit, rfl, isPair.1⟩, next, rfl, isPair.2⟩
      change characters (unit :: next :: back) = [unit] :: characters (next :: back)
      rw [characters, if_neg single]
  | case4 => rfl

theorem characters_whole {points : List JsString} (whole : ∀ point ∈ points, point.Whole) :
    characters points.flatten = points := by
  induction points with
  | nil => rfl
  | cons point points ih =>
    have rest := ih fun other member => whole other (List.mem_cons_of_mem _ member)
    rw [List.flatten_cons]
    cases whole point List.mem_cons_self with
    | unit unit high low =>
      have clean : ¬ PartsPair [unit] points.flatten := by
        rintro ⟨⟨last, isLast, isHigh⟩, _⟩
        obtain rfl : unit = last := by simpa using isLast
        simp [high] at isHigh
      rw [characters_append clean, rest]
      rfl
    | pair high low isHigh isLow =>
      change characters (high :: low :: points.flatten) = _
      rw [characters, if_pos (by rw [isHigh, isLow]; rfl), rest]

end JsString

/-- The mapping of letters to lower and to upper case. What is used of it are its values on the letters
of the basic alphabet and these laws. -/
structure LetterCase where
  lower : JsString → JsString
  upper : JsString → JsString
  lower_ascii : ∀ text : JsString, (∀ unit ∈ text, unit < 128) → lower text = text.map JsString.asciiLower
  upper_ascii : ∀ text : JsString, (∀ unit ∈ text, unit < 128) → upper text = text.map JsString.asciiUpper
  lower_lower : ∀ text, lower (lower text) = lower text
  lower_trimmed : ∀ text : JsString, text.Trimmed → (lower text).Trimmed

open JsString in
/-- The mapping that changes only the letters of the basic alphabet. -/
def LetterCase.ascii : LetterCase where
  lower := List.map asciiLower
  upper := List.map asciiUpper
  lower_ascii := fun _ _ => rfl
  upper_ascii := fun _ _ => rfl
  lower_lower := by simp [asciiLower_asciiLower]
  lower_trimmed := by
    intro text trimmed
    constructor
    · simpa [isWhiteSpace_asciiLower] using trimmed.1
    · simpa [isWhiteSpace_asciiLower] using trimmed.2
/-- A finite number of a program, taken exactly, or one of the infinities. -/
inductive JsNumber where
  | finite (value : Rat)
  | infinite (negative : Bool)
  deriving DecidableEq

/-- `Number.isInteger`, with the integer. -/
def JsNumber.toInt? : JsNumber → Option Int
  | .finite value => if value.den = 1 then some value.num else none
  | .infinite _ => none

/-- `Math.min`, for a bound that is finite. -/
def JsNumber.min (value : JsNumber) (bound : Nat) : JsNumber :=
  match value with
  | .finite value => .finite (if value ≤ bound then value else bound)
  | .infinite negative => if negative then .infinite true else .finite bound
