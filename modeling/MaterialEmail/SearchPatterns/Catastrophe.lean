import MaterialEmail.SearchPatterns.Model

/-! Patterns that keep the engine busy: a group that is repeated without a bound and repeats something within it,
or has two alternatives for one text. -/
namespace SearchPatterns

open JsString

/-- Where one stands in a pattern: within a character class, after a backslash. -/
structure Reading where
  inClass : Bool := false
  escaped : Bool := false
  deriving DecidableEq, Repr

def Reading.outside : Reading := {}

def Reading.read (reading : Reading) (value : UInt16) : Reading :=
  if reading.escaped then { reading with escaped := false }
  else if value = 92 then { reading with escaped := true }
  else if reading.inClass then { reading with inClass := value ≠ 93 }
  else { reading with inClass := value = 91 }

def Outside (text : JsString) : Prop := text.foldl Reading.read .outside = .outside

instance (text : JsString) : Decidable (Outside text) := inferInstanceAs (Decidable (_ = _))

/-- Parentheses that open and close groups, counted; none may close that has not been opened. -/
def readNested (reading : Reading × Nat) (value : UInt16) : Option (Reading × Nat) :=
  if reading.1 = .outside ∧ value = 40 then some (reading.1, reading.2 + 1)
  else if reading.1 = .outside ∧ value = 41 then
    match reading.2 with
    | 0 => none
    | depth + 1 => some (reading.1, depth)
  else some (reading.1.read value, reading.2)

def Balanced (text : JsString) : Prop := text.foldlM readNested (.outside, 0) = some (.outside, 0)

instance (text : JsString) : Decidable (Balanced text) := inferInstanceAs (Decidable (_ = _))

def UnboundedQuantifier (text : JsString) : Prop :=
  ∃ rest, text = 42 :: rest ∨ text = 43 :: rest ∨
    ∃ digits, digits ≠ [] ∧ (∀ unit ∈ digits, isDigit unit = true) ∧ text = 123 :: (digits ++ 44 :: 125 :: rest)

/-- What follows the parenthesis of a group, and not of a look around: nothing, a name, or flags and a colon. -/
def GroupOpening (opening : JsString) : Prop :=
  opening = [] ∨
    (∃ name, name ≠ [] ∧ (∀ unit ∈ name, unit ∉ ofString "=!>") ∧ opening = ofString "?<" ++ name ++ ofString ">") ∨
    ∃ flags, (∀ unit ∈ flags, unit ∈ ofString "ims-") ∧ opening = 63 :: (flags ++ [58])

structure RepeatedGroup (pattern before opening content after : JsString) : Prop where
  whole : pattern = before ++ 40 :: (opening ++ content ++ 41 :: after)
  outside : Outside before
  isOpening : GroupOpening opening
  plain : opening = [] → content.head? ≠ some 63
  balanced : Balanced (opening ++ content)
  repeated : UnboundedQuantifier after

def RepeatsWithin (content : JsString) : Prop :=
  ∃ front back, content = front ++ back ∧ Outside front ∧ UnboundedQuantifier back

/-- An alternative has no bar at its top level. -/
def Alternative (text : JsString) : Prop :=
  Balanced text ∧ ∀ front back, text = front ++ 124 :: back → ¬Balanced front

/-- What a part of a pattern can match, between what stands before and after it. -/
abbrev Meaning := JsString → JsString → JsString → JsString → Prop

/-- Two of the alternatives of a content can match a common text, which is not empty. -/
def SharesText (meaning : Meaning) (before content after : JsString) : Prop :=
  ∃ (earlier : List JsString) (left : JsString) (between : List JsString) (right : JsString) (later : List JsString),
    let first := earlier.flatMap (· ++ [124])
    let middle := 124 :: between.flatMap (· ++ [124])
    let last := later.flatMap (124 :: ·)
    (∀ alternative ∈ earlier ++ left :: (between ++ right :: later), Alternative alternative) ∧
      content = first ++ left ++ middle ++ right ++ last ∧
      ∃ text, text ≠ [] ∧ meaning (before ++ first) left (middle ++ right ++ last ++ after) text ∧
        meaning (before ++ first ++ left ++ middle) right (last ++ after) text

/-- A pattern with a repeated group that repeats something itself, or that has two alternatives for one text. -/
def Catastrophic (meaning : Meaning) (pattern : JsString) : Prop :=
  ∃ before opening content after, RepeatedGroup pattern before opening content after ∧
    (RepeatsWithin content ∨ SharesText meaning (before ++ 40 :: opening) content (41 :: after))

structure MustRefuse (host : Host) (meaning : Meaning) (options : MatcherOptions) : Prop where
  regex : options.mode = .regex
  short : options.pattern.length ≤ maxPatternLength
  compiles : host.compile options.pattern (normalizeFlags options.flags) = .ok ()
  catastrophic : Catastrophic meaning options.pattern

section Quantifiers

theorem takeWhile_digits {digits : JsString} (rest : JsString) (are : ∀ unit ∈ digits, isDigit unit = true) :
    (digits ++ 44 :: rest).takeWhile isDigit = digits ∧ (digits ++ 44 :: rest).dropWhile isDigit = 44 :: rest := by
  have comma : isDigit 44 = false := rfl
  constructor
  · rw [List.takeWhile_append_of_pos are, List.takeWhile_cons_of_neg (by simp [comma]), List.append_nil]
  · rw [List.dropWhile_append_of_pos are, List.dropWhile_cons_of_neg (by simp [comma])]

theorem unboundedQuantifier_iff {text : JsString} :
    (readUnboundedQuantifierEnd text).isSome = true ↔ UnboundedQuantifier text := by
  constructor
  · intro reads
    unfold readUnboundedQuantifierEnd at reads
    split at reads
    · exact ⟨_, Or.inl rfl⟩
    · exact ⟨_, Or.inr (Or.inl rfl)⟩
    · rename_i rest
      split at reads
      · cases reads
      · rename_i some
        split at reads
        · rename_i after isAfter
          refine ⟨after, Or.inr (Or.inr ⟨rest.takeWhile isDigit, some, fun unit => List.mem_takeWhile_imp, ?_⟩)⟩
          rw [← isAfter, List.takeWhile_append_dropWhile]
        · cases reads
    · cases reads
  · rintro ⟨rest, rfl | rfl | ⟨digits, nonempty, are, rfl⟩⟩
    · rfl
    · rfl
    · obtain ⟨front, back⟩ := takeWhile_digits (125 :: rest) are
      simp [readUnboundedQuantifierEnd, front, back, nonempty]

end Quantifiers

end SearchPatterns
