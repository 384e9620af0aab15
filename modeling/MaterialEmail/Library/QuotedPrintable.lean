import MaterialEmail.Library.Utf8

/-! Texts in quoted-printable: a character stands for itself, or the bytes of its UTF-8 form stand there as
two hexadecimal digits each, after an equals sign. -/
namespace QuotedPrintable

open JsString Utf8 Uri

section Encodings

/-- A digit in upper or in lower case. -/
def IsHexDigit (value : Nat) (unit : UInt16) : Prop := unit = hexDigit value ∨ unit = asciiLower (hexDigit value)

instance (value : Nat) (unit : UInt16) : Decidable (IsHexDigit value unit) := inferInstanceAs (Decidable (_ ∨ _))

/-- `=XX` for each byte. -/
inductive Escapes : List Nat → JsString → Prop where
  | nil : Escapes [] []
  | cons {byte : Nat} {bytes : List Nat} {high low : UInt16} {rest : JsString} (isHigh : IsHexDigit (byte / 16) high)
      (isLow : IsHexDigit (byte % 16) low) (others : Escapes bytes rest) :
      Escapes (byte :: bytes) (61 :: high :: low :: rest)

/-- The ways to write a text, character by character. An equals sign does not stand for itself. -/
inductive Encodes : JsString → JsString → Prop where
  | nil : Encodes [] []
  | raw {point text encoded : JsString} (whole : point.Whole) (plain : point ≠ [61]) (others : Encodes text encoded) :
      Encodes (point ++ text) (point ++ encoded)
  | escaped {point text front encoded : JsString} (whole : point.Whole) (escapes : Escapes (utf8Bytes point) front)
      (others : Encodes text encoded) : Encodes (point ++ text) (front ++ encoded)

variable {value : Nat} {unit : UInt16} {bytes : List Nat} {front point rest : JsString}

theorem hexValue_of_isHexDigit (small : value < 16) (digit : IsHexDigit value unit) : hexValue unit = some value := by
  unfold IsHexDigit at digit
  rcases digit with rfl | rfl
  · exact hexValue_hexDigit small
  · revert value
    decide

theorem isHexDigit_basic (small : value < 16) (digit : IsHexDigit value unit) : unit.toNat < 0x80 := by
  unfold IsHexDigit at digit
  rcases digit with rfl | rfl
  · revert value
    decide
  · revert value
    decide

theorem isSurrogate_of_basic (basic : unit.toNat < 0x80) : isSurrogate unit = false := by
  rw [Bool.eq_false_iff]
  intro half
  have large := surrogate_large half
  omega

theorem Escapes.plain (escapes : Escapes bytes front) (small : ∀ byte ∈ bytes, byte < 256) :
    ∀ unit ∈ front, isSurrogate unit = false := by
  induction escapes with
  | nil => simp
  | @cons byte bytes high low rest isHigh isLow others ih =>
    have here := small byte List.mem_cons_self
    have later := ih fun other member => small other (List.mem_cons_of_mem _ member)
    have first := isSurrogate_of_basic (isHexDigit_basic (by omega) isHigh)
    have second := isSurrogate_of_basic (isHexDigit_basic (by omega) isLow)
    have equals : isSurrogate 61 = false := by decide
    simp only [List.mem_cons, forall_eq_or_imp]
    exact ⟨equals, first, second, later⟩

end Encodings

section Characters

variable {unit : UInt16} {point rest : JsString}

theorem utf8Bytes_whole (whole : point.Whole) : utf8Bytes (point ++ rest) = utf8Bytes point ++ utf8Bytes rest := by
  cases whole with
  | unit unit high low =>
    cases rest with
    | nil => simp [utf8Bytes]
    | cons next others => simp [utf8Bytes, high]
  | pair high low isHigh isLow => simp [utf8Bytes, isHigh, isLow]

theorem isWellFormed_whole (whole : point.Whole) : isWellFormed (point ++ rest) = isWellFormed rest := by
  cases whole with
  | unit unit high low =>
    rw [List.singleton_append]
    exact isWellFormed_cons (by simp [isSurrogate, high, low]) rest
  | pair high low isHigh isLow => simp [isWellFormed, isHigh, isLow]

/-- The character that stands for half of a pair alone. -/
theorem whole_replacement : JsString.Whole [0xFFFD] := .unit 0xFFFD (by decide) (by decide)

theorem unitUtf8_surrogate (half : isSurrogate unit = true) : unitUtf8 unit = utf8Bytes [0xFFFD] := by
  unfold isSurrogate at half
  unfold unitUtf8
  rw [if_pos half]
  rfl

end Characters

end QuotedPrintable
