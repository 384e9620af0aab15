import MaterialEmail.Library.ContentLine

/-! Percent-encoding of texts: what is not a plain character stands as the bytes of its UTF-8 form. -/
namespace Uri

open JsString ContentLine

def hexDigit (value : Nat) : UInt16 := UInt16.ofNat (if value < 10 then 48 + value else 55 + value)

def hexValue (unit : UInt16) : Option Nat :=
  if 48 ≤ unit ∧ unit ≤ 57 then some (unit.toNat - 48)
  else if 65 ≤ unit ∧ unit ≤ 70 then some (unit.toNat - 55)
  else if 97 ≤ unit ∧ unit ≤ 102 then some (unit.toNat - 87)
  else none

/-- The bytes of a code point in UTF-8. -/
def utf8 (point : Nat) : List Nat :=
  if point < 0x80 then [point]
  else if point < 0x800 then [0xC0 + point / 64, 0x80 + point % 64]
  else if point < 0x10000 then [0xE0 + point / 4096, 0x80 + point / 64 % 64, 0x80 + point % 64]
  else [0xF0 + point / 262144, 0x80 + point / 4096 % 64, 0x80 + point / 64 % 64, 0x80 + point % 64]

/-- The units of a code point in UTF-16. -/
def utf16 (point : Nat) : JsString :=
  if point < 0x10000 then [UInt16.ofNat point]
  else [UInt16.ofNat (0xD800 + (point - 0x10000) / 1024), UInt16.ofNat (0xDC00 + (point - 0x10000) % 1024)]

/-- The code point of a surrogate pair. -/
def pairPoint (high low : UInt16) : Nat := 0x10000 + (high.toNat - 0xD800) * 1024 + (low.toNat - 0xDC00)

/-- A unit that stands for itself, or a byte that is percent-encoded. -/
inductive Token where
  | unit (unit : UInt16)
  | byte (byte : Nat)

def tokens : JsString → Option (List Token)
  | 37 :: high :: low :: rest => do
    let byte := 16 * (← hexValue high) + (← hexValue low)
    return .byte byte :: (← tokens rest)
  | unit :: rest => if unit = 37 then none else (tokens rest).map (.unit unit :: ·)
  | [] => some []

def isTail (byte : Nat) : Bool := 0x80 ≤ byte && byte ≤ 0xBF

/-- The text of tokens whose bytes are well-formed UTF-8. -/
def assemble : List Token → Option JsString
  | [] => some []
  | .unit unit :: rest => (assemble rest).map (unit :: ·)
  | .byte a :: rest =>
    if a < 0x80 then (assemble rest).map (utf16 a ++ ·)
    else match rest with
      | .byte b :: rest =>
        if 0xC2 ≤ a ∧ a ≤ 0xDF ∧ isTail b then
          (assemble rest).map (utf16 ((a - 0xC0) * 64 + (b - 0x80)) ++ ·)
        else match rest with
          | .byte c :: rest =>
            if 0xE0 ≤ a ∧ a ≤ 0xEF ∧ isTail b ∧ isTail c ∧ (a = 0xE0 → 0xA0 ≤ b) ∧ (a = 0xED → b ≤ 0x9F) then
              (assemble rest).map (utf16 ((a - 0xE0) * 4096 + (b - 0x80) * 64 + (c - 0x80)) ++ ·)
            else match rest with
              | .byte d :: rest =>
                if 0xF0 ≤ a ∧ a ≤ 0xF4 ∧ isTail b ∧ isTail c ∧ isTail d ∧ (a = 0xF0 → 0x90 ≤ b) ∧ (a = 0xF4 → b ≤ 0x8F) then
                  (assemble rest).map (utf16 ((a - 0xF0) * 262144 + (b - 0x80) * 4096 + (c - 0x80) * 64 + (d - 0x80)) ++ ·)
                else none
              | _ => none
          | _ => none
      | _ => none

def decodeURIComponent (text : JsString) : Option JsString := (tokens text).bind assemble

section RoundTrip

variable {rest : JsString}

theorem hexValue_hexDigit {value : Nat} (small : value < 16) : hexValue (hexDigit value) = some value := by
  revert value
  decide

/-- A code point that is not half of a surrogate pair. -/
def IsScalar (point : Nat) : Prop := point < 0xD800 ∨ (0xE000 ≤ point ∧ point < 0x110000)

theorem utf8_small {point : Nat} (scalar : IsScalar point) : ∀ byte ∈ utf8 point, byte < 256 := by
  unfold IsScalar at scalar
  unfold utf8
  intro byte member
  split at member
  · simp only [List.mem_singleton] at member
    omega
  · split at member
    · simp only [List.mem_cons, List.not_mem_nil, or_false] at member
      omega
    · split at member
      · simp only [List.mem_cons, List.not_mem_nil, or_false] at member
        omega
      · simp only [List.mem_cons, List.not_mem_nil, or_false] at member
        omega

theorem utf16_unit {unit : UInt16} : utf16 unit.toNat = [unit] := by
  unfold utf16
  rw [if_pos unit.toNat_lt, UInt16.ofNat_toNat]

theorem utf16_pair {high low : UInt16} (isHigh : isHighSurrogate high = true) (isLow : isLowSurrogate low = true) :
    utf16 (pairPoint high low) = [high, low] ∧ IsScalar (pairPoint high low) := by
  simp only [isHighSurrogate, isLowSurrogate, Bool.and_eq_true, decide_eq_true_eq, UInt16.le_iff_toNat_le,
    UInt16.reduceToNat] at isHigh isLow
  have first : 0xD800 + (pairPoint high low - 0x10000) / 1024 = high.toNat := by
    unfold pairPoint
    omega
  have second : 0xDC00 + (pairPoint high low - 0x10000) % 1024 = low.toNat := by
    unfold pairPoint
    omega
  have big : ¬ pairPoint high low < 0x10000 := by
    unfold pairPoint
    omega
  constructor
  · unfold utf16
    rw [if_neg big, first, second, UInt16.ofNat_toNat, UInt16.ofNat_toNat]
  · unfold IsScalar pairPoint
    omega

theorem scalar_unit {unit : UInt16} (single : ¬ (isHighSurrogate unit || isLowSurrogate unit) = true) :
    IsScalar unit.toNat := by
  simp only [isHighSurrogate, isLowSurrogate, Bool.or_eq_true, Bool.and_eq_true, decide_eq_true_eq,
    UInt16.le_iff_toNat_le, UInt16.reduceToNat] at single
  have := unit.toNat_lt
  unfold IsScalar
  omega

end RoundTrip

end Uri
