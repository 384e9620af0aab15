import MaterialEmail.Library.Uri
import Mathlib.Data.List.Forall2
import Mathlib.Data.List.GetD

/-! The bytes of a text in UTF-8, and of bytes in base64url. Bytes below 128 stand for the unit of the same
value and for nothing else. -/
namespace Utf8

open JsString Uri ContentLine

def unitUtf8 (unit : UInt16) : List Nat :=
  if isHighSurrogate unit || isLowSurrogate unit then utf8 0xFFFD else utf8 unit.toNat

/-- `Buffer.from(text, "utf8")`: half of a surrogate pair alone is written as U+FFFD. -/
def utf8Bytes : JsString → List Nat
  | high :: low :: rest =>
    if isHighSurrogate high && isLowSurrogate low then utf8 (pairPoint high low) ++ utf8Bytes rest
    else unitUtf8 high ++ utf8Bytes (low :: rest)
  | [unit] => unitUtf8 unit
  | [] => []

theorem utf8_of_small {point : Nat} (small : point < 0x80) : utf8 point = [point] := if_pos small

/-- Other code points are written in bytes from 128 on. -/
theorem le_of_mem_utf8 {point byte : Nat} (large : 0x80 ≤ point) (member : byte ∈ utf8 point) : 0x80 ≤ byte := by
  unfold utf8 at member
  split at member
  · omega
  · split at member
    · simp only [List.mem_cons, List.not_mem_nil, or_false] at member
      omega
    · split at member <;> simp only [List.mem_cons, List.not_mem_nil, or_false] at member <;> omega

theorem utf8_ne_nil (point : Nat) : utf8 point ≠ [] := by
  unfold utf8
  split
  · simp
  · split
    · simp
    · split <;> simp

theorem surrogate_large {unit : UInt16} (surrogate : (isHighSurrogate unit || isLowSurrogate unit) = true) :
    0x80 ≤ unit.toNat := by
  simp only [isHighSurrogate, isLowSurrogate, Bool.or_eq_true, Bool.and_eq_true, decide_eq_true_eq,
    UInt16.le_iff_toNat_le, UInt16.reduceToNat] at surrogate
  omega

theorem unitUtf8_of_small {unit : UInt16} (small : unit.toNat < 0x80) : unitUtf8 unit = [unit.toNat] := by
  have plain : (isHighSurrogate unit || isLowSurrogate unit) ≠ true := fun surrogate => by
    have := surrogate_large surrogate
    omega
  rw [unitUtf8, if_neg plain, utf8_of_small small]

theorem le_of_mem_unitUtf8 {unit : UInt16} {byte : Nat} (large : 0x80 ≤ unit.toNat) (member : byte ∈ unitUtf8 unit) :
    0x80 ≤ byte := by
  unfold unitUtf8 at member
  split at member
  · exact le_of_mem_utf8 (by omega) member
  · exact le_of_mem_utf8 large member

theorem unitUtf8_ne_nil (unit : UInt16) : unitUtf8 unit ≠ [] := by
  unfold unitUtf8
  split <;> exact utf8_ne_nil _

theorem le_pairPoint (high low : UInt16) : 0x80 ≤ pairPoint high low := by
  unfold pairPoint
  omega

theorem utf8Bytes_cons {unit : UInt16} (small : unit.toNat < 0x80) (rest : JsString) :
    utf8Bytes (unit :: rest) = unit.toNat :: utf8Bytes rest := by
  cases rest with
  | nil => exact unitUtf8_of_small small
  | cons next rest =>
    have single : ¬ (isHighSurrogate unit && isLowSurrogate next) = true := fun pair => by
      rw [Bool.and_eq_true] at pair
      have large : 0x80 ≤ unit.toNat := surrogate_large (by rw [pair.1]; rfl)
      omega
    rw [utf8Bytes, if_neg single, unitUtf8_of_small small]
    rfl

/-- A text may be cut before a unit below 128. -/
theorem utf8Bytes_append {unit : UInt16} (small : unit.toNat < 0x80) (front rest : JsString) :
    utf8Bytes (front ++ unit :: rest) = utf8Bytes front ++ utf8Bytes (unit :: rest) := by
  induction front using utf8Bytes.induct with
  | case1 high low tail pair ih =>
    rw [utf8Bytes, if_pos pair, List.append_assoc, ← ih]
    exact if_pos pair
  | case2 high low tail single ih =>
    rw [utf8Bytes, if_neg single, List.append_assoc, ← ih]
    exact if_neg single
  | case3 high =>
    refine if_neg fun pair => ?_
    rw [Bool.and_eq_true] at pair
    have large : 0x80 ≤ unit.toNat := surrogate_large (by rw [pair.2, Bool.or_true])
    omega
  | case4 => rfl

theorem eq_of_mem_unitUtf8 {unit : UInt16} {byte : Nat} (small : byte < 0x80) (member : byte ∈ unitUtf8 unit) :
    unit.toNat = byte := by
  by_cases large : 0x80 ≤ unit.toNat
  · exact absurd (le_of_mem_unitUtf8 large member) (Nat.not_le.2 small)
  · rw [unitUtf8_of_small (Nat.not_le.1 large), List.mem_singleton] at member
    exact member.symm

/-- A byte below 128 is a unit of the text. -/
theorem exists_of_mem_utf8Bytes {text : JsString} {byte : Nat} (small : byte < 0x80) (member : byte ∈ utf8Bytes text) :
    ∃ unit ∈ text, unit.toNat = byte := by
  induction text using utf8Bytes.induct with
  | case1 high low tail pair ih =>
    rw [utf8Bytes, if_pos pair, List.mem_append] at member
    rcases member with here | later
    · exact absurd (le_of_mem_utf8 (le_pairPoint high low) here) (Nat.not_le.2 small)
    · obtain ⟨unit, isIn, same⟩ := ih later
      exact ⟨unit, List.mem_cons_of_mem _ (List.mem_cons_of_mem _ isIn), same⟩
  | case2 high low tail single ih =>
    rw [utf8Bytes, if_neg single, List.mem_append] at member
    rcases member with here | later
    · exact ⟨high, List.mem_cons_self, eq_of_mem_unitUtf8 small here⟩
    · obtain ⟨unit, isIn, same⟩ := ih later
      exact ⟨unit, List.mem_cons_of_mem _ isIn, same⟩
  | case3 unit => exact ⟨unit, List.mem_cons_self, eq_of_mem_unitUtf8 small member⟩
  | case4 => cases member

def base64UrlAlphabet : JsString := ofString "ABCDEFGHIJKLMNOPQRSTUVWXYZabcdefghijklmnopqrstuvwxyz0123456789-_"

def base64UrlDigit (value : Nat) : UInt16 := base64UrlAlphabet.getD value 0

/-- `toString("base64url")`. -/
def base64Url : List UInt8 → JsString
  | a :: b :: c :: rest =>
    [base64UrlDigit (a.toNat / 4), base64UrlDigit (a.toNat % 4 * 16 + b.toNat / 16),
      base64UrlDigit (b.toNat % 16 * 4 + c.toNat / 64), base64UrlDigit (c.toNat % 64)] ++ base64Url rest
  | [a, b] =>
    [base64UrlDigit (a.toNat / 4), base64UrlDigit (a.toNat % 4 * 16 + b.toNat / 16), base64UrlDigit (b.toNat % 16 * 4)]
  | [a] => [base64UrlDigit (a.toNat / 4), base64UrlDigit (a.toNat % 4 * 16)]
  | [] => []

/-- A sequence of bytes that has begun: how many bytes are still to come, the bits so far, and what the next byte may be. -/
structure Sequence where
  left : Nat
  point : Nat
  lower : UInt8
  upper : UInt8

/-- What the first byte of a character gives, or the sequence that it begins. -/
def lead (byte : UInt8) : JsString × Option Sequence :=
  if byte < 0x80 then ([UInt16.ofNat byte.toNat], none)
  else if 0xC2 ≤ byte ∧ byte ≤ 0xDF then ([], some ⟨1, byte.toNat % 32, 0x80, 0xBF⟩)
  else if 0xE0 ≤ byte ∧ byte ≤ 0xEF then
    ([], some ⟨2, byte.toNat % 16, if byte = 0xE0 then 0xA0 else 0x80, if byte = 0xED then 0x9F else 0xBF⟩)
  else if 0xF0 ≤ byte ∧ byte ≤ 0xF4 then
    ([], some ⟨3, byte.toNat % 8, if byte = 0xF0 then 0x90 else 0x80, if byte = 0xF4 then 0x8F else 0xBF⟩)
  else ([0xFFFD], none)

def decodeFrom : Option Sequence → List UInt8 → JsString
  | none, [] => []
  | some _, [] => [0xFFFD]
  | none, byte :: bytes => (lead byte).1 ++ decodeFrom (lead byte).2 bytes
  | some sequence, byte :: bytes =>
    if sequence.lower ≤ byte ∧ byte ≤ sequence.upper then
      let point := sequence.point * 64 + byte.toNat % 64
      if sequence.left ≤ 1 then utf16 point ++ decodeFrom none bytes
      else decodeFrom (some ⟨sequence.left - 1, point, 0x80, 0xBF⟩) bytes
    -- The byte that breaks a sequence off is looked at again as the first of a character.
    else 0xFFFD :: ((lead byte).1 ++ decodeFrom (lead byte).2 bytes)

/-- `toString("utf8")`. -/
def utf8Text (bytes : List UInt8) : JsString := decodeFrom none bytes

section RoundTrip

/-- `isWellFormed`: no half of a surrogate pair is alone. -/
def isWellFormed : JsString → Bool
  | high :: low :: rest =>
    if isHighSurrogate high && isLowSurrogate low then isWellFormed rest
    else !(isHighSurrogate high || isLowSurrogate high) && isWellFormed (low :: rest)
  | [unit] => !(isHighSurrogate unit || isLowSurrogate unit)
  | [] => true

theorem toNat_ofNat_byte {byte : Nat} (small : byte < 256) : (UInt8.ofNat byte).toNat = byte := by
  rw [UInt8.toNat_ofNat']
  omega

/-- A further byte of a character: the last one, or one before it. -/
theorem decodeFrom_tail {left point byte : Nat} {lower upper : UInt8} (rest : List UInt8) (small : byte < 256)
    (inside : lower.toNat ≤ byte ∧ byte ≤ upper.toNat) :
    decodeFrom (some ⟨left, point, lower, upper⟩) (UInt8.ofNat byte :: rest) =
      if left ≤ 1 then utf16 (point * 64 + byte % 64) ++ decodeFrom none rest
      else decodeFrom (some ⟨left - 1, point * 64 + byte % 64, 0x80, 0xBF⟩) rest := by
  rw [decodeFrom]
  simp only [UInt8.le_iff_toNat_le, toNat_ofNat_byte small]
  rw [if_pos inside]

theorem decodeFrom_lead {byte : UInt8} {sequence : Sequence} (begins : lead byte = ([], some sequence)) (rest : List UInt8) :
    decodeFrom none (byte :: rest) = decodeFrom (some sequence) rest := by
  rw [decodeFrom, begins]
  rfl

theorem lead_two {byte : Nat} (inside : 0xC2 ≤ byte ∧ byte ≤ 0xDF) :
    lead (UInt8.ofNat byte) = ([], some ⟨1, byte % 32, 0x80, 0xBF⟩) := by
  unfold lead
  simp only [UInt8.lt_iff_toNat_lt, UInt8.le_iff_toNat_le, toNat_ofNat_byte (show byte < 256 by omega),
    UInt8.reduceToNat]
  rw [if_neg (by omega), if_pos inside]

theorem ofNat_eq_iff {byte : Nat} {value : UInt8} (small : byte < 256) : UInt8.ofNat byte = value ↔ byte = value.toNat := by
  rw [← UInt8.toNat_inj, toNat_ofNat_byte small]

theorem lead_three {byte : Nat} (inside : 0xE0 ≤ byte ∧ byte ≤ 0xEF) :
    lead (UInt8.ofNat byte) = ([], some ⟨2, byte % 16, if byte = 0xE0 then 0xA0 else 0x80,
      if byte = 0xED then 0x9F else 0xBF⟩) := by
  have small : byte < 256 := by omega
  unfold lead
  simp only [UInt8.lt_iff_toNat_lt, UInt8.le_iff_toNat_le, toNat_ofNat_byte small, ofNat_eq_iff small,
    UInt8.reduceToNat]
  rw [if_neg (by omega), if_neg (by omega), if_pos inside]

theorem lead_four {byte : Nat} (inside : 0xF0 ≤ byte ∧ byte ≤ 0xF4) :
    lead (UInt8.ofNat byte) = ([], some ⟨3, byte % 8, if byte = 0xF0 then 0x90 else 0x80,
      if byte = 0xF4 then 0x8F else 0xBF⟩) := by
  have small : byte < 256 := by omega
  unfold lead
  simp only [UInt8.lt_iff_toNat_lt, UInt8.le_iff_toNat_le, toNat_ofNat_byte small, ofNat_eq_iff small,
    UInt8.reduceToNat]
  rw [if_neg (by omega), if_neg (by omega), if_neg (by omega), if_pos inside]

theorem decodeFrom_utf8 {point : Nat} (scalar : IsScalar point) (rest : List UInt8) :
    decodeFrom none ((utf8 point).map UInt8.ofNat ++ rest) = utf16 point ++ decodeFrom none rest := by
  unfold IsScalar at scalar
  unfold utf8
  by_cases one : point < 0x80
  · have unit : utf16 point = [UInt16.ofNat point] := if_pos (by omega)
    simp [decodeFrom, lead, UInt8.lt_iff_toNat_lt, toNat_ofNat_byte (show point < 256 by omega), one, unit]
  · rw [if_neg one]
    by_cases two : point < 0x800
    · have same : (0xC0 + point / 64) % 32 * 64 + (0x80 + point % 64) % 64 = point := by omega
      simp only [if_pos two, List.map_cons, List.map_nil, List.cons_append, List.nil_append]
      rw [decodeFrom_lead (lead_two (by omega)), decodeFrom_tail _ (by omega) (by simp only [UInt8.reduceToNat]; omega),
        if_pos (Nat.le_refl _), same]
    · rw [if_neg two]
      by_cases three : point < 0x10000
      · have same : ((0xE0 + point / 4096) % 16 * 64 + (0x80 + point / 64 % 64) % 64) * 64 +
            (0x80 + point % 64) % 64 = point := by omega
        have second : (if 0xE0 + point / 4096 = 0xE0 then (0xA0 : UInt8) else 0x80).toNat ≤ 0x80 + point / 64 % 64 ∧
            0x80 + point / 64 % 64 ≤ (if 0xE0 + point / 4096 = 0xED then (0x9F : UInt8) else 0xBF).toNat := by
          constructor <;> split <;> simp only [UInt8.reduceToNat] <;> omega
        simp only [if_pos three, List.map_cons, List.map_nil, List.cons_append, List.nil_append]
        rw [decodeFrom_lead (lead_three (by omega)), decodeFrom_tail _ (by omega) second, if_neg (by omega),
          decodeFrom_tail _ (by omega) (by simp only [UInt8.reduceToNat]; omega), if_pos (by omega), same]
      · have same : (((0xF0 + point / 262144) % 8 * 64 + (0x80 + point / 4096 % 64) % 64) * 64 +
            (0x80 + point / 64 % 64) % 64) * 64 + (0x80 + point % 64) % 64 = point := by omega
        have second : (if 0xF0 + point / 262144 = 0xF0 then (0x90 : UInt8) else 0x80).toNat ≤ 0x80 + point / 4096 % 64 ∧
            0x80 + point / 4096 % 64 ≤ (if 0xF0 + point / 262144 = 0xF4 then (0x8F : UInt8) else 0xBF).toNat := by
          constructor <;> split <;> simp only [UInt8.reduceToNat] <;> omega
        simp only [if_neg three, List.map_cons, List.map_nil, List.cons_append, List.nil_append]
        rw [decodeFrom_lead (lead_four (by omega)), decodeFrom_tail _ (by omega) second, if_neg (by omega),
          decodeFrom_tail _ (by omega) (by simp only [UInt8.reduceToNat]; omega), if_neg (by omega),
          decodeFrom_tail _ (by omega) (by simp only [UInt8.reduceToNat]; omega), if_pos (by omega), same]

/-- Well-formed texts are read back as they were written. -/
theorem utf8Text_utf8Bytes {text : JsString} (wellFormed : isWellFormed text = true) :
    utf8Text ((utf8Bytes text).map UInt8.ofNat) = text := by
  unfold utf8Text
  induction text using utf8Bytes.induct with
  | case1 high low rest pair ih =>
    rw [isWellFormed, if_pos pair] at wellFormed
    obtain ⟨isHigh, isLow⟩ := Bool.and_eq_true_iff.1 pair
    obtain ⟨units, scalar⟩ := utf16_pair isHigh isLow
    rw [utf8Bytes, if_pos pair, List.map_append, decodeFrom_utf8 scalar, units, ih wellFormed]
    rfl
  | case2 high low rest single ih =>
    rw [isWellFormed, if_neg single, Bool.and_eq_true, Bool.not_eq_true'] at wellFormed
    have alone : ¬ (isHighSurrogate high || isLowSurrogate high) = true := by simp [wellFormed.1]
    rw [utf8Bytes, if_neg single, List.map_append, unitUtf8, if_neg alone, decodeFrom_utf8 (scalar_unit alone),
      utf16_unit, ih wellFormed.2]
    rfl
  | case3 unit =>
    rw [isWellFormed, Bool.not_eq_true'] at wellFormed
    have alone : ¬ (isHighSurrogate unit || isLowSurrogate unit) = true := by simp [wellFormed]
    have decoded := decodeFrom_utf8 (scalar_unit alone) []
    rw [List.append_nil, utf16_unit] at decoded
    rw [utf8Bytes, unitUtf8, if_neg alone]
    exact decoded
  | case4 => rfl

end RoundTrip

section WellFormed

/-- Half of a surrogate pair. -/
def isSurrogate (unit : UInt16) : Bool := isHighSurrogate unit || isLowSurrogate unit

theorem isWellFormed_cons {unit : UInt16} (plain : isSurrogate unit = false) (rest : JsString) :
    isWellFormed (unit :: rest) = isWellFormed rest := by
  unfold isSurrogate at plain
  cases rest with
  | nil => simp [isWellFormed, plain]
  | cons next rest =>
    have single : ¬ (isHighSurrogate unit && isLowSurrogate next) = true := by
      rw [Bool.or_eq_false_iff] at plain
      simp [plain.1]
    rw [isWellFormed, if_neg single, plain]
    rfl

/-- A text may be cut at a unit that is not half of a pair. -/
theorem isWellFormed_append {unit : UInt16} (plain : isSurrogate unit = false) (front rest : JsString) :
    isWellFormed (front ++ unit :: rest) = (isWellFormed front && isWellFormed rest) := by
  induction front using isWellFormed.induct with
  | case1 high low tail pair ih =>
    rw [List.cons_append, List.cons_append, isWellFormed, if_pos pair, ih, isWellFormed, if_pos pair]
  | case2 high low tail single ih =>
    rw [List.cons_append] at ih
    rw [List.cons_append, List.cons_append, isWellFormed, if_neg single, ih, isWellFormed, if_neg single, Bool.and_assoc]
  | case3 high =>
    have single : ¬ (isHighSurrogate high && isLowSurrogate unit) = true := by
      unfold isSurrogate at plain
      rw [Bool.or_eq_false_iff] at plain
      simp [plain.2]
    rw [List.singleton_append, isWellFormed, if_neg single, isWellFormed_cons plain]
    rfl
  | case4 => exact isWellFormed_cons plain rest

theorem isSurrogate_of_whiteSpace {unit : UInt16} (white : isWhiteSpace unit = true) : isSurrogate unit = false := by
  simp only [isWhiteSpace, Bool.or_eq_true, Bool.and_eq_true, decide_eq_true_eq, UInt16.le_iff_toNat_le,
    ← UInt16.toNat_inj, UInt16.reduceToNat] at white
  simp only [isSurrogate, isHighSurrogate, isLowSurrogate, Bool.or_eq_false_iff, Bool.and_eq_false_iff,
    decide_eq_false_iff_not, UInt16.le_iff_toNat_le, UInt16.reduceToNat]
  omega

theorem isWellFormed_trim {text : JsString} (wellFormed : isWellFormed text = true) : isWellFormed text.trim = true := by
  have front : ∀ text : JsString, isWellFormed text = true → isWellFormed (text.dropWhile isWhiteSpace) = true := by
    intro text
    induction text with
    | nil => exact id
    | cons unit rest ih =>
      intro wellFormed
      cases white : isWhiteSpace unit with
      | true =>
        rw [List.dropWhile_cons_of_pos white]
        rw [isWellFormed_cons (isSurrogate_of_whiteSpace white)] at wellFormed
        exact ih wellFormed
      | false => rwa [List.dropWhile_cons_of_neg (by simp [white])]
  have back : ∀ text : JsString, isWellFormed text = true → isWellFormed (text.rdropWhile isWhiteSpace) = true := by
    intro text
    induction text using List.reverseRecOn with
    | nil => exact id
    | append_singleton rest unit ih =>
      intro wellFormed
      cases white : isWhiteSpace unit with
      | true =>
        rw [List.rdropWhile_concat_pos _ _ _ white]
        rw [isWellFormed_append (isSurrogate_of_whiteSpace white), Bool.and_eq_true] at wellFormed
        exact ih wellFormed.1
      | false => rwa [List.rdropWhile_concat_neg _ _ _ (by simp [white])]
  exact back _ (front _ wellFormed)

theorem isWellFormed_replaceRuns {text : JsString} (wellFormed : isWellFormed text = true) (inRun : Bool) :
    isWellFormed (replaceRuns isWhiteSpace 32 inRun text) = true := by
  have space : isSurrogate 32 = false := by decide
  have white : ∀ {unit : UInt16} {rest : JsString} {inRun : Bool}, isWhiteSpace unit = true →
      (∀ inRun, isWellFormed (replaceRuns isWhiteSpace 32 inRun rest) = true) →
      isWellFormed (replaceRuns isWhiteSpace 32 inRun (unit :: rest)) = true := by
    intro unit rest inRun isWhite each
    rw [replaceRuns, if_pos isWhite]
    split
    · exact each true
    · rw [isWellFormed_cons space]
      exact each true
  have keep : ∀ {unit : UInt16} {rest : JsString}, isWhiteSpace unit = false → ∀ inRun,
      replaceRuns isWhiteSpace 32 inRun (unit :: rest) = unit :: replaceRuns isWhiteSpace 32 false rest := by
    intro unit rest other inRun
    rw [replaceRuns, if_neg (by simp [other])]
  have half : ∀ {unit : UInt16}, isSurrogate unit = true → isWhiteSpace unit = false := by
    intro unit isHalf
    by_contra isWhite
    rw [isSurrogate_of_whiteSpace (by simpa using isWhite)] at isHalf
    cases isHalf
  induction text using isWellFormed.induct generalizing inRun with
  | case1 high low rest pair ih =>
    rw [isWellFormed, if_pos pair] at wellFormed
    obtain ⟨isHigh, isLow⟩ := Bool.and_eq_true_iff.1 pair
    rw [keep (half (by simp [isSurrogate, isHigh])), keep (half (by simp [isSurrogate, isLow])), isWellFormed,
      if_pos pair]
    exact ih wellFormed false
  | case2 high low rest single ih =>
    rw [isWellFormed, if_neg single, Bool.and_eq_true, Bool.not_eq_true'] at wellFormed
    cases isWhite : isWhiteSpace high with
    | true => exact white isWhite (ih wellFormed.2)
    | false =>
      rw [keep isWhite, isWellFormed_cons wellFormed.1]
      exact ih wellFormed.2 false
  | case3 unit =>
    rw [isWellFormed, Bool.not_eq_true'] at wellFormed
    cases isWhite : isWhiteSpace unit with
    | true => exact white isWhite fun inRun => by cases inRun <;> rfl
    | false =>
      rw [keep isWhite, isWellFormed_cons wellFormed]
      rfl
  | case4 => rfl

theorem utf8Bytes_small (text : JsString) : ∀ byte ∈ utf8Bytes text, byte < 256 := by
  have unit_ : ∀ unit, ∀ byte ∈ unitUtf8 unit, byte < 256 := by
    intro unit
    unfold unitUtf8
    split
    · exact utf8_small (by unfold IsScalar; omega)
    · exact utf8_small (scalar_unit ‹_›)
  induction text using utf8Bytes.induct with
  | case1 high low rest pair ih =>
    obtain ⟨isHigh, isLow⟩ := Bool.and_eq_true_iff.1 pair
    rw [utf8Bytes, if_pos pair]
    intro byte member
    exact (List.mem_append.1 member).elim (utf8_small (utf16_pair isHigh isLow).2 byte) (ih byte)
  | case2 high low rest single ih =>
    rw [utf8Bytes, if_neg single]
    intro byte member
    exact (List.mem_append.1 member).elim (unit_ high byte) (ih byte)
  | case3 unit => exact unit_ unit
  | case4 => exact fun _ member => nomatch member

theorem length_le_utf8Bytes (text : JsString) : text.length ≤ (utf8Bytes text).length := by
  have some_ : ∀ unit, 1 ≤ (unitUtf8 unit).length := fun unit => List.length_pos_iff.2 (unitUtf8_ne_nil unit)
  induction text using utf8Bytes.induct with
  | case1 high low rest pair ih =>
    have big : 0x10000 ≤ pairPoint high low := by
      unfold pairPoint
      omega
    have four : (utf8 (pairPoint high low)).length = 4 := by
      unfold utf8
      rw [if_neg (by omega), if_neg (by omega), if_neg (by omega)]
      rfl
    rw [utf8Bytes, if_pos pair, List.length_append, four]
    simp only [List.length_cons]
    omega
  | case2 high low rest single ih =>
    have first := some_ high
    rw [utf8Bytes, if_neg single, List.length_append]
    simp only [List.length_cons] at ih ⊢
    omega
  | case3 unit => exact some_ unit
  | case4 => exact Nat.le_refl _

theorem length_utf8Bytes_le (text : JsString) : (utf8Bytes text).length ≤ 3 * text.length := by
  have point : ∀ value, (utf8 value).length ≤ 4 := by
    intro value
    unfold utf8
    split_ifs <;> simp
  have three : ∀ unit : UInt16, (unitUtf8 unit).length ≤ 3 := by
    intro unit
    have bound := unit.toNat_lt
    unfold unitUtf8
    split
    · decide
    · unfold utf8
      rw [if_pos (by omega : unit.toNat < 0x10000)]
      split_ifs <;> simp
  induction text using utf8Bytes.induct with
  | case1 high low rest pair ih =>
    have four := point (pairPoint high low)
    rw [utf8Bytes, if_pos pair, List.length_append]
    simp only [List.length_cons]
    omega
  | case2 high low rest single ih =>
    have first := three high
    rw [utf8Bytes, if_neg single, List.length_append]
    simp only [List.length_cons] at ih ⊢
    omega
  | case3 unit => exact three unit
  | case4 => exact Nat.le_refl _

end WellFormed

section Exchange

/-- Units that are the same, or of one byte both. -/
def Alike (unit unit' : UInt16) : Prop := unit = unit' ∨ (unit.toNat < 0x80 ∧ unit'.toNat < 0x80)

theorem Alike.eq {unit unit' : UInt16} (alike : Alike unit unit') (large : 0x80 ≤ unit.toNat) : unit' = unit := by
  rcases alike with rfl | ⟨small, -⟩
  · rfl
  · omega

theorem surrogates_alike {high low high' low' : UInt16} (first : Alike high high') (second : Alike low low')
    (pair : (isHighSurrogate high' && isLowSurrogate low') = true) :
    (isHighSurrogate high && isLowSurrogate low) = true := by
  rw [Bool.and_eq_true] at pair
  have large : 0x80 ≤ high'.toNat := surrogate_large (by rw [pair.1]; rfl)
  have large' : 0x80 ≤ low'.toNat := surrogate_large (by rw [pair.2, Bool.or_true])
  rcases first with rfl | ⟨-, small⟩
  · rcases second with rfl | ⟨-, small⟩
    · rw [pair.1, pair.2]
      rfl
    · omega
  · omega

/-- Units of one byte may be exchanged for others without a change to the number of bytes. -/
theorem length_utf8Bytes_alike {text text' : JsString} (alike : List.Forall₂ Alike text text') :
    (utf8Bytes text').length = (utf8Bytes text).length := by
  have single : ∀ {unit unit' : UInt16}, Alike unit unit' → (unitUtf8 unit').length = (unitUtf8 unit).length := by
    rintro unit unit' (rfl | ⟨small, small'⟩)
    · rfl
    · rw [unitUtf8_of_small small, unitUtf8_of_small small']
      rfl
  induction text using utf8Bytes.induct generalizing text' with
  | case1 high low rest pair ih =>
    obtain _ | ⟨first, _ | ⟨second, others⟩⟩ := alike
    obtain ⟨isHigh, isLow⟩ := Bool.and_eq_true_iff.1 pair
    rw [first.eq (surrogate_large (by rw [isHigh]; rfl)), second.eq (surrogate_large (by rw [isLow, Bool.or_true])),
      utf8Bytes, utf8Bytes, if_pos pair, if_pos pair, List.length_append, List.length_append, ih others]
  | case2 high low rest apart ih =>
    obtain _ | ⟨first, _ | ⟨second, others⟩⟩ := alike
    rw [utf8Bytes, utf8Bytes, if_neg apart, if_neg fun pair => apart (surrogates_alike first second pair),
      List.length_append, List.length_append, single first, ih (.cons second others)]
  | case3 unit =>
    obtain _ | ⟨first, _ | _⟩ := alike
    exact single first
  | case4 =>
    cases alike
    rfl

end Exchange

end Utf8
