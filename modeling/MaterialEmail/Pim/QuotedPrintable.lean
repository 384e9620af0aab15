import MaterialEmail.Library.QuotedPrintable
import MaterialEmail.Pim.VCard

/-! Quoted-printable texts in vCards. The decoder takes what is not escaped unit by unit, so that halves of a
surrogate pair are lost, and the decoder for UTF-8 drops a byte order mark in front. -/
namespace Pim.VCard

open JsString Utf8 QuotedPrintable

/-- `new TextDecoder("UTF-8", { fatal: true }).decode(bytes)`: bytes that are not the form of a text are refused. -/
def decodeUtf8 (bytes : List Nat) : Option JsString :=
  let text := utf8Text (bytes.map UInt8.ofNat)
  if utf8Bytes text = bytes then some (dropByteOrderMark text) else none

/-- The host decodes UTF-8 as it is specified. -/
def Host.ReadsUtf8 (host : Host) : Prop := ∀ bytes, host.decodeText (ofString "UTF-8") bytes = decodeUtf8 bytes

/-- A host that decodes UTF-8 and no other character set. -/
def Host.utf8 : Host :=
  { Host.plain with decodeText := fun charset bytes => if charset = ofString "UTF-8" then decodeUtf8 bytes else none }

theorem utf8_readsUtf8 : Host.utf8.ReadsUtf8 := fun _ => rfl

theorem decodeUtf8_utf8Bytes {text : JsString} (wellFormed : isWellFormed text = true) :
    decodeUtf8 (utf8Bytes text) = some (dropByteOrderMark text) := by
  unfold decodeUtf8
  rw [utf8Text_utf8Bytes wellFormed]
  simp

section Bytes

variable {bytes : List Nat} {front text encoded rest : JsString} {unit : UInt16}

theorem quotedBytes_escapes (escapes : Escapes bytes front) (small : ∀ byte ∈ bytes, byte < 256) :
    quotedBytes (front ++ rest) = bytes ++ quotedBytes rest := by
  induction escapes with
  | nil => rfl
  | @cons byte bytes high low others isHigh isLow escapes ih =>
    have here := small byte List.mem_cons_self
    have later := ih fun other member => small other (List.mem_cons_of_mem _ member)
    have first := hexValue_of_isHexDigit (by omega) isHigh
    have second := hexValue_of_isHexDigit (by omega) isLow
    have whole : 16 * (byte / 16) + byte % 16 = byte := by omega
    simp only [List.cons_append, quotedBytes, first, second, whole, later]

theorem quotedBytes_raw (plain : unit ≠ 61) : quotedBytes (unit :: rest) = unitUtf8 unit ++ quotedBytes rest := by
  rw [quotedBytes.eq_def]
  split
  · rename_i same
    exact absurd (List.cons.inj same).1 plain
  · rename_i same
    obtain ⟨rfl, rfl⟩ := List.cons.inj same
    rfl
  · contradiction

/-- What the decoder reads of an encoding is the text, but for the halves of pairs that stand for themselves. -/
structure ReadAs (text encoded read : JsString) : Prop where
  bytes : quotedBytes encoded = utf8Bytes read
  wellFormed : isWellFormed read = true
  length : read.length = text.length
  same : read = text ↔ ∀ unit ∈ encoded, isSurrogate unit = false

theorem ReadAs.raw (single : isSurrogate unit = false) (plain : unit ≠ 61) {read : JsString} (reads : ReadAs text encoded read) :
    ReadAs (unit :: text) (unit :: encoded) (unit :: read) := by
  have whole : JsString.Whole [unit] := by
    simp only [isSurrogate, Bool.or_eq_false_iff] at single
    exact .unit unit single.1 single.2
  refine ⟨?_, ?_, by simp [reads.length], by simp [single, reads.same]⟩
  · have bytes := @utf8Bytes_whole [unit] read whole
    rw [List.singleton_append] at bytes
    rw [quotedBytes_raw plain, bytes, reads.bytes, utf8Bytes]
  · rw [isWellFormed_cons single, reads.wellFormed]

theorem ReadAs.lost (half : isSurrogate unit = true) {read : JsString} (reads : ReadAs text encoded read) :
    ReadAs (unit :: text) (unit :: encoded) (0xFFFD :: read) := by
  have plain : unit ≠ 61 := by
    rintro rfl
    revert half
    decide
  have other : (0xFFFD : UInt16) ≠ unit := by
    rintro rfl
    revert half
    decide
  refine ⟨?_, ?_, by simp [reads.length], by simp [half, other]⟩
  · have bytes := @utf8Bytes_whole [0xFFFD] read whole_replacement
    rw [List.singleton_append] at bytes
    rw [quotedBytes_raw plain, bytes, reads.bytes, unitUtf8_surrogate half]
  · rw [isWellFormed_cons (by decide), reads.wellFormed]

theorem ReadAs.escaped {point read : JsString} (whole : point.Whole) (escapes : Escapes (utf8Bytes point) front)
    (reads : ReadAs text encoded read) : ReadAs (point ++ text) (front ++ encoded) (point ++ read) := by
  have plain := escapes.plain (utf8Bytes_small point)
  refine ⟨?_, ?_, by simp [reads.length], ?_⟩
  · rw [quotedBytes_escapes escapes (utf8Bytes_small point), utf8Bytes_whole whole, reads.bytes]
  · rw [isWellFormed_whole whole, reads.wellFormed]
  · simp only [List.append_cancel_left_eq, reads.same, List.mem_append, or_imp, forall_and]
    tauto

theorem readAs (encodes : Encodes text encoded) : ∃ read, ReadAs text encoded read := by
  induction encodes with
  | nil => exact ⟨[], rfl, rfl, rfl, by simp⟩
  | @raw point text encoded whole plain others ih =>
    obtain ⟨read, reads⟩ := ih
    cases whole with
    | unit unit high low =>
      have single : isSurrogate unit = false := by simp [isSurrogate, high, low]
      exact ⟨unit :: read, reads.raw single (by simpa using plain)⟩
    | pair high low isHigh isLow =>
      have first : isSurrogate high = true := by simp [isSurrogate, isHigh]
      have second : isSurrogate low = true := by simp [isSurrogate, isLow]
      exact ⟨_, (reads.lost second).lost first⟩
  | @escaped point text front encoded whole escapes others ih =>
    obtain ⟨read, reads⟩ := ih
    exact ⟨point ++ read, reads.escaped whole escapes⟩

end Bytes

section Decoding

variable {host : Host} {text encoded : JsString}

/-- An encoding is decoded as the text that it stands for exactly where no half of a pair stands for itself
and the text has no byte order mark in front. -/
theorem quotedPrintable_decoded (readsUtf8 : host.ReadsUtf8) (encodes : Encodes text encoded) :
    decodeQuotedPrintable host encoded (ofString "UTF-8") = .ok text ↔
      (∀ unit ∈ encoded, isSurrogate unit = false) ∧ text.head? ≠ some 0xFEFF := by
  obtain ⟨read, bytes, wellFormed, length, same⟩ := readAs encodes
  have decoded : decodeQuotedPrintable host encoded (ofString "UTF-8") = .ok (dropByteOrderMark read) := by
    unfold decodeQuotedPrintable
    rw [readsUtf8, bytes, decodeUtf8_utf8Bytes wellFormed]
  rw [decoded, ← same, Except.ok.injEq]
  constructor
  · intro dropped
    by_cases marked : read.head? = some 0xFEFF
    · -- What is dropped is missing.
      obtain ⟨rest, rfl⟩ := List.head?_eq_some_iff.1 marked
      rw [dropByteOrderMark] at dropped
      rw [← dropped, List.length_cons] at length
      omega
    · rw [dropByteOrderMark_of_head marked] at dropped
      subst dropped
      exact ⟨rfl, marked⟩
  · rintro ⟨rfl, unmarked⟩
    exact dropByteOrderMark_of_head unmarked

/-- An accent as it is, an equals sign and a character of two units in escapes. -/
theorem escapedPair_decoded : decodeQuotedPrintable Host.utf8 (0xE9 :: ofString "=3d=F0=9f=98=80") (ofString "UTF-8") =
    .ok [0xE9, 61, 0xD83D, 0xDE00] :=
  (quotedPrintable_decoded utf8_readsUtf8
    (.raw (.unit 0xE9 (by decide) (by decide)) (by decide)
      (.escaped (.unit 61 (by decide) (by decide)) (.cons (by decide) (by decide) .nil)
        (.escaped (.pair 0xD83D 0xDE00 (by decide) (by decide))
          (.cons (by decide) (by decide) (.cons (by decide) (by decide) (.cons (by decide) (by decide)
            (.cons (by decide) (by decide) .nil)))) .nil)))).2 (by decide)

/-- A character of two units that stands for itself is lost, and so is a byte order mark in front. -/
theorem rawPair_lost :
    (Encodes [0xD83D, 0xDE00] [0xD83D, 0xDE00] ∧
      decodeQuotedPrintable Host.utf8 [0xD83D, 0xDE00] (ofString "UTF-8") ≠ .ok [0xD83D, 0xDE00]) ∧
    Encodes [0xFEFF, 65] [0xFEFF, 65] ∧
      decodeQuotedPrintable Host.utf8 [0xFEFF, 65] (ofString "UTF-8") ≠ .ok [0xFEFF, 65] :=
  ⟨⟨.raw (.pair 0xD83D 0xDE00 (by decide) (by decide)) (by decide) .nil, by decide⟩,
    .raw (.unit 0xFEFF (by decide) (by decide)) (by decide)
      (.raw (.unit 65 (by decide) (by decide)) (by decide) .nil), by decide⟩

end Decoding

end Pim.VCard
