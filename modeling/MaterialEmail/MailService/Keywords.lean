import MaterialEmail.Library.Utf8
import MaterialEmail.MessageTags.Model

/-! Message tags as keywords on the mail server. A name is written with lower-case letters, digits, hyphens and
underscores only, so that no server that folds case can change it. -/
namespace MailService

open JsString Utf8 MessageTags

def messageTagKeywordPrefix : JsString := ofString "mtag-"
def messageTagKeywordLimit : Nat := 64

inductive MailKeywordErrorCode where
  | KEYWORDS_UNSUPPORTED
  | KEYWORD_UNENCODABLE
  | TOO_MANY_KEYWORDS
  | MESSAGE_UNAVAILABLE
  | KEYWORD_NOT_STORED
  deriving DecidableEq

structure MailKeywordError where
  code : MailKeywordErrorCode
  message : JsString
  deriving DecidableEq

section Codec

variable (host : Host)

/-- `/^[0-9a-z-]$/u`. -/
def isKeywordPlain (unit : UInt16) : Bool := (48 ≤ unit && unit ≤ 57) || (97 ≤ unit && unit ≤ 122) || unit = 45

/-- A digit of `toString(16)`. -/
def keywordDigit (value : Nat) : UInt16 := UInt16.ofNat (if value < 10 then 48 + value else 87 + value)

def keywordByte (byte : Nat) : JsString :=
  if isKeywordPlain (UInt16.ofNat byte) then [UInt16.ofNat byte]
  else [95, keywordDigit (byte / 16), keywordDigit (byte % 16)]

def messageTagKeyword (tagName : JsString) : Except MailKeywordError JsString :=
  let name := normalizeMessageTagName host tagName
  if name = [] then
    .error ⟨.KEYWORD_UNENCODABLE, ofString "A tag needs a name before it can be stored on the mail server."⟩
  else
    let atom := messageTagKeywordPrefix ++ (utf8Bytes name).flatMap keywordByte
    if messageTagKeywordLimit < atom.length then
      .error ⟨.KEYWORD_UNENCODABLE, ofString "The tag " ++ name ++ ofString " encodes to a " ++
        ofString (toString atom.length) ++ ofString "-character mail server keyword, over the " ++
        ofString (toString messageTagKeywordLimit) ++
        ofString "-character limit. Shorten the tag name; it was not stored."⟩
    else .ok atom

/-- `Number.parseInt` of one digit. -/
def keywordDigitValue (digit : UInt16) : Nat := if digit ≤ 57 then digit.toNat - 48 else digit.toNat - 87

/-- The bytes that an atom stands for, after its prefix. -/
def keywordBytes : JsString → Option (List UInt8)
  | 95 :: high :: low :: rest =>
    if isHexDigit high && isHexDigit low then
      (keywordBytes rest).map (UInt8.ofNat (16 * keywordDigitValue high + keywordDigitValue low) :: ·)
    else none
  | unit :: rest => if isKeywordPlain unit then (keywordBytes rest).map (UInt8.ofNat unit.toNat :: ·) else none
  | [] => some []

def messageTagKeywordName (keyword : JsString) : Option JsString :=
  let atom := host.lower keyword
  if messageTagKeywordPrefix.isPrefixOf atom then
    match keywordBytes (atom.drop messageTagKeywordPrefix.length) with
    | some bytes => if utf8Text bytes = [] then none else some (utf8Text bytes)
    | none => none
  else none

def isMessageTagKeyword (flag : JsString) : Bool := messageTagKeywordPrefix.isPrefixOf (host.lower flag)

end Codec

section RoundTrip

theorem keywordDigit_spec : ∀ value < 16, isHexDigit (keywordDigit value) = true ∧
    isKeywordPlain (keywordDigit value) = true ∧ keywordDigitValue (keywordDigit value) = value := by decide

theorem isKeywordPlain_small {unit : UInt16} (plain : isKeywordPlain unit = true) : unit < 128 ∧ unit ≠ 95 ∧
    asciiLower unit = unit := by
  simp only [isKeywordPlain, Bool.or_eq_true, Bool.and_eq_true, decide_eq_true_eq, UInt16.le_iff_toNat_le,
    UInt16.reduceToNat] at plain
  have value : unit = 45 ↔ unit.toNat = 45 := by rw [← UInt16.toNat_inj]; rfl
  refine ⟨?_, ?_, ?_⟩
  · rw [UInt16.lt_iff_toNat_lt]
    simp only [value] at plain
    simp only [UInt16.reduceToNat]
    omega
  · rintro rfl
    revert plain
    decide
  · unfold asciiLower
    rw [if_neg]
    simp only [value] at plain
    simp only [UInt16.le_iff_toNat_le, UInt16.reduceToNat]
    omega

/-- One byte is read back, whatever follows. -/
theorem keywordBytes_keywordByte {byte : Nat} (small : byte < 256) (rest : JsString) :
    keywordBytes (keywordByte byte ++ rest) = (keywordBytes rest).map (UInt8.ofNat byte :: ·) := by
  unfold keywordByte
  split
  · rename_i plain
    have other := (isKeywordPlain_small plain).2.1
    have value : (UInt16.ofNat byte).toNat = byte := by
      rw [UInt16.toNat_ofNat']
      omega
    rw [List.singleton_append, keywordBytes.eq_def]
    split
    · rename_i is
      exact absurd (List.cons.inj is).1 other
    · rename_i is
      obtain ⟨rfl, rfl⟩ := List.cons.inj is
      rw [if_pos plain, value]
    · contradiction
  · obtain ⟨highHex, -, high⟩ := keywordDigit_spec (byte / 16) (by omega)
    obtain ⟨lowHex, -, low⟩ := keywordDigit_spec (byte % 16) (by omega)
    have value : 16 * (byte / 16) + byte % 16 = byte := by omega
    simp only [List.cons_append, List.nil_append, keywordBytes, highHex, lowHex, Bool.and_self, if_true, high, low,
      value]

theorem keywordBytes_encoded {bytes : List Nat} (small : ∀ byte ∈ bytes, byte < 256) :
    keywordBytes (bytes.flatMap keywordByte) = some (bytes.map UInt8.ofNat) := by
  induction bytes with
  | nil => rfl
  | cons byte rest ih =>
    have tail := ih fun other member => small other (List.mem_cons_of_mem _ member)
    rw [List.flatMap_cons, keywordBytes_keywordByte (small byte List.mem_cons_self), tail]
    rfl

theorem keywordByte_units {byte : Nat} (small : byte < 256) :
    ∀ unit ∈ keywordByte byte, isKeywordPlain unit = true ∨ unit = 95 := by
  unfold keywordByte
  split
  · rename_i plain
    simpa using Or.inl plain
  · have high := (keywordDigit_spec (byte / 16) (by omega)).2.1
    have low := (keywordDigit_spec (byte % 16) (by omega)).2.1
    simp [high, low]

theorem keywordByte_ne_nil (byte : Nat) : keywordByte byte ≠ [] := by
  unfold keywordByte
  split <;> simp

variable {host : Host} {name atom recased : JsString}

/-- An accepted name is short enough not to be cut. -/
theorem messageTagKeyword_ok (ok : messageTagKeyword host name = .ok atom) :
    normalizeMessageTagName host name ≠ [] ∧
      normalizeMessageTagName host name = trim (replaceRuns isWhiteSpace 32 false (host.normalize name)) ∧
      atom = messageTagKeywordPrefix ++ (utf8Bytes (normalizeMessageTagName host name)).flatMap keywordByte ∧
      atom.length ≤ messageTagKeywordLimit := by
  simp only [messageTagKeyword] at ok
  split at ok
  · cases ok
  · rename_i named
    split at ok
    · cases ok
    · rename_i short
      cases ok
      refine ⟨named, ?_, rfl, Nat.not_lt.1 short⟩
      have bytes := length_le_utf8Bytes (normalizeMessageTagName host name)
      have units : ∀ bytes : List Nat, bytes.length ≤ (bytes.flatMap keywordByte).length := by
        intro bytes
        induction bytes with
        | nil => exact Nat.le_refl _
        | cons byte rest ih =>
          have some_ : 1 ≤ (keywordByte byte).length := List.length_pos_iff.2 (keywordByte_ne_nil byte)
          rw [List.flatMap_cons, List.length_append, List.length_cons]
          omega
      have more := units (utf8Bytes (normalizeMessageTagName host name))
      have prefixed : messageTagKeywordPrefix.length = 5 := rfl
      have limit : messageTagKeywordLimit = 64 := rfl
      rw [List.length_append] at short
      unfold normalizeMessageTagName at *
      rw [List.length_take] at bytes
      rw [List.take_of_length_le]
      unfold nameLimit at *
      omega

/-- The same letters, some of them in the other case. -/
def Recases (atom recased : JsString) : Prop := recased.map asciiLower = atom.map asciiLower

theorem prefix_plain : ∀ unit ∈ messageTagKeywordPrefix, isKeywordPlain unit = true := by decide

theorem atom_units (ok : messageTagKeyword host name = .ok atom) : ∀ unit ∈ atom, isKeywordPlain unit = true ∨ unit = 95 := by
  obtain ⟨-, -, rfl, -⟩ := messageTagKeyword_ok ok
  intro unit member
  rcases List.mem_append.1 member with front | rest
  · exact Or.inl (prefix_plain unit front)
  · obtain ⟨byte, isByte, inByte⟩ := List.mem_flatMap.1 rest
    exact keywordByte_units (utf8Bytes_small _ byte isByte) unit inByte

/-- An atom is in lower case, so folding its case gives it back. -/
theorem lower_recased (ok : messageTagKeyword host name = .ok atom) (recases : Recases atom recased) :
    host.lower recased = atom := by
  have lower : ∀ unit ∈ atom, unit < 128 ∧ asciiLower unit = unit := by
    intro unit member
    rcases atom_units ok unit member with plain | rfl
    · exact ⟨(isKeywordPlain_small plain).1, (isKeywordPlain_small plain).2.2⟩
    · decide
  have same : atom.map asciiLower = atom :=
    (List.map_congr_left fun unit member => (lower unit member).2).trans (List.map_id atom)
  have ascii : ∀ unit ∈ recased, unit < 128 := by
    intro unit member
    have isIn : asciiLower unit ∈ atom := by
      rw [← same, ← recases]
      exact List.mem_map_of_mem member
    have small := (lower _ isIn).1
    by_cases upper : 65 ≤ unit ∧ unit ≤ 90
    · exact UInt16.lt_of_le_of_lt upper.2 (by decide)
    · rwa [show asciiLower unit = unit from if_neg upper] at small
  rw [host.lower_ascii recased ascii, recases, same]

theorem messageTagKeywordName_atom (keeps : ∀ text, isWellFormed text = true → isWellFormed (host.normalize text) = true)
    (wellFormed : isWellFormed name = true) (ok : messageTagKeyword host name = .ok atom)
    (lowered : host.lower recased = atom) :
    messageTagKeywordName host recased = some (normalizeMessageTagName host name) := by
  obtain ⟨named, whole, rfl, -⟩ := messageTagKeyword_ok ok
  have kept : isWellFormed (normalizeMessageTagName host name) = true := by
    rw [whole]
    exact isWellFormed_trim (isWellFormed_replaceRuns (keeps name wellFormed) false)
  have decoded := keywordBytes_encoded (utf8Bytes_small (normalizeMessageTagName host name))
  have back := utf8Text_utf8Bytes kept
  unfold messageTagKeywordName
  simp only [lowered, List.isPrefixOf_iff_prefix.2 (List.prefix_append _ _), if_true, List.drop_left, decoded, back,
    if_neg named]

/-- Names are read back from their atoms in any case, atoms keep to their alphabet and length, and no two normal forms
share one. -/
theorem keyword_codec (host : Host) (keeps : ∀ text, isWellFormed text = true → isWellFormed (host.normalize text) = true) :
    (∀ name atom, isWellFormed name = true → messageTagKeyword host name = .ok atom →
      (∀ recased, Recases atom recased →
        messageTagKeywordName host recased = some (normalizeMessageTagName host name)) ∧
      (∃ rest, atom = messageTagKeywordPrefix ++ rest ∧ ∀ unit ∈ rest, isKeywordPlain unit = true ∨ unit = 95) ∧
      atom.length ≤ messageTagKeywordLimit) ∧
    ∀ name name' atom atom', isWellFormed name = true → isWellFormed name' = true →
      messageTagKeyword host name = .ok atom → messageTagKeyword host name' = .ok atom' →
      normalizeMessageTagName host name ≠ normalizeMessageTagName host name' → ¬ Recases atom atom' := by
  constructor
  · intro name atom wellFormed ok
    refine ⟨fun recased recases => messageTagKeywordName_atom keeps wellFormed ok (lower_recased ok recases), ?_,
      (messageTagKeyword_ok ok).2.2.2⟩
    obtain ⟨-, -, is, -⟩ := messageTagKeyword_ok ok
    refine ⟨_, is, fun unit member => atom_units ok unit ?_⟩
    rw [is]
    exact List.mem_append_right _ member
  · intro name name' atom atom' wellFormed wellFormed' ok ok' differ recases
    have one := messageTagKeywordName_atom keeps wellFormed ok (lower_recased ok recases)
    have two := messageTagKeywordName_atom keeps wellFormed' ok' (lower_recased ok' rfl)
    exact differ (Option.some.inj (one.symm.trans two))

theorem work_codec : messageTagKeyword Host.plain (ofString "Work") = .ok (ofString "mtag-_57ork") ∧
    messageTagKeywordName Host.plain (ofString "MTAG-_57ORK") = some (ofString "Work") ∧
    ¬ Recases (ofString "mtag-_57ork") (ofString "mtag-work") := by
  have codec := keyword_codec Host.plain fun text wellFormed => wellFormed
  have isWork : messageTagKeyword Host.plain (ofString "Work") = .ok (ofString "mtag-_57ork") := by decide
  have isLower : messageTagKeyword Host.plain (ofString "work") = .ok (ofString "mtag-work") := by decide
  refine ⟨isWork, ?_, ?_⟩
  · have recased : Recases (ofString "mtag-_57ork") (ofString "MTAG-_57ORK") := by
      unfold Recases
      decide
    have named : normalizeMessageTagName Host.plain (ofString "Work") = ofString "Work" := by decide
    rw [← named]
    exact (codec.1 _ _ (by decide) isWork).1 _ recased
  · exact codec.2 _ _ _ _ (by decide) (by decide) isWork isLower (by decide)

end RoundTrip

end MailService
