import MaterialEmail.Library.Schema
import MaterialEmail.MailService.Model

/-! What is known of the cryptography of accounts and messages: public data about identities, and what a message says it is.
What was read once is read again as it is, if the lower case of an address is not longer than an address may be. -/
namespace PersistedState

open JsString JsDate
open JsonText (Numerals Plain PlainItems PlainMembers)
open Schema
open MailService (CryptoProtocol CryptoContainer CryptoTrustState CryptoReason CryptographyAssessment assessmentForReason)

def identityCountLimit : Nat := 16
def identityIdLimit : Nat := 128
def displayNameLimit : Nat := 120
def emailLimit : Nat := 320
def fingerprintInputLimit : Nat := 191

section Values

/-- `plainRecord` and `exactKeys`. -/
def exactKeys (value : JsValue) (keys : List String) : Bool :=
  match value with
  | .object members => members.all fun member => member.1 ∈ keys.map ofString
  | _ => false

def isText (value : JsValue) (text : String) : Bool :=
  match value with
  | .string units => units = ofString text
  | _ => false

/-- `===`, of texts and `null`. -/
def isSame : JsValue → JsValue → Bool
  | .string first, .string second => first = second
  | .null, .null => true
  | _, _ => false

def textValue (text : String) : JsValue := .string (ofString text)

def boundedText (value : JsValue) (maximum : Nat) : Option JsString :=
  match value with
  | .string units =>
    if units.trim ≠ [] ∧ units.trim.length ≤ maximum ∧ units.trim.all (!isControl ·) = true then some units.trim else none
  | _ => none

end Values

section Definitions

variable (letters : LetterCase) (dates : DateParser)

def protocolText : CryptoProtocol → String
  | .openpgp => "openpgp"
  | .smime => "smime"

def protocolValue (value : JsValue) : Option CryptoProtocol :=
  if isText value "openpgp" then some .openpgp else if isText value "smime" then some .smime else none

/-- `/^[A-Za-z0-9._:-]+$/`, of a text that is not empty. -/
def isIdentifierText (text : JsString) : Bool := text.all fun unit => isAlphanumeric unit || unit ∈ ofString "._:-"

/-- `/^[^\s@]+@[^\s@]+\.[^\s@]+$/`: the domain has a dot that is neither its first nor its last unit. -/
def isBoundedEmail (text : JsString) : Bool :=
  match text.splitOn 64 with
  | [mailbox, domain] =>
    mailbox ≠ [] && mailbox.all (!isWhiteSpace ·) && domain.all (!isWhiteSpace ·) && domain.tail.dropLast.contains 46
  | _ => false

def normalizedEmail (value : JsValue) : Option JsString :=
  ((boundedText value emailLimit).map letters.lower).filter isBoundedEmail

def upperHexDigits : JsString := ofString "0123456789ABCDEF"

def allowedLengths : CryptoProtocol → List Nat
  | .openpgp => [40, 64]
  | .smime => [64]

def normalizedFingerprint (value : JsValue) (protocol : CryptoProtocol) : Option JsString :=
  ((boundedText value fingerprintInputLimit).map fun input =>
    letters.upper (input.filter fun unit => !isWhiteSpace unit && unit ≠ 58)).filter fun fingerprint =>
      fingerprint.all (· ∈ upperHexDigits) && fingerprint.length ∈ allowedLengths protocol

/-- No expiry, or the instant in its one format. -/
def normalizedExpiry (value : JsValue) : Option (Option JsString) :=
  if value.isUndefined then some none
  else ((boundedText value 64).bind dates.parse).map fun time : TimeValue => some (toISOString time.1)

structure MessageCryptoIdentityMetadata where
  id : JsString
  protocol : CryptoProtocol
  email : JsString
  displayName : JsString
  fingerprint : JsString
  expiresAt : Option JsString

def identityKeys : List String :=
  ["id", "protocol", "email", "displayName", "fingerprint", "expiresAt", "trust", "source", "secretStorage"]

def parseMessageCryptoIdentityMetadata (value : JsValue) : Option MessageCryptoIdentityMetadata :=
  if exactKeys value identityKeys ∧ isText (value.member "trust") "unverified" ∧
      isText (value.member "source") "local-metadata" ∧ isText (value.member "secretStorage") "none" then do
    let protocol ← protocolValue (value.member "protocol")
    let id ← (boundedText (value.member "id") identityIdLimit).filter isIdentifierText
    let expiresAt ← normalizedExpiry dates (value.member "expiresAt")
    let email ← normalizedEmail letters (value.member "email")
    let displayName ← boundedText (value.member "displayName") displayNameLimit
    let fingerprint ← normalizedFingerprint letters (value.member "fingerprint") protocol
    return { id, protocol, email, displayName, fingerprint, expiresAt }
  else none

/-- The identity as it stands in a profile. Nobody vouches for it, and nothing secret is kept of it. -/
def MessageCryptoIdentityMetadata.value (identity : MessageCryptoIdentityMetadata) : JsValue :=
  .objectOf ([("id", .string identity.id), ("protocol", textValue (protocolText identity.protocol)),
      ("email", .string identity.email), ("displayName", .string identity.displayName),
      ("fingerprint", .string identity.fingerprint)] ++
    (match identity.expiresAt with
      | some expiresAt => [("expiresAt", .string expiresAt)]
      | none => []) ++
    [("trust", textValue "unverified"), ("source", textValue "local-metadata"), ("secretStorage", textValue "none")])

def MessageCryptoIdentityMetadata.fingerprintKey (identity : MessageCryptoIdentityMetadata) : JsString :=
  ofString (protocolText identity.protocol) ++ 58 :: identity.fingerprint

def parseMessageCryptoProfile (value : JsValue) : Option (List MessageCryptoIdentityMetadata) :=
  match value.member "schemaVersion", value.member "identities" with
  | .number (.finite version), .array items =>
    if exactKeys value ["schemaVersion", "identities"] ∧ version = 1 ∧ items.length ≤ identityCountLimit then
      (items.mapM (parseMessageCryptoIdentityMetadata letters dates)).filter fun identities =>
        (identities.map (·.id)).Nodup ∧ (identities.map (·.fingerprintKey)).Nodup
    else none
  | _, _ => none

def profileValue (identities : List MessageCryptoIdentityMetadata) : JsValue :=
  .objectOf [("schemaVersion", .number (.finite 1)), ("identities", .array (identities.map (·.value)))]

def emptyMessageCryptoProfile : JsValue := profileValue []

def messageCryptoProfileSchema : Schema := fun value =>
  (parseMessageCryptoProfile letters dates value).map profileValue

end Definitions

section Texts

variable {value : JsValue} {text : JsString} {maximum : Nat}

theorem boundedText_eq_some : boundedText value maximum = some text ↔ ∃ units, value = .string units ∧ units.trim = text ∧
    text ≠ [] ∧ text.length ≤ maximum ∧ text.all (!isControl ·) = true := by
  cases value with
  | string units =>
    constructor
    · intro ok
      obtain ⟨⟨filled, short, clean⟩, same⟩ := Option.ite_none_right_eq_some.1 ok
      cases same
      exact ⟨units, rfl, rfl, filled, short, clean⟩
    · rintro ⟨_, ⟨⟩, rfl, bounds⟩
      exact if_pos bounds
  | _ => simp [boundedText]

theorem boundedText_again (ok : boundedText value maximum = some text) :
    boundedText (.string text) maximum = some text := by
  obtain ⟨units, -, rfl, bounds⟩ := boundedText_eq_some.1 ok
  exact boundedText_eq_some.2 ⟨_, rfl, trim_trim units, bounds⟩

theorem boundedText_visible (filled : text ≠ []) (short : text.length ≤ maximum)
    (visible : ∀ unit ∈ text, isWhiteSpace unit = false ∧ isControl unit = false) :
    boundedText (.string text) maximum = some text := by
  have trimmed : text.Trimmed :=
    ⟨fun unit first => (visible unit (List.mem_of_mem_head? first)).1,
      fun unit last => (visible unit (List.mem_of_mem_getLast? last)).1⟩
  have clean : text.all (!isControl ·) = true := by
    rw [List.all_eq_true]
    intro unit member
    simp [(visible unit member).2]
  exact boundedText_eq_some.2 ⟨text, rfl, trim_of_trimmed trimmed, filled, short, clean⟩

theorem normalizedEmail_again {letters : LetterCase}
    (lower_clean : ∀ text : JsString, text.all (!isControl ·) = true → (letters.lower text).all (!isControl ·) = true)
    (ok : normalizedEmail letters value = some text) (short : text.length ≤ emailLimit) :
    normalizedEmail letters (.string text) = some text := by
  obtain ⟨ok, isEmail⟩ := Option.filter_eq_some_iff.1 ok
  obtain ⟨given, isGiven, rfl⟩ := Option.map_eq_some_iff.1 ok
  obtain ⟨units, -, isTrim, -, -, clean⟩ := boundedText_eq_some.1 isGiven
  have trimmed : (letters.lower given).Trimmed := letters.lower_trimmed given (isTrim ▸ trimmed_trim units)
  have filled : letters.lower given ≠ [] := by
    intro empty
    rw [empty] at isEmail
    cases isEmail
  have bounded : boundedText (.string (letters.lower given)) emailLimit = some (letters.lower given) :=
    boundedText_eq_some.2 ⟨_, rfl, trim_of_trimmed trimmed, filled, short, lower_clean given clean⟩
  exact Option.filter_eq_some_iff.2 ⟨by rw [bounded, Option.map_some, letters.lower_lower], isEmail⟩

theorem upperHexDigits_spec : ∀ unit ∈ upperHexDigits, isWhiteSpace unit = false ∧ isControl unit = false ∧
    unit ≠ 58 ∧ asciiUpper unit = unit ∧ unit < 128 := by decide

theorem normalizedFingerprint_again {letters : LetterCase} {protocol : CryptoProtocol}
    (ok : normalizedFingerprint letters value protocol = some text) :
    normalizedFingerprint letters (.string text) protocol = some text := by
  obtain ⟨-, valid⟩ := Option.filter_eq_some_iff.1 ok
  obtain ⟨digits, length⟩ := Bool.and_eq_true_iff.1 valid
  have digit (unit : UInt16) (member : unit ∈ text) := upperHexDigits_spec unit (by simpa using List.all_eq_true.1 digits unit member)
  have lengths : text.length = 40 ∨ text.length = 64 := by
    cases protocol with
    | openpgp => simpa [allowedLengths] using length
    | smime => exact Or.inr (by simpa [allowedLengths] using length)
  have filled : text ≠ [] := List.length_pos_iff.1 (by omega)
  have bounded : boundedText (.string text) fingerprintInputLimit = some text :=
    boundedText_visible filled (by unfold fingerprintInputLimit; omega) fun unit member =>
      ⟨(digit unit member).1, (digit unit member).2.1⟩
  have whole : text.filter (fun unit => !isWhiteSpace unit && unit ≠ 58) = text := by
    rw [List.filter_eq_self]
    intro unit member
    simp [digit unit member]
  have upper : letters.upper text = text := by
    rw [letters.upper_ascii text fun unit member => (digit unit member).2.2.2.2]
    exact (List.map_congr_left fun unit member => (digit unit member).2.2.2.1).trans (List.map_id text)
  exact Option.filter_eq_some_iff.2 ⟨by rw [bounded, Option.map_some, whole, upper], valid⟩

theorem digit_visible {unit : UInt16} (digit : (digit? unit).isSome = true) :
    isWhiteSpace unit = false ∧ isControl unit = false := by
  have bounds : 48 ≤ unit ∧ unit ≤ 57 := by
    unfold digit? at digit
    split at digit
    · assumption
    · cases digit
  rw [UInt16.le_iff_toNat_le, UInt16.le_iff_toNat_le] at bounds
  have inside : unit ∈ (List.range' 48 10).map UInt16.ofNat := by
    rw [List.mem_map]
    exact ⟨unit.toNat, by simp at bounds ⊢; omega, by simp⟩
  have all : ∀ other ∈ (List.range' 48 10).map UInt16.ofNat, isWhiteSpace other = false ∧ isControl other = false := by
    decide
  exact all unit inside

theorem toISOString_visible (instant : Int) :
    ∀ unit ∈ toISOString instant, isWhiteSpace unit = false ∧ isControl unit = false := by
  have isDigit (width value : Nat) (unit : UInt16) (member : unit ∈ digits width value) :=
    digit_visible (isDigit_digits width value unit member)
  have year (value : Int) (unit : UInt16) (member : unit ∈ yearText value) :
      isWhiteSpace unit = false ∧ isControl unit = false := by
    unfold yearText at member
    split at member
    · exact isDigit _ _ unit member
    · rcases List.mem_cons.1 member with rfl | later
      · split <;> decide
      · exact isDigit _ _ unit later
  intro unit member
  simp only [toISOString, List.mem_append, List.mem_cons, List.not_mem_nil, or_false] at member
  rcases member with ((((((isYear | rfl | isMonth) | rfl | isDay) | rfl | isHour) | rfl | isMinute) | rfl | isSecond) |
    rfl | isFraction) | rfl
  · exact year _ unit isYear
  all_goals first | decide | exact isDigit _ _ unit ‹_›

theorem normalizedExpiry_again {dates : DateParser} {expiresAt : JsString}
    (ok : normalizedExpiry dates value = some (some expiresAt)) :
    normalizedExpiry dates (.string expiresAt) = some (some expiresAt) := by
  unfold normalizedExpiry at ok
  split at ok
  · cases ok
  · obtain ⟨time, -, same⟩ := Option.map_eq_some_iff.1 ok
    obtain rfl : toISOString time.1 = expiresAt := by simpa using same
    have short := length_toISOString_le time.1
    have filled : toISOString time.1 ≠ [] := by
      rw [toISOString_eq]
      simp [afterYear]
    have bounded : boundedText (.string (toISOString time.1)) 64 = some (toISOString time.1) :=
      boundedText_visible filled (by omega) (toISOString_visible time.1)
    rw [normalizedExpiry, if_neg (by simp [JsValue.isUndefined]), bounded, Option.bind_some, dates.parse_toISOString,
      Option.map_some]

end Texts

section Profiles

variable {letters : LetterCase} {dates : DateParser} {numerals : Numerals} {value : JsValue}
  {identity : MessageCryptoIdentityMetadata} {identities : List MessageCryptoIdentityMetadata}

theorem parseIdentity_eq_some : parseMessageCryptoIdentityMetadata letters dates value = some identity ↔
    (exactKeys value identityKeys ∧ isText (value.member "trust") "unverified" ∧
      isText (value.member "source") "local-metadata" ∧ isText (value.member "secretStorage") "none") ∧
    protocolValue (value.member "protocol") = some identity.protocol ∧
    (boundedText (value.member "id") identityIdLimit).filter isIdentifierText = some identity.id ∧
    normalizedExpiry dates (value.member "expiresAt") = some identity.expiresAt ∧
    normalizedEmail letters (value.member "email") = some identity.email ∧
    boundedText (value.member "displayName") displayNameLimit = some identity.displayName ∧
    normalizedFingerprint letters (value.member "fingerprint") identity.protocol = some identity.fingerprint := by
  unfold parseMessageCryptoIdentityMetadata
  simp only [Option.ite_none_right_eq_some, Option.bind_eq_bind, Option.bind_eq_some_iff, Option.pure_def,
    Option.some.injEq]
  constructor
  · rintro ⟨checks, protocol, isProtocol, id, isId, expiresAt, isExpiry, email, isEmail, name, isName, fingerprint,
      isFingerprint, rfl⟩
    exact ⟨checks, isProtocol, isId, isExpiry, isEmail, isName, isFingerprint⟩
  · rintro ⟨checks, isProtocol, isId, isExpiry, isEmail, isName, isFingerprint⟩
    exact ⟨checks, _, isProtocol, _, isId, _, isExpiry, _, isEmail, _, isName, _, isFingerprint, rfl⟩

theorem exactKeys_objectOf (names : List String) {members : List (String × JsValue)} {keys : List String}
    (are : members.map Prod.fst = names) (known : names.all (fun name => ofString name ∈ keys.map ofString) = true) :
    exactKeys (.objectOf members) keys = true := by
  rw [← are, List.all_map] at known
  rw [JsValue.objectOf, exactKeys, List.all_map]
  exact known

theorem exactKeys_value (identity : MessageCryptoIdentityMetadata) : exactKeys identity.value identityKeys = true := by
  cases expiry : identity.expiresAt with
  | none =>
    simp only [MessageCryptoIdentityMetadata.value, expiry]
    exact exactKeys_objectOf (identityKeys.filter (· ≠ "expiresAt")) rfl (by decide)
  | some expiresAt =>
    simp only [MessageCryptoIdentityMetadata.value, expiry]
    exact exactKeys_objectOf identityKeys rfl (by decide)

theorem members_value (identity : MessageCryptoIdentityMetadata) :
    identity.value.member "trust" = textValue "unverified" ∧
    identity.value.member "source" = textValue "local-metadata" ∧
    identity.value.member "secretStorage" = textValue "none" ∧
    identity.value.member "protocol" = textValue (protocolText identity.protocol) ∧
    identity.value.member "id" = .string identity.id ∧
    identity.value.member "email" = .string identity.email ∧
    identity.value.member "displayName" = .string identity.displayName ∧
    identity.value.member "fingerprint" = .string identity.fingerprint ∧
    identity.value.member "expiresAt" = (identity.expiresAt.map JsValue.string).getD .undefined := by
  cases expiry : identity.expiresAt <;>
    simp (disch := decide) only [MessageCryptoIdentityMetadata.value, expiry, List.cons_append, List.nil_append,
      JsValue.member_self, JsValue.member_other, JsValue.member_nil, Option.map_some, Option.map_none, Option.getD_some,
      Option.getD_none, and_self]

theorem protocolValue_text (protocol : CryptoProtocol) :
    protocolValue (textValue (protocolText protocol)) = some protocol := by
  cases protocol <;> rfl

/-- An identity that was read is read again as it is. -/
theorem parseIdentity_value
    (lower_clean : ∀ text : JsString, text.all (!isControl ·) = true → (letters.lower text).all (!isControl ·) = true)
    (parsed : parseMessageCryptoIdentityMetadata letters dates value = some identity)
    (short : identity.email.length ≤ emailLimit) :
    parseMessageCryptoIdentityMetadata letters dates identity.value = some identity := by
  obtain ⟨-, -, isId, isExpiry, isEmail, isName, isFingerprint⟩ := parseIdentity_eq_some.1 parsed
  obtain ⟨bounded, units⟩ := Option.filter_eq_some_iff.1 isId
  have id : (boundedText (.string identity.id) identityIdLimit).filter isIdentifierText = some identity.id :=
    Option.filter_eq_some_iff.2 ⟨boundedText_again bounded, units⟩
  have expires : normalizedExpiry dates ((identity.expiresAt.map JsValue.string).getD .undefined) = some identity.expiresAt := by
    cases expiry : identity.expiresAt with
    | none => rfl
    | some expiresAt => exact normalizedExpiry_again (isExpiry.trans (congrArg some expiry))
  obtain ⟨trust, source, storage, protocol, ids, email, name, fingerprint, expiry⟩ := members_value identity
  rw [parseIdentity_eq_some, trust, source, storage, protocol, ids, email, name, fingerprint, expiry]
  exact ⟨⟨exactKeys_value identity, rfl, rfl, rfl⟩, protocolValue_text identity.protocol, id, expires,
    normalizedEmail_again lower_clean isEmail short, boundedText_again isName, normalizedFingerprint_again isFingerprint⟩

theorem plain_identity (identity : MessageCryptoIdentityMetadata) : Plain numerals identity.value := by
  cases expiry : identity.expiresAt with
  | none =>
    simp only [MessageCryptoIdentityMetadata.value, expiry]
    exact plain_objectOf (identityKeys.filter (· ≠ "expiresAt")) rfl (by decide) (by simp [textValue, Plain])
  | some expiresAt =>
    simp only [MessageCryptoIdentityMetadata.value, expiry]
    exact plain_objectOf identityKeys rfl (by decide) (by simp [textValue, Plain])

theorem parseProfile_eq_some : parseMessageCryptoProfile letters dates value = some identities ↔
    ∃ items, exactKeys value ["schemaVersion", "identities"] = true ∧
      value.member "schemaVersion" = .number (.finite 1) ∧ value.member "identities" = .array items ∧
      items.length ≤ identityCountLimit ∧
      items.mapM (parseMessageCryptoIdentityMetadata letters dates) = some identities ∧
      (identities.map (·.id)).Nodup ∧ (identities.map (·.fingerprintKey)).Nodup := by
  unfold parseMessageCryptoProfile
  split
  · rename_i version items isVersion isItems
    rw [isVersion, isItems, Option.ite_none_right_eq_some, Option.filter_eq_some_iff]
    constructor
    · rintro ⟨⟨keys, rfl, few⟩, parsed, distinct⟩
      exact ⟨items, keys, rfl, rfl, few, parsed, of_decide_eq_true distinct⟩
    · rintro ⟨_, keys, same, ⟨⟩, few, parsed, distinct⟩
      cases same
      exact ⟨⟨keys, rfl, few⟩, parsed, decide_eq_true distinct⟩
  · rename_i other
    constructor
    · intro ok
      cases ok
    · rintro ⟨items, -, version, array, -⟩
      exact absurd array (other _ _ version)

theorem members_profileValue (identities : List MessageCryptoIdentityMetadata) :
    (profileValue identities).member "schemaVersion" = .number (.finite 1) ∧
      (profileValue identities).member "identities" = .array (identities.map (·.value)) := by
  simp (disch := decide) only [profileValue, JsValue.member_self, JsValue.member_other, and_self]

/-- The addresses of a profile are not longer than an address may be, in lower case as well. -/
def EmailsFit (profile : JsValue) : Prop :=
  ∀ identity ∈ (profile.member "identities").items, (identity.member "email").text.length ≤ emailLimit

theorem settled_profileValue (one : numerals.isNumber 1)
    (lower_clean : ∀ text : JsString, text.all (!isControl ·) = true → (letters.lower text).all (!isControl ·) = true)
    (parsed : parseMessageCryptoProfile letters dates value = some identities) (fits : EmailsFit (profileValue identities)) :
    Settled numerals (messageCryptoProfileSchema letters dates) (profileValue identities) := by
  obtain ⟨items, -, -, -, few, reads, distinct⟩ := parseProfile_eq_some.1 parsed
  have lengths := (mapM_eq_some.1 reads).length_eq
  have each (identity : MessageCryptoIdentityMetadata) (member : identity ∈ identities) :
      parseMessageCryptoIdentityMetadata letters dates identity.value = some identity := by
    obtain ⟨item, -, isItem⟩ := exists_of_mapM reads member
    have short := fits identity.value (by
      rw [(members_profileValue identities).2]
      exact List.mem_map_of_mem member)
    rw [(members_value identity).2.2.2.2.2.1] at short
    exact parseIdentity_value lower_clean isItem short
  have again : (identities.map (·.value)).mapM (parseMessageCryptoIdentityMetadata letters dates) = some identities := by
    rw [mapM_eq_some, List.forall₂_map_left_iff]
    exact List.forall₂_same.2 each
  constructor
  · have keys : exactKeys (profileValue identities) ["schemaVersion", "identities"] = true :=
      exactKeys_objectOf ["schemaVersion", "identities"] rfl (by decide)
    obtain ⟨version, all⟩ := members_profileValue identities
    have whole : parseMessageCryptoProfile letters dates (profileValue identities) = some identities :=
      parseProfile_eq_some.2 ⟨_, keys, version, all, by rw [List.length_map]; omega, again, distinct⟩
    rw [messageCryptoProfileSchema, whole, Option.map_some]
  · refine plain_objectOf ["schemaVersion", "identities"] rfl (by decide) ?_
    have plain : Plain numerals (.array (identities.map (·.value))) :=
      plain_array (List.forall_mem_map.2 fun identity _ => plain_identity identity)
    simpa [Plain, one] using plain

theorem settled_profile (one : numerals.isNumber 1)
    (lower_clean : ∀ text : JsString, text.all (!isControl ·) = true → (letters.lower text).all (!isControl ·) = true)
    {result : JsValue} (ok : messageCryptoProfileSchema letters dates value = some result) (fits : EmailsFit result) :
    Settled numerals (messageCryptoProfileSchema letters dates) result := by
  obtain ⟨identities, parsed, rfl⟩ := Option.map_eq_some_iff.1 ok
  exact settled_profileValue one lower_clean parsed fits

theorem settled_emptyProfile (one : numerals.isNumber 1) :
    Settled numerals (messageCryptoProfileSchema letters dates) emptyMessageCryptoProfile :=
  ⟨rfl, plain_object (by decide) (by simp [Plain, PlainItems, one])⟩

end Profiles

section Assessments

def containerText : CryptoContainer → String
  | .none => "none"
  | .signed => "signed"
  | .encrypted => "encrypted"
  | .unknown => "unknown"

def stateText : CryptoTrustState → String
  | .unsigned => "unsigned"
  | .unverified => "unverified"
  | .unsupported => "unsupported"

def reasonText : CryptoReason → String
  | .noContainer => "no-cryptographic-container"
  | .openpgpSigned => "openpgp-signed-container"
  | .smimeSigned => "smime-signed-container"
  | .openpgpEncrypted => "openpgp-encrypted-container"
  | .smimeEncrypted => "smime-encrypted-container"
  | .unknownContainer => "unknown-cryptographic-container"

def reasons : List CryptoReason :=
  [.noContainer, .openpgpSigned, .smimeSigned, .openpgpEncrypted, .smimeEncrypted, .unknownContainer]

def assessmentMembers (assessment : CryptographyAssessment) : List (String × JsValue) :=
  [("protocol", match assessment.protocol with
      | some protocol => textValue (protocolText protocol)
      | none => .null),
    ("container", textValue (containerText assessment.container)), ("state", textValue (stateText assessment.state)),
    ("reason", textValue (reasonText assessment.reason)), ("signatureVerification", textValue "not-performed"),
    ("contentDecryption", textValue "not-performed")]

def assessmentValue (assessment : CryptographyAssessment) : JsValue := .objectOf (assessmentMembers assessment)

/-- An assessment says what its reason does. -/
def parseMessageCryptographyAssessment : Schema := fun value =>
  if exactKeys value ["protocol", "container", "state", "reason", "signatureVerification", "contentDecryption"] then do
    let reason ← reasons.find? fun reason => isText (value.member "reason") (reasonText reason)
    let expected := assessmentForReason reason
    if (assessmentMembers expected).all fun member => isSame (value.member member.1) member.2 then
      some (assessmentValue expected)
    else none
  else none

def unsignedMessageCryptography : JsValue := assessmentValue (assessmentForReason .noContainer)

variable {numerals : Numerals}

theorem assessmentValue_settled (reason : CryptoReason) :
    Settled numerals parseMessageCryptographyAssessment (assessmentValue (assessmentForReason reason)) := by
  refine ⟨by cases reason <;> rfl, plain_object (by cases reason <;> decide) ?_⟩
  cases reason <;> simp [assessmentForReason, assessmentMembers, textValue, Plain]

theorem settles_assessment : Settles numerals parseMessageCryptographyAssessment := by
  intro value result _ ok
  obtain ⟨-, ok⟩ := Option.ite_none_right_eq_some.1 ok
  obtain ⟨reason, -, ok⟩ := Option.bind_eq_some_iff.1 ok
  obtain ⟨-, ok⟩ := Option.ite_none_right_eq_some.1 ok
  cases ok
  exact assessmentValue_settled reason

end Assessments

end PersistedState
