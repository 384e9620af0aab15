import MaterialEmail.Library.Fallible
import MaterialEmail.Library.Utf8
import MaterialEmail.Pim.Serialization

/-! The vCards that are imported, and how those that are written are folded. -/
namespace Pim.VCard

open JsString ContentLine

/-- What the host knows: the letters, and the texts that bytes stand for in a character set. -/
structure Host extends LetterCase where
  /-- `new TextDecoder(charset, { fatal: true }).decode(bytes)`. -/
  decodeText : JsString → List Nat → Option JsString

/-- A host that takes every byte for a letter of its own. -/
def Host.plain : Host where
  toLetterCase := LetterCase.ascii
  decodeText := fun _ bytes => some (bytes.map UInt16.ofNat)

inductive VCardError where
  /-- `VCardParseError`. -/
  | parse (text : JsString)
  /-- A schema has refused a value. -/
  | invalid
  deriving DecidableEq

/-- A property; a parameter with several values stands there several times. -/
structure VCardProperty where
  name : JsString
  params : List (JsString × JsString) := []
  value : JsString

def VCardProperty.param (property : VCardProperty) (key : String) : List JsString :=
  (property.params.filter fun param => param.1 = ofString key).map fun param => param.2

def fail (text : String) : Except VCardError α := .error (.parse (ofString text))

def schemaOk : Option α → Except VCardError α
  | some value => .ok value
  | none => .error .invalid

section Lines

/-- What follows a prefix whose letters may be in either case. -/
def afterPrefix (front : String) (text : JsString) : Option JsString :=
  if (text.take front.length).map asciiLower = ofString front then some (text.drop front.length) else none

/-- `replace(/^front/i, "")`. -/
def withoutPrefix (front : String) (text : JsString) : JsString := (afterPrefix front text).getD text

/-- `/(?:^|;)ENCODING=QUOTED-PRINTABLE(?:;|:)/i`. -/
def isQuotedPrintable (line : JsString) : Bool :=
  (59 :: line).tails.any fun tail =>
    (afterPrefix ";encoding=quoted-printable" tail).any fun rest => rest.head? = some 59 || rest.head? = some 58

def unfoldLine (logical : List JsString) (line : JsString) : List JsString :=
  match logical.getLast? with
  | some last =>
    if isQuotedPrintable last && last.getLast? = some 61 then
      logical.dropLast ++ [last.dropLast ++ if startsWithBlank line then line.tail else line]
    else if startsWithBlank line then logical.dropLast ++ [last ++ line.tail]
    else logical ++ [line]
  | none => [line]

def unfold (source : JsString) : List JsString :=
  (normalizedLines (dropByteOrderMark source)).foldl unfoldLine []

variable (host : Host)

def parseProperty (line : JsString) : Except VCardError VCardProperty :=
  match separatorFrom false line with
  | none | some 0 => fail "A vCard property is missing its value separator."
  | some separator =>
    let segments := splitUnescaped (line.take separator) 59
    let rawName := segments.headD []
    let name := (rawName.splitOn 46).getLastD []
    let params := segments.tail.flatMap fun segment =>
      let rawKey := segment.takeWhile fun unit => unit ≠ 61
      let (key, rawValues) :=
        if rawKey = segment then (ofString "TYPE", segment) else (rawKey, segment.drop (rawKey.length + 1))
      (splitUnescaped rawValues 44).map fun value => (host.upper key, unquote value)
    .ok ⟨host.upper name, params, line.drop (separator + 1)⟩

end Lines

section Values

variable (host : Host)

/-- The bytes that a text in quoted-printable stands for. -/
def quotedBytes : JsString → List Nat
  | 61 :: high :: low :: rest =>
    match Uri.hexValue high, Uri.hexValue low with
    | some first, some second => (16 * first + second) :: quotedBytes rest
    | _, _ => Utf8.unitUtf8 61 ++ quotedBytes (high :: low :: rest)
  | unit :: rest => Utf8.unitUtf8 unit ++ quotedBytes rest
  | [] => []

def decodeQuotedPrintable (value charset : JsString) : Except VCardError JsString :=
  match host.decodeText charset (quotedBytes value) with
  | some text => .ok text
  | none => .error (.parse (ofString "A quoted-printable vCard value uses unsupported or invalid " ++ charset ++
      ofString " text."))

def decodedPropertyValue (property : VCardProperty) : Except VCardError JsString :=
  let encodings := (property.param "ENCODING").map host.upper
  if encodings = [] then .ok property.value
  else if encodings.any fun encoding => encoding ≠ ofString "QUOTED-PRINTABLE" then
    .error (.parse (ofString "Unsupported vCard text encoding " ++
      (encodings.intersperse (ofString ", ")).flatten ++ ofString "."))
  else
    match property.param "CHARSET" with
    | [] => decodeQuotedPrintable host property.value (ofString "UTF-8")
    | [charset] => decodeQuotedPrintable host property.value charset
    | _ => fail "A quoted-printable vCard value must declare at most one character set."

def propertyText (property : VCardProperty) : Except VCardError JsString := do
  return unescapeText (← decodedPropertyValue host property)

def first (properties : List VCardProperty) (name : String) : Option VCardProperty :=
  properties.find? fun property => property.name = ofString name

def all (properties : List VCardProperty) (name : String) : List VCardProperty :=
  properties.filter fun property => property.name = ofString name

/-- The text of a property, if it is there. -/
def optionalText (properties : List VCardProperty) (name : String) : Except VCardError (Option JsString) :=
  match first properties name with
  | some property => (propertyText host property).map some
  | none => .ok none

def preferred (property : VCardProperty) : Bool :=
  ofString "1" ∈ property.param "PREF" || (property.param "TYPE").any fun value => host.lower value = ofString "pref"

def propertyTypes (property : VCardProperty) : List JsString :=
  (((property.param "TYPE").map host.lower).filter fun value => value ≠ ofString "pref").eraseDups

/-- Keeps of the values with equal keys, in lower case, the first. -/
def deduplicate {α : Type} (key : α → JsString) : List JsString → List α → List α
  | _, [] => []
  | seen, value :: rest =>
    if host.lower (key value) ∈ seen then deduplicate key seen rest
    else value :: deduplicate key (host.lower (key value) :: seen) rest

/-- Of the preferred values only the first stays one. -/
def normalizePreferred {α : Type} (preferred : α → Bool) (unprefer : α → α) : Bool → List α → List α
  | _, [] => []
  | found, value :: rest =>
    if preferred value && found then unprefer value :: normalizePreferred preferred unprefer true rest
    else value :: normalizePreferred preferred unprefer (found || preferred value) rest

def parseEmail (property : VCardProperty) : Except VCardError ContactEmail := do
  let text ← propertyText host property
  return ⟨withoutPrefix "mailto:" text, propertyTypes host property, preferred host property⟩

def parsePhone (property : VCardProperty) : Except VCardError ContactPhone := do
  let text ← propertyText host property
  return ⟨withoutPrefix "tel:" text, propertyTypes host property, preferred host property⟩

/-- A component with a text in it. -/
def component (components : List JsString) (index : Nat) : Option JsString :=
  components[index]?.filter fun value => value ≠ []

def parseAddress (property : VCardProperty) : Except VCardError ContactAddress := do
  let components := (splitUnescaped (← decodedPropertyValue host property) 59).map unescapeText
  return {
    poBox := component components 0
    extended := component components 1
    street := component components 2
    locality := component components 3
    region := component components 4
    postalCode := component components 5
    country := component components 6
    types := propertyTypes host property
    preferred := preferred host property }

end Values

section Cards

variable (host : Host)

/-- `parts.filter(Boolean).join(" ")`. -/
def joinedName (name : ContactName) : JsString :=
  ([name.namePrefix, name.given, name.additional, name.family, name.suffix].filterMap id).intersperse [32] |>.flatten

/-- The first text with something in it. -/
def firstFilled (texts : List JsString) : JsString := (texts.find? fun text => text ≠ []).getD []

/-- The value of a property, or nothing. -/
def valueOrNothing (properties : List VCardProperty) (name : String) : Except VCardError JsString :=
  match first properties name with
  | some property => decodedPropertyValue host property
  | none => .ok []

/-- The UID of a contact; one that is empty is none. -/
def contactUid (properties : List VCardProperty) : Except VCardError (Option JsString) :=
  match (first properties "UID").filter fun property => property.value ≠ [] with
  | some property => (propertyText host property).map some
  | none => .ok none

def contactFromProperties (properties : List VCardProperty) : Except VCardError (CreateInput .contact) := do
  let rawName ← valueOrNothing host properties "N"
  let nameParts := (splitUnescaped rawName 59).map unescapeText
  let name : ContactName := {
    family := component nameParts 0
    given := component nameParts 1
    additional := component nameParts 2
    namePrefix := component nameParts 3
    suffix := component nameParts 4 }
  let emails := normalizePreferred (fun email : ContactEmail => email.preferred)
    (fun email => { email with preferred := false }) false
    (deduplicate host (fun email : ContactEmail => email.value) [] (← (all properties "EMAIL").mapM (parseEmail host)))
  let phones := normalizePreferred (fun phone : ContactPhone => phone.preferred)
    (fun phone => { phone with preferred := false }) false
    (deduplicate host (fun phone : ContactPhone => phone.value) [] (← (all properties "TEL").mapM (parsePhone host)))
  let organization ← optionalText host properties "ORG"
  let displayName ← optionalText host properties "FN"
  let addresses ← (all properties "ADR").mapM (parseAddress host)
  let uid ← contactUid host properties
  let mailbox := match emails with
    | email :: _ => email.value.takeWhile fun unit => unit ≠ 64
    | [] => []
  let content : ContactContent := {
    displayName := firstFilled [displayName.getD [], joinedName name, mailbox, organization.getD [],
      ofString "Unnamed contact"]
    name := name
    nickname := ← optionalText host properties "NICKNAME"
    emails := emails
    phones := phones
    addresses := addresses
    organization := organization.filter fun text => text ≠ []
    title := ← optionalText host properties "TITLE"
    notes := ← optionalText host properties "NOTE" }
  schemaOk (createSchema host.toLetterCase .contact ⟨uid, content⟩)

/-- A member by its UID, or by its address. -/
inductive MemberReference where
  | uid (value : JsString)
  | email (value : JsString)

def memberReference (property : VCardProperty) : Except VCardError MemberReference := do
  let value ← propertyText host property
  match afterPrefix "urn:uuid:" value with
  | some uid => return .uid uid
  | none =>
    match afterPrefix "urn:material-email:" value with
    | some encoded =>
      match Uri.decodeURIComponent encoded with
      | some uid => return .uid uid
      | none => fail "A mailing-list member UID is not valid percent-encoding."
    | none =>
      match afterPrefix "mailto:" value with
      | some encoded =>
        let address := Uri.decodeURIComponent (encoded.takeWhile fun unit => unit ≠ 63)
        match address.bind fun address => ContactEmail.parse host.toLetterCase { value := address } with
        | some email => return .email email.value
        | none => fail "A mailing-list mailto member is not a valid email address."
      | none => .error (.parse (ofString "Unsupported mailing-list MEMBER URI " ++ value ++ ofString "."))

def MemberReference.uid? : MemberReference → Option JsString
  | .uid value => some value
  | .email _ => none

def MemberReference.email? : MemberReference → Option JsString
  | .email value => some value
  | .uid _ => none

def mailingListFromProperties (properties : List VCardProperty) : Except VCardError ParsedVCardMailingList := do
  let references ← (all properties "MEMBER").mapM (memberReference host)
  let name ← optionalText host properties "FN"
  let uid ← optionalText host properties "UID"
  let content : MailingListContent := {
    name := name.getD []
    nickname := ← optionalText host properties "NICKNAME"
    description := ← optionalText host properties "NOTE"
    memberUids := deduplicate host id [] (references.filterMap MemberReference.uid?) }
  let input ← schemaOk (createSchema host.toLetterCase .mailingList ⟨uid, content⟩)
  return ⟨input, deduplicate host id [] (references.filterMap MemberReference.email?)⟩

end Cards

section Documents

variable (host : Host)

def maxVCardBytes : Nat := 5 * 1024 * 1024

def maxVCards : Nat := 10000

/-- The cards that are complete, and the one that is open. -/
structure CardReader where
  cards : List (List VCardProperty) := []
  current : Option (List VCardProperty) := none

def readCardLine (reader : CardReader) (rawLine : JsString) : Except VCardError CardReader := do
  let line := rawLine.rdropWhile isWhiteSpace
  if line = [] then return reader
  else if host.upper line = ofString "BEGIN:VCARD" then
    if reader.current.isSome then fail "Nested vCards are not supported."
    else return { reader with current := some [] }
  else if host.upper line = ofString "END:VCARD" then
    match reader.current with
    | none => fail "A vCard ended without beginning."
    | some current =>
      if maxVCards < reader.cards.length + 1 then fail "The vCard input contains too many cards."
      else return ⟨reader.cards ++ [current], none⟩
  else
    match reader.current with
    | some current => return { reader with current := some (current ++ [← parseProperty host line]) }
    | none => fail "Text outside a vCard block is not supported."

def addCard (bundle : ParsedVCardBundle) (properties : List VCardProperty) : Except VCardError ParsedVCardBundle :=
  match all properties "VERSION" with
  | [versionProperty] => do
    let version ← decodedPropertyValue host versionProperty
    if version ≠ ofString "3.0" ∧ version ≠ ofString "4.0" then
      .error (.parse (ofString "Unsupported vCard version " ++ version ++ ofString "."))
    else if 1 < (all properties "UID").length then fail "A vCard cannot contain more than one UID property."
    else if (all properties "FN").length ≠ 1 then fail "Each vCard must contain exactly one FN property."
    else if 1 < (all properties "KIND").length then fail "A vCard cannot contain more than one KIND property."
    else
      let kind ← valueOrNothing host properties "KIND"
      if host.lower kind = ofString "group" then
        let mailingList ← mailingListFromProperties host properties
        match mailingList.input.uid.filter fun uid =>
            uid ∈ bundle.mailingLists.filterMap fun list => list.input.uid with
        | some uid => .error (.parse (ofString "Duplicate mailing-list UID " ++ uid ++ ofString "."))
        | none => return { bundle with mailingLists := bundle.mailingLists ++ [mailingList] }
      else
        let contact ← contactFromProperties host properties
        match contact.uid.filter fun uid => uid ∈ bundle.contacts.filterMap fun contact => contact.uid with
        | some uid => .error (.parse (ofString "Duplicate contact UID " ++ uid ++ ofString "."))
        | none => return { bundle with contacts := bundle.contacts ++ [contact] }
  | _ => fail "Each vCard must contain exactly one VERSION property."

def parseVCardBundle (source : JsString) : Except VCardError ParsedVCardBundle := do
  if maxVCardBytes < byteLength source then fail "The vCard input exceeds the 5 MiB local import limit."
  else
    let reader ← (unfold source).foldlM (readCardLine host) {}
    if reader.current.isSome then fail "A vCard block is missing END:VCARD."
    else if reader.cards = [] then fail "No vCard records were found."
    else reader.cards.foldlM (addCard host) ⟨[], []⟩

end Documents

section Bundles

open Fallible

variable {host : Host} {bundle bundle' : ParsedVCardBundle}

/-- No UID is used by two contacts or by two mailing lists, and each record has passed its schema. -/
structure WellFormed (letters : LetterCase) (bundle : ParsedVCardBundle) : Prop where
  contacts : (bundle.contacts.filterMap fun contact => contact.uid).Nodup
  mailingLists : (bundle.mailingLists.filterMap fun list => list.input.uid).Nodup
  parsedContacts : ∀ contact ∈ bundle.contacts, ∃ raw, createSchema letters .contact raw = some contact
  parsedLists : ∀ list ∈ bundle.mailingLists, ∃ raw, createSchema letters .mailingList raw = some list.input

theorem schemaOk_ok {value : Option α} {result : α} (ok : schemaOk value = .ok result) : value = some result := by
  cases value with
  | none => cases ok
  | some value =>
    cases ok
    rfl

theorem contactFromProperties_parsed {properties : List VCardProperty} {contact : CreateInput .contact}
    (ok : contactFromProperties host properties = .ok contact) :
    ∃ raw, createSchema host.toLetterCase .contact raw = some contact := by
  unfold contactFromProperties at ok
  obtain ⟨_, -, ok⟩ := bind_eq_ok ok
  obtain ⟨_, -, ok⟩ := bind_eq_ok ok
  obtain ⟨_, -, ok⟩ := bind_eq_ok ok
  obtain ⟨_, -, ok⟩ := bind_eq_ok ok
  obtain ⟨_, -, ok⟩ := bind_eq_ok ok
  obtain ⟨_, -, ok⟩ := bind_eq_ok ok
  obtain ⟨_, -, ok⟩ := bind_eq_ok ok
  obtain ⟨_, -, ok⟩ := bind_eq_ok ok
  obtain ⟨_, -, ok⟩ := bind_eq_ok ok
  obtain ⟨_, -, ok⟩ := bind_eq_ok ok
  exact ⟨_, schemaOk_ok ok⟩

theorem mailingListFromProperties_parsed {properties : List VCardProperty} {list : ParsedVCardMailingList}
    (ok : mailingListFromProperties host properties = .ok list) :
    ∃ raw, createSchema host.toLetterCase .mailingList raw = some list.input := by
  unfold mailingListFromProperties at ok
  obtain ⟨_, -, ok⟩ := bind_eq_ok ok
  obtain ⟨_, -, ok⟩ := bind_eq_ok ok
  obtain ⟨_, -, ok⟩ := bind_eq_ok ok
  obtain ⟨_, -, ok⟩ := bind_eq_ok ok
  obtain ⟨_, -, ok⟩ := bind_eq_ok ok
  obtain ⟨input, parses, ok⟩ := bind_eq_ok ok
  cases ok
  exact ⟨_, schemaOk_ok parses⟩

theorem nodup_concat {α : Type} {uidOf : α → Option JsString} {records : List α} {record : α}
    (distinct : (records.filterMap uidOf).Nodup)
    (new : (uidOf record).filter (fun uid => uid ∈ records.filterMap uidOf) = none) :
    ((records ++ [record]).filterMap uidOf).Nodup := by
  rw [List.filterMap_append, List.nodup_append]
  refine ⟨distinct, ?_, ?_⟩
  · cases isUid : uidOf record <;> simp [isUid]
  · intro uid old uid' member same
    subst same
    obtain ⟨_, inSingle, isUid⟩ := List.mem_filterMap.1 member
    rw [List.mem_singleton] at inSingle
    subst inSingle
    simp only [isUid, Option.filter_eq_none_iff, Option.some.injEq, forall_eq', decide_eq_true_eq] at new
    exact new old

theorem addCard_wellFormed {properties : List VCardProperty} (formed : WellFormed host.toLetterCase bundle)
    (ok : addCard host bundle properties = .ok bundle') : WellFormed host.toLetterCase bundle' := by
  unfold addCard at ok
  split at ok
  · obtain ⟨version, -, ok⟩ := bind_eq_ok ok
    split at ok
    · cases ok
    split at ok
    · cases ok
    split at ok
    · cases ok
    split at ok
    · cases ok
    obtain ⟨kind, -, ok⟩ := bind_eq_ok ok
    split at ok
    · obtain ⟨list, parses, ok⟩ := bind_eq_ok ok
      split at ok
      · cases ok
      · rename_i new
        cases ok
        refine ⟨formed.contacts, nodup_concat formed.mailingLists new, formed.parsedContacts, fun other member => ?_⟩
        rcases List.mem_append.1 member with old | last
        · exact formed.parsedLists other old
        · rw [List.mem_singleton.1 last]
          exact mailingListFromProperties_parsed parses
    · obtain ⟨contact, parses, ok⟩ := bind_eq_ok ok
      split at ok
      · cases ok
      · rename_i new
        cases ok
        refine ⟨nodup_concat formed.contacts new, formed.mailingLists, fun other member => ?_, formed.parsedLists⟩
        rcases List.mem_append.1 member with old | last
        · exact formed.parsedContacts other old
        · rw [List.mem_singleton.1 last]
          exact contactFromProperties_parsed parses
  · cases ok

theorem addCards_wellFormed {cards : List (List VCardProperty)} (formed : WellFormed host.toLetterCase bundle)
    (ok : cards.foldlM (addCard host) bundle = .ok bundle') : WellFormed host.toLetterCase bundle' := by
  induction cards generalizing bundle with
  | nil =>
    cases ok
    exact formed
  | cons card cards ih =>
    rw [List.foldlM_cons] at ok
    obtain ⟨next, adds, ok⟩ := bind_eq_ok ok
    exact ih (addCard_wellFormed formed adds) ok

theorem parseVCardBundle_wellFormed {source : JsString} (ok : parseVCardBundle host source = .ok bundle) :
    WellFormed host.toLetterCase bundle := by
  unfold parseVCardBundle at ok
  split at ok
  · cases ok
  obtain ⟨reader, -, ok⟩ := bind_eq_ok ok
  split at ok
  · cases ok
  split at ok
  · cases ok
  exact addCards_wellFormed ⟨by simp, by simp, by simp, by simp⟩ ok

end Bundles

section Serialization

/-- The physical lines of a line: no more than 75 bytes each, as far as characters allow. -/
def foldLine (text : JsString) : List JsString := foldFrom 75 [] (characters text)

def structuredText (values : List (Option JsString)) : JsString :=
  joined [59] (values.map fun value => escapeText (value.getD []))

end Serialization

end Pim.VCard
