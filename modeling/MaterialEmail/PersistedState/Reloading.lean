import MaterialEmail.PersistedState.Loading

/-! A state that has been loaded is saved and loaded again as it is. -/
namespace PersistedState

open JsString
open JsonText (Numerals)
open Schema
open Identities (MailIdentity belonging)
open MessageTags (MessageTagState)

variable {host : Host} {value result : JsValue}

section Addresses

variable {letters : LetterCase} {dates : JsDate.DateParser} {identity : MessageCryptoIdentityMetadata}

/-- The addresses of a profile are not longer than an address may be, in lower case as well. -/
def LowerFits (letters : LetterCase) (profile : JsValue) : Prop :=
  ∀ identity ∈ (profile.member "identities").items, (letters.lower (identity.member "email").text.trim).length ≤ emailLimit

def AddressesLowerFit (letters : LetterCase) (state : JsValue) : Prop :=
  ∀ account ∈ (state.member "accounts").items, LowerFits letters (account.member "messageCryptography")

/-- The address that is kept is the one that was given, in lower case. -/
theorem email_eq (parsed : parseMessageCryptoIdentityMetadata letters dates value = some identity) :
    identity.email = letters.lower (value.member "email").text.trim := by
  obtain ⟨-, -, -, -, isEmail, -⟩ := parseIdentity_eq_some.1 parsed
  obtain ⟨made, -⟩ := Option.filter_eq_some_iff.1 isEmail
  obtain ⟨given, bounded, same⟩ := Option.map_eq_some_iff.1 made
  obtain ⟨units, isText, rfl, -⟩ := boundedText_eq_some.1 bounded
  rw [← same, isText]
  rfl

theorem emailsFit_profile (ok : messageCryptoProfileSchema letters dates value = some result)
    (fits : LowerFits letters value) : EmailsFit result := by
  obtain ⟨identities, parsed, rfl⟩ := Option.map_eq_some_iff.1 ok
  obtain ⟨items, -, -, isItems, -, reads, -⟩ := parseProfile_eq_some.1 parsed
  intro kept isKept
  rw [(members_profileValue identities).2] at isKept
  obtain ⟨identity, isIdentity, rfl⟩ := List.mem_map.1 isKept
  obtain ⟨item, isItem, isRead⟩ := exists_of_mapM reads isIdentity
  have short := fits item (by rw [isItems]; exact isItem)
  rw [(members_value identity).2.2.2.2.2.1]
  rw [← email_eq isRead] at short
  exact short

theorem emailsFit_account (ok : accountSchema host value = some result)
    (fits : LowerFits host.toLetterCase (value.member "messageCryptography")) :
    EmailsFit (result.member "messageCryptography") := by
  have made : orDefault (messageCryptoProfileSchema host.toLetterCase host.dates) emptyMessageCryptoProfile
      (value.member "messageCryptography") = some (result.member "messageCryptography") :=
    get_strictObject (distinct_accountFields host) (Option.filter_eq_some_iff.1 ok).1 (mem_accountFields host)
  unfold orDefault at made
  split at made
  · rw [← Option.some.inj made]
    intro kept isKept
    rw [emptyMessageCryptoProfile, (members_profileValue []).2] at isKept
    cases isKept
  · exact emailsFit_profile made fits

theorem addressesFit (ok : parsePersistedState host value = some result)
    (fits : AddressesLowerFit host.toLetterCase value) : AddressesFit result := by
  have read : array (accountSchema host) 0 100 (value.member "accounts") = some (result.member "accounts") :=
    made_state ok (by simp [stateFields, named])
  obtain ⟨items, results, isItems, -, reads, isResults⟩ := array_eq_some.1 read
  intro account isAccount
  rw [isResults] at isAccount
  obtain ⟨item, isItem, isRead⟩ := exists_of_mapM reads isAccount
  exact emailsFit_account isRead (fits item (by rw [isItems]; exact isItem))

end Addresses

section Reloading

/-- What is written of a state: `JSON.stringify(validated, null, 2)`, and a line feed. -/
def fileText (numerals : Numerals) (state : JsValue) : JsString := JsonText.write numerals 0 state ++ [10]

/-- The file is read as the state that it was written of. -/
def Reloads (host : Host) (state : JsValue) : Prop :=
  (JsonText.parse host.numerals (fileText host.numerals state)).bind (parsePersistedState host) = some state

/-- The assignments name tags of the catalogue, each once. -/
def TagsKnown (tags : MessageTagState) : Prop :=
  ∀ assignment ∈ tags.assignments, assignment.2.Nodup ∧ assignment.2 ⊆ tags.catalog.map (·.id)

/-- Every account that has identities has one default. -/
def OneDefault (identities : List MailIdentity) : Prop :=
  ∀ account, belonging account identities ≠ [] → (belonging account identities).countP (·.isDefault) = 1

theorem reloads_of_settled (settled : Settled host.numerals (parsePersistedState host) result) : Reloads host result := by
  have written : JsonText.parse host.numerals (fileText host.numerals result) = some result :=
    JsonText.parse_write settled.plain (by decide)
  rw [Reloads, written]
  exact settled.again

theorem tags_loaded (proper : Proper host.numerals value)
    (ok : orDefault (messageTagStateSchema host) (tagStateValue MessageTags.emptyMessageTagState) value = some result) :
    ∃ tags, tagStateOf result = some tags ∧ TagsKnown tags ∧
      ∀ given, tagStateOf value = some given → TagsKnown given → tags = given := by
  unfold orDefault at ok
  split at ok
  · rename_i absent
    cases ok
    refine ⟨_, tagStateOf_empty, fun assignment member => (by cases member), fun given isGiven => ?_⟩
    cases value with
    | undefined => cases isGiven
    | _ => cases absent
  · obtain ⟨state, isState, ok⟩ := Option.bind_eq_some_iff.1 ok
    obtain ⟨next, isNext, ok⟩ := Option.bind_eq_some_iff.1 ok
    obtain rfl : tagStateValue next = result := Option.some.inj ok
    refine ⟨next, tagStateOf_loaded proper isState isNext, (MessageTags.messageTagStateSchema_settled isNext).1,
      fun given isGiven known => ?_⟩
    rw [isState] at isGiven
    cases isGiven
    exact MessageTags.messageTagStateSchema_same isNext known

theorem identities_loaded (ok : orDefault identityListSchema (.array []) value = some result) :
    ∃ identities, listOf identityOf result = some identities ∧ OneDefault identities ∧
      ∀ given, listOf identityOf value = some given → OneDefault given → identities = given := by
  unfold orDefault at ok
  split at ok
  · rename_i absent
    cases ok
    refine ⟨[], rfl, fun account some_ => absurd rfl some_, fun given isGiven => ?_⟩
    cases value with
    | undefined => cases isGiven
    | _ => cases absent
  · obtain ⟨given, isGiven, ok⟩ := Option.bind_eq_some_iff.1 ok
    obtain ⟨next, isNext, ok⟩ := Option.bind_eq_some_iff.1 ok
    obtain rfl : JsValue.array (next.map identityValue) = result := Option.some.inj ok
    refine ⟨next, mapM_written fun identity _ => identityOf_identityValue identity,
      (Identities.identityListSchema_settled isNext).1, fun other isOther default => ?_⟩
    rw [isGiven] at isOther
    cases isOther
    exact Identities.identityListSchema_same default isNext

/-- What is loaded is saved and loaded again as it is. It has no tag that is not there, no tag twice and one default for each
account, and what had none of these faults is left alone. -/
theorem loaded_state_settled (proper : Proper host.numerals value) (ok : parsePersistedState host value = some result)
    (fits : AddressesLowerFit host.toLetterCase value) :
    Reloads host result ∧
      (∃ tags, tagStateOf (result.member "messageTags") = some tags ∧ TagsKnown tags ∧
        ∀ given, tagStateOf (value.member "messageTags") = some given → TagsKnown given → tags = given) ∧
      ∃ identities, listOf identityOf (result.member "identities") = some identities ∧ OneDefault identities ∧
        ∀ given, listOf identityOf (value.member "identities") = some given → OneDefault given → identities = given := by
  refine ⟨reloads_of_settled (settled_state proper ok (addressesFit ok fits)), ?_, ?_⟩
  · exact tags_loaded (proper.get _) (made_state ok (by simp [stateFields, named]))
  · exact identities_loaded (made_state ok (by simp [stateFields, named]))

end Reloading

section Example

theorem head?_digits (width value : Nat) :
    (JsDate.digits (width + 1) value).head? = some (UInt16.ofNat (48 + value / 10 ^ width % 10)) := by
  induction width generalizing value with
  | zero => simp [JsDate.digits]
  | succ width ih =>
    rw [JsDate.digits, List.head?_append, ih, Nat.div_div_eq_div_mul, ← Nat.pow_succ']
    rfl

theorem decimal_leads (value : Nat) : JsDate.decimal value = [48] ∨ (JsDate.decimal value).head? ≠ some 48 := by
  rcases Nat.eq_zero_or_pos value with rfl | positive
  · exact Or.inl rfl
  · right
    have least : 0 < value / 10 ^ Nat.log 10 value :=
      Nat.div_pos (Nat.pow_log_le_self 10 (Nat.ne_of_gt positive)) (Nat.pow_pos (by decide))
    have most : value / 10 ^ Nat.log 10 value < 10 := by
      rw [Nat.div_lt_iff_lt_mul (Nat.pow_pos (by decide)), Nat.mul_comm, ← Nat.pow_succ]
      exact Nat.lt_pow_succ_log_self (by decide) value
    rw [JsDate.decimal, head?_digits, Nat.mod_eq_of_lt most]
    generalize value / 10 ^ Nat.log 10 value = digit at least most
    revert least
    revert digit
    decide

theorem isNumeral_decimal (value : Nat) : JsonText.isNumeral (JsDate.decimal value) = true := by
  have digits : ∀ unit ∈ JsDate.decimal value, Json.isDigit unit = true := JsDate.isDigit_digits _ _
  have unsigned : (JsDate.decimal value).head? ≠ some 45 := fun minus => by
    have digit := digits 45 (List.mem_of_mem_head? minus)
    cases digit
  have whole : (JsDate.decimal value).takeWhile Json.isDigit = JsDate.decimal value := List.takeWhile_eq_self_iff.2 digits
  have rest : (JsDate.decimal value).dropWhile Json.isDigit = [] := List.dropWhile_eq_nil_iff.2 digits
  have filled : JsDate.decimal value ≠ [] := List.ne_nil_of_length_pos (by rw [JsDate.length_decimal]; omega)
  have units : (JsDate.decimal value).all JsonText.isNumeralUnit = true := by
    rw [List.all_eq_true]
    intro unit member
    simp [JsonText.isNumeralUnit, digits unit member]
  simp only [JsonText.isNumeral, if_neg unsigned, whole, rest, units, filled, ne_eq, not_false_eq_true, decide_true,
    Bool.true_and, Bool.and_eq_true, Bool.or_eq_true, decide_eq_true_eq]
  exact ⟨decimal_leads value, rfl⟩

/-- The natural numbers, in decimal digits. -/
def decimalNumerals : Numerals where
  isNumber value := ∃ count : Nat, count ≤ MailService.maxSafeInteger ∧ value = count
  write value := JsDate.decimal value.num.toNat
  read text := .finite ((JsDate.number text).getD 0)
  read_write := by
    rintro _ ⟨count, -, rfl⟩
    simp [JsDate.number_decimal]
  numeral_write := by
    rintro _ ⟨count, -, rfl⟩
    simp [isNumeral_decimal]
  length_write := by
    rintro _ ⟨count, small, rfl⟩
    have few : Nat.log 10 count < 16 := Nat.log_lt_of_lt_pow' (by decide) (Nat.lt_of_le_of_lt small (by decide))
    simp [JsDate.length_decimal]
    omega

def Host.plain : Host where
  toHost := MessageTags.Host.plain
  dates := JsDate.DateParser.iso
  urls := MailService.noAddresses
  numerals := decimalNumerals
  isNumber_nat value small := ⟨value, small, rfl⟩
  lower_clean := by
    intro text clean
    rw [List.all_eq_true] at clean ⊢
    refine List.forall_mem_map.2 fun unit member => ?_
    have visible := clean unit member
    unfold asciiLower
    split
    · rename_i upper
      obtain ⟨letter, rfl⟩ := upper_eq upper
      clear visible member
      revert letter
      decide
    · exact visible

def storedPreferences : JsValue :=
  .objectOf [("language", textValue "en"), ("funnyEnglish", .number (.finite 3)), ("funnyCantonese", .number (.finite 3)),
    ("theme", textValue "system"), ("density", textValue "comfortable"), ("accent", textValue "#c62828"),
    ("fontFamily", textValue "Segoe UI"), ("fontScale", .number (.finite 1)), ("fontWeight", .number (.finite 400)),
    ("narratorEnabled", .boolean false), ("narratorLanguage", textValue "en")]

/-- A state with these tags, and nothing else but the preferences. -/
def storedState (tags : JsValue) : JsValue :=
  .objectOf [("schemaVersion", .number (.finite 1)), ("messageTags", tags), ("accounts", .array []),
    ("preferences", storedPreferences), ("folders", .object []), ("messages", .object []), ("details", .object []),
    ("drafts", .array []), ("pendingOperations", .array []), ("outbox", .array []), ("notifications", .array []),
    ("history", .array [])]

/-- A message with one tag, which it has twice. -/
def taggedTwice : MessageTagState :=
  ⟨MessageTags.builtInMessageTags, [(ofString "work:INBOX:7", [ofString "to-do", ofString "to-do"])]⟩

theorem isNumber_plain (count : Nat) (small : count ≤ MailService.maxSafeInteger) : Host.plain.numerals.isNumber count :=
  ⟨count, small, rfl⟩

theorem proper_objectOf {numerals : Numerals} (names : List String) {members : List (String × JsValue)}
    (are : members.map Prod.fst = names) (distinct : (names.map ofString).Nodup)
    (each : ∀ member ∈ members, Proper numerals member.2) : Proper numerals (.objectOf members) := by
  rw [← are, List.map_map] at distinct
  rw [JsValue.objectOf, Proper, properMembers_iff, List.forall_mem_map, List.map_map]
  exact ⟨distinct, each⟩

theorem proper_tagValue {tag : MessageTags.MessageTag} (isNumber : Host.plain.numerals.isNumber tag.ordinal) :
    Proper Host.plain.numerals (tagValue tag) :=
  proper_objectOf tagNames rfl (by decide) (by simp [Proper, isNumber])

theorem proper_tagState {tags : MessageTagState} (distinct : (tags.assignments.map Prod.fst).Nodup)
    (catalogue : ∀ tag ∈ tags.catalog, Host.plain.numerals.isNumber tag.ordinal) :
    Proper Host.plain.numerals (tagStateValue tags) := by
  refine proper_objectOf ["catalog", "assignments"] rfl (by decide) ?_
  simp only [List.forall_mem_cons]
  refine ⟨?_, ?_, List.forall_mem_nil _⟩
  · rw [Proper, properItems_iff]
    exact List.forall_mem_map.2 fun tag member => proper_tagValue (catalogue tag member)
  · rw [Proper, properMembers_iff, List.map_map]
    refine ⟨distinct, List.forall_mem_map.2 fun assignment _ => ?_⟩
    rw [Proper, properItems_iff]
    exact List.forall_mem_map.2 fun id _ => by simp [Proper]

theorem proper_preferences : Proper Host.plain.numerals storedPreferences := by
  have one : Host.plain.numerals.isNumber 1 := by simpa using isNumber_plain 1 (by decide)
  have three : Host.plain.numerals.isNumber 3 := by simpa using isNumber_plain 3 (by decide)
  have many : Host.plain.numerals.isNumber 400 := by simpa using isNumber_plain 400 (by decide)
  refine proper_objectOf ["language", "funnyEnglish", "funnyCantonese", "theme", "density", "accent", "fontFamily",
    "fontScale", "fontWeight", "narratorEnabled", "narratorLanguage"] rfl (by decide) ?_
  simp [Proper, textValue, one, three, many]

theorem proper_storedState {tags : JsValue} (proper : Proper Host.plain.numerals tags) :
    Proper Host.plain.numerals (storedState tags) := by
  have one : Host.plain.numerals.isNumber 1 := by simpa using isNumber_plain 1 (by decide)
  refine proper_objectOf ["schemaVersion", "messageTags", "accounts", "preferences", "folders", "messages", "details",
    "drafts", "pendingOperations", "outbox", "notifications", "history"] rfl (by decide) ?_
  simp [Proper, ProperItems, ProperMembers, one, proper, proper_preferences]

theorem proper_taggedTwice : Proper Host.plain.numerals (storedState (tagStateValue taggedTwice)) := by
  refine proper_storedState (proper_tagState (by decide) fun tag member => ?_)
  have small : 0 ≤ tag.ordinal ∧ tag.ordinal ≤ MailService.maxSafeInteger := by
    revert tag
    decide
  exact isNumber_bounded Host.plain small.1 small.2

theorem taggedTwice_accepted : (parsePersistedState .plain (storedState (tagStateValue taggedTwice))).isSome = true := by
  decide +kernel

theorem taggedTwice_reloads : ∃ result, parsePersistedState .plain (storedState (tagStateValue taggedTwice)) = some result ∧
    Reloads .plain result ∧ ∃ tags, tagStateOf (result.member "messageTags") = some tags ∧ TagsKnown tags := by
  obtain ⟨result, ok⟩ := Option.isSome_iff_exists.1 taggedTwice_accepted
  obtain ⟨reloads, ⟨tags, isTags, known, -⟩, -⟩ := loaded_state_settled proper_taggedTwice ok fun account isAccount => by cases isAccount
  exact ⟨result, ok, reloads, tags, isTags, known⟩

/-- The tags name one that is there, and are not what they were. -/
theorem taggedTwice_changed : ∃ result tags,
    parsePersistedState .plain (storedState (tagStateValue taggedTwice)) = some result ∧
      tagStateOf ((storedState (tagStateValue taggedTwice)).member "messageTags") = some taggedTwice ∧
      (∀ assignment ∈ taggedTwice.assignments, assignment.2 ⊆ taggedTwice.catalog.map (·.id)) ∧
      tagStateOf (result.member "messageTags") = some tags ∧ tags ≠ taggedTwice := by
  have made : ((parsePersistedState .plain (storedState (tagStateValue taggedTwice))).bind fun result =>
      tagStateOf (result.member "messageTags")) =
        some ⟨MessageTags.builtInMessageTags, [(ofString "work:INBOX:7", [ofString "to-do"])]⟩ := by decide +kernel
  obtain ⟨result, ok, isTags⟩ := Option.bind_eq_some_iff.1 made
  exact ⟨result, _, ok, by decide, by decide, isTags, by decide⟩

end Example

end PersistedState
