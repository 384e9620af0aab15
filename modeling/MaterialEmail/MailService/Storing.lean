import MaterialEmail.MailService.Model
import MaterialEmail.Library.Fallible

/-! Which messages can be listed and opened so that the result can be stored. Some of what a server sends is cut to
what the schemas allow, and some is not. -/
namespace MailService

open JsDate Identities

section Addresses

/-- An address is left out where it is empty. -/
def SentAddress.Fits (entry : SentAddress) : Prop :=
  entry.address.getD [] ≠ [] → (entry.name.getD []).length ≤ 2048 ∧ (entry.address.getD []).length ≤ 2048

def AddressesFit (entries : List SentAddress) : Prop :=
  entries.countP (fun entry => entry.address.getD [] ≠ []) ≤ 1000 ∧ ∀ entry ∈ entries, entry.Fits

theorem addressesSchema_iff (value : Option (List SentAddress)) :
    addressesSchema (envelopeAddresses value) = true ↔ AddressesFit (value.getD []) := by
  have count : (envelopeAddresses value).length = (value.getD []).countP fun entry => entry.address.getD [] ≠ [] := by
    rw [envelopeAddresses, ← List.countP_eq_length_filter, List.countP_map]
    rfl
  rw [addressesSchema, Bool.and_eq_true, decide_eq_true_iff, count]
  refine and_congr_right fun _ => ?_
  simp only [envelopeAddresses, List.all_eq_true, List.mem_filter, List.mem_map, decide_eq_true_eq, addressSchema,
    boundedString, Bool.and_eq_true, SentAddress.Fits]
  constructor
  · exact fun each entry member filled => each _ ⟨⟨entry, member, rfl⟩, filled⟩
  · rintro each _ ⟨⟨entry, member, rfl⟩, filled⟩
    exact each entry member filled

theorem addressList_eq (value : List (List SentAddress)) : addressList value = envelopeAddresses (some value.flatten) := by
  simp only [addressList, envelopeAddresses, Option.getD_some]
  induction value with
  | nil => rfl
  | cons item items ih => simp only [List.flatMap_cons, List.flatten_cons, List.map_append, List.filter_append, ih]

theorem addressList_iff (value : List (List SentAddress)) :
    addressesSchema (addressList value) = true ↔ AddressesFit value.flatten := by
  rw [addressList_eq]
  exact addressesSchema_iff (some value.flatten)

end Addresses

section Fields

theorem identifier_length (accountId : Identifier) : accountId.1.length ≤ 512 := by
  have valid := accountId.2
  unfold identifierSchema at valid
  split at valid
  · rename_i bounds
    exact Option.some.inj valid ▸ bounds.2.1
  · cases valid

theorem decimal_length_le {value width : Nat} (positive : 0 < width) :
    (decimal value).length ≤ width ↔ value < 10 ^ width := by
  rw [length_decimal, Nat.add_one_le_iff]
  by_cases zero : value = 0
  · subst zero
    simp [positive]
  · exact Nat.log_lt_iff_lt_pow (by decide) zero

/-- The identifier of a message that is somewhere is short enough. -/
theorem messageIdentifier_fits (accountId : Identifier) {folderPath : JsString} {uid : Nat}
    (isPath : folderPathSchema folderPath = true) (isUid : messageUidSchema uid = true) :
    filledString 4096 (messageIdentifier accountId folderPath uid) = true := by
  have account := identifier_length accountId
  have path : folderPath.length ≤ 2048 := by
    simp only [folderPathSchema, filledString, Bool.and_eq_true, decide_eq_true_eq] at isPath
    exact isPath.1.2
  have digits : (decimal uid).length ≤ 10 := by
    simp only [messageUidSchema, Bool.and_eq_true, decide_eq_true_eq] at isUid
    exact (decimal_length_le (by decide)).2 (by omega)
  simp only [filledString, messageIdentifier, Bool.and_eq_true, decide_eq_true_eq, List.length_append, List.length_cons]
  omega

theorem uidValidity_fits (uidValidity : Option Nat) :
    ((uidValidity.filter (· ≠ 0)).map decimal).all (filledString 128) = true ↔ ∀ value ∈ uidValidity, value < 10 ^ 128 := by
  cases uidValidity with
  | none => simp
  | some value =>
    have lengths := @decimal_length_le value 128 (by decide)
    by_cases zero : value = 0
    · subst zero
      simp [Option.filter_some]
    · have filled : 1 ≤ (decimal value).length := by
        rw [length_decimal]
        omega
      simpa [Option.filter_some, zero, filledString, filled] using lengths

/-- A text that is left out when it is empty fits when it is not too long. -/
theorem present_bounded (value : Option JsString) (maximum : Nat) :
    (present value).all (boundedString maximum) = true ↔ ∀ text ∈ value, text.length ≤ maximum := by
  cases value with
  | none => simp [present]
  | some text => by_cases empty : text = [] <;> simp [present, Option.filter_some, empty, boundedString]

theorem present_filled (value : Option JsString) (maximum : Nat) :
    (present value).all (filledString maximum) = true ↔ ∀ text ∈ value, text.length ≤ maximum := by
  cases value with
  | none => simp [present]
  | some text =>
    by_cases empty : text = []
    · simp [present, Option.filter_some, empty]
    · have positive : 1 ≤ text.length := List.length_pos_iff.2 empty
      simp [present, Option.filter_some, empty, filledString, positive]

theorem boundedMessageReference_fits (value : Option JsString) :
    (boundedMessageReference value).all (boundedString 4096) = true := by
  cases kept : boundedMessageReference value with
  | none => rfl
  | some text =>
    have bounds := of_decide_eq_true (Option.filter_eq_some_iff.1 kept).2
    exact decide_eq_true bounds.2

theorem boundedMessageReferences_fit (value : List JsString) :
    (boundedMessageReferences value).length ≤ 100 ∧ (boundedMessageReferences value).all (filledString 4096) = true := by
  refine ⟨List.length_take_le _ _, List.all_eq_true.2 fun text member => ?_⟩
  have kept := List.mem_of_mem_take member
  rw [List.mem_eraseDups, List.mem_filter] at kept
  obtain ⟨filled, short⟩ := of_decide_eq_true kept.2
  exact Bool.and_eq_true_iff.2 ⟨decide_eq_true filled, decide_eq_true short⟩

theorem textPreview_fits (value : JsString) : boundedString 4096 (textPreview value) = true := by
  have short : (textPreview value).length ≤ 240 := List.length_take_le _ _
  exact decide_eq_true (by omega)

theorem length_trim_le (text : JsString) : text.trim.length ≤ text.length :=
  (List.rdropWhile_prefix _ _).length_le.trans (List.dropWhile_sublist _).length_le

/-- The subject that is shown fits exactly if what there is of it does. -/
theorem subjectText_fits (subject : Option JsString) {maximum : Nat} (enough : 12 ≤ maximum) :
    boundedString maximum (subjectText subject) = true ↔ ∀ text ∈ subject, text.trim.length ≤ maximum := by
  cases subject with
  | none => simpa [subjectText, boundedString, JsString.ofString] using enough
  | some text =>
    by_cases empty : text.trim = []
    · simpa [subjectText, Option.filter_some, empty, boundedString, JsString.ofString] using enough
    · simp [subjectText, Option.filter_some, empty, boundedString]

theorem preview_fits (subject : Option JsString) (maximum : Nat) :
    boundedString maximum ((subject.map JsString.trim).getD []) = true ↔ ∀ text ∈ subject, text.trim.length ≤ maximum := by
  cases subject <;> simp [boundedString]

theorem timestamp_fits (dates : DateParser) (time : TimeValue) : timestampSchema dates (toISOString time) = true := by
  have short := length_toISOString_le time.1
  have filled : 1 ≤ (toISOString time.1).length := by
    rw [toISOString_eq, List.length_append, length_afterYear]
    omega
  have upper : (toISOString time.1).length ≤ 64 := by omega
  simp [timestampSchema, filledString, dates.parse_toISOString time, filled, upper]

end Fields

section Images

variable {urls : UrlParser}

/-- The images of the web among those that are met. -/
def webImages (urls : UrlParser) (images : List ImageAttributes) : List Url :=
  images.filterMap fun attributes => remoteImage urls attributes.src

def sourceOf (url : Url) : RemoteContentSource := ⟨url.origin, url.hostname, url.protocol⟩

/-- The sources that are listed are those of the first images. -/
theorem transformImages_sources (sources : List RemoteContentSource) (images : List ImageAttributes) :
    (transformImages urls sources images).1 =
      sources ++ ((webImages urls images).take (remoteContentSourcesLimit - sources.length)).map sourceOf := by
  induction images generalizing sources with
  | nil => simp [transformImages, webImages]
  | cons attributes images ih =>
    simp only [transformImages, transformImage, webImages, List.filterMap_cons]
    cases remoteImage urls attributes.src with
    | none => exact ih sources
    | some url =>
      dsimp only
      split
      · rename_i full
        rw [ih, Nat.sub_eq_zero_of_le full, List.take_zero, List.take_zero]
      · rename_i room
        obtain ⟨rest, isRest⟩ : ∃ rest, remoteContentSourcesLimit - sources.length = rest + 1 :=
          ⟨remoteContentSourcesLimit - sources.length - 1, by omega⟩
        have less : remoteContentSourcesLimit - (sources.length + 1) = rest := by omega
        rw [ih, List.length_append, List.length_singleton, less, isRest, List.take_succ_cons, List.map_cons, List.append_assoc]
        rfl

theorem remoteImage_parsed {raw : Option JsString} {url : Url} (remote : remoteImage urls raw = some url) :
    isHttp url.protocol = true ∧ ∃ text, urls.parse text = some url := by
  unfold remoteImage at remote
  split at remote
  · cases remote
  · cases remote
  · obtain ⟨parsed, plain⟩ := Option.filter_eq_some_iff.1 remote
    exact ⟨(of_decide_eq_true plain).1, _, parsed⟩

/-- An image of the web passes if the name of its host is not too long. -/
theorem remoteContentSourceSchema_iff {raw : Option JsString} {url : Url} (remote : remoteImage urls raw = some url) :
    remoteContentSourceSchema urls (sourceOf url) = true ↔ url.hostname.length ≤ 253 := by
  obtain ⟨web, text, parsed⟩ := remoteImage_parsed remote
  have filled : 1 ≤ url.hostname.length := List.length_pos_iff.2 (urls.hostname_ne text url parsed web)
  have longer := urls.hostname_le text url parsed web
  have shorter := urls.origin_le text url parsed web
  obtain ⟨plain, reads, origin, hostname, protocol, username, password⟩ := urls.parse_origin text url parsed web
  constructor
  · intro accepted
    simp only [remoteContentSourceSchema, sourceOf, filledString, Bool.and_eq_true] at accepted
    exact of_decide_eq_true accepted.1.1.2.2
  · intro short
    have originFilled : 1 ≤ url.origin.length := by omega
    have originShort : url.origin.length ≤ 2048 := by omega
    simp [remoteContentSourceSchema, remoteContentOriginSchema, sourceOf, filledString, reads, origin, hostname, protocol,
      username, password, web, filled, short, originFilled, originShort]

theorem mem_webImages {images : List ImageAttributes} {url : Url} (member : url ∈ webImages urls images) :
    ∃ raw, remoteImage urls raw = some url := by
  obtain ⟨attributes, -, remote⟩ := List.mem_filterMap.1 member
  exact ⟨attributes.src, remote⟩

theorem sources_fit (images : List ImageAttributes) :
    (transformImages urls [] images).1.length ≤ 1000 ∧
      ((transformImages urls [] images).1.all (remoteContentSourceSchema urls) = true ↔
        ∀ url ∈ (webImages urls images).take 1000, url.hostname.length ≤ 253) := by
  rw [transformImages_sources]
  refine ⟨(List.length_map _).trans_le (List.length_take_le _ _), ?_⟩
  simp only [List.nil_append, List.length_nil, List.all_map, List.all_eq_true]
  refine forall₂_congr fun url member => ?_
  obtain ⟨raw, remote⟩ := mem_webImages (List.mem_of_mem_take member)
  exact remoteContentSourceSchema_iff remote

end Images

section Safety

theorem attachmentSizes_safe {total : Nat} {sizes : List Nat} (safe : assertAttachmentSizes total sizes = .ok ()) :
    ∀ size ∈ sizes, size ≤ attachmentBytesLimit := by
  induction sizes generalizing total with
  | nil => exact fun size member => nomatch member
  | cons first sizes ih =>
    unfold assertAttachmentSizes at safe
    split at safe
    · cases safe
    rename_i small
    split at safe
    · cases safe
    intro size member
    rcases List.mem_cons.1 member with rfl | later
    · exact Nat.not_lt.1 small
    · exact ih safe size later

/-- What the limits say of a message that is within them. -/
structure Safe (parsed : ParsedMail) : Prop where
  text : (parsed.text.getD []).length ≤ textCharactersLimit
  count : parsed.attachments.length ≤ attachmentCountLimit
  sizes : ∀ item ∈ parsed.attachments, item.contentBytes ≤ attachmentBytesLimit

theorem safe_of_asserted {parsed : ParsedMail} (safe : assertParsedMimeSafety parsed = .ok ()) : Safe parsed := by
  unfold assertParsedMimeSafety at safe
  split at safe
  · cases safe
  rename_i text
  split at safe
  · cases safe
  unfold assertMimeAttachmentSizes at safe
  split at safe
  · cases safe
  rename_i count
  rw [List.length_map] at count
  exact ⟨Nat.not_lt.1 text, Nat.not_lt.1 count, fun item member =>
    attachmentSizes_safe safe _ (List.mem_map_of_mem member)⟩

end Safety

section Conditions

variable (dates : DateParser) (urls : UrlParser) (sanitizer : HtmlSanitizer)

/-- What a listed message must be like to be stored: whatever is not cut must fit. -/
structure Listable (folderPath : JsString) (uidValidity : Option Nat) (message : FetchedMessage) (now : TimeValue) : Prop where
  place : folderPathSchema folderPath = true
  uid : messageUidSchema message.uid = true
  uidValidity : ∀ value ∈ uidValidity, value < 10 ^ 128
  date : (listedDate dates now message).isSome
  messageId : ∀ text ∈ message.envelope.bind (·.messageId), text.length ≤ 4096
  «from» : AddressesFit ((message.envelope.bind (·.«from»)).getD [])
  «to» : AddressesFit ((message.envelope.bind (·.«to»)).getD [])
  cc : AddressesFit ((message.envelope.bind (·.cc)).getD [])
  subject : ∀ text ∈ message.envelope.bind (·.subject), text.trim.length ≤ 4096
  size : ∀ size ∈ message.size, size ≤ maxSafeInteger

/-- What an attachment must be like. -/
structure ParsedAttachment.Fits (item : ParsedAttachment) : Prop where
  filename : ∀ text ∈ item.filename, 1 ≤ text.length ∧ text.length ≤ 4096
  contentType : 1 ≤ item.contentType.length ∧ item.contentType.length ≤ 1024
  cid : ∀ text ∈ item.cid, text.length ≤ 4096

/-- What a message must be like to be opened and stored, and its HTML when it has been sanitized. -/
structure Openable (folderPath : JsString) (uid : Nat) (parsed : ParsedMail) (size : Nat)
    (cryptography : CryptographyAssessment) (uidValidity : Option JsString) : Prop where
  place : folderPathSchema folderPath = true
  uid : messageUidSchema uid = true
  uidValidity : ∀ text ∈ uidValidity, text.length ≤ 128
  date : ∀ date ∈ parsed.date, date.isSome
  messageId : ∀ text ∈ parsed.messageId, text.length ≤ 4096
  «from» : AddressesFit parsed.«from».flatten
  «to» : AddressesFit parsed.«to».flatten
  cc : AddressesFit parsed.cc.flatten
  replyTo : AddressesFit parsed.replyTo.flatten
  subject : ∀ text ∈ parsed.subject, text.trim.length ≤ 65536
  size : size ≤ maxSafeInteger
  cryptography : cryptography = assessmentForReason cryptography.reason
  html : (sanitizer.withoutImages (htmlSource parsed)).length ≤ contentLimit
  remoteHtml : (sanitizer.withImages (htmlSource parsed)
    (transformImages urls [] (sanitizer.images (htmlSource parsed))).2).length ≤ contentLimit
  hosts : ∀ url ∈ (webImages urls (sanitizer.images (htmlSource parsed))).take 1000, url.hostname.length ≤ 253
  attachments : ∀ item ∈ parsed.attachments, item.Fits

variable {dates urls sanitizer}

theorem isoString_eq_ok {time : Option TimeValue} {text : JsString} (ok : isoString time = .ok text) :
    ∃ value, time = some value ∧ text = toISOString value := by
  cases time with
  | none => cases ok
  | some value =>
    cases ok
    exact ⟨value, rfl, rfl⟩

/-- A message can be listed and stored exactly if it is as it must be. -/
theorem listedMessage_iff (letters : LetterCase) (accountId : Identifier) (folderPath : JsString) (uidValidity : Option Nat)
    (message : FetchedMessage) (now : TimeValue) :
    (∃ row, listedMessage letters dates accountId folderPath uidValidity now message = .ok row ∧
      messageSummarySchema dates row = true) ↔ Listable dates folderPath uidValidity message now := by
  have size : decide (message.size.getD 0 ≤ maxSafeInteger) = true ↔ ∀ size ∈ message.size, size ≤ maxSafeInteger := by
    cases message.size <;> simp
  constructor
  · rintro ⟨row, listed, stored⟩
    obtain ⟨text, dated, rest⟩ := Fallible.bind_eq_ok listed
    obtain ⟨time, isTime, rfl⟩ := isoString_eq_ok dated
    cases rest
    simp only [messageSummarySchema, Bool.and_eq_true, size, preview_fits, addressesSchema_iff, present_bounded,
      uidValidity_fits] at stored
    obtain ⟨⟨⟨⟨⟨⟨⟨⟨⟨⟨⟨⟨⟨⟨-, -⟩, place⟩, uid⟩, generation⟩, messageId⟩, -⟩, -⟩, sender⟩, receivers⟩, copies⟩, -⟩, -⟩, subject⟩,
      small⟩ := stored
    exact ⟨place, uid, generation, by rw [isTime]; rfl, messageId, sender, receivers, copies, subject, small⟩
  · intro fits
    obtain ⟨time, isTime⟩ := Option.isSome_iff_exists.1 fits.date
    refine ⟨_, by rw [listedMessage, isTime]; rfl, ?_⟩
    have subject : boundedString 65536 (subjectText (message.envelope.bind (·.subject))) = true :=
      (subjectText_fits _ (by decide)).2 fun text isSubject => (fits.subject text isSubject).trans (by decide)
    simp only [messageSummarySchema, Bool.and_eq_true, size, preview_fits, addressesSchema_iff, present_bounded,
      uidValidity_fits, boundedMessageReference_fits, timestamp_fits, messageIdentifier_fits accountId fits.place fits.uid,
      accountId.2, subject, Option.isSome_some, Option.all_none, true_and, and_true]
    exact ⟨⟨⟨⟨⟨⟨⟨⟨fits.place, fits.uid⟩, fits.uidValidity⟩, fits.messageId⟩, fits.«from»⟩, fits.«to»⟩, fits.cc⟩, fits.subject⟩,
      fits.size⟩

theorem listMessages_iff (letters : LetterCase) (accountId : Identifier) (folderPath : JsString) (uidValidity : Option Nat)
    (fetched : List (FetchedMessage × TimeValue)) :
    (∃ rows, listMessages letters dates accountId folderPath uidValidity fetched = .ok rows ∧
      ∀ row ∈ rows, messageSummarySchema dates row = true) ↔
        ∀ message ∈ fetched, Listable dates folderPath uidValidity message.1 message.2 := by
  have sorted : (∃ rows, listMessages letters dates accountId folderPath uidValidity fetched = .ok rows ∧
      ∀ row ∈ rows, messageSummarySchema dates row = true) ↔
      ∃ rows, fetched.mapM (fun item => listedMessage letters dates accountId folderPath uidValidity item.2 item.1) =
        .ok rows ∧ ∀ row ∈ rows, messageSummarySchema dates row = true := by
    rw [listMessages_eq]
    constructor
    · rintro ⟨_, listed, stored⟩
      obtain ⟨rows, each, last⟩ := Fallible.bind_eq_ok listed
      cases last
      exact ⟨rows, each, fun row member => stored row (List.mem_mergeSort.2 member)⟩
    · rintro ⟨rows, each, stored⟩
      exact ⟨_, by rw [each]; rfl, fun row member => stored row (List.mem_mergeSort.1 member)⟩
  rw [sorted, Fallible.exists_mapM_ok]
  exact forall₂_congr fun message _ => listedMessage_iff letters accountId folderPath uidValidity message.1 message.2

theorem attachment_iff (letters : LetterCase) {item : ParsedAttachment} (small : item.contentBytes ≤ attachmentBytesLimit) :
    attachmentSummarySchema (attachmentSummary letters item) = true ↔ item.Fits := by
  have size : item.contentBytes ≤ maxSafeInteger := small.trans (by decide)
  have risk : attachmentRiskSchema (attachmentSummary letters item).risk = true :=
    decide_eq_true (classifyAttachment_reasons letters _ _)
  have typed : filledString 1024 item.contentType = true ↔ 1 ≤ item.contentType.length ∧ item.contentType.length ≤ 1024 := by
    simp [filledString]
  have named : filledString 4096 (item.filename.getD (JsString.ofString "attachment")) = true ↔
      ∀ text ∈ item.filename, 1 ≤ text.length ∧ text.length ≤ 4096 := by
    cases item.filename with
    | none => simp [filledString, JsString.ofString]
    | some text => simp [filledString]
  rw [attachmentSummarySchema, risk]
  simp only [attachmentSummary, named, typed, present_bounded, Bool.and_eq_true, and_true]
  exact ⟨fun ⟨⟨⟨filename, contentType⟩, _⟩, cid⟩ => ⟨filename, contentType, cid⟩,
    fun fits => ⟨⟨⟨fits.filename, fits.contentType⟩, decide_eq_true size⟩, fits.cid⟩⟩

/-- A message within the limits can be opened and stored exactly if it is as it must be. -/
theorem parsedMessageToDetail_iff (letters : LetterCase) (accountId : Identifier) (folderPath : JsString) (uid : Nat)
    {parsed : ParsedMail} (flags : List JsString) (size : Nat) (cryptography : CryptographyAssessment)
    (uidValidity : Option JsString) (now : TimeValue) (safe : assertParsedMimeSafety parsed = .ok ()) :
    (∃ detail, parsedMessageToDetail letters urls sanitizer accountId folderPath uid parsed flags size cryptography
        uidValidity now = .ok detail ∧ messageDetailSchema dates urls detail = true) ↔
      Openable urls sanitizer folderPath uid parsed size cryptography uidValidity := by
  have limits := safe_of_asserted safe
  have text : boundedString contentLimit ((parsed.text.map JsString.trim).getD []) = true := by
    refine decide_eq_true ?_
    cases isText : parsed.text with
    | none => exact Nat.zero_le _
    | some text =>
      have short := limits.text
      rw [isText] at short
      exact (length_trim_le text).trans (short.trans (by decide))
  have count : parsed.attachments.length ≤ 1000 := limits.count.trans (by decide)
  have attachments : (parsed.attachments.map (attachmentSummary letters)).all attachmentSummarySchema = true ↔
      ∀ item ∈ parsed.attachments, item.Fits := by
    rw [List.all_map, List.all_eq_true]
    exact forall₂_congr fun item member => attachment_iff letters (limits.sizes item member)
  have cited : (if boundedMessageReferences parsed.references = [] then none
      else some (boundedMessageReferences parsed.references)).all
        (fun references => references.length ≤ 100 && references.all (filledString 4096)) = true := by
    obtain ⟨few, filled⟩ := boundedMessageReferences_fit parsed.references
    split
    · rfl
    · exact Bool.and_eq_true_iff.2 ⟨decide_eq_true few, filled⟩
  obtain ⟨fewSources, sources⟩ := @sources_fit urls (sanitizer.images (htmlSource parsed))
  have subjects : boundedString 65536 (subjectText parsed.subject) = true ↔ ∀ text ∈ parsed.subject, text.trim.length ≤ 65536 :=
    subjectText_fits parsed.subject (by decide)
  constructor
  · rintro ⟨detail, opened, stored⟩
    obtain ⟨date, dated, rest⟩ := Fallible.bind_eq_ok opened
    obtain ⟨time, isTime, rfl⟩ := isoString_eq_ok dated
    cases rest
    simp only [messageDetailSchema, messageSummarySchema, sanitizeMessageContent, Bool.and_eq_true, present_bounded,
      present_filled, addressList_iff, subjects, sources, attachments] at stored
    obtain ⟨⟨⟨⟨⟨⟨⟨⟨⟨⟨⟨⟨⟨⟨⟨⟨⟨⟨⟨⟨⟨⟨⟨-, -⟩, place⟩, uid⟩, generation⟩, messageId⟩, -⟩, -⟩, sender⟩, receivers⟩, copies⟩, subject⟩, -⟩,
      -⟩, small⟩, -⟩, html⟩, remoteHtml⟩, -⟩, hosts⟩, assessed⟩, -⟩, items⟩, replyTo⟩ := stored
    refine ⟨place, uid, generation, fun date isDate => ?_, messageId, sender, receivers, copies, replyTo, subject,
      of_decide_eq_true small, of_decide_eq_true assessed, of_decide_eq_true html, of_decide_eq_true remoteHtml, hosts, items⟩
    rw [isDate, Option.getD_some] at isTime
    rw [isTime]
    rfl
  · intro fits
    obtain ⟨time, isTime⟩ : ∃ time, parsed.date.getD (some now) = some time := by
      cases isDate : parsed.date with
      | none => exact ⟨now, rfl⟩
      | some date => exact Option.isSome_iff_exists.1 (fits.date date isDate)
    refine ⟨_, by rw [parsedMessageToDetail, isTime]; rfl, ?_⟩
    simp only [messageDetailSchema, messageSummarySchema, sanitizeMessageContent, Bool.and_eq_true, present_bounded,
      present_filled, addressList_iff, subjects, sources, attachments, messageIdentifier_fits accountId fits.place fits.uid,
      accountId.2, Option.isSome_some, boundedMessageReference_fits, cited, timestamp_fits, textPreview_fits, text,
      true_and, and_true]
    have few : decide ((parsed.attachments.map (attachmentSummary letters)).length ≤ 1000) = true :=
      decide_eq_true (by rwa [List.length_map])
    have assessed : cryptographySchema cryptography = true := decide_eq_true fits.cryptography
    exact ⟨⟨⟨⟨⟨⟨⟨⟨⟨⟨⟨⟨⟨⟨⟨⟨fits.place, fits.uid⟩, fits.uidValidity⟩, fits.messageId⟩, fits.«from»⟩, fits.«to»⟩, fits.cc⟩,
      fits.subject⟩, decide_eq_true fits.size⟩, decide_eq_true fits.html⟩, decide_eq_true fits.remoteHtml⟩,
      decide_eq_true fewSources⟩, fits.hosts⟩, assessed⟩, few⟩, fits.attachments⟩, fits.replyTo⟩

end Conditions

/-- The messages of a mailbox can be listed and stored exactly if each is as it must be, and a message that is within the
limits can be opened and stored exactly if it is. -/
theorem storable_iff (letters : LetterCase) (dates : DateParser) (urls : UrlParser) (sanitizer : HtmlSanitizer)
    (accountId : Identifier) (folderPath : JsString) :
    (∀ uidValidity fetched,
      (∃ rows, listMessages letters dates accountId folderPath uidValidity fetched = .ok rows ∧
        ∀ row ∈ rows, messageSummarySchema dates row = true) ↔
      ∀ message ∈ fetched, Listable dates folderPath uidValidity message.1 message.2) ∧
    ∀ uid parsed flags size cryptography uidValidity now, assertParsedMimeSafety parsed = .ok () →
      ((∃ detail, parsedMessageToDetail letters urls sanitizer accountId folderPath uid parsed flags size cryptography
        uidValidity now = .ok detail ∧ messageDetailSchema dates urls detail = true) ↔
      Openable urls sanitizer folderPath uid parsed size cryptography uidValidity) :=
  ⟨fun uidValidity fetched => listMessages_iff letters accountId folderPath uidValidity fetched,
    fun uid _ flags size cryptography uidValidity now safe =>
      parsedMessageToDetail_iff letters accountId folderPath uid flags size cryptography uidValidity now safe⟩

section Messages

/-- Texts without markup and without addresses. -/
def plainText : HtmlSanitizer := ⟨fun source => source, fun _ => [], fun source _ => source⟩

def noAddresses : UrlParser where
  parse _ := none
  hostname_ne _ _ parsed := by cases parsed
  hostname_le _ _ parsed := by cases parsed
  origin_le _ _ parsed := by cases parsed
  parse_origin _ _ parsed := by cases parsed

def work : Identifier := ⟨JsString.ofString "work", identifierSchema_work⟩

def inbox : JsString := JsString.ofString "INBOX"

def noon : TimeValue := ⟨1785499200000, by decide⟩

def kim : SentAddress := ⟨some (JsString.ofString "Kim"), some (JsString.ofString "kim@example.test")⟩

def envelopeOf (date : DateValue) (subject : JsString) : Envelope :=
  ⟨some date, some subject, some (JsString.ofString "<1@example.test>"), none, some [kim], some [kim], none⟩

def messageOf (date : DateValue) (subject : JsString) : FetchedMessage :=
  ⟨1, some (envelopeOf date subject), [], none, some 100, none⟩

def parsedOf (messageId : JsString) : ParsedMail :=
  ⟨some (JsString.ofString "Noon?"), none, some messageId, none, [], [[kim]], [[kim]], [], [], some (JsString.ofString "Lunch"),
    some (some noon), []⟩

theorem kim_fits : AddressesFit [kim] := ⟨by decide, by simp [SentAddress.Fits, kim, JsString.ofString]⟩

theorem nobody_fits : AddressesFit [] := ⟨Nat.zero_le _, (fun _ member => nomatch member)⟩

theorem lunch_storable :
    (∃ rows, listMessages .ascii .iso work inbox (some 7)
        [(messageOf (.date (some noon)) (JsString.ofString "Lunch"), noon)] = .ok rows ∧
      ∀ row ∈ rows, messageSummarySchema .iso row = true) ∧
    ∃ detail, parsedMessageToDetail .ascii noAddresses plainText work inbox 1 (parsedOf (JsString.ofString "<1@example.test>"))
        [] 100 (assessmentForReason .noContainer) (some (JsString.ofString "7")) noon = .ok detail ∧
      messageDetailSchema .iso noAddresses detail = true := by
  refine ⟨((storable_iff .ascii .iso noAddresses plainText work inbox).1 _ _).2 fun message member => ?_,
    ((storable_iff .ascii .iso noAddresses plainText work inbox).2 _ _ _ _ _ _ _ (by decide)).2 ?_⟩
  · rw [List.mem_singleton.1 member]
    exact ⟨by decide, by decide, by decide, rfl, by decide, kim_fits, kim_fits, nobody_fits, by decide, by decide⟩
  · exact ⟨by decide, by decide, by decide, by decide, by decide, kim_fits, kim_fits, nobody_fits, nobody_fits, by decide,
      by decide, rfl, by decide, by decide, (fun _ member => nomatch member), (fun _ member => nomatch member)⟩

/-- A date that cannot be read makes the listing fail. A subject that is too long for a preview is listed, and a message
identifier that is too long is opened, but neither can be stored. -/
theorem hostileMessages_unstorable :
    (¬ ∃ rows, listMessages .ascii .iso work inbox (some 7)
        [(messageOf (.text (JsString.ofString "not a date")) (JsString.ofString "Lunch"), noon)] = .ok rows) ∧
    (¬ ∃ rows, listMessages .ascii .iso work inbox (some 7)
        [(messageOf (.date (some noon)) (List.replicate 4097 97), noon)] = .ok rows ∧
      ∀ row ∈ rows, messageSummarySchema .iso row = true) ∧
    assertParsedMimeSafety (parsedOf (List.replicate 4097 97)) = .ok () ∧
    ¬ ∃ detail, parsedMessageToDetail .ascii noAddresses plainText work inbox 1 (parsedOf (List.replicate 4097 97)) [] 100
        (assessmentForReason .noContainer) (some (JsString.ofString "7")) noon = .ok detail ∧
      messageDetailSchema .iso noAddresses detail = true := by
  have letter : ∀ unit ∈ List.replicate 4097 (97 : UInt16), JsString.isWhiteSpace unit = false :=
    fun unit member => List.eq_of_mem_replicate member ▸ rfl
  have trimmed : JsString.trim (List.replicate 4097 97) = List.replicate 4097 97 := JsString.trim_of_trimmed
    ⟨fun unit first => letter unit (List.mem_of_mem_head? first), fun unit last => letter unit (List.mem_of_getLast? last)⟩
  refine ⟨?_, ?_, rfl, ?_⟩
  · rintro ⟨rows, listed⟩
    have fails : listMessages .ascii .iso work inbox (some 7)
        [(messageOf (.text (JsString.ofString "not a date")) (JsString.ofString "Lunch"), noon)] =
      .error "Invalid time value" := by rfl
    rw [fails] at listed
    cases listed
  · rw [listMessages_iff]
    intro listable
    have subject := (listable _ List.mem_cons_self).subject (List.replicate 4097 97) rfl
    rw [trimmed, List.length_replicate] at subject
    exact absurd subject (by decide)
  · rw [parsedMessageToDetail_iff _ _ _ _ _ _ _ _ _ rfl]
    intro openable
    have messageId := openable.messageId (List.replicate 4097 97) rfl
    rw [List.length_replicate] at messageId
    exact absurd messageId (by decide)

end Messages

end MailService
