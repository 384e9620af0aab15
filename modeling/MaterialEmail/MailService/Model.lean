import MaterialEmail.Library.TimeValue
import MaterialEmail.Identities.Model
import MaterialEmail.MailService.AttachmentSafety

/-! What the mail service makes of the messages that a server lists and sends, and the schemas that must accept it
before it is stored. -/
namespace MailService

open JsDate Identities

/-- An address as it comes: either part may be missing. -/
structure SentAddress where
  name : Option JsString
  address : Option JsString

structure Address where
  name : JsString
  address : JsString
  deriving DecidableEq

/-- What `new Date` is made from. A date may already be an invalid one. -/
inductive DateValue where
  | date (time : Option TimeValue)
  | text (text : JsString)

structure Envelope where
  date : Option DateValue
  subject : Option JsString
  messageId : Option JsString
  inReplyTo : Option JsString
  «from» : Option (List SentAddress)
  «to» : Option (List SentAddress)
  cc : Option (List SentAddress)

inductive BodyStructure where
  | node (disposition : Option JsString) (childNodes : List BodyStructure)

structure FetchedMessage where
  uid : Nat
  envelope : Option Envelope
  flags : List JsString
  internalDate : Option DateValue
  size : Option Nat
  bodyStructure : Option BodyStructure

structure ParsedAttachment where
  filename : Option JsString
  contentType : JsString
  contentBytes : Nat
  cid : Option JsString

/-- `ParsedMail`. One group of addresses stands for a list of one; `html` is missing where it is `false`. -/
structure ParsedMail where
  text : Option JsString
  html : Option JsString
  messageId : Option JsString
  inReplyTo : Option JsString
  references : List JsString
  «from» : List (List SentAddress)
  «to» : List (List SentAddress)
  cc : List (List SentAddress)
  replyTo : List (List SentAddress)
  subject : Option JsString
  date : Option (Option TimeValue)
  attachments : List ParsedAttachment

inductive CryptoProtocol where
  | openpgp
  | smime
  deriving DecidableEq

inductive CryptoContainer where
  | none
  | signed
  | encrypted
  | unknown
  deriving DecidableEq

inductive CryptoTrustState where
  | unsigned
  | unverified
  | unsupported
  deriving DecidableEq

inductive CryptoReason where
  | noContainer
  | openpgpSigned
  | smimeSigned
  | openpgpEncrypted
  | smimeEncrypted
  | unknownContainer
  deriving DecidableEq

/-- `MessageCryptographyAssessment`. Nothing is ever verified or decrypted. -/
structure CryptographyAssessment where
  protocol : Option CryptoProtocol
  container : CryptoContainer
  state : CryptoTrustState
  reason : CryptoReason
  deriving DecidableEq

structure RemoteContentSource where
  origin : JsString
  hostname : JsString
  protocol : JsString
  deriving DecidableEq

structure AttachmentSummary where
  filename : JsString
  contentType : JsString
  size : Nat
  risk : AttachmentRiskAssessment
  contentId : Option JsString

structure MessageSummary where
  id : JsString
  accountId : JsString
  folderPath : JsString
  uid : Nat
  uidValidity : Option JsString
  messageId : Option JsString
  inReplyTo : Option JsString
  references : Option (List JsString)
  «from» : List Address
  «to» : List Address
  cc : List Address
  subject : JsString
  date : JsString
  preview : JsString
  unread : Bool
  starred : Bool
  hasAttachments : Bool
  size : Nat

structure MessageDetail extends MessageSummary where
  text : JsString
  html : JsString
  remoteContentHtml : JsString
  remoteContentSources : List RemoteContentSource
  remoteContentAllowed : Bool
  cryptography : CryptographyAssessment
  attachments : List AttachmentSummary
  replyTo : List Address

section Safety

inductive MimeSafetyErrorCode where
  | textTooLarge
  | htmlTooLarge
  | tooManyAttachments
  | attachmentTooLarge
  | attachmentsTooLarge
  deriving DecidableEq

structure MimeSafetyError where
  code : MimeSafetyErrorCode
  message : String
  deriving DecidableEq

def mebibyte : Nat := 1024 * 1024

def textCharactersLimit : Nat := 2 * mebibyte
def htmlCharactersLimit : Nat := 4 * mebibyte
def attachmentCountLimit : Nat := 100
def attachmentBytesLimit : Nat := 20 * mebibyte
def totalAttachmentBytesLimit : Nat := 24 * mebibyte

def byteLabel (value : Nat) : String :=
  if value < mebibyte then toString ((value + 512) / 1024) ++ " KiB"
  else
    let tenths := (value * 10 + mebibyte / 2) / mebibyte
    toString (tenths / 10) ++ "." ++ toString (tenths % 10) ++ " MiB"

def mimeSafetyError (code : MimeSafetyErrorCode) (description : String) : MimeSafetyError :=
  ⟨code, description ++
    " The message was left unopened and unchanged; select it again to retry after the server copy changes."⟩

/-- The loop of `assertMimeAttachmentSizes`. -/
def assertAttachmentSizes (totalAttachmentBytes : Nat) : List Nat → Except MimeSafetyError Unit
  | [] => .ok ()
  | contentBytes :: sizes =>
    if attachmentBytesLimit < contentBytes then
      .error (mimeSafetyError .attachmentTooLarge ("This message contains an attachment larger than the " ++
        byteLabel attachmentBytesLimit ++ " decoded-byte safety limit."))
    else if totalAttachmentBytesLimit < totalAttachmentBytes + contentBytes then
      .error (mimeSafetyError .attachmentsTooLarge ("This message's attachments exceed the " ++
        byteLabel totalAttachmentBytesLimit ++ " combined decoded-byte safety limit."))
    else assertAttachmentSizes (totalAttachmentBytes + contentBytes) sizes

def assertMimeAttachmentSizes (sizes : List Nat) : Except MimeSafetyError Unit :=
  if attachmentCountLimit < sizes.length then
    .error (mimeSafetyError .tooManyAttachments ("This message contains more than " ++ toString attachmentCountLimit ++
      " MIME attachments."))
  else assertAttachmentSizes 0 sizes

def assertParsedMimeSafety (parsed : ParsedMail) : Except MimeSafetyError Unit :=
  if textCharactersLimit < (parsed.text.getD []).length then
    .error (mimeSafetyError .textTooLarge ("This message's decoded text body exceeds the " ++
      byteLabel textCharactersLimit ++ " safety limit."))
  else if htmlCharactersLimit < (parsed.html.getD []).length then
    .error (mimeSafetyError .htmlTooLarge ("This message's decoded HTML body exceeds the " ++
      byteLabel htmlCharactersLimit ++ " safety limit."))
  else assertMimeAttachmentSizes (parsed.attachments.map (·.contentBytes))

end Safety

section Fields

def envelopeAddresses (value : Option (List SentAddress)) : List Address :=
  ((value.getD []).map fun entry => ⟨entry.name.getD [], entry.address.getD []⟩).filter (·.address ≠ [])

def addressList (value : List (List SentAddress)) : List Address := value.flatMap fun item => envelopeAddresses (some item)

def messageReferenceLimit : Nat := 4096

def boundedMessageReference (value : Option JsString) : Option JsString :=
  (value.map JsString.trim).filter fun trimmed => trimmed ≠ [] ∧ trimmed.length ≤ messageReferenceLimit

def boundedMessageReferences (value : List JsString) : List JsString :=
  (((value.map JsString.trim).filter fun item => 0 < item.length ∧ item.length ≤ messageReferenceLimit).eraseDups).take 100

def textPreview (value : JsString) : JsString :=
  (JsString.trim (JsString.replaceRuns JsString.isWhiteSpace 32 false value)).take 240

/-- `subject?.trim() || "(No subject)"`. -/
def subjectText (subject : Option JsString) : JsString :=
  match (subject.map JsString.trim).filter (· ≠ []) with
  | some text => text
  | none => JsString.ofString "(No subject)"

/-- A text that is left out when it is empty. -/
def present (value : Option JsString) : Option JsString := value.filter (· ≠ [])

def messageIdentifier (accountId folderPath : JsString) (uid : Nat) : JsString :=
  accountId ++ 58 :: folderPath ++ 58 :: decimal uid

def hasFlag (flags : List JsString) (flag : String) : Bool := JsString.ofString flag ∈ flags

/-- `toISOString` of a date, which an invalid one does not have. -/
def isoString : Option TimeValue → Except String JsString
  | some time => .ok (toISOString time)
  | none => .error "Invalid time value"

end Fields

section Listing

variable (letters : LetterCase) (dates : DateParser)

mutual

/-- `#hasAttachment`. -/
def hasAttachment : BodyStructure → Bool
  | .node disposition childNodes =>
    disposition.map letters.lower = some (JsString.ofString "attachment") || someHasAttachment childNodes

def someHasAttachment : List BodyStructure → Bool
  | [] => false
  | child :: children => hasAttachment child || someHasAttachment children

end

/-- `new Date`. -/
def newDate : DateValue → Option TimeValue
  | .date time => time
  | .text text => dates.parse text

/-- The date of a message that is listed: that of the envelope, or when the server received it, or now. -/
def listedDate (now : TimeValue) (message : FetchedMessage) : Option TimeValue :=
  newDate dates (((message.envelope.bind (·.date)).or message.internalDate).getD (.date (some now)))

def listedMessage (accountId : Identifier) (folderPath : JsString) (uidValidity : Option Nat) (now : TimeValue)
    (message : FetchedMessage) : Except String MessageSummary := do
  let envelope := message.envelope
  let date ← isoString (listedDate dates now message)
  return {
    id := messageIdentifier accountId folderPath message.uid
    accountId := accountId
    folderPath := folderPath
    uid := message.uid
    uidValidity := (uidValidity.filter (· ≠ 0)).map decimal
    messageId := present (envelope.bind (·.messageId))
    inReplyTo := boundedMessageReference (envelope.bind (·.inReplyTo))
    references := none
    «from» := envelopeAddresses (envelope.bind (·.«from»))
    «to» := envelopeAddresses (envelope.bind (·.«to»))
    cc := envelopeAddresses (envelope.bind (·.cc))
    subject := subjectText (envelope.bind (·.subject))
    date := date
    preview := ((envelope.bind (·.subject)).map JsString.trim).getD []
    unread := !hasFlag message.flags "\\Seen"
    starred := hasFlag message.flags "\\Flagged"
    hasAttachments := message.bodyStructure.any (hasAttachment letters)
    size := message.size.getD 0 }

/-- The instant that a row is sorted by. -/
def instantOf (row : MessageSummary) : Int := ((dates.parse row.date).map Subtype.val).getD 0

/-- `listMessages`, from what is fetched of a mailbox. Every message takes the time anew. -/
def listMessages (accountId : Identifier) (folderPath : JsString) (uidValidity : Option Nat)
    (fetched : List (FetchedMessage × TimeValue)) : Except String (List MessageSummary) := do
  let rows ← fetched.mapM fun (message, now) => listedMessage letters dates accountId folderPath uidValidity now message
  return rows.mergeSort fun a b => instantOf dates b ≤ instantOf dates a

theorem listMessages_eq (accountId : Identifier) (folderPath : JsString) (uidValidity : Option Nat)
    (fetched : List (FetchedMessage × TimeValue)) :
    listMessages letters dates accountId folderPath uidValidity fetched =
      (fetched.mapM fun item => listedMessage letters dates accountId folderPath uidValidity item.2 item.1) >>=
        fun rows => .ok (rows.mergeSort fun a b => instantOf dates b ≤ instantOf dates a) := rfl

end Listing

section Content

/-- `URL`. -/
structure Url where
  href : JsString
  origin : JsString
  hostname : JsString
  protocol : JsString
  username : JsString
  password : JsString

def isHttp (protocol : JsString) : Bool :=
  protocol = JsString.ofString "http:" || protocol = JsString.ofString "https:"

/-- `new URL`, which may refuse. The origin of an address of the web is one itself: the protocol, the host, which is
not empty, and a port of up to five digits. -/
structure UrlParser where
  parse : JsString → Option Url
  hostname_ne : ∀ text url, parse text = some url → isHttp url.protocol = true → url.hostname ≠ []
  hostname_le : ∀ text url, parse text = some url → isHttp url.protocol = true →
    url.hostname.length ≤ url.origin.length
  origin_le : ∀ text url, parse text = some url → isHttp url.protocol = true →
    url.origin.length ≤ url.hostname.length + 14
  parse_origin : ∀ text url, parse text = some url → isHttp url.protocol = true →
    ∃ plain, parse url.origin = some plain ∧ plain.origin = url.origin ∧ plain.hostname = url.hostname ∧
      plain.protocol = url.protocol ∧ plain.username = [] ∧ plain.password = []

structure ImageAttributes where
  src : Option JsString
  alt : Option JsString
  title : Option JsString

/-- What an image becomes. -/
inductive ImageReplacement where
  | span (text : JsString)
  | img (src alt : JsString) (title : Option JsString)

/-- `sanitizeHtml` with the two sets of options that are used. With the second every image it meets is replaced. -/
structure HtmlSanitizer where
  withoutImages : JsString → JsString
  images : JsString → List ImageAttributes
  withImages : JsString → List ImageReplacement → JsString

def remoteContentSourcesLimit : Nat := 1000

variable (urls : UrlParser) (sanitizer : HtmlSanitizer)

def remoteImage (raw : Option JsString) : Option Url :=
  match raw with
  | none => none
  | some [] => none
  | some text => (urls.parse text.trim).filter fun parsed =>
    isHttp parsed.protocol ∧ parsed.username = [] ∧ parsed.password = []

/-- `transformTags.img`, with the sources that have been found before. -/
def transformImage (sources : List RemoteContentSource) (attributes : ImageAttributes) :
    List RemoteContentSource × ImageReplacement :=
  let alt := (attributes.alt.getD []).take 2048
  match remoteImage urls attributes.src with
  | none => (sources, .span alt)
  | some sourceUrl =>
    if remoteContentSourcesLimit ≤ sources.length then (sources, .span alt)
    else
      (sources ++ [⟨sourceUrl.origin, sourceUrl.hostname, sourceUrl.protocol⟩],
        .img sourceUrl.href alt ((present attributes.title).map (·.take 2048)))

/-- The images of a text one after the other. -/
def transformImages (sources : List RemoteContentSource) :
    List ImageAttributes → List RemoteContentSource × List ImageReplacement
  | [] => (sources, [])
  | attributes :: images =>
    let (sources, replacement) := transformImage urls sources attributes
    let (sources, replacements) := transformImages sources images
    (sources, replacement :: replacements)

structure SanitizedMessageContent where
  html : JsString
  remoteContentHtml : JsString
  remoteContentSources : List RemoteContentSource

def sanitizeMessageContent (source : JsString) : SanitizedMessageContent :=
  let (remoteContentSources, replacements) := transformImages urls [] (sanitizer.images source)
  { html := sanitizer.withoutImages source
    remoteContentHtml := sanitizer.withImages source replacements
    remoteContentSources := remoteContentSources }

end Content

section Opening

def assessmentForReason (reason : CryptoReason) : CryptographyAssessment :=
  match reason with
  | .noContainer => ⟨none, .none, .unsigned, reason⟩
  | .openpgpSigned => ⟨some .openpgp, .signed, .unverified, reason⟩
  | .smimeSigned => ⟨some .smime, .signed, .unverified, reason⟩
  | .openpgpEncrypted => ⟨some .openpgp, .encrypted, .unsupported, reason⟩
  | .smimeEncrypted => ⟨some .smime, .encrypted, .unsupported, reason⟩
  | .unknownContainer => ⟨none, .unknown, .unsupported, reason⟩

variable (letters : LetterCase) (urls : UrlParser) (sanitizer : HtmlSanitizer)

/-- `text.replace(/\n/g, "<br>")`. -/
def breakLines (text : JsString) : JsString := text.flatMap fun unit => if unit = 10 then JsString.ofString "<br>" else [unit]

/-- The HTML of a message, made from its text if there is none. -/
def htmlSource (parsed : ParsedMail) : JsString := parsed.html.getD (breakLines ((parsed.text.map JsString.trim).getD []))

def attachmentSummary (item : ParsedAttachment) : AttachmentSummary :=
  let filename := item.filename.getD (JsString.ofString "attachment")
  { filename := filename
    contentType := item.contentType
    size := item.contentBytes
    risk := classifyAttachment letters filename item.contentType
    contentId := present item.cid }

def parsedMessageToDetail (accountId : Identifier) (folderPath : JsString) (uid : Nat) (parsed : ParsedMail)
    (flags : List JsString) (size : Nat) (cryptography : CryptographyAssessment) (uidValidity : Option JsString)
    (now : TimeValue) : Except String MessageDetail := do
  let text := (parsed.text.map JsString.trim).getD []
  let sanitized := sanitizeMessageContent urls sanitizer (htmlSource parsed)
  let references := boundedMessageReferences parsed.references
  let date ← isoString (parsed.date.getD (some now))
  return {
    id := messageIdentifier accountId folderPath uid
    accountId := accountId
    folderPath := folderPath
    uid := uid
    uidValidity := present uidValidity
    messageId := present parsed.messageId
    inReplyTo := boundedMessageReference parsed.inReplyTo
    references := if references = [] then none else some references
    «from» := addressList parsed.«from»
    «to» := addressList parsed.«to»
    cc := addressList parsed.cc
    subject := subjectText parsed.subject
    date := date
    preview := textPreview text
    unread := !hasFlag flags "\\Seen"
    starred := hasFlag flags "\\Flagged"
    hasAttachments := 0 < parsed.attachments.length
    size := size
    text := text
    html := sanitized.html
    remoteContentHtml := sanitized.remoteContentHtml
    remoteContentSources := sanitized.remoteContentSources
    remoteContentAllowed := false
    cryptography := cryptography
    attachments := parsed.attachments.map (attachmentSummary letters)
    replyTo := addressList parsed.replyTo }

end Opening

section Schemas

def boundedString (maximum : Nat) (text : JsString) : Bool := text.length ≤ maximum

/-- `z.string().min(1).max(maximum)`. -/
def filledString (maximum : Nat) (text : JsString) : Bool := 1 ≤ text.length && text.length ≤ maximum

def addressSchema (address : Address) : Bool := boundedString 2048 address.name && boundedString 2048 address.address

def addressesSchema (addresses : List Address) : Bool := addresses.length ≤ 1000 && addresses.all addressSchema

/-- `folderPathSchema`: no line breaks and no NUL. -/
def folderPathSchema (path : JsString) : Bool :=
  filledString 2048 path && path.all fun unit => unit ≠ 13 && unit ≠ 10 && unit ≠ 0

def messageUidSchema (uid : Nat) : Bool := 1 ≤ uid && uid ≤ 0xFFFFFFFF

def maxSafeInteger : Nat := 2 ^ 53 - 1

def contentLimit : Nat := 16 * mebibyte

variable (letters : LetterCase) (dates : DateParser) (urls : UrlParser)

def timestampSchema (text : JsString) : Bool := filledString 64 text && (dates.parse text).isSome

/-- `messageSummarySchema`: whether it accepts a row. -/
def messageSummarySchema (row : MessageSummary) : Bool :=
  filledString 4096 row.id && (identifierSchema row.accountId).isSome && folderPathSchema row.folderPath &&
    messageUidSchema row.uid && row.uidValidity.all (filledString 128) && row.messageId.all (boundedString 4096) &&
    row.inReplyTo.all (boundedString 4096) &&
    row.references.all (fun references => references.length ≤ 100 && references.all (filledString 4096)) &&
    addressesSchema row.«from» && addressesSchema row.«to» && addressesSchema row.cc && boundedString 65536 row.subject &&
    timestampSchema dates row.date && boundedString 4096 row.preview && row.size ≤ maxSafeInteger

def remoteContentOriginSchema (value : JsString) : Bool :=
  filledString 2048 value && (urls.parse value).any fun parsed =>
    isHttp parsed.protocol && parsed.origin = value && parsed.username = [] && parsed.password = []

def remoteContentSourceSchema (source : RemoteContentSource) : Bool :=
  remoteContentOriginSchema urls source.origin && filledString 253 source.hostname && isHttp source.protocol &&
    (urls.parse source.origin).any fun parsed => source.hostname = parsed.hostname && source.protocol = parsed.protocol

def attachmentRiskSchema (risk : AttachmentRiskAssessment) : Bool := risk.reasons.length ≤ 9

/-- `attachmentSummarySchema`. It assesses the risk anew, but first checks the one that is there. -/
def attachmentSummarySchema (attachment : AttachmentSummary) : Bool :=
  filledString 4096 attachment.filename && filledString 1024 attachment.contentType && attachment.size ≤ maxSafeInteger &&
    attachmentRiskSchema attachment.risk && attachment.contentId.all (boundedString 4096)

/-- `parseMessageCryptographyAssessment`: an assessment says what its reason does. -/
def cryptographySchema (assessment : CryptographyAssessment) : Bool := assessment = assessmentForReason assessment.reason

/-- `messageDetailSchema`: whether it accepts a message. -/
def messageDetailSchema (detail : MessageDetail) : Bool :=
  messageSummarySchema dates detail.toMessageSummary && boundedString contentLimit detail.text &&
    boundedString contentLimit detail.html && boundedString contentLimit detail.remoteContentHtml &&
    detail.remoteContentSources.length ≤ 1000 && detail.remoteContentSources.all (remoteContentSourceSchema urls) &&
    cryptographySchema detail.cryptography && detail.attachments.length ≤ 1000 &&
    detail.attachments.all attachmentSummarySchema && addressesSchema detail.replyTo

end Schemas

end MailService
