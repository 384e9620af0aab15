import MaterialEmail.MailService.Storing
import MaterialEmail.PersistedState.Cryptography
import MaterialEmail.PersistedState.Settling
import MaterialEmail.Pim.Types

/-! The schema of the state that is kept on the disk. It fills in what a state of an earlier version lacks, and sets right what
a state that was edited by hand may have wrong. -/
namespace PersistedState

open JsString
open JsonText (Numerals Plain)
open Schema
open MailService (AttachmentRiskLevel AttachmentRiskReason AttachmentRiskAssessment UrlParser filledString boundedString
  folderPathSchema maxSafeInteger contentLimit)
open Identities (Identifier MailIdentity SignaturePlacement)
open MessageTags (MessageTag MessageTagState)

/-- What the program runs on: the letters, the dates, the addresses of the web and the numbers. -/
structure Host extends MessageTags.Host where
  dates : JsDate.DateParser
  urls : UrlParser
  numerals : Numerals
  isNumber_nat : ∀ value : Nat, value ≤ maxSafeInteger → numerals.isNumber value
  /-- No control character has a lower case, or is one. -/
  lower_clean : ∀ text : JsString, text.all (!isControl ·) = true → (lower text).all (!isControl ·) = true

section Texts

def noControlCharacters (text : JsString) : Bool := text.all (!isControl ·)

def noHeaderBreaks (text : JsString) : Bool := text.all fun unit => unit ≠ 13 && unit ≠ 10 && unit ≠ 0

def isSlash (unit : UInt16) : Bool := unit = 47 || unit = 92

/-- `path.win32.isAbsolute`. -/
def isAbsolute : JsString → Bool
  | [] => false
  | first :: rest => isSlash first || (isLetter first && rest.head? = some 58 && rest.tail.head?.any isSlash)

/-- `/[a-f0-9]/i`. -/
def isHex (unit : UInt16) : Bool := MessageTags.isHexDigit (asciiLower unit)

/-- `/^#[a-f0-9]{6}(?:[a-f0-9]{2})?$/i`. -/
def isAccent : JsString → Bool
  | 35 :: digits => (digits.length = 6 || digits.length = 8) && digits.all isHex
  | _ => false

/-- The pattern of `z.uuid()`. -/
def isUuid (text : JsString) : Bool :=
  text = ofString "00000000-0000-0000-0000-000000000000" || text = ofString "ffffffff-ffff-ffff-ffff-ffffffffffff" ||
    match text.splitOn 45 with
    | [first, second, third, fourth, last] =>
      [first, second, third, fourth, last].map List.length = [8, 4, 4, 4, 12] &&
        [first, second, third, fourth, last].all (·.all isHex) && third.head?.any (· ∈ ofString "12345678") &&
        fourth.head?.any (· ∈ ofString "89abAB")
    | _ => false

def bounded (maximum : Nat) : Schema := text (boundedString maximum)

def filled (maximum : Nat) : Schema := text (filledString maximum)

/-- `z.number().int().nonnegative().max(Number.MAX_SAFE_INTEGER)`. -/
def count : Schema := whole 0 maxSafeInteger

def identifierSchema : Schema := trimmed fun text => filledString 512 text && noControlCharacters text

def folderPath : Schema := text folderPathSchema

def messageUid : Schema := whole 1 0xFFFFFFFF

def nativePathSchema : Schema :=
  text fun path => filledString 32767 path && noControlCharacters path && isAbsolute path

def recipientSchema : Schema := trimmed fun text => filledString 998 text && noHeaderBreaks text

end Texts

section Attachments

def riskLevelText : AttachmentRiskLevel → String
  | .ordinary => "ordinary"
  | .caution => "caution"
  | .dangerous => "dangerous"

def riskReasonText : AttachmentRiskReason → String
  | .windowsExecutable => "windows-executable"
  | .windowsScript => "windows-script"
  | .windowsShortcut => "windows-shortcut"
  | .windowsInstaller => "windows-installer"
  | .macroEnabledDocument => "macro-enabled-document"
  | .doubleExtension => "double-extension"
  | .trailingDotOrSpace => "trailing-dot-or-space"
  | .bidirectionalControl => "bidirectional-control"
  | .mimeExtensionMismatch => "mime-extension-mismatch"

def attachmentRiskReasonSchema : Schema :=
  oneOf ["windows-executable", "windows-script", "windows-shortcut", "windows-installer", "macro-enabled-document",
    "double-extension", "trailing-dot-or-space", "bidirectional-control", "mime-extension-mismatch"]

def attachmentRiskSchema : Schema :=
  strictObject (named [("level", oneOf ["ordinary", "caution", "dangerous"]),
    ("reasons", array attachmentRiskReasonSchema 0 9)])

def quarantineRiskSchema : Schema :=
  strictObject (named [("level", oneOf ["caution", "dangerous"]), ("reasons", array attachmentRiskReasonSchema 1 9)])

def riskValue (risk : AttachmentRiskAssessment) : JsValue :=
  .objectOf [("level", textValue (riskLevelText risk.level)),
    ("reasons", .array (risk.reasons.map fun reason => textValue (riskReasonText reason)))]

/-- The fields of an attachment whose risk is as it was assessed. -/
def attachmentFields (risk : AttachmentRiskAssessment) : Fields :=
  named [("filename", filled 4096), ("contentType", filled 1024), ("size", count),
    ("risk", replaced (optional attachmentRiskSchema) (riskValue risk)), ("contentId", optional (bounded 4096))]

/-- The risk that is there is checked, and then assessed anew. -/
def attachmentSummarySchema (letters : LetterCase) : Schema := fun value =>
  strictObject (attachmentFields
    (MailService.classifyAttachment letters (value.member "filename").text (value.member "contentType").text)) value

end Attachments

section Messages

variable (host : Host)

def timestampSchema : Schema := text (MailService.timestampSchema host.dates)

def addressSchema : Schema := strictObject (named [("name", bounded 2048), ("address", bounded 2048)])

def addresses : Schema := array addressSchema 0 1000

def remoteContentSourceSchema : Schema :=
  refine (strictObject (named [("kind", literal "image"),
    ("origin", text (MailService.remoteContentOriginSchema host.urls)), ("hostname", filled 253),
    ("protocol", oneOf ["http:", "https:"])]))
    fun source => (host.urls.parse (source.member "origin").text).any fun parsed =>
      (source.member "hostname").text = parsed.hostname && (source.member "protocol").text = parsed.protocol

def messageSummaryShape : List (String × Schema) :=
  [("id", filled 4096), ("accountId", identifierSchema), ("folderPath", folderPath), ("uid", messageUid),
    ("uidValidity", optional (filled 128)), ("messageId", optional (bounded 4096)), ("inReplyTo", optional (bounded 4096)),
    ("references", optional (array (filled 4096) 0 100)), ("from", addresses), ("to", addresses), ("cc", addresses),
    ("subject", bounded 65536), ("date", timestampSchema host), ("preview", bounded 4096), ("unread", boolean),
    ("starred", boolean), ("hasAttachments", boolean), ("size", count)]

def messageSummarySchema : Schema := strictObject (named (messageSummaryShape host))

def messageDetailSchema : Schema :=
  strictObject (named (messageSummaryShape host ++
    [("text", bounded contentLimit), ("html", bounded contentLimit),
      ("remoteContentHtml", orDefault (bounded contentLimit) (.string [])),
      ("remoteContentSources", orDefault (array (remoteContentSourceSchema host) 0 1000) (.array [])),
      ("remoteContentAllowed", orDefault boolean (.boolean false)),
      ("cryptography", orDefault parseMessageCryptographyAssessment unsignedMessageCryptography),
      ("attachments", array (attachmentSummarySchema host.toLetterCase) 0 1000), ("replyTo", addresses)]))

end Messages

section Accounts

variable (host : Host)

def serverSettingsSchema : Schema :=
  strictObject (named [("host", filled 255), ("port", whole 1 65535), ("security", oneOf ["tls", "starttls", "plain"]),
    ("username", filled 320)])

def accountFields : Fields :=
  named [("id", identifierSchema), ("displayName", filled 120),
    ("email", text fun email => Pim.isEmail email && boundedString 320 email),
    ("incoming", serverSettingsSchema), ("outgoing", serverSettingsSchema), ("authMode", oneOf ["password", "oauth2"]),
    ("oauthProvider", optional (oneOf ["google", "microsoft"])), ("kind", oneOf ["imap", "demo"]),
    ("createdAt", timestampSchema host), ("lastSyncAt", optional (timestampSchema host)),
    ("syncError", optional (bounded 32768)),
    ("messageCryptography",
      orDefault (messageCryptoProfileSchema host.toLetterCase host.dates) emptyMessageCryptoProfile),
    ("encryptedSecret", optional (filled 131072))]

/-- The password of an account is there, if it has one; an account that signs in elsewhere says where. -/
def hasCredential (account : JsValue) : Bool :=
  (isText (account.member "kind") "demo" || isText (account.member "authMode") "oauth2" ||
    (account.member "encryptedSecret").text ≠ []) &&
  (!isText (account.member "authMode") "oauth2" || !(account.member "oauthProvider").isUndefined)

def accountSchema : Schema := refine (strictObject (accountFields host)) hasCredential

def folderSchema : Schema :=
  strictObject (named [("accountId", identifierSchema), ("path", folderPath), ("name", filled 2048),
    ("role", oneOf ["inbox", "sent", "drafts", "archive", "junk", "trash", "other"]), ("unread", count), ("total", count),
    ("uidValidity", optional (filled 128))])

end Accounts

section Lists

variable (host : Host)

/-- `z.strictObject`, where the members are read one by one. -/
def hasOnly (names : List String) (value : JsValue) : Bool :=
  match value with
  | .object members => members.all fun member => member.1 = protoKey || member.1 ∈ names.map ofString
  | _ => false

def textOf : JsValue → Option JsString
  | .string units => some units
  | _ => none

def flagOf : JsValue → Option Bool
  | .boolean flag => some flag
  | _ => none

def wholeOf : JsValue → Option Int
  | .number (.finite value) => if value.den = 1 then some value.num else none
  | _ => none

def listOf {α : Type} (read : JsValue → Option α) : JsValue → Option (List α)
  | .array items => items.mapM read
  | _ => none

def tagNames : List String := ["id", "name", "colour", "ordinal", "builtIn"]

def tagOf (value : JsValue) : Option MessageTag :=
  if hasOnly tagNames value then do
    let id ← textOf (value.member "id")
    let name ← textOf (value.member "name")
    let colour ← textOf (value.member "colour")
    let ordinal ← wholeOf (value.member "ordinal")
    let builtIn ← flagOf (value.member "builtIn")
    return { id, name, colour, ordinal, builtIn }
  else none

def tagValue (tag : MessageTag) : JsValue :=
  .objectOf [("id", .string tag.id), ("name", .string tag.name), ("colour", .string tag.colour),
    ("ordinal", .number (.finite tag.ordinal)), ("builtIn", .boolean tag.builtIn)]

def assignmentOf (member : JsString × JsValue) : Option (JsString × List JsString) :=
  (listOf textOf member.2).map (member.1, ·)

def assignmentsOf : JsValue → Option MessageTags.Assignments
  | .object members => (members.filter (·.1 ≠ protoKey)).mapM assignmentOf
  | _ => none

def tagStateOf (value : JsValue) : Option MessageTagState :=
  if hasOnly ["catalog", "assignments"] value then do
    let catalog ← listOf tagOf (value.member "catalog")
    let assignments ← assignmentsOf (value.member "assignments")
    return { catalog, assignments }
  else none

def tagStateValue (state : MessageTagState) : JsValue :=
  .objectOf [("catalog", .array (state.catalog.map tagValue)),
    ("assignments", .object (state.assignments.map fun assignment => (assignment.1, .array (assignment.2.map .string))))]

/-- A tag that is not there any more is dropped. -/
def messageTagStateSchema : Schema := fun value => do
  let state ← tagStateOf value
  let next ← MessageTags.messageTagStateSchema host.toHost state
  return tagStateValue next

def identityNames : List String :=
  ["id", "accountId", "displayName", "email", "replyTo", "organization", "signature", "signaturePlacement", "isDefault",
    "ordinal"]

def placementText : SignaturePlacement → String
  | .belowBody => "below-body"
  | .belowQuote => "below-quote"

def placementOf (value : JsValue) : Option SignaturePlacement :=
  if isText value "below-body" then some .belowBody else if isText value "below-quote" then some .belowQuote else none

/-- An identity, with its identifiers without the white space around them. -/
def identityOf (value : JsValue) : Option MailIdentity :=
  if hasOnly identityNames value then do
    let id ← (textOf (value.member "id")).bind Identifier.parse
    let accountId ← (textOf (value.member "accountId")).bind Identifier.parse
    let displayName ← textOf (value.member "displayName")
    let email ← textOf (value.member "email")
    let replyTo ← textOf (value.member "replyTo")
    let organization ← textOf (value.member "organization")
    let signature ← textOf (value.member "signature")
    let signaturePlacement ← placementOf (value.member "signaturePlacement")
    let isDefault ← flagOf (value.member "isDefault")
    let ordinal ← wholeOf (value.member "ordinal")
    return { id, accountId, displayName, email, replyTo, organization, signature, signaturePlacement, isDefault, ordinal }
  else none

def identityValue (identity : MailIdentity) : JsValue :=
  .objectOf [("id", .string identity.id), ("accountId", .string identity.accountId),
    ("displayName", .string identity.displayName), ("email", .string identity.email),
    ("replyTo", .string identity.replyTo), ("organization", .string identity.organization),
    ("signature", .string identity.signature),
    ("signaturePlacement", textValue (placementText identity.signaturePlacement)),
    ("isDefault", .boolean identity.isDefault), ("ordinal", .number (.finite identity.ordinal))]

/-- Every account has its one default. -/
def identityListSchema : Schema := fun value => do
  let identities ← listOf identityOf value
  let next ← Identities.identityListSchema identities
  return .array (next.map identityValue)

end Lists

section Queues

variable (host : Host)

def composeDraftSchema : Schema :=
  strictObject (named [("id", optional identifierSchema), ("accountId", identifierSchema),
    ("identityId", optional identifierSchema), ("to", array recipientSchema 0 500), ("cc", array recipientSchema 0 500),
    ("bcc", array recipientSchema 0 500), ("subject", text fun subject => boundedString 998 subject && noHeaderBreaks subject),
    ("text", bounded (8 * 1024 * 1024)),
    ("inReplyTo", optional (text fun reply => filledString 998 reply && noHeaderBreaks reply)),
    ("references", optional (array (text fun reference => filledString 998 reference && noHeaderBreaks reference) 0 100)),
    ("attachments", array nativePathSchema 0 100)])

/-- A queued operation has the data that its kind needs. -/
def hasData (operation : JsValue) : Bool :=
  (isText (operation.member "kind") "flags" && !(operation.member "patch").isUndefined &&
    (!((operation.member "patch").member "unread").isUndefined || !((operation.member "patch").member "starred").isUndefined)) ||
  (isText (operation.member "kind") "move" && !(operation.member "destination").isUndefined)

def pendingOperationSchema : Schema :=
  refine (strictObject (named [("id", identifierSchema), ("accountId", identifierSchema), ("kind", oneOf ["flags", "move"]),
    ("folderPath", folderPath), ("uid", messageUid), ("uidValidity", optional (filled 128)),
    ("patch", optional (strictObject (named [("unread", optional boolean), ("starred", optional boolean)]))),
    ("destination", optional folderPath), ("createdAt", timestampSchema host), ("attempts", whole 0 1000000),
    ("lastError", bounded 32768)])) hasData

def outboxItemSchema : Schema :=
  strictObject (named [("id", identifierSchema), ("draft", composeDraftSchema), ("createdAt", timestampSchema host),
    ("attempts", whole 0 1000000), ("lastError", bounded 32768)])

end Queues

section Notifications

variable (host : Host)

def notificationActions : List (JsString × Schema) :=
  [(ofString "page", strictObject (named [("kind", literal "open"), ("target", literal "page"),
      ("page", oneOf ["mail", "drafts", "outbox", "settings", "history", "tools"])])),
    (ofString "draft", strictObject (named [("kind", literal "open"), ("target", literal "draft"),
      ("accountId", identifierSchema), ("draftId", identifierSchema)])),
    (ofString "sync", strictObject (named [("kind", literal "retry"), ("target", literal "sync"),
      ("accountId", identifierSchema)])),
    (ofString "pending-operation", strictObject (named [("kind", literal "retry"), ("target", literal "pending-operation"),
      ("accountId", identifierSchema), ("operationId", identifierSchema)])),
    (ofString "outbox", strictObject (named [("kind", literal "retry"), ("target", literal "outbox"),
      ("accountId", identifierSchema), ("outboxId", identifierSchema)])),
    (ofString "settings-revision", strictObject (named [("kind", literal "undo"), ("target", literal "settings-revision"),
      ("historyId", identifierSchema)]))]

/-- The actions, each with its own target. -/
def notificationActionSchema : Schema := union (notificationActions.map Prod.snd)

/-- An action as it was stored once. -/
def legacyActionSchema : Schema :=
  replaced (strictObject (named [("label", bounded 1024), ("command", bounded 4096)])) .undefined

def storedNotificationActionSchema : Schema := optional (union [notificationActionSchema, legacyActionSchema])

def notificationSchema : Schema :=
  strictObject (named [("id", identifierSchema), ("kind", oneOf ["info", "success", "warning", "error"]),
    ("category", orDefault (oneOf ["account", "mail", "delivery", "security", "history", "system"]) (textValue "system")),
    ("title", bounded 1024), ("body", bounded 32768), ("createdAt", timestampSchema host), ("read", boolean),
    ("dismissed", orDefault boolean (.boolean false)), ("action", storedNotificationActionSchema)])

end Notifications

section History

variable (host : Host)

mutual

/-- Any value of a text. -/
def jsonValueSchema : JsValue → Option JsValue
  | .null => some .null
  | .boolean value => some (.boolean value)
  | .number (.finite value) => some (.number (.finite value))
  | .string value => some (.string value)
  | .array items => (jsonItems items).map .array
  | .object members => (jsonMembers members).map .object
  | .undefined => none
  | .nan => none
  | .number (.infinite _) => none

def jsonItems : List JsValue → Option (List JsValue)
  | [] => some []
  | item :: items => do return (← jsonValueSchema item) :: (← jsonItems items)

def jsonMembers : List (JsString × JsValue) → Option (List (JsString × JsValue))
  | [] => some []
  | (key, value) :: members =>
    if key = protoKey then jsonMembers members
    else do return (key, ← jsonValueSchema value) :: (← jsonMembers members)

end

def historyRecordSchema : Schema :=
  strictObject (named [("id", identifierSchema),
    ("kind", oneOf ["created", "updated", "deleted", "restored", "undone", "imported", "settings-changed", "pruned"]),
    ("entityType", oneOf ["account", "message", "draft", "contact", "calendar", "task", "settings", "history"]),
    ("entityId", bounded 4096), ("label", bounded 8192), ("createdAt", timestampSchema host),
    ("snapshot", jsonValueSchema)])

def quarantinedAttachmentSchema : Schema :=
  strictObject (named [("id", text isUuid), ("filename", filled 4096), ("contentType", filled 1024), ("size", count),
    ("sha256", text fun hash => hash.length = 64 && hash.all MessageTags.isHexDigit), ("risk", quarantineRiskSchema),
    ("quarantinedAt", timestampSchema host),
    ("source", strictObject (named [("accountId", identifierSchema), ("folderPath", folderPath), ("uid", messageUid),
      ("uidValidity", filled 128), ("attachmentIndex", whole 0 9999), ("messageId", optional (filled 4096))]))])

end History

section Settings

/-- The switch that earlier versions had is dropped. -/
def preferencesSchema : Schema :=
  strictObject (named [("language", oneOf ["en", "yue", "bilingual"]), ("funnyEnglish", number (· ∈ [1, 2, 3, 4, 5])),
    ("funnyCantonese", number (· ∈ [1, 2, 3, 4, 5])), ("theme", oneOf ["light", "dark", "system"]),
    ("density", oneOf ["compact", "comfortable", "relaxed"]), ("accent", text isAccent),
    ("fontFamily", trimmed fun font => filledString 256 font && noControlCharacters font),
    ("fontScale", number fun scale => 1 / 2 ≤ scale && scale ≤ 3), ("fontWeight", whole 100 1000),
    ("narratorEnabled", boolean), ("narratorLanguage", oneOf ["en", "yue", "bilingual"]),
    ("nativeNotificationsEnabled", orDefault boolean (.boolean false)),
    ("historyRetentionDays", orDefault (whole 30 3650) (.number (.finite 365))),
    ("externalEditorPath", optional nativePathSchema), ("selectedAccountId", optional identifierSchema),
    ("selectedFolderPath", optional folderPath), ("dimSumEnabled", replaced (optional boolean) .undefined)])

def messageFilterConditionSchema : Schema :=
  strictObject (named [("field", oneOf ["from", "to", "cc", "recipient", "subject", "body", "account", "folder", "tag", "size",
      "age-days", "attachments", "read-state", "star-state"]),
    ("operator", oneOf ["contains", "not-contains", "is", "is-not", "starts-with", "ends-with", "regex", "greater-than",
      "less-than"]), ("value", bounded 2048), ("caseSensitive", boolean)])

def messageFilterActionSchema : Schema :=
  strictObject (named [("kind", oneOf ["mark-read", "mark-unread", "star", "unstar", "add-tag", "remove-tag", "move", "archive",
    "trash", "mark-junk", "mark-not-junk", "stop"]), ("value", bounded 2048)])

def messageFilterSchema : Schema :=
  strictObject (named [("id", identifierSchema), ("name", filled 120), ("enabled", boolean), ("ordinal", whole 0 200),
    ("match", oneOf ["all", "any"]), ("runOnSync", boolean), ("accountId", nullable identifierSchema),
    ("conditions", array messageFilterConditionSchema 1 20), ("actions", array messageFilterActionSchema 1 20)])

def junkTokenCountSchema : Schema := strictObject (named [("junk", count), ("good", count)])

def junkModelSchema : Schema :=
  strictObject (named [("schemaVersion", number (· = 1)), ("junkMessageCount", count), ("goodMessageCount", count),
    ("tokens", record (filledString 128) junkTokenCountSchema 20000)])

def emptyJunkModel : JsValue :=
  .objectOf [("schemaVersion", .number (.finite 1)), ("junkMessageCount", .number (.finite 0)),
    ("goodMessageCount", .number (.finite 0)), ("tokens", .object [])]

end Settings

variable (host : Host)

def stateFields : Fields :=
  named [("schemaVersion", number (· = 1)),
    ("messageTags", orDefault (messageTagStateSchema host) (tagStateValue MessageTags.emptyMessageTagState)),
    ("messageFilters", orDefault (array messageFilterSchema 0 200) (.array [])),
    ("junkModel", orDefault junkModelSchema emptyJunkModel), ("accounts", array (accountSchema host) 0 100),
    ("identities", orDefault identityListSchema (.array [])), ("preferences", preferencesSchema),
    ("folders", record (boundedString 512) (array folderSchema 0 10000) 100),
    ("messages", record (boundedString 4096) (array (messageSummarySchema host) 0 10000) 10000),
    ("details", record (boundedString 4096) (messageDetailSchema host) 50000),
    ("drafts", array composeDraftSchema 0 1000), ("pendingOperations", array (pendingOperationSchema host) 0 5000),
    ("outbox", array (outboxItemSchema host) 0 1000), ("notifications", array (notificationSchema host) 0 500),
    ("history", array (historyRecordSchema host) 0 2000),
    ("quarantinedAttachments", orDefault (array (quarantinedAttachmentSchema host) 0 1000) (.array [])),
    ("approvedEditorPaths", orDefault (array nativePathSchema 0 100) (.array []))]

/-- `persistedStateSchema.parse`. -/
def parsePersistedState : Schema := strictObject (stateFields host)

end PersistedState
