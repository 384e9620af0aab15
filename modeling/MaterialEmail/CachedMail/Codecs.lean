import MaterialEmail.CachedMail.Index

/-! How the source of the index and its documents are written as JSON. What is written is read back as it was. -/
namespace CachedMail

open JsString MailService
open Json (Codec Members required optional record list count flag raw)
open MessageFilters (FolderRole)

section Names

def roleName : FolderRole → JsString
  | .inbox => ofString "inbox"
  | .sent => ofString "sent"
  | .drafts => ofString "drafts"
  | .archive => ofString "archive"
  | .junk => ofString "junk"
  | .trash => ofString "trash"
  | .other => ofString "other"

def allRoles : List FolderRole := [.inbox, .sent, .drafts, .archive, .junk, .trash, .other]

theorem allRoles_complete (role : FolderRole) : role ∈ allRoles := by
  cases role <;> decide

theorem roleNames_distinct : (allRoles.map roleName).Nodup := by decide

def roleCodec : Codec FolderRole := Json.names allRoles roleName allRoles_complete roleNames_distinct

def fieldName : CachedMailSearchField → JsString
  | .subject => ofString "subject"
  | .addresses => ofString "addresses"
  | .preview => ofString "preview"
  | .body => ofString "body"
  | .account => ofString "account"
  | .folder => ofString "folder"
  | .conversation => ofString "conversation"

def allFields : List CachedMailSearchField := [.subject, .addresses, .preview, .body, .account, .folder, .conversation]

theorem allFields_complete (field : CachedMailSearchField) : field ∈ allFields := by
  cases field <;> decide

theorem fieldNames_distinct : (allFields.map fieldName).Nodup := by decide

def fieldCodec : Codec CachedMailSearchField := Json.names allFields fieldName allFields_complete fieldNames_distinct

end Names

section Messages

def member (key : String) (codec : Codec α) : Members α := required (ofString key) codec

def optionalMember (key : String) (codec : Codec α) : Members (Option α) := optional (ofString key) codec

def addressCodec : Codec Address :=
  record (((member "name" Json.text).and (member "address" Json.text) (by decide)).of
    (fun (name, address) => ⟨name, address⟩) (fun value => (value.name, value.address)) fun _ => rfl)

/-- Where a message is. -/
def placeMembers : Members (JsString × JsString × JsString × Nat × Option JsString) :=
  (member "id" Json.text).and ((member "accountId" Json.text).and ((member "folderPath" Json.text).and
    ((member "uid" count).and (optionalMember "uidValidity" Json.text) (by decide)) (by decide)) (by decide)) (by decide)

/-- What a message refers to, and who wrote it to whom. -/
def headerMembers : Members (Option JsString × Option JsString × Option (List JsString) × List Address × List Address ×
    List Address) :=
  (optionalMember "messageId" Json.text).and ((optionalMember "inReplyTo" Json.text).and
    ((optionalMember "references" (list Json.text)).and ((member "from" (list addressCodec)).and
      ((member "to" (list addressCodec)).and (member "cc" (list addressCodec)) (by decide)) (by decide)) (by decide))
      (by decide)) (by decide)

def contentMembers : Members (JsString × JsString × JsString × Bool × Bool × Bool × Nat) :=
  (member "subject" Json.text).and ((member "date" Json.text).and ((member "preview" Json.text).and
    ((member "unread" flag).and ((member "starred" flag).and ((member "hasAttachments" flag).and (member "size" count)
      (by decide)) (by decide)) (by decide)) (by decide)) (by decide)) (by decide)

def summaryMembers : Members MessageSummary :=
  (placeMembers.and (headerMembers.and contentMembers (by decide)) (by decide)).of
    (fun ((id, accountId, folderPath, uid, uidValidity), (messageId, inReplyTo, references, «from», «to», cc),
        (subject, date, preview, unread, starred, hasAttachments, size)) =>
      ⟨id, accountId, folderPath, uid, uidValidity, messageId, inReplyTo, references, «from», «to», cc, subject, date,
        preview, unread, starred, hasAttachments, size⟩)
    (fun value =>
      ((value.id, value.accountId, value.folderPath, value.uid, value.uidValidity),
        (value.messageId, value.inReplyTo, value.references, value.from, value.to, value.cc),
        (value.subject, value.date, value.preview, value.unread, value.starred, value.hasAttachments, value.size)))
    fun _ => rfl

def messageCodec : Codec MessageSummary := record summaryMembers

end Messages

section Sources

def accountMembers : Members AccountSummary :=
  (((member "id" Json.text).and ((member "displayName" Json.text).and (member "email" Json.text) (by decide))
      (by decide)).and
    (((member "incoming" raw).and ((member "outgoing" raw).and ((member "authMode" raw).and
        (optionalMember "oauthProvider" raw) (by decide)) (by decide)) (by decide)).and
      ((member "kind" raw).and ((member "createdAt" raw).and ((optionalMember "lastSyncAt" raw).and
        ((optionalMember "syncError" raw).and (optionalMember "messageCryptography" raw) (by decide)) (by decide))
        (by decide)) (by decide)) (by decide)) (by decide)).of
    (fun ((id, displayName, email), (incoming, outgoing, authMode, oauthProvider),
        (kind, createdAt, lastSyncAt, syncError, messageCryptography)) =>
      ⟨id, displayName, email, incoming, outgoing, authMode, oauthProvider, kind, createdAt, lastSyncAt, syncError,
        messageCryptography⟩)
    (fun value =>
      ((value.id, value.displayName, value.email),
        (value.incoming, value.outgoing, value.authMode, value.oauthProvider),
        (value.kind, value.createdAt, value.lastSyncAt, value.syncError, value.messageCryptography)))
    fun _ => rfl

def folderMembers : Members FolderSummary :=
  ((member "accountId" Json.text).and ((member "path" Json.text).and ((member "name" Json.text).and
    ((member "role" roleCodec).and ((member "unread" count).and ((member "total" count).and
      (optionalMember "uidValidity" Json.text) (by decide)) (by decide)) (by decide)) (by decide)) (by decide))
      (by decide)).of
    (fun (accountId, path, name, role, unread, total, uidValidity) => ⟨accountId, path, name, role, unread, total, uidValidity⟩)
    (fun value => (value.accountId, value.path, value.name, value.role, value.unread, value.total, value.uidValidity))
    fun _ => rfl

def detailMembers : Members CachedDetail :=
  (summaryMembers.and ((member "text" Json.text).and ((member "html" raw).and ((member "remoteContentHtml" raw).and
    ((member "remoteContentSources" raw).and ((member "remoteContentAllowed" raw).and ((member "attachments" raw).and
      ((member "replyTo" raw).and (member "cryptography" raw) (by decide)) (by decide)) (by decide)) (by decide))
      (by decide)) (by decide)) (by decide)) (by decide)).of
    (fun (summary, text, html, remoteContentHtml, remoteContentSources, remoteContentAllowed, attachments, replyTo,
        cryptography) =>
      ⟨summary, text, html, remoteContentHtml, remoteContentSources, remoteContentAllowed, attachments, replyTo, cryptography⟩)
    (fun value => (value.summary, value.text, value.html, value.remoteContentHtml, value.remoteContentSources,
      value.remoteContentAllowed, value.attachments, value.replyTo, value.cryptography))
    fun _ => rfl

def sourceCodec : Codec CachedMailIndexSource :=
  record (((member "accounts" (list (record accountMembers))).and
    ((member "folders" (Json.dictionary (list (record folderMembers)))).and
      ((member "messages" (Json.dictionary (list messageCodec))).and
        (member "details" (Json.dictionary (record detailMembers))) (by decide)) (by decide)) (by decide)).of
    (fun (accounts, folders, messages, details) => ⟨accounts, folders, messages, details⟩)
    (fun value => (value.accounts, value.folders, value.messages, value.details)) fun _ => rfl)

end Sources

section Documents

def indexedFieldCodec : Codec IndexedField :=
  record (((member "key" fieldCodec).and ((member "raw" Json.text).and (member "normalized" Json.text) (by decide))
      (by decide)).of
    (fun (key, raw, normalized) => ⟨key, raw, normalized⟩) (fun value => (value.key, value.raw, value.normalized))
    fun _ => rfl)

def hitAccountCodec : Codec HitAccount :=
  record (((member "id" Json.text).and ((member "displayName" Json.text).and (member "email" Json.text) (by decide))
      (by decide)).of
    (fun (id, displayName, email) => ⟨id, displayName, email⟩) (fun value => (value.id, value.displayName, value.email))
    fun _ => rfl)

def hitFolderCodec : Codec HitFolder :=
  record (((member "path" Json.text).and ((member "name" Json.text).and (member "role" roleCodec) (by decide))
      (by decide)).of
    (fun (path, name, role) => ⟨path, name, role⟩) (fun value => (value.path, value.name, value.role)) fun _ => rfl)

def hitConversationCodec : Codec HitConversation :=
  record (((member "id" Json.text).and ((member "subject" Json.text).and (member "messageCount" count) (by decide))
      (by decide)).of
    (fun (id, subject, messageCount) => ⟨id, subject, messageCount⟩)
    (fun value => (value.id, value.subject, value.messageCount)) fun _ => rfl)

def documentCodec : Codec CachedMailIndexDocument :=
  record (((member "message" messageCodec).and ((member "snippet" Json.text).and ((member "account" hitAccountCodec).and
    ((member "folder" hitFolderCodec).and ((member "conversation" hitConversationCodec).and
      (member "fields" (list indexedFieldCodec)) (by decide)) (by decide)) (by decide)) (by decide)) (by decide)).of
    (fun (message, snippet, account, folder, conversation, fields) =>
      ⟨message, snippet, account, folder, conversation, fields⟩)
    (fun value => (value.message, value.snippet, value.account, value.folder, value.conversation, value.fields))
    fun _ => rfl)

end Documents

end CachedMail
