import MaterialEmail.CachedMail.Grouping
import MaterialEmail.Library.Json
import MaterialEmail.MessageFilters
import MaterialEmail.SearchPatterns.Model

/-! The index that cached mail is searched with: the messages of the folders that are known, with the texts that a
pattern is looked for in. -/
namespace CachedMail

open JsString MailService
open MessageFilters (FolderRole)
open SearchPatterns (MatcherOptions)

def cachedMailIndexDocumentLimit : Nat := 2000
def cachedMailIndexResultLimit : Nat := 200
def cachedMailIndexBodyCharacters : Nat := 4096

structure SearchHost extends Host where
  engine : SearchPatterns.Engine

section Types

/-- What the index does not look at is the JSON that it is. -/
structure AccountSummary where
  id : JsString
  displayName : JsString
  email : JsString
  incoming : Json
  outgoing : Json
  authMode : Json
  oauthProvider : Option Json
  kind : Json
  createdAt : Json
  lastSyncAt : Option Json
  syncError : Option Json
  messageCryptography : Option Json

structure FolderSummary where
  accountId : JsString
  path : JsString
  name : JsString
  role : FolderRole
  unread : Nat
  total : Nat
  uidValidity : Option JsString

/-- What the index does not look at is the JSON that it is. -/
structure CachedDetail where
  summary : MessageSummary
  text : JsString
  html : Json
  remoteContentHtml : Json
  remoteContentSources : Json
  remoteContentAllowed : Json
  attachments : Json
  replyTo : Json
  cryptography : Json

/-- A record is the list of its entries. -/
structure CachedMailIndexSource where
  accounts : List AccountSummary
  folders : List (JsString × List FolderSummary)
  messages : List (JsString × List MessageSummary)
  details : List (JsString × CachedDetail)

inductive CachedMailSearchField where
  | subject
  | addresses
  | preview
  | body
  | account
  | folder
  | conversation
  deriving DecidableEq, Repr

structure IndexedField where
  key : CachedMailSearchField
  raw : JsString
  normalized : JsString
  deriving DecidableEq

structure HitAccount where
  id : JsString
  displayName : JsString
  email : JsString
  deriving DecidableEq

structure HitFolder where
  path : JsString
  name : JsString
  role : FolderRole
  deriving DecidableEq

structure HitConversation where
  id : JsString
  subject : JsString
  messageCount : Nat
  deriving DecidableEq

structure CachedMailIndexDocument where
  message : MessageSummary
  snippet : JsString
  account : HitAccount
  folder : HitFolder
  conversation : HitConversation
  fields : List IndexedField

structure CachedMailIndex where
  documents : List CachedMailIndexDocument
  documentLimitReached : Bool

/-- The limit is checked to be a whole number. -/
structure CachedMailSearchQuery extends MatcherOptions where
  limit : Int

structure CachedMailSearchHit where
  message : MessageSummary
  snippet : JsString
  matchedFields : List CachedMailSearchField
  account : HitAccount
  folder : HitFolder
  conversation : HitConversation

structure CachedMailSearchResult where
  hits : List CachedMailSearchHit
  totalMatched : Nat
  indexedDocumentCount : Nat
  documentLimit : Nat
  documentLimitReached : Bool
  resultLimit : Nat

end Types

section Creating

variable (host : Host)

def normalizedText (value : JsString) (caseInsensitive : Bool) : JsString :=
  let normalized := trim (replaceRuns isWhiteSpace 32 false (host.normalize value))
  if caseInsensitive then host.lower normalized else normalized

def addressText (message : MessageSummary) : JsString :=
  List.intercalate [10] ((message.from ++ message.to ++ message.cc).map fun address => address.name ++ 32 :: address.address)

def cacheParts (key : JsString) : Option (JsString × JsString) :=
  let separator := key.idxOf 0
  if separator = 0 ∨ key.length ≤ separator + 1 then none else some (key.take separator, key.drop (separator + 1))

/-- `new Map(…).get(key)`: of several entries with a key, the last one is kept. -/
def mapGet (entries : List (JsString × α)) (key : JsString) : Option α := entries.reverse.lookup key

def accountEntries (source : CachedMailIndexSource) : List (JsString × AccountSummary) :=
  source.accounts.map fun account => (account.id, account)

def folderEntries (source : CachedMailIndexSource) : List (JsString × FolderSummary) :=
  source.accounts.flatMap fun account => ((source.folders.lookup account.id).getD []).map fun folder =>
    (account.id ++ 0 :: folder.path, folder)

structure Selected where
  message : MessageSummary
  account : AccountSummary
  folder : FolderSummary
  body : JsString

/-- What the loops have come to; with the limit reached they are left. -/
structure Selecting where
  selected : List Selected
  identities : List JsString
  documentLimitReached : Bool

def selectMessage (source : CachedMailIndexSource) (parts : JsString × JsString) (account : AccountSummary)
    (folder : FolderSummary) (s : Selecting) (message : MessageSummary) : Selecting :=
  if s.documentLimitReached then s
  else if message.accountId ≠ parts.1 ∨ message.folderPath ≠ parts.2 ∨ message.id ∈ s.identities then s
  else if cachedMailIndexDocumentLimit ≤ s.selected.length then { s with documentLimitReached := true }
  else
    let body := ((source.details.lookup message.id).map fun detail => detail.text.take cachedMailIndexBodyCharacters).getD []
    { s with
      selected := s.selected ++ [⟨message, account, folder, body⟩]
      identities := message.id :: s.identities }

def selectEntry (source : CachedMailIndexSource) (s : Selecting) (entry : JsString × List MessageSummary) : Selecting :=
  match cacheParts entry.1 with
  | none => s
  | some parts =>
    match mapGet (accountEntries source) parts.1, mapGet (folderEntries source) entry.1 with
    | some account, some folder =>
      (sortBy (newestFirst host) entry.2).foldl (selectMessage source parts account folder) s
    | _, _ => s

def selectAll (source : CachedMailIndexSource) : Selecting :=
  (sortBy (fun left right => host.localeCompare left.1 right.1) source.messages).foldl (selectEntry host source) ⟨[], [], false⟩

def conversationEntries (conversations : List CachedConversation) : List (JsString × HitConversation) :=
  conversations.flatMap fun conversation => conversation.messages.map fun message =>
    (message.id, ⟨conversation.id, conversation.subject, conversation.messages.length⟩)

def createDocument (conversations : List CachedConversation) (item : Selected) : CachedMailIndexDocument :=
  let message := item.message
  let conversation := (mapGet (conversationEntries conversations) message.id).getD
    ⟨ofString "message:" ++ message.id, message.subject, 1⟩
  let rawFields : List (CachedMailSearchField × JsString) := [
    (.subject, message.subject),
    (.addresses, addressText message),
    (.preview, message.preview),
    (.body, item.body),
    (.account, item.account.displayName ++ 10 :: item.account.email),
    (.folder, item.folder.name ++ 10 :: item.folder.path),
    (.conversation, conversation.subject)]
  { message
    snippet := (if item.body = [] then message.preview else item.body).take 500
    account := ⟨item.account.id, item.account.displayName, item.account.email⟩
    folder := ⟨item.folder.path, item.folder.name, item.folder.role⟩
    conversation
    fields := rawFields.map fun field => ⟨field.1, field.2, normalizedText host field.2 true⟩ }

/-- A pass through the loops of the grouping for each key of each message. -/
def indexFuel : Nat := cachedMailIndexDocumentLimit * (cachedConversationReferenceLimit + 3)

def createCachedMailIndex (source : CachedMailIndexSource) : Except Failure CachedMailIndex := do
  let selecting := selectAll host source
  let grouping ← groupCachedConversations host indexFuel (selecting.selected.map (·.message))
  let documents := selecting.selected.map (createDocument host grouping.conversations)
  return ⟨sortBy (fun left right => newestFirst host left.message right.message) documents, selecting.documentLimitReached⟩

end Creating

section Searching

inductive SearchError where
  | index (failure : Failure)
  | invalid (message : JsString)
  | regExp (message : Option JsString)
  | database
  deriving DecidableEq

variable (host : SearchHost)

/-- What a field is matched by. -/
def matchedText (query : CachedMailSearchQuery) (caseInsensitive : Bool) (field : IndexedField) : JsString :=
  if query.mode = .plain then
    if caseInsensitive then field.normalized else normalizedText host.toHost field.raw false
  else field.raw

def matchedFields (query : CachedMailSearchQuery) (caseInsensitive : Bool) (matcher : JsString → Bool)
    (document : CachedMailIndexDocument) : List CachedMailSearchField :=
  (document.fields.filter fun field => matcher (matchedText host query caseInsensitive field)).map (·.key)

/-- One pass of the loop over the documents. -/
def collectHit (resultLimit : Nat) (fieldsOf : CachedMailIndexDocument → List CachedMailSearchField)
    (found : List CachedMailSearchHit × Nat) (document : CachedMailIndexDocument) : List CachedMailSearchHit × Nat :=
  if fieldsOf document = [] then found
  else if found.1.length < resultLimit then
    (found.1 ++ [⟨document.message, document.snippet, fieldsOf document, document.account, document.folder,
      document.conversation⟩], found.2 + 1)
  else (found.1, found.2 + 1)

def resultLimitOf (query : CachedMailSearchQuery) : Nat := (max 1 (min query.limit cachedMailIndexResultLimit)).toNat

def isCaseInsensitive (query : CachedMailSearchQuery) : Bool :=
  (SearchPatterns.validatePattern host.engine.toHost query.toMatcherOptions).normalizedFlags.contains 105

/-- What the matcher is made from. -/
def matcherOptions (query : CachedMailSearchQuery) : MatcherOptions where
  mode := query.mode
  pattern :=
    if query.mode = .plain then normalizedText host.toHost query.pattern (isCaseInsensitive host query) else query.pattern
  flags := (SearchPatterns.validatePattern host.engine.toHost query.toMatcherOptions).normalizedFlags

def searchCachedMailIndex (index : CachedMailIndex) (query : CachedMailSearchQuery) :
    Except SearchError CachedMailSearchResult :=
  let validation := SearchPatterns.validatePattern host.engine.toHost query.toMatcherOptions
  if validation.valid = false then .error (.invalid validation.message)
  else
    match SearchPatterns.createMatcher host.engine (matcherOptions host query) with
    | .error message => .error (.regExp message)
    | .ok matcher =>
      let found := index.documents.foldl
        (collectHit (resultLimitOf query) (matchedFields host query (isCaseInsensitive host query) matcher)) ([], 0)
      .ok {
        hits := found.1
        totalMatched := found.2
        indexedDocumentCount := index.documents.length
        documentLimit := cachedMailIndexDocumentLimit
        documentLimitReached := index.documentLimitReached
        resultLimit := resultLimitOf query }

/-- `searchCachedMailIndex(createCachedMailIndex(source), query)`. -/
def plainSearch (source : CachedMailIndexSource) (query : CachedMailSearchQuery) :
    Except SearchError CachedMailSearchResult := do
  let index ← (createCachedMailIndex host.toHost source).mapError .index
  searchCachedMailIndex host index query

end Searching

end CachedMail
