import MaterialEmail.CachedMail.Codecs
import MaterialEmail.Library.Transaction

/-! `CachedMailSqliteIndex`: the index of cached mail, kept in a database beside the fingerprint of what it was made
from. -/
namespace CachedMail

open Interrupted JsString Transactional
open Program (catching)

/-- `createHash("sha256")` with a digest in hexadecimal digits, `Number` of a text where that is an integer, and whether
there is a `node:sqlite`. -/
structure SqliteHost extends SearchHost where
  sha256 : JsString → JsString
  toInteger : JsString → Option Int
  supported : Bool

def cachedMailSqliteSchemaVersion : Int := 1

def metaSchemaVersionKey : JsString := ofString "schema_version"
def metaFingerprintKey : JsString := ofString "source_fingerprint"
def metaDocumentLimitReachedKey : JsString := ofString "document_limit_reached"

section Tables

structure Row where
  position : Nat
  messageId : JsString
  accountId : JsString
  folderPath : JsString
  payload : JsString

/-- A table that is not there is nothing, and so is one of that name without the columns that are asked for. -/
structure Tables where
  schemaMeta : Option (List (JsString × JsString))
  documents : Option (List Row)

inductive Query where
  | schemaMeta
  | documents

inductive Statement where
  | dropDocuments
  | dropSchemaMeta
  | createSchemaMeta
  | createDocuments
  | createIndex
  | prepareDocument
  | insertDocument (row : Row)
  | prepareMeta
  | insertMeta (key value : JsString)

def perform (statement : Statement) (tables : Tables) : Option Tables :=
  match statement with
  | .dropDocuments => some { tables with documents := none }
  | .dropSchemaMeta => some { tables with schemaMeta := none }
  | .createSchemaMeta => if tables.schemaMeta.isSome then none else some { tables with schemaMeta := some [] }
  | .createDocuments => if tables.documents.isSome then none else some { tables with documents := some [] }
  | .createIndex => if tables.documents.isSome then some tables else none
  | .prepareDocument => if tables.documents.isSome then some tables else none
  | .prepareMeta => if tables.schemaMeta.isSome then some tables else none
  | .insertDocument row => do
    let rows ← tables.documents
    if rows.any (·.position = row.position) then none else some { tables with documents := some (rows ++ [row]) }
  | .insertMeta key value => do
    let rows ← tables.schemaMeta
    if rows.any (·.1 = key) then none else some { tables with schemaMeta := some (rows ++ [(key, value)]) }

/-- `SELECT key, value FROM schema_meta` and `SELECT payload FROM documents ORDER BY position ASC`. -/
def engine : Engine Tables Query Statement where
  empty := ⟨none, none⟩
  Answer
    | .schemaMeta => List (JsString × JsString)
    | .documents => List JsString
  answer
    | .schemaMeta, tables => tables.schemaMeta
    | .documents, tables => tables.documents.map fun rows =>
        (rows.mergeSort fun left right => left.position ≤ right.position).map (·.payload)
  perform

end Tables

variable (host : SqliteHost)

section Reading

structure StoredMeta where
  schemaVersion : Int
  fingerprint : JsString
  documentLimitReached : Bool

def sourceText (source : CachedMailIndexSource) : JsString := Json.stringify (sourceCodec.encode source)

def fingerprintSource (source : CachedMailIndexSource) : JsString := host.sha256 (sourceText source)

/-- What the rows of `schema_meta` say. -/
def metaOf (rows : List (JsString × JsString)) : Option StoredMeta := do
  let schemaVersionRaw ← mapGet rows metaSchemaVersionKey
  let fingerprint ← mapGet rows metaFingerprintKey
  let documentLimitReachedRaw ← mapGet rows metaDocumentLimitReachedKey
  let schemaVersion ← host.toInteger schemaVersionRaw
  return ⟨schemaVersion, fingerprint, documentLimitReachedRaw = ofString "1"⟩

def readMeta : Session engine SearchError (Option StoredMeta) :=
  ((ask engine .database (.query .schemaMeta)).bind fun rows => .done (metaOf host rows)).catching fun _ => .done none

def readDocument (payload : JsString) : Option CachedMailIndexDocument := (Json.parse payload).bind documentCodec.decode

/-- `rows.map(row => JSON.parse(row.payload))`. -/
def parseDocuments (documentLimitReached : Bool) (payloads : List JsString) : Session engine SearchError CachedMailIndex :=
  match payloads.mapM readDocument with
  | some documents => .done ⟨documents, documentLimitReached⟩
  | none => .throw .database

def readDocuments (documentLimitReached : Bool) : Session engine SearchError CachedMailIndex :=
  (ask engine .database (.query .documents)).bind (parseDocuments documentLimitReached)

end Reading

section Writing

def rowOf (entry : CachedMailIndexDocument × Nat) : Row where
  position := entry.2
  messageId := entry.1.message.id
  accountId := entry.1.message.accountId
  folderPath := entry.1.message.folderPath
  payload := Json.stringify (documentCodec.encode entry.1)

def metaRows (index : CachedMailIndex) (fingerprint : JsString) : List (JsString × JsString) := [
  (metaSchemaVersionKey, ofString "1"),
  (metaFingerprintKey, fingerprint),
  (metaDocumentLimitReachedKey, if index.documentLimitReached then ofString "1" else ofString "0")]

def writeStatements (index : CachedMailIndex) (fingerprint : JsString) : List Statement :=
  [.dropDocuments, .dropSchemaMeta, .createSchemaMeta, .createDocuments, .createIndex, .createIndex, .prepareDocument] ++
    (index.documents.zipIdx.map fun entry => .insertDocument (rowOf entry)) ++
    .prepareMeta :: (metaRows index fingerprint).map fun row => .insertMeta row.1 row.2

def writeIndex (index : CachedMailIndex) (fingerprint : JsString) : Session engine SearchError Unit :=
  transaction engine .database (writeStatements index fingerprint)

end Writing

section Methods

def orThrow : Except ε α → Session engine ε α
  | .ok value => .done value
  | .error error => .throw error

def create (source : CachedMailIndexSource) : Except SearchError CachedMailIndex :=
  (createCachedMailIndex host.toHost source).mapError .index

def writeFresh (source : CachedMailIndexSource) : Session engine SearchError CachedMailIndex :=
  (orThrow (create host source)).bind fun fresh =>
    (writeIndex fresh (fingerprintSource host source)).bind fun _ => .done fresh

/-- What `#loadOrRebuild` does with the open database. -/
def loadOrWrite (source : CachedMailIndexSource) : Session engine SearchError CachedMailIndex :=
  (readMeta host).bind fun
    | some stored =>
      if stored.schemaVersion = cachedMailSqliteSchemaVersion ∧ stored.fingerprint = fingerprintSource host source then
        readDocuments stored.documentLimitReached
      else writeFresh host source
    | none => writeFresh host source

def loadOrRebuild (source : CachedMailIndexSource) : Session engine SearchError CachedMailIndex :=
  (ask engine .database .connect).bind fun _ => (loadOrWrite host source).finally_ (ask engine .database .close)

def removeAll : List String → Session engine SearchError Unit
  | [] => .done ()
  | suffix :: suffixes =>
    ((ask engine .database (.remove suffix)).catching fun _ => .done ()).bind fun _ => removeAll suffixes

def resetFile : Session engine SearchError Unit := removeAll ["", "-wal", "-shm", "-journal"]

def recoverAfterCorruption (source : CachedMailIndexSource) : Session engine SearchError (Option CachedMailIndex) :=
  resetFile.bind fun _ => ((loadOrRebuild host source).bind fun index => .done (some index)).catching fun _ => .done none

def resolveIndex (source : CachedMailIndexSource) : Session engine SearchError (Option CachedMailIndex) :=
  if host.supported then
    ((loadOrRebuild host source).bind fun index => .done (some index)).catching fun _ => recoverAfterCorruption host source
  else .done none

def search (source : CachedMailIndexSource) (query : CachedMailSearchQuery) :
    Session engine SearchError CachedMailSearchResult :=
  (resolveIndex host source).bind fun
    | some index => orThrow (searchCachedMailIndex host.toSearchHost index query)
    | none => orThrow (plainSearch host.toSearchHost source query)

def rebuild (source : CachedMailIndexSource) : Session engine SearchError Bool :=
  if host.supported then
    ((ask engine .database .connect).bind fun _ =>
      ((orThrow (create host source)).bind fun index =>
        (writeIndex index (fingerprintSource host source)).bind fun _ => .done true).finally_
        (ask engine .database .close)).catching fun _ => resetFile.bind fun _ => .done false
  else .done false

end Methods

section Calls

inductive Call where
  | search (source : CachedMailIndexSource) (query : CachedMailSearchQuery)
  | rebuild (source : CachedMailIndexSource)

def Call.source : Call → CachedMailIndexSource
  | .search source _ => source
  | .rebuild source => source

inductive Answer where
  | found (result : CachedMailSearchResult)
  | persisted (done : Bool)

def Call.program : Call → Session engine SearchError Answer
  | .search source query => (CachedMail.search host source query).bind fun result => .done (.found result)
  | .rebuild source => (CachedMail.rebuild host source).bind fun persisted => .done (.persisted persisted)

/-- Calls one after the other, each with the faults that strike it. -/
def runCalls : List (Call × List (Fault Unit)) → State Tables → List (Outcome SearchError Answer) × State Tables
  | [], s => ([], s)
  | (call, faults) :: calls, s =>
    let (outcome, s') := run (device engine) (call.program host) faults s
    let (outcomes, last) := runCalls calls s'
    (outcome :: outcomes, last)

end Calls

end CachedMail
