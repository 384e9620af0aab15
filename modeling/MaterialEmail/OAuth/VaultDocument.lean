import MaterialEmail.Library.Fallible
import MaterialEmail.OAuth.TokenVault

/-! The document that the token vault keeps in its file: what is accepted as one, and what each operation
makes of it. Of its two keys only the records vary. -/
namespace OAuth.Vault

open JsString

def fileLimit : Nat := 1024 * 1024
def accountKeyLimit : Nat := 256
def ciphertextLimit : Nat := 128 * 1024
def safeIntegerLimit : Nat := 2 ^ 53 - 1

inductive OAuthTokenVaultErrorCode where
  | providerRegistrationRequired
  | windowsSafeStorageUnavailable
  | invalidInput
  | recordAlreadyExists
  | recordNotFound
  | storageFailed
  deriving DecidableEq, Repr

structure StoredOAuthTokenRecord where
  provider : Provider
  accountKey : JsString
  accessTokenCiphertext : JsString
  refreshTokenCiphertext : JsString
  expiresAt : JsString
  scopes : List JsString
  generation : Nat
  createdAt : JsString
  updatedAt : JsString
  deriving DecidableEq

abbrev Key := Provider × JsString

def StoredOAuthTokenRecord.key (record : StoredOAuthTokenRecord) : Key := (record.provider, record.accountKey)

structure OAuthTokenVaultDocument where
  records : List StoredOAuthTokenRecord
  deriving DecidableEq

def emptyDocument : OAuthTokenVaultDocument := ⟨[]⟩

/-- What the host makes of times and of a document that is written out. -/
structure Host where
  /-- `Date.parse`, if it is a number. -/
  dateParse : JsString → Option Int
  /-- `toISOString`, unless the time is out of range. -/
  toISOString : Int → Option JsString
  /-- `Buffer.byteLength` of the document as JSON, indented by two, with a line feed. -/
  byteLength : OAuthTokenVaultDocument → Nat

abbrev Checked (α : Type) := Except OAuthTokenVaultErrorCode α

/-- The code under which an error of the checks on input is thrown. -/
def ofCheck : Except VaultError α → Checked α
  | .ok value => .ok value
  | .error .invalidInput => .error .invalidInput
  | .error .recordAlreadyExists => .error .recordAlreadyExists
  | .error .recordNotFound => .error .recordNotFound
  | .error .storageFailed => .error .storageFailed

def requireAccountKey (value : JsString) : Checked JsString :=
  if isPlainBoundedText value accountKeyLimit then .ok value else .error .invalidInput

section Parsing

/-- The value of a digit of base 64. -/
def sextet (unit : UInt16) : Option Nat :=
  if 65 ≤ unit ∧ unit ≤ 90 then some (unit.toNat - 65)
  else if 97 ≤ unit ∧ unit ≤ 122 then some (unit.toNat - 71)
  else if 48 ≤ unit ∧ unit ≤ 57 then some (unit.toNat + 4)
  else if unit = 43 then some 62
  else if unit = 47 then some 63
  else none

/-- What `toString("base64")` gives of some bytes: groups of four digits, the last of which may be padded, with
no bit left over. -/
def isBase64 : JsString → Bool
  | [] => true
  | [first, second, 61, 61] => (sextet first).isSome && (sextet second).any (· % 16 = 0)
  | [first, second, third, 61] => (sextet first).isSome && (sextet second).isSome && (sextet third).any (· % 4 = 0)
  | first :: second :: third :: fourth :: rest =>
    (sextet first).isSome && (sextet second).isSome && (sextet third).isSome && (sextet fourth).isSome && isBase64 rest
  | _ => false

def validateCiphertext (value : JsString) : Checked JsString :=
  if value.length < 4 ∨ ciphertextLimit < value.length ∨ isBase64 value = false then .error .storageFailed else .ok value

variable (host : Host)

def validateTimestamp (value : JsString) : Checked JsString :=
  if 64 < value.length ∨ host.dateParse value = none then .error .storageFailed else .ok value

/-- The errors that `parseRecord` makes its own. -/
def storageFailed : Checked α → Checked α
  | .ok value => .ok value
  | .error _ => .error .storageFailed

def parseRecord (candidate : StoredOAuthTokenRecord) : Checked StoredOAuthTokenRecord := do
  let scopes ← ofCheck (validateScopes candidate.scopes)
  if safeIntegerLimit < candidate.generation ∨ candidate.generation < 1 then .error .storageFailed
  else
    storageFailed do
      let accountKey ← requireAccountKey candidate.accountKey
      let accessTokenCiphertext ← validateCiphertext candidate.accessTokenCiphertext
      let refreshTokenCiphertext ← validateCiphertext candidate.refreshTokenCiphertext
      let expiresAt ← validateTimestamp host candidate.expiresAt
      let createdAt ← validateTimestamp host candidate.createdAt
      let updatedAt ← validateTimestamp host candidate.updatedAt
      return ⟨candidate.provider, accountKey, accessTokenCiphertext, refreshTokenCiphertext, expiresAt, scopes.1,
        candidate.generation, createdAt, updatedAt⟩

def parseDocument (candidate : OAuthTokenVaultDocument) : Checked OAuthTokenVaultDocument :=
  if recordLimit < candidate.records.length then .error .storageFailed
  else do
    let records ← candidate.records.mapM (parseRecord host)
    if (records.map (·.key)).Nodup then return ⟨records⟩ else .error .storageFailed

end Parsing

section Parsed

variable {host : Host}

theorem requireAccountKey_eq {value checked : JsString} (ok : requireAccountKey value = .ok checked) : checked = value := by
  unfold requireAccountKey at ok
  split at ok <;> cases ok
  rfl

theorem validateCiphertext_eq {value checked : JsString} (ok : validateCiphertext value = .ok checked) : checked = value := by
  unfold validateCiphertext at ok
  split at ok <;> cases ok
  rfl

theorem validateTimestamp_eq {value checked : JsString} (ok : validateTimestamp host value = .ok checked) : checked = value := by
  unfold validateTimestamp at ok
  split at ok <;> cases ok
  rfl

theorem scopes_eq {value : List JsString} {scopes : Scopes} (ok : ofCheck (validateScopes value) = .ok scopes) :
    scopes.1 = value := by
  unfold validateScopes at ok
  split at ok <;> cases ok
  rfl

theorem storageFailed_eq_ok {checked : Checked α} {value : α} (ok : storageFailed checked = .ok value) : checked = .ok value := by
  cases checked with
  | ok other => exact ok
  | error code => cases ok

/-- Parsing leaves a record as it is. -/
theorem parseRecord_eq {candidate record : StoredOAuthTokenRecord} (ok : parseRecord host candidate = .ok record) :
    record = candidate := by
  obtain ⟨scopes, isScopes, rest⟩ := Fallible.bind_eq_ok ok
  split at rest
  · cases rest
  · have rest := storageFailed_eq_ok rest
    obtain ⟨accountKey, isAccountKey, rest⟩ := Fallible.bind_eq_ok rest
    obtain ⟨accessToken, isAccessToken, rest⟩ := Fallible.bind_eq_ok rest
    obtain ⟨refreshToken, isRefreshToken, rest⟩ := Fallible.bind_eq_ok rest
    obtain ⟨expiresAt, isExpiresAt, rest⟩ := Fallible.bind_eq_ok rest
    obtain ⟨createdAt, isCreatedAt, rest⟩ := Fallible.bind_eq_ok rest
    obtain ⟨updatedAt, isUpdatedAt, rest⟩ := Fallible.bind_eq_ok rest
    cases rest
    rw [requireAccountKey_eq isAccountKey, validateCiphertext_eq isAccessToken, validateCiphertext_eq isRefreshToken,
      validateTimestamp_eq isExpiresAt, validateTimestamp_eq isCreatedAt, validateTimestamp_eq isUpdatedAt, scopes_eq isScopes]

theorem mapM_parseRecord_eq {candidates records : List StoredOAuthTokenRecord}
    (ok : candidates.mapM (parseRecord host) = .ok records) : records = candidates := by
  have same : List.Forall₂ (· = ·) candidates records :=
    (Fallible.mapM_eq_ok ok).imp fun _ _ isOk => (parseRecord_eq isOk).symm
  rw [List.forall₂_eq_eq_eq] at same
  exact same.symm

/-- What is accepted as a document is one already, with one record for an account at most. -/
theorem parseDocument_eq {candidate document : OAuthTokenVaultDocument} (ok : parseDocument host candidate = .ok document) :
    document = candidate ∧ (document.records.map (·.key)).Nodup := by
  unfold parseDocument at ok
  split at ok
  · cases ok
  · obtain ⟨records, areRecords, rest⟩ := Fallible.bind_eq_ok ok
    split at rest
    · rename_i unique
      cases rest
      exact ⟨by rw [mapM_parseRecord_eq areRecords], unique⟩
    · cases rest

end Parsed

/-! What the operations make of a document. -/
section Changes

/-- What an operation comes to see of its surroundings. -/
structure Surroundings where
  registered : Provider → Bool
  /-- `#availabilityFailure() === null`. -/
  available : Bool
  /-- The clock, if it shows a time that `#timestamp` accepts. -/
  now : Option Int
  /-- `encryptString`, if it succeeds and its result is not too long, in base 64. -/
  encryptString : JsString → Option JsString
  decryptString : JsString → Option JsString
  hasRevoker : Provider → Bool

variable (host : Host) (surroundings : Surroundings)

/-- An error of the vault, or another one. -/
inductive VaultFailure where
  | code (code : OAuthTokenVaultErrorCode)
  | other
  deriving DecidableEq

abbrev Attempt (α : Type) := Except VaultFailure α

def checked : Checked α → Attempt α
  | .ok value => .ok value
  | .error code => .error (.code code)

def requireRegistration (provider : Provider) : Checked Unit :=
  if surroundings.registered provider then .ok () else .error .providerRegistrationRequired

def requireProtection : Checked Unit :=
  if surroundings.available then .ok () else .error .windowsSafeStorageUnavailable

/-- `#timestamp`, with the time. -/
def timestamp : Attempt (Int × JsString) :=
  match surroundings.now with
  | none => .error (.code .storageFailed)
  | some now =>
    match host.toISOString now with
    | some text => .ok (now, text)
    | none => .error .other

def protect (plaintext : JsString) : Checked JsString :=
  match surroundings.encryptString plaintext with
  | some ciphertext => .ok ciphertext
  | none => .error .storageFailed

def unprotect (encoded : JsString) : Checked JsString := do
  let ciphertext ← validateCiphertext encoded
  match surroundings.decryptString ciphertext with
  | some plaintext => ofCheck (validateTokenText plaintext)
  | none => .error .storageFailed

/-- `new Date(Date.parse(timestamp) + seconds * 1_000).toISOString()`. -/
def expiry (written : JsString) (seconds : Nat) : Attempt JsString :=
  match (host.dateParse written).bind fun start => host.toISOString (start + seconds * 1000) with
  | some text => .ok text
  | none => .error .other

/-- A change of a document; none if there is nothing to write. -/
abbrev Change := OAuthTokenVaultDocument → Attempt (Option OAuthTokenVaultDocument)

def saveInitialChange (provider : Provider) (accountKey : JsString) (material : ValidMaterial JsString) : Change :=
  fun document => do
    if document.records.any (fun record => record.key = (provider, accountKey)) then
      .error (.code .recordAlreadyExists)
    else if recordLimit ≤ document.records.length then .error (.code .storageFailed)
    else
      let (_, written) ← timestamp host surroundings
      let accessTokenCiphertext ← checked (protect surroundings material.accessToken)
      let refreshTokenCiphertext ← checked (protect surroundings material.refreshToken)
      let expiresAt ← expiry host written material.expiresInSeconds
      return some ⟨document.records ++ [⟨provider, accountKey, accessTokenCiphertext, refreshTokenCiphertext, expiresAt,
        material.scopes.1, 1, written, written⟩]⟩

/-- A rotation may leave the refresh token as it is. -/
def rotatedRefreshToken (rotation : ValidMaterial (Option JsString)) (record : StoredOAuthTokenRecord) : Checked JsString :=
  match rotation.refreshToken with
  | some refreshToken => protect surroundings refreshToken
  | none => .ok record.refreshTokenCiphertext

/-- The assignments of `rotate` to the record it has found. -/
def rotateRecord (rotation : ValidMaterial (Option JsString)) (record : StoredOAuthTokenRecord) :
    Attempt StoredOAuthTokenRecord := do
  let (_, written) ← timestamp host surroundings
  let accessTokenCiphertext ← checked (protect surroundings rotation.accessToken)
  let refreshTokenCiphertext ← checked (rotatedRefreshToken surroundings rotation record)
  let expiresAt ← expiry host written rotation.expiresInSeconds
  return { record with
    accessTokenCiphertext, refreshTokenCiphertext, expiresAt
    scopes := rotation.scopes.1
    generation := record.generation + 1
    updatedAt := written }

/-- Changes the first record of an account. -/
def changeFirst (key : Key) (change : StoredOAuthTokenRecord → Attempt StoredOAuthTokenRecord) :
    List StoredOAuthTokenRecord → Attempt (List StoredOAuthTokenRecord)
  | [] => .error (.code .recordNotFound)
  | record :: records =>
    if record.key = key then do return (← change record) :: records
    else do return record :: (← changeFirst key change records)

def rotateChange (provider : Provider) (accountKey : JsString) (rotation : ValidMaterial (Option JsString)) : Change :=
  fun document => do
    let records ← changeFirst (provider, accountKey) (rotateRecord host surroundings rotation) document.records
    return some ⟨records⟩

def forgetAccountChange (provider : Provider) (accountKey : JsString) : Change := fun document =>
  let remaining := document.records.filter fun record => record.key ≠ (provider, accountKey)
  if remaining.length = document.records.length then .ok none else .ok (some ⟨remaining⟩)

/-- What `clear` and `revokeAndClear` do to the document. -/
def clearChange (provider : Provider) : Change := fun document =>
  if document.records.any (fun record => record.provider = provider) then
    .ok (some ⟨document.records.filter fun record => record.provider ≠ provider⟩)
  else .ok none

end Changes

inductive Operation where
  | status
  | saveInitial (provider : Provider) (accountKey : JsString) (material : OAuthTokenMaterial)
  | rotate (provider : Provider) (accountKey : JsString) (rotation : OAuthTokenRotation)
  | read (provider : Provider) (accountKey : JsString)
  | forgetAccount (provider : Provider) (accountKey : JsString)
  | clear (provider : Provider)
  | revokeAndClear (provider : Provider)
  deriving DecidableEq

/-- What an operation makes of a document; none if it writes nothing. -/
def Operation.change (host : Host) (surroundings : Surroundings) : Operation → Change
  | .saveInitial provider accountKey material, document => do
    let accountKey ← checked (requireAccountKey accountKey)
    checked (requireRegistration surroundings provider)
    checked (requireProtection surroundings)
    let material ← checked (ofCheck (validateMaterial material))
    saveInitialChange host surroundings provider accountKey material document
  | .rotate provider accountKey rotation, document => do
    let accountKey ← checked (requireAccountKey accountKey)
    checked (requireRegistration surroundings provider)
    checked (requireProtection surroundings)
    let rotation ← checked (ofCheck (validateRotation rotation))
    rotateChange host surroundings provider accountKey rotation document
  | .forgetAccount provider accountKey, document => do
    forgetAccountChange provider (← checked (requireAccountKey accountKey)) document
  | .clear provider, document | .revokeAndClear provider, document => clearChange provider document
  | .status, _ | .read _ _, _ => .ok none

/-- How the document after an operation may differ from the one before it, where it does. -/
inductive Follows : Operation → OAuthTokenVaultDocument → OAuthTokenVaultDocument → Prop where
  | saved {provider : Provider} {accountKey : JsString} {material : OAuthTokenMaterial} {records : List StoredOAuthTokenRecord}
      {record : StoredOAuthTokenRecord} (absent : ∀ other ∈ records, other.key ≠ (provider, accountKey))
      (key : record.key = (provider, accountKey)) (first : record.generation = 1) :
      Follows (.saveInitial provider accountKey material) ⟨records⟩ ⟨records ++ [record]⟩
  | rotated {provider : Provider} {accountKey : JsString} {rotation : OAuthTokenRotation} {front back : List StoredOAuthTokenRecord}
      {record record' : StoredOAuthTokenRecord} (key : record.key = (provider, accountKey)) (same : record'.key = record.key)
      (next : record'.generation = record.generation + 1) :
      Follows (.rotate provider accountKey rotation) ⟨front ++ record :: back⟩ ⟨front ++ record' :: back⟩
  | forgot {provider : Provider} {accountKey : JsString} {records : List StoredOAuthTokenRecord} :
      Follows (.forgetAccount provider accountKey) ⟨records⟩ ⟨records.filter fun record => record.key ≠ (provider, accountKey)⟩
  | cleared {provider : Provider} {records : List StoredOAuthTokenRecord} :
      Follows (.clear provider) ⟨records⟩ ⟨records.filter fun record => record.provider ≠ provider⟩
  | revoked {provider : Provider} {records : List StoredOAuthTokenRecord} :
      Follows (.revokeAndClear provider) ⟨records⟩ ⟨records.filter fun record => record.provider ≠ provider⟩

section Follows

variable {host : Host} {surroundings : Surroundings} {provider : Provider} {accountKey : JsString}
  {document next : OAuthTokenVaultDocument}

theorem saveInitial_follows {material : OAuthTokenMaterial} {valid : ValidMaterial JsString}
    (ok : saveInitialChange host surroundings provider accountKey valid document = .ok (some next)) :
    Follows (.saveInitial provider accountKey material) document next := by
  unfold saveInitialChange at ok
  split at ok
  · cases ok
  · rename_i absent
    split at ok
    · cases ok
    · obtain ⟨⟨now, written⟩, -, ok⟩ := Fallible.bind_eq_ok ok
      obtain ⟨accessToken, -, ok⟩ := Fallible.bind_eq_ok ok
      obtain ⟨refreshToken, -, ok⟩ := Fallible.bind_eq_ok ok
      obtain ⟨expiresAt, -, ok⟩ := Fallible.bind_eq_ok ok
      cases ok
      refine .saved (fun other member same => absent ?_) rfl rfl
      exact List.any_eq_true.2 ⟨other, member, decide_eq_true same⟩

theorem rotateRecord_eq_ok {rotation : ValidMaterial (Option JsString)} {record record' : StoredOAuthTokenRecord}
    (ok : rotateRecord host surroundings rotation record = .ok record') :
    record'.key = record.key ∧ record'.generation = record.generation + 1 := by
  obtain ⟨⟨now, written⟩, -, ok⟩ := Fallible.bind_eq_ok ok
  obtain ⟨accessToken, -, ok⟩ := Fallible.bind_eq_ok ok
  obtain ⟨refreshToken, -, ok⟩ := Fallible.bind_eq_ok ok
  obtain ⟨expiresAt, -, ok⟩ := Fallible.bind_eq_ok ok
  cases ok
  exact ⟨rfl, rfl⟩

theorem changeFirst_eq_ok {key : Key} {change : StoredOAuthTokenRecord → Attempt StoredOAuthTokenRecord}
    {records records' : List StoredOAuthTokenRecord} (ok : changeFirst key change records = .ok records') :
    ∃ front record record' back, records = front ++ record :: back ∧ records' = front ++ record' :: back ∧
      record.key = key ∧ change record = .ok record' := by
  induction records generalizing records' with
  | nil => cases ok
  | cons record records ih =>
    unfold changeFirst at ok
    split at ok
    · rename_i isKey
      obtain ⟨record', changed, ok⟩ := Fallible.bind_eq_ok ok
      cases ok
      exact ⟨[], record, record', records, rfl, rfl, isKey, changed⟩
    · obtain ⟨others, changed, ok⟩ := Fallible.bind_eq_ok ok
      cases ok
      obtain ⟨front, found, found', back, rfl, rfl, isKey, changed⟩ := ih changed
      exact ⟨record :: front, found, found', back, rfl, rfl, isKey, changed⟩

theorem rotate_follows {rotation : OAuthTokenRotation} {valid : ValidMaterial (Option JsString)}
    (ok : rotateChange host surroundings provider accountKey valid document = .ok (some next)) :
    Follows (.rotate provider accountKey rotation) document next := by
  obtain ⟨records, changed, ok⟩ := Fallible.bind_eq_ok ok
  cases ok
  obtain ⟨front, record, record', back, before, rfl, isKey, rotated⟩ := changeFirst_eq_ok changed
  obtain ⟨same, raised⟩ := rotateRecord_eq_ok rotated
  obtain ⟨records⟩ := document
  obtain rfl : records = front ++ record :: back := before
  exact .rotated isKey same raised

theorem forgetAccount_follows (ok : forgetAccountChange provider accountKey document = .ok (some next)) :
    Follows (.forgetAccount provider accountKey) document next := by
  unfold forgetAccountChange at ok
  dsimp only at ok
  split at ok <;> cases ok
  exact .forgot

theorem clearChange_eq (ok : clearChange provider document = .ok (some next)) :
    next = ⟨document.records.filter fun record => record.provider ≠ provider⟩ := by
  unfold clearChange at ok
  split at ok <;> cases ok
  rfl

theorem checked_eq_ok {check : Checked α} {value : α} (ok : checked check = .ok value) : check = .ok value := by
  cases check with
  | ok other => exact congrArg _ (Except.ok.inj ok)
  | error code => cases ok

theorem requireAccountKey_ok {key : JsString} (ok : checked (requireAccountKey accountKey) = .ok key) : key = accountKey :=
  requireAccountKey_eq (checked_eq_ok ok)

/-- A rotation that is carried out always writes. -/
theorem rotate_writes {rotation : OAuthTokenRotation} {written : Option OAuthTokenVaultDocument}
    (ok : Operation.change host surroundings (.rotate provider accountKey rotation) document = .ok written) :
    ∃ next, written = some next := by
  obtain ⟨_, -, ok⟩ := Fallible.bind_eq_ok ok
  obtain ⟨_, -, ok⟩ := Fallible.bind_eq_ok ok
  obtain ⟨_, -, ok⟩ := Fallible.bind_eq_ok ok
  obtain ⟨_, -, ok⟩ := Fallible.bind_eq_ok ok
  obtain ⟨records, -, ok⟩ := Fallible.bind_eq_ok ok
  exact ⟨_, (Except.ok.inj ok).symm⟩

theorem change_follows {operation : Operation}
    (ok : operation.change host surroundings document = .ok (some next)) : Follows operation document next := by
  cases operation with
  | status => cases ok
  | read provider accountKey => cases ok
  | saveInitial provider accountKey material =>
    obtain ⟨key, isKey, ok⟩ := Fallible.bind_eq_ok ok
    obtain ⟨_, -, ok⟩ := Fallible.bind_eq_ok ok
    obtain ⟨_, -, ok⟩ := Fallible.bind_eq_ok ok
    obtain ⟨valid, -, ok⟩ := Fallible.bind_eq_ok ok
    rw [requireAccountKey_ok isKey] at ok
    exact saveInitial_follows ok
  | rotate provider accountKey rotation =>
    obtain ⟨key, isKey, ok⟩ := Fallible.bind_eq_ok ok
    obtain ⟨_, -, ok⟩ := Fallible.bind_eq_ok ok
    obtain ⟨_, -, ok⟩ := Fallible.bind_eq_ok ok
    obtain ⟨valid, -, ok⟩ := Fallible.bind_eq_ok ok
    rw [requireAccountKey_ok isKey] at ok
    exact rotate_follows ok
  | forgetAccount provider accountKey =>
    obtain ⟨key, isKey, ok⟩ := Fallible.bind_eq_ok ok
    rw [requireAccountKey_ok isKey] at ok
    exact forgetAccount_follows ok
  | clear provider =>
    obtain rfl := clearChange_eq ok
    exact .cleared
  | revokeAndClear provider =>
    obtain rfl := clearChange_eq ok
    exact .revoked

end Follows

end OAuth.Vault
