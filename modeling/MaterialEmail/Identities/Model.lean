import MaterialEmail.Library.ContentLine
import Mathlib.Data.List.Sort

/-! The identities that mail is sent from: one flat list for all accounts, in which every account has a
default. -/
namespace Identities

open JsString

def limitPerAccount : Nat := 20
def nameLimit : Nat := 120
def signatureLimit : Nat := 8192
def organizationLimit : Nat := 200
def addressLimit : Nat := 320
def ordinalLimit : Int := 1000000

/-- What the host knows of the letters. -/
structure Host where
  /-- `normalize("NFKC")`. -/
  normalize : JsString → JsString
  localeCompare : JsString → JsString → Ordering

def Host.plain : Host := ⟨id, fun left right => compareOfLessAndEq left right⟩

section Identifiers

/-- `identifierSchema`. -/
def identifierSchema (text : JsString) : Option JsString :=
  if text.trim ≠ [] ∧ text.trim.length ≤ 512 ∧ text.trim.all (!isControl ·) = true then some text.trim else none

/-- A text that is as `identifierSchema` leaves it. -/
abbrev Identifier := { text : JsString // identifierSchema text = some text }

theorem identifierSchema_work : identifierSchema (ofString "work") = some (ofString "work") := by decide

theorem identifierSchema_one : identifierSchema (ofString "1") = some (ofString "1") := by decide

theorem identifierSchema_idem {text parsed : JsString} (ok : identifierSchema text = some parsed) :
    identifierSchema parsed = some parsed := by
  unfold identifierSchema at ok
  split at ok
  · cases ok
    simp_all [identifierSchema, trim_trim]
  · cases ok

def Identifier.parse (text : JsString) : Option Identifier :=
  match parsed : identifierSchema text with
  | some valid => some ⟨valid, identifierSchema_idem parsed⟩
  | none => none

end Identifiers

inductive SignaturePlacement where
  | belowBody
  | belowQuote
  deriving DecidableEq

structure MailIdentity where
  id : Identifier
  accountId : Identifier
  displayName : JsString
  email : JsString
  replyTo : JsString
  organization : JsString
  signature : JsString
  signaturePlacement : SignaturePlacement
  isDefault : Bool
  ordinal : Int
  deriving DecidableEq

structure MailIdentityInput where
  id : Option JsString
  accountId : JsString
  displayName : JsString
  email : JsString
  replyTo : Option JsString
  organization : Option JsString
  signature : Option JsString
  signaturePlacement : Option SignaturePlacement
  isDefault : Option Bool

/-- What `mailIdentityInputSchema` leaves of an input. -/
structure CheckedInput extends MailIdentityInput where
  knownId : Option Identifier
  owner : Identifier

inductive MailIdentityError where
  | nameRequired
  | emailInvalid
  | replyToInvalid
  | limitReached
  | notFound
  | lastDefault
  /-- What the boundary refuses, or an account that is not there. -/
  | refused (text : JsString)
  deriving DecidableEq

section Texts

variable (host : Host)

/-- `/[\x00-\x08\x0b-\x1f\x7f]/`: the controls but the tab and the line feed. -/
def isIdentityControl (unit : UInt16) : Bool := unit ≤ 8 || (11 ≤ unit && unit ≤ 31) || unit = 127

def normalizeIdentityText (value : JsString) (limit : Nat) : JsString :=
  trim (((ContentLine.unifyNewlines (host.normalize value)).filter (!isIdentityControl ·)).take limit)

/-- `replace(/\s*\n\s*/g, " ")`; the white space since the last other unit is held back. -/
def foldBreaks (pending : JsString) : JsString → JsString
  | [] => if 10 ∈ pending then [32] else pending
  | unit :: rest =>
    if isWhiteSpace unit then foldBreaks (pending ++ [unit]) rest
    else (if 10 ∈ pending then [32] else pending) ++ unit :: foldBreaks [] rest

def normalizeIdentityLine (value : JsString) (limit : Nat) : JsString :=
  trim ((foldBreaks [] (normalizeIdentityText host value limit)).take limit)

/-- `/[^\s@<>,;]/`. -/
def isAddressUnit (unit : UInt16) : Bool := !isWhiteSpace unit && unit ∉ ofString "@<>,;"

/-- `/^[^\s@<>,;]+@[^\s@<>,;.]+(?:\.[^\s@<>,;.]+)+$/`. -/
def isAddress (candidate : JsString) : Bool :=
  match candidate.splitOn 64 with
  | [localPart, domain] =>
    let labels := domain.splitOn 46
    localPart ≠ [] && localPart.all isAddressUnit && 2 ≤ labels.length && labels.all fun label =>
      label ≠ [] && label.all isAddressUnit
  | _ => false

def isMailAddress (value : JsString) : Bool :=
  value.trim ≠ [] && value.trim.length ≤ addressLimit && isAddress value.trim

end Texts

section Boundary

/-- `/[\r\n\u0000]/`. -/
def hasHeaderBreak (text : JsString) : Bool := text.any fun unit => unit = 13 || unit = 10 || unit = 0

def identityLineSchema (limit : Nat) (text : JsString) : Bool := text.length ≤ limit && !hasHeaderBreak text

def identityAddressSchema (text : JsString) : Bool :=
  text ≠ [] && text.length ≤ addressLimit && !hasHeaderBreak text

/-- The texts of an input, but its identifiers. -/
def textsFit (input : MailIdentityInput) : Bool :=
  identityLineSchema nameLimit input.displayName && input.displayName ≠ [] && identityAddressSchema input.email &&
    input.replyTo.all (fun replyTo => identityAddressSchema replyTo || replyTo = []) &&
    input.organization.all (identityLineSchema organizationLimit) &&
    input.signature.all (·.length ≤ signatureLimit)

def mailIdentityInputSchema (input : MailIdentityInput) : Option CheckedInput := do
  let owner ← Identifier.parse input.accountId
  let knownId ← match input.id with
    | none => some none
    | some id => (Identifier.parse id).map some
  if textsFit input then return ⟨input, knownId, owner⟩ else none

end Boundary

section Identities

variable (host : Host)

def sortIdentities (identities : List MailIdentity) : List MailIdentity :=
  identities.insertionSort fun left right =>
    ((((compare right.isDefault.toNat left.isDefault.toNat).then (compare left.ordinal right.ordinal)).then
      (host.localeCompare left.displayName right.displayName)).then (host.localeCompare left.id right.id)) ≠ .gt

/-- The identities of an account. -/
def belonging (accountId : Identifier) (identities : List MailIdentity) : List MailIdentity :=
  identities.filter (·.accountId = accountId)

def identitiesForAccount (identities : List MailIdentity) (accountId : Identifier) : List MailIdentity :=
  sortIdentities host (belonging accountId identities)

def validateIdentityInput (input : MailIdentityInput) : Except MailIdentityError Unit :=
  if normalizeIdentityLine host input.displayName nameLimit = [] then .error .nameRequired
  else if !isMailAddress input.email then .error .emailInvalid
  else
    let replyTo := (input.replyTo.getD []).trim
    if replyTo ≠ [] ∧ isMailAddress replyTo = false then .error .replyToInvalid else .ok ()

def highestOrdinal (identities : List MailIdentity) : Int :=
  identities.foldl (fun highest item => max highest item.ordinal) (-1)

def makeDefault (id : Identifier) (identities : List MailIdentity) : List MailIdentity :=
  identities.map fun item => if item.id = id then { item with isDefault := true } else item

/-- The identity that takes the place of the current one, or is new. -/
def newIdentity (input : CheckedInput) (forAccount : List MailIdentity) (current : Option MailIdentity)
    (newId : Identifier) : MailIdentity where
  id := (current.map (·.id)).getD newId
  accountId := input.owner
  displayName := normalizeIdentityLine host input.displayName nameLimit
  email := input.email.trim
  replyTo := (input.replyTo.getD []).trim
  organization := normalizeIdentityLine host (input.organization.getD []) organizationLimit
  signature := normalizeIdentityText host (input.signature.getD []) signatureLimit
  signaturePlacement := (input.signaturePlacement.or (current.map (·.signaturePlacement))).getD .belowBody
  isDefault := if forAccount.length = 0 then true
    else (input.isDefault.or (current.map (·.isDefault))).getD (forAccount.length = 0)
  ordinal := (current.map (·.ordinal)).getD (highestOrdinal forAccount + 1)

def demoted (accountId : Identifier) (item : MailIdentity) : MailIdentity :=
  if item.accountId = accountId then { item with isDefault := false } else item

/-- Makes an identity of the account its default, where none is. -/
def settleDefault (accountId : Identifier) (next : List MailIdentity) : List MailIdentity :=
  if (belonging accountId next).any (·.isDefault) then next
  else
    match (sortIdentities host (belonging accountId next)).head? with
    | some first => makeDefault first.id next
    | none => next

/-- The list with an identity in place of the one with its id. -/
def place (existing : List MailIdentity) (identity : MailIdentity) : List MailIdentity :=
  let others := existing.filter (·.id ≠ identity.id)
  let normalized := if identity.isDefault then others.map (demoted identity.accountId) else others
  settleDefault host identity.accountId (normalized ++ [identity])

def buildIdentity (existing : List MailIdentity) (input : CheckedInput) (newId : Identifier) :
    Except MailIdentityError (List MailIdentity) := do
  validateIdentityInput host input.toMailIdentityInput
  let forAccount := identitiesForAccount host existing input.owner
  let current := input.knownId.bind fun id => existing.find? (·.id = id)
  if input.knownId.isSome ∧ current.isNone then .error .notFound
  else if current.isNone ∧ limitPerAccount ≤ forAccount.length then .error .limitReached
  else return place host existing (newIdentity host input forAccount current newId)

def removeIdentity (existing : List MailIdentity) (id : JsString) : Except MailIdentityError (List MailIdentity) :=
  match existing.find? (·.id.val = id) with
  | none => .error .notFound
  | some identity =>
    let remaining := existing.filter (·.id.val ≠ id)
    let siblings := belonging identity.accountId remaining
    if identity.isDefault ∧ siblings.length = 0 then .error .lastDefault
    else if !identity.isDefault || siblings.length = 0 then .ok remaining
    else
      match (sortIdentities host siblings).head? with
      | some promoted => .ok (makeDefault promoted.id remaining)
      | none => .ok remaining

end Identities

section Store

structure StoredAccount where
  id : Identifier
  displayName : JsString
  email : JsString
  deriving DecidableEq

/-- The accounts and the identities that are stored; beside them stand the accounts that were given an
identity and not removed since. -/
structure State where
  accounts : List StoredAccount
  identities : List MailIdentity
  seeded : List Identifier

variable (host : Host)

def promoteIdentityToDefault (identities : List MailIdentity) (id : JsString) :
    Except MailIdentityError (List MailIdentity) :=
  match identities.find? (·.id.val = id) with
  | none => .error .notFound
  | some identity => .ok (identities.map fun candidate =>
      if candidate.accountId = identity.accountId then { candidate with isDefault := candidate.id.val = id } else candidate)

/-- The identity that an account begins with. -/
def seedInput (account : StoredAccount) : CheckedInput where
  id := none
  accountId := account.id
  displayName :=
    if normalizeIdentityLine host account.displayName nameLimit = [] then account.email
    else normalizeIdentityLine host account.displayName nameLimit
  email := account.email
  replyTo := none
  organization := none
  signature := none
  signaturePlacement := none
  isDefault := some true
  knownId := none
  owner := account.id

def seedAccountIdentity (identities : List MailIdentity) (account : StoredAccount) (newId : Identifier) :
    Except MailIdentityError (List MailIdentity) :=
  if belonging account.id identities ≠ [] then .ok identities
  else buildIdentity host identities (seedInput host account) newId

def forgetAccountIdentities (identities : List MailIdentity) (accountId : Identifier) : List MailIdentity :=
  identities.filter (·.accountId ≠ accountId)

end Store

section Schema

def identitySchema (identity : MailIdentity) : Bool :=
  identity.displayName ≠ [] && identity.displayName.length ≤ nameLimit &&
    identity.email ≠ [] && identity.email.length ≤ addressLimit && identity.replyTo.length ≤ addressLimit &&
    identity.organization.length ≤ organizationLimit && identity.signature.length ≤ signatureLimit &&
    0 ≤ identity.ordinal && identity.ordinal ≤ ordinalLimit

/-- Leaves the first default of each account; the accounts that have one are collected. -/
def demote (claimed : List Identifier) : List MailIdentity → List MailIdentity × List Identifier
  | [] => ([], claimed)
  | identity :: identities =>
    if !identity.isDefault then ((identity :: (demote claimed identities).1), (demote claimed identities).2)
    else if identity.accountId ∈ claimed then
      (({ identity with isDefault := false } :: (demote claimed identities).1), (demote claimed identities).2)
    else
      ((identity :: (demote (identity.accountId :: claimed) identities).1),
        (demote (identity.accountId :: claimed) identities).2)

/-- Makes the first identity of an account that has no default one. -/
def promote (claimed promoted : List Identifier) : List MailIdentity → List MailIdentity
  | [] => []
  | identity :: identities =>
    if identity.accountId ∈ claimed ∨ identity.accountId ∈ promoted then identity :: promote claimed promoted identities
    else { identity with isDefault := true } :: promote claimed (identity.accountId :: promoted) identities

/-- The list that a stored one is read as. -/
def identityListSchema (identities : List MailIdentity) : Option (List MailIdentity) :=
  if identities.all identitySchema = true ∧ identities.length ≤ limitPerAccount * 100 then
    let (demoted, claimed) := demote [] identities
    some (promote claimed [] demoted)
  else none

end Schema

section Operations

variable (host : Host)

/-- Identifiers that are drawn stand with the operations that draw them. -/
inductive Operation where
  /-- An account is added, with its first identity. -/
  | addAccount (account : StoredAccount) (newId : Identifier)
  /-- An account that is there is given its first identity. -/
  | seed (accountId : Identifier) (newId : Identifier)
  | save (input : MailIdentityInput) (newId : Identifier)
  | delete (id : JsString)
  | setDefault (id : JsString)
  | removeAccount (accountId : Identifier)
  /-- The list is stored and read again. -/
  | reload

def noAccount : MailIdentityError := .refused (ofString "The selected account no longer exists.")

def accountOf (state : State) (accountId : Identifier) : Option StoredAccount := state.accounts.find? (·.id = accountId)

def saveIdentity (state : State) (input : MailIdentityInput) (newId : Identifier) :
    Except MailIdentityError (List MailIdentity) :=
  match mailIdentityInputSchema input with
  | none => .error (.refused (ofString "Invalid input"))
  | some parsed =>
    match accountOf state parsed.owner with
    | none => .error noAccount
    | some _ => buildIdentity host state.identities parsed newId

def perform (state : State) : Operation → Except MailIdentityError State
  | .addAccount account newId => do
    let accounts := if (accountOf state account.id).isSome then state.accounts else state.accounts ++ [account]
    let identities ← seedAccountIdentity host state.identities account newId
    return ⟨accounts, identities, account.id :: state.seeded⟩
  | .seed accountId newId =>
    match accountOf state accountId with
    | none => .error noAccount
    | some account => do
      let identities ← seedAccountIdentity host state.identities account newId
      return { state with identities := identities, seeded := account.id :: state.seeded }
  | .save input newId => do
    let identities ← saveIdentity host state input newId
    return { state with identities := identities }
  | .delete id => do
    let identities ← removeIdentity host state.identities id
    return { state with identities := identities }
  | .setDefault id => do
    let identities ← promoteIdentityToDefault state.identities id
    return { state with identities := identities }
  | .removeAccount accountId =>
    if (accountOf state accountId).isNone then .ok state
    else .ok ⟨state.accounts.filter (·.id ≠ accountId), forgetAccountIdentities state.identities accountId,
      state.seeded.filter (· ≠ accountId)⟩
  | .reload =>
    match identityListSchema state.identities with
    | none => .error (.refused (ofString "The identities are not stored."))
    | some identities => .ok { state with identities := identities }

/-- A call that is refused changes nothing. -/
def step (state : State) (operation : Operation) : State := (perform host state operation).toOption.getD state

/-- The accounts of a store of before there were identities. -/
def start (accounts : List StoredAccount) : State := ⟨accounts, [], []⟩

end Operations

end Identities
