import MaterialEmail.Library.JsString

/-! The token vault: what it accepts as token material, and its records. Texts are encrypted one by
one at the boundary of the operating system; here they stand as they are. -/
namespace OAuth

def recordLimit : Nat := 64
def tokenLimit : Nat := 8192
def scopeLimit : Nat := 50
def scopeTextLimit : Nat := 256
def tokenLifetimeMaxSeconds : Nat := 24 * 60 * 60

/-- `OAuthTokenVaultErrorCode`, those of reading and storing. -/
inductive VaultError where
  | invalidInput
  | recordAlreadyExists
  | recordNotFound
  | storageFailed
  deriving DecidableEq, Repr

def hasControlCharacters (value : JsString) : Bool := value.any JsString.isControl

def isPlainBoundedText (value : JsString) (maximum : Nat) : Bool :=
  0 < value.length && value.length ≤ maximum && !hasControlCharacters value

/-- What `validateScopes` asks of a list of scopes. -/
def ScopesValid (value : List JsString) : Prop :=
  1 ≤ value.length ∧ value.length ≤ scopeLimit ∧
    (∀ scope ∈ value, isPlainBoundedText scope scopeTextLimit ∧ scope.any JsString.isWhiteSpace = false) ∧
    value.Nodup

instance (value : List JsString) : Decidable (ScopesValid value) :=
  inferInstanceAs (Decidable (_ ∧ _ ∧ _ ∧ _))

abbrev Scopes := { value : List JsString // ScopesValid value }

def validateScopes (value : List JsString) : Except VaultError Scopes :=
  if valid : ScopesValid value then .ok ⟨value, valid⟩ else .error .invalidInput

def validateTokenLifetime (value : JsNumber) : Except VaultError Nat :=
  match value.toInt? with
  | some seconds =>
    if seconds < 1 ∨ (tokenLifetimeMaxSeconds : Int) < seconds then .error .invalidInput
    else .ok seconds.toNat
  | none => .error .invalidInput

def validateTokenText (value : JsString) : Except VaultError JsString :=
  if isPlainBoundedText value tokenLimit then .ok value else .error .invalidInput

/-- Token material, with what stands for its refresh token. -/
structure TokenMaterial (R : Type) where
  accessToken : JsString
  refreshToken : R
  expiresInSeconds : JsNumber
  scopes : List JsString
  deriving DecidableEq

abbrev OAuthTokenMaterial := TokenMaterial JsString

/-- The refresh token may be left out. -/
abbrev OAuthTokenRotation := TokenMaterial (Option JsString)

/-- What the vault stores of valid material. -/
structure ValidMaterial (R : Type) where
  accessToken : JsString
  refreshToken : R
  expiresInSeconds : Nat
  scopes : Scopes
  deriving DecidableEq

/-- `#validateMaterial`. -/
def validateMaterial (value : OAuthTokenMaterial) : Except VaultError (ValidMaterial JsString) := do
  let accessToken ← validateTokenText value.accessToken
  let refreshToken ← validateTokenText value.refreshToken
  let expiresInSeconds ← validateTokenLifetime value.expiresInSeconds
  let scopes ← validateScopes value.scopes
  return ⟨accessToken, refreshToken, expiresInSeconds, scopes⟩

/-- The checks of `rotate`. -/
def validateRotation (value : OAuthTokenRotation) :
    Except VaultError (ValidMaterial (Option JsString)) := do
  let accessToken ← validateTokenText value.accessToken
  let refreshToken ← value.refreshToken.mapM validateTokenText
  let expiresInSeconds ← validateTokenLifetime value.expiresInSeconds
  let scopes ← validateScopes value.scopes
  return ⟨accessToken, refreshToken, expiresInSeconds, scopes⟩

inductive Provider where
  | google
  | microsoft
  deriving DecidableEq, Repr

/-- `StoredOAuthTokenRecord`, opened. Its scopes have passed `parseRecord`. -/
structure TokenRecord where
  provider : Provider
  accountKey : String
  accessToken : JsString
  refreshToken : JsString
  expiresAt : Nat
  scopes : Scopes
  generation : Nat
  deriving DecidableEq

theorem validateScopes_isOk (value : List JsString) : (validateScopes value).isOk ↔ ScopesValid value := by
  unfold validateScopes
  split
  · rename_i valid
    simp [Except.isOk, Except.toBool, valid]
  · rename_i invalid
    simp [Except.isOk, Except.toBool, invalid]

theorem validateTokenText_isOk (value : JsString) :
    (validateTokenText value).isOk ↔ isPlainBoundedText value tokenLimit := by
  unfold validateTokenText
  split
  · rename_i bounded
    simp [Except.isOk, Except.toBool, bounded]
  · rename_i unbounded
    simp [Except.isOk, Except.toBool, unbounded]

/-- A lifetime fits if it is a whole number of seconds, from one to a day. -/
theorem validateTokenLifetime_isOk (value : Rat) :
    (validateTokenLifetime (.finite value)).isOk ↔
      value.den = 1 ∧ 1 ≤ value ∧ value ≤ tokenLifetimeMaxSeconds := by
  unfold validateTokenLifetime JsNumber.toInt?
  by_cases whole : value.den = 1
  · have same : value = (value.num : Rat) := by
      rw [← Rat.num_div_den value]
      simp [whole]
    have lower : (1 : Rat) ≤ value ↔ 1 ≤ value.num := by
      conv_lhs => rw [same]
      exact_mod_cast Iff.rfl
    have upper : value ≤ (tokenLifetimeMaxSeconds : Rat) ↔ value.num ≤ (tokenLifetimeMaxSeconds : Int) := by
      conv_lhs => rw [same]
      exact_mod_cast Iff.rfl
    simp only [whole, ↓reduceIte, true_and, lower, upper]
    split
    · rename_i outside
      simp only [Except.isOk, Except.toBool, Bool.false_eq_true, false_iff]
      omega
    · rename_i inside
      simp only [Except.isOk, Except.toBool, true_iff]
      omega
  · simp [whole, Except.isOk, Except.toBool]

theorem isOk_bind {first : Except ε α} {next : α → Except ε β} {P : Prop}
    (rest : ∀ value, first = .ok value → ((next value).isOk ↔ P)) : (first >>= next).isOk ↔ first.isOk ∧ P := by
  cases first with
  | error reason => simp [bind, Except.bind, Except.isOk, Except.toBool]
  | ok value =>
    have := rest value rfl
    simpa [bind, Except.bind, Except.isOk, Except.toBool] using this

theorem validateMaterial_isOk (value : OAuthTokenMaterial) :
    (validateMaterial value).isOk ↔ (validateTokenText value.accessToken).isOk ∧
      (validateTokenText value.refreshToken).isOk ∧ (validateTokenLifetime value.expiresInSeconds).isOk ∧
      (validateScopes value.scopes).isOk := by
  unfold validateMaterial
  refine isOk_bind fun _ _ => isOk_bind fun _ _ => isOk_bind fun _ _ => ?_
  cases validateScopes value.scopes <;> simp [bind, Except.bind, pure, Except.pure, Except.isOk, Except.toBool]

theorem validateRotation_isOk (value : OAuthTokenRotation) :
    (validateRotation value).isOk ↔ (validateTokenText value.accessToken).isOk ∧
      (∀ token ∈ value.refreshToken, (validateTokenText token).isOk) ∧
      (validateTokenLifetime value.expiresInSeconds).isOk ∧ (validateScopes value.scopes).isOk := by
  have optional : (value.refreshToken.mapM validateTokenText).isOk ↔
      ∀ token ∈ value.refreshToken, (validateTokenText token).isOk := by
    cases value.refreshToken with
    | none => simp [pure, Except.pure, Except.isOk, Except.toBool]
    | some token =>
      cases checked : validateTokenText token <;>
        simp [checked, Functor.map, Except.map, Except.isOk, Except.toBool]
  rw [← optional]
  unfold validateRotation
  refine isOk_bind fun _ _ => isOk_bind fun _ _ => isOk_bind fun _ _ => ?_
  cases validateScopes value.scopes <;> simp [bind, Except.bind, pure, Except.pure, Except.isOk, Except.toBool]

end OAuth
