import Mathlib.Tactic.NormNum
import MaterialEmail.OAuth.TokenVault

/-! The token endpoint's answers: what of them counts as a success, and whether the vault then
accepts what they say. A success consumes the refresh token or the code that was sent. -/
namespace OAuth

/-- A field of a JSON object, as far as the checks look at it. -/
inductive JsonValue where
  | string (text : JsString)
  | number (value : JsNumber)
  | other
  deriving DecidableEq

/-- `RawTokenResponse`, without the hint in its ID token. -/
structure RawTokenResponse where
  accessToken : Option JsonValue
  refreshToken : Option JsonValue
  expiresIn : Option JsonValue
  scope : Option JsonValue
  error : Option JsonValue
  errorDescription : Option JsonValue
  deriving DecidableEq

inductive ExchangeErrorCode where
  | network
  | httpError
  | invalidResponse
  | responseTooLarge
  deriving DecidableEq, Repr

/-- A template literal: its own text and the strings put into it. -/
abbrev Template := List (String ⊕ JsString)

structure ExchangeError where
  code : ExchangeErrorCode
  message : Template
  deriving DecidableEq

/-- What `postForm` comes to see of a request to an HTTPS endpoint. -/
inductive Answer where
  | unreachable (timedOut : Bool)
  | tooLarge
  | notJson
  | notAnObject
  | object (ok : Bool) (status : Nat) (raw : RawTokenResponse)
  deriving DecidableEq

structure ExchangeResult where
  accessToken : JsString
  refreshToken : Option JsString
  expiresInSeconds : JsNumber
  scopes : List JsString
  deriving DecidableEq

def string? : Option JsonValue → Option JsString
  | some (.string text) => some text
  | _ => none

def providerErrorMessage (raw : RawTokenResponse) : Template :=
  let reason : String ⊕ JsString :=
    match string? raw.error with
    | some text => .inr (text.take 120)
    | none => .inl "unknown_error"
  let description := match string? raw.errorDescription with
    | some text => text.take 200
    | none => []
  if description ≠ [] then [reason, .inl ": ", .inr description] else [reason]

def noAccessToken : ExchangeError :=
  ⟨.invalidResponse, [.inl "The token endpoint response had no access token."]⟩

def noLifetime : ExchangeError :=
  ⟨.invalidResponse, [.inl "The token endpoint response had no valid lifetime."]⟩

def toResult (raw : RawTokenResponse) : Except ExchangeError ExchangeResult :=
  if (string? raw.error).isSome then
    .error ⟨.httpError, [.inl "The provider refused the request ("] ++ providerErrorMessage raw ++ [.inl ")."]⟩
  else
    match string? raw.accessToken with
    | none => .error noAccessToken
    | some accessToken =>
      if accessToken = [] then .error noAccessToken
      else
        match raw.expiresIn with
        | some (.number (.finite seconds)) =>
          if seconds ≤ 0 then .error noLifetime
          else
            .ok {
              accessToken := accessToken
              refreshToken := (string? raw.refreshToken).filter (· ≠ [])
              expiresInSeconds := JsNumber.min (.finite seconds) (24 * 60 * 60)
              scopes := ((string? raw.scope).map JsString.words).getD [] }
        | _ => .error noLifetime

def postForm : Answer → Except ExchangeError RawTokenResponse
  | .unreachable timedOut =>
    .error ⟨.network, [.inl (if timedOut then "The token endpoint did not respond in time."
      else "The token endpoint could not be reached.")]⟩
  | .tooLarge => .error ⟨.responseTooLarge, [.inl "The token endpoint response exceeded the bounded size."]⟩
  | .notJson => .error ⟨.invalidResponse, [.inl "The token endpoint did not return valid JSON."]⟩
  | .notAnObject => .error ⟨.invalidResponse, [.inl "The token endpoint response was not a JSON object."]⟩
  | .object ok status raw =>
    if !ok && (string? raw.error).isNone then
      .error ⟨.httpError, [.inl ("The token endpoint returned status " ++ toString status ++ ".")]⟩
    else .ok raw

def refreshAccessToken (answer : Answer) : Except ExchangeError ExchangeResult :=
  postForm answer >>= toResult

def exchangeAuthorizationCode (answer : Answer) : Except ExchangeError ExchangeResult := do
  let result ← refreshAccessToken answer
  if result.refreshToken.isNone then
    .error ⟨.invalidResponse, [.inl "The provider did not return a refresh token."]⟩
  else return result

/-- What `#runtimeOAuthAccount` hands to `rotate`. -/
def rotation (record : TokenRecord) (rotated : ExchangeResult) : OAuthTokenRotation :=
  ⟨rotated.accessToken, rotated.refreshToken, rotated.expiresInSeconds,
    if rotated.scopes ≠ [] then rotated.scopes else record.scopes.1⟩

/-- What `#addOAuthAccount` hands to `saveInitial`, by way of the pending sign-in. -/
def initialMaterial (result : ExchangeResult) : OAuthTokenMaterial :=
  ⟨result.accessToken, result.refreshToken.getD [], result.expiresInSeconds, result.scopes⟩

def lifetimeLimit : Rat := (tokenLifetimeMaxSeconds : Nat)

def RawTokenResponse.scopes (raw : RawTokenResponse) : List JsString :=
  ((string? raw.scope).map JsString.words).getD []

/-- Texts within the limit of the vault, without control characters. -/
def Bounded (value : JsString) (maximum : Nat) : Prop :=
  value.length ≤ maximum ∧ hasControlCharacters value = false

/-- What a response must be like for the vault to accept it: bounded texts, a lifetime in whole
seconds unless it is cut to a day, scopes that are few and distinct. -/
structure Storable (raw : RawTokenResponse) : Prop where
  accessToken : ∀ token, string? raw.accessToken = some token → Bounded token tokenLimit
  refreshToken : ∀ token, string? raw.refreshToken = some token → Bounded token tokenLimit
  lifetime : ∀ seconds, raw.expiresIn = some (.number (.finite seconds)) →
    seconds.den = 1 ∨ lifetimeLimit ≤ seconds
  few : raw.scopes.length ≤ scopeLimit
  distinct : raw.scopes.Nodup
  plain : ∀ scope ∈ raw.scopes, Bounded scope scopeTextLimit

theorem bounded_iff {value : JsString} (maximum : Nat) (nonempty : value ≠ []) :
    isPlainBoundedText value maximum ↔ Bounded value maximum := by
  have positive : 0 < value.length := List.length_pos_iff.2 nonempty
  simp [isPlainBoundedText, Bounded, positive]

/-- What a success says of the response. -/
structure Succeeds (raw : RawTokenResponse) (result : ExchangeResult) (seconds : Rat) : Prop where
  accessToken : string? raw.accessToken = some result.accessToken
  nonempty : result.accessToken ≠ []
  refreshToken : result.refreshToken = (string? raw.refreshToken).filter (· ≠ [])
  expiresIn : raw.expiresIn = some (.number (.finite seconds))
  positive : 0 < seconds
  lifetime : result.expiresInSeconds = .finite (if seconds ≤ lifetimeLimit then seconds else lifetimeLimit)
  scopes : result.scopes = raw.scopes

theorem toResult_eq_ok {raw : RawTokenResponse} {result : ExchangeResult} (ok : toResult raw = .ok result) :
    ∃ seconds, Succeeds raw result seconds := by
  unfold toResult at ok
  split at ok
  · cases ok
  split at ok
  · cases ok
  rename_i accessToken isToken
  split at ok
  · cases ok
  rename_i nonempty
  split at ok
  · rename_i seconds isLifetime
    split at ok
    · cases ok
    · rename_i positive
      cases ok
      exact ⟨seconds, isToken, nonempty, rfl, isLifetime, not_le.1 positive, rfl, rfl⟩
  · cases ok

section Fits

variable {raw : RawTokenResponse} {result : ExchangeResult} {seconds : Rat}

theorem Succeeds.lifetime_fits (succeeds : Succeeds raw result seconds)
    (atLeast : seconds.den = 1 → 1 ≤ seconds) :
    (validateTokenLifetime result.expiresInSeconds).isOk ↔ seconds.den = 1 ∨ lifetimeLimit ≤ seconds := by
  have aDay : (1 : Rat) ≤ lifetimeLimit := by norm_num [lifetimeLimit, tokenLifetimeMaxSeconds]
  have fits : lifetimeLimit.den = 1 ∧ 1 ≤ lifetimeLimit ∧ lifetimeLimit ≤ lifetimeLimit :=
    ⟨Rat.den_natCast _, aDay, le_refl _⟩
  rw [succeeds.lifetime, validateTokenLifetime_isOk]
  show _ ∧ _ ∧ _ ≤ lifetimeLimit ↔ _
  split
  · rename_i short
    constructor
    · exact fun fits => Or.inl fits.1
    · rintro (whole | long)
      · exact ⟨whole, atLeast whole, short⟩
      · have same : seconds = lifetimeLimit := le_antisymm short long
        rw [same]
        exact fits
  · rename_i long
    simp only [(not_le.1 long).le, or_true, iff_true]
    exact fits

/-- A whole number of seconds that is positive is at least one. -/
theorem one_le_of_whole (whole : seconds.den = 1) (positive : 0 < seconds) : 1 ≤ seconds := by
  have same : seconds = (seconds.num : Rat) := by
    rw [← Rat.num_div_den seconds]
    simp [whole]
  have num : 0 < seconds.num := Rat.num_pos.2 positive
  rw [same]
  exact_mod_cast num

theorem Succeeds.access_fits (succeeds : Succeeds raw result seconds) :
    (validateTokenText result.accessToken).isOk ↔
      ∀ token, string? raw.accessToken = some token → Bounded token tokenLimit := by
  rw [validateTokenText_isOk, bounded_iff _ succeeds.nonempty, succeeds.accessToken]
  simp

theorem Succeeds.refresh_fits (succeeds : Succeeds raw result seconds) :
    (∀ token ∈ result.refreshToken, (validateTokenText token).isOk) ↔
      ∀ token, string? raw.refreshToken = some token → Bounded token tokenLimit := by
  rw [succeeds.refreshToken]
  constructor
  · intro fits token isToken
    by_cases empty : token = []
    · subst empty
      exact ⟨Nat.zero_le _, rfl⟩
    · have kept : token ∈ (string? raw.refreshToken).filter (· ≠ []) := by
        simp [isToken, Option.filter, empty]
      exact (bounded_iff _ empty).1 ((validateTokenText_isOk token).1 (fits token kept))
  · intro bounded token kept
    obtain ⟨isToken, nonempty⟩ := Option.mem_filter_iff.1 kept
    rw [validateTokenText_isOk, bounded_iff _ (by simpa using nonempty)]
    exact bounded token isToken

theorem scopes_clean (raw : RawTokenResponse) {scope : JsString} (member : scope ∈ raw.scopes) :
    scope ≠ [] ∧ ∀ unit ∈ scope, JsString.isWhiteSpace unit = false := by
  unfold RawTokenResponse.scopes at member
  cases text : string? raw.scope with
  | none => simp [text] at member
  | some text' =>
    rw [text] at member
    exact JsString.words_clean member

theorem scopes_fit (raw : RawTokenResponse) :
    (validateScopes raw.scopes).isOk ↔ raw.scopes ≠ [] ∧ raw.scopes.length ≤ scopeLimit ∧ raw.scopes.Nodup ∧
      ∀ scope ∈ raw.scopes, Bounded scope scopeTextLimit := by
  rw [validateScopes_isOk]
  unfold ScopesValid
  rw [Nat.succ_le_iff, List.length_pos_iff]
  have plain : ∀ scope ∈ raw.scopes, (isPlainBoundedText scope scopeTextLimit = true ∧
      scope.any JsString.isWhiteSpace = false ↔ Bounded scope scopeTextLimit) := by
    intro scope member
    obtain ⟨nonempty, spaceless⟩ := scopes_clean raw member
    rw [bounded_iff _ nonempty]
    simpa using fun _ => spaceless
  constructor
  · rintro ⟨some, few, fits, distinct⟩
    exact ⟨some, few, distinct, fun scope member => (plain scope member).1 (fits scope member)⟩
  · rintro ⟨some, few, distinct, fits⟩
    exact ⟨some, few, fun scope member => (plain scope member).2 (fits scope member), distinct⟩

theorem Succeeds.rotation_fits (succeeds : Succeeds raw result seconds) (record : TokenRecord) :
    (validateRotation (rotation record result)).isOk ↔ Storable raw := by
  have scopes : (validateScopes (rotation record result).scopes).isOk ↔
      raw.scopes.length ≤ scopeLimit ∧ raw.scopes.Nodup ∧ ∀ scope ∈ raw.scopes, Bounded scope scopeTextLimit := by
    unfold rotation
    rw [succeeds.scopes]
    by_cases none : raw.scopes = []
    · simpa [none] using (validateScopes_isOk record.scopes.1).2 record.scopes.2
    · rw [if_pos none, scopes_fit]
      simp [none]
  rw [validateRotation_isOk, scopes]
  have lifetime := succeeds.lifetime_fits fun whole => one_le_of_whole whole succeeds.positive
  have access := succeeds.access_fits
  have refresh := succeeds.refresh_fits
  show (validateTokenText result.accessToken).isOk = true ∧
    (∀ token ∈ result.refreshToken, (validateTokenText token).isOk = true) ∧
    (validateTokenLifetime result.expiresInSeconds).isOk = true ∧ _ ↔ _
  rw [access, refresh, lifetime]
  constructor
  · rintro ⟨access, refresh, lifetime, few, distinct, plain⟩
    refine ⟨access, refresh, fun seconds' isLifetime => ?_, few, distinct, plain⟩
    rw [succeeds.expiresIn] at isLifetime
    cases isLifetime
    exact lifetime
  · intro storable
    exact ⟨storable.accessToken, storable.refreshToken, storable.lifetime seconds succeeds.expiresIn,
      storable.few, storable.distinct, storable.plain⟩

theorem Succeeds.material_fits (succeeds : Succeeds raw result seconds) (granted : result.refreshToken ≠ none) :
    (validateMaterial (initialMaterial result)).isOk ↔ Storable raw ∧ raw.scopes ≠ [] := by
  obtain ⟨token, isToken⟩ := Option.ne_none_iff_exists'.1 granted
  have refresh : (validateTokenText (initialMaterial result).refreshToken).isOk ↔
      ∀ token, string? raw.refreshToken = some token → Bounded token tokenLimit := by
    rw [← succeeds.refresh_fits]
    simp [initialMaterial, isToken]
  have scopes : (validateScopes (initialMaterial result).scopes).isOk ↔ raw.scopes ≠ [] ∧
      raw.scopes.length ≤ scopeLimit ∧ raw.scopes.Nodup ∧
      ∀ scope ∈ raw.scopes, Bounded scope scopeTextLimit := by
    rw [← scopes_fit, ← succeeds.scopes]
    rfl
  have lifetime := succeeds.lifetime_fits fun whole => one_le_of_whole whole succeeds.positive
  have access := succeeds.access_fits
  rw [validateMaterial_isOk, refresh, scopes]
  show (validateTokenText result.accessToken).isOk = true ∧ _ ∧
    (validateTokenLifetime result.expiresInSeconds).isOk = true ∧ _ ↔ _
  rw [access, lifetime]
  constructor
  · rintro ⟨access, refresh, lifetime, some, few, distinct, plain⟩
    refine ⟨⟨access, refresh, fun seconds' isLifetime => ?_, few, distinct, plain⟩, some⟩
    rw [succeeds.expiresIn] at isLifetime
    cases isLifetime
    exact lifetime
  · rintro ⟨storable, some⟩
    exact ⟨storable.accessToken, storable.refreshToken, storable.lifetime seconds succeeds.expiresIn,
      some, storable.few, storable.distinct, storable.plain⟩

theorem refresh_posted {answer : Answer} (posted : postForm answer = .ok raw)
    (ok : refreshAccessToken answer = .ok result) : toResult raw = .ok result := by
  unfold refreshAccessToken at ok
  rwa [posted] at ok

theorem exchange_granted {answer : Answer} (posted : postForm answer = .ok raw)
    (ok : exchangeAuthorizationCode answer = .ok result) :
    toResult raw = .ok result ∧ result.refreshToken ≠ none := by
  unfold exchangeAuthorizationCode at ok
  cases exchanged : refreshAccessToken answer with
  | error reason =>
    rw [exchanged] at ok
    cases ok
  | ok result' =>
    rw [exchanged] at ok
    simp only [bind, Except.bind] at ok
    split at ok
    · cases ok
    · rename_i granted
      cases ok
      exact ⟨refresh_posted posted exchanged, fun none => granted (by simp [none])⟩

end Fits

/-- The vault accepts what a successful refresh or exchange has brought if and only if the response
is storable and, the first time, names some scope. -/
theorem success_fits_iff (answer : Answer) (raw : RawTokenResponse) (posted : postForm answer = .ok raw)
    (result : ExchangeResult) :
    (refreshAccessToken answer = .ok result → ∀ record : TokenRecord,
      ((validateRotation (rotation record result)).isOk ↔ Storable raw)) ∧
    (exchangeAuthorizationCode answer = .ok result →
      ((validateMaterial (initialMaterial result)).isOk ↔ Storable raw ∧ raw.scopes ≠ [])) := by
  constructor
  · intro ok record
    obtain ⟨seconds, succeeds⟩ := toResult_eq_ok (refresh_posted posted ok)
    exact succeeds.rotation_fits record
  · intro ok
    obtain ⟨ok, granted⟩ := exchange_granted posted ok
    obtain ⟨seconds, succeeds⟩ := toResult_eq_ok ok
    exact succeeds.material_fits granted

/-- A response with the tokens `a` and `r`. -/
def tokenResponse (seconds : Rat) (scope : Option JsonValue) : RawTokenResponse :=
  ⟨some (.string [97]), some (.string [114]), some (.number (.finite seconds)), scope, none, none⟩

/-- An hour, and the scopes `s` and `t`. -/
def hourResponse : RawTokenResponse := tokenResponse 3600 (some (.string [115, 32, 116]))

def hourResult : ExchangeResult := ⟨[97], some [114], .finite 3600, [[115], [116]]⟩

theorem oneScope_valid : ScopesValid [[115]] := by decide

def oneScope : TokenRecord := ⟨.microsoft, "", [97], [114], 0, ⟨[[115]], oneScope_valid⟩, 1⟩

theorem hourResponse_fits :
    ((validateRotation (rotation oneScope hourResult)).isOk ↔ Storable hourResponse) ∧
      ((validateMaterial (initialMaterial hourResult)).isOk ↔ Storable hourResponse ∧ hourResponse.scopes ≠ []) :=
  ⟨(success_fits_iff (.object true 200 hourResponse) hourResponse rfl hourResult).1 (by decide) oneScope,
    (success_fits_iff (.object true 200 hourResponse) hourResponse rfl hourResult).2 (by decide)⟩

/-- A fraction of a second, and a first response without a scope. -/
theorem fraction_does_not_fit :
    ((refreshAccessToken (.object true 200 (tokenResponse (7199 / 2) (some (.string [115]))))).isOk ∧
      (refreshAccessToken (.object true 200 (tokenResponse (7199 / 2) (some (.string [115]))))).map
        (fun result => (validateRotation (rotation oneScope result)).isOk) = .ok false) ∧
    (exchangeAuthorizationCode (.object true 200 (tokenResponse 3600 none))).map
      (fun result => (validateMaterial (initialMaterial result)).isOk) = .ok false := by
  decide +kernel

end OAuth
