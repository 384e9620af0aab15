import Mathlib.Data.List.Sort
import MaterialEmail.Library.Requests
import MaterialEmail.OAuth.VaultStorage

/-! What the token vault reports when a provider's tokens are revoked: the worst of what became of any one of them.
The local records go whatever it is. -/
namespace OAuth.Vault.Revoking

open JsString Interrupted

/-- What becomes of the tokens of one record. Any error but the one that names the missing endpoint is a failure. -/
inductive Revocation where
  | succeeded
  | notSupported
  | failed
  deriving DecidableEq, Repr

inductive RemoteRevocation where
  | notNeeded
  | notAvailable
  | succeeded
  | notSupported
  | failed
  deriving DecidableEq, Repr

section Snapshots

inductive OAuthTokenVaultFailure where
  | windowsOnly
  | encryptionUnavailable
  | storageFailed
  deriving DecidableEq, Repr

inductive ProviderState where
  | unavailable
  | notRegistered
  | empty
  | active
  | expired
  deriving DecidableEq, Repr

structure ProviderSnapshot where
  id : Provider
  name : JsString
  registered : Bool
  state : ProviderState
  recordCount : Nat
  generation : Nat
  expiresAt : Option JsString
  canClear : Bool
  canRevoke : Bool
  deriving DecidableEq

structure Snapshot where
  failure : Option OAuthTokenVaultFailure
  providers : List ProviderSnapshot
  deriving DecidableEq

/-- What a snapshot sees beside the document. -/
structure View where
  failure : Option OAuthTokenVaultFailure
  /-- `Date.parse(text) > now`. -/
  isAhead : JsString → Bool
  localeCompare : JsString → JsString → Ordering

variable (view : View) (surroundings : Surroundings)

def providerName : Provider → JsString
  | .google => ofString "Google"
  | .microsoft => ofString "Microsoft"

/-- The record of the highest generation, and of these the one that was changed last. -/
def latest (records : List StoredOAuthTokenRecord) : Option StoredOAuthTokenRecord :=
  (records.insertionSort fun left right =>
    ((compare right.generation left.generation).then (view.localeCompare right.updatedAt left.updatedAt)) ≠ .gt).head?

def providerState (registered : Bool) (records : List StoredOAuthTokenRecord) : ProviderState :=
  if view.failure.isSome then .unavailable
  else if !registered then .notRegistered
  else if records.isEmpty then .empty
  else if records.any (fun record => view.isAhead record.expiresAt) then .active
  else .expired

def providerSnapshot (document : OAuthTokenVaultDocument) (id : Provider) : ProviderSnapshot :=
  let records := document.records.filter fun record => record.provider = id
  let latest := latest view records
  let registered := surroundings.registered id
  { id, registered
    name := providerName id
    state := providerState view registered records
    recordCount := records.length
    generation := (latest.map (·.generation)).getD 0
    expiresAt := latest.map (·.expiresAt)
    canClear := !records.isEmpty
    canRevoke := view.failure.isNone && registered && surroundings.hasRevoker id && !records.isEmpty }

def snapshot (document : OAuthTokenVaultDocument) : Snapshot :=
  ⟨view.failure, [.google, .microsoft].map (providerSnapshot view surroundings document)⟩

end Snapshots

section Programs

/-- The tokens that are handed to a revoker, with the record that they are of. -/
structure Request where
  record : StoredOAuthTokenRecord
  accessToken : JsString
  refreshToken : JsString
  deriving DecidableEq

abbrev Attended := Program (Op ⊕ Request) (Sum.elim Reply fun _ => Revocation) StorageError

structure ActionResult where
  provider : Provider
  localRecordsCleared : Nat
  remoteRevocation : RemoteRevocation
  snapshot : Snapshot
  deriving DecidableEq

variable (host : Host) (view : View) (surroundings : Surroundings)

/-- The tokens of a record, in plain text. -/
def opened (record : StoredOAuthTokenRecord) : Checked Request := do
  let accessToken ← unprotect surroundings record.accessTokenCiphertext
  let refreshToken ← unprotect surroundings record.refreshTokenCiphertext
  return ⟨record, accessToken, refreshToken⟩

/-- Tokens that cannot be read are not handed to the revoker. -/
def revokeRecord (record : StoredOAuthTokenRecord) : Attended Revocation :=
  match opened surroundings record with
  | .ok request => .call (.inr request) .done
  | .error _ => return .failed

def RemoteRevocation.after (remoteRevocation : RemoteRevocation) : Revocation → RemoteRevocation
  | .succeeded => remoteRevocation
  | .notSupported => if remoteRevocation = .succeeded then .notSupported else remoteRevocation
  | .failed => .failed

def revokeRecords : List StoredOAuthTokenRecord → RemoteRevocation → Attended RemoteRevocation
  | [], remoteRevocation => return remoteRevocation
  | record :: records, remoteRevocation => do
    let revocation ← revokeRecord surroundings record
    revokeRecords records (remoteRevocation.after revocation)

def revokeIfAvailable (provider : Provider) (records : List StoredOAuthTokenRecord) : Attended RemoteRevocation :=
  if !records.isEmpty && surroundings.registered provider && surroundings.hasRevoker provider && surroundings.available then
    revokeRecords surroundings records .succeeded
  else return if records.isEmpty then .notNeeded else .notAvailable

/-- The local records go, whatever became of their tokens. -/
def clearAndReport (provider : Provider) (document : OAuthTokenVaultDocument) (remoteRevocation : RemoteRevocation) :
    Attended ActionResult :=
  let localRecordsCleared := (document.records.filter fun record => record.provider = provider).length
  match clearChange provider document with
  | .ok (some next) => do
    (writeDocument host next).among
    return ⟨provider, localRecordsCleared, remoteRevocation, snapshot view surroundings next⟩
  | _ => return ⟨provider, localRecordsCleared, remoteRevocation, snapshot view surroundings document⟩

def revokeAndClear (provider : Provider) : Attended ActionResult := do
  let document ← (readDocument host).among
  let records := document.records.filter fun record => record.provider = provider
  let remoteRevocation ← revokeIfAvailable surroundings provider records
  clearAndReport host view surroundings provider document remoteRevocation

/-- The vault with revokers that answer by the record. -/
def revokers (answers : StoredOAuthTokenRecord → Revocation) :
    Device (Op ⊕ Request) (Sum.elim Reply fun _ => Revocation) Errno (Disk × List Request) :=
  device.attended fun request => answers request.record

end Programs

section Reporting

variable {host : Host} {view : View} {surroundings : Surroundings} {provider : Provider} {faulty : Prop}
  {answers : StoredOAuthTokenRecord → Revocation} {before : OAuthTokenVaultDocument} {d : Disk} {requests : List Request}

def outcome (surroundings : Surroundings) (answers : StoredOAuthTokenRecord → Revocation) (record : StoredOAuthTokenRecord) :
    Revocation :=
  match opened surroundings record with
  | .ok _ => answers record
  | .error _ => .failed

def worst (outcomes : List Revocation) : RemoteRevocation :=
  if .failed ∈ outcomes then .failed else if .notSupported ∈ outcomes then .notSupported else .succeeded

def requested (surroundings : Surroundings) (records : List StoredOAuthTokenRecord) : List Request :=
  records.filterMap fun record => (opened surroundings record).toOption

theorem worst_perm {outcomes outcomes' : List Revocation} (perm : outcomes.Perm outcomes') : worst outcomes = worst outcomes' := by
  simp only [worst, perm.mem_iff]

theorem after_worst (outcomes : List Revocation) (revocation : Revocation) :
    (worst outcomes).after revocation = worst (outcomes ++ [revocation]) := by
  cases revocation <;> by_cases failed : Revocation.failed ∈ outcomes <;>
    by_cases unsupported : Revocation.notSupported ∈ outcomes <;>
    simp [worst, RemoteRevocation.after, failed, unsupported]

def reported (surroundings : Surroundings) (answers : StoredOAuthTokenRecord → Revocation) (provider : Provider)
    (records : List StoredOAuthTokenRecord) : RemoteRevocation :=
  if records.isEmpty then .notNeeded
  else if surroundings.registered provider && surroundings.hasRevoker provider && surroundings.available then
    worst (records.map (outcome surroundings answers))
  else .notAvailable

/-- The records of a provider whose revoker is turned to, if there are any. -/
def handedOver (surroundings : Surroundings) (provider : Provider) (records : List StoredOAuthTokenRecord) : List Request :=
  if surroundings.registered provider && surroundings.hasRevoker provider && surroundings.available then
    requested surroundings records
  else []

theorem revokeRecord_wp {crash : Disk → Prop} (crashes : crash d) (record : StoredOAuthTokenRecord) :
    wp (revokers answers) (attending (honest faulty)) (fun s => crash s.1) (revokeRecord surroundings record)
      (fun result s => result = .ok (outcome surroundings answers record) ∧ s = (d, requests ++ requested surroundings [record]))
      (d, requests) := by
  unfold revokeRecord outcome requested
  cases isOpened : opened surroundings record with
  | ok request =>
    have same : request.record = record := by
      obtain ⟨accessToken, -, rest⟩ := Fallible.bind_eq_ok isOpened
      obtain ⟨refreshToken, -, rest⟩ := Fallible.bind_eq_ok rest
      cases rest
      rfl
    refine wp_request crashes ⟨?_, ?_⟩
    · rw [same]
    · simp [isOpened, Except.toOption]
  | error code => exact ⟨rfl, by simp [isOpened, Except.toOption]⟩

/-- Every record is gone through, and the report is the worst of what they came to. -/
theorem revokeRecords_wp {crash : Disk → Prop} (crashes : crash d) (records : List StoredOAuthTokenRecord)
    (outcomes : List Revocation) :
    wp (revokers answers) (attending (honest faulty)) (fun s => crash s.1)
      (revokeRecords surroundings records (worst outcomes))
      (fun result s => result = .ok (worst (outcomes ++ records.map (outcome surroundings answers))) ∧
        s = (d, requests ++ requested surroundings records)) (d, requests) := by
  induction records generalizing outcomes requests with
  | nil => exact ⟨by rw [List.map_nil, List.append_nil], by rw [requested, List.filterMap_nil, List.append_nil]⟩
  | cons record records ih =>
    refine wp_seq (wp_mono (revokeRecord_wp crashes record) (fun result s ends => ?_) fun _ => id)
    obtain ⟨rfl, rfl⟩ := ends
    rw [either_ok, after_worst]
    refine wp_mono (ih (outcomes ++ [outcome surroundings answers record])) (fun result s ends => ?_) fun _ => id
    obtain ⟨rfl, rfl⟩ := ends
    refine ⟨by rw [List.append_assoc, List.map_cons]; rfl, ?_⟩
    rw [List.append_assoc, requested, requested, ← List.filterMap_append]
    rfl

theorem revokeIfAvailable_wp (crash : Disk → Prop) (crashes : crash d) (records : List StoredOAuthTokenRecord) :
    wp (revokers answers) (attending (honest faulty)) (fun s => crash s.1) (revokeIfAvailable surroundings provider records)
      (fun result s => result = .ok (reported surroundings answers provider records) ∧
        s = (d, requests ++ handedOver surroundings provider records)) (d, requests) := by
  unfold revokeIfAvailable reported handedOver
  cases none : records.isEmpty with
  | true =>
    obtain rfl := List.isEmpty_iff.1 none
    exact ⟨rfl, by simp [requested]⟩
  | false =>
    cases available : surroundings.registered provider && surroundings.hasRevoker provider && surroundings.available with
    | true =>
      simp only [Bool.not_false, Bool.true_and, available, if_true]
      exact revokeRecords_wp crashes records []
    | false =>
      simp only [Bool.not_false, Bool.true_and, available]
      exact ⟨rfl, by simp⟩

/-- The document without a provider's records. -/
def without (provider : Provider) (document : OAuthTokenVaultDocument) : OAuthTokenVaultDocument :=
  ⟨document.records.filter fun record => record.provider ≠ provider⟩

theorem clearAndReport_wp (settled : Settled host before d) (remoteRevocation : RemoteRevocation) :
    wp (revokers answers) (attending (honest faulty)) (fun _ => True)
      (clearAndReport host view surroundings provider before remoteRevocation)
      (either (fun result s => result.remoteRevocation = remoteRevocation ∧ Stored host (without provider before) s.1 ∧
        s.2 = requests) fun _ _ => True) (d, requests) := by
  unfold clearAndReport
  dsimp only
  split
  · rename_i next changed
    obtain rfl := clearChange_eq changed
    refine wp_seq (wp_mono (wp_among (writeDocument_wp settled)) (fun result s ends => ?_) fun _ _ => trivial)
    cases result with
    | ok value => exact ⟨rfl, ends⟩
    | error error => trivial
  · rename_i unchanged
    have none : before.records.any (fun record => record.provider = provider) = false := by
      by_contra some
      exact unchanged _ (if_pos (by simpa using some))
    have same : without provider before = before := by
      refine congrArg OAuthTokenVaultDocument.mk (List.filter_eq_self.2 fun record member => ?_)
      simpa using List.any_eq_false.1 none record member
    rw [same]
    exact ⟨rfl, settled.stored, rfl⟩

theorem revokeAndClear_wp (stored : Stored host before d) :
    wp (revokers answers) (attending (honest faulty)) (fun _ => True) (revokeAndClear host view surroundings provider)
      (either (fun result s =>
        result.remoteRevocation =
            reported surroundings answers provider (before.records.filter fun record => record.provider = provider) ∧
          Stored host (without provider before) s.1 ∧
          s.2 = handedOver surroundings provider (before.records.filter fun record => record.provider = provider))
        fun _ _ => True) (d, []) := by
  refine wp_seq (wp_mono (wp_among (readDocument_wp stored)) (fun result s ends => ?_) fun _ _ => trivial)
  obtain ⟨d', requests⟩ := s
  obtain ⟨reads, rfl⟩ := ends
  cases result with
  | error error => trivial
  | ok document =>
    obtain ⟨rfl, settled⟩ := reads
    refine wp_seq (wp_mono (revokeIfAvailable_wp (fun _ => True) trivial _) (fun result s ends => ?_) fun _ _ => trivial)
    obtain ⟨rfl, rfl⟩ := ends
    exact clearAndReport_wp settled _

/-- A run in which the promise resolves. Files fail as they may, and a run may also be cut short. -/
structure Resolves (host : Host) (view : View) (surroundings : Surroundings) (answers : StoredOAuthTokenRecord → Revocation)
    (provider : Provider) (before : OAuthTokenVaultDocument) (result : ActionResult) (after : Disk) (requests : List Request) :
    Prop where
  run : ∃ start faults, Stored host before start ∧ (∀ code extent, .fail code extent ∈ faults → code ≠ .ENOENT) ∧
    Interrupted.run (revokers answers) (revokeAndClear host view surroundings provider) faults (start, []) =
      (.returned result, (after, requests))

variable {result : ActionResult} {after : Disk}

theorem Resolves.ends (resolves : Resolves host view surroundings answers provider before result after requests) :
    result.remoteRevocation =
        reported surroundings answers provider (before.records.filter fun record => record.provider = provider) ∧
      Stored host (without provider before) after ∧
      requests = handedOver surroundings provider (before.records.filter fun record => record.provider = provider) := by
  obtain ⟨start, faults, stored, allHonest, ran⟩ := resolves.run
  have ends : wp (revokers answers) (attending (honest True)) (fun _ => True) (revokeAndClear host view surroundings provider) _
    (start, []) := revokeAndClear_wp stored
  have allows : ∀ op fault s, Candid fault → attending (honest True) op fault (s : Disk × List Request) := by
    intro op fault s candid
    cases op with
    | inl op => exact candid.honest op s.1
    | inr request => trivial
  have sound := wp_sound ends (meets_of_faults Candid candid_none allows (candid_of_mem allHonest) _)
  rw [ran] at sound
  exact sound

theorem reported_perm {records records' : List StoredOAuthTokenRecord} (perm : records.Perm records') :
    reported surroundings answers provider records = reported surroundings answers provider records' := by
  unfold reported
  rw [worst_perm (perm.map _), perm.isEmpty_eq]

/-- Whatever comes of each record, in whatever order they stand: the report is the worst of it, every token that can be
read is handed over once, and the provider's records are gone, and no others. -/
theorem revokeAndClear_reports
    (available : surroundings.registered provider = true ∧ surroundings.hasRevoker provider = true ∧
      surroundings.available = true)
    (resolves : Resolves host view surroundings answers provider before result after requests) :
    let records := before.records.filter fun record => record.provider = provider
    (result.remoteRevocation = if records = [] then .notNeeded
      else if ∃ record ∈ records, outcome surroundings answers record = .failed then .failed
      else if ∃ record ∈ records, outcome surroundings answers record = .notSupported then .notSupported
      else .succeeded) ∧
    (∀ {before' : OAuthTokenVaultDocument} {result' : ActionResult} {after' : Disk} {requests' : List Request},
      before'.records.Perm before.records →
      Resolves host view surroundings answers provider before' result' after' requests' →
      result'.remoteRevocation = result.remoteRevocation) ∧
    requests = records.filterMap (fun record => (opened surroundings record).toOption) ∧
    nextRead host after = .returned ⟨before.records.filter fun record => record.provider ≠ provider⟩ := by
  obtain ⟨reports, stored, asked⟩ := resolves.ends
  refine ⟨?_, fun perm resolves' => ?_, ?_, nextRead_eq stored⟩
  · rw [reports, reported, available.1, available.2.1, available.2.2]
    simp only [worst, List.mem_map, List.isEmpty_iff, Bool.and_true, if_true]
  · rw [resolves'.ends.1, reports]
    exact reported_perm (perm.filter _)
  · rw [asked, handedOver, available.1, available.2.1, available.2.2]
    rfl

/-- A vault on a computer that has revokers for both providers. -/
def withRevokers : Surroundings := { windows with hasRevoker := fun _ => true }

def plainView : View := ⟨none, fun _ => true, fun _ _ => .eq⟩

def onDisk (document : OAuthTokenVaultDocument) : Disk := ⟨[(.file, ⟨.text document, 0⟩)], 1⟩

/-- The second account's revocation fails, the first one's is not supported. -/
def secondFails (record : StoredOAuthTokenRecord) : Revocation :=
  if record.accountKey = ofString "2" then .failed else .notSupported

def account (accountKey : String) : StoredOAuthTokenRecord :=
  ⟨.microsoft, ofString accountKey, ofString "QUFB", ofString "QUFB", ofString "1970-01-01T01:00:00.000Z", [[115]], 1,
    ofString "1970-01-01T00:00:00.000Z", ofString "1970-01-01T00:00:00.000Z"⟩

def twoAccounts : OAuthTokenVaultDocument := ⟨[account "1", account "2"]⟩

/-- The run in which nothing fails but what the revokers answer. -/
def undisturbed (answers : StoredOAuthTokenRecord → Revocation) (document : OAuthTokenVaultDocument) :=
  run (revokers answers) (revokeAndClear Host.plain plainView withRevokers .microsoft) [] (onDisk document, [])

theorem twoAccounts_resolves :
    Resolves Host.plain plainView withRevokers secondFails .microsoft twoAccounts
      ⟨.microsoft, 2, .failed, snapshot plainView withRevokers emptyDocument⟩ (undisturbed secondFails twoAccounts).2.1
      (undisturbed secondFails twoAccounts).2.2 where
  run := ⟨onDisk twoAccounts, [], .file rfl ⟨by decide, by decide⟩, nofun, Prod.ext (by decide) rfl⟩

theorem twoAccounts_cleared :
    nextRead Host.plain (undisturbed secondFails twoAccounts).2.1 = .returned emptyDocument ∧
      (undisturbed secondFails twoAccounts).2.2.map (·.record) = twoAccounts.records := by
  obtain ⟨-, -, asked, cleared⟩ := revokeAndClear_reports ⟨rfl, rfl, rfl⟩ twoAccounts_resolves
  exact ⟨cleared, by rw [asked]; decide⟩

/-- A vault without records reports something else, whoever would revoke them. -/
theorem emptyVault_reports :
    (∀ record ∈ emptyDocument.records, record.provider = .microsoft → outcome withRevokers secondFails record = .succeeded) ∧
    ∃ result after requests,
      Resolves Host.plain plainView withRevokers secondFails .microsoft emptyDocument result after requests ∧
        result.remoteRevocation ≠ .succeeded :=
  ⟨nofun, ⟨.microsoft, 0, .notNeeded, snapshot plainView withRevokers emptyDocument⟩,
    (undisturbed secondFails emptyDocument).2.1, (undisturbed secondFails emptyDocument).2.2,
    ⟨onDisk emptyDocument, [], .file rfl ⟨by decide, by decide⟩, nofun, Prod.ext (by decide) rfl⟩, by decide⟩

end Reporting

end OAuth.Vault.Revoking
