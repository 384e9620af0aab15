import MaterialEmail.Library.Keyed
import MaterialEmail.Library.Lineage
import MaterialEmail.Library.Program
import MaterialEmail.Library.TimeValue

/-! `HistoryRepository`: the Git repository that keeps snapshots of the application state, and the pruning of its
history. -/
namespace HistoryRepository

open Interrupted JsString Lineage

def snapshotSubject : JsString := JsString.ofString "Snapshot application state"
def snapshotIdentityEmail : JsString := JsString.ofString "local-history@material-email.invalid"
def maximumManagedRevisionCount : Nat := 2000
def localHistoryRetentionDaysMin : Int := 30
def localHistoryRetentionDaysMax : Int := 3650
def millisecondsPerDay : Int := 24 * 60 * 60 * 1000

section Git

/-- `trimEnd`. -/
def trimEnd (text : JsString) : JsString := text.rdropWhile isWhiteSpace

theorem trimEnd_trimEnd (text : JsString) : trimEnd (trimEnd text) = trimEnd text := List.rdropWhile_idempotent _ _

/-- A message as `git commit` leaves it, without the end of the last line. -/
abbrev Message := { text : JsString // trimEnd text = text }

def Message.ofText (text : JsString) : Message := ⟨trimEnd text, trimEnd_trimEnd text⟩

theorem Message.ofText_val (message : Message) : Message.ofText message.val = message := Subtype.ext message.property

/-- `%s`: the first lines that are not blank, as one. -/
def subjectLine (message : Message) : JsString :=
  let lines := (message.val.splitOnP (· = 10)).map trimEnd
  List.intercalate [32] ((lines.dropWhile (· = [])).takeWhile (· ≠ []))

/-- A moment in seconds, and minutes east of UTC. -/
structure GitDate where
  seconds : Int
  zone : Int
  deriving DecidableEq

/-- `%aI` and `%cI`. -/
def GitDate.text (date : GitDate) : JsString :=
  (JsDate.toISOString ((date.seconds + 60 * date.zone) * 1000)).take 19 ++ (if date.zone < 0 then 45 else 43) ::
    JsDate.digits 2 (date.zone.natAbs / 60) ++ 58 :: JsDate.digits 2 (date.zone.natAbs % 60)

structure Signature where
  name : JsString
  email : JsString
  date : GitDate
  deriving DecidableEq

structure Commit where
  tree : JsString
  message : Message
  author : Signature
  committer : Signature
  deriving DecidableEq

/-- A commit hash. No two commits have the same, and the empty text is none. -/
abbrev Revision := List Commit

instance lawfulRevision : LawfulBEq Revision := inferInstance

/-- What `normalizeLabel` leaves of a label. -/
abbrev Label := { text : JsString // text ≠ [] ∧ text.trim = text }

def Label.ofText? (text : JsString) : Option Label :=
  if filled : text.trim ≠ [] then some ⟨text.trim, filled, trim_trim text⟩ else none

theorem Label.ofText?_val (label : Label) : Label.ofText? label.val = some label := by
  obtain ⟨text, filled, trimmed⟩ := label
  simp [Label.ofText?, trimmed, filled]

structure Note where
  revision : Revision
  label : Label
  deriving DecidableEq

/-- The history that is checked out, the branch it is on, the notes of `labelNotesRef` and what `git status` prints. -/
structure Repository where
  head : Revision
  branch : Option String
  notes : List Note
  status : JsString
  deriving DecidableEq

def Repository.labelOf (repository : Repository) (revision : Revision) : Option Label :=
  (Keyed.get Note.revision revision repository.notes).map Note.label

def Repository.addNote (repository : Repository) (text : JsString) (revision : Revision) : Repository :=
  match Label.ofText? text with
  | some label => { repository with notes := Keyed.put Note.revision ⟨revision, label⟩ repository.notes }
  | none => { repository with notes := Keyed.without Note.revision revision repository.notes }

/-- `update-ref`, which moves a branch only from where it is expected. -/
def Repository.moves (repository : Repository) (reference : String) (old : Revision) : Bool :=
  repository.branch = some reference && repository.head = old

/-- One record that `git log` prints. -/
structure LogRecord where
  hash : Revision
  createdAt : GitDate
  subject : JsString
  author : Signature
  committer : Signature
  parents : List Revision

inductive Command where
  | mkdir
  | isInsideWorkTree
  | init
  | config (key value : String)
  | countRevisions
  | log (limit : Nat)
  | listNotes
  | showNote (revision : Revision)
  | showMessage (revision : Revision)
  | status
  | treeOf (revision : Revision)
  | commitTree (tree : JsString) (parent : Revision) (message : JsString) (author committer : Signature)
  | addNote (text : JsString) (revision : Revision)
  | resolveHead
  | symbolicRef
  | updateRef (reference : String) (new old : Revision)
  deriving DecidableEq

abbrev Command.Output : Command → Type
  | .countRevisions => Nat
  | .log _ => List LogRecord
  | .listNotes => List Revision
  | .showNote _ => JsString
  | .showMessage _ => JsString
  | .status => JsString
  | .treeOf _ => JsString
  | .commitTree .. => Revision
  | .resolveHead => Revision
  | .symbolicRef => String
  | _ => Unit

abbrev Reply (command : Command) : Type := Except String command.Output

def LogRecord.of (commit : Commit) (older : Revision) : LogRecord :=
  ⟨commit :: older, commit.committer.date, subjectLine commit.message, commit.author, commit.committer,
    if older = [] then [] else [older]⟩

def LogRecord.of? : Revision → Option LogRecord
  | [] => none
  | commit :: older => some (.of commit older)

def unknownRevision : String := "fatal: unknown revision"

/-- What a command prints. The end of the last line is left out where it ends a name. -/
def answer (repository : Repository) : (command : Command) → Reply command
  | .mkdir => .ok ()
  | .isInsideWorkTree => .ok ()
  | .init => .ok ()
  | .config _ _ => .ok ()
  | .countRevisions => if repository.head = [] then .error unknownRevision else .ok repository.head.length
  | .log limit =>
    if repository.head = [] then .error unknownRevision
    else .ok (((revisions repository.head).take limit).filterMap LogRecord.of?)
  | .listNotes => .ok (repository.notes.map Note.revision)
  | .showNote revision =>
    match repository.labelOf revision with
    | some label => .ok (label.val ++ [10])
    | none => .error "error: no note found"
  | .showMessage revision =>
    match revision with
    | [] => .error unknownRevision
    | commit :: _ => .ok (commit.message.val ++ [10])
  | .status => .ok repository.status
  | .treeOf revision =>
    match revision with
    | [] => .error unknownRevision
    | commit :: _ => .ok commit.tree
  | .commitTree tree parent message author committer => .ok (⟨tree, .ofText message, author, committer⟩ :: parent)
  | .addNote _ _ => .ok ()
  | .resolveHead => if repository.head = [] then .error unknownRevision else .ok repository.head
  | .symbolicRef =>
    match repository.branch with
    | some reference => .ok reference
    | none => .error ""
  | .updateRef reference _ old =>
    if repository.moves reference old then .ok () else .error "fatal: cannot lock ref"

def execute (command : Command) (repository : Repository) : Repository :=
  match command with
  | .addNote text revision => repository.addNote text revision
  | .updateRef reference new old =>
    if repository.moves reference old then { repository with head := new } else repository
  | _ => repository

/-- The repository, where others move HEAD while a command or two run, and where they have left it. -/
structure State where
  repository : Repository
  meanwhile : List (Option Revision)
  others : Revision
  deriving DecidableEq

/-- What others do before the next command. -/
def State.meet (s : State) : State :=
  match s.meanwhile with
  | [] => s
  | none :: later => { s with meanwhile := later }
  | some moved :: later => ⟨{ s.repository with head := moved }, later, moved⟩

/-- A command that fails has done nothing. -/
def effect (command : Command) (fault : Fault String) (s : State) : State :=
  match fault with
  | .none => { s.meet with repository := execute command s.meet.repository }
  | .crash .after => { s.meet with repository := execute command s.meet.repository }
  | _ => s.meet

def device : Device Command Reply String State where
  effect := effect
  reply command s := answer s.meet.repository command
  refuse _ code := .error code
  infallible _ := false

abbrev Git := Program Command Reply String

def orThrow : Except String α → Git α
  | .ok value => .done value
  | .error error => .throw error

def git (command : Command) : Git command.Output := .call command orThrow

end Git

section Revisions

/-- `LocalRevision`. -/
structure LocalRevision where
  hash : Revision
  createdAt : JsString
  subject : JsString
  label : JsString
  isLabeled : Bool

structure RevisionEntry extends LocalRevision where
  appOwned : Bool
  author : Signature
  committer : Signature
  message : JsString

def publicRevision (entry : RevisionEntry) : LocalRevision := entry.toLocalRevision

/-- The outcome of `#ready`, if it has been asked for before. -/
def ensureRepository : Option (Except String Unit) → Git Unit
  | some ready => orThrow ready
  | none => do
    git .mkdir
    Program.catching (git .isInsideWorkTree) fun _ => do
      git .init
      git (.config "user.name" "Material Email")
      git (.config "user.email" "local-history@material-email.invalid")
      git (.config "commit.gpgSign" "false")

def labeledCommits : Git (List Revision) := Program.catching (git .listNotes) fun _ => return []

def noteFor (commit : Revision) : Git (Option JsString) :=
  Program.catching (do
    let label ← git (.showNote commit)
    return if label.trim = [] then none else some label.trim) fun _ => return none

def labelFor (commit : Revision) (fallback : JsString) : Git JsString := do
  let note ← noteFor commit
  return note.getD fallback

def appOwned (record : LogRecord) : Bool :=
  record.subject = snapshotSubject && record.author.email = snapshotIdentityEmail &&
    record.committer.email = snapshotIdentityEmail && record.parents.length ≤ 1

def readEntry (labeled : List Revision) (record : LogRecord) : Git RevisionEntry := do
  let isLabeled := decide (record.hash ∈ labeled)
  let label ← (if isLabeled then labelFor record.hash record.subject else pure record.subject)
  let message ← git (.showMessage record.hash)
  return {
    hash := record.hash
    createdAt := record.createdAt.text
    subject := record.subject
    label := label
    isLabeled := isLabeled
    appOwned := appOwned record
    author := record.author
    committer := record.committer
    message := trimEnd message
  }

def readEntries (labeled : List Revision) : List LogRecord → Git (List RevisionEntry)
  | [] => return []
  | record :: records => do
    let entry ← readEntry labeled record
    let entries ← readEntries labeled records
    return entry :: entries

def aboveLimit (total : Nat) : String :=
  s!"Local history has {total} revisions, above the {maximumManagedRevisionCount}-revision safety limit for automatic pruning."

/-- Raises an error under a condition. -/
def refuseIf (condition : Prop) [Decidable condition] (message : String) : Git Unit :=
  if condition then .throw message else return

def onlyIf (condition : Bool) (program : Git Unit) : Git Unit := if condition then program else return

def revisionEntries (limit : Nat) (requireComplete : Bool) : Git (List RevisionEntry) := do
  match ← Program.attempt (git .countRevisions) with
  | .error _ => return []
  | .ok total =>
    refuseIf (requireComplete = true ∧ total > maximumManagedRevisionCount) (aboveLimit total)
    let records ← git (.log (max 1 (min maximumManagedRevisionCount limit)))
    let labeled ← labeledCommits
    readEntries labeled records

end Revisions

section Pruning

/-- `LocalHistoryPruneRequest`. The cutoff is what `new Date` makes of it. -/
structure PruneRequest where
  retentionDays : JsNumber
  cutoffAt : Option JsDate.TimeValue
  expectedHeadHash : Revision
  expectedEligibleHashes : List Revision

/-- `LocalHistoryPrunePreview`. -/
structure PrunePreview where
  retentionDays : Int
  cutoffAt : JsString
  headHash : Option Revision
  totalRevisionCount : Nat
  eligibleRevisions : List LocalRevision
  protectedCurrentCount : Nat
  protectedLabeledCount : Nat
  protectedRecentCount : Nat
  blockedNonAppOwnedCount : Nat
  canPrune : Bool

/-- `LocalHistoryPruneResult`. -/
structure PruneResult where
  prunedRevisionCount : Nat
  retainedRevisionCount : Nat
  previousHeadHash : Revision
  currentHeadHash : Revision
  cutoffAt : JsString
  semanticEventRecorded : Bool

def invalidRetention : String :=
  s!"Local history retention must be a whole number from {localHistoryRetentionDaysMin} to {localHistoryRetentionDaysMax} days."

def normalizeRetentionDays (retentionDays : JsNumber) : Git Int :=
  match retentionDays.toInt? with
  | some days =>
    if days < localHistoryRetentionDaysMin ∨ localHistoryRetentionDaysMax < days then .throw invalidRetention
    else return days
  | none => .throw invalidRetention

/-- `Date.parse(createdAt) < cutoff`. -/
def olderThan (cutoffAt : JsDate.TimeValue) (createdAt : JsString) : Bool :=
  (JsDate.parse createdAt).any fun instant => instant < cutoffAt.val

def preview (retentionDays : Int) (cutoffAt : JsDate.TimeValue) (entries : List RevisionEntry) : PrunePreview :=
  let headHash := entries.head?.map fun entry => entry.hash
  let blockedNonAppOwnedCount := (entries.filter fun entry => !entry.appOwned).length
  let eligibleRevisions := (entries.filter fun entry =>
    some entry.hash ≠ headHash && entry.appOwned && !entry.isLabeled && olderThan cutoffAt entry.createdAt).map publicRevision
  {
    retentionDays := retentionDays
    cutoffAt := JsDate.toISOString cutoffAt.val
    headHash := headHash
    totalRevisionCount := entries.length
    eligibleRevisions := eligibleRevisions
    protectedCurrentCount := if headHash.isSome then 1 else 0
    protectedLabeledCount := (entries.filter fun entry =>
      some entry.hash ≠ headHash && entry.appOwned && entry.isLabeled).length
    protectedRecentCount := (entries.filter fun entry =>
      some entry.hash ≠ headHash && entry.appOwned && !entry.isLabeled && !olderThan cutoffAt entry.createdAt).length
    blockedNonAppOwnedCount := blockedNonAppOwnedCount
    canPrune := 0 < eligibleRevisions.length && blockedNonAppOwnedCount = 0
  }

def previewAtCutoff (retentionDays : Int) (cutoffAt : JsDate.TimeValue) : Git PrunePreview := do
  let entries ← revisionEntries maximumManagedRevisionCount true
  return preview retentionDays cutoffAt entries

/-- One pass of the loop of `prune`: the copy of a revision on the copy before it, with its label. -/
def rewriteEntry (rewrittenParent : Revision) (entry : RevisionEntry) : Git Revision := do
  let tree ← git (.treeOf entry.hash)
  let rewritten ← git (.commitTree tree rewrittenParent entry.message entry.author entry.committer)
  onlyIf entry.isLabeled (git (.addNote entry.label rewritten))
  return rewritten

def rewriteEntries (rewrittenParent : Revision) : List RevisionEntry → Git Revision
  | [] => return rewrittenParent
  | entry :: entries => do
    let rewritten ← rewriteEntry rewrittenParent entry
    rewriteEntries rewritten entries

/-- `prune` up to the preview that it repeats. -/
def checkedPreview (request : PruneRequest) (now : JsDate.TimeValue) (cutoffAt : JsDate.TimeValue)
    (retentionDays : Int) : Git PrunePreview := do
  refuseIf (cutoffAt.val > now.val - retentionDays * millisecondsPerDay + 1000)
    "The local history preview cutoff is invalid or newer than the selected retention policy permits."
  let preview ← previewAtCutoff retentionDays cutoffAt
  refuseIf (preview.headHash = none ∨ preview.headHash ≠ some request.expectedHeadHash)
    "Local history changed after the preview. Preview the retention policy again before pruning."
  refuseIf (preview.eligibleRevisions.map LocalRevision.hash ≠ request.expectedEligibleHashes)
    "The eligible local revisions changed after the preview. Preview the retention policy again before pruning."
  refuseIf (preview.blockedNonAppOwnedCount ≠ 0)
    "Local history contains a commit that Material Email did not create, so automatic pruning was blocked."
  refuseIf (preview.eligibleRevisions = [])
    "The retention preview contains no eligible local revisions to prune."
  return preview

/-- `prune` from the copy of the history on. -/
def switchTo (rewrittenParent previousHeadHash : Revision) : Git Unit := do
  refuseIf (rewrittenParent = []) "Local history pruning refused to remove the current revision."
  let previousTree ← git (.treeOf previousHeadHash)
  let rewrittenTree ← git (.treeOf rewrittenParent)
  refuseIf (previousTree ≠ rewrittenTree)
    "Local history pruning could not prove that the current application state was preserved."
  let currentHead ← git .resolveHead
  refuseIf (currentHead ≠ previousHeadHash)
    "Local history changed while pruning was prepared. Nothing was pruned; preview again."
  let headReference ← git .symbolicRef
  refuseIf (headReference ≠ "refs/heads/main")
    "Local history is not on its app-owned main branch, so automatic pruning was blocked."
  git (.updateRef headReference rewrittenParent previousHeadHash)

def prune (ready : Option (Except String Unit)) (request : PruneRequest) (now : JsDate.TimeValue) : Git PruneResult := do
  ensureRepository ready
  let retentionDays ← normalizeRetentionDays request.retentionDays
  match request.cutoffAt with
  | none =>
    .throw "The local history preview cutoff is invalid or newer than the selected retention policy permits."
  | some cutoffAt =>
    let preview ← checkedPreview request now cutoffAt retentionDays
    let worktreeStatus ← git .status
    refuseIf (worktreeStatus.trim ≠ []) "Local history has uncommitted repository changes, so automatic pruning was blocked."
    let entries ← revisionEntries maximumManagedRevisionCount false
    let eligible := preview.eligibleRevisions.map LocalRevision.hash
    let previousHeadHash := preview.headHash.getD []
    let retained := entries.reverse.filter fun entry => entry.hash ∉ eligible
    let rewrittenParent ← rewriteEntries [] retained
    switchTo rewrittenParent previousHeadHash
    return {
      prunedRevisionCount := eligible.length
      retainedRevisionCount := retained.length
      previousHeadHash := previousHeadHash
      currentHeadHash := rewrittenParent
      cutoffAt := JsDate.toISOString cutoffAt.val
      semanticEventRecorded := false
    }

end Pruning

end HistoryRepository
