import Mathlib.Data.List.ReduceOption
import MaterialEmail.HistoryRepository.Model

/-! What pruning is for, the runs in which it does that, and what such a run reads. A reading of the history forgets
the labels that Git cannot show, and a copied revision may be one that is there already. -/
namespace HistoryRepository

open Interrupted JsString Lineage

section Purpose

def isOld (cutoffAt : JsDate.TimeValue) (revision : Revision) : Bool :=
  revision.head?.any fun commit => olderThan cutoffAt commit.committer.date.text

/-- The revisions that are to go: unlabelled, older than the cutoff and not the current one. -/
def Repository.eligible (repository : Repository) (cutoffAt : JsDate.TimeValue) : List Revision :=
  (revisions repository.head).filter fun revision =>
    revision ≠ repository.head ∧ repository.labelOf revision = none ∧ isOld cutoffAt revision

def Repository.kept (repository : Repository) (cutoffAt : JsDate.TimeValue) : List Revision :=
  (revisions repository.head).filter fun revision => revision ∉ repository.eligible cutoffAt

/-- Exactly the eligible revisions are gone. A revision on another parent holds all that it held. -/
structure Prunes (cutoffAt : JsDate.TimeValue) (before after : Repository) : Prop where
  history : after.head = contents (before.kept cutoffAt)
  labels : (revisions after.head).map after.labelOf = (before.kept cutoffAt).map before.labelOf
  tree : after.head.head?.map Commit.tree = before.head.head?.map Commit.tree

/-- The histories that are active at some time, unless pruning makes another so. -/
def State.heads (s : State) : List Revision := s.repository.head :: s.meanwhile.reduceOption

def State.active (s : State) : List Revision := s.heads.flatMap revisions

/-- HEAD is where others have left it and every active revision has the label that it had. -/
structure Spares (before after : State) : Prop where
  head : after.repository.head = after.others
  labels : ∀ revision ∈ before.active, after.repository.labelOf revision = before.repository.labelOf revision

/-- A call that returns has pruned, and one that throws has done nothing. -/
structure Correct (request : PruneRequest) (before : State) (ended : Outcome String PruneResult × State) : Prop where
  returned : ∀ result, ended.1 = .returned result →
    ∃ cutoffAt ∈ request.cutoffAt, Prunes cutoffAt before.repository ended.2.repository
  threw : ∀ error, ended.1 = .threw error → Spares before ended.2

instance (cutoffAt : JsDate.TimeValue) (before after : Repository) : Decidable (Prunes cutoffAt before after) :=
  decidable_of_iff (after.head = contents (before.kept cutoffAt) ∧
      (revisions after.head).map after.labelOf = (before.kept cutoffAt).map before.labelOf ∧
      after.head.head?.map Commit.tree = before.head.head?.map Commit.tree)
    ⟨fun ⟨history, labels, tree⟩ => ⟨history, labels, tree⟩, fun prunes => ⟨prunes.history, prunes.labels, prunes.tree⟩⟩

instance (before after : State) : Decidable (Spares before after) :=
  decidable_of_iff (after.repository.head = after.others ∧
      ∀ revision ∈ before.active, after.repository.labelOf revision = before.repository.labelOf revision)
    ⟨fun ⟨head, labels⟩ => ⟨head, labels⟩, fun spares => ⟨spares.head, spares.labels⟩⟩

instance (request : PruneRequest) (before : State) (ended : Outcome String PruneResult × State) :
    Decidable (Correct request before ended) :=
  match is : ended.1 with
  | .returned _ => decidable_of_iff (∃ cutoffAt ∈ request.cutoffAt, Prunes cutoffAt before.repository ended.2.repository)
      ⟨fun prunes => ⟨fun _ _ => prunes, fun _ threw => (nomatch is.symm.trans threw)⟩, fun correct => correct.returned _ is⟩
  | .threw _ => decidable_of_iff (Spares before ended.2)
      ⟨fun spares => ⟨fun _ returned => (nomatch is.symm.trans returned), fun _ _ => spares⟩, fun correct => correct.threw _ is⟩
  | .crashed => .isTrue ⟨fun _ returned => (nomatch is.symm.trans returned), fun _ threw => (nomatch is.symm.trans threw)⟩

def State.opened (repository : Repository) (meanwhile : List (Option Revision)) : State :=
  ⟨repository, meanwhile, repository.head⟩

end Purpose

section Conditions

/-- What is left of a history without the revisions that are expected to be eligible, oldest first. -/
def retained (request : PruneRequest) (head : Revision) : List Revision :=
  ((revisions head).take maximumManagedRevisionCount).reverse.filter fun revision =>
    revision ∉ request.expectedEligibleHashes

def copied (request : PruneRequest) (head : Revision) : List (Revision × Revision) := copies [] (retained request head)

def subjectOf (revision : Revision) : JsString :=
  match revision with
  | [] => []
  | commit :: _ => subjectLine commit.message

/-- A command whose failure costs no label. -/
def Repository.Bears (repository : Repository) (request : PruneRequest) : Command → Prop
  | .listNotes =>
    (∀ revision ∈ request.expectedEligibleHashes, repository.labelOf revision = none) ∧
      ∀ pair ∈ copied request request.expectedHeadHash,
        repository.labelOf pair.1 ≠ none → repository.labelOf pair.2 = repository.labelOf pair.1
  | .showNote revision => ∀ label ∈ repository.labelOf revision, label.val = subjectOf revision
  | _ => True

instance (repository : Repository) (request : PruneRequest) (command : Command) :
    Decidable (repository.Bears request command) := by
  cases command <;> unfold Repository.Bears <;> infer_instance

def Harmless (request : PruneRequest) (command : Command) (fault : Fault String) (s : State) : Prop :=
  fault.isFailure = true → s.repository.Bears request command

instance (request : PruneRequest) (command : Command) (fault : Fault String) (s : State) :
    Decidable (Harmless request command fault s) := inferInstanceAs (Decidable (_ → _))

/-- Others do not bring HEAD to where it is expected, and no copy takes the label of another revision. -/
structure Apart (request : PruneRequest) (before : State) : Prop where
  away : ∀ moved ∈ before.meanwhile, moved ≠ some request.expectedHeadHash
  labelled : ∀ pair ∈ before.heads.flatMap (copied request), pair.2 ∈ before.active →
    before.repository.labelOf pair.1 ≠ none → before.repository.labelOf pair.2 = before.repository.labelOf pair.1
  unlabelled : ∀ pair ∈ copied request request.expectedHeadHash, before.repository.labelOf pair.1 = none →
    before.repository.labelOf pair.2 = none

instance (request : PruneRequest) (before : State) : Decidable (Apart request before) :=
  decidable_of_iff ((∀ moved ∈ before.meanwhile, moved ≠ some request.expectedHeadHash) ∧
      (∀ pair ∈ before.heads.flatMap (copied request), pair.2 ∈ before.active →
        before.repository.labelOf pair.1 ≠ none → before.repository.labelOf pair.2 = before.repository.labelOf pair.1) ∧
      ∀ pair ∈ copied request request.expectedHeadHash, before.repository.labelOf pair.1 = none →
        before.repository.labelOf pair.2 = none)
    ⟨fun ⟨away, labelled, unlabelled⟩ => ⟨away, labelled, unlabelled⟩,
      fun apart => ⟨apart.away, apart.labelled, apart.unlabelled⟩⟩

end Conditions

section Labels

theorem mem_notes {repository : Repository} {revision : Revision} :
    revision ∈ repository.notes.map Note.revision ↔ repository.labelOf revision ≠ none := by
  rw [← Keyed.get_isSome, Repository.labelOf, ← Option.isSome_iff_ne_none, Option.isSome_map]

theorem labelOf_addNote {repository : Repository} {text : JsString} {label : Label} {revision : Revision}
    (isLabel : Label.ofText? text = some label) :
    (repository.addNote text revision).labelOf = Function.update repository.labelOf revision (some label) := by
  funext other
  simp only [Repository.addNote, isLabel, Repository.labelOf, Keyed.get_put]
  by_cases same : revision = other
  · subst same
    simp
  · rw [if_neg same, Function.update_of_ne (Ne.symm same)]
    rfl

/-- What Git prints of a note, without the end of its line. -/
theorem trim_note (label : Label) : (label.val ++ [10]).trim = label.val := by
  obtain ⟨text, filled, trimmed⟩ := label
  have ends : text.Trimmed := trimmed ▸ trimmed_trim text
  have front : (text ++ [10]).dropWhile isWhiteSpace = text ++ [10] := by
    cases text with
    | nil => exact absurd rfl filled
    | cons unit rest => exact List.dropWhile_cons_of_neg (by simp [ends.1 unit rfl])
  have back : text.rdropWhile isWhiteSpace = text := by
    rw [List.rdropWhile_eq_self_iff]
    intro nonempty
    simp [ends.2 _ (List.getLast?_eq_some_getLast nonempty)]
  rw [JsString.trim, front, List.rdropWhile_concat_pos _ _ _ (by decide), back]

theorem trimEnd_message (message : Message) : trimEnd (message.val ++ [10]) = message.val := by
  rw [trimEnd, List.rdropWhile_concat_pos _ _ _ (by decide)]
  exact message.property

end Labels

section Reading

variable {request : PruneRequest} {start : State} {seen : Prop} {labels : Revision → Option Label}

/-- A state before the switch. `seen` is what holds of the history that is expected if HEAD is on it still. -/
structure Reached (request : PruneRequest) (start : State) (seen : Prop) (labels : Revision → Option Label)
    (s : State) : Prop where
  head : s.repository.head = s.others
  known : s.others ∈ start.heads
  later : ∀ moved ∈ s.meanwhile, moved ∈ start.meanwhile
  labelled : s.repository.labelOf = labels
  spared : ∀ revision ∈ start.active, labels revision = start.repository.labelOf revision
  seen : s.repository.head = request.expectedHeadHash → seen

theorem Reached.spares {s : State} (reached : Reached request start seen labels s) : Spares start s := by
  refine ⟨reached.head, fun revision active => ?_⟩
  rw [reached.labelled]
  exact reached.spared revision active

theorem Reached.and {fact : Prop} {s : State} (reached : Reached request start seen labels s)
    (also : s.repository.head = request.expectedHeadHash → fact) : Reached request start (seen ∧ fact) labels s :=
  { reached with seen := fun still => ⟨reached.seen still, also still⟩ }

theorem Reached.mono {fact : Prop} {s : State} (reached : Reached request start seen labels s)
    (imp : seen → fact) : Reached request start fact labels s :=
  { reached with seen := fun still => imp (reached.seen still) }

theorem Reached.opened {repository : Repository} {meanwhile : List (Option Revision)} :
    Reached request (.opened repository meanwhile) (repository.head = request.expectedHeadHash) repository.labelOf
      (.opened repository meanwhile) where
  head := rfl
  known := List.mem_cons_self
  later _ := id
  labelled := rfl
  spared _ _ := rfl
  seen := id

@[simp] theorem labelOf_meet (s : State) : s.meet.repository.labelOf = s.repository.labelOf := by
  unfold State.meet
  split <;> rfl

/-- Where HEAD is moved it is not where it is expected. -/
theorem Reached.meet {s : State} (apart : Apart request start) (reached : Reached request start seen labels s) :
    Reached request start seen labels s.meet := by
  unfold State.meet
  split
  · exact reached
  · rename_i later is
    exact { reached with later := fun moved isLater => reached.later moved (is ▸ List.mem_cons_of_mem _ isLater) }
  · rename_i moved later is
    have comes : some moved ∈ start.meanwhile := reached.later _ (is ▸ List.mem_cons_self)
    exact {
      head := rfl
      known := List.mem_cons_of_mem _ (List.reduceOption_mem_iff.2 comes)
      later := fun other isLater => reached.later other (is ▸ List.mem_cons_of_mem _ isLater)
      labelled := reached.labelled
      spared := reached.spared
      seen := fun still => absurd (congrArg some still) (apart.away _ comes) }

theorem bears_congr {first second : Repository} (same : first.labelOf = second.labelOf) (command : Command) :
    first.Bears request command ↔ second.Bears request command := by
  cases command <;> simp only [Repository.Bears, same]

/-- A command that changes nothing. -/
theorem wp_reads {command : Command} {s : State} (apart : Apart request start)
    (reads : ∀ repository, execute command repository = repository) (reached : Reached request start seen labels s) :
    wp device (Harmless request) (fun _ => True) (git command) (either
      (fun value s' => Reached request start seen labels s' ∧ answer s'.repository command = .ok value)
      (fun error s' => Reached request start seen labels s' ∧
        (answer s'.repository command = .error error ∨ s'.repository.Bears request command))) s := by
  have met := reached.meet apart
  refine ⟨fun _ => ?_, fun code extent _ harmless => ?_, fun _ _ => trivial⟩
  · have done : effect command .none s = s.meet := by simp only [effect, reads]
    show wp _ _ _ (orThrow (answer s.meet.repository command)) _ (effect command .none s)
    rw [done]
    cases answered : answer s.meet.repository command with
    | ok value => exact ⟨met, answered⟩
    | error error => exact ⟨met, Or.inl answered⟩
  · exact ⟨met, Or.inr ((bears_congr (labelOf_meet s) command).2 (harmless rfl))⟩

theorem wp_asks {command : Command} {s : State} (apart : Apart request start)
    (reads : ∀ repository, execute command repository = repository) (reached : Reached request start seen labels s) :
    wp device (Harmless request) (fun _ => True) (git command) (either
      (fun value s' => Reached request start seen labels s' ∧ answer s'.repository command = .ok value)
      (fun _ => Spares start)) s := by
  refine wp_mono (wp_reads apart reads reached) (fun result s' holds => ?_) fun _ => id
  cases result with
  | ok value => exact holds
  | error error => exact holds.1.spares

theorem wp_refuseIf {condition : Prop} [Decidable condition] {message : String} {s : State}
    (reached : Reached request start seen labels s) :
    wp device (Harmless request) (fun _ => True) (refuseIf condition message)
      (either (fun _ s' => s' = s ∧ ¬ condition) fun _ => Spares start) s := by
  unfold refuseIf
  split
  · exact reached.spares
  · rename_i passes
    exact ⟨rfl, passes⟩

theorem wp_ensureRepository {s : State} (apart : Apart request start) (ready : Option (Except String Unit))
    (reached : Reached request start seen labels s) :
    wp device (Harmless request) (fun _ => True) (ensureRepository ready)
      (either (fun _ => Reached request start seen labels) fun _ => Spares start) s := by
  have asks : ∀ command s', (∀ repository, execute command repository = repository) →
      Reached request start seen labels s' → wp device (Harmless request) (fun _ => True) (git command)
        (either (fun _ => Reached request start seen labels) fun _ => Spares start) s' := by
    intro command s' reads reached
    refine wp_mono (wp_asks apart reads reached) (fun result s'' holds => ?_) fun _ => id
    cases result with
    | ok value => exact holds.1
    | error error => exact holds
  cases ready with
  | some ready =>
    cases ready with
    | ok value => exact reached
    | error error => exact reached.spares
  | none =>
    refine wp_then (asks .mkdir s (fun _ => rfl) reached) fun _ s₁ reached => ?_
    refine (wp_catching _ _ _ _).2 (wp_mono (wp_reads apart (fun _ => rfl) reached) (fun result s₂ holds => ?_) fun _ => id)
    cases result with
    | ok value => exact holds.1
    | error error =>
      refine wp_then (asks .init s₂ (fun _ => rfl) holds.1) fun _ s₃ reached => ?_
      refine wp_then (asks _ s₃ (fun _ => rfl) reached) fun _ s₄ reached => ?_
      refine wp_then (asks _ s₄ (fun _ => rfl) reached) fun _ s₅ reached => ?_
      exact asks _ s₅ (fun _ => rfl) reached

/-- What is read of a revision, given the labels and the revisions that are listed as labelled. -/
def entryOf (labels : Revision → Option Label) (labeled : List Revision) (commit : Commit) (older : Revision) :
    RevisionEntry where
  hash := commit :: older
  createdAt := commit.committer.date.text
  subject := subjectLine commit.message
  label :=
    if commit :: older ∈ labeled then ((labels (commit :: older)).map Subtype.val).getD (subjectLine commit.message)
    else subjectLine commit.message
  isLabeled := commit :: older ∈ labeled
  appOwned := appOwned (.of commit older)
  author := commit.author
  committer := commit.committer
  message := commit.message.val

def entryOf? (labels : Revision → Option Label) (labeled : List Revision) : Revision → Option RevisionEntry
  | [] => none
  | commit :: older => some (entryOf labels labeled commit older)

theorem wp_labelFor {commit : Commit} {older : Revision} {s : State} (apart : Apart request start)
    (reached : Reached request start seen labels s) :
    wp device (Harmless request) (fun _ => True) (labelFor (commit :: older) (subjectLine commit.message)) (either
      (fun label s' => Reached request start seen labels s' ∧
        label = ((labels (commit :: older)).map Subtype.val).getD (subjectLine commit.message))
      (fun _ => Spares start)) s := by
  refine (wp_bind _ _ _ _).2 ((wp_catching _ _ _ _).2 ((wp_bind _ _ _ _).2 ?_))
  refine wp_mono (wp_reads apart (fun _ => rfl) reached) (fun result s' holds => ?_) fun _ => id
  cases result with
  | ok value =>
    obtain ⟨reached, printed⟩ := holds
    simp only [answer, reached.labelled] at printed
    cases has : labels (commit :: older) with
    | none => simp [has] at printed
    | some label =>
      simp only [has, Except.ok.injEq] at printed
      simp [← printed, trim_note, label.property.1, reached]
  | error error =>
    obtain ⟨reached, refused⟩ := holds
    refine ⟨reached, ?_⟩
    cases has : labels (commit :: older) with
    | none => rfl
    | some label =>
      rcases refused with missing | bears
      · simp [answer, reached.labelled, has] at missing
      · have same : label.val = subjectLine commit.message := bears label (by rw [reached.labelled, has]; rfl)
        simp [same]

theorem wp_readEntry {commit : Commit} {older : Revision} {labeled : List Revision} {s : State}
    (apart : Apart request start) (reached : Reached request start seen labels s) :
    wp device (Harmless request) (fun _ => True) (readEntry labeled (.of commit older)) (either
      (fun entry s' => Reached request start seen labels s' ∧ entry = entryOf labels labeled commit older)
      (fun _ => Spares start)) s := by
  have labelled : wp device (Harmless request) (fun _ => True)
      (if decide (commit :: older ∈ labeled) = true then labelFor (commit :: older) (subjectLine commit.message)
        else pure (subjectLine commit.message)) (either
      (fun label s' => Reached request start seen labels s' ∧ label = (entryOf labels labeled commit older).label)
      (fun _ => Spares start)) s := by
    by_cases listed : commit :: older ∈ labeled
    · rw [if_pos (decide_eq_true listed)]
      simpa only [entryOf, if_pos listed] using wp_labelFor apart reached
    · rw [if_neg (by simpa using listed)]
      simpa only [entryOf, if_neg listed] using ⟨reached, rfl⟩
  refine wp_then labelled fun label s' holds => ?_
  obtain ⟨reached, rfl⟩ := holds
  refine wp_then (wp_asks apart (fun _ => rfl) reached) fun message s'' holds => ?_
  obtain ⟨reached, printed⟩ := holds
  refine ⟨reached, ?_⟩
  simp only [LogRecord.of, answer, Except.ok.injEq] at printed
  simp only [← printed, trimEnd_message]
  rfl

theorem wp_readEntries {labeled : List Revision} {chosen : List Revision} {s : State}
    (apart : Apart request start) (reached : Reached request start seen labels s) :
    wp device (Harmless request) (fun _ => True) (readEntries labeled (chosen.filterMap LogRecord.of?)) (either
      (fun entries s' => Reached request start seen labels s' ∧ entries = chosen.filterMap (entryOf? labels labeled))
      (fun _ => Spares start)) s := by
  induction chosen generalizing s with
  | nil => exact ⟨reached, rfl⟩
  | cons revision chosen ih =>
    cases revision with
    | nil => exact ih reached
    | cons commit older =>
      refine wp_then (wp_readEntry apart reached) fun entry s' holds => ?_
      obtain ⟨reached, rfl⟩ := holds
      refine wp_then (ih reached) fun entries s'' holds => ?_
      obtain ⟨reached, rfl⟩ := holds
      exact ⟨reached, rfl⟩

/-- What the listing of notes came to: all of them, or none where that costs no label. -/
def Listed (request : PruneRequest) (repository : Repository) (labeled : List Revision) : Prop :=
  (∀ revision, revision ∈ labeled ↔ repository.labelOf revision ≠ none) ∨
    labeled = [] ∧ repository.Bears request .listNotes

theorem Listed.labelled {repository : Repository} {labeled : List Revision} {revision : Revision}
    (listed : Listed request repository labeled) (member : revision ∈ labeled) :
    ∃ label, repository.labelOf revision = some label := by
  rcases listed with all | ⟨rfl, _⟩
  · exact Option.ne_none_iff_exists'.1 ((all revision).1 member)
  · cases member

theorem wp_labeledCommits {s : State} (apart : Apart request start)
    (reached : Reached request start seen start.repository.labelOf s) :
    wp device (Harmless request) (fun _ => True) labeledCommits (either
      (fun labeled s' => Reached request start seen start.repository.labelOf s' ∧
        Listed request start.repository labeled)
      (fun _ => Spares start)) s := by
  refine (wp_catching _ _ _ _).2 (wp_mono (wp_reads apart (fun _ => rfl) reached) (fun result s' holds => ?_) fun _ => id)
  cases result with
  | ok value =>
    obtain ⟨reached, printed⟩ := holds
    simp only [answer, Except.ok.injEq] at printed
    refine ⟨reached, Or.inl fun revision => ?_⟩
    rw [← printed, mem_notes, reached.labelled]
  | error error =>
    obtain ⟨reached, refused⟩ := holds
    rcases refused with impossible | bears
    · cases impossible
    · exact ⟨reached, Or.inr ⟨rfl, (bears_congr reached.labelled _).1 bears⟩⟩

/-- What is read: nothing, or one of the histories that were active. -/
inductive Read (request : PruneRequest) (start : State) (seen complete : Prop) : List RevisionEntry → State → Prop where
  | nothing {s : State} (reached : Reached request start seen start.repository.labelOf s) :
      Read request start seen complete [] s
  | history {s : State} (head : Revision) (labeled : List Revision) (known : head ∈ start.heads)
      (exists_ : head ≠ []) (listed : Listed request start.repository labeled)
      (reached : Reached request start ((seen ∧ (complete → request.expectedHeadHash.length ≤ maximumManagedRevisionCount)) ∧
        head = request.expectedHeadHash) start.repository.labelOf s) :
      Read request start seen complete (((revisions head).take maximumManagedRevisionCount).filterMap
        (entryOf? start.repository.labelOf labeled)) s

theorem wp_revisionEntries {complete : Bool} {s : State} (apart : Apart request start)
    (reached : Reached request start seen start.repository.labelOf s) :
    wp device (Harmless request) (fun _ => True) (revisionEntries maximumManagedRevisionCount complete)
      (either (Read request start seen (complete = true)) fun _ => Spares start) s := by
  refine (wp_bind _ _ _ _).2 ((wp_attempt _ _ _).2 ?_)
  refine wp_mono (wp_reads apart (fun _ => rfl) reached) (fun result s₁ holds => ?_) fun _ => id
  cases result with
  | error error => exact .nothing holds.1
  | ok total =>
    obtain ⟨reached, printed⟩ := holds
    have counted : s₁.repository.head = request.expectedHeadHash → total = request.expectedHeadHash.length := by
      intro still
      simp only [answer] at printed
      split at printed
      · cases printed
      · rw [← still]
        exact (Except.ok.inj printed).symm
    refine wp_then (wp_refuseIf (reached.and counted)) fun _ s₂ holds => ?_
    obtain ⟨rfl, within⟩ := holds
    refine wp_then (wp_asks apart (fun _ => rfl) (reached.and counted)) fun records s₃ holds => ?_
    obtain ⟨reached, printed⟩ := holds
    simp only [answer] at printed
    split at printed
    · cases printed
    · rename_i exists_
      obtain rfl := Except.ok.inj printed
      have bounded : seen ∧ total = request.expectedHeadHash.length →
          seen ∧ (complete = true → request.expectedHeadHash.length ≤ maximumManagedRevisionCount) := by
        rintro ⟨seen, same⟩
        refine ⟨seen, fun isComplete => ?_⟩
        rw [← same]
        exact Nat.not_lt.1 fun above => within ⟨isComplete, above⟩
      have known := reached.known
      rw [← reached.head] at known
      refine wp_then (wp_labeledCommits apart ((reached.mono bounded).and id)) fun labeled s₄ holds => ?_
      obtain ⟨reached, listed⟩ := holds
      refine wp_mono (wp_readEntries apart reached) (fun result s₅ holds => ?_) fun _ => id
      cases result with
      | error error => exact holds
      | ok entries =>
        obtain ⟨reached, rfl⟩ := holds
        exact .history _ labeled known exists_ listed reached

end Reading

end HistoryRepository
