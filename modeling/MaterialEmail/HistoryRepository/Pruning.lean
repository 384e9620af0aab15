import MaterialEmail.HistoryRepository.Reading

/-! The history that `prune` makes: the preview that it repeats, the loop that copies what is kept, and the switch. -/
namespace HistoryRepository

open Interrupted JsString Lineage

section Previewing

variable {request : PruneRequest} {start : State} {cutoffAt : JsDate.TimeValue} {labels : Revision → Option Label}
  {labeled : List Revision}

theorem head?_entries {head : Revision} (exists_ : head ≠ []) :
    ((((revisions head).take maximumManagedRevisionCount).filterMap (entryOf? labels labeled)).head?.map
      fun entry => entry.hash) = some head := by
  cases head with
  | nil => exact absurd rfl exists_
  | cons commit older => rfl

/-- A selection of entries is one of the revisions that they are read from. -/
theorem hashes_filter {chosen : List Revision} {p : RevisionEntry → Bool} {q : Revision → Bool}
    (areRevisions : ∀ revision ∈ chosen, revision ≠ [])
    (same : ∀ commit older, commit :: older ∈ chosen → p (entryOf labels labeled commit older) = q (commit :: older)) :
    ((chosen.filterMap (entryOf? labels labeled)).filter p).map (fun entry => entry.hash) = chosen.filter q := by
  induction chosen with
  | nil => rfl
  | cons revision chosen ih =>
    have rest := ih (fun other member => areRevisions other (List.mem_cons_of_mem _ member))
      fun commit older member => same commit older (List.mem_cons_of_mem _ member)
    cases revision with
    | nil => exact absurd rfl (areRevisions [] List.mem_cons_self)
    | cons commit older =>
      have here := same commit older List.mem_cons_self
      have first : ((commit :: older) :: chosen).filterMap (entryOf? labels labeled) =
          entryOf labels labeled commit older :: chosen.filterMap (entryOf? labels labeled) := rfl
      rw [first, List.filter_cons, List.filter_cons, here]
      split
      · rw [List.map_cons, rest]
        rfl
      · exact rest

/-- What a preview of a whole history lists is what is eligible in it. -/
theorem eligible_of_preview {retentionDays : Int} {head : Revision} (exists_ : head ≠ [])
    (whole : head.length ≤ maximumManagedRevisionCount) (current : start.repository.head = head)
    (listed : Listed request start.repository labeled)
    (entries : List RevisionEntry)
    (areRead : entries = ((revisions head).take maximumManagedRevisionCount).filterMap
      (entryOf? start.repository.labelOf labeled))
    (expected : (preview retentionDays cutoffAt entries).eligibleRevisions.map LocalRevision.hash =
      request.expectedEligibleHashes)
    (owned : (preview retentionDays cutoffAt entries).blockedNonAppOwnedCount = 0) :
    request.expectedEligibleHashes = start.repository.eligible cutoffAt := by
  have all : (revisions head).take maximumManagedRevisionCount = revisions head :=
    List.take_of_length_le (by rw [length_revisions]; exact whole)
  have headHash : entries.head?.map (fun entry => entry.hash) = some head := by
    rw [areRead]
    exact head?_entries exists_
  rw [all] at areRead
  have allOwned : ∀ entry ∈ entries, entry.appOwned = true := by
    have none := List.length_eq_zero_iff.1 owned
    rw [List.filter_eq_nil_iff] at none
    intro entry member
    simpa using none entry member
  have selected : request.expectedEligibleHashes = (revisions head).filter fun revision =>
      decide (revision ≠ head ∧ revision ∉ labeled) && isOld cutoffAt revision := by
    rw [← expected]
    simp only [preview, headHash, List.map_map]
    rw [areRead]
    refine hashes_filter (fun revision => ne_nil_of_mem_revisions) fun commit older member => ?_
    have isOwned : (entryOf start.repository.labelOf labeled commit older).appOwned = true :=
      allOwned _ (areRead ▸ List.mem_filterMap.2 ⟨_, member, rfl⟩)
    simp only [isOwned]
    simp [entryOf, isOld]
  rw [selected, Repository.eligible, current]
  refine List.filter_congr fun revision member => ?_
  rcases listed with every | ⟨rfl, bears⟩
  · simp [every revision, Bool.and_assoc]
  · by_cases passes : revision ≠ head ∧ isOld cutoffAt revision = true
    · have unlabelled := bears.1 revision (by rw [selected]; exact List.mem_filter.2 ⟨member, by simp [passes]⟩)
      simp [passes, unlabelled]
    · rcases not_and_or.1 passes with current | recent
      · simp [not_not.1 current]
      · simp [recent]

theorem wp_checkedPreview {now : JsDate.TimeValue} {retentionDays : Int} {s : State} (apart : Apart request start)
    (reached : Reached request start (start.repository.head = request.expectedHeadHash) start.repository.labelOf s) :
    wp device (Harmless request) (fun _ => True) (checkedPreview request now cutoffAt retentionDays) (either
      (fun preview s' => preview.headHash = some request.expectedHeadHash ∧
        preview.eligibleRevisions.map LocalRevision.hash = request.expectedEligibleHashes ∧
        Reached request start (start.repository.head = request.expectedHeadHash ∧
          request.expectedHeadHash.length ≤ maximumManagedRevisionCount ∧
          request.expectedEligibleHashes = start.repository.eligible cutoffAt) start.repository.labelOf s')
      (fun _ => Spares start)) s := by
  refine wp_then (wp_refuseIf reached) fun _ s₁ holds => ?_
  obtain ⟨rfl, _⟩ := holds
  have reads : wp device (Harmless request) (fun _ => True) (previewAtCutoff retentionDays cutoffAt) (either
      (fun shown s' => ∃ entries, shown = preview retentionDays cutoffAt entries ∧
        Read request start (start.repository.head = request.expectedHeadHash) (true = true) entries s')
      (fun _ => Spares start)) s₁ :=
    wp_then (wp_revisionEntries apart reached) fun entries s₂ read => ⟨entries, rfl, read⟩
  refine wp_then reads fun shown s₂ holds => ?_
  obtain ⟨entries, rfl, read⟩ := holds
  cases read with
  | nothing reached =>
    refine wp_then (wp_refuseIf reached) fun _ s₃ holds => ?_
    exact absurd (Or.inl rfl) holds.2
  | history head labeled known exists_ listed reached =>
    refine wp_then (wp_refuseIf reached) fun _ s₃ holds => ?_
    obtain ⟨rfl, matches_⟩ := holds
    refine wp_then (wp_refuseIf reached) fun _ s₃ holds => ?_
    obtain ⟨rfl, expected⟩ := holds
    refine wp_then (wp_refuseIf reached) fun _ s₃ holds => ?_
    obtain ⟨rfl, owned⟩ := holds
    refine wp_then (wp_refuseIf reached) fun _ s₃ holds => ?_
    obtain ⟨rfl, _⟩ := holds
    rw [not_not] at expected owned
    refine ⟨not_not.1 (not_or.1 matches_).2, expected, reached.mono ?_⟩
    rintro ⟨⟨current, whole⟩, rfl⟩
    exact ⟨current, whole rfl, eligible_of_preview exists_ (whole rfl) current listed _ rfl expected owned⟩

end Previewing

section Rewriting

variable {request : PruneRequest} {start : State} {seen : Prop} {labels : Revision → Option Label}
  {labeled : List Revision}

theorem ne_nil_of_mem_retained {head revision : Revision} (member : revision ∈ retained request head) :
    revision ≠ [] := by
  have taken := List.mem_reverse.1 (List.mem_filter.1 member).1
  exact ne_nil_of_mem_revisions (List.mem_of_mem_take taken)

theorem filter_entries {chosen : List Revision} {removed : List Revision} :
    (chosen.filterMap (entryOf? labels labeled)).filter (fun entry => decide (entry.hash ∉ removed)) =
      (chosen.filter fun revision => decide (revision ∉ removed)).filterMap (entryOf? labels labeled) := by
  rw [List.filter_filterMap, List.filterMap_filter]
  refine List.filterMap_congr fun revision _ => ?_
  cases revision with
  | nil => simp [entryOf?]
  | cons commit older =>
    by_cases goes : commit :: older ∈ removed
    · simp [entryOf?, entryOf, goes]
    · simp [entryOf?, entryOf, goes]

theorem retained_entries (head : Revision) :
    (((revisions head).take maximumManagedRevisionCount).filterMap (entryOf? labels labeled)).reverse.filter
      (fun entry => decide (entry.hash ∉ request.expectedEligibleHashes)) =
      (retained request head).filterMap (entryOf? labels labeled) := by
  rw [← List.filterMap_reverse, filter_entries]
  rfl

theorem wp_addNote {text : JsString} {label : Label} {revision : Revision} {s : State} (apart : Apart request start)
    (isLabel : Label.ofText? text = some label)
    (safe : revision ∈ start.active → start.repository.labelOf revision = some label)
    (reached : Reached request start seen labels s) :
    wp device (Harmless request) (fun _ => True) (git (.addNote text revision)) (either
      (fun _ => Reached request start seen (Function.update labels revision (some label))) (fun _ => Spares start)) s := by
  have met := reached.meet apart
  refine ⟨fun _ => ?_, fun _ _ _ _ => met.spares, fun _ _ => trivial⟩
  have same : (s.meet.repository.addNote text revision).head = s.meet.repository.head := by
    simp only [Repository.addNote, isLabel]
  exact {
    head := same.trans met.head
    known := met.known
    later := met.later
    labelled := by
      have noted : (s.meet.repository.addNote text revision).labelOf =
          Function.update s.meet.repository.labelOf revision (some label) := labelOf_addNote isLabel
      rw [met.labelled] at noted
      exact noted
    spared := by
      intro other active
      by_cases is : other = revision
      · subst is
        rw [Function.update_self, safe active]
      · rw [Function.update_of_ne is]
        exact met.spared other active
    seen := fun still => met.seen (same.symm.trans still) }

/-- The labels after one pass of the loop. -/
def relabelled (start : State) (labeled : List Revision) (labels : Revision → Option Label) (revision copy : Revision) :
    Revision → Option Label :=
  if revision ∈ labeled then Function.update labels copy (start.repository.labelOf revision) else labels

theorem relabelled_of_ne {revision copy other : Revision} (differs : other ≠ copy) :
    relabelled start labeled labels revision copy other = labels other := by
  unfold relabelled
  split
  · exact Function.update_of_ne differs _ _
  · rfl

theorem wp_rewriteEntry {commit : Commit} {older parent : Revision} {s : State} (apart : Apart request start)
    (listed : Listed request start.repository labeled)
    (safe : commit :: parent ∈ start.active → start.repository.labelOf (commit :: older) ≠ none →
      start.repository.labelOf (commit :: parent) = start.repository.labelOf (commit :: older))
    (reached : Reached request start seen labels s) :
    wp device (Harmless request) (fun _ => True)
      (rewriteEntry parent (entryOf start.repository.labelOf labeled commit older)) (either
        (fun rewritten s' => rewritten = commit :: parent ∧
          Reached request start seen (relabelled start labeled labels (commit :: older) (commit :: parent)) s')
        (fun _ => Spares start)) s := by
  refine wp_then (wp_asks apart (fun _ => rfl) reached) fun tree s₁ holds => ?_
  obtain ⟨reached, treeIs⟩ := holds
  refine wp_then (wp_asks apart (fun _ => rfl) reached) fun rewritten s₂ holds => ?_
  obtain ⟨reached, rewrittenIs⟩ := holds
  simp only [entryOf, answer, Except.ok.injEq] at treeIs rewrittenIs
  rw [Message.ofText_val, ← treeIs] at rewrittenIs
  subst rewrittenIs
  have noted : wp device (Harmless request) (fun _ => True)
      (onlyIf (decide (commit :: older ∈ labeled))
        (git (.addNote (entryOf start.repository.labelOf labeled commit older).label (commit :: parent)))) (either
      (fun _ => Reached request start seen (relabelled start labeled labels (commit :: older) (commit :: parent)))
      (fun _ => Spares start)) s₂ := by
    by_cases member : commit :: older ∈ labeled
    · obtain ⟨label, has⟩ := listed.labelled member
      have written : (entryOf start.repository.labelOf labeled commit older).label = label.val := by
        simp [entryOf, member, has]
      have carried : commit :: parent ∈ start.active → start.repository.labelOf (commit :: parent) = some label := by
        intro active
        rw [safe active (by simp [has]), has]
      rw [written, onlyIf, if_pos (decide_eq_true member), relabelled, if_pos member, has]
      exact wp_addNote apart (Label.ofText?_val label) carried reached
    · rw [onlyIf, if_neg (by simpa using member), relabelled, if_neg member]
      exact reached
  refine wp_then noted fun _ s₃ reached => ?_
  exact ⟨rfl, reached⟩

/-- The loop: each copy comes to have the label of its revision, and nothing shorter is touched. -/
theorem wp_rewriteEntries {chosen : List Revision} {parent : Revision} {s : State} (apart : Apart request start)
    (listed : Listed request start.repository labeled)
    (areRevisions : ∀ revision ∈ chosen, revision ≠ [])
    (safe : ∀ pair ∈ copies parent chosen, pair.2 ∈ start.active → start.repository.labelOf pair.1 ≠ none →
      start.repository.labelOf pair.2 = start.repository.labelOf pair.1)
    (fresh : ∀ revision : Revision, parent.length < revision.length → labels revision = start.repository.labelOf revision)
    (reached : Reached request start seen labels s) :
    wp device (Harmless request) (fun _ => True)
      (rewriteEntries parent (chosen.filterMap (entryOf? start.repository.labelOf labeled))) (either
        (fun rewritten s' => rewritten = chosen.foldl onto parent ∧ ∃ labels', Reached request start seen labels' s' ∧
          (∀ revision : Revision, revision.length ≤ parent.length → labels' revision = labels revision) ∧
          ((∀ pair ∈ copies parent chosen, pair.1 ∉ labeled →
              start.repository.labelOf pair.2 = start.repository.labelOf pair.1) →
            ∀ pair ∈ copies parent chosen, labels' pair.2 = start.repository.labelOf pair.1))
        (fun _ => Spares start)) s := by
  induction chosen generalizing parent labels s with
  | nil => exact ⟨rfl, labels, reached, fun _ _ => rfl, fun _ pair member => absurd member List.not_mem_nil⟩
  | cons revision chosen ih =>
    cases revision with
    | nil => exact absurd rfl (areRevisions [] List.mem_cons_self)
    | cons commit older =>
      have pairs : copies parent ((commit :: older) :: chosen) =
          (commit :: older, commit :: parent) :: copies (commit :: parent) chosen := rfl
      rw [pairs] at safe ⊢
      obtain ⟨safeHere, safeLater⟩ := List.forall_mem_cons.1 safe
      refine wp_then (wp_rewriteEntry apart listed safeHere reached) fun rewritten s₁ holds => ?_
      obtain ⟨rfl, reached⟩ := holds
      have freshLater : ∀ revision : Revision, (commit :: parent).length < revision.length →
          relabelled start labeled labels (commit :: older) (commit :: parent) revision =
            start.repository.labelOf revision := by
        intro revision longer
        have differs : revision ≠ commit :: parent := fun same => by simp [same] at longer
        rw [relabelled_of_ne differs]
        exact fresh revision (by simp at longer; omega)
      refine wp_mono (ih (fun other member => areRevisions other (List.mem_cons_of_mem _ member)) safeLater
        freshLater reached) (fun result s₂ holds => ?_) fun _ => id
      cases result with
      | error error => exact holds
      | ok rewritten =>
        obtain ⟨rfl, labels', reached, shorter, carries⟩ := holds
        refine ⟨rfl, labels', reached, fun revision short => ?_, fun copied => ?_⟩
        · have differs : revision ≠ commit :: parent := fun same => by simp [same] at short
          rw [shorter revision (by simp; omega), relabelled_of_ne differs]
        · obtain ⟨copiedHere, copiedLater⟩ := List.forall_mem_cons.1 copied
          refine List.forall_mem_cons.2 ⟨?_, carries copiedLater⟩
          rw [shorter _ le_rfl, relabelled]
          split
          · exact Function.update_self _ _ _
          · rename_i unlisted
            rw [fresh _ (Nat.lt_succ_self _)]
            exact copiedHere unlisted

end Rewriting

section Switching

variable {request : PruneRequest} {start : State} {seen : Prop} {labels : Revision → Option Label}

theorem wp_switchTo {rewritten : Revision} {s : State} (apart : Apart request start)
    (reached : Reached request start seen labels s) :
    wp device (Harmless request) (fun _ => True) (switchTo rewritten request.expectedHeadHash) (either
      (fun _ s' => seen ∧ rewritten ≠ [] ∧ s'.repository.head = rewritten ∧ s'.repository.labelOf = labels ∧
        rewritten.head?.map Commit.tree = request.expectedHeadHash.head?.map Commit.tree)
      (fun _ => Spares start)) s := by
  have treeOf : ∀ {revision : Revision} {repository : Repository} {tree : JsString},
      answer repository (.treeOf revision) = .ok tree → revision.head?.map Commit.tree = some tree := by
    intro revision repository tree printed
    cases revision with
    | nil => cases printed
    | cons commit older => exact congrArg some (Except.ok.inj printed)
  refine wp_then (wp_refuseIf reached) fun _ s₁ holds => ?_
  obtain ⟨rfl, exists_⟩ := holds
  refine wp_then (wp_asks apart (fun _ => rfl) reached) fun previousTree s₂ holds => ?_
  obtain ⟨reached, previousIs⟩ := holds
  refine wp_then (wp_asks apart (fun _ => rfl) reached) fun rewrittenTree s₃ holds => ?_
  obtain ⟨reached, rewrittenIs⟩ := holds
  refine wp_then (wp_refuseIf reached) fun _ s₄ holds => ?_
  obtain ⟨rfl, sameTree⟩ := holds
  refine wp_then (wp_asks apart (fun _ => rfl) reached) fun currentHead s₅ holds => ?_
  obtain ⟨reached, _⟩ := holds
  refine wp_then (wp_refuseIf reached) fun _ s₆ holds => ?_
  obtain ⟨rfl, _⟩ := holds
  refine wp_then (wp_asks apart (fun _ => rfl) reached) fun headReference s₇ holds => ?_
  obtain ⟨reached, _⟩ := holds
  refine wp_then (wp_refuseIf reached) fun _ s₈ holds => ?_
  obtain ⟨rfl, _⟩ := holds
  -- the branch moves only if HEAD is where it is expected at this very command
  have met := reached.meet apart
  refine ⟨fun _ => ?_, fun _ _ _ _ => met.spares, fun _ _ => trivial⟩
  by_cases moves : s₈.meet.repository.moves headReference request.expectedHeadHash = true
  · have still : s₈.meet.repository.head = request.expectedHeadHash := by
      simp only [Repository.moves, Bool.and_eq_true, decide_eq_true_eq] at moves
      exact moves.2
    have answered : answer s₈.meet.repository (.updateRef headReference rewritten request.expectedHeadHash) = .ok () :=
      if_pos moves
    have moved : effect (.updateRef headReference rewritten request.expectedHeadHash) .none s₈ =
        { s₈.meet with repository := { s₈.meet.repository with head := rewritten } } := by
      simp only [effect, execute, if_pos moves]
    show wp _ _ _ (orThrow (answer s₈.meet.repository _)) _ (effect _ .none s₈)
    rw [answered, moved]
    refine ⟨met.seen still, exists_, rfl, met.labelled, ?_⟩
    rw [treeOf rewrittenIs, treeOf previousIs, not_not.1 sameTree]
  · have answered : ∃ error, answer s₈.meet.repository (.updateRef headReference rewritten request.expectedHeadHash) =
        .error error := ⟨_, if_neg moves⟩
    have stayed : effect (.updateRef headReference rewritten request.expectedHeadHash) .none s₈ = s₈.meet := by
      simp only [effect, execute, if_neg moves]
    obtain ⟨error, answered⟩ := answered
    show wp _ _ _ (orThrow (answer s₈.meet.repository _)) _ (effect _ .none s₈)
    rw [answered, stayed]
    exact met.spares

end Switching

section Outcome

variable {request : PruneRequest} {repository : Repository} {meanwhile : List (Option Revision)}

/-- The history and the labels that the loop and the switch leave. -/
theorem prunes_of_copies {cutoffAt : JsDate.TimeValue} {after : Repository} {labels : Revision → Option Label}
    (current : repository.head = request.expectedHeadHash)
    (whole : request.expectedHeadHash.length ≤ maximumManagedRevisionCount)
    (eligible : request.expectedEligibleHashes = repository.eligible cutoffAt)
    (head : after.head = (retained request request.expectedHeadHash).foldl onto [])
    (labelled : after.labelOf = labels)
    (carries : ∀ pair ∈ copied request request.expectedHeadHash, labels pair.2 = repository.labelOf pair.1)
    (tree : after.head.head?.map Commit.tree = request.expectedHeadHash.head?.map Commit.tree) :
    Prunes cutoffAt repository after := by
  have kept : (retained request request.expectedHeadHash).reverse = repository.kept cutoffAt := by
    rw [retained, List.take_of_length_le (by rw [length_revisions]; exact whole), ← List.filter_reverse,
      List.reverse_reverse, eligible, ← current]
    rfl
  refine ⟨?_, ?_, ?_⟩
  · rw [head, foldl_onto, List.append_nil, kept]
  · rw [head, labelled, map_copies (fun _ => ne_nil_of_mem_retained) carries, kept]
  · rw [tree, current]

theorem wp_prune {ready : Option (Except String Unit)} {now : JsDate.TimeValue}
    (apart : Apart request (.opened repository meanwhile)) :
    wp device (Harmless request) (fun _ => True) (prune ready request now) (either
      (fun _ after => ∃ cutoffAt ∈ request.cutoffAt, Prunes cutoffAt repository after.repository)
      (fun _ => Spares (.opened repository meanwhile))) (.opened repository meanwhile) := by
  refine wp_then (wp_ensureRepository apart ready Reached.opened) fun _ s₁ reached => ?_
  have normalized : wp device (Harmless request) (fun _ => True) (normalizeRetentionDays request.retentionDays)
      (either (fun _ s' => s' = s₁) fun _ => Spares (.opened repository meanwhile)) s₁ := by
    unfold normalizeRetentionDays
    split
    · split
      · exact reached.spares
      · exact rfl
    · exact reached.spares
  refine wp_then normalized fun retentionDays s₂ is => ?_
  subst is
  cases given : request.cutoffAt with
  | none => exact reached.spares
  | some cutoffAt =>
    refine wp_then (wp_checkedPreview apart reached) fun shown s₃ holds => ?_
    obtain ⟨headHash, hashes, reached⟩ := holds
    refine wp_then (wp_asks apart (fun _ => rfl) reached) fun worktreeStatus s₄ holds => ?_
    refine wp_then (wp_refuseIf holds.1) fun _ s₅ clean => ?_
    obtain ⟨rfl, _⟩ := clean
    refine wp_then (wp_revisionEntries apart holds.1) fun entries s₆ read => ?_
    simp only [hashes, headHash, Option.getD_some]
    cases read with
    | nothing reached =>
      have nothing : wp device (Harmless request) (fun _ => True) (rewriteEntries [] []) (either
          (fun rewritten s' => rewritten = [] ∧ s' = s₆) fun _ => Spares (.opened repository meanwhile)) s₆ := ⟨rfl, rfl⟩
      refine wp_then nothing fun rewritten s₇ holds => ?_
      obtain ⟨rfl, rfl⟩ := holds
      refine wp_then (wp_switchTo apart reached) fun _ s₈ switched => ?_
      exact absurd rfl switched.2.1
    | history head labeled known exists_ listed reached =>
      rw [retained_entries]
      have fresh : ∀ revision : Revision, ([] : Revision).length < revision.length →
          repository.labelOf revision = repository.labelOf revision := fun _ _ => rfl
      refine wp_then (wp_rewriteEntries apart listed (fun _ => ne_nil_of_mem_retained)
        (fun pair isCopied => apart.labelled pair (List.mem_flatMap.2 ⟨head, known, isCopied⟩)) fresh reached)
        fun rewritten s₇ holds => ?_
      obtain ⟨rfl, labels', reached, _, carries⟩ := holds
      refine wp_then (wp_switchTo apart reached) fun _ s₈ switched => ?_
      obtain ⟨⟨⟨⟨current, whole, eligible⟩, _⟩, rfl⟩, _, moved, labelled, tree⟩ := switched
      refine ⟨cutoffAt, rfl, prunes_of_copies current whole eligible moved labelled (carries ?_) (moved ▸ tree)⟩
      intro pair isCopied unlisted
      by_cases has : repository.labelOf pair.1 = none
      · exact (apart.unlabelled pair isCopied has).trans has.symm
      · rcases listed with every | ⟨_, bears⟩
        · exact absurd ((every pair.1).2 has) unlisted
        · exact bears.2 pair isCopied has

/-- A run in which no reading loses a label and no copy takes one of another revision prunes exactly what is eligible,
or leaves the history and its labels as they are. -/
theorem prune_correct (ready : Option (Except String Unit)) (request : PruneRequest) (now : JsDate.TimeValue)
    (repository : Repository) (meanwhile : List (Option Revision)) (faults : List (Fault String))
    (apart : Apart request (.opened repository meanwhile))
    (meets : Meets device (Harmless request) (prune ready request now) faults (.opened repository meanwhile)) :
    Correct request (.opened repository meanwhile)
      (run device (prune ready request now) faults (.opened repository meanwhile)) := by
  have sound := wp_sound (wp_prune apart) meets
  generalize run device (prune ready request now) faults (.opened repository meanwhile) = result at sound
  obtain ⟨outcome, after⟩ := result
  constructor
  · rintro result rfl
    exact sound
  · rintro error rfl
    exact sound

def signed (seconds : Int) : Signature := ⟨JsString.ofString "Material Email", snapshotIdentityEmail, ⟨seconds, 480⟩⟩

def snapshotAt (tree : String) (seconds : Int) : Commit :=
  ⟨JsString.ofString tree, .ofText snapshotSubject, signed seconds, signed seconds⟩

def snapshots : Revision :=
  [snapshotAt "d" 1700000000, snapshotAt "c" 1500000000, snapshotAt "b" 1400000000, snapshotAt "a" 1300000000]

/-- Four snapshots, of which the second has a label. -/
def beforeImport : Repository :=
  ⟨snapshots, some "refs/heads/main", [⟨snapshots.drop 2, ⟨JsString.ofString "Before import", by decide⟩⟩], []⟩

def lastYear : PruneRequest :=
  ⟨.finite 365, some ⟨1600000000000, by decide⟩, snapshots, [snapshots.drop 1, snapshots.drop 3]⟩

def today : JsDate.TimeValue := ⟨1720000000000, by decide⟩

theorem beforeImport_apart : Apart lastYear (.opened beforeImport []) := by decide

theorem beforeImport_pruned : Correct lastYear (.opened beforeImport [])
    (run device (prune none lastYear today) [.none, .fail "spawn" .before] (.opened beforeImport [])) := by
  have meets : Meets device (Harmless lastYear) (prune none lastYear today) [.none, .fail "spawn" .before]
      (.opened beforeImport []) := by decide +kernel
  exact prune_correct none lastYear today beforeImport [] _ beforeImport_apart meets

/-- The fault of the second listing of notes. -/
def unlisted : List (Fault String) := List.replicate 13 .none ++ [.fail "spawn" .before]

/-- Without the second listing of notes the label is lost. -/
theorem beforeImport_unlabelled : ¬ Correct lastYear (.opened beforeImport [])
    (run device (prune none lastYear today) unlisted (.opened beforeImport [])) := by
  decide +kernel

end Outcome

end HistoryRepository
