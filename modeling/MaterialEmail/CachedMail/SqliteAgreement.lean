import MaterialEmail.CachedMail.IndexContents
import MaterialEmail.CachedMail.SqliteIndex

/-! The index in the database is never anything but a copy: whatever fails and wherever a crash strikes, a search finds
what it would find in an index made anew. -/
namespace CachedMail

open Interrupted JsString Transactional

variable (host : SqliteHost)

section Copies

def rowsOf (index : CachedMailIndex) : List Row := index.documents.zipIdx.map rowOf

/-- The tables as `#writeIndex` leaves them. -/
def indexTables (source : CachedMailIndexSource) (index : CachedMailIndex) : Tables where
  schemaMeta := some (metaRows index (fingerprintSource host source))
  documents := some (rowsOf index)

theorem performAll_documents (documents : List CachedMailIndexDocument) (stored : Option (List (JsString × JsString)))
    (rows : List Row) (count : Nat) (before : ∀ row ∈ rows, row.position < count) :
    engine.performAll ((documents.zipIdx count).map fun entry => .insertDocument (rowOf entry)) ⟨stored, some rows⟩ =
      some ⟨stored, some (rows ++ (documents.zipIdx count).map rowOf)⟩ := by
  induction documents generalizing rows count with
  | nil => simp [Engine.performAll]
  | cons document documents ih =>
    have unused : ∀ row ∈ rows, row.position ≠ (rowOf (document, count)).position :=
      fun row member => Nat.ne_of_lt (before row member)
    have inserted : engine.perform (.insertDocument (rowOf (document, count))) ⟨stored, some rows⟩ =
        some ⟨stored, some (rows ++ [rowOf (document, count)])⟩ := by
      simpa [engine, perform] using unused
    have before' : ∀ row ∈ rows ++ [rowOf (document, count)], row.position < count + 1 := by
      intro row member
      rcases List.mem_append.1 member with old | new
      · exact Nat.lt_succ_of_lt (before row old)
      · rw [List.mem_singleton.1 new]
        exact Nat.lt_succ_self count
    simp only [List.zipIdx_cons, List.map_cons, Engine.performAll, inserted, Option.bind_some]
    rw [ih _ _ before', List.append_assoc, List.singleton_append]

theorem performAll_meta (rows old : List (JsString × JsString)) (documents : Option (List Row))
    (distinct : ((old ++ rows).map Prod.fst).Nodup) :
    engine.performAll (rows.map fun row => .insertMeta row.1 row.2) ⟨some old, documents⟩ =
      some ⟨some (old ++ rows), documents⟩ := by
  induction rows generalizing old with
  | nil => simp [Engine.performAll]
  | cons row rows ih =>
    have unused : ∀ value, (row.1, value) ∉ old := by
      rw [List.map_append, List.map_cons] at distinct
      have apart := (List.nodup_append.1 distinct).2.2
      exact fun value member => apart _ (List.mem_map_of_mem member) _ List.mem_cons_self rfl
    have inserted : engine.perform (.insertMeta row.1 row.2) ⟨some old, documents⟩ =
        some ⟨some (old ++ [row]), documents⟩ := by
      simpa [engine, perform] using unused
    simp only [List.map_cons, Engine.performAll, inserted, Option.bind_some]
    rw [ih _ (by rwa [List.append_assoc, List.singleton_append]), List.append_assoc, List.singleton_append]

theorem metaKeys_distinct (index : CachedMailIndex) (fingerprint : JsString) :
    ((metaRows index fingerprint).map Prod.fst).Nodup := by
  have distinct : [metaSchemaVersionKey, metaFingerprintKey, metaDocumentLimitReachedKey].Nodup := by decide
  exact distinct

/-- Whatever the tables were before, they come to be those of the index. -/
theorem performAll_write (source : CachedMailIndexSource) (index : CachedMailIndex) (tables : Tables) :
    engine.performAll (writeStatements index (fingerprintSource host source)) tables = some (indexTables host source index) := by
  have cleared : engine.performAll
      [.dropDocuments, .dropSchemaMeta, .createSchemaMeta, .createDocuments, .createIndex, .createIndex, .prepareDocument]
      tables = some ⟨some [], some []⟩ := rfl
  have prepared (rows : List Row) (rest : List Statement) : engine.performAll (.prepareMeta :: rest) ⟨some [], some rows⟩ =
      engine.performAll rest ⟨some [], some rows⟩ := rfl
  rw [writeStatements, List.append_assoc, performAll_append, cleared, Option.bind_some, performAll_append,
    performAll_documents _ _ _ _ (fun row member => by cases member), Option.bind_some, prepared,
    performAll_meta _ _ _ (metaKeys_distinct index _)]
  rfl

theorem metaOf_metaRows (index : CachedMailIndex) (fingerprint : JsString) :
    metaOf host (metaRows index fingerprint) =
      (host.toInteger (ofString "1")).map fun version => ⟨version, fingerprint, index.documentLimitReached⟩ := by
  have version : mapGet (metaRows index fingerprint) metaSchemaVersionKey = some (ofString "1") := by
    simp [mapGet, metaRows, List.lookup_cons, show (metaSchemaVersionKey == metaDocumentLimitReachedKey) = false by decide,
      show (metaSchemaVersionKey == metaFingerprintKey) = false by decide]
  have print : mapGet (metaRows index fingerprint) metaFingerprintKey = some fingerprint := by
    simp [mapGet, metaRows, List.lookup_cons, show (metaFingerprintKey == metaDocumentLimitReachedKey) = false by decide]
  have limit : mapGet (metaRows index fingerprint) metaDocumentLimitReachedKey =
      some (if index.documentLimitReached then ofString "1" else ofString "0") := by
    simp [mapGet, metaRows]
  have flag : decide ((if index.documentLimitReached then ofString "1" else ofString "0") = ofString "1") =
      index.documentLimitReached := by
    cases index.documentLimitReached <;> decide
  simp only [metaOf, version, print, limit, Option.bind_eq_bind, Option.bind_some, Option.pure_def, flag]
  cases host.toInteger (ofString "1") <;> rfl

theorem readDocument_rowOf (entry : CachedMailIndexDocument × Nat) : readDocument (rowOf entry).payload = some entry.1 :=
  documentCodec.parse_stringify entry.1

theorem parseDocuments_rowsOf (index : CachedMailIndex) (documentLimitReached : Bool) :
    parseDocuments documentLimitReached
      (((rowsOf index).mergeSort fun left right => left.position ≤ right.position).map (·.payload)) =
        .done ⟨index.documents, documentLimitReached⟩ := by
  have ordered : (rowsOf index).Pairwise fun left right => decide (left.position ≤ right.position) = true := by
    have increasing : (index.documents.zipIdx.map Prod.snd).Pairwise (· < ·) := by
      rw [List.zipIdx_map_snd]
      exact List.pairwise_lt_range'
    simp only [rowsOf, List.pairwise_map, decide_eq_true_eq] at increasing ⊢
    exact increasing.imp fun less => Nat.le_of_lt less
  rw [parseDocuments, List.mergeSort_of_pairwise ordered, rowsOf, List.map_map]
  have each (entries : List (CachedMailIndexDocument × Nat)) :
      (entries.map ((·.payload) ∘ rowOf)).mapM readDocument = some (entries.map Prod.fst) := by
    induction entries with
    | nil => rfl
    | cons entry entries ih => simp [readDocument_rowOf, ih]
  rw [each, List.zipIdx_map_fst]

end Copies

section Soundness

/-- What the tables say of themselves, where they are of this version. -/
def Claims (tables : Tables) (stored : StoredMeta) : Prop :=
  tables.schemaMeta.bind (metaOf host) = some stored ∧ stored.schemaVersion = cachedMailSqliteSchemaVersion

/-- A file that claims to be an index is one of a source that was asked about. -/
def Sound (asked : CachedMailIndexSource → Prop) (file : DatabaseFile Tables) : Prop :=
  ∀ tables stored, file = .holds tables → Claims host tables stored →
    ∃ source index, asked source ∧ createCachedMailIndex host.toHost source = .ok index ∧
      tables = indexTables host source index

/-- Of the sources that are asked about, no two different texts have one fingerprint. -/
def Apart (asked : CachedMailIndexSource → Prop) : Prop :=
  ∀ source source', asked source → asked source' → fingerprintSource host source = fingerprintSource host source' →
    sourceText source = sourceText source'

variable {host} {asked : CachedMailIndexSource → Prop} {source : CachedMailIndexSource} {s : State Tables}

theorem Apart.source_eq (apart : Apart host asked)
    {source' : CachedMailIndexSource} (one : asked source) (other : asked source')
    (same : fingerprintSource host source = fingerprintSource host source') : source = source' :=
  sourceCodec.injective (Json.stringify_injective (apart source source' one other same))

theorem sound_empty : Sound host asked (.holds engine.empty) := by
  rintro tables stored is ⟨has, _⟩
  obtain rfl := DatabaseFile.holds.inj is
  cases has

theorem sound_missing : Sound host asked .missing := fun _ _ is => nomatch is

theorem sound_committed {index : CachedMailIndex} {file file' : DatabaseFile Tables} (isAsked : asked source)
    (made : createCachedMailIndex host.toHost source = .ok index)
    (committed : Committed engine (writeStatements index (fingerprintSource host source)) file file') :
    file' = .holds (indexTables host source index) ∧ Sound host asked file' := by
  obtain ⟨tables, tables', _, performed, rfl⟩ := committed
  rw [performAll_write, Option.some.injEq] at performed
  subst performed
  refine ⟨rfl, fun tables stored is _ => ⟨source, index, isAsked, made, ?_⟩⟩
  exact (DatabaseFile.holds.inj is).symm

theorem create_ok {index : CachedMailIndex} (ok : create host source = .ok index) :
    createCachedMailIndex host.toHost source = .ok index := by
  unfold create at ok
  cases made : createCachedMailIndex host.toHost source with
  | error failure => rw [made] at ok; cases ok
  | ok fresh => rw [made] at ok; cases ok; rfl

theorem sound_happen_connect (sound : Sound host asked s.file) : Sound host asked (happen engine .connect s).file := by
  unfold happen
  cases found : s.file with
  | missing => exact sound_empty
  | unreadable => exact fun _ _ is => nomatch found.symm.trans is
  | holds tables => exact sound

theorem pending_happen_connect : (happen engine .connect s).pending = none := by
  unfold happen
  cases s.file <;> rfl

theorem quiet_always {ε : Type} {error : ε} {op : Op Query Statement} (sound : Sound host asked s.file)
    (kept : Sound host asked (happen engine op s).file) :
    always engine (fun s' => Sound host asked s'.file) (ask engine error op)
      (fun _ s' => Sound host asked s'.file) s := by
  have either_ : ∀ s', s' = s ∨ s' = happen engine op s → Sound host asked s'.file := by
    rintro s' (rfl | rfl)
    · exact sound
    · exact kept
  apply ask_always
  · exact fun _ _ => kept
  · exact either_
  · exact either_

theorem readMeta_always (sound : Sound host asked s.file) (idle : s.pending = none) :
    always engine (fun s' => Sound host asked s'.file) (readMeta host)
      (either (fun stored s' => s' = s ∧ ∀ given, stored = some given →
        ∃ tables, s.file = .holds tables ∧ tables.schemaMeta.bind (metaOf host) = some given) fun _ _ => False) s := by
  have still : happen engine (.query .schemaMeta) s = s := rfl
  have same : ∀ s', s' = s ∨ s' = happen engine (.query .schemaMeta) s → s' = s := by
    rintro s' (rfl | rfl) <;> rfl
  apply (wp_catching _ _ _ _).2
  apply wp_seq
  apply ask_always
  · intro rows found
    refine ⟨still, fun given is => ?_⟩
    rw [reply, State.tables_idle idle, Option.bind_eq_some_iff] at found
    obtain ⟨tables, held, answered⟩ := found
    have answered : tables.schemaMeta = some rows := answered
    exact ⟨tables, DatabaseFile.tables_eq_some.1 held, by rw [answered]; exact is⟩
  · intro s' is
    refine ⟨same s' is, fun stored given => ?_⟩
    cases given
  · intro s' is
    rw [same s' is]
    exact sound

theorem readDocuments_always {index : CachedMailIndex} (sound : Sound host asked s.file) (idle : s.pending = none)
    (held : s.file = .holds (indexTables host source index)) :
    always engine (fun s' => Sound host asked s'.file) (readDocuments index.documentLimitReached)
      (either (fun found s' => found = index ∧ Sound host asked s'.file) fun _ s' => Sound host asked s'.file) s := by
  have same : ∀ s', s' = s ∨ s' = happen engine (.query .documents) s → Sound host asked s'.file := by
    rintro s' (rfl | rfl) <;> exact sound
  have parsed : always engine (fun s' => Sound host asked s'.file)
      (parseDocuments index.documentLimitReached
        (((rowsOf index).mergeSort fun left right => left.position ≤ right.position).map (·.payload)))
      (either (fun found s' => found = index ∧ Sound host asked s'.file) fun _ s' => Sound host asked s'.file) s := by
    rw [parseDocuments_rowsOf]
    exact ⟨rfl, sound⟩
  apply wp_seq
  apply ask_always
  · intro payloads found
    rw [reply, State.tables_idle idle, held, DatabaseFile.tables, Option.bind_some] at found
    obtain rfl := Option.some.inj found
    exact parsed
  · exact same
  · exact same

theorem writeIndex_always {index : CachedMailIndex} (isAsked : asked source) (sound : Sound host asked s.file)
    (made : createCachedMailIndex host.toHost source = .ok index) :
    always engine (fun s' => Sound host asked s'.file) (writeIndex index (fingerprintSource host source))
      (either (fun _ s' => Sound host asked s'.file ∧ s'.file = .holds (indexTables host source index))
        fun _ s' => Sound host asked s'.file) s := by
  have left : ∀ s' : State Tables, s'.file = s.file ∨
      Committed engine (writeStatements index (fingerprintSource host source)) s.file s'.file →
        Sound host asked s'.file := by
    rintro s' (same | committed)
    · exact same ▸ sound
    · exact (sound_committed isAsked made committed).2
  refine wp_mono (transaction_always _ rfl) (fun ended s' holds => ?_) left
  cases ended with
  | ok _ => exact (sound_committed isAsked made holds).symm
  | error thrown => exact left s' holds

theorem writeFresh_always (isAsked : asked source) (sound : Sound host asked s.file) :
    always engine (fun s' => Sound host asked s'.file) (writeFresh host source)
      (either (fun found s' => createCachedMailIndex host.toHost source = .ok found ∧ Sound host asked s'.file)
        fun _ s' => Sound host asked s'.file) s := by
  apply wp_seq
  cases fresh : create host source with
  | error failure => exact sound
  | ok index =>
    apply then_always (writeIndex_always isAsked sound (create_ok fresh))
    intro ended s' holds
    cases ended with
    | ok _ => exact ⟨create_ok fresh, holds.1⟩
    | error thrown => exact holds

/-- What is made anew, and what is trusted, is the index of the source. -/
theorem loadOrWrite_always (apart : Apart host asked) (isAsked : asked source) (sound : Sound host asked s.file)
    (idle : s.pending = none) :
    always engine (fun s' => Sound host asked s'.file) (loadOrWrite host source)
      (either (fun found s' => createCachedMailIndex host.toHost source = .ok found ∧ Sound host asked s'.file)
        fun _ s' => Sound host asked s'.file) s := by
  apply then_always (readMeta_always sound idle)
  intro ended s' holds
  cases ended with
  | error thrown => exact holds.elim
  | ok stored =>
    obtain ⟨rfl, claims⟩ := holds
    cases stored with
    | none => exact writeFresh_always isAsked sound
    | some stored =>
      obtain ⟨tables, held, is⟩ := claims stored rfl
      simp only [either_ok]
      split
      · rename_i trusted
        obtain ⟨source', index, isAsked', fresh, rfl⟩ := sound tables stored held ⟨is, trusted.1⟩
        have is : metaOf host (metaRows index (fingerprintSource host source')) = some stored := is
        rw [metaOf_metaRows, Option.map_eq_some_iff] at is
        obtain ⟨version, _, rfl⟩ := is
        obtain rfl := apart.source_eq isAsked' isAsked trusted.2
        refine wp_mono (readDocuments_always sound idle held) (fun ended s' holds => ?_) fun _ => id
        cases ended with
        | ok found => exact ⟨holds.1 ▸ fresh, holds.2⟩
        | error thrown => exact holds
      · exact writeFresh_always isAsked sound

theorem loadOrRebuild_always (apart : Apart host asked) (isAsked : asked source) (sound : Sound host asked s.file) :
    always engine (fun s' => Sound host asked s'.file) (loadOrRebuild host source)
      (either (fun found s' => createCachedMailIndex host.toHost source = .ok found ∧ Sound host asked s'.file)
        fun _ s' => Sound host asked s'.file) s := by
  have connects : ∀ s', s' = s ∨ s' = happen engine .connect s → Sound host asked s'.file := by
    rintro s' (rfl | rfl)
    · exact sound
    · exact sound_happen_connect sound
  apply wp_seq
  apply ask_always
  · intro _ _
    apply (wp_finally _ _ _ _).2
    refine wp_mono (loadOrWrite_always apart isAsked (sound_happen_connect sound) pending_happen_connect)
      (fun ended s' holds => ?_) fun _ => id
    cases ended with
    | ok found =>
      refine wp_mono (quiet_always holds.2 holds.2) (fun closed s'' kept => ?_) fun _ => id
      cases closed with
      | ok _ => exact ⟨holds.1, kept⟩
      | error thrown => exact kept
    | error thrown =>
      refine wp_mono (quiet_always holds holds) (fun closed s'' kept => ?_) fun _ => id
      cases closed <;> exact kept
  · exact connects
  · exact connects

theorem removeAll_always (suffixes : List String) {s : State Tables} (sound : Sound host asked s.file) :
    always engine (fun s' => Sound host asked s'.file) (removeAll suffixes)
      (either (fun _ s' => Sound host asked s'.file) fun _ _ => False) s := by
  induction suffixes generalizing s with
  | nil => exact sound
  | cons suffix suffixes ih =>
    have gone : Sound host asked (happen engine (.remove suffix) s).file := by
      simp only [happen]
      split
      · exact sound_missing
      · exact sound
    apply wp_seq
    apply (wp_catching _ _ _ _).2
    refine wp_mono (quiet_always sound gone) (fun ended s' kept => ?_) fun _ => id
    cases ended <;> exact ih kept

/-- An index is found or not; one that is found is that of the source. -/
theorem found_always {p : Session engine SearchError CachedMailIndex}
    {handler : SearchError → Session engine SearchError (Option CachedMailIndex)}
    (finds : always engine (fun s' => Sound host asked s'.file) p
      (either (fun found s' => createCachedMailIndex host.toHost source = .ok found ∧ Sound host asked s'.file)
        fun _ s' => Sound host asked s'.file) s)
    (handles : ∀ thrown s', Sound host asked s'.file → always engine (fun s' => Sound host asked s'.file) (handler thrown)
      (either (fun found s' => (∀ index, found = some index → createCachedMailIndex host.toHost source = .ok index) ∧
        Sound host asked s'.file) fun _ _ => False) s') :
    always engine (fun s' => Sound host asked s'.file) ((p.bind fun index => .done (some index)).catching handler)
      (either (fun found s' => (∀ index, found = some index → createCachedMailIndex host.toHost source = .ok index) ∧
        Sound host asked s'.file) fun _ _ => False) s := by
  apply (wp_catching _ _ _ _).2
  apply then_always finds
  intro ended s' holds
  cases ended with
  | ok found => exact ⟨fun index is => Option.some.inj is ▸ holds.1, holds.2⟩
  | error thrown => exact handles thrown s' holds

theorem resolveIndex_always (apart : Apart host asked) (isAsked : asked source) (sound : Sound host asked s.file) :
    always engine (fun s' => Sound host asked s'.file) (resolveIndex host source)
      (either (fun found s' => (∀ index, found = some index → createCachedMailIndex host.toHost source = .ok index) ∧
        Sound host asked s'.file) fun _ _ => False) s := by
  unfold resolveIndex
  split
  · refine found_always (loadOrRebuild_always apart isAsked sound) fun thrown s' sound' => ?_
    apply then_always (removeAll_always _ sound')
    intro ended s'' kept
    cases ended with
    | error thrown => exact kept.elim
    | ok _ =>
      refine found_always (loadOrRebuild_always apart isAsked kept) fun thrown s''' sound''' => ?_
      exact ⟨fun index is => absurd is (Option.some_ne_none index).symm, sound'''⟩
  · exact ⟨fun index is => absurd is (Option.some_ne_none index).symm, sound⟩

theorem search_always (apart : Apart host asked) (isAsked : asked source) (sound : Sound host asked s.file)
    (query : CachedMailSearchQuery) :
    always engine (fun s' => Sound host asked s'.file) (search host source query)
      (fun ended s' => ended = plainSearch host.toSearchHost source query ∧ Sound host asked s'.file) s := by
  have thrown : ∀ (ended : Except SearchError CachedMailSearchResult) s', Sound host asked s'.file →
      always engine (fun s' => Sound host asked s'.file) (orThrow ended)
        (fun ended' s'' => ended' = ended ∧ Sound host asked s''.file) s' := by
    intro ended s' sound'
    cases ended <;> exact ⟨rfl, sound'⟩
  apply then_always (resolveIndex_always apart isAsked sound)
  intro ended s' holds
  cases ended with
  | error thrown => exact holds.elim
  | ok found =>
    cases found with
    | none => exact thrown _ s' holds.2
    | some index =>
      have is : plainSearch host.toSearchHost source query = searchCachedMailIndex host.toSearchHost index query := by
        rw [plainSearch, holds.1 index rfl]
        rfl
      rw [is]
      exact thrown _ s' holds.2

/-- A rebuild never throws, and says that it is done only where the file holds the index. -/
theorem rebuild_always (isAsked : asked source) (sound : Sound host asked s.file) :
    always engine (fun s' => Sound host asked s'.file) (rebuild host source)
      (either (fun persisted s' => Sound host asked s'.file ∧ (persisted = true → ∃ index,
        createCachedMailIndex host.toHost source = .ok index ∧ s'.file = .holds (indexTables host source index)))
        fun _ _ => False) s := by
  have connects : ∀ s', s' = s ∨ s' = happen engine .connect s → Sound host asked s'.file := by
    rintro s' (rfl | rfl)
    · exact sound
    · exact sound_happen_connect sound
  have resets : ∀ s', Sound host asked s'.file → always engine (fun s' => Sound host asked s'.file)
      (resetFile.bind fun _ => .done false)
      (either (fun persisted s' => Sound host asked s'.file ∧ (persisted = true → ∃ index,
        createCachedMailIndex host.toHost source = .ok index ∧ s'.file = .holds (indexTables host source index)))
        fun _ _ => False) s' := by
    intro s' sound'
    apply then_always (removeAll_always _ sound')
    intro ended s'' kept
    cases ended with
    | error thrown => exact kept.elim
    | ok _ => exact ⟨kept, fun is => absurd is Bool.false_ne_true⟩
  unfold rebuild
  split
  · apply (wp_catching _ _ _ _).2
    apply wp_seq
    apply ask_always
    · intro _ _
      have sound' := sound_happen_connect sound
      apply (wp_finally _ _ _ _).2
      apply wp_seq
      cases fresh : create host source with
      | error failure =>
        simp only [orThrow, wp_throw, either_error]
        refine wp_mono (quiet_always sound' sound') (fun closed s' kept => ?_) fun _ => id
        cases closed <;> exact resets s' kept
      | ok index =>
        apply then_always (writeIndex_always isAsked sound' (create_ok fresh))
        intro ended s' holds
        cases ended with
        | error thrown =>
          refine wp_mono (quiet_always holds holds) (fun closed s'' kept => ?_) fun _ => id
          cases closed <;> exact resets s'' kept
        | ok _ =>
          have left : ∀ s'', s'' = s' ∨ s'' = happen engine .close s' → Sound host asked s''.file := by
            rintro s'' (rfl | rfl) <;> exact holds.1
          simp only [either_ok, wp_done]
          apply ask_always
          · exact fun _ _ => ⟨holds.1, fun _ => ⟨index, create_ok fresh, holds.2⟩⟩
          · exact fun s'' is => resets s'' (left s'' is)
          · exact left
    · exact fun s' is => resets s' (connects s' is)
    · exact connects
  · exact ⟨sound, fun is => absurd is Bool.false_ne_true⟩

end Soundness

section Examples

/-- What the host does on these sources. -/
def exampleHost : SqliteHost where
  toSearchHost := plainSearchHost
  sha256 text :=
    if text = sourceText emptySource then ofString "2e1bba6e212979436f66b1d6b69eed625ba295927fdb300782dc7f7a17c3b8ef"
    else ofString "933b6b3811ee7261da2567586725ac7a43306de0d8918bdaa8e10ec12a247e65"
  toInteger text := if text = ofString "1" then some 1 else none
  supported := true

end Examples

section Runs

/-- A search ends as it does without a database, and a rebuild says what became of it. -/
def Agrees : Call → Outcome SearchError Answer → Prop
  | .search source query, outcome =>
    outcome = .crashed ∨
      outcome = match plainSearch host.toSearchHost source query with
        | .ok result => .returned (.found result)
        | .error error => .threw error
  | .rebuild _, outcome => outcome = .crashed ∨ ∃ persisted, outcome = .returned (.persisted persisted)

/-- A file that is missing, is no database, or does not hold an index of this version. -/
def Foreign (file : DatabaseFile Tables) : Prop :=
  ∀ tables stored, file = .holds tables → ¬ Claims host tables stored

def asks (calls : List (Call × List (Fault Unit))) (source : CachedMailIndexSource) : Prop :=
  ∃ call ∈ calls, call.1.source = source

variable {host} {asked : CachedMailIndexSource → Prop}

theorem foreign_missing : Foreign host .missing := fun _ _ is => nomatch is

theorem call_agrees {call : Call} {s : State Tables} (apart : Apart host asked) (isAsked : asked call.source)
    (sound : Sound host asked s.file) (faults : List (Fault Unit)) :
    Agrees host call (run (device engine) (call.program host) faults s).1 ∧
      Sound host asked (run (device engine) (call.program host) faults s).2.file := by
  have meets (p : Session engine SearchError Answer) : Meets (device engine) (fun _ _ _ => True) p faults s :=
    fun _ _ => trivial
  cases call with
  | search source query =>
    have isAsked : asked source := isAsked
    have ends : always engine (fun s' => Sound host asked s'.file) ((Call.search source query).program host)
        (fun ended s' => (ended = (plainSearch host.toSearchHost source query).map .found) ∧ Sound host asked s'.file) s := by
      apply then_always (search_always apart isAsked sound query)
      intro ended s' holds
      obtain ⟨rfl, kept⟩ := holds
      generalize plainSearch host.toSearchHost source query = ended
      cases ended <;> exact ⟨rfl, kept⟩
    have bounded := wp_sound ends (meets _)
    simp only [Agrees]
    generalize run (device engine) ((Call.search source query).program host) faults s = ended at bounded ⊢
    obtain ⟨outcome, s'⟩ := ended
    generalize plainSearch host.toSearchHost source query = plain at bounded ⊢
    cases outcome with
    | crashed => exact ⟨.inl rfl, bounded⟩
    | returned value =>
      obtain ⟨is, kept⟩ := bounded
      cases plain with
      | error error => cases is
      | ok result =>
        cases is
        exact ⟨.inr rfl, kept⟩
    | threw error =>
      obtain ⟨is, kept⟩ := bounded
      cases plain with
      | ok result => cases is
      | error error =>
        cases is
        exact ⟨.inr rfl, kept⟩
  | rebuild source =>
    have isAsked : asked source := isAsked
    have ends : always engine (fun s' => Sound host asked s'.file) ((Call.rebuild source).program host)
        (either (fun answer s' => (∃ persisted, answer = .persisted persisted) ∧ Sound host asked s'.file)
          fun _ _ => False) s := by
      apply then_always (rebuild_always isAsked sound)
      intro ended s' holds
      cases ended with
      | ok persisted => exact ⟨⟨persisted, rfl⟩, holds.1⟩
      | error thrown => exact holds.elim
    have bounded := wp_sound ends (meets _)
    simp only [Agrees]
    generalize run (device engine) ((Call.rebuild source).program host) faults s = ended at bounded ⊢
    obtain ⟨outcome, s'⟩ := ended
    cases outcome with
    | crashed => exact ⟨.inl rfl, bounded⟩
    | returned value =>
      obtain ⟨⟨persisted, rfl⟩, kept⟩ := bounded
      exact ⟨.inr ⟨persisted, rfl⟩, kept⟩
    | threw error => exact bounded.elim

theorem calls_agree (apart : Apart host asked) (calls : List (Call × List (Fault Unit))) {s : State Tables}
    (areAsked : ∀ call ∈ calls, asked call.1.source) (sound : Sound host asked s.file) :
    List.Forall₂ (fun call outcome => Agrees host call.1 outcome) calls (runCalls host calls s).1 ∧
      Sound host asked (runCalls host calls s).2.file := by
  induction calls generalizing s with
  | nil => exact ⟨.nil, sound⟩
  | cons call calls ih =>
    obtain ⟨agrees, kept⟩ := call_agrees apart (areAsked call List.mem_cons_self) sound call.2
    obtain ⟨others, last⟩ := ih (fun other member => areAsked other (List.mem_cons_of_mem _ member)) kept
    exact ⟨.cons agrees others, last⟩

/-- Whatever happened to the file before, whatever fails and wherever a crash strikes: no search is answered from what
was stored for another source, and none fails that would not fail without a database. -/
theorem cachedMailSqliteIndex_agrees (calls : List (Call × List (Fault Unit))) (file : DatabaseFile Tables)
    (foreign : Foreign host file) (apart : Apart host (asks calls)) :
    List.Forall₂ (fun call outcome => Agrees host call.1 outcome) calls (runCalls host calls ⟨file, none⟩).1 := by
  have sound : Sound host (asks calls) file := fun tables stored is claims => (foreign tables stored is claims).elim
  exact (calls_agree apart calls (fun call member => ⟨call, member, rfl⟩) (s := ⟨file, none⟩) sound).1

/-- A search, a rebuild for another source that a crash cuts short as it commits, and a search whose database cannot be
opened. -/
def strickenCalls : List (Call × List (Fault Unit)) := [
  (.search planSource planQuery, []),
  (.rebuild emptySource, List.replicate 13 .none ++ [.crash .after]),
  (.search planSource planQuery, [.fail () .before])]

theorem apart_of_two {asked : CachedMailIndexSource → Prop} (known : ∀ source, asked source → source = planSource ∨ source = emptySource) :
    Apart exampleHost asked := by
  have differ : fingerprintSource exampleHost planSource ≠ fingerprintSource exampleHost emptySource := by decide
  intro source source' isAsked isAsked' same
  rcases known source isAsked with rfl | rfl <;> rcases known source' isAsked' with rfl | rfl
  · rfl
  · exact absurd same differ
  · exact absurd same.symm differ
  · rfl

theorem stricken_known {source : CachedMailIndexSource} (isAsked : asks strickenCalls source) :
    source = planSource ∨ source = emptySource := by
  obtain ⟨call, member, rfl⟩ := isAsked
  simp only [strickenCalls, List.mem_cons, List.not_mem_nil, or_false] at member
  rcases member with rfl | rfl | rfl
  · exact .inl rfl
  · exact .inr rfl
  · exact .inl rfl

theorem stricken_calls_agree :
    List.Forall₂ (fun call outcome => Agrees exampleHost call.1 outcome) strickenCalls
      (runCalls exampleHost strickenCalls ⟨.missing, none⟩).1 :=
  cachedMailSqliteIndex_agrees strickenCalls .missing foreign_missing (apart_of_two fun _ => stricken_known)

end Runs

section Reading

/-- An operation that writes nothing. -/
def Reads : Op Query Statement → Prop
  | .connect => True
  | .query _ => True
  | .close => True
  | _ => False

variable {host} {source : CachedMailIndexSource} {index : CachedMailIndex} {s : State Tables}

/-- A condition of a program that nothing strikes, beside whether it has only read. -/
abbrev calmly (p : Session engine SearchError α) (post : Except SearchError α → State Tables × Prop → Prop)
    (s : State Tables × Prop) : Prop :=
  wp ((device engine).watched fun op _ _ => Reads op) (fun _ fault _ => fault = .none) (fun _ => False) p post s

theorem readMeta_reads (version : host.toInteger (ofString "1") = some cachedMailSqliteSchemaVersion)
    (seen : s.tables = some (indexTables host source index)) :
    calmly (readMeta host) (either (fun stored s' => s' = (s, True) ∧ stored =
      some ⟨cachedMailSqliteSchemaVersion, fingerprintSource host source, index.documentLimitReached⟩)
      fun _ _ => False) (s, True) := by
  apply (wp_catching _ _ _ _).2
  apply wp_seq
  apply ask_clean (metaRows index (fingerprintSource host source))
  · rw [reply, seen]
    rfl
  · refine ⟨Prod.ext rfl (eq_true ⟨trivial, trivial⟩), ?_⟩
    exact (metaOf_metaRows host index _).trans (by rw [version]; rfl)

theorem readDocuments_reads (seen : s.tables = some (indexTables host source index)) :
    calmly (readDocuments index.documentLimitReached) (either (fun _ s' => s' = (s, True)) fun _ _ => False)
      (s, True) := by
  have parsed (ghost : Prop) (holds : ghost) : calmly (parseDocuments index.documentLimitReached
      (((rowsOf index).mergeSort fun left right => left.position ≤ right.position).map (·.payload)))
      (either (fun _ s' => s' = (s, True)) fun _ _ => False) (s, ghost) := by
    rw [parseDocuments_rowsOf]
    exact Prod.ext rfl (eq_true holds)
  apply wp_seq
  apply ask_clean (((rowsOf index).mergeSort fun left right => left.position ≤ right.position).map (·.payload))
  · rw [reply, seen]
    rfl
  · exact parsed _ ⟨trivial, trivial⟩

theorem loadOrRebuild_reads (version : host.toInteger (ofString "1") = some cachedMailSqliteSchemaVersion)
    (held : s.file = .holds (indexTables host source index)) :
    calmly (loadOrRebuild host source) (either (fun _ s' => s'.1.file = s.file ∧ s'.2) fun _ _ => False) (s, True) := by
  have connected : happen engine .connect s = s.forget := by
    simp only [happen, held]
  have seen : s.forget.tables = some (indexTables host source index) := by
    rw [State.tables_idle rfl]
    exact DatabaseFile.tables_eq_some.2 held
  have before : (True ∧ Reads .connect) = True := eq_true ⟨trivial, trivial⟩
  apply wp_seq
  apply ask_clean () rfl
  rw [connected, before]
  apply (wp_finally _ _ _ _).2
  apply wp_seq
  refine wp_mono (readMeta_reads version seen) (fun ended s' holds => ?_) fun _ => id
  cases ended with
  | error thrown => exact holds.elim
  | ok stored =>
    obtain ⟨rfl, rfl⟩ := holds
    simp only [either_ok, and_self, if_true]
    refine wp_mono (readDocuments_reads seen) (fun ended s' holds => ?_) fun _ => id
    cases ended with
    | error thrown => exact holds.elim
    | ok found =>
      obtain rfl := holds
      apply ask_clean () rfl
      exact ⟨rfl, trivial, trivial⟩

/-- A search for a source whose index the file holds only reads it. -/
theorem search_reads (version : host.toInteger (ofString "1") = some cachedMailSqliteSchemaVersion)
    (held : s.file = .holds (indexTables host source index)) (query : CachedMailSearchQuery) :
    (run (device engine) (search host source query) [] s).2.file = s.file ∧
      ∀ step ∈ trace (device engine) (search host source query) [] s, Reads step.1 := by
  have ends : calmly (search host source query) (fun _ s' => s'.1.file = s.file ∧ s'.2) (s, True) := by
    have thrown (ended : Except SearchError CachedMailSearchResult) (s' : State Tables × Prop)
        (holds : s'.1.file = s.file ∧ s'.2) : calmly (orThrow ended) (fun _ s'' => s''.1.file = s.file ∧ s''.2) s' := by
      cases ended <;> exact holds
    apply wp_seq
    unfold resolveIndex
    split
    · apply (wp_catching _ _ _ _).2
      apply wp_seq
      refine wp_mono (loadOrRebuild_reads version held) (fun ended s' holds => ?_) fun _ => id
      cases ended with
      | ok found => exact thrown _ s' holds
      | error error => exact holds.elim
    · exact thrown _ _ ⟨rfl, trivial⟩
  have clean : Meets (device engine) (fun _ fault _ => fault = .none) (search host source query) [] s :=
    meets_of_faults (· = .none) rfl (fun _ _ _ is => is) (fun fault member => by cases member) s
  have bounded := wp_watched ends clean
  unfold Meets at bounded
  generalize trace (device engine) (search host source query) [] s = steps at bounded ⊢
  generalize run (device engine) (search host source query) [] s = ended at bounded ⊢
  obtain ⟨outcome, s'⟩ := ended
  cases outcome with
  | returned result => exact bounded
  | threw error => exact bounded
  | crashed => exact bounded.elim

/-- Once a rebuild says that the index is stored, it is: the next search for its source answers from the file. -/
theorem rebuilt_index_is_read (version : host.toInteger (ofString "1") = some cachedMailSqliteSchemaVersion)
    {calls : List (Call × List (Fault Unit))} {file : DatabaseFile Tables} {faults : List (Fault Unit)}
    {s' : State Tables} (foreign : Foreign host file) (apart : Apart host (asks ((.rebuild source, faults) :: calls)))
    (rebuilt : run (device engine) ((Call.rebuild source).program host) faults (runCalls host calls ⟨file, none⟩).2 =
      (.returned (.persisted true), s')) (query : CachedMailSearchQuery) :
    (run (device engine) (search host source query) [] s').2.file = s'.file ∧
      ∀ step ∈ trace (device engine) (search host source query) [] s', Reads step.1 := by
  have sound : Sound host (asks ((.rebuild source, faults) :: calls)) file :=
    fun tables stored is claims => (foreign tables stored is claims).elim
  have kept := (calls_agree apart calls (fun call member => ⟨call, List.mem_cons_of_mem _ member, rfl⟩)
    (s := ⟨file, none⟩) sound).2
  have isAsked : asks ((.rebuild source, faults) :: calls) source := ⟨_, List.mem_cons_self, rfl⟩
  have ends : always engine (fun _ => True) ((Call.rebuild source).program host)
      (either (fun answer s' => answer = .persisted true → ∃ index, s'.file = .holds (indexTables host source index))
        fun _ _ => True) (runCalls host calls ⟨file, none⟩).2 := by
    apply wp_seq
    refine wp_mono (rebuild_always isAsked kept) (fun ended s'' holds => ?_) fun _ _ => trivial
    cases ended with
    | error thrown => exact holds.elim
    | ok persisted =>
      intro is
      obtain rfl := Answer.persisted.inj is
      obtain ⟨index, _, held⟩ := holds.2 rfl
      exact ⟨index, held⟩
  have meets : Meets (device engine) (fun _ _ _ => True) ((Call.rebuild source).program host) faults
      (runCalls host calls ⟨file, none⟩).2 := fun _ _ => trivial
  have bounded := wp_sound ends meets
  rw [rebuilt] at bounded
  obtain ⟨index, held⟩ := bounded rfl
  exact search_reads version held query

def isPersisted : Outcome SearchError Answer → Bool
  | .returned (.persisted persisted) => persisted
  | _ => false

theorem isPersisted_iff {outcome : Outcome SearchError Answer} : isPersisted outcome = true ↔ outcome = .returned (.persisted true) := by
  cases outcome with
  | returned answer => cases answer <;> simp [isPersisted]
  | threw error => simp [isPersisted]
  | crashed => simp [isPersisted]

/-- After the calls that were struck the index is made once more. -/
theorem stricken_index_is_read : ∃ s', run (device engine) ((Call.rebuild planSource).program exampleHost) []
        (runCalls exampleHost strickenCalls ⟨.missing, none⟩).2 = (.returned (.persisted true), s') ∧
      (run (device engine) (search exampleHost planSource planQuery) [] s').2.file = s'.file ∧
      ∀ step ∈ trace (device engine) (search exampleHost planSource planQuery) [] s', Reads step.1 := by
  have apart : Apart exampleHost (asks ((.rebuild planSource, []) :: strickenCalls)) := by
    refine apart_of_two fun source isAsked => ?_
    obtain ⟨call, member, rfl⟩ := isAsked
    rcases List.mem_cons.1 member with rfl | before
    · exact .inl rfl
    · exact stricken_known ⟨call, before, rfl⟩
  have persists : isPersisted (run (device engine) ((Call.rebuild planSource).program exampleHost) []
      (runCalls exampleHost strickenCalls ⟨.missing, none⟩).2).1 = true := by decide +kernel
  obtain ⟨outcome, s', ran⟩ : ∃ outcome s', run (device engine) ((Call.rebuild planSource).program exampleHost) []
      (runCalls exampleHost strickenCalls ⟨.missing, none⟩).2 = (outcome, s') := ⟨_, _, rfl⟩
  rw [ran, isPersisted_iff] at persists
  have rebuilt := ran.trans (congrArg (·, s') persists)
  exact ⟨s', rebuilt, rebuilt_index_is_read (by decide) foreign_missing apart rebuilt planQuery⟩

end Reading

end CachedMail
