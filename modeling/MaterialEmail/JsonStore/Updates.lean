import MaterialEmail.JsonStore.CrashSafety

/-! Updates issued to one instance. They take turns in the order of issue; a failure that strikes
while the live file is ahead of the memory rejects an update that is on disk already. -/
namespace JsonStore

open Interrupted

variable {D T : Type}

/-- What an update does after its load. -/
def settle (config : Config D T) (mutator : Mutator D T) (current : T) : Store T T :=
  match mutator current with
  | .error reason => .throw (.mutator reason)
  | .ok draft => do
    let committed ← write config draft
    setData committed
    return committed

theorem update_eq (config : Config D T) (mutator : Mutator D T) :
    update config mutator = load config >>= settle config mutator := rfl

/-- What a mutator makes of a state, if the store accepts it. -/
def apply (config : Config D T) (current : T) (mutator : Mutator D T) : Option T :=
  match mutator current with
  | .error _ => none
  | .ok draft => (serializeAndValidate config draft).toOption

/-- Failures strike only while the live file is what the instance remembers, if it remembers
anything, unless the store catches them. A rename that fails has not happened. -/
def Timely (op : Op T) (fault : Fault Errno) (s : State T) : Prop :=
  match fault with
  | .none => True
  | .fail code extent =>
    (op.renames → extent ≠ .after) ∧ (s.data = none ∨ s.Agrees ∨ op.caught code)
  | .crash _ => False

instance [DecidableEq T] (op : Op T) (fault : Fault Errno) (s : State T) : Decidable (Timely op fault s) :=
  match fault with
  | .none => .isTrue trivial
  | .fail code extent => inferInstanceAs (Decidable
      ((op.renames = true → extent ≠ .after) ∧ (s.data = none ∨ s.Agrees ∨ op.caught code)))
  | .crash _ => .isFalse id

theorem Timely.spares {op : Op T} {fault : Fault Errno} {s : State T} (current : T)
    (timely : Timely op fault s) : Spares (some current) op fault s := by
  cases fault with
  | none => trivial
  | crash extent => exact timely.elim
  | fail code extent =>
    refine ⟨timely.1, fun remembers => ?_⟩
    rcases timely.2 with forgets | rest
    · rw [forgets] at remembers
      cases remembers
    · exact rest

theorem timely_uncrashed (op : Op T) (extent : Extent) (s : State T) : ¬ Timely op (.crash extent) s := id

/-- Operations that leave `#data` alone. -/
def Op.leavesData (op : Op T) : Prop := ∀ value, op ≠ .setData value

theorem Op.avoids.leavesData {kept : Set Path} {op : Op T} (avoids : op.avoids kept) : op.leavesData := by
  rintro value rfl
  exact avoids

/-- The times are in order and the instance remembers nothing. -/
structure Blank (s : State T) : Prop where
  timed : s.directory.Timed
  data : s.data = none

theorem Blank.effect {op : Op T} {s : State T} (blank : Blank s) (leaves : op.leavesData)
    (extent : Extent) : Blank (effect op extent s) := by
  cases op with
  | file op => exact ⟨op.effect_timed extent blank.timed, blank.data⟩
  | setData value => exact (leaves value rfl).elim
  | _ => cases extent <;> exact ⟨blank.timed, blank.data⟩

section Leaves

theorem leaves_of_avoids (kept : Set Path) {p : Store T α} (uses : p.Uses (Op.avoids kept)) :
    p.Uses Op.leavesData :=
  uses.mono fun _ avoids => avoids.leavesData

theorem orRaise_leaves (result : Except StoreError α) : (orRaise result : Store T α).Uses Op.leavesData := by
  cases result with
  | ok value => exact .done value
  | error error => exact .throw error

theorem call_leaves {op : Op T} {next : Reply T op → Store T α} (leaves : op.leavesData)
    (rest : ∀ reply, (next reply).Uses Op.leavesData) :
    (Program.call op next : Store T α).Uses Op.leavesData :=
  .call op next leaves rest

theorem afterWrite_leaves : (afterWrite : Store T Unit).Uses Op.leavesData :=
  call_leaves (fun _ same => by cases same) orRaise_leaves

theorem orThrow_leaves (reply : Except Errno α) : (orThrow reply : Store T α).Uses Op.leavesData :=
  leaves_of_avoids ∅ (orThrow_avoids reply)

theorem rename_leaves (source target : Path) : (rename source target : Store T Unit).Uses Op.leavesData :=
  call_leaves (fun _ same => by cases same) orThrow_leaves

theorem rm_leaves (path : Path) : (ignoringErrors (rm path) : Store T Unit).Uses Op.leavesData :=
  Program.Uses.catching (call_leaves (fun _ same => by cases same) orThrow_leaves) fun _ => .done _

theorem onlyIf_leaves {condition : Bool} {p : Store T Unit} (uses : p.Uses Op.leavesData) :
    (onlyIf condition p).Uses Op.leavesData := by
  cases condition with
  | true => exact uses
  | false => exact .done _

theorem decode_leaves (path : Path) : (decode path : Store T (Decoded T)).Uses Op.leavesData :=
  leaves_of_avoids ∅ (decode_avoids path)

theorem syncDirectory_leaves : (syncDirectory : Store T Unit).Uses Op.leavesData :=
  leaves_of_avoids ∅ syncDirectory_avoids

theorem randomUUID_leaves : (randomUUID : Store T Nat).Uses Op.leavesData :=
  leaves_of_avoids ∅ randomUUID_avoids

theorem writeSyncedFile_leaves (path : Path) (value : T) :
    (writeSyncedFile path value : Store T Unit).Uses Op.leavesData := by
  apply Program.Uses.bind (call_leaves (fun _ same => by cases same) orThrow_leaves)
  intro _
  apply Program.Uses.finally_ _ (call_leaves (fun _ same => by cases same) orThrow_leaves)
  apply Program.Uses.bind (call_leaves (fun _ same => by cases same) orThrow_leaves)
  exact fun _ => call_leaves (fun _ same => by cases same) orThrow_leaves

theorem displaceLive_leaves (temporary displaced : Path) :
    (displaceLive temporary displaced : Store T Unit).Uses Op.leavesData := by
  apply Program.Uses.bind (rename_leaves _ _)
  intro _
  apply Program.Uses.bind
  · apply Program.Uses.catching (rename_leaves _ _)
    intro error
    exact Program.Uses.bind (Program.Uses.catching (rename_leaves _ _) fun _ => .throw _) fun _ => .throw _
  · exact fun _ => Program.Uses.bind (rm_leaves _) fun _ => syncDirectory_leaves

theorem replaceLiveFile_leaves (temporary : Path) (hasCurrent : Bool) :
    (replaceLiveFile temporary hasCurrent : Store T Unit).Uses Op.leavesData := by
  apply Program.Uses.catching
  · exact Program.Uses.bind (rename_leaves _ _) fun _ => syncDirectory_leaves
  · intro error
    dsimp only
    split
    · exact Program.Uses.bind randomUUID_leaves fun _ => displaceLive_leaves _ _
    · exact .throw _

theorem publish_leaves (temporary : Path) : (publish temporary : Store T T).Uses Op.leavesData := by
  apply Program.Uses.bind
  · exact Program.Uses.resume (decode_leaves _) fun result => leaves_of_avoids ∅ (unlessMissing_avoids result)
  · intro hasCurrent
    apply Program.Uses.bind (onlyIf_leaves (leaves_of_avoids _ refreshBackup_avoids))
    intro _
    apply Program.Uses.bind (replaceLiveFile_leaves _ _)
    intro _
    apply Program.Uses.bind (decode_leaves _)
    exact fun _ => Program.Uses.bind afterWrite_leaves fun _ => .done _

theorem writeValidated_leaves (value : T) : (writeValidated value : Store T T).Uses Op.leavesData := by
  apply Program.Uses.bind (call_leaves (fun _ same => by cases same) fun _ => .done _)
  intro _
  apply Program.Uses.bind randomUUID_leaves
  intro _
  apply Program.Uses.bind (writeSyncedFile_leaves _ _)
  intro _
  apply Program.Uses.bind syncDirectory_leaves
  intro _
  apply Program.Uses.bind (Program.Uses.finally_ (publish_leaves _) (rm_leaves _))
  exact fun _ => Program.Uses.bind (call_leaves (fun _ same => by cases same) fun _ => .done _) fun _ => .done _

theorem write_leaves (config : Config D T) (value : D) : (write config value).Uses Op.leavesData :=
  Program.Uses.bind (orRaise_leaves _) writeValidated_leaves

theorem decodeAll_leaves (paths : List Path) :
    (decodeAll paths : Store T (List (Decoded T))).Uses Op.leavesData := by
  induction paths with
  | nil => exact .done _
  | cons path paths ih =>
    apply Program.Uses.bind (Program.Uses.attempt (decode_leaves path))
    intro first
    apply Program.Uses.bind ih
    intro rest
    cases first with
    | ok decoded => exact .done _
    | error error => exact .done _

theorem findRecoveryCandidate_leaves :
    (findRecoveryCandidate : Store T (RecoverySearch T)).Uses Op.leavesData := by
  apply Program.Uses.bind (call_leaves (fun _ same => by cases same) fun _ => .done _)
  intro names
  split
  · exact .done _
  · exact .throw _
  · exact Program.Uses.bind (decodeAll_leaves _) fun _ => .done _

theorem promote_leaves (source temporary : Path) : (promote source temporary : Store T T).Uses Op.leavesData := by
  apply Program.Uses.bind (call_leaves (fun _ same => by cases same) orThrow_leaves)
  intro _
  apply Program.Uses.bind (leaves_of_avoids ∅ (syncFile_avoids (Set.notMem_empty _)))
  intro _
  apply Program.Uses.bind (decode_leaves _)
  intro _
  apply Program.Uses.bind (rename_leaves _ _)
  intro _
  apply Program.Uses.bind syncDirectory_leaves
  exact fun _ => Program.Uses.bind (decode_leaves _) fun _ => .done _

theorem restoreCandidate_leaves (candidate : Decoded T) : (restoreCandidate candidate).Uses Op.leavesData := by
  apply Program.Uses.bind randomUUID_leaves
  intro _
  apply Program.Uses.bind
  · apply Program.Uses.resume (rename_leaves _ _)
    intro result
    split
    · exact .done _
    · exact .done _
    · exact .throw _
  intro quarantined
  apply Program.Uses.bind randomUUID_leaves
  intro _
  apply Program.Uses.bind
  · apply Program.Uses.catching (promote_leaves _ _)
    intro _
    apply Program.Uses.bind (rm_leaves _)
    intro _
    apply Program.Uses.bind (onlyIf_leaves (Program.Uses.catching (rename_leaves _ _) fun _ => .throw _))
    exact fun _ => .throw _
  · exact fun _ => Program.Uses.bind afterWrite_leaves fun _ => .done _

theorem recover_leaves (config : Config D T) (error : StoreError) :
    (recover config error).Uses Op.leavesData := by
  unfold recover
  split
  · apply Program.Uses.bind findRecoveryCandidate_leaves
    intro recovery
    split
    · exact restoreCandidate_leaves _
    · split
      · exact .throw _
      · exact write_leaves config _
  · apply Program.Uses.bind findRecoveryCandidate_leaves
    intro recovery
    split
    · exact restoreCandidate_leaves _
    · exact .throw _
  · exact .throw _

theorem loadFromDisk_leaves (config : Config D T) : (loadFromDisk config).Uses Op.leavesData := by
  apply Program.Uses.bind (call_leaves (fun _ same => by cases same) orThrow_leaves)
  intro _
  apply Program.Uses.resume (decode_leaves _)
  intro result
  cases result with
  | ok decoded => exact .done _
  | error error => exact recover_leaves config error

end Leaves

/-- The live file has the text of `value`. -/
def LiveIs (value : T) (s : State T) : Prop := s.live = some (.text value)

section Live

variable {allowed : Op T → Fault Errno → State T → Prop} {s : State T}

theorem LiveIs.of_files {time : Nat} {value : T} (holds : s.files .live = some ⟨.text value, time⟩) :
    LiveIs value s := by
  show (s.files .live).map (·.content) = _
  rw [holds]
  rfl

theorem afterWrite_owp {post : Unit → State T → Prop} (after : post () s) :
    owp (device T) allowed afterWrite post s :=
  owp_call after fun _ => ⟨.afterWrite, rfl⟩

/-- What is done to another file does not concern the live one. -/
theorem LiveIs.rm {path : Path} {value : T} (isLive : LiveIs value s) (other : path ≠ .live) :
    owp (device T) allowed (ignoringErrors (rm path)) (fun _ => LiveIs value) s := by
  have kept : ∀ extent, LiveIs value (effect (.file (.rm path)) extent s) := by
    intro extent
    have same := FileOp.effect_get (.rm path) extent s.directory fun touched => other touched.symm
    show (((FileOp.rm path).effect extent s.directory).get .live).map (·.content) = _
    rw [same]
    exact isLive
  refine (wp_catching _ _ _ _).2 ⟨fun _ => kept .after, fun code extent _ _ => kept extent, fun _ _ => trivial⟩

theorem publish_live (temporary : Path) : owp (device T) allowed (publish temporary) LiveIs s := by
  refine owp_seq (owp_mono (owp_true _ s) fun hasCurrent s₁ _ => ?_)
  refine owp_seq (owp_mono (owp_true _ s₁) fun _ s₂ _ => ?_)
  refine owp_seq (owp_mono (owp_true _ s₂) fun _ s₃ _ => ?_)
  refine owp_seq (decode_owp fun time value holds => ?_)
  exact owp_seq (afterWrite_owp (LiveIs.of_files holds))

theorem writeValidated_live (value : T) : owp (device T) allowed (writeValidated value) LiveIs s := by
  refine owp_seq (owp_mono (owp_true _ s) fun _ s₁ _ => ?_)
  refine owp_seq (owp_mono (owp_true _ s₁) fun id s₂ _ => ?_)
  refine owp_seq (owp_mono (owp_true _ s₂) fun _ s₃ _ => ?_)
  refine owp_seq (owp_mono (owp_true _ s₃) fun _ s₄ _ => ?_)
  refine owp_seq (owp_finally (owp_mono (publish_live _) fun committed s₅ isLive => ?_))
  refine owp_mono (isLive.rm (fun same => by cases same)) fun _ s₆ isLive => ?_
  exact owp_seq ⟨fun _ => isLive, (fun _ _ fallible _ => by cases fallible), fun _ _ => trivial⟩

theorem write_live (config : Config D T) (value : D) : owp (device T) allowed (write config value) LiveIs s :=
  owp_seq (owp_mono (owp_true _ s) fun _ _ _ => writeValidated_live _)

theorem undoRestore_owp (quarantine temporary : Path) (quarantined : Bool) {post : α → State T → Prop} :
    owp (device T) allowed (undoRestore quarantine temporary quarantined) post s :=
  owp_seq (owp_mono (owp_true _ s) fun _ _ _ => owp_seq (owp_mono (owp_true _ _) fun _ _ _ => trivial))

theorem promote_live (source temporary : Path) : owp (device T) allowed (promote source temporary) LiveIs s := by
  refine owp_seq (owp_mono (owp_true _ s) fun _ s₁ _ => ?_)
  refine owp_seq (owp_mono (owp_true _ s₁) fun _ s₂ _ => ?_)
  refine owp_seq (owp_mono (owp_true _ s₂) fun _ s₃ _ => ?_)
  refine owp_seq (owp_mono (owp_true _ s₃) fun _ s₄ _ => ?_)
  refine owp_seq (owp_mono (owp_true _ s₄) fun _ s₅ _ => ?_)
  exact owp_seq (decode_owp fun time value holds => LiveIs.of_files holds)

theorem restoreCandidate_live (candidate : Decoded T) :
    owp (device T) allowed (restoreCandidate candidate) LiveIs s := by
  refine owp_seq (owp_mono (owp_true _ s) fun _ s₁ _ => ?_)
  refine owp_seq (owp_mono (owp_true _ s₁) fun _ s₂ _ => ?_)
  refine owp_seq (owp_mono (owp_true _ s₂) fun _ s₃ _ => ?_)
  refine owp_seq ((wp_catching _ _ _ _).2 (wp_mono (promote_live _ _) ?_ fun _ => id))
  intro result s₄ ended
  cases result with
  | ok restored => exact owp_seq (afterWrite_owp ended)
  | error error => exact undoRestore_owp _ _ _

theorem recover_live (config : Config D T) (error : StoreError) :
    owp (device T) allowed (recover config error) LiveIs s := by
  unfold recover
  split
  · refine owp_seq (owp_mono (owp_true _ s) fun recovery s₁ _ => ?_)
    split
    · exact restoreCandidate_live _
    · split
      · trivial
      · exact write_live config _
  · refine owp_seq (owp_mono (owp_true _ s) fun recovery s₁ _ => ?_)
    split
    · exact restoreCandidate_live _
    · trivial
  · trivial

/-- Whatever fails, a load that returns has read the live file. -/
theorem loadFromDisk_live (config : Config D T) : owp (device T) allowed (loadFromDisk config) LiveIs s := by
  refine owp_seq (owp_mono (owp_true _ s) fun _ s₁ _ => ?_)
  have decoded : owp (device T) allowed (decode .live) (fun decoded => LiveIs decoded.value) s₁ :=
    decode_owp fun time value holds => LiveIs.of_files holds
  refine (wp_resume _ _ _ _).2 (wp_mono decoded ?_ fun _ => id)
  intro result s₂ ended
  cases result with
  | ok decoded => exact ended
  | error error => exact recover_live config error

end Live

/-- An instance between two turns of its queue. `settled` says of each update whether it was
fulfilled; `base` is what the first load that ended well has found. -/
structure Instance (D T : Type) where
  state : State T
  waiting : List (Mutator D T)
  settled : List (Mutator D T × Bool)
  base : Option T

inductive Event (D T : Type) where
  | issue (mutator : Mutator D T)
  | turn (faults : List (Fault Errno))

def Event.issued? : Event D T → Option (Mutator D T)
  | .issue mutator => some mutator
  | .turn _ => none

/-- The files are older than whatever will be written. -/
def Instance.start (files : List (Path × File T)) : Instance D T :=
  ⟨⟨⟨files, (files.map (·.2.modifiedAt)).foldr max 0 + 1⟩, none, none, none⟩, [], [], none⟩

def fulfilled? : Outcome StoreError T → Option T
  | .returned value => some value
  | _ => none

/-- Issuing chains an update to the queue; a turn runs the operations of the first one in it. -/
def Instance.step (config : Config D T) (m : Instance D T) : Event D T → Instance D T
  | .issue mutator => { m with waiting := m.waiting ++ [mutator] }
  | .turn faults =>
    match m.waiting with
    | [] => m
    | mutator :: waiting =>
      let (outcome, state) := Interrupted.run (device T) (update config mutator) faults m.state
      let loaded := (Interrupted.run (device T) (load config) faults m.state).1
      { state := state
        waiting := waiting
        settled := m.settled ++ [(mutator, (fulfilled? outcome).isSome)]
        base := m.base.or (fulfilled? loaded) }

def Instance.run (config : Config D T) (m : Instance D T) (events : List (Event D T)) : Instance D T :=
  events.foldl (Instance.step config) m

def Instance.fulfilled (m : Instance D T) : List (Mutator D T) :=
  (m.settled.filter (·.2)).map (·.1)

/-- The faults that strike a turn are timely. -/
def Instance.TimelyTurn (config : Config D T) (m : Instance D T) : Event D T → Prop
  | .issue _ => True
  | .turn faults =>
    ∀ mutator ∈ m.waiting.head?, Meets (device T) Timely (update config mutator) faults m.state

def Instance.TimelyRun (config : Config D T) : Instance D T → List (Event D T) → Prop
  | _, [] => True
  | m, event :: events => m.TimelyTurn config event ∧ TimelyRun config (m.step config event) events

instance [DecidableEq T] (config : Config D T) (m : Instance D T) :
    (event : Event D T) → Decidable (m.TimelyTurn config event)
  | .issue _ => .isTrue trivial
  | .turn faults =>
    inferInstanceAs (Decidable (∀ mutator ∈ m.waiting.head?,
      Meets (device T) Timely (update config mutator) faults m.state))

def Instance.TimelyRun.decide [DecidableEq T] (config : Config D T) :
    (m : Instance D T) → (events : List (Event D T)) → Decidable (m.TimelyRun config events)
  | _, [] => .isTrue trivial
  | m, event :: events =>
    @instDecidableAnd _ _ inferInstance (TimelyRun.decide config (m.step config event) events)

instance [DecidableEq T] (config : Config D T) (m : Instance D T) (events : List (Event D T)) :
    Decidable (m.TimelyRun config events) := Instance.TimelyRun.decide config m events

/-- The memory says what the live file says. -/
structure Remembers (value : T) (s : State T) : Prop where
  timed : s.directory.Timed
  data : s.data = some value
  live : LiveIs value s

/-- Memory and live file agree on the fold of the fulfilled updates, in the order of their issue. -/
structure Instance.Settled (config : Config D T) (m : Instance D T) : Prop where
  timed : m.state.directory.Timed
  blank : m.state.data = none → m.base = none ∧ m.fulfilled = []
  folded : ∀ value, m.state.data = some value → LiveIs value m.state ∧
    ∃ base, m.base = some base ∧ m.fulfilled.foldlM (apply config) base = some value

section Turns

variable {config : Config D T} {s : State T} {current : T} {crash : State T → Prop}

/-- A load that has to go to the disk. -/
theorem load_blank (config : Config D T) (blank : Blank s) :
    wp (device T) Timely crash (load config) (either Remembers fun _ => Blank) s := by
  have kept : wp (device T) Timely Blank (loadFromDisk config) (fun _ => Blank) s :=
    wp_uses (loadFromDisk_leaves config) (fun _ fault _ leaves blank => blank.effect leaves fault.extent) blank
  have both := wp_and kept (loadFromDisk_live config)
  apply wp_uncrashed _ timely_uncrashed
  · exact fun _ => True
  · apply load_wp blank.data trivial
    refine wp_mono both ?_ fun _ _ => trivial
    rintro result s' ⟨blank', ended⟩
    cases result with
    | error error => exact blank'
    | ok value => exact ⟨trivial, trivial, blank'.timed, rfl, ended⟩

/-- A load that need not. -/
theorem load_remembered (config : Config D T) (remembers : Remembers current s) :
    wp (device T) Timely crash (load config) (either (fun value s' => value = current ∧ s' = s) fun _ _ => False)
      s := by
  refine wp_seq ⟨fun _ => ?_, (fun _ _ fallible _ => by cases fallible),
    fun extent strikes => absurd strikes (timely_uncrashed _ extent s)⟩
  have known : (device T).reply (.getData : Op T) s = some current := remembers.data
  rw [known]
  exact ⟨rfl, rfl⟩

theorem settle_wp (config : Config D T) (mutator : Mutator D T) (remembers : Remembers current s) :
    wp (device T) Timely crash (settle config mutator current)
      (either (fun value s' => apply config current mutator = some value ∧ Remembers value s')
        fun _ => Remembers current) s := by
  unfold settle
  cases decided : mutator current with
  | error reason => exact remembers
  | ok draft =>
    refine wp_seq ?_
    unfold write
    cases prepared : serializeAndValidate config draft with
    | error error => exact remembers
    | ok value =>
      have applied : apply config current mutator = some value := by
        unfold apply
        rw [decided]
        simp [prepared, Except.toOption]
      have agrees : s.Agrees := by
        rw [State.Agrees, remembers.live, remembers.data]
        rfl
      have sound : Sound (fun _ : T => True) True s.files := .of_live remembers.live trivial
      have writes : wp (device T) (Spares s.data) (fun _ => True) (writeValidated value)
          (either (fun committed s' => committed = value ∧ Acknowledged value s s') fun _ => Remembers current)
          s := by
        apply writeValidated_wp value remembers.timed sound agrees trivial (fun _ _ _ => trivial)
          (fun _ _ => trivial)
        · exact fun s' acknowledged => ⟨rfl, acknowledged⟩
        · intro error s' pending live _
          exact ⟨pending.timed, pending.data.trans remembers.data, live.trans remembers.live⟩
      rw [remembers.data] at writes
      have timely := wp_weaken writes fun op fault s (strikes : Timely op fault s) => strikes.spares current
      refine wp_mono (wp_uncrashed timely timely_uncrashed) ?_ fun _ => id
      intro result s₁ ended
      cases result with
      | error error => exact ended
      | ok committed =>
        obtain ⟨rfl, acknowledged⟩ := ended
        exact ⟨fun _ => ⟨applied, acknowledged.timed, rfl, acknowledged.live⟩,
          (fun _ _ fallible _ => by cases fallible),
          fun extent strikes => absurd strikes (timely_uncrashed _ extent s₁)⟩

/-- How a turn over `current` ends: fulfilled, with what the mutator makes of it, or not at all. -/
def Turned (config : Config D T) (mutator : Mutator D T) (current : T) (ended : Outcome StoreError T × State T) :
    Prop :=
  (∃ value, apply config current mutator = some value ∧ Remembers value ended.2 ∧
    fulfilled? ended.1 = some value) ∨
  Remembers current ended.2 ∧ fulfilled? ended.1 = none

theorem settle_turns {mutator : Mutator D T} {faults : List (Fault Errno)} (remembers : Remembers current s)
    (meets : Meets (device T) Timely (settle config mutator current) faults s) :
    Turned config mutator current (Interrupted.run (device T) (settle config mutator current) faults s) := by
  have settles : wp (device T) Timely (fun _ => False) (settle config mutator current) _ s :=
    settle_wp config mutator remembers
  have sound := wp_sound settles meets
  generalize Interrupted.run (device T) (settle config mutator current) faults s = ended at sound ⊢
  obtain ⟨outcome, s'⟩ := ended
  cases outcome with
  | returned value => exact Or.inl ⟨value, sound.1, sound.2, rfl⟩
  | threw error => exact Or.inr ⟨sound, rfl⟩
  | crashed => exact sound.elim

theorem turn_remembered {mutator : Mutator D T} {faults : List (Fault Errno)} (remembers : Remembers current s)
    (meets : Meets (device T) Timely (update config mutator) faults s) :
    Turned config mutator current (Interrupted.run (device T) (update config mutator) faults s) := by
  rw [update_eq] at meets ⊢
  obtain ⟨loads, rest⟩ := run_bind (load config) (settle config mutator) meets
  have finds : wp (device T) Timely (fun _ => False) (load config) _ s := load_remembered config remembers
  have sound := wp_sound finds loads
  generalize Interrupted.run (device T) (load config) faults s = loaded at sound rest
  obtain ⟨outcome, s'⟩ := loaded
  cases outcome with
  | returned value =>
    obtain ⟨rfl, rfl⟩ := sound
    obtain ⟨left, meets', same⟩ := rest
    rw [same]
    exact settle_turns remembers meets'
  | threw error => exact sound.elim
  | crashed => exact sound.elim

/-- The first turns: as long as no load ends well, nothing is remembered. -/
theorem turn_blank {mutator : Mutator D T} {faults : List (Fault Errno)} (blank : Blank s)
    (meets : Meets (device T) Timely (update config mutator) faults s) :
    let loaded := fulfilled? (Interrupted.run (device T) (load config) faults s).1
    let ended := Interrupted.run (device T) (update config mutator) faults s
    (loaded = none ∧ Blank ended.2 ∧ fulfilled? ended.1 = none) ∨
      ∃ current, loaded = some current ∧ Turned config mutator current ended := by
  rw [update_eq] at meets ⊢
  obtain ⟨loads, rest⟩ := run_bind (load config) (settle config mutator) meets
  have finds : wp (device T) Timely (fun _ => False) (load config) _ s := load_blank config blank
  have sound := wp_sound finds loads
  generalize Interrupted.run (device T) (load config) faults s = loaded at sound rest ⊢
  obtain ⟨outcome, s'⟩ := loaded
  cases outcome with
  | returned value =>
    obtain ⟨left, meets', same⟩ := rest
    simp only [same]
    exact Or.inr ⟨value, rfl, settle_turns sound meets'⟩
  | threw error =>
    simp only [rest]
    exact Or.inl ⟨rfl, sound, rfl⟩
  | crashed => exact sound.elim

end Turns

section Runs

variable {config : Config D T} {m : Instance D T}

theorem Instance.fulfilled_append {m m' : Instance D T} {mutator : Mutator D T} {done : Bool}
    (settled : m'.settled = m.settled ++ [(mutator, done)]) :
    m'.fulfilled = m.fulfilled ++ if done then [mutator] else [] := by
  unfold Instance.fulfilled
  cases done <;> simp [settled]

/-- A turn that ends over what was folded so far folds its mutator too, or adds nothing. -/
theorem Turned.settled {mutator : Mutator D T} {current base : T} {ended : Outcome StoreError T × State T}
    {m' : Instance D T} (turned : Turned config mutator current ended) (state : m'.state = ended.2)
    (isBase : m'.base = some base) {earlier : List (Mutator D T)}
    (folded : earlier.foldlM (apply config) base = some current)
    (fulfilled : m'.fulfilled = earlier ++ if (fulfilled? ended.1).isSome then [mutator] else []) :
    m'.Settled config := by
  have settled : ∀ value, Remembers value m'.state → m'.fulfilled.foldlM (apply config) base = some value →
      m'.Settled config := by
    intro value remembers foldsTo
    refine ⟨remembers.timed, fun forgets => ?_, fun found data => ?_⟩
    · rw [remembers.data] at forgets
      cases forgets
    · rw [remembers.data] at data
      cases data
      exact ⟨remembers.live, base, isBase, foldsTo⟩
  rcases turned with ⟨value, applied, remembers, returned⟩ | ⟨remembers, rejected⟩
  · rw [← state] at remembers
    apply settled value remembers
    rw [fulfilled, returned]
    simp [List.foldlM_append, folded, applied]
  · rw [← state] at remembers
    apply settled current remembers
    rw [fulfilled, rejected]
    simpa using folded

theorem step_settled (settled : m.Settled config) (event : Event D T) (timely : m.TimelyTurn config event) :
    (m.step config event).Settled config := by
  cases event with
  | issue mutator => exact ⟨settled.timed, settled.blank, settled.folded⟩
  | turn faults =>
    unfold Instance.step
    unfold Instance.TimelyTurn at timely
    cases waiting : m.waiting with
    | nil => exact settled
    | cons mutator rest =>
      have meets := timely mutator (by rw [waiting]; rfl)
      simp only
      cases data : m.state.data with
      | some current =>
        obtain ⟨live, base, isBase, folded⟩ := settled.folded current data
        have turned : Turned config mutator current _ := turn_remembered ⟨settled.timed, data, live⟩ meets
        apply turned.settled rfl _ folded (Instance.fulfilled_append rfl)
        simp [isBase]
      | none =>
        obtain ⟨noBase, nothing⟩ := settled.blank data
        have nothingMore : ∀ {m' : Instance D T} (done : Bool), m'.settled = m.settled ++ [(mutator, done)] →
            m'.fulfilled = [] ++ if done then [mutator] else [] := by
          intro m' done appended
          rw [Instance.fulfilled_append appended, nothing]
        rcases turn_blank ⟨settled.timed, data⟩ meets with ⟨unloaded, blank, rejected⟩ | ⟨current, loaded, turned⟩
        · constructor
          · exact blank.timed
          · intro _
            simp only [noBase, unloaded, rejected, Option.isSome_none, Option.or_none, true_and]
            exact nothingMore false rfl
          · intro value remembered
            rw [blank.data] at remembered
            cases remembered
        · have here : [].foldlM (apply config) current = some current := rfl
          apply turned.settled rfl _ here
          · exact nothingMore _ rfl
          · simp [noBase, loaded]

theorem run_settled (events : List (Event D T)) (settled : m.Settled config) (timely : m.TimelyRun config events) :
    (m.run config events).Settled config := by
  induction events generalizing m with
  | nil => exact settled
  | cons event events ih => exact ih (step_settled settled event timely.1) timely.2

/-- No update is skipped: what has been issued has settled or waits, in this order. -/
theorem run_issued (events : List (Event D T)) :
    (m.run config events).settled.map (·.1) ++ (m.run config events).waiting =
      m.settled.map (·.1) ++ m.waiting ++ events.filterMap Event.issued? := by
  induction events generalizing m with
  | nil => simp [Instance.run]
  | cons event events ih =>
    refine (ih (m := m.step config event)).trans ?_
    cases event with
    | issue mutator => simp [Instance.step, Event.issued?]
    | turn faults =>
      unfold Instance.step
      cases waiting : m.waiting with
      | nil => simp [List.filterMap_cons, Event.issued?, waiting]
      | cons mutator rest => simp [List.filterMap_cons, Event.issued?]

theorem start_settled (config : Config D T) (files : List (Path × File T)) :
    (Instance.start files : Instance D T).Settled config := by
  constructor
  · intro path file found
    obtain ⟨entry, listed, rfl⟩ := Option.map_eq_some_iff.1 found
    have listed' : entry.2.modifiedAt ∈ files.map (·.2.modifiedAt) :=
      List.mem_map_of_mem (List.mem_of_find?_eq_some listed)
    have bound : entry.2.modifiedAt ≤ (files.map (·.2.modifiedAt)).foldr max 0 :=
      List.le_max_of_le listed' (Nat.le_refl _)
    show entry.2.modifiedAt < _ + 1
    omega
  · exact fun _ => ⟨rfl, rfl⟩
  · intro value remembered
    cases remembered

end Runs

/-- As long as failures are timely: whenever no update is under way, memory and live file agree, on
the fold of the fulfilled updates over what was first loaded, in the order of their issue; the
others have left nothing, and none is skipped. -/
theorem updates_fold (config : Config D T) (files : List (Path × File T)) (events : List (Event D T))
    (timely : (Instance.start files).TimelyRun config events) :
    let m := (Instance.start files).run config events
    m.settled.map (·.1) ++ m.waiting = events.filterMap Event.issued? ∧
      (m.fulfilled ≠ [] → m.state.data ≠ none) ∧
      ∀ value, m.state.data = some value → m.state.live = some (.text value) ∧
        ∃ base, m.base = some base ∧ m.fulfilled.foldlM (apply config) base = some value := by
  have settled := run_settled events (start_settled config files) timely
  refine ⟨run_issued events, ?_, settled.folded⟩
  intro fulfilled forgets
  exact fulfilled (settled.blank forgets).2

/-- Three updates at once, the second of which runs out of space while it writes its temporary. -/
def crowded : List (Event Nat Nat) :=
  [.issue (setTo 1), .issue (setTo 2), .turn [], .issue fun current => .ok (current + 3),
   .turn (List.replicate 4 .none ++ [.fail .ENOSPC .partway]), .turn []]

theorem crowded_folds :
    let m := (Instance.start []).run numbers crowded
    m.settled.map (·.1) ++ m.waiting = crowded.filterMap Event.issued? ∧
      (m.fulfilled ≠ [] → m.state.data ≠ none) ∧
      ∀ value, m.state.data = some value → m.state.live = some (.text value) ∧
        ∃ base, m.base = some base ∧ m.fulfilled.foldlM (apply numbers) base = some value :=
  updates_fold numbers [] crowded (by decide)

/-- The hook after the write fails: the update is rejected, and it is on disk. -/
def hookFails : List (Event Nat Nat) :=
  [.issue (setTo 1), .issue (setTo 2), .turn [], .turn (List.replicate 23 .none ++ [Fault.fail .EBUSY .before])]

theorem hookFails_diverges :
    let m := (Instance.start []).run numbers hookFails
    m.waiting.length = 0 ∧ m.settled.map (·.2) = [true, false] ∧ m.state.data = some 1 ∧
      m.state.live = some (.text 2) ∧ m.base = some 0 ∧
      m.fulfilled.foldlM (apply numbers) 0 = some 1 := by
  decide

end JsonStore
