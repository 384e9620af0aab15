import MaterialEmail.Pop3Test.Conversation

/-! Whatever the server and the network do, the test only ever writes its own commands, its credentials only over
TLS, and takes nothing that came in plain text for a reply once TLS has begun. -/
namespace Pop3Test

open JsString JsDate ContentLine Utf8 Interrupted Interleaved

section Reading

/-- Bytes that came over one connection. -/
def From (socket : SocketId) (bytes : List Received) : Prop := ∀ byte ∈ bytes, byte.source = socket

/-- All that a reader holds came over its connection. -/
structure ReadsFrom (socket : SocketId) (reader : Pop3LineReader) : Prop where
  source : reader.socket = socket
  buffer : From socket reader.buffer
  lines : ∀ line ∈ reader.lines, From socket line
  settled : ∀ line, reader.settled = some (.ok line) → From socket line

variable {socket : SocketId} {reader : Pop3LineReader} {bytes : List Received}

theorem From.subset {more : List Received} (all : From socket more) (subset : bytes ⊆ more) : From socket bytes :=
  fun byte member => all byte (subset member)

theorem readsFrom_create (maxLineBytes : Nat) : ReadsFrom socket (.create socket maxLineBytes) := by
  constructor <;> simp [Pop3LineReader.create, From]

namespace ReadsFrom

theorem settle (reads : ReadsFrom socket reader) {result : Except Pop3TestError (List Received)}
    (fits : ∀ line, result = .ok line → From socket line) : ReadsFrom socket (reader.settle result) := by
  rw [Pop3LineReader.settle]
  split
  · exact ⟨reads.source, reads.buffer, reads.lines, fun line same => fits line (Option.some.inj same)⟩
  · exact reads

theorem settle_error (reads : ReadsFrom socket reader) (error : Pop3TestError) :
    ReadsFrom socket (reader.settle (.error error)) := reads.settle fun _ same => nomatch same

theorem dispose (reads : ReadsFrom socket reader) : ReadsFrom socket reader.dispose := by
  have ended := reads.settle_error ⟨.ECONNECTION, "The POP3 connection closed before the account test completed."⟩
  exact ⟨ended.source, by simp [Pop3LineReader.dispose, From], by simp [Pop3LineReader.dispose], ended.settled⟩

theorem fail (reads : ReadsFrom socket reader) (error : Pop3TestError) : ReadsFrom socket (reader.fail error) := by
  rw [Pop3LineReader.fail]
  split
  · exact reads
  · refine settle_error ?_ error
    exact ⟨reads.source, reads.buffer, reads.lines, reads.settled⟩

theorem deliver (reads : ReadsFrom socket reader) (all : From socket bytes) : ReadsFrom socket (reader.deliver bytes) := by
  rw [Pop3LineReader.deliver]
  split
  · exact reads.settle fun line same => Except.ok.inj same ▸ all
  · refine ⟨reads.source, reads.buffer, fun line member => ?_, reads.settled⟩
    rcases List.mem_append.1 member with old | new
    · exact reads.lines line old
    · rw [List.mem_singleton.1 new]
      exact all

theorem takeLines (reads : ReadsFrom socket reader) (turns : Nat) : ReadsFrom socket (reader.takeLines turns) := by
  induction turns generalizing reader with
  | zero => exact reads
  | succ turns ih =>
    rw [Pop3LineReader.takeLines]
    split
    · split
      · exact reads.fail _
      · exact reads
    · rename_i lf found
      split
      · exact reads.fail _
      · split
        · exact reads.fail _
        · apply ih
          have rest : ReadsFrom socket { reader with buffer := reader.buffer.drop (lf + 1) } :=
            ⟨reads.source, reads.buffer.subset (List.drop_subset _ _), reads.lines, reads.settled⟩
          exact rest.deliver (reads.buffer.subset (List.take_subset _ _))

theorem onData (reads : ReadsFrom socket reader) (all : From socket bytes) : ReadsFrom socket (reader.onData bytes) := by
  rw [Pop3LineReader.onData]
  split
  · exact reads
  · have more : ReadsFrom socket { reader with buffer := reader.buffer ++ bytes } :=
      ⟨reads.source, fun byte member => (List.mem_append.1 member).elim (reads.buffer byte) (all byte), reads.lines,
        reads.settled⟩
    exact more.takeLines _

theorem onClose (reads : ReadsFrom socket reader) : ReadsFrom socket reader.onClose := by
  rw [Pop3LineReader.onClose]
  split
  · exact reads
  · exact reads.fail _

theorem readLine (reads : ReadsFrom socket reader) (aborted : Bool) : ReadsFrom socket (reader.readLine aborted) := by
  have rejected (error : Pop3TestError) : ReadsFrom socket { reader with settled := some (.error error) } :=
    ⟨reads.source, reads.buffer, reads.lines, fun line same => nomatch same⟩
  rw [Pop3LineReader.readLine]
  split
  · exact rejected _
  · split
    · rename_i queued lines waiting
      have all : ∀ line ∈ queued :: lines, From socket line := waiting ▸ reads.lines
      refine ⟨reads.source, reads.buffer, fun line member => all line (List.mem_cons_of_mem _ member), fun line same => ?_⟩
      obtain rfl : queued = line := Except.ok.inj (Option.some.inj same)
      exact all queued List.mem_cons_self
    · split
      · exact rejected _
      · split
        · exact rejected _
        · exact ⟨reads.source, reads.buffer, reads.lines, fun line same => nomatch same⟩

end ReadsFrom

end Reading

section Writing

variable (input : Pop3TestInput)

/-- What the test passes with a command. -/
def Permitted : Pop3Command → Option JsString → Prop
  | .USER, argument => argument = some input.username
  | .PASS, argument => argument = some input.secret
  | .UIDL, argument | .LIST, argument => argument = none ∨ ∃ number, argument = some (decimal number)
  | _, argument => argument = none

/-- One line with its end. -/
def IsLine (payload : List Nat) : Prop := ∃ line, payload = line ++ [13, 10] ∧ ∀ byte ∈ line, byte ≠ 10 ∧ byte ≠ 13

/-- A command over TLS once the handshake is complete, or one of the two that come before in plain text. -/
def Allowed (socket : SocketId) (secured : Bool) (payload : List Nat) : Prop :=
  ∃ command argument, Permitted input command argument ∧ payload = encoded command argument ∧ IsLine payload ∧
    (socket = .secure ∧ secured = true ∨ socket = .plain ∧ (command = .CAPA ∨ command = .STLS))

variable {input}

theorem text_oneLine (command : Pop3Command) : OneLine command.text := by cases command <;> decide

theorem isLine_encoded {command : Pop3Command} {argument : Option JsString} (oneLine : ∀ text ∈ argument, OneLine text) :
    IsLine (encoded command argument) := by
  have whole : OneLine (commandText command argument) := by
    cases argument with
    | none => exact text_oneLine command
    | some argument =>
      refine oneLine_append.2 ⟨text_oneLine command, oneLine_cons.2 ⟨by decide, oneLine argument rfl⟩⟩
  refine ⟨utf8Bytes (commandText command argument), utf8Bytes_append (by decide) _ _, fun byte member => ?_⟩
  constructor <;> rintro rfl
  · obtain ⟨unit, isIn, same⟩ := exists_of_mem_utf8Bytes (by decide) member
    exact (whole unit isIn).1 (UInt16.toNat_inj.1 same)
  · obtain ⟨unit, isIn, same⟩ := exists_of_mem_utf8Bytes (by decide) member
    exact (whole unit isIn).2 (UInt16.toNat_inj.1 same)

theorem sendable_oneLine {kind : String} {value : JsString} {maximum : Nat}
    (sendable : assertSendable kind value maximum = .ok ()) : OneLine value := by
  rw [assertSendable] at sendable
  split at sendable
  · cases sendable
  · rename_i clean
    intro unit member
    simp only [not_or, List.any_eq_true, not_exists, not_and] at clean
    have plain := clean.2.2 unit member
    constructor <;> rintro rfl <;> simp at plain

theorem assertInput_oneLine {messageLimit : Nat} (sound : assertInput input = .ok messageLimit) :
    OneLine input.username ∧ OneLine input.secret := by
  rw [assertInput] at sound
  split at sound
  · cases sound
  · split at sound
    · cases sound
    · cases name : assertSendable "username" input.username 1024 with
      | error error => simp [name, bind, Except.bind] at sound
      | ok _ =>
        cases secret : assertSendable "credential" input.secret 16384 with
        | error error => simp [name, secret, bind, Except.bind] at sound
        | ok _ => exact ⟨sendable_oneLine name, sendable_oneLine secret⟩

end Writing

section States

/-- What nothing that happens by itself changes about a state, or only in one direction. -/
structure Steady (s s' : State) : Prop where
  session : s'.session.map Pop3Session.socket = s.session.map Pop3Session.socket
  opening : s'.opening.map Promise.socket = s.opening.map Promise.socket
  created : ∀ socket, (s'.socket socket).isSome = (s.socket socket).isSome
  ready : ∀ socket, s.isReady socket = true → s'.isReady socket = true
  destroyed : ∀ socket, (s.socket socket).all Socket.destroyed = true → (s'.socket socket).all Socket.destroyed = true

theorem Steady.refl (s : State) : Steady s s := ⟨rfl, rfl, fun _ => rfl, fun _ => id, fun _ => id⟩

theorem Steady.trans {s s' s'' : State} (first : Steady s s') (second : Steady s' s'') : Steady s s'' where
  session := second.session.trans first.session
  opening := second.opening.trans first.opening
  created socket := (second.created socket).trans (first.created socket)
  ready socket isReady := second.ready socket (first.ready socket isReady)
  destroyed socket gone := second.destroyed socket (first.destroyed socket gone)

/-- Nothing is left open. -/
def Closed (s : State) : Prop := ∀ socket, (s.socket socket).all Socket.destroyed = true

theorem Steady.closed {s s' : State} (steady : Steady s s') (closed : Closed s) : Closed s' :=
  fun socket => steady.destroyed socket (closed socket)

/-- The invariant: whoever reads, reads from one connection, and a session is on the secure one only once that
is ready. -/
structure Safe (input : Pop3TestInput) (s : State) : Prop where
  reads : ∀ session ∈ s.session, ReadsFrom session.socket session.reader
  secured : ∀ session ∈ s.session, session.socket = .secure → s.isReady .secure = true
  opened : ∀ promise ∈ s.opening, promise.settled = some (.ok ()) → s.isReady promise.socket = true
  upgraded : ∀ entry ∈ s.interpreted, entry.upgraded = true → From .secure entry.line
  allowed : ∀ sent ∈ s.sent, Allowed input sent.socket sent.secured sent.payload

theorem safe_initial (input : Pop3TestInput) : Safe input .initial := by
  constructor <;> simp [State.initial]

/-- A step that is steady and keeps the invariant. -/
structure Calm (input : Pop3TestInput) (s s' : State) : Prop extends Steady s s' where
  safe : Safe input s → Safe input s'

variable {input : Pop3TestInput} {s s' s'' : State} {socket : SocketId}

theorem Calm.refl (s : State) : Calm input s s := ⟨Steady.refl s, id⟩

theorem Calm.trans (first : Calm input s s') (second : Calm input s' s'') : Calm input s s'' :=
  ⟨first.toSteady.trans second.toSteady, second.safe ∘ first.safe⟩

theorem calm_editSocket (edit : Socket → Socket) (ready : ∀ socket, socket.ready = true → (edit socket).ready = true)
    (destroyed : ∀ socket, socket.destroyed = true → (edit socket).destroyed = true) :
    Calm input s (s.editSocket edit socket) := by
  have sockets (other : SocketId) : (s.editSocket edit socket).socket other =
      if other = socket then (s.socket other).map edit else s.socket other := by
    cases socket <;> cases other <;> rfl
  have same : (s.editSocket edit socket).session = s.session ∧ (s.editSocket edit socket).opening = s.opening ∧
      (s.editSocket edit socket).interpreted = s.interpreted ∧ (s.editSocket edit socket).sent = s.sent := by
    cases socket <;> exact ⟨rfl, rfl, rfl, rfl⟩
  obtain ⟨session, opening, interpreted, sent⟩ := same
  have isReady (other : SocketId) (before : s.isReady other = true) : (s.editSocket edit socket).isReady other = true := by
    unfold State.isReady at before ⊢
    rw [sockets]
    cases found : s.socket other with
    | none => simp [found] at before
    | some known =>
      rw [found] at before
      split
      · exact ready known before
      · exact before
  refine ⟨⟨by rw [session], by rw [opening], fun other => ?_, isReady, fun other gone => ?_⟩, fun safe => ?_⟩
  · rw [sockets]
    split <;> simp
  · rw [sockets]
    cases found : s.socket other with
    | none => simp
    | some known =>
      rw [found] at gone
      split
      · exact destroyed known gone
      · exact gone
  · constructor
    · rw [session]
      exact safe.reads
    · rw [session]
      exact fun known member isSecure => isReady _ (safe.secured known member isSecure)
    · rw [opening]
      exact fun promise member isOk => isReady _ (safe.opened promise member isOk)
    · rw [interpreted]
      exact safe.upgraded
    · rw [sent]
      exact safe.allowed

theorem calm_destroy : Calm input s (s.destroy socket) := calm_editSocket _ (fun _ => id) fun _ _ => rfl

theorem calm_destroyAll : Calm input s s.destroyAll := calm_destroy.trans calm_destroy

theorem closed_destroyAll : Closed s.destroyAll := by
  intro socket
  cases socket <;> simp [State.destroyAll, State.destroy, State.editSocket, State.socket, Option.all_map]

/-- The reader may do whatever keeps it to its connection. -/
theorem calm_editReader {edit : Pop3LineReader → Pop3LineReader}
    (keeps : ∀ socket reader, ReadsFrom socket reader → ReadsFrom socket (edit reader)) :
    Calm input s (s.editReader edit) := by
  refine ⟨⟨?_, rfl, fun _ => rfl, fun _ => id, fun _ => id⟩, fun safe => ⟨?_, ?_, safe.opened, safe.upgraded, safe.allowed⟩⟩
  · simp only [State.editReader, Option.map_map]
    rfl
  · intro session member
    obtain ⟨before, isBefore, rfl⟩ := Option.map_eq_some_iff.1 member
    exact keeps _ _ (safe.reads before isBefore)
  · intro session member
    obtain ⟨before, isBefore, rfl⟩ := Option.map_eq_some_iff.1 member
    exact safe.secured before isBefore

/-- What a reader hears is of its own connection. -/
theorem calm_heard {handler : Pop3LineReader → Pop3LineReader}
    (keeps : ∀ reader, ReadsFrom socket reader → ReadsFrom socket (handler reader)) :
    Calm input s (s.heard socket handler) := by
  apply calm_editReader
  intro other reader reads
  split
  · rename_i hears
    obtain rfl : other = socket := reads.source.symm.trans hears.2
    exact keeps reader reads
  · exact reads

theorem finish_ok {promise : Promise} {result : Except Pop3TestError Unit}
    (isOk : (promise.finish result).settled = some (.ok ())) : promise.settled = some (.ok ()) ∨ result = .ok () := by
  cases before : promise.settled with
  | none =>
    rw [Promise.finish, before] at isOk
    exact Or.inr (Option.some.inj isOk)
  | some first =>
    rw [Promise.finish, before] at isOk
    exact Or.inl isOk

/-- The promise of a connection is kept only when that is ready. -/
theorem calm_opening {edit : Promise → Promise} (writing : Option Promise) (aborted : Bool)
    (same : ∀ promise, (edit promise).socket = promise.socket)
    (kept : ∀ promise, (edit promise).settled = some (.ok ()) →
      promise.settled = some (.ok ()) ∨ s.isReady promise.socket = true) :
    Calm input s { s with opening := s.opening.map edit, writing := writing, aborted := aborted } := by
  refine ⟨⟨rfl, ?_, fun _ => rfl, fun _ => id, fun _ => id⟩,
    fun safe => ⟨safe.reads, safe.secured, fun promise member isOk => ?_, safe.upgraded, safe.allowed⟩⟩
  · simp only [Option.map_map]
    congr 1
    exact funext same
  · obtain ⟨before, isBefore, rfl⟩ := Option.map_eq_some_iff.1 member
    rw [same]
    exact (kept before isOk).elim (safe.opened before isBefore) id

theorem calm_finishOpening {result : Except Pop3TestError Unit} (kept : result = .ok () → s.isReady socket = true) :
    Calm input s (s.finishOpening socket result) := by
  refine calm_opening s.writing s.aborted (fun promise => ?_) fun promise isOk => ?_
  · split <;> rfl
  · split at isOk
    · rename_i isSame
      exact (finish_ok isOk).imp id fun now => isSame ▸ kept now
    · exact Or.inl isOk

theorem calm_failOpening (error : Pop3TestError) : Calm input s (s.finishOpening socket (.error error)) :=
  calm_finishOpening fun same => nomatch same

/-- Other promises, and the word that the test is cancelled, are nobody's concern. -/
theorem calm_writing (writing : Option Promise) (aborted : Bool) :
    Calm input s { s with writing := writing, aborted := aborted } := by
  have calm := @calm_opening input s id writing aborted (fun _ => rfl) fun _ isOk => Or.inl isOk
  rwa [Option.map_id] at calm

theorem calm_giveUp (promise : Option Promise) : Calm input s (s.giveUp promise) := by
  unfold State.giveUp
  split
  · exact calm_destroy
  · exact Calm.refl s

theorem calm_stopWaiting (error : Pop3TestError) : Calm input s (s.stopWaiting error) := by
  have finished : Calm input s { s with
      opening := s.opening.map fun promise => promise.finish (.error error)
      writing := s.writing.map fun promise => promise.finish (.error error) } :=
    calm_opening _ s.aborted (fun _ => rfl) fun _ isOk => (finish_ok isOk).imp id fun same => nomatch same
  have given := (finished.trans (calm_giveUp s.opening)).trans (calm_giveUp s.writing)
  exact given.trans (calm_editReader fun _ _ reads => reads.settle_error error)

/-- Nothing that happens by itself breaks the invariant or moves the test on. -/
theorem calm_happen (event : NetworkEvent) : Calm input s (event.happen s) := by
  cases event with
  | data socket chunk =>
    refine calm_heard fun reader reads => reads.onData fun byte member => ?_
    obtain ⟨_, _, rfl⟩ := List.mem_map.1 member
    rfl
  | ready socket =>
    rw [NetworkEvent.happen]
    split
    · rename_i created
      have isReady : Calm input s (s.editSocket (fun socket => { socket with ready := true }) socket) :=
        calm_editSocket _ (fun _ _ => rfl) fun _ => id
      refine isReady.trans (calm_finishOpening fun _ => ?_)
      obtain ⟨known, found⟩ := Option.isSome_iff_exists.1 created
      cases socket <;> simp_all [State.isReady, State.editSocket, State.socket]
    · exact Calm.refl s
  | error socket =>
    exact (calm_failOpening _).trans (calm_heard fun _ reads => reads.fail _)
  | ended socket => exact calm_heard fun _ reads => reads.fail _
  | closed socket =>
    exact (calm_failOpening _).trans (calm_heard fun _ reads => reads.onClose)
  | wrote failed => exact calm_writing _ s.aborted
  | timer => exact calm_stopWaiting timeoutError
  | abort =>
    simp only [NetworkEvent.happen]
    split
    · exact Calm.refl s
    · exact ((calm_writing s.writing true).trans (calm_stopWaiting cancelledError)).trans calm_destroyAll

end States

section Contract

variable (input : Pop3TestInput)

/-- What must hold when the test comes to an operation. -/
def Demand : Op → State → Prop
  | .connectTls, s =>
    (∀ session ∈ s.session, session.socket = .plain) ∧ ∀ promise ∈ s.opening, promise.socket = .plain
  | .createConnection, s => s.session = none ∧ s.opening = none
  | .openSession socket _, s => socket = .secure → s.isReady .secure = true
  | .replaceWithTls _, s => s.isReady .secure = true
  | .writeSocket payload _, s =>
    ∀ session ∈ s.session, Allowed input session.socket (session.socket = .secure) payload
  | .line, s => ∀ session ∈ s.session, s.secureSocket.isSome = true → session.socket = .secure
  | _, _ => True

/-- The test relies on what happens by itself to be steady. -/
def contract : Contract Op NetworkEvent Choice State where
  starts _ _ := True
  allowed _ _ _ _ := True
  inv := Safe input
  rely task s s' := task = 0 → Steady s s'
  guar task s s' := Safe input s' ∧ (task ≠ 0 → Steady s s')
  demand _ op s := Demand input op s
  ends task s := task = 0 → Closed s

theorem contract_lawful : (contract input).Lawful := by
  constructor
  · exact fun _ s _ => Steady.refl s
  · exact fun _ _ _ _ first second isTest => (first isTest).trans (second isTest)
  · exact fun task other s s' different guaranteed isTest => guaranteed.2 fun same => different (isTest.trans same.symm)
  · exact fun _ _ _ _ guaranteed => guaranteed.1
  · exact fun _ _ _ relies ended isTest => (relies isTest).closed (ended isTest)

variable {input} {s s' : State}

/-- Operations that do not move the test from one connection to another. -/
def Op.isQuiet : Op → Bool
  | .createConnection | .connectTls | .waitForSocket _ _ | .openSession _ _ | .replaceWithTls _ => false
  | _ => true

theorem calm_writeSocket {session : Pop3Session} {payload : List Nat} (isSession : s.session = some session)
    (due : Allowed input session.socket (session.socket = .secure) payload) :
    Calm input s (writeSocket session.socket payload s) := by
  rw [writeSocket]
  split
  · exact calm_writing _ s.aborted
  · refine ⟨⟨rfl, rfl, fun _ => rfl, fun _ => id, fun _ => id⟩,
      fun safe => ⟨safe.reads, safe.secured, safe.opened, safe.upgraded, fun sent member => ?_⟩⟩
    have new : Allowed input session.socket (s.isReady session.socket) payload := by
      obtain ⟨command, argument, permitted, isPayload, isLine, ⟨isSecure, -⟩ | early⟩ := due
      · refine ⟨command, argument, permitted, isPayload, isLine, Or.inl ⟨isSecure, ?_⟩⟩
        rw [isSecure]
        exact safe.secured session isSession isSecure
      · exact ⟨command, argument, permitted, isPayload, isLine, Or.inr early⟩
    simp only at member
    split at member
    · exact safe.allowed sent member
    · rcases List.mem_append.1 member with old | last
      · exact safe.allowed sent old
      · rw [List.mem_singleton.1 last]
        exact new

/-- A line that is read once TLS has begun is read by a session on the secure connection. -/
theorem calm_interpreted {session : Pop3Session} {line : List Received} (isSession : s.session = some session)
    (isLine : session.reader.settled = some (.ok line))
    (due : s.secureSocket.isSome = true → session.socket = .secure) :
    Calm input s { s with interpreted := s.interpreted ++ [⟨s.secureSocket.isSome, line⟩] } := by
  refine ⟨⟨rfl, rfl, fun _ => rfl, fun _ => id, fun _ => id⟩,
    fun safe => ⟨safe.reads, safe.secured, safe.opened, fun entry member upgraded => ?_, safe.allowed⟩⟩
  rcases List.mem_append.1 member with old | last
  · exact safe.upgraded entry old upgraded
  · rw [List.mem_singleton.1 last] at upgraded ⊢
    exact due upgraded ▸ (safe.reads session isSession).settled line isLine

theorem answer_calm {op : Op} {choice : Choice} {reply : Reply op} (quiet : op.isQuiet = true) (due : Demand input op s)
    (answered : environment.answer 0 op choice s = some (reply, s')) : Calm input s s' := by
  cases op <;> cases quiet <;> cases choice <;>
    simp only [environment, reduceCtorEq, Option.some.injEq, Prod.mk.injEq] at answered
  case now | metadata =>
    obtain ⟨-, rfl⟩ := answered
    exact Calm.refl s
  case opened | written =>
    obtain ⟨result, -, same⟩ := Option.map_eq_some_iff.1 answered
    cases same
    exact Calm.refl s
  case writeSocket =>
    obtain ⟨session, isSession, same⟩ := Option.map_eq_some_iff.1 answered
    cases same
    exact calm_writeSocket isSession (due session isSession)
  case readLine =>
    obtain ⟨-, rfl⟩ := answered
    exact calm_editReader fun _ _ reads => reads.readLine _
  case line =>
    obtain ⟨result, isResult, same⟩ := Option.map_eq_some_iff.1 answered
    obtain ⟨session, isSession, settled⟩ := Option.bind_eq_some_iff.1 isResult
    cases result with
    | ok line =>
      cases same
      exact calm_interpreted isSession settled (due session isSession)
    | error error =>
      cases same
      exact Calm.refl s
  case takeSocketForTls =>
    obtain ⟨session, -, same⟩ := Option.map_eq_some_iff.1 answered
    split at same
    · cases same
      exact calm_editReader fun _ _ reads => reads.dispose
    · cases same
      exact Calm.refl s
  case dispose =>
    obtain ⟨-, rfl⟩ := answered
    exact (calm_editReader fun _ _ reads => reads.dispose).trans calm_destroyAll
  case network event =>
    obtain ⟨-, rfl⟩ := answered
    exact calm_happen event

theorem safe_waitForSocket {socket : SocketId} (safe : Safe input s) : Safe input (waitForSocket socket s) := by
  rw [waitForSocket]
  split
  · have destroyed := (@calm_destroy input s socket).safe safe
    exact ⟨destroyed.reads, destroyed.secured, fun promise same isOk => (nomatch Option.some.inj same ▸ isOk),
      destroyed.upgraded, destroyed.allowed⟩
  · exact ⟨safe.reads, safe.secured, fun promise same isOk => (nomatch Option.some.inj same ▸ isOk), safe.upgraded, safe.allowed⟩

theorem safe_session {socket : SocketId} {lineBytes : Nat} (safe : Safe input s)
    (due : socket = .secure → s.isReady .secure = true) :
    Safe input { s with session := some ⟨socket, .create socket lineBytes⟩ } := by
  refine ⟨fun session same => ?_, fun session same isSecure => ?_, safe.opened, safe.upgraded, safe.allowed⟩
  · cases same
    exact readsFrom_create lineBytes
  · cases same
    exact due isSecure

theorem answer_safe {op : Op} {choice : Choice} {reply : Reply op} (safe : Safe input s) (due : Demand input op s)
    (answered : environment.answer 0 op choice s = some (reply, s')) : Safe input s' := by
  by_cases quiet : op.isQuiet = true
  · exact (answer_calm quiet due answered).safe safe
  cases op <;> cases choice <;> simp only [environment, reduceCtorEq, Option.some.injEq, Prod.mk.injEq] at answered <;>
    try exact absurd rfl quiet
  all_goals obtain ⟨-, rfl⟩ := answered
  case createConnection.throws | connectTls.throws => exact safe
  case createConnection.proceeds =>
    obtain ⟨noSession, noOpening⟩ := due
    exact ⟨safe.reads, safe.secured, by simp [noOpening], safe.upgraded, safe.allowed⟩
  case connectTls.proceeds =>
    obtain ⟨session, opening⟩ := due
    refine ⟨safe.reads, fun known member isSecure => ?_, fun promise member isOk => ?_, safe.upgraded, safe.allowed⟩
    · cases isSecure.symm.trans (session known member)
    · have before := safe.opened promise member isOk
      rw [opening promise member] at before ⊢
      exact before
  case waitForSocket.proceeds => exact safe_waitForSocket safe
  case openSession.proceeds => exact safe_session safe due
  case replaceWithTls.proceeds => exact safe_session safe fun _ => due

end Contract

section Positions

/-- Where the test stands: the connection of its session, the one that was opened last, and whether TLS has been
begun. -/
structure At (session opening : Option SocketId) (tls : Bool) (s : State) : Prop where
  session : s.session.map Pop3Session.socket = session
  opening : s.opening.map Promise.socket = opening
  tls : s.secureSocket.isSome = tls

variable {input : Pop3TestInput} {session opening : Option SocketId} {tls : Bool} {s s' : State}

theorem Steady.stays (steady : Steady s s') (place : At session opening tls s) : At session opening tls s' :=
  ⟨steady.session.trans place.session, steady.opening.trans place.opening, (steady.created .secure).trans place.tls⟩

theorem At.socket {socket : SocketId} (place : At (some socket) opening tls s) :
    ∀ known ∈ s.session, known.socket = socket := fun _ member =>
  Option.some.inj ((congrArg _ member).symm.trans place.session)

/-- From one position the test gets to another, unless it fails. -/
def Gives (input : Pop3TestInput) (before after : State → Prop) (p : Test α) : Prop :=
  ∀ s, before s → meets environment (contract input) 0 p (either (fun _ => after) fun _ _ => True) s

variable {before between after : State → Prop} {α β : Type}

theorem gives_done (value : α) : Gives input before before (.done value) := fun _ holds => holds

theorem gives_throw (error : Failure) : Gives input before after (.throw error : Test α) := fun _ _ => trivial

theorem gives_orThrow (result : Except Pop3TestError α) : Gives input before before (orThrow result) := by
  cases result with
  | ok value => exact gives_done value
  | error error => exact gives_throw _

theorem gives_bind {p : Test α} {next : α → Test β} (first : Gives input before between p)
    (rest : ∀ value, Gives input between after (next value)) : Gives input before after (p >>= next) := by
  intro s holds
  refine meets_seq (meets_mono (first s holds) fun result s' ended => ?_)
  cases result with
  | ok value => exact rest value s' ended
  | error error => trivial

/-- What does not change while the test waits. -/
def Stable (before : State → Prop) : Prop := ∀ s s', Steady s s' → before s → before s'

theorem stable_at : Stable (At session opening tls) := fun _ _ steady => steady.stays

theorem gives_call {op : Op} {next : Reply op → Test α} (replied : Reply op → State → Prop) (stable : Stable before)
    (due : ∀ s, before s → Demand input op s)
    (answers : ∀ choice reply s s', before s → Safe input s → environment.answer 0 op choice s = some (reply, s') →
      replied reply s')
    (rest : ∀ reply, Gives input (replied reply) after (next reply)) : Gives input before after (.call op next) := by
  intro s holds s' relies safe
  have here := stable s s' (relies rfl) holds
  refine ⟨due s' here, fun choice reply s'' _ answered => ?_⟩
  exact ⟨⟨answer_safe safe (due s' here) answered, fun isOther => absurd rfl isOther⟩,
    rest reply s'' (answers choice reply s' s'' here safe answered)⟩

/-- An operation that moves nothing. -/
theorem gives_quiet {op : Op} {next : Reply op → Test α} (quiet : op.isQuiet = true) (stable : Stable before)
    (due : ∀ s, before s → Demand input op s) (rest : ∀ reply, Gives input before after (next reply)) :
    Gives input before after (.call op next) :=
  gives_call (fun _ => before) stable due
    (fun _ _ s s' holds _ answered => stable s s' (answer_calm quiet (due s holds) answered).toSteady holds) rest

theorem boundedTimeout_gives (stable : Stable before) (deadline stageTimeoutMs : Nat) :
    Gives input before before (boundedTimeout deadline stageTimeoutMs) := by
  refine gives_quiet rfl stable (fun _ _ => trivial) fun now => ?_
  split
  · exact gives_throw _
  · exact gives_done _

end Positions

section Sessions

variable {input : Pop3TestInput} {socket : SocketId} {opening : Option SocketId} {s : State}

/-- In a session: on the secure connection exactly if TLS has been begun. -/
abbrev On (socket : SocketId) (opening : Option SocketId) : State → Prop :=
  At (some socket) opening (socket = .secure)

theorem awaitLine_gives (timeoutMs : Nat) : Gives input (On socket opening) (On socket opening) (awaitLine timeoutMs) := by
  refine gives_quiet rfl stable_at (fun _ _ => trivial) fun _ => gives_quiet rfl stable_at (fun s on => ?_) gives_orThrow
  intro session member tls
  rw [on.socket session member]
  simpa [on.tls] using tls

variable (limits : Pop3TestLimits Nat) (deadline : Nat)

theorem greeting_gives : Gives input (On socket opening) (On socket opening) (greeting limits deadline) := by
  refine gives_bind (boundedTimeout_gives stable_at _ _) fun timeout => gives_bind (awaitLine_gives timeout) fun line =>
    gives_bind (gives_orThrow _) fun status => ?_
  split
  · exact gives_done _
  · exact gives_throw _

variable {limits deadline}

/-- What may be written on a connection. -/
def Fitting (input : Pop3TestInput) (socket : SocketId) (command : Pop3Command) (argument : Option JsString) : Prop :=
  Permitted input command argument ∧ (∀ text ∈ argument, OneLine text) ∧
    (socket = .plain → command = .CAPA ∨ command = .STLS)

theorem allowed_of_fitting {name : Pop3Command} {argument : Option JsString} (fitting : Fitting input socket name argument) :
    Allowed input socket (socket = .secure) (encoded name argument) := by
  obtain ⟨permitted, oneLine, early⟩ := fitting
  refine ⟨name, argument, permitted, rfl, isLine_encoded oneLine, ?_⟩
  cases socket with
  | plain => exact Or.inr ⟨rfl, early rfl⟩
  | secure => exact Or.inl ⟨rfl, rfl⟩

theorem command_gives {name : Pop3Command} {argument : Option JsString} (fitting : Fitting input socket name argument) :
    Gives input (On socket opening) (On socket opening) (command limits deadline name argument) := by
  rw [command]
  split
  · exact gives_throw _
  · have written (timeout : Nat) : Gives input (On socket opening) (On socket opening)
        (.call (.writeSocket (encoded name argument) timeout) fun _ => .call .written orThrow) := by
      refine gives_quiet rfl stable_at (fun s on session member => ?_) fun _ =>
        gives_quiet rfl stable_at (fun _ _ => trivial) gives_orThrow
      rw [on.socket session member]
      exact allowed_of_fitting fitting
    exact gives_bind (boundedTimeout_gives stable_at _ _) fun timeout => gives_bind (written timeout) fun _ =>
      gives_bind (awaitLine_gives timeout) fun line => gives_orThrow _

theorem required_gives {name : Pop3Command} {argument : Option JsString} {code : Pop3TestErrorCode}
    (fitting : Fitting input socket name argument) :
    Gives input (On socket opening) (On socket opening) (required limits deadline name argument code) := by
  refine gives_bind (command_gives fitting) fun status => ?_
  split
  · exact gives_done _
  · exact gives_throw _

theorem bodyLine_gives (bodyDeadline bytes : Nat) :
    Gives input (On socket opening) (On socket opening) (bodyLine limits deadline bodyDeadline bytes) := by
  refine gives_quiet rfl stable_at (fun _ _ => trivial) fun now =>
    gives_quiet rfl stable_at (fun _ _ => trivial) fun later => ?_
  split
  · exact gives_throw _
  · refine gives_bind (awaitLine_gives _) fun line => ?_
    split
    · exact gives_throw _
    · exact gives_done _

theorem bodyFrom_gives (bodyDeadline left bytes : Nat) :
    Gives input (On socket opening) (On socket opening) (bodyFrom limits deadline bodyDeadline left bytes) := by
  induction left generalizing bytes with
  | zero =>
    refine gives_bind (bodyLine_gives _ _) fun line => ?_
    split
    · exact gives_done _
    · exact gives_throw _
  | succ left ih =>
    refine gives_bind (bodyLine_gives _ _) fun line => ?_
    split
    · exact gives_done _
    · exact gives_bind (ih _) fun _ => gives_done _

theorem multiline_gives {name : Pop3Command} (fitting : Fitting input socket name none) :
    Gives input (On socket opening) (On socket opening) (multiline limits deadline name) :=
  gives_bind (required_gives fitting) fun _ => gives_quiet rfl stable_at (fun _ _ => trivial) fun _ =>
    gives_bind (boundedTimeout_gives stable_at _ _) fun _ => bodyFrom_gives _ _ _

/-- Over TLS every command of the test may come at any time. -/
theorem fitting_secure {name : Pop3Command} {argument : Option JsString} (permitted : Permitted input name argument)
    (oneLine : ∀ text ∈ argument, OneLine text) : Fitting input .secure name argument :=
  ⟨permitted, oneLine, fun same => nomatch same⟩

theorem no_argument : ∀ text ∈ (none : Option JsString), OneLine text := fun _ none => nomatch none

theorem capabilitiesOf_gives :
    Gives input (On socket opening) (On socket opening) (capabilitiesOf limits deadline) :=
  gives_bind (multiline_gives ⟨rfl, no_argument, fun _ => Or.inl rfl⟩) fun _ => gives_orThrow _

theorem sampleFrom_gives (left number : Nat) (seen : List JsString) :
    Gives input (On .secure opening) (On .secure opening) (sampleFrom limits deadline left number seen) := by
  induction left generalizing number seen with
  | zero => exact gives_done _
  | succ left ih =>
    have oneLine : ∀ text ∈ some (decimal number), OneLine text := by
      rintro _ ⟨⟩
      exact digit_oneLine (isDigit_digits _ number)
    refine gives_bind (required_gives (fitting_secure (Or.inr ⟨number, rfl⟩) oneLine)) fun uidl => ?_
    refine gives_bind (gives_orThrow _) fun seen => ?_
    refine gives_bind (required_gives (fitting_secure (Or.inr ⟨number, rfl⟩) oneLine)) fun list => ?_
    exact gives_bind (gives_orThrow _) fun _ => ih _ _

theorem sample_gives (sampledMessageCount : Nat) :
    Gives input (On .secure opening) (On .secure opening) (sample limits deadline sampledMessageCount) := by
  rw [sample]
  split
  · refine gives_bind (multiline_gives (fitting_secure (Or.inl rfl) no_argument)) fun _ => ?_
    exact gives_bind (multiline_gives (fitting_secure (Or.inl rfl) no_argument)) fun _ => gives_done _
  · exact sampleFrom_gives _ _ _

theorem examine_gives (name : OneLine input.username) (secret : OneLine input.secret) (messageLimit : Nat)
    (preTlsCapabilities : List JsString) :
    Gives input (On .secure opening) (On .secure opening)
      (examine limits deadline input messageLimit preTlsCapabilities) := by
  refine gives_bind capabilitiesOf_gives fun capabilities => ?_
  split
  · exact gives_throw _
  · have user : ∀ text ∈ some input.username, OneLine text := by
      rintro _ ⟨⟩
      exact name
    have pass : ∀ text ∈ some input.secret, OneLine text := by
      rintro _ ⟨⟩
      exact secret
    refine gives_bind (required_gives (fitting_secure rfl user)) fun _ => ?_
    refine gives_bind (required_gives (fitting_secure rfl pass)) fun _ => ?_
    refine gives_bind (required_gives (fitting_secure rfl no_argument)) fun stat => ?_
    refine gives_bind (gives_orThrow _) fun mailbox => ?_
    refine gives_bind (sample_gives _) fun _ => ?_
    refine gives_bind (required_gives (fitting_secure rfl no_argument)) fun _ => ?_
    refine gives_bind (gives_quiet rfl stable_at (fun _ _ => trivial) gives_done) fun metadata => ?_
    split
    · exact gives_throw _
    · exact gives_done _

end Sessions

section Connecting

variable {input : Pop3TestInput} {session opening : Option SocketId} {tls : Bool} {socket : SocketId} {s : State}

/-- A connection that has been opened. -/
def Open (session : Option SocketId) (socket : SocketId) (tls : Bool) (s : State) : Prop :=
  At session (some socket) tls s ∧ s.isReady socket = true

theorem stable_open : Stable (Open session socket tls) := fun _ _ steady isOpen =>
  ⟨steady.stays isOpen.1, steady.ready socket isOpen.2⟩

/-- An answer that may be an error: then the test fails. -/
theorem gives_checked {after : State → Prop} {ε α : Type} {result : Except ε α} {next : Except ε α → Test α}
    (ok : ∀ value, next (.ok value) = .done value) (error : ∀ error, ∃ failure, next (.error error) = .throw failure) :
    Gives input (fun s => ∀ value, result = .ok value → after s) after (next result) := by
  cases result with
  | ok value =>
    rw [ok]
    exact fun s holds => holds value rfl
  | error failed =>
    obtain ⟨failure, isFailure⟩ := error failed
    rw [isFailure]
    exact gives_throw _

theorem checked_orThrow {after : State → Prop} {α : Type} {result : Except Pop3TestError α} :
    Gives input (fun s => ∀ value, result = .ok value → after s) after (orThrow result) :=
  gives_checked (fun _ => rfl) fun error => ⟨.test error, rfl⟩

theorem checked_orFail {after : State → Prop} {α : Type} {result : Except Failure α} :
    Gives input (fun s => ∀ value, result = .ok value → after s) after (orFail result) :=
  gives_checked (fun _ => rfl) fun failure => ⟨failure, rfl⟩

theorem awaitSocket_gives (timeoutMs : Nat) :
    Gives input (At session opening tls) (Open session socket tls) (awaitSocket socket timeoutMs) := by
  refine gives_call (fun _ => At session (some socket) tls) stable_at (fun _ _ => trivial)
    (fun choice _ s s' place _ answered => ?_) fun _ => ?_
  · cases choice <;> cases answered
    unfold waitForSocket
    split
    · have destroyed := (@calm_destroy input s socket).toSteady.stays place
      exact ⟨destroyed.session, rfl, destroyed.tls⟩
    · exact ⟨place.session, rfl, place.tls⟩
  · refine gives_call (fun result s => ∀ value, result = .ok value → Open session socket tls s) stable_at
      (fun _ _ => trivial) (fun choice result s s' place safe answered => ?_) fun _ => checked_orThrow
    cases choice <;> simp only [environment, reduceCtorEq] at answered
    obtain ⟨result', settled, same⟩ := Option.map_eq_some_iff.1 answered
    cases same
    rintro ⟨⟩ rfl
    obtain ⟨promise, isPromise, isOk⟩ := Option.bind_eq_some_iff.1 settled
    obtain rfl : promise.socket = socket := Option.some.inj ((congrArg _ isPromise).symm.trans place.opening)
    exact ⟨place, safe.opened promise isPromise isOk⟩

theorem createConnection_gives :
    Gives input (At none none false) (At none none false) (.call .createConnection orFail) := by
  refine gives_call (fun result s => ∀ value, result = .ok value → At none none false s) stable_at
    (fun s place => ⟨Option.map_eq_none_iff.1 place.session, Option.map_eq_none_iff.1 place.opening⟩)
    (fun choice result s s' place _ answered => ?_) fun _ => checked_orFail
  cases choice <;> cases answered
  · exact fun _ _ => ⟨place.session, place.opening, place.tls⟩
  · exact fun _ same => nomatch same

/-- TLS is begun before any session is on it. -/
theorem connectTls_gives (early : session ≠ some .secure) (first : opening ≠ some .secure) :
    Gives input (At session opening tls) (At session opening true) (.call .connectTls orFail) := by
  have plain {known : SocketId} {which : Option SocketId} (isKnown : some known = which) (other : which ≠ some .secure) :
      known = .plain := by
    cases known with
    | plain => rfl
    | secure => exact absurd isKnown.symm other
  refine gives_call (fun result s => ∀ value, result = .ok value → At session opening true s) stable_at
    (fun s place => ⟨fun known member => ?_, fun known member => ?_⟩) (fun choice result s s' place _ answered => ?_)
    fun _ => checked_orFail
  · exact plain ((congrArg _ member).symm.trans place.session) early
  · exact plain ((congrArg _ member).symm.trans place.opening) first
  · cases choice <;> cases answered
    · exact fun _ _ => ⟨place.session, place.opening, rfl⟩
    · exact fun _ same => nomatch same

theorem openSession_gives (lineBytes : Nat) :
    Gives input (Open none socket tls) (At (some socket) (some socket) tls) (.call (.openSession socket lineBytes) .done) := by
  refine gives_call (fun _ => At (some socket) (some socket) tls) stable_open (fun s isOpen isSecure => isSecure ▸ isOpen.2)
    (fun choice _ s s' isOpen _ answered => ?_) gives_done
  cases choice <;> cases answered
  exact ⟨rfl, isOpen.1.opening, isOpen.1.tls⟩

theorem replaceWithTls_gives (lineBytes : Nat) :
    Gives input (Open session .secure tls) (At (some .secure) (some .secure) tls) (.call (.replaceWithTls lineBytes) .done) := by
  refine gives_call (fun _ => At (some .secure) (some .secure) tls) stable_open (fun s isOpen => isOpen.2)
    (fun choice _ s s' isOpen _ answered => ?_) gives_done
  cases choice <;> cases answered
  exact ⟨rfl, isOpen.1.opening, isOpen.1.tls⟩

variable {limits : Pop3TestLimits Nat} {deadline : Nat}

theorem connectWithTls_gives :
    Gives input (At none none false) (On .secure (some .secure)) (connectWithTls limits deadline) := by
  refine gives_bind (connectTls_gives (by decide) (by decide)) fun _ => ?_
  refine gives_bind (boundedTimeout_gives stable_at _ _) fun timeout => ?_
  refine gives_bind (awaitSocket_gives timeout) fun _ => ?_
  exact gives_bind (openSession_gives _) fun _ => greeting_gives _ _

theorem connectWithStartTls_gives :
    Gives input (At none none false) (On .secure (some .secure)) (connectWithStartTls limits deadline) := by
  refine gives_bind createConnection_gives fun _ => ?_
  refine gives_bind (boundedTimeout_gives stable_at _ _) fun timeout => ?_
  refine gives_bind (awaitSocket_gives timeout) fun _ => ?_
  refine gives_bind (openSession_gives _) fun _ => ?_
  refine gives_bind (greeting_gives _ _) fun _ => ?_
  refine gives_bind capabilitiesOf_gives fun preTlsCapabilities => ?_
  split
  · exact gives_throw _
  · refine gives_bind (required_gives ⟨rfl, no_argument, fun _ => Or.inr rfl⟩) fun _ => ?_
    refine gives_bind (gives_quiet rfl stable_at (fun _ _ => trivial) gives_orThrow) fun _ => ?_
    refine gives_bind (connectTls_gives (by decide) (by decide)) fun _ => ?_
    refine gives_bind (boundedTimeout_gives stable_at _ _) fun timeout => ?_
    refine gives_bind (awaitSocket_gives timeout) fun _ => ?_
    exact gives_bind (replaceWithTls_gives _) fun _ => gives_done _

theorem connect_gives : Gives input (At none none false) (On .secure (some .secure)) (connect limits deadline input) := by
  rw [connect]
  split
  · exact gives_bind connectWithTls_gives fun _ => gives_done _
  · exact connectWithStartTls_gives

theorem conversation_gives (name : OneLine input.username) (secret : OneLine input.secret) (messageLimit : Nat) :
    Gives input (At none none false) (On .secure (some .secure)) (conversation limits deadline input messageLimit) :=
  gives_bind connect_gives fun _ => examine_gives name secret messageLimit _

end Connecting

section Runs

variable {input : Pop3TestInput} {overrides : Pop3TestLimits (Option JsNumber)} {s : State}

/-- However the test ends, it leaves no connection open. -/
theorem dispose_meets : meets environment (contract input) 0 (.call .dispose .done : Test Unit) (fun _ => Closed) s := by
  intro s' _ safe
  have due : Demand input .dispose s' := trivial
  refine ⟨due, fun choice _ s'' _ answered => ⟨⟨answer_safe safe due answered, fun isOther => absurd rfl isOther⟩, ?_⟩⟩
  cases choice <;> cases answered
  exact closed_destroyAll

theorem closed_initial : Closed .initial := by rintro (_ | _) <;> rfl

theorem orThrow_meets {α β : Type} {result : Except Pop3TestError α} {next : α → Test β}
    (goes : ∀ value, result = .ok value → meets environment (contract input) 0 (next value) (fun _ => Closed) .initial) :
    meets environment (contract input) 0 (orThrow result >>= next) (fun _ => Closed) .initial := by
  cases result with
  | ok value => exact goes value rfl
  | error error => exact closed_initial

theorem testPop3Account_meets :
    meets environment (contract input) 0 (testPop3Account input overrides) (fun _ => Closed) .initial := by
  refine orThrow_meets fun messageLimit sound => orThrow_meets fun limits _ => ?_
  obtain ⟨name, secret⟩ := assertInput_oneLine sound
  intro s relies safe
  have fresh : At none none false s := (relies rfl).stays ⟨rfl, rfl, rfl⟩
  refine ⟨trivial, fun choice now s' _ answered => ?_⟩
  cases choice <;> cases answered
  refine ⟨⟨safe, fun isOther => absurd rfl isOther⟩, meets_finally (meets_catching ?_)⟩
  have ends (result : Except Failure Pop3TestResult) (s : State) : meets environment (contract input) 0
      (.call .dispose .done : Test Unit) (either (fun _ => Closed) fun _ => Closed) s := by
    refine meets_mono dispose_meets fun ended s' closed => ?_
    cases ended <;> exact closed
  refine meets_mono (conversation_gives name secret messageLimit s fresh) fun result s' _ => ?_
  cases result with
  | ok value => exact ends (.ok value) s'
  | error failure => exact ends (.error (.test (sanitizedTransportError failure))) s'

/-- At the start nothing has gone wrong, and the test keeps its contract. -/
theorem start_kept : (start input overrides).Kept environment (contract input) := by
  refine ⟨safe_initial input, fun task p found => ?_, fun task unstarted isTest => ?_⟩
  · cases task with
    | zero =>
      cases found
      refine meets_seq (meets_mono testPop3Account_meets fun result s closed => ?_)
      cases result <;> exact fun _ => closed
    | succ task => cases found
  · subst isTest
    exact absurd unstarted (Nat.not_succ_le_zero 0)

theorem happening_meets (event : NetworkEvent) (task : Nat) (ended : task = 0 → Closed s) :
    meets environment (contract input) task (happening event) (fun _ s => task = 0 → Closed s) s := by
  intro s' relies safe
  refine ⟨trivial, fun choice _ s'' _ answered => ?_⟩
  cases choice <;> cases answered
  have calm := @calm_happen input s' event
  exact ⟨⟨calm.safe safe, fun _ => calm.toSteady⟩, fun isTest => calm.toSteady.closed ((relies isTest).closed (ended isTest))⟩

/-- In every run, against any server and any network: what is written is one line of one of eight commands, over TLS
once the handshake is complete, or one of the two without credentials that come before; a line that is read once TLS
has begun came over TLS as a whole; and no connection is left open. -/
theorem pop3Test_safe {events : List (Event NetworkEvent Choice)} {after : World Op Reply Failure State}
    (ran : Reaches input overrides events after) :
    (∀ sent ∈ after.state.sent, Allowed input sent.socket sent.secured sent.payload) ∧
      (∀ entry ∈ after.state.interpreted, entry.upgraded = true → ∀ byte ∈ entry.line, byte.source = .secure) ∧
      ∀ p, after.tasks[0]? = some p → due p = none → Closed after.state := by
  have kept : after.Kept environment (contract input) :=
    run_kept (contract_lawful input) (fun task event _ _ ended _ => happening_meets event task ended) start_kept
      (World.admitted_of_always (fun _ _ => trivial) (fun _ _ _ _ => trivial) _ events) ran
  refine ⟨kept.inv.allowed, kept.inv.upgraded, fun p found ended => ?_⟩
  have meets := kept.tasks 0 p found
  cases p with
  | done value => exact meets rfl
  | throw error => exact meets rfl
  | call op next => cases ended

/-- What happens by itself and how the operations of the test are answered, as one run. -/
def script (next : Nat) : List (NetworkEvent ⊕ Choice) → List (Event NetworkEvent Choice)
  | [] => []
  | .inl event :: rest => .start event :: .act next .proceeds :: script (next + 1) rest
  | .inr choice :: rest => .act 0 choice :: script next rest

def answers (socket : SocketId) (text : String) : NetworkEvent ⊕ Choice :=
  .inl (.data socket ((ofString text).map (fun unit => UInt8.ofNat unit.toNat) ++ [13, 10]))

/-- A command that is answered in one line. -/
def exchange (socket : SocketId) (text : String) : List (NetworkEvent ⊕ Choice) :=
  [.inr (.clock 0), .inr .proceeds, .inl (.wrote false), .inr .proceeds, .inr .proceeds, answers socket text, .inr .proceeds]

/-- A command that is answered in many. -/
def listing (socket : SocketId) (lines : List String) : List (NetworkEvent ⊕ Choice) :=
  exchange socket "+OK" ++ [.inr (.clock 0), .inr (.clock 0)] ++
    (lines ++ ["."]).flatMap fun text => [.inr (.clock 0), .inr (.clock 0), .inr .proceeds, answers socket text, .inr .proceeds]

def starttlsInput : Pop3TestInput :=
  ⟨ofString "mail.example", .finite 110, .starttls, ofString "me", ofString "secret", .finite 10⟩

def noOverrides : Pop3TestLimits (Option JsNumber) := ⟨none, none, none, none, none, none, none, none, none, none⟩

/-- An account with an empty mailbox is tested over a connection that is upgraded. -/
def upgradedTest : List (Event NetworkEvent Choice) :=
  script 1 <|
    [.inr (.clock 0), .inr .proceeds, .inr (.clock 0), .inr .proceeds, .inl (.ready .plain), .inr .proceeds, .inr .proceeds,
      .inr (.clock 0), .inr .proceeds, answers .plain "+OK", .inr .proceeds] ++
    listing .plain ["STLS"] ++ exchange .plain "+OK" ++
    [.inr .proceeds, .inr .proceeds, .inr (.clock 0), .inr .proceeds, .inl (.ready .secure), .inr .proceeds, .inr .proceeds] ++
    listing .secure ["UIDL", "USER"] ++ exchange .secure "+OK" ++ exchange .secure "+OK" ++ exchange .secure "+OK 0 0" ++
    listing .secure [] ++ listing .secure [] ++ exchange .secure "+OK" ++
    [.inr (.negotiated ⟨ofString "TLSv1.3", ofString "AES", true⟩), .inr .proceeds]

theorem upgradedTest_safe : ∃ after, Reaches starttlsInput noOverrides upgradedTest after ∧
    (∀ sent ∈ after.state.sent, Allowed starttlsInput sent.socket sent.secured sent.payload) ∧
      (∀ entry ∈ after.state.interpreted, entry.upgraded = true → ∀ byte ∈ entry.line, byte.source = .secure) ∧
      ∀ p, after.tasks[0]? = some p → due p = none → Closed after.state := by
  have runs : (World.run environment happening (start starttlsInput noOverrides) upgradedTest).isSome = true := by
    decide +kernel
  obtain ⟨after, ran⟩ := Option.isSome_iff_exists.1 runs
  exact ⟨after, ran, pop3Test_safe ran⟩

end Runs

end Pop3Test
