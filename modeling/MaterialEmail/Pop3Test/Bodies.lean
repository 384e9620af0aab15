import MaterialEmail.Library.Completion
import MaterialEmail.Pop3Test.Chunking

/-! Replies of several lines. Whatever lines a server sends, with a dot before those that begin with one and with a
single dot after them all, come out of the conversation as they were, and what is sent after them is left. -/
namespace Pop3Test

open JsString Interrupted Interleaved

section Wire

/-- A line as it is sent: a dot at its beginning is doubled. -/
def stuffed : List UInt8 → List UInt8
  | 46 :: rest => 46 :: 46 :: rest
  | line => line

/-- The bytes of a body, to its end. -/
def wire (lines : List (List UInt8)) : List UInt8 := lines.flatMap (fun line => terminated (stuffed line)) ++ terminated [46]

theorem unstuffed_stuffed (line : List UInt8) : unstuffed (stuffed line) = line := by
  unfold stuffed
  split
  · rfl
  · rename_i notDot
    unfold unstuffed
    split
    · exact absurd rfl (notDot _)
    · rfl

theorem stuffed_ne_dot (line : List UInt8) : stuffed line ≠ [46] := by
  unfold stuffed
  split
  · exact fun same => by cases same
  · rename_i notDot
    exact fun same => notDot [] same

theorem mem_stuffed {byte : UInt8} {line : List UInt8} (member : byte ∈ stuffed line) : byte ∈ line ∨ byte = 46 := by
  unfold stuffed at member
  split at member
  · rcases List.mem_cons.1 member with rfl | member
    · exact Or.inr rfl
    · exact Or.inl member
  · exact Or.inl member

theorem wire_cons (line : List UInt8) (lines : List (List UInt8)) :
    wire (line :: lines) = terminated (stuffed line) ++ wire lines := by
  rw [wire, List.flatMap_cons, List.append_assoc]
  rfl

end Wire

section Reading

/-- A reader that nobody waits for, from which what is left of a stream will be read. -/
structure Reads (socket : SocketId) (maxLineBytes : Nat) (stream : List UInt8) (reader : Pop3LineReader) (toCome : List UInt8) :
    Prop where
  listening : reader.listening = true
  socket : reader.socket = socket
  limit : reader.maxLineBytes = maxLineBytes
  quiet : reader.pending = false
  queued : ∀ line ∈ reader.lines, 10 ∉ bytesOf line
  left : ∃ tail, stream = reader.lines.flatMap (fun line => terminated (bytesOf line)) ++ tail ∧
    LeftOver maxLineBytes toCome tail (if reader.terminalError = none then some reader.buffer else none)

/-- A reader that has been asked for a line which has not come yet. -/
structure Waits (socket : SocketId) (maxLineBytes : Nat) (line rest : List UInt8) (reader : Pop3LineReader)
    (toCome : List UInt8) : Prop where
  listening : reader.listening = true
  socket : reader.socket = socket
  limit : reader.maxLineBytes = maxLineBytes
  waiting : reader.pending = true ∧ reader.settled = none
  queued : reader.lines = []
  alive : reader.terminalError = none
  left : bytesOf reader.buffer ++ toCome = terminated line ++ rest
  open_ : 10 ∉ bytesOf reader.buffer

variable {socket : SocketId} {maxLineBytes : Nat} {stream toCome line rest : List UInt8} {reader : Pop3LineReader}

structure Same (reader reader' : Pop3LineReader) : Prop where
  listening : reader'.listening = reader.listening
  socket : reader'.socket = reader.socket

theorem same_settle (reader : Pop3LineReader) (result : Except Pop3TestError Line) : Same reader (reader.settle result) := by
  rw [Pop3LineReader.settle]
  split <;> exact ⟨rfl, rfl⟩

theorem same_fail (error : Pop3TestError) : Same reader (reader.fail error) := by
  rw [Pop3LineReader.fail]
  split
  · exact ⟨rfl, rfl⟩
  · obtain ⟨listening, socket⟩ := same_settle { reader with terminalError := some error } (.error error)
    exact ⟨listening, socket⟩

theorem same_takeLines (reader : Pop3LineReader) (turns : Nat) : Same reader (reader.takeLines turns) := by
  induction turns generalizing reader with
  | zero => exact ⟨rfl, rfl⟩
  | succ turns ih =>
    rw [Pop3LineReader.takeLines]
    split
    · split
      · exact same_fail _
      · exact ⟨rfl, rfl⟩
    · split
      · exact same_fail _
      · split
        · exact same_fail _
        · rename_i lf _ _ _
          obtain ⟨listening, socket⟩ := ih ({ reader with buffer := reader.buffer.drop (lf + 1) }.deliver
            (reader.buffer.take (lf - 1)))
          have delivers : Same reader ({ reader with buffer := reader.buffer.drop (lf + 1) }.deliver
              (reader.buffer.take (lf - 1))) := by
            rw [Pop3LineReader.deliver]
            split
            · obtain ⟨listening, socket⟩ := same_settle { reader with buffer := reader.buffer.drop (lf + 1) }
                (.ok (reader.buffer.take (lf - 1)))
              exact ⟨listening, socket⟩
            · exact ⟨rfl, rfl⟩
          exact ⟨listening.trans delivers.listening, socket.trans delivers.socket⟩

theorem reads_of_takes {reader' : Pop3LineReader} {bytes : List Received} {lines : List Line} {left : Option (List Received)}
    (frames : Frames maxLineBytes bytes lines left) (takes : Takes reader reader' lines left) (same : Same reader reader')
    (listening : reader.listening = true) (isSocket : reader.socket = socket) (limit : reader.maxLineBytes = maxLineBytes)
    (quiet : reader.pending = false) (queued : ∀ line ∈ reader.lines, 10 ∉ bytesOf line)
    (is : stream = reader.lines.flatMap (fun line => terminated (bytesOf line)) ++ (bytesOf bytes ++ toCome)) :
    Reads socket maxLineBytes stream reader' toCome := by
  obtain ⟨clean, tail, isTail, isLeft⟩ := frames.split toCome
  have all : reader'.lines = reader.lines ++ lines := by
    have taken := takes.lines
    rwa [answerOf_quiet quiet] at taken
  have remains : (if reader'.terminalError = none then some reader'.buffer else none) = left := by
    have terminal := takes.terminal
    cases left with
    | none =>
      rw [if_neg fun alive => by simp [alive] at terminal]
    | some left =>
      rw [if_pos (by simpa using terminal), takes.buffer left rfl]
  refine ⟨same.listening.trans listening, same.socket.trans isSocket, takes.limit.trans limit, (takes.quiet quiet).1,
    fun line member => ?_, tail, ?_, by rwa [remains]⟩
  · rcases List.mem_append.1 (all ▸ member) with old | new
    · exact queued line old
    · exact clean line new
  · rw [is, isTail, all, List.flatMap_append, List.append_assoc]

abbrev received (socket : SocketId) (chunk : List UInt8) : List Received := chunk.map (⟨socket, ·⟩)

theorem bytesOf_append (bytes bytes' : List Received) : bytesOf (bytes ++ bytes') = bytesOf bytes ++ bytesOf bytes' :=
  List.map_append

theorem bytesOf_received (chunk : List UInt8) : bytesOf (received socket chunk) = chunk := by
  rw [bytesOf, received, List.map_map]
  exact List.map_id _

theorem same_onData (chunk : List Received) : Same reader (reader.onData chunk) := by
  rw [Pop3LineReader.onData]
  split
  · exact ⟨rfl, rfl⟩
  · obtain ⟨listening, socket⟩ := same_takeLines { reader with buffer := reader.buffer ++ chunk }
      ((reader.buffer ++ chunk).length + 1)
    exact ⟨listening, socket⟩

theorem Reads.data {chunk : List UInt8} (reads : Reads socket maxLineBytes stream reader (chunk ++ toCome)) :
    Reads socket maxLineBytes stream (reader.onData (received socket chunk)) toCome ∧
      (reader.onData (received socket chunk)).settled = reader.settled := by
  obtain ⟨tail, isStream, isLeft⟩ := reads.left
  cases dead : reader.terminalError with
  | some error =>
    have stays : reader.onData (received socket chunk) = reader := by simp [Pop3LineReader.onData, dead]
    rw [dead, if_neg (Option.some_ne_none error)] at isLeft
    rw [stays]
    refine ⟨⟨reads.listening, reads.socket, reads.limit, reads.quiet, reads.queued, tail, isStream, ?_⟩, rfl⟩
    rw [dead, if_neg (Option.some_ne_none error)]
    exact isLeft
  | none =>
    rw [dead, if_pos rfl] at isLeft
    obtain ⟨rfl, -⟩ := isLeft
    obtain ⟨lines, left, frames⟩ := frames_exists maxLineBytes (reader.buffer ++ received socket chunk)
    have takes := onData_takes reader frames reads.limit dead fun still => by simp [reads.quiet] at still
    refine ⟨reads_of_takes frames takes (same_onData _) reads.listening reads.socket reads.limit reads.quiet reads.queued ?_,
      (takes.quiet reads.quiet).2⟩
    rw [isStream, bytesOf_append, bytesOf_received, List.append_assoc]

/-- A line has been asked for, and it has come or not. -/
inductive Asked (socket : SocketId) (maxLineBytes : Nat) (line rest : List UInt8) (reader : Pop3LineReader)
    (toCome : List UInt8) : Prop where
  | waits (waits : Waits socket maxLineBytes line rest reader toCome)
  | answered (taken : Line) (settled : reader.settled = some (.ok taken)) (isLine : bytesOf taken = line)
      (reads : Reads socket maxLineBytes rest reader toCome)

theorem Waits.data {chunk : List UInt8} (waits : Waits socket maxLineBytes line rest reader (chunk ++ toCome))
    (fits : Fits maxLineBytes line) : Asked socket maxLineBytes line rest (reader.onData (received socket chunk)) toCome := by
  let bytes := reader.buffer ++ received socket chunk
  have whole : bytesOf (bytes ++ received socket toCome) = terminated line ++ rest := by
    rw [bytesOf_append, bytesOf_append, bytesOf_received, bytesOf_received, List.append_assoc]
    exact waits.left
  obtain ⟨found, isCr, isLine, isRest⟩ := terminated_split whole fits.open_
  have is : reader.onData (received socket chunk) =
      ({ reader with buffer := bytes } : Pop3LineReader).takeLines (bytes.length + 1) := by
    simp [Pop3LineReader.onData, waits.alive, bytes]
  have short := fits.short
  have limit := waits.limit
  rw [is, Pop3LineReader.takeLines]
  cases here : bytes.findIdx? (·.byte = 10) with
  | none =>
    have unfinished : bytes.length ≤ line.length + 1 := by
      rw [List.findIdx?_append, here, Option.none_or, Option.map_eq_some_iff] at found
      obtain ⟨index, -, isIndex⟩ := found
      omega
    rw [bytesOf_append, bytesOf_received] at whole
    dsimp only
    rw [if_neg (by omega)]
    exact .waits ⟨waits.listening, waits.socket, limit, waits.waiting, waits.queued, waits.alive, whole,
      findIdx?_eq_none.1 here⟩
  | some lf =>
    have inside := found_lt here
    cases (found_append here).symm.trans found
    rw [List.getElem?_append_left (by omega)] at isCr
    rw [List.take_append_of_le_length (by omega)] at isLine
    rw [List.drop_append_of_le_length (by omega), bytesOf_append, bytesOf_received] at isRest
    dsimp only
    rw [if_neg (by rw [Nat.add_sub_cancel, isCr]; simp), if_neg (by omega), Nat.add_sub_cancel]
    let next : Pop3LineReader := { reader with
      buffer := bytes.drop (line.length + 2), pending := false, settled := some (.ok (bytes.take line.length)) }
    have delivers : Pop3LineReader.deliver { reader with buffer := bytes.drop (line.length + 1 + 1) } (bytes.take line.length) =
        next := by
      simp [Pop3LineReader.deliver, Pop3LineReader.settle, waits.waiting.1, next]
    rw [delivers]
    obtain ⟨lines, left, frames⟩ := frames_exists maxLineBytes next.buffer
    have takes := takeLines_takes next frames rfl limit waits.alive (fun still => by cases still)
      (show (bytes.drop (line.length + 2)).length < bytes.length by rw [List.length_drop]; omega)
    refine .answered _ ((takes.quiet rfl).2) isLine ?_
    refine reads_of_takes frames takes (same_takeLines _ _) waits.listening waits.socket limit rfl ?_ ?_
    · rw [show next.lines = [] from waits.queued]
      exact List.forall_mem_nil _
    · rw [show next.lines = [] from waits.queued, List.flatMap_nil, List.nil_append]
      exact isRest.symm

theorem terminated_inj {line' rest' : List UInt8} (same : terminated line ++ rest = terminated line' ++ rest')
    (open_ : 10 ∉ line) (open' : 10 ∉ line') : line = line' ∧ rest = rest' := by
  have is : bytesOf (received .plain (terminated line ++ rest)) = terminated line ++ rest := bytesOf_received _
  obtain ⟨found, -, isLine, isRest⟩ := terminated_split is open_
  obtain ⟨found', -, isLine', isRest'⟩ := terminated_split (is.trans same) open'
  have size : line.length = line'.length := by
    have both := Option.some.inj (found.symm.trans found')
    omega
  rw [size] at isLine isRest
  exact ⟨isLine.symm.trans isLine', isRest.symm.trans isRest'⟩

theorem Reads.readLine (reads : Reads socket maxLineBytes (terminated line ++ rest) reader toCome)
    (fits : Fits maxLineBytes line) : Asked socket maxLineBytes line rest (reader.readLine false) toCome := by
  obtain ⟨tail, isStream, isLeft⟩ := reads.left
  have quiet := reads.quiet
  cases queue : reader.lines with
  | cons queued others =>
    have is : reader.readLine false = { reader with lines := others, settled := some (.ok queued) } := by
      simp [Pop3LineReader.readLine, queue]
    have open_ := reads.queued
    rw [queue] at isStream open_
    rw [List.flatMap_cons, List.append_assoc] at isStream
    obtain ⟨isLine, isRest⟩ := terminated_inj isStream fits.open_ (open_ queued List.mem_cons_self)
    rw [is]
    exact .answered queued rfl isLine.symm ⟨reads.listening, reads.socket, reads.limit, quiet,
      fun line member => open_ line (List.mem_cons_of_mem _ member), tail, isRest, isLeft⟩
  | nil =>
    rw [queue, List.flatMap_nil, List.nil_append] at isStream
    cases dead : reader.terminalError with
    | some error =>
      rw [dead, if_neg (Option.some_ne_none error)] at isLeft
      exact absurd isStream.symm (isLeft line rest fits)
    | none =>
      rw [dead, if_pos rfl] at isLeft
      have is : reader.readLine false = { reader with pending := true, settled := none } := by
        simp [Pop3LineReader.readLine, queue, dead, quiet]
      rw [is]
      exact .waits ⟨reads.listening, reads.socket, reads.limit, ⟨rfl, rfl⟩, queue, dead, isLeft.1.symm.trans isStream.symm,
        isLeft.2⟩

end Reading

section Sessions

/-- A state, and the bytes that the server has sent and that have not arrived. -/
abbrev Situation := State × List UInt8

/-- What happens by itself on a connection that holds: bytes arrive, in pieces of any size, and what has been written
is sent. -/
inductive Meanwhile (socket : SocketId) : Situation → Situation → Prop where
  | arrives {s : State} {chunk toCome : List UInt8} (nonempty : chunk ≠ []) :
      Meanwhile socket (s, chunk ++ toCome) ((NetworkEvent.data socket chunk).happen s, toCome)
  | sent {s : State} {toCome : List UInt8} {over_ : SocketId} (writing : s.writing = some ⟨over_, none⟩) :
      Meanwhile socket (s, toCome) ((NetworkEvent.wrote false).happen s, toCome)

/-- The clock shows a time of some span. -/
def Timely (start patience : Nat) (choice : Choice) : Prop :=
  ∀ now, choice = .clock now → start ≤ now ∧ now ≤ start + patience

/-- A conversation in which no time runs out. -/
def connection (socket : SocketId) (start patience : Nat) : Surrounding Op Reply Situation where
  answers op c reply c' :=
    c'.2 = c.2 ∧ ∃ choice, Timely start patience choice ∧ environment.answer 0 op choice c.1 = some (reply, c'.1)
  meanwhile := Meanwhile socket

/-- A session with a reader of some kind. -/
structure Serves (holds : Pop3LineReader → List UInt8 → Prop) (socket : SocketId) (c : Situation) : Prop where
  session : ∃ reader, c.1.session = some ⟨socket, reader⟩ ∧ holds reader c.2
  running : c.1.aborted = false

variable {socket : SocketId} {start patience maxLineBytes : Nat} {stream line rest : List UInt8} {c c' : Situation}

/-- Nothing can go on happening for ever: bytes run out, and what is written is sent once. -/
theorem meanwhile_wf (socket : SocketId) : WellFounded fun c' c => Meanwhile socket c c' := by
  let size (c : Situation) : Nat := 2 * c.2.length + if c.1.writing.any (·.settled.isNone) then 1 else 0
  refine Subrelation.wf ?_ (measure size).wf
  intro c' c happens
  cases happens with
  | @arrives s chunk toCome nonempty =>
    have positive := List.length_pos_iff.2 nonempty
    show size _ < size _
    simp only [size, List.length_append]
    split <;> split <;> omega
  | sent writing =>
    show size _ < size _
    simp [size, NetworkEvent.happen, writing, Promise.finish]

theorem serves_lasts {holds : Pop3LineReader → List UInt8 → Prop}
    (listens : ∀ reader toCome, holds reader toCome → reader.listening = true ∧ reader.socket = socket)
    (data : ∀ reader chunk toCome, holds reader (chunk ++ toCome) → holds (reader.onData (received socket chunk)) toCome) :
    Lasts (connection socket start patience) (Serves holds socket) := by
  intro c c' happens serves
  obtain ⟨reader, isSession, kept⟩ := serves.session
  cases happens with
  | @arrives s chunk toCome nonempty =>
    obtain ⟨listening, isSocket⟩ := listens reader _ kept
    refine ⟨⟨_, ?_, data reader chunk toCome kept⟩, serves.running⟩
    have session : s.session = some ⟨socket, reader⟩ := isSession
    simp [NetworkEvent.happen, State.heard, State.editReader, session, listening, isSocket]
  | sent writing => exact ⟨⟨reader, isSession, kept⟩, serves.running⟩

theorem reads_lasts : Lasts (connection socket start patience) (Serves (Reads socket maxLineBytes stream) socket) :=
  serves_lasts (fun _ _ reads => ⟨reads.listening, reads.socket⟩) fun _ _ _ reads => reads.data.1

theorem asked_lasts (fits : Fits maxLineBytes line) :
    Lasts (connection socket start patience) (Serves (Asked socket maxLineBytes line rest) socket) := by
  refine serves_lasts (fun reader toCome asked => ?_) fun reader chunk toCome asked => ?_
  · cases asked with
    | waits waits => exact ⟨waits.listening, waits.socket⟩
    | answered taken settled isLine reads => exact ⟨reads.listening, reads.socket⟩
  · cases asked with
    | waits waits => exact waits.data fits
    | answered taken settled isLine reads =>
      obtain ⟨still, same⟩ := reads.data
      exact .answered taken (same.trans settled) isLine still

theorem Waits.comes {reader : Pop3LineReader} {toCome : List UInt8} (waits : Waits socket maxLineBytes line rest reader toCome) :
    toCome ≠ [] := by
  rintro rfl
  have left := waits.left
  rw [List.append_nil] at left
  exact waits.open_ (left ▸ by simp [terminated])

def State.taking (s : State) (taken : Line) : State :=
  { s with interpreted := s.interpreted ++ [⟨s.secureSocket.isSome, taken⟩] }

theorem answer_line {s : State} {reader : Pop3LineReader} {taken : Line} (isSession : s.session = some ⟨socket, reader⟩)
    (settled : reader.settled = some (.ok taken)) :
    environment.answer 0 .line .proceeds s = some (.ok (bytesOf taken), s.taking taken) := by
  simp [environment, isSession, settled, State.taking]

theorem line_answered {s s' : State} {reader : Pop3LineReader} {choice : Choice} {reply : Except Pop3TestError (List UInt8)}
    (isSession : s.session = some ⟨socket, reader⟩) (answered : environment.answer 0 .line choice s = some (reply, s')) :
    choice = .proceeds ∧ reader.settled.isSome = true := by
  cases choice <;> simp only [environment, reduceCtorEq] at answered
  refine ⟨rfl, ?_⟩
  obtain ⟨result, isResult, -⟩ := Option.map_eq_some_iff.1 answered
  rw [isSession] at isResult
  exact Option.isSome_of_mem isResult

theorem awaitLine_completes (fits : Fits maxLineBytes line) (timeoutMs : Nat)
    (serves : Serves (Reads socket maxLineBytes (terminated line ++ rest)) socket c) :
    Completes (connection socket start patience)
      (fun value c' => value = line ∧ Serves (Reads socket maxLineBytes rest) socket c') (awaitLine timeoutMs) c := by
  refine completes_call reads_lasts serves (fun c serves => ?_) fun c reply c' serves answered => ?_
  · exact Or.inl ⟨(), (c.1.editReader fun reader => reader.readLine c.1.aborted, c.2), rfl, .proceeds, nofun, rfl⟩
  obtain ⟨same, choice, -, answered⟩ := answered
  have asks : Serves (Asked socket maxLineBytes line rest) socket c' := by
    obtain ⟨reader, isSession, reads⟩ := serves.session
    have running := serves.running
    cases choice <;> simp only [environment, Option.some.injEq, reduceCtorEq, Prod.mk.injEq, true_and] at answered
    refine ⟨⟨reader.readLine false, ?_, same ▸ reads.readLine fits⟩, ?_⟩
    · rw [← answered]
      simp [State.editReader, isSession, running]
    · rw [← answered]
      exact running
  refine completes_call (asked_lasts fits) asks (fun c asks => ?_) fun c reply c' asks answered => ?_
  · obtain ⟨reader, isSession, asked⟩ := asks.session
    cases asked with
    | waits waits =>
      have arrives : Meanwhile socket (c.1, c.2 ++ []) _ := .arrives waits.comes
      rw [List.append_nil] at arrives
      exact Or.inr ⟨_, arrives⟩
    | answered taken settled isLine reads =>
      exact Or.inl ⟨.ok (bytesOf taken), (c.1.taking taken, c.2), rfl, .proceeds, nofun, answer_line isSession settled⟩
  · obtain ⟨same, choice, -, answered⟩ := answered
    obtain ⟨reader, isSession, asked⟩ := asks.session
    obtain ⟨rfl, isSettled⟩ := line_answered isSession answered
    cases asked with
    | waits waits => simp [waits.waiting.2] at isSettled
    | answered taken settled isLine reads =>
      rw [answer_line isSession settled] at answered
      obtain ⟨s, toCome⟩ := c
      obtain ⟨s', toCome'⟩ := c'
      obtain rfl : toCome' = toCome := same
      cases answered
      exact ⟨isLine, ⟨reader, isSession, reads⟩, asks.running⟩

end Sessions

section Programs

variable {socket : SocketId} {start patience deadline bodyDeadline : Nat} {limits : Pop3TestLimits Nat}
  {stream line rest : List UInt8} {lines : List (List UInt8)} {c : Situation} {name : Pop3Command} {inv : Situation → Prop}

theorem now_completes {next : Nat → Test α} {post : α → Situation → Prop}
    (lasts : Lasts (connection socket start patience) inv) (holds : inv c)
    (goes : ∀ now c', start ≤ now → now ≤ start + patience → inv c' →
      Completes (connection socket start patience) post (next now) c') :
    Completes (connection socket start patience) post (.call .now next) c := by
  refine completes_call lasts holds (fun c holds => ?_) fun c reply c' holds answered => ?_
  · exact Or.inl ⟨start, c, rfl, .clock start, fun now same => by cases same; exact ⟨le_rfl, Nat.le_add_right _ _⟩, rfl⟩
  · obtain ⟨same, choice, timely, answered⟩ := answered
    cases choice <;> simp only [environment, Option.some.injEq, reduceCtorEq, Prod.mk.injEq] at answered
    obtain ⟨rfl, isState⟩ := answered
    obtain ⟨early, late⟩ := timely _ rfl
    have unchanged : c' = c := Prod.ext isState.symm same
    exact goes _ c' early late (unchanged ▸ holds)

theorem boundedTimeout_completes (stageTimeoutMs : Nat) (lasts : Lasts (connection socket start patience) inv) (holds : inv c)
    (inTime : start + patience < deadline) :
    Completes (connection socket start patience)
      (fun timeout c' => inv c' ∧ min stageTimeoutMs (deadline - (start + patience)) ≤ timeout)
      (boundedTimeout deadline stageTimeoutMs) c := by
  refine now_completes lasts holds fun now c' early late holds => ?_
  rw [if_neg (by omega)]
  exact ⟨holds, by omega⟩

def Sends (socket : SocketId) (c : Situation) : Prop :=
  c.1.writing = some ⟨socket, none⟩ ∨ c.1.writing = some ⟨socket, some (.ok ())⟩

theorem sends_lasts (lasts : Lasts (connection socket start patience) inv) :
    Lasts (connection socket start patience) fun c => inv c ∧ Sends socket c := by
  rintro c c' happens ⟨holds, writing⟩
  refine ⟨lasts c c' happens holds, ?_⟩
  cases happens with
  | arrives nonempty => exact writing
  | sent unsettled =>
    refine Or.inr ?_
    rcases writing with writing | writing
    · exact (congrArg (Option.map (·.finish (.ok ()))) writing).trans rfl
    · exact (congrArg (Option.map (·.finish (.ok ()))) writing).trans rfl

theorem write_completes (payload : List Nat) (timeoutMs : Nat)
    (serves : Serves (Reads socket limits.lineBytes stream) socket c) :
    Completes (connection socket start patience) (fun _ => Serves (Reads socket limits.lineBytes stream) socket)
      (.call (.writeSocket payload timeoutMs) fun _ => .call .written orThrow) c := by
  refine completes_call reads_lasts serves (fun c serves => ?_) fun c reply c' serves answered => ?_
  · obtain ⟨reader, isSession, -⟩ := serves.session
    exact Or.inl ⟨(), (writeSocket socket payload c.1, c.2), rfl, .proceeds, nofun, by simp [environment, isSession]⟩
  obtain ⟨same, choice, -, answered⟩ := answered
  obtain ⟨reader, isSession, reads⟩ := serves.session
  have running := serves.running
  have is : c' = (writeSocket socket payload c.1, c.2) := by
    cases choice <;> simp only [environment, reduceCtorEq, isSession, Option.map_some, Option.some.injEq, Prod.mk.injEq,
      true_and] at answered
    exact Prod.ext answered.symm same
  have holds : Serves (Reads socket limits.lineBytes stream) socket c' ∧ Sends socket c' := by
    rw [is]
    refine ⟨⟨⟨reader, ?_, reads⟩, ?_⟩, Or.inl ?_⟩
    · simp [writeSocket, running, isSession]
    · simp [writeSocket, running]
    · simp [writeSocket, running]
  refine completes_call (sends_lasts reads_lasts) holds (fun c holds => ?_) fun c reply c' holds answered => ?_
  · rcases holds.2 with writing | writing
    · exact Or.inr ⟨_, .sent writing⟩
    · exact Or.inl ⟨.ok (), c, rfl, .proceeds, nofun, by simp [environment, writing]⟩
  · obtain ⟨same, choice, -, answered⟩ := answered
    cases choice <;> simp only [environment, reduceCtorEq] at answered
    rcases holds.2 with writing | writing
    · simp [writing] at answered
    · simp only [writing, Option.bind_some, Option.map_some, Option.some.injEq, Prod.mk.injEq] at answered
      obtain ⟨rfl, isState⟩ := answered
      have unchanged : c' = c := Prod.ext isState.symm same
      exact unchanged ▸ holds.1

theorem command_completes {status : Pop3Status} (short : (encoded name none).length ≤ limits.commandBytes)
    (inTime : start + patience < deadline) (fits : Fits limits.lineBytes line) (ok : parseStatus line = .ok status)
    (serves : Serves (Reads socket limits.lineBytes (terminated line ++ rest)) socket c) :
    Completes (connection socket start patience)
      (fun value c' => value = status ∧ Serves (Reads socket limits.lineBytes rest) socket c')
      (command limits deadline name none) c := by
  rw [command, if_neg (by omega)]
  refine (Completes.mono (boundedTimeout_completes _ reads_lasts serves inTime) fun timeout c' serves => ?_).bind
  refine (Completes.mono (write_completes _ _ serves.1) fun _ c' serves => ?_).bind
  refine (Completes.mono (awaitLine_completes fits _ serves) fun reply c' replied => ?_).bind
  obtain ⟨rfl, still⟩ := replied
  rw [ok]
  exact ⟨rfl, still⟩

theorem required_completes {text : JsString} (code : Pop3TestErrorCode)
    (short : (encoded name none).length ≤ limits.commandBytes) (inTime : start + patience < deadline)
    (fits : Fits limits.lineBytes line) (ok : parseStatus line = .ok ⟨true, text⟩)
    (serves : Serves (Reads socket limits.lineBytes (terminated line ++ rest)) socket c) :
    Completes (connection socket start patience) (fun _ => Serves (Reads socket limits.lineBytes rest) socket)
      (required limits deadline name none code) c := by
  refine (Completes.mono (command_completes short inTime fits ok serves) fun status c' replied => ?_).bind
  obtain ⟨rfl, still⟩ := replied
  exact still

theorem bodyLine_completes {bytes : Nat} (inTime : start + patience < deadline) (bodyInTime : start + patience < bodyDeadline)
    (fits : Fits limits.lineBytes line) (total : bytes + line.length + 2 ≤ limits.bodyBytes)
    (serves : Serves (Reads socket limits.lineBytes (terminated line ++ rest)) socket c) :
    Completes (connection socket start patience)
      (fun value c' => value = line ∧ Serves (Reads socket limits.lineBytes rest) socket c')
      (bodyLine limits deadline bodyDeadline bytes) c := by
  refine now_completes reads_lasts serves fun now c' early late serves => ?_
  refine now_completes reads_lasts serves fun later c' early' late' serves => ?_
  rw [if_neg (by omega)]
  refine (Completes.mono (awaitLine_completes fits _ serves) fun value c' came => ?_).bind
  obtain ⟨rfl, still⟩ := came
  rw [if_neg (by omega)]
  exact ⟨rfl, still⟩

theorem length_wire_cons (line : List UInt8) (lines : List (List UInt8)) :
    (wire (line :: lines)).length = (stuffed line).length + 2 + (wire lines).length := by
  rw [wire_cons, List.length_append, terminated, List.length_append]
  rfl

/-- A body is read to its end. The induction is on the lines, with those that may still come. -/
theorem bodyFrom_completes {left bytes : Nat} (inTime : start + patience < deadline)
    (bodyInTime : start + patience < bodyDeadline) (dot : 3 ≤ limits.lineBytes)
    (fits : ∀ line ∈ lines, Fits limits.lineBytes (stuffed line)) (count : lines.length ≤ left)
    (total : bytes + (wire lines).length ≤ limits.bodyBytes)
    (serves : Serves (Reads socket limits.lineBytes (wire lines ++ rest)) socket c) :
    Completes (connection socket start patience)
      (fun body c' => body = lines ∧ Serves (Reads socket limits.lineBytes rest) socket c')
      (bodyFrom limits deadline bodyDeadline left bytes) c := by
  induction lines generalizing left bytes c with
  | nil =>
    have isEnd : Fits limits.lineBytes [46] := ⟨by decide, dot⟩
    have short : bytes + [(46 : UInt8)].length + 2 ≤ limits.bodyBytes := total
    have ends := bodyLine_completes inTime bodyInTime isEnd short serves
    cases left with
    | zero =>
      refine (Completes.mono ends fun value c' came => ?_).bind
      obtain ⟨rfl, still⟩ := came
      exact ⟨rfl, still⟩
    | succ left =>
      refine (Completes.mono ends fun value c' came => ?_).bind
      obtain ⟨rfl, still⟩ := came
      exact ⟨rfl, still⟩
  | cons line lines ih =>
    obtain ⟨left, rfl⟩ := Nat.exists_eq_succ_of_ne_zero (Nat.ne_of_gt (Nat.lt_of_lt_of_le (Nat.succ_pos _) count))
    rw [length_wire_cons] at total
    rw [wire_cons, List.append_assoc] at serves
    have begins := bodyLine_completes inTime bodyInTime (fits line List.mem_cons_self) (show bytes + _ + 2 ≤ _ by omega) serves
    refine (Completes.mono begins fun value c' came => ?_).bind
    obtain ⟨rfl, still⟩ := came
    rw [if_neg (stuffed_ne_dot line)]
    have goesOn := ih (fun line member => fits line (List.mem_cons_of_mem _ member)) (Nat.le_of_succ_le_succ count)
      (show bytes + (stuffed line).length + 2 + _ ≤ _ by omega) still
    refine (Completes.mono goesOn fun body c' ended => ?_).bind
    obtain ⟨rfl, read⟩ := ended
    exact ⟨by rw [unstuffed_stuffed], read⟩

/-- A reply of several lines that is within the limits, with its status line. -/
structure Bounded (limits : Pop3TestLimits Nat) (status : List UInt8) (lines : List (List UInt8)) : Prop where
  opens : Fits limits.lineBytes status
  accepted : ∃ text, parseStatus status = .ok ⟨true, text⟩
  each : ∀ line ∈ lines, 10 ∉ line ∧ (stuffed line).length + 2 ≤ limits.lineBytes
  count : lines.length ≤ limits.bodyLines
  total : (wire lines).length ≤ limits.bodyBytes

/-- A clock by which neither the time for a body nor that for the whole test runs out. -/
structure InTime (limits : Pop3TestLimits Nat) (deadline start patience : Nat) : Prop where
  body : patience < limits.bodyTimeoutMs
  test : start + 2 * patience < deadline

theorem Bounded.dot {status : List UInt8} (bounded : Bounded limits status lines) : 3 ≤ limits.lineBytes := by
  obtain ⟨text, accepted⟩ := bounded.accepted
  have short := bounded.opens.short
  cases status with
  | nil => cases accepted
  | cons byte bytes =>
    rw [List.length_cons] at short
    omega

theorem Bounded.fits {status : List UInt8} (bounded : Bounded limits status lines) :
    ∀ line ∈ lines, Fits limits.lineBytes (stuffed line) := by
  intro line member
  obtain ⟨open_, short⟩ := bounded.each line member
  refine ⟨fun ends => ?_, short⟩
  rcases mem_stuffed ends with inside | isDot
  · exact open_ inside
  · exact absurd isDot (by decide)

theorem multiline_completes {status : List UInt8} (short : (encoded name none).length ≤ limits.commandBytes)
    (bounded : Bounded limits status lines) (inTime : InTime limits deadline start patience)
    (serves : Serves (Reads socket limits.lineBytes (terminated status ++ (wire lines ++ rest))) socket c) :
    Completes (connection socket start patience)
      (fun body c' => body = lines ∧ Serves (Reads socket limits.lineBytes rest) socket c')
      (multiline limits deadline name) c := by
  obtain ⟨text, accepted⟩ := bounded.accepted
  have body := inTime.body
  have test := inTime.test
  have early : start + patience < deadline := by omega
  have begins := required_completes .EPROTOCOL short early bounded.opens accepted serves
  refine (Completes.mono begins fun _ c' serves => ?_).bind
  refine now_completes reads_lasts serves fun now c' sooner later serves => ?_
  refine (Completes.mono (boundedTimeout_completes _ reads_lasts serves early) fun timeout c' bounds => ?_).bind
  obtain ⟨serves, enough⟩ := bounds
  exact bodyFrom_completes (by omega) (by omega) bounded.dot bounded.fits bounded.count
    (by rw [Nat.zero_add]; exact bounded.total) serves

/-- The lines come out as they were, and the next reply is read from the byte after them. -/
theorem multiline_reads {status : List UInt8} (short : (encoded name none).length ≤ limits.commandBytes)
    (bounded : Bounded limits status lines) (inTime : InTime limits deadline start patience)
    (serves : Serves (Reads socket limits.lineBytes (terminated status ++ (wire lines ++ rest))) socket c) :
    Returns (connection socket start patience) (multiline limits deadline name) c
        (fun body c' => body = lines ∧ Serves (Reads socket limits.lineBytes rest) socket c') ∧
      ∀ next rest' timeoutMs, Fits limits.lineBytes next → rest = terminated next ++ rest' →
        Returns (connection socket start patience)
          (do
            let body ← multiline limits deadline name
            let reply ← awaitLine timeoutMs
            return (body, reply)) c
          (fun both c' => both = (lines, next) ∧ Serves (Reads socket limits.lineBytes rest') socket c') := by
  have completes := multiline_completes short bounded inTime serves
  have stays : ∀ {stream : List UInt8} {is : Prop}, Lasts (connection socket start patience)
      fun c => is ∧ Serves (Reads socket limits.lineBytes stream) socket c :=
    fun c c' happens holds => ⟨holds.1, reads_lasts c c' happens holds.2⟩
  refine ⟨completes.returns (fun _ => stays) (meanwhile_wf socket), fun next rest' timeoutMs fits isNext => ?_⟩
  refine Completes.returns (Completes.bind ?_) (fun _ => stays) (meanwhile_wf socket)
  refine completes.mono fun body c' came => ?_
  obtain ⟨rfl, still⟩ := came
  refine (Completes.mono (awaitLine_completes fits timeoutMs (isNext ▸ still)) fun reply c' replied => ?_).bind
  obtain ⟨rfl, read⟩ := replied
  exact ⟨rfl, read⟩

theorem serves_create {s : State} {maxLineBytes : Nat} (isNew : s.session = some ⟨socket, .create socket maxLineBytes⟩)
    (running : s.aborted = false) (toCome : List UInt8) :
    Serves (Reads socket maxLineBytes toCome) socket (s, toCome) :=
  ⟨⟨_, isNew, rfl, rfl, rfl, rfl, nofun, toCome, rfl, rfl, nofun⟩, running⟩

def threeLines : List (List UInt8) := [[46], [], [46, 46, 97]]

theorem threeLines_bounded : Bounded pop3TestLimits [43, 79, 75] threeLines where
  opens := ⟨by decide, by decide⟩
  accepted := ⟨[43, 79, 75], by decide⟩
  each := by decide
  count := by decide
  total := by decide

/-- A session on a connection with TLS, of which the server sends three lines and a reply after them. -/
def answered : Situation :=
  ({ State.initial with
      secureSocket := some ⟨true, false⟩
      session := some ⟨.secure, .create .secure pop3TestLimits.lineBytes⟩ },
    terminated [43, 79, 75] ++ (wire threeLines ++ terminated [43, 79, 75]))

theorem answered_reads :
    Returns (connection .secure 1000 20)
      (do
        let body ← multiline pop3TestLimits 31000 .LIST
        let reply ← awaitLine 5000
        return (body, reply)) answered
      (fun both c' => both = (threeLines, [43, 79, 75]) ∧ Serves (Reads .secure pop3TestLimits.lineBytes []) .secure c') :=
  (multiline_reads (by decide) threeLines_bounded ⟨by decide, by decide⟩ (serves_create rfl rfl _)).2 [43, 79, 75] [] 5000
    ⟨by decide, by decide⟩ rfl

end Programs

end Pop3Test
