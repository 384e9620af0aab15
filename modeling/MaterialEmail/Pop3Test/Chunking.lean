import MaterialEmail.Pop3Test.Safety

/-! The lines that are read do not depend on how the stream arrives: not on where it is cut into chunks, nor on when a
line is asked for. -/
namespace Pop3Test

abbrev Line := List Received

section Frames

/-- The lines of a stream, and the bytes that are left; none, where the stream cannot be read on. -/
inductive Frames (maxLineBytes : Nat) : List Received → List Line → Option (List Received) → Prop where
  | open_ {stream : List Received} (none_ : stream.findIdx? (·.byte = 10) = none) (short : stream.length ≤ maxLineBytes) :
      Frames maxLineBytes stream [] (some stream)
  | long {stream : List Received} (none_ : stream.findIdx? (·.byte = 10) = none) (long : maxLineBytes < stream.length) :
      Frames maxLineBytes stream [] none
  | bad {stream : List Received} {lf : Nat} (found : stream.findIdx? (·.byte = 10) = some lf)
      (is : (lf = 0 ∨ (stream[lf - 1]?).map (·.byte) ≠ some 13) ∨ maxLineBytes < lf + 1) :
      Frames maxLineBytes stream [] none
  | line {stream : List Received} {lf : Nat} {lines : List Line} {rest : Option (List Received)}
      (found : stream.findIdx? (·.byte = 10) = some lf)
      (ends : ¬ (lf = 0 ∨ (stream[lf - 1]?).map (·.byte) ≠ some 13)) (short : ¬ maxLineBytes < lf + 1)
      (others : Frames maxLineBytes (stream.drop (lf + 1)) lines rest) :
      Frames maxLineBytes stream (stream.take (lf - 1) :: lines) rest

variable {maxLineBytes : Nat} {stream more : List Received} {lines lines' : List Line} {rest rest' : Option (List Received)}

theorem found_lt {lf : Nat} (found : stream.findIdx? (·.byte = 10) = some lf) : lf < stream.length :=
  (List.findIdx?_eq_some_iff_getElem.1 found).1

theorem frames_exists (maxLineBytes : Nat) (stream : List Received) : ∃ lines rest, Frames maxLineBytes stream lines rest := by
  induction size : stream.length using Nat.strongRecOn generalizing stream with
  | ind size ih =>
    cases found : stream.findIdx? (·.byte = 10) with
    | none =>
      by_cases short : stream.length ≤ maxLineBytes
      · exact ⟨[], some stream, .open_ found short⟩
      · exact ⟨[], none, .long found (Nat.not_le.1 short)⟩
    | some lf =>
      by_cases bad : (lf = 0 ∨ (stream[lf - 1]?).map (·.byte) ≠ some 13) ∨ maxLineBytes < lf + 1
      · exact ⟨[], none, .bad found bad⟩
      · have inside := found_lt found
        obtain ⟨lines, rest, others⟩ := ih _ (by rw [List.length_drop]; omega) (stream.drop (lf + 1)) rfl
        exact ⟨_, rest, .line found (fun is => bad (Or.inl is)) (fun is => bad (Or.inr is)) others⟩

theorem Frames.unique (frames : Frames maxLineBytes stream lines rest) (frames' : Frames maxLineBytes stream lines' rest') :
    lines = lines' ∧ rest = rest' := by
  induction frames generalizing lines' with
  | open_ none_ short =>
    cases frames' with
    | open_ => exact ⟨rfl, rfl⟩
    | long _ long => omega
    | bad found => simp [none_] at found
    | line found => simp [none_] at found
  | long none_ long =>
    cases frames' with
    | open_ _ short => omega
    | long => exact ⟨rfl, rfl⟩
    | bad found => simp [none_] at found
    | line found => simp [none_] at found
  | bad found is =>
    cases frames' with
    | open_ none_ => simp [none_] at found
    | long none_ => simp [none_] at found
    | bad => exact ⟨rfl, rfl⟩
    | line found' ends short =>
      cases found.symm.trans found'
      exact (is.elim ends short).elim
  | line found ends short others ih =>
    cases frames' with
    | open_ none_ => simp [none_] at found
    | long none_ => simp [none_] at found
    | bad found' is =>
      cases found.symm.trans found'
      exact (is.elim ends short).elim
    | line found' _ _ others' =>
      cases found.symm.trans found'
      obtain ⟨same, sameRest⟩ := ih others'
      exact ⟨by rw [same], sameRest⟩

theorem found_append {lf : Nat} (found : stream.findIdx? (·.byte = 10) = some lf) :
    (stream ++ more).findIdx? (·.byte = 10) = some lf := by
  rw [List.findIdx?_append, found]
  rfl

theorem before_append {lf : Nat} (inside : lf < stream.length) :
    ((stream ++ more)[lf - 1]?).map (·.byte) = (stream[lf - 1]?).map (·.byte) := by
  rw [List.getElem?_append_left (by omega)]

/-- What cannot be read on does not get better. -/
theorem Frames.stuck (frames : Frames maxLineBytes stream lines rest) (stuck : rest = none) :
    Frames maxLineBytes (stream ++ more) lines none := by
  induction frames with
  | open_ => cases stuck
  | @long stream none_ long =>
    cases found : (stream ++ more).findIdx? (·.byte = 10) with
    | none => exact .long found (by rw [List.length_append]; omega)
    | some lf =>
      refine .bad found (Or.inr ?_)
      rw [List.findIdx?_append, none_, Option.none_or, Option.map_eq_some_iff] at found
      obtain ⟨index, -, rfl⟩ := found
      omega
  | bad found is =>
    refine .bad (found_append found) ?_
    rwa [before_append (found_lt found)]
  | line found ends short _ ih =>
    have inside := found_lt found
    have later := ih stuck
    rw [← List.drop_append_of_le_length (by omega)] at later
    have whole := Frames.line (found_append found) (by rwa [before_append inside]) short later
    rwa [List.take_append_of_le_length (by omega)] at whole

theorem Frames.append (frames : Frames maxLineBytes stream lines rest) {buffer : List Received} (left : rest = some buffer)
    (frames' : Frames maxLineBytes (buffer ++ more) lines' rest') :
    Frames maxLineBytes (stream ++ more) (lines ++ lines') rest' := by
  induction frames with
  | open_ =>
    cases left
    exact frames'
  | long => cases left
  | bad => cases left
  | line found ends short _ ih =>
    have inside := found_lt found
    have later := ih left
    rw [← List.drop_append_of_le_length (by omega)] at later
    have whole := Frames.line (found_append found) (by rwa [before_append inside]) short later
    rwa [List.take_append_of_le_length (by omega)] at whole

end Frames

section Bytes

def terminated (line : List UInt8) : List UInt8 := line ++ [13, 10]

/-- A line that a reader takes: nothing in it ends it, and it is not too long. -/
structure Fits (maxLineBytes : Nat) (line : List UInt8) : Prop where
  open_ : 10 ∉ line
  short : line.length + 2 ≤ maxLineBytes

abbrev bytesOf (line : List Received) : List UInt8 := line.map (·.byte)

def Unreadable (maxLineBytes : Nat) (bytes : List UInt8) : Prop :=
  ∀ line rest, Fits maxLineBytes line → bytes ≠ terminated line ++ rest

/-- What follows the lines that have been taken: an unfinished line with what is to come, or what cannot be read. -/
def LeftOver (maxLineBytes : Nat) (toCome tail : List UInt8) : Option (List Received) → Prop
  | some left => tail = bytesOf left ++ toCome ∧ 10 ∉ bytesOf left
  | none => Unreadable maxLineBytes tail

variable {maxLineBytes : Nat} {line rest : List UInt8}

theorem findIdx?_eq_none {bytes : List Received} : bytes.findIdx? (·.byte = 10) = none ↔ 10 ∉ bytesOf bytes := by
  simp [List.findIdx?_eq_none_iff]

theorem terminated_split {bytes : List Received} (is : bytesOf bytes = terminated line ++ rest) (open_ : 10 ∉ line) :
    bytes.findIdx? (·.byte = 10) = some (line.length + 1) ∧ (bytes[line.length]?).map (·.byte) = some 13 ∧
      bytesOf (bytes.take line.length) = line ∧ bytesOf (bytes.drop (line.length + 2)) = rest := by
  rw [terminated, List.append_assoc] at is
  obtain ⟨front, others, rfl, isLine, isRest⟩ := List.map_eq_append_iff.1 is
  obtain ⟨cr, others, rfl, isCr, isRest⟩ := List.map_eq_cons_iff.1 isRest
  obtain ⟨lf, back, rfl, isLf, isBack⟩ := List.map_eq_cons_iff.1 isRest
  have size : line.length = front.length := by rw [← isLine, List.length_map]
  have none : front.findIdx? (·.byte = 10) = none := by
    rw [findIdx?_eq_none, bytesOf, isLine]
    exact open_
  refine ⟨?_, ?_, ?_, ?_⟩
  · rw [List.findIdx?_append, none]
    simp [List.findIdx?_cons, isCr, isLf, size, Nat.add_comm]
  · simp [size, isCr]
  · simpa [size] using isLine
  · have behind : (front ++ cr :: lf :: back).drop (front.length + 2) = back := by
      rw [← List.drop_drop, List.drop_left]
      rfl
    rw [size, behind]
    exact isBack

theorem split_terminated {bytes : List Received} {lf : Nat} (found : bytes.findIdx? (·.byte = 10) = some lf)
    (ends : ¬ (lf = 0 ∨ (bytes[lf - 1]?).map (·.byte) ≠ some 13)) :
    bytesOf bytes = terminated (bytesOf (bytes.take (lf - 1))) ++ bytesOf (bytes.drop (lf + 1)) ∧
      10 ∉ bytesOf (bytes.take (lf - 1)) := by
  obtain ⟨inside, isLf, before⟩ := List.findIdx?_eq_some_iff_getElem.1 found
  obtain ⟨positive, isCr⟩ := not_or.1 ends
  rw [not_ne_iff] at isCr
  obtain ⟨before_, rfl⟩ := Nat.exists_eq_succ_of_ne_zero positive
  rw [Nat.succ_sub_one] at isCr ⊢
  have isCr' : bytes[before_].byte = 13 := by
    rw [List.getElem?_eq_getElem (by omega), Option.map_some] at isCr
    exact Option.some.inj isCr
  constructor
  · have cut : bytes = bytes.take before_ ++ bytes[before_] :: bytes[before_ + 1] :: bytes.drop (before_ + 2) := by
      rw [List.getElem_cons_drop, List.getElem_cons_drop, List.take_append_drop]
    conv_lhs => rw [cut]
    simp only [bytesOf, List.map_append, List.map_cons, isCr', of_decide_eq_true isLf, terminated, List.append_assoc]
    rfl
  · intro member
    obtain ⟨byte, taken, isTen⟩ := List.mem_map.1 member
    obtain ⟨index, bound, rfl⟩ := List.mem_take_iff_getElem.1 taken
    exact before index (by omega) (decide_eq_true isTen)

/-- What a reader has set aside as its lines was there, and what it could not read on from cannot be read. -/
theorem Frames.split {bytes : List Received} {lines : List Line} {left : Option (List Received)}
    (frames : Frames maxLineBytes bytes lines left) (toCome : List UInt8) :
    (∀ line ∈ lines, 10 ∉ bytesOf line) ∧
      ∃ tail, bytesOf bytes ++ toCome = lines.flatMap (fun line => terminated (bytesOf line)) ++ tail ∧
        LeftOver maxLineBytes toCome tail left := by
  induction frames with
  | open_ none_ short => exact ⟨nofun, _, rfl, rfl, findIdx?_eq_none.1 none_⟩
  | @long bytes none_ long =>
    refine ⟨nofun, _, rfl, fun line rest fits same => ?_⟩
    have isTen : (bytesOf bytes ++ toCome)[line.length + 1]? = some 10 := by
      refine (congrArg (·[line.length + 1]?) same).trans ?_
      simp [terminated]
    have short := fits.short
    rw [List.getElem?_append_left (by rw [List.length_map]; omega)] at isTen
    exact findIdx?_eq_none.1 none_ (List.mem_of_getElem? isTen)
  | @bad bytes lf found is =>
    refine ⟨nofun, _, rfl, fun line rest fits same => ?_⟩
    let more := toCome.map (⟨.plain, ·⟩ : UInt8 → Received)
    have whole : bytesOf (bytes ++ more) = terminated line ++ rest := by
      rw [bytesOf, List.map_append, ← same, List.map_map]
      congr 1
      exact List.map_id _
    obtain ⟨found', isCr, -⟩ := terminated_split whole fits.open_
    cases (found_append found).symm.trans found'
    have short := fits.short
    have sameCr : ((bytes ++ more)[line.length]?).map (·.byte) = (bytes[line.length]?).map (·.byte) :=
      before_append (found_lt found)
    rw [Nat.add_sub_cancel, ← sameCr] at is
    rcases is with (zero | noCr) | long
    · omega
    · exact noCr isCr
    · omega
  | @line bytes lf lines left found ends short others ih =>
    obtain ⟨clean, tail, isTail, isLeft⟩ := ih
    obtain ⟨cut, open_⟩ := split_terminated found ends
    refine ⟨fun line member => ?_, tail, ?_, isLeft⟩
    · rcases List.mem_cons.1 member with rfl | member
      · exact open_
      · exact clean line member
    · rw [cut, List.flatMap_cons, List.append_assoc, isTail, List.append_assoc]

end Bytes

section Events

/-- What happens to a reader: bytes arrive, a line is asked for, the promise of a line runs out of time or is cancelled,
and the connection fails, ends or closes. -/
inductive Event where
  | data (chunk : List Received)
  | read (aborted : Bool)
  | expire
  | cancel
  | error (cause : Option Pop3TestError)
  | «end»
  | close

def Pop3LineReader.handle (reader : Pop3LineReader) : Event → Pop3LineReader
  | .data chunk => reader.onData chunk
  | .read aborted => reader.readLine aborted
  | .expire => reader.settle (.error timeoutError)
  | .cancel => reader.settle (.error cancelledError)
  | .error (some cause) => reader.fail cause
  | .error none => reader.onError
  | .end => reader.onEnd
  | .close => reader.onClose

/-- How the promise that was pending has ended, if it has. -/
def answerOf (before after : Pop3LineReader) : Option (Except Pop3TestError Line) :=
  if before.pending = true ∧ after.pending = false then after.settled else none

/-- The promise that an event ends: the one of this call, or the one that was pending. -/
def Pop3LineReader.answer (reader : Pop3LineReader) : Event → Option (Except Pop3TestError Line)
  | .read aborted => (reader.readLine aborted).settled
  | event => answerOf reader (reader.handle event)

def step (state : Pop3LineReader × List (Except Pop3TestError Line)) (event : Event) :
    Pop3LineReader × List (Except Pop3TestError Line) :=
  (state.1.handle event, state.2 ++ (state.1.answer event).toList)

def run (reader : Pop3LineReader) (events : List Event) : Pop3LineReader × List (Except Pop3TestError Line) :=
  events.foldl step (reader, [])

def delivered (answers : List (Except Pop3TestError Line)) : List Line := answers.filterMap Except.toOption

def arrive (stream : List Received × Bool) : Event → List Received × Bool
  | .data chunk => if stream.2 then stream else (stream.1 ++ chunk, false)
  | .read _ => stream
  | .expire => stream
  | .cancel => stream
  | .error _ => (stream.1, true)
  | .end => (stream.1, true)
  | .close => (stream.1, true)

def arrived (events : List Event) : List Received × Bool := events.foldl arrive ([], false)

def inOneChunk (events : List Event) : List Event :=
  .data (arrived events).1 :: if (arrived events).2 then [.close] else []

end Events

section Reader

variable {reader reader' : Pop3LineReader} {lines : List Line} {rest : Option (List Received)}

/-- What the loop of `onData` does with the lines of its buffer. -/
structure Takes (reader reader' : Pop3LineReader) (lines : List Line) (rest : Option (List Received)) : Prop where
  limit : reader'.maxLineBytes = reader.maxLineBytes
  lines : delivered (answerOf reader reader').toList ++ reader'.lines = reader.lines ++ lines
  terminal : reader'.terminalError.isSome = rest.isNone
  buffer : ∀ left, rest = some left → reader'.buffer = left
  quiet : reader.pending = false → reader'.pending = false ∧ reader'.settled = reader.settled
  waits : reader'.pending = true → reader'.lines = [] ∧ reader'.terminalError = none

theorem answerOf_quiet (quiet : reader.pending = false) : answerOf reader reader' = none :=
  if_neg fun both => by simp [quiet] at both

theorem answerOf_self : answerOf reader reader = none :=
  if_neg fun both => by simp [both.1] at both

theorem takes_fail (alive : reader.terminalError = none) (error : Pop3TestError) :
    Takes reader (reader.fail error) [] none := by
  have failed : reader.fail error = { reader with terminalError := some error }.settle (.error error) := by
    rw [Pop3LineReader.fail, alive]
    rfl
  cases waiting : reader.pending with
  | true =>
    have is : reader.fail error = { reader with
        terminalError := some error, pending := false, settled := some (.error error) } := by
      rw [failed, Pop3LineReader.settle, if_pos (by exact waiting)]
    rw [is]
    refine ⟨rfl, ?_, rfl, fun _ left => (by cases left), fun quiet => ?_, fun still => by cases still⟩
    · simp [answerOf, waiting, delivered, Except.toOption]
    · rw [waiting] at quiet
      cases quiet
  | false =>
    have is : reader.fail error = { reader with terminalError := some error } := by
      rw [failed, Pop3LineReader.settle, if_neg (by simp [waiting])]
    rw [is]
    refine ⟨rfl, ?_, rfl, fun _ left => (by cases left), fun _ => ⟨waiting, rfl⟩, fun still => ?_⟩
    · rw [answerOf_quiet waiting]
      simp [delivered]
    · rw [waiting] at still
      cases still

theorem takeLines_takes (reader : Pop3LineReader) {turns maxLineBytes : Nat} {stream : List Received}
    (frames : Frames maxLineBytes stream lines rest) (buffer : reader.buffer = stream)
    (limit : reader.maxLineBytes = maxLineBytes) (alive : reader.terminalError = none)
    (waits : reader.pending = true → reader.lines = []) (enough : reader.buffer.length < turns) :
    Takes reader (reader.takeLines turns) lines rest := by
  induction frames generalizing reader turns with
  | open_ none_ short =>
    obtain ⟨turns, rfl⟩ := Nat.exists_eq_add_of_lt (Nat.lt_of_le_of_lt (Nat.zero_le _) enough)
    rw [Nat.zero_add, Pop3LineReader.takeLines, buffer, none_]
    simp only
    rw [if_neg (by omega)]
    refine ⟨rfl, by simp [answerOf_self, delivered], by rw [alive]; rfl, ?_, fun quiet => ⟨quiet, rfl⟩,
      fun still => ⟨waits still, alive⟩⟩
    rintro left ⟨⟩
    exact buffer
  | long none_ long =>
    obtain ⟨turns, rfl⟩ := Nat.exists_eq_add_of_lt (Nat.lt_of_le_of_lt (Nat.zero_le _) enough)
    rw [Nat.zero_add, Pop3LineReader.takeLines, buffer, none_]
    simp only
    rw [if_pos (by omega)]
    exact takes_fail alive _
  | bad found is =>
    obtain ⟨turns, rfl⟩ := Nat.exists_eq_add_of_lt (Nat.lt_of_le_of_lt (Nat.zero_le _) enough)
    rw [Nat.zero_add, Pop3LineReader.takeLines, buffer, found]
    simp only
    split
    · exact takes_fail alive _
    · rename_i ends
      rw [if_pos (limit ▸ is.resolve_left ends)]
      exact takes_fail alive _
  | @line stream lf lines rest found ends short others ih =>
    obtain ⟨turns, rfl⟩ := Nat.exists_eq_add_of_lt (Nat.lt_of_le_of_lt (Nat.zero_le _) enough)
    have inside := found_lt found
    rw [buffer] at enough
    have fewer : (stream.drop (lf + 1)).length < turns := by
      rw [List.length_drop]
      omega
    rw [Nat.zero_add, Pop3LineReader.takeLines, buffer, found]
    simp only
    rw [if_neg ends, if_neg (limit ▸ short)]
    rcases Bool.eq_false_or_eq_true reader.pending with waiting | waiting
    · have is : Pop3LineReader.deliver { reader with buffer := stream.drop (lf + 1) } (stream.take (lf - 1)) =
          { reader with
            buffer := stream.drop (lf + 1), pending := false, settled := some (.ok (stream.take (lf - 1))) } := by
        simp [Pop3LineReader.deliver, Pop3LineReader.settle, waiting]
      rw [is]
      have takes := ih { reader with
        buffer := stream.drop (lf + 1), pending := false, settled := some (.ok (stream.take (lf - 1))) }
        rfl limit alive (fun still => by cases still) fewer
      obtain ⟨still, settled⟩ := takes.quiet rfl
      have rest_ := takes.lines
      rw [answerOf_quiet rfl] at rest_
      refine ⟨takes.limit, ?_, takes.terminal, takes.buffer, fun quiet => ?_, takes.waits⟩
      · rw [answerOf, if_pos ⟨waiting, still⟩, settled, waits waiting]
        simpa [delivered, Except.toOption, waits waiting] using rest_
      · rw [waiting] at quiet
        cases quiet
    · have is : Pop3LineReader.deliver { reader with buffer := stream.drop (lf + 1) } (stream.take (lf - 1)) =
          { reader with buffer := stream.drop (lf + 1), lines := reader.lines ++ [stream.take (lf - 1)] } := by
        simp [Pop3LineReader.deliver, waiting]
      rw [is]
      have takes := ih { reader with
        buffer := stream.drop (lf + 1), lines := reader.lines ++ [stream.take (lf - 1)] }
        rfl limit alive (fun still => by simp [waiting] at still) fewer
      have rest_ := takes.lines
      rw [answerOf, if_neg (by simp [waiting])] at rest_
      refine ⟨takes.limit, ?_, takes.terminal, takes.buffer, fun _ => takes.quiet waiting, takes.waits⟩
      rw [answerOf_quiet waiting]
      simpa using rest_

theorem onData_takes (reader : Pop3LineReader) {maxLineBytes : Nat} {chunk : List Received}
    (frames : Frames maxLineBytes (reader.buffer ++ chunk) lines rest) (limit : reader.maxLineBytes = maxLineBytes)
    (alive : reader.terminalError = none) (waits : reader.pending = true → reader.lines = []) :
    Takes reader (reader.onData chunk) lines rest := by
  have is : reader.onData chunk = ({ reader with buffer := reader.buffer ++ chunk } : Pop3LineReader).takeLines
      ((reader.buffer ++ chunk).length + 1) := by
    simp [Pop3LineReader.onData, alive]
  have takes := takeLines_takes { reader with buffer := reader.buffer ++ chunk } frames rfl limit alive
    waits (Nat.lt_succ_self _)
  rw [is]
  exact ⟨takes.limit, takes.lines, takes.terminal, takes.buffer, takes.quiet, takes.waits⟩

end Reader

section Runs

variable {socket : SocketId} {maxLineBytes : Nat} {stream : List Received × Bool}
  {state : Pop3LineReader × List (Except Pop3TestError Line)}

/-- A reader that has taken the lines of a stream: those that it has delivered, and those that wait. -/
structure Follows (maxLineBytes : Nat) (stream : List Received × Bool) (lines : List Line) (rest : Option (List Received))
    (state : Pop3LineReader × List (Except Pop3TestError Line)) : Prop where
  frames : Frames maxLineBytes stream.1 lines rest
  lines : delivered state.2 ++ state.1.lines = lines
  terminal : state.1.terminalError.isSome = (rest.isNone || stream.2)
  buffer : state.1.terminalError = none → rest = some state.1.buffer
  limit : state.1.maxLineBytes = maxLineBytes
  waits : state.1.pending = true → state.1.lines = [] ∧ state.1.terminalError = none

theorem follows_create (socket : SocketId) (maxLineBytes : Nat) :
    Follows maxLineBytes ([], false) [] (some []) (Pop3LineReader.create socket maxLineBytes, []) :=
  ⟨.open_ rfl (Nat.zero_le _), rfl, rfl, fun _ => rfl, rfl, fun still => by cases still⟩

theorem delivered_append (answers answers' : List (Except Pop3TestError Line)) :
    delivered (answers ++ answers') = delivered answers ++ delivered answers' := List.filterMap_append

theorem Follows.data {lines : List Line} {rest : Option (List Received)} (follows : Follows maxLineBytes stream lines rest state)
    (chunk : List Received) :
    ∃ lines' rest', Follows maxLineBytes (arrive stream (.data chunk)) lines' rest' (step state (.data chunk)) := by
  obtain ⟨reader, answers⟩ := state
  obtain ⟨bytes, ended⟩ := stream
  cases dead : reader.terminalError with
  | some error =>
    have same : step (reader, answers) (.data chunk) = (reader, answers) := by
      have stays : reader.handle (.data chunk) = reader := by
        simp [Pop3LineReader.handle, Pop3LineReader.onData, dead]
      rw [step, Pop3LineReader.answer, stays, answerOf_self]
      · simp
      · simp
    rw [same]
    cases ended with
    | true => exact ⟨lines, rest, follows⟩
    | false =>
      have stuck : rest = none := by
        have terminal := follows.terminal
        rw [show (reader, answers).1.terminalError = some error from dead] at terminal
        simpa using terminal
      subst stuck
      exact ⟨lines, none, follows.frames.stuck rfl, follows.lines, follows.terminal,
        fun alive => absurd (dead.symm.trans alive) (by simp), follows.limit, follows.waits⟩
  | none =>
    have left : rest = some reader.buffer := follows.buffer dead
    have running : ended = false := by
      have terminal := follows.terminal
      rw [show (reader, answers).1.terminalError = none from dead, left] at terminal
      simpa using terminal.symm
    subst running
    obtain ⟨lines', rest', frames'⟩ := frames_exists maxLineBytes (reader.buffer ++ chunk)
    have takes := onData_takes reader frames' follows.limit dead fun still => (follows.waits still).1
    refine ⟨lines ++ lines', rest', follows.frames.append left frames', ?_, ?_, fun alive => ?_,
      takes.limit.trans follows.limit, takes.waits⟩
    · change delivered (answers ++ (answerOf reader (reader.onData chunk)).toList) ++ (reader.onData chunk).lines = _
      rw [delivered_append, List.append_assoc, takes.lines, ← follows.lines, List.append_assoc]
    · change (reader.onData chunk).terminalError.isSome = (rest'.isNone || false)
      rw [takes.terminal, Bool.or_false]
    · change (reader.onData chunk).terminalError = none at alive
      have some_ := takes.terminal
      rw [alive] at some_
      cases is : rest' with
      | none =>
        rw [is] at some_
        cases some_
      | some left' =>
        change some left' = some (reader.onData chunk).buffer
        rw [takes.buffer left' is]

theorem Follows.settle {lines : List Line} {rest : Option (List Received)}
    (follows : Follows maxLineBytes stream lines rest state) (error : Pop3TestError) :
    Follows maxLineBytes stream lines rest (state.1.settle (.error error),
      state.2 ++ (answerOf state.1 (state.1.settle (.error error))).toList) := by
  obtain ⟨reader, answers⟩ := state
  rcases Bool.eq_false_or_eq_true reader.pending with waiting | waiting
  · have is : reader.settle (.error error) = { reader with pending := false, settled := some (.error error) } := by
      rw [Pop3LineReader.settle, if_pos waiting]
    simp only [is]
    refine ⟨follows.frames, ?_, follows.terminal, follows.buffer, follows.limit, fun still => by cases still⟩
    rw [delivered_append, ← follows.lines]
    simp [answerOf, waiting, delivered, Except.toOption]
  · have is : reader.settle (.error error) = reader := by
      rw [Pop3LineReader.settle, if_neg (by simp [waiting])]
    simp only [is, answerOf_self]
    simpa using follows

theorem Follows.fail {lines : List Line} {rest : Option (List Received)}
    (follows : Follows maxLineBytes stream lines rest state) (error : Pop3TestError) :
    Follows maxLineBytes (stream.1, true) lines rest (state.1.fail error,
      state.2 ++ (answerOf state.1 (state.1.fail error)).toList) := by
  obtain ⟨reader, answers⟩ := state
  cases dead : reader.terminalError with
  | some earlier =>
    have is : reader.fail error = reader := by rw [Pop3LineReader.fail, if_pos (by simp [dead])]
    simp only [is, answerOf_self]
    refine ⟨follows.frames, by simpa using follows.lines, by simp [dead], fun alive => ?_, follows.limit, follows.waits⟩
    exact absurd (dead.symm.trans alive) (by simp)
  | none =>
    have takes := takes_fail dead error
    refine ⟨follows.frames, ?_, by simpa using takes.terminal, fun alive => ?_, takes.limit.trans follows.limit,
      takes.waits⟩
    · rw [delivered_append, List.append_assoc, ← follows.lines]
      exact congrArg (delivered answers ++ ·) (takes.lines.trans (List.append_nil _))
    · have terminal := takes.terminal
      rw [alive] at terminal
      cases terminal

theorem Follows.read {lines : List Line} {rest : Option (List Received)}
    (follows : Follows maxLineBytes stream lines rest state) (aborted : Bool) :
    Follows maxLineBytes stream lines rest (step state (.read aborted)) := by
  obtain ⟨reader, answers⟩ := state
  change Follows maxLineBytes stream lines rest
    (reader.readLine aborted, answers ++ (reader.readLine aborted).settled.toList)
  have rejected : ∀ error, Follows maxLineBytes stream lines rest
      ({ reader with settled := some (.error error) }, answers ++ [.error error]) := by
    intro error
    refine ⟨follows.frames, ?_, follows.terminal, follows.buffer, follows.limit, follows.waits⟩
    rw [delivered_append, ← follows.lines]
    simp [delivered, Except.toOption]
  cases aborted with
  | true => exact rejected cancelledError
  | false =>
    cases waiting : reader.lines with
    | cons queued others =>
      have is : reader.readLine false = { reader with lines := others, settled := some (.ok queued) } := by
        simp [Pop3LineReader.readLine, waiting]
      rw [is]
      refine ⟨follows.frames, ?_, follows.terminal, follows.buffer, follows.limit, fun still => ?_⟩
      · rw [delivered_append, ← follows.lines]
        simp [delivered, Except.toOption, waiting]
      · exact absurd (follows.waits still).1 (by simp [waiting])
    | nil =>
      cases dead : reader.terminalError with
      | some error =>
        have is : reader.readLine false = { reader with settled := some (.error error) } := by
          simp [Pop3LineReader.readLine, waiting, dead]
        rw [is]
        exact rejected error
      | none =>
        rcases Bool.eq_false_or_eq_true reader.pending with pending | pending
        · have is : reader.readLine false = { reader with settled := some (.error protocolError) } := by
            simp [Pop3LineReader.readLine, waiting, dead, pending]
          rw [is]
          exact rejected protocolError
        · have is : reader.readLine false = { reader with pending := true, settled := none } := by
            simp [Pop3LineReader.readLine, waiting, dead, pending]
          rw [is]
          exact ⟨follows.frames, by simpa using follows.lines, follows.terminal, follows.buffer, follows.limit,
            fun _ => ⟨waiting, dead⟩⟩

theorem Follows.step {lines : List Line} {rest : Option (List Received)}
    (follows : Follows maxLineBytes stream lines rest state) (event : Event) :
    ∃ lines' rest', Follows maxLineBytes (arrive stream event) lines' rest' (Pop3Test.step state event) := by
  cases event with
  | data chunk => exact follows.data chunk
  | read aborted => exact ⟨lines, rest, follows.read aborted⟩
  | expire => exact ⟨lines, rest, follows.settle timeoutError⟩
  | cancel => exact ⟨lines, rest, follows.settle cancelledError⟩
  | error cause =>
    cases cause with
    | some cause => exact ⟨lines, rest, follows.fail cause⟩
    | none => exact ⟨lines, rest, follows.fail _⟩
  | «end» => exact ⟨lines, rest, follows.fail _⟩
  | close =>
    refine ⟨lines, rest, ?_⟩
    have is : state.1.handle .close = state.1.fail
        ⟨.ECONNECTION, "The POP3 server closed the connection before the account test completed."⟩ := by
      simp only [Pop3LineReader.handle, Pop3LineReader.onClose, Pop3LineReader.onEnd, Pop3LineReader.fail]
      split <;> rfl
    change Follows maxLineBytes (stream.1, true) lines rest
      (state.1.handle .close, state.2 ++ (answerOf state.1 (state.1.handle .close)).toList)
    rw [is]
    exact follows.fail _

theorem run_follows (socket : SocketId) (maxLineBytes : Nat) (events : List Event) :
    ∃ lines rest, Follows maxLineBytes (arrived events) lines rest
      (run (Pop3LineReader.create socket maxLineBytes) events) := by
  unfold arrived run
  have start : ∃ lines rest, Follows maxLineBytes ([], false) lines rest
      (Pop3LineReader.create socket maxLineBytes, []) := ⟨_, _, follows_create socket maxLineBytes⟩
  generalize (Pop3LineReader.create socket maxLineBytes, ([] : List (Except Pop3TestError Line))) = state at start ⊢
  generalize (([], false) : List Received × Bool) = stream at start ⊢
  induction events generalizing state stream with
  | nil => exact start
  | cons event events ih =>
    obtain ⟨lines, rest, follows⟩ := start
    exact ih _ _ (follows.step event)

/-- The whole stream, before anything is asked for: nothing is delivered yet. -/
theorem inOneChunk_follows (socket : SocketId) (maxLineBytes : Nat) (events : List Event) :
    ∃ rest, Follows maxLineBytes (arrived events)
      (run (Pop3LineReader.create socket maxLineBytes) (inOneChunk events)).1.lines rest
      (run (Pop3LineReader.create socket maxLineBytes) (inOneChunk events)) := by
  obtain ⟨lines, rest, follows⟩ := run_follows socket maxLineBytes (inOneChunk events)
  have same : arrived (inOneChunk events) = arrived events := by
    unfold inOneChunk
    generalize arrived events = stream
    obtain ⟨bytes, ended⟩ := stream
    cases ended <;> simp [arrived, arrive]
  rw [same] at follows
  have silent : (run (Pop3LineReader.create socket maxLineBytes) (inOneChunk events)).2 = [] := by
    obtain ⟨lines', rest', frames⟩ := frames_exists maxLineBytes ([] ++ (arrived events).1)
    have takes := onData_takes (Pop3LineReader.create socket maxLineBytes) frames rfl rfl
      fun still => by cases still
    have quiet := (takes.quiet rfl).1
    have first : answerOf (Pop3LineReader.create socket maxLineBytes)
        ((Pop3LineReader.create socket maxLineBytes).onData (arrived events).1) = none := answerOf_quiet rfl
    unfold run inOneChunk
    split
    · simp [step, Pop3LineReader.answer, Pop3LineReader.handle, first, answerOf_quiet quiet]
    · simp [step, Pop3LineReader.answer, Pop3LineReader.handle, first]
  have taken := follows.lines
  rw [silent] at taken
  have same_ : (run (Pop3LineReader.create socket maxLineBytes) (inOneChunk events)).1.lines = lines := taken
  rw [same_]
  exact ⟨rest, follows⟩

/-- What has been read of a stream, and what will be: its lines, one after another, and then an error where it is over or
cannot be read on. -/
structure ReadsAsWhole (maxLineBytes : Nat) (stream : List Received × Bool) (lines : List Line) (rest : Option (List Received))
    (reader : Pop3LineReader) (answers : List (Except Pop3TestError Line)) : Prop where
  frames : Frames maxLineBytes stream.1 lines rest
  clean : ∀ line ∈ lines, 10 ∉ bytesOf line
  bytes : ∃ tail, bytesOf stream.1 = lines.flatMap (fun line => terminated (bytesOf line)) ++ tail ∧
    LeftOver maxLineBytes [] tail rest
  whole : delivered answers ++ reader.lines = lines
  fails : reader.terminalError.isSome = (rest.isNone || stream.2)
  served : reader.pending = true → delivered answers = lines ∧ reader.terminalError = none
  next : ∀ line, lines[(delivered answers).length]? = some line → (reader.readLine false).settled = some (.ok line)
  last : (delivered answers).length = lines.length → (rest.isNone || stream.2) = true →
    ∃ error, (reader.readLine false).settled = some (.error error)
  waits : (delivered answers).length = lines.length → (rest.isNone || stream.2) = false →
    (reader.readLine false).pending = true

theorem Follows.reads {lines : List Line} {rest : Option (List Received)}
    (follows : Follows maxLineBytes stream lines rest state) : ReadsAsWhole maxLineBytes stream lines rest state.1 state.2 := by
  obtain ⟨reader, answers⟩ := state
  have all : delivered answers ++ reader.lines = lines := follows.lines
  have fails : reader.terminalError.isSome = (rest.isNone || stream.2) := follows.terminal
  have counts := congrArg List.length all
  rw [List.length_append] at counts
  have readOut : (delivered answers).length = lines.length → reader.lines = [] :=
    fun same => List.length_eq_zero_iff.1 (by omega)
  obtain ⟨clean, tail, isTail, left⟩ := follows.frames.split []
  rw [List.append_nil] at isTail
  refine ⟨follows.frames, clean, ⟨tail, isTail, left⟩, all, fails, fun pending => ?_, fun line isNext => ?_, fun same failed => ?_,
    fun same alive => ?_⟩
  · obtain ⟨empty, alive⟩ := follows.waits pending
    refine ⟨?_, alive⟩
    rw [← all, show reader.lines = [] from empty, List.append_nil]
  · rw [← all, List.getElem?_append_right (Nat.le_refl _), Nat.sub_self] at isNext
    cases waiting : reader.lines with
    | nil =>
      rw [waiting] at isNext
      cases isNext
    | cons queued others =>
      rw [waiting] at isNext
      cases isNext
      simp [Pop3LineReader.readLine, waiting]
  · rw [← fails] at failed
    obtain ⟨error, dead⟩ := Option.isSome_iff_exists.1 failed
    exact ⟨error, by simp [Pop3LineReader.readLine, readOut same, dead]⟩
  · rw [alive] at fails
    have running : reader.terminalError = none := by simpa using fails
    simp only [Pop3LineReader.readLine, readOut same, running]
    rcases Bool.eq_false_or_eq_true reader.pending with pending | pending <;> simp [pending]

/-- Chunks may arrive and lines be asked for in any order: what is read are the lines of the bytes that have arrived, as
if they had arrived as one chunk. -/
theorem reads_as_whole (socket : SocketId) (maxLineBytes : Nat) (events : List Event) : ∃ lines rest,
    ReadsAsWhole maxLineBytes (arrived events) lines rest (run (Pop3LineReader.create socket maxLineBytes) events).1
      (run (Pop3LineReader.create socket maxLineBytes) events).2 ∧
    ReadsAsWhole maxLineBytes (arrived events) lines rest (run (Pop3LineReader.create socket maxLineBytes) (inOneChunk events)).1
      (run (Pop3LineReader.create socket maxLineBytes) (inOneChunk events)).2 ∧
    (run (Pop3LineReader.create socket maxLineBytes) (inOneChunk events)).1.lines = lines := by
  obtain ⟨lines, rest, follows⟩ := run_follows socket maxLineBytes events
  obtain ⟨rest', whole⟩ := inOneChunk_follows socket maxLineBytes events
  obtain ⟨rfl, rfl⟩ := follows.frames.unique whole.frames
  exact ⟨_, _, follows.reads, whole.reads, rfl⟩

end Runs

end Pop3Test
