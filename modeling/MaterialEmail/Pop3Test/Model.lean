import MaterialEmail.Library.JsDate
import MaterialEmail.Library.Utf8

/-! What the test of a POP3 account reads from a server and writes to it: lines within limits, replies, and
commands of one line. -/
namespace Pop3Test

open JsString JsDate ContentLine Utf8

inductive Pop3TestErrorCode where
  | EINPUT
  | ECANCELLED
  | ETIMEDOUT
  | ETLS
  | EAUTH
  | EPROTOCOL
  | ETOOBIG
  | ECONNECTION
  deriving DecidableEq

structure Pop3TestError where
  code : Pop3TestErrorCode
  message : String
  deriving DecidableEq

def cancelledError : Pop3TestError :=
  ⟨.ECANCELLED, "The POP3 account test was cancelled and its connection was closed."⟩

def timeoutError : Pop3TestError :=
  ⟨.ETIMEDOUT, "The POP3 server did not respond before the bounded account-test deadline."⟩

def protocolError : Pop3TestError :=
  ⟨.EPROTOCOL, "The POP3 server returned a response that the bounded account test could not safely accept."⟩

def sizeError : Pop3TestError :=
  ⟨.ETOOBIG, "The POP3 server response exceeded the bounded account-test size limit."⟩

section Limits

structure Pop3TestLimits (α : Type) where
  connectTimeoutMs : α
  tlsHandshakeTimeoutMs : α
  greetingTimeoutMs : α
  commandTimeoutMs : α
  bodyTimeoutMs : α
  sessionTimeoutMs : α
  lineBytes : α
  bodyBytes : α
  bodyLines : α
  commandBytes : α

/-- `POP3_TEST_LIMITS`. -/
def pop3TestLimits : Pop3TestLimits Nat where
  connectTimeoutMs := 5000
  tlsHandshakeTimeoutMs := 5000
  greetingTimeoutMs := 5000
  commandTimeoutMs := 5000
  bodyTimeoutMs := 5000
  sessionTimeoutMs := 30000
  lineBytes := 8 * 1024
  bodyBytes := 64 * 1024
  bodyLines := 512
  commandBytes := 17 * 1024

def positiveLimit (value : JsNumber) : Except Pop3TestError Nat :=
  match value.toInt? with
  | some value => if value < 1 then .error invalid else .ok value.toNat
  | none => .error invalid
where
  invalid := ⟨.EINPUT, "The POP3 account-test safety limits are invalid."⟩

def resolveLimits (overrides : Pop3TestLimits (Option JsNumber)) : Except Pop3TestError (Pop3TestLimits Nat) := do
  return {
    connectTimeoutMs := ← limit Pop3TestLimits.connectTimeoutMs Pop3TestLimits.connectTimeoutMs
    tlsHandshakeTimeoutMs := ← limit Pop3TestLimits.tlsHandshakeTimeoutMs Pop3TestLimits.tlsHandshakeTimeoutMs
    greetingTimeoutMs := ← limit Pop3TestLimits.greetingTimeoutMs Pop3TestLimits.greetingTimeoutMs
    commandTimeoutMs := ← limit Pop3TestLimits.commandTimeoutMs Pop3TestLimits.commandTimeoutMs
    bodyTimeoutMs := ← limit Pop3TestLimits.bodyTimeoutMs Pop3TestLimits.bodyTimeoutMs
    sessionTimeoutMs := ← limit Pop3TestLimits.sessionTimeoutMs Pop3TestLimits.sessionTimeoutMs
    lineBytes := ← limit Pop3TestLimits.lineBytes Pop3TestLimits.lineBytes
    bodyBytes := ← limit Pop3TestLimits.bodyBytes Pop3TestLimits.bodyBytes
    bodyLines := ← limit Pop3TestLimits.bodyLines Pop3TestLimits.bodyLines
    commandBytes := ← limit Pop3TestLimits.commandBytes Pop3TestLimits.commandBytes }
where
  limit (override : Pop3TestLimits (Option JsNumber) → Option JsNumber) (standard : Pop3TestLimits Nat → Nat) :
      Except Pop3TestError Nat :=
    positiveLimit ((override overrides).getD (.finite (standard pop3TestLimits)))

end Limits

section Input

inductive Security where
  | tls
  | starttls
  deriving DecidableEq

structure Pop3TestInput where
  host : JsString
  port : JsNumber
  security : Security
  username : JsString
  secret : JsString
  messageLimit : JsNumber

/-- The integer, if it is one from 1 to a bound. -/
def withinBound (value : JsNumber) (bound : Int) : Option Int :=
  value.toInt?.filter fun value => 1 ≤ value && value ≤ bound

/-- The text can be sent as part of a line of a command. -/
def assertSendable (kind : String) (value : JsString) (maximum : Nat) : Except Pop3TestError Unit :=
  if value = [] ∨ maximum < byteLength value ∨ value.any (fun unit => unit = 13 || unit = 10 || unit = 0) then
    .error ⟨.EINPUT, "The POP3 " ++ kind ++ " cannot be sent safely."⟩
  else .ok ()

/-- The limit of the sample, if the input is sound. Only the two kinds of security exist. -/
def assertInput (input : Pop3TestInput) : Except Pop3TestError Nat :=
  if input.host.trim = [] ∨ (withinBound input.port 65535).isNone then
    .error ⟨.EINPUT, "The POP3 server address or port is invalid."⟩
  else
    match withinBound input.messageLimit 50 with
    | none => .error ⟨.EINPUT, "The POP3 account-test sample limit must be from 1 through 50."⟩
    | some messageLimit => do
      assertSendable "username" input.username 1024
      assertSendable "credential" input.secret 16384
      return messageLimit.toNat

end Input

/-- The connection in plain text, and the one with TLS. -/
inductive SocketId where
  | plain
  | secure
  deriving DecidableEq

/-- A byte, with the connection that it came over. -/
structure Received where
  source : SocketId
  byte : UInt8
  deriving DecidableEq

section Reading

/-- `listening` until the reader has been disposed of. `settled` is how the promise of the last `readLine` has ended. -/
structure Pop3LineReader where
  socket : SocketId
  maxLineBytes : Nat
  listening : Bool
  buffer : List Received
  lines : List (List Received)
  pending : Bool
  settled : Option (Except Pop3TestError (List Received))
  terminalError : Option Pop3TestError

namespace Pop3LineReader

def create (socket : SocketId) (maxLineBytes : Nat) : Pop3LineReader :=
  ⟨socket, maxLineBytes, true, [], [], false, none, none⟩

variable (reader : Pop3LineReader)

def isEmpty : Bool := reader.buffer.isEmpty && reader.lines.isEmpty

/-- Ends the promise that is pending, if one is. -/
def settle (result : Except Pop3TestError (List Received)) : Pop3LineReader :=
  if reader.pending then { reader with pending := false, settled := some result } else reader

def dispose : Pop3LineReader :=
  { reader.settle (.error ⟨.ECONNECTION, "The POP3 connection closed before the account test completed."⟩) with
    listening := false
    buffer := []
    lines := [] }

def readLine (aborted : Bool) : Pop3LineReader :=
  if aborted then { reader with settled := some (.error cancelledError) }
  else
    match reader.lines with
    | queued :: lines => { reader with lines := lines, settled := some (.ok queued) }
    | [] =>
      match reader.terminalError with
      | some error => { reader with settled := some (.error error) }
      | none =>
        if reader.pending then { reader with settled := some (.error protocolError) }
        else { reader with pending := true, settled := none }

def fail (error : Pop3TestError) : Pop3LineReader :=
  if reader.terminalError.isSome then reader else { reader with terminalError := some error }.settle (.error error)

/-- A whole line goes to the promise that waits for it, else to the others. -/
def deliver (line : List Received) : Pop3LineReader :=
  if reader.pending then reader.settle (.ok line) else { reader with lines := reader.lines ++ [line] }

/-- The loop of `#onData`, for a number of turns. -/
def takeLines (reader : Pop3LineReader) : Nat → Pop3LineReader
  | 0 => reader
  | turns + 1 =>
    match reader.buffer.findIdx? (·.byte = 10) with
    | none => if reader.maxLineBytes < reader.buffer.length then reader.fail sizeError else reader
    | some lf =>
      if lf = 0 ∨ (reader.buffer[lf - 1]?).map (·.byte) ≠ some 13 then reader.fail protocolError
      else if reader.maxLineBytes < lf + 1 then reader.fail sizeError
      else
        ({ reader with buffer := reader.buffer.drop (lf + 1) }.deliver (reader.buffer.take (lf - 1))).takeLines turns

/-- Every turn takes a byte at least, so there are no more turns than bytes. -/
def onData (chunk : List Received) : Pop3LineReader :=
  if reader.terminalError.isSome then reader
  else { reader with buffer := reader.buffer ++ chunk }.takeLines ((reader.buffer ++ chunk).length + 1)

def onError : Pop3LineReader :=
  reader.fail ⟨.ECONNECTION, "The POP3 connection ended before the bounded account test completed."⟩

def onEnd : Pop3LineReader :=
  reader.fail ⟨.ECONNECTION, "The POP3 server closed the connection before the account test completed."⟩

def onClose : Pop3LineReader := if reader.terminalError.isSome then reader else reader.onEnd

end Pop3LineReader

end Reading

section Replies

def isBlank (unit : UInt16) : Bool := unit = 32 || unit = 9

/-- `/OK/iu`, with what follows. The Kelvin sign is a `k` in another case. -/
def afterOk : JsString → Option JsString
  | o :: k :: rest => if (o = 79 ∨ o = 111) ∧ (k = 75 ∨ k = 107 ∨ k = 0x212A) then some rest else none
  | _ => none

/-- `/ERR/iu`, with what follows. -/
def afterErr : JsString → Option JsString
  | e :: r₁ :: r₂ :: rest =>
    if (e = 69 ∨ e = 101) ∧ (r₁ = 82 ∨ r₁ = 114) ∧ (r₂ = 82 ∨ r₂ = 114) then some rest else none
  | _ => none

/-- A blank comes first, or nothing at all. -/
def endsWord (text : JsString) : Bool := text.head?.all isBlank

structure Pop3Status where
  ok : Bool
  text : JsString
  deriving DecidableEq

def parseStatus (line : List UInt8) : Except Pop3TestError Pop3Status :=
  let text := utf8Text line
  match text with
  | 43 :: rest => if (afterOk rest).any endsWord then .ok ⟨true, text⟩ else .error protocolError
  | 45 :: rest => if (afterErr rest).any endsWord then .ok ⟨false, text⟩ else .error protocolError
  | _ => .error protocolError

/-- What follows `OK` or `ERR` and blanks, if the text begins so. -/
def afterStatus : JsString → Option JsString
  | sign :: rest =>
    if sign = 43 ∨ sign = 45 then
      (((afterOk rest).or (afterErr rest)).filter endsWord).map fun after => after.dropWhile isBlank
    else none
  | [] => none

def statusPayload (status : Pop3Status) : JsString := trim ((afterStatus status.text).getD status.text)

/-- `split(/[ \t]+/u)`, of a text that has been trimmed. -/
def fields (text : JsString) : List JsString :=
  if text = [] then [[]] else (text.splitOnP isBlank).filter (· ≠ [])

def parsePositiveInteger (raw : JsString) : Except Pop3TestError Nat :=
  match raw with
  | [48] => .ok 0
  | first :: rest =>
    if 49 ≤ first ∧ first ≤ 57 ∧ rest.length ≤ 15 then
      match number (first :: rest) with
      | some value => if value < 2 ^ 53 then .ok value else .error protocolError
      | none => .error protocolError
    else .error protocolError
  | [] => .error protocolError

/-- Exactly two fields. -/
def twoFields (status : Pop3Status) : Except Pop3TestError (JsString × JsString) :=
  match fields (statusPayload status) with
  | [first, second] => .ok (first, second)
  | _ => .error protocolError

def isGraphic (unit : UInt16) : Bool := 0x21 ≤ unit && unit ≤ 0x7E

def isPrintable (unit : UInt16) : Bool := 0x20 ≤ unit && unit ≤ 0x7E

/-- `toString("ascii")`: the eighth bit does not count. -/
def asciiText (line : List UInt8) : JsString := line.map fun byte => UInt16.ofNat (byte.toNat % 128)

def parseCapability (line : List UInt8) : Except Pop3TestError JsString :=
  let text := asciiText line
  if text.head?.any isGraphic && text.getLast?.any isGraphic && text.all isPrintable then
    match fields text.trim with
    | name :: _ => if name = [] ∨ 64 < name.length then .error protocolError else .ok (name.map asciiUpper)
    | [] => .error protocolError
  else .error protocolError

/-- The set of the capabilities, as a list. -/
def parseCapabilities (lines : List (List UInt8)) : Except Pop3TestError (List JsString) := lines.mapM parseCapability

structure Mailbox where
  messageCount : Nat
  mailboxOctets : Nat

def parseStat (status : Pop3Status) : Except Pop3TestError Mailbox := do
  let (first, second) ← twoFields status
  return ⟨← parsePositiveInteger first, ← parsePositiveInteger second⟩

/-- The identifiers that have been seen, with the one of this reply. -/
def assertUidl (status : Pop3Status) (expectedNumber : Nat) (seen : List JsString) : Except Pop3TestError (List JsString) := do
  let (first, uidl) ← twoFields status
  if (← parsePositiveInteger first) ≠ expectedNumber then .error protocolError
  else if 1024 < byteLength uidl ∨ uidl = [] ∨ uidl.all isGraphic = false ∨ uidl ∈ seen then .error protocolError
  else .ok (uidl :: seen)

def assertList (status : Pop3Status) (expectedNumber : Nat) : Except Pop3TestError Unit := do
  let (first, second) ← twoFields status
  if (← parsePositiveInteger first) ≠ expectedNumber then .error protocolError
  else
    let _ ← parsePositiveInteger second

end Replies

section Commands

inductive Pop3Command where
  | CAPA
  | STLS
  | USER
  | PASS
  | STAT
  | UIDL
  | LIST
  | QUIT
  deriving DecidableEq

def Pop3Command.text : Pop3Command → JsString
  | .CAPA => ofString "CAPA"
  | .STLS => ofString "STLS"
  | .USER => ofString "USER"
  | .PASS => ofString "PASS"
  | .STAT => ofString "STAT"
  | .UIDL => ofString "UIDL"
  | .LIST => ofString "LIST"
  | .QUIT => ofString "QUIT"

def commandText (command : Pop3Command) (argument : Option JsString) : JsString :=
  match argument with
  | none => command.text
  | some argument => command.text ++ 32 :: argument

def encoded (command : Pop3Command) (argument : Option JsString) : List Nat :=
  utf8Bytes (commandText command argument ++ [13, 10])

end Commands

end Pop3Test
