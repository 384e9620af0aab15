import MaterialEmail.Library.Interleaving
import MaterialEmail.Pop3Test.Model

/-! The test of an account as a conversation over a connection on which anything may happen between two of its
steps: bytes come in any pieces, connections fail or close, timers run out, the test is cancelled. -/
namespace Pop3Test

open JsString JsDate Interrupted Interleaved

/-- `ready` once the connection stands, with TLS once the handshake is complete. -/
structure Socket where
  ready : Bool
  destroyed : Bool
  deriving DecidableEq

/-- The promise of `waitForSocket` or of `writeSocket`. -/
structure Promise where
  socket : SocketId
  settled : Option (Except Pop3TestError Unit)

def Promise.finish (promise : Promise) (result : Except Pop3TestError Unit) : Promise :=
  { promise with settled := promise.settled.or (some result) }

structure Pop3Session where
  socket : SocketId
  reader : Pop3LineReader

/-- A payload handed to a connection, and whether that was ready. -/
structure Sent where
  socket : SocketId
  secured : Bool
  payload : List Nat
  deriving DecidableEq

/-- A line that the test has taken for a reply, and whether TLS had been begun by then. -/
structure Interpreted where
  upgraded : Bool
  line : List Received
  deriving DecidableEq

structure State where
  plainSocket : Option Socket
  secureSocket : Option Socket
  session : Option Pop3Session
  opening : Option Promise
  writing : Option Promise
  aborted : Bool
  sent : List Sent
  interpreted : List Interpreted

namespace State

def initial : State := ⟨none, none, none, none, none, false, [], []⟩

variable (s : State)

def socket : SocketId → Option Socket
  | .plain => s.plainSocket
  | .secure => s.secureSocket

def editSocket (edit : Socket → Socket) : SocketId → State
  | .plain => { s with plainSocket := s.plainSocket.map edit }
  | .secure => { s with secureSocket := s.secureSocket.map edit }

def isReady (socket : SocketId) : Bool := (s.socket socket).any Socket.ready

def destroy (socket : SocketId) : State := s.editSocket (fun socket => { socket with destroyed := true }) socket

/-- `abortActiveConnection`, also the end of the test. -/
def destroyAll : State := (s.destroy .secure).destroy .plain

def editReader (edit : Pop3LineReader → Pop3LineReader) : State :=
  { s with session := s.session.map fun session => { session with reader := edit session.reader } }

def heard (socket : SocketId) (handler : Pop3LineReader → Pop3LineReader) : State :=
  s.editReader fun reader => if reader.listening ∧ reader.socket = socket then handler reader else reader

def finishOpening (socket : SocketId) (result : Except Pop3TestError Unit) : State :=
  { s with opening := s.opening.map fun promise => if promise.socket = socket then promise.finish result else promise }

def giveUp : Option Promise → State
  | some ⟨socket, none⟩ => s.destroy socket
  | _ => s

def stopWaiting (error : Pop3TestError) : State :=
  let stopped : State := { s with
    opening := s.opening.map fun promise => promise.finish (.error error)
    writing := s.writing.map fun promise => promise.finish (.error error) }
  ((stopped.giveUp s.opening).giveUp s.writing).editReader fun reader => reader.settle (.error error)

end State

inductive NetworkEvent where
  | data (socket : SocketId) (chunk : List UInt8)
  | ready (socket : SocketId)
  | error (socket : SocketId)
  | ended (socket : SocketId)
  | closed (socket : SocketId)
  /-- The callback of `write`. -/
  | wrote (failed : Bool)
  /-- The timer of what is waited for. -/
  | timer
  | abort
  deriving DecidableEq

def openingError : SocketId → Pop3TestError
  | .secure => ⟨.ETLS, "The secure POP3 connection could not be verified."⟩
  | .plain => ⟨.ECONNECTION, "The POP3 server connection could not be opened."⟩

def NetworkEvent.happen (s : State) : NetworkEvent → State
  | .data socket chunk => s.heard socket fun reader => reader.onData (chunk.map (⟨socket, ·⟩))
  | .ready socket =>
    if (s.socket socket).isSome then
      (s.editSocket (fun socket => { socket with ready := true }) socket).finishOpening socket (.ok ())
    else s
  | .error socket => (s.finishOpening socket (.error (openingError socket))).heard socket Pop3LineReader.onError
  | .ended socket => s.heard socket Pop3LineReader.onEnd
  | .closed socket =>
    (s.finishOpening socket (.error ⟨.ECONNECTION, "The POP3 connection closed before it became ready."⟩)).heard socket
      Pop3LineReader.onClose
  | .wrote failed =>
    { s with writing := s.writing.map fun promise =>
        promise.finish (if failed then .error ⟨.ECONNECTION, "The POP3 command could not be sent."⟩ else .ok ()) }
  | .timer => s.stopWaiting timeoutError
  | .abort =>
    let aborted : State := { s with aborted := true }
    if s.aborted then s else (aborted.stopWaiting cancelledError).destroyAll

section Operations

/-- How the conversation fails: with an error of the test, or with one of the modules for connections. -/
inductive Failure where
  | test (error : Pop3TestError)
  | other (code : Option JsString)

/-- What the secure connection tells of itself. Nothing is an empty text. -/
structure TlsMetadata where
  protocol : JsString
  cipher : JsString
  authorized : Bool
  deriving DecidableEq

inductive Op where
  /-- `Date.now()`. -/
  | now
  | createConnection
  | connectTls
  | waitForSocket (socket : SocketId) (timeoutMs : Nat)
  /-- `await` of the connection. -/
  | opened
  /-- `new Pop3Session`. -/
  | openSession (socket : SocketId) (lineBytes : Nat)
  | writeSocket (payload : List Nat) (timeoutMs : Nat)
  /-- `await` of the write. -/
  | written
  | readLine (timeoutMs : Nat)
  /-- `await` of the line. -/
  | line
  | takeSocketForTls
  | replaceWithTls (lineBytes : Nat)
  | metadata
  /-- The end of the test. -/
  | dispose
  | network (event : NetworkEvent)

abbrev Reply : Op → Type
  | .now => Nat
  | .createConnection | .connectTls => Except Failure Unit
  | .opened | .written | .takeSocketForTls => Except Pop3TestError Unit
  | .line => Except Pop3TestError (List UInt8)
  | .metadata => TlsMetadata
  | .waitForSocket _ _ | .openSession _ _ | .writeSocket _ _ | .readLine _ | .replaceWithTls _ | .dispose | .network _ => Unit

inductive Choice where
  | proceeds
  | clock (now : Nat)
  | throws (code : Option JsString)
  | negotiated (metadata : TlsMetadata)
  deriving DecidableEq

/-- A promise for a connection. It ends at once if the test has been cancelled. -/
def waitForSocket (socket : SocketId) (s : State) : State :=
  if s.aborted then { s.destroy socket with opening := some ⟨socket, some (.error cancelledError)⟩ }
  else { s with opening := some ⟨socket, none⟩ }

/-- Nothing is written any more when the test has been cancelled, or over a connection that has been destroyed. -/
def writeSocket (socket : SocketId) (payload : List Nat) (s : State) : State :=
  if s.aborted then { s with writing := some ⟨socket, some (.error cancelledError)⟩ }
  else
    { s with
      writing := some ⟨socket, none⟩
      sent := if (s.socket socket).any Socket.destroyed then s.sent else s.sent ++ [⟨socket, s.isReady socket, payload⟩] }

def environment : Environment Op Reply Choice State where
  answer _ op choice s :=
    match op, choice with
    | .now, .clock now => some (now, s)
    | .createConnection, .proceeds => some (.ok (), { s with plainSocket := some ⟨false, false⟩ })
    | .createConnection, .throws code => some (.error (.other code), s)
    | .connectTls, .proceeds => some (.ok (), { s with secureSocket := some ⟨false, false⟩ })
    | .connectTls, .throws code => some (.error (.other code), s)
    | .waitForSocket socket _, .proceeds => some ((), waitForSocket socket s)
    | .opened, .proceeds => (s.opening.bind Promise.settled).map (·, s)
    | .openSession socket lineBytes, .proceeds =>
      some ((), { s with session := some ⟨socket, .create socket lineBytes⟩ })
    | .writeSocket payload _, .proceeds => s.session.map fun session => ((), writeSocket session.socket payload s)
    | .written, .proceeds => (s.writing.bind Promise.settled).map (·, s)
    | .readLine _, .proceeds => some ((), s.editReader fun reader => reader.readLine s.aborted)
    | .line, .proceeds =>
      (s.session.bind fun session => session.reader.settled).map fun
        | .ok line => (.ok (line.map Received.byte), { s with interpreted := s.interpreted ++ [⟨s.secureSocket.isSome, line⟩] })
        | .error error => (.error error, s)
    | .takeSocketForTls, .proceeds =>
      s.session.map fun session =>
        if session.reader.isEmpty then (.ok (), s.editReader Pop3LineReader.dispose) else (.error protocolError, s)
    | .replaceWithTls lineBytes, .proceeds => some ((), { s with session := some ⟨.secure, .create .secure lineBytes⟩ })
    | .metadata, .negotiated metadata => some (metadata, s)
    | .dispose, .proceeds => some ((), (s.editReader Pop3LineReader.dispose).destroyAll)
    | .network event, .proceeds => some ((), event.happen s)
    | _, _ => none

end Operations

section Programs

abbrev Test := Program Op Reply Failure

def orThrow : Except Pop3TestError α → Test α
  | .ok value => .done value
  | .error error => .throw (.test error)

def orFail : Except Failure α → Test α
  | .ok value => .done value
  | .error failure => .throw failure

/-- `stageTimeout` of the test and `#boundedTimeout` of a session. -/
def boundedTimeout (deadline stageTimeoutMs : Nat) : Test Nat :=
  .call .now fun now =>
    if deadline ≤ now then .throw (.test timeoutError) else .done (max 1 (min stageTimeoutMs (deadline - now)))

def awaitSocket (socket : SocketId) (timeoutMs : Nat) : Test Unit :=
  .call (.waitForSocket socket timeoutMs) fun _ => .call .opened orThrow

def awaitLine (timeoutMs : Nat) : Test (List UInt8) := .call (.readLine timeoutMs) fun _ => .call .line orThrow

variable (limits : Pop3TestLimits Nat) (deadline : Nat)

def greeting : Test Unit := do
  let timeout ← boundedTimeout deadline limits.greetingTimeoutMs
  let line ← awaitLine timeout
  let status ← orThrow (parseStatus line)
  if status.ok then return
  else .throw (.test ⟨.EPROTOCOL, "The POP3 server refused the connection before authentication."⟩)

def command (command : Pop3Command) (argument : Option JsString) : Test Pop3Status :=
  if limits.commandBytes < (encoded command argument).length then
    .throw (.test ⟨.EINPUT, "The POP3 command exceeds the bounded account-test size limit."⟩)
  else do
    let timeout ← boundedTimeout deadline limits.commandTimeoutMs
    .call (.writeSocket (encoded command argument) timeout) fun _ => .call .written orThrow
    let line ← awaitLine timeout
    orThrow (parseStatus line)

def refusal (code : Pop3TestErrorCode) : Pop3TestError :=
  ⟨code, match code with
    | .EAUTH => "The POP3 server rejected the account sign-in."
    | .ETLS => "The POP3 server did not permit the required STARTTLS upgrade."
    | _ => "The POP3 server rejected a required bounded account-test command."⟩

def required (name : Pop3Command) (argument : Option JsString) (code : Pop3TestErrorCode) : Test Pop3Status := do
  let status ← command limits deadline name argument
  if status.ok then return status else .throw (.test (refusal code))

/-- A line of a body, with the dot that was doubled taken off. -/
def unstuffed : List UInt8 → List UInt8
  | 46 :: 46 :: rest => 46 :: rest
  | line => line

def bodyLine (bodyDeadline bytes : Nat) : Test (List UInt8) :=
  .call .now fun now => .call .now fun later =>
    if min (bodyDeadline - now) (deadline - later) = 0 then .throw (.test timeoutError)
    else do
      let line ← awaitLine (min (bodyDeadline - now) (deadline - later))
      if limits.bodyBytes < bytes + line.length + 2 then .throw (.test sizeError) else return line

/-- The rest of a body, while a number of lines may still come. After them only its end may. -/
def bodyFrom (bodyDeadline : Nat) : Nat → Nat → Test (List (List UInt8))
  | 0, bytes => do
    let line ← bodyLine limits deadline bodyDeadline bytes
    if line = [46] then return [] else .throw (.test sizeError)
  | left + 1, bytes => do
    let line ← bodyLine limits deadline bodyDeadline bytes
    if line = [46] then return []
    else return unstuffed line :: (← bodyFrom bodyDeadline left (bytes + line.length + 2))

def multiline (name : Pop3Command) : Test (List (List UInt8)) := do
  let _ ← required limits deadline name none .EPROTOCOL
  .call .now fun now => do
    let timeout ← boundedTimeout deadline limits.bodyTimeoutMs
    bodyFrom limits deadline (now + timeout) limits.bodyLines 0

def capabilitiesOf : Test (List JsString) := do
  let lines ← multiline limits deadline .CAPA
  orThrow (parseCapabilities lines)

def connectWithTls : Test Unit := do
  .call .connectTls orFail
  let timeout ← boundedTimeout deadline limits.tlsHandshakeTimeoutMs
  awaitSocket .secure timeout
  .call (.openSession .secure limits.lineBytes) .done
  greeting limits deadline

def connectWithStartTls : Test (List JsString) := do
  .call .createConnection orFail
  let timeout ← boundedTimeout deadline limits.connectTimeoutMs
  awaitSocket .plain timeout
  .call (.openSession .plain limits.lineBytes) .done
  greeting limits deadline
  let preTlsCapabilities ← capabilitiesOf limits deadline
  if Pop3Command.text .STLS ∉ preTlsCapabilities then
    .throw (.test ⟨.ETLS, "The POP3 server does not advertise the required STARTTLS upgrade."⟩)
  else do
    let _ ← required limits deadline .STLS none .ETLS
    .call .takeSocketForTls orThrow
    .call .connectTls orFail
    let timeout ← boundedTimeout deadline limits.tlsHandshakeTimeoutMs
    awaitSocket .secure timeout
    .call (.replaceWithTls limits.lineBytes) .done
    return preTlsCapabilities

/-- The messages from a number on, with the identifiers that have been seen. -/
def sampleFrom : Nat → Nat → List JsString → Test Unit
  | 0, _, _ => return
  | left + 1, number, seen => do
    let uidl ← required limits deadline .UIDL (some (decimal number)) .EPROTOCOL
    let seen ← orThrow (assertUidl uidl number seen)
    let list ← required limits deadline .LIST (some (decimal number)) .EPROTOCOL
    orThrow (assertList list number)
    sampleFrom left (number + 1) seen

def sample (sampledMessageCount : Nat) : Test Unit :=
  if sampledMessageCount = 0 then do
    let _ ← multiline limits deadline .UIDL
    let _ ← multiline limits deadline .LIST
  else sampleFrom limits deadline sampledMessageCount 1 []

structure Pop3TestCapabilities where
  capa : Bool
  stls : Bool
  uidl : Bool
  user : Bool
  pipelining : Bool
  top : Bool
  deriving DecidableEq

inductive Transport where
  | implicitTls
  | starttls
  deriving DecidableEq

structure Pop3TestResult where
  incoming : Bool := true
  outgoing : Bool := false
  incomingProtocol : String := "pop3"
  transport : Transport
  tlsAuthorized : Bool
  tlsProtocol : JsString
  tlsCipher : JsString
  capabilities : Pop3TestCapabilities
  messageCount : Nat
  mailboxOctets : Nat
  sampledMessageCount : Nat
  uidlVerified : Bool := true
  listVerified : Bool := true
  leaveOnServer : Bool := true
  deletionAttempted : Bool := false
  messagesRetrieved : Bool := false
  credentialsPersisted : Bool := false
  fullSynchronization : Bool := false
  quitConfirmed : Bool := true

variable (input : Pop3TestInput)

def connect : Test (List JsString) :=
  match input.security with
  | .tls => do
    connectWithTls limits deadline
    return []
  | .starttls => connectWithStartTls limits deadline

def examine (messageLimit : Nat) (preTlsCapabilities : List JsString) : Test Pop3TestResult := do
  let capabilities ← capabilitiesOf limits deadline
  if Pop3Command.text .UIDL ∉ capabilities then
    .throw (.test ⟨.EPROTOCOL, "The POP3 server does not advertise UIDL, so the leave-on-server account test stopped safely."⟩)
  else do
    let _ ← required limits deadline .USER (some input.username) .EAUTH
    let _ ← required limits deadline .PASS (some input.secret) .EAUTH
    let stat ← required limits deadline .STAT none .EPROTOCOL
    let mailbox ← orThrow (parseStat stat)
    let sampledMessageCount := min mailbox.messageCount messageLimit
    sample limits deadline sampledMessageCount
    let _ ← required limits deadline .QUIT none .EPROTOCOL
    let metadata ← .call .metadata .done
    if metadata.protocol = [] ∨ metadata.cipher = [] then
      .throw (.test ⟨.ETLS, "The secure POP3 connection did not expose negotiated TLS metadata."⟩)
    else return {
      transport := if input.security = .tls then .implicitTls else .starttls
      tlsAuthorized := metadata.authorized
      tlsProtocol := metadata.protocol
      tlsCipher := metadata.cipher
      capabilities := {
        capa := true
        stls := input.security = .starttls && Pop3Command.text .STLS ∈ preTlsCapabilities
        uidl := true
        user := Pop3Command.text .USER ∈ capabilities
        pipelining := ofString "PIPELINING" ∈ capabilities
        top := ofString "TOP" ∈ capabilities }
      messageCount := mailbox.messageCount
      mailboxOctets := mailbox.mailboxOctets
      sampledMessageCount := sampledMessageCount }

/-- What is tried while there is something to clean up. -/
def conversation (messageLimit : Nat) : Test Pop3TestResult := do
  let preTlsCapabilities ← connect limits deadline input
  examine limits deadline input messageLimit preTlsCapabilities

/-- The codes that connections fail with are of basic letters. -/
def sanitizedTransportError : Failure → Pop3TestError
  | .test error => error
  | .other code =>
    let code := (code.getD []).map asciiUpper
    if code ∈ ["ETIMEDOUT", "ESOCKETTIMEDOUT", "ETIMEOUT"].map ofString then timeoutError
    else if ["ERR_TLS", "CERT_", "DEPTH_ZERO_SELF_SIGNED_CERT", "SELF_SIGNED_CERT"].any (ofString · <+: code) then
      openingError .secure
    else ⟨.ECONNECTION, "The POP3 account test could not complete its bounded connection."⟩

def testPop3Account (overrides : Pop3TestLimits (Option JsNumber)) : Test Pop3TestResult := do
  let messageLimit ← orThrow (assertInput input)
  let limits ← orThrow (resolveLimits overrides)
  .call .now fun now =>
    let tried := conversation limits (now + limits.sessionTimeoutMs) input messageLimit
    (tried.catching fun failure => .throw (.test (sanitizedTransportError failure))).finally_ (.call .dispose .done)

end Programs

section Runs

variable (input : Pop3TestInput) (overrides : Pop3TestLimits (Option JsNumber))

def start : World Op Reply Failure State :=
  ⟨.initial, [do let _ ← testPop3Account input overrides]⟩

def happening (event : NetworkEvent) : Test Unit := .call (.network event) .done

/-- A run of the test, in which the network does what it does. -/
def Reaches (events : List (Event NetworkEvent Choice)) (after : World Op Reply Failure State) : Prop :=
  World.run environment happening (start input overrides) events = some after

end Runs

end Pop3Test
