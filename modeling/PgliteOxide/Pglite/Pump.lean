import PgliteOxide.Pglite.Bridge
import PgliteOxide.Pglite.Proxy

/-!
# The protocol pump

A connection with its backend: `handle_stream` of the proxy, `send_protocol_pump` of
`postgres_mod.rs` where the proxy calls the backend, and the bridge under both. The backend itself
is only known to call `pgl_recv`, `pgl_send` and `pgl_protocol_report_copy_response`, in any
order, while one of its exports runs. A step of the system is one operation of the proxy, one of
those calls, or the return of an export. Three readers share the client's socket and the bytes
before it: the proxy's reads, the bridge's input buffer, and the backend's standard input.
-/

namespace PgliteOxide.Pglite

open Lib

/-! ## The environment -/

/-- How the call of an export of the backend ends: it returns, `WasiError::Exit`, an uncaught
WebAssembly exception, or another trap. -/
inductive GuestReturn where
  | returned
  | exited (code : Int)
  | uncaughtException
  | trapped
deriving DecidableEq, Repr

/-- What the backend does next, on the protocol socket. -/
inductive GuestAction where
  | recv (n : ℕ)
  | send (bytes : Bytes)
  | reportCopyResponse (state : Int)
  | finish (result : GuestReturn)
deriving DecidableEq, Repr

/-- The operations of the system: those of the proxy, what other calls of the backend leave in the
bridge, a read of at most `max` bytes from the socket, writing to standard output, starting
the protocol, taking and returning guest memory for the host, growing a buffer of the bridge, the
bytes the backend has received and not used, and the backend's next action. -/
inductive SystemOp where
  | proxy (op : Op)
  | leftBridge
  | socketRead (max : Option ℕ)
  | writeStdout (bytes : Bytes)
  | startProtocol
  | allocate
  | free
  | realloc
  | pqBufferRemainingData
  | guest
deriving DecidableEq, Repr

/-- What the environment answers; a read is answered with the number of bytes that are there. -/
@[reducible] def SystemAnswer : SystemOp → Type
  | .proxy op => Answer op
  | .leftBridge => Bridge
  | .socketRead _ => Except IoErrorKind ℕ
  | .writeStdout _ => Bool
  | .startProtocol => Except BackendError Unit
  | .allocate => Except BackendError Unit
  | .free => Except BackendError Unit
  | .realloc => Bool
  | .pqBufferRemainingData => Except BackendError Int
  | .guest => GuestAction

/-- A part of the system; nothing ends it. -/
abbrev SystemM := Prog SystemOp SystemAnswer Empty

abbrev SystemTrace := List (Event SystemOp SystemAnswer)

/-! ## The system -/

/-- The export of the backend that `send_protocol_pump` is calling, with the variables that live
across the call. -/
inductive Phase where
  /-- `main_loop` in `send_protocol_inner`. -/
  | dispatch (attempts : ℕ) (recoveredProtocolError : Bool)
  /-- `recover_error` in `recover_protocol_error`. -/
  | recover (attempts : ℕ)
  /-- `main_loop` in `recover_protocol_error`. -/
  | drain (attempts drainAttempts : ℕ)
  /-- `recover_error` after it. -/
  | drainRecover (attempts drainAttempts : ℕ)
  /-- `send_ready` in `send_protocol_inner`. -/
  | sendReady (recoveredProtocolError : Bool)
  /-- `pq_flush` in `send_protocol_inner`. -/
  | pqFlush (recoveredProtocolError : Bool)
  /-- `recover_error`, `send_ready` and `pq_flush` in `recover_non_trapping_protocol_error`. -/
  | errorRecover (output : Bytes)
  | errorSendReady (output : Bytes)
  | errorPqFlush (output : Bytes)
  /-- `main_loop`, `recover_error`, `send_ready` and `pq_flush` in `serve_protocol_stream_inner`. -/
  | serve
  | serveRecover
  | serveSendReady
  | servePqFlush
deriving DecidableEq, Repr

/-- In `serve_protocol_stream_inner`. -/
def Phase.serving : Phase → Bool
  | .serve | .serveRecover | .serveSendReady | .servePqFlush => true
  | _ => false

/-- `(payload.len() / 5).saturating_add(2).max(1)`. -/
def maxAttempts (payloadLen : ℕ) : ℕ := max (payloadLen / 5 + 2) 1

/-- A call of `send_protocol_pump`. -/
structure Pump where
  payload : Bytes
  continuation : Bytes
  phase : Phase
deriving DecidableEq, Repr

/-- Who is running: the rest of the proxy's program, or the backend on behalf of it. -/
inductive Control where
  | proxy (prog : ProxyM Connection)
  | pumping (pump : Pump)
      (resume : Except BackendError ProtocolPumpOutcome → ProxyM Connection)

/-- A connection with its backend. The turn is the state of `handle_stream` its program started
in; `handled` and `obtained` record the messages the proxy took up and the bytes the backend
got from `pgl_recv` on behalf of the client. -/
structure System where
  turn : Connection
  control : Control
  socket : Bytes
  supportsProtocolPump : Bool
  bridge : Bridge
  stdio : ProtocolStdioInner
  handled : List Bytes
  obtained : Bytes

namespace System

/-- A client that is going to send these bytes. -/
def start (client : Bytes) : System :=
  { turn := .reading .initial
    control := .proxy (.ret (.reading .initial))
    socket := client
    supportsProtocolPump := false
    bridge := .initial
    stdio := .default
    handled := []
    obtained := [] }

/-! ## `send_protocol_pump` -/

section Pump

variable (s : System) (pump : Pump)
  (resume : Except BackendError ProtocolPumpOutcome → ProxyM Connection)

/-- The pump calls an export. -/
def enter (phase : Phase) : System :=
  { s with control := .pumping { pump with phase := phase } resume }

/-- The pump returns to the proxy. -/
def leave (result : Except BackendError ProtocolPumpOutcome) : System :=
  { s with control := .proxy (resume result) }

/-- An error with the text the host gives it. -/
def bail (message : String) : BackendError := { display := message, startupOutput := none }

/-- `restore_protocol_transport`. -/
def restoreProtocolTransport (previousMode : ProtocolTransportMode) :
    System × Except BackendError Unit :=
  let (bridge, current) := s.bridge.setProtocolTransport previousMode
  let s := { s with bridge := bridge }
  if current ≠ previousMode then
    (s, .ok ())
  else
    (s, .error (bail "pgl_set_protocol_transport restore observed unchanged current mode"))

/-- `send_protocol_pump` after `serve_protocol_stream_inner`. -/
def streamDone (streamResult : Except BackendError Unit) : System :=
  let (s, restoreResult) := s.restoreProtocolTransport .buffered
  let s := { s with stdio := s.stdio.clearPrefix }
  match streamResult, restoreResult with
  | .error err, _ => s.leave resume (.error err)
  | .ok (), .error err => s.leave resume (.error err)
  | .ok (), .ok () => s.leave resume (.ok .streamed)

/-- `send_protocol_pump` after `send_protocol_inner`. -/
def innerDone (result : Except BackendError Bytes) : System :=
  if s.bridge.protocolStreamActive then
    let s := { s with stdio := s.stdio.setPrefix pump.continuation }
    match result with
    | .ok _ => s.enter pump resume .serve
    | .error err => s.streamDone resume (.error err)
  else
    let (s, restoreResult) := s.restoreProtocolTransport .buffered
    match restoreResult, result with
    | .error err, _ => s.leave resume (.error err)
    | .ok (), .error err => s.leave resume (.error err)
    | .ok (), .ok output => s.leave resume (.ok (.buffered output))

/-- `protocol_input_remaining`. -/
def protocolInputRemaining : SystemM (Except BackendError Int) :=
  if s.bridge.inputAvailable > 0 then
    return .ok s.bridge.inputAvailable
  else
    Prog.perform SystemOp.pqBufferRemainingData

/-- The head of the loop in `send_protocol_inner`. -/
def dispatchHead (attempts : ℕ) (recoveredProtocolError : Bool) : SystemM System := do
  match ← s.protocolInputRemaining with
  | .error err => return s.innerDone pump resume (.error err)
  | .ok remaining =>
    if remaining > 0 then
      let attempts := attempts + 1
      if attempts ≤ maxAttempts pump.payload.length then
        return s.enter pump resume (.dispatch attempts recoveredProtocolError)
      else
        return s.innerDone pump resume (.error (bail
          s!"Postgres protocol dispatch did not drain buffered input after {attempts} attempts"))
    else
      return s.enter pump resume (.sendReady recoveredProtocolError)

/-- The head of the loop in `recover_protocol_error`. -/
def drainHead (attempts drainAttempts : ℕ) : SystemM System := do
  match ← s.protocolInputRemaining with
  | .error err => return s.innerDone pump resume (.error err)
  | .ok remaining =>
    if remaining > 0 then
      let drainAttempts := drainAttempts + 1
      if drainAttempts ≤ maxAttempts pump.payload.length then
        return s.enter pump resume (.drain attempts drainAttempts)
      else
        return s.innerDone pump resume (.error (bail
          s!"Postgres protocol recovery did not drain buffered input after {drainAttempts} attempts"))
    else
      s.dispatchHead pump resume attempts true

/-- `take_output`. -/
def takeOutput : SystemM (Except BackendError Bytes × System) :=
  if s.bridge.outputBuf = [] then
    return (.ok [], s)
  else do
    match ← Prog.perform SystemOp.allocate with
    | .error err => return (.error err, s)
    | .ok () =>
      match ← Prog.perform SystemOp.free with
      | .error err => return (.error err, s)
      | .ok () => return (.ok s.bridge.outputBuf, { s with bridge := s.bridge.outputReset })

/-- `protocol_response_contains_error`: the loop of `response_contains_tag`. -/
def protocolResponseContainsError (response : Bytes) : Bool := responseContainsTag response 69

/-- The end of `send_protocol_inner`. -/
def finishInner (recoveredProtocolError : Bool) : SystemM System := do
  match ← s.takeOutput with
  | (.error err, s) => return s.innerDone pump resume (.error err)
  | (.ok output, s) =>
    if !recoveredProtocolError && protocolResponseContainsError output then
      return s.enter pump resume (.errorRecover output)
    else
      return s.innerDone pump resume (.ok output)

/-- The end of `recover_non_trapping_protocol_error`: what the backend wrote is dropped. -/
def finishErrorRecovery (output : Bytes) : SystemM System := do
  match ← s.takeOutput with
  | (.error err, s) => return s.innerDone pump resume (.error err)
  | (.ok _, s) => return s.innerDone pump resume (.ok output)

/-- The export the pump called is back. -/
def exportDone : Phase → GuestReturn → SystemM System
  | .dispatch attempts recoveredProtocolError, .returned =>
    s.dispatchHead pump resume attempts recoveredProtocolError
  | .dispatch attempts _, _ => return s.enter pump resume (.recover attempts)
  | .recover attempts, .returned => s.drainHead pump resume attempts 0
  | .recover _, _ =>
    return s.innerDone pump resume
      (.error (bail "PostgresMainLongJmp after protocol trap"))
  | .drain attempts drainAttempts, .returned => s.drainHead pump resume attempts drainAttempts
  | .drain attempts drainAttempts, _ =>
    return s.enter pump resume (.drainRecover attempts drainAttempts)
  | .drainRecover attempts drainAttempts, .returned =>
    s.drainHead pump resume attempts drainAttempts
  | .drainRecover _ _, _ =>
    return s.innerDone pump resume
      (.error (bail "PostgresMainLongJmp while draining after protocol trap"))
  | .sendReady recoveredProtocolError, .returned =>
    return s.enter pump resume (.pqFlush recoveredProtocolError)
  | .sendReady _, _ =>
    return s.innerDone pump resume (.error (bail "PostgresSendReadyForQueryIfNecessary"))
  | .pqFlush recoveredProtocolError, .returned => s.finishInner pump resume recoveredProtocolError
  | .pqFlush _, _ =>
    return s.innerDone pump resume (.error (bail "pgl_pq_flush after protocol buffer"))
  | .errorRecover output, .returned => return s.enter pump resume (.errorSendReady output)
  | .errorRecover _, _ =>
    return s.innerDone pump resume
      (.error (bail "PostgresMainLongJmp after backend ErrorResponse"))
  | .errorSendReady output, .returned => return s.enter pump resume (.errorPqFlush output)
  | .errorSendReady _, _ =>
    return s.innerDone pump resume
      (.error (bail "PostgresSendReadyForQueryIfNecessary after backend ErrorResponse"))
  | .errorPqFlush output, .returned => s.finishErrorRecovery pump resume output
  | .errorPqFlush _, _ =>
    return s.innerDone pump resume
      (.error (bail "pgl_pq_flush after backend ErrorResponse recovery"))
  | .serve, .returned => return s.enter pump resume .serveSendReady
  | .serve, .exited code =>
    -- `PGLITE_EXIT_ALIVE` and `POSTGRES_MAIN_LONGJMP`
    if code = 99 then return s.streamDone resume (.ok ())
    else if code = 100 then return s.enter pump resume .serveRecover
    else
      return s.streamDone resume
        (.error (bail "PostgresMainLoopOnce streaming protocol"))
  | .serve, .uncaughtException => return s.enter pump resume .serveRecover
  | .serve, .trapped =>
    return s.streamDone resume
      (.error (bail "PostgresMainLoopOnce streaming protocol"))
  | .serveRecover, .returned => return s.enter pump resume .serveSendReady
  | .serveRecover, _ =>
    return s.streamDone resume (.error (bail
      "recover Postgres main-loop error while serving streaming protocol"))
  | .serveSendReady, .returned => return s.enter pump resume .servePqFlush
  | .serveSendReady, _ =>
    return s.streamDone resume
      (.error (bail "PostgresSendReadyForQueryIfNecessary streaming protocol"))
  | .servePqFlush, .returned => return s.enter pump resume .serve
  | .servePqFlush, _ =>
    return s.streamDone resume (.error (bail "pgl_pq_flush streaming protocol"))

/-- `push_input` of the payload, and on into the loop of `send_protocol_inner`. -/
def pushInput : SystemM System := do
  match ← Prog.perform SystemOp.allocate with
  | .error err => return s.innerDone pump resume (.error err)
  | .ok () =>
    let (bridge, written) :=
      s.bridge.inputWrite pump.payload (← Prog.perform SystemOp.realloc)
    let s := { s with bridge := bridge }
    match ← Prog.perform SystemOp.free with
    | .error err => return s.innerDone pump resume (.error err)
    | .ok () =>
      let expected := pump.payload.length
      if written ≠ expected then
        return s.innerDone pump resume
          (.error (bail s!"pgl_wasix_input_write wrote {written}, expected {expected}"))
      else
        s.dispatchHead pump resume 0 false

/-- `send_with_protocol_pump` and `send_protocol_pump`, up to the first call of `main_loop`. -/
def sendProtocolPump (message continuation : Bytes) : SystemM System :=
  if !s.supportsProtocolPump then
    return s.leave resume
      (.error (bail "WASIX runtime is missing backend-owned protocol pump exports"))
  else do
    match ← Prog.perform SystemOp.startProtocol with
    | .error err => return s.leave resume (.error err)
    | .ok () =>
      if message = [] then
        return s.leave resume (.ok (.buffered []))
      else if !s.stdio.attached then
        return s.leave resume (.error (bail "WASIX protocol pump requires an attached stream"))
      else
        let (bridge, previousMode) := s.bridge.setProtocolTransport .hybrid
        if previousMode ≠ .buffered then
          return { s with bridge := bridge }.leave resume (.error (bail
            "WASIX protocol transport was not buffered before protocol pump"))
        else do
          let pump : Pump := { payload := message, continuation, phase := .dispatch 0 false }
          let s := { s with bridge := bridge.inputReset.outputReset }
          s.pushInput pump resume

/-! ## The backend's calls -/

/-- `poll_read` of standard input, for at most `n` bytes. -/
def readStdin (n : ℕ) : SystemM System :=
  if n = 0 then
    return s
  else if s.stdio.prefixOffset < s.stdio.prefixBytes.length then
    let (stdio, bytes) := s.stdio.readInFront n
    return { s with stdio := stdio, obtained := s.obtained ++ bytes }
  else if !s.stdio.attached then
    return s
  else do
    match ← Prog.perform (SystemOp.socketRead (some n)) with
    | .error _ => return s
    | .ok there =>
      let read := min n there
      return { s with socket := s.socket.drop read, obtained := s.obtained ++ s.socket.take read }

/-- `pgl_recv`. -/
def pglRecv (n : ℕ) : SystemM System :=
  if s.bridge.onStdio then
    s.readStdin n
  else
    let (bridge, bytes) := s.bridge.bufferRead n
    return { s with bridge := bridge, obtained := s.obtained ++ bytes }

/-- `pgl_send`. -/
def pglSend (bytes : Bytes) : SystemM System :=
  if s.bridge.onStdio then do
    let _ ← Prog.perform (SystemOp.writeStdout bytes)
    return s
  else if bytes = [] then
    return s
  else do
    if ← Prog.perform SystemOp.realloc then
      let bridge := s.bridge.bufferAppend bytes
      if bridge.opensStream then do
        if ← Prog.perform (SystemOp.writeStdout bridge.outputBuf) then
          return { s with bridge := bridge.streamOpened }
        else
          return { s with bridge := bridge }
      else
        return { s with bridge := bridge }
    else
      return s

/-- The next action of the backend. -/
def guestStep : SystemM System := do
  match ← Prog.perform SystemOp.guest with
  | .recv n => s.pglRecv n
  | .send bytes => s.pglSend bytes
  | .reportCopyResponse state =>
    return { s with bridge := s.bridge.protocolReportCopyResponse state }
  | .finish result => s.exportDone pump resume pump.phase result

end Pump

/-! ## The proxy's operations -/

/-- What an operation of the proxy does to the backend's end of the connection. -/
def after (s : System) : (op : Op) → Answer op → System
  | .openBackend _, .ok _ =>
    { s with supportsProtocolPump := false, bridge := .initial, stdio := .default }
  | .supportsProtocolPump _, supports => { s with supportsProtocolPump := supports }
  | .attachProtocolStream _, .ok () => { s with stdio := s.stdio.attach }
  | _, _ => s

/-- Calls of the backend that use the bridge in buffered mode. -/
def usesBridge : Op → Bool
  | .startup _ _ | .enableExtensions _ | .send _ _ _ => true
  | _ => false

/-- An operation of the proxy. -/
def proxyStep (s : System) :
    (op : Op) → (Answer op → ProxyM Connection) → SystemM System
  | .read, next => do
    match ← Prog.perform (SystemOp.socketRead none) with
    | .error kind => return { s with control := .proxy (next (.error kind)) }
    | .ok there =>
      return { s with socket := s.socket.drop there
                      control := .proxy (next (.ok (s.socket.take there))) }
  | .sendWithProtocolPump _ _ message continuation, next =>
    s.sendProtocolPump next message continuation
  | op, next => do
    let ans ← Prog.perform (SystemOp.proxy op)
    let s := s.after op ans
    if usesBridge op then
      let bridge ← Prog.perform SystemOp.leftBridge
      -- none of these calls switches the transport
      return { s with bridge := { bridge with protocolTransport := s.bridge.protocolTransport }
                      control := .proxy (next ans) }
    else
      return { s with control := .proxy (next ans) }

end System

/-- The message a turn of `handle_stream` takes up. -/
def Connection.takenUp : Connection → List Bytes
  | .handling _ (message :: _) _ => [message]
  | _ => []

/-- The next program of the system. -/
def systemNext (proxy : PgliteProxy) (s : System) : Option (SystemM System) :=
  match s.control with
  | .proxy (.ret c) => (handleStreamNext proxy c).map fun prog =>
      return { s with turn := c, control := .proxy prog, handled := s.handled ++ c.takenUp }
  | .proxy (.fail _) => none
  | .proxy (.call op next) => some (s.proxyStep op next)
  | .pumping pump resume => some (s.guestStep pump resume)

/-- A connection, its proxy and its backend. -/
def system (proxy : PgliteProxy) : Machine SystemOp SystemAnswer Empty System where
  next := systemNext proxy
  failed := nofun

end PgliteOxide.Pglite
