import PgliteOxide.Lib.Prog
import PgliteOxide.Pglite.Wire

/-!
# The proxy

`proxy.rs`: `handle_stream` serves one client connection, the accept loops serve one connection
after another. Everything outside (the socket, the embedded backend, the shutdown flag) is an
operation the environment answers. `handle_stream` is a machine with one program per turn: read
the socket, handle one framed message, or flush and decide whether to go on. A `?` that fails
ends the connection with `returned (.error _)`. Statistics and timing are left out.
-/

namespace PgliteOxide.Pglite

open Lib

/-! ## The environment -/

/-- `io::ErrorKind`, as far as the proxy tells kinds apart. -/
inductive IoErrorKind where
  | brokenPipe
  | connectionAborted
  | connectionReset
  | unexpectedEof
  | other
deriving DecidableEq, Repr

/-- `is_connection_closed_error`. -/
def isConnectionClosedError : IoErrorKind → Bool
  | .brokenPipe | .connectionAborted | .connectionReset | .unexpectedEof => true
  | .other => false

/-- An error of the embedded backend: its text and, for a `StartupErrorResponse`, the bytes
Postgres answered with. -/
structure BackendError where
  display : String
  startupOutput : Option Bytes
deriving DecidableEq, Repr

/-- What `handle_stream` returns as `Err`. -/
inductive ProxyError where
  | text (message : String)
  | io (context : String) (kind : IoErrorKind)
  | backend (err : BackendError)
deriving DecidableEq, Repr

structure StartupProtocolResponse where
  output : Bytes
  accepted : Bool
deriving DecidableEq, Repr

inductive ProtocolPumpOutcome where
  | buffered (response : Bytes)
  | streamed
deriving DecidableEq, Repr

/-- An opened `WireBackend`. -/
abbrev Handle := ℕ

/-- Where the proxy writes to the client. -/
inductive WriteSite where
  | sslRefusal
  | backendOpenFailure
  | roleRejection
  | startupResponse
  | backendResponse
deriving DecidableEq, Repr

/-- The context a failed write is reported with. -/
def WriteSite.context : WriteSite → String
  | .sslRefusal => "write SSL refusal"
  | .backendOpenFailure => "write startup backend-open failure"
  | .roleRejection => "write startup role rejection"
  | .startupResponse => "write startup response"
  | .backendResponse => "write backend response"

/-- Who calls `WireBackend::send`. -/
inductive SendSite where
  | setRole
  | resetSessionState
deriving DecidableEq, Repr

/-- Who calls `flush_protocol_batch`. -/
inductive FlushSite where
  | protocolMessage
  | controlPacket
deriving DecidableEq, Repr

/-- The operations the proxy calls. -/
inductive Op where
  | sendReady
  | loadShutdown
  | accept
  | setNonblocking
  | read
  | writeAll (site : WriteSite) (bytes : Bytes)
  | flush (closeAfterFlush : Bool)
  | tryCloneForProtocol
  | openBackend (config : StartupConfig)
  | startup (backend : Handle) (message : Bytes)
  | enableExtensions (backend : Handle)
  | send (site : SendSite) (backend : Handle) (message : Bytes)
  | supportsProtocolPump (backend : Handle)
  | attachProtocolStream (backend : Handle)
  | sendWithProtocolPump (site : FlushSite) (backend : Handle) (message continuation : Bytes)
  | close (backend : Handle)
deriving DecidableEq, Repr

/-- What the environment answers. A read of no bytes is the end of the client's stream. -/
@[reducible] def Answer : Op → Type
  | .sendReady => Unit
  | .loadShutdown => Bool
  | .accept => Except IoErrorKind Unit
  | .setNonblocking => Except IoErrorKind Unit
  | .read => Except IoErrorKind Bytes
  | .writeAll _ _ => Except IoErrorKind Unit
  | .flush _ => Except IoErrorKind Unit
  | .tryCloneForProtocol => Except IoErrorKind Unit
  | .openBackend _ => Except BackendError Handle
  | .startup _ _ => Except BackendError StartupProtocolResponse
  | .enableExtensions _ => Except BackendError Unit
  | .send _ _ _ => Except BackendError Bytes
  | .supportsProtocolPump _ => Bool
  | .attachProtocolStream _ => Except BackendError Unit
  | .sendWithProtocolPump _ _ _ _ => Except BackendError ProtocolPumpOutcome
  | .close _ => Unit

/-- A part of the proxy. -/
abbrev ProxyM := Prog Op Answer ProxyError

/-- What the proxy did and was answered. -/
abbrev Trace := List (Event Op Answer)

/-! The operations, with the types of their answers. -/

namespace Call

abbrev sendReady : ProxyM Unit := Prog.perform Op.sendReady
abbrev loadShutdown : ProxyM Bool := Prog.perform Op.loadShutdown
abbrev accept : ProxyM (Except IoErrorKind Unit) := Prog.perform Op.accept
abbrev setNonblocking : ProxyM (Except IoErrorKind Unit) := Prog.perform Op.setNonblocking
abbrev read : ProxyM (Except IoErrorKind Bytes) := Prog.perform Op.read
abbrev writeAll (site : WriteSite) (bytes : Bytes) : ProxyM (Except IoErrorKind Unit) :=
  Prog.perform (Op.writeAll site bytes)
abbrev flush (closeAfterFlush : Bool) : ProxyM (Except IoErrorKind Unit) :=
  Prog.perform (Op.flush closeAfterFlush)
abbrev tryCloneForProtocol : ProxyM (Except IoErrorKind Unit) :=
  Prog.perform Op.tryCloneForProtocol
abbrev openBackend (config : StartupConfig) : ProxyM (Except BackendError Handle) :=
  Prog.perform (Op.openBackend config)
abbrev startup (backend : Handle) (message : Bytes) :
    ProxyM (Except BackendError StartupProtocolResponse) :=
  Prog.perform (Op.startup backend message)
abbrev enableExtensions (backend : Handle) : ProxyM (Except BackendError Unit) :=
  Prog.perform (Op.enableExtensions backend)
abbrev send (site : SendSite) (backend : Handle) (message : Bytes) :
    ProxyM (Except BackendError Bytes) :=
  Prog.perform (Op.send site backend message)
abbrev supportsProtocolPump (backend : Handle) : ProxyM Bool :=
  Prog.perform (Op.supportsProtocolPump backend)
abbrev attachProtocolStream (backend : Handle) : ProxyM (Except BackendError Unit) :=
  Prog.perform (Op.attachProtocolStream backend)
abbrev sendWithProtocolPump (site : FlushSite) (backend : Handle) (message continuation : Bytes) :
    ProxyM (Except BackendError ProtocolPumpOutcome) :=
  Prog.perform (Op.sendWithProtocolPump site backend message continuation)
abbrev close (backend : Handle) : ProxyM Unit := Prog.perform (Op.close backend)

end Call

/-- `PgliteProxy`, as far as serving a connection reads it. -/
structure PgliteProxy where
  startupConfig : StartupConfig
deriving DecidableEq, Repr

/-! ## Writing to the client -/

/-- `write_frontend`: `false` when the client is gone. -/
def writeFrontend (site : WriteSite) (bytes : Bytes) : ProxyM Bool := do
  match ← Call.writeAll site bytes with
  | .ok () => return true
  | .error kind =>
    if isConnectionClosedError kind then return false
    else Prog.fail (.io site.context kind)

/-- `write_backend_response`: every failed write is an error. -/
def writeBackendResponse (response : Bytes) : ProxyM Unit :=
  if response = [] then
    return ()
  else do
    match ← Call.writeAll .backendResponse response with
    | .ok () => return ()
    | .error kind => Prog.fail (.io WriteSite.backendResponse.context kind)

/-! ## The protocol batch -/

/-- `should_flush_protocol_batch`. -/
def shouldFlushProtocolBatch (message : Bytes) (isLastMessageInRead : Bool) : Bool :=
  match message.head? with
  | some 81 | some 72 => true
  | some 100 | some 99 | some 102 => true
  | some 83 => isLastMessageInRead
  | _ => false

inductive FlushOutcome where
  | continue
  | streamed
deriving DecidableEq, Repr

/-- `flush_protocol_batch`. -/
def flushProtocolBatch (site : FlushSite) (protocolBatch : Bytes) (backend : Handle)
    (continuation : Bytes) : ProxyM FlushOutcome :=
  if protocolBatch = [] then
    return .continue
  else do
    match ← Call.sendWithProtocolPump site backend protocolBatch continuation with
    | .error err => Prog.fail (.backend err)
    | .ok (.buffered response) => do
      writeBackendResponse response
      return .continue
    | .ok .streamed => return .streamed

/-- The variables of `handle_stream` that live across reads. -/
structure StreamState where
  backend : Option Handle
  reader : FrontendFrameReader
  protocolBatch : Bytes
deriving DecidableEq, Repr

/-- `flush_protocol_batch_if_started`. -/
def flushProtocolBatchIfStarted (st : StreamState) : ProxyM StreamState :=
  if st.protocolBatch = [] then
    return st
  else
    match st.backend with
    | none => Prog.fail (.text "frontend protocol message arrived before startup")
    | some backend => do
      match ← flushProtocolBatch .controlPacket st.protocolBatch backend [] with
      | .continue => return { st with protocolBatch := [] }
      | .streamed =>
        Prog.fail (.text "protocol stream was consumed while flushing control packet")

/-- `ContinuationPrefix::from_reader(..).into_vec()`: the messages of the read that are not
handled yet, then the incomplete one. -/
def continuationPrefix (rest : List Bytes) (reader : FrontendFrameReader) : Bytes :=
  rest.flatten ++ reader.pending

/-! ## Backend sessions -/

/-- `WireBackend::set_role`. -/
def setRole (backend : Handle) (user : String) : ProxyM Bytes := do
  let sql := "SET ROLE " ++ quoteIdentifier user
  match ← Call.send .setRole backend (simpleQueryMessage sql) with
  | .ok response => return response
  | .error err => Prog.fail (.backend err)

/-- The loop of `reset_session_state`; it reports its failure as a value. -/
def resetSessionState (backend : Handle) : List String → ProxyM (Except ProxyError Unit)
  | [] => return .ok ()
  | sql :: rest => do
    match ← Call.send .resetSessionState backend (simpleQueryMessage sql) with
    | .error err => return .error (.backend err)
    | .ok response =>
      if response.head? = some 69 then
        return .error
          (.text s!"reset proxy backend session state failed while running {sql}")
      else
        resetSessionState backend rest

/-- `rollback_connection_state`. -/
def rollbackConnectionState (backend : Handle) : ProxyM Unit := do
  let _ ← resetSessionState backend ["ROLLBACK", "DISCARD ALL"]
  return ()

/-- `WireBackend::close`. -/
def closeBackend (backend : Handle) : ProxyM Unit := Call.close backend

/-- `backend_open_error_response`. -/
def backendOpenErrorResponse (err : BackendError) : Bytes :=
  errorResponse "FATAL" "XX000"
    s!"could not start embedded Postgres backend: {err.display}"

/-- The cleanup at the end of `handle_stream`. -/
def connectionCleanup : Option Handle → ProxyM Unit
  | none => return ()
  | some backend => do
    rollbackConnectionState backend
    closeBackend backend

/-! ## `handle_stream` -/

/-- Where `handle_stream` is: about to read, in the message loop with the messages of the last
read that are still to be handled, or done. -/
inductive Connection where
  | reading (st : StreamState)
  | handling (st : StreamState) (messages : List Bytes) (closeAfterFlush : Bool)
  | returned (result : Except ProxyError Unit)
deriving DecidableEq

/-- The variables at the start of `handle_stream`. -/
def StreamState.initial : StreamState :=
  { backend := none, reader := .default, protocolBatch := [] }

/-- After an accepted startup: extensions, then the client's role. `true` when the role was
rejected, the rejection written and the backend closed. -/
def startupRoleRejected (opened : Handle) (message : Bytes) : ProxyM Bool := do
  match ← Call.enableExtensions opened with
  | .error err => Prog.fail (.backend err)
  | .ok () =>
    match startupParameter message "user" with
    | .error e => Prog.fail (.text e)
    | .ok none => return false
    | .ok (some user) =>
      if user = "postgres" then
        return false
      else do
        let roleResponse ← setRole opened user
        if responseContainsError roleResponse then do
          let _ ← writeFrontend .roleRejection roleResponse
          closeBackend opened
          return true
        else
          return false

/-- The end of the startup arm, with the startup response written to the client. -/
def finishStartup (st : StreamState) (opened : Handle) (responseAccepted : Bool)
    (rest : List Bytes) (closeAfterFlush : Bool) : ProxyM Connection :=
  if responseAccepted then do
    let supports ← Call.supportsProtocolPump opened
    if supports then
      match ← Call.tryCloneForProtocol with
      | .error kind => Prog.fail (.io "clone frontend socket for protocol pump" kind)
      | .ok () =>
        match ← Call.attachProtocolStream opened with
        | .error err => Prog.fail (.backend err)
        | .ok () => return .handling { st with backend := some opened } rest closeAfterFlush
    else
      return .handling { st with backend := some opened } rest closeAfterFlush
  else do
    closeBackend opened
    return .handling st rest true

/-- The startup arm once a backend is open. -/
def startOpened (st : StreamState) (opened : Handle) (message : Bytes) (rest : List Bytes)
    (closeAfterFlush : Bool) : ProxyM Connection := do
  match ← Call.startup opened message with
  | .error err => Prog.fail (.backend err)
  | .ok response =>
    let responseAccepted := response.accepted && !responseContainsError response.output
    let roleRejected ← if responseAccepted then startupRoleRejected opened message
      else pure false
    if roleRejected then
      -- `break`: the other messages of this read are dropped
      return .handling st [] true
    else do
      let written ← writeFrontend .startupResponse response.output
      if written then
        finishStartup st opened responseAccepted rest closeAfterFlush
      else do
        closeBackend opened
        return .handling st [] true

/-- The arm for a startup packet. -/
def handleStartup (proxy : PgliteProxy) (st : StreamState) (message : Bytes) (rest : List Bytes)
    (closeAfterFlush : Bool) : ProxyM Connection :=
  if st.backend.isSome then
    Prog.fail (.text "received a second startup packet on one proxy connection")
  else do
    let st ← flushProtocolBatchIfStarted st
    match startupConfigForMessage proxy.startupConfig message with
    | .error e => Prog.fail (.text e)
    | .ok config =>
      match ← Call.openBackend config with
      | .error err => do
        let response := err.startupOutput.getD (backendOpenErrorResponse err)
        let _ ← writeFrontend .backendOpenFailure response
        return .handling st [] true
      | .ok opened => startOpened st opened message rest closeAfterFlush

/-- The arm for a protocol message. -/
def handleProtocol (st : StreamState) (message : Bytes) (rest : List Bytes)
    (closeAfterFlush : Bool) : ProxyM Connection :=
  let flushAfter := shouldFlushProtocolBatch message rest.isEmpty
  let st := { st with protocolBatch := st.protocolBatch ++ message }
  if flushAfter then
    match st.backend with
    | none => Prog.fail (.text "frontend protocol message arrived before startup")
    | some backend => do
      match ← flushProtocolBatch .protocolMessage st.protocolBatch backend
          (continuationPrefix rest st.reader) with
      | .continue => return .handling { st with protocolBatch := [] } rest closeAfterFlush
      | .streamed => do
        closeBackend backend
        return .returned (.ok ())
  else
    return .handling st rest closeAfterFlush

/-- The body of the message loop. -/
def handleMessage (proxy : PgliteProxy) (st : StreamState) (message : Bytes) (rest : List Bytes)
    (closeAfterFlush : Bool) : ProxyM Connection :=
  match classifyFrontendMessage message with
  | .error e => Prog.fail (.text e)
  | .ok .sslOrGssRequest => do
    let st ← flushProtocolBatchIfStarted st
    let written ← writeFrontend .sslRefusal [78]
    return .handling st rest (closeAfterFlush || !written)
  | .ok .cancelRequest => do
    let st ← flushProtocolBatchIfStarted st
    return .handling st rest true
  | .ok .terminate => do
    let st ← flushProtocolBatchIfStarted st
    return .handling st rest true
  | .ok .startup => handleStartup proxy st message rest closeAfterFlush
  | .ok .protocol => handleProtocol st message rest closeAfterFlush

/-- The head of the loop: read, and cut the bytes into messages. -/
def readFrontend (st : StreamState) : ProxyM Connection := do
  match ← Call.read with
  | .error kind => Prog.fail (.io "read frontend socket" kind)
  | .ok bytes =>
    if bytes = [] then do
      let st ← flushProtocolBatchIfStarted st
      connectionCleanup st.backend
      return .returned (.ok ())
    else
      match st.reader.push bytes with
      | (_, .error e) => Prog.fail (.text e)
      | (reader, .ok messages) => return .handling { st with reader := reader } messages false

/-- The end of a turn: flush the socket, then go on reading or clean up. -/
def endTurn (st : StreamState) (closeAfterFlush : Bool) : ProxyM Connection := do
  match ← Call.flush closeAfterFlush with
  | .error kind =>
    if closeAfterFlush && isConnectionClosedError kind then do
      connectionCleanup st.backend
      return .returned (.ok ())
    else
      Prog.fail (.io "flush frontend socket" kind)
  | .ok () =>
    if closeAfterFlush then do
      connectionCleanup st.backend
      return .returned (.ok ())
    else
      return .reading st

/-- The next program of `handle_stream`. -/
def handleStreamNext (proxy : PgliteProxy) : Connection → Option (ProxyM Connection)
  | .reading st => some (readFrontend st)
  | .handling st (message :: rest) closeAfterFlush =>
    some (handleMessage proxy st message rest closeAfterFlush)
  | .handling st [] closeAfterFlush => some (endTurn st closeAfterFlush)
  | .returned _ => none

/-- `handle_stream`. -/
def handleStream (proxy : PgliteProxy) : Machine Op Answer ProxyError Connection where
  next := handleStreamNext proxy
  failed e := .returned (.error e)

/-! ## The accept loops -/

inductive Transport where
  | tcp
  | unix
deriving DecidableEq, Repr

def Transport.acceptContext : Transport → String
  | .tcp => "accept TCP proxy connection"
  | .unix => "accept Unix proxy connection"

def Transport.blockingContext : Transport → String
  | .tcp => "configure TCP proxy stream as blocking"
  | .unix => "configure Unix proxy stream as blocking"

/-- Where an accept loop is: before the readiness signal, at the loop head, in `handle_stream`,
or done. -/
inductive Server where
  | starting (ready : Bool)
  | listening
  | serving (connection : Connection)
  | stopped (result : Except ProxyError Unit)
deriving DecidableEq

/-- The loop head: the shutdown flag is read before and after `accept`. -/
def acceptConnection (transport : Transport) : ProxyM Server := do
  if ← Call.loadShutdown then
    return .stopped (.ok ())
  else
    match ← Call.accept with
    | .error kind => Prog.fail (.io transport.acceptContext kind)
    | .ok () =>
      if ← Call.loadShutdown then
        return .stopped (.ok ())
      else
        match ← Call.setNonblocking with
        | .error kind => Prog.fail (.io transport.blockingContext kind)
        | .ok () => return .serving (.reading .initial)

/-- The next program of an accept loop. -/
def serveNext (transport : Transport) (proxy : PgliteProxy) : Server → Option (ProxyM Server)
  | .starting ready => some (do
      if ready then
        Call.sendReady
      return .listening)
  | .listening => some (acceptConnection transport)
  | .serving (.returned (.ok ())) => some (return .listening)
  | .serving (.returned (.error e)) => some (Prog.fail e)
  | .serving connection => (handleStreamNext proxy connection).map fun p => do
      let connection ← p
      return .serving connection
  | .stopped _ => none

/-- The accept loop both listeners have. -/
def serveListenerUntilReady (transport : Transport) (proxy : PgliteProxy) :
    Machine Op Answer ProxyError Server where
  next := serveNext transport proxy
  failed e := .stopped (.error e)

/-- `serve_tcp_listener_until_ready`. -/
def serveTcpListenerUntilReady (proxy : PgliteProxy) : Machine Op Answer ProxyError Server :=
  serveListenerUntilReady .tcp proxy

/-- `serve_unix_listener_until_ready`. -/
def serveUnixListenerUntilReady (proxy : PgliteProxy) : Machine Op Answer ProxyError Server :=
  serveListenerUntilReady .unix proxy

end PgliteOxide.Pglite
