import PgliteOxide.Protocol.Parser

/-!
# `exec_protocol`

`Pglite::exec_protocol` sends frontend bytes through the backend, parses the answer with the
client's one long-lived `Parser`, calls back for notices while parsing and for notifications
afterwards. The backend is outside: a call carries the answers it gets from `send_buffered` and
`sync_to_fs`. Callbacks are identified by number and their invocations recorded as events.
-/

namespace PgliteOxide.Pglite

open Lib Protocol

inductive DataTransferContainer where
  | cma
  | file
deriving DecidableEq, Repr

/-- A registered callback. -/
abbrev CallbackId := ℕ

structure ExecProtocolOptions where
  syncToFs : Bool
  throwOnError : Bool
  onNotice : Option CallbackId
  dataTransferContainer : Option DataTransferContainer
deriving DecidableEq, Repr

/-- `ExecProtocolOptions::no_sync`. -/
def ExecProtocolOptions.noSync : ExecProtocolOptions :=
  { syncToFs := false, throwOnError := true, onNotice := none, dataTransferContainer := none }

/-- `ExecProtocolOptions::default`. -/
def ExecProtocolOptions.default : ExecProtocolOptions :=
  { syncToFs := true, throwOnError := true, onNotice := none, dataTransferContainer := none }

structure ExecProtocolResult where
  data : Bytes
  messages : List BackendMessage
deriving DecidableEq

/-- An invocation of a callback. -/
inductive Event where
  | notice (callback : CallbackId) (notice : NoticeMessage)
  | channelListener (listener : CallbackId) (payload : String)
  | globalListener (listener : CallbackId) (channel payload : String)
deriving DecidableEq

/-- The fields of `Pglite` that `exec_protocol` reads or writes. -/
structure Client where
  parser : Parser
  notifyListeners : List (String × List CallbackId)
  globalNotifyListeners : List CallbackId
deriving DecidableEq, Repr

/-- What the backend answers to one call. -/
structure BackendAnswers where
  sendBuffered : Bytes → Option DataTransferContainer → Except Error Bytes
  syncToFs : Except Error Unit

/-- One call of `exec_protocol`. -/
structure ExecCall where
  message : Bytes
  options : ExecProtocolOptions
  backend : BackendAnswers

/-- How a call ended, and the callbacks it invoked, in order. -/
structure ExecOutcome where
  result : Outcome Error ExecProtocolResult
  events : List Event
deriving DecidableEq

/-- `exec_protocol_raw_inner`. -/
def execProtocolRawInner (backend : BackendAnswers) (message : Bytes) (syncToFs : Bool)
    (dataTransferContainer : Option DataTransferContainer) : Except Error Bytes := do
  let data ← backend.sendBuffered message dataTransferContainer
  if syncToFs then
    backend.syncToFs
  return data

/-- The closure `exec_protocol` hands to `parse`; its state is the message list and the
callbacks invoked so far. -/
def parseCallback (options : ExecProtocolOptions) (s : List BackendMessage × List Event)
    (msg : BackendMessage) : (List BackendMessage × List Event) × Except Error Unit :=
  match msg, options.throwOnError with
  | .error dbErr, true => (s, .error (.database dbErr))
  | _, _ =>
    let events := match options.onNotice, msg with
      | some callback, .notice notice => s.2 ++ [.notice callback notice]
      | _, _ => s.2
    ((s.1 ++ [msg], events), .ok ())

/-- The listener loop over the parsed messages. -/
def deliverNotifications (client : Client) : List BackendMessage → List Event
  | [] => []
  | .notification note :: messages =>
    ((client.notifyListeners.lookup note.channel).getD []).map
        (fun listener => .channelListener listener note.payload)
      ++ client.globalNotifyListeners.map
        (fun listener => .globalListener listener note.channel note.payload)
      ++ deliverNotifications client messages
  | _ :: messages => deliverNotifications client messages

/-- `Pglite::exec_protocol`. The parser is replaced only when the parse failed with a
`DatabaseError`. -/
def execProtocol (build : Build) (client : Client) (call : ExecCall) : Client × ExecOutcome :=
  match execProtocolRawInner call.backend call.message call.options.syncToFs
      call.options.dataTransferContainer with
  | .error err => (client, { result := .err err, events := [] })
  | .ok data =>
    let r := client.parser.parse build (parseCallback call.options) data ([], [])
    let client' := { client with parser := r.parser }
    match r.outcome with
    | .panic => (client', { result := .panic, events := r.state.2 })
    | .err (.database dbErr) =>
      ({ client' with parser := Parser.new },
        { result := .err (.database dbErr), events := r.state.2 })
    | .err err => (client', { result := .err err, events := r.state.2 })
    | .ok () =>
      (client', { result := .ok { data, messages := r.state.1 }
                  events := r.state.2 ++ deliverNotifications client' r.state.1 })

/-- Successive calls on one client, with the outcome of each. -/
def execCalls (build : Build) : Client → List ExecCall → Client × List ExecOutcome
  | client, [] => (client, [])
  | client, call :: calls =>
    let (client', outcome) := execProtocol build client call
    let (client'', outcomes) := execCalls build client' calls
    (client'', outcome :: outcomes)

/-- The outcome a call has on its own: the same client with a new parser. -/
def freshOutcome (build : Build) (client : Client) (call : ExecCall) : ExecOutcome :=
  (execProtocol build { client with parser := Parser.new } call).2

end PgliteOxide.Pglite
