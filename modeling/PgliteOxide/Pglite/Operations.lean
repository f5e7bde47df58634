import PgliteOxide.Pglite.Session
import PgliteOxide.Pglite.Wire

/-!
# Operations of `Pglite`

Extended queries, listeners, transactions and physical dumps, over `exec_internal` and
`exec_protocol`. The callback of a transaction is a program that calls the methods of
`Transaction`; `Operation` lists the public methods, and a list of operations is a run.
-/

namespace PgliteOxide.Pglite

open Lib Protocol

namespace Session

variable {σ : Type} (build : Build) (b : Backend σ) (stack : ℕ)

/-- `exec`. -/
def exec (sql : String) (options : Option QueryOptions) : Method σ (List Results) := do
  checkReady
  execInternal build b stack sql options

/-! ## Extended queries -/

/-- Some message is a `ParseComplete`. -/
def parseCompleted (messages : List BackendMessage) : Bool :=
  messages.any fun
    | .parseComplete _ => true
    | _ => false

/-- `parse_and_describe`. -/
def parseAndDescribe (sql : String) (paramTypes : List Int32) (options : ExecProtocolOptions) :
    Method σ (List BackendMessage) := do
  let result ← execProtocol build b (.parseDescribe sql paramTypes) options
  if !parseCompleted result.messages then bail "extended query parse did not complete"
  else return result.messages

/-- `default_serialize_value`. -/
def defaultSerializeValue : Value → String
  | .string s => s
  | .number n => n.toText
  | .bool flag => if flag then "t" else "f"
  | value => value.toText

/-- `prepare_bind_values`, from the parameter `idx` on. -/
def prepareBindValues (serializers : SerializerMap) (options : QueryOptions) :
    ℕ → List Value → List Int32 → Outcome ClientError (List BindValue)
  | _, [], _ => .ok []
  | idx, value :: params, dataTypeIds => do
    let bindValue ←
      if value.isNull then pure BindValue.null
      else
        let oid := dataTypeIds.headD oidText
        match (options.serializers.get oid).or (serializers.get oid) with
        | some func =>
          let serialized ← (func value).mapErr fun err => ClientError.context
            s!"failed to serialize parameter {idx} using OID {oid.toInt}" (.protocol err)
          pure (.text serialized)
        | none => pure (.text (defaultSerializeValue value))
    let values ← prepareBindValues serializers options (idx + 1) params dataTypeIds.tail
    return bindValue :: values

/-- The closure of `query_internal`. After an array type was registered the statement is parsed
again. -/
def queryMessages (sql : String) (params : List Value) (options : QueryOptions) :
    Method σ (List BackendMessage) := do
  let described ← parseAndDescribe build b sql options.paramTypes (execOptions options)
  let registered ← ensureArrayTypesForBindValues (execInternal build b stack) options params
    (parseDescribeStatementResults described) false
  let described ← (parseAndDescribe build b sql options.paramTypes (execOptions options)).onlyIf
    registered described
  let db ← getDb
  let values ← Stateful.lift
    (prepareBindValues db.serializers options 0 params (parseDescribeStatementResults described))
  let result ← execProtocol build b (.bindExecute values) (execOptions options)
  return described ++ result.messages

/-- `query_internal`. -/
def queryInternal (sql : String) (params : List Value) (options : Option QueryOptions) :
    Method σ Results := do
  let queryOpts := options.getD .default
  handleBlobInput b queryOpts.blob
  let messages ← (queryMessages build b stack sql params queryOpts).mapErr
    (.enrich "failed to execute extended query: " sql params options)
  let parsed ← finishExec build b (execInternal build b stack) messages options
  match parsed with
  | [] => bail "query returned no result sets"
  | results :: _ => return results

/-- `query`. -/
def query (sql : String) (params : List Value) (options : Option QueryOptions) :
    Method σ Results := do
  checkReady
  queryInternal build b stack sql params options

/-- The catalog query of `refresh_array_types_internal`. -/
def arrayTypesSql : String :=
  "\n            SELECT e.oid, a.oid AS typarray, e.typdelim::text AS typdelim"
    ++ "\n            FROM pg_catalog.pg_type a"
    ++ "\n            JOIN pg_catalog.pg_type e ON e.oid = a.typelem"
    ++ "\n            WHERE a.typcategory = 'A'"
    ++ "\n              AND a.typelem <> 0"
    ++ "\n            ORDER BY e.oid\n        "

/-- The loop of `refresh_array_types_internal`. -/
def registerArrayTypes : List Value → Method σ Unit
  | [] => return ()
  | row :: rows => do
    match arrayTypeInfoFromRow row with
    | some info => registerArrayType info
    | none => pure ()
    registerArrayTypes rows

/-- `refresh_array_types_internal`. -/
def refreshArrayTypesInternal : Method σ Unit := do
  let results ← execInternal build b stack arrayTypesSql none
  match results with
  | [] => bail "array type discovery returned no results"
  | resultSet :: _ => registerArrayTypes resultSet.rows

/-- `refresh_array_types`. -/
def refreshArrayTypes : Method σ Unit := do
  checkReady
  refreshArrayTypesInternal build b stack

/-! ## Listeners -/

/-- `listen`. The backend is told only about the first listener of a channel. -/
def listen (channel : String) (callback : CallbackId) : Method σ ListenerHandle := do
  checkReady
  let db ← getDb
  let shouldListen := match db.notifyListeners.get channel with
    | some existing => existing.isEmpty
    | none => true
  let _ ← (execInternal build b stack s!"LISTEN {quoteIdentifier channel}" none).onlyIf
    shouldListen []
  let db ← getDb
  let id := db.nextListenerId
  setDb fun db =>
    { db with
      nextListenerId := id + 1
      notifyListeners := db.notifyListeners.set channel
        ((db.notifyListeners.get channel).getD [] ++ [{ id, callback }]) }
  return { channel, normalizedChannel := channel, id }

/-- `unlisten`. -/
def unlisten (handle : ListenerHandle) : Method σ Unit := do
  let db ← getDb
  match db.notifyListeners.get handle.normalizedChannel with
  | none => return ()
  | some listeners =>
    let kept := listeners.filter fun listener => listener.id ≠ handle.id
    if kept.isEmpty then
      setDb fun db =>
        { db with notifyListeners := db.notifyListeners.remove handle.normalizedChannel }
      let _ ← execInternal build b stack s!"UNLISTEN {quoteIdentifier handle.channel}" none
    else
      setDb fun db =>
        { db with notifyListeners := db.notifyListeners.set handle.normalizedChannel kept }

/-- `unlisten_channel`. -/
def unlistenChannel (channel : String) : Method σ Unit := do
  let db ← getDb
  match db.notifyListeners.get channel with
  | none => return ()
  | some _ =>
    setDb fun db => { db with notifyListeners := db.notifyListeners.remove channel }
    let _ ← execInternal build b stack s!"UNLISTEN {quoteIdentifier channel}" none

/-- `on_notification`. -/
def onNotification (callback : CallbackId) : Method σ GlobalListenerHandle := do
  let db ← getDb
  let id := db.nextGlobalListenerId
  setDb fun db =>
    { db with
      nextGlobalListenerId := id + 1
      globalNotifyListeners := db.globalNotifyListeners ++ [{ id, callback }] }
  return { id }

/-- `off_notification`. -/
def offNotification (handle : GlobalListenerHandle) : Method σ Unit :=
  setDb fun db =>
    { db with
      globalNotifyListeners := db.globalNotifyListeners.filter fun listener =>
        listener.id ≠ handle.id }

end Session

/-! ## Transactions -/

/-- The methods of `Transaction`. -/
inductive TxOp where
  | query (sql : String) (params : List Value) (options : Option QueryOptions)
  | exec (sql : String) (options : Option QueryOptions)
  | refreshArrayTypes
  | commit
  | rollback
  | isClosed

/-- What a method of `Transaction` returns. -/
def TxAnswer : TxOp → Type
  | .query .. => Except ClientError Results
  | .exec .. => Except ClientError (List Results)
  | .refreshArrayTypes => Except ClientError Unit
  | .commit => Except ClientError Unit
  | .rollback => Except ClientError Unit
  | .isClosed => Bool

/-- The callback of `transaction`: any use of the `Transaction`, and a result. -/
abbrev Callback (T : Type) := Prog TxOp TxAnswer ClientError T

namespace Session

variable {σ : Type} (build : Build) (b : Backend σ) (stack : ℕ)

/-- `ensure_open` before a method, whose result is handed to the callback. -/
def whileOpen {α : Type} (closed : Bool) (m : Method σ α) :
    Method σ (Bool × Except ClientError α) :=
  if closed then return (closed, .error (.msg "transaction is already closed"))
  else do
    let result ← m.attempt
    return (closed, result)

/-- `commit_internal` and `rollback_internal`: the transaction is closed by success only. -/
def endInternal (sql : String) (closed : Bool) : Method σ (Bool × Except ClientError Unit) := do
  let (closed, result) ← whileOpen closed (execInternal build b stack sql none)
  match result with
  | .ok _ => return (true, .ok ())
  | .error err => return (closed, .error err)

/-- One call of the callback, on the `closed` flag of its `Transaction`. -/
def runTxOp (closed : Bool) : (op : TxOp) → Method σ (Bool × TxAnswer op)
  | .query sql params options => whileOpen closed (queryInternal build b stack sql params options)
  | .exec sql options => whileOpen closed (execInternal build b stack sql options)
  | .refreshArrayTypes => whileOpen closed (refreshArrayTypesInternal build b stack)
  | .commit => endInternal build b stack "COMMIT" closed
  | .rollback => endInternal build b stack "ROLLBACK" closed
  | .isClosed => return (closed, closed)

/-- The callback, with the `closed` flag it leaves. -/
def runCallback {T : Type} : Bool → Callback T → Method σ (Bool × Except ClientError T)
  | closed, .ret value => return (closed, .ok value)
  | closed, .fail err => return (closed, .error err)
  | closed, .call op next => do
    let (closed, answer) ← runTxOp build b stack closed op
    runCallback closed (next answer)

/-- The `COMMIT` or `ROLLBACK` after the callback, unless the callback closed the transaction.
An error leaves `transaction` at once. -/
def finishTransaction (sql : String) (closed : Bool) : Method σ Unit :=
  if closed then return ()
  else do
    let _ ← execInternal build b stack sql none
    return ()

/-- `transaction`. -/
def transaction {T : Type} (callback : Callback T) : Method σ T := do
  checkReady
  let _ ← execInternal build b stack "BEGIN" none
  setDb fun db => { db with inTransaction := true }
  let (closed, result) ← runCallback build b stack false callback
  match result with
  | .ok value =>
    finishTransaction build b stack "COMMIT" closed
    setDb fun db => { db with inTransaction := false }
    return value
  | .error err =>
    finishTransaction build b stack "ROLLBACK" closed
    setDb fun db => { db with inTransaction := false }
    Stateful.fail err

/-! ## Physical dumps -/

/-- `checkpoint_backend_for_physical_snapshot`. -/
def checkpointBackendForPhysicalSnapshot (operation : String) : Method σ Unit := do
  let db ← getDb
  if db.inTransaction then
    bail s!"{operation} cannot run while a direct transaction is active"
  else
    let _ ← context s!"checkpoint before {operation}" (exec build b stack "CHECKPOINT" none)
    return ()

/-- `backend.shutdown`, with the state it finds recorded. -/
def quiesceBackend : Method σ Unit := do
  Stateful.modify fun s => { s with quiesced := s.quiesced ++ [s.db.backend] }
  callBackend b.shutdown

/-- The loop of `restore_session_state_after_backend_restart`. -/
def restoreListeners : List String → Method σ Unit
  | [] => return ()
  | channel :: channels => do
    let _ ← context s!"restore LISTEN {channel} after backend restart"
      (execInternal build b stack s!"LISTEN {quoteIdentifier channel}" none)
    restoreListeners channels

/-- `restore_session_state_after_backend_restart`. -/
def restoreSessionStateAfterBackendRestart : Method σ Unit := do
  let username := b.startupConfig.username
  let _ ← (context s!"restore startup role {username} after backend restart"
    (exec build b stack s!"SET ROLE {quoteIdentifier username}" none)).onlyIf
      (username ≠ "postgres") []
  let db ← getDb
  let listening := db.notifyListeners.filter fun entry => !entry.2.isEmpty
  restoreListeners build b stack (b.hashOrder (listening.map (·.1)))

/-- `archive_quiesced_pgdata`. -/
def archiveQuiescedPgdata (operation : String) (format : DataDirArchiveFormat) :
    Method σ Bytes := do
  checkpointBackendForPhysicalSnapshot build b stack operation
  context s!"quiesce backend before {operation}" (quiesceBackend b)
  let db ← getDb
  let archive := b.dumpPgdataArchive db.backend format
  let restart ← (context s!"restart backend after {operation}" do
    callBackend b.restart
    restoreSessionStateAfterBackendRestart build b stack).attempt
  let archiveErr (err : Error) : ClientError :=
    .context s!"materialize physical PGDATA archive for {operation}" (.protocol err)
  match archive, restart with
  | .ok archive, .ok () => return archive
  | .error err, .ok () => Stateful.fail (archiveErr err)
  | .ok _, .error err =>
    setDb fun db => { db with ready := false, closed := true }
    Stateful.fail err
  | .error err, .error restartErr =>
    setDb fun db => { db with ready := false, closed := true }
    Stateful.fail (.restartFailed operation restartErr (archiveErr err))

/-- `dump_data_dir_with_format`. -/
def dumpDataDirWithFormat (format : DataDirArchiveFormat) : Method σ Bytes := do
  checkReady
  archiveQuiescedPgdata build b stack "dump PGDATA archive" format

/-- The query of `bundled_extensions_in_database`. -/
def extensionNamesSql : String :=
  "SELECT extname FROM pg_catalog.pg_extension ORDER BY extname"

/-- `bundled_extensions_in_database`. -/
def bundledExtensionsInDatabase : Method σ (List String) := do
  let results ← query build b stack extensionNamesSql [] none
  return results.rows.filterMap fun
    | .object map =>
      match map.lookup "extname" with
      | some (.string name) => b.bySqlName name
      | _ => none
    | _ => none

/-- `try_clone`, with the backend of the new instance. -/
def tryClone : Method σ σ := do
  let extensions ← bundledExtensionsInDatabase build b stack
  let archive ← dumpDataDirWithFormat build b stack .tar
  match b.openTemporary archive extensions with
  | .ok backend => return backend
  | .error err => Stateful.fail (.protocol err)

end Session

/-! ## Runs -/

/-- The public operations. -/
inductive Operation : Type 1 where
  | exec (sql : String) (options : Option QueryOptions)
  | query (sql : String) (params : List Value) (options : Option QueryOptions)
  | execProtocol (message : Bytes) (options : ExecProtocolOptions)
  | transaction (T : Type) (callback : Callback T)
  | refreshArrayTypes
  | listen (channel : String) (callback : CallbackId)
  | unlisten (handle : ListenerHandle)
  | unlistenChannel (channel : String)
  | onNotification (callback : CallbackId)
  | offNotification (handle : GlobalListenerHandle)
  | dumpDataDir (format : DataDirArchiveFormat)
  | tryClone

namespace Session

variable {σ : Type} (build : Build) (b : Backend σ) (stack : ℕ)

/-- Call an operation; its result is dropped. -/
def call : Operation → Method σ Unit
  | .exec sql options => do let _ ← exec build b stack sql options
  | .query sql params options => do let _ ← query build b stack sql params options
  | .execProtocol message options => do let _ ← execProtocol build b (.raw message) options
  | .transaction _ callback => do let _ ← transaction build b stack callback
  | .refreshArrayTypes => refreshArrayTypes build b stack
  | .listen channel callback => do let _ ← listen build b stack channel callback
  | .unlisten handle => unlisten build b stack handle
  | .unlistenChannel channel => unlistenChannel build b stack channel
  | .onNotification callback => do let _ ← onNotification callback
  | .offNotification handle => offNotification handle
  | .dumpDataDir format => do let _ ← dumpDataDirWithFormat build b stack format
  | .tryClone => do let _ ← tryClone build b stack

/-- Operations one after another; a panic ends the run. -/
def run : List Operation → Session σ → Session σ
  | [], s => s
  | op :: ops, s =>
    match call build b stack op s with
    | (s', .panic) => s'
    | (s', _) => run ops s'

end Session

end PgliteOxide.Pglite
