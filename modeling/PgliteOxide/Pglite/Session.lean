import PgliteOxide.Lib.Prog
import PgliteOxide.Lib.Stateful
import PgliteOxide.Protocol.Serializer
import PgliteOxide.Pglite.Config
import PgliteOxide.Pglite.Results

/-!
# `Pglite`

The direct client of `client.rs` over an embedded backend: simple and extended queries, the
lazy registration of array types, listeners, transactions and physical dumps. The backend and
the files beside it are outside: `Backend` has one function for each call the client makes, on
a state of its own.

Next to the fields of `Pglite`, a `Session` keeps what happened: every protocol exchange, and
the backend states in which a dump shut the backend down.
-/

namespace PgliteOxide.Pglite

open Lib Protocol

/-! ## Errors -/

/-- `anyhow::Error` as the client builds it. -/
inductive ClientError where
  | protocol (err : Error)
  /-- `PgliteError`. -/
  | pglite (source : DatabaseError) (query : String) (params : List Value)
      (queryOptions : Option QueryOptions)
  | context (text : String) (err : ClientError)
  /-- The context `backend restart after failed <operation> also failed: <restartErr>`. -/
  | restartFailed (operation : String) (restartErr err : ClientError)

namespace ClientError

/-- `anyhow!` and `bail!`. -/
def msg (text : String) : ClientError := protocol (.msg text)

/-- `downcast::<DatabaseError>`: contexts are looked through, a `PgliteError` is not. -/
def downcastDatabase : ClientError → Option DatabaseError
  | protocol (.database dbErr) => some dbErr
  | protocol _ => none
  | pglite .. => none
  | context _ err => err.downcastDatabase
  | restartFailed _ _ err => err.downcastDatabase

/-- What the query methods make of an error: a `PgliteError` with the query, or a context. -/
def enrich (text sql : String) (params : List Value) (options : Option QueryOptions)
    (err : ClientError) : ClientError :=
  match err.downcastDatabase with
  | some dbErr => pglite dbErr sql params options
  | none => context (text ++ sql) err

end ClientError

/-! ## The backend -/

/-- `io::Error` as the client tells it apart. -/
inductive IoError where
  | notFound
  | other (text : String)
deriving DecidableEq

inductive DataDirArchiveFormat where
  | tar
  | tarGz
deriving DecidableEq, Repr

/-- The backend session, its blob file and its data directory, and the builder that opens a
temporary instance from an archive. `bySqlName` finds a bundled extension, and `hashOrder` is
the order in which a `HashMap` with the given keys is walked. -/
structure Backend (σ : Type) where
  startupConfig : StartupConfig
  blobDir : String
  blobPath : String
  sendBuffered : σ → Bytes → Option DataTransferContainer → σ × Except Error Bytes
  shutdown : σ → σ × Except Error Unit
  restart : σ → σ × Except Error Unit
  dumpPgdataArchive : σ → DataDirArchiveFormat → Except Error Bytes
  createBlobDir : σ → σ × Except Error Unit
  writeBlob : σ → Bytes → σ × Except Error Unit
  removeBlob : σ → σ
  readBlob : σ → Except IoError Bytes
  openTemporary : Bytes → List String → Except Error σ
  bySqlName : String → Option String
  hashOrder : List String → List String

/-- A backend given by what it answers to requests; it has no blob, and it can be shut down and
started again at any time. -/
def Backend.answering {σ : Type} (send : σ → Bytes → σ × Except Error Bytes) : Backend σ where
  startupConfig := .default
  blobDir := "dev"
  blobPath := "dev/blob"
  sendBuffered s message _ := send s message
  shutdown s := (s, .ok ())
  restart s := (s, .ok ())
  dumpPgdataArchive _ _ := .ok []
  createBlobDir s := (s, .ok ())
  writeBlob s _ := (s, .ok ())
  removeBlob s := s
  readBlob _ := .error .notFound
  openTemporary _ _ := .error (.msg "no builder")
  bySqlName _ := none
  hashOrder := id

/-- The batches of frontend messages the client sends, and the bytes of a caller. -/
inductive Request where
  | query (sql : String)
  | parseDescribe (sql : String) (paramTypes : List Int32)
  | bindExecute (values : List BindValue)
  | raw (message : Bytes)
deriving DecidableEq

/-- `Bind` of the unnamed statement to the unnamed portal. -/
def unnamedBind (values : List BindValue) : BindConfig :=
  { portal := none, statement := none, binary := false, values, valueMapper := none }

/-- The bytes of a batch. -/
def Request.bytes : Request → Bytes
  | query sql => Serialize.query sql
  | parseDescribe sql paramTypes =>
    Serialize.parse none sql paramTypes ++ Serialize.describe ⟨'S', none⟩ ++ Serialize.sync
  | bindExecute values =>
    Serialize.bind (unnamedBind values) ++ Serialize.describe ⟨'P', none⟩
      ++ Serialize.execute none ++ Serialize.sync
  | raw message => message

/-! ## The client -/

structure ChannelListener where
  id : UInt64
  callback : CallbackId
deriving DecidableEq

structure GlobalListener where
  id : UInt64
  callback : CallbackId
deriving DecidableEq

structure ListenerHandle where
  channel : String
  normalizedChannel : String
  id : UInt64
deriving DecidableEq

structure GlobalListenerHandle where
  id : UInt64
deriving DecidableEq

/-- `HashMap<String, Vec<ChannelListener>>`. -/
abbrev ListenerMap := List (String × List ChannelListener)

namespace ListenerMap

def get (map : ListenerMap) (channel : String) : Option (List ChannelListener) :=
  map.lookup channel

def remove (map : ListenerMap) (channel : String) : ListenerMap :=
  map.filter fun entry => entry.1 ≠ channel

/-- Replace the entry of a channel, or add it. -/
def set (map : ListenerMap) (channel : String) (listeners : List ChannelListener) :
    ListenerMap :=
  (channel, listeners) :: map.remove channel

end ListenerMap

/-- The fields of a `Pglite` instance. -/
structure Instance (σ : Type) where
  backend : σ
  parser : Parser
  serializers : SerializerMap
  parsers : ParserMap
  arrayTypeLookupMisses : List Int32
  inTransaction : Bool
  ready : Bool
  closing : Bool
  closed : Bool
  blobInputProvided : Bool
  notifyListeners : ListenerMap
  globalNotifyListeners : List GlobalListener
  nextListenerId : UInt64
  nextGlobalListenerId : UInt64

/-- The struct `new_prepared_with_config` builds, with the default registries. -/
def Instance.opened {σ : Type} (serializers : SerializerMap) (parsers : ParserMap)
    (backend : σ) : Instance σ where
  backend := backend
  parser := Parser.new
  serializers := serializers
  parsers := parsers
  arrayTypeLookupMisses := []
  inTransaction := false
  ready := true
  closing := false
  closed := false
  blobInputProvided := false
  notifyListeners := []
  globalNotifyListeners := []
  nextListenerId := 1
  nextGlobalListenerId := 1

/-- The part `exec_protocol` works on. -/
def Instance.client {σ : Type} (db : Instance σ) : Client where
  parser := db.parser
  notifyListeners := db.notifyListeners.map fun entry => (entry.1, entry.2.map (·.callback))
  globalNotifyListeners := db.globalNotifyListeners.map (·.callback)

/-- Whether `try_register_array_type_by_array_oid` asks the catalog. -/
def Instance.needsLookup {σ : Type} (db : Instance σ) (arrayOid : Int32) : Bool :=
  !(arrayOid ≤ 0 || db.parsers.containsKey arrayOid
    || db.arrayTypeLookupMisses.contains arrayOid)

/-- One call of `exec_protocol`: what was sent, what came back, who was listening and how the
call ended. -/
structure Exchange where
  request : Request
  options : ExecProtocolOptions
  client : Client
  response : Except Error Bytes
  outcome : ExecOutcome

/-- A client with its past. -/
structure Session (σ : Type) where
  db : Instance σ
  history : List Exchange
  quiesced : List σ

/-- The session of an instance that has just been opened. -/
def Session.opened {σ : Type} (serializers : SerializerMap) (parsers : ParserMap)
    (backend : σ) : Session σ where
  db := .opened serializers parsers backend
  history := []
  quiesced := []

/-- A method of `Pglite`. -/
abbrev Method (σ α : Type) := Stateful (Session σ) ClientError α

namespace Session

variable {σ α : Type}

/-! ### Primitive steps -/

/-- `with_context`. -/
def context (text : String) (m : Method σ α) : Method σ α := m.mapErr (.context text)

/-- Read the fields. -/
def getDb : Method σ (Instance σ) := fun s => (s, .ok s.db)

/-- Assign to fields. -/
def setDb (f : Instance σ → Instance σ) : Method σ Unit :=
  Stateful.modify fun s => { s with db := f s.db }

/-- A call into the backend. -/
def callBackend (f : σ → σ × Except Error α) : Method σ α := fun s =>
  let (backend, result) := f s.db.backend
  ({ s with db := { s.db with backend } },
    match result with
    | .ok a => .ok a
    | .error err => .err (.protocol err))

/-- A pure computation that may panic. -/
def compute (x : Outcome Empty α) : Method σ α := Stateful.lift (x.mapErr Empty.elim)

def bail (text : String) : Method σ α := Stateful.fail (.msg text)

/-- `check_ready`. -/
def checkReady : Method σ Unit := do
  let db ← getDb
  if db.closing then bail "Pglite instance is closing"
  else if db.closed then bail "Pglite instance is closed"
  else if !db.ready then bail "Pglite instance is not ready"
  else return ()

section

variable (build : Build) (b : Backend σ)

/-- `exec_protocol`. `sync_to_fs` does nothing. -/
def execProtocol (request : Request) (options : ExecProtocolOptions) :
    Method σ ExecProtocolResult := fun s =>
  let (backend, response) :=
    b.sendBuffered s.db.backend request.bytes options.dataTransferContainer
  let call : ExecCall :=
    { message := request.bytes
      options
      backend := { sendBuffered := fun _ _ => response, syncToFs := .ok () } }
  let (client, outcome) := PgliteOxide.Pglite.execProtocol build s.db.client call
  ({ s with
      db := { s.db with backend, parser := client.parser }
      history := s.history ++ [{ request, options, client := s.db.client, response, outcome }] },
    outcome.result.mapErr .protocol)

/-! ### Blobs -/

/-- `handle_blob_input`. A failure to remove an old blob is ignored. -/
def handleBlobInput (blob : Option Bytes) : Method σ Unit :=
  match blob with
  | some bytes => do
    context s!"failed to create blob directory {b.blobDir}" (callBackend b.createBlobDir)
    context s!"write blob input to {b.blobPath}" (callBackend (b.writeBlob · bytes))
    setDb fun db => { db with blobInputProvided := true }
  | none =>
    setDb fun db => { db with blobInputProvided := false, backend := b.removeBlob db.backend }

/-- `get_written_blob`. -/
def getWrittenBlob : Method σ (Option Bytes) := do
  let db ← getDb
  if db.blobInputProvided then
    setDb fun db => { db with blobInputProvided := false, backend := b.removeBlob db.backend }
    return none
  else
    match b.readBlob db.backend with
    | .ok data =>
      setDb fun db => { db with blobInputProvided := false, backend := b.removeBlob db.backend }
      return if data = [] then none else some data
    | .error .notFound =>
      setDb fun db => { db with blobInputProvided := false }
      return none
    | .error (.other text) =>
      context s!"read blob output from {b.blobPath}" (bail text)

/-! ### Array types -/

/-- `str::parse::<i32>`. -/
def parseI32 (s : String) : Option Int32 :=
  let (negative, digits) := match s.toList with
    | '+' :: cs => (false, cs)
    | '-' :: cs => (true, cs)
    | cs => (false, cs)
  if digits ≠ [] ∧ digits.all Char.isDigit then
    let n : ℤ := digits.foldl (fun n c => n * 10 + (c.toNat - 48)) 0
    let n := if negative then -n else n
    if -2 ^ 31 ≤ n ∧ n < 2 ^ 31 then some (Int32.ofInt n) else none
  else none

/-- `value_to_i32`. -/
def valueToI32 : Option Value → Option Int32
  | some (.number n) => n.asI64.map Int64.toInt32
  | some (.string s) => parseI32 s
  | _ => none

/-- `value_to_char`. -/
def valueToChar : Option Value → Option Char
  | some (.string s) => s.toList.head?
  | _ => none

/-- `array_type_info_from_row`. -/
def arrayTypeInfoFromRow : Value → Option ArrayTypeInfo
  | .object map => do
    let elementOid ← valueToI32 (map.lookup "oid")
    let arrayOid ← valueToI32 (map.lookup "typarray")
    if elementOid = 0 ∨ arrayOid = 0 then none
    else
      let delimiter := (valueToChar (map.lookup "typdelim")).getD ','
      return { elementOid, arrayOid, delimiter }
  | _ => none

/-- The array type described by the first row of the first result. -/
def firstArrayTypeInfo (results : List Results) : Option ArrayTypeInfo := do
  let resultSet ← results.head?
  let row ← resultSet.rows.head?
  arrayTypeInfoFromRow row

/-- The catalog query of `try_register_array_type_by_array_oid`. -/
def arrayTypeLookupSql (arrayOid : Int32) : String :=
  "SELECT e.oid, a.oid AS typarray, e.typdelim::text AS typdelim "
    ++ "FROM pg_catalog.pg_type a "
    ++ "JOIN pg_catalog.pg_type e ON e.oid = a.typelem "
    ++ s!"WHERE a.oid = {arrayOid.toInt}::oid "
    ++ "AND a.typcategory = 'A' "
    ++ "AND a.typelem <> 0"

/-- `Pglite::register_array_type`. -/
def registerArrayType (info : ArrayTypeInfo) : Method σ Unit :=
  setDb fun db =>
    { db with
      parsers := registerArrayParser db.parsers info
      serializers := registerArraySerializer db.serializers info
      arrayTypeLookupMisses := db.arrayTypeLookupMisses.filter (· ≠ info.arrayOid) }

/-- `exec_internal` as its callees call it back. -/
abbrev Exec (σ : Type) := String → Option QueryOptions → Method σ (List Results)

/-- `try_register_array_type_by_array_oid`. -/
def tryRegisterArrayTypeByArrayOid (exec : Exec σ) (arrayOid : Int32) : Method σ Bool := do
  let db ← getDb
  if !db.needsLookup arrayOid then
    return false
  else
    let results ← exec (arrayTypeLookupSql arrayOid) none
    match firstArrayTypeInfo results with
    | none =>
      setDb fun db => { db with arrayTypeLookupMisses := arrayOid :: db.arrayTypeLookupMisses }
      return false
    | some info =>
      registerArrayType info
      return true

/-- `ensure_array_types_for_oids`. -/
def ensureArrayTypesForOids (exec : Exec σ) (options : Option QueryOptions) :
    List Int32 → Method σ Unit
  | [] => return ()
  | oid :: oids => do
    let db ← getDb
    if oid ≤ 0 || db.parsers.containsKey oid
        || options.any (·.parsers.containsKey oid) then
      ensureArrayTypesForOids exec options oids
    else
      let _ ← tryRegisterArrayTypeByArrayOid exec oid
      ensureArrayTypesForOids exec options oids

/-- `ensure_array_types_for_bind_values`, from one parameter on. A parameter the backend did not
describe counts as `text`. -/
def ensureArrayTypesForBindValues (exec : Exec σ) (options : QueryOptions) :
    List Value → List Int32 → Bool → Method σ Bool
  | [], _, registered => return registered
  | value :: params, dataTypeIds, registered => do
    let db ← getDb
    let oid := dataTypeIds.headD oidText
    if !value.isArray || options.serializers.containsKey oid || db.serializers.containsKey oid then
      ensureArrayTypesForBindValues exec options params dataTypeIds.tail registered
    else
      let registeredNow ← tryRegisterArrayTypeByArrayOid exec oid
      ensureArrayTypesForBindValues exec options params dataTypeIds.tail
        (registered || registeredNow)

/-! ### Simple queries -/

/-- `finish_exec` up to the results; `finish_query` shares it. -/
def finishExec (exec : Exec σ) (messages : List BackendMessage)
    (options : Option QueryOptions) : Method σ (List Results) := do
  let blob ← getWrittenBlob b
  ensureArrayTypesForOids exec options (resultTypeIds messages)
  let db ← getDb
  compute (parseResults build messages db.parsers options blob)

/-- `exec_opts` of the query methods. -/
def execOptions (options : QueryOptions) : ExecProtocolOptions :=
  { ExecProtocolOptions.noSync with
    onNotice := options.onNotice
    dataTransferContainer := options.dataTransferContainer }

/-- `exec_internal`. Array types of result columns are looked up with `exec_internal` itself;
the first argument is the depth of the call stack, and running out of it is a crash. -/
def execInternal : ℕ → Exec σ
  | 0, _, _ => Stateful.lift .panic
  | stack + 1, sql, options => do
    let execOpts := options.getD .default
    handleBlobInput b execOpts.blob
    let result ← (execProtocol build b (.query sql) (execOptions execOpts)).mapErr
      (.enrich "failed to execute simple query: " sql [] options)
    finishExec build b (execInternal stack) result.messages options

end

end Session

end PgliteOxide.Pglite
