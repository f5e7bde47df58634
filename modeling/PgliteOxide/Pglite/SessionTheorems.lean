import PgliteOxide.Pglite.Operations

/-!
# What the client's methods keep

Every method of the client is made of exchanges, blob steps and assignments. A property that is
`Steady` survives each of these, so it survives every method: the induction over the call stack
of `exec_internal`, over parameter lists and over callbacks is done here once.
-/

namespace PgliteOxide.Pglite

open Lib Protocol

/-- Neither a transaction nor a dump. -/
def Operation.IsSimple : Operation → Prop
  | .transaction .. => False
  | .dumpDataDir _ => False
  | .tryClone => False
  | _ => True

namespace Session

variable {σ α : Type}

/-- The session with another backend state. -/
def withBackend (s : Session σ) (backend : σ) : Session σ :=
  { s with db := { s.db with backend } }

variable (build : Build) (b : Backend σ)

/-- The call an exchange makes. -/
def exchangeCall (request : Request) (options : ExecProtocolOptions)
    (response : Except Error Bytes) : ExecCall where
  message := request.bytes
  options := options
  backend := { sendBuffered := fun _ _ => response, syncToFs := .ok () }

/-- An exchange whose request is answered with `response`. -/
lemma execProtocol_eq (request : Request)
    (options : ExecProtocolOptions) (s : Session σ) {backend : σ} {response : Except Error Bytes}
    (h : b.sendBuffered s.db.backend request.bytes options.dataTransferContainer
      = (backend, response)) :
    execProtocol build b request options s
      = (let r := Pglite.execProtocol build s.db.client (exchangeCall request options response)
         ({ s with
            db := { s.db with backend, parser := r.1.parser }
            history := s.history
              ++ [{ request, options, client := s.db.client, response, outcome := r.2 }] },
          r.2.result.mapErr .protocol)) := by
  unfold execProtocol
  rw [h]
  rfl

/-- An exchange changes the backend, the parser and the history. -/
lemma execProtocol_state (request : Request) (options : ExecProtocolOptions) (s : Session σ) :
    ∃ parser e, (execProtocol build b request options s).1
      = { s with
          db := { s.db with
            backend :=
              (b.sendBuffered s.db.backend request.bytes options.dataTransferContainer).1
            parser }
          history := s.history ++ [e] } :=
  ⟨_, _, congrArg Prod.fst (execProtocol_eq build b request options s rfl)⟩

/-- `I` survives the blob steps, and does not look at the type registry. -/
structure LocalFrame (I : Session σ → Prop) : Prop where
  createBlobDir : ∀ s, I s → I (s.withBackend (b.createBlobDir s.db.backend).1)
  writeBlob : ∀ s bytes, I s → I (s.withBackend (b.writeBlob s.db.backend bytes).1)
  removeBlob : ∀ s, I s → I (s.withBackend (b.removeBlob s.db.backend))
  registry : ∀ s serializers parsers misses provided, I s → I { s with
    db := { s.db with serializers, parsers, arrayTypeLookupMisses := misses, blobInputProvided := provided } }

/-- `I` survives the exchanges in `A` as well, and catalog lookups are in `A`. -/
structure SteadyFrame (I : Session σ → Prop) (A : Request → Prop) : Prop
    extends LocalFrame b I where
  exchange : ∀ request, A request → ∀ options, (execProtocol build b request options).Keeps I
  lookup : ∀ oid, A (.query (arrayTypeLookupSql oid))

/-- `I` survives the blob steps, and looks neither at the type registry nor at the listeners. -/
structure Local (I : Session σ → Prop) : Prop where
  createBlobDir : ∀ s, I s → I (s.withBackend (b.createBlobDir s.db.backend).1)
  writeBlob : ∀ s bytes, I s → I (s.withBackend (b.writeBlob s.db.backend bytes).1)
  removeBlob : ∀ s, I s → I (s.withBackend (b.removeBlob s.db.backend))
  fields : ∀ (s : Session σ) (db : Instance σ), I s → db.backend = s.db.backend →
    db.parser = s.db.parser → db.inTransaction = s.db.inTransaction → db.ready = s.db.ready →
    db.closing = s.db.closing → db.closed = s.db.closed → I { s with db }

/-- `I` survives the exchanges in `A` as well, and catalog lookups are in `A`. -/
structure Steady (I : Session σ → Prop) (A : Request → Prop) : Prop extends Local b I where
  exchange : ∀ request, A request → ∀ options, (execProtocol build b request options).Keeps I
  lookup : ∀ oid, A (.query (arrayTypeLookupSql oid))

variable {build b} {I : Session σ → Prop} {A : Request → Prop} {stack : ℕ}

/-- `parse_and_describe` is one exchange. -/
lemma parseAndDescribe_state (sql : String) (paramTypes : List Int32)
    (options : ExecProtocolOptions) (s : Session σ) :
    (parseAndDescribe build b sql paramTypes options s).1
      = (execProtocol build b (.parseDescribe sql paramTypes) options s).1 := by
  unfold parseAndDescribe
  rcases hx : execProtocol build b (.parseDescribe sql paramTypes) options s with ⟨t, r | e | _⟩
  · rw [Stateful.bind_of_ok hx]
    split <;> rfl
  · rw [Stateful.bind_of_err hx]
  · rw [Stateful.bind_of_panic hx]

lemma parseAndDescribe_ok {sql : String} {paramTypes : List Int32}
    {options : ExecProtocolOptions} {s s' : Session σ} {described : List BackendMessage}
    (h : parseAndDescribe build b sql paramTypes options s = (s', .ok described)) :
    ∃ result, execProtocol build b (.parseDescribe sql paramTypes) options s
      = (s', .ok result) ∧ described = result.messages := by
  unfold parseAndDescribe at h
  rw [Stateful.bind_eq_ok] at h
  obtain ⟨t, result, hexchange, h⟩ := h
  split at h
  · simp [bail, Stateful.fail] at h
  · cases h
    exact ⟨result, hexchange, rfl⟩

/-! ## Primitive steps -/

lemma keeps_getDb : (getDb : Method σ (Instance σ)).Keeps I := fun _ h => h

lemma keeps_context {m : Method σ α} {text : String} (h : m.Keeps I) :
    (context text m).Keeps I := h.mapErr

lemma keeps_bail {text : String} : (bail text : Method σ α).Keeps I := fun _ h => h

lemma keeps_compute {x : Outcome Empty α} : (compute x : Method σ α).Keeps I := fun _ h => h

lemma keeps_checkReady : (checkReady : Method σ Unit).Keeps I := by
  refine keeps_getDb.bind fun db => ?_
  exact (keeps_bail.ite (keeps_bail.ite (keeps_bail.ite (.pure ()))))

lemma keeps_callBackend {f : σ → σ × Except Error α}
    (h : ∀ s : Session σ, I s → I (s.withBackend (f s.db.backend).1)) :
    (callBackend f).Keeps I := h

namespace LocalFrame

/-- An assignment that also removes the blob. -/
lemma keeps_setDb_removeBlob (h : LocalFrame b I) :
    (setDb fun db => { db with
      blobInputProvided := false, backend := b.removeBlob db.backend } :
      Method σ Unit).Keeps I := by
  intro s hs
  exact h.registry (s.withBackend (b.removeBlob s.db.backend)) _ _ _ _ (h.removeBlob s hs)

lemma keeps_handleBlobInput (h : LocalFrame b I) (blob : Option Bytes) :
    (handleBlobInput b blob).Keeps I := by
  unfold handleBlobInput
  split
  · rename_i bytes
    refine (keeps_context (keeps_callBackend h.createBlobDir)).bind fun _ => ?_
    refine (keeps_context (keeps_callBackend fun s => h.writeBlob s bytes)).bind fun _ => ?_
    exact fun s hs => h.registry s _ _ _ _ hs
  · exact h.keeps_setDb_removeBlob

lemma keeps_getWrittenBlob (h : LocalFrame b I) : (getWrittenBlob b).Keeps I := by
  refine keeps_getDb.bind fun db => .ite ?_ ?_
  · exact h.keeps_setDb_removeBlob.bind fun _ => .pure _
  · split
    · exact h.keeps_setDb_removeBlob.bind fun _ => .pure _
    · exact Stateful.Keeps.bind (fun s hs => h.registry s _ _ _ _ hs) fun _ => .pure _
    · exact keeps_context keeps_bail

lemma keeps_registerArrayType (h : LocalFrame b I) (info : ArrayTypeInfo) :
    (registerArrayType info).Keeps I :=
  fun s hs => h.registry s _ _ _ _ hs

lemma keeps_registerArrayTypes (h : LocalFrame b I) (rows : List Value) :
    (registerArrayTypes rows).Keeps I := by
  induction rows with
  | nil => exact .pure _
  | cons row rows ih =>
    unfold registerArrayTypes
    split
    · exact (h.keeps_registerArrayType _).bind fun _ => ih
    · exact ih

end LocalFrame

namespace SteadyFrame

/-- Fewer exchanges. -/
lemma mono (h : SteadyFrame build b I A) {A' : Request → Prop} (hA : ∀ r, A' r → A r)
    (hlookup : ∀ oid, A' (.query (arrayTypeLookupSql oid))) : SteadyFrame build b I A' where
  toLocalFrame := h.toLocalFrame
  exchange r hr := h.exchange r (hA r hr)
  lookup := hlookup

/-! ## Array types -/

lemma keeps_tryRegister (h : SteadyFrame build b I A) {exec : Exec σ}
    (hexec : ∀ oid, (exec (arrayTypeLookupSql oid) none).Keeps I) (oid : Int32) :
    (tryRegisterArrayTypeByArrayOid exec oid).Keeps I := by
  refine keeps_getDb.bind fun db => .ite (.pure _) ?_
  refine (hexec oid).bind fun results => ?_
  split
  · exact Stateful.Keeps.bind (fun s hs => h.registry s _ _ _ _ hs) fun _ => .pure _
  · exact (h.keeps_registerArrayType _).bind fun _ => .pure _

lemma keeps_ensureForOids (h : SteadyFrame build b I A) {exec : Exec σ}
    (hexec : ∀ oid, (exec (arrayTypeLookupSql oid) none).Keeps I)
    (options : Option QueryOptions) (oids : List Int32) :
    (ensureArrayTypesForOids exec options oids).Keeps I := by
  induction oids with
  | nil => exact .pure _
  | cons oid oids ih =>
    refine keeps_getDb.bind fun db => .ite ih ?_
    exact (h.keeps_tryRegister hexec oid).bind fun _ => ih

lemma keeps_ensureForBindValues (h : SteadyFrame build b I A) {exec : Exec σ}
    (hexec : ∀ oid, (exec (arrayTypeLookupSql oid) none).Keeps I) (options : QueryOptions)
    (params : List Value) (dataTypeIds : List Int32) (registered : Bool) :
    (ensureArrayTypesForBindValues exec options params dataTypeIds registered).Keeps I := by
  induction params generalizing dataTypeIds registered with
  | nil => exact .pure _
  | cons value params ih =>
    refine keeps_getDb.bind fun db => .ite (ih _ _) ?_
    exact (h.keeps_tryRegister hexec _).bind fun _ => ih _ _

/-! ## Queries -/

lemma keeps_finishExec (h : SteadyFrame build b I A) {exec : Exec σ}
    (hexec : ∀ oid, (exec (arrayTypeLookupSql oid) none).Keeps I)
    (messages : List BackendMessage) (options : Option QueryOptions) :
    (finishExec build b exec messages options).Keeps I := by
  refine h.keeps_getWrittenBlob.bind fun blob => ?_
  refine (h.keeps_ensureForOids hexec options _).bind fun _ => ?_
  exact keeps_getDb.bind fun db => keeps_compute

/-- **`exec_internal` keeps what its own request and the lookups keep.** The induction is on the
call stack: lookups for result columns call `exec_internal` again. -/
lemma keeps_execInternal (h : SteadyFrame build b I A) {sql : String} (hsql : A (.query sql))
    (options : Option QueryOptions) : (execInternal build b stack sql options).Keeps I := by
  induction stack generalizing sql options with
  | zero => exact .lift _
  | succ stack ih =>
    refine (h.keeps_handleBlobInput _).bind fun _ => ?_
    refine (h.exchange _ hsql _).mapErr.bind fun result => ?_
    exact h.keeps_finishExec (fun oid => ih (h.lookup oid) none) _ _

lemma keeps_lookup (h : SteadyFrame build b I A) (oid : Int32) :
    (execInternal build b stack (arrayTypeLookupSql oid) none).Keeps I :=
  h.keeps_execInternal (h.lookup oid) none

lemma keeps_exec (h : SteadyFrame build b I A) {sql : String} (hsql : A (.query sql))
    (options : Option QueryOptions) : (exec build b stack sql options).Keeps I :=
  keeps_checkReady.bind fun _ => h.keeps_execInternal hsql options

lemma keeps_parseAndDescribe (h : SteadyFrame build b I A) {sql : String}
    {paramTypes : List Int32} (hsql : A (.parseDescribe sql paramTypes))
    (options : ExecProtocolOptions) :
    (parseAndDescribe build b sql paramTypes options).Keeps I :=
  (h.exchange _ hsql _).bind fun _ => keeps_bail.ite (.pure _)

lemma keeps_queryMessages (h : SteadyFrame build b I A) {sql : String} {options : QueryOptions}
    (hparse : A (.parseDescribe sql options.paramTypes)) (hbind : ∀ values, A (.bindExecute values))
    (params : List Value) : (queryMessages build b stack sql params options).Keeps I := by
  refine (h.keeps_parseAndDescribe hparse _).bind fun described => ?_
  refine (h.keeps_ensureForBindValues h.keeps_lookup options params _ _).bind fun registered => ?_
  refine (h.keeps_parseAndDescribe hparse _).onlyIf.bind fun again => ?_
  refine keeps_getDb.bind fun db => Stateful.Keeps.bind (.lift _) fun values => ?_
  exact (h.exchange _ (hbind values) _).bind fun _ => .pure _

lemma keeps_queryInternal (h : SteadyFrame build b I A) {sql : String}
    {options : Option QueryOptions}
    (hparse : A (.parseDescribe sql (options.getD .default).paramTypes))
    (hbind : ∀ values, A (.bindExecute values)) (params : List Value) :
    (queryInternal build b stack sql params options).Keeps I := by
  refine (h.keeps_handleBlobInput _).bind fun _ => ?_
  refine (h.keeps_queryMessages hparse hbind params).mapErr.bind fun messages => ?_
  refine (h.keeps_finishExec h.keeps_lookup messages options).bind fun parsed => ?_
  split
  · exact keeps_bail
  · exact .pure _

lemma keeps_query (h : SteadyFrame build b I A) {sql : String} {options : Option QueryOptions}
    (hparse : A (.parseDescribe sql (options.getD .default).paramTypes))
    (hbind : ∀ values, A (.bindExecute values)) (params : List Value) :
    (query build b stack sql params options).Keeps I :=
  keeps_checkReady.bind fun _ => h.keeps_queryInternal hparse hbind params

lemma keeps_refreshArrayTypesInternal (h : SteadyFrame build b I A)
    (hsql : A (.query arrayTypesSql)) : (refreshArrayTypesInternal build b stack).Keeps I := by
  refine (h.keeps_execInternal hsql none).bind fun results => ?_
  split
  · exact keeps_bail
  · exact h.keeps_registerArrayTypes _

lemma keeps_restoreListeners (h : SteadyFrame build b I A)
    (hlisten : ∀ channel, A (.query s!"LISTEN {quoteIdentifier channel}"))
    (channels : List String) : (restoreListeners build b stack channels).Keeps I := by
  induction channels with
  | nil => exact .pure _
  | cons channel channels ih =>
    exact (keeps_context (h.keeps_execInternal (hlisten channel) none)).bind fun _ => ih

lemma keeps_restoreSessionState (h : SteadyFrame build b I A)
    (hlisten : ∀ channel, A (.query s!"LISTEN {quoteIdentifier channel}"))
    (hrole : ∀ role, A (.query s!"SET ROLE {quoteIdentifier role}")) :
    (restoreSessionStateAfterBackendRestart build b stack).Keeps I := by
  refine (keeps_context (h.keeps_exec (hrole _) none)).onlyIf.bind fun _ => ?_
  exact keeps_getDb.bind fun db => h.keeps_restoreListeners hlisten _

/-! ## Transactions -/

lemma keeps_whileOpen {closed : Bool} {m : Method σ α} (hm : m.Keeps I) :
    (whileOpen closed m).Keeps I :=
  Stateful.Keeps.ite (.pure _) (hm.attempt.bind fun _ => .pure _)

lemma keeps_endInternal (h : SteadyFrame build b I A) {sql : String} (hsql : A (.query sql))
    (closed : Bool) : (endInternal build b stack sql closed).Keeps I := by
  refine (keeps_whileOpen (h.keeps_execInternal hsql none)).bind fun r => ?_
  obtain ⟨_, result⟩ := r
  cases result <;> exact .pure _

/-- One call of a callback keeps what every request keeps. -/
lemma keeps_runTxOp (h : SteadyFrame build b I A) (hA : ∀ request, A request) (closed : Bool)
    (op : TxOp) : (runTxOp build b stack closed op).Keeps I := by
  cases op with
  | query sql params options =>
    exact keeps_whileOpen (h.keeps_queryInternal (hA _) (fun _ => hA _) params)
  | exec sql options => exact keeps_whileOpen (h.keeps_execInternal (hA _) options)
  | refreshArrayTypes => exact keeps_whileOpen (h.keeps_refreshArrayTypesInternal (hA _))
  | commit => exact h.keeps_endInternal (hA _) closed
  | rollback => exact h.keeps_endInternal (hA _) closed
  | isClosed => exact .pure _

/-- **A callback keeps what every request keeps.** -/
lemma keeps_runCallback (h : SteadyFrame build b I A) (hA : ∀ request, A request) {T : Type}
    (callback : Callback T) (closed : Bool) :
    (runCallback build b stack closed callback).Keeps I := by
  induction callback generalizing closed with
  | ret value => exact .pure _
  | fail err => exact .pure _
  | call op next ih => exact (h.keeps_runTxOp hA closed op).bind fun r => ih r.2 r.1

lemma keeps_finishTransaction (h : SteadyFrame build b I A) {sql : String} (hsql : A (.query sql))
    (closed : Bool) : (finishTransaction build b stack sql closed).Keeps I :=
  Stateful.Keeps.ite (.pure _) ((h.keeps_execInternal hsql none).bind fun _ => .pure _)

/-- **A transaction keeps what every request keeps**, if it does not depend on the flag. -/
lemma keeps_transaction (h : SteadyFrame build b I fun _ => True)
    (hflag : ∀ flag,
      (setDb fun db => { db with inTransaction := flag } : Method σ Unit).Keeps I)
    {T : Type} (callback : Callback T) : (transaction build b stack callback).Keeps I := by
  refine keeps_checkReady.bind fun _ => ?_
  refine (h.keeps_execInternal trivial none).bind fun _ => (hflag true).bind fun _ => ?_
  refine (h.keeps_runCallback (fun _ => trivial) callback false).bind fun r => ?_
  obtain ⟨closed, result⟩ := r
  cases result with
  | ok value =>
    refine (h.keeps_finishTransaction trivial closed).bind fun _ => ?_
    exact (hflag false).bind fun _ => .pure _
  | error err =>
    refine (h.keeps_finishTransaction trivial closed).bind fun _ => ?_
    exact (hflag false).bind fun _ => .fail _

end SteadyFrame

namespace Local

lemma frame (h : Local b I) : LocalFrame b I where
  createBlobDir := h.createBlobDir
  writeBlob := h.writeBlob
  removeBlob := h.removeBlob
  registry s _ _ _ _ hs := h.fields s _ hs rfl rfl rfl rfl rfl rfl

/-- An assignment to the registry or the listeners. -/
lemma keeps_setDb (h : Local b I) {f : Instance σ → Instance σ}
    (hf : ∀ db, (f db).backend = db.backend ∧ (f db).parser = db.parser ∧
      (f db).inTransaction = db.inTransaction ∧ (f db).ready = db.ready ∧
      (f db).closing = db.closing ∧ (f db).closed = db.closed) :
    (setDb f).Keeps I := by
  intro s hs
  obtain ⟨hb, hp, ht, hr, hcg, hcd⟩ := hf s.db
  exact h.fields s (f s.db) hs hb hp ht hr hcg hcd

end Local

namespace Steady

lemma frame (h : Steady build b I A) : SteadyFrame build b I A where
  toLocalFrame := h.toLocal.frame
  exchange := h.exchange
  lookup := h.lookup

/-! ## Listeners -/

lemma keeps_listen (h : Steady build b I A) {channel : String}
    (hsql : A (.query s!"LISTEN {quoteIdentifier channel}")) (callback : CallbackId) :
    (listen build b stack channel callback).Keeps I := by
  refine keeps_checkReady.bind fun _ => keeps_getDb.bind fun db => ?_
  refine (h.frame.keeps_execInternal hsql none).onlyIf.bind fun _ => keeps_getDb.bind fun db => ?_
  refine Stateful.Keeps.bind (h.keeps_setDb fun db => ?_) fun _ => .pure _
  exact ⟨rfl, rfl, rfl, rfl, rfl, rfl⟩

lemma keeps_unlisten (h : Steady build b I A) {handle : ListenerHandle}
    (hsql : A (.query s!"UNLISTEN {quoteIdentifier handle.channel}")) :
    (unlisten build b stack handle).Keeps I := by
  refine keeps_getDb.bind fun db => ?_
  split
  · exact .pure _
  · refine Stateful.Keeps.ite ?_ (h.keeps_setDb fun db => ⟨rfl, rfl, rfl, rfl, rfl, rfl⟩)
    refine Stateful.Keeps.bind (h.keeps_setDb fun db => ?_) fun _ => ?_
    · exact ⟨rfl, rfl, rfl, rfl, rfl, rfl⟩
    · exact (h.frame.keeps_execInternal hsql none).bind fun _ => .pure _

lemma keeps_unlistenChannel (h : Steady build b I A) {channel : String}
    (hsql : A (.query s!"UNLISTEN {quoteIdentifier channel}")) :
    (unlistenChannel build b stack channel).Keeps I := by
  refine keeps_getDb.bind fun db => ?_
  split
  · exact .pure _
  · refine Stateful.Keeps.bind (h.keeps_setDb fun db => ?_) fun _ => ?_
    · exact ⟨rfl, rfl, rfl, rfl, rfl, rfl⟩
    · exact (h.frame.keeps_execInternal hsql none).bind fun _ => .pure _

lemma keeps_onNotification (h : Steady build b I A) (callback : CallbackId) :
    (onNotification callback).Keeps I := by
  refine keeps_getDb.bind fun db => ?_
  refine Stateful.Keeps.bind (h.keeps_setDb fun db => ?_) fun _ => .pure _
  exact ⟨rfl, rfl, rfl, rfl, rfl, rfl⟩

lemma keeps_offNotification (h : Steady build b I A) (handle : GlobalListenerHandle) :
    (offNotification handle).Keeps I :=
  h.keeps_setDb fun _ => ⟨rfl, rfl, rfl, rfl, rfl, rfl⟩

/-- **An operation that is neither a transaction nor a dump keeps what every request keeps.** -/
lemma keeps_call (h : Steady build b I fun _ => True) {op : Operation} (hop : op.IsSimple) :
    (call build b stack op).Keeps I := by
  cases op with
  | exec sql options => exact (h.frame.keeps_exec trivial options).bind fun _ => .pure _
  | query sql params options =>
    exact (h.frame.keeps_query trivial (fun _ => trivial) params).bind fun _ => .pure _
  | execProtocol message options =>
    exact (h.exchange _ trivial options).bind fun _ => .pure _
  | refreshArrayTypes =>
    exact keeps_checkReady.bind fun _ => h.frame.keeps_refreshArrayTypesInternal trivial
  | listen channel callback => exact (h.keeps_listen trivial callback).bind fun _ => .pure _
  | unlisten handle => exact h.keeps_unlisten trivial
  | unlistenChannel channel => exact h.keeps_unlistenChannel trivial
  | onNotification callback => exact (h.keeps_onNotification callback).bind fun _ => .pure _
  | offNotification handle => exact h.keeps_offNotification handle
  | transaction T callback => exact hop.elim
  | dumpDataDir format => exact hop.elim
  | tryClone => exact hop.elim

end Steady

/-! ## Whole runs -/

/-- A run keeps what every operation keeps. -/
lemma run_keeps (h : ∀ op, (call build b stack op).Keeps I) (ops : List Operation)
    (s : Session σ) (hs : I s) : I (run build b stack ops s) := by
  induction ops generalizing s with
  | nil => exact hs
  | cons op ops ih =>
    have hop := h op s hs
    rw [run]
    generalize call build b stack op s = r at hop ⊢
    obtain ⟨s', o⟩ := r
    cases o with
    | ok u => exact ih s' hop
    | err e => exact ih s' hop
    | panic => exact hop

section Exchanges

/-! A property of the parser and the exchanges alone survives every operation, once it survives
an exchange. -/

variable (hexchange : ∀ request options, (execProtocol build b request options).Keeps I)
  (hframe : ∀ s s' : Session σ, s'.db.parser = s.db.parser → s'.history = s.history → I s → I s')

include hexchange hframe

lemma steady_of_exchange : Steady build b I fun _ => True where
  exchange request _ options := hexchange request options
  lookup _ := trivial
  createBlobDir s := hframe s _ rfl rfl
  writeBlob s _ := hframe s _ rfl rfl
  removeBlob s := hframe s _ rfl rfl
  fields s db hs _ hparser _ _ _ _ := hframe s { s with db } hparser rfl hs

lemma keeps_transaction_of_exchange {T : Type} (callback : Callback T) :
    (transaction build b stack callback).Keeps I :=
  (steady_of_exchange hexchange hframe).frame.keeps_transaction (fun _ s => hframe s _ rfl rfl) callback

lemma keeps_dump_of_exchange (format : DataDirArchiveFormat) :
    (dumpDataDirWithFormat build b stack format).Keeps I := by
  have h := steady_of_exchange hexchange hframe
  have hclosed : (setDb fun db => { db with ready := false, closed := true } :
      Method σ Unit).Keeps I := fun s => hframe s _ rfl rfl
  have hcall (f : σ → σ × Except Error Unit) : (callBackend f).Keeps I :=
    keeps_callBackend fun s => hframe s _ rfl rfl
  have hquiesce : (quiesceBackend b).Keeps I :=
    Stateful.Keeps.bind (.modify fun s => hframe s _ rfl rfl) fun _ => hcall _
  refine keeps_checkReady.bind fun _ => ?_
  refine Stateful.Keeps.bind ?_ fun _ => (keeps_context hquiesce).bind fun _ => ?_
  · refine keeps_getDb.bind fun db => keeps_bail.ite ?_
    exact (keeps_context (h.frame.keeps_exec trivial none)).bind fun _ => .pure _
  refine keeps_getDb.bind fun db => Stateful.Keeps.bind (.attempt (keeps_context ?_)) fun r => ?_
  · exact (hcall _).bind fun _ =>
      h.frame.keeps_restoreSessionState (fun _ => trivial) fun _ => trivial
  · cases b.dumpPgdataArchive db.backend format with
    | ok archive =>
      cases r with
      | ok u => exact .pure _
      | error err => exact hclosed.bind fun _ => .fail _
    | error err =>
      cases r with
      | ok u => exact .fail _
      | error restartErr => exact hclosed.bind fun _ => .fail _

lemma keeps_tryClone_of_exchange : (tryClone build b stack).Keeps I := by
  have h := steady_of_exchange hexchange hframe
  refine Stateful.Keeps.bind ?_ fun extensions => ?_
  · exact (h.frame.keeps_query trivial (fun _ => trivial) []).bind fun _ => .pure _
  · refine (keeps_dump_of_exchange hexchange hframe .tar).bind fun archive => ?_
    split
    · exact .pure _
    · exact .fail _

/-- **Every operation keeps what an exchange keeps.** -/
lemma keeps_call_of_exchange (op : Operation) : (call build b stack op).Keeps I := by
  have h := steady_of_exchange hexchange hframe
  cases op with
  | transaction T callback =>
    exact (keeps_transaction_of_exchange hexchange hframe callback).bind fun _ => .pure _
  | dumpDataDir format =>
    exact (keeps_dump_of_exchange hexchange hframe format).bind fun _ => .pure _
  | tryClone => exact (keeps_tryClone_of_exchange hexchange hframe).bind fun _ => .pure _
  | _ => exact h.keeps_call trivial

end Exchanges

end Session

end PgliteOxide.Pglite
