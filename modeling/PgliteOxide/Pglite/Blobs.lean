import PgliteOxide.Pglite.Statements

/-!
# The blob file

All calls of a client pass their blobs through one file, `/dev/blob`, and one flag. To say what a
statement finds there, the backend is given a record: for every batch it is sent, what the file
held before and after. The main result says which calls find their own input, and that a blob in
a call's results was written by that call's own statement.
-/

namespace PgliteOxide.Pglite

open Lib Protocol

variable {σ : Type}

/-! ## A backend with a record -/

/-- A batch, and the blob file before and after the backend has worked on it. -/
structure BlobEntry where
  message : Bytes
  before : Except IoError Bytes
  after : Except IoError Bytes

/-- The backend that also records what it is sent. -/
def Backend.logged (b : Backend σ) : Backend (σ × List BlobEntry) where
  startupConfig := b.startupConfig
  blobDir := b.blobDir
  blobPath := b.blobPath
  sendBuffered x message container :=
    let (y, response) := b.sendBuffered x.1 message container
    ((y, x.2 ++ [⟨message, b.readBlob x.1, b.readBlob y⟩]), response)
  shutdown x := (((b.shutdown x.1).1, x.2), (b.shutdown x.1).2)
  restart x := (((b.restart x.1).1, x.2), (b.restart x.1).2)
  dumpPgdataArchive x := b.dumpPgdataArchive x.1
  createBlobDir x := (((b.createBlobDir x.1).1, x.2), (b.createBlobDir x.1).2)
  writeBlob x bytes := (((b.writeBlob x.1 bytes).1, x.2), (b.writeBlob x.1 bytes).2)
  removeBlob x := (b.removeBlob x.1, x.2)
  readBlob x := b.readBlob x.1
  openTemporary archive extensions := (b.openTemporary archive extensions).map (·, [])
  bySqlName := b.bySqlName
  hashOrder := b.hashOrder

/-- A write that succeeds leaves the file with the bytes written, and the backend does not touch
the file when it only parses and describes a statement. -/
structure BlobRules (b : Backend σ) : Prop where
  write : ∀ x bytes, (b.writeBlob x bytes).2 = .ok () →
    b.readBlob (b.writeBlob x bytes).1 = .ok bytes
  describe : ∀ x sql paramTypes container,
    b.readBlob (b.sendBuffered x (Request.parseDescribe sql paramTypes).bytes container).1
      = b.readBlob x

/-- `fs::remove_file` removes the file. The client ignores its failures. -/
def RemovesBlob (b : Backend σ) : Prop := ∀ x, b.readBlob (b.removeBlob x) = .error .notFound

lemma BlobRules.logged {b : Backend σ} (rules : BlobRules b) : BlobRules b.logged where
  write x bytes := rules.write x.1 bytes
  describe x := rules.describe x.1

lemma RemovesBlob.logged {b : Backend σ} (hremove : RemovesBlob b) : RemovesBlob b.logged :=
  fun x => hremove x.1

/-! ## Blobs in results -/

lemma parseResultsFrom_blob {build : Build} {defaults overrides : ParserMap}
    {rowMode : Option RowMode} {blob : Option Bytes} {messages : List BackendMessage}
    {r r' : ResultsProgress} (hr : ∀ results ∈ r.resultSets, results.blob = blob)
    (h : parseResultsFrom build defaults overrides rowMode blob r messages = .ok r') :
    ∀ results ∈ r'.resultSets, results.blob = blob := by
  fun_induction parseResultsFrom build defaults overrides rowMode blob r messages with
  | case1 r =>
    cases h
    exact hr
  | case2 r desc messages ih => exact ih hr h
  | case3 r row messages hnil ih => exact ih hr h
  | case4 r row messages hne ih =>
    rw [Outcome.bind_eq_ok] at h
    obtain ⟨rowValue, -, h⟩ := h
    exact ih rowValue hr h
  | case5 r cmd messages ih =>
    rw [Outcome.bind_eq_ok] at h
    obtain ⟨affectedRows, -, h⟩ := h
    refine ih affectedRows (fun results hresults => ?_) h
    rcases List.mem_append.mp hresults with hresults | hresults
    · exact hr results hresults
    · rw [List.mem_singleton.mp hresults]
  | case6 r message messages _ _ _ ih => exact ih hr h

/-- All results of a call carry the same blob. -/
lemma parseResults_blob {build : Build} {messages : List BackendMessage} {parsers : ParserMap}
    {options : Option QueryOptions} {blob : Option Bytes} {results : List Results}
    (h : parseResults build messages parsers options blob = .ok results) :
    ∀ r ∈ results, r.blob = blob := by
  unfold parseResults at h
  rw [Outcome.bind_eq_ok] at h
  obtain ⟨progress, hprogress, h⟩ := h
  have hblob := parseResultsFrom_blob (by simp) hprogress
  split at h
  · cases h
    simp
  · cases h
    exact hblob

namespace Session

variable {build : Build} {b : Backend σ} {stack : ℕ}

/-! ## The blob steps -/

/-- There is no blob file. -/
def Absent (b : Backend σ) (s : Session σ) : Prop := b.readBlob s.db.backend = .error .notFound

/-- The file holds the input of the running call, or does not exist. -/
def Reserved (b : Backend σ) (s : Session σ) : Prop :=
  s.db.blobInputProvided = true ∨ Absent b s

lemma callBackend_eq_ok {α : Type} {f : σ → σ × Except Error α} {s t : Session σ} {a : α}
    (h : callBackend f s = (t, .ok a)) :
    (f s.db.backend).2 = .ok a ∧ t = s.withBackend (f s.db.backend).1 := by
  unfold callBackend at h
  obtain ⟨hstate, hresult⟩ := Prod.mk.inj h
  refine ⟨?_, hstate.symm⟩
  cases hf : (f s.db.backend).2 with
  | ok x =>
    rw [hf] at hresult
    cases hresult
    rfl
  | error err =>
    rw [hf] at hresult
    cases hresult

/-- After `handle_blob_input` with an input the file holds it. -/
lemma handleBlobInput_some (rules : BlobRules b) {bytes : Bytes} {s t : Session σ}
    (h : handleBlobInput b (some bytes) s = (t, .ok ())) :
    b.readBlob t.db.backend = .ok bytes ∧ t.db.blobInputProvided = true := by
  unfold handleBlobInput at h
  rw [Stateful.bind_eq_ok] at h
  obtain ⟨s₁, _, -, h⟩ := h
  rw [Stateful.bind_eq_ok] at h
  obtain ⟨s₂, _, hwrite, h⟩ := h
  unfold context at hwrite
  rw [Stateful.mapErr_eq_ok] at hwrite
  obtain ⟨hok, hs₂⟩ := callBackend_eq_ok hwrite
  cases h
  refine ⟨?_, rfl⟩
  rw [hs₂]
  exact rules.write _ _ hok

lemma handleBlobInput_reserved (rules : BlobRules b) (hremove : RemovesBlob b)
    {blob : Option Bytes} {s t : Session σ} (h : handleBlobInput b blob s = (t, .ok ())) :
    Reserved b t := by
  cases blob with
  | some bytes => exact .inl (handleBlobInput_some rules h).2
  | none =>
    cases h
    exact .inr (hremove _)

/-- `get_written_blob` returns what it reads, unless the call had an input, and leaves no file. -/
lemma getWrittenBlob_ok (hremove : RemovesBlob b) {s t : Session σ} {blob : Option Bytes}
    (h : getWrittenBlob b s = (t, .ok blob)) :
    Absent b t ∧
      ∀ data, blob = some data →
        s.db.blobInputProvided = false ∧ b.readBlob s.db.backend = .ok data := by
  have hdb : getDb s = (s, (.ok s.db : Outcome ClientError (Instance σ))) := rfl
  unfold getWrittenBlob at h
  rw [Stateful.bind_of_ok hdb] at h
  split at h
  · cases h
    exact ⟨hremove _, by simp⟩
  · rename_i hprovided
    rw [Bool.not_eq_true] at hprovided
    cases hread : b.readBlob s.db.backend with
    | ok data =>
      rw [hread] at h
      cases h
      refine ⟨hremove _, fun data' hdata' => ⟨hprovided, ?_⟩⟩
      split at hdata'
      · simp at hdata'
      · rw [Option.some.inj hdata']
    | error err =>
      rw [hread] at h
      cases err with
      | notFound =>
        cases h
        exact ⟨hread, by simp⟩
      | other text => simp [context, bail, Stateful.mapErr, Stateful.fail] at h

/-! ## Lookups leave no file -/

section Lookups

variable {exec : Exec σ} {s t : Session σ}

variable (hexec : ∀ oid (u v : Session σ) results,
  exec (arrayTypeLookupSql oid) none u = (v, .ok results) → Absent b v)

include hexec

lemma tryRegister_absent {oid : Int32} {r : Bool}
    (h : tryRegisterArrayTypeByArrayOid exec oid s = (t, .ok r))
    (hs : Absent b s ∨ s.db.needsLookup oid = true) : Absent b t := by
  cases hneeds : s.db.needsLookup oid with
  | true =>
    obtain ⟨u, results, hlookup, -, -, hbackend, -⟩ := tryRegister_ok hneeds h
    unfold Absent
    rw [hbackend]
    exact hexec oid s u results hlookup
  | false =>
    have hdb : getDb s = (s, (.ok s.db : Outcome ClientError (Instance σ))) := rfl
    unfold tryRegisterArrayTypeByArrayOid at h
    rw [Stateful.bind_of_ok hdb, hneeds] at h
    cases h
    exact hs.resolve_right (by rw [hneeds]; simp)

lemma ensureForOids_absent {options : Option QueryOptions} {oids : List Int32}
    (h : ensureArrayTypesForOids exec options oids s = (t, .ok ())) (hs : Absent b s) :
    Absent b t := by
  induction oids generalizing s with
  | nil =>
    cases h
    exact hs
  | cons oid oids ih =>
    have hdb : getDb s = (s, (.ok s.db : Outcome ClientError (Instance σ))) := rfl
    rw [ensureArrayTypesForOids, Stateful.bind_of_ok hdb] at h
    split at h
    · exact ih h hs
    · rw [Stateful.bind_eq_ok] at h
      obtain ⟨u, r, htry, h⟩ := h
      exact ih h (tryRegister_absent hexec htry (.inl hs))

/-- The file is gone after the loop over the parameters, if it was before or if one of them is
looked up. -/
lemma ensureForBindValues_absent {options : QueryOptions} {params : List Value}
    {dataTypeIds : List Int32} {registered r : Bool}
    (h : ensureArrayTypesForBindValues exec options params dataTypeIds registered s = (t, .ok r))
    (hs : Absent b s ∨ ¬ NothingLookedUp s.db options params dataTypeIds) : Absent b t := by
  induction params generalizing dataTypeIds registered s with
  | nil =>
    cases h
    exact hs.resolve_right fun hnot => hnot trivial
  | cons value params ih =>
    cases hlooks : looksUp s.db options value (dataTypeIds.headD oidText) with
    | false =>
      rw [ensure_skip hlooks] at h
      refine ih h (hs.imp_right fun hnot hrest => hnot ⟨hlooks, hrest⟩)
    | true =>
      rw [ensure_lookup hlooks, Stateful.bind_eq_ok] at h
      obtain ⟨u, now, htry, h⟩ := h
      exact ih h (.inl (tryRegister_absent hexec htry (.inr (needsLookup_of_looksUp hlooks))))

end Lookups

/-- What `finish_exec` returns and leaves. -/
lemma finishExec_ok (hremove : RemovesBlob b) {exec : Exec σ}
    (hexec : ∀ oid (u v : Session σ) results,
      exec (arrayTypeLookupSql oid) none u = (v, .ok results) → Absent b v)
    {messages : List BackendMessage} {options : Option QueryOptions} {s t : Session σ}
    {results : List Results}
    (h : finishExec build b exec messages options s = (t, .ok results)) :
    Absent b t ∧
      ∀ r ∈ results, ∀ data, r.blob = some data →
        s.db.blobInputProvided = false ∧ b.readBlob s.db.backend = .ok data := by
  unfold finishExec at h
  rw [Stateful.bind_eq_ok] at h
  obtain ⟨s₁, blob, hblob, h⟩ := h
  rw [Stateful.bind_eq_ok] at h
  obtain ⟨s₂, _, hensure, h⟩ := h
  have hdb : getDb s₂ = (s₂, (.ok s₂.db : Outcome ClientError (Instance σ))) := rfl
  rw [Stateful.bind_of_ok hdb] at h
  obtain ⟨hs₂, hparsed⟩ := Prod.mk.inj h
  obtain ⟨habsent, hdata⟩ := getWrittenBlob_ok hremove hblob
  refine ⟨?_, fun r hr data hrdata => hdata data ?_⟩
  · rw [← hs₂]
    exact ensureForOids_absent hexec hensure habsent
  · have hsame := parseResults_blob (Outcome.mapErr_eq_ok.mp hparsed) r hr
    rw [← hsame, hrdata]

/-- **A simple query that returns leaves no file.** The induction is on the call stack. -/
lemma execInternal_absent (hremove : RemovesBlob b) {sql : String}
    {options : Option QueryOptions} {s t : Session σ} {results : List Results}
    (h : execInternal build b stack sql options s = (t, .ok results)) : Absent b t := by
  induction stack generalizing sql options s t results with
  | zero => cases h
  | succ stack ih =>
    unfold execInternal at h
    rw [Stateful.bind_eq_ok] at h
    obtain ⟨s₁, _, -, h⟩ := h
    rw [Stateful.bind_eq_ok] at h
    obtain ⟨s₂, result, -, h⟩ := h
    exact (finishExec_ok hremove (fun oid u v results hlookup => ih hlookup) h).1

/-! ## The record of a session -/

section Log

/-- The batches the backend has recorded. -/
def log (s : Session (σ × List BlobEntry)) : List BlobEntry := s.db.backend.2

/-- The batches recorded since `l`, each with `P`. -/
def Logged (P : BlobEntry → Prop) (l : List BlobEntry) (s : Session (σ × List BlobEntry)) : Prop :=
  ∃ m, s.log = l ++ m ∧ ∀ e ∈ m, P e

/-- Everything the client sends but a `Bind`. -/
def Prepares : Request → Prop
  | .query _ => True
  | .parseDescribe .. => True
  | _ => False

/-- A batch that is no `Bind`. -/
def Prepared (e : BlobEntry) : Prop := ∃ request, Prepares request ∧ e.message = request.bytes

/-- The first byte tells the batches apart. -/
lemma Prepared.not_bind {e : BlobEntry} (h : Prepared e) (values : List BindValue) :
    e.message ≠ (Request.bindExecute values).bytes := by
  intro hbind
  obtain ⟨request, hrequest, hmessage⟩ := h
  rw [hmessage] at hbind
  have hhead := congrArg List.head? hbind
  cases request with
  | query sql => exact absurd (Option.some.inj hhead) (by decide)
  | parseDescribe sql paramTypes => exact absurd (Option.some.inj hhead) (by decide)
  | bindExecute values => exact hrequest
  | raw message => exact hrequest

variable {s t : Session (σ × List BlobEntry)}

lemma Logged.refl (P : BlobEntry → Prop) (s : Session (σ × List BlobEntry)) :
    Logged P s.log s := ⟨[], by simp⟩

/-- An exchange, as the backend records it. -/
def entry (build : Build) (b : Backend σ) (request : Request) (options : ExecProtocolOptions)
    (s : Session (σ × List BlobEntry)) : BlobEntry where
  message := request.bytes
  before := b.logged.readBlob s.db.backend
  after := b.logged.readBlob (execProtocol build b.logged request options s).1.db.backend

lemma execProtocol_log (request : Request) (options : ExecProtocolOptions)
    (s : Session (σ × List BlobEntry)) :
    (execProtocol build b.logged request options s).1.log
      = s.log ++ [entry build b request options s] := rfl

lemma execProtocol_provided (b : Backend σ) (request : Request) (options : ExecProtocolOptions)
    (s : Session σ) :
    (execProtocol build b request options s).1.db.blobInputProvided = s.db.blobInputProvided :=
  rfl

/-- What is recorded is steady, as far as no `Bind` is sent. -/
lemma steadyFrame_logged (l : List BlobEntry) :
    SteadyFrame build b.logged (Logged Prepared l) Prepares where
  exchange request hrequest options s hs := by
    obtain ⟨m, hm, hP⟩ := hs
    refine ⟨m ++ [entry build b request options s], ?_, fun e he => ?_⟩
    · rw [execProtocol_log, hm, List.append_assoc]
    · rcases List.mem_append.mp he with he | he
      · exact hP e he
      · rw [List.mem_singleton.mp he]
        exact ⟨request, hrequest, rfl⟩
  lookup _ := trivial
  createBlobDir _ hs := hs
  writeBlob _ _ hs := hs
  removeBlob _ hs := hs
  registry _ _ _ _ _ hs := hs

/-- The blob steps record nothing. -/
lemma handleBlobInput_log {blob : Option Bytes} {r : Outcome ClientError Unit}
    (h : handleBlobInput b.logged blob s = (t, r)) : t.log = s.log := by
  have hframe : LocalFrame b.logged fun u : Session (σ × List BlobEntry) => u.log = s.log :=
    { createBlobDir := fun _ hs => hs
      writeBlob := fun _ _ hs => hs
      removeBlob := fun _ hs => hs
      registry := fun _ _ _ _ _ hs => hs }
  have hlog := hframe.keeps_handleBlobInput blob s rfl
  rw [h] at hlog
  exact hlog

/-- **What `exec_internal` sends.** Its own statement comes first, right after
`handle_blob_input`; only lookups follow. -/
lemma execInternal_log (sql : String) (options : Option QueryOptions)
    (s : Session (σ × List BlobEntry)) :
    ((execInternal build b.logged (stack + 1) sql options s).1.log = s.log ∧
      ∀ results, (execInternal build b.logged (stack + 1) sql options s).2 ≠ .ok results) ∨
    ∃ t rest, handleBlobInput b.logged (options.getD .default).blob s = (t, .ok ()) ∧
      (execInternal build b.logged (stack + 1) sql options s).1.log
        = s.log ++ entry build b (.query sql) (execOptions (options.getD .default)) t :: rest ∧
      ∀ results, (execInternal build b.logged (stack + 1) sql options s).2 = .ok results →
        ∃ u messages, finishExec build b.logged (execInternal build b.logged stack) messages
          options (execProtocol build b.logged (.query sql) (execOptions (options.getD .default))
            t).1 = (u, .ok results) := by
  unfold execInternal
  rcases Stateful.bind_cases _ _ s with ⟨t, _, hblob, hrest⟩ | ⟨hstop, hnone⟩
  swap
  · refine .inl ⟨?_, hnone⟩
    rw [hstop]
    exact handleBlobInput_log rfl
  have hlog := handleBlobInput_log hblob
  have hfst : ((execProtocol build b.logged (.query sql)
      (execOptions (options.getD .default))).mapErr
        (ClientError.enrich "failed to execute simple query: " sql [] options) t).1
        = (execProtocol build b.logged (.query sql) (execOptions (options.getD .default)) t).1 :=
    Stateful.mapErr_fst _ _ t
  have hsent := @execProtocol_log _ build b (.query sql)
    (execOptions (options.getD .default)) t
  rw [hrest]
  rcases Stateful.bind_cases _ _ t with ⟨t', result, hexchange, hrest⟩ | ⟨hstop, hnone⟩
  swap
  · refine .inr ⟨t, [], hblob, ?_, fun results hok => absurd hok (hnone results)⟩
    rw [hstop, hfst, hsent, hlog]
  rw [hrest]
  rw [hexchange] at hfst
  have hfst' : t' = _ := hfst
  have hframe := @steadyFrame_logged _ build b t'.log
  obtain ⟨rest, hfinish, -⟩ := hframe.keeps_finishExec
    (@SteadyFrame.keeps_lookup _ _ _ _ _ stack hframe) result.messages options t' (Logged.refl _ t')
  refine .inr ⟨t, rest, hblob, ?_, fun results hok => ?_⟩
  · rw [hfinish, hfst', hsent, hlog, List.append_assoc]
    rfl
  · rw [← hfst', ← hok]
    exact ⟨_, _, rfl⟩

/-- The end of `query_internal` sends lookups only, and takes its result from `finish_exec`. -/
lemma finishQuery_log (messages : List BackendMessage) (options : Option QueryOptions)
    {s : Session (σ × List BlobEntry)} {r : Session (σ × List BlobEntry) × Outcome _ Results}
    (h : (finishExec build b.logged (execInternal build b.logged stack) messages options >>=
      fun parsed => match parsed with
        | [] => bail "query returned no result sets"
        | results :: _ => return results) s = r) :
    Logged Prepared s.log r.1 ∧
      ∀ a, r.2 = .ok a → ∃ u results, finishExec build b.logged
        (execInternal build b.logged stack) messages options s = (u, .ok results) ∧
        a ∈ results := by
  have hframe := @steadyFrame_logged _ build b s.log
  have hkeeps := hframe.keeps_finishExec (@SteadyFrame.keeps_lookup _ _ _ _ _ stack hframe)
    messages options
  constructor
  · rw [← h]
    refine hkeeps.bind (fun parsed => ?_) s (Logged.refl _ s)
    cases parsed with
    | nil => exact keeps_bail
    | cons results rest => exact .pure _
  · intro a ha
    obtain ⟨t, o⟩ := r
    subst ha
    rw [Stateful.bind_eq_ok] at h
    obtain ⟨u, parsed, hfinish, h⟩ := h
    refine ⟨u, parsed, hfinish, ?_⟩
    cases parsed with
    | nil => cases h
    | cons results rest =>
      cases h
      exact List.mem_cons_self

/-- **What `query_internal` sends.** It stops before its `Bind` and returns nothing, or it sends
the `Bind` once. -/
lemma queryInternal_log (sql : String) (params : List Value) (options : Option QueryOptions)
    (s : Session (σ × List BlobEntry)) :
    (Logged Prepared s.log (queryInternal build b.logged stack sql params options s).1 ∧
      ∀ r, (queryInternal build b.logged stack sql params options s).2 ≠ .ok r) ∨
    ∃ t s₁ s₂ s₃ described again registered values sent rest,
      handleBlobInput b.logged (options.getD .default).blob s = (t, .ok ()) ∧
      parseAndDescribe build b.logged sql (options.getD .default).paramTypes
        (execOptions (options.getD .default)) t = (s₁, .ok described) ∧
      ensureArrayTypesForBindValues (execInternal build b.logged stack) (options.getD .default)
        params (parseDescribeStatementResults described) false s₁ = (s₂, .ok registered) ∧
      (parseAndDescribe build b.logged sql (options.getD .default).paramTypes
        (execOptions (options.getD .default))).onlyIf registered described s₂
          = (s₃, .ok again) ∧
      (queryInternal build b.logged stack sql params options s).1.log
        = s.log ++ (sent ++ entry build b (.bindExecute values)
            (execOptions (options.getD .default)) s₃ :: rest) ∧
      (∀ e ∈ sent ++ rest, Prepared e) ∧
      ∀ r, (queryInternal build b.logged stack sql params options s).2 = .ok r →
        ∃ u messages results, finishExec build b.logged (execInternal build b.logged stack)
          messages options (execProtocol build b.logged (.bindExecute values)
            (execOptions (options.getD .default)) s₃).1 = (u, .ok results) ∧ r ∈ results := by
  unfold queryInternal
  rcases Stateful.bind_cases _ _ s with ⟨t, _, hblob, hrest⟩ | ⟨hstop, hnone⟩
  swap
  · refine .inl ⟨⟨[], ?_, by simp⟩, hnone⟩
    rw [hstop, List.append_nil]
    exact handleBlobInput_log rfl
  have hlog := handleBlobInput_log hblob
  have hfst : ((queryMessages build b.logged stack sql params (options.getD .default)).mapErr
      (ClientError.enrich "failed to execute extended query: " sql params options) t).1
        = (queryMessages build b.logged stack sql params (options.getD .default) t).1 :=
    Stateful.mapErr_fst _ _ t
  rw [hrest]
  rcases @queryMessages_steps _ build b.logged stack _ _ (@steadyFrame_logged _ build b t.log)
      sql (options.getD .default) trivial params _ (Logged.refl _ t) with
    ⟨hsent, hnone⟩ |
    ⟨s₁, s₂, s₃, described, again, registered, values, h₁, h₂, h₃, ⟨sent, hsent, hprepared⟩, hbound⟩
  · rcases Stateful.bind_cases
        ((queryMessages build b.logged stack sql params (options.getD .default)).mapErr
          (ClientError.enrich "failed to execute extended query: " sql params options)) _ t with
      ⟨t', messages, hmessages, -⟩ | ⟨hstop, hnone'⟩
    · rw [Stateful.mapErr_eq_ok] at hmessages
      exact absurd (congrArg Prod.snd hmessages) (hnone messages)
    · refine .inl ⟨?_, hnone'⟩
      rw [hstop, hfst, ← hlog]
      exact hsent
  have hsent' : (queryMessages build b.logged stack sql params (options.getD .default) t).1.log
      = s.log ++ (sent ++ [entry build b (.bindExecute values)
          (execOptions (options.getD .default)) s₃]) := by
    rw [hbound, execProtocol_log, hsent, hlog, List.append_assoc]
  rcases Stateful.bind_cases _ _ t with ⟨t', messages, hmessages, hrest⟩ | ⟨hstop, hnone⟩
  swap
  · refine .inr ⟨t, s₁, s₂, s₃, described, again, registered, values, sent, [], hblob, h₁, h₂, h₃,
      ?_, by simpa using hprepared, fun r hr => absurd hr (hnone r)⟩
    rw [hstop, hfst, hsent']
  rw [hmessages] at hfst
  have hfst' : t' = _ := hfst
  rw [← hfst'] at hsent' hbound
  obtain ⟨⟨rest, hlast, hafter⟩, hresult⟩ := finishQuery_log messages options hrest.symm
  refine .inr ⟨t, s₁, s₂, s₃, described, again, registered, values, sent, rest, hblob, h₁, h₂, h₃,
    ?_, ?_, fun r hr => ?_⟩
  · rw [hlast, hsent', List.append_assoc, List.append_assoc]
    rfl
  · intro e he
    exact (List.mem_append.mp he).elim (hprepared e) (hafter e)
  · obtain ⟨u, results, hfinish, hmem⟩ := hresult r hr
    rw [hbound] at hfinish
    exact ⟨u, messages, results, hfinish, hmem⟩

end Log

/-! ## The file when the statement runs -/

/-- `parse_and_describe` changes neither the file nor the flag nor the registry. -/
lemma parseAndDescribe_blob (rules : BlobRules b) {sql : String} {paramTypes : List Int32}
    {options : ExecProtocolOptions} {s t : Session σ} {described : List BackendMessage}
    (h : parseAndDescribe build b sql paramTypes options s = (t, .ok described)) :
    b.readBlob t.db.backend = b.readBlob s.db.backend ∧
      t.db.blobInputProvided = s.db.blobInputProvided ∧ SameRegistry s t := by
  have hstate := @parseAndDescribe_state _ build b sql paramTypes options s
  rw [h] at hstate
  have ht : t = _ := hstate
  rw [ht]
  exact ⟨rules.describe _ _ _ _, rfl, rfl, rfl, rfl⟩

section BeforeBind

variable {sql : String} {params : List Value} {options : QueryOptions} {t s₁ s₂ s₃ : Session σ}
  {described again : List BackendMessage} {registered : Bool}

variable (rules : BlobRules b) (hremove : RemovesBlob b)
  (h₁ : parseAndDescribe build b sql options.paramTypes (execOptions options) t
    = (s₁, .ok described))
  (h₂ : ensureArrayTypesForBindValues (execInternal build b stack) options params
    (parseDescribeStatementResults described) false s₁ = (s₂, .ok registered))
  (h₃ : (parseAndDescribe build b sql options.paramTypes (execOptions options)).onlyIf
    registered described s₂ = (s₃, .ok again))

include rules hremove h₂ h₃

/-- Without lookups nothing happens between the two places, and after a lookup there is no
file. -/
lemma before_bind_cases :
    NothingLookedUp s₁.db options params (parseDescribeStatementResults described) ∧ s₃ = s₁ ∨
    ¬ NothingLookedUp s₁.db options params (parseDescribeStatementResults described) ∧
      Absent b s₃ := by
  by_cases hnothing : NothingLookedUp s₁.db options params (parseDescribeStatementResults described)
  · rw [ensure_nothing hnothing] at h₂
    cases h₂
    cases h₃
    exact .inl ⟨hnothing, rfl⟩
  · have habsent : Absent b s₂ := ensureForBindValues_absent
      (fun oid u v results => execInternal_absent hremove) h₂ (.inr hnothing)
    refine .inr ⟨hnothing, ?_⟩
    cases registered with
    | false =>
      cases h₃
      exact habsent
    | true =>
      unfold Absent
      rw [(parseAndDescribe_blob rules h₃).1]
      exact habsent

include h₁

lemma reserved_before_bind (ht : Reserved b t) : Reserved b s₃ := by
  rcases before_bind_cases rules hremove h₂ h₃ with ⟨-, rfl⟩ | ⟨-, habsent⟩
  · obtain ⟨hblob, hprovided, -⟩ := parseAndDescribe_blob rules h₁
    unfold Reserved Absent
    rw [hblob, hprovided]
    exact ht
  · exact .inr habsent

lemma input_before_bind {bytes : Bytes} (ht : b.readBlob t.db.backend = .ok bytes) :
    b.readBlob s₃.db.backend = .ok bytes ↔
      NothingLookedUp s₁.db options params (parseDescribeStatementResults described) := by
  rcases before_bind_cases rules hremove h₂ h₃ with ⟨hnothing, rfl⟩ | ⟨hlooked, habsent⟩
  · rw [(parseAndDescribe_blob rules h₁).1, ht]
    exact iff_of_true rfl hnothing
  · rw [show b.readBlob s₃.db.backend = _ from habsent]
    exact iff_of_false (by simp) hlooked

end BeforeBind

/-- What `finish_exec` returns after a statement that ran on a reserved file is what the statement
has written. -/
lemma written_by_statement (hremove : RemovesBlob b) {request : Request}
    {options : ExecProtocolOptions} {queryOptions : Option QueryOptions}
    {messages : List BackendMessage} {t u : Session (σ × List BlobEntry)}
    {results : List Results} (ht : Reserved b.logged t)
    (h : finishExec build b.logged (execInternal build b.logged stack) messages queryOptions
      (execProtocol build b.logged request options t).1 = (u, .ok results))
    {r : Results} (hr : r ∈ results) {data : Bytes} (hdata : r.blob = some data) :
    (entry build b request options t).before = .error .notFound ∧
      (entry build b request options t).after = .ok data := by
  obtain ⟨-, hblob⟩ := finishExec_ok hremove.logged
    (fun oid v w results => execInternal_absent hremove.logged) h
  obtain ⟨hprovided, hread⟩ := hblob r hr data hdata
  rw [execProtocol_provided] at hprovided
  exact ⟨ht.resolve_left (by rw [hprovided]; simp), hread⟩

/-- No parameter of the call is looked up, given the types the backend describes. -/
def NoParameterLookedUp (build : Build) (b : Backend σ) (sql : String) (params : List Value)
    (options : QueryOptions) (s : Session σ) : Prop :=
  ∀ t s₁ described, handleBlobInput b options.blob s = (t, .ok ()) →
    parseAndDescribe build b sql options.paramTypes (execOptions options) t
      = (s₁, .ok described) →
    NothingLookedUp s.db options params (parseDescribeStatementResults described)

section Call

variable (rules : BlobRules b) (hremove : RemovesBlob b) {sql : String} {params : List Value}
  {options : Option QueryOptions} {s : Session (σ × List BlobEntry)}

include rules

/-- The statement of an `exec` runs right after its input is written. -/
lemma execInternal_finds_input {bytes : Bytes} (hbytes : (options.getD .default).blob = some bytes)
    {e : BlobEntry} {rest : List BlobEntry}
    (hlog : (execInternal build b.logged stack sql options s).1.log = s.log ++ e :: rest) :
    e.message = (Request.query sql).bytes ∧ e.before = .ok bytes := by
  cases stack with
  | zero =>
    have hsame : s.log = s.log ++ e :: rest := hlog
    simp at hsame
  | succ stack =>
    rcases @execInternal_log _ build b stack sql options s with
      ⟨hnone, -⟩ | ⟨t, rest', hblob, hsent, -⟩
    · rw [hnone] at hlog
      simp at hlog
    · rw [hsent, List.append_cancel_left_eq] at hlog
      obtain ⟨rfl, -⟩ := List.cons.inj hlog
      rw [hbytes] at hblob
      exact ⟨rfl, (handleBlobInput_some rules.logged hblob).1⟩

include hremove

lemma queryInternal_finds_input_iff {bytes : Bytes}
    (hbytes : (options.getD .default).blob = some bytes) {e : BlobEntry}
    {sent rest : List BlobEntry} {values : List BindValue}
    (hlog : (queryInternal build b.logged stack sql params options s).1.log
      = s.log ++ (sent ++ e :: rest))
    (hmessage : e.message = (Request.bindExecute values).bytes) :
    e.before = .ok bytes ↔
      NoParameterLookedUp build b.logged sql params (options.getD .default) s := by
  rcases @queryInternal_log _ build b stack sql params options s with ⟨⟨m, hm, hprepared⟩, -⟩ |
    ⟨t, s₁, s₂, s₃, described, again, registered, values', sent', rest', hblob, h₁, h₂, h₃, hsent,
      hprepared, -⟩
  · rw [hm, List.append_cancel_left_eq] at hlog
    exact absurd hmessage ((hprepared e (by rw [hlog]; simp)).not_bind values)
  · rw [hsent, List.append_cancel_left_eq] at hlog
    -- the only batch that is a `Bind`
    have he : e = entry build b (.bindExecute values') (execOptions (options.getD .default)) s₃ := by
      have hmem : e ∈ sent' ++ entry build b (.bindExecute values')
          (execOptions (options.getD .default)) s₃ :: rest' := by rw [hlog]; simp
      rcases List.mem_append.mp hmem with hmem | hmem
      · exact absurd hmessage ((hprepared e (List.mem_append_left _ hmem)).not_bind values)
      · rcases List.mem_cons.mp hmem with hmem | hmem
        · exact hmem
        · exact absurd hmessage ((hprepared e (List.mem_append_right _ hmem)).not_bind values)
    have hregistry : SameRegistry s s₁ := by
      have hframe := handleBlobInput_frame (b := b.logged) (options.getD .default).blob s s
        ⟨⟨rfl, rfl, rfl⟩, rfl⟩
      rw [hblob] at hframe
      obtain ⟨hserializers, hparsers, hmisses⟩ := (parseAndDescribe_blob rules.logged h₁).2.2
      exact ⟨hserializers.trans hframe.1.1, hparsers.trans hframe.1.2.1,
        hmisses.trans hframe.1.2.2⟩
    have hinput : b.logged.readBlob t.db.backend = .ok bytes := by
      rw [hbytes] at hblob
      exact (handleBlobInput_some rules.logged hblob).1
    rw [he, show (entry build b _ _ s₃).before = b.logged.readBlob s₃.db.backend from rfl,
      input_before_bind rules.logged hremove.logged h₁ h₂ h₃ hinput, hregistry.nothingLookedUp]
    constructor
    · intro h t' s₁' described' hblob' h₁'
      rw [hblob] at hblob'
      cases hblob'
      rw [h₁] at h₁'
      cases h₁'
      exact h
    · exact fun h => h t s₁ described hblob h₁

lemma execInternal_returns_own_blob {results : List Results}
    (hok : (execInternal build b.logged stack sql options s).2 = .ok results) {r : Results}
    (hr : r ∈ results) {data : Bytes} (hdata : r.blob = some data) :
    ∃ e rest, (execInternal build b.logged stack sql options s).1.log = s.log ++ e :: rest ∧
      e.message = (Request.query sql).bytes ∧
      e.before = .error .notFound ∧ e.after = .ok data := by
  cases stack with
  | zero => cases hok
  | succ stack =>
    rcases @execInternal_log _ build b stack sql options s with
      ⟨-, hnone⟩ | ⟨t, rest, hblob, hsent, hfinish⟩
    · exact absurd hok (hnone results)
    · obtain ⟨u, messages, h⟩ := hfinish results hok
      have hreserved := handleBlobInput_reserved rules.logged hremove.logged hblob
      exact ⟨_, rest, hsent, rfl, written_by_statement hremove hreserved h hr hdata⟩

lemma queryInternal_returns_own_blob {r : Results}
    (hok : (queryInternal build b.logged stack sql params options s).2 = .ok r) {data : Bytes}
    (hdata : r.blob = some data) :
    ∃ sent e rest values, (queryInternal build b.logged stack sql params options s).1.log
      = s.log ++ (sent ++ e :: rest) ∧ e.message = (Request.bindExecute values).bytes ∧
      e.before = .error .notFound ∧ e.after = .ok data := by
  rcases @queryInternal_log _ build b stack sql params options s with ⟨-, hnone⟩ |
    ⟨t, s₁, s₂, s₃, described, again, registered, values, sent, rest, hblob, h₁, h₂, h₃, hsent, -,
      hfinish⟩
  · exact absurd hok (hnone r)
  · obtain ⟨u, messages, results, h, hr⟩ := hfinish r hok
    have hreserved := handleBlobInput_reserved rules.logged hremove.logged hblob
    have hbefore := reserved_before_bind rules.logged hremove.logged h₁ h₂ h₃ hreserved
    exact ⟨sent, _, rest, values, hsent, rfl, written_by_statement hremove hbefore h hr hdata⟩

end Call

/-- **Blob transfer isolation**, for every call in every state of the client, whatever calls have
led to it: where removing the file takes effect, the statement of an `exec` finds the blob of its
options, the `Bind` of a `query` finds it exactly if no parameter is looked up, and a blob in the
results was not there before the call's own statement and was there after it. -/
theorem blob_transfer_isolated_iff (rules : BlobRules b) (hremove : RemovesBlob b) (sql : String)
    (params : List Value) (options : Option QueryOptions) (s : Session (σ × List BlobEntry)) :
    (∀ bytes, (options.getD .default).blob = some bytes →
      (∀ e rest, (execInternal build b.logged stack sql options s).1.log = s.log ++ e :: rest →
        e.message = (Request.query sql).bytes ∧ e.before = .ok bytes) ∧
      (∀ sent e rest values,
        (queryInternal build b.logged stack sql params options s).1.log
          = s.log ++ (sent ++ e :: rest) →
        e.message = (Request.bindExecute values).bytes →
        (e.before = .ok bytes ↔
          NoParameterLookedUp build b.logged sql params (options.getD .default) s))) ∧
    (∀ results, (execInternal build b.logged stack sql options s).2 = .ok results →
      ∀ r ∈ results, ∀ data, r.blob = some data →
        ∃ e rest, (execInternal build b.logged stack sql options s).1.log = s.log ++ e :: rest ∧
          e.message = (Request.query sql).bytes ∧
          e.before = .error .notFound ∧ e.after = .ok data) ∧
    (∀ r, (queryInternal build b.logged stack sql params options s).2 = .ok r →
      ∀ data, r.blob = some data →
        ∃ sent e rest values, (queryInternal build b.logged stack sql params options s).1.log
          = s.log ++ (sent ++ e :: rest) ∧ e.message = (Request.bindExecute values).bytes ∧
          e.before = .error .notFound ∧ e.after = .ok data) := by
  refine ⟨fun bytes hbytes => ⟨?_, ?_⟩, ?_, ?_⟩
  · intro e rest hlog
    exact execInternal_finds_input rules hbytes hlog
  · intro sent e rest values hlog hmessage
    exact queryInternal_finds_input_iff rules hremove hbytes hlog hmessage
  · intro results hok r hr data hdata
    exact execInternal_returns_own_blob rules hremove hok hr hdata
  · intro r hok data hdata
    exact queryInternal_returns_own_blob rules hremove hok hdata

end Session

/-! ## A backend with a blob file -/

namespace BlobFile

open OneStatement

/-- The answer to the catalog query about the array type 16401. -/
def arrayType : List WireMessage :=
  [.rowDescription lookupFields, .dataRow [some "16400", some "16401", some ","],
    .commandComplete "SELECT 1", .readyForQuery 'I']

/-- One parameter of type 16401. The state is the content of the file: a `Bind` runs a statement
that reads it, or writes it where it does not exist. -/
def send (file : Option Bytes) (message : Bytes) : Option Bytes × Except Error Bytes :=
  let (file, answer) := match message.head? with
    | some 80 => (file, described 16401)
    | some 66 => (some (file.getD [120]), bound)
    | _ => (file, arrayType)
  (file, .ok (answer.flatMap WireMessage.encode))

/-- A file system on which `fs::remove_file` does what `remove` does. -/
def backend (remove : Option Bytes → Option Bytes) : Backend (Option Bytes) :=
  { Backend.answering send with
    writeBlob := fun _ bytes => (some bytes, .ok ())
    removeBlob := remove
    readBlob := fun file => file.elim (.error .notFound) .ok }

lemma blobRules (remove : Option Bytes → Option Bytes) : BlobRules (backend remove) where
  write _ _ _ := rfl
  describe _ _ _ _ := rfl

/-- A client that knows the types of the catalog query. -/
def client : Session (Option Bytes × List BlobEntry) :=
  .opened [] [(26, fun text _ => .ok (.string text)), (25, fun text _ => .ok (.string text))]
    (none, [])

/-- The options of a call with the input `alpha`. -/
def input : QueryOptions := { QueryOptions.default with blob := some [97, 108, 112, 104, 97] }

end BlobFile

namespace Session

open BlobFile

/-- The batch at a place where it is known, in a session that started afresh. -/
lemma exists_entry_at {s₀ s : Session (σ × List BlobEntry)} (hstart : s₀.log = []) {n : ℕ}
    {message : Bytes} {before : Except IoError Bytes}
    (h : (s.log[n]?).map (fun e => (e.message, e.before)) = some (message, before)) :
    ∃ sent e rest, s.log = s₀.log ++ (sent ++ e :: rest) ∧ e.message = message ∧
      e.before = before := by
  rw [Option.map_eq_some_iff] at h
  obtain ⟨e, he, hentry⟩ := h
  obtain ⟨hn, rfl⟩ := List.getElem?_eq_some_iff.mp he
  obtain ⟨hmessage, hbefore⟩ := Prod.mk.inj hentry
  refine ⟨s.log.take n, _, s.log.drop (n + 1), ?_, hmessage, hbefore⟩
  rw [hstart, List.nil_append, ← List.drop_eq_getElem_cons hn, List.take_append_drop]

/-- A parameter that is no array: the statement finds its input. Without an input the same call
returns what its statement writes. -/
theorem blob_transfer_isolated_iff_scalar :
    (∃ sent e rest,
      (queryInternal ⟨false⟩ (backend fun _ => none).logged 3 "SELECT $1" [.string "a"]
        (some input) client).1.log = client.log ++ (sent ++ e :: rest) ∧
      e.message = (Request.bindExecute [.text "a"]).bytes ∧
      e.before = .ok [97, 108, 112, 104, 97]) ∧
    ∃ sent e rest values,
      (queryInternal ⟨false⟩ (backend fun _ => none).logged 3 "SELECT $1" [.string "a"]
        none client).1.log = client.log ++ (sent ++ e :: rest) ∧
      e.message = (Request.bindExecute values).bytes ∧
      e.before = .error .notFound ∧ e.after = .ok [120] := by
  have hsent : ((queryInternal ⟨false⟩ (backend fun _ => none).logged 3 "SELECT $1" [.string "a"]
      (some input) client).1.log[1]?).map (fun e => (e.message, e.before))
        = some ((Request.bindExecute [.text "a"]).bytes, .ok [97, 108, 112, 104, 97]) := by
    decide +kernel
  obtain ⟨sent, e, rest, hlog, hmessage, -⟩ :=
    exists_entry_at (show client.log = [] from rfl) hsent
  have hreturned : (queryInternal ⟨false⟩ (backend fun _ => none).logged 3 "SELECT $1"
      [.string "a"] none client).2.toOption.bind (·.blob) = some [120] := by decide +kernel
  rw [Option.bind_eq_some_iff] at hreturned
  obtain ⟨r, hr, hdata⟩ := hreturned
  rw [Outcome.toOption_eq_some] at hr
  constructor
  · refine ⟨sent, e, rest, hlog, hmessage, ?_⟩
    have hinput := (@blob_transfer_isolated_iff _ ⟨false⟩ _ 3
      (blobRules fun _ => none) (fun _ => rfl) "SELECT $1" [.string "a"] (some input)
      client).1 [97, 108, 112, 104, 97] rfl
    refine (hinput.2 sent e rest _ hlog hmessage).mpr ?_
    intro t s₁ described _ _
    exact ⟨rfl, trivial⟩
  · have hown := (@blob_transfer_isolated_iff _ ⟨false⟩ _ 3
      (blobRules fun _ => none) (fun _ => rfl) "SELECT $1" [.string "a"] none client).2.2
    exact hown r hr [120] hdata

/-- An array whose type the client does not know yet: looking the type up removes the input, and
the statement finds no file. Where a file cannot be removed, the input of one call is returned by
the next. -/
theorem blob_lost_after_lookup :
    (∃ sent e rest,
      (queryInternal ⟨false⟩ (backend fun _ => none).logged 3 "SELECT $1" [.array [.bool true]]
        (some input) client).1.log = client.log ++ (sent ++ e :: rest) ∧
      e.message = (Request.bindExecute [.text "\x7b\"t\"\x7d"]).bytes ∧
      e.before = .error .notFound) ∧
    (execInternal ⟨false⟩ (backend id).logged 3 "SELECT 1" none
      (execInternal ⟨false⟩ (backend id).logged 3 "COPY t FROM '/dev/blob'" (some input)
        client).1).2.toOption.map (·.map (·.blob)) = some [input.blob] := by
  have hsent : ((queryInternal ⟨false⟩ (backend fun _ => none).logged 3 "SELECT $1"
      [.array [.bool true]] (some input) client).1.log[3]?).map (fun e => (e.message, e.before))
        = some ((Request.bindExecute [.text "\x7b\"t\"\x7d"]).bytes, .error .notFound) := by
    decide +kernel
  refine ⟨exists_entry_at (show client.log = [] from rfl) hsent, ?_⟩
  decide +kernel

end Session

end PgliteOxide.Pglite
