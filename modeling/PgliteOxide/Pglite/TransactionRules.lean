import PgliteOxide.Pglite.Notifications

/-!
# PostgreSQL's transaction rules

What the embedded PostgreSQL promises about transaction blocks, as rules for a `Backend`. A
`TransactionView` reads off a backend state where its session stands; the rules say how requests
move it. The file ends with a small backend that follows the rules.
-/

namespace PgliteOxide.Pglite

open Lib Protocol

/-- Where a backend session stands: outside a block, in one, or in a failed one. -/
inductive BlockStatus where
  | idle
  | active
  | aborted
deriving DecidableEq, Repr

/-- How a backend state is read. -/
structure TransactionView (σ E : Type) where
  status : σ → BlockStatus
  /-- The number of blocks that have ended. -/
  ended : σ → ℕ
  /-- The effects of the statements of the open block. -/
  pending : σ → List E
  /-- The effects that are committed. -/
  committed : σ → List E
  /-- The text of the unnamed prepared statement. -/
  unnamed : σ → Option String

/-- Two states that read the same. -/
structure TransactionView.Same {σ E : Type} (view : TransactionView σ E) (s s' : σ) : Prop where
  status : view.status s' = view.status s
  ended : view.ended s' = view.ended s
  pending : view.pending s' = view.pending s
  committed : view.committed s' = view.committed s
  unnamed : view.unnamed s' = view.unnamed s

/-- The statements the client issues on its own behalf, apart from those that open or end a
block. -/
inductive PlainStatement : String → Prop
  | lookup (oid : Int32) : PlainStatement (Session.arrayTypeLookupSql oid)
  | arrayTypes : PlainStatement Session.arrayTypesSql
  | extensionNames : PlainStatement Session.extensionNamesSql
  | checkpoint : PlainStatement "CHECKPOINT"
  | listen (channel : String) : PlainStatement s!"LISTEN {quoteIdentifier channel}"
  | unlisten (channel : String) : PlainStatement s!"UNLISTEN {quoteIdentifier channel}"
  | setRole (role : String) : PlainStatement s!"SET ROLE {quoteIdentifier role}"

section

variable {σ E : Type}

/-- The backend state after a request, whatever the answer. -/
def Backend.after (b : Backend σ) (s : σ) (request : Request)
    (container : Option DataTransferContainer) : σ :=
  (b.sendBuffered s request.bytes container).1

/-- The answer to a request. -/
def Backend.response (b : Backend σ) (s : σ) (request : Request)
    (container : Option DataTransferContainer) : Except Error Bytes :=
  (b.sendBuffered s request.bytes container).2

instance (build : Build) (data : Bytes) : Decidable (HasErrorResponse build data) :=
  inferInstanceAs (Decidable (∃ m ∈ responseMessages build data, isErrorResponse m = true))

/-- A request is answered, and the answer has no `ErrorResponse`. -/
def Backend.Accepts (build : Build) (b : Backend σ) (s : σ) (request : Request)
    (container : Option DataTransferContainer) : Prop :=
  ∃ data, b.response s request container = .ok data ∧ ¬ HasErrorResponse build data

/-- A request is answered with an `ErrorResponse`. -/
def Backend.Rejects (build : Build) (b : Backend σ) (s : σ) (request : Request)
    (container : Option DataTransferContainer) : Prop :=
  ∃ data, b.response s request container = .ok data ∧ HasErrorResponse build data

/-- A backend that follows PostgreSQL's transaction rules. -/
structure TransactionRules (build : Build) (b : Backend σ) (view : TransactionView σ E) :
    Prop where
  /-- Answers are sequences of protocol messages. -/
  wellFormed : ∀ s request c data, b.response s request c = .ok data → WellFormedResponse data
  /-- Blocks that have ended stay ended. -/
  ended_mono : ∀ s request c, view.ended s ≤ view.ended (b.after s request c)
  /-- Nothing is committed while a block stays open. -/
  block : ∀ s request c, view.status s ≠ .idle →
    view.ended (b.after s request c) = view.ended s →
    view.status (b.after s request c) ≠ .idle ∧
      view.committed (b.after s request c) = view.committed s
  /-- An accepted `BEGIN` opens a block, or finds one open. -/
  begin_accepted : ∀ s c, b.Accepts build s (.query "BEGIN") c →
    view.status (b.after s (.query "BEGIN") c) = .active ∧
      view.committed (b.after s (.query "BEGIN") c) = view.committed s
  /-- A rejected statement aborts the block it stands in. -/
  statement_rejected : ∀ s sql c, view.status s = .active → b.Rejects build s (.query sql) c →
    view.ended (b.after s (.query sql) c) = view.ended s →
    view.status (b.after s (.query sql) c) = .aborted
  /-- `COMMIT` of a block that has not failed commits its effects. -/
  commit_active : ∀ s c, view.status s = .active → b.Accepts build s (.query "COMMIT") c →
    view.committed (b.after s (.query "COMMIT") c) = view.committed s ++ view.pending s
  /-- `COMMIT` of a failed block rolls back, and says so without an `ErrorResponse`. -/
  commit_aborted : ∀ s c, view.status s = .aborted →
    view.committed (b.after s (.query "COMMIT") c) = view.committed s ∧
    ∀ data, b.response s (.query "COMMIT") c = .ok data →
      ¬ HasErrorResponse build data ∧
      ∃ length, .commandComplete ⟨length, "ROLLBACK"⟩ ∈ responseMessages build data
  /-- An answered `COMMIT` or `ROLLBACK` leaves no block open. -/
  end_answered : ∀ s sql c data, sql = "COMMIT" ∨ sql = "ROLLBACK" →
    b.response s (.query sql) c = .ok data → view.status (b.after s (.query sql) c) = .idle
  /-- The client's own statements neither open nor end a block, and change no table. -/
  plain : ∀ s sql c, PlainStatement sql →
    view.ended (b.after s (.query sql) c) = view.ended s ∧
      view.committed (b.after s (.query sql) c) = view.committed s ∧
      (view.status s = .idle → view.status (b.after s (.query sql) c) = .idle)
  /-- `Parse` does not open a block, and sets the unnamed statement when it is accepted. -/
  parse : ∀ s sql types c,
    (view.status s = .idle → view.status (b.after s (.parseDescribe sql types) c) = .idle) ∧
      (b.Accepts build s (.parseDescribe sql types) c →
        view.unnamed (b.after s (.parseDescribe sql types) c) = some sql)
  /-- Executing a prepared statement is executing its text. -/
  bind_plain : ∀ s sql values c, view.unnamed s = some sql → PlainStatement sql →
    view.status s = .idle → view.status (b.after s (.bindExecute values) c) = .idle
  /-- Stopping and starting the backend opens no block. -/
  shutdown : ∀ s, view.status s = .idle → view.status (b.shutdown s).1 = .idle
  restart : ∀ s, view.status s = .idle → view.status (b.restart s).1 = .idle
  /-- The blob file has nothing to do with transactions. -/
  createBlobDir : ∀ s, view.Same s (b.createBlobDir s).1
  writeBlob : ∀ s bytes, view.Same s (b.writeBlob s bytes).1
  removeBlob : ∀ s, view.Same s (b.removeBlob s)

end

/-! ## Exchanges with well-formed answers -/

/-- Answers are sequences of protocol messages. -/
def Backend.WellFormed {σ : Type} (b : Backend σ) : Prop :=
  ∀ s request c data, b.response s request c = .ok data → WellFormedResponse data

namespace Session

variable {σ : Type} {build : Build} {b : Backend σ}

lemma execProtocol_backend (request : Request) (options : ExecProtocolOptions) (s : Session σ) :
    (execProtocol build b request options s).1.db.backend
      = b.after s.db.backend request options.dataTransferContainer := by
  obtain ⟨parser, e, hstate⟩ := execProtocol_state build b request options s
  rw [hstate]
  rfl

/-- Nothing is left in the parser between exchanges. -/
lemma execProtocol_drained (build : Build) (hwf : b.WellFormed) (request : Request)
    (options : ExecProtocolOptions) {s : Session σ} (hparser : s.db.parser = Parser.new) :
    (execProtocol build b request options s).1.db.parser = Parser.new := by
  have hclient : s.db.client.parser = Parser.new := hparser
  rw [execProtocol_eq build b request options s rfl]
  cases hresp : (b.sendBuffered s.db.backend request.bytes options.dataTransferContainer).2 with
  | error err => exact hclient
  | ok data =>
    have hdata := hwf _ _ _ _ hresp
    exact (exchange_delivers_iff build hclient request options hdata).1

/-- An exchange that returns was accepted. -/
lemma execProtocol_accepts (hwf : b.WellFormed) {request : Request}
    {options : ExecProtocolOptions} (hthrow : options.throwOnError = true) {s s' : Session σ}
    (hparser : s.db.parser = Parser.new) {result : ExecProtocolResult}
    (h : execProtocol build b request options s = (s', .ok result)) :
    b.Accepts build s.db.backend request options.dataTransferContainer := by
  have hclient : s.db.client.parser = Parser.new := hparser
  rw [execProtocol_eq build b request options s rfl] at h
  cases hresp : (b.sendBuffered s.db.backend request.bytes options.dataTransferContainer).2 with
  | error err =>
    rw [hresp] at h
    exact absurd (congrArg Prod.snd h) (by
      simp [Pglite.execProtocol, exchangeCall, execProtocolRawInner, Outcome.mapErr, Bind.bind,
        Except.bind])
  | ok data =>
    have hdata := hwf _ _ _ _ hresp
    refine ⟨data, hresp, fun herr => ?_⟩
    rw [hresp] at h
    obtain ⟨taken, dbErr, hrefused⟩ := execProtocol_refused build hclient
      (response_exchangeCall request options (.ok data)) hdata hthrow herr
    rw [hrefused] at h
    exact absurd (congrArg Prod.snd h) (by simp [Outcome.mapErr])

/-- Only catalog lookups. -/
def IsLookup (request : Request) : Prop := ∃ oid, request = .query (arrayTypeLookupSql oid)

/-- What `exec_internal` did when it returned: blob steps, one accepted request, and blob steps
and lookups after it. -/
lemma execInternal_accepted (hwf : b.WellFormed) {stack : ℕ} {sql : String}
    {options : Option QueryOptions} {s s' : Session σ} {results : List Results}
    (hparser : s.db.parser = Parser.new)
    (h : execInternal build b stack sql options s = (s', .ok results)) :
    ∃ (t t' : Session σ) (c : Option DataTransferContainer),
      (∀ I, LocalFrame b I → I s → I t) ∧ b.Accepts build t.db.backend (.query sql) c ∧
      t'.db.backend = b.after t.db.backend (.query sql) c ∧ t'.db.parser = Parser.new ∧
      ∀ I, SteadyFrame build b I IsLookup → I t' → I s' := by
  cases stack with
  | zero => simp [execInternal, Stateful.lift] at h
  | succ stack =>
    rw [execInternal, Stateful.bind_eq_ok] at h
    obtain ⟨t, u, hblob, h⟩ := h
    rw [Stateful.bind_eq_ok] at h
    obtain ⟨t', result, hexchange, hfinish⟩ := h
    rw [Stateful.mapErr_eq_ok] at hexchange
    have hlocal (I : Session σ → Prop) (hI : LocalFrame b I) (hs : I s) : I t := by
      have hkept := hI.keeps_handleBlobInput (options.getD .default).blob s hs
      rw [hblob] at hkept
      exact hkept
    have hparser' : t.db.parser = Parser.new := by
      refine hlocal (fun t => t.db.parser = Parser.new) ?_ hparser
      exact ⟨fun _ h => h, fun _ _ h => h, fun _ h => h, fun _ _ _ _ _ h => h⟩
    let opts := execOptions (options.getD .default)
    have hbackend : (execProtocol build b (.query sql) opts t).1.db.backend
        = b.after t.db.backend (.query sql) opts.dataTransferContainer :=
      execProtocol_backend _ _ _
    have hdrained := execProtocol_drained build hwf (.query sql) opts hparser'
    rw [hexchange] at hbackend hdrained
    refine ⟨t, t', opts.dataTransferContainer, hlocal, ?_, hbackend, hdrained, ?_⟩
    · exact execProtocol_accepts hwf rfl hparser' hexchange
    · intro I hI ht'
      have hkept : I (finishExec build b (execInternal build b stack) result.messages options t').1 :=
        hI.keeps_finishExec hI.keeps_lookup result.messages options t' ht'
      rw [hfinish] at hkept
      exact hkept

end Session

/-! ## A backend that follows the rules -/

/-- The state of a backend with one table, into which `INSERT` puts a row. -/
structure OneTable where
  status : BlockStatus
  ended : ℕ
  pending : List ℕ
  committed : List ℕ
deriving DecidableEq, Repr

namespace OneTable

/-- An accepted command. -/
def completed (tag : String) : Bytes :=
  [Serialize.frame codeCommandComplete (Serialize.cstring tag), readyFrame].flatten

/-- A rejected command. -/
def failed : Bytes := [errorFrame, readyFrame].flatten

/-- The session leaves its block. -/
def leave (s : OneTable) (committed : List ℕ) : OneTable :=
  { status := .idle, ended := s.ended + 1, pending := [], committed }

/-- The commands it understands. -/
inductive Command where
  | begin
  | commit
  | rollback
  | insert
  | checkpoint
  | other
deriving DecidableEq

def classify (message : Bytes) : Command :=
  if message = (Request.query "BEGIN").bytes then .begin
  else if message = (Request.query "COMMIT").bytes then .commit
  else if message = (Request.query "ROLLBACK").bytes then .rollback
  else if message = (Request.query "INSERT").bytes then .insert
  else if message = (Request.query "CHECKPOINT").bytes then .checkpoint
  else .other

/-- The state after a command, and its tag if it is accepted. -/
def run (s : OneTable) : Command → OneTable × Option String
  | .begin =>
    match s.status with
    | .aborted => (s, none)
    | _ => ({ s with status := .active }, some "BEGIN")
  | .commit =>
    match s.status with
    | .idle => (s, some "COMMIT")
    | .active => (s.leave (s.committed ++ s.pending), some "COMMIT")
    | .aborted => (s.leave s.committed, some "ROLLBACK")
  | .rollback =>
    match s.status with
    | .idle => (s, some "ROLLBACK")
    | _ => (s.leave s.committed, some "ROLLBACK")
  | .insert =>
    match s.status with
    | .idle => ({ s with committed := s.committed ++ [1] }, some "INSERT 0 1")
    | .active => ({ s with pending := s.pending ++ [1] }, some "INSERT 0 1")
    | .aborted => (s, none)
  | .checkpoint =>
    match s.status with
    | .aborted => (s, none)
    | _ => (s, some "CHECKPOINT")
  | .other =>
    match s.status with
    | .active => ({ s with status := .aborted }, none)
    | _ => (s, none)

/-- The answer to a command. -/
def answer : Option String → Bytes
  | some tag => completed tag
  | none => failed

def backend : Backend OneTable :=
  .answering fun s message =>
    let r := s.run (classify message)
    (r.1, .ok (answer r.2))

def view : TransactionView OneTable ℕ where
  status := status
  ended := ended
  pending := pending
  committed := committed
  unnamed _ := none

/-- The tags of accepted commands. -/
def tags : List String := ["BEGIN", "COMMIT", "ROLLBACK", "INSERT 0 1", "CHECKPOINT"]

lemma run_tag (s : OneTable) (command : Command) :
    ∀ tag, (s.run command).2 = some tag → tag ∈ tags := by
  unfold run
  cases command <;> cases s.status <;> simp [tags]

lemma wellFormed_completed : ∀ tag ∈ tags, WellFormedResponse (completed tag) := by
  have hframes : ∀ tag ∈ tags, ∀ f ∈
      [Serialize.frame codeCommandComplete (Serialize.cstring tag), readyFrame],
      backendFraming.IsFrame f ∧ (frameMessage ⟨false⟩ f).isSome := by decide
  intro tag htag
  exact wellFormedResponse_of_frames ⟨false⟩ (fun f hf => (hframes tag htag f hf).1)
    fun f hf => (hframes tag htag f hf).2

lemma wellFormed_failed : WellFormedResponse failed :=
  wellFormedResponse_of_frames ⟨false⟩ (by decide) (by decide)

lemma accepted_completed : ∀ tag ∈ tags, ¬ HasErrorResponse ⟨false⟩ (completed tag) := by
  decide +kernel

lemma rejected_failed : HasErrorResponse ⟨false⟩ failed := by
  decide +kernel

lemma after_eq (s : OneTable) (request : Request) (c : Option DataTransferContainer) :
    backend.after s request c = (s.run (classify request.bytes)).1 := rfl

lemma response_eq (s : OneTable) (request : Request) (c : Option DataTransferContainer) :
    backend.response s request c = .ok (answer (s.run (classify request.bytes)).2) := rfl

lemma accepts_iff (s : OneTable) (request : Request) (c : Option DataTransferContainer) :
    backend.Accepts ⟨false⟩ s request c ↔ (s.run (classify request.bytes)).2.isSome := by
  unfold Backend.Accepts
  rw [response_eq]
  have htag := run_tag s (classify request.bytes)
  cases hr : (s.run (classify request.bytes)).2 with
  | none => simpa [answer] using rejected_failed
  | some tag => simpa [answer] using accepted_completed tag (htag tag hr)

lemma rejects_iff (s : OneTable) (request : Request) (c : Option DataTransferContainer) :
    backend.Rejects ⟨false⟩ s request c ↔ (s.run (classify request.bytes)).2 = none := by
  unfold Backend.Rejects
  rw [response_eq]
  have htag := run_tag s (classify request.bytes)
  cases hr : (s.run (classify request.bytes)).2 with
  | none => simpa [answer] using rejected_failed
  | some tag => simpa [answer] using accepted_completed tag (htag tag hr)

/-- A query is known by its text. -/
lemma query_bytes_inj {a c : String} :
    (Request.query a).bytes = (Request.query c).bytes ↔ a = c := by
  constructor
  · intro h
    unfold Request.bytes Serialize.query Serialize.frame Serialize.cstring at h
    have hbody := List.append_inj_right (List.cons.inj h).2 (by simp [Serialize.length])
    exact utf8_injective (List.append_inj_left' hbody rfl)
  · rintro rfl
    rfl

/-- A text is told from the commands by its first letter. -/
lemma ne_of_head {sql : String} (h : sql.toList.head? ∈ [some 'S', some 'L', some 'U']) :
    sql ≠ "BEGIN" ∧ sql ≠ "COMMIT" ∧ sql ≠ "ROLLBACK" ∧ sql ≠ "INSERT" := by
  refine ⟨?_, ?_, ?_, ?_⟩ <;> rintro rfl <;> revert h <;> decide

lemma plain_ne {sql : String} (h : PlainStatement sql) :
    sql ≠ "BEGIN" ∧ sql ≠ "COMMIT" ∧ sql ≠ "ROLLBACK" ∧ sql ≠ "INSERT" := by
  have hstart (text rest : String) (hne : text.toList ≠ []) :
      (text ++ rest).toList.head? = text.toList.head? := by
    rw [String.toList_append, List.head?_append_of_ne_nil _ hne]
  cases h with
  | checkpoint => decide
  | arrayTypes => decide
  | extensionNames => decide
  | lookup oid =>
    refine ne_of_head ?_
    unfold Session.arrayTypeLookupSql
    rw [String.append_assoc, String.append_assoc, String.append_assoc, String.append_assoc, hstart]
    · decide
    · decide
  | listen channel =>
    apply ne_of_head
    show ("LISTEN " ++ quoteIdentifier channel).toList.head? ∈ _
    rw [hstart _ _ (by decide)]
    decide
  | unlisten channel =>
    apply ne_of_head
    show ("UNLISTEN " ++ quoteIdentifier channel).toList.head? ∈ _
    rw [hstart _ _ (by decide)]
    decide
  | setRole role =>
    apply ne_of_head
    show ("SET ROLE " ++ quoteIdentifier role).toList.head? ∈ _
    rw [hstart _ _ (by decide)]
    decide

/-- The client's own statements do not touch the block. -/
lemma classify_plain {sql : String} (h : PlainStatement sql) :
    classify (Request.query sql).bytes = .checkpoint ∨
      classify (Request.query sql).bytes = .other := by
  have hnot := plain_ne h
  obtain ⟨hbegin, hcommit, hrollback, hinsert⟩ := hnot
  simp only [classify, query_bytes_inj, hbegin, hcommit, hrollback, hinsert, if_false]
  by_cases hcheck : sql = "CHECKPOINT" <;> simp [hcheck]

lemma classify_parse (sql : String) (types : List Int32) :
    classify (Request.parseDescribe sql types).bytes = .other := by
  have hne (text : String) :
      (Request.parseDescribe sql types).bytes ≠ (Request.query text).bytes := by
    intro h
    unfold Request.bytes at h
    simp [Serialize.parse, Serialize.query, Serialize.frame, Serialize.codeParse,
      Serialize.codeQuery] at h
  simp only [classify, hne, if_false]

/-- **The backend follows the rules.** -/
theorem transactionRules : TransactionRules ⟨false⟩ backend view where
  wellFormed s request c data h := by
    rw [response_eq] at h
    cases h
    have htag := run_tag s (classify request.bytes)
    cases hr : (s.run (classify request.bytes)).2 with
    | none => exact wellFormed_failed
    | some tag => exact wellFormed_completed tag (htag tag hr)
  ended_mono s request c := by
    rw [after_eq]
    show s.ended ≤ (s.run (classify request.bytes)).1.ended
    unfold run
    cases classify request.bytes <;> cases s.status <;> simp [leave]
  block s request c hopen hended := by
    rw [after_eq] at hended ⊢
    revert hopen hended
    show s.status ≠ .idle → (s.run (classify request.bytes)).1.ended = s.ended → _ ∧ _
    unfold view run
    cases classify request.bytes <;> cases hs : s.status <;> simp [leave, hs]
  begin_accepted s c h := by
    rw [accepts_iff] at h
    rw [after_eq]
    have hclass : classify (Request.query "BEGIN").bytes = .begin := by decide
    rw [hclass] at h ⊢
    revert h
    unfold view run
    cases s.status <;> simp
  statement_rejected s sql c hactive h hended := by
    rw [rejects_iff] at h
    rw [after_eq] at hended ⊢
    revert h hended hactive
    unfold view run
    cases classify (Request.query sql).bytes <;> cases hs : s.status <;> simp [leave, hs]
  commit_active s c hactive h := by
    have hclass : classify (Request.query "COMMIT").bytes = .commit := by decide
    rw [after_eq, hclass]
    revert hactive
    unfold view run
    cases hs : s.status <;> simp [leave, hs]
  commit_aborted s c haborted := by
    have hclass : classify (Request.query "COMMIT").bytes = .commit := by decide
    rw [after_eq, response_eq, hclass]
    have hrun : s.run .commit = (s.leave s.committed, some "ROLLBACK") := by
      unfold run
      rw [show s.status = .aborted from haborted]
    rw [hrun]
    refine ⟨rfl, fun data hdata => ?_⟩
    cases hdata
    refine ⟨accepted_completed "ROLLBACK" (by decide), 13, ?_⟩
    show .commandComplete ⟨13, "ROLLBACK"⟩ ∈ responseMessages ⟨false⟩ (completed "ROLLBACK")
    decide +kernel
  end_answered s sql c data hsql hdata := by
    have hclass : classify (Request.query sql).bytes = .commit ∨
        classify (Request.query sql).bytes = .rollback := by
      rcases hsql with rfl | rfl
      · exact .inl (by decide)
      · exact .inr (by decide)
    rw [after_eq]
    unfold view run
    rcases hclass with hclass | hclass <;> rw [hclass] <;>
      cases hs : s.status <;> simp [leave, hs]
  plain s sql c hsql := by
    rw [after_eq]
    unfold view run
    rcases classify_plain hsql with hclass | hclass <;> rw [hclass] <;>
      cases hs : s.status <;> simp [hs]
  parse s sql types c := by
    rw [accepts_iff, after_eq, classify_parse]
    unfold view run
    cases hs : s.status <;> simp [hs]
  bind_plain s sql values c h := by simp [view] at h
  shutdown s h := h
  restart s h := h
  createBlobDir s := ⟨rfl, rfl, rfl, rfl, rfl⟩
  writeBlob s bytes := ⟨rfl, rfl, rfl, rfl, rfl⟩
  removeBlob s := ⟨rfl, rfl, rfl, rfl, rfl⟩

end OneTable

end PgliteOxide.Pglite
