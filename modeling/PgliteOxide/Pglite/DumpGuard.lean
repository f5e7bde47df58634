import PgliteOxide.Pglite.Transactions

/-!
# The guard of physical dumps

`archive_quiesced_pgdata` is guarded by the client's own flag, which only `transaction` keeps.
The flag is a sound guard as long as no other operation leaves a block open and no `BEGIN` that
failed has opened one. `Guarded` is the invariant behind this: with the flag down, the session
is outside a block.
-/

namespace PgliteOxide.Pglite

open Lib Protocol

namespace Session

variable {σ E T : Type} {build : Build} {b : Backend σ} {stack : ℕ}
  {view : TransactionView σ E}

/-! ## The client's own statements -/

/-- Requests with a statement the client issues on its own behalf. -/
def IsPlain (request : Request) : Prop := ∃ sql, PlainStatement sql ∧ request = .query sql

/-- Nothing is left in the parser, the flag is down, no block is open, and none was open when the
backend was shut down. -/
structure Quiet (view : TransactionView σ E) (s : Session σ) : Prop where
  parser : s.db.parser = Parser.new
  flag : s.db.inTransaction = false
  idle : view.status s.db.backend = .idle
  quiesced : ∀ x ∈ s.quiesced, view.status x = .idle

/-- The client's own statements keep a quiet session quiet. -/
lemma steady_quiet (rules : TransactionRules build b view) :
    Steady build b (Quiet view) IsPlain where
  createBlobDir s h :=
    ⟨h.parser, h.flag, (rules.createBlobDir s.db.backend).status.trans h.idle, h.quiesced⟩
  writeBlob s bytes h :=
    ⟨h.parser, h.flag, (rules.writeBlob s.db.backend bytes).status.trans h.idle, h.quiesced⟩
  removeBlob s h :=
    ⟨h.parser, h.flag, (rules.removeBlob s.db.backend).status.trans h.idle, h.quiesced⟩
  fields s db h hbackend hparser hflag _ _ _ := by
    refine ⟨hparser.trans h.parser, hflag.trans h.flag, ?_, h.quiesced⟩
    show view.status db.backend = .idle
    rw [hbackend]
    exact h.idle
  lookup oid := ⟨_, .lookup oid, rfl⟩
  exchange request hplain options s h := by
    obtain ⟨sql, hsql, rfl⟩ := hplain
    have hparser := execProtocol_drained build rules.wellFormed (.query sql) options h.parser
    obtain ⟨parser, e, hstate⟩ := execProtocol_state build b (.query sql) options s
    rw [hstate] at hparser ⊢
    exact ⟨hparser, h.flag, (rules.plain _ sql _ hsql).2.2 h.idle, h.quiesced⟩

/-- What every request keeps: the empty parser and the record of shutdowns. -/
lemma steady_record (rules : TransactionRules build b view) (quiesced : List σ) :
    Steady build b (fun s => s.db.parser = Parser.new ∧ s.quiesced = quiesced)
      fun _ => True where
  createBlobDir _ h := h
  writeBlob _ _ h := h
  removeBlob _ h := h
  fields _ _ h _ hparser _ _ _ _ := ⟨hparser.trans h.1, h.2⟩
  lookup _ := trivial
  exchange request _ options s h := by
    have hparser := execProtocol_drained build rules.wellFormed request options h.1
    obtain ⟨parser, e, hstate⟩ := execProtocol_state build b request options s
    rw [hstate] at hparser ⊢
    exact ⟨hparser, h.2⟩

/-- An accepted `COMMIT` or `ROLLBACK` leaves no block open. -/
lemma execInternal_end_idle (rules : TransactionRules build b view) {sql : String}
    (hsql : sql = "COMMIT" ∨ sql = "ROLLBACK") {s s' : Session σ} {results : List Results}
    (hparser : s.db.parser = Parser.new)
    (h : execInternal build b stack sql none s = (s', .ok results)) :
    view.status s'.db.backend = .idle := by
  obtain ⟨t, t', c, -, ⟨data, hdata, -⟩, hbackend, -, hrest⟩ :=
    execInternal_accepted rules.wellFormed hparser h
  have hidle : view.status t'.db.backend = .idle := by
    rw [hbackend]
    exact rules.end_answered t.db.backend sql c data hsql hdata
  refine hrest (fun s => view.status s.db.backend = .idle) (Steady.frame ?_) hidle
  refine steady_view rules (fun oid => ⟨oid, rfl⟩) (fun x x' h hx => h.status.trans hx) ?_
  rintro x _ c ⟨oid, rfl⟩ hx
  exact (rules.plain x _ c (.lookup oid)).2.2 hx

/-! ## Transactions -/

/-- The methods of a closed `Transaction` send nothing. -/
lemma whileOpen_closed {α : Type} {m : Method σ α} {closed closed' : Bool} {s s' : Session σ}
    {r : Except ClientError α} (hclosed : closed = true → view.status s.db.backend = .idle)
    (h : whileOpen closed m s = (s', .ok (closed', r))) :
    closed' = true → view.status s'.db.backend = .idle := by
  unfold whileOpen at h
  cases closed with
  | true =>
    cases h
    exact hclosed
  | false =>
    simp only [Bool.false_eq_true, if_false] at h
    rw [Stateful.bind_eq_ok] at h
    obtain ⟨t, a, -, hpure⟩ := h
    cases hpure
    simp

/-- A `Transaction` is closed by an accepted `COMMIT` or `ROLLBACK` only. -/
lemma endInternal_closed (rules : TransactionRules build b view) {sql : String}
    (hsql : sql = "COMMIT" ∨ sql = "ROLLBACK") {closed closed' : Bool} {s s' : Session σ}
    {r : Except ClientError Unit} (hparser : s.db.parser = Parser.new)
    (hclosed : closed = true → view.status s.db.backend = .idle)
    (h : endInternal build b stack sql closed s = (s', .ok (closed', r))) :
    closed' = true → view.status s'.db.backend = .idle := by
  unfold endInternal at h
  rw [Stateful.bind_eq_ok] at h
  obtain ⟨t, ⟨closed₁, result⟩, hexec, hpure⟩ := h
  cases result with
  | error err =>
    cases hpure
    exact whileOpen_closed hclosed hexec
  | ok results =>
    cases hpure
    intro _
    unfold whileOpen at hexec
    cases closed with
    | true => simp [Pure.pure] at hexec
    | false =>
      simp only [Bool.false_eq_true, if_false] at hexec
      rw [Stateful.bind_eq_ok] at hexec
      obtain ⟨t', a, hattempt, hpure⟩ := hexec
      cases hpure
      rw [Stateful.attempt_eq_ok] at hattempt
      exact execInternal_end_idle rules hsql hparser hattempt

/-- One call of a callback. -/
lemma runTxOp_closed (rules : TransactionRules build b view) {op : TxOp} {closed closed' : Bool}
    {s s' : Session σ} {answer : TxAnswer op} (hparser : s.db.parser = Parser.new)
    (hclosed : closed = true → view.status s.db.backend = .idle)
    (h : runTxOp build b stack closed op s = (s', .ok (closed', answer))) :
    closed' = true → view.status s'.db.backend = .idle := by
  cases op with
  | query sql params options => exact whileOpen_closed hclosed h
  | exec sql options => exact whileOpen_closed hclosed h
  | refreshArrayTypes => exact whileOpen_closed hclosed h
  | commit => exact endInternal_closed rules (.inl rfl) hparser hclosed h
  | rollback => exact endInternal_closed rules (.inr rfl) hparser hclosed h
  | isClosed =>
    cases h
    exact hclosed

/-- **A callback whose `Transaction` is closed has left no block open.** -/
lemma runCallback_closed (rules : TransactionRules build b view) (callback : Callback T)
    {closed closed' : Bool} {s s' : Session σ} {result : Except ClientError T}
    (hparser : s.db.parser = Parser.new)
    (hclosed : closed = true → view.status s.db.backend = .idle)
    (h : runCallback build b stack closed callback s = (s', .ok (closed', result))) :
    closed' = true → view.status s'.db.backend = .idle := by
  induction callback generalizing closed s with
  | ret value =>
    cases h
    exact hclosed
  | fail err =>
    cases h
    exact hclosed
  | call op next ih =>
    unfold runCallback at h
    rw [Stateful.bind_eq_ok] at h
    obtain ⟨t, ⟨closed₁, answer⟩, hop, hnext⟩ := h
    have hdrained : (runTxOp build b stack closed op s).1.db.parser = Parser.new :=
      (steady_drained rules).frame.keeps_runTxOp (fun _ => trivial) closed op s hparser
    rw [hop] at hdrained
    exact ih answer hdrained (runTxOp_closed rules hparser hclosed hop) hnext

/-- With the flag down, no block is open; and none was open when the backend was shut down. -/
structure Guarded (view : TransactionView σ E) (s : Session σ) : Prop where
  parser : s.db.parser = Parser.new
  guard : s.db.inTransaction = false → view.status s.db.backend = .idle
  quiesced : ∀ x ∈ s.quiesced, view.status x = .idle

lemma Quiet.guarded {s : Session σ} (h : Quiet view s) : Guarded view s :=
  ⟨h.parser, fun _ => h.idle, h.quiesced⟩

lemma Guarded.quiet {s : Session σ} (h : Guarded view s) (hflag : s.db.inTransaction = false) :
    Quiet view s :=
  ⟨h.parser, hflag, h.guard hflag, h.quiesced⟩

/-- With the flag up, the guard has nothing to say. -/
lemma guarded_of_flag {s : Session σ} (hparser : s.db.parser = Parser.new)
    (hflag : s.db.inTransaction = true) (hquiesced : ∀ x ∈ s.quiesced, view.status x = .idle) :
    Guarded view s :=
  ⟨hparser, fun h => absurd (hflag.symm.trans h) (by simp), hquiesced⟩

/-- A `BEGIN` that does not return `Ok` opens no block. -/
def BeginOk (build : Build) (b : Backend σ) (stack : ℕ) (view : TransactionView σ E)
    (s : Session σ) : Prop :=
  view.status s.db.backend = .idle → (beginTransaction build b stack s).2.toOption = none →
    view.status (beginTransaction build b stack s).1.db.backend = .idle

/-- What `BEGIN` keeps. -/
lemma keeps_beginTransaction (rules : TransactionRules build b view) (quiesced : List σ) :
    (beginTransaction build b stack).Keeps
      fun s => s.db.parser = Parser.new ∧ s.quiesced = quiesced := by
  refine keeps_checkReady.bind fun _ => Stateful.Keeps.bind ?_ fun _ => ?_
  · exact (steady_record rules quiesced).frame.keeps_execInternal trivial none
  · exact .modify fun s hs => hs

/-- The end of a transaction whose block is closed when its flag goes down. -/
lemma endTransaction_guarded (rules : TransactionRules build b view) {s : Session σ}
    (hparser : s.db.parser = Parser.new) (hflag : s.db.inTransaction = true)
    (hquiesced : ∀ x ∈ s.quiesced, view.status x = .idle) {closed : Bool}
    (hclosed : closed = true → view.status s.db.backend = .idle)
    (result : Except ClientError T) :
    Guarded view (endTransaction build b stack closed result s).1 := by
  have hreturn (t : Session σ) (hrecord : t.db.parser = Parser.new ∧ t.quiesced = s.quiesced)
      (hidle : view.status t.db.backend = .idle) : Guarded view (returnResult result t).1 := by
    have hstate : (returnResult result t).1
        = { t with db := { t.db with inTransaction := false } } := by
      cases result <;> rfl
    rw [hstate]
    refine ⟨hrecord.1, fun _ => hidle, ?_⟩
    show ∀ x ∈ t.quiesced, view.status x = .idle
    rw [hrecord.2]
    exact hquiesced
  have hsql : endCommand result = "COMMIT" ∨ endCommand result = "ROLLBACK" := by
    cases result <;> simp [endCommand]
  unfold endTransaction
  cases closed with
  | true =>
    have hfinish : finishTransaction build b stack (endCommand result) true s = (s, .ok ()) := rfl
    rw [Stateful.bind_of_ok hfinish]
    exact hreturn s ⟨hparser, rfl⟩ (hclosed rfl)
  | false =>
    have hkept : (execInternal build b stack (endCommand result) none).Keeps _ :=
      (steady_record rules s.quiesced).frame.keeps_execInternal trivial none
    have hrecord := hkept s ⟨hparser, rfl⟩
    have hup := execInternal_flag build b stack (endCommand result) s
    rcases hexec : execInternal build b stack (endCommand result) none s with ⟨s', r | e | _⟩ <;>
      rw [hexec] at hrecord hup
    · have hfinish : finishTransaction build b stack (endCommand result) false s = (s', .ok ()) :=
        Stateful.bind_of_ok hexec
      rw [Stateful.bind_of_ok hfinish]
      exact hreturn s' hrecord (execInternal_end_idle rules hsql hparser hexec)
    · have hfinish : finishTransaction build b stack (endCommand result) false s = (s', .err e) :=
        Stateful.bind_of_err hexec
      rw [Stateful.bind_of_err hfinish]
      exact guarded_of_flag hrecord.1 (hup.trans hflag) (by rw [hrecord.2]; exact hquiesced)
    · have hfinish : finishTransaction build b stack (endCommand result) false s = (s', .panic) :=
        Stateful.bind_of_panic hexec
      rw [Stateful.bind_of_panic hfinish]
      exact guarded_of_flag hrecord.1 (hup.trans hflag) (by rw [hrecord.2]; exact hquiesced)

/-- **A transaction keeps the guard sound**, whatever its callback does, as long as its `BEGIN`
opens no block when it fails. -/
lemma transaction_guarded (rules : TransactionRules build b view) (callback : Callback T)
    {s : Session σ} (h : Guarded view s) (hbegin : BeginOk build b stack view s) :
    Guarded view (transaction build b stack callback s).1 := by
  rw [transaction_eq]
  have hkept : (beginTransaction build b stack).Keeps _ := keeps_beginTransaction rules s.quiesced
  have hrecord := hkept s ⟨h.parser, rfl⟩
  unfold BeginOk at hbegin
  have hflag := beginTransaction_flag build b stack s
  -- without `Ok` from `BEGIN` neither the flag nor the block has changed
  have hfailed {s₁ : Session σ} (hrecord : s₁.db.parser = Parser.new ∧ s₁.quiesced = s.quiesced)
      (hflag : s₁.db.inTransaction = s.db.inTransaction)
      (hidle : view.status s.db.backend = .idle → view.status s₁.db.backend = .idle) :
      Guarded view s₁ :=
    ⟨hrecord.1, fun hdown => hidle (h.guard (hflag.symm.trans hdown)), by
      rw [hrecord.2]
      exact h.quiesced⟩
  rcases hb : beginTransaction build b stack s with ⟨s₁, u | e | _⟩ <;>
    rw [hb] at hrecord hbegin hflag
  · rw [Stateful.bind_of_ok hb]
    have hraised : s₁.db.inTransaction = true := by
      rcases hflag with ⟨-, hraised⟩ | ⟨hnot, -⟩
      · exact hraised
      · exact absurd rfl (hnot u)
    have hkept : (runCallback build b stack false callback).Keeps _ :=
      (steady_record rules s.quiesced).frame.keeps_runCallback (fun _ => trivial) callback false
    have hrecord₂ := hkept s₁ hrecord
    have hflag₂ := runCallback_flag build b stack callback s₁
    rcases hc : runCallback build b stack false callback s₁ with ⟨s₂, r | e | _⟩ <;>
      rw [hc] at hrecord₂ hflag₂
    · rw [Stateful.bind_of_ok hc]
      refine endTransaction_guarded rules hrecord₂.1 (hflag₂.trans hraised) ?_ ?_ r.2
      · rw [hrecord₂.2]
        exact h.quiesced
      · exact runCallback_closed rules callback hrecord.1 (by simp) hc
    · exact absurd (by rw [hc]) (runCallback_ne_err build b stack callback false s₁ e)
    · rw [Stateful.bind_of_panic hc]
      exact guarded_of_flag hrecord₂.1 (hflag₂.trans hraised) (by rw [hrecord₂.2]; exact h.quiesced)
  · rw [Stateful.bind_of_err hb]
    refine hfailed hrecord ?_ fun hidle => hbegin hidle rfl
    rcases hflag with ⟨hok, -⟩ | ⟨-, hsame⟩
    · cases hok
    · exact hsame
  · rw [Stateful.bind_of_panic hb]
    refine hfailed hrecord ?_ fun hidle => hbegin hidle rfl
    rcases hflag with ⟨hok, -⟩ | ⟨-, hsame⟩
    · cases hok
    · exact hsame

/-! ## Dumps -/

/-- With the flag up, the guard refuses and nothing happens. -/
lemma archiveQuiescedPgdata_refuses {s : Session σ} (hflag : s.db.inTransaction = true)
    (operation : String) (format : DataDirArchiveFormat) :
    archiveQuiescedPgdata build b stack operation format s
      = (s, .err (.msg s!"{operation} cannot run while a direct transaction is active")) := by
  apply Stateful.bind_of_err
  unfold checkpointBackendForPhysicalSnapshot
  have hdb : (getDb s : Session σ × Outcome ClientError (Instance σ)) = (s, .ok s.db) := rfl
  rw [Stateful.bind_of_ok hdb, if_pos hflag]
  rfl

/-- A dump of a quiet session finds no block open, and leaves the session quiet. -/
lemma keeps_archive_quiet (rules : TransactionRules build b view) (operation : String)
    (format : DataDirArchiveFormat) :
    (archiveQuiescedPgdata build b stack operation format).Keeps (Quiet view) := by
  have hsteady := steady_quiet rules
  have hplain {sql : String} (h : PlainStatement sql) : IsPlain (.query sql) := ⟨sql, h, rfl⟩
  have hclosed : (setDb fun db => { db with ready := false, closed := true } :
      Method σ Unit).Keeps (Quiet view) :=
    fun s h => ⟨h.parser, h.flag, h.idle, h.quiesced⟩
  have hquiesce : (quiesceBackend b).Keeps (Quiet view) := by
    refine Stateful.Keeps.bind (.modify fun s h => ?_) fun _ => keeps_callBackend fun s h => ?_
    · refine ⟨h.parser, h.flag, h.idle, ?_⟩
      simp only [List.forall_mem_append, List.forall_mem_singleton]
      exact ⟨h.quiesced, h.idle⟩
    · exact ⟨h.parser, h.flag, rules.shutdown _ h.idle, h.quiesced⟩
  refine Stateful.Keeps.bind ?_ fun _ => (keeps_context hquiesce).bind fun _ => ?_
  · refine keeps_getDb.bind fun db => keeps_bail.ite ?_
    exact (keeps_context (hsteady.frame.keeps_exec (hplain .checkpoint) none)).bind fun _ => .pure _
  refine keeps_getDb.bind fun db => Stateful.Keeps.bind (.attempt (keeps_context ?_)) fun r => ?_
  · refine (keeps_callBackend fun s h => ?_).bind fun _ => ?_
    · exact ⟨h.parser, h.flag, rules.restart _ h.idle, h.quiesced⟩
    · exact hsteady.frame.keeps_restoreSessionState (fun channel => hplain (.listen channel))
        fun role => hplain (.setRole role)
  · cases b.dumpPgdataArchive db.backend format with
    | ok archive =>
      cases r with
      | ok u => exact .pure _
      | error err => exact hclosed.bind fun _ => .fail _
    | error err =>
      cases r with
      | ok u => exact .fail _
      | error restartErr => exact hclosed.bind fun _ => .fail _

/-- **A dump keeps the guard sound.** -/
lemma dump_guarded (rules : TransactionRules build b view) (format : DataDirArchiveFormat) :
    (dumpDataDirWithFormat build b stack format).Keeps (Guarded view) := by
  refine keeps_checkReady.bind fun _ => ?_
  intro s h
  cases hflag : s.db.inTransaction with
  | true =>
    rw [archiveQuiescedPgdata_refuses hflag]
    exact h
  | false => exact (keeps_archive_quiet rules _ format s (h.quiet hflag)).guarded

/-- A query without parameters is parsed and executed with nothing in between. -/
lemma queryMessages_nil (sql : String) (options : QueryOptions) :
    queryMessages build b stack sql [] options
      = parseAndDescribe build b sql options.paramTypes (execOptions options) >>= fun described =>
          execProtocol build b (.bindExecute []) (execOptions options) >>= fun result =>
            pure (described ++ result.messages) := rfl

/-- An exchange after which no block is open. -/
lemma quiet_exchange (rules : TransactionRules build b view) {request : Request}
    {options : ExecProtocolOptions} {s : Session σ} (h : Quiet view s)
    (hidle : view.status (b.after s.db.backend request options.dataTransferContainer) = .idle) :
    Quiet view (execProtocol build b request options s).1 := by
  have hparser := execProtocol_drained build rules.wellFormed request options h.parser
  obtain ⟨parser, e, hstate⟩ := execProtocol_state build b request options s
  rw [hstate] at hparser ⊢
  exact ⟨hparser, h.flag, hidle, h.quiesced⟩

/-- A plain statement without parameters keeps a quiet session quiet: what is executed is the
statement that was parsed. -/
lemma keeps_queryMessages_quiet (rules : TransactionRules build b view) {sql : String}
    (hsql : PlainStatement sql) (options : QueryOptions) :
    (queryMessages build b stack sql [] options).Keeps (Quiet view) := by
  rw [queryMessages_nil]
  intro s h
  have hparsed : Quiet view
      (parseAndDescribe build b sql options.paramTypes (execOptions options) s).1 := by
    rw [parseAndDescribe_state]
    exact quiet_exchange rules h ((rules.parse _ _ _ _).1 h.idle)
  rcases hp : parseAndDescribe build b sql options.paramTypes (execOptions options) s with
    ⟨s₁, described | e | _⟩ <;> rw [hp] at hparsed
  · rw [Stateful.bind_of_ok hp]
    obtain ⟨result, hsent, -⟩ := parseAndDescribe_ok hp
    have hbackend : (execProtocol build b (.parseDescribe sql options.paramTypes)
        (execOptions options) s).1.db.backend = _ := execProtocol_backend _ _ _
    rw [hsent] at hbackend
    have hunnamed : view.unnamed s₁.db.backend = some sql := by
      rw [hbackend]
      exact (rules.parse _ _ _ _).2 (execProtocol_accepts rules.wellFormed rfl h.parser hsent)
    have hbound : Quiet view (execProtocol build b (.bindExecute []) (execOptions options) s₁).1 :=
      quiet_exchange rules hparsed (rules.bind_plain _ _ _ _ hunnamed hsql hparsed.idle)
    rcases hb : execProtocol build b (.bindExecute []) (execOptions options) s₁ with
      ⟨s₂, r | e | _⟩ <;> rw [hb] at hbound
    · rw [Stateful.bind_of_ok hb]
      exact hbound
    · rw [Stateful.bind_of_err hb]
      exact hbound
    · rw [Stateful.bind_of_panic hb]
      exact hbound
  · rw [Stateful.bind_of_err hp]
    exact hparsed
  · rw [Stateful.bind_of_panic hp]
    exact hparsed

/-- Asking for the installed extensions keeps the guard sound. -/
lemma extensionNames_guarded (rules : TransactionRules build b view) :
    (bundledExtensionsInDatabase build b stack).Keeps (Guarded view) := by
  refine Stateful.Keeps.bind ?_ fun _ => .pure _
  intro s h
  cases hflag : s.db.inTransaction with
  | true =>
    have hkept : (query build b stack extensionNamesSql [] none).Keeps _ :=
      (steady_record rules s.quiesced).frame.keeps_query trivial (fun _ => trivial) []
    have hup : (query build b stack extensionNamesSql [] none).Keeps _ :=
      (steady_flag build b true).frame.keeps_query trivial (fun _ => trivial) []
    have hrecord := hkept s ⟨h.parser, rfl⟩
    exact guarded_of_flag hrecord.1 (hup s hflag) (by rw [hrecord.2]; exact h.quiesced)
  | false =>
    have hsteady := steady_quiet rules
    have hquery : (query build b stack extensionNamesSql [] none).Keeps (Quiet view) := by
      refine keeps_checkReady.bind fun _ => (hsteady.frame.keeps_handleBlobInput _).bind fun _ => ?_
      refine (keeps_queryMessages_quiet rules .extensionNames _).mapErr.bind fun messages => ?_
      refine (hsteady.frame.keeps_finishExec hsteady.frame.keeps_lookup messages none).bind
        fun parsed => ?_
      split
      · exact keeps_bail
      · exact .pure _
    exact (hquery s (h.quiet hflag)).guarded

/-! ## Runs -/

/-- What a step must not do: an operation other than `transaction` must not leave a block open,
and a `BEGIN` of `transaction` that fails must not have opened one. -/
def StepOk (build : Build) (b : Backend σ) (stack : ℕ) (view : TransactionView σ E) :
    Operation → Session σ → Prop
  | .exec sql options, s => view.status s.db.backend = .idle →
    view.status (call build b stack (.exec sql options) s).1.db.backend = .idle
  | .query sql params options, s => view.status s.db.backend = .idle →
    view.status (call build b stack (.query sql params options) s).1.db.backend = .idle
  | .execProtocol message options, s => view.status s.db.backend = .idle →
    view.status (call build b stack (.execProtocol message options) s).1.db.backend = .idle
  | .transaction _ _, s => BeginOk build b stack view s
  | _, _ => True

/-- Every step of a run does what it must. -/
def RunOk (build : Build) (b : Backend σ) (stack : ℕ) (view : TransactionView σ E) :
    List Operation → Session σ → Prop
  | [], _ => True
  | op :: ops, s => StepOk build b stack view op s ∧
    ((call build b stack op s).2 = .panic ∨
      RunOk build b stack view ops (call build b stack op s).1)

/-- An operation that leaves no block open. -/
lemma simple_guarded (rules : TransactionRules build b view) {op : Operation}
    (hop : op.IsSimple) {s : Session σ} (h : Guarded view s)
    (hidle : s.db.inTransaction = false → view.status s.db.backend = .idle →
      view.status (call build b stack op s).1.db.backend = .idle) :
    Guarded view (call build b stack op s).1 := by
  have hkept : (call build b stack op).Keeps _ := (steady_record rules s.quiesced).keeps_call hop
  have hflagKept : (call build b stack op).Keeps _ :=
    (steady_flag build b s.db.inTransaction).keeps_call hop
  have hrecord := hkept s ⟨h.parser, rfl⟩
  have hflag := hflagKept s rfl
  refine ⟨hrecord.1, fun hdown => ?_, by rw [hrecord.2]; exact h.quiesced⟩
  have hdown : s.db.inTransaction = false := hflag.symm.trans hdown
  exact hidle hdown (h.guard hdown)

/-- One step keeps the guard sound. -/
lemma call_guarded (rules : TransactionRules build b view) (op : Operation) {s : Session σ}
    (h : Guarded view s) (hop : StepOk build b stack view op s) :
    Guarded view (call build b stack op s).1 := by
  have hsteady := steady_quiet rules
  have hplain {sql : String} (h : PlainStatement sql) : IsPlain (.query sql) := ⟨sql, h, rfl⟩
  have hsimple {op : Operation} (hop : op.IsSimple)
      (hidle : view.status s.db.backend = .idle →
        view.status (call build b stack op s).1.db.backend = .idle) :
      Guarded view (call build b stack op s).1 :=
    simple_guarded rules hop h fun _ => hidle
  have hquiet {op : Operation} (hop : op.IsSimple)
      (hkeeps : (call build b stack op).Keeps (Quiet view)) :
      Guarded view (call build b stack op s).1 :=
    simple_guarded rules hop h fun hdown _ => (hkeeps s (h.quiet hdown)).idle
  cases op with
  | exec sql options => exact hsimple trivial hop
  | query sql params options => exact hsimple trivial hop
  | execProtocol message options => exact hsimple trivial hop
  | transaction T callback =>
    have hdone := transaction_guarded rules callback h hop
    show Guarded view ((transaction build b stack callback >>= fun _ => pure ()) s).1
    rcases hx : transaction build b stack callback s with ⟨t, v | e | _⟩ <;> rw [hx] at hdone
    · rw [Stateful.bind_of_ok hx]
      exact hdone
    · rw [Stateful.bind_of_err hx]
      exact hdone
    · rw [Stateful.bind_of_panic hx]
      exact hdone
  | refreshArrayTypes =>
    refine hquiet trivial (keeps_checkReady.bind fun _ => ?_)
    exact hsteady.frame.keeps_refreshArrayTypesInternal (hplain .arrayTypes)
  | listen channel callback =>
    refine hquiet trivial (Stateful.Keeps.bind ?_ fun _ => .pure _)
    exact hsteady.keeps_listen (hplain (.listen channel)) callback
  | unlisten handle =>
    exact hquiet trivial (hsteady.keeps_unlisten (hplain (.unlisten handle.channel)))
  | unlistenChannel channel =>
    exact hquiet trivial (hsteady.keeps_unlistenChannel (hplain (.unlisten channel)))
  | onNotification callback =>
    refine hquiet trivial (Stateful.Keeps.bind ?_ fun _ => .pure _)
    exact hsteady.keeps_onNotification callback
  | offNotification handle => exact hquiet trivial (hsteady.keeps_offNotification handle)
  | dumpDataDir format => exact ((dump_guarded rules format).bind fun _ => .pure _) s h
  | tryClone =>
    have hkeeps : (tryClone build b stack).Keeps (Guarded view) := by
      refine (extensionNames_guarded rules).bind fun _ => (dump_guarded rules .tar).bind fun _ => ?_
      split
      · exact .pure _
      · exact .fail _
    exact (hkeeps.bind fun _ => .pure _) s h

/-- **Dump guard.** In every run, on every backend that follows PostgreSQL's rules, in which no
operation other than `transaction` leaves a block open and no failed `BEGIN` of `transaction`
has opened one: the backend is never shut down inside a block, and while one is open
`archive_quiesced_pgdata` returns an error and changes nothing. -/
theorem dump_never_in_block (rules : TransactionRules build b view) (ops : List Operation)
    (s : Session σ) (hparser : s.db.parser = Parser.new)
    (hidle : view.status s.db.backend = .idle) (hstart : s.quiesced = [])
    (hrun : RunOk build b stack view ops s) :
    (∀ x ∈ (run build b stack ops s).quiesced, view.status x = .idle) ∧
    (view.status (run build b stack ops s).db.backend ≠ .idle →
      ∀ operation format, ∃ err,
        archiveQuiescedPgdata build b stack operation format (run build b stack ops s)
          = (run build b stack ops s, .err err)) := by
  have hguarded : ∀ ops (s : Session σ), Guarded view s → RunOk build b stack view ops s →
      Guarded view (run build b stack ops s) := by
    intro ops
    induction ops with
    | nil => exact fun s h _ => h
    | cons op ops ih =>
      intro s h hrun
      have hcall := call_guarded rules op h hrun.1
      have hrest := hrun.2
      rw [run]
      rcases hx : call build b stack op s with ⟨t, v | e | _⟩ <;> rw [hx] at hcall hrest
      · exact ih t hcall (hrest.resolve_left (by simp))
      · exact ih t hcall (hrest.resolve_left (by simp))
      · exact hcall
  have hfinal := hguarded ops s ⟨hparser, fun _ => hidle, by simp [hstart]⟩ hrun
  refine ⟨hfinal.quiesced, fun hopen operation format => ?_⟩
  have hup : (run build b stack ops s).db.inTransaction = true := by
    by_contra hdown
    exact hopen (hfinal.guard (by simpa using hdown))
  exact ⟨_, archiveQuiescedPgdata_refuses hup operation format⟩

/-- Two dumps of an empty table, around a transaction. -/
theorem dump_never_in_block_oneTable :
    (∀ x ∈ (run ⟨false⟩ OneTable.backend 3
        [.dumpDataDir .tar, .transaction Unit insertRow, .dumpDataDir .tarGz]
        emptyTable).quiesced, OneTable.view.status x = .idle) ∧
    (OneTable.view.status (run ⟨false⟩ OneTable.backend 3
        [.dumpDataDir .tar, .transaction Unit insertRow, .dumpDataDir .tarGz]
        emptyTable).db.backend ≠ .idle →
      ∀ operation format, ∃ err,
        archiveQuiescedPgdata ⟨false⟩ OneTable.backend 3 operation format
            (run ⟨false⟩ OneTable.backend 3
              [.dumpDataDir .tar, .transaction Unit insertRow, .dumpDataDir .tarGz] emptyTable)
          = (run ⟨false⟩ OneTable.backend 3
              [.dumpDataDir .tar, .transaction Unit insertRow, .dumpDataDir .tarGz] emptyTable,
            .err err)) := by
  refine dump_never_in_block OneTable.transactionRules _ _ rfl rfl rfl ?_
  refine ⟨trivial, .inr ⟨?_, .inr ⟨trivial, .inr trivial⟩⟩⟩
  intro _ hfailed
  revert hfailed
  decide +kernel

/-- `BEGIN` through `exec`, then a dump: the backend is shut down inside the open block. -/
theorem dump_shuts_down_in_block :
    TransactionRules ⟨false⟩ OneTable.backend OneTable.view ∧
    OneTable.view.status emptyTable.db.backend = .idle ∧
    ∃ x ∈ (run ⟨false⟩ OneTable.backend 3 [.exec "BEGIN" none, .dumpDataDir .tar]
        emptyTable).quiesced, OneTable.view.status x = .active := by
  refine ⟨OneTable.transactionRules, rfl, ⟨.active, 0, [], []⟩, ?_, rfl⟩
  decide +kernel

end Session

end PgliteOxide.Pglite
