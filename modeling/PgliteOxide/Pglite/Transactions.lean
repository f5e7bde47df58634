import PgliteOxide.Pglite.TransactionRules

/-!
# `transaction`

Two results about `Pglite::transaction`, for every callback. The client's flag is restored
exactly when the last `COMMIT` or `ROLLBACK`, if there is one, succeeds. And when the call
returns `Ok`, the effects of the transaction are committed exactly when the block had not failed
by the time the callback returned, or had no effects.
-/

namespace PgliteOxide.Pglite

open Lib Protocol

namespace Session

variable {σ E T : Type} (build : Build) (b : Backend σ) (stack : ℕ)

/-! ## The steps of a transaction -/

/-- The steps before the callback. -/
def beginTransaction : Method σ Unit := do
  checkReady
  let _ ← execInternal build b stack "BEGIN" none
  setDb fun db => { db with inTransaction := true }

/-- The command that ends the transaction. -/
def endCommand : Except ClientError T → String
  | .ok _ => "COMMIT"
  | .error _ => "ROLLBACK"

/-- Return the callback's result with the flag down. -/
def returnResult (result : Except ClientError T) : Method σ T := do
  setDb fun db => { db with inTransaction := false }
  match result with
  | .ok value => return value
  | .error err => Stateful.fail err

/-- The steps after the callback. -/
def endTransaction (closed : Bool) (result : Except ClientError T) : Method σ T := do
  finishTransaction build b stack (endCommand result) closed
  returnResult result

/-- `transaction` is its three parts in sequence. -/
lemma transaction_eq (callback : Callback T) :
    transaction build b stack callback
      = beginTransaction build b stack >>= fun _ =>
          runCallback build b stack false callback >>= fun r =>
            endTransaction build b stack r.1 r.2 := by
  unfold transaction beginTransaction
  simp only [Stateful.bind_assoc]
  congr 1; funext _
  congr 1; funext _
  congr 1; funext _
  congr 1; funext r
  obtain ⟨closed, result⟩ := r
  cases result <;> rfl

/-! ## The flag -/

/-- `BEGIN` succeeded, the callback left the transaction open, and the `COMMIT` or `ROLLBACK`
that followed failed. -/
def EndStepFails (callback : Callback T) (s : Session σ) : Prop :=
  ∃ s₁ s₂ s₃ result err, beginTransaction build b stack s = (s₁, .ok ()) ∧
    runCallback build b stack false callback s₁ = (s₂, .ok (false, result)) ∧
    execInternal build b stack (endCommand result) none s₂ = (s₃, .err err)

/-- Nothing but `transaction` assigns to the flag. -/
lemma steady_flag (flag : Bool) :
    Steady build b (fun s => s.db.inTransaction = flag) fun _ => True where
  exchange request _ options s hs := by
    obtain ⟨parser, e, hstate⟩ := execProtocol_state build b request options s
    rw [hstate]
    exact hs
  lookup _ := trivial
  createBlobDir _ hs := hs
  writeBlob _ _ hs := hs
  removeBlob _ hs := hs
  fields s db hs _ _ hflag _ _ _ := hflag.trans hs

lemma execInternal_flag (sql : String) (s : Session σ) :
    (execInternal build b stack sql none s).1.db.inTransaction = s.db.inTransaction :=
  (steady_flag build b s.db.inTransaction).frame.keeps_execInternal trivial none s rfl

lemma runCallback_flag (callback : Callback T) (s : Session σ) :
    (runCallback build b stack false callback s).1.db.inTransaction = s.db.inTransaction :=
  (steady_flag build b s.db.inTransaction).frame.keeps_runCallback (fun _ => trivial) callback false s rfl

/-- `BEGIN` raises the flag when it succeeds, and leaves it alone otherwise. -/
lemma beginTransaction_flag (s : Session σ) :
    (beginTransaction build b stack s).2 = .ok () ∧
        (beginTransaction build b stack s).1.db.inTransaction = true ∨
      (∀ u, (beginTransaction build b stack s).2 ≠ .ok u) ∧
        (beginTransaction build b stack s).1.db.inTransaction = s.db.inTransaction := by
  unfold beginTransaction
  have hready : (checkReady s).1 = s := by
    unfold checkReady
    have hdb : getDb s = (s, (.ok s.db : Outcome ClientError (Instance σ))) := rfl
    rw [Stateful.bind_of_ok hdb]
    split_ifs <;> rfl
  rcases hc : checkReady s with ⟨s₀, u | e | _⟩
  · rw [hc] at hready
    cases hready
    rw [Stateful.bind_of_ok hc]
    have hflag := execInternal_flag build b stack "BEGIN" s₀
    rcases hexec : execInternal build b stack "BEGIN" none s₀ with ⟨s₁, r | e | _⟩
    · rw [Stateful.bind_of_ok hexec]
      exact .inl ⟨rfl, rfl⟩
    · rw [Stateful.bind_of_err hexec]
      rw [hexec] at hflag
      exact .inr ⟨by simp, hflag⟩
    · rw [Stateful.bind_of_panic hexec]
      rw [hexec] at hflag
      exact .inr ⟨by simp, hflag⟩
  · rw [Stateful.bind_of_err hc]
    rw [hc] at hready
    exact .inr ⟨by simp, by rw [← hready]⟩
  · rw [Stateful.bind_of_panic hc]
    rw [hc] at hready
    exact .inr ⟨by simp, by rw [← hready]⟩

/-- A callback's errors are results; the calls themselves do not fail. -/
lemma runCallback_ne_err (callback : Callback T) (closed : Bool) (s : Session σ)
    (err : ClientError) : (runCallback build b stack closed callback s).2 ≠ .err err := by
  have hopen {α : Type} (closed : Bool) (m : Method σ α) (t : Session σ) (e : ClientError) :
      (whileOpen closed m t).2 ≠ .err e := by
    unfold whileOpen
    split
    · simp [Pure.pure]
    · exact Stateful.bind_ne_err (Stateful.attempt_ne_err m t) (by simp [Pure.pure]) e
  have hend (sql : String) (closed : Bool) (t : Session σ) (e : ClientError) :
      (endInternal build b stack sql closed t).2 ≠ .err e := by
    refine Stateful.bind_ne_err (hopen _ _ t) (fun r t' e' => ?_) e
    obtain ⟨closed', result⟩ := r
    cases result <;> simp [Pure.pure]
  have hop (closed : Bool) (op : TxOp) (t : Session σ) (e : ClientError) :
      (runTxOp build b stack closed op t).2 ≠ .err e := by
    cases op with
    | query sql params options => exact hopen _ _ t e
    | exec sql options => exact hopen _ _ t e
    | refreshArrayTypes => exact hopen _ _ t e
    | commit => exact hend _ _ t e
    | rollback => exact hend _ _ t e
    | isClosed => simp [runTxOp, Pure.pure]
  induction callback generalizing closed s err with
  | ret value => simp [runCallback, Pure.pure]
  | fail e => simp [runCallback, Pure.pure]
  | call op next ih =>
    exact Stateful.bind_ne_err (hop closed op s) (fun r t e => ih r.2 r.1 t e) err

/-- What the steps after the callback do to the flag. -/
lemma endTransaction_flag (closed : Bool) (result : Except ClientError T) (s : Session σ)
    (hreturns : (endTransaction build b stack closed result s).2 ≠ .panic)
    (hflag : s.db.inTransaction = true) :
    (endTransaction build b stack closed result s).1.db.inTransaction = false ↔
      ¬ (closed = false ∧ ∃ s' err,
        execInternal build b stack (endCommand result) none s = (s', .err err)) := by
  have hclear (t : Session σ) : (returnResult result t).1.db.inTransaction = false := by
    cases result <;> rfl
  unfold endTransaction at hreturns ⊢
  cases closed with
  | true =>
    have hfinish : finishTransaction build b stack (endCommand result) true s = (s, .ok ()) := rfl
    rw [Stateful.bind_of_ok hfinish]
    simpa using hclear s
  | false =>
    have hexecFlag := execInternal_flag build b stack (endCommand result) s
    rcases hexec : execInternal build b stack (endCommand result) none s with ⟨s', r | e | _⟩
    · have hfinish : finishTransaction build b stack (endCommand result) false s = (s', .ok ()) :=
        Stateful.bind_of_ok hexec
      rw [Stateful.bind_of_ok hfinish]
      simpa using hclear s'
    · have hfinish : finishTransaction build b stack (endCommand result) false s = (s', .err e) :=
        Stateful.bind_of_err hexec
      rw [Stateful.bind_of_err hfinish]
      rw [hexec, hflag] at hexecFlag
      have hraised : s'.db.inTransaction = true := hexecFlag
      simp [hraised]
    · have hfinish : finishTransaction build b stack (endCommand result) false s = (s', .panic) :=
        Stateful.bind_of_panic hexec
      rw [Stateful.bind_of_panic hfinish] at hreturns
      exact absurd rfl hreturns

/-- **Flag restoration.** For every callback and every outcome of the backend, when
`transaction` returns, the flag is down again exactly when no `COMMIT` or `ROLLBACK` failed
after the callback. -/
theorem transaction_restores_flag_iff (callback : Callback T) (s : Session σ)
    (hflag : s.db.inTransaction = false)
    (hreturns : (transaction build b stack callback s).2 ≠ .panic) :
    (transaction build b stack callback s).1.db.inTransaction = false ↔
      ¬ EndStepFails build b stack callback s := by
  rw [transaction_eq] at hreturns ⊢
  rcases beginTransaction_flag build b stack s with ⟨hok, hraised⟩ | ⟨hnot, hkept⟩
  · rcases hbegin : beginTransaction build b stack s with ⟨s₁, o⟩
    rw [hbegin] at hok hraised
    cases hok
    rw [Stateful.bind_of_ok hbegin] at hreturns ⊢
    have hcallbackFlag := runCallback_flag build b stack callback s₁
    rcases hcall : runCallback build b stack false callback s₁ with ⟨s₂, r | e | _⟩
    · rw [Stateful.bind_of_ok hcall] at hreturns ⊢
      rw [hcall, hraised] at hcallbackFlag
      rw [endTransaction_flag build b stack r.1 r.2 s₂ hreturns hcallbackFlag, not_iff_not]
      constructor
      · rintro ⟨hopen, s₃, err, hend⟩
        refine ⟨s₁, s₂, s₃, r.2, err, hbegin, ?_, hend⟩
        rw [hcall, ← hopen]
      · rintro ⟨t₁, t₂, t₃, result, err, hb, hc, hend⟩
        rw [hbegin] at hb
        cases hb
        rw [hcall] at hc
        cases hc
        exact ⟨rfl, t₃, err, hend⟩
    · exact absurd (by rw [hcall]) (runCallback_ne_err build b stack callback false s₁ e)
    · rw [Stateful.bind_of_panic hcall] at hreturns
      exact absurd rfl hreturns
  · have hno : ¬ EndStepFails build b stack callback s := by
      rintro ⟨t₁, t₂, t₃, result, err, hb, -⟩
      exact hnot () (by rw [hb])
    have hstate : ((beginTransaction build b stack >>= fun _ =>
        runCallback build b stack false callback >>= fun r =>
          endTransaction build b stack r.1 r.2) s).1 = (beginTransaction build b stack s).1 := by
      rcases hbegin : beginTransaction build b stack s with ⟨s₁, u | e | _⟩
      · exact absurd (by rw [hbegin]) (hnot u)
      · rw [Stateful.bind_of_err hbegin]
      · rw [Stateful.bind_of_panic hbegin]
    rw [hstate, hkept]
    simp [hno, hflag]

/-- A backend whose `COMMIT` fails, as on a deferred constraint. -/
def commitFails : Backend Unit :=
  .answering fun s message =>
    (s, .ok (if message = (Request.query "COMMIT").bytes then OneTable.failed
      else OneTable.completed "BEGIN"))

/-- An empty table, outside a block. -/
def emptyTable : Session OneTable := .opened [] [] ⟨.idle, 0, [], []⟩

/-- A callback that inserts a row. -/
def insertRow : Callback Unit :=
  .call (.exec "INSERT" none) fun _ => .ret ()

/-- `insertRow` on `OneTable`. -/
theorem transaction_restores_flag_iff_insertRow :
    (transaction ⟨false⟩ OneTable.backend 3 insertRow emptyTable).1.db.inTransaction = false ↔
      ¬ EndStepFails ⟨false⟩ OneTable.backend 3 insertRow emptyTable := by
  have hok : (transaction ⟨false⟩ OneTable.backend 3 insertRow emptyTable).2.toOption = some () := by
    decide +kernel
  rw [Outcome.toOption_eq_some] at hok
  refine transaction_restores_flag_iff _ _ _ insertRow emptyTable rfl ?_
  rw [hok]
  simp

/-- After a failed `COMMIT` the call returns an error with the flag still up, and a later dump
is refused although no transaction exists. -/
theorem flag_stays_after_failed_commit :
    (Session.opened [] [] ()).db.inTransaction = false ∧
    (∃ s err, transaction ⟨false⟩ commitFails 3 (.ret () : Callback Unit) (.opened [] [] ())
      = (s, .err err) ∧ s.db.inTransaction ≠ false ∧
      dumpDataDirWithFormat ⟨false⟩ commitFails 3 .tar s
        = (s, .err (.msg
          "dump PGDATA archive cannot run while a direct transaction is active"))) := by
  refine ⟨rfl, _, _, rfl, ?_, rfl⟩
  decide +kernel

/-! ## Commits -/

section Commit

variable {build b stack} {view : TransactionView σ E}

/-- Nothing is left in the parser. -/
lemma steady_drained (rules : TransactionRules build b view) :
    Steady build b (fun s => s.db.parser = Parser.new) fun _ => True where
  exchange request _ options _ hs := execProtocol_drained build rules.wellFormed request options hs
  lookup _ := trivial
  createBlobDir _ hs := hs
  writeBlob _ _ hs := hs
  removeBlob _ hs := hs
  fields _ _ hs _ hparser _ _ _ _ := hparser.trans hs

/-- A property of what the view shows survives blob steps and registrations. -/
lemma local_view (rules : TransactionRules build b view) {P : σ → Prop}
    (hP : ∀ x x', view.Same x x' → P x → P x') : Local b fun s => P s.db.backend where
  createBlobDir s := hP _ _ (rules.createBlobDir s.db.backend)
  writeBlob s bytes := hP _ _ (rules.writeBlob s.db.backend bytes)
  removeBlob s := hP _ _ (rules.removeBlob s.db.backend)
  fields s db hs hbackend _ _ _ _ _ := by
    show P db.backend
    rw [hbackend]
    exact hs

/-- The same, when it also survives requests. -/
lemma steady_view (rules : TransactionRules build b view) {P : σ → Prop} {A : Request → Prop}
    (hlookup : ∀ oid, A (.query (arrayTypeLookupSql oid)))
    (hP : ∀ x x', view.Same x x' → P x → P x')
    (hexchange : ∀ x request c, A request → P x → P (b.after x request c)) :
    Steady build b (fun s => P s.db.backend) A where
  toLocal := local_view rules hP
  exchange request hA options s hs := by
    show P (execProtocol build b request options s).1.db.backend
    rw [execProtocol_backend]
    exact hexchange _ _ _ hA hs
  lookup := hlookup

/-- What is committed stays as it is during lookups. -/
lemma steady_committed (rules : TransactionRules build b view) (effects : List E) :
    Steady build b (fun s => view.committed s.db.backend = effects) IsLookup := by
  refine steady_view rules (fun oid => ⟨oid, rfl⟩) (fun x x' h hx => h.committed.trans hx) ?_
  rintro x _ c ⟨oid, rfl⟩ hx
  exact (rules.plain x _ c (.lookup oid)).2.1.trans hx

/-- A state `x` of the same block as `x₁`, with nothing committed since. -/
def SameBlock (view : TransactionView σ E) (x₁ x : σ) : Prop :=
  view.ended x = view.ended x₁ ∧ view.status x ≠ .idle ∧ view.committed x = view.committed x₁

/-- The block stays open during lookups. -/
lemma steady_sameBlock (rules : TransactionRules build b view) (x₁ : σ) :
    Steady build b (fun s => SameBlock view x₁ s.db.backend) IsLookup := by
  refine steady_view rules (fun oid => ⟨oid, rfl⟩) ?_ ?_
  · rintro x x' h ⟨hended, hopen, hcommitted⟩
    exact ⟨h.ended.trans hended, by rw [h.status]; exact hopen, h.committed.trans hcommitted⟩
  · rintro x _ c ⟨oid, rfl⟩ ⟨hended, hopen, hcommitted⟩
    have hplain := rules.plain x _ c (.lookup oid)
    have hblock := rules.block x _ c hopen hplain.1
    exact ⟨hplain.1.trans hended, hblock.1, hblock.2.trans hcommitted⟩

/-- Any request: the block may end, and until then nothing is committed. -/
lemma steady_untilEnd (rules : TransactionRules build b view) (x₁ : σ) :
    Steady build b (fun s => view.ended x₁ ≤ view.ended s.db.backend ∧
      (view.ended s.db.backend = view.ended x₁ → SameBlock view x₁ s.db.backend))
      fun _ => True := by
  let P (x : σ) : Prop :=
    view.ended x₁ ≤ view.ended x ∧ (view.ended x = view.ended x₁ → SameBlock view x₁ x)
  refine steady_view rules (P := P) (fun _ => trivial) ?_ ?_
  · rintro x x' h ⟨hle, hblock⟩
    refine ⟨by rw [h.ended]; exact hle, fun hended => ?_⟩
    obtain ⟨-, hopen, hcommitted⟩ := hblock (h.ended.symm.trans hended)
    exact ⟨hended, by rw [h.status]; exact hopen, h.committed.trans hcommitted⟩
  · rintro x request c - ⟨hle, hblock⟩
    have hmono := rules.ended_mono x request c
    refine ⟨Nat.le_trans hle hmono, fun hended => ?_⟩
    obtain ⟨hx, hopen, hcommitted⟩ := hblock (by omega)
    have hstays := rules.block x request c hopen (by omega)
    exact ⟨hended, hstays.1, hstays.2.trans hcommitted⟩

/-- After an accepted `BEGIN` a block is open, and nothing was committed. -/
lemma beginTransaction_block (rules : TransactionRules build b view) {s s₁ : Session σ}
    (hparser : s.db.parser = Parser.new)
    (h : beginTransaction build b stack s = (s₁, .ok ())) :
    s₁.db.parser = Parser.new ∧ view.status s₁.db.backend ≠ .idle ∧
      view.committed s₁.db.backend = view.committed s.db.backend := by
  unfold beginTransaction at h
  rw [Stateful.bind_eq_ok] at h
  obtain ⟨s₀, u, hready, h⟩ := h
  have hs₀ : s₀ = s := by
    have hkept := keeps_checkReady (I := fun t => t = s) s rfl
    rw [hready] at hkept
    exact hkept
  rw [Stateful.bind_eq_ok] at h
  obtain ⟨s₂, results, hexec, hset⟩ := h
  rw [hs₀] at hexec
  have hs₁ : s₁ = { s₂ with db := { s₂.db with inTransaction := true } } :=
    (congrArg Prod.fst hset).symm
  obtain ⟨t, t', c, hlocal, haccepts, hbackend, -, hrest⟩ :=
    execInternal_accepted rules.wellFormed hparser hexec
  have hbegin := rules.begin_accepted t.db.backend c haccepts
  have hsame : view.committed t.db.backend = view.committed s.db.backend :=
    hlocal (fun t => view.committed t.db.backend = view.committed s.db.backend)
      (local_view rules fun x x' h hx => h.committed.trans hx).frame rfl
  obtain ⟨-, hopen, hcommitted⟩ := hrest _ (steady_sameBlock rules t'.db.backend).frame
    ⟨rfl, by rw [hbackend, hbegin.1]; simp, rfl⟩
  have hdrained : (execInternal build b stack "BEGIN" none s).1.db.parser = Parser.new :=
    (steady_drained rules).frame.keeps_execInternal trivial none s hparser
  rw [hexec] at hdrained
  rw [hs₁]
  refine ⟨hdrained, hopen, ?_⟩
  show view.committed s₂.db.backend = view.committed s.db.backend
  rw [hcommitted, hbackend, hbegin.2, hsame]

/-- The callback returned in `s₂` without having ended the transaction, neither through its
`Transaction` nor through SQL. -/
def CallbackLeavesOpen (build : Build) (b : Backend σ) (stack : ℕ) (view : TransactionView σ E)
    (callback : Callback T) (s s₂ : Session σ) : Prop :=
  ∃ s₁ result, beginTransaction build b stack s = (s₁, .ok ()) ∧
    runCallback build b stack false callback s₁ = (s₂, .ok (false, result)) ∧
    view.ended s₂.db.backend = view.ended s₁.db.backend

/-- The `COMMIT` after the callback: a block that had not failed is committed, a failed one is
not. -/
lemma commit_committed (rules : TransactionRules build b view) {s₂ s₃ : Session σ}
    {results : List Results} (hparser : s₂.db.parser = Parser.new)
    (hopen : view.status s₂.db.backend ≠ .idle)
    (h : execInternal build b stack "COMMIT" none s₂ = (s₃, .ok results)) :
    view.committed s₃.db.backend
      = view.committed s₂.db.backend
        ++ (if view.status s₂.db.backend = .aborted then [] else view.pending s₂.db.backend) := by
  obtain ⟨t, t', c, hlocal, haccepts, hbackend, -, hrest⟩ :=
    execInternal_accepted rules.wellFormed hparser h
  have hsame : view.status t.db.backend = view.status s₂.db.backend ∧
      view.pending t.db.backend = view.pending s₂.db.backend ∧
      view.committed t.db.backend = view.committed s₂.db.backend := by
    let P (x : σ) : Prop := view.status x = view.status s₂.db.backend ∧
      view.pending x = view.pending s₂.db.backend ∧
      view.committed x = view.committed s₂.db.backend
    refine hlocal (fun t => P t.db.backend) (local_view rules ?_).frame ⟨rfl, rfl, rfl⟩
    rintro x x' h ⟨hstatus, hpending, hcommitted⟩
    exact ⟨h.status.trans hstatus, h.pending.trans hpending, h.committed.trans hcommitted⟩
  obtain ⟨hstatus, hpending, hcommitted⟩ := hsame
  have hkept := hrest _ (steady_committed rules (view.committed t'.db.backend)).frame rfl
  rw [hkept, hbackend]
  rcases hcase : view.status s₂.db.backend with _ | _ | _
  · exact absurd hcase hopen
  · rw [if_neg (by simp), rules.commit_active _ c (hstatus.trans hcase) haccepts, hcommitted,
      hpending]
  · rw [if_pos rfl, (rules.commit_aborted _ c (hstatus.trans hcase)).1, hcommitted,
      List.append_nil]

/-- **Commit truthfulness.** For every callback and every backend that follows PostgreSQL's
rules: when `transaction` returns `Ok` and the callback did not end the transaction, the effects
of the transaction are committed exactly when the block had not failed by the time the callback
returned, or had no effects. -/
theorem transaction_commits_iff (rules : TransactionRules build b view) (callback : Callback T)
    {s s₂ s' : Session σ} {value : T} (hparser : s.db.parser = Parser.new)
    (hok : transaction build b stack callback s = (s', .ok value))
    (hopen : CallbackLeavesOpen build b stack view callback s s₂) :
    view.committed s'.db.backend = view.committed s.db.backend ++ view.pending s₂.db.backend ↔
      view.status s₂.db.backend ≠ .aborted ∨ view.pending s₂.db.backend = [] := by
  obtain ⟨s₁, result, hbegin, hcallback, hended⟩ := hopen
  obtain ⟨hparser₁, hopen₁, hcommitted₁⟩ := beginTransaction_block rules hparser hbegin
  -- the callback: still the block of `s₁`, nothing committed
  have hblock : (runCallback build b stack false callback).Keeps _ :=
    (steady_untilEnd rules s₁.db.backend).frame.keeps_runCallback (fun _ => trivial) callback false
  have hdrained : (runCallback build b stack false callback).Keeps _ :=
    (steady_drained rules).frame.keeps_runCallback (fun _ => trivial) callback false
  have huntil := hblock s₁ ⟨Nat.le_refl _, fun _ => ⟨rfl, hopen₁, rfl⟩⟩
  have hparser₂ := hdrained s₁ hparser₁
  rw [hcallback] at huntil hparser₂
  obtain ⟨-, hopen₂, hcommitted₂⟩ := huntil.2 hended
  -- the end: `COMMIT`, since the call returned `Ok`
  rw [transaction_eq, Stateful.bind_of_ok hbegin, Stateful.bind_of_ok hcallback] at hok
  obtain ⟨s₃, results, hcommit, hs'⟩ : ∃ s₃ results,
      execInternal build b stack "COMMIT" none s₂ = (s₃, .ok results) ∧
        s'.db.backend = s₃.db.backend := by
    unfold endTransaction at hok
    rw [Stateful.bind_eq_ok] at hok
    obtain ⟨s₃, u, hfinish, hreturn⟩ := hok
    cases result with
    | error err => simp [returnResult, Stateful.fail, Bind.bind, Stateful.bind, setDb,
        Stateful.modify] at hreturn
    | ok v =>
      have hfinish : (execInternal build b stack "COMMIT" none >>= fun _ => pure ()) s₂
          = (s₃, .ok u) := hfinish
      rw [Stateful.bind_eq_ok] at hfinish
      obtain ⟨t, results, hexec, hpure⟩ := hfinish
      cases hpure
      refine ⟨s₃, results, hexec, ?_⟩
      exact congrArg (fun r : Session σ × Outcome ClientError T => r.1.db.backend) hreturn.symm
  rw [hs', commit_committed rules hparser₂ hopen₂ hcommit, hcommitted₂, hcommitted₁]
  split_ifs with haborted
  · simp [haborted]
  · simp [haborted]

/-- A callback that inserts a row and swallows the error of a second statement. -/
def swallowError : Callback Unit :=
  .call (.exec "INSERT" none) fun _ => .call (.exec "FAIL" none) fun _ => .ret ()

/-- The state in which the callback returns. -/
def callbackState (build : Build) (b : Backend σ) (stack : ℕ) (callback : Callback T)
    (s : Session σ) : Session σ :=
  (runCallback build b stack false callback (beginTransaction build b stack s).1).1

lemma callbackLeavesOpen_callbackState {callback : Callback T} {s : Session σ}
    (hbegin : (beginTransaction build b stack s).2.toOption = some ())
    (hcallback : (runCallback build b stack false callback
      (beginTransaction build b stack s).1).2.toOption.map Prod.fst = some false)
    (hended : view.ended (callbackState build b stack callback s).db.backend
      = view.ended (beginTransaction build b stack s).1.db.backend) :
    CallbackLeavesOpen build b stack view callback s (callbackState build b stack callback s) := by
  rw [Outcome.toOption_eq_some] at hbegin
  rw [Option.map_eq_some_iff] at hcallback
  obtain ⟨⟨closed, result⟩, hresult, hclosed⟩ := hcallback
  rw [Outcome.toOption_eq_some] at hresult
  cases hclosed
  exact ⟨_, result, Prod.ext rfl hbegin, Prod.ext rfl hresult, hended⟩

/-- `insertRow` on `OneTable`. -/
theorem transaction_commits_iff_insertRow :
    let s' := (transaction ⟨false⟩ OneTable.backend 3 insertRow emptyTable).1
    let s₂ := callbackState ⟨false⟩ OneTable.backend 3 insertRow emptyTable
    OneTable.view.committed s'.db.backend
        = OneTable.view.committed emptyTable.db.backend ++ OneTable.view.pending s₂.db.backend ↔
      OneTable.view.status s₂.db.backend ≠ .aborted ∨
        OneTable.view.pending s₂.db.backend = [] := by
  intro s' s₂
  have hopen : CallbackLeavesOpen ⟨false⟩ OneTable.backend 3 OneTable.view insertRow emptyTable s₂ :=
    callbackLeavesOpen_callbackState (by decide +kernel) (by decide +kernel) (by decide +kernel)
  have hok : (transaction ⟨false⟩ OneTable.backend 3 insertRow emptyTable).2.toOption = some () := by
    decide +kernel
  rw [Outcome.toOption_eq_some] at hok
  exact transaction_commits_iff OneTable.transactionRules insertRow rfl (Prod.ext rfl hok) hopen

/-- The call returns `Ok`, the callback did not end the transaction, and the inserted row is
gone. -/
theorem commit_lost_after_swallowed_error :
    TransactionRules ⟨false⟩ OneTable.backend OneTable.view ∧
    (transaction ⟨false⟩ OneTable.backend 3 swallowError emptyTable).2.toOption = some () ∧
    CallbackLeavesOpen ⟨false⟩ OneTable.backend 3 OneTable.view swallowError emptyTable
      (callbackState ⟨false⟩ OneTable.backend 3 swallowError emptyTable) ∧
    OneTable.view.pending
      (callbackState ⟨false⟩ OneTable.backend 3 swallowError emptyTable).db.backend = [1] ∧
    OneTable.view.committed
      (transaction ⟨false⟩ OneTable.backend 3 swallowError emptyTable).1.db.backend = [] := by
  refine ⟨OneTable.transactionRules, by decide +kernel, ?_, ?_, ?_⟩
  · exact callbackLeavesOpen_callbackState (by decide +kernel) (by decide +kernel)
      (by decide +kernel)
  · decide +kernel
  · decide +kernel

end Commit

end Session

end PgliteOxide.Pglite
