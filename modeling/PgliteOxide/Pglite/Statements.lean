import PgliteOxide.Protocol.RoundTrip
import PgliteOxide.Pglite.SessionTheorems

/-!
# The unnamed statement

`query_internal` parses into the backend's unnamed statement and later binds it. Between the two
it may look up array types with simple queries, and a simple query destroys the unnamed
statement. `unnamedStatement` replays PostgreSQL's rule over the exchanges of a session; the main
result says for which calls the statement is still there when the `Bind` is sent.
-/

namespace PgliteOxide.Pglite

open Lib Protocol

/-! ## PostgreSQL's rule -/

/-- What a `Parse` creates. -/
structure Statement where
  sql : String
  paramTypes : List Int32
deriving DecidableEq

/-- The backend answered with a `ParseComplete`. -/
def Exchange.parsed (e : Exchange) : Bool :=
  e.outcome.result.toOption.any fun result => Session.parseCompleted result.messages

/-- The unnamed statement after an exchange: a `Parse` replaces it, a simple query destroys it,
and a `Bind` uses it. Nothing is assumed about the bytes of a caller. -/
def Exchange.unnamedAfter (before : Option Statement) (e : Exchange) : Option Statement :=
  match e.request with
  | .query _ => none
  | .parseDescribe sql paramTypes => if e.parsed then some ⟨sql, paramTypes⟩ else none
  | .bindExecute _ => before
  | .raw _ => none

/-- The unnamed statement after the exchanges of a session. -/
def unnamedStatement (history : List Exchange) : Option Statement :=
  history.foldl Exchange.unnamedAfter none

/-- The exchange is a simple query. -/
def Exchange.IsQuery (e : Exchange) : Prop := ∃ sql, e.request = .query sql

/-- The exchange binds. -/
def Exchange.IsBind (e : Exchange) : Prop := ∃ values, e.request = .bindExecute values

lemma Exchange.IsQuery.not_isBind {e : Exchange} (h : e.IsQuery) : ¬ e.IsBind := by
  obtain ⟨sql, hsql⟩ := h
  rintro ⟨values, hvalues⟩
  rw [hsql] at hvalues
  simp at hvalues

/-- Simple queries, at least one, leave no statement. -/
lemma foldl_unnamedAfter_queries {l : List Exchange} (hl : ∀ e ∈ l, e.IsQuery) (hne : l ≠ [])
    (before : Option Statement) : l.foldl Exchange.unnamedAfter before = none := by
  induction l generalizing before with
  | nil => exact absurd rfl hne
  | cons e l ih =>
    obtain ⟨sql, hsql⟩ := hl e (by simp)
    have hnone : Exchange.unnamedAfter before e = none := by
      unfold Exchange.unnamedAfter
      rw [hsql]
    rw [List.foldl_cons, hnone]
    by_cases hnil : l = []
    · rw [hnil]
      rfl
    · exact ih (fun e he => hl e (List.mem_cons_of_mem _ he)) hnil none

namespace Session

variable {σ : Type}

/-- The exchanges since `h`, each with `P`. -/
def Sent (P : Exchange → Prop) (h : List Exchange) (s : Session σ) : Prop :=
  ∃ l, s.history = h ++ l ∧ ∀ e ∈ l, P e

variable {build : Build} {b : Backend σ} {stack : ℕ} {P : Exchange → Prop}

lemma Sent.refl (s : Session σ) : Sent P s.history s := ⟨[], by simp⟩

/-- An exchange adds itself to the history. -/
lemma execProtocol_sends (build : Build) (b : Backend σ) (request : Request)
    (options : ExecProtocolOptions) (s : Session σ) :
    ∃ e : Exchange, e.request = request ∧
      (execProtocol build b request options s).1.history = s.history ++ [e] ∧
      (execProtocol build b request options s).2 = e.outcome.result.mapErr .protocol :=
  ⟨_, rfl, congrArg (fun r => r.1.history) (execProtocol_eq build b request options s rfl),
    congrArg Prod.snd (execProtocol_eq build b request options s rfl)⟩

/-- What is sent is steady, as far as it is made of requests in `A`. -/
lemma steady_sent {A : Request → Prop} (h : List Exchange)
    (hA : ∀ oid, A (.query (arrayTypeLookupSql oid))) :
    Steady build b (Sent (fun e => A e.request) h) A where
  exchange request hrequest options s hs := by
    obtain ⟨l, hl, hP⟩ := hs
    obtain ⟨e, he, hsent, -⟩ := execProtocol_sends build b request options s
    refine ⟨l ++ [e], by rw [hsent, hl, List.append_assoc], ?_⟩
    intro x hx
    rcases List.mem_append.mp hx with hx | hx
    · exact hP x hx
    · rw [List.mem_singleton.mp hx, he]
      exact hrequest
  lookup := hA
  createBlobDir s hs := hs
  writeBlob s _ hs := hs
  removeBlob s hs := hs
  fields s db hs _ _ _ _ _ _ := hs

/-- `parse_and_describe` that returns has sent one `Parse`, and the statement is there. -/
lemma parseAndDescribe_sends {sql : String} {paramTypes : List Int32}
    {options : ExecProtocolOptions} {s s' : Session σ} {described : List BackendMessage}
    (h : parseAndDescribe build b sql paramTypes options s = (s', .ok described)) :
    ∃ e : Exchange, s'.history = s.history ++ [e] ∧ ¬ e.IsBind ∧
      ∀ before, Exchange.unnamedAfter before e = some ⟨sql, paramTypes⟩ := by
  unfold parseAndDescribe at h
  rw [Stateful.bind_eq_ok] at h
  obtain ⟨t, result, hexchange, h⟩ := h
  obtain ⟨e, he, hsent, hresult⟩ := execProtocol_sends build b (.parseDescribe sql paramTypes)
    options s
  rw [hexchange] at hsent hresult
  have hcompleted : parseCompleted result.messages = true ∧ s' = t := by
    split at h
    · simp [bail, Stateful.fail] at h
    · rename_i hparsed
      cases h
      exact ⟨by simpa using hparsed, rfl⟩
  have hparsed : e.parsed = true := by
    unfold Exchange.parsed
    have hok : e.outcome.result = .ok result := by
      cases houtcome : e.outcome.result <;> rw [houtcome] at hresult <;> cases hresult
      rfl
    rw [hok]
    exact hcompleted.1
  refine ⟨e, by rw [hcompleted.2]; exact hsent, ?_, fun before => ?_⟩
  · rintro ⟨values, hvalues⟩
    rw [he] at hvalues
    simp at hvalues
  · unfold Exchange.unnamedAfter
    rw [he]
    simp [hparsed]

/-! ## The lookups of a call -/

/-- `ensure_array_types_for_bind_values` asks the catalog about a parameter. -/
def looksUp (db : Instance σ) (options : QueryOptions) (value : Value) (oid : Int32) : Bool :=
  !(!value.isArray || options.serializers.containsKey oid || db.serializers.containsKey oid)
    && db.needsLookup oid

/-- A miss is recorded. -/
def withMiss (s : Session σ) (oid : Int32) : Session σ :=
  { s with db := { s.db with arrayTypeLookupMisses := oid :: s.db.arrayTypeLookupMisses } }

/-- Some lookup of the loop is answered with an array type. One that is not is recorded as a
miss. -/
def SomeLookupRegisters (exec : Exec σ) (options : QueryOptions) :
    List Value → List Int32 → Session σ → Prop
  | [], _, _ => False
  | value :: params, dataTypeIds, s =>
    if looksUp s.db options value (dataTypeIds.headD oidText) then
      ∃ s' results,
        exec (arrayTypeLookupSql (dataTypeIds.headD oidText)) none s = (s', .ok results) ∧
        ((firstArrayTypeInfo results).isSome ∨
          SomeLookupRegisters exec options params dataTypeIds.tail
            (s'.withMiss (dataTypeIds.headD oidText)))
    else SomeLookupRegisters exec options params dataTypeIds.tail s

/-- No parameter is looked up. -/
def NothingLookedUp (db : Instance σ) (options : QueryOptions) :
    List Value → List Int32 → Prop
  | [], _ => True
  | value :: params, dataTypeIds =>
    looksUp db options value (dataTypeIds.headD oidText) = false ∧
      NothingLookedUp db options params dataTypeIds.tail

section Loop

variable {exec : Exec σ} {options : QueryOptions} {value : Value} {params : List Value}
  {dataTypeIds : List Int32} {registered r : Bool} {s s' : Session σ} {results : List Results}

/-- A parameter that is not looked up. -/
lemma ensure_skip (h : looksUp s.db options value (dataTypeIds.headD oidText) = false) :
    ensureArrayTypesForBindValues exec options (value :: params) dataTypeIds registered s
      = ensureArrayTypesForBindValues exec options params dataTypeIds.tail registered s := by
  have hdb : getDb s = (s, (.ok s.db : Outcome ClientError (Instance σ))) := rfl
  rw [ensureArrayTypesForBindValues, Stateful.bind_of_ok hdb]
  split
  · rfl
  · rename_i hknown
    unfold looksUp at h
    rw [Bool.not_eq_true] at hknown
    rw [hknown, Bool.not_false, Bool.true_and] at h
    have htry : tryRegisterArrayTypeByArrayOid exec (dataTypeIds.headD oidText) s
        = (s, .ok false) := by
      unfold tryRegisterArrayTypeByArrayOid
      rw [Stateful.bind_of_ok hdb, h]
      rfl
    rw [Stateful.bind_of_ok htry, Bool.or_false]

/-- A parameter that is looked up. -/
lemma ensure_lookup (h : looksUp s.db options value (dataTypeIds.headD oidText) = true) :
    ensureArrayTypesForBindValues exec options (value :: params) dataTypeIds registered s
      = (tryRegisterArrayTypeByArrayOid exec (dataTypeIds.headD oidText) >>= fun now =>
          ensureArrayTypesForBindValues exec options params dataTypeIds.tail
            (registered || now)) s := by
  have hdb : getDb s = (s, (.ok s.db : Outcome ClientError (Instance σ))) := rfl
  rw [ensureArrayTypesForBindValues, Stateful.bind_of_ok hdb]
  unfold looksUp at h
  rw [Bool.and_eq_true, Bool.not_eq_true'] at h
  rw [if_neg (by rw [h.1]; simp)]

lemma needsLookup_of_looksUp {db : Instance σ} {oid : Int32}
    (h : looksUp db options value oid = true) : db.needsLookup oid = true := by
  unfold looksUp at h
  rw [Bool.and_eq_true] at h
  exact h.2

/-- `try_register_array_type_by_array_oid`, when it asks and returns. -/
lemma tryRegister_ok {oid : Int32} (hneeds : s.db.needsLookup oid = true)
    (h : tryRegisterArrayTypeByArrayOid exec oid s = (s', .ok r)) :
    ∃ t results, exec (arrayTypeLookupSql oid) none s = (t, .ok results) ∧
      r = (firstArrayTypeInfo results).isSome ∧ s'.history = t.history ∧
      s'.db.backend = t.db.backend ∧ (r = false → s' = t.withMiss oid) := by
  have hdb : getDb s = (s, (.ok s.db : Outcome ClientError (Instance σ))) := rfl
  unfold tryRegisterArrayTypeByArrayOid at h
  rw [Stateful.bind_of_ok hdb, if_neg (by rw [hneeds]; simp), Stateful.bind_eq_ok] at h
  obtain ⟨t, results, hexec, h⟩ := h
  refine ⟨t, results, hexec, ?_⟩
  cases hinfo : firstArrayTypeInfo results with
  | none =>
    rw [hinfo] at h
    cases h
    exact ⟨rfl, rfl, rfl, fun _ => rfl⟩
  | some info =>
    rw [hinfo] at h
    cases h
    exact ⟨rfl, rfl, rfl, fun hfalse => absurd hfalse (by simp)⟩

/-- **What the loop returns.** The induction is on the parameters that are left. -/
lemma ensure_registered
    (h : ensureArrayTypesForBindValues exec options params dataTypeIds registered s
      = (s', .ok r)) :
    r = true ↔ registered = true ∨ SomeLookupRegisters exec options params dataTypeIds s := by
  induction params generalizing dataTypeIds registered s with
  | nil =>
    cases h
    simp [SomeLookupRegisters]
  | cons value params ih =>
    unfold SomeLookupRegisters
    cases hlooks : looksUp s.db options value (dataTypeIds.headD oidText) with
    | false =>
      rw [ensure_skip hlooks] at h
      rw [ih h]
      simp
    | true =>
      rw [ensure_lookup hlooks, Stateful.bind_eq_ok] at h
      obtain ⟨t, now, htry, h⟩ := h
      have hneeds := needsLookup_of_looksUp hlooks
      obtain ⟨t', results, hexec, hnow, -, -, hmiss⟩ := tryRegister_ok hneeds htry
      rw [ih h, if_pos rfl]
      cases hfound : (firstArrayTypeInfo results).isSome with
      | true =>
        rw [hfound] at hnow
        rw [hnow, Bool.or_true]
        refine iff_of_true (.inl rfl) (.inr ⟨t', results, hexec, .inl hfound⟩)
      | false =>
        rw [hfound] at hnow
        rw [hnow, Bool.or_false, hmiss hnow]
        refine or_congr_right ⟨fun hrest => ⟨t', results, hexec, .inr hrest⟩, ?_⟩
        rintro ⟨u, results', hexec', hcase⟩
        rw [hexec] at hexec'
        cases hexec'
        exact hcase.resolve_left (by simp [hfound])

/-- A loop without lookups does nothing. -/
lemma ensure_nothing (h : NothingLookedUp s.db options params dataTypeIds) :
    ensureArrayTypesForBindValues exec options params dataTypeIds registered s
      = (s, .ok registered) := by
  induction params generalizing dataTypeIds with
  | nil => rfl
  | cons value params ih =>
    rw [ensure_skip h.1]
    exact ih h.2

end Loop

/-! ## What is sent -/

/-- The parts of a session that blob steps leave alone. -/
def SameRegistry (s t : Session σ) : Prop :=
  t.db.serializers = s.db.serializers ∧ t.db.parsers = s.db.parsers ∧
    t.db.arrayTypeLookupMisses = s.db.arrayTypeLookupMisses

lemma handleBlobInput_frame (blob : Option Bytes) (s : Session σ) :
    (handleBlobInput b blob).Keeps fun t => SameRegistry s t ∧ t.history = s.history := by
  unfold handleBlobInput
  split
  · refine (keeps_context (keeps_callBackend fun t ht => ht)).bind fun _ => ?_
    refine (keeps_context (keeps_callBackend fun t ht => ht)).bind fun _ => ?_
    exact .modify fun t ht => ht
  · exact .modify fun t ht => ht

lemma SameRegistry.nothingLookedUp {s t : Session σ} (h : SameRegistry s t)
    (options : QueryOptions) (params : List Value) (dataTypeIds : List Int32) :
    NothingLookedUp t.db options params dataTypeIds
      ↔ NothingLookedUp s.db options params dataTypeIds := by
  induction params generalizing dataTypeIds with
  | nil => rfl
  | cons value params ih =>
    unfold NothingLookedUp looksUp Instance.needsLookup
    rw [ih, h.1, h.2.1, h.2.2]

/-- Lookups are simple queries, and so are the lookups they cause. -/
lemma steady_queries (h : List Exchange) :
    Steady build b (Sent Exchange.IsQuery h) fun request => ∃ sql, request = .query sql :=
  steady_sent (A := fun request => ∃ sql, request = .query sql) h fun _ => ⟨_, rfl⟩

/-- `exec_internal` that returns has sent simple queries, and at least one. -/
lemma execInternal_sends {sql : String} {options : Option QueryOptions} {s s' : Session σ}
    {results : List Results}
    (h : execInternal build b stack sql options s = (s', .ok results)) :
    ∃ l, s'.history = s.history ++ l ∧ l ≠ [] ∧ ∀ e ∈ l, e.IsQuery := by
  cases stack with
  | zero => cases h
  | succ stack =>
    unfold execInternal at h
    rw [Stateful.bind_eq_ok] at h
    obtain ⟨t, u, hblob, h⟩ := h
    rw [Stateful.bind_eq_ok] at h
    obtain ⟨t', result, hexchange, h⟩ := h
    rw [Stateful.mapErr_eq_ok] at hexchange
    have hframe := handleBlobInput_frame (b := b) (options.getD .default).blob s s
      ⟨⟨rfl, rfl, rfl⟩, rfl⟩
    rw [hblob] at hframe
    obtain ⟨e, he, hsent, -⟩ := execProtocol_sends build b (.query sql)
      (execOptions (options.getD .default)) t
    rw [hexchange, hframe.2] at hsent
    have hkeeps : (finishExec build b (execInternal build b stack) result.messages options).Keeps
        (Sent Exchange.IsQuery t'.history) :=
      (steady_queries t'.history).frame.keeps_finishExec (steady_queries _).frame.keeps_lookup _ _
    have hfinish := hkeeps t' (Sent.refl t')
    rw [h] at hfinish
    obtain ⟨l, hl, hqueries⟩ := hfinish
    refine ⟨e :: l, by rw [hl, hsent, List.append_assoc]; rfl, by simp, ?_⟩
    intro x hx
    rcases List.mem_cons.mp hx with rfl | hx
    · exact ⟨sql, he⟩
    · exact hqueries x hx

/-- The loop sends simple queries, and at least one unless no parameter is looked up. -/
lemma ensure_sends {options : QueryOptions} {params : List Value} {dataTypeIds : List Int32}
    {registered r : Bool} {s s' : Session σ}
    (h : ensureArrayTypesForBindValues (execInternal build b stack) options params dataTypeIds
      registered s = (s', .ok r)) :
    ∃ l, s'.history = s.history ++ l ∧ (∀ e ∈ l, e.IsQuery) ∧
      (¬ NothingLookedUp s.db options params dataTypeIds → l ≠ []) := by
  induction params generalizing dataTypeIds registered s with
  | nil =>
    cases h
    exact ⟨[], by simp, by simp, fun hnot => absurd trivial hnot⟩
  | cons value params ih =>
    cases hlooks : looksUp s.db options value (dataTypeIds.headD oidText) with
    | false =>
      rw [ensure_skip hlooks] at h
      obtain ⟨l, hl, hqueries, hne⟩ := ih h
      refine ⟨l, hl, hqueries, fun hnot => hne fun hrest => hnot ⟨hlooks, hrest⟩⟩
    | true =>
      rw [ensure_lookup hlooks, Stateful.bind_eq_ok] at h
      obtain ⟨t, now, htry, h⟩ := h
      have hneeds := needsLookup_of_looksUp hlooks
      obtain ⟨t', results, hexec, -, hhistory, -, -⟩ := tryRegister_ok hneeds htry
      obtain ⟨l₁, hl₁, hne₁, hqueries₁⟩ := execInternal_sends hexec
      obtain ⟨l₂, hl₂, hqueries₂, -⟩ := ih h
      refine ⟨l₁ ++ l₂, by rw [hl₂, hhistory, hl₁, List.append_assoc], ?_, by simp [hne₁]⟩
      intro e he
      rcases List.mem_append.mp he with he | he
      · exact hqueries₁ e he
      · exact hqueries₂ e he

/-- **The closure of `query_internal`, step by step.** It stops before the `Bind` and returns
nothing, or the steps before the `Bind` have returned and the `Bind` is its last exchange. What
the exchanges in `A` keep is kept until then. -/
lemma queryMessages_steps {I : Session σ → Prop} {A : Request → Prop}
    (hsteady : SteadyFrame build b I A) {sql : String} {options : QueryOptions}
    (hparse : A (.parseDescribe sql options.paramTypes)) (params : List Value) {s : Session σ}
    (hs : I s) :
    (I (queryMessages build b stack sql params options s).1 ∧
      ∀ messages, (queryMessages build b stack sql params options s).2 ≠ .ok messages) ∨
    ∃ s₁ s₂ s₃ described again registered values,
      parseAndDescribe build b sql options.paramTypes (execOptions options) s
        = (s₁, .ok described) ∧
      ensureArrayTypesForBindValues (execInternal build b stack) options params
        (parseDescribeStatementResults described) false s₁ = (s₂, .ok registered) ∧
      (parseAndDescribe build b sql options.paramTypes (execOptions options)).onlyIf registered
        described s₂ = (s₃, .ok again) ∧
      I s₃ ∧
      (queryMessages build b stack sql params options s).1
        = (execProtocol build b (.bindExecute values) (execOptions options) s₃).1 := by
  unfold queryMessages
  have hI₁ := hsteady.keeps_parseAndDescribe hparse (execOptions options) s hs
  rcases Stateful.bind_cases _ _ s with ⟨s₁, described, h₁, hrest⟩ | ⟨hstop, hnone⟩
  swap
  · exact .inl ⟨by rw [hstop]; exact hI₁, hnone⟩
  rw [hrest]
  rw [h₁] at hI₁
  have hI₂ := hsteady.keeps_ensureForBindValues
    (@SteadyFrame.keeps_lookup _ _ _ _ _ stack hsteady) options params
    (parseDescribeStatementResults described) false s₁ hI₁
  rcases Stateful.bind_cases _ _ s₁ with ⟨s₂, registered, h₂, hrest⟩ | ⟨hstop, hnone⟩
  swap
  · exact .inl ⟨by rw [hstop]; exact hI₂, hnone⟩
  rw [hrest]
  rw [h₂] at hI₂
  have hkeeps₃ : ((parseAndDescribe build b sql options.paramTypes
      (execOptions options)).onlyIf registered described).Keeps I :=
    (hsteady.keeps_parseAndDescribe hparse (execOptions options)).onlyIf
  have hI₃ := hkeeps₃ s₂ hI₂
  rcases Stateful.bind_cases _ _ s₂ with ⟨s₃, again, h₃, hrest⟩ | ⟨hstop, hnone⟩
  swap
  · exact .inl ⟨by rw [hstop]; exact hI₃, hnone⟩
  rw [hrest]
  rw [h₃] at hI₃
  have hdb : getDb s₃ = (s₃, (.ok s₃.db : Outcome ClientError (Instance σ))) := rfl
  rw [Stateful.bind_of_ok hdb]
  rcases Stateful.bind_cases _ _ s₃ with ⟨t, values, hvalues, hrest⟩ | ⟨hstop, hnone⟩
  swap
  · exact .inl ⟨by rw [hstop]; exact hI₃, hnone⟩
  rw [hrest]
  obtain ⟨rfl, -⟩ := Prod.mk.inj hvalues
  refine .inr ⟨s₁, s₂, s₃, described, again, registered, values, h₁, h₂, h₃, hI₃, ?_⟩
  rcases Stateful.bind_cases _ _ s₃ with ⟨s₄, result, h₄, hrest⟩ | ⟨hstop, -⟩
  · rw [hrest, h₄]
    rfl
  · rw [hstop]

/-- Only the last step of the closure of `query_internal` sends a `Bind`. When it is reached,
the steps before it have returned. -/
lemma queryMessages_sends (sql : String) (params : List Value) (options : QueryOptions)
    (s : Session σ) :
    Sent (fun e => ¬ e.IsBind) s.history (queryMessages build b stack sql params options s).1 ∨
    ∃ s₁ s₂ s₃ described again registered e,
      parseAndDescribe build b sql options.paramTypes (execOptions options) s
        = (s₁, .ok described) ∧
      ensureArrayTypesForBindValues (execInternal build b stack) options params
        (parseDescribeStatementResults described) false s₁ = (s₂, .ok registered) ∧
      (parseAndDescribe build b sql options.paramTypes (execOptions options)).onlyIf registered
        described s₂ = (s₃, .ok again) ∧
      Sent (fun e => ¬ e.IsBind) s.history s₃ ∧
      (queryMessages build b stack sql params options s).1.history = s₃.history ++ [e] := by
  have hsteady : Steady build b (Sent (fun e => ¬ e.IsBind) s.history)
      fun request => ¬ ∃ values, request = .bindExecute values :=
    steady_sent (A := fun request => ¬ ∃ values, request = .bindExecute values) s.history
      fun oid => by simp
  have hparse : ¬ ∃ values, Request.parseDescribe sql options.paramTypes = .bindExecute values := by
    simp
  rcases queryMessages_steps hsteady.frame hparse params (Sent.refl s) with
    ⟨hsent, -⟩ | ⟨s₁, s₂, s₃, described, again, registered, values, h₁, h₂, h₃, hsent, hbound⟩
  · exact .inl hsent
  · obtain ⟨e, -, hlast, -⟩ := execProtocol_sends build b (.bindExecute values)
      (execOptions options) s₃
    refine .inr ⟨s₁, s₂, s₃, described, again, registered, e, h₁, h₂, h₃, hsent, ?_⟩
    rw [hbound, hlast]

/-- `query_internal` sends what its closure sends, and then at most lookups for result columns. -/
lemma queryInternal_sends (sql : String) (params : List Value) (options : Option QueryOptions)
    (s : Session σ) :
    (queryInternal build b stack sql params options s).1.history = s.history ∨
    ∃ t, handleBlobInput b (options.getD .default).blob s = (t, .ok ()) ∧
      Sent Exchange.IsQuery
        (queryMessages build b stack sql params (options.getD .default) t).1.history
        (queryInternal build b stack sql params options s).1 := by
  have hframe := handleBlobInput_frame (b := b) (options.getD .default).blob s s
    ⟨⟨rfl, rfl, rfl⟩, rfl⟩
  unfold queryInternal
  rcases Stateful.bind_cases _ _ s with ⟨t, u, hblob, hrest⟩ | ⟨hstop, -⟩
  swap
  · rw [hstop]
    exact .inl hframe.2
  refine .inr ⟨t, hblob, ?_⟩
  rw [hrest]
  have hstate : ((queryMessages build b stack sql params (options.getD .default)).mapErr
      (ClientError.enrich "failed to execute extended query: " sql params options) t).1
        = (queryMessages build b stack sql params (options.getD .default) t).1 :=
    Stateful.mapErr_fst _ _ t
  rcases Stateful.bind_cases _ _ t with ⟨t', messages, hmessages, hrest⟩ | ⟨hstop, -⟩
  swap
  · rw [hstop, hstate]
    exact Sent.refl _
  rw [hrest]
  rw [hmessages] at hstate
  rw [← hstate]
  have hsteady : Steady build b _ _ := steady_queries t'.history
  refine Stateful.Keeps.bind (hsteady.frame.keeps_finishExec hsteady.frame.keeps_lookup messages options)
    (fun parsed => ?_) t' (Sent.refl t')
  split
  · exact keeps_bail
  · exact .pure _

/-! ## The statement at the `Bind` -/

lemma unnamedStatement_append_queries {h l : List Exchange} (hl : ∀ e ∈ l, e.IsQuery)
    (hne : l ≠ []) : unnamedStatement (h ++ l) = none := by
  unfold unnamedStatement
  rw [List.foldl_append]
  exact foldl_unnamedAfter_queries hl hne _

lemma unnamedStatement_append_parse {h : List Exchange} {e : Exchange} {statement : Statement}
    (he : ∀ before, Exchange.unnamedAfter before e = some statement) :
    unnamedStatement (h ++ [e]) = some statement := by
  unfold unnamedStatement
  rw [List.foldl_append]
  exact he _

/-- Only one exchange of a list binds. -/
lemma eq_of_append_bind {a c l m : List Exchange} {x y : Exchange}
    (h : a ++ x :: l = c ++ y :: m) (hx : x.IsBind) (hc : ∀ e ∈ c, ¬ e.IsBind)
    (hm : ∀ e ∈ m, ¬ e.IsBind) : a = c := by
  rcases List.append_eq_append_iff.mp h with ⟨r, hr, hxl⟩ | ⟨r, hr, hym⟩
  · cases r with
    | nil => rw [hr, List.append_nil]
    | cons z r =>
      obtain ⟨rfl, -⟩ := List.cons.inj hxl
      exact absurd hx (hc x (by rw [hr]; simp))
  · cases r with
    | nil => rw [hr, List.append_nil]
    | cons z r =>
      obtain ⟨rfl, hrest⟩ := List.cons.inj hym
      exact absurd hx (hm x (by rw [hrest]; simp))

/-- The lookups of a call do no harm: given the types the backend describes, either no parameter
is looked up, or some lookup is answered with an array type, after which the statement is parsed
again. -/
def LookupsHarmless (build : Build) (b : Backend σ) (stack : ℕ) (sql : String)
    (params : List Value) (options : QueryOptions) (s : Session σ) : Prop :=
  ∀ t s₁ described, handleBlobInput b options.blob s = (t, .ok ()) →
    parseAndDescribe build b sql options.paramTypes (execOptions options) t
      = (s₁, .ok described) →
    NothingLookedUp s.db options params (parseDescribeStatementResults described) ∨
      SomeLookupRegisters (execInternal build b stack) options params
        (parseDescribeStatementResults described) s₁

/-- The statement after the lookups and the second `Parse`, if there is one. -/
lemma unnamedStatement_before_bind {sql : String} {params : List Value} {options : QueryOptions}
    {s s₁ s₂ s₃ : Session σ} {described again : List BackendMessage} {registered : Bool}
    (h₁ : parseAndDescribe build b sql options.paramTypes (execOptions options) s
      = (s₁, .ok described))
    (h₂ : ensureArrayTypesForBindValues (execInternal build b stack) options params
      (parseDescribeStatementResults described) false s₁ = (s₂, .ok registered))
    (h₃ : (parseAndDescribe build b sql options.paramTypes (execOptions options)).onlyIf
      registered described s₂ = (s₃, .ok again)) :
    unnamedStatement s₃.history = some ⟨sql, options.paramTypes⟩ ↔
      NothingLookedUp s₁.db options params (parseDescribeStatementResults described) ∨
        SomeLookupRegisters (execInternal build b stack) options params
          (parseDescribeStatementResults described) s₁ := by
  have hregistered := ensure_registered h₂
  rw [Bool.false_eq_true, false_or] at hregistered
  rw [← hregistered]
  cases registered with
  | true =>
    -- parsed again after the lookups
    obtain ⟨e, hsent, -, hstatement⟩ := parseAndDescribe_sends h₃
    rw [hsent, unnamedStatement_append_parse hstatement]
    simp
  | false =>
    cases h₃
    by_cases hnothing :
        NothingLookedUp s₁.db options params (parseDescribeStatementResults described)
    · rw [ensure_nothing hnothing] at h₂
      cases h₂
      obtain ⟨e, hsent, -, hstatement⟩ := parseAndDescribe_sends h₁
      rw [hsent, unnamedStatement_append_parse hstatement]
      simp [hnothing]
    · obtain ⟨l, hl, hqueries, hne⟩ := ensure_sends h₂
      rw [hl, unnamedStatement_append_queries hqueries (hne hnothing)]
      simp [hnothing]

/-- **Unnamed-statement integrity.** For every SQL text, every parameter list, every backend and
every state of the type registry: when `query_internal` sends its `Bind`, the unnamed statement
is the one its own `Parse` made exactly when the lookups of the call do no harm. -/
theorem bind_finds_statement_iff (sql : String) (params : List Value)
    (options : Option QueryOptions) (s : Session σ) {sent rest : List Exchange} {e : Exchange}
    {values : List BindValue}
    (hsent : (queryInternal build b stack sql params options s).1.history
      = s.history ++ sent ++ e :: rest) (hbind : e.request = .bindExecute values) :
    unnamedStatement (s.history ++ sent) = some ⟨sql, (options.getD .default).paramTypes⟩ ↔
      LookupsHarmless build b stack sql params (options.getD .default) s := by
  have hisBind : e.IsBind := ⟨values, hbind⟩
  rcases queryInternal_sends sql params options s with hnone | ⟨t, hblob, l, hl, hqueries⟩
  · rw [hnone] at hsent
    simp at hsent
  have hframe := handleBlobInput_frame (b := b) (options.getD .default).blob s s
    ⟨⟨rfl, rfl, rfl⟩, rfl⟩
  rw [hblob] at hframe
  have hafter : ∀ x ∈ l, ¬ x.IsBind := fun x hx => (hqueries x hx).not_isBind
  rw [hl] at hsent
  rcases queryMessages_sends sql params (options.getD .default) t with hno | hreached
  · -- no `Bind` was sent at all
    obtain ⟨m, hm, hbefore⟩ := hno
    rw [hm, hframe.2, List.append_assoc, List.append_assoc, List.append_cancel_left_eq] at hsent
    have hmem : e ∈ m ++ l := by rw [hsent]; simp
    rcases List.mem_append.mp hmem with hmem | hmem
    · exact absurd hisBind (hbefore e hmem)
    · exact absurd hisBind (hafter e hmem)
  · obtain ⟨s₁, s₂, s₃, described, again, registered, y, h₁, h₂, h₃, ⟨m, hm, hbefore⟩, hbound⟩ :=
      hreached
    have hsame : sent = m := by
      rw [hbound, hm, hframe.2] at hsent
      simp only [List.append_assoc, List.cons_append, List.nil_append,
        List.append_cancel_left_eq] at hsent
      exact eq_of_append_bind hsent.symm hisBind hbefore hafter
    have hregistry : SameRegistry s s₁ := by
      obtain ⟨parser, x, hstate⟩ := execProtocol_state build b
        (.parseDescribe sql (options.getD .default).paramTypes)
        (execOptions (options.getD .default)) t
      rw [← parseAndDescribe_state, h₁] at hstate
      rw [show s₁ = _ from hstate]
      exact hframe.1
    rw [hsame, ← hframe.2, ← hm, unnamedStatement_before_bind h₁ h₂ h₃,
      hregistry.nothingLookedUp]
    constructor
    · intro h t' s₁' described' hblob' h₁'
      rw [hblob] at hblob'
      cases hblob'
      rw [h₁] at h₁'
      cases h₁'
      exact h
    · exact fun h => h t s₁ described hblob h₁

end Session

/-! ## A backend with one statement -/

namespace OneStatement

/-- The columns of the catalog query. -/
def lookupFields : List Field :=
  [("oid", 26), ("typarray", 26), ("typdelim", 25)].map fun column =>
    { name := column.1, tableId := 0, columnId := 0, dataTypeId := column.2, dataTypeSize := 4,
      dataTypeModifier := -1, format := .text }

/-- The answers to a `Parse` with one parameter of type `oid`, to the catalog query about a type
that is no array type, and to a `Bind` with and without the statement. -/
def described (oid : Int32) : List WireMessage :=
  [.parseComplete, .parameterDescription [oid], .noData, .readyForQuery 'I']

def noArrayType : List WireMessage :=
  [.rowDescription lookupFields, .commandComplete "SELECT 0", .readyForQuery 'I']

def bound : List WireMessage :=
  [.bindComplete, .noData, .commandComplete "INSERT 0 1", .readyForQuery 'I']

def noStatement : List WireMessage :=
  [.error [('S', "ERROR"), ('C', "26000"), ('M', "unnamed prepared statement does not exist")],
    .readyForQuery 'I']

/-- One parameter of type `oid`, which is no array type. The state says whether there is an
unnamed statement, and the first byte of a batch tells what it is. -/
def backend (oid : Int32) : Backend Bool :=
  .answering fun unnamed message =>
    let (unnamed, answer) := match message.head? with
      | some 80 => (true, described oid)
      | some 66 => (unnamed, if unnamed then bound else noStatement)
      | _ => (false, noArrayType)
    (unnamed, .ok (answer.flatMap WireMessage.encode))

/-- A client that knows the types of the catalog query. -/
def client : Session Bool :=
  .opened [] [(26, fun text _ => .ok (.string text)), (25, fun text _ => .ok (.string text))] false

/-- The type of pgvector's `vector`, where the extension has been created. -/
def vectorOid : Int32 := 16400

end OneStatement

namespace Session

open OneStatement

/-- The exchange at a place where the request is known, in a session that started afresh. -/
lemma exists_exchange_at {s₀ s : Session σ} (hstart : s₀.history = []) {n : ℕ} {request : Request}
    (h : (s.history[n]?).map (·.request) = some request) :
    ∃ sent rest e, s.history = s₀.history ++ sent ++ e :: rest ∧ e.request = request ∧
      s₀.history ++ sent = s.history.take n := by
  rw [Option.map_eq_some_iff] at h
  obtain ⟨e, he, hrequest⟩ := h
  obtain ⟨hn, rfl⟩ := List.getElem?_eq_some_iff.mp he
  refine ⟨s.history.take n, s.history.drop (n + 1), _, ?_, hrequest, by rw [hstart]; rfl⟩
  rw [hstart, List.nil_append, ← List.drop_eq_getElem_cons hn, List.take_append_drop]

/-- A parameter that is no array is never looked up, and the `Bind` finds the statement. -/
theorem bind_finds_statement_iff_scalar :
    ∃ sent rest e,
      (queryInternal ⟨false⟩ (backend vectorOid) 3 "INSERT INTO t VALUES ($1)"
        [.string "[1,2]"] none client).1.history = client.history ++ sent ++ e :: rest ∧
      e.request = .bindExecute [.text "[1,2]"] ∧
      unnamedStatement (client.history ++ sent) = some ⟨"INSERT INTO t VALUES ($1)", []⟩ := by
  have hbind : ((queryInternal ⟨false⟩ (backend vectorOid) 3 "INSERT INTO t VALUES ($1)"
      [.string "[1,2]"] none client).1.history[1]?).map (·.request)
        = some (.bindExecute [.text "[1,2]"]) := by decide +kernel
  obtain ⟨sent, rest, e, hsent, he, -⟩ := exists_exchange_at (show client.history = [] from rfl) hbind
  refine ⟨sent, rest, e, hsent, he, ?_⟩
  refine (bind_finds_statement_iff _ _ none client hsent he).mpr ?_
  intro t s₁ described _ _
  exact .inl ⟨rfl, trivial⟩

/-- A vector given as a JSON array: the catalog query about its type destroys the statement and
finds no array type, so the `Bind` finds nothing and the call fails. Where the miss has been
recorded before, the same call succeeds. -/
theorem statement_lost_after_lookup :
    (∃ sent rest e,
      (queryInternal ⟨false⟩ (backend vectorOid) 3 "INSERT INTO t VALUES ($1)"
        [.array [.bool true]] none client).1.history = client.history ++ sent ++ e :: rest ∧
      e.request = .bindExecute [.text "[true]"] ∧
      unnamedStatement (client.history ++ sent) = none) ∧
    (query ⟨false⟩ (backend vectorOid) 3 "INSERT INTO t VALUES ($1)" [.array [.bool true]] none
      client).2.toOption.isSome = false ∧
    (query ⟨false⟩ (backend vectorOid) 3 "INSERT INTO t VALUES ($1)" [.array [.bool true]] none
      (client.withMiss vectorOid)).2.toOption.isSome = true := by
  have hbind : ((queryInternal ⟨false⟩ (backend vectorOid) 3 "INSERT INTO t VALUES ($1)"
      [.array [.bool true]] none client).1.history[2]?).map (·.request)
        = some (.bindExecute [.text "[true]"]) := by decide +kernel
  have hlost : unnamedStatement ((queryInternal ⟨false⟩ (backend vectorOid) 3
      "INSERT INTO t VALUES ($1)" [.array [.bool true]] none client).1.history.take 2)
        = none := by decide +kernel
  obtain ⟨sent, rest, e, hsent, he, htake⟩ :=
    exists_exchange_at (show client.history = [] from rfl) hbind
  refine ⟨⟨sent, rest, e, hsent, he, ?_⟩, ?_, ?_⟩
  · rw [htake]
    exact hlost
  · decide +kernel
  · decide +kernel

end Session

end PgliteOxide.Pglite
