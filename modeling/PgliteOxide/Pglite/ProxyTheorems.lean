import PgliteOxide.Pglite.Proxy
import PgliteOxide.Pglite.WireTheorems

/-!
# What a turn of `handle_stream` does

The footprint of a trace is what the client and the backends see of it. Each program of the proxy
gets one specification: its footprint, whether anything failed, and where the connection is
afterwards. `Turn` collects them, and the invariants of whole runs are proved from `Turn` only.
-/

namespace PgliteOxide.Pglite

open Lib Prog

/-! ## Footprints -/

/-- What the client and the backends see: reads, bytes handed to a backend with the responses to
them, answers to startup packets, bytes that reached the client, backends opened and closed. -/
@[ext]
structure Footprint where
  reads : List Bytes := []
  payloads : List Bytes := []
  responses : List Bytes := []
  startupOutputs : List Bytes := []
  written : List Bytes := []
  opened : List Handle := []
  closed : List Handle := []

namespace Footprint

instance : Append Footprint where
  append a b :=
    { reads := a.reads ++ b.reads
      payloads := a.payloads ++ b.payloads
      responses := a.responses ++ b.responses
      startupOutputs := a.startupOutputs ++ b.startupOutputs
      written := a.written ++ b.written
      opened := a.opened ++ b.opened
      closed := a.closed ++ b.closed }

section

variable (a b : Footprint)

@[simp] lemma reads_append : (a ++ b).reads = a.reads ++ b.reads := rfl
@[simp] lemma payloads_append : (a ++ b).payloads = a.payloads ++ b.payloads := rfl
@[simp] lemma responses_append : (a ++ b).responses = a.responses ++ b.responses := rfl
@[simp] lemma startupOutputs_append :
    (a ++ b).startupOutputs = a.startupOutputs ++ b.startupOutputs := rfl
@[simp] lemma written_append : (a ++ b).written = a.written ++ b.written := rfl
@[simp] lemma opened_append : (a ++ b).opened = a.opened ++ b.opened := rfl
@[simp] lemma closed_append : (a ++ b).closed = a.closed ++ b.closed := rfl

end

end Footprint

/-- The footprint of one operation. -/
def footprintOf : Event Op Answer → Footprint
  | ⟨.read, .ok bytes⟩ => { reads := [bytes] }
  | ⟨.writeAll _ bytes, .ok ()⟩ => { written := [bytes] }
  | ⟨.openBackend _, .ok backend⟩ => { opened := [backend] }
  | ⟨.startup _ _, .ok response⟩ => { startupOutputs := [response.output] }
  | ⟨.sendWithProtocolPump _ _ message _, .ok (.buffered response)⟩ =>
    { payloads := [message], responses := [response] }
  | ⟨.sendWithProtocolPump _ _ message continuation, .ok .streamed⟩ =>
    -- the backend goes on with the continuation
    { payloads := [message ++ continuation] }
  | ⟨.sendWithProtocolPump _ _ message _, .error _⟩ => { payloads := [message] }
  | ⟨.close backend, _⟩ => { closed := [backend] }
  | _ => {}

/-- The footprint of a trace. -/
def footprint : Trace → Footprint
  | [] => {}
  | e :: tr => footprintOf e ++ footprint tr

@[simp] lemma footprint_nil : footprint [] = {} := rfl

@[simp] lemma footprint_cons (e : Event Op Answer) (tr : Trace) :
    footprint (e :: tr) = footprintOf e ++ footprint tr := rfl

@[simp] lemma footprint_append (tr tr' : Trace) :
    footprint (tr ++ tr') = footprint tr ++ footprint tr' := by
  induction tr with
  | nil => rfl
  | cons e tr ih =>
    rw [List.cons_append, footprint_cons, footprint_cons, ih]
    ext1 <;> simp

/-- Everything read from the client so far. -/
def received (tr : Trace) : Bytes := (footprint tr).reads.flatten

@[simp] lemma received_append (tr tr' : Trace) :
    received (tr ++ tr') = received tr ++ received tr' := by
  simp [received]

/-- A message that is only sent when there is something in it. -/
def unlessEmpty (bytes : Bytes) : List Bytes := if bytes = [] then [] else [bytes]

lemma unlessEmpty_of_ne {bytes : Bytes} (hne : bytes ≠ []) : unlessEmpty bytes = [bytes] :=
  if_neg hne

lemma unlessEmpty_cases (bytes : Bytes) : unlessEmpty bytes = [] ∨ unlessEmpty bytes = [bytes] := by
  unfold unlessEmpty
  split_ifs <;> simp

lemma flatten_unlessEmpty (bytes : Bytes) : (unlessEmpty bytes).flatten = bytes := by
  unfold unlessEmpty
  split_ifs with hempty <;> simp [hempty]

/-! ## Failures -/

/-- An answer `handle_stream` can live with: it does not end the connection with an error. -/
def tolerated : Event Op Answer → Bool
  | ⟨.read, .error _⟩ => false
  | ⟨.writeAll site _, .error kind⟩ => site ≠ .backendResponse && isConnectionClosedError kind
  | ⟨.flush closeAfterFlush, .error kind⟩ => closeAfterFlush && isConnectionClosedError kind
  | ⟨.tryCloneForProtocol, .error _⟩ => false
  | ⟨.startup _ _, .error _⟩ => false
  | ⟨.enableExtensions _, .error _⟩ => false
  | ⟨.send .setRole _ _, .error _⟩ => false
  | ⟨.attachProtocolStream _, .error _⟩ => false
  | ⟨.sendWithProtocolPump _ _ _ _, .error _⟩ => false
  | ⟨.sendWithProtocolPump .controlPacket _ _ _, .ok .streamed⟩ => false
  | _ => true

/-- An answer that lets the connection go on: nothing fails, the startup and the role are
accepted, and the backend does not take over the stream. -/
def smooth : Event Op Answer → Bool
  | ⟨.read, .error _⟩ => false
  | ⟨.writeAll _ _, .error _⟩ => false
  | ⟨.flush _, .error _⟩ => false
  | ⟨.tryCloneForProtocol, .error _⟩ => false
  | ⟨.openBackend _, .error _⟩ => false
  | ⟨.startup _ _, .error _⟩ => false
  | ⟨.startup _ _, .ok response⟩ => response.accepted && !responseContainsError response.output
  | ⟨.enableExtensions _, .error _⟩ => false
  | ⟨.send .setRole _ _, .error _⟩ => false
  | ⟨.send .setRole _ _, .ok response⟩ => !responseContainsError response
  | ⟨.attachProtocolStream _, .error _⟩ => false
  | ⟨.sendWithProtocolPump _ _ _ _, .error _⟩ => false
  | ⟨.sendWithProtocolPump _ _ _ _, .ok .streamed⟩ => false
  | _ => true

/-- The backend takes over the stream at a protocol message. -/
def handover : Event Op Answer → Bool
  | ⟨.sendWithProtocolPump .protocolMessage _ _ _, .ok .streamed⟩ => true
  | _ => false

/-- What keeps the connection going is tolerated. -/
lemma tolerated_of_smooth {e : Event Op Answer} (h : smooth e = true) : tolerated e = true := by
  obtain ⟨op, ans⟩ := e
  cases op with
  | sendReady | loadShutdown | supportsProtocolPump | close => rfl
  | accept | setNonblocking | openBackend | read | writeAll | flush | tryCloneForProtocol
  | startup | enableExtensions | attachProtocolStream =>
    rcases ans with err | a
    · first | rfl | cases h
    · rfl
  | send site =>
    cases site
    · rcases ans with err | a
      · cases h
      · rfl
    · rfl
  | sendWithProtocolPump site =>
    rcases ans with err | response | _
    · cases h
    · cases site <;> rfl
    · cases h

/-! ## Writing -/

/-- `write_frontend` reports success, a closed connection, or an error. -/
lemma wp_writeFrontend (site : WriteSite) (bytes : Bytes)
    (Q : Trace → Except ProxyError Bool → Prop) :
    (writeFrontend site bytes).wp Q ↔
      Q [⟨.writeAll site bytes, .ok ()⟩] (.ok true) ∧
      ∀ kind, if isConnectionClosedError kind then Q [⟨.writeAll site bytes, .error kind⟩] (.ok false)
        else Q [⟨.writeAll site bytes, .error kind⟩] (.error (.io site.context kind)) := by
  simp only [writeFrontend, wp_bind, wp_perform]
  constructor
  · intro h
    refine ⟨h (.ok ()), fun kind => ?_⟩
    have hk := h (.error kind)
    split_ifs with hclosed
    · simpa [hclosed] using hk
    · simpa [hclosed] using hk
  · intro h ans
    rcases ans with kind | ⟨⟩
    · have hk := h.2 kind
      simp only [wp_ite]
      split_ifs at hk with hclosed
      · exact ⟨fun _ => hk, fun hn => absurd hclosed hn⟩
      · exact ⟨fun hn => absurd hn hclosed, fun _ => hk⟩
    · exact h.1

/-- An empty response is not written, a failed write is an error. -/
lemma wp_writeBackendResponse (response : Bytes) (Q : Trace → Except ProxyError Unit → Prop) :
    (writeBackendResponse response).wp Q ↔
      if response = [] then Q [] (.ok ())
      else Q [⟨.writeAll .backendResponse response, .ok ()⟩] (.ok ()) ∧
        ∀ kind, Q [⟨.writeAll .backendResponse response, .error kind⟩]
          (.error (.io WriteSite.backendResponse.context kind)) := by
  unfold writeBackendResponse
  split_ifs with hempty
  · exact Iff.rfl
  · simp only [wp_bind, wp_perform]
    constructor
    · intro h
      exact ⟨h (.ok ()), fun kind => h (.error kind)⟩
    · intro h ans
      rcases ans with kind | ⟨⟩
      · exact h.2 kind
      · exact h.1

/-! ## The protocol batch -/

/-- Sending a batch: its response is written, or the backend takes over the stream, or something
failed. -/
lemma flushProtocolBatch_spec {site : FlushSite} {batch : Bytes} (hne : batch ≠ [])
    (backend : Handle) (continuation : Bytes) :
    (flushProtocolBatch site batch backend continuation).wp fun tr r =>
      (∃ response, r = .ok .continue ∧
        footprint tr
          = { payloads := [batch], responses := [response], written := unlessEmpty response } ∧
        ∀ e ∈ tr, tolerated e = true) ∨
      (r = .ok .streamed ∧ footprint tr = { payloads := [batch ++ continuation] } ∧
        ∃ e ∈ tr, smooth e = false ∧ handover e = decide (site = .protocolMessage) ∧
          ∀ e ∈ tr, tolerated e = decide (site = .protocolMessage)) ∨
      ∃ err responses, r = .error err ∧
        footprint tr = { payloads := [batch], responses := responses } ∧
        ∃ e ∈ tr, tolerated e = false := by
  simp only [flushProtocolBatch, hne, if_false, wp_bind, wp_perform]
  intro ans
  rcases ans with err | response | _
  · right; right
    exact ⟨_, [], rfl, rfl, _, List.mem_singleton_self _, rfl⟩
  · simp only [wp_bind, wp_writeBackendResponse]
    split_ifs with hempty
    · left
      refine ⟨response, rfl, ?_, ?_⟩
      · rw [unlessEmpty, if_pos hempty]
        rfl
      · cases site <;> simp [tolerated]
    · constructor
      · left
        refine ⟨response, rfl, ?_, ?_⟩
        · rw [unlessEmpty_of_ne hempty]
          rfl
        · cases site <;> simp [tolerated]
      · intro kind
        right; right
        exact ⟨_, [response], rfl, rfl, ⟨.writeAll .backendResponse response, .error kind⟩,
          by simp, rfl⟩
  · right; left
    refine ⟨rfl, rfl, _, List.mem_singleton_self _, rfl, ?_⟩
    cases site <;> simp [tolerated, handover]

/-- A batch is only sent to a backend, so there is one or the batch is empty. -/
def flushFine (st : StreamState) : Bool := st.protocolBatch.isEmpty || st.backend.isSome

/-- Flushing before a control packet or at the end of the stream. -/
lemma flushProtocolBatchIfStarted_spec (st : StreamState) :
    (flushProtocolBatchIfStarted st).wp fun tr r =>
      (r = .ok { st with protocolBatch := [] } ∧ flushFine st = true ∧
        (∃ responses written, written.flatten = responses.flatten ∧
          (st.protocolBatch = [] → responses = []) ∧
          footprint tr = { payloads := unlessEmpty st.protocolBatch, responses := responses,
                           written := written }) ∧
        ∀ e ∈ tr, tolerated e = true) ∨
      ∃ err payloads responses, r = .error err ∧
        (payloads = [] ∨ payloads = [st.protocolBatch]) ∧
        footprint tr = { payloads := payloads, responses := responses } ∧
        (flushFine st = false ∨ ∃ e ∈ tr, tolerated e = false) := by
  unfold flushProtocolBatchIfStarted
  split_ifs with hempty
  · left
    refine ⟨?_, ?_, ⟨[], [], rfl, fun _ => rfl, ?_⟩, by simp⟩
    · rw [← hempty]
    · simp [flushFine, hempty]
    · rw [unlessEmpty, if_pos hempty]
      rfl
  · cases hbackend : st.backend with
    | none =>
      right
      refine ⟨_, [], [], rfl, Or.inl rfl, rfl, Or.inl ?_⟩
      simp [flushFine, hempty, hbackend]
    | some backend =>
      simp only [wp_bind]
      apply wp_mono (flushProtocolBatch_spec hempty backend [])
      intro tr r h
      rcases h with ⟨response, rfl, hfoot, htol⟩ | ⟨rfl, hfoot, e, he, -, -, htol⟩
        | ⟨err, responses, rfl, hfoot, htol⟩
      · left
        simp only [List.append_nil]
        refine ⟨trivial, ?_,
          ⟨[response], unlessEmpty response, ?_, fun h => absurd h hempty, ?_⟩, htol⟩
        · simp [flushFine, hbackend]
        · exact (flatten_unlessEmpty response).trans (List.append_nil _).symm
        · rw [hfoot, unlessEmpty_of_ne hempty]
      · right
        simp only [List.append_nil]
        rw [List.append_nil] at hfoot
        exact ⟨_, _, [], rfl, Or.inr rfl, hfoot, Or.inr ⟨e, he, htol e he⟩⟩
      · right
        exact ⟨err, _, responses, rfl, Or.inr rfl, hfoot, Or.inr htol⟩

/-! ## Cleanup -/

/-- Resetting a session never fails, whatever the backend answers. -/
lemma resetSessionState_spec (backend : Handle) (sqls : List String) :
    (resetSessionState backend sqls).wp fun tr r =>
      footprint tr = {} ∧ (∀ e ∈ tr, tolerated e = true) ∧ ∃ result, r = .ok result := by
  induction sqls with
  | nil => exact ⟨rfl, by simp, _, rfl⟩
  | cons sql sqls ih =>
    simp only [resetSessionState, wp_bind, wp_perform]
    intro ans
    rcases ans with err | response
    · exact ⟨rfl, by simp [tolerated], _, rfl⟩
    · simp only [wp_ite]
      constructor
      · intro _
        exact ⟨rfl, by simp [tolerated], _, rfl⟩
      · intro _
        apply wp_mono ih
        intro tr r h
        refine ⟨?_, ?_, h.2.2⟩
        · rw [List.singleton_append, footprint_cons, h.1]
          rfl
        · simpa [tolerated] using h.2.1

/-- The cleanup closes the backend, if there is one, and cannot fail. -/
lemma connectionCleanup_spec (backend : Option Handle) :
    (connectionCleanup backend).wp fun tr r =>
      r = .ok () ∧ footprint tr = { closed := backend.toList } ∧ ∀ e ∈ tr, tolerated e = true := by
  cases backend with
  | none => exact ⟨rfl, rfl, by simp⟩
  | some backend =>
    simp only [connectionCleanup, rollbackConnectionState, closeBackend, wp_bind]
    apply wp_mono (resetSessionState_spec backend _)
    intro tr r h
    obtain ⟨hfoot, htol, result, rfl⟩ := h
    simp only [wp_pure, wp_perform, List.append_nil]
    intro ans
    refine ⟨trivial, ?_, ?_⟩
    · rw [footprint_append, hfoot]
      rfl
    · intro e he
      rcases List.mem_append.mp he with he | he
      · exact htol e he
      · rw [List.mem_singleton.mp he]
        rfl

/-! ## The startup arm -/

/-- After an accepted startup: the role stands, or it was rejected and the backend closed, or
something failed. -/
lemma startupRoleRejected_spec (backend : Handle) (message : Bytes) :
    (startupRoleRejected backend message).wp fun tr r =>
      (r = .ok false ∧ footprint tr = {} ∧ ∀ e ∈ tr, tolerated e = true) ∨
      (r = .ok true ∧ (∃ written, footprint tr = { written := written, closed := [backend] }) ∧
        (∀ e ∈ tr, tolerated e = true) ∧ ∃ e ∈ tr, smooth e = false) ∨
      ∃ err, r = .error err ∧ footprint tr = {} ∧
        ((∃ e ∈ tr, tolerated e = false) ∨
          ∃ text, startupParameter message "user" = .error text) := by
  simp only [startupRoleRejected, wp_bind, wp_perform]
  intro ans
  rcases ans with err | ⟨⟩
  · right; right
    exact ⟨_, rfl, rfl, Or.inl ⟨_, List.mem_singleton_self _, rfl⟩⟩
  · rcases hparam : startupParameter message "user" with text | _ | user
    · right; right
      exact ⟨_, rfl, rfl, Or.inr ⟨text, rfl⟩⟩
    · left
      exact ⟨rfl, rfl, by simp [tolerated]⟩
    · simp only [wp_ite]
      constructor
      · intro _
        left
        exact ⟨rfl, rfl, by simp [tolerated]⟩
      · intro _
        simp only [setRole, wp_bind, wp_perform]
        intro ans
        rcases ans with err | response
        · right; right
          exact ⟨_, rfl, rfl, Or.inl (by simp [tolerated])⟩
        · simp only [wp_ite, wp_pure, wp_bind, wp_writeFrontend, closeBackend, wp_perform]
          constructor
          · intro herror
            constructor
            · intro _
              right; left
              exact ⟨trivial, ⟨[response], rfl⟩, by simp [tolerated], by simp [smooth, herror]⟩
            · intro kind
              split_ifs with hclosed
              · intro _
                right; left
                exact ⟨trivial, ⟨[], rfl⟩, by simp [tolerated, hclosed],
                  by simp [smooth, herror]⟩
              · right; right
                exact ⟨_, rfl, rfl, Or.inl (by simp [tolerated, hclosed])⟩
          · intro _
            left
            exact ⟨trivial, rfl, by simp [tolerated]⟩

/-- The backend is attached and kept, or closed when Postgres refused the startup. -/
lemma finishStartup_spec (st : StreamState) (backend : Handle) (responseAccepted : Bool)
    (rest : List Bytes) (close : Bool) :
    (finishStartup st backend responseAccepted rest close).wp fun tr r =>
      (responseAccepted = true ∧ r = .ok (.handling { st with backend := some backend } rest close) ∧
        footprint tr = {} ∧ ∀ e ∈ tr, tolerated e = true) ∨
      (responseAccepted = false ∧ r = .ok (.handling st rest true) ∧
        footprint tr = { closed := [backend] } ∧ ∀ e ∈ tr, tolerated e = true) ∨
      ∃ err, r = .error err ∧ footprint tr = {} ∧ ∃ e ∈ tr, tolerated e = false := by
  cases responseAccepted with
  | false =>
    intro ans
    right; left
    exact ⟨rfl, rfl, rfl, by simp [tolerated]⟩
  | true =>
    simp only [finishStartup, if_true, wp_bind, wp_perform, wp_ite]
    intro supports
    constructor
    · intro _ ans
      rcases ans with kind | ⟨⟩
      · right; right
        exact ⟨_, rfl, rfl, by simp [tolerated]⟩
      · simp only [wp_bind, wp_perform]
        intro ans
        rcases ans with err | ⟨⟩
        · right; right
          exact ⟨_, rfl, rfl, by simp [tolerated]⟩
        · left
          exact ⟨trivial, rfl, rfl, by simp [tolerated]⟩
    · intro _
      left
      exact ⟨trivial, rfl, rfl, by simp [tolerated]⟩

/-- The startup response reaches the client and the startup is finished, or the client is gone and
the backend closed, or something failed. -/
lemma startupResponse_spec (st : StreamState) (backend : Handle) (out : Bytes)
    (responseAccepted : Bool) (rest : List Bytes) (close : Bool) :
    (do
      let written ← writeFrontend .startupResponse out
      if written then
        finishStartup st backend responseAccepted rest close
      else do
        closeBackend backend
        return .handling st [] true : ProxyM Connection).wp fun tr r =>
      (responseAccepted = true ∧ r = .ok (.handling { st with backend := some backend } rest close) ∧
        footprint tr = { written := [out] } ∧ ∀ e ∈ tr, tolerated e = true) ∨
      (∃ written rest', r = .ok (.handling st rest' true) ∧ (rest' = [] ∨ rest' = rest) ∧
        footprint tr = { written := written, closed := [backend] } ∧
        (∀ e ∈ tr, tolerated e = true) ∧ (responseAccepted = false ∨ ∃ e ∈ tr, smooth e = false)) ∨
      ∃ err written, r = .error err ∧ footprint tr = { written := written } ∧
        ∃ e ∈ tr, tolerated e = false := by
  rw [wp_bind, wp_writeFrontend]
  constructor
  · simp only [if_true]
    apply wp_mono (finishStartup_spec st backend responseAccepted rest close)
    intro tr r h
    have hfirst : tolerated ⟨.writeAll .startupResponse out, .ok ()⟩ = true := rfl
    rcases h with ⟨hacc, rfl, hfoot, htol⟩ | ⟨hacc, rfl, hfoot, htol⟩ | ⟨err, rfl, hfoot, htol⟩
    · left
      refine ⟨hacc, rfl, ?_, List.forall_mem_cons.mpr ⟨hfirst, htol⟩⟩
      rw [List.singleton_append, footprint_cons, hfoot]
      rfl
    · right; left
      refine ⟨[out], rest, rfl, Or.inr rfl, ?_, List.forall_mem_cons.mpr ⟨hfirst, htol⟩,
        Or.inl hacc⟩
      rw [List.singleton_append, footprint_cons, hfoot]
      rfl
    · right; right
      refine ⟨err, [out], rfl, ?_, List.exists_mem_cons_of_exists htol⟩
      rw [List.singleton_append, footprint_cons, hfoot]
      rfl
  · intro kind
    split_ifs with hclosed
    · simp only [closeBackend, wp_bind, wp_perform, Bool.false_eq_true, if_false]
      intro ans
      right; left
      exact ⟨[], [], rfl, Or.inl rfl, rfl, by simp [tolerated, hclosed],
        Or.inr (by simp [smooth])⟩
    · right; right
      exact ⟨_, [], rfl, rfl, by simp [tolerated, hclosed]⟩

/-- With a backend open: the client is let in, or turned away and the backend closed, or
something failed. -/
lemma startOpened_spec (st : StreamState) (backend : Handle) (message : Bytes)
    (rest : List Bytes) (close : Bool) :
    (startOpened st backend message rest close).wp fun tr r =>
      (∃ out, r = .ok (.handling { st with backend := some backend } rest close) ∧
        footprint tr = { startupOutputs := [out], written := [out] } ∧
        ∀ e ∈ tr, tolerated e = true) ∨
      (∃ outs written rest', r = .ok (.handling st rest' true) ∧ (rest' = [] ∨ rest' = rest) ∧
        footprint tr = { startupOutputs := outs, written := written, closed := [backend] } ∧
        (∀ e ∈ tr, tolerated e = true) ∧ ∃ e ∈ tr, smooth e = false) ∨
      ∃ err outs written, r = .error err ∧
        footprint tr = { startupOutputs := outs, written := written } ∧
        ((∃ e ∈ tr, tolerated e = false) ∨
          ∃ text, startupParameter message "user" = .error text) := by
  simp only [startOpened, wp_bind, wp_perform]
  intro ans
  rcases ans with err | response
  · right; right
    exact ⟨_, [], [], rfl, rfl, Or.inl (by simp [tolerated])⟩
  · have hfirst : tolerated ⟨.startup backend message, .ok response⟩ = true := rfl
    dsimp only
    cases hacc : response.accepted && !responseContainsError response.output with
    | false =>
      -- Postgres refused: the backend is closed once the response is written
      have hrefused : smooth ⟨.startup backend message, .ok response⟩ = false := hacc
      apply wp_mono (startupResponse_spec st backend response.output false rest close)
      intro tr r h
      rcases h with ⟨hacc, -⟩ | ⟨written, rest', rfl, hrest, hfoot, htol, -⟩
        | ⟨err, written, rfl, hfoot, htol⟩
      · cases hacc
      · right; left
        refine ⟨[response.output], written, rest', rfl, hrest, ?_,
          List.forall_mem_cons.mpr ⟨hfirst, htol⟩, _, List.mem_cons_self, hrefused⟩
        simp [hfoot, footprintOf, Footprint.ext_iff]
      · right; right
        refine ⟨err, [response.output], written, rfl, ?_, Or.inl (List.exists_mem_cons_of_exists htol)⟩
        simp [hfoot, footprintOf, Footprint.ext_iff]
    | true =>
      simp only [if_true, wp_bind]
      apply wp_mono (startupRoleRejected_spec backend message)
      intro tr r h
      rcases h with ⟨rfl, hfoot, htol⟩ | ⟨rfl, ⟨written, hfoot⟩, htol, hrough⟩
        | ⟨err, rfl, hfoot, hfail⟩
      · apply wp_mono (startupResponse_spec st backend response.output true rest close)
        intro tr' r h
        have htr : ∀ {p : Event Op Answer → Prop}, (∃ e ∈ tr', p e) →
            ∃ e ∈ ⟨.startup backend message, .ok response⟩ :: (tr ++ tr'), p e := by
          intro p hp
          exact hp.imp fun e he => ⟨List.mem_cons_of_mem _ (List.mem_append_right _ he.1), he.2⟩
        have hall : (∀ e ∈ tr', tolerated e = true) →
            ∀ e ∈ ⟨.startup backend message, .ok response⟩ :: (tr ++ tr'), tolerated e = true := by
          intro htol'
          exact List.forall_mem_cons.mpr ⟨hfirst, List.forall_mem_append.mpr ⟨htol, htol'⟩⟩
        rcases h with ⟨-, rfl, hfoot', htol'⟩ | ⟨written, rest', rfl, hrest, hfoot', htol', hrough⟩
          | ⟨err, written, rfl, hfoot', hfail⟩
        · left
          refine ⟨response.output, rfl, ?_, hall htol'⟩
          simp [hfoot, hfoot', footprintOf, Footprint.ext_iff]
        · right; left
          rcases hrough with hrough | hrough
          · cases hrough
          · refine ⟨[response.output], written, rest', rfl, hrest, ?_, hall htol', htr hrough⟩
            simp [hfoot, hfoot', footprintOf, Footprint.ext_iff]
        · right; right
          refine ⟨err, [response.output], written, rfl, ?_, Or.inl (htr hfail)⟩
          simp [hfoot, hfoot', footprintOf, Footprint.ext_iff]
      · right; left
        refine ⟨[response.output], written, [], rfl, Or.inl rfl, ?_, ?_, ?_⟩
        · simp [hfoot, footprintOf, Footprint.ext_iff]
        · simpa [tolerated] using htol
        · simpa using Or.inr hrough
      · right; right
        refine ⟨err, [response.output], [], rfl, ?_, ?_⟩
        · simp [hfoot, footprintOf, Footprint.ext_iff]
        · exact hfail.imp List.exists_mem_cons_of_exists id

/-! ## Turns -/

/-- The client's input does not make a message fatal to the connection. -/
def messageFine (proxy : PgliteProxy) (st : StreamState) (message : Bytes) (rest : List Bytes) :
    Bool :=
  match classifyFrontendMessage message with
  | .error _ => false
  | .ok .startup => st.backend.isNone && st.protocolBatch.isEmpty &&
      (startupConfigForMessage proxy.startupConfig message).isOk
  | .ok .protocol => !shouldFlushProtocolBatch message rest.isEmpty || st.backend.isSome
  | .ok _ => flushFine st

/-- What is read does not make the connection fail: the bytes can be framed, and the stream does
not end with protocol messages of a client that never started up. -/
def readFine (st : StreamState) (bytes : Bytes) : Bool :=
  if bytes = [] then flushFine st else (st.reader.push bytes).2.isOk

/-- Nothing in a step is fatal to the connection: neither the client's input nor an answer of the
socket or the backend. -/
def fine (proxy : PgliteProxy) (c : Connection) (tr : Trace) : Bool :=
  tr.all tolerated &&
  match c with
  | .reading st => (footprint tr).reads.all (readFine st)
  | .handling st (message :: rest) _ => messageFine proxy st message rest
  | _ => true

section

variable {proxy : PgliteProxy} {c : Connection} {tr : Trace}

lemma not_fine_of_mem (h : ∃ e ∈ tr, tolerated e = false) : fine proxy c tr = false := by
  obtain ⟨e, he, htol⟩ := h
  have hall : tr.all tolerated = false := List.all_eq_false.mpr ⟨e, he, by simp [htol]⟩
  unfold fine
  rw [hall, Bool.false_and]

lemma fine_reading {st : StreamState} {bytes : Bytes} (hreads : (footprint tr).reads = [bytes])
    (htol : ∀ e ∈ tr, tolerated e = true) :
    fine proxy (.reading st) tr = readFine st bytes := by
  simp [fine, List.all_eq_true.mpr htol, hreads]

lemma not_fine_of_read {st : StreamState} {bytes : Bytes}
    (hreads : (footprint tr).reads = [bytes]) (h : readFine st bytes = false) :
    fine proxy (.reading st) tr = false := by
  simp [fine, hreads, h]

lemma fine_handling {st : StreamState} {message : Bytes} {rest : List Bytes} {close : Bool}
    (htol : ∀ e ∈ tr, tolerated e = true) :
    fine proxy (.handling st (message :: rest) close) tr = messageFine proxy st message rest := by
  rw [fine, List.all_eq_true.mpr htol, Bool.true_and]

lemma not_fine_of_message {st : StreamState} {message : Bytes} {rest : List Bytes} {close : Bool}
    (h : messageFine proxy st message rest = false) :
    fine proxy (.handling st (message :: rest) close) tr = false := by
  rw [fine, h, Bool.and_false]

end

/-- **Everything one turn of `handle_stream` can do.** -/
inductive Turn (proxy : PgliteProxy) : Connection → Trace → Connection → Prop
  /-- The socket cannot be read. -/
  | readFailed {st : StreamState} {tr : Trace} {err : ProxyError} (hfoot : footprint tr = {})
      (hfine : fine proxy (.reading st) tr = false) :
      Turn proxy (.reading st) tr (.returned (.error err))
  /-- Bytes were read and cut into messages. -/
  | framed {st : StreamState} {tr : Trace} {bytes : Bytes} {reader : FrontendFrameReader}
      {messages : List Bytes} (hfoot : footprint tr = { reads := [bytes] }) (hne : bytes ≠ [])
      (hpush : st.reader.push bytes = (reader, .ok messages))
      (hfine : fine proxy (.reading st) tr = true) :
      Turn proxy (.reading st) tr (.handling { st with reader := reader } messages false)
  /-- Bytes were read that cannot be cut. -/
  | badFrame {st : StreamState} {tr : Trace} {bytes : Bytes} {err : ProxyError}
      (hfoot : footprint tr = { reads := [bytes] })
      (hfine : fine proxy (.reading st) tr = false) :
      Turn proxy (.reading st) tr (.returned (.error err))
  /-- The stream ended: the batch is sent and the backend closed. -/
  | ended {st : StreamState} {tr : Trace} {responses written : List Bytes}
      (hfoot : footprint tr
        = { reads := [[]], payloads := unlessEmpty st.protocolBatch, responses := responses,
            written := written, closed := st.backend.toList })
      (hwritten : written.flatten = responses.flatten)
      (hfine : fine proxy (.reading st) tr = true) :
      Turn proxy (.reading st) tr (.returned (.ok ()))
  /-- The stream ended and the batch cannot be sent. -/
  | endFailed {st : StreamState} {tr : Trace} {payloads responses : List Bytes} {err : ProxyError}
      (hfoot : footprint tr = { reads := [[]], payloads := payloads, responses := responses })
      (hsent : payloads = [] ∨ payloads = [st.protocolBatch])
      (hfine : fine proxy (.reading st) tr = false) :
      Turn proxy (.reading st) tr (.returned (.error err))
  /-- Encryption is refused; the client may be gone. -/
  | sslRefused {st : StreamState} {message : Bytes} {rest : List Bytes} {close gone : Bool}
      {tr : Trace} {responses written refusal : List Bytes}
      (hkind : classifyFrontendMessage message = .ok .sslOrGssRequest)
      (hfoot : footprint tr
        = { payloads := unlessEmpty st.protocolBatch, responses := responses,
            written := written ++ refusal })
      (hwritten : written.flatten = responses.flatten)
      (hidle : st.protocolBatch = [] → responses = [])
      (hgone : gone = false ∧ refusal = [[78]] ∨
        gone = true ∧ refusal = [] ∧ ∃ e ∈ tr, smooth e = false)
      (hfine : fine proxy (.handling st (message :: rest) close) tr = true) :
      Turn proxy (.handling st (message :: rest) close) tr
        (.handling { st with protocolBatch := [] } rest (close || gone))
  /-- The client takes its leave. -/
  | closing {st : StreamState} {message : Bytes} {rest : List Bytes} {close : Bool}
      {tr : Trace} {responses written : List Bytes}
      (hkind : classifyFrontendMessage message = .ok .cancelRequest ∨
        classifyFrontendMessage message = .ok .terminate)
      (hfoot : footprint tr
        = { payloads := unlessEmpty st.protocolBatch, responses := responses, written := written })
      (hwritten : written.flatten = responses.flatten)
      (hfine : fine proxy (.handling st (message :: rest) close) tr = true) :
      Turn proxy (.handling st (message :: rest) close) tr
        (.handling { st with protocolBatch := [] } rest true)
  /-- A backend was opened and the client let in. -/
  | accepted {st : StreamState} {message : Bytes} {rest : List Bytes} {close : Bool}
      {tr : Trace} {backend : Handle} {out : Bytes}
      (hkind : classifyFrontendMessage message = .ok .startup) (hnone : st.backend = none)
      (hbatch : st.protocolBatch = [])
      (hfoot : footprint tr
        = { startupOutputs := [out], written := [out], opened := [backend] })
      (hfine : fine proxy (.handling st (message :: rest) close) tr = true) :
      Turn proxy (.handling st (message :: rest) close) tr
        (.handling { st with backend := some backend } rest close)
  /-- The client was turned away and the backend, if one was opened, closed again. -/
  | turnedAway {st : StreamState} {message : Bytes} {rest rest' : List Bytes} {close : Bool}
      {tr : Trace} {backends : List Handle} {outs written : List Bytes}
      (hkind : classifyFrontendMessage message = .ok .startup) (hnone : st.backend = none)
      (hrest : rest' = [] ∨ rest' = rest)
      (hfoot : footprint tr
        = { startupOutputs := outs, written := written, opened := backends, closed := backends })
      (hrough : ∃ e ∈ tr, smooth e = false)
      (hfine : fine proxy (.handling st (message :: rest) close) tr = true) :
      Turn proxy (.handling st (message :: rest) close) tr (.handling st rest' true)
  /-- A protocol message was put into the batch. -/
  | held {st : StreamState} {message : Bytes} {rest : List Bytes} {close : Bool} {tr : Trace}
      (hkind : classifyFrontendMessage message = .ok .protocol)
      (hkeep : shouldFlushProtocolBatch message rest.isEmpty = false)
      (hfoot : footprint tr = {})
      (hfine : fine proxy (.handling st (message :: rest) close) tr = true) :
      Turn proxy (.handling st (message :: rest) close) tr
        (.handling { st with protocolBatch := st.protocolBatch ++ message } rest close)
  /-- A protocol message was sent with the batch. -/
  | sent {st : StreamState} {message : Bytes} {rest : List Bytes} {close : Bool} {tr : Trace}
      {responses written : List Bytes}
      (hkind : classifyFrontendMessage message = .ok .protocol)
      (hflush : shouldFlushProtocolBatch message rest.isEmpty = true)
      (hfoot : footprint tr
        = { payloads := [st.protocolBatch ++ message], responses := responses, written := written })
      (hwritten : written.flatten = responses.flatten)
      (hfine : fine proxy (.handling st (message :: rest) close) tr = true) :
      Turn proxy (.handling st (message :: rest) close) tr
        (.handling { st with protocolBatch := [] } rest close)
  /-- The backend took over the stream. -/
  | streamed {st : StreamState} {message : Bytes} {rest : List Bytes} {close : Bool} {tr : Trace}
      (hkind : classifyFrontendMessage message = .ok .protocol)
      (hfoot : footprint tr
        = { payloads := [st.protocolBatch ++ message ++ continuationPrefix rest st.reader],
            closed := st.backend.toList })
      (hhandover : ∃ e ∈ tr, smooth e = false ∧ handover e = true)
      (hfine : fine proxy (.handling st (message :: rest) close) tr = true) :
      Turn proxy (.handling st (message :: rest) close) tr (.returned (.ok ()))
  /-- The message, the socket or the backend was at fault. -/
  | messageFailed {st : StreamState} {message : Bytes} {rest : List Bytes} {close : Bool}
      {tr : Trace} {err : ProxyError} (hreads : (footprint tr).reads = [])
      (hclosed : (footprint tr).closed = [])
      (hsent : (footprint tr).payloads = [] ∨ (footprint tr).payloads = [st.protocolBatch] ∨
        classifyFrontendMessage message = .ok .protocol ∧
          (footprint tr).payloads = [st.protocolBatch ++ message])
      (hfine : fine proxy (.handling st (message :: rest) close) tr = false) :
      Turn proxy (.handling st (message :: rest) close) tr (.returned (.error err))
  /-- All messages of the read are handled. -/
  | goOn {st : StreamState} {tr : Trace} (hfoot : footprint tr = {})
      (hfine : fine proxy (.handling st [] false) tr = true) :
      Turn proxy (.handling st [] false) tr (.reading st)
  /-- The connection is closed. -/
  | finished {st : StreamState} {tr : Trace}
      (hfoot : footprint tr = { closed := st.backend.toList })
      (hfine : fine proxy (.handling st [] true) tr = true) :
      Turn proxy (.handling st [] true) tr (.returned (.ok ()))
  /-- The socket cannot be flushed. -/
  | flushFailed {st : StreamState} {close : Bool} {tr : Trace} {err : ProxyError}
      (hfoot : footprint tr = {}) (hfine : fine proxy (.handling st [] close) tr = false) :
      Turn proxy (.handling st [] close) tr (.returned (.error err))

variable (proxy : PgliteProxy)

/-- The rest of `read`, at the end of the stream. -/
lemma endOfStream_turn (st : StreamState) :
    (do
      let st ← flushProtocolBatchIfStarted st
      connectionCleanup st.backend
      return .returned (.ok ()) : ProxyM Connection).wp fun tr r =>
      Turn proxy (.reading st) (⟨.read, .ok []⟩ :: tr) ((handleStream proxy).settle r) := by
  rw [wp_bind]
  apply wp_mono (flushProtocolBatchIfStarted_spec st)
  intro tr r h
  rcases h with ⟨rfl, hflush, ⟨responses, written, hwritten, hidle, hfoot⟩, htol⟩
    | ⟨err, payloads, responses, rfl, hsent, hfoot, hfail⟩
  · simp only [wp_bind, wp_pure, List.append_nil]
    apply wp_mono (connectionCleanup_spec st.backend)
    intro tr' r' h
    obtain ⟨rfl, hfoot', htol'⟩ := h
    have hall : footprint (⟨.read, .ok []⟩ :: (tr ++ tr'))
        = { reads := [[]], payloads := unlessEmpty st.protocolBatch, responses := responses,
            written := written, closed := st.backend.toList } := by
      simp [hfoot, hfoot', footprintOf, Footprint.ext_iff]
    apply Turn.ended hall hwritten
    rw [fine_reading (by rw [hall])]
    · exact hflush
    · exact List.forall_mem_cons.mpr ⟨rfl, List.forall_mem_append.mpr ⟨htol, htol'⟩⟩
  · have hall : footprint (⟨.read, .ok []⟩ :: tr)
        = { reads := [[]], payloads := payloads, responses := responses } := by
      simp [hfoot, footprintOf, Footprint.ext_iff]
    apply Turn.endFailed hall hsent
    rcases hfail with hflush | hfail
    · exact not_fine_of_read (by rw [hall]) (show readFine st [] = false from hflush)
    · exact not_fine_of_mem (List.exists_mem_cons_of_exists hfail)

lemma readFrontend_turn (st : StreamState) :
    (readFrontend st).wp fun tr r => Turn proxy (.reading st) tr ((handleStream proxy).settle r) := by
  simp only [readFrontend, wp_bind, wp_perform]
  intro ans
  rcases ans with kind | bytes
  · exact .readFailed rfl (not_fine_of_mem (by simp [tolerated]))
  · dsimp only
    split_ifs with hempty
    · subst hempty
      exact endOfStream_turn proxy st
    · have hfoot : footprint [⟨.read, .ok bytes⟩] = { reads := [bytes] } := rfl
      have hread : readFine st bytes = (st.reader.push bytes).2.isOk := if_neg hempty
      rcases hpush : st.reader.push bytes with ⟨reader, e | messages⟩
      · apply Turn.badFrame hfoot
        exact not_fine_of_read rfl (by rw [hread, hpush]; rfl)
      · apply Turn.framed hfoot hempty hpush
        rw [fine_reading rfl (by simp [tolerated]), hread, hpush]
        rfl

lemma endTurn_turn (st : StreamState) (close : Bool) :
    (endTurn st close).wp fun tr r =>
      Turn proxy (.handling st [] close) tr ((handleStream proxy).settle r) := by
  -- whatever the flush answered, the cleanup ends the connection
  have hfinish : ∀ ans, tolerated ⟨.flush true, ans⟩ = true →
      wp (do connectionCleanup st.backend; return .returned (.ok ()) : ProxyM Connection)
        fun tr r => Turn proxy (.handling st [] true) (⟨.flush true, ans⟩ :: tr)
          ((handleStream proxy).settle r) := by
    intro ans hfirst
    simp only [wp_bind, wp_pure, List.append_nil]
    apply wp_mono (connectionCleanup_spec st.backend)
    intro tr r h
    obtain ⟨rfl, hfoot, htol⟩ := h
    apply Turn.finished
    · simp [hfoot, footprintOf, Footprint.ext_iff]
    · have hall : ∀ e ∈ ⟨.flush true, ans⟩ :: tr, tolerated e = true :=
        List.forall_mem_cons.mpr ⟨hfirst, htol⟩
      unfold fine
      rw [List.all_eq_true.mpr hall, Bool.true_and]
  simp only [endTurn, wp_bind, wp_perform]
  intro ans
  rcases ans with kind | ⟨⟩
  · dsimp only
    split_ifs with hclosed
    · obtain ⟨rfl, hclosed⟩ := (Bool.and_eq_true _ _).mp hclosed
      exact hfinish (.error kind) hclosed
    · exact .flushFailed rfl (not_fine_of_mem (by simpa [tolerated] using hclosed))
  · dsimp only
    split_ifs with hclose
    · subst hclose
      exact hfinish (.ok ()) rfl
    · obtain rfl : close = false := by simpa using hclose
      exact .goOn rfl rfl

section Message

variable {st : StreamState} {message : Bytes} {rest : List Bytes} {close : Bool}

/-- A control packet whose batch could not be flushed. -/
lemma controlFailed_turn {kind : FrontendFrameKind} {tr : Trace} {payloads responses : List Bytes}
    {err : ProxyError} (hkind : classifyFrontendMessage message = .ok kind)
    (hcontrol : kind ≠ .startup ∧ kind ≠ .protocol)
    (hsent : payloads = [] ∨ payloads = [st.protocolBatch])
    (hfoot : footprint tr = { payloads := payloads, responses := responses })
    (hfail : flushFine st = false ∨ ∃ e ∈ tr, tolerated e = false) :
    Turn proxy (.handling st (message :: rest) close) tr (.returned (.error err)) := by
  refine Turn.messageFailed (by rw [hfoot]) (by rw [hfoot]) ?_ ?_
  · rw [hfoot]
    exact hsent.imp_right Or.inl
  rcases hfail with hflush | hfail
  · apply not_fine_of_message
    unfold messageFine
    cases kind <;> simp_all
  · exact not_fine_of_mem hfail

/-- A request for encryption. -/
lemma sslRequest_turn (hkind : classifyFrontendMessage message = .ok .sslOrGssRequest) :
    (handleMessage proxy st message rest close).wp fun tr r =>
      Turn proxy (.handling st (message :: rest) close) tr ((handleStream proxy).settle r) := by
  simp only [handleMessage, hkind, wp_bind]
  apply wp_mono (flushProtocolBatchIfStarted_spec st)
  intro tr r h
  rcases h with ⟨rfl, hflush, ⟨responses, written, hwritten, hidle, hfoot⟩, htol⟩
    | ⟨err, payloads, responses, rfl, hsent, hfoot, hfail⟩
  · have hfine : messageFine proxy st message rest = true := by
      simp [messageFine, hkind, hflush]
    simp only [wp_writeFrontend, wp_pure, List.append_nil]
    constructor
    · refine Turn.sslRefused hkind ?_ hwritten hidle (Or.inl ⟨rfl, rfl⟩) ?_
      · simp [hfoot, footprintOf, Footprint.ext_iff]
      · rw [fine_handling, hfine]
        exact List.forall_mem_append.mpr ⟨htol, by simp [tolerated]⟩
    · intro kind
      split_ifs with hclosed
      · refine Turn.sslRefused hkind ?_ hwritten hidle (Or.inr ⟨rfl, rfl, by simp [smooth]⟩) ?_
        · simp [hfoot, footprintOf, Footprint.ext_iff]
        · rw [fine_handling, hfine]
          exact List.forall_mem_append.mpr ⟨htol, by simp [tolerated, hclosed]⟩
      · refine Turn.messageFailed ?_ ?_ ?_ (not_fine_of_mem ?_)
        · simp [hfoot, footprintOf]
        · simp [hfoot, footprintOf]
        · simpa [hfoot, footprintOf] using unlessEmpty_cases st.protocolBatch |>.imp_right Or.inl
        · exact ⟨_, List.mem_append_right _ (List.mem_singleton_self _), by simp [tolerated, hclosed]⟩
  · exact controlFailed_turn proxy hkind ⟨by simp, by simp⟩ hsent hfoot hfail

/-- A cancel request or a termination. -/
lemma closing_turn (hkind : classifyFrontendMessage message = .ok .cancelRequest ∨
      classifyFrontendMessage message = .ok .terminate) :
    (handleMessage proxy st message rest close).wp fun tr r =>
      Turn proxy (.handling st (message :: rest) close) tr ((handleStream proxy).settle r) := by
  have hbody : handleMessage proxy st message rest close = (do
      let st ← flushProtocolBatchIfStarted st
      return .handling st rest true) := by
    rcases hkind with hkind | hkind <;> simp only [handleMessage, hkind]
  rw [hbody, wp_bind]
  apply wp_mono (flushProtocolBatchIfStarted_spec st)
  intro tr r h
  rcases h with ⟨rfl, hflush, ⟨responses, written, hwritten, hidle, hfoot⟩, htol⟩
    | ⟨err, payloads, responses, rfl, hsent, hfoot, hfail⟩
  · simp only [wp_pure, List.append_nil]
    refine Turn.closing hkind hfoot hwritten ?_
    rw [fine_handling htol]
    rcases hkind with hkind | hkind <;> simp [messageFine, hkind, hflush]
  · rcases hkind with hkind | hkind
    · exact controlFailed_turn proxy hkind ⟨by simp, by simp⟩ hsent hfoot hfail
    · exact controlFailed_turn proxy hkind ⟨by simp, by simp⟩ hsent hfoot hfail

/-- A protocol message. -/
lemma protocol_turn (hkind : classifyFrontendMessage message = .ok .protocol) :
    (handleMessage proxy st message rest close).wp fun tr r =>
      Turn proxy (.handling st (message :: rest) close) tr ((handleStream proxy).settle r) := by
  have hne : st.protocolBatch ++ message ≠ [] := by
    intro h
    rw [List.append_eq_nil_iff] at h
    rw [h.2] at hkind
    cases hkind
  simp only [handleMessage, hkind, handleProtocol]
  split_ifs with hflush
  · cases hbackend : st.backend with
    | none =>
      refine Turn.messageFailed rfl rfl (Or.inl rfl) (not_fine_of_message ?_)
      simp [messageFine, hkind, hflush, hbackend]
    | some backend =>
      have hfine : messageFine proxy st message rest = true := by
        simp [messageFine, hkind, hbackend]
      simp only [wp_bind]
      apply wp_mono (flushProtocolBatch_spec hne backend _)
      intro tr r h
      rcases h with ⟨response, rfl, hfoot, htol⟩ | ⟨rfl, hfoot, e, he, hrough, hhandover, htol⟩
        | ⟨err, responses, rfl, hfoot, hfail⟩
      · simp only [wp_pure, List.append_nil, Machine.settle_ok]
        rw [← hbackend]
        refine Turn.sent hkind hflush hfoot ?_ ?_
        · rw [flatten_unlessEmpty]
          simp
        · rw [fine_handling htol, hfine]
      · simp only [closeBackend, wp_bind, wp_perform]
        intro ans
        refine Turn.streamed hkind ?_ ⟨e, List.mem_append_left _ he, hrough, hhandover⟩ ?_
        · simp [hfoot, hbackend, footprintOf, Footprint.ext_iff]
        · rw [fine_handling, hfine]
          exact List.forall_mem_append.mpr ⟨by simpa using htol, by simp [tolerated]⟩
      · refine Turn.messageFailed ?_ ?_ ?_ (not_fine_of_mem hfail)
        · rw [hfoot]
        · rw [hfoot]
        · rw [hfoot]
          exact Or.inr (Or.inr ⟨hkind, rfl⟩)
  · have hkeep : shouldFlushProtocolBatch message rest.isEmpty = false := by simpa using hflush
    refine Turn.held hkind hkeep rfl ?_
    rw [fine_handling (by simp)]
    simp [messageFine, hkind, hkeep]

/-- A startup packet. -/
lemma startup_turn (hkind : classifyFrontendMessage message = .ok .startup) :
    (handleMessage proxy st message rest close).wp fun tr r =>
      Turn proxy (.handling st (message :: rest) close) tr ((handleStream proxy).settle r) := by
  have hfine : messageFine proxy st message rest = (st.backend.isNone && st.protocolBatch.isEmpty &&
      (startupConfigForMessage proxy.startupConfig message).isOk) := by
    simp only [messageFine, hkind]
  simp only [handleMessage, hkind, handleStartup]
  cases hbackend : st.backend with
  | some backend =>
    refine Turn.messageFailed rfl rfl (Or.inl rfl) (not_fine_of_message ?_)
    simp [hfine, hbackend]
  | none =>
    by_cases hbatch : st.protocolBatch = []
    · have hflush : flushProtocolBatchIfStarted st = pure st := if_pos hbatch
      simp only [hflush, Option.isSome_none, Bool.false_eq_true, if_false, wp_bind, wp_pure,
        List.nil_append]
      rcases hconfig : startupConfigForMessage proxy.startupConfig message with text | config
      · refine Turn.messageFailed rfl rfl (Or.inl rfl) (not_fine_of_message ?_)
        rw [hfine, hconfig]
        simp [Except.isOk, Except.toBool]
      · have hok : messageFine proxy st message rest = true := by
          rw [hfine, hbackend, hbatch, hconfig]
          rfl
        simp only [wp_bind, wp_perform]
        intro ans
        rcases ans with err | backend
        · -- the open failed: the client is told, or is gone
          simp only [wp_bind, wp_writeFrontend, wp_pure, List.append_nil]
          constructor
          · refine Turn.turnedAway hkind hbackend (Or.inl rfl) rfl (by simp [smooth]) ?_
            rw [fine_handling (by simp [tolerated]), hok]
          · intro kind
            split_ifs with hclosed
            · refine Turn.turnedAway hkind hbackend (Or.inl rfl) rfl (by simp [smooth]) ?_
              rw [fine_handling (by simp [tolerated, hclosed]), hok]
            · refine Turn.messageFailed rfl rfl (Or.inl rfl) (not_fine_of_mem ?_)
              simp [tolerated, hclosed]
        · apply wp_mono (startOpened_spec st backend message rest close)
          intro tr r h
          have hfirst : tolerated ⟨.openBackend config, .ok backend⟩ = true := rfl
          rcases h with ⟨out, rfl, hfoot, htol⟩
            | ⟨outs, written, rest', rfl, hrest, hfoot, htol, hrough⟩
            | ⟨err, outs, written, rfl, hfoot, hfail⟩
          · have hall : footprint (⟨.openBackend config, .ok backend⟩ :: tr)
                = { startupOutputs := [out], written := [out], opened := [backend] } := by
              simp [hfoot, footprintOf, Footprint.ext_iff]
            refine Turn.accepted hkind hbackend hbatch hall ?_
            rw [fine_handling, hok]
            exact List.forall_mem_cons.mpr ⟨hfirst, htol⟩
          · have hall : footprint (⟨.openBackend config, .ok backend⟩ :: tr)
                = { startupOutputs := outs, written := written, opened := [backend],
                    closed := [backend] } := by
              simp [hfoot, footprintOf, Footprint.ext_iff]
            refine Turn.turnedAway hkind hbackend hrest hall (List.exists_mem_cons_of_exists hrough) ?_
            rw [fine_handling, hok]
            exact List.forall_mem_cons.mpr ⟨hfirst, htol⟩
          · refine Turn.messageFailed ?_ ?_ ?_ ?_
            · simp [hfoot, footprintOf]
            · simp [hfoot, footprintOf]
            · simp [hfoot, footprintOf]
            · rcases hfail with hfail | ⟨text, hparam⟩
              · exact not_fine_of_mem (List.exists_mem_cons_of_exists hfail)
              · -- the configuration was read from the same parameter
                simp [startupConfigForMessage, hparam, bind, Except.bind] at hconfig
    · have hflush : flushProtocolBatchIfStarted st
          = Prog.fail (.text "frontend protocol message arrived before startup") := by
        simp only [flushProtocolBatchIfStarted, hbatch, hbackend, if_false]
      simp only [hflush, Option.isSome_none, Bool.false_eq_true, if_false, wp_bind, wp_fail]
      refine Turn.messageFailed rfl rfl (Or.inl rfl) (not_fine_of_message ?_)
      simp [hfine, hbatch]

end Message

/-- **Every step of the machine is a turn.** -/
theorem turn_of_next {c : Connection} {p : ProxyM Connection}
    (hnext : (handleStream proxy).next c = some p) :
    p.wp fun tr r => Turn proxy c tr ((handleStream proxy).settle r) := by
  match c, hnext with
  | .reading st, hnext =>
    cases hnext
    exact readFrontend_turn proxy st
  | .handling st [] close, hnext =>
    cases hnext
    exact endTurn_turn proxy st close
  | .handling st (message :: rest) close, hnext =>
    cases hnext
    rcases hkind : classifyFrontendMessage message with e | kind
    · simp only [handleMessage, hkind]
      refine Turn.messageFailed rfl rfl (Or.inl rfl) (not_fine_of_message ?_)
      simp [messageFine, hkind]
    · cases kind with
      | protocol => exact protocol_turn proxy hkind
      | startup => exact startup_turn proxy hkind
      | sslOrGssRequest => exact sslRequest_turn proxy hkind
      | cancelRequest => exact closing_turn proxy (Or.inl hkind)
      | terminate => exact closing_turn proxy (Or.inr hkind)

/-- **The invariant rule for connections.** What holds at the start and is kept by every turn
holds throughout. -/
theorem run_invariant {proxy : PgliteProxy} {P : Connection → Trace → Prop} {c₀ : Connection}
    {I : Trace → Connection → Prop} (hstart : I [] c₀)
    (hturn : ∀ tr tr' c c', I tr c → Turn proxy c tr' c' → P c tr' → I (tr ++ tr') c')
    {tr : Trace} {c : Connection} (run : (handleStream proxy).Run P c₀ tr c) : I tr c := by
  apply run.invariant hstart
  intro tr c p hI hnext
  apply wp_mono (turn_of_next proxy hnext)
  intro tr' r turn hP
  exact hturn tr tr' c _ hI turn hP

/-- A turn ends the connection with an error exactly when something in it was fatal. -/
lemma Turn.fine_eq_false_iff {proxy : PgliteProxy} {c c' : Connection} {tr : Trace}
    (turn : Turn proxy c tr c') :
    fine proxy c tr = false ↔ ∃ err, c' = .returned (.error err) := by
  cases turn with
  | readFailed _ hfine | badFrame _ hfine | endFailed _ _ hfine | messageFailed _ _ _ hfine
  | flushFailed _ hfine => simp [hfine]
  | framed _ _ _ hfine | ended _ _ hfine | sslRefused _ _ _ _ _ hfine | closing _ _ _ hfine
  | accepted _ _ _ _ hfine | turnedAway _ _ _ _ _ hfine | held _ _ _ hfine | sent _ _ _ _ hfine
  | streamed _ _ _ hfine | goOn _ hfine | finished _ hfine => simp [hfine]

/-! ## A client

The concrete runs of this development start with it. -/

/-- A startup packet without parameters. -/
def plainStartup : Bytes := [0, 0, 0, 9, 0, 3, 0, 0, 0]

/-- A proxy with the default configuration. -/
def plainProxy : PgliteProxy := { startupConfig := .default }

/-- The turns in which a client is let in: read, startup, flush. -/
def letIn : List Trace :=
  [ [⟨.read, .ok plainStartup⟩],
    [⟨.openBackend .default, .ok 0⟩, ⟨.startup 0 plainStartup, .ok ⟨[82], true⟩⟩,
      ⟨.enableExtensions 0, .ok ()⟩, ⟨.writeAll .startupResponse [82], .ok ()⟩,
      ⟨.supportsProtocolPump 0, false⟩],
    [⟨.flush false, .ok ()⟩] ]

/-- The turn in which a client leaves. -/
def leave : List Trace :=
  [ [⟨.read, .ok []⟩, ⟨.send .resetSessionState 0 (simpleQueryMessage "ROLLBACK"), .ok []⟩,
      ⟨.send .resetSessionState 0 (simpleQueryMessage "DISCARD ALL"), .ok []⟩, ⟨.close 0, ()⟩] ]

end PgliteOxide.Pglite
