import PgliteOxide.Pglite.ProxySocket

/-!
# The COPY handover

What the backend obtains from `pgl_recv` is a beginning of the client's protocol bytes, in every
state of every run in which the backend reads its standard input only after everything before the
socket was handed over (`copy_handover_in_order`). The code does not see to that: the bytes the
proxy has read ahead are put in front of the socket when `send_protocol_inner` has returned, while
the backend may read from the socket as soon as it has opened the stream
(`copy_handover_reads_ahead`).
-/

namespace PgliteOxide.Pglite

open Lib Prog

/-! ## The order of the bytes -/

/-- The client's protocol bytes in order, once the proxy has taken up `handled`: the control packets
among these are the proxy's own, everything after them is not cut yet. -/
def protocolBytes (client : Bytes) (handled : List Bytes) : Bytes :=
  forwarded handled ++ client.drop handled.flatten.length

/-- The bytes that are put in front of the socket: the continuation, from
`serve_protocol_stream_inner` on. -/
def Pump.installed (pump : Pump) : Bytes := if pump.phase.serving then pump.continuation else []

/-- Everything before the socket was handed over: the input buffer is read, and what the proxy
holds back is in front of the socket. -/
def handedOver (s : System) : Bool :=
  match s.control with
  | .proxy _ => true
  | .pumping pump _ =>
    decide (s.bridge.unread = []) && decide (pump.installed = heldBack s.turn)

/-- The backend calls `pgl_recv`. -/
def recvs : Event SystemOp SystemAnswer → Bool
  | ⟨.guest, .recv _⟩ => true
  | _ => false

/-- The backend reads its standard input only after the handover. -/
def recvsInOrder (s : System) (tr : SystemTrace) : Prop :=
  s.bridge.protocolStreamActive = true → tr.any recvs = true → handedOver s = true

instance (s : System) (tr : SystemTrace) : Decidable (recvsInOrder s tr) :=
  inferInstanceAs (Decidable (_ → _ → _))

/-! ## The bridge

Of the bridge, the argument needs the unread input and who is reading from where. -/

namespace Bridge

lemma inputAvailable_eq (bridge : Bridge) : bridge.inputAvailable = bridge.unread.length := by
  unfold inputAvailable unread
  rw [List.length_drop]
  split_ifs with hread
  · omega
  · rfl

lemma unread_eq_nil (bridge : Bridge) (h : ¬ bridge.inputAvailable > 0) : bridge.unread = [] := by
  rw [inputAvailable_eq] at h
  exact List.eq_nil_of_length_eq_zero (by omega)

/-- What is read is no longer unread. -/
lemma bufferRead_append (bridge : Bridge) (n : ℕ) :
    (bridge.bufferRead n).2 ++ (bridge.bufferRead n).1.unread = bridge.unread := by
  unfold bufferRead
  split_ifs
  · rfl
  · rfl
  · simp only [unread, ← List.drop_drop, List.take_append_drop]

lemma bufferRead_transport (bridge : Bridge) (n : ℕ) :
    (bridge.bufferRead n).1.protocolTransport = bridge.protocolTransport := by
  unfold bufferRead
  split_ifs <;> rfl

/-- A payload written to a buffer that was read is all there is to read. -/
lemma inputWrite_unread (bridge : Bridge) (hread : bridge.inputOff = bridge.inputBuf.length)
    (payload : Bytes) (allocated : Bool)
    (hwritten : (bridge.inputWrite payload allocated).2 = payload.length) :
    (bridge.inputWrite payload allocated).1.unread = payload := by
  unfold inputWrite at hwritten ⊢
  simp only [hread, if_true] at hwritten ⊢
  split_ifs at hwritten ⊢ with hpayload hallocated
  · rw [hpayload, unread, hread, List.drop_length]
  · rfl
  · omega

lemma inputWrite_transport (bridge : Bridge) (payload : Bytes) (allocated : Bool) :
    (bridge.inputWrite payload allocated).1.protocolTransport = bridge.protocolTransport := by
  unfold inputWrite
  split_ifs <;> rfl

end Bridge

namespace ProtocolStdioInner

lemma inFront_setPrefix (inner : ProtocolStdioInner) (bytes : Bytes) :
    (inner.setPrefix bytes).inFront = bytes := rfl

/-- What is read is no longer in front of the socket. -/
lemma readInFront_append (inner : ProtocolStdioInner) (n : ℕ) :
    (inner.readInFront n).2 ++ (inner.readInFront n).1.inFront = inner.inFront := by
  simp only [readInFront]
  split_ifs with hall
  · -- the last byte was read: both are the whole rest
    have hlen : (inner.prefixBytes.drop inner.prefixOffset).length
        ≤ min (inner.prefixBytes.drop inner.prefixOffset).length n := by
      rw [List.length_drop] at hall ⊢
      omega
    simp only [inFront, List.drop_nil, List.append_nil]
    exact List.take_of_length_le hlen
  · simp only [inFront, ← List.drop_drop, List.take_append_drop]

/-- There is nothing in front of the socket. -/
lemma not_lt_of_inFront {inner : ProtocolStdioInner} (h : inner.inFront = []) :
    ¬ inner.prefixOffset < inner.prefixBytes.length := by
  unfold inFront at h
  rw [List.drop_eq_nil_iff] at h
  omega

lemma inFront_of_not_lt {inner : ProtocolStdioInner}
    (h : ¬ inner.prefixOffset < inner.prefixBytes.length) : inner.inFront = [] := by
  unfold inFront
  rw [List.drop_eq_nil_iff]
  omega

end ProtocolStdioInner

/-! ## The invariant -/

/-- The input buffer was read to its end. -/
def Phase.drained : Phase → Bool
  | .dispatch _ _ | .recover _ | .drain _ _ | .drainRecover _ _ => false
  | _ => true

section Invariant

variable (client : Bytes)

/-- In `send_protocol_inner`, nothing is in front of the socket, and the bytes before it follow one
another in the input buffer and with the proxy. -/
structure Inner (s : System) (resume : Except BackendError ProtocolPumpOutcome → ProxyM Connection) :
    Prop where
  streamed : Over (resume (.ok .streamed))
  failed : ∀ err, Over (resume (.error err))
  transport : s.bridge.protocolTransport = .hybrid
  inFront : s.stdio.inFront = []
  order : s.obtained ++ (s.bridge.unread ++ (heldBack s.turn ++ s.socket))
    = protocolBytes client s.handled
  buffered : s.bridge.protocolStreamActive = false →
    s.obtained ++ s.bridge.unread = forwarded s.handled ∧
    ∀ response, Promise client s.handled (heldBack s.turn) s.socket (forwarded s.handled)
      (resume (.ok (.buffered response)))

/-- In `serve_protocol_stream_inner`, the input buffer is read, and the continuation is in front
of the socket. -/
structure Serving (s : System) (pump : Pump)
    (resume : Except BackendError ProtocolPumpOutcome → ProxyM Connection) : Prop where
  streamed : Over (resume (.ok .streamed))
  failed : ∀ err, Over (resume (.error err))
  active : s.bridge.protocolStreamActive = true
  order : pump.continuation = heldBack s.turn →
    s.obtained ++ (s.stdio.inFront ++ s.socket) = protocolBytes client s.handled

/-- What was obtained is in order, and what is left to do keeps it so. -/
def HandoverInv (s : System) : Prop :=
  s.obtained <+: protocolBytes client s.handled ∧
  match s.control with
  | .proxy prog =>
    s.stdio.inFront = [] ∧
      Promise client s.handled (heldBack s.turn) s.socket s.obtained prog ∨ Over prog
  | .pumping pump resume =>
    if pump.phase.serving then Serving client s pump resume
    else Inner client s resume ∧ (pump.phase.drained = true → s.bridge.unread = [])

variable {client} {s : System} {pump : Pump}
  {resume : Except BackendError ProtocolPumpOutcome → ProxyM Connection}

lemma Inner.obtained_prefix (h : Inner client s resume) :
    s.obtained <+: protocolBytes client s.handled := by
  rw [← h.order]
  exact List.prefix_append _ _

/-- Bridges that differ in output and COPY state only. -/
lemma Inner.setBridge (h : Inner client s resume) {bridge : Bridge}
    (htransport : bridge.protocolTransport = s.bridge.protocolTransport)
    (hunread : bridge.unread = s.bridge.unread)
    (hactive : bridge.protocolStreamActive = false → s.bridge.protocolStreamActive = false) :
    Inner client { s with bridge := bridge } resume where
  streamed := h.streamed
  failed := h.failed
  transport := htransport.trans h.transport
  inFront := h.inFront
  order := by
    show s.obtained ++ (bridge.unread ++ (heldBack s.turn ++ s.socket)) = _
    rw [hunread]
    exact h.order
  buffered := by
    intro hbuffered
    show s.obtained ++ bridge.unread = _ ∧ _
    rw [hunread]
    exact h.buffered (hactive hbuffered)

lemma Inner.inv (h : Inner client s resume) (hcontrol : s.control = .pumping pump resume)
    (hserving : pump.phase.serving = false)
    (hdrained : pump.phase.drained = true → s.bridge.unread = []) : HandoverInv client s := by
  refine ⟨h.obtained_prefix, ?_⟩
  rw [hcontrol]
  dsimp only
  rw [if_neg (by simp [hserving])]
  exact ⟨h, hdrained⟩

lemma Inner.enter (h : Inner client s resume) {phase : Phase} (hphase : phase.serving = false)
    (hdrained : phase.drained = true → s.bridge.unread = []) :
    HandoverInv client (s.enter pump resume phase) := by
  apply Inner.inv (s := s.enter pump resume phase) _ rfl hphase hdrained
  exact ⟨h.streamed, h.failed, h.transport, h.inFront, h.order, h.buffered⟩

lemma Serving.inv (hobtained : s.obtained <+: protocolBytes client s.handled)
    (h : Serving client s pump resume) (hcontrol : s.control = .pumping pump resume)
    (hserving : pump.phase.serving = true) : HandoverInv client s := by
  refine ⟨hobtained, ?_⟩
  rw [hcontrol]
  dsimp only
  rw [if_pos hserving]
  exact h

lemma Serving.enter (hobtained : s.obtained <+: protocolBytes client s.handled)
    (h : Serving client s pump resume) {phase : Phase} (hphase : phase.serving = true) :
    HandoverInv client (s.enter pump resume phase) := by
  apply Serving.inv (s := s.enter pump resume phase) hobtained _ rfl hphase
  exact ⟨h.streamed, h.failed, h.active, h.order⟩

lemma inv_streamDone (hobtained : s.obtained <+: protocolBytes client s.handled)
    (hstreamed : Over (resume (.ok .streamed))) (hfailed : ∀ err, Over (resume (.error err)))
    (result : Except BackendError Unit) : HandoverInv client (s.streamDone resume result) := by
  simp only [System.streamDone, System.restoreProtocolTransport]
  split_ifs
  · rcases result with err | ⟨⟩
    · exact ⟨hobtained, Or.inr (hfailed err)⟩
    · exact ⟨hobtained, Or.inr hstreamed⟩
  · rcases result with err | ⟨⟩
    · exact ⟨hobtained, Or.inr (hfailed err)⟩
    · exact ⟨hobtained, Or.inr (hfailed _)⟩

/-- A failed `send_protocol_inner` ends the connection. -/
lemma inv_innerDone_error (hobtained : s.obtained <+: protocolBytes client s.handled)
    (hstreamed : Over (resume (.ok .streamed))) (hfailed : ∀ err, Over (resume (.error err)))
    (err : BackendError) : HandoverInv client (s.innerDone pump resume (.error err)) := by
  simp only [System.innerDone]
  split_ifs
  · let s' := { s with stdio := s.stdio.setPrefix pump.continuation }
    exact inv_streamDone (s := s') hobtained hstreamed hfailed _
  · simp only [System.restoreProtocolTransport]
    split_ifs
    · exact ⟨hobtained, Or.inr (hfailed err)⟩
    · exact ⟨hobtained, Or.inr (hfailed _)⟩

lemma Inner.innerDone_error (h : Inner client s resume) (err : BackendError) :
    HandoverInv client (s.innerDone pump resume (.error err)) :=
  inv_innerDone_error h.obtained_prefix h.streamed h.failed err

/-- Back from `send_protocol_inner`, which has read the input buffer to its end. -/
lemma Inner.innerDone_ok (h : Inner client s resume) (hread : s.bridge.unread = [])
    (output : Bytes) : HandoverInv client (s.innerDone pump resume (.ok output)) := by
  simp only [System.innerDone]
  split_ifs with hactive
  · let s' := { s with stdio := s.stdio.setPrefix pump.continuation }
    refine Serving.enter (s := s') h.obtained_prefix ⟨h.streamed, h.failed, hactive, ?_⟩ rfl
    intro hcontinuation
    have horder := h.order
    rw [hread, List.nil_append] at horder
    show s.obtained ++ ((s.stdio.setPrefix pump.continuation).inFront ++ s.socket) = _
    rw [ProtocolStdioInner.inFront_setPrefix, hcontinuation]
    exact horder
  · have hbuffered := h.buffered (by simpa using hactive)
    simp only [System.restoreProtocolTransport]
    split_ifs
    · refine ⟨h.obtained_prefix, Or.inl ⟨h.inFront, ?_⟩⟩
      have hobtained : s.obtained = forwarded s.handled := by
        rw [← hbuffered.1, hread, List.append_nil]
      show Promise client s.handled (heldBack s.turn) s.socket s.obtained _
      rw [hobtained]
      exact hbuffered.2 output
    · exact ⟨h.obtained_prefix, Or.inr (h.failed _)⟩

/-! ### The host -/

/-- All executions of the program end with the invariant. -/
def keepsInv (client : Bytes) (p : SystemM System) : Prop :=
  p.wp fun _ r => ∃ s, r = .ok s ∧ HandoverInv client s

lemma keepsInv_pure (h : HandoverInv client s) : keepsInv client (pure s) := ⟨s, rfl, h⟩

lemma keepsInv_perform {op : SystemOp} {f : SystemAnswer op → SystemM System}
    (h : ∀ ans, keepsInv client (f ans)) : keepsInv client (perform op >>= f) := h

/-- While the input buffer is not read, the loop goes on. -/
lemma keepsInv_protocolInputRemaining {f : Except BackendError Int → SystemM System}
    (hfailed : ∀ err, keepsInv client (f (.error err)))
    (hmore : ∀ remaining, remaining > 0 → keepsInv client (f (.ok remaining)))
    (hread : ∀ remaining, s.bridge.unread = [] → ¬ remaining > 0 →
      keepsInv client (f (.ok remaining))) :
    keepsInv client (s.protocolInputRemaining >>= f) := by
  unfold System.protocolInputRemaining
  split_ifs with havailable
  · exact hmore _ (by omega)
  · have hunread := s.bridge.unread_eq_nil havailable
    apply keepsInv_perform
    intro ans
    rcases ans with err | remaining
    · exact hfailed err
    · by_cases hremaining : remaining > 0
      · exact hmore remaining hremaining
      · exact hread remaining hunread hremaining

lemma Inner.dispatchHead (h : Inner client s resume) (attempts : ℕ) (recovered : Bool) :
    keepsInv client (s.dispatchHead pump resume attempts recovered) := by
  apply keepsInv_protocolInputRemaining
  · intro err
    exact keepsInv_pure (h.innerDone_error err)
  · intro remaining hremaining
    simp only [hremaining, if_true]
    split_ifs
    · exact keepsInv_pure (h.enter rfl (by simp [Phase.drained]))
    · exact keepsInv_pure (h.innerDone_error _)
  · intro remaining hunread hremaining
    simp only [hremaining, if_false]
    exact keepsInv_pure (h.enter rfl fun _ => hunread)

lemma Inner.drainHead (h : Inner client s resume) (attempts drainAttempts : ℕ) :
    keepsInv client (s.drainHead pump resume attempts drainAttempts) := by
  apply keepsInv_protocolInputRemaining
  · intro err
    exact keepsInv_pure (h.innerDone_error err)
  · intro remaining hremaining
    simp only [hremaining, if_true]
    split_ifs
    · exact keepsInv_pure (h.enter rfl (by simp [Phase.drained]))
    · exact keepsInv_pure (h.innerDone_error _)
  · intro remaining hunread hremaining
    simp only [hremaining, if_false]
    exact h.dispatchHead attempts true

/-- Taking the output leaves the input alone. -/
lemma Inner.takeOutput (h : Inner client s resume)
    {f : Except BackendError Bytes × System → SystemM System}
    (hf : ∀ output s', Inner client s' resume → s'.bridge.unread = s.bridge.unread →
      keepsInv client (f (output, s'))) :
    keepsInv client (s.takeOutput >>= f) := by
  unfold System.takeOutput
  split_ifs
  · exact hf (.ok []) s h rfl
  · apply keepsInv_perform
    intro ans
    rcases ans with err | ⟨⟩
    · exact hf (.error err) s h rfl
    · apply keepsInv_perform
      intro ans
      rcases ans with err | ⟨⟩
      · exact hf (.error err) s h rfl
      · exact hf _ _ (h.setBridge rfl rfl id) rfl

lemma Inner.finishInner (h : Inner client s resume) (hunread : s.bridge.unread = [])
    (recovered : Bool) : keepsInv client (s.finishInner pump resume recovered) := by
  apply h.takeOutput
  intro output s' h' hunread'
  rw [hunread] at hunread'
  rcases output with err | output
  · exact keepsInv_pure (h'.innerDone_error err)
  · dsimp only
    split_ifs
    · exact keepsInv_pure (h'.enter rfl fun _ => hunread')
    · exact keepsInv_pure (h'.innerDone_ok hunread' _)

lemma Inner.finishErrorRecovery (h : Inner client s resume) (hunread : s.bridge.unread = [])
    (output : Bytes) : keepsInv client (s.finishErrorRecovery pump resume output) := by
  apply h.takeOutput
  intro taken s' h' hunread'
  rw [hunread] at hunread'
  rcases taken with err | taken
  · exact keepsInv_pure (h'.innerDone_error err)
  · exact keepsInv_pure (h'.innerDone_ok hunread' _)

lemma Inner.exportDone (h : Inner client s resume) {phase : Phase} (hphase : phase.serving = false)
    (hdrained : phase.drained = true → s.bridge.unread = []) (result : GuestReturn) :
    keepsInv client (s.exportDone pump resume phase result) := by
  have hfail : ∀ err, keepsInv client (pure (s.innerDone pump resume (.error err))) :=
    fun err => keepsInv_pure (h.innerDone_error err)
  have hearly : ∀ phase : Phase, phase.serving = false → phase.drained = false →
      keepsInv client (pure (s.enter pump resume phase)) := by
    intro phase hserving hnot
    exact keepsInv_pure (h.enter hserving (by simp [hnot]))
  have hlate : s.bridge.unread = [] → ∀ phase : Phase, phase.serving = false →
      keepsInv client (pure (s.enter pump resume phase)) := by
    intro hunread phase hserving
    exact keepsInv_pure (h.enter hserving fun _ => hunread)
  cases phase with
  | dispatch attempts recovered =>
    cases result with
    | returned => exact h.dispatchHead attempts recovered
    | _ => exact hearly _ rfl rfl
  | recover attempts =>
    cases result with
    | returned => exact h.drainHead attempts 0
    | _ => exact hfail _
  | drain attempts drainAttempts =>
    cases result with
    | returned => exact h.drainHead attempts drainAttempts
    | _ => exact hearly _ rfl rfl
  | drainRecover attempts drainAttempts =>
    cases result with
    | returned => exact h.drainHead attempts drainAttempts
    | _ => exact hfail _
  | sendReady recovered =>
    cases result with
    | returned => exact hlate (hdrained rfl) _ rfl
    | _ => exact hfail _
  | pqFlush recovered =>
    cases result with
    | returned => exact h.finishInner (hdrained rfl) recovered
    | _ => exact hfail _
  | errorRecover output | errorSendReady output =>
    cases result with
    | returned => exact hlate (hdrained rfl) _ rfl
    | _ => exact hfail _
  | errorPqFlush output =>
    cases result with
    | returned => exact h.finishErrorRecovery (hdrained rfl) output
    | _ => exact hfail _
  | serve | serveRecover | serveSendReady | servePqFlush => cases hphase

lemma Serving.exportDone (hobtained : s.obtained <+: protocolBytes client s.handled)
    (h : Serving client s pump resume) {phase : Phase} (hphase : phase.serving = true)
    (result : GuestReturn) : keepsInv client (s.exportDone pump resume phase result) := by
  have hdone : ∀ r, keepsInv client (pure (s.streamDone resume r)) :=
    fun r => keepsInv_pure (inv_streamDone hobtained h.streamed h.failed r)
  have hnext : ∀ phase : Phase, phase.serving = true →
      keepsInv client (pure (s.enter pump resume phase)) :=
    fun phase hserving => keepsInv_pure (h.enter hobtained hserving)
  cases phase with
  | serve =>
    cases result with
    | returned => exact hnext _ rfl
    | exited code =>
      simp only [System.exportDone]
      split_ifs
      · exact hdone _
      · exact hnext _ rfl
      · exact hdone _
    | uncaughtException => exact hnext _ rfl
    | trapped => exact hdone _
  | serveRecover | serveSendReady | servePqFlush =>
    cases result with
    | returned => exact hnext _ rfl
    | _ => exact hdone _
  | _ => cases hphase

/-! ### The backend's calls -/

/-- Reading standard input: from the bytes in front, then from the socket. -/
lemma readStdin_spec (n : ℕ) :
    (s.readStdin n).wp fun _ r => ∃ s' bytes, r = .ok s' ∧
      s' = { s with stdio := s'.stdio, socket := s'.socket, obtained := s.obtained ++ bytes } ∧
      bytes ++ (s'.stdio.inFront ++ s'.socket) = s.stdio.inFront ++ s.socket ∧
      (s.stdio.inFront = [] → s'.stdio.inFront = []) := by
  have hnothing : ∃ s' bytes, (Except.ok s : Except Empty System) = .ok s' ∧
      s' = { s with stdio := s'.stdio, socket := s'.socket, obtained := s.obtained ++ bytes } ∧
      bytes ++ (s'.stdio.inFront ++ s'.socket) = s.stdio.inFront ++ s.socket ∧
      (s.stdio.inFront = [] → s'.stdio.inFront = []) :=
    ⟨s, [], rfl, by rw [List.append_nil], rfl, id⟩
  unfold System.readStdin
  split_ifs with hzero hfront hattached
  · exact hnothing
  · have happend := s.stdio.readInFront_append n
    let s' := { s with stdio := (s.stdio.readInFront n).1
                       obtained := s.obtained ++ (s.stdio.readInFront n).2 }
    refine ⟨s', (s.stdio.readInFront n).2, rfl, rfl, ?_, ?_⟩
    · rw [← List.append_assoc, happend]
    · intro hempty
      exact absurd hfront (ProtocolStdioInner.not_lt_of_inFront hempty)
  · exact hnothing
  · intro ans
    rcases ans with kind | there
    · exact ⟨s, [], rfl, by rw [List.append_nil], rfl, id⟩
    · refine ⟨_, s.socket.take (min n there), rfl, rfl, ?_, id⟩
      show _ ++ (s.stdio.inFront ++ s.socket.drop (min n there)) = _
      rw [ProtocolStdioInner.inFront_of_not_lt hfront, List.nil_append, List.take_append_drop,
        List.nil_append]

lemma onStdio_of_hybrid (htransport : s.bridge.protocolTransport = .hybrid) :
    s.bridge.onStdio = s.bridge.protocolStreamActive := by
  simp [Bridge.onStdio, htransport]

lemma Inner.pglRecv (h : Inner client s resume) (hcontrol : s.control = .pumping pump resume)
    (hserving : pump.phase.serving = false)
    (hdrained : pump.phase.drained = true → s.bridge.unread = [])
    (hhanded : s.bridge.protocolStreamActive = true → handedOver s = true) (n : ℕ) :
    keepsInv client (s.pglRecv n) := by
  unfold System.pglRecv
  rw [onStdio_of_hybrid h.transport]
  split_ifs with hactive
  · -- the stream is open: nothing but the socket is left to read
    have hover := hhanded hactive
    simp only [handedOver, hcontrol, Pump.installed, hserving, Bool.and_eq_true,
      decide_eq_true_eq] at hover
    have hheld : heldBack s.turn = [] := hover.2.symm
    have horder := h.order
    rw [hover.1, hheld, List.nil_append, List.nil_append] at horder
    apply wp_mono (readStdin_spec n)
    rintro _ _ ⟨s', bytes, rfl, hs', hbytes, hfront⟩
    rw [h.inFront, List.nil_append, hfront h.inFront, List.nil_append] at hbytes
    have h' : Inner client s' resume := by
      rw [hs']
      refine ⟨h.streamed, h.failed, h.transport, hfront h.inFront, ?_, ?_⟩
      · show s.obtained ++ bytes ++ (s.bridge.unread ++ (heldBack s.turn ++ s'.socket)) = _
        rw [hover.1, hheld, List.nil_append, List.nil_append, List.append_assoc, hbytes]
        exact horder
      · intro hbuffered
        exact absurd hactive (by simpa using hbuffered)
    refine ⟨s', rfl, h'.inv (by rw [hs', hcontrol]) hserving fun _ => ?_⟩
    rw [hs']
    exact hover.1
  · -- the buffer is read on
    have hread := s.bridge.bufferRead_append n
    let s' := { s with bridge := (s.bridge.bufferRead n).1
                       obtained := s.obtained ++ (s.bridge.bufferRead n).2 }
    have h' : Inner client s' resume := by
      refine ⟨h.streamed, h.failed, ?_, h.inFront, ?_, ?_⟩
      · exact (s.bridge.bufferRead_transport n).trans h.transport
      · rw [← h.order, ← hread]
        simp [s']
      · intro _
        refine ⟨?_, (h.buffered (by simpa using hactive)).2⟩
        rw [← (h.buffered (by simpa using hactive)).1, ← hread]
        simp [s']
    refine keepsInv_pure (s := s') (h'.inv hcontrol hserving fun hphase => ?_)
    rw [hdrained hphase] at hread
    exact (List.append_eq_nil_iff.mp hread).2

lemma Serving.pglRecv (h : Serving client s pump resume)
    (hcontrol : s.control = .pumping pump resume) (hserving : pump.phase.serving = true)
    (hhanded : s.bridge.protocolStreamActive = true → handedOver s = true) (n : ℕ) :
    keepsInv client (s.pglRecv n) := by
  have hover := hhanded h.active
  simp only [handedOver, hcontrol, Pump.installed, hserving, if_true, Bool.and_eq_true,
    decide_eq_true_eq] at hover
  have horder := h.order hover.2
  unfold System.pglRecv
  rw [if_pos (by simp [Bridge.onStdio, h.active])]
  apply wp_mono (readStdin_spec n)
  rintro _ _ ⟨s', bytes, rfl, hs', hbytes, -⟩
  have horder' : s'.obtained ++ (s'.stdio.inFront ++ s'.socket) = protocolBytes client s'.handled := by
    rw [show s'.obtained = s.obtained ++ bytes by rw [hs'], List.append_assoc, hbytes, horder, hs']
  have h' : Serving client s' pump resume :=
    ⟨h.streamed, h.failed, by rw [hs']; exact h.active, fun _ => horder'⟩
  refine ⟨s', rfl, h'.inv ?_ (by rw [hs', hcontrol]) hserving⟩
  rw [← horder']
  exact List.prefix_append _ _

/-- Of the bridge, a write changes the output, and may open the stream. -/
lemma Inner.pglSend (h : Inner client s resume) (hcontrol : s.control = .pumping pump resume)
    (hserving : pump.phase.serving = false)
    (hdrained : pump.phase.drained = true → s.bridge.unread = []) (bytes : Bytes) :
    keepsInv client (s.pglSend bytes) := by
  have hsame : keepsInv client (pure s) := keepsInv_pure (h.inv hcontrol hserving hdrained)
  have hset : ∀ bridge : Bridge, bridge.protocolTransport = s.bridge.protocolTransport →
      bridge.unread = s.bridge.unread →
      (bridge.protocolStreamActive = false → s.bridge.protocolStreamActive = false) →
      keepsInv client (pure { s with bridge := bridge }) := by
    intro bridge htransport hunread hactive
    apply keepsInv_pure
    apply (h.setBridge htransport hunread hactive).inv hcontrol hserving
    intro hphase
    exact hunread.trans (hdrained hphase)
  unfold System.pglSend
  split_ifs
  · exact keepsInv_perform fun _ => hsame
  · exact hsame
  · apply keepsInv_perform
    intro allocated
    split_ifs
    · dsimp only
      split_ifs
      · apply keepsInv_perform
        intro written
        split_ifs
        · exact hset _ rfl rfl (by simp [Bridge.streamOpened])
        · exact hset _ rfl rfl id
      · exact hset _ rfl rfl id
    · exact hsame

lemma Serving.pglSend (h : Serving client s pump resume)
    (hinv : HandoverInv client s) (bytes : Bytes) : keepsInv client (s.pglSend bytes) := by
  unfold System.pglSend
  rw [if_pos (by simp [Bridge.onStdio, h.active])]
  exact keepsInv_perform fun _ => keepsInv_pure hinv

lemma protocolReportCopyResponse_frame (bridge : Bridge) (state : Int) :
    (bridge.protocolReportCopyResponse state).protocolTransport = bridge.protocolTransport ∧
    (bridge.protocolReportCopyResponse state).unread = bridge.unread ∧
    (bridge.protocolReportCopyResponse state).protocolStreamActive = bridge.protocolStreamActive := by
  unfold Bridge.protocolReportCopyResponse
  cases ProtocolCopyState.fromInt state with
  | none => exact ⟨rfl, rfl, rfl⟩
  | some copyState => exact ⟨rfl, rfl, rfl⟩

/-- **One action of the backend.** -/
lemma guestStep_inv (hinv : HandoverInv client s) (hcontrol : s.control = .pumping pump resume) :
    (s.guestStep pump resume).wp fun tr r => recvsInOrder s tr →
      ∃ s', r = .ok s' ∧ HandoverInv client s' := by
  have hkeep : ∀ {action p}, keepsInv client p → p.wp fun tr r =>
      recvsInOrder s (⟨.guest, action⟩ :: tr) → ∃ s', r = .ok s' ∧ HandoverInv client s' := by
    intro action p h
    apply wp_mono h
    intro tr r hr _
    exact hr
  -- a `pgl_recv` out of order is none of the theorem's business
  have hrecv : ∀ n, ((s.bridge.protocolStreamActive = true → handedOver s = true) →
      keepsInv client (s.pglRecv n)) → (s.pglRecv n).wp fun tr r =>
      recvsInOrder s (⟨.guest, .recv n⟩ :: tr) → ∃ s', r = .ok s' ∧ HandoverInv client s' := by
    intro n h
    by_cases hhanded : s.bridge.protocolStreamActive = true → handedOver s = true
    · exact hkeep (h hhanded)
    · apply wp_of_forall
      intro tr r hcondition
      exact absurd (fun hactive => hcondition hactive rfl) hhanded
  have hpumping := hinv.2
  rw [hcontrol] at hpumping
  dsimp only at hpumping
  intro action
  by_cases hserving : pump.phase.serving = true
  · rw [if_pos hserving] at hpumping
    cases action with
    | recv n => exact hrecv n fun hhanded => hpumping.pglRecv hcontrol hserving hhanded n
    | send bytes => exact hkeep (hpumping.pglSend hinv bytes)
    | reportCopyResponse state =>
      obtain ⟨-, -, hactive⟩ := protocolReportCopyResponse_frame s.bridge state
      let s' := { s with bridge := s.bridge.protocolReportCopyResponse state }
      have h' : Serving client s' pump resume :=
        ⟨hpumping.streamed, hpumping.failed, hactive.trans hpumping.active, hpumping.order⟩
      exact hkeep (keepsInv_pure (h'.inv hinv.1 hcontrol hserving))
    | finish result => exact hkeep (hpumping.exportDone hinv.1 hserving result)
  · rw [if_neg hserving] at hpumping
    obtain ⟨h, hdrained⟩ := hpumping
    have hinner : pump.phase.serving = false := by simpa using hserving
    cases action with
    | recv n => exact hrecv n fun hhanded => h.pglRecv hcontrol hinner hdrained hhanded n
    | send bytes => exact hkeep (h.pglSend hcontrol hinner hdrained bytes)
    | reportCopyResponse state =>
      obtain ⟨htransport, hunread, hactive⟩ := protocolReportCopyResponse_frame s.bridge state
      apply hkeep
      apply keepsInv_pure
      apply (h.setBridge htransport hunread (by rw [hactive]; exact id)).inv hcontrol hinner
      intro hphase
      exact hunread.trans (hdrained hphase)
    | finish result => exact hkeep (h.exportDone hinner hdrained result)

/-! ### The proxy's operations -/

/-- `push_input` puts the payload into the empty buffer. -/
lemma pushInput_inv (hobtained : s.obtained <+: protocolBytes client s.handled)
    (hstreamed : Over (resume (.ok .streamed))) (hfailed : ∀ err, Over (resume (.error err)))
    (htransport : s.bridge.protocolTransport = .hybrid)
    (hread : s.bridge.inputOff = s.bridge.inputBuf.length) (hfront : s.stdio.inFront = [])
    (hpayload : s.obtained ++ pump.payload = forwarded s.handled)
    (hclient : s.handled.flatten ++ (heldBack s.turn ++ s.socket) = client)
    (hbuffered : ∀ response, Promise client s.handled (heldBack s.turn) s.socket
      (forwarded s.handled) (resume (.ok (.buffered response)))) :
    keepsInv client (s.pushInput pump resume) := by
  have herror : ∀ (bridge : Bridge) (err : BackendError), keepsInv client
      (pure ({ s with bridge := bridge }.innerDone pump resume (.error err))) := by
    intro bridge err
    let s' := { s with bridge := bridge }
    exact keepsInv_pure (inv_innerDone_error (s := s') hobtained hstreamed hfailed err)
  apply keepsInv_perform
  intro ans
  rcases ans with err | ⟨⟩
  · exact herror s.bridge err
  apply keepsInv_perform
  intro allocated
  have hunread := s.bridge.inputWrite_unread hread pump.payload allocated
  have hkept := s.bridge.inputWrite_transport pump.payload allocated
  generalize s.bridge.inputWrite pump.payload allocated = write at hunread hkept ⊢
  obtain ⟨bridge, written⟩ := write
  apply keepsInv_perform
  intro ans
  rcases ans with err | ⟨⟩
  · exact herror bridge err
  dsimp only at hunread hkept ⊢
  split_ifs with hwritten
  · exact herror bridge _
  · rw [not_not] at hwritten
    let s' := { s with bridge := bridge }
    have h : Inner client s' resume := by
      refine ⟨hstreamed, hfailed, hkept.trans htransport, hfront, ?_, fun _ => ⟨?_, hbuffered⟩⟩
      · show s.obtained ++ (bridge.unread ++ _) = _
        rw [hunread hwritten, ← List.append_assoc, hpayload, protocolBytes, ← hclient,
          List.drop_left]
      · show s.obtained ++ bridge.unread = _
        rw [hunread hwritten, hpayload]
    exact h.dispatchHead 0 false

/-- A batch is sent. -/
lemma sendProtocolPump_inv {message continuation : Bytes} {site : FlushSite} {backend : Handle}
    {next : Answer (.sendWithProtocolPump site backend message continuation) → ProxyM Connection}
    (hobtained : s.obtained <+: protocolBytes client s.handled) (hfront : s.stdio.inFront = [])
    (hpromise : Promise client s.handled (heldBack s.turn) s.socket s.obtained
      (.call (.sendWithProtocolPump site backend message continuation) next)) :
    keepsInv client (s.sendProtocolPump next message continuation) := by
  obtain ⟨hmessage, hclient, hbuffered, hstreamed, hfailed⟩ := hpromise
  have herror : ∀ (bridge : Bridge) (err : BackendError),
      keepsInv client (pure ({ s with bridge := bridge }.leave next (.error err))) := by
    intro bridge err
    exact keepsInv_pure ⟨hobtained, Or.inr (hfailed err)⟩
  unfold System.sendProtocolPump
  by_cases hsupports : (!s.supportsProtocolPump) = true
  · rw [if_pos hsupports]
    exact herror s.bridge _
  rw [if_neg hsupports]
  apply keepsInv_perform
  intro ans
  rcases ans with err | ⟨⟩
  · exact herror s.bridge err
  dsimp only
  split_ifs with hempty hattached hmode
  · -- an empty batch is not sent
    rw [hempty, List.append_nil] at hmessage
    refine keepsInv_pure ⟨hobtained, Or.inl ⟨hfront, ?_⟩⟩
    show Promise client s.handled (heldBack s.turn) s.socket s.obtained _
    rw [hmessage]
    exact hbuffered []
  · exact herror s.bridge _
  · exact herror _ _
  · let s' := { s with
      bridge := (s.bridge.setProtocolTransport .hybrid).1.inputReset.outputReset }
    exact pushInput_inv (s := s') hobtained hstreamed hfailed rfl rfl hfront hmessage hclient
      hbuffered

/-- The other operations of the proxy leave both ends of the stream alone. -/
lemma after_frame (s : System) (op : Op) (ans : Answer op) :
    ∃ supports bridge stdio, s.after op ans
      = { s with supportsProtocolPump := supports, bridge := bridge, stdio := stdio } ∧
      (s.stdio.inFront = [] → stdio.inFront = []) := by
  have hsame : ∃ supports bridge stdio, s
      = { s with supportsProtocolPump := supports, bridge := bridge, stdio := stdio } ∧
      (s.stdio.inFront = [] → stdio.inFront = []) :=
    ⟨s.supportsProtocolPump, s.bridge, s.stdio, rfl, id⟩
  cases op with
  | openBackend config =>
    rcases ans with err | backend
    · exact hsame
    · exact ⟨_, _, _, rfl, fun _ => rfl⟩
  | supportsProtocolPump backend => exact ⟨ans, _, _, rfl, id⟩
  | attachProtocolStream backend =>
    rcases ans with err | ⟨⟩
    · exact hsame
    · exact ⟨_, _, _, rfl, fun _ => rfl⟩
  | _ => exact hsame

lemma keepsInv_proxyStep {op : Op} {next : Answer op → ProxyM Connection} (hop : offSocket op)
    (hnext : ∀ ans supports bridge stdio, (s.stdio.inFront = [] → stdio.inFront = []) →
      HandoverInv client { s with supportsProtocolPump := supports, bridge := bridge,
                                  stdio := stdio, control := .proxy (next ans) }) :
    keepsInv client (s.proxyStep op next) := by
  have hstep : s.proxyStep op next = do
      let ans ← perform (SystemOp.proxy op)
      let s := s.after op ans
      if System.usesBridge op then
        let bridge ← perform SystemOp.leftBridge
        return { s with bridge := { bridge with protocolTransport := s.bridge.protocolTransport }
                        control := .proxy (next ans) }
      else
        return { s with control := .proxy (next ans) } := by
    cases op with
    | read | sendWithProtocolPump => exact absurd hop id
    | _ => rfl
  rw [hstep]
  apply keepsInv_perform
  intro ans
  obtain ⟨supports, bridge, stdio, hafter, hstdio⟩ := after_frame s op ans
  rw [hafter]
  split_ifs
  · apply keepsInv_perform
    intro left
    exact keepsInv_pure (hnext ans _ _ _ hstdio)
  · exact keepsInv_pure (hnext ans _ _ _ hstdio)

/-- **One operation of the proxy.** -/
lemma proxyStep_inv {op : Op} {next : Answer op → ProxyM Connection}
    (hobtained : s.obtained <+: protocolBytes client s.handled)
    (h : s.stdio.inFront = [] ∧ Promise client s.handled (heldBack s.turn) s.socket s.obtained
      (.call op next) ∨ Over (.call op next)) :
    keepsInv client (s.proxyStep op next) := by
  rcases h with ⟨hfront, hpromise⟩ | hover
  · have hnext : offSocket op →
        (∀ ans, Promise client s.handled (heldBack s.turn) s.socket s.obtained (next ans)) →
        keepsInv client (s.proxyStep op next) := by
      intro hop hall
      apply keepsInv_proxyStep hop
      intro ans supports bridge stdio hstdio
      exact ⟨hobtained, Or.inl ⟨hstdio hfront, hall ans⟩⟩
    cases op with
    | read =>
      obtain ⟨hfailed, hread⟩ := hpromise
      apply keepsInv_perform
      intro ans
      rcases ans with kind | there
      · exact keepsInv_pure ⟨hobtained, Or.inl ⟨hfront, hfailed kind⟩⟩
      · exact keepsInv_pure ⟨hobtained, Or.inl ⟨hfront, hread there⟩⟩
    | sendWithProtocolPump site backend message continuation =>
      exact sendProtocolPump_inv hobtained hfront hpromise
    | _ => exact hnext trivial hpromise
  · apply keepsInv_proxyStep hover.1
    intro ans supports bridge stdio _
    exact ⟨hobtained, Or.inr (hover.2 ans)⟩

end Invariant

/-- What was obtained stays in order when the proxy takes up a message. -/
lemma protocolBytes_takenUp {client socket obtained : Bytes} {handled : List Bytes} {c : Connection}
    (hobtained : obtained <+: protocolBytes client handled)
    (hbooks : Books client handled socket obtained c) :
    obtained <+: protocolBytes client (handled ++ c.takenUp) := by
  have hforwarded : ∀ messages, obtained <+: forwarded handled →
      obtained <+: protocolBytes client (handled ++ messages) := by
    intro messages h
    apply h.trans
    simp only [protocolBytes, forwarded, List.filter_append, List.flatten_append,
      List.append_assoc]
    exact List.prefix_append _ _
  cases c with
  | reading st => simpa [Connection.takenUp] using hobtained
  | handling st messages close =>
    apply hforwarded
    rw [← hbooks.1]
    exact List.prefix_append _ _
  | returned result => simpa [Connection.takenUp] using hobtained

/-- **Every step of the system keeps the invariant**, as long as the backend reads in order. -/
lemma handoverInv_step {proxy : PgliteProxy} {client : Bytes} {s : System} {p : SystemM System}
    (hinv : HandoverInv client s) (hnext : (system proxy).next s = some p) :
    p.wp fun tr r => recvsInOrder s tr → HandoverInv client ((system proxy).settle r) := by
  have hkeep : ∀ {p : SystemM System}, keepsInv client p →
      p.wp fun tr r => recvsInOrder s tr → HandoverInv client ((system proxy).settle r) := by
    intro p h
    apply wp_mono h
    rintro tr _ ⟨s', rfl, h'⟩ _
    exact h'
  have hcases := hinv.2
  rcases hcontrol : s.control with prog | ⟨pump, resume⟩
  · rw [hcontrol] at hcases
    cases prog with
    | ret c =>
      simp only [system, systemNext, hcontrol, Option.map_eq_some_iff] at hnext
      obtain ⟨prog, hprog, rfl⟩ := hnext
      rcases hcases with ⟨hfront, hbooks⟩ | ⟨result, rfl⟩
      · apply hkeep
        refine keepsInv_pure ⟨protocolBytes_takenUp hinv.1 hbooks, Or.inl ⟨hfront, ?_⟩⟩
        exact promise_turn proxy hbooks hprog
      · cases hprog
    | fail e =>
      simp only [system, systemNext, hcontrol] at hnext
      cases hnext
    | call op next =>
      simp only [system, systemNext, hcontrol] at hnext
      cases hnext
      exact hkeep (proxyStep_inv hinv.1 hcases)
  · simp only [system, systemNext, hcontrol] at hnext
    cases hnext
    apply wp_mono (guestStep_inv hinv hcontrol)
    intro tr r h hcondition
    obtain ⟨s', rfl, h'⟩ := h hcondition
    exact h'

/-- **The backend obtains the client's protocol bytes in order**, in every state of every run in
which it reads its standard input only after the handover. -/
theorem copy_handover_in_order (proxy : PgliteProxy) (client : Bytes) (tr : SystemTrace)
    (s : System) (run : (system proxy).Run recvsInOrder (.start client) tr s) :
    s.obtained <+: protocolBytes client s.handled := by
  have hinv : HandoverInv client s := by
    apply run.invariant (I := fun _ s => HandoverInv client s)
    · refine ⟨List.nil_prefix, Or.inl ⟨rfl, rfl, rfl⟩⟩
    · intro tr s p hinv hnext
      exact handoverInv_step hinv hnext
  exact hinv.1

/-! ## A COPY

`COPY t FROM STDIN` as a simple query, one row, and the end of the data. -/

def copyQuery : Bytes := [81, 0, 0, 0, 5, 0]
def copyData : Bytes := [100, 0, 0, 0, 6, 49, 10]
def copyDone : Bytes := [99, 0, 0, 0, 4]

/-- A client that sends all of it. -/
def copyClient : Bytes := plainStartup ++ copyQuery ++ copyData ++ copyDone

/-- The client is let in, and its next `n` bytes are read. -/
def admitAndRead (n : ℕ) : List SystemTrace :=
  [ [], [⟨.socketRead none, .ok 9⟩], [], [⟨.proxy (.openBackend .default), .ok 0⟩],
    [⟨.proxy (.startup 0 plainStartup), .ok ⟨[82], true⟩⟩, ⟨.leftBridge, .initial⟩],
    [⟨.proxy (.enableExtensions 0), .ok ()⟩, ⟨.leftBridge, .initial⟩],
    [⟨.proxy (.writeAll .startupResponse [82]), .ok ()⟩],
    [⟨.proxy (.supportsProtocolPump 0), true⟩], [⟨.proxy .tryCloneForProtocol, .ok ()⟩],
    [⟨.proxy (.attachProtocolStream 0), .ok ()⟩], [], [⟨.proxy (.flush false), .ok ()⟩],
    [], [⟨.socketRead none, .ok n⟩], [] ]

/-- The backend reads the query, reports `CopyInResponse`, writes it, and goes on reading. -/
def copyIn : List SystemTrace :=
  [ [⟨.startProtocol, .ok ()⟩, ⟨.allocate, .ok ()⟩, ⟨.realloc, true⟩, ⟨.free, .ok ()⟩],
    [⟨.guest, .recv 8192⟩], [⟨.guest, .reportCopyResponse 1⟩],
    [⟨.guest, .send [71]⟩, ⟨.realloc, true⟩, ⟨.writeStdout [71], true⟩],
    [⟨.guest, .recv 8192⟩, ⟨.socketRead (some 8192), .ok 7⟩] ]

/-- A client that waits for the `CopyInResponse`. -/
theorem copy_handover_in_order_waiting :
    ∃ s : System, s.obtained = copyQuery ++ copyData ∧
      s.obtained <+: protocolBytes copyClient s.handled := by
  obtain ⟨s, run, hobtained⟩ :=
    Machine.exists_run_of_replay (system plainProxy) recvsInOrder (.start copyClient)
      (admitAndRead 6 ++ copyIn) System.obtained (b := copyQuery ++ copyData) (by decide)
  exact ⟨s, hobtained, copy_handover_in_order plainProxy copyClient _ s run⟩

/-- A client that does not wait: the row came with the query, so the proxy holds it back, and
the backend reads the end of the data in its place. -/
theorem copy_handover_reads_ahead :
    ¬ ∀ (proxy : PgliteProxy) (client : Bytes) (tr : SystemTrace) (s : System),
      (system proxy).Run (fun _ _ => True) (.start client) tr s →
      s.obtained <+: protocolBytes client s.handled := by
  intro h
  obtain ⟨s, run, hs⟩ :=
    Machine.exists_run_of_replay (system plainProxy) (fun _ _ => True) (.start copyClient)
      (admitAndRead 13 ++ copyIn) (fun s => (s.obtained, s.handled))
      (b := (copyQuery ++ copyDone, [plainStartup, copyQuery])) (by decide)
  have hprefix := h plainProxy copyClient _ s run
  rw [(Prod.mk.inj hs).1, (Prod.mk.inj hs).2] at hprefix
  revert hprefix
  decide

end PgliteOxide.Pglite
