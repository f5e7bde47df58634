import PgliteOxide.Pglite.PumpCalls

/-!
# The program of the pump

`send_protocol_pump` as a program whose calls into the backend are single steps
(`BridgeTransport.lean`) is what the levels below it do. The connection, from the call of the pump
to its return, runs that program: with the same bridge before and after, and the same result
(`connection_runs_pump`). The calls of the host on the memory of the guest are steps of it
(`calls_are_pump_steps`). So the mode that `send_protocol_pump` leaves is the mode a
connection is left with (`connection_restores_transport`).
-/

namespace PgliteOxide.Pglite

open Lib Prog

/-! ## The calls -/

lemma BackendRuns.refl (io : BridgeIo) : BackendRuns io io := ⟨[], nofun, rfl⟩

lemma BackendRuns.step {io io' : BridgeIo} (h : BackendRuns io io') {call : BridgeCall}
    (hcall : call.keepsTransport = true) : BackendRuns io (io'.step call) := by
  obtain ⟨calls, hcalls, rfl⟩ := h
  refine ⟨calls ++ [call], ?_, ?_⟩
  · intro c hc
    rcases List.mem_append.mp hc with hc | hc
    · exact hcalls c hc
    · rw [List.mem_singleton.mp hc]
      exact hcall
  · unfold BridgeIo.run
    rw [List.foldl_append]
    rfl

/-- Neither the backend nor the host's calls on the buffers set the transport. -/
lemma kept_backendRuns (io : BridgeIo) : GuestState.Kept fun s => BackendRuns io s.io where
  acts := by
    intro s s' h hacts
    induction hacts with
    | done s held => exact h
    | act call hcall _ ih =>
      refine ih (h.step ?_)
      cases call <;> first | rfl | cases hcall
  host := by
    intro s call hcall h
    refine h.step ?_
    cases call <;> first | rfl | cases hcall
  block := fun _ h => h

/-- **The calls of the host are steps of the pump**, for a message and for the startup packet,
however they are answered. -/
theorem calls_are_pump_steps {g g' : GuestState} (hblock : g.block = none) :
    (∀ payload x, Runs guestEffects (sendProtocolInner payload) g g' x →
      pumpEffects.step (.sendProtocolInner payload) g.io g'.io x) ∧
    (∀ packet x started, Runs guestEffects (processStartupPacket packet) g g' x →
      pumpEffects.step .startProtocol g.io g'.io started) := by
  have hkept := kept_backendRuns g.io
  refine ⟨fun payload x hrun => ?_, fun packet x _ hrun => ?_⟩
  -- no call that sets the transport is among those of the host
  · have hsettles := settles_sendProtocolInner payload
    exact (kept_of_runs hkept hsettles (BackendRuns.refl g.io) hblock hrun).1
  · have hsettles := settles_processStartupPacket packet
    exact (kept_of_runs hkept hsettles (BackendRuns.refl g.io) hblock hrun).1

/-! ## The connection -/

/-- The bridge of a connection in a call of the pump, which began with the bridge at `start`: in
`send_protocol_inner`, or behind it with the stream active. -/
def InPump (start : BridgeIo) : Bool → Bridge → Prop
  | false, bridge => ∃ io, BackendRuns start io ∧ io.bridge = bridge
  | true, bridge => ∃ inner io, BackendRuns start inner ∧
      inner.bridge.protocolStreamActive = true ∧ BackendRuns inner io ∧ io.bridge = bridge

/-- In a call of the pump, and back from it with a result of the program. -/
def RunsPump (program : PumpM ProtocolPumpOutcome) (before start : BridgeIo)
    (resume : Except BackendError ProtocolPumpOutcome → ProxyM Connection) (s : System) : Prop :=
  match s.control with
  | .pumping pump resume' => resume' = resume ∧ InPump start pump.phase.serving s.bridge ∧
      ∀ io r, Runs pumpEffects (pumpHybrid pump.payload pump.continuation .buffered) start io r →
        Runs pumpEffects program before io r
  | .proxy prog => ∃ io r, io.bridge = s.bridge ∧ prog = resume r ∧
      Runs pumpEffects program before io r

section Connection

variable {program : PumpM ProtocolPumpOutcome} {before start : BridgeIo} {serving : Bool}
  {s : System} {pump : Pump}
  {resume : Except BackendError ProtocolPumpOutcome → ProxyM Connection}

/-- A call on the bridge. -/
lemma InPump.step {bridge bridge' : Bridge} (h : InPump start serving bridge) (call : BridgeCall)
    (hcall : call.keepsTransport = true)
    (hbridge : ∀ stdout, (({ bridge, stdout } : BridgeIo).step call).bridge = bridge') :
    InPump start serving bridge' := by
  cases serving with
  | false =>
    obtain ⟨io, hruns, rfl⟩ := h
    exact ⟨_, hruns.step hcall, hbridge io.stdout⟩
  | true =>
    obtain ⟨inner, io, hinner, hactive, hruns, rfl⟩ := h
    exact ⟨inner, _, hinner, hactive, hruns.step hcall, hbridge io.stdout⟩

/-! ### The way out -/

/-- `send_protocol_pump` behind `serve_protocol_stream_inner`. -/
def afterStream (previousMode : ProtocolTransportMode) (streamResult : Except BackendError Unit) :
    PumpM ProtocolPumpOutcome := do
  let restoreResult ← restoreProtocolTransport previousMode
  let clearResult ← perform (PumpOp.setProtocolStreamPrefix [])
  ofExcept streamResult
  ofExcept restoreResult
  ofExcept clearResult
  return .streamed

lemma System.restoreProtocolTransport_eq (s : System) :
    s.restoreProtocolTransport .buffered =
      ({ s with bridge := (s.bridge.setProtocolTransport .buffered).1 },
        if s.bridge.protocolTransport ≠ .buffered then .ok ()
        else .error (System.bail
          "pgl_set_protocol_transport restore observed unchanged current mode")) := by
  show (if s.bridge.protocolTransport ≠ .buffered then _ else _) = _
  split_ifs <;> rfl

/-- The transport is restored on both sides. -/
lemma runs_restore {io io' : BridgeIo} {r : Except BackendError ProtocolPumpOutcome}
    {f : Except BackendError Unit → PumpM ProtocolPumpOutcome} (hbridge : io.bridge = s.bridge)
    (h : Runs pumpEffects (f (s.restoreProtocolTransport .buffered).2)
      { io with bridge := (s.restoreProtocolTransport .buffered).1.bridge } io' r) :
    Runs pumpEffects (restoreProtocolTransport .buffered >>= f) io io' r := by
  rw [s.restoreProtocolTransport_eq, ← hbridge] at h
  exact .call (show pumpEffects.step (.setProtocolTransport .buffered) io _
    (.ok (io.bridge.setProtocolTransport .buffered).2) from ⟨rfl, rfl⟩) h

/-- `stream_result.and(restore_result).and(clear_result)`. -/
lemma streamDone_runs (s : System)
    (resume : Except BackendError ProtocolPumpOutcome → ProxyM Connection)
    (streamResult : Except BackendError Unit) {io : BridgeIo} (hbridge : io.bridge = s.bridge) :
    ∃ io' r, io'.bridge = (s.streamDone resume streamResult).bridge ∧
      (s.streamDone resume streamResult).control = .proxy (resume r) ∧
      Runs pumpEffects (afterStream .buffered streamResult) io io' r := by
  have hclear : ∀ io : BridgeIo,
      pumpEffects.step (.setProtocolStreamPrefix []) io io (.ok ()) := fun _ => ⟨rfl, rfl⟩
  unfold System.streamDone
  cases hrestore : s.restoreProtocolTransport .buffered with
  | mk s' restoreResult =>
    have hafter {r : Except BackendError ProtocolPumpOutcome}
        (h : Runs pumpEffects (do
            ofExcept streamResult
            ofExcept restoreResult
            return .streamed) { io with bridge := s'.bridge } { io with bridge := s'.bridge } r) :
        Runs pumpEffects (afterStream .buffered streamResult) io
          { io with bridge := s'.bridge } r := by
      refine runs_restore hbridge ?_
      rw [hrestore]
      exact .call (hclear _) h
    -- the first of the errors is the one that is reported
    cases streamResult with
    | error err => exact ⟨_, .error err, rfl, rfl, hafter (.fail err _)⟩
    | ok _ =>
      cases restoreResult with
      | error err => exact ⟨_, .error err, rfl, rfl, hafter (.fail err _)⟩
      | ok _ => exact ⟨_, .ok .streamed, rfl, rfl, hafter (.ret _ _)⟩

/-- `send_protocol_pump` from `send_protocol_inner` on. -/
lemma runs_pumpHybrid {payload continuation : Bytes} {inner io : BridgeIo}
    (result : Except BackendError Bytes) {r : Except BackendError ProtocolPumpOutcome}
    (hinner : BackendRuns start inner)
    (h : Runs pumpEffects (if inner.bridge.protocolStreamActive then
      finishStreamed continuation .buffered result else finishBuffered .buffered result) inner io r) :
    Runs pumpEffects (pumpHybrid payload continuation .buffered) start io r :=
  .call (show pumpEffects.step (.sendProtocolInner payload) start inner result from hinner)
    (.call (show pumpEffects.step .protocolStreamActive inner inner
      (.ok inner.bridge.protocolStreamActive) from ⟨rfl, fun _ h => (Except.ok.inj h).symm⟩) h)

/-- What a program of the connection comes to, where standard output takes what it is given. -/
def KeepsPump (program : PumpM ProtocolPumpOutcome) (before start : BridgeIo)
    (resume : Except BackendError ProtocolPumpOutcome → ProxyM Connection) (p : SystemM System) :
    Prop :=
  p.wp fun tr r => (∀ e ∈ tr, outputTaken e) →
    ∀ s, r = .ok s → RunsPump program before start resume s

lemma KeepsPump.pure (h : RunsPump program before start resume s) :
    KeepsPump program before start resume (Pure.pure s) := by
  intro _ s' hs'
  cases hs'
  exact h

lemma KeepsPump.perform {op : SystemOp} {f : SystemAnswer op → SystemM System}
    (h : ∀ ans, outputTaken ⟨op, ans⟩ → KeepsPump program before start resume (f ans)) :
    KeepsPump program before start resume (Prog.perform op >>= f) := by
  intro ans
  by_cases hans : outputTaken ⟨op, ans⟩
  · refine wp_mono (h ans hans) fun tr r hr htr => hr fun e he => ?_
    exact htr e (List.mem_cons_of_mem _ he)
  · exact wp_of_forall fun tr r htr => absurd (htr _ List.mem_cons_self) hans

lemma keepsPump_protocolInputRemaining {f : Except BackendError Int → SystemM System}
    (h : ∀ remaining, KeepsPump program before start resume (f remaining)) :
    KeepsPump program before start resume (s.protocolInputRemaining >>= f) := by
  unfold System.protocolInputRemaining
  split_ifs
  · exact h _
  · exact .perform fun remaining _ => h remaining

section Steps

variable (hends : ∀ io r,
  Runs pumpEffects (pumpHybrid pump.payload pump.continuation .buffered) start io r →
    Runs pumpEffects program before io r)
include hends

lemma RunsPump.pumping (hcontrol : s.control = .pumping pump resume)
    (h : InPump start pump.phase.serving s.bridge) : RunsPump program before start resume s := by
  unfold RunsPump
  rw [hcontrol]
  exact ⟨rfl, h, hends⟩

lemma RunsPump.enter {phase : Phase} (h : InPump start phase.serving s.bridge) :
    RunsPump program before start resume (s.enter pump resume phase) := ⟨rfl, h, hends⟩

/-- Out of `serve_protocol_stream_inner`. -/
lemma InPump.streamDone (h : InPump start true s.bridge) (streamResult : Except BackendError Unit) :
    RunsPump program before start resume (s.streamDone resume streamResult) := by
  obtain ⟨inner, io, hinner, hactive, hruns, hbridge⟩ := h
  obtain ⟨io', r, hbridge', hcontrol, hafter⟩ := streamDone_runs s resume streamResult hbridge
  unfold RunsPump
  rw [hcontrol]
  refine ⟨io', r, hbridge', rfl, hends io' r (runs_pumpHybrid (.ok []) hinner ?_)⟩
  rw [if_pos hactive]
  exact .call (show pumpEffects.step (.setProtocolStreamPrefix pump.continuation) inner inner (.ok ())
    from ⟨rfl, rfl⟩)
    (.call (show pumpEffects.step .serveProtocolStreamInner inner io streamResult from hruns) hafter)

/-- Out of `send_protocol_inner`: to the proxy, or on to serving the stream. -/
lemma InPump.innerDone (h : InPump start false s.bridge) (result : Except BackendError Bytes) :
    RunsPump program before start resume (s.innerDone pump resume result) := by
  obtain ⟨io, hruns, hbridge⟩ := h
  unfold System.innerDone
  by_cases hactive : s.bridge.protocolStreamActive = true
  · simp only [if_pos hactive]
    have hactive' : io.bridge.protocolStreamActive = true := by rw [hbridge]; exact hactive
    cases result with
    | ok output => exact ⟨rfl, ⟨io, io, hruns, hactive', BackendRuns.refl io, hbridge⟩, hends⟩
    | error err =>
      obtain ⟨io', r, hbridge', hcontrol, hafter⟩ := streamDone_runs
        { s with stdio := s.stdio.setPrefix pump.continuation } resume (.error err) hbridge
      unfold RunsPump
      rw [hcontrol]
      refine ⟨io', r, hbridge', rfl, hends io' r (runs_pumpHybrid (.error err) hruns ?_)⟩
      rw [if_pos hactive']
      exact .call (show pumpEffects.step (.setProtocolStreamPrefix pump.continuation) io io (.ok ())
        from ⟨rfl, rfl⟩) hafter
  · simp only [if_neg hactive]
    have hactive' : ¬ io.bridge.protocolStreamActive = true := by rw [hbridge]; exact hactive
    cases hrestore : s.restoreProtocolTransport .buffered with
    | mk s' restoreResult =>
      have hafter {r : Except BackendError ProtocolPumpOutcome}
          (h : Runs pumpEffects (do
              ofExcept restoreResult
              let output ← ofExcept result
              return .buffered output) { io with bridge := s'.bridge }
                { io with bridge := s'.bridge } r) :
          Runs pumpEffects program before { io with bridge := s'.bridge } r := by
        refine hends _ r (runs_pumpHybrid result hruns ?_)
        rw [if_neg hactive']
        refine runs_restore hbridge ?_
        rw [hrestore]
        exact h
      -- restoring comes before the output is looked at
      cases restoreResult with
      | error err => exact ⟨_, .error err, rfl, rfl, hafter (.fail err _)⟩
      | ok _ =>
        cases result with
        | error err => exact ⟨_, .error err, rfl, rfl, hafter (.fail err _)⟩
        | ok output => exact ⟨_, .ok (.buffered output), rfl, rfl, hafter (.ret _ _)⟩

/-! ### The steps -/

lemma InPump.dispatchHead (h : InPump start false s.bridge) (attempts : ℕ) (recovered : Bool) :
    KeepsPump program before start resume (s.dispatchHead pump resume attempts recovered) := by
  refine keepsPump_protocolInputRemaining fun remaining => ?_
  cases remaining with
  | error err => exact .pure (h.innerDone hends _)
  | ok remaining =>
    simp only
    split_ifs
    · exact .pure (.enter hends h)
    · exact .pure (h.innerDone hends _)
    · exact .pure (.enter hends h)

lemma InPump.drainHead (h : InPump start false s.bridge) (attempts drainAttempts : ℕ) :
    KeepsPump program before start resume (s.drainHead pump resume attempts drainAttempts) := by
  refine keepsPump_protocolInputRemaining fun remaining => ?_
  cases remaining with
  | error err => exact .pure (h.innerDone hends _)
  | ok remaining =>
    simp only
    split_ifs
    · exact .pure (.enter hends h)
    · exact .pure (h.innerDone hends _)
    · exact h.dispatchHead hends attempts true

omit hends in
/-- The output is reset where it is taken. -/
lemma InPump.takeOutput (h : InPump start false s.bridge)
    {f : Except BackendError Bytes × System → SystemM System}
    (hf : ∀ output (s' : System), InPump start false s'.bridge →
      KeepsPump program before start resume (f (output, s'))) :
    KeepsPump program before start resume (s.takeOutput >>= f) := by
  unfold System.takeOutput
  split_ifs
  · exact hf (.ok []) s h
  refine .perform fun ans _ => ?_
  cases ans with
  | error err => exact hf (.error err) s h
  | ok _ =>
    refine .perform fun ans _ => ?_
    cases ans with
    | error err => exact hf (.error err) s h
    | ok _ =>
      exact hf _ { s with bridge := s.bridge.outputReset }
        (h.step .outputReset rfl fun _ => rfl)

lemma InPump.finishInner (h : InPump start false s.bridge) (recovered : Bool) :
    KeepsPump program before start resume (s.finishInner pump resume recovered) := by
  refine h.takeOutput fun output s' h' => ?_
  cases output with
  | error err => exact .pure (h'.innerDone hends _)
  | ok output =>
    simp only
    split_ifs
    · exact .pure (.enter hends h')
    · exact .pure (h'.innerDone hends _)

lemma InPump.finishErrorRecovery (h : InPump start false s.bridge) (output : Bytes) :
    KeepsPump program before start resume (s.finishErrorRecovery pump resume output) := by
  refine h.takeOutput fun taken s' h' => ?_
  cases taken with
  | error err => exact .pure (h'.innerDone hends _)
  | ok taken => exact .pure (h'.innerDone hends _)

/-- An export is back in `send_protocol_inner`. -/
lemma InPump.exportDone (h : InPump start false s.bridge) {phase : Phase}
    (hphase : phase.serving = false) (result : GuestReturn) :
    KeepsPump program before start resume (s.exportDone pump resume phase result) := by
  have hdone : ∀ x, KeepsPump program before start resume (pure (s.innerDone pump resume x)) :=
    fun x => .pure (h.innerDone hends x)
  have hnext : ∀ phase : Phase, phase.serving = false →
      KeepsPump program before start resume (pure (s.enter pump resume phase)) :=
    fun phase hserving => .pure (.enter hends (hserving ▸ h))
  cases phase with
  | dispatch attempts recovered =>
    cases result with
    | returned => exact h.dispatchHead hends attempts recovered
    | _ => exact hnext _ rfl
  | recover attempts =>
    cases result with
    | returned => exact h.drainHead hends attempts 0
    | _ => exact hdone _
  | drain attempts drainAttempts =>
    cases result with
    | returned => exact h.drainHead hends attempts drainAttempts
    | _ => exact hnext _ rfl
  | drainRecover attempts drainAttempts =>
    cases result with
    | returned => exact h.drainHead hends attempts drainAttempts
    | _ => exact hdone _
  | sendReady recovered =>
    cases result with
    | returned => exact hnext _ rfl
    | _ => exact hdone _
  | pqFlush recovered =>
    cases result with
    | returned => exact h.finishInner hends recovered
    | _ => exact hdone _
  | errorRecover output | errorSendReady output =>
    cases result with
    | returned => exact hnext _ rfl
    | _ => exact hdone _
  | errorPqFlush output =>
    cases result with
    | returned => exact h.finishErrorRecovery hends output
    | _ => exact hdone _
  | serve | serveRecover | serveSendReady | servePqFlush => cases hphase

/-- An export is back in `serve_protocol_stream_inner`. -/
lemma InPump.serveDone (h : InPump start true s.bridge) {phase : Phase}
    (hphase : phase.serving = true) (result : GuestReturn) :
    KeepsPump program before start resume (s.exportDone pump resume phase result) := by
  have hdone : ∀ x, KeepsPump program before start resume (pure (s.streamDone resume x)) :=
    fun x => .pure (h.streamDone hends x)
  have hnext : ∀ phase : Phase, phase.serving = true →
      KeepsPump program before start resume (pure (s.enter pump resume phase)) :=
    fun phase hserving => .pure (.enter hends (hserving ▸ h))
  cases phase with
  | serve =>
    cases result with
    | returned => exact hnext _ rfl
    | exited code =>
      simp only [System.exportDone]
      split_ifs
      · exact hdone _
      · exact hnext _ rfl
      · exact hdone _
    | uncaughtException => exact hnext _ rfl
    | trapped => exact hdone _
  | serveRecover | serveSendReady | servePqFlush =>
    cases result with
    | returned => exact hnext _ rfl
    | _ => exact hdone _
  | _ => cases hphase

/-- `pgl_recv` is a call on the bridge. -/
lemma keepsPump_recv (hcontrol : s.control = .pumping pump resume)
    (h : InPump start pump.phase.serving s.bridge) (n : ℕ) :
    KeepsPump program before start resume (s.pglRecv n) := by
  have hsame : ∀ s' : System, s'.control = s.control → s'.bridge = s.bridge →
      KeepsPump program before start resume (pure s') :=
    fun s' hcontrol' hbridge' => .pure (.pumping hends (hcontrol'.trans hcontrol) (hbridge' ▸ h))
  unfold System.pglRecv
  by_cases hstdio : s.bridge.onStdio = true
  · rw [if_pos hstdio]
    unfold System.readStdin
    split_ifs
    · exact hsame s rfl rfl
    · exact hsame _ rfl rfl
    · exact hsame s rfl rfl
    · refine .perform fun ans _ => ?_
      cases ans with
      | error kind => exact hsame s rfl rfl
      | ok there => exact hsame _ rfl rfl
  · rw [if_neg hstdio]
    have hread : InPump start pump.phase.serving (s.bridge.bufferRead n).1 := by
      refine h.step (.recv n) rfl fun stdout => ?_
      show (BridgeIo.pglRecv _ n).bridge = _
      rw [BridgeIo.pglRecv, if_neg hstdio]
    show KeepsPump program before start resume (pure { s with
      bridge := (s.bridge.bufferRead n).1
      obtained := s.obtained ++ (s.bridge.bufferRead n).2 })
    exact .pure (.pumping hends hcontrol hread)

/-- So is `pgl_send`, where standard output takes what it is given. -/
lemma keepsPump_send (hcontrol : s.control = .pumping pump resume)
    (h : InPump start pump.phase.serving s.bridge) (payload : Bytes) :
    KeepsPump program before start resume (s.pglSend payload) := by
  have hsame : KeepsPump program before start resume (pure s) := .pure (.pumping hends hcontrol h)
  unfold System.pglSend
  split_ifs with hstdio hempty
  · exact .perform fun _ _ => hsame
  · exact hsame
  refine .perform fun allocated _ => ?_
  cases allocated with
  | false => exact hsame
  | true =>
    by_cases hopens : (s.bridge.bufferAppend payload).opensStream = true
    · simp only [if_true, if_pos hopens]
      refine .perform fun taken htaken => ?_
      have htrue : taken = true := htaken
      subst htrue
      refine .pure (.pumping hends hcontrol (h.step (.send payload true) rfl fun stdout => ?_))
      show (BridgeIo.pglSend _ payload true).1.bridge = _
      simp only [BridgeIo.pglSend, if_neg hstdio, if_neg hempty, if_true, if_pos hopens]
    · simp only [if_true, if_neg hopens]
      refine .pure (.pumping hends hcontrol (h.step (.send payload true) rfl fun stdout => ?_))
      show (BridgeIo.pglSend _ payload true).1.bridge = _
      simp only [BridgeIo.pglSend, if_neg hstdio, if_neg hempty, if_true, if_neg hopens]

/-- **One step** of the backend. -/
lemma keepsPump_guestStep (hcontrol : s.control = .pumping pump resume)
    (h : InPump start pump.phase.serving s.bridge) :
    KeepsPump program before start resume (s.guestStep pump resume) := by
  refine .perform fun action _ => ?_
  cases action with
  | recv n => exact keepsPump_recv hends hcontrol h n
  | send bytes => exact keepsPump_send hends hcontrol h bytes
  | reportCopyResponse state =>
    exact .pure (.pumping hends hcontrol (h.step (.reportCopyResponse state) rfl fun _ => rfl))
  | finish result =>
    cases hserving : pump.phase.serving with
    | false => exact InPump.exportDone hends (hserving ▸ h) hserving result
    | true => exact InPump.serveDone hends (hserving ▸ h) hserving result

/-- `push_input`, and on into the loop. -/
lemma InPump.pushInput (h : InPump start false s.bridge) :
    KeepsPump program before start resume (s.pushInput pump resume) := by
  refine .perform fun ans _ => ?_
  cases ans with
  | error err => exact .pure (h.innerDone hends _)
  | ok _ =>
    refine .perform fun allocated _ => ?_
    show KeepsPump program before start resume (s.pushWritten pump resume allocated)
    have hwritten : InPump start false
        ({ s with bridge := (s.bridge.inputWrite pump.payload allocated).1 } : System).bridge :=
      h.step (.inputWrite pump.payload allocated) rfl fun _ => rfl
    unfold System.pushWritten
    refine .perform fun ans _ => ?_
    cases ans with
    | error err => exact .pure (hwritten.innerDone hends _)
    | ok _ =>
      by_cases hall : (s.bridge.inputWrite pump.payload allocated).2 ≠ pump.payload.length
      · simp only [if_pos hall]
        exact .pure (hwritten.innerDone hends _)
      · simp only [if_neg hall]
        exact hwritten.dispatchHead hends 0 false

end Steps

/-- The call of the pump, up to the first call of `main_loop`. -/
lemma keepsPump_sendProtocolPump (hpump : s.supportsProtocolPump = true)
    (message continuation : Bytes) {before : BridgeIo} (hbefore : before.bridge = s.bridge) :
    KeepsPump (sendProtocolPump s.stdio.attached message continuation) before
      { before with bridge := (s.bridge.setProtocolTransport .hybrid).1 } resume
      (s.sendProtocolPump resume message continuation) := by
  have hstart : ∀ ans, pumpEffects.step .startProtocol before before ans :=
    fun _ => BackendRuns.refl before
  have hset : pumpEffects.step (.setProtocolTransport .hybrid) before
      { before with bridge := (s.bridge.setProtocolTransport .hybrid).1 }
      (.ok (s.bridge.setProtocolTransport .hybrid).2) := by
    rw [← hbefore]
    exact ⟨rfl, rfl⟩
  unfold System.sendProtocolPump
  simp only [hpump, Bool.not_true, Bool.false_eq_true, if_false]
  refine .perform fun started _ => ?_
  cases started with
  | error err =>
    exact .pure ⟨before, .error err, hbefore, rfl, .call (hstart (.error err)) (.fail err before)⟩
  | ok _ =>
    unfold sendProtocolPump
    by_cases hempty : message = []
    · simp only [if_pos hempty]
      exact .pure ⟨before, .ok (.buffered []), hbefore, rfl, .call (hstart (.ok ())) (.ret _ _)⟩
    simp only [if_neg hempty]
    cases hattached : s.stdio.attached with
    | false => exact .pure ⟨before, .error _, hbefore, rfl, .call (hstart (.ok ())) (.fail _ _)⟩
    | true =>
      simp only [Bool.not_true, Bool.false_eq_true, if_false]
      -- `send_protocol_pump` refuses a bridge that was not in buffered mode
      by_cases hbuffered : (s.bridge.setProtocolTransport .hybrid).2 ≠ .buffered
      · rw [if_pos hbuffered]
        refine .pure ⟨{ before with bridge := (s.bridge.setProtocolTransport .hybrid).1 },
          .error _, rfl, rfl, .call (hstart (.ok ())) (.call hset ?_)⟩
        show Runs pumpEffects (if (s.bridge.setProtocolTransport .hybrid).2 ≠ .buffered then _ else _)
          _ _ _
        rw [if_pos hbuffered]
        exact .fail _ _
      · rw [if_neg hbuffered]
        -- the buffers are reset first
        let start : BridgeIo := { before with bridge := (s.bridge.setProtocolTransport .hybrid).1 }
        have hreset : InPump start false start.bridge.inputReset.outputReset :=
          ⟨start.run [.inputReset, .outputReset], ⟨_, by decide, rfl⟩, rfl⟩
        refine InPump.pushInput (fun io r hrun => ?_) hreset
        refine .call (hstart (.ok ())) (.call hset ?_)
        show Runs pumpEffects (if (s.bridge.setProtocolTransport .hybrid).2 ≠ .buffered then _ else
          pumpHybrid message continuation (s.bridge.setProtocolTransport .hybrid).2) _ _ _
        rw [if_neg hbuffered, not_not.mp hbuffered]
        exact hrun

end Connection

/-- The call of the pump is made, and the proxy has gone on where it is back: from the call on, the
backend runs on behalf of the pump, and standard output takes what it is given. -/
structure PumpReturns (proxy : PgliteProxy) (s s' : System) (message continuation : Bytes)
    (resume : Except BackendError ProtocolPumpOutcome → ProxyM Connection) : Prop where
  supports : s.supportsProtocolPump = true
  call : ∃ site backend,
    s.control = .proxy (.call (.sendWithProtocolPump site backend message continuation) resume)
  run : ∃ p tr first tr', (system proxy).next s = some p ∧ p.Exec tr (.ok first) ∧
    (∀ e ∈ tr, outputTaken e) ∧
    (system proxy).Run (fun s tr => s.Pumping ∧ ∀ e ∈ tr, outputTaken e) first tr' s'
  back : ¬ s'.Pumping

/-- **The connection runs the program of the pump.** When the pump is back, the proxy goes on with a
result of the program, run from the bridge of the call to the bridge that is left. -/
theorem connection_runs_pump {proxy : PgliteProxy} {s s' : System} {message continuation : Bytes}
    {resume : Except BackendError ProtocolPumpOutcome → ProxyM Connection}
    (h : PumpReturns proxy s s' message continuation resume) :
    ∃ (io : BridgeIo) (r : Except BackendError ProtocolPumpOutcome),
      io.bridge = s'.bridge ∧ s'.control = .proxy (resume r) ∧
      Runs pumpEffects (sendProtocolPump s.stdio.attached message continuation)
        { bridge := s.bridge, stdout := [] } io r := by
  obtain ⟨site, backend, hcall⟩ := h.call
  obtain ⟨p, tr, first, tr', hnext, hexec, htaken, hrun⟩ := h.run
  let before : BridgeIo := { bridge := s.bridge, stdout := [] }
  let start : BridgeIo := { before with bridge := (s.bridge.setProtocolTransport .hybrid).1 }
  let program := sendProtocolPump s.stdio.attached message continuation
  have hp : p = s.sendProtocolPump resume message continuation := by
    have hnext' : systemNext proxy s = some p := hnext
    rw [systemNext, hcall] at hnext'
    exact (Option.some.inj hnext').symm
  subst hp
  have hfirst : RunsPump program before start resume first :=
    hexec.of_wp (keepsPump_sendProtocolPump h.supports message continuation rfl) htaken first rfl
  have hend : RunsPump program before start resume s' := by
    -- `RunsPump` is kept by every step, and holds behind the last one
    refine hrun.invariant (I := fun _ s => RunsPump program before start resume s) hfirst ?_
    intro _ c p hc hnext
    cases hcontrol : c.control with
    | proxy prog =>
      -- the proxy is running, and no step is left
      refine wp_of_forall fun tr r hstep => ?_
      have hpumping := hstep.1
      rw [System.Pumping, hcontrol] at hpumping
      exact hpumping.elim
    | pumping pump resume' =>
      have hnext' : systemNext proxy c = some p := hnext
      rw [systemNext, hcontrol] at hnext'
      obtain rfl := Option.some.inj hnext'
      unfold RunsPump at hc
      rw [hcontrol] at hc
      obtain ⟨rfl, hin, hends⟩ := hc
      refine wp_mono (keepsPump_guestStep hends hcontrol hin) fun tr r hr hstep => ?_
      cases r with
      | ok c' => exact hr hstep.2 c' rfl
      | error e => exact e.elim
  unfold RunsPump at hend
  cases hcontrol : s'.control with
  | proxy prog =>
    rw [hcontrol] at hend
    obtain ⟨io, r, hbridge, rfl, hruns⟩ := hend
    exact ⟨io, r, hbridge, rfl, hruns⟩
  | pumping pump resume' => exact absurd (by rw [System.Pumping, hcontrol]; trivial) h.back

/-- **The pump leaves a connection in buffered mode** when it found it there. -/
theorem connection_restores_transport {proxy : PgliteProxy} {s s' : System}
    {message continuation : Bytes}
    {resume : Except BackendError ProtocolPumpOutcome → ProxyM Connection}
    (h : PumpReturns proxy s s' message continuation resume)
    (hbuffered : s.bridge.protocolTransport = .buffered) :
    s'.bridge.protocolTransport = .buffered := by
  obtain ⟨io, r, hbridge, -, hrun⟩ := connection_runs_pump h
  rw [← hbridge]
  exact hrun.of_safe (endsWith_sendProtocolPump s.stdio.attached message continuation hbuffered)

end PgliteOxide.Pglite
