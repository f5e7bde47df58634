import PgliteOxide.Lib.ProgState
import PgliteOxide.Pglite.BridgeOutput
import PgliteOxide.Pglite.Proxy

/-!
# The transport of the bridge

The static variables of the bridge under any calls of its entry points. A stream is requested only
in hybrid mode during a COPY, and is not active in buffered mode (`Bridge.TransportInv`); what is
sent goes to the buffer first and to standard output later, in one order (`sent_in_order`).
`send_protocol_pump` is the host's part of it: entered in buffered mode, it leaves the bridge in
buffered mode whatever the backend does (`endsWith_sendProtocolPump`). The calls into the
backend are single steps here.
-/

namespace PgliteOxide.Pglite

open Lib

/-! ## The entry points -/

/-- The check of `pgl_set_protocol_transport` on its argument. -/
def ProtocolTransportMode.fromInt (mode : Int) : Option ProtocolTransportMode :=
  if mode = 0 then some .buffered
  else if mode = 1 then some .stream
  else if mode = 2 then some .hybrid
  else none

/-- The bridge, and the bytes standard output has taken. -/
structure BridgeIo where
  bridge : Bridge
  stdout : Bytes
deriving DecidableEq, Repr

/-- A call on the protocol socket, or of the host on the buffers. A buffer that has to grow may not
get the memory. -/
inductive BridgeCall where
  | setProtocolTransport (mode : Int)
  | reportCopyResponse (state : Int)
  | outputReset
  | inputReset
  | inputWrite (buffer : Bytes) (allocated : Bool)
  | recv (n : ℕ)
  | send (payload : Bytes) (allocated : Bool)
deriving DecidableEq, Repr

namespace BridgeIo

def initial : BridgeIo := { bridge := .initial, stdout := [] }

/-- `pgl_send`, with the number it returns; standard output takes what it is given. -/
def pglSend (io : BridgeIo) (payload : Bytes) (allocated : Bool) : BridgeIo × Int :=
  if io.bridge.onStdio then
    ({ io with stdout := io.stdout ++ payload }, payload.length)
  else if payload = [] then
    (io, 0)
  else if allocated then
    let bridge := io.bridge.bufferAppend payload
    if bridge.opensStream then
      ({ bridge := bridge.streamOpened, stdout := io.stdout ++ bridge.outputBuf }, payload.length)
    else
      ({ io with bridge := bridge }, payload.length)
  else
    (io, -1)

/-- `pgl_recv`; what standard input gives does not concern the bridge. -/
def pglRecv (io : BridgeIo) (n : ℕ) : BridgeIo :=
  if io.bridge.onStdio then io else { io with bridge := (io.bridge.bufferRead n).1 }

/-- `pgl_set_protocol_transport`; a number that is no mode changes nothing. -/
def pglSetProtocolTransport (io : BridgeIo) (mode : Int) : BridgeIo :=
  match ProtocolTransportMode.fromInt mode with
  | some mode => { io with bridge := (io.bridge.setProtocolTransport mode).1 }
  | none => io

def step (io : BridgeIo) : BridgeCall → BridgeIo
  | .setProtocolTransport mode => io.pglSetProtocolTransport mode
  | .reportCopyResponse state => { io with bridge := io.bridge.protocolReportCopyResponse state }
  | .outputReset => { io with bridge := io.bridge.outputReset }
  | .inputReset => { io with bridge := io.bridge.inputReset }
  | .inputWrite buffer allocated => { io with bridge := (io.bridge.inputWrite buffer allocated).1 }
  | .recv n => io.pglRecv n
  | .send payload allocated => (io.pglSend payload allocated).1

/-- The state after calls. -/
def run (io : BridgeIo) (calls : List BridgeCall) : BridgeIo := calls.foldl step io

/-- The payloads of the calls of `pgl_send` that return their length. -/
def accepted (io : BridgeIo) : List BridgeCall → Bytes
  | [] => []
  | .send payload allocated :: calls =>
    (if (io.pglSend payload allocated).2 = payload.length then payload else [])
      ++ accepted (io.step (.send payload allocated)) calls
  | call :: calls => accepted (io.step call) calls

end BridgeIo

namespace BridgeCall

/-- The bytes a call sends. -/
def payload : BridgeCall → Bytes
  | .send payload _ => payload
  | _ => []

/-- A call that neither changes the transport nor resets the output. -/
def keepsStream : BridgeCall → Bool
  | .setProtocolTransport _ | .outputReset => false
  | _ => true

/-- A call that does not change the transport. -/
def keepsTransport : BridgeCall → Bool
  | .setProtocolTransport _ => false
  | _ => true

/-- Memory that is asked for is there. -/
def hasMemory : BridgeCall → Bool
  | .send _ allocated => allocated
  | _ => true

end BridgeCall

/-! ## The static variables -/

namespace Bridge

variable {bridge : Bridge}

/-- A stream is requested only in hybrid mode during a COPY, and not active in buffered mode. -/
structure TransportInv (bridge : Bridge) : Prop where
  requested : bridge.protocolStreamRequested = true →
    bridge.protocolTransport = .hybrid ∧ bridge.protocolCopyState ≠ .copyNone
  buffered : bridge.protocolTransport = .buffered → bridge.protocolStreamActive = false

lemma transportInv_initial : Bridge.initial.TransportInv where
  requested := nofun
  buffered := fun _ => rfl

/-- Writing the input changes the input only. -/
lemma inputWrite_frame (bridge : Bridge) (buffer : Bytes) (allocated : Bool) :
    ∃ buf off, (bridge.inputWrite buffer allocated).1
      = { bridge with inputBuf := buf, inputOff := off } := by
  unfold inputWrite
  split_ifs <;> exact ⟨_, _, rfl⟩

/-- Reading the input changes the input only. -/
lemma bufferRead_frame (bridge : Bridge) (n : ℕ) :
    ∃ off, (bridge.bufferRead n).1 = { bridge with inputOff := off } := by
  unfold bufferRead
  split_ifs <;> exact ⟨_, rfl⟩

/-- Reporting a COPY changes its state and the request only. -/
lemma reportCopyResponse_frame (bridge : Bridge) (state : Int) :
    ∃ copyState requested, bridge.protocolReportCopyResponse state
      = { bridge with protocolCopyState := copyState, protocolStreamRequested := requested } := by
  unfold protocolReportCopyResponse
  cases ProtocolCopyState.fromInt state <;> exact ⟨_, _, rfl⟩

/-- The variables of the transport are the same. -/
lemma TransportInv.congr {bridge' : Bridge} (h : bridge.TransportInv)
    (htransport : bridge'.protocolTransport = bridge.protocolTransport)
    (hcopy : bridge'.protocolCopyState = bridge.protocolCopyState)
    (hrequested : bridge'.protocolStreamRequested = bridge.protocolStreamRequested)
    (hactive : bridge'.protocolStreamActive = bridge.protocolStreamActive) :
    bridge'.TransportInv where
  requested := by
    rw [hrequested, htransport, hcopy]
    exact h.requested
  buffered := by
    rw [htransport, hactive]
    exact h.buffered

lemma TransportInv.setProtocolTransport (h : bridge.TransportInv) (mode : ProtocolTransportMode) :
    (bridge.setProtocolTransport mode).1.TransportInv := by
  unfold Bridge.setProtocolTransport
  by_cases hhybrid : mode = .hybrid
  · subst hhybrid
    exact ⟨fun hrequested => ⟨rfl, (h.requested hrequested).2⟩, nofun⟩
  · simp only [ne_eq, hhybrid, not_false_eq_true, if_true]
    refine ⟨nofun, fun hbuffered => ?_⟩
    have hmode : mode = .buffered := hbuffered
    subst hmode
    rfl

lemma TransportInv.protocolReportCopyResponse (h : bridge.TransportInv) (state : Int) :
    (bridge.protocolReportCopyResponse state).TransportInv := by
  unfold Bridge.protocolReportCopyResponse
  cases hstate : ProtocolCopyState.fromInt state with
  | none => exact h
  | some copyState =>
    refine ⟨fun hrequested => ?_, h.buffered⟩
    have hboth : (decide (bridge.protocolTransport = .hybrid)
        && decide (copyState ≠ .copyNone)) = true := hrequested
    rw [Bool.and_eq_true, decide_eq_true_eq, decide_eq_true_eq] at hboth
    exact hboth

lemma TransportInv.outputReset (h : bridge.TransportInv) : bridge.outputReset.TransportInv where
  requested := nofun
  buffered := h.buffered

lemma transportInv_streamOpened (hopens : bridge.opensStream = true) :
    bridge.streamOpened.TransportInv where
  requested := nofun
  buffered := by
    unfold opensStream at hopens
    rw [Bool.and_eq_true, decide_eq_true_eq] at hopens
    intro hbuffered
    have htransport : bridge.protocolTransport = .buffered := hbuffered
    rw [hopens.1] at htransport
    cases htransport

end Bridge

namespace BridgeIo

variable {io : BridgeIo}

/-- The ways through `pgl_send`. -/
lemma pglSend_cases (io : BridgeIo) (payload : Bytes) (allocated : Bool) :
    (io.bridge.onStdio = true ∧ io.pglSend payload allocated
      = ({ io with stdout := io.stdout ++ payload }, (payload.length : Int))) ∨
    (payload = [] ∧ io.pglSend payload allocated = (io, 0)) ∨
    (payload ≠ [] ∧ allocated = false ∧ io.pglSend payload allocated = (io, -1)) ∨
    ((io.bridge.bufferAppend payload).opensStream = true ∧ io.pglSend payload allocated
      = (({ bridge := (io.bridge.bufferAppend payload).streamOpened
            stdout := io.stdout ++ (io.bridge.outputBuf ++ payload) } : BridgeIo),
          (payload.length : Int))) ∨
    (io.bridge.onStdio = false ∧ io.pglSend payload allocated
      = ({ io with bridge := io.bridge.bufferAppend payload }, (payload.length : Int))) := by
  unfold pglSend
  cases hstdio : io.bridge.onStdio with
  | true => exact .inl ⟨rfl, rfl⟩
  | false =>
    simp only [Bool.false_eq_true, if_false]
    by_cases hempty : payload = []
    · exact .inr (.inl ⟨hempty, if_pos hempty⟩)
    · rw [if_neg hempty]
      cases allocated with
      | false => exact .inr (.inr (.inl ⟨hempty, rfl, rfl⟩))
      | true =>
        cases hopens : (io.bridge.bufferAppend payload).opensStream with
        | true => exact .inr (.inr (.inr (.inl ⟨rfl, by simp only [if_true]; rfl⟩)))
        | false =>
          refine .inr (.inr (.inr (.inr ⟨trivial, ?_⟩)))
          simp only [if_true, Bool.false_eq_true, if_false]

lemma transportInv_pglSend (h : io.bridge.TransportInv) (payload : Bytes) (allocated : Bool) :
    (io.pglSend payload allocated).1.bridge.TransportInv := by
  rcases io.pglSend_cases payload allocated with
    ⟨-, heq⟩ | ⟨-, heq⟩ | ⟨-, -, heq⟩ | ⟨hopens, heq⟩ | ⟨-, heq⟩
  · rw [heq]
    exact h
  · rw [heq]
    exact h
  · rw [heq]
    exact h
  · rw [heq]
    exact Bridge.transportInv_streamOpened hopens
  · rw [heq]
    exact h.congr rfl rfl rfl rfl

/-- What a call does to the transport. -/
lemma transportInv_step (h : io.bridge.TransportInv) (call : BridgeCall) :
    (io.step call).bridge.TransportInv := by
  cases call with
  | setProtocolTransport mode =>
    show (io.pglSetProtocolTransport mode).bridge.TransportInv
    unfold pglSetProtocolTransport
    cases ProtocolTransportMode.fromInt mode with
    | none => exact h
    | some mode => exact h.setProtocolTransport mode
  | reportCopyResponse state => exact h.protocolReportCopyResponse state
  | outputReset => exact h.outputReset
  | inputReset => exact h.congr rfl rfl rfl rfl
  | inputWrite buffer allocated =>
    obtain ⟨buf, off, hframe⟩ := io.bridge.inputWrite_frame buffer allocated
    show (io.bridge.inputWrite buffer allocated).1.TransportInv
    rw [hframe]
    exact h.congr rfl rfl rfl rfl
  | recv n =>
    show (io.pglRecv n).bridge.TransportInv
    unfold pglRecv
    by_cases hstdio : io.bridge.onStdio = true
    · rw [if_pos hstdio]
      exact h
    · obtain ⟨off, hframe⟩ := io.bridge.bufferRead_frame n
      rw [if_neg hstdio, hframe]
      exact h.congr rfl rfl rfl rfl
  | send payload allocated => exact transportInv_pglSend h payload allocated

lemma transportInv_run (h : io.bridge.TransportInv) (calls : List BridgeCall) :
    (io.run calls).bridge.TransportInv := by
  induction calls generalizing io with
  | nil => exact h
  | cons call calls ih => exact ih (transportInv_step h call)

end BridgeIo

/-! ## The write with its sizes -/

namespace OutputBridge

/-- The bridge without the capacity of its output buffer. -/
def io (s : OutputBridge) : BridgeIo := { bridge := s.bridge, stdout := s.stdout }

variable {s s' : OutputBridge} {value : Int32}

/-- From the copy on, a write that returns has appended the payload, and opened a stream that was
requested. -/
lemma copyIn_refines {cap length : UInt32} {bytes : Bytes} {writes : ℕ → Int} {rounds : ℕ}
    (h : s.copyIn cap bytes length writes rounds = .returned s' value) :
    s'.io = if (s.bridge.bufferAppend bytes).opensStream then
        { bridge := (s.bridge.bufferAppend bytes).streamOpened
          stdout := s.stdout ++ (s.bridge.bufferAppend bytes).outputBuf }
      else { bridge := s.bridge.bufferAppend bytes, stdout := s.stdout } := by
  unfold copyIn store at h
  by_cases hfits : s.bridge.outputBuf.length + bytes.length ≤ cap.toNat
  · rw [dif_pos hfits] at h
    simp only [finishWrite] at h
    by_cases hopens : (s.bridge.bufferAppend bytes).opensStream = true
    · rw [if_pos hopens] at h ⊢
      cases hloop : writeLoop writes (s.bridge.bufferAppend bytes).outputBuf rounds 0 s.stdout with
      | none =>
        rw [hloop] at h
        cases h
      | some out =>
        obtain ⟨stdout, all⟩ := out
        rw [hloop] at h
        cases all with
        | false => cases h
        | true =>
          cases h
          have hout := (takesAll_of_writeLoop (Nat.zero_le _) hloop).2
          show ({ bridge := _, stdout := stdout } : BridgeIo) = _
          rw [hout, List.drop_zero]
          rfl
    · rw [if_neg hopens] at h ⊢
      cases h
      rfl
  · rw [dif_neg hfits] at h
    cases h

/-- **A write that returns is `pgl_send`** on the buffers. -/
lemma bufferWrite_refines {buffer : SendBuffer} {answers : WriteAnswers} {doublings rounds : ℕ}
    (hbuffers : s.bridge.onStdio = false)
    (h : s.bufferWrite buffer answers doublings rounds = .returned s' value) :
    s'.io = (s.io.pglSend (payload buffer) true).1 := by
  have hbuffers' : ¬ s.io.bridge.onStdio = true := by
    rw [show s.io.bridge.onStdio = s.bridge.onStdio from rfl, hbuffers]
    exact Bool.false_ne_true
  unfold BridgeIo.pglSend
  rw [if_neg hbuffers']
  by_cases hzero : buffer.length = 0
  · have hnil : payload buffer = [] := payload_eq_nil hzero
    unfold bufferWrite at h
    rw [if_pos hzero] at h
    cases h
    rw [if_pos hnil]
  · cases hbytes : buffer.bytes with
    | none =>
      unfold bufferWrite at h
      rw [if_neg hzero, hbytes] at h
      cases h
    | some bytes =>
      have hcopy : ∃ cap, s.copyIn cap bytes buffer.length answers.writes rounds
          = .returned s' value := by
        unfold bufferWrite at h
        simp only [if_neg hzero, hbytes] at h
        by_cases hgrows : s.outputLen + buffer.length > s.outputCap
        · rw [if_pos hgrows] at h
          cases hdouble : doubleUntil (s.outputLen + buffer.length) doublings s.firstCap with
          | none =>
            rw [hdouble] at h
            cases h
          | some cap =>
            rw [hdouble] at h
            cases hallocated : answers.allocated with
            | false =>
              rw [hallocated] at h
              cases h
            | true =>
              rw [hallocated] at h
              exact ⟨cap, h⟩
        · rw [if_neg hgrows] at h
          exact ⟨s.outputCap, h⟩
      obtain ⟨cap, hcap⟩ := hcopy
      rw [payload_eq hbytes, if_neg (bytes_ne_nil hzero hbytes), if_pos rfl, copyIn_refines hcap]
      unfold io
      by_cases hopens : (s.bridge.bufferAppend bytes).opensStream = true
      · simp only [if_pos hopens]
      · simp only [if_neg hopens]

end OutputBridge

namespace BridgeIo

variable {io : BridgeIo}

/-! ## What is sent -/

/-- In hybrid mode: the buffer is empty once the stream is active, and everything is out or in the
buffer. -/
structure SentInv (io : BridgeIo) (sent : Bytes) : Prop where
  hybrid : io.bridge.protocolTransport = .hybrid
  flushed : io.bridge.protocolStreamActive = true → io.bridge.outputBuf = []
  sent : io.stdout ++ io.bridge.outputBuf = sent

variable {sent : Bytes}

lemma SentInv.onStdio_iff (h : io.SentInv sent) :
    io.bridge.onStdio = io.bridge.protocolStreamActive := by
  unfold Bridge.onStdio
  rw [h.hybrid]
  rfl

/-- `pgl_send` takes its payload, or refuses it and changes nothing. -/
lemma SentInv.pglSend (h : io.SentInv sent) (payload : Bytes) (allocated : Bool) :
    (io.pglSend payload allocated).1.SentInv
      (sent ++ if (io.pglSend payload allocated).2 = payload.length then payload else []) := by
  have happend : io.stdout ++ (io.bridge.outputBuf ++ payload) = sent ++ payload := by
    rw [← List.append_assoc, h.sent]
  rcases io.pglSend_cases payload allocated with
    ⟨hstdio, heq⟩ | ⟨hempty, heq⟩ | ⟨hne, -, heq⟩ | ⟨-, heq⟩ | ⟨hstdio, heq⟩
  · -- the stream is active, and nothing is buffered
    have hflushed := h.flushed (h.onStdio_iff ▸ hstdio)
    have hsent := h.sent
    rw [hflushed, List.append_nil] at hsent
    rw [heq, if_pos rfl]
    refine ⟨h.hybrid, fun _ => hflushed, ?_⟩
    show io.stdout ++ payload ++ io.bridge.outputBuf = sent ++ payload
    rw [hflushed, List.append_nil, hsent]
  · rw [heq, hempty, ite_self, List.append_nil]
    exact h
  · have hrefused : ¬ (-1 : Int) = payload.length := by omega
    rw [heq, if_neg hrefused, List.append_nil]
    exact h
  · -- the stream is opened: what was buffered goes before the payload
    rw [heq, if_pos rfl]
    refine ⟨h.hybrid, fun _ => rfl, ?_⟩
    show io.stdout ++ (io.bridge.outputBuf ++ payload) ++ [] = sent ++ payload
    rw [List.append_nil, happend]
  · rw [heq, if_pos rfl]
    refine ⟨h.hybrid, fun hactive => ?_, happend⟩
    have hstdio' : io.bridge.onStdio = true := h.onStdio_iff.trans hactive
    rw [hstdio] at hstdio'
    cases hstdio'

/-- The other calls leave what is sent alone. -/
lemma SentInv.congr {io' : BridgeIo} (h : io.SentInv sent)
    (htransport : io'.bridge.protocolTransport = io.bridge.protocolTransport)
    (hactive : io'.bridge.protocolStreamActive = io.bridge.protocolStreamActive)
    (hbuf : io'.bridge.outputBuf = io.bridge.outputBuf) (hstdout : io'.stdout = io.stdout) :
    io'.SentInv sent where
  hybrid := htransport.trans h.hybrid
  flushed := by
    rw [hactive, hbuf]
    exact h.flushed
  sent := by
    rw [hstdout, hbuf]
    exact h.sent

lemma SentInv.step (h : io.SentInv sent) {call : BridgeCall} (hcall : call.keepsStream = true)
    (hsend : ∀ payload allocated, call ≠ .send payload allocated) : (io.step call).SentInv sent := by
  cases call with
  | setProtocolTransport mode => cases hcall
  | outputReset => cases hcall
  | reportCopyResponse state =>
    obtain ⟨copyState, requested, hframe⟩ := io.bridge.reportCopyResponse_frame state
    show SentInv { io with bridge := io.bridge.protocolReportCopyResponse state } sent
    rw [hframe]
    exact h.congr rfl rfl rfl rfl
  | inputReset => exact h.congr rfl rfl rfl rfl
  | inputWrite buffer allocated =>
    obtain ⟨buf, off, hframe⟩ := io.bridge.inputWrite_frame buffer allocated
    show SentInv { io with bridge := (io.bridge.inputWrite buffer allocated).1 } sent
    rw [hframe]
    exact h.congr rfl rfl rfl rfl
  | recv n =>
    show (io.pglRecv n).SentInv sent
    unfold pglRecv
    by_cases hstdio : io.bridge.onStdio = true
    · rw [if_pos hstdio]
      exact h
    · obtain ⟨off, hframe⟩ := io.bridge.bufferRead_frame n
      rw [if_neg hstdio, hframe]
      exact h.congr rfl rfl rfl rfl
  | send payload allocated => exact absurd rfl (hsend payload allocated)

/-- A run in hybrid mode. -/
lemma SentInv.run (h : io.SentInv sent) {calls : List BridgeCall}
    (hcalls : ∀ call ∈ calls, call.keepsStream = true) :
    (io.run calls).SentInv (sent ++ io.accepted calls) := by
  induction calls generalizing io sent with
  | nil =>
    show io.SentInv (sent ++ [])
    rw [List.append_nil]
    exact h
  | cons call calls ih =>
    have hcall := hcalls call List.mem_cons_self
    have hrest : ∀ c ∈ calls, c.keepsStream = true := fun c hc =>
      hcalls c (List.mem_cons_of_mem call hc)
    cases call with
    | send payload allocated =>
      have hstep := ih (h.pglSend payload allocated) hrest
      rw [List.append_assoc] at hstep
      exact hstep
    | setProtocolTransport mode => cases hcall
    | outputReset => cases hcall
    | reportCopyResponse state => exact ih (h.step hcall nofun) hrest
    | inputReset => exact ih (h.step hcall nofun) hrest
    | inputWrite buffer allocated => exact ih (h.step hcall nofun) hrest
    | recv n => exact ih (h.step hcall nofun) hrest

/-- With memory, every payload is taken. -/
lemma accepted_eq_payloads {calls : List BridgeCall} (io : BridgeIo)
    (hmemory : ∀ call ∈ calls, call.hasMemory = true) :
    io.accepted calls = calls.flatMap BridgeCall.payload := by
  induction calls generalizing io with
  | nil => rfl
  | cons call calls ih =>
    have hrest : ∀ c ∈ calls, c.hasMemory = true := fun c hc =>
      hmemory c (List.mem_cons_of_mem call hc)
    rw [List.flatMap_cons]
    cases call with
    | send payload allocated =>
      have hallocated : allocated = true := hmemory _ List.mem_cons_self
      have hvalue : (io.pglSend payload allocated).2 = payload.length := by
        rcases io.pglSend_cases payload allocated with
          ⟨-, heq⟩ | ⟨hempty, heq⟩ | ⟨-, hrefused, -⟩ | ⟨-, heq⟩ | ⟨-, heq⟩
        · rw [heq]
        · rw [heq, hempty]
          rfl
        · rw [hallocated] at hrefused
          cases hrefused
        · rw [heq]
        · rw [heq]
      show (if _ = _ then _ else _) ++ _ = payload ++ _
      rw [if_pos hvalue, ih _ hrest]
    | setProtocolTransport mode => exact ih _ hrest
    | outputReset => exact ih _ hrest
    | reportCopyResponse state => exact ih _ hrest
    | inputReset => exact ih _ hrest
    | inputWrite buffer allocated => exact ih _ hrest
    | recv n => exact ih _ hrest

/-- **What is sent stays in order** across the moment the stream becomes active. -/
lemma sent_in_order {calls : List BridgeCall} (htransport : io.bridge.protocolTransport = .hybrid)
    (hactive : io.bridge.protocolStreamActive = false)
    (hcalls : ∀ call ∈ calls, call.keepsStream = true) :
    let start : BridgeIo := { bridge := io.bridge.outputReset, stdout := [] }
    (start.run calls).stdout ++ (start.run calls).bridge.outputBuf = start.accepted calls := by
  intro start
  have hstart : start.SentInv [] := by
    refine ⟨htransport, fun h => ?_, rfl⟩
    have h' : io.bridge.protocolStreamActive = true := h
    rw [hactive] at h'
    cases h'
  exact (hstart.run hcalls).sent

end BridgeIo

/-! ## `send_protocol_pump` -/

/-- The calls of `send_protocol_pump`. -/
inductive PumpOp where
  | startProtocol
  | setProtocolTransport (mode : ProtocolTransportMode)
  | sendProtocolInner (payload : Bytes)
  | protocolStreamActive
  | setProtocolStreamPrefix (bytes : Bytes)
  | serveProtocolStreamInner
deriving DecidableEq

@[reducible] def PumpAnswer : PumpOp → Type
  | .startProtocol => Except BackendError Unit
  | .setProtocolTransport _ => Except BackendError ProtocolTransportMode
  | .sendProtocolInner _ => Except BackendError Bytes
  | .protocolStreamActive => Except BackendError Bool
  | .setProtocolStreamPrefix _ => Except BackendError Unit
  | .serveProtocolStreamInner => Except BackendError Unit

abbrev PumpM := Prog PumpOp PumpAnswer BackendError

/-- An error with a text of the host. -/
def pumpError (message : String) : BackendError := { display := message, startupOutput := none }

/-- `restore_protocol_transport`. -/
def restoreProtocolTransport (previousMode : ProtocolTransportMode) :
    PumpM (Except BackendError Unit) := do
  let current ← Prog.perform (PumpOp.setProtocolTransport previousMode)
  return current.bind fun current =>
    if current ≠ previousMode then .ok ()
    else .error (pumpError
      "pgl_set_protocol_transport restore observed unchanged current mode")

/-- `result.and_then(|_| self.serve_protocol_stream_inner())`. -/
def serveAfter : Except BackendError Bytes → PumpM (Except BackendError Unit)
  | .ok _ => Prog.perform PumpOp.serveProtocolStreamInner
  | .error err => return .error err

/-- `send_protocol_pump` where the stream became active. -/
def finishStreamed (continuation : Bytes) (previousMode : ProtocolTransportMode)
    (result : Except BackendError Bytes) : PumpM ProtocolPumpOutcome := do
  Prog.ofExcept (← Prog.perform (PumpOp.setProtocolStreamPrefix continuation))
  let streamResult ← serveAfter result
  let restoreResult ← restoreProtocolTransport previousMode
  let clearResult ← Prog.perform (PumpOp.setProtocolStreamPrefix [])
  Prog.ofExcept streamResult
  Prog.ofExcept restoreResult
  Prog.ofExcept clearResult
  return .streamed

/-- `send_protocol_pump` where it did not. -/
def finishBuffered (previousMode : ProtocolTransportMode) (result : Except BackendError Bytes) :
    PumpM ProtocolPumpOutcome := do
  let restoreResult ← restoreProtocolTransport previousMode
  Prog.ofExcept restoreResult
  let output ← Prog.ofExcept result
  return .buffered output

/-- `send_protocol_pump`, with the transport set. -/
def pumpHybrid (payload continuation : Bytes) (previousMode : ProtocolTransportMode) :
    PumpM ProtocolPumpOutcome := do
  let result ← Prog.perform (PumpOp.sendProtocolInner payload)
  let active ← Prog.perform PumpOp.protocolStreamActive
  -- `unwrap_or(false)`
  if active.toOption.getD false then finishStreamed continuation previousMode result
  else finishBuffered previousMode result

/-- `send_protocol_pump`; `attached` says whether a stream is attached. -/
def sendProtocolPump (attached : Bool) (payload continuation : Bytes) :
    PumpM ProtocolPumpOutcome := do
  Prog.ofExcept (← Prog.perform PumpOp.startProtocol)
  if payload = [] then return .buffered []
  else if !attached then Prog.fail (pumpError "WASIX protocol pump requires an attached stream")
  else do
    let previousMode ← Prog.ofExcept (← Prog.perform (PumpOp.setProtocolTransport .hybrid))
    if previousMode ≠ .buffered then
      Prog.fail (pumpError "WASIX protocol transport was not buffered before protocol pump")
    else pumpHybrid payload continuation previousMode

/-- The backend and the host use the bridge, without changing its transport. -/
def BackendRuns (io io' : BridgeIo) : Prop :=
  ∃ calls : List BridgeCall, (∀ call ∈ calls, call.keepsTransport = true) ∧ io' = io.run calls

/-- What the calls of `send_protocol_pump` do to the bridge: setting the transport succeeds, and the
lock of standard input is not poisoned; a call of an export ends in any way. -/
def pumpEffects : Effects PumpOp PumpAnswer BridgeIo where
  step
    | .startProtocol, io, io', _ => BackendRuns io io'
    | .setProtocolTransport mode, io, io', ans =>
      io' = { io with bridge := (io.bridge.setProtocolTransport mode).1 } ∧
        ans = .ok (io.bridge.setProtocolTransport mode).2
    | .sendProtocolInner _, io, io', _ => BackendRuns io io'
    | .protocolStreamActive, io, io', ans =>
      io' = io ∧ ∀ active, ans = .ok active → active = io.bridge.protocolStreamActive
    | .setProtocolStreamPrefix _, io, io', ans => io' = io ∧ ans = .ok ()
    | .serveProtocolStreamInner, io, io', _ => BackendRuns io io'
  crash _ _ _ := False

/-! ## The transport after `send_protocol_pump` -/

/-- The transport a call leaves is the one it found. -/
lemma protocolTransport_step {io : BridgeIo} {call : BridgeCall}
    (hcall : call.keepsTransport = true) :
    (io.step call).bridge.protocolTransport = io.bridge.protocolTransport := by
  cases call with
  | setProtocolTransport mode => cases hcall
  | reportCopyResponse state =>
    obtain ⟨copyState, requested, hframe⟩ := io.bridge.reportCopyResponse_frame state
    show (io.bridge.protocolReportCopyResponse state).protocolTransport = _
    rw [hframe]
  | outputReset => rfl
  | inputReset => rfl
  | inputWrite buffer allocated =>
    obtain ⟨buf, off, hframe⟩ := io.bridge.inputWrite_frame buffer allocated
    show (io.bridge.inputWrite buffer allocated).1.protocolTransport = _
    rw [hframe]
  | recv n =>
    show (io.pglRecv n).bridge.protocolTransport = _
    unfold BridgeIo.pglRecv
    by_cases hstdio : io.bridge.onStdio = true
    · rw [if_pos hstdio]
    · obtain ⟨off, hframe⟩ := io.bridge.bufferRead_frame n
      rw [if_neg hstdio, hframe]
  | send payload allocated =>
    show (io.pglSend payload allocated).1.bridge.protocolTransport = _
    rcases io.pglSend_cases payload allocated with
      ⟨-, heq⟩ | ⟨-, heq⟩ | ⟨-, -, heq⟩ | ⟨-, heq⟩ | ⟨-, heq⟩ <;> rw [heq] <;> rfl

lemma BackendRuns.protocolTransport {io io' : BridgeIo} (h : BackendRuns io io') :
    io'.bridge.protocolTransport = io.bridge.protocolTransport := by
  obtain ⟨calls, hcalls, rfl⟩ := h
  induction calls generalizing io with
  | nil => rfl
  | cons call calls ih =>
    have hrest : ∀ c ∈ calls, c.keepsTransport = true := fun c hc =>
      hcalls c (List.mem_cons_of_mem call hc)
    exact (ih hrest).trans (protocolTransport_step (hcalls call List.mem_cons_self))

section Pump

open Prog

variable {α : Type} {io : BridgeIo} {f : α → PumpM ProtocolPumpOutcome}

/-- The transport a program ends with. -/
abbrev EndsWith (mode : ProtocolTransportMode) (p : PumpM ProtocolPumpOutcome) (io : BridgeIo) :
    Prop :=
  safe pumpEffects (fun _ => True) (fun io' _ => io'.bridge.protocolTransport = mode) p io

variable {mode : ProtocolTransportMode}

lemma EndsWith.call {op : PumpOp} {g : PumpAnswer op → PumpM ProtocolPumpOutcome}
    (h : ∀ io' ans, pumpEffects.step op io io' ans → EndsWith mode (g ans) io') :
    EndsWith mode (perform op >>= g) io :=
  ⟨trivial, fun _ hcrash => hcrash.elim, h⟩

lemma EndsWith.fail {err : BackendError} (h : io.bridge.protocolTransport = mode) :
    EndsWith mode (Prog.fail err) io := ⟨trivial, h⟩

lemma EndsWith.pure {outcome : ProtocolPumpOutcome} (h : io.bridge.protocolTransport = mode) :
    EndsWith mode (Pure.pure outcome) io := ⟨trivial, h⟩

/-- `?` on a result: an error ends the program where it is. -/
lemma EndsWith.ofExcept {x : Except BackendError α} (herr : io.bridge.protocolTransport = mode)
    (hok : ∀ a, x = .ok a → EndsWith mode (f a) io) : EndsWith mode (Prog.ofExcept x >>= f) io := by
  cases x with
  | ok a => exact hok a rfl
  | error err => exact EndsWith.fail herr

/-- **The transport is restored** on every way out. -/
lemma endsWith_restore {previousMode : ProtocolTransportMode}
    {g : Except BackendError Unit → PumpM ProtocolPumpOutcome}
    (h : ∀ io' restoreResult, io'.bridge.protocolTransport = previousMode →
      EndsWith previousMode (g restoreResult) io') :
    EndsWith previousMode (restoreProtocolTransport previousMode >>= g) io := by
  unfold restoreProtocolTransport
  rw [Prog.bind_assoc]
  apply EndsWith.call
  intro io' ans hstep
  obtain ⟨rfl, -⟩ := hstep
  apply h
  unfold Bridge.setProtocolTransport
  by_cases hhybrid : previousMode = .hybrid
  · simp only [hhybrid, ne_eq, not_true, if_false]
  · simp only [ne_eq, hhybrid, not_false_eq_true, if_true]

lemma endsWith_finishBuffered (previousMode : ProtocolTransportMode)
    (result : Except BackendError Bytes) :
    EndsWith previousMode (finishBuffered previousMode result) io := by
  unfold finishBuffered
  apply endsWith_restore
  intro io' restoreResult hmode
  apply EndsWith.ofExcept hmode
  intro _ _
  apply EndsWith.ofExcept hmode
  intro output _
  exact EndsWith.pure hmode

lemma endsWith_finishStreamed (continuation : Bytes) (previousMode : ProtocolTransportMode)
    (result : Except BackendError Bytes) :
    EndsWith previousMode (finishStreamed continuation previousMode result) io := by
  have hrest : ∀ streamResult : Except BackendError Unit, ∀ io : BridgeIo,
      EndsWith previousMode (do
        let restoreResult ← restoreProtocolTransport previousMode
        let clearResult ← Prog.perform (PumpOp.setProtocolStreamPrefix [])
        Prog.ofExcept streamResult
        Prog.ofExcept restoreResult
        Prog.ofExcept clearResult
        return .streamed) io := by
    intro streamResult io
    apply endsWith_restore
    intro io' restoreResult hmode
    apply EndsWith.call
    intro io'' clearResult hstep
    obtain ⟨rfl, -⟩ := hstep
    apply EndsWith.ofExcept hmode
    intro _ _
    apply EndsWith.ofExcept hmode
    intro _ _
    apply EndsWith.ofExcept hmode
    intro _ _
    exact EndsWith.pure hmode
  unfold finishStreamed
  apply EndsWith.call
  intro io' ans hstep
  -- the prefix is set, since the lock is not poisoned
  obtain ⟨rfl, rfl⟩ := hstep
  cases result with
  | ok output =>
    apply EndsWith.call
    intro io' streamResult _
    exact hrest streamResult io'
  | error err => exact hrest (.error err) _

lemma endsWith_pumpHybrid (payload continuation : Bytes) (previousMode : ProtocolTransportMode) :
    EndsWith previousMode (pumpHybrid payload continuation previousMode) io := by
  unfold pumpHybrid
  apply EndsWith.call
  intro io₁ result _
  apply EndsWith.call
  intro io₂ active _
  by_cases hactive : active.toOption.getD false = true
  · rw [if_pos hactive]
    exact endsWith_finishStreamed continuation previousMode result
  · rw [if_neg hactive]
    exact endsWith_finishBuffered previousMode result

/-- **`send_protocol_pump` leaves the bridge in buffered mode** when it found it there. -/
lemma endsWith_sendProtocolPump (attached : Bool) (payload continuation : Bytes)
    (hbuffered : io.bridge.protocolTransport = .buffered) :
    EndsWith .buffered (sendProtocolPump attached payload continuation) io := by
  unfold sendProtocolPump
  apply EndsWith.call
  intro io' started hstart
  have hbuffered' : io'.bridge.protocolTransport = .buffered :=
    (BackendRuns.protocolTransport hstart).trans hbuffered
  apply EndsWith.ofExcept hbuffered'
  intro _ _
  by_cases hempty : payload = []
  · rw [if_pos hempty]
    exact EndsWith.pure hbuffered'
  rw [if_neg hempty]
  cases attached with
  | false => exact EndsWith.fail hbuffered'
  | true =>
    apply EndsWith.call
    intro io'' ans hset
    obtain ⟨-, hans⟩ := hset
    -- the mode the call returns is the one before it
    have hprevious : (io'.bridge.setProtocolTransport .hybrid).2 = .buffered := hbuffered'
    rw [hprevious] at hans
    subst hans
    exact endsWith_pumpHybrid payload continuation .buffered

end Pump

/-- **The transport of the bridge**: the invariant of its variables, the order of what is sent, and
the mode `send_protocol_pump` leaves. -/
theorem bridge_transport :
    (∀ calls, (BridgeIo.initial.run calls).bridge.TransportInv) ∧
    (∀ (io : BridgeIo) (calls : List BridgeCall), io.bridge.protocolTransport = .hybrid →
      io.bridge.protocolStreamActive = false → (∀ call ∈ calls, call.keepsStream = true) →
      let start : BridgeIo := { bridge := io.bridge.outputReset, stdout := [] }
      (start.run calls).stdout ++ (start.run calls).bridge.outputBuf = start.accepted calls ∧
        ((∀ call ∈ calls, call.hasMemory = true) →
          start.accepted calls = calls.flatMap BridgeCall.payload)) ∧
    (∀ (attached : Bool) (payload continuation : Bytes) (io io' : BridgeIo)
      (r : Except BackendError ProtocolPumpOutcome), io.bridge.protocolTransport = .buffered →
      Prog.Runs pumpEffects (sendProtocolPump attached payload continuation) io io' r →
      io'.bridge.protocolTransport = .buffered) := by
  refine ⟨?_, ?_, ?_⟩
  · exact BridgeIo.transportInv_run Bridge.transportInv_initial
  · intro io calls htransport hactive hcalls start
    refine ⟨BridgeIo.sent_in_order htransport hactive hcalls, ?_⟩
    exact BridgeIo.accepted_eq_payloads start
  · intro attached payload continuation io io' r hbuffered hrun
    exact hrun.of_safe (endsWith_sendProtocolPump attached payload continuation hbuffered)

/-- A COPY through the pump: the backend reports it between two writes. -/
lemma runs_sendProtocolPump_copyIn :
    Prog.Runs pumpEffects (sendProtocolPump true [81] []) .initial
      { bridge := .initial, stdout := [84, 71] } (.ok .streamed) := by
  let copied : BridgeIo :=
    { bridge := { Bridge.initial with
        protocolTransport := .hybrid
        protocolCopyState := .copyIn
        protocolStreamActive := true }
      stdout := [84, 71] }
  apply Prog.Runs.call
    (show pumpEffects.step .startProtocol .initial .initial (.ok ()) from ⟨[], nofun, rfl⟩)
  apply Prog.Runs.call (show pumpEffects.step (.setProtocolTransport .hybrid) .initial
    { bridge := (Bridge.initial.setProtocolTransport .hybrid).1, stdout := [] } (.ok .buffered)
    from ⟨rfl, rfl⟩)
  apply Prog.Runs.call (show pumpEffects.step (.sendProtocolInner [81])
    { bridge := (Bridge.initial.setProtocolTransport .hybrid).1, stdout := [] } copied (.ok [])
    from ⟨[.send [84] true, .reportCopyResponse 1, .send [71] true], by decide, rfl⟩)
  apply Prog.Runs.call (show pumpEffects.step .protocolStreamActive copied copied (.ok true)
    from ⟨rfl, fun _ h => (Except.ok.inj h).symm⟩)
  apply Prog.Runs.call
    (show pumpEffects.step (.setProtocolStreamPrefix []) copied copied (.ok ()) from ⟨rfl, rfl⟩)
  apply Prog.Runs.call
    (show pumpEffects.step .serveProtocolStreamInner copied copied (.ok ()) from ⟨[], nofun, rfl⟩)
  apply Prog.Runs.call (show pumpEffects.step (.setProtocolTransport .buffered) copied
    { bridge := .initial, stdout := [84, 71] } (.ok .hybrid) from ⟨rfl, rfl⟩)
  apply Prog.Runs.call (show pumpEffects.step (.setProtocolStreamPrefix [])
    { bridge := .initial, stdout := [84, 71] } { bridge := .initial, stdout := [84, 71] } (.ok ())
    from ⟨rfl, rfl⟩)
  exact .ret _ _

theorem bridge_transport_copyIn :
    (BridgeIo.initial.run [.setProtocolTransport 2, .reportCopyResponse 1]).bridge.TransportInv ∧
    (({ bridge := (Bridge.initial.setProtocolTransport .hybrid).1.outputReset
        stdout := [] } : BridgeIo).run
      [.send [84] true, .reportCopyResponse 1, .send [71] true]).stdout ++ [] = [84, 71] ∧
    Bridge.initial.protocolTransport = .buffered :=
  have sent := bridge_transport.2.1
    { bridge := (Bridge.initial.setProtocolTransport .hybrid).1, stdout := [] }
    [.send [84] true, .reportCopyResponse 1, .send [71] true] rfl rfl (by decide)
  ⟨bridge_transport.1 [.setProtocolTransport 2, .reportCopyResponse 1],
    sent.1.trans (sent.2 (by decide)),
    bridge_transport.2.2 true [81] [] _ _ _ rfl runs_sendProtocolPump_copyIn⟩

end PgliteOxide.Pglite
