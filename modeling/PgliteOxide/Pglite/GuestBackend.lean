import PgliteOxide.Pglite.BridgeTransport
import PgliteOxide.Pglite.GuestCalls
import PgliteOxide.Pglite.Handover

/-!
# The backend of a direct connection

The calls of `GuestCalls.lean` on the backend's side: the bridge in buffered mode, the block of
memory the host has been lent, and a backend that receives and sends on its socket whatever it
likes while one of its exports runs (`guestEffects`); `servingEffects` are those of a backend that
takes a message per call of `main_loop`, has memory for what it is asked for, does not trap
elsewhere and sends less than 2 GiB. Since an exchange began, what
was received and what is unread make up what was written, and what was sent is taken or in the
output buffer (`GuestState.InFlight`).
-/

namespace PgliteOxide.Pglite

open Lib Prog

/-! ## The backend -/

/-- The bridge, the block lent to the host with what is in it, the bytes the backend has received
from the input buffer, how many of them it has not used, and the bytes it has sent. -/
structure GuestState where
  io : BridgeIo
  block : Option (Int32 × Bytes)
  received : Bytes
  held : ℕ
  sent : Bytes

/-- What a call receives from the input buffer. -/
def BridgeIo.given (io : BridgeIo) : BridgeCall → Bytes
  | .recv n => if io.bridge.onStdio then [] else (io.bridge.bufferRead n).2
  | _ => []

/-- A call of the backend. -/
def BridgeCall.ofBackend : BridgeCall → Bool
  | .recv _ | .send .. | .reportCopyResponse _ => true
  | _ => false

namespace GuestState

/-- A call on the protocol socket. -/
def act (s : GuestState) (call : BridgeCall) : GuestState :=
  { s with
    io := s.io.step call
    received := s.received ++ s.io.given call
    sent := s.sent ++ s.io.accepted [call] }

/-- What the backend may do while one of its exports runs. -/
inductive Acts : GuestState → GuestState → Prop
  | done (s : GuestState) (held : ℕ) : Acts s { s with held := held }
  | act {s s' : GuestState} (call : BridgeCall) (hcall : call.ofBackend = true)
      (h : Acts (s.act call) s') : Acts s s'

/-- The output buffer is in the memory of a 32-bit guest. -/
def Fits (s : GuestState) : Prop := s.io.bridge.outputBuf.length < 2 ^ 32

/-- How the module may answer a call, and the state it leaves. A block starts at an address that is
aligned and ends in the memory. Outside of the block that was lent, writing does anything and
reading finds anything. -/
def mayAnswer (s s' : GuestState) : (op : GuestCall) → op.Answer → Prop
  | .resetTimings, _ | .recordTimings, _ | .pqBufferRemainingData, _ | .getPort, _ => s' = s
  | .malloc size, .ok ptr =>
    if 0 < ptr then
      8 ≤ ptr.toInt ∧ ptr.toInt + size.toNat ≤ 2 ^ 32 ∧
        ∃ bytes : Bytes, bytes.length = size.toNat ∧ s' = { s with block := some (ptr, bytes) }
    else s' = s
  | .malloc _, .error _ => s' = s
  | .free _, _ => s' = { s with block := none }
  | .memoryWrite ptr bytes, .ok () =>
    bytes.length < 2 ^ 32 ∧ ∀ old, s.block = some (ptr, old) → bytes.length = old.length →
      s' = { s with block := some (ptr, bytes) }
  | .memoryWrite .., .error _ => s' = s
  | .memoryRead ptr length, .ok bytes =>
    s' = s ∧ ∀ b, s.block = some (ptr, b) → length ≤ b.length → bytes = b.take length
  | .memoryRead .., .error _ => s' = s
  | .inputReset, .ok code => code = 0 ∧ s' = { s with io := s.io.step .inputReset }
  | .outputReset, .ok code => code = 0 ∧ s' = { s with io := s.io.step .outputReset }
  | .inputReset, .error _ => s' = s ∨ s' = { s with io := s.io.step .inputReset }
  | .outputReset, .error _ => s' = s ∨ s' = { s with io := s.io.step .outputReset }
  | .inputWrite ptr length, .ok written =>
    ∃ bytes allocated, bytes.length = length.toNat ∧
      (∀ b, s.block = some (ptr, b) → b.length = length.toNat → bytes = b) ∧
      written = Int32.ofInt (s.io.bridge.inputWrite bytes allocated).2 ∧
      s' = { s with io := s.io.step (.inputWrite bytes allocated) }
  | .inputWrite .., .error _ =>
    ∃ bytes allocated, s' = { s with io := s.io.step (.inputWrite bytes allocated) }
  | .inputAvailable, .ok available =>
    s' = s ∧ available = Int32.ofNat s.io.bridge.inputAvailable
  | .outputLen, .ok len => s' = s ∧ len = Int32.ofNat s.io.bridge.outputBuf.length
  | .inputAvailable, .error _ | .outputLen, .error _ => s' = s
  | .outputRead ptr maxLength, .ok read =>
    ∀ b, s.block = some (ptr, b) → b.length = maxLength.toNat →
      read = Int32.ofNat (s.io.bridge.outputBuf.take maxLength.toNat).length ∧
      s' = { s with block := some (ptr, s.io.bridge.outputBuf.take maxLength.toNat ++
        b.drop s.io.bridge.outputBuf.length) }
  | .outputRead ptr maxLength, .error _ =>
    ∀ b, s.block = some (ptr, b) → b.length = maxLength.toNat →
      ∃ b' : Bytes, b'.length = b.length ∧ s' = { s with block := some (ptr, b') }
  | .mainLoop, _ | .recoverError, _ | .sendReady, _ | .pqFlush, _ | .processStartup _, _
  | .sendConnData, _ => s.Acts s' ∧ s'.Fits

end GuestState

/-- The calls of the host on the backend. -/
def guestEffects : Effects GuestCall GuestCall.Answer GuestState where
  step op s s' ans := s.mayAnswer s' op ans
  crash _ _ _ := False

namespace GuestState

/-- The input that is not used up. -/
def pending (s : GuestState) : ℕ := s.io.bridge.unread.length + s.held

/-- What a backend does that serves. `malloc` of less than 2 GiB gives a positive address, and the
memory can be written and read; `pgl_wasix_input_write` takes all it is given; a call of
`main_loop`, however it ends, takes a message of at least five bytes or the rest of the input;
recovering, `ReadyForQuery` and flushing do not trap and give no input back; no other export traps;
and the output that is not taken stays shorter than 2 GiB. -/
def Serves (s s' : GuestState) : (op : GuestCall) → op.Answer → Prop
  | .malloc size, ans => size.toNat < 2 ^ 31 → ∃ ptr, ans = .ok ptr ∧ 0 < ptr
  | .memoryWrite _ bytes, ans => bytes.length < 2 ^ 32 → ans = .ok ()
  | .memoryRead .., ans => ∃ bytes, ans = .ok bytes
  | .inputWrite _ length, ans => ∃ written, ans = .ok written ∧
    written = Int32.ofNat length.toNat
  | .mainLoop, _ => (s'.pending = 0 ∨ s'.pending + 5 ≤ s.pending) ∧
    s'.io.bridge.outputBuf.length < 2 ^ 31
  | .recoverError, ans | .sendReady, ans | .pqFlush, ans =>
    ans = .ok () ∧ s'.pending ≤ s.pending ∧ s'.io.bridge.outputBuf.length < 2 ^ 31
  | .pqBufferRemainingData, ans => ans = .ok (Int32.ofNat s.held)
  | .inputReset, ans | .inputAvailable, ans | .outputReset, ans | .outputLen, ans
  | .outputRead .., ans | .getPort, ans | .processStartup _, ans => ∃ code, ans = .ok code
  | .resetTimings, ans | .recordTimings, ans | .free _, ans | .sendConnData, ans => ans = .ok ()

end GuestState

/-- The calls of the host on a backend that serves. -/
def servingEffects : Effects GuestCall GuestCall.Answer GuestState where
  step op s s' ans := s.mayAnswer s' op ans ∧ s.Serves s' op ans
  crash _ _ _ := False

/-! ## Buffered mode -/

namespace GuestState

/-- The socket of the backend is the two buffers. -/
structure Buffered (s : GuestState) : Prop where
  transport : s.io.bridge.protocolTransport = .buffered
  active : s.io.bridge.protocolStreamActive = false

variable {s s' base : GuestState}

lemma Buffered.onStdio (h : s.Buffered) : s.io.bridge.onStdio = false := by
  unfold Bridge.onStdio
  rw [h.transport, h.active]
  rfl

/-- `pgl_recv` takes bytes from the input buffer. -/
lemma Buffered.recv (h : s.Buffered) (n : ℕ) :
    s.act (.recv n) = { s with
      io := { s.io with bridge := (s.io.bridge.bufferRead n).1 }
      received := s.received ++ (s.io.bridge.bufferRead n).2 } := by
  have hio : s.io.step (.recv n) = { s.io with bridge := (s.io.bridge.bufferRead n).1 } :=
    if_neg (by rw [h.onStdio]; exact Bool.false_ne_true)
  have hgiven : s.io.given (.recv n) = (s.io.bridge.bufferRead n).2 :=
    if_neg (by rw [h.onStdio]; exact Bool.false_ne_true)
  have hsent : s.io.accepted [.recv n] = [] := rfl
  rw [act, hio, hgiven, hsent, List.append_nil]

/-- `pgl_send` puts bytes into the output buffer, or fails. -/
lemma Buffered.send (h : s.Buffered) (payload : Bytes) (allocated : Bool) :
    s.act (.send payload allocated) = s ∨
      s.act (.send payload allocated) = { s with
        io := { s.io with bridge := s.io.bridge.bufferAppend payload }
        sent := s.sent ++ payload } := by
  have hopens : (s.io.bridge.bufferAppend payload).opensStream = false := by
    show (decide (s.io.bridge.protocolTransport = .hybrid) && _) = false
    rw [h.transport]
    rfl
  have hact : s.act (.send payload allocated) = { s with
      io := (s.io.pglSend payload allocated).1
      received := s.received ++ []
      sent := s.sent ++ ((if (s.io.pglSend payload allocated).2 = payload.length
        then payload else []) ++ []) } := rfl
  rw [hact, BridgeIo.pglSend, if_neg (by rw [h.onStdio]; exact Bool.false_ne_true)]
  by_cases hempty : payload = []
  · left
    subst hempty
    simp
  · rw [if_neg hempty]
    cases allocated with
    | true =>
      right
      rw [if_pos rfl]
      simp only [hopens, Bool.false_eq_true, if_false, if_true, List.append_nil]
    | false =>
      -- the length of what is sent is no -1
      left
      have hlen : ((-1 : Int) = payload.length) = False := by
        apply eq_false
        omega
      simp only [Bool.false_eq_true, if_false, hlen, List.append_nil]

/-- Reporting a COPY changes neither buffer. -/
lemma report_eq (s : GuestState) (state : Int) :
    ∃ copyState requested, s.act (.reportCopyResponse state) = { s with
      io := { s.io with bridge := { s.io.bridge with
        protocolCopyState := copyState, protocolStreamRequested := requested } } } := by
  obtain ⟨copyState, requested, hframe⟩ := s.io.bridge.reportCopyResponse_frame state
  refine ⟨copyState, requested, ?_⟩
  have hact : s.act (.reportCopyResponse state) = { s with
      io := { s.io with bridge := s.io.bridge.protocolReportCopyResponse state }
      received := s.received ++ [], sent := s.sent ++ [] } := rfl
  rw [hact, hframe, List.append_nil, List.append_nil]

lemma Buffered.act (h : s.Buffered) {call : BridgeCall} (hcall : call.ofBackend = true) :
    (s.act call).Buffered := by
  cases call with
  | recv n =>
    obtain ⟨off, hframe⟩ := s.io.bridge.bufferRead_frame n
    rw [h.recv n, hframe]
    exact ⟨h.transport, h.active⟩
  | send payload allocated =>
    rcases h.send payload allocated with hsend | hsend
    · rw [hsend]
      exact h
    · rw [hsend]
      exact ⟨h.transport, h.active⟩
  | reportCopyResponse state =>
    obtain ⟨copyState, requested, hreport⟩ := s.report_eq state
    rw [hreport]
    exact ⟨h.transport, h.active⟩
  | _ => cases hcall

/-- No backend leaves buffered mode by itself. -/
lemma Buffered.acts (h : s.Buffered) (hacts : s.Acts s') : s'.Buffered := by
  induction hacts with
  | done s held => exact ⟨h.transport, h.active⟩
  | act call hcall _ ih => exact ih (h.act hcall)

/-! ## What is under way -/

/-- Since `base`, the backend has been given `payload`: part of it is received and the rest is
unread, and what was sent is still in the output buffer, behind what was taken from it. -/
structure InFlight (base : GuestState) (payload taken : Bytes) (s : GuestState) : Prop where
  buffered : s.Buffered
  input : ∃ given, s.received = base.received ++ given ∧ given ++ s.io.bridge.unread = payload
  output : s.sent = base.sent ++ taken ++ s.io.bridge.outputBuf

variable {payload taken : Bytes}

lemma InFlight.act (h : InFlight base payload taken s) {call : BridgeCall}
    (hcall : call.ofBackend = true) : InFlight base payload taken (s.act call) := by
  cases call with
  | recv n =>
    have hrecv := h.buffered.recv n
    obtain ⟨off, hframe⟩ := s.io.bridge.bufferRead_frame n
    have hread := s.io.bridge.bufferRead_append n
    obtain ⟨given, hreceived, hgiven⟩ := h.input
    refine ⟨h.buffered.act hcall, ⟨given ++ (s.io.bridge.bufferRead n).2, ?_, ?_⟩, ?_⟩
    · rw [hrecv]
      show s.received ++ (s.io.bridge.bufferRead n).2 = _
      rw [hreceived, List.append_assoc]
    · rw [hrecv]
      show given ++ (s.io.bridge.bufferRead n).2 ++ (s.io.bridge.bufferRead n).1.unread = payload
      rw [List.append_assoc, hread, hgiven]
    · rw [hrecv, hframe]
      exact h.output
  | send bytes allocated =>
    rcases h.buffered.send bytes allocated with hsend | hsend
    · rw [hsend]
      exact h
    · refine ⟨h.buffered.act hcall, ?_, ?_⟩ <;> rw [hsend]
      · exact h.input
      show s.sent ++ bytes = base.sent ++ taken ++ (s.io.bridge.outputBuf ++ bytes)
      rw [h.output, List.append_assoc _ s.io.bridge.outputBuf]
  | reportCopyResponse state =>
    obtain ⟨copyState, requested, hreport⟩ := s.report_eq state
    refine ⟨h.buffered.act hcall, ?_, ?_⟩ <;> rw [hreport]
    · exact h.input
    · exact h.output
  | _ => cases hcall

/-- Whatever the backend does, what is under way stays so. -/
lemma InFlight.acts (h : InFlight base payload taken s) (hacts : s.Acts s') :
    InFlight base payload taken s' := by
  induction hacts with
  | done s held => exact ⟨⟨h.buffered.transport, h.buffered.active⟩, h.input, h.output⟩
  | act call hcall _ ih => exact ih (h.act hcall)

/-- Nothing is received that was not written. -/
lemma InFlight.unread_le (h : InFlight base payload taken s) :
    s.io.bridge.unread.length ≤ payload.length := by
  obtain ⟨given, -, hgiven⟩ := h.input
  rw [← hgiven, List.length_append]
  omega

/-- What is written and not unread was received. -/
lemma InFlight.received_eq (h : InFlight base payload taken s) (hunread : s.io.bridge.unread = []) :
    s.received = base.received ++ payload := by
  obtain ⟨given, hreceived, hgiven⟩ := h.input
  rw [hunread, List.append_nil] at hgiven
  rw [hreceived, hgiven]

/-- Nothing received or sent is taken back, and the backend leaves the host's block alone. -/
lemma Acts.grows (hacts : s.Acts s') :
    s.received <+: s'.received ∧ s.sent <+: s'.sent ∧ s'.block = s.block := by
  induction hacts with
  | done s held => exact ⟨List.prefix_rfl, List.prefix_rfl, rfl⟩
  | act call hcall _ ih =>
    exact ⟨(List.prefix_append _ _).trans ih.1, (List.prefix_append _ _).trans ih.2.1, ih.2.2⟩

/-- When everything was received, nothing can be. -/
lemma InFlight.unread_of_acts (h : InFlight base payload taken s)
    (hunread : s.io.bridge.unread = []) (hacts : s.Acts s') : s'.io.bridge.unread = [] := by
  obtain ⟨given, hreceived, hgiven⟩ := (h.acts hacts).input
  obtain ⟨more, hmore⟩ := hacts.grows.1
  have hlen := congrArg List.length hmore
  have hall := congrArg List.length hgiven
  rw [h.received_eq hunread, hreceived] at hlen
  simp only [List.length_append] at hlen hall
  exact List.eq_nil_of_length_eq_zero (by omega)

end GuestState

/-! ## A backend that answers at once -/

/-- A read of all that is there leaves nothing. -/
lemma Bridge.unread_bufferRead_all (bridge : Bridge) :
    (bridge.bufferRead bridge.inputAvailable).1.unread = [] := by
  have hcopied := congrArg List.length (bridge.bufferRead_append bridge.inputAvailable)
  rw [List.length_append] at hcopied
  have hall : (bridge.bufferRead bridge.inputAvailable).2.length = bridge.inputAvailable := by
    unfold bufferRead
    split_ifs with hnone hread
    · rw [hnone]
      rfl
    · rw [inputAvailable, if_pos hread]
      rfl
    · rw [inputAvailable, if_neg hread, List.length_take, List.length_drop]
      split <;> omega
  have hread := bridge.inputAvailable_eq
  exact List.eq_nil_of_length_eq_zero (by omega)

namespace GuestState

/-- What is in a block. -/
def content (s : GuestState) (ptr : Int32) : Bytes :=
  match s.block with
  | some b => if b.1 = ptr then b.2 else []
  | none => []

/-- `main_loop` of a backend that receives all there is and answers with `ReadyForQuery`. -/
def serveInput (s : GuestState) : GuestState :=
  let s := s.act (.recv s.io.bridge.inputAvailable)
  let s := if s.io.bridge.outputBuf.length + 6 < 2 ^ 31
    then s.act (.send [90, 0, 0, 0, 5, 73] true) else s
  { s with held := 0 }

/-- The bytes such a backend finds at an address. -/
def found (s : GuestState) (ptr : Int32) (length : UInt32) : Bytes :=
  if (s.content ptr).length = length.toNat then s.content ptr
  else List.replicate length.toNat 0

/-- Such a backend, whose blocks all start at address 64. -/
def readyBackend (s : GuestState) : (op : GuestCall) → GuestState × op.Answer
  | .malloc size =>
    if size.toNat < 2 ^ 31 then
      ({ s with block := some (64, List.replicate size.toNat 0) }, .ok 64)
    else
      (s, .error "out of memory")
  | .free _ => ({ s with block := none }, .ok ())
  | .memoryWrite ptr bytes =>
    if bytes.length < 2 ^ 32 then ({ s with block := some (ptr, bytes) }, .ok ())
    else (s, .error "out of bounds")
  | .memoryRead ptr length => (s, .ok ((s.content ptr).take length))
  | .inputReset => ({ s with io := s.io.step .inputReset }, .ok 0)
  | .outputReset => ({ s with io := s.io.step .outputReset }, .ok 0)
  | .inputWrite ptr length =>
    ({ s with io := s.io.step (.inputWrite (s.found ptr length) true) },
      .ok (Int32.ofInt (s.io.bridge.inputWrite (s.found ptr length) true).2))
  | .inputAvailable => (s, .ok (Int32.ofNat s.io.bridge.inputAvailable))
  | .outputLen => (s, .ok (Int32.ofNat s.io.bridge.outputBuf.length))
  | .outputRead ptr maxLength =>
    let bytes := s.io.bridge.outputBuf.take maxLength.toNat
    ({ s with block := some (ptr, bytes ++ (s.content ptr).drop s.io.bridge.outputBuf.length) },
      .ok (Int32.ofNat bytes.length))
  | .pqBufferRemainingData => (s, .ok (Int32.ofNat s.held))
  | .mainLoop => (s.serveInput, .returned)
  | .getPort => (s, .ok 8)
  | .processStartup _ => (s, .ok 0)
  | .resetTimings | .recordTimings | .recoverError | .sendReady | .pqFlush | .sendConnData =>
    (s, .ok ())

variable {s : GuestState}

lemma content_eq {ptr : Int32} {b : Bytes} (h : s.block = some (ptr, b)) : s.content ptr = b := by
  rw [content, h]
  exact if_pos rfl

/-- The states of that backend. -/
structure Ready (s : GuestState) : Prop where
  buffered : s.Buffered
  small : s.io.bridge.outputBuf.length < 2 ^ 31

/-- Everything is received and nothing is held. -/
lemma Ready.serveInput (h : s.Ready) :
    s.Acts s.serveInput ∧ s.serveInput.Ready ∧ s.serveInput.pending = 0 := by
  have hrecv := h.buffered.recv s.io.bridge.inputAvailable
  obtain ⟨off, hframe⟩ := s.io.bridge.bufferRead_frame s.io.bridge.inputAvailable
  have hunread : (s.act (.recv s.io.bridge.inputAvailable)).io.bridge.unread = [] := by
    rw [hrecv]
    exact s.io.bridge.unread_bufferRead_all
  have hsmall : (s.act (.recv s.io.bridge.inputAvailable)).io.bridge.outputBuf.length < 2 ^ 31 := by
    rw [hrecv, hframe]
    exact h.small
  have hbuffered : (s.act (.recv s.io.bridge.inputAvailable)).Buffered := h.buffered.act rfl
  rw [GuestState.serveInput]
  generalize hs₁ : s.act (.recv s.io.bridge.inputAvailable) = s₁ at hunread hsmall hbuffered
  by_cases hroom : s₁.io.bridge.outputBuf.length + 6 < 2 ^ 31
  · simp only [if_pos hroom]
    refine ⟨?_, ⟨?_, ?_⟩, ?_⟩
    · refine .act (.recv s.io.bridge.inputAvailable) rfl ?_
      rw [hs₁]
      exact .act (.send _ true) rfl (.done _ 0)
    · have hsent : (s₁.act (.send [90, 0, 0, 0, 5, 73] true)).Buffered := hbuffered.act rfl
      exact hsent.acts (.done _ 0)
    · rcases hbuffered.send [90, 0, 0, 0, 5, 73] true with hsend | hsend <;> rw [hsend]
      · exact hsmall
      · show (s₁.io.bridge.outputBuf ++ [90, 0, 0, 0, 5, 73]).length < 2 ^ 31
        rw [List.length_append]
        exact hroom
    · show (s₁.act _).io.bridge.unread.length + 0 = 0
      rcases hbuffered.send [90, 0, 0, 0, 5, 73] true with hsend | hsend <;> rw [hsend]
      · rw [hunread]
        rfl
      · show s₁.io.bridge.unread.length + 0 = 0
        rw [hunread]
        rfl
  · simp only [if_neg hroom]
    refine ⟨?_, ⟨⟨hbuffered.transport, hbuffered.active⟩, hsmall⟩, ?_⟩
    · refine .act (.recv s.io.bridge.inputAvailable) rfl ?_
      rw [hs₁]
      exact .done _ 0
    · show s₁.io.bridge.unread.length + 0 = 0
      rw [hunread]
      rfl

lemma Ready.readyBackend (h : s.Ready) (op : GuestCall) :
    servingEffects.step op s (s.readyBackend op).1 (s.readyBackend op).2 ∧
      (s.readyBackend op).1.Ready := by
  have hfits : s.Fits := lt_trans h.small (by decide)
  have hdone : s.Acts s := .done s s.held
  cases op with
  | malloc size =>
    unfold GuestState.readyBackend
    by_cases hsize : size.toNat < 2 ^ 31
    · simp only [if_pos hsize]
      refine ⟨⟨?_, fun _ => ⟨64, rfl, by decide⟩⟩, ⟨h.buffered.transport, h.buffered.active⟩, h.small⟩
      have haddress : (64 : Int32).toInt = 64 := rfl
      have hblock : 8 ≤ (64 : Int32).toInt ∧ (64 : Int32).toInt + (size.toNat : Int) ≤ 2 ^ 32 ∧
          ∃ bytes : Bytes, bytes.length = size.toNat ∧
            { s with block := some (64, List.replicate size.toNat 0) } =
              { s with block := some (64, bytes) } :=
        ⟨by decide, by omega, List.replicate size.toNat 0, List.length_replicate, rfl⟩
      exact hblock
    · simp only [if_neg hsize]
      exact ⟨⟨rfl, fun hlt => absurd hlt hsize⟩, h⟩
  | free ptr => exact ⟨⟨rfl, rfl⟩, ⟨h.buffered.transport, h.buffered.active⟩, h.small⟩
  | memoryWrite ptr bytes =>
    unfold GuestState.readyBackend
    by_cases hsize : bytes.length < 2 ^ 32
    · simp only [if_pos hsize]
      exact ⟨⟨⟨hsize, fun _ _ _ => rfl⟩, fun _ => rfl⟩,
        ⟨h.buffered.transport, h.buffered.active⟩, h.small⟩
    · simp only [if_neg hsize]
      exact ⟨⟨rfl, fun hlt => absurd hlt hsize⟩, h⟩
  | memoryRead ptr length =>
    refine ⟨⟨⟨rfl, fun b hb _ => ?_⟩, _, rfl⟩, h⟩
    rw [content_eq hb]
  | inputReset =>
    exact ⟨⟨⟨rfl, rfl⟩, 0, rfl⟩, ⟨h.buffered.transport, h.buffered.active⟩, h.small⟩
  | outputReset =>
    exact ⟨⟨⟨rfl, rfl⟩, 0, rfl⟩, ⟨h.buffered.transport, h.buffered.active⟩, Nat.two_pow_pos 31⟩
  | inputWrite ptr length =>
    have hlen : (s.found ptr length).length = length.toNat := by
      unfold found
      split
      · assumption
      · exact List.length_replicate
    have hcount : (s.io.bridge.inputWrite (s.found ptr length) true).2 =
        (s.found ptr length).length := by
      unfold Bridge.inputWrite
      by_cases hempty : s.found ptr length = []
      · rw [if_pos hempty, hempty]
        rfl
      · rw [if_neg hempty]
        rfl
    obtain ⟨buf, off, hframe⟩ := s.io.bridge.inputWrite_frame (s.found ptr length) true
    refine ⟨⟨⟨_, true, hlen, fun b hb hblen => ?_, rfl, rfl⟩, _, rfl, ?_⟩, ⟨?_, ?_⟩, ?_⟩
    · rw [found, content_eq hb]
      exact if_pos hblen
    · rw [hcount, hlen]
      rfl
    · show (s.io.bridge.inputWrite (s.found ptr length) true).1.protocolTransport = _
      rw [hframe]
      exact h.buffered.transport
    · show (s.io.bridge.inputWrite (s.found ptr length) true).1.protocolStreamActive = _
      rw [hframe]
      exact h.buffered.active
    · show (s.io.bridge.inputWrite (s.found ptr length) true).1.outputBuf.length < 2 ^ 31
      rw [hframe]
      exact h.small
  | inputAvailable => exact ⟨⟨⟨rfl, rfl⟩, _, rfl⟩, h⟩
  | outputLen => exact ⟨⟨⟨rfl, rfl⟩, _, rfl⟩, h⟩
  | outputRead ptr maxLength =>
    refine ⟨⟨fun b hb _ => ⟨rfl, ?_⟩, _, rfl⟩, ⟨h.buffered.transport, h.buffered.active⟩, h.small⟩
    rw [← content_eq hb]
    rfl
  | pqBufferRemainingData => exact ⟨⟨rfl, rfl⟩, h⟩
  | mainLoop =>
    obtain ⟨hacts, hready, hpending⟩ := h.serveInput
    exact ⟨⟨⟨hacts, lt_trans hready.small (by decide)⟩, .inl hpending, hready.small⟩, hready⟩
  | getPort => exact ⟨⟨rfl, 8, rfl⟩, h⟩
  | processStartup port => exact ⟨⟨⟨hdone, hfits⟩, 0, rfl⟩, h⟩
  | sendConnData => exact ⟨⟨⟨hdone, hfits⟩, rfl⟩, h⟩
  | recoverError | sendReady | pqFlush =>
    exact ⟨⟨⟨hdone, hfits⟩, rfl, le_rfl, h.small⟩, h⟩
  | resetTimings | recordTimings => exact ⟨⟨rfl, rfl⟩, h⟩

/-- A backend before its first request. -/
def initial : GuestState :=
  { io := .initial, block := none, received := [], held := 0, sent := [] }

lemma ready_initial : initial.Ready := ⟨⟨rfl, rfl⟩, Nat.two_pow_pos 31⟩

end GuestState

end PgliteOxide.Pglite
