import PgliteOxide.Pglite.GuestBackend
import PgliteOxide.Pglite.GuestMemory

/-!
# Exchanges with the backend

A request that succeeds was received in full and nothing else was; its answer is what the backend
sent for it, up to what is dropped behind an error. Requests that failed before, at any point,
change nothing about that (`exchanges_exact`).
-/

namespace PgliteOxide.Pglite

open Lib Prog

/-! ## Rules -/

section Rules

open GuestM GuestState

variable {α β : Type} {s : GuestState} {R : GuestState → β → Prop}

/-- What holds when a program of the host returns. -/
abbrev Gives (R : GuestState → β → Prop) (p : GuestM β) (s : GuestState) : Prop :=
  returns guestEffects R p s

lemma Gives.call {op : GuestCall} {f : op.Answer → GuestM β}
    (h : ∀ s' ans, s.mayAnswer s' op ans → Gives R (f ans) s') : Gives R (perform op >>= f) s := h

lemma Gives.orContext {text : String} {x : Except String α} {f : α → GuestM β}
    (h : ∀ a, x = .ok a → Gives R (f a) s) : Gives R (GuestM.orContext text x >>= f) s := by
  cases x with
  | error trap => trivial
  | ok a => exact h a rfl

lemma Gives.ensure {c : Prop} [Decidable c] {text : String} {f : Unit → GuestM β}
    (h : c → Gives R (f ()) s) : Gives R (GuestM.ensure c text >>= f) s := by
  unfold GuestM.ensure
  split
  · exact h ‹_›
  · trivial

/-- A call that leads to an error only where it traps. -/
lemma Gives.callOk {op : GuestCall} {text : String} {g : op.Answer → Except String α}
    {f : α → GuestM β}
    (h : ∀ s' ans a, s.mayAnswer s' op ans → g ans = .ok a → Gives R (f a) s') :
    Gives R (perform op >>= fun ans => GuestM.orContext text (g ans) >>= f) s :=
  Gives.call fun s' ans hans => Gives.orContext fun a ha => h s' ans a hans ha

lemma Gives.lastOk {op : GuestCall} {text : String} {g : op.Answer → Except String β}
    (h : ∀ s' ans b, s.mayAnswer s' op ans → g ans = .ok b → R s' b) :
    Gives R (perform op >>= fun ans => GuestM.orContext text (g ans)) s :=
  Gives.call fun s' ans hans => by
    cases hg : g ans with
    | error trap => trivial
    | ok b => exact h s' ans b hans hg

lemma Gives.lastEnsure {c : Prop} [Decidable c] {text : String} {R : GuestState → Unit → Prop}
    (h : c → R s ()) : Gives R (GuestM.ensure c text) s := by
  unfold GuestM.ensure
  split
  · exact h ‹_›
  · trivial

end Rules

/-! ## Numbers -/

lemma lt_of_nonneg_ofNat {n : ℕ} (hn : n < 2 ^ 32) (h : 0 ≤ Int32.ofNat n) : n < 2 ^ 31 := by
  have hint := Int32.le_iff_toInt_le.mp h
  rw [Int32.toInt_ofNat', Int.bmod_def] at hint
  have hsize : Int32.size = 2 ^ 32 := rfl
  rw [hsize] at hint
  have hzero : (0 : Int32).toInt = 0 := rfl
  rw [hzero] at hint
  omega

lemma eq_zero_of_ofNat {n : ℕ} (hn : n < 2 ^ 32) (h : Int32.ofNat n = 0) : n = 0 := by
  have hword : (Int32.ofNat n).toUInt32.toNat = (0 : Int32).toUInt32.toNat := by rw [h]
  rw [Int32.toUInt32_ofNat', UInt32.toNat_ofNat'] at hword
  have hzero : (0 : Int32).toUInt32.toNat = 0 := rfl
  omega

lemma neg_one_ne_ofNat {n : ℕ} (hn : n < 2 ^ 32 - 1) : Int32.ofInt (-1) ≠ Int32.ofNat n := by
  intro h
  have hword : (Int32.ofInt (-1)).toUInt32.toNat = (Int32.ofNat n).toUInt32.toNat := by rw [h]
  rw [Int32.toUInt32_ofNat', UInt32.toNat_ofNat'] at hword
  have hneg : (Int32.ofInt (-1)).toUInt32.toNat = 2 ^ 32 - 1 := rfl
  omega

/-! ## `GuestAllocator` and `WasixPgliteIo` -/

section Io

open GuestM GuestState GuestAllocator WasixPgliteIo

variable {α : Type} {base s : GuestState} {payload taken : Bytes} {R : GuestState → α → Prop}

lemma gives_allocate (size : UInt32) :
    Gives (fun s' ptr => 8 ≤ ptr.toInt ∧ ptr.toInt + (size.toNat : Int) ≤ 2 ^ 32 ∧
      ∃ bytes : Bytes, bytes.length = size.toNat ∧ s' = { s with block := some (ptr, bytes) })
      (allocate size) s := by
  refine Gives.callOk fun s' ans ptr hans hptr => Gives.ensure fun hpos => ?_
  subst hptr
  -- the block was not refused
  have hblock : if 0 < ptr then _ else _ := hans
  rw [if_pos hpos] at hblock
  exact hblock

/-- What holds with the block holds without it. -/
lemma gives_runAndFree {ptr : Int32} {f : Int32 → GuestM α}
    (hf : Gives (fun s' a => R { s' with block := none } a) (f ptr) s) :
    Gives R (runAndFree ptr f) s := by
  refine (returns_attempt.mpr hf).bind fun s' result hresult => ?_
  refine Gives.call fun s'' freed hfreed => ?_
  have hs'' : s'' = { s' with block := none } := hfreed
  subst hs''
  cases result with
  | ok a =>
    cases freed with
    | ok _ => exact hresult a rfl
    | error trap => trivial
  | error err => cases freed <;> trivial

lemma gives_reset (h : s.Buffered) :
    Gives (fun s' _ => InFlight s [] [] s' ∧ s'.io.bridge.inputBuf = [] ∧
      s'.io.bridge.inputOff = 0 ∧ s'.io.bridge.outputBuf = []) reset s := by
  refine Gives.callOk fun s₁ ans code hans hcode => Gives.ensure fun _ => ?_
  subst hcode
  obtain ⟨-, hs₁⟩ := hans
  refine Gives.callOk fun s₂ ans code hans hcode => Gives.lastEnsure fun _ => ?_
  subst hcode
  obtain ⟨-, hs₂⟩ := hans
  subst hs₁ hs₂
  refine ⟨⟨⟨h.transport, h.active⟩, ⟨[], ?_, rfl⟩, ?_⟩, rfl, rfl, rfl⟩
  · exact (List.append_nil _).symm
  · show s.sent = s.sent ++ [] ++ []
    rw [List.append_nil, List.append_nil]

/-- What was pushed is what the backend has to read. -/
lemma gives_pushInput (h : InFlight base [] [] s) (hbuf : s.io.bridge.inputBuf = [])
    (hoff : s.io.bridge.inputOff = 0) :
    Gives (fun s' _ => InFlight base payload [] s' ∧ payload.length < 2 ^ 32)
      (pushInput payload) s := by
  unfold pushInput
  by_cases hempty : payload = []
  · rw [if_pos hempty, hempty]
    exact ⟨h, Nat.two_pow_pos 32⟩
  rw [if_neg hempty]
  have hpushed : Gives (fun s' written => written = Int32.ofNat payload.length →
      InFlight base payload [] s' ∧ payload.length < 2 ^ 32)
      (withBytes payload fun ptr => do
        orContext "pgl_wasix_input_write"
          (← Prog.perform (.inputWrite ptr (UInt32.ofNat payload.length)))) s := by
    refine (gives_allocate _).bind fun s₁ ptr ⟨hptr, hend, b₀, hb₀, hs₁⟩ => ?_
    refine gives_runAndFree (Gives.callOk fun s₂ ans _ hans hok => ?_)
    subst hok
    obtain ⟨hlen, hwrite⟩ := hans
    have hsize : (UInt32.ofNat payload.length).toNat = payload.length := by
      rw [UInt32.toNat_ofNat']
      omega
    rw [hsize] at hb₀ hend
    -- the block holds the payload, and the whole of it goes into the input buffer
    have hs₂ : s₂ = { s with block := some (ptr, payload) } := by
      rw [hwrite b₀ (by rw [hs₁]) hb₀.symm, hs₁]
    refine Gives.lastOk fun s₃ ans written hans hok heq => ⟨?_, hlen⟩
    subst hok
    obtain ⟨bytes, allocated, -, hbytes, hwritten, hs₃⟩ := hans
    have hpayload : bytes = payload := hbytes payload (by rw [hs₂]) hsize.symm
    subst hpayload
    have hcount : (s.io.bridge.inputWrite bytes allocated).2 = bytes.length := by
      rw [hs₂] at hwritten
      unfold Bridge.inputWrite at hwritten ⊢
      rw [if_neg hempty] at hwritten ⊢
      cases allocated with
      | true => rfl
      | false => exact absurd (hwritten.symm.trans heq) (neg_one_ne_ofNat (by omega))
    have hunread := s.io.bridge.inputWrite_unread (by rw [hbuf, hoff]; rfl) bytes allocated hcount
    obtain ⟨buf, off, hframe⟩ := s.io.bridge.inputWrite_frame bytes allocated
    rw [hs₃, hs₂]
    obtain ⟨given, hreceived, hgiven⟩ := h.input
    have hnone : given = [] := (List.append_eq_nil_iff.mp hgiven).1
    refine ⟨?_, ⟨[], ?_, hunread⟩, ?_⟩
    · constructor
      · show (s.io.bridge.inputWrite bytes allocated).1.protocolTransport = _
        rw [hframe]
        exact h.buffered.transport
      · show (s.io.bridge.inputWrite bytes allocated).1.protocolStreamActive = _
        rw [hframe]
        exact h.buffered.active
    · rw [← hnone]
      exact hreceived
    · show s.sent = base.sent ++ [] ++ (s.io.bridge.inputWrite bytes allocated).1.outputBuf
      rw [hframe]
      exact h.output
  exact hpushed.bind fun s' written hwritten => Gives.lastEnsure hwritten

lemma gives_available :
    Gives (fun s' available => s' = s ∧ 0 ≤ available ∧
      available = Int32.ofNat s.io.bridge.inputAvailable) available s := by
  refine Gives.callOk fun s' ans available hans hok => Gives.ensure fun hpos => ?_
  subst hok
  exact ⟨hans.1, hpos, hans.2⟩

/-- The output is taken once, and nothing is left of it. -/
lemma gives_takeOutput (h : InFlight base payload taken s) (hfits : s.Fits) :
    Gives (fun s' output => InFlight base payload (taken ++ output) s' ∧
      s'.io.bridge.outputBuf = [] ∧ s'.io.bridge.unread = s.io.bridge.unread) takeOutput s := by
  refine Gives.callOk fun s₁ ans len hans hok => Gives.ensure fun hpos => ?_
  subst hok
  obtain ⟨hs₁, hlen⟩ := hans
  subst hs₁
  have hlong : s₁.io.bridge.outputBuf.length < 2 ^ 31 :=
    lt_of_nonneg_ofNat hfits (hlen ▸ hpos)
  by_cases hzero : len = 0
  · rw [if_pos hzero]
    have hempty : s₁.io.bridge.outputBuf = [] :=
      List.eq_nil_of_length_eq_zero (eq_zero_of_ofNat hfits (hlen ▸ hzero))
    refine ⟨⟨h.buffered, h.input, ?_⟩, hempty, rfl⟩
    rw [List.append_nil]
    exact h.output
  rw [if_neg hzero]
  have hsize : len.toUInt32.toNat = s₁.io.bridge.outputBuf.length := by
    rw [hlen, Int32.toUInt32_ofNat', UInt32.toNat_ofNat']
    omega
  have hint : len.toInt = s₁.io.bridge.outputBuf.length := by
    rw [hlen]
    exact Int32.toInt_ofNat_of_lt hlong
  -- the block is as long as the output, which is read as a whole
  have hread : Gives (fun s' output => s' = { s₁ with block := none } ∧
      output = s₁.io.bridge.outputBuf) (withAllocation len (readOutput len)) s₁ := by
    refine (gives_allocate _).bind fun s₂ ptr ⟨_, _, b₀, hb₀, hs₂⟩ => ?_
    refine gives_runAndFree (Gives.callOk fun s₃ ans read hans hok => Gives.ensure fun _ => ?_)
    subst hok
    obtain ⟨hcount, hs₃⟩ := hans b₀ (by rw [hs₂]) hb₀
    have hio : s₂.io = s₁.io := by rw [hs₂]
    have hwhole : s₁.io.bridge.outputBuf.take len.toUInt32.toNat = s₁.io.bridge.outputBuf := by
      rw [hsize, List.take_length]
    rw [hio, hwhole] at hcount hs₃
    have hall : read.toInt.toNat = s₁.io.bridge.outputBuf.length := by
      rw [hcount, Int32.toInt_ofNat_of_lt hlong]
      rfl
    refine Gives.lastOk fun s₄ ans output hans hok => ?_
    subst hok
    obtain ⟨hs₄, hbytes⟩ := hans
    have houtput := hbytes _ (by rw [hs₃]) (by rw [hall, List.length_append]; omega)
    rw [hall, List.take_left] at houtput
    refine ⟨?_, houtput⟩
    rw [hs₄, hs₃, hs₂]
  refine hread.bind fun s₂ output ⟨hs₂, houtput⟩ => ?_
  refine Gives.callOk fun s₃ ans code hans hok => Gives.ensure fun _ => ?_
  subst hok hs₂ houtput
  rw [hans.2]
  refine ⟨⟨⟨h.buffered.transport, h.buffered.active⟩, h.input, ?_⟩, rfl, rfl⟩
  show s₁.sent = base.sent ++ (taken ++ s₁.io.bridge.outputBuf) ++ []
  rw [h.output, List.append_nil, List.append_assoc]

end Io

/-! ## Exchanges -/

section Exchange

open GuestM GuestState WasixPgliteIo

variable {base s : GuestState} {payload taken : Bytes}

/-- Where nothing remains, everything was received. -/
lemma gives_protocolInputRemaining (h : InFlight base payload taken s)
    (hlen : payload.length < 2 ^ 32) :
    Gives (fun s' remaining => s' = s ∧ (¬ 0 < remaining → s.io.bridge.unread = []))
      protocolInputRemaining s := by
  refine gives_available.bind fun s' hostRemaining ⟨hs', hpos, hcount⟩ => ?_
  subst hs'
  have hbound := h.unread_le
  by_cases hsome : 0 < hostRemaining
  · rw [if_pos hsome]
    exact ⟨rfl, fun hnone => absurd hsome hnone⟩
  rw [if_neg hsome]
  have hzero : hostRemaining = 0 := Int32.le_antisymm (Int32.not_lt.mp hsome) hpos
  have hunread : s'.io.bridge.unread = [] := by
    rw [Bridge.inputAvailable_eq] at hcount
    exact List.eq_nil_of_length_eq_zero (eq_zero_of_ofNat (by omega) (hcount.symm.trans hzero))
  refine Gives.lastOk fun s'' ans remaining hans _ => ⟨hans, fun _ => hunread⟩

lemma gives_drainInput (h : InFlight base payload taken s) (hlen : payload.length < 2 ^ 32)
    (payloadLen left : ℕ) :
    Gives (fun s' _ => InFlight base payload taken s') (drainInput payloadLen left) s := by
  induction left generalizing s with
  | zero =>
    refine (gives_protocolInputRemaining h hlen).bind fun s' remaining ⟨hs', _⟩ => ?_
    subst hs'
    exact Gives.lastEnsure fun _ => h
  | succ left ih =>
    refine (gives_protocolInputRemaining h hlen).bind fun s' remaining ⟨hs', _⟩ => ?_
    subst hs'
    by_cases hsome : 0 < remaining
    · rw [if_pos hsome]
      refine Gives.call fun s₁ ended hans => ?_
      have h₁ := h.acts hans.1
      -- the error is recovered from, or there was none
      refine returns.bind (R := fun s' _ => InFlight base payload taken s') ?_ fun s' _ h' => ih h'
      unfold GuestM.when
      split
      · exact Gives.lastOk fun s₂ ans _ hans _ => h₁.acts hans.1
      · exact h₁
    · rw [if_neg hsome]
      exact h

lemma gives_recoverProtocolError (h : InFlight base payload taken s)
    (hlen : payload.length < 2 ^ 32) (payloadLen : ℕ) :
    Gives (fun s' _ => InFlight base payload taken s') (recoverProtocolError payloadLen) s :=
  Gives.callOk fun _ _ _ hans _ => gives_drainInput (h.acts hans.1) hlen _ _

/-- **The loop of an exchange** ends when everything was received. -/
lemma gives_dispatchInput (h : InFlight base payload taken s) (hlen : payload.length < 2 ^ 32)
    (payloadLen left : ℕ) (recovered : Bool) :
    Gives (fun s' _ => InFlight base payload taken s' ∧ s'.io.bridge.unread = [])
      (dispatchInput payloadLen left recovered) s := by
  induction left generalizing s recovered with
  | zero =>
    refine (gives_protocolInputRemaining h hlen).bind fun s' remaining ⟨hs', hread⟩ => ?_
    subst hs'
    exact Gives.ensure fun hnone => ⟨h, hread hnone⟩
  | succ left ih =>
    refine (gives_protocolInputRemaining h hlen).bind fun s' remaining ⟨hs', hread⟩ => ?_
    subst hs'
    by_cases hsome : 0 < remaining
    · rw [if_pos hsome]
      refine Gives.call fun s₁ ended hans => ?_
      have h₁ := h.acts hans.1
      by_cases hended : ended = .returned
      · rw [if_pos hended]
        exact ih h₁ recovered
      · rw [if_neg hended]
        exact (gives_recoverProtocolError h₁ hlen _).bind fun s₂ _ h₂ => ih h₂ true
    · rw [if_neg hsome]
      exact ⟨h, hread hsome⟩

/-- What the backend sends after an error is taken and dropped. -/
lemma gives_recoverNonTrappingProtocolError (h : InFlight base payload taken s)
    (hunread : s.io.bridge.unread = []) :
    Gives (fun s' _ => (∃ dropped, InFlight base payload (taken ++ dropped) s') ∧
      s'.io.bridge.outputBuf = [] ∧ s'.io.bridge.unread = [])
      recoverNonTrappingProtocolError s := by
  refine Gives.callOk fun s₁ _ _ hans _ => ?_
  have h₁ := h.acts hans.1
  have hunread₁ := h.unread_of_acts hunread hans.1
  refine Gives.callOk fun s₂ _ _ hans _ => ?_
  have h₂ := h₁.acts hans.1
  have hunread₂ := h₁.unread_of_acts hunread₁ hans.1
  refine Gives.callOk fun s₃ _ _ hans _ => ?_
  have h₃ := h₂.acts hans.1
  have hunread₃ := h₂.unread_of_acts hunread₂ hans.1
  refine (gives_takeOutput h₃ hans.2).bind fun s₄ output ⟨h₄, hempty, hsame⟩ => ?_
  exact ⟨⟨output, h₄⟩, hempty, hsame.trans hunread₃⟩

/-- What a successful exchange leaves: the payload was received; what was sent is the answer, and
what was dropped behind an error. -/
structure Exchanged (base : GuestState) (payload output : Bytes) (s : GuestState) : Prop where
  buffered : s.Buffered
  received : s.received = base.received ++ payload
  sent : ∃ dropped, s.sent = base.sent ++ (output ++ dropped) ∧
    (dropped ≠ [] → containsError output = true)
  outputEmpty : s.io.bridge.outputBuf = []

lemma gives_recordBackendCTimings : Gives (fun s' _ => s' = s) recordBackendCTimings s := by
  refine Gives.call fun s' recorded hans => ?_
  cases recorded with
  | ok _ => exact hans
  | error id => trivial

lemma gives_sendProtocolInner (h : s.Buffered) (payload : Bytes) :
    Gives (fun s' output => Exchanged s payload output s') (sendProtocolInner payload) s := by
  refine Gives.callOk fun s₀ _ _ hans _ => ?_
  have hs₀ : s₀ = s := hans
  subst hs₀
  -- the buffers are emptied and the payload is put in, before the backend runs
  refine (gives_reset h).bind fun s₁ _ ⟨h₁, hbuf, hoff, hout⟩ => ?_
  refine (gives_pushInput h₁ hbuf hoff).bind fun s₂ _ ⟨h₂, hlen⟩ => ?_
  refine (gives_dispatchInput h₂ hlen _ _ _).bind fun s₃ recovered ⟨h₃, hunread⟩ => ?_
  refine Gives.callOk fun s₄ _ _ hans _ => ?_
  have h₄ := h₃.acts hans.1
  have hunread₄ := h₃.unread_of_acts hunread hans.1
  refine Gives.callOk fun s₅ _ _ hans _ => ?_
  have h₅ := h₄.acts hans.1
  have hunread₅ := h₄.unread_of_acts hunread₄ hans.1
  refine returns.bind (returns_mapErr.mpr (gives_takeOutput h₅ hans.2)) fun s₆ output h₆ => ?_
  obtain ⟨h₆, hempty, hunread₆⟩ := h₆
  rw [List.nil_append] at h₆
  have hreceived := h₆.received_eq (hunread₆.trans hunread₅)
  -- what follows an error is dropped, else nothing is
  have hrest : Gives (fun s' _ => Exchanged s₀ payload output s')
      (GuestM.when ((!recovered && containsError output) = true)
        recoverNonTrappingProtocolError) s₆ := by
    unfold GuestM.when
    split
    · rename_i herror
      refine returns_mono (gives_recoverNonTrappingProtocolError h₆ (hunread₆.trans hunread₅))
        fun s' _ h' => ?_
      obtain ⟨⟨dropped, h'⟩, hempty', hunread'⟩ := h'
      refine ⟨h'.buffered, h'.received_eq hunread', ⟨dropped, ?_, fun _ => ?_⟩, hempty'⟩
      · rw [h'.output, hempty', List.append_nil]
      · exact (Bool.and_eq_true_iff.mp herror).2
    · refine ⟨h₆.buffered, hreceived, ⟨[], ?_, fun hne => absurd rfl hne⟩, hempty⟩
      rw [h₆.output, hempty, List.append_nil, List.append_nil]
  refine hrest.bind fun s₇ _ h₇ => gives_recordBackendCTimings.bind fun s₈ _ hs₈ => ?_
  rw [hs₈]
  exact h₇

/-- A startup packet is received in part at least as far as the backend reads it; the answer is all
that was sent, whether the packet is accepted or not. -/
lemma gives_processStartupPacket (h : s.Buffered) (packet : Bytes) :
    Gives (fun s' response => s'.Buffered ∧
      (∃ given, s'.received = s.received ++ given ∧ given <+: packet) ∧
      s'.sent = s.sent ++ response.output) (processStartupPacket packet) s := by
  -- the output is taken at the end of both branches
  have hlast : ∀ (accepted : Bool) (s₁ : GuestState), InFlight s packet [] s₁ → s₁.Fits →
      Gives (fun s' response => s'.Buffered ∧
        (∃ given, s'.received = s.received ++ given ∧ given <+: packet) ∧
        s'.sent = s.sent ++ response.output)
        (takeOutput >>= fun output =>
          (pure { output := output, accepted := accepted } : GuestM StartupProtocolResponse)) s₁ := by
    intro accepted s₁ h₁ hfits
    refine (gives_takeOutput h₁ hfits).bind fun s₂ output ⟨h₂, hempty, _⟩ => ?_
    obtain ⟨given, hreceived, hgiven⟩ := h₂.input
    refine ⟨h₂.buffered, ⟨given, hreceived, ⟨_, hgiven⟩⟩, ?_⟩
    rw [h₂.output, hempty, List.append_nil, List.nil_append]
  refine (gives_reset h).bind fun s₁ _ ⟨h₁, hbuf, hoff, _⟩ => ?_
  refine (gives_pushInput h₁ hbuf hoff).bind fun s₂ _ ⟨h₂, _⟩ => ?_
  refine Gives.callOk fun s₃ _ port hans _ => Gives.ensure fun _ => ?_
  have hs₃ : s₃ = s₂ := hans
  subst hs₃
  refine Gives.callOk fun s₄ _ status hans _ => ?_
  have h₄ := h₂.acts hans.1
  -- a packet that is refused is answered as well
  by_cases hstatus : status ≠ 0
  · rw [if_pos hstatus]
    exact Gives.call fun s₅ _ hans => hlast false s₅ (h₄.acts hans.1) hans.2
  · rw [if_neg hstatus]
    refine Gives.callOk fun s₅ _ _ hans _ => ?_
    have h₅ := h₄.acts hans.1
    exact Gives.callOk fun s₆ _ _ hans _ => hlast true s₆ (h₅.acts hans.1) hans.2

end Exchange

/-! ## What no request changes -/

section Kept

open GuestState

/-- A call of the host on the buffers. -/
def BridgeCall.ofHost : BridgeCall → Bool
  | .inputReset | .outputReset | .inputWrite .. => true
  | _ => false

/-- The backend and the calls of the host keep it, and it is not about the block. -/
structure GuestState.Kept (I : GuestState → Prop) : Prop where
  acts : ∀ {s s' : GuestState}, I s → s.Acts s' → I s'
  host : ∀ {s : GuestState} (call : BridgeCall), call.ofHost = true → I s →
    I { s with io := s.io.step call }
  block : ∀ {s : GuestState} (block : Option (Int32 × Bytes)), I s → I { s with block := block }

/-- The block the host owns is the block of the state, of which `I` holds. -/
structure GuestState.Owned (I : GuestState → Prop) (owned : Option Block) (s : GuestState) :
    Prop where
  block : owned = s.block.map fun b => (b.1, UInt32.ofNat b.2.length)
  small : ∀ b, s.block = some b → b.2.length < 2 ^ 32
  holds : I s

variable {I : GuestState → Prop} {base s s' : GuestState} {owned : Option Block}

lemma GuestState.Owned.acts (h : Owned I owned s) (hI : Kept I) (hacts : s.Acts s') :
    Owned I owned s' := by
  obtain ⟨-, -, hblock⟩ := hacts.grows
  exact
    { block := by rw [hblock]; exact h.block
      small := by rw [hblock]; exact h.small
      holds := hI.acts h.holds hacts }

/-- Calls of the host leave the block alone. -/
lemma GuestState.Owned.host (h : Owned I owned s) (hI : Kept I) (call : BridgeCall)
    (hcall : call.ofHost = true) : Owned I owned { s with io := s.io.step call } :=
  { h with holds := hI.host call hcall h.holds }

/-- A block of the given size. -/
lemma GuestState.Owned.setBlock (h : Owned I owned s) (hI : Kept I) {ptr : Int32} {bytes : Bytes}
    {size : UInt32} (hsize : bytes.length = size.toNat) :
    Owned I (some (ptr, size)) { s with block := some (ptr, bytes) } where
  block := by
    show _ = some (ptr, UInt32.ofNat bytes.length)
    rw [hsize, UInt32.ofNat_toNat]
  small := by
    intro b hb
    rw [← Option.some.inj hb]
    show bytes.length < 2 ^ 32
    rw [hsize]
    exact size.toNat_lt
  holds := hI.block _ h.holds

/-- What is owned is there, with its size. -/
lemma GuestState.Owned.block_eq {ptr : Int32} {size : UInt32}
    (h : Owned I (some (ptr, size)) s) :
    ∃ bytes, s.block = some (ptr, bytes) ∧ bytes.length = size.toNat := by
  have hblock := h.block
  cases hb : s.block with
  | none => rw [hb] at hblock; cases hblock
  | some b =>
    rw [hb] at hblock
    obtain ⟨rfl, rfl⟩ := Prod.mk.inj (Option.some.inj hblock)
    have hsmall := h.small b hb
    refine ⟨b.2, rfl, ?_⟩
    rw [UInt32.toNat_ofNat']
    omega

/-- **One call.** A call that the rules for blocks allow, however it is answered. -/
lemma GuestState.Owned.answer (hI : Kept I) (op : GuestCall) (ans : op.Answer)
    (h : Owned I owned s) (hmay : blockCustody.may owned op) (hans : s.mayAnswer s' op ans) :
    Owned I (blockCustody.after owned op ans) s' := by
  cases op with
  | malloc size =>
    cases ans with
    | error trap =>
      have hs' : s' = s := hans
      rw [hs']
      exact h
    | ok ptr =>
      -- a null or negative address is no block
      by_cases hptr : 0 < ptr
      · have hblock : if 0 < ptr then _ else _ := hans
        rw [if_pos hptr] at hblock
        obtain ⟨_, _, bytes, hbytes, hs'⟩ := hblock
        have hafter : blockCustody.after owned (.malloc size) (.ok ptr) = some (ptr, size) :=
          if_pos hptr
        rw [hafter, hs']
        exact h.setBlock hI hbytes
      · have hsame : if 0 < ptr then _ else _ := hans
        rw [if_neg hptr] at hsame
        have hafter : blockCustody.after owned (.malloc size) (.ok ptr) = owned := if_neg hptr
        rw [hafter, hsame]
        exact h
  | free ptr =>
    have hs' : s' = { s with block := none } := hans
    rw [hs']
    exact ⟨rfl, fun b hb => (nomatch hb), hI.block none h.holds⟩
  | memoryWrite ptr bytes =>
    cases ans with
    | error trap =>
      have hs' : s' = s := hans
      rw [hs']
      exact h
    | ok _ =>
      -- the write stays within the block
      obtain ⟨hlen, hwrite⟩ := hans
      obtain ⟨size, howned, hsize⟩ := hmay
      subst howned
      obtain ⟨old, hold, holdLen⟩ := h.block_eq
      have hbytes : bytes.length = size.toNat := hsize.resolve_right (by omega)
      rw [hwrite old hold (hbytes.trans holdLen.symm)]
      exact h.setBlock hI hbytes
  | memoryRead ptr length =>
    cases ans with
    | error trap =>
      have hs' : s' = s := hans
      rw [hs']
      exact h
    | ok bytes =>
      rw [hans.1]
      exact h
  | inputReset =>
    cases ans with
    | error trap =>
      rcases hans with hs' | hs' <;> rw [hs']
      · exact h
      · exact h.host hI .inputReset rfl
    | ok code =>
      rw [hans.2]
      exact h.host hI .inputReset rfl
  | outputReset =>
    cases ans with
    | error trap =>
      rcases hans with hs' | hs' <;> rw [hs']
      · exact h
      · exact h.host hI .outputReset rfl
    | ok code =>
      rw [hans.2]
      exact h.host hI .outputReset rfl
  | inputWrite ptr length =>
    cases ans with
    | error trap =>
      obtain ⟨bytes, allocated, hs'⟩ := hans
      rw [hs']
      exact h.host hI (.inputWrite bytes allocated) rfl
    | ok written =>
      obtain ⟨bytes, allocated, _, _, _, hs'⟩ := hans
      rw [hs']
      exact h.host hI (.inputWrite bytes allocated) rfl
  | inputAvailable =>
    cases ans with
    | error trap =>
      have hs' : s' = s := hans
      rw [hs']
      exact h
    | ok available =>
      rw [hans.1]
      exact h
  | outputLen =>
    cases ans with
    | error trap =>
      have hs' : s' = s := hans
      rw [hs']
      exact h
    | ok len =>
      rw [hans.1]
      exact h
  | outputRead ptr maxLength =>
    have howned : owned = some (ptr, maxLength) := hmay
    subst howned
    obtain ⟨old, hold, holdLen⟩ := h.block_eq
    cases ans with
    | error trap =>
      obtain ⟨bytes, hbytes, hs'⟩ := hans old hold holdLen
      rw [hs']
      exact h.setBlock hI (hbytes.trans holdLen)
    | ok read =>
      rw [(hans old hold holdLen).2]
      -- what is read goes to the front of the block, whose size stays
      refine h.setBlock hI ?_
      rw [List.length_append, List.length_take, List.length_drop]
      omega
  | resetTimings | recordTimings | pqBufferRemainingData | getPort =>
    have hs' : s' = s := hans
    rw [hs']
    exact h
  | mainLoop | recoverError | sendReady | pqFlush | processStartup | sendConnData =>
    exact h.acts hI hans.1

/-- **A request.** However its calls are answered, and whether it succeeds or not, what is kept is
kept and no block is left with the host. -/
lemma kept_of_runs {α : Type} {p : GuestM α} {x : Except BackendError α} (hI : Kept I)
    (hp : Settles none p) (hs : I s) (hblock : s.block = none)
    (hrun : Runs guestEffects p s s' x) : I s' ∧ s'.block = none := by
  -- the rules for blocks are followed call by call, and a request settles what it owes
  have howned : Owned I none s :=
    ⟨by rw [hblock]; rfl, fun b hb => (by rw [hblock] at hb; cases hb), hs⟩
  have hsafe := safe_of_owes (E := guestEffects) (I := fun _ => True) (fun _ _ _ => trivial)
    (fun owned op s s' ans h hmay hans => GuestState.Owned.answer hI op ans h hmay hans)
    (fun _ _ _ _ _ _ _ => trivial) hp howned
  obtain ⟨owned, hnone, hend⟩ := hrun.of_safe hsafe
  subst hnone
  refine ⟨hend.holds, ?_⟩
  have hgone := hend.block
  cases hb : s'.block with
  | none => rfl
  | some b => rw [hb] at hgone; cases hgone

/-- The socket is still the two buffers, and nothing received or sent since `base` is taken back. -/
structure GuestState.Grows (base s : GuestState) : Prop where
  buffered : s.Buffered
  received : base.received <+: s.received
  sent : base.sent <+: s.sent

lemma GuestState.kept_grows (base : GuestState) : Kept base.Grows where
  acts := by
    intro s s' h hacts
    obtain ⟨hreceived, hsent, -⟩ := hacts.grows
    exact ⟨h.buffered.acts hacts, h.received.trans hreceived, h.sent.trans hsent⟩
  host := by
    intro s call hcall h
    refine ⟨?_, h.received, h.sent⟩
    cases call with
    | inputReset | outputReset => exact ⟨h.buffered.transport, h.buffered.active⟩
    | inputWrite bytes allocated =>
      obtain ⟨buf, off, hframe⟩ := s.io.bridge.inputWrite_frame bytes allocated
      constructor
      · show (s.io.bridge.inputWrite bytes allocated).1.protocolTransport = _
        rw [hframe]
        exact h.buffered.transport
      · show (s.io.bridge.inputWrite bytes allocated).1.protocolStreamActive = _
        rw [hframe]
        exact h.buffered.active
    | _ => cases hcall
  block := fun _ h => ⟨⟨h.buffered.transport, h.buffered.active⟩, h.received, h.sent⟩

lemma settles_serve (request : GuestRequest) : Settles none request.serve := by
  cases request with
  | startup packet => exact Settles.bind (settles_processStartupPacket _) fun _ => settles_pure _
  | protocol payload => exact settles_sendProtocolInner payload

/-- A request leaves the backend in buffered mode and without a block of the host's. -/
lemma grows_of_runs {request : GuestRequest} {x : Except BackendError Bytes} (h : s.Buffered)
    (hblock : s.block = none) (hrun : Runs guestEffects request.serve s s' x) :
    s.Grows s' ∧ s'.block = none :=
  kept_of_runs (GuestState.kept_grows s) (settles_serve request)
    ⟨h, List.prefix_rfl, List.prefix_rfl⟩ hblock hrun

end Kept

/-! ## Sequences of requests -/

/-- One request: its result, and what the backend received and sent for it. -/
structure ServedRequest where
  request : GuestRequest
  result : Except BackendError Bytes
  received : Bytes
  sent : Bytes

/-- A request that succeeds was received, a message in full and a startup packet as far as the backend
reads it. What was sent is the answer, and what is dropped behind an error. -/
def ServedRequest.Exact (x : ServedRequest) : Prop :=
  ∀ output, x.result = .ok output →
    match x.request with
    | .startup packet => x.received <+: packet ∧ x.sent = output
    | .protocol payload => x.received = payload ∧
      ∃ dropped, x.sent = output ++ dropped ∧ (dropped ≠ [] → containsError output = true)

section Sequences

open GuestState

variable {s s' : GuestState}

/-- **One request**, from any state of a backend in buffered mode. -/
lemma exact_of_runs {request : GuestRequest} {x : Except BackendError Bytes} (h : s.Buffered)
    (hblock : s.block = none) (hrun : Runs guestEffects request.serve s s' x) :
    ∃ received sent, s'.received = s.received ++ received ∧ s'.sent = s.sent ++ sent ∧
      ServedRequest.Exact ⟨request, x, received, sent⟩ := by
  obtain ⟨hgrows, -⟩ := grows_of_runs h hblock hrun
  cases x with
  | error err =>
    -- of a request that fails it is only said that nothing is taken back
    obtain ⟨received, hreceived⟩ := hgrows.received
    obtain ⟨sent, hsent⟩ := hgrows.sent
    exact ⟨received, sent, hreceived.symm, hsent.symm, fun output hok => nomatch hok⟩
  | ok output =>
    cases request with
    | startup packet =>
      have hgives : Gives (fun s' output => (∃ given, s'.received = s.received ++ given ∧
          given <+: packet) ∧ s'.sent = s.sent ++ output) (GuestRequest.startup packet).serve s :=
        (gives_processStartupPacket h packet).bind fun _ _ h' => h'.2
      obtain ⟨⟨given, hgiven, hbegins⟩, hsent⟩ := hrun.of_returns hgives
      refine ⟨given, output, hgiven, hsent, fun output' hok => ?_⟩
      cases hok
      exact ⟨hbegins, rfl⟩
    | protocol payload =>
      have hdone := hrun.of_returns (gives_sendProtocolInner h payload)
      obtain ⟨dropped, hsent, hdropped⟩ := hdone.sent
      refine ⟨payload, output ++ dropped, hdone.received, hsent, fun output' hok => ?_⟩
      cases hok
      exact ⟨rfl, dropped, rfl, hdropped⟩

/-- **Exchanges are exact.** In any run over any requests, from any state of the bridge in buffered
mode, each request is there with its result, and the backend has received and sent for it what its
result says; what happens in a request that fails stays in that request. -/
theorem exchanges_exact (requests : List GuestRequest) (h : s.Buffered) (hblock : s.block = none)
    {x : Except BackendError (List (Except BackendError Bytes))}
    (hrun : Runs guestEffects (serveRequests requests) s s' x) :
    ∃ served : List ServedRequest, served.map (·.request) = requests ∧
      x = .ok (served.map (·.result)) ∧
      s'.received = s.received ++ served.flatMap (·.received) ∧
      s'.sent = s.sent ++ served.flatMap (·.sent) ∧
      ∀ request ∈ served, request.Exact := by
  induction requests generalizing s x with
  | nil =>
    cases hrun
    exact ⟨[], rfl, rfl, by simp, by simp, by simp⟩
  | cons request requests ih =>
    rcases hrun.of_bind with ⟨result, mid, hfirst, hrest⟩ | ⟨err, hfirst, -⟩
    · obtain ⟨result', hresult, hserved⟩ := hfirst.of_attempt
      cases hresult
      obtain ⟨hmid, hmidBlock⟩ := grows_of_runs h hblock hserved
      obtain ⟨received, sent, hreceived, hsent, hexact⟩ := exact_of_runs h hblock hserved
      -- the others start where this one ends, however it ends
      rcases hrest.of_bind with ⟨results, last, hrun', hend⟩ | ⟨err, hrun', -⟩
      · cases hend
        obtain ⟨served, hrequests, hresults, hreceived', hsent', hall⟩ :=
          ih hmid.buffered hmidBlock hrun'
        cases hresults
        refine ⟨⟨request, result, received, sent⟩ :: served, ?_, rfl, ?_, ?_, ?_⟩
        · rw [List.map_cons, hrequests]
        · rw [hreceived', hreceived, List.flatMap_cons, List.append_assoc]
        · rw [hsent', hsent, List.flatMap_cons, List.append_assoc]
        · intro r hr
          rcases List.mem_cons.mp hr with rfl | hr
          · exact hexact
          · exact hall r hr
      · obtain ⟨_, _, hresults, _⟩ := ih hmid.buffered hmidBlock hrun'
        cases hresults
    · obtain ⟨_, hresult, _⟩ := hfirst.of_attempt
      cases hresult

/-- The startup packet, the query `SELECT 1`, and a query again, with a backend that answers
`ReadyForQuery`. -/
def readyRequests : List GuestRequest :=
  [.startup [0, 0, 0, 8, 0, 3, 0, 0],
    .protocol [81, 0, 0, 0, 13, 83, 69, 76, 69, 67, 84, 32, 49, 0],
    .protocol [81, 0, 0, 0, 5, 0]]

/-- What the backend is left with, and the results. -/
def servedReady : GuestState × Except BackendError (List (Except BackendError Bytes)) :=
  (serveRequests readyRequests).runWith readyBackend .initial

theorem exchanges_exact_ready :
    ∃ served : List ServedRequest, served.map (·.request) = readyRequests ∧
      servedReady.2 = .ok (served.map (·.result)) ∧
      servedReady.1.received = [] ++ served.flatMap (·.received) ∧
      servedReady.1.sent = [] ++ served.flatMap (·.sent) ∧
      ∀ request ∈ served, request.Exact :=
  exchanges_exact readyRequests ready_initial.buffered rfl
    (runs_runWith (E := guestEffects) (fun _ op h => ⟨(h.readyBackend op).1.1, (h.readyBackend op).2⟩)
      _ ready_initial)

example : servedReady.1.sent = [90, 0, 0, 0, 5, 73, 90, 0, 0, 0, 5, 73] := by decide +kernel

end Sequences

end PgliteOxide.Pglite
