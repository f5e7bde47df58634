import PgliteOxide.Lib.Simulation
import PgliteOxide.Pglite.ExchangeProgress

/-!
# The calls behind the pump

`send_protocol_inner` is there twice: call by call on the memory of the guest (`GuestCalls.lean`),
and as steps of the connection, where lending memory is one answer of the environment
(`Pump.lean`). Both are one function: where the entry points of the bridge and the timings do not
trap, every run of the calls is one of the connection (`connection_follows_calls`), so that what
holds of every connection holds of the host that makes the calls.
-/

namespace PgliteOxide.Pglite

open Lib Prog

/-! ## The calls -/

/-- The timings and the functions of the bridge do not trap, except for the one that writes into
memory the host has lent. -/
def Steady : (op : GuestCall) → op.Answer → Prop
  | .resetTimings, ans | .recordTimings, ans => ans = .ok ()
  | .inputReset, ans | .inputWrite .., ans | .inputAvailable, ans | .outputReset, ans
  | .outputLen, ans => ∃ code, ans = .ok code
  | _, _ => True

/-- The calls of the host on such a backend. -/
def steadyEffects : Effects GuestCall GuestCall.Answer GuestState where
  step op s s' ans := s.mayAnswer s' op ans ∧ Steady op ans
  crash _ _ _ := False

section Rules

variable {α β : Type} {s : GuestState} {I : BridgeIo → Prop} {R : GuestState → β → Prop}

/-- `R` where the program returns, and `I` of the bridge where it fails. -/
def EndsIn (I : BridgeIo → Prop) (R : GuestState → β → Prop) (s : GuestState) :
    Except BackendError β → Prop
  | .ok b => R s b
  | .error _ => I s.io

/-- However the calls are answered. -/
abbrev Ensures (I : BridgeIo → Prop) (R : GuestState → β → Prop) (p : GuestM β) (s : GuestState) :
    Prop :=
  safe steadyEffects (fun _ => True) (EndsIn I R) p s

lemma Ensures.pure {b : β} (h : R s b) : Ensures I R (Pure.pure b : GuestM β) s := ⟨trivial, h⟩

lemma Ensures.bail {text : String} (h : I s.io) : Ensures I R (GuestM.bail text : GuestM β) s :=
  ⟨trivial, h⟩

lemma Ensures.bind {Q : GuestState → α → Prop} {p : GuestM α} {f : α → GuestM β}
    (hp : Ensures I Q p s) (hf : ∀ s' a, Q s' a → Ensures I R (f a) s') :
    Ensures I R (p >>= f) s :=
  safe.bind hp (fun s' a _ ha => hf s' a ha) fun _ _ _ hI => hI

lemma Ensures.call {op : GuestCall} {f : op.Answer → GuestM β}
    (h : ∀ s' ans, s.mayAnswer s' op ans → Steady op ans → Ensures I R (f ans) s') :
    Ensures I R (perform op >>= f) s :=
  ⟨trivial, fun _ hcrash => hcrash.elim, fun s' ans hans => h s' ans hans.1 hans.2⟩

lemma Ensures.orContext {text : String} {x : Except String α} {f : α → GuestM β}
    (herr : ∀ trap, x = .error trap → I s.io) (hok : ∀ a, x = .ok a → Ensures I R (f a) s) :
    Ensures I R (GuestM.orContext text x >>= f) s := by
  cases x with
  | error trap => exact Ensures.bail (herr trap rfl)
  | ok a => exact hok a rfl

/-- A call that does not trap. -/
lemma Ensures.callOk {op : GuestCall} {text : String} {g : op.Answer → Except String α}
    {f : α → GuestM β}
    (h : ∀ s' ans, s.mayAnswer s' op ans → Steady op ans →
      ∃ a, g ans = .ok a ∧ Ensures I R (f a) s') :
    Ensures I R (perform op >>= fun ans => GuestM.orContext text (g ans) >>= f) s := by
  refine Ensures.call fun s' ans hans hsteady => ?_
  obtain ⟨a, ha, hf⟩ := h s' ans hans hsteady
  rw [ha]
  exact hf

lemma Ensures.ensure {c : Prop} [Decidable c] {text : String} {f : Unit → GuestM β}
    (herr : ¬ c → I s.io) (hok : c → Ensures I R (f ()) s) :
    Ensures I R (GuestM.ensure c text >>= f) s := by
  unfold GuestM.ensure
  by_cases hc : c
  · rw [if_pos hc]
    exact hok hc
  · rw [if_neg hc]
    exact Ensures.bail (herr hc)

/-- A context changes the error only. -/
lemma Ensures.context {text : String} {p : GuestM β} (h : Ensures I R p s) :
    Ensures I R (GuestM.context text p) s := by
  refine safe_mapErr.mpr (safe_mono h (fun _ => id) fun s' x _ hx => ?_)
  cases x with
  | ok b => exact hx
  | error err => exact hx

lemma Ensures.lastEnsure {c : Prop} [Decidable c] {text : String} {R : GuestState → Unit → Prop}
    (herr : ¬ c → I s.io) (hok : c → R s ()) : Ensures I R (GuestM.ensure c text) s := by
  unfold GuestM.ensure
  by_cases hc : c
  · rw [if_pos hc]
    exact Ensures.pure (hok hc)
  · rw [if_neg hc]
    exact Ensures.bail (herr hc)

end Rules

section Io

open GuestM GuestAllocator WasixPgliteIo

variable {α : Type} {s : GuestState} {I : BridgeIo → Prop} {R : GuestState → α → Prop}

/-- Lending memory does not concern the bridge. -/
lemma ensures_allocate (size : UInt32) (hI : I s.io) :
    Ensures I (fun s' ptr => ∃ bytes : Bytes, bytes.length = size.toNat ∧
      s' = { s with block := some (ptr, bytes) }) (allocate size) s := by
  refine Ensures.call fun s' ans hans _ => Ensures.orContext (fun trap htrap => ?_) fun ptr hptr => ?_
  · subst htrap
    have hs' : s' = s := hans
    rw [hs']
    exact hI
  subst hptr
  by_cases hpos : 0 < ptr
  · have hblock : if 0 < ptr then _ else _ := hans
    rw [if_pos hpos] at hblock
    exact Ensures.ensure (fun hnot => absurd hpos hnot) fun _ => Ensures.pure hblock.2.2
  · have hsame : if 0 < ptr then _ else _ := hans
    rw [if_neg hpos] at hsame
    refine Ensures.ensure (fun _ => ?_) fun hlt => absurd hlt hpos
    rw [hsame]
    exact hI

/-- What holds of the bridge with the block holds without it. -/
lemma ensures_runAndFree {ptr : Int32} {f : Int32 → GuestM α}
    (hf : Ensures I (fun s' a => I s'.io ∧ R { s' with block := none } a) (f ptr) s) :
    Ensures I R (runAndFree ptr f) s := by
  have hattempt : Ensures I
      (fun s' result => I s'.io ∧ ∀ a, result = .ok a → R { s' with block := none } a)
      ((f ptr).attempt : GuestM (Except BackendError α)) s := by
    refine safe_attempt.mpr (safe_mono hf (fun _ => id) fun s' x _ hx => ?_)
    cases x with
    | ok a => exact ⟨hx.1, fun a' ha' => Except.ok.inj ha' ▸ hx.2⟩
    | error err => exact ⟨hx, fun a ha => nomatch ha⟩
  refine hattempt.bind fun s' result ⟨hI, hresult⟩ => Ensures.call fun s'' freed hans _ => ?_
  have hs'' : s'' = { s' with block := none } := hans
  subst hs''
  -- a trap of `free` counts only where the call before it succeeded
  cases result with
  | ok a =>
    cases freed with
    | ok _ => exact Ensures.pure (hresult a rfl)
    | error trap => exact Ensures.bail hI
  | error err => cases freed <;> exact ⟨trivial, hI⟩

lemma ensures_reset :
    Ensures (fun _ => False) (fun s' _ => s'.io.bridge = s.io.bridge.inputReset.outputReset)
      reset s := by
  refine Ensures.callOk fun s₁ ans hans hsteady => ?_
  obtain ⟨code, hok⟩ := hsteady
  subst hok
  obtain ⟨hcode, hs₁⟩ := hans
  refine ⟨code, rfl, Ensures.ensure (fun hne => hne hcode) fun _ => ?_⟩
  refine Ensures.callOk fun s₂ ans hans hsteady => ?_
  obtain ⟨code', hok⟩ := hsteady
  subst hok
  obtain ⟨hcode', hs₂⟩ := hans
  refine ⟨code', rfl, Ensures.lastEnsure (fun hne => hne hcode') fun _ => ?_⟩
  rw [hs₂, hs₁]
  rfl

/-- The payload is written in one piece, or the part of it that was is not known of. -/
lemma ensures_pushInput {payload : Bytes} (hpayload : payload ≠ [])
    (hlen : payload.length < 2 ^ 31) :
    Ensures
      (fun io => io.bridge = s.io.bridge ∨
        ∃ allocated, io.bridge = (s.io.bridge.inputWrite payload allocated).1)
      (fun s' _ => ∃ allocated,
        s'.io.bridge = (s.io.bridge.inputWrite payload allocated).1 ∧
        (s.io.bridge.inputWrite payload allocated).2 = payload.length)
      (pushInput payload) s := by
  have hsize : (UInt32.ofNat payload.length).toNat = payload.length := by
    rw [UInt32.toNat_ofNat']
    omega
  unfold pushInput
  rw [if_neg hpayload]
  have hwritten : Ensures
      (fun io => io.bridge = s.io.bridge ∨
        ∃ allocated, io.bridge = (s.io.bridge.inputWrite payload allocated).1)
      (fun s' written => ∃ allocated,
        s'.io.bridge = (s.io.bridge.inputWrite payload allocated).1 ∧
        written = Int32.ofInt (s.io.bridge.inputWrite payload allocated).2)
      (withBytes payload fun ptr => do
        orContext "pgl_wasix_input_write"
          (← Prog.perform (.inputWrite ptr (UInt32.ofNat payload.length)))) s := by
    refine (ensures_allocate _ (.inl rfl)).bind fun s₁ ptr ⟨b₀, hb₀, hs₁⟩ => ?_
    have hio : s₁.io = s.io := by rw [hs₁]
    refine ensures_runAndFree (Ensures.call fun s₂ ans hans _ => ?_)
    refine Ensures.orContext (fun trap htrap => ?_) fun _ hok => ?_
    · subst htrap
      have hs₂ : s₂ = s₁ := hans
      rw [hs₂, hio]
      exact .inl rfl
    cases hok
    -- the block holds the payload
    have hs₂ := hans.2 b₀ (by rw [hs₁]) (by omega)
    refine Ensures.call fun s₃ ans hans hsteady => ?_
    obtain ⟨written, hok⟩ := hsteady
    subst hok
    obtain ⟨bytes, allocated, _, hbytes, hcount, hs₃⟩ := hans
    have hsame : bytes = payload := hbytes payload (by rw [hs₂]) hsize.symm
    have hbridge : s₃.io.bridge = (s.io.bridge.inputWrite payload allocated).1 := by
      rw [hs₃, hs₂, hsame, hs₁]
      rfl
    rw [hs₂, hsame, hs₁] at hcount
    exact Ensures.pure ⟨.inr ⟨allocated, hbridge⟩, allocated, hbridge, hcount⟩
  -- the count that comes back decides whether all was written
  refine hwritten.bind fun s' written ⟨allocated, hbridge, hcount⟩ => ?_
  refine Ensures.lastEnsure (fun _ => .inr ⟨allocated, hbridge⟩) fun hall => ⟨allocated, hbridge, ?_⟩
  rw [hcount] at hall
  unfold Bridge.inputWrite at hall ⊢
  rw [if_neg hpayload] at hall ⊢
  cases allocated with
  | true => rfl
  | false => exact absurd hall (neg_one_ne_ofNat (by omega))

lemma ensures_available (hunread : s.io.bridge.unread.length < 2 ^ 31) :
    Ensures (fun _ => False)
      (fun s' available => s' = s ∧ available = Int32.ofNat s.io.bridge.inputAvailable)
      available s := by
  refine Ensures.callOk fun s' ans hans hsteady => ?_
  obtain ⟨available, hok⟩ := hsteady
  subst hok
  obtain ⟨hs', hcount⟩ := hans
  refine ⟨available, rfl, Ensures.ensure (fun hneg => hneg ?_) fun _ => Ensures.pure ⟨hs', hcount⟩⟩
  rw [hcount, Bridge.inputAvailable_eq]
  exact nonneg_ofNat hunread

/-- The output is taken as a whole, or stays. -/
lemma ensures_takeOutput (hfits : s.Fits) :
    Ensures (fun io => io.bridge = s.io.bridge ∧ s.io.bridge.outputBuf ≠ [])
      (fun s' output => output = s.io.bridge.outputBuf ∧ s'.io.bridge =
        if s.io.bridge.outputBuf = [] then s.io.bridge else s.io.bridge.outputReset)
      takeOutput s := by
  refine Ensures.callOk fun s₁ ans hans hsteady => ?_
  obtain ⟨len, hok⟩ := hsteady
  subst hok
  obtain ⟨hs₁, hlen⟩ := hans
  subst hs₁
  refine ⟨len, rfl, Ensures.ensure (fun hneg => ⟨rfl, fun hempty => hneg ?_⟩) fun hpos => ?_⟩
  · rw [hlen, hempty]
    exact Int32.le_refl 0
  -- without output the host asks for no block
  by_cases hzero : len = 0
  · rw [if_pos hzero]
    have hempty : s₁.io.bridge.outputBuf = [] :=
      List.eq_nil_of_length_eq_zero (eq_zero_of_ofNat hfits (hlen ▸ hzero))
    exact Ensures.pure ⟨hempty.symm, (if_pos hempty).symm⟩
  rw [if_neg hzero]
  have hsome : s₁.io.bridge.outputBuf ≠ [] := fun hempty => hzero (by rw [hlen, hempty]; rfl)
  have hlong : s₁.io.bridge.outputBuf.length < 2 ^ 31 :=
    lt_of_nonneg_ofNat hfits (hlen ▸ hpos)
  have hsize : len.toUInt32.toNat = s₁.io.bridge.outputBuf.length := by
    rw [hlen, Int32.toUInt32_ofNat', UInt32.toNat_ofNat']
    omega
  have hread : Ensures (fun io => io.bridge = s₁.io.bridge ∧ s₁.io.bridge.outputBuf ≠ [])
      (fun s' output => s'.io = s₁.io ∧ output = s₁.io.bridge.outputBuf)
      (withAllocation len (readOutput len)) s₁ := by
    refine (ensures_allocate _ ⟨rfl, hsome⟩).bind fun s₂ ptr ⟨b₀, hb₀, hs₂⟩ => ?_
    have hio : s₂.io = s₁.io := by rw [hs₂]
    refine ensures_runAndFree (Ensures.call fun s₃ ans hans _ => ?_)
    refine Ensures.orContext (fun trap htrap => ?_) fun read hok => ?_
    · subst htrap
      obtain ⟨b', -, hs₃⟩ := hans b₀ (by rw [hs₂]) hb₀
      rw [hs₃]
      exact ⟨congrArg _ hio, hsome⟩
    subst hok
    obtain ⟨hcount, hs₃⟩ := hans b₀ (by rw [hs₂]) hb₀
    have hio₃ : s₃.io = s₁.io := by rw [hs₃, hio]
    have hwhole : s₁.io.bridge.outputBuf.take len.toUInt32.toNat = s₁.io.bridge.outputBuf := by
      rw [hsize, List.take_length]
    rw [hio, hwhole] at hcount hs₃
    have hall : read.toInt.toNat = s₁.io.bridge.outputBuf.length := by
      rw [hcount, Int32.toInt_ofNat_of_lt hlong]
      rfl
    refine Ensures.ensure (fun _ => ?_) fun _ => Ensures.call fun s₄ ans hans _ => ?_
    · rw [hio₃]
      exact ⟨rfl, hsome⟩
    cases ans with
    | error trap =>
      have hs₄ : s₄ = s₃ := hans
      refine Ensures.bail ?_
      rw [hs₄, hio₃]
      exact ⟨rfl, hsome⟩
    | ok output =>
      obtain ⟨hs₄, hbytes⟩ := hans
      have houtput := hbytes _ (by rw [hs₃]) (by rw [hall, List.length_append]; omega)
      rw [hall, List.take_left] at houtput
      refine Ensures.pure ?_
      rw [hs₄]
      exact ⟨⟨congrArg _ hio₃, hsome⟩, hio₃, houtput⟩
  refine hread.bind fun s₂ output ⟨hio, houtput⟩ => Ensures.callOk fun s₃ ans hans hsteady => ?_
  obtain ⟨code, hok⟩ := hsteady
  subst hok houtput
  refine ⟨code, rfl, Ensures.ensure (fun hne => absurd hans.1 hne) fun _ => Ensures.pure ⟨rfl, ?_⟩⟩
  rw [hans.2, if_neg hsome, ← hio]
  rfl

end Io

/-! ## The connection -/

/-- The backend runs on behalf of the pump. -/
def System.Pumping (s : System) : Prop :=
  match s.control with
  | .pumping _ _ => True
  | .proxy _ => False

/-- Standard output takes what it is given. -/
def outputTaken : Lib.Event SystemOp SystemAnswer → Prop
  | ⟨.writeStdout _, taken⟩ => taken = true
  | _ => True

/-- The connection comes to a state while the pump is called. -/
abbrev Pumps (proxy : PgliteProxy) (p : SystemM System) (s : System) : Prop :=
  (system proxy).Leads System.Pumping outputTaken p s

section Backend

variable {pump : Pump} {resume : Except BackendError ProtocolPumpOutcome → ProxyM Connection}
  {g g' : GuestState}

/-- `pgl_recv` does to the bridge what it does there. -/
lemma pumps_recv (proxy : PgliteProxy) (s : System) (stdout : Bytes) (n : ℕ) :
    ∃ s' : System, s'.control = s.control ∧
      s'.bridge = (({ bridge := s.bridge, stdout } : BridgeIo).pglRecv n).bridge ∧
      ∀ c, Pumps proxy (pure s') c → Pumps proxy (s.pglRecv n) c := by
  unfold System.pglRecv BridgeIo.pglRecv
  by_cases hstdio : s.bridge.onStdio = true
  · simp only [if_pos hstdio]
    -- what is read of standard input does not concern the bridge
    unfold System.readStdin
    split_ifs
    · exact ⟨s, rfl, rfl, fun _ h => h⟩
    · exact ⟨{ s with
        stdio := (s.stdio.readInFront n).1
        obtained := s.obtained ++ (s.stdio.readInFront n).2 }, rfl, rfl, fun _ h => h⟩
    · exact ⟨s, rfl, rfl, fun _ h => h⟩
    · exact ⟨s, rfl, rfl, fun _ h => .call (Except.error IoErrorKind.other) trivial h⟩
  · simp only [if_neg hstdio]
    exact ⟨{ s with
      bridge := (s.bridge.bufferRead n).1
      obtained := s.obtained ++ (s.bridge.bufferRead n).2 }, rfl, rfl, fun _ h => h⟩

/-- So does `pgl_send`. -/
lemma pumps_send (proxy : PgliteProxy) (s : System) (stdout payload : Bytes) (allocated : Bool) :
    ∃ s' : System, s'.control = s.control ∧
      s'.bridge =
        (({ bridge := s.bridge, stdout } : BridgeIo).pglSend payload allocated).1.bridge ∧
      ∀ c, Pumps proxy (pure s') c → Pumps proxy (s.pglSend payload) c := by
  unfold System.pglSend BridgeIo.pglSend
  by_cases hstdio : s.bridge.onStdio = true
  · simp only [if_pos hstdio]
    exact ⟨s, rfl, rfl, fun _ h => .call true rfl h⟩
  simp only [if_neg hstdio]
  by_cases hempty : payload = []
  · simp only [if_pos hempty]
    exact ⟨s, rfl, rfl, fun _ h => h⟩
  simp only [if_neg hempty]
  cases allocated with
  | false => exact ⟨s, rfl, rfl, fun _ h => .call false trivial h⟩
  | true =>
    -- a COPY response opens the stream, and what is buffered goes out first
    by_cases hopens : (s.bridge.bufferAppend payload).opensStream = true
    · refine ⟨{ s with bridge := (s.bridge.bufferAppend payload).streamOpened }, rfl, ?_,
        fun _ h => .call true trivial ?_⟩
      · simp only [if_pos hopens, if_true]
      · simp only [if_pos hopens]
        exact .call true rfl h
    · refine ⟨{ s with bridge := s.bridge.bufferAppend payload }, rfl, ?_,
        fun _ h => .call true trivial ?_⟩
      · simp only [if_neg hopens, if_true]
      · simp only [if_neg hopens]
        exact h

/-- What the backend does while an export runs, the connection can do. -/
lemma pumps_acts (proxy : PgliteProxy) (hacts : g.Acts g') :
    ∀ {s : System}, s.control = .pumping pump resume → s.bridge = g.io.bridge →
      ∃ s' : System, s'.control = .pumping pump resume ∧ s'.bridge = g'.io.bridge ∧
        ∀ c, Pumps proxy (pure s') c → Pumps proxy (pure s) c := by
  -- on the calls of the backend, each of which is a step of the connection
  induction hacts with
  | done g held => exact fun {s} hcontrol hbridge => ⟨s, hcontrol, hbridge, fun _ h => h⟩
  | @act g g' call hcall _ ih =>
    intro s hcontrol hbridge
    have hpumping : s.Pumping := by rw [System.Pumping, hcontrol]; trivial
    have hnext : (system proxy).next s = some (s.guestStep pump resume) := by
      show systemNext proxy s = _
      rw [systemNext, hcontrol]
    have hio : g.io = { bridge := s.bridge, stdout := g.io.stdout } := by rw [hbridge]
    -- one step for the call, then those for the rest
    obtain ⟨s₁, hcontrol₁, hbridge₁, hpumps₁⟩ : ∃ s₁ : System,
        s₁.control = s.control ∧ s₁.bridge = (g.io.step call).bridge ∧
        ∀ c, Pumps proxy (pure s₁) c → Pumps proxy (s.guestStep pump resume) c := by
      cases call with
      | recv n =>
        obtain ⟨s₁, hcontrol₁, hbridge₁, hpumps₁⟩ := pumps_recv proxy s g.io.stdout n
        exact ⟨s₁, hcontrol₁, hbridge₁.trans (by rw [← hio]; rfl),
          fun c h => .call (GuestAction.recv n) trivial (hpumps₁ c h)⟩
      | send payload allocated =>
        obtain ⟨s₁, hcontrol₁, hbridge₁, hpumps₁⟩ :=
          pumps_send proxy s g.io.stdout payload allocated
        exact ⟨s₁, hcontrol₁, hbridge₁.trans (by rw [← hio]; rfl),
          fun c h => .call (GuestAction.send payload) trivial (hpumps₁ c h)⟩
      | reportCopyResponse state =>
        refine ⟨{ s with bridge := s.bridge.protocolReportCopyResponse state }, rfl, ?_,
          fun _ h => .call (GuestAction.reportCopyResponse state) trivial h⟩
        show s.bridge.protocolReportCopyResponse state = _
        rw [hbridge]
        rfl
      | _ => cases hcall
    obtain ⟨s', hcontrol', hbridge', hpumps'⟩ := ih (hcontrol₁.trans hcontrol) hbridge₁
    exact ⟨s', hcontrol', hbridge',
      fun c h => .step hpumping hnext (hpumps₁ c (hpumps' c h))⟩

end Backend

/-! ## One exchange -/

/-- The backend reads no input it was not given. -/
lemma GuestState.Acts.unread_le {g g' : GuestState} (h : g.Acts g') :
    g'.io.bridge.unread.length ≤ g.io.bridge.unread.length := by
  induction h with
  | done g held => exact le_rfl
  | @act g g' call hcall _ ih =>
    refine Nat.le_trans ih ?_
    show (g.io.step call).bridge.unread.length ≤ _
    cases call with
    | recv n =>
      show (g.io.pglRecv n).bridge.unread.length ≤ _
      unfold BridgeIo.pglRecv
      by_cases hstdio : g.io.bridge.onStdio = true
      · rw [if_pos hstdio]
      · rw [if_neg hstdio, ← g.io.bridge.bufferRead_append n, List.length_append]
        exact Nat.le_add_left _ _
    | send payload allocated =>
      show (g.io.pglSend payload allocated).1.bridge.unread.length ≤ _
      rcases g.io.pglSend_cases payload allocated with
        ⟨-, heq⟩ | ⟨-, heq⟩ | ⟨-, -, heq⟩ | ⟨-, heq⟩ | ⟨-, heq⟩ <;> rw [heq] <;> exact le_rfl
    | reportCopyResponse state =>
      obtain ⟨copyState, requested, hframe⟩ := g.io.bridge.reportCopyResponse_frame state
      show (g.io.bridge.protocolReportCopyResponse state).unread.length ≤ _
      rw [hframe]
      exact le_rfl
    | _ => cases hcall

section Exchange

open GuestM WasixPgliteIo
open Lib.Machine (Follows)

/-- `send_protocol_inner` is over, with one bridge and one result. -/
def InnerEnds (pump : Pump) (resume : Except BackendError ProtocolPumpOutcome → ProxyM Connection)
    (g : GuestState) (x : Except BackendError Bytes) (c : System) : Prop :=
  ∃ s : System, s.bridge = g.io.bridge ∧ c = s.innerDone pump resume x

variable {proxy : PgliteProxy} {s : System} {pump : Pump}
  {resume : Except BackendError ProtocolPumpOutcome → ProxyM Connection} {g : GuestState}

/-- The connection follows the calls to the end of `send_protocol_inner`. -/
abbrev Pumped (proxy : PgliteProxy) (pump : Pump)
    (resume : Except BackendError ProtocolPumpOutcome → ProxyM Connection) (p : SystemM System)
    (q : GuestM Bytes) (g : GuestState) : Prop :=
  (system proxy).Follows System.Pumping outputTaken steadyEffects (InnerEnds pump resume) p q g

lemma Pumped.failed {err : BackendError} (hbridge : s.bridge = g.io.bridge) :
    Pumped proxy pump resume (pure (s.innerDone pump resume (.error err))) (.fail err) g :=
  Follows.fail ⟨s, hbridge, rfl⟩

/-- Nothing after a call depends on which one the pump remembers. -/
lemma exportDone_phase (s : System) (phase phase' : Phase) (result : GuestReturn) :
    s.exportDone { pump with phase := phase } resume phase' result
      = s.exportDone pump resume phase' result := by
  cases phase' <;> cases result <;> rfl

/-- An export runs on both sides, and ends alike. -/
lemma Pumped.exported {op : GuestCall} {f : op.Answer → GuestM Bytes} {phase : Phase}
    (ended : op.Answer → GuestReturn)
    (hop : ∀ g' ans, g.mayAnswer g' op ans → g.Acts g' ∧ g'.Fits)
    (hbridge : s.bridge = g.io.bridge)
    (h : ∀ (s' : System) g' ans, s'.bridge = g'.io.bridge → g.Acts g' → g'.Fits →
      Pumped proxy pump resume (s'.exportDone pump resume phase (ended ans)) (f ans) g') :
    Pumped proxy pump resume (pure (s.enter pump resume phase)) (perform op >>= f) g := by
  refine Follows.call (fun _ hcrash => hcrash) fun g' ans hans => ?_
  obtain ⟨hacts, hfits⟩ := hop g' ans hans.1
  obtain ⟨s', hcontrol, hbridge', hpumps⟩ :=
    pumps_acts proxy hacts (s := s.enter pump resume phase) rfl hbridge
  refine (h s' g' ans hbridge' hacts hfits).of_leads fun c hleads => hpumps c ?_
  -- the last step: the export is back
  have hpumping : s'.Pumping := by rw [System.Pumping, hcontrol]; trivial
  have hnext : (system proxy).next s' = some (s'.guestStep { pump with phase } resume) := by
    show systemNext proxy s' = _
    rw [systemNext, hcontrol]
  refine .step hpumping hnext (.call (GuestAction.finish (ended ans)) trivial ?_)
  show Pumps proxy (s'.exportDone { pump with phase } resume phase (ended ans)) c
  rw [exportDone_phase]
  exact hleads

/-- An export that returns, or traps and is reported. -/
lemma Pumped.exportedOk {op : GuestCall} {text : String} {phase : Phase}
    {trapped : op.Answer → Except String Unit} {f : Unit → GuestM Bytes}
    (hop : ∀ g' ans, g.mayAnswer g' op ans → g.Acts g' ∧ g'.Fits)
    (hbridge : s.bridge = g.io.bridge)
    (htrap : ∀ s' : System, s'.exportDone pump resume phase .trapped
      = pure (s'.innerDone pump resume (.error (System.bail text))))
    (h : ∀ (s' : System) g', s'.bridge = g'.io.bridge → g.Acts g' → g'.Fits →
      Pumped proxy pump resume (s'.exportDone pump resume phase .returned) (f ()) g') :
    Pumped proxy pump resume (pure (s.enter pump resume phase))
      (perform op >>= fun ans => orContext text (trapped ans) >>= f) g := by
  refine Pumped.exported
    (fun ans => if (trapped ans).isOk then .returned else .trapped) hop hbridge
    fun s' g' ans hbridge' hacts hfits => ?_
  cases trapped ans with
  | ok _ => exact h s' g' hbridge' hacts hfits
  | error trap =>
    show Pumped proxy pump resume (s'.exportDone pump resume phase .trapped) _ g'
    rw [htrap]
    exact Pumped.failed hbridge'

lemma pumped_protocolInputRemaining {k : Except BackendError Int → SystemM System}
    {f : Int32 → GuestM Bytes} (hbridge : s.bridge = g.io.bridge)
    (hunread : g.io.bridge.unread.length < 2 ^ 31)
    (herr : ∀ err, Pumped proxy pump resume (k (.error err)) (.fail err) g)
    (hok : ∀ remaining : Int32, Pumped proxy pump resume (k (.ok remaining.toInt)) (f remaining) g) :
    Pumped proxy pump resume (s.protocolInputRemaining >>= k) (protocolInputRemaining >>= f) g := by
  rw [protocolInputRemaining, Prog.bind_assoc]
  refine Follows.part (ensures_available hunread) (fun g' available ⟨hg', hcount⟩ => ?_)
    fun _ _ hfalse => hfalse.elim
  subst hg'
  have hsmall : g'.io.bridge.inputAvailable < 2 ^ 31 := by
    rw [Bridge.inputAvailable_eq]
    exact hunread
  unfold System.protocolInputRemaining
  rw [hbridge, hcount]
  -- the backend is asked for what it holds only where the buffer is empty
  by_cases hsome : g'.io.bridge.inputAvailable > 0
  · rw [if_pos hsome, if_pos ((pos_ofNat_iff hsmall).mpr hsome)]
    have hanswer := hok (Int32.ofNat g'.io.bridge.inputAvailable)
    rw [Int32.toInt_ofNat_of_lt hsmall] at hanswer
    exact hanswer
  · rw [if_neg hsome, if_neg fun hpos => hsome ((pos_ofNat_iff hsmall).mp hpos), Prog.bind_assoc]
    refine Follows.call (fun _ hcrash => hcrash) fun g'' ans hans => ?_
    have hg'' : g'' = g' := hans.1
    subst hg''
    cases ans with
    | ok remaining => exact Follows.answer (Except.ok remaining.toInt) trivial (hok remaining)
    | error trap => exact Follows.answer (Except.error _) trivial (herr _)

/-- The calls that run code of the backend. -/
lemma acts_of_mainLoop {g' : GuestState} {ans : GuestReturn} (h : g.mayAnswer g' .mainLoop ans) :
    g.Acts g' ∧ g'.Fits := h

/-- The loop of `recover_protocol_error`, and what is behind it. -/
lemma pumped_drainHead (attempts left : ℕ) {drainAttempts : ℕ} {f : Unit → GuestM Bytes}
    (hleft : drainAttempts + left = maxAttempts pump.payload.length)
    (hbridge : s.bridge = g.io.bridge) (hunread : g.io.bridge.unread.length < 2 ^ 31)
    (hf : ∀ (s' : System) g', s'.bridge = g'.io.bridge → g'.io.bridge.unread.length < 2 ^ 31 →
      Pumped proxy pump resume (s'.dispatchHead pump resume attempts true) (f ()) g') :
    Pumped proxy pump resume (s.drainHead pump resume attempts drainAttempts)
      (drainInput pump.payload.length left >>= f) g := by
  -- on the attempts that are left; the unread input never grows
  induction left generalizing s g drainAttempts with
  | zero =>
    rw [drainInput, Prog.bind_assoc]
    refine pumped_protocolInputRemaining hbridge hunread (fun err => Pumped.failed hbridge)
      fun remaining => ?_
    by_cases hsome : 0 < remaining
    · have hpos : remaining.toInt > 0 := Int32.lt_iff_toInt_lt.mp hsome
      have hmany : ¬ drainAttempts + 1 ≤ maxAttempts pump.payload.length := by omega
      simp only [if_pos hpos, if_neg hmany, GuestM.ensure, if_neg (not_not.mpr hsome)]
      rw [← hleft]
      exact Pumped.failed hbridge
    · have hnone : ¬ remaining.toInt > 0 := fun hpos => hsome (Int32.lt_iff_toInt_lt.mpr hpos)
      simp only [if_neg hnone, GuestM.ensure, if_pos hsome]
      exact hf s g hbridge hunread
  | succ left ih =>
    rw [drainInput, Prog.bind_assoc]
    refine pumped_protocolInputRemaining hbridge hunread (fun err => Pumped.failed hbridge)
      fun remaining => ?_
    by_cases hsome : 0 < remaining
    · have hpos : remaining.toInt > 0 := Int32.lt_iff_toInt_lt.mp hsome
      have hfew : drainAttempts + 1 ≤ maxAttempts pump.payload.length := by omega
      simp only [if_pos hpos, if_pos hfew, if_pos hsome]
      rw [Prog.bind_assoc]
      refine Pumped.exported id (fun _ _ => acts_of_mainLoop) hbridge
        fun s₁ g₁ ended hbridge₁ hacts₁ _ => ?_
      have hunread₁ := Nat.lt_of_le_of_lt hacts₁.unread_le hunread
      by_cases hreturned : ended = .returned
      · subst hreturned
        simp only [GuestM.when, ne_eq, not_true, if_false]
        exact ih (by omega) hbridge₁ hunread₁
      · have hended : s₁.exportDone pump resume (.drain attempts (drainAttempts + 1)) ended
            = pure (s₁.enter pump resume (.drainRecover attempts (drainAttempts + 1))) := by
          cases ended <;> first | rfl | exact absurd rfl hreturned
        rw [id_eq, hended]
        -- the export did not return: both sides recover and ask again
        simp only [GuestM.when, ne_eq, hreturned, not_false_eq_true, if_true]
        rw [Prog.bind_assoc, Prog.bind_assoc]
        refine Pumped.exportedOk (fun _ _ h => h) hbridge₁ (fun _ => rfl)
          fun s₂ g₂ hbridge₂ hacts₂ _ => ?_
        exact ih (by omega) hbridge₂ (Nat.lt_of_le_of_lt hacts₂.unread_le hunread₁)
    · have hnone : ¬ remaining.toInt > 0 := fun hpos => hsome (Int32.lt_iff_toInt_lt.mpr hpos)
      simp only [if_neg hnone, if_neg hsome]
      exact hf s g hbridge hunread

/-- The loop of `send_protocol_inner`, up to `send_ready`. -/
lemma pumped_dispatchHead (left : ℕ) {attempts : ℕ} {recovered : Bool} {f : Bool → GuestM Bytes}
    (hleft : attempts + left = maxAttempts pump.payload.length)
    (hbridge : s.bridge = g.io.bridge) (hunread : g.io.bridge.unread.length < 2 ^ 31)
    (hf : ∀ (s' : System) g' recovered, s'.bridge = g'.io.bridge →
      Pumped proxy pump resume (pure (s'.enter pump resume (.sendReady recovered)))
        (f recovered) g') :
    Pumped proxy pump resume (s.dispatchHead pump resume attempts recovered)
      (dispatchInput pump.payload.length left recovered >>= f) g := by
  -- as above, with the drained input in between
  induction left generalizing s g attempts recovered with
  | zero =>
    rw [dispatchInput, Prog.bind_assoc]
    refine pumped_protocolInputRemaining hbridge hunread (fun err => Pumped.failed hbridge)
      fun remaining => ?_
    by_cases hsome : 0 < remaining
    · have hpos : remaining.toInt > 0 := Int32.lt_iff_toInt_lt.mp hsome
      have hmany : ¬ attempts + 1 ≤ maxAttempts pump.payload.length := by omega
      simp only [if_pos hpos, if_neg hmany, GuestM.ensure, if_neg (not_not.mpr hsome)]
      rw [← hleft]
      exact Pumped.failed hbridge
    · have hnone : ¬ remaining.toInt > 0 := fun hpos => hsome (Int32.lt_iff_toInt_lt.mpr hpos)
      simp only [if_neg hnone, GuestM.ensure, if_pos hsome]
      exact hf s g recovered hbridge
  | succ left ih =>
    rw [dispatchInput, Prog.bind_assoc]
    refine pumped_protocolInputRemaining hbridge hunread (fun err => Pumped.failed hbridge)
      fun remaining => ?_
    by_cases hsome : 0 < remaining
    · have hpos : remaining.toInt > 0 := Int32.lt_iff_toInt_lt.mp hsome
      have hfew : attempts + 1 ≤ maxAttempts pump.payload.length := by omega
      simp only [if_pos hpos, if_pos hfew, if_pos hsome]
      rw [Prog.bind_assoc]
      refine Pumped.exported id (fun _ _ => acts_of_mainLoop) hbridge
        fun s₁ g₁ ended hbridge₁ hacts₁ _ => ?_
      have hunread₁ := Nat.lt_of_le_of_lt hacts₁.unread_le hunread
      by_cases hreturned : ended = .returned
      · subst hreturned
        rw [if_pos rfl]
        exact ih (by omega) hbridge₁ hunread₁
      · have hended : s₁.exportDone pump resume (.dispatch (attempts + 1) recovered) ended
            = pure (s₁.enter pump resume (.recover (attempts + 1))) := by
          cases ended <;> first | rfl | exact absurd rfl hreturned
        rw [id_eq, hended, if_neg hreturned]
        simp only [recoverProtocolError, Prog.bind_assoc]
        refine Pumped.exportedOk (fun _ _ h => h) hbridge₁ (fun _ => rfl)
          fun s₂ g₂ hbridge₂ hacts₂ _ => ?_
        have hunread₂ := Nat.lt_of_le_of_lt hacts₂.unread_le hunread₁
        -- the input is drained, and the loop goes on
        exact pumped_drainHead _ _ (Nat.zero_add _) hbridge₂ hunread₂
          fun s₃ g₃ hbridge₃ hunread₃ => ih (by omega) hbridge₃ hunread₃
    · have hnone : ¬ remaining.toInt > 0 := fun hpos => hsome (Int32.lt_iff_toInt_lt.mpr hpos)
      simp only [if_neg hnone, if_neg hsome]
      exact hf s g recovered hbridge

/-- `take_output`, whatever context its errors get. -/
lemma pumped_takeOutput {q : GuestM Bytes}
    {k : Except BackendError Bytes × System → SystemM System} {f : Bytes → GuestM Bytes}
    (hbridge : s.bridge = g.io.bridge)
    (hq : Ensures (fun io => io.bridge = g.io.bridge ∧ g.io.bridge.outputBuf ≠ [])
      (fun g' output => output = g.io.bridge.outputBuf ∧ g'.io.bridge =
        if g.io.bridge.outputBuf = [] then g.io.bridge else g.io.bridge.outputReset) q g)
    (herr : ∀ g' err, s.bridge = g'.io.bridge →
      Pumped proxy pump resume (k (.error err, s)) (.fail err) g')
    (hok : ∀ (s' : System) g' output, s'.bridge = g'.io.bridge →
      Pumped proxy pump resume (k (.ok output, s')) (f output) g') :
    Pumped proxy pump resume (s.takeOutput >>= k) (q >>= f) g := by
  unfold System.takeOutput
  refine Follows.part hq (fun g' output ⟨houtput, hg'⟩ => ?_) fun g' err ⟨hg', hsome⟩ => ?_
  · subst houtput
    rw [hbridge]
    by_cases hempty : g.io.bridge.outputBuf = []
    · rw [if_pos hempty] at hg' ⊢
      rw [hempty]
      exact hok s g' [] (hbridge.trans hg'.symm)
    · rw [if_neg hempty] at hg' ⊢
      refine Follows.answer (Except.ok ()) trivial (Follows.answer (Except.ok ()) trivial ?_)
      exact hok { s with bridge := g.io.bridge.outputReset } g' _ hg'.symm
  · rw [hbridge, if_neg hsome]
    exact Follows.answer (Except.error err) trivial (herr g' err (hbridge.trans hg'.symm))

/-- The end of `recover_non_trapping_protocol_error`, and of the exchange. -/
lemma pumped_recordBackendCTimings {output : Bytes} (hbridge : s.bridge = g.io.bridge) :
    Pumped proxy pump resume (pure (s.innerDone pump resume (.ok output)))
      (recordBackendCTimings >>= fun _ => pure output) g := by
  rw [recordBackendCTimings, Prog.bind_assoc]
  refine Follows.call (fun _ hcrash => hcrash) fun g' ans hans => ?_
  obtain ⟨hg', hok⟩ := hans
  have hsame : g' = g := hg'
  have hrecorded : ans = .ok () := hok
  subst hsame hrecorded
  exact Follows.pure ⟨s, hbridge, rfl⟩

lemma pumped_recoverNonTrappingProtocolError {output : Bytes} (hbridge : s.bridge = g.io.bridge) :
    Pumped proxy pump resume (pure (s.enter pump resume (.errorRecover output)))
      (recoverNonTrappingProtocolError >>= fun _ =>
        recordBackendCTimings >>= fun _ => pure output) g := by
  simp only [recoverNonTrappingProtocolError, Prog.bind_assoc]
  refine Pumped.exportedOk (fun _ _ h => h) hbridge (fun _ => rfl) fun s₁ g₁ hbridge₁ _ _ => ?_
  refine Pumped.exportedOk (fun _ _ h => h) hbridge₁ (fun _ => rfl) fun s₂ g₂ hbridge₂ _ _ => ?_
  refine Pumped.exportedOk (fun _ _ h => h) hbridge₂ (fun _ => rfl) fun s₃ g₃ hbridge₃ _ hfits₃ => ?_
  exact pumped_takeOutput hbridge₃ (ensures_takeOutput hfits₃)
    (fun g₄ err hbridge₄ => Pumped.failed hbridge₄)
    fun s₄ g₄ _ hbridge₄ => pumped_recordBackendCTimings hbridge₄

/-- `push_input` from the second call on. -/
def System.pushWritten (s : System) (pump : Pump)
    (resume : Except BackendError ProtocolPumpOutcome → ProxyM Connection) (allocated : Bool) :
    SystemM System := do
  let written := s.bridge.inputWrite pump.payload allocated
  let s := { s with bridge := written.1 }
  match ← perform SystemOp.free with
  | .error err => return s.innerDone pump resume (.error err)
  | .ok () =>
    if written.2 ≠ pump.payload.length then
      return s.innerDone pump resume (.error (System.bail
        s!"pgl_wasix_input_write wrote {written.2}, expected {pump.payload.length}"))
    else
      s.dispatchHead pump resume 0 false

/-- `push_input`, into an input buffer that was reset. -/
lemma pumped_pushInput {f : Unit → GuestM Bytes} (hpayload : pump.payload ≠ [])
    (hlen : pump.payload.length < 2 ^ 31) (hbridge : s.bridge = g.io.bridge)
    (hread : g.io.bridge.inputOff = g.io.bridge.inputBuf.length)
    (hf : ∀ (s' : System) g', s'.bridge = g'.io.bridge → g'.io.bridge.unread.length < 2 ^ 31 →
      Pumped proxy pump resume (s'.dispatchHead pump resume 0 false) (f ()) g') :
    Pumped proxy pump resume (s.pushInput pump resume) (pushInput pump.payload >>= f) g := by
  have hwrites (allocated : Bool) : ∀ c, Pumps proxy (s.pushWritten pump resume allocated) c →
      Pumps proxy (s.pushInput pump resume) c :=
    fun c h => .call (Except.ok ()) trivial (.call allocated trivial h)
  refine Follows.part (ensures_pushInput hpayload hlen) (fun g' _ ⟨allocated, hg', hall⟩ => ?_)
    fun g' err hg' => ?_
  · refine Follows.of_leads ?_ (hwrites allocated)
    refine Follows.answer (Except.ok ()) trivial ?_
    rw [hbridge]
    simp only [hall, ne_eq, not_true, if_false]
    refine hf { s with bridge := (g.io.bridge.inputWrite pump.payload allocated).1 } g' hg'.symm ?_
    rw [hg', g.io.bridge.inputWrite_unread hread _ _ hall]
    exact hlen
  · obtain hg' | ⟨allocated, hg'⟩ := hg'
    · exact Follows.answer (Except.error err) trivial (Pumped.failed (hbridge.trans hg'.symm))
    · refine Follows.of_leads ?_ (hwrites allocated)
      refine Follows.answer (Except.error err) trivial (Pumped.failed ?_)
      rw [hg', ← hbridge]

/-- The scanners are one. -/
lemma containsError_eq (response : Bytes) :
    containsError response = System.protocolResponseContainsError response := by
  unfold containsError
  rw [protocolResponseContainsError_eq]
  rfl

/-- From `send_ready` to the end. -/
lemma pumped_sendReady {recovered : Bool} (hbridge : s.bridge = g.io.bridge) :
    Pumped proxy pump resume (pure (s.enter pump resume (.sendReady recovered)))
      (do
        orContext "PostgresSendReadyForQueryIfNecessary" (← perform .sendReady)
        orContext "pgl_pq_flush after protocol buffer" (← perform .pqFlush)
        let output ← context "take backend output after protocol buffer" takeOutput
        when ((!recovered && containsError output) = true) recoverNonTrappingProtocolError
        recordBackendCTimings
        return output) g := by
  refine Pumped.exportedOk (fun _ _ h => h) hbridge (fun _ => rfl) fun s₁ g₁ hbridge₁ _ _ => ?_
  refine Pumped.exportedOk (fun _ _ h => h) hbridge₁ (fun _ => rfl) fun s₂ g₂ hbridge₂ _ hfits₂ => ?_
  refine pumped_takeOutput hbridge₂ (ensures_takeOutput hfits₂).context
    (fun g₃ err hbridge₃ => Pumped.failed hbridge₃) fun s₃ g₃ output hbridge₃ => ?_
  rw [containsError_eq]
  by_cases herror : (!recovered && System.protocolResponseContainsError output) = true
  · simp only [GuestM.when, if_pos herror]
    exact pumped_recoverNonTrappingProtocolError hbridge₃
  · simp only [GuestM.when, if_neg herror]
    exact pumped_recordBackendCTimings hbridge₃

/-- **One exchange**, from the reset of the buffers on. -/
lemma pumped_sendProtocolInner (hpayload : pump.payload ≠ []) (hlen : pump.payload.length < 2 ^ 31)
    (hbridge : s.bridge = g.io.bridge.inputReset.outputReset) :
    Pumped proxy pump resume (s.pushInput pump resume) (sendProtocolInner pump.payload) g := by
  refine Follows.call (fun _ hcrash => hcrash) fun g₁ ans hans => ?_
  obtain ⟨hg₁, hok⟩ := hans
  have hsame : g₁ = g := hg₁
  have hreset : ans = .ok () := hok
  subst hsame hreset
  simp only [orContext, Prog.bind_of_pure]
  refine Follows.part ensures_reset (fun g₂ _ hbridge₂ => ?_) fun _ _ => False.elim
  refine pumped_pushInput hpayload hlen (hbridge.trans hbridge₂.symm) ?_
    fun s₃ g₃ hbridge₃ hunread₃ => ?_
  · rw [hbridge₂]
    rfl
  exact pumped_dispatchHead _ (Nat.zero_add _) hbridge₃ hunread₃
    fun s₄ g₄ recovered hbridge₄ => pumped_sendReady hbridge₄

end Exchange

/-- **The connection follows the calls of the host.** When the proxy calls the pump on an attached
stream, every run of the calls of `send_protocol_inner` is one of the connection: it comes to the
end of `send_protocol_inner` with the same bridge and the same result. -/
theorem connection_follows_calls (proxy : PgliteProxy) {client message continuation : Bytes}
    {history : SystemTrace} {s : System} {site : FlushSite} {backend : Handle}
    {resume : Except BackendError ProtocolPumpOutcome → ProxyM Connection}
    {g g' : GuestState} {x : Except BackendError Bytes}
    (hrun : (system proxy).Run (fun _ _ => True) (System.start client) history s)
    (hcall : s.control =
      .proxy (.call (.sendWithProtocolPump site backend message continuation) resume))
    (hpump : s.supportsProtocolPump = true) (hattached : s.stdio.attached = true)
    (hbuffered : s.bridge.protocolTransport = .buffered) (hmessage : message ≠ [])
    (hlen : message.length < 2 ^ 31)
    (hbridge : g.io.bridge = (s.bridge.setProtocolTransport .hybrid).1)
    (hcalls : Runs steadyEffects (sendProtocolInner message) g g' x) :
    ∃ (tr : SystemTrace) (s' : System), s'.bridge = g'.io.bridge ∧
      (system proxy).Run (fun _ _ => True) (System.start client) (history ++ tr)
        (s'.innerDone { payload := message, continuation, phase := .dispatch 0 false } resume x) := by
  let pump : Pump := { payload := message, continuation, phase := .dispatch 0 false }
  have hnext : (system proxy).next s = some (s.sendProtocolPump resume message continuation) := by
    show systemNext proxy s = _
    rw [systemNext, hcall]
    rfl
  have hprevious : (s.bridge.setProtocolTransport .hybrid).2 = .buffered := hbuffered
  have hfollows : Pumped proxy pump resume (s.sendProtocolPump resume message continuation)
      (sendProtocolInner message) g := by
    unfold System.sendProtocolPump
    simp only [hpump, hattached, hprevious, hmessage, Bool.not_true, Bool.false_eq_true, if_false,
      ne_eq, not_true]
    refine Machine.Follows.answer (Except.ok ()) trivial ?_
    have hreset : (s.bridge.setProtocolTransport .hybrid).1.inputReset.outputReset =
        g.io.bridge.inputReset.outputReset := by rw [hbridge]
    exact @pumped_sendProtocolInner proxy _ pump resume g hmessage hlen hreset
  obtain ⟨c, ⟨s', hbridge', hc⟩, hleads⟩ := hfollows.of_runs hcalls
  obtain ⟨tr, htr⟩ := hleads.run hrun hnext
  exact ⟨tr, s', hbridge', hc ▸ htr⟩

end PgliteOxide.Pglite
