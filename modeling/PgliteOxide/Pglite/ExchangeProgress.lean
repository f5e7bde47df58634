import PgliteOxide.Pglite.DirectExchange

/-!
# Exchanges succeed

With a backend that serves (`GuestState.Serves`: memory, input and output are no obstacle, and each
call of `main_loop` takes a message) every exchange succeeds: the attempts of
`send_protocol_inner`, and those of `recover_protocol_error` inside of it, are enough for any
payload, however often `main_loop` ends in an error (`exchanges_succeed`).
-/

namespace PgliteOxide.Pglite

open Lib Prog

/-! ## Rules -/

section Rules

open GuestM GuestState

variable {α β : Type} {s : GuestState} {R : GuestState → β → Prop}

/-- The program returns, with `R`. -/
abbrev Supplies (R : GuestState → β → Prop) (p : GuestM β) (s : GuestState) : Prop :=
  safe servingEffects (fun _ => True) (fun s' x => ∃ b, x = .ok b ∧ R s' b) p s

lemma Supplies.bind {Q : GuestState → α → Prop} {p : GuestM α} {f : α → GuestM β}
    (hp : Supplies Q p s) (hf : ∀ s' a, Q s' a → Supplies R (f a) s') : Supplies R (p >>= f) s :=
  safe.bind hp (fun s' _ _ ⟨_, hok, ha⟩ => Except.ok.inj hok ▸ hf s' _ ha)
    fun _ _ _ ⟨_, herr, _⟩ => nomatch herr

lemma Supplies.mono {Q : GuestState → β → Prop} {p : GuestM β} (hp : Supplies Q p s)
    (h : ∀ s' b, Q s' b → R s' b) : Supplies R p s :=
  safe_mono hp (fun _ => id) fun s' _ _ ⟨b, hok, hb⟩ => ⟨b, hok, h s' b hb⟩

lemma Supplies.pure {b : β} (h : R s b) : Supplies R (Pure.pure b : GuestM β) s :=
  ⟨trivial, b, rfl, h⟩

lemma Supplies.call {op : GuestCall} {f : op.Answer → GuestM β}
    (h : ∀ s' ans, s.mayAnswer s' op ans → s.Serves s' op ans → Supplies R (f ans) s') :
    Supplies R (perform op >>= f) s :=
  ⟨trivial, fun _ hcrash => hcrash.elim, fun s' ans hans => h s' ans hans.1 hans.2⟩

/-- A call that does not trap. -/
lemma Supplies.callOk {op : GuestCall} {text : String} {g : op.Answer → Except String α}
    {f : α → GuestM β}
    (h : ∀ s' ans, s.mayAnswer s' op ans → s.Serves s' op ans →
      ∃ a, g ans = .ok a ∧ Supplies R (f a) s') :
    Supplies R (perform op >>= fun ans => orContext text (g ans) >>= f) s := by
  refine Supplies.call fun s' ans hans hserves => ?_
  obtain ⟨a, ha, hf⟩ := h s' ans hans hserves
  rw [ha]
  exact hf

lemma Supplies.lastOk {op : GuestCall} {text : String} {g : op.Answer → Except String β}
    (h : ∀ s' ans, s.mayAnswer s' op ans → s.Serves s' op ans → ∃ b, g ans = .ok b ∧ R s' b) :
    Supplies R (perform op >>= fun ans => orContext text (g ans)) s := by
  refine Supplies.call fun s' ans hans hserves => ?_
  obtain ⟨b, hb, hR⟩ := h s' ans hans hserves
  rw [hb]
  exact Supplies.pure hR

lemma Supplies.ensure {c : Prop} [Decidable c] {text : String} {f : Unit → GuestM β} (hc : c)
    (h : Supplies R (f ()) s) : Supplies R (GuestM.ensure c text >>= f) s := by
  unfold GuestM.ensure
  rw [if_pos hc]
  exact h

lemma Supplies.lastEnsure {c : Prop} [Decidable c] {text : String} {R : GuestState → Unit → Prop}
    (hc : c) (h : R s ()) : Supplies R (GuestM.ensure c text) s := by
  unfold GuestM.ensure
  rw [if_pos hc]
  exact Supplies.pure h

/-- What holds when a program returns holds here as well. -/
lemma Supplies.and_gives {Q : GuestState → β → Prop} {p : GuestM β} (hp : Supplies R p s)
    (hq : Gives Q p s) : Supplies (fun s' b => R s' b ∧ Q s' b) p s := by
  induction p generalizing s with
  | ret b =>
    obtain ⟨-, b', hok, hR⟩ := hp
    cases hok
    exact ⟨trivial, b, rfl, hR, hq⟩
  | fail err =>
    obtain ⟨-, b, hok, -⟩ := hp
    cases hok
  | call op next ih =>
    exact ⟨trivial, hp.2.1, fun s' ans hans => ih ans (hp.2.2 s' ans hans) (hq s' ans hans.1)⟩

lemma Supplies.of_runs {p : GuestM β} {s' : GuestState} {x : Except BackendError β}
    (hp : Supplies R p s) (hrun : Runs servingEffects p s s' x) : ∃ b, x = .ok b ∧ R s' b :=
  hrun.of_safe hp

end Rules

/-! ## `GuestAllocator` and `WasixPgliteIo` -/

section Io

open GuestM GuestState GuestAllocator WasixPgliteIo

variable {α : Type} {base s : GuestState} {payload taken : Bytes} {R : GuestState → α → Prop}

lemma answers_allocate {size : UInt32} (hsize : size.toNat < 2 ^ 31) :
    Supplies (fun s' ptr => ∃ bytes : Bytes, bytes.length = size.toNat ∧
      s' = { s with block := some (ptr, bytes) }) (allocate size) s := by
  refine Supplies.callOk fun s' ans hans hserves => ?_
  obtain ⟨ptr, hok, hptr⟩ := hserves hsize
  subst hok
  refine ⟨ptr, rfl, Supplies.ensure hptr (Supplies.pure ?_)⟩
  have hblock : if 0 < ptr then _ else _ := hans
  rw [if_pos hptr] at hblock
  exact hblock.2.2

lemma answers_runAndFree {ptr : Int32} {f : Int32 → GuestM α}
    (hf : Supplies (fun s' a => R { s' with block := none } a) (f ptr) s) :
    Supplies R (runAndFree ptr f) s := by
  have hattempt : Supplies (fun s' result => ∃ a, result = .ok a ∧ R { s' with block := none } a)
      ((f ptr).attempt : GuestM (Except BackendError α)) s :=
    safe_attempt.mpr (safe_mono hf (fun _ => id) fun s' x _ ⟨a, hok, ha⟩ => ⟨x, rfl, a, hok, ha⟩)
  refine hattempt.bind fun s' result ⟨a, hok, ha⟩ => Supplies.call fun s'' freed hans hserves => ?_
  have hs'' : s'' = { s' with block := none } := hans
  have hfreed : freed = .ok () := hserves
  subst hs'' hfreed hok
  exact Supplies.pure ha

lemma answers_reset : Supplies (fun s' _ => s'.held = s.held) reset s := by
  refine Supplies.callOk fun s₁ ans hans hserves => ?_
  obtain ⟨code, hok⟩ := hserves
  subst hok
  obtain ⟨hcode, hs₁⟩ := hans
  refine ⟨code, rfl, Supplies.ensure hcode (Supplies.callOk fun s₂ ans hans hserves => ?_)⟩
  obtain ⟨code', hok⟩ := hserves
  subst hok
  obtain ⟨hcode', hs₂⟩ := hans
  refine ⟨code', rfl, Supplies.lastEnsure hcode' ?_⟩
  rw [hs₂, hs₁]

lemma answers_pushInput (hlen : payload.length < 2 ^ 31) :
    Supplies (fun s' _ => s'.held = s.held) (pushInput payload) s := by
  unfold pushInput
  by_cases hempty : payload = []
  · rw [if_pos hempty]
    exact Supplies.pure rfl
  rw [if_neg hempty]
  have hsize : (UInt32.ofNat payload.length).toNat = payload.length := by
    rw [UInt32.toNat_ofNat']
    omega
  have hpushed : Supplies (fun s' written => written = Int32.ofNat payload.length ∧
      s'.held = s.held) (withBytes payload fun ptr => do
        orContext "pgl_wasix_input_write"
          (← Prog.perform (.inputWrite ptr (UInt32.ofNat payload.length)))) s := by
    refine (answers_allocate (by omega)).bind fun s₁ ptr ⟨b₀, hb₀, hs₁⟩ => ?_
    refine answers_runAndFree (Supplies.callOk fun s₂ ans hans hserves => ?_)
    have hok : ans = .ok () := hserves (by omega)
    subst hok
    have hs₂ := hans.2 b₀ (by rw [hs₁]) (by omega)
    refine ⟨(), rfl, Supplies.lastOk fun s₃ ans hans hserves => ?_⟩
    obtain ⟨written, hok, hwritten⟩ := hserves
    subst hok
    obtain ⟨_, _, _, _, _, hs₃⟩ := hans
    refine ⟨written, rfl, ?_, ?_⟩
    · rw [hwritten, hsize]
    · rw [hs₃, hs₂, hs₁]
  exact hpushed.bind fun s' written ⟨hwritten, hheld⟩ => Supplies.lastEnsure hwritten hheld

lemma nonneg_ofNat {n : ℕ} (h : n < 2 ^ 31) : 0 ≤ Int32.ofNat n := by
  rw [Int32.le_iff_toInt_le, Int32.toInt_ofNat_of_lt h]
  exact Int.natCast_nonneg n

lemma pos_ofNat_iff {n : ℕ} (h : n < 2 ^ 31) : 0 < Int32.ofNat n ↔ 0 < n := by
  rw [Int32.lt_iff_toInt_lt, Int32.toInt_ofNat_of_lt h]
  exact Int.natCast_pos

/-- Output that is short enough is taken. -/
lemma answers_takeOutput (hsmall : s.io.bridge.outputBuf.length < 2 ^ 31) :
    Supplies (fun s' _ => s'.pending = s.pending ∧ s'.io.bridge.outputBuf = []) takeOutput s := by
  refine Supplies.callOk fun s₁ ans hans hserves => ?_
  obtain ⟨len, hok⟩ := hserves
  subst hok
  obtain ⟨hs₁, hlen⟩ := hans
  subst hs₁
  refine ⟨len, rfl, Supplies.ensure (hlen ▸ nonneg_ofNat hsmall) ?_⟩
  by_cases hzero : len = 0
  · rw [if_pos hzero]
    refine Supplies.pure ⟨rfl, List.eq_nil_of_length_eq_zero ?_⟩
    exact eq_zero_of_ofNat (by omega) (hlen.symm.trans hzero)
  rw [if_neg hzero]
  have hsize : len.toUInt32.toNat = s₁.io.bridge.outputBuf.length := by
    rw [hlen, Int32.toUInt32_ofNat', UInt32.toNat_ofNat']
    omega
  have hread : Supplies (fun s' _ => s' = { s₁ with block := none })
      (withAllocation len (readOutput len)) s₁ := by
    refine (answers_allocate (by omega)).bind fun s₂ ptr ⟨b₀, hb₀, hs₂⟩ => ?_
    refine answers_runAndFree (Supplies.callOk fun s₃ ans hans hserves => ?_)
    obtain ⟨read, hok⟩ := hserves
    subst hok
    obtain ⟨hcount, hs₃⟩ := hans b₀ (by rw [hs₂]) hb₀
    have hio : s₂.io = s₁.io := by rw [hs₂]
    -- what is read is the whole output
    have hall : read = len := by
      rw [hcount, hio, hsize, List.take_length, hlen]
    refine ⟨read, rfl, Supplies.ensure ?_ (Supplies.lastOk fun s₄ ans hans hserves => ?_)⟩
    · rw [hall]
      exact ⟨hlen ▸ nonneg_ofNat hsmall, Int32.le_refl len⟩
    · obtain ⟨output, hok⟩ := hserves
      subst hok
      refine ⟨output, rfl, ?_⟩
      rw [hans.1, hs₃, hs₂]
  refine hread.bind fun s₂ output hs₂ => Supplies.callOk fun s₃ ans hans hserves => ?_
  obtain ⟨code, hok⟩ := hserves
  subst hok hs₂
  refine ⟨code, rfl, Supplies.ensure hans.1 (Supplies.pure ?_)⟩
  rw [hans.2]
  exact ⟨rfl, rfl⟩

end Io

/-! ## Exchanges -/

section Exchange

open GuestM GuestState WasixPgliteIo

variable {s : GuestState} {payload : Bytes}

lemma answers_protocolInputRemaining (hsmall : s.pending < 2 ^ 31) :
    Supplies (fun s' remaining => s' = s ∧ (0 < remaining ↔ 0 < s.pending))
      protocolInputRemaining s := by
  have hpending : s.pending = s.io.bridge.unread.length + s.held := rfl
  refine Supplies.bind (Q := fun s' available => s' = s ∧
    available = Int32.ofNat s.io.bridge.unread.length) ?_ ?_
  · refine Supplies.callOk fun s₁ ans hans hserves => ?_
    obtain ⟨available, hok⟩ := hserves
    subst hok
    obtain ⟨hs₁, hcount⟩ := hans
    rw [Bridge.inputAvailable_eq] at hcount
    refine ⟨available, rfl, Supplies.ensure ?_ (Supplies.pure ⟨hs₁, hcount⟩)⟩
    rw [hcount]
    exact nonneg_ofNat (by omega)
  · intro s₁ available ⟨hs₁, hcount⟩
    subst hs₁ hcount
    have hpos := pos_ofNat_iff (n := s₁.io.bridge.unread.length) (by omega)
    by_cases hsome : 0 < Int32.ofNat s₁.io.bridge.unread.length
    · rw [if_pos hsome]
      refine Supplies.pure ⟨rfl, iff_of_true hsome ?_⟩
      have := hpos.mp hsome
      omega
    · rw [if_neg hsome]
      refine Supplies.lastOk fun s₂ ans hans hserves => ⟨Int32.ofNat s₁.held, hserves, hans, ?_⟩
      have hheld := pos_ofNat_iff (n := s₁.held) (by omega)
      have hnone : ¬ 0 < s₁.io.bridge.unread.length := fun h => hsome (hpos.mpr h)
      rw [hheld]
      omega

/-- One call of `main_loop` for each five bytes is enough to use up the input. -/
lemma answers_drainInput (payloadLen left : ℕ) (hsmall : s.pending < 2 ^ 31)
    (hleft : s.pending ≤ 5 * left) :
    Supplies (fun s' _ => s'.pending = 0) (drainInput payloadLen left) s := by
  induction left generalizing s with
  | zero =>
    refine (answers_protocolInputRemaining hsmall).bind fun s' remaining ⟨hs', hsome⟩ => ?_
    subst hs'
    exact Supplies.lastEnsure (by rw [hsome]; omega) (by omega)
  | succ left ih =>
    refine (answers_protocolInputRemaining hsmall).bind fun s' remaining ⟨hs', hsome⟩ => ?_
    subst hs'
    by_cases hremaining : 0 < remaining
    · rw [if_pos hremaining]
      have hpos := hsome.mp hremaining
      refine Supplies.call fun s₁ ended hans hserves => ?_
      have hless : s₁.pending ≤ 5 * left ∧ s₁.pending < 2 ^ 31 := by
        have := hserves.1
        omega
      -- recovering from an error takes nothing back
      refine Supplies.bind (Q := fun s₂ _ => s₂.pending ≤ s₁.pending) ?_ fun s₂ _ hs₂ =>
        ih (by omega) (by omega)
      unfold GuestM.when
      split
      · exact Supplies.lastOk fun s₂ ans _ hserves => ⟨(), hserves.1, hserves.2.1⟩
      · exact Supplies.pure le_rfl
    · rw [if_neg hremaining]
      refine Supplies.pure ?_
      have hnone : ¬ 0 < s'.pending := fun h => hremaining (hsome.mpr h)
      omega

lemma le_maxAttempts (payloadLen : ℕ) : payloadLen ≤ 5 * maxAttempts payloadLen := by
  unfold maxAttempts
  omega

lemma answers_recoverProtocolError {payloadLen : ℕ} (hsmall : s.pending < 2 ^ 31)
    (hle : s.pending ≤ payloadLen) :
    Supplies (fun s' _ => s'.pending = 0) (recoverProtocolError payloadLen) s := by
  refine Supplies.callOk fun s₁ ans _ hserves => ⟨(), hserves.1, ?_⟩
  have hless := hserves.2.1
  have hattempts := le_maxAttempts payloadLen
  exact answers_drainInput _ _ (by omega) (by omega)

/-- **The attempts are enough**, however the calls of `main_loop` end. -/
lemma answers_dispatchInput {payloadLen : ℕ} (left : ℕ) (recovered : Bool)
    (hsmall : s.pending < 2 ^ 31) (hle : s.pending ≤ payloadLen) (hleft : s.pending ≤ 5 * left) :
    Supplies (fun s' _ => s'.pending = 0) (dispatchInput payloadLen left recovered) s := by
  induction left generalizing s recovered with
  | zero =>
    refine (answers_protocolInputRemaining hsmall).bind fun s' remaining ⟨hs', hsome⟩ => ?_
    subst hs'
    exact Supplies.ensure (by rw [hsome]; omega) (Supplies.pure (by omega))
  | succ left ih =>
    refine (answers_protocolInputRemaining hsmall).bind fun s' remaining ⟨hs', hsome⟩ => ?_
    subst hs'
    by_cases hremaining : 0 < remaining
    · rw [if_pos hremaining]
      have hpos := hsome.mp hremaining
      refine Supplies.call fun s₁ ended hans hserves => ?_
      have hless : s₁.pending ≤ 5 * left ∧ s₁.pending ≤ s'.pending := by
        have := hserves.1
        omega
      by_cases hended : ended = .returned
      · rw [if_pos hended]
        exact ih recovered (by omega) (by omega) (by omega)
      · rw [if_neg hended]
        refine (answers_recoverProtocolError (by omega) (by omega)).bind fun s₂ _ hs₂ => ?_
        exact ih true (by omega) (by omega) (by omega)
    · rw [if_neg hremaining]
      refine Supplies.pure ?_
      have hnone : ¬ 0 < s'.pending := fun h => hremaining (hsome.mpr h)
      omega

lemma answers_recoverNonTrappingProtocolError :
    Supplies (fun s' _ => s'.pending ≤ s.pending) recoverNonTrappingProtocolError s := by
  refine Supplies.callOk fun s₁ _ _ hserves => ⟨(), hserves.1, ?_⟩
  have h₁ := hserves.2.1
  refine Supplies.callOk fun s₂ _ _ hserves => ⟨(), hserves.1, ?_⟩
  have h₂ := hserves.2.1
  refine Supplies.callOk fun s₃ _ _ hserves => ⟨(), hserves.1, ?_⟩
  have h₃ := hserves.2.1
  refine (answers_takeOutput hserves.2.2).bind fun s₄ _ ⟨h₄, _⟩ => Supplies.pure ?_
  omega

/-- **An exchange succeeds**, and leaves a backend that holds nothing. -/
lemma answers_sendProtocolInner (h : s.Buffered) (hheld : s.held = 0)
    (hlen : payload.length < 2 ^ 31) :
    Supplies (fun s' output => s'.held = 0 ∧ Exchanged s payload output s')
      (sendProtocolInner payload) s := by
  refine Supplies.mono (Q := fun s' output => s'.pending = 0 ∧ Exchanged s payload output s')
    (Supplies.and_gives ?_ (gives_sendProtocolInner h payload)) ?_
  · refine Supplies.callOk fun s₀ ans hans hserves => ⟨(), hserves, ?_⟩
    have hs₀ : s₀ = s := hans
    subst hs₀
    refine (answers_reset.and_gives (gives_reset h)).bind fun s₁ _ ⟨hheld₁, h₁, hbuf, hoff, _⟩ => ?_
    refine ((answers_pushInput hlen).and_gives (gives_pushInput h₁ hbuf hoff)).bind
      fun s₂ _ ⟨hheld₂, h₂, _⟩ => ?_
    have hpending : s₂.pending ≤ payload.length := by
      have := h₂.unread_le
      unfold pending
      omega
    have hattempts := le_maxAttempts payload.length
    refine (answers_dispatchInput _ false (by omega) hpending (by omega)).bind
      fun s₃ recovered h₃ => ?_
    refine Supplies.callOk fun s₄ _ _ hserves => ⟨(), hserves.1, ?_⟩
    have h₄ := hserves.2.1
    refine Supplies.callOk fun s₅ _ _ hserves => ⟨(), hserves.1, ?_⟩
    have h₅ := hserves.2.1
    have hsmall := hserves.2.2
    refine Supplies.bind (Q := fun s' _ => s'.pending = 0) ?_ fun s₆ output h₆ => ?_
    · refine safe_mapErr.mpr (safe_mono (answers_takeOutput hsmall) (fun _ => id) ?_)
      rintro s' x - ⟨output, rfl, hsame, -⟩
      exact ⟨output, rfl, by omega⟩
    refine Supplies.bind (Q := fun s' _ => s'.pending = 0) ?_ fun s₇ _ h₇ => ?_
    · unfold GuestM.when
      split
      · exact answers_recoverNonTrappingProtocolError.mono fun s' _ hs' => by omega
      · exact Supplies.pure h₆
    refine Supplies.call fun s₈ recorded hans hserves => ?_
    have hs₈ : s₈ = s₇ := hans
    have hrecorded : recorded = .ok () := hserves
    subst hrecorded
    rw [hs₈]
    exact Supplies.pure h₇
  · rintro s' output ⟨hpending, hexchanged⟩
    refine ⟨?_, hexchanged⟩
    unfold pending at hpending
    omega

/-- **Exchanges succeed.** In any run over any messages shorter than 2 GiB, with a backend that does
at every call what `GuestState.Serves` says, every message is answered; the backend has received
the messages, in order, and nothing else. Where no answer contains an error, the answers are what
it has sent. -/
theorem exchanges_succeed {s s' : GuestState} (payloads : List Bytes)
    (hlen : ∀ payload ∈ payloads, payload.length < 2 ^ 31) (h : s.Buffered) (hheld : s.held = 0)
    {x : Except BackendError (List (Except BackendError Bytes))}
    (hrun : Runs servingEffects (serveRequests (payloads.map .protocol)) s s' x) :
    ∃ outputs : List Bytes, x = .ok (outputs.map .ok) ∧ outputs.length = payloads.length ∧
      s'.received = s.received ++ payloads.flatten ∧
      ((∀ output ∈ outputs, containsError output = false) →
        s'.sent = s.sent ++ outputs.flatten) := by
  induction payloads generalizing s x with
  | nil =>
    cases hrun
    exact ⟨[], rfl, rfl, by simp, by simp⟩
  | cons payload payloads ih =>
    have hfirst := answers_sendProtocolInner h hheld (hlen payload List.mem_cons_self)
    have hrest : ∀ p ∈ payloads, p.length < 2 ^ 31 := fun p hp =>
      hlen p (List.mem_cons_of_mem payload hp)
    rcases hrun.of_bind with ⟨result, mid, hserved, hothers⟩ | ⟨err, hserved, -⟩
    · obtain ⟨result', hresult, hserved⟩ := hserved.of_attempt
      cases hresult
      obtain ⟨output, houtput, hheld', hexchanged⟩ := hfirst.of_runs hserved
      subst houtput
      obtain ⟨dropped, hsent, hdropped⟩ := hexchanged.sent
      rcases hothers.of_bind with ⟨results, last, hrun', hend⟩ | ⟨err, hrun', -⟩
      · cases hend
        obtain ⟨outputs, hresults, hcount, hreceived, hclean⟩ :=
          ih hrest hexchanged.buffered hheld' hrun'
        cases hresults
        refine ⟨output :: outputs, rfl, ?_, ?_, fun hno => ?_⟩
        · rw [List.length_cons, List.length_cons, hcount]
        · rw [hreceived, hexchanged.received, List.flatten_cons, List.append_assoc]
        · -- nothing is dropped behind an answer without an error
          have hnone : dropped = [] := by
            by_contra hne
            have herror := hdropped hne
            rw [hno output List.mem_cons_self] at herror
            cases herror
          rw [hclean fun o ho => hno o (List.mem_cons_of_mem output ho), hsent, hnone,
            List.append_nil, List.flatten_cons, List.append_assoc]
      · obtain ⟨_, hresults, _⟩ := ih hrest hexchanged.buffered hheld' hrun'
        cases hresults
    · obtain ⟨_, hresult, _⟩ := hserved.of_attempt
      cases hresult

/-- Two messages: a query, and a query that is cut off. -/
def readyPayloads : List Bytes :=
  [[81, 0, 0, 0, 13, 83, 69, 76, 69, 67, 84, 32, 49, 0], [81, 0, 0]]

/-- What a backend that answers `ReadyForQuery` is left with, and the results. -/
def servedPayloads : GuestState × Except BackendError (List (Except BackendError Bytes)) :=
  (serveRequests (readyPayloads.map .protocol)).runWith readyBackend .initial

theorem exchanges_succeed_ready :
    ∃ outputs : List Bytes, servedPayloads.2 = .ok (outputs.map .ok) ∧
      outputs.length = readyPayloads.length ∧
      servedPayloads.1.received = [] ++ readyPayloads.flatten ∧
      ((∀ output ∈ outputs, containsError output = false) →
        servedPayloads.1.sent = [] ++ outputs.flatten) :=
  exchanges_succeed readyPayloads (by decide) ready_initial.buffered rfl
    (runs_runWith (E := servingEffects) (fun _ op h => h.readyBackend op) _ ready_initial)

end Exchange

end PgliteOxide.Pglite
