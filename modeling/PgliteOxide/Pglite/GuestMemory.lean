import PgliteOxide.Pglite.GuestCalls

/-!
# Guest memory

The host is lent one block of guest memory at a time, touches nothing else, calls no code of
PostgreSQL while it has the block, and gives it back exactly once: whatever the guest answers, on
every path and over every sequence of requests (`blocks_given_back`).
-/

namespace PgliteOxide.Pglite

open Lib Prog

/-- A block of guest memory: its address and its size. -/
abbrev Block := Int32 × UInt32

/-- The rules for blocks. Bytes that are longer than the whole memory of a 32-bit guest may be
handed to a write, which refuses them. -/
def blockCustody : Custody GuestCall GuestCall.Answer (Option Block) where
  may owned
    | .free ptr => ∃ size, owned = some (ptr, size)
    | .memoryWrite ptr bytes =>
      ∃ size, owned = some (ptr, size) ∧ (bytes.length = size.toNat ∨ 2 ^ 32 ≤ bytes.length)
    | .memoryRead ptr length => ∃ size, owned = some (ptr, size) ∧ length ≤ size.toNat
    | .inputWrite ptr length => owned = some (ptr, length)
    | .outputRead ptr maxLength => owned = some (ptr, maxLength)
    | _ => owned = none
  after owned
    | .malloc size, .ok ptr => if 0 < ptr then some (ptr, size) else owned
    | .free _, _ => none
    | _, _ => owned

/-- The program leaves its owner with what it had. -/
def Settles {α : Type} (owned : Option Block) (p : GuestM α) : Prop :=
  Owes blockCustody (fun owned' _ => owned' = owned) owned p

section Rules

variable {α β : Type} {owned : Option Block} {p : GuestM α} {f : α → GuestM β}

lemma Settles.bind (hp : Settles owned p) (hf : ∀ a, Settles owned (f a)) :
    Settles owned (p >>= f) :=
  Owes.bind hp (fun _ a h => h ▸ hf a) fun _ _ h => h

lemma settles_pure (a : α) : Settles owned (pure a : GuestM α) := rfl

lemma settles_bail (text : String) : Settles owned (GuestM.bail text : GuestM α) := rfl

lemma settles_orContext (text : String) (x : Except String α) :
    Settles owned (GuestM.orContext text x) := by
  cases x <;> rfl

lemma settles_ensure (c : Prop) [Decidable c] (text : String) :
    Settles owned (GuestM.ensure c text) := Owes.ite (fun _ => rfl) fun _ => rfl

lemma Settles.when {c : Prop} [Decidable c] {p : GuestM Unit} (hp : Settles owned p) :
    Settles owned (GuestM.when c p) := Owes.ite (fun _ => hp) fun _ => rfl

lemma Settles.ite {c : Prop} [Decidable c] {q : GuestM α} (hp : Settles owned p)
    (hq : Settles owned q) : Settles owned (if c then p else q) :=
  Owes.ite (fun _ => hp) fun _ => hq

/-- A call that may be made and changes nothing. -/
lemma settles_perform (op : GuestCall) (hmay : blockCustody.may owned op)
    (hafter : ∀ ans, blockCustody.after owned op ans = owned) :
    Settles owned (perform op : GuestM op.Answer) :=
  ⟨hmay, hafter⟩

/-- Such a call, with a context. -/
lemma settles_call {text : String} (op : GuestCall) {g : op.Answer → Except String α}
    (hmay : blockCustody.may owned op) (hafter : ∀ ans, blockCustody.after owned op ans = owned) :
    Settles owned (perform op >>= fun ans => GuestM.orContext text (g ans)) :=
  (settles_perform op hmay hafter).bind fun _ => settles_orContext _ _

lemma settles_context {text : String} (hp : Settles owned p) :
    Settles owned (GuestM.context text p) := owes_mapErr.mpr hp

lemma settles_attempt (hp : Settles owned p) :
    Settles owned (p.attempt : GuestM (Except BackendError α)) := owes_attempt.mpr hp

end Rules

/-! ## `GuestAllocator` -/

section Allocator

open GuestAllocator

variable {α : Type}

/-- What is allocated is owned; nothing is owned after a failure. -/
lemma owes_allocate (size : UInt32) :
    Owes blockCustody (fun owned x => owned = x.toOption.map (·, size)) none (allocate size) := by
  refine ⟨rfl, fun ans => ?_⟩
  cases ans with
  | error trap => rfl
  | ok ptr =>
    show Owes _ _ (if 0 < ptr then some (ptr, size) else none) _
    by_cases hptr : 0 < ptr
    · rw [if_pos hptr]
      show Owes _ _ _ ((GuestM.ensure (0 < ptr) _) >>= _)
      rw [GuestM.ensure, if_pos hptr]
      rfl
    · rw [if_neg hptr]
      show Owes _ _ _ ((GuestM.ensure (0 < ptr) _) >>= _)
      rw [GuestM.ensure, if_neg hptr]
      rfl

/-- The block is given back on every path. -/
lemma owes_runAndFree {ptr : Int32} {size : UInt32} {f : Int32 → GuestM α}
    (hf : Settles (some (ptr, size)) (f ptr)) :
    Owes blockCustody (fun owned _ => owned = none) (some (ptr, size)) (runAndFree ptr f) := by
  have hattempt : Owes blockCustody
      (fun owned x => owned = some (ptr, size) ∧ ∃ result : Except BackendError α, x = .ok result)
      (some (ptr, size)) ((f ptr).attempt : GuestM (Except BackendError α)) :=
    owes_attempt.mpr (hf.mono fun _ _ howned => ⟨howned, _, rfl⟩)
  refine Owes.bind hattempt (fun owned result howned => ?_) fun _ _ h => nomatch h.2
  rw [howned.1]
  refine ⟨⟨size, rfl⟩, fun freed => ?_⟩
  -- nothing is owned any more, and what follows makes no call
  cases result <;> cases freed <;> rfl

lemma settles_withBytes {bytes : Bytes} {f : Int32 → GuestM α}
    (hf : ∀ ptr, Settles (some (ptr, UInt32.ofNat bytes.length)) (f ptr)) :
    Settles none (withBytes bytes f) := by
  have hsize : bytes.length = (UInt32.ofNat bytes.length).toNat ∨ 2 ^ 32 ≤ bytes.length := by
    rw [UInt32.toNat_ofNat']
    omega
  refine Owes.bind (owes_allocate _) (fun owned ptr howned => ?_) fun owned _ howned => howned
  rw [howned]
  refine owes_runAndFree (Settles.bind ?_ fun _ => (settles_orContext _ _).bind fun _ => hf ptr)
  exact settles_perform (.memoryWrite ptr bytes) ⟨_, rfl, hsize⟩ fun _ => rfl

lemma settles_withAllocation {length : Int32} {f : Int32 → GuestM α}
    (hf : ∀ ptr, Settles (some (ptr, length.toUInt32)) (f ptr)) :
    Settles none (withAllocation length f) := by
  refine Owes.bind (owes_allocate _) (fun owned ptr howned => ?_) fun owned _ howned => howned
  subst howned
  exact owes_runAndFree (hf ptr)

end Allocator

/-! ## `WasixPgliteIo` -/

section Io

open WasixPgliteIo

lemma settles_reset : Settles none reset := by
  unfold reset
  refine Settles.bind (settles_perform .inputReset rfl fun _ => rfl) fun _ => ?_
  refine Settles.bind (settles_orContext _ _) fun _ => Settles.bind (settles_ensure _ _) fun _ => ?_
  refine Settles.bind (settles_perform .outputReset rfl fun _ => rfl) fun _ => ?_
  exact Settles.bind (settles_orContext _ _) fun _ => settles_ensure _ _

lemma settles_pushInput (bytes : Bytes) : Settles none (pushInput bytes) := by
  unfold pushInput
  refine Settles.ite (settles_pure _) (Settles.bind (settles_withBytes fun ptr => ?_) fun _ =>
    settles_ensure _ _)
  -- the bridge is given the block, with its size
  exact settles_call (.inputWrite ptr (UInt32.ofNat bytes.length)) rfl fun _ => rfl

lemma settles_available : Settles none available := by
  unfold available
  refine Settles.bind (settles_perform .inputAvailable rfl fun _ => rfl) fun _ => ?_
  exact Settles.bind (settles_orContext _ _) fun _ => Settles.bind (settles_ensure _ _) fun _ =>
    settles_pure _

/-- What is read from the block is no longer than the block. -/
lemma settles_readOutput (len ptr : Int32) :
    Settles (some (ptr, len.toUInt32)) (readOutput len ptr) := by
  unfold readOutput
  refine Settles.bind (settles_perform (.outputRead ptr len.toUInt32) rfl fun _ => rfl) fun _ => ?_
  refine Settles.bind (settles_orContext _ _) fun read => ?_
  unfold GuestM.ensure
  by_cases hread : 0 ≤ read ∧ read ≤ len
  · rw [if_pos hread]
    have hlen : len.toUInt32.toNat = len.toInt.toNat :=
      Int32.toNat_toUInt32_of_le (Int32.le_trans hread.1 hread.2)
    have hle : read.toInt.toNat ≤ len.toUInt32.toNat := by
      have := Int32.le_iff_toInt_le.mp hread.2
      omega
    exact settles_call (.memoryRead ptr read.toInt.toNat) ⟨_, rfl, hle⟩ fun _ => rfl
  · rw [if_neg hread]
    exact settles_bail _

lemma settles_takeOutput : Settles none takeOutput := by
  unfold takeOutput
  refine Settles.bind (settles_perform .outputLen rfl fun _ => rfl) fun _ => ?_
  refine Settles.bind (settles_orContext _ _) fun len => Settles.bind (settles_ensure _ _) fun _ => ?_
  refine Settles.ite (settles_pure _) ?_
  refine Settles.bind (settles_withAllocation (settles_readOutput len)) fun _ => ?_
  refine Settles.bind (settles_perform .outputReset rfl fun _ => rfl) fun _ => ?_
  exact Settles.bind (settles_orContext _ _) fun _ => Settles.bind (settles_ensure _ _) fun _ =>
    settles_pure _

end Io

/-! ## Exchanges -/

section Exchange

open WasixPgliteIo

lemma settles_protocolInputRemaining : Settles none protocolInputRemaining := by
  unfold protocolInputRemaining
  refine Settles.bind settles_available fun _ => Settles.ite (settles_pure _) ?_
  exact settles_call .pqBufferRemainingData rfl fun _ => rfl

lemma settles_drainInput (payloadLen left : ℕ) : Settles none (drainInput payloadLen left) := by
  induction left with
  | zero => exact Settles.bind settles_protocolInputRemaining fun _ => settles_ensure _ _
  | succ left ih =>
    unfold drainInput
    refine Settles.bind settles_protocolInputRemaining fun _ => Settles.ite ?_ (settles_pure _)
    refine Settles.bind (settles_perform .mainLoop rfl fun _ => rfl) fun _ => ?_
    -- the error is recovered from, or there was none
    refine Settles.bind (Settles.when ?_) fun _ => ih
    exact settles_call .recoverError rfl fun _ => rfl

lemma settles_recoverProtocolError (payloadLen : ℕ) :
    Settles none (recoverProtocolError payloadLen) := by
  unfold recoverProtocolError
  refine Settles.bind (settles_perform .recoverError rfl fun _ => rfl) fun _ => ?_
  exact Settles.bind (settles_orContext _ _) fun _ => settles_drainInput _ _

lemma settles_dispatchInput (payloadLen left : ℕ) (recovered : Bool) :
    Settles none (dispatchInput payloadLen left recovered) := by
  induction left generalizing recovered with
  | zero =>
    refine Settles.bind settles_protocolInputRemaining fun _ => ?_
    exact Settles.bind (settles_ensure _ _) fun _ => settles_pure _
  | succ left ih =>
    unfold dispatchInput
    refine Settles.bind settles_protocolInputRemaining fun _ => Settles.ite ?_ (settles_pure _)
    refine Settles.bind (settles_perform .mainLoop rfl fun _ => rfl) fun _ => ?_
    exact Settles.ite (ih _) (Settles.bind (settles_recoverProtocolError _) fun _ => ih _)

lemma settles_recoverNonTrappingProtocolError : Settles none recoverNonTrappingProtocolError := by
  unfold recoverNonTrappingProtocolError
  refine Settles.bind (settles_perform .recoverError rfl fun _ => rfl) fun _ => ?_
  refine Settles.bind (settles_orContext _ _) fun _ => ?_
  refine Settles.bind (settles_perform .sendReady rfl fun _ => rfl) fun _ => ?_
  refine Settles.bind (settles_orContext _ _) fun _ => ?_
  refine Settles.bind (settles_perform .pqFlush rfl fun _ => rfl) fun _ => ?_
  refine Settles.bind (settles_orContext _ _) fun _ => ?_
  exact Settles.bind settles_takeOutput fun _ => settles_pure _

lemma settles_recordBackendCTimings : Settles none recordBackendCTimings := by
  refine Settles.bind (settles_perform .recordTimings rfl fun _ => rfl) fun recorded => ?_
  cases recorded with
  | ok _ => exact settles_pure _
  | error id => exact settles_bail _

lemma settles_sendProtocolInner (payload : Bytes) : Settles none (sendProtocolInner payload) := by
  unfold sendProtocolInner
  refine Settles.bind (settles_perform .resetTimings rfl fun _ => rfl) fun _ => ?_
  refine Settles.bind (settles_orContext _ _) fun _ => Settles.bind settles_reset fun _ => ?_
  refine Settles.bind (settles_pushInput payload) fun _ => ?_
  refine Settles.bind (settles_dispatchInput _ _ _) fun recovered => ?_
  refine Settles.bind (settles_perform .sendReady rfl fun _ => rfl) fun _ => ?_
  refine Settles.bind (settles_orContext _ _) fun _ => ?_
  refine Settles.bind (settles_perform .pqFlush rfl fun _ => rfl) fun _ => ?_
  refine Settles.bind (settles_orContext _ _) fun _ => ?_
  refine Settles.bind (settles_context settles_takeOutput) fun _ => ?_
  refine Settles.bind (Settles.when settles_recoverNonTrappingProtocolError) fun _ => ?_
  exact Settles.bind settles_recordBackendCTimings fun _ => settles_pure _

lemma settles_processStartupPacket (startup : Bytes) :
    Settles none (processStartupPacket startup) := by
  unfold processStartupPacket
  refine Settles.bind settles_reset fun _ => Settles.bind (settles_pushInput startup) fun _ => ?_
  refine Settles.bind (settles_perform .getPort rfl fun _ => rfl) fun _ => ?_
  refine Settles.bind (settles_orContext _ _) fun port => Settles.bind (settles_ensure _ _) fun _ => ?_
  refine Settles.bind (settles_perform (.processStartup port) rfl fun _ => rfl) fun _ => ?_
  refine Settles.bind (settles_orContext _ _) fun _ => Settles.ite ?_ ?_
  · refine Settles.bind (settles_perform .pqFlush rfl fun _ => rfl) fun _ => ?_
    exact Settles.bind settles_takeOutput fun _ => settles_pure _
  · refine Settles.bind (settles_perform .sendConnData rfl fun _ => rfl) fun _ => ?_
    refine Settles.bind (settles_orContext _ _) fun _ => ?_
    refine Settles.bind (settles_perform .pqFlush rfl fun _ => rfl) fun _ => ?_
    refine Settles.bind (settles_orContext _ _) fun _ => ?_
    exact Settles.bind settles_takeOutput fun _ => settles_pure _

lemma settles_serveRequests (requests : List GuestRequest) :
    Settles none (serveRequests requests) := by
  induction requests with
  | nil => exact settles_pure _
  | cons request requests ih =>
    refine Settles.bind (settles_attempt ?_) fun _ => Settles.bind ih fun _ => settles_pure _
    cases request with
    | startup packet => exact Settles.bind (settles_processStartupPacket _) fun _ => settles_pure _
    | protocol payload => exact settles_sendProtocolInner payload

end Exchange

/-! ## Counting blocks -/

/-- The address of the block a call lends to the host. -/
def lentBy : Lib.Event GuestCall GuestCall.Answer → Option Int32
  | ⟨.malloc _, .ok ptr⟩ => if 0 < ptr then some ptr else none
  | _ => none

/-- The address of the block a call gives back. -/
def returnedBy : Lib.Event GuestCall GuestCall.Answer → Option Int32
  | ⟨.free ptr, _⟩ => some ptr
  | _ => none

/-- The counter `allocations`. -/
def allocationCount (tr : List (Lib.Event GuestCall GuestCall.Answer)) : ℕ :=
  (tr.filterMap lentBy).length

/-- The counter `frees`: the calls that did not trap. -/
def freeCount (tr : List (Lib.Event GuestCall GuestCall.Answer)) : ℕ :=
  tr.countP fun
    | ⟨.free _, .ok ()⟩ => true
    | _ => false

/-- The calls of `free` that trapped. -/
def freeTraps (tr : List (Lib.Event GuestCall GuestCall.Answer)) : ℕ :=
  tr.countP fun
    | ⟨.free _, .error _⟩ => true
    | _ => false

/-- **Blocks are conserved** along the calls their owner may make: what was owned and what is lent
is what is returned and what is owned at the end. -/
lemma blocks_conserved {tr : List (Lib.Event GuestCall GuestCall.Answer)} {owned : Option Block}
    (hmay : ∀ before e after, tr = before ++ e :: after →
      blockCustody.may (held blockCustody owned before) e.op) :
    (owned.toList.map Prod.fst) ++ tr.filterMap lentBy =
      tr.filterMap returnedBy ++ (held blockCustody owned tr).toList.map Prod.fst := by
  induction tr generalizing owned with
  | nil => simp [held]
  | cons e tr ih =>
    have hfirst : blockCustody.may owned e.op := hmay [] e tr rfl
    have hrest := @ih (blockCustody.after owned e.op e.ans) fun before e' after heq =>
      hmay (e :: before) e' after (by rw [heq]; rfl)
    have hheld : held blockCustody owned (e :: tr) =
        held blockCustody (blockCustody.after owned e.op e.ans) tr := rfl
    rw [hheld]
    obtain ⟨op, ans⟩ := e
    cases op with
    | malloc size =>
      -- nothing is owned before the call
      have hnone : owned = none := hfirst
      subst hnone
      cases ans with
      | error trap => exact hrest
      | ok ptr =>
        by_cases hptr : 0 < ptr
        · have hafter : blockCustody.after none (.malloc size) (.ok ptr) = some (ptr, size) :=
            if_pos hptr
          have hlent : lentBy ⟨.malloc size, .ok ptr⟩ = some ptr := if_pos hptr
          rw [hafter] at hrest ⊢
          rw [List.filterMap_cons_some hlent]
          exact hrest
        · have hafter : blockCustody.after none (.malloc size) (.ok ptr) = none := if_neg hptr
          have hlent : lentBy ⟨.malloc size, .ok ptr⟩ = none := if_neg hptr
          rw [hafter] at hrest ⊢
          rw [List.filterMap_cons_none hlent]
          exact hrest
    | free ptr =>
      -- the block that is owned is the one given back
      obtain ⟨size, howned⟩ := hfirst
      subst howned
      exact congrArg (ptr :: ·) hrest
    | _ => exact hrest

/-- Each block that was given back was counted, or the guest trapped. -/
lemma returned_counted (tr : List (Lib.Event GuestCall GuestCall.Answer)) :
    (tr.filterMap returnedBy).length = freeCount tr + freeTraps tr := by
  induction tr with
  | nil => rfl
  | cons e tr ih =>
    obtain ⟨op, ans⟩ := e
    cases op with
    | free ptr =>
      cases ans with
      | ok _ =>
        have hfrees : freeCount (⟨.free ptr, .ok ()⟩ :: tr) = freeCount tr + 1 :=
          List.countP_cons_of_pos rfl
        have htraps : freeTraps (⟨.free ptr, .ok ()⟩ :: tr) = freeTraps tr :=
          List.countP_cons_of_neg (by simp)
        rw [hfrees, htraps]
        show (tr.filterMap returnedBy).length + 1 = _
        omega
      | error trap =>
        have hfrees : freeCount (⟨.free ptr, .error trap⟩ :: tr) = freeCount tr :=
          List.countP_cons_of_neg (by simp)
        have htraps : freeTraps (⟨.free ptr, .error trap⟩ :: tr) = freeTraps tr + 1 :=
          List.countP_cons_of_pos rfl
        rw [hfrees, htraps]
        show (tr.filterMap returnedBy).length + 1 = _
        omega
    | _ => exact ih

/-- **Every block is given back once.** However the guest answers, in any run over any requests:
each block is given back once, before the next is lent; each call of the host is one the rules
allow, so that no byte outside the block it has is touched, and no other export is called while it
has one; the counters differ by the calls of `free` that trapped. -/
theorem blocks_given_back (requests : List GuestRequest)
    {tr : List (Lib.Event GuestCall GuestCall.Answer)}
    {x : Except BackendError (List (Except BackendError Bytes))}
    (hrun : Exec (serveRequests requests) tr x) :
    tr.filterMap lentBy = tr.filterMap returnedBy ∧
    (∀ before e after, tr = before ++ e :: after →
      blockCustody.may (held blockCustody none before) e.op) ∧
    allocationCount tr = freeCount tr + freeTraps tr := by
  obtain ⟨hend, hmay⟩ := hrun.of_owes (settles_serveRequests requests)
  have hblocks := blocks_conserved hmay
  rw [hend] at hblocks
  have hlent : tr.filterMap lentBy = tr.filterMap returnedBy := by
    simpa using hblocks
  refine ⟨hlent, hmay, ?_⟩
  rw [allocationCount, hlent]
  exact returned_counted tr

/-- A backend that answers the query `SELECT 1` with `ReadyForQuery`; each block is at address
64. -/
def answerReady (history : List (Lib.Event GuestCall GuestCall.Answer)) :
    (op : GuestCall) → op.Answer
  | .malloc _ => .ok 64
  | .inputWrite _ length => .ok length.toInt32
  | .inputAvailable => .ok (if history.any (·.op == .mainLoop) then 0 else 14)
  | .outputLen | .outputRead .. => .ok 6
  | .memoryRead .. => .ok [90, 0, 0, 0, 5, 73]
  | .mainLoop => .returned
  | .getPort => .ok 8
  | .inputReset | .outputReset | .pqBufferRemainingData | .processStartup _ => .ok 0
  | .resetTimings | .recordTimings | .free _ | .memoryWrite .. | .recoverError | .sendReady
  | .pqFlush | .sendConnData => .ok ()

/-- A startup and a query: four blocks are lent and given back. -/
def readyRun : List (Lib.Event GuestCall GuestCall.Answer) ×
    Except BackendError (List (Except BackendError Bytes)) :=
  (serveRequests [.startup [0, 0, 0, 8, 0, 3, 0, 0],
    .protocol [81, 0, 0, 0, 13, 83, 69, 76, 69, 67, 84, 32, 49, 0]]).execWith answerReady []

theorem blocks_given_back_ready :
    readyRun.1.filterMap lentBy = readyRun.1.filterMap returnedBy ∧
    (∀ before e after, readyRun.1 = before ++ e :: after →
      blockCustody.may (held blockCustody none before) e.op) ∧
    allocationCount readyRun.1 = freeCount readyRun.1 + freeTraps readyRun.1 :=
  blocks_given_back _ (exec_execWith answerReady [] _)

example : readyRun.1.filterMap lentBy = [64, 64, 64, 64] := by decide +kernel

end PgliteOxide.Pglite
