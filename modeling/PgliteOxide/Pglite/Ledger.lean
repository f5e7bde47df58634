import PgliteOxide.Pglite.ProxyTheorems

/-!
# What is forwarded, and when

The ledger of a connection relates the bytes received to the payloads sent: the frames handled so
far, the groups of protocol frames that went out as one payload each, and the frames held in the
batch. From it: which messages may be held back while the proxy waits for the client
(`batch_holds_nothing_owed`), and what becomes of the bytes after a `Terminate` or a
`CancelRequest` (`closing_frame_is_last`).
-/

namespace PgliteOxide.Pglite

open Lib Prog

/-! ## The ledger -/

/-- A message that goes into the batch. -/
def isProtocol (message : Bytes) : Bool :=
  match classifyFrontendMessage message with
  | .ok .protocol => true
  | _ => false

lemma isProtocol_eq_true {message : Bytes} :
    isProtocol message = true ↔ classifyFrontendMessage message = .ok .protocol := by
  unfold isProtocol
  rcases classifyFrontendMessage message with _ | _ | _ | _ | _ | _ <;> simp

lemma isProtocol_eq_false {message : Bytes} {kind : FrontendFrameKind}
    (hkind : classifyFrontendMessage message = .ok kind) (hne : kind ≠ .protocol) :
    isProtocol message = false := by
  rw [← Bool.not_eq_true, isProtocol_eq_true, hkind]
  intro h
  cases h
  exact hne rfl

lemma ne_nil_of_isProtocol {message : Bytes} (h : isProtocol message = true) : message ≠ [] := by
  intro hnil
  rw [hnil] at h
  cases h

/-- The books of a connection in state `st`: of the frames received, `handled` are handled and
`rest` are not; the protocol frames among the handled ones went out in `groups` or are `held`. -/
structure Ledger (tr : Trace) (st : StreamState) (handled rest : List Bytes)
    (groups : List (List Bytes)) (held : List Bytes) : Prop where
  framed : frontendFraming.cut (received tr) = ⟨handled ++ rest, st.reader.buffer, none⟩
  batch : held.flatten = st.protocolBatch
  payloads : (footprint tr).payloads = groups.map List.flatten
  nonempty : ∀ group ∈ groups, group ≠ []
  protocol : groups.flatten ++ held = handled.filter isProtocol

namespace Ledger

variable {tr tr' : Trace} {st : StreamState} {message : Bytes} {handled rest held : List Bytes}
  {groups : List (List Bytes)}

lemma initial : Ledger [] .initial [] [] [] [] where
  framed := frontendFraming.cut_of_more rfl
  batch := rfl
  payloads := rfl
  nonempty := by simp
  protocol := rfl

lemma isProtocol_of_mem_held (h : Ledger tr st handled rest groups held) {m : Bytes}
    (hm : m ∈ held) : isProtocol m = true := by
  have hmem : m ∈ handled.filter isProtocol := by
    rw [← h.protocol]
    exact List.mem_append_right _ hm
  exact (List.mem_filter.mp hmem).2

lemma held_eq_nil_iff (h : Ledger tr st handled rest groups held) :
    held = [] ↔ st.protocolBatch = [] := by
  rw [← h.batch]
  constructor
  · intro hheld
    rw [hheld, List.flatten_nil]
  · intro hflat
    apply List.eq_nil_iff_forall_not_mem.mpr
    intro m hm
    exact ne_nil_of_isProtocol (h.isProtocol_of_mem_held hm) (List.flatten_eq_nil_iff.mp hflat m hm)

/-- What was sent and what is held are the protocol frames handled. -/
lemma payloads_append_batch (h : Ledger tr st handled rest groups held) :
    (footprint tr).payloads.flatten ++ st.protocolBatch = (handled.filter isProtocol).flatten := by
  rw [h.payloads, ← h.protocol, List.flatten_append, List.flatten_flatten, h.batch]

/-- The backend is not in the books. -/
lemma setBackend (h : Ledger tr st handled rest groups held) (backend : Option Handle) :
    Ledger tr { st with backend := backend } handled rest groups held :=
  ⟨h.framed, h.batch, h.payloads, h.nonempty, h.protocol⟩

/-- Nothing was read and nothing sent. -/
lemma quiet (h : Ledger tr st handled rest groups held) (tr' : Trace)
    (hreads : received tr' = []) (hpayloads : (footprint tr').payloads = []) :
    Ledger (tr ++ tr') st handled rest groups held where
  framed := by rw [received_append, hreads, List.append_nil, h.framed]
  batch := h.batch
  payloads := by
    rw [footprint_append, Footprint.payloads_append, hpayloads, List.append_nil, h.payloads]
  nonempty := h.nonempty
  protocol := h.protocol

/-- Bytes were read and cut. -/
lemma read (h : Ledger tr st handled [] groups held) {bytes : Bytes}
    {reader : FrontendFrameReader} {messages : List Bytes}
    (hfoot : footprint tr' = { reads := [bytes] })
    (hpush : st.reader.push bytes = (reader, .ok messages)) :
    Ledger (tr ++ tr') { st with reader := reader } handled messages groups held where
  framed := by
    have hframed := h.framed
    rw [List.append_nil] at hframed
    have hbytes : received tr' = bytes := by simp [received, hfoot]
    rw [received_append, hbytes, frontendFraming.cut_append (by rw [hframed]), hframed]
    rw [push_eq] at hpush
    dsimp only
    rcases hcut : frontendFraming.cut (st.reader.buffer ++ bytes) with ⟨frames, rest, error | _⟩
    · rw [hcut] at hpush
      cases hpush
      rfl
    · rw [hcut] at hpush
      cases hpush
  batch := h.batch
  payloads := by rw [footprint_append, Footprint.payloads_append, hfoot, List.append_nil, h.payloads]
  nonempty := h.nonempty
  protocol := h.protocol

/-- The next frame is none of the batch's business. -/
lemma skip (h : Ledger tr st handled (message :: rest) groups held)
    (hmessage : isProtocol message = false) :
    Ledger tr st (handled ++ [message]) rest groups held where
  framed := by rw [h.framed, List.append_assoc, List.singleton_append]
  batch := h.batch
  payloads := h.payloads
  nonempty := h.nonempty
  protocol := by simp [h.protocol, hmessage]

/-- The next frame goes into the batch. -/
lemma hold (h : Ledger tr st handled (message :: rest) groups held)
    (hmessage : isProtocol message = true) :
    Ledger tr { st with protocolBatch := st.protocolBatch ++ message } (handled ++ [message]) rest
      groups (held ++ [message]) where
  framed := by rw [h.framed, List.append_assoc, List.singleton_append]
  batch := by simp [h.batch]
  payloads := h.payloads
  nonempty := h.nonempty
  protocol := by
    rw [← List.append_assoc, h.protocol]
    simp [hmessage]

/-- The batch was sent. -/
lemma flushed (h : Ledger tr st handled rest groups held) (hreads : received tr' = [])
    (hpayloads : (footprint tr').payloads = unlessEmpty st.protocolBatch) :
    ∃ groups', Ledger (tr ++ tr') { st with protocolBatch := [] } handled rest groups' [] := by
  have hframed : frontendFraming.cut (received (tr ++ tr'))
      = ⟨handled ++ rest, st.reader.buffer, none⟩ := by
    rw [received_append, hreads, List.append_nil, h.framed]
  by_cases hheld : held = []
  · refine ⟨groups, hframed, rfl, ?_, h.nonempty, ?_⟩
    · rw [footprint_append, Footprint.payloads_append, hpayloads, h.held_eq_nil_iff.mp hheld,
        h.payloads]
      exact List.append_nil _
    · rw [← h.protocol, hheld]
  · refine ⟨groups ++ [held], hframed, rfl, ?_, ?_, ?_⟩
    · have hne : st.protocolBatch ≠ [] := fun hnil => hheld (h.held_eq_nil_iff.mpr hnil)
      rw [footprint_append, Footprint.payloads_append, hpayloads, unlessEmpty_of_ne hne, h.payloads,
        List.map_append, List.map_singleton, h.batch]
    · intro group hgroup
      rcases List.mem_append.mp hgroup with hgroup | hgroup
      · exact h.nonempty group hgroup
      · rw [List.mem_singleton.mp hgroup]
        exact hheld
    · rw [← h.protocol]
      simp

/-- The next frame was sent with the batch. -/
lemma sent (h : Ledger tr st handled (message :: rest) groups held)
    (hmessage : isProtocol message = true) (hreads : received tr' = [])
    (hpayloads : (footprint tr').payloads = [st.protocolBatch ++ message]) :
    ∃ groups', Ledger (tr ++ tr') { st with protocolBatch := [] } (handled ++ [message]) rest
      groups' [] := by
  apply (h.hold hmessage).flushed hreads
  rw [hpayloads, unlessEmpty_of_ne]
  intro hnil
  exact ne_nil_of_isProtocol hmessage (List.append_eq_nil_iff.mp hnil).2

end Ledger

/-! ## What is held back

A client that has sent one of these messages may wait for the answer before it sends more. -/

/-- `Query`, `Sync`, `Flush`, `FunctionCall`, `CopyData`, `CopyDone`, `CopyFail`: messages the
backend has to answer. -/
def obliges (message : Bytes) : Bool :=
  match message.head? with
  | some 81 | some 83 | some 72 | some 70 | some 100 | some 99 | some 102 => true
  | _ => false

/-- `Terminate` and `CancelRequest`: the connection ends. -/
def closes (message : Bytes) : Bool :=
  match classifyFrontendMessage message with
  | .ok .terminate | .ok .cancelRequest => true
  | _ => false

lemma closes_eq_false {message : Bytes} {kind : FrontendFrameKind}
    (hkind : classifyFrontendMessage message = .ok kind)
    (hne : kind ≠ .terminate ∧ kind ≠ .cancelRequest) : closes message = false := by
  unfold closes
  rw [hkind]
  cases kind <;> simp_all

/-- The batch is sent when the message is handled. -/
def flushes (message : Bytes) (rest : List Bytes) : Bool :=
  match classifyFrontendMessage message with
  | .ok .protocol => shouldFlushProtocolBatch message rest.isEmpty
  | .ok _ => true
  | .error _ => false

/-- An answer is owed once the messages of a read are handled, given whether one is owed before. -/
def owes : Bool → List Bytes → Bool
  | owed, [] => owed
  | owed, message :: rest =>
    owes (if flushes message rest then false else owed || obliges message) rest

/-- Every message of the read that obliges the backend is sent, or the connection ends. -/
def answersRead (st : StreamState) (bytes : Bytes) : Bool :=
  match (st.reader.push bytes).2 with
  | .ok messages => messages.any closes || !owes false messages
  | .error _ => true

/-- After no read of a run is an answer owed. -/
def nothingOwed : Connection → Trace → Prop
  | .reading st, tr => (footprint tr).reads.all (answersRead st) = true
  | _, _ => True

instance : (c : Connection) → (tr : Trace) → Decidable (nothingOwed c tr)
  | .reading st, tr => inferInstanceAs (Decidable ((footprint tr).reads.all (answersRead st) = true))
  | .handling _ _ _, _ | .returned _, _ => inferInstanceAs (Decidable True)

/-- The batch is made of whole messages, and none of them is owed an answer once the messages at
hand are handled. -/
def Settled : Connection → Prop
  | .reading st => ∃ held : List Bytes, held.flatten = st.protocolBatch ∧
      ∀ m ∈ held, frontendFraming.IsFrame m ∧ obliges m = false
  | .handling st messages close => ∃ held : List Bytes, held.flatten = st.protocolBatch ∧
      (∀ m ∈ held ++ messages, frontendFraming.IsFrame m) ∧
      (close = true ∨ messages.any closes = true ∨ owes (held.any obliges) messages = false)
  | .returned _ => True

lemma isFrame_of_push {reader reader' : FrontendFrameReader} {bytes : Bytes} {messages : List Bytes}
    (hpush : reader.push bytes = (reader', .ok messages)) :
    ∀ m ∈ messages, frontendFraming.IsFrame m := by
  rw [push_eq] at hpush
  intro m hm
  apply frontendFraming.isFrame_of_mem_cut (b := reader.buffer ++ bytes)
  rcases hcut : frontendFraming.cut (reader.buffer ++ bytes) with ⟨frames, rest, error | _⟩
  · rw [hcut] at hpush
    cases hpush
    exact hm
  · rw [hcut] at hpush
    cases hpush

/-- One message: the answers owed for the rest of the read. -/
lemma settled_rest {message : Bytes} {rest held held' : List Bytes} {close close' : Bool}
    (hclose : close = true → close' = true) (hopen : closes message = false)
    (howed : owes (held.any obliges) (message :: rest) = owes (held'.any obliges) rest)
    (h : close = true ∨ (message :: rest).any closes = true ∨
      owes (held.any obliges) (message :: rest) = false) :
    close' = true ∨ rest.any closes = true ∨ owes (held'.any obliges) rest = false := by
  rcases h with h | h | h
  · exact Or.inl (hclose h)
  · rw [List.any_cons, hopen, Bool.false_or] at h
    exact Or.inr (Or.inl h)
  · exact Or.inr (Or.inr (howed ▸ h))

lemma settled_turn {proxy : PgliteProxy} {c c' : Connection} {tr : Trace} (hI : Settled c)
    (turn : Turn proxy c tr c') (howed : nothingOwed c tr) : Settled c' := by
  cases turn with
  | readFailed | badFrame | endFailed | ended | messageFailed | streamed | finished
  | flushFailed => trivial
  | @framed st tr bytes reader messages hfoot hne hpush hfine =>
    obtain ⟨held, hbatch, hheld⟩ := hI
    have hnone : held.any obliges = false := by
      rw [List.any_eq_false]
      intro m hm
      rw [(hheld m hm).2]
      decide
    refine ⟨held, hbatch, ?_, ?_⟩
    · exact List.forall_mem_append.mpr ⟨fun m hm => (hheld m hm).1, isFrame_of_push hpush⟩
    · rw [hnone]
      simp only [nothingOwed, hfoot, List.all_cons, List.all_nil, Bool.and_true, answersRead, hpush,
        Bool.or_eq_true, Bool.not_eq_true'] at howed
      exact Or.inr howed
  | @sslRefused st message rest close gone tr _ _ _ hkind =>
    obtain ⟨held, hbatch, hframes, hrest⟩ := hI
    refine ⟨[], rfl, ?_, ?_⟩
    · intro m hm
      exact hframes m (List.mem_append_right _ (List.mem_cons_of_mem _ hm))
    · apply settled_rest _ (closes_eq_false hkind (by decide)) _ hrest
      · intro hclose
        rw [hclose, Bool.true_or]
      · simp [owes, flushes, hkind]
  | closing =>
    obtain ⟨held, hbatch, hframes, hrest⟩ := hI
    refine ⟨[], rfl, ?_, Or.inl rfl⟩
    intro m hm
    exact hframes m (List.mem_append_right _ (List.mem_cons_of_mem _ hm))
  | @accepted st message rest close tr backend out hkind _ hempty =>
    obtain ⟨held, hbatch, hframes, hrest⟩ := hI
    refine ⟨[], hempty.symm, ?_, ?_⟩
    · intro m hm
      exact hframes m (List.mem_append_right _ (List.mem_cons_of_mem _ hm))
    · apply settled_rest id (closes_eq_false hkind (by decide)) _ hrest
      simp [owes, flushes, hkind]
  | @turnedAway st message rest rest' close tr backends outs written _ _ hrest' =>
    obtain ⟨held, hbatch, hframes, hrest⟩ := hI
    refine ⟨held, hbatch, ?_, Or.inl rfl⟩
    intro m hm
    apply hframes m
    rcases List.mem_append.mp hm with hm | hm
    · exact List.mem_append_left _ hm
    · rcases hrest' with rfl | rfl
      · cases hm
      · exact List.mem_append_right _ (List.mem_cons_of_mem _ hm)
  | @held st message rest close tr hkind hkeep =>
    obtain ⟨held, hbatch, hframes, hrest⟩ := hI
    refine ⟨held ++ [message], ?_, ?_, ?_⟩
    · simp [hbatch]
    · rw [List.append_assoc]
      exact hframes
    · apply settled_rest id (closes_eq_false hkind (by decide)) _ hrest
      simp [owes, flushes, hkind, hkeep]
  | @sent st message rest close tr responses written hkind hflush =>
    obtain ⟨held, hbatch, hframes, hrest⟩ := hI
    refine ⟨[], rfl, ?_, ?_⟩
    · intro m hm
      exact hframes m (List.mem_append_right _ (List.mem_cons_of_mem _ hm))
    · apply settled_rest id (closes_eq_false hkind (by decide)) _ hrest
      simp [owes, flushes, hkind, hflush]
  | goOn =>
    obtain ⟨held, hbatch, hframes, hrest⟩ := hI
    rw [List.append_nil] at hframes
    refine ⟨held, hbatch, ?_⟩
    intro m hm
    -- no message is left and the connection stays open, so nothing in the batch is owed
    have hnone : held.any obliges = false := by simpa [owes] using hrest
    exact ⟨hframes m hm, by simpa using List.any_eq_false.mp hnone m hm⟩

/-- **When the proxy goes back to reading, the batch holds no message the backend has to answer**,
in every run whose reads leave no answer owed: after the last obliging message of a read that is
not sent at once comes one that is, or the connection ends. -/
theorem batch_holds_nothing_owed (proxy : PgliteProxy) (tr : Trace) (st : StreamState)
    (run : (handleStream proxy).Run nothingOwed (.reading .initial) tr (.reading st)) :
    ∀ m ∈ (frontendFraming.cut st.protocolBatch).frames, obliges m = false := by
  have hI : Settled (.reading st) := by
    apply run_invariant (I := fun _ c => Settled c) _ _ run
    · exact ⟨[], rfl, by simp⟩
    · intro _ _ c c' hI turn howed
      exact settled_turn hI turn howed
  obtain ⟨held, hbatch, hheld⟩ := hI
  have hcut := frontendFraming.cut_flatten_frames (fun m hm => (hheld m hm).1) []
  rw [List.append_nil, hbatch] at hcut
  intro m hm
  rw [hcut, frontendFraming.cut_of_more rfl] at hm
  simp only [Cut.prepend_frames, List.append_nil] at hm
  exact (hheld m hm).2

/-- A `Sync` without a query. -/
def syncMessage : Bytes := [83, 0, 0, 0, 4]

/-- The header of a `Parse`. -/
def parseMessage : Bytes := [80, 0, 0, 0, 4]

lemma mem_cut_self {message : Bytes} (hmessage : frontendFraming.IsFrame message) (more : Bytes) :
    message ∈ (frontendFraming.cut (message ++ more)).frames := by
  rw [frontendFraming.cut_cons_frame hmessage]
  exact List.mem_cons_self

theorem batch_holds_nothing_owed_parse :
    parseMessage ∈ (frontendFraming.cut (parseMessage ++ [])).frames ∧ obliges parseMessage = false :=
  have hmem := mem_cut_self (show frontendFraming.IsFrame parseMessage by decide) []
  ⟨hmem, batch_holds_nothing_owed plainProxy
    (letIn ++ [[(⟨.read, .ok parseMessage⟩ : Event Op Answer)], [], [⟨.flush false, .ok ()⟩]]).flatten
    { backend := some 0, reader := .default, protocolBatch := parseMessage }
    (Machine.run_of_replay_start (by decide)) parseMessage hmem⟩

/-- A `Sync` that arrives in one read with the next `Parse` stays in the batch. -/
theorem batch_holds_sync :
    ¬ ∀ (proxy : PgliteProxy) (tr : Trace) (st : StreamState),
      (handleStream proxy).Run (fun _ _ => True) (.reading .initial) tr (.reading st) →
        ∀ m ∈ (frontendFraming.cut st.protocolBatch).frames, obliges m = false := by
  intro h
  have hrun : (handleStream plainProxy).Run (fun _ _ => True) (.reading .initial)
      (letIn ++ [[(⟨.read, .ok (syncMessage ++ parseMessage)⟩ : Event Op Answer)], [], [],
        [⟨.flush false, .ok ()⟩]]).flatten
      (.reading { backend := some 0, reader := .default,
                  protocolBatch := syncMessage ++ parseMessage }) :=
    Machine.run_of_replay_start (by decide)
  have hmem := mem_cut_self (show frontendFraming.IsFrame syncMessage by decide) parseMessage
  exact absurd (h _ _ _ hrun syncMessage hmem) (by decide)

end PgliteOxide.Pglite
