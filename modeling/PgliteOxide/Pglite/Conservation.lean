import PgliteOxide.Pglite.Ledger
import Mathlib.Data.List.GetD
import Mathlib.Data.List.Infix

/-!
# Conservation in buffered mode

A client that asks for encryption any number of times, starts up, sends protocol messages and
closes its side, in reads cut anywhere; a backend that accepts and only ever answers with buffered
responses. `handle_stream` returns, every protocol message reaches the backend once and in order,
and the client gets the refusals, the startup response and the responses (`buffered_conservation`).
-/

namespace PgliteOxide.Pglite

open Lib Prog

/-! ## The client and the environment -/

/-- A client's stream: encryption requests, one startup packet, protocol messages, and the reads
it comes in. -/
structure PoliteClient (proxy : PgliteProxy) where
  ssl : List Bytes
  startup : Bytes
  protocol : List Bytes
  ssl_kind : ∀ m ∈ ssl, frontendFraming.IsFrame m ∧
    classifyFrontendMessage m = .ok .sslOrGssRequest
  startup_kind : frontendFraming.IsFrame startup ∧ classifyFrontendMessage startup = .ok .startup
  startup_config : (startupConfigForMessage proxy.startupConfig startup).isOk = true
  protocol_kind : ∀ m ∈ protocol, frontendFraming.IsFrame m ∧
    classifyFrontendMessage m = .ok .protocol
  chunks : List Bytes
  chunks_ne : ∀ chunk ∈ chunks, chunk ≠ []
  chunks_eq : chunks.flatten = (ssl ++ startup :: protocol).flatten

/-- The client's messages. -/
def PoliteClient.script {proxy : PgliteProxy} (client : PoliteClient proxy) : List Bytes :=
  client.ssl ++ client.startup :: client.protocol

/-- An environment that delivers the client's reads, then the end of the stream, and in which
nothing fails, the startup and the role are accepted and no backend takes over the stream. -/
structure SmoothEnvironment {proxy : PgliteProxy} (client : PoliteClient proxy) where
  answer : Trace → (op : Op) → Answer op
  reads : ∀ history, answer history .read
    = .ok (client.chunks.getD (footprint history).reads.length [])
  smooth : ∀ history op, smooth ⟨op, answer history op⟩ = true

/-- Postgres accepted a startup packet. -/
def acceptedStartup : Event Op Answer → Bool
  | ⟨.startup _ _, .ok response⟩ => response.accepted && !responseContainsError response.output
  | _ => false

/-- Nothing was sent to a backend before a startup was accepted. -/
def StartsUpFirst (tr : Trace) : Prop :=
  ∀ before, before <+: tr → before.any acceptedStartup = false → (footprint before).payloads = []

/-- **What conservation says of a whole run.** -/
structure Conserved {proxy : PgliteProxy} (client : PoliteClient proxy) (tr : Trace) : Prop where
  payloads : ∃ groups : List (List Bytes), (footprint tr).payloads = groups.map List.flatten ∧
    (∀ group ∈ groups, group ≠ []) ∧ groups.flatten = client.protocol
  startup : StartsUpFirst tr
  written : ∃ out, (footprint tr).startupOutputs = [out] ∧
    (footprint tr).written.flatten
      = List.replicate client.ssl.length 78 ++ out ++ (footprint tr).responses.flatten

/-! ## Traces of a smooth environment -/

lemma mem_of_startupOutputs {tr : Trace} {out : Bytes} (h : out ∈ (footprint tr).startupOutputs) :
    ∃ e ∈ tr, out ∈ (footprintOf e).startupOutputs := by
  induction tr with
  | nil => cases h
  | cons e tr ih =>
    rw [footprint_cons, Footprint.startupOutputs_append] at h
    rcases List.mem_append.mp h with h | h
    · exact ⟨e, List.mem_cons_self, h⟩
    · obtain ⟨e', he', h'⟩ := ih h
      exact ⟨e', List.mem_cons_of_mem _ he', h'⟩

/-- In a smooth trace, a startup that was answered was accepted. -/
lemma acceptedStartup_of_smooth {e : Event Op Answer} {out : Bytes} (hsmooth : smooth e = true)
    (hout : out ∈ (footprintOf e).startupOutputs) : acceptedStartup e = true := by
  unfold footprintOf at hout
  split at hout <;> simp_all [smooth, acceptedStartup]

/-- The payloads of a part of a trace without payloads. -/
lemma payloads_of_before {before tr : Trace} (h : before <+: tr)
    (hnone : (footprint tr).payloads = []) : (footprint before).payloads = [] := by
  obtain ⟨after, rfl⟩ := h
  rw [footprint_append, Footprint.payloads_append] at hnone
  exact (List.append_eq_nil_iff.mp hnone).1

lemma StartsUpFirst.append {tr tr' : Trace} (h : StartsUpFirst tr)
    (h' : tr.any acceptedStartup = true ∨
      (footprint tr).payloads = [] ∧ (footprint tr').payloads = []) :
    StartsUpFirst (tr ++ tr') := by
  intro before hbefore hnone
  rcases List.prefix_or_prefix_of_prefix hbefore (List.prefix_append tr tr') with hold | ⟨part, rfl⟩
  · exact h before hold hnone
  · have hpart : part <+: tr' := (List.prefix_append_right_inj tr).mp hbefore
    rcases h' with hacc | ⟨htr, htr'⟩
    · rw [List.any_append, hacc] at hnone
      cases hnone
    · rw [footprint_append, Footprint.payloads_append, htr, payloads_of_before hpart htr']
      rfl

section

variable {proxy : PgliteProxy} {client : PoliteClient proxy} (env : SmoothEnvironment client)
  {history tr : Trace}

lemma reads_footprintOf {e : Event Op Answer} (h : e.op ≠ .read) : (footprintOf e).reads = [] := by
  unfold footprintOf
  split <;> simp_all

/-- The next read delivers the next chunk. -/
lemma SmoothEnvironment.read_eq (h : AnsweredBy env.answer history tr) {bytes : Bytes}
    {more : List Bytes} (hreads : (footprint tr).reads = bytes :: more) :
    bytes = client.chunks.getD (footprint history).reads.length [] := by
  induction tr generalizing history with
  | nil => cases hreads
  | cons e tr ih =>
    obtain ⟨op, ans⟩ := e
    obtain ⟨hans, htr⟩ := h
    by_cases hop : op = .read
    · subst hop
      dsimp only at hans
      rw [env.reads] at hans
      subst hans
      cases hreads
      rfl
    · have hnone : (footprintOf ⟨op, ans⟩).reads = [] := reads_footprintOf hop
      rw [footprint_cons, Footprint.reads_append, hnone, List.nil_append] at hreads
      rw [ih htr hreads, footprint_append, Footprint.reads_append, footprint_cons, footprint_nil,
        Footprint.reads_append, hnone]
      simp

end

/-! ## Progress

The invariant of the run: the ledger, and what has been said before and after the startup. -/

section

variable {proxy : PgliteProxy} (client : PoliteClient proxy)

/-- Before the startup packet: encryption was refused some times and nothing else said. -/
structure Before (tr : Trace) (st : StreamState) (handled remaining : List Bytes) : Prop where
  remaining : ∃ later, remaining = later ++ client.startup :: client.protocol ∧
    handled ++ later = client.ssl
  backend : st.backend = none
  batch : st.protocolBatch = []
  payloads : (footprint tr).payloads = []
  startupOutputs : (footprint tr).startupOutputs = []
  responses : (footprint tr).responses = []
  written : (footprint tr).written.flatten = List.replicate handled.length 78

/-- After the startup packet: the backend is there and only protocol messages are left. -/
structure After (tr : Trace) (st : StreamState) (handled remaining : List Bytes) : Prop where
  remaining : ∃ served, handled = client.ssl ++ client.startup :: served ∧
    served ++ remaining = client.protocol
  backend : st.backend.isSome = true
  accepted : tr.any acceptedStartup = true
  written : ∃ out, (footprint tr).startupOutputs = [out] ∧
    (footprint tr).written.flatten
      = List.replicate client.ssl.length 78 ++ out ++ (footprint tr).responses.flatten

/-- Where the connection is in the client's script. -/
structure Progress (tr : Trace) (st : StreamState) (handled messages : List Bytes) : Prop where
  ledger : ∃ groups held, Ledger tr st handled messages groups held
  stage : ∃ remaining, Before client tr st handled remaining ∨ After client tr st handled remaining
  reads : (footprint tr).reads = client.chunks.take (footprint tr).reads.length
  startup : StartsUpFirst tr

/-- The invariant of the run. -/
def Conserving (tr : Trace) : Connection → Prop
  | .reading st => ∃ handled, Progress client tr st handled []
  | .handling st messages close => close = false ∧ ∃ handled, Progress client tr st handled messages
  | .returned result => result = .ok () ∧ Conserved client tr

variable {client} {tr tr' : Trace} {st : StreamState} {handled remaining messages : List Bytes}

lemma PoliteClient.isFrame_of_mem {m : Bytes} (hm : m ∈ client.script) :
    frontendFraming.IsFrame m := by
  rcases List.mem_append.mp hm with hm | hm
  · exact (client.ssl_kind m hm).1
  · rcases List.mem_cons.mp hm with rfl | hm
    · exact client.startup_kind.1
    · exact (client.protocol_kind m hm).1

lemma PoliteClient.cut_stream :
    frontendFraming.cut client.chunks.flatten = ⟨client.script, [], none⟩ := by
  have hcut := frontendFraming.cut_flatten_frames (fun m hm => client.isFrame_of_mem hm) []
  rw [List.append_nil] at hcut
  rw [client.chunks_eq]
  have hempty : frontendFraming.cut [] = ⟨[], [], none⟩ := frontendFraming.cut_of_more rfl
  exact hcut.trans (by simp [hempty, Cut.prepend])

lemma PoliteClient.filter_script : client.script.filter isProtocol = client.protocol := by
  have hssl : client.ssl.filter isProtocol = [] := by
    rw [List.filter_eq_nil_iff]
    intro m hm
    simp [isProtocol_eq_false (client.ssl_kind m hm).2 (by decide)]
  have hprotocol : client.protocol.filter isProtocol = client.protocol := by
    rw [List.filter_eq_self]
    intro m hm
    exact isProtocol_eq_true.mpr (client.protocol_kind m hm).2
  rw [script, List.filter_append, hssl, List.nil_append, List.filter_cons_of_neg, hprotocol]
  simp [isProtocol_eq_false client.startup_kind.2 (by decide)]

lemma Before.script_eq (h : Before client tr st handled remaining) :
    handled ++ remaining = client.script := by
  obtain ⟨later, rfl, hssl⟩ := h.remaining
  rw [← List.append_assoc, hssl]
  rfl

lemma After.script_eq (h : After client tr st handled remaining) :
    handled ++ remaining = client.script := by
  obtain ⟨served, rfl, hprotocol⟩ := h.remaining
  rw [List.append_assoc, List.cons_append, hprotocol]
  rfl

namespace Progress

/-- What was read is the beginning of the stream. -/
lemma received_eq (h : Progress client tr st handled messages) :
    received tr = (client.chunks.take (footprint tr).reads.length).flatten :=
  congrArg List.flatten h.reads

lemma reads_length_le (h : Progress client tr st handled messages) :
    (footprint tr).reads.length ≤ client.chunks.length := by
  have hlen := congrArg List.length h.reads
  rw [List.length_take] at hlen
  omega

/-- What was read and what is read next is the beginning of the stream. -/
lemma stream_split (h : Progress client tr st handled messages) :
    received tr ++ client.chunks.getD (footprint tr).reads.length [] <+: client.chunks.flatten := by
  rw [h.received_eq]
  generalize (footprint tr).reads.length = n
  refine ⟨(client.chunks.drop (n + 1)).flatten, ?_⟩
  by_cases hn : n < client.chunks.length
  · rw [List.getD_eq_getElem _ _ hn]
    conv_rhs => rw [← List.take_append_drop n client.chunks, List.drop_eq_getElem_cons hn]
    rw [List.flatten_append, List.flatten_cons, List.append_assoc]
  · rw [List.getD_eq_default _ _ (by omega), List.take_of_length_le (by omega),
      List.drop_of_length_le (by omega)]
    simp

/-- The messages at hand come next in the script. -/
lemma messages_next (h : Progress client tr st handled messages)
    (hscript : handled ++ remaining = client.script) : messages <+: remaining := by
  obtain ⟨groups, held, hledger⟩ := h.ledger
  have hpre : handled ++ messages <+: client.script := by
    obtain ⟨unread, hunread⟩ := h.stream_split
    have hframes := frontendFraming.frames_prefix_append (received tr)
      (client.chunks.getD (footprint tr).reads.length [] ++ unread)
    rw [← List.append_assoc, hunread, client.cut_stream, hledger.framed] at hframes
    exact hframes
  rw [← hscript] at hpre
  exact (List.prefix_append_right_inj handled).mp hpre

/-- The next read can be framed. -/
lemma push_isOk (h : Progress client tr st handled [])
    {bytes : Bytes} (hbytes : bytes = client.chunks.getD (footprint tr).reads.length []) :
    (st.reader.push bytes).2.isOk = true := by
  obtain ⟨groups, held, hledger⟩ := h.ledger
  obtain ⟨unread, hunread⟩ := h.stream_split
  have herror : (frontendFraming.cut (received tr ++ bytes)).error = none := by
    apply frontendFraming.error_of_append (c := unread)
    rw [hbytes, hunread, client.cut_stream]
  rw [frontendFraming.cut_append (by rw [hledger.framed]), hledger.framed] at herror
  rw [push_eq]
  rw [Cut.prepend_error] at herror
  rw [herror]
  rfl

/-- Everything was read when the end is reported. -/
lemma received_all (h : Progress client tr st handled messages)
    (hend : client.chunks.getD (footprint tr).reads.length [] = []) :
    (footprint tr).reads.length = client.chunks.length ∧ received tr = client.chunks.flatten := by
  have hle := h.reads_length_le
  have hall : (footprint tr).reads.length = client.chunks.length := by
    by_contra hne
    have hlt : (footprint tr).reads.length < client.chunks.length := by omega
    rw [List.getD_eq_getElem _ _ hlt] at hend
    exact client.chunks_ne _ (List.getElem_mem hlt) hend
  refine ⟨hall, ?_⟩
  rw [h.received_eq, hall, List.take_length]

lemma handled_all (h : Progress client tr st handled [])
    (hend : client.chunks.getD (footprint tr).reads.length [] = []) : handled = client.script := by
  obtain ⟨groups, held, hledger⟩ := h.ledger
  have hframed := hledger.framed
  rw [(h.received_all hend).2, client.cut_stream, List.append_nil] at hframed
  exact (congrArg Cut.frames hframed).symm

/-- The startup is behind the connection at the end of the stream. -/
lemma after_all (h : Progress client tr st handled [])
    (hend : client.chunks.getD (footprint tr).reads.length [] = []) :
    After client tr st client.script [] := by
  have hhandled := h.handled_all hend
  obtain ⟨remaining, hstage⟩ := h.stage
  have hremaining : remaining = [] := by
    have hscript : handled ++ remaining = client.script := by
      rcases hstage with hstage | hstage
      · exact hstage.script_eq
      · exact hstage.script_eq
    rw [hhandled] at hscript
    exact List.append_right_eq_self.mp hscript
  subst hhandled hremaining
  rcases hstage with hstage | hstage
  · obtain ⟨later, hlater, -⟩ := hstage.remaining
    simp at hlater
  · exact hstage

/-- A trace without payloads keeps the order. -/
lemma startsUpFirst (h : Progress client tr st handled messages)
    (hpayloads : (footprint tr').payloads = []) : StartsUpFirst (tr ++ tr') := by
  apply h.startup.append
  obtain ⟨remaining, hstage | hstage⟩ := h.stage
  · exact Or.inr ⟨hstage.payloads, hpayloads⟩
  · exact Or.inl hstage.accepted

/-- Control packets can be handled at any time. -/
lemma flushFine (h : Progress client tr st handled messages) : flushFine st = true := by
  obtain ⟨remaining, h | h⟩ := h.stage
  · simp [Pglite.flushFine, h.batch]
  · simp [Pglite.flushFine, h.backend]

end Progress

/-! ## Steps -/

lemma all_tolerated (hsmooth : ∀ e ∈ tr', smooth e = true) : ∀ e ∈ tr', tolerated e = true :=
  fun e he => tolerated_of_smooth (hsmooth e he)

/-- The stage is kept by a trace that says nothing. -/
lemma stage_quiet (h : Before client tr st handled remaining ∨ After client tr st handled remaining)
    {st' : StreamState} (hbackend : st'.backend = st.backend)
    (hbatch : st'.protocolBatch = st.protocolBatch) (hpayloads : (footprint tr').payloads = [])
    (houts : (footprint tr').startupOutputs = []) (hresponses : (footprint tr').responses = [])
    (hwritten : (footprint tr').written = []) :
    Before client (tr ++ tr') st' handled remaining ∨
      After client (tr ++ tr') st' handled remaining := by
  rcases h with h | h
  · left
    exact
      { remaining := h.remaining
        backend := hbackend.trans h.backend
        batch := hbatch.trans h.batch
        payloads := by simp [h.payloads, hpayloads]
        startupOutputs := by simp [h.startupOutputs, houts]
        responses := by simp [h.responses, hresponses]
        written := by simp [h.written, hwritten] }
  · right
    exact
      { remaining := h.remaining
        backend := by rw [hbackend, h.backend]
        accepted := by rw [List.any_append, h.accepted, Bool.true_or]
        written := by simpa [houts, hresponses, hwritten] using h.written }

/-- A turn reads at most once. -/
lemma Turn.reads_cases {c' : Connection} (turn : Turn proxy (.reading st) tr' c') :
    (footprint tr').reads = [] ∨ ∃ bytes, (footprint tr').reads = [bytes] := by
  cases turn with
  | readFailed hfoot => exact Or.inl (by rw [hfoot])
  | framed hfoot | badFrame hfoot | ended hfoot | endFailed hfoot => exact Or.inr ⟨_, by rw [hfoot]⟩

/-- Nothing the client sends is fatal when it is read. -/
lemma fine_of_reading {env : SmoothEnvironment client} {c' : Connection}
    (h : Progress client tr st handled []) (turn : Turn proxy (.reading st) tr' c')
    (hanswers : AnsweredBy env.answer tr tr') : fine proxy (.reading st) tr' = true := by
  have htol := all_tolerated (hanswers.forall_mem env.smooth)
  rcases turn.reads_cases with hreads | ⟨bytes, hreads⟩
  · simp [fine, hreads, List.all_eq_true.mpr htol]
  · rw [fine_reading hreads htol]
    unfold readFine
    split_ifs with hempty
    · exact h.flushFine
    · exact h.push_isOk (env.read_eq hanswers hreads)

/-- Reading the next chunk, or the end. -/
lemma conserving_reading {env : SmoothEnvironment client} {c' : Connection}
    (hI : Conserving client tr (.reading st)) (turn : Turn proxy (.reading st) tr' c')
    (hanswers : AnsweredBy env.answer tr tr') : Conserving client (tr ++ tr') c' := by
  obtain ⟨handled, h⟩ := hI
  have hfine := fine_of_reading h turn hanswers
  obtain ⟨groups, held, hledger⟩ := h.ledger
  obtain ⟨remaining, hstage⟩ := h.stage
  cases turn with
  | readFailed _ hbad | badFrame _ hbad | endFailed _ _ hbad =>
    rw [hbad] at hfine
    cases hfine
  | @framed _ _ bytes reader messages hfoot hne hpush =>
    have hbytes : bytes = client.chunks.getD (footprint tr).reads.length [] :=
      env.read_eq hanswers (by rw [hfoot])
    have hlt : (footprint tr).reads.length < client.chunks.length := by
      by_contra hge
      rw [List.getD_eq_default _ _ (by omega)] at hbytes
      exact hne hbytes
    refine ⟨rfl, handled, ⟨groups, held, hledger.read hfoot hpush⟩, ⟨remaining, ?_⟩, ?_, ?_⟩
    · refine stage_quiet hstage rfl rfl ?_ ?_ ?_ ?_ <;> rw [hfoot]
    · rw [footprint_append, Footprint.reads_append, hfoot, List.length_append, List.length_singleton,
        List.take_add_one, List.getElem?_eq_getElem hlt, ← h.reads, hbytes,
        List.getD_eq_getElem _ _ hlt]
      rfl
    · exact h.startsUpFirst (by rw [hfoot])
  | @ended _ _ responses written hfoot hwritten =>
    have hend : client.chunks.getD (footprint tr).reads.length [] = [] :=
      (env.read_eq hanswers (by rw [hfoot])).symm
    have hafter : After client tr st client.script [] := h.after_all hend
    have hhandled : handled = client.script := h.handled_all hend
    have hreceived : received tr' = [] := by simp [received, hfoot]
    obtain ⟨groups', hledger'⟩ := hledger.flushed hreceived (by rw [hfoot])
    obtain ⟨out, hout, hsaid⟩ := hafter.written
    refine ⟨rfl, ⟨groups', hledger'.payloads, hledger'.nonempty, ?_⟩, ?_, out, ?_, ?_⟩
    · have hprotocol := hledger'.protocol
      rwa [List.append_nil, hhandled, client.filter_script] at hprotocol
    · exact h.startup.append (Or.inl hafter.accepted)
    · simp [hout, hfoot]
    · simp [hsaid, hfoot, hwritten]

section

variable {message : Bytes} {rest : List Bytes} {c' : Connection}

/-- The parts of progress that do not depend on the message. -/
lemma progress_next {st' : StreamState} {handled' : List Bytes} {groups' : List (List Bytes)}
    {held' : List Bytes} (remaining : List Bytes) (h : Progress client tr st handled (message :: rest))
    (hreads : (footprint tr').reads = [])
    (hledger : Ledger (tr ++ tr') st' handled' rest groups' held')
    (hstage : Before client (tr ++ tr') st' handled' remaining ∨
      After client (tr ++ tr') st' handled' remaining)
    (hstartup : StartsUpFirst (tr ++ tr')) :
    Conserving client (tr ++ tr') (.handling st' rest false) := by
  refine ⟨rfl, handled', ⟨groups', held', hledger⟩, ⟨remaining, hstage⟩, ?_, hstartup⟩
  rw [footprint_append, Footprint.reads_append, hreads, List.append_nil]
  exact h.reads

/-- Encryption is refused once more. -/
lemma conserving_ssl {later : List Bytes} (h : Progress client tr st handled (message :: rest))
    (hb : Before client tr st handled (message :: (later ++ client.startup :: client.protocol)))
    (hkind : classifyFrontendMessage message = .ok .sslOrGssRequest)
    (turn : Turn proxy (.handling st (message :: rest) false) tr' c')
    (hsmooth : ∀ e ∈ tr', smooth e = true) : Conserving client (tr ++ tr') c' := by
  obtain ⟨groups, held, hledger⟩ := h.ledger
  cases turn with
  | closing hother => rcases hother with hother | hother <;> simp [hkind] at hother
  | accepted hother | turnedAway hother | held hother | sent hother | streamed hother =>
    simp [hkind] at hother
  | messageFailed _ _ _ hbad =>
    rw [fine_handling (all_tolerated hsmooth)] at hbad
    simp [messageFine, hkind, h.flushFine] at hbad
  | sslRefused _ hfoot hwritten hidle hgone =>
    rcases hgone with ⟨rfl, rfl⟩ | ⟨-, -, e, he, hbad⟩
    · have hreceived : received tr' = [] := by simp [received, hfoot]
      obtain ⟨groups', hledger'⟩ :=
        (hledger.skip (isProtocol_eq_false hkind (by decide))).flushed hreceived (by rw [hfoot])
      have hpayloads : (footprint tr').payloads = [] := by
        rw [hfoot]
        exact if_pos hb.batch
      have hresponses := hidle hb.batch
      refine progress_next (later ++ client.startup :: client.protocol) h (by rw [hfoot]) hledger'
        (Or.inl ?_) (h.startsUpFirst hpayloads)
      exact
        { remaining := by
            obtain ⟨later', hlater, hssl⟩ := hb.remaining
            rw [← List.cons_append] at hlater
            rw [← List.append_cancel_right hlater] at hssl
            exact ⟨later, rfl, by rw [← hssl]; simp⟩
          backend := hb.backend
          batch := rfl
          payloads := by simp [hb.payloads, hpayloads]
          startupOutputs := by simp [hb.startupOutputs, hfoot]
          responses := by simp [hb.responses, hfoot, hresponses]
          written := by
            rw [hresponses] at hwritten
            simp [hb.written, hfoot, hwritten, List.replicate_add] }
    · rw [hsmooth e he] at hbad
      cases hbad

/-- The startup packet. -/
lemma conserving_startup (h : Progress client tr st handled (message :: rest))
    (hb : Before client tr st handled (client.startup :: client.protocol))
    (hmessage : message = client.startup)
    (turn : Turn proxy (.handling st (message :: rest) false) tr' c')
    (hsmooth : ∀ e ∈ tr', smooth e = true) : Conserving client (tr ++ tr') c' := by
  have hkind : classifyFrontendMessage message = .ok .startup := by
    rw [hmessage]
    exact client.startup_kind.2
  obtain ⟨groups, held, hledger⟩ := h.ledger
  cases turn with
  | closing hother => rcases hother with hother | hother <;> simp [hkind] at hother
  | sslRefused hother | held hother | sent hother | streamed hother => simp [hkind] at hother
  | messageFailed _ _ _ hbad =>
    rw [fine_handling (all_tolerated hsmooth)] at hbad
    have hconfig := client.startup_config
    rw [← hmessage] at hconfig
    simp [messageFine, hkind, hb.backend, hb.batch, hconfig] at hbad
  | turnedAway _ _ _ _ hrough =>
    obtain ⟨e, he, hbad⟩ := hrough
    rw [hsmooth e he] at hbad
    cases hbad
  | @accepted _ _ _ _ _ backend out _ _ _ hfoot =>
    have hpayloads : (footprint tr').payloads = [] := by rw [hfoot]
    have hledger' := (hledger.skip (isProtocol_eq_false hkind (by decide))).quiet tr'
      (by simp [received, hfoot]) hpayloads
    have hssl : handled = client.ssl := by
      obtain ⟨later, hlater, hssl⟩ := hb.remaining
      have hnone : later = [] := by
        have hlen := congrArg List.length hlater
        simp only [List.length_cons, List.length_append] at hlen
        exact List.length_eq_zero_iff.mp (by omega)
      rwa [hnone, List.append_nil] at hssl
    refine progress_next client.protocol h (by rw [hfoot]) (hledger'.setBackend (some backend))
      (Or.inr ?_) (h.startsUpFirst hpayloads)
    exact
      { remaining := ⟨[], by rw [hssl, hmessage], rfl⟩
        backend := rfl
        accepted := by
          have hmem : out ∈ (footprint tr').startupOutputs := by simp [hfoot]
          obtain ⟨e, he, hout⟩ := mem_of_startupOutputs hmem
          rw [List.any_append]
          simp only [Bool.or_eq_true, List.any_eq_true]
          exact Or.inr ⟨e, he, acceptedStartup_of_smooth (hsmooth e he) hout⟩
        written := by
          refine ⟨out, ?_, ?_⟩
          · simp [hb.startupOutputs, hfoot]
          · simp [hb.written, hb.responses, hfoot, hssl] }

/-- A protocol message. -/
lemma conserving_protocol (h : Progress client tr st handled (message :: rest))
    (ha : After client tr st handled (message :: remaining))
    (turn : Turn proxy (.handling st (message :: rest) false) tr' c')
    (hsmooth : ∀ e ∈ tr', smooth e = true) : Conserving client (tr ++ tr') c' := by
  obtain ⟨served, hhandled, hprotocol⟩ := ha.remaining
  have hkind : classifyFrontendMessage message = .ok .protocol := by
    apply (client.protocol_kind message _).2
    rw [← hprotocol]
    simp
  obtain ⟨groups, held, hledger⟩ := h.ledger
  -- the message joins those served, and the responses to it are passed on
  have hafter : ∀ (st' : StreamState), st'.backend = st.backend →
      (footprint tr').startupOutputs = [] →
      (footprint tr').written.flatten = (footprint tr').responses.flatten →
      After client (tr ++ tr') st' (handled ++ [message]) remaining := by
    intro st' hbackend houts hwritten
    obtain ⟨out, hout, hsaid⟩ := ha.written
    exact
      { remaining := ⟨served ++ [message], by simp [hhandled], by simp [hprotocol]⟩
        backend := by rw [hbackend, ha.backend]
        accepted := by rw [List.any_append, ha.accepted, Bool.true_or]
        written := ⟨out, by simp [hout, houts], by simp [hsaid, hwritten]⟩ }
  have hstartup : StartsUpFirst (tr ++ tr') := h.startup.append (Or.inl ha.accepted)
  cases turn with
  | closing hother => rcases hother with hother | hother <;> simp [hkind] at hother
  | sslRefused hother | accepted hother | turnedAway hother => simp [hkind] at hother
  | messageFailed _ _ _ hbad =>
    rw [fine_handling (all_tolerated hsmooth)] at hbad
    simp [messageFine, hkind, ha.backend] at hbad
  | streamed _ _ hrough =>
    obtain ⟨e, he, hbad, -⟩ := hrough
    rw [hsmooth e he] at hbad
    cases hbad
  | held _ _ hfoot =>
    have hledger' := (hledger.hold (isProtocol_eq_true.mpr hkind)).quiet tr'
      (by simp [received, hfoot]) (by rw [hfoot])
    exact progress_next remaining h (by rw [hfoot]) hledger'
      (Or.inr (hafter _ rfl (by rw [hfoot]) (by rw [hfoot]))) hstartup
  | sent _ _ hfoot hwritten =>
    have hreceived : received tr' = [] := by simp [received, hfoot]
    obtain ⟨groups', hledger'⟩ := hledger.sent (isProtocol_eq_true.mpr hkind) hreceived
      (by rw [hfoot])
    exact progress_next remaining h (by rw [hfoot]) hledger'
      (Or.inr (hafter _ rfl (by rw [hfoot]) (by rw [hfoot]; exact hwritten))) hstartup

lemma conserving_message {close : Bool}
    (hI : Conserving client tr (.handling st (message :: rest) close))
    (turn : Turn proxy (.handling st (message :: rest) close) tr' c')
    (hsmooth : ∀ e ∈ tr', smooth e = true) : Conserving client (tr ++ tr') c' := by
  obtain ⟨rfl, handled, h⟩ := hI
  obtain ⟨remaining, hstage⟩ := h.stage
  rcases hstage with hb | ha
  · obtain ⟨later, hremaining, hssl⟩ := hb.remaining
    have hpre := h.messages_next hb.script_eq
    rw [hremaining] at hpre hb
    cases later with
    | nil => exact conserving_startup h hb (List.cons_prefix_cons.mp hpre).1 turn hsmooth
    | cons first later =>
      have hmessage : message = first := (List.cons_prefix_cons.mp hpre).1
      subst hmessage
      apply conserving_ssl h hb _ turn hsmooth
      apply (client.ssl_kind message _).2
      rw [← hssl]
      simp
  · have hpre := h.messages_next ha.script_eq
    obtain ⟨more, rfl⟩ := hpre
    exact conserving_protocol h ha turn hsmooth

end

lemma conserving_turn (env : SmoothEnvironment client) {c c' : Connection}
    (hI : Conserving client tr c) (turn : Turn proxy c tr' c')
    (hanswers : AnsweredBy env.answer tr tr') : Conserving client (tr ++ tr') c' := by
  have hsmooth : ∀ e ∈ tr', smooth e = true := hanswers.forall_mem env.smooth
  match c, hI, turn with
  | .reading st, hI, turn => exact conserving_reading hI turn hanswers
  | .handling st (message :: rest) close, hI, turn => exact conserving_message hI turn hsmooth
  | .handling st [] close, hI, turn =>
    obtain ⟨rfl, handled, h⟩ := hI
    obtain ⟨groups, held, hledger⟩ := h.ledger
    obtain ⟨remaining, hstage⟩ := h.stage
    cases turn with
    | goOn hfoot =>
      refine ⟨handled, ⟨groups, held, hledger.quiet tr' (by simp [received, hfoot]) (by rw [hfoot])⟩,
        ⟨remaining, ?_⟩, ?_, h.startsUpFirst (by rw [hfoot])⟩
      · refine stage_quiet hstage rfl rfl ?_ ?_ ?_ ?_ <;> rw [hfoot]
      · rw [footprint_append, Footprint.reads_append, hfoot, List.append_nil]
        exact h.reads
    | flushFailed _ hbad => simp [fine, List.all_eq_true.mpr (all_tolerated hsmooth)] at hbad

/-! ## Termination -/

/-- Reads to come, then messages to handle. -/
def workLeft (client : PoliteClient proxy) (tr : Trace) : Connection → ℕ
  | .reading _ =>
    (client.chunks.length - (footprint tr).reads.length) * (client.script.length + 2) + 1
  | .handling _ messages _ =>
    (client.chunks.length - (footprint tr).reads.length) * (client.script.length + 2)
      + messages.length + 2
  | .returned _ => 0

lemma Progress.messages_length_le (h : Progress client tr st handled messages) :
    messages.length ≤ client.script.length := by
  obtain ⟨remaining, hstage⟩ := h.stage
  have hscript : handled ++ remaining = client.script := by
    rcases hstage with hstage | hstage
    · exact hstage.script_eq
    · exact hstage.script_eq
  have hle := (h.messages_next hscript).length_le
  have hlen := congrArg List.length hscript
  rw [List.length_append] at hlen
  omega

lemma workLeft_lt {c c' : Connection} (hI' : Conserving client (tr ++ tr') c')
    (turn : Turn proxy c tr' c') : workLeft client (tr ++ tr') c' < workLeft client tr c := by
  cases turn with
  | readFailed | badFrame | ended | endFailed | streamed | messageFailed | finished | flushFailed =>
    simp [workLeft]
  | @framed _ _ bytes reader messages hfoot =>
    obtain ⟨-, handled, h⟩ := hI'
    have hmessages := h.messages_length_le
    have hreads := h.reads_length_le
    simp only [footprint_append, Footprint.reads_append, hfoot, List.length_append,
      List.length_singleton] at hreads
    simp only [workLeft, footprint_append, Footprint.reads_append, hfoot, List.length_append,
      List.length_singleton]
    -- one read less outweighs the messages it brought
    obtain ⟨left, hleft⟩ : ∃ left,
        client.chunks.length - (footprint tr).reads.length = left + 1 :=
      ⟨client.chunks.length - (footprint tr).reads.length - 1, by omega⟩
    have hleft' : client.chunks.length - ((footprint tr).reads.length + 1) = left := by omega
    rw [hleft, hleft', Nat.succ_mul]
    omega
  | sslRefused _ hfoot | closing _ hfoot | held _ _ hfoot | sent _ _ hfoot
  | accepted _ _ _ hfoot =>
    simp [workLeft, hfoot]
  | turnedAway _ _ hrest hfoot =>
    rcases hrest with rfl | rfl <;> simp [workLeft, hfoot]
  | goOn hfoot => simp [workLeft, hfoot]

end

/-- **Conservation.** Whatever reads the client's stream comes in, `handle_stream` returns; the
payloads are non-empty groups of whole messages that make up the client's protocol messages in
order, none was sent before the startup was accepted, and the client was written the refusals, the
startup response and the responses in the order of the calls. -/
theorem buffered_conservation (proxy : PgliteProxy) (client : PoliteClient proxy)
    (env : SmoothEnvironment client) :
    ∃ n tr, (handleStream proxy).runWith env.answer n [] (.reading .initial)
        = (tr, .returned (.ok ())) ∧ Conserved client tr := by
  have hstart : Conserving client [] (.reading .initial) := by
    refine ⟨[], ⟨[], [], Ledger.initial⟩, ⟨client.script, Or.inl ?_⟩, rfl, ?_⟩
    · exact ⟨⟨client.ssl, rfl, rfl⟩, rfl, rfl, rfl, rfl, rfl, rfl⟩
    · intro before hbefore _
      rw [List.prefix_nil.mp hbefore]
      rfl
  have hstep : ∀ tr c p, Conserving client tr c → (handleStream proxy).next c = some p →
      p.wp fun tr' r => AnsweredBy env.answer tr tr' →
        Conserving client (tr ++ tr') ((handleStream proxy).settle r) ∧
          workLeft client (tr ++ tr') ((handleStream proxy).settle r) < workLeft client tr c := by
    intro tr c p hI hnext
    apply wp_mono (turn_of_next proxy hnext)
    intro tr' r turn hanswers
    have hI' := conserving_turn env hI turn hanswers
    exact ⟨hI', workLeft_lt hI' turn⟩
  obtain ⟨n, hI, hhalted⟩ := (handleStream proxy).exists_runWith_halted _ hstep hstart
  rcases hrun : (handleStream proxy).runWith env.answer n [] (.reading .initial) with ⟨tr, c⟩
  rw [hrun] at hI hhalted
  match c, hI, hhalted with
  | .returned result, hI, _ =>
    obtain ⟨rfl, hconserved⟩ := hI
    exact ⟨n, tr, hrun, hconserved⟩
  | .handling _ [] _, _, hhalted => cases hhalted
  | .handling _ (_ :: _) _, _, hhalted => cases hhalted
  | .reading _, _, hhalted => cases hhalted

/-- `SSLRequest`. -/
def sslRequest : Bytes := [0, 0, 0, 8, 4, 210, 22, 47]

/-- A client that asks for encryption, starts up and sends two messages, in reads that cut the
second and the last message. -/
def plainClient : PoliteClient plainProxy where
  ssl := [sslRequest]
  startup := plainStartup
  protocol := [parseMessage, syncMessage]
  ssl_kind := by decide
  startup_kind := by decide
  startup_config := by decide
  protocol_kind := by decide
  chunks := [sslRequest ++ [0, 0], [0, 9, 0, 3, 0, 0, 0] ++ parseMessage ++ [83], [0, 0, 0, 4]]
  chunks_ne := by decide
  chunks_eq := by decide

/-- A backend that accepts everyone and answers every payload with one byte. -/
def plainEnvironment : SmoothEnvironment plainClient where
  answer history
    | .sendReady => ()
    | .loadShutdown => false
    | .accept => .ok ()
    | .setNonblocking => .ok ()
    | .read => .ok (plainClient.chunks.getD (footprint history).reads.length [])
    | .writeAll _ _ => .ok ()
    | .flush _ => .ok ()
    | .tryCloneForProtocol => .ok ()
    | .openBackend _ => .ok 0
    | .startup _ _ => .ok ⟨[82], true⟩
    | .enableExtensions _ => .ok ()
    | .send _ _ _ => .ok []
    | .supportsProtocolPump _ => true
    | .attachProtocolStream _ => .ok ()
    | .sendWithProtocolPump _ _ _ _ => .ok (.buffered [90])
    | .close _ => ()
  reads _ := rfl
  smooth history op := by
    cases op with
    | send site => cases site <;> rfl
    | _ => rfl

theorem buffered_conservation_plain :
    ∃ n tr, (handleStream plainProxy).runWith plainEnvironment.answer n [] (.reading .initial)
        = (tr, .returned (.ok ())) ∧ Conserved plainClient tr :=
  buffered_conservation plainProxy plainClient plainEnvironment

end PgliteOxide.Pglite
