import PgliteOxide.Pglite.Ledger
import PgliteOxide.Pglite.Pump

/-!
# What the proxy does on the socket

A program of the proxy reads the socket, or sends its batch, or does neither. `Promise` says so of
what is left of a program, operation by operation: the form in which the backend, which reads the
same socket, can rely on it. Every program of `handle_stream` keeps it (`promise_turn`).
-/

namespace PgliteOxide.Pglite

open Lib Prog

/-- The bytes of the protocol messages among these. -/
def forwarded (messages : List Bytes) : Bytes := (messages.filter isProtocol).flatten

/-- The bytes that the proxy has read and not taken up in this turn: the remaining messages of the
read, then the incomplete one. -/
def heldBack : Connection → Bytes
  | .reading st => st.reader.pending
  | .handling st [] _ => st.reader.pending
  | .handling st (_ :: rest) _ => continuationPrefix rest st.reader
  | .returned _ => []

/-- Operations other than reading the socket and sending a batch. -/
def offSocket : Op → Prop
  | .read | .sendWithProtocolPump _ _ _ _ => False
  | _ => True

/-- The program only ends the connection. -/
def Over (p : ProxyM Connection) : Prop :=
  p.keepsTo offSocket fun c => ∃ result, c = .returned result

section Promise

variable (client : Bytes) (handled : List Bytes) (held : Bytes)

/-- The books at the end of a turn, for a client whose messages `handled` were taken up: the backend
has obtained all of them but the batch, and the proxy holds the bytes between them and the socket.
The messages after a rejected startup are dropped. -/
def Books (socket obtained : Bytes) : Connection → Prop
  | .reading st => obtained ++ st.protocolBatch = forwarded handled ∧
      handled.flatten ++ (st.reader.pending ++ socket) = client
  | .handling st messages close => obtained ++ st.protocolBatch = forwarded handled ∧
      (handled.flatten ++ (messages.flatten ++ (st.reader.pending ++ socket)) = client ∨
        messages = [] ∧ close = true)
  | .returned _ => True

/-- What is left of the program reads the socket in turn, sends the batch up to the last message
taken up, and ends with the books in order. -/
def Promise : Bytes → Bytes → ProxyM Connection → Prop
  | socket, obtained, .ret c => Books client handled socket obtained c
  | _, _, .fail _ => True
  | socket, obtained, .call .read next =>
    (∀ kind, Promise socket obtained (next (.error kind))) ∧
      ∀ n, Promise (socket.drop n) obtained (next (.ok (socket.take n)))
  | socket, obtained, .call (.sendWithProtocolPump _ _ message _) next =>
    obtained ++ message = forwarded handled ∧ handled.flatten ++ (held ++ socket) = client ∧
      (∀ response, Promise socket (forwarded handled) (next (.ok (.buffered response)))) ∧
      Over (next (.ok .streamed)) ∧ ∀ err, Over (next (.error err))
  | socket, obtained, .call _ next => ∀ ans, Promise socket obtained (next ans)

variable {client handled held} {socket obtained : Bytes}

lemma promise_call {op : Op} {next : Answer op → ProxyM Connection} (hop : offSocket op)
    (h : ∀ ans, Promise client handled held socket obtained (next ans)) :
    Promise client handled held socket obtained (.call op next) := by
  cases op with
  | read => exact absurd hop id
  | sendWithProtocolPump => exact absurd hop id
  | _ => exact h

lemma promise_perform {op : Op} {f : Answer op → ProxyM Connection} (hop : offSocket op)
    (h : ∀ ans, Promise client handled held socket obtained (f ans)) :
    Promise client handled held socket obtained (perform op >>= f) :=
  promise_call hop h

/-- Programs that stay off the socket. -/
lemma promise_bind {α : Type} {p : ProxyM α} {f : α → ProxyM Connection}
    (h : p.keepsTo offSocket fun a => Promise client handled held socket obtained (f a)) :
    Promise client handled held socket obtained (p >>= f) := by
  induction p with
  | ret a => exact h
  | fail e => trivial
  | call op next ih => exact promise_call h.1 fun ans => ih ans (h.2 ans)

lemma promise_of_keepsTo {p : ProxyM Connection}
    (h : p.keepsTo offSocket (Books client handled socket obtained)) :
    Promise client handled held socket obtained p := by
  induction p with
  | ret c => exact h
  | fail e => trivial
  | call op next ih => exact promise_call h.1 fun ans => ih ans (h.2 ans)

lemma writeBackendResponse_offSocket (response : Bytes) :
    (writeBackendResponse response).keepsTo offSocket fun _ => True := by
  unfold writeBackendResponse
  split_ifs
  · trivial
  · rw [keepsTo_bind]
    refine ⟨trivial, fun ans => ?_⟩
    rcases ans with kind | ⟨⟩ <;> trivial

/-- Sending a batch. -/
lemma promise_flushProtocolBatch {site : FlushSite} {batch : Bytes} (hne : batch ≠ [])
    {backend : Handle} {continuation : Bytes} {f : FlushOutcome → ProxyM Connection}
    (hbatch : obtained ++ batch = forwarded handled)
    (hclient : handled.flatten ++ (held ++ socket) = client)
    (hcontinue : Promise client handled held socket (forwarded handled) (f .continue))
    (hstreamed : Over (f .streamed)) :
    Promise client handled held socket obtained
      (flushProtocolBatch site batch backend continuation >>= f) := by
  unfold flushProtocolBatch
  rw [if_neg hne]
  refine ⟨hbatch, hclient, ?_, hstreamed, fun err => trivial⟩
  intro response
  show Promise client handled held socket (forwarded handled)
    ((do writeBackendResponse response; return .continue : ProxyM FlushOutcome) >>= f)
  apply promise_bind
  rw [keepsTo_bind]
  exact keepsTo_mono (writeBackendResponse_offSocket response) fun _ _ => hcontinue

/-- Sending the batch before a control packet or at the end of the stream. -/
lemma promise_flushProtocolBatchIfStarted {st : StreamState} {f : StreamState → ProxyM Connection}
    (hbatch : obtained ++ st.protocolBatch = forwarded handled)
    (hclient : handled.flatten ++ (held ++ socket) = client)
    (hf : Promise client handled held socket (forwarded handled)
      (f { st with protocolBatch := [] })) :
    Promise client handled held socket obtained (flushProtocolBatchIfStarted st >>= f) := by
  unfold flushProtocolBatchIfStarted
  split_ifs with hempty
  · rw [hempty, List.append_nil] at hbatch
    have hst : st = { st with protocolBatch := [] } := by rw [← hempty]
    rw [hst, hbatch]
    exact hf
  · cases hbackend : st.backend with
    | none => trivial
    | some backend =>
      rw [hbackend] at hf
      dsimp only
      rw [bind_assoc]
      exact promise_flushProtocolBatch hempty hbatch hclient hf trivial

/-! ### One program after the other -/

lemma resetSessionState_offSocket (backend : Handle) (sqls : List String) :
    (resetSessionState backend sqls).keepsTo offSocket fun _ => True := by
  induction sqls with
  | nil => trivial
  | cons sql sqls ih =>
    simp only [resetSessionState, keepsTo_bind, keepsTo_perform]
    refine ⟨trivial, fun ans => ?_⟩
    rcases ans with err | response
    · trivial
    · dsimp only
      split_ifs
      · trivial
      · exact ih

lemma connectionCleanup_over (backend : Option Handle) (result : Except ProxyError Unit) :
    Over (do connectionCleanup backend; return .returned result) := by
  unfold Over
  rw [keepsTo_bind]
  cases backend with
  | none => exact ⟨result, rfl⟩
  | some backend =>
    simp only [connectionCleanup, rollbackConnectionState, closeBackend, keepsTo_bind]
    apply keepsTo_mono (resetSessionState_offSocket backend _)
    intro _ _
    exact ⟨trivial, fun _ => ⟨result, rfl⟩⟩

lemma promise_of_over {p : ProxyM Connection} (h : Over p) :
    Promise client handled held socket obtained p := by
  apply promise_of_keepsTo
  apply keepsTo_mono h
  rintro _ ⟨result, rfl⟩
  trivial

lemma flatten_push {reader reader' : FrontendFrameReader} {bytes : Bytes} {messages : List Bytes}
    (hpush : reader.push bytes = (reader', .ok messages)) :
    messages.flatten ++ reader'.pending = reader.pending ++ bytes := by
  have hcut := frontendFraming.cut_flatten (reader.buffer ++ bytes)
  rw [push_eq] at hpush
  rcases h : frontendFraming.cut (reader.buffer ++ bytes) with ⟨frames, rest, error | _⟩
  · rw [h] at hpush hcut
    cases hpush
    exact hcut
  · rw [h] at hpush
    cases hpush

lemma promise_readFrontend {st : StreamState}
    (hbatch : obtained ++ st.protocolBatch = forwarded handled)
    (hclient : handled.flatten ++ (st.reader.pending ++ socket) = client) :
    Promise client handled st.reader.pending socket obtained (readFrontend st) := by
  refine ⟨fun kind => trivial, fun n => ?_⟩
  show Promise client handled st.reader.pending (socket.drop n) obtained
    (if socket.take n = [] then _ else _)
  split_ifs with hend
  · have hdrop : socket.drop n = socket := by
      have := List.take_append_drop n socket
      rwa [hend, List.nil_append] at this
    rw [hdrop]
    apply promise_flushProtocolBatchIfStarted hbatch hclient
    exact promise_of_over (connectionCleanup_over _ _)
  · rcases hpush : st.reader.push (socket.take n) with ⟨reader, e | messages⟩
    · trivial
    · refine ⟨hbatch, Or.inl ?_⟩
      rw [← List.append_assoc messages.flatten, flatten_push hpush, List.append_assoc,
        List.take_append_drop]
      exact hclient

lemma promise_endTurn {st : StreamState} {close : Bool}
    (hbatch : obtained ++ st.protocolBatch = forwarded handled)
    (hclient : handled.flatten ++ (st.reader.pending ++ socket) = client ∨ close = true) :
    Promise client handled held socket obtained (endTurn st close) := by
  refine promise_perform trivial fun ans => ?_
  rcases ans with kind | ⟨⟩
  · dsimp only
    split_ifs
    · exact promise_of_over (connectionCleanup_over _ _)
    · trivial
  · dsimp only
    split_ifs with hclose
    · exact promise_of_over (connectionCleanup_over _ _)
    · exact ⟨hbatch, hclient.resolve_right hclose⟩

lemma writeFrontend_offSocket (site : WriteSite) (bytes : Bytes) :
    (writeFrontend site bytes).keepsTo offSocket fun _ => True := by
  simp only [writeFrontend, keepsTo_bind, keepsTo_perform]
  refine ⟨trivial, fun ans => ?_⟩
  rcases ans with kind | ⟨⟩
  · dsimp only
    split_ifs <;> trivial
  · trivial

lemma setRole_offSocket (backend : Handle) (user : String) :
    (setRole backend user).keepsTo offSocket fun _ => True := by
  simp only [setRole, keepsTo_bind, keepsTo_perform]
  refine ⟨trivial, fun ans => ?_⟩
  rcases ans with err | response <;> trivial

lemma startupRoleRejected_offSocket (opened : Handle) (message : Bytes) :
    (startupRoleRejected opened message).keepsTo offSocket fun _ => True := by
  simp only [startupRoleRejected, keepsTo_bind, keepsTo_perform]
  refine ⟨trivial, fun ans => ?_⟩
  rcases ans with err | ⟨⟩
  · trivial
  · rcases startupParameter message "user" with e | _ | user
    · trivial
    · trivial
    · dsimp only
      split_ifs
      · trivial
      · rw [keepsTo_bind]
        apply keepsTo_mono (setRole_offSocket opened user)
        intro response _
        split_ifs
        · rw [keepsTo_bind]
          apply keepsTo_mono (writeFrontend_offSocket _ _)
          intro _ _
          exact ⟨trivial, fun _ => trivial⟩
        · trivial

/-- A startup leaves the books alone, or drops the rest of the read. -/
def startedFrom (st : StreamState) (rest : List Bytes) : Connection → Prop
  | .handling st' rest' close => st'.reader = st.reader ∧ st'.protocolBatch = st.protocolBatch ∧
      (rest' = rest ∨ rest' = [] ∧ close = true)
  | _ => False

lemma finishStartup_offSocket (st : StreamState) (opened : Handle) (accepted : Bool)
    (rest : List Bytes) (close : Bool) :
    (finishStartup st opened accepted rest close).keepsTo offSocket (startedFrom st rest) := by
  unfold finishStartup
  split_ifs
  · simp only [keepsTo_bind, keepsTo_perform]
    refine ⟨trivial, fun supports => ?_⟩
    split_ifs
    · simp only [keepsTo_bind, keepsTo_perform]
      refine ⟨trivial, fun ans => ?_⟩
      rcases ans with kind | ⟨⟩
      · trivial
      · simp only [keepsTo_bind, keepsTo_perform]
        refine ⟨trivial, fun ans => ?_⟩
        rcases ans with err | ⟨⟩
        · trivial
        · exact ⟨rfl, rfl, Or.inl rfl⟩
    · exact ⟨rfl, rfl, Or.inl rfl⟩
  · exact ⟨trivial, fun _ => ⟨rfl, rfl, Or.inl rfl⟩⟩

lemma startOpened_offSocket (st : StreamState) (opened : Handle) (message : Bytes)
    (rest : List Bytes) (close : Bool) :
    (startOpened st opened message rest close).keepsTo offSocket (startedFrom st rest) := by
  simp only [startOpened, keepsTo_bind, keepsTo_perform]
  refine ⟨trivial, fun ans => ?_⟩
  rcases ans with err | response
  · trivial
  -- what follows once the role is settled
  have hdropped : startedFrom st rest (.handling st [] true) := ⟨rfl, rfl, Or.inr ⟨rfl, rfl⟩⟩
  have hwrite : ∀ accepted : Bool, (do
      let written ← writeFrontend .startupResponse response.output
      if written then finishStartup st opened accepted rest close
      else do
        closeBackend opened
        return .handling st [] true : ProxyM Connection).keepsTo offSocket
          (startedFrom st rest) := by
    intro accepted
    rw [keepsTo_bind]
    apply keepsTo_mono (writeFrontend_offSocket _ _)
    intro written _
    split_ifs
    · exact finishStartup_offSocket st opened accepted rest close
    · exact ⟨trivial, fun _ => hdropped⟩
  dsimp only
  split_ifs
  · rw [keepsTo_bind]
    apply keepsTo_mono (startupRoleRejected_offSocket opened message)
    intro roleRejected _
    split_ifs
    · exact hdropped
    · exact hwrite _
  · exact hwrite _

/-- A startup packet: the batch is empty, or the connection ends. -/
lemma promise_handleStartup (proxy : PgliteProxy) {st : StreamState} {message : Bytes}
    {rest : List Bytes} {close : Bool}
    (hbatch : obtained ++ st.protocolBatch = forwarded handled)
    (hclient : handled.flatten ++ (rest.flatten ++ (st.reader.pending ++ socket)) = client) :
    Promise client handled held socket obtained (handleStartup proxy st message rest close) := by
  have hbooks : ∀ c, startedFrom st rest c → Books client handled socket obtained c := by
    intro c hc
    cases c with
    | reading st' => exact absurd hc id
    | handling st' rest' close' =>
      obtain ⟨hreader, hbatch', hrest⟩ := hc
      refine ⟨by rw [hbatch', hbatch], ?_⟩
      rcases hrest with hrest | hdropped
      · left
        rw [hrest, hreader]
        exact hclient
      · exact Or.inr hdropped
    | returned result => trivial
  unfold handleStartup
  split_ifs with hbackend
  · trivial
  · have hnone : st.backend = none := by simpa using hbackend
    by_cases hempty : st.protocolBatch = []
    · have hflush : flushProtocolBatchIfStarted st = pure st := if_pos hempty
      rw [hflush, bind_of_pure]
      rcases startupConfigForMessage proxy.startupConfig message with text | config
      · trivial
      · refine promise_perform trivial fun ans => ?_
        rcases ans with err | opened
        · apply promise_of_keepsTo
          rw [keepsTo_bind]
          apply keepsTo_mono (writeFrontend_offSocket _ _)
          intro _ _
          exact hbooks _ ⟨rfl, rfl, Or.inr ⟨rfl, rfl⟩⟩
        · apply promise_of_keepsTo
          exact keepsTo_mono (startOpened_offSocket st opened message rest close) hbooks
    · have hflush : flushProtocolBatchIfStarted st
          = Prog.fail (.text "frontend protocol message arrived before startup") := by
        simp only [flushProtocolBatchIfStarted, hempty, hnone, if_false]
      rw [hflush]
      trivial

/-- A protocol message is put into the batch, and the batch may be sent. -/
lemma promise_handleProtocol {st : StreamState} {message : Bytes} {rest : List Bytes} {close : Bool}
    (hne : message ≠ []) (hbatch : obtained ++ (st.protocolBatch ++ message) = forwarded handled)
    (hclient : handled.flatten ++ (continuationPrefix rest st.reader ++ socket) = client) :
    Promise client handled (continuationPrefix rest st.reader) socket obtained
      (handleProtocol st message rest close) := by
  have hrest : handled.flatten ++ (rest.flatten ++ (st.reader.pending ++ socket)) = client := by
    rw [← hclient, continuationPrefix, List.append_assoc]
  simp only [handleProtocol]
  split_ifs
  · cases hbackend : st.backend with
    | none => trivial
    | some backend =>
      apply promise_flushProtocolBatch (by simp [hne]) hbatch hclient
      · exact ⟨by rw [List.append_nil], Or.inl hrest⟩
      · exact ⟨trivial, fun _ => ⟨_, rfl⟩⟩
  · exact ⟨hbatch, Or.inl hrest⟩

lemma forwarded_append_control {message : Bytes} (h : isProtocol message = false) :
    forwarded (handled ++ [message]) = forwarded handled := by
  simp [forwarded, h]

lemma forwarded_append_protocol {message : Bytes} (h : isProtocol message = true) :
    forwarded (handled ++ [message]) = forwarded handled ++ message := by
  simp [forwarded, h]

lemma promise_handleMessage (proxy : PgliteProxy) {st : StreamState} {message : Bytes}
    {rest : List Bytes} {close : Bool}
    (hbatch : obtained ++ st.protocolBatch = forwarded handled)
    (hclient : handled.flatten ++
      ((message :: rest).flatten ++ (st.reader.pending ++ socket)) = client) :
    Promise client (handled ++ [message]) (continuationPrefix rest st.reader) socket obtained
      (handleMessage proxy st message rest close) := by
  have hrest : (handled ++ [message]).flatten ++
      (rest.flatten ++ (st.reader.pending ++ socket)) = client := by
    rw [← hclient]
    simp
  have hheld : (handled ++ [message]).flatten ++
      (continuationPrefix rest st.reader ++ socket) = client := by
    rw [← hrest, continuationPrefix, List.append_assoc (rest.flatten)]
  rcases hkind : classifyFrontendMessage message with e | kind
  · simp only [handleMessage, hkind]
    trivial
  by_cases hprotocol : kind = .protocol
  · simp only [handleMessage, hkind, hprotocol]
    have hmessage : isProtocol message = true := by rw [isProtocol_eq_true, hkind, hprotocol]
    apply promise_handleProtocol (ne_nil_of_isProtocol hmessage) _ hheld
    rw [forwarded_append_protocol hmessage, ← List.append_assoc, hbatch]
  · -- a control packet: the books are those before it
    rw [← forwarded_append_control (isProtocol_eq_false hkind hprotocol)] at hbatch
    have hbooks : ∀ close', Books client (handled ++ [message]) socket
        (forwarded (handled ++ [message])) (.handling { st with protocolBatch := [] } rest close') :=
      fun close' => ⟨List.append_nil _, Or.inl hrest⟩
    cases kind with
    | protocol => exact absurd rfl hprotocol
    | startup =>
      simp only [handleMessage, hkind]
      exact promise_handleStartup proxy hbatch hrest
    | sslOrGssRequest =>
      simp only [handleMessage, hkind]
      apply promise_flushProtocolBatchIfStarted hbatch hheld
      apply promise_bind
      exact keepsTo_mono (writeFrontend_offSocket _ _) fun _ _ => hbooks _
    | cancelRequest =>
      simp only [handleMessage, hkind]
      exact promise_flushProtocolBatchIfStarted hbatch hheld (hbooks true)
    | terminate =>
      simp only [handleMessage, hkind]
      exact promise_flushProtocolBatchIfStarted hbatch hheld (hbooks true)

/-- **Every program of the proxy keeps the promise**, when the books were in order before it. -/
lemma promise_turn (proxy : PgliteProxy) {c : Connection} {prog : ProxyM Connection}
    (hbooks : Books client handled socket obtained c)
    (hnext : handleStreamNext proxy c = some prog) :
    Promise client (handled ++ c.takenUp) (heldBack c) socket obtained prog := by
  match c, hnext with
  | .reading st, hnext =>
    cases hnext
    simp only [Connection.takenUp, List.append_nil]
    exact promise_readFrontend hbooks.1 hbooks.2
  | .handling st [] close, hnext =>
    cases hnext
    simp only [Connection.takenUp, List.append_nil]
    exact promise_endTurn hbooks.1 (hbooks.2.imp id And.right)
  | .handling st (message :: rest) close, hnext =>
    cases hnext
    rcases hbooks with ⟨hbatch, hclient | ⟨hnil, -⟩⟩
    · exact promise_handleMessage proxy hbatch hclient
    · cases hnil

end Promise

end PgliteOxide.Pglite
