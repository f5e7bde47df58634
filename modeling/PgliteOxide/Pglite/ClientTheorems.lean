import PgliteOxide.Pglite.Client
import PgliteOxide.Protocol.Feed

/-!
# Isolation of `exec_protocol` calls

A call leaves the client's parser empty when it parses its whole answer, and when a
`DatabaseError` ends it, because then the parser is replaced. Any other failure leaves the
answer in the parser, and the next call parses it again. `Drains` says which answers avoid
that; `execCalls_isolated` is the resulting law for runs of calls.
-/

namespace PgliteOxide.Pglite

open Lib Protocol

/-- The frames of an answer are well-formed up to the first `ErrorResponse` that ends the call;
when none does, all of them are. -/
def Drains (throwOnError : Bool) : List Bytes → Prop
  | [] => True
  | f :: fs => FrameWellFormed f ∧
    (throwOnError = true ∧ f.headD 0 = codeError ∨ Drains throwOnError fs)

/-- The answer a call parses, if the backend gives one. -/
def ExecCall.response (call : ExecCall) : Except Error Bytes :=
  execProtocolRawInner call.backend call.message call.options.syncToFs
    call.options.dataTransferContainer

/-- An answer made of complete frames. -/
def CompleteFrames (data : Bytes) : Prop :=
  ∃ frames : List Bytes, (∀ f ∈ frames, backendFraming.IsFrame f) ∧ data = frames.flatten

/-- The answer of the call, if there is one, drains the parser. -/
def ExecCall.DrainsParser (call : ExecCall) : Prop :=
  ∀ data, call.response = .ok data →
    Drains call.options.throwOnError (backendFraming.cut data).frames

/-- A well-formed `E` frame is decoded to an `ErrorResponse`. -/
lemma decodeFrame_error (build : Build) {f : Bytes} (hf : backendFraming.IsFrame f)
    (hwf : FrameWellFormed f) (hcode : f.headD 0 = codeError) :
    ∃ dbErr, decodeFrame build f = .ok (.error dbErr) := by
  obtain ⟨m, x, tail, hx, hbody⟩ := hwf
  have hreads := decodeFrame_readsAt build hf
  have hdec : decodeFrame build f = .ok m := by
    rw [decodeFrame, handlePacket, hreads.accept m x tail hx hbody]
    rfl
  rw [hcode] at hx
  obtain ⟨fields, _, _, -, ⟨rfl, -⟩, -⟩ := hx
  exact ⟨_, hdec⟩

/-- The closure stops the parse only with a `DatabaseError`, on an `ErrorResponse`. -/
lemma parseCallback_cases (options : ExecProtocolOptions) (s : List BackendMessage × List Event)
    (msg : BackendMessage) :
    (∃ dbErr, msg = .error dbErr ∧ options.throwOnError = true ∧
      parseCallback options s msg = (s, .error (.database dbErr))) ∨
    (∃ s', (∀ dbErr, msg = .error dbErr → options.throwOnError = false) ∧
      parseCallback options s msg = (s', .ok ())) := by
  unfold parseCallback
  split
  · exact .inl ⟨_, rfl, by assumption, rfl⟩
  · rename_i hnot
    refine .inr ⟨_, ?_, rfl⟩
    intro dbErr hmsg
    cases hthrow : options.throwOnError with
    | false => rfl
    | true => exact absurd hthrow (hnot dbErr hmsg)

/-- Delivering frames that drain ends well, or with a `DatabaseError`. -/
lemma deliver_drains (build : Build) (options : ExecProtocolOptions) {fs : List Bytes}
    (hfs : ∀ f ∈ fs, backendFraming.IsFrame f) (h : Drains options.throwOnError fs)
    (s : List BackendMessage × List Event) :
    (deliver build (parseCallback options) fs s).2 = .ok () ∨
      ∃ dbErr, (deliver build (parseCallback options) fs s).2 = .err (.database dbErr) := by
  induction fs generalizing s with
  | nil => exact .inl rfl
  | cons f fs ih =>
    rw [List.forall_mem_cons] at hfs
    obtain ⟨hwf, hnext⟩ := h
    obtain ⟨m, hm⟩ := decodeFrame_eq_ok build hfs.1 hwf
    rw [deliver, hm]
    rcases parseCallback_cases options s m with ⟨dbErr, -, -, hcb⟩ | ⟨s', hnot, hcb⟩
    · exact .inr ⟨dbErr, by simp only [hcb]⟩
    · simp only [hcb]
      refine ih hfs.2 ?_ s'
      rcases hnext with ⟨hthrow, hcode⟩ | hnext
      · obtain ⟨dbErr, herr⟩ := decodeFrame_error build hfs.1 hwf hcode
        rw [hm, Outcome.ok.injEq] at herr
        exact absurd (hnot dbErr herr) (by simp [hthrow])
      · exact hnext

/-- The listeners are not touched by a call. -/
lemma execProtocol_listeners (build : Build) (client : Client) (call : ExecCall) :
    (execProtocol build client call).1
      = { client with parser := (execProtocol build client call).1.parser } := by
  unfold execProtocol
  split
  · rfl
  · simp only
    split <;> rfl

/-- **A draining call leaves an empty parser.** -/
lemma execProtocol_drained (build : Build) {client : Client} {call : ExecCall}
    (hparser : client.parser = Parser.new)
    (hframes : ∀ data, call.response = .ok data → CompleteFrames data)
    (hdrain : call.DrainsParser) : (execProtocol build client call).1.parser = Parser.new := by
  rw [execProtocol]
  cases hresp : execProtocolRawInner call.backend call.message call.options.syncToFs
      call.options.dataTransferContainer with
  | error err => exact hparser
  | ok data =>
    obtain ⟨frames, hall, rfl⟩ := hframes data hresp
    have hcut := cut_frames hall
    have hdrains := hdrain frames.flatten hresp
    rw [hcut] at hdrains
    have hdel := deliver_drains build call.options hall hdrains ([], [])
    simp only [hparser, parse_eq, show Parser.new.buffer = [] from rfl, List.nil_append,
      parseResult, hcut]
    generalize deliver build (parseCallback call.options) frames ([], []) = r at hdel ⊢
    obtain ⟨s, o⟩ := r
    rcases hdel with rfl | ⟨dbErr, rfl⟩ <;> rfl

/-- **Call isolation.** In a run of calls whose answers are complete frames, if every call that
is followed by another drains the parser, each call ends as it would with a new parser: the same
messages or error, the same notices and the same notifications. -/
theorem execCalls_isolated (build : Build) (client : Client) (hparser : client.parser = Parser.new)
    (calls : List ExecCall)
    (hframes : ∀ call ∈ calls, ∀ data, call.response = .ok data → CompleteFrames data)
    (hdrain : ∀ call ∈ calls.dropLast, call.DrainsParser) :
    (execCalls build client calls).2 = calls.map (freshOutcome build client) := by
  induction calls generalizing client with
  | nil => rfl
  | cons call calls ih =>
    rw [List.forall_mem_cons] at hframes
    have hfresh : { client with parser := Parser.new } = client := by rw [← hparser]
    have hhead : freshOutcome build client call = (execProtocol build client call).2 := by
      rw [freshOutcome, hfresh]
    cases calls with
    | nil => simp only [execCalls, List.map_cons, List.map_nil, hhead]
    | cons next calls =>
      rw [List.dropLast_cons_cons, List.forall_mem_cons] at hdrain
      have hempty := execProtocol_drained build hparser hframes.1 hdrain.1
      have hlisteners := execProtocol_listeners build client call
      have hrest := ih (execProtocol build client call).1 hempty hframes.2 hdrain.2
      have hsame : freshOutcome build (execProtocol build client call).1
          = freshOutcome build client := by
        funext call'
        rw [freshOutcome, freshOutcome, hlisteners]
      rw [List.map_cons, hhead, ← hsame, ← hrest]
      rfl

/-- A call whose backend answers `data`. -/
def answering (data : Bytes) : ExecCall where
  message := []
  options := .noSync
  backend := { sendBuffered := fun _ _ => .ok data, syncToFs := .ok () }

/-- `ParseComplete`, then `ReadyForQuery` with an idle status. -/
theorem execCalls_isolated_two_calls :
    (execCalls ⟨false⟩ ⟨Parser.new, [], []⟩
        [answering [49, 0, 0, 0, 4], answering [90, 0, 0, 0, 5, 73]]).2
      = [answering [49, 0, 0, 0, 4], answering [90, 0, 0, 0, 5, 73]].map
          (freshOutcome ⟨false⟩ ⟨Parser.new, [], []⟩) := by
  refine execCalls_isolated ⟨false⟩ ⟨Parser.new, [], []⟩ rfl _ ?_ ?_
  · intro call hcall data hdata
    rcases List.mem_cons.mp hcall with rfl | hcall
    · cases hdata
      exact ⟨[[49, 0, 0, 0, 4]], by decide, rfl⟩
    · rw [List.mem_singleton.mp hcall] at hdata
      cases hdata
      exact ⟨[[90, 0, 0, 0, 5, 73]], by decide, rfl⟩
  · intro call hcall data hdata
    rw [List.dropLast_cons_cons, List.dropLast_singleton, List.mem_singleton] at hcall
    rw [hcall] at hdata
    cases hdata
    have hframe : backendFraming.IsFrame [49, 0, 0, 0, 4] := by decide
    have hcut := cut_frames (List.forall_mem_singleton.mpr hframe)
    rw [show ([49, 0, 0, 0, 4] : Bytes) = [[49, 0, 0, 0, 4]].flatten from rfl, hcut]
    exact ⟨⟨_, [], [], ⟨rfl, rfl⟩, rfl⟩, .inr trivial⟩

/-- After an answer with an unknown tag, the next call reports that tag again, although its own
answer is a `ParseComplete`. -/
theorem execCalls_not_isolated :
    (execCalls ⟨false⟩ ⟨Parser.new, [], []⟩
        [answering [88, 0, 0, 0, 4], answering [49, 0, 0, 0, 4]]).2
      ≠ [answering [88, 0, 0, 0, 4], answering [49, 0, 0, 0, 4]].map
          (freshOutcome ⟨false⟩ ⟨Parser.new, [], []⟩) := by
  decide

end PgliteOxide.Pglite
