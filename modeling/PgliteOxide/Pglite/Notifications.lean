import PgliteOxide.Pglite.ClientTheorems
import PgliteOxide.Pglite.SessionTheorems

/-!
# Delivery of notifications

What one exchange does with a well-formed response: either every message is taken and the
listeners are called, or an `ErrorResponse` ends the call and no listener is called at all.
Along any run of operations, an exchange delivers the notifications of its response exactly when
its response has no `ErrorResponse`, or the caller asked for errors to be returned as messages,
or there was nothing to deliver.
-/

namespace PgliteOxide.Pglite

open Lib Protocol

/-! ## Responses -/

/-- A response made of well-formed messages. -/
def WellFormedResponse (data : Bytes) : Prop :=
  ∃ frames : List Bytes, (∀ f ∈ frames, backendFraming.IsFrame f) ∧
    (∀ f ∈ frames, FrameWellFormed f) ∧ data = frames.flatten

/-- The message of a frame. -/
def frameMessage (build : Build) (f : Bytes) : Option BackendMessage :=
  match decodeFrame build f with
  | .ok m => some m
  | _ => none

/-- The messages of a response. -/
def responseMessages (build : Build) (data : Bytes) : List BackendMessage :=
  (backendFraming.cut data).frames.filterMap (frameMessage build)

/-- `ErrorResponse`. -/
def isErrorResponse : BackendMessage → Bool
  | .error _ => true
  | _ => false

/-- The response has an `ErrorResponse`. -/
def HasErrorResponse (build : Build) (data : Bytes) : Prop :=
  ∃ m ∈ responseMessages build data, isErrorResponse m = true

/-- A frame that decodes is well-formed. -/
lemma frameWellFormed_of_isSome (build : Build) {f : Bytes} (hf : backendFraming.IsFrame f)
    (h : (frameMessage build f).isSome) : FrameWellFormed f := by
  by_contra hwf
  by_cases hhaz : FrameHazard f
  · rw [frameMessage, decodeFrame_eq_panic build hf hhaz] at h
    simp at h
  · obtain ⟨e, he⟩ := decodeFrame_eq_err build hf hhaz hwf
    rw [frameMessage, he] at h
    simp at h

/-- Frames that decode make a well-formed response. -/
lemma wellFormedResponse_of_frames (build : Build) {frames : List Bytes}
    (hframes : ∀ f ∈ frames, backendFraming.IsFrame f)
    (hdec : ∀ f ∈ frames, (frameMessage build f).isSome) : WellFormedResponse frames.flatten :=
  ⟨frames, hframes, fun f hf => frameWellFormed_of_isSome build (hframes f hf) (hdec f hf), rfl⟩

/-- Call back for messages until one is refused. -/
def feedMessages {τ : Type} (callback : τ → BackendMessage → τ × Except Error Unit) :
    List BackendMessage → τ → τ × Outcome Error Unit
  | [], s => (s, .ok ())
  | m :: ms, s =>
    match callback s m with
    | (s', .error e) => (s', .err e)
    | (s', .ok ()) => feedMessages callback ms s'

/-- Well-formed frames are delivered message by message. -/
lemma deliver_eq_feedMessages {τ : Type} (build : Build)
    (callback : τ → BackendMessage → τ × Except Error Unit) {frames : List Bytes}
    (hframes : ∀ f ∈ frames, backendFraming.IsFrame f)
    (hwf : ∀ f ∈ frames, FrameWellFormed f) (s : τ) :
    deliver build callback frames s
      = feedMessages callback (frames.filterMap (frameMessage build)) s := by
  induction frames generalizing s with
  | nil => rfl
  | cons f frames ih =>
    rw [List.forall_mem_cons] at hframes hwf
    obtain ⟨m, hm⟩ := decodeFrame_eq_ok build hframes.1 hwf.1
    have hframe : frameMessage build f = some m := by rw [frameMessage, hm]
    rw [List.filterMap_cons_some hframe, deliver, feedMessages, hm]
    simp only
    generalize callback s m = r
    obtain ⟨s', o⟩ := r
    cases o with
    | error e => rfl
    | ok u => exact ih hframes.2 hwf.2 s'

/-! ## One exchange -/

/-- The notice callbacks of a list of messages. -/
def noticeEvents (onNotice : Option CallbackId) : List BackendMessage → List Event
  | [] => []
  | .notice notice :: ms =>
    (onNotice.map (Event.notice · notice)).toList ++ noticeEvents onNotice ms
  | _ :: ms => noticeEvents onNotice ms

/-- The closure on a message it takes. -/
lemma parseCallback_taken (options : ExecProtocolOptions) (s : List BackendMessage × List Event)
    {m : BackendMessage} (h : options.throwOnError = false ∨ isErrorResponse m = false) :
    parseCallback options s m
      = ((s.1 ++ [m], s.2 ++ noticeEvents options.onNotice [m]), .ok ()) := by
  unfold parseCallback
  split
  · rename_i hthrow
    rw [hthrow] at h
    simp [isErrorResponse] at h
  · rename_i m _ _ _
    cases options.onNotice with
    | none => cases m <;> simp [noticeEvents]
    | some callback => cases m <;> simp [noticeEvents]

lemma noticeEvents_cons (onNotice : Option CallbackId) (m : BackendMessage)
    (ms : List BackendMessage) :
    noticeEvents onNotice (m :: ms) = noticeEvents onNotice [m] ++ noticeEvents onNotice ms := by
  cases m <;> simp [noticeEvents]

/-- Messages the closure takes are all collected. -/
lemma feedMessages_taken (options : ExecProtocolOptions) {ms : List BackendMessage}
    (h : options.throwOnError = false ∨ ∀ m ∈ ms, isErrorResponse m = false)
    (s : List BackendMessage × List Event) :
    feedMessages (parseCallback options) ms s
      = ((s.1 ++ ms, s.2 ++ noticeEvents options.onNotice ms), .ok ()) := by
  induction ms generalizing s with
  | nil => simp [feedMessages, noticeEvents]
  | cons m ms ih =>
    rw [List.forall_mem_cons] at h
    have hm : options.throwOnError = false ∨ isErrorResponse m = false := h.imp_right And.left
    rw [feedMessages, parseCallback_taken options s hm]
    simp only
    rw [ih (h.imp_right And.right), noticeEvents_cons options.onNotice m ms]
    simp only [List.append_assoc, List.cons_append, List.nil_append]

/-- An `ErrorResponse` ends the call; only notices were called back. -/
lemma feedMessages_refused (options : ExecProtocolOptions) (hthrow : options.throwOnError = true)
    {ms : List BackendMessage} (h : ∃ m ∈ ms, isErrorResponse m = true)
    (s : List BackendMessage × List Event) :
    ∃ taken dbErr, feedMessages (parseCallback options) ms s
      = ((s.1 ++ taken, s.2 ++ noticeEvents options.onNotice taken), .err (.database dbErr)) := by
  induction ms generalizing s with
  | nil => simp at h
  | cons m ms ih =>
    by_cases hm : isErrorResponse m = true
    · cases m with
      | error dbErr =>
        refine ⟨[], dbErr, ?_⟩
        simp only [feedMessages, parseCallback, hthrow, noticeEvents, List.append_nil]
      | _ => simp [isErrorResponse] at hm
    · have hrest : ∃ m ∈ ms, isErrorResponse m = true := by
        obtain ⟨m', hmem, herr⟩ := h
        rcases List.mem_cons.mp hmem with rfl | hmem
        · exact absurd herr hm
        · exact ⟨m', hmem, herr⟩
      rw [feedMessages, parseCallback_taken options s (.inr (by simpa using hm))]
      simp only
      obtain ⟨taken, dbErr, hfeed⟩ :=
        ih hrest (s.1 ++ [m], s.2 ++ noticeEvents options.onNotice [m])
      refine ⟨m :: taken, dbErr, ?_⟩
      rw [hfeed, noticeEvents_cons options.onNotice m taken]
      simp only [List.append_assoc, List.cons_append, List.nil_append]

/-- What `parse` makes of a well-formed response when nothing is left from before. -/
lemma parse_wellFormed (build : Build) (options : ExecProtocolOptions) {data : Bytes}
    (h : WellFormedResponse data) :
    Parser.new.parse build (parseCallback options) data ([], [])
      = (let r := feedMessages (parseCallback options) (responseMessages build data) ([], [])
         ⟨⟨if r.2 = .ok () then [] else data⟩, r.1, r.2⟩) := by
  obtain ⟨frames, hframes, hwf, rfl⟩ := h
  have hcut := cut_frames hframes
  rw [parse_eq, show Parser.new.buffer = [] from rfl, List.nil_append, parseResult, hcut]
  simp only [responseMessages, hcut, deliver_eq_feedMessages build _ hframes hwf]
  generalize feedMessages (parseCallback options) _ _ = r
  obtain ⟨s, o⟩ := r
  cases o with
  | ok u => rfl
  | err e => simp
  | panic => simp

/-- A call that takes every message of its response. -/
lemma execProtocol_taken (build : Build) {client : Client} (hparser : client.parser = Parser.new)
    {call : ExecCall} {data : Bytes} (hresp : call.response = .ok data)
    (hwf : WellFormedResponse data)
    (h : call.options.throwOnError = false ∨ ¬ HasErrorResponse build data) :
    execProtocol build client call
      = (client,
          { result := .ok { data, messages := responseMessages build data }
            events := noticeEvents call.options.onNotice (responseMessages build data)
              ++ deliverNotifications client (responseMessages build data) }) := by
  have htaken : call.options.throwOnError = false ∨
      ∀ m ∈ responseMessages build data, isErrorResponse m = false := by
    refine h.imp_right fun hno m hm => ?_
    by_contra herr
    exact hno ⟨m, hm, by simpa using herr⟩
  have hclient : { client with parser := Parser.new } = client := by rw [← hparser]
  unfold ExecCall.response at hresp
  simp only [execProtocol, hresp, hparser, parse_wellFormed build call.options hwf,
    feedMessages_taken call.options htaken, if_true, List.nil_append]
  rw [show (⟨[]⟩ : Parser) = Parser.new from rfl, hclient]

/-- A call that an `ErrorResponse` ends: the parser is replaced, and no listener is called. -/
lemma execProtocol_refused (build : Build) {client : Client}
    (hparser : client.parser = Parser.new) {call : ExecCall} {data : Bytes}
    (hresp : call.response = .ok data) (hwf : WellFormedResponse data)
    (hthrow : call.options.throwOnError = true) (herr : HasErrorResponse build data) :
    ∃ taken dbErr, execProtocol build client call
      = (client,
          { result := .err (.database dbErr)
            events := noticeEvents call.options.onNotice taken }) := by
  obtain ⟨taken, dbErr, hfeed⟩ := feedMessages_refused call.options hthrow herr ([], [])
  have hclient : { client with parser := Parser.new } = client := by rw [← hparser]
  refine ⟨taken, dbErr, ?_⟩
  unfold ExecCall.response at hresp
  simp only [execProtocol, hresp, hparser, parse_wellFormed build call.options hwf, hfeed,
    List.nil_append]
  rw [hclient]

/-! ## Deliveries -/

/-- A call of a listener. -/
def Event.isDelivery : Event → Bool
  | .notice .. => false
  | .channelListener .. => true
  | .globalListener .. => true

/-- Everyone who is to hear of a notification: the listeners of its channel, then the global
ones. -/
def deliveries (client : Client) (note : NotificationResponseMessage) : List Event :=
  ((client.notifyListeners.lookup note.channel).getD []).map
      (fun listener => .channelListener listener note.payload)
    ++ client.globalNotifyListeners.map
      (fun listener => .globalListener listener note.channel note.payload)

/-- The deliveries the messages of a response ask for, in response order. -/
def expectedDeliveries (client : Client) (messages : List BackendMessage) : List Event :=
  messages.flatMap fun
    | .notification note => deliveries client note
    | _ => []

lemma deliverNotifications_eq (client : Client) (messages : List BackendMessage) :
    deliverNotifications client messages = expectedDeliveries client messages := by
  induction messages with
  | nil => rfl
  | cons m messages ih =>
    unfold expectedDeliveries at ih ⊢
    rw [List.flatMap_cons, ← ih]
    cases m <;> simp [deliverNotifications, deliveries]

lemma filter_noticeEvents (onNotice : Option CallbackId) (messages : List BackendMessage) :
    (noticeEvents onNotice messages).filter Event.isDelivery = [] := by
  induction messages with
  | nil => rfl
  | cons m messages ih =>
    rw [noticeEvents_cons, List.filter_append, ih, List.append_nil]
    cases onNotice <;> cases m <;> simp [noticeEvents, Event.isDelivery]

lemma filter_expectedDeliveries (client : Client) (messages : List BackendMessage) :
    (expectedDeliveries client messages).filter Event.isDelivery
      = expectedDeliveries client messages := by
  rw [List.filter_eq_self]
  intro event hevent
  unfold expectedDeliveries at hevent
  obtain ⟨m, -, hm⟩ := List.mem_flatMap.mp hevent
  cases m with
  | notification note =>
    simp only [deliveries, List.mem_append, List.mem_map] at hm
    rcases hm with ⟨_, -, rfl⟩ | ⟨_, -, rfl⟩ <;> rfl
  | _ => simp at hm

namespace Exchange

/-- The listener calls an exchange made. -/
def delivered (e : Exchange) : List Event := e.outcome.events.filter Event.isDelivery

/-- Each notification of the response was delivered, in order and once, to every listener that
was registered when the exchange began. -/
def Delivers (build : Build) (e : Exchange) (data : Bytes) : Prop :=
  e.delivered = expectedDeliveries e.client (responseMessages build data)

/-- Errors are returned as messages, or the response has none, or nobody is to be told. -/
def SafeToDeliver (build : Build) (e : Exchange) (data : Bytes) : Prop :=
  e.options.throwOnError = false ∨ ¬ HasErrorResponse build data ∨
    expectedDeliveries e.client (responseMessages build data) = []

end Exchange

lemma Session.response_exchangeCall (request : Request) (options : ExecProtocolOptions)
    (response : Except Error Bytes) :
    (exchangeCall request options response).response = response := by
  unfold ExecCall.response exchangeCall execProtocolRawInner
  cases response with
  | error err => rfl
  | ok data => cases options.syncToFs <;> rfl

/-- **One exchange**, with nothing left in the parser: its listeners are called exactly when it
is safe to deliver, and nothing is left in the parser again. -/
lemma exchange_delivers_iff (build : Build) {client : Client}
    (hparser : client.parser = Parser.new) (request : Request) (options : ExecProtocolOptions)
    {data : Bytes} (hwf : WellFormedResponse data) :
    let r := execProtocol build client (Session.exchangeCall request options (.ok data))
    let e : Exchange := { request, options, client, response := .ok data, outcome := r.2 }
    r.1.parser = Parser.new ∧ (e.Delivers build data ↔ e.SafeToDeliver build data) := by
  intro r e
  have hresp := Session.response_exchangeCall request options (.ok data)
  by_cases htaken : options.throwOnError = false ∨ ¬ HasErrorResponse build data
  · have hr : r = _ := execProtocol_taken build hparser hresp hwf htaken
    refine ⟨by rw [hr]; exact hparser, ?_⟩
    have hdel : e.Delivers build data := by
      show r.2.events.filter Event.isDelivery = expectedDeliveries client _
      rw [hr]
      simp only [List.filter_append, filter_noticeEvents, List.nil_append,
        deliverNotifications_eq, filter_expectedDeliveries]
    refine ⟨fun _ => ?_, fun _ => hdel⟩
    rcases htaken with hthrow | hno
    · exact .inl hthrow
    · exact .inr (.inl hno)
  · rw [not_or, not_not, Bool.not_eq_false] at htaken
    obtain ⟨taken, dbErr, hr⟩ :=
      execProtocol_refused build hparser hresp hwf htaken.1 htaken.2
    have hr : r = _ := hr
    refine ⟨by rw [hr]; exact hparser, ?_⟩
    have hnone : e.delivered = [] := by
      show r.2.events.filter Event.isDelivery = []
      rw [hr]
      exact filter_noticeEvents _ _
    unfold Exchange.Delivers Exchange.SafeToDeliver
    rw [hnone]
    constructor
    · exact fun h => .inr (.inr h.symm)
    · rintro (hthrow | hno | hnothing)
      · exact absurd (show options.throwOnError = false from hthrow) (by simp [htaken.1])
      · exact absurd htaken.2 hno
      · exact hnothing.symm

/-! ## Runs -/

/-- While every response is well-formed, nothing is left in the parser between exchanges, and
each exchange delivered exactly when it was safe to. -/
def DeliveryInvariant {σ : Type} (build : Build) (s : Session σ) : Prop :=
  (∀ e ∈ s.history, ∀ data, e.response = .ok data → WellFormedResponse data) →
    s.db.parser = Parser.new ∧
    ∀ e ∈ s.history, ∀ data, e.response = .ok data →
      (e.Delivers build data ↔ e.SafeToDeliver build data)

/-- One more exchange keeps the invariant. -/
lemma keeps_deliveryInvariant {σ : Type} (build : Build) (b : Backend σ) (request : Request)
    (options : ExecProtocolOptions) :
    (Session.execProtocol build b request options).Keeps (DeliveryInvariant build) := by
  intro s hs hwf
  obtain ⟨backend, response, hsent⟩ : ∃ backend response,
      b.sendBuffered s.db.backend request.bytes options.dataTransferContainer
        = (backend, response) := ⟨_, _, rfl⟩
  rw [Session.execProtocol_eq build b request options s hsent] at hwf ⊢
  simp only [List.forall_mem_append, List.forall_mem_singleton] at hwf ⊢
  obtain ⟨hparser, hold⟩ := hs hwf.1
  have hclient : s.db.client.parser = Parser.new := hparser
  cases response with
  | error err => exact ⟨hclient, hold, fun data hdata => by cases hdata⟩
  | ok data =>
    have hspec := exchange_delivers_iff build hclient request options (hwf.2 data rfl)
    refine ⟨hspec.1, hold, ?_⟩
    rintro data' hdata
    cases hdata
    exact hspec.2

/-- **Notification delivery.** Along every run of operations whose responses are well-formed,
an exchange delivers each notification of its response, in response order and once, to every
listener registered for its channel and to every global listener, exactly when an
`ErrorResponse` does not end the call or there is nothing to deliver. -/
theorem notifications_delivered_iff {σ : Type} (build : Build) (b : Backend σ) (stack : ℕ)
    (ops : List Operation) (s : Session σ) (hparser : s.db.parser = Parser.new)
    (hstart : s.history = [])
    (hwf : ∀ e ∈ (Session.run build b stack ops s).history, ∀ data, e.response = .ok data →
      WellFormedResponse data) :
    ∀ e ∈ (Session.run build b stack ops s).history, ∀ data, e.response = .ok data →
      (e.Delivers build data ↔ e.SafeToDeliver build data) := by
  have hinv : DeliveryInvariant build (Session.run build b stack ops s) := by
    refine Session.run_keeps (fun op => ?_) ops s fun _ => ⟨hparser, by simp [hstart]⟩
    refine Session.keeps_call_of_exchange (keeps_deliveryInvariant build b) ?_ op
    intro s s' hparser hhistory hs
    unfold DeliveryInvariant
    rw [hparser, hhistory]
    exact hs
  exact (hinv hwf).2

/-- A notification on channel `c`. -/
def notificationFrame : Bytes := [65, 0, 0, 0, 11, 0, 0, 0, 1, 99, 0, 0]

/-- An error with a message and nothing else. -/
def errorFrame : Bytes := [69, 0, 0, 0, 8, 77, 109, 0, 0]

/-- `ReadyForQuery` outside a transaction. -/
def readyFrame : Bytes := [90, 0, 0, 0, 5, 73]

/-- A backend that answers everything with the same frames. -/
def Backend.repeating (frames : List Bytes) : Backend Unit :=
  .answering fun s _ => (s, .ok frames.flatten)

/-- A global listener, then one call that is answered with a notification: it is delivered. -/
theorem notifications_delivered_iff_one_call :
    ∃ e ∈ (Session.run ⟨false⟩ (.repeating [notificationFrame, readyFrame]) 8
        [.onNotification 7, .execProtocol [] .noSync] (.opened [] [] ())).history,
      ∃ data, e.response = .ok data ∧ (e.Delivers ⟨false⟩ data ↔ e.SafeToDeliver ⟨false⟩ data) ∧
        e.Delivers ⟨false⟩ data := by
  have hwf : WellFormedResponse [notificationFrame, readyFrame].flatten :=
    wellFormedResponse_of_frames ⟨false⟩ (by decide) (by decide +kernel)
  obtain ⟨e, hhistory, hresponse, hdelivers⟩ : ∃ e,
      (Session.run ⟨false⟩ (.repeating [notificationFrame, readyFrame]) 8
        [.onNotification 7, .execProtocol [] .noSync] (.opened [] [] ())).history = [e] ∧
      e.response = .ok [notificationFrame, readyFrame].flatten ∧
      e.Delivers ⟨false⟩ [notificationFrame, readyFrame].flatten := by
    refine ⟨_, rfl, rfl, ?_⟩
    unfold Exchange.Delivers
    decide +kernel
  have hmem : e ∈ [e] := List.mem_singleton.mpr rfl
  rw [← hhistory] at hmem
  refine ⟨e, hmem, _, hresponse, ?_, hdelivers⟩
  refine notifications_delivered_iff _ _ _ _ _ rfl rfl ?_ e hmem _ hresponse
  rw [hhistory]
  intro x hx data hdata
  rw [List.mem_singleton.mp hx, hresponse] at hdata
  cases hdata
  exact hwf

/-- The listener hears nothing of a notification whose response also has an error, although the
response is well-formed. -/
theorem notification_lost_on_error :
    ∃ e ∈ (Session.run ⟨false⟩ (.repeating [notificationFrame, errorFrame, readyFrame]) 8
        [.onNotification 7, .execProtocol [] .noSync] (.opened [] [] ())).history,
      ∃ data, e.response = .ok data ∧ WellFormedResponse data ∧ ¬ e.Delivers ⟨false⟩ data := by
  have hwf : WellFormedResponse [notificationFrame, errorFrame, readyFrame].flatten :=
    wellFormedResponse_of_frames ⟨false⟩ (by decide) (by decide +kernel)
  refine ⟨_, List.mem_singleton.mpr rfl, _, rfl, hwf, ?_⟩
  unfold Exchange.Delivers
  decide +kernel

end PgliteOxide.Pglite
