import Mathlib.Data.List.Induction
import PgliteOxide.Pglite.Session
import PgliteOxide.Pglite.WireTheorems

/-!
# The stream of frontend messages

What `Serialize` writes, the two places that cut a stream of it into messages again
(`FrontendFrameReader::push` and `send_framed_raw_stream`) and what a stream with a malformed
header loses on its way through `push`.
-/

namespace PgliteOxide.Pglite

open Lib Protocol

/-! ## The messages of `Serialize` -/

/-- A call of a function of `Serialize`. -/
inductive FrontendMessage where
  | startup (options : List (String × String))
  | requestSsl
  | password (password : String)
  | saslInitialResponse (mechanism initialResponse : String)
  | scramClientFinal (additionalData : String)
  | query (text : String)
  | parse (name : Option String) (text : String) (types : List Int32)
  | bind (config : BindConfig)
  | execute (config : Option ExecConfig)
  | describe (target : PortalTarget)
  | close (target : PortalTarget)
  | flush
  | sync
  | terminate
  | copyData (chunk : Bytes)
  | copyDone
  | copyFail (message : String)
  | cancel (processId secretKey : Int32)

namespace FrontendMessage

/-- What the call returns. -/
def bytes : FrontendMessage → Bytes
  | startup options => Serialize.startup options
  | requestSsl => Serialize.requestSsl
  | password text => Serialize.password text
  | saslInitialResponse mechanism initialResponse =>
    Serialize.sendSaslInitialResponseMessage mechanism initialResponse
  | scramClientFinal additionalData => Serialize.sendScramClientFinalMessage additionalData
  | query text => Serialize.query text
  | parse name text types => Serialize.parse name text types
  | bind config => Serialize.bind config
  | execute config => Serialize.execute config
  | describe target => Serialize.describe target
  | close target => Serialize.close target
  | flush => Serialize.flush
  | sync => Serialize.sync
  | terminate => Serialize.end_
  | copyData chunk => Serialize.copyData chunk
  | copyDone => Serialize.copyDone
  | copyFail message => Serialize.copyFail message
  | cancel processId secretKey => Serialize.cancel processId secretKey

/-- The sizes a client sends: no message above the limit of the reader, and startup packets whose
length has a leading zero byte. -/
def Fits : FrontendMessage → Prop
  | startup options => (Serialize.startup options).length < 2 ^ 24
  | message => message.bytes.length ≤ maxFrontendMessage

end FrontendMessage

/-! ## Reading in chunks -/

namespace FrontendFrameReader

/-- Successive calls of `push` up to the first that fails: the messages they hand out, the bytes
still pending, and the error. -/
def pushAll (reader : FrontendFrameReader) : List Bytes → Cut String
  | [] => ⟨[], reader.pending, none⟩
  | input :: inputs =>
    match reader.push input with
    | (reader, .error e) => ⟨[], reader.pending, some e⟩
    | (reader, .ok messages) => (reader.pushAll inputs).prepend messages

end FrontendFrameReader

/-! ## Cutting a whole stream -/

section Raw

variable {σ τ : Type} (b : Backend σ) (requested : Option DataTransferContainer)
  (onData : Bytes → Stateful τ Error Unit)

/-- A turn of `send_framed_raw_stream`: a frame is sent, and the data that comes back, if there is
some, is handed on. -/
def sendRawFrame (frame : Bytes) : Stateful (σ × τ) Error Unit := fun (backend, sink) =>
  match b.sendBuffered backend frame requested with
  | (backend, .error e) => ((backend, sink), .err e)
  | (backend, .ok data) =>
    if data = [] then ((backend, sink), .ok ())
    else
      let (sink, result) := onData data sink
      ((backend, sink), result)

/-- The loop of `send_framed_raw_stream` over the bytes from the cursor on; a turn takes at least
five of them, so the bound is not reached. -/
def sendFramedRawFrom : ℕ → Bytes → Stateful (σ × τ) Error Unit
  | 0, _ => pure ()
  | turns + 1, message =>
    if message = [] then pure ()
    else
      match rawProtocolMessageLen message with
      | .error e => Stateful.fail (.msg e)
      | .ok frameLen => do
        sendRawFrame b requested onData (message.take frameLen)
        sendFramedRawFrom turns (message.drop frameLen)

/-- `send_framed_raw_stream`. -/
def sendFramedRawStream (message : Bytes) : Stateful (σ × τ) Error Unit :=
  sendFramedRawFrom b requested onData (message.length + 1) message

end Raw

/-! ## Every message is one frame -/

section Frames

/-- What is behind a code and a length is one frame. -/
lemma isFrame_frame {code : UInt8} {body : Bytes} (hcode : code ≠ 0)
    (h : (Serialize.frame code body).length ≤ maxFrontendMessage) :
    frontendFraming.IsFrame (Serialize.frame code body) := by
  obtain ⟨b0, b1, b2, b3, hbytes, -, hread⟩ := Serialize.i32FromBe_length (body.length + 4)
  have hframe : Serialize.frame code body = code :: b0 :: b1 :: b2 :: b3 :: body := by
    rw [Serialize.frame, hbytes]
    rfl
  rw [hframe] at h ⊢
  have hlength : (code :: b0 :: b1 :: b2 :: b3 :: body).length = body.length + 5 := rfl
  rw [hlength, maxFrontendMessage] at h
  have hval : (i32FromBe b0 b1 b2 b3).toInt = body.length + 4 := by
    rw [hread, toInt_ofNat_toInt32 (by omega)]
    push_cast
    rfl
  have husize : i32AsUsize (i32FromBe b0 b1 b2 b3) = body.length + 4 := by
    rw [i32AsUsize_of_nonneg (by omega), hval]
    omega
  show scanFrontend _ = .frame _
  rw [scanFrontend_eq_frame, hlength]
  refine ⟨?_, Nat.le_refl _⟩
  simp only [declaredLen, if_neg hcode]
  rw [if_neg (by omega), if_neg (by rw [husize, usizeBound]; omega),
    if_neg (by rw [husize, maxFrontendMessage]; omega), husize, Nat.add_comm]

/-- What is behind a length below `2 ^ 24` alone is one frame. -/
lemma isFrame_untagged {body : Bytes} (hmin : 4 ≤ body.length)
    (h : (Serialize.length (body.length + 4) ++ body).length < 2 ^ 24) :
    frontendFraming.IsFrame (Serialize.length (body.length + 4) ++ body) := by
  obtain ⟨b0, b1, b2, b3, hbytes, hlead, hread⟩ := Serialize.i32FromBe_length (body.length + 4)
  rw [hbytes] at h ⊢
  have hlength : ([b0, b1, b2, b3] ++ body).length = body.length + 4 := by
    simp only [List.length_append, List.length_cons, List.length_nil]
    omega
  rw [hlength] at h
  have hzero : b0 = 0 := by
    rw [hlead, UInt32.toNat_ofNat', Nat.mod_eq_of_lt (by omega), Nat.div_eq_of_lt h]
    rfl
  have hval : (i32FromBe b0 b1 b2 b3).toInt = body.length + 4 := by
    rw [hread, toInt_ofNat_toInt32 (by omega)]
    push_cast
    rfl
  have husize : i32AsUsize (i32FromBe b0 b1 b2 b3) = body.length + 4 := by
    rw [i32AsUsize_of_nonneg (by omega), hval]
    omega
  show scanFrontend _ = .frame _
  rw [scanFrontend_eq_frame, hlength]
  refine ⟨?_, by omega⟩
  show declaredLen (b0 :: b1 :: b2 :: b3 :: body) = _
  simp only [declaredLen, if_pos hzero]
  rw [if_neg (by omega), if_neg (by rw [husize, maxFrontendMessage]; omega), husize]

/-- Every message of `Serialize` of a size a client sends is one frame. -/
lemma FrontendMessage.isFrame {message : FrontendMessage} (h : message.Fits) :
    frontendFraming.IsFrame message.bytes := by
  cases message with
  | startup options =>
    refine isFrame_untagged ?_ h
    simp [Serialize.startupBody]
    omega
  | requestSsl => decide
  | cancel processId secretKey =>
    exact @isFrame_untagged (i16ToBe 1234 ++ i16ToBe 5678 ++ i32ToBe processId ++ i32ToBe secretKey)
      (by simp) (by simp [Serialize.length])
  | execute config =>
    cases config with
    | none => decide
    | some cfg =>
      simp only [FrontendMessage.bytes, FrontendMessage.Fits, Serialize.execute] at h ⊢
      split at h
      · rename_i hfast
        rw [if_pos hfast]
        decide
      · rename_i hfast
        rw [if_neg hfast]
        exact isFrame_frame (by decide) h
  | _ => exact isFrame_frame (by decide) h

end Frames

/-! ## Successive pushes -/

namespace FrontendFrameReader

variable {reader : FrontendFrameReader} {chunks : List Bytes}

lemma push_of_ok {input : Bytes} (h : (frontendFraming.cut (reader.buffer ++ input)).error = none) :
    reader.push input = (⟨(frontendFraming.cut (reader.buffer ++ input)).rest⟩,
      .ok (frontendFraming.cut (reader.buffer ++ input)).frames) := by
  rw [push_eq, h]

lemma push_of_error {input : Bytes} {e : String}
    (h : (frontendFraming.cut (reader.buffer ++ input)).error = some e) :
    reader.push input = (⟨(frontendFraming.cut (reader.buffer ++ input)).rest⟩, .error e) := by
  rw [push_eq, h]

/-- While no header is malformed, successive pushes cut the stream as one buffer is cut. -/
lemma pushAll_append (hmore : frontendFraming.scan reader.buffer = .more)
    (h : (frontendFraming.cut (reader.buffer ++ chunks.flatten)).error = none)
    (more : List Bytes) :
    reader.pushAll (chunks ++ more)
      = (pushAll ⟨(frontendFraming.cut (reader.buffer ++ chunks.flatten)).rest⟩ more).prepend
          (frontendFraming.cut (reader.buffer ++ chunks.flatten)).frames := by
  induction chunks generalizing reader with
  | nil =>
    rw [List.flatten_nil, List.append_nil, frontendFraming.cut_of_more hmore]
    rfl
  | cons chunk chunks ih =>
    rw [List.flatten_cons, ← List.append_assoc] at h ⊢
    have hfront := frontendFraming.error_of_append h
    have hcut := frontendFraming.cut_append hfront chunks.flatten
    rw [hcut, Cut.prepend_error] at h
    rw [List.cons_append, pushAll, push_of_ok hfront]
    show (pushAll _ (chunks ++ more)).prepend _ = _
    rw [ih (frontendFraming.scan_rest hfront) h, Cut.prepend_prepend, hcut]
    rfl

/-- Successive pushes of an error-free stream hand out its messages and keep what is left. -/
lemma pushAll_of_ok (h : (frontendFraming.cut chunks.flatten).error = none) :
    default.pushAll chunks = frontendFraming.cut chunks.flatten := by
  have happend := @pushAll_append default chunks rfl h []
  rw [List.append_nil] at happend
  rw [happend]
  show (⟨[], (frontendFraming.cut chunks.flatten).rest, none⟩ : Cut String).prepend
    (frontendFraming.cut chunks.flatten).frames = _
  rw [← h]
  simp [Cut.prepend]

/-- The push that completes a malformed header hands out nothing, and is the last one. -/
lemma pushAll_of_error {before : List Bytes} {chunk : Bytes} {after : List Bytes}
    (hbefore : (frontendFraming.cut before.flatten).error = none)
    (h : (frontendFraming.cut (before.flatten ++ chunk)).error ≠ none) :
    (default.pushAll (before ++ chunk :: after)).frames
      = (frontendFraming.cut before.flatten).frames := by
  obtain ⟨e, he⟩ := Option.ne_none_iff_exists'.mp h
  rw [@pushAll_append default before rfl hbefore]
  rw [frontendFraming.cut_append hbefore, Cut.prepend_error] at he
  show _ ++ (pushAll ⟨_⟩ (chunk :: after)).frames = _
  rw [pushAll, push_of_error he]
  exact List.append_nil _

end FrontendFrameReader

/-! ## Streams of `Serialize` -/

section Streams

variable {σ τ : Type} (b : Backend σ) (requested : Option DataTransferContainer)
  (onData : Bytes → Stateful τ Error Unit)

/-- On a message with a code both length parsers agree. -/
lemma rawProtocolMessageLen_of_scan {buffer : Bytes} {n : ℕ}
    (h : frontendFraming.scan buffer = .frame n) (htag : buffer.head? ≠ some 0) :
    rawProtocolMessageLen buffer = .ok n := by
  obtain ⟨hlen, hle⟩ := scanFrontend_eq_frame.mp h
  match buffer with
  | [] | [_] | [_, _] | [_, _, _] => cases hlen
  | [b0, b1, b2, b3] =>
    have hmin := declaredLen_ge hlen
    simp only [List.length_cons, List.length_nil] at hle
    omega
  | b0 :: b1 :: b2 :: b3 :: b4 :: rest =>
    have hcode : b0 ≠ 0 := by simpa using htag
    simp only [declaredLen, if_neg hcode] at hlen
    simp only [rawProtocolMessageLen]
    split_ifs at hlen with hshort hover hlong
    rw [if_neg hshort, if_neg hover, if_neg hlong]
    have hn : 1 + i32AsUsize (i32FromBe b1 b2 b3 b4) = n := by simpa using hlen
    rw [hn, if_neg (by omega)]

/-- **A stream of messages with a code is sent frame by frame.** -/
theorem sendFramedRawStream_frames {frames : List Bytes}
    (hframes : ∀ m ∈ frames, frontendFraming.IsFrame m ∧ m.head? ≠ some 0) :
    sendFramedRawStream b requested onData frames.flatten
      = frames.forM (sendRawFrame b requested onData) := by
  suffices h : ∀ turns, frames.flatten.length < turns →
      sendFramedRawFrom b requested onData turns frames.flatten
        = frames.forM (sendRawFrame b requested onData) from h _ (Nat.lt_succ_self _)
  induction frames with
  | nil =>
    intro turns hturns
    obtain ⟨turns, rfl⟩ : ∃ k, turns = k + 1 := ⟨turns - 1, by omega⟩
    rfl
  | cons m frames ih =>
    intro turns hturns
    obtain ⟨turns, rfl⟩ : ∃ k, turns = k + 1 := ⟨turns - 1, by omega⟩
    obtain ⟨hm, htag⟩ := hframes m List.mem_cons_self
    have hpos := frontendFraming.frame_pos hm
    have hne : m ++ frames.flatten ≠ [] := by
      intro hnil
      rw [List.append_eq_nil_iff.mp hnil |>.1] at hpos
      exact absurd hpos (by simp)
    have hhead : (m ++ frames.flatten).head? ≠ some 0 := by
      rw [List.head?_append_of_ne_nil _ hm.ne_nil]
      exact htag
    have hlen := rawProtocolMessageLen_of_scan
      (frontendFraming.frame_append frames.flatten hm) hhead
    rw [List.flatten_cons, List.length_append] at hturns
    rw [List.flatten_cons, sendFramedRawFrom, if_neg hne, hlen]
    simp only [List.take_left, List.drop_left]
    rw [ih (fun m' hm' => hframes m' (List.mem_cons_of_mem m hm')) turns (by omega)]
    rfl

/-- **The encoder and the two frame readers agree.** Messages of `Serialize`, cut into chunks in
any way, come out of `push` as they were written, with nothing pending; and where each of them
has a code, `send_framed_raw_stream` sends them one by one. -/
theorem serialized_messages_framed {messages : List FrontendMessage}
    (hfits : ∀ m ∈ messages, m.Fits) :
    (∀ chunks : List Bytes, chunks.flatten = messages.flatMap FrontendMessage.bytes →
      FrontendFrameReader.default.pushAll chunks
        = ⟨messages.map FrontendMessage.bytes, [], none⟩) ∧
    ((∀ m ∈ messages, m.bytes.head? ≠ some 0) →
      ∀ (σ τ : Type) (b : Backend σ) (requested : Option DataTransferContainer)
        (onData : Bytes → Stateful τ Error Unit),
        sendFramedRawStream b requested onData (messages.flatMap FrontendMessage.bytes)
          = (messages.map FrontendMessage.bytes).forM (sendRawFrame b requested onData)) := by
  have hframes : ∀ m ∈ messages.map FrontendMessage.bytes, frontendFraming.IsFrame m := by
    intro m hm
    obtain ⟨message, hmessage, rfl⟩ := List.mem_map.mp hm
    exact FrontendMessage.isFrame (hfits message hmessage)
  rw [List.flatMap_def]
  constructor
  · intro chunks hchunks
    have hcut := frontendFraming.cut_flatten_frames hframes []
    rw [List.append_nil, ← hchunks, frontendFraming.cut_of_more (b := []) rfl] at hcut
    have hwhole : frontendFraming.cut chunks.flatten
        = ⟨messages.map FrontendMessage.bytes, [], none⟩ := by
      rw [hcut]
      simp [Cut.prepend]
    rw [FrontendFrameReader.pushAll_of_ok (by rw [hwhole]), hwhole]
  · intro htags σ τ b requested onData
    refine sendFramedRawStream_frames b requested onData fun m hm => ⟨hframes m hm, ?_⟩
    obtain ⟨message, hmessage, rfl⟩ := List.mem_map.mp hm
    exact htags message hmessage

/-- A startup packet and a query, a byte at a time; and a query and a `Sync` in one raw stream. -/
theorem serialized_messages_framed_examples :
    (FrontendFrameReader.default.pushAll
      ((Serialize.startup [("user", "postgres")] ++ Serialize.query "SELECT 1").map ([·]))).frames
      = [Serialize.startup [("user", "postgres")], Serialize.query "SELECT 1"] ∧
    (sendFramedRawStream (Backend.answering fun sent message => (sent ++ [message], .ok [])) none
      (fun _ => (pure () : Stateful Unit Error Unit))
      (Serialize.query "SELECT 1" ++ Serialize.sync) ([], ())).1.1
      = [Serialize.query "SELECT 1", Serialize.sync] := by
  have hstartup : (FrontendMessage.startup [("user", "postgres")]).Fits := by
    show (Serialize.startup _).length < 2 ^ 24
    decide +kernel
  have hquery : (FrontendMessage.query "SELECT 1").Fits := by
    show (Serialize.query _).length ≤ maxFrontendMessage
    decide +kernel
  have hsync : FrontendMessage.sync.Fits := by
    show Serialize.sync.length ≤ maxFrontendMessage
    decide
  constructor
  · have hchunks : ((Serialize.startup [("user", "postgres")]
        ++ Serialize.query "SELECT 1").map ([·])).flatten
        = [FrontendMessage.startup [("user", "postgres")], .query "SELECT 1"].flatMap
          FrontendMessage.bytes := by
      rw [← List.flatMap_def, List.flatMap_singleton']
      simp [FrontendMessage.bytes]
    rw [(serialized_messages_framed (by simp [hstartup, hquery])).1 _ hchunks]
    rfl
  · have hraw := (@serialized_messages_framed [.query "SELECT 1", .sync]
      (by simp [hquery, hsync])).2 (by decide +kernel) _ Unit
      (Backend.answering fun sent message => (sent ++ [message], .ok [])) none (fun _ => pure ())
    have hbytes : [FrontendMessage.query "SELECT 1", .sync].flatMap FrontendMessage.bytes
        = Serialize.query "SELECT 1" ++ Serialize.sync := by
      simp [FrontendMessage.bytes]
    rw [← hbytes, hraw]
    rfl

end Streams

/-! ## Malformed streams -/

section Malformed

/-- The bytes of a header: a length, or a code and a length. -/
def headerLen (buffer : Bytes) : ℕ := if buffer.head? = some 0 then 4 else 5

/-- A malformed header is noticed as soon as its last byte is there. -/
lemma scan_front_of_bad {front back : Bytes} {e : String}
    (h : frontendFraming.scan (front ++ back) = .bad e) :
    (frontendFraming.cut front).error = none ↔ front.length < headerLen (front ++ back) := by
  have hbad := scanFrontend_eq_bad.mp h
  have hmore : ∀ buffer : Bytes, declaredLen buffer = .ok none →
      (frontendFraming.cut buffer).error = none := by
    intro buffer hbuffer
    have hscan : frontendFraming.scan buffer = .more := by
      show scanFrontend buffer = .more
      rw [scanFrontend, frontendMessageLenIfComplete_eq, hbuffer]
    rw [frontendFraming.cut_of_more hscan]
  have hstop : declaredLen front ≠ .ok none → (frontendFraming.cut front).error ≠ none := by
    intro hfront
    have hscan : frontendFraming.scan front = .bad e := by
      show scanFrontend front = .bad e
      rw [scanFrontend_eq_bad, ← declaredLen_append back hfront, hbad]
    rw [frontendFraming.cut_of_bad hscan]
    simp
  have hshort : front.length < 4 →
      ((frontendFraming.cut front).error = none ↔ front.length < headerLen (front ++ back)) := by
    intro hlen
    have hmany : 4 ≤ headerLen (front ++ back) := by
      unfold headerLen
      split <;> decide
    refine iff_of_true (hmore _ ?_) (by omega)
    rcases front with _ | ⟨b0, _ | ⟨b1, _ | ⟨b2, _ | ⟨b3, front⟩⟩⟩⟩
    · rfl
    · rfl
    · rfl
    · rfl
    · rw [List.length_cons, List.length_cons, List.length_cons, List.length_cons] at hlen
      omega
  rcases front with _ | ⟨b0, _ | ⟨b1, _ | ⟨b2, _ | ⟨b3, _ | ⟨b4, front⟩⟩⟩⟩⟩
  · exact hshort (by simp)
  · exact hshort (by simp)
  · exact hshort (by simp)
  · exact hshort (by simp)
  · by_cases hzero : b0 = 0
    · have hdeclared : declaredLen [b0, b1, b2, b3] ≠ .ok none := by
        simp only [declaredLen, hzero, if_true]
        split_ifs <;> simp
      refine iff_of_false (hstop hdeclared) ?_
      simp [headerLen, hzero]
    · have hdeclared : declaredLen [b0, b1, b2, b3] = .ok none := by
        simp only [declaredLen, hzero, if_false]
      refine iff_of_true (hmore _ hdeclared) ?_
      simp [headerLen, hzero]
  · have hdeclared : declaredLen (b0 :: b1 :: b2 :: b3 :: b4 :: front) ≠ .ok none := by
      simp only [declaredLen]
      split_ifs <;> simp
    refine iff_of_false (hstop hdeclared) ?_
    unfold headerLen
    split <;> simp

/-- One chunk brings both the last byte of the last complete message and the last byte of the
malformed header behind it. -/
def BringsBadHeaderWithMessage (chunks : List Bytes) : Prop :=
  (frontendFraming.cut chunks.flatten).error ≠ none ∧
    ∃ before chunk after, chunks = before ++ chunk :: after ∧
      before.flatten.length < (frontendFraming.cut chunks.flatten).frames.flatten.length ∧
      (frontendFraming.cut chunks.flatten).frames.flatten.length
          + headerLen (frontendFraming.cut chunks.flatten).rest
        ≤ before.flatten.length + chunk.length

/-- A front of a malformed stream is cut without an error until its malformed header is there. -/
lemma error_front_iff {front back : Bytes} {e : String}
    (h : (frontendFraming.cut (front ++ back)).error = some e) :
    (frontendFraming.cut front).error = none ↔
      front.length < (frontendFraming.cut (front ++ back)).frames.flatten.length
        + headerLen (frontendFraming.cut (front ++ back)).rest := by
  by_cases hlong : (frontendFraming.cut (front ++ back)).frames.flatten.length ≤ front.length
  · obtain ⟨q, hrest, hfront, hcut⟩ := frontendFraming.cut_front_of_error h hlong
    have hbad := frontendFraming.scan_rest_of_error h
    have hlen := congrArg List.length hfront
    rw [List.length_append] at hlen
    rw [hrest] at hbad ⊢
    rw [hcut, scan_front_of_bad hbad, hlen]
    omega
  · refine iff_of_true ?_ (by omega)
    -- an error in the front would stop the whole stream after the same frames
    by_contra herror
    obtain ⟨e', he'⟩ := Option.ne_none_iff_exists'.mp herror
    have hframes := congrArg Cut.frames (frontendFraming.cut_append_of_error he' back)
    have hbytes := congrArg List.length (frontendFraming.cut_flatten front)
    rw [List.length_append] at hbytes
    rw [hframes] at hlong
    simp only at hlong
    omega

/-- A stream in which a header is malformed has a chunk that completes the first one. -/
lemma exists_chunk_of_error {chunks : List Bytes}
    (h : (frontendFraming.cut chunks.flatten).error ≠ none) :
    ∃ before chunk after, chunks = before ++ chunk :: after ∧
      (frontendFraming.cut before.flatten).error = none ∧
      (frontendFraming.cut (before.flatten ++ chunk)).error ≠ none := by
  induction chunks using List.reverseRecOn with
  | nil =>
    rw [List.flatten_nil, frontendFraming.cut_of_more (b := []) rfl] at h
    exact absurd rfl h
  | append_singleton chunks chunk ih =>
    by_cases hfront : (frontendFraming.cut chunks.flatten).error = none
    · refine ⟨chunks, chunk, [], rfl, hfront, ?_⟩
      rwa [List.flatten_append, List.flatten_singleton] at h
    · obtain ⟨before, c, after, rfl, hbefore, hc⟩ := ih hfront
      exact ⟨before, c, after ++ [chunk], by simp, hbefore, hc⟩

/-- **Messages are lost exactly when a malformed header comes in the chunk that completes one of
them.** Otherwise the pushes up to the first that fails hand out the complete messages before the
first malformed header. -/
theorem frames_before_malformed_iff (chunks : List Bytes) :
    (FrontendFrameReader.default.pushAll chunks).frames
        = (frontendFraming.cut chunks.flatten).frames ↔
      ¬ BringsBadHeaderWithMessage chunks := by
  by_cases herror : (frontendFraming.cut chunks.flatten).error = none
  · rw [FrontendFrameReader.pushAll_of_ok herror]
    exact iff_of_true rfl fun hbrings => hbrings.1 herror
  obtain ⟨e, he⟩ := Option.ne_none_iff_exists'.mp herror
  obtain ⟨before, chunk, after, hchunks, hbefore, hchunk⟩ := exists_chunk_of_error herror
  have hstream : chunks.flatten = before.flatten ++ (chunk ++ after.flatten) := by
    rw [hchunks]
    simp
  have hstream' : chunks.flatten = (before.flatten ++ chunk) ++ after.flatten := by
    rw [hstream, List.append_assoc]
  have hframes : (FrontendFrameReader.default.pushAll chunks).frames
      = (frontendFraming.cut before.flatten).frames := by
    rw [hchunks]
    exact FrontendFrameReader.pushAll_of_error hbefore hchunk
  have hiff : (frontendFraming.cut before.flatten).frames
        = (frontendFraming.cut chunks.flatten).frames ↔
      (frontendFraming.cut chunks.flatten).frames.flatten.length ≤ before.flatten.length := by
    rw [hstream] at he ⊢
    exact frontendFraming.frames_front_iff he
  have hcomplete : (frontendFraming.cut chunks.flatten).frames.flatten.length
      + headerLen (frontendFraming.cut chunks.flatten).rest
        ≤ (before.flatten ++ chunk).length := by
    rw [hstream'] at he ⊢
    exact Nat.le_of_not_lt fun hlt => hchunk ((error_front_iff he).mpr hlt)
  rw [hframes, hiff]
  constructor
  · rintro hlong ⟨-, before', chunk', after', hchunks', hshort, hheader⟩
    -- the same chunk completes the header, so the messages before it were complete before
    have hstream₁ : chunks.flatten = before'.flatten ++ (chunk' ++ after'.flatten) := by
      rw [hchunks']
      simp
    have hstream₂ : chunks.flatten = (before'.flatten ++ chunk') ++ after'.flatten := by
      rw [hstream₁, List.append_assoc]
    have hbefore' : (frontendFraming.cut before'.flatten).error = none := by
      rw [hstream₁] at he hshort
      exact (error_front_iff he).mpr (by omega)
    have hchunk' : (frontendFraming.cut (before'.flatten ++ chunk')).error ≠ none := by
      rw [hstream₂] at he hheader
      intro hnone
      have hlt := (error_front_iff he).mp hnone
      rw [List.length_append] at hlt
      omega
    have hframes' : (FrontendFrameReader.default.pushAll chunks).frames
        = (frontendFraming.cut before'.flatten).frames := by
      rw [hchunks']
      exact FrontendFrameReader.pushAll_of_error hbefore' hchunk'
    have heq := hiff.mpr hlong
    rw [← hframes, hframes'] at heq
    rw [hstream₁] at he hshort heq
    have hlong' := (frontendFraming.frames_front_iff he).mp heq
    omega
  · intro hnot
    by_contra hshort
    rw [List.length_append] at hcomplete
    exact hnot ⟨herror, before, chunk, after, hchunks, by omega, hcomplete⟩

/-- A `Sync` and a header with length 3 in one chunk: the `Sync` is not handed out. -/
theorem message_lost_with_bad_header :
    (FrontendFrameReader.default.pushAll [Serialize.sync ++ [81, 0, 0, 0, 3]]).frames
      ≠ (frontendFraming.cut [Serialize.sync ++ [81, 0, 0, 0, 3]].flatten).frames := by
  have hsync : frontendFraming.IsFrame Serialize.sync := by decide
  have hbytes : [Serialize.sync ++ [81, 0, 0, 0, 3]].flatten
      = Serialize.sync ++ [81, 0, 0, 0, 3] := by simp
  rw [hbytes, frontendFraming.cut_cons_frame hsync, frontendFraming.cut_of_bad
    (b := [81, 0, 0, 0, 3]) (e := "invalid frontend message length 3") (by decide)]
  decide

end Malformed

end PgliteOxide.Pglite
