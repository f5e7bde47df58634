import PgliteOxide.Pglite.Notifications
import PgliteOxide.Pglite.Wire
import PgliteOxide.Protocol.RoundTrip

/-!
# Errors in a response

Three scanners of the backend's messages: `response_contains_tag` and
`protocol_response_contains_error` skip from message to message with a signed length,
`Parser::parse` decodes with an unsigned one. On complete messages below 2^31 bytes they find the
same errors. `error_response` is a message the parser reads back, as long as its length fits in
the length field.
-/

namespace PgliteOxide.Pglite

open Lib Protocol
open WireMessage (NulFree)

/-! ## The scanner of `postgres_mod.rs` -/

/-- `try_into().unwrap()` and `i32::from_be_bytes`. -/
def i32OfHeader : Bytes → Outcome Empty Int32
  | [b0, b1, b2, b3] => .ok (i32FromBe b0 b1 b2 b3)
  | _ => .panic

/-- The loop of `protocol_response_contains_error`. -/
def protocolResponseContainsErrorAt (response : Bytes) (cursor : ℕ) : Outcome Empty Bool :=
  if _h : cursor + 5 ≤ response.length then do
    let tag ← index response cursor
    let header ← slice response (cursor + 1) (cursor + 5)
    let len ← i32OfHeader header
    if len.toInt < 4 then .ok false
    else
      -- the length is positive, so `saturating_add` does not saturate
      let total := 1 + i32AsUsize len
      if response.length < cursor + total then .ok false
      else if tag = 69 then .ok true
      else protocolResponseContainsErrorAt response (cursor + total)
  else .ok false
termination_by response.length - cursor

/-- `protocol_response_contains_error`. -/
def protocolResponseContainsError (response : Bytes) : Outcome Empty Bool :=
  protocolResponseContainsErrorAt response 0

lemma responseContainsTagFrom_short {response : Bytes} (h : response.length < 5) (expected : UInt8)
    (turns : ℕ) : responseContainsTagFrom expected turns response = false := by
  cases turns with
  | zero => rfl
  | succ turns =>
    match response with
    | [] | [_] | [_, _] | [_, _, _] | [_, _, _, _] => rfl
    | _ :: _ :: _ :: _ :: _ :: _ =>
      simp only [List.length_cons] at h
      omega

/-- Both loops skip alike; every index is in bounds. -/
lemma protocolResponseContainsErrorAt_eq (response : Bytes) (turns : ℕ) {cursor : ℕ}
    (hturns : response.length < cursor + turns) :
    protocolResponseContainsErrorAt response cursor
      = .ok (responseContainsTagFrom 69 turns (response.drop cursor)) := by
  induction turns generalizing cursor with
  | zero =>
    have hshort : (response.drop cursor).length < 5 := by
      rw [List.length_drop]
      omega
    rw [protocolResponseContainsErrorAt, dif_neg (by omega), responseContainsTagFrom_short hshort]
  | succ turns ih =>
    rw [protocolResponseContainsErrorAt]
    by_cases h : cursor + 5 ≤ response.length
    · have hlen : Protocol.headerLen ≤ (response.drop cursor).length := by
        rw [List.length_drop, Protocol.headerLen]
        omega
      obtain ⟨tag, b0, b1, b2, b3, tail, hdrop⟩ := exists_header hlen
      have hheader : (slice response (cursor + 1) (cursor + 5) : Outcome Empty Bytes)
          = .ok [b0, b1, b2, b3] := by
        have hadd : cursor + 5 = cursor + 1 + 4 := by omega
        rw [hadd, slice_add response (by omega), ← List.drop_drop, hdrop]
        rfl
      have htail : (response.drop cursor).length = tail.length + 5 := by
        rw [hdrop]
        rfl
      rw [List.length_drop] at htail
      rw [dif_pos h, index_eq_head response hdrop, Outcome.ok_bind, hheader, Outcome.ok_bind,
        i32OfHeader, Outcome.ok_bind, hdrop, responseContainsTagFrom]
      by_cases hneg : (i32FromBe b0 b1 b2 b3).toInt < 4
      · rw [if_pos hneg, if_pos hneg]
      · rw [if_neg hneg, if_neg hneg]
        dsimp only
        by_cases htotal : response.length < cursor + (1 + i32AsUsize (i32FromBe b0 b1 b2 b3))
        · have hbehind : tail.length + 5 < 1 + i32AsUsize (i32FromBe b0 b1 b2 b3) := by omega
          rw [if_pos htotal, if_pos hbehind]
        · have hbehind : ¬ tail.length + 5 < 1 + i32AsUsize (i32FromBe b0 b1 b2 b3) := by omega
          rw [if_neg htotal, if_neg hbehind]
          by_cases htag : tag = 69
          · rw [if_pos htag, if_pos htag]
          · rw [if_neg htag, if_neg htag, ih (by omega), ← hdrop, List.drop_drop]
    · have hshort : (response.drop cursor).length < 5 := by
        rw [List.length_drop]
        omega
      rw [dif_neg h, responseContainsTagFrom_short hshort]

lemma protocolResponseContainsError_eq (response : Bytes) :
    protocolResponseContainsError response = .ok (responseContainsTag response 69) :=
  protocolResponseContainsErrorAt_eq response _ (by omega)

/-! ## Skipping complete messages -/

/-- The length field of a message below 2^31 bytes is the same signed and unsigned. -/
lemma toInt_lengthField {b0 b1 b2 b3 : UInt8} (h : lengthField b0 b1 b2 b3 < 2 ^ 31) :
    (i32FromBe b0 b1 b2 b3).toInt = lengthField b0 b1 b2 b3 := by
  have hof : u32FromBe b0 b1 b2 b3 = UInt32.ofNat (lengthField b0 b1 b2 b3) := by
    rw [lengthField, UInt32.ofNat_toNat]
  rw [i32FromBe, hof]
  exact toInt_ofNat_toInt32 h

/-- One turn of the skipping loop at a complete message. -/
lemma responseContainsTagFrom_frame {f : Bytes} (hf : backendFraming.IsFrame f)
    (hlt : f.length < 2 ^ 31) (expected : UInt8) (turns : ℕ) (rest : Bytes) :
    responseContainsTagFrom expected (turns + 1) (f ++ rest)
      = (f.headD 0 == expected || responseContainsTagFrom expected turns rest) := by
  obtain ⟨tag, b0, b1, b2, b3, tail, hbytes, hlen, h4, -⟩ := scanBackend_eq_frame hf
  have hint : (i32FromBe b0 b1 b2 b3).toInt = lengthField b0 b1 b2 b3 :=
    toInt_lengthField (by omega)
  have husize : i32AsUsize (i32FromBe b0 b1 b2 b3) = lengthField b0 b1 b2 b3 := by
    rw [i32AsUsize_of_nonneg (by omega), hint, Int.toNat_natCast]
  have htail : f.length = tail.length + 5 := by
    rw [hbytes]
    rfl
  have hdrop : (f ++ rest).drop (1 + lengthField b0 b1 b2 b3) = rest := by
    rw [← hlen, List.drop_left]
  have happend : f ++ rest = tag :: b0 :: b1 :: b2 :: b3 :: (tail ++ rest) := by
    rw [hbytes]
    rfl
  have hhead : f.headD 0 = tag := by
    rw [hbytes]
    rfl
  rw [happend] at hdrop ⊢
  rw [responseContainsTagFrom, if_neg (by omega)]
  dsimp only
  rw [husize, hdrop, if_neg (by rw [List.length_append]; omega), hhead]
  by_cases htag : tag = expected
  · simp [htag]
  · simp [htag]

/-- **On complete messages** the skipping loop finds a tag exactly when a message has it. -/
lemma responseContainsTag_frames {fs : List Bytes}
    (hfs : ∀ f ∈ fs, backendFraming.IsFrame f ∧ f.length < 2 ^ 31) (expected : UInt8) :
    responseContainsTag fs.flatten expected = true ↔ ∃ f ∈ fs, f.headD 0 = expected := by
  unfold responseContainsTag
  have hturns : fs.flatten.length < fs.flatten.length + 1 := Nat.lt_succ_self _
  generalize fs.flatten.length + 1 = turns at hturns ⊢
  induction fs generalizing turns with
  | nil =>
    rw [List.flatten_nil, responseContainsTagFrom_short (by simp)]
    simp
  | cons f fs ih =>
    obtain ⟨hframe, hlt⟩ := hfs f List.mem_cons_self
    have hpos := backendFraming.frame_pos hframe
    rw [List.flatten_cons, List.length_append] at hturns
    cases turns with
    | zero => omega
    | succ turns =>
      have hrest : responseContainsTagFrom expected turns fs.flatten = true
          ↔ ∃ g ∈ fs, g.headD 0 = expected :=
        ih (fun g hg => hfs g (List.mem_cons_of_mem f hg)) turns (by omega)
      rw [List.flatten_cons, responseContainsTagFrom_frame hframe hlt, Bool.or_eq_true, hrest]
      simp

/-! ## What the parser delivers -/

/-- Whatever a decoder returns is in `P`. -/
def Yields {α : Type} (d : Decode α) (P : α → Prop) : Prop :=
  ∀ build r a r', d build r = .ok (a, r') → P a

section

variable {α β : Type} {P : β → Prop}

lemma yields_pure {a : β} (h : P a) : Yields (pure a : Decode β) P := by
  intro build r b r' hb
  cases hb
  exact h

lemma yields_fail (e : Error) : Yields (Decode.fail e : Decode β) P := by
  intro build r b r' hb
  cases hb

lemma Yields.bind (d : Decode α) {f : α → Decode β} (h : ∀ a, Yields (f a) P) :
    Yields (d >>= f) P := by
  intro build r b r' hb
  rw [Decode.bind_apply] at hb
  obtain ⟨⟨a, r₁⟩, -, hf⟩ := Outcome.bind_eq_ok.mp hb
  exact h a build r₁ b r' hf

lemma Yields.ite {c : Prop} [Decidable c] {d e : Decode β} (hd : Yields d P) (he : Yields e P) :
    Yields (if c then d else e) P := by
  by_cases h : c
  · rwa [if_pos h]
  · rwa [if_neg h]

end

/-- Only the code of an `ErrorResponse` is decoded to an error. -/
lemma packetDecoder_yields (code : UInt8) (bytes : Bytes) (length : ℕ) :
    Yields (packetDecoder code bytes length)
      fun m => isErrorResponse m = true ↔ code = codeError := by
  have hother {m : BackendMessage} {c : UInt8} (hm : isErrorResponse m = false)
      (hc : c ≠ codeError) : isErrorResponse m = true ↔ c = codeError := by
    rw [hm]
    exact iff_of_false Bool.false_ne_true hc
  unfold packetDecoder
  split
  · exact yields_pure (hother rfl (by decide))
  · exact yields_pure (hother rfl (by decide))
  · exact yields_pure (hother rfl (by decide))
  · exact yields_pure (hother rfl (by decide))
  · exact yields_pure (hother rfl (by decide))
  · exact yields_pure (hother rfl (by decide))
  · exact yields_pure (hother rfl (by decide))
  · exact yields_pure (hother rfl (by decide))
  · exact .bind _ fun _ => yields_pure (hother rfl (by decide))
  · refine .bind _ fun _ => .ite (.bind _ fun _ => yields_pure (hother rfl (by decide))) ?_
    exact yields_fail _
  · exact .bind _ fun _ => .bind _ fun _ => .bind _ fun _ => yields_pure (hother rfl (by decide))
  · exact .bind _ fun _ => .bind _ fun _ => .bind _ fun _ => yields_pure (hother rfl (by decide))
  · exact .bind _ fun _ => .bind _ fun _ => yields_pure (hother rfl (by decide))
  · exact .bind _ fun _ => .bind _ fun _ => yields_pure (hother rfl (by decide))
  · exact .bind _ fun _ => yields_pure (iff_of_true rfl rfl)
  · exact .bind _ fun _ => yields_pure (hother rfl (by decide))
  · exact .bind _ fun _ => .bind _ fun _ => .bind _ fun _ => yields_pure (hother rfl (by decide))
  · exact .bind _ fun _ => .bind _ fun _ => .bind _ fun _ => yields_pure (hother rfl (by decide))
  · refine .bind _ fun _ => .bind _ fun _ => .bind _ fun _ => .bind _ fun _ => ?_
    exact yields_pure (hother rfl (by decide))
  · refine .bind _ fun _ => .bind _ fun _ => .bind _ fun _ => .bind _ fun _ => ?_
    exact yields_pure (hother rfl (by decide))
  · exact .bind _ fun _ => yields_pure (hother rfl (by decide))
  · refine .bind _ fun _ => .ite (yields_pure (hother rfl (by decide))) ?_
    refine .ite (yields_pure (hother rfl (by decide))) ?_
    refine .ite (.bind _ fun _ => yields_pure (hother rfl (by decide))) ?_
    refine .ite (.bind _ fun _ => yields_pure (hother rfl (by decide))) ?_
    refine .ite (.bind _ fun _ => yields_pure (hother rfl (by decide))) ?_
    exact .ite (.bind _ fun _ => yields_pure (hother rfl (by decide))) (yields_fail _)
  · exact yields_fail _

/-- A decoded frame is an error exactly when it begins with `E`. -/
lemma isErrorResponse_of_decodeFrame {build : Build} {f : Bytes} {m : BackendMessage}
    (h : decodeFrame build f = .ok m) : isErrorResponse m = true ↔ f.headD 0 = codeError := by
  unfold decodeFrame handlePacket at h
  obtain ⟨⟨message, r⟩, hdecode, hm⟩ := Outcome.bind_eq_ok.mp h
  cases hm
  exact packetDecoder_yields _ _ _ build _ _ _ hdecode

/-- A delivery that succeeds appends the message of every frame. -/
lemma deliver_collect (build : Build) (fs : List Bytes) (ms : List BackendMessage)
    (h : (deliver build collect fs ms).2 = .ok ()) :
    ∃ messages, (deliver build collect fs ms).1 = ms ++ messages ∧
      List.Forall₂ (fun f m => decodeFrame build f = .ok m) fs messages := by
  induction fs generalizing ms with
  | nil => exact ⟨[], (List.append_nil ms).symm, .nil⟩
  | cons f fs ih =>
    rw [deliver] at h ⊢
    rcases hdecode : decodeFrame build f with m | e | _
    · rw [hdecode] at h
      obtain ⟨messages, hstate, hall⟩ := ih (ms ++ [m]) h
      refine ⟨m :: messages, ?_, .cons hdecode hall⟩
      show (deliver build collect fs (ms ++ [m])).1 = _
      rw [hstate, List.append_assoc]
      rfl
    · rw [hdecode] at h
      cases h
    · rw [hdecode] at h
      cases h

lemma exists_error_iff {build : Build} {fs : List Bytes} {messages : List BackendMessage}
    (h : List.Forall₂ (fun f m => decodeFrame build f = .ok m) fs messages) :
    (∃ m ∈ messages, isErrorResponse m = true) ↔ ∃ f ∈ fs, f.headD 0 = codeError := by
  induction h with
  | nil => simp
  | cons hf _ ih =>
    have hhead := isErrorResponse_of_decodeFrame hf
    simp only [List.mem_cons, exists_eq_or_imp, hhead, ih]

/-- **Scanning and parsing find the same errors** in complete messages that parse. -/
lemma responseContainsTag_parse (build : Build) {fs : List Bytes}
    (hfs : ∀ f ∈ fs, backendFraming.IsFrame f ∧ f.length < 2 ^ 31)
    (hparse : (Parser.new.parse build collect fs.flatten []).outcome = .ok ()) :
    responseContainsTag fs.flatten 69 = true
      ↔ ∃ m ∈ (Parser.new.parse build collect fs.flatten []).state,
        isErrorResponse m = true := by
  have hcut := cut_frames fun f hf => (hfs f hf).1
  have hnil : Parser.new.buffer ++ fs.flatten = fs.flatten := List.nil_append _
  rw [parse_eq, hnil, parseResult, hcut] at hparse ⊢
  dsimp only at hparse ⊢
  have hdelivered : (deliver build collect fs []).2 = .ok () := by
    rcases hd : deliver build collect fs [] with ⟨s, u | e | _⟩
    · rfl
    · rw [hd] at hparse
      cases hparse
    · rw [hd] at hparse
      cases hparse
  obtain ⟨messages, hstate, hall⟩ := deliver_collect build fs [] hdelivered
  rw [List.nil_append] at hstate
  have hdeliver : deliver build collect fs [] = (messages, .ok ()) := Prod.ext hstate hdelivered
  rw [hdeliver, responseContainsTag_frames hfs]
  exact (exists_error_iff hall).symm

/-! ## Messages of `error_response` -/

/-- The fields `error_response` sends. -/
def errorFields (severity code message : String) : List (Char × String) :=
  [('S', severity), ('V', severity), ('C', code), ('M', message)]

def errorBody (severity code message : String) : Bytes :=
  WireMessage.errorOrNoticeBytes (errorFields severity code message)

/-- What the length field should say. -/
def errorLength (severity code message : String) : ℕ :=
  2 * (utf8 severity).length + (utf8 code).length + (utf8 message).length + 13

/-- Parsing delivers one error, with this severity, code and message. -/
def DeliversError (build : Build) (response : Bytes) (severity code message : String) : Prop :=
  ∃ e : DatabaseError,
    Parser.new.parse build collect response [] = ⟨Parser.new, [.error e], .ok ()⟩ ∧
    e.fields.severity = some severity ∧ e.fields.code = some code ∧ e.message = message

lemma length_errorBody (severity code message : String) :
    (errorBody severity code message).length + 4 = errorLength severity code message := by
  unfold errorBody errorLength errorFields WireMessage.errorOrNoticeBytes WireMessage.cstringBytes
  simp only [List.map_cons, List.map_nil, List.flatten_cons, List.flatten_nil, List.length_append,
    List.length_cons, List.length_nil]
  omega

lemma errorResponse_eq (severity code message : String) :
    errorResponse severity code message
      = codeError :: (i32ToBe (Int32.ofNat (errorLength severity code message))
        ++ errorBody severity code message) := by
  have hbody : pushErrorField (pushErrorField (pushErrorField (pushErrorField [] 83 severity) 86
      severity) 67 code) 77 message ++ [0] = errorBody severity code message := by
    unfold errorBody errorFields WireMessage.errorOrNoticeBytes WireMessage.cstringBytes
      pushErrorField
    simp only [List.map_cons, List.map_nil, List.flatten_cons, List.flatten_nil, List.nil_append,
      List.append_nil, List.append_assoc, List.cons_append]
    rfl
  unfold errorResponse
  dsimp only
  rw [hbody, length_errorBody]

/-- A length that is written is read modulo 2^32. -/
lemma exists_lengthField (n : ℕ) :
    ∃ b0 b1 b2 b3, i32ToBe (Int32.ofNat n) = [b0, b1, b2, b3] ∧
      lengthField b0 b1 b2 b3 = n % 2 ^ 32 := by
  refine ⟨_, _, _, _, rfl, ?_⟩
  rw [lengthField, u32FromBe_toBe]
  exact UInt32.toNat_ofNat'

section

variable {severity code message : String}

lemma errorFields_ok (hseverity : NulFree severity) (hcode : NulFree code)
    (hmessage : NulFree message) :
    ∀ p ∈ errorFields severity code message,
      p.1 ≠ '\x00' ∧ p.1.toNat < 128 ∧ NulFree p.2 := by
  intro p hp
  unfold errorFields at hp
  simp only [List.mem_cons, List.not_mem_nil, or_false] at hp
  rcases hp with h | h | h | h <;> rw [h]
  · exact ⟨by simp, by simp, hseverity⟩
  · exact ⟨by simp, by simp, hseverity⟩
  · exact ⟨by simp, by simp, hcode⟩
  · exact ⟨by simp, by simp, hmessage⟩

/-- The body is in the format of errors, whatever its length. -/
lemma errorBody_format (hseverity : NulFree severity) (hcode : NulFree code)
    (hmessage : NulFree message) (length : ℕ) :
    ∃ e : DatabaseError, errorFormat length (.error e) (errorBody severity code message) ∧
      e.fields.severity = some severity ∧ e.fields.code = some code ∧ e.message = message := by
  have hfields :=
    WireMessage.errorOrNoticeBytes_format (errorFields_ok hseverity hcode hmessage)
  refine ⟨_, Format.bind_pure_intro hfields, ?_, ?_, ?_⟩
  · rw [WireMessage.applyFields_keyed]
    rfl
  · rw [WireMessage.applyFields_keyed]
    rfl
  · have hkey : "M" = String.singleton 'M' := rfl
    dsimp only
    rw [hkey, WireMessage.get_keyed]
    rfl

end

/-- Fields in front of the same bytes have the same length: the first NUL type ends them. -/
lemma fields_length_unique {pairs pairs' : List (String × String)}
    (h : ∀ p ∈ pairs, FieldPairOk p) (h' : ∀ p ∈ pairs', FieldPairOk p) {t t' : Bytes}
    (heq : (pairs.map fieldBytes).flatten ++ 0 :: t = (pairs'.map fieldBytes).flatten ++ 0 :: t') :
    (pairs.map fieldBytes).flatten.length = (pairs'.map fieldBytes).flatten.length := by
  have htype {p : String × String} (hp : FieldPairOk p) : ∃ b, utf8 p.1 = [b] ∧ b ≠ 0 := by
    obtain ⟨b, hb⟩ := List.length_eq_one_iff.mp hp.type_length
    refine ⟨b, hb, fun h0 => hp.type_ne (utf8_injective ?_)⟩
    rw [hb, h0, utf8_nul]
  induction pairs generalizing pairs' with
  | nil =>
    cases pairs' with
    | nil => rfl
    | cons p' pairs' =>
      obtain ⟨b, hb, hne⟩ := htype (h' p' List.mem_cons_self)
      rw [List.map_cons, List.flatten_cons, fieldBytes, hb] at heq
      exact absurd (List.cons.inj heq).1.symm hne
  | cons p pairs ih =>
    have hp := h p List.mem_cons_self
    obtain ⟨b, hb, hne⟩ := htype hp
    cases pairs' with
    | nil =>
      rw [List.map_cons, List.flatten_cons, fieldBytes, hb] at heq
      exact absurd (List.cons.inj heq).1 hne
    | cons p' pairs' =>
      have hp' := h' p' List.mem_cons_self
      obtain ⟨b', hb', -⟩ := htype hp'
      simp only [List.map_cons, List.flatten_cons, fieldBytes, hb, hb', List.append_assoc,
        List.cons_append, List.nil_append, List.cons.injEq] at heq
      have hcut := congrArg (List.findIdx? (· == 0)) heq.2
      rw [findIdx?_nul hp.value_nul, findIdx?_nul hp'.value_nul, Option.some.injEq] at hcut
      have hbehind := (List.append_inj heq.2 hcut).2
      have hrest := ih (fun q hq => h q (List.mem_cons_of_mem p hq))
        (fun q hq => h' q (List.mem_cons_of_mem p' hq)) (List.cons.inj hbehind).2
      simp only [List.map_cons, List.flatten_cons, fieldBytes, hb, hb', List.length_append, hrest,
        hcut, List.length_cons, List.length_nil]

lemma errorFormat_length_unique {length length' : ℕ} {m m' : BackendMessage}
    {x x' t t' : Bytes} (h : errorFormat length m x) (h' : errorFormat length' m' x')
    (heq : x ++ t = x' ++ t') : x.length = x'.length := by
  obtain ⟨-, _, _, ⟨pairs, hpairs, hx, -⟩, ⟨-, hnil⟩, hz⟩ := h
  obtain ⟨-, _, _, ⟨pairs', hpairs', hx', -⟩, ⟨-, hnil'⟩, hz'⟩ := h'
  rw [hnil, List.append_nil, hx] at hz
  rw [hnil', List.append_nil, hx'] at hz'
  rw [hz, hz', List.append_assoc, List.append_assoc] at heq
  have hunique := fields_length_unique hpairs hpairs' heq
  rw [hz, hz', List.length_append, List.length_append, hunique]

section

variable {severity code message : String}

/-- An error whose length fits in the length field is delivered. -/
lemma deliversError_of_lt (build : Build) (hseverity : NulFree severity) (hcode : NulFree code)
    (hmessage : NulFree message) (hlt : errorLength severity code message < 2 ^ 32) :
    DeliversError build (errorResponse severity code message) severity code message := by
  have hlen := length_errorBody severity code message
  obtain ⟨b0, b1, b2, b3, hbytes, hfield⟩ := exists_lengthField (errorLength severity code message)
  rw [Nat.mod_eq_of_lt hlt] at hfield
  have hresponse : errorResponse severity code message
      = codeError :: b0 :: b1 :: b2 :: b3 :: errorBody severity code message := by
    rw [errorResponse_eq, hbytes]
    rfl
  have hlength : (errorResponse severity code message).length
      = 1 + errorLength severity code message := by
    rw [hresponse]
    simp only [List.length_cons]
    omega
  have hframe : backendFraming.IsFrame (errorResponse severity code message) := by
    rw [Framing.IsFrame, hlength, hresponse, ← hfield]
    exact scanBackend_frame _ _ _ _ _ _ (by omega) (by omega)
  have hreads := decodeFrame_readsAt build hframe
  have hdrop : (errorResponse severity code message).drop Protocol.headerLen
      = errorBody severity code message := by
    rw [hresponse]
    rfl
  obtain ⟨e, hformat, hs, hc, hm⟩ := errorBody_format hseverity hcode hmessage
    ((errorResponse severity code message).length - 1)
  have hdecode : decodeFrame build (errorResponse severity code message) = .ok (.error e) := by
    have haccept := hreads.accept (.error e) (errorBody severity code message) [] (by
      rw [hresponse] at hformat ⊢
      exact hformat) (by
      rw [List.append_nil, ← hdrop]
      rfl)
    rw [decodeFrame, handlePacket, haccept]
    rfl
  refine ⟨e, ?_, hs, hc, hm⟩
  have hcut : backendFraming.cut (errorResponse severity code message)
      = ⟨[errorResponse severity code message], [], none⟩ := by
    have hframes : ∀ f ∈ [errorResponse severity code message], backendFraming.IsFrame f := by
      intro f hf
      rw [List.mem_singleton.mp hf]
      exact hframe
    have hone := cut_frames hframes
    rwa [List.flatten_cons, List.flatten_nil, List.append_nil] at hone
  have hnil : Parser.new.buffer ++ errorResponse severity code message
      = errorResponse severity code message := List.nil_append _
  rw [parse_eq, hnil, parseResult, hcut]
  dsimp only
  rw [deliver, hdecode]
  rfl

/-- The body of an error is never hazardous. -/
lemma not_hazard_error {body : Bytes} {b0 b1 b2 b3 : UInt8} :
    ¬ FrameHazard (codeError :: b0 :: b1 :: b2 :: b3 :: body) := by
  have hhazard : packetHazard codeError = .never := rfl
  rw [FrameHazard, List.headD_cons, hhazard]
  exact id

/-- A message that is cut before its end is no error message. -/
lemma not_wellFormed_of_cut (hseverity : NulFree severity) (hcode : NulFree code)
    (hmessage : NulFree message) {k : ℕ} (hk : k < (errorBody severity code message).length)
    (b0 b1 b2 b3 : UInt8) :
    ¬ FrameWellFormed
      (codeError :: b0 :: b1 :: b2 :: b3 :: (errorBody severity code message).take k) := by
  rintro ⟨m, x, tail, hformat, htail⟩
  have hfront : errorFormat _ m x := hformat
  have hsplit : (errorBody severity code message).take k = x ++ tail := htail
  obtain ⟨e, hwhole, -⟩ := errorBody_format hseverity hcode hmessage 0
  have hsame : x ++ (tail ++ (errorBody severity code message).drop k)
      = errorBody severity code message ++ [] := by
    rw [← List.append_assoc, ← hsplit, List.take_append_drop, List.append_nil]
  have hlong := errorFormat_length_unique hfront hwhole hsame
  have hshort := congrArg List.length hsplit
  rw [List.length_append, List.length_take] at hshort
  omega

/-- Parsing does not get past a length field below four. -/
lemma parse_of_bad (build : Build) {response : Bytes}
    (hscan : backendFraming.scan response = .bad ()) :
    (Parser.new.parse build collect response []).outcome = .panic := by
  have hnil : Parser.new.buffer ++ response = response := List.nil_append _
  rw [parse_eq, hnil, parseResult, backendFraming.cut_of_bad hscan]
  rfl

/-- Parsing ends at a first message that cannot be decoded. -/
lemma parse_of_frame_err (build : Build) {response : Bytes} {n : ℕ} {e : Error}
    (hscan : backendFraming.scan response = .frame n)
    (herr : decodeFrame build (response.take n) = .err e) :
    (Parser.new.parse build collect response []).outcome = .err e := by
  have hnil : Parser.new.buffer ++ response = response := List.nil_append _
  rw [parse_eq, hnil, parseResult, backendFraming.cut_of_frame hscan]
  simp only [Cut.prepend_frames, List.singleton_append, deliver, herr]

lemma take_frame (code b0 b1 b2 b3 : UInt8) (body : Bytes) (k : ℕ) :
    (code :: b0 :: b1 :: b2 :: b3 :: body).take (1 + (k + 4))
      = code :: b0 :: b1 :: b2 :: b3 :: body.take k := by
  have hsum : 1 + (k + 4) = k + 5 := by omega
  rw [hsum]
  rfl

/-- A length field that is too small ends the message inside its fields. -/
lemma not_ok_of_wrapped (build : Build) (hseverity : NulFree severity) (hcode : NulFree code)
    (hmessage : NulFree message) {b0 b1 b2 b3 : UInt8}
    (hlt : lengthField b0 b1 b2 b3 < errorLength severity code message) :
    (Parser.new.parse build collect
      (codeError :: b0 :: b1 :: b2 :: b3 :: errorBody severity code message) []).outcome
      ≠ .ok () := by
  have hlen := length_errorBody severity code message
  by_cases h4 : lengthField b0 b1 b2 b3 < 4
  · have hbad : backendFraming.scan
        (codeError :: b0 :: b1 :: b2 :: b3 :: errorBody severity code message) = .bad () :=
      if_pos h4
    rw [parse_of_bad build hbad]
    simp
  · obtain ⟨k, hk⟩ : ∃ k, lengthField b0 b1 b2 b3 = k + 4 :=
      ⟨lengthField b0 b1 b2 b3 - 4, by omega⟩
    have hscan : backendFraming.scan
        (codeError :: b0 :: b1 :: b2 :: b3 :: errorBody severity code message)
          = .frame (1 + (k + 4)) := by
      rw [← hk]
      exact scanBackend_frame codeError b0 b1 b2 b3 _ (by omega) (by omega)
    have hframe := backendFraming.frame_take hscan
    rw [take_frame] at hframe
    have hlength : (codeError :: b0 :: b1 :: b2 :: b3
        :: (errorBody severity code message).take k).length = 1 + (k + 4) := by
      simp only [List.length_cons, List.length_take]
      omega
    have hisFrame : backendFraming.IsFrame
        (codeError :: b0 :: b1 :: b2 :: b3 :: (errorBody severity code message).take k) := by
      rw [Framing.IsFrame, hlength]
      exact hframe
    have hcut := not_wellFormed_of_cut (k := k) hseverity hcode hmessage (by omega) b0 b1 b2 b3
    obtain ⟨e, he⟩ := decodeFrame_eq_err build hisFrame not_hazard_error hcut
    rw [parse_of_frame_err build hscan (by rw [take_frame]; exact he)]
    simp

/-- **When `error_response` is read back.** -/
lemma deliversError_iff (build : Build) (hseverity : NulFree severity) (hcode : NulFree code)
    (hmessage : NulFree message) :
    DeliversError build (errorResponse severity code message) severity code message
      ↔ errorLength severity code message < 2 ^ 32 := by
  constructor
  · rintro ⟨e, hparse, -⟩
    by_contra hle
    obtain ⟨b0, b1, b2, b3, hbytes, hfield⟩ :=
      exists_lengthField (errorLength severity code message)
    have hmod : errorLength severity code message % 2 ^ 32 < 2 ^ 32 :=
      Nat.mod_lt _ (Nat.two_pow_pos 32)
    have hshort : lengthField b0 b1 b2 b3 < errorLength severity code message := by omega
    have hbroken := not_ok_of_wrapped build hseverity hcode hmessage hshort
    rw [errorResponse_eq, hbytes] at hparse
    exact hbroken (congrArg ParseResult.outcome hparse)
  · exact deliversError_of_lt build hseverity hcode hmessage

/-- **Error detection agrees.** Both scanners give the same answer on every byte string; on
complete messages below 2^31 bytes that parse it is true exactly when an error is delivered; and
`error_response` is parsed to one error with its severity, code and message exactly when its
length fits in 32 bits. -/
theorem errorDetection_agrees_iff (build : Build) (hseverity : NulFree severity)
    (hcode : NulFree code) (hmessage : NulFree message) :
    (∀ response, protocolResponseContainsError response
      = .ok (responseContainsTag response 69)) ∧
    (∀ fs : List Bytes, (∀ f ∈ fs, backendFraming.IsFrame f ∧ f.length < 2 ^ 31) →
      (Parser.new.parse build collect fs.flatten []).outcome = .ok () →
      (responseContainsTag fs.flatten 69 = true
        ↔ ∃ m ∈ (Parser.new.parse build collect fs.flatten []).state,
          isErrorResponse m = true)) ∧
    (DeliversError build (errorResponse severity code message) severity code message
      ↔ errorLength severity code message < 2 ^ 32) :=
  ⟨protocolResponseContainsError_eq,
    fun _ hfs hparse => responseContainsTag_parse build hfs hparse,
    deliversError_iff build hseverity hcode hmessage⟩

end

theorem errorDetection_agrees_startup :
    DeliversError ⟨true⟩ (errorResponse "FATAL" "XX000" "no backend") "FATAL" "XX000"
      "no backend" :=
  (errorDetection_agrees_iff ⟨true⟩ (by unfold NulFree; decide) (by unfold NulFree; decide)
    (by unfold NulFree; decide)).2.2.mpr (by decide)

/-! ### Long messages -/

/-- A message of `n` letters. -/
def longMessage (n : ℕ) : String := String.ofList (List.replicate n 'a')

lemma utf8_longMessage (n : ℕ) : utf8 (longMessage n) = List.replicate n 97 := by
  unfold longMessage
  induction n with
  | zero => rfl
  | succ n ih =>
    have hcons : String.ofList ('a' :: List.replicate n 'a')
        = String.singleton 'a' ++ String.ofList (List.replicate n 'a') := by
      apply String.toList_injective
      simp
    rw [List.replicate_succ, hcons, utf8_append, ih, utf8_singleton (by decide),
      List.replicate_succ]
    rfl

lemma nulFree_longMessage (n : ℕ) : NulFree (longMessage n) := by
  unfold NulFree
  rw [utf8_longMessage]
  intro h
  exact absurd (List.eq_of_mem_replicate h) (by decide)

lemma not_deliversError_longMessage {n : ℕ} (h : 2 ^ 32 ≤ n) :
    ¬ DeliversError ⟨true⟩ (errorResponse "FATAL" "XX000" (longMessage n)) "FATAL" "XX000"
      (longMessage n) := by
  have hlong : n ≤ errorLength "FATAL" "XX000" (longMessage n) := by
    unfold errorLength
    rw [utf8_longMessage, List.length_replicate]
    omega
  rw [deliversError_iff ⟨true⟩ (by unfold NulFree; decide) (by unfold NulFree; decide)
    (nulFree_longMessage n)]
  omega

/-- The length field of a message of 4 GiB wraps to a small number. -/
theorem errorResponse_wraps :
    ¬ DeliversError ⟨true⟩ (errorResponse "FATAL" "XX000" (longMessage (2 ^ 32))) "FATAL" "XX000"
      (longMessage (2 ^ 32)) :=
  not_deliversError_longMessage le_rfl

end PgliteOxide.Pglite
