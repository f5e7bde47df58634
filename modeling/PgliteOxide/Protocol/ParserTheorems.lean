import PgliteOxide.Lib.Framing
import PgliteOxide.Protocol.Parser

/-!
# What `parse` computes

`backendFraming` is the framing rule inside `Parser::parse`: a code byte, a 32-bit length that
counts itself, and `length - 4` bytes of body. `parse_eq` reduces a call of `parse`, with its
cursor and its drain step, to cutting the buffer into frames and delivering them one by one.
Chunk invariance is then the chunking law of the framing.
-/

namespace PgliteOxide.Protocol

open Lib

/-! ## The framing rule -/

/-- The length field of a buffer that holds a header. -/
def lengthField (b0 b1 b2 b3 : UInt8) : ℕ := (u32FromBe b0 b1 b2 b3).toNat

/-- The framing rule of `Parser::parse`. -/
def scanBackend : Bytes → Scan Unit
  | code :: b0 :: b1 :: b2 :: b3 :: tail =>
    let length := lengthField b0 b1 b2 b3
    if length < 4 then .bad ()
    else if (code :: b0 :: b1 :: b2 :: b3 :: tail).length < 1 + length then .more
    else .frame (1 + length)
  | _ => .more

/-- A buffer without a complete header asks for more. -/
lemma scanBackend_of_short {b : Bytes} (h : b.length < headerLen) : scanBackend b = .more := by
  match b with
  | [] | [_] | [_, _] | [_, _, _] | [_, _, _, _] => rfl
  | _ :: _ :: _ :: _ :: _ :: _ =>
    simp only [headerLen, List.length_cons] at h
    omega

/-- A buffer that does not ask for more has a complete header. -/
lemma exists_header {b : Bytes} (h : headerLen ≤ b.length) :
    ∃ code b0 b1 b2 b3 tail, b = code :: b0 :: b1 :: b2 :: b3 :: tail := by
  match b with
  | [] | [_] | [_, _] | [_, _, _] | [_, _, _, _] => simp [headerLen] at h
  | code :: b0 :: b1 :: b2 :: b3 :: tail => exact ⟨code, b0, b1, b2, b3, tail, rfl⟩

lemma scanBackend_eq_frame {b : Bytes} {n : ℕ} (h : scanBackend b = .frame n) :
    ∃ code b0 b1 b2 b3 tail, b = code :: b0 :: b1 :: b2 :: b3 :: tail ∧
      n = 1 + lengthField b0 b1 b2 b3 ∧ 4 ≤ lengthField b0 b1 b2 b3 ∧ n ≤ b.length := by
  have hlen : headerLen ≤ b.length := by
    by_contra hlt
    rw [scanBackend_of_short (by omega)] at h
    cases h
  obtain ⟨code, b0, b1, b2, b3, tail, rfl⟩ := exists_header hlen
  refine ⟨code, b0, b1, b2, b3, tail, rfl, ?_⟩
  simp only [scanBackend] at h
  split at h
  · cases h
  · split at h
    · cases h
    · cases h
      exact ⟨rfl, by omega, by omega⟩

lemma scanBackend_eq_bad {b : Bytes} {e : Unit} (h : scanBackend b = .bad e) :
    ∃ code b0 b1 b2 b3 tail, b = code :: b0 :: b1 :: b2 :: b3 :: tail ∧
      lengthField b0 b1 b2 b3 < 4 := by
  have hlen : headerLen ≤ b.length := by
    by_contra hlt
    rw [scanBackend_of_short (by omega)] at h
    cases h
  obtain ⟨code, b0, b1, b2, b3, tail, rfl⟩ := exists_header hlen
  refine ⟨code, b0, b1, b2, b3, tail, rfl, ?_⟩
  simp only [scanBackend] at h
  split at h
  · assumption
  · split at h <;> cases h

/-- A complete frame in front is recognised whatever follows it. -/
lemma scanBackend_frame (code b0 b1 b2 b3 : UInt8) (tail : Bytes)
    (h4 : 4 ≤ lengthField b0 b1 b2 b3) (hle : lengthField b0 b1 b2 b3 ≤ tail.length + 4) :
    scanBackend (code :: b0 :: b1 :: b2 :: b3 :: tail)
      = .frame (1 + lengthField b0 b1 b2 b3) := by
  simp only [scanBackend, List.length_cons]
  rw [if_neg (by omega), if_neg (by omega)]

/-- `scanBackend` as a prefix-stable framing. -/
def backendFraming : Framing Unit where
  scan := scanBackend
  frame_pos h := by
    obtain ⟨_, _, _, _, _, _, _, rfl, _, _⟩ := scanBackend_eq_frame h
    omega
  frame_le h := by
    obtain ⟨_, _, _, _, _, _, _, _, _, hle⟩ := scanBackend_eq_frame h
    exact hle
  frame_append c h := by
    obtain ⟨code, b0, b1, b2, b3, tail, rfl, rfl, h4, hle⟩ := scanBackend_eq_frame h
    simp only [List.length_cons] at hle
    exact scanBackend_frame code b0 b1 b2 b3 (tail ++ c) h4 (by rw [List.length_append]; omega)
  bad_append c h := by
    obtain ⟨code, b0, b1, b2, b3, tail, rfl, hlt⟩ := scanBackend_eq_bad h
    simp only [List.cons_append, scanBackend]
    rw [if_pos hlt]
  frame_take h := by
    obtain ⟨code, b0, b1, b2, b3, tail, rfl, rfl, h4, hle⟩ := scanBackend_eq_frame h
    simp only [List.length_cons] at hle
    obtain ⟨k, hk⟩ : ∃ k, lengthField b0 b1 b2 b3 = k + 4 :=
      ⟨lengthField b0 b1 b2 b3 - 4, by omega⟩
    have htake : (code :: b0 :: b1 :: b2 :: b3 :: tail).take (1 + lengthField b0 b1 b2 b3)
        = code :: b0 :: b1 :: b2 :: b3 :: tail.take k := by
      rw [hk, show 1 + (k + 4) = k + 5 by omega]
      rfl
    rw [htake]
    exact scanBackend_frame code b0 b1 b2 b3 _ h4 (by rw [List.length_take]; omega)

/-- Complete frames are cut apart without a rest. -/
lemma cut_frames {fs : List Bytes} (h : ∀ f ∈ fs, backendFraming.IsFrame f) :
    backendFraming.cut fs.flatten = ⟨fs, [], none⟩ := by
  have hcut := backendFraming.cut_flatten_frames h []
  rw [List.append_nil, backendFraming.cut_of_more (b := []) rfl] at hcut
  rw [hcut, Cut.prepend, List.append_nil]

/-! ## Delivering frames -/

/-- Decode one whole frame. -/
def decodeFrame (build : Build) (f : Bytes) : Outcome Error BackendMessage :=
  handlePacket build (f.headD 0) (f.drop headerLen) (f.length - 1)

section

variable {σ : Type} (build : Build) (callback : σ → BackendMessage → σ × Except Error Unit)

/-- Decode frames and call back, until something fails. -/
def deliver : List Bytes → σ → σ × Outcome Error Unit
  | [], s => (s, .ok ())
  | f :: fs, s =>
    match decodeFrame build f with
    | .panic => (s, .panic)
    | .err e => (s, .err e)
    | .ok m =>
      match callback s m with
      | (s', .error e) => (s', .err e)
      | (s', .ok ()) => deliver fs s'

lemma deliver_append (fs gs : List Bytes) (s : σ) :
    deliver build callback (fs ++ gs) s
      = match deliver build callback fs s with
        | (s', .ok ()) => deliver build callback gs s'
        | r => r := by
  induction fs generalizing s with
  | nil => rfl
  | cons f fs ih =>
    simp only [List.cons_append, deliver]
    cases decodeFrame build f with
    | panic => rfl
    | err e => rfl
    | ok m =>
      rcases hcb : callback s m with ⟨s', e | u⟩
      · simp only [hcb]
      · simp only [hcb, ih s']

end

/-! ## The loop -/

lemma slice_drop {α ε : Type} (xs : List α) {c : ℕ} (hc : c ≤ xs.length) (i j : ℕ) :
    (slice xs (c + i) (c + j) : Outcome ε (List α)) = slice (xs.drop c) i j := by
  by_cases h : i ≤ j ∧ j ≤ (xs.drop c).length
  · have hj := h.2
    rw [List.length_drop] at hj
    rw [slice_of_le xs (by omega) (by omega), slice_of_le _ h.1 h.2, List.take_drop,
      List.drop_drop]
  · rw [slice, slice, if_neg h]
    rw [List.length_drop] at h
    rw [if_neg (by omega)]

/-- Reading at a cursor is reading at the front of what lies behind it. -/
lemma nextMessage_drop (build : Build) (buffer : Bytes) {cursor : ℕ}
    (h : cursor ≤ buffer.length) :
    nextMessage build buffer cursor = nextMessage build (buffer.drop cursor) 0 := by
  have hindex : (index buffer cursor : Outcome Error UInt8) = index (buffer.drop cursor) 0 := by
    rw [index, index, List.getElem?_drop, Nat.add_zero]
  have hheader : packetHeader buffer cursor = packetHeader (buffer.drop cursor) 0 := by
    simp only [packetHeader, hindex, slice_drop buffer h, Nat.zero_add]
  simp only [nextMessage, hheader, slice_drop buffer h, Nat.zero_add, List.length_drop,
    Nat.sub_zero]

/-- The header at the front of a buffer. -/
lemma packetHeader_cons (code b0 b1 b2 b3 : UInt8) (tail : Bytes) :
    packetHeader (code :: b0 :: b1 :: b2 :: b3 :: tail) 0
      = .ok (code, lengthField b0 b1 b2 b3) := by
  have hlen : (slice (code :: b0 :: b1 :: b2 :: b3 :: tail) (0 + 1) (0 + headerLen)
      : Outcome Error Bytes) = .ok [b0, b1, b2, b3] := by
    rw [slice_of_le _ (by rw [headerLen]; omega)
      (by simp only [headerLen, List.length_cons]; omega)]
    rfl
  rw [packetHeader, index_cons_zero, Outcome.ok_bind, hlen, Outcome.ok_bind]
  rfl

/-- The message at the front of a buffer. -/
lemma nextMessage_header (build : Build) (code b0 b1 b2 b3 : UInt8) (tail : Bytes) {n : ℕ}
    (hn : lengthField b0 b1 b2 b3 = n) :
    nextMessage build (code :: b0 :: b1 :: b2 :: b3 :: tail) 0
      = if tail.length + 5 < 1 + n then .ok none
        else slice (code :: b0 :: b1 :: b2 :: b3 :: tail) headerLen (1 + n) >>= fun body =>
          handlePacket build code body n >>= fun message => .ok (some (message, 1 + n)) := by
  rw [nextMessage, packetHeader_cons, hn, Outcome.ok_bind]
  simp only [Nat.zero_add, Nat.sub_zero, List.length_cons, Outcome.pure_eq]

/-- A turn of the loop, by what the framing rule says about the bytes at the cursor. -/
lemma nextMessage_of_frame (build : Build) {b : Bytes} {n : ℕ}
    (h : backendFraming.scan b = .frame n) :
    nextMessage build b 0 = decodeFrame build (b.take n) >>= fun m => .ok (some (m, n)) := by
  obtain ⟨code, b0, b1, b2, b3, tail, rfl, rfl, h4, hle⟩ := scanBackend_eq_frame h
  obtain ⟨k, hk⟩ : ∃ k, lengthField b0 b1 b2 b3 = k + 4 :=
    ⟨lengthField b0 b1 b2 b3 - 4, by omega⟩
  simp only [List.length_cons] at hle
  rw [nextMessage_header build code b0 b1 b2 b3 tail rfl, if_neg (by omega)]
  rw [slice_of_le _ (by rw [headerLen]; omega) (by simp only [List.length_cons]; omega)]
  have htake : (code :: b0 :: b1 :: b2 :: b3 :: tail).take (1 + lengthField b0 b1 b2 b3)
      = code :: b0 :: b1 :: b2 :: b3 :: tail.take k := by
    rw [hk, show 1 + (k + 4) = k + 5 by omega]
    rfl
  have hlen : (code :: b0 :: b1 :: b2 :: b3 :: tail.take k).length - 1
      = lengthField b0 b1 b2 b3 := by
    simp only [List.length_cons, List.length_take]
    omega
  simp only [decodeFrame, htake, hlen, List.headD_cons, Outcome.ok_bind]

lemma nextMessage_of_bad (build : Build) {b : Bytes} {e : Unit}
    (h : backendFraming.scan b = .bad e) : nextMessage build b 0 = .panic := by
  obtain ⟨code, b0, b1, b2, b3, tail, rfl, hlt⟩ := scanBackend_eq_bad h
  rw [nextMessage_header build code b0 b1 b2 b3 tail rfl, if_neg (by omega),
    slice_of_gt _ (by rw [headerLen]; omega), Outcome.panic_bind]

lemma nextMessage_of_more (build : Build) {b : Bytes} (h : backendFraming.scan b = .more)
    (hlen : headerLen ≤ b.length) : nextMessage build b 0 = .ok none := by
  obtain ⟨code, b0, b1, b2, b3, tail, rfl⟩ := exists_header hlen
  simp only [backendFraming, scanBackend, List.length_cons] at h
  rw [nextMessage_header build code b0 b1 b2 b3 tail rfl]
  split at h
  · cases h
  · split at h
    · rw [if_pos (by assumption)]
    · cases h

section

variable {σ : Type} (build : Build) (callback : σ → BackendMessage → σ × Except Error Unit)

/-- How a delivered buffer ends the loop: the cursor stands behind the last frame, or the
loop failed. -/
def loopResult (cursor : ℕ) (c : Cut Unit) (s : σ) : σ × Outcome Error ℕ :=
  match deliver build callback c.frames s with
  | (s', .err e) => (s', .err e)
  | (s', .panic) => (s', .panic)
  | (s', .ok ()) =>
    match c.error with
    | none => (s', .ok (cursor + c.frames.flatten.length))
    | some _ => (s', .panic)

/-- The loop delivers the frames behind the cursor. -/
lemma parseLoop_eq (buffer : Bytes) (turns cursor : ℕ) (s : σ) (hcur : cursor ≤ buffer.length)
    (hturns : buffer.length - cursor < turns) :
    parseLoop build callback buffer turns cursor s
      = loopResult build callback cursor (backendFraming.cut (buffer.drop cursor)) s := by
  -- one turn per frame; the turns left always exceed the bytes left
  induction turns generalizing cursor s with
  | zero => omega
  | succ turns ih =>
    rw [parseLoop]
    by_cases hhead : headerLen ≤ buffer.length - cursor
    · rw [if_pos hhead, nextMessage_drop build buffer hcur]
      have hlen : headerLen ≤ (buffer.drop cursor).length := by rwa [List.length_drop]
      cases hscan : backendFraming.scan (buffer.drop cursor) with
      | more =>
        rw [nextMessage_of_more build hscan hlen, backendFraming.cut_of_more hscan]
        simp [loopResult, deliver]
      | bad e =>
        rw [nextMessage_of_bad build hscan, backendFraming.cut_of_bad hscan]
        rfl
      | frame n =>
        have hpos := backendFraming.frame_pos hscan
        have hle := backendFraming.frame_le hscan
        rw [List.length_drop] at hle
        rw [nextMessage_of_frame build hscan, backendFraming.cut_of_frame hscan]
        simp only [loopResult, Cut.prepend_frames, Cut.prepend_error, List.singleton_append,
          deliver]
        cases hdec : decodeFrame build ((buffer.drop cursor).take n) with
        | panic => rfl
        | err e => rfl
        | ok m =>
          simp only [Outcome.ok_bind]
          rcases hcb : callback s m with ⟨s', e | u⟩
          · rfl
          · have hrec := ih (cursor + n) s' (by omega) (by omega)
            rw [← List.drop_drop] at hrec
            simp only [hrec, loopResult, List.flatten_cons, List.length_append, List.length_take,
              List.length_drop]
            rw [Nat.min_eq_left hle]
            simp only [Nat.add_assoc]
    · have hshort : backendFraming.scan (buffer.drop cursor) = .more :=
        scanBackend_of_short (by rw [List.length_drop]; omega)
      rw [if_neg hhead, backendFraming.cut_of_more hshort]
      simp [loopResult, deliver]

/-- The result of `parse` on a buffer cut into frames. -/
def parseResult (buffer : Bytes) (s : σ) : ParseResult σ :=
  match deliver build callback (backendFraming.cut buffer).frames s with
  | (s', .err e) => ⟨⟨buffer⟩, s', .err e⟩
  | (s', .panic) => ⟨⟨buffer⟩, s', .panic⟩
  | (s', .ok ()) =>
    match (backendFraming.cut buffer).error with
    | none => ⟨⟨(backendFraming.cut buffer).rest⟩, s', .ok ()⟩
    | some _ => ⟨⟨buffer⟩, s', .panic⟩

/-- **`parse` delivers the frames of its buffer** and keeps the bytes after them; when
something fails it keeps the whole buffer. -/
theorem parse_eq (p : Parser) (input : Bytes) (s : σ) :
    p.parse build callback input s = parseResult build callback (p.buffer ++ input) s := by
  have hloop := parseLoop_eq build callback (p.buffer ++ input)
    ((p.buffer ++ input).length + 1) 0 s (Nat.zero_le _) (by omega)
  have hflat := backendFraming.cut_flatten (p.buffer ++ input)
  rw [List.drop_zero] at hloop
  simp only [Parser.parse, hloop, loopResult, parseResult]
  generalize backendFraming.cut (p.buffer ++ input) = c at hflat ⊢
  rcases deliver build callback c.frames s with ⟨s', u | e | _⟩
  · cases herr : c.error with
    | some e => simp
    | none =>
      -- the drained buffer is what the cut left over, also when nothing was consumed
      rw [← hflat]
      simp only [Nat.zero_add]
      by_cases hpos : 0 < c.frames.flatten.length
      · rw [if_pos hpos, List.drop_left]
      · have hnil : c.frames.flatten = [] := List.length_eq_zero_iff.mp (by omega)
        rw [if_neg hpos, hnil, List.nil_append]
  · simp
  · simp

end

end PgliteOxide.Protocol
