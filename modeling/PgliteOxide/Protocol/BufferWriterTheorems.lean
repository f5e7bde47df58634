import PgliteOxide.Protocol.BufferWriter

/-!
# `BufferWriter` refines list append

A writer holds a body if its buffer is five bytes of header, the body, and room
(`BufferWriter.Holds`). An addition appends its encoding to the body, whether or not the buffer
grows for it, and a flush returns the body and leaves a new writer (`BufferWriter.run_refines`).
-/

namespace PgliteOxide.Protocol

open Lib

namespace BufferWriter

variable {build : Build} {w w' : BufferWriter} {size : ℕ} {body : Bytes}

/-- The buffer is a header, the body and room; the body starts behind the header. -/
structure Holds (w : BufferWriter) (size : ℕ) (body : Bytes) : Prop where
  parts : ∃ header room, w.buffer = header ++ body ++ room ∧ header.length = 5
  offset_eq : w.offset = 5 + body.length
  size_eq : w.size = size
  size_le : size ≤ isizeMax

/-- A new writer, unless the size is more than a vector can have. -/
lemma new_eq_ok : new size = .ok w ↔
    size ≤ isizeMax ∧ w = { buffer := List.replicate size 0, size, offset := 5 } := by
  unfold new zeros
  by_cases hsize : size ≤ isizeMax
  · rw [withCapacity_of_le (by omega)]
    constructor
    · intro h
      cases h
      exact ⟨hsize, rfl⟩
    · rintro ⟨-, rfl⟩
      rfl
  · rw [withCapacity_of_gt (by omega)]
    constructor
    · intro h
      cases h
    · rintro ⟨hle, -⟩
      exact absurd hle hsize

/-- A new writer holds nothing. -/
lemma holds_new (hsize : 5 ≤ size) (h : new size = .ok w) : w.Holds size [] := by
  obtain ⟨hle, rfl⟩ := new_eq_ok.mp h
  refine ⟨⟨List.replicate 5 0, List.replicate (size - 5) 0, ?_, rfl⟩, rfl, rfl, hle⟩
  have hsplit : size = 5 + (size - 5) := by omega
  show List.replicate size 0 = _
  rw [List.append_nil, List.replicate_append_replicate, ← hsplit]

namespace Holds

variable (build)

lemma offset_le (h : w.Holds size body) : w.offset ≤ w.buffer.length := by
  obtain ⟨header, room, hbuffer, hheader⟩ := h.parts
  have hlen : w.buffer.length = header.length + body.length + room.length := by
    rw [hbuffer, List.length_append, List.length_append]
  have hoffset := h.offset_eq
  omega

/-- Where the buffer grows it is short, so that its new length is one a vector can have. -/
lemma ensureCapacity {additional : ℕ} (h : w.Holds size body) (hbody : body.length < 2 ^ 31)
    (hadditional : additional < 2 ^ 31) :
    ∃ w', w.ensureCapacity build additional = .ok w' ∧ w'.Holds size body ∧
      w'.offset + additional ≤ w'.buffer.length := by
  have hle := h.offset_le
  have hoffset := h.offset_eq
  unfold BufferWriter.ensureCapacity
  rw [usizeSub_of_le build hle, Outcome.ok_bind]
  by_cases hroom : w.buffer.length - w.offset < additional
  · rw [if_pos hroom]
    have hshort : w.buffer.length < 2 ^ 33 := by omega
    have hhalf : w.buffer.length + w.buffer.length / 2 < usizeBound := by
      unfold usizeBound
      omega
    have hsum : w.buffer.length + w.buffer.length / 2 + additional < usizeBound := by
      unfold usizeBound
      omega
    -- the buffer always gets longer here
    have hgrown : ¬ w.buffer.length + w.buffer.length / 2 + additional = w.buffer.length := by
      omega
    have hcapacity : w.buffer.length + w.buffer.length / 2 + additional ≤ isizeMax := by
      unfold isizeMax
      omega
    simp only [usizeAdd_of_lt build hhalf, usizeAdd_of_lt build hsum, Outcome.ok_bind,
      if_neg hgrown, pure_bind, resize]
    rw [withCapacity_of_le (by omega)]
    refine ⟨_, rfl, ?_, ?_⟩
    · obtain ⟨header, room, hbuffer, hheader⟩ := h.parts
      refine ⟨⟨header, room ++ List.replicate (w.buffer.length + w.buffer.length / 2 + additional
        - w.buffer.length) 0, ?_, hheader⟩, hoffset, h.size_eq, h.size_le⟩
      show w.buffer.take _ ++ List.replicate _ 0 = _
      rw [List.take_of_length_le (by omega), ← List.append_assoc, ← hbuffer]
    · show w.offset + additional ≤ (w.buffer.take _ ++ List.replicate _ 0).length
      rw [List.length_append, List.take_of_length_le (by omega), List.length_replicate]
      omega
  · rw [if_neg hroom]
    exact ⟨w, rfl, h, by omega⟩

/-- Bytes copied behind the body become part of it. -/
lemma copy {bytes : Bytes} (h : w.Holds size body)
    (hroom : w.offset + bytes.length ≤ w.buffer.length) :
    ∃ buffer, copyFromSlice w.buffer w.offset (w.offset + bytes.length) bytes
        = (.ok buffer : Outcome Empty Bytes) ∧
      ({ w with buffer := buffer, offset := w.offset + bytes.length } : BufferWriter).Holds size
        (body ++ bytes) := by
  obtain ⟨header, room, hbuffer, hheader⟩ := h.parts
  have hoffset : w.offset = (header ++ body).length := by
    rw [List.length_append, hheader]
    exact h.offset_eq
  have hlen : w.buffer.length = (header ++ body).length + room.length := by
    rw [hbuffer, List.length_append]
  have htaken : (room.take bytes.length).length = bytes.length := by
    rw [List.length_take]
    omega
  have hsplit : w.buffer = (header ++ body) ++ room.take bytes.length ++ room.drop bytes.length := by
    rw [List.append_assoc (header ++ body), List.take_append_drop, hbuffer]
  have hcopy : copyFromSlice w.buffer w.offset (w.offset + bytes.length) bytes
      = (.ok (header ++ body ++ bytes ++ room.drop bytes.length) : Outcome Empty Bytes) := by
    rw [hoffset, hsplit]
    have h := copyFromSlice_append (ε := Empty) (header ++ body) (room.take bytes.length)
      (room.drop bytes.length) bytes htaken.symm
    rw [htaken] at h
    exact h
  refine ⟨_, hcopy, ⟨header, room.drop bytes.length, ?_, hheader⟩, ?_, h.size_eq, h.size_le⟩
  · show header ++ body ++ bytes ++ room.drop bytes.length = _
    simp only [List.append_assoc]
  · show w.offset + bytes.length = 5 + (body ++ bytes).length
    rw [List.length_append, h.offset_eq]
    omega

lemma writeBeBytes {bytes : Bytes} (h : w.Holds size body) (hbody : body.length < 2 ^ 31)
    (hbytes : bytes.length < 2 ^ 31) :
    ∃ w', w.writeBeBytes build bytes = .ok w' ∧ w'.Holds size (body ++ bytes) := by
  obtain ⟨grown, hgrown, hholds, hroom⟩ := h.ensureCapacity build hbody hbytes
  obtain ⟨buffer, hcopy, hholds'⟩ := hholds.copy hroom
  have hoffset := hholds.offset_eq
  have hadd : grown.offset + bytes.length < usizeBound := by
    unfold usizeBound
    omega
  refine ⟨_, ?_, hholds'⟩
  unfold BufferWriter.writeBeBytes
  simp only [hgrown, Outcome.ok_bind, usizeAdd_of_lt build hadd, hcopy, Outcome.pure_eq]

lemma addString (value : String) (h : w.Holds size body) (hbody : body.length < 2 ^ 31)
    (hvalue : (utf8 value).length < 2 ^ 31) :
    ∃ w', w.addString build value = .ok w' ∧ w'.Holds size (body ++ utf8 value) := by
  obtain ⟨grown, hgrown, hholds, hroom⟩ := h.ensureCapacity build hbody hvalue
  obtain ⟨buffer, hcopy, hholds'⟩ := hholds.copy hroom
  have hoffset := hholds.offset_eq
  have hadd : grown.offset + (utf8 value).length < usizeBound := by
    unfold usizeBound
    omega
  refine ⟨_, ?_, hholds'⟩
  unfold BufferWriter.addString
  simp only [hgrown, Outcome.ok_bind, usizeAdd_of_lt build hadd, hcopy, Outcome.pure_eq]

/-- The text of a `cstring` is left out when it is empty. -/
lemma addCstring (value : String) (h : w.Holds size body)
    (hsum : (body ++ Serialize.cstring value).length < 2 ^ 31) :
    ∃ w', w.addCstring build value = .ok w' ∧
      w'.Holds size (body ++ Serialize.cstring value) := by
  have hcstring : body ++ Serialize.cstring value = body ++ utf8 value ++ [0] :=
    (List.append_assoc body (utf8 value) [0]).symm
  rw [hcstring, List.length_append, List.length_append] at hsum
  rw [hcstring]
  unfold BufferWriter.addCstring addBytes
  have hzero : ([0] : Bytes).length < 2 ^ 31 := by decide
  by_cases hempty : value = ""
  · have hnil : utf8 value = [] := by
      rw [hempty]
      rfl
    rw [if_neg (fun hne => hne hempty), hnil, List.append_nil, pure_bind]
    exact h.writeBeBytes build (by omega) hzero
  · obtain ⟨w₁, hw₁, hholds⟩ := h.addString build value (by omega) (by omega)
    rw [if_pos hempty, hw₁, Outcome.ok_bind]
    apply hholds.writeBeBytes build _ hzero
    rw [List.length_append]
    omega

/-- **An addition appends its encoding.** -/
lemma add (addition : Addition) (h : w.Holds size body)
    (hsum : (body ++ addition.encoding).length < 2 ^ 31) :
    ∃ w', w.add build addition = .ok w' ∧ w'.Holds size (body ++ addition.encoding) := by
  have hlen : (body ++ addition.encoding).length = body.length + addition.encoding.length :=
    List.length_append
  cases addition with
  | int16 value => exact h.writeBeBytes build (by omega) (by rw [length_i16ToBe]; omega)
  | int32 value => exact h.writeBeBytes build (by omega) (by rw [length_i32ToBe]; omega)
  | string value =>
    have hvalue : (Addition.string value).encoding = utf8 value := rfl
    rw [hvalue] at hlen hsum
    exact h.addString build value (by omega) (by omega)
  | cstring value => exact h.addCstring build value hsum
  | bytes value =>
    have hvalue : (Addition.bytes value).encoding = value := rfl
    rw [hvalue] at hlen hsum
    exact h.writeBeBytes build (by omega) (by omega)

/-! ## Flushes -/

/-- What is behind the header is the body. -/
lemma slice_body (h : w.Holds size body) :
    (slice w.buffer 5 w.offset : Outcome Empty Bytes) = .ok body := by
  obtain ⟨header, room, hbuffer, hheader⟩ := h.parts
  have hle := h.offset_le
  rw [slice_of_le _ (by rw [h.offset_eq]; omega) hle]
  have hoffset : w.offset = (header ++ body).length := by
    rw [List.length_append, hheader]
    exact h.offset_eq
  rw [hoffset, hbuffer, List.take_left, ← hheader, List.drop_left]

/-- With a code, the header is the code and the length of what follows it. -/
lemma header_written (h : w.Holds size body) (code : UInt8) :
    ∃ buffer room, setIndex w.buffer 0 code = (.ok buffer : Outcome Empty Bytes) ∧
      copyFromSlice buffer 1 5 (i32ToBe (UInt32.ofNat (body.length + 4)).toInt32)
        = (.ok (Serialize.frame code body ++ room) : Outcome Empty Bytes) := by
  obtain ⟨header, room, hbuffer, hheader⟩ := h.parts
  obtain ⟨b0, rest, rfl⟩ : ∃ b0 rest, header = b0 :: rest := by
    cases header with
    | nil => cases hheader
    | cons b0 rest => exact ⟨b0, rest, rfl⟩
  have hrest : rest.length = 4 := by
    rw [List.length_cons] at hheader
    omega
  have hpos : 0 < w.buffer.length := by
    rw [hbuffer, List.append_assoc, List.cons_append, List.length_cons]
    omega
  have hset : w.buffer.set 0 code = [code] ++ rest ++ (body ++ room) := by
    rw [hbuffer]
    simp only [List.cons_append, List.set_cons_zero, List.append_assoc, List.nil_append]
  refine ⟨[code] ++ rest ++ (body ++ room), room, ?_, ?_⟩
  · rw [setIndex, if_pos hpos, hset]
  · have hfive : 5 = [code].length + rest.length := by
      rw [hrest]
      rfl
    have hlen : (i32ToBe (UInt32.ofNat (body.length + 4)).toInt32).length = rest.length := by
      rw [length_i32ToBe, hrest]
    have hframe : [code] ++ i32ToBe (UInt32.ofNat (body.length + 4)).toInt32 ++ (body ++ room)
        = Serialize.frame code body ++ room := by
      rw [i32ToBe, UInt32.toUInt32_toInt32]
      unfold Serialize.frame Serialize.length
      simp only [List.append_assoc, List.cons_append, List.nil_append]
    rw [hfive, ← hframe]
    exact copyFromSlice_append [code] rest (body ++ room) _ hlen

lemma join (code : Option UInt8) (h : w.Holds size body) (hbody : body.length < 2 ^ 31 - 4) :
    ∃ w', w.join build code = .ok (WriterOp.flushed body code, w') ∧ w'.size = size := by
  unfold BufferWriter.join
  cases code with
  | none =>
    refine ⟨w, ?_, h.size_eq⟩
    simp only [pure_bind, h.slice_body, Outcome.ok_bind]
    rfl
  | some code =>
    obtain ⟨buffer, room, hset, hcopy⟩ := h.header_written code
    have hoffset := h.offset_eq
    have hlength : w.offset - 1 = body.length + 4 := by omega
    have hstop : w.offset = (Serialize.frame code body).length := by
      unfold Serialize.frame Serialize.length
      rw [List.length_append, List.length_cons, length_u32ToBe]
      omega
    have hslice : slice (Serialize.frame code body ++ room) 0 w.offset
        = (.ok (Serialize.frame code body) : Outcome Empty Bytes) := by
      rw [slice_of_le _ (Nat.zero_le _) (by rw [hstop, List.length_append]; omega), hstop,
        List.take_left, List.drop_zero]
    refine ⟨{ w with buffer := Serialize.frame code body ++ room }, ?_, h.size_eq⟩
    simp only [hset, Outcome.ok_bind, usizeSub_of_le build (show 1 ≤ w.offset by omega), hlength,
      hcopy, pure_bind, hslice]
    rfl

/-- **A flush returns the body and leaves a new writer.** -/
lemma flush (code : Option UInt8) {fresh : BufferWriter} (h : w.Holds size body)
    (hbody : body.length < 2 ^ 31 - 4) (hfresh : new size = .ok fresh) :
    w.flush build code = .ok (WriterOp.flushed body code, fresh) := by
  obtain ⟨w', hjoin, hsize⟩ := h.join build code hbody
  obtain ⟨hle, rfl⟩ := new_eq_ok.mp hfresh
  unfold BufferWriter.flush zeros
  simp only [hjoin, Outcome.ok_bind, hsize]
  rw [withCapacity_of_le (by omega)]
  rw [← hsize]
  rfl

end Holds

/-! ## Runs -/

/-- A run from a writer that holds a body. -/
lemma Holds.run (build : Build) {fresh : BufferWriter} {ops : List WriterOp} (h : w.Holds size body)
    (hsize : 5 ≤ size) (hfresh : new size = .ok fresh) (hshort : WriterOp.Short body ops) :
    ∃ w', w.run build ops = .ok (WriterOp.results body ops, w') ∧
      w'.Holds size (WriterOp.pending body ops) := by
  induction ops generalizing w body with
  | nil => exact ⟨w, rfl, h⟩
  | cons op ops ih =>
    have htail := hshort.tail
    cases op with
    | add addition =>
      have hsum : (body ++ addition.encoding).length < 2 ^ 31 - 4 := htail.head
      obtain ⟨w₁, hadd, hholds⟩ := h.add build addition (by omega)
      obtain ⟨w', hrun, hholds'⟩ := ih hholds htail
      refine ⟨w', ?_, hholds'⟩
      rw [BufferWriter.run, hadd]
      exact hrun
    | flush code =>
      have hflush := h.flush build code hshort.head hfresh
      obtain ⟨w', hrun, hholds'⟩ := ih (holds_new hsize hfresh) htail
      refine ⟨w', ?_, hholds'⟩
      rw [BufferWriter.run, hflush]
      simp only [Outcome.ok_bind]
      have hrun' : fresh.run build ops = .ok (WriterOp.results [] ops, w') := hrun
      rw [hrun']
      rfl

/-- **A writer is a list one appends to.** From a new writer of at least five bytes, any calls
return, the flushes with what was added since the flush before; and the writer a flush leaves is
the new one again. -/
theorem run_refines {ops : List WriterOp} (hsize : 5 ≤ size) (hnew : new size = .ok w)
    (hshort : WriterOp.Short [] ops) :
    ∃ w', w.run build ops = .ok (WriterOp.results [] ops, w') ∧
      ∀ code, w'.flush build code = .ok (WriterOp.flushed (WriterOp.pending [] ops) code, w) := by
  obtain ⟨w', hrun, hholds⟩ := (holds_new hsize hnew).run build hsize hnew hshort
  exact ⟨w', hrun, fun code => hholds.flush build code (hshort ops List.prefix_rfl) hnew⟩

/-- The smallest writer grows with the first addition. -/
theorem run_refines_smallest :
    (new 5 = .ok { buffer := [0, 0, 0, 0, 0], size := 5, offset := 5 }) ∧
    ∃ w', ({ buffer := [0, 0, 0, 0, 0], size := 5, offset := 5 } : BufferWriter).run ⟨true⟩
        [.add (.cstring "ab"), .flush (some 81), .add (.int16 1)]
        = .ok ([[81, 0, 0, 0, 7, 97, 98, 0]], w') ∧
      ∀ code, w'.flush ⟨true⟩ code
        = .ok (WriterOp.flushed [0, 1] code, { buffer := [0, 0, 0, 0, 0], size := 5, offset := 5 }) :=
  ⟨by decide, run_refines (show 5 ≤ 5 by decide) (by decide) (by decide)⟩

end BufferWriter

end PgliteOxide.Protocol
