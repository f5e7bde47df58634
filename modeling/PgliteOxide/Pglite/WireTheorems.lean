import PgliteOxide.Lib.Framing
import PgliteOxide.Pglite.Wire

/-!
# What `FrontendFrameReader` hands out

The length rule of `frontend_message_len_if_complete` is a prefix-stable framing, and `push` cuts
its buffer with it (`push_eq`). The kinds `classify_frontend_message` tells apart are used by
every statement about the proxy.
-/

namespace PgliteOxide.Pglite

open Lib

/-- The total length a complete header declares. -/
def declaredLen (buffer : Bytes) : Except String (Option ℕ) :=
  match buffer with
  | b0 :: b1 :: b2 :: b3 :: rest =>
    if b0 = 0 then
      let len := i32FromBe b0 b1 b2 b3
      if len.toInt < 8 then .error s!"invalid startup packet length {len.toInt}"
      else if maxFrontendMessage < i32AsUsize len then
        .error s!"startup/control packet length {i32AsUsize len} exceeds limit"
      else .ok (some (i32AsUsize len))
    else
      match rest with
      | [] => .ok none
      | b4 :: _ =>
        let len := i32FromBe b1 b2 b3 b4
        if len.toInt < 4 then .error s!"invalid frontend message length {len.toInt}"
        else if usizeBound ≤ 1 + i32AsUsize len then .error "frontend message length overflow"
        else if maxFrontendMessage < 1 + i32AsUsize len then
          .error s!"frontend message length {1 + i32AsUsize len} exceeds limit"
        else .ok (some (1 + i32AsUsize len))
  | _ => .ok none

/-- A message is complete when the buffer holds what its header declares. -/
lemma frontendMessageLenIfComplete_eq (buffer : Bytes) :
    frontendMessageLenIfComplete buffer
      = match declaredLen buffer with
        | .error e => .error e
        | .ok none => .ok none
        | .ok (some n) => .ok (if n ≤ buffer.length then some n else none) := by
  match buffer with
  | [] | [_] | [_, _] | [_, _, _] => rfl
  | [b0, b1, b2, b3] =>
    simp only [frontendMessageLenIfComplete, declaredLen]
    split_ifs <;> simp_all
  | b0 :: b1 :: b2 :: b3 :: b4 :: rest =>
    simp only [frontendMessageLenIfComplete, declaredLen]
    split_ifs <;> simp_all

/-- A declared length covers the header. -/
lemma declaredLen_ge {buffer : Bytes} {n : ℕ} (h : declaredLen buffer = .ok (some n)) : 5 ≤ n := by
  match buffer with
  | [] | [_] | [_, _] | [_, _, _] => cases h
  | [b0, b1, b2, b3] =>
    simp only [declaredLen] at h
    split_ifs at h with hzero hshort hlong
    · cases h
      rw [i32AsUsize_of_nonneg (by omega)]
      omega
    · cases h
  | b0 :: b1 :: b2 :: b3 :: b4 :: rest =>
    simp only [declaredLen] at h
    split_ifs at h with hzero hshort hlong hshort hover hlong
    · cases h
      rw [i32AsUsize_of_nonneg (by omega)]
      omega
    · cases h
      rw [i32AsUsize_of_nonneg (by omega)]
      omega

/-- A complete header is read the same whatever follows it. -/
lemma declaredLen_append {buffer : Bytes} (c : Bytes) (h : declaredLen buffer ≠ .ok none) :
    declaredLen (buffer ++ c) = declaredLen buffer := by
  match buffer with
  | [] | [_] | [_, _] | [_, _, _] => exact absurd rfl h
  | [b0, b1, b2, b3] =>
    by_cases hzero : b0 = 0
    · simp only [declaredLen, List.cons_append, hzero, if_true]
    · simp only [declaredLen, hzero, if_false] at h
      exact absurd rfl h
  | b0 :: b1 :: b2 :: b3 :: b4 :: rest => rfl

/-- The header is within the first five bytes. -/
lemma declaredLen_take {buffer : Bytes} {n : ℕ} (hn : 5 ≤ n) :
    declaredLen (buffer.take n) = declaredLen buffer := by
  obtain ⟨k, rfl⟩ : ∃ k, n = k + 5 := ⟨n - 5, by omega⟩
  match buffer with
  | [] | [_] | [_, _] | [_, _, _] | [_, _, _, _] => rfl
  | b0 :: b1 :: b2 :: b3 :: b4 :: rest => rfl

/-- The framing rule of the reader. -/
def scanFrontend (buffer : Bytes) : Scan String :=
  match frontendMessageLenIfComplete buffer with
  | .error e => .bad e
  | .ok none => .more
  | .ok (some n) => .frame n

lemma scanFrontend_eq_frame {buffer : Bytes} {n : ℕ} :
    scanFrontend buffer = .frame n ↔ declaredLen buffer = .ok (some n) ∧ n ≤ buffer.length := by
  rw [scanFrontend, frontendMessageLenIfComplete_eq]
  rcases declaredLen buffer with e | _ | m
  · simp
  · simp
  · by_cases hm : m ≤ buffer.length
    · simp only [hm, if_true, Scan.frame.injEq, Except.ok.injEq, Option.some.injEq]
      constructor
      · intro h
        exact ⟨h, h ▸ hm⟩
      · exact And.left
    · simp only [hm, if_false, reduceCtorEq, Except.ok.injEq, Option.some.injEq, false_iff, not_and]
      intro h
      omega

lemma scanFrontend_eq_bad {buffer : Bytes} {e : String} :
    scanFrontend buffer = .bad e ↔ declaredLen buffer = .error e := by
  rw [scanFrontend, frontendMessageLenIfComplete_eq]
  rcases declaredLen buffer with e' | _ | m
  · simp
  · simp
  · by_cases hm : m ≤ buffer.length <;> simp [hm]

/-- `scanFrontend` as a prefix-stable framing. -/
def frontendFraming : Framing String where
  scan := scanFrontend
  frame_pos h := by
    have hge := declaredLen_ge (scanFrontend_eq_frame.mp h).1
    omega
  frame_le h := (scanFrontend_eq_frame.mp h).2
  frame_append c h := by
    obtain ⟨hdecl, hle⟩ := scanFrontend_eq_frame.mp h
    refine scanFrontend_eq_frame.mpr ⟨?_, ?_⟩
    · rw [declaredLen_append c (by simp [hdecl]), hdecl]
    · rw [List.length_append]
      omega
  bad_append c h := by
    have hdecl := scanFrontend_eq_bad.mp h
    rw [scanFrontend_eq_bad, declaredLen_append c (by simp [hdecl]), hdecl]
  frame_take h := by
    obtain ⟨hdecl, hle⟩ := scanFrontend_eq_frame.mp h
    refine scanFrontend_eq_frame.mpr ⟨?_, ?_⟩
    · rw [declaredLen_take (declaredLen_ge hdecl), hdecl]
    · rw [List.length_take]
      omega

/-- The loop cuts the buffer. -/
lemma pushLoop_eq (turns : ℕ) (buffer : Bytes) (messages : List Bytes)
    (hturns : buffer.length < turns) :
    pushLoop turns buffer messages
      = ((frontendFraming.cut buffer).rest,
          match (frontendFraming.cut buffer).error with
          | none => .ok (messages ++ (frontendFraming.cut buffer).frames)
          | some e => .error e) := by
  -- the turns left always exceed the bytes left
  induction turns generalizing buffer messages with
  | zero => omega
  | succ turns ih =>
    have hscan : frontendFraming.scan buffer = scanFrontend buffer := rfl
    rw [pushLoop]
    rcases hlen : frontendMessageLenIfComplete buffer with e | _ | n
    · rw [scanFrontend, hlen] at hscan
      rw [frontendFraming.cut_of_bad hscan]
    · rw [scanFrontend, hlen] at hscan
      rw [frontendFraming.cut_of_more hscan]
      simp
    · rw [scanFrontend, hlen] at hscan
      have hpos := frontendFraming.frame_pos hscan
      have hle := frontendFraming.frame_le hscan
      rw [frontendFraming.cut_of_frame hscan]
      simp only [Cut.prepend_rest, Cut.prepend_error, Cut.prepend_frames]
      rw [ih _ _ (by rw [List.length_drop]; omega), List.append_assoc]

/-- **`push` hands out the complete messages of its buffer** and keeps the bytes after them. -/
theorem push_eq (reader : FrontendFrameReader) (input : Bytes) :
    reader.push input
      = (⟨(frontendFraming.cut (reader.buffer ++ input)).rest⟩,
          match (frontendFraming.cut (reader.buffer ++ input)).error with
          | none => .ok (frontendFraming.cut (reader.buffer ++ input)).frames
          | some e => .error e) := by
  simp only [FrontendFrameReader.push]
  rw [pushLoop_eq _ _ _ (by omega)]
  rfl

end PgliteOxide.Pglite
