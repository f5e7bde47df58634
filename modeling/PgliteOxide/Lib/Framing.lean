import Mathlib.Data.List.Basic
import PgliteOxide.Lib.BigEndian

/-!
# Prefix-stable framing

A framing rule looks at the front of a buffer and says that more bytes are needed, that a
frame of some length is complete, or that the bytes are malformed. When the last two
answers do not change as bytes arrive (`frame_append`, `bad_append`) and a frame is
recognised from its own bytes (`frame_take`), cutting a byte stream into frames does not
depend on how the stream was cut into reads. `cut` is the whole-buffer semantics;
`cut_append` is the chunking law every incremental reader is proved against.
-/

namespace Lib

/-- What a framing rule says about the front of a buffer. -/
inductive Scan (ε : Type) where
  | more
  | frame (n : ℕ)
  | bad (e : ε)
deriving DecidableEq, Repr

/-- A framing rule whose verdicts are stable under further input. -/
structure Framing (ε : Type) where
  scan : Bytes → Scan ε
  frame_pos : ∀ {b n}, scan b = .frame n → 0 < n
  frame_le : ∀ {b n}, scan b = .frame n → n ≤ b.length
  frame_append : ∀ {b n} (c), scan b = .frame n → scan (b ++ c) = .frame n
  bad_append : ∀ {b e} (c), scan b = .bad e → scan (b ++ c) = .bad e
  frame_take : ∀ {b n}, scan b = .frame n → scan (b.take n) = .frame n

/-- A buffer cut into its complete frames, the bytes after them, and the error that
stopped the cutting, if one did. -/
structure Cut (ε : Type) where
  frames : List Bytes
  rest : Bytes
  error : Option ε
deriving DecidableEq, Repr

namespace Cut

variable {ε : Type}

/-- Put frames in front. -/
def prepend (fs : List Bytes) (c : Cut ε) : Cut ε := { c with frames := fs ++ c.frames }

@[simp] lemma prepend_frames (fs : List Bytes) (c : Cut ε) :
    (c.prepend fs).frames = fs ++ c.frames := rfl

@[simp] lemma prepend_rest (fs : List Bytes) (c : Cut ε) : (c.prepend fs).rest = c.rest := rfl

@[simp] lemma prepend_error (fs : List Bytes) (c : Cut ε) : (c.prepend fs).error = c.error := rfl

@[simp] lemma prepend_nil (c : Cut ε) : c.prepend [] = c := rfl

lemma prepend_prepend (fs gs : List Bytes) (c : Cut ε) :
    (c.prepend gs).prepend fs = c.prepend (fs ++ gs) := by
  simp [prepend, List.append_assoc]

end Cut

namespace Framing

variable {ε : Type} (F : Framing ε)

/-- Cut a buffer into frames, front to back. -/
def cut (b : Bytes) : Cut ε :=
  match h : F.scan b with
  | .more => ⟨[], b, none⟩
  | .bad e => ⟨[], b, some e⟩
  | .frame n =>
    have := F.frame_pos h
    have := F.frame_le h
    (cut (b.drop n)).prepend [b.take n]
termination_by b.length
decreasing_by
  rw [List.length_drop]
  omega

/-- A byte string that is one whole frame. -/
def IsFrame (m : Bytes) : Prop := F.scan m = .frame m.length

instance [DecidableEq ε] (m : Bytes) : Decidable (F.IsFrame m) :=
  inferInstanceAs (Decidable (F.scan m = .frame m.length))

/-! ## The cutting equations -/

lemma cut_of_more {b : Bytes} (h : F.scan b = .more) : F.cut b = ⟨[], b, none⟩ := by
  rw [cut]
  split <;> simp_all

lemma cut_of_bad {b : Bytes} {e : ε} (h : F.scan b = .bad e) : F.cut b = ⟨[], b, some e⟩ := by
  rw [cut]
  split <;> simp_all

lemma cut_of_frame {b : Bytes} {n : ℕ} (h : F.scan b = .frame n) :
    F.cut b = (F.cut (b.drop n)).prepend [b.take n] := by
  rw [cut]
  split <;> simp_all

/-- Induction along the cutting of a buffer: a stuck buffer, or a frame and the rest. -/
theorem cut_induction {P : Bytes → Prop} (more : ∀ b, F.scan b = .more → P b)
    (bad : ∀ b e, F.scan b = .bad e → P b)
    (frame : ∀ b n, F.scan b = .frame n → n ≤ b.length → P (b.drop n) → P b) (b : Bytes) : P b :=
  match h : F.scan b with
  | .more => more b h
  | .bad e => bad b e h
  | .frame n => frame b n h (F.frame_le h) (cut_induction more bad frame (b.drop n))
termination_by b.length
decreasing_by
  have hpos := F.frame_pos h
  have hle := F.frame_le h
  rw [List.length_drop]
  omega

/-- Cutting loses no byte. -/
lemma cut_flatten (b : Bytes) : (F.cut b).frames.flatten ++ (F.cut b).rest = b := by
  induction b using F.cut_induction with
  | more b h => simp [F.cut_of_more h]
  | bad b e h => simp [F.cut_of_bad h]
  | frame b n h hle ih =>
    simp only [F.cut_of_frame h, Cut.prepend_frames, Cut.prepend_rest, List.singleton_append,
      List.flatten_cons, List.append_assoc, ih, List.take_append_drop]

/-- Every frame cut off is a whole frame. -/
lemma isFrame_of_mem_cut {b m : Bytes} (hm : m ∈ (F.cut b).frames) : F.IsFrame m := by
  induction b using F.cut_induction with
  | more b h => simp [F.cut_of_more h] at hm
  | bad b e h => simp [F.cut_of_bad h] at hm
  | frame b n h hle ih =>
    rw [F.cut_of_frame h, Cut.prepend_frames, List.singleton_append, List.mem_cons] at hm
    rcases hm with hm | hm
    · have htake : (b.take n).length = n := by rw [List.length_take]; omega
      rw [hm, IsFrame, htake]
      exact F.frame_take h
    · exact ih hm

/-- The bytes after the last frame ask for more, unless an error stopped the cutting. -/
lemma scan_rest {b : Bytes} (h : (F.cut b).error = none) : F.scan (F.cut b).rest = .more := by
  induction b using F.cut_induction with
  | more b hs => simp [F.cut_of_more hs, hs]
  | bad b e hs => simp [F.cut_of_bad hs] at h
  | frame b n hs hle ih =>
    rw [F.cut_of_frame hs] at h ⊢
    exact ih h

/-- The error that stopped the cutting is about the bytes after the last frame. -/
lemma scan_rest_of_error {b : Bytes} {e : ε} (h : (F.cut b).error = some e) :
    F.scan (F.cut b).rest = .bad e := by
  induction b using F.cut_induction with
  | more b hs => simp [F.cut_of_more hs] at h
  | bad b e' hs =>
    simp only [F.cut_of_bad hs, Option.some.injEq] at h ⊢
    rw [hs, h]
  | frame b n hs hle ih =>
    rw [F.cut_of_frame hs] at h ⊢
    exact ih h

/-! ## Chunking -/

/-- **The chunking law.** Cutting a longer buffer is cutting its front, then cutting what
the front left over together with the new bytes. -/
theorem cut_append {b : Bytes} (h : (F.cut b).error = none) (c : Bytes) :
    F.cut (b ++ c) = (F.cut ((F.cut b).rest ++ c)).prepend (F.cut b).frames := by
  induction b using F.cut_induction with
  | more b hs => simp [F.cut_of_more hs]
  | bad b e hs => simp [F.cut_of_bad hs] at h
  | frame b n hs hle ih =>
    rw [F.cut_of_frame hs] at h ⊢
    rw [F.cut_of_frame (F.frame_append c hs), List.drop_append_of_le_length hle,
      List.take_append_of_le_length hle, ih h, Cut.prepend_prepend]
    rfl

/-- An error already met is met again, after the same frames, whatever follows. -/
theorem cut_append_of_error {b : Bytes} {e : ε} (h : (F.cut b).error = some e) (c : Bytes) :
    F.cut (b ++ c) = ⟨(F.cut b).frames, (F.cut b).rest ++ c, some e⟩ := by
  induction b using F.cut_induction with
  | more b hs => simp [F.cut_of_more hs] at h
  | bad b e' hs =>
    simp only [F.cut_of_bad hs, Option.some.injEq] at h ⊢
    rw [F.cut_of_bad (F.bad_append c hs), h]
  | frame b n hs hle ih =>
    rw [F.cut_of_frame hs] at h ⊢
    rw [F.cut_of_frame (F.frame_append c hs), List.drop_append_of_le_length hle,
      List.take_append_of_le_length hle, ih h]
    rfl

/-- A front of an error-free buffer is error-free. -/
lemma error_of_append {b c : Bytes} (h : (F.cut (b ++ c)).error = none) :
    (F.cut b).error = none := by
  cases hb : (F.cut b).error with
  | none => rfl
  | some e => rw [F.cut_append_of_error hb c] at h; simp at h

/-- The frames of a front are the first frames of the whole. -/
lemma frames_prefix_append (b c : Bytes) : (F.cut b).frames <+: (F.cut (b ++ c)).frames := by
  cases hb : (F.cut b).error with
  | none => rw [F.cut_append hb c]; exact List.prefix_append _ _
  | some e => simp [F.cut_append_of_error hb c]

/-! ## Whole frames -/

/-- A whole frame in front of a buffer is cut off first. -/
lemma cut_cons_frame {m : Bytes} (hm : F.IsFrame m) (b : Bytes) :
    F.cut (m ++ b) = (F.cut b).prepend [m] := by
  rw [F.cut_of_frame (F.frame_append b hm), List.drop_left, List.take_left]

/-- A concatenation of whole frames is cut back into them. -/
lemma cut_flatten_frames {fs : List Bytes} (hfs : ∀ m ∈ fs, F.IsFrame m) (b : Bytes) :
    F.cut (fs.flatten ++ b) = (F.cut b).prepend fs := by
  induction fs with
  | nil => rfl
  | cons m ms ih =>
    have hm : F.IsFrame m := hfs m List.mem_cons_self
    have hms : ∀ m ∈ ms, F.IsFrame m := fun m' h => hfs m' (List.mem_cons_of_mem _ h)
    rw [List.flatten_cons, List.append_assoc, F.cut_cons_frame hm, ih hms, Cut.prepend_prepend]
    rfl

/-- The front of a malformed stream is cut into the frames before the malformed bytes, and into a
front of the malformed bytes, once it is long enough to hold those frames. -/
lemma cut_front_of_error {b c : Bytes} {e : ε} (h : (F.cut (b ++ c)).error = some e)
    (hlong : (F.cut (b ++ c)).frames.flatten.length ≤ b.length) :
    ∃ q, (F.cut (b ++ c)).rest = q ++ c ∧ b = (F.cut (b ++ c)).frames.flatten ++ q ∧
      F.cut b = ⟨(F.cut (b ++ c)).frames, q, (F.cut q).error⟩ := by
  have hbytes := F.cut_flatten (b ++ c)
  have hbad := F.scan_rest_of_error h
  obtain ⟨q, hb, hrest⟩ : ∃ q, b = (F.cut (b ++ c)).frames.flatten ++ q ∧
      (F.cut (b ++ c)).rest = q ++ c := by
    rcases List.append_eq_append_iff.mp hbytes with ⟨q, hb, hrest⟩ | ⟨q, hb, hrest⟩
    · exact ⟨q, hb, hrest⟩
    · have hq : q = [] := by
        have hlen := congrArg List.length hb
        rw [List.length_append] at hlen
        exact List.length_eq_zero_iff.mp (by omega)
      rw [hq, List.append_nil] at hb
      rw [hq, List.nil_append] at hrest
      exact ⟨[], by rw [List.append_nil]; exact hb.symm, hrest.symm⟩
  have hq : (F.cut q).frames = [] ∧ (F.cut q).rest = q := by
    cases hscan : F.scan q with
    | more => simp [F.cut_of_more hscan]
    | bad e' => simp [F.cut_of_bad hscan]
    | frame n =>
      rw [hrest, F.frame_append c hscan] at hbad
      simp at hbad
  refine ⟨q, hrest, hb, ?_⟩
  have hcut : F.cut b = (F.cut q).prepend (F.cut (b ++ c)).frames := by
    have hwhole : ∀ m ∈ (F.cut (b ++ c)).frames, F.IsFrame m := fun m hm =>
      F.isFrame_of_mem_cut hm
    have hframes := F.cut_flatten_frames hwhole q
    rwa [← hb] at hframes
  rw [hcut]
  simp only [Cut.prepend, hq.1, hq.2, List.append_nil]

/-- The front of a malformed stream has all its frames exactly when it is long enough. -/
lemma frames_front_iff {b c : Bytes} {e : ε} (h : (F.cut (b ++ c)).error = some e) :
    (F.cut b).frames = (F.cut (b ++ c)).frames ↔
      (F.cut (b ++ c)).frames.flatten.length ≤ b.length := by
  constructor
  · intro heq
    have hbytes := congrArg List.length (F.cut_flatten b)
    rw [List.length_append, heq] at hbytes
    omega
  · intro hlong
    obtain ⟨q, -, -, hcut⟩ := F.cut_front_of_error h hlong
    rw [hcut]

/-- A whole frame is not empty. -/
lemma IsFrame.ne_nil {F : Framing ε} {m : Bytes} (hm : F.IsFrame m) : m ≠ [] := by
  intro h
  have hpos := F.frame_pos hm
  rw [h] at hpos
  exact absurd hpos (by simp)

end Framing

end Lib
