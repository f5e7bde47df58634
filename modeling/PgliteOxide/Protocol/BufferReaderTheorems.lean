import PgliteOxide.Lib.Format
import PgliteOxide.Protocol.BufferReader

/-!
# What `BufferReader` reads

`Reads d H F` compares a decoder with a wire format: on an encoding in `F` it returns the value
and moves behind it, whatever follows; on input `H` calls hazardous it panics; on all other
input it returns an error. `Reads.bind` and `Reads.times` carry this through a decoder, so each
message kind needs only its own format.
-/

namespace PgliteOxide.Protocol

open Lib

namespace BufferReader

/-- The bytes still to be read. -/
def rest (r : BufferReader) : Bytes := r.buffer.drop r.offset

/-- The cursor `n` bytes further. -/
def advance (r : BufferReader) (n : ℕ) : BufferReader := { r with offset := r.offset + n }

/-- The cursor is inside a body, whose length a 32-bit field counts. -/
structure Valid (r : BufferReader) : Prop where
  offset_le : r.offset ≤ r.buffer.length
  length_lt : r.buffer.length < 2 ^ 32

variable {r : BufferReader} {x tail : Bytes}

lemma length_rest (r : BufferReader) : r.rest.length = r.buffer.length - r.offset := by
  rw [rest, List.length_drop]

@[simp] lemma advance_offset (r : BufferReader) (n : ℕ) :
    (r.advance n).offset = r.offset + n := rfl

@[simp] lemma advance_advance (r : BufferReader) (m n : ℕ) :
    (r.advance m).advance n = r.advance (m + n) := by
  simp only [advance, Nat.add_assoc]

lemma rest_advance (h : r.rest = x ++ tail) : (r.advance x.length).rest = tail := by
  have hdrop : (r.advance x.length).rest = r.rest.drop x.length := by
    simp only [advance, rest, List.drop_drop]
  rw [hdrop, h, List.drop_left]

lemma Valid.advance (hr : r.Valid) (h : r.rest = x ++ tail) : (r.advance x.length).Valid := by
  have hlen := congrArg List.length h
  rw [length_rest, List.length_append] at hlen
  have hle := hr.offset_le
  exact ⟨by simp only [BufferReader.advance]; omega, hr.length_lt⟩

/-- Slicing at the cursor. -/
lemma slice_rest {ε : Type} (hr : r.Valid) (h : r.rest = x ++ tail) :
    (slice r.buffer r.offset (r.offset + x.length) : Outcome ε Bytes) = .ok x := by
  have hlen := congrArg List.length h
  rw [length_rest, List.length_append] at hlen
  have hle := hr.offset_le
  rw [slice_of_le _ (by omega) (by omega), List.drop_take, ← rest, h, Nat.add_sub_cancel_left,
    List.take_left]

end BufferReader

open BufferReader

/-! ## Reading a format -/

lemma Decode.lift_pure {α : Type} (a : α) : Decode.lift (pure a) = pure a := rfl

lemma Decode.lift_bind {α β : Type} (x : Outcome Error α) (f : α → Outcome Error β) :
    Decode.lift (x >>= f) = Decode.lift x >>= fun a => Decode.lift (f a) := by
  funext build r
  cases x <;> rfl

/-- `d` reads `F` at `r`, breaking only on `H`. -/
structure ReadsAt {α : Type} (d : Decode α) (H : Hazard) (F : Format α) (build : Build)
    (r : BufferReader) : Prop where
  accept : ∀ a x tail, F a x → r.rest = x ++ tail → d build r = .ok (a, r.advance x.length)
  reject : ¬ H r.offset r.rest → ¬ F.Starts r.rest → ∃ e, d build r = .err e
  panic : H r.offset r.rest → d build r = .panic

/-- `d` reads `F` from every valid cursor, in every build. -/
def Reads {α : Type} (d : Decode α) (H : Hazard) (F : Format α) : Prop :=
  ∀ build r, r.Valid → ReadsAt d H F build r

section

variable {α β : Type} {d : Decode α} {f : α → Decode β} {H : Hazard} {K : α → Hazard}
  {F : Format α} {G : α → Format β} {build : Build} {r : BufferReader}

/-- Hazards can be named differently, formats too. -/
lemma ReadsAt.congr {H' : Hazard} {F' : Format α} (h : ReadsAt d H F build r)
    (hH : ∀ offset b, H' offset b ↔ H offset b) (hF : ∀ a x, F' a x ↔ F a x) :
    ReadsAt d H' F' build r where
  accept a x tail hx := h.accept a x tail ((hF a x).mp hx)
  reject hh hs := by
    refine h.reject (fun hc => hh ((hH _ _).mpr hc)) ?_
    rintro ⟨a, x, tail, hx, hb⟩
    exact hs ⟨a, x, tail, (hF a x).mpr hx, hb⟩
  panic hh := h.panic ((hH _ _).mp hh)

lemma Reads.congr {H' : Hazard} {F' : Format α} (h : Reads d H F)
    (hH : ∀ offset b, H' offset b ↔ H offset b) (hF : ∀ a x, F' a x ↔ F a x) :
    Reads d H' F' := fun build r hr => (h build r hr).congr hH hF

lemma reads_pure (a : α) : Reads (pure a) .never (pure a) := by
  intro build r _
  refine ⟨?_, ?_, fun h => absurd h id⟩
  · rintro b x tail ⟨rfl, rfl⟩ _
    rfl
  · intro _ hs
    exact absurd ⟨a, [], r.rest, ⟨rfl, rfl⟩, rfl⟩ hs

/-- A decoder that gives up reads the format without encodings. -/
lemma reads_fail (e : Error) : Reads (Decode.fail e : Decode α) .never .none := by
  intro build r _
  exact ⟨fun _ _ _ h => absurd h id, fun _ _ => ⟨e, rfl⟩, fun h => absurd h id⟩

/-- **Reading in sequence.** -/
lemma ReadsAt.bind (hr : r.Valid) (hd : ReadsAt d H F build r)
    (hf : ∀ a x tail, F a x → r.rest = x ++ tail → (r.advance x.length).Valid →
      ReadsAt (f a) (K a) (G a) build (r.advance x.length)) :
    ReadsAt (d >>= f) (Hazard.bind F H K) (F >>= G) build r where
  accept := by
    rintro b z tail ⟨a, x, y, hx, hy, rfl⟩ hrest
    rw [List.append_assoc] at hrest
    have hnext := hf a x (y ++ tail) hx hrest (hr.advance hrest)
    rw [Decode.bind_apply, hd.accept a x _ hx hrest, Outcome.ok_bind,
      hnext.accept b y tail hy (rest_advance hrest), advance_advance, List.length_append]
  reject := by
    intro hh hs
    by_cases hstart : F.Starts r.rest
    · obtain ⟨a, x, tail, hx, hrest⟩ := hstart
      have hnext := hf a x tail hx hrest (hr.advance hrest)
      rw [Decode.bind_apply, hd.accept a x _ hx hrest, Outcome.ok_bind]
      refine hnext.reject ?_ ?_
      · rw [advance_offset, rest_advance hrest]
        intro hk
        exact hh (.inr ⟨a, x, tail, hx, hrest, hk⟩)
      · rw [rest_advance hrest]
        rintro ⟨b, y, tail', hy, rfl⟩
        exact hs ⟨b, x ++ y, tail', Format.bind_intro hx hy, by rw [hrest, List.append_assoc]⟩
    · obtain ⟨e, he⟩ := hd.reject (fun hc => hh (.inl hc)) hstart
      exact ⟨e, by rw [Decode.bind_apply, he, Outcome.err_bind]⟩
  panic := by
    rintro (hh | ⟨a, x, tail, hx, hrest, hk⟩)
    · rw [Decode.bind_apply, hd.panic hh, Outcome.panic_bind]
    · have hnext := hf a x tail hx hrest (hr.advance hrest)
      rw [Decode.bind_apply, hd.accept a x _ hx hrest, Outcome.ok_bind]
      refine hnext.panic ?_
      rwa [advance_offset, rest_advance hrest]

lemma Reads.bind (hd : Reads d H F) (hf : ∀ a, Reads (f a) (K a) (G a)) :
    Reads (d >>= f) (Hazard.bind F H K) (F >>= G) := fun build r hr =>
  (hd build r hr).bind hr fun a _ _ _ _ hr' => hf a build _ hr'

/-- A sequence of decoders that never panic never panics. -/
lemma Reads.bindSafe (hd : Reads d .never F) (hf : ∀ a, Reads (f a) .never (G a)) :
    Reads (d >>= f) .never (F >>= G) :=
  (hd.bind hf).congr (fun _ _ => iff_of_false id (Hazard.bind_never_never F _ _))
    fun _ _ => Iff.rfl

/-- **Reading a counted run.** -/
lemma Reads.times (hd : Reads d H F) (n : ℕ) :
    Reads (Decode.times d n) (H.times F n) (F.times n) := by
  induction n with
  | zero => exact reads_pure []
  | succ n ih =>
    refine Reads.congr (hd.bind fun a => ih.bind fun as => reads_pure (a :: as)) ?_ fun _ _ => Iff.rfl
    intro offset b
    simp only [Hazard.times, Hazard.bind, Hazard.never, and_false, exists_false, or_false]

end

/-! ## Primitive formats -/

/-- `n` raw bytes. -/
def bytesFormat (n : ℕ) : Format Bytes := fun b x => x = b ∧ b.length = n

/-- One raw byte. -/
def byteFormat : Format UInt8 := fun b x => x = [b]

/-- A signed 16-bit integer in network order. -/
def int16Format : Format Int16 := fun v x => x = i16ToBe v

/-- A signed 32-bit integer in network order. -/
def int32Format : Format Int32 := fun v x => x = i32ToBe v

/-- `n` bytes of text. -/
def stringFormat (n : ℕ) : Format String := fun s x => x = utf8 s ∧ (utf8 s).length = n

/-- Text up to a NUL. -/
def cstringFormat : Format String := fun s x => x = utf8 s ++ [0] ∧ 0 ∉ utf8 s

/-! ## Primitive readers -/

namespace BufferReader

/-- `take_slice` on a body that holds the bytes asked for. -/
lemma takeSlice_ok (build : Build) {r : BufferReader} {x tail : Bytes} (hr : r.Valid)
    (h : r.rest = x ++ tail) : takeSlice x.length build r = .ok (x, r.advance x.length) := by
  have hlen := congrArg List.length h
  rw [length_rest, List.length_append] at hlen
  have hle := hr.offset_le
  have hlt := hr.length_lt
  rw [takeSlice, usizeAdd_of_lt build (by rw [usizeBound]; omega), Outcome.ok_bind,
    if_pos (by omega), Outcome.ok_bind, slice_rest hr h, Outcome.ok_bind, Outcome.ok_bind]
  rfl

/-- `take_slice` past the end of the body, as long as the sum does not overflow. -/
lemma takeSlice_err (build : Build) {r : BufferReader} {n : ℕ} (hr : r.Valid)
    (h : r.rest.length < n) (hn : r.offset + n < usizeBound) :
    ∃ e, takeSlice n build r = .err e := by
  rw [length_rest] at h
  have hle := hr.offset_le
  rw [takeSlice, usizeAdd_of_lt build hn, Outcome.ok_bind, if_neg (by omega)]
  exact ⟨_, rfl⟩

/-- `take_slice` with a length that overflows past the cursor: the addition panics, or wraps
to a slice that ends before it starts. -/
lemma takeSlice_panic (build : Build) {r : BufferReader} {n : ℕ} (hr : r.Valid)
    (hn : usizeBound ≤ r.offset + n) (hlt : n < usizeBound) :
    takeSlice n build r = .panic := by
  have hle := hr.offset_le
  have hoff : r.offset < usizeBound := by
    have hlen := hr.length_lt
    rw [usizeBound]
    omega
  have hmod : (r.offset + n) % usizeBound = r.offset + n - usizeBound := by
    rw [Nat.mod_eq_sub_mod hn, Nat.mod_eq_of_lt (by omega)]
  have hadd : (usizeAdd build r.offset n : Outcome Error ℕ) = _ := usizeAdd_of_ge build hn
  rw [hmod] at hadd
  generalize usizeBound = bound at hadd hn hlt hoff
  cases hchecks : build.overflowChecks with
  | true =>
    rw [hchecks, if_pos rfl] at hadd
    rw [takeSlice, hadd, Outcome.panic_bind]
  | false =>
    rw [hchecks, if_neg Bool.false_ne_true] at hadd
    rw [takeSlice, hadd, Outcome.ok_bind, if_pos (by omega), Outcome.ok_bind,
      slice_of_gt _ (by omega), Outcome.panic_bind]

end BufferReader

/-- A slice of moderate length is read, or there are too few bytes. -/
lemma reads_takeSlice {n : ℕ} (hn : n < 2 ^ 32) : Reads (takeSlice n) .never (bytesFormat n) := by
  intro build r hr
  refine ⟨?_, ?_, fun h => absurd h id⟩
  · rintro b x tail ⟨rfl, rfl⟩ hrest
    exact takeSlice_ok build hr hrest
  · intro _ hs
    have hle := hr.offset_le
    have hlt := hr.length_lt
    refine takeSlice_err build hr ?_ (by rw [usizeBound]; omega)
    by_contra hge
    exact hs ⟨r.rest.take n, r.rest.take n, r.rest.drop n, ⟨rfl, by rw [List.length_take]; omega⟩,
      (List.take_append_drop n _).symm⟩

/-- A reader that takes `n` bytes and computes a value from them reads the format whose
encodings are `n` bytes long and give that value. -/
lemma reads_of_takeSlice {α : Type} {n : ℕ} (hn : n < 2 ^ 32) {g : Bytes → Outcome Error α}
    {F : Format α} (hF : ∀ a x, F a x → x.length = n ∧ g x = .ok a)
    (hreject : ∀ x, x.length = n → (∀ a, ¬ F a x) → ∃ e, g x = .err e) :
    Reads (takeSlice n >>= fun x => Decode.lift (g x)) .never F := by
  intro build r hr
  have hslice := reads_takeSlice hn build r hr
  refine ⟨?_, ?_, fun h => absurd h id⟩
  · intro a x tail hx hrest
    obtain ⟨hlen, hg⟩ := hF a x hx
    rw [Decode.bind_apply, hslice.accept x x tail ⟨rfl, hlen⟩ hrest, Outcome.ok_bind,
      Decode.lift_apply, hg, Outcome.ok_bind]
  · intro hh hs
    by_cases hstart : (bytesFormat n).Starts r.rest
    · obtain ⟨_, x, tail, ⟨rfl, hlen⟩, hrest⟩ := hstart
      obtain ⟨e, he⟩ := hreject x hlen fun a ha => hs ⟨a, x, tail, ha, hrest⟩
      refine ⟨e, ?_⟩
      rw [Decode.bind_apply, hslice.accept x x tail ⟨rfl, hlen⟩ hrest, Outcome.ok_bind,
        Decode.lift_apply, he, Outcome.err_bind]
    · obtain ⟨e, he⟩ := hslice.reject hh hstart
      exact ⟨e, by rw [Decode.bind_apply, he, Outcome.err_bind]⟩

lemma reads_byte : Reads byte .never byteFormat := by
  refine reads_of_takeSlice (by omega) ?_ ?_
  · rintro b x rfl
    exact ⟨rfl, rfl⟩
  · intro x hlen hx
    obtain ⟨b, rfl⟩ := List.length_eq_one_iff.mp hlen
    exact absurd rfl (hx b)

lemma reads_int16 : Reads int16 .never int16Format := by
  have hread : int16 = takeSlice 2 >>= fun x => Decode.lift (do
      let b0 ← index x 0
      let b1 ← index x 1
      pure (i16FromBe b0 b1)) := by
    simp only [int16, Decode.lift_bind, Decode.lift_pure]
  rw [hread]
  refine reads_of_takeSlice (by omega) ?_ ?_
  · rintro v x rfl
    exact ⟨rfl, congrArg Outcome.ok (i16FromBe_toBe v)⟩
  · intro x hlen hx
    obtain ⟨b0, b1, rfl⟩ : ∃ b0 b1, x = [b0, b1] := by
      match x, hlen with
      | [b0, b1], _ => exact ⟨b0, b1, rfl⟩
    exact absurd (i16ToBe_fromBe b0 b1).symm (hx _)

lemma reads_int32 : Reads int32 .never int32Format := by
  have hread : int32 = takeSlice 4 >>= fun x => Decode.lift (do
      let b0 ← index x 0
      let b1 ← index x 1
      let b2 ← index x 2
      let b3 ← index x 3
      pure (i32FromBe b0 b1 b2 b3)) := by
    simp only [int32, Decode.lift_bind, Decode.lift_pure]
  rw [hread]
  refine reads_of_takeSlice (by omega) ?_ ?_
  · rintro v x rfl
    exact ⟨rfl, congrArg Outcome.ok (i32FromBe_toBe v)⟩
  · intro x hlen hx
    obtain ⟨b0, b1, b2, b3, rfl⟩ : ∃ b0 b1 b2 b3, x = [b0, b1, b2, b3] := by
      match x, hlen with
      | [b0, b1, b2, b3], _ => exact ⟨b0, b1, b2, b3, rfl⟩
    exact absurd (i32ToBe_fromBe b0 b1 b2 b3).symm (hx _)

lemma toText_utf8 (s : String) : toText (utf8 s) = .ok s := by
  rw [toText, fromUtf8_utf8]

/-- Bytes that are no text are reported. -/
lemma toText_err {x : Bytes} (h : ∀ s, utf8 s ≠ x) : toText x = .err .utf8 := by
  rw [toText]
  cases hx : fromUtf8 x with
  | none => rfl
  | some s => exact absurd (utf8_of_fromUtf8 hx) (h s)

lemma reads_string {n : ℕ} (hn : n < 2 ^ 32) : Reads (string n) .never (stringFormat n) := by
  refine reads_of_takeSlice hn ?_ ?_
  · rintro s x ⟨rfl, hlen⟩
    exact ⟨hlen, toText_utf8 s⟩
  · intro x hlen hx
    refine ⟨.utf8, toText_err fun s hs => ?_⟩
    exact hx s ⟨hs.symm, by rw [hs, hlen]⟩

/-- Where the first NUL of a body is. -/
lemma findIdx?_nul {x tail : Bytes} (hx : 0 ∉ x) :
    (x ++ 0 :: tail).findIdx? (· == 0) = some x.length := by
  induction x with
  | nil => rfl
  | cons b x ih =>
    rw [List.mem_cons, not_or] at hx
    have hb : (b == 0) = false := by
      rw [beq_eq_false_iff_ne]
      exact fun h => hx.1 h.symm
    rw [List.cons_append, List.findIdx?_cons, hb, if_neg Bool.false_ne_true, ih hx.2]
    rfl

/-- A body without NUL, or its first NUL. -/
lemma nul_cases (b : Bytes) : 0 ∉ b ∨ ∃ x tail, b = x ++ 0 :: tail ∧ 0 ∉ x := by
  induction b with
  | nil => exact .inl List.not_mem_nil
  | cons c b ih =>
    by_cases hc : c = 0
    · exact .inr ⟨[], b, by rw [hc]; rfl, List.not_mem_nil⟩
    · rcases ih with h | ⟨x, tail, rfl, hx⟩
      · exact .inl (List.not_mem_cons_of_ne_of_not_mem (Ne.symm hc) h)
      · exact .inr ⟨c :: x, tail, rfl, List.not_mem_cons_of_ne_of_not_mem (Ne.symm hc) hx⟩

/-- The byte loop of `cstring` on a body whose first NUL is known. -/
lemma cstring_nul (build : Build) {r : BufferReader} {x tail : Bytes} (hr : r.Valid)
    (h : r.rest = x ++ 0 :: tail) (hx : 0 ∉ x) :
    cstring build r = (toText x >>= fun text => .ok (text, r.advance (x.length + 1))) := by
  have hfind : (r.buffer.drop r.offset).findIdx? (· == 0) = some x.length := by
    rw [← rest, h, findIdx?_nul hx]
  simp only [cstring, hfind, slice_rest hr h, Outcome.ok_bind, Outcome.pure_eq]
  rfl

lemma reads_cstring : Reads cstring .never cstringFormat := by
  intro build r hr
  refine ⟨?_, ?_, fun h => absurd h id⟩
  · rintro s x tail ⟨rfl, hx⟩ hrest
    rw [List.append_assoc] at hrest
    rw [cstring_nul build hr hrest hx, toText_utf8, Outcome.ok_bind, List.length_append,
      List.length_singleton]
  · intro _ hs
    rcases nul_cases r.rest with hno | ⟨x, tail, hrest, hx⟩
    · have hfind : (r.buffer.drop r.offset).findIdx? (· == 0) = none := by
        rw [List.findIdx?_eq_none_iff]
        intro b hb
        rw [beq_eq_false_iff_ne]
        rintro rfl
        exact hno hb
      exact ⟨.msg "unterminated cstring", by simp only [cstring, hfind]⟩
    · refine ⟨.utf8, ?_⟩
      rw [cstring_nul build hr hrest hx, toText_err, Outcome.err_bind]
      intro s hsx
      refine hs ⟨s, x ++ [0], tail, ⟨by rw [hsx], by rwa [hsx]⟩, ?_⟩
      rw [hrest, List.append_assoc]
      rfl

end PgliteOxide.Protocol
