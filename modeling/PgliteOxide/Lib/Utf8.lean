import Mathlib.Tactic.Common
import PgliteOxide.Lib.BigEndian

/-!
# UTF-8 text in byte strings

`str::from_utf8` and `str::as_bytes` over byte lists, through Lean's own validity of UTF-8.
-/

namespace Lib

/-- `str::as_bytes`. -/
def utf8 (s : String) : Bytes := s.toByteArray.data.toList

/-- `std::str::from_utf8`, with the error forgotten. -/
def fromUtf8 (b : Bytes) : Option String := String.fromUTF8? ⟨b.toArray⟩

/-- `str::eq_ignore_ascii_case`. -/
def eqIgnoreAsciiCase (a b : String) : Bool :=
  a.toList.map Char.toUpper = b.toList.map Char.toUpper

@[simp] lemma fromUtf8_utf8 (s : String) : fromUtf8 (utf8 s) = some s := by
  simp only [fromUtf8, utf8, Array.toArray_toList]
  rw [String.fromUTF8?, dif_pos s.isValidUTF8]
  rfl

/-- Text is determined by its bytes. -/
lemma utf8_of_fromUtf8 {b : Bytes} {s : String} (h : fromUtf8 b = some s) : utf8 s = b := by
  rw [fromUtf8, String.fromUTF8?] at h
  split at h
  · rw [Option.some.injEq] at h
    rw [← h, utf8]
    rfl
  · simp at h

lemma utf8_injective : Function.Injective utf8 := by
  intro s t h
  have hs := fromUtf8_utf8 s
  rw [h, fromUtf8_utf8] at hs
  exact (Option.some.inj hs).symm

/-- An ASCII character is one byte. -/
lemma utf8_singleton {c : Char} (h : c.toNat < 128) :
    utf8 (String.singleton c) = [UInt8.ofNat c.toNat] := by
  have hsize : c.utf8Size = 1 := by
    rw [Char.utf8Size_eq_one_iff, UInt32.le_iff_toNat_le]
    change c.toNat ≤ 127
    omega
  rw [utf8, String.toByteArray_singleton, List.utf8Encode_singleton,
    String.utf8EncodeChar_eq_singleton hsize]
  simp only [List.data_toByteArray, List.toList_toArray, List.cons.injEq, and_true]
  rfl

lemma utf8_append (s t : String) : utf8 (s ++ t) = utf8 s ++ utf8 t := by
  rw [utf8, String.toByteArray_append, utf8, utf8]
  simp

/-- The first byte of a text starts a character. -/
lemma isUTF8FirstByte_of_utf8 {s : String} {b : UInt8} {rest : Bytes} (h : utf8 s = b :: rest) :
    b.IsUTF8FirstByte := by
  have hsize : 0 < s.toByteArray.size := by
    have hlen : s.toByteArray.size = (utf8 s).length := by simp [utf8]
    rw [hlen, h]
    simp
  have hfirst := s.isValidUTF8.isUTF8FirstByte_getElem_zero hsize
  have hb : s.toByteArray[0] = b := by
    have hget : (utf8 s)[0]? = some b := by rw [h]; rfl
    simp [utf8] at hget
    obtain ⟨_, hget⟩ := Array.getElem?_eq_some_iff.mp hget
    exact hget
  rwa [hb] at hfirst

/-- What follows the first character of a text is a text. -/
lemma utf8_tail {s : String} {c : Char} {rest : Bytes}
    (h : utf8 s = utf8 (String.singleton c) ++ rest) : ∃ t, utf8 t = rest := by
  have hvalid : ([c].utf8Encode ++ (⟨rest.toArray⟩ : ByteArray)).IsValidUTF8 := by
    have hs := s.isValidUTF8
    have hbytes : s.toByteArray = [c].utf8Encode ++ (⟨rest.toArray⟩ : ByteArray) := by
      apply ByteArray.ext
      apply Array.toList_inj.mp
      rw [← String.toByteArray_singleton]
      simpa [utf8] using h
    rwa [hbytes] at hs
  have hrest := ByteArray.isValidUTF8_utf8Encode_singleton_append_iff.mp hvalid
  exact ⟨⟨_, hrest⟩, by simp [utf8]⟩

/-! ## Characters -/

/-- A text is its characters, one after another. -/
lemma utf8_ofList (cs : List Char) :
    utf8 (String.ofList cs) = cs.flatMap String.utf8EncodeChar := by
  simp [utf8, List.utf8Encode]

/-- The bytes of a character that is not ASCII are none of ASCII. -/
lemma le_of_mem_utf8EncodeChar {c : Char} (hc : 128 ≤ c.toNat) {b : UInt8}
    (hb : b ∈ String.utf8EncodeChar c) : 128 ≤ b.toNat := by
  have hsmall : ∀ n, 128 ≤ n → n < 256 → 128 ≤ (UInt8.ofNat n).toNat := by
    intro n hn hlt
    rwa [UInt8.toNat_ofNat_of_lt' hlt]
  have hv : 128 ≤ c.val.toNat := hc
  unfold String.utf8EncodeChar at hb
  dsimp only at hb
  split_ifs at hb
  · omega
  all_goals
    simp only [List.mem_cons, List.not_mem_nil, or_false] at hb
  · rcases hb with hb | hb <;> rw [hb] <;> exact hsmall _ (by omega) (by omega)
  · rcases hb with hb | hb | hb <;> rw [hb] <;> exact hsmall _ (by omega) (by omega)
  · rcases hb with hb | hb | hb | hb <;> rw [hb] <;> exact hsmall _ (by omega) (by omega)

lemma utf8EncodeChar_ascii {c : Char} (hc : c.toNat < 128) :
    String.utf8EncodeChar c = [UInt8.ofNat c.toNat] := by
  have h := utf8_singleton hc
  rwa [String.singleton_eq_ofList, utf8_ofList, List.flatMap_singleton] at h

/-- A code point is one of a character. -/
lemma exists_char {v : ℕ} (hv : v.isValidChar) : ∃ c : Char, c.val.toNat = v := by
  have hlt : v < 2 ^ 32 := by
    rcases hv with h | h <;> omega
  have hval : (UInt32.ofNat v).toNat = v := UInt32.toNat_ofNat_of_lt' hlt
  exact ⟨⟨UInt32.ofNat v, by unfold UInt32.isValidChar; rwa [hval]⟩, hval⟩

lemma utf8EncodeChar_one {a : UInt8} (ha : a.toNat < 128) :
    ∃ c : Char, String.utf8EncodeChar c = [a] := by
  obtain ⟨c, hc⟩ := exists_char (v := a.toNat) (Or.inl (by omega))
  refine ⟨c, ?_⟩
  unfold String.utf8EncodeChar
  dsimp only
  rw [hc, if_pos (by omega), UInt8.ofNat_toNat]

lemma ofNat_eq_byte {n : ℕ} {a : UInt8} (h : n = a.toNat) : UInt8.ofNat n = a := by
  rw [h, UInt8.ofNat_toNat]

lemma utf8EncodeChar_two {a b : UInt8} (ha : 194 ≤ a.toNat ∧ a.toNat ≤ 223)
    (hb : 128 ≤ b.toNat ∧ b.toNat ≤ 191) : ∃ c : Char, String.utf8EncodeChar c = [a, b] := by
  obtain ⟨c, hc⟩ := exists_char (v := 64 * (a.toNat - 192) + (b.toNat - 128)) (Or.inl (by omega))
  refine ⟨c, ?_⟩
  unfold String.utf8EncodeChar
  dsimp only
  rw [hc, if_neg (by omega), if_pos (by omega), ofNat_eq_byte (a := a) (by omega),
    ofNat_eq_byte (a := b) (by omega)]

lemma utf8EncodeChar_three {a b d : UInt8} (ha : 224 ≤ a.toNat ∧ a.toNat ≤ 239)
    (hb : (if a.toNat = 224 then 160 else 128) ≤ b.toNat ∧
      b.toNat ≤ if a.toNat = 237 then 159 else 191)
    (hd : 128 ≤ d.toNat ∧ d.toNat ≤ 191) : ∃ c : Char, String.utf8EncodeChar c = [a, b, d] := by
  have hvalid : (4096 * (a.toNat - 224) + 64 * (b.toNat - 128) + (d.toNat - 128)).isValidChar := by
    unfold Nat.isValidChar
    split_ifs at hb <;> omega
  obtain ⟨c, hc⟩ := exists_char hvalid
  refine ⟨c, ?_⟩
  have hge : 2048 ≤ 4096 * (a.toNat - 224) + 64 * (b.toNat - 128) + (d.toNat - 128) := by
    split_ifs at hb <;> omega
  have hlow : 128 ≤ b.toNat ∧ b.toNat ≤ 191 := by
    split_ifs at hb <;> omega
  unfold String.utf8EncodeChar
  dsimp only
  rw [hc, if_neg (by omega), if_neg (by omega), if_pos (by omega),
    ofNat_eq_byte (a := a) (by omega), ofNat_eq_byte (a := b) (by omega),
    ofNat_eq_byte (a := d) (by omega)]

lemma utf8EncodeChar_four {a b d e : UInt8} (ha : 240 ≤ a.toNat ∧ a.toNat ≤ 244)
    (hb : (if a.toNat = 240 then 144 else 128) ≤ b.toNat ∧
      b.toNat ≤ if a.toNat = 244 then 143 else 191)
    (hd : 128 ≤ d.toNat ∧ d.toNat ≤ 191) (he : 128 ≤ e.toNat ∧ e.toNat ≤ 191) :
    ∃ c : Char, String.utf8EncodeChar c = [a, b, d, e] := by
  have hvalid : (262144 * (a.toNat - 240) + 4096 * (b.toNat - 128) + 64 * (d.toNat - 128)
      + (e.toNat - 128)).isValidChar := by
    unfold Nat.isValidChar
    split_ifs at hb <;> omega
  obtain ⟨c, hc⟩ := exists_char hvalid
  refine ⟨c, ?_⟩
  have hge : 65536 ≤ 262144 * (a.toNat - 240) + 4096 * (b.toNat - 128) + 64 * (d.toNat - 128)
      + (e.toNat - 128) := by
    split_ifs at hb <;> omega
  have hlow : 128 ≤ b.toNat ∧ b.toNat ≤ 191 := by
    split_ifs at hb <;> omega
  unfold String.utf8EncodeChar
  dsimp only
  rw [hc, if_neg (by omega), if_neg (by omega), if_neg (by omega),
    ofNat_eq_byte (a := a) (by omega), ofNat_eq_byte (a := b) (by omega),
    ofNat_eq_byte (a := d) (by omega), ofNat_eq_byte (a := e) (by omega)]

end Lib
