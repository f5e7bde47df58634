import Mathlib.Data.List.Lex
import PgliteOxide.Lib.Lines
import PgliteOxide.Lib.Utf8

/-!
# File names and the text of paths

A file name is a byte string that can stand as one component of a Unix path. The text of a
relative path joins its names with slashes, and `components` takes a text apart again, the way
`Path::components` does. `toStringLossy` is what becomes of a name that is no UTF-8.
-/

namespace Lib

/-! ## Names -/

/-- A component that names an entry: not empty, not `.` or `..`, without slash and NUL. -/
def validName (b : Bytes) : Bool :=
  b ≠ [] && !b.contains 47 && !b.contains 0 && b ≠ [46] && b ≠ [46, 46]

structure FileName where
  bytes : Bytes
  valid : validName bytes = true
deriving DecidableEq

namespace FileName

/-- The name with these bytes, if they can stand as one. -/
def ofBytes? (b : Bytes) : Option FileName :=
  if h : validName b = true then some ⟨b, h⟩ else none

@[simp] lemma ofBytes?_bytes (name : FileName) : ofBytes? name.bytes = some name := by
  rw [ofBytes?, dif_pos name.valid]

lemma bytes_of_ofBytes? {b : Bytes} {name : FileName} (h : ofBytes? b = some name) :
    name.bytes = b := by
  unfold ofBytes? at h
  by_cases hvalid : validName b = true
  · rw [dif_pos hvalid] at h
    cases h
    rfl
  · rw [dif_neg hvalid] at h
    cases h

/-- The key by which names are ordered. -/
def key (name : FileName) : List ℕ := name.bytes.map UInt8.toNat

lemma key_injective : Function.Injective key := by
  intro a b h
  have hbytes : a.bytes = b.bytes := List.map_injective_iff.mpr (fun x y => UInt8.toNat_inj.mp) h
  cases a
  cases b
  simpa using hbytes

/-- Names are ordered by their bytes. -/
instance : LinearOrder FileName := LinearOrder.lift' key key_injective

lemma ne_nil (name : FileName) : name.bytes ≠ [] := by
  have h := name.valid
  simp [validName] at h
  exact h.1.1.1.1

lemma no_slash (name : FileName) : 47 ∉ name.bytes := by
  have h := name.valid
  simp [validName] at h
  exact h.1.1.1.2

lemma ne_dot (name : FileName) : name.bytes ≠ [46] := by
  have h := name.valid
  simp [validName] at h
  exact h.1.2

lemma ne_dotDot (name : FileName) : name.bytes ≠ [46, 46] := by
  have h := name.valid
  simp [validName] at h
  exact h.2

end FileName

/-- A path below some directory. -/
abbrev RelPath := List FileName

/-! ## Text -/

/-- `std::path::Component`, without prefixes. -/
inductive Component where
  | rootDir
  | curDir
  | parentDir
  | normal (part : Bytes)
deriving DecidableEq, Repr

/-- A part between two slashes; an empty one is none. -/
def componentOf (part : Bytes) : Option Component :=
  if part = [] then none
  else if part = [46] then some .curDir
  else if part = [46, 46] then some .parentDir
  else some (.normal part)

/-- `Path::components`. A `.` that is not at the front is kept here and dropped by Rust; every
caller drops it. -/
def components (text : Bytes) : List Component :=
  (if text.head? = some 47 then [.rootDir] else []) ++ (text.splitOn 47).filterMap componentOf

/-- The text of a relative path. -/
def pathText (parts : List Bytes) : Bytes := [47].intercalate parts

lemma componentOf_name (name : FileName) : componentOf name.bytes = some (.normal name.bytes) := by
  unfold componentOf
  rw [if_neg name.ne_nil, if_neg name.ne_dot, if_neg name.ne_dotDot]

/-- A text starts with the first name of its path. -/
lemma pathText_cons (part : Bytes) (parts : List Bytes) :
    ∃ rest, pathText (part :: parts) = part ++ rest := by
  unfold pathText
  cases parts with
  | nil => exact ⟨[], by simp⟩
  | cons part' parts =>
    exact ⟨_, by rw [List.intercalate_cons_cons, List.append_assoc]⟩

/-- A path ends with its last name. -/
lemma pathText_concat (parts : List Bytes) (part : Bytes) :
    ∃ front, pathText (parts ++ [part]) = front ++ part := by
  unfold pathText
  induction parts with
  | nil => exact ⟨[], by simp⟩
  | cons first parts ih =>
    obtain ⟨front, hfront⟩ := ih
    obtain ⟨second, rest, hrest⟩ := List.exists_cons_of_ne_nil
      (List.append_ne_nil_of_right_ne_nil parts (List.cons_ne_nil part []))
    rw [hrest] at hfront
    rw [List.cons_append, hrest, List.intercalate_cons_cons, hfront]
    exact ⟨first ++ [47] ++ front, (List.append_assoc ..).symm⟩

/-- The components of the text of a path are its names. -/
lemma components_pathText (p : RelPath) :
    components (pathText (p.map FileName.bytes)) = p.map fun name => .normal name.bytes := by
  cases p with
  | nil => rfl
  | cons name p =>
    have hslash : ∀ part ∈ (name :: p).map FileName.bytes, 47 ∉ part := by
      intro part hpart
      obtain ⟨n, -, rfl⟩ := List.mem_map.mp hpart
      exact n.no_slash
    have hsplit : (pathText ((name :: p).map FileName.bytes)).splitOn 47
        = (name :: p).map FileName.bytes := List.splitOn_intercalate 47 hslash (by simp)
    have hhead : (pathText ((name :: p).map FileName.bytes)).head? ≠ some 47 := by
      obtain ⟨rest, hrest⟩ := pathText_cons name.bytes (p.map FileName.bytes)
      rw [List.map_cons, hrest]
      rcases hbytes : name.bytes with _ | ⟨b, bs⟩
      · exact absurd hbytes name.ne_nil
      · have hb := name.no_slash
        rw [hbytes] at hb
        simp only [List.cons_append, List.head?_cons, ne_eq, Option.some.injEq]
        exact fun h => hb (by simp [h])
    have hparts : componentOf ∘ FileName.bytes = some ∘ fun n => .normal n.bytes := by
      funext n
      exact componentOf_name n
    unfold components
    rw [if_neg hhead, hsplit, List.nil_append, List.filterMap_map, hparts, List.filterMap_eq_map]

/-- The text of a path of texts is a text. -/
lemma pathText_utf8 {parts : List Bytes} (h : ∀ part ∈ parts, ∃ s, utf8 s = part) :
    ∃ s, utf8 s = pathText parts := by
  induction parts with
  | nil => exact ⟨"", rfl⟩
  | cons part parts ih =>
    obtain ⟨s, hs⟩ := h part (by simp)
    obtain ⟨t, ht⟩ := ih fun part hpart => h part (List.mem_cons_of_mem _ hpart)
    unfold pathText at ht ⊢
    cases parts with
    | nil => exact ⟨s, by simpa using hs⟩
    | cons part' parts =>
      refine ⟨s ++ String.singleton '/' ++ t, ?_⟩
      rw [utf8_append, utf8_append, hs, ht, utf8_singleton (by decide),
        List.intercalate_cons_cons]
      rfl

/-- A text is split into texts at an ASCII character. -/
lemma text_of_mem_splitOn {x : UInt8} (hx : x.toNat < 128) (s : String) :
    ∀ part ∈ (utf8 s).splitOn x, ∃ t, utf8 t = part := by
  rw [← String.ofList_toList (s := s)]
  induction s.toList with
  | nil =>
    intro part hpart
    rw [List.mem_singleton.mp hpart]
    exact ⟨"", rfl⟩
  | cons c cs ih =>
    have hcons : utf8 (String.ofList (c :: cs))
        = String.utf8EncodeChar c ++ utf8 (String.ofList cs) := by
      rw [utf8_ofList, utf8_ofList, List.flatMap_cons]
    rw [hcons]
    by_cases hc : String.utf8EncodeChar c = [x]
    · rw [hc, List.singleton_append, List.splitOn_eq_splitOnP, List.splitOnP_cons_eq_if_modifyHead,
        if_pos (beq_self_eq_true x)]
      intro part hpart
      rcases List.mem_cons.mp hpart with hpart | hpart
      · exact ⟨"", hpart.symm⟩
      · exact ih part hpart
    · have hno : x ∉ String.utf8EncodeChar c := by
        intro hmem
        by_cases hascii : c.toNat < 128
        · rw [utf8EncodeChar_ascii hascii] at hmem hc
          exact hc (by rw [List.mem_singleton.mp hmem])
        · have hle := le_of_mem_utf8EncodeChar (by omega) hmem
          omega
      obtain ⟨first, parts, hparts⟩ := List.exists_cons_of_ne_nil
        (List.splitOn_ne_nil x (utf8 (String.ofList cs)))
      rw [splitOn_append_of_not_mem hno hparts]
      rw [hparts] at ih
      intro part hpart
      rcases List.mem_cons.mp hpart with hpart | hpart
      · obtain ⟨t, ht⟩ := ih first List.mem_cons_self
        refine ⟨String.ofList [c] ++ t, ?_⟩
        rw [utf8_append, utf8_ofList, List.flatMap_singleton, ht, hpart]
      · exact ih part (List.mem_cons_of_mem _ hpart)

/-! ## Lossy text -/

/-- A continuation byte in a range. -/
def inRange (lo hi : UInt8) (b : Option UInt8) : Bool := b.any fun b => lo ≤ b && b ≤ hi

/-- The range of the second byte after a first byte of three or four. -/
def secondRange (b : UInt8) : UInt8 × UInt8 :=
  if b = 0xE0 then (0xA0, 0xBF)
  else if b = 0xED then (0x80, 0x9F)
  else if b = 0xF0 then (0x90, 0xBF)
  else if b = 0xF4 then (0x80, 0x8F)
  else (0x80, 0xBF)

/-- At the front of a text: whether there is a character, and how many bytes it or the invalid
sequence has. -/
def frontChar (b : UInt8) (rest : Bytes) : Bool × ℕ :=
  let second := inRange (secondRange b).1 (secondRange b).2 rest[0]?
  let third := inRange 0x80 0xBF rest[1]?
  let fourth := inRange 0x80 0xBF rest[2]?
  if b < 0x80 then (true, 1)
  else if 0xC2 ≤ b && b ≤ 0xDF then if second then (true, 2) else (false, 1)
  else if 0xE0 ≤ b && b ≤ 0xEF then
    if !second then (false, 1) else if !third then (false, 2) else (true, 3)
  else if 0xF0 ≤ b && b ≤ 0xF4 then
    if !second then (false, 1) else if !third then (false, 2)
    else if !fourth then (false, 3) else (true, 4)
  else (false, 1)

/-- Each invalid sequence becomes `U+FFFD`; the first argument bounds the length. -/
def replaceInvalid : ℕ → Bytes → Bytes
  | 0, _ => []
  | _, [] => []
  | n + 1, b :: rest =>
    let (valid, length) := frontChar b rest
    (if valid then (b :: rest).take length else [0xEF, 0xBF, 0xBD])
      ++ replaceInvalid n ((b :: rest).drop length)

/-- `to_string_lossy`. -/
def toStringLossy (b : Bytes) : Bytes :=
  if (fromUtf8 b).isSome then b else replaceInvalid b.length b

lemma frontChar_pos (b : UInt8) (rest : Bytes) : 0 < (frontChar b rest).2 := by
  unfold frontChar
  dsimp only
  split_ifs <;> simp

lemma frontChar_ascii {b : UInt8} (hb : b < 0x80) (rest : Bytes) :
    frontChar b rest = (true, 1) := by
  unfold frontChar
  rw [if_pos hb]

/-- Text is kept. -/
lemma toStringLossy_utf8 (s : String) : toStringLossy (utf8 s) = utf8 s := by
  rw [toStringLossy, fromUtf8_utf8]
  rfl

/-- Lossy text starts with an ASCII byte only where the bytes do. -/
lemma replaceInvalid_ascii {c : UInt8} (hc : c < 0x80) (n : ℕ) (bs t : Bytes) :
    (c :: t) <+: replaceInvalid (n + 1) bs ↔
      ∃ rest, bs = c :: rest ∧ t <+: replaceInvalid n rest := by
  cases bs with
  | nil => simp [replaceInvalid]
  | cons b rest =>
    rw [replaceInvalid]
    by_cases hb : b < 0x80
    · rw [frontChar_ascii hb]
      simp only [if_true, List.take_succ_cons, List.take_zero, List.drop_succ_cons, List.drop_zero,
        List.cons_append, List.nil_append, List.cons_prefix_cons, List.cons.injEq]
      constructor
      · rintro ⟨rfl, ht⟩
        exact ⟨rest, ⟨rfl, rfl⟩, ht⟩
      · rintro ⟨r, ⟨rfl, rfl⟩, ht⟩
        exact ⟨rfl, ht⟩
    · -- neither a longer character nor `U+FFFD` starts with an ASCII byte
      have hpos := frontChar_pos b rest
      generalize frontChar b rest = front at hpos ⊢
      obtain ⟨valid, length⟩ := front
      obtain ⟨length, rfl⟩ : ∃ m, length = m + 1 := ⟨length - 1, by simp at hpos; omega⟩
      have hne : c ≠ b := fun h => hb (h ▸ hc)
      have hneFFFD : c ≠ 0xEF := fun h => absurd hc (by rw [h]; decide)
      cases valid <;> simp [hne, hneFFFD, eq_comm]

lemma prefix_replaceInvalid_iff {t : Bytes} (ht : ∀ c ∈ t, c < 0x80) {n : ℕ} {bs : Bytes}
    (hn : bs.length ≤ n) : t <+: replaceInvalid n bs ↔ t <+: bs := by
  induction t generalizing n bs with
  | nil => simp
  | cons c t ih =>
    cases n with
    | zero =>
      rw [List.eq_nil_of_length_eq_zero (Nat.le_zero.mp hn)]
      simp [replaceInvalid]
    | succ n =>
      rw [replaceInvalid_ascii (ht c (by simp))]
      cases bs with
      | nil => simp
      | cons b rest =>
        have hrest : rest.length ≤ n := by simpa using hn
        rw [List.cons_prefix_cons, ← ih (fun c hc => ht c (List.mem_cons_of_mem _ hc)) hrest]
        constructor
        · rintro ⟨r, hr, ht⟩
          obtain ⟨rfl, rfl⟩ := List.cons.inj hr
          exact ⟨rfl, ht⟩
        · rintro ⟨rfl, ht⟩
          exact ⟨rest, rfl, ht⟩

/-- Lossy text starts with an ASCII text exactly where the bytes do. -/
lemma prefix_toStringLossy_iff {t : Bytes} (ht : ∀ c ∈ t, c < 0x80) (b : Bytes) :
    t <+: toStringLossy b ↔ t <+: b := by
  unfold toStringLossy
  split
  · rfl
  · exact prefix_replaceInvalid_iff ht (Nat.le_refl _)

/-! ### Lossy text is text -/

lemma inRange_eq_true {lo hi : UInt8} {b : Option UInt8} (h : inRange lo hi b = true) :
    ∃ x, b = some x ∧ lo.toNat ≤ x.toNat ∧ x.toNat ≤ hi.toNat := by
  rcases b with _ | x
  · cases h
  · have hx : (decide (lo ≤ x) && decide (x ≤ hi)) = true := h
    rw [Bool.and_eq_true, decide_eq_true_eq, decide_eq_true_eq, UInt8.le_iff_toNat_le,
      UInt8.le_iff_toNat_le] at hx
    exact ⟨x, rfl, hx⟩

lemma secondRange_toNat (b : UInt8) :
    (secondRange b).1.toNat
        = (if b.toNat = 224 then 160 else if b.toNat = 240 then 144 else 128) ∧
      (secondRange b).2.toNat
        = if b.toNat = 237 then 159 else if b.toNat = 244 then 143 else 191 := by
  have hall : ∀ n < 256, (secondRange (UInt8.ofNat n)).1.toNat
        = (if n = 224 then 160 else if n = 240 then 144 else 128) ∧
      (secondRange (UInt8.ofNat n)).2.toNat
        = if n = 237 then 159 else if n = 244 then 143 else 191 := by
    decide +kernel
  have h := hall b.toNat b.toNat_lt
  rwa [UInt8.ofNat_toNat] at h

lemma and_le_toNat {lo hi b : UInt8} (h : (decide (lo ≤ b) && decide (b ≤ hi)) = true) :
    lo.toNat ≤ b.toNat ∧ b.toNat ≤ hi.toNat := by
  rwa [Bool.and_eq_true, decide_eq_true_eq, decide_eq_true_eq, UInt8.le_iff_toNat_le,
    UInt8.le_iff_toNat_le] at h

/-- The front of a text that counts as a character is one. -/
lemma frontChar_valid {b : UInt8} {rest : Bytes} {length : ℕ}
    (h : frontChar b rest = (true, length)) :
    ∃ c : Char, String.utf8EncodeChar c = (b :: rest).take length := by
  have htake : ∀ {n : ℕ} {x : UInt8}, rest[n]? = some x →
      rest.take (n + 1) = rest.take n ++ [x] := by
    intro n x hx
    rw [List.take_add_one, hx]
    rfl
  obtain ⟨hlow, hhigh⟩ := secondRange_toNat b
  unfold frontChar at h
  dsimp only at h
  split_ifs at h with hone htwo hsecond hthree hsecond hthird hfour hsecond hthird hfourth
  all_goals try exact Bool.noConfusion (Prod.mk.inj h).1
  all_goals rw [← (Prod.mk.inj h).2]
  · exact utf8EncodeChar_one (UInt8.lt_iff_toNat_lt.mp hone)
  · have hb : 194 ≤ b.toNat ∧ b.toNat ≤ 223 := and_le_toNat htwo
    obtain ⟨x, hx, hx1, hx2⟩ := inRange_eq_true hsecond
    show ∃ c : Char, _ = b :: rest.take 1
    rw [htake hx]
    rw [hlow] at hx1
    rw [hhigh] at hx2
    exact utf8EncodeChar_two hb (by split_ifs at * <;> omega)
  · have hb : 224 ≤ b.toNat ∧ b.toNat ≤ 239 := and_le_toNat hthree
    rw [Bool.not_eq_true, Bool.not_eq_false'] at hsecond hthird
    obtain ⟨x, hx, hx1, hx2⟩ := inRange_eq_true hsecond
    obtain ⟨y, hy, hy1, hy2⟩ := inRange_eq_true hthird
    show ∃ c : Char, _ = b :: rest.take 2
    rw [htake hy, htake hx]
    rw [hlow] at hx1
    rw [hhigh] at hx2
    exact utf8EncodeChar_three hb (by split_ifs at * <;> omega) ⟨hy1, hy2⟩
  · have hb : 240 ≤ b.toNat ∧ b.toNat ≤ 244 := and_le_toNat hfour
    rw [Bool.not_eq_true, Bool.not_eq_false'] at hsecond hthird hfourth
    obtain ⟨x, hx, hx1, hx2⟩ := inRange_eq_true hsecond
    obtain ⟨y, hy, hy1, hy2⟩ := inRange_eq_true hthird
    obtain ⟨z, hz, hz1, hz2⟩ := inRange_eq_true hfourth
    show ∃ c : Char, _ = b :: rest.take 3
    rw [htake hz, htake hy, htake hx]
    rw [hlow] at hx1
    rw [hhigh] at hx2
    exact utf8EncodeChar_four hb (by split_ifs at * <;> omega) ⟨hy1, hy2⟩ ⟨hz1, hz2⟩

lemma replaceInvalid_text (n : ℕ) (b : Bytes) : ∃ s, utf8 s = replaceInvalid n b := by
  induction n generalizing b with
  | zero => exact ⟨"", rfl⟩
  | succ n ih =>
    rcases b with _ | ⟨b, rest⟩
    · exact ⟨"", rfl⟩
    · rw [replaceInvalid]
      rcases hfront : frontChar b rest with ⟨valid, length⟩
      dsimp only
      obtain ⟨t, ht⟩ := ih ((b :: rest).drop length)
      rw [← ht]
      rcases valid with _ | _
      · exact ⟨"\uFFFD" ++ t, utf8_append _ _⟩
      · obtain ⟨c, hc⟩ := frontChar_valid hfront
        rw [if_pos rfl, ← hc]
        exact ⟨String.ofList [c] ++ t, by rw [utf8_append, utf8_ofList, List.flatMap_singleton]⟩

/-- What becomes of a name is text. -/
lemma toStringLossy_text (b : Bytes) : ∃ s, utf8 s = toStringLossy b := by
  unfold toStringLossy
  rcases h : fromUtf8 b with _ | s
  · exact replaceInvalid_text _ _
  · exact ⟨s, utf8_of_fromUtf8 h⟩

end Lib
