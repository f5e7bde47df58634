import Mathlib.Algebra.BigOperators.Group.List.Basic
import Mathlib.Data.List.TakeWhile
import Mathlib.Tactic.Ring
import PgliteOxide.Lib.BigEndian

/-!
# Tar archives

The archive format of `tar` in the GNU dialect, for members whose name fits into the header: a
header block of 512 bytes with octal numbers and a checksum, the contents filled up to whole
blocks, and two blocks of zeros at the end. `readMembers_archive` is the round trip.
-/

namespace Lib.Tar

/-! ## Numbers -/

/-- The last `w` octal digits of a number. -/
def octalDigits : ℕ → ℕ → Bytes
  | 0, _ => []
  | w + 1, n => octalDigits w (n / 8) ++ [UInt8.ofNat (48 + n % 8)]

/-- A numeric field: digits, and a NUL at the end. -/
def octalField (w n : ℕ) : Bytes := octalDigits w n ++ [0]

/-- Read one more digit. -/
def octalStep (n : ℕ) (c : UInt8) : Option ℕ :=
  if 48 ≤ c ∧ c < 56 then some (8 * n + (c.toNat - 48)) else none

/-- Read a numeric field, up to its NUL. -/
def readOctal (field : Bytes) : Option ℕ := (field.takeWhile (· ≠ 0)).foldlM octalStep 0

/-- A digit. -/
lemma toNat_digit (n : ℕ) : (UInt8.ofNat (48 + n % 8)).toNat = 48 + n % 8 := by
  have hlt : n % 8 < 8 := Nat.mod_lt n (by omega)
  rw [UInt8.toNat_ofNat']
  omega

lemma octalStep_digit (a n : ℕ) :
    octalStep a (UInt8.ofNat (48 + n % 8)) = some (8 * a + n % 8) := by
  have hlt : n % 8 < 8 := Nat.mod_lt n (by omega)
  have hrange : 48 ≤ UInt8.ofNat (48 + n % 8) ∧ UInt8.ofNat (48 + n % 8) < 56 := by
    rw [UInt8.le_iff_toNat_le, UInt8.lt_iff_toNat_lt, toNat_digit]
    constructor
    · show 48 ≤ 48 + n % 8
      omega
    · show 48 + n % 8 < 56
      omega
  rw [octalStep, if_pos hrange, toNat_digit]
  congr 2
  omega

@[simp] lemma length_octalDigits (w n : ℕ) : (octalDigits w n).length = w := by
  induction w generalizing n with
  | zero => rfl
  | succ w ih => rw [octalDigits, List.length_append, ih, List.length_singleton]

@[simp] lemma length_octalField (w n : ℕ) : (octalField w n).length = w + 1 := by
  rw [octalField, List.length_append, length_octalDigits, List.length_singleton]

lemma nul_notMem_octalDigits (w n : ℕ) : 0 ∉ octalDigits w n := by
  induction w generalizing n with
  | zero => exact List.not_mem_nil
  | succ w ih =>
    rw [octalDigits, List.mem_append, List.mem_singleton]
    rintro (h | h)
    · exact ih (n / 8) h
    · have hdigit := congrArg UInt8.toNat h
      rw [toNat_digit] at hdigit
      have hzero : (0 : UInt8).toNat = 0 := rfl
      omega

lemma foldlM_octalDigits (w n : ℕ) : (octalDigits w n).foldlM octalStep 0 = some (n % 8 ^ w) := by
  -- the last digit is at the end, so that the induction is on what is before it
  induction w generalizing n with
  | zero => rw [octalDigits, pow_zero, Nat.mod_one]; rfl
  | succ w ih =>
    rw [octalDigits, List.foldlM_append, ih, Option.bind_eq_bind, Option.bind_some,
      List.foldlM_cons, octalStep_digit, Option.bind_eq_bind, Option.bind_some, List.foldlM_nil,
      pow_succ', Nat.mod_mul, Nat.add_comm]
    rfl

/-- A text is read up to the NUL behind it. -/
lemma takeWhile_nul {text : Bytes} (h : 0 ∉ text) (zeros : Bytes) :
    (text ++ 0 :: zeros).takeWhile (· ≠ 0) = text := by
  induction text with
  | nil => rfl
  | cons c text ih =>
    rw [List.mem_cons, not_or] at h
    have hc : decide (c ≠ 0) = true := decide_eq_true (Ne.symm h.1)
    rw [List.cons_append, List.takeWhile_cons, if_pos hc, ih h.2]

/-- **Numbers are read back**, as far as the digits go. -/
lemma readOctal_octalField (w n : ℕ) : readOctal (octalField w n) = some (n % 8 ^ w) := by
  rw [readOctal, octalField, takeWhile_nul (nul_notMem_octalDigits w n) [], foldlM_octalDigits]

/-! ## Members -/

structure Member where
  name : Bytes
  typeFlag : UInt8
  mode : ℕ
  mtime : ℕ
  data : Bytes
deriving DecidableEq

/-- The name and the size fit into the header. -/
structure Member.Storable (m : Member) : Prop where
  noNul : 0 ∉ m.name
  name : m.name.length ≤ 100
  size : m.data.length < 8 ^ 11

/-- Zeros up to a width. -/
def padTo (w : ℕ) (b : Bytes) : Bytes := b ++ List.replicate (w - b.length) 0

/-- How many bytes are missing to whole blocks. -/
def padding (n : ℕ) : ℕ := (512 - n % 512) % 512

def byteSum (b : Bytes) : ℕ := (b.map UInt8.toNat).sum

/-- The header up to the checksum: name, mode, the ids of nobody, size and time. -/
def front (m : Member) : Bytes :=
  padTo 100 m.name ++ (octalField 7 m.mode ++ List.replicate 16 0)
    ++ (octalField 11 m.data.length ++ octalField 11 m.mtime)

/-- The header from the type on, with the mark of the GNU dialect. -/
def back (m : Member) : Bytes :=
  m.typeFlag :: (List.replicate 100 0 ++ [117, 115, 116, 97, 114, 32, 32, 0]
    ++ List.replicate 247 0)

/-- The sum of all bytes, with blanks in the place of the checksum. -/
def checksum (m : Member) : ℕ := byteSum (front m) + 256 + byteSum (back m)

def header (m : Member) : Bytes := front m ++ octalField 7 (checksum m) ++ back m

def encode (m : Member) : Bytes :=
  header m ++ (m.data ++ List.replicate (padding m.data.length) 0)

/-- The two blocks of zeros that end an archive. -/
def endOfArchive : Bytes := List.replicate 1024 0

def archive (members : List Member) : Bytes := members.flatMap encode ++ endOfArchive

/-! ## Reading -/

/-- A member as it is read: its contents may end early. -/
structure Entry where
  name : Bytes
  typeFlag : UInt8
  data : Bytes
  complete : Bool
  header : Bytes
deriving DecidableEq

/-- The name, the type and the size in a header block. -/
def readHeader (block : Bytes) : Except String (Bytes × UInt8 × ℕ) :=
  match readOctal ((block.drop 148).take 8), readOctal ((block.drop 124).take 12),
    block.drop 156 with
  | some sum, some size, flag :: _ =>
    if byteSum (block.take 148) + 256 + byteSum (block.drop 156) = sum then
      .ok ((block.take 100).takeWhile (· ≠ 0), flag, size)
    else .error "archive header checksum mismatch"
  | _, _, _ => .error "numeric field was not a number"

/-- The members of an archive, up to the first that cannot be read. -/
def readMembers (bytes : Bytes) : List (Except String Entry) :=
  if bytes = [] then []
  else if _hshort : bytes.length < 512 then [.error "failed to read entire block"]
  else if (bytes.take 512).all (· == 0) then []
  else
    match readHeader (bytes.take 512) with
    | .error text => [.error text]
    | .ok (name, typeFlag, size) =>
      .ok
        { name, typeFlag
          data := (bytes.drop 512).take size
          complete := size ≤ (bytes.drop 512).length
          header := bytes.take 512 }
      :: if (bytes.drop 512).length < size + padding size then
          [.error "unexpected EOF during skip"]
        else readMembers ((bytes.drop 512).drop (size + padding size))
termination_by bytes.length
decreasing_by
  rw [List.length_drop, List.length_drop]
  omega

/-! ## The round trip -/

section RoundTrip

variable {m : Member}

lemma length_padTo {w : ℕ} {b : Bytes} (h : b.length ≤ w) : (padTo w b).length = w := by
  rw [padTo, List.length_append, List.length_replicate]
  omega

lemma length_front (h : m.Storable) : (front m).length = 148 := by
  unfold front
  simp only [List.length_append, length_padTo h.name, length_octalField, List.length_replicate]

@[simp] lemma length_back : (back m).length = 356 := by
  unfold back
  simp only [List.length_cons, List.length_append, List.length_replicate, List.length_nil]

lemma length_header (h : m.Storable) : (header m).length = 512 := by
  unfold header
  simp only [List.length_append, length_front h, length_octalField, length_back]

lemma byteSum_le (b : Bytes) : byteSum b ≤ 255 * b.length := by
  induction b with
  | nil => exact le_rfl
  | cons c b ih =>
    have hc := UInt8.toNat_lt c
    have hsum : byteSum (c :: b) = c.toNat + byteSum b := by
      unfold byteSum
      rw [List.map_cons, List.sum_cons]
    rw [hsum, List.length_cons]
    omega

/-- The checksum fits into its field. -/
lemma checksum_lt (h : m.Storable) : checksum m < 8 ^ 7 := by
  have hfront := byteSum_le (front m)
  have hback := byteSum_le (back m)
  rw [length_front h] at hfront
  rw [length_back] at hback
  unfold checksum
  omega

/-- A header does not look like the end of the archive. -/
lemma header_ne_zeros : ((header m).all (· == 0)) = false := by
  -- the mark of the dialect is never zero
  have hmark : (117 : UInt8) ∈ header m := by
    unfold header back
    refine List.mem_append_right _ (List.mem_cons_of_mem _ (List.mem_append_left _ ?_))
    exact List.mem_append_right _ List.mem_cons_self
  rw [Bool.eq_false_iff, ne_eq, List.all_eq_true]
  intro hall
  exact absurd (hall 117 hmark) (by decide)

/-- A header is read back. -/
lemma readHeader_header (h : m.Storable) :
    readHeader (header m) = .ok (m.name, m.typeFlag, m.data.length) := by
  have hsum : (header m).drop 148 = octalField 7 (checksum m) ++ back m := by
    unfold header
    rw [List.append_assoc]
    exact List.drop_left' (length_front h)
  have hback : (header m).drop 156 = back m := by
    unfold header
    apply List.drop_left'
    rw [List.length_append, length_front h, length_octalField]
  have hfront : (header m).take 148 = front m := by
    unfold header
    rw [List.append_assoc]
    exact List.take_left' (length_front h)
  have hsize : ((header m).drop 124).take 12 = octalField 11 m.data.length := by
    unfold header front
    simp only [List.append_assoc]
    rw [← List.append_assoc (octalField 7 m.mode), ← List.append_assoc (padTo 100 m.name)]
    rw [List.drop_left', List.take_left']
    · rw [length_octalField]
    · simp only [List.length_append, length_padTo h.name, length_octalField,
        List.length_replicate]
  have hname : ((header m).take 100).takeWhile (· ≠ 0) = m.name := by
    have htake : (header m).take 100 = padTo 100 m.name := by
      unfold header front
      simp only [List.append_assoc]
      exact List.take_left' (length_padTo h.name)
    rw [htake, padTo]
    -- a name of a hundred bytes has no NUL behind it
    cases 100 - m.name.length with
    | zero =>
      rw [List.replicate_zero, List.append_nil, List.takeWhile_eq_self_iff]
      intro c hc
      exact decide_eq_true fun hzero => h.noNul (hzero ▸ hc)
    | succ k => exact takeWhile_nul h.noNul _
  unfold readHeader
  rw [hsum, List.take_left' (length_octalField 7 _), readOctal_octalField,
    Nat.mod_eq_of_lt (checksum_lt h), hsize, readOctal_octalField, Nat.mod_eq_of_lt h.size, hback,
    hfront, hname]
  exact if_pos rfl

lemma length_encode (h : m.Storable) :
    (encode m).length = 512 + (m.data.length + padding m.data.length) := by
  unfold encode
  rw [List.length_append, length_header h, List.length_append, List.length_replicate]

/-- The first member is read, and then the rest. -/
lemma readMembers_encode (h : m.Storable) (rest : Bytes) :
    readMembers (encode m ++ rest)
      = .ok ⟨m.name, m.typeFlag, m.data, true, header m⟩ :: readMembers rest := by
  have hlength := length_encode h
  have hblock : (encode m ++ rest).take 512 = header m := by
    unfold encode
    rw [List.append_assoc]
    exact List.take_left' (length_header h)
  have hbody : (encode m ++ rest).drop 512
      = m.data ++ List.replicate (padding m.data.length) 0 ++ rest := by
    unfold encode
    rw [List.append_assoc]
    exact List.drop_left' (length_header h)
  have hdata : ((encode m ++ rest).drop 512).take m.data.length = m.data := by
    rw [hbody, List.append_assoc]
    exact List.take_left' rfl
  have hrest : ((encode m ++ rest).drop 512).drop (m.data.length + padding m.data.length)
      = rest := by
    rw [hbody]
    apply List.drop_left'
    rw [List.length_append, List.length_replicate]
  have hroom : (encode m ++ rest).length = 512 + (m.data.length + padding m.data.length)
      + rest.length := by rw [List.length_append, hlength]
  have hne : encode m ++ rest ≠ [] := by
    -- the archive has at least a header
    apply List.ne_nil_of_length_pos
    omega
  have hlong : ¬ (encode m ++ rest).length < 512 := by omega
  have hthere : m.data.length ≤ ((encode m ++ rest).drop 512).length := by
    rw [List.length_drop]
    omega
  have hwhole : ¬ ((encode m ++ rest).drop 512).length
      < m.data.length + padding m.data.length := by
    rw [List.length_drop]
    omega
  rw [readMembers, if_neg hne, dif_neg hlong, hblock, header_ne_zeros, if_neg Bool.false_ne_true,
    readHeader_header h]
  simp only [hdata, hrest]
  rw [decide_eq_true hthere, if_neg hwhole]

lemma readMembers_endOfArchive : readMembers endOfArchive = [] := by
  have hne : endOfArchive ≠ [] := by
    apply List.ne_nil_of_length_pos
    rw [endOfArchive, List.length_replicate]
    omega
  have hlong : ¬ endOfArchive.length < 512 := by
    rw [endOfArchive, List.length_replicate]
    omega
  have hzeros : (endOfArchive.take 512).all (· == 0) = true := by
    rw [endOfArchive, List.take_replicate, List.all_replicate]
    rfl
  rw [readMembers, if_neg hne, dif_neg hlong, if_pos hzeros]

/-- **The round trip.** Members that fit are read back from an archive as they are. -/
theorem readMembers_archive {members : List Member} (h : ∀ m ∈ members, m.Storable) :
    readMembers (archive members)
      = members.map fun m => .ok ⟨m.name, m.typeFlag, m.data, true, header m⟩ := by
  unfold archive
  induction members with
  | nil => exact readMembers_endOfArchive
  | cons m members ih =>
    rw [List.flatMap_cons, List.append_assoc, readMembers_encode (h m List.mem_cons_self),
      ih fun m' hm' => h m' (List.mem_cons_of_mem m hm'), List.map_cons]

end RoundTrip

end Lib.Tar
