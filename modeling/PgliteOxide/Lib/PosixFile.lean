import PgliteOxide.Lib.BigEndian

/-!
# Files and descriptors

A file is its bytes, read and written at offsets. Every call asks the system first, which may
fail it or cut it short. A descriptor has one cursor over a file: it reads and writes where the
cursor stands and moves it by what was transferred; in append mode a write first moves it to the
end of the file.
-/

namespace Lib

/-- `off_t` is a signed 64-bit number. -/
def maxOffset : Nat := 2 ^ 63 - 1

/-- A position is an unsigned one. -/
def maxPosition : Nat := 2 ^ 64 - 1

inductive FileError where
  | invalidInput
  | badDescriptor
  | notFound
  | alreadyExists
  | device (code : Nat)
deriving DecidableEq, Repr

/-- What the system grants a call. -/
inductive Grant where
  | error (e : FileError)
  | upTo (n : Nat)
deriving DecidableEq, Repr

structure FileMode where
  readable : Bool
  writable : Bool
  append : Bool
deriving DecidableEq, Repr

@[ext]
structure File where
  mode : FileMode
  content : Bytes
  fits : content.length ≤ maxOffset
deriving DecidableEq, Repr

/-! ## Contents -/

/-- The bytes before an offset, with zeros behind the end. -/
def padTo (content : Bytes) (start : Nat) : Bytes :=
  content.take start ++ List.replicate (start - content.length) 0

/-- `data` laid over a content at an offset. No bytes leave it as it is. -/
def overlay (content : Bytes) (start : Nat) (data : Bytes) : Bytes :=
  if data = [] then content
  else padTo content start ++ data ++ content.drop (start + data.length)

lemma length_padTo (content : Bytes) (start : Nat) : (padTo content start).length = start := by
  unfold padTo
  rw [List.length_append, List.length_take, List.length_replicate]
  omega

lemma overlay_nil (content : Bytes) (start : Nat) : overlay content start [] = content := if_pos rfl

lemma length_overlay_le (content data : Bytes) (start : Nat) :
    (overlay content start data).length ≤ max content.length (start + data.length) := by
  unfold overlay
  by_cases hnil : data = []
  · rw [if_pos hnil]
    exact Nat.le_max_left _ _
  · rw [if_neg hnil, List.length_append, List.length_append, length_padTo, List.length_drop]
    omega

lemma length_overlay_end (content data : Bytes) :
    (overlay content content.length data).length = content.length + data.length := by
  unfold overlay
  by_cases hnil : data = []
  · rw [if_pos hnil, hnil]
    rfl
  · rw [if_neg hnil, List.length_append, List.length_append, length_padTo, List.length_drop]
    omega

/-- Writing on where a write has ended is one write. -/
lemma overlay_overlay (content : Bytes) (start : Nat) (a b : Bytes) :
    overlay (overlay content start a) (start + a.length) b = overlay content start (a ++ b) := by
  by_cases ha : a = []
  · rw [ha, overlay_nil, List.nil_append]
    rfl
  by_cases hb : b = []
  · rw [hb, overlay_nil, List.append_nil]
  have hfront : (padTo content start ++ a).length = start + a.length := by
    rw [List.length_append, length_padTo]
  have hpad : padTo (padTo content start ++ a ++ content.drop (start + a.length))
      (start + a.length) = padTo content start ++ a := by
    unfold padTo
    have hzero : start + a.length - ((padTo content start ++ a)
        ++ content.drop (start + a.length)).length = 0 := by
      rw [List.length_append, hfront]
      omega
    unfold padTo at hfront hzero
    rw [hzero, List.take_append_of_le_length (by omega), List.take_of_length_le (by omega),
      List.replicate_zero, List.append_nil]
  have hdrop : (padTo content start ++ a ++ content.drop (start + a.length)).drop
      (start + a.length + b.length) = content.drop (start + (a ++ b).length) := by
    rw [List.drop_append, List.drop_eq_nil_of_le (by omega), List.nil_append, hfront,
      List.drop_drop, List.length_append]
    congr 1
    omega
  unfold overlay
  rw [if_neg ha, if_neg hb, if_neg (by simp [ha]), hpad, hdrop]
  simp only [List.append_assoc]

/-! ## Calls on files -/

namespace File

variable (file : File)

def size : Nat := file.content.length

/-- A read at an offset. -/
def readAt (len offset : Nat) : Grant → Except FileError Bytes
  | .error e => .error e
  | .upTo n =>
    if maxOffset < offset then .error .invalidInput
    else if file.mode.readable = false then .error .badDescriptor
    else .ok ((file.content.drop offset).take (min n len))

/-- How much of a write at an offset is done. -/
def writeCount (n len start : Nat) : Nat := min n (min len (maxOffset - start))

lemma fits_overlay {n start : Nat} (data : Bytes) (hstart : ¬ maxOffset < start) :
    (overlay file.content start (data.take (writeCount n data.length start))).length
      ≤ maxOffset := by
  have hle := length_overlay_le file.content (data.take (writeCount n data.length start)) start
  have hfits := file.fits
  rw [List.length_take] at hle
  unfold writeCount at hle ⊢
  omega

/-- A write at an offset. -/
def writeAt (data : Bytes) (start : Nat) : Grant → Except FileError (Nat × File)
  | .error e => .error e
  | .upTo n =>
    if hstart : maxOffset < start then .error .invalidInput
    else if file.mode.writable = false then .error .badDescriptor
    else .ok (writeCount n data.length start,
      { file with
        content := overlay file.content start (data.take (writeCount n data.length start))
        fits := file.fits_overlay data hstart })

lemma writeCount_le (n len start : Nat) : writeCount n len start ≤ len := by
  unfold writeCount
  omega

/-- A write that succeeds lays what it counts over the content. -/
lemma writeAt_ok {data : Bytes} {start n count : Nat} {file' : File}
    (h : file.writeAt data start (.upTo n) = .ok (count, file')) :
    start ≤ maxOffset ∧ file.mode.writable = true ∧ count = writeCount n data.length start ∧
      file'.mode = file.mode ∧ file'.content = overlay file.content start (data.take count) := by
  unfold writeAt at h
  dsimp only at h
  split_ifs at h with hstart hwritable
  have hpair := Except.ok.inj h
  have hcount := congrArg Prod.fst hpair
  have hfile := congrArg Prod.snd hpair
  dsimp only at hcount hfile
  rw [← hfile, ← hcount]
  exact ⟨by omega, by simpa using hwritable, rfl, rfl, rfl⟩

lemma exists_writeAt {start : Nat} (hstart : start ≤ maxOffset)
    (hwritable : file.mode.writable = true) (data : Bytes) (n : Nat) :
    ∃ file', file.writeAt data start (.upTo n)
      = .ok (writeCount n data.length start, file') := by
  unfold writeAt
  dsimp only
  rw [dif_neg (by omega), if_neg (by simp [hwritable])]
  exact ⟨_, rfl⟩

/-- `pwrite`: in append mode the offset is checked and then ignored. -/
def pwrite (data : Bytes) (offset : Nat) : Grant → Except FileError (Nat × File)
  | .error e => .error e
  | .upTo n =>
    if maxOffset < offset then .error .invalidInput
    else file.writeAt data (if file.mode.append then file.size else offset) (.upTo n)

/-- `set_len`. -/
def setLen (size : Nat) : Grant → Except FileError File
  | .error e => .error e
  | .upTo _ =>
    if hsize : maxOffset < size then .error .invalidInput
    else if file.mode.writable = false then .error .invalidInput
    else .ok { file with content := padTo file.content size, fits := by rw [length_padTo]; omega }

/-- `open`: the content is the one there is, unless it is truncated or new. -/
def openFile (mode : FileMode) (create exclusive truncate : Bool)
    (existing : Option { content : Bytes // content.length ≤ maxOffset }) :
    Grant → Except FileError File
  | .error e => .error e
  | .upTo _ =>
    match existing with
    | some content =>
      if create = true ∧ exclusive = true then .error .alreadyExists
      else if truncate then .ok ⟨mode, [], by decide⟩
      else .ok ⟨mode, content.1, content.2⟩
    | none => if create then .ok ⟨mode, [], by decide⟩ else .error .notFound

lemma openFile_ok {mode : FileMode} {create exclusive truncate : Bool}
    {existing : Option { content : Bytes // content.length ≤ maxOffset }} {grant : Grant}
    {file' : File} (h : openFile mode create exclusive truncate existing grant = .ok file') :
    file'.mode = mode ∧
      file'.content = if truncate then [] else (existing.map Subtype.val).getD [] := by
  rcases grant with e | n
  · cases h
  · rcases existing with _ | content
    · unfold openFile at h
      dsimp only at h
      split_ifs at h
      rw [← Except.ok.inj h]
      refine ⟨rfl, ?_⟩
      split_ifs <;> rfl
    · unfold openFile at h
      dsimp only at h
      split_ifs at h with _ htruncate
      · rw [← Except.ok.inj h, if_pos htruncate]
        exact ⟨rfl, rfl⟩
      · rw [← Except.ok.inj h, if_neg htruncate]
        exact ⟨rfl, rfl⟩

end File

/-! ## Descriptors -/

/-- Where a seek goes to. -/
inductive SeekFrom where
  | start (offset : Nat)
  | current (delta : Int)
  | fromEnd (delta : Int)
deriving DecidableEq, Repr

/-- A call on an open file. -/
inductive FileCall where
  | read (len : Nat)
  | write (data : Bytes)
  | writeVectored (bufs : List Bytes)
  | seek (position : SeekFrom)
  | setLen (size : Nat)
deriving DecidableEq, Repr

inductive FileReply where
  | bytes (data : Bytes)
  | count (n : Nat)
  | done
  | failed (e : FileError)
deriving DecidableEq, Repr

def FileCall.isWrite : FileCall → Bool
  | .write _ | .writeVectored _ => true
  | _ => false

/-- How many bytes of the buffers are granted before a buffer is cut short or fails. -/
def grantedBytes : List Bytes → (Nat → Grant) → Nat
  | [], _ => 0
  | buf :: bufs, grants =>
    match grants 0 with
    | .error _ => 0
    | .upTo n =>
      if n < buf.length then n else buf.length + grantedBytes bufs fun i => grants (i + 1)

/-- The grant of a vectored write: it fails with its first buffer only. -/
def gather (bufs : List Bytes) (grants : Nat → Grant) : Grant :=
  match grants 0 with
  | .error e => .error e
  | .upTo _ => .upTo (grantedBytes bufs grants)

structure Descriptor where
  file : File
  cursor : Nat
deriving DecidableEq, Repr

namespace Descriptor

variable (d : Descriptor)

/-- Where a write goes to. -/
def writeStart : Nat := if d.file.mode.append then d.file.size else d.cursor

def read (len : Nat) (grant : Grant) : FileReply × Descriptor :=
  match d.file.readAt len d.cursor grant with
  | .ok data => (.bytes data, { d with cursor := d.cursor + data.length })
  | .error e => (.failed e, d)

def write (data : Bytes) (grant : Grant) : FileReply × Descriptor :=
  match d.file.writeAt data d.writeStart grant with
  | .ok (n, file) => (.count n, ⟨file, d.writeStart + n⟩)
  | .error e => (.failed e, { d with cursor := d.writeStart })

variable {d} in
lemma write_of_ok {data : Bytes} {grant : Grant} {n : Nat} {file : File}
    (h : d.file.writeAt data d.writeStart grant = .ok (n, file)) :
    d.write data grant = (.count n, ⟨file, d.writeStart + n⟩) := by
  unfold write
  rw [h]

variable {d} in
lemma write_of_error {data : Bytes} {grant : Grant} {e : FileError}
    (h : d.file.writeAt data d.writeStart grant = .error e) :
    d.write data grant = (.failed e, { d with cursor := d.writeStart }) := by
  unfold write
  rw [h]

/-- A write moves the cursor to where it starts and on by what it counts. -/
lemma write_moves (data : Bytes) (grant : Grant) :
    ∃ n, (d.write data grant).2.cursor = d.writeStart + n ∧
      ((d.write data grant).1 = .count n ∨
        (∃ e, (d.write data grant).1 = .failed e) ∧ n = 0) := by
  rcases hwrite : d.file.writeAt data d.writeStart grant with e | ⟨n, file⟩
  · rw [write_of_error hwrite]
    exact ⟨0, rfl, Or.inr ⟨⟨e, rfl⟩, rfl⟩⟩
  · rw [write_of_ok hwrite]
    exact ⟨n, rfl, Or.inl rfl⟩

/-- A vectored write is one write of the concatenation. -/
def writeVectored (bufs : List Bytes) (grants : Nat → Grant) : FileReply × Descriptor :=
  if bufs.flatten = [] then (.count 0, { d with cursor := d.writeStart })
  else d.write bufs.flatten (gather (bufs.filter (· ≠ [])) grants)

lemma writeVectored_moves (bufs : List Bytes) (grants : Nat → Grant) :
    ∃ n, (d.writeVectored bufs grants).2.cursor = d.writeStart + n ∧
      ((d.writeVectored bufs grants).1 = .count n ∨
        (∃ e, (d.writeVectored bufs grants).1 = .failed e) ∧ n = 0) := by
  unfold writeVectored
  by_cases hnil : bufs.flatten = []
  · rw [if_pos hnil]
    exact ⟨0, rfl, Or.inl rfl⟩
  · rw [if_neg hnil]
    exact d.write_moves _ _

/-- A seek before the start, or past the last position, is refused. -/
def seek (position : SeekFrom) (grant : Grant) : FileReply × Descriptor :=
  let moveTo (target : Int) : FileReply × Descriptor :=
    if target < 0 ∨ target > maxPosition then (.failed .invalidInput, d)
    else (.done, { d with cursor := target.toNat })
  match position, grant with
  | .start offset, _ => moveTo offset
  | .current delta, _ => moveTo (d.cursor + delta)
  | .fromEnd _, .error e => (.failed e, d)
  | .fromEnd delta, .upTo _ => moveTo (d.file.size + delta)

def setLen (size : Nat) (grant : Grant) : FileReply × Descriptor :=
  match d.file.setLen size grant with
  | .ok file => (.done, { d with file := file })
  | .error e => (.failed e, d)

def step (call : FileCall) (grants : Nat → Grant) : FileReply × Descriptor :=
  match call with
  | .read len => d.read len (grants 0)
  | .write data => d.write data (grants 0)
  | .writeVectored bufs => d.writeVectored bufs grants
  | .seek position => d.seek position (grants 0)
  | .setLen size => d.setLen size (grants 0)

/-- The replies of a run, each with the descriptor behind it. -/
def run (d : Descriptor) : List (FileCall × (Nat → Grant)) → List (FileReply × Descriptor)
  | [] => []
  | (call, grants) :: calls => d.step call grants :: (d.step call grants).2.run calls

end Descriptor

end Lib
