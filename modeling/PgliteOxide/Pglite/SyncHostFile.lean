import PgliteOxide.Lib.PosixFile

/-!
# Host files

`SyncHostFile` keeps the position of a file by hand, and reads and writes with `pread` and
`pwrite`. The model is of Linux, where `pwrite` appends to a file that was opened for it.
-/

namespace PgliteOxide.Pglite

open Lib

structure OpenOptionsConfig where
  read : Bool
  write : Bool
  createNew : Bool
  create : Bool
  append : Bool
  truncate : Bool
deriving DecidableEq, Repr

/-- `fs::OpenOptions::open`, which refuses modes that make no sense. -/
def OpenOptionsConfig.openWith (conf : OpenOptionsConfig)
    (existing : Option { content : Bytes // content.length ≤ maxOffset }) (grant : Grant) :
    Except FileError File :=
  if conf.read = false ∧ conf.write = false ∧ conf.append = false then .error .invalidInput
  else if conf.write = false ∧ conf.append = false ∧
      (conf.truncate = true ∨ conf.create = true ∨ conf.createNew = true) then
    .error .invalidInput
  else if conf.append = true ∧ conf.truncate = true ∧ conf.createNew = false then
    .error .invalidInput
  else
    File.openFile ⟨conf.read, conf.write || conf.append, conf.append⟩
      (conf.create || conf.createNew) conf.createNew conf.truncate existing grant

/-- `u64::saturating_add`. -/
def saturatingAdd (a b : Nat) : Nat := min (a + b) maxPosition

structure SyncHostFile where
  file : File
  position : Nat
deriving DecidableEq, Repr

namespace SyncHostFile

/-- `SyncHostFileSystem::open`: truncation wins over appending. -/
def openFile (conf : OpenOptionsConfig)
    (existing : Option { content : Bytes // content.length ≤ maxOffset }) (grant : Grant) :
    Except FileError SyncHostFile := do
  let append := conf.append && !conf.truncate
  let file ← { conf with append := append }.openWith existing grant
  return ⟨file, 0⟩

variable (s : SyncHostFile)

def pollRead (len : Nat) (grant : Grant) : FileReply × SyncHostFile :=
  match s.file.readAt len s.position grant with
  | .ok data => (.bytes data, { s with position := saturatingAdd s.position data.length })
  | .error e => (.failed e, s)

def pollWrite (data : Bytes) (grant : Grant) : FileReply × SyncHostFile :=
  match s.file.pwrite data s.position grant with
  | .ok (written, file) => (.count written, ⟨file, saturatingAdd s.position written⟩)
  | .error e => (.failed e, s)

/-- The loop of `poll_write_vectored`. An error behind the first bytes is dropped. -/
def writeLoop (s : SyncHostFile) :
    List Bytes → (Nat → Grant) → Nat → FileReply × SyncHostFile
  | [], _, total => (.count total, s)
  | buf :: bufs, grants, total =>
    match s.file.pwrite buf s.position (grants 0) with
    | .ok (written, file) =>
      let s := ⟨file, saturatingAdd s.position written⟩
      if written ≠ buf.length then (.count (total + written), s)
      else s.writeLoop bufs (fun i => grants (i + 1)) (total + written)
    | .error e => if 0 < total then (.count total, s) else (.failed e, s)

def pollWriteVectored (bufs : List Bytes) (grants : Nat → Grant) : FileReply × SyncHostFile :=
  s.writeLoop (bufs.filter (· ≠ [])) grants 0

/-- The end of `start_seek`. -/
def seekTo (target : Int) : FileReply × SyncHostFile :=
  if target < 0 ∨ target > maxPosition then (.failed .invalidInput, s)
  else (.done, { s with position := target.toNat })

def startSeek (position : SeekFrom) (grant : Grant) : FileReply × SyncHostFile :=
  match position, grant with
  | .start offset, _ => s.seekTo offset
  | .current delta, _ => s.seekTo (s.position + delta)
  | .fromEnd _, .error e => (.failed e, s)
  | .fromEnd delta, .upTo _ => s.seekTo (s.file.size + delta)

def setLen (size : Nat) (grant : Grant) : FileReply × SyncHostFile :=
  match s.file.setLen size grant with
  | .ok file => (.done, { s with file := file })
  | .error e => (.failed e, s)

def step (call : FileCall) (grants : Nat → Grant) : FileReply × SyncHostFile :=
  match call with
  | .read len => s.pollRead len (grants 0)
  | .write data => s.pollWrite data (grants 0)
  | .writeVectored bufs => s.pollWriteVectored bufs grants
  | .seek position => s.startSeek position (grants 0)
  | .setLen size => s.setLen size (grants 0)

/-- The replies of a run, each with the file behind it. -/
def run (s : SyncHostFile) : List (FileCall × (Nat → Grant)) → List (FileReply × SyncHostFile)
  | [] => []
  | (call, grants) :: calls => s.step call grants :: (s.step call grants).2.run calls

/-! ## The reference -/

/-- The descriptor with the same file and the cursor where the position is. -/
def descriptor : Descriptor := ⟨s.file, s.position⟩

/-- The descriptor that `openFile` is to give: at the start of the content, or of an empty one. -/
def opened (conf : OpenOptionsConfig)
    (existing : Option { content : Bytes // content.length ≤ maxOffset }) : Descriptor where
  file :=
    { mode := ⟨conf.read, conf.write || conf.append, conf.append && !conf.truncate⟩
      content := if conf.truncate then [] else (existing.map Subtype.val).getD []
      fits := by
        rcases existing with _ | ⟨content, hfits⟩ <;> split_ifs
        · decide
        · decide
        · decide
        · exact hfits }
  cursor := 0

/-- A write to a file opened for appending is made at its end. -/
def Ready (call : FileCall) : Prop :=
  call.isWrite = true → s.file.mode.append = true → s.position = s.file.size

/-- All writes of a run are. -/
def AppendsAtEnd (s : SyncHostFile) : List (FileCall × (Nat → Grant)) → Prop
  | [] => True
  | (call, grants) :: calls => s.Ready call ∧ (s.step call grants).2.AppendsAtEnd calls

/-! ## Positions -/

lemma saturatingAdd_eq {a b : Nat} (h : a + b ≤ maxPosition) : saturatingAdd a b = a + b :=
  Nat.min_eq_left h

lemma maxOffset_add : maxOffset + maxOffset ≤ maxPosition := by decide

variable {s : SyncHostFile}

lemma pollRead_descriptor (hpos : s.position ≤ maxPosition) (len : Nat) (grant : Grant) :
    (s.pollRead len grant).map id descriptor = s.descriptor.read len grant := by
  unfold pollRead Descriptor.read descriptor
  dsimp only
  rcases hread : s.file.readAt len s.position grant with e | data
  · rfl
  · have hsum : s.position + data.length ≤ maxPosition := by
      rcases grant with e | n
      · cases hread
      · unfold File.readAt at hread
        dsimp only at hread
        split_ifs at hread with hoffset
        have hdata := Except.ok.inj hread
        have hfits := s.file.fits
        have hmax := maxOffset_add
        rw [← hdata, List.length_take, List.length_drop]
        omega
    dsimp only
    rw [saturatingAdd_eq hsum]
    rfl

lemma startSeek_descriptor (position : SeekFrom) (grant : Grant) :
    (s.startSeek position grant).map id descriptor = s.descriptor.seek position grant := by
  have hseek : ∀ target, (s.seekTo target).map id descriptor
      = if target < 0 ∨ target > maxPosition then (.failed .invalidInput, s.descriptor)
        else (.done, { s.descriptor with cursor := target.toNat }) := by
    intro target
    unfold seekTo
    split_ifs <;> rfl
  rcases position with offset | delta | delta
  · exact hseek offset
  · exact hseek (s.position + delta)
  · rcases grant with e | n
    · rfl
    · exact hseek (s.file.size + delta)

lemma setLen_descriptor (size : Nat) (grant : Grant) :
    (s.setLen size grant).map id descriptor = s.descriptor.setLen size grant := by
  unfold setLen Descriptor.setLen descriptor
  dsimp only
  rcases s.file.setLen size grant with e | file <;> rfl

/-! ## Writes -/

/-- What a write does to a file: it puts `data` at the start, and nothing else. -/
def Wrote (s : SyncHostFile) (data : Bytes) (t : SyncHostFile) : Prop :=
  t.file.mode = s.file.mode ∧
  t.file.content = overlay s.file.content s.descriptor.writeStart data ∧
  t.position = s.position + data.length

lemma pwrite_eq {offset : Nat} (hoffset : offset ≤ maxOffset) (buf : Bytes) (n : Nat) :
    s.file.pwrite buf offset (.upTo n) = s.file.writeAt buf
      (if s.file.mode.append then s.file.size else offset) (.upTo n) :=
  if_neg (by omega)

/-- A `pwrite` writes what it reports. -/
lemma pwrite_wrote {buf : Bytes} {grant : Grant} {written : Nat} {file : File}
    (h : s.file.pwrite buf s.position grant = .ok (written, file)) :
    written ≤ buf.length ∧
      s.Wrote (buf.take written) ⟨file, saturatingAdd s.position written⟩ := by
  rcases grant with e | n
  · cases h
  · have hoffset : s.position ≤ maxOffset := by
      by_contra hlt
      unfold File.pwrite at h
      dsimp only at h
      rw [if_pos (by omega)] at h
      cases h
    rw [pwrite_eq hoffset] at h
    obtain ⟨hstart, -, hcount, hmode, hcontent⟩ := s.file.writeAt_ok h
    have hle := File.writeCount_le n buf.length
      (if s.file.mode.append then s.file.size else s.position)
    have hroom : written ≤ maxOffset := by
      rw [hcount]
      unfold File.writeCount
      omega
    have hmax := maxOffset_add
    rw [← hcount] at hle
    refine ⟨hle, hmode, hcontent, ?_⟩
    show saturatingAdd s.position written = _
    rw [saturatingAdd_eq (by omega), List.length_take, Nat.min_eq_left hle]

/-- Where the next write of the loop goes to. -/
lemma Wrote.writeStart {data : Bytes} {t : SyncHostFile} (h : s.Wrote data t) :
    t.descriptor.writeStart = s.descriptor.writeStart + data.length := by
  unfold Descriptor.writeStart descriptor
  dsimp only
  rw [h.1, h.2.2]
  by_cases happend : s.file.mode.append = true
  · rw [if_pos happend, if_pos happend]
    have hcontent := h.2.1
    unfold Descriptor.writeStart descriptor at hcontent
    dsimp only at hcontent
    rw [if_pos happend] at hcontent
    unfold File.size
    rw [hcontent]
    exact length_overlay_end s.file.content data
  · rw [if_neg happend, if_neg happend]

lemma Wrote.trans {a b : Bytes} {t u : SyncHostFile} (h : s.Wrote a t) (h' : t.Wrote b u) :
    s.Wrote (a ++ b) u := by
  refine ⟨h'.1.trans h.1, ?_, ?_⟩
  · rw [h'.2.1, h.writeStart, h.2.1]
    exact overlay_overlay s.file.content s.descriptor.writeStart a b
  · rw [h'.2.2, h.2.2, List.length_append, Nat.add_assoc]

lemma Wrote.refl (s : SyncHostFile) : s.Wrote [] s := ⟨rfl, (overlay_nil _ _).symm, rfl⟩

/-- The loop writes a prefix of the buffers. It fails only if nothing was written at all. -/
lemma writeLoop_wrote (bufs : List Bytes) (grants : Nat → Grant) (total : Nat) :
    ∃ n, n ≤ bufs.flatten.length ∧
      s.Wrote (bufs.flatten.take n) (s.writeLoop bufs grants total).2 ∧
      ((s.writeLoop bufs grants total).1 = .count (total + n) ∨
        (∃ e, (s.writeLoop bufs grants total).1 = .failed e) ∧ n = 0 ∧ total = 0) := by
  induction bufs generalizing s grants total with
  | nil => exact ⟨0, Nat.le_refl 0, Wrote.refl s, Or.inl rfl⟩
  | cons buf bufs ih =>
    unfold writeLoop
    rcases hwrite : s.file.pwrite buf s.position (grants 0) with e | ⟨written, file⟩
    · dsimp only
      refine ⟨0, Nat.zero_le _, ?_⟩
      rw [List.take_zero]
      by_cases htotal : 0 < total
      · rw [if_pos htotal]
        exact ⟨Wrote.refl s, Or.inl rfl⟩
      · rw [if_neg htotal]
        exact ⟨Wrote.refl s, Or.inr ⟨⟨e, rfl⟩, rfl, by omega⟩⟩
    · obtain ⟨hle, hwrote⟩ := pwrite_wrote hwrite
      dsimp only
      by_cases hshort : written ≠ buf.length
      · rw [if_pos hshort]
        refine ⟨written, ?_, ?_, Or.inl rfl⟩
        · rw [List.flatten_cons, List.length_append]
          omega
        · rw [List.flatten_cons, List.take_append_of_le_length hle]
          exact hwrote
      · rw [if_neg hshort]
        rw [not_not] at hshort
        rw [hshort, List.take_length] at hwrote
        obtain ⟨n, hn, hrest, hreply⟩ :=
          @ih ⟨file, saturatingAdd s.position buf.length⟩ (fun i => grants (i + 1))
            (total + buf.length)
        rw [hshort]
        refine ⟨buf.length + n, ?_, ?_, ?_⟩
        · rw [List.flatten_cons, List.length_append]
          omega
        · rw [List.flatten_cons, List.take_length_add_append]
          exact hwrote.trans hrest
        · rcases hreply with hcount | ⟨hfailed, hzero, hnone⟩
          · left
            rw [hcount, Nat.add_assoc]
          · right
            exact ⟨hfailed, by omega, by omega⟩

/-! ## Writes at the end -/

/-- At the end of an appended file the loop reports what the system grants. -/
lemma writeLoop_granted {bufs : List Bytes} (hbufs : ∀ buf ∈ bufs, buf ≠ [])
    (hend : s.descriptor.writeStart = s.position) (hoffset : s.position ≤ maxOffset)
    (hwritable : s.file.mode.writable = true) {grants : Nat → Grant} {total : Nat}
    (herror : ∀ e, grants 0 = .error e → 0 < total) :
    (s.writeLoop bufs grants total).1
      = .count (total + min (grantedBytes bufs grants) (maxOffset - s.position)) := by
  induction bufs generalizing s grants total with
  | nil =>
    show FileReply.count total = .count (total + min 0 _)
    rw [Nat.zero_min, Nat.add_zero]
  | cons buf bufs ih =>
    unfold writeLoop grantedBytes
    rcases hgrant : grants 0 with e | n
    · show (if 0 < total then (FileReply.count total, s) else _).1
        = .count (total + min 0 _)
      rw [if_pos (herror e hgrant), Nat.zero_min, Nat.add_zero]
    · have hstart : (if s.file.mode.append then s.file.size else s.position) = s.position := hend
      obtain ⟨file, hfile⟩ := s.file.exists_writeAt hoffset hwritable buf n
      have hwrite : s.file.pwrite buf s.position (.upTo n)
          = .ok (File.writeCount n buf.length s.position, file) := by
        rw [pwrite_eq hoffset, hstart, hfile]
      rw [hwrite]
      dsimp only
      by_cases hshort : File.writeCount n buf.length s.position ≠ buf.length
      · rw [if_pos hshort]
        dsimp only
        congr 2
        unfold File.writeCount at hshort ⊢
        split_ifs <;> omega
      · rw [if_neg hshort]
        rw [not_not] at hshort
        obtain ⟨-, hwrote⟩ := pwrite_wrote hwrite
        rw [hshort] at hwrote ⊢
        rw [List.take_length] at hwrote
        have hnext := hwrote.2.2
        have hroom : buf.length ≤ n ∧ buf.length ≤ maxOffset - s.position := by
          unfold File.writeCount at hshort
          omega
        have hpos : 0 < buf.length :=
          List.length_pos_iff.mpr (hbufs buf List.mem_cons_self)
        rw [ih (fun b hb => hbufs b (List.mem_cons_of_mem buf hb))
          (by rw [hwrote.writeStart, hend, hnext]) (by rw [hnext]; omega)
          (by rw [hwrote.1]; exact hwritable) (fun e _ => by omega), hnext,
          if_neg (by omega)]
        congr 1
        omega

/-- At the end of an appended file a positional write is a write of the descriptor. -/
lemma pwrite_eq_writeAt (hend : s.descriptor.writeStart = s.position) (data : Bytes)
    (grant : Grant) :
    s.file.pwrite data s.position grant
      = s.descriptor.file.writeAt data s.descriptor.writeStart grant := by
  have hstart : (if s.file.mode.append then s.file.size else s.position) = s.position := hend
  rcases grant with e | n
  · rfl
  · by_cases hoffset : s.position ≤ maxOffset
    · exact pwrite_eq hoffset data n
    · rw [hend]
      unfold File.pwrite File.writeAt
      dsimp only
      rw [if_pos (by omega), dif_pos (by omega)]

lemma pollWrite_descriptor (hend : s.descriptor.writeStart = s.position) (data : Bytes)
    (grant : Grant) :
    (s.pollWrite data grant).map id descriptor = s.descriptor.write data grant := by
  have hsame := pwrite_eq_writeAt hend data grant
  rcases hwrite : s.descriptor.file.writeAt data s.descriptor.writeStart grant
    with e | ⟨written, file⟩
  · rw [Descriptor.write_of_error hwrite, hend]
    rw [hwrite] at hsame
    unfold pollWrite
    rw [hsame]
    rfl
  · rw [Descriptor.write_of_ok hwrite, hend]
    rw [hwrite] at hsame
    obtain ⟨hle, -, -, hposition⟩ := pwrite_wrote hsame
    unfold pollWrite
    rw [hsame]
    show (FileReply.count written, (⟨file, saturatingAdd s.position written⟩ : Descriptor)) = _
    change saturatingAdd s.position written = _ at hposition
    rw [hposition, List.length_take, Nat.min_eq_left hle]

/-- A vectored write fails as its first buffer does. -/
lemma writeLoop_error {buf : Bytes} {bufs : List Bytes} {grants : Nat → Grant} {e : FileError}
    (h : s.file.pwrite buf s.position (grants 0) = .error e) :
    s.writeLoop (buf :: bufs) grants 0 = (.failed e, s) := by
  unfold writeLoop
  rw [h]
  rfl

lemma grantedBytes_le (bufs : List Bytes) (grants : Nat → Grant) :
    grantedBytes bufs grants ≤ bufs.flatten.length := by
  induction bufs generalizing grants with
  | nil => exact Nat.le_refl 0
  | cons buf bufs ih =>
    unfold grantedBytes
    rw [List.flatten_cons, List.length_append]
    have hrest := ih fun i => grants (i + 1)
    rcases grants 0 with e | n
    · exact Nat.zero_le _
    · dsimp only
      split_ifs <;> omega

/-- The buffers that are skipped have no bytes. -/
lemma flatten_filter (bufs : List Bytes) : (bufs.filter (· ≠ [])).flatten = bufs.flatten := by
  induction bufs with
  | nil => rfl
  | cons buf bufs ih =>
    by_cases hnil : buf = []
    · rw [List.filter_cons_of_neg (by simp [hnil]), ih, hnil]
      rfl
    · rw [List.filter_cons_of_pos (by simpa using hnil), List.flatten_cons, ih]
      rfl

/-- A vectored write that the system refuses is refused by the loop. -/
lemma writeLoop_refused {buf : Bytes} {bufs : List Bytes} {grants : Nat → Grant} {e : FileError}
    (hend : s.descriptor.writeStart = s.position)
    (h : s.file.pwrite buf s.position (grants 0) = .error e)
    (h' : s.file.writeAt (buf :: bufs).flatten s.position (gather (buf :: bufs) grants)
      = .error e) :
    (s.writeLoop (buf :: bufs) grants 0).map id descriptor
      = s.descriptor.write (buf :: bufs).flatten (gather (buf :: bufs) grants) := by
  rw [← hend] at h'
  rw [writeLoop_error h, Descriptor.write_of_error h', hend]
  rfl

/-- One that is granted is what the loop writes. -/
lemma writeLoop_done {bufs : List Bytes} {n : Nat} {grants : Nat → Grant}
    (hbufs : ∀ buf ∈ bufs, buf ≠ []) (hgrant : grants 0 = .upTo n)
    (hend : s.descriptor.writeStart = s.position) (hoffset : s.position ≤ maxOffset)
    (hwritable : s.file.mode.writable = true) :
    (s.writeLoop bufs grants 0).map id descriptor
      = s.descriptor.write bufs.flatten (gather bufs grants) := by
  have hgather : gather bufs grants = .upTo (grantedBytes bufs grants) := by
    unfold gather
    rw [hgrant]
  obtain ⟨file, hfile⟩ := s.file.exists_writeAt hoffset hwritable bufs.flatten
    (grantedBytes bufs grants)
  obtain ⟨-, -, -, hmode, hcontent⟩ := s.file.writeAt_ok hfile
  rw [← hgather, ← hend] at hfile
  rw [Descriptor.write_of_ok hfile]
  have herror : ∀ e, grants 0 = .error e → 0 < 0 := by
    intro e he
    rw [hgrant] at he
    cases he
  have hreply := writeLoop_granted hbufs hend hoffset hwritable herror
  obtain ⟨count, hcount, hwrote, hsame⟩ := writeLoop_wrote (s := s) bufs grants 0
  have hle := grantedBytes_le bufs grants
  have hwritten : count = File.writeCount (grantedBytes bufs grants) bufs.flatten.length
      s.position := by
    unfold File.writeCount
    rcases hsame with hsame | ⟨⟨e, hsame⟩, -⟩
    · rw [hreply] at hsame
      have heq := FileReply.count.inj hsame
      omega
    · rw [hreply] at hsame
      cases hsame
  rw [← hwritten, ← hend] at hcontent
  rw [hend, ← hwritten]
  have hstate : (s.writeLoop bufs grants 0).2.descriptor = ⟨file, s.position + count⟩ := by
    have hfiles : (s.writeLoop bufs grants 0).2.file = file :=
      File.ext (hwrote.1.trans hmode.symm) (hwrote.2.1.trans hcontent.symm)
    unfold descriptor
    rw [hfiles, hwrote.2.2, List.length_take, Nat.min_eq_left hcount]
  have hcounted : (s.writeLoop bufs grants 0).1 = .count count := by
    rw [hreply, hwritten]
    unfold File.writeCount
    congr 1
    omega
  exact Prod.ext hcounted hstate

lemma pollWriteVectored_descriptor (hend : s.descriptor.writeStart = s.position)
    (bufs : List Bytes) (grants : Nat → Grant) :
    (s.pollWriteVectored bufs grants).map id descriptor
      = s.descriptor.writeVectored bufs grants := by
  unfold pollWriteVectored Descriptor.writeVectored
  rw [← flatten_filter bufs]
  have hnonempty : ∀ buf ∈ bufs.filter (· ≠ []), buf ≠ [] := by
    intro buf hbuf
    simpa using (List.mem_filter.mp hbuf).2
  rcases hbufs : bufs.filter (· ≠ []) with _ | ⟨buf, rest⟩
  · rw [if_pos List.flatten_nil, hend]
    rfl
  rw [hbufs] at hnonempty
  have hbuf : buf ≠ [] := hnonempty buf List.mem_cons_self
  rw [if_neg (by simp [hbuf])]
  rcases hgrant : grants 0 with e | n
  · have hgather : gather (buf :: rest) grants = .error e := by
      unfold gather
      rw [hgrant]
    exact writeLoop_refused hend (by rw [hgrant]; rfl) (by rw [hgather]; rfl)
  · have hgather : gather (buf :: rest) grants
        = .upTo (grantedBytes (buf :: rest) grants) := by
      unfold gather
      rw [hgrant]
    by_cases hoffset : s.position ≤ maxOffset
    · by_cases hwritable : s.file.mode.writable = true
      · exact writeLoop_done hnonempty hgrant hend hoffset hwritable
      · have hrefused : ∀ data m, s.file.writeAt data s.position (.upTo m)
            = .error .badDescriptor := by
          intro data m
          unfold File.writeAt
          dsimp only
          rw [dif_neg (by omega), if_pos (by simpa using hwritable)]
        refine writeLoop_refused hend ?_ (by rw [hgather, hrefused])
        rw [pwrite_eq_writeAt hend, hend, hgrant]
        exact hrefused buf n
    · refine writeLoop_refused (e := .invalidInput) hend ?_ ?_
      · rw [hgrant]
        exact if_pos (by omega)
      · rw [hgather]
        exact dif_pos (by omega)

/-! ## Runs -/

lemma writeStart_eq_iff :
    s.descriptor.writeStart = s.position ↔
      (s.file.mode.append = true → s.position = s.file.size) := by
  unfold Descriptor.writeStart descriptor
  dsimp only
  by_cases happend : s.file.mode.append = true
  · rw [if_pos happend]
    exact ⟨fun h _ => h.symm, fun h => (h happend).symm⟩
  · rw [if_neg happend]
    exact ⟨fun _ h => absurd h happend, fun _ => rfl⟩

lemma writeLoop_position_le (hpos : s.position ≤ maxPosition) (bufs : List Bytes)
    (grants : Nat → Grant) (total : Nat) :
    (s.writeLoop bufs grants total).2.position ≤ maxPosition := by
  induction bufs generalizing s grants total with
  | nil => exact hpos
  | cons buf bufs ih =>
    unfold writeLoop
    rcases s.file.pwrite buf s.position (grants 0) with e | ⟨written, file⟩
    · dsimp only
      split_ifs <;> exact hpos
    · have hle : saturatingAdd s.position written ≤ maxPosition := Nat.min_le_right _ _
      dsimp only
      split_ifs
      · exact hle
      · exact ih hle _ _

lemma seekTo_position_le (hpos : s.position ≤ maxPosition) (target : Int) :
    (s.seekTo target).2.position ≤ maxPosition := by
  unfold seekTo
  split_ifs with hrange
  · exact hpos
  · dsimp only
    omega

/-- One write is a loop over one buffer. -/
lemma pollWrite_eq_writeLoop (data : Bytes) (grants : Nat → Grant) :
    s.pollWrite data (grants 0) = s.writeLoop [data] grants 0 := by
  unfold pollWrite writeLoop
  rcases s.file.pwrite data s.position (grants 0) with e | ⟨written, file⟩
  · rfl
  · dsimp only
    rw [Nat.zero_add]
    split_ifs <;> rfl

lemma step_position_le (hpos : s.position ≤ maxPosition) (call : FileCall)
    (grants : Nat → Grant) : (s.step call grants).2.position ≤ maxPosition := by
  rcases call with len | data | bufs | position | size
  · show (s.pollRead len (grants 0)).2.position ≤ maxPosition
    unfold pollRead
    rcases s.file.readAt len s.position (grants 0) with e | data
    · exact hpos
    · exact Nat.min_le_right _ _
  · show (s.pollWrite data (grants 0)).2.position ≤ maxPosition
    rw [pollWrite_eq_writeLoop]
    exact writeLoop_position_le hpos _ _ _
  · exact writeLoop_position_le hpos _ _ _
  · rcases position with offset | delta | delta
    · exact seekTo_position_le hpos _
    · exact seekTo_position_le hpos _
    · show (s.startSeek (.fromEnd delta) (grants 0)).2.position ≤ maxPosition
      rcases grants 0 with e | n
      · exact hpos
      · exact seekTo_position_le hpos _
  · show (s.setLen size (grants 0)).2.position ≤ maxPosition
    unfold setLen
    rcases s.file.setLen size (grants 0) with e | file <;> exact hpos

/-- A call that is ready does what the descriptor does. -/
lemma step_descriptor (hpos : s.position ≤ maxPosition) {call : FileCall} (hready : s.Ready call)
    (grants : Nat → Grant) :
    (s.step call grants).map id descriptor = s.descriptor.step call grants := by
  rcases call with len | data | bufs | position | size
  · exact pollRead_descriptor hpos len (grants 0)
  · exact pollWrite_descriptor (writeStart_eq_iff.mpr (hready rfl)) data (grants 0)
  · exact pollWriteVectored_descriptor (writeStart_eq_iff.mpr (hready rfl)) bufs grants
  · exact startSeek_descriptor position (grants 0)
  · exact setLen_descriptor size (grants 0)

/-- Two writes that count the same and end at the same place have started at the same place. -/
lemma start_unique {reply : FileReply} {a b m n : Nat}
    (hm : reply = .count m ∨ (∃ e, reply = .failed e) ∧ m = 0)
    (hn : reply = .count n ∨ (∃ e, reply = .failed e) ∧ n = 0) (h : a + m = b + n) : a = b := by
  rcases hm with hm | ⟨⟨e, hm⟩, hzero⟩
  · rcases hn with hn | ⟨⟨e', hn⟩, -⟩
    · have heq := FileReply.count.inj (hm.symm.trans hn)
      omega
    · cases hm.symm.trans hn
  · rcases hn with hn | ⟨-, hzero'⟩
    · cases hm.symm.trans hn
    · omega

lemma writeLoop_moves (bufs : List Bytes) (grants : Nat → Grant) :
    ∃ n, (s.writeLoop bufs grants 0).2.position = s.position + n ∧
      ((s.writeLoop bufs grants 0).1 = .count n ∨
        (∃ e, (s.writeLoop bufs grants 0).1 = .failed e) ∧ n = 0) := by
  obtain ⟨n, hn, hwrote, hreply⟩ := writeLoop_wrote (s := s) bufs grants 0
  refine ⟨n, ?_, ?_⟩
  · rw [hwrote.2.2, List.length_take, Nat.min_eq_left hn]
  · rw [Nat.zero_add] at hreply
    rcases hreply with hcount | ⟨hfailed, hzero, -⟩
    · exact Or.inl hcount
    · exact Or.inr ⟨hfailed, hzero⟩

/-- A call that does what the descriptor does was ready. -/
lemma ready_of_step {call : FileCall} {grants : Nat → Grant}
    (h : (s.step call grants).map id descriptor = s.descriptor.step call grants) :
    s.Ready call := by
  intro hwrite
  rw [← writeStart_eq_iff]
  have hreply := congrArg Prod.fst h
  have hcursor := congrArg (fun p => p.2.cursor) h
  rcases call with len | data | bufs | position | size
  · cases hwrite
  · change (s.pollWrite data (grants 0)).1 = (s.descriptor.write data (grants 0)).1 at hreply
    change (s.pollWrite data (grants 0)).2.position
      = (s.descriptor.write data (grants 0)).2.cursor at hcursor
    rw [pollWrite_eq_writeLoop] at hreply hcursor
    obtain ⟨m, hposition, hm⟩ := writeLoop_moves (s := s) [data] grants
    obtain ⟨n, hmoved, hn⟩ := s.descriptor.write_moves data (grants 0)
    rw [hreply] at hm
    exact (start_unique hm hn (by rw [← hposition, hcursor, hmoved])).symm
  · change (s.pollWriteVectored bufs grants).1
      = (s.descriptor.writeVectored bufs grants).1 at hreply
    change (s.pollWriteVectored bufs grants).2.position
      = (s.descriptor.writeVectored bufs grants).2.cursor at hcursor
    unfold pollWriteVectored at hreply hcursor
    obtain ⟨m, hposition, hm⟩ := writeLoop_moves (s := s) (bufs.filter (· ≠ [])) grants
    obtain ⟨n, hmoved, hn⟩ := s.descriptor.writeVectored_moves bufs grants
    rw [hreply] at hm
    exact (start_unique hm hn (by rw [← hposition, hcursor, hmoved])).symm
  · cases hwrite
  · cases hwrite

/-- A run does what the descriptor does exactly when it appends at the end only. -/
lemma run_descriptor_iff (hpos : s.position ≤ maxPosition)
    (calls : List (FileCall × (Nat → Grant))) :
    (s.run calls).map (Prod.map id descriptor) = s.descriptor.run calls ↔
      s.AppendsAtEnd calls := by
  induction calls generalizing s with
  | nil => exact ⟨fun _ => trivial, fun _ => rfl⟩
  | cons next calls ih =>
    obtain ⟨call, grants⟩ := next
    have hrest := ih (step_position_le hpos call grants)
    show (s.step call grants).map id descriptor
        :: ((s.step call grants).2.run calls).map (Prod.map id descriptor)
      = s.descriptor.step call grants :: (s.descriptor.step call grants).2.run calls ↔
        s.Ready call ∧ (s.step call grants).2.AppendsAtEnd calls
    rw [List.cons.injEq, ← hrest]
    constructor
    · intro h
      refine ⟨ready_of_step h.1, ?_⟩
      rw [h.2, ← h.1]
      rfl
    · intro h
      have hstep := step_descriptor hpos h.1 grants
      refine ⟨hstep, ?_⟩
      rw [h.2, ← hstep]
      rfl

/-- `openFile` gives the descriptor it is to give. -/
lemma openFile_descriptor {conf : OpenOptionsConfig}
    {existing : Option { content : Bytes // content.length ≤ maxOffset }} {grant : Grant}
    (h : openFile conf existing grant = .ok s) : s.descriptor = opened conf existing := by
  unfold openFile at h
  dsimp only at h
  rcases hfile : { conf with append := conf.append && !conf.truncate }.openWith existing grant
    with e | file
  · rw [hfile] at h
    cases h
  · rw [hfile] at h
    rw [← Except.ok.inj h]
    unfold OpenOptionsConfig.openWith at hfile
    dsimp only at hfile
    split_ifs at hfile
    obtain ⟨hmode, hcontent⟩ := File.openFile_ok hfile
    have hopened : file = (opened conf existing).file := by
      apply File.ext
      · rw [hmode]
        unfold opened
        congr 1
        -- truncation needs the write flag
        rcases conf with ⟨_, write, _, _, append, truncate⟩
        cases write <;> cases append <;> cases truncate <;> simp_all
      · exact hcontent
    unfold descriptor
    dsimp only
    rw [hopened]
    rfl

/-- **Host files are descriptors, if appends are made at the end.** From the descriptor that
`open` is to give, the replies, contents and positions of a run are those of the descriptor
exactly when every write of a file opened for appending is made at the end of the file. A
vectored write always puts a prefix of the concatenated buffers, and reports its length. -/
theorem refines_descriptor_iff {conf : OpenOptionsConfig}
    {existing : Option { content : Bytes // content.length ≤ maxOffset }} {grant : Grant}
    (hopen : openFile conf existing grant = .ok s)
    (calls : List (FileCall × (Nat → Grant))) :
    s.descriptor = opened conf existing ∧
    ((s.run calls).map (Prod.map id descriptor) = (opened conf existing).run calls ↔
      s.AppendsAtEnd calls) ∧
    ∀ (t : SyncHostFile) (bufs : List Bytes) (grants : Nat → Grant),
      ∃ n, n ≤ bufs.flatten.length ∧
        t.Wrote (bufs.flatten.take n) (t.pollWriteVectored bufs grants).2 ∧
        ((t.pollWriteVectored bufs grants).1 = .count n ∨
          (∃ e, (t.pollWriteVectored bufs grants).1 = .failed e) ∧ n = 0) := by
  have hdescriptor := openFile_descriptor hopen
  have hcursor : s.position = 0 := congrArg Descriptor.cursor hdescriptor
  refine ⟨hdescriptor, ?_, ?_⟩
  · rw [← hdescriptor]
    exact run_descriptor_iff (by omega) calls
  · intro t bufs grants
    obtain ⟨n, hn, hwrote, hreply⟩ := writeLoop_wrote (s := t) (bufs.filter (· ≠ [])) grants 0
    rw [flatten_filter] at hn hwrote
    rw [Nat.zero_add] at hreply
    refine ⟨n, hn, hwrote, ?_⟩
    rcases hreply with hcount | ⟨hfailed, hzero, -⟩
    · exact Or.inl hcount
    · exact Or.inr ⟨hfailed, hzero⟩

/-- A file for reading and writing, which is made if it is not there. -/
def readWrite : OpenOptionsConfig where
  read := true
  write := true
  createNew := false
  create := true
  append := false
  truncate := false

/-- A short vectored write, a seek back and a read. -/
def someCalls : List (FileCall × (Nat → Grant)) :=
  [(.writeVectored [[1, 2], [], [3, 4]], fun i => .upTo (2 - i)),
    (.seek (.current (-2)), fun _ => .upTo 0), (.read 8, fun _ => .upTo 8)]

theorem refines_descriptor_readWrite :
    ((⟨⟨⟨true, true, false⟩, [], by decide⟩, 0⟩ : SyncHostFile).run someCalls).map
      (Prod.map id descriptor) = (opened readWrite none).run someCalls := by
  have hopen : openFile readWrite none (.upTo 0)
      = .ok ⟨⟨⟨true, true, false⟩, [], by decide⟩, 0⟩ := rfl
  apply (refines_descriptor_iff hopen someCalls).2.1.mpr
  refine ⟨?_, ?_, ?_, trivial⟩ <;> exact fun _ h => absurd h (by decide)

/-- An appending write at the front of the file leaves the position behind its own bytes. -/
theorem append_position :
    ∃ s, openFile { readWrite with append := true } (some ⟨[1, 2], by decide⟩) (.upTo 0) = .ok s ∧
      (s.run [(.write [3], fun _ => .upTo 1)]).map (Prod.map id descriptor)
        ≠ (opened { readWrite with append := true } (some ⟨[1, 2], by decide⟩)).run
          [(.write [3], fun _ => .upTo 1)] :=
  ⟨_, rfl, by decide⟩

end SyncHostFile

end PgliteOxide.Pglite
