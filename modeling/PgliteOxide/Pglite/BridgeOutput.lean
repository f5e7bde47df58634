import PgliteOxide.Lib.WriteLoop
import PgliteOxide.Pglite.Bridge

/-!
# The output buffer of the bridge

`pgl_wasix_buffer_write` of `pglite_wasix_bridge.c` with its sizes, where `size_t` is 32 bits wide: a
capacity that is doubled until the payload fits, the copy, and the flush to standard output where a
stream was requested. A write is all or nothing exactly where `OutputBridge.Serves` says so
(`OutputBridge.allOrNothing_iff`): the sum of the lengths and the doubling must not wrap, and once
the payload is in the buffer nothing takes it out again.
-/

namespace PgliteOxide.Pglite

open Lib

/-! ## The code -/

/-- What `pgl_send` is called with: a pointer, which may be null, and how many bytes are there. -/
structure SendBuffer where
  bytes : Option Bytes
  length : UInt32
  covers : ∀ bs ∈ bytes, bs.length = length.toNat

/-- What the call gets from outside: whether `realloc` succeeds, and what `write` returns, call by
call. -/
structure WriteAnswers where
  allocated : Bool
  writes : ℕ → Int

/-- The bridge with the capacity of its output buffer, and the bytes standard output has taken. -/
structure OutputBridge where
  bridge : Bridge
  outputCap : UInt32
  stdout : Bytes
  fits : bridge.outputBuf.length ≤ outputCap.toNat

/-- How far a call of `pgl_wasix_buffer_write` gets: it is still in one of its loops, it copies behind
the end of the buffer, or it returns a length or an error. -/
inductive BufferWrite where
  | running
  | outOfBounds
  | returned (s : OutputBridge) (value : Int32)
  | failed (s : OutputBridge)

/-- `while (next_cap < required) next_cap *= 2`, for a number of rounds at most. -/
def doubleUntil (required : UInt32) : ℕ → UInt32 → Option UInt32
  | 0, _ => none
  | rounds + 1, nextCap =>
    if nextCap < required then doubleUntil required rounds (nextCap * 2) else some nextCap

namespace OutputBridge

/-- `pgl_wasix_output_len_value`. -/
def outputLen (s : OutputBridge) : UInt32 := UInt32.ofNat s.bridge.outputBuf.length

/-- The capacity the doubling starts from. -/
def firstCap (s : OutputBridge) : UInt32 := if s.outputCap ≠ 0 then s.outputCap else 8192

/-- `memcpy` behind what is buffered, in a buffer of the given capacity. -/
def store (s : OutputBridge) (cap : UInt32) (bytes : Bytes) : Option OutputBridge :=
  if h : s.bridge.outputBuf.length + bytes.length ≤ cap.toNat then
    some
      { bridge := s.bridge.bufferAppend bytes
        outputCap := cap
        stdout := s.stdout
        fits := by
          show (s.bridge.outputBuf ++ bytes).length ≤ cap.toNat
          rw [List.length_append]
          exact h }
  else none

/-- `pgl_wasix_flush_output_to_stdio`, where it succeeds, and what is set after it. -/
def streamOpened (s : OutputBridge) (stdout : Bytes) : OutputBridge :=
  { s with bridge := s.bridge.streamOpened, stdout := stdout, fits := Nat.zero_le _ }

/-- The end of `pgl_wasix_buffer_write`, with the payload in the buffer. -/
def finishWrite (s : OutputBridge) (length : UInt32) (writes : ℕ → Int) (rounds : ℕ) :
    BufferWrite :=
  if s.bridge.opensStream then
    match writeLoop writes s.bridge.outputBuf rounds 0 s.stdout with
    | none => .running
    | some (stdout, true) => .returned (s.streamOpened stdout) length.toInt32
    | some (stdout, false) => .failed { s with stdout := stdout }
  else .returned s length.toInt32

/-- `pgl_wasix_buffer_write` from the copy on. -/
def copyIn (s : OutputBridge) (cap : UInt32) (bytes : Bytes) (length : UInt32)
    (writes : ℕ → Int) (rounds : ℕ) : BufferWrite :=
  match s.store cap bytes with
  | none => .outOfBounds
  | some s => s.finishWrite length writes rounds

/-- `pgl_wasix_buffer_write`. Its two loops run for a number of rounds at most. -/
def bufferWrite (s : OutputBridge) (buffer : SendBuffer) (answers : WriteAnswers)
    (doublings rounds : ℕ) : BufferWrite :=
  if buffer.length = 0 then .returned s 0
  else
    match buffer.bytes with
    | none => .failed s
    | some bytes =>
      let required := s.outputLen + buffer.length
      if required > s.outputCap then
        match doubleUntil required doublings s.firstCap with
        | none => .running
        | some nextCap =>
          if answers.allocated then s.copyIn nextCap bytes buffer.length answers.writes rounds
          else .failed s
      else s.copyIn s.outputCap bytes buffer.length answers.writes rounds

/-! ## All or nothing -/

/-- The payload of a call. -/
def payload (buffer : SendBuffer) : Bytes := buffer.bytes.getD []

/-- A payload is taken once: into the buffer, or with it to standard output. -/
def Taken (s s' : OutputBridge) (payload : Bytes) : Prop :=
  (s'.bridge.outputBuf = s.bridge.outputBuf ++ payload ∧ s'.stdout = s.stdout) ∨
    (s'.bridge.outputBuf = [] ∧ s'.stdout = s.stdout ++ (s.bridge.outputBuf ++ payload))

/-- The call ends, inside the buffer, with the payload taken once and its length returned, or with
an error and nothing changed. -/
def AllOrNothing (s : OutputBridge) (buffer : SendBuffer) (answers : WriteAnswers) : Prop :=
  ∃ doublings rounds,
    (∃ s' value, s.bufferWrite buffer answers doublings rounds = .returned s' value ∧
      value.toInt = buffer.length.toNat ∧ s.Taken s' (payload buffer)) ∨
    (∃ s', s.bufferWrite buffer answers doublings rounds = .failed s' ∧
      s'.bridge.outputBuf = s.bridge.outputBuf ∧ s'.stdout = s.stdout)

/-- The bytes that have to fit. -/
def sum (s : OutputBridge) (buffer : SendBuffer) : ℕ :=
  s.bridge.outputBuf.length + buffer.length.toNat

/-- The doubling comes to a capacity of `n` bytes, modulo the width of `size_t`. -/
def Doubles (s : OutputBridge) (n : ℕ) : Prop := ∃ k, n ≤ s.firstCap.toNat * 2 ^ k % 2 ^ 32

/-- There is nothing to write; or the sizes do not wrap, and `realloc` fails, or the length is one
`ssize_t` has and a requested stream takes everything. -/
def Serves (s : OutputBridge) (buffer : SendBuffer) (answers : WriteAnswers) : Prop :=
  buffer.length = 0 ∨ buffer.bytes = none ∨
    (s.sum buffer < 2 ^ 32 ∧
      (s.sum buffer ≤ s.outputCap.toNat ∨ s.Doubles (s.sum buffer)) ∧
      ((s.outputCap.toNat < s.sum buffer ∧ answers.allocated = false) ∨
        (buffer.length.toNat < 2 ^ 31 ∧
          (s.bridge.opensStream = true → TakesAll answers.writes (s.sum buffer)))))

/-! ## Sizes -/

variable {s : OutputBridge} {buffer : SendBuffer} {answers : WriteAnswers}

lemma outputBuf_lt (s : OutputBridge) : s.bridge.outputBuf.length < 2 ^ 32 :=
  Nat.lt_of_le_of_lt s.fits s.outputCap.toNat_lt

lemma toNat_outputLen (s : OutputBridge) : s.outputLen.toNat = s.bridge.outputBuf.length := by
  unfold outputLen
  rw [UInt32.toNat_ofNat']
  exact Nat.mod_eq_of_lt s.outputBuf_lt

/-- The sum the code computes. -/
lemma toNat_required (s : OutputBridge) (buffer : SendBuffer) :
    (s.outputLen + buffer.length).toNat = s.sum buffer % 2 ^ 32 := by
  rw [UInt32.toNat_add, toNat_outputLen]
  rfl

/-- A sum that wraps is less than what is buffered, so that the buffer does not grow. -/
lemma sum_lt_of_grows (h : s.outputLen + buffer.length > s.outputCap) : s.sum buffer < 2 ^ 32 := by
  have hlt : s.outputCap.toNat < (s.outputLen + buffer.length).toNat := UInt32.lt_iff_toNat_lt.mp h
  rw [toNat_required] at hlt
  have hfits := s.fits
  have hlength := buffer.length.toNat_lt
  unfold sum at hlt ⊢
  by_contra hge
  have hwrap : (s.bridge.outputBuf.length + buffer.length.toNat) % 2 ^ 32
      = s.bridge.outputBuf.length + buffer.length.toNat - 2 ^ 32 := by
    rw [Nat.mod_eq_sub_mod (by omega), Nat.mod_eq_of_lt (by omega)]
  omega

/-- A capacity after some doublings. -/
lemma doubleUntil_eq_some {required cap cap' : UInt32} {rounds : ℕ}
    (h : doubleUntil required rounds cap = some cap') :
    required.toNat ≤ cap'.toNat ∧ ∃ k, cap'.toNat = cap.toNat * 2 ^ k % 2 ^ 32 := by
  induction rounds generalizing cap with
  | zero => cases h
  | succ rounds ih =>
    unfold doubleUntil at h
    by_cases hlt : cap < required
    · rw [if_pos hlt] at h
      obtain ⟨hle, k, hk⟩ := ih h
      refine ⟨hle, k + 1, ?_⟩
      have hdouble : (cap * 2).toNat = cap.toNat * 2 % 2 ^ 32 := UInt32.toNat_mul cap 2
      rw [hk, hdouble, Nat.mod_mul_mod, Nat.mul_assoc, ← Nat.pow_succ']
    · rw [if_neg hlt] at h
      cases h
      refine ⟨?_, 0, ?_⟩
      · rw [UInt32.lt_iff_toNat_lt] at hlt
        omega
      · rw [Nat.pow_zero, Nat.mul_one, Nat.mod_eq_of_lt cap'.toNat_lt]

/-- The doubling ends where some power of two takes the capacity far enough. -/
lemma doubleUntil_of_doubles {required cap : UInt32} {k : ℕ}
    (h : required.toNat ≤ cap.toNat * 2 ^ k % 2 ^ 32) :
    ∃ rounds cap', doubleUntil required rounds cap = some cap' := by
  induction k generalizing cap with
  | zero =>
    rw [Nat.pow_zero, Nat.mul_one, Nat.mod_eq_of_lt cap.toNat_lt] at h
    refine ⟨1, cap, ?_⟩
    rw [doubleUntil, if_neg]
    rw [UInt32.lt_iff_toNat_lt]
    omega
  | succ k ih =>
    by_cases hlt : cap < required
    · have hdouble : (cap * 2).toNat = cap.toNat * 2 % 2 ^ 32 := UInt32.toNat_mul cap 2
      have hnext : required.toNat ≤ (cap * 2).toNat * 2 ^ k % 2 ^ 32 := by
        rw [hdouble, Nat.mod_mul_mod, Nat.mul_assoc, ← Nat.pow_succ']
        exact h
      obtain ⟨rounds, cap', hcap'⟩ := ih hnext
      refine ⟨rounds + 1, cap', ?_⟩
      rw [doubleUntil, if_pos hlt]
      exact hcap'
    · refine ⟨1, cap, ?_⟩
      rw [doubleUntil, if_neg hlt]

/-- A length is returned as it is where `ssize_t` has it. -/
lemma toInt_toInt32 (length : UInt32) :
    length.toInt32.toInt = length.toNat ↔ length.toNat < 2 ^ 31 := by
  have hlt := length.toNat_lt
  have hvalue : length.toInt32.toInt
      = if 2 * length.toNat < 2 ^ 32 then (length.toNat : ℤ) else (length.toNat : ℤ) - 2 ^ 32 :=
    BitVec.toInt_eq_toNat_cond length.toBitVec
  rw [hvalue]
  split_ifs with hsmall
  · constructor <;> intro <;> omega
  · constructor <;> intro <;> omega

/-! ## The copy -/

section Copy

variable {cap length : UInt32} {bytes : Bytes} {writes : ℕ → Int}

/-- A payload that is in the buffer stays there when the flush fails. -/
lemma copyIn_failed {rounds : ℕ} {s' : OutputBridge}
    (h : s.copyIn cap bytes length writes rounds = .failed s') :
    s'.bridge.outputBuf = s.bridge.outputBuf ++ bytes := by
  unfold copyIn store at h
  by_cases hfits : s.bridge.outputBuf.length + bytes.length ≤ cap.toNat
  · rw [dif_pos hfits] at h
    unfold finishWrite at h
    simp only at h
    split at h
    · split at h
      · cases h
      · cases h
      · cases h
        rfl
    · cases h
  · rw [dif_neg hfits] at h
    cases h

/-- From the copy on, the call takes the payload once where there is room, the length is one
`ssize_t` has, and a requested stream takes everything. -/
lemma copyIn_returned_iff :
    (∃ rounds s' value, s.copyIn cap bytes length writes rounds = .returned s' value ∧
      value.toInt = length.toNat ∧ s.Taken s' bytes) ↔
    s.bridge.outputBuf.length + bytes.length ≤ cap.toNat ∧ length.toNat < 2 ^ 31 ∧
      (s.bridge.opensStream = true →
        TakesAll writes (s.bridge.outputBuf.length + bytes.length)) := by
  have hsum : (s.bridge.outputBuf ++ bytes).length = s.bridge.outputBuf.length + bytes.length :=
    List.length_append
  unfold copyIn store
  by_cases hfits : s.bridge.outputBuf.length + bytes.length ≤ cap.toNat
  · simp only [dif_pos hfits, finishWrite]
    have hopens : (s.bridge.bufferAppend bytes).opensStream = s.bridge.opensStream := rfl
    rw [hopens]
    cases hstream : s.bridge.opensStream with
    | false =>
      simp only [Bool.false_eq_true, if_false]
      constructor
      · rintro ⟨rounds, s', value, hreturned, hvalue, -⟩
        cases hreturned
        exact ⟨hfits, (toInt_toInt32 length).mp hvalue, fun h => by cases h⟩
      · rintro ⟨-, hsmall, -⟩
        exact ⟨0, _, _, rfl, (toInt_toInt32 length).mpr hsmall, .inl ⟨rfl, rfl⟩⟩
    | true =>
      simp only [if_true]
      constructor
      · rintro ⟨rounds, s', value, hreturned, hvalue, -⟩
        cases hloop : writeLoop writes (s.bridge.bufferAppend bytes).outputBuf rounds 0 s.stdout with
        | none =>
          rw [hloop] at hreturned
          cases hreturned
        | some out =>
          obtain ⟨stdout, all⟩ := out
          rw [hloop] at hreturned
          cases all with
          | false => cases hreturned
          | true =>
            cases hreturned
            have htakes := (takesAll_of_writeLoop (Nat.zero_le _) hloop).1
            rw [Nat.sub_zero] at htakes
            exact ⟨hfits, (toInt_toInt32 length).mp hvalue, fun _ => hsum ▸ htakes⟩
      · rintro ⟨-, hsmall, htakes⟩
        have htakes' : TakesAll writes ((s.bridge.outputBuf ++ bytes).length - 0) := by
          rw [Nat.sub_zero, hsum]
          exact htakes trivial
        obtain ⟨rounds, hloop⟩ :=
          @writeLoop_of_takesAll _ writes (s.bridge.outputBuf ++ bytes) s.stdout 0 (Nat.zero_le _)
            htakes'
        have hloop' : writeLoop writes (s.bridge.bufferAppend bytes).outputBuf rounds 0 s.stdout
            = some (s.stdout ++ (s.bridge.outputBuf ++ bytes), true) := hloop
        refine ⟨rounds, _, _, by rw [hloop'], (toInt_toInt32 length).mpr hsmall, .inr ⟨rfl, rfl⟩⟩
  · refine iff_of_false ?_ fun h => hfits h.1
    rintro ⟨rounds, s', value, hreturned, -⟩
    rw [dif_neg hfits] at hreturned
    cases hreturned

end Copy

/-! ## The call -/

lemma payload_eq_nil (hlength : buffer.length = 0) : payload buffer = [] := by
  unfold payload
  cases hbytes : buffer.bytes with
  | none => rfl
  | some bytes =>
    have hcovers := buffer.covers bytes hbytes
    rw [hlength] at hcovers
    exact List.eq_nil_of_length_eq_zero hcovers

/-- A payload in memory is not empty where its length is not zero. -/
lemma bytes_ne_nil {bytes : Bytes} (hlength : buffer.length ≠ 0)
    (hbytes : buffer.bytes = some bytes) : bytes ≠ [] := by
  intro hnil
  have hcovers := buffer.covers bytes hbytes
  rw [hnil] at hcovers
  exact hlength (UInt32.toNat_inj.mp hcovers.symm)

section Call

variable {bytes : Bytes} (hzero : buffer.length ≠ 0) (hbytes : buffer.bytes = some bytes)

include hbytes

lemma payload_eq : payload buffer = bytes := by
  unfold payload
  rw [hbytes]
  rfl

lemma sum_eq (s : OutputBridge) : s.bridge.outputBuf.length + bytes.length = s.sum buffer := by
  unfold sum
  rw [buffer.covers bytes hbytes]

include hzero

/-- After the copy a failure is not nothing. -/
lemma copyIn_ne_unchanged {cap : UInt32} {writes : ℕ → Int} {rounds : ℕ} {s' : OutputBridge}
    (h : s.copyIn cap bytes buffer.length writes rounds = .failed s') :
    s'.bridge.outputBuf ≠ s.bridge.outputBuf := by
  rw [copyIn_failed h]
  intro heq
  exact bytes_ne_nil hzero hbytes (List.append_right_eq_self.mp heq)

/-- A payload that fits. -/
lemma allOrNothing_of_not_grows (hfits : ¬ s.outputLen + buffer.length > s.outputCap) :
    s.AllOrNothing buffer answers ↔
      s.sum buffer ≤ s.outputCap.toNat ∧ buffer.length.toNat < 2 ^ 31 ∧
      (s.bridge.opensStream = true → TakesAll answers.writes (s.sum buffer)) := by
  have hwrite : ∀ doublings rounds, s.bufferWrite buffer answers doublings rounds
      = s.copyIn s.outputCap bytes buffer.length answers.writes rounds := by
    intro doublings rounds
    unfold bufferWrite
    simp only [if_neg hzero, hbytes, if_neg hfits]
  have hcopy := @copyIn_returned_iff s s.outputCap buffer.length bytes answers.writes
  rw [sum_eq hbytes s] at hcopy
  unfold AllOrNothing
  rw [payload_eq hbytes]
  simp only [hwrite]
  rw [← hcopy]
  constructor
  · rintro ⟨-, rounds, hreturned | ⟨s', hfailed, hsame, -⟩⟩
    · exact ⟨rounds, hreturned⟩
    · exact absurd hsame (copyIn_ne_unchanged hzero hbytes hfailed)
  · rintro ⟨rounds, hreturned⟩
    exact ⟨0, rounds, .inl hreturned⟩

/-- A payload the buffer grows for. -/
lemma allOrNothing_of_grows (hgrows : s.outputLen + buffer.length > s.outputCap) :
    s.AllOrNothing buffer answers ↔ s.Doubles (s.sum buffer) ∧ (answers.allocated = false ∨
      (buffer.length.toNat < 2 ^ 31 ∧
        (s.bridge.opensStream = true → TakesAll answers.writes (s.sum buffer)))) := by
  have hrequired : (s.outputLen + buffer.length).toNat = s.sum buffer := by
    rw [toNat_required, Nat.mod_eq_of_lt (sum_lt_of_grows hgrows)]
  have hwrite : ∀ {doublings cap},
      doubleUntil (s.outputLen + buffer.length) doublings s.firstCap = some cap → ∀ rounds,
      s.bufferWrite buffer answers doublings rounds =
        if answers.allocated then s.copyIn cap bytes buffer.length answers.writes rounds
        else .failed s := by
    intro doublings cap hdouble rounds
    unfold bufferWrite
    simp only [if_neg hzero, hbytes, if_pos hgrows, hdouble]
  -- the capacity the doubling comes to has room
  have hcopy : ∀ {doublings cap},
      doubleUntil (s.outputLen + buffer.length) doublings s.firstCap = some cap →
      ((∃ rounds s' value, s.copyIn cap bytes buffer.length answers.writes rounds
          = .returned s' value ∧ value.toInt = buffer.length.toNat ∧ s.Taken s' bytes) ↔
        buffer.length.toNat < 2 ^ 31 ∧
          (s.bridge.opensStream = true → TakesAll answers.writes (s.sum buffer))) := by
    intro doublings cap hdouble
    have hle := (doubleUntil_eq_some hdouble).1
    rw [hrequired] at hle
    rw [@copyIn_returned_iff s cap buffer.length bytes answers.writes, sum_eq hbytes s,
      and_iff_right hle]
  unfold AllOrNothing
  rw [payload_eq hbytes]
  constructor
  · rintro ⟨doublings, rounds, h⟩
    cases hdouble : doubleUntil (s.outputLen + buffer.length) doublings s.firstCap with
    | none =>
      have hrunning : s.bufferWrite buffer answers doublings rounds = .running := by
        unfold bufferWrite
        simp only [if_neg hzero, hbytes, if_pos hgrows, hdouble]
      rw [hrunning] at h
      simp only [reduceCtorEq, false_and, exists_false, or_self] at h
    | some cap =>
      obtain ⟨hle, k, hk⟩ := doubleUntil_eq_some hdouble
      rw [hrequired, hk] at hle
      refine ⟨⟨k, hle⟩, ?_⟩
      rw [hwrite hdouble] at h
      cases hallocated : answers.allocated with
      | false => exact .inl rfl
      | true =>
        rw [hallocated, if_pos rfl] at h
        rcases h with ⟨s', value, hreturned⟩ | ⟨s', hfailed, hsame, -⟩
        · exact .inr ((hcopy hdouble).mp ⟨rounds, s', value, hreturned⟩)
        · exact absurd hsame (copyIn_ne_unchanged hzero hbytes hfailed)
  · rintro ⟨⟨k, hk⟩, h⟩
    rw [← hrequired] at hk
    obtain ⟨doublings, cap, hdouble⟩ := doubleUntil_of_doubles hk
    cases hallocated : answers.allocated with
    | false =>
      refine ⟨doublings, 0, .inr ⟨s, ?_, rfl, rfl⟩⟩
      rw [hwrite hdouble, hallocated]
      rfl
    | true =>
      rw [hallocated] at h
      have h' := h.resolve_left Bool.noConfusion
      obtain ⟨rounds, s', value, hreturned, hvalue, htaken⟩ := (hcopy hdouble).mpr h'
      refine ⟨doublings, rounds, .inl ⟨s', value, ?_, hvalue, htaken⟩⟩
      rw [hwrite hdouble, hallocated]
      exact hreturned

end Call

/-- **A write is all or nothing exactly where `Serves` says so.** -/
theorem allOrNothing_iff (s : OutputBridge) (buffer : SendBuffer) (answers : WriteAnswers) :
    s.AllOrNothing buffer answers ↔ s.Serves buffer answers := by
  unfold Serves
  by_cases hzero : buffer.length = 0
  · -- nothing is to be written
    refine iff_of_true ⟨0, 0, .inl ⟨s, 0, if_pos hzero, by rw [hzero]; rfl, .inl ⟨?_, rfl⟩⟩⟩
      (.inl hzero)
    rw [payload_eq_nil hzero, List.append_nil]
  · cases hbytes : buffer.bytes with
    | none =>
      refine iff_of_true ⟨0, 0, .inr ⟨s, ?_, rfl, rfl⟩⟩ (.inr (.inl rfl))
      unfold bufferWrite
      simp only [if_neg hzero, hbytes]
    | some bytes =>
      simp only [hzero, false_or, reduceCtorEq]
      by_cases hgrows : s.outputLen + buffer.length > s.outputCap
      · have hlt := sum_lt_of_grows hgrows
        have hcap : s.outputCap.toNat < s.sum buffer := by
          rw [gt_iff_lt, UInt32.lt_iff_toNat_lt, toNat_required, Nat.mod_eq_of_lt hlt] at hgrows
          exact hgrows
        have hroom : ¬ s.sum buffer ≤ s.outputCap.toNat := by omega
        rw [allOrNothing_of_grows hzero hbytes hgrows, and_iff_right hlt, or_iff_right hroom,
          and_iff_right hcap]
      · rw [allOrNothing_of_not_grows hzero hbytes hgrows]
        constructor
        · rintro ⟨hfits, h⟩
          have hcap := s.outputCap.toNat_lt
          exact ⟨by omega, .inl hfits, .inr h⟩
        · rintro ⟨hlt, -, h⟩
          have hfits : s.sum buffer ≤ s.outputCap.toNat := by
            rw [gt_iff_lt, UInt32.lt_iff_toNat_lt, toNat_required, Nat.mod_eq_of_lt hlt] at hgrows
            omega
          exact ⟨hfits, h.resolve_left (by omega)⟩

/-! ## An interrupted flush -/

/-- A stream is requested while a byte is buffered. -/
def requested : OutputBridge :=
  { bridge := { Bridge.initial with
      outputBuf := [97], protocolTransport := .hybrid, protocolCopyState := .copyIn
      protocolStreamRequested := true }
    outputCap := 8192
    stdout := []
    fits := by decide }

/-- The byte that is sent. -/
def oneByte : SendBuffer :=
  { bytes := some [98]
    length := 1
    covers := by
      intro bs hbs
      cases hbs
      rfl }

/-- The first `write` takes one byte, the second is interrupted. -/
def interrupted : WriteAnswers := { allocated := true, writes := fun i => if i = 0 then 1 else -1 }

/-- Every `write` takes what it is given. -/
def uninterrupted : WriteAnswers := { allocated := true, writes := fun _ => 8192 }

/-- What the call leaves when it is interrupted. -/
def afterInterrupt : OutputBridge :=
  { requested with
    bridge := requested.bridge.bufferAppend [98]
    stdout := [97]
    fits := by decide }

/-- An interrupted call has put out a byte and keeps the payload; the call that is made again puts
out both twice. -/
theorem retry_repeats :
    ¬ requested.AllOrNothing oneByte interrupted ∧
    requested.bufferWrite oneByte interrupted 0 2 = .failed afterInterrupt ∧
    ∃ s', afterInterrupt.bufferWrite oneByte uninterrupted 0 2 = .returned s' 1 ∧
      s'.stdout = [97, 97, 98, 98] := by
  refine ⟨?_, rfl, _, rfl, rfl⟩
  rw [allOrNothing_of_not_grows (by decide) rfl (by decide)]
  rintro ⟨-, -, htakes⟩
  have htwo : TakesAll interrupted.writes 2 := htakes rfl
  have hone := ((takesAll_iff (by decide)).mp htwo).2
  exact absurd ((takesAll_iff (by decide)).mp hone).1 (by decide)

end OutputBridge

end PgliteOxide.Pglite
