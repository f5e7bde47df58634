import Mathlib.Data.Nat.Notation
import Mathlib.Tactic.Common

/-!
# Writing everything

A loop that calls `write` until everything is taken. A call may take only a part of what it is
given, fail, or take nothing; the loop gives up at the first call that does not take anything.
`TakesAll` says of the answers that they come to the end first.
-/

namespace Lib

variable {α : Type} {writes : ℕ → Int} {bytes out : List α} {n : ℕ}

/-- What the first calls of `write` can take, by their answers. -/
def taken (writes : ℕ → Int) : ℕ → ℕ
  | 0 => 0
  | k + 1 => (writes 0).toNat + taken (fun i => writes (i + 1)) k

/-- Some calls, each of which takes something, take `n` together. -/
def TakesAll (writes : ℕ → Int) (n : ℕ) : Prop :=
  ∃ k, (∀ i < k, 0 < writes i) ∧ n ≤ taken writes k

lemma takesAll_zero (writes : ℕ → Int) : TakesAll writes 0 :=
  ⟨0, fun i hi => absurd hi (Nat.not_lt_zero i), Nat.le_refl 0⟩

/-- The first call takes something, and the others the rest. -/
lemma takesAll_iff (hn : 0 < n) : TakesAll writes n ↔
    0 < writes 0 ∧ TakesAll (fun i => writes (i + 1)) (n - (writes 0).toNat) := by
  constructor
  · rintro ⟨k, hpos, hle⟩
    obtain ⟨k, rfl⟩ : ∃ k', k = k' + 1 := by
      cases k with
      | zero => exact absurd hle (Nat.not_le.mpr hn)
      | succ k => exact ⟨k, rfl⟩
    have htaken : taken writes (k + 1) = (writes 0).toNat + taken (fun i => writes (i + 1)) k := rfl
    refine ⟨hpos 0 (Nat.zero_lt_succ k), k, fun i hi => hpos (i + 1) (by omega), ?_⟩
    omega
  · rintro ⟨hfirst, k, hpos, hle⟩
    have htaken : taken writes (k + 1) = (writes 0).toNat + taken (fun i => writes (i + 1)) k := rfl
    refine ⟨k + 1, ?_, by omega⟩
    intro i hi
    cases i with
    | zero => exact hfirst
    | succ i => exact hpos i (by omega)

/-- The loop, from an offset on: what was put out, and whether everything was. It runs for a number
of rounds at most. -/
def writeLoop (writes : ℕ → Int) (bytes : List α) : ℕ → ℕ → List α → Option (List α × Bool)
  | 0, _, _ => none
  | rounds + 1, off, out =>
    if off < bytes.length then
      if writes 0 ≤ 0 then some (out, false)
      else
        let written := min (writes 0).toNat (bytes.length - off)
        writeLoop (fun i => writes (i + 1)) bytes rounds (off + written)
          (out ++ (bytes.drop off).take written)
    else some (out, true)

/-- The loop comes to its end where the answers do, with everything put out once. -/
lemma writeLoop_of_takesAll {off : ℕ} (hoff : off ≤ bytes.length)
    (h : TakesAll writes (bytes.length - off)) :
    ∃ rounds, writeLoop writes bytes rounds off out = some (out ++ bytes.drop off, true) := by
  -- each call takes something, so that less is left
  induction hleft : bytes.length - off using Nat.strongRecOn
    generalizing writes off out with
  | ind left ih =>
    by_cases hlt : off < bytes.length
    · obtain ⟨hfirst, hrest⟩ := (takesAll_iff (by omega)).mp h
      have hwritten : bytes.length - (off + min (writes 0).toNat (bytes.length - off))
          = bytes.length - off - (writes 0).toNat := by omega
      obtain ⟨rounds, hloop⟩ := @ih (bytes.length - off - (writes 0).toNat) (by omega)
        (fun i => writes (i + 1))
        (out ++ (bytes.drop off).take (min (writes 0).toNat (bytes.length - off)))
        (off + min (writes 0).toNat (bytes.length - off)) (by omega)
        (by rw [hwritten]; exact hrest) hwritten
      refine ⟨rounds + 1, ?_⟩
      rw [writeLoop, if_pos hlt, if_neg (by omega), hloop, ← List.drop_drop, List.append_assoc,
        List.take_append_drop]
    · refine ⟨1, ?_⟩
      rw [writeLoop, if_neg hlt, List.drop_eq_nil_of_le (by omega), List.append_nil]

/-- A loop that comes to its end was given answers that do, and put out everything once. -/
lemma takesAll_of_writeLoop {rounds off : ℕ} {out' : List α} (hoff : off ≤ bytes.length)
    (h : writeLoop writes bytes rounds off out = some (out', true)) :
    TakesAll writes (bytes.length - off) ∧ out' = out ++ bytes.drop off := by
  induction rounds generalizing writes off out with
  | zero => cases h
  | succ rounds ih =>
    unfold writeLoop at h
    by_cases hlt : off < bytes.length
    · rw [if_pos hlt] at h
      by_cases hfirst : writes 0 ≤ 0
      · rw [if_pos hfirst] at h
        cases h
      · rw [if_neg hfirst] at h
        obtain ⟨htakes, hout⟩ := ih (by omega) h
        have hwritten : bytes.length - (off + min (writes 0).toNat (bytes.length - off))
            = bytes.length - off - (writes 0).toNat := by omega
        rw [hwritten] at htakes
        refine ⟨(takesAll_iff (by omega)).mpr ⟨by omega, htakes⟩, ?_⟩
        rw [hout, ← List.drop_drop, List.append_assoc, List.take_append_drop]
    · rw [if_neg hlt] at h
      cases h
      have hnone : bytes.length - off = 0 := by omega
      rw [hnone, List.drop_eq_nil_of_le (by omega), List.append_nil]
      exact ⟨takesAll_zero writes, rfl⟩

end Lib
