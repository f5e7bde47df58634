import Mathlib.Algebra.Group.Nat.Defs
import Mathlib.Algebra.Ring.Int.Defs
import Mathlib.Tactic.Common

/-!
# Calls that return, fail or panic

A Rust call with result type `Result<α, ε>` has three ways to end: it returns `Ok`, it
returns `Err`, or it panics. `Outcome` keeps the three apart, so that "never panics" is a
statement about values. The checked primitives at the end of the file (slices, indices,
`usize` additions, vector capacities) are the places where a panic can come from.
-/

namespace Lib

/-- The result of a fallible call that may also panic. -/
inductive Outcome (ε α : Type) where
  | ok (a : α)
  | err (e : ε)
  | panic
deriving DecidableEq, Repr

namespace Outcome

variable {ε α β : Type}

/-- Sequencing: the `?` operator. -/
protected def bind (x : Outcome ε α) (f : α → Outcome ε β) : Outcome ε β :=
  match x with
  | ok a => f a
  | err e => err e
  | panic => panic

instance : Monad (Outcome ε) where
  pure := ok
  bind := Outcome.bind

instance : LawfulMonad (Outcome ε) := by
  refine LawfulMonad.mk' (Outcome ε) ?_ ?_ ?_
  · intro α x
    cases x <;> rfl
  · intro α β a f
    rfl
  · intro α β γ x f g
    cases x <;> rfl

/-- A call that cannot panic. -/
def ofExcept : Except ε α → Outcome ε α
  | .ok a => ok a
  | .error e => err e

lemma ofExcept_ne_panic (x : Except ε α) : ofExcept x ≠ panic := by
  cases x <;> simp [ofExcept]

/-- `Result::map_err`. -/
def mapErr {ε' : Type} (f : ε → ε') : Outcome ε α → Outcome ε' α
  | ok a => ok a
  | err e => err (f e)
  | panic => panic

/-- `Result::ok`; a panic has no value either. -/
def toOption : Outcome ε α → Option α
  | ok a => some a
  | err _ => none
  | panic => none

@[simp] lemma toOption_eq_some {x : Outcome ε α} {a : α} : x.toOption = some a ↔ x = ok a := by
  cases x <;> simp [toOption]

@[simp] lemma pure_eq (a : α) : (pure a : Outcome ε α) = ok a := rfl

@[simp] lemma ok_bind (a : α) (f : α → Outcome ε β) : (ok a >>= f) = f a := rfl

@[simp] lemma err_bind (e : ε) (f : α → Outcome ε β) : (err e >>= f) = err e := rfl

@[simp] lemma panic_bind (f : α → Outcome ε β) : (panic >>= f) = (panic : Outcome ε β) := rfl

/-- A sequence panics when its head does, or when the head returns and the tail does. -/
lemma bind_eq_panic {x : Outcome ε α} {f : α → Outcome ε β} :
    (x >>= f) = panic ↔ x = panic ∨ ∃ a, x = ok a ∧ f a = panic := by
  cases x <;> simp

/-- A sequence fails when its head does, or when the head returns and the tail does. -/
lemma bind_eq_err {x : Outcome ε α} {f : α → Outcome ε β} {e : ε} :
    (x >>= f) = err e ↔ x = err e ∨ ∃ a, x = ok a ∧ f a = err e := by
  cases x <;> simp

/-- A sequence returns when its head and then its tail return. -/
lemma bind_eq_ok {x : Outcome ε α} {f : α → Outcome ε β} {b : β} :
    (x >>= f) = ok b ↔ ∃ a, x = ok a ∧ f a = ok b := by
  cases x <;> simp

lemma mapErr_eq_ok {ε' : Type} {f : ε → ε'} {x : Outcome ε α} {a : α} :
    x.mapErr f = ok a ↔ x = ok a := by
  cases x <;> simp [mapErr]

/-! ### Loops -/

variable {σ : Type} {f : σ → β → Outcome ε σ}

/-- What a loop starts with and every turn keeps, it ends with. -/
lemma foldlM_invariant {I : σ → Prop} {xs : List β} {s s' : σ}
    (hstep : ∀ x ∈ xs, ∀ s s', I s → f s x = ok s' → I s') (hs : I s)
    (h : xs.foldlM f s = ok s') : I s' := by
  induction xs generalizing s with
  | nil =>
    have heq : s = s' := by simpa using h
    exact heq ▸ hs
  | cons x xs ih =>
    rw [List.foldlM_cons, bind_eq_ok] at h
    obtain ⟨s₁, hx, hxs⟩ := h
    refine ih (fun y hy => hstep y (List.mem_cons_of_mem x hy)) ?_ hxs
    exact hstep x List.mem_cons_self s s₁ hs hx

/-- A loop that does not return has a turn that does not. -/
lemma foldlM_not_ok {I : σ → Prop} {xs : List β} {s : σ} {r : Outcome ε σ}
    (hstep : ∀ x ∈ xs, ∀ s s', I s → f s x = ok s' → I s') (hs : I s)
    (h : xs.foldlM f s = r) (hr : ∀ s', r ≠ ok s') : ∃ x ∈ xs, ∃ s, I s ∧ f s x = r := by
  induction xs generalizing s with
  | nil => exact absurd h.symm (hr s)
  | cons x xs ih =>
    rw [List.foldlM_cons] at h
    cases hx : f s x with
    | ok s₁ =>
      rw [hx, ok_bind] at h
      have hs₁ : I s₁ := hstep x List.mem_cons_self s s₁ hs hx
      obtain ⟨y, hy, t, ht, hyt⟩ := ih (fun y hy => hstep y (List.mem_cons_of_mem x hy)) hs₁ h
      exact ⟨y, List.mem_cons_of_mem x hy, t, ht, hyt⟩
    | err e =>
      rw [hx] at h
      exact ⟨x, List.mem_cons_self, s, hs, hx.trans h⟩
    | panic =>
      rw [hx] at h
      exact ⟨x, List.mem_cons_self, s, hs, hx.trans h⟩

/-- After a loop that only adds, each turn's contribution is there. -/
lemma foldlM_each {I : σ → Prop} {P : β → σ → Prop} {xs : List β} {s s' : σ}
    (hstep : ∀ x ∈ xs, ∀ s s', I s → f s x = ok s' → I s' ∧ P x s')
    (hkeep : ∀ x ∈ xs, ∀ y s s', I s → f s x = ok s' → P y s → P y s') (hs : I s)
    (h : xs.foldlM f s = ok s') : ∀ x ∈ xs, P x s' := by
  induction xs generalizing s with
  | nil => simp
  | cons x xs ih =>
    rw [List.foldlM_cons, bind_eq_ok] at h
    obtain ⟨s₁, hx, hxs⟩ := h
    obtain ⟨hs₁, hPx⟩ := hstep x List.mem_cons_self s s₁ hs hx
    intro y hy
    rcases List.mem_cons.mp hy with rfl | hy
    · -- the later turns keep it
      refine (foldlM_invariant (I := fun t => I t ∧ P y t) (fun z hz t t' ht hzt => ?_)
        ⟨hs₁, hPx⟩ hxs).2
      have hz := List.mem_cons_of_mem y hz
      exact ⟨(hstep z hz t t' ht.1 hzt).1, hkeep z hz y t t' ht.1 hzt ht.2⟩
    · exact ih (fun z hz => hstep z (List.mem_cons_of_mem x hz))
        (fun z hz => hkeep z (List.mem_cons_of_mem x hz)) hs₁ hxs y hy

end Outcome

/-! ## Checked primitives -/

section Checked

variable {ε α : Type}

/-- `usize` is 64 bits wide on every supported target. -/
def usizeBound : ℕ := 2 ^ 64

/-- The largest allocation, `isize::MAX` bytes. -/
def isizeMax : ℕ := 2 ^ 63 - 1

/-- A build profile: whether integer overflow panics (debug) or wraps (release). -/
structure Build where
  overflowChecks : Bool
deriving DecidableEq, Repr

/-- `a + b` on `usize`. -/
def usizeAdd (build : Build) (a b : ℕ) : Outcome ε ℕ :=
  if a + b < usizeBound then .ok (a + b)
  else if build.overflowChecks then .panic
  else .ok ((a + b) % usizeBound)

/-- `a - b` on `usize`. -/
def usizeSub (build : Build) (a b : ℕ) : Outcome ε ℕ :=
  if b ≤ a then .ok (a - b)
  else if build.overflowChecks then .panic
  else .ok (a + usizeBound - b)

/-- `&xs[start..stop]`. -/
def slice (xs : List α) (start stop : ℕ) : Outcome ε (List α) :=
  if start ≤ stop ∧ stop ≤ xs.length then .ok ((xs.take stop).drop start) else .panic

/-- `xs[i]`. -/
def index (xs : List α) (i : ℕ) : Outcome ε α :=
  match xs[i]? with
  | some x => .ok x
  | none => .panic

/-- `xs[i] = x`. -/
def setIndex (xs : List α) (i : ℕ) (x : α) : Outcome ε (List α) :=
  if i < xs.length then .ok (xs.set i x) else .panic

/-- `xs[start..stop].copy_from_slice(ys)`: the two must have one length. -/
def copyFromSlice (xs : List α) (start stop : ℕ) (ys : List α) : Outcome ε (List α) :=
  if start ≤ stop ∧ stop ≤ xs.length ∧ ys.length = stop - start then
    .ok (xs.take start ++ ys ++ xs.drop stop)
  else .panic

/-- `Vec::with_capacity(count)` for elements of `size` bytes. -/
def withCapacity (size count : ℕ) : Outcome ε Unit :=
  if count * size ≤ isizeMax then .ok () else .panic

lemma usizeAdd_of_lt (build : Build) {a b : ℕ} (h : a + b < usizeBound) :
    (usizeAdd build a b : Outcome ε ℕ) = .ok (a + b) := by
  rw [usizeAdd, if_pos h]

lemma usizeAdd_of_ge (build : Build) {a b : ℕ} (h : usizeBound ≤ a + b) :
    (usizeAdd build a b : Outcome ε ℕ)
      = if build.overflowChecks then .panic else .ok ((a + b) % usizeBound) := by
  rw [usizeAdd, if_neg (Nat.not_lt.mpr h)]

lemma usizeSub_of_le (build : Build) {a b : ℕ} (h : b ≤ a) :
    (usizeSub build a b : Outcome ε ℕ) = .ok (a - b) := by
  rw [usizeSub, if_pos h]

/-- A slice of a list in three parts is replaced. -/
lemma copyFromSlice_append (front middle back ys : List α) (h : ys.length = middle.length) :
    (copyFromSlice (front ++ middle ++ back) front.length (front.length + middle.length) ys :
      Outcome ε (List α)) = .ok (front ++ ys ++ back) := by
  have hlen : (front ++ middle ++ back).length
      = front.length + middle.length + back.length := by
    rw [List.length_append, List.length_append]
  have hstop : front.length + middle.length = (front ++ middle).length := by
    rw [List.length_append]
  rw [copyFromSlice, if_pos ⟨by omega, by omega, by omega⟩, hstop, List.drop_left,
    List.append_assoc front middle back, List.take_left]

lemma slice_of_le (xs : List α) {start stop : ℕ} (h : start ≤ stop) (h' : stop ≤ xs.length) :
    (slice xs start stop : Outcome ε (List α)) = .ok ((xs.take stop).drop start) := by
  rw [slice, if_pos ⟨h, h'⟩]

lemma slice_of_gt (xs : List α) {start stop : ℕ} (h : stop < start) :
    (slice xs start stop : Outcome ε (List α)) = .panic := by
  rw [slice, if_neg (by omega)]

lemma slice_to_end (xs : List α) {start : ℕ} (h : start ≤ xs.length) :
    (slice xs start xs.length : Outcome ε (List α)) = .ok (xs.drop start) := by
  rw [slice_of_le xs h le_rfl, List.take_length]

/-- The part of a list from `start`, `n` entries long. -/
lemma slice_add (xs : List α) {start n : ℕ} (h : start + n ≤ xs.length) :
    (slice xs start (start + n) : Outcome ε (List α)) = .ok ((xs.drop start).take n) := by
  rw [slice_of_le xs (Nat.le_add_right start n) h, List.drop_take, Nat.add_sub_cancel_left]

lemma index_eq_head (xs : List α) {i : ℕ} {x : α} {rest : List α} (h : xs.drop i = x :: rest) :
    (index xs i : Outcome ε α) = .ok x := by
  have hget : xs[i]? = some x := by
    rw [← List.head?_drop, h]
    rfl
  rw [index, hget]

@[simp] lemma index_cons_zero (x : α) (xs : List α) :
    (index (x :: xs) 0 : Outcome ε α) = .ok x := rfl

lemma withCapacity_of_le {size count : ℕ} (h : count * size ≤ isizeMax) :
    (withCapacity size count : Outcome ε Unit) = .ok () := by
  rw [withCapacity, if_pos h]

lemma withCapacity_of_gt {size count : ℕ} (h : isizeMax < count * size) :
    (withCapacity size count : Outcome ε Unit) = .panic := by
  rw [withCapacity, if_neg (by omega)]

end Checked

end Lib
