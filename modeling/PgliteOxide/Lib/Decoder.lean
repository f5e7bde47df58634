import Mathlib.Tactic.Common
import PgliteOxide.Lib.BigEndian

/-!
# Decoders of byte strings

A decoder takes a value off the front of its input, or fails. `Reads d a x` says that it takes
exactly `x`, as `a`, whatever comes behind; it composes along `>>=` and `times`, and a decoder that
reads its whole input this way accepts it.
-/

namespace Lib

/-- A decoder takes a value off the front of its input. -/
def Decoder (α : Type) : Type := Bytes → Option (α × Bytes)

namespace Decoder

variable {α β : Type}

instance : Monad Decoder where
  pure a := fun input => some (a, input)
  bind d f := fun input =>
    match d input with
    | some (a, rest) => f a rest
    | none => none

def fail : Decoder α := fun _ => none

def u16 : Decoder UInt16
  | a :: b :: rest => some (u16FromBe a b, rest)
  | _ => none

def i32 : Decoder Int32
  | a :: b :: c :: d :: rest => some (i32FromBe a b c d, rest)
  | _ => none

/-- The next `n` bytes. -/
def take (n : ℕ) : Decoder Bytes := fun input =>
  if n ≤ input.length then some (input.take n, input.drop n) else none

/-- The bytes up to a NUL, which is taken as well. -/
def cstring : Decoder Bytes
  | [] => none
  | c :: rest =>
    if c = 0 then some ([], rest)
    else
      match cstring rest with
      | some (s, rest) => some (c :: s, rest)
      | none => none

/-- `n` values in a row. -/
def times (d : Decoder α) : ℕ → Decoder (List α)
  | 0 => pure []
  | n + 1 => do
    let a ← d
    let rest ← times d n
    pure (a :: rest)

/-- The value of an input that is taken up to its end. -/
def whole (d : Decoder α) (input : Bytes) : Option α :=
  match d input with
  | some (a, []) => some a
  | _ => none

/-! ## What a decoder reads -/

/-- `d` takes `x`, as `a`, whatever comes behind. -/
def Reads (d : Decoder α) (a : α) (x : Bytes) : Prop := ∀ rest, d (x ++ rest) = some (a, rest)

variable {d : Decoder α} {f : α → Decoder β} {a : α} {b : β} {x y : Bytes}

lemma bind_of_some {input rest : Bytes} (h : d input = some (a, rest)) :
    (d >>= f) input = f a rest := by
  show (match d input with | some (a, rest) => f a rest | none => none) = f a rest
  rw [h]

lemma bind_of_none {input : Bytes} (h : d input = none) : (d >>= f) input = none := by
  show (match d input with | some (a, rest) => f a rest | none => none) = none
  rw [h]

lemma reads_pure (a : α) : Reads (pure a) a [] := fun _ => rfl

/-- What is read in front is passed on. -/
lemma Reads.bind_apply (h : Reads d a x) (rest : Bytes) : (d >>= f) (x ++ rest) = f a rest :=
  bind_of_some (h rest)

lemma Reads.bind (hx : Reads d a x) (hy : Reads (f a) b y) : Reads (d >>= f) b (x ++ y) := by
  intro rest
  rw [List.append_assoc, hx.bind_apply, hy rest]

/-- The last step of a decoder takes nothing. -/
lemma Reads.map {g : α → β} (hx : Reads d a x) : Reads (d >>= fun a => pure (g a)) (g a) x := by
  intro rest
  rw [hx.bind_apply]
  rfl

lemma Reads.whole (h : Reads d a x) : d.whole x = some a := by
  have hx := h []
  rw [List.append_nil] at hx
  rw [Decoder.whole, hx]

lemma reads_u16 (v : UInt16) : Reads u16 v (u16ToBe v) := fun rest => by
  show some (u16FromBe _ _, rest) = _
  rw [u16FromBe_toBe]

lemma reads_i32 (v : Int32) : Reads i32 v (i32ToBe v) := fun rest => by
  show some (i32FromBe _ _ _ _, rest) = _
  rw [i32FromBe_toBe]

lemma reads_take (x : Bytes) : Reads (take x.length) x x := fun rest => by
  rw [take, if_pos (by rw [List.length_append]; omega), List.take_left, List.drop_left]

lemma reads_cstring {x : Bytes} (h : 0 ∉ x) : Reads cstring x (x ++ [0]) := by
  intro rest
  induction x with
  | nil => rfl
  | cons c x ih =>
    have hc : c ≠ 0 := fun hc => h (hc ▸ List.mem_cons_self)
    have hx : 0 ∉ x := fun hx => h (List.mem_cons_of_mem c hx)
    show cstring (c :: (x ++ [0] ++ rest)) = _
    rw [cstring, if_neg hc, ih hx]

/-- What is read up to a NUL has none. -/
lemma nul_notMem_of_cstring {input s rest : Bytes} (h : cstring input = some (s, rest)) :
    0 ∉ s := by
  induction input generalizing s with
  | nil => simp [cstring] at h
  | cons c input ih =>
    rw [cstring] at h
    split at h
    · rw [← (Prod.mk.inj (Option.some.inj h)).1]
      simp
    · rename_i hc
      split at h
      · rename_i s' rest' htail
        obtain ⟨hs, hrest⟩ := Prod.mk.inj (Option.some.inj h)
        rw [← hs, List.mem_cons, not_or]
        exact ⟨fun h0 => hc h0.symm, ih (hrest ▸ htail)⟩
      · simp at h

/-- A run of encodings is read back. -/
lemma reads_times {enc : α → Bytes} {xs : List α} (h : ∀ a ∈ xs, Reads d a (enc a)) :
    Reads (d.times xs.length) xs (xs.flatMap enc) := by
  induction xs with
  | nil => exact reads_pure []
  | cons a xs ih =>
    have hxs := ih fun b hb => h b (List.mem_cons_of_mem a hb)
    exact (h a List.mem_cons_self).bind hxs.map

end Decoder

end Lib
