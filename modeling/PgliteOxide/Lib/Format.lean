import Mathlib.Tactic.Common
import PgliteOxide.Lib.BigEndian

/-!
# Wire formats as relations

A `Format` says which byte strings encode which values. Formats compose the way decoders do
(`pure`, `>>=`, `times`), but say nothing about cursors, slices or capacities, so they are the
side a decoder is compared with. A `Hazard` names the inputs, by position and remaining bytes,
on which a decoder leaves the range of its arithmetic.
-/

namespace Lib

/-- Which byte strings encode which values. -/
def Format (α : Type) : Type := α → Bytes → Prop

/-- Inputs to stay away from: a position and the bytes from there on. -/
def Hazard : Type := ℕ → Bytes → Prop

namespace Format

variable {α β : Type}

/-- The empty string encodes `a`; a value read by `F` is followed by what it asks for. -/
instance : Monad Format where
  pure a := fun b x => b = a ∧ x = []
  bind F G := fun b z => ∃ a x y, F a x ∧ G a b y ∧ z = x ++ y

/-- How a string in a compound format is put together. -/
lemma bind_intro {F : Format α} {G : α → Format β} {a : α} {b : β} {x y : Bytes} (hx : F a x)
    (hy : G a b y) : (F >>= G) b (x ++ y) := ⟨a, x, y, hx, hy, rfl⟩

/-- The last step of a compound format reads nothing. -/
lemma bind_pure_intro {F : Format α} {f : α → β} {a : α} {x : Bytes} (hx : F a x) :
    (F >>= fun a => pure (f a)) (f a) x := ⟨a, x, [], hx, ⟨rfl, rfl⟩, (List.append_nil x).symm⟩

/-- `n` values in a row. -/
def times (F : Format α) : ℕ → Format (List α)
  | 0 => pure []
  | n + 1 => do
    let a ← F
    let rest ← times F n
    pure (a :: rest)

/-- A run of encodings is an encoding of the run. -/
lemma times_flatten {F : Format α} {enc : α → Bytes} (xs : List α) (h : ∀ a ∈ xs, F a (enc a)) :
    F.times xs.length xs (xs.map enc).flatten := by
  induction xs with
  | nil => exact ⟨rfl, rfl⟩
  | cons a xs ih =>
    have htail := ih fun b hb => h b (List.mem_cons_of_mem _ hb)
    exact bind_intro (h a List.mem_cons_self) (bind_pure_intro htail)

/-- A format that accepts nothing. -/
def none : Format α := fun _ _ => False

/-- Some front of `b` is an encoding of `a`. -/
def StartsWith (F : Format α) (a : α) (b : Bytes) : Prop := ∃ x tail, F a x ∧ b = x ++ tail

/-- Some front of `b` is an encoding. -/
def Starts (F : Format α) (b : Bytes) : Prop := ∃ a x tail, F a x ∧ b = x ++ tail

/-- An encoding starts with itself. -/
lemma startsWith_self {F : Format α} {a : α} {x : Bytes} (h : F a x) : F.StartsWith a x :=
  ⟨x, [], h, (List.append_nil x).symm⟩

end Format

namespace Hazard

variable {α : Type}

/-- No input is hazardous. -/
def never : Hazard := fun _ _ => False

/-- A sequence is hazardous at its head, or behind an encoding of its head. -/
def bind (F : Format α) (H : Hazard) (K : α → Hazard) : Hazard := fun offset b =>
  H offset b ∨ ∃ a x tail, F a x ∧ b = x ++ tail ∧ K a (offset + x.length) tail

/-- A hazard of one of `n` values in a row. -/
def times (F : Format α) (H : Hazard) : ℕ → Hazard
  | 0 => never
  | n + 1 => bind F H fun _ => times F H n

lemma bind_never_never (F : Format α) (offset : ℕ) (b : Bytes) :
    ¬ bind F never (fun _ => never) offset b := by
  rintro (h | ⟨_, _, _, _, _, h⟩) <;> exact h

lemma times_never (F : Format α) (n offset : ℕ) (b : Bytes) : ¬ times F never n offset b := by
  induction n generalizing offset b with
  | zero => exact id
  | succ n ih =>
    rintro (h | ⟨_, _, _, _, _, h⟩)
    · exact h
    · exact ih _ _ h

end Hazard

end Lib
