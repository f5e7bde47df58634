import Mathlib.Data.List.Basic
import Mathlib.Tactic.Common

/-!
# Registries and runs of calls

A registry is a list searched from its head: the first entry with a property is found, updated or
removed. Where a key tells the entries apart, that entry is the only one with its key.

A component that is called from outside goes from state to state, one call after the other.
`Along` says what holds of every call of such a run in the state it is made in, and `along_iff`
compares two ways to say it.
-/

namespace Lib

variable {α κ : Type}

/-! ## Registries -/

/-- The first entry with a property is replaced. -/
def updateFirst (p : α → Bool) (f : α → α) : List α → List α
  | [] => []
  | a :: l => if p a then f a :: l else a :: updateFirst p f l

section Registry

variable {p : α → Bool} {f : α → α} {g : α → κ} {a b : α} {l front back : List α}

/-- The entry that is found, with what stands before and behind it. -/
lemma find?_split (h : l.find? p = some a) :
    ∃ front back, l = front ++ a :: back ∧ p a = true ∧ ∀ b ∈ front, p b = false := by
  obtain ⟨ha, front, back, hl, hfront⟩ := List.find?_eq_some_iff_append.mp h
  refine ⟨front, back, hl, ha, fun b hb => ?_⟩
  have hnot := hfront b hb
  simpa using hnot

/-- An entry that no other has the key of, with what stands before and behind it. -/
lemma split_of_mem [BEq κ] [LawfulBEq κ] (h : (l.map g).Nodup) (ha : a ∈ l) :
    ∃ front back, l = front ++ a :: back ∧ ∀ b ∈ front, (g b == g a) = false := by
  obtain ⟨front, back, rfl⟩ := List.append_of_mem ha
  refine ⟨front, back, rfl, fun b hb => beq_false_of_ne ?_⟩
  rw [List.map_append, List.map_cons, List.nodup_append] at h
  exact h.2.2 (g b) (List.mem_map_of_mem hb) (g a) List.mem_cons_self

lemma find?_append_first (ha : p a = true) (hfront : ∀ b ∈ front, p b = false) :
    (front ++ a :: back).find? p = some a := by
  have hnone : front.find? p = none := by
    rw [List.find?_eq_none]
    intro b hb
    rw [hfront b hb]
    decide
  rw [List.find?_append, hnone, Option.none_or, List.find?_cons_of_pos ha]

lemma updateFirst_append (ha : p a = true) (hfront : ∀ b ∈ front, p b = false) :
    updateFirst p f (front ++ a :: back) = front ++ f a :: back := by
  induction front with
  | nil =>
    show (if p a then f a :: back else a :: updateFirst p f back) = f a :: back
    rw [if_pos ha]
  | cons b front ih =>
    have hb : p b = false := hfront b List.mem_cons_self
    have hrest := ih fun c hc => hfront c (List.mem_cons_of_mem b hc)
    show (if p b then _ else b :: updateFirst p f (front ++ a :: back)) = _
    rw [hb, hrest]
    rfl

lemma eraseP_append_first (ha : p a = true) (hfront : ∀ b ∈ front, p b = false) :
    (front ++ a :: back).eraseP p = front ++ back := by
  have hnone : ∀ b ∈ front, ¬ p b = true := by
    intro b hb
    rw [hfront b hb]
    decide
  rw [List.eraseP_append_right _ hnone, List.eraseP_cons_of_pos ha]

/-- No other entry has the key of one that is there. -/
lemma key_ne (h : ((front ++ a :: back).map g).Nodup) (hb : b ∈ front ++ back) : g b ≠ g a := by
  rw [List.map_append, List.map_cons, List.nodup_append] at h
  obtain ⟨-, hback, hapart⟩ := h
  rw [List.nodup_cons] at hback
  rcases List.mem_append.mp hb with hb | hb
  · exact hapart (g b) (List.mem_map_of_mem hb) (g a) List.mem_cons_self
  · intro heq
    exact hback.1 (heq ▸ List.mem_map_of_mem hb)

lemma mem_append_cons {c : α} :
    c ∈ front ++ a :: back ↔ c = a ∨ c ∈ front ++ back := by
  rw [List.mem_append, List.mem_cons, List.mem_append]
  tauto

/-- What is left when an entry is removed has its keys apart too. -/
lemma nodup_remove (h : ((front ++ a :: back).map g).Nodup) : ((front ++ back).map g).Nodup := by
  have hsub : (front ++ back).Sublist (front ++ a :: back) :=
    List.Sublist.append_left (List.sublist_cons_self a back) front
  exact h.sublist (hsub.map g)

end Registry

/-! ## Runs of calls -/

section Calls

variable {S C : Type} {step : S → C → S} {P Q R : S → C → Prop} {I : S → Prop} {s : S}
  {calls : List C}

/-- `P` holds of every call in the state it is made in. -/
def Along (step : S → C → S) (P : S → C → Prop) : S → List C → Prop
  | _, [] => True
  | s, c :: calls => P s c ∧ Along step P (step s c) calls

instance [∀ s c, Decidable (P s c)] : ∀ s calls, Decidable (Along step P s calls)
  | _, [] => inferInstanceAs (Decidable True)
  | s, c :: calls =>
    have := instDecidableAlong (step s c) calls
    inferInstanceAs (Decidable (P s c ∧ Along step P (step s c) calls))

/-- What every call keeps, a run keeps. -/
lemma Along.invariant (h : Along step P s calls) (hs : I s)
    (hkeep : ∀ s c, I s → P s c → I (step s c)) : I (calls.foldl step s) := by
  induction calls generalizing s with
  | nil => exact hs
  | cons c calls ih => exact ih h.2 (hkeep s c hs h.1)

/-- **Two ways to say what the calls of a run do.** Among the calls that `R` allows, where `P` keeps
an invariant under which it says the same as `Q`, they say the same of every run. -/
theorem along_iff (hs : I s) (hlegal : Along step R s calls)
    (hkeep : ∀ s c, I s → R s c → P s c → I (step s c))
    (hiff : ∀ s c, I s → R s c → (Q s c ↔ P s c)) :
    Along step Q s calls ↔ Along step P s calls := by
  induction calls generalizing s with
  | nil => exact Iff.rfl
  | cons c calls ih =>
    have hhead := hiff s c hs hlegal.1
    constructor
    · rintro ⟨hq, hrest⟩
      have hp := hhead.mp hq
      exact ⟨hp, (ih (hkeep s c hs hlegal.1 hp) hlegal.2).mp hrest⟩
    · rintro ⟨hp, hrest⟩
      exact ⟨hhead.mpr hp, (ih (hkeep s c hs hlegal.1 hp) hlegal.2).mpr hrest⟩

end Calls

end Lib
