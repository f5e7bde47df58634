import Mathlib.Data.List.Dedup
import Mathlib.Logic.Relation
import PgliteOxide.Lib.Outcome

/-!
# Orders in which dependencies come first

A list is a `DependencyOrder` when nothing comes twice and each thing comes after everything it
needs. Such a list is closed under needing and nothing in it leads back to itself. A loop over
requests that does nothing the second time sees only which requests are made, once they are
sorted.
-/

namespace Lib

open Relation

section Order

variable {α : Type} {needs : α → α → Prop}

/-- Lists that are built by adding what has all its needs in front of it. -/
inductive DependencyOrder (needs : α → α → Prop) : List α → Prop
  | nil : DependencyOrder needs []
  | concat {l : List α} {a : α} (hl : DependencyOrder needs l) (hnew : a ∉ l)
      (hneeds : ∀ b, needs a b → b ∈ l) : DependencyOrder needs (l ++ [a])

namespace DependencyOrder

variable {l : List α} {a b : α}

lemma nodup (h : DependencyOrder needs l) : l.Nodup := by
  induction h with
  | nil => exact List.nodup_nil
  | concat hl hnew hneeds ih => exact List.nodup_append.mpr ⟨ih, List.nodup_singleton _, by grind⟩

/-- What something needs comes in front of it. -/
lemma mem_front (h : DependencyOrder needs l) {front rest : List α} (hl : l = front ++ a :: rest)
    (hab : needs a b) : b ∈ front := by
  induction h generalizing rest with
  | nil => simp at hl
  | @concat l' c hl' hnew hneeds ih =>
    rcases List.eq_nil_or_concat' rest with rfl | ⟨rest, d, rfl⟩
    · obtain ⟨rfl, hca⟩ := List.append_inj' hl rfl
      have hca : c = a := by simpa using hca
      exact hneeds b (hca ▸ hab)
    · rw [← List.cons_append, ← List.append_assoc] at hl
      exact ih (List.append_inj' hl rfl).1

/-- What something in the list needs is in the list. -/
lemma mem_of_needs (h : DependencyOrder needs l) (ha : a ∈ l) (hab : needs a b) : b ∈ l := by
  obtain ⟨front, rest, hl⟩ := List.append_of_mem ha
  rw [hl]
  exact List.mem_append_left _ (h.mem_front hl hab)

/-- What something in the list leads to is in the list. -/
lemma mem_of_reaches (h : DependencyOrder needs l) (ha : a ∈ l)
    (hab : ReflTransGen needs a b) : b ∈ l := by
  induction hab with
  | refl => exact ha
  | tail _ hneeds ih => exact h.mem_of_needs ih hneeds

/-- What something leads to comes in front of it. -/
lemma mem_front_of_reaches (h : DependencyOrder needs l) {front rest : List α}
    (hl : l = front ++ a :: rest) (hab : TransGen needs a b) : b ∈ front := by
  induction hab with
  | single hneeds => exact h.mem_front hl hneeds
  | @tail b c _ hneeds ih =>
    obtain ⟨front', rest', hfront⟩ := List.append_of_mem ih
    have hlist : l = front' ++ b :: (rest' ++ a :: rest) := by
      rw [hl, hfront]
      simp
    rw [hfront]
    exact List.mem_append_left _ (h.mem_front hlist hneeds)

/-- Nothing in the list leads back to itself. -/
lemma acyclic (h : DependencyOrder needs l) (ha : a ∈ l) : ¬ TransGen needs a a := by
  intro hcycle
  obtain ⟨front, rest, hl⟩ := List.append_of_mem ha
  have hfront := h.mem_front_of_reaches hl hcycle
  have hnodup := h.nodup
  rw [hl] at hnodup
  exact (List.nodup_append.mp hnodup).2.2 a hfront a List.mem_cons_self rfl

end DependencyOrder

end Order

/-! ## Requests that are made again -/

namespace Outcome

variable {ε σ β : Type} [DecidableEq β] {f : σ → β → Outcome ε σ} {r : β → β → Prop}

/-- A loop over a sorted list whose turns do nothing the second time may drop what comes again. -/
lemma foldlM_dedup (hidem : ∀ x s s', f s x = ok s' → f s' x = ok s') {xs : List β}
    (hanti : ∀ x ∈ xs, ∀ y ∈ xs, r x y → r y x → x = y) (hsorted : xs.Pairwise r) (s : σ) :
    xs.dedup.foldlM f s = xs.foldlM f s := by
  induction xs generalizing s with
  | nil => rfl
  | cons x xs ih =>
    rw [List.pairwise_cons] at hsorted
    have ih := ih (fun y hy z hz => hanti y (List.mem_cons_of_mem x hy) z
      (List.mem_cons_of_mem x hz)) hsorted.2
    by_cases hx : x ∈ xs
    · -- the list goes on with the same request
      rw [List.dedup_cons_of_mem hx, ih]
      cases xs with
      | nil => simp at hx
      | cons y ys =>
        have hyx : y = x := by
          rcases List.mem_cons.mp hx with rfl | hxs
          · rfl
          · exact hanti y (by simp) x (by simp) ((List.pairwise_cons.mp hsorted.2).1 x hxs)
              (hsorted.1 y List.mem_cons_self)
        rw [hyx, List.foldlM_cons, List.foldlM_cons]
        cases hfx : f s x with
        | ok s' => rw [ok_bind, ok_bind, List.foldlM_cons, hidem x s s' hfx, ok_bind]
        | err e => rfl
        | panic => rfl
    · rw [List.dedup_cons_of_notMem hx, List.foldlM_cons, List.foldlM_cons]
      congr 1
      funext s'
      exact ih s'

/-- Such a loop sees only what is requested. -/
lemma foldlM_congr_of_mem_iff (hidem : ∀ x s s', f s x = ok s' → f s' x = ok s') {xs ys : List β}
    (hanti : ∀ x ∈ xs, ∀ y ∈ xs, r x y → r y x → x = y) (hxs : xs.Pairwise r)
    (hys : ys.Pairwise r) (hmem : ∀ x, x ∈ ys ↔ x ∈ xs) (s : σ) :
    ys.foldlM f s = xs.foldlM f s := by
  have hanti' : ∀ x ∈ ys, ∀ y ∈ ys, r x y → r y x → x = y := fun x hx y hy =>
    hanti x ((hmem x).mp hx) y ((hmem y).mp hy)
  have hperm : ys.dedup.Perm xs.dedup := by
    refine (List.perm_ext_iff_of_nodup (List.nodup_dedup ys) (List.nodup_dedup xs)).mpr fun x => ?_
    rw [List.mem_dedup, List.mem_dedup, hmem]
  have heq : ys.dedup = xs.dedup := by
    refine hperm.eq_of_pairwise (fun x y hx hy => ?_) (hys.sublist (List.dedup_sublist ys))
      (hxs.sublist (List.dedup_sublist xs))
    rw [List.mem_dedup] at hx hy
    exact hanti x ((hmem x).mp hx) y hy
  rw [← foldlM_dedup hidem hanti' hys, ← foldlM_dedup hidem hanti hxs, heq]

end Outcome

end Lib
