import Mathlib.Data.List.Basic
import Mathlib.Tactic.Common

/-!
# Lines

A text is split at every separator, and a list of lines is written with a separator behind each.
Lines without separators are read back from what was written.
-/

namespace Lib

variable {α : Type} {x : α}

/-- The lines, each with the separator behind it. -/
def unlines (x : α) (lines : List (List α)) : List α := lines.flatMap (· ++ [x])

lemma unlines_cons (l : List α) (lines : List (List α)) :
    unlines x (l :: lines) = l ++ x :: unlines x lines := by
  unfold unlines
  rw [List.flatMap_cons, List.append_assoc]
  rfl

lemma unlines_append (a b : List (List α)) : unlines x (a ++ b) = unlines x a ++ unlines x b :=
  List.flatMap_append

lemma unlines_eq_intercalate {lines : List (List α)} (h : lines ≠ []) :
    unlines x lines = [x].intercalate lines ++ [x] := by
  induction lines with
  | nil => exact absurd rfl h
  | cons l lines ih =>
    rcases lines with _ | ⟨m, lines⟩
    · simp [unlines]
    · rw [unlines_cons, ih (by simp)]
      simp [List.intercalate]

/-- What stands before the first separator is determined. -/
lemma append_separator_inj {a b s t : List α} (ha : x ∉ a) (hb : x ∉ b)
    (h : a ++ x :: s = b ++ x :: t) : a = b ∧ s = t := by
  induction a generalizing b with
  | nil =>
    rcases b with _ | ⟨c, b⟩
    · exact ⟨rfl, (List.cons.inj h).2⟩
    · have hhead := (List.cons.inj h).1
      rw [hhead] at hb
      exact absurd List.mem_cons_self hb
  | cons c a ih =>
    rcases b with _ | ⟨d, b⟩
    · have hhead := (List.cons.inj h).1
      rw [hhead] at ha
      exact absurd List.mem_cons_self ha
    · obtain ⟨hhead, htail⟩ := List.cons.inj h
      obtain ⟨hfront, hrest⟩ := ih (fun hmem => ha (List.mem_cons_of_mem c hmem))
        (fun hmem => hb (List.mem_cons_of_mem d hmem)) htail
      rw [hhead, hfront]
      exact ⟨rfl, hrest⟩

lemma unlines_inj {a b : List (List α)} (ha : ∀ l ∈ a, x ∉ l) (hb : ∀ l ∈ b, x ∉ l)
    (h : unlines x a = unlines x b) : a = b := by
  induction a generalizing b with
  | nil =>
    rcases b with _ | ⟨l, b⟩
    · rfl
    · rw [unlines_cons] at h
      have hlength := congrArg List.length h
      simp [unlines] at hlength
  | cons l a ih =>
    rcases b with _ | ⟨m, b⟩
    · rw [unlines_cons] at h
      have hlength := congrArg List.length h
      simp [unlines] at hlength
    · rw [unlines_cons, unlines_cons] at h
      obtain ⟨hfirst, hrest⟩ := append_separator_inj (ha l List.mem_cons_self)
        (hb m List.mem_cons_self) h
      rw [hfirst, ih (fun k hk => ha k (List.mem_cons_of_mem l hk))
        (fun k hk => hb k (List.mem_cons_of_mem m hk)) hrest]

/-! ## Splitting -/

variable [DecidableEq α]

/-- Split lines have no separators. -/
lemma not_mem_of_mem_splitOn {text line : List α} (h : line ∈ text.splitOn x) : x ∉ line := by
  rw [List.splitOn_eq_splitOnP] at h
  induction text generalizing line with
  | nil =>
    rw [List.splitOnP_nil, List.mem_singleton] at h
    simp [h]
  | cons b text ih =>
    rw [List.splitOnP_cons_eq_if_modifyHead] at h
    by_cases hb : (b == x) = true
    · rw [if_pos hb] at h
      rcases List.mem_cons.mp h with hnil | hrest
      · simp [hnil]
      · exact ih hrest
    · rw [if_neg hb] at h
      rcases hparts : text.splitOnP (· == x) with _ | ⟨first, parts⟩
      · exact absurd hparts (List.splitOnP_ne_nil _ _)
      · rw [hparts] at h ih
        rcases List.mem_cons.mp h with hfirst | hrest
        · have hne : b ≠ x := by simpa using hb
          rw [hfirst, List.mem_cons, not_or]
          exact ⟨hne.symm, ih List.mem_cons_self⟩
        · exact ih (List.mem_cons_of_mem first hrest)

lemma unlines_splitOn (text : List α) : unlines x (text.splitOn x) = text ++ [x] := by
  rw [unlines_eq_intercalate (by simp), List.intercalate_splitOn]

lemma splitOn_injective : Function.Injective (List.splitOn x) := by
  intro s t h
  have hwritten := congrArg (unlines x) h
  rw [unlines_splitOn, unlines_splitOn] at hwritten
  exact List.append_cancel_right hwritten

/-- A separator ends a line. -/
lemma splitOn_append_separator (s t : List α) :
    (s ++ x :: t).splitOn x = s.splitOn x ++ t.splitOn x := by
  apply unlines_inj (x := x)
  · exact fun l hl => not_mem_of_mem_splitOn hl
  · intro l hl
    rcases List.mem_append.mp hl with hl | hl
    · exact not_mem_of_mem_splitOn hl
    · exact not_mem_of_mem_splitOn hl
  · rw [unlines_append, unlines_splitOn, unlines_splitOn, unlines_splitOn, List.append_assoc,
      List.append_assoc]
    rfl

/-- A front without separators belongs to the first line. -/
lemma splitOn_append_of_not_mem {front text first : List α} {rest : List (List α)}
    (hfront : x ∉ front) (h : text.splitOn x = first :: rest) :
    (front ++ text).splitOn x = (front ++ first) :: rest := by
  have hfree : ∀ l ∈ first :: rest, x ∉ l := by
    rw [← h]
    exact fun l hl => not_mem_of_mem_splitOn hl
  apply unlines_inj (x := x)
  · exact fun l hl => not_mem_of_mem_splitOn hl
  · intro l hl
    rcases List.mem_cons.mp hl with hl | hl
    · rw [hl, List.mem_append, not_or]
      exact ⟨hfront, hfree first List.mem_cons_self⟩
    · exact hfree l (List.mem_cons_of_mem first hl)
  · rw [unlines_splitOn, unlines_cons, List.append_assoc, List.append_assoc, ← unlines_cons, ← h,
      unlines_splitOn]

/-- Lines without separators are those of a text. -/
lemma exists_splitOn_eq {lines : List (List α)} (hne : lines ≠ []) (hfree : ∀ l ∈ lines, x ∉ l) :
    ∃ text : List α, text.splitOn x = lines ∧ ∀ c ∈ text, c = x ∨ ∃ l ∈ lines, c ∈ l := by
  refine ⟨[x].intercalate lines, List.splitOn_intercalate x hfree hne, ?_⟩
  intro c hc
  have hmem : c ∈ unlines x lines := by
    rw [unlines_eq_intercalate hne]
    exact List.mem_append_left _ hc
  obtain ⟨l, hl, hcl⟩ := List.mem_flatMap.mp hmem
  rcases List.mem_append.mp hcl with hcl | hcl
  · exact Or.inr ⟨l, hl, hcl⟩
  · exact Or.inl (List.mem_singleton.mp hcl)

lemma mem_of_mem_splitOn {text line : List α} (h : line ∈ text.splitOn x) {c : α} (hc : c ∈ line) :
    c ∈ text := by
  have hmem : c ∈ unlines x (text.splitOn x) :=
    List.mem_flatMap.mpr ⟨line, h, List.mem_append_left _ hc⟩
  rw [unlines_splitOn] at hmem
  rcases List.mem_append.mp hmem with hmem | hmem
  · exact hmem
  · rw [List.mem_singleton] at hmem
    rw [hmem] at hc
    exact absurd hc (not_mem_of_mem_splitOn h)

/-- A character is in a line, unless it is the separator. -/
lemma mem_splitOn_of_mem {text : List α} {c : α} (h : c ∈ text) (hc : c ≠ x) :
    ∃ line ∈ text.splitOn x, c ∈ line := by
  have hmem : c ∈ unlines x (text.splitOn x) := by
    rw [unlines_splitOn]
    exact List.mem_append_left _ h
  obtain ⟨line, hline, hcl⟩ := List.mem_flatMap.mp hmem
  rcases List.mem_append.mp hcl with hcl | hcl
  · exact ⟨line, hline, hcl⟩
  · exact absurd (List.mem_singleton.mp hcl) hc

end Lib
