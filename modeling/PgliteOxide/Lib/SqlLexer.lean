import Mathlib.Data.List.Basic
import Mathlib.Tactic.Common
import Mathlib.Tactic.SplitIfs

/-!
# Quoted names in SQL

A name between quote marks, in which a mark of the name is doubled; reading it back; and the
tokens of a statement that consists of words, quoted names and semicolons. A text that goes on
behind a quoted name without a mark leaves the name as it is, so a name never reaches beyond its
token.
-/

namespace Lib

section Quoting

variable {α : Type} [DecidableEq α] (q : α)

/-- Every mark is doubled. -/
def doubleMarks (s : List α) : List α := s.flatMap fun c => if c = q then [q, q] else [c]

def enclose (s : List α) : List α := q :: (doubleMarks q s ++ [q])

/-- Reads up to the closing mark, behind the opening one. A doubled mark stands for one. -/
def readBody : List α → Option (List α × List α)
  | [] => none
  | [c] => if c = q then some ([], []) else none
  | c :: d :: rest =>
    if c = q then
      if d = q then (readBody rest).map fun r => (q :: r.1, r.2)
      else some ([], d :: rest)
    else (readBody (d :: rest)).map fun r => (c :: r.1, r.2)

/-- Reads a name and leaves what is behind it. -/
def readEnclosed : List α → Option (List α × List α)
  | [] => none
  | c :: rest => if c = q then readBody q rest else none

@[simp] lemma doubleMarks_nil : doubleMarks q [] = [] := rfl

lemma doubleMarks_cons (c : α) (s : List α) :
    doubleMarks q (c :: s) = (if c = q then [q, q] else [c]) ++ doubleMarks q s := rfl

lemma readBody_close {t : List α} (ht : t.head? ≠ some q) :
    readBody q (q :: t) = some ([], t) := by
  cases t with
  | nil => simp [readBody]
  | cons d rest =>
    have hd : d ≠ q := by simpa using ht
    simp [readBody, hd]

lemma readBody_double (rest : List α) :
    readBody q (q :: q :: rest) = (readBody q rest).map fun r => (q :: r.1, r.2) := by
  simp [readBody]

lemma readBody_cons {c d : α} (hc : c ≠ q) (rest : List α) :
    readBody q (c :: d :: rest) = (readBody q (d :: rest)).map fun r => (c :: r.1, r.2) := by
  simp [readBody, hc]

lemma readBody_length {text s t : List α} (h : readBody q text = some (s, t)) :
    t.length < text.length := by
  induction text using readBody.induct q generalizing s with
  | case1 => simp [readBody] at h
  | case2 => simp_all [readBody]
  | case3 c hc => simp [readBody, hc] at h
  | case4 rest ih =>
    rw [readBody_double] at h
    obtain ⟨r, hr, hst⟩ := Option.map_eq_some_iff.mp h
    obtain ⟨-, rfl⟩ := Prod.mk.inj hst
    have hlt := ih hr
    simp only [List.length_cons]
    omega
  | case5 d rest hd =>
    rw [readBody_close q (by simpa using hd)] at h
    have hst := Prod.mk.inj (Option.some.inj h)
    rw [← hst.2]
    simp
  | case6 c d rest hc ih =>
    rw [readBody_cons q hc] at h
    obtain ⟨r, hr, hst⟩ := Option.map_eq_some_iff.mp h
    obtain ⟨-, rfl⟩ := Prod.mk.inj hst
    have hlt := ih hr
    simp only [List.length_cons] at hlt ⊢
    omega

/-- The body of a name is read back, whatever follows its closing mark. -/
lemma readBody_doubleMarks {t : List α} (ht : t.head? ≠ some q) (s : List α) :
    readBody q (doubleMarks q s ++ q :: t) = some (s, t) := by
  induction s with
  | nil => exact readBody_close q ht
  | cons c s ih =>
    rw [doubleMarks_cons]
    by_cases hc : c = q
    · rw [if_pos hc, hc]
      show readBody q (q :: q :: (doubleMarks q s ++ q :: t)) = _
      rw [readBody_double, ih]
      rfl
    · rw [if_neg hc, List.cons_append, List.nil_append, List.cons_append]
      -- the body is never empty behind `c`: at least the closing mark is there
      obtain ⟨d, rest, hrest⟩ : ∃ d rest, doubleMarks q s ++ q :: t = d :: rest :=
        List.exists_cons_of_ne_nil (by simp)
      rw [hrest] at ih ⊢
      rw [readBody_cons q hc, ih]
      rfl

theorem readEnclosed_enclose {t : List α} (ht : t.head? ≠ some q) (s : List α) :
    readEnclosed q (enclose q s ++ t) = some (s, t) := by
  have hbody := readBody_doubleMarks q ht s
  show (if q = q then readBody q (doubleMarks q s ++ [q] ++ t) else none) = some (s, t)
  rw [if_pos rfl, List.append_assoc]
  exact hbody

theorem enclose_injective : Function.Injective (enclose q) := by
  intro s s' h
  have hread := readEnclosed_enclose q (t := []) (by simp) s
  rw [h, readEnclosed_enclose q (by simp) s'] at hread
  simpa using hread.symm

end Quoting

/-! ## Tokens -/

inductive Token where
  | word (text : List Char)
  /-- A quoted name. -/
  | name (text : List Char)
  | symbol (c : Char)
deriving DecidableEq, Repr

def isWordChar (c : Char) : Bool := c.isAlphanum || c == '_'

/-- The tokens of a statement without literals, comments and operators. -/
def tokens : List Char → Option (List Token)
  | [] => some []
  | c :: rest =>
    if c = ' ' then tokens rest
    else if c = ';' then (tokens rest).map (.symbol c :: ·)
    else if c = '"' then
      match _h : readBody '"' rest with
      | none => none
      | some (text, behind) => (tokens behind).map (.name text :: ·)
    else if isWordChar c then
      (tokens (rest.dropWhile isWordChar)).map (.word (c :: rest.takeWhile isWordChar) :: ·)
    else none
termination_by text => text.length
decreasing_by
  · simp
  · simp
  · have hlt := readBody_length '"' _h
    simp only [List.length_cons]
    omega
  · have hle := (List.dropWhile_suffix (l := rest) isWordChar).length_le
    simp only [List.length_cons]
    omega

@[simp] lemma tokens_nil : tokens [] = some [] := by
  rw [tokens]

lemma tokens_blank (rest : List Char) : tokens (' ' :: rest) = tokens rest := by
  rw [tokens]
  simp

lemma tokens_semicolon (rest : List Char) :
    tokens (';' :: rest) = (tokens rest).map (.symbol ';' :: ·) := by
  rw [tokens]
  simp

/-- A word ends at the blank behind it. -/
lemma tokens_word {c : Char} {text : List Char} (hc : isWordChar c = true)
    (htext : text.all isWordChar = true) (rest : List Char) :
    tokens (c :: (text ++ ' ' :: rest)) = (tokens rest).map (.word (c :: text) :: ·) := by
  have hblank : c ≠ ' ' := by
    intro h
    rw [h] at hc
    exact absurd hc (by decide)
  have hsemicolon : c ≠ ';' := by
    intro h
    rw [h] at hc
    exact absurd hc (by decide)
  have hmark : c ≠ '"' := by
    intro h
    rw [h] at hc
    exact absurd hc (by decide)
  have hall : ∀ d ∈ text, isWordChar d = true := List.all_eq_true.mp htext
  have hend : isWordChar ' ' = false := by decide
  rw [tokens, if_neg hblank, if_neg hsemicolon, if_neg hmark, if_pos hc,
    List.takeWhile_append_of_pos hall, List.dropWhile_append_of_pos hall]
  simp only [List.takeWhile_cons, List.dropWhile_cons, hend, Bool.false_eq_true, if_false,
    List.append_nil, tokens_blank]

/-- Words, a blank behind each. -/
lemma tokens_words {words : List (List Char)}
    (hwords : (words.all fun word => !word.isEmpty && word.all isWordChar) = true)
    (rest : List Char) :
    tokens (words.flatMap (· ++ [' ']) ++ rest) = (tokens rest).map (words.map .word ++ ·) := by
  induction words with
  | nil => simp
  | cons word words ih =>
    rw [List.all_cons, Bool.and_eq_true, Bool.and_eq_true] at hwords
    obtain ⟨⟨hne, hword⟩, hwords⟩ := hwords
    cases word with
    | nil => exact absurd hne (by decide)
    | cons c text =>
      rw [List.all_cons, Bool.and_eq_true] at hword
      have htail := ih hwords
      have hfront := tokens_word hword.1 hword.2 (words.flatMap (· ++ [' ']) ++ rest)
      rw [htail, Option.map_map] at hfront
      rw [List.flatMap_cons, List.append_assoc, List.append_assoc, List.cons_append]
      exact hfront

/-- A quoted name is one token. -/
lemma tokens_enclose {t : List Char} (ht : t.head? ≠ some '"') (s : List Char) :
    tokens (enclose '"' s ++ t) = (tokens t).map (.name s :: ·) := by
  have hbody := readBody_doubleMarks '"' ht s
  unfold enclose
  rw [List.cons_append, List.append_assoc, List.singleton_append, tokens, if_neg (by decide),
    if_neg (by decide), if_pos rfl]
  split
  · next hnone =>
    rw [hbody] at hnone
    cases hnone
  · next text behind hsome =>
    rw [hbody] at hsome
    cases hsome
    rfl

end Lib
