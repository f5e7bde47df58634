import Mathlib.Data.List.TakeWhile
import PgliteOxide.Pglite.Templating

/-!
# Formatted queries

A query is given by its placeholder tokens; which `$n` are tokens is for the SQL scanner to say.
`format_query` finds placeholders by a pattern and hands the text to `format`, so that a
percent sign, a `$n` that is no token, or tokens out of order come out wrong.
-/

namespace PgliteOxide.Pglite

open Lib SqlFormat

/-! ## Placeholders of a text -/

namespace DollarPiece

variable {isDecimal : Char → Bool}

/-- At a dollar sign a new placeholder may begin. -/
lemma dollarFrom_append_dollar (hdollar : isDecimal '$' = false) (cs rest : List Char)
    (st : Option (List Char)) :
    dollarFrom isDecimal st (cs ++ '$' :: rest)
      = dollarFrom isDecimal st cs ++ dollarFrom isDecimal (some []) rest := by
  induction cs generalizing st with
  | nil =>
    rcases st with _ | _ | ⟨d, digits⟩ <;> simp [dollarFrom, hdollar]
  | cons c cs ih =>
    rcases st with _ | _ | ⟨d, digits⟩
    · by_cases hc : c = '$' <;> simp [dollarFrom, hc, ih]
    · by_cases hdecimal : isDecimal c = true
      · simp [dollarFrom, hdecimal, ih]
      · by_cases hc : c = '$' <;> simp [dollarFrom, hdecimal, hdollar, hc, ih]
    · by_cases hdecimal : isDecimal c = true
      · simp [dollarFrom, hdecimal, ih]
      · by_cases hc : c = '$' <;> simp [dollarFrom, hdecimal, hdollar, hc, ih]

/-- Digits go on as long as they can. -/
lemma dollarFrom_digits (d : Char) (digits cs : List Char) :
    dollarFrom isDecimal (some (d :: digits)) cs
      = .placeholder (d :: digits ++ cs.takeWhile isDecimal)
        :: dollarFrom isDecimal none (cs.dropWhile isDecimal) := by
  induction cs generalizing digits with
  | nil => simp [dollarFrom]
  | cons c cs ih =>
    by_cases hdecimal : isDecimal c = true
    · have htail := ih (digits ++ [c])
      simp only [dollarFrom, hdecimal, if_true, List.takeWhile_cons, List.dropWhile_cons]
      rw [show d :: digits ++ [c] = d :: (digits ++ [c]) from rfl, htail]
      simp
    · simp [dollarFrom, hdecimal]

lemma dollarFrom_placeholder {digits : List Char} (hne : digits ≠ [])
    (hdigits : ∀ c ∈ digits, isDecimal c = true) (cs : List Char) :
    dollarFrom isDecimal (some []) (digits ++ cs)
      = .placeholder (digits ++ cs.takeWhile isDecimal)
        :: dollarFrom isDecimal none (cs.dropWhile isDecimal) := by
  cases digits with
  | nil => exact absurd rfl hne
  | cons d digits =>
    have hd := hdigits d List.mem_cons_self
    have htail : ∀ c ∈ digits, isDecimal c = true := fun c hc =>
      hdigits c (List.mem_cons_of_mem d hc)
    rw [List.cons_append, dollarFrom, if_pos hd, dollarFrom_digits,
      List.takeWhile_append_of_pos htail, List.dropWhile_append_of_pos htail]
    rfl

/-- The pieces are the text. -/
lemma flatMap_source (st : Option (List Char)) (cs : List Char) :
    (dollarFrom isDecimal st cs).flatMap source = (st.map ('$' :: ·)).getD [] ++ cs := by
  induction cs generalizing st with
  | nil => rcases st with _ | _ | ⟨d, digits⟩ <;> simp [dollarFrom, source]
  | cons c cs ih =>
    rcases st with _ | _ | ⟨d, digits⟩
    · by_cases hc : c = '$' <;> simp [dollarFrom, source, hc, ih]
    · by_cases hdecimal : isDecimal c = true
      · simp [dollarFrom, hdecimal, ih]
      · by_cases hc : c = '$'
        · rw [hc] at hdecimal
          simp [dollarFrom, source, hdecimal, hc, ih]
        · simp [dollarFrom, source, hdecimal, hc, ih]
    · by_cases hdecimal : isDecimal c = true
      · simp [dollarFrom, hdecimal, ih]
      · by_cases hc : c = '$'
        · rw [hc] at hdecimal
          simp [dollarFrom, source, hdecimal, hc, ih]
        · simp [dollarFrom, source, hdecimal, hc, ih]

/-- Pieces without a match are characters. -/
lemma eq_map_char {pieces : List DollarPiece} (h : pieces.filterMap digits? = []) :
    pieces = (pieces.flatMap source).map .char := by
  induction pieces with
  | nil => rfl
  | cons piece pieces ih =>
    cases piece with
    | char c =>
      have htail := ih h
      simp only [List.flatMap_cons, source, List.map_cons, List.cons_append, List.nil_append]
      rw [← htail]
    | placeholder digits => simp [digits?] at h

lemma dollarPieces_eq_map {cs : List Char} (h : dollarMatches isDecimal cs = []) :
    dollarPieces isDecimal cs = cs.map .char := by
  have hpieces := eq_map_char h
  rw [dollarPieces, flatMap_source] at hpieces
  exact hpieces

lemma flatMap_map_char (cs : List Char) : (cs.map char).flatMap replaced = cs := by
  rw [List.flatMap_map]
  exact List.flatMap_singleton' cs

/-- Each match brings a percent sign, and takes a dollar sign. -/
lemma count_replaced (pieces : List DollarPiece) :
    (pieces.flatMap replaced).count '%'
        = (pieces.flatMap source).count '%' + (pieces.filterMap digits?).length ∧
      (pieces.flatMap replaced).count '$' + (pieces.filterMap digits?).length
        = (pieces.flatMap source).count '$' ∧
      (pieces.flatMap replaced).count '\'' = (pieces.flatMap source).count '\'' := by
  induction pieces with
  | nil => exact ⟨rfl, rfl, rfl⟩
  | cons piece pieces ih =>
    obtain ⟨hpercent, hdollar, hquote⟩ := ih
    cases piece with
    | char c =>
      simp only [List.flatMap_cons, source, replaced, List.count_append, List.filterMap_cons,
        digits?]
      omega
    | placeholder digits =>
      simp only [List.flatMap_cons, source, replaced, List.count_append, List.filterMap_cons,
        digits?, List.length_cons, List.count_cons, List.count_nil]
      simp
      omega

end DollarPiece

/-! ## Queries as the scanner reads them -/

/-- A placeholder token of a query: its digits, and the text up to the next token. -/
structure Placeholder where
  digits : List Char
  behind : List Char
  nonempty : digits ≠ []
  decimal : ∀ c ∈ digits, c.isDigit = true
  /-- The token has all its digits. -/
  ended : ∀ c ∈ behind.head?, c.isDigit = false

/-- A query. -/
structure Tokens where
  head : List Char
  placeholders : List Placeholder

namespace Placeholder

variable (p : Placeholder)

/-- The number of the parameter. -/
def number : ℕ := numberFrom 0 p.digits

def source : List Char := '$' :: (p.digits ++ p.behind)

/-- What `\d` takes of the text behind the token. -/
def extra (isDecimal : Char → Bool) : List Char := p.behind.takeWhile isDecimal

def after (isDecimal : Char → Bool) : List Char := p.behind.dropWhile isDecimal

lemma extra_append_after (isDecimal : Char → Bool) :
    p.extra isDecimal ++ p.after isDecimal = p.behind := List.takeWhile_append_dropWhile

/-- The pieces that begin at the token. -/
def pieces (isDecimal : Char → Bool) : List DollarPiece :=
  .placeholder (p.digits ++ p.extra isDecimal) :: dollarPieces isDecimal (p.after isDecimal)

lemma after_eq_behind {isDecimal : Char → Bool} (h : p.extra isDecimal = []) :
    p.after isDecimal = p.behind := by
  have happend := p.extra_append_after isDecimal
  rwa [h, List.nil_append] at happend

/-- The fields that tokens become. -/
def fields (ps : List Placeholder) : List (List Char × List Char) :=
  ps.map fun p => (p.digits, p.behind)

/-- From an argument on, the argument in turn is that of the token, and its literal is at least as
long as the number of the token: that number became a width. -/
def Aligned (args : List (Option (List Char))) : ℕ → List Placeholder → Prop
  | _, [] => True
  | k, p :: ps => (p.number < 2 ^ 31 ∧ ∃ arg, argument args k = some arg ∧
      argument args p.number = some arg ∧ p.number ≤ (literal arg).length) ∧
    Aligned args (k + 1) ps

/-- Tokens with their parameters put in. -/
def filled (args : List (Option (List Char))) : List Placeholder → Option (List Char)
  | [] => some []
  | p :: ps => (argument args p.number).bind fun arg =>
      (filled args ps).map fun out => literal arg ++ (p.behind ++ out)

end Placeholder

namespace Tokens

variable (q : Tokens)

def chars : List Char := q.head ++ q.placeholders.flatMap Placeholder.source

/-- The text of the query. -/
def sql : String := String.ofList q.chars

/-- **The query with each placeholder token replaced by the literal of its parameter**, and every
other character unchanged. -/
def filled (args : List (Option (List Char))) : Option (List Char) :=
  (Placeholder.filled args q.placeholders).map (q.head ++ ·)

/-- **What `format_query` preserves**: a query without a percent sign whose tokens are the matches of
the pattern, with arguments that stand in the order of the tokens. -/
structure Kept (isDecimal : Char → Bool) (args : List (Option (List Char))) : Prop where
  noPercent : '%' ∉ q.chars
  matched : dollarMatches isDecimal q.chars = q.placeholders.map Placeholder.digits
  aligned : Placeholder.Aligned args 1 q.placeholders

/-- The tokens are `$1`, `$2` and so on in this order, and nothing else is rewritten. -/
structure InOrder (isDecimal : Char → Bool) : Prop where
  noPercent : '%' ∉ q.chars
  matched : dollarMatches isDecimal q.chars = q.placeholders.map Placeholder.digits
  numbered : q.placeholders.map Placeholder.number = List.range' 1 q.placeholders.length

end Tokens

/-! ### Tokens and matches -/

section Scan

variable {isDecimal : Char → Bool}
  (hdecimal : ∀ c : Char, c.toNat < 128 → isDecimal c = c.isDigit)

include hdecimal

lemma isDecimal_of_isDigit {c : Char} (hc : c.isDigit = true) : isDecimal c = true := by
  have hlt : c.toNat < 128 := by
    have hbounds := Char.isDigit_iff_toNat.mp hc
    have hnine : '9'.toNat = 57 := rfl
    omega
  rw [hdecimal c hlt, hc]

/-- Every token is the beginning of a match. -/
lemma dollarFrom_tokens (ps : List Placeholder) (st : Option (List Char)) (cs : List Char) :
    dollarFrom isDecimal st (cs ++ ps.flatMap Placeholder.source)
      = dollarFrom isDecimal st cs ++ ps.flatMap (Placeholder.pieces · isDecimal) := by
  have hdollar : isDecimal '$' = false := by rw [hdecimal '$' (by decide)]; decide
  induction ps generalizing st cs with
  | nil => simp
  | cons p ps ih =>
    have hdigits : ∀ c ∈ p.digits, isDecimal c = true := fun c hc =>
      isDecimal_of_isDigit hdecimal (p.decimal c hc)
    have hsplit : cs ++ (p :: ps).flatMap Placeholder.source
        = cs ++ '$' :: ((p.digits ++ p.behind) ++ ps.flatMap Placeholder.source) := rfl
    rw [hsplit, DollarPiece.dollarFrom_append_dollar hdollar, ih (some []) (p.digits ++ p.behind),
      DollarPiece.dollarFrom_placeholder p.nonempty hdigits]
    rfl

lemma dollarPieces_tokens (q : Tokens) :
    dollarPieces isDecimal q.chars
      = dollarPieces isDecimal q.head ++ q.placeholders.flatMap (Placeholder.pieces · isDecimal) :=
  dollarFrom_tokens hdecimal q.placeholders none q.head

end Scan

section Alone

variable {isDecimal : Char → Bool}

/-- No match outside the tokens. -/
structure Tokens.Alone (isDecimal : Char → Bool) (q : Tokens) : Prop where
  head : dollarMatches isDecimal q.head = []
  after : ∀ p ∈ q.placeholders, dollarMatches isDecimal (p.after isDecimal) = []

/-- At least as many matches as tokens, and no more only if the tokens are alone. -/
lemma length_matches_pieces (ps : List Placeholder) :
    ps.length ≤ ((ps.flatMap (Placeholder.pieces · isDecimal)).filterMap
        DollarPiece.digits?).length ∧
      (((ps.flatMap (Placeholder.pieces · isDecimal)).filterMap DollarPiece.digits?).length
          ≤ ps.length →
        ∀ p ∈ ps, dollarMatches isDecimal (p.after isDecimal) = []) := by
  induction ps with
  | nil => simp
  | cons p ps ih =>
    have hcons : ((p :: ps).flatMap (Placeholder.pieces · isDecimal)).filterMap DollarPiece.digits?
        = (p.digits ++ p.extra isDecimal) :: (dollarMatches isDecimal (p.after isDecimal)
          ++ (ps.flatMap (Placeholder.pieces · isDecimal)).filterMap DollarPiece.digits?) := by
      rw [List.flatMap_cons, List.filterMap_append]
      rfl
    rw [hcons, List.length_cons, List.length_cons, List.length_append]
    constructor
    · have hle := ih.1
      omega
    · intro hlen
      have hle := ih.1
      have hzero : (dollarMatches isDecimal (p.after isDecimal)).length = 0 := by omega
      have htail := ih.2 (by omega)
      exact List.forall_mem_cons.mpr ⟨List.length_eq_zero_iff.mp hzero, htail⟩

lemma map_pieces_of_alone {ps : List Placeholder}
    (h : ∀ p ∈ ps, dollarMatches isDecimal (p.after isDecimal) = []) :
    (ps.flatMap (Placeholder.pieces · isDecimal)).filterMap DollarPiece.digits?
        = ps.map (fun p => p.digits ++ p.extra isDecimal) ∧
      (ps.flatMap (Placeholder.pieces · isDecimal)).flatMap DollarPiece.replaced
        = ps.flatMap fun p =>
            '%' :: (p.digits ++ p.extra isDecimal ++ ['L']) ++ p.after isDecimal := by
  induction ps with
  | nil => exact ⟨rfl, rfl⟩
  | cons p ps ih =>
    have hp := h p List.mem_cons_self
    obtain ⟨hmatches, htemplate⟩ := ih fun p' hp' => h p' (List.mem_cons_of_mem p hp')
    constructor
    · rw [List.flatMap_cons, List.filterMap_append, hmatches]
      show (p.digits ++ p.extra isDecimal) :: dollarMatches isDecimal (p.after isDecimal) ++ _ = _
      rw [hp]
      rfl
    · rw [List.flatMap_cons, List.flatMap_append, htemplate, Placeholder.pieces,
        DollarPiece.dollarPieces_eq_map hp, List.flatMap_cons, DollarPiece.flatMap_map_char]
      rfl

variable (hdecimal : ∀ c : Char, c.toNat < 128 → isDecimal c = c.isDigit) {q : Tokens}

include hdecimal

lemma dollarMatches_tokens :
    dollarMatches isDecimal q.chars = dollarMatches isDecimal q.head
      ++ (q.placeholders.flatMap (Placeholder.pieces · isDecimal)).filterMap
        DollarPiece.digits? := by
  rw [dollarMatches, dollarPieces_tokens hdecimal, List.filterMap_append]
  rfl

lemma Tokens.alone_of_length
    (h : (dollarMatches isDecimal q.chars).length ≤ q.placeholders.length) :
    q.Alone isDecimal := by
  obtain ⟨hle, hafter⟩ := @length_matches_pieces isDecimal q.placeholders
  rw [dollarMatches_tokens hdecimal, List.length_append] at h
  have hzero : (dollarMatches isDecimal q.head).length = 0 := by omega
  exact ⟨List.length_eq_zero_iff.mp hzero, hafter (by omega)⟩

lemma Tokens.Alone.matches_eq (h : q.Alone isDecimal) :
    dollarMatches isDecimal q.chars
      = q.placeholders.map fun p => p.digits ++ p.extra isDecimal := by
  rw [dollarMatches_tokens hdecimal, h.head, (map_pieces_of_alone h.after).1]
  rfl

lemma Tokens.Alone.formatTemplate_eq (h : q.Alone isDecimal) :
    formatTemplate isDecimal q.chars = q.head ++ q.placeholders.flatMap fun p =>
      '%' :: (p.digits ++ p.extra isDecimal ++ ['L']) ++ p.after isDecimal := by
  rw [formatTemplate, dollarPieces_tokens hdecimal, List.flatMap_append,
    (map_pieces_of_alone h.after).2, DollarPiece.dollarPieces_eq_map h.head,
    DollarPiece.flatMap_map_char]

/-- The matches are the tokens when there is no other match and none goes on behind its token. -/
lemma Tokens.matched_iff :
    dollarMatches isDecimal q.chars = q.placeholders.map Placeholder.digits ↔
      q.Alone isDecimal ∧ ∀ p ∈ q.placeholders, p.extra isDecimal = [] := by
  constructor
  · intro h
    have halone : q.Alone isDecimal := alone_of_length hdecimal (by rw [h, List.length_map])
    rw [halone.matches_eq hdecimal] at h
    refine ⟨halone, fun p hp => ?_⟩
    have hsame := List.map_inj_left.mp h p hp
    exact List.append_right_eq_self.mp hsame
  · intro ⟨halone, hextra⟩
    rw [halone.matches_eq hdecimal]
    apply List.map_congr_left
    intro p hp
    rw [hextra p hp, List.append_nil]

/-- What the placeholders become when they are the tokens. -/
lemma Tokens.formatTemplate_of_matched
    (h : dollarMatches isDecimal q.chars = q.placeholders.map Placeholder.digits) :
    formatTemplate isDecimal q.chars
      = q.head ++ literalTemplate (Placeholder.fields q.placeholders) := by
  obtain ⟨halone, hextra⟩ := (Tokens.matched_iff hdecimal).mp h
  rw [halone.formatTemplate_eq hdecimal, literalTemplate, Placeholder.fields, List.flatMap_map]
  congr 1
  rw [List.flatMap_def, List.flatMap_def]
  congr 1
  apply List.map_congr_left
  intro p hp
  show _ = '%' :: (p.digits ++ ['L']) ++ p.behind
  rw [hextra p hp, List.append_nil, p.after_eq_behind (hextra p hp)]

end Alone

/-! ### What comes out -/

section Outputs

section

variable {args : List (Option (List Char))} {ps : List Placeholder} {k : ℕ}
  {written filled : List Char}

/-- A field and what follows it. -/
lemma literals_cons {p : Placeholder}
    (h : literals args k (Placeholder.fields (p :: ps)) = some written) :
    p.number < 2 ^ 31 ∧ ∃ arg rest, argument args k = some arg ∧
      literals args (k + 1) (Placeholder.fields ps) = some rest ∧
      written = pad false (p.number : ℕ) (literal arg) ++ (p.behind ++ rest) := by
  change (if p.number < 2 ^ 31 then (argument args k).bind fun arg =>
    (literals args (k + 1) (Placeholder.fields ps)).map fun out =>
      pad false (p.number : ℕ) (literal arg) ++ (p.behind ++ out) else none) = some written at h
  split_ifs at h with hsmall
  obtain ⟨arg, harg, hmap⟩ := Option.bind_eq_some_iff.mp h
  obtain ⟨rest, hrest, hwritten⟩ := Option.map_eq_some_iff.mp hmap
  exact ⟨hsmall, arg, rest, harg, hrest, hwritten.symm⟩

lemma filled_cons {p : Placeholder} (h : Placeholder.filled args (p :: ps) = some filled) :
    ∃ arg rest, argument args p.number = some arg ∧
      Placeholder.filled args ps = some rest ∧ filled = literal arg ++ (p.behind ++ rest) := by
  obtain ⟨arg, harg, hmap⟩ := Option.bind_eq_some_iff.mp h
  obtain ⟨rest, hrest, hfilled⟩ := Option.map_eq_some_iff.mp hmap
  exact ⟨arg, rest, harg, hrest, hfilled.symm⟩

/-- Arguments in the order of the tokens are written where they belong. -/
lemma literals_of_aligned (h : Placeholder.Aligned args k ps) :
    ∃ out, literals args k (Placeholder.fields ps) = some out ∧
      Placeholder.filled args ps = some out := by
  induction ps generalizing k with
  | nil => exact ⟨[], rfl, rfl⟩
  | cons p ps ih =>
    obtain ⟨⟨hsmall, arg, harg, harg', hroom⟩, htail⟩ := h
    obtain ⟨out, hwritten, hfilled⟩ := ih htail
    refine ⟨literal arg ++ (p.behind ++ out), ?_, ?_⟩
    · show (if p.number < 2 ^ 31 then (argument args k).bind fun arg =>
        (literals args (k + 1) (Placeholder.fields ps)).map fun out =>
          pad false (p.number : ℕ) (literal arg) ++ (p.behind ++ out) else none) = _
      rw [if_pos hsmall, harg, hwritten, Option.bind_some, Option.map_some, pad_eq_self hroom]
    · show (argument args p.number).bind _ = _
      rw [harg', hfilled]
      rfl

/-- Tokens numbered in order: blanks are all that can be too much. -/
lemma aligned_of_numbered (hnumbered : ps.map Placeholder.number = List.range' k ps.length)
    (hwritten : literals args k (Placeholder.fields ps) = some written)
    (hfilled : Placeholder.filled args ps = some filled) :
    filled.length ≤ written.length ∧ (written = filled → Placeholder.Aligned args k ps) := by
  induction ps generalizing k written filled with
  | nil =>
    rw [← Option.some.inj hwritten, ← Option.some.inj hfilled]
    exact ⟨le_rfl, fun _ => trivial⟩
  | cons p ps ih =>
    simp only [List.map_cons, List.length_cons, List.range'_succ, List.cons.injEq] at hnumbered
    obtain ⟨hnumber, hrest⟩ := hnumbered
    obtain ⟨hsmall, arg, written', harg, htail, rfl⟩ := literals_cons hwritten
    obtain ⟨arg', filled', harg', htail', rfl⟩ := filled_cons hfilled
    have hsame : arg = arg' := by
      rw [hnumber, harg] at harg'
      exact Option.some.inj harg'
    rw [← hsame] at harg' ⊢
    obtain ⟨hle, haligned⟩ := ih hrest htail htail'
    constructor
    · simp only [List.length_append, length_pad]
      omega
    · intro heq
      have hlen := congrArg List.length heq
      simp only [List.length_append, length_pad] at hlen
      have hroom : p.number ≤ (literal arg).length := by omega
      rw [pad_eq_self hroom] at heq
      have hsame := List.append_cancel_left (List.append_cancel_left heq)
      exact ⟨⟨hsmall, arg, harg, harg', hroom⟩, haligned hsame⟩

/-- Plain texts show what was written for what. -/
lemma aligned_of_plain (hargs : ∀ arg ∈ args, ∃ text, arg = some text ∧ Plain text)
    (hwritten : literals args k (Placeholder.fields ps) = some filled)
    (hfilled : Placeholder.filled args ps = some filled) : Placeholder.Aligned args k ps := by
  induction ps generalizing k filled with
  | nil => exact trivial
  | cons p ps ih =>
    obtain ⟨hsmall, arg, written, harg, htail, heq⟩ := literals_cons hwritten
    obtain ⟨arg', rest, harg', htail', rfl⟩ := filled_cons hfilled
    obtain ⟨text, rfl, hplain⟩ := hargs arg (argument_mem harg)
    obtain ⟨text', rfl, hplain'⟩ := hargs arg' (argument_mem harg')
    have hroom : p.number ≤ (literal (some text)).length := width_le_of_pad hplain' heq.symm
    rw [pad_eq_self hroom] at heq
    obtain ⟨rfl, hrest⟩ := quoteLiteral_append_inj hplain' hplain heq
    rw [← List.append_cancel_left hrest] at htail
    exact ⟨⟨hsmall, some text', harg, harg', hroom⟩, ih htail htail'⟩

/-- A token becomes two quotes. -/
lemma count_filled (hargs : ∀ arg ∈ args, ∃ text, arg = some text ∧ Plain text)
    (h : Placeholder.filled args ps = some filled) :
    filled.count '%' = (ps.flatMap Placeholder.source).count '%' ∧
      filled.count '$' + ps.length = (ps.flatMap Placeholder.source).count '$' ∧
      filled.count '\'' = (ps.flatMap Placeholder.source).count '\'' + 2 * ps.length := by
  induction ps generalizing filled with
  | nil =>
    rw [← Option.some.inj h]
    exact ⟨rfl, rfl, rfl⟩
  | cons p ps ih =>
    obtain ⟨arg, rest, harg, htail, rfl⟩ := filled_cons h
    obtain ⟨text, rfl, hplain⟩ := hargs arg (argument_mem harg)
    obtain ⟨hpercent, hdollar, hquote⟩ := ih htail
    obtain ⟨hpercent', hdollar', hquote'⟩ := count_quoteLiteral_of_plain hplain
    have hdigits : ∀ {c : Char}, c.isDigit = false → p.digits.count c = 0 := by
      intro c hc
      refine List.count_eq_zero.mpr fun hmem => ?_
      rw [p.decimal c hmem] at hc
      cases hc
    show (quoteLiteral text ++ (p.behind ++ rest)).count '%' = _ ∧
      (quoteLiteral text ++ (p.behind ++ rest)).count '$' + _ = _ ∧
      (quoteLiteral text ++ (p.behind ++ rest)).count '\'' = _
    simp only [List.flatMap_cons, List.count_append, Placeholder.source, List.count_cons,
      List.length_cons]
    rw [hpercent', hdollar', hquote', hdigits (by decide), hdigits (by decide),
      hdigits (by decide), hpercent, hquote]
    simp
    omega

end

variable {isDecimal : Char → Bool}

/-- A digit of another script behind a token is no type: `format` refuses it. -/
lemma extra_eq_nil (hdecimal : ∀ c : Char, c.toNat < 128 → isDecimal c = c.isDigit)
    {quoting : Quoting} {args : List (Option (List Char))} {ps : List Placeholder} {s s' : State}
    (hs : s.mode = .text) (htext : ∀ p ∈ ps, '%' ∉ p.after isDecimal)
    (h : (ps.flatMap fun p => '%' :: (p.digits ++ p.extra isDecimal ++ ['L'])
      ++ p.after isDecimal).foldlM (step quoting args) s = some s') :
    ∀ p ∈ ps, p.extra isDecimal = [] := by
  induction ps generalizing s with
  | nil => simp
  | cons p ps ih =>
    have hp := htext p List.mem_cons_self
    rcases hextra : p.extra isDecimal with _ | ⟨c, extra⟩
    · rw [List.flatMap_cons, hextra, List.append_nil, List.append_assoc, List.foldlM_append,
        foldlM_literal p.decimal p.nonempty hs] at h
      obtain ⟨t, ht, h⟩ := Option.bind_eq_some_iff.mp h
      split_ifs at ht
      obtain ⟨arg, -, rfl⟩ := Option.map_eq_some_iff.mp ht
      rw [List.foldlM_append, foldlM_text hp rfl] at h
      have htail := ih (s := { out := _, next := _, mode := .text }) rfl
        (fun p' hp' => htext p' (List.mem_cons_of_mem p hp')) h
      exact List.forall_mem_cons.mpr ⟨hextra, htail⟩
    · have hmem : c ∈ p.extra isDecimal := by simp [hextra]
      have hc : isDecimal c = true := List.mem_takeWhile_imp hmem
      have hhead : p.behind.head? = some c := by
        rw [← p.extra_append_after isDecimal, hextra]
        rfl
      have hdigit := p.ended c (by rw [hhead]; rfl)
      have hother : c ∉ ['$', 's', 'I', 'L'] := by
        intro hin
        have hsmall : c.toNat < 128 := by
          simp only [List.mem_cons, List.not_mem_nil, or_false] at hin
          rcases hin with rfl | rfl | rfl | rfl <;> decide
        rw [hdecimal c hsmall, hdigit] at hc
        cases hc
      have hsplit : (p :: ps).flatMap (fun p => '%' :: (p.digits ++ p.extra isDecimal ++ ['L'])
          ++ p.after isDecimal)
          = '%' :: (p.digits ++ c :: (extra ++ ['L'] ++ p.after isDecimal ++ ps.flatMap fun p =>
              '%' :: (p.digits ++ p.extra isDecimal ++ ['L']) ++ p.after isDecimal)) := by
        rw [List.flatMap_cons, hextra]
        simp
      rw [hsplit, foldlM_untyped p.decimal p.nonempty hs hdigit hother] at h
      cases h

namespace Tokens

variable {q : Tokens} {quoting : Quoting}

lemma not_mem_of_noPercent (h : '%' ∉ q.chars) :
    '%' ∉ q.head ∧ ∀ p ∈ q.placeholders, '%' ∉ p.behind := by
  constructor
  · exact fun hmem => h (List.mem_append_left _ hmem)
  · intro p hp hmem
    have hsource : '%' ∈ p.source :=
      List.mem_cons_of_mem '$' (List.mem_append_right p.digits hmem)
    exact h (List.mem_append_right q.head (List.mem_flatMap_of_mem hp hsource))

variable (hdecimal : ∀ c : Char, c.toNat < 128 → isDecimal c = c.isDigit)

include hdecimal

/-- The output of a template whose specifiers are the tokens. -/
lemma format_of_matched {args : List (Option (List Char))} (hpercent : '%' ∉ q.chars)
    (hmatched : dollarMatches isDecimal q.chars = q.placeholders.map Placeholder.digits) :
    format quoting args (formatTemplate isDecimal q.chars)
      = (literals args 1 (Placeholder.fields q.placeholders)).map (q.head ++ ·) := by
  obtain ⟨hhead, hbehind⟩ := not_mem_of_noPercent hpercent
  rw [formatTemplate_of_matched hdecimal hmatched]
  apply format_literals hhead
  · intro field hfield
    obtain ⟨p, -, rfl⟩ := List.mem_map.mp hfield
    exact ⟨p.nonempty, p.decimal⟩
  · intro field hfield
    obtain ⟨p, hp, rfl⟩ := List.mem_map.mp hfield
    exact hbehind p hp

/-- **What is preserved comes out right.** -/
lemma Kept.format_eq {args : List (Option (List Char))} (h : q.Kept isDecimal args) :
    ∃ expected, q.filled args = some expected ∧
      format quoting args (formatTemplate isDecimal q.chars) = some expected := by
  obtain ⟨out, hwritten, hfilled⟩ := literals_of_aligned h.aligned
  refine ⟨q.head ++ out, ?_, ?_⟩
  · rw [Tokens.filled, hfilled]
    rfl
  · rw [format_of_matched hdecimal h.noPercent h.matched, hwritten]
    rfl

variable {args : List (Option (List Char))} {expected : List Char}

lemma InOrder.kept (h : q.InOrder isDecimal) (hfilled : q.filled args = some expected)
    (hformat : format quoting args (formatTemplate isDecimal q.chars) = some expected) :
    q.Kept isDecimal args := by
  rw [format_of_matched hdecimal h.noPercent h.matched] at hformat
  obtain ⟨filled, hps, rfl⟩ := Option.map_eq_some_iff.mp hfilled
  obtain ⟨written, hwritten, hsame⟩ := Option.map_eq_some_iff.mp hformat
  have haligned := (aligned_of_numbered h.numbered hwritten hps).2
  exact ⟨h.noPercent, h.matched, haligned (List.append_cancel_left hsame)⟩

/-- **Plain texts give the rest away.** The marks of the template and of the output are counted
first: only the tokens can have become specifiers. -/
lemma kept_of_plain
    (hident : ∀ text, quoting.quoteIdent text = text ∨
      quoting.quoteIdent text = '"' :: (text.flatMap (doubled ['"']) ++ ['"']))
    (hargs : ∀ arg ∈ args, ∃ text, arg = some text ∧ Plain text)
    (hfilled : q.filled args = some expected)
    (hformat : format quoting args (formatTemplate isDecimal q.chars) = some expected) :
    q.Kept isDecimal args := by
  obtain ⟨filled, hps, rfl⟩ := Option.map_eq_some_iff.mp hfilled
  obtain ⟨specifiers, hpercent, hdollar, hquote⟩ :=
    format_counts (unmarked_of_plain hident hargs) hformat
  obtain ⟨hpercent₁, hdollar₁, hquote₁⟩ := count_filled hargs hps
  obtain ⟨hpercent₂, hdollar₂, hquote₂⟩ :=
    DollarPiece.count_replaced (dollarPieces isDecimal q.chars)
  have hsource : (dollarPieces isDecimal q.chars).flatMap DollarPiece.source = q.chars :=
    DollarPiece.flatMap_source none q.chars
  rw [hsource] at hpercent₂ hdollar₂ hquote₂
  change (formatTemplate isDecimal q.chars).count '%'
    = q.chars.count '%' + (dollarMatches isDecimal q.chars).length at hpercent₂
  change (formatTemplate isDecimal q.chars).count '$' + (dollarMatches isDecimal q.chars).length
    = q.chars.count '$' at hdollar₂
  change (formatTemplate isDecimal q.chars).count '\'' = q.chars.count '\'' at hquote₂
  have hchars : ∀ c, q.chars.count c
      = q.head.count c + (q.placeholders.flatMap Placeholder.source).count c := fun c =>
    List.count_append
  rw [List.count_append] at hpercent hdollar hquote
  have hpercents := hchars '%'
  have hdollars := hchars '$'
  have hquotes := hchars '\''
  have hzero : q.chars.count '%' = 0 := by omega
  have hnoPercent : '%' ∉ q.chars := List.count_eq_zero.mp hzero
  obtain ⟨hhead, hbehind⟩ := not_mem_of_noPercent hnoPercent
  have halone : q.Alone isDecimal := alone_of_length hdecimal (by omega)
  have hextra : ∀ p ∈ q.placeholders, p.extra isDecimal = [] := by
    rw [halone.formatTemplate_eq hdecimal, format] at hformat
    obtain ⟨s, hfold, -⟩ := Option.bind_eq_some_iff.mp hformat
    rw [List.foldlM_append, foldlM_text hhead rfl] at hfold
    refine extra_eq_nil hdecimal (s := { init with out := [] ++ q.head }) rfl (fun p hp hmem => ?_)
      hfold
    have happend := p.extra_append_after isDecimal
    refine hbehind p hp ?_
    rw [← happend]
    exact List.mem_append_right _ hmem
  have hmatched := (matched_iff hdecimal).mpr ⟨halone, hextra⟩
  rw [format_of_matched hdecimal hnoPercent hmatched] at hformat
  obtain ⟨written, hwritten, hsame⟩ := Option.map_eq_some_iff.mp hformat
  rw [List.append_cancel_left hsame] at hwritten
  exact ⟨hnoPercent, hmatched, aligned_of_plain hargs hwritten hps⟩

end Tokens

end Outputs

/-! ## `format_query` on a server that formats -/

section Server

variable {σ : Type}

/-- An argument of `format`: the parameter is read as its type, and shown. -/
def paramText (argText : Int32 → Value → Option String) (oid : Int32) (value : Value) :
    Option (Option (List Char)) :=
  if value.isNull then some none else (argText oid value).map fun text => some text.toList

/-- The arguments. -/
def paramTexts (argText : Int32 → Value → Option String) :
    List Int32 → List Value → Option (List (Option (List Char)))
  | oid :: oids, value :: params => do
    let text ← paramText argText oid value
    let texts ← paramTexts argText oids params
    return text :: texts
  | _, _ => some []

/-- What the server makes of a template and parameters. -/
def serverFormat (quoting : Quoting) (argText : Int32 → Value → Option String)
    (types : List Int32) (template : String) (params : List Value) : Option String := do
  let texts ← paramTexts argText types params
  let out ← format quoting texts template.toList
  return String.ofList out

/-- A row with the text, or no results. -/
def Answers (outcome : Outcome ClientError Results) : Option String → Prop
  | some text => ∃ results map rows, outcome = .ok results ∧ results.rows = .object map :: rows ∧
      map.lookup "query" = some (.string text)
  | none => ∀ results, outcome ≠ .ok results

/-- The server executes the statement of `format_query` as `format` is documented. -/
def Formats (quoting : Quoting) (argText : Int32 → Value → Option String)
    (query : String → List Value → Option QueryOptions → Method σ Results)
    (dataTypeIds : List Int32) (t : Session σ) : Prop :=
  ∀ template params, Answers
    (query (formatSql params.length) (.string template :: params)
      (some (formatOptions dataTypeIds params.length)) t).2
    (serverFormat quoting argText (formatTypes dataTypeIds params.length) template params)

variable {isDecimal : Char → Bool} {quoting : Quoting}
  {argText : Int32 → Value → Option String} {describeQuery : String → Method σ (List Int32)}
  {query : String → List Value → Option QueryOptions → Method σ Results}
  {dataTypeIds : List Int32} {s t : Session σ}

/-- `format_query` returns what the server makes of its template. -/
lemma formatQuery_eq_ok_iff {sql : String} {params : List Value}
    (hdescribe : describeQuery sql s = (t, .ok dataTypeIds))
    (hserver : Formats quoting argText query dataTypeIds t) (hparams : 0 < params.length)
    {text : String} :
    (formatQuery isDecimal describeQuery query sql params s).2 = .ok text ↔
      serverFormat quoting argText (formatTypes dataTypeIds params.length)
        (String.ofList (formatTemplate isDecimal sql.toList)) params = some text := by
  have hanswer := hserver (String.ofList (formatTemplate isDecimal sql.toList)) params
  have hcons : formatQuery isDecimal describeQuery query sql params
      = describeQuery sql >>= fun dataTypeIds =>
          query (formatSql params.length)
            (.string (String.ofList (formatTemplate isDecimal sql.toList)) :: params)
            (some (formatOptions dataTypeIds params.length)) >>= fun results =>
          formattedText results.rows := by
    cases params with
    | nil => cases hparams
    | cons value params => rfl
  rw [hcons, Stateful.bind_of_ok hdescribe]
  generalize query (formatSql params.length)
    (.string (String.ofList (formatTemplate isDecimal sql.toList)) :: params)
    (some (formatOptions dataTypeIds params.length)) = answer at hanswer ⊢
  cases hformat : serverFormat quoting argText (formatTypes dataTypeIds params.length)
    (String.ofList (formatTemplate isDecimal sql.toList)) params with
  | none =>
    rw [hformat] at hanswer
    have hnone : ∀ results, (answer t).2 ≠ .ok results := hanswer
    rcases hrun : answer t with ⟨u, results | err | _⟩
    · exact absurd (congrArg Prod.snd hrun) (hnone results)
    · rw [Stateful.bind_of_err hrun]
      simp
    · rw [Stateful.bind_of_panic hrun]
      simp
  | some formatted =>
    rw [hformat] at hanswer
    obtain ⟨results, map, rows, hok, hrows, hlookup⟩ := hanswer
    rcases hrun : answer t with ⟨u, outcome⟩
    rw [hrun] at hok
    have hok : outcome = .ok results := hok
    rw [hok] at hrun
    rw [Stateful.bind_of_ok hrun, hrows]
    simp only [formattedText, hlookup]
    show (Outcome.ok formatted : Outcome ClientError String) = .ok text ↔ _
    simp

/-- The query with its parameters put in is returned. -/
def Faithful (q : Tokens) (texts : List (Option (List Char)))
    (outcome : Outcome ClientError String) : Prop :=
  ∃ expected, q.filled texts = some expected ∧ outcome = .ok (String.ofList expected)

lemma faithful_iff {q : Tokens} {params : List Value} {texts : List (Option (List Char))}
    (hdescribe : describeQuery q.sql s = (t, .ok dataTypeIds))
    (hserver : Formats quoting argText query dataTypeIds t) (hparams : 0 < params.length)
    (htexts : paramTexts argText (formatTypes dataTypeIds params.length) params = some texts) :
    Faithful q texts (formatQuery isDecimal describeQuery query q.sql params s).2 ↔
      ∃ expected, q.filled texts = some expected ∧
        format quoting texts (formatTemplate isDecimal q.chars) = some expected := by
  unfold Faithful
  refine exists_congr fun expected => and_congr_right fun _ => ?_
  rw [formatQuery_eq_ok_iff hdescribe hserver hparams, serverFormat, htexts, Tokens.sql,
    String.toList_ofList]
  simp only [Option.bind_eq_bind, Option.bind_some, String.toList_ofList, Option.pure_def,
    Option.bind_eq_some_iff, Option.some.injEq]
  constructor
  · intro ⟨out, hout, hsame⟩
    rw [hout, String.ofList_injective hsame]
  · exact fun hformat => ⟨expected, hformat, rfl⟩

/-- **Faithfulness of `format_query`.** What `Kept` describes is formatted faithfully, and nothing else
is when the tokens of the query are in order or the parameters are plain texts. -/
theorem formatQuery_faithful_iff
    (hdecimal : ∀ c : Char, c.toNat < 128 → isDecimal c = c.isDigit)
    (hident : ∀ text, quoting.quoteIdent text = text ∨
      quoting.quoteIdent text = '"' :: (text.flatMap (doubled ['"']) ++ ['"'])) {q : Tokens}
    (hdescribe : describeQuery q.sql s = (t, .ok dataTypeIds))
    (hserver : Formats quoting argText query dataTypeIds t) {params : List Value}
    (hparams : 0 < params.length) {texts : List (Option (List Char))}
    (htexts : paramTexts argText (formatTypes dataTypeIds params.length) params = some texts) :
    (q.Kept isDecimal texts →
      Faithful q texts (formatQuery isDecimal describeQuery query q.sql params s).2) ∧
    (q.InOrder isDecimal ∨ (∀ arg ∈ texts, ∃ text, arg = some text ∧ Plain text) →
      Faithful q texts (formatQuery isDecimal describeQuery query q.sql params s).2 →
      q.Kept isDecimal texts) := by
  rw [faithful_iff hdescribe hserver hparams htexts]
  constructor
  · intro hkept
    exact hkept.format_eq hdecimal
  · intro hcase hfaithful
    obtain ⟨expected, hfilled, hformat⟩ := hfaithful
    rcases hcase with horder | hplain
    · exact horder.kept hdecimal hfilled hformat
    · exact Tokens.kept_of_plain hdecimal hident hplain hfilled hformat

/-! ### A server -/

/-- Identifiers are always quoted. -/
def plainQuoting : Quoting where
  quoteIdent text := '"' :: (text.flatMap (doubled ['"']) ++ ['"'])
  int4in text := (String.ofList text).toInt?

/-- A parameter is shown as it was sent. -/
def sentText (_ : Int32) (value : Value) : Option String :=
  some (Session.defaultSerializeValue value)

/-- A server on which every parameter is a text. -/
def describeTexts (_ : String) : Method Unit (List Int32) := return []

/-- The answer to the statement of `format_query`. -/
def formatTexts (_ : String) (params : List Value) (options : Option QueryOptions) :
    Method Unit Results :=
  let types := (options.getD .default).paramTypes.tail
  let template := Session.defaultSerializeValue (params.headD .null)
  match serverFormat plainQuoting sentText types template params.tail with
  | some text => return { rows := [.object [("query", .string text)]], fields := [],
                          affectedRows := none, blob := none }
  | none => Session.bail "format failed"

lemma formatTexts_formats (t : Session Unit) :
    Formats plainQuoting sentText formatTexts [] t := by
  intro template params
  show Answers (formatTexts _ _ (some (formatOptions [] params.length)) t).2
    (serverFormat plainQuoting sentText (formatTypes [] params.length) template params)
  have htypes : ((some (formatOptions [] params.length)).getD .default).paramTypes.tail
      = formatTypes [] params.length := rfl
  unfold formatTexts
  simp only [htypes, List.headD_cons, List.tail_cons]
  cases hformat : serverFormat plainQuoting sentText (formatTypes [] params.length)
    (Session.defaultSerializeValue (.string template)) params with
  | none =>
    rw [show serverFormat plainQuoting sentText (formatTypes [] params.length) template params
      = none from hformat]
    intro results h
    cases h
  | some text =>
    rw [show serverFormat plainQuoting sentText (formatTypes [] params.length) template params
      = some text from hformat]
    refine ⟨_, _, _, rfl, rfl, ?_⟩
    simp

end Server

/-- `SELECT $1 || $2`. -/
def selectBoth : Tokens where
  head := "SELECT ".toList
  placeholders := [⟨['1'], " || ".toList, by simp, by simp, by simp⟩,
    ⟨['2'], [], by simp, by simp, by simp⟩]

theorem formatQuery_faithful_selectBoth :
    Faithful selectBoth [some ['O', '\'', 'H'], some ['x']]
      (formatQuery Char.isDigit describeTexts formatTexts "SELECT $1 || $2"
        [.string "O'H", .string "x"] (Session.opened [] [] ())).2 :=
  (@formatQuery_faithful_iff Unit Char.isDigit plainQuoting sentText describeTexts formatTexts []
    (Session.opened [] [] ()) (Session.opened [] [] ()) (fun _ _ => rfl) (fun _ => .inr rfl)
    selectBoth rfl (formatTexts_formats _) [.string "O'H", .string "x"] (by decide)
    [some ['O', '\'', 'H'], some ['x']] rfl).1
    ⟨by decide, by decide, ⟨by decide, some ['O', '\'', 'H'], rfl, rfl, by decide⟩,
      ⟨by decide, some ['x'], rfl, rfl, by decide⟩, trivial⟩

/-- `SELECT $2, $1`. -/
def selectSwapped : Tokens where
  head := "SELECT ".toList
  placeholders := [⟨['2'], ", ".toList, by simp, by simp, by simp⟩,
    ⟨['1'], [], by simp, by simp, by simp⟩]

/-- `SELECT 'x%', $1`. -/
def selectPercent : Tokens where
  head := "SELECT 'x%', ".toList
  placeholders := [⟨['1'], [], by simp, by simp, by simp⟩]

/-- Parameters are put in as they come, and a percent sign is an error. -/
theorem formatQuery_swaps :
    ¬ Faithful selectSwapped [some ['x'], some ['y']]
      (formatQuery Char.isDigit describeTexts formatTexts "SELECT $2, $1"
        [.string "x", .string "y"] (Session.opened [] [] ())).2 ∧
    ¬ Faithful selectPercent [some ['x']]
      (formatQuery Char.isDigit describeTexts formatTexts "SELECT 'x%', $1"
        [.string "x"] (Session.opened [] [] ())).2 := by
  constructor
  · have hiff := @faithful_iff Unit Char.isDigit plainQuoting sentText describeTexts formatTexts []
      (Session.opened [] [] ()) (Session.opened [] [] ()) selectSwapped
      [.string "x", .string "y"] [some ['x'], some ['y']] rfl (formatTexts_formats _)
      (by decide) rfl
    have hne : selectSwapped.filled [some ['x'], some ['y']]
        ≠ format plainQuoting [some ['x'], some ['y']]
          (formatTemplate Char.isDigit selectSwapped.chars) := by decide
    intro hfaithful
    obtain ⟨expected, hfilled, hformat⟩ := hiff.mp hfaithful
    exact hne (hfilled.trans hformat.symm)
  · have hiff := @faithful_iff Unit Char.isDigit plainQuoting sentText describeTexts formatTexts []
      (Session.opened [] [] ()) (Session.opened [] [] ()) selectPercent
      [.string "x"] [some ['x']] rfl (formatTexts_formats _) (by decide) rfl
    have hne : selectPercent.filled [some ['x']]
        ≠ format plainQuoting [some ['x']]
          (formatTemplate Char.isDigit selectPercent.chars) := by decide
    intro hfaithful
    obtain ⟨expected, hfilled, hformat⟩ := hiff.mp hfaithful
    exact hne (hfilled.trans hformat.symm)

end PgliteOxide.Pglite
