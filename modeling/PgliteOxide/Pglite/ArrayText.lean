import PgliteOxide.Pglite.Types

/-!
# Array texts

The grammar of what `ArrayTextParser` reads. An array text is made of pieces: quoted texts, bare
texts and nested arrays, with a delimiter between them. `parseArrayText_render` says that the text
of an array is read piece by piece, each through `apply_element_parser`.
-/

namespace PgliteOxide.Pglite

open Lib

/-! ## Pieces -/

/-- An element of an array text. -/
inductive Piece where
  | quoted (text : List Char)
  | bare (text : List Char)
  | nested (pieces : List Piece)

/-- A quote or a backslash is written behind a backslash. -/
def escapeQuoted (c : Char) : List Char := if c = '"' ∨ c = '\\' then ['\\', c] else [c]

namespace Piece

/-- The empty bare text. -/
def isBlank : Piece → Bool
  | bare [] => true
  | _ => false

mutual

/-- The text of a piece. -/
def render (d : Char) : Piece → List Char
  | quoted text => '"' :: (text.flatMap escapeQuoted ++ ['"'])
  | bare text => text
  | nested pieces => '{' :: (renderAll d pieces ++ ['}'])

/-- The texts of pieces, with a delimiter between them. -/
def renderAll (d : Char) : List Piece → List Char
  | [] => []
  | [piece] => piece.render d
  | piece :: next :: pieces => piece.render d ++ d :: renderAll d (next :: pieces)

end

/-- A bare text stands for itself: it does not end early and is not taken for another piece. -/
def BareOk (d : Char) (text : List Char) : Prop :=
  d ∉ text ∧ '}' ∉ text ∧ text.head? ≠ some '{' ∧ text.head? ≠ some '"'

lemma render_of_isBlank {d : Char} {piece : Piece} (h : piece.isBlank = true) :
    piece.render d = [] := by
  cases piece with
  | quoted text => cases h
  | nested pieces => cases h
  | bare text =>
    cases text with
    | nil => rw [render]
    | cons c text => cases h

lemma length_le_renderAll (d : Char) (piece : Piece) (pieces : List Piece) :
    (piece.render d).length ≤ (renderAll d (piece :: pieces)).length := by
  cases pieces with
  | nil => rw [renderAll]
  | cons next pieces =>
    rw [renderAll, List.length_append]
    omega

mutual

/-- Every bare text stands for itself. -/
def Ok (d : Char) : Piece → Prop
  | quoted _ => True
  | bare text => BareOk d text
  | nested pieces => AllOk d pieces

def AllOk (d : Char) : List Piece → Prop
  | [] => True
  | piece :: pieces => piece.Ok d ∧ AllOk d pieces

end

mutual

/-- What a piece is read as, when a text is read by `element`. -/
def decode (element : String → Bool → Outcome Empty Value) : Piece → Outcome Empty Value
  | quoted text => element (String.ofList text) true
  | bare text => element (String.ofList (trim text)) false
  | nested pieces => do
    let values ← decodeAll element pieces
    return .array values

/-- What pieces are read as; an empty bare text at the end is no element. -/
def decodeAll (element : String → Bool → Outcome Empty Value) :
    List Piece → Outcome Empty (List Value)
  | [] => .ok []
  | piece :: pieces =>
    if piece.isBlank && pieces.isEmpty then .ok []
    else do
      let value ← piece.decode element
      let values ← decodeAll element pieces
      return value :: values

end

end Piece

/-! ## Positions -/

/-- The number of bytes of a text. -/
def utf8Length : List Char → ℕ
  | [] => 0
  | c :: cs => c.utf8Size + utf8Length cs

namespace ArrayTextParser

variable {p : ArrayTextParser} {index : ℕ} {rest : List Char}

/-- What is left of the text at an index. -/
def At (p : ArrayTextParser) (index : ℕ) (rest : List Char) : Prop :=
  charsFrom p.text.toList index = .ok rest

lemma charsFrom_append (front rest : List Char) :
    charsFrom (front ++ rest) (utf8Length front) = .ok rest := by
  induction front with
  | nil => cases rest <;> rfl
  | cons c front ih =>
    have hpos := c.utf8Size_pos
    have hsum : utf8Length (c :: front) = c.utf8Size + utf8Length front := rfl
    obtain ⟨n, hn⟩ : ∃ n, utf8Length (c :: front) = n + 1 :=
      ⟨utf8Length (c :: front) - 1, by omega⟩
    rw [hn, List.cons_append, charsFrom, if_pos (by omega)]
    have hrest : n + 1 - c.utf8Size = utf8Length front := by omega
    rw [hrest, ih]

/-- Behind a character comes what follows it. -/
lemma charsFrom_next {cs : List Char} {c : Char} (h : charsFrom cs index = .ok (c :: rest)) :
    charsFrom cs (index + c.utf8Size) = .ok rest := by
  induction cs generalizing index with
  | nil =>
    cases index with
    | zero => simp [charsFrom] at h
    | succ index => simp [charsFrom] at h
  | cons d cs ih =>
    cases index with
    | zero =>
      have hcs : d :: cs = c :: rest := by simpa [charsFrom] using h
      obtain ⟨rfl, rfl⟩ := List.cons.inj hcs
      have hone := charsFrom_append [d] cs
      have hlen : utf8Length [d] = 0 + d.utf8Size := by
        rw [utf8Length, utf8Length, Nat.add_zero, Nat.zero_add]
      rw [hlen] at hone
      exact hone
    | succ index =>
      rw [charsFrom] at h
      split at h
      · rename_i hle
        have hnext := ih h
        have hpos : index + 1 + c.utf8Size = (index + c.utf8Size) + 1 := by omega
        have hsub : (index + c.utf8Size) + 1 - d.utf8Size
            = index + 1 - d.utf8Size + c.utf8Size := by omega
        rw [hpos, charsFrom, if_pos (by omega), hsub]
        exact hnext
      · cases h

/-- No more is left than there is. -/
lemma charsFrom_length {cs : List Char} (h : charsFrom cs index = .ok rest) :
    rest.length ≤ cs.length := by
  induction cs generalizing index with
  | nil =>
    cases index with
    | zero =>
      have hrest : [] = rest := by simpa [charsFrom] using h
      rw [← hrest]
    | succ index => simp [charsFrom] at h
  | cons d cs ih =>
    cases index with
    | zero =>
      have hrest : d :: cs = rest := by simpa [charsFrom] using h
      rw [← hrest]
    | succ index =>
      rw [charsFrom] at h
      split at h
      · have hle := ih h
        rw [List.length_cons]
        omega
      · cases h

lemma At.peek (h : p.At index rest) : p.peek index = .ok rest.head? := by
  unfold ArrayTextParser.peek
  rw [h]
  rfl

lemma At.next {c : Char} (h : p.At index (c :: rest)) : p.At (index + c.utf8Size) rest :=
  charsFrom_next h

lemma At.advance {c : Char} (h : p.At index (c :: rest)) :
    p.advance index = .ok (index + c.utf8Size) := by
  unfold ArrayTextParser.advance
  rw [h.peek]
  rfl

lemma At.length_le (h : p.At index rest) : rest.length ≤ p.text.toList.length :=
  charsFrom_length h

/-! ## Quoted and bare texts -/

lemma length_le_escaped (text : List Char) : text.length ≤ (text.flatMap escapeQuoted).length := by
  induction text with
  | nil => simp
  | cons c text ih =>
    have hc : 1 ≤ (escapeQuoted c).length := by
      unfold escapeQuoted
      split <;> simp
    rw [List.flatMap_cons, List.length_append, List.length_cons]
    omega

lemma parseQuotedFrom_eq {text tail value : List Char} {rounds : ℕ}
    (h : p.At index (text.flatMap escapeQuoted ++ '"' :: tail)) (hrounds : text.length < rounds) :
    ∃ index', p.At index' tail ∧ p.parseQuotedFrom rounds index value = (do
      let parsed ← p.applyElementParser (String.ofList (value ++ text)) true
      return (parsed, index')) := by
  induction text generalizing index rounds value with
  | nil =>
    obtain ⟨rounds, rfl⟩ : ∃ r, rounds = r + 1 := ⟨rounds - 1, by omega⟩
    refine ⟨_, h.next, ?_⟩
    have hquote : ('"' : Char) ≠ '\\' := by decide
    rw [parseQuotedFrom, h.peek]
    simp only [List.flatMap_nil, List.nil_append, List.head?_cons, Outcome.ok_bind, h.advance,
      if_neg hquote, if_true, List.append_nil]
  | cons c text ih =>
    rw [List.length_cons] at hrounds
    obtain ⟨rounds, rfl⟩ : ∃ r, rounds = r + 1 := ⟨rounds - 1, by omega⟩
    have hvalue : value ++ c :: text = (value ++ [c]) ++ text := by simp
    by_cases hescape : c = '"' ∨ c = '\\'
    · rw [List.flatMap_cons, escapeQuoted, if_pos hescape] at h
      have hslash : p.At index ('\\' :: c :: (text.flatMap escapeQuoted ++ '"' :: tail)) := h
      obtain ⟨index', hat, hrest⟩ : ∃ index', p.At index' tail ∧
          p.parseQuotedFrom rounds _ (value ++ [c]) = _ :=
        ih hslash.next.next (show text.length < rounds by omega)
      refine ⟨index', hat, ?_⟩
      rw [parseQuotedFrom, hslash.peek]
      simp only [List.head?_cons, Outcome.ok_bind, hslash.advance, if_true, hslash.next.peek,
        hslash.next.advance]
      rw [hrest, hvalue]
    · rw [List.flatMap_cons, escapeQuoted, if_neg hescape] at h
      rw [not_or] at hescape
      have hplain : p.At index (c :: (text.flatMap escapeQuoted ++ '"' :: tail)) := h
      obtain ⟨index', hat, hrest⟩ : ∃ index', p.At index' tail ∧
          p.parseQuotedFrom rounds _ (value ++ [c]) = _ :=
        ih hplain.next (show text.length < rounds by omega)
      refine ⟨index', hat, ?_⟩
      rw [parseQuotedFrom, hplain.peek]
      simp only [List.head?_cons, Outcome.ok_bind, hplain.advance, if_neg hescape.1,
        if_neg hescape.2]
      rw [hrest, hvalue]

/-- A quoted text is read up to the quote that ends it. -/
lemma parseQuoted_eq {text tail : List Char}
    (h : p.At index ((Piece.quoted text).render p.delimiter ++ tail)) :
    ∃ index', p.At index' tail ∧ p.parseQuoted index = (do
      let parsed ← (Piece.quoted text).decode p.applyElementParser
      return (parsed, index')) := by
  have hquote : p.At index ('"' :: (text.flatMap escapeQuoted ++ '"' :: tail)) := by
    simpa [Piece.render] using h
  have hlong := length_le_escaped text
  have hlen := hquote.length_le
  rw [List.length_cons, List.length_append] at hlen
  obtain ⟨index', hat, hrest⟩ := @parseQuotedFrom_eq p _ text tail []
    (p.text.toList.length + 1) hquote.next (by omega)
  refine ⟨index', hat, ?_⟩
  rw [parseQuoted, hquote.advance]
  simp only [Outcome.ok_bind, hrest, List.nil_append, Piece.decode]

/-- A bare text is read up to the delimiter or the brace behind it. -/
lemma parseUnquotedFrom_eq {text tail slice : List Char} {c : Char} {rounds : ℕ}
    (h : p.At index (text ++ c :: tail)) (hd : p.delimiter ∉ text) (hbrace : '}' ∉ text)
    (hc : c = p.delimiter ∨ c = '}') (hrounds : text.length < rounds) :
    ∃ index', p.At index' (c :: tail) ∧
      p.parseUnquotedFrom rounds index slice = .ok (slice ++ text, index') := by
  induction text generalizing index rounds slice with
  | nil =>
    obtain ⟨rounds, rfl⟩ : ∃ r, rounds = r + 1 := ⟨rounds - 1, by omega⟩
    refine ⟨index, h, ?_⟩
    rw [parseUnquotedFrom, h.peek]
    simp only [List.nil_append, List.head?_cons, Outcome.ok_bind, if_pos hc, List.append_nil]
    rfl
  | cons a text ih =>
    rw [List.length_cons] at hrounds
    obtain ⟨rounds, rfl⟩ : ∃ r, rounds = r + 1 := ⟨rounds - 1, by omega⟩
    rw [List.mem_cons, not_or] at hd hbrace
    have hcons : p.At index (a :: (text ++ c :: tail)) := h
    obtain ⟨index', hat, hrest⟩ : ∃ index', p.At index' (c :: tail) ∧
        p.parseUnquotedFrom rounds _ (slice ++ [a]) = .ok (slice ++ [a] ++ text, index') :=
      ih hcons.next hd.2 hbrace.2 (show text.length < rounds by omega)
    refine ⟨index', hat, ?_⟩
    have hstop : ¬ (a = p.delimiter ∨ a = '}') := by
      rintro (rfl | rfl)
      · exact hd.1 rfl
      · exact hbrace.1 rfl
    rw [parseUnquotedFrom, hcons.peek]
    simp only [List.head?_cons, Outcome.ok_bind, hcons.advance, if_neg hstop, hrest,
      List.append_assoc, List.singleton_append]

lemma parseUnquoted_eq {text tail : List Char} {c : Char}
    (h : p.At index ((Piece.bare text).render p.delimiter ++ c :: tail))
    (hok : Piece.BareOk p.delimiter text) (hc : c = p.delimiter ∨ c = '}') :
    ∃ index', p.At index' (c :: tail) ∧ p.parseUnquoted index = (do
      let parsed ← (Piece.bare text).decode p.applyElementParser
      return (parsed, index')) := by
  have hbare : p.At index (text ++ c :: tail) := by simpa [Piece.render] using h
  have hlen := hbare.length_le
  rw [List.length_append] at hlen
  obtain ⟨index', hat, hrest⟩ := @parseUnquotedFrom_eq p _ text tail [] c
    (p.text.toList.length + 1) hbare hok.1 hok.2.1 hc (by omega)
  refine ⟨index', hat, ?_⟩
  rw [parseUnquoted, hrest]
  simp only [Outcome.ok_bind, List.nil_append, Piece.decode]

/-! ## Whole arrays -/

/-- The element at an index, by its first character. -/
def parseItem (p : ArrayTextParser) (depth : ℕ) (ch : Char) (index : ℕ) :
    Outcome Empty (Value × ℕ) :=
  if ch = '{' then p.parseArray depth index
  else if ch = '"' then p.parseQuoted index
  else p.parseUnquoted index

/-- A round of `parse_array` that reads an element. -/
lemma parseArrayFrom_item {depth index' : ℕ} {ch c : Char} {front tail : List Char}
    {values : List Value} {value : Outcome Empty Value} (h : p.At index (ch :: front))
    (hch : ch ≠ '}') (hat : p.At index' (c :: tail))
    (hitem : p.parseItem depth ch index = (do let v ← value; return (v, index'))) :
    p.parseArrayFrom (depth + 1) index values = (do
      let v ← value
      p.parseArrayFrom depth (if c = p.delimiter then index' + c.utf8Size else index')
        (values ++ [v])) := by
  -- the delimiter behind the element is skipped
  have hskip : ∀ v, (do
      let next ← p.peek index'
      if next = some p.delimiter then do
        let index ← p.advance index'
        p.parseArrayFrom depth index (values ++ [v])
      else p.parseArrayFrom depth index' (values ++ [v]) : Outcome Empty (Value × ℕ))
      = p.parseArrayFrom depth (if c = p.delimiter then index' + c.utf8Size else index')
        (values ++ [v]) := by
    intro v
    rw [hat.peek]
    by_cases hc : c = p.delimiter
    · simp only [List.head?_cons, Outcome.ok_bind, hc, if_true]
      rw [← hc, hat.advance]
      rfl
    · have hne : ¬ some c = some p.delimiter := by simpa using hc
      simp only [List.head?_cons, Outcome.ok_bind, if_neg hne, if_neg hc]
  rw [parseArrayFrom, h.peek]
  simp only [List.head?_cons, Outcome.ok_bind, if_neg hch]
  unfold parseItem at hitem
  by_cases hbrace : ch = '\x7b'
  · rw [if_pos hbrace] at hitem ⊢
    rw [hitem]
    simp only [bind_assoc, pure_bind, hskip]
  · rw [if_neg hbrace] at hitem ⊢
    by_cases hquote : ch = '"'
    · rw [if_pos hquote] at hitem ⊢
      rw [hitem]
      simp only [bind_assoc, pure_bind, hskip]
    · rw [if_neg hquote] at hitem ⊢
      rw [hitem]
      simp only [bind_assoc, pure_bind, hskip]

/-- The end of an array. -/
lemma parseArrayFrom_close {depth : ℕ} {tail : List Char} {values : List Value}
    (h : p.At index ('}' :: tail)) (hdepth : 0 < depth) :
    p.parseArrayFrom depth index values = .ok (.array values, index + ('}' : Char).utf8Size) := by
  obtain ⟨depth, rfl⟩ : ∃ k, depth = k + 1 := ⟨depth - 1, by omega⟩
  rw [parseArrayFrom, h.peek]
  simp only [List.head?_cons, Outcome.ok_bind, if_true, h.advance]
  rfl

/-- What `parseArrayFrom` makes of pieces whose text has a given length. -/
def ReadsPieces (p : ArrayTextParser) (pieces : List Piece) : Prop :=
  ∀ index depth values tail, p.At index (Piece.renderAll p.delimiter pieces ++ '}' :: tail) →
    2 * (Piece.renderAll p.delimiter pieces).length < depth →
    ∃ index', p.At index' tail ∧ p.parseArrayFrom depth index values = (do
      let vs ← Piece.decodeAll p.applyElementParser pieces
      return (.array (values ++ vs), index'))

variable (hbrace : p.delimiter ≠ '\x7b') (hclose : p.delimiter ≠ '\x7d')
  (hquote : p.delimiter ≠ '"')

include hbrace hclose hquote

/-- An element is read as its piece. -/
lemma parseItem_eq {piece : Piece} {depth : ℕ} {c : Char} {tail : List Char}
    (h : p.At index (piece.render p.delimiter ++ c :: tail)) (hok : piece.Ok p.delimiter)
    (hc : c = p.delimiter ∨ (c = '}' ∧ piece.isBlank = false))
    (hdepth : 2 * (piece.render p.delimiter).length ≤ depth)
    (hnested : ∀ pieces, piece = .nested pieces → p.ReadsPieces pieces) :
    ∃ ch front index', piece.render p.delimiter ++ c :: tail = ch :: front ∧ ch ≠ '}' ∧
      p.At index' (c :: tail) ∧
      p.parseItem depth ch index
        = (do let v ← piece.decode p.applyElementParser; return (v, index')) := by
  cases piece with
  | quoted text =>
    obtain ⟨index', hat, hread⟩ := parseQuoted_eq h
    refine ⟨'"', _, index', by rw [Piece.render]; rfl, by decide, hat, ?_⟩
    rw [parseItem, if_neg (by decide), if_pos rfl, hread]
  | nested pieces =>
    have hinner :
        p.At index ('\x7b' :: (Piece.renderAll p.delimiter pieces ++ '\x7d' :: c :: tail)) := by
      simpa [Piece.render] using h
    rw [Piece.render, List.length_cons, List.length_append] at hdepth
    obtain ⟨depth, rfl⟩ : ∃ k, depth = k + 1 := ⟨depth - 1, by omega⟩
    obtain ⟨index', hat, hread⟩ := hnested pieces rfl _ depth [] _ hinner.next (by omega)
    refine ⟨'{', _, index', by rw [Piece.render]; rfl, by decide, hat, ?_⟩
    rw [parseItem, if_pos rfl, parseArray, hinner.peek]
    simp only [List.head?_cons, Outcome.ok_bind, ne_eq, not_true, if_false, hinner.advance, hread,
      Piece.decode, bind_assoc, pure_bind, List.nil_append]
  | bare text =>
    have hend : c = p.delimiter ∨ c = '}' := hc.imp_right And.left
    obtain ⟨index', hat, hread⟩ := parseUnquoted_eq h hok hend
    have hitem : ∀ ch, ch ≠ '{' → ch ≠ '"' → p.parseItem depth ch index
        = (do let v ← (Piece.bare text).decode p.applyElementParser; return (v, index')) := by
      intro ch h₁ h₂
      rw [parseItem, if_neg h₁, if_neg h₂, hread]
    cases text with
    | nil =>
      have hcd : c = p.delimiter := by
        rcases hc with hc | ⟨-, hblank⟩
        · exact hc
        · cases hblank
      refine ⟨c, tail, index', by rw [Piece.render]; rfl, hcd ▸ hclose, hat, hitem c ?_ ?_⟩
      · exact hcd ▸ hbrace
      · exact hcd ▸ hquote
    | cons a text =>
      have ha : a ≠ '}' := fun ha => hok.2.1 (ha ▸ List.mem_cons_self)
      refine ⟨a, _, index', by rw [Piece.render]; rfl, ha, hat, hitem a ?_ ?_⟩
      · simpa using hok.2.2.1
      · simpa using hok.2.2.2

/-- Pieces are read one after the other. -/
lemma readsPieces (pieces : List Piece) (hok : Piece.AllOk p.delimiter pieces) :
    p.ReadsPieces pieces := by
  -- by induction on the length of the text
  induction hn : (Piece.renderAll p.delimiter pieces).length using Nat.strong_induction_on
    generalizing pieces with
  | h n ih =>
  intro index depth values tail h hdepth
  cases pieces with
  | nil =>
    refine ⟨_, h.next, ?_⟩
    rw [parseArrayFrom_close h (by omega), Piece.decodeAll]
    simp
  | cons piece pieces =>
    obtain ⟨depth, rfl⟩ : ∃ k, depth = k + 1 := ⟨depth - 1, by omega⟩
    by_cases hlast : (piece.isBlank && pieces.isEmpty) = true
    · -- an empty bare text in front of the brace is no element
      rw [Bool.and_eq_true] at hlast
      have hpieces : pieces = [] := List.isEmpty_iff.mp hlast.2
      have htext : Piece.renderAll p.delimiter (piece :: pieces) = [] := by
        rw [hpieces, Piece.renderAll]
        exact Piece.render_of_isBlank hlast.1
      rw [htext] at h
      have hdecode : Piece.decodeAll p.applyElementParser (piece :: pieces) = .ok [] := by
        rw [Piece.decodeAll, hpieces, hlast.1]
        rfl
      refine ⟨_, ArrayTextParser.At.next h, ?_⟩
      rw [parseArrayFrom_close h (by omega), hdecode]
      simp
    · have hdecode : Piece.decodeAll p.applyElementParser (piece :: pieces) = (do
          let value ← piece.decode p.applyElementParser
          let values ← Piece.decodeAll p.applyElementParser pieces
          return value :: values) := by
        rw [Piece.decodeAll, if_neg hlast]
      have hnested : ∀ inner, piece = .nested inner → p.ReadsPieces inner := by
        intro inner hinner
        rw [hinner] at hok hn
        have hlen := Piece.length_le_renderAll p.delimiter (.nested inner) pieces
        rw [Piece.render, List.length_cons, List.length_append] at hlen
        exact ih _ (by omega) inner hok.1 rfl
      have hpiece := Piece.length_le_renderAll p.delimiter piece pieces
      cases pieces with
      | nil =>
        have hblank : piece.isBlank = false := by simpa using hlast
        have hdeep : 2 * (piece.render p.delimiter).length ≤ depth := by omega
        obtain ⟨ch, front, index', hfront, hch, hat, hitem⟩ := parseItem_eq hbrace hclose hquote
          h hok.1 (.inr ⟨rfl, hblank⟩) hdeep hnested
        have hcons : p.At index (ch :: front) := hfront ▸ h
        refine ⟨_, hat.next, ?_⟩
        rw [parseArrayFrom_item hcons hch hat hitem, hdecode, if_neg hclose.symm]
        cases piece.decode p.applyElementParser with
        | err e => exact e.elim
        | panic => rfl
        | ok v =>
          have htext : 0 < (piece.render p.delimiter).length := by
            cases hrender : piece.render p.delimiter with
            | nil =>
              rw [hrender] at hfront
              exact absurd (List.cons.inj hfront).1.symm hch
            | cons a text => simp
          simp only [Outcome.ok_bind]
          rw [parseArrayFrom_close hat (by omega)]
          rfl
      | cons next pieces =>
        have hrest : Piece.renderAll p.delimiter (piece :: next :: pieces)
            = piece.render p.delimiter
              ++ p.delimiter :: Piece.renderAll p.delimiter (next :: pieces) := by
          rw [Piece.renderAll]
        have hlen := congrArg List.length hrest
        rw [List.length_append, List.length_cons] at hlen
        rw [hrest, List.append_assoc] at h
        have hdeep : 2 * (piece.render p.delimiter).length ≤ depth := by omega
        obtain ⟨ch, front, index', hfront, hch, hat, hitem⟩ := parseItem_eq hbrace hclose hquote
          h hok.1 (.inl rfl) hdeep hnested
        have hcons : p.At index (ch :: front) := hfront ▸ h
        have hnext : ∀ vs, ∃ index'', p.At index'' tail ∧
            p.parseArrayFrom depth (index' + p.delimiter.utf8Size) vs = (do
              let ws ← Piece.decodeAll p.applyElementParser (next :: pieces)
              return (.array (vs ++ ws), index'')) := fun vs =>
          ih _ (by omega) (next :: pieces) hok.2 rfl _ depth vs tail hat.next (by omega)
        rw [parseArrayFrom_item hcons hch hat hitem, hdecode, if_pos rfl]
        cases piece.decode p.applyElementParser with
        | err e => exact e.elim
        | panic =>
          obtain ⟨index'', hat'', -⟩ := hnext []
          exact ⟨index'', hat'', rfl⟩
        | ok v =>
          obtain ⟨index'', hat'', hread⟩ := hnext (values ++ [v])
          refine ⟨index'', hat'', ?_⟩
          simp only [Outcome.ok_bind, hread, bind_assoc, pure_bind, List.append_assoc,
            List.singleton_append]

end ArrayTextParser

/-! ## The text of an array -/

/-- `apply_element_parser`, without the array text around the element. -/
def elementValue (elementParser : Option TypeParser) (oid : Int32) (slice : String)
    (quoted : Bool) : Outcome Empty Value :=
  match elementParser with
  | some parser => parser slice oid
  | none => if !quoted && eqIgnoreAsciiCase slice "NULL" then .ok .null else .ok (.string slice)

/-- The characters in front of an array text do not matter. -/
lemma findChar_append {front rest : List Char} {c : Char} (h : c ∉ front) :
    findChar c (front ++ c :: rest) = some (utf8Length front) := by
  induction front with
  | nil => rw [List.nil_append, findChar, if_pos rfl, utf8Length]
  | cons d front ih =>
    rw [List.mem_cons, not_or] at h
    rw [List.cons_append, findChar, if_neg (Ne.symm h.1), ih h.2]
    rfl

/-- **An array text is read piece by piece**, whatever stands in front of its first brace. -/
theorem parseArrayText_render {front : List Char} {pieces : List Piece} {d : Char}
    (elementParser : Option TypeParser) (oid : Int32) (hfront : '\x7b' ∉ front)
    (hok : Piece.AllOk d pieces) (hbrace : d ≠ '\x7b') (hclose : d ≠ '\x7d') (hquote : d ≠ '"') :
    parseArrayText (String.ofList (front ++ (Piece.nested pieces).render d)) elementParser oid d
      = (Piece.nested pieces).decode (elementValue elementParser oid) := by
  have hrender : (Piece.nested pieces).render d
      = '\x7b' :: (Piece.renderAll d pieces ++ ['\x7d']) := by
    rw [Piece.render]
  unfold parseArrayText
  have hfind : findChar '\x7b' (String.ofList (front ++ (Piece.nested pieces).render d)).toList
      = some (utf8Length front) := by
    rw [String.toList_ofList, hrender]
    exact findChar_append hfront
  rw [hfind]
  simp only
  generalize hp : ({ text := String.ofList (front ++ (Piece.nested pieces).render d)
                     elementParser, elementTypeId := oid, delimiter := d } : ArrayTextParser) = p
  have hd : p.delimiter = d := by rw [← hp]
  have helement : elementValue elementParser oid = p.applyElementParser := by
    rw [← hp]
    rfl
  have htext : p.text.toList = front ++ (Piece.nested pieces).render d := by
    rw [← hp, String.toList_ofList]
  have hat : p.At (utf8Length front)
      ('\x7b' :: (Piece.renderAll p.delimiter pieces ++ '\x7d' :: [])) := by
    show ArrayTextParser.charsFrom p.text.toList _ = _
    rw [htext, hd, hrender]
    exact ArrayTextParser.charsFrom_append _ _
  have hlen := hat.length_le
  rw [List.length_cons, List.length_append] at hlen
  have hlist : (String.ofList (front ++ (Piece.nested pieces).render d)).toList = p.text.toList := by
    rw [htext, String.toList_ofList]
  obtain ⟨index', -, hread⟩ := ArrayTextParser.readsPieces (hd ▸ hbrace) (hd ▸ hclose)
    (hd ▸ hquote) pieces (hd ▸ hok) _ (2 * p.text.toList.length + 1) [] [] hat.next (by omega)
  rw [hlist, ArrayTextParser.parseArray, hat.peek, helement]
  simp only [List.head?_cons, Outcome.ok_bind, ne_eq, not_true, if_false, hat.advance, hread,
    Piece.decode, bind_assoc, pure_bind, List.nil_append]

end PgliteOxide.Pglite
