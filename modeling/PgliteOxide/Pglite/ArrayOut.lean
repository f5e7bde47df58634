import PgliteOxide.Pglite.ArrayText

/-!
# Reading what a server writes

Arrays as a server has them, their text by `array_out`, and what `parse_array_text` makes of it.
-/

namespace PgliteOxide.Pglite

open Lib

/-! ## `array_out` -/

/-- An array, or an element of one: a text, NULL, or an array of elements. -/
inductive ArrayItem where
  | null
  | text (s : String)
  | array (items : List ArrayItem)

/-- The white space of array texts. -/
def isArraySpace (c : Char) : Bool := c.toNat = 32 || (9 ≤ c.toNat && c.toNat ≤ 13)

/-- A text that has to be quoted. -/
def needsQuote (d : Char) (s : String) : Bool :=
  s = "" || eqIgnoreAsciiCase s "NULL"
    || s.toList.any fun c => c = '"' || c = '\\' || c = '\x7b' || c = '\x7d' || c = d || isArraySpace c

namespace ArrayItem

mutual

/-- The text of an array or an element. -/
def out (d : Char) : ArrayItem → List Char
  | null => ['N', 'U', 'L', 'L']
  | text s =>
    if needsQuote d s then '"' :: (s.toList.flatMap escapeQuoted ++ ['"']) else s.toList
  | array items => '\x7b' :: (outAll d items ++ ['\x7d'])

def outAll (d : Char) : List ArrayItem → List Char
  | [] => []
  | [item] => item.out d
  | item :: next :: items => item.out d ++ d :: outAll d (next :: items)

end

/-- Induction over elements. -/
theorem elements_induction {P : ArrayItem → Prop} (null : P null) (text : ∀ s, P (text s))
    (array : ∀ items, (∀ item ∈ items, P item) → P (array items)) : ∀ item, P item
  | .null => null
  | .text s => text s
  | .array items => array items fun item _ => elements_induction null text array item
termination_by item => sizeOf item

end ArrayItem

/-- The bounds in front of an array text, if there are some: `[l:u]` for each dimension. -/
def boundsText (bounds : List (ℤ × ℤ)) : List Char :=
  if bounds = [] then []
  else
    bounds.flatMap (fun (l, u) =>
      '[' :: ((toString l).toList ++ ':' :: ((toString u).toList ++ [']']))) ++ ['=']

/-- `array_out`. -/
def arrayOut (bounds : List (ℤ × ℤ)) (d : Char) (items : List ArrayItem) : String :=
  String.ofList (boundsText bounds ++ (ArrayItem.array items).out d)

example : arrayOut [(0, 1)] ',' [.text "a b", .null] = "[0:1]=\x7b\"a b\",NULL\x7d" := by
  decide +kernel

/-! ## What the elements stand for -/

/-- A text without the white space at its ends. -/
def trimmed (s : String) : String := String.ofList (trim s.toList)

section Read

variable (d : Char) (oid : Int32) (parser : Option (String → Int32 → Value))

namespace ArrayItem

mutual

/-- The value of an element: NULL is null, and a text goes through the parser, if there is one. -/
def value : ArrayItem → Value
  | null => .null
  | text s =>
    match parser with
    | some p => p s oid
    | none => .string s
  | array items => .array (valueAll items)

def valueAll : List ArrayItem → List Value
  | [] => []
  | item :: items => item.value :: valueAll items

end

mutual

/-- What an element has to be for its value to be read. A NULL needs a delimiter that is no letter
of `NULL`, and a parser that makes null of this text; a text that is not quoted has to stand for
itself without the white space at its ends. -/
def Kept : ArrayItem → Prop
  | null => d ∉ ['N', 'U', 'L'] ∧ ∀ p, parser = some p → p "NULL" oid = .null
  | text s => needsQuote d s = true ∨
    match parser with
    | some p => p (trimmed s) oid = p s oid
    | none => trimmed s = s
  | array items => KeptAll items

def KeptAll : List ArrayItem → Prop
  | [] => True
  | item :: items => item.Kept ∧ KeptAll items

end

end ArrayItem

/-- The parser as one of the registry. -/
def typeParser : Option TypeParser := parser.map fun p text oid => .ok (p text oid)

/-- What `apply_element_parser` makes of a text. -/
def readText (text : String) (quoted : Bool) : Value :=
  match parser with
  | some p => p text oid
  | none => if !quoted && eqIgnoreAsciiCase text "NULL" then .null else .string text

lemma elementValue_typeParser (text : String) (quoted : Bool) :
    elementValue (typeParser parser) oid text quoted = .ok (readText oid parser text quoted) := by
  cases parser with
  | none =>
    simp only [elementValue, typeParser, Option.map_none, readText]
    split <;> rfl
  | some p => rfl

end Read

/-! ## Reading pieces without failure -/

section Total

variable {d : Char} {e : String → Bool → Value}

namespace Piece

mutual

/-- What a piece is read as, when a text is read as `e`. -/
def decodeValue (e : String → Bool → Value) : Piece → Value
  | quoted text => e (String.ofList text) true
  | bare text => e (String.ofList (trim text)) false
  | nested pieces => .array (decodeValues e pieces)

def decodeValues (e : String → Bool → Value) : List Piece → List Value
  | [] => []
  | piece :: pieces =>
    if piece.isBlank && pieces.isEmpty then []
    else piece.decodeValue e :: decodeValues e pieces

end

variable {element : String → Bool → Outcome Empty Value}

mutual

lemma decode_ok (he : ∀ s q, element s q = .ok (e s q)) :
    ∀ piece : Piece, piece.decode element = .ok (piece.decodeValue e)
  | quoted text => by rw [decode, decodeValue, he]
  | bare text => by rw [decode, decodeValue, he]
  | nested pieces => by
    rw [decode, decodeValue, decodeAll_ok he pieces]
    rfl

lemma decodeAll_ok (he : ∀ s q, element s q = .ok (e s q)) :
    ∀ pieces : List Piece, decodeAll element pieces = .ok (decodeValues e pieces)
  | [] => by rw [decodeAll, decodeValues]
  | piece :: pieces => by
    rw [decodeAll, decodeValues, decode_ok he piece, decodeAll_ok he pieces]
    split <;> rfl

end

lemma renderAll_append {xs ys : List Piece} (hx : xs ≠ []) (hy : ys ≠ []) :
    renderAll d (xs ++ ys) = renderAll d xs ++ d :: renderAll d ys := by
  induction xs with
  | nil => exact absurd rfl hx
  | cons x xs ih =>
    cases xs with
    | nil =>
      cases ys with
      | nil => exact absurd rfl hy
      | cons y ys =>
        show renderAll d (x :: y :: ys) = _
        rw [renderAll, renderAll]
    | cons x' xs =>
      have htail := ih (by simp)
      rw [List.cons_append] at htail
      show renderAll d (x :: x' :: (xs ++ ys)) = _
      rw [renderAll, htail, renderAll, List.append_assoc]
      rfl

lemma decodeValues_append {xs ys : List Piece} (hy : ys ≠ []) :
    decodeValues e (xs ++ ys) = xs.map (decodeValue e) ++ decodeValues e ys := by
  induction xs with
  | nil => rfl
  | cons x xs ih =>
    have hempty : (xs ++ ys).isEmpty = false := by simp [hy]
    rw [List.cons_append, decodeValues, hempty, Bool.and_false, if_neg (by simp), ih]
    rfl

/-- Pieces that are all there. -/
lemma decodeValues_of_notBlank {pieces : List Piece} (h : ∀ piece ∈ pieces, piece.isBlank = false) :
    decodeValues e pieces = pieces.map (decodeValue e) := by
  induction pieces with
  | nil => rw [decodeValues, List.map_nil]
  | cons piece pieces ih =>
    rw [decodeValues, h piece List.mem_cons_self, Bool.false_and, if_neg (by simp),
      ih fun x hx => h x (List.mem_cons_of_mem piece hx)]
    rfl

lemma AllOk.append {xs ys : List Piece} (hx : AllOk d xs) (hy : AllOk d ys) :
    AllOk d (xs ++ ys) := by
  induction xs with
  | nil => exact hy
  | cons x xs ih => exact ⟨hx.1, ih hx.2⟩

end Piece

end Total

/-! ## The pieces of `array_out` -/

namespace ArrayItem

mutual

/-- The pieces an element is read as. A NULL whose letters include the delimiter falls apart. -/
def pieces (d : Char) : ArrayItem → List Piece
  | null =>
    if d = 'N' then [.bare [], .bare ['U', 'L', 'L']]
    else if d = 'U' then [.bare ['N'], .bare ['L', 'L']]
    else if d = 'L' then [.bare ['N', 'U'], .bare [], .bare []]
    else [.bare ['N', 'U', 'L', 'L']]
  | text s => if needsQuote d s then [.quoted s.toList] else [.bare s.toList]
  | array items => [.nested (piecesAll d items)]

def piecesAll (d : Char) : List ArrayItem → List Piece
  | [] => []
  | item :: items => item.pieces d ++ piecesAll d items

end

variable {d : Char}

lemma pieces_ne_nil (item : ArrayItem) : item.pieces d ≠ [] := by
  cases item with
  | null =>
    rw [pieces]
    split_ifs <;> simp
  | text s =>
    rw [pieces]
    split_ifs <;> simp
  | array items => simp [pieces]

lemma piecesAll_ne_nil (item : ArrayItem) (items : List ArrayItem) :
    piecesAll d (item :: items) ≠ [] := by
  rw [piecesAll]
  intro h
  exact pieces_ne_nil item (List.append_eq_nil_iff.mp h).1

mutual

/-- The text of an element is the text of its pieces. -/
lemma renderAll_pieces : ∀ item : ArrayItem, Piece.renderAll d (item.pieces d) = item.out d
  | null => by
    rw [pieces, out]
    split_ifs with hN hU hL
    · rw [hN]
      rfl
    · rw [hU]
      rfl
    · rw [hL]
      rfl
    · rfl
  | text s => by
    rw [pieces, out]
    split_ifs with h
    · rw [Piece.renderAll, Piece.render]
    · rw [Piece.renderAll, Piece.render]
  | array items => by
    rw [pieces, out, Piece.renderAll, Piece.render, renderAll_piecesAll items]

lemma renderAll_piecesAll : ∀ items : List ArrayItem,
    Piece.renderAll d (piecesAll d items) = outAll d items
  | [] => by rw [piecesAll, outAll, Piece.renderAll]
  | [item] => by
    rw [piecesAll, piecesAll, List.append_nil, outAll, renderAll_pieces item]
  | item :: next :: items => by
    rw [piecesAll, Piece.renderAll_append (pieces_ne_nil item) (piecesAll_ne_nil next items),
      outAll, renderAll_pieces item, renderAll_piecesAll (next :: items)]

end

/-- A text that is not quoted stands for itself. -/
lemma bareOk_of_not_needsQuote {s : String} (h : ¬ needsQuote d s = true) :
    s ≠ "" ∧ eqIgnoreAsciiCase s "NULL" = false ∧ Piece.BareOk d s.toList := by
  simp only [needsQuote, Bool.or_eq_true, decide_eq_true_eq, not_or, Bool.not_eq_true,
    List.any_eq_false] at h
  obtain ⟨⟨hne, hnull⟩, hchars⟩ := h
  refine ⟨hne, hnull, ?_, ?_, ?_, ?_⟩
  · intro hd
    exact absurd (hchars d hd) (by simp)
  · intro hd
    exact absurd (hchars _ hd) (by simp)
  · intro hd
    exact absurd (hchars _ (List.mem_of_mem_head? hd)) (by simp)
  · intro hd
    exact absurd (hchars _ (List.mem_of_mem_head? hd)) (by simp)

mutual

lemma pieces_ok (hclose : d ≠ '\x7d') : ∀ item : ArrayItem, Piece.AllOk d (item.pieces d)
  | null => by
    rw [pieces]
    split_ifs with hN hU hL
    · rw [hN]
      simp [Piece.AllOk, Piece.Ok, Piece.BareOk]
    · rw [hU]
      simp [Piece.AllOk, Piece.Ok, Piece.BareOk]
    · rw [hL]
      simp [Piece.AllOk, Piece.Ok, Piece.BareOk]
    · simp [Piece.AllOk, Piece.Ok, Piece.BareOk, hN, hU, hL]
  | text s => by
    rw [pieces]
    split_ifs with h
    · exact ⟨trivial, trivial⟩
    · exact ⟨(bareOk_of_not_needsQuote h).2.2, trivial⟩
  | array items => by
    rw [pieces]
    exact ⟨piecesAll_ok hclose items, trivial⟩

lemma piecesAll_ok (hclose : d ≠ '\x7d') : ∀ items : List ArrayItem,
    Piece.AllOk d (piecesAll d items)
  | [] => by
    rw [piecesAll]
    trivial
  | item :: items => by
    rw [piecesAll]
    exact (pieces_ok hclose item).append (piecesAll_ok hclose items)

end

/-! ## What is read is what was there -/

/-- An element that is read as one piece. -/
def Whole (d : Char) (item : ArrayItem) : Prop := item = null → d ∉ ['N', 'U', 'L']

/-- The piece of an element that is read as one. -/
def piece (d : Char) : ArrayItem → Piece
  | null => .bare ['N', 'U', 'L', 'L']
  | text s => if needsQuote d s then .quoted s.toList else .bare s.toList
  | array items => .nested (piecesAll d items)

lemma pieces_of_whole {item : ArrayItem} (h : item.Whole d) :
    item.pieces d = [item.piece d] ∧ (item.piece d).isBlank = false := by
  cases item with
  | null =>
    have hd := h rfl
    simp only [List.mem_cons, List.not_mem_nil, or_false, not_or] at hd
    rw [pieces, if_neg hd.1, if_neg hd.2.1, if_neg hd.2.2]
    exact ⟨rfl, rfl⟩
  | text s =>
    rw [pieces, piece]
    split_ifs with hs
    · exact ⟨rfl, rfl⟩
    · refine ⟨rfl, ?_⟩
      have hne := (bareOk_of_not_needsQuote hs).1
      cases htext : s.toList with
      | nil => exact absurd (by simpa using htext) hne
      | cons c cs => rfl
  | array items => exact ⟨by rw [pieces, piece], rfl⟩

lemma piecesAll_of_whole {items : List ArrayItem} (h : ∀ item ∈ items, item.Whole d) :
    piecesAll d items = items.map (piece d) := by
  induction items with
  | nil => rw [piecesAll, List.map_nil]
  | cons item items ih =>
    rw [piecesAll, (pieces_of_whole (h item List.mem_cons_self)).1,
      ih fun x hx => h x (List.mem_cons_of_mem item hx)]
    rfl

section Letters

variable {e : String → Bool → Value} (hd : d ∈ ['N', 'U', 'L'])

include hd

/-- Where the delimiter is a letter of `NULL`, a NULL is more than one piece, and is read as more
than one element also at the end. -/
lemma length_pieces (item : ArrayItem) :
    (1 ≤ (item.pieces d).length ∧ 1 ≤ (Piece.decodeValues e (item.pieces d)).length) ∧
      (item = null →
        2 ≤ (item.pieces d).length ∧ 2 ≤ (Piece.decodeValues e (item.pieces d)).length) := by
  by_cases hnull : item = null
  · simp only [List.mem_cons, List.not_mem_nil, or_false] at hd
    rw [hnull]
    rcases hd with rfl | rfl | rfl <;> simp [pieces, Piece.decodeValues, Piece.isBlank]
  · have hpieces := @pieces_of_whole d item fun h => absurd h hnull
    rw [hpieces.1, Piece.decodeValues, hpieces.2]
    simp [hnull]

lemma length_decodeValues (items : List ArrayItem) :
    items.length ≤ (Piece.decodeValues e (piecesAll d items)).length ∧
      (null ∈ items → items.length < (Piece.decodeValues e (piecesAll d items)).length) := by
  induction items with
  | nil => simp
  | cons item items ih =>
    obtain ⟨hone, hnull⟩ := @length_pieces d e hd item
    cases items with
    | nil =>
      rw [piecesAll, piecesAll, List.append_nil]
      refine ⟨hone.2, fun hmem => ?_⟩
      exact (hnull (List.mem_singleton.mp hmem).symm).2
    | cons next items =>
      rw [piecesAll, Piece.decodeValues_append (piecesAll_ne_nil next items), List.length_append,
        List.length_map, List.length_cons]
      refine ⟨by omega, fun hmem => ?_⟩
      rcases List.mem_cons.mp hmem with hitem | hmem
      · have htwo := (hnull hitem.symm).1
        omega
      · have hmore := ih.2 hmem
        omega

end Letters

section Kept

variable {oid : Int32} {parser : Option (String → Int32 → Value)}

lemma length_valueAll (items : List ArrayItem) :
    (valueAll oid parser items).length = items.length := by
  induction items with
  | nil =>
    rw [valueAll]
    rfl
  | cons item items ih => rw [valueAll, List.length_cons, List.length_cons, ih]

lemma valueAll_eq_map (items : List ArrayItem) :
    valueAll oid parser items = items.map (value oid parser) := by
  induction items with
  | nil => rw [valueAll, List.map_nil]
  | cons item items ih => rw [valueAll, List.map_cons, ih]

lemma keptAll_iff_forall (items : List ArrayItem) :
    KeptAll d oid parser items ↔ ∀ item ∈ items, item.Kept d oid parser := by
  induction items with
  | nil => simp [KeptAll]
  | cons item items ih => simp [KeptAll, ih]

/-- A list of elements is read as it was exactly when each element is. -/
lemma decodeValues_eq_valueAll_iff {items : List ArrayItem}
    (ih : ∀ item ∈ items, item.Whole d →
      ((item.piece d).decodeValue (readText oid parser) = item.value oid parser ↔
        item.Kept d oid parser)) :
    Piece.decodeValues (readText oid parser) (piecesAll d items) = valueAll oid parser items ↔
      KeptAll d oid parser items := by
  rw [keptAll_iff_forall]
  by_cases hwhole : ∀ item ∈ items, item.Whole d
  · have hblank : ∀ x ∈ items.map (piece d), x.isBlank = false := by
      intro x hx
      obtain ⟨item, hitem, rfl⟩ := List.mem_map.mp hx
      exact (pieces_of_whole (hwhole item hitem)).2
    rw [piecesAll_of_whole hwhole, Piece.decodeValues_of_notBlank hblank, List.map_map,
      valueAll_eq_map, List.map_inj_left]
    exact forall₂_congr fun item hitem => ih item hitem (hwhole item hitem)
  · -- a NULL falls apart, and there are too many elements
    push Not at hwhole
    obtain ⟨item, hitem, hnot⟩ := hwhole
    unfold Whole at hnot
    push Not at hnot
    obtain ⟨rfl, hd⟩ := hnot
    refine iff_of_false (fun heq => ?_) fun hkept => ?_
    · have hlen := (@length_decodeValues d (readText oid parser) hd items).2 hitem
      rw [heq, length_valueAll] at hlen
      omega
    · have hnull := hkept null hitem
      rw [Kept] at hnull
      exact hnull.1 hd

/-- An element in one piece is read as it was exactly when it is kept. -/
lemma decodeValue_eq_value_iff (item : ArrayItem) : item.Whole d →
    ((item.piece d).decodeValue (readText oid parser) = item.value oid parser ↔
      item.Kept d oid parser) := by
  induction item using elements_induction with
  | null =>
    intro hwhole
    have hd := hwhole rfl
    have htext : String.ofList (trim ['N', 'U', 'L', 'L']) = "NULL" := by decide
    rw [piece, Piece.decodeValue, htext, value, Kept, and_iff_right hd]
    cases parser with
    | none =>
      have hnull : eqIgnoreAsciiCase "NULL" "NULL" = true := by decide
      simp [readText, hnull]
    | some p => simp [readText]
  | text s =>
    intro _
    rw [piece]
    split_ifs with hs
    · have hkept : (text s).Kept d oid parser := by
        cases parser with
        | none => exact .inl hs
        | some p => exact .inl hs
      refine iff_of_true ?_ hkept
      rw [Piece.decodeValue, String.ofList_toList]
      cases parser with
      | none => simp [readText, value]
      | some p => simp [readText, value]
    · have hnull := (bareOk_of_not_needsQuote hs).2.1
      rw [Piece.decodeValue]
      cases parser with
      | none =>
        simp only [readText, value, Kept, hs, Bool.false_eq_true, false_or, Bool.not_false,
          Bool.true_and]
        show (if eqIgnoreAsciiCase (trimmed s) "NULL" = true then Value.null
          else .string (trimmed s)) = .string s ↔ trimmed s = s
        by_cases htrim : eqIgnoreAsciiCase (trimmed s) "NULL" = true
        · rw [if_pos htrim]
          refine iff_of_false (by simp) fun heq => ?_
          rw [heq, hnull] at htrim
          cases htrim
        · rw [if_neg htrim, Value.string.injEq]
      | some p =>
        simp only [readText, value, Kept, hs, Bool.false_eq_true, false_or]
        rfl
  | array items ih =>
    intro _
    rw [piece, Piece.decodeValue, value, Kept, Value.array.injEq]
    exact decodeValues_eq_valueAll_iff ih

end Kept

end ArrayItem

/-! ## `array_out` and back -/

lemma brace_notMem_repr (n : ℕ) : '\x7b' ∉ n.repr.toList := by
  intro h
  rw [Nat.toList_repr] at h
  have hdigit := Nat.isDigit_of_mem_toDigits (by decide) (by decide) h
  exact absurd hdigit (by decide)

lemma brace_notMem_toString (n : ℤ) : '\x7b' ∉ (toString n).toList := by
  cases n with
  | ofNat m => exact brace_notMem_repr m
  | negSucc m =>
    show '\x7b' ∉ ("-" ++ (m + 1).repr).toList
    rw [String.toList_append, List.mem_append, not_or]
    exact ⟨by decide, brace_notMem_repr (m + 1)⟩

lemma brace_notMem_boundsText (bounds : List (ℤ × ℤ)) : '\x7b' ∉ boundsText bounds := by
  unfold boundsText
  split_ifs
  · simp
  · simp only [List.mem_append, List.mem_flatMap, not_or, not_exists, not_and, List.mem_singleton]
    refine ⟨fun bound _ => ?_, by decide⟩
    have hl := brace_notMem_toString bound.1
    have hu := brace_notMem_toString bound.2
    simp only [List.mem_cons, List.mem_append, List.not_mem_nil, not_or]
    exact ⟨by decide, hl, by decide, hu, by decide, not_false⟩

/-- **What `parse_array_text` makes of the text of an array.** With any parser, or none, the array
comes back exactly when each NULL and each text that is not quoted is one that is kept. -/
theorem parseArrayText_arrayOut_iff (bounds : List (ℤ × ℤ)) (d : Char)
    (hd : d ∉ ['\x7b', '\x7d', '"', '\\']) (parser : Option (String → Int32 → Value)) (oid : Int32)
    (items : List ArrayItem) :
    parseArrayText (arrayOut bounds d items) (typeParser parser) oid d
        = .ok ((ArrayItem.array items).value oid parser) ↔
      (ArrayItem.array items).Kept d oid parser := by
  simp only [List.mem_cons, List.not_mem_nil, or_false, not_or] at hd
  have hout : (ArrayItem.array items).out d
      = (Piece.nested (ArrayItem.piecesAll d items)).render d := by
    have hpieces := @ArrayItem.renderAll_pieces d (.array items)
    rw [ArrayItem.pieces, Piece.renderAll] at hpieces
    exact hpieces.symm
  rw [arrayOut, hout, parseArrayText_render (typeParser parser) oid (brace_notMem_boundsText bounds)
    (ArrayItem.piecesAll_ok hd.2.1 items) hd.1 hd.2.1 hd.2.2.1,
    Piece.decode_ok (elementValue_typeParser oid parser), Outcome.ok.injEq]
  exact ArrayItem.decodeValue_eq_value_iff (.array items) (fun h => by cases h)

/-- Two rows with a quoted and a bare text, NULL, and bounds, read without a parser. -/
theorem parseArrayText_arrayOut_rows :
    parseArrayText (arrayOut [(0, 1), (1, 2)] ','
        [.array [.text "a b", .null], .array [.text "null", .text "c"]]) none 25 ','
      = .ok (.array [.array [.string "a b", .null], .array [.string "null", .string "c"]]) := by
  have hkept : (ArrayItem.array
      [.array [.text "a b", .null], .array [.text "null", .text "c"]]).Kept ',' 25 none := by
    have hc : trimmed "c" = "c" := by decide +kernel
    have hquoted : needsQuote ',' "a b" = true ∧ needsQuote ',' "null" = true := by decide +kernel
    simp [ArrayItem.Kept, ArrayItem.KeptAll, hc, hquoted]
  exact (parseArrayText_arrayOut_iff _ ',' (by decide) none 25 _).mpr hkept

/-- A NULL goes through the parser. -/
theorem null_parsed_as_text :
    parseArrayText (arrayOut [] ',' [.null])
        (typeParser (some fun text _ => .string text)) 25 ','
      ≠ .ok ((ArrayItem.array [.null]).value 25 (some fun text _ => .string text)) := by
  have htext : (parseArrayText (arrayOut [] ',' [.null])
      (typeParser (some fun text _ => .string text)) 25 ',').toOption.map Value.toText
      ≠ some "[null]" := by decide +kernel
  intro h
  rw [h] at htext
  exact htext (by decide +kernel)

end PgliteOxide.Pglite
