import Mathlib.Data.List.Basic
import PgliteOxide.Pglite.ArrayOut

/-!
# Writing arrays and reading them back

`serialize_array_value` writes null as a bare text, every other element quoted and an array in an
array as a nested array, so `parse_array_text` reads the same structure back: the round trip is a
matter of the elements alone.
-/

namespace PgliteOxide.Pglite

open Lib Protocol

/-! ## The pieces of a written array -/

section Write

variable (serializer : Option Serializer) (d : Char)

/-- The text of an element, before quoting. -/
def elementText (value : Value) : Outcome Error String :=
  match serializer with
  | some serialize => serialize value
  | none => .ok (valueToString value)

mutual

/-- The piece an element is written as. -/
def writePiece : Value → Outcome Error Piece
  | .null => .ok (.bare ['n', 'u', 'l', 'l'])
  | .array items => do
    let pieces ← writePieces items
    return .nested pieces
  | value => do
    let raw ← elementText serializer value
    return .quoted raw.toList

def writePieces : List Value → Outcome Error (List Piece)
  | [] => .ok []
  | value :: values => do
    let piece ← writePiece value
    let pieces ← writePieces values
    return piece :: pieces

end

lemma escape_eq (raw : String) :
    replaceChar (replaceChar raw '\\' "\\\\") '"' "\\\""
      = String.ofList (raw.toList.flatMap escapeQuoted) := by
  unfold replaceChar
  have hslash : "\\\\".toList = ['\\', '\\'] := by decide +kernel
  have hquote : "\\\"".toList = ['\\', '"'] := by decide +kernel
  rw [hslash, hquote, String.toList_ofList, List.flatMap_assoc]
  congr 1
  refine List.flatMap_congr fun c _ => ?_
  unfold escapeQuoted
  by_cases hslash : c = '\\'
  · rw [hslash]
    rfl
  · by_cases hquote : c = '"'
    · rw [hquote]
      rfl
    · rw [if_neg hslash, if_neg (by rw [not_or]; exact ⟨hquote, hslash⟩)]
      simp [hquote]

/-- The parts joined with the delimiter are the text of the pieces. -/
lemma intercalate_render (pieces : List Piece) :
    (String.singleton d).intercalate (pieces.map fun piece => String.ofList (piece.render d))
      = String.ofList (Piece.renderAll d pieces) := by
  apply String.ext
  rw [String.toList_intercalate, String.toList_ofList, String.toList_singleton, List.map_map]
  induction pieces with
  | nil => rfl
  | cons piece pieces ih =>
    cases pieces with
    | nil => simp [Piece.renderAll]
    | cons next pieces =>
      rw [List.map_cons, List.map_cons, List.intercalate_cons_cons, ← List.map_cons, ih,
        Piece.renderAll]
      simp

/-- An array is written as its pieces, when its items are. -/
lemma serializeArrayValue_of_items {items : List Value}
    (hitems : serializeItems serializer d items = (do
      let pieces ← writePieces serializer items
      return pieces.map fun piece => String.ofList (piece.render d))) :
    serializeArrayValue serializer d (.array items) = (do
      let pieces ← writePieces serializer items
      return String.ofList ((Piece.nested pieces).render d)) := by
  cases items with
  | nil =>
    rw [serializeArrayValue, writePieces]
    rfl
  | cons item items =>
    rw [serializeArrayValue, hitems, bind_assoc]
    congr 1
    funext pieces
    simp only [pure_bind]
    rw [intercalate_render, Piece.render]
    congr 1
    apply String.ext
    simp

/-- An item that is neither null nor an array is written quoted. -/
lemma serializeItems_scalar {value : Value} {items : List Value}
    (hserialize : serializeItems serializer d (value :: items) = (do
      let raw ← elementText serializer value
      let parts ← serializeItems serializer d items
      return ("\"" ++ replaceChar (replaceChar raw '\\' "\\\\") '"' "\\\"" ++ "\"") :: parts))
    (hwrite : writePiece serializer value = (do
      let raw ← elementText serializer value
      return .quoted raw.toList))
    (hitems : serializeItems serializer d items = (do
      let pieces ← writePieces serializer items
      return pieces.map fun piece => String.ofList (piece.render d))) :
    serializeItems serializer d (value :: items) = (do
      let pieces ← writePieces serializer (value :: items)
      return pieces.map fun piece => String.ofList (piece.render d)) := by
  have hquoted : ∀ raw : String,
      "\"" ++ replaceChar (replaceChar raw '\\' "\\\\") '"' "\\\"" ++ "\""
        = String.ofList ((Piece.quoted raw.toList).render d) := by
    intro raw
    rw [escape_eq, Piece.render]
    apply String.ext
    simp
  rw [hserialize, hitems, writePieces, hwrite]
  simp only [bind_assoc, pure_bind, List.map_cons, hquoted]

lemma serializeItems_eq : ∀ items : List Value,
    serializeItems serializer d items = (do
      let pieces ← writePieces serializer items
      return pieces.map fun piece => String.ofList (piece.render d))
  | [] => by
    rw [serializeItems, writePieces]
    rfl
  | .null :: items => by
    rw [serializeItems, serializeItems_eq items, writePieces, writePiece]
    simp only [bind_assoc, pure_bind, Outcome.ok_bind, List.map_cons, Piece.render]
  | .array nested :: items => by
    rw [serializeItems, serializeArrayValue_of_items serializer d (serializeItems_eq nested),
      serializeItems_eq items, writePieces, writePiece]
    simp only [bind_assoc, pure_bind, List.map_cons]
  | .bool b :: items => serializeItems_scalar serializer d
    (by rw [serializeItems.eq_def]; cases serializer <;> rfl) (by rw [writePiece.eq_def])
    (serializeItems_eq items)
  | .number n :: items => serializeItems_scalar serializer d
    (by rw [serializeItems.eq_def]; cases serializer <;> rfl) (by rw [writePiece.eq_def])
    (serializeItems_eq items)
  | .string s :: items => serializeItems_scalar serializer d
    (by rw [serializeItems.eq_def]; cases serializer <;> rfl) (by rw [writePiece.eq_def])
    (serializeItems_eq items)
  | .object entries :: items => serializeItems_scalar serializer d
    (by rw [serializeItems.eq_def]; cases serializer <;> rfl) (by rw [writePiece.eq_def])
    (serializeItems_eq items)

end Write

/-! ## Reading back what was written -/

section RoundTrip

variable {serializer : Option Serializer} {d : Char}

lemma writePiece_notBlank {value : Value} {piece : Piece}
    (h : writePiece serializer value = .ok piece) : piece.isBlank = false := by
  cases value with
  | null =>
    rw [writePiece.eq_def] at h
    rw [← Outcome.ok.inj h]
    rfl
  | array items =>
    rw [writePiece.eq_def] at h
    obtain ⟨pieces, -, hpiece⟩ := Outcome.bind_eq_ok.mp h
    rw [← Outcome.ok.inj hpiece]
    rfl
  | bool | number | string | object =>
    rw [writePiece.eq_def] at h
    obtain ⟨raw, -, hpiece⟩ := Outcome.bind_eq_ok.mp h
    rw [← Outcome.ok.inj hpiece]
    rfl

mutual

/-- The written `null` stands for itself when the delimiter is none of its letters. -/
lemma writePiece_ok (hletters : d ∉ ['n', 'u', 'l']) : ∀ (value : Value) {piece : Piece},
    writePiece serializer value = .ok piece → piece.Ok d
  | .null, piece, h => by
    rw [writePiece.eq_def] at h
    rw [← Outcome.ok.inj h]
    simp only [List.mem_cons, List.not_mem_nil, or_false, not_or] at hletters
    simp [Piece.Ok, Piece.BareOk, hletters]
  | .array items, piece, h => by
    rw [writePiece.eq_def] at h
    obtain ⟨pieces, hpieces, hpiece⟩ := Outcome.bind_eq_ok.mp h
    rw [← Outcome.ok.inj hpiece]
    exact writePieces_ok hletters items hpieces
  | .bool _, piece, h | .number _, piece, h | .string _, piece, h | .object _, piece, h => by
    rw [writePiece.eq_def] at h
    obtain ⟨raw, -, hpiece⟩ := Outcome.bind_eq_ok.mp h
    rw [← Outcome.ok.inj hpiece]
    trivial

lemma writePieces_ok (hletters : d ∉ ['n', 'u', 'l']) : ∀ (values : List Value)
    {pieces : List Piece}, writePieces serializer values = .ok pieces → Piece.AllOk d pieces
  | [], pieces, h => by
    rw [writePieces] at h
    rw [← Outcome.ok.inj h]
    trivial
  | value :: values, pieces, h => by
    rw [writePieces] at h
    obtain ⟨piece, hpiece, h⟩ := Outcome.bind_eq_ok.mp h
    obtain ⟨rest, hrest, h⟩ := Outcome.bind_eq_ok.mp h
    rw [← Outcome.ok.inj h]
    exact ⟨writePiece_ok hletters value hpiece, writePieces_ok hletters values hrest⟩

end

variable (serializer) (element : String → Bool → Outcome Empty Value)

mutual

/-- A value whose elements are read back as they were: null as the bare text `null`, and every
other element as the text the serializer makes of it. -/
def Survives : Value → Prop
  | .null => element "null" false = .ok .null
  | .array items => SurviveAll items
  | value => ∃ raw, elementText serializer value = .ok raw ∧ element raw true = .ok value

def SurviveAll : List Value → Prop
  | [] => True
  | value :: values => Survives value ∧ SurviveAll values

end

lemma survives_scalar {value : Value}
    (hwrite : writePiece serializer value = (do
      let raw ← elementText serializer value
      return .quoted raw.toList)) :
    (∃ piece, writePiece serializer value = .ok piece ∧ piece.decode element = .ok value) ↔
      ∃ raw, elementText serializer value = .ok raw ∧ element raw true = .ok value := by
  rw [hwrite]
  constructor
  · intro h
    obtain ⟨piece, hpiece, hread⟩ := h
    obtain ⟨raw, hraw, hquoted⟩ := Outcome.bind_eq_ok.mp hpiece
    refine ⟨raw, hraw, ?_⟩
    rw [← Outcome.ok.inj hquoted, Piece.decode, String.ofList_toList] at hread
    exact hread
  · intro h
    obtain ⟨raw, hraw, hread⟩ := h
    refine ⟨.quoted raw.toList, ?_, ?_⟩
    · rw [hraw]
      rfl
    · rw [Piece.decode, String.ofList_toList, hread]

mutual

lemma survives_iff : ∀ value : Value,
    (∃ piece, writePiece serializer value = .ok piece ∧ piece.decode element = .ok value) ↔
      Survives serializer element value
  | .null => by
    have htrim : String.ofList (trim ['n', 'u', 'l', 'l']) = "null" := by decide +kernel
    rw [writePiece.eq_def, Survives.eq_def]
    simp only [Outcome.ok.injEq, exists_eq_left', Piece.decode, htrim]
  | .array items => by
    rw [writePiece.eq_def, Survives.eq_def]
    simp only
    rw [← surviveAll_iff items]
    constructor
    · intro h
      obtain ⟨piece, hpiece, hread⟩ := h
      obtain ⟨pieces, hpieces, hnested⟩ := Outcome.bind_eq_ok.mp hpiece
      rw [← Outcome.ok.inj hnested, Piece.decode] at hread
      obtain ⟨values, hvalues, harray⟩ := Outcome.bind_eq_ok.mp hread
      have heq : values = items := Value.array.inj (Outcome.ok.inj harray)
      exact ⟨pieces, hpieces, heq ▸ hvalues⟩
    · intro h
      obtain ⟨pieces, hpieces, hread⟩ := h
      refine ⟨.nested pieces, ?_, ?_⟩
      · rw [hpieces]
        rfl
      · rw [Piece.decode, hread]
        rfl
  | .bool b => by
    rw [survives_scalar serializer element (by rw [writePiece.eq_def]), Survives.eq_def]
  | .number n => by
    rw [survives_scalar serializer element (by rw [writePiece.eq_def]), Survives.eq_def]
  | .string s => by
    rw [survives_scalar serializer element (by rw [writePiece.eq_def]), Survives.eq_def]
  | .object entries => by
    rw [survives_scalar serializer element (by rw [writePiece.eq_def]), Survives.eq_def]

lemma surviveAll_iff : ∀ values : List Value,
    (∃ pieces, writePieces serializer values = .ok pieces ∧
      Piece.decodeAll element pieces = .ok values) ↔ SurviveAll serializer element values
  | [] => by
    rw [writePieces, SurviveAll]
    refine iff_of_true ⟨[], rfl, ?_⟩ trivial
    rw [Piece.decodeAll]
  | value :: values => by
    rw [writePieces, SurviveAll, ← survives_iff value, ← surviveAll_iff values]
    constructor
    · intro h
      obtain ⟨pieces, hpieces, hread⟩ := h
      obtain ⟨piece, hpiece, hrest⟩ := Outcome.bind_eq_ok.mp hpieces
      obtain ⟨rest, hrest, hcons⟩ := Outcome.bind_eq_ok.mp hrest
      rw [← Outcome.ok.inj hcons, Piece.decodeAll, writePiece_notBlank hpiece, Bool.false_and,
        if_neg (by simp)] at hread
      obtain ⟨v, hv, hread⟩ := Outcome.bind_eq_ok.mp hread
      obtain ⟨vs, hvs, hread⟩ := Outcome.bind_eq_ok.mp hread
      obtain ⟨rfl, rfl⟩ := List.cons.inj (Outcome.ok.inj hread)
      exact ⟨⟨piece, hpiece, hv⟩, rest, hrest, hvs⟩
    · intro h
      obtain ⟨⟨piece, hpiece, hv⟩, rest, hrest, hvs⟩ := h
      refine ⟨piece :: rest, ?_, ?_⟩
      · rw [hpiece, hrest]
        rfl
      · rw [Piece.decodeAll, writePiece_notBlank hpiece, Bool.false_and, if_neg (by simp), hv, hvs]
        rfl

end

omit serializer element in
/-- **The round trip of an array**, through any serializer and any parser: it succeeds exactly when
every element survives. -/
theorem serialize_parse_iff (serializer : Option Serializer) (parser : Option TypeParser)
    (oid : Int32) {d : Char} (hletters : d ∉ ['n', 'u', 'l'])
    (hd : d ∉ ['\x7b', '\x7d', '"', '\\']) (items : List Value) :
    (∃ text, serializeArrayValue serializer d (.array items) = .ok text ∧
      parseArrayText text parser oid d = .ok (.array items)) ↔
      SurviveAll serializer (elementValue parser oid) items := by
  simp only [List.mem_cons, List.not_mem_nil, or_false, not_or] at hd
  rw [serializeArrayValue_of_items serializer d (serializeItems_eq serializer d items),
    ← surviveAll_iff]
  have hparse : ∀ pieces, writePieces serializer items = .ok pieces →
      parseArrayText (String.ofList ((Piece.nested pieces).render d)) parser oid d
        = (Piece.nested pieces).decode (elementValue parser oid) := by
    intro pieces hpieces
    exact @parseArrayText_render [] pieces d parser oid (by simp)
      (writePieces_ok hletters items hpieces) hd.1 hd.2.1 hd.2.2.1
  constructor
  · intro h
    obtain ⟨text, htext, hread⟩ := h
    obtain ⟨pieces, hpieces, hrender⟩ := Outcome.bind_eq_ok.mp htext
    rw [← Outcome.ok.inj hrender, hparse pieces hpieces, Piece.decode] at hread
    obtain ⟨values, hvalues, harray⟩ := Outcome.bind_eq_ok.mp hread
    have heq : values = items := Value.array.inj (Outcome.ok.inj harray)
    exact ⟨pieces, hpieces, heq ▸ hvalues⟩
  · intro h
    obtain ⟨pieces, hpieces, hread⟩ := h
    refine ⟨String.ofList ((Piece.nested pieces).render d), ?_, ?_⟩
    · rw [hpieces]
      rfl
    · rw [hparse pieces hpieces, Piece.decode, hread]
      rfl

end RoundTrip

/-! ## Strings and nulls, and scalars with a codec -/

mutual

/-- Every element that is not an array is as `P` says. -/
def Elements (P : Value → Prop) : Value → Prop
  | .array items => AllElements P items
  | value => P value

def AllElements (P : Value → Prop) : List Value → Prop
  | [] => True
  | value :: values => Elements P value ∧ AllElements P values

end

section Elements

variable {P : Value → Prop} {serializer : Option Serializer}
  {element : String → Bool → Outcome Empty Value}

mutual

lemma survives_of_elements
    (hP : ∀ value, (∀ items, value ≠ .array items) → P value → Survives serializer element value) :
    ∀ value : Value, Elements P value → Survives serializer element value
  | .array items, h => by
    rw [Elements] at h
    rw [Survives]
    exact surviveAll_of_elements hP items h
  | .null, h | .bool _, h | .number _, h | .string _, h | .object _, h => by
    rw [Elements.eq_def] at h
    exact hP _ (by simp) h

lemma surviveAll_of_elements
    (hP : ∀ value, (∀ items, value ≠ .array items) → P value → Survives serializer element value) :
    ∀ values : List Value, AllElements P values → SurviveAll serializer element values
  | [], _ => by
    rw [SurviveAll]
    trivial
  | value :: values, h => by
    rw [AllElements] at h
    rw [SurviveAll]
    exact ⟨survives_of_elements hP value h.1, surviveAll_of_elements hP values h.2⟩

end

end Elements

/-- **Arrays are read back as they were written**, with a delimiter that is no letter and no brace,
quote or backslash: over strings and nulls without a codec, and without nulls through any
serializer and parser that are inverse on the elements. -/
theorem array_round_trip {d : Char} (halpha : d.isAlpha = false)
    (hd : d ∉ ['\x7b', '\x7d', '"', '\\']) (oid : Int32) (items : List Value) :
    (Elements (fun x => x = .null ∨ ∃ s, x = .string s) (.array items) →
      ∃ text, serializeArrayValue none d (.array items) = .ok text ∧
        parseArrayText text none oid d = .ok (.array items)) ∧
    ∀ (serializer : Serializer) (parser : TypeParser),
      Elements (fun x => x ≠ .null ∧ ∃ text, serializer x = .ok text ∧ parser text oid = .ok x)
        (.array items) →
      ∃ text, serializeArrayValue (some serializer) d (.array items) = .ok text ∧
        parseArrayText text (some parser) oid d = .ok (.array items) := by
  have hletters : d ∉ ['n', 'u', 'l'] := by
    intro hmem
    simp only [List.mem_cons, List.not_mem_nil, or_false] at hmem
    rcases hmem with rfl | rfl | rfl <;> exact absurd halpha (by decide)
  constructor
  · intro helements
    rw [serialize_parse_iff none none oid hletters hd]
    rw [Elements] at helements
    refine surviveAll_of_elements (fun value _ hvalue => ?_) items helements
    rcases hvalue with rfl | ⟨s, rfl⟩
    · have hnull : eqIgnoreAsciiCase "null" "NULL" = true := by decide +kernel
      rw [Survives.eq_def]
      simp [elementValue, hnull]
    · rw [Survives.eq_def]
      exact ⟨s, rfl, rfl⟩
  · intro serializer parser helements
    rw [serialize_parse_iff (some serializer) (some parser) oid hletters hd]
    rw [Elements] at helements
    refine surviveAll_of_elements (fun value harray hvalue => ?_) items helements
    obtain ⟨hnull, text, hwrite, hread⟩ := hvalue
    rw [Survives.eq_def]
    cases value with
    | null => exact absurd rfl hnull
    | array items => exact absurd rfl (harray items)
    | bool | number | string | object => exact ⟨text, hwrite, hread⟩

/-- Nested arrays with quotes, a delimiter, the word `NULL` and nulls in them; and truth values
through a codec of their own. -/
theorem array_round_trip_nested :
    (∃ text, serializeArrayValue none ','
        (.array [.array [.string "a\",b", .null], .array [.string "NULL", .string " "], .array []])
        = .ok text ∧
      parseArrayText text none 25 ','
        = .ok (.array [.array [.string "a\",b", .null], .array [.string "NULL", .string " "],
          .array []])) ∧
    ∃ text, serializeArrayValue (some fun x => .ok (valueToString x)) ';'
        (.array [.bool true, .array [.bool false]]) = .ok text ∧
      parseArrayText text (some fun text _ => .ok (.bool (text = "t"))) 16 ';'
        = .ok (.array [.bool true, .array [.bool false]]) := by
  constructor
  · refine (array_round_trip (by decide) (by decide) 25 _).1 ?_
    simp [Elements, AllElements]
  · refine (array_round_trip (by decide) (by decide) 16 _).2 _ _ ?_
    simp [Elements, AllElements, valueToString]

end PgliteOxide.Pglite
