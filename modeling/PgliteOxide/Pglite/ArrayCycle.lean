import PgliteOxide.Pglite.ArrayRoundTrip
import PgliteOxide.Pglite.TypeRegistry

/-!
# Reading an array, writing it and reading it again

The value that a default parser makes of an array text goes through the default serializer of the
same type and back. Each element takes this way by itself: `Codec.Keeps` says for which texts of
elements a codec gives the same value again.
-/

namespace PgliteOxide.Pglite

open Lib Protocol

/-! ## The texts of the elements -/

namespace ArrayItem

mutual

/-- The texts that come to the parser, each with whether it was quoted. -/
def texts (d : Char) : ArrayItem → List (String × Bool)
  | null => [("NULL", false)]
  | text s => if needsQuote d s then [(s, true)] else [(trimmed s, false)]
  | array items => textsAll d items

def textsAll (d : Char) : List ArrayItem → List (String × Bool)
  | [] => []
  | item :: items => item.texts d ++ textsAll d items

end

variable {d : Char} {serializer : Option Serializer} {element : String → Bool → Outcome Empty Value}

/-- A text whose value, if it has one, survives. -/
def TextSurvives (serializer : Option Serializer) (element : String → Bool → Outcome Empty Value)
    (t : String × Bool) : Prop :=
  ∀ u, element t.1 t.2 = .ok u → Survives serializer element u

lemma survives_iff_of_eq_ok {s : String} {q : Bool} {v : Value} (h : element s q = .ok v) :
    Survives serializer element v ↔ ∀ t ∈ [(s, q)], TextSurvives serializer element t := by
  rw [List.forall_mem_singleton]
  constructor
  · intro hv u hu
    rw [h] at hu
    exact Outcome.ok.inj hu ▸ hv
  · exact fun hall => hall v h

/-- The values of items survive exactly when the texts of the items do. -/
lemma surviveAll_decode_iff {items : List ArrayItem} {values : List Value}
    (hd : d ∉ ['N', 'U', 'L'])
    (ih : ∀ item ∈ items, ∀ v, (item.piece d).decode element = .ok v →
      (Survives serializer element v ↔
        ∀ t ∈ item.texts d, TextSurvives serializer element t))
    (h : Piece.decodeAll element (piecesAll d items) = .ok values) :
    SurviveAll serializer element values ↔
      ∀ t ∈ textsAll d items, TextSurvives serializer element t := by
  induction items generalizing values with
  | nil =>
    rw [piecesAll, Piece.decodeAll] at h
    rw [← Outcome.ok.inj h, SurviveAll, textsAll]
    simp
  | cons item items ihitems =>
    obtain ⟨hpieces, hblank⟩ := @pieces_of_whole d item fun _ => hd
    rw [piecesAll, hpieces, List.singleton_append, Piece.decodeAll, hblank, Bool.false_and,
      if_neg (by simp)] at h
    obtain ⟨v, hv, h⟩ := Outcome.bind_eq_ok.mp h
    obtain ⟨vs, hvs, h⟩ := Outcome.bind_eq_ok.mp h
    rw [← Outcome.ok.inj h, SurviveAll, textsAll, List.forall_mem_append,
      ih item List.mem_cons_self v hv,
      ihitems (fun other hother => ih other (List.mem_cons_of_mem _ hother)) hvs]

/-- **The value of an item survives exactly when its texts do.** -/
lemma survives_decode_iff (hd : d ∉ ['N', 'U', 'L']) (item : ArrayItem) : ∀ v,
    (item.piece d).decode element = .ok v →
      (Survives serializer element v ↔ ∀ t ∈ item.texts d, TextSurvives serializer element t) := by
  induction item using elements_induction with
  | null =>
    intro v h
    have htext : String.ofList (trim ['N', 'U', 'L', 'L']) = "NULL" := by decide +kernel
    rw [piece, Piece.decode, htext] at h
    rw [texts]
    exact survives_iff_of_eq_ok h
  | text s =>
    intro v h
    rw [piece] at h
    rw [texts]
    by_cases hs : needsQuote d s = true
    · rw [if_pos hs, Piece.decode, String.ofList_toList] at h
      rw [if_pos hs]
      exact survives_iff_of_eq_ok h
    · rw [if_neg hs, Piece.decode] at h
      rw [if_neg hs]
      exact survives_iff_of_eq_ok h
  | array items ih =>
    intro v h
    rw [piece, Piece.decode] at h
    obtain ⟨values, hvalues, h⟩ := Outcome.bind_eq_ok.mp h
    rw [← Outcome.ok.inj h, Survives, texts]
    exact surviveAll_decode_iff hd ih hvalues

end ArrayItem

/-- What is read of an array text comes back exactly when the texts of its elements survive. -/
lemma arrayOut_cycle_iff {serializer : Option Serializer} {parser : Option TypeParser} {oid : Int32}
    {d : Char} (hletters : d ∉ ['N', 'U', 'L', 'n', 'u', 'l'])
    (hd : d ∉ ['\x7b', '\x7d', '"', '\\']) {bounds : List (ℤ × ℤ)} {items : List ArrayItem}
    {v : Value} (h : parseArrayText (arrayOut bounds d items) parser oid d = .ok v) :
    (∃ text, serializeArrayValue serializer d v = .ok text ∧
      parseArrayText text parser oid d = .ok v) ↔
      ∀ t ∈ (ArrayItem.array items).texts d,
        ArrayItem.TextSurvives serializer (elementValue parser oid) t := by
  have hupper : d ∉ ['N', 'U', 'L'] := fun hmem =>
    hletters (List.mem_append_left ['n', 'u', 'l'] hmem)
  have hlower : d ∉ ['n', 'u', 'l'] := fun hmem =>
    hletters (List.mem_append_right ['N', 'U', 'L'] hmem)
  have hbrace := hd
  simp only [List.mem_cons, List.not_mem_nil, or_false, not_or] at hbrace
  have hout : (ArrayItem.array items).out d
      = ((ArrayItem.array items).piece d).render d := by
    have hpieces := @ArrayItem.renderAll_pieces d (.array items)
    rw [ArrayItem.pieces, Piece.renderAll] at hpieces
    exact hpieces.symm
  rw [arrayOut, hout, ArrayItem.piece, parseArrayText_render parser oid
    (brace_notMem_boundsText bounds) (ArrayItem.piecesAll_ok hbrace.2.1 items) hbrace.1 hbrace.2.1
    hbrace.2.2.1] at h
  have hread : ((ArrayItem.array items).piece d).decode (elementValue parser oid) = .ok v := by
    rw [ArrayItem.piece]
    exact h
  rw [← ArrayItem.survives_decode_iff hupper (.array items) v hread]
  rw [Piece.decode] at h
  obtain ⟨values, -, h⟩ := Outcome.bind_eq_ok.mp h
  rw [← Outcome.ok.inj h, Survives]
  exact serialize_parse_iff serializer parser oid hlower hd values

/-! ## Codecs -/

/-- A JSON value, other than an array, that is read back from its text. -/
def JsonKept (lib : TextLib) : Value → Prop
  | .string s => ∀ x, lib.fromStr s = some x → x = .string s
  | x => lib.fromStr x.toText = some x

/-- The texts of elements whose values a codec writes so that they are read again. -/
def Codec.Keeps (lib : TextLib) : Codec → String → Prop
  | float, s => lib.parseF64 s ≠ some none
  | numeric, s => ∀ n, lib.numberFromStr s = some n → lib.numberFromStr n.toText = some n
  | json, s => ∀ x, lib.fromStr s = some x → Elements (JsonKept lib) x
  | bytea, s => ∀ bytes, (stripPrefix s "\\x").bind lib.hexDecode = some bytes → bytes = []
  | text, _ | int, _ | bigint, _ | bool, _ => True

/-- The texts of elements that are read again, with a codec or without one. -/
def ElementKept (lib : TextLib) : Option Codec → String → Prop
  | some codec, s => codec.Keeps lib s
  | none, _ => True

section Elements

variable {P : Value → Prop} {serializer : Option Serializer}
  {element : String → Bool → Outcome Empty Value}

mutual

lemma survives_iff_elements
    (hP : ∀ value, (∀ items, value ≠ .array items) →
      (Survives serializer element value ↔ P value)) :
    ∀ value : Value, Survives serializer element value ↔ Elements P value
  | .array items => by
    rw [Survives, Elements]
    exact surviveAll_iff_elements hP items
  | .null | .bool _ | .number _ | .string _ | .object _ => by
    rw [Elements.eq_def]
    exact hP _ (by simp)

lemma surviveAll_iff_elements
    (hP : ∀ value, (∀ items, value ≠ .array items) →
      (Survives serializer element value ↔ P value)) :
    ∀ values : List Value, SurviveAll serializer element values ↔ AllElements P values
  | [] => by rw [SurviveAll, AllElements]
  | value :: values => by
    rw [SurviveAll, AllElements]
    exact and_congr (survives_iff_elements hP value) (surviveAll_iff_elements hP values)

end

/-- A value that is neither null nor an array survives through its text. -/
lemma survives_scalar_iff {serialize : Serializer} {v : Value}
    (hv : v ≠ .null ∧ ∀ items, v ≠ .array items) :
    Survives (some serialize) element v ↔
      ∃ raw, serialize v = .ok raw ∧ element raw true = .ok v := by
  cases v with
  | null => exact absurd rfl hv.1
  | array items => exact absurd rfl (hv.2 items)
  | bool | number | string | object =>
    rw [Survives.eq_def]
    rfl

end Elements

/-! ## Every codec -/

section Codecs

variable {lib : TextLib} {oid : Int32}

/-- The way an element takes through the codec. -/
abbrev Codec.Survives (lib : TextLib) (codec : Codec) (oid : Int32) : Value → Prop :=
  Pglite.Survives (some (codec.serialize lib)) (elementValue (some (codec.parse lib)) oid)

/-- A string that is not read as something else comes back through a serializer that keeps it. -/
lemma survives_string {codec : Codec} {s : String}
    (hserialize : codec.serialize lib (.string s) = .ok s)
    (hparse : codec.parse lib s oid = .ok (.string s)) : codec.Survives lib oid (.string s) :=
  (survives_scalar_iff (by simp)).mpr ⟨s, hserialize, hparse⟩

/-- Integers come back. -/
lemma survives_parseRange {codec : Codec} {inRange : ℤ → Bool} {s : String} {v : Value}
    (hserialize : codec.serialize lib = serializeNumber)
    (hparse : codec.parse lib = fun value _ => parseRange inRange value)
    (h : parseRange inRange s = .ok v) : codec.Survives lib oid v := by
  obtain ⟨hscalar, raw, hwrite, hread⟩ := parseRange_again h
  refine (survives_scalar_iff hscalar).mpr ⟨raw, ?_, ?_⟩
  · rw [hserialize, hwrite]
  · show codec.parse lib raw oid = .ok v
    rw [hparse]
    exact hread

/-- Truth values come back. -/
lemma survives_bool (b : Bool) : Codec.bool.Survives lib oid (.bool b) := by
  refine (survives_scalar_iff (by simp)).mpr ⟨if b then "t" else "f", rfl, ?_⟩
  show Outcome.ok (Value.bool (decide ((if b then "t" else "f") = "t"))) = _
  cases b <;> rfl

/-- A float comes back when it is finite. -/
lemma survives_float_iff (hnull : lib.parseF64 "null" = none)
    (hfloat : ∀ s text, lib.parseF64 s = some (some text) → lib.parseF64 text = some (some text))
    (s : String) : Codec.float.Survives lib oid (parseFloat lib s) ↔ Codec.float.Keeps lib s := by
  unfold parseFloat
  show _ ↔ lib.parseF64 s ≠ some none
  cases hparse : lib.parseF64 s with
  | none =>
    refine iff_of_true (survives_string rfl ?_) (by simp)
    show Outcome.ok (parseFloat lib s) = _
    rw [parseFloat, hparse]
  | some float =>
    cases float with
    | none =>
      refine iff_of_false (fun h => ?_) (by simp)
      rw [Codec.Survives, Pglite.Survives.eq_def] at h
      change Outcome.ok (parseFloat lib "null") = .ok .null at h
      rw [parseFloat, hnull] at h
      cases h
    | some text =>
      refine iff_of_true ((survives_scalar_iff (by simp)).mpr ⟨text, rfl, ?_⟩) (by simp)
      show Outcome.ok (parseFloat lib text) = _
      rw [parseFloat, hfloat s text hparse]

/-- A numeric comes back when its number is read from the text the number is printed as. -/
lemma survives_numeric_iff (s : String) :
    Codec.numeric.Survives lib oid (parseNumeric lib s) ↔ Codec.numeric.Keeps lib s := by
  unfold parseNumeric
  show _ ↔ ∀ n, lib.numberFromStr s = some n → lib.numberFromStr n.toText = some n
  cases hparse : lib.numberFromStr s with
  | none =>
    refine iff_of_true (survives_string rfl ?_) (by simp)
    show Outcome.ok (parseNumeric lib s) = _
    rw [parseNumeric, hparse]
  | some n =>
    have hread : Outcome.ok (parseNumeric lib n.toText) = (.ok (.number n) : Outcome Empty Value) ↔
        lib.numberFromStr n.toText = some n := by
      rw [parseNumeric]
      cases lib.numberFromStr n.toText <;> simp
    rw [Codec.Survives, survives_scalar_iff (by simp)]
    constructor
    · intro h m hm
      obtain ⟨raw, hraw, hparsed⟩ := h
      rw [← Option.some.inj hm]
      rw [← Outcome.ok.inj hraw] at hparsed
      exact hread.mp hparsed
    · exact fun h => ⟨n.toText, rfl, hread.mpr (h n rfl)⟩

lemma parseJson_eq_iff {s : String} {v : Value} (hv : ∀ t, v ≠ .string t) :
    parseJson lib s = v ↔ lib.fromStr s = some v := by
  unfold parseJson
  cases lib.fromStr s with
  | none => exact iff_of_false (fun h => hv s h.symm) (by simp)
  | some x => simp

lemma elementValue_json_iff {s : String} {q : Bool} {v : Value} :
    elementValue (some (Codec.json.parse lib)) oid s q = .ok v ↔ parseJson lib s = v := by
  show Outcome.ok (parseJson lib s) = .ok v ↔ _
  rw [Outcome.ok.injEq]

/-- A JSON value that is written as its text comes back when it is read from its text. -/
lemma survives_json_text {v : Value} (hscalar : v ≠ .null ∧ ∀ items, v ≠ .array items)
    (hstring : ∀ t, v ≠ .string t) (hwrite : serializeJson v = .ok v.toText) :
    Codec.json.Survives lib oid v ↔ lib.fromStr v.toText = some v := by
  rw [Codec.Survives, survives_scalar_iff hscalar]
  show (∃ raw, serializeJson v = .ok raw ∧ _) ↔ _
  rw [hwrite, ← parseJson_eq_iff hstring]
  simp only [Outcome.ok.injEq, exists_eq_left', elementValue_json_iff]

/-- A JSON value that is no array comes back when it is kept. -/
lemma survives_json_iff (v : Value) (hv : ∀ items, v ≠ .array items) :
    Codec.json.Survives lib oid v ↔ JsonKept lib v := by
  cases v with
  | array items => exact absurd rfl (hv items)
  | null =>
    rw [Codec.Survives, Pglite.Survives.eq_def]
    exact elementValue_json_iff.trans (parseJson_eq_iff (by simp))
  | string s =>
    rw [Codec.Survives, survives_scalar_iff (by simp)]
    show (∃ raw, (.ok s : Outcome Error String) = .ok raw ∧ _) ↔
      ∀ x, lib.fromStr s = some x → x = .string s
    simp only [Outcome.ok.injEq, exists_eq_left', elementValue_json_iff, parseJson]
    cases lib.fromStr s <;> simp
  | bool | number | object => exact survives_json_text (by simp) (by simp) rfl

/-- A JSON text comes back when the values in it do. -/
lemma survives_parseJson_iff (s : String) :
    Codec.json.Survives lib oid (parseJson lib s) ↔ Codec.json.Keeps lib s := by
  show _ ↔ ∀ x, lib.fromStr s = some x → Elements (JsonKept lib) x
  have hall := survives_iff_elements (P := JsonKept lib) (@survives_json_iff lib oid)
  unfold parseJson
  cases hparse : lib.fromStr s with
  | none =>
    refine iff_of_true ((hall _).mpr ?_) (by simp)
    rw [Option.getD_none, Elements.eq_def]
    exact fun x hx => absurd (hparse.symm.trans hx) (by simp)
  | some x =>
    rw [Option.getD_some]
    exact (hall x).trans ⟨fun h y hy => Option.some.inj hy ▸ h, fun h => h x rfl⟩

/-- Bytes come back when there are none: their values are written one by one, and a number is not
written as bytes. -/
lemma survives_bytea_iff (s : String) :
    Codec.bytea.Survives lib oid (parseBytea lib s) ↔ Codec.bytea.Keeps lib s := by
  show _ ↔ ∀ bytes, (stripPrefix s "\\x").bind lib.hexDecode = some bytes → bytes = []
  unfold parseBytea
  cases hparse : (stripPrefix s "\\x").bind lib.hexDecode with
  | none =>
    refine iff_of_true (survives_string rfl ?_) (by simp)
    show Outcome.ok (parseBytea lib s) = _
    rw [parseBytea, hparse]
  | some bytes =>
    simp only [Option.some.injEq, forall_eq']
    rw [valueOfBytes, Codec.Survives, Pglite.Survives]
    cases bytes with
    | nil =>
      rw [List.map_nil, SurviveAll]
      exact iff_of_true trivial rfl
    | cons b bytes =>
      rw [List.map_cons, SurviveAll, survives_scalar_iff (by simp)]
      refine iff_of_false (fun h => ?_) (by simp)
      obtain ⟨⟨raw, hraw, -⟩, -⟩ := h
      cases hraw

/-- **An element comes back** exactly when its text is kept by the codec. -/
lemma textSurvives_iff (hnull : lib.parseF64 "null" = none)
    (hfloat : ∀ s text, lib.parseF64 s = some (some text) → lib.parseF64 text = some (some text))
    (codec : Option Codec) (t : String × Bool) :
    ArrayItem.TextSurvives (codec.map (Codec.serialize lib))
        (elementValue (codec.map (Codec.parse lib)) oid) t ↔
      ElementKept lib codec t.1 := by
  obtain ⟨s, q⟩ := t
  have hone : ∀ {codec : Codec} {v : Value}, codec.parse lib s oid = .ok v →
      (ArrayItem.TextSurvives (some (codec.serialize lib))
        (elementValue (some (codec.parse lib)) oid) (s, q) ↔ codec.Survives lib oid v) := by
    intro codec v hv
    exact ⟨fun h => h v hv, fun h u hu => Outcome.ok.inj (hv.symm.trans hu) ▸ h⟩
  cases codec with
  | none =>
    refine iff_of_true (fun u hu => ?_) trivial
    have hword : eqIgnoreAsciiCase "null" "NULL" = true := by decide +kernel
    change (if !q && eqIgnoreAsciiCase s "NULL" then Outcome.ok Value.null
      else .ok (.string s)) = .ok u at hu
    split_ifs at hu
    · rw [← Outcome.ok.inj hu, Pglite.Survives.eq_def]
      simp [elementValue, hword]
    · rw [← Outcome.ok.inj hu, Pglite.Survives.eq_def]
      exact ⟨s, rfl, rfl⟩
  | some codec =>
    cases codec with
    | text => exact iff_of_true ((hone rfl).mpr (survives_string rfl rfl)) trivial
    | int => exact iff_of_true (fun u hu => survives_parseRange rfl rfl hu) trivial
    | bigint => exact iff_of_true (fun u hu => survives_parseRange rfl rfl hu) trivial
    | bool => exact iff_of_true ((hone rfl).mpr (survives_bool _)) trivial
    | numeric => exact (hone rfl).trans (survives_numeric_iff s)
    | float => exact (hone rfl).trans (survives_float_iff hnull hfloat s)
    | json => exact (hone rfl).trans (survives_parseJson_iff s)
    | bytea => exact (hone rfl).trans (survives_bytea_iff s)

end Codecs

/-! ## The built-in array types -/

lemma builtinArrayTypes_delimiter : ∀ info ∈ builtinArrayTypes,
    info.delimiter ∉ ['N', 'U', 'L', 'n', 'u', 'l'] ∧
      info.delimiter ∉ ['\x7b', '\x7d', '"', '\\'] := by
  decide +kernel

/-- **The built-in array types.** Each has a parser and a serializer, and the value of an array text
goes through the serializer and back exactly when the codec of the elements keeps their texts. The
texts of a float are finite or none that `str::parse` takes. -/
theorem builtin_array_cycle_iff (lib : TextLib) (hnull : lib.parseF64 "null" = none)
    (hfloat : ∀ s text, lib.parseF64 s = some (some text) → lib.parseF64 text = some (some text))
    (info : ArrayTypeInfo) (hinfo : info ∈ builtinArrayTypes) :
    ∃ parser serializer, (buildDefaultParsers lib).get info.arrayOid = some parser ∧
      (buildDefaultSerializers lib).get info.arrayOid = some serializer ∧
      ∀ (bounds : List (ℤ × ℤ)) (items : List ArrayItem) (v : Value),
        parser (arrayOut bounds info.delimiter items) info.arrayOid = .ok v →
        ((∃ text, serializer v = .ok text ∧ parser text info.arrayOid = .ok v) ↔
          ∀ t ∈ (ArrayItem.array items).texts info.delimiter,
            ElementKept lib (scalarCodecs.get info.elementOid) t.1) := by
  obtain ⟨hparser, hserializer⟩ := buildDefaults_get lib hinfo
  obtain ⟨hletters, hd⟩ := builtinArrayTypes_delimiter info hinfo
  refine ⟨_, _, hparser, hserializer, fun bounds items v hv => ?_⟩
  refine (arrayOut_cycle_iff hletters hd hv).trans (forall₂_congr fun t _ => ?_)
  exact textSurvives_iff hnull hfloat (scalarCodecs.get info.elementOid) t

lemma plainLib_parseF64 :
    plainLib.parseF64 "null" = none ∧ ∀ s text, plainLib.parseF64 s = some (some text) →
      plainLib.parseF64 text = some (some text) := by
  refine ⟨by decide +kernel, fun s text h => ?_⟩
  change (if s = "NaN" then some none else none) = some (some text) at h
  split_ifs at h
  cases h

/-- Integers with NULL and bounds, in a nested array, come back. -/
theorem builtin_array_cycle_int4 :
    ∃ parser serializer, (buildDefaultParsers plainLib).get 1007 = some parser ∧
      (buildDefaultSerializers plainLib).get 1007 = some serializer ∧
      ∃ v, parser (arrayOut [(0, 0), (1, 3)] ',' [.array [.text "-5", .null, .text "7"]]) 1007
        = .ok v ∧ ∃ text, serializer v = .ok text ∧ parser text 1007 = .ok v := by
  have hinfo : (⟨oidInt4, 1007, ','⟩ : ArrayTypeInfo) ∈ builtinArrayTypes := by decide
  obtain ⟨parser, serializer, hparser, hserializer, hcycle⟩ := builtin_array_cycle_iff plainLib
    plainLib_parseF64.1 plainLib_parseF64.2 ⟨oidInt4, 1007, ','⟩ hinfo
  have hread : ((fun text (_ : Int32) =>
      parseArrayText text ((scalarCodecs.get oidInt4).map (Codec.parse plainLib)) oidInt4 ',')
        (arrayOut [(0, 0), (1, 3)] ',' [.array [.text "-5", .null, .text "7"]])
        1007).toOption.isSome = true := by decide +kernel
  rw [← Option.some.inj (hparser.symm.trans (buildDefaults_get plainLib hinfo).1)] at hread
  obtain ⟨v, hv⟩ := Option.isSome_iff_exists.mp hread
  rw [Outcome.toOption_eq_some] at hv
  refine ⟨parser, serializer, hparser, hserializer, v, hv, (hcycle _ _ v hv).mpr fun t _ => ?_⟩
  have hcodec : scalarCodecs.get oidInt4 = some .int := by decide
  rw [hcodec]
  trivial

/-- The value that is read of a `bytea[]` with one byte in it is refused by the serializer. -/
theorem bytea_array_refused :
    ∃ parser serializer, (buildDefaultParsers plainLib).get 1001 = some parser ∧
      (buildDefaultSerializers plainLib).get 1001 = some serializer ∧
      ∃ v, parser (arrayOut [] ',' [.text "\\x01"]) 1001 = .ok v ∧
        ¬ ∃ text, serializer v = .ok text ∧ parser text 1001 = .ok v := by
  have hinfo : (⟨oidBytea, 1001, ','⟩ : ArrayTypeInfo) ∈ builtinArrayTypes := by decide
  obtain ⟨hparser, hserializer⟩ := buildDefaults_get plainLib hinfo
  refine ⟨_, _, hparser, hserializer, ?_⟩
  have hread : ((fun text (_ : Int32) =>
      parseArrayText text ((scalarCodecs.get oidBytea).map (Codec.parse plainLib)) oidBytea ',')
        (arrayOut [] ',' [.text "\\x01"]) 1001).toOption.isSome = true := by decide +kernel
  obtain ⟨v, hv⟩ := Option.isSome_iff_exists.mp hread
  rw [Outcome.toOption_eq_some] at hv
  refine ⟨v, hv, fun hcycle => ?_⟩
  have hsurvives := (arrayOut_cycle_iff (by decide) (by decide) hv).mp hcycle ("\\x01", true)
    (by decide +kernel)
  have hcodec : scalarCodecs.get oidBytea = some .bytea := by decide
  rw [textSurvives_iff plainLib_parseF64.1 plainLib_parseF64.2, hcodec] at hsurvives
  have hbytes : (stripPrefix "\\x01" "\\x").bind plainLib.hexDecode = some [1] := by decide +kernel
  exact absurd (hsurvives [1] hbytes) (by simp)

end PgliteOxide.Pglite
