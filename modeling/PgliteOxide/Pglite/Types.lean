import PgliteOxide.Lib.Outcome
import PgliteOxide.Pglite.Client
import PgliteOxide.Pglite.Value

/-!
# The type registry

Parsers and serializers by type OID (`interface.rs`), the array codec of `types.rs` and the
registration of array types. A parser or serializer may be a closure of the application: it may
panic, and a serializer may fail.
-/

namespace PgliteOxide.Pglite

open Lib Protocol

/-- The OID of `text`. -/
def oidText : Int32 := 25

abbrev TypeParser := String → Int32 → Outcome Empty Value

abbrev Serializer := Value → Outcome Error String

/-- A `HashMap<i32, α>`: the most recent insertion of a key is found first. -/
abbrev OidMap (α : Type) := List (Int32 × α)

namespace OidMap

variable {α : Type}

/-- `HashMap::get`. -/
def get (map : OidMap α) (oid : Int32) : Option α := map.lookup oid

/-- `HashMap::contains_key`. -/
def containsKey (map : OidMap α) (oid : Int32) : Bool := (map.get oid).isSome

/-- `HashMap::insert`. -/
def insert (map : OidMap α) (oid : Int32) (a : α) : OidMap α := (oid, a) :: map

end OidMap

abbrev ParserMap := OidMap TypeParser

abbrev SerializerMap := OidMap Serializer

inductive RowMode where
  | object
  | array
deriving DecidableEq, Repr

structure QueryOptions where
  rowMode : Option RowMode
  parsers : ParserMap
  serializers : SerializerMap
  blob : Option Bytes
  paramTypes : List Int32
  onNotice : Option CallbackId
  dataTransferContainer : Option DataTransferContainer

/-- `QueryOptions::default`. -/
def QueryOptions.default : QueryOptions :=
  { rowMode := none
    parsers := []
    serializers := []
    blob := none
    paramTypes := []
    onNotice := none
    dataTransferContainer := none }

/-! ## Text helpers -/

/-- `str::replace` of one character. -/
def replaceChar (s : String) (c : Char) (by' : String) : String :=
  String.ofList (s.toList.flatMap fun d => if d = c then by'.toList else [d])

/-- `char::is_whitespace`: the Unicode property `White_Space`. -/
def isWhitespace (c : Char) : Bool :=
  (9 ≤ c.toNat && c.toNat ≤ 13) || c.toNat = 0x20 || c.toNat = 0x85 || c.toNat = 0xA0
    || c.toNat = 0x1680 || (0x2000 ≤ c.toNat && c.toNat ≤ 0x200A) || c.toNat = 0x2028
    || c.toNat = 0x2029 || c.toNat = 0x202F || c.toNat = 0x205F || c.toNat = 0x3000

/-- `str::trim`, on characters. -/
def trim (cs : List Char) : List Char :=
  ((cs.dropWhile isWhitespace).reverse.dropWhile isWhitespace).reverse

/-! ## Writing arrays -/

/-- `value_to_string`. -/
def valueToString : Value → String
  | .string s => s
  | .number n => n.toText
  | .bool b => if b then "t" else "f"
  | .null => "null"
  | value => value.toText

mutual

/-- `serialize_array_value`. -/
def serializeArrayValue (elementSerializer : Option Serializer) (delimiter : Char) :
    Value → Outcome Error String
  | .array [] => .ok "\x7b\x7d"
  | .array (item :: items) => do
    let parts ← serializeItems elementSerializer delimiter (item :: items)
    return "\x7b" ++ (String.singleton delimiter).intercalate parts ++ "\x7d"
  | .null => .ok "null"
  | value => .ok (valueToString value)

/-- The loop over the items of an array. -/
def serializeItems (elementSerializer : Option Serializer) (delimiter : Char) :
    List Value → Outcome Error (List String)
  | [] => .ok []
  | .null :: items => do
    let parts ← serializeItems elementSerializer delimiter items
    return "null" :: parts
  | .array nested :: items => do
    let part ← serializeArrayValue elementSerializer delimiter (.array nested)
    let parts ← serializeItems elementSerializer delimiter items
    return part :: parts
  | item :: items => do
    let raw ← match elementSerializer with
      | some serializer => serializer item
      | none => .ok (valueToString item)
    let escaped := replaceChar (replaceChar raw '\\' "\\\\") '"' "\\\""
    let parts ← serializeItems elementSerializer delimiter items
    return ("\"" ++ escaped ++ "\"") :: parts

end

/-! ## Reading arrays -/

/-- The fields of `ArrayTextParser` that stay fixed; its `index` is passed along. -/
structure ArrayTextParser where
  text : String
  elementParser : Option TypeParser
  elementTypeId : Int32
  delimiter : Char

namespace ArrayTextParser

/-- `text[index..]`: the index counts bytes, and one inside a character is a panic. -/
def charsFrom : List Char → ℕ → Outcome Empty (List Char)
  | cs, 0 => .ok cs
  | [], _ + 1 => .panic
  | c :: cs, index + 1 =>
    if c.utf8Size ≤ index + 1 then charsFrom cs (index + 1 - c.utf8Size) else .panic

def peek (p : ArrayTextParser) (index : ℕ) : Outcome Empty (Option Char) := do
  let rest ← charsFrom p.text.toList index
  return rest.head?

def advance (p : ArrayTextParser) (index : ℕ) : Outcome Empty ℕ := do
  match ← p.peek index with
  | some ch => return index + ch.utf8Size
  | none => return index

/-- `apply_element_parser`. -/
def applyElementParser (p : ArrayTextParser) (slice : String) (quoted : Bool) :
    Outcome Empty Value :=
  match p.elementParser with
  | some parser => parser slice p.elementTypeId
  | none =>
    if !quoted && eqIgnoreAsciiCase slice "NULL" then .ok .null
    else .ok (.string slice)

/-- The loop of `parse_quoted`. Each round consumes a character, so a bound above the length of
the text is not reached. -/
def parseQuotedFrom (p : ArrayTextParser) : ℕ → ℕ → List Char → Outcome Empty (Value × ℕ)
  | 0, _, _ => .panic
  | rounds + 1, index, value => do
    match ← p.peek index with
    | none =>
      let parsed ← p.applyElementParser (String.ofList value) true
      return (parsed, index)
    | some ch =>
      let index ← p.advance index
      if ch = '\\' then
        match ← p.peek index with
        | some escaped =>
          let index ← p.advance index
          p.parseQuotedFrom rounds index (value ++ [escaped])
        | none => p.parseQuotedFrom rounds index value
      else if ch = '"' then
        let parsed ← p.applyElementParser (String.ofList value) true
        return (parsed, index)
      else
        p.parseQuotedFrom rounds index (value ++ [ch])

def parseQuoted (p : ArrayTextParser) (index : ℕ) : Outcome Empty (Value × ℕ) := do
  let index ← p.advance index
  p.parseQuotedFrom (p.text.toList.length + 1) index []

/-- The loop of `parse_unquoted`, with the characters passed over. -/
def parseUnquotedFrom (p : ArrayTextParser) : ℕ → ℕ → List Char → Outcome Empty (List Char × ℕ)
  | 0, _, _ => .panic
  | rounds + 1, index, slice => do
    match ← p.peek index with
    | none => return (slice, index)
    | some ch =>
      if ch = p.delimiter ∨ ch = '}' then
        return (slice, index)
      else
        let index ← p.advance index
        p.parseUnquotedFrom rounds index (slice ++ [ch])

def parseUnquoted (p : ArrayTextParser) (index : ℕ) : Outcome Empty (Value × ℕ) := do
  let (slice, index) ← p.parseUnquotedFrom (p.text.toList.length + 1) index []
  let parsed ← p.applyElementParser (String.ofList (trim slice)) false
  return (parsed, index)

mutual

/-- `parse_array`. The first argument bounds the depth of calls and rounds. -/
def parseArray (p : ArrayTextParser) : ℕ → ℕ → Outcome Empty (Value × ℕ)
  | 0, _ => .panic
  | depth + 1, index => do
    if (← p.peek index) ≠ some '{' then
      return (.array [], index)
    else
      let index ← p.advance index
      p.parseArrayFrom depth index []

/-- The loop of `parse_array`. -/
def parseArrayFrom (p : ArrayTextParser) : ℕ → ℕ → List Value → Outcome Empty (Value × ℕ)
  | 0, _, _ => .panic
  | depth + 1, index, values => do
    match ← p.peek index with
    | none => return (.array values, index)
    | some ch =>
      if ch = '}' then
        let index ← p.advance index
        return (.array values, index)
      else
        let (value, index) ←
          if ch = '{' then p.parseArray depth index
          else if ch = '"' then p.parseQuoted index
          else p.parseUnquoted index
        -- the delimiter after an element is skipped, anything else is left to the next round
        let index ← if (← p.peek index) = some p.delimiter then p.advance index else pure index
        p.parseArrayFrom depth index (values ++ [value])

end

end ArrayTextParser

/-- The bytes before the first `c`, if there is one: `str::find`. -/
def findChar (c : Char) : List Char → Option ℕ
  | [] => none
  | d :: ds => if d = c then some 0 else (findChar c ds).map (d.utf8Size + ·)

/-- `parse_array_text`. -/
def parseArrayText (text : String) (elementParser : Option TypeParser) (elementTypeId : Int32)
    (delimiter : Char) : Outcome Empty Value :=
  match findChar '{' text.toList with
  | none => .ok (.array [])
  | some start => do
    let p : ArrayTextParser := { text, elementParser, elementTypeId, delimiter }
    let (value, _) ← p.parseArray (2 * text.toList.length + 2) start
    return value

/-! ## Registration -/

structure ArrayTypeInfo where
  elementOid : Int32
  arrayOid : Int32
  delimiter : Char
deriving DecidableEq

/-- `register_array_parser`. -/
def registerArrayParser (parsers : ParserMap) (info : ArrayTypeInfo) : ParserMap :=
  let elementParser := parsers.get info.elementOid
  parsers.insert info.arrayOid fun text _ =>
    parseArrayText text elementParser info.elementOid info.delimiter

/-- `register_array_serializer`. -/
def registerArraySerializer (serializers : SerializerMap) (info : ArrayTypeInfo) :
    SerializerMap :=
  let elementSerializer := serializers.get info.elementOid
  serializers.insert info.arrayOid fun value =>
    serializeArrayValue elementSerializer info.delimiter value

/-- `ParserLookup::apply`. -/
def applyParser (defaults overrides : ParserMap) (text : String) (typeId : Int32) :
    Outcome Empty Value :=
  match (overrides.get typeId).or (defaults.get typeId) with
  | some parser => parser text typeId
  | none => .ok (.string text)

end PgliteOxide.Pglite
