import Mathlib.Tactic.Common
import PgliteOxide.Lib.BigEndian

/-!
# JSON values

`serde_json::Value` as the client uses it: parameters go in as values, and rows come out as
values. Objects are kept in key order, as a `BTreeMap` is. A float is represented by the text it
is printed as.
-/

namespace PgliteOxide.Pglite

/-- `serde_json::Number`. -/
inductive Number where
  | posInt (n : UInt64)
  | negInt (n : Int64)
  | float (text : String)
deriving DecidableEq

namespace Number

/-- `Number::to_string`. -/
def toText : Number → String
  | posInt n => toString n.toNat
  | negInt n => toString n.toInt
  | float text => text

/-- `Number::as_i64`. -/
def asI64 : Number → Option Int64
  | posInt n => if n.toNat < 2 ^ 63 then some n.toInt64 else none
  | negInt n => some n
  | float _ => none

end Number

/-- `serde_json::Value`. -/
inductive Value where
  | null
  | bool (b : Bool)
  | number (n : Number)
  | string (s : String)
  | array (items : List Value)
  | object (entries : List (String × Value))

namespace Value

def isNull : Value → Bool
  | null => true
  | _ => false

def isArray : Value → Bool
  | array _ => true
  | _ => false

/-- `Map::insert`: the keys stay in order, and the last value of a key wins. -/
def insertEntry (key : String) (value : Value) : List (String × Value) → List (String × Value)
  | [] => [(key, value)]
  | (k, v) :: entries =>
    if key = k then (key, value) :: entries
    else if key < k then (key, value) :: (k, v) :: entries
    else (k, v) :: insertEntry key value entries

/-! ## JSON text -/

/-- A hexadecimal digit, in lower case. -/
def hexDigit (n : ℕ) : Char := Char.ofNat (if n < 10 then 48 + n else 87 + n)

/-- A character between the quotes of a JSON string. -/
def escapeChar (c : Char) : List Char :=
  if c = '"' then ['\\', '"']
  else if c = '\\' then ['\\', '\\']
  else if c.toNat = 8 then ['\\', 'b']
  else if c.toNat = 12 then ['\\', 'f']
  else if c = '\n' then ['\\', 'n']
  else if c = '\r' then ['\\', 'r']
  else if c = '\t' then ['\\', 't']
  else if c.toNat < 32 then
    ['\\', 'u', '0', '0', hexDigit (c.toNat / 16), hexDigit (c.toNat % 16)]
  else [c]

/-- A quoted JSON string. -/
def quote (s : String) : String :=
  "\"" ++ String.ofList (s.toList.flatMap escapeChar) ++ "\""

mutual

/-- `Value::to_string`: compact JSON. -/
def toText : Value → String
  | null => "null"
  | bool b => if b then "true" else "false"
  | number n => n.toText
  | string s => quote s
  | array items => "[" ++ ",".intercalate (itemTexts items) ++ "]"
  | object entries => "\x7b" ++ ",".intercalate (entryTexts entries) ++ "\x7d"

def itemTexts : List Value → List String
  | [] => []
  | item :: items => item.toText :: itemTexts items

def entryTexts : List (String × Value) → List String
  | [] => []
  | (key, value) :: entries => (quote key ++ ":" ++ value.toText) :: entryTexts entries

end

end Value

end PgliteOxide.Pglite
