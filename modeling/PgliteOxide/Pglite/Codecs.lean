import PgliteOxide.Pglite.Types

/-!
# Element codecs

The parsers and serializers of `types.rs` for one value, and what `serialize_bytea` makes of an
array. Reading JSON, floats and hexadecimal text is the work of other crates and of the standard
library: `TextLib` has what the codecs use of them.
-/

namespace PgliteOxide.Pglite

open Lib Protocol

/-- What the codecs use of `serde_json`, of `str::parse` and of `hex`. A float that is read is given
by the text it is printed as, or by nothing when it is not finite. -/
structure TextLib where
  /-- `serde_json::from_str`. -/
  fromStr : String → Option Value
  /-- `serde_json::Number::from_str`. -/
  numberFromStr : String → Option Number
  /-- `str::parse::<f64>`. -/
  parseF64 : String → Option (Option String)
  /-- `hex::decode`. -/
  hexDecode : String → Option Bytes
  /-- `hex::encode`. -/
  hexEncode : Bytes → String

/-! ## Parsers -/

/-- The digits of `str::parse`. -/
def parseDigits (cs : List Char) : Option ℕ :=
  if cs ≠ [] ∧ cs.all Char.isDigit then some (Nat.ofDigitChars 10 cs 0) else none

/-- `str::parse` of a signed integer: a sign, if there is one, and digits. -/
def parseInteger (s : String) : Option ℤ :=
  match s.toList with
  | '-' :: cs => (parseDigits cs).map fun n => -(n : ℤ)
  | '+' :: cs => (parseDigits cs).map fun n => (n : ℤ)
  | cs => (parseDigits cs).map fun n => (n : ℤ)

/-- The number of an integer that is a `u64` or an `i64`. -/
def numberOfInt (n : ℤ) : Option Number :=
  if 0 ≤ n ∧ n < 2 ^ 64 then some (.posInt (UInt64.ofNat n.toNat))
  else if -2 ^ 63 ≤ n ∧ n < 0 then some (.negInt (Int64.ofInt n))
  else none

/-- `json!` of an integer: it panics when there is no such number. -/
def jsonOfInt (n : ℤ) : Outcome Empty Value :=
  match numberOfInt n with
  | some number => .ok (.number number)
  | none => .panic

/-- A text that is read as an integer when it is one in the range. -/
def parseRange (inRange : ℤ → Bool) (value : String) : Outcome Empty Value :=
  match (parseInteger value).filter inRange with
  | some int => jsonOfInt int
  | none => .ok (.string value)

/-- `parse_int`. -/
def parseInt : String → Outcome Empty Value := parseRange fun n => -2 ^ 63 ≤ n ∧ n < 2 ^ 63

/-- `parse_bigint`. -/
def parseBigint : String → Outcome Empty Value := parseRange fun n => -2 ^ 127 ≤ n ∧ n < 2 ^ 127

/-- `str::strip_prefix`. -/
def stripPrefix (s front : String) : Option String :=
  if front.toList <+: s.toList then some (String.ofList (s.toList.drop front.toList.length))
  else none

/-- `Value::from` of bytes. -/
def valueOfBytes (bytes : Bytes) : Value :=
  .array (bytes.map fun b => .number (.posInt b.toUInt64))

section

variable (lib : TextLib)

/-- `parse_numeric`. -/
def parseNumeric (value : String) : Value :=
  match lib.numberFromStr value with
  | some number => .number number
  | none => .string value

/-- `parse_float`. A float that is not finite is no JSON number: `json!` makes null of it. -/
def parseFloat (value : String) : Value :=
  match lib.parseF64 value with
  | some (some text) => .number (.float text)
  | some none => .null
  | none => .string value

/-- `parse_json`. -/
def parseJson (value : String) : Value :=
  (lib.fromStr value).getD (.string value)

/-- `parse_bytea`. -/
def parseBytea (value : String) : Value :=
  match (stripPrefix value "\\x").bind lib.hexDecode with
  | some bytes => valueOfBytes bytes
  | none => .string value

end

/-! ## Serializers -/

/-- `serialize_string`. -/
def serializeString : Value → Outcome Error String
  | .string s => .ok s
  | other => .ok other.toText

/-- `serialize_number`. -/
def serializeNumber : Value → Outcome Error String
  | .number num => .ok num.toText
  | .string s => .ok s
  | other => .err (.msg s!"cannot serialize value {other.toText} as number")

/-- `serialize_bool`. -/
def serializeBool : Value → Outcome Error String
  | .bool b => .ok (if b then "t" else "f")
  | .number num => .ok (if (num.asI64.getD 0) ≠ 0 then "t" else "f")
  | .string s => .ok (if s = "true" ∨ s = "t" ∨ s = "1" then "t" else "f")
  | other => .err (.msg s!"cannot serialize value {other.toText} as boolean")

/-- `serialize_json`. -/
def serializeJson : Value → Outcome Error String
  | .string s => .ok s
  | value => .ok value.toText

/-- `Value::as_u64`. -/
def asU64 : Value → Option UInt64
  | .number (.posInt n) => some n
  | _ => none

/-- `serialize_bytea`. -/
def serializeBytea (lib : TextLib) : Value → Outcome Error String
  | .string s => .ok s
  | .array arr =>
    let bytes := arr.filterMap fun v => (asU64 v).map fun n => n.toUInt8
    .ok ("\\x" ++ lib.hexEncode bytes)
  | .null => .ok "\\x"
  | _ => .err (.msg "unsupported value for bytea serialization")

/-! ## Integers -/

lemma parseDigits_toString (n : ℕ) : parseDigits (toString n).toList = some n := by
  have hlist : (toString n).toList = Nat.toDigits 10 n := Nat.toList_repr
  have hall : (Nat.toDigits 10 n).all Char.isDigit = true := by
    rw [List.all_eq_true]
    exact fun c hc => Nat.isDigit_of_mem_toDigits (by decide) (by decide) hc
  rw [parseDigits, hlist, if_pos ⟨Nat.toDigits_ne_nil, hall⟩, Nat.ofDigitChars_ten_toDigits]

/-- The text of an integer is read as the integer. -/
lemma parseInteger_toString (n : ℤ) : parseInteger (toString n) = some n := by
  cases n with
  | ofNat m =>
    have htext : toString (Int.ofNat m) = toString m := rfl
    rw [htext, parseInteger]
    have hdigit : ∀ c ∈ (toString m).toList, c.isDigit = true := by
      intro c hc
      rw [show (toString m).toList = Nat.toDigits 10 m from Nat.toList_repr] at hc
      exact Nat.isDigit_of_mem_toDigits (by decide) (by decide) hc
    have hparse := parseDigits_toString m
    split
    · rename_i cs hcs
      have hminus := hdigit '-' (hcs ▸ List.mem_cons_self)
      exact absurd hminus (by decide)
    · rename_i cs hcs
      have hplus := hdigit '+' (hcs ▸ List.mem_cons_self)
      exact absurd hplus (by decide)
    · rw [hparse]
      rfl
  | negSucc m =>
    have htext : (toString (Int.negSucc m)).toList = '-' :: (toString (m + 1)).toList := by
      show ("-" ++ (m + 1).repr).toList = _
      rw [String.toList_append]
      rfl
    rw [parseInteger, htext]
    simp only [parseDigits_toString]
    rfl

/-- The number of an integer is printed as the integer. -/
lemma numberOfInt_toText {n : ℤ} {number : Number} (h : numberOfInt n = some number) :
    number.toText = toString n := by
  unfold numberOfInt at h
  split_ifs at h with hpos hneg
  · rw [← Option.some.inj h, Number.toText, UInt64.toNat_ofNat']
    have hlt : n.toNat % 2 ^ 64 = n.toNat := Nat.mod_eq_of_lt (by omega)
    rw [hlt]
    have hn : ((n.toNat : ℕ) : ℤ) = n := Int.toNat_of_nonneg hpos.1
    conv_rhs => rw [← hn]
    rfl
  · rw [← Option.some.inj h, Number.toText, Int64.toInt_ofInt_of_le (by omega) (by omega)]

/-- An integer as a JSON value is a number that is printed as the integer. -/
lemma jsonOfInt_eq_ok {n : ℤ} {v : Value} (h : jsonOfInt n = .ok v) :
    ∃ number : Number, v = .number number ∧ number.toText = toString n := by
  unfold jsonOfInt at h
  cases hnumber : numberOfInt n with
  | none =>
    rw [hnumber] at h
    cases h
  | some number =>
    rw [hnumber] at h
    exact ⟨number, (Outcome.ok.inj h).symm, numberOfInt_toText hnumber⟩

/-- What an integer parser makes of a text is written as a text of which it makes the same. -/
lemma parseRange_again {inRange : ℤ → Bool} {s : String} {v : Value}
    (h : parseRange inRange s = .ok v) :
    (v ≠ .null ∧ ∀ items, v ≠ .array items) ∧
      ∃ raw, serializeNumber v = .ok raw ∧ parseRange inRange raw = .ok v := by
  cases hint : (parseInteger s).filter inRange with
  | none =>
    have hs : v = .string s := by
      rw [parseRange, hint] at h
      exact (Outcome.ok.inj h).symm
    rw [hs] at h ⊢
    exact ⟨by simp, s, rfl, h⟩
  | some n =>
    have hrange := (Option.filter_eq_some_iff.mp hint).2
    rw [parseRange, hint] at h
    obtain ⟨number, hv, htext⟩ := jsonOfInt_eq_ok h
    refine ⟨by simp [hv], toString n, ?_, ?_⟩
    · rw [hv, serializeNumber, htext]
    · rw [parseRange, parseInteger_toString, Option.filter_some, if_pos hrange]
      exact h

/-! ## Bytes -/

lemma stripPrefix_append (front rest : String) : stripPrefix (front ++ rest) front = some rest := by
  have hprefix : front.toList <+: (front ++ rest).toList := by
    rw [String.toList_append]
    exact List.prefix_append _ _
  rw [stripPrefix, if_pos hprefix, String.toList_append, List.drop_left, String.ofList_toList]

/-- An integer from 0 to 255. -/
def IsByte (v : Value) : Prop := ∃ n : UInt64, v = .number (.posInt n) ∧ n.toNat ≤ 255

section Bytea

variable {lib : TextLib} {a : List Value}

/-- The bytes that `serialize_bytea` takes from an array. -/
def byteaBytes (arr : List Value) : Bytes :=
  arr.filterMap fun v => (asU64 v).map fun n => n.toUInt8

/-- What is written for an array is read as the bytes that were taken from it. -/
lemma parseBytea_serializeBytea (hhex : ∀ bytes, lib.hexDecode (lib.hexEncode bytes) = some bytes)
    (a : List Value) : ∃ text, serializeBytea lib (.array a) = .ok text ∧
      parseBytea lib text = valueOfBytes (byteaBytes a) := by
  refine ⟨"\\x" ++ lib.hexEncode (byteaBytes a), rfl, ?_⟩
  rw [parseBytea, stripPrefix_append, Option.bind_some, hhex]

lemma toNat_le_of_toUInt8 (b : UInt8) : b.toUInt64.toNat ≤ 255 := by
  have hlt := b.toNat_lt
  rw [UInt8.toNat_toUInt64]
  omega

/-- The bytes of an array are its entries exactly when every entry is a byte. -/
lemma valueOfBytes_byteaBytes_iff :
    valueOfBytes (byteaBytes a) = .array a ↔ ∀ v ∈ a, IsByte v := by
  rw [valueOfBytes, Value.array.injEq]
  constructor
  · intro h v hv
    rw [← h] at hv
    obtain ⟨b, -, hb⟩ := List.mem_map.mp hv
    exact ⟨b.toUInt64, hb.symm, toNat_le_of_toUInt8 b⟩
  · intro h
    induction a with
    | nil => rfl
    | cons v a ih =>
      obtain ⟨n, hn, hle⟩ := h v List.mem_cons_self
      have hbyte : n.toUInt8.toUInt64 = n := by
        apply UInt64.toNat_inj.mp
        rw [UInt8.toNat_toUInt64, UInt64.toNat_toUInt8]
        omega
      have hbytes : byteaBytes (v :: a) = n.toUInt8 :: byteaBytes a := by
        rw [hn]
        rfl
      rw [hbytes, List.map_cons, ih fun w hw => h w (List.mem_cons_of_mem v hw), hbyte, hn]

/-- The array is refused, or it is an array of bytes and comes back. -/
def ByteaKept (lib : TextLib) (a : List Value) : Prop :=
  (∃ e, serializeBytea lib (.array a) = .err e) ∨
    ((∀ v ∈ a, IsByte v) ∧ ∃ text, serializeBytea lib (.array a) = .ok text ∧
      parseBytea lib text = .array a)

/-- **Bytes come back.** `serialize_bytea` keeps an array of bytes, and only those: it never refuses
an array, and what it writes for one with another entry is read as another array. -/
theorem serializeBytea_array_iff (lib : TextLib)
    (hhex : ∀ bytes, lib.hexDecode (lib.hexEncode bytes) = some bytes) (a : List Value) :
    ByteaKept lib a ↔ ∀ v ∈ a, IsByte v := by
  obtain ⟨text, hwrite, hread⟩ := parseBytea_serializeBytea hhex a
  unfold ByteaKept
  rw [hwrite]
  constructor
  · rintro (⟨e, he⟩ | ⟨hbytes, -⟩)
    · cases he
    · exact hbytes
  · intro hbytes
    exact .inr ⟨hbytes, text, rfl, hread.trans (valueOfBytes_byteaBytes_iff.mpr hbytes)⟩

/-- The value of a hexadecimal digit, in either case. -/
def hexValue (c : Char) : Option ℕ :=
  if '0' ≤ c ∧ c ≤ '9' then some (c.toNat - 48)
  else if 'a' ≤ c ∧ c ≤ 'f' then some (c.toNat - 87)
  else if 'A' ≤ c ∧ c ≤ 'F' then some (c.toNat - 55)
  else none

/-- Two digits for each byte. -/
def hexChars (bytes : Bytes) : List Char :=
  bytes.flatMap fun b => [Value.hexDigit (b.toNat / 16), Value.hexDigit (b.toNat % 16)]

def bytesOfHex : List Char → Option Bytes
  | [] => some []
  | hi :: lo :: cs => do
    let hi ← hexValue hi
    let lo ← hexValue lo
    let bytes ← bytesOfHex cs
    return UInt8.ofNat (16 * hi + lo) :: bytes
  | [_] => none

lemma bytesOfHex_hexChars (bytes : Bytes) : bytesOfHex (hexChars bytes) = some bytes := by
  have hdigit : ∀ n < 16, hexValue (Value.hexDigit n) = some n := by decide
  induction bytes with
  | nil => rfl
  | cons b bytes ih =>
    have hlt := b.toNat_lt
    have hhi := hdigit (b.toNat / 16) (by omega)
    have hlo := hdigit (b.toNat % 16) (by omega)
    have hbyte : UInt8.ofNat (16 * (b.toNat / 16) + b.toNat % 16) = b := by
      rw [Nat.div_add_mod, UInt8.ofNat_toNat]
    show bytesOfHex (Value.hexDigit (b.toNat / 16) :: Value.hexDigit (b.toNat % 16)
      :: hexChars bytes) = _
    rw [bytesOfHex, hhi, hlo, ih]
    simp only [Option.bind_eq_bind, Option.bind_some]
    rw [hbyte]
    rfl

/-- A library that reads integers, the literals of JSON, and hexadecimal text. -/
def plainLib : TextLib where
  fromStr s :=
    if s = "null" then some .null
    else if s = "true" then some (.bool true)
    else if s = "false" then some (.bool false)
    else ((parseInteger s).bind numberOfInt).map .number
  numberFromStr s := (parseInteger s).bind numberOfInt
  parseF64 s := if s = "NaN" then some none else none
  hexDecode s := bytesOfHex s.toList
  hexEncode bytes := String.ofList (hexChars bytes)

lemma plainLib_hex (bytes : Bytes) : plainLib.hexDecode (plainLib.hexEncode bytes) = some bytes := by
  show bytesOfHex (String.ofList (hexChars bytes)).toList = _
  rw [String.toList_ofList, bytesOfHex_hexChars]

/-- Both ends of the range come back. -/
theorem serializeBytea_array_ends :
    ByteaKept plainLib [.number (.posInt 0), .number (.posInt 255)] := by
  refine (serializeBytea_array_iff plainLib plainLib_hex _).mpr fun v hv => ?_
  rcases List.mem_cons.mp hv with rfl | hv
  · exact ⟨0, rfl, by decide⟩
  · exact ⟨255, List.mem_singleton.mp hv, by decide⟩

/-- The integer after 255 is written as 0, a negative one and a string are dropped. -/
theorem serializeBytea_array_lost :
    ¬ ByteaKept plainLib [.number (.posInt 256), .number (.negInt (-1)), .string "7"] := by
  rintro (⟨e, he⟩ | ⟨hbytes, -⟩)
  · cases he
  · obtain ⟨n, hn, -⟩ := hbytes (.string "7") (by simp)
    cases hn

/-- What is written for these entries is the one byte 0. -/
example : (serializeBytea plainLib
    (.array [.number (.posInt 256), .number (.negInt (-1)), .string "7"])).toOption
      = some "\\x00" := by decide +kernel

end Bytea

end PgliteOxide.Pglite
