import PgliteOxide.Lib.Utf8
import PgliteOxide.Lib.BigEndian

/-!
# `Serialize`

The frontend messages of `protocol/serializer.rs`. A `BufferWriter` collects a body, which `flush`
puts behind a code byte and a length; a startup packet and the requests before it have no code.
-/

namespace PgliteOxide.Protocol

open Lib

namespace Serialize

@[match_pattern] abbrev codeQuery : UInt8 := 81
@[match_pattern] abbrev codeParse : UInt8 := 80
@[match_pattern] abbrev codeBind : UInt8 := 66
@[match_pattern] abbrev codeExecute : UInt8 := 69
@[match_pattern] abbrev codeSync : UInt8 := 83
@[match_pattern] abbrev codeDescribe : UInt8 := 68
def codeStartup : UInt8 := 112
def codeFlush : UInt8 := 72
def codeEnd : UInt8 := 88
def codeClose : UInt8 := 67
def codeCopyData : UInt8 := 100
def codeCopyDone : UInt8 := 99
def codeCopyFail : UInt8 := 102

/-- `BufferWriter::add_cstring`. -/
def cstring (s : String) : Bytes := utf8 s ++ [0]

/-- `len as i16`, written. -/
def count (n : ℕ) : Bytes := u16ToBe (UInt16.ofNat n)

/-- `len as i32`, written. -/
def length (n : ℕ) : Bytes := u32ToBe (UInt32.ofNat n)

/-- A length that is written is read back. -/
lemma i32FromBe_length (n : ℕ) :
    ∃ b0 b1 b2 b3, length n = [b0, b1, b2, b3] ∧
      b0 = UInt8.ofNat ((UInt32.ofNat n).toNat / 2 ^ 24) ∧
      i32FromBe b0 b1 b2 b3 = (UInt32.ofNat n).toInt32 := by
  refine ⟨_, _, _, _, rfl, rfl, ?_⟩
  rw [i32FromBe, u32FromBe_toBe]

/-- `BufferWriter::flush` with a code. -/
def frame (code : UInt8) (body : Bytes) : Bytes := code :: length (body.length + 4) ++ body

end Serialize

/-- A parameter of `Bind`. -/
inductive BindValue where
  | null
  | text (s : String)
  | binary (bytes : Bytes)
deriving DecidableEq

structure BindConfig where
  portal : Option String
  statement : Option String
  binary : Bool
  values : List BindValue
  valueMapper : Option (BindValue → ℕ → BindValue)

structure ExecConfig where
  portal : Option String
  rows : Option Int32

/-- The target of `Describe` and `Close`. -/
structure PortalTarget where
  targetType : Char
  name : Option String

namespace Serialize

/-- The body of a startup packet. -/
def startupBody (options : List (String × String)) : Bytes :=
  i16ToBe 3 ++ i16ToBe 0 ++ options.flatMap (fun (key, value) => cstring key ++ cstring value)
    ++ cstring "client_encoding" ++ cstring "UTF8" ++ cstring ""

/-- `Serialize::startup`. -/
def startup (options : List (String × String)) : Bytes :=
  length ((startupBody options).length + 4) ++ startupBody options

/-- `Serialize::request_ssl`. -/
def requestSsl : Bytes := i32ToBe 8 ++ i32ToBe 80877103

/-- `Serialize::password`. -/
def password (password : String) : Bytes := frame codeStartup (cstring password)

/-- `Serialize::send_sasl_initial_response_message`. -/
def sendSaslInitialResponseMessage (mechanism initialResponse : String) : Bytes :=
  frame codeStartup
    (cstring mechanism ++ length (utf8 initialResponse).length ++ utf8 initialResponse)

/-- `Serialize::send_scram_client_final_message`. -/
def sendScramClientFinalMessage (additionalData : String) : Bytes :=
  frame codeStartup (utf8 additionalData)

/-- `Serialize::query`. -/
def query (text : String) : Bytes := frame codeQuery (cstring text)

/-- `Serialize::parse`. -/
def parse (name : Option String) (text : String) (types : List Int32) : Bytes :=
  frame codeParse
    (cstring (name.getD "") ++ cstring text ++ count types.length
      ++ types.flatMap i32ToBe)

/-- The format code of a parameter. -/
def bindFormat : BindValue → Bytes
  | .null => count 0
  | .binary _ => count 1
  | .text _ => count 0

/-- The length and the bytes of a parameter. -/
def bindParam : BindValue → Bytes
  | .null => i32ToBe (-1)
  | .binary bytes => length bytes.length ++ bytes
  | .text text => length (utf8 text).length ++ utf8 text

/-- The values after `value_mapper`. -/
def mappedValues (config : BindConfig) : List BindValue :=
  match config.valueMapper with
  | some mapper => config.values.mapIdx fun idx value => mapper value idx
  | none => config.values

/-- `Serialize::bind`. -/
def bind (config : BindConfig) : Bytes :=
  let values := mappedValues config
  frame codeBind
    (cstring (config.portal.getD "") ++ cstring (config.statement.getD "")
      ++ count config.values.length ++ values.flatMap bindFormat
      ++ count config.values.length ++ values.flatMap bindParam
      ++ count (if config.binary then 1 else 0))

/-- `Serialize::execute`. -/
def execute (config : Option ExecConfig) : Bytes :=
  match config with
  | none => [codeExecute, 0, 0, 0, 9, 0, 0, 0, 0, 0]
  | some cfg =>
    let portal := cfg.portal.getD ""
    let rows := cfg.rows.getD 0
    if portal = "" ∧ rows = 0 then [codeExecute, 0, 0, 0, 9, 0, 0, 0, 0, 0]
    else frame codeExecute (cstring portal ++ i32ToBe rows)

/-- `Serialize::describe`. -/
def describe (target : PortalTarget) : Bytes :=
  frame codeDescribe (cstring (String.singleton target.targetType ++ target.name.getD ""))

/-- `Serialize::close`. -/
def close (target : PortalTarget) : Bytes :=
  frame codeClose (cstring (String.singleton target.targetType ++ target.name.getD ""))

/-- `Serialize::flush`. -/
def flush : Bytes := frame codeFlush []

/-- `Serialize::sync`. -/
def sync : Bytes := frame codeSync []

/-- `Serialize::end`. -/
def end_ : Bytes := frame codeEnd []

/-- `Serialize::copy_data`. -/
def copyData (chunk : Bytes) : Bytes := frame codeCopyData chunk

/-- `Serialize::copy_done`. -/
def copyDone : Bytes := frame codeCopyDone []

/-- `Serialize::copy_fail`. -/
def copyFail (message : String) : Bytes := frame codeCopyFail (cstring message)

/-- `Serialize::cancel`. -/
def cancel (processId secretKey : Int32) : Bytes :=
  i32ToBe 16 ++ i16ToBe 1234 ++ i16ToBe 5678 ++ i32ToBe processId ++ i32ToBe secretKey

end Serialize

end PgliteOxide.Protocol
