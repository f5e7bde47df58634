import PgliteOxide.Protocol.BufferReader

/-!
# `Parser`

The streaming parser of `protocol/parser.rs`: `handlePacket` and one decoder per message
kind, and `parse`, which appends its input to the buffer it keeps, hands every complete
message to a callback and drops the consumed bytes. A decoding error or a callback error
leaves `parse` before the consumed bytes are dropped.
-/

namespace PgliteOxide.Protocol

open Lib

/-- A code byte and a 32-bit length. -/
def headerLen : ℕ := 5

/-! ## Message codes -/

@[match_pattern] abbrev codeDataRow : UInt8 := 68
@[match_pattern] abbrev codeParseComplete : UInt8 := 49
@[match_pattern] abbrev codeBindComplete : UInt8 := 50
@[match_pattern] abbrev codeCloseComplete : UInt8 := 51
@[match_pattern] abbrev codeCommandComplete : UInt8 := 67
@[match_pattern] abbrev codeReadyForQuery : UInt8 := 90
@[match_pattern] abbrev codeNoData : UInt8 := 110
@[match_pattern] abbrev codeNotificationResponse : UInt8 := 65
@[match_pattern] abbrev codeAuthentication : UInt8 := 82
@[match_pattern] abbrev codeParameterStatus : UInt8 := 83
@[match_pattern] abbrev codeBackendKeyData : UInt8 := 75
@[match_pattern] abbrev codeError : UInt8 := 69
@[match_pattern] abbrev codeNotice : UInt8 := 78
@[match_pattern] abbrev codeRowDescription : UInt8 := 84
@[match_pattern] abbrev codeParameterDescription : UInt8 := 116
@[match_pattern] abbrev codePortalSuspended : UInt8 := 115
@[match_pattern] abbrev codeReplicationStart : UInt8 := 87
@[match_pattern] abbrev codeEmptyQuery : UInt8 := 73
@[match_pattern] abbrev codeCopyIn : UInt8 := 71
@[match_pattern] abbrev codeCopyOut : UInt8 := 72
@[match_pattern] abbrev codeCopyDone : UInt8 := 99
@[match_pattern] abbrev codeCopyData : UInt8 := 100

/-! ## Decoders -/

/-- `collect_fields`: type byte and NUL-terminated value, until the NUL type. Every round
reads at least two bytes, so a bound on the rounds above the body length is not reached. -/
def collectFieldsFrom : ℕ → FieldMap → Decode FieldMap
  | 0, _ => Decode.lift .panic
  | rounds + 1, fields => do
    let fieldType ← BufferReader.string 1
    if fieldType = "\x00" then
      return fields
    else
      let value ← BufferReader.cstring
      collectFieldsFrom rounds (fields.insert fieldType value)

def collectFields : Decode FieldMap := fun build r =>
  collectFieldsFrom (r.buffer.length + 1) [] build r

def parseReadyForQuery (length : ℕ) : Decode BackendMessage := do
  let status ← BufferReader.string 1
  if (utf8 status).length = 1 then
    let b ← Decode.lift (index (utf8 status) 0)
    return .readyForQuery { length, status := b }
  else
    Decode.fail (.msg "invalid readyForQuery status")

def parseCommandComplete (length : ℕ) : Decode BackendMessage := do
  let text ← BufferReader.cstring
  return .commandComplete { length, text }

/-- `parse_copy_data` slices the body it is given, not the cursor. -/
def parseCopyData (length : ℕ) (bytes : Bytes) : Decode BackendMessage := do
  let chunk ← Decode.lift (slice bytes 0 (length - 4))
  return .copyData { length, chunk }

def parseCopyMessage (length : ℕ) (name : MessageName) : Decode BackendMessage := do
  let flag ← BufferReader.byte
  let count ← BufferReader.int16
  let columnCount := i16AsUsize count
  Decode.lift (withCapacity 2 columnCount)
  let columnTypes ← Decode.times BufferReader.int16 columnCount
  return .copyResponse { length, name, binary := flag ≠ 0, columnTypes }

def parseNotification (length : ℕ) : Decode BackendMessage := do
  let processId ← BufferReader.int32
  let channel ← BufferReader.cstring
  let payload ← BufferReader.cstring
  return .notification { length, processId, channel, payload }

def parseField : Decode Field := do
  let name ← BufferReader.cstring
  let tableId ← BufferReader.int32
  let columnId ← BufferReader.int16
  let dataTypeId ← BufferReader.int32
  let dataTypeSize ← BufferReader.int16
  let dataTypeModifier ← BufferReader.int32
  let mode ← BufferReader.int16
  let format := (Mode.tryFrom mode).getD .text
  return { name, tableId, columnId, dataTypeId, dataTypeSize, dataTypeModifier, format }

/-- A `Field` takes 48 bytes: a `String`, three `i32`, two `i16` and the format. -/
def parseRowDescription (length : ℕ) : Decode BackendMessage := do
  let count ← BufferReader.int16
  let fieldCount := i16AsUsize count
  Decode.lift (withCapacity 48 fieldCount)
  let fields ← Decode.times parseField fieldCount
  return .rowDescription { length, fields }

def parseParameterDescription (length : ℕ) : Decode BackendMessage := do
  let count ← BufferReader.int16
  let count := i16AsUsize count
  Decode.lift (withCapacity 4 count)
  let dataTypeIds ← Decode.times BufferReader.int32 count
  return .parameterDescription { length, dataTypeIds }

/-- One column of a `DataRow`: length `-1` is SQL `NULL`. -/
def parseColumn : Decode (Option String) := do
  let len ← BufferReader.int32
  if len = -1 then
    return none
  else
    let value ← BufferReader.string (i32AsUsize len)
    return some value

def parseDataRow (length : ℕ) : Decode BackendMessage := do
  let count ← BufferReader.int16
  let fieldCount := i16AsUsize count
  Decode.lift (withCapacity 24 fieldCount)
  let fields ← Decode.times parseColumn fieldCount
  return .dataRow { length, fields }

def parseParameterStatus (length : ℕ) : Decode BackendMessage := do
  let parameterName ← BufferReader.cstring
  let parameterValue ← BufferReader.cstring
  return .parameterStatus { length, parameterName, parameterValue }

def parseBackendKeyData (length : ℕ) : Decode BackendMessage := do
  let processId ← BufferReader.int32
  let secretKey ← BufferReader.int32
  return .backendKeyData { length, processId, secretKey }

/-- The SASL mechanism loop: names until the empty one, each at least one byte long. -/
def saslMechanismsFrom : ℕ → Decode (List String)
  | 0 => Decode.lift .panic
  | rounds + 1 => do
    let mechanism ← BufferReader.cstring
    if mechanism.isEmpty then
      return []
    else
      let rest ← saslMechanismsFrom rounds
      return mechanism :: rest

def saslMechanisms : Decode (List String) := fun build r =>
  saslMechanismsFrom (r.buffer.length + 1) build r

def parseAuthentication (length : ℕ) : Decode BackendMessage := do
  let code ← BufferReader.int32
  if code = 0 then
    return .authentication (.ok length)
  else if code = 3 then
    return .authentication (.cleartext length)
  else if code = 5 then
    let salt ← BufferReader.bytes 4
    return .authentication (.md5 length salt)
  else if code = 10 then
    let mechanisms ← saslMechanisms
    return .authentication (.sasl length mechanisms)
  else if code = 11 then
    let data ← BufferReader.string (length - 8)
    return .authentication (.saslContinue length data)
  else if code = 12 then
    let data ← BufferReader.string (length - 8)
    return .authentication (.saslFinal length data)
  else
    Decode.fail (.msg s!"Unknown authentication message type {code.toInt} (length={length})")

def parseErrorMessage (length : ℕ) : Decode BackendMessage := do
  let fields ← collectFields
  let message := (fields.get "M").getD ""
  return .error { length, message, fields := .applyFields fields }

def parseNoticeMessage (length : ℕ) : Decode BackendMessage := do
  let fields ← collectFields
  let message := fields.get "M"
  return .notice { length, message, fields := .applyFields fields }

/-! ## Packets -/

/-- `{:x}` of a byte. -/
def hexByte (b : UInt8) : String := String.ofList (Nat.toDigits 16 b.toNat)

/-- The decoder `handle_packet` picks for a code. -/
def packetDecoder (code : UInt8) (bytes : Bytes) (length : ℕ) : Decode BackendMessage :=
  match code with
  | codeBindComplete => pure (.bindComplete 5)
  | codeParseComplete => pure (.parseComplete 5)
  | codeCloseComplete => pure (.closeComplete 5)
  | codeNoData => pure (.noData 5)
  | codePortalSuspended => pure (.portalSuspended 5)
  | codeCopyDone => pure (.copyDone 4)
  | codeReplicationStart => pure (.replicationStart 4)
  | codeEmptyQuery => pure (.emptyQuery 4)
  | codeCommandComplete => parseCommandComplete length
  | codeReadyForQuery => parseReadyForQuery length
  | codeDataRow => parseDataRow length
  | codeNotificationResponse => parseNotification length
  | codeParameterStatus => parseParameterStatus length
  | codeBackendKeyData => parseBackendKeyData length
  | codeError => parseErrorMessage length
  | codeNotice => parseNoticeMessage length
  | codeRowDescription => parseRowDescription length
  | codeParameterDescription => parseParameterDescription length
  | codeCopyIn => parseCopyMessage length .copyInResponse
  | codeCopyOut => parseCopyMessage length .copyOutResponse
  | codeCopyData => parseCopyData length bytes
  | codeAuthentication => parseAuthentication length
  | _ => Decode.fail (.msg s!"received invalid response: {hexByte code}")

/-- `handle_packet`: decode one body with a fresh cursor. -/
def handlePacket (build : Build) (code : UInt8) (bytes : Bytes) (length : ℕ) :
    Outcome Error BackendMessage := do
  let (message, _) ← packetDecoder code bytes length build { buffer := bytes, offset := 0 }
  return message

/-! ## The streaming loop -/

structure Parser where
  buffer : Bytes
deriving DecidableEq, Repr

/-- `Parser::new`. -/
def Parser.new : Parser := { buffer := [] }

/-- What a call of `parse` leaves behind: the parser, what the callback accumulated, and how
the call ended. -/
structure ParseResult (σ : Type) where
  parser : Parser
  state : σ
  outcome : Outcome Error Unit

/-- The code and the length field of the message at `cursor`. -/
def packetHeader (buffer : Bytes) (cursor : ℕ) : Outcome Error (UInt8 × ℕ) := do
  let code ← index buffer cursor
  let lengthBytes ← slice buffer (cursor + 1) (cursor + headerLen)
  let b0 ← index lengthBytes 0
  let b1 ← index lengthBytes 1
  let b2 ← index lengthBytes 2
  let b3 ← index lengthBytes 3
  return (code, (u32FromBe b0 b1 b2 b3).toNat)

/-- One turn of the loop at `cursor`: wait for more data (`none`), or decode the message
there and say how many bytes it takes. -/
def nextMessage (build : Build) (buffer : Bytes) (cursor : ℕ) :
    Outcome Error (Option (BackendMessage × ℕ)) := do
  let (code, length) ← packetHeader buffer cursor
  if buffer.length - cursor < 1 + length then
    return none
  else
    let body ← slice buffer (cursor + headerLen) (cursor + (1 + length))
    let message ← handlePacket build code body length
    return some (message, 1 + length)

section

variable {σ : Type} (build : Build) (callback : σ → BackendMessage → σ × Except Error Unit)

/-- The `while` loop of `parse`; it returns the final cursor. A turn consumes at least five
bytes, so a bound on the turns above the buffer length is not reached. -/
def parseLoop (buffer : Bytes) : ℕ → ℕ → σ → σ × Outcome Error ℕ
  | 0, _, s => (s, .panic)
  | turns + 1, cursor, s =>
    if headerLen ≤ buffer.length - cursor then
      match nextMessage build buffer cursor with
      | .panic => (s, .panic)
      | .err e => (s, .err e)
      | .ok none => (s, .ok cursor)
      | .ok (some (message, totalLen)) =>
        match callback s message with
        | (s', .error e) => (s', .err e)
        | (s', .ok ()) => parseLoop buffer turns (cursor + totalLen) s'
    else
      (s, .ok cursor)

/-- `Parser::parse`. -/
def Parser.parse (p : Parser) (input : Bytes) (s : σ) : ParseResult σ :=
  let buffer := p.buffer ++ input
  match parseLoop build callback buffer (buffer.length + 1) 0 s with
  | (s', .ok cursor) =>
    { parser := { buffer := if 0 < cursor then buffer.drop cursor else buffer }
      state := s'
      outcome := .ok () }
  | (s', .err e) => { parser := { buffer := buffer }, state := s', outcome := .err e }
  | (s', .panic) => { parser := { buffer := buffer }, state := s', outcome := .panic }

end

/-- The callback the tests use: collect every message, never fail. -/
def collect (messages : List BackendMessage) (message : BackendMessage) :
    List BackendMessage × Except Error Unit :=
  (messages ++ [message], .ok ())

end PgliteOxide.Protocol
