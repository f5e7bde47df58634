import PgliteOxide.Lib.Utf8
import PgliteOxide.Pglite.Config

/-!
# Frontend wire format

`wire.rs`: cutting the client's bytes into frontend messages, telling startup, control and
protocol messages apart, reading startup parameters, and the few messages the proxy writes
itself. Errors are the texts of `bail!` and `context`.
-/

namespace PgliteOxide.Pglite

open Lib

def sslRequestCode : Int32 := 80877103
def gssencRequestCode : Int32 := 80877104
def cancelRequestCode : Int32 := 80877102
def protocol3 : Int32 := 196608
def maxFrontendMessage : ℕ := 128 * 1024 * 1024

/-! ## Framing -/

/-- `frontend_message_len_if_complete`. -/
def frontendMessageLenIfComplete (buffer : Bytes) : Except String (Option ℕ) :=
  match buffer with
  | b0 :: b1 :: b2 :: b3 :: rest =>
    if b0 = 0 then
      -- a startup or control packet starts with its length
      let len := i32FromBe b0 b1 b2 b3
      if len.toInt < 8 then .error s!"invalid startup packet length {len.toInt}"
      else
        let len := i32AsUsize len
        if maxFrontendMessage < len then
          .error s!"startup/control packet length {len} exceeds limit"
        else .ok (if len ≤ buffer.length then some len else none)
    else
      match rest with
      | [] => .ok none
      | b4 :: _ =>
        let len := i32FromBe b1 b2 b3 b4
        if len.toInt < 4 then .error s!"invalid frontend message length {len.toInt}"
        else
          let total := 1 + i32AsUsize len
          -- `checked_add`
          if usizeBound ≤ total then .error "frontend message length overflow"
          else if maxFrontendMessage < total then
            .error s!"frontend message length {total} exceeds limit"
          else .ok (if total ≤ buffer.length then some total else none)
  | _ => .ok none

structure FrontendFrameReader where
  buffer : Bytes
deriving DecidableEq, Repr

/-- `FrontendFrameReader::default`. -/
def FrontendFrameReader.default : FrontendFrameReader := { buffer := [] }

/-- The loop of `push`; a turn drains at least five bytes, so the bound is not reached. -/
def pushLoop : ℕ → Bytes → List Bytes → Bytes × Except String (List Bytes)
  | 0, buffer, messages => (buffer, .ok messages)
  | turns + 1, buffer, messages =>
    match frontendMessageLenIfComplete buffer with
    | .error e => (buffer, .error e)
    | .ok none => (buffer, .ok messages)
    | .ok (some messageLen) =>
      pushLoop turns (buffer.drop messageLen) (messages ++ [buffer.take messageLen])

/-- `FrontendFrameReader::push`. -/
def FrontendFrameReader.push (reader : FrontendFrameReader) (input : Bytes) :
    FrontendFrameReader × Except String (List Bytes) :=
  let buffer := reader.buffer ++ input
  let (rest, result) := pushLoop (buffer.length + 1) buffer []
  ({ buffer := rest }, result)

/-- `FrontendFrameReader::pending`. -/
def FrontendFrameReader.pending (reader : FrontendFrameReader) : Bytes := reader.buffer

/-- `raw_protocol_message_len`: the header is always a code byte and a length. -/
def rawProtocolMessageLen (buffer : Bytes) : Except String ℕ :=
  match buffer with
  | _ :: b1 :: b2 :: b3 :: b4 :: _ =>
    let len := i32FromBe b1 b2 b3 b4
    if len.toInt < 4 then
      .error s!"raw protocol stream input contains invalid frontend message length {len.toInt}"
    else
      let total := 1 + i32AsUsize len
      -- `checked_add`
      if usizeBound ≤ total then .error "raw protocol stream frontend message length overflow"
      else if maxFrontendMessage < total then
        .error s!"raw protocol stream frontend message length {total} exceeds limit"
      else if buffer.length < total then
        .error (s!"raw protocol stream input contains incomplete frontend message: "
          ++ s!"expected {total} bytes, got {buffer.length}")
      else .ok total
  | _ => .error "raw protocol stream input contains an incomplete frontend message header"

/-! ## Classification -/

inductive FrontendFrameKind where
  | protocol
  | startup
  | sslOrGssRequest
  | cancelRequest
  | terminate
deriving DecidableEq, Repr

/-- `classify_frontend_message`. -/
def classifyFrontendMessage (message : Bytes) : Except String FrontendFrameKind :=
  match message with
  | [] => .error "empty frontend message"
  | b0 :: tail =>
    if b0 = 0 then
      match tail with
      | _ :: _ :: _ :: c0 :: c1 :: c2 :: c3 :: _ =>
        let code := i32FromBe c0 c1 c2 c3
        if code = sslRequestCode ∨ code = gssencRequestCode then .ok .sslOrGssRequest
        else if code = cancelRequestCode then .ok .cancelRequest
        else if code = protocol3 then .ok .startup
        else .error s!"unsupported startup/control packet code {code.toInt}"
      | _ => .error "startup/control packet is too short"
    else if b0 = 88 then .ok .terminate
    else .ok .protocol

/-! ## Startup parameters -/

/-- The loop of `startup_parameter` over the bytes at the cursor; a turn reads at least two
bytes, so the bound is not reached. -/
def startupParameterFrom (wanted : String) : ℕ → Bytes → Except String (Option String)
  | 0, _ => .ok none
  | turns + 1, rest =>
    if rest.head? = none ∨ rest.head? = some 0 then .ok none
    else
      match rest.findIdx? (· == 0) with
      | none => .error "startup parameter key is not nul-terminated"
      | some keyEnd =>
        match fromUtf8 (rest.take keyEnd) with
        | none => .error "startup parameter key is not UTF-8"
        | some key =>
          let rest := rest.drop (keyEnd + 1)
          match rest.findIdx? (· == 0) with
          | none => .error "startup parameter value is not nul-terminated"
          | some valueEnd =>
            match fromUtf8 (rest.take valueEnd) with
            | none => .error "startup parameter value is not UTF-8"
            | some value =>
              if key = wanted then .ok (some value)
              else startupParameterFrom wanted turns (rest.drop (valueEnd + 1))

/-- `startup_parameter`. -/
def startupParameter (message : Bytes) (wanted : String) : Except String (Option String) :=
  if message.length < 8 then .error "startup packet is too short"
  else startupParameterFrom wanted (message.length + 1) (message.drop 8)

/-- `startup_config_for_message`. -/
def startupConfigForMessage (base : StartupConfig) (message : Bytes) :
    Except String StartupConfig := do
  let user ← startupParameter message "user"
  let config := match user with
    | some user => { base with username := user }
    | none => base
  let database ← startupParameter message "database"
  let config := match database with
    | some database => { config with database := database }
    | none => config
  config.validate
  return config

/-! ## Backend responses -/

/-- The loop of `response_contains_tag`; a turn reads at least five bytes. -/
def responseContainsTagFrom (expected : UInt8) : ℕ → Bytes → Bool
  | turns + 1, tag :: b0 :: b1 :: b2 :: b3 :: tail =>
    let len := i32FromBe b0 b1 b2 b3
    if len.toInt < 4 then false
    else
      let total := 1 + i32AsUsize len
      if tail.length + 5 < total then false
      else if tag = expected then true
      else responseContainsTagFrom expected turns ((tag :: b0 :: b1 :: b2 :: b3 :: tail).drop total)
  | _, _ => false

/-- `response_contains_tag`. -/
def responseContainsTag (response : Bytes) (expected : UInt8) : Bool :=
  responseContainsTagFrom expected (response.length + 1) response

/-- `response_contains_error`. -/
def responseContainsError (response : Bytes) : Bool := responseContainsTag response 69

/-! ## Messages the proxy writes -/

/-- `push_error_field`. -/
def pushErrorField (body : Bytes) (tag : UInt8) (value : String) : Bytes :=
  body ++ tag :: (utf8 value ++ [0])

/-- `error_response`. -/
def errorResponse (severity code message : String) : Bytes :=
  let body := pushErrorField [] 83 severity
  let body := pushErrorField body 86 severity
  let body := pushErrorField body 67 code
  let body := pushErrorField body 77 message
  let body := body ++ [0]
  69 :: (i32ToBe (Int32.ofNat (body.length + 4)) ++ body)

/-- `simple_query_message`. -/
def simpleQueryMessage (sql : String) : Bytes :=
  81 :: (i32ToBe (Int32.ofNat ((utf8 sql).length + 5)) ++ (utf8 sql ++ [0]))

/-- `templating::quote_identifier`. -/
def quoteIdentifier (ident : String) : String :=
  let escaped := String.ofList (ident.toList.flatMap fun c => if c = '"' then ['"', '"'] else [c])
  "\"" ++ escaped ++ "\""

end PgliteOxide.Pglite
