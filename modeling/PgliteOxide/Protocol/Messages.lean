import Mathlib.Tactic.Common
import PgliteOxide.Lib.BigEndian

/-!
# Backend messages

The message types of `protocol/messages.rs` and `protocol/types.rs`. Every message keeps the
`length` the parser stores in it. `Error` is the part of `anyhow::Error` the protocol layer
tells apart: a text, an invalid UTF-8 sequence, or a PostgreSQL `ErrorResponse`.
-/

namespace PgliteOxide.Protocol

open Lib

/-! ## Format codes -/

/-- The format of a column: text or binary. -/
inductive Mode where
  | text
  | binary
deriving DecidableEq, Repr

/-- `Mode::try_from`. -/
def Mode.tryFrom (value : Int16) : Option Mode :=
  if value = 0 then some .text
  else if value = 1 then some .binary
  else none

/-- `Mode::as_i16`. -/
def Mode.asI16 : Mode → Int16
  | .text => 0
  | .binary => 1

@[simp] lemma Mode.tryFrom_asI16 (m : Mode) : Mode.tryFrom m.asI16 = some m := by
  cases m <;> rfl

/-! ## Message bodies -/

/-- The two COPY responses share one body and are told apart by name. -/
inductive MessageName where
  | copyInResponse
  | copyOutResponse
deriving DecidableEq, Repr

structure ReadyForQueryMessage where
  length : ℕ
  status : UInt8
deriving DecidableEq, Repr

structure CommandCompleteMessage where
  length : ℕ
  text : String
deriving DecidableEq, Repr

structure CopyDataMessage where
  length : ℕ
  chunk : Bytes
deriving DecidableEq, Repr

structure CopyResponse where
  length : ℕ
  name : MessageName
  binary : Bool
  columnTypes : List Int16
deriving DecidableEq

structure Field where
  name : String
  tableId : Int32
  columnId : Int16
  dataTypeId : Int32
  dataTypeSize : Int16
  dataTypeModifier : Int32
  format : Mode
deriving DecidableEq

structure RowDescriptionMessage where
  length : ℕ
  fields : List Field
deriving DecidableEq

structure ParameterDescriptionMessage where
  length : ℕ
  dataTypeIds : List Int32
deriving DecidableEq

structure ParameterStatusMessage where
  length : ℕ
  parameterName : String
  parameterValue : String
deriving DecidableEq, Repr

structure BackendKeyDataMessage where
  length : ℕ
  processId : Int32
  secretKey : Int32
deriving DecidableEq

structure NotificationResponseMessage where
  length : ℕ
  processId : Int32
  channel : String
  payload : String
deriving DecidableEq

structure DataRowMessage where
  length : ℕ
  fields : List (Option String)
deriving DecidableEq, Repr

/-! ## Errors and notices -/

/-- A `HashMap<String, String>`: the most recent insertion of a key is found first. -/
abbrev FieldMap := List (String × String)

/-- `HashMap::insert`. -/
def FieldMap.insert (m : FieldMap) (key value : String) : FieldMap := (key, value) :: m

/-- `HashMap::get`. -/
def FieldMap.get (m : FieldMap) (key : String) : Option String := m.lookup key

/-- The optional fields `NoticeMessage` and `DatabaseError` share. -/
structure NoticeOrErrorFields where
  severity : Option String
  code : Option String
  detail : Option String
  hint : Option String
  position : Option String
  internalPosition : Option String
  internalQuery : Option String
  where_ : Option String
  schema : Option String
  table : Option String
  column : Option String
  dataType : Option String
  constraint : Option String
  file : Option String
  line : Option String
  routine : Option String
deriving DecidableEq, Repr

/-- `apply_fields`: the body both implementations of the trait have. -/
def NoticeOrErrorFields.applyFields (fields : FieldMap) : NoticeOrErrorFields where
  severity := fields.get "S"
  code := fields.get "C"
  detail := fields.get "D"
  hint := fields.get "H"
  position := fields.get "P"
  internalPosition := fields.get "p"
  internalQuery := fields.get "q"
  where_ := fields.get "W"
  schema := fields.get "s"
  table := fields.get "t"
  column := fields.get "c"
  dataType := fields.get "d"
  constraint := fields.get "n"
  file := fields.get "F"
  line := fields.get "L"
  routine := fields.get "R"

structure NoticeMessage where
  length : ℕ
  message : Option String
  fields : NoticeOrErrorFields
deriving DecidableEq, Repr

structure DatabaseError where
  length : ℕ
  message : String
  fields : NoticeOrErrorFields
deriving DecidableEq, Repr

/-! ## Authentication -/

inductive AuthenticationMessage where
  | ok (length : ℕ)
  | cleartext (length : ℕ)
  | md5 (length : ℕ) (salt : Bytes)
  | sasl (length : ℕ) (mechanisms : List String)
  | saslContinue (length : ℕ) (data : String)
  | saslFinal (length : ℕ) (data : String)
deriving DecidableEq, Repr

/-! ## Messages -/

inductive BackendMessage where
  | parseComplete (length : ℕ)
  | bindComplete (length : ℕ)
  | closeComplete (length : ℕ)
  | noData (length : ℕ)
  | portalSuspended (length : ℕ)
  | replicationStart (length : ℕ)
  | emptyQuery (length : ℕ)
  | copyDone (length : ℕ)
  | readyForQuery (msg : ReadyForQueryMessage)
  | commandComplete (msg : CommandCompleteMessage)
  | dataRow (msg : DataRowMessage)
  | rowDescription (msg : RowDescriptionMessage)
  | parameterDescription (msg : ParameterDescriptionMessage)
  | parameterStatus (msg : ParameterStatusMessage)
  | backendKeyData (msg : BackendKeyDataMessage)
  | notification (msg : NotificationResponseMessage)
  | copyResponse (msg : CopyResponse)
  | copyData (msg : CopyDataMessage)
  | authentication (msg : AuthenticationMessage)
  | error (msg : DatabaseError)
  | notice (msg : NoticeMessage)
deriving DecidableEq

/-! ## Errors of the protocol layer -/

/-- The errors the protocol layer raises. -/
inductive Error where
  /-- A formatted text (`anyhow!`, `ensure!`). -/
  | msg (text : String)
  /-- `std::str::Utf8Error`. -/
  | utf8
  /-- A PostgreSQL `ErrorResponse` turned into an error by the client. -/
  | database (err : DatabaseError)
deriving DecidableEq, Repr

end PgliteOxide.Protocol
