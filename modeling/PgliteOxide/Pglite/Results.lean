import PgliteOxide.Pglite.Types

/-!
# Results of statements

`parse.rs`: the messages of a response become one `Results` for each `CommandComplete`. The
affected-row count is not reset between statements.
-/

namespace PgliteOxide.Pglite

open Lib Protocol

structure FieldInfo where
  name : String
  dataTypeId : Int32
deriving DecidableEq

structure Results where
  rows : List Value
  fields : List FieldInfo
  affectedRows : Option ℕ
  blob : Option Bytes

/-- `map_fields`. -/
def mapFields (desc : RowDescriptionMessage) : List FieldInfo :=
  desc.fields.map fun field => { name := field.name, dataTypeId := field.dataTypeId }

/-- `str::parse::<usize>`: an optional `+` and decimal digits, below `2^64`. -/
def parseUsize (s : String) : Option ℕ :=
  let digits := match s.toList with
    | '+' :: cs => cs
    | cs => cs
  if digits ≠ [] ∧ digits.all Char.isDigit then
    let n := digits.foldl (fun n c => n * 10 + (c.toNat - 48)) 0
    if n < usizeBound then some n else none
  else none

/-- `retrieve_row_count`. -/
def retrieveRowCount (msg : CommandCompleteMessage) : ℕ :=
  let parts := (msg.text.toList.splitOn ' ').map String.ofList
  match parts.head? with
  | some "INSERT" => (parts[2]?.bind parseUsize).getD 0
  | some "UPDATE" | some "DELETE" | some "COPY" | some "MERGE" =>
    (parts[1]?.bind parseUsize).getD 0
  | _ => 0

section

variable (defaults overrides : ParserMap)

/-- `parse_cell`. -/
def parseCell (value : Option String) (typeId : Int32) : Outcome Empty Value :=
  match value with
  | none => .ok .null
  | some text => applyParser defaults overrides text typeId

/-- The cells of a row in array mode. -/
def mapRowArray : List (Option String × FieldInfo) → Outcome Empty (List Value)
  | [] => .ok []
  | (value, field) :: cells => do
    let parsed ← parseCell defaults overrides value field.dataTypeId
    let rest ← mapRowArray cells
    return parsed :: rest

/-- The cells of a row in object mode, inserted one by one. -/
def mapRowObject (map : List (String × Value)) :
    List (Option String × FieldInfo) → Outcome Empty (List (String × Value))
  | [] => .ok map
  | (value, field) :: cells => do
    let parsed ← parseCell defaults overrides value field.dataTypeId
    mapRowObject (Value.insertEntry field.name parsed map) cells

/-- `map_row`. -/
def mapRow (row : DataRowMessage) (fields : List FieldInfo) (rowMode : Option RowMode) :
    Outcome Empty Value :=
  match rowMode with
  | some .array => do
    let values ← mapRowArray defaults overrides (row.fields.zip fields)
    return .array values
  | _ => do
    let map ← mapRowObject defaults overrides [] (row.fields.zip fields)
    return .object map

end

/-- The variables of the loop in `parse_results`. -/
structure ResultsProgress where
  resultSets : List Results
  currentFields : List FieldInfo
  currentRows : List Value
  affectedRows : ℕ

/-- The loop of `parse_results`. -/
def parseResultsFrom (build : Build) (defaults overrides : ParserMap) (rowMode : Option RowMode)
    (blob : Option Bytes) :
    ResultsProgress → List BackendMessage → Outcome Empty ResultsProgress
  | r, [] => .ok r
  | r, .rowDescription desc :: messages =>
    parseResultsFrom build defaults overrides rowMode blob
      { r with currentFields := mapFields desc } messages
  | r, .dataRow row :: messages =>
    if r.currentFields = [] then
      parseResultsFrom build defaults overrides rowMode blob r messages
    else do
      let rowValue ← mapRow defaults overrides row r.currentFields rowMode
      parseResultsFrom build defaults overrides rowMode blob
        { r with currentRows := r.currentRows ++ [rowValue] } messages
  | r, .commandComplete cmd :: messages => do
    let affectedRows ← usizeAdd build r.affectedRows (retrieveRowCount cmd)
    let results : Results :=
      { rows := r.currentRows
        fields := r.currentFields
        affectedRows := some affectedRows
        blob }
    parseResultsFrom build defaults overrides rowMode blob
      { resultSets := r.resultSets ++ [results]
        currentFields := []
        currentRows := []
        affectedRows } messages
  | r, _ :: messages => parseResultsFrom build defaults overrides rowMode blob r messages

/-- `parse_results`. -/
def parseResults (build : Build) (messages : List BackendMessage) (defaultParsers : ParserMap)
    (options : Option QueryOptions) (blob : Option Bytes) : Outcome Empty (List Results) := do
  let rowMode := options.bind (·.rowMode)
  let parsersOverride := (options.map (·.parsers)).getD []
  let r ← parseResultsFrom build defaultParsers parsersOverride rowMode blob
    { resultSets := [], currentFields := [], currentRows := [], affectedRows := 0 } messages
  match r.resultSets with
  | [] => return [{ rows := [], fields := [], affectedRows := some 0, blob }]
  | resultSets => return resultSets

/-- `parse_describe_statement_results`. -/
def parseDescribeStatementResults : List BackendMessage → List Int32
  | [] => []
  | .parameterDescription desc :: _ => desc.dataTypeIds
  | _ :: messages => parseDescribeStatementResults messages

/-- The column types of every `RowDescription`, in order. -/
def resultTypeIds : List BackendMessage → List Int32
  | [] => []
  | .rowDescription desc :: messages =>
    desc.fields.map (·.dataTypeId) ++ resultTypeIds messages
  | _ :: messages => resultTypeIds messages

end PgliteOxide.Pglite
