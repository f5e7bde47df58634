import PgliteOxide.Lib.SqlFormat
import PgliteOxide.Pglite.Operations

/-!
# Templates of queries

`templating.rs`: `format_query` rewrites the placeholders of a query into specifiers and has the
server `format` it with the parameters.
-/

namespace PgliteOxide.Pglite

open Lib Protocol

/-! ## Placeholders -/

/-- What `DOLLAR_RE` makes of a text: the digits of its matches, and the characters between them. -/
inductive DollarPiece where
  | char (c : Char)
  | placeholder (digits : List Char)
deriving DecidableEq

namespace DollarPiece

/-- The text of a piece. -/
def source : DollarPiece → List Char
  | char c => [c]
  | placeholder digits => '$' :: digits

/-- What the piece is replaced with. -/
def replaced : DollarPiece → List Char
  | char c => [c]
  | placeholder digits => '%' :: (digits ++ ['L'])

def digits? : DollarPiece → Option (List Char)
  | char _ => none
  | placeholder digits => some digits

end DollarPiece

section

variable (isDecimal : Char → Bool)

/-- The pieces of a text, behind a dollar sign and digits if there is a state. `\d` is any decimal
digit of Unicode. -/
def dollarFrom : Option (List Char) → List Char → List DollarPiece
  | none, [] => []
  | none, c :: cs => if c = '$' then dollarFrom (some []) cs else .char c :: dollarFrom none cs
  | some [], [] => [.char '$']
  | some (d :: digits), [] => [.placeholder (d :: digits)]
  | some [], c :: cs =>
    if isDecimal c then dollarFrom (some [c]) cs
    else .char '$' :: if c = '$' then dollarFrom (some []) cs else .char c :: dollarFrom none cs
  | some (d :: digits), c :: cs =>
    if isDecimal c then dollarFrom (some (d :: digits ++ [c])) cs
    else .placeholder (d :: digits) ::
      if c = '$' then dollarFrom (some []) cs else .char c :: dollarFrom none cs

/-- The pieces of a query. -/
def dollarPieces (query : List Char) : List DollarPiece := dollarFrom isDecimal none query

/-- The digits that `DOLLAR_RE` captures, match by match. -/
def dollarMatches (query : List Char) : List (List Char) :=
  (dollarPieces isDecimal query).filterMap DollarPiece.digits?

/-- `DOLLAR_RE.replace_all`. -/
def formatTemplate (query : List Char) : List Char :=
  (dollarPieces isDecimal query).flatMap DollarPiece.replaced

end

/-! ## `format_query` -/

/-- The statement that has a template formatted with this many parameters. -/
def formatSql (params : ℕ) : String :=
  "SELECT format($1"
    ++ String.join ((List.range params).map fun idx =>
      ", $" ++ toString (Int32.ofNat idx + 2).toInt)
    ++ ") AS query"

/-- The types of the parameters, as described. -/
def formatTypes (dataTypeIds : List Int32) (params : ℕ) : List Int32 :=
  (List.range params).map fun idx => dataTypeIds[idx]?.getD oidText

/-- The options of that statement. -/
def formatOptions (dataTypeIds : List Int32) (params : ℕ) : QueryOptions :=
  { QueryOptions.default with paramTypes := oidText :: formatTypes dataTypeIds params }

/-- The column `query` of the first row. -/
def formattedText {σ : Type} : List Value → Method σ String
  | [] => Session.bail "format query returned no rows"
  | .object map :: _ =>
    match map.lookup "query" with
    | some (.string formatted) => return formatted
    | _ => Session.bail "unexpected format query result"
  | _ => Session.bail "unexpected format query result"

section

variable {σ : Type} (isDecimal : Char → Bool) (describeQuery : String → Method σ (List Int32))
  (query : String → List Value → Option QueryOptions → Method σ Results)

/-- `format_query`, over the parameter types that `describe_query` finds and over `query`. -/
def formatQuery (sql : String) (params : List Value) : Method σ String :=
  match params with
  | [] => return sql
  | params => do
    let dataTypeIds ← describeQuery sql
    let formatted := String.ofList (formatTemplate isDecimal sql.toList)
    let results ← query (formatSql params.length) (.string formatted :: params)
      (some (formatOptions dataTypeIds params.length))
    formattedText results.rows

end

namespace Session

variable {σ : Type} (build : Build) (b : Backend σ) (stack : ℕ)

/-- `describe_query` without options, up to the types of the parameters. -/
def describeQuery (sql : String) : Method σ (List Int32) := do
  checkReady
  let describeMessages ← (parseAndDescribe build b sql [] (execOptions .default)).mapErr
    (.enrich "failed to describe query: " sql [] none)
  let paramTypeIds := parseDescribeStatementResults describeMessages
  ensureArrayTypesForOids (execInternal build b stack) (some .default) paramTypeIds
  ensureArrayTypesForOids (execInternal build b stack) (some .default)
    (resultTypeIds describeMessages)
  return paramTypeIds

/-- `format_query` on an instance. -/
def formatQuery (isDecimal : Char → Bool) (sql : String) (params : List Value) :
    Method σ String :=
  Pglite.formatQuery isDecimal (describeQuery build b stack) (query build b stack) sql params

end Session

end PgliteOxide.Pglite
