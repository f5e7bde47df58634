import Mathlib.Data.List.Forall2
import PgliteOxide.Pglite.Results

/-!
# Every row of a response

A response that is well formed describes the columns of each statement before its rows and has a
value for each column in each row. `parse_results` takes a statement without fields for one
whose fields it has not seen: `parseResults_complete_iff` says that every row comes back, with the
cells it should have, unless there are rows without columns.
-/

namespace PgliteOxide.Pglite

open Lib Protocol

/-- The statements of a response: each `RowDescription` comes before the rows it describes, and
each row has a value for each of the `columns`, up to the next `CommandComplete`. -/
def WellFormedFrom : Option ℕ → List BackendMessage → Prop
  | columns, [] => columns = none
  | columns, .rowDescription desc :: messages =>
    columns = none ∧ WellFormedFrom (some desc.fields.length) messages
  | columns, .dataRow row :: messages =>
    columns = some row.fields.length ∧ WellFormedFrom columns messages
  | _, .commandComplete _ :: messages => WellFormedFrom none messages
  | columns, _ :: messages => WellFormedFrom columns messages

def WellFormed (messages : List BackendMessage) : Prop := WellFormedFrom none messages

/-- What the backend sent for one statement. -/
structure StatementRows where
  fields : List FieldInfo
  rows : List DataRowMessage

/-- The statements that end in the messages, the first with what has been seen of it. -/
def statementRowsFrom : List FieldInfo → List DataRowMessage → List BackendMessage →
    List StatementRows
  | _, _, [] => []
  | _, rows, .rowDescription desc :: messages => statementRowsFrom (mapFields desc) rows messages
  | fields, rows, .dataRow row :: messages => statementRowsFrom fields (rows ++ [row]) messages
  | fields, rows, .commandComplete _ :: messages =>
    ⟨fields, rows⟩ :: statementRowsFrom [] [] messages
  | fields, rows, _ :: messages => statementRowsFrom fields rows messages

def statementRows (messages : List BackendMessage) : List StatementRows :=
  statementRowsFrom [] [] messages

section Rows

variable (defaults overrides : ParserMap)

/-- The value of a cell: an SQL `NULL` is null, a text is parsed by the parser of its type. -/
def CellOf (value : Option String) (field : FieldInfo) (cell : Value) : Prop :=
  match value with
  | none => cell = .null
  | some text =>
    match (overrides.get field.dataTypeId).or (defaults.get field.dataTypeId) with
    | some parser => parser text field.dataTypeId = .ok cell
    | none => cell = .string text

/-- The value of a row: the cells in order, or under each name the cell of its last column. -/
def RowOf (rowMode : Option RowMode) (fields : List FieldInfo) (row : DataRowMessage)
    (rowValue : Value) : Prop :=
  match rowMode with
  | some .array => ∃ cells, rowValue = .array cells ∧ cells.length = fields.length ∧
      ∀ (j : ℕ) (value : Option String) (field : FieldInfo) (cell : Value),
        row.fields[j]? = some value → fields[j]? = some field → cells[j]? = some cell →
          CellOf defaults overrides value field cell
  | _ => ∃ entries, rowValue = .object entries ∧
      ∀ (j : ℕ) (value : Option String) (field : FieldInfo),
        row.fields[j]? = some value → fields[j]? = some field →
        (∀ k, j < k → ∀ later, fields[k]? = some later → later.name ≠ field.name) →
          ∃ cell, entries.lookup field.name = some cell ∧
            CellOf defaults overrides value field cell

/-- Each statement has its result set, and each of its rows its value there, in order. A response
without a statement has one result set without rows. -/
def RowsComplete (rowMode : Option RowMode) (results : List Results)
    (statements : List StatementRows) : Prop :=
  match statements with
  | [] => ∀ result ∈ results, result.rows = []
  | statements => List.Forall₂ (fun result statement =>
      List.Forall₂ (fun rowValue row =>
        RowOf defaults overrides rowMode statement.fields row rowValue)
        result.rows statement.rows) results statements

end Rows

/-! ## One row -/

section Row

variable {defaults overrides : ParserMap} {rowMode : Option RowMode}

lemma parseCell_eq_ok_iff {value : Option String} {field : FieldInfo} {cell : Value} :
    parseCell defaults overrides value field.dataTypeId = .ok cell ↔
      CellOf defaults overrides value field cell := by
  unfold parseCell CellOf applyParser
  cases value with
  | none => exact ⟨fun h => (Outcome.ok.inj h).symm, fun h => congrArg _ h.symm⟩
  | some text =>
    cases (overrides.get field.dataTypeId).or (defaults.get field.dataTypeId) with
    | some parser => exact Iff.rfl
    | none => exact ⟨fun h => (Outcome.ok.inj h).symm, fun h => congrArg _ h.symm⟩

/-- The cells of a row in array mode. -/
lemma mapRowArray_cells {cells : List (Option String × FieldInfo)} {values : List Value}
    (h : mapRowArray defaults overrides cells = .ok values) :
    List.Forall₂ (fun v cell => CellOf defaults overrides cell.1 cell.2 v) values cells := by
  induction cells generalizing values with
  | nil =>
    rw [mapRowArray] at h
    rw [← Outcome.ok.inj h]
    exact .nil
  | cons cell cells ih =>
    obtain ⟨value, field⟩ := cell
    rw [mapRowArray] at h
    obtain ⟨parsed, hparsed, h⟩ := Outcome.bind_eq_ok.mp h
    obtain ⟨rest, hrest, h⟩ := Outcome.bind_eq_ok.mp h
    rw [← Outcome.ok.inj h]
    exact .cons (parseCell_eq_ok_iff.mp hparsed) (ih hrest)

lemma lookup_cons (name k : String) (v : Value) (entries : List (String × Value)) :
    ((k, v) :: entries).lookup name = if name = k then some v else entries.lookup name := by
  rw [List.lookup_cons]
  by_cases hname : name = k
  · rw [hname, beq_self_eq_true, if_pos rfl]
  · rw [beq_eq_false_iff_ne.mpr hname, if_neg hname]

lemma lookup_insertEntry (key name : String) (value : Value) (entries : List (String × Value)) :
    (Value.insertEntry key value entries).lookup name
      = if name = key then some value else entries.lookup name := by
  induction entries with
  | nil => rw [Value.insertEntry, lookup_cons]
  | cons entry entries ih =>
    obtain ⟨k, v⟩ := entry
    rw [Value.insertEntry]
    by_cases hkey : key = k
    · rw [if_pos hkey, lookup_cons, lookup_cons, hkey]
      by_cases hname : name = k
      · rw [if_pos hname, if_pos hname]
      · rw [if_neg hname, if_neg hname, if_neg hname]
    · rw [if_neg hkey]
      by_cases hlt : key < k
      · rw [if_pos hlt, lookup_cons]
      · rw [if_neg hlt, lookup_cons, lookup_cons, ih]
        by_cases hname : name = k
        · have hne : name ≠ key := fun h => hkey (h.symm.trans hname)
          rw [if_pos hname, if_neg hne, if_pos hname]
        · rw [if_neg hname, if_neg hname]

/-- A name that no later column has keeps its value. -/
lemma mapRowObject_lookup {cells : List (Option String × FieldInfo)}
    {map entries : List (String × Value)}
    (h : mapRowObject defaults overrides map cells = .ok entries) {name : String}
    (hname : ∀ cell ∈ cells, cell.2.name ≠ name) : entries.lookup name = map.lookup name := by
  induction cells generalizing map with
  | nil =>
    rw [mapRowObject] at h
    rw [← Outcome.ok.inj h]
  | cons cell cells ih =>
    obtain ⟨value, field⟩ := cell
    rw [mapRowObject] at h
    obtain ⟨parsed, -, h⟩ := Outcome.bind_eq_ok.mp h
    have hfield : name ≠ field.name := Ne.symm (hname (value, field) List.mem_cons_self)
    rw [ih h fun cell hcell => hname cell (List.mem_cons_of_mem _ hcell), lookup_insertEntry,
      if_neg hfield]

/-- A name has the value of its last column. -/
lemma mapRowObject_cell {cells : List (Option String × FieldInfo)}
    {map entries : List (String × Value)}
    (h : mapRowObject defaults overrides map cells = .ok entries) {j : ℕ} {value : Option String}
    {field : FieldInfo} (hj : cells[j]? = some (value, field))
    (hlast : ∀ k, j < k → ∀ later, cells[k]? = some later → later.2.name ≠ field.name) :
    ∃ cell, entries.lookup field.name = some cell ∧ CellOf defaults overrides value field cell := by
  induction cells generalizing map j with
  | nil => simp at hj
  | cons cell cells ih =>
    obtain ⟨value', field'⟩ := cell
    rw [mapRowObject] at h
    obtain ⟨parsed, hparsed, h⟩ := Outcome.bind_eq_ok.mp h
    cases j with
    | zero =>
      rw [List.getElem?_cons_zero, Option.some.injEq, Prod.mk.injEq] at hj
      rw [hj.1, hj.2, parseCell_eq_ok_iff] at hparsed
      refine ⟨parsed, ?_, hparsed⟩
      have hkeep : entries.lookup field.name
          = (Value.insertEntry field'.name parsed map).lookup field.name := by
        refine mapRowObject_lookup h fun later hlater => ?_
        obtain ⟨k, hk, hlater⟩ := List.getElem_of_mem hlater
        refine hlast (k + 1) (by omega) later ?_
        rw [List.getElem?_cons_succ, List.getElem?_eq_getElem hk, hlater]
      rw [hkeep, lookup_insertEntry, hj.2, if_pos rfl]
    | succ j =>
      rw [List.getElem?_cons_succ] at hj
      refine ih h hj fun k hk later hlater => hlast (k + 1) (by omega) later ?_
      rwa [List.getElem?_cons_succ]

/-- A row with a value for each field comes back as it should. -/
lemma rowOf_mapRow {row : DataRowMessage} {fields : List FieldInfo} {rowValue : Value}
    (hlen : row.fields.length = fields.length)
    (h : mapRow defaults overrides row fields rowMode = .ok rowValue) :
    RowOf defaults overrides rowMode fields row rowValue := by
  have hobject : (do
        let map ← mapRowObject defaults overrides [] (row.fields.zip fields)
        return Value.object map) = (.ok rowValue : Outcome Empty Value) →
      ∃ entries, rowValue = .object entries ∧
        ∀ (j : ℕ) (value : Option String) (field : FieldInfo),
          row.fields[j]? = some value → fields[j]? = some field →
          (∀ k, j < k → ∀ later, fields[k]? = some later → later.name ≠ field.name) →
            ∃ cell, entries.lookup field.name = some cell ∧
              CellOf defaults overrides value field cell := by
    intro h
    obtain ⟨entries, hentries, h⟩ := Outcome.bind_eq_ok.mp h
    refine ⟨entries, (Outcome.ok.inj h).symm, fun j value field hvalue hfield hlast => ?_⟩
    refine mapRowObject_cell hentries (List.getElem?_zip_eq_some.mpr ⟨hvalue, hfield⟩) ?_
    intro k hk later hlater
    exact hlast k hk later.2 (List.getElem?_zip_eq_some.mp hlater).2
  cases rowMode with
  | none => exact hobject h
  | some mode =>
    cases mode with
    | object => exact hobject h
    | array =>
      obtain ⟨values, hvalues, h⟩ := Outcome.bind_eq_ok.mp h
      have hcells := mapRowArray_cells hvalues
      refine ⟨values, (Outcome.ok.inj h).symm, ?_, fun j value field cell hvalue hfield hcell => ?_⟩
      · rw [hcells.length_eq, List.length_zip, hlen, min_self]
      · have hzip : (row.fields.zip fields)[j]? = some (value, field) :=
          List.getElem?_zip_eq_some.mpr ⟨hvalue, hfield⟩
        obtain ⟨hj, hcell⟩ := List.getElem?_eq_some_iff.mp hcell
        obtain ⟨hj', hzip⟩ := List.getElem?_eq_some_iff.mp hzip
        have hget := hcells.get hj hj'
        rw [List.get_eq_getElem, List.get_eq_getElem, hcell, hzip] at hget
        exact hget

end Row

/-! ## The response -/

section Response

variable {build : Build} {defaults overrides : ParserMap} {rowMode : Option RowMode}
  {blob : Option Bytes}

/-- The rows that are kept of a statement. -/
def StatementRows.kept (statement : StatementRows) : List DataRowMessage :=
  if statement.fields = [] then [] else statement.rows

/-- The values of the rows that are kept. -/
def KeptRows (defaults overrides : ParserMap) (rowMode : Option RowMode) (rowValues : List Value)
    (statement : StatementRows) : Prop :=
  List.Forall₂ (fun rowValue row => RowOf defaults overrides rowMode statement.fields row rowValue)
    rowValues statement.kept

/-- What has been seen of a statement: nothing, or the fields of its `columns` and some rows. -/
def Seen (columns : Option ℕ) (fields : List FieldInfo) (rows : List DataRowMessage) : Prop :=
  match columns with
  | none => fields = [] ∧ rows = []
  | some n => fields.length = n

/-- **The loop keeps the rows of the statements that have fields.** -/
lemma parseResultsFrom_kept {messages : List BackendMessage} {columns : Option ℕ}
    {rows : List DataRowMessage} {r r' : ResultsProgress} (hwf : WellFormedFrom columns messages)
    (hseen : Seen columns r.currentFields rows)
    (hkept : KeptRows defaults overrides rowMode r.currentRows ⟨r.currentFields, rows⟩)
    (h : parseResultsFrom build defaults overrides rowMode blob r messages = .ok r') :
    ∃ new, r'.resultSets = r.resultSets ++ new ∧
      List.Forall₂ (fun result => KeptRows defaults overrides rowMode result.rows) new
        (statementRowsFrom r.currentFields rows messages) := by
  induction messages generalizing columns rows r with
  | nil =>
    rw [parseResultsFrom] at h
    rw [← Outcome.ok.inj h]
    exact ⟨[], (List.append_nil _).symm, .nil⟩
  | cons message messages ih =>
    cases message with
    | rowDescription desc =>
      rw [WellFormedFrom] at hwf
      rw [hwf.1] at hseen
      rw [parseResultsFrom] at h
      rw [statementRowsFrom]
      have hrows : rows = [] := hseen.2
      have hvalues : r.currentRows = [] := by
        rw [KeptRows, StatementRows.kept, hseen.1, if_pos rfl] at hkept
        exact List.forall₂_nil_right_iff.mp hkept
      refine @ih (some desc.fields.length) rows { r with currentFields := mapFields desc } hwf.2
        ?_ ?_ h
      · exact List.length_map _
      · show List.Forall₂ _ r.currentRows _
        rw [StatementRows.kept, hrows, hvalues, ite_self]
        exact .nil
    | dataRow row =>
      rw [WellFormedFrom] at hwf
      rw [hwf.1] at hseen
      have hlen : row.fields.length = r.currentFields.length := hseen.symm
      rw [parseResultsFrom] at h
      rw [statementRowsFrom]
      by_cases hfields : r.currentFields = []
      · rw [if_pos hfields] at h
        refine ih hwf.2 (hwf.1 ▸ hseen) ?_ h
        rw [KeptRows, StatementRows.kept, if_pos hfields] at hkept ⊢
        exact hkept
      · rw [if_neg hfields] at h
        obtain ⟨rowValue, hrow, h⟩ := Outcome.bind_eq_ok.mp h
        refine @ih (some row.fields.length) (rows ++ [row])
          { r with currentRows := r.currentRows ++ [rowValue] } (hwf.1 ▸ hwf.2) hseen ?_ h
        rw [KeptRows, StatementRows.kept, if_neg hfields] at hkept ⊢
        exact List.rel_append hkept (.cons (rowOf_mapRow hlen hrow) .nil)
    | commandComplete cmd =>
      rw [WellFormedFrom] at hwf
      rw [parseResultsFrom] at h
      rw [statementRowsFrom]
      obtain ⟨affectedRows, -, h⟩ := Outcome.bind_eq_ok.mp h
      -- nothing has been seen of the next statement
      have hempty : KeptRows defaults overrides rowMode [] ⟨[], []⟩ := by
        rw [KeptRows, StatementRows.kept, ite_self]
        exact .nil
      obtain ⟨new, hnew, hrest⟩ := @ih none [] _ hwf ⟨rfl, rfl⟩ hempty h
      refine ⟨⟨r.currentRows, r.currentFields, some affectedRows, blob⟩ :: new, ?_,
        .cons hkept hrest⟩
      rw [hnew, List.append_assoc]
      rfl
    | _ =>
      rw [WellFormedFrom] at hwf
      rw [parseResultsFrom] at h
      rw [statementRowsFrom]
      exact ih hwf hseen hkept h
      all_goals simp

/-- The result sets have the rows of the statements that have fields. -/
lemma parseResults_kept {messages : List BackendMessage} {defaultParsers : ParserMap}
    {options : Option QueryOptions} {results : List Results} (hwf : WellFormed messages)
    (h : parseResults build messages defaultParsers options blob = .ok results) :
    match statementRows messages with
    | [] => ∀ result ∈ results, result.rows = []
    | statements => List.Forall₂ (fun result => KeptRows defaultParsers
        ((options.map (·.parsers)).getD []) (options.bind (·.rowMode)) result.rows)
        results statements := by
  unfold parseResults at h
  obtain ⟨r, hloop, h⟩ := Outcome.bind_eq_ok.mp h
  have hempty : KeptRows defaultParsers ((options.map (·.parsers)).getD [])
      (options.bind (·.rowMode)) [] ⟨[], []⟩ := by
    rw [KeptRows, StatementRows.kept, ite_self]
    exact .nil
  obtain ⟨new, hnew, hkept⟩ := @parseResultsFrom_kept build _ _ _ blob messages none [] _ _ hwf
    ⟨rfl, rfl⟩ hempty hloop
  rw [List.nil_append] at hnew
  rw [hnew] at h
  change List.Forall₂ _ new (statementRows messages) at hkept
  generalize statementRows messages = statements at hkept ⊢
  cases hkept with
  | nil =>
    intro result hresult
    rw [← Outcome.ok.inj h] at hresult
    rw [List.mem_singleton.mp hresult]
  | cons hresult hrest =>
    rw [← Outcome.ok.inj h]
    exact .cons hresult hrest

/-- The rows that are kept are all rows, unless there are rows without fields. -/
lemma keptRows_iff {rowValues : List Value} {statement : StatementRows}
    (h : KeptRows defaults overrides rowMode rowValues statement) :
    List.Forall₂ (fun rowValue row =>
        RowOf defaults overrides rowMode statement.fields row rowValue) rowValues statement.rows ↔
      (statement.fields = [] → statement.rows = []) := by
  unfold KeptRows StatementRows.kept at h
  by_cases hfields : statement.fields = []
  · rw [if_pos hfields] at h
    have hnone : rowValues = [] := List.forall₂_nil_right_iff.mp h
    rw [hnone, List.forall₂_nil_left_iff]
    exact ⟨fun hrows _ => hrows, fun hrows => hrows hfields⟩
  · rw [if_neg hfields] at h
    exact iff_of_true h fun hnone => absurd hnone hfields

lemma forall_keptRows_iff {results : List Results} {statements : List StatementRows}
    (h : List.Forall₂ (fun result => KeptRows defaults overrides rowMode result.rows)
      results statements) :
    List.Forall₂ (fun result statement => List.Forall₂ (fun rowValue row =>
        RowOf defaults overrides rowMode statement.fields row rowValue)
        result.rows statement.rows) results statements ↔
      ∀ statement ∈ statements, statement.fields = [] → statement.rows = [] := by
  induction h with
  | nil => simp
  | cons hresult _ ih =>
    rw [List.forall₂_cons, List.forall_mem_cons]
    exact and_congr (keptRows_iff hresult) ih

/-- **Row completeness.** Each result set has one value for each row of its statement, with the
cells that the row has, exactly when no statement has rows without fields. -/
theorem parseResults_complete_iff (build : Build) (messages : List BackendMessage)
    (defaultParsers : ParserMap) (options : Option QueryOptions) (blob : Option Bytes)
    (results : List Results) (hwf : WellFormed messages)
    (h : parseResults build messages defaultParsers options blob = .ok results) :
    RowsComplete defaultParsers ((options.map (·.parsers)).getD []) (options.bind (·.rowMode))
        results (statementRows messages) ↔
      ∀ statement ∈ statementRows messages, statement.fields = [] → statement.rows = [] := by
  have hkept := parseResults_kept hwf h
  unfold RowsComplete
  cases hstatements : statementRows messages with
  | nil =>
    rw [hstatements] at hkept
    exact iff_of_true hkept (by simp)
  | cons statement statements =>
    rw [hstatements] at hkept
    exact forall_keptRows_iff hkept

/-- A response with two columns of one name. -/
def twoColumns : List BackendMessage :=
  let field : Field :=
    { name := "a", tableId := 0, columnId := 0, dataTypeId := oidText, dataTypeSize := -1,
      dataTypeModifier := -1, format := .text }
  [.rowDescription { length := 0, fields := [field, field] },
    .dataRow { length := 0, fields := [none, some "x"] },
    .commandComplete { length := 0, text := "SELECT 1" }]

/-- Its row comes back. -/
theorem parseResults_complete_twoColumns : ∃ results,
    parseResults ⟨true⟩ twoColumns [] none none = .ok results ∧
      RowsComplete [] [] none results (statementRows twoColumns) := by
  refine ⟨[⟨[.object [("a", .string "x")]], [⟨"a", oidText⟩, ⟨"a", oidText⟩], some 0, none⟩], rfl,
    ?_⟩
  refine (parseResults_complete_iff ⟨true⟩ twoColumns [] none none _ ⟨rfl, rfl, rfl⟩ rfl).mpr ?_
  intro statement hstatement hfields
  have hstatement := List.mem_singleton.mp hstatement
  rw [hstatement] at hfields
  cases hfields

/-- A response with a row without columns. -/
def noColumns : List BackendMessage :=
  [.rowDescription { length := 0, fields := [] },
    .dataRow { length := 0, fields := [] },
    .commandComplete { length := 0, text := "SELECT 1" }]

/-- The row of a statement without columns does not come back. -/
theorem row_without_columns_lost : WellFormed noColumns ∧ ∃ results,
    parseResults ⟨true⟩ noColumns [] none none = .ok results ∧
      ¬ RowsComplete [] [] none results (statementRows noColumns) := by
  refine ⟨⟨rfl, rfl, rfl⟩, [{ rows := [], fields := [], affectedRows := some 0, blob := none }],
    rfl, fun hcomplete => ?_⟩
  cases hcomplete with
  | cons hrows _ => cases hrows

end Response

end PgliteOxide.Pglite
