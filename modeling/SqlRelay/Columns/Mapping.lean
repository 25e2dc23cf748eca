import Mathlib.Logic.Function.Basic

/-!
# Column maps

The controller has one column map.  The list commands set it, every prepare resets it, and the
column count, the names and the fields of all cursors are read through it.  The fields are found
through another pointer of the controller, which each fetch moves to the buffers of its cursor.
Header and field translations, which a module may add on top, are left out.
-/

namespace SqlRelay.Columns

/-- `_columnmap` and `_columnnamemap`, which are always set together. -/
structure Mapping where
  columnMap : List (Nat × Nat)
  columnNameMap : List (Nat × String)
  deriving DecidableEq, Repr

/-- `mapColumn`; a dictionary answers 0 for a key that it does not have. -/
def mapColumn (map : Option Mapping) (col : Nat) : Nat :=
  match map with
  | none => col
  | some mapping => (mapping.columnMap.lookup col).getD 0

/-- `mapColumnCount` -/
def mapColumnCount (map : Option Mapping) (colcount : Nat) : Nat :=
  match map with
  | none => colcount
  | some mapping => mapping.columnMap.length

@[simp] theorem mapColumn_none (col : Nat) : mapColumn none col = col := rfl

@[simp] theorem mapColumnCount_none (colcount : Nat) :
    mapColumnCount none colcount = colcount := rfl

/-- What a buffer holds after its first entries have been written. -/
def overwrite {α : Type} (written buffer : List α) : List α :=
  written ++ buffer.drop written.length

theorem getElem?_overwrite {α : Type} {written : List α} (buffer : List α) {position : Nat}
    (inside : position < written.length) :
    (overwrite written buffer)[position]? = written[position]? := by
  rw [overwrite, List.getElem?_append_left inside]

/-- `_mysqlcatalogscolumnmap` and `_mysqlcatalogscolumnnamemap` -/
def mysqlCatalogs : Mapping where
  columnMap := [(0, 0)]
  columnNameMap := [(0, "Database")]

/-- `_mysqltablescolumnmap` and `_mysqltablescolumnnamemap` -/
def mysqlTables : Mapping where
  columnMap := [(0, 2)]
  columnNameMap := [(0, "Tables_in_xxx")]

/-- What a prepare comes to.  Some modules describe the columns already. -/
inductive Prepared where
  | failed
  | ready
  | described (columns : List String)
  deriving DecidableEq, Repr

/-- What an execution comes to: it may fail before the query is run, or when it is run. -/
inductive Executed where
  | notRun
  | failed
  | ran (columns : List String)
  deriving DecidableEq, Repr

/-- How the rows of a list are got: by a query of the module, or by a call of the database's API.
`rejected`: the translation fails, or the module has no query for it. -/
inductive Listed where
  | rejected
  | byQuery (prepared : Prepared) (executed : Executed)
  | byApiCall (columns : Option (List String))
  deriving DecidableEq, Repr

/-- What one cursor keeps. -/
structure ServerCursor (Field : Type) where
  columnInfoIsValid : Bool := false
  resultSetHeaderHasBeenHandled : Bool := false
  queryHasBeenExecuted : Bool := false
  /-- The names of the columns that the module has described; `colCount` is their number. -/
  columns : List String := []
  /-- `_columnnames`; an entry that was never set is `none`. -/
  columnNames : List (Option String) := []
  /-- `_fields` -/
  fields : List Field := []

namespace ServerCursor

variable {Field : Type}

/-- `handleResultSetHeader` -/
def handleResultSetHeader (map : Option Mapping) (cursor : ServerCursor Field) :
    ServerCursor Field :=
  if cursor.resultSetHeaderHasBeenHandled then
    { cursor with columnInfoIsValid := true }
  else
    let colcount := mapColumnCount map cursor.columns.length
    let names := (List.range colcount).map fun col => cursor.columns[mapColumn map col]?
    { cursor with
      columnInfoIsValid := true
      resultSetHeaderHasBeenHandled := true
      columnNames := overwrite names cursor.columnNames }

/-- `prepareQuery`, which resets the column map before the module prepares the query. -/
def prepareQuery (prepared : Prepared) (cursor : ServerCursor Field) : ServerCursor Field :=
  let reset := { cursor with
    columnInfoIsValid := false
    queryHasBeenExecuted := false
    resultSetHeaderHasBeenHandled := false }
  match prepared with
  | .failed | .ready => reset
  | .described columns => handleResultSetHeader none { reset with columns := columns }

/-- `executeQuery` cleans up the result set before, if the query has been executed already. -/
def cleanUp (cursor : ServerCursor Field) : ServerCursor Field :=
  if cursor.queryHasBeenExecuted then
    { cursor with
      columnInfoIsValid := false
      resultSetHeaderHasBeenHandled := false }
  else
    cursor

/-- `executeQuery`.  A module that has described the columns after the prepare does not describe
them again. -/
def executeQuery (map : Option Mapping) (executed : Executed) (cursor : ServerCursor Field) :
    ServerCursor Field :=
  let cleaned := cursor.cleanUp
  match executed with
  | .notRun => cleaned
  | .failed => { cleaned with queryHasBeenExecuted := true }
  | .ran columns =>
      handleResultSetHeader map
        { cleaned with
          queryHasBeenExecuted := true
          columns := if cleaned.columnInfoIsValid then cleaned.columns else columns }

/-- `fakePrepareAndExecuteForApiCall` -/
def fakePrepareAndExecuteForApiCall (cursor : ServerCursor Field) : ServerCursor Field :=
  { cursor with resultSetHeaderHasBeenHandled := false }

/-- `getCatalogList`, `getTableList` and the others; `map` is the column map when it is called. -/
def getList (map : Option Mapping) (listed : Listed) (cursor : ServerCursor Field) :
    ServerCursor Field :=
  let faked := cursor.fakePrepareAndExecuteForApiCall
  match listed with
  | .rejected => faked
  | .byQuery prepared executed =>
      let ready := faked.prepareQuery prepared
      if prepared = .failed then ready else ready.executeQuery none executed
  | .byApiCall none => faked
  | .byApiCall (some columns) => handleResultSetHeader map { faked with columns := columns }

/-- `getLastInsertIdList` puts a fresh cursor in the place of this one. -/
def getLastInsertIdList (map : Option Mapping) (columns : Option (List String)) :
    ServerCursor Field :=
  match columns with
  | none => {}
  | some columns => handleResultSetHeader map { columns := columns }

/-- `nextResultSet` changes nothing unless there is one. -/
def nextResultSet (map : Option Mapping) (columns : Option (List String))
    (cursor : ServerCursor Field) : ServerCursor Field :=
  match columns with
  | none => cursor
  | some columns =>
      handleResultSetHeader map
        { cursor with
          columnInfoIsValid := false
          resultSetHeaderHasBeenHandled := false
          columns := columns }

/-- `fetchFromBindCursor` -/
def fetchFromBindCursor (map : Option Mapping) (columns : Option (List String))
    (cursor : ServerCursor Field) : ServerCursor Field :=
  let reset := { cursor with
    columnInfoIsValid := false
    resultSetHeaderHasBeenHandled := false }
  match columns with
  | none => reset
  | some columns => handleResultSetHeader map { reset with columns := columns }

/-- `fetchRow` fetches all columns, whatever the column map. -/
def fetchRow (row : Option (List Field)) (cursor : ServerCursor Field) : ServerCursor Field :=
  match row with
  | none => cursor
  | some row =>
      let colcount := if cursor.columnInfoIsValid then cursor.columns.length else 0
      { cursor with fields := overwrite (row.take colcount) cursor.fields }

end ServerCursor

/-- What the protocol modules ask of the controller for one cursor, with what the module of the
database makes of it. -/
inductive Call (Field : Type) where
  | prepareQuery (prepared : Prepared)
  | executeQuery (executed : Executed)
  /-- `getObjectList` and `getComponentList`: the list, then the format of the list. -/
  | list (listed : Listed) (format : Option Mapping)
  | lastInsertIdList (columns : Option (List String))
  | nextResultSet (columns : Option (List String))
  | fetchFromBindCursor (columns : Option (List String))
  | fetchRow (row : Option (List Field))
  | colCount
  | getColumnName (col : Nat)
  | getField (col : Nat)
  deriving DecidableEq, Repr

/-- What a call returns of the result set. -/
inductive Answer (Field : Type) where
  | done
  | count (count : Nat)
  | name (name : Option String)
  | field (field : Option Field)
  deriving DecidableEq, Repr

/-- The controller in one session. -/
structure Controller (Field : Type) where
  columnMap : Option Mapping
  /-- The cursor whose buffers `_fields` points to. -/
  fetched : Option Nat
  cursors : Nat → ServerCursor Field

namespace Controller

variable {Field : Type}

/-- A call on the cursor with this id. -/
def call (controller : Controller Field) (id : Nat) (call : Call Field) : Controller Field :=
  let cursor := controller.cursors id
  let map := controller.columnMap
  let store (next : ServerCursor Field) := Function.update controller.cursors id next
  match call with
  | .prepareQuery prepared =>
      { controller with
        columnMap := none
        cursors := store (cursor.prepareQuery prepared) }
  | .executeQuery executed =>
      { controller with cursors := store (cursor.executeQuery map executed) }
  | .list listed format =>
      { controller with
        columnMap := format
        cursors := store (cursor.getList map listed) }
  | .lastInsertIdList columns =>
      { controller with cursors := store (.getLastInsertIdList map columns) }
  | .nextResultSet columns =>
      { controller with cursors := store (cursor.nextResultSet map columns) }
  | .fetchFromBindCursor columns =>
      { controller with cursors := store (cursor.fetchFromBindCursor map columns) }
  | .fetchRow row =>
      { controller with
        fetched := some id
        cursors := store (cursor.fetchRow row) }
  | .colCount | .getColumnName _ | .getField _ => controller

/-- `colCount` -/
def colCount (controller : Controller Field) (id : Nat) : Nat :=
  let cursor := controller.cursors id
  if cursor.columnInfoIsValid then
    mapColumnCount controller.columnMap cursor.columns.length
  else
    0

/-- `getColumnName` -/
def getColumnName (controller : Controller Field) (id col : Nat) : Option String :=
  let cursor := controller.cursors id
  if cursor.columnInfoIsValid then
    match controller.columnMap with
    | some mapping => mapping.columnNameMap.lookup col
    | none => (cursor.columnNames[mapColumn controller.columnMap col]?).join
  else
    none

/-- `getField` reads the buffers of the last fetch, whichever the cursor. -/
def getField (controller : Controller Field) (col : Nat) : Option Field :=
  controller.fetched.bind fun fetched =>
    (controller.cursors fetched).fields[mapColumn controller.columnMap col]?

/-- What a call on the cursor with this id returns. -/
def answer (controller : Controller Field) (id : Nat) : Call Field → Answer Field
  | .colCount => .count (controller.colCount id)
  | .getColumnName col => .name (controller.getColumnName id col)
  | .getField col => .field (controller.getField col)
  | _ => .done

end Controller

end SqlRelay.Columns
