import SqlRelay.Foundation.Decimal

/-!
# Positioned updates and deletes

`sp_cursor` of the TDS module.  A backend cannot update the row that a cursor is on, so the module makes a
statement of its own out of the primary key of the table and the row that it has kept.
-/

namespace SqlRelay.Tds

open SqlRelay.Foundation SqlRelay.Foundation.CString

/-! ## Values -/

/-- The types of columns that are numbers, by the names of the server. -/
inductive Datatype where
  | number | int | smallint | tinyint | bit | real | float | ushort | double | uint | lastreal | tiny
  | short | longlong | mediumint | year | bigint | integer | d_float | decimal | int64 | money
  | smallmoney | double_precision | int8 | int2 | int4 | tid | xid | cid | float4 | float8 | tinterval
  | _money | _int2 | _int4 | _tid | _xid | _cid | _int8 | _float4 | _float8 | _tinterval | interval
  | _interval | numeric | _numeric
  | other
  deriving DecidableEq, Repr

namespace Datatype

def isFloatTypeInt : Datatype → Bool
  | .numeric | .real | .float | .double | .d_float | .decimal | .money | .smallmoney
  | .double_precision | .float4 | .float8 | ._numeric => true
  | _ => false

def isNumberTypeInt : Datatype → Bool
  | ._numeric | .other => false
  | _ => true

end Datatype

structure DateValue where
  year : Int16
  month : Int16
  day : Int16
  hour : Int16
  minute : Int16
  second : Int16
  microsecond : Int32
  tz : List Byte
  isnegative : Bool
  deriving DecidableEq, Repr

/-- The value of a bind variable. -/
inductive BindValue (Double : Type) where
  | null
  | string (value : List Byte)
  | integer (value : Int64)
  | double (value : Double) (precision scale : Nat)
  | date (value : DateValue)
  | blob (value : List Byte)
  deriving DecidableEq, Repr

/-- Numbers, as the runtime library reads and prints them. -/
structure Numbers where
  Double : Type
  isInteger : List Byte → Bool
  convertToInteger : List Byte → Int64
  convertToFloat : List Byte → Double
  parseNumber : Double → List Byte
  /-- A double as an integer. -/
  truncate : Double → Int64

/-- Sizes of values are unsigned and of 32 bits. -/
def sizeWord : Nat := 4294967296

def maxIntegerDigits : Nat := 20

section Binds

variable (numbers : Numbers)

def bulkString (value : List Byte) : BindValue numbers.Double :=
  .string (value.take (value.length % sizeWord))

/-- The precision and the scale are those of the number as text. -/
def bulkDouble (value : numbers.Double) : BindValue numbers.Double :=
  let num := numbers.parseNumber value
  let precision := num.length - (if chr '-' ∈ num then 1 else 0) - (if chr '.' ∈ num then 1 else 0)
  let scale := (num.length + (sizeWord - 1) - num.idxOf (chr '.')) % sizeWord
  .double value precision scale

/-- An integer is bound as an integer if it prints as it is, and a value of a type with a fraction as a
double.  Everything else is a string. -/
def positionedBind (coltype : Datatype) (value : List Byte) : BindValue numbers.Double :=
  let integerval := numbers.convertToInteger (contents value)
  if coltype.isNumberTypeInt = true ∧ coltype.isFloatTypeInt = false ∧ value ≠ [] ∧
      value.length ≤ maxIntegerDigits ∧ numbers.isInteger value = true ∧
      printInteger integerval.toInt = value then
    .integer integerval
  else if coltype.isFloatTypeInt = true ∧ value ≠ [] then
    bulkDouble numbers (numbers.convertToFloat (contents value))
  else bulkString numbers value

end Binds

/-! ## The cursor and the session -/

structure Column where
  name : List Byte
  type : Datatype

/-- A row as it has been kept, with nulls. -/
abbrev TdsRow := List (Option (List Byte))

/-- A cursor and the rows of its last fetch, each with a value for each of its columns. -/
structure Cursor where
  columns : List Column
  position : Option (List TdsRow)
  sized : ∀ rows, position = some rows → ∀ row ∈ rows, row.length = columns.length

/-- A parameter of a call.  Its name is a C string. -/
structure Param (Double : Type) where
  name : List Byte
  value : BindValue Double

/-- A column of the primary key, and whether its name can be read. -/
structure KeyColumn where
  name : List Byte
  reads : Bool

/-- What comes of listing the primary key of a table: whether there is a list, and how many of its rows
are fetched before the fetch fails or finds the end. -/
structure KeyList where
  listed : Bool
  columns : List KeyColumn
  fetched : Nat

/-- What a call finds.  `affectedRows` is what comes of running a statement. -/
structure Session where
  numbers : Numbers
  maxbindcount : Nat
  maxquerysize : Nat
  cursorhandles : Nat → Option Cursor
  dmlcursor : Bool
  pkcursor : Bool
  primaryKeys : List Byte → KeyList
  affectedRows : Option Nat

inductive Verb where
  | update | delete | insert
  deriving DecidableEq, Repr

/-- A statement that has been put together, and its input binds by name.  A column that is set has its
variable, and so has one that is not compared to null. -/
structure Statement (Double : Type) where
  verb : Verb
  table : List Byte
  settings : List (List Byte × List Byte)
  conditions : List (List Byte × Option (List Byte))
  binds : List (List Byte × BindValue Double)

inductive Answer where
  | error (number : Nat) (text : List Byte)
  /-- The error of the statement. -/
  | failed
  | done (affectedRows : Nat)
  deriving DecidableEq, Repr

def Answer.isError : Answer → Bool
  | .error _ _ | .failed => true
  | .done _ => false

/-- The statement that has been executed, if any, and the answer. -/
structure Outcome (Double : Type) where
  executed : Option (Statement Double)
  answer : Answer

/-- An error before anything is executed. -/
def Outcome.error {Double : Type} (number : Nat) (text : List Byte) : Outcome Double :=
  ⟨none, .error number text⟩

/-- `bindvarnames` -/
def bindvarname (index : Nat) : List Byte := chr '@' :: digits (index + 1)

/-- `compareIgnoringCase` -/
def sameName (name other : List Byte) : Bool :=
  (contents name).map toLowerCase == (contents other).map toLowerCase

/-- Rows are numbered from 1, and the number is taken for an unsigned one. -/
def getRow (rows : List TdsRow) (rownum : Int) : Option TdsRow :=
  let number := (rownum % 18446744073709551616).toNat
  if number = 0 ∨ rows.length < number then none else rows[number - 1]?

section Params

variable (numbers : Numbers) (params : List (Param numbers.Double))

def paramInteger (param : Nat) : Int :=
  match params[param]? with
  | some ⟨_, .integer value⟩ => value.toInt
  | some ⟨_, .double value _ _⟩ => (numbers.truncate value).toInt
  | some ⟨_, .string value⟩ => (numbers.convertToInteger (contents value)).toInt
  | _ => 0

def paramString (param : Nat) : Option (List Byte) :=
  match params[param]? with
  | some ⟨_, .string value⟩ => some value
  | _ => none

end Params

/-! ## The statement -/

namespace Statement

variable {Double : Type}

def start (verb : Verb) (table : List Byte) : Statement Double := ⟨verb, contents table, [], [], []⟩

variable (statement : Statement Double)

/-- `column=@n`: the column is set to the value of the next bind variable. -/
def set (colname : List Byte) (value : BindValue Double) : Statement Double :=
  let name := bindvarname statement.binds.length
  { statement with
    settings := statement.settings ++ [(contents colname, name)]
    binds := statement.binds ++ [(name, value)] }

/-- `keycol is null` -/
def whereNull (keycol : List Byte) : Statement Double :=
  { statement with conditions := statement.conditions ++ [(keycol, none)] }

/-- `keycol=@n` -/
def whereEquals (keycol : List Byte) (value : BindValue Double) : Statement Double :=
  let name := bindvarname statement.binds.length
  { statement with
    conditions := statement.conditions ++ [(keycol, some name)]
    binds := statement.binds ++ [(name, value)] }

/-- The conditions as text, the first behind `where` and the others behind `and`. -/
def whereText : List (List Byte × Option (List Byte)) → Bool → List Byte
  | [], _ => []
  | condition :: conditions, first =>
      ascii (if first then " where " else " and ") ++ condition.1 ++
        (match condition.2 with
          | none => ascii " is null"
          | some name => chr '=' :: name) ++
        whereText conditions false

def text : List Byte :=
  match statement.verb with
  | .update =>
      ascii "update " ++ statement.table ++ ascii " set " ++
        [chr ','].intercalate (statement.settings.map fun setting =>
          setting.1 ++ chr '=' :: setting.2) ++
        whereText statement.conditions true
  | .delete => ascii "delete from " ++ statement.table ++ whereText statement.conditions true
  | .insert =>
      ascii "insert into " ++ statement.table ++ ascii " (" ++
        [chr ','].intercalate (statement.settings.map (·.1)) ++ ascii ") values (" ++
        [chr ','].intercalate (statement.settings.map (·.2)) ++ ascii ")"

end Statement

/-- The column of the cursor that a parameter is named for. -/
def positionedColumn {Double : Type} (columns : List Column) (param : Param Double) :
    Option (List Byte) :=
  match contents param.name with
  | [] => none
  | first :: name =>
      if first ≠ chr '@' then none
      else (columns.find? fun column => sameName column.name name).map (·.name)

/-- The columns to set, up to the last bind variable, or the parameter that is not named for a column. -/
def setColumns {Double : Type} (columns : List Column) (maxbindcount : Nat) :
    List (Param Double) → Statement Double → Except (Param Double) (Statement Double)
  | [], query => .ok query
  | param :: params, query =>
      if maxbindcount ≤ query.binds.length then .ok query
      else
        match positionedColumn columns param with
        | none => .error param
        | some colname => setColumns columns maxbindcount params (query.set colname param.value)

/-- The names of the key columns, separated by nulls, and how many there are as 16 bits. -/
structure KeyCols where
  buffer : List Byte
  count : Nat

def KeyCols.append (keycols : KeyCols) (name : List Byte) : KeyCols :=
  ⟨(if keycols.count = 0 then keycols.buffer else keycols.buffer ++ [0]) ++ name,
    (keycols.count + 1) % 65536⟩

/-- A name that cannot be read is passed over, and the list ends where a fetch fails. -/
def KeyList.read (keys : KeyList) : KeyCols :=
  if keys.listed then
    (keys.columns.take keys.fetched).foldl
      (fun keycols column =>
        if column.reads = true ∧ column.name ≠ [] then keycols.append column.name else keycols)
      ⟨[], 0⟩
  else ⟨[], 0⟩

section Where

variable (numbers : Numbers) (maxbindcount : Nat) (cells : List (Column × Option (List Byte)))

/-- The conditions for the key columns whose names are in the buffer. -/
def whereColumns : Nat → List Byte → Statement numbers.Double → Option (Statement numbers.Double)
  | 0, _, query => some query
  | count + 1, buffer, query =>
      let keycol := contents buffer
      let rest := buffer.drop (keycol.length + 1)
      match cells.find? fun cell => sameName cell.1.name keycol with
      | none => none
      | some cell =>
          match cell.2 with
          | none => whereColumns count rest (query.whereNull keycol)
          | some value =>
              if maxbindcount ≤ query.binds.length then none
              else
                whereColumns count rest
                  (query.whereEquals keycol (positionedBind numbers cell.1.type value))

end Where

namespace Session

variable (session : Session)

/-- The positioned row of a cursor, value by value. -/
def positionedWhere (columns : List Column) (table : List Byte) (row : TdsRow)
    (query : Statement session.numbers.Double) : Option (Statement session.numbers.Double) :=
  if session.pkcursor then
    let keycols := (session.primaryKeys table).read
    if keycols.count = 0 then none
    else
      whereColumns session.numbers session.maxbindcount (columns.zip row) keycols.count
        keycols.buffer query
  else none

def positionedExecute (query : Statement session.numbers.Double) :
    Outcome session.numbers.Double :=
  if session.maxquerysize < query.text.length then
    Outcome.error 0 (ascii "Query too large (" ++ digits query.text.length ++ ascii ">" ++
      digits session.maxquerysize ++ ascii ")")
  else
    match session.affectedRows with
    | none => ⟨some query, .failed⟩
    | some 0 => ⟨some query, .error 16947 (ascii "No rows were updated or deleted")⟩
    | some rows => ⟨some query, .done rows⟩

section Operations

variable (columns : List Column) (table : List Byte) (row : TdsRow)
  (params : List (Param session.numbers.Double))

def noCursorAvailable : Outcome session.numbers.Double :=
  Outcome.error 0 (ascii "No cursor available")

def invalidColumn (param : Param session.numbers.Double) : Outcome session.numbers.Double :=
  Outcome.error 207 (ascii "Invalid column name '" ++ contents param.name ++ ascii "'")

def positionedUpdate : Outcome session.numbers.Double :=
  if session.dmlcursor then
    match setColumns columns session.maxbindcount (params.drop 4) (Statement.start .update table) with
    | .error param => session.invalidColumn param
    | .ok query =>
        if query.binds.length = 0 then
          Outcome.error 214 (ascii "sp_cursor update requires a column to set")
        else
          match session.positionedWhere columns table row query with
          | none => Outcome.error 16929 (ascii
              "The cursor is read only - a positioned update needs a primary key that the cursor selected")
          | some query => session.positionedExecute query
  else session.noCursorAvailable

def positionedDelete : Outcome session.numbers.Double :=
  if session.dmlcursor then
    match session.positionedWhere columns table row (Statement.start .delete table) with
    | none => Outcome.error 16929 (ascii
        "The cursor is read only - a positioned delete needs a primary key that the cursor selected")
    | some query => session.positionedExecute query
  else session.noCursorAvailable

def positionedInsert : Outcome session.numbers.Double :=
  if session.dmlcursor then
    match setColumns columns session.maxbindcount (params.drop 4) (Statement.start .insert table) with
    | .error param => session.invalidColumn param
    | .ok query =>
        if query.binds.length = 0 then
          Outcome.error 214 (ascii "sp_cursor insert requires a column value")
        else session.positionedExecute query
  else session.noCursorAvailable

end Operations

/-- As many parameters as there are bind variables are kept of a call. -/
def rpcparams (params : List (Param session.numbers.Double)) : List (Param session.numbers.Double) :=
  params.take session.maxbindcount

/-- `sp_cursor` -/
def cursorPositioned (params : List (Param session.numbers.Double)) :
    Outcome session.numbers.Double :=
  let params := session.rpcparams params
  let handle := (paramInteger session.numbers params 0 % 4294967296).toNat
  match session.cursorhandles handle with
  | none => Outcome.error 16950 (ascii "Invalid cursor handle " ++ digits handle)
  | some cursor =>
      let optype := (paramInteger session.numbers params 1 % 65536).toNat
      let rownum := (paramInteger session.numbers params 2).bmod 4294967296
      let table := contents ((paramString session.numbers params 3).getD [])
      if table = [] then Outcome.error 214 (ascii "sp_cursor requires a table name")
      else if optype = 4 then session.positionedInsert cursor.columns table params
      else
        match cursor.position.bind (getRow · rownum) with
        | none => Outcome.error 16955 (ascii "The cursor is not on a row that can be updated")
        | some row =>
            if optype = 1 then session.positionedUpdate cursor.columns table row params
            else if optype = 2 then session.positionedDelete cursor.columns table row
            else
              Outcome.error 16957 (ascii "Only positioned update, delete and insert are supported")

end Session

end SqlRelay.Tds
