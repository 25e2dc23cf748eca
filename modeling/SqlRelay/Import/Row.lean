import Mathlib.Data.List.Basic
import SqlRelay.Foundation.CString

/-!
# Importing a row

`sqlrimport`, as far as it puts together the insert statement of a row.  One pass over the header of the
file collects the names of the columns, and one over each row their values.  Both put in the primary key
and the static values on the way.  The columns of the file are not ignored, and the events do nothing.
-/

namespace SqlRelay.Import

open SqlRelay.Foundation SqlRelay.Foundation.CString

/-- Where a column comes from. -/
inductive Origin where
  | primaryKey
  | static (index : Nat)
  | file (column : Nat)
  deriving DecidableEq, Repr

def Origin.isFile : Origin → Bool
  | .file _ => true
  | .primaryKey | .static _ => false

/-- `insertPrimaryKey` -/
structure PrimaryKey where
  name : List Byte
  index : Nat
  sequence : Option (List Byte)

/-- `insertStaticValue` -/
structure StaticValue where
  name : List Byte
  value : Option (List Byte)

inductive NameCase where
  | mixed | lower | upper
  deriving DecidableEq, Repr

inductive ColumnType where
  | numeric | dateTime | other
  deriving DecidableEq, Repr

/-- How values are written: `unescapeValue` of the importer, what is a number, and the format of dates
and times if they are to be reformatted. -/
structure Format where
  unescapeValue : List Byte → List Byte
  isNumber : List Byte → Bool
  reformatDateTime : Option (List Byte → List Byte)
  escapesBackslashes : Bool

/-- The configuration of an import, and what it asks the database for: the type of a column and the
expression for the next value of a sequence. -/
structure Config where
  primaryKey : Option PrimaryKey
  staticValues : List (Nat × StaticValue)
  distinct : (staticValues.map (·.1)).Nodup
  columnMap : List Byte → Option (List Byte)
  fieldMap : List Byte → Option (List Byte)
  ignoreColumnsWithEmptyNames : Bool
  nameCase : NameCase
  format : Format
  columnType : List Byte → ColumnType
  nextval : List Byte → List Byte

/-- A field of a row.  There is no text for null. -/
structure Field where
  text : Option (List Byte)
  quoted : Bool
  deriving DecidableEq, Repr

/-- A value in the statement.  A placeholder has the number of its bind. -/
inductive Value where
  | null
  | literal (text : List Byte) (quoted : Bool)
  | placeholder (number : Nat)
  deriving DecidableEq, Repr

structure Statement where
  names : List (Origin × List Byte)
  values : List (Origin × Value)
  binds : List (Nat × List Byte)
  deriving DecidableEq, Repr

/-- What a pass has put together, and the current column. -/
structure Pass (α : Type) where
  current : Nat
  items : List (Origin × α)

def Pass.append {α : Type} (origin : Origin) (item : α) (pass : Pass α) : Pass α :=
  ⟨pass.current + 1, pass.items ++ [(origin, item)]⟩

def Pass.start {α : Type} : Pass α := ⟨0, []⟩

namespace Format

/-- A value that is not bound has its quotes doubled, and its backslashes for some databases. -/
def escape (format : Format) (byte : Byte) : List Byte :=
  if byte = chr '\\' ∧ format.escapesBackslashes = true then [byte, byte]
  else if byte = chr '\'' then [byte, byte]
  else [byte]

/-- `massageValue` -/
def massageValue (format : Format) (value : List Byte) (type : ColumnType) :
    Option (List Byte) :=
  let value := format.unescapeValue value
  if value = [] then none
  else if type = .numeric ∧ format.isNumber value = false then none
  else
    match type, format.reformatDateTime with
    | .dateTime, some reformat => some (reformat value)
    | _, _ => some (if 0 ∈ value then value else value.flatMap format.escape)

end Format

def toUpperCase (byte : Byte) : Byte :=
  if chr 'a' ≤ byte && byte ≤ chr 'z' then byte - 32 else byte

def NameCase.apply : NameCase → List Byte → List Byte
  | .mixed, name => name
  | .lower, name => name.map toLowerCase
  | .upper, name => name.map toUpperCase

namespace Config

variable (config : Config) {α : Type}

/-- The static value at this index, if there is one. -/
def staticAt (index : Nat) : Option StaticValue := config.staticValues.lookup index

def keyAt (index : Nat) : Option PrimaryKey :=
  config.primaryKey.filter fun key => key.index == index

/-- The name that a name is mapped to, if it is. -/
def mappedName (name : List Byte) : List Byte := (config.columnMap name).getD name

/-- A name in the statement, unless its column is ignored. -/
def written (name : List Byte) : Option (List Byte) :=
  if config.ignoreColumnsWithEmptyNames = true ∧ name = [] then none
  else some (config.nameCase.apply name)

section Extras

variable (ofKey : PrimaryKey → α) (ofStatic : StaticValue → α)

/-- The loop over the static values that go one after the other, each of which is there once. -/
def insertStatics : Nat → Pass α → Pass α
  | 0, pass => pass
  | fuel + 1, pass =>
      match config.staticAt pass.current with
      | none => pass
      | some value => insertStatics fuel (pass.append (.static pass.current) (ofStatic value))

/-- What goes before the next column of the file. -/
def insertExtras (pass : Pass α) : Pass α :=
  config.insertStatics ofStatic config.staticValues.length
    (match config.keyAt pass.current with
    | none => pass
    | some key => pass.append .primaryKey (ofKey key))

end Extras

/-! ## The names -/

def processPrimaryKeyAndStaticColumns (pass : Pass (List Byte)) : Pass (List Byte) :=
  config.insertExtras PrimaryKey.name StaticValue.name pass

def processColumnName (pass : Pass (List Byte)) (column : List Byte × Nat) : Pass (List Byte) :=
  (config.processPrimaryKeyAndStaticColumns pass).append (.file column.2)
    (config.mappedName column.1)

/-- The names in `columnnames` when the header has been read. -/
def columnNames (header : List (List Byte)) : List (Origin × List Byte) :=
  (header.zipIdx.foldl config.processColumnName Pass.start).items

/-- `determineColumnTypes`: a column without a name has no type. -/
def determineColumnTypes (names : List (Origin × List Byte)) : List ColumnType :=
  names.map fun name => if name.2 = [] then .other else config.columnType name.2

/-! ## The fields -/

/-- The primary key is an expression. -/
def keyField (key : PrimaryKey) : Field :=
  ⟨some ((key.sequence.map config.nextval).getD (ascii "null")), false⟩

def staticField (value : StaticValue) : Field :=
  ⟨value.value.bind fun text => config.format.massageValue text .other, true⟩

/-- A field of the file.  Only a field without an embedded NUL is mapped. -/
def fileField (type : ColumnType) (field : List Byte) : Field :=
  let field := if 0 ∈ field then field else (config.fieldMap field).getD field
  ⟨config.format.massageValue field type, type != .numeric⟩

/-- Whether a field is quoted is kept at the current column, which is how many fields there are. -/
def processField (types : List ColumnType) (pass : Pass Field) (field : List Byte × Nat) :
    Pass Field :=
  let before := config.insertExtras config.keyField config.staticField pass
  before.append (.file field.2) (config.fileField (types.getD before.current .other) field.1)

def fields (types : List ColumnType) (row : List (List Byte)) : List (Origin × Field) :=
  (row.zipIdx.foldl (config.processField types) Pass.start).items

/-! ## The statement -/

/-- The loop over the names. -/
def insertNames (names : List (Origin × List Byte)) : List (Origin × List Byte) :=
  names.filterMap fun name =>
    (config.written (config.mappedName name.2)).map fun written => (name.1, written)

/-- The loop over the fields, with the names from the next one on and what has been bound so far. -/
def insertValues : List (Origin × Field) → List (Origin × List Byte) → List (Nat × List Byte) →
    List (Origin × Value) × List (Nat × List Byte)
  | [], _, binds => ([], binds)
  | (origin, field) :: fields, names, binds =>
      let name := (names.head?.map (·.2)).getD []
      if config.written (config.mappedName name) = none then
        insertValues fields names.tail binds
      else
        match field.text with
        | none =>
            let more := insertValues fields names.tail binds
            ((origin, .null) :: more.1, more.2)
        | some text =>
            if 0 ∈ text then
              let number := binds.length + 1
              let more := insertValues fields names.tail (binds ++ [(number, text)])
              ((origin, .placeholder number) :: more.1, more.2)
            else
              let more := insertValues fields names.tail binds
              ((origin, .literal text field.quoted) :: more.1, more.2)

def insertRow (names : List (Origin × List Byte)) (fields : List (Origin × Field)) : Statement :=
  let values := config.insertValues fields names []
  ⟨config.insertNames names, values.1, values.2⟩

/-- The statement for a row of a file with this header. -/
def importRow (header row : List (List Byte)) : Statement :=
  let names := config.columnNames header
  config.insertRow names (config.fields (config.determineColumnTypes names) row)

end Config

end SqlRelay.Import
