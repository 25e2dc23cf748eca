import SqlRelay.Foundation.QuotedLiteral
import Mathlib.Data.List.DropRight

/-!
# What a list command is asked for

A client sends the name of an object, or the names of an object and of one of its components.  The
server cleans them up, escapes them, splits them into catalog, schema and object, and fills in the
current catalog and schema where the client named none.
-/

namespace SqlRelay.Lists

open SqlRelay.Foundation SqlRelay.Foundation.CString SqlRelay.Foundation.QuotedLiteral

inductive ListFormat where
  | null | mysql | postgresql | odbc | jdbc
  deriving DecidableEq, Repr

/-- The list commands.  The first group asks for objects and the second for components of one.  The
two commands for a table list only differ in whether the client chooses the types of object. -/
inductive QueryType where
  | databaseList | catalogList | schemaList | tableList | tableTypeList | procedureList
  | lastInsertIdList
  | columnList | primaryKeysList | keyAndIndexList | procedureParameterList | typeInfoList
  deriving DecidableEq, Repr

def QueryType.ofComponents : QueryType → Bool
  | .columnList => true
  | .primaryKeysList => true
  | .keyAndIndexList => true
  | .procedureParameterList => true
  | .typeInfoList => true
  | _ => false

inductive ObjectType where
  | database | catalog | schema | object
  deriving DecidableEq, Repr

/-- The names that a list query is built from, over whatever stands for a name.  What the server
leaves `NULL` is `none`. -/
@[ext] structure Names (Name : Type) where
  catalog : Option Name
  schema : Option Name
  object : Option Name
  column : Option Name

namespace Names

variable {Name Other : Type}

def empty : Names Name := ⟨none, none, none, none⟩

def map (change : Name → Other) (names : Names Name) : Names Other :=
  ⟨names.catalog.map change, names.schema.map change, names.object.map change,
    names.column.map change⟩

end Names

/-- `charstring::bothTrim`, of spaces. -/
def bothTrim (text : List Byte) : List Byte :=
  (text.dropWhile fun byte => byte = chr ' ').rdropWhile fun byte => byte = chr ' '

/-- `escapeParameter`: single quotes are doubled. -/
def escapeParameter : List Byte → List Byte
  | [] => []
  | byte :: rest =>
      if byte = quote then quote :: byte :: escapeParameter rest
      else byte :: escapeParameter rest

/-- The parts of a text that is not empty, with runs of the delimiter taken for one. -/
def splitFrom (delimiter : Byte) : List Byte → List (List Byte)
  | [] => [[]]
  | byte :: rest =>
      if byte = delimiter then
        if rest.head? = some delimiter then splitFrom delimiter rest
        else [] :: splitFrom delimiter rest
      else
        match splitFrom delimiter rest with
        | [] => [[byte]]
        | part :: parts => (byte :: part) :: parts

/-- `charstring::split`, with its `collapse` argument set. -/
def split (delimiter : Byte) (text : List Byte) : List (List Byte) :=
  if text = [] then [] else splitFrom delimiter text

/-- A renamed object of the server's name map. -/
structure Renamed where
  database : Option (List Byte)
  schema : Option (List Byte)
  object : List Byte
  newObject : List Byte

/-- What of the server's state a list command reads. -/
structure Server where
  currentCatalog : Option (List Byte)
  currentSchema : Option (List Byte)
  databaseIsSchema : Bool
  tableNameMap : List Renamed
  quoteEscapesOverride : Option (List Byte)
  quoteEscapes : Option (List Byte)
  maxQuerySize : Nat

namespace Server

/-- True if the backend's quote-escapes feature includes a backslash, unless overridden by the
`quoteescapes` instance attribute. -/
def backslashEscapesQuotes (server : Server) : Bool :=
  match server.quoteEscapesOverride with
  | some escapes => escapes.contains backslash
  | none =>
      match server.quoteEscapes with
      | some escapes => escapes.contains backslash
      | none => false

/-- `getReplacementTableName`, with neither a database nor a schema. -/
def getReplacementTableName (server : Server) (table : List Byte) : Option (List Byte) :=
  (server.tableNameMap.find? fun renamed =>
    renamed.database = none ∧ renamed.schema = none ∧ renamed.object = table).map Renamed.newObject

end Server

/-- A list command, with its parameters as the client sent them. -/
structure Request where
  queryType : QueryType
  listFormat : ListFormat
  object : List Byte
  component : List Byte

namespace Request

/-- The object as `getObjectListCommand` or `getComponentListCommand` hands it on. -/
def objectParameter (server : Server) (request : Request) : List Byte :=
  let object := bothTrim (contents request.object)
  if request.queryType.ofComponents then
    match server.getReplacementTableName object with
    | some newObject => newObject
    | none => object
  else object

def componentParameter (request : Request) : List Byte := bothTrim (contents request.component)

end Request

section Assignment

variable {Name Other : Type}

/-- The rest of `splitObjectName`, once the name has been split. -/
def splitObjectName (objectType : ObjectType) (currentCatalog currentSchema : Option Name)
    (isCurrentCatalog : Name → Bool) (parts : List Name) : Names Name :=
  match objectType with
  | .catalog => { Names.empty with catalog := parts.head? }
  | .schema =>
      match parts with
      | [] => .empty
      | [only] => { Names.empty with schema := some only }
      | first :: second :: _ => { Names.empty with
          catalog := some first
          schema := some second }
  | _ =>
      match parts with
      | [] => .empty
      | [only] => ⟨currentCatalog, currentSchema, some only, none⟩
      | [first, second] =>
          if isCurrentCatalog first = true then ⟨some first, currentSchema, some second, none⟩
          else ⟨currentCatalog, some first, some second, none⟩
      | first :: second :: third :: _ => ⟨some first, some second, some third, none⟩

/-- The type that `getObjectList` or `getComponentList` splits the object as. -/
def QueryType.objectType : QueryType → ObjectType
  | .databaseList => .database
  | .catalogList => .catalog
  | .schemaList => .schema
  | _ => .object

/-- Lists in MySQL format are only fetched for the current catalog and schema. -/
def restrict (queryType : QueryType) (listFormat : ListFormat)
    (currentCatalog currentSchema : Option Name) (names : Names Name) : Names Name :=
  if listFormat = .mysql then
    match queryType with
    | .catalogList => names
    | .schemaList => { names with catalog := currentCatalog }
    | _ => { names with
        catalog := currentCatalog
        schema := currentSchema }
  else names

/-- The names that the controller hands on to the connection for the command. -/
def handedOn (queryType : QueryType) (databaseIsSchema : Bool) (currentCatalog : Option Name)
    (component : Name) (names : Names Name) : Names Name :=
  match queryType with
  | .databaseList =>
      if databaseIsSchema = true then { Names.empty with
        catalog := currentCatalog
        schema := names.object }
      else { Names.empty with catalog := names.object }
  | .catalogList => { Names.empty with catalog := names.catalog }
  | .schemaList => { Names.empty with
      catalog := names.catalog
      schema := names.schema }
  | .lastInsertIdList => .empty
  | .columnList => { names with column := some component }
  | _ => { names with column := none }

/-- What `getObjectList` and `getComponentList` make of the parts of an object name. -/
def getNames (queryType : QueryType) (listFormat : ListFormat) (databaseIsSchema : Bool)
    (currentCatalog currentSchema : Option Name) (isCurrentCatalog : Name → Bool)
    (parts : List Name) (component : Name) : Names Name :=
  handedOn queryType databaseIsSchema currentCatalog component
    (restrict queryType listFormat currentCatalog currentSchema
      (splitObjectName queryType.objectType currentCatalog currentSchema isCurrentCatalog parts))

/-- Which names are put where does not depend on what stands for a name. -/
theorem getNames_map {queryType : QueryType} {listFormat : ListFormat} {databaseIsSchema : Bool}
    {currentCatalog currentSchema : Option Name} {isCurrentCatalog : Name → Bool}
    {parts : List Name} {component : Name} {change : Name → Other} (isCurrent : Other → Bool)
    (same : ∀ name, isCurrent (change name) = isCurrentCatalog name) :
    (getNames queryType listFormat databaseIsSchema currentCatalog currentSchema isCurrentCatalog
        parts component).map change =
      getNames queryType listFormat databaseIsSchema (currentCatalog.map change)
        (currentSchema.map change) isCurrent (parts.map change) (change component) := by
  have splits : ∀ objectType, (splitObjectName objectType currentCatalog currentSchema
      isCurrentCatalog parts).map change =
        splitObjectName objectType (currentCatalog.map change) (currentSchema.map change)
          isCurrent (parts.map change) := by
    intro objectType
    match parts with
    | [] => cases objectType <;> rfl
    | [only] => cases objectType <;> rfl
    | [first, second] =>
        cases objectType with
        | catalog => rfl
        | schema => rfl
        | database =>
            simp only [splitObjectName, List.map, same]
            split <;> rfl
        | object =>
            simp only [splitObjectName, List.map, same]
            split <;> rfl
    | first :: second :: third :: rest => cases objectType <;> rfl
  have restricts : ∀ names : Names Name,
      (restrict queryType listFormat currentCatalog currentSchema names).map change =
        restrict queryType listFormat (currentCatalog.map change) (currentSchema.map change)
          (names.map change) := by
    intro names
    simp only [restrict]
    split
    · cases queryType <;> rfl
    · rfl
  have hands : ∀ names : Names Name,
      (handedOn queryType databaseIsSchema currentCatalog component names).map change =
        handedOn queryType databaseIsSchema (currentCatalog.map change) (change component)
          (names.map change) := by
    intro names
    cases queryType with
    | databaseList =>
        simp only [handedOn]
        split <;> rfl
    | catalogList => rfl
    | schemaList => rfl
    | tableList => rfl
    | tableTypeList => rfl
    | procedureList => rfl
    | lastInsertIdList => rfl
    | columnList => rfl
    | primaryKeysList => rfl
    | keyAndIndexList => rfl
    | procedureParameterList => rfl
    | typeInfoList => rfl
  rw [getNames, hands, restricts, splits, getNames]

end Assignment

/-- The names as the server computes them: the object is escaped before it is split. -/
def Request.names (server : Server) (request : Request) : Names (List Byte) :=
  getNames request.queryType request.listFormat server.databaseIsSchema server.currentCatalog
    server.currentSchema (fun part => some part = server.currentCatalog)
    (split (chr '.') (escapeParameter (request.objectParameter server)))
    (escapeParameter request.componentParameter)

/-! ### Where a name comes from -/

/-- A name in a list query: a part of what the client sent, or a name that the server filled in. -/
inductive Inserted where
  | sent (value : List Byte)
  | current (value : List Byte)
  deriving DecidableEq, Repr

namespace Inserted

def value : Inserted → List Byte
  | .sent value => value
  | .current value => value

/-- The bytes that it is put into a query as.  A name that the server fills in is not escaped. -/
def written : Inserted → List Byte
  | .sent value => escapeParameter value
  | .current value => value

end Inserted

/-- The names of a request, with what each stands for: the parts are those of what the client asked
for. -/
def Request.asked (server : Server) (request : Request) : Names Inserted :=
  getNames request.queryType request.listFormat server.databaseIsSchema
    (server.currentCatalog.map .current) (server.currentSchema.map .current)
    (fun part => some part.written = server.currentCatalog)
    ((split (chr '.') (request.objectParameter server)).map .sent)
    (.sent request.componentParameter)

theorem escapeParameter_head? {delimiter : Byte} (notQuote : delimiter ≠ quote)
    (text : List Byte) :
    (escapeParameter text).head? = some delimiter ↔ text.head? = some delimiter := by
  cases text with
  | nil => rfl
  | cons byte text =>
      rw [escapeParameter]
      split
      · rename_i isQuote
        simp [isQuote, Ne.symm notQuote]
      · rfl

/-- Escaping a name and splitting it is the same as splitting it and escaping its parts. -/
theorem splitFrom_escapeParameter {delimiter : Byte} (notQuote : delimiter ≠ quote)
    (text : List Byte) :
    splitFrom delimiter (escapeParameter text) =
      (splitFrom delimiter text).map escapeParameter := by
  induction text with
  | nil => rfl
  | cons byte text ih =>
      have joined : ∀ first : Byte, ∀ parts : List (List Byte), first ≠ quote →
          (match parts.map escapeParameter with
            | [] => [[first]]
            | part :: others => (first :: part) :: others) =
          (match parts with
            | [] => [[first]]
            | part :: others => (first :: part) :: others).map escapeParameter := by
        intro first parts ordinary
        cases parts with
        | nil => simp [escapeParameter, ordinary]
        | cons part others => simp [escapeParameter, ordinary]
      by_cases isQuote : byte = quote
      · have ordinary : ¬quote = delimiter := Ne.symm notQuote
        rw [isQuote, escapeParameter, if_pos rfl]
        simp only [splitFrom, if_neg ordinary, ih]
        cases splitFrom delimiter text with
        | nil => simp [escapeParameter]
        | cons part others => simp [escapeParameter]
      · rw [escapeParameter, if_neg isQuote, splitFrom, splitFrom]
        simp only [escapeParameter_head? notQuote, ih]
        split
        · split
          · rfl
          · simp [escapeParameter]
        · exact joined byte _ isQuote

theorem split_escapeParameter {delimiter : Byte} (notQuote : delimiter ≠ quote)
    (text : List Byte) :
    split delimiter (escapeParameter text) = (split delimiter text).map escapeParameter := by
  have empties : escapeParameter text = [] ↔ text = [] := by
    cases text with
    | nil => simp [escapeParameter]
    | cons byte text =>
        rw [escapeParameter]
        split <;> simp
  simp only [split, empties]
  split
  · rfl
  · exact splitFrom_escapeParameter notQuote text

/-- The server puts into the query what it was asked for, with the client's parts escaped. -/
theorem Request.names_eq_asked (server : Server) (request : Request) :
    request.names server = (request.asked server).map Inserted.written := by
  have undo : ∀ current : Option (List Byte),
      (current.map Inserted.current).map Inserted.written = current := by
    intro current
    cases current <;> rfl
  have parts : ((split (chr '.') (request.objectParameter server)).map
      Inserted.sent).map Inserted.written =
        split (chr '.') (escapeParameter (request.objectParameter server)) := by
    rw [split_escapeParameter (by decide), List.map_map]
    rfl
  rw [names, asked, getNames_map (fun part => some part = server.currentCatalog)
    fun name => rfl, undo, undo, parts]
  rfl

end SqlRelay.Lists
