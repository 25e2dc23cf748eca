import SqlRelay.Session.EndSession
import SqlRelay.TempTables.Database
import SqlRelay.Transaction.Ending

/-!
# The globaltemptables trigger

Before a query is prepared, the trigger creates the configured tables that the query names, each one
once: it marks a table as created, and takes the marks away when it hears of a rollback or of the end
of a session.
-/

namespace SqlRelay.TempTables

open SqlRelay.Foundation SqlRelay.Foundation.CString SqlRelay.Query SqlRelay.Session
open SqlRelay.Transaction

/-- `table_t` -/
structure Table where
  name : List Byte
  createStatement : List Byte
  created : Bool
  deriving DecidableEq, Repr

/-- The regular expression that `setName` builds: the name as a whole word. -/
def Table.pattern (table : Table) : List Byte :=
  ascii "(^|[^a-zA-Z0-9_$#])" ++ table.name ++ ascii "([^a-zA-Z0-9_$#]|$)"

/-- An error of the database, as the create cursor reports it. -/
structure DatabaseError where
  number : Int
  text : List Byte
  sqlState : List Byte
  deriving DecidableEq, Repr

/-- The answer to a create statement.  The controller may also be out of cursors. -/
inductive Answer where
  | noCursor
  | created (atOnce : Bool)
  | refused (error : DatabaseError)
  deriving DecidableEq, Repr

/-- The `alreadyexists` tag: `error` is a number or a text, and a missing `sqlstate` is another
thing than an empty one.  `matchesPattern` is the regular expression library. -/
structure Config where
  nativeDbType : List Byte
  alreadyExistsNumber : Int
  alreadyExistsText : Option (List Byte)
  alreadyExistsSqlState : Option (List Byte)
  matchesPattern : List Byte → List Byte → Bool

/-- `compareIgnoringCase` finds no difference. -/
def sameText (text other : List Byte) : Bool :=
  (contents text).map toLowerCase == (contents other).map toLowerCase

/-- `charstring::contains` -/
def containsText (literal : List Byte) : List Byte → Bool
  | [] => literal.isEmpty
  | byte :: rest =>
      literal.isEmpty ||
        byte != 0 && (startsWith (byte :: rest) literal || containsText literal rest)

/-- `charstring::findFirstIgnoringCase`: where the literal begins. -/
def findFirstIgnoringCase (literal : List Byte) : List Byte → Option Nat
  | [] => none
  | byte :: rest =>
      if byte = 0 then none
      else if startsWithIgnoringCase (byte :: rest) literal then some 0
      else (findFirstIgnoringCase literal rest).map (· + 1)

/-- The sqlstate that says that a table exists already, if nothing else is configured. -/
def Config.expectedSqlState (config : Config) : List Byte :=
  match config.alreadyExistsSqlState with
  | some configured => configured
  | none =>
      if sameText config.nativeDbType (ascii "postgresql") then ascii "42P07"
      else if sameText config.nativeDbType (ascii "mysql") ||
          sameText config.nativeDbType (ascii "mariadb") then ascii "42S01"
      else []

def Config.isAlreadyExistsError (config : Config) (error : DatabaseError) : Bool :=
  if peek config.expectedSqlState != 0 && peek error.sqlState != 0 &&
      sameText error.sqlState config.expectedSqlState then true
  else
    match config.alreadyExistsText with
    | some text => containsText text error.text
    | none => error.number == config.alreadyExistsNumber

/-- On postgresql a failed create gives up the whole transaction, so that it is not let fail because
the table is there already. -/
def Config.buildCreateStatement (config : Config) (table : Table) : List Byte :=
  let statement := table.createStatement
  if sameText config.nativeDbType (ascii "postgresql") &&
      !containsIgnoringCase (ascii "if not exists") statement then
    match findFirstIgnoringCase (ascii "table") statement with
    | some start =>
        let rest := statement.drop (start + 5)
        if !isAlphanumeric (peek rest) && peek rest != chr '_' then
          statement.take (start + 5) ++ ascii " if not exists" ++ rest
        else statement
    | none => statement
  else statement

/-- How the database answers the create statements that are sent to it. -/
abbrev Creates (Name : Type) := List Byte → Database Name → Answer

/-- What is left of `createTable`: whether it is a success, and the error that it sets on the cursor
of the query. -/
structure Creation (Name : Type) where
  success : Bool
  db : Database Name
  error : Option DatabaseError

section

variable {Name : Type} (config : Config) (creates : Creates Name)

def createTable (table : Table) (db : Database Name) : Creation Name :=
  match creates (config.buildCreateStatement table) db with
  | .noCursor => ⟨false, db, none⟩
  | .created atOnce => ⟨true, db.create table.name atOnce, none⟩
  | .refused error =>
      if config.isAlreadyExistsError error then ⟨true, db, none⟩ else ⟨false, db, some error⟩

/-- The query names a table that is not marked. -/
def Config.wants (query : List Byte) (table : Table) : Bool :=
  config.matchesPattern table.pattern query && !table.created

/-- What is left of the loop over the tables, and what it returns. -/
structure Visit (Name : Type) where
  success : Bool
  tables : List Table
  db : Database Name
  error : Option DatabaseError

/-- The loop over the tables.  The first one that cannot be created ends it. -/
def visitTables (query : List Byte) : List Table → Database Name → Visit Name
  | [], db => ⟨true, [], db, none⟩
  | table :: rest, db =>
      if config.wants query table then
        let creation := createTable config creates table db
        let marked := { table with created := creation.success }
        if creation.success then
          let visit := visitTables query rest creation.db
          { visit with tables := marked :: visit.tables }
        else ⟨false, marked :: rest, creation.db, creation.error⟩
      else
        let visit := visitTables query rest db
        { visit with tables := table :: visit.tables }

end

/-- A query that is going to be prepared, and the answers to the creates before it. -/
structure Query (Name : Type) where
  text : List Byte
  suppressed : Bool
  creates : Creates Name

def runBeforePrepare {Name : Type} (config : Config) (query : Query Name) (tables : List Table)
    (db : Database Name) : Visit Name :=
  if query.suppressed then ⟨true, tables, db, none⟩
  else if tables.length = 0 then ⟨true, tables, db, none⟩
  else visitTables config query.creates (skipWhitespaceAndComments query.text) tables db

/-- `setCreated(false)` for every table. -/
def forget (tables : List Table) : List Table :=
  tables.map fun table => { table with created := false }

def endTransaction (committed : Bool) (tables : List Table) : List Table :=
  if committed then tables else forget tables

def endSession (tables : List Table) : List Table := forget tables

/-! ## The trigger in its connection -/

/-- The trigger, and the controller with the database that it is connected to. -/
structure System (Name : Type) where
  tables : List Table
  controller : Controller (Database Name)

/-- A client has a query prepared or executed or makes a call, or its session ends.  A query that is
prepared once can be executed often.  The answers of the database come with the event. -/
inductive Event (Name : Type) where
  | prepare (query : Query Name)
  | execute (text : List Byte) (ok : Bool) (effect : Effect Name) (replies : DriverCall → Reply)
  | call (op : Connection.Op) (replies : DriverCall → Reply)
  | endSession (config : SessionConfig) (cleanup : Cleanup (Database Name))
      (replies : DriverCall → Reply)

/-- What does not change while a connection process runs. -/
structure Server where
  capabilities : Capabilities
  flag : FlagUse
  config : Config

namespace Server

variable {Name : Type} (server : Server)

def connection (replies : DriverCall → Reply) : Connection (Database Name) :=
  connect server.capabilities server.flag replies

/-- The trigger is told of the end of a transaction that a rollback ends.  All other calls that end
one say that it is committed, and then the trigger does nothing. -/
def hearsRollback (op : Connection.Op) (replies : DriverCall → Reply)
    (controller : Controller (Database Name)) : Bool :=
  op == .rollback && (server.connection replies).finishEnds .rollback controller

def call (op : Connection.Op) (replies : DriverCall → Reply) (system : System Name) :
    System Name :=
  { tables := endTransaction (!server.hearsRollback op replies system.controller) system.tables
    controller := ((server.connection replies).apply op system.controller).2 }

/-- The queries that are calls to the controller are never prepared.  Whether the trigger succeeds
has no influence on what comes next. -/
def prepare (query : Query Name) (system : System Name) : System Name :=
  match interceptedCall (determineQueryType query.text) with
  | some _ => system
  | none =>
      let visit := runBeforePrepare server.config query system.tables system.controller.db
      { tables := visit.tables, controller := { system.controller with db := visit.db } }

variable [LinearOrder Name]

def execute (text : List Byte) (ok : Bool) (effect : Effect Name)
    (replies : DriverCall → Reply) (system : System Name) : System Name :=
  match interceptedCall (determineQueryType text) with
  | some op => server.call op replies system
  | none =>
      let statement : Statement (Database Name) := ⟨text, fun db => (ok, db.apply effect)⟩
      { system with
        controller := (executeQuery (server.connection replies) statement system.controller).2 }

def step (system : System Name) : Event Name → System Name
  | .prepare query => server.prepare query system
  | .execute text ok effect replies => server.execute text ok effect replies system
  | .call op replies => server.call op replies system
  | .endSession config cleanup replies =>
      { tables := TempTables.endSession system.tables
        controller := Session.endSession (server.connection replies) config cleanup
          system.controller }

end Server

end SqlRelay.TempTables
