import Mathlib.Data.List.Basic
import SqlRelay.Foundation.CString

/-!
# The router connection

A connection that passes the calls of a client on to one of several backends.  Router modules choose the
backend, for a whole session or for each query.  The model keeps which backend the connection and each of
its cursors are at, and says for every call which backends it ends up at.
-/

namespace SqlRelay.Router

open SqlRelay.Foundation

/-- What a router module says.  It may make the query empty. -/
structure Answer where
  connectionId : Option (List Byte)
  error : Bool
  empties : Bool

/-- A router module.  It may look at the world, the current connection id and the query of a cursor. -/
structure RouterModule (World : Type) where
  routeEntireSession : Bool
  route : World → Option (List Byte) → Option (List Byte) → Answer

/-- The modules and the ids of the backends. -/
structure Config (World : Type) where
  routers : List (RouterModule World)
  conids : List (List Byte)

/-- A cursor: the backend it is at, the backend that its backend cursor is a cursor of, if it has one, and
whether that is an output bind of another cursor. -/
structure RouterCursor where
  currentcon : Option Nat
  currentcur : Option Nat
  isbindcur : Bool
  emptyquery : Bool

structure Connection where
  currentcon : Option Nat
  currentConnectionId : Option (List Byte)
  cursors : Nat → RouterCursor

/-- An output bind that is a cursor: whether the backend has one for it, and its rows can be had. -/
structure CursorBind where
  cursor : Nat
  given : Bool
  fetched : Bool

/-- What a call does: the connection afterwards, the backends it ends up at, and the backend that a query
has run on. -/
structure Outcome where
  connection : Connection
  backends : List Nat
  ran : Option Nat

def RouterCursor.new : RouterCursor := ⟨none, none, false, false⟩

def Connection.new : Connection := ⟨none, none, fun _ => RouterCursor.new⟩

def Connection.setCursor (connection : Connection) (place : Nat) (cursor : RouterCursor) :
    Connection :=
  { connection with
    cursors := fun other => if other = place then cursor else connection.cursors other }

section Cursors

variable (connection : Connection) (place : Nat) (cursor : RouterCursor)

@[simp]
theorem Connection.setCursor_currentcon :
    (connection.setCursor place cursor).currentcon = connection.currentcon := rfl

@[simp]
theorem Connection.setCursor_currentConnectionId :
    (connection.setCursor place cursor).currentConnectionId = connection.currentConnectionId := rfl

@[simp]
theorem Connection.setCursor_cursors_self :
    (connection.setCursor place cursor).cursors place = cursor := by
  simp [setCursor]

variable {place} in
@[simp]
theorem Connection.setCursor_cursors_other {other : Nat} (ne : other ≠ place) :
    (connection.setCursor place cursor).cursors other = connection.cursors other := by
  simp [setCursor, ne]

end Cursors

/-- `sqlrrouters::route`: the first module that has a connection id for it.  The error of a module that
has none counts if no other module has one. -/
def route {World : Type} (world : World) (current query : Option (List Byte)) :
    List (RouterModule World) → Answer
  | [] => ⟨none, false, false⟩
  | router :: routers =>
      let answer := router.route world current query
      if answer.connectionId.isSome then answer
      else
        let rest := route world current query routers
        ⟨rest.connectionId, answer.error || rest.error, answer.empties || rest.empties⟩

namespace Config

variable {World : Type} (config : Config World)

/-- `sqlrrouters::routeEntireSession` -/
def routeEntireSession : Bool := config.routers.all RouterModule.routeEntireSession

/-- The backend that has this id. -/
def backend (connectionId : List Byte) : Option Nat :=
  config.conids.findIdx? fun other => other == connectionId

/-- All backends. -/
def backends : List Nat := List.range config.conids.length

section Calls

variable (world : World) (connection : Connection)

/-! ## Routing -/

structure Routing where
  connection : Connection
  routed : Bool
  err : Bool
  empties : Bool

/-- `routerconnection::route` -/
def routeConnection : Routing :=
  if config.routeEntireSession && connection.currentcon.isSome then
    ⟨connection, false, false, false⟩
  else
    let reset := { connection with currentcon := none }
    let answer := route world connection.currentConnectionId none config.routers
    match answer.connectionId with
    | none => ⟨reset, false, answer.error, false⟩
    | some connectionId =>
        match config.backend connectionId with
        | none => ⟨reset, false, false, false⟩
        | some index =>
            ⟨{ reset with currentcon := some index, currentConnectionId := some connectionId },
              true, false, false⟩

/-- What `routercursor::route` does unless the session has been routed. -/
def askForCursor (place : Nat) (query : List Byte) : Routing :=
  let reset := { connection with currentcon := none }.setCursor place
    { connection.cursors place with currentcon := none, currentcur := none }
  let answer := route world connection.currentConnectionId (some query) config.routers
  match answer.connectionId with
  | none => ⟨reset, false, answer.error, answer.empties⟩
  | some connectionId =>
      match config.backend connectionId with
      | none => ⟨reset, false, false, answer.empties⟩
      | some index =>
          ⟨{ connection with
             currentcon := some index, currentConnectionId := some connectionId }.setCursor place
               { connection.cursors place with
                 currentcon := some index, currentcur := some index },
            true, false, answer.empties⟩

/-- `routercursor::route` -/
def routeCursor (place : Nat) (query : List Byte) : Routing :=
  if config.routeEntireSession then
    match (connection.cursors place).currentcon, connection.currentcon with
    | some _, _ => ⟨connection, false, false, false⟩
    | none, some index =>
        ⟨connection.setCursor place
          { connection.cursors place with currentcon := some index, currentcur := some index },
          false, false, false⟩
    | none, none => config.askForCursor world connection place query
  else config.askForCursor world connection place query

/-! ## Calls of the connection -/

/-- A call goes to the backend of the session, or else to all backends. -/
def toOneOrAll : Outcome :=
  let routing := config.routeConnection world connection
  if routing.err then ⟨routing.connection, [], none⟩
  else if routing.routed && config.routeEntireSession then
    ⟨routing.connection, routing.connection.currentcon.toList, none⟩
  else ⟨routing.connection, config.backends, none⟩

/-- That the connection has just logged in has been forgotten when it is asked for. -/
def setAutoCommitOn : Outcome := config.toOneOrAll world connection
def setAutoCommitOff : Outcome := config.toOneOrAll world connection
def begin : Outcome := config.toOneOrAll world connection
def commit : Outcome := config.toOneOrAll world connection
def rollback : Outcome := config.toOneOrAll world connection
def ping : Outcome := config.toOneOrAll world connection

/-- A call goes to the backend of the session, or else to any that can be used. -/
def toUsable : Outcome :=
  let routing := config.routeConnection world connection
  if routing.err then ⟨routing.connection, [], none⟩
  else if config.routeEntireSession || routing.connection.currentcon.isSome then
    ⟨routing.connection, routing.connection.currentcon.toList, none⟩
  else
    let usable := { routing.connection with currentcon := config.backends.head? }
    ⟨usable, usable.currentcon.toList, none⟩

def getDbVersion : Outcome := config.toUsable world connection
def getDbHostName : Outcome := config.toUsable world connection
def getDbIpAddress : Outcome := config.toUsable world connection

/-- It asks the connection that has been used last. -/
def getLastInsertId : Outcome := ⟨connection, connection.currentcon.toList, none⟩

def endSession : Outcome :=
  let outcome := config.toOneOrAll world connection
  if (config.routeConnection world connection).err then outcome
  else
    { outcome with
      connection :=
        { currentcon := none
          currentConnectionId := none
          cursors := fun place =>
            { outcome.connection.cursors place with currentcon := none, currentcur := none } } }

/-! ## Calls of a cursor -/

/-- A cursor that was an output bind loses the backend cursor it was given. -/
def resetBindCursor (place : Nat) : Connection :=
  let cursor := connection.cursors place
  if cursor.isbindcur then
    connection.setCursor place { cursor with currentcur := none, isbindcur := false }
  else connection

/-- The cursor after `prepareQuery`, and the backend that the query has been prepared at. -/
def prepareQuery (place : Nat) (query : List Byte) : Outcome :=
  let reset := resetBindCursor connection place
  let started := reset.setCursor place { reset.cursors place with emptyquery := false }
  let routing := config.routeCursor world started place query
  let cursor := routing.connection.cursors place
  if routing.err || cursor.currentcur.isNone then ⟨routing.connection, [], none⟩
  else
    ⟨routing.connection.setCursor place
      { cursor with emptyquery := routing.empties || query.isEmpty }, cursor.currentcur.toList, none⟩

/-- The cursors that are output binds of this one, up to the first that the backend does not have.  They
are at its backend.  No cursor is an output bind of itself. -/
def bindCursors (binder : RouterCursor) : List CursorBind → Connection → Connection
  | [], connection => connection
  | bind :: binds, connection =>
      let cursor := { connection.cursors bind.cursor with currentcon := binder.currentcon }
      if bind.given then
        let bound := connection.setCursor bind.cursor
          { cursor with currentcur := binder.currentcur, isbindcur := true }
        if bind.fetched then bindCursors binder binds bound else bound
      else connection.setCursor bind.cursor { cursor with currentcur := none }

/-- The query is prepared first if its cursor is at no backend. -/
def prepareIfNeeded (place : Nat) (query : List Byte) : Connection :=
  if (connection.cursors place).currentcur.isNone then
    (config.prepareQuery world connection place query).connection
  else connection

/-- The query of a cursor runs unless it is empty.  The answer of the backend decides whether the output
binds are looked at. -/
def executePrepared (place : Nat) (succeeds : Bool) (binds : List CursorBind) : Outcome :=
  let cursor := connection.cursors place
  if cursor.currentcur.isNone then ⟨connection, [], none⟩
  else
    let ran := if cursor.emptyquery then none else cursor.currentcur
    if cursor.emptyquery || succeeds then
      ⟨bindCursors cursor binds connection, cursor.currentcur.toList, ran⟩
    else ⟨connection, cursor.currentcur.toList, ran⟩

def executeQuery (place : Nat) (query : List Byte) (succeeds : Bool) (binds : List CursorBind) :
    Outcome :=
  executePrepared (config.prepareIfNeeded world connection place query) place succeeds binds

end Calls

end Config

end SqlRelay.Router
