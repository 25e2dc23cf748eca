import Mathlib.Logic.Function.Basic
import SqlRelay.Cursors.Pool
import SqlRelay.Mysql.Parameters

/-!
# Prepared statements

The id of a statement is the id of the cursor that it was prepared with.  The module takes a cursor
for every COM_STMT_PREPARE and COM_QUERY, releases it after a COM_QUERY only, and finds the cursor of
the other requests by the id that the client sends.
-/

namespace SqlRelay.Mysql

open SqlRelay.Foundation SqlRelay.Cursors

/-- The ids of cursors are 16 bits wide. -/
structure Config where
  maxquerysize : Nat
  maxbindcount : Nat
  pool : PoolConfig
  bounded : pool.maxcursorcount < 65536

/-- The cursors, the query in the buffer of each, and what the module keeps by the id of a cursor: how
many parameters its statement has, and the types that were sent for them. -/
structure Server where
  pool : Pool
  querybuffers : Nat → List Byte
  pcounts : Nat → Nat
  ptypes : Nat → Nat → Nat

/-- A request, and what the database, and the creation of cursors, make of it. -/
inductive Request where
  | stmtPrepare (query : List Byte) (prepared : Bool) (pcount : Nat) (opens : Nat → Bool)
  | stmtExecute (packet : Buffer) (executed : Bool)
  | stmtFetch (stmtid : Nat)
  | stmtClose (stmtid : Nat)
  | stmtReset (stmtid : Nat)
  | query (query : List Byte) (executed : Bool) (opens : Nat → Bool)

inductive Reply where
  | cursorNotOpen
  | malformedPacket
  | error
  /-- The statement has been prepared: its id, and how many parameters it has. -/
  | prepareOk (stmtid pcount : Nat)
  | ok
  | result
  /-- A COM_STMT_CLOSE is not answered. -/
  | silence
  deriving DecidableEq, Repr

/-- The query that is executed, its binds, and whether all bytes that were read for it lay in the
packet. -/
structure Execution where
  query : List Byte
  inputbinds : List BindVar
  inside : Bool
  deriving DecidableEq

structure Response where
  server : Server
  reply : Reply
  executed : Option Execution

namespace Server

/-- `getCursor` takes a `uint16_t`, and does not ask whether the cursor is in use. -/
def cursorOf (server : Server) (stmtid : Nat) : Option Nat :=
  if stmtid % 65536 < server.pool.length then some (stmtid % 65536) else none

/-- `comStmtPrepare`, for the cursor that was taken. -/
def comStmtPrepare (config : Config) (server : Server) (cursor : Nat) (query : List Byte)
    (prepared : Bool) (pcount : Nat) : Response :=
  if query.length > config.maxquerysize then ⟨server, .error, none⟩
  else
    let server := { server with
      querybuffers := Function.update server.querybuffers cursor query }
    if !prepared then ⟨server, .error, none⟩
    else if pcount > config.maxbindcount then ⟨server, .error, none⟩
    else
      ⟨{ server with pcounts := Function.update server.pcounts cursor pcount },
        .prepareOk cursor pcount, none⟩

/-- The id in a COM_STMT_EXECUTE, after the byte of the command. -/
def stmtidOf (packet : Buffer) : Nat :=
  littleEndian (Reader.read packet ⟨1, true⟩ 4).1

/-- The types of the parameters, in place of the ones of the last execution. -/
def storeTypes (ptypes : Nat → Nat → Nat) (cursor pcount : Nat) (bytes : List Byte) :
    Nat → Nat → Nat :=
  Function.update ptypes cursor fun i =>
    if i < pcount then littleEndian ((bytes.drop (2 * i)).take 2) else ptypes cursor i

/-- The parameters of a COM_STMT_EXECUTE, read from behind the iteration count on. -/
def readParameters (config : Config) (ptypes : Nat → Nat → Nat) (packet : Buffer) (cursor pcount : Nat)
    (reader : Reader) : (Nat → Nat → Nat) × Option (List BindVar × Reader) :=
  let nullbitmap := reader.rp
  let (flag, reader) := Reader.read packet (reader.advance ((pcount + 7) / 8)) 1
  let (ptypes, reader) :=
    if littleEndian flag = 1 then
      let (bytes, reader) := Reader.read packet reader (2 * pcount)
      (storeTypes ptypes cursor pcount bytes, reader)
    else (ptypes, reader)
  (ptypes, bindParameters packet (ptypes cursor) nullbitmap (min pcount config.maxbindcount) 0 reader)

def comStmtExecute (config : Config) (server : Server) (packet : Buffer) (executed : Bool) :
    Response :=
  let (id, reader) := Reader.read packet ⟨1, true⟩ 4
  match server.cursorOf (littleEndian id) with
  | none => ⟨server, .cursorNotOpen, none⟩
  | some cursor =>
      let (_, reader) := Reader.read packet reader 1
      let (_, reader) := Reader.read packet reader 4
      let pcount := server.pcounts cursor
      let run := fun (server : Server) inputbinds (reader : Reader) =>
        Response.mk server (if executed then .result else .error)
          (some ⟨server.querybuffers cursor, inputbinds, reader.inside⟩)
      if pcount = 0 then run server [] reader
      else
        match readParameters config server.ptypes packet cursor pcount reader with
        | (ptypes, none) => ⟨{ server with ptypes := ptypes }, .malformedPacket, none⟩
        | (ptypes, some (inputbinds, reader)) =>
            run { server with ptypes := ptypes } inputbinds reader

def comStmtFetch (server : Server) (stmtid : Nat) : Response :=
  match server.cursorOf stmtid with
  | none => ⟨server, .cursorNotOpen, none⟩
  | some _ => ⟨server, .result, none⟩

def comStmtClose (server : Server) (stmtid : Nat) : Response :=
  match server.cursorOf stmtid with
  | none => ⟨server, .cursorNotOpen, none⟩
  | some cursor =>
      ⟨{ server with
          pcounts := Function.update server.pcounts cursor 0
          pool := server.pool.release cursor }, .silence, none⟩

def comStmtReset (server : Server) (stmtid : Nat) : Response :=
  match server.cursorOf stmtid with
  | none => ⟨server, .cursorNotOpen, none⟩
  | some cursor =>
      ⟨{ server with pcounts := Function.update server.pcounts cursor 0 }, .ok, none⟩

/-- A query is executed without binds, unless it is too large. -/
def comQuery (config : Config) (server : Server) (cursor : Nat) (query : List Byte)
    (executed : Bool) : Response :=
  if query.length > config.maxquerysize then ⟨server, .error, none⟩
  else
    ⟨{ server with querybuffers := Function.update server.querybuffers cursor query },
      if executed then .result else .error, some ⟨query, [], true⟩⟩

/-- The loop of `clientSession`.  A request whose answer can't be sent ends the session, and the
run. -/
def serve (config : Config) (server : Server) : Request → Response
  | .stmtExecute packet executed => server.comStmtExecute config packet executed
  | .stmtFetch stmtid => server.comStmtFetch stmtid
  | .stmtClose stmtid => server.comStmtClose stmtid
  | .stmtReset stmtid => server.comStmtReset stmtid
  | .stmtPrepare query prepared pcount opens =>
      match Pool.getCursor config.pool opens server.pool with
      | (none, pool) => ⟨{ server with pool := pool }, .cursorNotOpen, none⟩
      | (some cursor, pool) =>
          comStmtPrepare config { server with pool := pool } cursor query prepared pcount
  | .query query executed opens =>
      match Pool.getCursor config.pool opens server.pool with
      | (none, pool) => ⟨{ server with pool := pool }, .cursorNotOpen, none⟩
      | (some cursor, pool) =>
          let response := comQuery config { server with pool := pool } cursor query executed
          { response with
            server := { response.server with pool := response.server.pool.release cursor } }

end Server

end SqlRelay.Mysql
