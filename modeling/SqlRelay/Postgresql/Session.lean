import Mathlib.Logic.Function.Basic
import SqlRelay.Cursors.Pool
import SqlRelay.Query.Classify

/-!
# The extended query protocol

The postgresql module maps the names of prepared statements, and of portals, to cursors of the
server.  A Parse gets a cursor for a name that has none, a Bind lets a portal share the cursor of a
statement, and a Close of either one releases the cursor.  A message that fails is answered with an
ErrorResponse, and the next message is served like any other.
-/

namespace SqlRelay.Postgresql

open SqlRelay.Foundation SqlRelay.Cursors

/-- The name of a statement or of a portal. -/
abbrev Name := List Byte

structure Limits where
  maxquerysize : Nat
  maxbindcount : Nat
  pool : PoolConfig

/-- A parameter value of a Bind, as the handler reads it: a value of a fixed size that is sent with
more bytes leaves them to be read as the next one. -/
inductive ParamValue where
  /-- Its size does not fit in what is left of the packet. -/
  | missing
  | null
  /-- It does not fit in what is left of the packet. -/
  | tooLong
  | value (bytes : List Byte)
  deriving DecidableEq, Repr

inductive BindVar where
  | null
  | nullBlob
  | nullClob
  | text (bytes : List Byte)
  | binary (oid : Nat) (bytes : List Byte)
  deriving DecidableEq, Repr

structure BindRequest where
  portal : Name
  stmtname : Name
  paramformatcodes : List Nat
  paramvalues : List ParamValue
  /-- The result format codes are all in the packet. -/
  resultformats : Bool

/-- How far a handler gets with the parameters. -/
inductive Params where
  | bound (binds : List BindVar)
  /-- An ErrorResponse has been sent. -/
  | refused
  /-- An ErrorResponse has been sent, and the handler returns false. -/
  | unsupported
  deriving DecidableEq, Repr

/-- A null of one of the large types is bound as such. -/
def nullParameter (oid : Option Nat) : BindVar :=
  match oid with
  | some 17 => .nullBlob
  | some 1001 => .nullBlob
  | some 25 => .nullClob
  | some 1009 => .nullClob
  | _ => .null

/-- The types that `bindBinaryParameter` takes, and the least size of a value. -/
def binaryParameterSize (oid : Nat) : Option Nat :=
  match oid with
  | 16 | 1000 => some 1
  | 21 | 1005 => some 2
  | 23 | 1007 | 700 | 1021 => some 4
  | 20 | 1016 | 701 | 1022 | 1700 | 1231 => some 8
  | 18 | 1002 | 1014 | 1015 | 1042 | 1043 | 25 | 1009 | 17 | 1001 => some 0
  | _ => none

/-- The format code of parameter `i`: one code is for all of them. -/
def formatCode (paramformatcodes : List Nat) (i : Nat) : Nat :=
  paramformatcodes.getD (if paramformatcodes.length = 1 then 0 else i) 0

/-- The loop over the parameter values, from parameter `i` on.  The types of the Parse are looked at
only if there are format codes.  `wellFormed` stands for what a numeric has to be like. -/
def bindParameters (wellFormed : List Byte → Bool) (paramformatcodes paramtypes : List Nat) :
    Nat → List ParamValue → Params
  | _, [] => .bound []
  | i, paramvalue :: rest =>
      let oid := if paramformatcodes = [] then none else paramtypes[i]?
      let others := bindParameters wellFormed paramformatcodes paramtypes (i + 1) rest
      let bind := fun bindvar =>
        match others with
        | .bound binds => .bound (bindvar :: binds)
        | failed => failed
      match paramvalue with
      | .missing => .refused
      | .tooLong => .refused
      | .null => bind (nullParameter oid)
      | .value bytes =>
          if formatCode paramformatcodes i = 0 then bind (.text bytes)
          else
            match oid with
            | none => .refused
            | some oid =>
                match binaryParameterSize oid with
                | none => .unsupported
                | some size =>
                    if bytes.length < size then .unsupported
                    else if (oid = 1700 ∨ oid = 1231) ∧ !wellFormed bytes then .unsupported
                    else bind (.binary oid bytes)

/-- What the handler makes of the parameters of a Bind, given the types of the Parse. -/
def BindRequest.params (wellFormed : List Byte → Bool) (limits : Limits) (request : BindRequest)
    (paramtypes : List Nat) : Params :=
  if request.paramformatcodes.length > limits.maxbindcount then .refused
  else if request.paramvalues.length > limits.maxbindcount then .refused
  else if request.paramformatcodes.length > 1 ∧
      request.paramformatcodes.length ≠ request.paramvalues.length then .refused
  else bindParameters wellFormed request.paramformatcodes paramtypes 0 request.paramvalues

/-- What the module and the controller know about a cursor. -/
structure ServerCursor where
  querybuffer : List Byte
  inputbinds : List BindVar
  paramtypes : List Nat
  executeflag : Bool

structure Session where
  pool : Pool
  stmtcursormap : Name → Option Nat
  portalcursormap : Name → Option Nat
  cursors : Nat → ServerCursor
  /-- The loop of `clientSession` goes on. -/
  loop : Bool

/-- A message of the client, and what the database, and the creation of cursors, make of it. -/
inductive Message where
  /-- A name or a query that is not there is not terminated. -/
  | parse (stmtname query : Option (List Byte)) (paramtypes : List Nat) (prepared : Bool)
      (opens : Nat → Bool)
  | bind (request : BindRequest)
  | describe (statement : Bool) (name : Name)
  | execute (portal : Name) (executed fetched : Bool)
  | close (statement : Bool) (name : Name)
  | sync
  /-- A simple Query, with the last statement of it that was prepared. -/
  | query (prepared : Option (List Byte)) (opens : Nat → Bool)

/-- What comes of a message: the session after it, whether an ErrorResponse was sent, the query that
was executed, with its binds, and the cursor that was handed out. -/
structure Response where
  session : Session
  error : Bool
  executed : Option (List Byte × List BindVar)
  cursor : Option Nat

namespace Session

def set (session : Session) (cursor : Nat) (contents : ServerCursor) : Session :=
  { session with cursors := Function.update session.cursors cursor contents }

/-- An ErrorResponse, and nothing else. -/
def refuse (session : Session) : Response := ⟨session, true, none, none⟩

def answer (session : Session) : Response := ⟨session, false, none, none⟩

/-- The rest of `parse`, once there is a cursor. -/
def parseInto (limits : Limits) (session : Session) (cursor : Nat) (query : Option (List Byte))
    (paramtypes : List Nat) (prepared : Bool) (given : Option Nat) : Response :=
  let contents := { session.cursors cursor with executeflag := true }
  match query with
  | none => { (session.set cursor contents).refuse with cursor := given }
  | some query =>
      if paramtypes.length > limits.maxbindcount then
        { (session.set cursor contents).refuse with cursor := given }
      else
        let contents := { contents with paramtypes := paramtypes }
        if query.length > limits.maxquerysize then
          { (session.set cursor contents).refuse with cursor := given }
        else
          let contents := { contents with
            querybuffer := query
            inputbinds := [] }
          ⟨session.set cursor contents, !prepared, none, given⟩

def parse (limits : Limits) (session : Session) (stmtname query : Option (List Byte))
    (paramtypes : List Nat) (prepared : Bool) (opens : Nat → Bool) : Response :=
  match stmtname with
  | none => session.refuse
  | some stmtname =>
      match session.stmtcursormap stmtname with
      | some cursor => parseInto limits session cursor query paramtypes prepared none
      | none =>
          match Pool.getCursor limits.pool opens session.pool with
          | (none, pool) => { session with pool := pool }.refuse
          | (some cursor, pool) =>
              let session := { session with
                pool := pool
                stmtcursormap := Function.update session.stmtcursormap stmtname (some cursor) }
              parseInto limits session cursor query paramtypes prepared (some cursor)

def bind (wellFormed : List Byte → Bool) (limits : Limits) (session : Session)
    (request : BindRequest) : Response :=
  match session.stmtcursormap request.stmtname with
  | none => session.refuse
  | some cursor =>
      let session := { session with
        portalcursormap := Function.update session.portalcursormap request.portal (some cursor) }
      let contents := { session.cursors cursor with
        inputbinds := []
        executeflag := true }
      match request.params wellFormed limits contents.paramtypes with
      | .refused => (session.set cursor contents).refuse
      | .unsupported => { session.set cursor contents with loop := false }.refuse
      | .bound binds =>
          let contents := { contents with inputbinds := binds }
          if request.resultformats then (session.set cursor contents).answer
          else (session.set cursor contents).refuse

def lookup (session : Session) (statement : Bool) : Name → Option Nat :=
  if statement then session.stmtcursormap else session.portalcursormap

def describe (session : Session) (statement : Bool) (name : Name) : Response :=
  match session.lookup statement name with
  | none => session.refuse
  | some _ => session.answer

/-- `emptyQuery` -/
def emptyQuery (query : List Byte) : Bool :=
  CString.peek (Query.skipWhitespaceAndComments query) == 0

/-- Rows are fetched whether the query has been executed for this message or an earlier one. -/
def execute (session : Session) (portal : Name) (executed fetched : Bool) : Response :=
  match session.portalcursormap portal with
  | none => session.refuse
  | some cursor =>
      let contents := session.cursors cursor
      if contents.executeflag then
        let session := session.set cursor { contents with executeflag := false }
        if emptyQuery contents.querybuffer then session.answer
        else
          ⟨session, !(executed && fetched), some (contents.querybuffer, contents.inputbinds), none⟩
      else ⟨session, !fetched, none, none⟩

def close (session : Session) (statement : Bool) (name : Name) : Response :=
  match session.lookup statement name with
  | none => session.refuse
  | some cursor =>
      let pool := session.pool.release cursor
      if statement then
        { session with
          pool := pool
          stmtcursormap := Function.update session.stmtcursormap name none }.answer
      else
        { session with
          pool := pool
          portalcursormap := Function.update session.portalcursormap name none }.answer

/-- A simple Query uses a cursor of its own, and releases it.  What it executes, and answers, does not
concern the statements. -/
def query (limits : Limits) (session : Session) (prepared : Option (List Byte))
    (opens : Nat → Bool) : Response :=
  match Pool.getCursor limits.pool opens session.pool with
  | (none, pool) => { session with pool := pool }.refuse
  | (some cursor, pool) =>
      let contents := { session.cursors cursor with
        inputbinds := []
        querybuffer := prepared.getD (session.cursors cursor).querybuffer }
      let session := { session with pool := pool.release cursor }
      ⟨session.set cursor contents, false, none, some cursor⟩

/-- The handler of a message.  A handler whose answer can't be sent ends the session, and the run. -/
def handle (wellFormed : List Byte → Bool) (limits : Limits) (session : Session) :
    Message → Response
  | .parse stmtname query paramtypes prepared opens =>
      session.parse limits stmtname query paramtypes prepared opens
  | .bind request => session.bind wellFormed limits request
  | .describe statement name => session.describe statement name
  | .execute portal executed fetched => session.execute portal executed fetched
  | .close statement name => session.close statement name
  | .sync => session.answer
  | .query prepared opens => session.query limits prepared opens

end Session

end SqlRelay.Postgresql
