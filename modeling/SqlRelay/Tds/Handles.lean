import SqlRelay.Cursors.Pool
import SqlRelay.Foundation.Named

/-!
# Handles

A client refers to prepared statements and to open cursors by handles.  Both kinds of handle are kept in
dictionaries of their own, and stand for cursors out of the pool of the connection.  Requests that are
refused before they look for a cursor are left out, and so is what else is kept for a cursor.
-/

namespace SqlRelay.Tds

open SqlRelay.Foundation SqlRelay.Cursors

/-- `SQLRELAY_HANDLE_BASE` -/
def handleBase : Nat := 1073741824

/-- The highest handle that a signed integer can hold. -/
def handleMax : Nat := 2147483647

/-- The cursors, by their index in the pool, that handles stand for. -/
structure Handles where
  stmthandles : Dictionary Nat Nat
  cursorhandles : Dictionary Nat Nat
  pool : Pool
  nexthandle : Nat

/-- Which cursors can be opened for a request, when it asks for one the first and the second time. -/
structure Openings where
  opens : Nat → Bool
  reopens : Nat → Bool

/-- What comes of preparing and executing a statement is given with the request. -/
inductive Request where
  /-- `sp_prepare`, `sp_prepexec` and `sp_prepexecrpc`, which execute the statement if `exec` is set. -/
  | prepare (oldhandle : Nat) (exec prepares executes : Bool)
  | execute (handle : Nat)
  | unprepare (handle : Nat)
  | cursorOpen (prepares executes : Bool)
  | cursorPrepare (prepares : Bool)
  | cursorExecute (handle : Nat) (executes : Bool)
  | cursorPrepExec (prepares executes : Bool)
  | cursorUnprepare (handle : Nat)
  | cursorClose (handle : Nat)
  | sqlBatch
  deriving DecidableEq, Repr

/-- `CURSOR_CLOSE_ALL` -/
def cursorCloseAll : Nat := 4294967295

/-- `handleCursor` -/
def handleCursor (handles : Dictionary Nat Nat) (handle : Nat) : Option Nat :=
  if handle = 0 then none else handles.getValue handle

/-- `handlesContain` -/
def handlesContain (handles : Dictionary Nat Nat) (cursor : Nat) : Bool :=
  handles.entries.any fun entry => entry.2 == cursor

namespace Handles

variable (config : PoolConfig) (openings : Openings) (handles : Handles)

/-- The handle that is made next. -/
def freshHandle : Nat :=
  if handles.nexthandle = 0 ∨ handleMax < handles.nexthandle then handleBase
  else handles.nexthandle

/-- `newHandle` -/
def newHandle : Nat × Handles :=
  (handles.freshHandle, { handles with nexthandle := handles.freshHandle + 1 })

def releaseCursor (cursor : Nat) : Handles :=
  { handles with pool := handles.pool.release cursor }

/-- All handles that stand for the cursor go with it. -/
def releaseCursorHandles (cursor : Nat) : Handles :=
  { handles with
    stmthandles := handles.stmthandles.filter fun entry => entry.2 ≠ cursor
    cursorhandles := handles.cursorhandles.filter fun entry => entry.2 ≠ cursor
    pool := handles.pool.release cursor }

/-- Cursor handles go before prepared statement handles.  No handle stands for no cursor. -/
def evictOldestHandle : Handles :=
  match handles.cursorhandles.entries ++ handles.stmthandles.entries with
  | [] => handles
  | (_, cursor) :: _ => handles.releaseCursorHandles cursor

/-- `getCursor` of the controller. -/
def getCursor (opens : Nat → Bool) : Option Nat × Handles :=
  let got := Pool.getCursor config opens handles.pool
  (got.1, { handles with pool := got.2 })

/-- `availableCursor`, with no cursor to keep. -/
def availableCursor : Option Nat × Handles :=
  match handles.getCursor config openings.opens with
  | (some cursor, handles) => (some cursor, handles)
  | (none, handles) => handles.evictOldestHandle.getCursor config openings.reopens

/-- The cursors of these handles are released, unless one of the other handles stands for them. -/
def releaseHandles (released other : Dictionary Nat Nat) (pool : Pool) : Pool :=
  ((released.entries.map (·.2)).filter fun cursor => !handlesContain other cursor).foldl
    Pool.release pool

/-- A statement that takes a cursor and gives it back: a batch, or a call of the backend's own. -/
def onCursor : Handles :=
  match handles.availableCursor config openings with
  | (none, handles) => handles
  | (some cursor, handles) => handles.releaseCursor cursor

/-- A handle below the base is the backend's own. -/
def backendHandle (handle : Nat) : Handles :=
  if handle ≠ 0 ∧ handle < handleBase then handles.onCursor config openings else handles

/-- The cursor of a handle that is prepared again. -/
def dropOldHandle (oldhandle : Nat) : Handles :=
  match handleCursor handles.stmthandles oldhandle with
  | none => handles
  | some cursor =>
      ({ handles with stmthandles := handles.stmthandles.remove oldhandle }).releaseCursor cursor

/-- The handle is made before the statement is prepared. -/
def prepare (oldhandle : Nat) (exec prepares executes : Bool) : Handles :=
  match (handles.dropOldHandle oldhandle).availableCursor config openings with
  | (none, handles) => handles
  | (some cursor, handles) =>
      let (handle, handles) := handles.newHandle
      if prepares && (!exec || executes) then
        { handles with stmthandles := handles.stmthandles.setValue handle cursor }
      else handles.releaseCursor cursor

def execute (handle : Nat) : Handles :=
  match handleCursor handles.stmthandles handle with
  | none => handles.backendHandle config openings handle
  | some _ => handles

def unprepare (handle : Nat) : Handles :=
  match handleCursor handles.stmthandles handle with
  | none => handles.backendHandle config openings handle
  | some cursor =>
      ({ handles with stmthandles := handles.stmthandles.remove handle }).releaseCursor cursor

def cursorOpen (prepares executes : Bool) : Handles :=
  match handles.availableCursor config openings with
  | (none, handles) => handles
  | (some cursor, handles) =>
      if prepares && executes then
        let (handle, handles) := handles.newHandle
        { handles with cursorhandles := handles.cursorhandles.setValue handle cursor }
      else handles.releaseCursor cursor

def cursorPrepare (prepares : Bool) : Handles :=
  match handles.availableCursor config openings with
  | (none, handles) => handles
  | (some cursor, handles) =>
      if prepares then
        let (handle, handles) := handles.newHandle
        { handles with stmthandles := handles.stmthandles.setValue handle cursor }
      else handles.releaseCursor cursor

def cursorExecute (handle : Nat) (executes : Bool) : Handles :=
  match handleCursor handles.stmthandles handle with
  | none => handles.backendHandle config openings handle
  | some cursor =>
      if executes then
        let (cursorhandle, handles) := handles.newHandle
        { handles with cursorhandles := handles.cursorhandles.setValue cursorhandle cursor }
      else handles

def cursorPrepExec (prepares executes : Bool) : Handles :=
  match handles.availableCursor config openings with
  | (none, handles) => handles
  | (some cursor, handles) =>
      if prepares && executes then
        let (handle, handles) := handles.newHandle
        let handles :=
          { handles with stmthandles := handles.stmthandles.setValue handle cursor }
        let (cursorhandle, handles) := handles.newHandle
        { handles with cursorhandles := handles.cursorhandles.setValue cursorhandle cursor }
      else handles.releaseCursor cursor

/-- The cursor may still be open. -/
def cursorUnprepare (handle : Nat) : Handles :=
  match handleCursor handles.stmthandles handle with
  | none => handles.backendHandle config openings handle
  | some cursor =>
      let removed := { handles with stmthandles := handles.stmthandles.remove handle }
      if handlesContain handles.cursorhandles cursor then removed else removed.releaseCursor cursor

/-- The statement may still be prepared. -/
def closeCursorStatement (handle cursor : Nat) : Handles :=
  let removed := { handles with cursorhandles := handles.cursorhandles.remove handle }
  if handlesContain handles.stmthandles cursor then removed else removed.releaseCursor cursor

def cursorClose (handle : Nat) : Handles :=
  if handle = cursorCloseAll then
    { handles with
      cursorhandles := Dictionary.empty
      pool := releaseHandles handles.cursorhandles handles.stmthandles handles.pool }
  else
    match handleCursor handles.cursorhandles handle with
    | none => handles
    | some cursor => handles.closeCursorStatement handle cursor

def serve : Request → Handles
  | .prepare oldhandle exec prepares executes =>
      handles.prepare config openings oldhandle exec prepares executes
  | .execute handle => handles.execute config openings handle
  | .unprepare handle => handles.unprepare config openings handle
  | .cursorOpen prepares executes => handles.cursorOpen config openings prepares executes
  | .cursorPrepare prepares => handles.cursorPrepare config openings prepares
  | .cursorExecute handle executes => handles.cursorExecute config openings handle executes
  | .cursorPrepExec prepares executes => handles.cursorPrepExec config openings prepares executes
  | .cursorUnprepare handle => handles.cursorUnprepare config openings handle
  | .cursorClose handle => handles.cursorClose handle
  | .sqlBatch => handles.onCursor config openings

end Handles

end SqlRelay.Tds
