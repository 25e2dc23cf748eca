import SqlRelay.Cursors.Pool

/-!
# The cursors of the controller

The array of cursors, with the ids of the cursors and what is left in the array behind them, through the
life of a session: cursors are handed out, released, created when none is available, and closed when the
session ends.  Beside the array there are temporary cursors, which count their ids up on their own.
-/

namespace SqlRelay.Cursors

/-! ## The configuration -/

/-- There are at most as many cursors as a `uint16_t` counts, and the maximum is not below the minimum. -/
structure Config extends PoolConfig where
  mincursorcount : Nat
  fits : mincursorcount ≤ maxcursorcount
  short : maxcursorcount < 65536

/-! ## The array -/

structure Cursor where
  id : Nat
  state : CursorState
  deriving DecidableEq, Repr

/-- The array, how many of its cursors there are, and the id of the last temporary cursor.  The array may
still have cursors behind those that are counted. -/
structure Controller where
  cur : Nat → Option Cursor
  cursorcount : Nat
  tempcursorid : Nat

/-- Whether the database opens the cursor of an index. -/
abbrev Opens := Nat → Bool

namespace Controller

variable (controller : Controller)

def put (index : Nat) (cursor : Option Cursor) : Controller :=
  { controller with cur := fun other => if other = index then cursor else controller.cur other }

def setState (index : Nat) (state : CursorState) : Controller :=
  controller.put index ((controller.cur index).map fun cursor => { cursor with state })

def release (index : Nat) : Controller := controller.setState index .available

/-- The loop over the cursors that are counted. -/
def find (wanted : Cursor → Bool) : Option Nat :=
  (List.range controller.cursorcount).find? fun index => (controller.cur index).any wanted

/-- What happens to each of the cursors that are counted. -/
def each (change : Cursor → Cursor) : Controller :=
  { controller with
    cur := fun index =>
      if index < controller.cursorcount then (controller.cur index).map change else controller.cur index }

end Controller

/-- The loop of `initCursors`.  A cursor that is there already is only opened. -/
def openCursors (opens : Opens) : List Nat → Controller → Bool × Controller
  | [], controller => (true, controller)
  | index :: indexes, controller =>
      let created :=
        if controller.cur index = none then controller.put index (some ⟨index, .available⟩) else controller
      if opens index then openCursors opens indexes created else (false, created)

def initCursors (opens : Opens) (count : Nat) (controller : Controller) : Bool × Controller :=
  openCursors opens (List.range count) { controller with cursorcount := count }

/-- `newCursor()`, as far as its id goes. -/
def newCursor (config : Config) (controller : Controller) : Nat × Controller :=
  let tempcursorid :=
    if controller.tempcursorid < config.maxcursorcount ∨ controller.tempcursorid = 65535 then
      config.maxcursorcount
    else controller.tempcursorid + 1
  (tempcursorid, { controller with tempcursorid })

/-- `getCursor(id)` -/
def getCursorById (id : Nat) (controller : Controller) : Option Nat :=
  controller.find fun cursor => cursor.id = id

/-- The loop that creates cursors, so many times.  A cursor that can't be opened is not counted. -/
def createCursors (opens : Opens) : Nat → Controller → Bool × Controller
  | 0, controller => (true, controller)
  | missing + 1, controller =>
      let created := controller.put controller.cursorcount (some ⟨controller.cursorcount, .available⟩)
      if opens controller.cursorcount then
        createCursors opens missing { created with cursorcount := controller.cursorcount + 1 }
      else (false, created)

/-- `getCursor()` -/
def getCursor (config : Config) (opens : Opens) (controller : Controller) : Option Nat × Controller :=
  match controller.find fun cursor => cursor.state = .available with
  | some cursor => (some cursor, controller.setState cursor .busy)
  | none =>
      if controller.cursorcount = config.maxcursorcount then (none, controller)
      else
        match createCursors opens (Pool.missing config.toPoolConfig controller.cursorcount) controller with
        | (true, grown) => (some controller.cursorcount, grown.setState controller.cursorcount .busy)
        | (false, grown) => (none, grown)

/-- Cursors that are not suspended are released. -/
def suspendSession (controller : Controller) : Controller :=
  controller.each fun cursor =>
    if cursor.state = .busy then { cursor with state := .available } else cursor

/-! ## The end of a session -/

/-- The loop that closes and deletes the last cursor, so many times. -/
def closeLast : Nat → Controller → Controller
  | 0, controller => controller
  | more + 1, controller =>
      closeLast more
        { controller.put (controller.cursorcount - 1) none with cursorcount := controller.cursorcount - 1 }

/-- `closeCursors(false)` -/
def closeCursors (controller : Controller) : Controller := { controller with cursorcount := 0 }

/-- Whether the database can be logged in to, and which cursors it opens then. -/
structure Attempt where
  logsIn : Bool
  opens : Opens

/-- One attempt after the other, until one succeeds or the server is shut down. -/
def logInAgain (oldcursorcount : Nat) : List Attempt → Controller → Controller
  | [], controller => controller
  | attempt :: attempts, controller =>
      if attempt.logsIn then
        match initCursors attempt.opens oldcursorcount controller with
        | (true, opened) => opened
        | (false, opened) => logInAgain oldcursorcount attempts (closeCursors opened)
      else logInAgain oldcursorcount attempts controller

def reLogIn (attempts : List Attempt) (controller : Controller) : Controller :=
  logInAgain controller.cursorcount attempts (closeCursors controller)

/-- All cursors are released, those above the minimum deleted.  Behind a load balancer there may be another
login. -/
def endSession (config : Config) (relogin : Option (List Attempt)) (controller : Controller) :
    Controller :=
  let released := controller.each fun cursor => { cursor with state := .available }
  let shrunk := closeLast (released.cursorcount - config.mincursorcount) released
  match relogin with
  | none => shrunk
  | some attempts => reLogIn attempts shrunk

/-- `sqlrservercontroller::init`, where all of the cursors can be opened. -/
def initial (config : Config) : Controller :=
  (initCursors (fun _ => true) config.mincursorcount ⟨fun _ => none, 0, 0⟩).2

end SqlRelay.Cursors
