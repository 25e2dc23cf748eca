import SqlRelay.Session.Isolation

/-!
# Queries over a connection that is lost

When the database is found to be down, the protocol module logs in again.  If it is configured to wait for
databases that are down, it then runs the same query once more, and the client only gets to see the answer
to that.  What the transaction has done before is gone with the old session of the database.
-/

namespace SqlRelay.Session

open SqlRelay.Foundation SqlRelay.Query SqlRelay.Transaction

/-- What a try at a query or a call comes upon: whether the database is there, the driver calls that it
accepts, and what it makes of the query. -/
structure Try where
  alive : Bool
  accepts : DriverCall → Bool
  ok : Bool
  /-- The database ends the transaction on its own, as some do where tables are altered. -/
  ends : Bool

/-- A query that is run belongs to the transaction that is open then. -/
def Try.statement (attempt : Try) (native : TransactionModel) (text : List Byte) :
    Statement DatabaseSession where
  text
  run := fun session =>
    if attempt.alive && attempt.ok then
      (true, if attempt.ends then session.close else session.statement native)
    else (false, session)

/-- A database that is gone accepts nothing. -/
def Try.reaches (attempt : Try) (capabilities : Capabilities) (flag : FlagUse) :
    Connection DatabaseSession where
  toCapabilities := capabilities
  call := fun call session =>
    if attempt.alive && attempt.accepts call then
      (true, session.call capabilities.nativeTransactionModel call)
    else (false, session)
  flag

/-- `lost` is a ghost: the transaction that the client has open has been lost, and the client has not been
told of any error since. -/
structure Served where
  controller : Controller DatabaseSession
  lost : Bool

/-- The configuration of the connection and of the driver. -/
structure Setting where
  capabilities : Capabilities
  flag : FlagUse
  waitfordowndb : Bool
  initialAutoCommit : Bool

namespace Served

/-- The client is told of an error. -/
def told (served : Served) : Served := { served with lost := false }

end Served

namespace Setting

variable (setting : Setting)

/-- The session of the database is a new one.  The queries that are configured for the ends and the starts
of sessions are left out. -/
def reLogIn (served : Served) : Served where
  controller := (setting.capabilities.connection setting.flag).logIn setting.initialAutoCommit
    { served.controller with db := ⟨setting.capabilities.defaultAutoCommit, false, false⟩ }
  lost := served.lost || served.controller.db.uncommitted

/-- The client may forget a transaction that it has rolled back. -/
def succeeded (text : List Byte) (served : Served) : Served :=
  if determineQueryType text = .rollback then { served with lost := false } else served

/-- One try. -/
def execute (text : List Byte) (attempt : Try) (served : Served) : Outcome DatabaseSession :=
  executeQuery (attempt.reaches setting.capabilities setting.flag)
    (attempt.statement setting.capabilities.nativeTransactionModel text)
    { served.controller with error := none }

/-- `processQueryOrBindCursor`: what the client is told, if anything.  An error that the controller raises
itself says nothing about the database.  The loop is left when the daemon shuts down. -/
def processQuery (text : List Byte) : List Try → Served → Option Bool × Served
  | [], served => (none, served.told)
  | attempt :: later, served =>
      let executed := setting.execute text attempt served
      let after := { served with controller := executed.2 }
      if executed.1 then (some true, succeeded text after)
      else if attempt.alive || executed.2.error.isSome then (some false, after.told)
      else if setting.waitfordowndb then processQuery text later (setting.reLogIn after)
      else (some false, (setting.reLogIn after).told)

/-- What a client asks for.  A call and a ping are tried once. -/
inductive Request where
  | query (text : List Byte) (tries : List Try)
  | call (op : Connection.Op) (attempt : Try)
  | ping (alive : Bool)

/-- A command like `commitCommand` -/
def callCommand (op : Connection.Op) (attempt : Try) (served : Served) : Option Bool × Served :=
  let called := (attempt.reaches setting.capabilities setting.flag).apply op served.controller
  let after := { served with controller := called.2 }
  if called.1 then (some true, if op = .rollback then { after with lost := false } else after)
  else (some false, after.told)

/-- A ping that fails is an error, and the server logs in again. -/
def pingCommand (alive : Bool) (served : Served) : Option Bool × Served :=
  if alive then (some true, served) else (some false, (setting.reLogIn served).told)

def answer (served : Served) : Request → Option Bool × Served
  | .query text tries => setting.processQuery text tries served
  | .call op attempt => setting.callCommand op attempt served
  | .ping alive => setting.pingCommand alive served

def step (served : Served) (request : Request) : Served := (setting.answer served request).2

/-- The client as it has logged in, in the transaction model of its choice. -/
def loggedIn (txModel : TransactionModel) : Served where
  controller := (setting.capabilities.connection setting.flag).logIn setting.initialAutoCommit
    (setting.capabilities.fresh txModel)
  lost := false

/-! ## What the client is told -/

/-- Nothing but a rollback is reported as a success while the transaction is lost and the client has not been
told of any error. -/
def Tells (served : Served) : Request → Prop
  | .query text tries => (setting.processQuery text tries served).1 = some true →
      determineQueryType text ≠ .rollback → (setting.processQuery text tries served).2.lost = false
  | .call op attempt => (setting.callCommand op attempt served).1 = some true → op ≠ .rollback →
      (setting.callCommand op attempt served).2.lost = false
  | .ping _ => True

section Tries

variable (text : List Byte)

/-- The query fails because the database is gone. -/
def FindsDown (attempt : Try) (served : Served) : Prop :=
  (setting.execute text attempt served).1 = false ∧ attempt.alive = false ∧
    (setting.execute text attempt served).2.error = none

/-- The server as it tries again. -/
def again (attempt : Try) (served : Served) : Served :=
  setting.reLogIn { served with controller := (setting.execute text attempt served).2 }

/-- The query fails as long as it is tried. -/
def Fails : List Try → Served → Prop
  | [], _ => True
  | attempt :: later, served =>
      (setting.execute text attempt served).1 = false ∧
        (setting.FindsDown text attempt served → Fails later (setting.again text attempt served))

/-- If the database is found to be down, then the query fails when the database is there again. -/
def Surfaces (tries : List Try) (served : Served) : Prop :=
  ∀ attempt later, tries = attempt :: later → setting.FindsDown text attempt served →
    setting.Fails text later (setting.again text attempt served)

end Tries

/-- Where the server waits for databases that are down, a query that comes after others in the transaction,
and that is no rollback, does not hide that the database was down. -/
def Keeps (served : Served) : Request → Prop
  | .query text tries => setting.waitfordowndb = true → served.controller.db.uncommitted = true →
      determineQueryType text ≠ .rollback → setting.Surfaces text tries served
  | _ => True

/-! ## One query -/

section Query

variable {setting} {text : List Byte} {attempt : Try} {tries later : List Try} {served : Served}

/-- Trying a query on a database that is gone leaves the lost session as it was. -/
theorem execute_down (down : attempt.alive = false) :
    (setting.execute text attempt served).2.db = served.controller.db := by
  apply executeQuery_frame (fun session => session = served.controller.db)
  · intro call session _ same
    simp only [Try.reaches, down, Bool.false_and, Bool.false_eq_true, if_false]
    exact same
  · intro session same
    simp only [Try.statement, down, Bool.false_and, Bool.false_eq_true, if_false]
    exact same
  · rfl

theorem FindsDown.lost (down : setting.FindsDown text attempt served) :
    (setting.again text attempt served).lost = (served.lost || served.controller.db.uncommitted) := by
  simp only [again, reLogIn, execute_down down.2.1]

end Query

/-! ## Runs -/

section Runs

variable {setting} {served : Served}

end Runs

/-- A database like postgresql's, that the server waits for. -/
def waiting : Setting := ⟨explicitCapabilities, ⟨true, true, true⟩, true, true⟩

def there : Try := ⟨true, fun _ => true, true, false⟩
def gone : Try := ⟨false, fun _ => true, true, false⟩

end Setting

end SqlRelay.Session
