import SqlRelay.Replay.Retry
import SqlRelay.Session.EndSession
import SqlRelay.Transaction.Ending

/-!
# The log of the replay trigger

`runAfterExecute`, `logQuery` and `endTransaction` of the replay trigger, in a session whose
transaction state is the controller's.  Beside the trigger's own flags the state remembers which
queries were logged since the current transaction began; no function of the trigger reads that.
-/

namespace SqlRelay.Replay

open SqlRelay.Foundation SqlRelay.Query SqlRelay.Transaction SqlRelay.Session

variable {Db Binds : Type}

/-- `querydetails`.  An insert whose row got a generated id is logged with that id in it. -/
structure QueryDetails (Binds : Type) where
  query : List Byte
  binds : Binds
  liid : Option Nat
  deriving DecidableEq, Repr

/-- What `parseInsert` tells of a query, and `autoincValueIsNull` of its values. -/
structure InsertDetails where
  queryType : QueryType
  autoIncColumn : Bool
  columnsIncludeAutoIncColumn : Bool
  autoIncValueIsNull : Bool

/-- What is configured for the trigger. -/
structure LogSettings extends Settings where
  includeSelects : Bool
  parseInsert : List Byte → InsertDetails

/-- What `logQuery` makes of a query. -/
inductive Verdict (Binds : Type) where
  | ignored
  | unreplayable
  | logged (details : QueryDetails Binds)
  deriving DecidableEq, Repr

/-- The queries that a verdict adds to the log. -/
def Verdict.entries : Verdict Binds → List (QueryDetails Binds)
  | .logged details => [details]
  | .ignored | .unreplayable => []

/-- What the database makes of a query: whether it is prepared, the error of its execution, and
the database session that is left. -/
structure Ran (Db : Type) where
  prepared : Bool
  failure : Option ErrorReport
  db : Db

/-- A successful execution leaves no error behind. -/
def Ran.report (ran : Ran Db) : ErrorReport := ran.failure.getD .none

def Ran.execution (ran : Ran Db) : Execution := ⟨ran.prepared, ran.report⟩

/-- A query that a client runs; `again` is what the database makes of the queries that a replay
runs, if there is one. -/
structure Submission (Db Binds : Type) where
  query : List Byte
  binds : Binds
  suppressed : Bool
  failure : Option ErrorReport
  db : Db
  lastInsertId : Option Nat
  again : List (Ran Db)

def Submission.report (submission : Submission Db Binds) : ErrorReport :=
  submission.failure.getD .none

/-- The part of `logQuery` that decides what to log. -/
def verdict (settings : LogSettings) (submission : Submission Db Binds) : Verdict Binds :=
  let insert := settings.parseInsert submission.query
  let gotUsableLiid := submission.lastInsertId.any (· != 0)
  let thisQueryErrored := decide (submission.report ≠ .none)
  let copied := Verdict.logged ⟨submission.query, submission.binds, none⟩
  let rewritten := Verdict.logged ⟨submission.query, submission.binds, submission.lastInsertId⟩
  match insert.queryType with
  | .select => if settings.includeSelects then copied else .ignored
  | .selectInto | .insertSelect => .unreplayable
  | .insert =>
      if gotUsableLiid && !thisQueryErrored && insert.autoIncColumn &&
          insert.columnsIncludeAutoIncColumn && insert.autoIncValueIsNull then rewritten
      else if !gotUsableLiid || !insert.autoIncColumn || insert.columnsIncludeAutoIncColumn ||
          thisQueryErrored then copied
      else rewritten
  | .multiInsert =>
      if !gotUsableLiid || !insert.autoIncColumn || insert.columnsIncludeAutoIncColumn then copied
      else .unreplayable
  | _ => copied

/-- The trigger's own state. -/
structure Trigger (Binds : Type) where
  log : List (QueryDetails Binds)
  logqueries : Bool
  wasintx : Bool
  disabled : Bool
  deriving DecidableEq, Repr

namespace Trigger

def initial : Trigger Binds := ⟨[], true, false, false⟩

def logQuery (inTransaction : Bool) (verdict : Verdict Binds) (trigger : Trigger Binds) :
    Trigger Binds :=
  if !trigger.logqueries then trigger
  else
    let outside := if !inTransaction then { trigger with log := [] } else trigger
    let started :=
      if inTransaction && !outside.wasintx then { outside with
        log := []
        wasintx := true }
      else outside
    match verdict with
    | .ignored => started
    | .unreplayable =>
        if inTransaction then { started with
          log := []
          disabled := true }
        else started
    | .logged details => { started with log := started.log ++ [details] }

/-- Not while the log is being replayed. -/
def endTransaction (trigger : Trigger Binds) : Trigger Binds :=
  if !trigger.logqueries then trigger else { trigger with
    log := []
    wasintx := false
    disabled := false }

end Trigger

/-- A session: the controller's and the trigger's state, what was logged since the current
transaction began, whether the trigger has yet to see a query of this transaction, and whether a
replay waits for the database. -/
structure System (Db Binds : Type) where
  controller : Controller Db
  trigger : Trigger Binds
  since : List (QueryDetails Binds)
  fresh : Bool
  waiting : Bool

namespace System

def initial (controller : Controller Db) : System Db Binds :=
  ⟨controller, .initial, [], true, false⟩

/-- The controller comes to another state, on the way telling the trigger that the transaction
ended if it did. -/
def moved (ends : Bool) (controller : Controller Db) (system : System Db Binds) :
    System Db Binds :=
  let trigger := if ends then system.trigger.endTransaction else system.trigger
  if ends || controller.inTransaction != system.controller.inTransaction then
    { system with
      controller
      trigger
      since := []
      fresh := true }
  else { system with
    controller
    trigger }

def answered (db : Db) (system : System Db Binds) : System Db Binds :=
  { system with controller := { system.controller with db } }

def setLogqueries (value : Bool) (system : System Db Binds) : System Db Binds :=
  { system with trigger := { system.trigger with logqueries := value } }

/-- What was logged before, in the transaction that the next query belongs to. -/
def before (system : System Db Binds) : List (QueryDetails Binds) :=
  if system.controller.inTransaction && !system.fresh then system.since else []

def logQuery (verdict : Verdict Binds) (system : System Db Binds) : System Db Binds :=
  { system with
    trigger := system.trigger.logQuery system.controller.inTransaction verdict
    since := system.before ++ verdict.entries
    fresh := false }

end System

section Steps

variable (settings : LogSettings) (connection : Connection Db)

/-- What `executeQuery` does after a query that succeeded. -/
def follow (query : List Byte) (system : System Db Binds) : System Db Binds :=
  let type := determineQueryType query
  system.moved (type == .setIncludingAutoCommitOn && system.controller.inTransaction)
    (followAutoCommit connection type (commitOrRollback query system.controller))

/-- A query of the log is run again, and the condition that it meets is written to the log file. -/
def runAgain (system : System Db Binds) (again : Attempt (QueryDetails Binds) × Ran Db) :
    System Db Binds :=
  let answered := system.answered again.2.db
  let followed :=
    if again.2.prepared && again.2.failure.isNone then
      follow connection again.1.details.query answered
    else answered
  if again.1.found.any Condition.runsLogQuery then followed.setLogqueries true else followed

/-- The attempts of a replay of the log, each with what the database makes of it. -/
def System.attempts (condition : Condition) (again : List (Ran Db)) (system : System Db Binds) :
    List (Attempt (QueryDetails Binds) × Ran Db) :=
  (replay settings.toSettings condition system.trigger.log (again.map Ran.execution)).attempts.zip
    again

/-- The loop of `replay`. -/
def System.replayed (condition : Condition) (again : List (Ran Db)) (system : System Db Binds) :
    System Db Binds :=
  (system.attempts settings condition again).foldl (runAgain connection)
    (system.setLogqueries false)

/-- No error that would make `executeQuery` fail. -/
def ErrorReport.quiet (report : ErrorReport) : Bool := report.number == 0 && report.error == []

/-- `replay`; with whether it succeeded and left no error. -/
def replayLog (condition : Condition) (again : List (Ran Db)) (system : System Db Binds) :
    Bool × System Db Binds :=
  let replayed := replay settings.toSettings condition system.trigger.log (again.map Ran.execution)
  let ran := system.replayed settings connection condition again
  match replayed.returned with
  | none => (false, { ran with waiting := true })
  | some true =>
      ((replayed.attempts.getLast?.map (·.execution.report)).all ErrorReport.quiet,
        ran.setLogqueries true)
  | some false =>
      let rolledBack := ran.moved (connection.finishEnds .rollback ran.controller)
        (connection.rollback ran.controller).2
      (false, { rolledBack with trigger := { rolledBack.trigger with
        log := []
        logqueries := true } })

def runAfterExecute (submission : Submission Db Binds) (system : System Db Binds) :
    Bool × System Db Binds :=
  if submission.suppressed || system.trigger.disabled then (submission.report.quiet, system)
  else
    let logged := system.logQuery (verdict settings submission)
    match replayCondition settings.conditions submission.report with
    | none => (submission.report.quiet, logged)
    | some condition => replayLog settings connection condition submission.again logged

/-- What a session consists of.  A connection that was lost is logged in again. -/
inductive Input (Db Binds : Type) where
  | op (op : Connection.Op)
  | reLogIn (initialAutoCommit : Bool) (db : Db)
  | submit (submission : Submission Db Binds)

/-- While a replay waits for the database, nothing else happens. -/
def step (system : System Db Binds) (input : Input Db Binds) : System Db Binds :=
  if system.waiting then system
  else
    match input with
    | .op op =>
        system.moved (connection.applyEnds op system.controller)
          (connection.apply op system.controller).2
    | .reLogIn initialAutoCommit db =>
        let lost := { system.controller with db }
        let ends := initialAutoCommit && connection.setAutoCommitOnEnds (connection.loggedIn lost)
        { system.moved ends (connection.logIn initialAutoCommit lost) with
          since := []
          fresh := true }
    | .submit submission =>
        let (succeeded, triggered) :=
          runAfterExecute settings connection submission (system.answered submission.db)
        if succeeded then follow connection submission.query triggered else triggered

end Steps

end SqlRelay.Replay
