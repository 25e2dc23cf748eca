import SqlRelay.Query.Classify
import SqlRelay.Transaction.Controller

/-!
# Queries and the end of a session

How a query that the database has run changes the controller's transaction
state, and the part of `initSession` and `endSession` that concerns it.
-/

namespace SqlRelay.Session

open SqlRelay.Foundation SqlRelay.Query SqlRelay.Transaction

variable {Db : Type}

/-- A query, as it stands in the cursor's buffer, and what the database makes of
it: whether it succeeds and what becomes of the database session. -/
structure Statement (Db : Type) where
  text : List Byte
  run : Db → Bool × Db

/-- `commitOrRollback` -/
def commitOrRollback (text : List Byte) (state : Controller Db) : Controller Db :=
  if state.isTransactional then
    if queryIsCommitOrRollback text then { state with needsCommitOrRollback := false }
    else if queryIsNotSelect text then { state with needsCommitOrRollback := true }
    else if !state.autoCommit && hasForUpdate text then
      { state with needsCommitOrRollback := true }
    else state
  else state

/-- What `endSession` takes from the configuration. -/
structure SessionConfig where
  initialTxModel : TransactionModel
  initialAutoCommit : Bool
  endOfSessionCommit : Bool

/-- The queries that `endSession` runs: those that truncate or drop temporary
tables, and the configured ones.  `temporaryTables` is `temptablecleanup`. -/
structure Cleanup (Db : Type) where
  temporaryTableQueries : List (Statement Db)
  temporaryTables : Bool
  sessionEndQueries : List (Statement Db)

variable (connection : Connection Db)

/-- The special case intercepts: the database has run the query, and the state
follows it. -/
def followAutoCommit (type : QueryType) (state : Controller Db) : Controller Db :=
  match type with
  | .setIncludingAutoCommitOn =>
      let on := { state with autoCommit := true }
      if on.inTransaction then connection.endTransaction on else on
  | .setIncludingAutoCommitOff =>
      let off := { state with autoCommit := false }
      if !off.inTransaction then off.beginTransaction.2 else off
  | _ => state

/-- The controller call that `interceptQuery` makes for a query of this type. -/
def interceptedCall : QueryType → Option Connection.Op
  | .begin => some .begin
  | .commit => some .commit
  | .rollback => some .rollback
  | .autoCommitOn => some .setAutoCommitOn
  | .autoCommitOff => some .setAutoCommitOff
  | _ => none

/-- The database runs the query. -/
def runQuery (statement : Statement Db) (state : Controller Db) : Outcome Db :=
  let (ok, db) := statement.run state.db
  if ok then
    (true, followAutoCommit connection (determineQueryType statement.text)
      (commitOrRollback statement.text { state with db }))
  else (false, { state with db })

/-- The transaction part of `executeQuery`. -/
def executeQuery (statement : Statement Db) (state : Controller Db) : Outcome Db :=
  match interceptedCall (determineQueryType statement.text) with
  | some op => connection.apply op state
  | none => runQuery connection statement state

def runQueries (statements : List (Statement Db)) (state : Controller Db) : Controller Db :=
  statements.foldl (fun state statement => (executeQuery connection statement state).2) state

/-- The needs-commit-or-rollback flag is the only part of the transaction state
that `initSession` touches. -/
def initSession (state : Controller Db) : Controller Db :=
  { state with needsCommitOrRollback := false }

/-- The end-of-session commit or rollback. -/
def endOpenTransaction (config : SessionConfig) (state : Controller Db) : Controller Db :=
  if connection.fakingExplicitTransactions state || connection.fakingImplicitTransactions state ||
      (state.isTransactional && state.needsCommitOrRollback) then
    if config.endOfSessionCommit then (connection.commit state).2
    else (connection.rollback state).2
  else state

/-- What `endSession` does once the open transaction has been seen to. -/
def cleanUp (config : SessionConfig) (cleanup : Cleanup Db) (state : Controller Db) :
    Controller Db :=
  let truncated := runQueries connection cleanup.temporaryTableQueries state
  let dropped := if cleanup.temporaryTables then (connection.commit truncated).2 else truncated
  let queried := runQueries connection cleanup.sessionEndQueries dropped
  let reset := (connection.setTransactionModel config.initialTxModel queried).2
  (connection.setAutoCommit config.initialAutoCommit reset).2

/-- The results of all of these calls are ignored. -/
def endSession (config : SessionConfig) (cleanup : Cleanup Db) (state : Controller Db) :
    Controller Db :=
  cleanUp connection config cleanup (endOpenTransaction connection config state)

/-! ## What they leave alone -/

variable {connection}

@[simp] theorem commitOrRollback_db (text : List Byte) (state : Controller Db) :
    (commitOrRollback text state).db = state.db := by
  rw [commitOrRollback]
  split_ifs <;> rfl

section Frame

variable (inv : Db → Prop)
variable (keeps : ∀ call db, connection.Permitted call → inv db → inv (connection.call call db).2)
include keeps

theorem followAutoCommit_frame {type : QueryType} {state : Controller Db} (holds : inv state.db) :
    inv (followAutoCommit connection type state).db := by
  unfold followAutoCommit
  split
  · dsimp only
    split
    · exact Connection.endTransaction_frame inv keeps holds
    · exact holds
  · dsimp only
    split <;> exact holds
  · exact holds

theorem executeQuery_frame {statement : Statement Db} {state : Controller Db}
    (runs : ∀ db, inv db → inv (statement.run db).2) (holds : inv state.db) :
    inv (executeQuery connection statement state).2.db := by
  unfold executeQuery
  split
  · exact Connection.apply_frame inv keeps holds
  · have ran := runs state.db holds
    simp only [runQuery]
    split
    · exact followAutoCommit_frame inv keeps (by simpa using ran)
    · exact ran

theorem runQueries_frame {statements : List (Statement Db)} {state : Controller Db}
    (runs : ∀ statement ∈ statements, ∀ db, inv db → inv (statement.run db).2)
    (holds : inv state.db) : inv (runQueries connection statements state).db := by
  induction statements generalizing state with
  | nil => exact holds
  | cons statement rest ih =>
      exact ih (fun other member => runs other (List.mem_cons_of_mem _ member))
        (executeQuery_frame inv keeps (runs statement List.mem_cons_self) holds)

theorem cleanUp_frame {config : SessionConfig} {cleanup : Cleanup Db} {state : Controller Db}
    (runs : ∀ statement ∈ cleanup.temporaryTableQueries ++ cleanup.sessionEndQueries,
      ∀ db, inv db → inv (statement.run db).2)
    (holds : inv state.db) : inv (cleanUp connection config cleanup state).db := by
  have truncated : inv (runQueries connection cleanup.temporaryTableQueries state).db :=
    runQueries_frame inv keeps
      (fun statement member => runs statement (List.mem_append_left _ member)) holds
  have endQueries : ∀ statement ∈ cleanup.sessionEndQueries,
      ∀ db, inv db → inv (statement.run db).2 :=
    fun statement member => runs statement (List.mem_append_right _ member)
  simp only [cleanUp]
  refine Connection.setAutoCommit_frame inv keeps (Connection.setTransactionModel_frame inv keeps
    (runQueries_frame inv keeps endQueries ?_))
  split
  · exact Connection.finish_frame inv keeps Connection.permitted_commit truncated
  · exact truncated

end Frame

end SqlRelay.Session
