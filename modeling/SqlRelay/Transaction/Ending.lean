import SqlRelay.Transaction.Controller

/-!
# Which calls end the transaction

The modules are told of the end of a transaction by `endTransaction` alone.  For each call that
may reach it, the condition under which it does.
-/

namespace SqlRelay.Transaction.Connection

variable {Db : Type} (connection : Connection Db)

/-- `commit` and `rollback` end the transaction that they are sent for. -/
def finishEnds (call : DriverCall) (state : Controller Db) : Bool :=
  state.isTransactional && !state.autoCommit && state.inTransaction &&
    (connection.send call state).1

/-- `setAutoCommitOn` ends the transaction by a call of its own or by a commit. -/
def setAutoCommitOnEnds (state : Controller Db) : Bool :=
  state.isTransactional && !state.autoCommit && state.inTransaction &&
    !(state.txModel == .explicitDeferred && state.eotAutoCommit) &&
    state.txModel != .explicitError &&
    if connection.supportsAutoCommit then (connection.send .setAutoCommitOn state).1
    else (connection.fakingImplicitTransactions state || connection.supportsExplicitTransactions ||
      connection.fakingExplicitTransactions state) && (connection.send .commit state).1

def leaveTransactionModelEnds (state : Controller Db) : Bool :=
  state.txModel != .none &&
    let native := { state with txModel := connection.nativeTransactionModel }
    let committed := connection.commit native
    connection.finishEnds .commit native ||
      committed.1 && connection.setAutoCommitOnEnds committed.2

def applyEnds (op : Op) (state : Controller Db) : Bool :=
  match op with
  | .begin | .setAutoCommitOff => false
  | .commit => connection.finishEnds .commit state
  | .rollback => connection.finishEnds .rollback state
  | .setAutoCommitOn => connection.setAutoCommitOnEnds state
  | .setTransactionModel txModel =>
      txModel != state.txModel && connection.leaveTransactionModelEnds state

end SqlRelay.Transaction.Connection
