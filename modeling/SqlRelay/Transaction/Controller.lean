import Mathlib.Tactic.SplitIfs

/-!
# The controller's transaction state

`sqlrservercontroller`: the transaction model, the autocommit and transaction
flags, and the calls that change them.  A connection module is what the
controller sees of it: its native model, its autocommit capability, and the five
calls it answers, each of which may fail.
-/

namespace SqlRelay.Transaction

/-- `sqlrtxmodel_t` -/
inductive TransactionModel where
  | unknown | none | implicit | explicit | explicitDeferred | explicitError
  deriving DecidableEq, Repr

/-- The calls of a connection module that concern transactions. -/
inductive DriverCall where
  | begin | commit | rollback | setAutoCommitOn | setAutoCommitOff
  deriving DecidableEq, Repr

/-- The errors that the controller itself raises for these calls. -/
inductive TransactionError where
  | autoCommitOnInTransactionBlock
  | autoCommitOffInTransactionBlock
  | rollbackNotInTransactionBlock
  | commitNotInTransactionBlock
  | beginInTransactionBlock
  deriving DecidableEq, Repr

/-- The error's code and text. -/
def TransactionError.report : TransactionError → Nat × String
  | .autoCommitOnInTransactionBlock => (999995, "autocommit on while in transaction block")
  | .autoCommitOffInTransactionBlock => (999996, "autocommit off while in transaction block")
  | .rollbackNotInTransactionBlock => (999997, "rollback while not in transaction block")
  | .commitNotInTransactionBlock => (999998, "commit while not in transaction block")
  | .beginInTransactionBlock => (999999, "begin while in transaction block")

/-- What a connection module tells about itself.  A driver comes up with
autocommit on unless its transactions are implicit; the modules that override
this all have an autocommit of their own. -/
structure Capabilities where
  nativeTransactionModel : TransactionModel
  supportsAutoCommit : Bool
  defaultAutoCommit : Bool
  default_on : nativeTransactionModel ≠ .implicit → defaultAutoCommit = true
  default_off : nativeTransactionModel = .implicit → supportsAutoCommit = false →
    defaultAutoCommit = false

/-- Whether a connection module's calls, when they succeed, set or clear the
controller's needs-commit-or-rollback flag. -/
structure FlagUse where
  beginSets : Bool
  commitClears : Bool
  rollbackClears : Bool

def FlagUse.after (flag : FlagUse) (call : DriverCall) (needed : Bool) : Bool :=
  match call with
  | .begin => needed || flag.beginSets
  | .commit => needed && !flag.commitClears
  | .rollback => needed && !flag.rollbackClears
  | .setAutoCommitOn | .setAutoCommitOff => needed

/-- A connection module over the state of its database session. -/
structure Connection (Db : Type) extends Capabilities where
  call : DriverCall → Db → Bool × Db
  flag : FlagUse

/-- The controller's part of the session, and the session of the database. -/
structure Controller (Db : Type) where
  txModel : TransactionModel
  autoCommit : Bool
  inTransaction : Bool
  eotAutoCommit : Bool
  needsCommitOrRollback : Bool
  error : Option (Nat × String)
  db : Db
  deriving DecidableEq, Repr

/-- The result of a call and the state after it. -/
abbrev Outcome (Db : Type) := Bool × Controller Db

variable {Db : Type}

/-- Go on only after success, as `&&` does. -/
def Outcome.andThen (first : Outcome Db) (next : Controller Db → Outcome Db) : Outcome Db :=
  if first.1 then next first.2 else (false, first.2)

namespace Controller

def isTransactional (state : Controller Db) : Bool := state.txModel != .none

/-- `setError` -/
def fail (error : TransactionError) (state : Controller Db) : Outcome Db :=
  (false, { state with error := some error.report })

/-- The pending autocommit state is kept in the explicit-deferred model only. -/
def setEotAutoCommit (value : Bool) (state : Controller Db) : Controller Db :=
  if state.txModel = .explicitDeferred then { state with eotAutoCommit := value } else state

def beginTransaction (state : Controller Db) : Outcome Db :=
  (true, { state with inTransaction := true, autoCommit := false })

end Controller

namespace Connection

variable (connection : Connection Db)

def supportsExplicitTransactions : Bool :=
  connection.nativeTransactionModel != .none && connection.nativeTransactionModel != .implicit

def fakingImplicitTransactions (state : Controller Db) : Bool :=
  connection.nativeTransactionModel != .implicit && state.txModel == .implicit

def fakingExplicitTransactions (state : Controller Db) : Bool :=
  connection.nativeTransactionModel == .implicit && state.txModel != .implicit

def fakingExplicitDeferredTransactions (state : Controller Db) : Bool :=
  connection.nativeTransactionModel != .explicitDeferred && state.txModel == .explicitDeferred

/-- One driver call. -/
def send (call : DriverCall) (state : Controller Db) : Outcome Db :=
  let (ok, db) := connection.call call state.db
  (ok, { state with
    db
    needsCommitOrRollback :=
      if ok then connection.flag.after call state.needsCommitOrRollback
      else state.needsCommitOrRollback })

/-- The results of the driver calls made here are ignored. -/
def endTransaction (state : Controller Db) : Controller Db :=
  let ended :=
    if state.txModel = .explicitDeferred then
      let called :=
        if connection.fakingExplicitTransactions state then
          if connection.supportsAutoCommit then
            (connection.send
              (if state.eotAutoCommit then .setAutoCommitOn else .setAutoCommitOff) state).2
          else state
        else if state.eotAutoCommit then state
        else (connection.send .begin state).2
      { called with autoCommit := state.eotAutoCommit, eotAutoCommit := false }
    else if connection.fakingImplicitTransactions state then
      if !state.autoCommit && !connection.supportsAutoCommit then
        (connection.send .begin state).2
      else state
    else if connection.supportsExplicitTransactions ||
        connection.fakingExplicitTransactions state then
      let called :=
        if connection.supportsAutoCommit then (connection.send .setAutoCommitOn state).2
        else state
      { called with autoCommit := true }
    else state
  { ended with inTransaction := !ended.autoCommit, needsCommitOrRollback := false }

def setAutoCommitOn (state : Controller Db) : Outcome Db :=
  if !state.isTransactional then (true, { state with autoCommit := true })
  else if state.autoCommit || !state.inTransaction then (true, state)
  else if state.txModel = .explicitDeferred ∧ state.eotAutoCommit = true then (true, state)
  else if state.txModel = .explicitError then state.fail .autoCommitOnInTransactionBlock
  else if connection.supportsAutoCommit then
    (connection.send .setAutoCommitOn state).andThen fun called =>
      (true, connection.endTransaction { called.setEotAutoCommit true with autoCommit := true })
  else if connection.fakingImplicitTransactions state then
    (connection.send .commit state).andThen fun called =>
      (true, connection.endTransaction { called with autoCommit := true })
  else if connection.supportsExplicitTransactions ||
      connection.fakingExplicitTransactions state then
    (connection.send .commit state).andThen fun called =>
      (true, connection.endTransaction (called.setEotAutoCommit true))
  else (false, { state with autoCommit := false })

def setAutoCommitOff (state : Controller Db) : Outcome Db :=
  if !state.isTransactional then (false, { state with autoCommit := true })
  else if !state.autoCommit || state.inTransaction then
    if state.txModel = .explicitError then state.fail .autoCommitOffInTransactionBlock
    else if state.txModel = .explicitDeferred then
      let called :=
        if !connection.fakingExplicitDeferredTransactions state &&
            connection.supportsAutoCommit then
          connection.send .setAutoCommitOff state
        else (true, state)
      called.andThen fun called => (true, { called with eotAutoCommit := false })
    else (true, state)
  else if connection.supportsAutoCommit then
    (connection.send .setAutoCommitOff state).andThen fun called =>
      (called.setEotAutoCommit false).beginTransaction
  else if connection.fakingImplicitTransactions state then
    (connection.send .begin state).andThen Controller.beginTransaction
  else if connection.supportsExplicitTransactions ||
      connection.fakingExplicitTransactions state then
    (connection.send .begin state).andThen fun called =>
      (called.setEotAutoCommit false).beginTransaction
  else (true, { state with autoCommit := false })

def setAutoCommit (on : Bool) (state : Controller Db) : Outcome Db :=
  if on then connection.setAutoCommitOn state else connection.setAutoCommitOff state

def begin (state : Controller Db) : Outcome Db :=
  if !state.isTransactional then (true, state)
  else if !state.autoCommit then (true, state)
  else if state.inTransaction then state.fail .beginInTransactionBlock
  else if !connection.supportsExplicitTransactions &&
      !connection.fakingExplicitTransactions state then (true, state)
  else if connection.fakingExplicitTransactions state then
    if connection.supportsAutoCommit then
      (connection.send .setAutoCommitOff state).andThen fun called =>
        (called.setEotAutoCommit true).beginTransaction
    else (false, state)
  else
    (connection.send .begin state).andThen fun called =>
      (called.setEotAutoCommit true).beginTransaction

/-- What `commit` and `rollback` have in common. -/
def finish (call : DriverCall) (notInTransaction : TransactionError) (state : Controller Db) :
    Outcome Db :=
  if !state.isTransactional then (true, state)
  else if state.autoCommit then (true, state)
  else if !state.inTransaction then state.fail notInTransaction
  else (connection.send call state).andThen fun called => (true, connection.endTransaction called)

def commit (state : Controller Db) : Outcome Db :=
  connection.finish .commit .commitNotInTransactionBlock state

def rollback (state : Controller Db) : Outcome Db :=
  connection.finish .rollback .rollbackNotInTransactionBlock state

/-- Leave the current model: outside of a transaction, with autocommit on. -/
def leaveTransactionModel (state : Controller Db) : Outcome Db :=
  if state.txModel = .none then (true, state)
  else
    let left := (connection.commit { state with
      txModel := connection.nativeTransactionModel }).andThen connection.setAutoCommitOn
    if left.1 then left else (false, { left.2 with txModel := state.txModel })

def setTransactionModel (txModel : TransactionModel) (state : Controller Db) : Outcome Db :=
  if txModel = state.txModel then (true, state)
  else
    (connection.leaveTransactionModel state).andThen fun left =>
      let switched := { left with txModel }
      if txModel = .implicit then connection.setAutoCommitOff switched else (true, switched)

end Connection

/-- `setInitialAutoCommit`: without transactions autocommit is on. -/
def initialAutoCommit (txModel : TransactionModel) (autoCommit : Bool) : Bool :=
  autoCommit || txModel == .none

namespace Connection

variable (connection : Connection Db)

/-- The driver has logged in. -/
def loggedIn (state : Controller Db) : Controller Db :=
  { state with
    autoCommit := connection.defaultAutoCommit
    inTransaction := !connection.defaultAutoCommit }

/-- The transaction part of `logIn`. -/
def logIn (initialAutoCommit : Bool) (state : Controller Db) : Controller Db :=
  (connection.setAutoCommit initialAutoCommit (connection.loggedIn state)).2

/-- The calls a client makes on the controller. -/
inductive Op where
  | begin | commit | rollback | setAutoCommitOn | setAutoCommitOff
  | setTransactionModel (txModel : TransactionModel)
  deriving DecidableEq, Repr

def apply (op : Op) (state : Controller Db) : Outcome Db :=
  match op with
  | .begin => connection.begin state
  | .commit => connection.commit state
  | .rollback => connection.rollback state
  | .setAutoCommitOn => connection.setAutoCommitOn state
  | .setAutoCommitOff => connection.setAutoCommitOff state
  | .setTransactionModel txModel => connection.setTransactionModel txModel state

/-! ## What the calls leave alone -/

/-- The controller turns autocommit on or off only where the driver can. -/
def Permitted (call : DriverCall) : Prop :=
  call = .setAutoCommitOn ∨ call = .setAutoCommitOff → connection.supportsAutoCommit = true

variable {connection}

@[simp] theorem send_txModel (call : DriverCall) (state : Controller Db) :
    (connection.send call state).2.txModel = state.txModel := rfl

@[simp] theorem send_autoCommit (call : DriverCall) (state : Controller Db) :
    (connection.send call state).2.autoCommit = state.autoCommit := rfl

@[simp] theorem send_inTransaction (call : DriverCall) (state : Controller Db) :
    (connection.send call state).2.inTransaction = state.inTransaction := rfl

@[simp] theorem send_eotAutoCommit (call : DriverCall) (state : Controller Db) :
    (connection.send call state).2.eotAutoCommit = state.eotAutoCommit := rfl

@[simp] theorem setEotAutoCommit_txModel (value : Bool) (state : Controller Db) :
    (state.setEotAutoCommit value).txModel = state.txModel := by
  rw [Controller.setEotAutoCommit]
  split <;> rfl

@[simp] theorem setEotAutoCommit_db (value : Bool) (state : Controller Db) :
    (state.setEotAutoCommit value).db = state.db := by
  rw [Controller.setEotAutoCommit]
  split <;> rfl

@[simp] theorem setEotAutoCommit_needsCommitOrRollback (value : Bool) (state : Controller Db) :
    (state.setEotAutoCommit value).needsCommitOrRollback = state.needsCommitOrRollback := by
  rw [Controller.setEotAutoCommit]
  split <;> rfl

@[simp] theorem endTransaction_txModel (state : Controller Db) :
    (connection.endTransaction state).txModel = state.txModel := by
  simp only [endTransaction]
  split_ifs <;> rfl

@[simp] theorem endTransaction_inTransaction (state : Controller Db) :
    (connection.endTransaction state).inTransaction =
      !(connection.endTransaction state).autoCommit := rfl

@[simp] theorem endTransaction_needsCommitOrRollback (state : Controller Db) :
    (connection.endTransaction state).needsCommitOrRollback = false := rfl

theorem permitted_begin : connection.Permitted .begin := by simp [Permitted]

theorem permitted_commit : connection.Permitted .commit := by simp [Permitted]

theorem permitted_rollback : connection.Permitted .rollback := by simp [Permitted]

theorem permitted_of_supports {call : DriverCall} (supports : connection.supportsAutoCommit = true) :
    connection.Permitted call := fun _ => supports

theorem andThen_holds (property : Controller Db → Prop) {first : Outcome Db}
    {next : Controller Db → Outcome Db} (holds : property first.2)
    (onwards : property first.2 → property (next first.2).2) :
    property (first.andThen next).2 := by
  rw [Outcome.andThen]
  split
  · exact onwards holds
  · exact holds

theorem finish_txModel (call : DriverCall) (notInTransaction : TransactionError)
    (state : Controller Db) :
    (connection.finish call notInTransaction state).2.txModel = state.txModel := by
  rw [finish]
  split_ifs
  · rfl
  · rfl
  · rfl
  · exact andThen_holds (fun after => after.txModel = state.txModel) rfl fun _ => by simp

theorem setAutoCommitOn_txModel (state : Controller Db) :
    (connection.setAutoCommitOn state).2.txModel = state.txModel := by
  rw [setAutoCommitOn]
  split_ifs
  · rfl
  · rfl
  · rfl
  · rfl
  · exact andThen_holds (fun after => after.txModel = state.txModel) rfl fun _ => by simp
  · exact andThen_holds (fun after => after.txModel = state.txModel) rfl fun _ => by simp
  · exact andThen_holds (fun after => after.txModel = state.txModel) rfl fun _ => by simp
  · rfl

theorem setAutoCommitOff_txModel (state : Controller Db) :
    (connection.setAutoCommitOff state).2.txModel = state.txModel := by
  rw [setAutoCommitOff]
  split_ifs
  · rfl
  · rfl
  · exact andThen_holds (fun after => after.txModel = state.txModel) rfl fun _ => rfl
  · exact andThen_holds (fun after => after.txModel = state.txModel) rfl fun _ => rfl
  · rfl
  · exact andThen_holds (fun after => after.txModel = state.txModel) rfl fun _ => by
      simp [Controller.beginTransaction]
  · exact andThen_holds (fun after => after.txModel = state.txModel) rfl fun _ => rfl
  · exact andThen_holds (fun after => after.txModel = state.txModel) rfl fun _ => by
      simp [Controller.beginTransaction]
  · rfl

theorem begin_txModel (state : Controller Db) :
    (connection.begin state).2.txModel = state.txModel := by
  rw [begin]
  split_ifs
  · rfl
  · rfl
  · rfl
  · rfl
  · exact andThen_holds (fun after => after.txModel = state.txModel) rfl fun _ => by
      simp [Controller.beginTransaction]
  · rfl
  · exact andThen_holds (fun after => after.txModel = state.txModel) rfl fun _ => by
      simp [Controller.beginTransaction]

theorem andThen_frame {inv : Db → Prop} {first : Outcome Db}
    {next : Controller Db → Outcome Db} (holds : inv first.2.db)
    (onwards : inv first.2.db → inv (next first.2).2.db) : inv (first.andThen next).2.db :=
  andThen_holds (fun state => inv state.db) holds onwards

section Frame

/-! What every permitted driver call keeps of the database, every call on the
controller keeps. -/

variable (inv : Db → Prop)
variable (keeps : ∀ call db, connection.Permitted call → inv db → inv (connection.call call db).2)
include keeps

theorem endTransaction_frame {state : Controller Db} (holds : inv state.db) :
    inv (connection.endTransaction state).db := by
  simp only [endTransaction]
  split_ifs with _ _ supports _ _ _ _ _ supports
  · exact keeps _ _ (permitted_of_supports supports) holds
  · exact keeps _ _ (permitted_of_supports supports) holds
  · exact holds
  · exact holds
  · exact keeps _ _ permitted_begin holds
  · exact keeps _ _ permitted_begin holds
  · exact holds
  · exact keeps _ _ (permitted_of_supports supports) holds
  · exact holds
  · exact holds

theorem setAutoCommitOn_frame {state : Controller Db} (holds : inv state.db) :
    inv (connection.setAutoCommitOn state).2.db := by
  rw [setAutoCommitOn]
  split_ifs with _ _ _ _ supports
  · exact holds
  · exact holds
  · exact holds
  · exact holds
  · refine andThen_frame (keeps _ _ (permitted_of_supports supports) holds) fun sent => ?_
    exact endTransaction_frame inv keeps (by simpa using sent)
  · refine andThen_frame (keeps _ _ permitted_commit holds) fun sent => ?_
    exact endTransaction_frame inv keeps sent
  · refine andThen_frame (keeps _ _ permitted_commit holds) fun sent => ?_
    exact endTransaction_frame inv keeps (by simpa using sent)
  · exact holds

theorem setAutoCommitOff_frame {state : Controller Db} (holds : inv state.db) :
    inv (connection.setAutoCommitOff state).2.db := by
  rw [setAutoCommitOff]
  split_ifs with _ _ _ _ both supports
  · exact holds
  · exact holds
  · have allowed := (Bool.and_eq_true _ _).mp both
    exact andThen_frame (keeps _ _ (permitted_of_supports allowed.2) holds) id
  · exact holds
  · exact holds
  · refine andThen_frame (keeps _ _ (permitted_of_supports supports) holds) fun sent => ?_
    simpa [Controller.beginTransaction] using sent
  · exact andThen_frame (keeps _ _ permitted_begin holds) id
  · refine andThen_frame (keeps _ _ permitted_begin holds) fun sent => ?_
    simpa [Controller.beginTransaction] using sent
  · exact holds

theorem setAutoCommit_frame {on : Bool} {state : Controller Db} (holds : inv state.db) :
    inv (connection.setAutoCommit on state).2.db := by
  rw [setAutoCommit]
  split
  · exact setAutoCommitOn_frame inv keeps holds
  · exact setAutoCommitOff_frame inv keeps holds

theorem begin_frame {state : Controller Db} (holds : inv state.db) :
    inv (connection.begin state).2.db := by
  rw [begin]
  split_ifs with _ _ _ _ _ supports
  · exact holds
  · exact holds
  · exact holds
  · exact holds
  · refine andThen_frame (keeps _ _ (permitted_of_supports supports) holds) fun sent => ?_
    simpa [Controller.beginTransaction] using sent
  · exact holds
  · refine andThen_frame (keeps _ _ permitted_begin holds) fun sent => ?_
    simpa [Controller.beginTransaction] using sent

theorem finish_frame {call : DriverCall} {notInTransaction : TransactionError}
    {state : Controller Db} (allowed : connection.Permitted call) (holds : inv state.db) :
    inv (connection.finish call notInTransaction state).2.db := by
  rw [finish]
  split_ifs
  · exact holds
  · exact holds
  · exact holds
  · exact andThen_frame (keeps _ _ allowed holds) fun sent => endTransaction_frame inv keeps sent

theorem leaveTransactionModel_frame {state : Controller Db} (holds : inv state.db) :
    inv (connection.leaveTransactionModel state).2.db := by
  have left : inv ((connection.commit { state with
      txModel := connection.nativeTransactionModel }).andThen connection.setAutoCommitOn).2.db :=
    andThen_frame (finish_frame inv keeps permitted_commit holds) (setAutoCommitOn_frame inv keeps)
  simp only [leaveTransactionModel]
  split_ifs
  · exact holds
  · exact left
  · exact left

theorem setTransactionModel_frame {txModel : TransactionModel} {state : Controller Db}
    (holds : inv state.db) : inv (connection.setTransactionModel txModel state).2.db := by
  rw [setTransactionModel]
  split
  · exact holds
  · refine andThen_frame (leaveTransactionModel_frame inv keeps holds) fun left => ?_
    dsimp only
    split
    · exact setAutoCommitOff_frame inv keeps left
    · exact left

theorem apply_frame {op : Op} {state : Controller Db} (holds : inv state.db) :
    inv (connection.apply op state).2.db := by
  cases op with
  | begin => exact begin_frame inv keeps holds
  | commit => exact finish_frame inv keeps permitted_commit holds
  | rollback => exact finish_frame inv keeps permitted_rollback holds
  | setAutoCommitOn => exact setAutoCommitOn_frame inv keeps holds
  | setAutoCommitOff => exact setAutoCommitOff_frame inv keeps holds
  | setTransactionModel txModel => exact setTransactionModel_frame inv keeps holds

end Frame

end Connection

end SqlRelay.Transaction
