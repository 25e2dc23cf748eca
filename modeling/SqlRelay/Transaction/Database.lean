import SqlRelay.Transaction.Controller

/-!
# The database session

What the controller's flags are about: a session of the database, seen as its
autocommit mode and whether a transaction is open.  This is the abstract model
that the controller's calls are compared with; how a driver call acts on it
depends on the native transaction model only.
-/

namespace SqlRelay.Transaction

/-- `uncommitted` is a ghost: some statement has run since the last commit or
rollback and has not been committed by itself. -/
structure DatabaseSession where
  autoCommit : Bool
  openTransaction : Bool
  uncommitted : Bool
  deriving DecidableEq, Repr

namespace DatabaseSession

/-- The next statement is committed by itself. -/
def commitsNext (native : TransactionModel) (session : DatabaseSession) : Bool :=
  native == .none || (session.autoCommit && !session.openTransaction)

/-- A transaction has ended, one way or the other. -/
def close (session : DatabaseSession) : DatabaseSession :=
  { session with openTransaction := false, uncommitted := false }

/-- A driver call that succeeds.  A session without transactions has nothing to
begin or to end, and one with implicit transactions nothing to begin.  Where
transactions are deferred, autocommit on ends only what autocommit off started. -/
def call (native : TransactionModel) (call : DriverCall) (session : DatabaseSession) :
    DatabaseSession :=
  if native = .none then session
  else
    match call with
    | .begin => if native = .implicit then session else { session with openTransaction := true }
    | .commit | .rollback => session.close
    | .setAutoCommitOn =>
        if native = .explicitDeferred ∧ session.autoCommit = true then session
        else { session.close with autoCommit := true }
    | .setAutoCommitOff => { session with autoCommit := false }

/-- A statement of the client that changes something. -/
def statement (native : TransactionModel) (session : DatabaseSession) : DatabaseSession :=
  if session.commitsNext native then session
  else { session with openTransaction := true, uncommitted := true }

end DatabaseSession

/-- A connection to such a session, all of whose calls succeed. -/
def Capabilities.connection (capabilities : Capabilities) (flag : FlagUse) :
    Connection DatabaseSession where
  toCapabilities := capabilities
  call := fun call session => (true, session.call capabilities.nativeTransactionModel call)
  flag

/-- The state before `logIn` decides about autocommit: the driver has just come
up. -/
def Capabilities.fresh (capabilities : Capabilities) (txModel : TransactionModel) :
    Controller DatabaseSession where
  txModel
  autoCommit := false
  inTransaction := false
  eotAutoCommit := false
  needsCommitOrRollback := false
  error := none
  db := ⟨capabilities.defaultAutoCommit, false, false⟩

/-- The flags say what the database does: autocommit exactly when the next
statement is committed by itself, in a transaction exactly when it is not. -/
def Agrees (native : TransactionModel) (state : Controller DatabaseSession) : Prop :=
  state.autoCommit = state.db.commitsNext native ∧
    state.inTransaction = !state.db.commitsNext native

instance (native : TransactionModel) (state : Controller DatabaseSession) :
    Decidable (Agrees native state) :=
  inferInstanceAs (Decidable (_ ∧ _))

/-!
## What is committed

The database session together with what its statements have changed, and a driver that may refuse any
call.
-/

variable {Change : Type}

/-- `pending` waits for a commit, and `calls` counts the driver calls. -/
structure Store (Change : Type) where
  session : DatabaseSession
  committed : List Change
  pending : List Change
  calls : Nat
  deriving DecidableEq, Repr

namespace Store

def commit (store : Store Change) : Store Change :=
  { store with committed := store.committed ++ store.pending, pending := [] }

/-- A driver call that succeeds. -/
def call (native : TransactionModel) (call : DriverCall) (store : Store Change) : Store Change :=
  let called := { store with session := store.session.call native call }
  if native = .none then store
  else
    match call with
    | .begin | .setAutoCommitOff => called
    | .commit => called.commit
    | .rollback => { called with pending := [] }
    | .setAutoCommitOn =>
        if native = .explicitDeferred ∧ store.session.autoCommit = true then called
        else called.commit

/-- A statement of the client that changes something. -/
def change (native : TransactionModel) (change : Change) (store : Store Change) : Store Change :=
  let changed := { store with session := store.session.statement native }
  if store.session.commitsNext native then
    { changed with committed := store.committed ++ [change] }
  else { changed with pending := store.pending ++ [change] }

/-- Just this is committed, and nothing waits for a commit. -/
def Settled (committed : List Change) (store : Store Change) : Prop :=
  store.committed = committed ∧ store.pending = []

@[simp] theorem call_session (native : TransactionModel) (driverCall : DriverCall)
    (store : Store Change) :
    (store.call native driverCall).session = store.session.call native driverCall := by
  simp only [call]
  split
  · next isNone => simp [DatabaseSession.call, isNone]
  · cases driverCall with
    | begin => rfl
    | commit => rfl
    | rollback => rfl
    | setAutoCommitOff => rfl
    | setAutoCommitOn => dsimp only; split <;> rfl

theorem call_settled {native : TransactionModel} {driverCall : DriverCall}
    {committed : List Change} {store : Store Change} (settled : store.Settled committed) :
    (store.call native driverCall).Settled committed := by
  obtain ⟨same, nothing⟩ := settled
  have commits : ∀ session, { store with session }.commit.Settled committed := by
    intro session
    exact ⟨by simp [commit, same, nothing], rfl⟩
  simp only [call]
  split
  · exact ⟨same, nothing⟩
  · cases driverCall with
    | begin => exact ⟨same, nothing⟩
    | commit => exact commits _
    | rollback => exact ⟨same, rfl⟩
    | setAutoCommitOff => exact ⟨same, nothing⟩
    | setAutoCommitOn =>
        dsimp only
        split
        · exact ⟨same, nothing⟩
        · exact commits _

end Store

/-- A connection module that may refuse a call. -/
structure Driver extends Capabilities where
  flag : FlagUse
  accepts : Nat → DriverCall → Bool

namespace Driver

variable (driver : Driver)

def call (driverCall : DriverCall) (store : Store Change) : Bool × Store Change :=
  if driver.accepts store.calls driverCall then
    (true, { store.call driver.nativeTransactionModel driverCall with calls := store.calls + 1 })
  else (false, { store with calls := store.calls + 1 })

def connection : Connection (Store Change) where
  toCapabilities := driver.toCapabilities
  call := driver.call
  flag := driver.flag

variable {driver}

theorem send_accepted {driverCall : DriverCall} {state : Controller (Store Change)}
    (accepted : driver.accepts state.db.calls driverCall = true) :
    driver.connection.send driverCall state = (true, { state with
      db := { state.db.call driver.nativeTransactionModel driverCall with
        calls := state.db.calls + 1 }
      needsCommitOrRollback := driver.flag.after driverCall state.needsCommitOrRollback }) := by
  simp [Connection.send, connection, call, accepted]

/-- What is committed stays so whatever is called if nothing waits for a commit. -/
theorem call_settled {driverCall : DriverCall} {committed : List Change} {store : Store Change}
    (settled : store.Settled committed) :
    (driver.call driverCall store).2.Settled committed := by
  simp only [call]
  split
  · exact Store.call_settled settled
  · exact settled

theorem keeps_settled (committed : List Change) (driverCall : DriverCall) (store : Store Change)
    (_permitted : (driver.connection : Connection (Store Change)).Permitted driverCall) (settled : store.Settled committed) :
    (driver.connection.call driverCall store).2.Settled committed :=
  call_settled settled

end Driver

end SqlRelay.Transaction
