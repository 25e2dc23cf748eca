import SqlRelay.Postgresql.Jobs

/-!
# The transaction of a Query message

What is committed when some of the queries of a string fail, and whether the session is in a transaction
afterwards.
-/

namespace SqlRelay.Postgresql

open SqlRelay.Foundation SqlRelay.Query SqlRelay.Transaction
open SqlRelay.Session (interceptedCall executeQuery executeQuery_frame)
open Job

variable {Change : Type} {driver : Driver}

/-! ## The transaction -/

/-- `begin` has begun a transaction. -/
structure Begun (native : TransactionModel) (before after : Controller (Store Change)) : Prop where
  txModel : after.txModel = before.txModel
  autoCommit : after.autoCommit = false
  inTransaction : after.inTransaction = true
  calls : after.db.calls = before.db.calls + 1
  waits : after.db.session.commitsNext native = false
  committed : after.db.committed = before.db.committed
  pending : after.db.pending = before.db.pending

/-- The call that ends the transaction is made, and what the controller does then changes nothing of
what is committed. -/
theorem finish_eq {call : DriverCall} {error : TransactionError}
    {state : Controller (Store Change)} (transactional : state.txModel ≠ .none)
    (manual : state.autoCommit = false) (inside : state.inTransaction = true) :
    driver.connection.finish call error state =
      (driver.connection.send call state).andThen fun called =>
        (true, driver.connection.endTransaction called) := by
  simp [Connection.finish, Controller.isTransactional, transactional, manual, inside]

/-- The loop in a transaction of its own. -/
def transaction (driver : Driver) (jobs : List (Job Change)) (state : Controller (Store Change)) :
    Answer (Store Change) :=
  let answer := loop driver jobs (driver.connection.begin state).2
  if answer.error then { answer with state := (driver.connection.rollback answer.state).2 }
  else { answer with state := (driver.connection.commit answer.state).2 }

variable (driver) in
theorem transaction_told (jobs : List (Job Change)) (state : Controller (Store Change)) :
    (transaction driver jobs state).told =
        (loop driver jobs (driver.connection.begin state).2).told ∧
      (transaction driver jobs state).carriedOut =
        (loop driver jobs (driver.connection.begin state).2).carriedOut := by
  simp only [transaction]
  split
  · exact ⟨rfl, rfl⟩
  · exact ⟨rfl, rfl⟩

theorem carried_succeeds {jobs : List (Job Change)} {job : Job Change}
    (listed : job ∈ carried jobs) : job.succeeds = true := by
  induction jobs with
  | nil => cases listed
  | cons first jobs ih =>
      simp only [carried] at listed
      split at listed
      · split at listed
        · exact ih listed
        · cases listed
      · split at listed
        · next succeeds =>
            cases listed with
            | head => exact succeeds
            | tail _ listed =>
                split at listed
                · exact ih listed
                · cases listed
        · cases listed

theorem carried_front (jobs : List (Job Change)) :
    carried jobs <+: jobs.filter (·.query ≠ []) := by
  induction jobs with
  | nil => exact List.prefix_rfl
  | cons job jobs ih =>
      simp only [carried]
      by_cases nothing : job.query = []
      · rw [if_pos nothing, List.filter_cons_of_neg (by simp [nothing])]
        split
        · exact ih
        · exact List.nil_prefix
      · rw [if_neg nothing, List.filter_cons_of_pos (by simp [nothing])]
        split
        · apply List.cons_prefix_cons.mpr
          constructor
          · rfl
          · split
            · exact ih
            · exact List.nil_prefix
        · exact List.nil_prefix

theorem finish_settled {call : DriverCall} {error : TransactionError}
    {state : Controller (Store Change)} {committed : List Change}
    (settled : state.db.Settled committed) :
    (driver.connection.finish call error state).2.db.Settled committed := by
  rw [Connection.finish]
  split_ifs
  · exact settled
  · exact settled
  · exact settled
  · apply Connection.andThen_frame
    · exact Driver.call_settled settled
    · intro sent
      exact Connection.endTransaction_frame _ (Driver.keeps_settled committed) sent

/-- The session is in a transaction, or not, and the controller knows. -/
structure Mode (driver : Driver) (inside : Bool) (state : Controller (Store Change)) : Prop where
  transactional : state.txModel ≠ .none
  explicit : state.txModel ≠ .implicit
  native : driver.nativeTransactionModel ≠ .none
  supports : driver.nativeTransactionModel = .implicit → driver.supportsAutoCommit = true
  manual : state.autoCommit = !inside
  inTransaction : state.inTransaction = inside
  eotAutoCommit : inside = true → state.txModel = .explicitDeferred → state.eotAutoCommit = true
  autoCommit : state.db.session.autoCommit =
    !(inside && driver.nativeTransactionModel == .implicit)
  opened : inside = true → driver.nativeTransactionModel ≠ .implicit →
    state.db.session.openTransaction = true
  closed : inside = false → state.db.session.openTransaction = false

theorem Mode.commitsNext {inside : Bool} {state : Controller (Store Change)}
    (mode : Mode driver inside state) :
    state.db.session.commitsNext driver.nativeTransactionModel = !inside := by
  have notNone : (driver.nativeTransactionModel == .none) = false := by simp [mode.native]
  rw [DatabaseSession.commitsNext, notNone, Bool.false_or, mode.autoCommit]
  cases inside with
  | false => simp [mode.closed rfl]
  | true =>
      by_cases implicit : driver.nativeTransactionModel = .implicit
      · simp [implicit]
      · simp [mode.opened rfl implicit]

/-- `begin` begins a transaction if there is none. -/
theorem begin_mode (accepts : ∀ index call, driver.accepts index call = true) {inside : Bool}
    {state : Controller (Store Change)} (mode : Mode driver inside state) :
    (driver.connection.begin state).1 = true ∧
      Mode driver true (driver.connection.begin state).2 := by
  have transactional : state.isTransactional = true := by
    simp [Controller.isTransactional, mode.transactional]
  cases inside with
  | true =>
      simp only [Connection.begin, transactional, mode.manual, Bool.not_true, Bool.not_false,
        Bool.false_eq_true, if_false, if_true]
      exact ⟨trivial, mode⟩
  | false =>
      have eot : ∀ called : Controller (Store Change), (called.setEotAutoCommit true).eotAutoCommit =
          (if called.txModel = .explicitDeferred then true else called.eotAutoCommit) := by
        intro called
        rw [Controller.setEotAutoCommit]
        split <;> rfl
      by_cases implicit : driver.nativeTransactionModel = .implicit
      · have supported : (driver.connection : Connection (Store Change)).supportsAutoCommit =
            true := mode.supports implicit
        have faking : driver.connection.fakingExplicitTransactions state = true := by
          simp [Connection.fakingExplicitTransactions, Driver.connection, implicit, mode.explicit]
        simp only [Connection.begin, transactional, mode.manual, mode.inTransaction, faking,
          supported, Bool.not_true, Bool.not_false, Bool.and_false, Bool.false_eq_true, if_false,
          if_true, Driver.send_accepted (accepts _ _), Outcome.andThen]
        refine ⟨rfl, ?_⟩
        constructor
        all_goals simp +contextual [Controller.beginTransaction, mode.transactional,
          mode.explicit, implicit, mode.supports, Store.call_session, DatabaseSession.call, eot]
      · have faking : driver.connection.fakingExplicitTransactions state = false := by
          simp [Connection.fakingExplicitTransactions, Driver.connection, implicit]
        have able : (driver.connection : Connection (Store Change)).supportsExplicitTransactions =
            true := by
          simp [Connection.supportsExplicitTransactions, Driver.connection, implicit, mode.native]
        simp only [Connection.begin, transactional, mode.manual, mode.inTransaction, faking, able,
          Bool.not_true, Bool.not_false, Bool.false_and, Bool.false_eq_true, if_false, if_true,
          Driver.send_accepted (accepts _ _), Outcome.andThen]
        refine ⟨rfl, ?_⟩
        constructor
        all_goals simp +contextual [Controller.beginTransaction, mode.transactional,
          mode.explicit, implicit, mode.native, mode.autoCommit, Store.call_session, DatabaseSession.call, eot]

/-- The transaction has ended in the database, and the controller follows. -/
theorem endTransaction_mode (accepts : ∀ index call, driver.accepts index call = true)
    {state : Controller (Store Change)} (mode : Mode driver true state) {session : DatabaseSession}
    (autoCommit : session.autoCommit = state.db.session.autoCommit)
    (closed : session.openTransaction = false) (store : Store Change) (needed : Bool) :
    Mode driver false (driver.connection.endTransaction { state with
      db := { store with session }, needsCommitOrRollback := needed }) := by
  have sessionAutoCommit := autoCommit.trans mode.autoCommit
  have notFaking : ∀ after : Controller (Store Change), after.txModel = state.txModel →
      driver.connection.fakingImplicitTransactions after = false := by
    intro after same
    simp [Connection.fakingImplicitTransactions, same, mode.explicit]
  by_cases implicit : driver.nativeTransactionModel = .implicit
  · have supports := mode.supports implicit
    have faking : ∀ after : Controller (Store Change), after.txModel = state.txModel →
        driver.connection.fakingExplicitTransactions after = true := by
      intro after same
      simp [Connection.fakingExplicitTransactions, Driver.connection, implicit, same,
        mode.explicit]
    have supported : (driver.connection : Connection (Store Change)).supportsAutoCommit = true :=
      supports
    by_cases deferred : state.txModel = .explicitDeferred
    · simp only [Connection.endTransaction, deferred, faking, supported,
        mode.eotAutoCommit rfl deferred, if_true, Driver.send_accepted (accepts _ _)]
      constructor
      all_goals simp [implicit, supports, DatabaseSession.call, DatabaseSession.close]
    · simp only [Connection.endTransaction, deferred, faking, notFaking, supported, Bool.or_true,
        Bool.false_eq_true, if_false, if_true, Driver.send_accepted (accepts _ _)]
      constructor
      all_goals simp [mode.transactional, mode.explicit, implicit, supports, DatabaseSession.call,
        DatabaseSession.close]
  · have notFakingExplicit : ∀ after : Controller (Store Change),
        driver.connection.fakingExplicitTransactions after = false := by
      intro after
      simp [Connection.fakingExplicitTransactions, Driver.connection, implicit]
    have able : (driver.connection : Connection (Store Change)).supportsExplicitTransactions =
        true := by
      simp [Connection.supportsExplicitTransactions, Driver.connection, implicit, mode.native]
    have on : session.autoCommit = true := by simp [sessionAutoCommit, implicit]
    by_cases deferred : state.txModel = .explicitDeferred
    · simp only [Connection.endTransaction, deferred, notFakingExplicit,
        mode.eotAutoCommit rfl deferred, Bool.false_eq_true, if_false, if_true]
      constructor
      all_goals simp [implicit, mode.native, on, closed]
    · simp only [Connection.endTransaction, deferred, notFakingExplicit, notFaking, able,
        Bool.true_or, Bool.false_eq_true, if_false, if_true]
      cases supports : driver.supportsAutoCommit with
      | true =>
          have supported : (driver.connection : Connection (Store Change)).supportsAutoCommit =
              true := supports
          simp only [supported, if_true, Driver.send_accepted (accepts _ _)]
          constructor
          all_goals simp [mode.transactional, mode.explicit, implicit, mode.native, on, closed,
            DatabaseSession.call, DatabaseSession.close, apply_ite DatabaseSession.autoCommit,
            apply_ite DatabaseSession.openTransaction]
      | false =>
          have unsupported : (driver.connection : Connection (Store Change)).supportsAutoCommit =
              false := supports
          simp only [unsupported, Bool.false_eq_true, if_false]
          constructor
          all_goals simp [mode.transactional, mode.explicit, implicit, mode.native, on, closed]

/-- A commit or a rollback ends the transaction if there is one. -/
theorem finish_mode (accepts : ∀ index call, driver.accepts index call = true) {inside : Bool}
    {state : Controller (Store Change)} (mode : Mode driver inside state) {call : DriverCall}
    (isEnd : call = .commit ∨ call = .rollback) (error : TransactionError) :
    (driver.connection.finish call error state).1 = true ∧
      Mode driver false (driver.connection.finish call error state).2 := by
  cases inside with
  | false =>
      have transactional : state.isTransactional = true := by
        simp [Controller.isTransactional, mode.transactional]
      simp only [Connection.finish, transactional, mode.manual, Bool.not_true, Bool.not_false,
        Bool.false_eq_true, if_false, if_true]
      exact ⟨trivial, mode⟩
  | true =>
      rw [finish_eq mode.transactional mode.manual mode.inTransaction,
        Driver.send_accepted (accepts _ _), Outcome.andThen, if_pos rfl]
      have closes : state.db.session.call driver.nativeTransactionModel call =
          state.db.session.close := by
        cases isEnd with
        | inl isCommit => simp [isCommit, DatabaseSession.call, mode.native]
        | inr isRollback => simp [isRollback, DatabaseSession.call, mode.native]
      refine ⟨rfl, ?_⟩
      have ended := endTransaction_mode accepts mode
        (rfl : state.db.session.close.autoCommit = state.db.session.autoCommit) rfl
        { state.db.call driver.nativeTransactionModel call with calls := state.db.calls + 1 }
        (driver.flag.after call state.needsCommitOrRollback)
      rw [← closes, ← Store.call_session] at ended
      exact ended

/-- A query that neither begins nor ends a transaction leaves the mode as it is. -/
theorem quiet_mode {inside : Bool} {state : Controller (Store Change)}
    (mode : Mode driver inside state) {job : Job Change} (quiet : job.asks = none)
    (succeeds : job.succeeds = true) :
    (after driver job state).1 = true ∧ Mode driver inside (after driver job state).2 := by
  obtain ⟨needed, isAfter⟩ := after_quiet driver quiet succeeds state
  rw [isAfter]
  refine ⟨rfl, ?_⟩
  have same : (job.effect.on driver.nativeTransactionModel state.db).session = state.db.session ∨
      (inside = true ∧ (job.effect.on driver.nativeTransactionModel state.db).session =
        { state.db.session with openTransaction := true, uncommitted := true }) := by
    cases effect : job.effect with
    | nothing => exact Or.inl rfl
    | transaction call => exact absurd effect ((asks_none quiet).2 call)
    | changes change =>
        have commits := mode.commitsNext
        cases inside with
        | false => simp [Effect.on, Store.change, DatabaseSession.statement, commits]
        | true => simp [Effect.on, Store.change, DatabaseSession.statement, commits]
  constructor
  · exact mode.transactional
  · exact mode.explicit
  · exact mode.native
  · exact mode.supports
  · exact mode.manual
  · exact mode.inTransaction
  · exact mode.eotAutoCommit
  · cases same with
    | inl same => exact (congrArg _ same).trans mode.autoCommit
    | inr opens => exact (congrArg _ opens.2).trans mode.autoCommit
  · intro isInside notImplicit
    cases same with
    | inl same => exact (congrArg _ same).trans (mode.opened isInside notImplicit)
    | inr opens => exact congrArg _ opens.2
  · intro isOutside
    cases same with
    | inl same => exact (congrArg _ same).trans (mode.closed isOutside)
    | inr opens => exact absurd opens.1 (by simp [isOutside])

/-- What a query of such a string keeps. -/
theorem job_mode (accepts : ∀ index call, driver.accepts index call = true) {inside : Bool}
    {state : Controller (Store Change)} (mode : Mode driver inside state) {job : Job Change}
    (known : job.asks ≠ none → job.type = .begin ∨ job.type = .commit ∨ job.type = .rollback)
    (succeeds : job.succeeds = true) :
    (after driver job state).1 = true ∧ ∃ inside, Mode driver inside (after driver job state).2 := by
  cases asks : job.asks with
  | none =>
      have quiet := quiet_mode mode asks succeeds
      exact ⟨quiet.1, inside, quiet.2⟩
  | some call =>
      have applies : ∀ op, interceptedCall job.type = some op →
          after driver job state = driver.connection.apply op state := by
        intro op intercepted
        have isOp : interceptedCall (determineQueryType job.query) = some op := intercepted
        simp [after, executeQuery, isOp]
      have isKnown := known (by simp [asks])
      rcases isKnown with isBegin | isCommit | isRollback
      · rw [applies .begin (by rw [isBegin]; rfl)]
        have begun := begin_mode accepts mode
        exact ⟨begun.1, true, begun.2⟩
      · rw [applies .commit (by rw [isCommit]; rfl)]
        have ended := finish_mode accepts mode (Or.inl rfl) .commitNotInTransactionBlock
        exact ⟨ended.1, false, ended.2⟩
      · rw [applies .rollback (by rw [isRollback]; rfl)]
        have ended := finish_mode accepts mode (Or.inr rfl) .rollbackNotInTransactionBlock
        exact ⟨ended.1, false, ended.2⟩

theorem after_settled {job : Job Change} (unchanged : job.effect.changed = [])
    {state : Controller (Store Change)} {committed : List Change}
    (settled : state.db.Settled committed) :
    (after driver job state).2.db.Settled committed := by
  apply executeQuery_frame _ (Driver.keeps_settled committed) _ settled
  intro store settled
  simp only [Work.reply]
  split
  · cases effect : job.effect with
    | nothing => exact settled
    | changes change => simp [effect, Effect.changed] at unchanged
    | transaction call => exact Store.call_settled settled
  · exact settled

/-- A regular session starts outside of a transaction. -/
theorem Regular.mode {state : Controller (Store Change)} (regular : Regular driver state)
    (outside : Outside driver.nativeTransactionModel state) : Mode driver false state := by
  have commits := outside.commits
  have notNone : (driver.nativeTransactionModel == .none) = false := by
    simp [regular.opens.native]
  simp only [DatabaseSession.commitsNext, notNone, Bool.false_or, Bool.and_eq_true,
    Bool.not_eq_true'] at commits
  constructor
  · exact regular.opens.transactional
  · exact regular.explicit
  · exact regular.opens.native
  · exact fun implicit => (regular.opens.faked implicit).2
  · exact regular.opens.autoCommit
  · exact outside.flag
  · intro inside
    cases inside
  · exact commits.1
  · intro inside
    cases inside
  · exact fun _ => commits.2

/-- Whatever a string says, in the end no transaction is open. -/
theorem Ended.run {jobs : List (Job Change)} {state : Controller (Store Change)}
    (ended : Ended driver state jobs) (outside : Outside driver.nativeTransactionModel state) :
    Mode driver false (transaction driver jobs state).state ∧
      (transaction driver jobs state).told = allTold jobs ∧
      (transaction driver jobs state).carriedOut = (carried jobs).length := by
  have accepts := ended.regular.accepts
  have begun := (begin_mode accepts (ended.regular.mode outside)).2
  have step : ∀ job ∈ carried jobs, ∀ state : Controller (Store Change),
      (∃ inside, Mode driver inside state) →
        (after driver job state).1 = true ∧
          ∃ inside, Mode driver inside (after driver job state).2 := by
    intro job listed state holds
    obtain ⟨inside, mode⟩ := holds
    have kept := List.mem_filter.mp ((carried_front jobs).subset listed)
    exact job_mode accepts mode (ended.known job kept.1 (by simpa using kept.2))
      (carried_succeeds listed)
  obtain ⟨⟨inside, mode⟩, _, told, carriedOut⟩ := loop_keeps driver step ⟨true, begun⟩
  have same := transaction_told driver jobs state
  refine ⟨?_, same.1.trans told, same.2.trans carriedOut⟩
  simp only [transaction]
  split
  · exact (finish_mode accepts mode (Or.inr rfl) _).2
  · exact (finish_mode accepts mode (Or.inl rfl) _).2

theorem Ended.unchanged {jobs : List (Job Change)} {state : Controller (Store Change)}
    (ended : Ended driver state jobs) (outside : Outside driver.nativeTransactionModel state)
    (nothing : changes (carried jobs) = []) :
    (transaction driver jobs state).state.db.committed = state.db.committed := by
  have accepts := ended.regular.accepts
  have begun := (begin_mode accepts (ended.regular.mode outside)).2
  have settled : (driver.connection.begin state).2.db.Settled state.db.committed :=
    Connection.begin_frame _ (Driver.keeps_settled _) ⟨rfl, outside.settled⟩
  have step : ∀ job ∈ carried jobs, ∀ after_ : Controller (Store Change),
      ((∃ inside, Mode driver inside after_) ∧ after_.db.Settled state.db.committed) →
        (after driver job after_).1 = true ∧
          ((∃ inside, Mode driver inside (after driver job after_).2) ∧
            (after driver job after_).2.db.Settled state.db.committed) := by
    intro job listed between holds
    obtain ⟨⟨inside, mode⟩, settled⟩ := holds
    have kept := List.mem_filter.mp ((carried_front jobs).subset listed)
    have ran := job_mode accepts mode (ended.known job kept.1 (by simpa using kept.2))
      (carried_succeeds listed)
    exact ⟨ran.1, ran.2, after_settled (List.flatMap_eq_nil_iff.mp nothing job listed) settled⟩
  have ran := loop_keeps driver step ⟨⟨true, begun⟩, settled⟩
  simp only [transaction]
  split
  · exact (finish_settled ran.1.2).1
  · exact (finish_settled ran.1.2).1

/-! ## The condition -/

namespace Backend

variable {backend : Backend}

end Backend

def fresh : Controller (Store Nat) where
  txModel := .explicit
  autoCommit := true
  inTransaction := false
  eotAutoCommit := false
  needsCommitOrRollback := false
  error := none
  db := ⟨⟨true, false, false⟩, [], [], 0⟩

namespace Backend

end Backend

end SqlRelay.Postgresql
