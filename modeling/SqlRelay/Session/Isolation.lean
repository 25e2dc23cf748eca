import SqlRelay.Session.EndSession
import SqlRelay.Transaction.Simulation

/-!
# One session after another

A pooled connection serves one client after the other.  At the end of each
session the transaction model and the autocommit mode are back where they were
configured, and nothing that the session has changed waits for a commit.
-/

namespace SqlRelay.Session

open SqlRelay.Foundation SqlRelay.Query SqlRelay.Transaction

/-! ## Queries -/

/-- What a query does to the database session. -/
inductive Effect where
  | nothing | reads | changes
  deriving DecidableEq, Repr

/-- A query that changes nothing still opens a transaction. -/
def readIn (native : TransactionModel) (session : DatabaseSession) : DatabaseSession :=
  if session.commitsNext native then session else { session with openTransaction := true }

def Effect.on (effect : Effect) (native : TransactionModel) (session : DatabaseSession) :
    DatabaseSession :=
  match effect with
  | .nothing => session
  | .reads => readIn native session
  | .changes => session.statement native

structure SessionQuery where
  text : List Byte
  ok : Bool
  effect : Effect
  deriving DecidableEq, Repr

/-- A query that fails has no effect. -/
def SessionQuery.statement (query : SessionQuery) (native : TransactionModel) :
    Statement DatabaseSession where
  text := query.text
  run := fun session => if query.ok then (true, query.effect.on native session)
    else (false, session)

/-- A query that is what it looks like: what the database runs does not end the
transaction or set autocommit, and what changes something is not a plain select. -/
def SessionQuery.Plain (query : SessionQuery) : Prop :=
  query.ok = true →
    determineQueryType query.text ≠ .setIncludingAutoCommitOn ∧
    determineQueryType query.text ≠ .setIncludingAutoCommitOff ∧
    queryIsCommitOrRollback query.text = false ∧
    (query.effect = .changes →
      queryIsNotSelect query.text = true ∨ hasForUpdate query.text = true)

/-- The queries that `endSession` runs.  There are some for temporary tables only
if there are temporary tables. -/
structure SessionCleanup where
  temporaryTableQueries : List SessionQuery
  temporaryTables : Bool
  sessionEndQueries : List SessionQuery
  noTables : temporaryTables = false → temporaryTableQueries = []

def SessionCleanup.cleanup (cleanup : SessionCleanup) (native : TransactionModel) :
    Cleanup DatabaseSession where
  temporaryTableQueries := cleanup.temporaryTableQueries.map (·.statement native)
  temporaryTables := cleanup.temporaryTables
  sessionEndQueries := cleanup.sessionEndQueries.map (·.statement native)

/-- Where the autocommit mode is off, what the session-end queries change stays
uncommitted. -/
structure SessionCleanup.Plain (cleanup : SessionCleanup) (config : SessionConfig) : Prop where
  sent : ∀ query ∈ cleanup.temporaryTableQueries ++ cleanup.sessionEndQueries,
    query.Plain ∧ interceptedCall (determineQueryType query.text) = none
  reads : config.initialAutoCommit = false →
    ∀ query ∈ cleanup.sessionEndQueries, query.effect ≠ .changes

/-! ## Sessions -/

/-- What happens on the connection. -/
inductive SessionEvent where
  | call (op : Connection.Op)
  | query (query : SessionQuery)
  | endOfSession (cleanup : SessionCleanup)

namespace SessionEvent

/-- After a session has ended, the next one starts. -/
def step (connection : Connection DatabaseSession) (config : SessionConfig)
    (state : Controller DatabaseSession) : SessionEvent → Controller DatabaseSession
  | .call op => (connection.apply op state).2
  | .query sent =>
      (executeQuery connection (sent.statement connection.nativeTransactionModel) state).2
  | .endOfSession cleanup =>
      initSession (endSession connection config
        (cleanup.cleanup connection.nativeTransactionModel) state)

end SessionEvent

/-- The transaction state is the configured one. -/
structure Restored (native : TransactionModel) (config : SessionConfig)
    (state : Controller DatabaseSession) : Prop where
  txModel : state.txModel = config.initialTxModel
  autoCommit : state.autoCommit = config.initialAutoCommit
  agrees : Agrees native state
  closed : config.initialAutoCommit = true → state.db.openTransaction = false
  committed : state.db.uncommitted = false

/-- The end of a session restores the transaction state, and the next session
starts with the needs-commit-or-rollback flag down. -/
def SessionEvent.Shows (connection : Connection DatabaseSession) (config : SessionConfig)
    (state : Controller DatabaseSession) : SessionEvent → Prop
  | .endOfSession cleanup =>
      let native := connection.nativeTransactionModel
      Restored native config (endSession connection config (cleanup.cleanup native) state) ∧
        (SessionEvent.step connection config state
          (.endOfSession cleanup)).needsCommitOrRollback = false
  | _ => True

/-! ## The conditions -/

/-- `logIn` itself reaches the configured autocommit mode, with the flags in
agreement with the database. -/
def LogInReaches (capabilities : Capabilities) (flag : FlagUse) (config : SessionConfig) : Prop :=
  LogInKeeps capabilities config.initialTxModel config.initialAutoCommit ∧
    ((capabilities.connection flag).logIn config.initialAutoCommit
      (capabilities.fresh config.initialTxModel)).autoCommit = config.initialAutoCommit

/-- `endSession` commits or rolls back. -/
def endsTransactionFirst (connection : Connection DatabaseSession)
    (state : Controller DatabaseSession) : Bool :=
  connection.fakingExplicitTransactions state || connection.fakingImplicitTransactions state ||
    (state.isTransactional && state.needsCommitOrRollback)

/-- A transaction that `endSession` has not ended is ended by the reset: in the
configured model by turning autocommit on, in another one by leaving it. -/
def ResetKeeps (capabilities : Capabilities) (config : SessionConfig)
    (state : Controller DatabaseSession) : Prop :=
  state.autoCommit = false →
    if config.initialTxModel = state.txModel then
      config.initialAutoCommit = true → state.txModel ≠ .explicitError ∧
        (state.txModel = .explicitDeferred → state.eotAutoCommit = false) ∧
        OnKeeps capabilities state
    else SetModelKeeps capabilities config.initialTxModel state

/-- The condition on a session's end. -/
def EndKeeps (capabilities : Capabilities) (flag : FlagUse) (config : SessionConfig)
    (cleanup : SessionCleanup) (state : Controller DatabaseSession) : Prop :=
  cleanup.Plain config ∧
    if endsTransactionFirst (capabilities.connection flag) state = true ∨
        cleanup.temporaryTables = true then
      FinishKeeps capabilities state
    else ResetKeeps capabilities config state

/-- The condition on a step. -/
def SessionEvent.Keeps (capabilities : Capabilities) (flag : FlagUse) (config : SessionConfig)
    (state : Controller DatabaseSession) : SessionEvent → Prop
  | .call op => OpKeeps capabilities state op
  | .query sent =>
      match interceptedCall (determineQueryType sent.text) with
      | some op => OpKeeps capabilities state op
      | none => sent.Plain
  | .endOfSession cleanup => EndKeeps capabilities flag config cleanup state

variable {capabilities : Capabilities} {flag : FlagUse} {config : SessionConfig}

/-! ## Calls -/

/-- A change that is not committed yet is known of. -/
def Marked (state : Controller DatabaseSession) : Prop :=
  state.db.uncommitted = true → state.needsCommitOrRollback = true

theorem marked_of_committed {state : Controller DatabaseSession}
    (committed : state.db.uncommitted = false) : Marked state := by
  simp [Marked, committed]

/-- Without a change there is nothing to commit, whatever is called. -/
theorem apply_committed (op : Connection.Op) {state : Controller DatabaseSession}
    (committed : state.db.uncommitted = false) :
    ((capabilities.connection flag).apply op state).2.db.uncommitted = false :=
  Connection.apply_frame (fun session : DatabaseSession => session.uncommitted = false)
    (fun _ _ _ clean => call_committed clean) committed

theorem leaveTransactionModel_committed {state : Controller DatabaseSession}
    (tracks : Tracks capabilities state) (manual : state.autoCommit = false) :
    ((capabilities.connection flag).leaveTransactionModel state).2.db.uncommitted = false := by
  obtain ⟨native, model⟩ := tracks.transactional manual
  let clean : DatabaseSession → Prop := fun session => session.uncommitted = false
  have keeps (call : DriverCall) (session : DatabaseSession)
      (_ : (capabilities.connection flag).Permitted call) (committed : clean session) :
      clean ((capabilities.connection flag).call call session).2 := call_committed committed
  have committed : clean ((capabilities.connection flag).commit
      { state with txModel := capabilities.nativeTransactionModel }).2.db := by
    simp only [Connection.commit, Connection.finish, Controller.isTransactional, manual,
      tracks.inTransaction, bne, beq_false_of_ne native, Bool.not_true, Bool.not_false,
      Bool.false_eq_true, if_false]
    exact Connection.andThen_frame (by simp [clean, DatabaseSession.call, native])
      fun sent => Connection.endTransaction_frame clean keeps sent
  have left : clean (((capabilities.connection flag).commit { state with
      txModel := capabilities.nativeTransactionModel }).andThen
        (capabilities.connection flag).setAutoCommitOn).2.db :=
    Connection.andThen_frame committed (Connection.setAutoCommitOn_frame clean keeps)
  simp only [Connection.leaveTransactionModel, model, if_false]
  split_ifs <;> exact left

theorem setTransactionModel_marked {txModel : TransactionModel}
    {state : Controller DatabaseSession} (tracks : Tracks capabilities state)
    (manual : state.autoCommit = false) (marked : Marked state) :
    Marked ((capabilities.connection flag).setTransactionModel txModel state).2 := by
  rw [Connection.setTransactionModel]
  split
  · exact marked
  · apply marked_of_committed
    let clean : DatabaseSession → Prop := fun session => session.uncommitted = false
    have left : clean ((capabilities.connection flag).leaveTransactionModel state).2.db :=
      leaveTransactionModel_committed tracks manual
    refine Connection.andThen_frame left fun left => ?_
    dsimp only
    split
    · exact Connection.setAutoCommitOff_frame clean (fun _ _ _ kept => call_committed kept) left
    · exact left

theorem apply_marked {op : Connection.Op} {state : Controller DatabaseSession}
    (tracks : Tracks capabilities state) (keeps : OpKeeps capabilities state op)
    (marked : Marked state) : Marked ((capabilities.connection flag).apply op state).2 := by
  cases manual : state.autoCommit with
  | true => exact marked_of_committed (apply_committed op (tracks.committed manual))
  | false =>
      obtain ⟨native, model⟩ := tracks.transactional manual
      cases op with
      | begin =>
          simpa [Connection.apply, Connection.begin, Controller.isTransactional, model, manual]
            using marked
      | commit => exact marked_of_committed (finish_committed (.inl rfl) tracks)
      | rollback => exact marked_of_committed (finish_committed (.inr rfl) tracks)
      | setAutoCommitOn =>
          rcases setAutoCommitOn_cases flag tracks with ⟨-, on⟩ | ⟨-, -, db, needed⟩
          · exact marked_of_committed ((setAutoCommitOn_tracks tracks keeps).committed on)
          · show Marked ((capabilities.connection flag).setAutoCommitOn state).2
            rw [Marked, db, needed]
            exact marked
      | setAutoCommitOff =>
          simp only [Connection.apply, Connection.setAutoCommitOff, manual, Bool.not_false,
            Bool.true_or, if_true]
          split_ifs
          · exact marked
          · exact marked
          · simpa [Outcome.andThen, DatabaseSession.call, native, Marked, FlagUse.after]
              using marked
          · simpa [Outcome.andThen, Marked] using marked
          · exact marked
      | setTransactionModel txModel => exact setTransactionModel_marked tracks manual marked

/-! ## Queries that are what they look like -/

@[simp] theorem on_autoCommit (effect : Effect) (native : TransactionModel)
    (session : DatabaseSession) : (effect.on native session).autoCommit = session.autoCommit := by
  cases effect with
  | nothing => rfl
  | reads =>
      simp only [Effect.on, readIn]
      split <;> rfl
  | changes => exact statement_autoCommit native session

@[simp] theorem on_commitsNext (effect : Effect) (native : TransactionModel)
    (session : DatabaseSession) :
    (effect.on native session).commitsNext native = session.commitsNext native := by
  cases effect with
  | nothing => rfl
  | reads =>
      simp only [Effect.on, readIn]
      split_ifs with commitsNext
      · rfl
      · simp only [DatabaseSession.commitsNext, Bool.or_eq_true, not_or, Bool.not_eq_true]
          at commitsNext ⊢
        simp [commitsNext.1, commitsNext.2]
  | changes => exact statement_commitsNext native session

theorem on_reachable {effect : Effect} {session : DatabaseSession}
    (reachable : session.Reachable capabilities) :
    (effect.on capabilities.nativeTransactionModel session).Reachable capabilities := by
  cases effect with
  | nothing => exact reachable
  | reads =>
      -- a change would open the transaction just the same
      have changed := reachable.statement
      simp only [Effect.on, readIn]
      simp only [DatabaseSession.statement] at changed
      split_ifs at changed ⊢ with commitsNext
      · exact reachable
      · exact ⟨by simp, changed.fixed, changed.none_closed, changed.implicit_closed⟩
  | changes => exact reachable.statement

theorem on_uncommitted {effect : Effect} {native : TransactionModel} {session : DatabaseSession}
    (changed : (effect.on native session).uncommitted = true) :
    session.uncommitted = true ∨ (effect = .changes ∧ session.commitsNext native = false) := by
  cases effect with
  | nothing => exact .inl changed
  | reads =>
      simp only [Effect.on, readIn] at changed
      split at changed <;> exact .inl changed
  | changes =>
      simp only [Effect.on, DatabaseSession.statement] at changed
      split_ifs at changed with commitsNext
      · exact .inl changed
      · exact .inr ⟨rfl, by simpa using commitsNext⟩

/-- What such a query leaves alone. -/
structure Follows (before after : Controller DatabaseSession) : Prop where
  txModel : after.txModel = before.txModel
  autoCommit : after.autoCommit = before.autoCommit
  inTransaction : after.inTransaction = before.inTransaction
  eotAutoCommit : after.eotAutoCommit = before.eotAutoCommit
  mode : after.db.autoCommit = before.db.autoCommit

theorem Follows.refl (state : Controller DatabaseSession) : Follows state state :=
  ⟨rfl, rfl, rfl, rfl, rfl⟩

theorem Follows.trans {first second third : Controller DatabaseSession}
    (front : Follows first second) (back : Follows second third) : Follows first third :=
  ⟨back.txModel.trans front.txModel, back.autoCommit.trans front.autoCommit,
    back.inTransaction.trans front.inTransaction, back.eotAutoCommit.trans front.eotAutoCommit,
    back.mode.trans front.mode⟩

theorem Follows.startedByBegin {before after : Controller DatabaseSession}
    (follows : Follows before after) : after.startedByBegin = before.startedByBegin := by
  rw [Controller.startedByBegin, follows.inTransaction, follows.mode, Controller.startedByBegin]

theorem Follows.finishKeeps {before after : Controller DatabaseSession}
    (follows : Follows before after) (keeps : FinishKeeps capabilities before) :
    FinishKeeps capabilities after := by
  rw [FinishKeeps, follows.txModel, follows.startedByBegin]
  exact keeps

theorem Follows.resetKeeps {before after : Controller DatabaseSession}
    (follows : Follows before after) (keeps : ResetKeeps capabilities config before) :
    ResetKeeps capabilities config after := by
  simp only [ResetKeeps, OnKeeps, SetModelKeeps, follows.txModel, follows.autoCommit,
    follows.eotAutoCommit, follows.startedByBegin]
  exact keeps

theorem commitOrRollback_plain {text : List Byte} {state : Controller DatabaseSession}
    (plain : queryIsCommitOrRollback text = false) :
    commitOrRollback text state = { state with
      needsCommitOrRollback := state.needsCommitOrRollback ||
        (state.isTransactional &&
          (queryIsNotSelect text || (!state.autoCommit && hasForUpdate text))) } := by
  rw [commitOrRollback, plain]
  split_ifs with transactional _ notSelect forUpdate
  · contradiction
  · simp [transactional, notSelect]
  · simp only [Bool.not_eq_true] at notSelect
    simp [transactional, notSelect, forUpdate]
  · simp only [Bool.not_eq_true] at notSelect forUpdate
    simp [notSelect, forUpdate]
  · simp only [Bool.not_eq_true] at transactional
    simp [transactional]

theorem followAutoCommit_plain {type : QueryType} {state : Controller DatabaseSession}
    (notOn : type ≠ .setIncludingAutoCommitOn) (notOff : type ≠ .setIncludingAutoCommitOff) :
    followAutoCommit (capabilities.connection flag) type state = state := by
  unfold followAutoCommit
  split
  · exact absurd rfl notOn
  · exact absurd rfl notOff
  · rfl

/-- A plain query keeps the flags in agreement and marks what it changes. -/
theorem runQuery_plain (flag : FlagUse) {query : SessionQuery} {state : Controller DatabaseSession}
    (plain : query.Plain) (tracks : Tracks capabilities state) (marked : Marked state) :
    let after := (runQuery (capabilities.connection flag)
      (query.statement capabilities.nativeTransactionModel) state).2
    Tracks capabilities after ∧ Marked after ∧ Follows state after ∧
      (query.effect ≠ .changes → state.db.uncommitted = false →
        after.db.uncommitted = false) := by
  cases ok : query.ok with
  | false =>
      simp only [runQuery, SessionQuery.statement, ok, Bool.false_eq_true, if_false]
      exact ⟨tracks, marked, Follows.refl state, fun _ clean => clean⟩
  | true =>
      obtain ⟨notOn, notOff, notEnd, changes⟩ := plain ok
      simp only [runQuery, SessionQuery.statement, ok, if_true, followAutoCommit_plain notOn notOff,
        commitOrRollback_plain notEnd]
      refine ⟨?_, fun changed => ?_, ⟨rfl, rfl, rfl, rfl, on_autoCommit _ _ _⟩,
        fun reads clean => ?_⟩
      · exact tracks.withSession (on_reachable tracks.reachable) (on_autoCommit _ _ _)
          (on_commitsNext _ _ _) _
      · rcases on_uncommitted changed with before | ⟨isChange, transaction⟩
        · simp [marked before]
        · have manual : state.autoCommit = false := tracks.agrees.1.trans transaction
          have model := (tracks.transactional manual).2
          rcases changes isChange with notSelect | forUpdate
          · simp [Controller.isTransactional, model, notSelect]
          · simp [Controller.isTransactional, model, manual, forUpdate]
      · by_contra changed
        rcases on_uncommitted (by simpa using changed) with before | ⟨isChange, -⟩
        · rw [clean] at before
          cases before
        · exact reads isChange

theorem runQueries_plain (flag : FlagUse) {queries : List SessionQuery} {state : Controller DatabaseSession}
    (plain : ∀ query ∈ queries,
      query.Plain ∧ interceptedCall (determineQueryType query.text) = none)
    (tracks : Tracks capabilities state) (marked : Marked state) :
    let after := runQueries (capabilities.connection flag)
      (queries.map (·.statement capabilities.nativeTransactionModel)) state
    Tracks capabilities after ∧ Marked after ∧ Follows state after ∧
      ((∀ query ∈ queries, query.effect ≠ .changes) → state.db.uncommitted = false →
        after.db.uncommitted = false) := by
  induction queries generalizing state with
  | nil => exact ⟨tracks, marked, Follows.refl state, fun _ clean => clean⟩
  | cons query rest ih =>
      obtain ⟨isPlain, notIntercepted⟩ := plain query List.mem_cons_self
      obtain ⟨tracked, known, follows, reads⟩ :=
        runQuery_plain flag isPlain tracks marked
      obtain ⟨trackedRest, knownRest, followsRest, readsRest⟩ :=
        ih (fun other member => plain other (List.mem_cons_of_mem _ member)) tracked known
      have first : (executeQuery (capabilities.connection flag)
          (query.statement capabilities.nativeTransactionModel) state).2 =
          (runQuery (capabilities.connection flag)
            (query.statement capabilities.nativeTransactionModel) state).2 := by
        simp only [executeQuery, SessionQuery.statement, notIntercepted]
      simp only [List.map_cons, runQueries, List.foldl_cons, first]
      refine ⟨trackedRest, knownRest, follows.trans followsRest, fun allRead clean => ?_⟩
      exact readsRest (fun other member => allRead other (List.mem_cons_of_mem _ member))
        (reads (allRead query List.mem_cons_self) clean)

/-! ## The end of a session -/

/-- What a configuration that `logIn` reaches says about the database. -/
structure Configured (capabilities : Capabilities) (config : SessionConfig) : Prop where
  settable : config.initialAutoCommit = true → capabilities.nativeTransactionModel = .implicit →
    capabilities.supportsAutoCommit = true
  transactional : config.initialAutoCommit = false → capabilities.nativeTransactionModel ≠ .none
  model : config.initialAutoCommit = false → config.initialTxModel ≠ .none

/-- After a commit or rollback, the transaction that goes on was not started by a
begin, unless the model is the deferred one. -/
theorem finish_notBegun {call : DriverCall} {notInTransaction : TransactionError}
    {state : Controller DatabaseSession} (isEnd : call = .commit ∨ call = .rollback)
    (tracks : Tracks capabilities state) (keeps : FinishKeeps capabilities state)
    (native : capabilities.nativeTransactionModel ≠ .implicit)
    (supports : capabilities.supportsAutoCommit = true)
    (notDeferred : state.txModel ≠ .explicitDeferred) :
    ((capabilities.connection flag).finish call notInTransaction state).2.startedByBegin =
      false := by
  cases manual : state.autoCommit with
  | true =>
      rw [finish_unchanged manual]
      simp [Controller.startedByBegin, tracks.inTransaction, manual]
  | false =>
      have isTransactional := (tracks.transactional manual).1
      rw [finish_eq isEnd tracks manual]
      dsimp only
      by_cases isImplicit : state.txModel = .implicit
      · have mode : state.db.autoCommit = false := by
          simpa [Controller.startedByBegin, tracks.inTransaction, manual]
            using keeps.2 native supports isImplicit
        simp [Controller.startedByBegin, Connection.endTransaction, isImplicit, native, supports,
          Connection.fakingImplicitTransactions, manual, mode]
      · simp [Controller.startedByBegin, endTransaction_autoCommit isTransactional, notDeferred,
          isImplicit]

/-- After a commit or rollback that keeps track, the next one does too, and so does
the reset. -/
theorem finish_keeps {call : DriverCall} {notInTransaction : TransactionError}
    {state : Controller DatabaseSession} (isEnd : call = .commit ∨ call = .rollback)
    (can : Configured capabilities config) (tracks : Tracks capabilities state)
    (keeps : FinishKeeps capabilities state) :
    let after := ((capabilities.connection flag).finish call notInTransaction state).2
    FinishKeeps capabilities after ∧ ResetKeeps capabilities config after := by
  intro after
  have model : after.txModel = state.txModel := Connection.finish_txModel _ _ _
  have tracked : Tracks capabilities after := finish_tracks isEnd tracks keeps
  have notBegun (native : capabilities.nativeTransactionModel ≠ .implicit)
      (supports : capabilities.supportsAutoCommit = true)
      (notDeferred : after.txModel ≠ .explicitDeferred) : after.startedByBegin = false :=
    finish_notBegun isEnd tracks keeps native supports (model ▸ notDeferred)
  refine ⟨⟨by simpa only [model] using keeps.1, fun native supports isImplicit => ?_⟩, ?_⟩
  · exact notBegun native supports (by simp [isImplicit])
  intro manual
  have own (isDeferred : capabilities.nativeTransactionModel = .explicitDeferred)
      (supports : capabilities.supportsAutoCommit = true) (begun : after.startedByBegin = true) :
      after.txModel = .explicitDeferred := by
    by_contra notDeferred
    rw [notBegun (by simp [isDeferred]) supports notDeferred] at begun
    cases begun
  split
  · intro on
    refine ⟨fun isError => ?_, fun deferred => ?_, fun isImplicit fixed => ?_,
      fun isDeferred supports begun => .inl (own isDeferred supports begun)⟩
    · cases before : state.autoCommit with
      | true => simp [after, finish_unchanged before, before] at manual
      | false =>
          rw [model] at isError
          simp [after, finish_eq isEnd tracks before,
            endTransaction_autoCommit (tracks.transactional before).1, isError] at manual
    · cases before : state.autoCommit with
      | true => simp [after, finish_unchanged before, before] at manual
      | false =>
          rw [model] at deferred
          simp [after, finish_eq isEnd tracks before, endTransaction_eotAutoCommit, deferred]
    · rw [can.settable on isImplicit] at fixed
      cases fixed
  · refine .inr ⟨fun isNone => absurd isNone (tracked.transactional manual).1,
      fun isDeferred supports begun => .inl (own isDeferred supports begun)⟩

theorem endOpenTransaction_eq (capabilities : Capabilities) (flag : FlagUse)
    (config : SessionConfig) (state : Controller DatabaseSession) :
    ∃ call notInTransaction, (call = DriverCall.commit ∨ call = DriverCall.rollback) ∧
      endOpenTransaction (capabilities.connection flag) config state =
        if endsTransactionFirst (capabilities.connection flag) state then
          ((capabilities.connection flag).finish call notInTransaction state).2
        else state := by
  cases commits : config.endOfSessionCommit with
  | true =>
      refine ⟨.commit, .commitNotInTransactionBlock, .inl rfl, ?_⟩
      simp only [endOpenTransaction, commits, if_true]
      rfl
  | false =>
      refine ⟨.rollback, .rollbackNotInTransactionBlock, .inr rfl, ?_⟩
      simp only [endOpenTransaction, commits, Bool.false_eq_true, if_false]
      rfl

/-- What is passed over has changed nothing. -/
theorem committed_of_not_endsTransactionFirst {state : Controller DatabaseSession}
    (tracks : Tracks capabilities state) (marked : Marked state)
    (passed : ¬endsTransactionFirst (capabilities.connection flag) state = true) :
    state.db.uncommitted = false := by
  cases manual : state.autoCommit with
  | true => exact tracks.committed manual
  | false =>
      by_contra changed
      have needed := marked (by simpa using changed)
      have model := (tracks.transactional manual).2
      simp [endsTransactionFirst, Controller.isTransactional, model, needed] at passed

/-! ### The reset -/

theorem onKeeps_of_autoCommit {state : Controller DatabaseSession}
    (tracks : Tracks capabilities state) (auto : state.autoCommit = true) :
    OnKeeps capabilities state := by
  constructor
  · intro isImplicit fixed
    have mode := tracks.fixed_autoCommit fixed
    rw [tracks.implicit_autoCommit isImplicit, auto, isImplicit] at mode
    cases mode
  · intro _ _ begun
    simp [Controller.startedByBegin, tracks.inTransaction, auto] at begun

theorem setAutoCommitOff_manual {state : Controller DatabaseSession}
    (tracks : Tracks capabilities state) (model : state.txModel ≠ .none) :
    ((capabilities.connection flag).setAutoCommitOff state).2.autoCommit = false := by
  have transactional : state.isTransactional = true := by
    simp [Controller.isTransactional, model]
  have manual (running : (!state.autoCommit || state.inTransaction) = true) :
      state.autoCommit = false := by
    simpa [tracks.inTransaction] using running
  rw [Connection.setAutoCommitOff, transactional]
  simp only [Bool.not_true, Bool.false_eq_true, if_false]
  split_ifs with running
  · exact manual running
  · exact manual running
  · exact manual running
  · exact manual running
  all_goals rfl

/-- Where the database turns autocommit off itself, what follows was not started
by a begin. -/
theorem setAutoCommitOff_notBegun {state : Controller DatabaseSession}
    (native : capabilities.nativeTransactionModel ≠ .none) (model : state.txModel ≠ .none)
    (supports : capabilities.supportsAutoCommit = true) (auto : state.autoCommit = true)
    (outside : state.inTransaction = false) :
    ((capabilities.connection flag).setAutoCommitOff state).2.startedByBegin = false := by
  simp [Connection.setAutoCommitOff, Controller.isTransactional, model, auto, outside, supports,
    Outcome.andThen, Controller.startedByBegin, Controller.beginTransaction,
    DatabaseSession.call, native]

/-- Unless the database cannot be put in autocommit, the current model can be
left. -/
theorem leaveTransactionModel_succeeds (flag : FlagUse) {state : Controller DatabaseSession}
    (tracks : Tracks capabilities state)
    (settable : capabilities.nativeTransactionModel = .implicit →
      capabilities.supportsAutoCommit = true) :
    ∃ left, (capabilities.connection flag).leaveTransactionModel state = (true, left) ∧
      left.autoCommit = true ∧ left.inTransaction = false := by
  by_cases begun : capabilities.nativeTransactionModel = .explicitDeferred ∧
      capabilities.supportsAutoCommit = true ∧ state.startedByBegin = true ∧
      state.txModel ≠ .explicitDeferred
  · obtain ⟨isDeferred, supports, started, notDeferred⟩ := begun
    obtain ⟨left, result, auto, outside, -⟩ :=
      leaveTransactionModel_begun flag tracks isDeferred supports started notDeferred
    exact ⟨left, result, auto, outside⟩
  · obtain ⟨left, result, kept, auto⟩ := leaveTransactionModel_tracks flag tracks settable
      fun isDeferred supports started => by
        by_contra notDeferred
        exact begun ⟨isDeferred, supports, started, notDeferred⟩
    exact ⟨left, result, auto, by simp [kept.inTransaction, auto]⟩

theorem setTransactionModel_txModel (flag : FlagUse) {txModel : TransactionModel}
    {state : Controller DatabaseSession} (tracks : Tracks capabilities state)
    (settable : txModel ≠ state.txModel → capabilities.nativeTransactionModel = .implicit →
      capabilities.supportsAutoCommit = true) :
    ((capabilities.connection flag).setTransactionModel txModel state).2.txModel = txModel := by
  by_cases same : txModel = state.txModel
  · rw [Connection.setTransactionModel, if_pos same]
    exact same.symm
  · obtain ⟨left, result, -, -⟩ := leaveTransactionModel_succeeds flag tracks (settable same)
    rw [setTransactionModel_eq same result]
    split
    · exact Connection.setAutoCommitOff_txModel _
    · rfl

/-- Back in the configured model, autocommit can be turned on if it has to be. -/
theorem setTransactionModel_resets (flag : FlagUse) {state : Controller DatabaseSession}
    (tracks : Tracks capabilities state)
    (stuck : capabilities.nativeTransactionModel = .implicit →
      capabilities.supportsAutoCommit = false → state.txModel = config.initialTxModel)
    (native : capabilities.nativeTransactionModel ≠ .none)
    (keeps : ResetKeeps capabilities config state) :
    let after := ((capabilities.connection flag).setTransactionModel config.initialTxModel state).2
    Tracks capabilities after ∧ after.txModel = config.initialTxModel ∧
      ResetKeeps capabilities config after := by
  intro after
  by_cases same : config.initialTxModel = state.txModel
  · have unchanged : after = state := by
      simp [after, Connection.setTransactionModel, same]
    rw [unchanged]
    exact ⟨tracks, same.symm, keeps⟩
  have settable : capabilities.nativeTransactionModel = .implicit →
      capabilities.supportsAutoCommit = true := by
    intro isImplicit
    by_contra fixed
    exact same (stuck isImplicit (by simpa using fixed)).symm
  have sets : SetModelKeeps capabilities config.initialTxModel state := by
    cases manual : state.autoCommit with
    | true =>
        refine .inr ⟨fun isNone => absurd isNone native, fun _ _ begun => ?_⟩
        simp [Controller.startedByBegin, tracks.inTransaction, manual] at begun
    | false =>
        have reset := keeps manual
        rwa [if_neg same] at reset
  have model : after.txModel = config.initialTxModel :=
    setTransactionModel_txModel flag tracks fun _ => settable
  refine ⟨setTransactionModel_tracks tracks sets, model, fun manual => ?_⟩
  rw [if_pos model.symm, model]
  intro on
  obtain ⟨left, result, auto, outside⟩ := leaveTransactionModel_succeeds flag tracks settable
  let switched : Controller DatabaseSession := { left with txModel := config.initialTxModel }
  have eq : after = (if config.initialTxModel = .implicit then
      (capabilities.connection flag).setAutoCommitOff switched else (true, switched)).2 := by
    rw [← setTransactionModel_eq same result]
  by_cases isImplicit : config.initialTxModel = .implicit
  · have transactional : switched.txModel ≠ .none := by simp [switched, isImplicit]
    have notBegun (supports : capabilities.supportsAutoCommit = true) :
        ((capabilities.connection flag).setAutoCommitOff switched).2.startedByBegin = false :=
      setAutoCommitOff_notBegun native transactional supports auto outside
    rw [if_pos isImplicit] at eq
    refine ⟨by simp [isImplicit], by simp [isImplicit], fun _ _ => .inl (model.trans isImplicit),
      fun _ supports begun => ?_⟩
    rw [eq, notBegun supports] at begun
    cases begun
  · rw [eq, if_neg isImplicit] at manual
    rw [show left.autoCommit = false from manual] at auto
    cases auto

theorem call_none (call : DriverCall) (session : DatabaseSession) :
    session.call .none call = session := by
  simp [DatabaseSession.call]

/-- A database without transactions is in autocommit whatever the model. -/
theorem reset_none (flag : FlagUse) (config : SessionConfig) {state : Controller DatabaseSession}
    (isNone : capabilities.nativeTransactionModel = .none)
    (tracks : Tracks capabilities state) :
    Tracks capabilities ((capabilities.connection flag).setAutoCommitOn
      ((capabilities.connection flag).setTransactionModel config.initialTxModel state).2).2 := by
  by_cases special : config.initialTxModel = .implicit ∧ config.initialTxModel ≠ state.txModel
  · -- implicit transactions are faked until autocommit is on again
    obtain ⟨isImplicit, changes⟩ := special
    obtain ⟨left, result, kept, auto⟩ := leaveTransactionModel_tracks flag tracks
      (by simp [isNone]) (by simp [isNone])
    have outside : left.inTransaction = false := by simp [kept.inTransaction, auto]
    have eq : ((capabilities.connection flag).setAutoCommitOn
        ((capabilities.connection flag).setTransactionModel config.initialTxModel state).2).2 =
        { left with txModel := config.initialTxModel, needsCommitOrRollback := false } := by
      rw [setTransactionModel_eq changes result, if_pos isImplicit]
      cases supports : capabilities.supportsAutoCommit <;>
        simp [isImplicit, Connection.setAutoCommitOff, Connection.setAutoCommitOn,
          Controller.isTransactional, auto, outside, supports, Outcome.andThen,
          Controller.beginTransaction, Connection.fakingImplicitTransactions, isNone,
          Connection.endTransaction, call_none, Controller.setEotAutoCommit]
    have switched := kept.withModel auto config.initialTxModel
    rw [eq]
    exact switched.withSession kept.reachable rfl rfl false
  · have sets : SetModelKeeps capabilities config.initialTxModel state := by
      by_cases same : config.initialTxModel = state.txModel
      · exact .inl same
      · exact .inr ⟨fun _ isImplicit => special ⟨isImplicit, same⟩, by simp [isNone]⟩
    have tracked : Tracks capabilities
        ((capabilities.connection flag).setTransactionModel config.initialTxModel state).2 :=
      setTransactionModel_tracks tracks sets
    refine setAutoCommitOn_tracks tracked (onKeeps_of_autoCommit tracked ?_)
    rw [tracked.agrees.1, isNone]
    rfl

/-- The reset sets the configured transaction model. -/
theorem reset_txModel (flag : FlagUse) {state : Controller DatabaseSession}
    (tracks : Tracks capabilities state)
    (stuck : capabilities.nativeTransactionModel = .implicit →
      capabilities.supportsAutoCommit = false → state.txModel = config.initialTxModel) :
    ((capabilities.connection flag).setTransactionModel config.initialTxModel state).2.txModel =
      config.initialTxModel := by
  apply setTransactionModel_txModel flag tracks
  intro changes isImplicit
  by_contra fixed
  exact changes (stuck isImplicit (by simpa using fixed)).symm

/-- Where autocommit is configured, it is on after the reset. -/
theorem reset_autoCommit (flag : FlagUse) {state : Controller DatabaseSession}
    (can : Configured capabilities config) (tracks : Tracks capabilities state)
    (stuck : capabilities.nativeTransactionModel = .implicit →
      capabilities.supportsAutoCommit = false → state.txModel = config.initialTxModel)
    (keeps : ResetKeeps capabilities config state) (on : config.initialAutoCommit = true) :
    let after := ((capabilities.connection flag).setAutoCommitOn
      ((capabilities.connection flag).setTransactionModel config.initialTxModel state).2).2
    Tracks capabilities after ∧ after.autoCommit = true := by
  have model := reset_txModel flag tracks stuck
  by_cases isNone : capabilities.nativeTransactionModel = .none
  · have tracked := reset_none flag config isNone tracks
    refine ⟨tracked, ?_⟩
    rw [tracked.agrees.1, isNone]
    rfl
  · obtain ⟨tracked, -, reset⟩ := setTransactionModel_resets flag tracks stuck isNone keeps
    have onKeeps : OnKeeps capabilities ((capabilities.connection flag).setTransactionModel
        config.initialTxModel state).2 := by
      by_cases auto : ((capabilities.connection flag).setTransactionModel
          config.initialTxModel state).2.autoCommit = true
      · exact onKeeps_of_autoCommit tracked auto
      · have manual := reset (by simpa using auto)
        rw [if_pos model.symm] at manual
        exact (manual on).2.2
    refine ⟨setAutoCommitOn_tracks tracked onKeeps, ?_⟩
    rcases setAutoCommitOn_cases flag tracked with ⟨-, reached⟩ | ⟨manual, why, -, -⟩
    · exact reached
    · have resets := reset manual
      rw [if_pos model.symm] at resets
      obtain ⟨notError, notPending, -⟩ := resets on
      rcases why with ⟨deferred, pending⟩ | isError | ⟨isImplicit, fixed⟩
      · rw [notPending deferred] at pending
        cases pending
      · exact absurd isError notError
      · rw [can.settable on isImplicit] at fixed
        cases fixed

/-- The reset leads back to the configured transaction model and autocommit. -/
theorem reset_restores (flag : FlagUse) {state : Controller DatabaseSession}
    (can : Configured capabilities config) (tracks : Tracks capabilities state)
    (stuck : capabilities.nativeTransactionModel = .implicit →
      capabilities.supportsAutoCommit = false → state.txModel = config.initialTxModel)
    (keeps : ResetKeeps capabilities config state)
    (clean : config.initialAutoCommit = false → state.db.uncommitted = false) :
    let after := ((capabilities.connection flag).setAutoCommit config.initialAutoCommit
      ((capabilities.connection flag).setTransactionModel config.initialTxModel state).2).2
    Tracks capabilities after ∧
      Restored capabilities.nativeTransactionModel config after := by
  intro after
  have model := reset_txModel flag tracks stuck
  cases on : config.initialAutoCommit with
  | true =>
      have eq : after = ((capabilities.connection flag).setAutoCommitOn
          ((capabilities.connection flag).setTransactionModel
            config.initialTxModel state).2).2 := by
        simp [after, Connection.setAutoCommit, on]
      have afterModel : after.txModel = config.initialTxModel := by
        rw [eq, Connection.setAutoCommitOn_txModel, model]
      have reached : Tracks capabilities after ∧ after.autoCommit = true := by
        rw [eq]
        exact reset_autoCommit flag can tracks stuck keeps on
      obtain ⟨tracked, auto⟩ := reached
      refine ⟨tracked, afterModel, by rw [auto, on], tracked.agrees, fun _ => ?_,
        tracked.committed auto⟩
      by_cases isNone : capabilities.nativeTransactionModel = .none
      · exact tracked.reachable.none_closed isNone
      · exact (tracked.idle auto isNone).2
  | false =>
      have native := can.transactional on
      obtain ⟨tracked, -, -⟩ := setTransactionModel_resets flag tracks stuck native keeps
      have eq : after = ((capabilities.connection flag).setAutoCommitOff
          ((capabilities.connection flag).setTransactionModel
            config.initialTxModel state).2).2 := by
        simp [after, Connection.setAutoCommit, on]
      have trackedAfter : Tracks capabilities after := by
        rw [eq]
        exact setAutoCommitOff_tracks tracked fun isNone => absurd isNone native
      have notNone : ((capabilities.connection flag).setTransactionModel
          config.initialTxModel state).2.txModel ≠ .none := by
        rw [model]
        exact can.model on
      refine ⟨trackedAfter, ?_, ?_, trackedAfter.agrees, fun isOn => ?_, ?_⟩
      · rw [eq, Connection.setAutoCommitOff_txModel, model]
      · rw [eq, setAutoCommitOff_manual tracked notNone, on]
      · rw [on] at isOn
        cases isOn
      · have left : ((capabilities.connection flag).setTransactionModel
            config.initialTxModel state).2.db.uncommitted = false :=
          apply_committed (.setTransactionModel config.initialTxModel) (clean on)
        rw [eq]
        exact apply_committed .setAutoCommitOff left

/-! ### The whole end of a session -/

/-- The temporary tables are gone, and the configured queries have run. -/
theorem cleanUp_restores {state : Controller DatabaseSession} {cleanup : SessionCleanup}
    (can : Configured capabilities config) (plain : cleanup.Plain config)
    (tracks : Tracks capabilities state)
    (stuck : capabilities.nativeTransactionModel = .implicit →
      capabilities.supportsAutoCommit = false → state.txModel = config.initialTxModel)
    (committed : state.db.uncommitted = false)
    (finish : cleanup.temporaryTables = true → FinishKeeps capabilities state)
    (reset : cleanup.temporaryTables = false → ResetKeeps capabilities config state) :
    let after := cleanUp (capabilities.connection flag) config
      (cleanup.cleanup capabilities.nativeTransactionModel) state
    Tracks capabilities after ∧ Restored capabilities.nativeTransactionModel config after := by
  obtain ⟨truncated, marked, follows, -⟩ := runQueries_plain flag
    (fun query member => plain.sent query (List.mem_append_left _ member)) tracks
    (marked_of_committed committed)
  have dropped : ∃ dropped, dropped = (if cleanup.temporaryTables then
        ((capabilities.connection flag).commit (runQueries (capabilities.connection flag)
          (cleanup.temporaryTableQueries.map
            (·.statement capabilities.nativeTransactionModel)) state)).2
      else runQueries (capabilities.connection flag)
        (cleanup.temporaryTableQueries.map
          (·.statement capabilities.nativeTransactionModel)) state) ∧
      Tracks capabilities dropped ∧ dropped.txModel = state.txModel ∧
      dropped.db.uncommitted = false ∧ ResetKeeps capabilities config dropped := by
    refine ⟨_, rfl, ?_⟩
    cases tables : cleanup.temporaryTables with
    | true =>
        have keeps := follows.finishKeeps (finish tables)
        simp only [if_true]
        exact ⟨finish_tracks (.inl rfl) truncated keeps,
          (Connection.finish_txModel _ _ _).trans follows.txModel,
          finish_committed (.inl rfl) truncated, (finish_keeps (.inl rfl) can truncated keeps).2⟩
    | false =>
        simp only [Bool.false_eq_true, if_false, cleanup.noTables tables, List.map_nil, runQueries,
          List.foldl_nil]
        exact ⟨tracks, trivial, committed, reset tables⟩
  obtain ⟨dropped, isDropped, tracked, model, clean, resets⟩ := dropped
  obtain ⟨queried, -, followsEnd, reads⟩ := runQueries_plain flag
    (fun query member => plain.sent query (List.mem_append_right _ member)) tracked
    (marked_of_committed clean)
  intro after
  have eq : after = ((capabilities.connection flag).setAutoCommit config.initialAutoCommit
      ((capabilities.connection flag).setTransactionModel config.initialTxModel
        (runQueries (capabilities.connection flag) (cleanup.sessionEndQueries.map
          (·.statement capabilities.nativeTransactionModel)) dropped)).2).2 := by
    rw [isDropped]
    rfl
  rw [eq]
  refine reset_restores flag can queried (fun isImplicit fixed => ?_)
    (followsEnd.resetKeeps resets) fun off => reads (plain.reads off) clean
  rw [followsEnd.txModel, model]
  exact stuck isImplicit fixed

theorem endSession_restores {state : Controller DatabaseSession} {cleanup : SessionCleanup}
    (can : Configured capabilities config) (tracks : Tracks capabilities state)
    (marked : Marked state)
    (stuck : capabilities.nativeTransactionModel = .implicit →
      capabilities.supportsAutoCommit = false → state.txModel = config.initialTxModel)
    (keeps : EndKeeps capabilities flag config cleanup state) :
    let after := endSession (capabilities.connection flag) config
      (cleanup.cleanup capabilities.nativeTransactionModel) state
    Tracks capabilities after ∧ Restored capabilities.nativeTransactionModel config after := by
  obtain ⟨plain, keeps⟩ := keeps
  obtain ⟨call, notInTransaction, isEnd, ended⟩ :=
    endOpenTransaction_eq capabilities flag config state
  simp only [endSession, ended]
  by_cases first : endsTransactionFirst (capabilities.connection flag) state = true
  · rw [if_pos (.inl first)] at keeps
    rw [if_pos first]
    obtain ⟨again, resets⟩ := finish_keeps isEnd can tracks keeps
    refine cleanUp_restores can plain (finish_tracks isEnd tracks keeps) ?_
      (finish_committed isEnd tracks) (fun _ => again) fun _ => resets
    rwa [Connection.finish_txModel]
  · rw [if_neg first]
    refine cleanUp_restores can plain tracks stuck
      (committed_of_not_endsTransactionFirst tracks marked first) (fun tables => ?_)
      fun noTables => ?_
    · rwa [if_pos (.inr tables)] at keeps
    · rwa [if_neg (by simp [first, noTables])] at keeps

/-! ## Whole runs -/

/-- The invariant of a run. -/
structure InSession (capabilities : Capabilities) (config : SessionConfig)
    (state : Controller DatabaseSession) : Prop where
  tracks : Tracks capabilities state
  marked : Marked state
  stuck : capabilities.nativeTransactionModel = .implicit →
    capabilities.supportsAutoCommit = false → state.txModel = config.initialTxModel

/-- Only a change of the model changes the model, and not where autocommit cannot be
turned on. -/
theorem apply_txModel {op : Connection.Op} {state : Controller DatabaseSession}
    (tracks : Tracks capabilities state)
    (isImplicit : capabilities.nativeTransactionModel = .implicit)
    (fixed : capabilities.supportsAutoCommit = false) :
    ((capabilities.connection flag).apply op state).2.txModel = state.txModel := by
  cases op with
  | begin => exact Connection.begin_txModel state
  | commit => exact Connection.finish_txModel _ _ state
  | rollback => exact Connection.finish_txModel _ _ state
  | setAutoCommitOn => exact Connection.setAutoCommitOn_txModel state
  | setAutoCommitOff => exact Connection.setAutoCommitOff_txModel state
  | setTransactionModel txModel =>
      simp only [Connection.apply, Connection.setTransactionModel]
      split
      · rfl
      · simp [leaveTransactionModel_fixed tracks isImplicit fixed, Outcome.andThen]

theorem apply_inSession {op : Connection.Op} {state : Controller DatabaseSession}
    (inSession : InSession capabilities config state) (keeps : OpKeeps capabilities state op) :
    InSession capabilities config ((capabilities.connection flag).apply op state).2 := by
  refine ⟨apply_tracks inSession.tracks keeps, apply_marked inSession.tracks keeps inSession.marked,
    fun isImplicit fixed => ?_⟩
  rw [apply_txModel inSession.tracks isImplicit fixed]
  exact inSession.stuck isImplicit fixed

theorem step_inSession {event : SessionEvent} {state : Controller DatabaseSession}
    (can : Configured capabilities config) (inSession : InSession capabilities config state)
    (keeps : event.Keeps capabilities flag config state) :
    InSession capabilities config
      (event.step (capabilities.connection flag) config state) := by
  cases event with
  | call op => exact apply_inSession inSession keeps
  | query sent =>
      simp only [SessionEvent.Keeps] at keeps
      simp only [SessionEvent.step, executeQuery, SessionQuery.statement]
      cases intercepted : interceptedCall (determineQueryType sent.text) with
      | some op =>
          rw [intercepted] at keeps
          exact apply_inSession inSession keeps
      | none =>
          rw [intercepted] at keeps
          obtain ⟨tracked, known, follows, -⟩ :=
            runQuery_plain flag keeps inSession.tracks inSession.marked
          refine ⟨tracked, known, fun isImplicit fixed => ?_⟩
          exact follows.txModel.trans (inSession.stuck isImplicit fixed)
  | endOfSession cleanup =>
      obtain ⟨tracked, restored⟩ := endSession_restores can inSession.tracks inSession.marked
        inSession.stuck keeps
      exact ⟨tracked.withSession tracked.reachable rfl rfl false,
        marked_of_committed restored.committed, fun _ _ => restored.txModel⟩

theorem step_shows {event : SessionEvent} {state : Controller DatabaseSession}
    (can : Configured capabilities config) (inSession : InSession capabilities config state)
    (keeps : event.Keeps capabilities flag config state) :
    event.Shows (capabilities.connection flag) config state := by
  cases event with
  | call op => trivial
  | query sent => trivial
  | endOfSession cleanup =>
      exact ⟨(endSession_restores can inSession.tracks inSession.marked inSession.stuck keeps).2,
        rfl⟩

theorem logIn_txModel (initialAutoCommit : Bool) (state : Controller DatabaseSession) :
    ((capabilities.connection flag).logIn initialAutoCommit state).txModel = state.txModel := by
  simp only [Connection.logIn, Connection.setAutoCommit]
  split
  · exact Connection.setAutoCommitOn_txModel _
  · exact Connection.setAutoCommitOff_txModel _

theorem logIn_inSession (reachesNone : config.initialTxModel = .none →
      config.initialAutoCommit = true)
    (reaches : LogInReaches capabilities flag config) :
    Configured capabilities config ∧
      InSession capabilities config ((capabilities.connection flag).logIn
        config.initialAutoCommit (capabilities.fresh config.initialTxModel)) := by
  obtain ⟨keeps, reached⟩ := reaches
  have tracks : Tracks capabilities ((capabilities.connection flag).logIn
      config.initialAutoCommit (capabilities.fresh config.initialTxModel)) :=
    (logIn_iff reachesNone).2 keeps
  refine ⟨⟨fun on isImplicit => ?_, fun off => ?_, fun off isNone => ?_⟩, tracks, ?_,
    fun _ _ => logIn_txModel _ _⟩
  · by_contra fixed
    have mode := tracks.fixed_autoCommit (by simpa using fixed)
    rw [tracks.implicit_autoCommit isImplicit, reached, on, isImplicit] at mode
    cases mode
  · have manual := keeps.2
    rwa [off, if_neg (by simp)] at manual
  · rw [reachesNone isNone] at off
    cases off
  · apply marked_of_committed
    exact Connection.setAutoCommit_frame (fun session : DatabaseSession =>
      session.uncommitted = false) (fun _ _ _ clean => call_committed clean) rfl

/-- For every connection, every configuration that login reaches and every run of
calls, queries and ends of sessions whose steps meet their conditions: each
session leaves the connection in the configured transaction model and autocommit
mode, with nothing of its own uncommitted, and the next one starts with the
needs-commit-or-rollback flag down. -/
theorem sessions_restore (capabilities : Capabilities) (flag : FlagUse)
    (txModel : TransactionModel) (autoCommit endOfSessionCommit : Bool)
    (events : List SessionEvent) :
    let config : SessionConfig :=
      ⟨txModel, initialAutoCommit txModel autoCommit, endOfSessionCommit⟩
    let connection := capabilities.connection flag
    let start := connection.logIn config.initialAutoCommit (capabilities.fresh txModel)
    LogInReaches capabilities flag config →
      Along (SessionEvent.step connection config)
        (fun state event => event.Keeps capabilities flag config state) start events →
      Along (SessionEvent.step connection config)
        (fun state event => event.Shows connection config state) start events := by
  intro config connection start reaches keeps
  have reachesNone : config.initialTxModel = .none → config.initialAutoCommit = true := by
    intro isNone
    simp [config, initialAutoCommit, show txModel = .none from isNone]
  obtain ⟨can, inSession⟩ := logIn_inSession reachesNone reaches
  exact Along.of_guard (fun _ _ inSession keeps => step_inSession can inSession keeps)
    (fun _ _ inSession keeps => step_shows can inSession keeps) inSession keeps

theorem explicit_default_off :
    TransactionModel.explicit = .implicit → true = false → true = false := by
  simp

/-- A database like postgresql's. -/
def explicitCapabilities : Capabilities where
  nativeTransactionModel := .explicit
  supportsAutoCommit := true
  defaultAutoCommit := true
  default_on := fun _ => rfl
  default_off := explicit_default_off

def insertQuery : SessionQuery := ⟨ascii "insert into t values (1)", true, .changes⟩

def noCleanup : SessionCleanup := ⟨[], false, [], fun _ => rfl⟩

theorem noCleanup_plain (config : SessionConfig) : noCleanup.Plain config :=
  ⟨by simp [noCleanup], by simp [noCleanup]⟩

/-- An insert in a transaction that nobody ends, and the next session. -/
theorem sessions_restore_insert :
    Along (SessionEvent.step (explicitCapabilities.connection ⟨true, true, true⟩)
        ⟨.explicit, true, false⟩)
      (fun state event =>
        event.Shows (explicitCapabilities.connection ⟨true, true, true⟩) ⟨.explicit, true, false⟩
          state)
      ((explicitCapabilities.connection ⟨true, true, true⟩).logIn true
        (explicitCapabilities.fresh .explicit))
      [.call .begin, .query insertQuery, .endOfSession noCleanup] := by
  refine sessions_restore explicitCapabilities ⟨true, true, true⟩ .explicit true false
    [.call .begin, .query insertQuery, .endOfSession noCleanup]
    ⟨⟨by simp, by simp [explicitCapabilities]⟩, by decide⟩
    ⟨trivial, ?_, ⟨noCleanup_plain _, ?_⟩, trivial⟩
  · exact fun _ => ⟨by decide, by decide, by decide, fun _ => .inl (by decide)⟩
  · rw [if_pos (.inl (by decide))]
    exact ⟨by simp [explicitCapabilities], fun _ _ isImplicit => by cases isImplicit⟩

/-- An insert in autocommit leaves the needs-commit-or-rollback flag up: `rollback`
has nothing to do there, and it is `initSession` that clears the flag. -/
theorem not_sessions_restore :
    ¬∀ (capabilities : Capabilities) (flag : FlagUse) (txModel : TransactionModel)
      (autoCommit endOfSessionCommit : Bool) (events : List SessionEvent),
      let config : SessionConfig :=
        ⟨txModel, initialAutoCommit txModel autoCommit, endOfSessionCommit⟩
      let connection := capabilities.connection flag
      let start := connection.logIn config.initialAutoCommit (capabilities.fresh txModel)
      let after := endSession connection config
        (noCleanup.cleanup capabilities.nativeTransactionModel)
        (events.foldl (SessionEvent.step connection config) start)
      Restored capabilities.nativeTransactionModel config after ∧
        after.needsCommitOrRollback = false := by
  intro every
  have needed := (every explicitCapabilities ⟨true, true, true⟩ .explicit true false
    [.query insertQuery]).2
  revert needed
  decide

end SqlRelay.Session
