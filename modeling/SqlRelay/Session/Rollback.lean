import SqlRelay.Foundation.Run
import SqlRelay.Session.EndSession

/-!
# Rollback at the end of a session

A transaction that a client's begin opened and nobody ended is rolled back by
`endSession` before anything can commit it.  Nothing is assumed of the database
but that a successful commit or rollback ends the open transaction.
-/

namespace SqlRelay.Session

open SqlRelay.Foundation SqlRelay.Query SqlRelay.Transaction

variable {Db : Type}

/-- The database under observation: the driver calls made, with their results,
and whether a transaction that a client's begin opened is still open. -/
structure Watched (Db : Type) where
  db : Db
  calls : List (DriverCall × Bool)
  begun : Bool

/-- The driver calls that end a transaction when they succeed.  Whether turning
autocommit on does depends on the database. -/
def endsTransaction (onEnds : Db → Bool) (call : DriverCall) (db : Db) : Bool :=
  match call with
  | .commit | .rollback => true
  | .setAutoCommitOn => onEnds db
  | .begin | .setAutoCommitOff => false

/-- The same connection, under observation. -/
def watch (connection : Connection Db) (onEnds : Db → Bool) : Connection (Watched Db) where
  toCapabilities := connection.toCapabilities
  call := fun call watched =>
    let (ok, db) := connection.call call watched.db
    (ok, {
      db
      calls := watched.calls ++ [(call, ok)]
      begun := watched.begun && !(ok && endsTransaction onEnds call watched.db) })
  flag := connection.flag

/-- A client's query: `ends` says whether it ends the open transaction when it
succeeds. -/
structure ClientQuery (Db : Type) extends Statement Db where
  ends : Db → Bool

/-- The query, under observation. -/
def Statement.watch (statement : Statement Db) (ends : Db → Bool) : Statement (Watched Db) where
  text := statement.text
  run := fun watched =>
    let (ok, db) := statement.run watched.db
    (ok, { watched with db, begun := watched.begun && !(ok && ends watched.db) })

/-- What a client sends in a session. -/
inductive Event (Db : Type) where
  | call (op : Connection.Op)
  | query (query : ClientQuery Db)

namespace Event

/-- The client asks for a transaction to be begun. -/
def isBegin : Event Db → Bool
  | .call op => op == .begin
  | .query sent => determineQueryType sent.text == .begin

def outcome (connection : Connection (Watched Db)) (state : Controller (Watched Db)) :
    Event Db → Outcome (Watched Db)
  | .call op => connection.apply op state
  | .query sent => executeQuery connection (sent.toStatement.watch sent.ends) state

end Event

/-- After a begin: the transaction it has taken the controller into is the
client's. -/
def afterBegin (before : Controller (Watched Db)) (outcome : Outcome (Watched Db)) :
    Controller (Watched Db) :=
  { outcome.2 with db := { outcome.2.db with
      begun := outcome.2.db.begun ||
        (outcome.1 && !before.inTransaction && outcome.2.inTransaction) } }

def Event.step (connection : Connection (Watched Db)) (state : Controller (Watched Db))
    (event : Event Db) : Controller (Watched Db) :=
  if event.isBegin then afterBegin state (event.outcome connection state)
  else (event.outcome connection state).2

/-- The start of a session, observed from there on. -/
def startOfSession (state : Controller Db) : Controller (Watched Db) :=
  initSession { state with db := ⟨state.db, [], false⟩ }

/-- The cleanup, under observation. -/
def Cleanup.watch (cleanup : Cleanup Db) (ends : Db → Bool) : Cleanup (Watched Db) where
  temporaryTableQueries := cleanup.temporaryTableQueries.map (Statement.watch · ends)
  temporaryTables := cleanup.temporaryTables
  sessionEndQueries := cleanup.sessionEndQueries.map (Statement.watch · ends)

/-- The first of the calls that can end a transaction is a rollback. -/
def RollsBackFirst (calls : List (DriverCall × Bool)) : Prop :=
  (calls.find? fun sent => sent.1 != .begin && sent.1 != .setAutoCommitOff).map Prod.fst =
    some .rollback

instance (calls : List (DriverCall × Bool)) : Decidable (RollsBackFirst calls) :=
  inferInstanceAs (Decidable (_ = _))

/-- If a transaction that a client's begin opened is still open, `endSession`
rolls it back first. -/
def EndsSafely (connection : Connection (Watched Db)) (config : SessionConfig)
    (cleanup : Cleanup (Watched Db)) (state : Controller (Watched Db)) : Prop :=
  state.db.begun = true →
    RollsBackFirst (endSession connection config cleanup
      { state with db := { state.db with calls := [] } }).db.calls

instance (connection : Connection (Watched Db)) (config : SessionConfig)
    (cleanup : Cleanup (Watched Db)) (state : Controller (Watched Db)) :
    Decidable (EndsSafely connection config cleanup state) :=
  inferInstanceAs (Decidable (_ → _))

/-- A query in such a transaction that does not end it leaves the flag set. -/
def Event.KeepsFlag (connection : Connection (Watched Db)) (state : Controller (Watched Db)) :
    Event Db → Prop
  | .call _ => True
  | .query sent =>
      interceptedCall (determineQueryType sent.text) = none → state.db.begun = true →
        ((sent.run state.db.db).1 = true → sent.ends state.db.db = false) →
        state.needsCommitOrRollback = true →
          (Event.step connection state (.query sent)).needsCommitOrRollback = true

/-- The condition on a call. -/
def CallKeeps (connection : Connection Db) (onEnds : Db → Bool)
    (state : Controller (Watched Db)) : Connection.Op → Prop
  | .begin =>
      state.autoCommit = true → connection.flag.beginSets = true ∨
        (watch connection onEnds).fakingExplicitTransactions state = true ∨
        (watch connection onEnds).fakingImplicitTransactions state = true ∨
        state.needsCommitOrRollback = true
  | .setAutoCommitOn =>
      state.db.begun = true → connection.supportsAutoCommit = true →
        state.txModel = .explicitError ∨
        (state.txModel = .explicitDeferred ∧ state.eotAutoCommit = true) ∨
        ((connection.call .setAutoCommitOn state.db.db).1 = true → onEnds state.db.db = true)
  | _ => True

/-- The condition on a query that the database runs. -/
def QueryKeeps (sent : ClientQuery Db) (state : Controller (Watched Db)) : Prop :=
  state.db.begun = true → (sent.run state.db.db).1 = true → sent.ends state.db.db = false →
    (state.needsCommitOrRollback = true → queryIsCommitOrRollback sent.text = false) ∧
    determineQueryType sent.text ≠ .setIncludingAutoCommitOn

/-- The condition on a step. -/
def Event.Keeps (connection : Connection Db) (onEnds : Db → Bool)
    (state : Controller (Watched Db)) : Event Db → Prop
  | .call op => CallKeeps connection onEnds state op
  | .query sent =>
      match interceptedCall (determineQueryType sent.text) with
      | some op => CallKeeps connection onEnds state op
      | none => QueryKeeps sent state

/-! ## The invariant -/

/-- While a transaction that a client's begin opened is open, the controller is
in it, and `endSession` will see to it. -/
structure InBegun (connection : Connection (Watched Db)) (state : Controller (Watched Db)) :
    Prop where
  native : connection.nativeTransactionModel ≠ .none
  transactional : state.txModel ≠ .none
  manual : state.autoCommit = false
  inTransaction : state.inTransaction = true
  seen : connection.fakingExplicitTransactions state = true ∨
    connection.fakingImplicitTransactions state = true ∨ state.needsCommitOrRollback = true

def Guarded (connection : Connection (Watched Db)) (state : Controller (Watched Db)) : Prop :=
  state.db.begun = true → InBegun connection state

variable {connection : Connection Db} {onEnds : Db → Bool}

def NotBegun (watched : Watched Db) : Prop := watched.begun = false

/-- No driver call opens such a transaction. -/
theorem watch_keeps_notBegun (call : DriverCall) (watched : Watched Db)
    (_ : (watch connection onEnds).Permitted call) (notBegun : NotBegun watched) :
    NotBegun ((watch connection onEnds).call call watched).2 := by
  simp only [NotBegun] at notBegun ⊢
  simp [watch, notBegun]

theorem guarded_of_notBegun {state : Controller (Watched Db)} (notBegun : NotBegun state.db) :
    Guarded (watch connection onEnds) state := by
  intro begun
  rw [notBegun] at begun
  cases begun

theorem send_succeeded {call : DriverCall} {state : Controller (Watched Db)}
    (ends : endsTransaction onEnds call state.db.db = true)
    (succeeded : ((watch connection onEnds).send call state).1 = true) :
    NotBegun ((watch connection onEnds).send call state).2.db := by
  simp [NotBegun, Connection.send, watch, ends, show (connection.call call state.db.db).1 = true from
    succeeded]

/-- The invariant is about these parts of the state only. -/
theorem Guarded.of_same {before after : Controller (Watched Db)}
    (guarded : Guarded (watch connection onEnds) before)
    (begun : after.db.begun = true → before.db.begun = true)
    (txModel : after.txModel = before.txModel) (autoCommit : after.autoCommit = before.autoCommit)
    (inTransaction : after.inTransaction = before.inTransaction)
    (needed : before.needsCommitOrRollback = true → after.needsCommitOrRollback = true) :
    Guarded (watch connection onEnds) after := by
  intro stillBegun
  have held := guarded (begun stillBegun)
  refine ⟨held.native, txModel ▸ held.transactional, autoCommit ▸ held.manual,
    inTransaction ▸ held.inTransaction, ?_⟩
  simp only [Connection.fakingExplicitTransactions, Connection.fakingImplicitTransactions, txModel]
  exact held.seen.imp_right fun seen => seen.imp_right needed

theorem send_guarded {call : DriverCall} {state : Controller (Watched Db)}
    (kept : state.needsCommitOrRollback = true →
      ((watch connection onEnds).send call state).2.needsCommitOrRollback = true)
    (guarded : Guarded (watch connection onEnds) state) :
    Guarded (watch connection onEnds) ((watch connection onEnds).send call state).2 := by
  refine guarded.of_same (fun begun => ?_) rfl rfl rfl kept
  simp only [Connection.send, watch, Bool.and_eq_true] at begun
  exact begun.1

/-- A call that ends transactions, and what comes after it: either it succeeded
and the transaction is over, or nothing has changed. -/
theorem send_ending {call : DriverCall} {state : Controller (Watched Db)}
    {next : Controller (Watched Db) → Outcome (Watched Db)}
    (ends : ((watch connection onEnds).send call state).1 = true →
      endsTransaction onEnds call state.db.db = true)
    (onwards : ∀ sent : Controller (Watched Db), NotBegun sent.db → NotBegun (next sent).2.db)
    (guarded : Guarded (watch connection onEnds) state) :
    Guarded (watch connection onEnds)
      (((watch connection onEnds).send call state).andThen next).2 := by
  rw [Outcome.andThen]
  split
  · rename_i succeeded
    exact guarded_of_notBegun (onwards _ (send_succeeded (ends succeeded) succeeded))
  · rename_i failed
    refine send_guarded (fun needed => ?_) guarded
    have notOk : ((watch connection onEnds).call call state.db).1 = false := by
      simpa [Connection.send] using failed
    simp [Connection.send, notOk, needed]

theorem endTransaction_notBegun {state : Controller (Watched Db)} (notBegun : NotBegun state.db) :
    NotBegun ((watch connection onEnds).endTransaction state).db :=
  Connection.endTransaction_frame NotBegun watch_keeps_notBegun
    notBegun

/-! ## One call -/

theorem finish_guarded {call : DriverCall} {notInTransaction : TransactionError}
    {state : Controller (Watched Db)} (isEnd : call = .commit ∨ call = .rollback)
    (guarded : Guarded (watch connection onEnds) state) :
    Guarded (watch connection onEnds)
      ((watch connection onEnds).finish call notInTransaction state).2 := by
  have ends : endsTransaction onEnds call state.db.db = true := by
    rcases isEnd with rfl | rfl <;> rfl
  rw [Connection.finish]
  split_ifs
  · exact guarded
  · exact guarded
  · exact guarded.of_same id rfl rfl rfl id
  · exact send_ending (fun _ => ends) (fun _ finished => endTransaction_notBegun finished) guarded

theorem setAutoCommitOn_guarded {state : Controller (Watched Db)}
    (keeps : CallKeeps connection onEnds state .setAutoCommitOn)
    (guarded : Guarded (watch connection onEnds) state) :
    Guarded (watch connection onEnds) ((watch connection onEnds).setAutoCommitOn state).2 := by
  by_cases begun : state.db.begun = true
  · rw [Connection.setAutoCommitOn]
    have held := guarded begun
    split_ifs with isNone idle pending inError supports fakingImplicit explicit
    · simp [Controller.isTransactional] at isNone
      exact absurd isNone held.transactional
    · exact guarded
    · exact guarded
    · exact guarded.of_same id rfl rfl rfl id
    · have ends := (((keeps begun supports).resolve_left inError).resolve_left pending)
      exact send_ending ends (fun sent finished => endTransaction_notBegun (by simpa using finished)) guarded
    · exact send_ending (fun _ => rfl) (fun sent finished => endTransaction_notBegun finished) guarded
    · exact send_ending (fun _ => rfl)
        (fun sent finished => endTransaction_notBegun (by simpa using finished)) guarded
    · exact guarded.of_same id rfl held.manual.symm rfl id
  · rw [Bool.not_eq_true] at begun
    exact guarded_of_notBegun (Connection.setAutoCommitOn_frame NotBegun watch_keeps_notBegun begun)

theorem setAutoCommitOff_guarded {state : Controller (Watched Db)}
    (guarded : Guarded (watch connection onEnds) state) :
    Guarded (watch connection onEnds) ((watch connection onEnds).setAutoCommitOff state).2 := by
  by_cases begun : state.db.begun = true
  · have held := guarded begun
    have busy : (!state.autoCommit || state.inTransaction) = true := by simp [held.manual]
    rw [Connection.setAutoCommitOff]
    split_ifs with isNone inError deferred
    · simp [Controller.isTransactional] at isNone
      exact absurd isNone held.transactional
    · exact guarded.of_same id rfl rfl rfl id
    · refine Connection.andThen_holds (Guarded (watch connection onEnds))
        (send_guarded (fun needed => ?_) guarded) fun sent => sent.of_same id rfl rfl rfl id
      simp [Connection.send, FlagUse.after, needed]
    · exact guarded.of_same id rfl rfl rfl id
    · exact guarded
  · rw [Bool.not_eq_true] at begun
    exact guarded_of_notBegun (Connection.setAutoCommitOff_frame NotBegun watch_keeps_notBegun begun)

/-- A begin that has not taken the controller into a transaction. -/
theorem afterBegin_guarded {before : Controller (Watched Db)} {outcome : Outcome (Watched Db)}
    (stays : (outcome.1 && !before.inTransaction && outcome.2.inTransaction) = false)
    (guarded : Guarded (watch connection onEnds) outcome.2) :
    Guarded (watch connection onEnds) (afterBegin before outcome) :=
  guarded.of_same (fun begun => by simpa [afterBegin, stays] using begun) rfl rfl rfl id

/-- The driver call that begins a transaction, and what comes after it. -/
theorem enter_guarded {call : DriverCall} {state : Controller (Watched Db)}
    (native : connection.nativeTransactionModel ≠ .none) (transactional : state.txModel ≠ .none)
    (seen : (watch connection onEnds).fakingExplicitTransactions state = true ∨
      (watch connection onEnds).fakingImplicitTransactions state = true ∨
      connection.flag.after call state.needsCommitOrRollback = true)
    (guarded : Guarded (watch connection onEnds) state) :
    Guarded (watch connection onEnds) (afterBegin state
      (((watch connection onEnds).send call state).andThen fun called =>
        (called.setEotAutoCommit true).beginTransaction)) := by
  rw [Outcome.andThen]
  split
  · rename_i succeeded
    have ok : ((watch connection onEnds).call call state.db).1 = true := succeeded
    have needed : ((watch connection onEnds).send call state).2.needsCommitOrRollback =
        connection.flag.after call state.needsCommitOrRollback := by
      simp only [Connection.send, ok, if_true]
      rfl
    intro _
    refine ⟨native, ?_, rfl, rfl, ?_⟩
    · simpa [afterBegin, Controller.beginTransaction] using transactional
    · simpa [afterBegin, Controller.beginTransaction, needed,
        Connection.fakingExplicitTransactions, Connection.fakingImplicitTransactions] using seen
  · rename_i failed
    have notOk : ((watch connection onEnds).call call state.db).1 = false := by
      simpa [Connection.send] using failed
    refine afterBegin_guarded (by simp) (send_guarded (fun needed => ?_) guarded)
    simp [Connection.send, notOk, needed]

/-- A begin that opens a transaction leaves it where `endSession` sees it. -/
theorem begin_guarded {state : Controller (Watched Db)}
    (keeps : CallKeeps connection onEnds state .begin)
    (guarded : Guarded (watch connection onEnds) state) :
    Guarded (watch connection onEnds)
      (afterBegin state ((watch connection onEnds).begin state)) := by
  rw [Connection.begin]
  split_ifs with isNone manual inTransaction neither faking supports
  · exact afterBegin_guarded (by simp) guarded
  · exact afterBegin_guarded (by simp) guarded
  · exact afterBegin_guarded rfl (guarded.of_same id rfl rfl rfl id)
  · exact afterBegin_guarded (by simp) guarded
  all_goals
    have model : state.txModel ≠ .none := by simpa [Controller.isTransactional] using isNone
    have auto : state.autoCommit = true := by simpa using manual
  · have native : connection.nativeTransactionModel = .implicit := by
      simp only [Connection.fakingExplicitTransactions, Bool.and_eq_true, beq_iff_eq] at faking
      exact faking.1
    exact enter_guarded (by simp [native]) model (.inl faking) guarded
  · exact afterBegin_guarded rfl guarded
  · have native : connection.nativeTransactionModel ≠ .none := by
      intro isNone
      refine neither ?_
      simp [Connection.supportsExplicitTransactions, Connection.fakingExplicitTransactions, watch,
        isNone]
    refine enter_guarded native model ?_ guarded
    rcases keeps auto with sets | explicit | implicit | needed
    · exact .inr (.inr (by simp [FlagUse.after, sets]))
    · exact .inl explicit
    · exact .inr (.inl implicit)
    · exact .inr (.inr (by simp [FlagUse.after, needed]))

/-- Leaving a model commits first: either the transaction is over, or nothing has
changed. -/
theorem setTransactionModel_guarded {txModel : TransactionModel} {state : Controller (Watched Db)}
    (guarded : Guarded (watch connection onEnds) state) :
    Guarded (watch connection onEnds)
      ((watch connection onEnds).setTransactionModel txModel state).2 := by
  by_cases begun : state.db.begun = true
  · have held := guarded begun
    rw [Connection.setTransactionModel]
    by_cases same : txModel = state.txModel
    · rw [if_pos same]
      exact guarded
    let start : Controller (Watched Db) :=
      { state with txModel := connection.nativeTransactionModel }
    have committed : (watch connection onEnds).commit start =
        ((watch connection onEnds).send .commit start).andThen fun called =>
          (true, (watch connection onEnds).endTransaction called) := by
      have native : connection.nativeTransactionModel ≠ .none := held.native
      simp [Connection.commit, Connection.finish, Controller.isTransactional, start, native,
        held.manual, held.inTransaction]
    have left : (watch connection onEnds).leaveTransactionModel state =
        let left := ((watch connection onEnds).commit start).andThen
          (watch connection onEnds).setAutoCommitOn
        if left.1 then left else (false, { left.2 with txModel := state.txModel }) := by
      rw [Connection.leaveTransactionModel, if_neg held.transactional]
      rfl
    rw [if_neg same]
    by_cases succeeded : ((watch connection onEnds).send .commit start).1 = true
    · have finished := send_succeeded rfl succeeded
      have leftOver : NotBegun ((watch connection onEnds).leaveTransactionModel state).2.db := by
        have both : NotBegun (((watch connection onEnds).commit start).andThen
            (watch connection onEnds).setAutoCommitOn).2.db := by
          rw [committed]
          refine Connection.andThen_holds (fun state => NotBegun state.db) ?_ fun ended =>
            Connection.setAutoCommitOn_frame NotBegun
              watch_keeps_notBegun ended
          exact Connection.andThen_holds (fun state => NotBegun state.db) finished fun sent =>
            endTransaction_notBegun sent
        rw [left]
        dsimp only
        split <;> exact both
      refine guarded_of_notBegun (Connection.andThen_holds (fun state => NotBegun state.db)
        leftOver fun finished => ?_)
      dsimp only
      split
      · exact Connection.setAutoCommitOff_frame NotBegun watch_keeps_notBegun finished
      · exact finished
    · have failed : (watch connection onEnds).leaveTransactionModel state =
          (false, { ((watch connection onEnds).send .commit start).2 with
            txModel := state.txModel }) := by
        have notCommitted : (watch connection onEnds).commit start =
            (false, ((watch connection onEnds).send .commit start).2) := by
          rw [committed, Outcome.andThen, if_neg succeeded]
        rw [left, notCommitted]
        rfl
      rw [failed]
      refine guarded.of_same (fun begun => ?_) rfl rfl rfl fun needed => ?_
      · have sent : ((watch connection onEnds).send .commit start).2.db.begun = true := begun
        simp only [Connection.send, watch, Bool.and_eq_true] at sent
        exact sent.1
      · have notOk : ((watch connection onEnds).call .commit start.db).1 = false := by
          simpa [Connection.send] using succeeded
        have kept : start.needsCommitOrRollback = true := needed
        simp [Outcome.andThen, Connection.send, notOk, kept]
  · rw [Bool.not_eq_true] at begun
    exact guarded_of_notBegun (Connection.setTransactionModel_frame NotBegun watch_keeps_notBegun begun)

/-! ## One step -/

theorem apply_guarded {op : Connection.Op} {state : Controller (Watched Db)}
    (notBegin : op ≠ .begin) (keeps : CallKeeps connection onEnds state op)
    (guarded : Guarded (watch connection onEnds) state) :
    Guarded (watch connection onEnds) ((watch connection onEnds).apply op state).2 := by
  cases op with
  | begin => exact absurd rfl notBegin
  | commit => exact finish_guarded (.inl rfl) guarded
  | rollback => exact finish_guarded (.inr rfl) guarded
  | setAutoCommitOn => exact setAutoCommitOn_guarded keeps guarded
  | setAutoCommitOff => exact setAutoCommitOff_guarded guarded
  | setTransactionModel txModel => exact setTransactionModel_guarded guarded

theorem commitOrRollback_needed {text : List Byte} {state : Controller Db}
    (other : state.needsCommitOrRollback = true → queryIsCommitOrRollback text = false)
    (needed : state.needsCommitOrRollback = true) :
    (commitOrRollback text state).needsCommitOrRollback = true := by
  have notEnd := other needed
  rw [commitOrRollback, notEnd]
  split_ifs <;> first | rfl | exact needed | contradiction

theorem commitOrRollback_guarded {text : List Byte} {state : Controller (Watched Db)}
    (other : state.needsCommitOrRollback = true → queryIsCommitOrRollback text = false)
    (guarded : Guarded (watch connection onEnds) state) :
    Guarded (watch connection onEnds) (commitOrRollback text state) := by
  refine guarded.of_same ?_ ?_ ?_ ?_ (commitOrRollback_needed other)
  all_goals
    rw [commitOrRollback]
    split_ifs <;> first | rfl | exact id

theorem Statement.watch_run (statement : Statement Db) (ends : Db → Bool)
    (watched : Watched Db) :
    (statement.watch ends).run watched =
      ((statement.run watched.db).1, { watched with
        db := (statement.run watched.db).2
        begun := watched.begun && !((statement.run watched.db).1 && ends watched.db) }) := rfl

theorem followAutoCommit_guarded {type : QueryType} {state : Controller (Watched Db)}
    (notSetOn : type ≠ .setIncludingAutoCommitOn)
    (guarded : Guarded (watch connection onEnds) state) :
    Guarded (watch connection onEnds) (followAutoCommit (watch connection onEnds) type state) := by
  unfold followAutoCommit
  split
  · exact absurd rfl notSetOn
  · intro begun
    have held : InBegun (watch connection onEnds) state := by
      refine guarded ?_
      dsimp only at begun
      split at begun <;> exact begun
    simp only [held.inTransaction, Bool.not_true, Bool.false_eq_true, if_false]
    exact ⟨held.native, held.transactional, rfl, rfl, held.seen⟩
  · exact guarded

theorem runQuery_guarded {sent : ClientQuery Db} {state : Controller (Watched Db)}
    (keeps : QueryKeeps sent state) (guarded : Guarded (watch connection onEnds) state) :
    Guarded (watch connection onEnds)
      (runQuery (watch connection onEnds) (sent.toStatement.watch sent.ends) state).2 := by
  have text : (sent.toStatement.watch sent.ends).text = sent.text := rfl
  simp only [runQuery, Statement.watch_run, text]
  split
  · rename_i ok
    by_cases finished : state.db.begun = true ∧ sent.ends state.db.db = false
    · -- the transaction goes on
      obtain ⟨other, notSetOn⟩ := keeps finished.1 ok finished.2
      exact followAutoCommit_guarded notSetOn (commitOrRollback_guarded other
        (guarded.of_same (fun _ => finished.1) rfl rfl rfl id))
    · have ended : NotBegun { state.db with
          db := (sent.run state.db.db).2
          begun := state.db.begun && !((sent.run state.db.db).1 && sent.ends state.db.db) } := by
        cases begun : state.db.begun <;> simp_all [NotBegun]
      exact guarded_of_notBegun (followAutoCommit_frame NotBegun watch_keeps_notBegun
        (by rwa [commitOrRollback_db]))
  · refine guarded.of_same (fun begun => ?_) rfl rfl rfl id
    simp only [Bool.and_eq_true] at begun
    exact begun.1

theorem not_isBegin_of_none {type : QueryType} (notIntercepted : interceptedCall type = none) :
    type ≠ .begin := by
  rintro rfl
  cases notIntercepted

theorem step_guarded {event : Event Db} {state : Controller (Watched Db)}
    (keeps : event.Keeps connection onEnds state)
    (guarded : Guarded (watch connection onEnds) state) :
    Guarded (watch connection onEnds) (event.step (watch connection onEnds) state) := by
  rw [Event.step]
  cases event with
  | call op =>
      split
      · rename_i isBegin
        obtain rfl : op = .begin := by simpa [Event.isBegin] using isBegin
        exact begin_guarded keeps guarded
      · rename_i notBegin
        exact apply_guarded (by simpa [Event.isBegin] using notBegin) keeps guarded
  | query sent =>
      have text : (sent.toStatement.watch sent.ends).text = sent.text := rfl
      simp only [Event.outcome, executeQuery, text, Event.isBegin, Event.Keeps] at keeps ⊢
      cases intercepted : interceptedCall (determineQueryType sent.text) with
      | none =>
          rw [intercepted] at keeps
          have notBegin := not_isBegin_of_none intercepted
          simpa only [beq_iff_eq, notBegin, if_false] using runQuery_guarded keeps guarded
      | some op =>
          rw [intercepted] at keeps
          split
          · rename_i isBegin
            rw [beq_iff_eq] at isBegin
            rw [isBegin] at intercepted
            obtain rfl : Connection.Op.begin = op := by simpa [interceptedCall] using intercepted
            exact begin_guarded keeps guarded
          · rename_i notBegin
            refine apply_guarded ?_ keeps guarded
            rintro rfl
            revert intercepted notBegin
            cases determineQueryType sent.text <;> simp [interceptedCall]

/-- What is left of the calls once the first is a rollback. -/
theorem rollsBackFirst_of_prefix {ok : Bool} {calls : List (DriverCall × Bool)}
    (first : [(DriverCall.rollback, ok)] <+: calls) : RollsBackFirst calls := by
  obtain ⟨later, rfl⟩ := first
  rfl

theorem watch_keeps_prefix (front : List (DriverCall × Bool)) (call : DriverCall)
    (watched : Watched Db) (_ : (watch connection onEnds).Permitted call)
    (holds : front <+: watched.calls) :
    front <+: ((watch connection onEnds).call call watched).2.calls :=
  holds.trans (List.prefix_append _ _)

theorem cleanup_keeps_prefix (front : List (DriverCall × Bool)) (cleanup : Cleanup Db)
    (ends : Db → Bool) (statement : Statement (Watched Db))
    (member : statement ∈ (cleanup.watch ends).temporaryTableQueries ++
      (cleanup.watch ends).sessionEndQueries)
    (watched : Watched Db) (holds : front <+: watched.calls) :
    front <+: (statement.run watched).2.calls := by
  simp only [Cleanup.watch, ← List.map_append, List.mem_map] at member
  obtain ⟨original, -, rfl⟩ := member
  exact holds

/-- Seen by `endSession`, the transaction is rolled back first. -/
theorem endsSafely_of_guarded {config : SessionConfig} {cleanup : Cleanup Db}
    {state : Controller (Watched Db)} (ends : Db → Bool)
    (rollback : config.endOfSessionCommit = false)
    (guarded : Guarded (watch connection onEnds) state) :
    EndsSafely (watch connection onEnds) config (cleanup.watch ends) state := by
  intro begun
  have held := guarded begun
  let start : Controller (Watched Db) := { state with db := { state.db with calls := [] } }
  have ended : endOpenTransaction (watch connection onEnds) config start =
      (((watch connection onEnds).send .rollback start).andThen fun called =>
        (true, (watch connection onEnds).endTransaction called)).2 := by
    have seen : ((watch connection onEnds).fakingExplicitTransactions start ||
        (watch connection onEnds).fakingImplicitTransactions start ||
        (start.isTransactional && start.needsCommitOrRollback)) = true := by
      rcases held.seen with explicit | implicit | needed
      · simp [show (watch connection onEnds).fakingExplicitTransactions start = true from explicit]
      · simp [show (watch connection onEnds).fakingImplicitTransactions start = true from implicit]
      · simp [Controller.isTransactional, start, held.transactional, needed]
    rw [endOpenTransaction, if_pos seen, rollback, if_neg (by simp)]
    simp [Connection.rollback, Connection.finish, Controller.isTransactional, start,
      held.transactional, held.manual, held.inTransaction]
  let first : List (DriverCall × Bool) :=
    [(.rollback, (connection.call .rollback state.db.db).1)]
  have rolledBack : first <+: (endOpenTransaction (watch connection onEnds) config start).db.calls := by
    rw [ended]
    exact Connection.andThen_holds (fun state : Controller (Watched Db) => first <+: state.db.calls) (List.prefix_refl _)
      fun sent => Connection.endTransaction_frame (fun watched : Watched Db => first <+: watched.calls)
        ( watch_keeps_prefix first) sent
  exact rollsBackFirst_of_prefix (cleanUp_frame (fun watched : Watched Db => first <+: watched.calls)
    ( watch_keeps_prefix first) ( cleanup_keeps_prefix first cleanup ends) rolledBack)

/-! ## Whole sessions -/

theorem followAutoCommit_needed {type : QueryType} {state : Controller (Watched Db)}
    (notSetOn : type ≠ .setIncludingAutoCommitOn) :
    (followAutoCommit (watch connection onEnds) type state).needsCommitOrRollback =
      state.needsCommitOrRollback := by
  unfold followAutoCommit
  split
  · exact absurd rfl notSetOn
  · dsimp only
    split <;> rfl
  · rfl

/-- A query step that meets its condition keeps the flag. -/
theorem keepsFlag_of_keeps {event : Event Db} {state : Controller (Watched Db)}
    (keeps : event.Keeps connection onEnds state) :
    event.KeepsFlag (watch connection onEnds) state := by
  cases event with
  | call op => trivial
  | query sent =>
      intro notIntercepted begun goesOn needed
      have text : (sent.toStatement.watch sent.ends).text = sent.text := rfl
      simp only [Event.Keeps, notIntercepted] at keeps
      simp only [Event.step, Event.isBegin, Event.outcome, executeQuery, text, beq_iff_eq,
        not_isBegin_of_none notIntercepted, if_false, notIntercepted, runQuery,
        Statement.watch_run]
      split
      · rename_i ok
        obtain ⟨other, notSetOn⟩ := keeps begun ok (goesOn ok)
        rw [followAutoCommit_needed notSetOn]
        exact commitOrRollback_needed other needed
      · exact needed

/-- For every connection, whatever its driver calls answer, and every session of
calls and queries whose steps meet their conditions: at each point of it, a
transaction that a client's begin opened and that is still open is rolled back
by `endSession` before any commit or autocommit on, and no query in such a
transaction has cleared the flag without ending it. -/
theorem session_endsSafely (connection : Connection Db) (onEnds : Db → Bool)
    (config : SessionConfig) (rollback : config.endOfSessionCommit = false)
    (cleanup : Cleanup Db) (ends : Db → Bool) (state : Controller Db) (events : List (Event Db))
    (keeps : Along (Event.step (watch connection onEnds))
      (fun state event => event.Keeps connection onEnds state) (startOfSession state) events) :
    EndsSafely (watch connection onEnds) config (cleanup.watch ends)
        (events.foldl (Event.step (watch connection onEnds)) (startOfSession state)) ∧
      Along (Event.step (watch connection onEnds))
        (fun state event => event.KeepsFlag (watch connection onEnds) state)
        (startOfSession state) events := by
  have atStart : Guarded (watch connection onEnds) (startOfSession state) :=
    guarded_of_notBegun rfl
  have kept (state : Controller (Watched Db)) (event : Event Db)
      (guarded : Guarded (watch connection onEnds) state)
      (keeps : event.Keeps connection onEnds state) :
      Guarded (watch connection onEnds) (event.step (watch connection onEnds) state) :=
    step_guarded keeps guarded
  have atEnd : Guarded (watch connection onEnds)
      (events.foldl (Event.step (watch connection onEnds)) (startOfSession state)) :=
    Along.invariant kept atStart keeps
  exact ⟨endsSafely_of_guarded ends rollback atEnd, keeps.mono fun _ _ => keepsFlag_of_keeps⟩

/-- A database like postgresql's, whose calls all succeed. -/
def explicitConnection : Connection Unit where
  nativeTransactionModel := .explicit
  supportsAutoCommit := true
  defaultAutoCommit := true
  default_on := fun _ => rfl
  default_off := by simp
  call := fun _ db => (true, db)
  flag := ⟨true, true, true⟩

/-- In the explicit model, with autocommit on. -/
def explicitStart : Controller Unit := ⟨.explicit, true, false, false, false, none, ()⟩

def explicitConfig : SessionConfig := ⟨.explicit, true, false⟩

/-- A query that succeeds and goes on in the transaction. -/
def plainQuery (text : List Byte) : ClientQuery Unit :=
  ⟨⟨text, fun db => (true, db)⟩, fun _ => false⟩

/-- An insert in a client's transaction. -/
theorem session_endsSafely_insert :
    EndsSafely (watch explicitConnection fun _ => true) explicitConfig
      (Cleanup.watch ⟨[], false, []⟩ fun _ => false)
      ([.call .begin, .query (plainQuery (ascii "insert into t values (1)"))].foldl
        (Event.step (watch explicitConnection fun _ => true)) (startOfSession explicitStart)) :=
  (session_endsSafely explicitConnection (fun _ => true) explicitConfig rfl ⟨[], false, []⟩
    (fun _ => false) explicitStart
    [.call .begin, .query (plainQuery (ascii "insert into t values (1)"))]
    ⟨fun _ => .inl rfl, fun _ _ _ => ⟨fun _ => by decide, by decide⟩, trivial⟩).1

/-- `rollback to savepoint s` clears the flag, and `endSession` turns autocommit on
without a rollback. -/
theorem not_session_endsSafely :
    ¬∀ (connection : Connection Unit) (onEnds : Unit → Bool) (config : SessionConfig),
      config.endOfSessionCommit = false → ∀ (state : Controller Unit) (events : List (Event Unit)),
        EndsSafely (watch connection onEnds) config (Cleanup.watch ⟨[], false, []⟩ fun _ => false)
          (events.foldl (Event.step (watch connection onEnds)) (startOfSession state)) := by
  intro every
  have ends := every explicitConnection (fun _ => true) explicitConfig rfl explicitStart
    [.call .begin, .query (plainQuery (ascii "insert into t values (1)")),
      .query (plainQuery (ascii "rollback to savepoint s"))]
  revert ends
  decide

end SqlRelay.Session
