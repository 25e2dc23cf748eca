import SqlRelay.Foundation.Run
import SqlRelay.Transaction.Steps

/-!
# The controller follows the database session

The controller's flags against the database session they are about, over whole
runs: after login and after every sequence of calls and statements.
-/

namespace SqlRelay.Transaction

open SqlRelay.Foundation Connection

variable {capabilities : Capabilities} {flag : FlagUse}

/-- The condition on a call. -/
def OpKeeps (capabilities : Capabilities) (state : Controller DatabaseSession) : Op → Prop
  | .begin => True
  | .commit | .rollback => FinishKeeps capabilities state
  | .setAutoCommitOn => OnKeeps capabilities state
  | .setAutoCommitOff => OffKeeps capabilities state
  | .setTransactionModel txModel => SetModelKeeps capabilities txModel state

theorem finish_succeeds {call : DriverCall} {notInTransaction : TransactionError}
    {state : Controller DatabaseSession} (isEnd : call = .commit ∨ call = .rollback)
    (tracks : Tracks capabilities state) :
    ((capabilities.connection flag).finish call notInTransaction state).1 = true := by
  cases manual : state.autoCommit with
  | true => rw [finish_unchanged manual]
  | false => rw [finish_eq isEnd tracks manual]

theorem apply_agrees_iff {op : Op} {state : Controller DatabaseSession}
    (tracks : Tracks capabilities state) :
    (((capabilities.connection flag).apply op state).1 = true →
        Agrees capabilities.nativeTransactionModel
          ((capabilities.connection flag).apply op state).2) ↔
      OpKeeps capabilities state op := by
  cases op with
  | begin => exact iff_of_true (fun _ => (begin_tracks tracks).agrees) trivial
  | commit =>
      exact (forall_prop_of_true (finish_succeeds (.inl rfl) tracks)).trans
        (finish_agrees_iff (.inl rfl) tracks)
  | rollback =>
      exact (forall_prop_of_true (finish_succeeds (.inr rfl) tracks)).trans
        (finish_agrees_iff (.inr rfl) tracks)
  | setAutoCommitOn => exact setAutoCommitOn_agrees_iff tracks
  | setAutoCommitOff => exact setAutoCommitOff_agrees_iff tracks
  | setTransactionModel txModel => exact setTransactionModel_agrees_iff tracks

theorem apply_tracks {op : Op} {state : Controller DatabaseSession}
    (tracks : Tracks capabilities state) (keeps : OpKeeps capabilities state op) :
    Tracks capabilities ((capabilities.connection flag).apply op state).2 := by
  cases op with
  | begin => exact begin_tracks tracks
  | commit => exact finish_tracks (.inl rfl) tracks keeps
  | rollback => exact finish_tracks (.inr rfl) tracks keeps
  | setAutoCommitOn => exact setAutoCommitOn_tracks tracks keeps
  | setAutoCommitOff => exact setAutoCommitOff_tracks tracks keeps
  | setTransactionModel txModel => exact setTransactionModel_tracks tracks keeps

theorem call_committed {native : TransactionModel} {call : DriverCall}
    {session : DatabaseSession} (clean : session.uncommitted = false) :
    (session.call native call).uncommitted = false := by
  unfold DatabaseSession.call
  split
  · exact clean
  · cases call with
    | begin => dsimp only; split_ifs <;> exact clean
    | commit | rollback => rfl
    | setAutoCommitOn => dsimp only; split_ifs <;> first | exact clean | rfl
    | setAutoCommitOff => exact clean

theorem finish_committed {call : DriverCall} {notInTransaction : TransactionError}
    {state : Controller DatabaseSession} (isEnd : call = .commit ∨ call = .rollback)
    (tracks : Tracks capabilities state) :
    ((capabilities.connection flag).finish call notInTransaction state).2.db.uncommitted =
      false := by
  cases manual : state.autoCommit with
  | true =>
      rw [finish_unchanged manual]
      exact tracks.committed manual
  | false =>
      rw [finish_eq isEnd tracks manual]
      exact endTransaction_frame (fun session : DatabaseSession => session.uncommitted = false)
        (fun _ _ _ clean => call_committed clean) rfl

/-- What happens in a session: a call on the controller, or a statement that
goes to the database. -/
inductive Event where
  | call (op : Op)
  | statement
  deriving DecidableEq, Repr

namespace Event

def step (connection : Connection DatabaseSession) (state : Controller DatabaseSession) :
    Event → Controller DatabaseSession
  | .call op => (connection.apply op state).2
  | .statement => { state with db := state.db.statement connection.nativeTransactionModel }

/-- After a call that returns true the flags agree with the session, and a commit
that returns true has left nothing uncommitted. -/
def Shows (connection : Connection DatabaseSession) (state : Controller DatabaseSession) :
    Event → Prop
  | .call op =>
      (connection.apply op state).1 = true →
        Agrees connection.nativeTransactionModel (connection.apply op state).2 ∧
          (op = .commit → (connection.apply op state).2.db.uncommitted = false)
  | .statement => True

instance (connection : Connection DatabaseSession) (state : Controller DatabaseSession)
    (event : Event) : Decidable (event.Shows connection state) :=
  match event with
  | .call _ => inferInstanceAs (Decidable (_ → _))
  | .statement => isTrue trivial

/-- The condition on a step. -/
def Keeps (capabilities : Capabilities) (state : Controller DatabaseSession) : Event → Prop
  | .call op => OpKeeps capabilities state op
  | .statement => True

end Event

@[simp] theorem statement_autoCommit (native : TransactionModel) (session : DatabaseSession) :
    (session.statement native).autoCommit = session.autoCommit := by
  rw [DatabaseSession.statement]
  split <;> rfl

@[simp] theorem statement_commitsNext (native : TransactionModel) (session : DatabaseSession) :
    (session.statement native).commitsNext native = session.commitsNext native := by
  rw [DatabaseSession.statement]
  split_ifs with commitsNext
  · rfl
  · rw [Bool.not_eq_true] at commitsNext
    rw [commitsNext]
    simp only [DatabaseSession.commitsNext, Bool.or_eq_false_iff] at commitsNext ⊢
    simp [commitsNext.1]

theorem statement_tracks {state : Controller DatabaseSession}
    (tracks : Tracks capabilities state) :
    Tracks capabilities
      { state with db := state.db.statement capabilities.nativeTransactionModel } :=
  tracks.withSession tracks.reachable.statement (statement_autoCommit _ _)
    (statement_commitsNext _ _) state.needsCommitOrRollback

theorem step_shows_iff {event : Event} {state : Controller DatabaseSession}
    (tracks : Tracks capabilities state) :
    event.Shows (capabilities.connection flag) state ↔ event.Keeps capabilities state := by
  cases event with
  | statement => exact Iff.rfl
  | call op =>
      refine Iff.trans ⟨fun shows_ ok => (shows_ ok).1, fun agrees ok => ⟨agrees ok, ?_⟩⟩
        (apply_agrees_iff tracks)
      rintro rfl
      exact finish_committed (.inl rfl) tracks

theorem step_tracks {event : Event} {state : Controller DatabaseSession}
    (tracks : Tracks capabilities state) (keeps : event.Keeps capabilities state) :
    Tracks capabilities (event.step (capabilities.connection flag) state) := by
  cases event with
  | statement => exact statement_tracks tracks
  | call op => exact apply_tracks tracks keeps

/-! ### The state after login -/

/-- The condition on the configuration. -/
def LogInKeeps (capabilities : Capabilities) (txModel : TransactionModel) (autoCommit : Bool) :
    Prop :=
  (txModel = .none → capabilities.defaultAutoCommit = true) ∧
  (if autoCommit then
    capabilities.nativeTransactionModel = .implicit → capabilities.supportsAutoCommit = false →
      txModel = .implicit ∨ txModel = .explicitError
  else capabilities.nativeTransactionModel ≠ .none)

/-- The state `logIn` starts from. -/
def Capabilities.loggedIn (capabilities : Capabilities) (txModel : TransactionModel) :
    Controller DatabaseSession :=
  { capabilities.fresh txModel with
    autoCommit := capabilities.defaultAutoCommit
    inTransaction := !capabilities.defaultAutoCommit }

theorem loggedIn_tracks {txModel : TransactionModel}
    (default : txModel = .none → capabilities.defaultAutoCommit = true) :
    Tracks capabilities (capabilities.loggedIn txModel) := by
  have commits : (capabilities.fresh txModel).db.commitsNext capabilities.nativeTransactionModel =
      capabilities.defaultAutoCommit := by
    by_cases isNone : capabilities.nativeTransactionModel = .none
    · have on := capabilities.default_on (by simp [isNone])
      simp [Capabilities.fresh, DatabaseSession.commitsNext, on]
    · simp [Capabilities.fresh, DatabaseSession.commitsNext, isNone]
  refine ⟨⟨commits.symm, ?_⟩, default, ⟨fun _ => rfl, fun _ => rfl, fun _ => rfl, fun _ _ => rfl⟩,
    ⟨fun _ _ _ => rfl, ?_, ?_, ?_⟩⟩
  · show (!capabilities.defaultAutoCommit) = _
    rw [← commits]
    rfl
  · intro _ _ _ pending
    cases pending
  · intro _ pending
    cases pending
  · intro _ _ _ started
    simp [Controller.startedByBegin, Capabilities.loggedIn, Capabilities.fresh] at started

theorem onKeeps_loggedIn_iff {txModel : TransactionModel} :
    OnKeeps capabilities (capabilities.loggedIn txModel) ↔
      (capabilities.nativeTransactionModel = .implicit → capabilities.supportsAutoCommit = false →
        txModel = .implicit ∨ txModel = .explicitError) := by
  have notBegun : (capabilities.loggedIn txModel).startedByBegin = false := by
    simp [Controller.startedByBegin, Capabilities.loggedIn, Capabilities.fresh]
  refine ⟨fun keeps => keeps.1, fun keeps => ⟨keeps, fun _ _ started => ?_⟩⟩
  rw [notBegun] at started
  cases started

/-- `logIn` ends in agreement exactly in these configurations, and then in the
invariant. -/
theorem logIn_iff {txModel : TransactionModel} {autoCommit : Bool}
    (reachesNone : txModel = .none → autoCommit = true) :
    (Agrees capabilities.nativeTransactionModel
        ((capabilities.connection flag).logIn autoCommit (capabilities.fresh txModel)) ↔
      LogInKeeps capabilities txModel autoCommit) ∧
    (LogInKeeps capabilities txModel autoCommit →
      Tracks capabilities
        ((capabilities.connection flag).logIn autoCommit (capabilities.fresh txModel))) := by
  have start : (capabilities.connection flag).logIn autoCommit (capabilities.fresh txModel) =
      ((capabilities.connection flag).setAutoCommit autoCommit
        (capabilities.loggedIn txModel)).2 := rfl
  rw [start]
  by_cases default : txModel = .none → capabilities.defaultAutoCommit = true
  · have tracks := loggedIn_tracks default
    cases autoCommit with
    | true =>
        have conditions : LogInKeeps capabilities txModel true ↔
            OnKeeps capabilities (capabilities.loggedIn txModel) := by
          rw [onKeeps_loggedIn_iff]
          simpa [LogInKeeps] using fun _ => default
        rw [conditions]
        refine ⟨⟨fun agrees => ?_, fun keeps => (setAutoCommitOn_tracks tracks keeps).agrees⟩,
          setAutoCommitOn_tracks tracks⟩
        exact (setAutoCommitOn_agrees_iff tracks).mp fun _ => agrees
    | false =>
        have model : txModel ≠ .none := fun isNone => by simpa using reachesNone isNone
        have conditions : LogInKeeps capabilities txModel false ↔
            OffKeeps capabilities (capabilities.loggedIn txModel) := by
          simp [LogInKeeps, OffKeeps, Capabilities.loggedIn, Capabilities.fresh, model]
        rw [conditions]
        refine ⟨⟨fun agrees => ?_, fun keeps => (setAutoCommitOff_tracks tracks keeps).agrees⟩,
          setAutoCommitOff_tracks tracks⟩
        exact (setAutoCommitOff_agrees_iff tracks).mp fun _ => agrees
  · -- model `none` on a database that comes up with autocommit off
    rw [Classical.not_imp, Bool.not_eq_true] at default
    obtain ⟨rfl, off⟩ := default
    have isImplicit : capabilities.nativeTransactionModel = .implicit := by
      by_contra notImplicit
      rw [capabilities.default_on notImplicit] at off
      cases off
    have never : ¬LogInKeeps capabilities .none autoCommit := by
      intro keeps
      rw [keeps.1 rfl] at off
      cases off
    rw [reachesNone rfl] at never ⊢
    refine ⟨iff_of_false (fun agrees => ?_) never, fun keeps => absurd keeps never⟩
    have said := agrees.1
    simp [setAutoCommit, setAutoCommitOn, Controller.isTransactional, Capabilities.loggedIn,
      Capabilities.fresh, DatabaseSession.commitsNext, off, isImplicit] at said

/-- For every connection, every configuration and every run of calls and
statements: the flags agree with the session after login and after every call
that returns true, and no commit that returns true leaves anything uncommitted,
exactly if the configuration and every step meet their conditions. -/
theorem agrees_throughout_iff (capabilities : Capabilities) (flag : FlagUse)
    (txModel : TransactionModel) (autoCommit : Bool) (events : List Event) :
    let connection := capabilities.connection flag
    let initial := initialAutoCommit txModel autoCommit
    let start := connection.logIn initial (capabilities.fresh txModel)
    (Agrees capabilities.nativeTransactionModel start ∧
        Along (Event.step connection) (fun state event => event.Shows connection state)
          start events) ↔
      LogInKeeps capabilities txModel initial ∧
        Along (Event.step connection) (fun state event => event.Keeps capabilities state)
          start events := by
  intro connection initial start
  have reachesNone : txModel = .none → initial = true := fun isNone => by
    simp [initial, initialAutoCommit, isNone]
  rw [(logIn_iff reachesNone).1]
  refine and_congr_right fun keeps => ?_
  exact Along.iff_guard (fun _ _ tracks kept => step_tracks tracks kept)
    (fun _ _ tracks => step_shows_iff tracks) ((logIn_iff reachesNone).2 keeps)

/-- A database like mysql's: explicit transactions, deferred, with autocommit. -/
def deferredCapabilities : Capabilities where
  nativeTransactionModel := .explicitDeferred
  supportsAutoCommit := true
  defaultAutoCommit := true
  default_on := fun _ => rfl
  default_off := by simp

/-- In the explicit model, autocommit on after a begin leaves the transaction
open there, and the next commit returns true without committing anything. -/
theorem not_agrees_throughout :
    ¬∀ (capabilities : Capabilities) (flag : FlagUse)
      (txModel : TransactionModel) (autoCommit : Bool) (events : List Event),
      let connection := capabilities.connection flag
      Along (Event.step connection) (fun state event => event.Shows connection state)
        (connection.logIn (initialAutoCommit txModel autoCommit) (capabilities.fresh txModel))
        events := by
  intro every
  have run := every deferredCapabilities ⟨true, true, true⟩ .explicit true
    [.call .begin, .statement, .call .setAutoCommitOn, .call .commit]
  revert run
  decide

end SqlRelay.Transaction
