import SqlRelay.Transaction.Tracking

/-!
# One call, step by step

For each call on the controller: the condition under which it keeps track of the
database session, that under it the invariant is kept, and that without it the
flags end up wrong.
-/

namespace SqlRelay.Transaction

open Connection

variable {capabilities : Capabilities} {flag : FlagUse}

/-! ## Commit and rollback -/

/-- The condition for `commit` and `rollback`: a database with implicit
transactions and no autocommit goes on in a transaction, so the model must know
of it, and faked implicit transactions were not opened by a begin if the session
would be in autocommit afterwards. -/
def FinishKeeps (capabilities : Capabilities) (state : Controller DatabaseSession) : Prop :=
  (capabilities.nativeTransactionModel = .implicit → capabilities.supportsAutoCommit = false →
    state.txModel = .implicit ∨ state.txModel = .explicitDeferred) ∧
  (capabilities.nativeTransactionModel ≠ .implicit → capabilities.supportsAutoCommit = true →
    state.txModel = .implicit → state.startedByBegin = false)

theorem finishKeeps_of_autoCommit {state : Controller DatabaseSession}
    (tracks : Tracks capabilities state) (auto : state.autoCommit = true) :
    FinishKeeps capabilities state := by
  constructor
  · intro isImplicit fixed
    have mode := tracks.fixed_autoCommit fixed
    rw [tracks.implicit_autoCommit isImplicit, auto, isImplicit] at mode
    cases mode
  · intro _ _ _
    simp [Controller.startedByBegin, tracks.inTransaction, auto]

theorem finish_unchanged {call : DriverCall} {notInTransaction : TransactionError}
    {state : Controller DatabaseSession} (auto : state.autoCommit = true) :
    (capabilities.connection flag).finish call notInTransaction state = (true, state) := by
  simp [finish, auto]

/-- The state in which the transaction of `finish` has ended in the session. -/
theorem finish_eq {call : DriverCall} {notInTransaction : TransactionError}
    {state : Controller DatabaseSession} (isEnd : call = .commit ∨ call = .rollback)
    (tracks : Tracks capabilities state) (manual : state.autoCommit = false) :
    (capabilities.connection flag).finish call notInTransaction state =
      (true, (capabilities.connection flag).endTransaction
        { state with
          db := state.db.close
          needsCommitOrRollback := flag.after call state.needsCommitOrRollback }) := by
  obtain ⟨native, model⟩ := tracks.transactional manual
  rcases isEnd with rfl | rfl <;>
    simp [finish, Controller.isTransactional, model, manual, tracks.inTransaction,
      Outcome.andThen, DatabaseSession.call, native]

theorem finish_agrees_iff {call : DriverCall} {notInTransaction : TransactionError}
    {state : Controller DatabaseSession} (isEnd : call = .commit ∨ call = .rollback)
    (tracks : Tracks capabilities state) :
    Agrees capabilities.nativeTransactionModel
        ((capabilities.connection flag).finish call notInTransaction state).2 ↔
      FinishKeeps capabilities state := by
  cases manual : state.autoCommit with
  | true =>
      rw [finish_unchanged manual]
      exact iff_of_true tracks.agrees (finishKeeps_of_autoCommit tracks manual)
  | false =>
      obtain ⟨native, model⟩ := tracks.transactional manual
      rw [finish_eq isEnd tracks manual]
      dsimp only
      by_cases deferred : state.txModel = .explicitDeferred
      · rw [endTransaction_agrees_deferred native (by rfl) (by exact deferred)]
        refine iff_of_true ⟨fun isImplicit fixed => ?_, fun notImplicit pending => ?_⟩
          ⟨fun _ _ => .inr deferred, fun _ _ same => ?_⟩
        · have mode := tracks.implicit_autoCommit isImplicit
          rw [manual] at mode
          simpa [mode] using tracks.pending.fixed isImplicit deferred fixed
        · exact tracks.pending.explicit notImplicit deferred (by simp [tracks.inTransaction, manual])
            pending
        · rw [deferred] at same
          cases same
      · by_cases implicit : state.txModel = .implicit
        · rw [endTransaction_agrees_implicit native (by rfl) (by exact implicit)]
          have begun : state.startedByBegin = state.db.autoCommit := by
            simp [Controller.startedByBegin, tracks.inTransaction, manual]
          simp only [manual, FinishKeeps, implicit, begun]
          constructor
          · rintro ⟨-, mode⟩
            refine ⟨fun _ _ => .inl trivial, fun _ supports _ => ?_⟩
            by_contra auto
            rw [(mode trivial (by simpa using auto)).2] at supports
            cases supports
          · rintro ⟨-, mode⟩
            refine ⟨by simp, fun _ auto => ?_⟩
            rw [DatabaseSession.close_autoCommit] at auto
            have notImplicit : capabilities.nativeTransactionModel ≠ .implicit := by
              intro isImplicit
              rw [tracks.implicit_autoCommit isImplicit, manual] at auto
              cases auto
            refine ⟨notImplicit, ?_⟩
            by_contra supports
            rw [mode notImplicit (by simpa using supports) trivial] at auto
            cases auto
        · rw [endTransaction_agrees_explicit native (by rfl) (by exact deferred) (by exact implicit)]
          simp only [FinishKeeps, implicit, deferred, or_self, false_imp_iff, implies_true,
            and_true, DatabaseSession.close_autoCommit]
          constructor
          · intro mode isImplicit fixed
            rw [tracks.fixed_autoCommit fixed, isImplicit] at mode
            exact absurd (mode fixed) (by decide)
          · intro never fixed
            rw [tracks.fixed_autoCommit fixed]
            by_contra isImplicit
            exact never (by simpa using isImplicit) fixed

theorem finish_tracks {call : DriverCall} {notInTransaction : TransactionError}
    {state : Controller DatabaseSession} (isEnd : call = .commit ∨ call = .rollback)
    (tracks : Tracks capabilities state) (keeps : FinishKeeps capabilities state) :
    Tracks capabilities
      ((capabilities.connection flag).finish call notInTransaction state).2 := by
  have agrees : Agrees capabilities.nativeTransactionModel
      ((capabilities.connection flag).finish call notInTransaction state).2 :=
    (finish_agrees_iff isEnd tracks).mpr keeps
  cases manual : state.autoCommit with
  | true =>
      rw [finish_unchanged manual]
      exact tracks
  | false =>
      obtain ⟨native, model⟩ := tracks.transactional manual
      have reachable : state.db.close.Reachable capabilities := by
        have closed : (state.db.call capabilities.nativeTransactionModel .commit).Reachable
            capabilities :=
          tracks.reachable.call (by simp)
        simpa [DatabaseSession.call, native] using closed
      rw [finish_eq isEnd tracks manual] at agrees ⊢
      refine ⟨agrees, fun isNone => absurd (by simpa using isNone) model, ?_, ?_⟩
      · exact endTransaction_frame (DatabaseSession.Reachable capabilities)
          (fun _ _ permitted reachable => reachable.call permitted) reachable
      · refine endTransaction_pending (fun isDeferred notDeferred => ?_)
          fun isDeferred supports deferred mode => ?_
        · by_contra pending
          exact notDeferred (tracks.pending.deferred isDeferred (by simpa using pending)).1
        · refine tracks.pending.begun isDeferred supports deferred ?_
          simpa [Controller.startedByBegin, tracks.inTransaction, manual] using mode

/-! ## Begin -/

theorem beginTransaction_tracks {state : Controller DatabaseSession}
    (model : state.txModel ≠ .none) (reachable : state.db.Reachable capabilities)
    (entered : state.db.commitsNext capabilities.nativeTransactionModel = false)
    (pending : PendingKept capabilities state.beginTransaction.2) :
    Tracks capabilities state.beginTransaction.2 :=
  ⟨⟨by simp [Controller.beginTransaction, entered], by simp [Controller.beginTransaction, entered]⟩,
    fun isNone => absurd isNone model, reachable, pending⟩

theorem commitsNext_setAutoCommitOff {session : DatabaseSession}
    (native : capabilities.nativeTransactionModel ≠ .none) :
    (session.call capabilities.nativeTransactionModel .setAutoCommitOff).commitsNext
      capabilities.nativeTransactionModel = false := by
  simp [DatabaseSession.call, DatabaseSession.commitsNext, native]

theorem commitsNext_begin {session : DatabaseSession}
    (native : capabilities.nativeTransactionModel ≠ .none)
    (explicit : capabilities.nativeTransactionModel ≠ .implicit) :
    (session.call capabilities.nativeTransactionModel .begin).commitsNext
      capabilities.nativeTransactionModel = false := by
  simp [DatabaseSession.call, DatabaseSession.commitsNext, native, explicit]

theorem setEotAutoCommit_of_deferred {value : Bool} {state : Controller DatabaseSession}
    (deferred : state.txModel = .explicitDeferred) :
    (state.setEotAutoCommit value).eotAutoCommit = value := by
  simp [Controller.setEotAutoCommit, deferred]

theorem setEotAutoCommit_of_not_deferred {value : Bool} {state : Controller DatabaseSession}
    (deferred : state.txModel ≠ .explicitDeferred) : state.setEotAutoCommit value = state := by
  simp [Controller.setEotAutoCommit, deferred]

/-- A transaction entered from autocommit with the pending state set. -/
theorem entered_pending {state : Controller DatabaseSession} {value : Bool}
    (kept : capabilities.nativeTransactionModel = .explicitDeferred →
      state.eotAutoCommit = false)
    (fixed : capabilities.nativeTransactionModel = .implicit →
      capabilities.supportsAutoCommit = false → value = false)
    (begun : value = true → capabilities.nativeTransactionModel ≠ .implicit →
      state.db.autoCommit = true)
    (manual : value = false → capabilities.nativeTransactionModel = .explicitDeferred →
      capabilities.supportsAutoCommit = true → state.db.autoCommit = false) :
    PendingKept capabilities (state.setEotAutoCommit value).beginTransaction.2 := by
  by_cases deferred : state.txModel = .explicitDeferred
  · have pending : (state.setEotAutoCommit value).eotAutoCommit = value :=
      setEotAutoCommit_of_deferred deferred
    refine ⟨?_, ?_, ?_, ?_⟩
    · intro isImplicit _ off
      simpa [Controller.beginTransaction, pending] using fixed isImplicit off
    · intro notImplicit _ _ on
      simp only [Controller.beginTransaction, pending] at on
      simpa [Controller.beginTransaction] using begun on notImplicit
    · intro _ _
      simp [Controller.beginTransaction, deferred]
    · intro native supports _ started
      simp only [Controller.startedByBegin, Controller.beginTransaction, Bool.true_and,
        setEotAutoCommit_db] at started
      simp only [Controller.beginTransaction, pending]
      by_contra off
      rw [manual (by simpa using off) native supports] at started
      cases started
  · rw [setEotAutoCommit_of_not_deferred deferred]
    refine ⟨fun _ same => absurd same deferred, fun _ same => absurd same deferred, ?_,
      fun _ _ same => absurd same deferred⟩
    intro native pending
    rw [Controller.beginTransaction] at pending
    rw [kept native] at pending
    cases pending

/-- The database's own begin, issued in autocommit. -/
theorem nativeBegin_tracks {state : Controller DatabaseSession} {value : Bool}
    (tracks : Tracks capabilities state) (auto : state.autoCommit = true)
    (model : state.txModel ≠ .none) (native : capabilities.nativeTransactionModel ≠ .none)
    (explicit : capabilities.nativeTransactionModel ≠ .implicit)
    (fixed : value = false → capabilities.supportsAutoCommit = false) :
    Tracks capabilities
      (((capabilities.connection flag).send .begin state).2.setEotAutoCommit
        value).beginTransaction.2 := by
  have reachable : (state.db.call capabilities.nativeTransactionModel .begin).Reachable
      capabilities :=
    tracks.reachable.call (by simp)
  have session : (state.db.call capabilities.nativeTransactionModel .begin).autoCommit = true := by
    simp [DatabaseSession.call, native, explicit, (tracks.idle auto native).1]
  refine beginTransaction_tracks (by simpa using model) (by simpa using reachable)
    (by simpa using commitsNext_begin native explicit)
    (entered_pending (tracks.nothingPending auto) (by simp [explicit]) (fun _ _ => session) ?_)
  intro off _ supports
  rw [fixed off] at supports
  cases supports

/-- A begin that is issued as autocommit off. -/
theorem manualBegin_tracks {state : Controller DatabaseSession} {value : Bool}
    (tracks : Tracks capabilities state) (auto : state.autoCommit = true)
    (model : state.txModel ≠ .none) (native : capabilities.nativeTransactionModel ≠ .none)
    (supports : capabilities.supportsAutoCommit = true)
    (implicit : value = true → capabilities.nativeTransactionModel = .implicit) :
    Tracks capabilities
      (((capabilities.connection flag).send .setAutoCommitOff state).2.setEotAutoCommit
        value).beginTransaction.2 := by
  have reachable : (state.db.call capabilities.nativeTransactionModel
      .setAutoCommitOff).Reachable capabilities :=
    tracks.reachable.call fun _ => supports
  refine beginTransaction_tracks (by simpa using model) (by simpa using reachable)
    (by simpa using commitsNext_setAutoCommitOff native)
    (entered_pending (tracks.nothingPending auto) (by simp [supports])
      (fun on notImplicit => absurd (implicit on) notImplicit) ?_)
  intro _ _ _
  simp [DatabaseSession.call, native]

theorem begin_tracks {state : Controller DatabaseSession} (tracks : Tracks capabilities state) :
    Tracks capabilities ((capabilities.connection flag).begin state).2 := by
  rw [begin]
  split_ifs with isNone manual _ unsupported faking supports
  · exact tracks
  · exact tracks
  · exact tracks.withError _
  · exact tracks
  all_goals
    have model : state.txModel ≠ .none := by simpa [Controller.isTransactional] using isNone
    have auto : state.autoCommit = true := by simpa using manual
  · simp only [fakingExplicitTransactions, connection_nativeTransactionModel, Bool.and_eq_true,
      beq_iff_eq] at faking
    have native : capabilities.nativeTransactionModel ≠ .none := by simp [faking.1]
    exact manualBegin_tracks tracks auto model native supports fun _ => faking.1
  · exact tracks
  · have natives : capabilities.nativeTransactionModel ≠ .none ∧
        capabilities.nativeTransactionModel ≠ .implicit := by
      simpa [supportsExplicitTransactions, faking] using unsupported
    exact nativeBegin_tracks tracks auto model natives.1 natives.2 (by simp)

/-! ## Autocommit off -/

/-- The condition for turning autocommit off: a database without transactions
stays in autocommit. -/
def OffKeeps (capabilities : Capabilities) (state : Controller DatabaseSession) : Prop :=
  capabilities.nativeTransactionModel = .none → state.txModel = .none

/-- The pending state is cleared in a running transaction. -/
theorem clearPending_tracks {state : Controller DatabaseSession}
    (tracks : Tracks capabilities state) (manual : state.autoCommit = false)
    {db : DatabaseSession} (reachable : db.Reachable capabilities)
    (inTransaction : db.commitsNext capabilities.nativeTransactionModel = false)
    (mode : capabilities.nativeTransactionModel = .explicitDeferred →
      capabilities.supportsAutoCommit = true → db.autoCommit = false) (needed : Bool) :
    Tracks capabilities
      { state with db, eotAutoCommit := false, needsCommitOrRollback := needed } := by
  refine ⟨⟨?_, ?_⟩, tracks.none_autoCommit, reachable, ⟨fun _ _ _ => rfl, by simp, by simp, ?_⟩⟩
  · simp [manual, inTransaction]
  · simp [tracks.inTransaction, manual, inTransaction]
  · intro native supports _ started
    simp [Controller.startedByBegin, mode native supports] at started

theorem setAutoCommitOff_tracks {state : Controller DatabaseSession}
    (tracks : Tracks capabilities state) (keeps : OffKeeps capabilities state) :
    Tracks capabilities ((capabilities.connection flag).setAutoCommitOff state).2 := by
  rw [setAutoCommitOff]
  split_ifs with isNone running isError deferred sends supports faking explicit
  · have auto := tracks.none_autoCommit (by simpa [Controller.isTransactional] using isNone)
    have same : { state with autoCommit := true } = state := by
      rw [← auto]
    rw [same]
    exact tracks
  · exact tracks.withError _
  · have manual : state.autoCommit = false := by simpa [tracks.inTransaction] using running
    have native := (tracks.transactional manual).1
    have allowed : capabilities.supportsAutoCommit = true := ((Bool.and_eq_true _ _).mp sends).2
    rw [send_connection, Outcome.andThen, if_pos rfl]
    exact clearPending_tracks tracks manual (tracks.reachable.call fun _ => allowed)
      (commitsNext_setAutoCommitOff native) (fun _ _ => by simp [DatabaseSession.call, native]) _
  · have manual : state.autoCommit = false := by simpa [tracks.inTransaction] using running
    rw [Outcome.andThen, if_pos rfl]
    refine clearPending_tracks tracks manual tracks.reachable ?_ (fun native supports => ?_)
      state.needsCommitOrRollback
    · rw [← tracks.agrees.1, manual]
    · simp [fakingExplicitDeferredTransactions, native, supports] at sends
  · exact tracks
  all_goals
    have auto : state.autoCommit = true := by
      simp only [Bool.or_eq_true, Bool.not_eq_true', not_or, Bool.not_eq_false] at running
      exact running.1
    have model : state.txModel ≠ .none := by simpa [Controller.isTransactional] using isNone
    have native : capabilities.nativeTransactionModel ≠ .none := fun same => model (keeps same)
  · exact manualBegin_tracks tracks auto model native supports (by simp)
  · simp only [fakingImplicitTransactions, connection_nativeTransactionModel, Bool.and_eq_true,
      beq_iff_eq, bne_iff_ne] at faking
    have begun : Tracks capabilities (((capabilities.connection flag).send .begin
        state).2.setEotAutoCommit true).beginTransaction.2 :=
      nativeBegin_tracks tracks auto model native faking.1 (by simp)
    rwa [setEotAutoCommit_of_not_deferred (by simp [faking.2])] at begun
  · have fixed : capabilities.supportsAutoCommit = false := by simpa using supports
    have notImplicit : capabilities.nativeTransactionModel ≠ .implicit := by
      intro isImplicit
      have mode := tracks.fixed_autoCommit fixed
      rw [tracks.implicit_autoCommit isImplicit, auto, isImplicit] at mode
      cases mode
    exact nativeBegin_tracks tracks auto model native notImplicit fun _ => fixed
  · have fixed : capabilities.supportsAutoCommit = false := by simpa using supports
    have isImplicit : capabilities.nativeTransactionModel = .implicit := by
      simp only [supportsExplicitTransactions, connection_nativeTransactionModel, Bool.or_eq_true,
        not_or, Bool.and_eq_true, bne_iff_ne] at explicit
      by_contra notImplicit
      exact explicit.1 ⟨native, notImplicit⟩
    have mode := tracks.fixed_autoCommit fixed
    rw [tracks.implicit_autoCommit isImplicit, auto, isImplicit] at mode
    cases mode

theorem setAutoCommitOff_agrees_iff {state : Controller DatabaseSession}
    (tracks : Tracks capabilities state) :
    (((capabilities.connection flag).setAutoCommitOff state).1 = true →
        Agrees capabilities.nativeTransactionModel
          ((capabilities.connection flag).setAutoCommitOff state).2) ↔
      OffKeeps capabilities state := by
  constructor
  · intro agrees isNone
    by_contra model
    have auto : state.autoCommit = true := by
      rw [tracks.agrees.1, DatabaseSession.commitsNext, isNone]
      rfl
    have result : ((capabilities.connection flag).setAutoCommitOff state).1 = true ∧
        ((capabilities.connection flag).setAutoCommitOff state).2.autoCommit = false := by
      simp only [setAutoCommitOff, Controller.isTransactional, auto, tracks.inTransaction]
      split_ifs <;> simp_all [Outcome.andThen, Controller.beginTransaction]
    have wrong := (agrees result.1).1
    rw [result.2, DatabaseSession.commitsNext, isNone] at wrong
    cases wrong
  · exact fun keeps _ => (setAutoCommitOff_tracks tracks keeps).agrees

/-! ## Autocommit on -/

/-- The condition for turning autocommit on: a database with implicit
transactions and no autocommit cannot go there, and where transactions are
deferred the database does not end a transaction that a begin started. -/
def OnKeeps (capabilities : Capabilities) (state : Controller DatabaseSession) : Prop :=
  (capabilities.nativeTransactionModel = .implicit → capabilities.supportsAutoCommit = false →
    state.txModel = .implicit ∨ state.txModel = .explicitError) ∧
  (capabilities.nativeTransactionModel = .explicitDeferred →
    capabilities.supportsAutoCommit = true → state.startedByBegin = true →
    state.txModel = .explicitDeferred ∨ state.txModel = .explicitError)

/-- A transaction that was ended on the way to autocommit. -/
theorem endTransaction_tracks {state ended : Controller DatabaseSession}
    (tracks : Tracks capabilities state) (manual : state.autoCommit = false)
    (model : ended.txModel = state.txModel) (reachable : ended.db.Reachable capabilities)
    (eot : ended.eotAutoCommit = (state.setEotAutoCommit true).eotAutoCommit)
    (closed : ended.db.openTransaction = false) (mode : ended.db.autoCommit = true)
    (implicit : ended.txModel = .implicit → ended.autoCommit = true) :
    Tracks capabilities ((capabilities.connection flag).endTransaction ended) := by
  obtain ⟨native, isTransactional⟩ := tracks.transactional manual
  refine ⟨?_, fun isNone => ?_, ?_, ?_⟩
  · by_cases deferred : ended.txModel = .explicitDeferred
    · rw [endTransaction_agrees_deferred native closed deferred]
      have pending : ended.eotAutoCommit = true := by
        rw [eot, setEotAutoCommit_of_deferred (model ▸ deferred)]
      exact ⟨fun _ _ => by rw [pending, mode], fun _ _ => mode⟩
    · by_cases isImplicit : ended.txModel = .implicit
      · rw [endTransaction_agrees_implicit native closed isImplicit]
        simp [mode, implicit isImplicit]
      · rw [endTransaction_agrees_explicit native closed deferred isImplicit]
        exact fun _ => mode
  · rw [endTransaction_txModel, model] at isNone
    exact absurd isNone isTransactional
  · exact endTransaction_frame (DatabaseSession.Reachable capabilities)
      (fun _ _ permitted reachable => reachable.call permitted) reachable
  · refine endTransaction_pending (fun isDeferred notDeferred => ?_) fun _ _ deferred _ => ?_
    · rw [model] at notDeferred
      rw [eot, setEotAutoCommit_of_not_deferred notDeferred]
      by_contra pending
      exact notDeferred (tracks.pending.deferred isDeferred (by simpa using pending)).1
    · rw [model] at deferred
      rw [eot, setEotAutoCommit_of_deferred deferred]

theorem setAutoCommitOn_tracks {state : Controller DatabaseSession}
    (tracks : Tracks capabilities state) (keeps : OnKeeps capabilities state) :
    Tracks capabilities ((capabilities.connection flag).setAutoCommitOn state).2 := by
  rw [setAutoCommitOn]
  split_ifs with isNone running pending isError supports faking explicit
  · have auto := tracks.none_autoCommit (by simpa [Controller.isTransactional] using isNone)
    have same : { state with autoCommit := true } = state := by
      rw [← auto]
    rw [same]
    exact tracks
  · exact tracks
  · exact tracks
  · exact tracks.withError _
  all_goals
    have manual : state.autoCommit = false := by
      simp only [Bool.or_eq_true, not_or, Bool.not_eq_true] at running
      exact running.1
    have native := (tracks.transactional manual).1
  · have effective : ¬(capabilities.nativeTransactionModel = .explicitDeferred ∧
        state.db.autoCommit = true) := by
      rintro ⟨deferred, mode⟩
      have begun : state.startedByBegin = true := by
        simp [Controller.startedByBegin, tracks.inTransaction, manual, mode]
      rcases keeps.2 deferred supports begun with model | model
      · exact pending ⟨model, tracks.pending.begun deferred supports model begun⟩
      · exact isError model
    have called : state.db.call capabilities.nativeTransactionModel .setAutoCommitOn =
        { state.db.close with autoCommit := true } := by
      simp [DatabaseSession.call, native, effective]
    have reachable : DatabaseSession.Reachable capabilities
        { state.db.close with autoCommit := true } := by
      rw [← called]
      exact tracks.reachable.call fun _ => supports
    rw [send_connection, Outcome.andThen, if_pos rfl]
    refine endTransaction_tracks tracks manual (by simp) (by simpa [called] using reachable) ?_
      (by simp [called]) (by simp [called]) (by simp)
    simp only [Controller.setEotAutoCommit]
    split <;> rfl
  all_goals
    have fixed : capabilities.supportsAutoCommit = false := by simpa using supports
    have called : state.db.call capabilities.nativeTransactionModel .commit = state.db.close := by
      simp [DatabaseSession.call, native]
    have reachable : state.db.close.Reachable capabilities := by
      rw [← called]
      exact tracks.reachable.call (by simp)
  · simp only [fakingImplicitTransactions, connection_nativeTransactionModel, Bool.and_eq_true,
      beq_iff_eq, bne_iff_ne] at faking
    have mode : state.db.autoCommit = true := by simp [tracks.fixed_autoCommit fixed, faking.1]
    rw [send_connection, Outcome.andThen, if_pos rfl]
    refine endTransaction_tracks tracks manual (by simp) (by simpa [called] using reachable) ?_
      (by simp [called]) (by simp [called, mode]) (by simp)
    rw [setEotAutoCommit_of_not_deferred (by simp [faking.2])]
  · have notImplicit : state.txModel ≠ .implicit := by
      intro model
      simp [fakingImplicitTransactions, supportsExplicitTransactions, fakingExplicitTransactions,
        model] at faking explicit
      exact explicit.2 faking
    have mode : state.db.autoCommit = true := by
      rw [tracks.fixed_autoCommit fixed]
      by_contra isImplicit
      rcases keeps.1 (by simpa using isImplicit) fixed with model | model
      · exact notImplicit model
      · exact isError model
    rw [send_connection, Outcome.andThen, if_pos rfl]
    refine endTransaction_tracks tracks manual (by simp) (by simpa [called] using reachable) ?_
      (by simp [called]) (by simp [called, mode]) fun model => absurd (by simpa using model) notImplicit
    simp only [Controller.setEotAutoCommit]
    split <;> rfl
  · have same : { state with autoCommit := false } = state := by
      rw [← manual]
    rw [same]
    exact tracks

/-- Without an autocommit of its own, a database with implicit transactions is
only thought to be in autocommit. -/
theorem setAutoCommitOn_fixed (flag : FlagUse) {state : Controller DatabaseSession}
    (tracks : Tracks capabilities state)
    (isImplicit : capabilities.nativeTransactionModel = .implicit)
    (fixed : capabilities.supportsAutoCommit = false) (notImplicit : state.txModel ≠ .implicit)
    (notError : state.txModel ≠ .explicitError) :
    ((capabilities.connection flag).setAutoCommitOn state).1 = true ∧
      ¬Agrees capabilities.nativeTransactionModel
        ((capabilities.connection flag).setAutoCommitOn state).2 := by
  have mode : state.db.autoCommit = false := by simp [tracks.fixed_autoCommit fixed, isImplicit]
  have manual : state.autoCommit = false := by rw [← tracks.implicit_autoCommit isImplicit, mode]
  have native : capabilities.nativeTransactionModel ≠ .none := by simp [isImplicit]
  have model := (tracks.transactional manual).2
  have notPending : ¬(state.txModel = .explicitDeferred ∧ state.eotAutoCommit = true) := by
    rintro ⟨deferred, pending⟩
    rw [tracks.pending.fixed isImplicit deferred fixed] at pending
    cases pending
  have result : (capabilities.connection flag).setAutoCommitOn state =
      (true, (capabilities.connection flag).endTransaction
        (((capabilities.connection flag).send .commit state).2.setEotAutoCommit true)) := by
    simp [setAutoCommitOn, Controller.isTransactional, model, manual, tracks.inTransaction,
      notPending, notError, fixed, fakingImplicitTransactions, isImplicit,
      fakingExplicitTransactions, notImplicit, Outcome.andThen]
  refine ⟨by rw [result], ?_⟩
  rw [result]
  have closed : (((capabilities.connection flag).send .commit state).2.setEotAutoCommit
      true).db = state.db.close := by
    simp [DatabaseSession.call, native]
  by_cases deferred : state.txModel = .explicitDeferred
  · rw [endTransaction_agrees_deferred native (by rw [closed]; rfl) (by simpa using deferred)]
    intro both
    have same := both.1 isImplicit fixed
    rw [setEotAutoCommit_of_deferred (by simpa using deferred), closed,
      DatabaseSession.close_autoCommit, mode] at same
    cases same
  · rw [endTransaction_agrees_explicit native (by rw [closed]; rfl) (by simpa using deferred)
      (by simpa using notImplicit)]
    intro both
    have same := both fixed
    rw [closed, DatabaseSession.close_autoCommit, mode] at same
    cases same

/-- Where transactions are deferred, a transaction that a begin started stays
open, but the controller thinks it is over. -/
theorem setAutoCommitOn_begun (flag : FlagUse) {state : Controller DatabaseSession}
    (tracks : Tracks capabilities state)
    (isDeferred : capabilities.nativeTransactionModel = .explicitDeferred)
    (supports : capabilities.supportsAutoCommit = true) (begun : state.startedByBegin = true)
    (notDeferred : state.txModel ≠ .explicitDeferred) (notError : state.txModel ≠ .explicitError) :
    ((capabilities.connection flag).setAutoCommitOn state).1 = true ∧
      ¬Agrees capabilities.nativeTransactionModel
        ((capabilities.connection flag).setAutoCommitOn state).2 := by
  simp only [Controller.startedByBegin, Bool.and_eq_true] at begun
  have manual : state.autoCommit = false := by simpa [tracks.inTransaction] using begun.1
  have model := (tracks.transactional manual).2
  have inTransaction : state.db.commitsNext .explicitDeferred = false := by
    rw [← isDeferred, ← tracks.agrees.1, manual]
  have unchanged : state.db.call .explicitDeferred .setAutoCommitOn = state.db := by
    simp [DatabaseSession.call, begun.2]
  have result : (capabilities.connection flag).setAutoCommitOn state =
      (true, (capabilities.connection flag).endTransaction
        { ((capabilities.connection flag).send .setAutoCommitOn state).2 with
          autoCommit := true }) := by
    simp [setAutoCommitOn, Controller.isTransactional, model, manual, begun.1, notDeferred,
      notError, supports, Outcome.andThen, Controller.setEotAutoCommit]
  refine ⟨by rw [result], ?_⟩
  rw [result]
  intro agrees
  have said := agrees.1
  by_cases implicit : state.txModel = .implicit
  · simp [endTransaction, implicit, fakingImplicitTransactions, isDeferred, unchanged,
      inTransaction] at said
  · simp [endTransaction, implicit, notDeferred, fakingImplicitTransactions, isDeferred,
      supportsExplicitTransactions, supports, unchanged, inTransaction] at said

theorem setAutoCommitOn_agrees_iff {state : Controller DatabaseSession}
    (tracks : Tracks capabilities state) :
    (((capabilities.connection flag).setAutoCommitOn state).1 = true →
        Agrees capabilities.nativeTransactionModel
          ((capabilities.connection flag).setAutoCommitOn state).2) ↔
      OnKeeps capabilities state := by
  constructor
  · intro agrees
    refine ⟨fun isImplicit fixed => ?_, fun isDeferred supports begun => ?_⟩
    · by_contra model
      rw [not_or] at model
      have wrong := setAutoCommitOn_fixed flag tracks isImplicit fixed model.1 model.2
      exact wrong.2 (agrees wrong.1)
    · by_contra model
      rw [not_or] at model
      have wrong := setAutoCommitOn_begun flag tracks isDeferred supports begun
        model.1 model.2
      exact wrong.2 (agrees wrong.1)
  · exact fun keeps _ => (setAutoCommitOn_tracks tracks keeps).agrees

/-! ## Switching models -/

/-- The condition for a switch: a database without transactions cannot fake
implicit ones, and where transactions are deferred one that a begin started is
left only from the database's own model, or for implicit transactions, which go
on in it. -/
def SetModelKeeps (capabilities : Capabilities) (txModel : TransactionModel)
    (state : Controller DatabaseSession) : Prop :=
  txModel = state.txModel ∨
    ((capabilities.nativeTransactionModel = .none → txModel ≠ .implicit) ∧
      (capabilities.nativeTransactionModel = .explicitDeferred →
        capabilities.supportsAutoCommit = true → state.startedByBegin = true →
        state.txModel = .explicitDeferred ∨ (txModel = .implicit ∧ state.txModel ≠ .implicit)))

/-- Outside of a transaction, any model will do. -/
theorem Tracks.withModel {state : Controller DatabaseSession} (tracks : Tracks capabilities state)
    (auto : state.autoCommit = true) (txModel : TransactionModel) :
    Tracks capabilities { state with txModel } := by
  have outside : state.inTransaction = false := by simp [tracks.inTransaction, auto]
  refine ⟨tracks.agrees, fun _ => auto, tracks.reachable, ?_, ?_, ?_, ?_⟩
  · intro isImplicit _ fixed
    have mode := tracks.fixed_autoCommit fixed
    rw [tracks.implicit_autoCommit isImplicit, auto, isImplicit] at mode
    cases mode
  · intro _ _ inTransaction
    rw [outside] at inTransaction
    cases inTransaction
  · intro isDeferred pending
    rw [tracks.nothingPending auto isDeferred] at pending
    cases pending
  · intro _ _ _ started
    simp [Controller.startedByBegin, outside] at started

/-- In a transaction, the database's own model can take over unless a begin
started it where transactions are deferred. -/
theorem Tracks.withNativeModel {state : Controller DatabaseSession}
    (tracks : Tracks capabilities state)
    (own : capabilities.nativeTransactionModel = .explicitDeferred →
      capabilities.supportsAutoCommit = true → state.startedByBegin = true →
      state.txModel = .explicitDeferred) :
    Tracks capabilities { state with txModel := capabilities.nativeTransactionModel } := by
  refine ⟨tracks.agrees, fun isNone => ?_, tracks.reachable, ?_, ?_, ?_, ?_⟩
  · have agrees := tracks.agrees.1
    rw [DatabaseSession.commitsNext, show capabilities.nativeTransactionModel = .none from isNone]
      at agrees
    simpa using agrees
  · intro isImplicit isDeferred
    rw [show capabilities.nativeTransactionModel = .explicitDeferred from isDeferred] at isImplicit
    cases isImplicit
  · intro notImplicit isDeferred inTransaction pending
    exact tracks.pending.explicit notImplicit (tracks.pending.deferred isDeferred pending).1
      inTransaction pending
  · intro isDeferred pending
    exact ⟨isDeferred, (tracks.pending.deferred isDeferred pending).2⟩
  · intro isDeferred supports _ started
    exact tracks.pending.begun isDeferred supports (own isDeferred supports started) started

/-- A database that cannot be put in autocommit keeps its model. -/
theorem leaveTransactionModel_fixed {state : Controller DatabaseSession}
    (tracks : Tracks capabilities state)
    (isImplicit : capabilities.nativeTransactionModel = .implicit)
    (fixed : capabilities.supportsAutoCommit = false) :
    (capabilities.connection flag).leaveTransactionModel state =
      (false, { state with db := state.db.close, needsCommitOrRollback := false }) := by
  have mode : state.db.autoCommit = false := by simp [tracks.fixed_autoCommit fixed, isImplicit]
  have manual : state.autoCommit = false := by rw [← tracks.implicit_autoCommit isImplicit, mode]
  have model := (tracks.transactional manual).2
  simp [leaveTransactionModel, model, commit, finish, setAutoCommitOn, Controller.isTransactional,
    isImplicit, manual, tracks.inTransaction, Outcome.andThen, endTransaction,
    fakingExplicitTransactions, fakingImplicitTransactions, supportsExplicitTransactions, fixed,
    DatabaseSession.call]

/-- Autocommit on gets there, or leaves the session and the flag alone: with
autocommit pending, where it is refused, and where there is no way. -/
theorem setAutoCommitOn_cases (flag : FlagUse) {state : Controller DatabaseSession}
    (tracks : Tracks capabilities state) :
    (((capabilities.connection flag).setAutoCommitOn state).1 = true ∧
      ((capabilities.connection flag).setAutoCommitOn state).2.autoCommit = true) ∨
    (state.autoCommit = false ∧
      ((state.txModel = .explicitDeferred ∧ state.eotAutoCommit = true) ∨
        state.txModel = .explicitError ∨
        (capabilities.nativeTransactionModel = .implicit ∧
          capabilities.supportsAutoCommit = false)) ∧
      ((capabilities.connection flag).setAutoCommitOn state).2.db = state.db ∧
      ((capabilities.connection flag).setAutoCommitOn state).2.needsCommitOrRollback =
        state.needsCommitOrRollback) := by
  have pendingOn (ended : Controller DatabaseSession) :
      ended.txModel = .explicitDeferred → (ended.setEotAutoCommit true).eotAutoCommit = true :=
    setEotAutoCommit_of_deferred
  rw [setAutoCommitOn]
  split_ifs with isNone running pending isError supports faking explicit
  · exact .inl ⟨rfl, rfl⟩
  · refine .inl ⟨rfl, ?_⟩
    simpa [tracks.inTransaction] using running
  all_goals
    have manual : state.autoCommit = false := by
      simp only [Bool.or_eq_true, not_or, Bool.not_eq_true] at running
      exact running.1
  · exact .inr ⟨manual, .inl pending, rfl, rfl⟩
  · exact .inr ⟨manual, .inr (.inl isError), rfl, rfl⟩
  all_goals
    have native := (tracks.transactional manual).1
  · rw [send_connection, Outcome.andThen, if_pos rfl, endTransaction_autoCommit native]
    refine .inl ⟨rfl, ?_⟩
    split_ifs with deferred
    · exact pendingOn _ (by simpa using deferred)
    · rfl
  · rw [send_connection, Outcome.andThen, if_pos rfl, endTransaction_autoCommit native]
    refine .inl ⟨rfl, ?_⟩
    split_ifs with deferred
    · simp only [fakingImplicitTransactions, Bool.and_eq_true, beq_iff_eq] at faking
      rw [show state.txModel = .explicitDeferred from deferred] at faking
      cases faking.2
    · rfl
  · rw [send_connection, Outcome.andThen, if_pos rfl, endTransaction_autoCommit native]
    refine .inl ⟨rfl, ?_⟩
    have notImplicit : state.txModel ≠ .implicit := by
      intro model
      simp [fakingImplicitTransactions, supportsExplicitTransactions, fakingExplicitTransactions,
        model] at faking explicit
      exact explicit.2 faking
    split_ifs with deferred
    · exact pendingOn _ (by simpa using deferred)
    · simp [notImplicit]
  · simp only [supportsExplicitTransactions, connection_nativeTransactionModel, Bool.or_eq_true,
      not_or, Bool.and_eq_true, bne_iff_ne] at explicit
    refine .inr ⟨manual, .inr (.inr ⟨?_, by simpa using supports⟩), rfl, rfl⟩
    by_contra isImplicit
    exact explicit.1 ⟨native, isImplicit⟩

/-- Where there is a way, autocommit on gets there. -/
theorem setAutoCommitOn_succeeds (flag : FlagUse) {state : Controller DatabaseSession}
    (tracks : Tracks capabilities state)
    (settable : capabilities.nativeTransactionModel = .implicit →
      capabilities.supportsAutoCommit = true)
    (notPending : state.txModel = .explicitDeferred → state.eotAutoCommit = false)
    (notError : state.txModel = .explicitError → state.autoCommit = true) :
    ((capabilities.connection flag).setAutoCommitOn state).1 = true ∧
      ((capabilities.connection flag).setAutoCommitOn state).2.autoCommit = true := by
  refine (setAutoCommitOn_cases flag tracks).resolve_right ?_
  rintro ⟨manual, ⟨deferred, pending⟩ | isError | ⟨isImplicit, fixed⟩, -⟩
  · rw [notPending deferred] at pending
    cases pending
  · rw [notError isError] at manual
    cases manual
  · rw [settable isImplicit] at fixed
    cases fixed

/-- What `commit` leaves behind under the database's own model. -/
theorem commit_native (flag : FlagUse) {state : Controller DatabaseSession} (tracks : Tracks capabilities state)
    (model : state.txModel = capabilities.nativeTransactionModel) :
    ∃ committed, (capabilities.connection flag).commit state = (true, committed) ∧
      Tracks capabilities committed ∧ committed.txModel = capabilities.nativeTransactionModel ∧
      (committed.txModel = .explicitDeferred → committed.eotAutoCommit = false) ∧
      (committed.txModel = .explicitError → committed.autoCommit = true) := by
  have keeps : FinishKeeps capabilities state :=
    ⟨fun isImplicit _ => .inl (model.trans isImplicit),
      fun notImplicit _ isImplicit => absurd (model.symm.trans isImplicit) notImplicit⟩
  have committed : Tracks capabilities
      ((capabilities.connection flag).finish .commit .commitNotInTransactionBlock state).2 :=
    finish_tracks (.inl rfl) tracks keeps
  cases manual : state.autoCommit with
  | true =>
      refine ⟨state, finish_unchanged manual, tracks, model, fun deferred => ?_, fun _ => manual⟩
      exact tracks.nothingPending manual (model.symm.trans deferred)
  | false =>
      have native := (tracks.transactional manual).1
      rw [finish_eq (.inl rfl) tracks manual] at committed
      refine ⟨_, finish_eq (.inl rfl) tracks manual, committed, by simpa using model, ?_, ?_⟩
      · intro deferred
        rw [endTransaction_txModel] at deferred
        simp [endTransaction_eotAutoCommit, show state.txModel = .explicitDeferred from deferred]
      · intro isError
        rw [endTransaction_txModel] at isError
        simp [endTransaction_autoCommit native, show state.txModel = .explicitError from isError]

theorem leaveTransactionModel_tracks (flag : FlagUse) {state : Controller DatabaseSession}
    (tracks : Tracks capabilities state)
    (settable : capabilities.nativeTransactionModel = .implicit →
      capabilities.supportsAutoCommit = true)
    (own : capabilities.nativeTransactionModel = .explicitDeferred →
      capabilities.supportsAutoCommit = true → state.startedByBegin = true →
      state.txModel = .explicitDeferred) :
    ∃ left, (capabilities.connection flag).leaveTransactionModel state = (true, left) ∧
      Tracks capabilities left ∧ left.autoCommit = true := by
  by_cases isNone : state.txModel = .none
  · exact ⟨state, by simp [leaveTransactionModel, isNone], tracks,
      tracks.none_autoCommit isNone⟩
  · obtain ⟨committed, result, kept, model, notPending, notError⟩ :=
      commit_native flag (tracks.withNativeModel own) rfl
    have keeps : OnKeeps capabilities committed :=
      ⟨fun isImplicit _ => .inl (model.trans isImplicit),
        fun isDeferred _ _ => .inl (model.trans isDeferred)⟩
    obtain ⟨succeeds, auto⟩ := setAutoCommitOn_succeeds flag kept settable notPending
      notError
    refine ⟨((capabilities.connection flag).setAutoCommitOn committed).2, ?_,
      setAutoCommitOn_tracks kept keeps, auto⟩
    simp only [leaveTransactionModel, isNone, if_false, connection_nativeTransactionModel, result,
      Outcome.andThen, if_true, succeeds]
    rw [← succeeds]

/-- Leaving another model in the middle of a transaction that a begin started,
where transactions are deferred: the commit starts the next one, which autocommit
on does not end. -/
theorem leaveTransactionModel_begun (flag : FlagUse) {state : Controller DatabaseSession}
    (tracks : Tracks capabilities state)
    (isDeferred : capabilities.nativeTransactionModel = .explicitDeferred)
    (supports : capabilities.supportsAutoCommit = true) (begun : state.startedByBegin = true)
    (notDeferred : state.txModel ≠ .explicitDeferred) :
    ∃ left, (capabilities.connection flag).leaveTransactionModel state = (true, left) ∧
      left.autoCommit = true ∧ left.inTransaction = false ∧ left.eotAutoCommit = false ∧
      left.db.autoCommit = true ∧ left.db.openTransaction = true ∧
      left.db.Reachable capabilities := by
  simp only [Controller.startedByBegin, Bool.and_eq_true] at begun
  have manual : state.autoCommit = false := by simpa [tracks.inTransaction] using begun.1
  have model := (tracks.transactional manual).2
  have notPending : state.eotAutoCommit = false := by
    by_contra pending
    exact notDeferred (tracks.pending.deferred isDeferred (by simpa using pending)).1
  have reachable :
      ((capabilities.connection flag).leaveTransactionModel state).2.db.Reachable capabilities :=
    leaveTransactionModel_frame (DatabaseSession.Reachable capabilities)
      (fun _ _ permitted reachable => reachable.call permitted) tracks.reachable
  have left : (capabilities.connection flag).leaveTransactionModel state =
      (true, { state with
        txModel := .explicitDeferred
        autoCommit := true
        inTransaction := false
        eotAutoCommit := false
        needsCommitOrRollback := false
        db := ⟨true, true, false⟩ }) := by
    simp [leaveTransactionModel, model, commit, finish, setAutoCommitOn,
      Controller.isTransactional, isDeferred, manual, begun.1, Outcome.andThen, endTransaction,
      fakingExplicitTransactions, supports, notPending, DatabaseSession.call, begun.2,
      Controller.setEotAutoCommit, DatabaseSession.close]
  rw [left] at reachable
  exact ⟨_, left, rfl, rfl, rfl, rfl, rfl, reachable⟩

theorem setTransactionModel_eq {txModel : TransactionModel}
    {state left : Controller DatabaseSession} (changes : txModel ≠ state.txModel)
    (result : (capabilities.connection flag).leaveTransactionModel state = (true, left)) :
    (capabilities.connection flag).setTransactionModel txModel state =
      if txModel = .implicit then
        (capabilities.connection flag).setAutoCommitOff { left with txModel }
      else (true, { left with txModel }) := by
  simp [setTransactionModel, changes, result, Outcome.andThen]

theorem setTransactionModel_tracks {txModel : TransactionModel}
    {state : Controller DatabaseSession} (tracks : Tracks capabilities state)
    (keeps : SetModelKeeps capabilities txModel state) :
    Tracks capabilities ((capabilities.connection flag).setTransactionModel txModel state).2 := by
  by_cases same : txModel = state.txModel
  · rw [setTransactionModel, if_pos same]
    exact tracks
  obtain ⟨noneKeeps, deferredKeeps⟩ := keeps.resolve_left same
  by_cases stuck : capabilities.nativeTransactionModel = .implicit ∧
      capabilities.supportsAutoCommit = false
  · have mode : state.db.autoCommit = false := by
      simp [tracks.fixed_autoCommit stuck.2, stuck.1]
    have reachable : (state.db.call capabilities.nativeTransactionModel .commit).Reachable
        capabilities :=
      tracks.reachable.call (by simp)
    rw [setTransactionModel, if_neg same, leaveTransactionModel_fixed tracks stuck.1 stuck.2,
      Outcome.andThen, if_neg (by simp)]
    refine ⟨?_, tracks.none_autoCommit, ?_, ⟨tracks.pending.fixed, tracks.pending.explicit,
      tracks.pending.deferred, tracks.pending.begun⟩⟩
    · have agrees := tracks.agrees
      simpa [Agrees, DatabaseSession.commitsNext, mode] using agrees
    · simpa [DatabaseSession.call, stuck.1] using reachable
  by_cases begun : capabilities.nativeTransactionModel = .explicitDeferred ∧
      capabilities.supportsAutoCommit = true ∧ state.startedByBegin = true ∧
      state.txModel ≠ .explicitDeferred
  · obtain ⟨isDeferred, supports, started, notDeferred⟩ := begun
    obtain ⟨isImplicit, -⟩ := (deferredKeeps isDeferred supports started).resolve_left notDeferred
    obtain ⟨left, result, auto, outside, notPending, -, -, reachable⟩ :=
      leaveTransactionModel_begun flag tracks isDeferred supports started notDeferred
    have native : capabilities.nativeTransactionModel ≠ .none := by simp [isDeferred]
    have called : (left.db.call capabilities.nativeTransactionModel
        .setAutoCommitOff).Reachable capabilities :=
      reachable.call fun _ => supports
    have off : (capabilities.connection flag).setAutoCommitOff { left with txModel } =
        (((capabilities.connection flag).send .setAutoCommitOff
          { left with txModel }).2.setEotAutoCommit false).beginTransaction := by
      simp [setAutoCommitOff, Controller.isTransactional, isImplicit, auto, outside, supports,
        Outcome.andThen]
    rw [setTransactionModel_eq same result, if_pos isImplicit, off]
    refine beginTransaction_tracks (by simp [isImplicit]) (by simpa using called)
      (by simpa using commitsNext_setAutoCommitOff native)
      (entered_pending (fun _ => notPending) (by simp) (by simp) fun _ _ _ => ?_)
    simp [DatabaseSession.call, native]
  · have own : capabilities.nativeTransactionModel = .explicitDeferred →
        capabilities.supportsAutoCommit = true → state.startedByBegin = true →
        state.txModel = .explicitDeferred := by
      intro isDeferred supports started
      by_contra notDeferred
      exact begun ⟨isDeferred, supports, started, notDeferred⟩
    have settable : capabilities.nativeTransactionModel = .implicit →
        capabilities.supportsAutoCommit = true := by
      intro isImplicit
      by_contra supports
      exact stuck ⟨isImplicit, by simpa using supports⟩
    obtain ⟨left, result, kept, auto⟩ :=
      leaveTransactionModel_tracks flag tracks settable own
    have switched := kept.withModel auto txModel
    rw [setTransactionModel_eq same result]
    split
    · rename_i isImplicit
      exact setAutoCommitOff_tracks switched fun isNone => absurd isImplicit (noneKeeps isNone)
    · exact switched

theorem setTransactionModel_agrees_iff {txModel : TransactionModel}
    {state : Controller DatabaseSession} (tracks : Tracks capabilities state) :
    (((capabilities.connection flag).setTransactionModel txModel state).1 = true →
        Agrees capabilities.nativeTransactionModel
          ((capabilities.connection flag).setTransactionModel txModel state).2) ↔
      SetModelKeeps capabilities txModel state := by
  constructor
  · intro agrees
    by_cases same : txModel = state.txModel
    · exact .inl same
    refine .inr ⟨fun isNone isImplicit => ?_, fun isDeferred supports started => ?_⟩
    · -- without transactions the switch comes down to autocommit off
      obtain ⟨left, result, kept, auto⟩ := leaveTransactionModel_tracks flag tracks
        (by simp [isNone]) (by simp [isNone])
      rw [setTransactionModel_eq same result, if_pos isImplicit,
        setAutoCommitOff_agrees_iff (kept.withModel auto txModel)] at agrees
      rw [show txModel = .none from agrees isNone] at isImplicit
      cases isImplicit
    · by_contra neither
      rw [not_or, not_and] at neither
      obtain ⟨left, result, auto, -, -, mode, isOpen, -⟩ :=
        leaveTransactionModel_begun flag tracks isDeferred supports started neither.1
      have notImplicit : txModel ≠ .implicit := by
        intro isImplicit
        have model := neither.2 isImplicit
        rw [not_not] at model
        exact same (isImplicit.trans model.symm)
      rw [setTransactionModel_eq same result, if_neg notImplicit] at agrees
      have said := (agrees rfl).1
      simp [DatabaseSession.commitsNext, auto, mode, isOpen, isDeferred] at said
  · exact fun keeps _ => (setTransactionModel_tracks tracks keeps).agrees

end SqlRelay.Transaction
