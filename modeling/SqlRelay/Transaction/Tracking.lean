import Mathlib.Tactic.ByContra
import SqlRelay.Transaction.Database

/-!
# Keeping track of the database session

The invariant that relates the controller's flags to the session they are about,
and what ending a transaction does to both.
-/

namespace SqlRelay.Transaction

open Connection

namespace Controller

/-- The transaction was opened by a begin, not by turning autocommit off. -/
def startedByBegin (state : Controller DatabaseSession) : Bool :=
  state.inTransaction && state.db.autoCommit

end Controller

namespace DatabaseSession

@[simp] theorem close_autoCommit (session : DatabaseSession) :
    session.close.autoCommit = session.autoCommit := rfl

@[simp] theorem close_openTransaction (session : DatabaseSession) :
    session.close.openTransaction = false := rfl

@[simp] theorem close_uncommitted (session : DatabaseSession) :
    session.close.uncommitted = false := rfl

/-- Outside of a transaction, autocommit on always has its effect. -/
theorem commitsNext_setAutoCommitOn {native : TransactionModel} {session : DatabaseSession}
    (closed : session.openTransaction = false) :
    (session.call native .setAutoCommitOn).commitsNext native = true := by
  simp only [DatabaseSession.call, commitsNext]
  split_ifs with isNone unchanged
  · simp [isNone]
  · simp [unchanged.2, closed]
  · simp

/-- What is true of a session of these capabilities whatever the calls: work is
uncommitted only in an open transaction, the mode is fixed where it cannot be
set, and autocommit rules out an open transaction unless there is a begin. -/
structure Reachable (capabilities : Capabilities) (session : DatabaseSession) : Prop where
  closed : session.openTransaction = false → session.uncommitted = false
  fixed : capabilities.supportsAutoCommit = false →
    session.autoCommit = capabilities.defaultAutoCommit
  none_closed : capabilities.nativeTransactionModel = .none → session.openTransaction = false
  implicit_closed : capabilities.nativeTransactionModel = .implicit → session.autoCommit = true →
    session.openTransaction = false

variable {capabilities : Capabilities} {session : DatabaseSession}

theorem Reachable.call {call : DriverCall}
    (permitted : call = .setAutoCommitOn ∨ call = .setAutoCommitOff →
      capabilities.supportsAutoCommit = true)
    (reachable : session.Reachable capabilities) :
    (session.call capabilities.nativeTransactionModel call).Reachable capabilities := by
  obtain ⟨closed, fixed, noneClosed, implicitClosed⟩ := reachable
  unfold DatabaseSession.call
  split
  · exact ⟨closed, fixed, noneClosed, implicitClosed⟩
  · rename_i transactional
    cases call with
    | begin =>
        dsimp only
        split_ifs with isImplicit
        · exact ⟨closed, fixed, noneClosed, implicitClosed⟩
        · exact ⟨by simp, fixed, fun same => absurd same transactional,
            fun same => absurd same isImplicit⟩
    | commit | rollback => exact ⟨by simp [close], fixed, by simp [close], by simp [close]⟩
    | setAutoCommitOn =>
        have supports := permitted (.inl rfl)
        dsimp only
        split_ifs
        · exact ⟨closed, fixed, noneClosed, implicitClosed⟩
        · exact ⟨by simp [close], by simp [supports], by simp [close], by simp [close]⟩
    | setAutoCommitOff =>
        have supports := permitted (.inr rfl)
        exact ⟨closed, by simp [supports], noneClosed, by simp⟩

theorem Reachable.statement (reachable : session.Reachable capabilities) :
    (session.statement capabilities.nativeTransactionModel).Reachable capabilities := by
  rw [DatabaseSession.statement]
  split_ifs with commits
  · exact reachable
  · simp only [commitsNext, Bool.or_eq_true, beq_iff_eq, Bool.and_eq_true, Bool.not_eq_true',
      not_or, not_and, Bool.not_eq_false] at commits
    refine ⟨by simp, reachable.fixed, fun isNone => absurd isNone commits.1, ?_⟩
    intro isImplicit autoCommit
    exact absurd (reachable.implicit_closed isImplicit autoCommit) (by simp [commits.2 autoCommit])

end DatabaseSession

/-- Where the pending autocommit state stands: in a transaction it is on only if
the session will be in autocommit afterwards, and where transactions are
deferred it is kept in a transaction only. -/
structure PendingKept (capabilities : Capabilities) (state : Controller DatabaseSession) : Prop where
  fixed : capabilities.nativeTransactionModel = .implicit → state.txModel = .explicitDeferred →
    capabilities.supportsAutoCommit = false → state.eotAutoCommit = false
  explicit : capabilities.nativeTransactionModel ≠ .implicit → state.txModel = .explicitDeferred →
    state.inTransaction = true → state.eotAutoCommit = true → state.db.autoCommit = true
  deferred : capabilities.nativeTransactionModel = .explicitDeferred →
    state.eotAutoCommit = true → state.txModel = .explicitDeferred ∧ state.inTransaction = true
  begun : capabilities.nativeTransactionModel = .explicitDeferred →
    capabilities.supportsAutoCommit = true → state.txModel = .explicitDeferred →
    state.startedByBegin = true → state.eotAutoCommit = true

/-- The invariant: what is true as long as the controller keeps track of the
session. -/
structure Tracks (capabilities : Capabilities) (state : Controller DatabaseSession) : Prop where
  agrees : Agrees capabilities.nativeTransactionModel state
  none_autoCommit : state.txModel = .none → state.autoCommit = true
  reachable : state.db.Reachable capabilities
  pending : PendingKept capabilities state

variable {capabilities : Capabilities} {flag : FlagUse}

namespace Tracks

variable {state : Controller DatabaseSession}

theorem inTransaction (tracks : Tracks capabilities state) :
    state.inTransaction = !state.autoCommit := by
  rw [tracks.agrees.2, tracks.agrees.1]

/-- In a transaction there is something to be in. -/
theorem transactional (tracks : Tracks capabilities state) (manual : state.autoCommit = false) :
    capabilities.nativeTransactionModel ≠ .none ∧ state.txModel ≠ .none := by
  constructor
  · intro isNone
    have agrees := tracks.agrees.1
    rw [manual, DatabaseSession.commitsNext, isNone] at agrees
    cases agrees
  · intro isNone
    rw [tracks.none_autoCommit isNone] at manual
    cases manual

/-- Outside of a transaction the session is in autocommit, with nothing open. -/
theorem idle (tracks : Tracks capabilities state) (auto : state.autoCommit = true)
    (transactional : capabilities.nativeTransactionModel ≠ .none) :
    state.db.autoCommit = true ∧ state.db.openTransaction = false := by
  have agrees := tracks.agrees.1
  rw [auto, DatabaseSession.commitsNext, beq_false_of_ne transactional] at agrees
  simpa using agrees.symm

/-- Implicit transactions and autocommit exclude each other. -/
theorem implicit_autoCommit (tracks : Tracks capabilities state)
    (isImplicit : capabilities.nativeTransactionModel = .implicit) :
    state.db.autoCommit = state.autoCommit := by
  rw [tracks.agrees.1, DatabaseSession.commitsNext, isImplicit]
  cases autoCommit : state.db.autoCommit with
  | false => rfl
  | true => simp [tracks.reachable.implicit_closed isImplicit autoCommit]

/-- A session whose mode cannot be set is in autocommit unless its transactions
are implicit. -/
theorem fixed_autoCommit (tracks : Tracks capabilities state)
    (fixed : capabilities.supportsAutoCommit = false) :
    state.db.autoCommit = !(capabilities.nativeTransactionModel == .implicit) := by
  rw [tracks.reachable.fixed fixed]
  by_cases isImplicit : capabilities.nativeTransactionModel = .implicit
  · simp [isImplicit, capabilities.default_off isImplicit fixed]
  · simp [isImplicit, capabilities.default_on isImplicit]

/-- The invariant is about the flags and the session only. -/
theorem withError (tracks : Tracks capabilities state) (error : Option (Nat × String)) :
    Tracks capabilities { state with error } :=
  ⟨tracks.agrees, tracks.none_autoCommit, tracks.reachable,
    ⟨tracks.pending.fixed, tracks.pending.explicit, tracks.pending.deferred,
      tracks.pending.begun⟩⟩

/-- A session in the same mode that takes the next statement as this one does. -/
theorem withSession (tracks : Tracks capabilities state) {db : DatabaseSession}
    (reachable : db.Reachable capabilities) (mode : db.autoCommit = state.db.autoCommit)
    (commits : db.commitsNext capabilities.nativeTransactionModel =
      state.db.commitsNext capabilities.nativeTransactionModel) (needed : Bool) :
    Tracks capabilities { state with db, needsCommitOrRollback := needed } := by
  refine ⟨⟨?_, ?_⟩, tracks.none_autoCommit, reachable,
    ⟨tracks.pending.fixed, ?_, tracks.pending.deferred, ?_⟩⟩
  · rw [commits]
    exact tracks.agrees.1
  · rw [commits]
    exact tracks.agrees.2
  · simpa only [mode] using tracks.pending.explicit
  · simpa only [Controller.startedByBegin, mode] using tracks.pending.begun

/-- Outside of a transaction nothing is uncommitted. -/
theorem committed (tracks : Tracks capabilities state) (auto : state.autoCommit = true) :
    state.db.uncommitted = false := by
  apply tracks.reachable.closed
  by_cases isNone : capabilities.nativeTransactionModel = .none
  · exact tracks.reachable.none_closed isNone
  · exact (tracks.idle auto isNone).2

theorem nothingPending (tracks : Tracks capabilities state) (auto : state.autoCommit = true)
    (deferred : capabilities.nativeTransactionModel = .explicitDeferred) :
    state.eotAutoCommit = false := by
  by_contra pending
  have inTransaction := (tracks.pending.deferred deferred (by simpa using pending)).2
  rw [tracks.inTransaction, auto] at inTransaction
  cases inTransaction

end Tracks

/-! ## The end of a transaction -/

@[simp] theorem connection_nativeTransactionModel :
    (capabilities.connection flag).nativeTransactionModel =
      capabilities.nativeTransactionModel := rfl

@[simp] theorem connection_supportsAutoCommit :
    (capabilities.connection flag).supportsAutoCommit = capabilities.supportsAutoCommit := rfl

@[simp] theorem send_connection (call : DriverCall) (state : Controller DatabaseSession) :
    (capabilities.connection flag).send call state =
      (true, { state with
        db := state.db.call capabilities.nativeTransactionModel call
        needsCommitOrRollback := flag.after call state.needsCommitOrRollback }) := rfl

/-- With the transaction closed, what the flags will say against what the session
will do. -/
theorem endTransaction_agrees_deferred {state : Controller DatabaseSession}
    (transactional : capabilities.nativeTransactionModel ≠ .none)
    (closed : state.db.openTransaction = false) (deferred : state.txModel = .explicitDeferred) :
    Agrees capabilities.nativeTransactionModel
        ((capabilities.connection flag).endTransaction state) ↔
      (capabilities.nativeTransactionModel = .implicit → capabilities.supportsAutoCommit = false →
        state.eotAutoCommit = state.db.autoCommit) ∧
      (capabilities.nativeTransactionModel ≠ .implicit → state.eotAutoCommit = true →
        state.db.autoCommit = true) := by
  by_cases isImplicit : capabilities.nativeTransactionModel = .implicit
  · cases supports : capabilities.supportsAutoCommit <;> cases pending : state.eotAutoCommit <;>
      simp [endTransaction, Agrees, DatabaseSession.commitsNext, DatabaseSession.call,
        fakingExplicitTransactions, *]
  · cases pending : state.eotAutoCommit <;>
      simp [endTransaction, Agrees, DatabaseSession.commitsNext, DatabaseSession.call,
        fakingExplicitTransactions, *]

theorem endTransaction_agrees_implicit {state : Controller DatabaseSession}
    (transactional : capabilities.nativeTransactionModel ≠ .none)
    (closed : state.db.openTransaction = false) (implicit : state.txModel = .implicit) :
    Agrees capabilities.nativeTransactionModel
        ((capabilities.connection flag).endTransaction state) ↔
      (state.autoCommit = true → state.db.autoCommit = true) ∧
      (state.autoCommit = false → state.db.autoCommit = true →
        capabilities.nativeTransactionModel ≠ .implicit ∧
          capabilities.supportsAutoCommit = false) := by
  by_cases isImplicit : capabilities.nativeTransactionModel = .implicit
  · cases autoCommit : state.autoCommit <;>
      simp [endTransaction, Agrees, DatabaseSession.commitsNext, fakingExplicitTransactions,
        fakingImplicitTransactions, supportsExplicitTransactions, *]
  · cases autoCommit : state.autoCommit <;> cases supports : capabilities.supportsAutoCommit <;>
      simp [endTransaction, Agrees, DatabaseSession.commitsNext, DatabaseSession.call,
        fakingImplicitTransactions, *]

theorem endTransaction_agrees_explicit {state : Controller DatabaseSession}
    (transactional : capabilities.nativeTransactionModel ≠ .none)
    (closed : state.db.openTransaction = false) (notDeferred : state.txModel ≠ .explicitDeferred)
    (notImplicit : state.txModel ≠ .implicit) :
    Agrees capabilities.nativeTransactionModel
        ((capabilities.connection flag).endTransaction state) ↔
      (capabilities.supportsAutoCommit = false → state.db.autoCommit = true) := by
  have explicit : (supportsExplicitTransactions (capabilities.connection flag) ||
      fakingExplicitTransactions (capabilities.connection flag) state) = true := by
    by_cases isImplicit : capabilities.nativeTransactionModel = .implicit <;>
      simp [supportsExplicitTransactions, fakingExplicitTransactions, *]
  cases supports : capabilities.supportsAutoCommit with
  | false =>
      simp [endTransaction, Agrees, DatabaseSession.commitsNext, fakingImplicitTransactions, *]
  | true =>
      have on : (state.db.call capabilities.nativeTransactionModel .setAutoCommitOn).commitsNext
          capabilities.nativeTransactionModel = true :=
        DatabaseSession.commitsNext_setAutoCommitOn closed
      simp [endTransaction, Agrees, fakingImplicitTransactions, *]

theorem endTransaction_autoCommit {state : Controller DatabaseSession}
    (transactional : capabilities.nativeTransactionModel ≠ .none) :
    ((capabilities.connection flag).endTransaction state).autoCommit =
      if state.txModel = .explicitDeferred then state.eotAutoCommit
      else state.autoCommit || state.txModel != .implicit := by
  by_cases deferred : state.txModel = .explicitDeferred
  · simp [endTransaction, deferred]
  · by_cases implicit : state.txModel = .implicit
    · simp only [endTransaction, implicit, fakingImplicitTransactions]
      by_cases isImplicit : capabilities.nativeTransactionModel = .implicit
      · simp [isImplicit, supportsExplicitTransactions, fakingExplicitTransactions, implicit]
      · simp [isImplicit]
        split_ifs <;> rfl
    · have explicit : (supportsExplicitTransactions (capabilities.connection flag) ||
          fakingExplicitTransactions (capabilities.connection flag) state) = true := by
        by_cases isImplicit : capabilities.nativeTransactionModel = .implicit <;>
          simp [supportsExplicitTransactions, fakingExplicitTransactions, *]
      simp [endTransaction, fakingImplicitTransactions, *]

theorem endTransaction_eotAutoCommit (state : Controller DatabaseSession) :
    ((capabilities.connection flag).endTransaction state).eotAutoCommit =
      (state.eotAutoCommit && state.txModel != .explicitDeferred) := by
  by_cases deferred : state.txModel = .explicitDeferred
  · simp [endTransaction, deferred]
  · simp only [endTransaction, deferred, if_false]
    split_ifs <;> simp [deferred]

theorem endTransaction_pending {state : Controller DatabaseSession}
    (kept : capabilities.nativeTransactionModel = .explicitDeferred →
      state.txModel ≠ .explicitDeferred → state.eotAutoCommit = false)
    (begun : capabilities.nativeTransactionModel = .explicitDeferred →
      capabilities.supportsAutoCommit = true → state.txModel = .explicitDeferred →
      state.db.autoCommit = true → state.eotAutoCommit = true) :
    PendingKept capabilities ((capabilities.connection flag).endTransaction state) := by
  by_cases deferred : state.txModel = .explicitDeferred
  · have reset : ((capabilities.connection flag).endTransaction state).eotAutoCommit = false := by
      simp [endTransaction_eotAutoCommit, deferred]
    refine ⟨fun _ _ _ => reset, ?_, ?_, ?_⟩
    · simp [reset]
    · simp [reset]
    · intro native supports _ started
      have notImplicit : capabilities.nativeTransactionModel ≠ .implicit := by simp [native]
      cases pending : state.eotAutoCommit with
      | true =>
          simp [Controller.startedByBegin, endTransaction, deferred, pending] at started
      | false =>
          have mode : state.db.autoCommit = true := by
            simpa [Controller.startedByBegin, endTransaction, deferred, pending, native,
              fakingExplicitTransactions, DatabaseSession.call] using started
          rw [begun native supports deferred mode] at pending
          cases pending
  · refine ⟨fun _ same => ?_, fun _ same => ?_, fun native pending => ?_, fun _ _ same => ?_⟩
    · exact absurd (by simpa using same) deferred
    · exact absurd (by simpa using same) deferred
    · rw [endTransaction_eotAutoCommit, kept native deferred] at pending
      cases pending
    · exact absurd (by simpa using same) deferred

end SqlRelay.Transaction
