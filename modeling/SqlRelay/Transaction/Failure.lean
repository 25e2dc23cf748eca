import Mathlib.Tactic.ByContra
import SqlRelay.Foundation.Run
import SqlRelay.Transaction.Controller

/-!
# The flags when driver calls fail

Here nothing is assumed of the database: every driver call may succeed or fail
as it likes.  What the calls on the controller guarantee then is about the flags
alone.
-/

namespace SqlRelay.Transaction

open SqlRelay.Foundation

variable {Db : Type}

/-- Every driver call made and its result, oldest first. -/
abbrev Log := List (DriverCall × Bool)

/-- The same connection, keeping a log. -/
def Connection.logged (connection : Connection Db) : Connection (Db × Log) where
  toCapabilities := connection.toCapabilities
  call := fun call (db, log) =>
    let (ok, db) := connection.call call db
    (ok, db, log ++ [(call, ok)])
  flag := connection.flag

namespace Controller

/-- The four flags. -/
def flags (state : Controller Db) : Bool × Bool × Bool × TransactionModel :=
  (state.autoCommit, state.inTransaction, state.eotAutoCommit, state.txModel)

/-- The controller is in a transaction exactly when autocommit is off. -/
def Consistent (state : Controller Db) : Prop :=
  state.txModel ≠ .none → state.inTransaction = !state.autoCommit

instance (state : Controller Db) : Decidable state.Consistent :=
  inferInstanceAs (Decidable (_ → _))

end Controller

namespace Connection

variable {connection : Connection Db}

/-! ## Failed calls -/

theorem andThen_flags {first : Outcome Db} {next : Controller Db → Outcome Db}
    {flags : Bool × Bool × Bool × TransactionModel} (sent : first.2.flags = flags)
    (failed : (first.andThen next).1 = false)
    (succeeds : ∀ state, (next state).1 = true) : (first.andThen next).2.flags = flags := by
  rw [Outcome.andThen] at failed ⊢
  split at failed
  · rw [succeeds] at failed
    cases failed
  · rename_i bad
    rw [if_neg bad]
    exact sent

theorem begin_failed {state : Controller Db} (failed : (connection.begin state).1 = false) :
    (connection.begin state).2.flags = state.flags := by
  rw [begin] at failed ⊢
  split_ifs at failed ⊢
  · rfl
  · exact andThen_flags rfl failed fun _ => rfl
  · rfl
  · exact andThen_flags rfl failed fun _ => rfl

theorem finish_failed {call : DriverCall} {notInTransaction : TransactionError}
    {state : Controller Db} (failed : (connection.finish call notInTransaction state).1 = false) :
    (connection.finish call notInTransaction state).2.flags = state.flags := by
  rw [finish] at failed ⊢
  split_ifs at failed ⊢
  · rfl
  · exact andThen_flags rfl failed fun _ => rfl

theorem setAutoCommitOn_failed {state : Controller Db}
    (failed : (connection.setAutoCommitOn state).1 = false) :
    (connection.setAutoCommitOn state).2.flags = state.flags := by
  rw [setAutoCommitOn] at failed ⊢
  split_ifs at failed ⊢ with _ running
  · rfl
  · exact andThen_flags rfl failed fun _ => rfl
  · exact andThen_flags rfl failed fun _ => rfl
  · exact andThen_flags rfl failed fun _ => rfl
  · simp only [Bool.or_eq_true, not_or, Bool.not_eq_true] at running
    simp [Controller.flags, running.1]

theorem setAutoCommitOff_failed {state : Controller Db}
    (transactional : state.txModel ≠ .none)
    (failed : (connection.setAutoCommitOff state).1 = false) :
    (connection.setAutoCommitOff state).2.flags = state.flags := by
  have isTransactional : ¬(!state.isTransactional) = true := by
    simp [Controller.isTransactional, transactional]
  rw [setAutoCommitOff, if_neg isTransactional] at failed ⊢
  split_ifs at failed ⊢ with off inError deferred native <;> try contradiction
  · rfl
  · exact andThen_flags rfl failed fun _ => rfl
  · exact andThen_flags rfl failed fun _ => rfl
  · exact andThen_flags rfl failed fun _ => rfl
  · exact andThen_flags rfl failed fun _ => rfl

/-! ## In a transaction exactly with autocommit off -/

theorem andThen_consistent {first : Outcome Db} {next : Controller Db → Outcome Db}
    (sent : first.2.Consistent) (onwards : (next first.2).2.Consistent) :
    (first.andThen next).2.Consistent :=
  andThen_holds Controller.Consistent sent fun _ => onwards

theorem beginTransaction_consistent (state : Controller Db) :
    state.beginTransaction.2.Consistent := fun _ => rfl

theorem endTransaction_consistent (state : Controller Db) :
    (connection.endTransaction state).Consistent := fun _ => rfl

theorem begin_consistent {state : Controller Db} (consistent : state.Consistent) :
    (connection.begin state).2.Consistent := by
  rw [begin]
  split_ifs
  · exact consistent
  · exact consistent
  · exact consistent
  · exact consistent
  · exact andThen_consistent consistent (beginTransaction_consistent _)
  · exact consistent
  · exact andThen_consistent consistent (beginTransaction_consistent _)

theorem finish_consistent {call : DriverCall} {notInTransaction : TransactionError}
    {state : Controller Db} (consistent : state.Consistent) :
    (connection.finish call notInTransaction state).2.Consistent := by
  rw [finish]
  split_ifs
  · exact consistent
  · exact consistent
  · exact consistent
  · exact andThen_consistent consistent (endTransaction_consistent _)

theorem setAutoCommitOn_consistent {state : Controller Db} (consistent : state.Consistent) :
    (connection.setAutoCommitOn state).2.Consistent := by
  rw [setAutoCommitOn]
  split_ifs with notTransactional running
  · intro transactional
    simp [Controller.isTransactional] at notTransactional
    exact absurd notTransactional transactional
  · exact consistent
  · exact consistent
  · exact consistent
  · exact andThen_consistent consistent (endTransaction_consistent _)
  · exact andThen_consistent consistent (endTransaction_consistent _)
  · exact andThen_consistent consistent (endTransaction_consistent _)
  · simp only [Bool.or_eq_true, not_or, Bool.not_eq_true, Bool.not_eq_false'] at running
    exact fun _ => running.2

/-- There is a way to turn autocommit off. -/
def CanLeaveAutoCommit (connection : Connection Db) (state : Controller Db) : Prop :=
  connection.supportsAutoCommit = true ∨ connection.fakingImplicitTransactions state = true ∨
    connection.supportsExplicitTransactions = true ∨
    connection.fakingExplicitTransactions state = true

theorem setAutoCommitOff_consistent_iff {state : Controller Db} :
    (connection.setAutoCommitOff state).2.Consistent ↔
      state.Consistent ∧
        (state.txModel ≠ .none → state.autoCommit = true → CanLeaveAutoCommit connection state) := by
  by_cases isNone : state.txModel = .none
  · simp [setAutoCommitOff, Controller.isTransactional, Controller.Consistent, isNone]
  have transactional : ¬(!state.isTransactional) = true := by
    simp [Controller.isTransactional, isNone]
  rw [setAutoCommitOff, if_neg transactional]
  by_cases busy : (!state.autoCommit || state.inTransaction) = true
  · have manual : state.Consistent → state.autoCommit = false := by
      intro consistent
      have opposite := consistent isNone
      rw [opposite] at busy
      simpa using busy
    have unchanged : state.Consistent ↔ state.Consistent ∧
        (state.txModel ≠ .none → state.autoCommit = true →
          CanLeaveAutoCommit connection state) := by
      refine ⟨fun consistent => ⟨consistent, fun _ auto => ?_⟩, And.left⟩
      rw [manual consistent] at auto
      cases auto
    rw [if_pos busy, ← unchanged]
    split_ifs
    · rfl
    · rw [Outcome.andThen]
      split <;> rfl
    · rw [Outcome.andThen]
      split <;> rfl
    · rfl
  · have idle : state.autoCommit = true ∧ state.inTransaction = false := by simpa using busy
    have consistent : state.Consistent := fun _ => by rw [idle.1, idle.2]; rfl
    rw [if_neg busy]
    split_ifs with supports fakingImplicit explicit
    · exact iff_of_true (andThen_consistent consistent (beginTransaction_consistent _))
        ⟨consistent, fun _ _ => .inl supports⟩
    · exact iff_of_true (andThen_consistent consistent (beginTransaction_consistent _))
        ⟨consistent, fun _ _ => .inr (.inl fakingImplicit)⟩
    · exact iff_of_true (andThen_consistent consistent (beginTransaction_consistent _))
        ⟨consistent, fun _ _ => .inr (.inr ((Bool.or_eq_true _ _).mp explicit))⟩
    · refine iff_of_false (fun claimed => ?_) fun both => ?_
      · have opposite : state.inTransaction = true := claimed isNone
        rw [idle.2] at opposite
        cases opposite
      · rw [Bool.or_eq_true] at explicit
        rcases both.2 isNone idle.1 with able | able | able
        · exact supports able
        · exact fakingImplicit able
        · exact explicit able

/-! ### Changing the model -/

/-- The condition on a change of the transaction model. -/
def SetModelConsistent (connection : Connection Db) (txModel : TransactionModel)
    (state : Controller Db) : Prop :=
  txModel = state.txModel ∨ txModel = .none ∨
    ((state.txModel = .none → state.inTransaction = !state.autoCommit) ∧
      (connection.nativeTransactionModel = .none → state.txModel ≠ .none →
        state.inTransaction = false) ∧
      (txModel = .implicit → connection.nativeTransactionModel = .implicit →
        connection.supportsAutoCommit = false → state.autoCommit = false))

/-- Where the native model has transactions, leaving the current model ends in a
consistent state. -/
theorem leaveTransactionModel_consistent {state : Controller Db}
    (native : connection.nativeTransactionModel ≠ .none) (model : state.txModel ≠ .none)
    (consistent : state.Consistent) :
    (connection.leaveTransactionModel state).2.inTransaction =
      !(connection.leaveTransactionModel state).2.autoCommit := by
  let start : Controller Db := { state with txModel := connection.nativeTransactionModel }
  let left := (connection.commit start).andThen connection.setAutoCommitOn
  have keepsModel : left.2.txModel = connection.nativeTransactionModel :=
    andThen_holds (fun after => after.txModel = connection.nativeTransactionModel)
      (finish_txModel _ _ _) fun committed => (setAutoCommitOn_txModel _).trans committed
  have kept : left.2.Consistent :=
    andThen_consistent (finish_consistent fun _ => consistent model)
      (setAutoCommitOn_consistent (finish_consistent fun _ => consistent model))
  have opposite : left.2.inTransaction = !left.2.autoCommit := kept (keepsModel ▸ native)
  simp only [leaveTransactionModel, if_neg model]
  split_ifs
  · exact opposite
  · exact opposite

/-- Where autocommit is off for good, no other model can be reached. -/
theorem leaveTransactionModel_stuck {state : Controller Db}
    (native : connection.nativeTransactionModel = .implicit)
    (fixed : connection.supportsAutoCommit = false) (model : state.txModel ≠ .none)
    (consistent : state.Consistent) (manual : state.autoCommit = false) :
    (connection.leaveTransactionModel state).1 = false := by
  have running : state.inTransaction = true := by rw [consistent model, manual]; rfl
  cases sent : connection.call .commit state.db with
  | mk ok db =>
      cases ok <;>
        simp [leaveTransactionModel, model, commit, finish, Controller.isTransactional, native,
          manual, running, send, sent, Outcome.andThen, endTransaction, setAutoCommitOn, fixed,
          fakingImplicitTransactions, fakingExplicitTransactions, supportsExplicitTransactions]

/-- Outside of a transaction there is nothing to leave. -/
theorem leaveTransactionModel_idle {state : Controller Db} (model : state.txModel ≠ .none)
    (auto : state.autoCommit = true) :
    connection.leaveTransactionModel state =
      (true, { state with txModel := connection.nativeTransactionModel }) := by
  cases native : connection.nativeTransactionModel <;>
    simp [leaveTransactionModel, model, commit, finish, setAutoCommitOn,
      Controller.isTransactional, native, auto, Outcome.andThen]

theorem canLeaveAutoCommit_implicit_iff {state : Controller Db}
    (isImplicit : state.txModel = .implicit) :
    CanLeaveAutoCommit connection state ↔
      ¬(connection.nativeTransactionModel = .implicit ∧ connection.supportsAutoCommit = false) := by
  cases supports : connection.supportsAutoCommit <;>
    by_cases native : connection.nativeTransactionModel = .implicit <;>
      simp [CanLeaveAutoCommit, fakingImplicitTransactions, fakingExplicitTransactions,
        supportsExplicitTransactions, isImplicit, supports, native]

/-- The second half of a change of the model. -/
theorem setTransactionModel_left {txModel : TransactionModel} {state : Controller Db}
    (changes : txModel ≠ state.txModel)
    (succeeds : (connection.leaveTransactionModel state).1 = true) :
    (connection.setTransactionModel txModel state).2.Consistent ↔
      (txModel ≠ .none → (connection.leaveTransactionModel state).2.inTransaction =
        !(connection.leaveTransactionModel state).2.autoCommit) ∧
      (txModel = .implicit → (connection.leaveTransactionModel state).2.autoCommit = true →
        ¬(connection.nativeTransactionModel = .implicit ∧
          connection.supportsAutoCommit = false)) := by
  rw [setTransactionModel, if_neg changes, Outcome.andThen, if_pos succeeds]
  dsimp only
  split
  · rename_i isImplicit
    subst isImplicit
    rw [setAutoCommitOff_consistent_iff, canLeaveAutoCommit_implicit_iff rfl]
    simp [Controller.Consistent]
  · rename_i notImplicit
    simp [Controller.Consistent, notImplicit]

theorem setTransactionModel_consistent_iff {txModel : TransactionModel} {state : Controller Db}
    (consistent : state.Consistent) :
    (connection.setTransactionModel txModel state).2.Consistent ↔
      SetModelConsistent connection txModel state := by
  by_cases same : txModel = state.txModel
  · rw [setTransactionModel, if_pos same]
    exact iff_of_true consistent (.inl same)
  simp only [SetModelConsistent, same, false_or]
  by_cases isNone : state.txModel = .none
  · have left : connection.leaveTransactionModel state = (true, state) := by
      simp [leaveTransactionModel, isNone]
    rw [setTransactionModel_left same (by rw [left]), left]
    have changes : txModel ≠ .none := fun toNone => same (toNone.trans isNone.symm)
    cases state.autoCommit <;> simp [isNone, changes]
  by_cases native : connection.nativeTransactionModel = .none
  · have left : connection.leaveTransactionModel state =
        (true, { state with txModel := .none, autoCommit := true }) := by
      simp [leaveTransactionModel, isNone, commit, finish, setAutoCommitOn,
        Controller.isTransactional, native, Outcome.andThen]
    rw [setTransactionModel_left same (by rw [left]), left]
    by_cases toNone : txModel = .none <;> simp [isNone, native, toNone]
  have opposite := leaveTransactionModel_consistent native isNone consistent
  cases succeeds : (connection.leaveTransactionModel state).1 with
  | false =>
      have restored : (connection.setTransactionModel txModel state).2 =
          (connection.leaveTransactionModel state).2 := by
        rw [setTransactionModel, if_neg same, Outcome.andThen, if_neg (by simp [succeeds])]
      rw [restored]
      refine iff_of_true (fun _ => opposite) (.inr ⟨fun toNone => absurd toNone isNone,
        fun toNone => absurd toNone native, fun _ _ _ => ?_⟩)
      by_contra auto
      rw [leaveTransactionModel_idle isNone (by simpa using auto)] at succeeds
      cases succeeds
  | true =>
      rw [setTransactionModel_left same succeeds]
      by_cases stuck : connection.nativeTransactionModel = .implicit ∧
          connection.supportsAutoCommit = false
      · -- only from autocommit is there a way out of here
        have auto : state.autoCommit = true := by
          by_contra manual
          rw [leaveTransactionModel_stuck stuck.1 stuck.2 isNone consistent
            (by simpa using manual)] at succeeds
          cases succeeds
        rw [leaveTransactionModel_idle isNone auto] at opposite ⊢
        have outside : state.inTransaction = false := by simpa [auto] using opposite
        by_cases toNone : txModel = .none <;> simp [isNone, stuck, auto, outside, toNone]
      · refine iff_of_true ⟨fun _ => opposite, fun _ _ => stuck⟩
          (.inr ⟨fun toNone => absurd toNone isNone, fun toNone => absurd toNone native,
            fun _ isImplicit fixed => absurd ⟨isImplicit, fixed⟩ stuck⟩)

/-! ## Along a run -/

namespace Op

def isSetTransactionModel : Op → Bool
  | .setTransactionModel _ => true
  | _ => false

/-- The outcome of one call, with the driver calls it made. -/
def outcome (connection : Connection Db) (state : Controller (Db × Log)) (op : Op) :
    Outcome (Db × Log) :=
  connection.logged.apply op { state with db := (state.db.1, []) }

def step (connection : Connection Db) (state : Controller (Db × Log)) (op : Op) :
    Controller (Db × Log) :=
  (op.outcome connection state).2

/-- What a step shows: the state is consistent, and a call that returns false
after a failed driver call has changed no flag, a change of the model aside. -/
def Shows (connection : Connection Db) (state : Controller (Db × Log)) (op : Op) : Prop :=
  let (ok, after) := op.outcome connection state
  after.Consistent ∧
    (ok = false → after.db.2.any (fun sent => !sent.2) = true →
      op.isSetTransactionModel = false → after.flags = state.flags)

instance (connection : Connection Db) (state : Controller (Db × Log)) (op : Op) :
    Decidable (op.Shows connection state) :=
  inferInstanceAs (Decidable (_ ∧ _))

/-- The condition on a call. -/
def KeepsConsistent (connection : Connection Db) (state : Controller Db) : Op → Prop
  | .begin | .commit | .rollback | .setAutoCommitOn => True
  | .setAutoCommitOff =>
      state.txModel ≠ .none → state.autoCommit = true → CanLeaveAutoCommit connection state
  | .setTransactionModel txModel => SetModelConsistent connection txModel state

end Op

theorem apply_consistent_iff {op : Op} {state : Controller Db} (consistent : state.Consistent) :
    (connection.apply op state).2.Consistent ↔ op.KeepsConsistent connection state := by
  cases op with
  | begin => exact iff_of_true (begin_consistent consistent) trivial
  | commit => exact iff_of_true (finish_consistent consistent) trivial
  | rollback => exact iff_of_true (finish_consistent consistent) trivial
  | setAutoCommitOn => exact iff_of_true (setAutoCommitOn_consistent consistent) trivial
  | setAutoCommitOff =>
      exact setAutoCommitOff_consistent_iff.trans (and_iff_right consistent)
  | setTransactionModel txModel => exact setTransactionModel_consistent_iff consistent

theorem outcome_failed {op : Op} {state : Controller (Db × Log)}
    (failed : (op.outcome connection state).1 = false)
    (sent : (op.outcome connection state).2.db.2.any (fun sent => !sent.2) = true)
    (other : op.isSetTransactionModel = false) :
    (op.outcome connection state).2.flags = state.flags := by
  cases op with
  | begin => exact begin_failed failed
  | commit => exact finish_failed failed
  | rollback => exact finish_failed failed
  | setAutoCommitOn => exact setAutoCommitOn_failed failed
  | setAutoCommitOff =>
      by_cases isNone : state.txModel = .none
      · -- refused without a driver call
        simp [Op.outcome, apply, setAutoCommitOff, Controller.isTransactional, isNone] at sent
      · exact setAutoCommitOff_failed isNone failed
  | setTransactionModel txModel => cases other

theorem shows_iff {op : Op} {state : Controller (Db × Log)} (consistent : state.Consistent) :
    op.Shows connection state ↔ op.KeepsConsistent connection.logged state := by
  have exact_step : (op.outcome connection state).2.Consistent ↔
      op.KeepsConsistent connection.logged { state with db := (state.db.1, []) } :=
    apply_consistent_iff consistent
  have same : op.KeepsConsistent connection.logged { state with db := (state.db.1, []) } ↔
      op.KeepsConsistent connection.logged state := by
    cases op <;> exact Iff.rfl
  rw [← same, ← exact_step]
  exact ⟨And.left, fun kept => ⟨kept, outcome_failed⟩⟩

/-- For every connection, whatever its driver calls answer, and every run of
calls after login: the controller is in a transaction exactly with autocommit
off, and failed driver calls change no flag, exactly if every call meets its
condition. -/
theorem flags_throughout_iff (connection : Connection Db) (before : Controller (Db × Log))
    (initialAutoCommit : Bool) (ops : List Op) :
    let start := connection.logged.loggedIn before
    let run := (if initialAutoCommit then .setAutoCommitOn else .setAutoCommitOff) :: ops
    Along (Op.step connection) (Op.Shows connection) start run ↔
      Along (Op.step connection) (Op.KeepsConsistent connection.logged) start run := by
  intro start run
  have atLogin : start.Consistent := fun _ => rfl
  have kept (state : Controller (Db × Log)) (op : Op) (consistent : state.Consistent)
      (keeps : op.KeepsConsistent connection.logged state) :
      (op.step connection state).Consistent :=
    ((shows_iff consistent).mpr keeps).1
  exact Along.iff_guard kept (fun _ _ consistent => shows_iff consistent) atLogin

/-- A database like sqlite's: no transactions and no autocommit. -/
def nonTransactional : Connection Unit where
  nativeTransactionModel := .none
  supportsAutoCommit := false
  defaultAutoCommit := true
  default_on := fun _ => rfl
  default_off := by simp
  call := fun _ db => (true, db)
  flag := ⟨false, false, false⟩

/-- In the explicit model, autocommit off returns true there with the autocommit
flag off and the transaction flag off as well. -/
theorem not_flags_throughout :
    ¬∀ (connection : Connection Unit) (before : Controller (Unit × Log))
      (initialAutoCommit : Bool) (ops : List Op),
      Along (Op.step connection) (Op.Shows connection) (connection.logged.loggedIn before)
        ((if initialAutoCommit then .setAutoCommitOn else .setAutoCommitOff) :: ops) := by
  intro every
  have run := every nonTransactional ⟨.explicit, false, false, false, false, none, (), []⟩ true
    [.setAutoCommitOff]
  revert run
  decide

end Connection

end SqlRelay.Transaction
