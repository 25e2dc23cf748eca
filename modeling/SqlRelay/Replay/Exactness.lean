import SqlRelay.Foundation.Run
import SqlRelay.Replay.Log

/-!
# What a replay finds in the log

The trigger keeps its log by flags of its own, and does not hear of a transaction that ends while
it replays.  As long as it finds the log of an earlier transaction gone when a new one starts, the
log is what the current transaction has run.
-/

namespace SqlRelay.Replay

open SqlRelay.Foundation SqlRelay.Query SqlRelay.Transaction SqlRelay.Session

variable {Db Binds : Type} (settings : LogSettings) (connection : Connection Db)

/-- The state in which a replay starts. -/
def System.logged (submission : Submission Db Binds) (system : System Db Binds) :
    System Db Binds :=
  (system.answered submission.db).logQuery (verdict settings submission)

/-- The trigger takes note of the query. -/
def Seen (system : System Db Binds) (submission : Submission Db Binds) : Prop :=
  system.waiting = false ∧ submission.suppressed = false ∧ system.trigger.disabled = false

/-- A transaction-scope replay finds exactly the queries that were logged since the transaction
began, and no replay runs any other query. -/
def LogExact (system : System Db Binds) : Input Db Binds → Prop
  | .submit submission =>
      Seen system submission →
        ∀ condition, replayCondition settings.conditions submission.report = some condition →
          let logged := system.logged settings submission
          (condition.replaytx = true → logged.trigger.log = logged.since) ∧
            ∀ attempt ∈ (replay settings.toSettings condition logged.trigger.log
              (submission.again.map Ran.execution)).attempts, attempt.details ∈ logged.since
  | .op _ | .reLogIn _ _ => True

/-- A replay in a transaction stays in it, or ends it by a rollback. -/
def StaysInside (system : System Db Binds) (submission : Submission Db Binds)
    (condition : Condition) : Prop :=
  let logged := system.logged settings submission
  (∀ again ∈ logged.attempts settings condition submission.again,
    again.2.prepared = true → again.2.failure = none →
      determineQueryType again.1.details.query ≠ .setIncludingAutoCommitOn) ∧
  ((replay settings.toSettings condition logged.trigger.log
      (submission.again.map Ran.execution)).returned = some false →
    connection.finishEnds .rollback
      (logged.replayed settings connection condition submission.again).controller = true)

/-- In a transaction: the first query does not find the flag and the log of an earlier one, a query
that cannot be replayed does not start a replay of those before it, and a replay stays inside. -/
def InOrder (system : System Db Binds) : Input Db Binds → Prop
  | .submit submission =>
      Seen system submission → system.controller.inTransaction = true →
        (system.fresh = true → system.trigger.wasintx = false ∨ system.trigger.log = []) ∧
        ∀ condition, replayCondition settings.conditions submission.report = some condition →
          (condition.replaytx = true → verdict settings submission = .unreplayable →
            system.before = []) ∧
          StaysInside settings connection system submission condition
  | .op _ | .reLogIn _ _ => True

/-- In a transaction that the trigger has seen a query of, its log is that of the transaction, or
it is disabled. -/
structure Settled (system : System Db Binds) : Prop where
  listens : system.trigger.logqueries = true
  keeps : system.controller.inTransaction = true → system.fresh = false →
    system.trigger.wasintx = true ∧
      (system.trigger.disabled = true ∨ system.trigger.log = system.since)

variable {settings connection}

@[simp] theorem endTransaction_logqueries (trigger : Trigger Binds) :
    trigger.endTransaction.logqueries = trigger.logqueries := by
  rw [Trigger.endTransaction]
  split <;> rfl

@[simp] theorem moved_logqueries (ends : Bool) (controller : Controller Db)
    (system : System Db Binds) :
    (system.moved ends controller).trigger.logqueries = system.trigger.logqueries := by
  simp only [System.moved]
  split <;> cases ends <;> simp

@[simp] theorem moved_waiting (ends : Bool) (controller : Controller Db)
    (system : System Db Binds) : (system.moved ends controller).waiting = system.waiting := by
  simp only [System.moved]
  split <;> rfl

/-- A transaction that ended or began is a new one to the trigger. -/
theorem moved_settled {ends : Bool} {controller : Controller Db} {system : System Db Binds}
    (settled : Settled system) : Settled (system.moved ends controller) := by
  constructor
  · simpa using settled.listens
  · intro inside seen
    simp only [System.moved] at inside seen ⊢
    split at seen
    case isTrue => simp at seen
    case isFalse unmoved =>
      simp only [Bool.or_eq_true, not_or, Bool.not_eq_true, bne_eq_false_iff_eq] at unmoved
      obtain ⟨continues, same⟩ := unmoved
      subst continues
      rw [if_neg (by simp [same])] at inside ⊢
      exact settled.keeps (same ▸ inside) seen

/-! ## Logging -/

@[simp] theorem logQuery_logqueries (inTransaction : Bool) (verdict : Verdict Binds)
    (trigger : Trigger Binds) :
    (trigger.logQuery inTransaction verdict).logqueries = trigger.logqueries := by
  obtain ⟨log, logqueries, wasintx, disabled⟩ := trigger
  cases inTransaction <;> cases logqueries <;> cases wasintx <;> cases verdict <;> rfl

/-- Outside of a transaction the log starts with the query. -/
theorem logQuery_outside {system : System Db Binds} {verdict : Verdict Binds}
    (listens : system.trigger.logqueries = true)
    (outside : system.controller.inTransaction = false) :
    (system.logQuery verdict).trigger.log = verdict.entries ∧
      (system.logQuery verdict).since = verdict.entries := by
  constructor
  · cases verdict <;>
      simp [System.logQuery, Trigger.logQuery, Verdict.entries, listens, outside]
  · simp [System.logQuery, System.before, outside]

/-- In a transaction it goes on, unless the query cannot be replayed. -/
theorem logQuery_inside {system : System Db Binds} {verdict : Verdict Binds}
    (settled : Settled system) (enabled : system.trigger.disabled = false)
    (inside : system.controller.inTransaction = true)
    (heard : system.fresh = true → system.trigger.wasintx = false ∨ system.trigger.log = []) :
    (system.logQuery verdict).trigger.wasintx = true ∧
      (verdict = .unreplayable → (system.logQuery verdict).trigger.log = [] ∧
        (system.logQuery verdict).trigger.disabled = true) ∧
      (verdict ≠ .unreplayable →
        (system.logQuery verdict).trigger.log = (system.logQuery verdict).since) := by
  have start : (if system.trigger.wasintx then system.trigger.log else []) = system.before := by
    cases fresh : system.fresh with
    | true =>
        rw [System.before, fresh]
        rcases heard fresh with left | empty
        · simp [left]
        · simp [empty]
    | false =>
        obtain ⟨was, keeps⟩ := settled.keeps inside fresh
        rw [System.before, fresh, inside, if_pos was]
        simpa [enabled] using keeps
  simp only [System.logQuery, ← start]
  cases was : system.trigger.wasintx <;> cases verdict <;>
    simp [Trigger.logQuery, Verdict.entries, settled.listens, inside, was]

/-- What a query leaves for the replay that it may start. -/
theorem logged_exact {system : System Db Binds} {submission : Submission Db Binds}
    (settled : Settled system) (seen : Seen system submission)
    (inOrder : InOrder settings connection system (.submit submission)) :
    LogExact settings system (.submit submission) := by
  intro _ condition met logged
  have within : (∀ details ∈ logged.trigger.log, details ∈ logged.since) ∧
      (condition.replaytx = true → logged.trigger.log = logged.since) := by
    have answered : Settled (system.answered submission.db) := ⟨settled.listens, settled.keeps⟩
    cases inside : system.controller.inTransaction with
    | false =>
        obtain ⟨log, since⟩ := @logQuery_outside _ _ _ (verdict settings submission)
          answered.listens inside
        have same : logged.trigger.log = logged.since := log.trans since.symm
        exact ⟨fun _ member => same ▸ member, fun _ => same⟩
    | true =>
        obtain ⟨heard, replays⟩ := inOrder seen inside
        obtain ⟨_, unreplayable, replayable⟩ := @logQuery_inside _ _ _
          (verdict settings submission) answered seen.2.2 inside heard
        by_cases kind : verdict settings submission = .unreplayable
        · have empty : logged.trigger.log = [] := (unreplayable kind).1
          constructor
          · simp [empty]
          · intro scope
            have nothing := (replays condition met).1 scope kind
            rw [empty]
            change [] = system.before ++ (verdict settings submission).entries
            simp [nothing, kind, Verdict.entries]
        · have same : logged.trigger.log = logged.since := replayable kind
          exact ⟨fun _ member => same ▸ member, fun _ => same⟩
  constructor
  · exact within.2
  · intro attempt member
    exact within.1 _ (replay_details _ _ _ _ attempt member)

/-- After the query the trigger is settled again. -/
theorem logged_settled {system : System Db Binds} {submission : Submission Db Binds}
    (settled : Settled system) (seen : Seen system submission)
    (inOrder : InOrder settings connection system (.submit submission)) :
    Settled (system.logged settings submission) := by
  have answered : Settled (system.answered submission.db) := ⟨settled.listens, settled.keeps⟩
  constructor
  · exact (logQuery_logqueries _ _ _).trans answered.listens
  · intro inside _
    obtain ⟨heard, _⟩ := inOrder seen inside
    obtain ⟨was, unreplayable, replayable⟩ := @logQuery_inside _ _ _
      (verdict settings submission) answered seen.2.2 inside heard
    refine ⟨was, ?_⟩
    by_cases kind : verdict settings submission = .unreplayable
    · exact Or.inl (unreplayable kind).2
    · exact Or.inr (replayable kind)

/-! ## Replaying -/

/-- Outside of a transaction nothing of the log matters to a later one. -/
def Outside (system : System Db Binds) : Prop :=
  system.controller.inTransaction = true → system.fresh = true

theorem moved_outside {ends : Bool} {controller : Controller Db} {system : System Db Binds}
    (outside : Outside system) : Outside (system.moved ends controller) := by
  intro inside
  simp only [System.moved] at inside ⊢
  split at inside
  case isTrue moved => rw [if_pos moved]
  case isFalse unmoved =>
    rw [if_neg unmoved]
    simp only [Bool.or_eq_true, not_or, Bool.not_eq_true, bne_eq_false_iff_eq] at unmoved
    exact outside (unmoved.2 ▸ inside)

/-- In a transaction that goes on, only the database and the controller's own flags change. -/
structure SameLog (logged system : System Db Binds) : Prop where
  inside : system.controller.inTransaction = true
  fresh : system.fresh = logged.fresh
  since : system.since = logged.since
  log : system.trigger.log = logged.trigger.log
  wasintx : system.trigger.wasintx = logged.trigger.wasintx
  disabled : system.trigger.disabled = logged.trigger.disabled

@[simp] theorem commitOrRollback_inTransaction (query : List Byte) (state : Controller Db) :
    (commitOrRollback query state).inTransaction = state.inTransaction := by
  rw [commitOrRollback]
  split_ifs <;> rfl

theorem follow_same {logged system : System Db Binds} {query : List Byte}
    (same : SameLog logged system)
    (stays : determineQueryType query ≠ .setIncludingAutoCommitOn) :
    SameLog logged (follow connection query system) := by
  have inside : (followAutoCommit connection (determineQueryType query)
      (commitOrRollback query system.controller)).inTransaction = true := by
    unfold followAutoCommit
    split
    case h_1 on => exact absurd on stays
    case h_2 => simp [same.inside]
    case h_3 => simp [same.inside]
  rw [follow, beq_false_of_ne stays, Bool.false_and]
  generalize followAutoCommit connection (determineQueryType query)
    (commitOrRollback query system.controller) = next at inside
  have unmoved : system.moved false next = { system with controller := next } := by
    simp [System.moved, inside, same.inside]
  rw [unmoved]
  exact ⟨inside, same.fresh, same.since, same.log, same.wasintx, same.disabled⟩

/-- A query that is run again and does not turn autocommit on. -/
theorem runAgain_same {logged system : System Db Binds}
    {again : Attempt (QueryDetails Binds) × Ran Db} (same : SameLog logged system)
    (stays : again.2.prepared = true → again.2.failure = none →
      determineQueryType again.1.details.query ≠ .setIncludingAutoCommitOn) :
    SameLog logged (runAgain connection system again) := by
  have answered : SameLog logged (system.answered again.2.db) :=
    ⟨same.inside, same.fresh, same.since, same.log, same.wasintx, same.disabled⟩
  have followed : SameLog logged
      (if again.2.prepared && again.2.failure.isNone then
        follow connection again.1.details.query (system.answered again.2.db)
      else system.answered again.2.db) := by
    split
    case isTrue went =>
      rw [Bool.and_eq_true, Option.isNone_iff_eq_none] at went
      exact follow_same answered (stays went.1 went.2)
    case isFalse => exact answered
  simp only [runAgain]
  split
  · exact ⟨followed.inside, followed.fresh, followed.since, followed.log, followed.wasintx,
      followed.disabled⟩
  · exact followed

theorem runAgain_outside {system : System Db Binds} {again : Attempt (QueryDetails Binds) × Ran Db}
    (outside : Outside system) : Outside (runAgain connection system again) := by
  have answered : Outside (system.answered again.2.db) := outside
  have followed : Outside
      (if again.2.prepared && again.2.failure.isNone then
        follow connection again.1.details.query (system.answered again.2.db)
      else system.answered again.2.db) := by
    split
    · exact moved_outside answered
    · exact answered
  simp only [runAgain]
  split
  · exact followed
  · exact followed

theorem runsAgain_same {logged system : System Db Binds}
    {again : List (Attempt (QueryDetails Binds) × Ran Db)} (same : SameLog logged system)
    (stays : ∀ one ∈ again, one.2.prepared = true → one.2.failure = none →
      determineQueryType one.1.details.query ≠ .setIncludingAutoCommitOn) :
    SameLog logged (again.foldl (runAgain connection) system) := by
  induction again generalizing system with
  | nil => exact same
  | cons first rest ih =>
      apply ih (runAgain_same same (stays first List.mem_cons_self))
      intro one member
      exact stays one (List.mem_cons_of_mem _ member)

theorem replayed_outside {logged : System Db Binds} {condition : Condition}
    {again : List (Ran Db)} (outside : Outside logged) :
    Outside (logged.replayed settings connection condition again) := by
  have unheard : Outside (logged.setLogqueries false) := outside
  exact foldl_invariant (fun _ _ => runAgain_outside) unheard _

theorem settled_of_outside {system : System Db Binds} (outside : Outside system)
    (listens : system.trigger.logqueries = true) : Settled system := by
  constructor
  · exact listens
  · intro inside seen
    rw [outside inside] at seen
    contradiction

/-- A replay that comes to an end leaves the trigger settled. -/
theorem replayLog_settled {logged : System Db Binds} {condition : Condition}
    {again : List (Ran Db)} (settled : Settled logged)
    (stays : logged.controller.inTransaction = true →
      (∀ one ∈ logged.attempts settings condition again,
        one.2.prepared = true → one.2.failure = none →
          determineQueryType one.1.details.query ≠ .setIncludingAutoCommitOn) ∧
      ((replay settings.toSettings condition logged.trigger.log
          (again.map Ran.execution)).returned = some false →
        connection.finishEnds .rollback
          (logged.replayed settings connection condition again).controller = true))
    (ended : (replayLog settings connection condition again logged).2.waiting = false) :
    Settled (replayLog settings connection condition again logged).2 := by
  cases inside : logged.controller.inTransaction with
  | false =>
      have outside : Outside logged := by
        intro contrary
        rw [inside] at contrary
        contradiction
      have ran := @replayed_outside _ _ settings connection _ condition again outside
      revert ended
      simp only [replayLog]
      split
      · intro ended
        simp at ended
      · intro _
        exact settled_of_outside ran rfl
      · intro _
        exact settled_of_outside (moved_outside ran) rfl
  | true =>
      obtain ⟨queries, rollback⟩ := stays inside
      have same : SameLog logged (logged.setLogqueries false) := ⟨inside, rfl, rfl, rfl, rfl, rfl⟩
      have ran : SameLog logged (logged.replayed settings connection condition again) :=
        runsAgain_same same queries
      revert ended
      simp only [replayLog]
      split
      · intro ended
        simp at ended
      · intro _
        constructor
        · rfl
        · intro _ seen
          obtain ⟨was, keeps⟩ := settled.keeps inside (ran.fresh.symm.trans seen)
          refine ⟨ran.wasintx.trans was, ?_⟩
          rcases keeps with disabled | log
          · exact Or.inl (ran.disabled.trans disabled)
          · exact Or.inr (ran.log.trans (log.trans ran.since.symm))
      case h_3 returned =>
        intro _
        have ends := rollback returned
        apply settled_of_outside _ rfl
        intro _
        simp [System.moved, ends]

/-! ## Runs -/

theorem runAfterExecute_settled {system : System Db Binds} {submission : Submission Db Binds}
    (settled : Settled system) (ready : system.waiting = false)
    (inOrder : InOrder settings connection system (.submit submission))
    (ended : (runAfterExecute settings connection submission
      (system.answered submission.db)).2.waiting = false) :
    Settled (runAfterExecute settings connection submission
      (system.answered submission.db)).2 := by
  have answered : Settled (system.answered submission.db) := ⟨settled.listens, settled.keeps⟩
  rw [runAfterExecute] at ended ⊢
  split
  case isTrue => exact answered
  case isFalse runs =>
    rw [if_neg runs] at ended
    rw [Bool.or_eq_true, not_or, Bool.not_eq_true, Bool.not_eq_true] at runs
    have seen : Seen system submission := ⟨ready, runs.1, runs.2⟩
    have logged : Settled (system.logged settings submission) := logged_settled settled seen inOrder
    cases met : replayCondition settings.conditions submission.report with
    | none => exact logged
    | some condition =>
        simp only [met] at ended ⊢
        apply replayLog_settled logged _ ended
        intro inside
        exact ((inOrder seen inside).2 condition met).2

theorem step_settled {system : System Db Binds} {input : Input Db Binds}
    (settled : system.waiting = false → Settled system)
    (inOrder : InOrder settings connection system input) :
    (step settings connection system input).waiting = false →
      Settled (step settings connection system input) := by
  intro ended
  unfold step at ended ⊢
  split
  case isTrue waits =>
    rw [if_pos waits, waits] at ended
    contradiction
  case isFalse ready =>
    rw [if_neg ready] at ended
    rw [Bool.not_eq_true] at ready
    cases input with
    | op op => exact moved_settled (settled ready)
    | reLogIn initialAutoCommit db =>
        constructor
        · exact (moved_logqueries _ _ _).trans (settled ready).listens
        · intro _ seen
          contradiction
    | submit submission =>
        dsimp only at ended ⊢
        split at ended
        case isTrue succeeded =>
          rw [if_pos succeeded]
          rw [follow, moved_waiting] at ended
          exact moved_settled (runAfterExecute_settled (settled ready) ready inOrder ended)
        case isFalse failed =>
          rw [if_neg failed]
          exact runAfterExecute_settled (settled ready) ready inOrder ended

/-- In every run in which the trigger hears of each transaction's end before it matters, a
transaction-scope replay finds the queries that were logged since the transaction began, in order
and once, and no replay runs a query from before. -/
theorem logExact_along (settings : LogSettings) (connection : Connection Db)
    (controller : Controller Db) (inputs : List (Input Db Binds))
    (inOrder : Along (step settings connection) (InOrder settings connection)
      (System.initial controller) inputs) :
    Along (step settings connection) (LogExact settings) (System.initial controller) inputs := by
  have initial : (System.initial controller : System Db Binds).waiting = false →
      Settled (System.initial controller : System Db Binds) := by
    intro _
    constructor
    · rfl
    · intro _ seen
      contradiction
  apply Along.of_guard (fun _ _ => step_settled) _ initial inOrder
  intro system input settled met
  cases input with
  | op op => trivial
  | reLogIn initialAutoCommit db => trivial
  | submit submission =>
      intro seen
      exact logged_exact (settled seen.1) seen met seen

/-! ## Two sessions -/

/-- A driver with explicit transactions, all of whose calls succeed. -/
def explicitDriver : Connection Unit where
  nativeTransactionModel := .explicit
  supportsAutoCommit := false
  defaultAutoCommit := true
  default_on := fun _ => rfl
  default_off := by simp
  call := fun _ db => (true, db)
  flag := ⟨true, true, true⟩

def autoCommitted : Controller Unit := ⟨.explicit, true, false, false, false, none, ()⟩

def retryOnce : LogSettings where
  conditions := [deadlock]
  maxretries := 1
  includeSelects := false
  parseInsert := fun _ => ⟨.etc, false, false, false⟩

def deadlocked : Option ErrorReport := some ⟨[], 1213, []⟩

/-- An update of the given name. -/
def update (name : Byte) (failure : Option ErrorReport) (again : List (Ran Unit)) :
    Input Unit Unit :=
  .submit ⟨[name], (), false, failure, (), none, again⟩

/-- A transaction whose second query meets a deadlock; both are run again. -/
def replayedTransaction : List (Input Unit Unit) :=
  [.op .begin, update 1 none [], update 2 deadlocked [⟨true, none, ()⟩, ⟨true, none, ()⟩],
    .op .commit]

theorem logExact_along_replayed :
    Along (step retryOnce explicitDriver) (LogExact retryOnce) (System.initial autoCommitted)
      replayedTransaction := by
  apply logExact_along retryOnce explicitDriver autoCommitted replayedTransaction
  refine ⟨trivial, ?_, ?_, trivial, trivial⟩
  · intro _ _
    constructor
    · decide
    · intro condition met
      exact absurd met (by simp [replayCondition, Submission.report])
  · intro _ _
    constructor
    · decide
    · intro condition met
      have isDeadlock : some deadlock = some condition := met
      obtain rfl := Option.some.inj isDeadlock
      refine ⟨by decide, ?_, by decide⟩
      decide

/-- The replay of the first transaction fails, and the trigger does not hear of the rollback. -/
def failedReplay : List (Input Unit Unit) :=
  [.op .begin, update 1 deadlocked [⟨true, deadlocked, ()⟩, ⟨true, deadlocked, ()⟩],
    update 2 none [], .op .begin, update 3 deadlocked []]

theorem logExact_failedReplay :
    ¬ ∀ (settings : LogSettings) (connection : Connection Unit) (controller : Controller Unit)
      (inputs : List (Input Unit Unit)),
      Along (step settings connection) (LogExact settings) (System.initial controller) inputs := by
  intro exactly
  obtain ⟨_, _, _, _, last, _⟩ := exactly retryOnce explicitDriver autoCommitted failedReplay
  have same := (last ⟨by decide, rfl, by decide⟩ deadlock rfl).1 rfl
  exact absurd same (by decide)

end SqlRelay.Replay
