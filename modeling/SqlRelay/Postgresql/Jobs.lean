import SqlRelay.Postgresql.Queries
import SqlRelay.Transaction.Simulation
import SqlRelay.Transaction.Database

/-!
# What becomes of the queries of a string

Each query of a Query message succeeds or fails, changes something or not, or begins or ends a
transaction, and its result gets to the client or does not.  When a string is all or nothing is said in
terms of that.
-/

namespace SqlRelay.Postgresql

open SqlRelay.Foundation SqlRelay.Query SqlRelay.Transaction
open SqlRelay.Session (interceptedCall followAutoCommit commitOrRollback runQuery executeQuery
  executeQuery_frame)

variable {Change : Type}

/-- What a query does that the database has run: it may change something, or be one of those by which
the database itself begins or ends a transaction. -/
inductive Effect (Change : Type) where
  | nothing
  | changes (change : Change)
  | transaction (call : DriverCall)

namespace Effect

def on (effect : Effect Change) (native : TransactionModel) (store : Store Change) :
    Store Change :=
  match effect with
  | .nothing => store
  | .changes change => store.change native change
  | .transaction call => store.call native call

def changed : Effect Change → List Change
  | .changes change => [change]
  | .nothing | .transaction _ => []

end Effect

/-- What becomes of a query. -/
structure Work (Change : Type) where
  ok : Bool
  effect : Effect Change
  delivery : Delivery
  errorSent : Bool
  emptySent : Bool

def Work.reply (native : TransactionModel) (work : Work Change) : Reply (Store Change) where
  run := fun store => if work.ok then (true, work.effect.on native store) else (false, store)
  delivery := work.delivery
  errorSent := work.errorSent
  emptySent := work.emptySent

/-- A query of the string, and what becomes of it. -/
structure Job (Change : Type) extends Work Change where
  query : List Byte

/-- The driver call that a query stands for. -/
def transactionCall : QueryType → Option DriverCall
  | .begin => some .begin
  | .commit => some .commit
  | .rollback => some .rollback
  | .autoCommitOn | .setIncludingAutoCommitOn => some .setAutoCommitOn
  | .autoCommitOff | .setIncludingAutoCommitOff => some .setAutoCommitOff
  | _ => none

namespace Job

variable (job : Job Change)

def type : QueryType := determineQueryType job.query

def turn (native : TransactionModel) : Turn (Store Change) :=
  (job.query, job.toWork.reply native)

/-- How the query begins or ends a transaction, if it does. -/
def asks : Option DriverCall :=
  match transactionCall job.type, job.effect with
  | some call, _ => some call
  | none, .transaction call => some call
  | none, _ => none

/-- Intercepted queries are not run by the database. -/
def succeeds : Bool := (interceptedCall job.type).isSome || job.ok

/-- The session after the queries if each of them has done what it asks for. -/
def asked (jobs : List (Job Change)) : DatabaseSession :=
  (jobs.filterMap asks).foldl (fun session call => session.call .explicit call) ⟨true, false, false⟩

/-- The queries that are carried out: all up to the first that fails or whose result does not get to
the client. -/
def carried : List (Job Change) → List (Job Change)
  | [] => []
  | job :: jobs =>
      if job.query = [] then if job.emptySent then carried jobs else []
      else if job.succeeds then job :: if job.delivery.sent then carried jobs else []
      else []

/-- One of the queries fails, and the client has been answered all those before it. -/
def stops : List (Job Change) → Bool
  | [] => false
  | job :: jobs =>
      if job.query = [] then job.emptySent && stops jobs
      else !job.succeeds || (job.delivery.sent && stops jobs)

/-- Each query succeeds, and the client is told so. -/
def allTold : List (Job Change) → Bool
  | [] => true
  | job :: jobs =>
      if job.query = [] then
        if job.emptySent then allTold jobs else jobs.all (·.query.isEmpty)
      else job.succeeds && job.delivery == .told && allTold jobs

/-- What the queries change. -/
def changes (jobs : List (Job Change)) : List Change := jobs.flatMap (·.effect.changed)

/-- No query begins or ends a transaction. -/
def Quiet (jobs : List (Job Change)) : Prop := ∀ job ∈ jobs, job.query ≠ [] → job.asks = none

end Job

/-- Outside of a transaction: what the session has changed is committed. -/
structure Outside (native : TransactionModel) (state : Controller (Store Change)) : Prop where
  flag : state.inTransaction = false
  commits : state.db.session.commitsNext native = true
  settled : state.db.pending = []

/-- `begin` begins a transaction: there are transactions, autocommit is on, and the driver can and does
begin one. -/
structure Opens (driver : Driver) (state : Controller (Store Change)) : Prop where
  transactional : state.txModel ≠ .none
  autoCommit : state.autoCommit = true
  native : driver.nativeTransactionModel ≠ .none
  faked : driver.nativeTransactionModel = .implicit →
    state.txModel ≠ .implicit ∧ driver.supportsAutoCommit = true
  accepted : driver.accepts state.db.calls
    (if driver.nativeTransactionModel = .implicit then .setAutoCommitOff else .begin) = true

/-- The controller keeps its word: `begin` begins a transaction, the driver refuses nothing, and what
ends a transaction does not begin another. -/
structure Regular (driver : Driver) (state : Controller (Store Change)) : Prop where
  opens : Opens driver state
  accepts : ∀ index call, driver.accepts index call = true
  explicit : state.txModel ≠ .implicit

open Job

/-- The same of a string whose own queries may begin or end transactions: in the end they ask for none,
and none of them has been carried out when one fails. -/
structure Ended (driver : Driver) (state : Controller (Store Change)) (jobs : List (Job Change)) :
    Prop where
  regular : Regular driver state
  known : ∀ job ∈ jobs, job.query ≠ [] → job.asks ≠ none →
    job.type = .begin ∨ job.type = .commit ∨ job.type = .rollback
  outside : (asked (carried jobs)).commitsNext .explicit = true
  undone : allTold jobs = true ∨ changes (carried jobs) = [] ∨
    stops jobs = true ∧ ∀ job ∈ carried jobs, job.asks = none

namespace Backend

variable (backend : Backend)

/-- The queries of a packet, and what becomes of them. -/
def jobs (works : Nat → Work Change) (packet : List Byte) : List (Job Change) :=
  (backend.queries packet).1.mapIdx fun index query => { works index with query }

end Backend

variable {driver : Driver}

/-! ## One query -/

variable (Change) in
theorem transactionCall_none {type : QueryType} (quiet : transactionCall type = none) :
    interceptedCall type = none ∧ ∀ (connection : Connection (Store Change)) state,
      followAutoCommit connection type state = state := by
  cases type <;> first | exact ⟨rfl, fun _ _ => rfl⟩ | cases quiet

theorem asks_none {job : Job Change} (quiet : job.asks = none) :
    transactionCall job.type = none ∧ ∀ call, job.effect ≠ .transaction call := by
  simp only [asks] at quiet
  split at quiet
  · cases quiet
  · cases quiet
  · next others notTransaction => exact ⟨others, fun call isCall => notTransaction call isCall⟩

theorem commitOrRollback_flags (text : List Byte) (state : Controller (Store Change)) :
    ∃ needed, commitOrRollback text state = { state with needsCommitOrRollback := needed } := by
  simp only [commitOrRollback]
  split
  · split
    · exact ⟨_, rfl⟩
    · split
      · exact ⟨_, rfl⟩
      · split
        · exact ⟨_, rfl⟩
        · exact ⟨state.needsCommitOrRollback, rfl⟩
  · exact ⟨state.needsCommitOrRollback, rfl⟩

/-- The controller, having had the job done. -/
def after (driver : Driver) (job : Job Change) (state : Controller (Store Change)) :
    Bool × Controller (Store Change) :=
  executeQuery driver.connection
    ⟨job.query, (job.toWork.reply driver.nativeTransactionModel).run⟩ state

/-- A query that fails changes nothing. -/
theorem after_refused {job : Job Change} (fails : job.succeeds = false)
    (state : Controller (Store Change)) : after driver job state = (false, state) := by
  simp only [Job.succeeds, Bool.or_eq_false_iff, Option.isSome_eq_false_iff,
    Option.isNone_iff_eq_none] at fails
  have notIntercepted : interceptedCall (determineQueryType job.query) = none := fails.1
  simp [after, executeQuery, notIntercepted, runQuery, Work.reply, fails.2]

variable (driver) in
/-- A query that is neither a beginning nor an end of a transaction is run by the database. -/
theorem after_quiet {job : Job Change} (quiet : job.asks = none) (succeeds : job.succeeds = true)
    (state : Controller (Store Change)) :
    ∃ needed, after driver job state = (true, { state with
      needsCommitOrRollback := needed
      db := job.effect.on driver.nativeTransactionModel state.db }) := by
  obtain ⟨noCall, _⟩ := asks_none quiet
  obtain ⟨notIntercepted, follows⟩ := transactionCall_none Change noCall
  have ok : job.ok = true := by
    rw [Job.succeeds, notIntercepted] at succeeds
    exact succeeds
  have isNone : interceptedCall (determineQueryType job.query) = none := notIntercepted
  have isSame : ∀ state, followAutoCommit (driver.connection : Connection (Store Change))
      (determineQueryType job.query) state = state := follows _
  obtain ⟨needed, flags⟩ := commitOrRollback_flags job.query
    { state with db := job.effect.on driver.nativeTransactionModel state.db }
  refine ⟨needed, ?_⟩
  simp [after, executeQuery, isNone, runQuery, Work.reply, ok, isSame, flags]

/-! ## One query after the other -/

/-- The loop, and what each job does. -/
def loop (driver : Driver) (jobs : List (Job Change)) (state : Controller (Store Change)) :
    Answer (Store Change) :=
  executeQueries driver.connection (jobs.map (·.turn driver.nativeTransactionModel)) state

theorem loop_cons (job : Job Change) (jobs : List (Job Change))
    (state : Controller (Store Change)) :
    loop driver (job :: jobs) state =
      if job.query = [] then
        if job.emptySent then loop driver jobs state
        else ⟨state, false, false, [], 0, jobs.all (·.query.isEmpty)⟩
      else
        let ran := after driver job state
        if ran.1 then
          if job.delivery.sent then
            (loop driver jobs ran.2).after (job.turn driver.nativeTransactionModel)
          else Answer.after (job.turn driver.nativeTransactionModel)
            ⟨ran.2, false, false, [], 0, false⟩
        else ⟨ran.2, job.errorSent, true, [job.query], 0, false⟩ := by
  have nothing : (jobs.map (·.turn driver.nativeTransactionModel)).all (·.1.isEmpty) =
      jobs.all (·.query.isEmpty) := List.all_map
  rw [← nothing]
  rfl

variable (driver) in
/-- What every query that is carried out keeps, the loop keeps; and how it ends depends only on which
queries succeed. -/
theorem loop_keeps {inv : Controller (Store Change) → Prop} {jobs : List (Job Change)}
    (step : ∀ job ∈ carried jobs, ∀ state, inv state →
      (after driver job state).1 = true ∧ inv (after driver job state).2)
    {state : Controller (Store Change)} (holds : inv state) :
    inv (loop driver jobs state).state ∧ (loop driver jobs state).error = stops jobs ∧
      (loop driver jobs state).told = allTold jobs ∧
      (loop driver jobs state).carriedOut = (carried jobs).length := by
  induction jobs generalizing state with
  | nil => exact ⟨holds, rfl, rfl, rfl⟩
  | cons job jobs ih =>
      rw [loop_cons]
      simp only [carried, stops, allTold] at step ⊢
      by_cases nothing : job.query = []
      · simp only [if_pos nothing] at step ⊢
        cases sent : job.emptySent with
        | true =>
            simp only [sent, if_true] at step
            simpa using ih step holds
        | false => simp [holds]
      · simp only [if_neg nothing] at step ⊢
        cases succeeds : job.succeeds with
        | false => simp [after_refused succeeds, holds]
        | true =>
            simp only [succeeds, if_true] at step
            have here := step job List.mem_cons_self state holds
            simp only [here.1, if_true]
            cases sent : job.delivery.sent with
            | true =>
                simp only [sent, if_true] at step
                have later := ih (fun other listed => step other (List.mem_cons_of_mem _ listed))
                  here.2
                simp [Answer.after, later.1, later.2.1, later.2.2.1, later.2.2.2, turn, Work.reply]
            | false =>
                have notTold : (job.delivery == .told) = false := by
                  cases delivery : job.delivery with
                  | told => simp [delivery, Delivery.sent] at sent
                  | failed _ => rfl
                  | broken => rfl
                simp [Answer.after, here.2, turn, Work.reply, notTold]

/-- Queries have been run that begin or end no transaction: what they have changed has been committed by
itself, or waits for a commit. -/
structure Recorded (native : TransactionModel) (changes : List Change)
    (before after : Controller (Store Change)) : Prop where
  txModel : after.txModel = before.txModel
  autoCommit : after.autoCommit = before.autoCommit
  inTransaction : after.inTransaction = before.inTransaction
  calls : after.db.calls = before.db.calls
  commitsNext : after.db.session.commitsNext native = before.db.session.commitsNext native
  itself : before.db.session.commitsNext native = true →
    after.db.committed = before.db.committed ++ changes ∧ after.db.pending = before.db.pending
  waiting : before.db.session.commitsNext native = false →
    after.db.committed = before.db.committed ∧ after.db.pending = before.db.pending ++ changes

theorem Recorded.refl {native : TransactionModel} (state : Controller (Store Change)) :
    Recorded native [] state state := by
  constructor
  all_goals simp

theorem Recorded.trans {native : TransactionModel} {first second : List Change}
    {before between after : Controller (Store Change)}
    (earlier : Recorded native first before between)
    (later : Recorded native second between after) :
    Recorded native (first ++ second) before after := by
  constructor
  · rw [later.txModel, earlier.txModel]
  · rw [later.autoCommit, earlier.autoCommit]
  · rw [later.inTransaction, earlier.inTransaction]
  · rw [later.calls, earlier.calls]
  · rw [later.commitsNext, earlier.commitsNext]
  · intro commits
    have here := earlier.itself commits
    have there := later.itself (earlier.commitsNext.trans commits)
    rw [there.1, there.2, here.1, here.2, List.append_assoc]
    exact ⟨rfl, rfl⟩
  · intro waits
    have here := earlier.waiting waits
    have there := later.waiting (earlier.commitsNext.trans waits)
    rw [there.1, there.2, here.1, here.2, List.append_assoc]
    exact ⟨rfl, rfl⟩

end SqlRelay.Postgresql
