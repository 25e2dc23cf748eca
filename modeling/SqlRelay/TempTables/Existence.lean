import SqlRelay.Foundation.Run
import SqlRelay.TempTables.Trigger

/-!
# Marked tables exist

The trigger learns of rollbacks and of the end of a session, and of nothing else that takes tables
away.  The marks are right as long as the rest spares the marked tables: a rollback to a savepoint
that a marked table is younger than is enough to make one wrong.
-/

namespace SqlRelay.TempTables

open SqlRelay.Foundation SqlRelay.Foundation.CString SqlRelay.Query SqlRelay.Session
open SqlRelay.Transaction

/-! ## What spares a table -/

section

variable {Name : Type}

/-- A table that only the open transaction has created is lost when that is undone. -/
def Ending.Spares (db : Database Name) (table : List Byte) : Ending → Prop
  | .kept => True
  | .settled dropped => table ∉ dropped
  | .undone => table ∈ db.settled

/-- A table that was created after a savepoint is lost by a rollback to it. -/
def Effect.Spares [LinearOrder Name] (db : Database Name) (table : List Byte) :
    Effect Name → Prop
  | .changes done _ => Change.drop table ∉ done
  | .savepoint _ => True
  | .release _ => True
  | .rollbackTo name =>
      ∀ found ∈ Transaction.find name db.transaction.savepoints,
        table ∈ db.after (db.transaction.work.take found.1)

/-- An error that is taken for a table that exists already is one. -/
def Answer.Truthful (config : Config) (db : Database Name) (table : List Byte) : Answer → Prop
  | .noCursor => True
  | .created _ => True
  | .refused error => config.isAlreadyExistsError error = true → table ∈ db.tables

/-- So it is for every create of the loop. -/
def Truthful (config : Config) (creates : Creates Name) (query : List Byte) :
    List Table → Database Name → Prop
  | [], _ => True
  | table :: rest, db =>
      if config.wants query table then
        (creates (config.buildCreateStatement table) db).Truthful config db table.name ∧
          ((createTable config creates table db).success = true →
            Truthful config creates query rest (createTable config creates table db).db)
      else Truthful config creates query rest db

/-- The table is there, and no answer that the database may still give takes it away. -/
structure Kept (replies : DriverCall → Reply) (table : List Byte) (db : Database Name) : Prop where
  listed : table ∈ db.tables
  spared : ∀ call, (replies call).ending.Spares db table

instance (db : Database Name) (table : List Byte) (ending : Ending) :
    Decidable (ending.Spares db table) :=
  match ending with
  | .kept => inferInstanceAs (Decidable True)
  | .settled dropped => inferInstanceAs (Decidable (table ∉ dropped))
  | .undone => inferInstanceAs (Decidable (table ∈ db.settled))

instance [LinearOrder Name] (db : Database Name) (table : List Byte) (effect : Effect Name) :
    Decidable (effect.Spares db table) :=
  match effect with
  | .changes done _ => inferInstanceAs (Decidable (Change.drop table ∉ done))
  | .savepoint _ => inferInstanceAs (Decidable True)
  | .release _ => inferInstanceAs (Decidable True)
  | .rollbackTo name =>
      inferInstanceAs (Decidable (∀ found ∈ Transaction.find name db.transaction.savepoints,
        table ∈ db.after (db.transaction.work.take found.1)))

instance (config : Config) (db : Database Name) (table : List Byte) (answer : Answer) :
    Decidable (answer.Truthful config db table) :=
  match answer with
  | .noCursor => inferInstanceAs (Decidable True)
  | .created _ => inferInstanceAs (Decidable True)
  | .refused error =>
      inferInstanceAs (Decidable (config.isAlreadyExistsError error = true → table ∈ db.tables))

instance Truthful.decidable (config : Config) (creates : Creates Name) (query : List Byte)
    (tables : List Table) (db : Database Name) :
    Decidable (Truthful config creates query tables db) :=
  match tables with
  | [] => isTrue trivial
  | table :: rest => by
      have later := fun db => Truthful.decidable config creates query rest db
      unfold Truthful
      infer_instance

/-- There are five driver calls to try. -/
instance {property : DriverCall → Prop} [DecidablePred property] :
    Decidable (∀ call, property call) :=
  decidable_of_iff (property .begin ∧ property .commit ∧ property .rollback ∧
      property .setAutoCommitOn ∧ property .setAutoCommitOff) <| by
    constructor
    · intro all call
      cases call <;> simp only [all]
    · intro all
      exact ⟨all _, all _, all _, all _, all _⟩

variable {replies : DriverCall → Reply} {table : List Byte} {db : Database Name}

theorem Kept.finish (kept : Kept replies table db) (call : DriverCall) :
    Kept replies table (db.finish (replies call).ending) := by
  have spared := kept.spared call
  cases ended : (replies call).ending with
  | kept => exact kept
  | settled dropped =>
      rw [ended] at spared
      have settled : table ∈ (db.finish (.settled dropped)).settled := by
        simpa [Database.finish, Ending.Spares] using And.intro kept.listed spared
      constructor
      · exact settled
      · intro other
        have later := kept.spared other
        cases ends : (replies other).ending with
        | kept => trivial
        | settled also => rwa [ends] at later
        | undone => exact settled
  | undone =>
      rw [ended] at spared
      exact ⟨spared, kept.spared⟩

theorem Kept.apply [LinearOrder Name] (kept : Kept replies table db) {effect : Effect Name}
    (spared : effect.Spares db table) : Kept replies table (db.apply effect) := by
  cases effect with
  | changes changes atOnce =>
      constructor
      · exact Database.mem_run spared kept.listed atOnce
      · intro call
        have later := kept.spared call
        cases ends : (replies call).ending with
        | kept => trivial
        | settled dropped => rwa [ends] at later
        | undone =>
            rw [ends] at later
            exact Database.settled_run spared kept.listed later atOnce
  | savepoint name => exact ⟨kept.listed, kept.spared⟩
  | release name =>
      have same : (db.transaction.release name).work = db.transaction.work := by
        rw [Transaction.release]
        split <;> rfl
      have listed := kept.listed
      rw [Database.tables, ← same] at listed
      exact ⟨listed, kept.spared⟩
  | rollbackTo name =>
      have listed := kept.listed
      constructor
      · cases found : Transaction.find name db.transaction.savepoints with
        | none =>
            have same : db.transaction.rollbackTo name = db.transaction := by
              simp only [Transaction.rollbackTo, found]
            rw [Database.tables, Database.apply, same]
            exact listed
        | some entry =>
            have same : db.transaction.rollbackTo name =
                ⟨db.transaction.work.take entry.1, (name, entry.1) :: entry.2⟩ := by
              simp only [Transaction.rollbackTo, found]
            rw [Database.tables, Database.apply, same]
            exact spared entry found
      · exact kept.spared

end

/-! ## Creating tables -/

section Creating

variable {Name : Type} {config : Config} {creates : Creates Name} {query : List Byte}

/-- A create takes no table away. -/
theorem mem_createTable {table : Table} {db : Database Name} {other : List Byte}
    (listed : other ∈ db.tables) : other ∈ (createTable config creates table db).db.tables := by
  unfold createTable
  split
  · exact listed
  · exact Database.mem_create listed _
  · split
    · exact listed
    · exact listed

theorem createTable_exists {table : Table} {db : Database Name}
    (truthful : (creates (config.buildCreateStatement table) db).Truthful config db table.name)
    (success : (createTable config creates table db).success = true) :
    table.name ∈ (createTable config creates table db).db.tables := by
  unfold createTable at success ⊢
  cases answered : creates (config.buildCreateStatement table) db with
  | noCursor => simp [answered] at success
  | created atOnce => exact Database.mem_create_self table.name atOnce
  | refused error =>
      rw [answered] at truthful success
      by_cases already : config.isAlreadyExistsError error = true
      · simpa [already] using truthful already
      · simp [already] at success

theorem mem_visitTables {tables : List Table} {db : Database Name} {other : List Byte}
    (listed : other ∈ db.tables) :
    other ∈ (visitTables config creates query tables db).db.tables := by
  induction tables generalizing db with
  | nil => exact listed
  | cons table rest ih =>
      rw [visitTables]
      split
      case isTrue =>
        have created : other ∈ (createTable config creates table db).db.tables :=
          mem_createTable listed
        dsimp only
        split
        case isTrue => exact ih created
        case isFalse => exact created
      case isFalse => exact ih listed

/-- The loop leaves marks on tables that are there only. -/
theorem visitTables_exist {tables : List Table} {db : Database Name}
    (marked : ∀ table ∈ tables, table.created = true → table.name ∈ db.tables)
    (truthful : Truthful config creates query tables db) :
    ∀ table ∈ (visitTables config creates query tables db).tables, table.created = true →
      table.name ∈ (visitTables config creates query tables db).db.tables := by
  induction tables generalizing db with
  | nil =>
      intro table listed
      exact absurd listed List.not_mem_nil
  | cons table rest ih =>
      have rest_marked : ∀ other ∈ rest, other.created = true → other.name ∈ db.tables :=
        fun other listed => marked other (List.mem_cons_of_mem _ listed)
      rw [Truthful] at truthful
      rw [visitTables]
      split
      case isTrue wanted =>
        rw [if_pos wanted] at truthful
        dsimp only
        split
        case isTrue success =>
          have there := createTable_exists truthful.1 success
          intro other listed created
          cases List.mem_cons.mp listed with
          | inl here =>
              rw [here]
              exact mem_visitTables there
          | inr later =>
              refine ih ?_ (truthful.2 success) other later created
              intro another listed marked
              exact mem_createTable (rest_marked another listed marked)
        case isFalse failed =>
          intro other listed created
          cases List.mem_cons.mp listed with
          | inl here =>
              rw [here] at created
              exact absurd created failed
          | inr later => exact mem_createTable (rest_marked other later created)
      case isFalse unwanted =>
        rw [if_neg unwanted] at truthful
        intro other listed created
        cases List.mem_cons.mp listed with
        | inl here =>
            subst here
            exact mem_visitTables (marked other (List.mem_cons_self ..) created)
        | inr later => exact ih rest_marked truthful other later created

end Creating

/-! ## Along a run -/

namespace System

variable {Name : Type}

/-- The tables that the trigger has marked as created. -/
def marked (system : System Name) : List (List Byte) :=
  (system.tables.filter fun table => table.created).map fun table => table.name

/-- Whenever the trigger has a table marked as created, it exists in the database session. -/
def Sound (system : System Name) : Prop :=
  ∀ table ∈ system.marked, table ∈ system.controller.db.tables

/-- No answer of the database to a driver call takes a marked table away. -/
def RepliesSpare (system : System Name) (replies : DriverCall → Reply) : Prop :=
  ∀ table ∈ system.marked, ∀ call, (replies call).ending.Spares system.controller.db table

theorem mem_marked {system : System Name} {name : List Byte} :
    name ∈ system.marked ↔ ∃ table ∈ system.tables, table.created = true ∧ table.name = name := by
  simp [marked, and_assoc]

theorem sound_iff {system : System Name} :
    system.Sound ↔ ∀ table ∈ system.tables, table.created = true →
      table.name ∈ system.controller.db.tables := by
  constructor
  · intro sound table listed created
    exact sound table.name (mem_marked.mpr ⟨table, listed, created, rfl⟩)
  · intro exist name marked
    obtain ⟨table, listed, created, same⟩ := mem_marked.mp marked
    rw [← same]
    exact exist table listed created

/-- Without a mark there is nothing to be wrong. -/
theorem sound_forget (tables : List Table) (controller : Controller (Database Name)) :
    Sound ⟨forget tables, controller⟩ := by
  rw [sound_iff]
  intro table listed created
  obtain ⟨before, _, same⟩ := List.mem_map.mp listed
  simp [← same] at created

/-- The trigger as its constructor leaves it, with the tables and their create statements. -/
def begun (tables : List (List Byte × List Byte)) (controller : Controller (Database Name)) :
    System Name where
  tables := tables.map fun table => ⟨table.1, table.2, false⟩
  controller

theorem sound_begun (tables : List (List Byte × List Byte))
    (controller : Controller (Database Name)) : (begun tables controller).Sound := by
  rw [sound_iff]
  intro table listed created
  obtain ⟨configured, _, same⟩ := List.mem_map.mp listed
  simp [← same] at created

end System

instance {Name : Type} (system : System Name) : Decidable system.Sound :=
  inferInstanceAs (Decidable (∀ table ∈ system.marked, _))

instance {Name : Type} (system : System Name) (replies : DriverCall → Reply) :
    Decidable (system.RepliesSpare replies) :=
  inferInstanceAs (Decidable (∀ table ∈ system.marked, _))

namespace Server

variable {Name : Type} (server : Server)

/-- The query names this table, and the trigger has it marked as created. -/
def NamesMarked (text : List Byte) (table : Table) : Prop :=
  server.config.matchesPattern table.pattern (skipWhitespaceAndComments text) = true ∧
    table.created = true

/-- What has to be so for a call: either the trigger hears of a rollback, or the call spares the
marked tables. -/
def CallSpares (system : System Name) (op : Connection.Op) (replies : DriverCall → Reply) : Prop :=
  server.hearsRollback op replies system.controller = true ∨ system.RepliesSpare replies

variable [LinearOrder Name]

/-- What has to be so before a step: a create that fails for a table that exists already fails for
that, and a query or a call takes no marked table away without a rollback that the trigger hears
of. -/
def Spares (system : System Name) : Event Name → Prop
  | .prepare query =>
      interceptedCall (determineQueryType query.text) = none → query.suppressed = false →
        Truthful server.config query.creates (skipWhitespaceAndComments query.text) system.tables
          system.controller.db
  | .execute text _ effect replies =>
      match interceptedCall (determineQueryType text) with
      | some op => server.CallSpares system op replies
      | none =>
          (∀ table ∈ system.marked, effect.Spares system.controller.db table) ∧
            system.RepliesSpare replies
  | .call op replies => server.CallSpares system op replies
  | .endSession _ _ _ => True

instance (system : System Name) (event : Event Name) : Decidable (server.Spares system event) := by
  unfold Spares CallSpares
  split
  · infer_instance
  · split
    · infer_instance
    · infer_instance
  · infer_instance
  · infer_instance

/-- No query is sent to the database without the marked tables that it names.  When a query is
prepared, the trigger has run before it is sent. -/
def SentWithTables (system : System Name) : Event Name → Prop
  | .prepare query =>
      ∀ table ∈ (server.prepare query system).tables, server.NamesMarked query.text table →
        table.name ∈ (server.prepare query system).controller.db.tables
  | .execute text _ _ _ =>
      ∀ table ∈ system.tables, server.NamesMarked text table →
        table.name ∈ system.controller.db.tables
  | .call _ _ => True
  | .endSession _ _ _ => True

/-- What the trigger believes is so before and after the step, and in between where the step sends a
query. -/
structure Exist (system : System Name) (event : Event Name) : Prop where
  before : system.Sound
  after : (server.step system event).Sound
  sent : server.SentWithTables system event

variable {server}

theorem sound_prepare {system : System Name} (sound : system.Sound) {query : Query Name}
    (spares : server.Spares system (.prepare query)) : (server.prepare query system).Sound := by
  rw [System.sound_iff] at sound ⊢
  rw [prepare]
  split
  case h_1 => exact sound
  case h_2 prepared =>
    dsimp only
    unfold runBeforePrepare
    split
    case isTrue => exact sound
    case isFalse unsuppressed =>
      split
      case isTrue => exact sound
      case isFalse =>
        have truthful := spares prepared (Bool.eq_false_of_not_eq_true unsuppressed)
        exact visitTables_exist sound truthful

omit [LinearOrder Name] in
/-- What a call leaves of the tables that no answer takes away. -/
theorem sound_call {system : System Name} (sound : system.Sound) {op : Connection.Op}
    {replies : DriverCall → Reply} (spares : server.CallSpares system op replies) :
    (server.call op replies system).Sound := by
  unfold call
  cases heard : server.hearsRollback op replies system.controller with
  | true => exact System.sound_forget system.tables _
  | false =>
      have spared : system.RepliesSpare replies := by
        cases spares with
        | inl hears => simp [heard] at hears
        | inr spared => exact spared
      intro table marked
      have kept : Kept replies table system.controller.db :=
        ⟨sound table marked, spared table marked⟩
      have stays : Kept replies table
          ((server.connection replies).apply op system.controller).2.db :=
        Connection.apply_frame _ (fun call _ _ kept => kept.finish call) kept
      exact stays.listed

theorem sound_execute {system : System Name} (sound : system.Sound) {text : List Byte} {ok : Bool}
    {effect : Effect Name} {replies : DriverCall → Reply}
    (spares : server.Spares system (.execute text ok effect replies)) :
    (server.execute text ok effect replies system).Sound := by
  rw [execute]
  rw [Spares] at spares
  split
  case h_1 op intercepted =>
    rw [intercepted] at spares
    exact sound_call sound spares
  case h_2 sent =>
    rw [sent] at spares
    intro table marked
    have kept : Kept replies table system.controller.db :=
      ⟨sound table marked, spares.2 table marked⟩
    have ran : Kept replies table (system.controller.db.apply effect) :=
      kept.apply (spares.1 table marked)
    have stays : Kept replies table (executeQuery (server.connection replies)
        ⟨text, fun db => (ok, db.apply effect)⟩ system.controller).2.db := by
      rw [executeQuery, sent]
      simp only [runQuery]
      split
      case isTrue =>
        exact followAutoCommit_frame _ (fun call _ _ kept => kept.finish call) (by simpa using ran)
      case isFalse => exact ran
    exact stays.listed

theorem sound_step {system : System Name} {event : Event Name} (sound : system.Sound)
    (spares : server.Spares system event) : (server.step system event).Sound := by
  cases event with
  | prepare query => exact sound_prepare sound spares
  | execute text ok effect replies => exact sound_execute sound spares
  | call op replies => exact sound_call sound spares
  | endSession config cleanup replies => exact System.sound_forget system.tables _

theorem sentWithTables {system : System Name} {event : Event Name} (sound : system.Sound)
    (spares : server.Spares system event) : server.SentWithTables system event := by
  cases event with
  | prepare query =>
      have prepared := System.sound_iff.mp (sound_prepare sound spares)
      intro table listed named
      exact prepared table listed named.2
  | execute text ok effect replies =>
      intro table listed named
      exact System.sound_iff.mp sound table listed named.2
  | call op replies => trivial
  | endSession config cleanup replies => trivial

/-- As long as every step spares the marked tables, every table that the trigger has marked as
created exists, and no query is sent without the marked tables that it names. -/
theorem created_exist (tables : List (List Byte × List Byte))
    (controller : Controller (Database Name)) (events : List (Event Name))
    (spares : Along server.step server.Spares (System.begun tables controller) events) :
    Along server.step server.Exist (System.begun tables controller) events := by
  refine Along.of_guard ?_ ?_ (System.sound_begun tables controller) spares
  · intro system event sound spares
    exact sound_step sound spares
  · intro system event sound spares
    exact ⟨sound, sound_step sound spares, sentWithTables sound spares⟩

end Server

/-! ## Postgresql -/

/-- A connection to postgresql, and one table for the trigger. -/
def postgresql : Server where
  capabilities :=
    { nativeTransactionModel := .explicit
      supportsAutoCommit := false
      defaultAutoCommit := true
      default_on := fun _ => rfl
      default_off := fun implicit => TransactionModel.noConfusion implicit }
  flag := ⟨true, true, true⟩
  config :=
    { nativeDbType := ascii "postgresql"
      alreadyExistsNumber := 0
      alreadyExistsText := none
      alreadyExistsSqlState := none
      matchesPattern := fun _ query => query == ascii "insert into t values (1)" }

def configured : List (List Byte × List Byte) :=
  [(ascii "t", ascii "create temp table t (a int)")]

def autoCommitOn : Controller (Database Nat) where
  txModel := .explicit
  autoCommit := true
  inTransaction := false
  eotAutoCommit := false
  needsCommitOrRollback := false
  error := none
  db := ⟨[], .empty⟩

def succeeds (ending : Ending) (_ : DriverCall) : Reply := ⟨true, ending⟩

/-- The query is prepared, with whatever the trigger creates for it, and executed. -/
def sends (text : String) (effect : Effect Nat) : List (Event Nat) :=
  [.prepare ⟨ascii text, false, fun _ _ => .created false⟩,
    .execute (ascii text) true effect (succeeds .kept)]

def insert : List (Event Nat) := sends "insert into t values (1)" (.changes [] false)

/-- The table is younger than the savepoint: after the rollback to it the mark is wrong, and the
second insert is sent without its table. -/
theorem not_exist_rollbackTo :
    ¬ Along postgresql.step postgresql.Exist (System.begun configured autoCommitOn)
      (Event.call .begin (succeeds .kept) :: sends "savepoint s" (.savepoint 0) ++ insert ++
        sends "rollback to savepoint s" (.rollbackTo 0) ++ insert) := by
  intro along
  have rolledBack := along.2.2.2.2.2.2.1.after
  revert rolledBack
  decide +kernel

/-- The table is older than the savepoint, and the trigger hears of the rollback. -/
theorem created_exist_rollback :
    Along postgresql.step postgresql.Exist (System.begun configured autoCommitOn)
      (Event.call .begin (succeeds .kept) :: insert ++ sends "savepoint s" (.savepoint 0) ++
        sends "rollback to savepoint s" (.rollbackTo 0) ++ insert ++
        [.call .rollback (succeeds .undone), .call .begin (succeeds .kept)] ++ insert) :=
  postgresql.created_exist configured autoCommitOn _ (by decide +kernel)

end SqlRelay.TempTables
