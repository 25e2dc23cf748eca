import SqlRelay.Foundation.CString
import SqlRelay.Foundation.Savepoints
import SqlRelay.Transaction.Controller

/-!
# The tables of a database session

Which tables there are follows from those that were there before the open transaction and from what
the transaction has done since.  A rollback takes the first, a rollback to a savepoint all but what
was done after it.
-/

namespace SqlRelay.TempTables

open SqlRelay.Foundation SqlRelay.Transaction

inductive Change where
  | create (table : List Byte)
  | drop (table : List Byte)
  deriving DecidableEq, Repr

def Change.apply (tables : List (List Byte)) : Change → List (List Byte)
  | .create table => table :: tables
  | .drop table => tables.filter fun other => other != table

/-- `settled` are the tables that no rollback takes away. -/
structure Database (Name : Type) where
  settled : List (List Byte)
  transaction : Foundation.Transaction Name Change

/-- What a statement that is not a driver call does to the tables.  What is done `atOnce` is not
undone by a rollback: autocommit is on, or the database commits such statements by itself. -/
inductive Effect (Name : Type) where
  | changes (changes : List Change) (atOnce : Bool)
  | savepoint (name : Name)
  | release (name : Name)
  | rollbackTo (name : Name)

/-- What becomes of the open transaction: nothing, or it is committed, which drops the tables that
were created for it alone, or it is undone. -/
inductive Ending where
  | kept
  | settled (dropped : List (List Byte))
  | undone
  deriving DecidableEq, Repr

/-- The answer to a driver call.  A database that has given up a transaction answers its commit
with success, and undoes it. -/
structure Reply where
  ok : Bool
  ending : Ending

namespace Database

variable {Name : Type} (db : Database Name)

/-- The tables there are once the transaction has done this much. -/
def after (work : List Change) : List (List Byte) := work.foldl Change.apply db.settled

def tables : List (List Byte) := db.after db.transaction.work

def settle : Database Name := ⟨db.tables, .empty⟩

def undo : Database Name := ⟨db.settled, .empty⟩

def run (changes : List Change) (atOnce : Bool) : Database Name :=
  let done : Database Name := { db with transaction := db.transaction.run changes }
  if atOnce then done.settle else done

/-- A create statement has succeeded; also one that leaves a table alone that is there already. -/
def create (table : List Byte) (atOnce : Bool) : Database Name :=
  if db.tables.contains table then db else db.run [.create table] atOnce

def finish : Ending → Database Name
  | .kept => db
  | .settled dropped => { db.settle with settled := db.tables.filter fun table => !dropped.contains table }
  | .undone => db.undo

variable [LinearOrder Name]

def apply : Effect Name → Database Name
  | .changes changes atOnce => db.run changes atOnce
  | .savepoint name => { db with transaction := db.transaction.savepoint name }
  | .release name => { db with transaction := db.transaction.release name }
  | .rollbackTo name => { db with transaction := db.transaction.rollbackTo name }

end Database

/-- A connection to such a session, with its answers to the driver calls. -/
def connect {Name : Type} (capabilities : Capabilities) (flag : FlagUse)
    (replies : DriverCall → Reply) : Connection (Database Name) where
  toCapabilities := capabilities
  call := fun call db => ((replies call).ok, db.finish (replies call).ending)
  flag

/-! ## Which tables stay -/

namespace Database

variable {Name : Type} {db : Database Name}

theorem mem_foldl_apply {table : List Byte} {changes : List Change} (spared : .drop table ∉ changes)
    {tables : List (List Byte)} (listed : table ∈ tables) :
    table ∈ changes.foldl Change.apply tables := by
  induction changes generalizing tables with
  | nil => exact listed
  | cons change changes ih =>
      simp only [List.mem_cons, not_or] at spared
      apply ih spared.2
      cases change with
      | create other => exact List.mem_cons_of_mem _ listed
      | drop other =>
          have different : table ≠ other := fun same => spared.1 (congrArg Change.drop same)
          simpa [Change.apply] using And.intro listed different

theorem tables_run (changes : List Change) (atOnce : Bool) :
    (db.run changes atOnce).tables = changes.foldl Change.apply db.tables := by
  have done : db.after (db.transaction.work ++ changes) = changes.foldl Change.apply db.tables :=
    List.foldl_append
  cases atOnce with
  | false => exact done
  | true => exact done

theorem mem_run {table : List Byte} {changes : List Change} (spared : .drop table ∉ changes)
    (listed : table ∈ db.tables) (atOnce : Bool) : table ∈ (db.run changes atOnce).tables := by
  rw [tables_run]
  exact mem_foldl_apply spared listed

theorem mem_create_self (table : List Byte) (atOnce : Bool) :
    table ∈ (db.create table atOnce).tables := by
  rw [create]
  split
  case isTrue there => exact List.contains_iff_mem.mp there
  case isFalse =>
    rw [tables_run]
    exact List.mem_cons_self ..

theorem mem_create {table other : List Byte} (listed : other ∈ db.tables) (atOnce : Bool) :
    other ∈ (db.create table atOnce).tables := by
  rw [create]
  split
  case isTrue => exact listed
  case isFalse => exact mem_run (by simp) listed atOnce

/-- What settles a statement settles every table that is there. -/
theorem settled_run {table : List Byte} {changes : List Change} (spared : .drop table ∉ changes)
    (listed : table ∈ db.tables) (settled : table ∈ db.settled) (atOnce : Bool) :
    table ∈ (db.run changes atOnce).settled := by
  cases atOnce with
  | false => exact settled
  | true =>
      have done := mem_run spared listed true
      rwa [run] at done

end Database

end SqlRelay.TempTables
