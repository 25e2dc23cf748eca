import SqlRelay.Foundation.Progress
import SqlRelay.Foundation.Run

/-!
# The transactions of an import

`sqlrimport`, as far as it counts rows, and begins and commits transactions.  The importers for the
formats run its stages in the order in which the parser comes to the parts of the file.  The events
that a subclass may override, and the answers of the database, are inputs.
-/

namespace SqlRelay.Import

open SqlRelay.Foundation

/-- What the importer asks of the database, and whether it got it. -/
inductive Call where
  | begin (succeeds : Bool)
  | commit (succeeds : Bool)
  | insert (succeeds : Bool)
  deriving DecidableEq, Repr

/-- The call succeeds, or it fails and `error()` says whether to go on. -/
inductive Answer where
  | succeeds
  | fails (goesOn : Bool)
  deriving DecidableEq, Repr

def Answer.success : Answer → Bool
  | .succeeds => true
  | .fails _ => false

def Answer.goesOn : Answer → Bool
  | .succeeds => true
  | .fails goesOn => goesOn

/-- A begin or a commit, with what the events before and after it return. -/
structure TransactionCall where
  startEvent : Bool
  answer : Answer
  endEvent : Bool
  deriving DecidableEq, Repr

/-- A row of the file: whether the events and the parsing of its fields let it be, whether it is
excluded or empty, and what comes of its insert. -/
structure FileRow where
  proceeds : Bool
  excludeRow : Bool
  emptyRow : Bool
  insert : Answer
  deriving DecidableEq, Repr

/-- A file, and what goes on around its import.  Begins and commits are told apart by the rows
imported before them. -/
structure ImportRun where
  importStart : Bool
  columnsProceed : Bool
  columnNameCount : Nat
  ignoreEmptyRows : Bool
  rowsStart : Bool
  rows : List FileRow
  /-- The parser comes to the end of the rows, and then of the file. -/
  complete : Bool
  rowsEnd : Bool
  importEnd : Bool
  begins : Nat → TransactionCall
  commits : Nat → TransactionCall
  finalCommit : TransactionCall

/-- The counts of `sqlrimport`.  No file has 2^64 rows. -/
structure Importer where
  commitcount : Nat
  importedrowcount : Nat
  currentrow : Nat
  deriving DecidableEq, Repr

namespace Importer

def setCommitCount (count : Nat) (importer : Importer) : Importer :=
  { importer with commitcount := count }

def clearFlagsAndCounts (_ : Importer) : Importer := ⟨0, 0, 0⟩

/-- An event, which may end the import. -/
def event (proceeds : Bool) (importer : Importer) : Progress Importer Call :=
  ⟨[], importer, proceeds⟩

/-- A call of the database; a failure may be passed over. -/
def call (kind : Bool → Call) (answer : Answer) (importer : Importer) : Progress Importer Call :=
  ⟨[kind answer.success], importer, answer.goesOn⟩

/-- A begin or a commit with its events. -/
def transaction (kind : Bool → Call) (call : TransactionCall) (importer : Importer) :
    Progress Importer Call :=
  ((event call.startEvent importer).andThen (Importer.call kind call.answer)).andThen
    (event call.endEvent)

variable (run : ImportRun)

/-- `initialBegin`, and the second half of `periodicCommit` -/
def begin (importer : Importer) : Progress Importer Call :=
  transaction .begin (run.begins importer.importedrowcount) importer

def initialBegin (importer : Importer) : Progress Importer Call :=
  if importer.commitcount = 0 then .pass importer else begin run importer

def periodicCommit (importer : Importer) : Progress Importer Call :=
  if importer.commitcount = 0 then .pass importer
  else if importer.importedrowcount % importer.commitcount = 0 then
    (transaction .commit (run.commits importer.importedrowcount) importer).andThen (begin run)
  else .pass importer

def finalCommit (importer : Importer) : Progress Importer Call :=
  if importer.commitcount = 0 then .pass importer
  else transaction .commit run.finalCommit importer

def startProcessingImport (importer : Importer) : Progress Importer Call :=
  event run.importStart importer.clearFlagsAndCounts

def startProcessingRows (importer : Importer) : Progress Importer Call :=
  (initialBegin run { importer with importedrowcount := 0 }).andThen (event run.rowsStart)

/-- The row is not to be inserted. -/
def excluded (row : FileRow) : Bool :=
  row.excludeRow || run.columnNameCount == 0 || (run.ignoreEmptyRows && row.emptyRow)

/-- `insertRow`, as far as what comes of it -/
def insertRow (row : FileRow) (importer : Importer) : Progress Importer Call :=
  call .insert row.insert importer

def endProcessingRow (row : FileRow) (importer : Importer) : Progress Importer Call :=
  if excluded run row then .pass { importer with currentrow := importer.currentrow + 1 }
  else
    (insertRow row importer).andThen fun importer =>
      periodicCommit run
        { importer with
          currentrow := importer.currentrow + 1
          importedrowcount := importer.importedrowcount + 1 }

/-- All that happens at a row. -/
def processRow (row : FileRow) (importer : Importer) : Progress Importer Call :=
  (event row.proceeds importer).andThen (endProcessingRow run row)

def processRows : List FileRow → Importer → Progress Importer Call
  | [], importer => .pass importer
  | row :: rows, importer => (processRow run row importer).andThen (processRows rows)

def endProcessingRows (importer : Importer) : Progress Importer Call :=
  (finalCommit run importer).andThen (event run.rowsEnd)

/-- The part of the file with the rows. -/
def processBody (importer : Importer) : Progress Importer Call :=
  (((startProcessingRows run importer).andThen (processRows run run.rows)).andThen
    (event run.complete)).andThen (endProcessingRows run)

def importData (importer : Importer) : Progress Importer Call :=
  (((startProcessingImport run importer).andThen (event run.columnsProceed)).andThen
    (processBody run)).andThen (event run.importEnd)

end Importer

/-! ## What the database sees -/

/-- The database: whether a transaction is open, and the rows inserted since the last commit and
altogether. -/
structure Ledger where
  inTransaction : Bool
  sinceCommit : Nat
  inserted : Nat
  deriving DecidableEq, Repr

namespace Ledger

def start : Ledger := ⟨false, 0, 0⟩

def step (ledger : Ledger) : Call → Ledger
  | .begin true => { ledger with inTransaction := true }
  | .commit true => { ledger with inTransaction := false, sinceCommit := 0 }
  | .insert true =>
      { ledger with sinceCommit := ledger.sinceCommit + 1, inserted := ledger.inserted + 1 }
  | .begin false | .commit false | .insert false => ledger

def after (calls : List Call) : Ledger := calls.foldl step start

/-- A row is inserted in a transaction only, and as one of `count` since the last commit. -/
def Within (count : Nat) (ledger : Ledger) (call : Call) : Prop :=
  call = .insert true → ledger.inTransaction = true ∧ ledger.sinceCommit < count

end Ledger

def Call.isTransactional : Call → Bool
  | .begin _ | .commit _ => true
  | .insert _ => false

/-- What an import with this commit count has to be like. -/
structure InTransactions (count : Nat) (progress : Progress Importer Call) : Prop where
  within : 0 < count → Along Ledger.step (Ledger.Within count) Ledger.start progress.events
  committed : progress.ok = true → (Ledger.after progress.events).inTransaction = false
  untouched : count = 0 → ∀ call ∈ progress.events, call.isTransactional = false
  counted : progress.state.importedrowcount = (Ledger.after progress.events).inserted

/-- The inserts that are tried, up to one that ends the import. -/
def ImportRun.tried (run : ImportRun) : List FileRow → List Answer
  | [] => []
  | row :: rows =>
      if row.proceeds = false then []
      else if Importer.excluded run row then tried run rows
      else if row.insert.goesOn then row.insert :: tried run rows
      else [row.insert]

/-- Nothing ends the import before the first row. -/
def ImportRun.reachesRows (run : ImportRun) : Bool :=
  run.importStart && run.columnsProceed && run.rowsStart

end SqlRelay.Import
