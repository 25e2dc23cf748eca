import SqlRelay.Import.Commits

/-!
# When an import runs in transactions

The import clears the commit count before it looks at it, so it never begins a transaction.  From the
first row on the importer would keep to a commit count that it still had.
-/

namespace SqlRelay.Import

open SqlRelay.Foundation

/-! ## The ledger of inserts alone -/

namespace Ledger

theorem within_inserts_iff (count : Nat) (answers : List Answer) {ledger : Ledger}
    (outside : ledger.inTransaction = false) :
    Along step (Within count) ledger (answers.map fun answer => .insert answer.success) ↔
      ∀ answer ∈ answers, answer ≠ .succeeds := by
  induction answers generalizing ledger with
  | nil => simp
  | cons answer answers ih =>
      rw [List.map_cons, Along.cons_iff, List.forall_mem_cons]
      cases answer with
      | succeeds => simp [Within, Answer.success, outside]
      | fails goesOn =>
          rw [ih (by exact outside)]
          simp [Within, Answer.success]

theorem foldl_inserts (answers : List Answer) (ledger : Ledger) :
    ((answers.map fun answer => Call.insert answer.success).foldl step ledger).inTransaction =
        ledger.inTransaction ∧
      ((answers.map fun answer => Call.insert answer.success).foldl step ledger).inserted =
        ledger.inserted + answers.countP Answer.success := by
  induction answers generalizing ledger with
  | nil => simp
  | cons answer answers ih =>
      rw [List.map_cons, List.foldl_cons, List.countP_cons]
      have later := ih (ledger.step (.insert answer.success))
      cases answer with
      | succeeds =>
          rw [later.1, later.2]
          constructor
          · rfl
          · simp only [Answer.success, step, if_true]
            omega
      | fails goesOn =>
          rw [later.1, later.2]
          constructor
          · rfl
          · simp [Answer.success, step]

end Ledger

theorem countP_success_le (answers : List Answer) :
    answers.countP Answer.success ≤ answers.countP Answer.goesOn := by
  apply List.countP_mono_left
  intro answer _ success
  cases answer with
  | succeeds => rfl
  | fails goesOn => cases success

/-- All that is gone on after is inserted exactly if no failure is passed over. -/
theorem countP_goesOn_iff (answers : List Answer) :
    answers.countP Answer.goesOn = answers.countP Answer.success ↔
      ∀ answer ∈ answers, answer ≠ .fails true := by
  induction answers with
  | nil => simp
  | cons answer answers ih =>
      rw [List.countP_cons, List.countP_cons, List.forall_mem_cons]
      cases answer with
      | succeeds => simpa [Answer.goesOn, Answer.success] using ih
      | fails goesOn =>
          cases goesOn with
          | true =>
              have fewer := countP_success_le answers
              simp only [Answer.goesOn, Answer.success, if_true, Bool.false_eq_true, if_false, ne_eq,
                not_true_eq_false, false_and, iff_false]
              omega
          | false => simpa [Answer.goesOn, Answer.success] using ih

/-! ## Without a commit count -/

namespace Importer

variable (run : ImportRun)

/-- The counts when a row has been inserted, or its failure has been passed over. -/
def counted (importer : Importer) : Importer :=
  { importer with
    currentrow := importer.currentrow + 1
    importedrowcount := importer.importedrowcount + 1 }

/-- A row without a commit count. -/
theorem processRow_uncommitted (row : FileRow) {importer : Importer}
    (unset : importer.commitcount = 0) :
    processRow run row importer =
      if row.proceeds = false then ⟨[], importer, false⟩
      else if excluded run row then
        ⟨[], { importer with currentrow := importer.currentrow + 1 }, true⟩
      else if row.insert.goesOn then ⟨[.insert row.insert.success], importer.counted, true⟩
      else ⟨[.insert row.insert.success], importer, false⟩ := by
  rw [processRow]
  split
  case isTrue stops => simp [event, stops, Progress.andThen]
  case isFalse proceeds =>
    rw [Bool.not_eq_false] at proceeds
    rw [event, proceeds, Progress.mk_true_andThen, Progress.prepend_nil, endProcessingRow]
    split
    · rfl
    · rw [insertRow, call]
      split
      case isTrue goesOn =>
        rw [goesOn, Progress.mk_true_andThen, periodicCommit, if_pos unset]
        rfl
      case isFalse ends =>
        rw [Bool.not_eq_true] at ends
        rw [ends, Progress.andThen_of_not_ok rfl]

/-- Rows that are inserted without a commit count: all that is asked of the database are the
inserts, and all that were gone on after are counted. -/
theorem processRows_uncommitted (rows : List FileRow) {importer : Importer}
    (unset : importer.commitcount = 0) :
    (processRows run rows importer).events =
        (run.tried rows).map (fun answer => .insert answer.success) ∧
      (processRows run rows importer).state.commitcount = 0 ∧
      (processRows run rows importer).state.importedrowcount =
        importer.importedrowcount + (run.tried rows).countP Answer.goesOn := by
  induction rows generalizing importer with
  | nil => exact ⟨rfl, unset, rfl⟩
  | cons row rows ih =>
      rw [processRows, processRow_uncommitted run row unset, ImportRun.tried]
      split
      case isTrue =>
        rw [Progress.andThen_of_not_ok rfl]
        exact ⟨rfl, unset, rfl⟩
      case isFalse =>
        split
        case isTrue =>
          rw [Progress.mk_true_andThen, Progress.prepend_nil]
          exact ih unset
        case isFalse =>
          split
          case isTrue goesOn =>
            have later := ih (show importer.counted.commitcount = 0 from unset)
            rw [Progress.mk_true_andThen, Progress.prepend_events, Progress.prepend_state,
              List.map_cons, List.countP_cons, if_pos goesOn, later.1]
            have next : importer.counted.importedrowcount = importer.importedrowcount + 1 := rfl
            exact ⟨rfl, later.2.1, by omega⟩
          case isFalse ends =>
            rw [Progress.andThen_of_not_ok rfl, List.countP_singleton, if_neg ends]
            exact ⟨rfl, unset, rfl⟩

/-- Behind the rows there is nothing to do without a commit count. -/
theorem endProcessingRows_uncommitted {importer : Importer} (unset : importer.commitcount = 0) :
    endProcessingRows run importer = event run.rowsEnd importer := by
  rw [endProcessingRows, finalCommit, if_pos unset, Progress.pass_andThen]

theorem andThen_event (progress : Progress Importer Call) (proceeds : Bool) :
    (progress.andThen (event proceeds)).events = progress.events ∧
      (progress.andThen (event proceeds)).state = progress.state := by
  cases ok : progress.ok with
  | true =>
      rw [Progress.andThen_of_ok ok]
      exact ⟨List.append_nil _, rfl⟩
  | false =>
      rw [Progress.andThen_of_not_ok ok]
      exact ⟨rfl, rfl⟩

/-- The body of a file without a commit count, if it is come to. -/
theorem processBody_uncommitted {importer : Importer} (unset : importer.commitcount = 0) :
    (processBody run importer).events =
        (if run.rowsStart then run.tried run.rows else []).map
          (fun answer => .insert answer.success) ∧
      (processBody run importer).state.importedrowcount =
        (if run.rowsStart then run.tried run.rows else []).countP Answer.goesOn := by
  rw [processBody, startProcessingRows, initialBegin, if_pos unset, Progress.pass_andThen, event]
  cases run.rowsStart with
  | false => exact ⟨rfl, rfl⟩
  | true =>
      have same : ({ importer with importedrowcount := 0 } : Importer).commitcount = 0 := unset
      have rows := processRows_uncommitted run run.rows same
      rw [Progress.mk_true_andThen, Progress.prepend_nil]
      generalize processRows run run.rows { importer with importedrowcount := 0 } = progress at rows
      have complete := andThen_event progress run.complete
      generalize progress.andThen (event run.complete) = progress' at complete
      cases ok : progress'.ok with
      | true =>
          have unset : progress'.state.commitcount = 0 := complete.2 ▸ rows.2.1
          rw [Progress.andThen_of_ok ok, endProcessingRows_uncommitted run unset]
          simp [event, complete, rows]
      | false =>
          rw [Progress.andThen_of_not_ok ok]
          simp [complete, rows]

/-- What the database is asked in the whole import, and how many rows are counted. -/
theorem importData_uncommitted (importer : Importer) :
    (importData run importer).events =
        (if run.reachesRows then run.tried run.rows else []).map
          (fun answer => .insert answer.success) ∧
      (importData run importer).state.importedrowcount =
        (if run.reachesRows then run.tried run.rows else []).countP Answer.goesOn := by
  have last := andThen_event (((startProcessingImport run importer).andThen
    (event run.columnsProceed)).andThen (processBody run)) run.importEnd
  rw [importData, last.1, last.2, startProcessingImport, ImportRun.reachesRows]
  cases run.importStart with
  | false => exact ⟨rfl, rfl⟩
  | true =>
      cases run.columnsProceed with
      | false => exact ⟨rfl, rfl⟩
      | true => exact processBody_uncommitted run rfl

end Importer

/-- The commit count does not matter, and what is counted is inserted. -/
def ImportRun.Harmless (run : ImportRun) (count : Nat) : Prop :=
  run.reachesRows = true →
    ∀ answer ∈ run.tried run.rows, answer ≠ .fails true ∧ (0 < count → answer ≠ .succeeds)

theorem ImportRun.harmless_iff (run : ImportRun) (count : Nat) :
    run.Harmless count ↔
      ∀ answer ∈ (if run.reachesRows then run.tried run.rows else []),
        answer ≠ .fails true ∧ (0 < count → answer ≠ .succeeds) := by
  rw [Harmless]
  cases run.reachesRows with
  | true => simp
  | false => simp

/-- An import is as it should be exactly if no failure is passed over and, with a commit count, no
row is inserted. -/
theorem importData_inTransactions_iff (run : ImportRun) (count : Nat) (importer : Importer) :
    InTransactions count ((importer.setCommitCount count).importData run) ↔
      run.Harmless count := by
  obtain ⟨events, imported⟩ := Importer.importData_uncommitted run (importer.setCommitCount count)
  rw [ImportRun.harmless_iff]
  generalize (if run.reachesRows then run.tried run.rows else []) = tried at events imported
  have ledger := Ledger.foldl_inserts tried Ledger.start
  constructor
  · intro transactions
    have counted := transactions.counted
    rw [events, imported, Ledger.after, ledger.2, Ledger.start, Nat.zero_add,
      countP_goesOn_iff] at counted
    intro answer member
    constructor
    · exact counted answer member
    · intro positive
      have within := transactions.within positive
      rw [events, Ledger.within_inserts_iff count tried rfl] at within
      exact within answer member
  · intro each
    constructor
    · intro positive
      rw [events, Ledger.within_inserts_iff count tried rfl]
      intro answer member
      exact (each answer member).2 positive
    · intro _
      rw [events, Ledger.after, ledger.1]
      rfl
    · intro _ call member
      rw [events] at member
      obtain ⟨answer, _, rfl⟩ := List.mem_map.mp member
      rfl
    · rw [events, imported, Ledger.after, ledger.2, Ledger.start, Nat.zero_add, countP_goesOn_iff]
      intro answer member
      exact (each answer member).1

/-! ## With a commit count -/

/-- A file with one row, and nothing that goes wrong. -/
def oneRow : ImportRun where
  importStart := true
  columnsProceed := true
  columnNameCount := 1
  ignoreEmptyRows := false
  rowsStart := true
  rows := [⟨true, false, false, .succeeds⟩]
  complete := true
  rowsEnd := true
  importEnd := true
  begins := fun _ => ⟨true, .succeeds, true⟩
  commits := fun _ => ⟨true, .succeeds, true⟩
  finalCommit := ⟨true, .succeeds, true⟩

/-- With a commit count of 1 the row is inserted outside of a transaction. -/
theorem oneRow_not_inTransactions :
    ¬∀ (run : ImportRun) (count : Nat) (importer : Importer),
      InTransactions count ((importer.setCommitCount count).importData run) := by
  intro every
  have within := (every oneRow 1 ⟨0, 0, 0⟩).within (by decide)
  have events : ((Importer.mk 0 0 0).setCommitCount 1 |>.importData oneRow).events =
      [.insert true] := by
    decide
  rw [events] at within
  exact absurd (within.1 rfl).1 (by decide)

end SqlRelay.Import
