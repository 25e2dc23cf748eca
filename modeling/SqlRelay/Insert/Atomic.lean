import SqlRelay.Insert.Split

/-!
# A split multi-insert that fails

The trigger neither begins a transaction around the single inserts nor rolls anything back when one
of them fails.  What the table then holds is up to the transaction that the client is in.
-/

namespace SqlRelay.Insert

open SqlRelay.Foundation

variable {Row : Type}

/-- What the database holds of a table: what is committed, and what the client's transaction has
added, if there is one. -/
structure Table (Row : Type) where
  committed : List Row
  uncommitted : List Row
  inTransaction : Bool
  outside : inTransaction = false → uncommitted = []

/-- What the database makes of a single insert: the rows it adds, or an error, which may cost the
transaction. -/
inductive Answer (Row : Type) where
  | inserts (rows : List Row)
  | fails (rollsBack : Bool)

def Answer.rows : Answer Row → List Row
  | .inserts rows => rows
  | .fails _ => []

/-- The number of affected rows that the cursor reports. -/
def Answer.outcome : Answer Row → Option Nat
  | .inserts rows => some rows.length
  | .fails _ => none

namespace Table

def rows (table : Table Row) : List Row := table.committed ++ table.uncommitted

/-- Outside of a transaction an insert commits itself. -/
def run (table : Table Row) : Answer Row → Table Row
  | .inserts rows =>
      if inside : table.inTransaction = true then { table with
        uncommitted := table.uncommitted ++ rows
        outside := by simp [inside] }
      else { table with committed := table.committed ++ rows }
  | .fails rollsBack => if rollsBack then ⟨table.committed, [], false, fun _ => rfl⟩ else table

/-- The first inserts have been run. -/
def runs (answers : Nat → Answer Row) (count : Nat) (table : Table Row) : Table Row :=
  (List.range count).foldl (fun table number => table.run (answers number)) table

theorem runs_succ (answers : Nat → Answer Row) (count : Nat) (table : Table Row) :
    table.runs answers (count + 1) = (table.runs answers count).run (answers count) := by
  rw [runs, runs, List.range_succ, List.foldl_append]
  rfl

/-- Inserts that succeed add their rows, and leave the transaction as it is. -/
theorem runs_inserts {answers : Nat → Answer Row} {count : Nat} {table : Table Row}
    (succeed : ∀ number < count, ∃ rows, answers number = .inserts rows) :
    (table.runs answers count).inTransaction = table.inTransaction ∧
      (table.inTransaction = true → (table.runs answers count).committed = table.committed) ∧
      ∀ row, row ∈ (table.runs answers count).rows ↔
        row ∈ table.rows ∨ ∃ number < count, row ∈ (answers number).rows := by
  induction count with
  | zero => simp [runs]
  | succ count ih =>
      obtain ⟨inside, committed, held⟩ := ih fun number less =>
        succeed number (Nat.lt_succ_of_lt less)
      obtain ⟨rows, answer⟩ := succeed count (Nat.lt_succ_self count)
      have added : ∀ row, row ∈ ((table.runs answers count).run (.inserts rows)).rows ↔
          row ∈ (table.runs answers count).rows ∨ row ∈ rows := by
        intro row
        simp only [run, Table.rows]
        split
        · simp [or_assoc]
        · simp only [List.mem_append]
          rw [or_right_comm]
      rw [runs_succ, answer]
      refine ⟨?_, ?_, ?_⟩
      · rw [← inside, run]
        split <;> rfl
      · intro isInside
        rw [run, dif_pos (inside.trans isInside)]
        exact committed isInside
      · intro row
        rw [added, held]
        constructor
        · rintro ((before | ⟨number, less, member⟩) | now)
          · exact Or.inl before
          · exact Or.inr ⟨number, Nat.lt_succ_of_lt less, member⟩
          · exact Or.inr ⟨count, Nat.lt_succ_self count, by rw [answer]; exact now⟩
        · rintro (before | ⟨number, less, member⟩)
          · exact Or.inl (Or.inl before)
          · rcases Nat.lt_succ_iff_lt_or_eq.mp less with earlier | rfl
            · exact Or.inl (Or.inr ⟨number, earlier, member⟩)
            · rw [answer] at member
              exact Or.inr member

end Table

/-- The query as it comes to the trigger, with the database's answers to the single inserts. -/
def answered (querySuppressed cursorOpens : Bool) (answers : Nat → Answer Row) : Execution :=
  ⟨querySuppressed, cursorOpens, fun number => (answers number).outcome⟩

/-- The table after the trigger has run. -/
def tableAfter (quoting : Quoting) (querySuppressed cursorOpens : Bool)
    (answers : Nat → Answer Row) (query : List Byte) (table : Table Row) : Table Row :=
  table.runs answers
    (splitMultiInsert quoting (answered querySuppressed cursorOpens answers)
      query).inserts.statements.length

/-- None of the statement's rows is in the table that was not there before. -/
def NothingKept (original : Row → Prop) (before after : Table Row) : Prop :=
  ∀ row, original row → row ∈ after.rows → row ∈ before.rows

variable {quoting : Quoting}

/-- The loop ends with the insert that fails. -/
theorem singleInserts_failing {outcome : Nat → Option Nat} {before suffix text : List Byte}
    {fuel number position : Nat}
    (reported : (singleInserts quoting outcome before suffix fuel number text).succeeded = false)
    (fails : outcome (number + position) = none)
    (earlier : ∀ index < position, (outcome (number + index)).isSome = true) :
    (singleInserts quoting outcome before suffix fuel number text).statements.length =
      position + 1 := by
  induction fuel generalizing number position text with
  | zero => simp [singleInserts] at reported
  | succ fuel ih =>
      cases position with
      | zero =>
          rw [Nat.add_zero] at fails
          rw [singleInserts, fails]
          rfl
      | succ position =>
          have one := earlier 0 (Nat.succ_pos position)
          obtain ⟨rows, succeeded⟩ := Option.isSome_iff_exists.mp one
          rw [Nat.add_zero] at succeeded
          rw [singleInserts, succeeded] at reported ⊢
          cases next : nextValues (parseValues quoting text).2 with
          | some rest =>
              simp only [next] at reported ⊢
              have later := @ih rest (number + 1) position reported
                (by rw [Nat.add_right_comm]; exact fails) fun index less => by
                  have success := earlier (index + 1) (Nat.succ_lt_succ less)
                  rwa [← Nat.add_assoc, Nat.add_right_comm] at success
              simp [SingleInserts.after, later]
          | none =>
              simp only [next] at reported
              contradiction

/-- When the trigger reports the failure of the insert at a position, nothing of the statement is
kept exactly if nothing was run, the failure cost the client's transaction, or the inserts before
it added nothing that was not there. -/
theorem nothingKept_iff (quoting : Quoting) (querySuppressed cursorOpens : Bool)
    (answers : Nat → Answer Row) (query : List Byte) (table : Table Row) (original : Row → Prop)
    (position : Nat) (rollsBack : Bool) (failing : answers position = .fails rollsBack)
    (earlier : ∀ number < position, ∃ rows, answers number = .inserts rows)
    (reported : (splitMultiInsert quoting (answered querySuppressed cursorOpens answers)
      query).inserts.succeeded = false) :
    NothingKept original table
        (tableAfter quoting querySuppressed cursorOpens answers query table) ↔
      cursorOpens = false ∨ (table.inTransaction = true ∧ rollsBack = true) ∨
        ∀ number < position, ∀ row ∈ (answers number).rows, original row → row ∈ table.rows := by
  rcases splitMultiInsert_cases quoting (answered querySuppressed cursorOpens answers) query with
    ⟨suppressed, result⟩ | ⟨_, closed, result⟩ | ⟨_, opens, values, _, result⟩
  · rw [result] at reported
    contradiction
  · apply iff_of_true
    · intro row _ member
      rw [tableAfter, result] at member
      exact member
    · exact Or.inl closed
  · have count : (splitMultiInsert quoting (answered querySuppressed cursorOpens answers)
        query).inserts.statements.length = position + 1 := by
      rw [result] at reported ⊢
      apply singleInserts_failing reported
      · simp [answered, failing, Answer.outcome]
      · intro index less
        obtain ⟨rows, answer⟩ := earlier index less
        simp [answered, answer, Answer.outcome]
    obtain ⟨inside, committed, held⟩ := @Table.runs_inserts _ answers position table earlier
    obtain rfl : cursorOpens = true := opens
    simp only [Bool.true_eq_false, false_or]
    rw [NothingKept, tableAfter, count, Table.runs_succ, failing]
    have added : (∀ row, original row → row ∈ (table.runs answers position).rows →
        row ∈ table.rows) ↔ ∀ number < position, ∀ row ∈ (answers number).rows, original row →
          row ∈ table.rows := by
      simp only [held]
      constructor
      · intro kept number less row member isOriginal
        exact kept row isOriginal (Or.inr ⟨number, less, member⟩)
      · rintro kept row isOriginal (before | ⟨number, less, member⟩)
        · exact before
        · exact kept number less row member isOriginal
    cases rollsBack with
    | false =>
        rw [← added]
        simp [Table.run]
    | true =>
        cases began : table.inTransaction with
        | true =>
            apply iff_of_true
            · intro row _ member
              simp only [Table.run, if_true, Table.rows, List.append_nil] at member
              rw [committed began] at member
              exact List.mem_append_left _ member
            · exact Or.inl ⟨rfl, rfl⟩
        | false =>
            have nothing := (table.runs answers position).outside (inside.trans began)
            rw [← added]
            simp [Table.run, Table.rows, nothing]

/-- A backend without literals. -/
def bareQuoting : Quoting := ⟨fun _ => 1, false, fun _ _ _ => Nat.one_pos⟩

/-- The second insert fails and nothing else happens. -/
def secondFails : Nat → Answer Nat
  | 0 => .inserts [1]
  | _ => .fails false

/-- The row of the first insert was there already. -/
theorem nothingKept_duplicate :
    NothingKept (fun _ => True) (⟨[1], [], false, fun _ => rfl⟩ : Table Nat)
        (tableAfter bareQuoting false true secondFails (ascii "insert into t values (1),(2)")
          ⟨[1], [], false, fun _ => rfl⟩) ↔
      true = false ∨ (false = true ∧ false = true) ∨
        ∀ number < 1, ∀ row ∈ (secondFails number).rows, True → row ∈ ([1] ++ [] : List Nat) :=
  nothingKept_iff bareQuoting false true secondFails (ascii "insert into t values (1),(2)")
    ⟨[1], [], false, fun _ => rfl⟩ (fun _ => True) 1 false rfl
    (fun number less => ⟨[1], by rw [Nat.lt_one_iff.mp less]; rfl⟩) (by decide)

/-- With autocommit on, the row of the first insert stays. -/
theorem autocommit_keeps_first :
    ¬ ∀ (quoting : Quoting) (querySuppressed cursorOpens : Bool) (answers : Nat → Answer Nat)
      (query : List Byte) (table : Table Nat) (original : Nat → Prop) (position : Nat)
      (rollsBack : Bool), answers position = .fails rollsBack →
      (∀ number < position, ∃ rows, answers number = .inserts rows) →
      (splitMultiInsert quoting (answered querySuppressed cursorOpens answers)
        query).inserts.succeeded = false →
      NothingKept original table
        (tableAfter quoting querySuppressed cursorOpens answers query table) := by
  intro atomic
  have kept := atomic bareQuoting false true secondFails (ascii "insert into t values (1),(2)")
    ⟨[], [], false, fun _ => rfl⟩ (fun _ => True) 1 false rfl
    (fun number less => ⟨[1], by rw [Nat.lt_one_iff.mp less]; rfl⟩) (by decide)
  exact absurd (kept 1 trivial (by decide)) (by decide)

end SqlRelay.Insert
