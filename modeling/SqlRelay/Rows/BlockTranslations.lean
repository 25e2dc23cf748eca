/-!
# The rows of a database cursor

What a connection module makes of the rows of a result set: `fetchRow`, `skipRow`
and `nextRow` of a cursor.  Some modules move to the next row when a row is fetched;
those that fetch rows in groups move on in `nextRow` and in `skipRow` only.
-/

namespace SqlRelay.Rows

universe u

/-- What the database answers when the next row is asked for; at the end of the data
it has no answer left. -/
inductive Answer (Row : Type u) where
  | row (row : Row)
  | failure
  deriving DecidableEq, Repr

/-- What `fetchRow` of a cursor says: its return value, `*error`, and the row that
`getField` then reads. -/
inductive Fetched (Row : Type u) where
  | row (row : Row)
  | endOfData
  | failure
  deriving DecidableEq, Repr

/-- A cursor of a connection module. -/
structure Cursor (Row : Type u) where
  /-- The answers of the database that are still to come. -/
  ahead : List (Answer Row)
  /-- The module stays on a row until it is told to move on. -/
  stays : Bool
  deriving DecidableEq, Repr

namespace Cursor

variable {Row : Type u}

/-- `fetchRow` -/
def fetchRow (cursor : Cursor Row) : Fetched Row × Cursor Row :=
  match cursor.ahead with
  | [] => (.endOfData, cursor)
  | .failure :: rest => (.failure, { cursor with ahead := rest })
  | .row row :: rest =>
      (.row row, if cursor.stays then cursor else { cursor with ahead := rest })

/-- `nextRow` -/
def nextRow (cursor : Cursor Row) : Cursor Row :=
  if cursor.stays then { cursor with ahead := cursor.ahead.tail } else cursor

/-- `skipRow`: fetches a row and, where that does not move on, moves on. -/
def skipRow (cursor : Cursor Row) : Fetched Row × Cursor Row :=
  match cursor.fetchRow with
  | (.row row, fetched) => (.row row, fetched.nextRow)
  | (answer, fetched) => (answer, fetched)

@[simp] theorem fetchRow_nil (stays : Bool) :
    (⟨[], stays⟩ : Cursor Row).fetchRow = (.endOfData, ⟨[], stays⟩) := rfl

@[simp] theorem fetchRow_failure (rest : List (Answer Row)) (stays : Bool) :
    (⟨.failure :: rest, stays⟩ : Cursor Row).fetchRow = (.failure, ⟨rest, stays⟩) := rfl

@[simp] theorem fetchRow_row (row : Row) (rest : List (Answer Row)) (stays : Bool) :
    (⟨.row row :: rest, stays⟩ : Cursor Row).fetchRow =
      (.row row, ⟨if stays then .row row :: rest else rest, stays⟩) := by
  cases stays <;> rfl

@[simp] theorem nextRow_of_moved (ahead : List (Answer Row)) :
    (⟨ahead, false⟩ : Cursor Row).nextRow = ⟨ahead, false⟩ := rfl

@[simp] theorem nextRow_of_stayed (ahead : List (Answer Row)) :
    (⟨ahead, true⟩ : Cursor Row).nextRow = ⟨ahead.tail, true⟩ := rfl

/-- Fetching a row and going to the next one moves on by one row in every module. -/
theorem nextRow_fetched (row : Row) (rest : List (Answer Row)) (stays : Bool) :
    (⟨if stays then .row row :: rest else rest, stays⟩ : Cursor Row).nextRow =
      ⟨rest, stays⟩ := by
  cases stays <;> rfl

@[simp] theorem skipRow_nil (stays : Bool) :
    (⟨[], stays⟩ : Cursor Row).skipRow = (.endOfData, ⟨[], stays⟩) := rfl

@[simp] theorem skipRow_failure (rest : List (Answer Row)) (stays : Bool) :
    (⟨.failure :: rest, stays⟩ : Cursor Row).skipRow = (.failure, ⟨rest, stays⟩) := rfl

@[simp] theorem skipRow_row (row : Row) (rest : List (Answer Row)) (stays : Bool) :
    (⟨.row row :: rest, stays⟩ : Cursor Row).skipRow = (.row row, ⟨rest, stays⟩) := by
  rw [skipRow, fetchRow_row]
  simp only [nextRow_fetched]

end Cursor

/-!
## The row block translations

The list of row block translation modules of the server: rows are given to the first
module with `setRow`, `run` translates the block, and `getRow` takes the translated
rows from the last module, one by one.  A module is a parameter; `Contract` says what
the documentation of the module's class promises.
-/

universe v

/-- A row block translation module: what its methods return and what they make of its
state. -/
structure BlockModule (Row : Type u) (State : Type v) where
  setRow : Row → State → Bool × State
  run : State → Bool × State
  getRow : State → Option Row × State
  getError : State → Option String

/-- The module translates blocks of rows, row for row: `Given` are the rows that were
set since the last block, `Ready` those of the translated block that are left. -/
structure BlockModule.Contract {Row : Type u} {State : Type v} (module : BlockModule Row State)
    where
  translate : List Row → List Row
  Given : List Row → State → Prop
  Ready : List Row → State → Prop
  length_translate : ∀ rows, (translate rows).length = rows.length
  setRow : ∀ row rows state, Given rows state →
    (module.setRow row state).1 = true ∧ Given (rows ++ [row]) (module.setRow row state).2
  run : ∀ rows state, Given rows state →
    (module.run state).1 = true ∧ Ready (translate rows) (module.run state).2
  getRow : ∀ rows state, Ready rows state →
    (module.getRow state).1 = rows.head? ∧ Ready rows.tail (module.getRow state).2
  empty : ∀ state, Given [] state ↔ Ready [] state

/-- `sqlrresultsetrowblocktranslations` -/
structure BlockTranslations (Row : Type u) (State : Type v) where
  rowBlockCount : Nat
  positive : 0 < rowBlockCount
  /-- The rows of a block are counted in 32 bits. -/
  counted : rowBlockCount < 4294967296
  /-- The modules, in the order in which they are loaded, with their states. -/
  modules : List (BlockModule Row State × State)
  rowcount : UInt64
  error : Option String

namespace BlockTranslations

variable {Row : Type u} {State : Type v}

/-- `setRow` -/
def setRow (translations : BlockTranslations Row State) (row : Row) :
    Bool × BlockTranslations Row State :=
  match translations.modules with
  | [] => (true, translations)
  | (module, state) :: later =>
      let answer := module.setRow row state
      (answer.1, { translations with
        modules := (module, answer.2) :: later
        rowcount := if answer.1 then translations.rowcount + 1 else 0 })

/-- Rows are taken from a module and set in the same module again. -/
def recycle (module : BlockModule Row State) : Nat → State → Bool × State
  | 0, state => (true, state)
  | count + 1, state =>
      match module.getRow state with
      | (none, taken) => (false, taken)
      | (some row, taken) =>
          match module.setRow row taken with
          | (false, given) => (false, given)
          | (true, given) => recycle module count given

/-- What `run` leaves: its return value, `_error` and the modules. -/
structure Ran (Row : Type u) (State : Type v) where
  ok : Bool
  error : Option String
  modules : List (BlockModule Row State × State)

/-- The loop of `run`, with at least one row in the block: each module but the last is
given its own rows and run again. -/
def runEach (count : Nat) : List (BlockModule Row State × State) → Ran Row State
  | [] => ⟨true, none, []⟩
  | [last] => ⟨true, none, [last]⟩
  | (module, state) :: later =>
      let recycled := recycle module count state
      if recycled.1 then
        let answer := module.run recycled.2
        if answer.1 then
          let ran := runEach count later
          { ran with modules := (module, answer.2) :: ran.modules }
        else ⟨false, module.getError answer.2, (module, answer.2) :: later⟩
      else ⟨false, none, (module, recycled.2) :: later⟩

/-- The loop of `run` with no row in the block: the first module is run once for each
module but the last. -/
def runFirst (module : BlockModule Row State) : Nat → State → Bool × State
  | 0, state => (true, state)
  | times + 1, state =>
      let answer := module.run state
      if answer.1 then runFirst module times answer.2 else answer

/-- `run` after its first module ran. -/
def runLoop (count : Nat) : List (BlockModule Row State × State) → Ran Row State
  | [] => ⟨true, none, []⟩
  | (module, state) :: later =>
      if count = 0 then
        let answer := runFirst module later.length state
        ⟨answer.1, if answer.1 then none else module.getError answer.2,
          (module, answer.2) :: later⟩
      else runEach count ((module, state) :: later)

/-- `run` -/
def run (translations : BlockTranslations Row State) : Bool × BlockTranslations Row State :=
  match translations.modules with
  | [] => (true, { translations with error := none })
  | (module, state) :: later =>
      let answer := module.run state
      if answer.1 then
        let ran := runLoop translations.rowcount.toNat ((module, answer.2) :: later)
        (ran.ok, { translations with
          modules := ran.modules
          rowcount := if ran.ok then translations.rowcount else 0
          error := ran.error })
      else
        (false, { translations with
          modules := (module, answer.2) :: later
          rowcount := 0
          error := module.getError answer.2 })

/-- `getRow`: the last module hands out a row; without a module the fields stay what
they are. -/
def getRow (translations : BlockTranslations Row State) (fields : Row) :
    Option Row × BlockTranslations Row State :=
  match translations.modules.getLast? with
  | none => (some fields, translations)
  | some (module, state) =>
      let answer := module.getRow state
      (answer.1, { translations with
        modules := translations.modules.dropLast ++ [(module, answer.2)]
        rowcount := if answer.1.isSome then translations.rowcount - 1 else 0 })

section Single

variable {translations : BlockTranslations Row State} {module : BlockModule Row State}
variable {rows : List Row}

/-- There is one module, in such a state. -/
def Single (translations : BlockTranslations Row State) (module : BlockModule Row State)
    (good : State → Prop) : Prop :=
  ∃ state, translations.modules = [(module, state)] ∧ good state

theorem Single.mono {good better : State → Prop} (single : translations.Single module good)
    (imp : ∀ state, good state → better state) : translations.Single module better := by
  obtain ⟨state, only, holds⟩ := single
  exact ⟨state, only, imp state holds⟩

@[simp] theorem setRow_rowBlockCount (row : Row) :
    (translations.setRow row).2.rowBlockCount = translations.rowBlockCount := by
  rw [setRow]
  split <;> rfl

@[simp] theorem run_rowBlockCount : translations.run.2.rowBlockCount = translations.rowBlockCount := by
  rw [run]
  split
  · rfl
  · dsimp only
    split <;> rfl

@[simp] theorem getRow_rowBlockCount (fields : Row) :
    (translations.getRow fields).2.rowBlockCount = translations.rowBlockCount := by
  rw [getRow]
  split <;> rfl

theorem setRow_single (contract : module.Contract) (row : Row)
    (given : translations.Single module (contract.Given rows)) :
    (translations.setRow row).1 = true ∧
      (translations.setRow row).2.Single module (contract.Given (rows ++ [row])) := by
  obtain ⟨state, only, given⟩ := given
  have kept := contract.setRow row rows state given
  simp only [setRow, only, kept.1, true_and]
  exact ⟨_, rfl, kept.2⟩

/-- A module that is the only one is run once, whatever the block holds. -/
theorem runLoop_single (count : Nat) (entry : BlockModule Row State × State) :
    runLoop count [entry] = ⟨true, none, [entry]⟩ := by
  cases count <;> simp [runLoop, runFirst, runEach]

theorem run_single (contract : module.Contract)
    (given : translations.Single module (contract.Given rows)) :
    translations.run.1 = true ∧ translations.run.2.error = none ∧
      translations.run.2.Single module (contract.Ready (contract.translate rows)) := by
  obtain ⟨state, only, given⟩ := given
  have ran := contract.run rows state given
  simp only [run, only, ran.1, if_true, runLoop_single, true_and]
  exact ⟨_, rfl, ran.2⟩

theorem getRow_single (contract : module.Contract) (fields : Row)
    (ready : translations.Single module (contract.Ready rows)) :
    (translations.getRow fields).1 = rows.head? ∧
      (translations.getRow fields).2.error = translations.error ∧
      (translations.getRow fields).2.Single module (contract.Ready rows.tail) := by
  obtain ⟨state, only, ready⟩ := ready
  have taken := contract.getRow rows state ready
  simp only [getRow, only, List.getLast?_singleton, List.dropLast_singleton, List.nil_append,
    taken.1, true_and]
  exact ⟨_, rfl, taken.2⟩

end Single

end BlockTranslations

end SqlRelay.Rows
