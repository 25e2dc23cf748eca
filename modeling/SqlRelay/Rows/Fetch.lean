import SqlRelay.Foundation.Chunks
import SqlRelay.Rows.BlockTranslations

/-!
# Skipping and fetching rows

`skipRows` and `fetchRow` of the server controller, with and without row block
translations, on one cursor.
-/

namespace SqlRelay.Rows

open SqlRelay.Foundation

universe u v

/-- What the server controller knows of one cursor. -/
structure Controller (Row : Type u) (State : Type v) where
  translations : Option (BlockTranslations Row State)
  /-- The row translations; they may refuse a row. -/
  reformatRow : Row → Option Row
  cursor : Cursor Row
  totalRowsFetched : Nat
  /-- The field pointers of the cursor. -/
  fields : Row

/-- What a function leaves; `ok` is what it returns, `error` is its `*error`. -/
structure Report (Row : Type u) (State : Type v) where
  ok : Bool
  error : Bool
  controller : Controller Row State

/-- What the first half of `fetchRow` leaves: a block was started, or it is in use. -/
structure Block (Row : Type u) (State : Type v) where
  ok : Bool
  error : Bool
  translations : BlockTranslations Row State
  cursor : Cursor Row
  fields : Row

variable {Row : Type u} {State : Type v}

/-- The loop that reads a block; a row that cannot be fetched ends the loop, whatever
the reason. -/
def fillBlock : Nat → BlockTranslations Row State → Cursor Row → Row → Block Row State
  | 0, translations, cursor, fields => ⟨true, false, translations, cursor, fields⟩
  | rows + 1, translations, cursor, fields =>
      match cursor.fetchRow with
      | (.endOfData, fetched) => ⟨true, false, translations, fetched, fields⟩
      | (.failure, fetched) => ⟨true, true, translations, fetched, fields⟩
      | (.row row, fetched) =>
          let answer := translations.setRow row
          if answer.1 then fillBlock rows answer.2 fetched row
          else ⟨false, true, answer.2, fetched, row⟩

/-- The first row of a block: the block is read and translated. -/
def startBlock (translations : BlockTranslations Row State) (cursor : Cursor Row) (fields : Row) :
    Block Row State :=
  let filled := fillBlock translations.rowBlockCount translations cursor fields
  if filled.ok then
    let ran := filled.translations.run
    if ran.1 then { filled with translations := ran.2 }
    else { filled with ok := false, error := true, translations := ran.2 }
  else filled

namespace Controller

/-- The end of `fetchRow`: the row is reformatted and counted. -/
def finishRow (controller : Controller Row State) (error : Bool) : Report Row State :=
  match controller.reformatRow controller.fields with
  | none => ⟨false, true, controller⟩
  | some fields =>
      ⟨true, error, { controller with
        fields := fields
        totalRowsFetched := controller.totalRowsFetched + 1 }⟩

theorem finishRow_accepted {controller : Controller Row State} {error : Bool} {fields : Row}
    (accepted : controller.reformatRow controller.fields = some fields) :
    controller.finishRow error = ⟨true, error, { controller with
      fields := fields
      totalRowsFetched := controller.totalRowsFetched + 1 }⟩ := by
  rw [finishRow, accepted]

/-- The second half of `fetchRow`: the next row of the block.  Where the translations
have none, `*error` stays what the driver made of it. -/
def takeRow (controller : Controller Row State) (block : Block Row State) : Report Row State :=
  let taken := block.translations.getRow block.fields
  let reached := { controller with
    translations := some taken.2, cursor := block.cursor, fields := block.fields }
  match taken.1 with
  | none => ⟨false, block.error || taken.2.error.isSome, reached⟩
  | some fields => { reached with fields := fields }.finishRow block.error

/-- The first half of `fetchRow`: at the first row of a block the block is read. -/
def openBlock (controller : Controller Row State) (translations : BlockTranslations Row State) :
    Block Row State :=
  if controller.totalRowsFetched % translations.rowBlockCount = 0 then
    startBlock translations controller.cursor controller.fields
  else ⟨true, false, translations, controller.cursor, controller.fields⟩

/-- `fetchRow` -/
def fetchRow (controller : Controller Row State) : Report Row State :=
  match controller.translations with
  | some translations =>
      let block := controller.openBlock translations
      if block.ok then controller.takeRow block
      else ⟨false, block.error, { controller with
        translations := some block.translations, cursor := block.cursor, fields := block.fields }⟩
  | none =>
      match controller.cursor.fetchRow with
      | (.endOfData, fetched) => ⟨false, false, { controller with cursor := fetched }⟩
      | (.failure, fetched) => ⟨false, true, { controller with cursor := fetched }⟩
      | (.row row, fetched) => { controller with cursor := fetched, fields := row }.finishRow false

/-- `nextRow` -/
def nextRow (controller : Controller Row State) : Controller Row State :=
  { controller with cursor := controller.cursor.nextRow }

/-- `skipRows`: its loop has an `error` of its own, and `*error` stays what it was. -/
def skipRows (error : Bool) : Nat → Controller Row State → Report Row State
  | 0, controller => ⟨true, error, controller⟩
  | rows + 1, controller =>
      match controller.cursor.skipRow with
      | (.row _, skipped) =>
          skipRows error rows { controller with
            cursor := skipped, totalRowsFetched := controller.totalRowsFetched + 1 }
      | (_, skipped) => ⟨false, error, { controller with cursor := skipped }⟩

/-- Why no rows are left to skip is not reported. -/
theorem skipRows_error (error : Bool) (rows : Nat) (controller : Controller Row State) :
    (controller.skipRows error rows).error = error := by
  induction rows generalizing controller with
  | zero => rfl
  | succ rows ih =>
      rw [skipRows]
      split
      · exact ih _
      · rfl

end Controller

end SqlRelay.Rows
