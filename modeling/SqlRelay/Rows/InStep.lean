import SqlRelay.Rows.Fetch

/-!
# A result set that is read in step

The rows that a result set is to be delivered as, and the states of the controller from
which it delivers them: where there are row block translations, what is left of the
block in use lies with the one module, and the driver stands behind the block.
-/

namespace SqlRelay.Rows

open SqlRelay.Foundation

universe u v

variable {Row : Type u} {State : Type v}

/-- What follows the rows of a result set. -/
inductive Ending (Row : Type u) where
  | endOfData
  | failure (later : List (Answer Row))

namespace Ending

def answers : Ending Row → List (Answer Row)
  | endOfData => []
  | failure later => .failure :: later

def fails : Ending Row → Bool
  | endOfData => false
  | failure _ => true

/-- The answers that are left when the end was reached. -/
def later : Ending Row → List (Answer Row)
  | endOfData => []
  | failure later => later

end Ending

/-- A module that does what is documented. -/
structure Translation (Row : Type u) (State : Type v) where
  module : BlockModule Row State
  contract : module.Contract

/-- The output of each module is the input of the next. -/
def translateAll (chain : List (Translation Row State)) (rows : List Row) : List Row :=
  chain.foldl (fun translated translation => translation.contract.translate translated) rows

/-- What the rows of a cursor pass through on the way to the client. -/
structure Setting (Row : Type u) (State : Type v) where
  /-- The block size of the row block translations, if there are any. -/
  blocks : Option Nat
  chain : List (Translation Row State)
  reformatRow : Row → Option Row
  /-- The driver stays on a row until `nextRow`. -/
  stays : Bool

namespace Setting

/-- The row of a result set at a position, as the row block translations make it. -/
def translated (setting : Setting Row State) (rows : List Row) (position : Nat) : Option Row :=
  match setting.blocks with
  | none => rows[position]?
  | some count => blockwise count (translateAll setting.chain) rows position

/-- The row as it is handed out, if the row translations accept it. -/
def delivered (setting : Setting Row State) (rows : List Row) (position : Nat) : Option Row :=
  (setting.translated rows position).bind setting.reformatRow

/-- The rows go through one module, and each block is read from the driver in full. -/
def Sound (setting : Setting Row State) : Prop :=
  ∀ count, setting.blocks = some count →
    0 < count ∧ (∃ translation, setting.chain = [translation]) ∧
      (setting.stays = true → count = 1)

/-- There is a row at each position of the result set. -/
theorem translated_isSome {setting : Setting Row State} (sound : setting.Sound) (rows : List Row)
    (position : Nat) : (setting.translated rows position).isSome ↔ position < rows.length := by
  rw [translated]
  cases blocks : setting.blocks with
  | none => simp
  | some size =>
      obtain ⟨positive, ⟨translation, only⟩, one⟩ := sound size blocks
      rw [only]
      exact blockwise_isSome positive translation.contract.length_translate

end Setting

/-- The driver answers with the rows from a position on. -/
def Cursor.StandsAt (cursor : Cursor Row) (rows : List Row) (ending : Ending Row)
    (position : Nat) : Prop :=
  cursor.ahead = (rows.drop position).map .row ++ ending.answers

namespace BlockTranslations

/-- At the start of a block the module is empty and the driver stands at the block;
inside of one the module has the rest of it and the driver stands behind it. -/
def InStep (translations : BlockTranslations Row State) (translation : Translation Row State)
    (rows : List Row) (ending : Ending Row) (cursor : Cursor Row) (position : Nat) : Prop :=
  let count := translations.rowBlockCount
  translations.error = none ∧
  if position % count = 0 then
    translations.Single translation.module (translation.contract.Given []) ∧
      cursor.StandsAt rows ending position
  else
    translations.Single translation.module (translation.contract.Ready
        ((translation.contract.translate (blockOf count rows position)).drop (position % count))) ∧
      cursor.StandsAt rows ending (position - position % count + count)

theorem InStep.start {translations : BlockTranslations Row State}
    {translation : Translation Row State} {rows : List Row} {ending : Ending Row}
    {cursor : Cursor Row} (clear : translations.error = none)
    (given : translations.Single translation.module (translation.contract.Given []))
    (stands : cursor.StandsAt rows ending 0) :
    translations.InStep translation rows ending cursor 0 := by
  refine ⟨clear, ?_⟩
  rw [if_pos (Nat.zero_mod _)]
  exact ⟨given, stands⟩

end BlockTranslations

/-- The controller delivers a result set in step. -/
structure Controller.InStep (setting : Setting Row State) (rows : List Row) (ending : Ending Row)
    (controller : Controller Row State) : Prop where
  reformatRow : controller.reformatRow = setting.reformatRow
  stays : controller.cursor.stays = setting.stays
  inside : controller.totalRowsFetched ≤ rows.length
  blocks : controller.translations.map BlockTranslations.rowBlockCount = setting.blocks
  direct : controller.translations = none →
    controller.cursor.StandsAt rows ending controller.totalRowsFetched
  inBlocks : ∀ translations, controller.translations = some translations →
    ∀ translation, setting.chain = [translation] →
      translations.InStep translation rows ending controller.cursor controller.totalRowsFetched

section Blocks

variable {translations : BlockTranslations Row State} {translation : Translation Row State}
variable {ending : Ending Row} {given : List Row}

/-- A driver that moves on gives a block its rows, or all that are left. -/
theorem fillBlock_moving (count : Nat) {rows : List Row} (fields : Row)
    (single : translations.Single translation.module (translation.contract.Given given))
    (enough : count ≤ rows.length ∨ ending.fails = false) :
    ∃ filled last, fillBlock count translations ⟨rows.map .row ++ ending.answers, false⟩ fields =
        ⟨true, false, filled, ⟨(rows.drop count).map .row ++ ending.answers, false⟩, last⟩ ∧
      filled.rowBlockCount = translations.rowBlockCount ∧
      filled.Single translation.module (translation.contract.Given (given ++ rows.take count)) := by
  induction count generalizing translations rows fields given with
  | zero => exact ⟨translations, fields, rfl, rfl, by simpa using single⟩
  | succ count ih =>
      cases rows with
      | nil =>
          cases ending with
          | failure later => simp [Ending.fails] at enough
          | endOfData =>
              refine ⟨translations, fields, ?_, rfl, by simpa using single⟩
              simp [fillBlock, Ending.answers]
      | cons row rows =>
          obtain ⟨answered, kept⟩ :=
            BlockTranslations.setRow_single translation.contract row single
          obtain ⟨filled, last, fills, same, given⟩ :=
            ih row kept (enough.imp_left Nat.le_of_succ_le_succ)
          refine ⟨filled, last, ?_, ?_, ?_⟩
          · simpa [fillBlock, answered] using fills
          · simpa using same
          · simpa using given

/-- A driver that stays on a row gives a block of one row that row. -/
theorem fillBlock_staying (row : Row) (rest : List (Answer Row)) (fields : Row)
    (single : translations.Single translation.module (translation.contract.Given given)) :
    ∃ filled, fillBlock 1 translations ⟨.row row :: rest, true⟩ fields =
        ⟨true, false, filled, ⟨.row row :: rest, true⟩, row⟩ ∧
      filled.rowBlockCount = translations.rowBlockCount ∧
      filled.Single translation.module (translation.contract.Given (given ++ [row])) := by
  obtain ⟨answered, kept⟩ := BlockTranslations.setRow_single translation.contract row single
  refine ⟨(translations.setRow row).2, ?_, by simp, kept⟩
  simp [fillBlock, answered]

/-- The block where the driver stands is read; once its first row is delivered, the
driver stands behind it. -/
theorem fillBlock_rows {row : Row} {rows : List Row} {stays : Bool} (fields : Row)
    (single : translations.Single translation.module (translation.contract.Given []))
    (one : stays = true → translations.rowBlockCount = 1)
    (enough : translations.rowBlockCount ≤ (row :: rows).length ∨ ending.fails = false) :
    ∃ filled cursor last,
      fillBlock translations.rowBlockCount translations
          ⟨(row :: rows).map .row ++ ending.answers, stays⟩ fields =
        ⟨true, false, filled, cursor, last⟩ ∧
      filled.rowBlockCount = translations.rowBlockCount ∧
      filled.Single translation.module
        (translation.contract.Given ((row :: rows).take translations.rowBlockCount)) ∧
      cursor.nextRow =
        ⟨((row :: rows).drop translations.rowBlockCount).map .row ++ ending.answers, stays⟩ := by
  cases stays with
  | false =>
      obtain ⟨filled, last, fills, same, given⟩ :=
        fillBlock_moving translations.rowBlockCount fields single enough
      exact ⟨filled, _, last, fills, same, given, rfl⟩
  | true =>
      obtain ⟨filled, fills, same, given⟩ :=
        fillBlock_staying row (rows.map .row ++ ending.answers) fields single
      rw [one rfl] at same ⊢
      exact ⟨filled, _, row, fills, same, by simpa using given, by simp⟩

theorem startBlock_rows {row : Row} {rows : List Row} {stays : Bool} (fields : Row)
    (single : translations.Single translation.module (translation.contract.Given []))
    (one : stays = true → translations.rowBlockCount = 1)
    (enough : translations.rowBlockCount ≤ (row :: rows).length ∨ ending.fails = false) :
    ∃ started cursor last,
      startBlock translations ⟨(row :: rows).map .row ++ ending.answers, stays⟩ fields =
        ⟨true, false, started, cursor, last⟩ ∧
      started.rowBlockCount = translations.rowBlockCount ∧ started.error = none ∧
      started.Single translation.module (translation.contract.Ready
        (translation.contract.translate ((row :: rows).take translations.rowBlockCount))) ∧
      cursor.nextRow =
        ⟨((row :: rows).drop translations.rowBlockCount).map .row ++ ending.answers, stays⟩ := by
  obtain ⟨filled, cursor, last, fills, same, given, behind⟩ :=
    fillBlock_rows fields single one enough
  obtain ⟨ran, clear, ready⟩ := BlockTranslations.run_single translation.contract given
  refine ⟨filled.run.2, cursor, last, ?_, by simpa using same, clear, ready, behind⟩
  simp only [startBlock, fills, ran, if_true]

/-- At the end of the data a block of no rows is translated. -/
theorem startBlock_end {stays : Bool} (fields : Row)
    (single : translations.Single translation.module (translation.contract.Given [])) :
    ∃ started,
      startBlock translations ⟨ending.answers, stays⟩ fields =
        ⟨true, ending.fails, started, ⟨ending.later, stays⟩, fields⟩ ∧
      started.rowBlockCount = translations.rowBlockCount ∧ started.error = none ∧
      started.Single translation.module (translation.contract.Ready []) := by
  obtain ⟨ran, clear, ready⟩ := BlockTranslations.run_single translation.contract single
  have none_left : translation.contract.translate [] = [] :=
    List.eq_nil_of_length_eq_zero (translation.contract.length_translate [])
  rw [none_left] at ready
  obtain ⟨before, count⟩ := Nat.exists_eq_succ_of_ne_zero translations.positive.ne'
  refine ⟨translations.run.2, ?_, by simp, clear, ready⟩
  cases ending <;>
    simp [startBlock, count, fillBlock, Ending.answers, Ending.fails, Ending.later, ran]

end Blocks

/-- A failure is at the start of a block. -/
def Setting.FailsAtBlockStart (setting : Setting Row State) (rows : List Row)
    (ending : Ending Row) : Prop :=
  ∀ count, setting.blocks = some count → ending.fails = true → rows.length % count = 0

section Open

variable {translations : BlockTranslations Row State} {translation : Translation Row State}
variable {rows : List Row} {ending : Ending Row} {controller : Controller Row State}

theorem Cursor.StandsAt.eq_mk {cursor : Cursor Row} {position : Nat}
    (stands : cursor.StandsAt rows ending position) :
    cursor = ⟨(rows.drop position).map .row ++ ending.answers, cursor.stays⟩ := by
  cases cursor
  exact congrArg (fun ahead => Cursor.mk ahead _) stands

theorem Cursor.StandsAt.unique {cursor other : Cursor Row} {position : Nat}
    (stands : cursor.StandsAt rows ending position) (also : other.StandsAt rows ending position)
    (same : cursor.stays = other.stays) : other = cursor := by
  rw [stands.eq_mk, also.eq_mk, same]

theorem Cursor.StandsAt.fetchRow_inside {cursor : Cursor Row} {position : Nat}
    (stands : cursor.StandsAt rows ending position) (inside : position < rows.length) :
    ∃ fetched, cursor.fetchRow = (.row rows[position], fetched) ∧
      fetched.nextRow.StandsAt rows ending (position + 1) ∧
      fetched.nextRow.stays = cursor.stays := by
  rw [stands.eq_mk, List.drop_eq_getElem_cons inside, List.map_cons, List.cons_append,
    Cursor.fetchRow_row]
  refine ⟨_, rfl, ?_, ?_⟩
  · rw [Cursor.nextRow_fetched]
    rfl
  · rw [Cursor.nextRow_fetched]

theorem Cursor.StandsAt.fetchRow_end {cursor : Cursor Row}
    (stands : cursor.StandsAt rows ending rows.length) :
    cursor.fetchRow =
      (if ending.fails then .failure else .endOfData, ⟨ending.later, cursor.stays⟩) := by
  rw [stands.eq_mk, List.drop_length, List.map_nil, List.nil_append]
  cases ending <;> rfl

theorem Cursor.StandsAt.at_end {position : Nat} {stays : Bool}
    (behind : rows.length ≤ position) :
    Cursor.StandsAt ⟨[], stays⟩ rows .endOfData position := by
  rw [StandsAt, List.drop_of_length_le behind]
  rfl

/-- Before a failure all blocks are full. -/
theorem block_full {position count : Nat} (aligned : ending.fails = true → rows.length % count = 0)
    (start : position % count = 0) (inside : position < rows.length) :
    count ≤ (rows.drop position).length ∨ ending.fails = false := by
  cases fails : ending.fails with
  | false => exact Or.inr rfl
  | true =>
      left
      rw [List.length_drop]
      apply Nat.le_of_dvd (by omega)
      exact Nat.dvd_sub (Nat.dvd_of_mod_eq_zero (aligned fails)) (Nat.dvd_of_mod_eq_zero start)

/-- While there are rows, `fetchRow` has the rest of their block from the module. -/
theorem Controller.openBlock_row
    (inStep : translations.InStep translation rows ending controller.cursor
      controller.totalRowsFetched)
    (one : controller.cursor.stays = true → translations.rowBlockCount = 1)
    (aligned : ending.fails = true → rows.length % translations.rowBlockCount = 0)
    (inside : controller.totalRowsFetched < rows.length) :
    ∃ opened cursor last,
      controller.openBlock translations = ⟨true, false, opened, cursor, last⟩ ∧
      opened.rowBlockCount = translations.rowBlockCount ∧ opened.error = none ∧
      opened.Single translation.module (translation.contract.Ready
        ((translation.contract.translate
          (blockOf translations.rowBlockCount rows controller.totalRowsFetched)).drop
            (controller.totalRowsFetched % translations.rowBlockCount))) ∧
      cursor.nextRow.StandsAt rows ending (controller.totalRowsFetched -
        controller.totalRowsFetched % translations.rowBlockCount + translations.rowBlockCount) ∧
      cursor.nextRow.stays = controller.cursor.stays := by
  obtain ⟨clear, inStep⟩ := inStep
  rw [openBlock]
  split at inStep
  case isTrue start =>
    obtain ⟨given, stands⟩ := inStep
    have enough := block_full aligned start inside
    have first := List.drop_eq_getElem_cons inside
    rw [if_pos start, stands.eq_mk, blockOf.at_start start, start, Nat.sub_zero, List.drop_zero]
    rw [first] at enough ⊢
    obtain ⟨started, cursor, last, starts, same, clear, ready, behind⟩ :=
      startBlock_rows controller.fields given one enough
    refine ⟨started, cursor, last, starts, same, clear, ready, ?_, by rw [behind]⟩
    rw [behind, Cursor.StandsAt, ← first, List.drop_drop]
  case isFalse inBlock =>
    rw [if_neg inBlock]
    obtain ⟨ready, stands⟩ := inStep
    have moves : controller.cursor.stays = false := by
      by_contra stays
      rw [one (by simpa using stays), Nat.mod_one] at inBlock
      exact inBlock rfl
    have same : controller.cursor.nextRow = controller.cursor := by
      simp [Cursor.nextRow, moves]
    exact ⟨translations, controller.cursor, controller.fields, rfl, rfl, clear, ready,
      by rwa [same], by rw [same]⟩

/-- At the end of the data the module has no row, and `*error` is what the driver made
of it. -/
theorem Controller.openBlock_end
    (inStep : translations.InStep translation rows ending controller.cursor
      controller.totalRowsFetched)
    (aligned : ending.fails = true → rows.length % translations.rowBlockCount = 0)
    (atEnd : controller.totalRowsFetched = rows.length) :
    ∃ opened,
      controller.openBlock translations = ⟨true, ending.fails, opened,
        ⟨ending.later, controller.cursor.stays⟩, controller.fields⟩ ∧
      opened.rowBlockCount = translations.rowBlockCount ∧ opened.error = none ∧
      opened.Single translation.module (translation.contract.Ready []) := by
  obtain ⟨clear, inStep⟩ := inStep
  rw [openBlock]
  split at inStep
  case isTrue start =>
    obtain ⟨given, stands⟩ := inStep
    rw [if_pos start, stands.eq_mk, atEnd, List.drop_length, List.map_nil, List.nil_append]
    exact startBlock_end controller.fields given
  case isFalse inBlock =>
    rw [if_neg inBlock]
    obtain ⟨ready, stands⟩ := inStep
    cases ending with
    | failure later => exact absurd (atEnd ▸ aligned rfl) inBlock
    | endOfData =>
        have small := Nat.mod_lt controller.totalRowsFetched translations.positive
        have inside := Nat.mod_le controller.totalRowsFetched translations.rowBlockCount
        rw [List.drop_of_length_le] at ready
        · refine ⟨translations, ?_, rfl, clear, ready⟩
          rw [stands.eq_mk, List.drop_of_length_le (by omega)]
          rfl
        · rw [translation.contract.length_translate, blockOf.length]
          omega

/-- A row was taken from the module, and the driver stands behind the block. -/
theorem BlockTranslations.InStep.next {taken : BlockTranslations Row State} {cursor : Cursor Row}
    {position : Nat} (same : taken.rowBlockCount = translations.rowBlockCount)
    (clear : taken.error = none)
    (ready : taken.Single translation.module (translation.contract.Ready
      ((translation.contract.translate
        (blockOf translations.rowBlockCount rows position)).drop
          (position % translations.rowBlockCount)).tail))
    (stands : cursor.StandsAt rows ending
      (position - position % translations.rowBlockCount + translations.rowBlockCount)) :
    taken.InStep translation rows ending cursor (position + 1) := by
  have next := succ_mod translations.positive position
  have inside := Nat.mod_le position translations.rowBlockCount
  rw [List.tail_drop] at ready
  refine ⟨clear, ?_⟩
  rw [same]
  split at next
  case isTrue full =>
    rw [if_pos next]
    have used : (translation.contract.translate
        (blockOf translations.rowBlockCount rows position)).drop
          (position % translations.rowBlockCount + 1) = [] := by
      apply List.drop_of_length_le
      rw [translation.contract.length_translate, blockOf.length, full]
      exact Nat.min_le_left _ _
    rw [used] at ready
    refine ⟨ready.mono fun state => (translation.contract.empty state).mpr, ?_⟩
    rwa [show position + 1 =
      position - position % translations.rowBlockCount + translations.rowBlockCount by omega]
  case isFalse =>
    have inBlock : (position + 1) % translations.rowBlockCount ≠ 0 := by omega
    rw [if_neg inBlock, blockOf.succ translations.positive inBlock, next, Nat.add_sub_add_right]
    exact ⟨ready, stands⟩

/-- Behind the last row the module is empty. -/
theorem BlockTranslations.InStep.at_end (stays : Bool) (clear : translations.error = none)
    (ready : translations.Single translation.module (translation.contract.Ready [])) :
    translations.InStep translation rows .endOfData ⟨[], stays⟩ rows.length := by
  have small := Nat.mod_lt rows.length translations.positive
  have inside := Nat.mod_le rows.length translations.rowBlockCount
  refine ⟨clear, ?_⟩
  split
  case isTrue =>
    exact ⟨ready.mono fun state => (translation.contract.empty state).mpr,
      Cursor.StandsAt.at_end le_rfl⟩
  case isFalse =>
    rw [List.drop_of_length_le]
    · exact ⟨ready, Cursor.StandsAt.at_end (by omega)⟩
    · rw [translation.contract.length_translate, blockOf.length]
      omega

variable {setting : Setting Row State}

/-- `fetchRow` comes to this row, and is in step behind it. -/
def Controller.ComesTo (setting : Setting Row State) (rows : List Row) (ending : Ending Row)
    (controller : Controller Row State) (row : Row) : Prop :=
  ∃ reached : Controller Row State,
    controller.fetchRow = { reached with fields := row }.finishRow false ∧
    reached.reformatRow = setting.reformatRow ∧
    reached.totalRowsFetched = controller.totalRowsFetched ∧
    ∀ fields, Controller.InStep setting rows ending (Controller.nextRow { reached with
      fields := fields, totalRowsFetched := controller.totalRowsFetched + 1 })

theorem Controller.InStep.comesTo_direct (inStep : controller.InStep setting rows ending)
    (direct : controller.translations = none)
    (inside : controller.totalRowsFetched < rows.length) :
    controller.ComesTo setting rows ending rows[controller.totalRowsFetched] := by
  obtain ⟨fetched, fetches, behind, stays⟩ := (inStep.direct direct).fetchRow_inside inside
  refine ⟨{ controller with cursor := fetched }, ?_, inStep.reformatRow, rfl, ?_⟩
  · rw [fetchRow, direct]
    simp only [fetches]
  · intro fields
    exact
      { reformatRow := inStep.reformatRow
        stays := by rw [← inStep.stays, ← stays]; rfl
        inside := inside
        blocks := inStep.blocks
        direct := fun _ => behind
        inBlocks := by
          intro translations given
          simp [nextRow, direct] at given }

theorem Controller.InStep.comesTo_inBlocks {row : Row}
    (inStep : controller.InStep setting rows ending)
    (given : controller.translations = some translations)
    (only : setting.chain = [translation])
    (one : setting.stays = true → translations.rowBlockCount = 1)
    (aligned : ending.fails = true → rows.length % translations.rowBlockCount = 0)
    (inside : controller.totalRowsFetched < rows.length)
    (row_eq : blockwise translations.rowBlockCount translation.contract.translate rows
      controller.totalRowsFetched = some row) :
    controller.ComesTo setting rows ending row := by
  obtain ⟨opened, cursor, last, opens, same, clear, ready, behind, stays⟩ :=
    Controller.openBlock_row (inStep.inBlocks _ given _ only) (by rwa [inStep.stays]) aligned
      inside
  obtain ⟨answer, clear', rest⟩ :=
    BlockTranslations.getRow_single translation.contract last ready
  rw [List.head?_drop] at answer
  refine ⟨{ controller with
    translations := some (opened.getRow last).2, cursor := cursor, fields := last },
    ?_, inStep.reformatRow, rfl, ?_⟩
  · rw [fetchRow, given]
    simp only [opens, if_true, takeRow]
    rw [answer.trans row_eq]
  · intro fields
    have count_eq := inStep.blocks
    rw [given] at count_eq
    exact
      { reformatRow := inStep.reformatRow
        stays := by rw [← inStep.stays, ← stays]; rfl
        inside := inside
        blocks := by simpa [nextRow, same] using count_eq
        direct := by
          intro none
          simp [nextRow] at none
        inBlocks := by
          intro taken taken_eq translation' single
          obtain rfl : (opened.getRow last).2 = taken := by simpa [nextRow] using taken_eq
          obtain rfl : translation = translation' := by simpa [only] using single
          exact BlockTranslations.InStep.next (by simpa using same) (clear'.trans clear)
            rest behind }

/-- While there are rows, `fetchRow` comes to the translated row at its position. -/
theorem Controller.InStep.comesTo (inStep : controller.InStep setting rows ending)
    (sound : setting.Sound) (aligned : setting.FailsAtBlockStart rows ending)
    (inside : controller.totalRowsFetched < rows.length) :
    ∃ row, setting.translated rows controller.totalRowsFetched = some row ∧
      controller.ComesTo setting rows ending row := by
  cases given : controller.translations with
  | none =>
      refine ⟨rows[controller.totalRowsFetched], ?_, inStep.comesTo_direct given inside⟩
      rw [Setting.translated, ← inStep.blocks, given]
      exact List.getElem?_eq_getElem inside
  | some translations =>
      have count_eq : setting.blocks = some translations.rowBlockCount := by
        rw [← inStep.blocks, given]
        rfl
      obtain ⟨positive, ⟨translation, only⟩, one⟩ := sound _ count_eq
      obtain ⟨row, row_eq⟩ := Option.isSome_iff_exists.mp
        ((Setting.translated_isSome sound rows _).mpr inside)
      refine ⟨row, row_eq, inStep.comesTo_inBlocks given only one (aligned _ count_eq) inside ?_⟩
      rwa [Setting.translated, count_eq, only] at row_eq

/-- A row that the row translations accept is delivered. -/
theorem Controller.InStep.fetchRow_inside (inStep : controller.InStep setting rows ending)
    (sound : setting.Sound) (aligned : setting.FailsAtBlockStart rows ending)
    (inside : controller.totalRowsFetched < rows.length)
    (accepted : (setting.delivered rows controller.totalRowsFetched).isSome) :
    ∃ reached, controller.fetchRow = ⟨true, false, reached⟩ ∧
      setting.delivered rows controller.totalRowsFetched = some reached.fields ∧
      reached.totalRowsFetched = controller.totalRowsFetched + 1 ∧
      reached.nextRow.InStep setting rows ending := by
  obtain ⟨row, row_eq, reached, fetches, same, total, behind⟩ :=
    inStep.comesTo sound aligned inside
  obtain ⟨fields, delivered⟩ := Option.isSome_iff_exists.mp accepted
  have reformatted : reached.reformatRow row = some fields := by
    rwa [Setting.delivered, row_eq, Option.bind_some, ← same] at delivered
  have finishes := @Controller.finishRow_accepted _ _ { reached with fields := row } false fields
    reformatted
  refine ⟨_, fetches.trans finishes, delivered, by simp only [total], ?_⟩
  simp only [total]
  exact behind fields

/-- At the end of the data `fetchRow` has no row, and `*error` tells whether it failed;
at an end without failure it stays. -/
theorem Controller.InStep.fetchRow_end (inStep : controller.InStep setting rows ending)
    (sound : setting.Sound) (aligned : setting.FailsAtBlockStart rows ending)
    (atEnd : controller.totalRowsFetched = rows.length) :
    ∃ reached, controller.fetchRow = ⟨false, ending.fails, reached⟩ ∧
      reached.totalRowsFetched = rows.length ∧
      (ending = .endOfData → reached.InStep setting rows ending) := by
  cases given : controller.translations with
  | none =>
      have fetches := (atEnd ▸ inStep.direct given).fetchRow_end
      refine ⟨{ controller with cursor := ⟨ending.later, controller.cursor.stays⟩ }, ?_, atEnd, ?_⟩
      · rw [fetchRow, given]
        cases ending <;> simp only [fetches] <;> rfl
      · rintro rfl
        exact
          { reformatRow := inStep.reformatRow
            stays := inStep.stays
            inside := atEnd.le
            blocks := inStep.blocks
            direct := fun _ => Cursor.StandsAt.at_end atEnd.ge
            inBlocks := by
              intro translations some
              simp [given] at some }
  | some translations =>
      have count_eq : setting.blocks = some translations.rowBlockCount := by
        rw [← inStep.blocks, given]
        rfl
      obtain ⟨positive, ⟨translation, only⟩, one⟩ := sound _ count_eq
      obtain ⟨opened, opens, same, clear, ready⟩ :=
        Controller.openBlock_end (inStep.inBlocks _ given _ only) (aligned _ count_eq) atEnd
      obtain ⟨answer, clear', rest⟩ :=
        BlockTranslations.getRow_single translation.contract controller.fields ready
      refine ⟨{ controller with
        translations := some (opened.getRow controller.fields).2
        cursor := ⟨ending.later, controller.cursor.stays⟩ }, ?_, atEnd, ?_⟩
      · rw [fetchRow, given]
        simp only [opens, if_true, takeRow]
        rw [answer, List.head?_nil]
        simp [clear', clear]
      · rintro rfl
        exact
          { reformatRow := inStep.reformatRow
            stays := inStep.stays
            inside := atEnd.le
            blocks := by simp [same, count_eq]
            direct := by
              intro none
              simp at none
            inBlocks := by
              intro taken taken_eq translation' single
              obtain rfl : (opened.getRow controller.fields).2 = taken := by simpa using taken_eq
              obtain rfl : translation = translation' := by simpa [only] using single
              simp only [atEnd]
              exact BlockTranslations.InStep.at_end _ (clear'.trans clear) rest }

/-- A number of rows can be skipped: none, all that are left, or whole blocks from the
start of one. -/
def Setting.CanSkip (setting : Setting Row State) (rows : List Row) (position count : Nat) : Prop :=
  ∀ size, setting.blocks = some size → count = 0 ∨ position = rows.length ∨
    position % size = 0 ∧ (count % size = 0 ∨ rows.length ≤ position + count)

/-- `skipRows` passes by the row block translations. -/
theorem Controller.skipRows_eq (error : Bool) (count : Nat) {left : List Row} {stays : Bool}
    (stands : controller.cursor = ⟨left.map .row ++ ending.answers, stays⟩)
    (within : count ≤ left.length ∨ ending = .endOfData) :
    controller.skipRows error count = ⟨decide (count ≤ left.length), error, { controller with
      cursor := ⟨(left.drop count).map .row ++ ending.answers, stays⟩
      totalRowsFetched := controller.totalRowsFetched + min count left.length }⟩ := by
  induction count generalizing controller left with
  | zero => simp [skipRows, ← stands]
  | succ count ih =>
      cases left with
      | nil =>
          obtain rfl : ending = .endOfData := by simpa using within
          simp [skipRows, stands, Ending.answers]
      | cons row left =>
          rw [skipRows, stands, List.map_cons, List.cons_append, Cursor.skipRow_row]
          simp only
          rw [@ih { controller with
              cursor := ⟨left.map .row ++ ending.answers, stays⟩
              totalRowsFetched := controller.totalRowsFetched + 1 } left rfl
            (within.imp_left Nat.le_of_succ_le_succ)]
          simp [Nat.add_assoc, Nat.add_comm 1, ← Nat.add_min_add_right]

/-- Where more rows are to be skipped than there are, all are counted. -/
theorem Controller.skipRows_beyond (error : Bool) (count : Nat) {left : List Row} {stays : Bool}
    (stands : controller.cursor = ⟨left.map .row ++ ending.answers, stays⟩)
    (beyond : left.length < count) :
    (controller.skipRows error count).ok = false ∧
      (controller.skipRows error count).controller.totalRowsFetched =
        controller.totalRowsFetched + left.length := by
  induction left generalizing controller count with
  | nil =>
      obtain ⟨count, rfl⟩ := Nat.exists_eq_succ_of_ne_zero (Nat.ne_of_gt beyond)
      cases ending <;> simp [skipRows, stands, Ending.answers]
  | cons row left ih =>
      obtain ⟨count, rfl⟩ := Nat.exists_eq_succ_of_ne_zero (Nat.ne_zero_of_lt beyond)
      rw [skipRows, stands, List.map_cons, List.cons_append, Cursor.skipRow_row]
      simp only
      have rest := @ih { controller with
          cursor := ⟨left.map .row ++ ending.answers, stays⟩
          totalRowsFetched := controller.totalRowsFetched + 1 } count rfl
        (Nat.lt_of_succ_lt_succ beyond)
      refine ⟨rest.1, rest.2.trans ?_⟩
      rw [List.length_cons, Nat.add_assoc, Nat.add_comm 1]

/-- Outside of a block the driver stands at the position of the controller. -/
theorem Controller.InStep.standsAt (inStep : controller.InStep setting rows ending)
    (sound : setting.Sound)
    (outside : ∀ size, setting.blocks = some size →
      controller.totalRowsFetched = rows.length ∨ controller.totalRowsFetched % size = 0) :
    controller.cursor.StandsAt rows ending controller.totalRowsFetched := by
  cases given : controller.translations with
  | none => exact inStep.direct given
  | some translations =>
      have count_eq : setting.blocks = some translations.rowBlockCount := by
        rw [← inStep.blocks, given]
        rfl
      obtain ⟨positive, ⟨translation, only⟩, one⟩ := sound _ count_eq
      obtain ⟨clear, inBlocks⟩ := inStep.inBlocks _ given _ only
      split at inBlocks
      case isTrue => exact inBlocks.2
      case isFalse inside =>
        have small := Nat.mod_lt controller.totalRowsFetched positive
        have atEnd := (outside _ count_eq).resolve_right inside
        have behind := inBlocks.2
        rw [Cursor.StandsAt, List.drop_of_length_le (by omega)] at behind
        rw [Cursor.StandsAt, List.drop_of_length_le atEnd.ge, behind]

/-- From the start of a block the module stays empty while whole blocks are skipped. -/
theorem BlockTranslations.InStep.skip {cursor skipped : Cursor Row} {position target : Nat}
    (inStep : translations.InStep translation rows ending cursor position)
    (start : position % translations.rowBlockCount = 0)
    (stands : skipped.StandsAt rows ending target)
    (reached : target % translations.rowBlockCount = 0 ∨
      target = rows.length ∧ ending = .endOfData) :
    translations.InStep translation rows ending skipped target := by
  obtain ⟨clear, inStep⟩ := inStep
  rw [if_pos start] at inStep
  by_cases atStart : target % translations.rowBlockCount = 0
  · refine ⟨clear, ?_⟩
    rw [if_pos atStart]
    exact ⟨inStep.1, stands⟩
  · obtain ⟨rfl, rfl⟩ := reached.resolve_left atStart
    have used := stands.eq_mk
    rw [List.drop_length] at used
    rw [used]
    exact BlockTranslations.InStep.at_end _ clear
      (inStep.1.mono fun state => (translation.contract.empty state).mp)

/-- Skipping whole blocks moves on in step. -/
theorem Controller.InStep.skipRows (inStep : controller.InStep setting rows ending)
    (sound : setting.Sound) (aligned : setting.FailsAtBlockStart rows ending) (error : Bool)
    (count : Nat) (canSkip : setting.CanSkip rows controller.totalRowsFetched count)
    (within : controller.totalRowsFetched + count ≤ rows.length ∨ ending = .endOfData) :
    ∃ reached, controller.skipRows error count =
        ⟨decide (controller.totalRowsFetched + count ≤ rows.length), error, reached⟩ ∧
      reached.totalRowsFetched = min (controller.totalRowsFetched + count) rows.length ∧
      reached.InStep setting rows ending := by
  have inside := inStep.inside
  rcases Nat.eq_zero_or_pos count with rfl | some_rows
  · exact ⟨controller, by simp [Controller.skipRows, inside], by simpa using inside, inStep⟩
  have stands := inStep.standsAt sound fun size size_eq =>
    ((canSkip size size_eq).resolve_left some_rows.ne').imp_right And.left
  have left_length : (rows.drop controller.totalRowsFetched).length =
      rows.length - controller.totalRowsFetched := List.length_drop
  have target : controller.totalRowsFetched +
      min count (rows.length - controller.totalRowsFetched) =
        min (controller.totalRowsFetched + count) rows.length := by omega
  have behind : Cursor.StandsAt ⟨((rows.drop controller.totalRowsFetched).drop count).map .row ++
        ending.answers, controller.cursor.stays⟩ rows ending
      (min (controller.totalRowsFetched + count) rows.length) := by
    rw [Cursor.StandsAt, List.drop_drop]
    rcases Nat.le_total (controller.totalRowsFetched + count) rows.length with short | long
    · rw [Nat.min_eq_left short]
    · rw [Nat.min_eq_right long, List.drop_length, List.drop_of_length_le long]
  have skips := Controller.skipRows_eq error count stands.eq_mk
    (within.imp_left fun short => by omega)
  rw [left_length, target] at skips
  refine ⟨{ controller with
    cursor := ⟨((rows.drop controller.totalRowsFetched).drop count).map .row ++ ending.answers,
      controller.cursor.stays⟩
    totalRowsFetched := min (controller.totalRowsFetched + count) rows.length },
    skips.trans ?_, rfl, ?_⟩
  · simp only [Report.mk.injEq, and_self, and_true, decide_eq_decide]
    omega
  · exact
      { reformatRow := inStep.reformatRow
        stays := inStep.stays
        inside := Nat.min_le_right _ _
        blocks := inStep.blocks
        direct := fun _ => behind
        inBlocks := by
          intro translations given translation only
          have inBlocks := inStep.inBlocks _ given _ only
          have count_eq : setting.blocks = some translations.rowBlockCount := by
            rw [← inStep.blocks, given]
            rfl
          rcases (canSkip _ count_eq).resolve_left some_rows.ne' with atEnd | blocks
          · have same : min (controller.totalRowsFetched + count) rows.length =
                controller.totalRowsFetched := by omega
            rw [same] at behind ⊢
            simpa only [stands.unique behind rfl] using inBlocks
          · refine inBlocks.skip blocks.1 behind ?_
            rcases Nat.lt_or_ge (controller.totalRowsFetched + count) rows.length with short | long
            · left
              have whole := blocks.2.resolve_right (by omega)
              rw [Nat.min_eq_left short.le, Nat.add_mod, blocks.1, whole, Nat.zero_mod]
            · rw [Nat.min_eq_right long]
              cases ending with
              | endOfData => exact Or.inr ⟨rfl, rfl⟩
              | failure later => exact Or.inl (aligned _ count_eq rfl) }

end Open

end SqlRelay.Rows
