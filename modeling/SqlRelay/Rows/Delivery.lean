import Mathlib.Data.List.Forall2
import SqlRelay.Foundation.Run
import SqlRelay.Rows.InStep

/-!
# Every row once

Any mix of executing queries, skipping and fetching rows on a cursor.  A fetched row is
the row at the position of the cursor, as the row block translations make it, as long as
one module translates the blocks, a block is read in full from the driver, and skipping
and executing leave no rows with the module.
-/

namespace SqlRelay.Rows

open SqlRelay.Foundation

universe u v

variable {Row : Type u} {State : Type v}

/-- The calls of the controller. -/
inductive Call (Row : Type u) where
  | execute (rows : List Row)
  | skipRows (rows : Nat)
  | fetchRow

/-- The controller with the rows that the current query returned. -/
structure Reader (Row : Type u) (State : Type v) where
  controller : Controller Row State
  rows : List Row

/-- A query is executed: the driver has new rows and none has been fetched. -/
def Controller.execute (controller : Controller Row State) (rows : List Row)
    (ending : Ending Row) : Controller Row State :=
  { controller with
    cursor := { controller.cursor with ahead := rows.map .row ++ ending.answers }
    totalRowsFetched := 0 }

namespace Reader

def execute (controller : Controller Row State) (rows : List Row) : Reader Row State :=
  ⟨controller.execute rows .endOfData, rows⟩

/-- A call; `nextRow` follows a row that was fetched. -/
def step (reader : Reader Row State) : Call Row → Reader Row State
  | .execute rows => execute reader.controller rows
  | .skipRows rows => { reader with controller := (reader.controller.skipRows false rows).controller }
  | .fetchRow =>
      let report := reader.controller.fetchRow
      { reader with
        controller := if report.ok then report.controller.nextRow else report.controller }

/-- What a call is for. -/
def Delivers (setting : Setting Row State) (reader : Reader Row State) : Call Row → Prop
  | .execute _ => True
  | .skipRows rows =>
      let report := reader.controller.skipRows false rows
      let position := reader.controller.totalRowsFetched
      (report.ok = true ↔ position + rows ≤ reader.rows.length) ∧
        report.controller.totalRowsFetched = min (position + rows) reader.rows.length
  | .fetchRow =>
      let report := reader.controller.fetchRow
      let position := reader.controller.totalRowsFetched
      match setting.translated reader.rows position with
      | some row => report.ok = true ∧ report.error = false ∧
          some report.controller.fields = setting.reformatRow row ∧
          report.controller.totalRowsFetched = position + 1
      | none => report.ok = false ∧ report.error = false ∧
          report.controller.totalRowsFetched = position

/-- A call that leaves no row behind: no row of a block is left with the module when a
query is executed or rows are skipped, whole blocks are skipped, and the row
translations accept the row that is fetched. -/
def InOrder (setting : Setting Row State) (reader : Reader Row State) : Call Row → Prop
  | .execute _ => ∀ size, setting.blocks = some size →
      reader.controller.totalRowsFetched = reader.rows.length ∨
        reader.controller.totalRowsFetched % size = 0
  | .skipRows rows => setting.CanSkip reader.rows reader.controller.totalRowsFetched rows
  | .fetchRow => ∀ row,
      setting.translated reader.rows reader.controller.totalRowsFetched = some row →
        (setting.reformatRow row).isSome

end Reader

/-- The controller as it is set up, before a module was given a row. -/
structure Controller.Fresh (setting : Setting Row State) (controller : Controller Row State) :
    Prop where
  reformatRow : controller.reformatRow = setting.reformatRow
  stays : controller.cursor.stays = setting.stays
  blocks : controller.translations.map BlockTranslations.rowBlockCount = setting.blocks
  modules : ∀ translations, controller.translations = some translations →
    translations.error = none ∧
    List.Forall₂ (fun entry translation =>
      entry.1 = translation.module ∧ translation.contract.Given [] entry.2)
      translations.modules setting.chain

section Run

variable {setting : Setting Row State} {reader : Reader Row State}

/-- Behind the last row and between blocks the module is empty. -/
theorem BlockTranslations.InStep.module_empty {translations : BlockTranslations Row State}
    {translation : Translation Row State} {rows : List Row} {ending : Ending Row}
    {cursor : Cursor Row} {position : Nat}
    (inStep : translations.InStep translation rows ending cursor position)
    (outside : position = rows.length ∨ position % translations.rowBlockCount = 0) :
    translations.Single translation.module (translation.contract.Given []) := by
  obtain ⟨clear, inStep⟩ := inStep
  split at inStep
  case isTrue => exact inStep.1
  case isFalse inside =>
    have inBlock := Nat.mod_le position translations.rowBlockCount
    rw [List.drop_of_length_le] at inStep
    · exact inStep.1.mono fun state => (translation.contract.empty state).mpr
    · rw [translation.contract.length_translate, blockOf.length,
        ← outside.resolve_right inside]
      omega

/-- A new result set is in step once the module is empty. -/
theorem Controller.execute_inStep {controller : Controller Row State} (rows : List Row)
    (ending : Ending Row) (reformatRow : controller.reformatRow = setting.reformatRow)
    (stays : controller.cursor.stays = setting.stays)
    (blocks : controller.translations.map BlockTranslations.rowBlockCount = setting.blocks)
    (empty : ∀ translations, controller.translations = some translations →
      translations.error = none ∧ ∀ translation, setting.chain = [translation] →
        translations.Single translation.module (translation.contract.Given [])) :
    (controller.execute rows ending).InStep setting rows ending :=
  { reformatRow := reformatRow
    stays := stays
    inside := Nat.zero_le _
    blocks := blocks
    direct := fun _ => rfl
    inBlocks := by
      intro translations given translation only
      obtain ⟨clear, empty⟩ := empty translations given
      exact BlockTranslations.InStep.start clear (empty translation only) rfl }

theorem Controller.Fresh.execute_inStep {controller : Controller Row State}
    (fresh : controller.Fresh setting) (rows : List Row) (ending : Ending Row) :
    (controller.execute rows ending).InStep setting rows ending := by
  apply Controller.execute_inStep rows ending fresh.reformatRow fresh.stays fresh.blocks
  intro translations given
  obtain ⟨clear, modules⟩ := fresh.modules translations given
  refine ⟨clear, ?_⟩
  intro translation only
  rw [only] at modules
  cases entries : translations.modules with
  | nil => simp [entries] at modules
  | cons entry later =>
      rw [entries, List.forall₂_cons, List.forall₂_nil_right_iff] at modules
      obtain ⟨⟨same, given⟩, rfl⟩ := modules
      exact ⟨entry.2, by rw [entries, ← same], given⟩

namespace Reader

/-- The invariant of a run. -/
def Current (setting : Setting Row State) (reader : Reader Row State) : Prop :=
  reader.controller.InStep setting reader.rows .endOfData

theorem aligned_endOfData (rows : List Row) : setting.FailsAtBlockStart rows .endOfData := by
  intro size _ fails
  simp [Ending.fails] at fails

theorem current_execute (sound : setting.Sound) (current : reader.Current setting)
    (rows : List Row) (inOrder : reader.InOrder setting (.execute rows)) :
    (reader.step (.execute rows)).Current setting := by
  apply Controller.execute_inStep rows .endOfData current.reformatRow current.stays current.blocks
  intro translations given
  have size : setting.blocks = some translations.rowBlockCount := by
    rw [← current.blocks, given]
    rfl
  obtain ⟨positive, ⟨translation, only⟩, one⟩ := sound _ size
  have inBlocks := current.inBlocks _ given
  refine ⟨(inBlocks translation only).1, ?_⟩
  intro translation only
  exact (inBlocks translation only).module_empty (inOrder _ size)

theorem delivers_skipRows (sound : setting.Sound) (current : reader.Current setting)
    (rows : Nat) (inOrder : reader.InOrder setting (.skipRows rows)) :
    reader.Delivers setting (.skipRows rows) ∧
      (reader.step (.skipRows rows)).Current setting := by
  obtain ⟨reached, skips, total, inStep⟩ := Controller.InStep.skipRows current sound
    (aligned_endOfData reader.rows) false rows inOrder (Or.inr rfl)
  simp only [Delivers, Current, step, skips]
  exact ⟨⟨by simp, total⟩, inStep⟩

theorem delivers_fetchRow (sound : setting.Sound) (current : reader.Current setting)
    (inOrder : reader.InOrder setting .fetchRow) :
    reader.Delivers setting .fetchRow ∧ (reader.step .fetchRow).Current setting := by
  rcases Nat.lt_or_ge reader.controller.totalRowsFetched reader.rows.length with inside | behind
  · obtain ⟨row, row_eq⟩ := Option.isSome_iff_exists.mp
      ((Setting.translated_isSome sound reader.rows _).mpr inside)
    have accepted := inOrder row row_eq
    have handed_out : setting.delivered reader.rows reader.controller.totalRowsFetched =
        setting.reformatRow row := by
      rw [Setting.delivered, row_eq, Option.bind_some]
    rw [← handed_out] at accepted
    obtain ⟨reached, fetches, fields, total, inStep⟩ :=
      Controller.InStep.fetchRow_inside current sound (aligned_endOfData reader.rows) inside accepted
    simp only [Delivers, Current, step, fetches, row_eq]
    exact ⟨⟨trivial, trivial, by rw [← fields, handed_out], total⟩, inStep⟩
  · have atEnd := Nat.le_antisymm current.inside behind
    have none_left : setting.translated reader.rows reader.controller.totalRowsFetched = none := by
      rw [← Option.not_isSome_iff_eq_none, Setting.translated_isSome sound]
      omega
    obtain ⟨reached, fetches, total, inStep⟩ := Controller.InStep.fetchRow_end current sound
      (aligned_endOfData reader.rows) atEnd
    simp only [Delivers, Current, step, fetches, none_left]
    exact ⟨⟨trivial, rfl, total.trans atEnd.symm⟩, inStep rfl⟩

/-- Each call that is in order does what it is for. -/
theorem delivers_step (sound : setting.Sound) (current : reader.Current setting)
    (call : Call Row) (inOrder : reader.InOrder setting call) :
    reader.Delivers setting call ∧ (reader.step call).Current setting := by
  cases call with
  | execute rows => exact ⟨trivial, current_execute sound current rows inOrder⟩
  | skipRows rows => exact delivers_skipRows sound current rows inOrder
  | fetchRow => exact delivers_fetchRow sound current inOrder

/-- In a run whose calls are in order, each row comes once, at its position. -/
theorem delivers_along (setting : Setting Row State) (controller : Controller Row State)
    (rows : List Row) (calls : List (Call Row)) (sound : setting.Sound)
    (fresh : controller.Fresh setting)
    (inOrder : Along step (InOrder setting) (execute controller rows) calls) :
    Along step (Delivers setting) (execute controller rows) calls := by
  have keeps : ∀ reader call, Current setting reader → InOrder setting reader call →
      Current setting (step reader call) :=
    fun reader call current inOrder => (delivers_step sound current call inOrder).2
  have shows : ∀ reader call, Current setting reader → InOrder setting reader call →
      Delivers setting reader call :=
    fun reader call current inOrder => (delivers_step sound current call inOrder).1
  exact Along.of_guard keeps shows (fresh.execute_inStep rows .endOfData) inOrder

end Reader

end Run

/-- A module that keeps a block as a list and changes it as a whole. -/
def listModule (change : List Nat → List Nat) : BlockModule Nat (List Nat) where
  setRow row kept := (true, kept ++ [row])
  run kept := (true, change kept)
  getRow kept := (kept.head?, kept.tail)
  getError _ := none

def listTranslation (change : List Nat → List Nat)
    (keeps : ∀ rows, (change rows).length = rows.length) : Translation Nat (List Nat) where
  module := listModule change
  contract :=
    { translate := change
      Given := fun rows kept => kept = rows
      Ready := fun rows kept => kept = rows
      length_translate := keeps
      setRow := by
        intro row rows kept given
        rw [given]
        exact ⟨rfl, rfl⟩
      run := by
        intro rows kept given
        rw [given]
        exact ⟨rfl, rfl⟩
      getRow := by
        intro rows kept ready
        rw [ready]
        exact ⟨rfl, rfl⟩
      empty := fun _ => Iff.rfl }

/-- Each block is turned around. -/
def turned : Translation Nat (List Nat) :=
  listTranslation List.reverse fun _ => List.length_reverse

/-- Each row of a block is made one larger. -/
def raised : Translation Nat (List Nat) :=
  listTranslation (List.map Nat.succ) fun _ => List.length_map _

/-- Blocks of two rows. -/
def pairs (chain : List (Translation Nat (List Nat))) : Setting Nat (List Nat) :=
  ⟨some 2, chain, some, false⟩

def pairing (chain : List (Translation Nat (List Nat))) : Controller Nat (List Nat) where
  translations := some
    { rowBlockCount := 2
      positive := Nat.two_pos
      counted := by decide
      modules := chain.map fun translation => (translation.module, [])
      rowcount := 0
      error := none }
  reformatRow := some
  cursor := ⟨[], false⟩
  totalRowsFetched := 0
  fields := 0

theorem pairing_turned_fresh : (pairing [turned]).Fresh (pairs [turned]) where
  reformatRow := rfl
  stays := rfl
  blocks := rfl
  modules := by
    intro translations given
    obtain rfl := Option.some.inj given
    exact ⟨rfl, List.Forall₂.cons ⟨rfl, rfl⟩ List.Forall₂.nil⟩

theorem pairing_both_fresh : (pairing [turned, raised]).Fresh (pairs [turned, raised]) where
  reformatRow := rfl
  stays := rfl
  blocks := rfl
  modules := by
    intro translations given
    obtain rfl := Option.some.inj given
    exact ⟨rfl, List.Forall₂.cons ⟨rfl, rfl⟩ (List.Forall₂.cons ⟨rfl, rfl⟩ List.Forall₂.nil)⟩

theorem pairs_turned_sound : (pairs [turned]).Sound := by
  intro size given
  obtain rfl := Option.some.inj given
  exact ⟨Nat.two_pos, ⟨turned, rfl⟩, by simp [pairs]⟩

namespace Reader

/-- Five rows, of which a block of two is skipped; the last block is of one row. -/
theorem delivers_along_turned :
    Along step (Delivers (pairs [turned])) (execute (pairing [turned]) [1, 2, 3, 4, 5])
      [.skipRows 2, .fetchRow, .fetchRow, .fetchRow, .fetchRow] := by
  apply delivers_along (pairs [turned]) (pairing [turned]) [1, 2, 3, 4, 5] _ pairs_turned_sound
    pairing_turned_fresh
  have accepted : ∀ reader, InOrder (pairs [turned]) reader .fetchRow := fun _ _ _ => rfl
  refine ⟨?_, accepted _, accepted _, accepted _, accepted _, trivial⟩
  intro size given
  obtain rfl := Option.some.inj given
  exact Or.inr (Or.inr ⟨rfl, Or.inl rfl⟩)

/-- With two modules the rows stay with the first one, and the last one has none. -/
theorem not_delivers_along :
    (pairing [turned, raised]).Fresh (pairs [turned, raised]) ∧
      ¬ Along step (Delivers (pairs [turned, raised]))
        (execute (pairing [turned, raised]) [1, 2]) [.fetchRow] := by
  constructor
  · exact pairing_both_fresh
  · intro delivered
    have fetched : (execute (pairing [turned, raised]) [1, 2]).controller.fetchRow.ok = true :=
      delivered.1.1
    revert fetched
    decide

end Reader

end SqlRelay.Rows
