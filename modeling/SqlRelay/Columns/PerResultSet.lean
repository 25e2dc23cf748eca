import SqlRelay.Foundation.Run
import SqlRelay.Columns.Mapping

/-!
# Whose column map a cursor is read through

Beside the controller stands what each cursor's result set is when only the calls on that cursor
count: its columns, the mapping chosen when it was opened and its current row.  A cursor is read
as its own result set as long as the map of the controller is the one that this cursor has chosen
when its header is set up and when it is read.
-/

namespace SqlRelay.Columns

open SqlRelay.Foundation

variable {Field : Type}

/-- The result set of one cursor, as the calls on that cursor alone make it. -/
structure ResultSet (Field : Type) where
  /-- The mapping chosen when it was opened. -/
  mapping : Option Mapping := none
  executed : Bool := false
  /-- The columns, once they are known. -/
  columns : Option (List String) := none
  /-- The current row. -/
  row : List Field := []

/-- The columns that are known after the prepare. -/
def Prepared.columns : Prepared → Option (List String)
  | .failed | .ready => none
  | .described columns => some columns

namespace ResultSet

/-- A prepared query. -/
def prepared (prepared : Prepared) : ResultSet Field where
  columns := prepared.columns

/-- An execution opens a new result set, unless it is the first one of a query whose columns were
known after the prepare. -/
def execute (executed : Executed) (resultSet : ResultSet Field) : ResultSet Field :=
  let columns := if resultSet.executed then none else resultSet.columns
  match executed with
  | .notRun => { resultSet with columns := columns, row := [] }
  | .failed => { resultSet with columns := columns, row := [], executed := true }
  | .ran described =>
      { resultSet with
        columns := some (columns.getD described)
        row := []
        executed := true }

/-- What a call on its cursor makes of the result set. -/
def call (resultSet : ResultSet Field) : Call Field → ResultSet Field
  | .prepareQuery attempt => prepared attempt
  | .executeQuery executed => resultSet.execute executed
  | .list .rejected _ | .list (.byApiCall none) _ => resultSet
  | .list (.byQuery attempt executed) format =>
      let ready := prepared attempt
      { (if attempt = .failed then ready else ready.execute executed) with mapping := format }
  | .list (.byApiCall (some columns)) format =>
      { resultSet with mapping := format, columns := some columns, row := [] }
  | .lastInsertIdList columns => { columns := columns }
  | .nextResultSet none => resultSet
  | .nextResultSet (some columns) => { resultSet with columns := some columns, row := [] }
  | .fetchFromBindCursor columns => { resultSet with columns := columns, row := [] }
  | .fetchRow none => { resultSet with row := [] }
  | .fetchRow (some row) =>
      { resultSet with row := row.take (resultSet.columns.getD []).length }
  | .colCount | .getColumnName _ | .getField _ => resultSet

/-- What is to be read: the count, the names and the fields under the mapping of the result set.
A column that the result set does not have has no answer. -/
def answer (resultSet : ResultSet Field) : Call Field → Option (Answer Field)
  | .colCount =>
      some (.count (resultSet.columns.elim 0
        fun columns => mapColumnCount resultSet.mapping columns.length))
  | .getColumnName col =>
      match resultSet.columns, resultSet.mapping with
      | none, _ => some (.name none)
      | some _, some mapping => some (.name (mapping.columnNameMap.lookup col))
      | some columns, none => columns[col]?.map fun name => .name (some name)
  | .getField col =>
      resultSet.row[mapColumn resultSet.mapping col]?.map fun field => .field (some field)
  | _ => some .done

end ResultSet

/-- The controller beside the result sets of its cursors. -/
structure System (Field : Type) where
  controller : Controller Field
  resultSets : Nat → ResultSet Field

namespace System

/-- A new session; the column map may be left from the session before. -/
def start (columnMap : Option Mapping) : System Field where
  controller := { columnMap := columnMap, fetched := none, cursors := fun _ => {} }
  resultSets := fun _ => {}

/-- A call on one cursor. -/
def step (system : System Field) (input : Nat × Call Field) : System Field where
  controller := system.controller.call input.1 input.2
  resultSets :=
    Function.update system.resultSets input.1 ((system.resultSets input.1).call input.2)

/-- What is returned for a cursor is what its own result set has. -/
def AnswersOwn (system : System Field) (input : Nat × Call Field) : Prop :=
  ∀ answer, (system.resultSets input.1).answer input.2 = some answer →
    system.controller.answer input.1 input.2 = answer

/-- The call sets up the header of a result set through the map of the controller. -/
def HandlesHeader (cursor : ServerCursor Field) : Call Field → Prop
  | .executeQuery (.ran _) => cursor.cleanUp.resultSetHeaderHasBeenHandled = false
  | .list (.byApiCall (some _)) _ | .lastInsertIdList (some _) | .nextResultSet (some _)
  | .fetchFromBindCursor (some _) => True
  | _ => False

/-- The header of a result set without a mapping is set up while the controller has no map. -/
def SetsUp (map : Option Mapping) (cursor : ServerCursor Field) (resultSet : ResultSet Field)
    (call : Call Field) : Prop :=
  HandlesHeader cursor call → (resultSet.call call).mapping = none → map = none

/-- The controller's map is the one chosen for the cursor: while it is read, and, for a result set
that has no mapping, while its header is set up.  A field is read after a fetch on this cursor. -/
def Undisturbed (system : System Field) (input : Nat × Call Field) : Prop :=
  let map := system.controller.columnMap
  let resultSet := system.resultSets input.1
  match input.2 with
  | .colCount | .getColumnName _ => resultSet.columns.isSome → map = resultSet.mapping
  | .getField _ =>
      resultSet.row ≠ [] →
        map = resultSet.mapping ∧ system.controller.fetched = some input.1
  | call => SetsUp map (system.controller.cursors input.1) resultSet call

end System

/-- What a cursor keeps of its result set. -/
structure Keeps (cursor : ServerCursor Field) (resultSet : ResultSet Field) : Prop where
  valid : cursor.columnInfoIsValid = resultSet.columns.isSome
  executed : cursor.queryHasBeenExecuted = resultSet.executed
  handled : cursor.resultSetHeaderHasBeenHandled = true → cursor.columnInfoIsValid = true
  columns : ∀ columns, resultSet.columns = some columns → cursor.columns = columns
  names : ∀ columns, resultSet.columns = some columns → resultSet.mapping = none →
    ∀ col, col < columns.length → cursor.columnNames[col]? = some columns[col]?
  fields : ∀ position, position < resultSet.row.length →
    cursor.fields[position]? = resultSet.row[position]?

namespace Keeps

theorem start : Keeps ({} : ServerCursor Field) {} where
  valid := rfl
  executed := rfl
  handled := by simp
  columns := by simp
  names := by simp
  fields := by simp

/-- No result set is open. -/
theorem closed {cursor : ServerCursor Field} {resultSet : ResultSet Field}
    (invalid : cursor.columnInfoIsValid = false)
    (unhandled : cursor.resultSetHeaderHasBeenHandled = false)
    (executed : cursor.queryHasBeenExecuted = resultSet.executed)
    (none_open : resultSet.columns = none) (no_row : resultSet.row = []) :
    Keeps cursor resultSet where
  valid := by simp [invalid, none_open]
  executed := executed
  handled := by simp [unhandled]
  columns := by simp [none_open]
  names := by simp [none_open]
  fields := by simp [no_row]

/-- A header that is set up while the controller has no map is that of the result set. -/
theorem header {map : Option Mapping} {cursor : ServerCursor Field} {resultSet : ResultSet Field}
    (unhandled : cursor.resultSetHeaderHasBeenHandled = false)
    (executed : cursor.queryHasBeenExecuted = resultSet.executed)
    (described : resultSet.columns = some cursor.columns) (no_row : resultSet.row = [])
    (clear : resultSet.mapping = none → map = none) :
    Keeps (cursor.handleResultSetHeader map) resultSet where
  valid := by simp [ServerCursor.handleResultSetHeader, unhandled, described]
  executed := by simp [ServerCursor.handleResultSetHeader, unhandled, executed]
  handled := by simp [ServerCursor.handleResultSetHeader, unhandled]
  columns := by
    intro columns known
    rw [described, Option.some.injEq] at known
    simp [ServerCursor.handleResultSetHeader, unhandled, known]
  names := by
    intro columns known unmapped col inside
    rw [described, Option.some.injEq] at known
    subst known
    have written : col < ((List.range cursor.columns.length).map
        fun col => cursor.columns[col]?).length := by simpa using inside
    simp only [ServerCursor.handleResultSetHeader, unhandled, clear unmapped,
      mapColumnCount_none, mapColumn_none, Bool.false_eq_true, if_false]
    rw [getElem?_overwrite _ written, List.getElem?_map, List.getElem?_range inside]
    rfl
  fields := by simp [no_row]

variable {cursor : ServerCursor Field} {resultSet : ResultSet Field}

theorem prepareQuery (executed : resultSet.executed = false) (no_row : resultSet.row = [])
    (attempt : Prepared) (known : resultSet.columns = attempt.columns) :
    Keeps (cursor.prepareQuery attempt) resultSet := by
  cases attempt with
  | failed => exact closed rfl rfl executed.symm known no_row
  | ready => exact closed rfl rfl executed.symm known no_row
  | described columns =>
      apply header rfl executed.symm known no_row
      intro _
      rfl

/-- The row is gone, whatever is left of it in the buffers. -/
theorem withoutRow (keeps : Keeps cursor resultSet) :
    Keeps cursor { resultSet with row := [] } where
  valid := keeps.valid
  executed := keeps.executed
  handled := keeps.handled
  columns := keeps.columns
  names := keeps.names
  fields := by simp

theorem cleanUp (keeps : Keeps cursor resultSet) :
    Keeps cursor.cleanUp
      { resultSet with
        columns := if resultSet.executed then none else resultSet.columns
        row := [] } := by
  rw [ServerCursor.cleanUp, keeps.executed]
  split
  · exact closed rfl rfl rfl rfl rfl
  · exact keeps.withoutRow

/-- A mapping matters only for the names, and those are not read from the cursor when there is a
mapping. -/
theorem withMapping (keeps : Keeps cursor resultSet) (unmapped : resultSet.mapping = none)
    (format : Option Mapping) : Keeps cursor { resultSet with mapping := format } where
  valid := keeps.valid
  executed := keeps.executed
  handled := keeps.handled
  columns := keeps.columns
  names := by
    intro columns known _
    exact keeps.names columns known unmapped
  fields := keeps.fields

theorem executeQuery (keeps : Keeps cursor resultSet) (map : Option Mapping) (executed : Executed)
    (clear : System.SetsUp map cursor resultSet (.executeQuery executed)) :
    Keeps (cursor.executeQuery map executed) (resultSet.execute executed) := by
  have cleaned := keeps.cleanUp
  cases executed with
  | notRun => exact cleaned
  | failed =>
      exact ⟨cleaned.valid, rfl, cleaned.handled, cleaned.columns, cleaned.names, cleaned.fields⟩
  | ran described =>
      simp only [ServerCursor.executeQuery, ResultSet.execute]
      simp only [System.SetsUp, System.HandlesHeader] at clear
      generalize cursor.cleanUp = ready at cleaned clear
      generalize (if resultSet.executed = true then none else resultSet.columns) = known at cleaned
      cases before : ready.resultSetHeaderHasBeenHandled with
      | false =>
          have described_once : (if ready.columnInfoIsValid then ready.columns else described) =
              known.getD described := by
            cases known with
            | none => simp [cleaned.valid]
            | some columns => simp [cleaned.valid, cleaned.columns columns rfl]
          apply header
          · rfl
          · rfl
          · rw [described_once]
          · rfl
          · exact clear before
      | true =>
          have valid := cleaned.handled before
          have open_already : known.isSome = true := by rw [← cleaned.valid, valid]
          obtain ⟨columns, rfl⟩ := Option.isSome_iff_exists.mp open_already
          simp only [ServerCursor.handleResultSetHeader, valid, if_true, Option.getD_some]
          exact ⟨rfl, rfl, fun _ => rfl, cleaned.columns, cleaned.names, cleaned.fields⟩

/-- The query's translation fails, or the list is not got: what was there stays. -/
theorem faked (keeps : Keeps cursor resultSet) :
    Keeps cursor.fakePrepareAndExecuteForApiCall resultSet where
  valid := keeps.valid
  executed := keeps.executed
  handled := by simp [ServerCursor.fakePrepareAndExecuteForApiCall]
  columns := keeps.columns
  names := keeps.names
  fields := keeps.fields

theorem getList (keeps : Keeps cursor resultSet) (map : Option Mapping) (listed : Listed)
    (format : Option Mapping)
    (clear : System.SetsUp map cursor resultSet (.list listed format)) :
    Keeps (cursor.getList map listed) (resultSet.call (.list listed format)) := by
  cases listed with
  | rejected => exact keeps.faked
  | byQuery attempt executed =>
      have ready : Keeps (cursor.fakePrepareAndExecuteForApiCall.prepareQuery attempt)
          (ResultSet.prepared attempt) := prepareQuery rfl rfl attempt rfl
      simp only [ServerCursor.getList, ResultSet.call]
      split
      · exact ready.withMapping rfl format
      · have ran := ready.executeQuery none executed (fun _ _ => rfl)
        apply ran.withMapping
        cases executed <;> rfl
  | byApiCall columns =>
      cases columns with
      | none => exact keeps.faked
      | some columns => exact header rfl keeps.executed rfl rfl (clear trivial)

theorem getLastInsertIdList (map : Option Mapping) (columns : Option (List String))
    (clear : System.SetsUp map cursor resultSet (.lastInsertIdList columns)) :
    Keeps (ServerCursor.getLastInsertIdList map columns : ServerCursor Field)
      { columns := columns } := by
  cases columns with
  | none => exact start
  | some columns =>
      apply header rfl rfl rfl rfl
      exact clear trivial

theorem nextResultSet (keeps : Keeps cursor resultSet) (map : Option Mapping)
    (columns : Option (List String))
    (clear : System.SetsUp map cursor resultSet (.nextResultSet columns)) :
    Keeps (cursor.nextResultSet map columns) (resultSet.call (.nextResultSet columns)) := by
  cases columns with
  | none => exact keeps
  | some columns => exact header rfl keeps.executed rfl rfl (clear trivial)

theorem fetchFromBindCursor (keeps : Keeps cursor resultSet) (map : Option Mapping)
    (columns : Option (List String))
    (clear : System.SetsUp map cursor resultSet (.fetchFromBindCursor columns)) :
    Keeps (cursor.fetchFromBindCursor map columns)
      (resultSet.call (.fetchFromBindCursor columns)) := by
  cases columns with
  | none => exact closed rfl rfl keeps.executed rfl rfl
  | some columns => exact header rfl keeps.executed rfl rfl (clear trivial)

theorem fetchRow (keeps : Keeps cursor resultSet) (row : Option (List Field)) :
    Keeps (cursor.fetchRow row) (resultSet.call (.fetchRow row)) := by
  cases row with
  | none => exact keeps.withoutRow
  | some row =>
      have count : (if cursor.columnInfoIsValid then cursor.columns.length else 0) =
          (resultSet.columns.getD []).length := by
        rw [keeps.valid]
        cases known : resultSet.columns with
        | none => rfl
        | some columns => simp [keeps.columns columns known]
      simp only [ServerCursor.fetchRow, ResultSet.call, count]
      refine ⟨keeps.valid, keeps.executed, keeps.handled, keeps.columns, keeps.names, ?_⟩
      intro position inside
      exact getElem?_overwrite _ inside

end Keeps

namespace System

/-- Every cursor keeps its own result set. -/
def Kept (system : System Field) : Prop :=
  ∀ id, Keeps (system.controller.cursors id) (system.resultSets id)

theorem kept_start (columnMap : Option Mapping) : Kept (start columnMap : System Field) := by
  intro id
  exact Keeps.start

/-- What a call leaves of the cursors. -/
theorem kept_of_updates {system : System Field} (kept : Kept system) {id : Nat}
    {next : ServerCursor Field} {resultSet : ResultSet Field} (keeps : Keeps next resultSet)
    (other : Nat) :
    Keeps (Function.update system.controller.cursors id next other)
      (Function.update system.resultSets id resultSet other) := by
  by_cases same : other = id
  · subst same
    simpa using keeps
  · simpa [Function.update_of_ne same] using kept other

/-- An undisturbed call leaves every cursor with its own result set. -/
theorem kept_step (system : System Field) (input : Nat × Call Field) (kept : Kept system)
    (undisturbed : Undisturbed system input) : Kept (step system input) := by
  obtain ⟨id, call⟩ := input
  have keeps := kept id
  intro other
  cases call with
  | prepareQuery attempt =>
      exact kept_of_updates kept (.prepareQuery rfl rfl attempt rfl) other
  | executeQuery executed =>
      exact kept_of_updates kept (keeps.executeQuery _ executed undisturbed) other
  | list listed format =>
      exact kept_of_updates kept (keeps.getList _ listed format undisturbed) other
  | lastInsertIdList columns =>
      exact kept_of_updates kept (.getLastInsertIdList _ columns undisturbed) other
  | nextResultSet columns =>
      exact kept_of_updates kept (keeps.nextResultSet _ columns undisturbed) other
  | fetchFromBindCursor columns =>
      exact kept_of_updates kept (keeps.fetchFromBindCursor _ columns undisturbed) other
  | fetchRow row => exact kept_of_updates kept (keeps.fetchRow row) other
  | colCount | getColumnName col | getField col =>
      simpa [step, Controller.call, ResultSet.call] using kept other

/-- The count is that of the own result set under the mapping chosen for it. -/
theorem colCount_own {system : System Field} {id : Nat} (kept : Kept system)
    (undisturbed : Undisturbed system (id, .colCount)) :
    system.controller.colCount id =
      (system.resultSets id).columns.elim 0
        fun columns => mapColumnCount (system.resultSets id).mapping columns.length := by
  have keeps := kept id
  rw [Controller.colCount, keeps.valid]
  cases known : (system.resultSets id).columns with
  | none => rfl
  | some columns =>
      have chosen : system.controller.columnMap = (system.resultSets id).mapping :=
        undisturbed (by simp [known])
      simp [chosen, keeps.columns columns known]

/-- The names are those of the mapping, or of the own result set. -/
theorem getColumnName_own {system : System Field} {id col : Nat} (kept : Kept system)
    (undisturbed : Undisturbed system (id, .getColumnName col)) {answer : Answer Field}
    (own : (system.resultSets id).answer (.getColumnName col) = some answer) :
    .name (system.controller.getColumnName id col) = answer := by
  have keeps := kept id
  rw [Controller.getColumnName, keeps.valid]
  rw [ResultSet.answer] at own
  cases known : (system.resultSets id).columns with
  | none => simpa [known] using own
  | some columns =>
      have chosen : system.controller.columnMap = (system.resultSets id).mapping :=
        undisturbed (by simp [known])
      cases mapped : (system.resultSets id).mapping with
      | some mapping => simpa [known, mapped, chosen] using own
      | none =>
          simp only [known, mapped, Option.map_eq_some_iff] at own
          obtain ⟨name, present, rfl⟩ := own
          obtain ⟨inside, _⟩ := List.getElem?_eq_some_iff.mp present
          simp [chosen, mapped, keeps.names columns known mapped col inside, present]

/-- The fields are those of the own row under the mapping chosen for it. -/
theorem getField_own {system : System Field} {id col : Nat} (kept : Kept system)
    (undisturbed : Undisturbed system (id, .getField col)) {answer : Answer Field}
    (own : (system.resultSets id).answer (.getField col) = some answer) :
    .field (system.controller.getField col) = answer := by
  have keeps := kept id
  simp only [ResultSet.answer, Option.map_eq_some_iff] at own
  obtain ⟨field, present, rfl⟩ := own
  obtain ⟨inside, _⟩ := List.getElem?_eq_some_iff.mp present
  have fetched : (system.resultSets id).row ≠ [] := List.ne_nil_of_length_pos (by omega)
  obtain ⟨chosen, mine⟩ := undisturbed fetched
  simp [Controller.getField, mine, chosen, keeps.fields _ inside, present]

/-- An undisturbed call is answered from the own result set. -/
theorem answersOwn_step (system : System Field) (input : Nat × Call Field) (kept : Kept system)
    (undisturbed : Undisturbed system input) : AnswersOwn system input := by
  obtain ⟨id, call⟩ := input
  intro answer own
  cases call with
  | colCount =>
      rw [ResultSet.answer, Option.some.injEq] at own
      rw [← own, Controller.answer, colCount_own kept undisturbed]
  | getColumnName col => exact getColumnName_own kept undisturbed own
  | getField col => exact getField_own kept undisturbed own
  | prepareQuery | executeQuery | list | lastInsertIdList | nextResultSet | fetchFromBindCursor
  | fetchRow => exact Option.some.inj own

/-- A cursor's own result set after these calls: only the calls on that cursor count. -/
def ownResultSet (history : List (Nat × Call Field)) (id : Nat) : ResultSet Field :=
  ((history.filter fun input => input.1 == id).map Prod.snd).foldl ResultSet.call {}

/-- Whatever is read in a session is read from the cursor's own result set, whatever was called on
other cursors in between. -/
def ReadsOwn (columnMap : Option Mapping) (history : List (Nat × Call Field)) : Prop :=
  ∀ before input after, history = before ++ input :: after →
    ∀ answer, (ownResultSet before input.1).answer input.2 = some answer →
      (before.foldl step (start columnMap)).controller.answer input.1 input.2 = answer

theorem resultSets_run (system : System Field) (history : List (Nat × Call Field)) (id : Nat) :
    (history.foldl step system).resultSets id =
      ((history.filter fun input => input.1 == id).map Prod.snd).foldl ResultSet.call
        (system.resultSets id) := by
  induction history generalizing system with
  | nil => rfl
  | cons input rest ih =>
      rw [List.foldl_cons, ih]
      cases same : input.1 == id with
      | true =>
          rw [List.filter_cons_of_pos (by simpa using same), List.map_cons, List.foldl_cons]
          simp [step, ← eq_of_beq same]
      | false =>
          rw [List.filter_cons_of_neg (by simpa using same)]
          simp [step, Function.update_of_ne (ne_of_beq_false same).symm]

/-- In a session whose calls are all undisturbed, every cursor is read as its own result set under
the mapping chosen when it was opened. -/
theorem readsOwn_of_undisturbed (columnMap : Option Mapping) (history : List (Nat × Call Field))
    (undisturbed : Along step Undisturbed (start columnMap) history) :
    ReadsOwn columnMap history := by
  intro before input after split answer own
  have along : Along step AnswersOwn (start columnMap) history :=
    Along.of_guard kept_step answersOwn_step (kept_start columnMap) undisturbed
  rw [split, Along.append_iff] at along
  apply along.2.1 answer
  rw [resultSets_run]
  exact own

/-- Another cursor is used for a prepare and for a list that fails, both without a mapping, before
a list of catalogs is read. -/
theorem readsOwn_two_cursors :
    ReadsOwn none
      [(0, .prepareQuery .ready), (0, .list .rejected none),
        (1, .list (.byQuery .ready (.ran ["TABLE_CAT", "TABLE_SCHEM"])) mysqlCatalogs),
        (1, .fetchRow (some ["shop", ""])), (1, .colCount), (1, .getColumnName 0),
        (1, .getField 0)] := by
  apply readsOwn_of_undisturbed
  simp [step, Undisturbed, SetsUp, HandlesHeader, start, Controller.call, ResultSet.call,
    ResultSet.prepared, ResultSet.execute, Prepared.columns]

/-- A list of tables, a prepare on another cursor, and a row of the list. -/
def preparedInBetween : List (Nat × Call String) :=
  [(0, .list (.byQuery .ready (.ran
      ["TABLE_CAT", "TABLE_SCHEM", "TABLE_NAME", "TABLE_TYPE", "REMARKS"])) mysqlTables),
    (1, .prepareQuery .ready),
    (0, .fetchRow (some ["def", "shop", "orders", "TABLE", ""]))]

/-- The prepare makes the list be read without its mapping: the first field is the catalog. -/
theorem not_readsOwn : ¬ ∀ (columnMap : Option Mapping) (history : List (Nat × Call String)),
    ReadsOwn columnMap history := by
  intro reads
  have own : (ownResultSet preparedInBetween 0).answer (.getField 0) =
      some (.field (some "orders")) := by decide
  have answered := reads none _ preparedInBetween (0, .getField 0) [] rfl _ own
  exact absurd answered (by decide)

end System

end SqlRelay.Columns
