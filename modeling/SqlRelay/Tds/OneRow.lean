import Mathlib.Data.List.Forall2
import SqlRelay.Foundation.Named
import SqlRelay.Tds.KeyColumns

/-!
# One row

A positioned update or delete is right when it has a condition for each column of the primary key with the
value of that column in the row, and sets what the client has named.  The module does not notice when the
list of the key ends early or a name in it cannot be read, and it has not all parameters of a call that has
more of them than there are bind variables.
-/

namespace SqlRelay.Tds

open SqlRelay.Foundation SqlRelay.Foundation.CString

/-! ## Names of bind variables -/

theorem bindvarname_inj {index other : Nat} : bindvarname index = bindvarname other ↔ index = other := by
  simp only [bindvarname, List.cons.injEq, true_and, digits_inj, Nat.add_right_cancel_iff]

namespace Statement

variable {Double : Type} {statement : Statement Double}

/-- The bind variables are numbered. -/
def Numbered (statement : Statement Double) : Prop :=
  Named.names statement.binds = (List.range statement.binds.length).map bindvarname

theorem Numbered.nodup (numbered : statement.Numbered) : (Named.names statement.binds).Nodup := by
  rw [numbered]
  apply List.Nodup.map
  · intro index other same
    exact bindvarname_inj.mp same
  · exact List.nodup_range

/-- The next bind variable has the next number. -/
theorem names_append (numbered : statement.Numbered) (value : BindValue Double) :
    Named.names (statement.binds ++ [(bindvarname statement.binds.length, value)]) =
      (List.range (statement.binds.length + 1)).map bindvarname := by
  rw [Numbered, Named.names] at numbered
  simp [Named.names, numbered, List.range_succ]

theorem Numbered.set (numbered : statement.Numbered) (colname : List Byte)
    (value : BindValue Double) : (statement.set colname value).Numbered := by
  simp only [Numbered, Statement.set, List.length_append, List.length_singleton]
  exact names_append numbered value

theorem Numbered.whereEquals (numbered : statement.Numbered) (keycol : List Byte)
    (value : BindValue Double) : (statement.whereEquals keycol value).Numbered := by
  simp only [Numbered, Statement.whereEquals, List.length_append, List.length_singleton]
  exact names_append numbered value

theorem numbered_start (verb : Verb) (table : List Byte) :
    (start verb table : Statement Double).Numbered := rfl

end Statement

/-! ## The columns to set -/

section Settings

variable {Double : Type} (columns : List Column)

/-- The statement with one more column to set. -/
def setParam (query : Statement Double) (param : Param Double) : Statement Double :=
  query.set ((positionedColumn columns param).getD []) param.value

variable {columns} {maxbindcount : Nat} {params : List (Param Double)} {query : Statement Double}

theorem length_binds_setParam (param : Param Double) :
    (setParam columns query param).binds.length = query.binds.length + 1 := by
  simp [setParam, Statement.set]

/-- With enough bind variables, all parameters are set if each is named for a column. -/
theorem setColumns_eq_ok (enough : query.binds.length + params.length ≤ maxbindcount)
    (named : ∀ param ∈ params, positionedColumn columns param ≠ none) :
    setColumns columns maxbindcount params query = .ok (params.foldl (setParam columns) query) := by
  induction params generalizing query with
  | nil => rfl
  | cons param params induction =>
    rw [List.length_cons] at enough
    have room : ¬maxbindcount ≤ query.binds.length := by omega
    have found := named param List.mem_cons_self
    have next : (setParam columns query param).binds.length = query.binds.length + 1 :=
      length_binds_setParam param
    rw [setColumns, if_neg room, List.foldl_cons,
      ← induction (by omega) fun other member => named other (List.mem_cons_of_mem _ member)]
    cases column : positionedColumn columns param with
    | none => exact absurd column found
    | some colname => simp [setParam, column]

theorem setColumns_eq_error (enough : query.binds.length + params.length ≤ maxbindcount)
    (unnamed : ∃ param ∈ params, positionedColumn columns param = none) :
    ∃ param, setColumns columns maxbindcount params query = .error param := by
  induction params generalizing query with
  | nil =>
    cases unnamed with
    | intro param found => cases found.1
  | cons param params induction =>
    rw [List.length_cons] at enough
    have room : ¬maxbindcount ≤ query.binds.length := by omega
    cases column : positionedColumn columns param with
    | none => exact ⟨param, by simp [setColumns, room, column]⟩
    | some colname =>
      have later : ∃ other ∈ params, positionedColumn columns other = none := by
        cases unnamed with
        | intro other found =>
          cases List.mem_cons.mp found.1 with
          | inl same =>
            rw [same, column] at found
            cases found.2
          | inr there => exact ⟨other, there, found.2⟩
      have next : (query.set colname param.value).binds.length = query.binds.length + 1 := by
        simp [Statement.set]
      simp only [setColumns, room, if_false, column]
      exact induction (by omega) later

end Settings

/-! ## The conditions -/

section Conditions

variable (numbers : Numbers) (cells : List (Column × Option (List Byte)))

/-- The first column of the cursor that has this name, with its value in the row. -/
def cellOf (name : List Byte) : Option (Column × Option (List Byte)) :=
  cells.find? fun cell => sameName cell.1.name name

variable {cells} in
theorem cell_of_cellOf {name : List Byte} {cell : Column × Option (List Byte)}
    (found : cellOf cells name = some cell) : cell ∈ cells ∧ sameName cell.1.name name := by
  rw [cellOf] at found
  have named := List.find?_some found
  exact ⟨List.mem_of_find?_eq_some found, named⟩

/-- The statement with the condition for one more key column. -/
def whereName (query : Statement numbers.Double) (name : List Byte) : Statement numbers.Double :=
  match cellOf cells name with
  | none => query
  | some (_, none) => query.whereNull name
  | some (column, some value) => query.whereEquals name (positionedBind numbers column.type value)

/-- How many of the key columns need a bind variable. -/
def boundCount (names : List (List Byte)) : Nat :=
  names.countP fun name => ((cellOf cells name).bind (·.2)).isSome

variable {numbers} {cells} {maxbindcount : Nat}

theorem whereColumns_iff {count : Nat} {buffer : List Byte}
    {query result : Statement numbers.Double} (room : query.binds.length ≤ maxbindcount) :
    whereColumns numbers maxbindcount cells count buffer query = some result ↔
      (∀ name ∈ keyNames count buffer, cellOf cells name ≠ none) ∧
      query.binds.length + boundCount cells (keyNames count buffer) ≤ maxbindcount ∧
      (keyNames count buffer).foldl (whereName numbers cells) query = result := by
  induction count generalizing buffer query with
  | zero => simp [whereColumns, keyNames, boundCount, room]
  | succ count induction =>
    simp only [whereColumns, keyNames, List.mem_cons, forall_eq_or_imp, List.foldl_cons]
    cases found : cellOf cells (contents buffer) with
    | none =>
      rw [cellOf] at found
      simp [found]
    | some cell =>
      cases cell with
      | mk column value =>
        have finds := found
        rw [cellOf] at finds
        simp only [finds]
        cases value with
        | none =>
          have same : (query.whereNull (contents buffer)).binds = query.binds := rfl
          rw [induction (same ▸ room)]
          simp [boundCount, found, whereName, same]
        | some value =>
          have next : (query.whereEquals (contents buffer)
              (positionedBind numbers column.type value)).binds.length =
              query.binds.length + 1 := by simp [Statement.whereEquals]
          have counted : ∀ names, boundCount cells (contents buffer :: names) =
              boundCount cells names + 1 := by
            intro names
            simp [boundCount, found]
          rw [counted]
          cases Nat.lt_or_ge query.binds.length maxbindcount with
          | inl less =>
            simp only [Nat.not_le.mpr less, if_false]
            rw [induction (by omega), next, Nat.add_right_comm, ← Nat.add_assoc]
            simp [whereName, found]
          | inr full =>
            have exceeds : ¬query.binds.length + (boundCount cells (keyNames count
                (buffer.drop ((contents buffer).length + 1))) + 1) ≤ maxbindcount := by omega
            simp only [full, if_true, exceeds, false_and, and_false, reduceCtorEq]

end Conditions

/-! ## What a statement has to be -/

section Right

variable {numbers : Numbers} (same : numbers.Double → List Byte → Prop)

/-- A bound value is the value of a text.  When a double is that is up to the backend. -/
def Denotes (value : BindValue numbers.Double) (text : List Byte) : Prop :=
  match value with
  | .string other => other = text
  | .integer number => printInteger number.toInt = text
  | .double number _ _ => same number text
  | _ => False

/-- A column is set to the value that the client gave for it. -/
def Sets (columns : List Column) (binds : List (List Byte × BindValue numbers.Double))
    (param : Param numbers.Double) (setting : List Byte × List Byte) : Prop :=
  (∃ name, contents param.name = chr '@' :: name ∧
    ∃ column ∈ columns, sameName column.name name ∧ setting.1 = contents column.name) ∧
  binds.lookup setting.2 = some param.value

/-- The condition on a key column holds of what every column of its name has in the row. -/
def Meets (cells : List (Column × Option (List Byte)))
    (binds : List (List Byte × BindValue numbers.Double)) (key : KeyColumn)
    (condition : List Byte × Option (List Byte)) : Prop :=
  condition.1 = key.name ∧ (∃ cell ∈ cells, sameName cell.1.name key.name) ∧
  ∀ cell ∈ cells, sameName cell.1.name key.name →
    match cell.2, condition.2 with
    | none, none => True
    | some text, some name => ∃ value, binds.lookup name = some value ∧ Denotes same value text
    | _, _ => False

end Right

/-- An update or a delete of the row that a cursor is on. -/
structure Target where
  verb : Verb
  columns : List Column
  table : List Byte
  row : TdsRow

namespace Target

def cells (target : Target) : List (Column × Option (List Byte)) := target.columns.zip target.row

end Target

namespace Session

variable (session : Session) (params : List (Param session.numbers.Double))

/-- The update or delete that a call asks for, if it names a cursor, a table and a row. -/
def target : Option Target :=
  let params := session.rpcparams params
  let optype := (paramInteger session.numbers params 1 % 65536).toNat
  let rownum := (paramInteger session.numbers params 2).bmod 4294967296
  let table := contents ((paramString session.numbers params 3).getD [])
  if table = [] ∨ optype ≠ 1 ∧ optype ≠ 2 then none
  else
    (session.cursorhandles (paramInteger session.numbers params 0 % 4294967296).toNat).bind
      fun cursor => (cursor.position.bind (getRow · rownum)).map fun row =>
        ⟨if optype = 1 then .update else .delete, cursor.columns, table, row⟩

theorem cursorPositioned_of_target {target : Target} (found : session.target params = some target) :
    session.cursorPositioned params =
      if target.verb = .update then
        session.positionedUpdate target.columns target.table target.row (session.rpcparams params)
      else session.positionedDelete target.columns target.table target.row := by
  simp only [Session.target] at found
  split at found
  · cases found
  · next valid =>
    simp only [not_or, not_and_or, not_not] at valid
    simp only [Option.bind_eq_some_iff, Option.map_eq_some_iff] at found
    cases found with
    | intro cursor found =>
      cases found.2 with
      | intro row there =>
        have position : cursor.position.bind _ = some row :=
          Option.bind_eq_some_iff.mpr there.1
        simp only [cursorPositioned, found.1, valid.1, if_false, position, ← there.2]
        cases valid.2 with
        | inl update => simp [update]
        | inr delete => simp [delete]

/-! ## What is executed -/

/-- Where nothing is executed, the answer is an error. -/
def Refuses (outcome : Outcome session.numbers.Double) : Prop :=
  outcome.executed = none → outcome.answer.isError = true

theorem refuses_error (number : Nat) (text : List Byte) :
    session.Refuses (Outcome.error number text) := fun _ => rfl

theorem executed_positionedExecute (query : Statement session.numbers.Double) :
    (session.positionedExecute query).executed =
      if session.maxquerysize < query.text.length then none else some query := by
  rw [positionedExecute]
  split
  · rfl
  · split
    · rfl
    · rfl
    · rfl

theorem refuses_positionedExecute (query : Statement session.numbers.Double) :
    session.Refuses (session.positionedExecute query) := by
  rw [positionedExecute]
  split
  · exact session.refuses_error _ _
  · split
    · intro _
      rfl
    · intro _
      rfl
    · intro unexecuted
      cases unexecuted

section Refusing

variable (columns : List Column) (table : List Byte) (row : TdsRow)

theorem refuses_positionedUpdate : session.Refuses
    (session.positionedUpdate columns table row params) := by
  rw [positionedUpdate]
  split
  · split
    · exact session.refuses_error _ _
    · split
      · exact session.refuses_error _ _
      · split
        · exact session.refuses_error _ _
        · exact session.refuses_positionedExecute _
  · exact session.refuses_error _ _

theorem refuses_positionedDelete : session.Refuses
    (session.positionedDelete columns table row) := by
  rw [positionedDelete]
  split
  · split
    · exact session.refuses_error _ _
    · exact session.refuses_positionedExecute _
  · exact session.refuses_error _ _

theorem refuses_positionedInsert : session.Refuses
    (session.positionedInsert columns table params) := by
  rw [positionedInsert]
  split
  · split
    · exact session.refuses_error _ _
    · split
      · exact session.refuses_error _ _
      · exact session.refuses_positionedExecute _
  · exact session.refuses_error _ _

end Refusing

theorem refuses_cursorPositioned : session.Refuses (session.cursorPositioned params) := by
  simp only [cursorPositioned]
  split
  · exact session.refuses_error _ _
  · split
    · exact session.refuses_error _ _
    · split
      · exact session.refuses_positionedInsert _ _ _
      · split
        · exact session.refuses_error _ _
        · split
          · exact session.refuses_positionedUpdate _ _ _ _
          · split
            · exact session.refuses_positionedDelete _ _ _
            · exact session.refuses_error _ _

theorem positionedWhere_iff {columns : List Column} {table : List Byte} {row : TdsRow}
    {query result : Statement session.numbers.Double}
    (room : query.binds.length ≤ session.maxbindcount) :
    session.positionedWhere columns table row query = some result ↔
      session.pkcursor = true ∧ (session.primaryKeys table).names ≠ [] ∧
      (∀ name ∈ (session.primaryKeys table).names, cellOf (columns.zip row) name ≠ none) ∧
      query.binds.length + boundCount (columns.zip row) (session.primaryKeys table).names ≤
        session.maxbindcount ∧
      (session.primaryKeys table).names.foldl (whereName session.numbers (columns.zip row)) query =
        result := by
  have count : (session.primaryKeys table).read.count = 0 ↔
      (session.primaryKeys table).names = [] := by
    rw [← List.length_eq_zero_iff, KeyList.names, length_keyNames]
  simp only [positionedWhere, count]
  cases session.pkcursor with
  | false => simp
  | true =>
    cases names : (session.primaryKeys table).names with
    | nil => simp
    | cons name others =>
      rw [← names]
      simp only [if_true, true_and]
      rw [if_neg (by simp [names]), whereColumns_iff room, ← KeyList.names]
      simp [names]

/-- The parameters that are columns to set. -/
def sets (target : Target) : List (Param session.numbers.Double) :=
  if target.verb = .update then (session.rpcparams params).drop 4 else []

/-- The statement with all columns to set. -/
def begun (target : Target) : Statement session.numbers.Double :=
  (session.sets params target).foldl (setParam target.columns)
    (Statement.start target.verb target.table)

/-- The statement with the conditions for the names that have been read, too. -/
def assembled (target : Target) : Statement session.numbers.Double :=
  (session.primaryKeys target.table).names.foldl (whereName session.numbers target.cells)
    (session.begun params target)

/-- A call that is not refused. -/
structure Accepted (target : Target) : Prop where
  dmlcursor : session.dmlcursor = true
  pkcursor : session.pkcursor = true
  sets : target.verb = .update → session.sets params target ≠ []
  named : ∀ param ∈ session.sets params target, positionedColumn target.columns param ≠ none
  key : (session.primaryKeys target.table).names ≠ []
  selected : ∀ name ∈ (session.primaryKeys target.table).names, cellOf target.cells name ≠ none
  bound : (session.sets params target).length +
    boundCount target.cells (session.primaryKeys target.table).names ≤ session.maxbindcount
  size : (session.assembled params target).text.length ≤ session.maxquerysize

variable {session} {params}

theorem verb_of_target {target : Target} (found : session.target params = some target) :
    target.verb = .update ∨ target.verb = .delete := by
  simp only [Session.target] at found
  split at found
  · cases found
  · simp only [Option.bind_eq_some_iff, Option.map_eq_some_iff] at found
    cases found with
    | intro cursor found =>
      cases found.2 with
      | intro row there =>
        rw [← there.2]
        split
        · exact Or.inl rfl
        · exact Or.inr rfl

theorem length_binds_foldl_setParam {columns : List Column} {Double : Type}
    (params : List (Param Double)) (query : Statement Double) :
    (params.foldl (setParam columns) query).binds.length = query.binds.length + params.length := by
  induction params generalizing query with
  | nil => rfl
  | cons param params induction =>
    rw [List.foldl_cons, induction, length_binds_setParam, List.length_cons]
    omega

theorem length_sets_le (target : Target) :
    (session.sets params target).length ≤ session.maxbindcount := by
  have kept : (session.rpcparams params).length ≤ session.maxbindcount := List.length_take_le _ _
  rw [sets]
  split
  · rw [List.length_drop]
    omega
  · exact Nat.zero_le _

theorem length_binds_begun (target : Target) :
    (session.begun params target).binds.length = (session.sets params target).length := by
  rw [begun, length_binds_foldl_setParam]
  exact Nat.zero_add _

/-- The last steps of an update and of a delete. -/
theorem executed_of_begun {target : Target} {statement : Statement session.numbers.Double}
    {refused : Outcome session.numbers.Double} (unexecuted : refused.executed = none)
    (dmlcursor : session.dmlcursor = true)
    (sets : target.verb = .update → session.sets params target ≠ [])
    (named : ∀ param ∈ session.sets params target, positionedColumn target.columns param ≠ none) :
    (match session.positionedWhere target.columns target.table target.row
          (session.begun params target) with
        | none => refused
        | some query => session.positionedExecute query).executed = some statement ↔
      session.Accepted params target ∧ session.assembled params target = statement := by
  have length : (session.begun params target).binds.length =
      (session.sets params target).length := length_binds_begun target
  have room : (session.begun params target).binds.length ≤ session.maxbindcount :=
    length ▸ length_sets_le target
  cases ends : session.positionedWhere target.columns target.table target.row
      (session.begun params target) with
  | none =>
    rw [unexecuted]
    constructor
    · intro executed
      cases executed
    · intro accepted
      have there : session.positionedWhere target.columns target.table target.row
          (session.begun params target) = some (session.assembled params target) :=
        (session.positionedWhere_iff room).mpr ⟨accepted.1.pkcursor, accepted.1.key,
          accepted.1.selected, length ▸ accepted.1.bound, rfl⟩
      rw [there] at ends
      cases ends
  | some query =>
    have parts := (session.positionedWhere_iff room).mp ends
    have same : session.assembled params target = query := parts.2.2.2.2
    simp only [executed_positionedExecute]
    constructor
    · intro executed
      split at executed
      · cases executed
      · next fits =>
        constructor
        · exact ⟨dmlcursor, parts.1, sets, named, parts.2.1, parts.2.2.1, length ▸ parts.2.2.2.1,
            same ▸ Nat.not_lt.mp fits⟩
        · exact same.trans (Option.some.inj executed)
    · intro accepted
      rw [if_neg (Nat.not_lt.mpr (same ▸ accepted.1.size)), ← accepted.2, same]

/-- A call executes the statement that it has put together if it is not refused. -/
theorem executed_iff {target : Target} (found : session.target params = some target)
    {statement : Statement session.numbers.Double} :
    (session.cursorPositioned params).executed = some statement ↔
      session.Accepted params target ∧ session.assembled params target = statement := by
  rw [session.cursorPositioned_of_target params found]
  cases dmlcursor : session.dmlcursor with
  | false =>
    have nothing : ¬session.Accepted params target := by
      intro accepted
      have there := accepted.dmlcursor
      rw [dmlcursor] at there
      cases there
    simp only [positionedUpdate, positionedDelete, dmlcursor, nothing, false_and, iff_false]
    split
    · simp [noCursorAvailable, Outcome.error]
    · simp [noCursorAvailable, Outcome.error]
  | true =>
    cases verb_of_target found with
    | inl update =>
      have setsEq : session.sets params target = (session.rpcparams params).drop 4 := if_pos update
      have enough : (Statement.start .update target.table :
          Statement session.numbers.Double).binds.length +
          (session.sets params target).length ≤ session.maxbindcount := by
        rw [show (Statement.start .update target.table :
          Statement session.numbers.Double).binds.length = 0 from rfl, Nat.zero_add]
        exact length_sets_le target
      simp only [update, if_true, positionedUpdate, dmlcursor, ← setsEq]
      by_cases named : ∀ param ∈ session.sets params target,
        positionedColumn target.columns param ≠ none
      · have begunEq : (session.sets params target).foldl (setParam target.columns)
            (Statement.start .update target.table) = session.begun params target := by
          rw [begun, update]
        rw [setColumns_eq_ok enough named, begunEq]
        simp only [length_binds_begun, List.length_eq_zero_iff]
        split
        · next empty =>
          constructor
          · intro executed
            cases executed
          · intro accepted
            exact absurd empty (accepted.1.sets update)
        · next sets =>
          exact executed_of_begun rfl dmlcursor (fun _ => sets) named
      · have nothing : ¬session.Accepted params target := fun accepted => named accepted.named
        simp only [not_forall, not_not] at named
        have unnamed : ∃ param ∈ session.sets params target,
            positionedColumn target.columns param = none := by
          cases named with
          | intro param found =>
            cases found with
            | intro member absent => exact ⟨param, member, absent⟩
        cases setColumns_eq_error enough unnamed with
        | intro param error =>
          rw [error]
          simp [invalidColumn, Outcome.error, nothing]
    | inr delete =>
      have setsEq : session.sets params target = [] := by simp [sets, delete]
      have begunEq : session.begun params target = Statement.start .delete target.table := by
        rw [begun, setsEq, delete]
        rfl
      simp only [delete, reduceCtorEq, if_false, positionedDelete, dmlcursor, if_true, ← begunEq]
      apply executed_of_begun rfl dmlcursor
      · intro update
        rw [delete] at update
        cases update
      · intro param member
        rw [setsEq] at member
        cases member

end Session

/-! ## What the assembled statement is -/

/-- What the statement keeps when more is put into it. -/
structure Statement.Grows {Double : Type} (before after : Statement Double) : Prop where
  verb : after.verb = before.verb
  table : after.table = before.table
  binds : before.binds ⊆ after.binds
  numbered : before.Numbered → after.Numbered

section Settings

variable {Double : Type} (columns : List Column)

theorem Statement.Grows.refl (statement : Statement Double) : statement.Grows statement :=
  ⟨rfl, rfl, List.Subset.refl _, id⟩

theorem Statement.Grows.trans {one two three : Statement Double} (first : one.Grows two)
    (second : two.Grows three) : one.Grows three :=
  ⟨second.verb.trans first.verb, second.table.trans first.table,
    List.Subset.trans first.binds second.binds, second.numbered ∘ first.numbered⟩

/-- A setting comes from a parameter. -/
def FromParam (binds : List (List Byte × BindValue Double)) (param : Param Double)
    (setting : List Byte × List Byte) : Prop :=
  setting.1 = contents ((positionedColumn columns param).getD []) ∧
    (setting.2, param.value) ∈ binds

theorem grows_setParam (query : Statement Double) (param : Param Double) :
    query.Grows (setParam columns query param) :=
  ⟨rfl, rfl, List.subset_append_left _ _, fun numbered => numbered.set _ _⟩

theorem grows_foldl_setParam (params : List (Param Double)) (query : Statement Double) :
    query.Grows (params.foldl (setParam columns) query) := by
  induction params generalizing query with
  | nil => exact Statement.Grows.refl query
  | cons param params induction => exact (grows_setParam columns query param).trans (induction _)

theorem settings_foldl_setParam (params : List (Param Double)) (query : Statement Double) :
    ∃ added, (params.foldl (setParam columns) query).settings = query.settings ++ added ∧
      List.Forall₂ (FromParam columns (params.foldl (setParam columns) query).binds) params
        added := by
  induction params generalizing query with
  | nil => exact ⟨[], (List.append_nil _).symm, .nil⟩
  | cons param params induction =>
    have grows := grows_foldl_setParam columns params (setParam columns query param)
    cases induction (setParam columns query param) with
    | intro added later =>
      let setting := (contents ((positionedColumn columns param).getD []),
        bindvarname query.binds.length)
      refine ⟨setting :: added, ?_, ?_⟩
      · rw [List.foldl_cons, later.1, setParam, Statement.set, List.append_assoc]
        rfl
      · constructor
        · constructor
          · rfl
          · apply grows.binds
            exact List.mem_append_right _ (List.mem_singleton_self _)
        · exact later.2

theorem conditions_foldl_setParam (params : List (Param Double)) (query : Statement Double) :
    (params.foldl (setParam columns) query).conditions = query.conditions := by
  induction params generalizing query with
  | nil => rfl
  | cons param params induction => exact induction _

end Settings

section Conditions

variable (numbers : Numbers) (cells : List (Column × Option (List Byte)))

/-- A condition compares a key column to what the first column of its name has in the row. -/
def Compares (binds : List (List Byte × BindValue numbers.Double)) (name : List Byte)
    (condition : List Byte × Option (List Byte)) : Prop :=
  condition.1 = name ∧ ∃ cell, cellOf cells name = some cell ∧
    match cell.2, condition.2 with
    | none, none => True
    | some value, some bound => (bound, positionedBind numbers cell.1.type value) ∈ binds
    | _, _ => False

theorem grows_whereName (query : Statement numbers.Double) (name : List Byte) :
    query.Grows (whereName numbers cells query name) := by
  rw [whereName]
  split
  · exact Statement.Grows.refl query
  · exact ⟨rfl, rfl, List.Subset.refl _, id⟩
  · exact ⟨rfl, rfl, List.subset_append_left _ _, fun numbered => numbered.whereEquals _ _⟩

theorem settings_whereName (query : Statement numbers.Double) (name : List Byte) :
    (whereName numbers cells query name).settings = query.settings := by
  rw [whereName]
  split
  · rfl
  · rfl
  · rfl

theorem compares_whereName (query : Statement numbers.Double) {name : List Byte}
    (selected : cellOf cells name ≠ none) :
    ∃ condition, (whereName numbers cells query name).conditions = query.conditions ++ [condition] ∧
      Compares numbers cells (whereName numbers cells query name).binds name condition := by
  rw [whereName]
  split
  · next absent => exact absurd absent selected
  · next column found => exact ⟨(name, none), rfl, rfl, (column, none), found, trivial⟩
  · next column value found =>
    refine ⟨(name, some (bindvarname query.binds.length)), rfl, rfl, (column, some value), found, ?_⟩
    exact List.mem_append_right _ (List.mem_singleton_self _)

theorem grows_foldl_whereName (names : List (List Byte)) (query : Statement numbers.Double) :
    query.Grows (names.foldl (whereName numbers cells) query) := by
  induction names generalizing query with
  | nil => exact Statement.Grows.refl query
  | cons name names induction => exact (grows_whereName numbers cells query name).trans (induction _)

theorem settings_foldl_whereName (names : List (List Byte)) (query : Statement numbers.Double) :
    (names.foldl (whereName numbers cells) query).settings = query.settings := by
  induction names generalizing query with
  | nil => rfl
  | cons name names induction =>
    exact (induction _).trans (settings_whereName numbers cells query name)

theorem Compares.mono {numbers : Numbers} {cells : List (Column × Option (List Byte))}
    {binds more : List (List Byte × BindValue numbers.Double)} {name : List Byte}
    {condition : List Byte × Option (List Byte)} (compares : Compares numbers cells binds name condition)
    (within : binds ⊆ more) : Compares numbers cells more name condition := by
  cases compares.2 with
  | intro cell found =>
    refine ⟨compares.1, cell, found.1, ?_⟩
    have held := found.2
    cases value : cell.2 with
    | none =>
      cases bound : condition.2 with
      | none => trivial
      | some name => simp only [value, bound] at held
    | some text =>
      cases bound : condition.2 with
      | none => simp only [value, bound] at held
      | some name =>
        simp only [value, bound] at held
        exact within held

theorem conditions_foldl_whereName (names : List (List Byte)) (query : Statement numbers.Double)
    (selected : ∀ name ∈ names, cellOf cells name ≠ none) :
    ∃ added, (names.foldl (whereName numbers cells) query).conditions = query.conditions ++ added ∧
      List.Forall₂ (Compares numbers cells (names.foldl (whereName numbers cells) query).binds) names
        added := by
  induction names generalizing query with
  | nil => exact ⟨[], (List.append_nil _).symm, .nil⟩
  | cons name names induction =>
    have grows := grows_foldl_whereName numbers cells names (whereName numbers cells query name)
    cases compares_whereName numbers cells query (selected name List.mem_cons_self) with
    | intro condition here =>
      cases induction (whereName numbers cells query name) fun other member =>
        selected other (List.mem_cons_of_mem _ member) with
      | intro added later =>
        refine ⟨condition :: added, ?_, ?_⟩
        · rw [List.foldl_cons, later.1, here.1, List.append_assoc]
          rfl
        · exact .cons (here.2.mono grows.binds) later.2

end Conditions

/-! ## When the statement is right -/

section Values

variable {numbers : Numbers} (same : numbers.Double → List Byte → Prop)

/-- A value of a type with a fraction is bound as a double, and other values as they are. -/
theorem denotes_positionedBind (type : Datatype) (text other : List Byte) :
    Denotes same (positionedBind numbers type text) other ↔
      if type.isFloatTypeInt = true ∧ text ≠ [] then
        same (numbers.convertToFloat (contents text)) other
      else text.take (text.length % sizeWord) = other := by
  rw [positionedBind]
  split
  · next integer =>
    have short : text.length < sizeWord := by
      have small := integer.2.2.2.1
      simp only [maxIntegerDigits] at small
      exact Nat.lt_of_le_of_lt small (by decide)
    rw [if_neg (by simp [integer.2.1]), Nat.mod_eq_of_lt short, List.take_length, Denotes,
      integer.2.2.2.2.2]
  · split
    · rfl
    · rfl

/-- What a column has in the row is what is bound for the first column of the same name. -/
def Agrees (first : Column × Option (List Byte)) (value : Option (List Byte)) : Prop :=
  match first.2, value with
  | none, none => True
  | some text, some other =>
      if first.1.type.isFloatTypeInt = true ∧ text ≠ [] then
        same (numbers.convertToFloat (contents text)) other
      else text.take (text.length % sizeWord) = other
  | _, _ => False

variable {cells : List (Column × Option (List Byte))}
  {binds : List (List Byte × BindValue numbers.Double)}

variable (cells) in
/-- What is bound for a key column is what all columns of its name have in the row. -/
def KeyAgrees (key : KeyColumn) : Prop :=
  ∀ first, cellOf cells key.name = some first →
    ∀ cell ∈ cells, sameName cell.1.name key.name → Agrees same first cell.2

theorem meets_iff (nodup : (Named.names binds).Nodup) {key : KeyColumn}
    {condition : List Byte × Option (List Byte)}
    (compares : Compares numbers cells binds key.name condition) :
    Meets same cells binds key condition ↔ KeyAgrees same cells key := by
  cases compares.2 with
  | intro first found =>
    have there : ∃ cell ∈ cells, sameName cell.1.name key.name :=
      ⟨first, cell_of_cellOf found.1⟩
    simp only [Meets, KeyAgrees, compares.1, there, true_and, found.1, Option.some.injEq, forall_eq']
    apply forall_congr'
    intro cell
    apply imp_congr_right
    intro _
    apply imp_congr_right
    intro _
    have held := found.2
    cases value : first.2 with
    | none =>
      cases bound : condition.2 with
      | none =>
        cases other : cell.2 with
        | none => simp [Agrees, value]
        | some text => simp [Agrees, value]
      | some name => simp only [value, bound] at held
    | some text =>
      cases bound : condition.2 with
      | none => simp only [value, bound] at held
      | some name =>
        simp only [value, bound] at held
        have lookup := Named.lookup_of_mem nodup held
        cases other : cell.2 with
        | none => simp [Agrees, value]
        | some text' =>
          simp only [lookup, Option.some.injEq, exists_eq_left', denotes_positionedBind, Agrees,
            value]

end Values

namespace Session

variable (session : Session) (same : session.numbers.Double → List Byte → Prop)
  (params : List (Param session.numbers.Double)) (target : Target)

/-- The parameters that the client has named for columns. -/
def named : List (Param session.numbers.Double) :=
  if target.verb = .update then params.drop 4 else []

/-- A statement with one condition for each column of the primary key and all columns that are to be
set. -/
structure Right (statement : Statement session.numbers.Double) : Prop where
  verb : statement.verb = target.verb
  table : statement.table = contents target.table
  distinct : (Named.names statement.binds).Nodup
  settings : List.Forall₂ (Sets target.columns statement.binds) (session.named params target)
    statement.settings
  conditions : List.Forall₂ (Meets same target.cells statement.binds)
    (session.primaryKeys target.table).columns statement.conditions

/-- All parameters are kept, the primary key is read as it is, and the values of its columns in the row
can be bound. -/
structure Complete : Prop where
  kept : target.verb = .update → params.length ≤ session.maxbindcount
  key : (session.primaryKeys target.table).Readable
  values : ∀ key ∈ (session.primaryKeys target.table).columns, KeyAgrees same target.cells key

/-- A call that has found its row executes the right statement, or nothing and answers with an error. -/
structure Answers : Prop where
  right : ∀ target, session.target params = some target → ∀ statement,
    (session.cursorPositioned params).executed = some statement →
      session.Right same params target statement
  refuses : session.Refuses (session.cursorPositioned params)

variable {session} {params} {target}

theorem sets_of_fromParam {binds : List (List Byte × BindValue session.numbers.Double)}
    (nodup : (Named.names binds).Nodup) {columns : List Column}
    {param : Param session.numbers.Double} {setting : List Byte × List Byte}
    (named : positionedColumn columns param ≠ none)
    (from_param : FromParam columns binds param setting) : Sets columns binds param setting := by
  constructor
  · have text := from_param.1
    rw [positionedColumn] at named text
    split at named
    · exact absurd rfl named
    · next first name written =>
      simp only [written] at text
      split at named
      · exact absurd rfl named
      · next at_sign =>
        simp only [ne_eq, not_not] at at_sign
        simp only [at_sign, ne_eq, not_true, if_false] at text
        cases found : columns.find? fun column => sameName column.name name with
        | none =>
          rw [found] at named
          exact absurd rfl named
        | some column =>
          rw [found] at text
          have same := List.find?_some found
          exact ⟨name, by rw [written, at_sign], column, List.mem_of_find?_eq_some found, same, text⟩
  · exact Named.lookup_of_mem nodup from_param.2

theorem grows_begun (target : Target) :
    (Statement.start target.verb target.table).Grows (session.begun params target) :=
  grows_foldl_setParam _ _ _

theorem grows_assembled (target : Target) :
    (session.begun params target).Grows (session.assembled params target) :=
  grows_foldl_whereName _ _ _ _

theorem nodup_assembled (target : Target) :
    (Named.names (session.assembled params target).binds).Nodup := by
  have begun : (session.begun params target).Numbered :=
    (grows_begun target).numbered (Statement.numbered_start _ _)
  exact ((grows_assembled target).numbered begun).nodup

/-- The columns that are set are those that the client has named just when all parameters are kept. -/
theorem settings_iff (accepted : session.Accepted params target) :
    List.Forall₂ (Sets target.columns (session.assembled params target).binds)
        (session.named params target) (session.assembled params target).settings ↔
      (target.verb = .update → params.length ≤ session.maxbindcount) := by
  have same : (session.assembled params target).settings = (session.begun params target).settings :=
    settings_foldl_whereName _ _ _ _
  have added := settings_foldl_setParam target.columns (session.sets params target)
    (Statement.start target.verb target.table)
  cases added with
  | intro added from_params =>
    have settings : (session.begun params target).settings = added := from_params.1
    rw [same, settings]
    constructor
    · intro all update
      have count := all.length_eq.trans from_params.2.length_eq.symm
      have some := List.length_pos_iff.mpr (accepted.sets update)
      simp only [named, sets, update, if_true, rpcparams, List.length_drop, List.length_take]
        at count some
      omega
    · intro kept
      have sets_eq : session.sets params target = session.named params target := by
        rw [sets, named]
        split
        · next update => rw [rpcparams, List.take_of_length_le (kept update)]
        · rfl
      rw [← sets_eq]
      have named := (List.forall₂_and_left _ _).mpr ⟨accepted.named, from_params.2⟩
      apply named.imp
      intro param setting held
      have grown : FromParam target.columns (session.assembled params target).binds param setting :=
        ⟨held.2.1, (grows_assembled target).binds held.2.2⟩
      exact sets_of_fromParam (nodup_assembled target) held.1 grown

/-- The conditions are those of the primary key just when it is read as it is and its values agree. -/
theorem conditions_iff (accepted : session.Accepted params target) :
    List.Forall₂ (Meets same target.cells (session.assembled params target).binds)
        (session.primaryKeys target.table).columns (session.assembled params target).conditions ↔
      (session.primaryKeys target.table).Readable ∧
      ∀ key ∈ (session.primaryKeys target.table).columns, KeyAgrees same target.cells key := by
  have begun : (session.begun params target).conditions = [] :=
    conditions_foldl_setParam _ _ _
  cases conditions_foldl_whereName session.numbers target.cells _ (session.begun params target)
    accepted.selected with
  | intro added compares =>
    have conditions : (session.assembled params target).conditions = added := by
      rw [assembled, compares.1, begun, List.nil_append]
    have compared : List.Forall₂ (Compares session.numbers target.cells
        (session.assembled params target).binds) (session.primaryKeys target.table).names added :=
      compares.2
    rw [conditions]
    have whole : (session.primaryKeys target.table).Readable →
        List.Forall₂ (fun key condition =>
          Compares session.numbers target.cells (session.assembled params target).binds key.name
            condition) (session.primaryKeys target.table).columns added := by
      intro readable
      rw [(KeyList.names_eq_iff accepted.key).mpr readable, List.forall₂_map_left_iff] at compared
      exact compared
    constructor
    · intro meets
      have readable : (session.primaryKeys target.table).Readable := by
        apply (KeyList.names_eq_iff accepted.key).mp
        have columns : (session.primaryKeys target.table).columns.map (·.name) =
            added.map (·.1) := by
          rw [← List.forall₂_eq_eq_eq, List.forall₂_map_left_iff, List.forall₂_map_right_iff]
          apply meets.imp
          intro key condition held
          exact held.1.symm
        have names : (session.primaryKeys target.table).names = added.map (·.1) := by
          rw [← List.forall₂_eq_eq_eq, List.forall₂_map_right_iff]
          apply compared.imp
          intro name condition held
          exact held.1.symm
        rw [names, columns]
      constructor
      · exact readable
      · have agree : List.Forall₂ (fun key condition => KeyAgrees same target.cells key ∧
            Meets same target.cells (session.assembled params target).binds key condition)
            (session.primaryKeys target.table).columns added := by
          apply List.Forall₂.mp _ (whole readable) meets
          intro key condition held meet
          exact ⟨(meets_iff same (nodup_assembled target) held).mp meet, meet⟩
        exact ((List.forall₂_and_left _ _).mp agree).1
    · intro complete
      have both := (List.forall₂_and_left _ _).mpr ⟨complete.2, whole complete.1⟩
      apply both.imp
      intro key condition held
      exact (meets_iff same (nodup_assembled target) held.2).mpr held.1

theorem right_iff (accepted : session.Accepted params target) :
    session.Right same params target (session.assembled params target) ↔
      session.Complete same params target := by
  have settings := settings_iff accepted
  have conditions := conditions_iff same accepted
  constructor
  · intro right
    have read := conditions.mp right.conditions
    exact ⟨settings.mp right.settings, read.1, read.2⟩
  · intro complete
    have grows : (Statement.start target.verb target.table).Grows
        (session.assembled params target) := (grows_begun target).trans (grows_assembled target)
    exact ⟨grows.verb, grows.table, nodup_assembled target, settings.mpr complete.kept,
      conditions.mpr ⟨complete.key, complete.values⟩⟩

variable (session) (params)

/-- `sp_cursor` updates or deletes one row, or answers with an error, if and only if every call that is not
refused is complete. -/
theorem answers_iff :
    session.Answers same params ↔ ∀ target, session.target params = some target →
      session.Accepted params target → session.Complete same params target := by
  constructor
  · intro answers target found accepted
    have executed := (executed_iff found).mpr ⟨accepted, rfl⟩
    exact (right_iff same accepted).mp (answers.right target found _ executed)
  · intro complete
    constructor
    · intro target found statement executed
      have parts := (executed_iff found).mp executed
      rw [← parts.2]
      exact (right_iff same parts.1).mpr (complete target found parts.1)
    · exact session.refuses_cursorPositioned params

/-- A table with a key of two columns, the name of the second of which cannot be read. -/
def unread : Session where
  numbers := ⟨Unit, fun _ => false, fun _ => 0, fun _ => (), fun _ => [], fun _ => 0⟩
  maxbindcount := 256
  maxquerysize := 65536
  cursorhandles _ := some
    { columns := [⟨ascii "a", .other⟩, ⟨ascii "b", .other⟩]
      position := some [[some (ascii "x"), some (ascii "y")]]
      sized := by simp }
  dmlcursor := true
  pkcursor := true
  primaryKeys _ := ⟨true, [⟨ascii "a", true⟩, ⟨ascii "b", false⟩], 2⟩
  affectedRows := some 5

/-- The delete has a condition on the first column of the key only. -/
theorem not_answers_unread :
    ¬unread.Answers (fun _ _ => True)
      [⟨[], .integer 1⟩, ⟨[], .integer 2⟩, ⟨[], .integer 1⟩, ⟨[], .string (ascii "t")⟩] := by
  intro answers
  have executed := answers.right
    ⟨.delete, [⟨ascii "a", .other⟩, ⟨ascii "b", .other⟩], ascii "t",
      [some (ascii "x"), some (ascii "y")]⟩ rfl
    ⟨.delete, ascii "t", [], [(ascii "a", some (ascii "@1"))],
      [(ascii "@1", .string (ascii "x"))]⟩ rfl
  have count := executed.conditions.length_eq
  cases count

end Session

end SqlRelay.Tds
