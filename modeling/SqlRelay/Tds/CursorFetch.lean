import SqlRelay.Rows.Delivery
import SqlRelay.Tds.Positioned

/-!
# Fetching from a cursor

`sp_cursorfetch` of the TDS module.  The cursors of the database only go forward: a fetch of the first rows
is a fetch of the next ones, and a fetch from a row further on skips the rows before it.
-/

namespace SqlRelay.Tds.CursorFetch

open SqlRelay.Foundation SqlRelay.Foundation.CString SqlRelay.Rows

universe u v

def cursorFetchFirst : Nat := 0x0001
def cursorFetchNext : Nat := 0x0002
def cursorFetchRelative : Nat := 0x0020
def cursorFetchInfo : Nat := 0x0100

def rpcNoSuchCursor : Nat := 16950
def rpcFetchUnsupported : Nat := 16958

/-- `CURSOR_MAX_POSITION_ROWS` -/
def cursorMaxPositionRows : Nat := 1024

/-- What the query behind a cursor returns when it runs; without columns there is nothing to fetch. -/
structure ResultSet (Row : Type u) where
  colCount : Nat
  rows : List Row
  ending : Ending Row
  bare : colCount = 0 → rows = [] ∧ ending = .endOfData

/-- What is known of a cursor with a handle. -/
structure Session (Row : Type u) (State : Type v) where
  handle : Nat
  /-- The query has yet to run. -/
  executeflag : Bool
  controller : Controller Row State
  /-- The rows of the last fetch, if any were kept. -/
  position : Option (List Row)

/-- A call, and whether the database runs the query, should it be asked to. -/
structure Request (numbers : Numbers) where
  params : List (Param numbers.Double)
  executes : Bool

namespace Request

variable {numbers : Numbers} (request : Request numbers)

/-- A parameter, or what it is if the call leaves it out. -/
def integer (param : Nat) (default : Int) : Int :=
  if param < request.params.length then paramInteger numbers request.params param else default

def handle : Nat := (paramInteger numbers request.params 0 % 4294967296).toNat

def fetchtype : Nat := (request.integer 1 cursorFetchNext % 65536).toNat

def rownum : Int := (request.integer 2 0).bmod 4294967296

def nrows : Int := (request.integer 3 1).bmod 4294967296

/-- How many rows to send; 0 for all that are left. -/
def maxrows : Nat := if 0 < request.nrows then request.nrows.toNat else 0

end Request

inductive Answer (Row : Type u) where
  | error (number : Nat) (text : List Byte)
  /-- The error of the query. -/
  | failed
  /-- The rows, and the count of the token behind them. -/
  | done (sent : List Row) (count : Nat)
  /-- Rows without end. -/
  | unfinished

/-- What `rows` leaves: the rows it sent and counted, and those it kept. -/
structure Sent (Row : Type u) (State : Type v) where
  rows : List Row
  rowcount : Nat
  position : List Row
  controller : Controller Row State

/-- What `fetchCursorStatement` leaves: its return value and `*unsupported`. -/
structure Moved (Row : Type u) (State : Type v) where
  ok : Bool
  unsupported : Bool
  session : Session Row State

variable {Row : Type u} {State : Type v} {numbers : Numbers}

/-- `newRow` and `setField`: a row is kept while there is room for it. -/
def keepRow (position : List Row) (row : Row) : List Row :=
  if cursorMaxPositionRows ≤ position.length then position else position ++ [row]

/-- `rows`, from a count on; a row that cannot be fetched ends the rows, whatever the reason. -/
def rows (maxrows : Nat) : Nat → Nat → List Row → Controller Row State → Option (Sent Row State)
  | 0, _, _, _ => none
  | fuel + 1, rowcount, position, controller =>
      if maxrows ≠ 0 ∧ rowcount = maxrows then some ⟨[], rowcount, position, controller⟩
      else
        let fetched := controller.fetchRow
        if fetched.ok then
          let row := fetched.controller.fields
          (rows maxrows fuel (rowcount + 1) (keepRow position row) fetched.controller.nextRow).map
            fun sent => { sent with rows := row :: sent.rows }
        else some ⟨[], rowcount, position, fetched.controller⟩

namespace Session

variable (result : ResultSet Row)

/-- The query is run, if it has not been; its rows are counted anew in any case. -/
def execute (session : Session Row State) (executes : Bool) : Bool × Session Row State :=
  if session.executeflag then
    if executes then
      (true, { session with
        controller := session.controller.execute result.rows result.ending
        executeflag := false })
    else (false, { session with controller := { session.controller with totalRowsFetched := 0 } })
  else (true, session)

/-- `fetchCursorStatement` -/
def fetchCursorStatement (session : Session Row State) (executes : Bool) (fetchtype : Nat)
    (rownum : Int) : Moved Row State :=
  let ran := session.execute result executes
  if ran.1 then
    if fetchtype = cursorFetchFirst ∨ fetchtype = cursorFetchNext ∨ fetchtype = cursorFetchInfo then
      ⟨true, false, ran.2⟩
    else if fetchtype = cursorFetchRelative ∧ 0 < rownum then
      -- neither what `skipRows` returns nor its `*error` is looked at
      ⟨true, false, { ran.2 with
        controller := (ran.2.controller.skipRows false rownum.toNat).controller }⟩
    else ⟨true, true, ran.2⟩
  else ⟨false, false, ran.2⟩

/-- The rows are sent and kept. -/
def sendRows (fuel maxrows : Nat) (session : Session Row State) : Answer Row × Session Row State :=
  if result.colCount ≠ 0 then
    match rows maxrows fuel 0 [] session.controller with
    | some sent => (.done sent.rows sent.rowcount, { session with
        controller := sent.controller
        position := some sent.position })
    | none => (.unfinished, session)
  else (.done [] 0, session)

/-- `cursorFetch` -/
def cursorFetch (fuel : Nat) (session : Session Row State) (request : Request numbers) :
    Answer Row × Session Row State :=
  if request.handle = session.handle then
    let moved := session.fetchCursorStatement result request.executes request.fetchtype
      request.rownum
    if moved.ok then
      if moved.unsupported then
        (.error rpcFetchUnsupported (ascii "Only forward-only cursors are supported"), moved.session)
      else if request.fetchtype = cursorFetchInfo then (.done [] 0, moved.session)
      else moved.session.sendRows result fuel request.maxrows
    else (.failed, moved.session)
  else (.error rpcNoSuchCursor (ascii "Invalid cursor handle " ++ Foundation.digits request.handle),
    session)

/-- A call of the client. -/
def step (fuel : Nat) (session : Session Row State) (request : Request numbers) :
    Session Row State :=
  (session.cursorFetch result fuel request).2

end Session

/-! ## The rows that a fetch names -/

/-- How many rows of the result set are before the one the cursor stands at. -/
def Session.current (session : Session Row State) : Nat :=
  if session.executeflag then 0 else session.controller.totalRowsFetched

namespace Request

variable (request : Request numbers) (result : ResultSet Row)

/-- Where the rows start, for a cursor that stands at a row. -/
def start (current : Nat) : Option Nat :=
  if request.fetchtype = cursorFetchFirst then some 0
  else if request.fetchtype = cursorFetchNext then some current
  else if request.fetchtype = cursorFetchRelative ∧ 0 < request.rownum then
    some (current + request.rownum.toNat)
  else none

/-- Where they stop. -/
def stop (start : Nat) : Nat :=
  if request.maxrows = 0 then result.rows.length
  else min (start + request.maxrows) result.rows.length

/-- The database has the rows: none that is asked for, or that is skipped, fails. -/
def Has (start : Nat) : Prop :=
  request.maxrows ≠ 0 ∧ start + request.maxrows ≤ result.rows.length ∨ result.ending = .endOfData

/-- A cursor that goes forward can serve the fetch. -/
def Serves (current start : Nat) : Prop :=
  request.start current = some start ∧ current ≤ start ∧ request.Has result start

end Request

section Right

variable (setting : Setting Row State) (result : ResultSet Row)
variable (before : Session Row State) (request : Request numbers) (after : Session Row State)

/-- The cursor stands where it stood, and the rows of the last fetch are kept. -/
def Unmoved : Prop := after.current = before.current ∧ after.position = before.position

/-- The rows from the start on have been sent and kept, and the cursor stands behind them. -/
def Delivered (start : Nat) (sent : List Row) : Prop :=
  sent.map some =
      (List.range' start (request.stop result start - start)).map (setting.delivered result.rows) ∧
    after.current = request.stop result start ∧
    after.position =
      if result.colCount = 0 then before.position else some (sent.take cursorMaxPositionRows)

/-- What is right as an answer to a fetch.  A fetch that can be served is served, and any other is refused
and leaves the cursor where it is. -/
def Right : Answer Row → Prop
  | .error _ _ =>
      Unmoved before after ∧ (request.handle = before.handle →
        request.fetchtype ≠ cursorFetchInfo ∧ ∀ start, ¬ request.Serves result before.current start)
  | .failed => Unmoved before after ∧ before.executeflag = true ∧ request.executes = false
  | .done sent count => count = sent.length ∧
      (request.fetchtype = cursorFetchInfo ∧ sent = [] ∧ Unmoved before after ∨
        ∃ start, request.Serves result before.current start ∧
          Delivered setting result before request after start sent)
  | .unfinished => False

/-- If the fetch comes to the rows that it names, they are ahead, the database has them, the row block
translations let the cursor come to them, and the row translations accept them. -/
def Ahead : Prop :=
  request.handle = before.handle → (before.executeflag = true → request.executes = true) →
  ∀ start, request.start before.current = some start →
    before.current ≤ start ∧ request.Has result start ∧
      setting.FailsAtBlockStart result.rows result.ending ∧
      setting.CanSkip result.rows before.current (start - before.current) ∧
      ∀ index, start ≤ index → index < request.stop result start →
        (setting.delivered result.rows index).isSome

end Right

/-- A fetch that is answered with rows is one that can be served. -/
theorem Right.serves {setting : Setting Row State} {result : ResultSet Row}
    {before after : Session Row State} {request : Request numbers} {sent : List Row} {count : Nat}
    (right : Right setting result before request after (.done sent count))
    (rows : request.fetchtype ≠ cursorFetchInfo) :
    ∃ start, request.Serves result before.current start := by
  obtain ⟨info, -⟩ | ⟨start, serves, -⟩ := right.2
  · exact absurd info rows
  · exact ⟨start, serves⟩

/-! ## The rows that are sent -/

theorem foldl_keepRow (position sent : List Row) (within : position.length ≤ cursorMaxPositionRows) :
    sent.foldl keepRow position =
      position ++ sent.take (cursorMaxPositionRows - position.length) := by
  induction sent generalizing position with
  | nil => simp
  | cons row sent ih =>
      rw [List.foldl_cons, keepRow]
      split
      case isTrue full =>
        rw [ih position within, Nat.sub_eq_zero_of_le full, List.take_zero, List.take_zero]
      case isFalse room =>
        obtain ⟨left, left_eq⟩ : ∃ left, cursorMaxPositionRows - position.length = left + 1 :=
          Nat.exists_eq_succ_of_ne_zero (by omega)
        rw [ih (position ++ [row]) (by simp; omega), List.length_append, List.length_singleton,
          left_eq, List.take_succ_cons, List.append_assoc, List.singleton_append,
          show cursorMaxPositionRows - (position.length + 1) = left by omega]

section Rows

variable {setting : Setting Row State} {result : ResultSet Row} {controller : Controller Row State}

/-- The rows up to a stop are sent: the last one that may be, or the last one there is. -/
theorem rows_inStep {maxrows stop : Nat} (remaining fuel rowcount : Nat) (position : List Row)
    (inStep : controller.InStep setting result.rows result.ending) (sound : setting.Sound)
    (aligned : setting.FailsAtBlockStart result.rows result.ending)
    (stop_eq : controller.totalRowsFetched + remaining = stop)
    (enough : remaining < fuel)
    (stops : maxrows ≠ 0 ∧ rowcount + remaining = maxrows ∧ stop ≤ result.rows.length ∨
      (maxrows = 0 ∨ rowcount + remaining < maxrows) ∧ stop = result.rows.length ∧
        result.ending = .endOfData)
    (accepted : ∀ index, controller.totalRowsFetched ≤ index → index < stop →
      (setting.delivered result.rows index).isSome) :
    ∃ sent, ∃ left : Controller Row State,
      rows maxrows fuel rowcount position controller =
        some ⟨sent, rowcount + sent.length, sent.foldl keepRow position, left⟩ ∧
      sent.map some =
        (List.range' controller.totalRowsFetched remaining).map (setting.delivered result.rows) ∧
      left.totalRowsFetched = stop ∧ left.InStep setting result.rows result.ending := by
  induction remaining generalizing fuel rowcount position controller with
  | zero =>
      obtain ⟨fuel, rfl⟩ := Nat.exists_eq_succ_of_ne_zero (Nat.ne_zero_of_lt enough)
      rw [rows]
      rcases stops with ⟨some_rows, full, within⟩ | ⟨more, atEnd, ending⟩
      · rw [if_pos ⟨some_rows, full⟩]
        exact ⟨[], controller, rfl, rfl, stop_eq, inStep⟩
      · rw [if_neg (by omega)]
        obtain ⟨reached, fetches, total, inStep⟩ :=
          inStep.fetchRow_end sound aligned (stop_eq.trans atEnd)
        simp only [fetches, Bool.false_eq_true, if_false]
        exact ⟨[], reached, rfl, rfl, total.trans atEnd.symm, inStep ending⟩
  | succ remaining ih =>
      obtain ⟨fuel, rfl⟩ := Nat.exists_eq_succ_of_ne_zero (Nat.ne_zero_of_lt enough)
      have inside : controller.totalRowsFetched < result.rows.length := by omega
      obtain ⟨reached, fetches, fields, total, next⟩ :=
        inStep.fetchRow_inside sound aligned inside (accepted _ le_rfl (by omega))
      have counted : reached.nextRow.totalRowsFetched = controller.totalRowsFetched + 1 := total
      obtain ⟨sent, left, sends, same, stands, inStep⟩ :=
        ih fuel (rowcount + 1) (keepRow position reached.fields) next (by omega) (by omega)
          (by rwa [Nat.add_assoc, Nat.add_comm 1])
          (fun index low high => accepted index (by omega) high)
      refine ⟨reached.fields :: sent, left, ?_, ?_, stands, inStep⟩
      · rw [rows, if_neg (by omega)]
        simp only [fetches, if_true, sends, Option.map_some, List.length_cons, List.foldl_cons]
        rw [Nat.add_assoc, Nat.add_comm 1]
      · rw [List.map_cons, same, counted, List.range'_succ, List.map_cons, fields]

/-- Where the rows stop, from where the cursor comes to stand once the rows before them are skipped. -/
theorem Request.Has.stops {request : Request numbers} {start : Nat}
    (has : request.Has result start) :
    min start result.rows.length + (request.stop result start - start) = request.stop result start ∧
    (request.maxrows ≠ 0 ∧ 0 + (request.stop result start - start) = request.maxrows ∧
        request.stop result start ≤ result.rows.length ∨
      (request.maxrows = 0 ∨ 0 + (request.stop result start - start) < request.maxrows) ∧
        request.stop result start = result.rows.length ∧ result.ending = .endOfData) := by
  rw [Request.stop]
  split
  case isTrue all =>
    have ending := has.resolve_left (fun within => within.1 all)
    exact ⟨by omega, Or.inr ⟨Or.inl all, rfl, ending⟩⟩
  case isFalse limited =>
    refine ⟨by omega, ?_⟩
    rcases Nat.lt_or_ge result.rows.length (start + request.maxrows) with beyond | within
    · have ending := has.resolve_left (fun within => by omega)
      exact Or.inr ⟨Or.inr (by omega), by omega, ending⟩
    · exact Or.inl ⟨limited, by omega, by omega⟩

/-- From where the rows before them are skipped, the rows that the fetch names are sent and kept. -/
theorem Session.sendRows_inStep {request : Request numbers} {session : Session Row State}
    {start fuel : Nat} (ran : session.executeflag = false)
    (inStep : session.controller.InStep setting result.rows result.ending) (sound : setting.Sound)
    (aligned : setting.FailsAtBlockStart result.rows result.ending)
    (stands : session.controller.totalRowsFetched = min start result.rows.length)
    (has : request.Has result start)
    (accepted : ∀ index, start ≤ index → index < request.stop result start →
      (setting.delivered result.rows index).isSome)
    (enough : result.rows.length < fuel) :
    ∃ sent, ∃ after : Session Row State,
      session.sendRows result fuel request.maxrows = (.done sent sent.length, after) ∧
      Delivered setting result session request after start sent ∧
      after.handle = session.handle ∧ after.executeflag = false ∧
      after.controller.InStep setting result.rows result.ending := by
  obtain ⟨reaches, stops⟩ := has.stops
  have within : request.stop result start ≤ result.rows.length := by
    rcases stops with limited | atEnd
    · exact limited.2.2
    · exact atEnd.2.1.le
  rw [sendRows]
  by_cases bare : result.colCount = 0
  · have none_left : result.rows.length = 0 := by rw [(result.bare bare).1, List.length_nil]
    rw [if_neg (not_not.mpr bare)]
    refine ⟨[], session, rfl, ⟨?_, ?_, ?_⟩, rfl, ran, inStep⟩
    · rw [show request.stop result start - start = 0 by omega]
      rfl
    · rw [current, ran, if_neg Bool.false_ne_true]
      omega
    · rw [if_pos bare]
  · rw [if_pos bare]
    obtain ⟨sent, left, sends, same, leaves, inStep⟩ :=
      rows_inStep (request.stop result start - start) fuel 0 [] inStep sound aligned
        (by rw [stands, reaches]) (by omega) stops
        (fun index low high => accepted index (by omega) high)
    refine ⟨sent, { session with controller := left, position := some (sent.foldl keepRow []) },
      ?_, ⟨?_, ?_, ?_⟩, rfl, ran, inStep⟩
    · simp only [sends, Nat.zero_add]
    · rw [same, stands]
      rcases Nat.le_total start result.rows.length with inside | behind
      · rw [Nat.min_eq_left inside]
      · rw [show request.stop result start - start = 0 by omega]
        rfl
    · rw [current, if_neg (by simp [ran])]
      exact leaves
    · rw [if_neg bare, foldl_keepRow [] sent (Nat.zero_le _)]
      rfl

end Rows

/-! ## One fetch -/

/-- Between fetches: before the query has run nothing was read, and after that the cursor is in step. -/
def Session.InStep (setting : Setting Row State) (result : ResultSet Row)
    (session : Session Row State) : Prop :=
  if session.executeflag then session.controller.Fresh setting
  else session.controller.InStep setting result.rows result.ending

section Fetch

variable {setting : Setting Row State} {result : ResultSet Row} {session : Session Row State}
variable {request : Request numbers} {fuel : Nat}

/-- A query that runs leaves the cursor before the first row, and one that ran already where it is. -/
theorem Session.execute_ran {executes : Bool} (inStep : session.InStep setting result)
    (runs : session.executeflag = true → executes = true) :
    ∃ after : Session Row State, session.execute result executes = (true, after) ∧
      after.executeflag = false ∧ after.controller.InStep setting result.rows result.ending ∧
      after.controller.totalRowsFetched = session.current ∧ after.position = session.position := by
  rw [InStep] at inStep
  rw [execute, current]
  cases pending : session.executeflag with
  | false =>
      rw [if_neg (by simp [pending])] at inStep
      exact ⟨session, rfl, pending, inStep, rfl, rfl⟩
  | true =>
      rw [if_pos pending] at inStep
      rw [runs pending]
      exact ⟨_, rfl, rfl, inStep.execute_inStep result.rows result.ending, rfl, rfl⟩

/-- A query that fails has yet to run. -/
theorem Session.execute_failed (inStep : session.InStep setting result)
    (pending : session.executeflag = true) :
    ∃ after : Session Row State, session.execute result false = (false, after) ∧
      Unmoved session after ∧ after.InStep setting result := by
  rw [InStep, if_pos pending] at inStep
  refine ⟨{ session with controller := { session.controller with totalRowsFetched := 0 } },
    ?_, ⟨?_, rfl⟩, ?_⟩
  · rw [execute, if_pos pending, if_neg Bool.false_ne_true]
  · rw [current, current, if_pos pending, if_pos pending]
  · rw [InStep, if_pos pending]
    exact ⟨inStep.reformatRow, inStep.stays, inStep.blocks, inStep.modules⟩

/-- A fetch type that is served is one that names where its rows start, and the rows before them are
skipped. -/
theorem Session.fetchCursorStatement_served {executes : Bool} {start : Nat} {ran : Session Row State}
    (executed : session.execute result executes = (true, ran))
    (inStep : ran.controller.InStep setting result.rows result.ending) (sound : setting.Sound)
    (aligned : setting.FailsAtBlockStart result.rows result.ending)
    (names : request.start ran.controller.totalRowsFetched = some start)
    (ahead : ran.controller.totalRowsFetched ≤ start) (has : request.Has result start)
    (canSkip : setting.CanSkip result.rows ran.controller.totalRowsFetched
      (start - ran.controller.totalRowsFetched)) :
    ∃ skipped : Controller Row State,
      session.fetchCursorStatement result executes request.fetchtype request.rownum =
        ⟨true, false, { ran with controller := skipped }⟩ ∧
      request.fetchtype ≠ cursorFetchInfo ∧
      skipped.totalRowsFetched = min start result.rows.length ∧
      skipped.InStep setting result.rows result.ending := by
  have inside := inStep.inside
  rw [fetchCursorStatement, executed]
  rw [Request.start] at names
  split at names
  case isTrue first =>
    obtain rfl := Option.some.inj names
    refine ⟨ran.controller, ?_, by rw [first]; decide, by omega, inStep⟩
    simp only [if_true, first, true_or]
  split at names
  case isTrue next =>
    obtain rfl := Option.some.inj names
    refine ⟨ran.controller, ?_, by rw [next]; decide, by omega, inStep⟩
    simp only [if_true, next, true_or, or_true]
  split at names
  case isTrue relative =>
    obtain rfl := Option.some.inj names
    rw [Nat.add_sub_cancel_left] at canSkip
    have within : ran.controller.totalRowsFetched + request.rownum.toNat ≤ result.rows.length ∨
        result.ending = .endOfData :=
      has.imp_left fun limited => by omega
    obtain ⟨skipped, skips, total, inStep⟩ :=
      inStep.skipRows sound aligned false request.rownum.toNat canSkip within
    have no_other : ¬ (cursorFetchRelative = cursorFetchFirst ∨
        cursorFetchRelative = cursorFetchNext ∨ cursorFetchRelative = cursorFetchInfo) := by decide
    refine ⟨skipped, ?_, by rw [relative.1]; decide, total, inStep⟩
    simp only [if_true, relative, if_neg no_other, and_self, skips]
  case isFalse => cases names

/-- A fetch type that names no rows is refused once the query ran. -/
theorem Session.fetchCursorStatement_refused {executes : Bool} {ran : Session Row State}
    {current : Nat} (executed : session.execute result executes = (true, ran))
    (names : request.start current = none) (rows : request.fetchtype ≠ cursorFetchInfo) :
    session.fetchCursorStatement result executes request.fetchtype request.rownum =
      ⟨true, true, ran⟩ := by
  rw [Request.start] at names
  split at names
  case isTrue => cases names
  split at names
  case isTrue => cases names
  split at names
  case isTrue => cases names
  case isFalse first next relative =>
    rw [fetchCursorStatement, executed]
    simp only [if_true, first, next, rows, or_self, if_false, if_neg relative]

theorem Session.fetchCursorStatement_info {executes : Bool} {ran : Session Row State}
    (executed : session.execute result executes = (true, ran)) (rownum : Int) :
    session.fetchCursorStatement result executes cursorFetchInfo rownum = ⟨true, false, ran⟩ := by
  rw [fetchCursorStatement, executed]
  simp only [if_true, or_true]

/-- A fetch of rows that are ahead, on a cursor whose query ran or runs. -/
theorem Session.cursorFetch_ran (inStep : session.InStep setting result) (sound : setting.Sound)
    (enough : result.rows.length < fuel) (handle_eq : request.handle = session.handle)
    (runs : session.executeflag = true → request.executes = true)
    (ahead : Ahead setting result session request) :
    Right setting result session request (session.cursorFetch result fuel request).2
        (session.cursorFetch result fuel request).1 ∧
      (session.cursorFetch result fuel request).2.InStep setting result := by
  obtain ⟨ran, executed, flag, ranInStep, total, kept⟩ := execute_ran inStep runs
  have unmoved : Unmoved session ran := by
    refine ⟨?_, kept⟩
    rw [current, if_neg (by simp [flag]), total]
  have stays : ran.InStep setting result := by
    rwa [InStep, if_neg (by simp [flag])]
  rw [cursorFetch, if_pos handle_eq]
  by_cases info : request.fetchtype = cursorFetchInfo
  · simp only [info, fetchCursorStatement_info executed, if_true, Bool.false_eq_true, if_false]
    exact ⟨⟨rfl, Or.inl ⟨info, rfl, unmoved⟩⟩, stays⟩
  cases names : request.start session.current with
  | none =>
      simp only [fetchCursorStatement_refused executed names info, if_true]
      refine ⟨⟨unmoved, fun _ => ⟨info, ?_⟩⟩, stays⟩
      intro start serves
      rw [Request.Serves, names] at serves
      cases serves.1
  | some start =>
      obtain ⟨behind, has, aligned, canSkip, accepted⟩ := ahead handle_eq runs start names
      have serves : request.Serves result session.current start := ⟨names, behind, has⟩
      rw [← total] at names behind canSkip
      obtain ⟨skipped, moves, rows, stands, skippedInStep⟩ := fetchCursorStatement_served executed
        ranInStep sound aligned names behind has canSkip
      obtain ⟨sent, after, sends, delivered, same, ran, inStep⟩ :=
        @sendRows_inStep _ _ _ _ _ request { ran with controller := skipped } start fuel flag
          skippedInStep sound aligned stands has accepted enough
      simp only [moves, if_true, Bool.false_eq_true, if_false, if_neg info, sends]
      refine ⟨⟨rfl, Or.inr ⟨start, serves, delivered.1, delivered.2.1, ?_⟩⟩, ?_⟩
      · rw [delivered.2.2]
        simp only [kept]
      · rwa [InStep, if_neg (by simp [ran])]

/-- Every fetch of rows that are ahead is answered right. -/
theorem Session.cursorFetch_right (inStep : session.InStep setting result) (sound : setting.Sound)
    (enough : result.rows.length < fuel) (ahead : Ahead setting result session request) :
    Right setting result session request (session.cursorFetch result fuel request).2
        (session.cursorFetch result fuel request).1 ∧
      (session.cursorFetch result fuel request).2.InStep setting result := by
  by_cases handle_eq : request.handle = session.handle
  · by_cases runs : session.executeflag = true → request.executes = true
    · exact cursorFetch_ran inStep sound enough handle_eq runs ahead
    · rw [Classical.not_imp, Bool.not_eq_true] at runs
      obtain ⟨after, failed, unmoved, inStep⟩ := execute_failed inStep runs.1
      rw [cursorFetch, if_pos handle_eq]
      simp only [fetchCursorStatement, runs.2, failed, Bool.false_eq_true, if_false]
      exact ⟨⟨unmoved, runs.1, runs.2⟩, inStep⟩
  · rw [cursorFetch, if_neg handle_eq]
    exact ⟨⟨⟨rfl, rfl⟩, fun same => absurd same handle_eq⟩, inStep⟩

end Fetch

/-! ## Every run -/

/-- A cursor that was opened: with its query, or to run it at the first fetch. -/
def Session.opened (result : ResultSet Row) (handle : Nat) (controller : Controller Row State)
    (position : Option (List Row)) (executed : Bool) : Session Row State :=
  if executed then ⟨handle, false, controller.execute result.rows result.ending, position⟩
  else ⟨handle, true, controller, position⟩

theorem Session.opened_inStep {setting : Setting Row State} {controller : Controller Row State}
    (fresh : controller.Fresh setting) (result : ResultSet Row) (handle : Nat)
    (position : Option (List Row)) (executed : Bool) :
    (opened result handle controller position executed).InStep setting result := by
  cases executed with
  | false => exact fresh
  | true => exact fresh.execute_inStep result.rows result.ending

/-- In a run whose fetches name rows that are ahead, every fetch is answered right. -/
theorem fetches (numbers : Numbers) (setting : Setting Row State) (result : ResultSet Row)
    (handle : Nat) (controller : Controller Row State) (position : Option (List Row))
    (executed : Bool) (fuel : Nat) (requests : List (Request numbers)) (sound : setting.Sound)
    (fresh : controller.Fresh setting) (enough : result.rows.length < fuel)
    (ahead : Along (Session.step result fuel) (Ahead setting result)
      (.opened result handle controller position executed) requests) :
    Along (Session.step result fuel)
      (fun session request => Right setting result session request
        (session.cursorFetch result fuel request).2 (session.cursorFetch result fuel request).1)
      (.opened result handle controller position executed) requests := by
  have keeps : ∀ (session : Session Row State) (request : Request numbers),
      session.InStep setting result → Ahead setting result session request →
      (session.step result fuel request).InStep setting result :=
    fun session request inStep ahead =>
      (Session.cursorFetch_right inStep sound enough ahead).2
  have answers : ∀ (session : Session Row State) (request : Request numbers),
      session.InStep setting result → Ahead setting result session request →
      Right setting result session request (session.cursorFetch result fuel request).2
        (session.cursorFetch result fuel request).1 :=
    fun session request inStep ahead =>
      (Session.cursorFetch_right inStep sound enough ahead).1
  exact Along.of_guard keeps answers
    (Session.opened_inStep fresh result handle position executed) ahead

/-- Rows that go to the client as the database has them. -/
def plain : Setting Nat Unit := ⟨none, [], some, false⟩

def plainController : Controller Nat Unit := ⟨none, some, ⟨[], false⟩, 0, 0⟩

theorem plain_sound : plain.Sound := by
  intro size given
  cases given

theorem plainController_fresh : plainController.Fresh plain where
  reformatRow := rfl
  stays := rfl
  blocks := rfl
  modules := by
    intro translations given
    cases given

/-- Without translations all rows that the database has can be fetched. -/
theorem plain_ahead {result : ResultSet Nat} (ending : result.ending = .endOfData)
    (session : Session Nat Unit) (request : Request numbers)
    (ahead : ∀ start ∈ request.start session.current, session.current ≤ start) :
    Ahead plain result session request := by
  intro handle_eq runs start names
  refine ⟨ahead start names, Or.inr ending, ?_, ?_, ?_⟩
  · intro size given
    cases given
  · intro size given
    cases given
  · intro index _ before
    have inside : index < result.rows.length := by
      rw [Request.stop] at before
      split at before <;> omega
    have delivered : plain.delivered result.rows index = result.rows[index]? := Option.bind_fun_some _
    rw [delivered, List.getElem?_eq_getElem inside]
    rfl

/-- Numbers of a client that sends no doubles and no text. -/
def wholeNumbers : Numbers where
  Double := Int64
  isInteger := fun text => text.all fun digit => chr '0' ≤ digit ∧ digit ≤ chr '9'
  convertToInteger := fun text => Int64.ofNat (text.foldl (fun value digit =>
    10 * value + (digit.toNat - 48)) 0)
  convertToFloat := fun text => Int64.ofNat (text.foldl (fun value digit =>
    10 * value + (digit.toNat - 48)) 0)
  parseNumber := fun value => printInteger value.toInt
  truncate := fun value => value

def call (integers : List Int64) : Request wholeNumbers :=
  ⟨integers.map fun value => ⟨[], .integer value⟩, true⟩

def fiveRows : ResultSet Nat := ⟨1, [10, 20, 30, 40, 50], .endOfData, fun bare => absurd bare (by decide)⟩

/-- The next two rows, a row further on, the row before, and the rows that are left. -/
theorem fetches_fiveRows :
    Along (Session.step fiveRows 6)
      (fun session request => Right plain fiveRows session request
        (session.cursorFetch fiveRows 6 request).2 (session.cursorFetch fiveRows 6 request).1)
      (.opened fiveRows 3 plainController none false)
      [call [3, 2, 0, 2], call [3, 0x20, 1, 1], call [3, 4], call [3, 0x100], call [3, 2, 0, 0]] := by
  apply fetches wholeNumbers plain fiveRows 3 plainController none false 6 _ plain_sound
    plainController_fresh (by decide)
  have ahead : Along (Session.step fiveRows 6)
      (fun session request => ∀ start ∈ request.start session.current, session.current ≤ start)
      (.opened fiveRows 3 plainController none false)
      [call [3, 2, 0, 2], call [3, 0x20, 1, 1], call [3, 4], call [3, 0x100],
        call [3, 2, 0, 0]] := by
    decide +kernel
  exact ahead.mono fun session request => plain_ahead rfl session request

/-- The first row can be fetched, and behind it the fetch fails. -/
def brokenRows : ResultSet Nat :=
  ⟨1, [10], .failure [.row 30, .row 40], fun bare => absurd bare (by decide)⟩

/-- A fetch of the first two rows behind a fetch of two rows has the third and the fourth; and where
skipping two rows fails, the rows from there on are the answer. -/
theorem not_fetches :
    ¬ Along (Session.step fiveRows 6)
      (fun session request => Right plain fiveRows session request
        (session.cursorFetch fiveRows 6 request).2 (session.cursorFetch fiveRows 6 request).1)
      (.opened fiveRows 3 plainController none true) [call [3, 2, 0, 2], call [3, 1, 0, 2]] ∧
    ¬ Along (Session.step brokenRows 6)
      (fun session request => Right plain brokenRows session request
        (session.cursorFetch brokenRows 6 request).2 (session.cursorFetch brokenRows 6 request).1)
      (.opened brokenRows 3 plainController none true) [call [3, 0x20, 2, 1]] := by
  constructor
  · intro right
    have served := (right.2.1 : Right plain fiveRows
      (Session.step fiveRows 6 (.opened fiveRows 3 plainController none true) (call [3, 2, 0, 2]))
      (call [3, 1, 0, 2]) _ (.done [30, 40] 2))
    obtain ⟨start, names, ahead, has⟩ := served.serves (by decide +kernel)
    have first : start = 0 := (Option.some.inj names).symm
    rw [first] at ahead
    exact absurd ahead (by decide +kernel)
  · intro right
    have served := (right.1 : Right plain brokenRows
      (.opened brokenRows 3 plainController none true) (call [3, 0x20, 2, 1]) _ (.done [30] 1))
    obtain ⟨start, names, ahead, has⟩ := served.serves (by decide +kernel)
    have third : start = 2 := (Option.some.inj names).symm
    rw [third] at has
    rcases has with within | ending
    · exact absurd within.2 (by decide +kernel)
    · cases ending

end SqlRelay.Tds.CursorFetch
