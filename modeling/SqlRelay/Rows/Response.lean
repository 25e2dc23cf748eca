import SqlRelay.Rows.Delivery

/-!
# The rows of a response

`returnResultSetData` of the client protocol: rows are skipped and fetched as the
client asks, and the response ends in the end of the result set or in an error.  A
failure of the database that a fetch meets is sent as an error behind the rows read
before it.
-/

namespace SqlRelay.Rows

open SqlRelay.Foundation

universe u v

variable {Row : Type u} {State : Type v}

/-- What is written to the client. -/
inductive Message (Row : Type u) where
  | row (fields : Row)
  | endResultSet
  | fetchError
  deriving DecidableEq, Repr

/-- What the client asks for; to fetch no rows means all. -/
structure Request where
  skip : Nat
  fetch : Nat

/-- What is fixed while a result set is returned. -/
structure Protocol where
  protocolversion : Nat
  lazyfetch : Bool
  overridelazyfetch : Bool
  noRowsToReturn : Bool

/-- What was written, the `error` that the loop was left with (if it was left), and the
controller. -/
structure Response (Row : Type u) (State : Type v) where
  sent : List (Message Row)
  ended : Option Bool
  controller : Controller Row State

/-- The loop that sends rows, for so many rounds. -/
def returnRows (protocol : Protocol) : Nat → Controller Row State → Response Row State
  | 0, controller => ⟨[], none, controller⟩
  | rounds + 1, controller =>
      let report := controller.fetchRow
      if report.ok then
        let later := returnRows protocol rounds report.controller.nextRow
        { later with sent := .row report.controller.fields :: later.sent }
      else
        ⟨[if report.error && 2 ≤ protocol.protocolversion then .fetchError else .endResultSet],
          some report.error, report.controller⟩

/-- `returnResultSetData`; a loop without a limit is followed for `bound` rounds. -/
def returnResultSetData (protocol : Protocol) (bound : Nat) (request : Request)
    (controller : Controller Row State) : Response Row State :=
  if !protocol.lazyfetch || protocol.overridelazyfetch then
    if protocol.noRowsToReturn then ⟨[.endResultSet], some false, controller⟩
    else
      let skipped := controller.skipRows false request.skip
      if skipped.ok then
        returnRows protocol (if request.fetch = 0 then bound else request.fetch)
          skipped.controller
      else if skipped.error then ⟨[.fetchError], some true, skipped.controller⟩
      else ⟨[.endResultSet], some false, skipped.controller⟩
  else ⟨[], none, controller⟩

/-- The rows of a stretch of the result set, as they are handed out. -/
def Setting.stretch (setting : Setting Row State) (rows : List Row) (start count : Nat) :
    List (Message Row) :=
  ((List.range' start count).filterMap (setting.delivered rows)).map .row

/-- The row translations accept the rows of a stretch. -/
def Setting.Accepts (setting : Setting Row State) (rows : List Row) (start count : Nat) : Prop :=
  ∀ position, start ≤ position → position < start + count →
    (setting.delivered rows position).isSome

theorem Setting.stretch_succ {setting : Setting Row State} {rows : List Row} {start : Nat}
    {fields : Row} (first : setting.delivered rows start = some fields) (count : Nat) :
    setting.stretch rows start (count + 1) =
      .row fields :: setting.stretch rows (start + 1) count := by
  simp [stretch, List.range'_succ, first]

theorem Setting.Accepts.tail {setting : Setting Row State} {rows : List Row} {start count : Nat}
    (accepts : setting.Accepts rows start (count + 1)) :
    setting.Accepts rows (start + 1) count :=
  fun position after before => accepts position (by omega) (by omega)

section Rounds

variable {setting : Setting Row State} {rows : List Row} {ending : Ending Row}
variable {controller : Controller Row State}

/-- Rounds that the result set has rows for send them. -/
theorem returnRows_within (protocol : Protocol) (count : Nat)
    (inStep : controller.InStep setting rows ending) (sound : setting.Sound)
    (aligned : setting.FailsAtBlockStart rows ending)
    (within : controller.totalRowsFetched + count ≤ rows.length)
    (accepts : setting.Accepts rows controller.totalRowsFetched count) :
    ∃ reached,
      returnRows protocol count controller =
        ⟨setting.stretch rows controller.totalRowsFetched count, none, reached⟩ ∧
      reached.totalRowsFetched = controller.totalRowsFetched + count ∧
      reached.InStep setting rows ending := by
  induction count generalizing controller with
  | zero => exact ⟨controller, rfl, rfl, inStep⟩
  | succ count ih =>
      obtain ⟨fetched, fetches, delivered, total, behind⟩ :=
        inStep.fetchRow_inside sound aligned (by omega) (accepts _ le_rfl (by omega))
      have next : fetched.nextRow.totalRowsFetched = controller.totalRowsFetched + 1 := total
      obtain ⟨reached, returns, total', inStep'⟩ :=
        ih behind (by omega) (next ▸ accepts.tail)
      refine ⟨reached, ?_, by omega, inStep'⟩
      rw [Setting.stretch_succ delivered, ← next]
      simp only [returnRows, fetches, returns, if_true]

/-- The message behind the last row. -/
def endMessage (protocol : Protocol) (fails : Bool) : Message Row :=
  if fails && 2 ≤ protocol.protocolversion then .fetchError else .endResultSet

/-- Rounds beyond the last row send all rows and how they end. -/
theorem returnRows_to_end (protocol : Protocol) (rounds count : Nat)
    (inStep : controller.InStep setting rows ending) (sound : setting.Sound)
    (aligned : setting.FailsAtBlockStart rows ending)
    (reaches : controller.totalRowsFetched + count = rows.length)
    (enough : count < rounds)
    (accepts : setting.Accepts rows controller.totalRowsFetched count) :
    (returnRows protocol rounds controller).sent =
        setting.stretch rows controller.totalRowsFetched count ++
          [endMessage protocol ending.fails] ∧
      (returnRows protocol rounds controller).ended = some ending.fails := by
  induction count generalizing controller rounds with
  | zero =>
      obtain ⟨reached, fetches, -⟩ := inStep.fetchRow_end sound aligned reaches
      obtain ⟨left, rfl⟩ := Nat.exists_eq_succ_of_ne_zero (Nat.ne_of_gt enough)
      simp [returnRows, fetches, Setting.stretch, endMessage]
  | succ count ih =>
      obtain ⟨left, rfl⟩ := Nat.exists_eq_succ_of_ne_zero (Nat.ne_zero_of_lt enough)
      obtain ⟨fetched, fetches, delivered, total, behind⟩ :=
        inStep.fetchRow_inside sound aligned (by omega) (accepts _ le_rfl (by omega))
      have next : fetched.nextRow.totalRowsFetched = controller.totalRowsFetched + 1 := total
      obtain ⟨sent, ended⟩ :=
        ih left behind (by omega) (by omega) (next ▸ accepts.tail)
      rw [Setting.stretch_succ delivered, ← next]
      simp only [returnRows, fetches, sent, ended, if_true, List.cons_append, and_self]

/-- A request for rows that the result set has. -/
structure Request.Within (setting : Setting Row State) (rows : List Row)
    (controller : Controller Row State) (request : Request) : Prop where
  limited : request.fetch ≠ 0
  within : controller.totalRowsFetched + request.skip + request.fetch ≤ rows.length
  canSkip : setting.CanSkip rows controller.totalRowsFetched request.skip
  accepts : setting.Accepts rows (controller.totalRowsFetched + request.skip) request.fetch

/-- Rows are skipped and fetched for the client. -/
def Protocol.Fetches (protocol : Protocol) : Prop :=
  (!protocol.lazyfetch || protocol.overridelazyfetch) = true ∧ protocol.noRowsToReturn = false

/-- Rows that the result set has are skipped before any is sent. -/
theorem returnResultSetData_skipped {protocol : Protocol} (fetches : protocol.Fetches)
    (bound : Nat) {request : Request} (inStep : controller.InStep setting rows ending)
    (sound : setting.Sound) (aligned : setting.FailsAtBlockStart rows ending)
    (canSkip : setting.CanSkip rows controller.totalRowsFetched request.skip)
    (inside : controller.totalRowsFetched + request.skip ≤ rows.length) :
    ∃ skipped : Controller Row State,
      returnResultSetData protocol bound request controller =
        returnRows protocol (if request.fetch = 0 then bound else request.fetch) skipped ∧
      skipped.totalRowsFetched = controller.totalRowsFetched + request.skip ∧
      skipped.InStep setting rows ending := by
  obtain ⟨skipped, skips, total, behind⟩ :=
    inStep.skipRows sound aligned false request.skip canSkip (Or.inl inside)
  refine ⟨skipped, ?_, by rw [total, Nat.min_eq_left inside], behind⟩
  simp [returnResultSetData, fetches.1, fetches.2, skips, inside]

/-- What the client's requests make of the controller. -/
def serve (protocol : Protocol) (bound : Nat) (controller : Controller Row State)
    (request : Request) : Controller Row State :=
  (returnResultSetData protocol bound request controller).controller

theorem Request.Within.serve_inStep {protocol : Protocol} (fetches : protocol.Fetches)
    (bound : Nat) {request : Request} (sound : setting.Sound)
    (aligned : setting.FailsAtBlockStart rows ending)
    (inStep : controller.InStep setting rows ending)
    (within : request.Within setting rows controller) :
    (serve protocol bound controller request).InStep setting rows ending := by
  obtain ⟨skipped, returns, total, behind⟩ := returnResultSetData_skipped fetches bound inStep
    sound aligned within.canSkip (Nat.le_of_add_right_le within.within)
  obtain ⟨reached, sends, -, inStep'⟩ := returnRows_within protocol request.fetch behind sound
    aligned (total ▸ within.within) (total ▸ within.accepts)
  rw [serve, returns, if_neg within.limited, sends]
  exact inStep'

end Rounds

variable {setting : Setting Row State} {rows : List Row}

/-- A request that skips rows which the result set has, and whose fetches reach the end. -/
structure Request.Reaches (setting : Setting Row State) (rows : List Row) (bound : Nat)
    (controller : Controller Row State) (request : Request) : Prop where
  canSkip : setting.CanSkip rows controller.totalRowsFetched request.skip
  within : controller.totalRowsFetched + request.skip ≤ rows.length
  enough : rows.length - (controller.totalRowsFetched + request.skip) <
    if request.fetch = 0 then bound else request.fetch
  accepts : setting.Accepts rows (controller.totalRowsFetched + request.skip)
    (rows.length - (controller.totalRowsFetched + request.skip))

/-- A fetch that fails is reported as an error, behind the rows read before it; a client
of protocol version 1 is told that the rows end. -/
theorem failedFetch_ended (setting : Setting Row State) (controller : Controller Row State)
    (rows : List Row) (later : List (Answer Row)) (protocol : Protocol) (bound : Nat)
    (earlier : List Request) (request : Request) (fetches : protocol.Fetches)
    (sound : setting.Sound) (fresh : controller.Fresh setting)
    (aligned : setting.FailsAtBlockStart rows (.failure later))
    (within : Along (serve protocol bound) (Request.Within setting rows)
      (controller.execute rows (.failure later)) earlier)
    (reaches : request.Reaches setting rows bound
      (earlier.foldl (serve protocol bound) (controller.execute rows (.failure later)))) :
    let reached := earlier.foldl (serve protocol bound) (controller.execute rows (.failure later))
    let start := reached.totalRowsFetched + request.skip
    let response := returnResultSetData protocol bound request reached
    response.ended = some true ∧
      response.sent = setting.stretch rows start (rows.length - start) ++
        [if 2 ≤ protocol.protocolversion then .fetchError else .endResultSet] := by
  have keeps : ∀ (reached : Controller Row State) (request : Request),
      reached.InStep setting rows (.failure later) → request.Within setting rows reached →
        (serve protocol bound reached request).InStep setting rows (.failure later) :=
    fun reached request inStep within => within.serve_inStep fetches bound sound aligned inStep
  have inStep := Along.invariant keeps (fresh.execute_inStep rows (.failure later)) within
  obtain ⟨skipped, returns, total, behind⟩ := returnResultSetData_skipped fetches bound inStep
    sound aligned reaches.canSkip reaches.within
  obtain ⟨sent, ended⟩ := returnRows_to_end protocol _ _ behind sound aligned
    (by rw [total]; exact Nat.add_sub_of_le reaches.within) reaches.enough (total ▸ reaches.accepts)
  intro reached start response
  have response_eq : response = _ := returns
  rw [response_eq, sent, ended, total]
  simp [endMessage, Ending.fails, start, reached]

theorem pairs_turned_accepts {rows : List Nat} {start count : Nat}
    (inside : start + count ≤ rows.length) :
    (pairs [turned]).Accepts rows start count := by
  intro position _ before
  obtain ⟨row, row_eq⟩ := Option.isSome_iff_exists.mp
    ((Setting.translated_isSome pairs_turned_sound rows position).mpr (by omega))
  rw [Setting.delivered, row_eq]
  rfl

/-- One client in the middle of a block, and the fetch of the block behind the next. -/
theorem failedFetch_ended_turned :
    (returnResultSetData ⟨2, false, true, false⟩ 9 ⟨0, 0⟩
        (serve ⟨2, false, true, false⟩ 9
          ((pairing [turned]).execute [1, 2, 3, 4] (.failure [])) ⟨0, 1⟩)).sent =
      [.row 1, .row 4, .row 3, .fetchError] := by
  have ended := failedFetch_ended (pairs [turned]) (pairing [turned]) [1, 2, 3, 4] []
    ⟨2, false, true, false⟩ 9 [⟨0, 1⟩] ⟨0, 0⟩ ⟨rfl, rfl⟩ pairs_turned_sound
    pairing_turned_fresh
    (by
      intro size given _
      obtain rfl := Option.some.inj given
      rfl)
    ⟨⟨by decide, by decide, fun _ _ => Or.inl rfl, pairs_turned_accepts (by decide)⟩, trivial⟩
    ⟨fun _ _ => Or.inl rfl, by decide, by decide, pairs_turned_accepts (by decide)⟩
  exact ended.2

/-- What a response to a request whose skipping or fetching fails would be. -/
def Setting.wholeResponse (setting : Setting Row State) (rows : List Row) (skip : Nat) :
    List (Message Row) :=
  setting.stretch rows skip (rows.length - skip) ++ [.fetchError]

def unblocked : Setting Nat (List Nat) := ⟨none, [], some, false⟩

def unblocking : Controller Nat (List Nat) where
  translations := none
  reformatRow := some
  cursor := ⟨[], false⟩
  totalRowsFetched := 0
  fields := 0

/-- A failure that a client of version 1 meets, one that is met while a row is skipped, and
one in the middle of a block are not sent. -/
theorem not_failedFetch_ended :
    (returnResultSetData ⟨1, false, true, false⟩ 9 ⟨0, 0⟩
        (unblocking.execute [5] (.failure []))).sent ≠ unblocked.wholeResponse [5] 0 ∧
      (returnResultSetData ⟨2, false, true, false⟩ 9 ⟨2, 0⟩
        (unblocking.execute [5] (.failure []))).sent ≠ unblocked.wholeResponse [5] 2 ∧
      (returnResultSetData ⟨2, false, true, false⟩ 9 ⟨0, 0⟩
        ((pairing [turned]).execute [5] (.failure []))).sent ≠
          (pairs [turned]).wholeResponse [5] 0 := by
  decide

end SqlRelay.Rows
