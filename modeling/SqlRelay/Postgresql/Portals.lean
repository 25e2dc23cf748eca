import SqlRelay.Postgresql.Session
import SqlRelay.Rows.InStep

/-!
# Fetching from a portal

The first Execute after a Bind executes the query, and the ones behind that go on with its rows.  An
Execute with a limit is through with its rows at the limit or at the end of the result set, and the
handler answers both alike.
-/

namespace SqlRelay.Postgresql.Portals

open SqlRelay.Foundation
open SqlRelay.Rows (Answer Cursor Fetched)

universe u

variable {Row : Type u}

/-- What a client may be sent in answer to an Execute. -/
inductive Reply (Row : Type u) where
  | dataRow (row : Row)
  | commandComplete
  | portalSuspended
  | emptyQueryResponse
  | errorResponse
  deriving DecidableEq, Repr

/-- The cursor that a portal stands for, as the module and as the database know it. -/
structure Portal (Row : Type u) where
  contents : ServerCursor
  colcount : Nat
  cursor : Cursor Row

/-- A round of the loop that sends a row is one that the result set has fewer rows behind. -/
theorem length_ahead_lt {cursor fetched : Cursor Row} {row : Row}
    (fetches : cursor.fetchRow = (.row row, fetched)) :
    fetched.nextRow.ahead.length < cursor.ahead.length := by
  rcases cursor with ⟨ahead, stays⟩
  cases ahead with
  | nil => cases fetches
  | cons answer rest =>
      cases answer with
      | failure => cases fetches
      | row first =>
          rw [Cursor.fetchRow_row, Prod.mk.injEq] at fetches
          rw [← fetches.2, Cursor.nextRow_fetched]
          exact Nat.lt_succ_self _

/-- `sendResultSet`, with the number of rows that it has sent. -/
def sendResultSet (maxrows fetched : UInt32) (cursor : Cursor Row) : List (Reply Row) × Cursor Row :=
  match fetches : cursor.fetchRow with
  | (.failure, after) => ([.errorResponse], after)
  | (.endOfData, after) => ([.commandComplete], after)
  | (.row row, after) =>
      if maxrows ≠ 0 ∧ fetched + 1 = maxrows then ([.dataRow row, .commandComplete], after.nextRow)
      else
        let later := sendResultSet maxrows (fetched + 1) after.nextRow
        (.dataRow row :: later.1, later.2)
termination_by cursor.ahead.length
decreasing_by exact length_ahead_lt fetches

theorem sendResultSet_row (maxrows fetched : UInt32) {cursor after : Cursor Row} {row : Row}
    (fetches : cursor.fetchRow = (.row row, after)) :
    sendResultSet maxrows fetched cursor =
      if maxrows ≠ 0 ∧ fetched + 1 = maxrows then ([.dataRow row, .commandComplete], after.nextRow)
      else
        let later := sendResultSet maxrows (fetched + 1) after.nextRow
        (.dataRow row :: later.1, later.2) := by
  rw [sendResultSet]
  split
  case h_1 other => cases fetches.symm.trans other
  case h_2 other => cases fetches.symm.trans other
  case h_3 same =>
    cases fetches.symm.trans same
    rfl

theorem sendResultSet_endOfData (maxrows fetched : UInt32) {cursor after : Cursor Row}
    (fetches : cursor.fetchRow = (.endOfData, after)) :
    sendResultSet maxrows fetched cursor = ([.commandComplete], after) := by
  rw [sendResultSet]
  split
  case h_1 other => cases fetches.symm.trans other
  case h_2 same =>
    cases fetches.symm.trans same
    rfl
  case h_3 other => cases fetches.symm.trans other

/-- `sendQueryResult`, without a row description. -/
def sendQueryResult (maxrows : UInt32) (portal : Portal Row) : List (Reply Row) × Portal Row :=
  if portal.colcount ≠ 0 then
    let sent := sendResultSet maxrows 0 portal.cursor
    (sent.1, { portal with cursor := sent.2 })
  else ([.commandComplete], portal)

/-- The handler of an Execute.  `executed` is the result that the query has if it is executed, its
number of columns and its rows. -/
def Portal.execute (executed : Option (Nat × Cursor Row)) (portal : Portal Row) (maxrows : UInt32) :
    List (Reply Row) × Portal Row :=
  if portal.contents.executeflag then
    let portal := { portal with contents := { portal.contents with executeflag := false } }
    if Session.emptyQuery portal.contents.querybuffer then ([.emptyQueryResponse], portal)
    else
      match executed with
      | none => ([.errorResponse], portal)
      | some (colcount, cursor) =>
          sendQueryResult maxrows { portal with
            colcount := colcount
            cursor := cursor }
  else sendQueryResult maxrows portal

/-- The answers to Executes one after the other, each with its limit. -/
def Portal.run (executed : Option (Nat × Cursor Row)) : Portal Row → List UInt32 → List (List (Reply Row))
  | _, [] => []
  | portal, maxrows :: rest =>
      let answered := portal.execute executed maxrows
      answered.1 :: run executed answered.2 rest

/-! ## What is meant -/

section Meant

/-- The number of rows that an Execute may send: all that are left if there is no limit. -/
def room (maxrows : UInt32) (remaining : List Row) : Nat :=
  if maxrows = 0 then remaining.length else maxrows.toNat

/-- An Execute sends the rows that come next.  At its limit the portal is suspended, and if it gets to
the end before that, the command is complete. -/
def intendedReplies (maxrows : UInt32) (remaining : List Row) : List (Reply Row) :=
  (remaining.take (room maxrows remaining)).map .dataRow ++
    [if maxrows ≠ 0 ∧ maxrows.toNat ≤ remaining.length then .portalSuspended else .commandComplete]

def intendedRun : List UInt32 → List Row → List (List (Reply Row))
  | [], _ => []
  | maxrows :: rest, remaining =>
      intendedReplies maxrows remaining :: intendedRun rest (remaining.drop (room maxrows remaining))

/-- The rows among the answers. -/
def dataRows (replies : List (Reply Row)) : List Row :=
  replies.filterMap fun
    | .dataRow row => some row
    | _ => none

theorem dataRows_append_end (rows : List Row) {last : Reply Row} (ends : ∀ row, last ≠ .dataRow row) :
    dataRows (rows.map .dataRow ++ [last]) = rows := by
  have behind : dataRows [last] = [] := by
    cases last with
    | dataRow row => exact absurd rfl (ends row)
    | commandComplete | portalSuspended | emptyQueryResponse | errorResponse => rfl
  rw [dataRows] at behind
  rw [dataRows, List.filterMap_append, behind, List.append_nil, List.filterMap_map]
  exact List.filterMap_some

theorem dataRows_intendedReplies (maxrows : UInt32) (remaining : List Row) :
    dataRows (intendedReplies maxrows remaining) = remaining.take (room maxrows remaining) := by
  rw [intendedReplies, dataRows_append_end]
  intro row
  split <;> simp

theorem dataRows_intendedRun (limits : List UInt32) (rows : List Row) :
    ((intendedRun limits rows).map dataRows).flatten <+: rows := by
  induction limits generalizing rows with
  | nil => exact List.nil_prefix
  | cons maxrows rest ih =>
      obtain ⟨unsent, others⟩ := ih (rows.drop (room maxrows rows))
      refine ⟨unsent, ?_⟩
      rw [intendedRun, List.map_cons, List.flatten_cons, List.append_assoc, others,
        dataRows_intendedReplies, List.take_append_drop]

end Meant

/-! ## What is sent -/

section Sent

variable {maxrows fetched : UInt32} {rows : List Row} {stays : Bool}

/-- There is room for so many more rows: for all of them if there is no limit, and up to the limit if
there is one. -/
structure HasRoom (maxrows fetched : UInt32) (rows : List Row) (count : Nat) : Prop where
  unlimited : maxrows = 0 → rows.length ≤ count
  limited : maxrows ≠ 0 → fetched.toNat + count = maxrows.toNat ∧ 0 < count

namespace HasRoom

variable {count : Nat}

/-- Below a limit the number of rows that were sent does not wrap around. -/
theorem toNat_next (hasRoom : HasRoom maxrows fetched rows count) (limited : maxrows ≠ 0) :
    (fetched + 1).toNat = fetched.toNat + 1 := by
  have below := maxrows.toNat_lt
  have reached := hasRoom.limited limited
  rw [UInt32.toNat_add]
  exact Nat.mod_eq_of_lt (by simp only [UInt32.reduceToNat]; omega)

theorem full (hasRoom : HasRoom maxrows fetched rows count) (limited : maxrows ≠ 0)
    (last : fetched + 1 = maxrows) : count = 1 := by
  have reached := hasRoom.limited limited
  have next := hasRoom.toNat_next limited
  rw [last] at next
  omega

theorem more {row : Row} {rest : List Row} (hasRoom : HasRoom maxrows fetched (row :: rest) count)
    (notLast : ¬(maxrows ≠ 0 ∧ fetched + 1 = maxrows)) :
    ∃ others, count = others + 1 ∧ HasRoom maxrows (fetched + 1) rest others := by
  by_cases unlimited : maxrows = 0
  · have enough := hasRoom.unlimited unlimited
    rw [List.length_cons] at enough
    refine ⟨count - 1, by omega, ?_⟩
    exact ⟨fun _ => Nat.le_sub_one_of_lt enough, fun limited => absurd unlimited limited⟩
  · have reached := hasRoom.limited unlimited
    have next := hasRoom.toNat_next unlimited
    have notFull : (fetched + 1).toNat ≠ maxrows.toNat :=
      fun same => notLast ⟨unlimited, UInt32.toNat_inj.mp same⟩
    refine ⟨count - 1, by omega, ?_⟩
    exact ⟨fun unlimited' => absurd unlimited' unlimited, fun _ => by omega⟩

end HasRoom

/-- The loop sends the rows that there is room for, and CommandComplete. -/
theorem sendResultSet_rows {count : Nat} (hasRoom : HasRoom maxrows fetched rows count) :
    sendResultSet maxrows fetched ⟨rows.map .row, stays⟩ =
      ((rows.take count).map .dataRow ++ [.commandComplete], ⟨(rows.drop count).map .row, stays⟩) := by
  induction rows generalizing fetched count with
  | nil =>
      rw [List.map_nil, sendResultSet_endOfData _ _ (Cursor.fetchRow_nil stays), List.take_nil,
        List.drop_nil]
      rfl
  | cons row rest ih =>
      rw [List.map_cons, sendResultSet_row _ _ (Cursor.fetchRow_row row _ stays), Cursor.nextRow_fetched]
      split
      case isTrue last =>
        rw [hasRoom.full last.1 last.2]
        rfl
      case isFalse notLast =>
        rcases hasRoom.more notLast with ⟨others, rfl, later⟩
        rw [ih later]
        rfl

/-- Which is what is meant unless that is less than what is left, or just that. -/
theorem sendResultSet_zero (maxrows : UInt32) (rows : List Row) (stays : Bool) :
    sendResultSet maxrows 0 ⟨rows.map .row, stays⟩ =
      ((rows.take (room maxrows rows)).map .dataRow ++ [.commandComplete],
        ⟨(rows.drop (room maxrows rows)).map .row, stays⟩) := by
  apply sendResultSet_rows
  constructor
  · intro unlimited
    rw [room, if_pos unlimited]
  · intro limited
    rw [room, if_neg limited]
    exact ⟨Nat.zero_add _, Nat.pos_of_ne_zero fun zero => limited (UInt32.toNat_inj.mp zero)⟩

theorem map_dataRow_append_inj {rows : List Row} {last last' : Reply Row} :
    rows.map Reply.dataRow ++ [last] = rows.map Reply.dataRow ++ [last'] ↔ last = last' := by
  rw [List.append_cancel_left_eq, List.cons.injEq, and_iff_left rfl]

/-- That is what is meant unless the limit is reached. -/
theorem sendResultSet_iff (maxrows : UInt32) (rows : List Row) (stays : Bool) :
    (sendResultSet maxrows 0 ⟨rows.map .row, stays⟩).1 = intendedReplies maxrows rows ↔
      maxrows = 0 ∨ rows.length < maxrows.toNat := by
  rw [sendResultSet_zero, intendedReplies, map_dataRow_append_inj]
  split
  case isTrue reached =>
    apply iff_of_false
    · exact fun same => by cases same
    · rintro (unlimited | more)
      · exact reached.1 unlimited
      · omega
  case isFalse open_end =>
    apply iff_of_true rfl
    by_cases unlimited : maxrows = 0
    · exact Or.inl unlimited
    · exact Or.inr (Nat.lt_of_not_le fun reached => open_end ⟨unlimited, reached⟩)

end Sent

/-! ## Executes one after the other -/

section Run

variable {portal : Portal Row}

/-- The query has been executed and these rows are left of its result set. -/
structure Open (portal : Portal Row) (rows : List Row) : Prop where
  executeflag : portal.contents.executeflag = false
  columns : portal.colcount ≠ 0
  ahead : portal.cursor.ahead = rows.map .row

theorem Open.execute {rows : List Row} (isOpen : Open portal rows)
    (executed : Option (Nat × Cursor Row)) (maxrows : UInt32) :
    (portal.execute executed maxrows).1 = (sendResultSet maxrows 0 ⟨rows.map .row, portal.cursor.stays⟩).1 ∧
      Open (portal.execute executed maxrows).2 (rows.drop (room maxrows rows)) := by
  rcases portal with ⟨contents, colcount, ahead, stays⟩
  rcases isOpen with ⟨executeflag, columns, rfl⟩
  rw [Portal.execute, if_neg (by rw [executeflag]; exact Bool.false_ne_true), sendQueryResult,
    if_pos columns]
  exact ⟨rfl, executeflag, columns, by rw [sendResultSet_zero]⟩

/-- Where nothing is left no limit is reached, so that only the first of the Executes that has rows
left can be answered wrongly, and if it isn't, it has left none. -/
theorem Open.run_iff {rows : List Row} (isOpen : Open portal rows)
    (executed : Option (Nat × Cursor Row)) (limits : List UInt32) :
    portal.run executed limits = intendedRun limits rows ↔
      ∀ maxrows ∈ limits.head?, maxrows = 0 ∨ rows.length < maxrows.toNat := by
  induction limits generalizing portal rows with
  | nil => exact iff_of_true rfl fun maxrows listed => by cases listed
  | cons maxrows rest ih =>
      rcases isOpen.execute executed maxrows with ⟨replies, stillOpen⟩
      rw [Portal.run, intendedRun, List.cons.injEq, replies, sendResultSet_iff, ih stillOpen]
      simp only [List.head?_cons, Option.mem_some_iff, forall_eq']
      constructor
      · exact And.left
      · intro through
        refine ⟨through, ?_⟩
        intro later listed
        have noneLeft : rows.drop (room maxrows rows) = [] := by
          rw [List.drop_eq_nil_iff, room]
          rcases through with unlimited | above
          · rw [if_pos unlimited]
          · split
            case isTrue => exact Nat.le_refl _
            case isFalse => exact Nat.le_of_lt above
        rw [noneLeft, List.length_nil, Nat.pos_iff_ne_zero, Ne, ← UInt32.toNat_inj]
        exact Decidable.em _

theorem Open.sameRows_run {rows : List Row} (isOpen : Open portal rows)
    (executed : Option (Nat × Cursor Row)) (limits : List UInt32) :
    (portal.run executed limits).map dataRows = (intendedRun limits rows).map dataRows := by
  induction limits generalizing portal rows with
  | nil => rfl
  | cons maxrows rest ih =>
      rcases isOpen.execute executed maxrows with ⟨replies, stillOpen⟩
      rw [Portal.run, intendedRun, List.map_cons, List.map_cons, replies, sendResultSet_zero,
        dataRows_intendedReplies, dataRows_append_end, ih stillOpen]
      exact fun row same => by cases same

/-- A portal whose query has a result set, and has not been executed yet. -/
structure Bound (portal : Portal Row) (colcount : Nat) : Prop where
  executeflag : portal.contents.executeflag = true
  query : Session.emptyQuery portal.contents.querybuffer = false
  columns : colcount ≠ 0

/-- The first Execute opens the result set, and goes on as if it had been open. -/
theorem Bound.run_eq {colcount : Nat} (bound : Bound portal colcount) (cursor : Cursor Row)
    (limits : List UInt32) : portal.run (some (colcount, cursor)) limits =
      Portal.run (some (colcount, cursor))
        ⟨{ portal.contents with executeflag := false }, colcount, cursor⟩ limits := by
  cases limits with
  | nil => rfl
  | cons maxrows rest =>
      have first : portal.execute (some (colcount, cursor)) maxrows =
          Portal.execute (some (colcount, cursor))
            ⟨{ portal.contents with executeflag := false }, colcount, cursor⟩ maxrows := by
        rw [Portal.execute, Portal.execute, if_pos bound.executeflag, if_neg Bool.false_ne_true]
        dsimp only
        rw [bound.query, if_neg Bool.false_ne_true]
      rw [Portal.run, Portal.run, first]

theorem Bound.open {colcount : Nat} (bound : Bound portal colcount) (rows : List Row) (stays : Bool) :
    Open ⟨{ portal.contents with executeflag := false }, colcount, ⟨rows.map .row, stays⟩⟩ rows :=
  ⟨rfl, bound.columns, rfl⟩

/-- Whatever the limits, each Execute sends the rows that it is meant to, and all of them together send
the first rows of the result set, in order and each of them once. -/
theorem dataRows_run {colcount : Nat} (bound : Bound portal colcount) (rows : List Row)
    (stays : Bool) (limits : List UInt32) :
    (portal.run (some (colcount, ⟨rows.map .row, stays⟩)) limits).map dataRows =
        (intendedRun limits rows).map dataRows ∧
      ((portal.run (some (colcount, ⟨rows.map .row, stays⟩)) limits).map dataRows).flatten <+: rows := by
  have same := (bound.open rows stays).sameRows_run (some (colcount, ⟨rows.map .row, stays⟩)) limits
  rw [bound.run_eq, same]
  exact ⟨rfl, dataRows_intendedRun limits rows⟩

/-- Two Executes with a limit of one send a row each. -/
theorem dataRows_run_two :
    let replies := Portal.run (some (1, ⟨[(7 : Nat), 8].map .row, false⟩))
      ⟨⟨ascii "select 1", [], [], true⟩, 0, ⟨[], false⟩⟩ [1, 1]
    replies.map dataRows = (intendedRun [1, 1] [7, 8]).map dataRows ∧
      (replies.map dataRows).flatten <+: [7, 8] :=
  dataRows_run ⟨rfl, by decide, by decide⟩ [7, 8] false [1, 1]

/-- The Executes are answered as they are meant to be if and only if the first of them has no limit, or
one that is above the number of rows, so that it gets to the end. -/
theorem run_eq_intendedRun_iff {colcount : Nat} (bound : Bound portal colcount) (rows : List Row)
    (stays : Bool) (limits : List UInt32) :
    portal.run (some (colcount, ⟨rows.map .row, stays⟩)) limits = intendedRun limits rows ↔
      ∀ maxrows ∈ limits.head?, maxrows = 0 ∨ rows.length < maxrows.toNat := by
  rw [bound.run_eq]
  exact (bound.open rows stays).run_iff _ limits

/-- Two rows that are fetched with a limit of three. -/
theorem run_eq_intendedRun_iff_three :
    Portal.run (some (1, ⟨[(7 : Nat), 8].map .row, false⟩))
        ⟨⟨ascii "select 1", [], [], true⟩, 0, ⟨[], false⟩⟩ [3] = intendedRun [3] [7, 8] := by
  apply (run_eq_intendedRun_iff ⟨rfl, by decide, by decide⟩ [7, 8] false [3]).mpr
  intro maxrows first
  cases first
  exact .inr (by decide)

/-- A portal that is stopped at its limit, with a row left, is said to be complete. -/
theorem not_run_eq_intendedRun_one :
    Portal.run (some (1, ⟨[(7 : Nat), 8].map .row, false⟩))
        ⟨⟨ascii "select 1", [], [], true⟩, 0, ⟨[], false⟩⟩ [1] ≠ intendedRun [1] [7, 8] := by
  have bound : Bound (⟨⟨ascii "select 1", [], [], true⟩, 0, ⟨[], false⟩⟩ : Portal Nat) 1 :=
    ⟨rfl, by decide, by decide⟩
  rw [bound.run_eq]
  intro same
  have above := ((bound.open [7, 8] false).run_iff _ [1]).mp same 1 rfl
  revert above
  decide

end Run

end SqlRelay.Postgresql.Portals
