import SqlRelay.Router.Binds

/-!
# The delivery of rows

The router goes through the rows of a backend in order.  It asks for a field of the next row before it says
that there is one, so the window of the backend's cursor has the row when its fields are taken.
-/

namespace SqlRelay.Router

open SqlRelay.Foundation SqlRelay.Window

/-- A client cursor that neither reads a cache file nor writes one. -/
structure Live (session : Window.Session) : Prop where
  caching : session.client.caching = false
  cachesource : session.client.cachesource = none
  connected : session.connected = true

section Live

variable {session : Window.Session}

theorem Live.parseResults (live : Live session) : Live session.parseResults.2 := by
  simp only [Session.parseResults]
  split
  · exact live
  · constructor
    · simp [Session.store, live.caching]
    · simp [Session.store, live.cachesource]
    · exact live.connected

theorem Live.fetchResultSet (live : Live session) (rowstoskip : Nat) :
    Live (session.fetchResultSet rowstoskip) := by
  simp only [Session.fetchResultSet, live.cachesource, Option.isSome_none, Bool.false_eq_true,
    if_false]
  exact ⟨live.caching, live.cachesource, live.connected⟩

theorem Live.fetchBlock (live : Live session) (row : Nat) : Live (session.fetchBlock row).2 := by
  simp only [Session.fetchBlock, Session.skipRows, live.cachesource, if_true]
  apply Live.parseResults
  apply Live.fetchResultSet
  exact ⟨live.caching, rfl, live.connected⟩

theorem Live.fetchBlocks (live : Live session) (row blocks : Nat) :
    Live (session.fetchBlocks row blocks).2 := by
  induction blocks generalizing session with
  | zero => exact live
  | succ blocks induction =>
    simp only [Session.fetchBlocks]
    split
    · exact induction (live.fetchBlock row)
    · exact live.fetchBlock row

end Live

/-- The router has taken the rows before this one.  The window has it or ends with it, and unless the result
set has ended, at the end of a block. -/
structure Reading (rowCount : Nat) (session : Window.Session) (nextrow : Nat) : Prop
    extends Live session where
  inStep : InStep rowCount session
  first : session.client.firstrowindex ≤ nextrow
  last : nextrow ≤ session.client.rowcount
  aligned : session.client.endofresultset = false → session.client.rsbuffersize ≠ 0 ∧
    session.client.rowcount % session.client.rsbuffersize = 0

section Reading

variable {rowCount nextrow : Nat} {session : Window.Session}

/-- The row is in the window. -/
theorem Reading.buffered (reading : Reading rowCount session nextrow)
    (inside : nextrow < session.client.rowcount) (bound : Nat) :
    session.fetchRowIntoBuffer bound nextrow =
      (some (nextrow - session.client.firstrowindex), session) := by
  have first := Nat.not_lt.mpr reading.first
  simp only [Session.fetchRowIntoBuffer, first, inside, if_false, if_true]

/-- A window that has been moved to a row at the start of a block. -/
theorem Reading.of_reached {fetched : Window.Session} (live : Live fetched)
    (reached : Reached rowCount nextrow session fetched)
    (start : nextrow % session.client.rsbuffersize = 0)
    (inside : nextrow < fetched.client.rowcount) : Reading rowCount fetched nextrow where
  toLive := live
  inStep := reached.inStep
  first := (reached.index inside).1
  last := Nat.le_of_lt inside
  aligned := by
    intro more
    have limited : session.client.rsbuffersize ≠ 0 := by
      intro unlimited
      have whole := reached.whole more
      have first := (reached.index inside).1
      omega
    have index := (reached.index inside).2
    rw [if_neg limited, start] at index
    have first : fetched.client.firstrowindex = nextrow :=
      Nat.le_antisymm (reached.index inside).1 (Nat.le_of_sub_eq_zero index.symm)
    rw [reached.size, reached.whole more, first, Nat.add_mod_right]
    exact ⟨limited, start⟩

/-- The window moves to the next row if there is one. -/
theorem Reading.fetchRow (resultSet : ResultSet)
    (reading : Reading resultSet.rows.length session nextrow) :
    let fetched := resultSet.fetchRow session nextrow
    fetched.1 = decide (nextrow < resultSet.rows.length) ∧
      (fetched.1 = true → Reading resultSet.rows.length fetched.2 nextrow ∧
        nextrow < fetched.2.client.rowcount) := by
  simp only [ResultSet.fetchRow]
  cases Nat.lt_or_ge nextrow session.client.rowcount with
  | inl inside =>
    rw [reading.buffered inside]
    have within := reading.inStep.inside
    simp only [inside, decide_true, true_implies]
    exact ⟨(decide_eq_true (by omega)).symm, reading, trivial⟩
  | inr ahead =>
    have here : nextrow = session.client.rowcount := Nat.le_antisymm reading.last ahead
    have passed : ¬nextrow < session.client.firstrowindex := Nat.not_lt.mpr reading.first
    cases ended : session.client.endofresultset with
    | true =>
      have atEnd := reading.inStep.ended ended
      have stays : (session.fetchRowIntoBuffer (resultSet.rows.length + 1) nextrow).2 =
          session := by
        simp only [Session.fetchRowIntoBuffer, passed, Nat.not_lt.mpr ahead, if_false, ended,
          if_true]
      rw [stays]
      have none : ¬nextrow < session.client.rowcount := Nat.not_lt.mpr ahead
      simp only [none, decide_false, Bool.false_eq_true, false_implies, and_true]
      exact (decide_eq_false (by omega)).symm
    | false =>
      have aligned := reading.aligned ended
      have start : nextrow % session.client.rsbuffersize = 0 := by rw [here]; exact aligned.2
      have canFetch : CanFetch resultSet.rows.length nextrow session := by
        constructor
        · intro unlimited
          exact absurd unlimited aligned.1
        · intro _ caching
          rw [reading.caching] at caching
          cases caching
        · intro _ _
          rw [start, Nat.sub_zero, here]
          exact ⟨Nat.le_refl _, reading.inStep.inside, fun _ => Or.inl rfl⟩
      cases reading.inStep.fetchBlocks resultSet.counted ended canFetch ahead
        (Nat.lt_succ_self _) with
      | intro fetched fetches =>
        have reached := fetches.2
        have live := reading.toLive.fetchBlocks nextrow (resultSet.rows.length + 1)
        rw [fetches.1] at live
        have moves : (session.fetchRowIntoBuffer (resultSet.rows.length + 1) nextrow).2 =
            fetched := by
          rw [Session.fetchRowIntoBuffer_moving reading.inStep.ordered ahead ended
            (Or.inl reading.connected) fetches.1 reached]
          split
          · rfl
          · rfl
        rw [moves]
        cases Nat.lt_or_ge nextrow fetched.client.rowcount with
        | inl inside =>
          have within := reached.inStep.inside
          simp only [inside, decide_true, true_implies]
          constructor
          · exact (decide_eq_true (by omega)).symm
          constructor
          · exact Reading.of_reached live reached start inside
          · trivial
        | inr none =>
          have atEnd := reached.inStep.ended (reached.stopped.resolve_right (Nat.not_lt.mpr none))
          simp only [Nat.not_lt.mpr none, decide_false, Bool.false_eq_true, false_implies, and_true]
          exact (decide_eq_false (by omega)).symm

theorem Reading.next (reading : Reading rowCount session nextrow)
    (inside : nextrow < session.client.rowcount) : Reading rowCount session (nextrow + 1) :=
  { reading with
    first := Nat.le_succ_of_le reading.first
    last := inside }

/-- The fields are those of the row. -/
theorem Reading.currentRow (resultSet : ResultSet)
    (reading : Reading resultSet.rows.length session nextrow)
    (inside : nextrow < session.client.rowcount) :
    some (resultSet.currentRow session nextrow) = resultSet.rows[nextrow]? := by
  have there : nextrow < resultSet.rows.length := by
    have within := reading.inStep.inside
    omega
  rw [ResultSet.currentRow, reading.buffered inside]
  simp [reading.inStep.getElem? reading.first inside, List.getElem?_eq_getElem there]

theorem Reading.deliver (resultSet : ResultSet) (returnsNulls : Bool) {fuel : Nat}
    (reading : Reading resultSet.rows.length session nextrow)
    (enough : resultSet.rows.length - nextrow < fuel) :
    resultSet.deliver returnsNulls fuel session nextrow =
      (resultSet.rows.drop nextrow).map fun row => row.map (getField returnsNulls) := by
  induction fuel generalizing session nextrow with
  | zero => omega
  | succ fuel induction =>
    have fetched := reading.fetchRow resultSet
    simp only [ResultSet.deliver]
    cases Nat.lt_or_ge nextrow resultSet.rows.length with
    | inl inside =>
      have found := fetched.1.trans (decide_eq_true inside)
      have moved := fetched.2 found
      have row := moved.1.currentRow resultSet moved.2
      rw [List.getElem?_eq_getElem inside, Option.some.injEq] at row
      rw [if_pos found, induction (moved.1.next moved.2) (by omega), row,
        List.drop_eq_getElem_cons inside, List.map_cons]
    | inr past =>
      have none := fetched.1.trans (decide_eq_false (Nat.not_lt.mpr past))
      rw [if_neg (by simp [none]), List.drop_of_length_le past, List.map_nil]

end Reading

theorem reading_opened (resultSet : ResultSet) (fetchatonce : Nat) :
    Reading resultSet.rows.length (resultSet.opened fetchatonce) 0 := by
  let before : Window.Session := ⟨Client.cleared fetchatonce false false none,
    ⟨resultSet.rows.length, resultSet.fails, 0, false⟩, [], true⟩
  have sourced : Sourced resultSet.rows.length before :=
    { inside := Nat.zero_le _
      notResumed := fun _ => rfl
      ended := by
        intro ended
        simp [before, Client.cleared] at ended
      fromServer := fun _ _ => ⟨rfl, rfl, rfl⟩
      fromFile := by
        intro file _ given
        simp [before, Client.cleared] at given }
  have fetched := sourced.fetchResultSet resultSet.counted rfl
  have live : Live before := ⟨rfl, rfl, rfl⟩
  cases fetched.1.parseResults with
  | intro parsed parses =>
    have opens : resultSet.opened fetchatonce = parsed := congrArg Prod.snd parses.1
    have parsedLive := (live.fetchResultSet 0).parseResults
    rw [parses.1] at parsedLive
    have moved := parses.2
    have size : (before.fetchResultSet 0).client.rsbuffersize = fetchatonce := fetched.2
    have start : before.client.rowcount = 0 := rfl
    rw [opens]
    constructor
    · exact parsedLive
    · exact moved.inStep
    · exact Nat.le_of_eq moved.first
    · exact Nat.zero_le _
    · intro more
      rw [moved.ended, decide_eq_false_iff_not, not_or] at more
      rw [moved.size, moved.last, windowSize_of_more (not_or.mpr more), start, Nat.zero_add,
        Nat.mod_self]
      exact ⟨more.1, rfl⟩

/-- Every row is delivered, in order. -/
theorem ResultSet.delivered_eq (resultSet : ResultSet) (fetchatonce : Nat) (returnsNulls : Bool) :
    resultSet.delivered fetchatonce returnsNulls =
      resultSet.rows.map fun row => row.map (getField returnsNulls) :=
  (reading_opened resultSet fetchatonce).deliver resultSet returnsNulls (Nat.lt_succ_self _)

end SqlRelay.Router
