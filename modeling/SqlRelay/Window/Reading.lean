import SqlRelay.Foundation.Run
import SqlRelay.Window.Session

/-!
# Reading rows through the window

Any sequence of accesses to rows, with changes of the buffer size between them.  While
the window moves in whole buffers that start where the window ends, an access yields the
row that was asked for, and the row counter ends at the number of rows of the query.
-/

namespace SqlRelay.Window

open SqlRelay.Foundation SqlRelay.Rows

@[simp] theorem stretch_zero (start : Nat) : stretch start 0 = [] := rfl

theorem stretch_succ (start count : Nat) :
    stretch start (count + 1) = .row start :: stretch (start + 1) count := by
  simp [stretch, List.range'_succ]

/-- Rows that fill the buffer end the loop. -/
theorem parseRows_full {limit count size : Nat} (start more : Nat) (tail : List (Message Nat))
    (room : count + (size + 1) = limit) :
    parseRows limit count (stretch start (size + 1 + more) ++ tail) =
      ⟨List.range' start (size + 1), false, true,
        stretch (start + (size + 1)) more ++ tail⟩ := by
  induction size generalizing count start with
  | zero =>
      have full : limit ≠ 0 ∧ count + 1 = limit := by omega
      rw [Nat.add_comm, stretch_succ, List.cons_append, parseRows, if_pos full]
      rfl
  | succ size ih =>
      have unfilled : ¬ (limit ≠ 0 ∧ count + 1 = limit) := by omega
      have later := @ih (count + 1) (start + 1) (by omega)
      have behind : start + 1 + (size + 1) = start + (size + 1 + 1) := by omega
      rw [Nat.add_right_comm, stretch_succ, List.cons_append, parseRows, if_neg unfilled, later,
        behind]
      exact congrArg (fun rows => Parsed.mk rows _ _ _) List.range'_succ.symm

/-- A message that ends the result set. -/
def Ends (message : Message Nat) : Prop := message = .endResultSet ∨ message = .fetchError

/-- Rows that do not fill the buffer are read to the end. -/
theorem parseRows_end {limit count : Nat} (start rows : Nat) {last : Message Nat}
    (rest : List (Message Nat)) (ends : Ends last) (room : limit = 0 ∨ count + rows < limit) :
    parseRows limit count (stretch start rows ++ last :: rest) =
      ⟨List.range' start rows, true, true, rest⟩ := by
  induction rows generalizing count start with
  | zero => rcases ends with rfl | rfl <;> rfl
  | succ rows ih =>
      have unfilled : ¬ (limit ≠ 0 ∧ count + 1 = limit) := by omega
      have later := @ih (count + 1) (start + 1) (by omega)
      rw [stretch_succ, List.cons_append, parseRows, if_neg unfilled, later, List.range'_succ]

/-- The rows that a window starting here gets. -/
def windowSize (rowCount size start : Nat) : Nat :=
  if size = 0 ∨ rowCount < start + size then rowCount - start else size

/-- The rows from a position on, as a client that has room for so many reads them. -/
def readFrom (rowCount size start : Nat) (rest : List (Message Nat)) : Parsed :=
  ⟨List.range' start (windowSize rowCount size start),
    decide (size = 0 ∨ rowCount < start + size), true, rest⟩

theorem Server.ending_ends (server : Server) : Ends server.ending := by
  rw [ending]
  split
  · exact Or.inr rfl
  · exact Or.inl rfl

/-- What the server sends fills the window. -/
theorem parseRows_respond (server : Server) (skip size : Nat)
    (inside : server.totalRowsFetched + skip ≤ server.rowCount) :
    parseRows size 0 (server.respond skip size).1 =
        readFrom server.rowCount size (server.totalRowsFetched + skip) [] ∧
      (server.respond skip size).2 = { server with
        totalRowsFetched := server.totalRowsFetched + skip +
          windowSize server.rowCount size (server.totalRowsFetched + skip) } := by
  rw [Server.respond, if_neg (Nat.not_lt.mpr inside), readFrom, windowSize]
  split
  case isTrue last =>
    rw [parseRows_end _ _ [] server.ending_ends (by omega)]
    simp [last, Nat.add_sub_of_le inside]
  case isFalse more =>
    obtain ⟨size, rfl⟩ := Nat.exists_eq_succ_of_ne_zero (fun none => more (Or.inl none))
    have reads := @parseRows_full (size + 1) 0 size (server.totalRowsFetched + skip) 0 []
      (Nat.zero_add _)
    simp only [Nat.add_zero, List.append_nil] at reads
    simp only [reads, decide_eq_false more]
    exact ⟨rfl, trivial⟩

/-- What a cache file holds fills the window. -/
theorem parseRows_file (rowCount size start : Nat) (inside : start ≤ rowCount) :
    ∃ rest, parseRows size 0 (stretch start (rowCount - start) ++ [.endResultSet]) =
      readFrom rowCount size start rest := by
  by_cases last : size = 0 ∨ rowCount < start + size
  · refine ⟨[], ?_⟩
    rw [readFrom, windowSize, if_pos last, decide_eq_true last,
      parseRows_end _ _ [] (Or.inl rfl) (by omega)]
  · obtain ⟨size, rfl⟩ := Nat.exists_eq_succ_of_ne_zero (fun none => last (Or.inl none))
    have reads := @parseRows_full (size + 1) 0 size start (rowCount - (start + (size + 1)))
      [.endResultSet] (Nat.zero_add _)
    have left : size + 1 + (rowCount - (start + (size + 1))) = rowCount - start := by omega
    rw [left] at reads
    refine ⟨stretch (start + (size + 1)) (rowCount - (start + (size + 1))) ++ [.endResultSet],
      reads.trans ?_⟩
    rw [readFrom, windowSize, if_neg last, decide_eq_false last]

/-- The source of a result set of so many rows goes on where the row counter is. -/
structure Sourced (rowCount : Nat) (session : Session) : Prop where
  inside : session.client.rowcount ≤ rowCount
  notResumed : session.client.rowcount = 0 → session.client.resumedlastrowindex = 0
  ended : session.client.endofresultset = true → session.client.rowcount = rowCount
  fromServer : session.client.endofresultset = false → session.client.cachesource = none →
    session.server.rowCount = rowCount ∧
      session.server.totalRowsFetched = session.client.rowcount ∧ session.pending = []
  fromFile : ∀ file, session.client.endofresultset = false →
    session.client.cachesource = some file →
      file.rowCount = rowCount ∧ file.position = session.client.rowcount

/-- A client cursor reads a result set in step: besides, the window has the rows that its
counters say. -/
structure InStep (rowCount : Nat) (session : Session) : Prop
    extends Sourced rowCount session where
  ordered : session.client.firstrowindex ≤ session.client.rowcount
  rows : session.client.rows = List.range' session.client.firstrowindex
    (session.client.rowcount - session.client.firstrowindex)

/-- The window that starts here is the new one. -/
structure Moved (rowCount start : Nat) (before after : Session) : Prop where
  inStep : InStep rowCount after
  first : after.client.firstrowindex = start
  last : after.client.rowcount = start + windowSize rowCount before.client.rsbuffersize start
  ended : after.client.endofresultset =
    decide (before.client.rsbuffersize = 0 ∨ rowCount < start + before.client.rsbuffersize)
  size : after.client.rsbuffersize = before.client.rsbuffersize
  caching : after.client.caching = (before.client.caching && !after.client.endofresultset)
  connected : after.connected = before.connected

section Moving

variable {session : Session} {rowCount : Nat}

/-- The row number that `parseResults` starts with. -/
def Client.counter (client : Client) : Nat :=
  if client.rowcount = 0 ∧ client.resumedlastrowindex ≠ 0 then client.resumedlastrowindex + 1
  else client.rowcount

theorem Client.counter_eq {client : Client}
    (notResumed : client.rowcount = 0 → client.resumedlastrowindex = 0) :
    client.counter = client.rowcount := if_neg fun both => both.2 (notResumed both.1)

/-- The client is about to read at a row. -/
structure At (rowCount start : Nat) (session : Session) : Prop where
  more : session.client.endofresultset = false
  counter : session.client.counter = start
  notResumed : start = 0 → session.client.resumedlastrowindex = 0
  inside : start ≤ rowCount
  reads : ∃ rest, parseRows session.client.rsbuffersize 0 session.incoming =
    readFrom rowCount session.client.rsbuffersize start rest ∧
      (session.client.cachesource = none →
        session.server.rowCount = rowCount ∧ rest = [] ∧
        session.server.totalRowsFetched =
          start + windowSize rowCount session.client.rsbuffersize start)
  fromFile : ∀ file, session.client.cachesource = some file →
    file.rowCount = rowCount ∧ file.position = start

theorem windowSize_le (size start : Nat) (inside : start ≤ rowCount) :
    start + windowSize rowCount size start ≤ rowCount := by
  rw [windowSize]
  split <;> omega

/-- The rows that were read are the new window. -/
theorem At.store {start : Nat} (reading : At rowCount start session)
    {rest : List (Message Nat)}
    (live : session.client.cachesource = none →
      session.server.rowCount = rowCount ∧ rest = [] ∧
      session.server.totalRowsFetched =
        start + windowSize rowCount session.client.rsbuffersize start) :
    Moved rowCount start session
      (session.store start (readFrom rowCount session.client.rsbuffersize start rest)) := by
  have size := windowSize_le session.client.rsbuffersize start reading.inside
  refine
    { inStep :=
        { ordered := Nat.le_add_right _ _
          inside := by simpa [Session.store, readFrom] using size
          rows := by simp [Session.store, readFrom]
          notResumed := fun none => reading.notResumed (Nat.eq_zero_of_add_eq_zero_right none)
          ended := ?_
          fromServer := ?_
          fromFile := ?_ }
      first := rfl
      last := by simp [Session.store, readFrom]
      ended := rfl
      size := rfl
      caching := rfl
      connected := rfl }
  · intro ended
    have last : session.client.rsbuffersize = 0 ∨
        rowCount < start + session.client.rsbuffersize := of_decide_eq_true ended
    simp only [Session.store, readFrom, List.length_range', windowSize, if_pos last]
    exact Nat.add_sub_of_le reading.inside
  · intro more fromServer
    have not_ended : (readFrom rowCount session.client.rsbuffersize start rest).ended = false := more
    simp only [Session.store, not_ended, Bool.false_eq_true, if_false, Option.map_eq_none_iff]
      at fromServer
    obtain ⟨same, used, total⟩ := live fromServer
    simp [Session.store, readFrom, fromServer, same, used, total]
  · intro file more fromFile
    have not_ended : (readFrom rowCount session.client.rsbuffersize start rest).ended = false := more
    simp only [Session.store, not_ended, Bool.false_eq_true, if_false, Option.map_eq_some_iff]
      at fromFile
    obtain ⟨before, before_eq, rfl⟩ := fromFile
    obtain ⟨same, position⟩ := reading.fromFile before before_eq
    simp [Session.store, same, position]

theorem At.parseResults {start : Nat} (reading : At rowCount start session) :
    ∃ parsed, session.parseResults = (true, parsed) ∧ Moved rowCount start session parsed := by
  obtain ⟨rest, reads, live⟩ := reading.reads
  refine ⟨_, ?_, reading.store live⟩
  have counter := reading.counter
  rw [Client.counter] at counter
  rw [Session.parseResults]
  simp only [reading.more, Bool.false_eq_true, if_false, counter, reads]
  rfl

/-- The rows to skip lead to a row that the source has. -/
structure CanSkip (rowCount rowstoskip : Nat) (session : Session) : Prop where
  inside : session.client.rowcount + rowstoskip ≤ rowCount
  indexed : session.client.cachesource.isSome = true → rowstoskip = 0 ∨
    session.client.rowcount + rowstoskip < rowCount

/-- Skipping and asking for rows brings the client to the first of them. -/
theorem Sourced.skip {rowstoskip : Nat} (sourced : Sourced rowCount session)
    (counted : rowCount < word) (more : session.client.endofresultset = false)
    (canSkip : CanSkip rowCount rowstoskip session) :
    ∃ skipped, session.skipRows rowstoskip = (true, skipped) ∧
      At rowCount (session.client.rowcount + rowstoskip) (skipped.fetchResultSet rowstoskip) ∧
      (skipped.fetchResultSet rowstoskip).client.rsbuffersize = session.client.rsbuffersize ∧
      (skipped.fetchResultSet rowstoskip).client.caching = session.client.caching ∧
      (skipped.fetchResultSet rowstoskip).connected = session.connected := by
  have inside := canSkip.inside
  have fits : (session.client.rowcount + rowstoskip) % word =
      session.client.rowcount + rowstoskip := Nat.mod_eq_of_lt (by omega)
  cases source : session.client.cachesource with
  | none =>
      obtain ⟨same, total, used⟩ := sourced.fromServer more source
      refine ⟨{ session with client := { session.client with
        rowcount := session.client.rowcount + rowstoskip } }, ?_, ?_, ?_, ?_, ?_⟩
      · rw [Session.skipRows]
        simp only [source, fits]
      · obtain ⟨reads, left⟩ := parseRows_respond session.server rowstoskip
          session.client.rsbuffersize (by omega)
        exact
          { more := by simpa [Session.fetchResultSet, source] using more
            counter := by
              rw [Client.counter_eq]
              · simp [Session.fetchResultSet, source]
              · intro none
                simpa [Session.fetchResultSet, source] using sourced.notResumed
                  (Nat.eq_zero_of_add_eq_zero_right (by simpa [Session.fetchResultSet, source] using none))
            notResumed := by
              intro none
              simpa [Session.fetchResultSet, source] using
                sourced.notResumed (Nat.eq_zero_of_add_eq_zero_right none)
            inside := inside
            reads := by
              refine ⟨[], ?_, ?_⟩
              · simp [Session.fetchResultSet, Session.incoming, source, used, reads, same, total]
              · simp [Session.fetchResultSet, source, left, same, total]
            fromFile := by
              intro file given
              simp [Session.fetchResultSet, source] at given }
      · simp [Session.fetchResultSet, source]
      · simp [Session.fetchResultSet, source]
      · simp [Session.fetchResultSet, source]
  | some file =>
      obtain ⟨same, position⟩ := sourced.fromFile file more source
      obtain ⟨rest, reads⟩ := parseRows_file rowCount session.client.rsbuffersize
        (session.client.rowcount + rowstoskip) inside
      refine ⟨{ session with client := { session.client with
        rowcount := session.client.rowcount + rowstoskip
        cachesource := some { file with position := session.client.rowcount + rowstoskip } } },
        ?_, ?_, ?_, ?_, ?_⟩
      · rw [Session.skipRows]
        simp only [source, fits]
        rcases Nat.eq_zero_or_pos rowstoskip with rfl | some_rows
        · simp [← position]
        · have indexed : session.client.rowcount + rowstoskip < file.rowCount :=
            same.symm ▸ (canSkip.indexed (by rw [source]; rfl)).resolve_left some_rows.ne'
          rw [if_neg some_rows.ne', if_pos indexed]
      · exact
          { more := by simpa [Session.fetchResultSet] using more
            counter := by
              rw [Client.counter_eq]
              · simp [Session.fetchResultSet]
              · intro none
                simpa [Session.fetchResultSet] using sourced.notResumed
                  (Nat.eq_zero_of_add_eq_zero_right none)
            notResumed := by
              intro none
              simpa [Session.fetchResultSet] using
                sourced.notResumed (Nat.eq_zero_of_add_eq_zero_right none)
            inside := inside
            reads := by
              refine ⟨rest, ?_, ?_⟩
              · simp [Session.fetchResultSet, Session.incoming, same, reads]
              · simp [Session.fetchResultSet]
            fromFile := by
              intro file' given
              obtain rfl : _ = file' := by simpa [Session.fetchResultSet] using given
              exact ⟨same, rfl⟩ }
      · simp [Session.fetchResultSet]
      · simp [Session.fetchResultSet]
      · simp [Session.fetchResultSet]

/-- One round of the loop of `fetchRowIntoBuffer`. -/
theorem Sourced.fetchBlock {row : Nat} (sourced : Sourced rowCount session)
    (counted : rowCount < word) (more : session.client.endofresultset = false)
    (canSkip : CanSkip rowCount (Session.rowsToSkip session.client row) session) :
    ∃ fetched, session.fetchBlock row = (true, fetched) ∧
      Moved rowCount (session.client.rowcount + Session.rowsToSkip session.client row)
        session fetched := by
  let cleared : Session := { session with client := { session.client with rows := [] } }
  have clear : Sourced rowCount cleared :=
    ⟨sourced.inside, sourced.notResumed, sourced.ended, sourced.fromServer, sourced.fromFile⟩
  obtain ⟨skipped, skips, reading, size, caching, connected⟩ :=
    clear.skip counted more ⟨canSkip.inside, canSkip.indexed⟩
  obtain ⟨fetched, parses, moved⟩ := reading.parseResults
  refine ⟨fetched, ?_, ?_⟩
  · change (if (cleared.skipRows (Session.rowsToSkip session.client row)).1 then
      ((cleared.skipRows (Session.rowsToSkip session.client row)).2.fetchResultSet
        (Session.rowsToSkip session.client row)).parseResults
      else cleared.skipRows (Session.rowsToSkip session.client row)) = (true, fetched)
    rw [skips]
    exact parses
  · exact
      { inStep := moved.inStep
        first := moved.first
        last := by rw [moved.last, size]
        ended := by rw [moved.ended, size]
        size := by rw [moved.size, size]
        caching := by rw [moved.caching, caching]
        connected := moved.connected.trans connected }

/-- The loop of `fetchRowIntoBuffer` ends with a window that has the row, or at the end
of the result set. -/
structure Reached (rowCount row : Nat) (before after : Session) : Prop where
  inStep : InStep rowCount after
  size : after.client.rsbuffersize = before.client.rsbuffersize
  connected : after.connected = before.connected
  stopped : after.client.endofresultset = true ∨ row < after.client.rowcount
  index : row < after.client.rowcount → after.client.firstrowindex ≤ row ∧
    (if before.client.rsbuffersize = 0 then row else row % before.client.rsbuffersize) =
      row - after.client.firstrowindex
  whole : after.client.endofresultset = false →
    after.client.rowcount = after.client.firstrowindex + before.client.rsbuffersize

/-- The next window has the row, if there is such a row, where `fetchRowIntoBuffer` looks
for it. -/
structure CanFetch (rowCount row : Nat) (session : Session) : Prop where
  unlimited : session.client.rsbuffersize = 0 → session.client.rowcount = 0 ∨ rowCount ≤ row
  caching : session.client.rsbuffersize ≠ 0 → session.client.caching = true →
    session.client.rowcount % session.client.rsbuffersize = 0 ∨ rowCount ≤ row
  skipping : session.client.rsbuffersize ≠ 0 → session.client.caching = false →
    session.client.rowcount ≤ row - row % session.client.rsbuffersize ∧
      row - row % session.client.rsbuffersize ≤ rowCount ∧
      (session.client.cachesource.isSome = true →
        row - row % session.client.rsbuffersize = session.client.rowcount ∨
          row - row % session.client.rsbuffersize < rowCount)

theorem windowSize_of_more {size start : Nat} (more : ¬ (size = 0 ∨ rowCount < start + size)) :
    windowSize rowCount size start = size := if_neg more

/-- A window without end is full. -/
theorem Moved.full {start : Nat} {before after : Session} (moved : Moved rowCount start before after)
    (more : after.client.endofresultset = false) :
    after.client.rowcount = start + before.client.rsbuffersize := by
  have unfilled := moved.ended
  rw [more] at unfilled
  rw [moved.last, windowSize_of_more (of_decide_eq_false unfilled.symm)]

theorem Session.fetchBlocks_stop {blocks row : Nat} {fetched : Session}
    (fetches : session.fetchBlock row = (true, fetched))
    (stopped : fetched.client.endofresultset = true ∨ row < fetched.client.rowcount) :
    session.fetchBlocks row (blocks + 1) = (true, fetched) := by
  rw [fetchBlocks, fetches]
  rcases stopped with ended | reached
  · simp [ended]
  · simp [Nat.not_le.mpr reached]

theorem Session.fetchBlocks_next {blocks row : Nat} {fetched : Session}
    (fetches : session.fetchBlock row = (true, fetched))
    (more : fetched.client.endofresultset = false) (short : fetched.client.rowcount ≤ row) :
    session.fetchBlocks row (blocks + 1) = fetched.fetchBlocks row blocks := by
  rw [fetchBlocks, fetches]
  simp [more, short]

/-- Without a limit the rest of the result set is fetched. -/
theorem InStep.fetchBlocks_unlimited {row blocks : Nat} (inStep : InStep rowCount session)
    (counted : rowCount < word) (more : session.client.endofresultset = false)
    (unlimited : session.client.rsbuffersize = 0)
    (whole : session.client.rowcount = 0 ∨ rowCount ≤ row) :
    ∃ fetched, session.fetchBlocks row (blocks + 1) = (true, fetched) ∧
      Reached rowCount row session fetched := by
  have none : Session.rowsToSkip session.client row = 0 := by
    simp [Session.rowsToSkip, unlimited]
  obtain ⟨fetched, fetches, moved⟩ := inStep.fetchBlock counted more
    ⟨none ▸ inStep.inside, fun _ => Or.inl none⟩
  rw [none, Nat.add_zero] at moved
  have ended : fetched.client.endofresultset = true := by
    rw [moved.ended, unlimited]
    simp
  refine ⟨fetched, Session.fetchBlocks_stop fetches (Or.inl ended), moved.inStep, moved.size,
    moved.connected, Or.inl ended, ?_, fun more => moved.first ▸ moved.full more⟩
  intro inside
  have first : session.client.rowcount = 0 := by
    have := moved.inStep.inside
    omega
  rw [moved.first, first, if_pos unlimited]
  exact ⟨Nat.zero_le _, rfl⟩

/-- The rows before the buffer of the row are skipped. -/
theorem InStep.fetchBlocks_skipping {row blocks : Nat} (inStep : InStep rowCount session)
    (counted : rowCount < word) (more : session.client.endofresultset = false)
    (limited : session.client.rsbuffersize ≠ 0) (direct : session.client.caching = false)
    (ahead : session.client.rowcount ≤ row - row % session.client.rsbuffersize)
    (inside : row - row % session.client.rsbuffersize ≤ rowCount)
    (indexed : session.client.cachesource.isSome = true →
      row - row % session.client.rsbuffersize = session.client.rowcount ∨
        row - row % session.client.rsbuffersize < rowCount) :
    ∃ fetched, session.fetchBlocks row (blocks + 1) = (true, fetched) ∧
      Reached rowCount row session fetched := by
  have in_block := Nat.mod_le row session.client.rsbuffersize
  have small := Nat.mod_lt row (Nat.pos_of_ne_zero limited)
  have skips : Session.rowsToSkip session.client row =
      row - row % session.client.rsbuffersize - session.client.rowcount := by
    have wraps : row - row % session.client.rsbuffersize + (word - session.client.rowcount) =
        row - row % session.client.rsbuffersize - session.client.rowcount + word := by omega
    simp only [Session.rowsToSkip, direct, bne_iff_ne.mpr limited, Bool.not_false, Bool.and_self,
      if_true, wraps, Nat.add_mod_right]
    exact Nat.mod_eq_of_lt (by omega)
  have start : session.client.rowcount + Session.rowsToSkip session.client row =
      row - row % session.client.rsbuffersize := by omega
  obtain ⟨fetched, fetches, moved⟩ := inStep.fetchBlock counted more
    ⟨start ▸ inside, fun cached => by have := indexed cached; omega⟩
  rw [start] at moved
  have stopped : fetched.client.endofresultset = true ∨ row < fetched.client.rowcount := by
    cases ended : fetched.client.endofresultset with
    | true => exact Or.inl rfl
    | false =>
        have full := moved.full ended
        right
        omega
  refine ⟨fetched, Session.fetchBlocks_stop fetches stopped, moved.inStep, moved.size,
    moved.connected, stopped, ?_, fun more => moved.first ▸ moved.full more⟩
  intro reached
  rw [moved.first, if_neg limited]
  omega

theorem windowSize_le_size (rowCount : Nat) {size : Nat} (limited : size ≠ 0) (start : Nat) :
    windowSize rowCount size start ≤ size := by
  rw [windowSize]
  split <;> omega

/-- The place of a row in a window that starts at a multiple of its size. -/
theorem mod_of_window {first size row : Nat} (aligned : first % size = 0) (ahead : first ≤ row)
    (inside : row < first + size) : row % size = row - first := by
  obtain ⟨place, rfl⟩ := Nat.exists_eq_add_of_le ahead
  rw [Nat.add_mod, aligned, Nat.zero_add, Nat.mod_mod, Nat.mod_eq_of_lt (by omega)]
  omega

/-- While the rows are cached, buffer after buffer is fetched. -/
theorem InStep.fetchBlocks_caching {row blocks : Nat} (inStep : InStep rowCount session)
    (counted : rowCount < word) (more : session.client.endofresultset = false)
    (limited : session.client.rsbuffersize ≠ 0) (caching : session.client.caching = true)
    (aligned : session.client.rowcount % session.client.rsbuffersize = 0 ∨ rowCount ≤ row)
    (ahead : session.client.rowcount ≤ row)
    (enough : rowCount - session.client.rowcount < blocks) :
    ∃ fetched, session.fetchBlocks row blocks = (true, fetched) ∧
      Reached rowCount row session fetched := by
  induction blocks generalizing session with
  | zero => exact absurd enough (Nat.not_lt_zero _)
  | succ blocks ih =>
      have none : Session.rowsToSkip session.client row = 0 := by
        simp [Session.rowsToSkip, caching]
      obtain ⟨fetched, fetches, moved⟩ := inStep.fetchBlock counted more
        ⟨none ▸ inStep.inside, fun _ => Or.inl none⟩
      rw [none, Nat.add_zero] at moved
      by_cases stopped :
        fetched.client.endofresultset = true ∨ row < fetched.client.rowcount
      · refine ⟨fetched, Session.fetchBlocks_stop fetches stopped, moved.inStep, moved.size,
          moved.connected, stopped, ?_, fun more => moved.first ▸ moved.full more⟩
        intro reached
        rw [moved.first, if_neg limited]
        refine ⟨ahead, mod_of_window (aligned.resolve_right ?_) ahead ?_⟩
        · have := moved.inStep.inside
          omega
        · have size := windowSize_le_size rowCount limited session.client.rowcount
          have last := moved.last
          omega
      · have more' : fetched.client.endofresultset = false :=
          Bool.eq_false_iff.mpr fun ended => stopped (Or.inl ended)
        have short : fetched.client.rowcount ≤ row :=
          Nat.not_lt.mp fun reached => stopped (Or.inr reached)
        have full := moved.full more'
        have inside := moved.inStep.inside
        have caching' : fetched.client.caching = true := by
          rw [moved.caching, caching, more']
          rfl
        obtain ⟨last, fetches', reached⟩ := ih moved.inStep more' (moved.size ▸ limited) caching'
          (by rw [full, moved.size, Nat.add_mod_right]; exact aligned) short (by omega)
        refine ⟨last, (Session.fetchBlocks_next fetches more' short).trans fetches', reached.inStep,
          reached.size.trans moved.size, reached.connected.trans moved.connected,
          reached.stopped, ?_, ?_⟩
        · rw [← moved.size]
          exact reached.index
        · rw [← moved.size]
          exact reached.whole

/-- The window has the row where `fetchRowIntoBuffer` looks for it. -/
theorem InStep.fetchBlocks {row bound : Nat} (inStep : InStep rowCount session)
    (counted : rowCount < word) (more : session.client.endofresultset = false)
    (canFetch : CanFetch rowCount row session) (ahead : session.client.rowcount ≤ row)
    (enough : rowCount < bound) :
    ∃ fetched, session.fetchBlocks row bound = (true, fetched) ∧
      Reached rowCount row session fetched := by
  by_cases unlimited : session.client.rsbuffersize = 0
  · obtain ⟨blocks, rfl⟩ := Nat.exists_eq_succ_of_ne_zero (Nat.ne_zero_of_lt enough)
    exact inStep.fetchBlocks_unlimited counted more unlimited (canFetch.unlimited unlimited)
  · cases caching : session.client.caching with
    | true =>
        exact inStep.fetchBlocks_caching counted more unlimited caching
          (canFetch.caching unlimited caching) ahead (by omega)
    | false =>
        obtain ⟨blocks, rfl⟩ := Nat.exists_eq_succ_of_ne_zero (Nat.ne_zero_of_lt enough)
        obtain ⟨start, inside, indexed⟩ := canFetch.skipping unlimited caching
        exact inStep.fetchBlocks_skipping counted more unlimited caching start inside indexed

theorem Session.skipRows_zero (small : session.client.rowcount < word) :
    session.skipRows 0 = (true, session) := by
  rw [skipRows, Nat.add_zero, Nat.mod_eq_of_lt small]
  cases session.client.cachesource <;> rfl

/-- Asking for rows brings a client that reads in step to the first of them. -/
theorem Sourced.fetchResultSet (sourced : Sourced rowCount session) (counted : rowCount < word)
    (more : session.client.endofresultset = false) :
    At rowCount session.client.rowcount (session.fetchResultSet 0) ∧
      (session.fetchResultSet 0).client.rsbuffersize = session.client.rsbuffersize := by
  obtain ⟨skipped, skips, reading, size, -, -⟩ :=
    @sourced.skip _ _ 0 counted more ⟨sourced.inside, fun _ => Or.inl rfl⟩
  have none := Session.skipRows_zero (sourced.inside.trans_lt counted)
  obtain rfl : session = skipped := (Prod.ext_iff.mp (none.symm.trans skips)).2
  exact ⟨reading, size⟩

/-- The window has its rows in order. -/
theorem InStep.getElem? (inStep : InStep rowCount session) {row : Nat}
    (first : session.client.firstrowindex ≤ row) (last : row < session.client.rowcount) :
    session.client.rows[row - session.client.firstrowindex]? = some row := by
  rw [inStep.rows, List.getElem?_range' (by omega)]
  congr 1
  omega

end Moving

/-- What a program does with a client cursor. -/
inductive Action where
  | access (row : Nat)
  | setResultSetBufferSize (rows : Nat)
  | disconnect

namespace Session

def step (bound : Nat) (session : Session) : Action → Session
  | .access row => (session.fetchRowIntoBuffer bound row).2
  | .setResultSetBufferSize rows =>
      { session with client := { session.client with rsbuffersize := rows } }
  | .disconnect => { session with connected := false }

/-- The rows of the window stay readable. -/
def Keeps (before after : Session) : Prop :=
  ∀ row, before.client.firstrowindex ≤ row → row < before.client.rowcount →
    after.client.firstrowindex ≤ row ∧ row < after.client.rowcount ∧
      after.client.rows[row - after.client.firstrowindex]? = some row

/-- The next row is neither there nor can it be read. -/
def Unreadable (rowCount : Nat) (session : Session) (row : Nat) : Prop :=
  rowCount ≤ row ∨ row < session.client.firstrowindex ∨
    session.connected = false ∧ session.client.cachesource = none

/-- What an access to a row is for. -/
def Serves (rowCount bound : Nat) (session : Session) : Action → Prop
  | .access row =>
      let fetched := session.fetchRowIntoBuffer bound row
      (∀ index, fetched.1 = some index → fetched.2.client.rows[index]? = some row) ∧
        (fetched.1 = none → Unreadable rowCount session row ∧ session.Keeps fetched.2) ∧
        (fetched.2.client.endofresultset = true → fetched.2.client.rowcount = rowCount)
  | _ => True

/-- An access that moves the window moves it to a row that can be reached by skipping, and
leaves no buffered row behind for a row that does not exist. -/
def InOrder (rowCount : Nat) (session : Session) : Action → Prop
  | .access row =>
      session.client.rowcount ≤ row → session.client.endofresultset = false →
        (session.connected = true ∨ session.client.cachesource.isSome = true) →
        CanFetch rowCount row session ∧
          (row < rowCount ∨ session.client.firstrowindex = session.client.rowcount)
  | _ => True

variable {session : Session} {rowCount bound : Nat}

theorem keeps_self (inStep : InStep rowCount session) : session.Keeps session :=
  fun _ first last => ⟨first, last, inStep.getElem? first last⟩

/-- Where the window moves, the access yields the row if it is there. -/
theorem fetchRowIntoBuffer_moving {row : Nat} {fetched : Session}
    (ordered : session.client.firstrowindex ≤ session.client.rowcount)
    (ahead : session.client.rowcount ≤ row) (more : session.client.endofresultset = false)
    (reachable : session.connected = true ∨ session.client.cachesource.isSome = true)
    (fetches : session.fetchBlocks row bound = (true, fetched))
    (reached : Reached rowCount row session fetched) :
    session.fetchRowIntoBuffer bound row =
      if row < fetched.client.rowcount then (some (row - fetched.client.firstrowindex), fetched)
      else (none, fetched) := by
  have source : (!session.connected && !session.client.cachesource.isSome) = false := by
    rcases reachable with connected | cached
    · simp [connected]
    · simp [cached]
  rw [fetchRowIntoBuffer, if_neg (by omega), if_neg (by omega), if_neg (by simp [more]),
    if_neg (Bool.not_eq_true _ ▸ source), fetches]
  by_cases inside : row < fetched.client.rowcount
  · simp only [inside, decide_true, Bool.and_self, if_true, (reached.index inside).2]
  · simp [inside]

theorem serves_moving (counted : rowCount < word) (enough : rowCount < bound)
    (inStep : InStep rowCount session) {row : Nat} (ahead : session.client.rowcount ≤ row)
    (more : session.client.endofresultset = false)
    (reachable : session.connected = true ∨ session.client.cachesource.isSome = true)
    (canFetch : CanFetch rowCount row session)
    (nothing_lost : row < rowCount ∨ session.client.firstrowindex = session.client.rowcount) :
    session.Serves rowCount bound (.access row) ∧
      InStep rowCount (session.step bound (.access row)) := by
  obtain ⟨fetched, fetches, reached⟩ := inStep.fetchBlocks counted more canFetch ahead enough
  have moves := fetchRowIntoBuffer_moving inStep.ordered ahead more reachable fetches reached
  by_cases inside : row < fetched.client.rowcount
  · rw [if_pos inside] at moves
    simp only [Serves, step, moves]
    refine ⟨⟨?_, ?_, reached.inStep.ended⟩, reached.inStep⟩
    · intro index found
      obtain rfl : _ = index := Option.some.inj found
      exact reached.inStep.getElem? (reached.index inside).1 inside
    · intro missing
      exact absurd missing (Option.some_ne_none _)
  · rw [if_neg inside] at moves
    simp only [Serves, step, moves]
    have atEnd := reached.inStep.ended (reached.stopped.resolve_right inside)
    refine ⟨⟨?_, ?_, reached.inStep.ended⟩, reached.inStep⟩
    · intro index found
      exact absurd found.symm (Option.some_ne_none _)
    · intro _
      refine ⟨Or.inl (by omega), ?_⟩
      intro buffered first last
      have := nothing_lost.resolve_left (by omega)
      omega

theorem serves_access (counted : rowCount < word) (enough : rowCount < bound)
    (inStep : InStep rowCount session) (row : Nat)
    (inOrder : session.InOrder rowCount (.access row)) :
    session.Serves rowCount bound (.access row) ∧
      InStep rowCount (session.step bound (.access row)) := by
  have still : ∀ found, session.fetchRowIntoBuffer bound row = (found, session) →
      (∀ index, found = some index → session.client.rows[index]? = some row) →
      (found = none → Unreadable rowCount session row) →
      session.Serves rowCount bound (.access row) ∧
        InStep rowCount (session.step bound (.access row)) := by
    intro found stays populated unreadable
    simp only [Serves, step, stays]
    exact ⟨⟨populated, fun none => ⟨unreadable none, keeps_self inStep⟩, inStep.ended⟩, inStep⟩
  by_cases passed : row < session.client.firstrowindex
  · apply still none
    · rw [fetchRowIntoBuffer, if_pos passed]
    · simp
    · exact fun _ => Or.inr (Or.inl passed)
  by_cases buffered : row < session.client.rowcount
  · apply still (some (row - session.client.firstrowindex))
    · rw [fetchRowIntoBuffer, if_neg passed, if_pos buffered]
    · intro index found
      obtain rfl : _ = index := Option.some.inj found
      exact inStep.getElem? (Nat.le_of_not_lt passed) buffered
    · simp
  cases ended : session.client.endofresultset with
  | true =>
      apply still none
      · rw [fetchRowIntoBuffer, if_neg passed, if_neg buffered, if_pos ended]
      · simp
      · have := inStep.ended ended
        exact fun _ => Or.inl (by omega)
  | false =>
      by_cases reachable : session.connected = true ∨ session.client.cachesource.isSome = true
      · obtain ⟨canFetch, nothing_lost⟩ := inOrder (Nat.le_of_not_lt buffered) ended reachable
        exact serves_moving counted enough inStep (Nat.le_of_not_lt buffered) ended reachable
          canFetch nothing_lost
      · have lost : session.connected = false ∧ session.client.cachesource = none := by
          simpa using reachable
        apply still none
        · rw [fetchRowIntoBuffer, if_neg passed, if_neg buffered, if_neg (by simp [ended]),
            if_pos (by simp [lost.1, lost.2])]
        · simp
        · exact fun _ => Or.inr (Or.inr lost)

theorem serves_step (counted : rowCount < word) (enough : rowCount < bound)
    (inStep : InStep rowCount session) (action : Action)
    (inOrder : session.InOrder rowCount action) :
    session.Serves rowCount bound action ∧ InStep rowCount (session.step bound action) := by
  cases action with
  | access row => exact serves_access counted enough inStep row inOrder
  | setResultSetBufferSize rows =>
      exact ⟨trivial, ⟨⟨inStep.inside, inStep.notResumed, inStep.ended, inStep.fromServer,
        inStep.fromFile⟩, inStep.ordered, inStep.rows⟩⟩
  | disconnect =>
      exact ⟨trivial, ⟨⟨inStep.inside, inStep.notResumed, inStep.ended, inStep.fromServer,
        inStep.fromFile⟩, inStep.ordered, inStep.rows⟩⟩

/-- A client cursor that opens a result set reads it in step. -/
theorem opened_inStep (counted : rowCount < word) (rsbuffersize : Nat) (lazyfetch caching : Bool)
    (cachesource : Option CacheFile) (cached : ∀ file, cachesource = some file →
      file = ⟨rowCount, 0⟩) (fails : Bool) :
    InStep rowCount (opened (Client.cleared rsbuffersize lazyfetch caching cachesource)
      ⟨rowCount, fails, 0, lazyfetch⟩) := by
  let start : Session := ⟨Client.cleared rsbuffersize lazyfetch caching cachesource,
    ⟨rowCount, fails, 0, lazyfetch⟩, [], true⟩
  have inStep : InStep rowCount start :=
    { inside := Nat.zero_le _
      notResumed := fun _ => rfl
      ended := by
        intro ended
        simp [start, Client.cleared] at ended
      fromServer := fun _ _ => ⟨rfl, rfl, rfl⟩
      fromFile := by
        intro file _ given
        obtain rfl := cached file given
        exact ⟨rfl, rfl⟩
      ordered := le_rfl
      rows := rfl }
  cases lazyfetch with
  | true => exact inStep
  | false =>
      obtain ⟨reading, -⟩ := inStep.fetchResultSet counted rfl
      obtain ⟨parsed, parses, moved⟩ := reading.parseResults
      have opens : opened (Client.cleared rsbuffersize false caching cachesource)
          ⟨rowCount, fails, 0, false⟩ = parsed := congrArg Prod.snd parses
      rw [opens]
      exact moved.inStep

/-- In a run whose accesses are in order each access is served. -/
theorem serves_along (rowCount : Nat) (counted : rowCount < word) (bound : Nat)
    (enough : rowCount < bound) (rsbuffersize : Nat) (lazyfetch caching : Bool)
    (cachesource : Option CacheFile)
    (cached : ∀ file, cachesource = some file → file = ⟨rowCount, 0⟩) (fails : Bool)
    (actions : List Action)
    (inOrder : Along (step bound) (InOrder rowCount)
      (opened (Client.cleared rsbuffersize lazyfetch caching cachesource)
        ⟨rowCount, fails, 0, lazyfetch⟩) actions) :
    Along (step bound) (Serves rowCount bound)
      (opened (Client.cleared rsbuffersize lazyfetch caching cachesource)
        ⟨rowCount, fails, 0, lazyfetch⟩) actions := by
  have keeps : ∀ session action, InStep rowCount session → InOrder rowCount session action →
      InStep rowCount (step bound session action) :=
    fun session action inStep inOrder => (serves_step counted enough inStep action inOrder).2
  have shows : ∀ session action, InStep rowCount session → InOrder rowCount session action →
      Serves rowCount bound session action :=
    fun session action inStep inOrder => (serves_step counted enough inStep action inOrder).1
  exact Along.of_guard keeps shows
    (opened_inStep counted rsbuffersize lazyfetch caching cachesource cached fails) inOrder

/-- Six rows in buffers of two: the window moves on, past a buffer that is skipped, and to
the end. -/
theorem serves_along_sixRows :
    Along (step 7) (Serves 6 7) (opened (Client.cleared 2 false false none) ⟨6, false, 0, false⟩)
      [.access 1, .access 4, .setResultSetBufferSize 3, .access 5, .access 0] := by
  apply serves_along 6 (by decide) 7 (by decide) 2 false false none (by simp) false
  refine ⟨?_, ?_, trivial, ?_, ?_, trivial⟩
  · intro ahead
    exact absurd ahead (by decide)
  · intro _ _ _
    refine ⟨⟨?_, ?_, ?_⟩, Or.inl (by decide)⟩
    · intro none
      exact absurd none (by decide)
    · intro _ caching
      exact absurd caching (by decide)
    · intro _ _
      exact ⟨by decide, by decide, fun cached => absurd cached (by decide)⟩
  · intro ahead
    exact absurd ahead (by decide)
  · intro ahead
    exact absurd ahead (by decide)

/-- With buffers of five, row 4 would be skipped to from row 0, behind which the window is
already: the client asks the server to skip almost all rows there can be. -/
theorem not_serves_along :
    ¬ Along (step 7) (Serves 6 7) (opened (Client.cleared 2 false false none) ⟨6, false, 0, false⟩)
      [.access 2, .setResultSetBufferSize 5, .access 4] := by
  intro served
  have missing := (served.2.2.1.2.1 (by decide)).1
  rcases missing with behind | passed | lost
  · exact absurd behind (by decide)
  · exact absurd passed (by decide)
  · exact absurd lost.1 (by decide)

end Session

end SqlRelay.Window
