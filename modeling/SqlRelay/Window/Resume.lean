import SqlRelay.Window.Reading

/-!
# Resuming a suspended result set

`resumeResultSetCommand` of the server and `processInitialResultSet` of the client that
takes the result set over.  The server sends one number for the rows fetched before, and
the client makes its row counters of it.
-/

namespace SqlRelay.Window

open SqlRelay.Foundation SqlRelay.Rows

/-- The index of the last row that was fetched, as `resumeResultSetCommand` sends it. -/
def Server.lastRowIndex (server : Server) : Nat :=
  if server.totalRowsFetched ≠ 0 then server.totalRowsFetched - 1 else 0

/-- `resumeResultSetCommand`: the client's flags are read as the rows to skip, and rows are
sent unless the last query of the session was lazy. -/
def Server.resumeResultSet (server : Server) (flags fetch : Nat) : List (Message Nat) × Server :=
  if server.lazyfetch then ([], server) else server.respond flags fetch

namespace Session

/-- The client that takes the result set over, with the server's answer. -/
def answered (rsbuffersize : Nat) (lazyfetch : Bool) (server : Server) : Session :=
  let response := server.resumeResultSet (if lazyfetch then 1 else 0) rsbuffersize
  ⟨{ Client.cleared rsbuffersize lazyfetch false none with
    resumedlastrowindex := server.lastRowIndex }, response.2, response.1, true⟩

/-- `resumeResultSet`; without the rows that it waits for the client gives up. -/
def resumeResultSet (rsbuffersize : Nat) (lazyfetch : Bool) (server : Server) : Bool × Session :=
  let session := answered rsbuffersize lazyfetch server
  let client := session.client
  if lazyfetch then
    if client.resumedlastrowindex ≠ 0 then
      (true, { session with client := { client with
        rowcount := client.resumedlastrowindex + 1
        firstrowindex := client.resumedlastrowindex + 1 } })
    else (true, session)
  else session.parseResults

/-- An access to the next row yields that row, and its number is in the window; behind
the last row there is none. -/
def Continues (rowCount bound : Nat) (session : Session) : Action → Prop
  | .access row =>
      let fetched := session.fetchRowIntoBuffer bound row
      let client := fetched.2.client
      (if row < rowCount then
        (∃ index, fetched.1 = some index ∧ client.rows[index]? = some row) ∧
          client.firstrowindex ≤ row ∧ row < client.rowcount
      else fetched.1 = none) ∧
        (client.endofresultset = true → client.rowcount = rowCount)
  | _ => True

/-- The rows from a number on are delivered, one after the other, up to the end. -/
def ContinuesFrom (rowCount bound first : Nat) (resumed : Bool × Session) : Prop :=
  resumed.1 = true ∧ resumed.2.client.firstrowindex = first ∧
    Along (step bound) (Continues rowCount bound) resumed.2
      ((List.range' first (rowCount + 1 - first)).map .access)

end Session

/-- What the rows fetched before, the buffer size and lazy fetches must be like. -/
def Resumable (rowCount first rsbuffersize : Nat) (lazyfetch serverLazyfetch : Bool) : Prop :=
  first ≠ 1 ∧
    match lazyfetch, serverLazyfetch with
    | false, false =>
        rsbuffersize = 0 ∨ first % rsbuffersize = 0 ∨ rowCount < first + rsbuffersize
    | false, true => False
    | true, false =>
        first = rowCount ∧ (rsbuffersize = 0 ∨ first % rsbuffersize = 0 ∨ first < rsbuffersize)
    | true, true =>
        first % rsbuffersize = 0 ∨ first = rowCount ∧ (rsbuffersize = 0 ∨ first < rsbuffersize)

/-- The next window starts where this one ends and `fetchRowIntoBuffer` finds its rows. -/
structure Sequential (rowCount row : Nat) (session : Session) : Prop where
  inStep : InStep rowCount session
  connected : session.connected = true
  first : session.client.firstrowindex ≤ row
  last : row ≤ rowCount → row ≤ session.client.rowcount
  unlimited : session.client.endofresultset = false → session.client.rsbuffersize = 0 →
    session.client.rowcount = 0 ∨ session.client.rowcount = rowCount
  aligned : session.client.endofresultset = false → session.client.rsbuffersize ≠ 0 →
    session.client.rowcount % session.client.rsbuffersize = 0

namespace Sequential

variable {session : Session} {rowCount row : Nat}

theorem canFetch (sequential : Sequential rowCount row session)
    (more : session.client.endofresultset = false) (atEnd : row = session.client.rowcount) :
    CanFetch rowCount row session where
  unlimited := by
    intro none
    have := sequential.unlimited more none
    omega
  caching := fun limited _ => Or.inl (sequential.aligned more limited)
  skipping := by
    intro limited _
    have inside := sequential.inStep.inside
    rw [atEnd, sequential.aligned more limited, Nat.sub_zero]
    exact ⟨le_rfl, inside, fun _ => Or.inl rfl⟩

/-- The window that the next row brought is as good as the one before it. -/
theorem next (sequential : Sequential rowCount row session) {fetched : Session}
    (more : session.client.endofresultset = false) (atEnd : row = session.client.rowcount)
    (reached : Reached rowCount row session fetched) :
    Sequential rowCount (row + 1) fetched where
  inStep := reached.inStep
  connected := reached.connected.trans sequential.connected
  first := by
    by_cases inside : row < fetched.client.rowcount
    · have := (reached.index inside).1
      omega
    · have := reached.inStep.ordered
      omega
  last := by
    intro inside
    rcases reached.stopped with ended | further
    · exact (reached.inStep.ended ended).symm ▸ inside
    · exact further
  unlimited := by
    intro more' none
    have whole := reached.whole more'
    have further := reached.stopped.resolve_left (Bool.not_eq_true _ ▸ more')
    have := (reached.index further).1
    rw [← reached.size, none] at whole
    omega
  aligned := by
    intro more' limited
    have whole := reached.whole more'
    have further := reached.stopped.resolve_left (Bool.not_eq_true _ ▸ more')
    obtain ⟨first, index⟩ := reached.index further
    rw [reached.size] at limited
    have start := sequential.aligned more limited
    rw [if_neg limited, atEnd, start, ← atEnd] at index
    obtain rfl : fetched.client.firstrowindex = row := by omega
    rw [whole, reached.size, Nat.add_mod_right, atEnd, start]

/-- The next row is in the window, or there is none, or the window moves. -/
theorem continues_step {bound : Nat} (counted : rowCount < word) (enough : rowCount < bound)
    (sequential : Sequential rowCount row session) (inside : row ≤ rowCount) :
    Session.Continues rowCount bound session (.access row) ∧
      Sequential rowCount (row + 1) (Session.step bound session (.access row)) := by
  have passed : ¬ row < session.client.firstrowindex := Nat.not_lt.mpr sequential.first
  have inWindow := sequential.inStep.inside
  have reached_row := sequential.last inside
  by_cases buffered : row < session.client.rowcount
  · have finds : session.fetchRowIntoBuffer bound row =
        (some (row - session.client.firstrowindex), session) := by
      rw [Session.fetchRowIntoBuffer, if_neg passed, if_pos buffered]
    simp only [Session.Continues, Session.step, finds]
    rw [if_pos (buffered.trans_le inWindow)]
    refine ⟨⟨⟨⟨_, rfl, sequential.inStep.getElem? sequential.first buffered⟩, sequential.first,
      buffered⟩, sequential.inStep.ended⟩, ?_⟩
    exact ⟨sequential.inStep, sequential.connected, Nat.le_succ_of_le sequential.first,
      fun _ => buffered, sequential.unlimited, sequential.aligned⟩
  have atEnd : row = session.client.rowcount := by omega
  cases ended : session.client.endofresultset with
  | true =>
      have last := sequential.inStep.ended ended
      have stays : session.fetchRowIntoBuffer bound row = (none, session) := by
        rw [Session.fetchRowIntoBuffer, if_neg passed, if_neg buffered, if_pos ended]
      simp only [Session.Continues, Session.step, stays]
      rw [if_neg (by omega)]
      refine ⟨⟨trivial, sequential.inStep.ended⟩, ?_⟩
      exact ⟨sequential.inStep, sequential.connected, Nat.le_succ_of_le sequential.first,
        fun further => by omega, sequential.unlimited, sequential.aligned⟩
  | false =>
      obtain ⟨fetched, fetches, reached⟩ := sequential.inStep.fetchBlocks counted ended
        (sequential.canFetch ended atEnd) (Nat.le_of_eq atEnd.symm) enough
      have moves := Session.fetchRowIntoBuffer_moving sequential.inStep.ordered
        (Nat.le_of_eq atEnd.symm) ended (Or.inl sequential.connected) fetches reached
      have next := sequential.next ended atEnd reached
      by_cases further : row < fetched.client.rowcount
      · rw [if_pos further] at moves
        have first := (reached.index further).1
        simp only [Session.Continues, Session.step, moves]
        rw [if_pos (further.trans_le reached.inStep.inside)]
        exact ⟨⟨⟨⟨_, rfl, reached.inStep.getElem? first further⟩, first, further⟩,
          reached.inStep.ended⟩, next⟩
      · rw [if_neg further] at moves
        have last := reached.inStep.ended (reached.stopped.resolve_right further)
        simp only [Session.Continues, Session.step, moves]
        rw [if_neg (by omega)]
        exact ⟨⟨trivial, reached.inStep.ended⟩, next⟩

/-- From row to row up to the end. -/
theorem continues_along {bound : Nat} (counted : rowCount < word) (enough : rowCount < bound)
    (sequential : Sequential rowCount row session) (rows : Nat) (up_to : row + rows ≤ rowCount + 1) :
    Along (Session.step bound) (Session.Continues rowCount bound) session
      ((List.range' row rows).map .access) := by
  induction rows generalizing row session with
  | zero => trivial
  | succ rows ih =>
      obtain ⟨continues, next⟩ := sequential.continues_step counted enough (by omega)
      rw [List.range'_succ, List.map_cons]
      exact ⟨continues, ih next (by omega)⟩

end Sequential

namespace Session

/-- Where the window starts that the client makes of the number it got. -/
theorem resumeResultSet_first (rsbuffersize : Nat) (lazyfetch : Bool) (server : Server) :
    (resumeResultSet rsbuffersize lazyfetch server).2.client.firstrowindex =
      if server.lastRowIndex ≠ 0 then server.lastRowIndex + 1 else 0 := by
  cases lazyfetch with
  | false => simp [resumeResultSet, answered, parseResults, store, Client.cleared]
  | true =>
      by_cases resumed : server.lastRowIndex = 0 <;>
        simp [resumeResultSet, answered, Client.cleared, resumed]

end Session

/-- The number does not tell no row from one row. -/
theorem Server.lastRowIndex_told_apart (server : Server) :
    (if server.lastRowIndex ≠ 0 then server.lastRowIndex + 1 else 0) = server.totalRowsFetched ↔
      server.totalRowsFetched ≠ 1 := by
  rw [lastRowIndex]
  split <;> split <;> omega

namespace Session

variable {rowCount first rsbuffersize : Nat} {fails : Bool}

/-- Rows that are sent with the answer are the first window. -/
theorem resumeResultSet_eager (inside : first ≤ rowCount) (told_apart : first ≠ 1) :
    ∃ resumed,
      resumeResultSet rsbuffersize false ⟨rowCount, fails, first, false⟩ = (true, resumed) ∧
      Moved rowCount first (answered rsbuffersize false ⟨rowCount, fails, first, false⟩)
        resumed := by
  obtain ⟨reads, left⟩ := parseRows_respond ⟨rowCount, fails, first, false⟩ 0 rsbuffersize inside
  have reading : At rowCount first
      (answered rsbuffersize false ⟨rowCount, fails, first, false⟩) :=
    { more := rfl
      counter := by
        have := (Server.lastRowIndex_told_apart ⟨rowCount, fails, first, false⟩).mpr told_apart
        simpa [Client.counter, answered, Client.cleared] using this
      notResumed := by
        intro none
        simp [answered, Server.lastRowIndex, none]
      inside := inside
      reads := ⟨[], reads, fun _ => by
        simp [answered, Server.resumeResultSet, left, Client.cleared]⟩
      fromFile := by
        intro file given
        simp [answered, Client.cleared] at given }
  exact reading.parseResults

/-- A client that takes a result set over and fetches lazily. -/
def taken (rsbuffersize first : Nat) (server : Server) : Session :=
  let session := answered rsbuffersize true server
  { session with client := { session.client with rowcount := first, firstrowindex := first } }

theorem resumeResultSet_lazy (rsbuffersize : Nat) {server : Server}
    (told_apart : server.totalRowsFetched ≠ 1) :
    resumeResultSet rsbuffersize true server =
      (true, taken rsbuffersize server.totalRowsFetched server) := by
  have first := server.lastRowIndex_told_apart.mpr told_apart
  rw [resumeResultSet, taken]
  simp only [if_true]
  by_cases resumed : server.lastRowIndex = 0
  · rw [if_neg (by simpa using resumed)] at first
    simp [answered, resumed, ← first, Client.cleared]
  · rw [if_pos resumed] at first
    simp [answered, resumed, first]

/-- A server that only names the last row leaves the client in step. -/
theorem taken_inStep (inside : first ≤ rowCount) :
    InStep rowCount (taken rsbuffersize first ⟨rowCount, fails, first, true⟩) where
  inside := inside
  notResumed := by
    intro none
    obtain rfl : first = 0 := none
    rfl
  ended := by
    intro ended
    simp [taken, answered, Client.cleared] at ended
  fromServer := fun _ _ => ⟨rfl, rfl, rfl⟩
  fromFile := by
    intro file _ given
    simp [taken, answered, Client.cleared] at given
  ordered := le_rfl
  rows := by simp [taken, answered, Client.cleared]

section Ended

variable {session : Session} {row bound : Nat}

/-- Where the rows before a buffer are skipped to, also backwards. -/
theorem counter_skipped (small : session.client.rowcount < word)
    (limited : session.client.rsbuffersize ≠ 0) (direct : session.client.caching = false) :
    (session.client.rowcount + rowsToSkip session.client session.client.rowcount) % word =
      session.client.rowcount - session.client.rowcount % session.client.rsbuffersize := by
  have in_block := Nat.mod_le session.client.rowcount session.client.rsbuffersize
  simp only [rowsToSkip, direct, bne_iff_ne.mpr limited, Bool.not_false, Bool.and_self, if_true,
    Nat.add_mod_mod]
  have wraps : session.client.rowcount + (session.client.rowcount -
      session.client.rowcount % session.client.rsbuffersize +
      (word - session.client.rowcount)) = session.client.rowcount -
      session.client.rowcount % session.client.rsbuffersize + word := by omega
  rw [wraps, Nat.add_mod_right]
  exact Nat.mod_eq_of_lt (by omega)

/-- The row counter behind the rows that were to be skipped. -/
def skippedTo (session : Session) (row : Nat) : Nat :=
  { session.client with
    rowcount := (session.client.rowcount + rowsToSkip session.client row) % word }.counter

/-- What the server sends for a row that is not in the window. -/
def answer (session : Session) (row : Nat) : List (Message Nat) × Server :=
  session.server.respond (rowsToSkip session.client row) session.client.rsbuffersize

/-- A round of the loop for a result set that is not cached. -/
theorem fetchBlock_live (live : session.client.cachesource = none)
    (more : session.client.endofresultset = false) :
    session.fetchBlock row =
      let parsed := parseRows session.client.rsbuffersize 0
        (session.pending ++ (session.answer row).1)
      (parsed.ok,
        { session with server := (session.answer row).2 }.store (session.skippedTo row) parsed) := by
  obtain ⟨client, server, pending, connected⟩ := session
  obtain ⟨rsbuffersize, lazyfetch, ended, firstrowindex, last, rowcount, caching, source, rows⟩ := client
  obtain rfl : source = none := live
  obtain rfl : ended = false := more
  rfl

/-- The next message ends the result set. -/
structure EndsNext (row : Nat) (session : Session) : Prop where
  more : session.client.endofresultset = false
  connected : session.connected = true
  live : session.client.cachesource = none
  first : session.client.firstrowindex ≤ row
  ahead : session.client.rowcount ≤ row
  ending : ∃ message rest, Ends message ∧ session.pending ++ (session.answer row).1 = message :: rest

/-- What is left when no row came. -/
def exhausted (session : Session) (row : Nat) (rest : List (Message Nat)) : Session :=
  let asked := { session with server := (session.answer row).2 }
  asked.store (session.skippedTo row) ⟨[], true, true, rest⟩

theorem EndsNext.fetchRowIntoBuffer (endsNext : EndsNext row session) (enough : 0 < bound) :
    ∃ rest, (session.fetchRowIntoBuffer bound row).2 = session.exhausted row rest ∧
      (session.skippedTo row ≤ row →
        session.fetchRowIntoBuffer bound row = (none, session.exhausted row rest)) := by
  obtain ⟨message, rest, ends, answers⟩ := endsNext.ending
  have reads : parseRows session.client.rsbuffersize 0 (message :: rest) = ⟨[], true, true, rest⟩ := by
    rcases ends with rfl | rfl <;> rfl
  have fetches := @fetchBlock_live _ row endsNext.live endsNext.more
  simp only [answers, reads] at fetches
  obtain ⟨blocks, rfl⟩ := Nat.exists_eq_succ_of_ne_zero enough.ne'
  have stops : session.fetchBlocks row (blocks + 1) = (true, session.exhausted row rest) :=
    fetchBlocks_stop fetches (Or.inl rfl)
  refine ⟨rest, ?_⟩
  rw [Session.fetchRowIntoBuffer, if_neg (Nat.not_lt.mpr endsNext.first),
    if_neg (Nat.not_lt.mpr endsNext.ahead), if_neg (by simp [endsNext.more]),
    if_neg (by simp [endsNext.connected]), stops]
  constructor
  · simp only [apply_ite Prod.snd, ite_self]
  · intro short
    exact if_neg (by simp [exhausted, store, short])

/-- Then a row that there is does not come. -/
theorem EndsNext.passed {rowCount : Nat} (endsNext : EndsNext row session) (enough : 0 < bound)
    (continues : Continues rowCount bound session (.access row)) : rowCount ≤ row := by
  by_contra inside
  obtain ⟨rest, last, -⟩ := endsNext.fetchRowIntoBuffer enough
  simp only [Continues, Nat.not_le.mp inside, if_true, last] at continues
  obtain ⟨⟨⟨index, -, populated⟩, -⟩, -⟩ := continues
  simp [exhausted, store] at populated

/-- And the row counter stays at the rows that were to be skipped. -/
theorem EndsNext.continues_iff {rowCount : Nat} (endsNext : EndsNext row session)
    (enough : 0 < bound) (short : session.skippedTo row ≤ row) :
    Continues rowCount bound session (.access row) ↔
      rowCount ≤ row ∧ session.skippedTo row = rowCount := by
  obtain ⟨rest, -, missing⟩ := endsNext.fetchRowIntoBuffer enough
  simp only [Continues, missing short]
  by_cases inside : row < rowCount
  · simp [inside]
  · simp [exhausted, store, inside, Nat.not_lt.mp inside]

/-- From a window that does not end with a buffer the server is told to skip almost all rows
there can be. -/
theorem endsNext_misaligned {rowCount : Nat} (inStep : InStep rowCount session)
    (counted : rowCount < word) (more : session.client.endofresultset = false)
    (connected : session.connected = true) (live : session.client.cachesource = none)
    (direct : session.client.caching = false) (limited : session.client.rsbuffersize ≠ 0)
    (misaligned : session.client.rowcount % session.client.rsbuffersize ≠ 0) :
    EndsNext session.client.rowcount session where
  more := more
  connected := connected
  live := live
  first := inStep.ordered
  ahead := le_rfl
  ending := by
    obtain ⟨same, total, used⟩ := inStep.fromServer more live
    have inside := inStep.inside
    have in_block := Nat.mod_le session.client.rowcount session.client.rsbuffersize
    have skips : rowsToSkip session.client session.client.rowcount =
        word - session.client.rowcount % session.client.rsbuffersize := by
      simp only [rowsToSkip, direct, bne_iff_ne.mpr limited, Bool.not_false, Bool.and_self, if_true]
      rw [Nat.mod_eq_of_lt (by omega)]
      omega
    have beyond : session.server.rowCount < session.server.totalRowsFetched +
        (word - session.client.rowcount % session.client.rsbuffersize) := by omega
    refine ⟨.endResultSet, [], Or.inl rfl, ?_⟩
    rw [answer, skips, Server.respond, if_pos beyond, used, List.nil_append]

theorem skippedTo_limited (small : session.client.rowcount < word)
    (limited : session.client.rsbuffersize ≠ 0) (direct : session.client.caching = false) :
    session.skippedTo session.client.rowcount =
      let start := session.client.rowcount -
        session.client.rowcount % session.client.rsbuffersize
      if start = 0 ∧ session.client.resumedlastrowindex ≠ 0 then
        session.client.resumedlastrowindex + 1
      else start := by
  rw [skippedTo, counter_skipped small limited direct, Client.counter]

/-- Rows from a number on, and a server that is behind it. -/
structure Beyond (row : Nat) (session : Session) : Prop where
  live : session.client.cachesource = none
  pending : ∀ later, .row later ∈ session.pending → row < later
  total : row < session.server.totalRowsFetched
  rowCount : row < session.server.rowCount
  rows : row ∉ session.client.rows

end Ended

end Session

theorem parseRows_rows {limit count later : Nat} {messages : List (Message Nat)}
    (read : later ∈ (parseRows limit count messages).rows) : .row later ∈ messages := by
  induction messages generalizing count with
  | nil => simp [parseRows] at read
  | cons message rest ih =>
      cases message with
      | endResultSet => simp [parseRows] at read
      | fetchError => simp [parseRows] at read
      | row row =>
          rw [parseRows] at read
          split at read
          · simp only [List.mem_singleton] at read
            simp [read]
          · rcases List.mem_cons.mp read with rfl | later
            · simp
            · exact List.mem_cons_of_mem _ (ih later)

theorem parseRows_rest {limit count : Nat} {messages : List (Message Nat)} {message : Message Nat}
    (left : message ∈ (parseRows limit count messages).rest) : message ∈ messages := by
  induction messages generalizing count with
  | nil => simp [parseRows] at left
  | cons first rest ih =>
      cases first with
      | endResultSet => exact List.mem_cons_of_mem _ left
      | fetchError => exact List.mem_cons_of_mem _ left
      | row row =>
          rw [parseRows] at left
          split at left
          · exact List.mem_cons_of_mem _ left
          · exact List.mem_cons_of_mem _ (ih left)

namespace Server

theorem row_mem_stretch {start count row : Nat} :
    (.row row : Message Nat) ∈ Window.stretch start count ↔ start ≤ row ∧ row < start + count := by
  simp [Window.stretch, List.mem_range'_1]

variable {server : Server} {skip fetch : Nat}

/-- The server sends no row that it has fetched before or that is to be skipped. -/
theorem respond_later {row : Nat} (sent : .row row ∈ (server.respond skip fetch).1) :
    server.totalRowsFetched + skip ≤ row := by
  rw [respond] at sent
  split at sent
  · simp at sent
  · split at sent
    · rw [List.mem_append, row_mem_stretch] at sent
      rcases sent with within | last
      · omega
      · rw [List.mem_singleton, ending] at last
        split at last <;> cases last
    · rw [row_mem_stretch] at sent
      omega

theorem respond_last (skip fetch : Nat) (atEnd : server.rowCount ≤ server.totalRowsFetched) :
    ∃ message, Ends message ∧ (server.respond skip fetch).1 = [message] := by
  rw [respond]
  split
  · exact ⟨.endResultSet, Or.inl rfl, rfl⟩
  · refine ⟨server.ending, server.ending_ends, ?_⟩
    have none : server.rowCount - (server.totalRowsFetched + skip) = 0 := by omega
    rw [if_pos (by omega), none]
    rfl

theorem respond_total (row : Nat) (passed : row < server.totalRowsFetched + skip)
    (inside : row < server.rowCount) : row < (server.respond skip fetch).2.totalRowsFetched ∧
      row < (server.respond skip fetch).2.rowCount := by
  rw [respond]
  split
  · exact ⟨inside, inside⟩
  · split
    · exact ⟨inside, inside⟩
    · exact ⟨by simp only; omega, inside⟩

end Server

namespace Session

variable {session : Session} {row bound : Nat}

theorem Beyond.fetchBlock (beyond : Beyond row session)
    (more : session.client.endofresultset = false) : Beyond row (session.fetchBlock row).2 := by
  have later : ∀ later, .row later ∈ session.pending ++ (session.answer row).1 → row < later := by
    intro later sent
    rcases List.mem_append.mp sent with before | now
    · exact beyond.pending later before
    · have := Server.respond_later now
      have := beyond.total
      omega
  obtain ⟨total, rowCount⟩ := @Server.respond_total session.server (rowsToSkip session.client row)
    session.client.rsbuffersize row (Nat.lt_add_right _ beyond.total) beyond.rowCount
  rw [fetchBlock_live beyond.live more]
  exact
    { live := by simp [store, beyond.live]
      pending := by
        intro row' left
        simp only [store, beyond.live, Option.isSome_none, Bool.false_eq_true, if_false] at left
        exact later row' (parseRows_rest left)
      total := total
      rowCount := rowCount
      rows := fun read => Nat.lt_irrefl row (later row (parseRows_rows read)) }

theorem Beyond.fetchBlocks (blocks : Nat) (beyond : Beyond row session)
    (more : session.client.endofresultset = false) :
    Beyond row (session.fetchBlocks row blocks).2 := by
  induction blocks generalizing session with
  | zero => exact beyond
  | succ blocks ih =>
      have fetched := beyond.fetchBlock more
      rw [Session.fetchBlocks]
      split
      case isTrue again =>
        apply ih fetched
        simp only [Bool.and_eq_true] at again
        simpa using again.1.2
      case isFalse => exact fetched

/-- A row that was passed is not delivered. -/
theorem Beyond.not_continues {rowCount : Nat} (beyond : Beyond row session)
    (inside : row < rowCount) : ¬ Continues rowCount bound session (.access row) := by
  intro continues
  have fetched : Beyond row (session.fetchRowIntoBuffer bound row).2 := by
    rw [fetchRowIntoBuffer]
    split
    · exact beyond
    split
    · exact beyond
    split
    · exact beyond
    split
    · exact beyond
    case isFalse more _ =>
      have fetched := beyond.fetchBlocks bound (Bool.not_eq_true _ ▸ more)
      simp only [apply_ite Prod.snd, ite_self]
      exact fetched
  simp only [Continues, inside, if_true] at continues
  obtain ⟨⟨⟨index, -, populated⟩, -⟩, -⟩ := continues
  exact fetched.rows (List.mem_of_getElem? populated)

variable {rowCount first rsbuffersize : Nat} {fails serverLazyfetch : Bool}

theorem parseResults_live (session : Session) (live : session.client.cachesource = none) :
    session.parseResults.2.client.cachesource = none := by
  rw [parseResults]
  split
  · exact live
  · simp [store, live]

/-- Accesses within the window leave the client as it is. -/
theorem foldl_buffered (start rows : Nat) (passed : session.client.firstrowindex ≤ start)
    (inside : start + rows ≤ session.client.rowcount) :
    ((List.range' start rows).map .access).foldl (step bound) session = session := by
  induction rows generalizing start with
  | zero => rfl
  | succ rows ih =>
      have stays : step bound session (.access start) = session := by
        rw [step, fetchRowIntoBuffer, if_neg (by omega), if_pos (by omega)]
      rw [List.range'_succ, List.map_cons, List.foldl_cons, stays]
      exact ih (start + 1) (by omega) (by omega)

theorem continuesFrom_eager (counted : rowCount < word) (enough : rowCount < bound)
    (inside : first ≤ rowCount) (told_apart : first ≠ 1) :
    ContinuesFrom rowCount bound first
        (resumeResultSet rsbuffersize false ⟨rowCount, fails, first, false⟩) ↔
      rsbuffersize = 0 ∨ first % rsbuffersize = 0 ∨ rowCount < first + rsbuffersize := by
  obtain ⟨resumed, resumes, moved⟩ :=
    @resumeResultSet_eager rowCount first rsbuffersize fails inside told_apart
  have size : resumed.client.rsbuffersize = rsbuffersize := moved.size
  have connected : resumed.connected = true := moved.connected
  have ended : resumed.client.endofresultset =
      decide (rsbuffersize = 0 ∨ rowCount < first + rsbuffersize) := moved.ended
  have full : resumed.client.endofresultset = false →
      resumed.client.rowcount = first + rsbuffersize := moved.full
  simp only [ContinuesFrom, resumes, moved.first, true_and]
  constructor
  · intro along
    by_contra misaligned
    simp only [not_or, Nat.not_lt] at misaligned
    obtain ⟨limited, misaligned, more_rows⟩ := misaligned
    have more : resumed.client.endofresultset = false := by
      rw [ended]
      simp [limited, more_rows]
    have last := full more
    -- behind the rows of the first window the client asks for more
    have whole : rowCount + 1 - first = rsbuffersize + (rowCount - first - rsbuffersize + 1) := by
      omega
    rw [whole, ← List.range'_append_1, List.map_append, Along.append_iff,
      foldl_buffered first rsbuffersize (Nat.le_of_eq moved.first) (Nat.le_of_eq last.symm),
      List.range'_succ, List.map_cons, ← last] at along
    have small := moved.inStep.inside.trans_lt counted
    have live : resumed.client.cachesource = none := by
      have reads : (answered rsbuffersize false ⟨rowCount, fails, first, false⟩).parseResults =
          (true, resumed) := resumes
      have parsed := parseResults_live
        (answered rsbuffersize false ⟨rowCount, fails, first, false⟩) rfl
      rwa [reads] at parsed
    have direct : resumed.client.caching = false := moved.caching
    have mod : resumed.client.rowcount % resumed.client.rsbuffersize = first % rsbuffersize := by
      rw [last, size, Nat.add_mod_right]
    have endsNext := endsNext_misaligned moved.inStep counted more connected live direct
      (size ▸ limited) (mod ▸ misaligned)
    have below := Nat.mod_lt first (Nat.pos_of_ne_zero limited)
    have skipped : resumed.skippedTo resumed.client.rowcount =
        resumed.client.rowcount - first % rsbuffersize := by
      rw [skippedTo_limited small (size ▸ limited) direct, mod]
      exact if_neg (by omega)
    have continues := (endsNext.continues_iff (by omega) (by omega)).mp along.2.1
    have := moved.inStep.inside
    omega
  · intro aligned
    apply Sequential.continues_along counted enough _ _ (by omega)
    exact
      { inStep := moved.inStep
        connected := connected
        first := Nat.le_of_eq moved.first
        last := by
          intro _
          rw [moved.last]
          exact Nat.le_add_right _ _
        unlimited := by
          intro more none
          rw [ended, decide_eq_false_iff_not] at more
          exact absurd (Or.inl (size ▸ none)) more
        aligned := by
          intro more limited
          have last := full more
          rw [ended, decide_eq_false_iff_not] at more
          rw [last, size, Nat.add_mod_right]
          rw [size] at limited
          omega }

/-- The row counter goes back to the start of a buffer, or with no rows left to the number
that was sent. -/
theorem skippedTo_taken (counted : rowCount < word) (told_apart : rowCount ≠ 1) :
    let session := taken rsbuffersize rowCount ⟨rowCount, fails, rowCount, serverLazyfetch⟩
    session.skippedTo rowCount ≤ rowCount ∧ (session.skippedTo rowCount = rowCount ↔
      rsbuffersize = 0 ∨ rowCount % rsbuffersize = 0 ∨ rowCount < rsbuffersize) := by
  intro session
  have resumed : session.client.resumedlastrowindex = rowCount - 1 := by
    simp only [session, taken, answered, Server.lastRowIndex]
    split <;> omega
  by_cases unlimited : rsbuffersize = 0
  · have stays : session.skippedTo rowCount = rowCount := by
      have none : rowsToSkip session.client rowCount = 0 := by
        simp [rowsToSkip, session, taken, answered, Client.cleared, unlimited]
      have counter : session.client.rowcount = rowCount := rfl
      rw [skippedTo, none, Nat.add_zero, counter, Nat.mod_eq_of_lt counted, Client.counter,
        resumed]
      exact if_neg (by simp only; omega)
    simp [stays, unlimited]
  · have skipped : session.skippedTo rowCount =
        if rowCount - rowCount % rsbuffersize = 0 ∧ rowCount - 1 ≠ 0 then rowCount - 1 + 1
        else rowCount - rowCount % rsbuffersize := by
      rw [← resumed]
      exact @skippedTo_limited session counted unlimited rfl
    have below := Nat.mod_lt rowCount (Nat.pos_of_ne_zero unlimited)
    have in_block := Nat.mod_le rowCount rsbuffersize
    have first_buffer : rowCount < rsbuffersize → rowCount % rsbuffersize = rowCount :=
      Nat.mod_eq_of_lt
    rw [skipped]
    constructor
    · split <;> omega
    · split <;> omega

/-- Behind the last row a lazy client asks for more once. -/
theorem continuesFrom_lazy_last (counted : rowCount < word) (enough : rowCount < bound)
    (told_apart : rowCount ≠ 1) :
    ContinuesFrom rowCount bound rowCount
        (resumeResultSet rsbuffersize true ⟨rowCount, fails, rowCount, serverLazyfetch⟩) ↔
      rsbuffersize = 0 ∨ rowCount % rsbuffersize = 0 ∨ rowCount < rsbuffersize := by
  let server : Server := ⟨rowCount, fails, rowCount, serverLazyfetch⟩
  let session := taken rsbuffersize rowCount server
  have resumes : resumeResultSet rsbuffersize true server = (true, session) :=
    resumeResultSet_lazy rsbuffersize told_apart
  have ending : ∃ message rest, Ends message ∧
      session.pending ++ (session.answer rowCount).1 = message :: rest := by
    cases serverLazyfetch with
    | false =>
        have sent : session.pending = [.endResultSet] :=
          congrArg Prod.fst (if_pos (Nat.lt_succ_self rowCount))
        exact ⟨.endResultSet, (session.answer rowCount).1, Or.inl rfl, by rw [sent]; rfl⟩
    | true =>
        obtain ⟨message, ends, sent⟩ := @Server.respond_last server
          (rowsToSkip session.client rowCount) rsbuffersize le_rfl
        exact ⟨message, [], ends, sent⟩
  have endsNext : EndsNext rowCount session := ⟨rfl, rfl, rfl, le_rfl, le_rfl, ending⟩
  obtain ⟨short, skipped⟩ := @skippedTo_taken rowCount rsbuffersize fails serverLazyfetch counted
    told_apart
  have one : rowCount + 1 - rowCount = 1 := by omega
  change ContinuesFrom rowCount bound rowCount (resumeResultSet rsbuffersize true server) ↔ _
  rw [ContinuesFrom, resumes, one, ← skipped]
  have continues := @EndsNext.continues_iff session rowCount bound rowCount endsNext
    (Nat.zero_lt_of_lt enough) short
  simp only [le_refl, true_and] at continues
  constructor
  · intro delivered
    exact continues.mp delivered.2.2.1
  · intro last
    exact ⟨rfl, rfl, continues.mpr last, trivial⟩

/-- The rows of an unlimited window are looked for as if it started at row 0. -/
theorem not_continues_unlimited {session : Session} (inStep : InStep rowCount session)
    (counted : rowCount < word) (enough : rowCount < bound)
    (more : session.client.endofresultset = false) (connected : session.connected = true)
    (unlimited : session.client.rsbuffersize = 0) (some_rows : 0 < session.client.rowcount)
    (inside : session.client.rowcount < rowCount) :
    ¬ Continues rowCount bound session (.access session.client.rowcount) := by
  have none : rowsToSkip session.client session.client.rowcount = 0 := by
    simp [rowsToSkip, unlimited]
  obtain ⟨fetched, fetches, moved⟩ := inStep.fetchBlock counted more
    ⟨none ▸ inStep.inside, fun _ => Or.inl none⟩
  have ended : fetched.client.endofresultset = true := by
    rw [moved.ended, unlimited]
    simp
  have last := moved.inStep.ended ended
  obtain ⟨blocks, rfl⟩ := Nat.exists_eq_succ_of_ne_zero (Nat.ne_zero_of_lt enough)
  have finds : session.fetchRowIntoBuffer (blocks + 1) session.client.rowcount =
      (some session.client.rowcount, fetched) := by
    rw [fetchRowIntoBuffer, if_neg (Nat.not_lt.mpr inStep.ordered), if_neg (Nat.lt_irrefl _),
      if_neg (by simp [more]), if_neg (by simp [connected]),
      fetchBlocks_stop fetches (Or.inl ended)]
    simp [last, inside, unlimited]
  simp only [Continues, finds, if_pos inside]
  rintro ⟨⟨⟨index, found, populated⟩, -⟩, -⟩
  obtain rfl : _ = index := Option.some.inj found
  rw [moved.inStep.rows, moved.first, none, List.getElem?_eq_some_iff] at populated
  obtain ⟨_, twice⟩ := populated
  rw [List.getElem_range'] at twice
  omega

/-- Without rows in the answer the next row is read where the client stands, if a buffer
starts there. -/
theorem continuesFrom_lazy_inside (counted : rowCount < word) (enough : rowCount < bound)
    (inside : first < rowCount) (told_apart : first ≠ 1) :
    ContinuesFrom rowCount bound first
        (resumeResultSet rsbuffersize true ⟨rowCount, fails, first, true⟩) ↔
      first % rsbuffersize = 0 := by
  let server : Server := ⟨rowCount, fails, first, true⟩
  let session := taken rsbuffersize first server
  have resumes : resumeResultSet rsbuffersize true server = (true, session) :=
    resumeResultSet_lazy rsbuffersize told_apart
  have inStep : InStep rowCount session := taken_inStep (Nat.le_of_lt inside)
  change ContinuesFrom rowCount bound first (resumeResultSet rsbuffersize true server) ↔ _
  rw [ContinuesFrom, resumes]
  constructor
  · rintro ⟨-, -, along⟩
    by_contra misaligned
    have rows_left : rowCount + 1 - first = rowCount - first + 1 := by omega
    rw [rows_left, List.range'_succ, List.map_cons] at along
    have continues : Continues rowCount bound session (.access first) := along.1
    by_cases limited : rsbuffersize = 0
    · rw [limited, Nat.mod_zero] at misaligned
      exact not_continues_unlimited inStep counted enough rfl rfl limited
        (Nat.pos_of_ne_zero misaligned) inside continues
    · have endsNext : EndsNext first session :=
        endsNext_misaligned inStep counted rfl rfl rfl rfl limited misaligned
      exact absurd inside (Nat.not_lt.mpr (endsNext.passed (Nat.zero_lt_of_lt enough) continues))
  · intro aligned
    refine ⟨rfl, rfl, Sequential.continues_along counted enough ?_ _ (by omega)⟩
    exact
      { inStep := inStep
        connected := rfl
        first := le_rfl
        last := fun _ => le_rfl
        unlimited := by
          intro _ none
          obtain rfl : rsbuffersize = 0 := none
          exact Or.inl ((Nat.mod_zero first).symm.trans aligned)
        aligned := fun _ _ => aligned }

/-- The server skips a row for the flag of a lazy client. -/
theorem not_continuesFrom_skipped (inside : first < rowCount) (told_apart : first ≠ 1) :
    ¬ ContinuesFrom rowCount bound first
        (resumeResultSet rsbuffersize true ⟨rowCount, fails, first, false⟩) := by
  let server : Server := ⟨rowCount, fails, first, false⟩
  have resumes : resumeResultSet rsbuffersize true server = (true, taken rsbuffersize first server) :=
    resumeResultSet_lazy rsbuffersize told_apart
  have totals := @Server.respond_total server 1 rsbuffersize first (Nat.lt_succ_self first) inside
  have beyond : Beyond first (taken rsbuffersize first server) :=
    { live := rfl
      pending := by
        intro later sent
        exact @Server.respond_later server 1 rsbuffersize later sent
      total := totals.1
      rowCount := totals.2
      rows := List.not_mem_nil }
  change ¬ ContinuesFrom rowCount bound first (resumeResultSet rsbuffersize true server)
  rw [ContinuesFrom, resumes]
  rintro ⟨-, -, along⟩
  have rows_left : rowCount + 1 - first = rowCount - first + 1 := by omega
  rw [rows_left, List.range'_succ, List.map_cons] at along
  exact beyond.not_continues inside along.1

/-- A client that waits for rows of a lazy server gives up. -/
theorem not_continuesFrom_waiting :
    ¬ ContinuesFrom rowCount bound first
        (resumeResultSet rsbuffersize false ⟨rowCount, fails, first, true⟩) := by
  intro delivered
  have resumed := delivered.1
  simp [resumeResultSet, answered, parseResults, Server.resumeResultSet, incoming, parseRows,
    Client.cleared] at resumed

/-- A suspended result set is continued where it was left exactly if the number that was sent
tells the rows fetched before, and buffers start there. -/
theorem continuesFrom_iff (rowCount : Nat) (counted : rowCount < word) (bound : Nat)
    (enough : rowCount < bound) (first : Nat) (inside : first ≤ rowCount) (rsbuffersize : Nat)
    (lazyfetch serverLazyfetch fails : Bool) :
    ContinuesFrom rowCount bound first (resumeResultSet rsbuffersize lazyfetch
        ⟨rowCount, fails, first, serverLazyfetch⟩) ↔
      Resumable rowCount first rsbuffersize lazyfetch serverLazyfetch := by
  by_cases told_apart : first = 1
  · have other : ¬ (first ≠ 1) := not_not.mpr told_apart
    constructor
    · intro delivered
      have start := resumeResultSet_first rsbuffersize lazyfetch
        ⟨rowCount, fails, first, serverLazyfetch⟩
      rw [delivered.2.1] at start
      exact absurd ((Server.lastRowIndex_told_apart _).mp start.symm) other
    · intro resumable
      exact absurd resumable.1 other
  cases lazyfetch with
  | false =>
      cases serverLazyfetch with
      | false =>
          rw [continuesFrom_eager counted enough inside told_apart]
          simp [Resumable, told_apart]
      | true => simp [Resumable, not_continuesFrom_waiting]
  | true =>
      rcases Nat.lt_or_eq_of_le inside with short | rfl
      · have ahead := Nat.ne_of_lt short
        cases serverLazyfetch with
        | false => simp [Resumable, ahead, not_continuesFrom_skipped short told_apart]
        | true =>
            rw [continuesFrom_lazy_inside counted enough short told_apart]
            simp [Resumable, ahead, told_apart]
      · rw [continuesFrom_lazy_last counted enough told_apart]
        cases serverLazyfetch with
        | false => simp [Resumable, told_apart]
        | true =>
            simp only [Resumable, ne_eq, told_apart, not_false_eq_true, true_and]
            exact or_left_comm

/-- Three of five rows were fetched in a buffer of three, which fits. -/
theorem continuesFrom_iff_three :
    ContinuesFrom 5 6 3 (resumeResultSet 3 false ⟨5, false, 3, false⟩) :=
  (continuesFrom_iff 5 (by decide) 6 (by decide) 3 (by decide) 3 false false false).mpr
    ⟨by decide, Or.inr (Or.inl (by decide))⟩

/-- One row was fetched before: row 1 comes as row 0. -/
theorem not_continuesFrom :
    ¬ ContinuesFrom 2 3 1 (resumeResultSet 0 false ⟨2, false, 1, false⟩) := by
  intro delivered
  exact absurd delivered.2.1 (by decide)

end Session

end SqlRelay.Window
