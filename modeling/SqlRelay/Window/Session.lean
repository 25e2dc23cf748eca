import SqlRelay.Rows.Response

/-!
# The row window of a client cursor

A client cursor holds a window of the rows of its result set, fetched from the server or
read from a cache file.  This module has the functions that move the window: `skipRows`,
`parseResults` and `fetchRowIntoBuffer`.  None of them looks into a row, so a row is known
by its number in the result set.
-/

namespace SqlRelay.Window

open SqlRelay.Rows

/-- Row counters are unsigned and of 64 bits. -/
def word : Nat := 18446744073709551616

/-- The server's side of a result set. -/
structure Server where
  /-- The rows that the query returned. -/
  rowCount : Nat
  /-- The data ends in an error. -/
  fails : Bool
  totalRowsFetched : Nat
  lazyfetch : Bool

/-- Rows on their way to the client. -/
def stretch (start count : Nat) : List (Message Nat) :=
  (List.range' start count).map .row

namespace Server

def ending (server : Server) : Message Nat :=
  if server.fails then .fetchError else .endResultSet

/-- What the server sends when rows are skipped and fetched, and what it is left with. -/
def respond (server : Server) (skip fetch : Nat) : List (Message Nat) × Server :=
  let start := server.totalRowsFetched + skip
  if server.rowCount < start then
    ([.endResultSet], { server with totalRowsFetched := server.rowCount })
  else if fetch = 0 ∨ server.rowCount < start + fetch then
    (stretch start (server.rowCount - start) ++ [server.ending],
      { server with totalRowsFetched := server.rowCount })
  else (stretch start fetch, { server with totalRowsFetched := start + fetch })

/-- The controller that holds the result set, without row block translations. -/
def controller (server : Server) (stays : Bool) : Controller Nat Unit where
  translations := none
  reformatRow := some
  cursor := ⟨((List.range server.rowCount).drop server.totalRowsFetched).map .row ++
    (if server.fails then [.failure] else []), stays⟩
  totalRowsFetched := server.totalRowsFetched
  fields := 0

/-- How the data of the server ends. -/
def dataEnding (server : Server) : Ending Nat :=
  if server.fails then .failure [] else .endOfData

/-- The rows of the server go to the client as they are. -/
def direct (stays : Bool) : Setting Nat Unit := ⟨none, [], some, stays⟩

theorem direct_sound (stays : Bool) : (direct stays).Sound := by
  intro size given
  simp [direct] at given

theorem direct_delivered {stays : Bool} {rowCount row : Nat} (inside : row < rowCount) :
    (direct stays).delivered (List.range rowCount) row = some row := by
  simp [direct, Setting.delivered, Setting.translated, List.getElem?_range inside]

theorem direct_stretch (stays : Bool) {rowCount start count : Nat}
    (inside : start + count ≤ rowCount) :
    (direct stays).stretch (List.range rowCount) start count = Window.stretch start count := by
  rw [Setting.stretch, Window.stretch]
  congr 1
  rw [List.filterMap_congr (g := some)]
  · simp
  · intro row member
    have := List.mem_range'_1.mp member
    exact direct_delivered (by omega)

theorem controller_inStep (server : Server) (stays : Bool)
    (inside : server.totalRowsFetched ≤ server.rowCount) :
    (server.controller stays).InStep (direct stays) (List.range server.rowCount)
      server.dataEnding where
  reformatRow := rfl
  stays := rfl
  inside := by simpa [controller] using inside
  blocks := rfl
  direct := by
    intro _
    rw [Cursor.StandsAt, controller, dataEnding]
    cases server.fails <;> rfl
  inBlocks := by
    intro translations given
    simp [controller] at given

/-- What the server sends is what `returnResultSetData` sends. -/
theorem respond_eq (server : Server) (stays : Bool) (protocol : Protocol)
    (fetches : protocol.Fetches) (version : 2 ≤ protocol.protocolversion) (skip fetch bound : Nat)
    (inside : server.totalRowsFetched ≤ server.rowCount) (enough : server.rowCount < bound) :
    (returnResultSetData protocol bound ⟨skip, fetch⟩ (server.controller stays)).sent =
      (server.respond skip fetch).1 := by
  have inStep := server.controller_inStep stays inside
  have aligned : (direct stays).FailsAtBlockStart (List.range server.rowCount)
      server.dataEnding := by
    intro size given
    simp [direct] at given
  have canSkip : (direct stays).CanSkip (List.range server.rowCount)
      server.totalRowsFetched skip := by
    intro size given
    simp [direct] at given
  have last_message : (endMessage protocol server.dataEnding.fails : Message Nat) =
      server.ending := by
    rw [endMessage, dataEnding, ending]
    cases server.fails <;> simp [Ending.fails, version]
  rw [respond]
  split
  case isTrue beyond =>
    obtain ⟨none_left, -⟩ := Controller.skipRows_beyond false skip (inStep.direct rfl).eq_mk
      (by simp [controller]; omega)
    have unreported := Controller.skipRows_error false skip (server.controller stays)
    simp [returnResultSetData, fetches.1, fetches.2, none_left, unreported]
  case isFalse within =>
    obtain ⟨skipped, returns, total, behind⟩ := @returnResultSetData_skipped _ _ _ _ _ _ _
      fetches bound ⟨skip, fetch⟩ inStep (direct_sound stays) aligned canSkip
      (by simp [controller]; omega)
    have start : skipped.totalRowsFetched = server.totalRowsFetched + skip := total
    have accepts : ∀ count, server.totalRowsFetched + skip + count ≤ server.rowCount →
        (direct stays).Accepts (List.range server.rowCount) skipped.totalRowsFetched count := by
      intro count fits position _ before
      rw [direct_delivered (by omega)]
      rfl
    have rounds : returnResultSetData protocol bound ⟨skip, fetch⟩ (server.controller stays) =
        returnRows protocol (if fetch = 0 then bound else fetch) skipped := returns
    rw [rounds]
    by_cases last : fetch = 0 ∨ server.rowCount < server.totalRowsFetched + skip + fetch
    · obtain ⟨sent, -⟩ := returnRows_to_end protocol (if fetch = 0 then bound else fetch)
        (server.rowCount - (server.totalRowsFetched + skip)) behind (direct_sound stays) aligned
        (by rw [start, List.length_range]; omega) (by split <;> omega) (accepts _ (by omega))
      rw [sent, start, direct_stretch stays (by omega), last_message, if_pos last]
    · have limited : fetch ≠ 0 := fun none => last (Or.inl none)
      obtain ⟨reached, sends, -⟩ := returnRows_within protocol fetch behind (direct_sound stays)
        aligned (by rw [start, List.length_range]; omega) (accepts _ (by omega))
      rw [if_neg limited, sends, if_neg last, start, direct_stretch stays (by omega)]

/-- Two rows of five are skipped and two are fetched. -/
theorem respond_eq_fiveRows :
    (returnResultSetData ⟨2, false, false, false⟩ 6 ⟨2, 2⟩
      ((⟨5, false, 0, false⟩ : Server).controller true)).sent =
      ((⟨5, false, 0, false⟩ : Server).respond 2 2).1 :=
  respond_eq ⟨5, false, 0, false⟩ true ⟨2, false, false, false⟩ ⟨by decide, by decide⟩ (by decide) 2 2
    6 (by decide) (by decide)

end Server

/-- A cache file with its index, read up to a row. -/
structure CacheFile where
  rowCount : Nat
  position : Nat

/-- A client cursor; `caching` while `_cachedest` is open. -/
structure Client where
  rsbuffersize : Nat
  lazyfetch : Bool
  endofresultset : Bool
  firstrowindex : Nat
  resumedlastrowindex : Nat
  rowcount : Nat
  caching : Bool
  cachesource : Option CacheFile
  /-- The populated rows of the row buffers. -/
  rows : List Nat

/-- A client cursor and what it reads from; `pending` is what the server sent and the
client has not read. -/
structure Session where
  client : Client
  server : Server
  pending : List (Message Nat)
  connected : Bool

/-- What reading rows yields, and what is left unread. -/
structure Parsed where
  rows : List Nat
  ended : Bool
  ok : Bool
  rest : List (Message Nat)

/-- The loop of `parseResults`; `count` is its `rowblockcount`. -/
def parseRows (limit : Nat) : Nat → List (Message Nat) → Parsed
  | _, [] => ⟨[], true, false, []⟩
  | _, .endResultSet :: rest => ⟨[], true, true, rest⟩
  | _, .fetchError :: rest => ⟨[], true, true, rest⟩
  | count, .row row :: rest =>
      if limit ≠ 0 ∧ count + 1 = limit then ⟨[row], false, true, rest⟩
      else
        let later := parseRows limit (count + 1) rest
        { later with rows := row :: later.rows }

namespace Session

/-- What the client reads next. -/
def incoming (session : Session) : List (Message Nat) :=
  match session.client.cachesource with
  | some file => stretch file.position (file.rowCount - file.position) ++ [.endResultSet]
  | none => session.pending

/-- What `parseResults` leaves when the rows that it read start at a row number. -/
def store (session : Session) (firstrowindex : Nat) (parsed : Parsed) : Session :=
  let client := session.client
  { session with
    client := { client with
      firstrowindex := firstrowindex
      rowcount := firstrowindex + parsed.rows.length
      rows := parsed.rows
      endofresultset := parsed.ended
      caching := client.caching && !parsed.ended
      cachesource :=
        if parsed.ended then none
        else client.cachesource.map fun file =>
          { file with position := file.position + parsed.rows.length } }
    pending := if client.cachesource.isSome then session.pending else parsed.rest }

/-- `parseResults` -/
def parseResults (session : Session) : Bool × Session :=
  let client := session.client
  if client.endofresultset then (true, session)
  else
    let rowcount :=
      if client.rowcount = 0 ∧ client.resumedlastrowindex ≠ 0 then client.resumedlastrowindex + 1
      else client.rowcount
    let parsed := parseRows client.rsbuffersize 0 session.incoming
    (parsed.ok, session.store rowcount parsed)

/-- `skipRows`, after the initial fetch; the index has an entry for each row. -/
def skipRows (session : Session) (rowstoskip : Nat) : Bool × Session :=
  let rowcount := (session.client.rowcount + rowstoskip) % word
  let client := { session.client with rowcount := rowcount }
  match client.cachesource with
  | some file =>
      if rowstoskip = 0 then (true, { session with client := client })
      else if rowcount < file.rowCount then
        (true, { session with client := { client with
          cachesource := some { file with position := rowcount } } })
      else (false, { session with client := { client with
        endofresultset := true, caching := false } })
  | none => (true, { session with client := client })

/-- A live result set is fetched from the server. -/
def fetchResultSet (session : Session) (rowstoskip : Nat) : Session :=
  if session.client.cachesource.isSome then session
  else
    let response := session.server.respond rowstoskip session.client.rsbuffersize
    { session with server := response.2, pending := session.pending ++ response.1 }

/-- The rows to skip, computed modulo 2^64. -/
def rowsToSkip (client : Client) (row : Nat) : Nat :=
  if !client.caching && client.rsbuffersize != 0 then
    (row - row % client.rsbuffersize + (word - client.rowcount)) % word
  else 0

/-- The body of the loop of `fetchRowIntoBuffer`. -/
def fetchBlock (session : Session) (row : Nat) : Bool × Session :=
  let cleared := { session with client := { session.client with rows := [] } }
  let rowstoskip := rowsToSkip cleared.client row
  let skipped := cleared.skipRows rowstoskip
  if skipped.1 then (skipped.2.fetchResultSet rowstoskip).parseResults else skipped

/-- The loop of `fetchRowIntoBuffer`, followed for a number of blocks. -/
def fetchBlocks (row : Nat) : Nat → Session → Bool × Session
  | 0, session => (true, session)
  | blocks + 1, session =>
      let fetched := session.fetchBlock row
      if fetched.1 && !fetched.2.client.endofresultset && fetched.2.client.rowcount ≤ row then
        fetchBlocks row blocks fetched.2
      else fetched

/-- `fetchRowIntoBuffer`: the row buffer index, if it returns true. -/
def fetchRowIntoBuffer (bound : Nat) (session : Session) (row : Nat) : Option Nat × Session :=
  let client := session.client
  if row < client.firstrowindex then (none, session)
  else if row < client.rowcount then (some (row - client.firstrowindex), session)
  else if client.endofresultset then (none, session)
  else if !session.connected && !client.cachesource.isSome then (none, session)
  else
    let fetched := session.fetchBlocks row bound
    if fetched.1 && row < fetched.2.client.rowcount then
      (some (if client.rsbuffersize = 0 then row else row % client.rsbuffersize), fetched.2)
    else (none, fetched.2)

/-- A result set is opened: the initial rows are fetched, unless fetches are lazy. -/
def opened (client : Client) (server : Server) : Session :=
  let session : Session := ⟨client, server, [], true⟩
  if client.lazyfetch then session else (session.fetchResultSet 0).parseResults.2

end Session

/-- A client cursor before it reads the result set. -/
def Client.cleared (rsbuffersize : Nat) (lazyfetch caching : Bool)
    (cachesource : Option CacheFile) : Client where
  rsbuffersize := rsbuffersize
  lazyfetch := lazyfetch
  endofresultset := false
  firstrowindex := 0
  resumedlastrowindex := 0
  rowcount := 0
  caching := caching
  cachesource := cachesource
  rows := []

end SqlRelay.Window
