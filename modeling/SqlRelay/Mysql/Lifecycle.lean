import SqlRelay.Foundation.Run
import SqlRelay.Mysql.Statements

/-!
# Which cursors are busy

A cursor is taken before it is known whether the statement can be prepared, and it is found again by
an id that nobody checks.  So the busy cursors are the statements that the client knows of only while
every statement that a cursor is taken for is prepared, and the client names no others.
-/

namespace SqlRelay.Mysql

open SqlRelay.Foundation SqlRelay.Cursors

/-- A server, with the statements that were reported prepared and have not been closed. -/
structure Watched where
  server : Server
  opened : Nat → Bool

/-- The id that a request to execute, fetch or close names. -/
def Request.names : Request → Option Nat
  | .stmtExecute packet _ => some (Server.stmtidOf packet)
  | .stmtFetch stmtid => some stmtid
  | .stmtClose stmtid => some stmtid
  | _ => none

namespace Watched

def response (config : Config) (watched : Watched) (request : Request) : Response :=
  watched.server.serve config request

def openedAfter (config : Config) (watched : Watched) (request : Request) : Nat → Bool :=
  match request with
  | .stmtClose stmtid => Function.update watched.opened stmtid false
  | _ =>
      match (watched.response config request).reply with
      | .prepareOk stmtid _ => Function.update watched.opened stmtid true
      | _ => watched.opened

def step (config : Config) (watched : Watched) (request : Request) : Watched :=
  ⟨(watched.response config request).server, watched.openedAfter config request⟩

/-- The busy cursors are the statements that are open, and a request that names another one is refused
and changes nothing. -/
structure Exact (config : Config) (watched : Watched) (request : Request) : Prop where
  busy : ∀ cursor, (watched.step config request).server.pool.Busy cursor ↔
    (watched.step config request).opened cursor = true
  refused : ∀ stmtid, request.names = some stmtid → watched.opened stmtid = false →
    (watched.response config request).reply = .cursorNotOpen ∧
      (watched.response config request).server = watched.server

/-- A cursor is taken only for a statement that can be prepared, and a request names a statement that
is open, or an id whose low 16 bits are no cursor's. -/
def Proper (config : Config) (watched : Watched) (request : Request) : Prop :=
  match request with
  | .stmtPrepare query prepared pcount opens =>
      (Pool.getCursor config.pool opens watched.server.pool).1 = none ∨
        (query.length ≤ config.maxquerysize ∧ prepared = true ∧ pcount ≤ config.maxbindcount)
  | request =>
      match request.names with
      | none => True
      | some stmtid => watched.opened stmtid = true ∨ watched.server.cursorOf stmtid = none

/-- The beginning of a session: all cursors have been released. -/
def start (config : Config) (count : Nat) (querybuffers : Nat → List Byte) (pcounts : Nat → Nat)
    (ptypes : Nat → Nat → Nat) : Watched :=
  ⟨⟨List.replicate (min count config.pool.maxcursorcount) .available, querybuffers, pcounts, ptypes⟩,
    fun _ => false⟩

structure Sound (config : Config) (watched : Watched) : Prop where
  busy : ∀ cursor, watched.server.pool.Busy cursor ↔ watched.opened cursor = true
  bounded : watched.server.pool.length ≤ config.pool.maxcursorcount

theorem sound_start (config : Config) (count : Nat) (querybuffers : Nat → List Byte)
    (pcounts : Nat → Nat) (ptypes : Nat → Nat → Nat) :
    (start config count querybuffers pcounts ptypes).Sound config where
  busy cursor := by
    apply iff_of_false (Pool.not_busy_replicate _ _)
    exact Bool.false_ne_true
  bounded := by
    simp only [start, List.length_replicate]
    exact Nat.min_le_right _ _

/-! ## Finding a cursor -/

variable {config : Config} {watched : Watched}

theorem Sound.cursorOf (sound : watched.Sound config) {stmtid : Nat}
    (isOpen : watched.opened stmtid = true) : watched.server.cursorOf stmtid = some stmtid := by
  have inside := ((sound.busy stmtid).mpr isOpen).lt
  have bounded := sound.bounded
  have small := config.bounded
  have same : stmtid % 65536 = stmtid := Nat.mod_eq_of_lt (by omega)
  simp [Server.cursorOf, same, inside]

theorem comStmtExecute_unknown {server : Server} {packet : Buffer} (executed : Bool)
    (unknown : server.cursorOf (Server.stmtidOf packet) = none) :
    server.comStmtExecute config packet executed = ⟨server, .cursorNotOpen, none⟩ := by
  simp only [Server.stmtidOf] at unknown
  simp only [Server.comStmtExecute, unknown]

/-- An execution leaves the cursors as they are, and is not refused as naming none. -/
theorem comStmtExecute_known (config : Config) {server : Server} {packet : Buffer} (executed : Bool)
    {cursor : Nat}
    (known : server.cursorOf (Server.stmtidOf packet) = some cursor) :
    (server.comStmtExecute config packet executed).server.pool = server.pool ∧
      (server.comStmtExecute config packet executed).reply ≠ .cursorNotOpen ∧
      ∀ stmtid pcount,
        (server.comStmtExecute config packet executed).reply ≠ .prepareOk stmtid pcount := by
  simp only [Server.stmtidOf] at known
  simp only [Server.comStmtExecute, known]
  split
  · cases executed <;> simp
  · split
    · simp
    · cases executed <;> simp

/-! ## Steps -/

/-- A request that names a statement, and leaves the cursors as they are. -/
theorem Sound.exact_iff_of_named (sound : watched.Sound config) {request : Request} {stmtid : Nat}
    (names : request.names = some stmtid)
    (pool : (watched.response config request).server.pool = watched.server.pool)
    (opened : watched.openedAfter config request = watched.opened)
    (refused : ((watched.response config request).reply = .cursorNotOpen ∧
      (watched.response config request).server = watched.server) ↔
        watched.server.cursorOf stmtid = none) :
    Exact config watched request ↔
      watched.opened stmtid = true ∨ watched.server.cursorOf stmtid = none := by
  constructor
  · intro exactly
    cases isOpen : watched.opened stmtid with
    | true => exact Or.inl rfl
    | false => exact Or.inr (refused.mp (exactly.refused stmtid names isOpen))
  · intro proper
    constructor
    · intro cursor
      simp only [step, pool, opened]
      exact sound.busy cursor
    · intro other named closed
      cases Option.some.inj (names.symm.trans named)
      cases proper with
      | inl isOpen =>
          rw [closed] at isOpen
          cases isOpen
      | inr unknown => exact refused.mpr unknown

theorem Sound.stmtExecute (sound : watched.Sound config) (packet : Buffer) (executed : Bool) :
    (Exact config watched (.stmtExecute packet executed) ↔
      watched.Proper config (.stmtExecute packet executed)) ∧
      (watched.response config (.stmtExecute packet executed)).server.pool =
        watched.server.pool := by
  cases known : watched.server.cursorOf (Server.stmtidOf packet) with
  | none =>
      have response : watched.response config (.stmtExecute packet executed) =
          ⟨watched.server, .cursorNotOpen, none⟩ := comStmtExecute_unknown executed known
      constructor
      · apply sound.exact_iff_of_named rfl
        · rw [response]
        · simp only [openedAfter, response]
        · rw [response]
          exact iff_of_true ⟨rfl, rfl⟩ known
      · rw [response]
  | some cursor =>
      obtain ⟨pool, notRefused, notPrepared⟩ := comStmtExecute_known config executed known
      constructor
      · apply sound.exact_iff_of_named rfl
        · exact pool
        · simp only [openedAfter]
          split
          · next stmtid pcount reply => exact absurd reply (notPrepared stmtid pcount)
          · rfl
        · rw [known]
          apply iff_of_false
          · intro refused
            exact notRefused refused.1
          · exact Option.some_ne_none cursor
      · exact pool

theorem Sound.stmtFetch (sound : watched.Sound config) (stmtid : Nat) :
    (Exact config watched (.stmtFetch stmtid) ↔ watched.Proper config (.stmtFetch stmtid)) ∧
      (watched.response config (.stmtFetch stmtid)).server.pool = watched.server.pool := by
  cases known : watched.server.cursorOf stmtid with
  | none =>
      have response : watched.response config (.stmtFetch stmtid) =
          ⟨watched.server, .cursorNotOpen, none⟩ := by
        simp only [Watched.response, Server.serve, Server.comStmtFetch, known]
      constructor
      · apply sound.exact_iff_of_named rfl
        · rw [response]
        · simp only [openedAfter, response]
        · rw [response]
          exact iff_of_true ⟨rfl, rfl⟩ known
      · rw [response]
  | some cursor =>
      have response : watched.response config (.stmtFetch stmtid) =
          ⟨watched.server, .result, none⟩ := by
        simp only [Watched.response, Server.serve, Server.comStmtFetch, known]
      constructor
      · apply sound.exact_iff_of_named rfl
        · rw [response]
        · simp only [openedAfter, response]
        · rw [response, known]
          exact iff_of_false (fun refused => Reply.noConfusion refused.1) (Option.some_ne_none cursor)
      · rw [response]

theorem Sound.stmtClose (sound : watched.Sound config) (stmtid : Nat) :
    Exact config watched (.stmtClose stmtid) ↔ watched.Proper config (.stmtClose stmtid) := by
  cases known : watched.server.cursorOf stmtid with
  | none =>
      have response : watched.response config (.stmtClose stmtid) =
          ⟨watched.server, .cursorNotOpen, none⟩ := by
        simp only [Watched.response, Server.serve, Server.comStmtClose, known]
      have closed : watched.opened stmtid = false := by
        cases isOpen : watched.opened stmtid with
        | false => rfl
        | true =>
            rw [sound.cursorOf isOpen] at known
            cases known
      apply sound.exact_iff_of_named rfl
      · rw [response]
      · simp only [openedAfter, ← closed, Function.update_eq_self]
      · rw [response]
        exact iff_of_true ⟨rfl, rfl⟩ known
  | some cursor =>
      have response : watched.response config (.stmtClose stmtid) =
          ⟨{ watched.server with
              pcounts := Function.update watched.server.pcounts cursor 0
              pool := watched.server.pool.release cursor }, .silence, none⟩ := by
        simp only [Watched.response, Server.serve, Server.comStmtClose, known]
      constructor
      · intro exactly
        cases isOpen : watched.opened stmtid with
        | true => exact Or.inl isOpen
        | false =>
            have refused := (exactly.refused stmtid rfl isOpen).1
            rw [response] at refused
            cases refused
      · intro proper
        have isOpen : watched.opened stmtid = true := by
          cases proper with
          | inl isOpen => exact isOpen
          | inr unknown =>
              rw [known] at unknown
              cases unknown
        cases Option.some.inj (known.symm.trans (sound.cursorOf isOpen))
        constructor
        · intro other
          simp only [step, response, openedAfter]
          rw [Pool.busy_release, sound.busy other]
          by_cases same : other = stmtid <;> simp [same]
        · intro other named closed
          cases named
          rw [isOpen] at closed
          cases closed

theorem Sound.stmtReset (sound : watched.Sound config) (stmtid : Nat) :
    Exact config watched (.stmtReset stmtid) ∧
      (watched.response config (.stmtReset stmtid)).server.pool = watched.server.pool := by
  have same : (watched.response config (.stmtReset stmtid)).server.pool = watched.server.pool ∧
      watched.openedAfter config (.stmtReset stmtid) = watched.opened := by
    simp only [openedAfter, Watched.response, Server.serve, Server.comStmtReset]
    cases watched.server.cursorOf stmtid <;> exact ⟨rfl, rfl⟩
  constructor
  · constructor
    · intro cursor
      simp only [step, same.1, same.2]
      exact sound.busy cursor
    · intro other named
      cases named
  · exact same.1

/-- What a COM_STMT_PREPARE comes to, for the cursor that was taken. -/
theorem comStmtPrepare_eq (config : Config) (server : Server) (cursor : Nat) (query : List Byte)
    (prepared : Bool) (pcount : Nat) :
    let response := server.comStmtPrepare config cursor query prepared pcount
    response.server.pool = server.pool ∧
      ((query.length ≤ config.maxquerysize ∧ prepared = true ∧ pcount ≤ config.maxbindcount ∧
          response.reply = .prepareOk cursor pcount) ∨
        (¬(query.length ≤ config.maxquerysize ∧ prepared = true ∧ pcount ≤ config.maxbindcount) ∧
          response.reply = .error)) := by
  simp only [Server.comStmtPrepare]
  split
  · next large => exact ⟨rfl, Or.inr ⟨fun fine => Nat.not_lt.mpr fine.1 large, rfl⟩⟩
  · next fits =>
      cases prepared with
      | false => exact ⟨rfl, Or.inr ⟨fun fine => Bool.false_ne_true fine.2.1, rfl⟩⟩
      | true =>
          simp only [Bool.not_true, Bool.false_eq_true, if_false]
          split
          · next many => exact ⟨rfl, Or.inr ⟨fun fine => Nat.not_lt.mpr fine.2.2 many, rfl⟩⟩
          · next few => exact ⟨rfl, Or.inl ⟨Nat.not_lt.mp fits, trivial, Nat.not_lt.mp few, rfl⟩⟩

theorem Sound.stmtPrepare (sound : watched.Sound config) (query : List Byte) (prepared : Bool)
    (pcount : Nat) (opens : Nat → Bool) :
    Exact config watched (.stmtPrepare query prepared pcount opens) ↔
      watched.Proper config (.stmtPrepare query prepared pcount opens) := by
  cases taken : Pool.getCursor config.pool opens watched.server.pool with
  | mk cursor pool =>
      have given := congrArg Prod.fst taken
      have grown := congrArg Prod.snd taken
      simp only at given grown
      cases cursor with
      | none =>
          have busy := Pool.getCursor_none given
          rw [grown] at busy
          have response : watched.response config (.stmtPrepare query prepared pcount opens) =
              ⟨{ watched.server with pool := pool }, .cursorNotOpen, none⟩ := by
            simp only [Watched.response, Server.serve, taken]
          apply iff_of_true
          · constructor
            · intro other
              simp only [step, openedAfter, response]
              rw [busy, sound.busy]
            · intro other named
              cases named
          · exact Or.inl given
      | some cursor =>
          obtain ⟨free, busy⟩ := Pool.getCursor_some given
          rw [grown] at busy
          have response : watched.response config (.stmtPrepare query prepared pcount opens) =
              Server.comStmtPrepare config { watched.server with pool := pool } cursor query
                prepared pcount := by
            simp only [Watched.response, Server.serve, taken]
          obtain ⟨same, outcome⟩ := comStmtPrepare_eq config { watched.server with pool := pool }
            cursor query prepared pcount
          rw [← response] at same outcome
          cases outcome with
          | inl fine =>
              obtain ⟨fits, isPrepared, few, reply⟩ := fine
              apply iff_of_true
              · constructor
                · intro other
                  simp only [step, openedAfter, reply, same]
                  rw [busy, sound.busy]
                  by_cases isIt : other = cursor <;> simp [isIt]
                · intro other named
                  cases named
              · exact Or.inr ⟨fits, isPrepared, few⟩
          | inr failed =>
              apply iff_of_false
              · intro exactly
                have opened := (exactly.busy cursor).mp
                simp only [step, openedAfter, failed.2, same] at opened
                exact free ((sound.busy cursor).mpr (opened ((busy cursor).mpr (Or.inl rfl))))
              · intro proper
                cases proper with
                | inl refused =>
                    rw [given] at refused
                    cases refused
                | inr fine => exact failed.1 fine

theorem Sound.query (sound : watched.Sound config) (query : List Byte) (executed : Bool)
    (opens : Nat → Bool) : Exact config watched (.query query executed opens) := by
  cases taken : Pool.getCursor config.pool opens watched.server.pool with
  | mk cursor pool =>
      have given := congrArg Prod.fst taken
      have grown := congrArg Prod.snd taken
      simp only at given grown
      cases cursor with
      | none =>
          have busy := Pool.getCursor_none given
          rw [grown] at busy
          have response : watched.response config (.query query executed opens) =
              ⟨{ watched.server with pool := pool }, .cursorNotOpen, none⟩ := by
            simp only [Watched.response, Server.serve, taken]
          constructor
          · intro other
            simp only [step, openedAfter, response]
            rw [busy, sound.busy]
          · intro other named
            cases named
      | some cursor =>
          obtain ⟨free, busy⟩ := Pool.getCursor_some given
          rw [grown] at busy
          have after : (watched.response config (.query query executed opens)).server.pool =
                pool.release cursor ∧
              watched.openedAfter config (.query query executed opens) = watched.opened := by
            simp only [openedAfter, Watched.response, Server.serve, taken, Server.comQuery]
            split
            · exact ⟨rfl, rfl⟩
            · cases executed <;> exact ⟨rfl, rfl⟩
          constructor
          · intro other
            simp only [step, after.1, after.2]
            rw [Pool.busy_release, busy, ← sound.busy]
            constructor
            · intro still
              exact still.2.resolve_left still.1
            · intro before
              refine ⟨?_, Or.inr before⟩
              intro same
              exact free (same ▸ before)
          · intro other named
            cases named

theorem Sound.exact_iff (sound : watched.Sound config) (request : Request) :
    Exact config watched request ↔ watched.Proper config request := by
  cases request with
  | stmtPrepare query prepared pcount opens => exact sound.stmtPrepare query prepared pcount opens
  | stmtExecute packet executed => exact (sound.stmtExecute packet executed).1
  | stmtFetch stmtid => exact (sound.stmtFetch stmtid).1
  | stmtClose stmtid => exact sound.stmtClose stmtid
  | stmtReset stmtid => exact iff_of_true (sound.stmtReset stmtid).1 trivial
  | query query executed opens => exact iff_of_true (sound.query query executed opens) trivial

theorem Sound.length_le (sound : watched.Sound config) (request : Request) :
    (watched.step config request).server.pool.length ≤ config.pool.maxcursorcount := by
  have released : ∀ {pool : Pool} {cursor : Nat}, pool.length ≤ config.pool.maxcursorcount →
      (pool.release cursor).length ≤ config.pool.maxcursorcount := by
    intro pool cursor bounded
    simpa [Pool.release] using bounded
  cases request with
  | stmtPrepare query prepared pcount opens =>
      have grown := Pool.length_getCursor_le opens sound.bounded
      simp only [step, Watched.response, Server.serve]
      split
      · next pool taken =>
          rw [taken] at grown
          exact grown
      · next cursor pool taken =>
          rw [taken] at grown
          rw [(comStmtPrepare_eq config _ cursor query prepared pcount).1]
          exact grown
  | stmtExecute packet executed =>
      simp only [step, (sound.stmtExecute packet executed).2]
      exact sound.bounded
  | stmtFetch stmtid =>
      simp only [step, (sound.stmtFetch stmtid).2]
      exact sound.bounded
  | stmtClose stmtid =>
      simp only [step, Watched.response, Server.serve, Server.comStmtClose]
      split
      · exact sound.bounded
      · exact released sound.bounded
  | stmtReset stmtid =>
      simp only [step, (sound.stmtReset stmtid).2]
      exact sound.bounded
  | query query executed opens =>
      have grown := Pool.length_getCursor_le opens sound.bounded
      simp only [step, Watched.response, Server.serve]
      split
      · next pool taken =>
          rw [taken] at grown
          exact grown
      · next cursor pool taken =>
          rw [taken] at grown
          simp only [Server.comQuery]
          split <;> exact released grown

theorem Sound.step (sound : watched.Sound config) {request : Request}
    (proper : watched.Proper config request) : (watched.step config request).Sound config where
  busy := ((sound.exact_iff request).mpr proper).busy
  bounded := sound.length_le request

/-- In a session the busy cursors are the statements that are open, and no other statement is served,
exactly if every request is proper. -/
theorem exact_along_iff (config : Config) (count : Nat) (querybuffers : Nat → List Byte)
    (pcounts : Nat → Nat) (ptypes : Nat → Nat → Nat) (requests : List Request) :
    Along (step config) (Exact config) (start config count querybuffers pcounts ptypes) requests ↔
      Along (step config) (Proper config) (start config count querybuffers pcounts ptypes)
        requests := by
  apply Along.iff_guard _ _ (sound_start config count querybuffers pcounts ptypes)
  · intro watched request sound proper
    exact sound.step proper
  · intro watched request sound
    exact sound.exact_iff request

def fiveCursors : Config := ⟨65536, 256, ⟨5, 1⟩, by decide⟩

/-- A statement that can't be prepared. -/
def failedPrepare : List Request :=
  [.stmtPrepare (ascii "select") false 0 fun _ => true]

/-- Its cursor stays busy, although no statement was reported prepared. -/
theorem failedPrepare_leaks :
    ¬∀ (config : Config) (count : Nat) (querybuffers : Nat → List Byte) (pcounts : Nat → Nat)
      (ptypes : Nat → Nat → Nat) (requests : List Request),
      Along (step config) (Exact config) (start config count querybuffers pcounts ptypes)
        requests := by
  intro exactly
  have along := exactly fiveCursors 1 (fun _ => []) (fun _ => 0) (fun _ _ => 0) failedPrepare
  exact absurd ((along.1.busy 0).mp (by decide)) (by decide)

end Watched

end SqlRelay.Mysql
