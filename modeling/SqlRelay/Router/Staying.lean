import SqlRelay.Foundation.Run
import SqlRelay.Router.Connection

/-!
# Staying with a backend

When every router routes entire sessions, the calls of a client stay with the backend of its session, and
the last insert id is that of the backend where the last query has run.  A session that has been routed
is not said to be routed again, so the calls that go to one backend or to all of them then go to all.
-/

namespace SqlRelay.Router

open SqlRelay.Foundation

/-- The calls that go to one backend or to all. -/
inductive Command where
  | setAutoCommitOn | setAutoCommitOff | begin | commit | rollback | ping

/-- What a client may want to know about a backend. -/
inductive Detail where
  | dbVersion | dbHostName | dbIpAddress

inductive Call (World : Type) where
  | command (command : Command) (world : World)
  | detail (detail : Detail) (world : World)
  | getLastInsertId
  | prepareQuery (world : World) (place : Nat) (query : List Byte)
  | executeQuery (world : World) (place : Nat) (query : List Byte) (succeeds : Bool)
      (binds : List CursorBind)
  | endSession (world : World)

/-- The connection, the backend that was named when a backend was last asked for, and the one where the
last query of the session has run. -/
structure Session where
  connection : Connection
  asked : Option Nat
  ran : Option Nat

def Session.start : Session := ⟨Connection.new, none, none⟩

def Call.endsSession {World : Type} : Call World → Bool
  | .endSession _ => true
  | _ => false

namespace Config

variable {World : Type} (config : Config World)

def command : Command → World → Connection → Outcome
  | .setAutoCommitOn => config.setAutoCommitOn
  | .setAutoCommitOff => config.setAutoCommitOff
  | .begin => config.begin
  | .commit => config.commit
  | .rollback => config.rollback
  | .ping => config.ping

def detail : Detail → World → Connection → Outcome
  | .dbVersion => config.getDbVersion
  | .dbHostName => config.getDbHostName
  | .dbIpAddress => config.getDbIpAddress

theorem command_eq (command : Command) (world : World) (connection : Connection) :
    config.command command world connection = config.toOneOrAll world connection := by
  cases command with
  | setAutoCommitOn | setAutoCommitOff | begin | commit | rollback | ping => rfl

theorem detail_eq (detail : Detail) (world : World) (connection : Connection) :
    config.detail detail world connection = config.toUsable world connection := by
  cases detail with
  | dbVersion | dbHostName | dbIpAddress => rfl

def outcome (connection : Connection) : Call World → Outcome
  | .command command world => config.command command world connection
  | .detail detail world => config.detail detail world connection
  | .getLastInsertId => getLastInsertId connection
  | .prepareQuery world place query => config.prepareQuery world connection place query
  | .executeQuery world place query succeeds binds =>
      config.executeQuery world connection place query succeeds binds
  | .endSession world => config.endSession world connection

/-- The backend that the routers choose. -/
def chosen (world : World) (connection : Connection) (query : Option (List Byte)) : Option Nat :=
  (route world connection.currentConnectionId query config.routers).connectionId.bind config.backend

/-- The backend that is named when a call asks for one.  A detail is asked of any if need be. -/
def named (session : Session) : Call World → Option Nat
  | .command _ world => config.chosen world session.connection none
  | .detail _ world =>
      let answer := route world session.connection.currentConnectionId none config.routers
      if answer.connectionId.isNone && answer.error then none
      else (config.chosen world session.connection none).or config.backends.head?
  | .getLastInsertId => session.asked
  | .prepareQuery world _ query => config.chosen world session.connection (some query)
  | .executeQuery world place query _ _ =>
      if (session.connection.cursors place).currentcur.isNone then
        config.chosen world session.connection (some query)
      else session.asked
  | .endSession _ => none

def step (session : Session) (call : Call World) : Session :=
  let outcome := config.outcome session.connection call
  { connection := outcome.connection
    asked := config.named session call
    ran := if call.endsSession then none else outcome.ran.or session.ran }

/-- Once the session has been routed to a backend, a call ends up at that backend and no other, and the
last insert id is asked of the backend where the last query has run. -/
structure Stays (session : Session) (call : Call World) : Prop where
  routed : config.routeEntireSession = true → call.endsSession = false →
    ∀ index, session.connection.currentcon = some index →
      (config.outcome session.connection call).backends = [index]
  lastInsertId : call = .getLastInsertId → ∀ index, session.ran = some index →
    (config.outcome session.connection call).backends = [index]

/-- What a call must not do.  In a session that has been routed, a command is not sent when there are
several backends, and a cursor that was an output bind is not used for a query.  Where queries are routed,
the last insert id is asked for when the backend named last is the one where the last query has run. -/
def Allowed (session : Session) : Call World → Prop
  | .command _ _ => config.routeEntireSession = true → session.connection.currentcon.isSome →
      config.conids.length = 1
  | .detail _ _ => True
  | .getLastInsertId => config.routeEntireSession = false → session.ran.isSome →
      session.asked = session.ran
  | .prepareQuery _ place _ => config.routeEntireSession = true →
      session.connection.currentcon.isSome → (session.connection.cursors place).currentcon.isSome →
      (session.connection.cursors place).isbindcur = false ∧
        (session.connection.cursors place).currentcur.isSome
  | .executeQuery _ place _ _ _ => config.routeEntireSession = true →
      session.connection.currentcon.isSome → (session.connection.cursors place).currentcon.isSome →
      (session.connection.cursors place).currentcur.isSome
  | .endSession _ => True

/-! ## What holds between calls -/

/-- A cursor's backend cursor is one of its backend, and in a session that has been routed that is the
backend of the session. -/
structure CursorSettled (currentcon : Option Nat) (cursor : RouterCursor) : Prop where
  own : ∀ index, cursor.currentcur = some index → cursor.currentcon = some index
  session : config.routeEntireSession = true →
    ∀ index, cursor.currentcon = some index → currentcon = some index

structure Settled (connection : Connection) : Prop where
  within : ∀ index, connection.currentcon = some index → index < config.conids.length
  cursor : ∀ place, config.CursorSettled connection.currentcon (connection.cursors place)

section Settled

variable {config} {connection : Connection} {world : World}

theorem backend_lt {connectionId : List Byte} {index : Nat}
    (found : config.backend connectionId = some index) : index < config.conids.length := by
  rw [backend, List.findIdx?_eq_some_iff_getElem] at found
  exact found.1

theorem Settled.setCursor (settled : config.Settled connection) (place : Nat)
    {cursor : RouterCursor} (new : config.CursorSettled connection.currentcon cursor) :
    config.Settled (connection.setCursor place cursor) := by
  constructor
  · exact settled.within
  · intro other
    cases Nat.decEq other place with
    | isTrue same =>
      rw [same, Connection.setCursor_cursors_self]
      exact new
    | isFalse ne =>
      rw [Connection.setCursor_cursors_other _ _ ne]
      exact settled.cursor other

/-- The connection moves unless the session has been routed. -/
theorem Settled.move (settled : config.Settled connection)
    (free : config.routeEntireSession = true → connection.currentcon = none)
    {currentcon : Option Nat} (within : ∀ index, currentcon = some index → index < config.conids.length)
    (connectionId : Option (List Byte)) :
    config.Settled { connection with currentcon, currentConnectionId := connectionId } := by
  constructor
  · exact within
  · intro place
    constructor
    · exact (settled.cursor place).own
    · intro entire index found
      have before := (settled.cursor place).session entire index found
      rw [free entire] at before
      cases before

theorem Settled.move_none (settled : config.Settled connection)
    (free : config.routeEntireSession = true → connection.currentcon = none) :
    config.Settled { connection with currentcon := none } :=
  settled.move free (by simp) connection.currentConnectionId

theorem Settled.routeConnection (settled : config.Settled connection) :
    config.Settled (config.routeConnection world connection).connection := by
  simp only [Config.routeConnection]
  split
  · exact settled
  · next unrouted =>
    have free : config.routeEntireSession = true → connection.currentcon = none := by
      intro entire
      simpa [entire] using unrouted
    split
    · exact settled.move_none free
    · next connectionId _ =>
      split
      · exact settled.move_none free
      · next index found =>
        apply settled.move free
        intro other same
        cases same
        exact backend_lt found

theorem Settled.askForCursor (settled : config.Settled connection)
    (free : config.routeEntireSession = true → connection.currentcon = none) (place : Nat)
    (query : List Byte) :
    config.Settled (config.askForCursor world connection place query).connection := by
  have nowhere : config.CursorSettled none
      { connection.cursors place with currentcon := none, currentcur := none } := by
    constructor
    · simp
    · simp
  simp only [Config.askForCursor]
  split
  · exact (settled.move_none free).setCursor place nowhere
  · next connectionId _ =>
    split
    · exact (settled.move_none free).setCursor place nowhere
    · next index found =>
      apply Settled.setCursor
      · apply settled.move free
        intro other same
        cases same
        exact backend_lt found
      · constructor
        · simp
        · simp

theorem Settled.routeCursor (settled : config.Settled connection) (place : Nat)
    (query : List Byte) :
    config.Settled (config.routeCursor world connection place query).connection := by
  simp only [Config.routeCursor]
  split
  · next entire =>
    split
    · exact settled
    · next index _ session =>
      apply settled.setCursor
      constructor
      · simp
      · simp [session]
    · next _ session =>
      apply settled.askForCursor
      intro _
      exact session
  · next query' =>
    apply settled.askForCursor
    intro entire
    exact absurd entire query'

theorem Settled.toUsable (settled : config.Settled connection) :
    config.Settled (config.toUsable world connection).connection := by
  simp only [Config.toUsable]
  split
  · exact settled.routeConnection
  · split
    · exact settled.routeConnection
    · next found =>
      simp only [Bool.or_eq_true, not_or] at found
      apply settled.routeConnection.move
      · intro entire
        exact absurd entire found.1
      · intro index first
        exact List.mem_range.mp (List.mem_of_head? first)

theorem Settled.resetBindCursor (settled : config.Settled connection) (place : Nat) :
    config.Settled (Config.resetBindCursor connection place) := by
  simp only [Config.resetBindCursor]
  split
  · apply settled.setCursor
    constructor
    · simp
    · exact (settled.cursor place).session
  · exact settled

/-- Whether its query is empty does not matter to where a cursor is. -/
theorem Settled.setEmpty (settled : config.Settled connection) (place : Nat) (empty : Bool) :
    config.Settled (connection.setCursor place
      { connection.cursors place with emptyquery := empty }) := by
  apply settled.setCursor
  constructor
  · exact (settled.cursor place).own
  · exact (settled.cursor place).session

theorem Settled.prepareQuery (settled : config.Settled connection) (place : Nat)
    (query : List Byte) :
    config.Settled (config.prepareQuery world connection place query).connection := by
  have started := (settled.resetBindCursor place).setEmpty place false
  simp only [Config.prepareQuery]
  split
  · exact started.routeCursor place query
  · exact (started.routeCursor place query).setEmpty place _

theorem Settled.bindCursors (settled : config.Settled connection) {binder : RouterCursor}
    (of : config.CursorSettled connection.currentcon binder) (binds : List CursorBind) :
    config.Settled (Config.bindCursors binder binds connection) := by
  induction binds generalizing connection with
  | nil => exact settled
  | cons bind binds induction =>
    have bound : config.Settled (connection.setCursor bind.cursor
        { connection.cursors bind.cursor with
          currentcon := binder.currentcon, currentcur := binder.currentcur, isbindcur := true }) := by
      apply settled.setCursor
      constructor
      · exact of.own
      · exact of.session
    simp only [Config.bindCursors]
    split
    · split
      · exact induction bound of
      · exact bound
    · apply settled.setCursor
      constructor
      · simp
      · exact of.session

theorem Settled.prepareIfNeeded (settled : config.Settled connection) (place : Nat)
    (query : List Byte) :
    config.Settled (config.prepareIfNeeded world connection place query) := by
  simp only [Config.prepareIfNeeded]
  split
  · exact settled.prepareQuery place query
  · exact settled

theorem Settled.executePrepared (settled : config.Settled connection) (place : Nat)
    (succeeds : Bool) (binds : List CursorBind) :
    config.Settled (Config.executePrepared connection place succeeds binds).connection := by
  simp only [Config.executePrepared]
  split
  · exact settled
  · split
    · exact settled.bindCursors (settled.cursor place) binds
    · exact settled

theorem Settled.toOneOrAll (settled : config.Settled connection) :
    config.Settled (config.toOneOrAll world connection).connection := by
  simp only [Config.toOneOrAll]
  split
  · exact settled.routeConnection
  · split
    · exact settled.routeConnection
    · exact settled.routeConnection

theorem Settled.endSession (settled : config.Settled connection) :
    config.Settled (config.endSession world connection).connection := by
  simp only [Config.endSession]
  split
  · exact settled.toOneOrAll
  · constructor
    · simp
    · intro place
      constructor
      · simp
      · simp

theorem Settled.outcome (settled : config.Settled connection) (call : Call World) :
    config.Settled (config.outcome connection call).connection := by
  cases call with
  | command command world =>
    simp only [Config.outcome, command_eq]
    exact settled.toOneOrAll
  | detail detail world =>
    simp only [Config.outcome, detail_eq]
    exact settled.toUsable
  | getLastInsertId => exact settled
  | prepareQuery world place query => exact settled.prepareQuery place query
  | executeQuery world place query succeeds binds =>
    exact (settled.prepareIfNeeded place query).executePrepared place succeeds binds
  | endSession world => exact settled.endSession

end Settled

/-! ## A session that has been routed -/

section Routed

variable {config} {connection : Connection} {world : World}

theorem routeConnection_of_routed (entire : config.routeEntireSession = true)
    (routed : connection.currentcon.isSome) :
    config.routeConnection world connection = ⟨connection, false, false, false⟩ := by
  simp [routeConnection, entire, routed]

theorem toOneOrAll_of_routed (entire : config.routeEntireSession = true)
    (routed : connection.currentcon.isSome) :
    config.toOneOrAll world connection = ⟨connection, config.backends, none⟩ := by
  simp [toOneOrAll, routeConnection_of_routed entire routed]

theorem toUsable_of_routed (entire : config.routeEntireSession = true)
    (routed : connection.currentcon.isSome) :
    config.toUsable world connection = ⟨connection, connection.currentcon.toList, none⟩ := by
  simp [toUsable, routeConnection_of_routed entire routed, entire]

@[simp]
theorem resetBindCursor_currentcon (place : Nat) :
    (resetBindCursor connection place).currentcon = connection.currentcon := by
  simp only [resetBindCursor]
  split
  · rfl
  · rfl

@[simp]
theorem bindCursors_currentcon (binder : RouterCursor) (binds : List CursorBind) :
    (bindCursors binder binds connection).currentcon = connection.currentcon := by
  induction binds generalizing connection with
  | nil => rfl
  | cons bind binds induction =>
    simp only [bindCursors]
    split
    · split
      · rw [induction]
        rfl
      · rfl
    · rfl

@[simp]
theorem executePrepared_currentcon (place : Nat) (succeeds : Bool) (binds : List CursorBind) :
    (executePrepared connection place succeeds binds).connection.currentcon =
      connection.currentcon := by
  simp only [executePrepared]
  split
  · rfl
  · split
    · simp
    · rfl

/-- A cursor that is at no backend joins the session, and one that is at a backend stays there. -/
theorem routeCursor_of_routed (entire : config.routeEntireSession = true) {index : Nat}
    (routed : connection.currentcon = some index) (place : Nat) (query : List Byte) :
    config.routeCursor world connection place query =
      if (connection.cursors place).currentcon.isSome then ⟨connection, false, false, false⟩
      else
        ⟨connection.setCursor place
          { connection.cursors place with currentcon := some index, currentcur := some index },
          false, false, false⟩ := by
  simp only [routeCursor, entire, if_true, routed]
  cases at_ : (connection.cursors place).currentcon with
  | none => rfl
  | some other => rfl

theorem prepareQuery_currentcon_of_routed (entire : config.routeEntireSession = true) {index : Nat}
    (routed : connection.currentcon = some index) (place : Nat) (query : List Byte) :
    (config.prepareQuery world connection place query).connection.currentcon = some index := by
  have started : ((resetBindCursor connection place).setCursor place
      { (resetBindCursor connection place).cursors place with
        emptyquery := false }).currentcon = some index := by
    simp [routed]
  have kept : (config.routeCursor world ((resetBindCursor connection place).setCursor place
      { (resetBindCursor connection place).cursors place with emptyquery := false }) place
        query).connection.currentcon = some index := by
    rw [routeCursor_of_routed entire started]
    split
    · exact started
    · exact started
  simp only [prepareQuery]
  split
  · exact kept
  · exact kept

/-- The query of a cursor is prepared at the backend of the session, unless the cursor has been an output
bind or has no backend cursor. -/
theorem prepareQuery_of_routed (settled : config.Settled connection)
    (entire : config.routeEntireSession = true) {index : Nat}
    (routed : connection.currentcon = some index) (place : Nat) (query : List Byte) :
    (config.prepareQuery world connection place query).backends = [index] ↔
      ((connection.cursors place).currentcon.isSome →
        (connection.cursors place).isbindcur = false ∧
          (connection.cursors place).currentcur.isSome) := by
  have started : ((resetBindCursor connection place).setCursor place
      { (resetBindCursor connection place).cursors place with
        emptyquery := false }).currentcon = some index := by
    simp [routed]
  simp only [prepareQuery, routeCursor_of_routed entire started]
  cases at_ : (connection.cursors place).currentcon with
  | none =>
    cases bound : (connection.cursors place).isbindcur with
    | true => simp [resetBindCursor, bound, at_]
    | false => simp [resetBindCursor, bound, at_]
  | some other =>
    cases bound : (connection.cursors place).isbindcur with
    | true => simp [resetBindCursor, bound, at_]
    | false =>
      cases own : (connection.cursors place).currentcur with
      | none => simp [resetBindCursor, bound, at_, own]
      | some backend =>
        have here := (settled.cursor place).own backend own
        have session := (settled.cursor place).session entire backend here
        rw [routed] at session
        cases session
        simp [resetBindCursor, bound, at_, own]

theorem currentcur_of_err {place : Nat} {query : List Byte}
    (err : (config.routeCursor world connection place query).err = true) :
    ((config.routeCursor world connection place query).connection.cursors place).currentcur =
      none := by
  have asked : (config.askForCursor world connection place query).err = true →
      ((config.askForCursor world connection place query).connection.cursors place).currentcur =
        none := by
    simp only [askForCursor]
    split
    · simp
    · split
      · simp
      · simp
  revert err
  simp only [routeCursor]
  split
  · split
    · simp
    · simp
    · exact asked
  · exact asked

/-- A query is prepared at the backend that its cursor is at. -/
theorem prepareQuery_backends (place : Nat) (query : List Byte) :
    (config.prepareQuery world connection place query).backends =
      ((config.prepareQuery world connection place query).connection.cursors
        place).currentcur.toList := by
  simp only [prepareQuery]
  split
  · next refused =>
    simp only [Bool.or_eq_true, Option.isNone_iff_eq_none] at refused
    cases refused with
    | inl err => simp [currentcur_of_err err]
    | inr nowhere => simp [nowhere]
  · simp

@[simp]
theorem executePrepared_backends (place : Nat) (succeeds : Bool) (binds : List CursorBind) :
    (executePrepared connection place succeeds binds).backends =
      (connection.cursors place).currentcur.toList := by
  simp only [executePrepared]
  split
  · next nowhere => simp [Option.isNone_iff_eq_none.mp nowhere]
  · split
    · rfl
    · rfl

theorem executeQuery_of_routed (settled : config.Settled connection)
    (entire : config.routeEntireSession = true) {index : Nat}
    (routed : connection.currentcon = some index) (place : Nat) (query : List Byte)
    (succeeds : Bool) (binds : List CursorBind) :
    (config.executeQuery world connection place query succeeds binds).backends = [index] ↔
      ((connection.cursors place).currentcon.isSome →
        (connection.cursors place).currentcur.isSome) := by
  simp only [executeQuery, executePrepared_backends, prepareIfNeeded]
  cases own : (connection.cursors place).currentcur with
  | none =>
    have prepared : (config.prepareQuery world connection place query).backends = [index] ↔ _ :=
      prepareQuery_of_routed settled entire routed place query
    simp only [own, Option.isSome_none, Bool.false_eq_true, and_false] at prepared
    simp only [Option.isNone_none, if_true, ← prepareQuery_backends]
    rw [prepared]
    simp
  | some backend =>
    have here := (settled.cursor place).own backend own
    have session := (settled.cursor place).session entire backend here
    rw [routed] at session
    cases session
    simp [own]

end Routed

/-! ## Where queries are routed -/

section Queries

variable {config} {connection : Connection} {world : World}

@[simp]
theorem resetBindCursor_currentConnectionId (place : Nat) :
    (resetBindCursor connection place).currentConnectionId = connection.currentConnectionId := by
  simp only [resetBindCursor]
  split
  · rfl
  · rfl

theorem routeConnection_currentcon (each : config.routeEntireSession = false) :
    (config.routeConnection world connection).connection.currentcon =
      config.chosen world connection none := by
  simp only [routeConnection, each, Bool.false_and, Bool.false_eq_true, if_false, chosen]
  cases answer : (route world connection.currentConnectionId none config.routers).connectionId with
  | none => rfl
  | some connectionId =>
    cases found : config.backend connectionId with
    | none => simp [found]
    | some index => simp [found]

theorem routeConnection_err (each : config.routeEntireSession = false) :
    (config.routeConnection world connection).err =
      ((route world connection.currentConnectionId none config.routers).connectionId.isNone &&
        (route world connection.currentConnectionId none config.routers).error) := by
  simp only [routeConnection, each, Bool.false_and, Bool.false_eq_true, if_false]
  cases answer : (route world connection.currentConnectionId none config.routers).connectionId with
  | none => simp
  | some connectionId =>
    cases found : config.backend connectionId with
    | none => simp [found]
    | some index => simp [found]

theorem toOneOrAll_currentcon :
    (config.toOneOrAll world connection).connection =
      (config.routeConnection world connection).connection := by
  simp only [toOneOrAll]
  split
  · rfl
  · split
    · rfl
    · rfl

theorem toUsable_currentcon (each : config.routeEntireSession = false) :
    (config.toUsable world connection).connection.currentcon =
      if (config.routeConnection world connection).err then
        (config.routeConnection world connection).connection.currentcon
      else
        (config.routeConnection world connection).connection.currentcon.or
          config.backends.head? := by
  simp only [toUsable, each, Bool.false_or]
  split
  · rfl
  · cases usable : (config.routeConnection world connection).connection.currentcon with
    | none => simp
    | some index => simp [usable]

theorem askForCursor_currentcon (place : Nat) (query : List Byte) :
    (config.askForCursor world connection place query).connection.currentcon =
      config.chosen world connection (some query) := by
  simp only [askForCursor, chosen]
  cases answer :
      (route world connection.currentConnectionId (some query) config.routers).connectionId with
  | none => rfl
  | some connectionId =>
    cases found : config.backend connectionId with
    | none => simp [found]
    | some index => simp [found]

theorem prepareQuery_currentcon (each : config.routeEntireSession = false) (place : Nat)
    (query : List Byte) :
    (config.prepareQuery world connection place query).connection.currentcon =
      config.chosen world connection (some query) := by
  have chooses : (config.routeCursor world ((resetBindCursor connection place).setCursor place
      { (resetBindCursor connection place).cursors place with emptyquery := false }) place
        query).connection.currentcon = config.chosen world connection (some query) := by
    simp only [routeCursor, each, Bool.false_eq_true, if_false, askForCursor_currentcon]
    simp [chosen]
  simp only [prepareQuery]
  split
  · exact chooses
  · exact chooses

/-- The backend that the connection is at is the one named when a backend was last asked for. -/
theorem named_eq (each : config.routeEntireSession = false) {session : Session}
    (asked : session.asked = session.connection.currentcon) (call : Call World) :
    config.named session call = (config.outcome session.connection call).connection.currentcon := by
  cases call with
  | command command world =>
    simp only [named, Config.outcome, command_eq, toOneOrAll_currentcon,
      routeConnection_currentcon each]
  | detail detail world =>
    simp only [named, Config.outcome, detail_eq, toUsable_currentcon each,
      routeConnection_currentcon each, routeConnection_err each]
    split
    · next failed =>
      simp only [Bool.and_eq_true, Option.isNone_iff_eq_none] at failed
      simp [chosen, failed.1]
    · rfl
  | getLastInsertId => exact asked
  | prepareQuery world place query => exact (prepareQuery_currentcon each place query).symm
  | executeQuery world place query succeeds binds =>
    simp only [named, Config.outcome, executeQuery, executePrepared_currentcon, prepareIfNeeded]
    split
    · exact (prepareQuery_currentcon each place query).symm
    · exact asked
  | endSession world =>
    simp only [named, Config.outcome, endSession]
    split
    · next failed =>
      simp only [routeConnection_err each, Bool.and_eq_true, Option.isNone_iff_eq_none] at failed
      simp [toOneOrAll_currentcon, routeConnection_currentcon each, chosen, failed.1]
    · rfl

end Queries

/-! ## Runs -/

/-- What holds between the calls of a client. -/
structure Between (session : Session) : Prop where
  settled : config.Settled session.connection
  ran : config.routeEntireSession = true → ∀ index, session.ran = some index →
    session.connection.currentcon = some index
  asked : config.routeEntireSession = false → session.asked = session.connection.currentcon

section Runs

variable {config}

theorem between_start : config.Between Session.start := by
  constructor
  · constructor
    · simp [Session.start, Connection.new]
    · intro place
      constructor
      · simp [Session.start, Connection.new, RouterCursor.new]
      · simp [Session.start, Connection.new, RouterCursor.new]
  · simp [Session.start]
  · simp [Session.start, Connection.new]

/-- A call leaves the connection at the backend of the session. -/
theorem outcome_currentcon_of_routed (entire : config.routeEntireSession = true)
    {connection : Connection} {index : Nat} (routed : connection.currentcon = some index)
    {call : Call World} (goes_on : call.endsSession = false) :
    (config.outcome connection call).connection.currentcon = some index := by
  have at_ : connection.currentcon.isSome := by simp [routed]
  cases call with
  | command command world => simp [outcome, command_eq, toOneOrAll_of_routed entire at_, routed]
  | detail detail world => simp [outcome, detail_eq, toUsable_of_routed entire at_, routed]
  | getLastInsertId => exact routed
  | prepareQuery world place query => exact prepareQuery_currentcon_of_routed entire routed _ _
  | executeQuery world place query succeeds binds =>
    simp only [outcome, executeQuery, executePrepared_currentcon, prepareIfNeeded]
    split
    · exact prepareQuery_currentcon_of_routed entire routed _ _
    · exact routed
  | endSession world => cases goes_on

theorem ran_toOneOrAll (connection : Connection) (world : World) :
    (config.toOneOrAll world connection).ran = none := by
  simp only [toOneOrAll]
  split
  · rfl
  · split
    · rfl
    · rfl

theorem ran_toUsable (connection : Connection) (world : World) :
    (config.toUsable world connection).ran = none := by
  simp only [toUsable]
  split
  · rfl
  · split
    · rfl
    · rfl

theorem ran_prepareQuery (connection : Connection) (world : World) (place : Nat)
    (query : List Byte) : (config.prepareQuery world connection place query).ran = none := by
  simp only [prepareQuery]
  split
  · rfl
  · rfl

/-- A query runs where its cursor is. -/
theorem currentcur_of_ran {connection : Connection} {place : Nat} {succeeds : Bool}
    {binds : List CursorBind} {index : Nat}
    (ran : (executePrepared connection place succeeds binds).ran = some index) :
    (connection.cursors place).currentcur = some index := by
  have here : (executePrepared connection place succeeds binds).ran = some index →
      (if (connection.cursors place).emptyquery = true then none
        else (connection.cursors place).currentcur) = some index := by
    simp only [executePrepared]
    split
    · simp
    · split
      · exact id
      · exact id
  cases empty : (connection.cursors place).emptyquery with
  | true => simp [empty] at here; exact absurd ran here
  | false => simpa [empty] using here ran

/-- A query runs at the backend of the session. -/
theorem currentcon_of_ran (entire : config.routeEntireSession = true) {connection : Connection}
    (settled : config.Settled connection) {call : Call World} {index : Nat}
    (ran : (config.outcome connection call).ran = some index) :
    (config.outcome connection call).connection.currentcon = some index := by
  cases call with
  | command command world =>
    rw [outcome, command_eq, ran_toOneOrAll] at ran
    cases ran
  | detail detail world =>
    rw [outcome, detail_eq, ran_toUsable] at ran
    cases ran
  | getLastInsertId => cases ran
  | prepareQuery world place query =>
    rw [outcome, ran_prepareQuery] at ran
    cases ran
  | executeQuery world place query succeeds binds =>
    have prepared : config.Settled (config.prepareIfNeeded world _ place query) :=
      settled.prepareIfNeeded place query
    have here := (prepared.cursor place).own index (currentcur_of_ran ran)
    simp only [outcome, executeQuery, executePrepared_currentcon]
    exact (prepared.cursor place).session entire index here
  | endSession world =>
    simp only [outcome, endSession] at ran
    split at ran
    · rw [ran_toOneOrAll] at ran
      cases ran
    · simp only [ran_toOneOrAll] at ran
      cases ran

theorem Between.step {session : Session} (between : config.Between session) (call : Call World) :
    config.Between (config.step session call) := by
  constructor
  · exact between.settled.outcome call
  · intro entire index ran
    cases ends : call.endsSession with
    | true => simp [Config.step, ends] at ran
    | false =>
      simp only [Config.step, ends, Bool.false_eq_true, if_false] at ran ⊢
      cases here : (config.outcome session.connection call).ran with
      | none =>
        rw [here, Option.none_or] at ran
        exact outcome_currentcon_of_routed entire (between.ran entire index ran) ends
      | some backend =>
        rw [here, Option.some_or] at ran
        cases ran
        exact currentcon_of_ran entire between.settled here
  · intro each
    exact named_eq each (between.asked each) call

theorem backends_eq_singleton {index : Nat} (within : index < config.conids.length) :
    config.backends = [index] ↔ config.conids.length = 1 := by
  constructor
  · intro one
    have length := congrArg List.length one
    simpa [backends] using length
  · intro one
    have first : index = 0 := by omega
    simp [backends, one, first]

/-- A call that does not ask for the last insert id, and goes on with the session. -/
theorem stays_iff_routed {session : Session} {call : Call World} (other : call ≠ .getLastInsertId)
    (goes_on : call.endsSession = false) :
    config.Stays session call ↔ (config.routeEntireSession = true →
      ∀ index, session.connection.currentcon = some index →
        (config.outcome session.connection call).backends = [index]) := by
  constructor
  · intro stays entire
    exact stays.routed entire goes_on
  · intro routed
    constructor
    · intro entire _
      exact routed entire
    · intro same
      exact absurd same other

/-- A call does what it has to if and only if it is allowed. -/
theorem stays_iff {session : Session} (between : config.Between session) (call : Call World) :
    config.Stays session call ↔ config.Allowed session call := by
  have routed : ∀ {P : Nat → Prop} {Q : Prop},
      (config.routeEntireSession = true → ∀ index, session.connection.currentcon = some index →
        (P index ↔ Q)) →
      ((config.routeEntireSession = true → ∀ index, session.connection.currentcon = some index →
        P index) ↔
      (config.routeEntireSession = true → session.connection.currentcon.isSome → Q)) := by
    intro P Q same
    constructor
    · intro each entire some
      cases Option.isSome_iff_exists.mp some with
      | intro index found => exact (same entire index found).mp (each entire index found)
    · intro all entire index found
      exact (same entire index found).mpr (all entire (by simp [found]))
  cases call with
  | command command world =>
    rw [stays_iff_routed (by simp) rfl, Allowed]
    apply routed
    intro entire index found
    simp only [outcome, command_eq]
    rw [toOneOrAll_of_routed entire (by simp [found])]
    exact backends_eq_singleton (between.settled.within index found)
  | detail detail world =>
    rw [stays_iff_routed (by simp) rfl, Allowed]
    simp only [iff_true]
    intro entire index found
    simp only [outcome, detail_eq]
    rw [toUsable_of_routed entire (by simp [found])]
    simp [found]
  | getLastInsertId =>
    simp only [Allowed]
    constructor
    · intro stays each some
      cases Option.isSome_iff_exists.mp some with
      | intro index ran =>
        have asked := stays.lastInsertId rfl index ran
        rw [between.asked each, ran]
        cases here : session.connection.currentcon with
        | none => simp [outcome, getLastInsertId, here] at asked
        | some other => simpa [outcome, getLastInsertId, here] using asked
    · intro asked
      constructor
      · intro _ _ index found
        simp [outcome, getLastInsertId, found]
      · intro _ index ran
        have here : session.connection.currentcon = some index := by
          cases entire : config.routeEntireSession with
          | true => exact between.ran entire index ran
          | false =>
            rw [← between.asked entire, asked entire (by simp [ran]), ran]
        simp [outcome, getLastInsertId, here]
  | prepareQuery world place query =>
    rw [stays_iff_routed (by simp) rfl, Allowed]
    apply routed
    intro entire index found
    exact prepareQuery_of_routed between.settled entire found place query
  | executeQuery world place query succeeds binds =>
    rw [stays_iff_routed (by simp) rfl, Allowed]
    apply routed
    intro entire index found
    exact executeQuery_of_routed between.settled entire found place query succeeds binds
  | endSession world =>
    simp only [Allowed, iff_true]
    constructor
    · intro _ goes_on
      cases goes_on
    · intro same
      cases same

end Runs

/-- In a run of the calls of clients, one session after the other, every call ends up where it has to if
and only if every call is allowed. -/
theorem stays_along_iff (calls : List (Call World)) :
    Along config.step config.Stays Session.start calls ↔
      Along config.step config.Allowed Session.start calls := by
  have keeps : ∀ session call, config.Between session → config.Allowed session call →
      config.Between (config.step session call) := by
    intro session call between _
    exact between.step call
  have exact_ : ∀ session call, config.Between session →
      (config.Stays session call ↔ config.Allowed session call) := by
    intro session call between
    exact stays_iff between call
  exact Along.iff_guard keeps exact_ between_start

/-- Every user's session is routed to the first of two backends. -/
def userlist : Config Unit where
  routers := [⟨true, fun _ _ _ => ⟨some (ascii "first"), false, false⟩⟩]
  conids := [ascii "first", ascii "second"]

/-- The commit after a query goes to both backends. -/
theorem not_stays_userlist :
    ¬∀ (World : Type) (config : Config World) (calls : List (Call World)),
      Along config.step config.Stays Session.start calls := by
  intro claim
  have run := claim Unit userlist
    [.prepareQuery () 0 (ascii "delete from t"), .executeQuery () 0 (ascii "delete from t") true [],
      .command .commit ()]
  have commit := run.2.2.1.routed rfl rfl 0 rfl
  revert commit
  decide

end Config

end SqlRelay.Router
