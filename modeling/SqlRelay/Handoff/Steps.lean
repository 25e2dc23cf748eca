import Mathlib.Tactic.SplitIfs
import SqlRelay.Handoff.Protocol

/-!
# What a step of the handoff can do

A client is offered in the messages that carry its descriptor or the process id of its child.  The
child alone puts them into a socket; a connection loses them or starts a session on one.
-/

namespace SqlRelay.Handoff

/-- The client of a session, whether it is suspended or not. -/
def Connection.client : Connection → Option (Option Nat)
  | .session _ client | .suspended _ client => some client
  | _ => none

/-- The connection is in `waitForClient`. -/
def Connection.waits : Connection → Bool
  | .command | .protocol _ | .offer _ => true
  | _ => false

/-- `waitForClient` returns -1 over what it reads. -/
def refusesToRead (connection : Connection) (messages : List Message) (garbage : Nat) : Bool :=
  match connection, messages with
  | .command, message :: _ =>
      let command := System.word garbage message
      !(command = endSession ∨ command = 1536 ∨ command = handoffReconnect ∨
        command = HandoffMode.pass.command ∨ command = HandoffMode.proxy.command : Bool)
  | .offer .pass, .descriptor _ :: _ => false
  | .offer .pass, _ :: _ => true
  | _, _ => false

/-- Four bytes are there to read, but they are not the process id of one child. -/
def Torn (messages : List Message) : Prop :=
  2 ≤ messages.length ∧ ∀ client rest, messages ≠ .pidFirst client :: .pidRest client :: rest

namespace System

/-- How many messages of a kind a connection has still to read. -/
def placed (kind : Message → Bool) (system : System) (id : Nat) : Nat :=
  (system.sockets id).countP kind

variable (system : System) (kind : Message → Bool)

theorem placed_setSocket_same (id : Nat) (messages : List Message) :
    (system.setSocket id messages).placed kind id = messages.countP kind := by
  simp [placed, setSocket]

theorem placed_setSocket_other {id other : Nat} (elsewhere : other ≠ id)
    (messages : List Message) :
    (system.setSocket id messages).placed kind other = system.placed kind other := by
  simp [placed, setSocket, Function.update_of_ne elsewhere]

/-- Reading places nothing. -/
theorem placed_setSocket_le {id : Nat} {messages : List Message}
    (sub : messages.Sublist (system.sockets id)) (other : Nat) :
    (system.setSocket id messages).placed kind other ≤ system.placed kind other := by
  by_cases same : other = id
  · subst same
    rw [placed_setSocket_same]
    exact sub.countP_le
  · exact Nat.le_of_eq (placed_setSocket_other system kind same messages)

theorem placed_send_same_le (id : Nat) (messages : List Message) :
    (system.send id messages).placed kind id ≤ system.placed kind id + messages.countP kind := by
  rw [send, placed_setSocket_same, List.countP_append, placed]
  split <;> simp

theorem placed_send_other {id other : Nat} (elsewhere : other ≠ id) (messages : List Message) :
    (system.send id messages).placed kind other = system.placed kind other :=
  placed_setSocket_other system kind elsewhere _

/-- Messages of another kind place nothing. -/
theorem placed_send_le {messages : List Message} (none_of_them : messages.countP kind = 0)
    (id other : Nat) :
    (system.send id messages).placed kind other ≤ system.placed kind other := by
  by_cases same : other = id
  · subst same
    have bound := placed_send_same_le system kind other messages
    omega
  · exact Nat.le_of_eq (placed_send_other system kind same messages)

variable {system}

/-- What a connection can do to the system. -/
inductive Outcome (system : System) (id : Nat) (event : Event) : System → Prop where
  /-- It goes on, and may lose messages. -/
  | moves (connection : Connection) (messages : List Message)
      (sub : messages.Sublist (system.sockets id))
      (same : connection.client = (system.connections id).client) :
      Outcome system id event ((system.setSocket id messages).setConnection id connection)
  | fails (messages : List Message) (sub : messages.Sublist (system.sockets id))
      (waits : (system.connections id).waits = true)
      (failed : (∃ reader, event = .readFails reader) ∨
        ∃ reader garbage, event = .read reader garbage ∧
          refusesToRead (system.connections id) (system.sockets id) garbage = true) :
      Outcome system id event ((system.setSocket id messages).waitFailed id)
  | startsPass (client : Nat) (rest : List Message)
      (waits : system.connections id = .offer .pass)
      (head : system.sockets id = .descriptor client :: rest) :
      Outcome system id event
        (({ system with served := client :: system.served }.setSocket id rest).startSession id
          .pass (some client))
  | startsProxy (client : Nat) (rest : List Message)
      (waits : system.connections id = .offer .proxy)
      (head : system.sockets id = .pidFirst client :: .pidRest client :: rest) :
      Outcome system id event
        ((system.setSocket id rest).startSession id .proxy (some client))
  /-- The process id is not that of one child. -/
  | strays (rest : List Message) (sub : rest.Sublist (system.sockets id))
      (waits : system.connections id = .offer .proxy) (reads : ∃ reader garbage, event = .read reader garbage)
      (torn : Torn (system.sockets id)) :
      Outcome system id event ((system.setSocket id rest).startSession id .proxy none)
  | ends (client : Option Nat) (had : (system.connections id).client = some client) :
      Outcome system id event (system.sessionEnds id client)

theorem Outcome.stays (id : Nat) (event : Event) : Outcome system id event system := by
  have same : Outcome system id event ((system.setSocket id (system.sockets id)).setConnection id
      (system.connections id)) := .moves _ _ (List.Sublist.refl _) rfl
  simpa [setSocket, setConnection] using same

theorem Outcome.reads (id : Nat) (event : Event) {messages : List Message}
    (sub : messages.Sublist (system.sockets id)) :
    Outcome system id event (system.setSocket id messages) := by
  have same : Outcome system id event ((system.setSocket id messages).setConnection id
      (system.connections id)) := .moves _ _ sub rfl
  simpa [setSocket, setConnection] using same

theorem Outcome.turns {id : Nat} (event : Event) {connection : Connection}
    (same : connection.client = (system.connections id).client) :
    Outcome system id event (system.setConnection id connection) := by
  have moved : Outcome system id event ((system.setSocket id (system.sockets id)).setConnection id
      connection) := .moves _ _ (List.Sublist.refl _) same
  simpa [setSocket] using moved

theorem readNext_outcome (id reader garbage : Nat) :
    Outcome system id (.read reader garbage) (system.readNext id garbage) := by
  unfold readNext
  split
  next message rest waits has =>
    have sub : rest.Sublist (system.sockets id) := by simp [has]
    dsimp only
    split_ifs with ended again passed proxied
    · exact .reads id _ sub
    · exact .moves .away rest sub (by simp [waits, Connection.client])
    · exact .moves (.protocol .pass) rest sub (by simp [waits, Connection.client])
    · exact .moves (.protocol .proxy) rest sub (by simp [waits, Connection.client])
    · refine .fails rest sub (by simp [waits, Connection.waits]) (.inr ⟨reader, garbage, rfl, ?_⟩)
      simp_all [refusesToRead]
  next mode _ rest waits has =>
    exact .moves (.offer mode) rest (by simp [has]) (by simp [waits, Connection.client])
  next client rest waits has => exact .startsPass client rest waits has
  next message rest other waits has =>
    refine .fails rest (by simp [has]) (by simp [waits, Connection.waits])
      (.inr ⟨reader, garbage, rfl, ?_⟩)
    rw [waits, has]
    cases message with
    | descriptor client => exact absurd rfl (other client)
    | word | pidFirst | pidRest => rfl
  next first last rest waits has =>
    split_ifs with same
    · subst same
      exact .startsProxy first rest waits has
    · refine .strays rest (by simp [has]) waits ⟨reader, garbage, rfl⟩ ⟨by simp [has], ?_⟩
      intro client others
      rw [has]
      simp only [ne_eq, List.cons.injEq, Message.pidFirst.injEq, Message.pidRest.injEq]
      omega
  next message next rest torn waits has =>
    refine .strays rest (by simp [has]) waits ⟨reader, garbage, rfl⟩ ⟨by simp [has], ?_⟩
    intro client others whole
    rw [has, List.cons.injEq, List.cons.injEq] at whole
    exact torn client client whole.1 whole.2.1
  next _ _ rest waits has => exact .reads id _ (by simp [has])
  next => exact .stays id _

/-- What a connection does is one of these. -/
theorem connectionStep_outcome (id : Nat) (event : Event) :
    Outcome system id event (system.connectionStep id event) := by
  have partly : (lostInRead (system.connections id) (system.sockets id)).Sublist
      (system.sockets id) := by
    rw [lostInRead]
    split
    · exact List.nil_sublist _
    · exact List.Sublist.refl _
  unfold connectionStep
  split
  next waits => exact .turns _ (by simp [waits, Connection.client])
  next reader garbage => exact readNext_outcome id reader garbage
  next reader waits =>
    exact .fails _ partly (by simp [waits, Connection.waits]) (.inl ⟨reader, rfl⟩)
  next reader mode waits =>
    exact .fails _ partly (by simp [waits, Connection.waits]) (.inl ⟨reader, rfl⟩)
  next reader mode waits =>
    exact .fails _ partly (by simp [waits, Connection.waits]) (.inl ⟨reader, rfl⟩)
  next mode client serves => exact .turns _ (by simp [serves, Connection.client])
  next mode client serves => exact .turns _ (by simp [serves, Connection.client])
  next mode client serves => exact .ends client (by simp [serves, Connection.client])
  next mode client serves => exact .ends client (by simp [serves, Connection.client])
  next waits => exact .moves .gone [] (List.nil_sublist _) (by simp [waits, Connection.client])
  next => exact .stays id _

/-- The child that an event is about. -/
def child : Event → Option Nat
  | .arrive client | .getAConnection client _ | .refuse client | .writeMode client
  | .writeProtocol client _ | .offer client | .passSocketFails client | .readAck client
  | .ackFails client | .relayEnds client _ => some client
  | _ => none

theorem listeners_outcome {next : System} {id : Nat} {event : Event}
    (outcome : Outcome system id event next) : next.listeners = system.listeners := by
  cases outcome <;> rfl

theorem listeners_listenerStep (mode : HandoffMode) {client other : Nat}
    (elsewhere : other ≠ client) (event : Event) :
    (system.listenerStep mode client event).listeners other = system.listeners other := by
  unfold listenerStep
  split
  case h_7 | h_8 =>
    split
    · simp [setListener, elsewhere]
    · first | rfl | (split <;> simp [setListener, setAcks, elsewhere])
  all_goals simp [setListener, send, setSocket, closeClient, decrementConnectedClientCount,
    incrementConnectedClientCount, elsewhere]

/-- A child that no event is about stays where it is. -/
theorem listeners_step (mode : HandoffMode) (event : Event) {client : Nat}
    (elsewhere : child event ≠ some client) :
    (system.step mode event).listeners client = system.listeners client := by
  cases event with
  | arrive named | getAConnection named _ | refuse named | writeMode named | writeProtocol named _
  | offer named | passSocketFails named | readAck named | ackFails named | relayEnds named _ =>
      apply listeners_listenerStep
      intro same
      exact elsewhere (by rw [child, same])
  | read id garbage =>
      exact congrFun (listeners_outcome (connectionStep_outcome id (.read id garbage))) client
  | waitForClient id | readFails id | suspend id | resume id | resumeFails id | endSession id
  | exit id => exact congrFun (listeners_outcome (connectionStep_outcome id _)) client

theorem listeners_run (mode : HandoffMode) (events : List Event) {client : Nat}
    (elsewhere : ∀ event ∈ events, child event ≠ some client) :
    (events.foldl (step mode) system).listeners client = system.listeners client := by
  induction events generalizing system with
  | nil => rfl
  | cons event rest ih =>
      rw [List.foldl_cons, ih (fun later present => elsewhere later (List.mem_cons_of_mem _ present)),
        listeners_step mode event (elsewhere event List.mem_cons_self)]

end System

end SqlRelay.Handoff
