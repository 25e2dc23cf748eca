import SqlRelay.Foundation.Run
import SqlRelay.Foundation.Token
import SqlRelay.Handoff.Steps

/-!
# How many connections serve a client

A child gives up on a connection without withdrawing what it has sent.  As long as the descriptor
that it has sent is lost by then, a client is served at most once: its descriptor is a token that
lies in one socket and is used up by one session.
-/

namespace SqlRelay.Handoff.System

open SqlRelay.Foundation SqlRelay.Foundation.Token

/-- The message carries the descriptor of this client. -/
def carriesDescriptor (client : Nat) (message : Message) : Bool :=
  message == .descriptor client

/-- No client is served by more than one connection, or more than once by one. -/
def ServedOnce (system : System) : Prop :=
  ∀ client, system.served.count client ≤ 1

/-- A child that gives up on a connection which it has passed its client to does so when the
descriptor is lost: the connection has neither started a session on it nor still to read it. -/
def AbandonsLost (mode : HandoffMode) (system : System) (event : Event) : Prop :=
  match event with
  | .ackFails client =>
      ∀ connection, system.listeners client = .awaiting connection → mode = .pass →
        .descriptor client ∉ system.sockets connection ∧ client ∉ system.served
  | _ => True

/-- Where the descriptor of a client is. -/
def Descriptor (mode : HandoffMode) (system : System) (client : Nat) : Prop :=
  let placed := system.placed (carriesDescriptor client)
  let used := system.served.count client
  match system.listeners client with
  | .awaiting connection =>
      match mode with
      | .pass => Once connection placed used
      | .proxy => Unplaced placed used
  | .relaying connection | .handedOff connection => Once connection placed used
  | _ => Unplaced placed used

/-- The descriptor of every client is where its child has put it. -/
def Tracked (mode : HandoffMode) (system : System) : Prop :=
  ∀ client, Descriptor mode system client

variable {mode : HandoffMode} {system : System}

theorem tracked_start : Tracked mode start := by
  intro client
  exact ⟨rfl, fun _ => rfl⟩

theorem Tracked.servedOnce (tracked : Tracked mode system) : ServedOnce system := by
  intro client
  have descriptor := tracked client
  rw [Descriptor] at descriptor
  split at descriptor
  · split at descriptor
    · exact descriptor.used_le
    · exact (descriptor.once 0).used_le
  · exact descriptor.used_le
  · exact descriptor.used_le
  · exact (descriptor.once 0).used_le

/-- What keeps the child of a client, the uses of its descriptor and does not place it keeps it
where it is. -/
theorem Descriptor.mono {next : System} {client : Nat} (descriptor : Descriptor mode system client)
    (same : next.listeners client = system.listeners client)
    (uses : next.served.count client = system.served.count client)
    (fewer : ∀ id, next.placed (carriesDescriptor client) id ≤
      system.placed (carriesDescriptor client) id) : Descriptor mode next client := by
  rw [Descriptor] at descriptor ⊢
  rw [same, uses]
  split at descriptor
  · split at descriptor
    · exact descriptor.mono fewer
    · exact descriptor.mono fewer
  · exact descriptor.mono fewer
  · exact descriptor.mono fewer
  · exact descriptor.mono fewer

/-- A session on the descriptor takes it from the socket. -/
theorem Descriptor.use {next : System} {client : Nat}
    (descriptor : Descriptor mode system client) (id : Nat)
    (same : next.listeners client = system.listeners client)
    (taken : next.placed (carriesDescriptor client) id + 1 ≤
      system.placed (carriesDescriptor client) id)
    (others : ∀ other, other ≠ id → next.placed (carriesDescriptor client) other ≤
      system.placed (carriesDescriptor client) other)
    (uses : next.served.count client = system.served.count client + 1) :
    Descriptor mode next client := by
  have lies : ∀ {used}, ¬ Unplaced (system.placed (carriesDescriptor client)) used := by
    intro used unplaced
    have nowhere := unplaced.2 id
    omega
  rw [Descriptor] at descriptor ⊢
  rw [same, uses]
  split at descriptor
  · split at descriptor
    · exact (descriptor.use taken others).2.2
    · exact absurd descriptor lies
  · exact (descriptor.use taken others).2.2
  · exact (descriptor.use taken others).2.2
  · exact absurd descriptor lies

/-- A connection loses descriptors or starts a session on one. -/
theorem tracked_outcome {next : System} {id : Nat} {event : Event} (tracked : Tracked mode system)
    (outcome : Outcome system id event next) : Tracked mode next := by
  intro client
  have descriptor := tracked client
  cases outcome with
  | moves connection messages sub same =>
      exact descriptor.mono rfl rfl (placed_setSocket_le system _ sub)
  | fails messages sub waits failed =>
      exact descriptor.mono rfl rfl (placed_setSocket_le system _ sub)
  | startsProxy first rest waits head =>
      exact descriptor.mono rfl rfl (placed_setSocket_le system _ (by simp [head]))
  | strays rest sub waits reads torn =>
      exact descriptor.mono rfl rfl (placed_setSocket_le system _ sub)
  | ends ended had =>
      exact descriptor.mono rfl rfl (fun _ => Nat.le_refl _)
  | startsPass first rest waits head =>
      have sub : rest.Sublist (system.sockets id) := by simp [head]
      by_cases same : client = first
      · subst same
        have lay : system.placed (carriesDescriptor client) id =
            rest.countP (carriesDescriptor client) + 1 := by
          simp [placed, head, carriesDescriptor]
        refine descriptor.use id rfl ?_ ?_ (List.count_cons_self ..)
        · rw [lay]
          exact Nat.le_of_eq (congrArg (· + 1) (placed_setSocket_same system _ id rest))
        · intro other elsewhere
          exact Nat.le_of_eq (placed_setSocket_other system _ elsewhere rest)
      · refine descriptor.mono rfl (List.count_cons_of_ne (Ne.symm same)) ?_
        exact placed_setSocket_le system _ sub

/-- The child of one client leaves the descriptors of the others where they are. -/
theorem Descriptor.others {client other : Nat} (descriptor : Descriptor mode system other)
    (elsewhere : other ≠ client) (event : Event) :
    Descriptor mode (system.listenerStep mode client event) other := by
  have listener (next : Listener) :
      Function.update system.listeners client next other = system.listeners other :=
    Function.update_of_ne elsewhere _ _
  unfold listenerStep
  split
  · exact descriptor.mono (listener _) rfl (fun _ => Nat.le_refl _)
  · exact descriptor.mono (listener _) rfl (fun _ => Nat.le_refl _)
  · exact descriptor.mono (listener _) rfl (fun _ => Nat.le_refl _)
  · exact descriptor.mono (listener _) rfl (placed_send_le system _ rfl _)
  · exact descriptor.mono (listener _) rfl (placed_send_le system _ rfl _)
  · refine descriptor.mono (listener _) rfl (placed_send_le system _ ?_ _)
    cases mode
    · simp [HandoffMode.offer, carriesDescriptor, elsewhere.symm]
    · rfl
  · split
    · exact descriptor.mono (listener _) rfl (fun _ => Nat.le_refl _)
    · exact descriptor
  · split
    · exact descriptor
    · split
      · exact descriptor.mono (listener _) rfl (fun _ => Nat.le_refl _)
      · exact descriptor.mono (listener _) (List.count_cons_of_ne elsewhere.symm)
          (fun _ => Nat.le_refl _)
  · exact descriptor.mono (listener _) rfl (fun _ => Nat.le_refl _)
  · refine descriptor.mono (listener _) rfl (placed_send_le system _ ?_ _)
    split <;> rfl
  · exact descriptor

theorem Descriptor.of_unplaced {client : Nat}
    (unplaced : Unplaced (system.placed (carriesDescriptor client)) (system.served.count client)) :
    Descriptor mode system client := by
  rw [Descriptor]
  split
  · split
    · exact unplaced.once _
    · exact unplaced
  · exact unplaced.once _
  · exact unplaced.once _
  · exact unplaced

/-- The child of a client places the descriptor once, and again only when it is lost. -/
theorem Descriptor.own {client : Nat} (descriptor : Descriptor mode system client)
    (event : Event) (lost : ∀ named connection, event = .ackFails named →
      system.listeners client = .awaiting connection → mode = .pass →
        .descriptor client ∉ system.sockets connection ∧ client ∉ system.served) :
    Descriptor mode (system.listenerStep mode client event) client := by
  have now (next : System) (listener : Listener) :
      (next.setListener client listener).listeners client = listener :=
    Function.update_self ..
  unfold listenerStep
  split
  next before =>
    rw [Descriptor, before] at descriptor
    exact .of_unplaced descriptor
  next connection before =>
    rw [Descriptor, before] at descriptor
    exact .of_unplaced descriptor
  next before =>
    rw [Descriptor, before] at descriptor
    exact .of_unplaced descriptor
  next connection before =>
    rw [Descriptor, before] at descriptor
    exact .of_unplaced (descriptor.mono (placed_send_le system _ rfl _))
  next protocolindex connection before =>
    rw [Descriptor, before] at descriptor
    exact .of_unplaced (descriptor.mono (placed_send_le system _ rfl _))
  next connection before =>
    rw [Descriptor, before] at descriptor
    cases mode with
    | pass =>
        rw [Descriptor, now]
        refine descriptor.put connection ?_ ?_
        · have sent := placed_send_same_le system (carriesDescriptor client) connection
            (HandoffMode.pass.offer client)
          rw [show (HandoffMode.pass.offer client).countP (carriesDescriptor client) = 1 by
            simp [HandoffMode.offer, carriesDescriptor]] at sent
          exact sent
        · intro other elsewhere
          exact Nat.le_of_eq (placed_send_other system _ elsewhere _)
    | proxy => exact .of_unplaced (descriptor.mono (placed_send_le system _ rfl _))
  next connection before =>
    split
    · rw [Descriptor, before] at descriptor
      exact .of_unplaced descriptor
    · exact descriptor
  next connection before =>
    split
    · exact descriptor
    · rw [Descriptor, before] at descriptor
      cases mode with
      | pass =>
          rw [Descriptor, now]
          exact descriptor
      | proxy =>
          rw [Descriptor, now]
          have served : (client :: system.served).count client = system.served.count client + 1 :=
            List.count_cons_self ..
          have used := Unplaced.use descriptor connection
          rw [← served] at used
          exact used
  next named connection before =>
    rw [Descriptor, before] at descriptor
    cases mode with
    | pass =>
        obtain ⟨gone, unserved⟩ := lost named connection rfl before rfl
        refine .of_unplaced (Once.unplaced descriptor ?_ (List.count_eq_zero.mpr unserved))
        rw [placed, List.countP_eq_zero]
        intro message present carries
        exact gone (eq_of_beq carries ▸ present)
    | proxy => exact .of_unplaced descriptor
  next closed connection before =>
    rw [Descriptor, before] at descriptor
    rw [Descriptor, now]
    refine descriptor.mono (placed_send_le system _ ?_ _)
    split <;> rfl
  next => exact descriptor

/-- What a child or a connection does keeps every descriptor where its child has put it. -/
theorem tracked_step (system : System) (event : Event) (tracked : Tracked mode system)
    (abandons : AbandonsLost mode system event) : Tracked mode (system.step mode event) := by
  have child (client : Nat) (same : system.step mode event =
      system.listenerStep mode client event) (lost : ∀ named connection, event = .ackFails named →
        system.listeners client = .awaiting connection → mode = .pass →
          .descriptor client ∉ system.sockets connection ∧ client ∉ system.served) :
      Tracked mode (system.step mode event) := by
    rw [same]
    intro other
    by_cases elsewhere : other = client
    · subst elsewhere
      exact (tracked other).own event lost
    · exact (tracked other).others elsewhere event
  cases event with
  | arrive client => exact child client rfl (by simp)
  | getAConnection client connection => exact child client rfl (by simp)
  | refuse client => exact child client rfl (by simp)
  | writeMode client => exact child client rfl (by simp)
  | writeProtocol client protocolindex => exact child client rfl (by simp)
  | offer client => exact child client rfl (by simp)
  | passSocketFails client => exact child client rfl (by simp)
  | readAck client => exact child client rfl (by simp)
  | relayEnds client closed => exact child client rfl (by simp)
  | ackFails client => exact child client rfl (fun _ connection _ => abandons connection)
  | read id garbage =>
      exact tracked_outcome tracked (connectionStep_outcome id (.read id garbage))
  | waitForClient id | readFails id | suspend id | resume id | resumeFails id | endSession id
  | exit id => exact tracked_outcome tracked (connectionStep_outcome id _)

/-- In every run in which children give up on connections only when what they have passed is lost,
no client is served twice. -/
theorem servedOnce_of_abandonsLost (mode : HandoffMode) (events : List Event)
    (abandons : Along (step mode) (AbandonsLost mode) start events) :
    ServedOnce (events.foldl (step mode) start) :=
  (Along.invariant tracked_step tracked_start abandons).servedOnce

/-- A child's part of one handoff, up to the acknowledgement. -/
def passesTo (client connection : Nat) : List Event :=
  [.getAConnection client connection, .writeMode client, .writeProtocol client 0, .offer client]

/-- A connection's part of one handoff. -/
def takesClient (connection : Nat) : List Event :=
  [.waitForClient connection, .read connection 0, .read connection 0, .read connection 0]

/-- The first connection has exited when the client is passed to it, the second one takes it. -/
def exitBeforeHandoff : List Event :=
  [.arrive 0, .exit 0] ++ passesTo 0 0 ++ [.ackFails 0] ++ passesTo 0 1 ++ takesClient 1 ++
    [.readAck 0]

/-- The first connection is late: it takes the client after the child has passed it to another. -/
def lateAcknowledgement : List Event :=
  [.arrive 0] ++ passesTo 0 0 ++ [.ackFails 0] ++ passesTo 0 1 ++ takesClient 1 ++ [.readAck 0] ++
    takesClient 0

theorem servedOnce_exitBeforeHandoff :
    ServedOnce (exitBeforeHandoff.foldl (step .pass) start) := by
  apply servedOnce_of_abandonsLost
  simp [exitBeforeHandoff, passesTo, takesClient, AbandonsLost, step, listenerStep,
    connectionStep, start, send, setListener, setConnection, setSocket,
    incrementConnectedClientCount]

theorem not_servedOnce : ¬ ∀ (mode : HandoffMode) (events : List Event),
    ServedOnce (events.foldl (step mode) start) := by
  intro servedOnce
  have twice := servedOnce .pass lateAcknowledgement 0
  exact absurd twice (by decide)

end SqlRelay.Handoff.System
