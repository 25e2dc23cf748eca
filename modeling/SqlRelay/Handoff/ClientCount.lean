import Mathlib.Data.List.Nodup
import SqlRelay.Foundation.Run
import SqlRelay.Foundation.Token
import SqlRelay.Handoff.Steps

/-!
# The count of connected clients

A client is counted when the listener accepts it.  It is counted off by its child, when no
connection could be had, or by the connection that has served it.  A connection also counts a
client off when its wait for one fails, though the child still has the client.
-/

namespace SqlRelay.Handoff

open SqlRelay.Foundation SqlRelay.Foundation.Token

/-- `handOffOrProxyClient` is looking for a connection or is in the middle of a handoff. -/
def Listener.handingOff : Listener → Bool
  | .seeking | .chosen _ | .modeWritten _ | .protocolWritten _ | .awaiting _ => true
  | .absent | .relaying _ | .handedOff _ | .refused => false

/-- The connection that the client has been offered to. -/
def Listener.place : Listener → Option Nat
  | .awaiting connection | .relaying connection | .handedOff connection => some connection
  | _ => none

namespace System

/-- The message offers this client to a connection. -/
def offers (client : Nat) (message : Message) : Bool :=
  message == .descriptor client || message == .pidRest client

/-- While no handoff is in progress, the count is the number of clients that were accepted and
whose session has not ended. -/
def Conserved (system : System) : Prop :=
  (∀ client, (system.listeners client).handingOff = false) →
    system.connectedclients = system.openClients.length

/-- Nothing goes wrong in a handoff while clients are counted: a child gives up on a connection
only when what it has sent is lost, no connection stops waiting for a client, and none takes two
halves for the process id of a child. -/
def HandsOver (system : System) (event : Event) : Prop :=
  match event with
  | .ackFails client =>
      ∀ connection, system.listeners client = .awaiting connection →
        (∀ message ∈ system.sockets connection, offers client message = false) ∧
          client ∉ system.started
  | .readFails id => (system.connections id).waits = true → system.connectedclients = 0
  | .read id garbage =>
      (refusesToRead (system.connections id) (system.sockets id) garbage = true →
        system.connectedclients = 0) ∧
      (system.connections id = .offer .proxy → ¬ Torn (system.sockets id))
  | _ => True

/-- Where the offer of a client is, and whether it is counted. -/
def Offer (system : System) (client : Nat) : Prop :=
  let placed := system.placed (offers client)
  let used := system.started.count client
  match (system.listeners client).place with
  | none =>
      Unplaced placed used ∧
        (client ∈ system.openClients ↔ (system.listeners client).handingOff = true)
  | some connection =>
      Once connection placed used ∧ (used = 0 → client ∈ system.openClients)

/-- Every session is that of a client which is counted, and no other one is. -/
structure Sessions (system : System) : Prop where
  known : ∀ id, (system.connections id).client ≠ some none
  counted : ∀ id client, (system.connections id).client = some (some client) →
    client ∈ system.openClients ∧ client ∈ system.started
  alone : ∀ id other client, (system.connections id).client = some (some client) →
    (system.connections other).client = some (some client) → id = other

/-- The count is right at any time. -/
structure Balanced (system : System) : Prop where
  count : system.connectedclients = system.openClients.length
  distinct : system.openClients.Nodup
  offer : ∀ client, Offer system client
  sessions : Sessions system

variable {mode : HandoffMode} {system : System}

theorem balanced_start : Balanced start where
  count := rfl
  distinct := List.nodup_nil
  offer := by
    intro client
    exact ⟨⟨rfl, fun _ => rfl⟩, by simp [start, Listener.handingOff]⟩
  sessions :=
    { known := by simp [start, Connection.client]
      counted := by simp [start, Connection.client]
      alone := by simp [start, Connection.client] }

theorem Offer.mono {next : System} {client : Nat} (offer : Offer system client)
    (same : next.listeners client = system.listeners client)
    (uses : next.started.count client = system.started.count client)
    (counted : client ∈ next.openClients ↔ client ∈ system.openClients)
    (fewer : ∀ id, next.placed (offers client) id ≤ system.placed (offers client) id) :
    Offer next client := by
  rw [Offer] at offer ⊢
  rw [same, uses, counted]
  split at offer
  · exact ⟨offer.1.mono fewer, offer.2⟩
  · exact ⟨offer.1.mono fewer, offer.2⟩

/-- A session takes the offer from the socket; it was counted until then. -/
theorem Offer.use {client id : Nat} (offer : Offer system client) (next : System)
    (same : next.listeners client = system.listeners client)
    (taken : next.placed (offers client) id + 1 ≤ system.placed (offers client) id)
    (others : ∀ other, other ≠ id →
      next.placed (offers client) other ≤ system.placed (offers client) other)
    (uses : next.started.count client = system.started.count client + 1) :
    client ∈ system.openClients ∧ client ∉ system.started ∧ Offer next client := by
  rw [Offer] at offer
  split at offer
  next =>
    have nowhere := offer.1.2 id
    omega
  next connection place =>
    obtain ⟨once, counted⟩ := offer
    obtain ⟨_, unused, after⟩ := once.use taken others
    refine ⟨counted unused, List.count_eq_zero.mp unused, ?_⟩
    rw [Offer, same, place, uses]
    refine ⟨after, ?_⟩
    intro never
    omega

/-- The offer of a client that has had a session is used, whether the client is counted or not. -/
theorem Offer.ended {next : System} {client : Nat} (offer : Offer system client)
    (began : client ∈ system.started) (same : next.listeners client = system.listeners client)
    (uses : next.started = system.started)
    (fewer : ∀ id, next.placed (offers client) id ≤ system.placed (offers client) id) :
    Offer next client := by
  have used := List.count_pos_iff.mpr began
  rw [Offer] at offer ⊢
  rw [same, uses]
  split at offer
  next => exact absurd offer.1.1 (Nat.ne_of_gt used)
  next =>
    refine ⟨offer.1.mono fewer, ?_⟩
    intro never
    omega

/-- Connections whose clients stay the same have the same sessions. -/
theorem Sessions.congr {next : System} (sessions : Sessions system)
    (clients : ∀ id, (next.connections id).client = (system.connections id).client)
    (counted : ∀ client, client ∈ system.openClients → client ∈ system.started →
      client ∈ next.openClients)
    (started : ∀ client, client ∈ system.started → client ∈ next.started) : Sessions next where
  known := by
    intro id
    rw [clients]
    exact sessions.known id
  counted := by
    intro id client
    rw [clients]
    intro serves
    obtain ⟨isOpen, began⟩ := sessions.counted id client serves
    exact ⟨counted client isOpen began, started client began⟩
  alone := by
    intro id other client
    rw [clients, clients]
    exact sessions.alone id other client

theorem client_update {id : Nat} {connection : Connection} (client : Option (Option Nat))
    (now : connection.client = client) (other : Nat) :
    (Function.update system.connections id connection other).client =
      if other = id then client else (system.connections other).client := by
  rw [Function.update_apply]
  split
  · exact now
  · rfl

/-- A connection that starts a session with a client which is counted and has had none. -/
theorem Sessions.begin {next : System} {id client : Nat} {connection : Connection}
    (sessions : Sessions system) (fresh : client ∉ system.started)
    (isOpen : client ∈ system.openClients)
    (connections : next.connections = Function.update system.connections id connection)
    (now : connection.client = some (some client))
    (same : next.openClients = system.openClients)
    (started : next.started = client :: system.started) : Sessions next := by
  have clients (other : Nat) : (next.connections other).client =
      if other = id then some (some client) else (system.connections other).client := by
    rw [connections]
    exact client_update _ now other
  constructor
  · intro other
    rw [clients]
    split
    · simp
    · exact sessions.known other
  · intro other served
    rw [clients, same, started]
    split
    · intro serves
      cases serves
      exact ⟨isOpen, List.mem_cons_self⟩
    · intro serves
      obtain ⟨counted, began⟩ := sessions.counted other served serves
      exact ⟨counted, List.mem_cons_of_mem _ began⟩
  · intro one other served
    rw [clients, clients]
    split
    next here =>
      split
      next there => simp [here, there]
      next =>
        intro serves other_serves
        cases serves
        exact absurd (sessions.counted other client other_serves).2 fresh
    next =>
      split
      next =>
        intro serves other_serves
        cases other_serves
        exact absurd (sessions.counted one client serves).2 fresh
      next => exact sessions.alone one other served

/-- A session ends, and no other one has its client. -/
theorem Sessions.finish {next : System} {id client : Nat} (sessions : Sessions system)
    (had : (system.connections id).client = some (some client))
    (connections : next.connections = Function.update system.connections id .away)
    (closed : next.openClients = system.openClients.erase client)
    (same : next.started = system.started) : Sessions next := by
  have clients (other : Nat) : (next.connections other).client =
      if other = id then none else (system.connections other).client := by
    rw [connections]
    exact client_update none rfl other
  constructor
  · intro other
    rw [clients]
    split
    · simp
    · exact sessions.known other
  · intro other served
    rw [clients, closed, same]
    split
    next => simp
    next elsewhere =>
      intro serves
      obtain ⟨counted, began⟩ := sessions.counted other served serves
      have another : served ≠ client := by
        intro clash
        exact elsewhere (sessions.alone other id client (clash ▸ serves) had)
      exact ⟨(List.mem_erase_of_ne another).mpr counted, began⟩
  · intro one other served
    rw [clients, clients]
    split
    · simp
    · split
      · simp
      · exact sessions.alone one other served

/-- A session is started on an offer. -/
theorem Balanced.begin {next : System} {connection : Connection} (balanced : Balanced system)
    (id client : Nat) (now : connection.client = some (some client))
    (listeners : next.listeners = system.listeners)
    (connections : next.connections = Function.update system.connections id connection)
    (counted : next.connectedclients = system.connectedclients)
    (same : next.openClients = system.openClients)
    (started : next.started = client :: system.started)
    (taken : next.placed (offers client) id + 1 ≤ system.placed (offers client) id)
    (fewer : ∀ other place, next.placed (offers other) place ≤ system.placed (offers other) place) :
    Balanced next := by
  obtain ⟨isOpen, fresh, offer⟩ := (balanced.offer client).use next (by rw [listeners])
    taken (fun other _ => fewer client other) (by rw [started, List.count_cons_self])
  refine ⟨?_, ?_, ?_, balanced.sessions.begin fresh isOpen connections now same started⟩
  · rw [counted, same, balanced.count]
  · rw [same]
    exact balanced.distinct
  · intro other
    by_cases here : other = client
    · rw [here]
      exact offer
    · refine (balanced.offer other).mono (by rw [listeners]) ?_ (by rw [same]) (fewer other)
      rw [started, List.count_cons_of_ne (Ne.symm here)]

/-- What a connection does keeps the count right, if nothing goes wrong. -/
theorem balanced_outcome {next : System} {id : Nat} {event : Event} (balanced : Balanced system)
    (outcome : Outcome system id event next)
    (waits : (∃ reader, event = .readFails reader) ∨ (∃ reader garbage,
      event = .read reader garbage ∧
        refusesToRead (system.connections id) (system.sockets id) garbage = true) →
      (system.connections id).waits = true → system.connectedclients = 0)
    (whole : (∃ reader garbage, event = .read reader garbage) →
      system.connections id = .offer .proxy → ¬ Torn (system.sockets id)) : Balanced next := by
  cases outcome with
  | moves connection messages sub same =>
      refine ⟨balanced.count, balanced.distinct, ?_, ?_⟩
      · intro client
        exact (balanced.offer client).mono rfl rfl Iff.rfl (placed_setSocket_le system _ sub)
      · refine balanced.sessions.congr ?_ (fun _ counted _ => counted) (fun _ began => began)
        intro other
        refine (client_update _ same other).trans ?_
        split
        next here => rw [here]
        next => rfl
  | fails messages sub waiting failed =>
      have uncounted := waits failed waiting
      refine ⟨?_, balanced.distinct, ?_, ?_⟩
      · exact (if_pos uncounted).trans (uncounted.symm.trans balanced.count)
      · intro client
        exact (balanced.offer client).mono rfl rfl Iff.rfl (placed_setSocket_le system _ sub)
      · refine balanced.sessions.congr ?_ (fun _ counted _ => counted) (fun _ began => began)
        intro other
        refine (client_update none rfl other).trans ?_
        split
        next here =>
          subst here
          cases state : system.connections other <;> simp_all [Connection.waits, Connection.client]
        next => rfl
  | startsPass client rest waiting head =>
      refine balanced.begin id client rfl rfl rfl rfl rfl rfl ?_ ?_
      · have lay : system.placed (offers client) id = rest.countP (offers client) + 1 := by
          simp [placed, head, offers]
        rw [lay]
        exact Nat.le_of_eq (congrArg (· + 1) (placed_setSocket_same system _ id rest))
      · intro other
        exact placed_setSocket_le system _ (by simp [head])
  | startsProxy client rest waiting head =>
      refine balanced.begin id client rfl rfl rfl rfl rfl rfl ?_ ?_
      · have lay : system.placed (offers client) id = rest.countP (offers client) + 1 := by
          simp [placed, head, offers]
        rw [lay]
        exact Nat.le_of_eq (congrArg (· + 1) (placed_setSocket_same system _ id rest))
      · intro other
        exact placed_setSocket_le system _ (by simp [head])
  | strays rest sub waiting reads torn => exact absurd torn (whole reads waiting)
  | ends client had =>
      cases client with
      | none => exact absurd had (balanced.sessions.known id)
      | some client =>
          obtain ⟨isOpen, began⟩ := balanced.sessions.counted id client had
          have shorter : (system.openClients.erase client).length =
              system.openClients.length - 1 := List.length_erase_of_mem isOpen
          refine ⟨?_, balanced.distinct.erase client, ?_, balanced.sessions.finish had rfl rfl rfl⟩
          · have nonempty : system.connectedclients ≠ 0 := by
              rw [balanced.count]
              exact Nat.ne_of_gt (List.length_pos_of_mem isOpen)
            exact (if_neg nonempty).trans ((congrArg (· - 1) balanced.count).trans shorter.symm)
          · intro other
            by_cases here : other = client
            · subst here
              exact (balanced.offer other).ended began rfl rfl (fun _ => Nat.le_refl _)
            · exact (balanced.offer other).mono rfl rfl (List.mem_erase_of_ne here)
                (fun _ => Nat.le_refl _)

/-- A child that goes on leaves the count as it is. -/
theorem Balanced.turn {next : System} {client : Nat} {listener : Listener}
    (balanced : Balanced system)
    (listeners : next.listeners = Function.update system.listeners client listener)
    (connections : next.connections = system.connections)
    (counted : next.connectedclients = system.connectedclients)
    (same : next.openClients = system.openClients) (started : next.started = system.started)
    (fewer : ∀ other, other ≠ client → ∀ id,
      next.placed (offers other) id ≤ system.placed (offers other) id)
    (own : Offer next client) : Balanced next := by
  refine ⟨?_, ?_, ?_, ?_⟩
  · rw [counted, same, balanced.count]
  · rw [same]
    exact balanced.distinct
  · intro other
    by_cases here : other = client
    · rw [here]
      exact own
    · exact (balanced.offer other).mono (by rw [listeners, Function.update_of_ne here])
        (by rw [started]) (by rw [same]) (fewer other here)
  · refine balanced.sessions.congr (fun id => by rw [connections]) ?_ ?_
    · intro other isOpen _
      rw [same]
      exact isOpen
    · intro other began
      rw [started]
      exact began

/-- What is known of a client that has been offered to no connection. -/
theorem Offer.before {client : Nat} {listener : Listener} (offer : Offer system client)
    (state : system.listeners client = listener) (nowhere : listener.place = none) :
    Unplaced (system.placed (offers client)) (system.started.count client) ∧
      (client ∈ system.openClients ↔ listener.handingOff = true) := by
  rw [Offer, state, nowhere] at offer
  exact offer

/-- What is known of a client that has been offered to a connection. -/
theorem Offer.after {client connection : Nat} {listener : Listener} (offer : Offer system client)
    (state : system.listeners client = listener) (there : listener.place = some connection) :
    Once connection (system.placed (offers client)) (system.started.count client) ∧
      (system.started.count client = 0 → client ∈ system.openClients) := by
  rw [Offer, state, there] at offer
  exact offer

theorem Offer.of_unplaced {client : Nat} {listener : Listener}
    (state : system.listeners client = listener) (nowhere : listener.place = none)
    (unplaced : Unplaced (system.placed (offers client)) (system.started.count client))
    (counted : client ∈ system.openClients ↔ listener.handingOff = true) :
    Offer system client := by
  rw [Offer, state, nowhere]
  exact ⟨unplaced, counted⟩

theorem Offer.of_once {client connection : Nat} {listener : Listener}
    (state : system.listeners client = listener) (there : listener.place = some connection)
    (once : Once connection (system.placed (offers client)) (system.started.count client))
    (counted : system.started.count client = 0 → client ∈ system.openClients) :
    Offer system client := by
  rw [Offer, state, there]
  exact ⟨once, counted⟩

/-- An accepted client is counted. -/
theorem balanced_arrive {client : Nat} (balanced : Balanced system)
    (before : system.listeners client = .absent) :
    Balanced ({ system.incrementConnectedClientCount with
      openClients := client :: system.openClients }.setListener client .seeking) := by
  obtain ⟨unplaced, counted⟩ := (balanced.offer client).before before rfl
  have uncounted : client ∉ system.openClients := by
    intro present
    exact absurd (counted.mp present) (by simp [Listener.handingOff])
  refine ⟨congrArg (· + 1) balanced.count, List.nodup_cons.mpr ⟨uncounted, balanced.distinct⟩,
    ?_, ?_⟩
  · intro other
    by_cases here : other = client
    · subst here
      exact .of_unplaced (Function.update_self ..) rfl unplaced
        (by simp [setListener, Listener.handingOff])
    · exact (balanced.offer other).mono (Function.update_of_ne here ..) rfl
        (by simp [setListener, here]) (fun _ => Nat.le_refl _)
  · refine balanced.sessions.congr (fun _ => rfl) ?_ (fun _ began => began)
    intro other present _
    exact List.mem_cons_of_mem _ present

/-- A client that no connection could be had for is counted off. -/
theorem balanced_refuse {client : Nat} (balanced : Balanced system)
    (before : system.listeners client = .seeking) :
    Balanced (((system.setListener client .refused).closeClient
      (some client)).decrementConnectedClientCount) := by
  obtain ⟨unplaced, counted⟩ := (balanced.offer client).before before rfl
  have isOpen := counted.mpr rfl
  have shorter : (system.openClients.erase client).length = system.openClients.length - 1 :=
    List.length_erase_of_mem isOpen
  have nonempty : system.connectedclients ≠ 0 := by
    rw [balanced.count]
    exact Nat.ne_of_gt (List.length_pos_of_mem isOpen)
  refine ⟨?_, balanced.distinct.erase client, ?_, ?_⟩
  · exact (if_neg nonempty).trans ((congrArg (· - 1) balanced.count).trans shorter.symm)
  · intro other
    by_cases here : other = client
    · subst here
      refine .of_unplaced (Function.update_self ..) rfl unplaced ?_
      simp [closeClient, decrementConnectedClientCount, setListener, Listener.handingOff,
        balanced.distinct.mem_erase_iff]
    · exact (balanced.offer other).mono (Function.update_of_ne here ..) rfl
        (List.mem_erase_of_ne here) (fun _ => Nat.le_refl _)
  · refine balanced.sessions.congr (fun _ => rfl) ?_ (fun _ began => began)
    intro other present began
    have another : other ≠ client := by
      intro same
      exact absurd (same ▸ began) (List.count_eq_zero.mp unplaced.1)
    exact (List.mem_erase_of_ne another).mpr present

/-- The child of one client offers no other one. -/
theorem offered_others {client other : Nat} (elsewhere : other ≠ client) :
    (mode.offer client).countP (offers other) = 0 := by
  cases mode <;> simp [HandoffMode.offer, offers, elsewhere.symm]

/-- What a child does keeps the count right, if it gives up on a connection only when its offer is
lost. -/
theorem balanced_child {client : Nat} (balanced : Balanced system) (event : Event)
    (lost : ∀ named connection, event = .ackFails named →
      system.listeners client = .awaiting connection →
        (∀ message ∈ system.sockets connection, offers client message = false) ∧
          client ∉ system.started) :
    Balanced (system.listenerStep mode client event) := by
  have offer := balanced.offer client
  have now (next : System) (listener : Listener) :
      (next.setListener client listener).listeners client = listener :=
    Function.update_self ..
  unfold listenerStep
  split
  next before => exact balanced_arrive balanced before
  next connection before =>
    obtain ⟨unplaced, counted⟩ := offer.before before rfl
    exact balanced.turn rfl rfl rfl rfl rfl (fun _ _ _ => Nat.le_refl _)
      (.of_unplaced (now ..) rfl unplaced counted)
  next before => exact balanced_refuse balanced before
  next connection before =>
    obtain ⟨unplaced, counted⟩ := offer.before before rfl
    exact balanced.turn rfl rfl rfl rfl rfl (fun _ _ => placed_send_le system _ rfl _)
      (.of_unplaced (now ..) rfl (unplaced.mono (placed_send_le system _ rfl _)) counted)
  next protocolindex connection before =>
    obtain ⟨unplaced, counted⟩ := offer.before before rfl
    exact balanced.turn rfl rfl rfl rfl rfl (fun _ _ => placed_send_le system _ rfl _)
      (.of_unplaced (now ..) rfl (unplaced.mono (placed_send_le system _ rfl _)) counted)
  next connection before =>
    obtain ⟨unplaced, counted⟩ := offer.before before rfl
    refine balanced.turn rfl rfl rfl rfl rfl ?_ (.of_once (now ..) rfl ?_ ?_)
    · intro other elsewhere
      exact placed_send_le system _ (offered_others elsewhere) _
    · refine unplaced.put connection ?_ ?_
      · have sent := placed_send_same_le system (offers client) connection (mode.offer client)
        rw [show (mode.offer client).countP (offers client) = 1 by
          cases mode <;> simp [HandoffMode.offer, offers]] at sent
        exact sent
      · intro other elsewhere
        exact Nat.le_of_eq (placed_send_other system _ elsewhere _)
    · intro _
      exact counted.mpr rfl
  next connection before =>
    split
    · obtain ⟨unplaced, counted⟩ := offer.before before rfl
      exact balanced.turn rfl rfl rfl rfl rfl (fun _ _ _ => Nat.le_refl _)
        (.of_unplaced (now ..) rfl unplaced counted)
    · exact balanced
  next connection before =>
    obtain ⟨once, counted⟩ := offer.after before rfl
    split
    · exact balanced
    · split
      · exact balanced.turn rfl rfl rfl rfl rfl (fun _ _ _ => Nat.le_refl _)
          (.of_once (now ..) rfl once counted)
      · exact balanced.turn rfl rfl rfl rfl rfl (fun _ _ _ => Nat.le_refl _)
          (.of_once (now ..) rfl once counted)
  next named connection before =>
    obtain ⟨once, counted⟩ := offer.after before rfl
    obtain ⟨gone, unstarted⟩ := lost named connection rfl before
    have unused := List.count_eq_zero.mpr unstarted
    have nowhere : system.placed (offers client) connection = 0 := by
      rw [placed, List.countP_eq_zero]
      intro message present
      rw [gone message present]
      exact Bool.false_ne_true
    refine balanced.turn rfl rfl rfl rfl rfl (fun _ _ _ => Nat.le_refl _)
      (.of_unplaced (now ..) rfl (once.unplaced nowhere unused) ?_)
    exact ⟨fun _ => rfl, fun _ => counted unused⟩
  next closed connection before =>
    obtain ⟨once, counted⟩ := offer.after before rfl
    have words (kind : Message → Bool) (word : kind (.word endSession) = false) :
        (if closed then [Message.word endSession] else []).countP kind = 0 := by
      split <;> simp [word]
    exact balanced.turn rfl rfl rfl rfl rfl (fun _ _ => placed_send_le system _ (words _ rfl) _)
      (.of_once (now ..) rfl (once.mono (placed_send_le system _ (words _ rfl) _)) counted)
  next => exact balanced

/-- A step in which nothing goes wrong keeps the count right. -/
theorem balanced_step (system : System) (event : Event) (balanced : Balanced system)
    (handsOver : HandsOver system event) : Balanced (system.step mode event) := by
  cases event with
  | arrive client => exact balanced_child balanced _ (by simp)
  | getAConnection client connection => exact balanced_child balanced _ (by simp)
  | refuse client => exact balanced_child balanced _ (by simp)
  | writeMode client => exact balanced_child balanced _ (by simp)
  | writeProtocol client protocolindex => exact balanced_child balanced _ (by simp)
  | offer client => exact balanced_child balanced _ (by simp)
  | passSocketFails client => exact balanced_child balanced _ (by simp)
  | readAck client => exact balanced_child balanced _ (by simp)
  | relayEnds client closed => exact balanced_child balanced _ (by simp)
  | ackFails client =>
      exact balanced_child balanced (.ackFails client) (fun _ connection _ => handsOver connection)
  | read id garbage =>
      refine balanced_outcome balanced (connectionStep_outcome id (.read id garbage)) ?_ ?_
      · intro failed _
        apply handsOver.1
        simpa using failed
      · intro _
        exact handsOver.2
  | readFails id =>
      refine balanced_outcome balanced (connectionStep_outcome id (.readFails id)) ?_ (by simp)
      intro _
      exact handsOver
  | waitForClient id | suspend id | resume id | resumeFails id | endSession id | exit id =>
      exact balanced_outcome balanced (connectionStep_outcome id _) (by simp) (by simp)

/-- In every run in which nothing goes wrong in a handoff while clients are counted, the count is
conserved. -/
theorem conserved_of_handsOver (mode : HandoffMode) (events : List Event)
    (handsOver : Along (step mode) HandsOver start events) :
    Conserved (events.foldl (step mode) start) := by
  intro _
  exact (Along.invariant balanced_step balanced_start handsOver).count

/-- A child hands its client to a connection, which takes it. -/
def handoff (client connection : Nat) : List Event :=
  [.getAConnection client connection, .writeMode client, .writeProtocol client 0, .offer client,
    .waitForClient connection, .read connection 0, .read connection 0, .read connection 0,
    .readAck client]

/-- A connection times out while no client is there; then a client has a session, suspends it and
resumes it, while another one is refused. -/
def suspendAndResume : List Event :=
  [.waitForClient 0, .readFails 0, .arrive 1, .arrive 2, .refuse 2] ++ handoff 1 0 ++
    [.suspend 0, .resume 0, .endSession 0]

theorem conserved_suspendAndResume :
    Conserved (suspendAndResume.foldl (step .pass) start) := by
  apply conserved_of_handsOver
  simp [suspendAndResume, handoff, HandsOver, step, listenerStep, connectionStep, start, send,
    setListener, setConnection, setSocket, setAcks, incrementConnectedClientCount,
    decrementConnectedClientCount, closeClient, waitFailed, sessionEnds, startSession, readNext,
    word, lostInRead, refusesToRead, HandoffMode.offer, HandoffMode.command, endSession,
    handoffReconnect]

/-- A child has got hold of a connection, which times out before it is written to; the child gives
up on it and hands its client to another one. -/
def timeoutBeforeHandoff : List Event :=
  [.arrive 1, .getAConnection 1 0, .waitForClient 0, .readFails 0, .writeMode 1,
    .writeProtocol 1 0, .passSocketFails 1] ++ handoff 1 2

theorem not_conserved : ¬ ∀ (mode : HandoffMode) (events : List Event),
    Conserved (events.foldl (step mode) start) := by
  intro conserved
  have settled : ∀ client, ((timeoutBeforeHandoff.foldl (step .pass) start).listeners
      client).handingOff = false := by
    intro client
    by_cases same : client = 1
    · subst same
      decide
    · rw [listeners_run]
      · rfl
      · simp [timeoutBeforeHandoff, handoff, child, Ne.symm same]
  exact absurd (conserved .pass timeoutBeforeHandoff settled) (by decide)

end System

end SqlRelay.Handoff
