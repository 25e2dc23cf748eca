import Mathlib.Logic.Function.Basic

/-!
# Handing clients to connections

The listener serves each client in a child of its own, which gets hold of a connection and sends
it, over the handoff socket of the connection, the handoff mode, the protocol and then either the
client's descriptor or its own process id.  It waits for a byte of acknowledgement, and starts
over with another connection when anything of this fails.  The connection reads what it is sent
with a timeout of its own for each part.  All children that have the same connection share its
socket.  A shutdown of the whole server is left out.
-/

namespace SqlRelay.Handoff

/-- `_handoffmode` -/
inductive HandoffMode where
  | pass
  | proxy
  deriving DecidableEq, Repr

/-- `HANDOFF_PASS` and `HANDOFF_PROXY` -/
def HandoffMode.command : HandoffMode → Nat
  | .pass => 0
  | .proxy => 2

/-- `HANDOFF_RECONNECT` -/
def handoffReconnect : Nat := 1

/-- `END_SESSION` -/
def endSession : Nat := 6

/-- What a connection has in its handoff socket: words of two bytes, among them the halves of a
process id, and descriptors. -/
inductive Message where
  | word (value : Nat)
  | pidFirst (client : Nat)
  | pidRest (client : Nat)
  | descriptor (client : Nat)
  deriving DecidableEq, Repr

/-- What the child sends for its client: the descriptor, or its own process id. -/
def HandoffMode.offer (mode : HandoffMode) (client : Nat) : List Message :=
  match mode with
  | .pass => [.descriptor client]
  | .proxy => [.pidFirst client, .pidRest client]

/-- How far `handOffOrProxyClient` is with a client. -/
inductive Listener where
  | absent
  | seeking
  | chosen (connection : Nat)
  | modeWritten (connection : Nat)
  | protocolWritten (connection : Nat)
  | awaiting (connection : Nat)
  | relaying (connection : Nat)
  | handedOff (connection : Nat)
  | refused
  deriving DecidableEq, Repr

/-- How far `listen` of a connection is.  `away`: it is announcing itself or logging in. -/
inductive Connection where
  | away
  | command
  | protocol (mode : HandoffMode)
  | offer (mode : HandoffMode)
  | session (mode : HandoffMode) (client : Option Nat)
  | suspended (mode : HandoffMode) (client : Option Nat)
  | gone
  deriving DecidableEq, Repr

/-- The listener's children and the connections, with dynamic scaling on. -/
structure System where
  listeners : Nat → Listener
  connections : Nat → Connection
  /-- What each connection has still to read. -/
  sockets : Nat → List Message
  /-- The acknowledgements of each connection that no child has read. -/
  acks : Nat → Nat
  connectedclients : Nat
  /-- The clients whose descriptor a connection has started a session on, or that a child has
  started to relay. -/
  served : List Nat
  /-- The clients that a connection has started a session for. -/
  started : List Nat
  /-- The clients that were accepted and whose session has not ended. -/
  openClients : List Nat

/-- What happens next, and where. -/
inductive Event where
  /-- The listener accepts a client. -/
  | arrive (client : Nat)
  /-- `getAConnection` and `findMatchingSocket` -/
  | getAConnection (client connection : Nat)
  /-- `getAConnection` fails for good. -/
  | refuse (client : Nat)
  | writeMode (client : Nat)
  | writeProtocol (client protocolindex : Nat)
  /-- The descriptor, or the process id of the child. -/
  | offer (client : Nat)
  | passSocketFails (client : Nat)
  | readAck (client : Nat)
  /-- No acknowledgement in time, or a bad one. -/
  | ackFails (client : Nat)
  /-- `proxyClient` is done; it sends an `END_SESSION` when it was the client that has closed. -/
  | relayEnds (client : Nat) (closed : Bool)
  /-- `getAListener` has succeeded. -/
  | waitForClient (connection : Nat)
  /-- The connection reads on; `garbage` is what it makes of two bytes that are none of its own. -/
  | read (connection garbage : Nat)
  /-- A read times out or fails. -/
  | readFails (connection : Nat)
  | suspend (connection : Nat)
  | resume (connection : Nat)
  /-- No client has come to resume the session in time. -/
  | resumeFails (connection : Nat)
  | endSession (connection : Nat)
  /-- `listen` returns; the handoff socket is closed. -/
  | exit (connection : Nat)
  deriving DecidableEq, Repr

namespace System

def start : System where
  listeners := fun _ => .absent
  connections := fun _ => .away
  sockets := fun _ => []
  acks := fun _ => 0
  connectedclients := 0
  served := []
  started := []
  openClients := []

def setListener (system : System) (client : Nat) (listener : Listener) : System :=
  { system with listeners := Function.update system.listeners client listener }

def setConnection (system : System) (id : Nat) (connection : Connection) : System :=
  { system with connections := Function.update system.connections id connection }

/-- What is left to read. -/
def setSocket (system : System) (id : Nat) (messages : List Message) : System :=
  { system with sockets := Function.update system.sockets id messages }

def setAcks (system : System) (id acks : Nat) : System :=
  { system with acks := Function.update system.acks id acks }

/-- A write to the handoff socket; the connection may have closed it. -/
def send (system : System) (id : Nat) (messages : List Message) : System :=
  let sent := if system.connections id = .gone then [] else messages
  system.setSocket id (system.sockets id ++ sent)

/-- `incrementConnectedClientCount` -/
def incrementConnectedClientCount (system : System) : System :=
  { system with connectedclients := system.connectedclients + 1 }

/-- `decrementConnectedClientCount` -/
def decrementConnectedClientCount (system : System) : System :=
  let connectedclients := system.connectedclients
  { system with
    connectedclients := if connectedclients = 0 then 0 else connectedclients - 1 }

/-- The client is gone, or its session has ended. -/
def closeClient (system : System) (client : Option Nat) : System :=
  { system with openClients := client.elim system.openClients system.openClients.erase }

/-- What `waitForClient` makes of two bytes. -/
def word (garbage : Nat) : Message → Nat
  | .word value => value
  | _ => garbage

/-- `waitForClient` returns -1: `listen` starts over, and counts a client less. -/
def waitFailed (system : System) (id : Nat) : System :=
  (system.setConnection id .away).decrementConnectedClientCount

/-- The connection acknowledges the handoff and has a session. -/
def startSession (system : System) (id : Nat) (mode : HandoffMode) (client : Option Nat) :
    System :=
  let acked := system.setAcks id (system.acks id + 1)
  let started := { acked with started := client.toList ++ acked.started }
  started.setConnection id (.session mode client)

/-- A session ends: `listen` starts over, and counts a client less. -/
def sessionEnds (system : System) (id : Nat) (client : Option Nat) : System :=
  ((system.setConnection id .away).closeClient client).decrementConnectedClientCount

/-- `waitForClient`, when there is something to read. -/
def readNext (system : System) (id garbage : Nat) : System :=
  match system.connections id, system.sockets id with
  | .command, message :: rest =>
      let next := system.setSocket id rest
      let command := word garbage message
      -- the listener sends one when a relayed client is gone, and the client may have, too
      if command = endSession ∨ command = 1536 then next
      else if command = handoffReconnect then next.setConnection id .away
      else if command = HandoffMode.pass.command then next.setConnection id (.protocol .pass)
      else if command = HandoffMode.proxy.command then next.setConnection id (.protocol .proxy)
      else next.waitFailed id
  | .protocol mode, _ :: rest => (system.setSocket id rest).setConnection id (.offer mode)
  | .offer .pass, .descriptor client :: rest =>
      let taken := { system with served := client :: system.served }
      (taken.setSocket id rest).startSession id .pass (some client)
  | .offer .pass, _ :: rest => (system.setSocket id rest).waitFailed id
  | .offer .proxy, .pidFirst first :: .pidRest last :: rest =>
      (system.setSocket id rest).startSession id .proxy (if first = last then some last else none)
  | .offer .proxy, _ :: _ :: rest => (system.setSocket id rest).startSession id .proxy none
  -- the data of a relayed session come in over the handoff socket, too
  | .session .proxy _, _ :: rest => system.setSocket id rest
  | _, _ => system

/-- A part of a process id that has been read is lost when the rest does not come in time. -/
def lostInRead (connection : Connection) (messages : List Message) : List Message :=
  if connection = .offer .proxy ∧ messages.length = 1 then [] else messages

/-- What the child of a client does. -/
def listenerStep (mode : HandoffMode) (system : System) (client : Nat) (event : Event) : System :=
  match event, system.listeners client with
  | .arrive _, .absent =>
      let counted := system.incrementConnectedClientCount
      { counted with openClients := client :: counted.openClients }.setListener client .seeking
  | .getAConnection _ connection, .seeking => system.setListener client (.chosen connection)
  | .refuse _, .seeking =>
      ((system.setListener client .refused).closeClient
        (some client)).decrementConnectedClientCount
  | .writeMode _, .chosen connection =>
      (system.send connection [.word mode.command]).setListener client (.modeWritten connection)
  | .writeProtocol _ protocolindex, .modeWritten connection =>
      (system.send connection [.word protocolindex]).setListener client
        (.protocolWritten connection)
  | .offer _, .protocolWritten connection =>
      (system.send connection (mode.offer client)).setListener client (.awaiting connection)
  | .passSocketFails _, .protocolWritten _ =>
      if mode = .pass then system.setListener client .seeking else system
  | .readAck _, .awaiting connection =>
      if system.acks connection = 0 then system
      else
        let read := system.setAcks connection (system.acks connection - 1)
        match mode with
        | .pass => read.setListener client (.handedOff connection)
        | .proxy =>
            { read with served := client :: read.served }.setListener client
              (.relaying connection)
  | .ackFails _, .awaiting _ => system.setListener client .seeking
  | .relayEnds _ closed, .relaying connection =>
      (system.send connection (if closed then [.word endSession] else [])).setListener client
        (.handedOff connection)
  | _, _ => system

/-- What a connection does. -/
def connectionStep (system : System) (id : Nat) (event : Event) : System :=
  match event, system.connections id with
  | .waitForClient _, .away => system.setConnection id .command
  | .read _ garbage, _ => system.readNext id garbage
  | .readFails _, .command | .readFails _, .protocol _ | .readFails _, .offer _ =>
      (system.setSocket id (lostInRead (system.connections id) (system.sockets id))).waitFailed id
  | .suspend _, .session mode client => system.setConnection id (.suspended mode client)
  | .resume _, .suspended mode client => system.setConnection id (.session mode client)
  | .resumeFails _, .suspended _ client => system.sessionEnds id client
  | .endSession _, .session _ client => system.sessionEnds id client
  | .exit _, .away => (system.setSocket id []).setConnection id .gone
  | _, _ => system

/-- A step of the listener's children and of the connections; an event that its party is not
ready for does nothing. -/
def step (mode : HandoffMode) (system : System) (event : Event) : System :=
  match event with
  | .arrive client | .getAConnection client _ | .refuse client | .writeMode client
  | .writeProtocol client _ | .offer client | .passSocketFails client | .readAck client
  | .ackFails client | .relayEnds client _ => system.listenerStep mode client event
  | .waitForClient id | .read id _ | .readFails id | .suspend id | .resume id | .resumeFails id
  | .endSession id | .exit id => system.connectionStep id event

end System

end SqlRelay.Handoff
