import Mathlib.Logic.Function.Basic

/-!
# Announcing a connection

A connection that has nothing to do announces itself: it writes its connection id and its process
id to the shared memory, signals a listener to read them and waits until it has.  Semaphore 0
keeps the connections apart and semaphore 1 the listeners; 2 and 3 pass the turn between the two.
The fields of the shared memory are known here by the announcement that wrote them.
-/

namespace SqlRelay.Handoff.Announcing

/-- One announcement: the connection that makes it, and a number that no other one has. -/
structure Announcement where
  connection : Nat
  number : Nat
  deriving DecidableEq, Repr

/-- How far `getAListener` of a connection is.  `serving`: it has succeeded, and the connection
waits for a client. -/
inductive Connection where
  | away
  | acquired
  | reset2
  | reset3
  | idWritten (announcement : Announcement)
  | pidWritten (announcement : Announcement)
  | signalled (announcement : Announcement)
  | finished (announcement : Announcement)
  | timedOut
  | serving (announcement : Announcement)
  | gone
  deriving DecidableEq, Repr

/-- How far `getAConnection` of a listener is.  `testing`: it has released semaphore 1, and not
yet tested whether the connection is up. -/
inductive Listener where
  | away
  | acquired
  | accepted
  | pidRead (announcement : Announcement)
  | done (announcement : Announcement)
  | testing (announcement : Announcement)
  deriving DecidableEq, Repr

/-- The semaphores, the shared memory, and the connections and listeners. -/
structure System where
  connections : Nat → Connection
  listeners : Nat → Listener
  sem0 : Nat
  sem1 : Nat
  sem2 : Nat
  sem3 : Nat
  connectionid : Option Announcement
  connectionpid : Option Announcement
  /-- The announcements whose pid was read, the latest first. -/
  taken : List Announcement
  /-- The number of the next announcement. -/
  next : Nat

/-- A step of one connection or of one listener. -/
inductive Event where
  | acquireShmAccess (connection : Nat)
  | acquireTimesOut (connection : Nat)
  /-- `resetSemaphores` -/
  | resetSemaphore2 (connection : Nat)
  | resetSemaphore3 (connection : Nat)
  | writeConnectionId (connection : Nat)
  | writePid (connection : Nat)
  | signalListenerToRead (connection : Nat)
  /-- `waitForListenerToFinishReading` -/
  | listenerFinished (connection : Nat)
  /-- The ttl is reached instead. -/
  | timesOut (connection : Nat)
  | releaseShmAccess (connection : Nat)
  /-- The connection has had a client, or has waited for one in vain. -/
  | stopServing (connection : Nat)
  | listenerAcquires (listener : Nat)
  | acceptAvailableConnection (listener : Nat)
  /-- The listener's timeout is reached instead, or all databases are down. -/
  | acceptFails (listener : Nat)
  | readPid (listener : Nat)
  | doneAcceptingAvailableConnection (listener : Nat)
  | listenerReleases (listener : Nat)
  /-- `connectionIsUp(pvt->_shm->connectionid)` -/
  | testConnection (listener : Nat)
  deriving DecidableEq, Repr

namespace System

def start : System where
  connections := fun _ => .away
  listeners := fun _ => .away
  sem0 := 1
  sem1 := 1
  sem2 := 0
  sem3 := 0
  connectionid := none
  connectionpid := none
  taken := []
  next := 0

def setConnection (system : System) (id : Nat) (connection : Connection) : System :=
  { system with connections := Function.update system.connections id connection }

def setListener (system : System) (id : Nat) (listener : Listener) : System :=
  { system with listeners := Function.update system.listeners id listener }

/-- A step of a connection. -/
def connectionStep (system : System) (id : Nat) (event : Event) : System :=
  match event, system.connections id with
  | .acquireShmAccess _, .away =>
      if system.sem0 = 0 then system
      else { system with sem0 := system.sem0 - 1 }.setConnection id .acquired
  | .acquireTimesOut _, .away => system.setConnection id .gone
  | .resetSemaphore2 _, .acquired => { system with sem2 := 0 }.setConnection id .reset2
  | .resetSemaphore3 _, .reset2 => { system with sem3 := 0 }.setConnection id .reset3
  | .writeConnectionId _, .reset3 =>
      let announcement := ⟨id, system.next⟩
      { system with
        connectionid := some announcement
        next := system.next + 1 }.setConnection id (.idWritten announcement)
  | .writePid _, .idWritten announcement =>
      { system with connectionpid := some announcement }.setConnection id
        (.pidWritten announcement)
  | .signalListenerToRead _, .pidWritten announcement =>
      { system with sem2 := system.sem2 + 1 }.setConnection id (.signalled announcement)
  | .listenerFinished _, .signalled announcement =>
      if system.sem3 = 0 then system
      else { system with sem3 := system.sem3 - 1 }.setConnection id (.finished announcement)
  | .timesOut _, .signalled _ => system.setConnection id .timedOut
  | .releaseShmAccess _, .finished announcement =>
      { system with sem0 := system.sem0 + 1 }.setConnection id (.serving announcement)
  | .releaseShmAccess _, .timedOut =>
      { system with sem0 := system.sem0 + 1 }.setConnection id .gone
  | .stopServing _, .serving _ => system.setConnection id .away
  | _, _ => system

/-- A step of a listener. -/
def listenerStep (system : System) (id : Nat) (event : Event) : System :=
  match event, system.listeners id with
  | .listenerAcquires _, .away =>
      if system.sem1 = 0 then system
      else { system with sem1 := system.sem1 - 1 }.setListener id .acquired
  | .acceptAvailableConnection _, .acquired =>
      if system.sem2 = 0 then system
      else { system with sem2 := system.sem2 - 1 }.setListener id .accepted
  | .acceptFails _, .acquired => { system with sem1 := system.sem1 + 1 }.setListener id .away
  | .readPid _, .accepted =>
      match system.connectionpid with
      | none => system
      | some announcement =>
          { system with taken := announcement :: system.taken }.setListener id
            (.pidRead announcement)
  | .doneAcceptingAvailableConnection _, .pidRead announcement =>
      { system with sem3 := system.sem3 + 1 }.setListener id (.done announcement)
  | .listenerReleases _, .done announcement =>
      { system with sem1 := system.sem1 + 1 }.setListener id (.testing announcement)
  | .testConnection _, .testing _ => system.setListener id .away
  | _, _ => system

/-- A step of the system; an event that its party is not ready for does nothing. -/
def step (system : System) (event : Event) : System :=
  match event with
  | .acquireShmAccess id | .acquireTimesOut id | .resetSemaphore2 id | .resetSemaphore3 id
  | .writeConnectionId id | .writePid id | .signalListenerToRead id | .listenerFinished id
  | .timesOut id | .releaseShmAccess id | .stopServing id => system.connectionStep id event
  | .listenerAcquires id | .acceptAvailableConnection id | .acceptFails id | .readPid id
  | .doneAcceptingAvailableConnection id | .listenerReleases id | .testConnection id =>
      system.listenerStep id event

end System

end SqlRelay.Handoff.Announcing
