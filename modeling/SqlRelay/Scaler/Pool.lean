import Mathlib.Data.List.Basic

/-!
# The scaler and the connection processes

With dynamic scaling on, the scaler starts connection processes when the queue of clients is long,
or when there are fewer than the configured minimum.  It counts the ones that it starts itself, in
and out, while those that were started before it count themselves.  All of them share one counter.
-/

namespace SqlRelay.Scaler

/-- The configuration, as `initScaler` gets it: the minimum is never above the maximum. -/
structure Config where
  minconnections : Nat
  maxconnections : Nat
  maxqueuelength : Nat
  growby : Nat
  ordered : minconnections ≤ maxconnections

/-- A connection process. -/
inductive Process where
  /-- Started by somebody else, and not counted yet. -/
  | launched
  /-- Started by somebody else, it has counted itself in. -/
  | registered
  /-- It has counted itself out, in `shutDown`, and is still logging out. -/
  | closing
  /-- It has terminated without counting itself out. -/
  | lost
  /-- Started by the scaler, which has not counted it yet. -/
  | spawned
  | counted
  /-- A child of the scaler that has terminated and that the scaler has not waited for. -/
  | unreaped (counted : Bool)
  | gone
  deriving DecidableEq, Repr

namespace Process

def alive : Process → Bool
  | .launched => true
  | .registered => true
  | .closing => true
  | .spawned => true
  | .counted => true
  | _ => false

/-- Counted in, and neither counted out nor known to have terminated. -/
def countedIn : Process → Bool
  | .registered => true
  | .counted => true
  | .unreaped tallied => tallied
  | _ => false

/-- What becomes of the process when it terminates. -/
def terminate : Process → Process
  | .launched => .gone
  | .registered => .lost
  | .closing => .gone
  | .spawned => .unreaped false
  | .counted => .unreaped true
  | process => process

/-- What becomes of a child when the scaler counts it in. -/
def countIn : Process → Process
  | .spawned => .counted
  | .unreaped _ => .unreaped true
  | process => process

end Process

/-- How far `openMoreConnections` is: it has `others` connections to open after the one that it is at,
and has failed to start that one `attempts` times. -/
inductive Control where
  /-- It waits, or reaps children. -/
  | idle
  /-- In the loop, before `openOneConnection`. -/
  | opening (others attempts : Nat)
  /-- `openOneConnection` has returned the process. -/
  | spawned (pid others attempts : Nat)
  /-- In `connectionStarted`. -/
  | starting (pid others attempts : Nat)
  /-- In `killConnection`, for the `tries`-th time. -/
  | killing (pid others attempts tries : Nat)
  | stopped
  deriving DecidableEq, Repr

/-- `DEFAULT_CONNECTION_START_ATTEMPTS` -/
def startAttempts : Nat := 5

/-- `connpid` is 0 again.  After too many attempts no more connections are opened. -/
def retry (others attempts : Nat) : Control :=
  if attempts + 1 = startAttempts then .idle else .opening others (attempts + 1)

/-- A connection was started; the next one is to be opened. -/
def next : Nat → Control
  | 0 => .idle
  | others + 1 => .opening others 0

structure System where
  /-- The processes, each at its process id. -/
  processes : List Process
  totalconnections : Nat
  connectedclients : Nat
  control : Control

/-- What happens next. -/
inductive Event where
  /-- Clients arrive or leave. -/
  | clients (connectedclients : Nat)
  /-- Somebody else starts a connection process. -/
  | launch
  /-- The process counts itself in, when it has logged in to the database. -/
  | register (pid : Nat)
  /-- The process counts itself out, when it shuts down. -/
  | close (pid : Nat)
  /-- The process exits, or is killed. -/
  | terminate (pid : Nat)
  /-- `reapChildren(-1)` waits for a child that has terminated. -/
  | reap (pid : Nat)
  /-- `reapChildren` is told that a child was stopped or continued. -/
  | stateChange (pid : Nat)
  /-- `openMoreConnections`, once it has reaped children. -/
  | openMoreConnections
  /-- `availableDatabase` says no. -/
  | unavailable
  | openOneConnection
  /-- `spawn` fails. -/
  | spawnFails
  | incrementConnectionCount
  /-- `connectionStarted` returns true. -/
  | started
  /-- `connectionStarted` times out. -/
  | startFails
  /-- A try of `killConnection`. -/
  | kill
  /-- The shut-down flag is set. -/
  | shutDown
  deriving DecidableEq, Repr

/-- The value of a `uint32_t`. -/
def uint32 (value : Nat) : Nat := value % 4294967296

/-- The number of connections that `openMoreConnections` is going to open. -/
def openCount (config : Config) (connectedclients currentconnections : Nat) : Nat :=
  let belowmin := currentconnections < config.minconnections
  if ¬belowmin ∧ (connectedclients < currentconnections ∨
      connectedclients - currentconnections ≤ config.maxqueuelength) then 0
  else if config.maxconnections < uint32 (currentconnections + config.growby) then
    if belowmin then config.maxconnections - currentconnections else 0
  else config.growby

namespace System

def start : System := ⟨[], 0, 0, .idle⟩

def set (system : System) (pid : Nat) (process : Process) : System :=
  { system with processes := system.processes.set pid process }

def increment (system : System) : System :=
  { system with totalconnections := system.totalconnections + 1 }

/-- `decrementConnectionCount`, of the scaler and of the controller alike. -/
def decrementConnectionCount (system : System) : System :=
  let totalconnections := system.totalconnections
  { system with
    totalconnections := if totalconnections = 0 then 0 else totalconnections - 1 }

def goTo (system : System) (control : Control) : System := { system with control := control }

/-- `reapChildren`, for a child that has terminated: wait for it, and count it out. -/
def reap (system : System) (pid : Nat) : System :=
  (system.set pid .gone).decrementConnectionCount

/-- A try of `killConnection`: is the process dead?  The third try is the last one. -/
def kill (system : System) (pid others attempts tries : Nat) : System :=
  match system.processes[pid]? with
  | some (.unreaped _) => (system.reap pid).goTo (retry others attempts)
  | _ =>
      if tries + 1 = 3 then system.goTo (retry others attempts)
      else system.goTo (.killing pid others attempts (tries + 1))

def step (config : Config) (system : System) : Event → System
  | .clients connectedclients => { system with connectedclients := connectedclients }
  | .launch => { system with processes := system.processes ++ [.launched] }
  | .register pid =>
      match system.processes[pid]? with
      | some .launched => (system.set pid .registered).increment
      | _ => system
  | .close pid =>
      match system.processes[pid]? with
      | some .registered => (system.set pid .closing).decrementConnectionCount
      | _ => system
  | .terminate pid =>
      match system.processes[pid]? with
      | some process => system.set pid process.terminate
      | none => system
  | .reap pid =>
      match system.control, system.processes[pid]? with
      | .idle, some (.unreaped _) => system.reap pid
      | .stopped, some (.unreaped _) => system.reap pid
      | _, _ => system
  | .stateChange pid =>
      match system.control, system.processes[pid]? with
      | .idle, some .counted => system.decrementConnectionCount
      | .stopped, some .counted => system.decrementConnectionCount
      -- `reapChildren` returns true, so the child is taken for dead
      | .killing child others attempts _, some .counted =>
          if pid = child then system.decrementConnectionCount.goTo (retry others attempts)
          else system
      | _, _ => system
  | .openMoreConnections =>
      match system.control with
      | .idle =>
          system.goTo (next (openCount config system.connectedclients system.totalconnections))
      | _ => system
  | .unavailable =>
      match system.control with
      | .opening others attempts => system.goTo (retry others attempts)
      | _ => system
  | .openOneConnection =>
      match system.control with
      | .opening others attempts =>
          { system with
            processes := system.processes ++ [.spawned]
            control := .spawned system.processes.length others attempts }
      | _ => system
  | .spawnFails => system
  | .incrementConnectionCount =>
      match system.control with
      | .spawned pid others attempts =>
          match system.processes[pid]? with
          | some process =>
              ((system.set pid process.countIn).increment).goTo (.starting pid others attempts)
          | none => system
      | _ => system
  | .started =>
      match system.control with
      | .starting _ others _ => system.goTo (next others)
      | _ => system
  | .startFails =>
      match system.control with
      | .starting pid others attempts => system.goTo (.killing pid others attempts 0)
      | _ => system
  | .kill =>
      match system.control with
      | .killing pid others attempts tries => system.kill pid others attempts tries
      | _ => system
  | .shutDown =>
      match system.control with
      | .idle => system.goTo .stopped
      | .opening _ _ => system.goTo .stopped
      | _ => system

/-- The number of connection processes that live. -/
def live (system : System) : Nat := system.processes.countP Process.alive

/-- The number of connection processes that were counted in and have not terminated, as far as those
who count them out can tell. -/
def countedIn (system : System) : Nat := system.processes.countP Process.countedIn

/-- No more processes than allowed, and the counter counts the ones that were counted in. -/
structure Bounded (config : Config) (system : System) : Prop where
  live_le : system.live ≤ config.maxconnections
  total_eq : system.totalconnections = system.countedIn

instance (config : Config) (system : System) : Decidable (Bounded config system) :=
  decidable_of_iff (system.live ≤ config.maxconnections ∧
    system.totalconnections = system.countedIn)
    ⟨fun both => ⟨both.1, both.2⟩, fun bounded => ⟨bounded.live_le, bounded.total_eq⟩⟩

end System

end SqlRelay.Scaler
