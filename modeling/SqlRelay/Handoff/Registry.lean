import SqlRelay.Foundation.FirstFit
import SqlRelay.Foundation.Run

/-!
# The listener's list of handoff sockets

Each connection registers its handoff socket with the main listener under its process id, and does
so again after every client that it has served through a proxy.  A child that is forked for a client
has the list as it was then, and asks the main listener for what it does not find in it.
-/

namespace SqlRelay.Handoff

open SqlRelay.Foundation

/-- The id of a connection's process.  0 is none, it marks a free node. -/
structure ProcessId where
  value : UInt32
  notZero : value ≠ 0 := by decide
  deriving DecidableEq

/-- `handoffsocketnode`.  A socket is known by its number among those accepted. -/
structure HandoffSocketNode where
  pid : UInt32
  sock : Option Nat
  deriving DecidableEq, Repr

namespace HandoffSocketNode

def free : HandoffSocketNode := ⟨0, none⟩

/-- The process id that the node is taken by. -/
def takenBy (node : HandoffSocketNode) : Option UInt32 :=
  if node.pid = 0 then none else some node.pid

end HandoffSocketNode

namespace HandoffSocketList

variable (handoffsocklist : List HandoffSocketNode)

/-- The first free node, or the first one with the same process id, is taken; the list grows if
there is none. -/
def registerHandoff (processid : ProcessId) (sock : Nat) : List HandoffSocketNode :=
  FirstFit.place HandoffSocketNode.takenBy ⟨processid.value, some sock⟩ handoffsocklist

def deRegisterHandoff (processid : ProcessId) : List HandoffSocketNode :=
  FirstFit.release HandoffSocketNode.takenBy HandoffSocketNode.free processid.value handoffsocklist

/-- The node that the loops over the list find. -/
def node (processid : ProcessId) : Option HandoffSocketNode :=
  FirstFit.find HandoffSocketNode.takenBy processid.value handoffsocklist

/-- `fixup`: the socket that is passed. -/
def fixup (processid : ProcessId) : Option Nat :=
  (node handoffsocklist processid).bind HandoffSocketNode.sock

/-- `findMatchingSocket` in the list of a process; the main listener answers `requestFixup` out of
its own. -/
def findMatchingSocket (main : List HandoffSocketNode) (connectionpid : ProcessId) : Option Nat :=
  match node handoffsocklist connectionpid with
  | some found => found.sock
  | none => fixup main connectionpid

/-- A node that `findMatchingSocket` finds without a socket is invalidated. -/
def invalidated (connectionpid : ProcessId) : List HandoffSocketNode :=
  match node handoffsocklist connectionpid with
  | some ⟨_, none⟩ => deRegisterHandoff handoffsocklist connectionpid
  | _ => handoffsocklist

end HandoffSocketList

/-- A child of the listener has its own copy of the list.  The process ids that the main listener
has changed since are there for the statements only. -/
structure ForkedListener where
  handoffsocklist : List HandoffSocketNode
  changed : List ProcessId
  deriving DecidableEq

def ForkedListener.sees (processid : ProcessId) (child : ForkedListener) : ForkedListener :=
  { child with changed := processid :: child.changed }

/-- The main listener's list, its children, and how many handoff connections it has accepted. -/
structure Registry where
  handoffsocklist : List HandoffSocketNode
  children : List ForkedListener
  accepted : Nat
  deriving DecidableEq

/-- What happens next.  A process id that cannot be read is `none`. -/
inductive RegistryEvent where
  | registerHandoff (processid : Option ProcessId)
  | deRegisterHandoff (processid : Option ProcessId)
  | fixup (processid : Option ProcessId)
  | forkChild
  /-- By a forked child, or else by the listener itself or one of its threads. -/
  | findMatchingSocket (child : Option Nat) (connectionpid : ProcessId)
  deriving DecidableEq

namespace Registry

open HandoffSocketList

/-- `setHandoffMethod` -/
def start (maxconnections : Nat) : Registry :=
  ⟨List.replicate maxconnections HandoffSocketNode.free, [], 0⟩

def step (registry : Registry) : RegistryEvent → Registry
  | .registerHandoff none => { registry with accepted := registry.accepted + 1 }
  | .registerHandoff (some processid) =>
      { handoffsocklist :=
          HandoffSocketList.registerHandoff registry.handoffsocklist processid registry.accepted
        children := registry.children.map (ForkedListener.sees processid)
        accepted := registry.accepted + 1 }
  | .deRegisterHandoff none => registry
  | .deRegisterHandoff (some processid) =>
      { registry with
        handoffsocklist :=
          HandoffSocketList.deRegisterHandoff registry.handoffsocklist processid
        children := registry.children.map (ForkedListener.sees processid) }
  | .fixup _ => registry
  | .forkChild =>
      { registry with children := registry.children ++ [⟨registry.handoffsocklist, []⟩] }
  | .findMatchingSocket none connectionpid =>
      { registry with handoffsocklist := invalidated registry.handoffsocklist connectionpid }
  | .findMatchingSocket (some child) connectionpid =>
      { registry with
        children := registry.children.modify child fun child =>
          { child with handoffsocklist := invalidated child.handoffsocklist connectionpid } }

/-- The process id that a lookup is about, and the socket that it comes to. -/
def lookup (registry : Registry) : RegistryEvent → Option (ProcessId × Option Nat)
  | .fixup (some processid) =>
      some (processid, HandoffSocketList.fixup registry.handoffsocklist processid)
  | .findMatchingSocket none connectionpid =>
      some (connectionpid, HandoffSocketList.findMatchingSocket registry.handoffsocklist
        registry.handoffsocklist connectionpid)
  | .findMatchingSocket (some child) connectionpid =>
      registry.children[child]?.map fun child =>
        (connectionpid, HandoffSocketList.findMatchingSocket child.handoffsocklist
          registry.handoffsocklist connectionpid)
  | _ => none

end Registry

/-! ## What the list is for -/

/-- The listener, and the socket of the most recent registration of each process that has not been
deregistered since. -/
structure WatchedRegistry where
  registry : Registry
  registered : ProcessId → Option Nat

namespace WatchedRegistry

def start (maxconnections : Nat) : WatchedRegistry := ⟨.start maxconnections, fun _ => none⟩

def step (watched : WatchedRegistry) (event : RegistryEvent) : WatchedRegistry where
  registry := watched.registry.step event
  registered := fun processid =>
    match event with
    | .registerHandoff (some changed) =>
        if processid = changed then some watched.registry.accepted
        else watched.registered processid
    | .deRegisterHandoff (some changed) =>
        if processid = changed then none else watched.registered processid
    | _ => watched.registered processid

/-- No process id is in the list twice, the list has the registered socket of every process, and a
lookup comes to it. -/
structure Registers (watched : WatchedRegistry) (event : RegistryEvent) : Prop where
  once : (FirstFit.held HandoffSocketNode.takenBy
    (watched.step event).registry.handoffsocklist).Nodup
  kept : ∀ processid, HandoffSocketList.fixup (watched.step event).registry.handoffsocklist
    processid = (watched.step event).registered processid
  found : ∀ processid sock, watched.registry.lookup event = some (processid, sock) →
    sock = watched.registered processid

/-- A process registers only if it is not registered behind a free node, and a child only looks for
a process that is not in its copy of the list or has not been registered or deregistered since. -/
def Orderly (watched : WatchedRegistry) : RegistryEvent → Prop
  | .registerHandoff (some processid) =>
      processid.value ∉ FirstFit.heldBehindFree HandoffSocketNode.takenBy
        watched.registry.handoffsocklist
  | .findMatchingSocket (some child) connectionpid =>
      ∀ copy ∈ watched.registry.children[child]?,
        HandoffSocketList.node copy.handoffsocklist connectionpid = none ∨
          connectionpid ∉ copy.changed
  | _ => True

end WatchedRegistry

end SqlRelay.Handoff
