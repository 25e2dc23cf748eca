import SqlRelay.Foundation.Mutex
import SqlRelay.Foundation.Run
import SqlRelay.Handoff.Announcement

/-!
# Whose announcement a listener gets

Semaphores 2 and 3 are counters that outlive the announcement they are signalled for, and a
listener reads the connection id after it has let the next connection in.  While no announcement
ends in the middle of being read, and none is written before the one before it is tested, the
connections and the listeners meet in pairs.
-/

namespace SqlRelay.Handoff.Announcing

open SqlRelay.Foundation

/-- The connection has semaphore 0. -/
def Connection.holds : Connection → Bool
  | .away | .serving _ | .gone => false
  | _ => true

/-- The connection waits for a client, as it has announced. -/
def Connection.waitsFor (announcement : Announcement) (connection : Connection) : Prop :=
  connection = .signalled announcement ∨ connection = .finished announcement ∨
    connection = .serving announcement

/-- The listener has semaphore 1. -/
def Listener.holds : Listener → Bool
  | .acquired | .accepted | .pidRead _ | .done _ => true
  | .away | .testing _ => false

/-- The listener has accepted an announcement and not yet said that it is done. -/
def Listener.midway : Listener → Bool
  | .accepted | .pidRead _ => true
  | _ => false

/-- The listener is done with the announcement but has not tested it. -/
def Listener.untested (announcement : Announcement) (listener : Listener) : Prop :=
  listener = .done announcement ∨ listener = .testing announcement

namespace System

/-- The pid that a listener reads is that of an announcement that no other listener has read, of a
connection that still waits for a client, and the connection id that it tests is of the same
announcement. -/
def Meets (system : System) (event : Event) : Prop :=
  match event with
  | .readPid id =>
      system.listeners id = .accepted →
        ∃ announcement, system.connectionpid = some announcement ∧
          announcement ∉ system.taken ∧
          (system.connections announcement.connection).waitsFor announcement
  | .testConnection id =>
      ∀ announcement, system.listeners id = .testing announcement →
        system.connectionid = some announcement
  | _ => True

/-- A connection does not time out while a listener is in the middle of reading, no listener
accepts an announcement that has timed out, and no connection writes its id before the listener
that has read the announcement before has tested it. -/
def InTurn (system : System) (event : Event) : Prop :=
  match event with
  | .timesOut id =>
      (∃ announcement, system.connections id = .signalled announcement) →
        ∀ listener, (system.listeners listener).midway = false
  | .acceptAvailableConnection id =>
      system.listeners id = .acquired → system.sem2 ≠ 0 →
        ∃ connection announcement, system.connections connection = .signalled announcement
  | .writeConnectionId id =>
      system.connections id = .reset3 →
        ∀ listener announcement, ¬ (system.listeners listener).untested announcement
  | _ => True

/-- How far the announcement that has been signalled is read. -/
inductive Turn (system : System) (announcement : Announcement) : Prop where
  | announced (ready : system.sem2 = 1) (undone : system.sem3 = 0)
      (nobody : ∀ listener, (system.listeners listener).midway = false)
      (fresh : announcement ∉ system.taken)
  | accepted (listener : Nat) (unready : system.sem2 = 0) (undone : system.sem3 = 0)
      (accepted : system.listeners listener = .accepted) (fresh : announcement ∉ system.taken)
  | read (listener : Nat) (unready : system.sem2 = 0) (undone : system.sem3 = 0)
      (read : system.listeners listener = .pidRead announcement)
  | finished (unready : system.sem2 = 0) (done : system.sem3 = 1)
      (nobody : ∀ listener, (system.listeners listener).midway = false)

/-- What holds while a connection is on its way through an announcement. -/
def Phase (system : System) (id : Nat) : Connection → Prop
  | .reset2 => system.sem2 = 0
  | .reset3 => system.sem2 = 0 ∧ system.sem3 = 0
  | .idWritten announcement =>
      (system.sem2 = 0 ∧ system.sem3 = 0) ∧ announcement.connection = id ∧
        system.connectionid = some announcement ∧ announcement.number < system.next ∧
        announcement ∉ system.taken
  | .pidWritten announcement =>
      (system.sem2 = 0 ∧ system.sem3 = 0) ∧ announcement.connection = id ∧
        system.connectionid = some announcement ∧ announcement.number < system.next ∧
        announcement ∉ system.taken ∧ system.connectionpid = some announcement
  | .signalled announcement =>
      Turn system announcement ∧ announcement.connection = id ∧
        system.connectionid = some announcement ∧ announcement.number < system.next ∧
        system.connectionpid = some announcement
  | _ => True

/-- Connections and listeners meet in pairs. -/
structure Paired (system : System) : Prop where
  connections : Exclusive system.sem0 (Connection.holds ∘ system.connections)
  listeners : Exclusive system.sem1 (Listener.holds ∘ system.listeners)
  phase : ∀ id, Phase system id (system.connections id)
  midway : ∀ listener, (system.listeners listener).midway = true →
    ∃ id announcement, system.connections id = .signalled announcement
  tested : ∀ listener announcement, (system.listeners listener).untested announcement →
    system.connectionid = some announcement
  known : ∀ announcement ∈ system.taken, announcement.number < system.next

theorem Phase.of_outside {system : System} {id : Nat} {connection : Connection}
    (outside : connection.holds = false) : Phase system id connection := by
  cases connection <;> simp_all [Connection.holds, Phase]

variable {system : System}

@[simp] theorem connection_self (id : Nat) (connection : Connection) :
    (system.setConnection id connection).connections id = connection :=
  Function.update_self ..

theorem connection_other {id other : Nat} (connection : Connection) (elsewhere : other ≠ id) :
    (system.setConnection id connection).connections other = system.connections other :=
  Function.update_of_ne elsewhere ..

/-- A step that no listener in the middle of reading takes part in does not change the turn. -/
theorem Turn.congr {next : System} {announcement : Announcement} (turn : Turn system announcement)
    (sem2 : next.sem2 = system.sem2) (sem3 : next.sem3 = system.sem3)
    (taken : next.taken = system.taken)
    (midway : ∀ listener, (next.listeners listener).midway = (system.listeners listener).midway)
    (reading : ∀ listener, (system.listeners listener).midway = true →
      next.listeners listener = system.listeners listener) :
    Turn next announcement := by
  cases turn with
  | announced ready undone nobody fresh =>
      exact .announced (sem2.trans ready) (sem3.trans undone)
        (fun listener => (midway listener).trans (nobody listener)) (taken ▸ fresh)
  | accepted listener unready undone accepted fresh =>
      have same := reading listener (by rw [accepted]; rfl)
      exact .accepted listener (sem2.trans unready) (sem3.trans undone) (same.trans accepted)
        (taken ▸ fresh)
  | read listener unready undone read =>
      have same := reading listener (by rw [read]; rfl)
      exact .read listener (sem2.trans unready) (sem3.trans undone) (same.trans read)
  | finished unready done nobody =>
      exact .finished (sem2.trans unready) (sem3.trans done)
        (fun listener => (midway listener).trans (nobody listener))

theorem Phase.congr {next : System} {id : Nat} {connection : Connection}
    (phase : Phase system id connection) (sem2 : next.sem2 = system.sem2)
    (sem3 : next.sem3 = system.sem3) (written : next.connectionid = system.connectionid)
    (pid : next.connectionpid = system.connectionpid) (taken : next.taken = system.taken)
    (numbered : next.next = system.next)
    (turn : ∀ announcement, Turn system announcement → Turn next announcement) :
    Phase next id connection := by
  cases connection with
  | signalled announcement =>
      obtain ⟨before, rest⟩ := phase
      simp only [Phase, written, pid, numbered]
      exact ⟨turn announcement before, rest⟩
  | reset2 | reset3 | idWritten announcement | pidWritten announcement =>
      simp only [Phase, sem2, sem3, written, pid, taken, numbered]
      exact phase
  | away | acquired | finished announcement | timedOut | serving announcement | gone => trivial

theorem paired_start : Paired start where
  connections := .inl ⟨rfl, fun _ => rfl⟩
  listeners := .inl ⟨rfl, fun _ => rfl⟩
  phase := fun _ => trivial
  midway := by simp [start, Listener.midway]
  tested := by simp [start, Listener.untested]
  known := by simp [start]

namespace Paired

/-- A connection that has semaphore 0 is the only one. -/
theorem others_outside (paired : Paired system) {id : Nat}
    (held : (system.connections id).holds = true) (other : Nat) (elsewhere : other ≠ id) :
    (system.connections other).holds = false := by
  rw [Bool.eq_false_iff]
  intro alsoHeld
  exact elsewhere (paired.connections.unique alsoHeld held)

/-- A listener is in the middle of reading only while the connection inside has signalled it. -/
theorem nobody_midway (paired : Paired system)
    (silent : ∀ id announcement, system.connections id ≠ .signalled announcement)
    (listener : Nat) : (system.listeners listener).midway = false := by
  rw [Bool.eq_false_iff]
  intro reading
  obtain ⟨id, announcement, signalled⟩ := paired.midway listener reading
  exact silent id announcement signalled

/-- The connection that has semaphore 0 has not signalled, so none has. -/
theorem silent (paired : Paired system) {id : Nat} (held : (system.connections id).holds = true)
    (unsignalled : ∀ announcement, system.connections id ≠ .signalled announcement) (other : Nat)
    (announcement : Announcement) : system.connections other ≠ .signalled announcement := by
  intro signalled
  have same : other = id := paired.connections.unique (by simp [signalled, Connection.holds]) held
  exact unsignalled announcement (same ▸ signalled)

/-- A step of the connection inside, of one that enters or of one that leaves. -/
theorem move {next : System} {id : Nat} {now : Connection} (paired : Paired system)
    (others : ∀ other, other ≠ id → (system.connections other).holds = false)
    (moved : next.connections = Function.update system.connections id now)
    (exclusive : Exclusive next.sem0 (Connection.holds ∘ next.connections))
    (phase : Phase next id now) (listeners : next.listeners = system.listeners)
    (permits : next.sem1 = system.sem1)
    (nobody : (∀ listener, (system.listeners listener).midway = false) ∨
      ∃ announcement, now = .signalled announcement)
    (tested : next.connectionid = system.connectionid ∨
      ∀ listener announcement, ¬ (system.listeners listener).untested announcement)
    (taken : next.taken = system.taken) (later : system.next ≤ next.next) : Paired next where
  connections := exclusive
  listeners := by
    rw [permits, listeners]
    exact paired.listeners
  phase := by
    intro other
    rw [moved, Function.update_apply]
    split
    next here =>
      rw [here]
      exact phase
    next elsewhere => exact .of_outside (others other elsewhere)
  midway := by
    intro listener reading
    rw [listeners] at reading
    rcases nobody with nobody | ⟨announcement, signalled⟩
    · rw [nobody listener] at reading
      contradiction
    · refine ⟨id, announcement, ?_⟩
      rw [moved, Function.update_self, signalled]
  tested := by
    intro listener announcement untested
    rw [listeners] at untested
    rcases tested with same | all
    · rw [same]
      exact paired.tested listener announcement untested
    · exact absurd untested (all listener announcement)
  known := by
    intro announcement present
    rw [taken] at present
    exact Nat.lt_of_lt_of_le (paired.known announcement present) later

/-- A connection goes on with semaphore 0 in its hands. -/
theorem goesOn (paired : Paired system) {id : Nat} {before now : Connection}
    (state : system.connections id = before) (same : now.holds = before.holds) :
    Exclusive system.sem0
      (Connection.holds ∘ Function.update system.connections id now) := by
  rw [Function.comp_update]
  apply paired.connections.stay
  rw [same, Function.comp_apply, state]

theorem releases (paired : Paired system) {id : Nat} {now : Connection}
    (held : (system.connections id).holds = true) (gone : now.holds = false) :
    Exclusive (system.sem0 + 1)
      (Connection.holds ∘ Function.update system.connections id now) := by
  rw [Function.comp_update, gone]
  exact paired.connections.leave held

/-- A step of a connection that has nothing to do with the announcements. -/
theorem outside {id : Nat} {before now : Connection} (paired : Paired system)
    (state : system.connections id = before) (was : before.holds = false)
    (is : now.holds = false) : Paired (system.setConnection id now) where
  connections := paired.goesOn state (is.trans was.symm)
  listeners := paired.listeners
  phase := by
    intro other
    by_cases here : other = id
    · rw [here, connection_self]
      exact .of_outside is
    · rw [connection_other now here]
      refine (paired.phase other).congr rfl rfl rfl rfl rfl rfl ?_
      intro announcement turn
      exact turn.congr rfl rfl rfl (fun _ => rfl) (fun _ _ => rfl)
  midway := by
    intro listener reading
    obtain ⟨other, announcement, signalled⟩ := paired.midway listener reading
    refine ⟨other, announcement, ?_⟩
    have elsewhere : other ≠ id := by
      intro here
      rw [here, state] at signalled
      simp [signalled, Connection.holds] at was
    exact (Function.update_of_ne elsewhere ..).trans signalled
  tested := paired.tested
  known := paired.known

/-- A step of a connection keeps the pairs, if it is in turn. -/
theorem connectionStep {id : Nat} (paired : Paired system) (event : Event)
    (times : (∃ named, event = .timesOut named) →
      (∃ announcement, system.connections id = .signalled announcement) →
        ∀ listener, (system.listeners listener).midway = false)
    (writes : (∃ named, event = .writeConnectionId named) → system.connections id = .reset3 →
      ∀ listener announcement, ¬ (system.listeners listener).untested announcement) :
    Paired (system.connectionStep id event) := by
  have phase := paired.phase id
  unfold System.connectionStep
  split
  next state =>
    split
    · exact paired
    next free =>
      have outside := paired.connections.outside free
      refine paired.move (fun other _ => outside other) rfl ?_ trivial rfl rfl (.inl ?_)
        (.inl rfl) rfl (Nat.le_refl _)
      · have entered := paired.connections.enter free id
        rw [show true = Connection.acquired.holds from rfl, ← Function.comp_update] at entered
        exact entered
      · apply paired.nobody_midway
        intro other announcement signalled
        have away := outside other
        simp [signalled, Connection.holds] at away
  next state => exact paired.outside state rfl rfl
  next state =>
    have held : (system.connections id).holds = true := by rw [state]; rfl
    refine paired.move (paired.others_outside held) rfl (paired.goesOn state rfl) rfl rfl rfl
      (.inl (paired.nobody_midway (paired.silent held (by simp [state])))) (.inl rfl) rfl
      (Nat.le_refl _)
  next state =>
    rw [state] at phase
    have held : (system.connections id).holds = true := by rw [state]; rfl
    exact paired.move (paired.others_outside held) rfl (paired.goesOn state rfl) ⟨phase, rfl⟩ rfl
      rfl (.inl (paired.nobody_midway (paired.silent held (by simp [state])))) (.inl rfl) rfl
      (Nat.le_refl _)
  next state =>
    rw [state] at phase
    have held : (system.connections id).holds = true := by rw [state]; rfl
    refine paired.move (paired.others_outside held) rfl (paired.goesOn state rfl)
      ⟨phase, rfl, rfl, Nat.lt_succ_self _, ?_⟩ rfl rfl
      (.inl (paired.nobody_midway (paired.silent held (by simp [state]))))
      (.inr (writes ⟨_, rfl⟩ state)) rfl (Nat.le_succ _)
    intro present
    exact absurd (paired.known _ present) (Nat.lt_irrefl _)
  next announcement state =>
    rw [state] at phase
    have held : (system.connections id).holds = true := by rw [state]; rfl
    obtain ⟨quiet, mine, written, numbered, fresh⟩ := phase
    exact paired.move (paired.others_outside held) rfl (paired.goesOn state rfl)
      ⟨quiet, mine, written, numbered, fresh, rfl⟩ rfl rfl
      (.inl (paired.nobody_midway (paired.silent held (by simp [state])))) (.inl rfl) rfl
      (Nat.le_refl _)
  next announcement state =>
    rw [state] at phase
    have held : (system.connections id).holds = true := by rw [state]; rfl
    obtain ⟨⟨unready, undone⟩, mine, written, numbered, fresh, pid⟩ := phase
    have nobody := paired.nobody_midway (paired.silent held (by simp [state]))
    exact paired.move (paired.others_outside held) rfl (paired.goesOn state rfl)
      ⟨.announced (congrArg (· + 1) unready) undone nobody fresh, mine, written, numbered, pid⟩
      rfl rfl (.inl nobody) (.inl rfl) rfl (Nat.le_refl _)
  next announcement state =>
    split
    · exact paired
    next signalled =>
      rw [state] at phase
      have held : (system.connections id).holds = true := by rw [state]; rfl
      have nobody : ∀ listener, (system.listeners listener).midway = false := by
        cases phase.1 with
        | announced _ undone => exact absurd undone signalled
        | accepted _ _ undone => exact absurd undone signalled
        | read _ _ undone => exact absurd undone signalled
        | finished _ _ nobody => exact nobody
      exact paired.move (paired.others_outside held) rfl (paired.goesOn state rfl) trivial rfl rfl
        (.inl nobody) (.inl rfl) rfl (Nat.le_refl _)
  next announcement state =>
    have held : (system.connections id).holds = true := by rw [state]; rfl
    exact paired.move (paired.others_outside held) rfl (paired.goesOn state rfl) trivial rfl rfl
      (.inl (times ⟨_, rfl⟩ ⟨announcement, state⟩)) (.inl rfl) rfl (Nat.le_refl _)
  next announcement state =>
    have held : (system.connections id).holds = true := by rw [state]; rfl
    exact paired.move (paired.others_outside held) rfl (paired.releases held rfl) trivial rfl rfl
      (.inl (paired.nobody_midway (paired.silent held (by simp [state])))) (.inl rfl) rfl
      (Nat.le_refl _)
  next state =>
    have held : (system.connections id).holds = true := by rw [state]; rfl
    exact paired.move (paired.others_outside held) rfl (paired.releases held rfl) trivial rfl rfl
      (.inl (paired.nobody_midway (paired.silent held (by simp [state])))) (.inl rfl) rfl
      (Nat.le_refl _)
  next announcement state => exact paired.outside state rfl rfl
  next => exact paired

/-- A step of a listener that is not in the middle of reading. -/
theorem listenerTurns {id : Nat} {before now : Listener} (paired : Paired system)
    (permits : Nat) (state : system.listeners id = before) (was : before.midway = false)
    (is : now.midway = false)
    (exclusive : Exclusive permits (Listener.holds ∘ Function.update system.listeners id now))
    (untested : ∀ announcement, now.untested announcement →
      system.connectionid = some announcement) :
    Paired ({ system with sem1 := permits }.setListener id now) := by
  have midway (listener : Nat) : (Function.update system.listeners id now listener).midway =
      (system.listeners listener).midway := by
    rw [Function.update_apply]
    split
    next here => rw [here, state, was, is]
    next => rfl
  refine ⟨paired.connections, exclusive, ?_, ?_, ?_, paired.known⟩
  · intro other
    refine (paired.phase other).congr rfl rfl rfl rfl rfl rfl ?_
    intro announcement turn
    refine turn.congr rfl rfl rfl midway ?_
    intro listener reading
    refine Function.update_of_ne ?_ ..
    intro here
    rw [here, state, was] at reading
    contradiction
  · intro listener reading
    exact paired.midway listener ((midway listener).symm.trans reading)
  · intro listener announcement
    simp only [setListener]
    rw [Function.update_apply]
    split
    next => exact untested announcement
    next => exact paired.tested listener announcement

/-- A step of the listener that reads the announcement. -/
theorem reads {next : System} {id inside : Nat} {now : Listener} {announcement : Announcement}
    (paired : Paired system) (signalled : system.connections inside = .signalled announcement)
    (moved : next.listeners = Function.update system.listeners id now)
    (was : (system.listeners id).holds = true) (is : now.holds = true)
    (turn : Turn next announcement) (connections : next.connections = system.connections)
    (sem0 : next.sem0 = system.sem0) (sem1 : next.sem1 = system.sem1)
    (written : next.connectionid = system.connectionid)
    (pid : next.connectionpid = system.connectionpid) (numbered : next.next = system.next)
    (untested : ∀ other, now.untested other → system.connectionid = some other)
    (known : ∀ other ∈ next.taken, other.number < next.next) : Paired next := by
  refine ⟨?_, ?_, ?_, ?_, ?_, known⟩
  · rw [sem0, connections]
    exact paired.connections
  · rw [sem1, moved, Function.comp_update, is]
    exact paired.listeners.stay was.symm
  · intro other
    rw [connections]
    by_cases here : other = inside
    · have phase := paired.phase inside
      rw [signalled] at phase
      rw [here, signalled]
      simp only [Phase, written, pid, numbered]
      exact ⟨turn, phase.2⟩
    · exact .of_outside (paired.others_outside (by rw [signalled]; rfl) other here)
  · intro listener _
    exact ⟨inside, announcement, by rw [connections, signalled]⟩
  · intro listener other
    rw [moved, Function.update_apply, written]
    split
    next => exact untested other
    next => exact paired.tested listener other

/-- The only listener in the middle of reading is the one that has semaphore 1. -/
theorem midway_unique (paired : Paired system) (one : Nat) {other : Nat}
    (first : (system.listeners one).midway = true)
    (second : (system.listeners other).holds = true) : one = other := by
  apply paired.listeners.unique ?_ second
  cases state : system.listeners one <;> simp_all [Listener.midway, Listener.holds]

/-- What is announced while a listener is in the middle of reading. -/
theorem read_of_midway (paired : Paired system) (listener : Nat)
    (reading : (system.listeners listener).midway = true) :
    ∃ id announcement, system.connections id = .signalled announcement ∧
      announcement.connection = id ∧ system.connectionid = some announcement ∧
      announcement.number < system.next ∧ system.connectionpid = some announcement ∧
      system.sem2 = 0 ∧ system.sem3 = 0 ∧
      (system.listeners listener = .accepted ∧ announcement ∉ system.taken ∨
        system.listeners listener = .pidRead announcement) := by
  obtain ⟨id, announcement, signalled⟩ := paired.midway listener reading
  have phase := paired.phase id
  rw [signalled] at phase
  obtain ⟨turn, mine, written, numbered, pid⟩ := phase
  have held : (system.listeners listener).holds = true := by
    cases state : system.listeners listener <;> simp_all [Listener.midway, Listener.holds]
  refine ⟨id, announcement, signalled, mine, written, numbered, pid, ?_⟩
  cases turn with
  | announced _ _ nobody =>
      rw [nobody listener] at reading
      contradiction
  | finished _ _ nobody =>
      rw [nobody listener] at reading
      contradiction
  | accepted reader unready undone accepted fresh =>
      have same := paired.midway_unique reader (by rw [accepted]; rfl) held
      exact ⟨unready, undone, .inl ⟨same ▸ accepted, fresh⟩⟩
  | read reader unready undone read =>
      have same := paired.midway_unique reader (by rw [read]; rfl) held
      exact ⟨unready, undone, .inr (same ▸ read)⟩

/-- A step of a listener keeps the pairs, if it is in turn. -/
theorem listenerStep {id : Nat} (paired : Paired system) (event : Event)
    (accepts : (∃ named, event = .acceptAvailableConnection named) →
      system.listeners id = .acquired → system.sem2 ≠ 0 →
        ∃ connection announcement, system.connections connection = .signalled announcement) :
    Paired (system.listenerStep id event) := by
  have holding (listener : Listener) (state : system.listeners id = listener)
      (held : listener.holds = true) : (system.listeners id).holds = true := by
    rw [state]
    exact held
  unfold System.listenerStep
  split
  next state =>
    split
    · exact paired
    next free =>
      refine paired.listenerTurns _ state rfl rfl ?_ (by simp [Listener.untested])
      rw [Function.comp_update]
      exact paired.listeners.enter free id
  next state =>
    split
    · exact paired
    next ready =>
      obtain ⟨inside, announcement, signalled⟩ := accepts ⟨_, rfl⟩ state ready
      have phase := paired.phase inside
      rw [signalled] at phase
      have turn : Turn ({ system with sem2 := system.sem2 - 1 }.setListener id .accepted)
          announcement := by
        cases phase.1 with
        | announced single undone _ fresh =>
            exact .accepted id (congrArg (· - 1) single) undone (Function.update_self ..) fresh
        | accepted _ unready => exact absurd unready ready
        | read _ unready => exact absurd unready ready
        | finished unready => exact absurd unready ready
      exact paired.reads signalled rfl (holding _ state rfl) rfl turn rfl rfl rfl rfl rfl rfl
        (by simp [Listener.untested]) paired.known
  next state =>
    refine paired.listenerTurns _ state rfl rfl ?_ (by simp [Listener.untested])
    rw [Function.comp_update]
    exact paired.listeners.leave (holding _ state rfl)
  next state =>
    obtain ⟨inside, announcement, signalled, _, written, numbered, pid, unready, undone, turn⟩ :=
      paired.read_of_midway id (by rw [state]; rfl)
    rw [pid]
    refine paired.reads signalled rfl (holding _ state rfl) rfl
      (.read id unready undone (Function.update_self ..)) rfl rfl rfl rfl pid.symm rfl
      (by simp [Listener.untested]) ?_
    intro other present
    rcases List.mem_cons.mp present with same | before
    · rw [same]
      exact numbered
    · exact paired.known other before
  next announcement state =>
    obtain ⟨inside, read, signalled, _, written, numbered, pid, unready, undone, turn⟩ :=
      paired.read_of_midway id (by rw [state]; rfl)
    have same : read = announcement := by
      rcases turn with ⟨accepted, _⟩ | reading
      · rw [accepted] at state
        contradiction
      · rw [reading] at state
        exact (Listener.pidRead.inj state)
    subst same
    have nobody (listener : Nat) :
        (Function.update system.listeners id (.done read) listener).midway = false := by
      rw [Function.update_apply]
      split
      next => rfl
      next elsewhere =>
        rw [Bool.eq_false_iff]
        intro reading
        exact elsewhere (paired.midway_unique listener reading (holding _ state rfl))
    refine paired.reads signalled rfl (holding _ state rfl) rfl
      (.finished unready (congrArg (· + 1) undone) nobody) rfl rfl rfl rfl rfl rfl ?_ paired.known
    intro other untested
    rcases untested with done | testing
    · rw [← Listener.done.inj done]
      exact written
    · contradiction
  next announcement state =>
    refine paired.listenerTurns _ state rfl rfl ?_ ?_
    · rw [Function.comp_update]
      exact paired.listeners.leave (holding _ state rfl)
    · intro other untested
      rcases untested with done | testing
      · contradiction
      · rw [← Listener.testing.inj testing]
        exact paired.tested id announcement (.inl state)
  next announcement state =>
    refine paired.listenerTurns system.sem1 state rfl rfl ?_
      (by simp [Listener.untested])
    rw [Function.comp_update]
    exact paired.listeners.stay (by rw [Function.comp_apply, state]; rfl)
  next => exact paired

end Paired

/-- A step in turn keeps the pairs. -/
theorem paired_step (system : System) (event : Event) (paired : Paired system)
    (inTurn : InTurn system event) : Paired (system.step event) := by
  cases event with
  | timesOut id => exact paired.connectionStep (.timesOut id) (fun _ => inTurn) (by simp)
  | writeConnectionId id =>
      exact paired.connectionStep (.writeConnectionId id) (by simp) (fun _ => inTurn)
  | acceptAvailableConnection id =>
      exact paired.listenerStep (.acceptAvailableConnection id) (fun _ => inTurn)
  | acquireShmAccess id | acquireTimesOut id | resetSemaphore2 id | resetSemaphore3 id
  | writePid id | signalListenerToRead id | listenerFinished id | releaseShmAccess id
  | stopServing id => exact paired.connectionStep _ (by simp) (by simp)
  | listenerAcquires id | acceptFails id | readPid id | doneAcceptingAvailableConnection id
  | listenerReleases id | testConnection id => exact paired.listenerStep _ (by simp)

/-- A pair reads and tests one announcement. -/
theorem Paired.meets (paired : Paired system) (event : Event) : Meets system event := by
  cases event with
  | readPid id =>
      intro accepted
      obtain ⟨inside, announcement, signalled, mine, _, _, pid, _, _, turn⟩ :=
        paired.read_of_midway id (by rw [accepted]; rfl)
      rcases turn with ⟨_, fresh⟩ | read
      · exact ⟨announcement, pid, fresh, .inl (mine ▸ signalled)⟩
      · rw [accepted] at read
        contradiction
  | testConnection id =>
      intro announcement testing
      exact paired.tested id announcement (.inr testing)
  | _ => trivial

/-- In every run whose steps are all in turn, connections and listeners meet in pairs. -/
theorem meets_along (events : List Event) (inTurn : Along step InTurn start events) :
    Along step Meets start events :=
  Along.of_guard paired_step (fun _ event paired _ => paired.meets event) paired_start inTurn

/-- A connection announces itself. -/
def announces (connection : Nat) : List Event :=
  [.acquireShmAccess connection, .resetSemaphore2 connection, .resetSemaphore3 connection,
    .writeConnectionId connection, .writePid connection, .signalListenerToRead connection]

/-- A listener reads an announcement, up to the signal that it is done. -/
def readsAnnouncement (listener : Nat) : List Event :=
  [.listenerAcquires listener, .acceptAvailableConnection listener, .readPid listener,
    .doneAcceptingAvailableConnection listener]

/-- A connection times out before any listener comes; the next one is read and tested. -/
def timeoutThenPair : List Event :=
  announces 0 ++ [.timesOut 0, .releaseShmAccess 0] ++ announces 1 ++ readsAnnouncement 0 ++
    [.listenerFinished 1, .releaseShmAccess 1, .listenerReleases 0, .testConnection 0]

/-- The next connection writes its id before the listener tests the one before. -/
def testedTooLate : List Event :=
  announces 0 ++ readsAnnouncement 0 ++ [.listenerFinished 0, .releaseShmAccess 0] ++ announces 1 ++
    [.listenerReleases 0]

theorem meets_timeoutThenPair : Along step Meets start timeoutThenPair := by
  apply meets_along
  have announced : ∃ connection announcement,
      Function.update (Function.update (fun _ => Connection.away) 0 .gone) 1
        (.signalled ⟨1, 1⟩) connection = .signalled announcement := ⟨1, ⟨1, 1⟩, rfl⟩
  simp [timeoutThenPair, announces, readsAnnouncement, InTurn, step, connectionStep, listenerStep,
    start, setConnection, setListener, Listener.midway, Listener.untested, announced]

theorem not_meets : ¬ ∀ events : List Event, Along step Meets start events := by
  intro meets
  have tested := ((Along.append_iff start testedTooLate [.testConnection 0]).mp
    (meets (testedTooLate ++ [.testConnection 0]))).2.1
  exact absurd (tested ⟨0, 0⟩ (by decide)) (by decide)

end System

end SqlRelay.Handoff.Announcing
