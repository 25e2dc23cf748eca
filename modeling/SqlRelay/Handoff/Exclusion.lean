import SqlRelay.Handoff.Rendezvous

/-!
# Who is inside

Semaphores 0 and 1 keep the connections apart and the listeners, whoever times out in whatever turn.
What they are for may still come to a halt: an announcement is waited for on both sides.  As long as
the announcements are read in turn, somebody can go on without giving up.
-/

namespace SqlRelay.Handoff.Announcing.System

open SqlRelay.Foundation

variable {system : System}

/-! ## Mutual exclusion -/

/-- What a step of a connection does; it is its own state that changes, and the shared memory is
written from inside. -/
structure ConnectionPasses (system next : System) (id : Nat) (now : Connection) : Prop where
  connections : next.connections = Function.update system.connections id now
  listeners : next.listeners = system.listeners
  sem1 : next.sem1 = system.sem1
  passes : Passes system.sem0 (system.connections id).holds next.sem0 now.holds
  written : next.connectionid ≠ system.connectionid ∨ next.connectionpid ≠ system.connectionpid →
    (system.connections id).holds = true

theorem connectionStep_passes (system : System) (id : Nat) (event : Event) :
    ∃ now, ConnectionPasses system (system.connectionStep id event) id now := by
  have waits : ConnectionPasses system system id (system.connections id) :=
    ⟨(Function.update_eq_self ..).symm, rfl, rfl, .stays, by simp⟩
  unfold connectionStep
  split
  case h_1 state =>
    split
    case isTrue => exact ⟨_, waits⟩
    case isFalse free => exact ⟨.acquired, rfl, rfl, rfl, .enters free, by simp [setConnection]⟩
  case h_2 state => exact ⟨.gone, rfl, rfl, rfl, .of_same (state ▸ rfl), by simp [setConnection]⟩
  case h_3 state => exact ⟨.reset2, rfl, rfl, rfl, .of_same (state ▸ rfl), fun _ => state ▸ rfl⟩
  case h_4 state => exact ⟨.reset3, rfl, rfl, rfl, .of_same (state ▸ rfl), fun _ => state ▸ rfl⟩
  case h_5 state =>
    exact ⟨.idWritten _, rfl, rfl, rfl, .of_same (state ▸ rfl), fun _ => state ▸ rfl⟩
  case h_6 state =>
    exact ⟨.pidWritten _, rfl, rfl, rfl, .of_same (state ▸ rfl), fun _ => state ▸ rfl⟩
  case h_7 state =>
    exact ⟨.signalled _, rfl, rfl, rfl, .of_same (state ▸ rfl), fun _ => state ▸ rfl⟩
  case h_8 state =>
    split
    case isTrue => exact ⟨_, waits⟩
    case isFalse =>
      exact ⟨.finished _, rfl, rfl, rfl, .of_same (state ▸ rfl), fun _ => state ▸ rfl⟩
  case h_9 state => exact ⟨.timedOut, rfl, rfl, rfl, .of_same (state ▸ rfl), fun _ => state ▸ rfl⟩
  case h_10 announcement state =>
    have held : (system.connections id).holds = true := by rw [state]; rfl
    exact ⟨.serving announcement, rfl, rfl, rfl, .leaves held, fun _ => held⟩
  case h_11 state =>
    have held : (system.connections id).holds = true := by rw [state]; rfl
    exact ⟨.gone, rfl, rfl, rfl, .leaves held, fun _ => held⟩
  case h_12 state => exact ⟨.away, rfl, rfl, rfl, .of_same (state ▸ rfl), by simp [setConnection]⟩
  case h_13 => exact ⟨_, waits⟩

/-- What a step of a listener does; it only reads the shared memory. -/
structure ListenerPasses (system next : System) (id : Nat) (now : Listener) : Prop where
  listeners : next.listeners = Function.update system.listeners id now
  connections : next.connections = system.connections
  sem0 : next.sem0 = system.sem0
  passes : Passes system.sem1 (system.listeners id).holds next.sem1 now.holds
  connectionid : next.connectionid = system.connectionid
  connectionpid : next.connectionpid = system.connectionpid

theorem listenerStep_passes (system : System) (id : Nat) (event : Event) :
    ∃ now, ListenerPasses system (system.listenerStep id event) id now := by
  have waits : ListenerPasses system system id (system.listeners id) :=
    ⟨(Function.update_eq_self ..).symm, rfl, rfl, .stays, rfl, rfl⟩
  unfold listenerStep
  split
  case h_1 state =>
    split
    case isTrue => exact ⟨_, waits⟩
    case isFalse free => exact ⟨.acquired, rfl, rfl, rfl, .enters free, rfl, rfl⟩
  case h_2 state =>
    split
    case isTrue => exact ⟨_, waits⟩
    case isFalse => exact ⟨.accepted, rfl, rfl, rfl, .of_same (state ▸ rfl), rfl, rfl⟩
  case h_3 state => exact ⟨.away, rfl, rfl, rfl, .leaves (state ▸ rfl), rfl, rfl⟩
  case h_4 state =>
    split
    case h_1 => exact ⟨_, waits⟩
    case h_2 => exact ⟨.pidRead _, rfl, rfl, rfl, .of_same (state ▸ rfl), rfl, rfl⟩
  case h_5 state => exact ⟨.done _, rfl, rfl, rfl, .of_same (state ▸ rfl), rfl, rfl⟩
  case h_6 state => exact ⟨.testing _, rfl, rfl, rfl, .leaves (state ▸ rfl), rfl, rfl⟩
  case h_7 state => exact ⟨.away, rfl, rfl, rfl, .of_same (state ▸ rfl), rfl, rfl⟩
  case h_8 => exact ⟨_, waits⟩

/-- The semaphores keep the connections apart and the listeners. -/
structure Apart (system : System) : Prop where
  connections : Exclusive system.sem0 (Connection.holds ∘ system.connections)
  listeners : Exclusive system.sem1 (Listener.holds ∘ system.listeners)

theorem apart_start : Apart start where
  connections := .inl ⟨rfl, fun _ => rfl⟩
  listeners := .inl ⟨rfl, fun _ => rfl⟩

theorem Apart.connectionStep (apart : Apart system) (id : Nat) (event : Event) :
    Apart (system.connectionStep id event) := by
  obtain ⟨now, step⟩ := connectionStep_passes system id event
  constructor
  · rw [step.connections, Function.comp_update]
    exact apart.connections.pass step.passes
  · rw [step.listeners, step.sem1]
    exact apart.listeners

theorem Apart.listenerStep (apart : Apart system) (id : Nat) (event : Event) :
    Apart (system.listenerStep id event) := by
  obtain ⟨now, step⟩ := listenerStep_passes system id event
  constructor
  · rw [step.connections, step.sem0]
    exact apart.connections
  · rw [step.listeners, Function.comp_update]
    exact apart.listeners.pass step.passes

/-- An event is a step of a connection or of a listener. -/
theorem step_connection_or_listener (system : System) (event : Event) :
    (∃ id, system.step event = system.connectionStep id event) ∨
      ∃ id, system.step event = system.listenerStep id event := by
  cases event with
  | acquireShmAccess id | acquireTimesOut id | resetSemaphore2 id | resetSemaphore3 id
  | writeConnectionId id | writePid id | signalListenerToRead id | listenerFinished id
  | timesOut id | releaseShmAccess id | stopServing id => exact .inl ⟨id, rfl⟩
  | listenerAcquires id | acceptAvailableConnection id | acceptFails id | readPid id
  | doneAcceptingAvailableConnection id | listenerReleases id | testConnection id =>
      exact .inr ⟨id, rfl⟩

theorem step_apart (system : System) (event : Event) (apart : Apart system) :
    Apart (system.step event) := by
  rcases step_connection_or_listener system event with ⟨id, same⟩ | ⟨id, same⟩
  · exact same ▸ apart.connectionStep id event
  · exact same ▸ apart.listenerStep id event

/-- No two connections and no two listeners are inside, and it is the connection inside that writes to
the shared memory. -/
structure Excludes (system : System) (event : Event) : Prop where
  connections : ∀ one other, (system.connections one).holds = true →
    (system.connections other).holds = true → one = other
  listeners : ∀ one other, (system.listeners one).holds = true →
    (system.listeners other).holds = true → one = other
  written : (system.step event).connectionid ≠ system.connectionid ∨
      (system.step event).connectionpid ≠ system.connectionpid →
    ∃ id, (system.connections id).holds = true ∧ system.step event = system.connectionStep id event

theorem Apart.excludes (apart : Apart system) (event : Event) : Excludes system event where
  connections one other first second := apart.connections.unique first second
  listeners one other first second := apart.listeners.unique first second
  written written := by
    rcases step_connection_or_listener system event with ⟨id, same⟩ | ⟨id, same⟩
    · obtain ⟨now, step⟩ := connectionStep_passes system id event
      exact ⟨id, step.written (same ▸ written), same⟩
    · obtain ⟨now, step⟩ := listenerStep_passes system id event
      rw [same, step.connectionid, step.connectionpid] at written
      rcases written with changed | changed
      · exact absurd rfl changed
      · exact absurd rfl changed

/-- In every run the semaphores keep the connections apart and the listeners. -/
theorem excludes_along (events : List Event) : Along step Excludes start events :=
  Along.of_invariant step_apart (fun _ event apart => apart.excludes event) apart_start events

/-! ## Going on -/

/-- The step is the end of a wait in vain. -/
def givesUp : Event → Bool
  | .acquireTimesOut _ | .timesOut _ | .acceptFails _ => true
  | _ => false

/-- Somebody can take a step that is in turn, without giving up. -/
def GoesOn (system : System) : Prop :=
  ∃ event, givesUp event = false ∧ InTurn system event ∧ system.step event ≠ system

theorem goesOn_connection (id : Nat) (event : Event) (waiting : givesUp event = false)
    (inTurn : InTurn system event)
    (moved : (system.step event).connections id ≠ system.connections id) : GoesOn system :=
  ⟨event, waiting, inTurn, fun same => moved (by rw [same])⟩

theorem goesOn_listener (id : Nat) (event : Event) (waiting : givesUp event = false)
    (inTurn : InTurn system event)
    (moved : (system.step event).listeners id ≠ system.listeners id) : GoesOn system :=
  ⟨event, waiting, inTurn, fun same => moved (by rw [same])⟩

/-- A listener that has read an announcement goes on to test it. -/
theorem goesOn_untested {listener : Nat} {announcement : Announcement}
    (untested : (system.listeners listener).untested announcement) : GoesOn system := by
  rcases untested with reader | reader
  · apply goesOn_listener listener (.listenerReleases listener) rfl trivial
    simp [step, listenerStep, setListener, reader]
  · apply goesOn_listener listener (.testConnection listener) rfl trivial
    simp [step, listenerStep, setListener, reader]

/-- An announcement that is signalled is read by the listener inside, or by one that enters. -/
theorem Paired.goesOn_signalled (paired : Paired system) {id : Nat} {announcement : Announcement}
    (signalled : system.connections id = .signalled announcement) : GoesOn system := by
  have phase := paired.phase id
  rw [signalled] at phase
  obtain ⟨turn, _, _, _, pid⟩ := phase
  cases turn with
  | announced ready undone nobody fresh =>
      rcases paired.listeners with ⟨free, outside⟩ | ⟨taken, listener, inside⟩
      · have noneInside := outside 0
        cases reader : system.listeners 0 with
        | away =>
            apply goesOn_listener 0 (.listenerAcquires 0) rfl trivial
            simp [step, System.listenerStep, setListener, reader, free]
        | testing announcement => exact goesOn_untested (.inr reader)
        | acquired | accepted | pidRead announcement | done announcement =>
            simp [reader, Listener.holds] at noneInside
      · have held := (inside listener).mpr rfl
        have reading := nobody listener
        cases reader : system.listeners listener with
        | acquired =>
            apply goesOn_listener listener (.acceptAvailableConnection listener) rfl
            · exact fun _ _ => ⟨id, announcement, signalled⟩
            · simp [step, System.listenerStep, setListener, reader, ready]
        | done announcement => exact goesOn_untested (.inl reader)
        | away | testing announcement => simp [reader, Listener.holds] at held
        | accepted | pidRead announcement => simp [reader, Listener.midway] at reading
  | accepted listener unready undone reader fresh =>
      apply goesOn_listener listener (.readPid listener) rfl trivial
      simp [step, System.listenerStep, setListener, reader, pid]
  | read listener unready undone reader =>
      apply goesOn_listener listener (.doneAcceptingAvailableConnection listener) rfl trivial
      simp [step, System.listenerStep, setListener, reader]
  | finished unready done nobody =>
      apply goesOn_connection id (.listenerFinished id) rfl trivial
      simp [step, System.connectionStep, setConnection, signalled, done]

/-- A connection that is inside comes out again: it goes on itself, or a listener does. -/
theorem Paired.goesOn_inside (paired : Paired system) {id : Nat}
    (held : (system.connections id).holds = true) : GoesOn system := by
  cases state : system.connections id with
  | away | serving announcement | gone => simp [state, Connection.holds] at held
  | acquired =>
      apply goesOn_connection id (.resetSemaphore2 id) rfl trivial
      simp [step, System.connectionStep, setConnection, state]
  | reset2 =>
      apply goesOn_connection id (.resetSemaphore3 id) rfl trivial
      simp [step, System.connectionStep, setConnection, state]
  | reset3 =>
      by_cases untested : ∃ listener announcement, (system.listeners listener).untested announcement
      · obtain ⟨listener, announcement, untested⟩ := untested
        exact goesOn_untested untested
      · apply goesOn_connection id (.writeConnectionId id) rfl
        · exact fun _ listener announcement found => untested ⟨listener, announcement, found⟩
        · simp [step, System.connectionStep, setConnection, state]
  | idWritten announcement =>
      apply goesOn_connection id (.writePid id) rfl trivial
      simp [step, System.connectionStep, setConnection, state]
  | pidWritten announcement =>
      apply goesOn_connection id (.signalListenerToRead id) rfl trivial
      simp [step, System.connectionStep, setConnection, state]
  | signalled announcement => exact paired.goesOn_signalled state
  | finished announcement | timedOut =>
      apply goesOn_connection id (.releaseShmAccess id) rfl trivial
      simp [step, System.connectionStep, setConnection, state]

/-- After every run in turn, and so after every step of one, somebody can go on without giving up:
a connection that is outside goes in, unless one is inside. -/
theorem goesOn_throughout (events : List Event) (inTurn : Along step InTurn start events) :
    Along step (fun system _ => (∃ id, system.connections id = .away ∨
      (system.connections id).holds = true) → GoesOn system) start events := by
  apply Along.of_guard paired_step _ paired_start inTurn
  rintro system event paired _ ⟨id, away | held⟩
  · by_cases free : system.sem0 = 0
    · rcases paired.connections with ⟨single, _⟩ | ⟨_, holder, inside⟩
      · omega
      · exact paired.goesOn_inside ((inside holder).mpr rfl)
    · apply goesOn_connection id (.acquireShmAccess id) rfl trivial
      simp [step, connectionStep, setConnection, away, free]
  · exact paired.goesOn_inside held

/-- A connection has announced itself and no listener has come yet. -/
theorem goesOn_throughout_announces : Along step (fun system _ => (∃ id,
    system.connections id = .away ∨ (system.connections id).holds = true) → GoesOn system) start
      (announces 0) :=
  goesOn_throughout (announces 0) (by
    simp [announces, InTurn, step, connectionStep, start, setConnection, Listener.untested])

end SqlRelay.Handoff.Announcing.System
