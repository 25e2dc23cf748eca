import SqlRelay.Foundation.Run
import SqlRelay.Foundation.Tally
import SqlRelay.Scaler.Pool

/-!
# How many connection processes there are

The scaler reads the counter once and then opens several connections, so it keeps to the maximum
only while the counter stands for all the processes that live, the processes that it gives up on are
dead, and the sum that it compares with the maximum does not wrap around.
-/

namespace SqlRelay.Scaler

open SqlRelay.Foundation

namespace Process

/-- A child that the scaler has not counted yet. -/
def uncounted : Process → Bool
  | .spawned => true
  | .unreaped false => true
  | _ => false

theorem terminate_countedIn {process : Process} (notRegistered : process ≠ .registered) :
    process.terminate.countedIn = process.countedIn := by
  cases process with
  | registered => exact absurd rfl notRegistered
  | _ => rfl

theorem terminate_not_alive (process : Process) : process.terminate.alive = false := by
  cases process <;> rfl

theorem terminate_uncounted (process : Process) :
    process.terminate.uncounted = process.uncounted := by
  cases process <;> rfl

end Process

namespace Control

/-- The connections that are still to be opened, after the one that was started last. -/
def wanted : Control → Nat
  | .opening others _ => others + 1
  | .spawned _ others _ => others
  | .starting _ others _ => others
  | .killing _ others _ _ => others
  | _ => 0

/-- The process that is being started. -/
def pid? : Control → Option Nat
  | .spawned pid _ _ => some pid
  | .starting pid _ _ => some pid
  | .killing pid _ _ _ => some pid
  | _ => none

def Expects : Control → Process → Prop
  | .spawned _ _ _, process => process = .spawned ∨ process = .unreaped false
  | .starting _ _ _, process => process = .counted ∨ process = .unreaped true
  | .killing _ _ _ _, process => process = .counted ∨ process = .unreaped true
  | _, _ => True

theorem Expects.terminate {control : Control} {process : Process}
    (expects : control.Expects process) : control.Expects process.terminate := by
  cases control with
  | spawned pid others attempts => rcases expects with rfl | rfl <;> exact Or.inr rfl
  | starting pid others attempts => rcases expects with rfl | rfl <;> exact Or.inr rfl
  | killing pid others attempts tries => rcases expects with rfl | rfl <;> exact Or.inr rfl
  | _ => trivial

end Control

namespace System

/-- One, if the process has terminated: another one is going to be started in its stead. -/
def freed (system : System) (pid : Nat) : Nat :=
  match system.processes[pid]? with
  | some process => if process.alive = true then 0 else 1
  | none => 0

/-- The processes that may still be started before the counter is read again. -/
def reserved (system : System) : Nat :=
  system.control.wanted + system.control.pid?.elim 0 system.freed

/-- The counter counts the processes that were counted in, there is room for the ones that are still
to be started, and only the one that is being started may not be counted yet. -/
structure Consistent (config : Config) (system : System) : Prop where
  total_eq : system.totalconnections = system.countedIn
  room : system.live + system.reserved ≤ config.maxconnections
  child : ∀ pid, system.control.pid? = some pid →
    ∃ process, system.processes[pid]? = some process ∧ system.control.Expects process
  tallied : ∀ pid process, system.processes[pid]? = some process → process.uncounted = true →
    ∃ others attempts, system.control = .spawned pid others attempts

theorem Consistent.bounded {config : Config} {system : System}
    (consistent : Consistent config system) : Bounded config system where
  live_le := Nat.le_trans (Nat.le_add_right _ _) consistent.room
  total_eq := consistent.total_eq

/-- What has to be so before a step.  Somebody else starts a process only while the scaler opens
none, and where there is room.  A process that has counted itself in does not crash.  No child that
lives is reported to have changed its state.  When the scaler reads the counter, all processes that
live are counted, and the counter and `growby` make no more than a `uint32_t` holds.  A process that
fails to start is dead by the last try to kill it. -/
def Orderly (config : Config) (system : System) : Event → Prop
  | .launch =>
      (system.control = .idle ∨ system.control = .stopped) ∧ system.live < config.maxconnections
  | .terminate pid => system.processes[pid]? ≠ some .registered
  | .stateChange pid => system.processes[pid]? ≠ some .counted
  | .openMoreConnections =>
      system.live ≤ system.totalconnections ∧
        system.totalconnections + config.growby < 4294967296
  | .kill =>
      match system.control with
      | .killing pid _ _ tries => tries = 2 → system.processes[pid]? ≠ some .counted
      | _ => True
  | _ => True

instance (config : Config) (system : System) (event : Event) :
    Decidable (system.Orderly config event) := by
  cases event with
  | kill =>
      simp only [Orderly]
      cases system.control <;> infer_instance
  | _ =>
      simp only [Orderly]
      infer_instance

variable {config : Config} {system : System}

theorem consistent_start : Consistent config start where
  total_eq := rfl
  room := Nat.zero_le _
  child _ none := by cases none
  tallied pid process found := by simp [start] at found

/-! ### Changing a process -/

variable {after : System}

theorem live_changed {pid : Nat} {old new : Process} (found : system.processes[pid]? = some old)
    (processes : after.processes = system.processes.set pid new) :
    after.live + old.alive.toNat = system.live + new.alive.toNat := by
  rw [live, processes]
  exact Tally.countP_set Process.alive found

theorem countedIn_changed {pid : Nat} {old new : Process}
    (found : system.processes[pid]? = some old)
    (processes : after.processes = system.processes.set pid new) :
    after.countedIn + old.countedIn.toNat = system.countedIn + new.countedIn.toNat := by
  rw [countedIn, processes]
  exact Tally.countP_set Process.countedIn found

theorem freed_of_found {pid : Nat} {process : Process}
    (found : system.processes[pid]? = some process) :
    system.freed pid + process.alive.toNat = 1 := by
  simp only [freed, found]
  cases process.alive <;> rfl

/-- When a process changes, the room that is reserved makes up for it if the process is the one that
is being started, and stays as it is otherwise. -/
theorem reserved_changed {pid : Nat} {old new : Process}
    (found : system.processes[pid]? = some old)
    (processes : after.processes = system.processes.set pid new)
    (samePid : after.control.pid? = system.control.pid?)
    (sameWanted : after.control.wanted = system.control.wanted)
    (noMore : new.alive = true → old.alive = true) :
    after.reserved + new.alive.toNat ≤ system.reserved + old.alive.toNat := by
  have fewer : new.alive.toNat ≤ old.alive.toNat := by
    cases lives : new.alive with
    | false => exact Nat.zero_le _
    | true => exact Nat.le_of_eq (congrArg Bool.toNat (noMore lives).symm)
  rw [reserved, reserved, samePid, sameWanted]
  cases starting : system.control.pid? with
  | none =>
      simp only [Option.elim]
      omega
  | some started =>
      simp only [Option.elim]
      by_cases here : pid = started
      · subst here
        have before := freed_of_found found
        have there : after.processes[pid]? = some new := by
          rw [processes]
          exact Tally.getElem?_set_same found
        have later := freed_of_found there
        omega
      · have same : after.freed started = system.freed started := by
          rw [freed, freed, processes, List.getElem?_set_ne here]
        omega

/-- A process changes, and the counter with it. -/
theorem Consistent.change (consistent : Consistent config system) (after : System) {pid : Nat}
    {old : Process} (new : Process) (found : system.processes[pid]? = some old)
    (processes : after.processes = system.processes.set pid new)
    (samePid : after.control.pid? = system.control.pid?)
    (sameWanted : after.control.wanted = system.control.wanted)
    (sameElsewhere : system.control.pid? ≠ some pid → after.control = system.control)
    (total : after.totalconnections + old.countedIn.toNat =
      system.totalconnections + new.countedIn.toNat)
    (noMore : new.alive = true → old.alive = true)
    (expects : system.control.pid? = some pid → after.control.Expects new)
    (tallied : new.uncounted = true →
      ∃ others attempts, after.control = .spawned pid others attempts) :
    Consistent config after where
  total_eq := by
    have tally := countedIn_changed found processes
    have before := consistent.total_eq
    omega
  room := by
    have tally := live_changed found processes
    have reserved := reserved_changed found processes samePid sameWanted noMore
    have before := consistent.room
    omega
  child started isStarted := by
    rw [samePid] at isStarted
    obtain ⟨process, there, expected⟩ := consistent.child started isStarted
    rw [processes]
    by_cases here : pid = started
    · subst here
      exact ⟨new, Tally.getElem?_set_same found, expects isStarted⟩
    · have notHere : system.control.pid? ≠ some pid := by
        rw [isStarted]
        intro same
        exact here (Option.some.inj same).symm
      rw [sameElsewhere notHere]
      exact ⟨process, (List.getElem?_set_ne here).trans there, expected⟩
  tallied place process there uncounted := by
    rw [processes] at there
    cases Tally.getElem?_set_eq_some found there with
    | inl here =>
        rw [here.1]
        exact tallied (here.2 ▸ uncounted)
    | inr elsewhere =>
        obtain ⟨others, attempts, spawned⟩ :=
          consistent.tallied place process elsewhere.2 uncounted
        have notHere : system.control.pid? ≠ some pid := by
          rw [spawned]
          intro same
          exact elsewhere.1 (Option.some.inj same)
        rw [sameElsewhere notHere]
        exact ⟨others, attempts, spawned⟩

/-- The scaler goes on, and no process changes. -/
theorem Consistent.goTo (consistent : Consistent config system) {control : Control}
    (room : (system.goTo control).live + (system.goTo control).reserved ≤ config.maxconnections)
    (child : ∀ pid, control.pid? = some pid →
      ∃ process, system.processes[pid]? = some process ∧ control.Expects process)
    (counted : ∀ pid others attempts, system.control ≠ .spawned pid others attempts) :
    Consistent config (system.goTo control) where
  total_eq := consistent.total_eq
  room := room
  child := child
  tallied place process there uncounted := by
    obtain ⟨others, attempts, spawned⟩ := consistent.tallied place process there uncounted
    exact absurd spawned (counted place others attempts)

/-! ### Steps -/

/-- A process of somebody else is not the one that is being started. -/
theorem Consistent.not_starting (consistent : Consistent config system) {pid : Nat}
    {process : Process} (found : system.processes[pid]? = some process)
    (unexpected : ∀ control : Control, control.pid? = some pid → ¬control.Expects process) :
    system.control.pid? ≠ some pid := by
  intro starting
  obtain ⟨other, there, expects⟩ := consistent.child pid starting
  rw [found] at there
  cases there
  exact unexpected system.control starting expects

theorem totalconnections_pos (consistent : Consistent config system) {pid : Nat}
    {process : Process} (found : system.processes[pid]? = some process)
    (counted : process.countedIn = true) : 0 < system.totalconnections := by
  rw [consistent.total_eq]
  exact List.countP_pos_iff.mpr ⟨process, List.mem_of_getElem? found, counted⟩

theorem decrementConnectionCount_totalconnections (system : System)
    (positive : 0 < system.totalconnections) :
    system.decrementConnectionCount.totalconnections + 1 = system.totalconnections := by
  simp only [decrementConnectionCount]
  rw [if_neg (Nat.pos_iff_ne_zero.mp positive)]
  omega

theorem wanted_next (count : Nat) : (next count).wanted = count := by
  cases count <;> rfl

theorem pid?_next (count : Nat) : (next count).pid? = none := by
  cases count <;> rfl

theorem wanted_retry_le (others attempts : Nat) : (retry others attempts).wanted ≤ others + 1 := by
  rw [retry]
  split
  · exact Nat.zero_le _
  · exact Nat.le_refl _

theorem pid?_retry (others attempts : Nat) : (retry others attempts).pid? = none := by
  rw [retry]
  split <;> rfl

/-- Going on to where no process is being started, with no more to start than was reserved. -/
theorem Consistent.goOn (consistent : Consistent config system) {control : Control}
    (nobody : control.pid? = none) (room : system.live + control.wanted ≤ config.maxconnections)
    (counted : ∀ pid others attempts, system.control ≠ .spawned pid others attempts) :
    Consistent config (system.goTo control) := by
  apply consistent.goTo
  · simpa [reserved, System.goTo, nobody, live] using room
  · intro pid starting
    rw [nobody] at starting
    cases starting
  · exact counted

theorem launch_consistent (consistent : Consistent config system)
    (orderly : system.Orderly config .launch) :
    Consistent config (system.step config .launch) where
  total_eq := by
    simp only [step, countedIn, Tally.countP_append_singleton]
    exact consistent.total_eq
  room := by
    have nobody : system.control.pid? = none ∧ system.control.wanted = 0 := by
      cases orderly.1 with
      | inl idle =>
          rw [idle]
          exact ⟨rfl, rfl⟩
      | inr stopped =>
          rw [stopped]
          exact ⟨rfl, rfl⟩
    have space := orderly.2
    simp only [live] at space
    simp only [step, live, reserved, Tally.countP_append_singleton, nobody.1, nobody.2, Option.elim,
      Process.alive, Bool.toNat_true]
    omega
  child pid starting := by
    obtain ⟨process, there, expects⟩ := consistent.child pid starting
    have inside : pid < system.processes.length := (List.getElem?_eq_some_iff.mp there).1
    exact ⟨process, (List.getElem?_append_left inside).trans there, expects⟩
  tallied place process there uncounted := by
    cases Tally.getElem?_append_eq_some there with
    | inl before => exact consistent.tallied place process before uncounted
    | inr new =>
        rw [new.2] at uncounted
        cases uncounted

theorem register_consistent (consistent : Consistent config system) (pid : Nat) :
    Consistent config (system.step config (.register pid)) := by
  simp only [step]
  split
  · rename_i found
    have notStarting : system.control.pid? ≠ some pid := by
      apply consistent.not_starting found
      intro control starting
      cases control <;> simp [Control.Expects, Control.pid?] at starting ⊢
    apply consistent.change ((system.set pid .registered).increment) .registered found rfl rfl rfl
      (fun _ => rfl)
    · rfl
    · intro lives
      rfl
    · intro starting
      exact absurd starting notStarting
    · intro uncounted
      cases uncounted
  · exact consistent

theorem close_consistent (consistent : Consistent config system) (pid : Nat) :
    Consistent config (system.step config (.close pid)) := by
  simp only [step]
  split
  · rename_i found
    have notStarting : system.control.pid? ≠ some pid := by
      apply consistent.not_starting found
      intro control starting
      cases control <;> simp [Control.Expects, Control.pid?] at starting ⊢
    have positive := totalconnections_pos consistent found rfl
    apply consistent.change (system.set pid .closing).decrementConnectionCount .closing found rfl
      rfl rfl (fun _ => rfl)
    · exact decrementConnectionCount_totalconnections (system.set pid .closing) positive
    · intro lives
      rfl
    · intro starting
      exact absurd starting notStarting
    · intro uncounted
      cases uncounted
  · exact consistent

theorem terminate_consistent (consistent : Consistent config system) (pid : Nat)
    (orderly : system.Orderly config (.terminate pid)) :
    Consistent config (system.step config (.terminate pid)) := by
  simp only [step]
  split
  · rename_i process found
    have notRegistered : process ≠ .registered := by
      intro registered
      rw [registered] at found
      exact orderly found
    apply consistent.change (system.set pid process.terminate) process.terminate found rfl rfl rfl
      (fun _ => rfl)
    · rw [Process.terminate_countedIn notRegistered]
      rfl
    · intro lives
      rw [process.terminate_not_alive] at lives
      cases lives
    · intro starting
      obtain ⟨other, there, expects⟩ := consistent.child pid starting
      rw [found] at there
      cases there
      exact expects.terminate
    · intro uncounted
      rw [process.terminate_uncounted] at uncounted
      exact consistent.tallied pid process found uncounted
  · exact consistent

/-- A child that has terminated is counted out when nobody is being started. -/
theorem reap_consistent (consistent : Consistent config system) {pid : Nat} {tallied : Bool}
    (found : system.processes[pid]? = some (.unreaped tallied))
    (nobody : system.control.pid? = none) : Consistent config (system.reap pid) := by
  have counted : tallied = true := by
    cases known : tallied with
    | true => rfl
    | false =>
        rw [known] at found
        obtain ⟨others, attempts, spawned⟩ := consistent.tallied pid _ found rfl
        rw [spawned] at nobody
        cases nobody
  subst counted
  have positive := totalconnections_pos consistent found rfl
  apply consistent.change (system.reap pid) .gone found rfl rfl rfl (fun _ => rfl)
  · exact decrementConnectionCount_totalconnections (system.set pid .gone) positive
  · intro lives
    cases lives
  · intro starting
    rw [nobody] at starting
    cases starting
  · intro uncounted
    cases uncounted

/-- If the sum does not wrap around, the connections that are opened fit. -/
theorem openCount_le (connectedclients : Nat) {currentconnections : Nat}
    (noWrap : currentconnections + config.growby < 4294967296) :
    openCount config connectedclients currentconnections = 0 ∨
      currentconnections + openCount config connectedclients currentconnections ≤
        config.maxconnections := by
  have ordered := config.ordered
  simp only [openCount, uint32, Nat.mod_eq_of_lt noWrap]
  split
  · exact Or.inl rfl
  · split
    · split
      · apply Or.inr
        omega
      · exact Or.inl rfl
    · apply Or.inr
      omega

theorem openMoreConnections_consistent (consistent : Consistent config system)
    (orderly : system.Orderly config .openMoreConnections) :
    Consistent config (system.step config .openMoreConnections) := by
  simp only [step]
  split
  · rename_i idle
    have before := consistent.room
    have counted := orderly.1
    apply consistent.goOn (pid?_next _)
    · rw [wanted_next]
      cases openCount_le system.connectedclients orderly.2 with
      | inl nothing => omega
      | inr fits => omega
    · intro pid others attempts spawned
      rw [idle] at spawned
      cases spawned
  · exact consistent

theorem openOneConnection_consistent (consistent : Consistent config system) :
    Consistent config (system.step config .openOneConnection) := by
  simp only [step]
  split
  · rename_i others attempts opening
    have last : (system.processes ++ [Process.spawned])[system.processes.length]? =
        some .spawned := by simp
    constructor
    · simp only [countedIn, Tally.countP_append_singleton]
      exact consistent.total_eq
    · have before := consistent.room
      simp only [reserved, opening, Control.wanted, Control.pid?, Option.elim, live] at before
      simp only [live, reserved, Control.wanted, Control.pid?, Option.elim, freed, last,
        Tally.countP_append_singleton, Process.alive, Bool.toNat_true, if_true]
      omega
    · intro pid starting
      cases starting
      exact ⟨.spawned, last, Or.inl rfl⟩
    · intro place process there uncounted
      cases Tally.getElem?_append_eq_some there with
      | inl before =>
          obtain ⟨_, _, spawned⟩ := consistent.tallied place process before uncounted
          rw [opening] at spawned
          cases spawned
      | inr new =>
          rw [new.1]
          exact ⟨others, attempts, rfl⟩
  · exact consistent

theorem incrementConnectionCount_consistent (consistent : Consistent config system) :
    Consistent config (system.step config .incrementConnectionCount) := by
  simp only [step]
  split
  · rename_i pid others attempts spawned
    obtain ⟨process, found, expects⟩ := consistent.child pid (by rw [spawned]; rfl)
    rw [spawned] at expects
    simp only [found]
    apply consistent.change (((system.set pid process.countIn).increment).goTo
      (.starting pid others attempts)) process.countIn found rfl
    · rw [spawned]
      rfl
    · rw [spawned]
      rfl
    · intro elsewhere
      rw [spawned] at elsewhere
      exact absurd rfl elsewhere
    · rcases expects with rfl | rfl <;> rfl
    · intro lives
      rcases expects with rfl | rfl
      · rfl
      · cases lives
    · intro starting
      rcases expects with rfl | rfl
      · exact Or.inl rfl
      · exact Or.inr rfl
    · intro uncounted
      rcases expects with rfl | rfl <;> cases uncounted
  · exact consistent

theorem started_consistent (consistent : Consistent config system) :
    Consistent config (system.step config .started) := by
  simp only [step]
  split
  · rename_i pid others attempts starting
    have before := consistent.room
    simp only [reserved, starting, Control.wanted] at before
    apply consistent.goOn (pid?_next _)
    · rw [wanted_next]
      omega
    · intro place others attempts spawned
      rw [starting] at spawned
      cases spawned
  · exact consistent

theorem startFails_consistent (consistent : Consistent config system) :
    Consistent config (system.step config .startFails) := by
  simp only [step]
  split
  · rename_i pid others attempts starting
    have before := consistent.room
    have expected := consistent.child
    rw [starting] at expected
    simp only [reserved, starting] at before
    apply consistent.goTo
    · exact before
    · exact expected
    · intro place others attempts spawned
      rw [starting] at spawned
      cases spawned
  · exact consistent

theorem kill_consistent (consistent : Consistent config system)
    (orderly : system.Orderly config .kill) :
    Consistent config (system.step config .kill) := by
  simp only [step]
  split
  · rename_i pid others attempts tries killing
    have before := consistent.room
    have notSpawned : ∀ place others attempts,
        system.control ≠ .spawned place others attempts := by
      intro place others attempts spawned
      rw [killing] at spawned
      cases spawned
    obtain ⟨process, found, expects⟩ := consistent.child pid (by rw [killing]; rfl)
    simp only [Orderly, killing] at orderly
    simp only [reserved, killing, Control.wanted, Control.pid?, Option.elim] at before
    rw [killing] at expects
    simp only [kill, found]
    cases expects with
    | inl counted =>
        -- the process lives, so this was not the last try
        subst counted
        have more : ¬tries + 1 = 3 := by
          intro last
          exact orderly (by omega) found
        simp only [if_neg more]
        apply consistent.goTo
        · exact before
        · intro other same
          cases same
          exact ⟨.counted, found, Or.inl rfl⟩
        · exact notSpawned
    | inr terminated =>
        subst terminated
        have freed := freed_of_found found
        have moved : Consistent config (system.goTo (retry others attempts)) := by
          apply consistent.goOn (pid?_retry _ _)
          · have fewer := wanted_retry_le others attempts
            simp only [Process.alive, Bool.toNat_false] at freed
            omega
          · exact notSpawned
        exact reap_consistent moved found (pid?_retry _ _)
  · exact consistent

theorem step_consistent (consistent : Consistent config system) (event : Event)
    (orderly : system.Orderly config event) : Consistent config (system.step config event) := by
  cases event with
  | clients count =>
      exact ⟨consistent.total_eq, consistent.room, consistent.child, consistent.tallied⟩
  | launch => exact launch_consistent consistent orderly
  | register pid => exact register_consistent consistent pid
  | close pid => exact close_consistent consistent pid
  | terminate pid => exact terminate_consistent consistent pid orderly
  | reap pid =>
      simp only [step]
      split
      · rename_i idle found
        exact reap_consistent consistent found (by rw [idle]; rfl)
      · rename_i stopped found
        exact reap_consistent consistent found (by rw [stopped]; rfl)
      · exact consistent
  | stateChange pid =>
      simp only [step]
      split
      · rename_i idle found
        exact absurd found orderly
      · rename_i stopped found
        exact absurd found orderly
      · rename_i killing found
        exact absurd found orderly
      · exact consistent
  | openMoreConnections => exact openMoreConnections_consistent consistent orderly
  | unavailable =>
      simp only [step]
      split
      · rename_i others attempts opening
        have before := consistent.room
        have fewer := wanted_retry_le others attempts
        simp only [reserved, opening, Control.wanted] at before
        apply consistent.goOn (pid?_retry _ _)
        · omega
        · intro pid others attempts spawned
          rw [opening] at spawned
          cases spawned
      · exact consistent
  | openOneConnection => exact openOneConnection_consistent consistent
  | spawnFails => exact consistent
  | incrementConnectionCount => exact incrementConnectionCount_consistent consistent
  | started => exact started_consistent consistent
  | startFails => exact startFails_consistent consistent
  | kill => exact kill_consistent consistent orderly
  | shutDown =>
      have before := consistent.room
      simp only [step]
      split
      · rename_i idle
        apply consistent.goOn rfl
        · simp only [Control.wanted]
          omega
        · intro pid others attempts spawned
          rw [idle] at spawned
          cases spawned
      · rename_i opening
        apply consistent.goOn rfl
        · simp only [Control.wanted]
          omega
        · intro pid others attempts spawned
          rw [opening] at spawned
          cases spawned
      · exact consistent

/-- In every orderly run, there are never more connection processes than allowed, and the counter
counts those that were counted in. -/
theorem bounded_along (config : Config) (events : List Event)
    (orderly : Along (step config) (Orderly config) start events) :
    Bounded config (events.foldl (step config) start) := by
  have ends : Consistent config (events.foldl (step config) start) := by
    apply Along.invariant _ consistent_start orderly
    intro system event before met
    exact step_consistent before event met
  exact ends.bounded

/-- A second process is started for a client that waits, and the first one terminates. -/
def growth : List Event :=
  [.launch, .register 0, .clients 2, .openMoreConnections, .openOneConnection,
    .incrementConnectionCount, .startFails, .kill, .terminate 1, .kill, .openOneConnection,
    .incrementConnectionCount, .started, .close 0, .terminate 0, .openMoreConnections]

def growthConfig : Config := ⟨1, 2, 0, 1, by decide⟩

theorem bounded_along_growth : Bounded growthConfig (growth.foldl (step growthConfig) start) :=
  bounded_along growthConfig growth (by decide +kernel)

/-- `growby` is so large that the sum wraps around. -/
def wrapConfig : Config := ⟨1, 2, 0, 4294967295, by decide⟩

def wrapRun : List Event :=
  [.launch, .register 0, .clients 2, .openMoreConnections, .openOneConnection,
    .incrementConnectionCount, .started, .openOneConnection, .incrementConnectionCount, .started]

/-- Three processes live where two are allowed, and more are to be opened. -/
theorem wrap_exceeds : ¬Bounded wrapConfig (wrapRun.foldl (step wrapConfig) start) := by
  decide +kernel

end System

end SqlRelay.Scaler
