import SqlRelay.Handoff.Registry

/-!
# When the list has every registration

The list is right as long as no process registers in a free node before its own one, since the later
node is then left behind, and comes to light when the process deregisters.  A child goes by its copy
of the list, and so must not look for a process that has registered again since it was forked.
-/

namespace SqlRelay.Handoff

open SqlRelay.Foundation

/-! ## The list -/

namespace HandoffSocketList

variable {handoffsocklist : List HandoffSocketNode} {processid other : ProcessId} {sock : Nat}

theorem processId_eq_iff {first second : ProcessId} :
    first = second ↔ first.value = second.value := by
  cases first
  cases second
  simp

theorem takenBy_processId (processid : ProcessId) (sock : Option Nat) :
    HandoffSocketNode.takenBy ⟨processid.value, sock⟩ = some processid.value :=
  if_neg processid.notZero

theorem fixup_registerHandoff :
    fixup (registerHandoff handoffsocklist processid sock) other =
      if other = processid then some sock else fixup handoffsocklist other := by
  rw [fixup, node, registerHandoff, FirstFit.find_place (takenBy_processId processid (some sock))]
  simp only [processId_eq_iff]
  split
  · rfl
  · rfl

theorem fixup_deRegisterHandoff
    (once : (FirstFit.held HandoffSocketNode.takenBy handoffsocklist).Nodup) :
    fixup (deRegisterHandoff handoffsocklist processid) other =
      if other = processid then none else fixup handoffsocklist other := by
  rw [fixup, node, deRegisterHandoff, FirstFit.find_release rfl once]
  simp only [processId_eq_iff]
  split
  · rfl
  · rfl

/-- Every node that is taken has a socket. -/
def Whole (handoffsocklist : List HandoffSocketNode) : Prop :=
  ∀ node ∈ handoffsocklist, node.takenBy ≠ none → node.sock ≠ none

theorem whole_registerHandoff (whole : Whole handoffsocklist) :
    Whole (registerHandoff handoffsocklist processid sock) := by
  intro node member taken
  cases FirstFit.mem_of_mem_place member with
  | inl same =>
      rw [same]
      simp
  | inr before => exact whole node before taken

theorem whole_deRegisterHandoff (whole : Whole handoffsocklist) :
    Whole (deRegisterHandoff handoffsocklist processid) := by
  intro node member taken
  cases FirstFit.mem_of_mem_release member with
  | inl same => exact absurd (same ▸ rfl) taken
  | inr before => exact whole node before taken

/-- A node that is found has the socket that the main listener would pass. -/
theorem fixup_of_node (whole : Whole handoffsocklist) {found : HandoffSocketNode}
    (isNode : node handoffsocklist processid = some found) :
    ∃ sock, found.sock = some sock ∧ fixup handoffsocklist processid = some sock := by
  have taken : found.takenBy ≠ none := by simp [FirstFit.key_of_find isNode]
  obtain ⟨sock, has⟩ :=
    Option.ne_none_iff_exists'.mp (whole found (FirstFit.mem_of_find isNode) taken)
  exact ⟨sock, has, by rw [fixup, isNode, Option.bind_some, has]⟩

theorem invalidated_of_whole (whole : Whole handoffsocklist) :
    invalidated handoffsocklist processid = handoffsocklist := by
  rw [invalidated]
  split
  case h_1 isNode =>
    obtain ⟨sock, has, -⟩ := fixup_of_node whole isNode
    cases has
  case h_2 => rfl

theorem findMatchingSocket_self :
    findMatchingSocket handoffsocklist handoffsocklist processid =
      fixup handoffsocklist processid := by
  rw [findMatchingSocket, fixup]
  cases node handoffsocklist processid with
  | none => rfl
  | some found => rfl

end HandoffSocketList

/-! ## The invariant -/

namespace WatchedRegistry

open HandoffSocketList

/-- What a child can find in its copy of the list. -/
structure SoundCopy (registered : ProcessId → Option Nat) (accepted : Nat)
    (copy : ForkedListener) : Prop where
  whole : Whole copy.handoffsocklist
  earlier : ∀ processid sock, fixup copy.handoffsocklist processid = some sock → sock < accepted
  current : ∀ processid, processid ∉ copy.changed →
    fixup copy.handoffsocklist processid = registered processid
  stale : ∀ processid sock, processid ∈ copy.changed →
    fixup copy.handoffsocklist processid = some sock → registered processid ≠ some sock

/-- What holds of the list and its copies after any orderly run. -/
structure Sound (watched : WatchedRegistry) : Prop where
  whole : Whole watched.registry.handoffsocklist
  once : (FirstFit.held HandoffSocketNode.takenBy watched.registry.handoffsocklist).Nodup
  kept : ∀ processid,
    fixup watched.registry.handoffsocklist processid = watched.registered processid
  earlier : ∀ processid sock, watched.registered processid = some sock →
    sock < watched.registry.accepted
  copies : ∀ copy ∈ watched.registry.children,
    SoundCopy watched.registered watched.registry.accepted copy

variable {watched : WatchedRegistry} {registered : ProcessId → Option Nat} {accepted : Nat}
  {copy : ForkedListener}

theorem sound_start (maxconnections : Nat) : (start maxconnections).Sound where
  whole := by
    intro node member taken
    rw [List.eq_of_mem_replicate member] at taken
    exact absurd rfl taken
  once := by
    rw [FirstFit.held, List.filterMap_eq_nil_iff.mpr]
    · exact List.nodup_nil
    · intro node member
      rw [List.eq_of_mem_replicate member]
      rfl
  kept processid := by
    rw [fixup, node, FirstFit.find_eq_none_iff.mpr]
    · rfl
    · intro member
      obtain ⟨node, inside, taken⟩ := List.mem_filterMap.mp member
      rw [List.eq_of_mem_replicate inside] at taken
      cases taken
  earlier processid sock found := by cases found
  copies copy member := by cases member

/-- A copy is as good as before when another socket has been accepted. -/
theorem SoundCopy.later (sound : SoundCopy registered accepted copy) :
    SoundCopy registered (accepted + 1) copy where
  whole := sound.whole
  earlier processid sock found := Nat.lt_succ_of_lt (sound.earlier processid sock found)
  current := sound.current
  stale := sound.stale

/-- What a copy has of a process that is registered anew, or deregistered, is not current any
more. -/
theorem SoundCopy.sees (sound : SoundCopy registered accepted copy) {changed : ProcessId}
    {now : ProcessId → Option Nat} (others : ∀ other, other ≠ changed → now other = registered other)
    (anew : ∀ sock, now changed = some sock → accepted ≤ sock) :
    SoundCopy now accepted (copy.sees changed) where
  whole := sound.whole
  earlier := sound.earlier
  current := by
    intro processid unchanged
    rw [ForkedListener.sees, List.mem_cons, not_or] at unchanged
    rw [others processid unchanged.1]
    exact sound.current processid unchanged.2
  stale := by
    intro processid sock member found
    by_cases same : processid = changed
    · intro isNow
      exact Nat.not_lt.mpr (anew sock (same ▸ isNow)) (sound.earlier processid sock found)
    · rw [others processid same]
      exact sound.stale processid sock ((List.mem_cons.mp member).resolve_left same) found

/-- The main listener's own list, as a copy. -/
theorem Sound.fork (sound : watched.Sound) :
    SoundCopy watched.registered watched.registry.accepted
      ⟨watched.registry.handoffsocklist, []⟩ where
  whole := sound.whole
  earlier processid sock found := sound.earlier processid sock (sound.kept processid ▸ found)
  current processid _ := sound.kept processid
  stale processid sock member := by cases member

/-- What a child finds is right exactly if its copy knows nothing of the process or is current. -/
theorem findMatchingSocket_iff (sound : watched.Sound)
    (copied : SoundCopy watched.registered watched.registry.accepted copy)
    (processid : ProcessId) :
    findMatchingSocket copy.handoffsocklist watched.registry.handoffsocklist processid =
        watched.registered processid ↔
      node copy.handoffsocklist processid = none ∨ processid ∉ copy.changed := by
  rw [findMatchingSocket]
  cases isNode : node copy.handoffsocklist processid with
  | none => exact iff_of_true (sound.kept processid) (Or.inl rfl)
  | some found =>
      obtain ⟨sock, has, finds⟩ := fixup_of_node copied.whole isNode
      simp only [has, reduceCtorEq, false_or]
      constructor
      · intro right changed
        exact copied.stale processid sock changed finds right.symm
      · intro unchanged
        exact finds.symm.trans (copied.current processid unchanged)

/-! ## One event -/

/-- The list afterwards, whatever the event: the registered sockets, and in order. -/
theorem step_list (sound : watched.Sound) (event : RegistryEvent) :
    Whole (watched.step event).registry.handoffsocklist ∧
      (∀ processid, fixup (watched.step event).registry.handoffsocklist processid =
        (watched.step event).registered processid) := by
  cases event with
  | registerHandoff processid =>
      cases processid with
      | none => exact ⟨sound.whole, sound.kept⟩
      | some processid =>
          constructor
          · exact whole_registerHandoff sound.whole
          · intro other
            simp only [step, Registry.step, fixup_registerHandoff, sound.kept]
  | deRegisterHandoff processid =>
      cases processid with
      | none => exact ⟨sound.whole, sound.kept⟩
      | some processid =>
          constructor
          · exact whole_deRegisterHandoff sound.whole
          · intro other
            simp only [step, Registry.step, fixup_deRegisterHandoff sound.once, sound.kept]
  | fixup processid => exact ⟨sound.whole, sound.kept⟩
  | forkChild => exact ⟨sound.whole, sound.kept⟩
  | findMatchingSocket child connectionpid =>
      cases child with
      | none =>
          simp only [step, Registry.step, invalidated_of_whole sound.whole]
          exact ⟨sound.whole, sound.kept⟩
      | some child => exact ⟨sound.whole, sound.kept⟩

/-- No process id is in the list twice exactly if the event is no registration behind a free
node. -/
theorem step_once_iff (sound : watched.Sound) (event : RegistryEvent) :
    (FirstFit.held HandoffSocketNode.takenBy
        (watched.step event).registry.handoffsocklist).Nodup ↔
      ∀ processid, event = .registerHandoff (some processid) → watched.Orderly event := by
  cases event with
  | registerHandoff processid =>
      cases processid with
      | none => exact iff_of_true sound.once fun _ same => by cases same
      | some processid =>
          have once := FirstFit.nodup_place_iff
            (takenBy_processId processid (some watched.registry.accepted)) sound.once
          simp only [step, Registry.step, registerHandoff, Orderly, once]
          constructor
          · intro notBehind _ _
            exact notBehind
          · intro orderly
            exact orderly processid rfl
  | deRegisterHandoff processid =>
      cases processid with
      | none => exact iff_of_true sound.once fun _ same => by cases same
      | some processid =>
          exact iff_of_true (FirstFit.nodup_release rfl sound.once) fun _ same => by cases same
  | fixup processid => exact iff_of_true sound.once fun _ same => by cases same
  | forkChild => exact iff_of_true sound.once fun _ same => by cases same
  | findMatchingSocket child connectionpid =>
      cases child with
      | none =>
          simp only [step, Registry.step, invalidated_of_whole sound.whole]
          exact iff_of_true sound.once fun _ same => by cases same
      | some child => exact iff_of_true sound.once fun _ same => by cases same

/-- A lookup comes to the registered socket exactly if it is no lookup in a copy that is out of
date. -/
theorem lookup_iff (sound : watched.Sound) (event : RegistryEvent) :
    (∀ processid sock, watched.registry.lookup event = some (processid, sock) →
        sock = watched.registered processid) ↔
      ∀ child connectionpid, event = .findMatchingSocket (some child) connectionpid →
        watched.Orderly event := by
  cases event with
  | registerHandoff processid =>
      cases processid <;> simp [Registry.lookup]
  | deRegisterHandoff processid => simp [Registry.lookup]
  | fixup processid =>
      cases processid with
      | none => simp [Registry.lookup]
      | some processid => simp [Registry.lookup, sound.kept]
  | forkChild => simp [Registry.lookup]
  | findMatchingSocket child connectionpid =>
      cases child with
      | none => simp [Registry.lookup, findMatchingSocket_self, sound.kept]
      | some child =>
          cases present : watched.registry.children[child]? with
          | none => simp [Registry.lookup, Orderly, present]
          | some copy =>
              have copied := sound.copies copy (List.mem_of_getElem? present)
              have right := findMatchingSocket_iff sound copied connectionpid
              simp only [Registry.lookup, Orderly, present, Option.map_some, Option.some.injEq,
                Prod.mk.injEq, Option.mem_def]
              constructor
              · intro found _ _ _ other same
                exact same ▸ right.mp (found connectionpid _ ⟨rfl, rfl⟩)
              · intro orderly processid sock same
                rw [← same.1, ← same.2]
                exact right.mpr (orderly child connectionpid rfl copy rfl)

/-- An event is as it should be exactly if it is orderly. -/
theorem registers_iff (sound : watched.Sound) (event : RegistryEvent) :
    watched.Registers event ↔ watched.Orderly event := by
  constructor
  · intro registers
    have once := (step_once_iff sound event).mp registers.once
    have found := (lookup_iff sound event).mp registers.found
    cases event with
    | registerHandoff processid =>
        cases processid with
        | none => trivial
        | some processid => exact once processid rfl
    | deRegisterHandoff processid => trivial
    | fixup processid => trivial
    | forkChild => trivial
    | findMatchingSocket child connectionpid =>
        cases child with
        | none => trivial
        | some child => exact found child connectionpid rfl
  · intro orderly
    constructor
    · exact (step_once_iff sound event).mpr fun _ _ => orderly
    · exact (step_list sound event).2
    · exact (lookup_iff sound event).mpr fun _ _ _ => orderly

theorem sound_step (sound : watched.Sound) {event : RegistryEvent}
    (orderly : watched.Orderly event) : (watched.step event).Sound := by
  have list := step_list sound event
  have once := (step_once_iff sound event).mpr fun _ _ => orderly
  refine ⟨list.1, once, list.2, ?_, ?_⟩
  · intro processid sock found
    cases event with
    | registerHandoff changed =>
        cases changed with
        | none => exact Nat.lt_succ_of_lt (sound.earlier processid sock found)
        | some changed =>
            simp only [step] at found
            split at found
            · cases found
              exact Nat.lt_succ_self _
            · exact Nat.lt_succ_of_lt (sound.earlier processid sock found)
    | deRegisterHandoff changed =>
        cases changed with
        | none => exact sound.earlier processid sock found
        | some changed =>
            simp only [step] at found
            split at found
            · cases found
            · exact sound.earlier processid sock found
    | fixup processid' => exact sound.earlier processid sock found
    | forkChild => exact sound.earlier processid sock found
    | findMatchingSocket child connectionpid =>
        cases child with
        | none => exact sound.earlier processid sock found
        | some child => exact sound.earlier processid sock found
  · intro copy member
    cases event with
    | registerHandoff changed =>
        cases changed with
        | none => exact (sound.copies copy member).later
        | some changed =>
            obtain ⟨before, inside, rfl⟩ := List.mem_map.mp member
            apply ((sound.copies before inside).sees _ _).later
            · intro other differs
              exact if_neg differs
            · intro sock found
              simp only [step, if_true, Option.some.injEq] at found
              exact Nat.le_of_eq found
    | deRegisterHandoff changed =>
        cases changed with
        | none => exact sound.copies copy member
        | some changed =>
            obtain ⟨before, inside, rfl⟩ := List.mem_map.mp member
            apply (sound.copies before inside).sees
            · intro other differs
              exact if_neg differs
            · intro sock found
              simp [step] at found
    | fixup processid => exact sound.copies copy member
    | forkChild =>
        cases List.mem_append.mp member with
        | inl before => exact sound.copies copy before
        | inr forked =>
            rw [List.mem_singleton.mp forked]
            exact sound.fork
    | findMatchingSocket child connectionpid =>
        cases child with
        | none => exact sound.copies copy member
        | some child =>
            have same : (watched.registry.step
                (.findMatchingSocket (some child) connectionpid)).children =
                  watched.registry.children := by
              apply List.ext_getElem?
              intro index
              simp only [Registry.step, List.getElem?_modify]
              cases present : watched.registry.children[index]? with
              | none => simp
              | some before =>
                  have whole := (sound.copies before (List.mem_of_getElem? present)).whole
                  simp [invalidated_of_whole whole]
            simp only [step, same] at member
            exact sound.copies copy member

/-- In a run every event is as it should be exactly if every event is orderly. -/
theorem registers_along_iff (maxconnections : Nat) (events : List RegistryEvent) :
    Along step Registers (start maxconnections) events ↔
      Along step Orderly (start maxconnections) events :=
  Along.iff_guard (fun _ _ sound orderly => sound_step sound orderly)
    (fun _ event sound => registers_iff sound event) (sound_start maxconnections)

/-- Two connections register, the first one deregisters, and the second one registers again. -/
theorem registers_second_twice :
    ¬∀ maxconnections events, Along step Registers (start maxconnections) events := by
  intro every
  have run := every 2 [.registerHandoff (some ⟨1, by decide⟩),
    .registerHandoff (some ⟨2, by decide⟩), .deRegisterHandoff (some ⟨1, by decide⟩),
    .registerHandoff (some ⟨2, by decide⟩)]
  exact absurd run.2.2.2.1.once (by decide)

end WatchedRegistry

end SqlRelay.Handoff
