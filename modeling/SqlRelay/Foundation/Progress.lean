import SqlRelay.Foundation.Run

/-!
# Stages that may stop

A function that works through stages, each of which may give up, is modelled by
what it leaves: what it did to the outside so far, its state, and whether it goes
on.  What holds of every event of a sequence of stages follows from what holds of
each stage where it is reached.
-/

namespace SqlRelay.Foundation

universe u v w

variable {State : Type u} {Event : Type v} {Seen : Type w}

/-- What a stage leaves; `ok` is what it returns. -/
structure Progress (State : Type u) (Event : Type v) where
  events : List Event
  state : State
  ok : Bool

namespace Progress

/-- A stage with nothing to do. -/
def pass (state : State) : Progress State Event := ⟨[], state, true⟩

/-- A stage that gives up. -/
def stop (state : State) : Progress State Event := ⟨[], state, false⟩

/-- The next stage, unless this one gave up. -/
def andThen (progress : Progress State Event) (next : State → Progress State Event) :
    Progress State Event :=
  if progress.ok then
    { next progress.state with events := progress.events ++ (next progress.state).events }
  else progress

variable {progress : Progress State Event} {next : State → Progress State Event}

theorem andThen_of_ok (ok : progress.ok = true) :
    progress.andThen next =
      { next progress.state with events := progress.events ++ (next progress.state).events } := by
  rw [andThen, if_pos ok]

theorem andThen_of_not_ok (stopped : progress.ok = false) : progress.andThen next = progress := by
  simp [andThen, stopped]

@[simp] theorem pass_andThen (state : State) : (pass state).andThen next = next state := by
  simp [andThen, pass]

@[simp] theorem stop_andThen (state : State) : (stop state).andThen next = stop state := by
  simp [andThen, stop]

@[simp] theorem pass_ok (state : State) : (pass state : Progress State Event).ok = true := rfl
@[simp] theorem pass_state (state : State) : (pass state : Progress State Event).state = state :=
  rfl
@[simp] theorem pass_events (state : State) : (pass state : Progress State Event).events = [] := rfl
@[simp] theorem stop_ok (state : State) : (stop state : Progress State Event).ok = false := rfl
@[simp] theorem stop_state (state : State) : (stop state : Progress State Event).state = state :=
  rfl
@[simp] theorem stop_events (state : State) : (stop state : Progress State Event).events = [] := rfl

theorem andThen_ok : (progress.andThen next).ok = (progress.ok && (next progress.state).ok) := by
  rw [andThen]
  split <;> simp_all

theorem andThen_assoc {later : State → Progress State Event} :
    (progress.andThen next).andThen later = progress.andThen fun state => (next state).andThen later := by
  cases ok : progress.ok with
  | false => simp [andThen, ok]
  | true =>
      simp only [andThen, ok, if_true]
      split
      · simp
      · rfl

/-- What comes next matters where it is reached. -/
theorem andThen_congr {other : State → Progress State Event}
    (same : progress.ok = true → next progress.state = other progress.state) :
    progress.andThen next = progress.andThen other := by
  cases ok : progress.ok with
  | false => rw [andThen_of_not_ok ok, andThen_of_not_ok ok]
  | true => rw [andThen_of_ok ok, andThen_of_ok ok, same ok]

/-- After what was done before it. -/
def prepend (earlier : List Event) (progress : Progress State Event) : Progress State Event :=
  { progress with events := earlier ++ progress.events }

@[simp] theorem prepend_nil : progress.prepend [] = progress := rfl

@[simp] theorem prepend_prepend (first second : List Event) :
    (progress.prepend second).prepend first = progress.prepend (first ++ second) := by
  simp [prepend]

@[simp] theorem prepend_state (earlier : List Event) :
    (progress.prepend earlier).state = progress.state := rfl
@[simp] theorem prepend_ok (earlier : List Event) : (progress.prepend earlier).ok = progress.ok :=
  rfl
@[simp] theorem prepend_events (earlier : List Event) :
    (progress.prepend earlier).events = earlier ++ progress.events := rfl

theorem prepend_andThen (earlier : List Event) :
    (progress.prepend earlier).andThen next = (progress.andThen next).prepend earlier := by
  cases ok : progress.ok <;> simp [andThen, prepend, ok]

@[simp] theorem mk_true_andThen (events : List Event) (state : State) :
    (Progress.mk events state true).andThen next = (next state).prepend events := by
  simp [andThen, prepend]

/-- The same stage on another reading of the state. -/
def map (change : State → State) (progress : Progress State Event) : Progress State Event :=
  { progress with state := change progress.state }

@[simp] theorem map_pass (change : State → State) (state : State) :
    (pass state : Progress State Event).map change = pass (change state) := rfl
@[simp] theorem map_stop (change : State → State) (state : State) :
    (stop state : Progress State Event).map change = stop (change state) := rfl

/-- A change that the next stage does not notice can be made after it. -/
theorem map_andThen {change : State → State}
    (unnoticed : ∀ state, next (change state) = (next state).map change) :
    (progress.map change).andThen next = (progress.andThen next).map change := by
  cases ok : progress.ok <;> simp [andThen, map, ok, unnoticed]

/-- If it goes on, then in such a state. -/
def GoesOnIn (good : State → Prop) (progress : Progress State Event) : Prop :=
  progress.ok = true → good progress.state

theorem goesOnIn_andThen {reached good : State → Prop} (first : progress.GoesOnIn reached)
    (later : ∀ state, reached state → (next state).GoesOnIn good) :
    (progress.andThen next).GoesOnIn good := by
  intro ok
  rw [andThen_ok, Bool.and_eq_true] at ok
  rw [andThen_of_ok ok.1]
  exact later _ (first ok.1) ok.2

theorem goesOnIn_andThen_of_next {good : State → Prop} (later : ∀ state, (next state).GoesOnIn good) :
    (progress.andThen next).GoesOnIn good := by
  have reached : progress.GoesOnIn fun _ => True := fun _ => trivial
  exact goesOnIn_andThen reached fun state _ => later state

/-- Wherever it gives up, and from wherever it goes on, it ends in a good state. -/
theorem endsIn_andThen {reached good : State → Prop} (stops : progress.ok = false → good progress.state)
    (goesOn : progress.GoesOnIn reached) (later : ∀ state, reached state → good (next state).state) :
    good (progress.andThen next).state := by
  cases ok : progress.ok with
  | true =>
      rw [andThen_of_ok ok]
      exact later _ (goesOn ok)
  | false =>
      rw [andThen_of_not_ok ok]
      exact stops ok

/-- Every event is of a kind. -/
def All (kind : Event → Prop) (progress : Progress State Event) : Prop :=
  ∀ event ∈ progress.events, kind event

/-- If it gives up, then in such a state. -/
def StopsIn (good : State → Prop) (progress : Progress State Event) : Prop :=
  progress.ok = false → good progress.state

variable {kind : Event → Prop} {good : State → Prop}

theorem all_andThen (first : progress.All kind) (later : ∀ state, (next state).All kind) :
    (progress.andThen next).All kind := by
  cases ok : progress.ok with
  | true =>
      rw [andThen_of_ok ok]
      intro event member
      rcases List.mem_append.mp member with here | there
      · exact first event here
      · exact later _ event there
  | false => rwa [andThen_of_not_ok ok]

theorem all_andThen_iff :
    (progress.andThen next).All kind ↔
      progress.All kind ∧ (progress.ok = true → (next progress.state).All kind) := by
  cases ok : progress.ok with
  | true => simp [andThen_of_ok ok, All, or_imp, forall_and]
  | false => simp [andThen_of_not_ok ok]

theorem stopsIn_andThen_iff :
    (progress.andThen next).StopsIn good ↔
      progress.StopsIn good ∧ (progress.ok = true → (next progress.state).StopsIn good) := by
  cases ok : progress.ok with
  | true => simp [andThen_of_ok ok, StopsIn, ok]
  | false => simp [andThen_of_not_ok ok]

/-- Every event is of a kind, and it ends in a good state, whether it goes on or not. -/
def Keeps (kind : Event → Prop) (good : State → Prop) (progress : Progress State Event) : Prop :=
  progress.All kind ∧ good progress.state

theorem keeps_andThen (first : progress.Keeps kind good)
    (later : ∀ state, good state → (next state).Keeps kind good) :
    (progress.andThen next).Keeps kind good := by
  cases ok : progress.ok with
  | true =>
      have ⟨events, state⟩ := later progress.state first.2
      rw [andThen_of_ok ok]
      exact ⟨List.forall_mem_append.mpr ⟨first.1, events⟩, state⟩
  | false => rwa [andThen_of_not_ok ok]

/-- A stage that ends in a good state, and another from there. -/
theorem stopsIn_andThen (kept : good progress.state)
    (later : good progress.state → (next progress.state).StopsIn good) :
    (progress.andThen next).StopsIn good :=
  stopsIn_andThen_iff.mpr ⟨fun _ => kept, fun _ => later kept⟩

/-- Every event is of a kind, and it gives up in a good state only. -/
def Safe (kind : Event → Prop) (good : State → Prop) (progress : Progress State Event) : Prop :=
  progress.All kind ∧ progress.StopsIn good

/-- A sequence of two stages is safe exactly if the first is, and the second is
where it is reached. -/
theorem safe_andThen_iff :
    (progress.andThen next).Safe kind good ↔
      progress.Safe kind good ∧ (progress.ok = true → (next progress.state).Safe kind good) := by
  rw [Safe, all_andThen_iff, stopsIn_andThen_iff, Safe, and_and_and_comm]
  apply and_congr_right
  intro _
  exact imp_and.symm

/-- Whoever sees only some of the events can't tell the one from the other, and where they go on, then in
states that are related. -/
structure Alike (sees : Event → Bool) (related : State → State → Prop)
    (progress other : Progress State Event) : Prop where
  ok : progress.ok = other.ok
  events : progress.events.filter sees = other.events.filter sees
  state : progress.ok = true → related progress.state other.state

theorem alike_andThen {sees : Event → Bool} {related after : State → State → Prop}
    {other : Progress State Event} {otherNext : State → Progress State Event}
    (first : progress.Alike sees related other)
    (later : ∀ state otherState, related state otherState →
      (next state).Alike sees after (otherNext otherState)) :
    (progress.andThen next).Alike sees after (other.andThen otherNext) := by
  cases ok : progress.ok with
  | false =>
      have otherStops := first.ok.symm.trans ok
      rw [andThen_of_not_ok ok, andThen_of_not_ok otherStops]
      exact ⟨first.ok, first.events, fun goesOn => absurd (ok.symm.trans goesOn) Bool.false_ne_true⟩
  | true =>
      have nextAlike := later _ _ (first.state ok)
      rw [andThen_of_ok ok, andThen_of_ok (first.ok.symm.trans ok)]
      refine ⟨nextAlike.ok, ?_, nextAlike.state⟩
      rw [List.filter_append, List.filter_append, first.events, nextAlike.events]

/-- Somebody watches the events: what is observed holds at each of them, and what is left of the
watcher, the state and the answer fit together. -/
def Watched (watch : Seen → Event → Seen) (observe : Seen → Event → Prop) (seen : Seen)
    (fits : Bool → Seen → State → Prop) (progress : Progress State Event) : Prop :=
  Along watch observe seen progress.events ∧
    fits progress.ok (progress.events.foldl watch seen) progress.state

variable {watch : Seen → Event → Seen} {observe : Seen → Event → Prop} {seen : Seen}
  {fits : Bool → Seen → State → Prop}

theorem watched_andThen (reached : Bool → Seen → State → Prop)
    (first : progress.Watched watch observe seen reached)
    (stops : ∀ seen state, reached false seen state → fits false seen state)
    (later : ∀ seen state, reached true seen state →
      (next state).Watched watch observe seen fits) :
    (progress.andThen next).Watched watch observe seen fits := by
  cases ok : progress.ok with
  | true =>
      have next := later _ _ (ok ▸ first.2)
      rw [andThen_of_ok ok]
      constructor
      · exact (Along.append_iff _ _ _).mpr ⟨first.1, next.1⟩
      · simpa using next.2
  | false =>
      rw [andThen_of_not_ok ok]
      constructor
      · exact first.1
      · rw [ok]
        exact stops _ _ (ok ▸ first.2)

theorem watched_pass {state : State} (already : fits true seen state) :
    (pass state : Progress State Event).Watched watch observe seen fits :=
  ⟨trivial, already⟩

@[simp] theorem safe_pass (state : State) :
    (pass state : Progress State Event).Safe kind good := by
  simp [Safe, All, StopsIn]

@[simp] theorem safe_stop (state : State) :
    (stop state : Progress State Event).Safe kind good ↔ good state := by
  simp [Safe, All, StopsIn]

@[simp] theorem all_pass (state : State) : (pass state : Progress State Event).All kind := by
  simp [All]

@[simp] theorem all_stop (state : State) : (stop state : Progress State Event).All kind := by
  simp [All]

@[simp] theorem goesOnIn_pass (state : State) :
    (pass state : Progress State Event).GoesOnIn good ↔ good state := by
  simp [GoesOnIn]

@[simp] theorem goesOnIn_stop (state : State) :
    (stop state : Progress State Event).GoesOnIn good := by
  simp [GoesOnIn]

@[simp] theorem stopsIn_pass (state : State) :
    (pass state : Progress State Event).StopsIn good := by
  simp [StopsIn]

@[simp] theorem stopsIn_stop (state : State) :
    (stop state : Progress State Event).StopsIn good ↔ good state := by
  simp [StopsIn]

end Progress

end SqlRelay.Foundation
