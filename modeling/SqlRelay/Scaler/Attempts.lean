import Mathlib.Data.Nat.Find
import SqlRelay.Scaler.Pool

/-!
# Failed attempts to open connections

The loop in which `openMoreConnections` tries to start one connection after the other.  Databases
that are down and connections that do not come up count as attempts, of which there are only so many;
processes that cannot be spawned do not.
-/

namespace SqlRelay.Scaler

/-! ## The source -/

/-- What `availableDatabase`, `openOneConnection` and `connectionStarted` return in a pass of the inner
loop, where they are called. -/
structure Answers where
  available : Bool
  spawned : Bool
  started : Bool
  deriving DecidableEq, Repr

/-- What comes of a pass. -/
inductive Attempt where
  | unavailable
  | spawnFails
  | startFails
  | started
  deriving DecidableEq, Repr

/-- If no connections are open, the database is not asked for. -/
def Answers.attempt (answers : Answers) (currentconnections : Nat) : Attempt :=
  if currentconnections ≠ 0 ∧ answers.available = false then .unavailable
  else if answers.spawned = false then .spawnFails
  else if answers.started = false then .startFails
  else .started

/-- A connection that the loop is done with. -/
structure Tried where
  failed : Nat
  opened : Bool
  deriving DecidableEq, Repr

/-- The variables of the loop, how often the connection that it is at has failed, and the connections
before that, the last one first. -/
structure Loop where
  i : UInt32
  attempts : Nat
  failed : Nat
  tried : List Tried
  returned : Bool
  deriving DecidableEq, Repr

namespace Loop

/-- The inner loop is left, and the outer one goes on with its next connection. -/
def leave (opencount : UInt32) (loop : Loop) (i : UInt32) (tried : Tried) : Loop :=
  ⟨i + 1, 0, 0, tried :: loop.tried, decide (opencount ≤ i + 1)⟩

/-- A pass without a connection; after too many that count `i` becomes `opencount`. -/
def fail (opencount : UInt32) (loop : Loop) (counts : Nat) : Loop :=
  if loop.attempts + counts = startAttempts then
    loop.leave opencount opencount ⟨loop.failed + 1, false⟩
  else { loop with attempts := loop.attempts + counts, failed := loop.failed + 1 }

/-- A pass of the inner loop. -/
def pass (opencount : UInt32) (loop : Loop) (attempt : Attempt) : Loop :=
  if loop.returned then loop
  else
    match attempt with
    | .unavailable => loop.fail opencount 1
    | .spawnFails => loop.fail opencount 0
    | .startFails => loop.fail opencount 1
    | .started =>
        let i := if loop.attempts = startAttempts then opencount else loop.i
        loop.leave opencount i ⟨loop.failed, true⟩

def start (opencount : UInt32) : Loop := ⟨0, 0, 0, [], decide (opencount ≤ 0)⟩

/-- So many passes, from a position of the attempts on. -/
def run (opencount : UInt32) (attempt : Nat → Attempt) (loop : Loop) (position : Nat) : Nat → Loop
  | 0 => loop
  | passes + 1 => (run opencount attempt loop position passes).pass opencount
      (attempt (position + passes))

end Loop

/-- A call of `openMoreConnections` after so many passes. -/
def openMoreConnections (config : Config) (connectedclients currentconnections : Nat)
    (answers : Nat → Answers) (passes : Nat) : Loop :=
  let opencount := UInt32.ofNat (openCount config connectedclients currentconnections)
  (Loop.start opencount).run opencount (fun pass => (answers pass).attempt currentconnections) 0
    passes

/-! ## What is meant -/

/-- No connection has failed more often than it may, and only the last one may not have been opened. -/
structure Limited (tried : List Tried) : Prop where
  few : ∀ connection ∈ tried, connection.failed ≤ startAttempts
  opened : ∀ connection ∈ tried.tail, connection.opened = true

/-- The call returns, and has kept to the limit. -/
def Ends (opencount : UInt32) (attempt : Nat → Attempt) (loop : Loop) (position : Nat) : Prop :=
  ∃ passes, (loop.run opencount attempt position passes).returned = true ∧
    Limited (loop.run opencount attempt position passes).tried

/-- The failures that count. -/
def Attempt.counts : Attempt → Bool
  | .unavailable => true
  | .startFails => true
  | _ => false

/-- All attempts that there may be fail, and none of them because a process cannot be spawned. -/
def GivesUp (attempt : Nat → Attempt) (position : Nat) : Prop :=
  ∀ pass < startAttempts, (attempt (position + pass)).counts = true

/-- For each of the connections that are to be opened, one after the other: all attempts fail without
a failed spawn, which is the end, unless there are as many connections as a `uint32_t` can say; or
one of them, or the one after them, starts the connection. -/
def WithinLimit (opencount : UInt32) (attempt : Nat → Attempt) : Nat → Nat → Prop
  | 0, _ => True
  | others + 1, position =>
      GivesUp attempt position ∧ opencount ≠ 4294967295 ∨
        ¬GivesUp attempt position ∧ ∃ pass ≤ startAttempts,
          attempt (position + pass) = .started ∧
            (∀ earlier < pass, attempt (position + earlier) ≠ .started) ∧
            WithinLimit opencount attempt others (position + pass + 1)

/-! ## Passes -/

section Passes

variable {opencount : UInt32} {attempt : Nat → Attempt} {loop : Loop} {position : Nat}

theorem pass_returned (returned : loop.returned = true) (one : Attempt) :
    loop.pass opencount one = loop := by
  simp [Loop.pass, returned]

theorem run_returned (returned : loop.returned = true) (passes : Nat) :
    loop.run opencount attempt position passes = loop := by
  induction passes with
  | zero => rfl
  | succ passes ih => rw [Loop.run, ih, pass_returned returned]

theorem run_add (first passes : Nat) :
    loop.run opencount attempt position (first + passes) =
      (loop.run opencount attempt position first).run opencount attempt (position + first)
        passes := by
  induction passes with
  | zero => rfl
  | succ passes ih => rw [← Nat.add_assoc, Loop.run, Loop.run, ih, Nat.add_assoc position]

/-- Whether a call ends as it should does not depend on how far it is. -/
theorem ends_run_iff (passes : Nat) :
    Ends opencount attempt loop position ↔
      Ends opencount attempt (loop.run opencount attempt position passes) (position + passes) := by
  constructor
  · intro ends
    obtain ⟨enough, returned, limited⟩ := ends
    by_cases few : enough ≤ passes
    · obtain ⟨more, rfl⟩ := Nat.exists_eq_add_of_le few
      refine ⟨0, ?_⟩
      rw [Loop.run, run_add, run_returned returned]
      exact ⟨returned, limited⟩
    · obtain ⟨more, rfl⟩ := Nat.exists_eq_add_of_le (Nat.le_of_not_le few)
      refine ⟨more, ?_⟩
      rw [← run_add]
      exact ⟨returned, limited⟩
  · intro ends
    obtain ⟨more, returned, limited⟩ := ends
    refine ⟨passes + more, ?_⟩
    rw [run_add]
    exact ⟨returned, limited⟩

/-- The loop has failed so many times more with its connection, of which so many count. -/
def Loop.failMore (loop : Loop) (counts fails : Nat) : Loop :=
  { loop with attempts := loop.attempts + counts, failed := loop.failed + fails }

theorem fail_eq (counts : Nat) : loop.fail opencount counts =
    if loop.attempts + counts = startAttempts then
      loop.leave opencount opencount ⟨loop.failed + 1, false⟩
    else loop.failMore counts 1 :=
  rfl

theorem pass_of_counts (running : loop.returned = false) {one : Attempt} (fails : one ≠ .started) :
    loop.pass opencount one = loop.fail opencount (if one.counts then 1 else 0) := by
  cases one with
  | started => exact absurd rfl fails
  | _ => simp [Loop.pass, running, Attempt.counts]

/-- A pass is the last one for its connection, or one more that fails. -/
theorem pass_cases (running : loop.returned = false) (one : Attempt) :
    (∃ i failed opened, loop.failed ≤ failed ∧
        loop.pass opencount one = loop.leave opencount i ⟨failed, opened⟩) ∨
      ∃ counts, loop.pass opencount one = loop.failMore counts 1 := by
  by_cases starts : one = .started
  · apply Or.inl
    subst starts
    exact ⟨_, _, _, Nat.le_refl _, by simp [Loop.pass, running]; rfl⟩
  · rw [pass_of_counts running starts, fail_eq]
    generalize (if one.counts then 1 else 0) = counts
    split
    case isTrue => exact Or.inl ⟨_, _, _, Nat.le_add_right _ 1, rfl⟩
    case isFalse => exact Or.inr ⟨_, rfl⟩

/-- The call has failed too often with a connection, or has gone on after one that it gave up. -/
inductive Exceeds (loop : Loop) : Prop where
  | failing (running : loop.returned = false) (many : startAttempts < loop.failed)
  | failed {connection : Tried} (member : connection ∈ loop.tried)
      (many : startAttempts < connection.failed)
  | goesOn {connection : Tried} (running : loop.returned = false)
      (member : connection ∈ loop.tried) (unopened : connection.opened = false)
  | wentOn {connection : Tried} (member : connection ∈ loop.tried.tail)
      (unopened : connection.opened = false)

theorem Exceeds.pass (exceeds : Exceeds loop) (one : Attempt) :
    Exceeds (loop.pass opencount one) := by
  cases running : loop.returned with
  | true =>
      rw [pass_returned running]
      exact exceeds
  | false =>
      rcases pass_cases running one with ⟨i, failed, opened, more, same⟩ | ⟨counts, same⟩
      · rw [same]
        cases exceeds with
        | failing _ many => exact .failed List.mem_cons_self (Nat.lt_of_lt_of_le many more)
        | failed member many => exact .failed (List.mem_cons_of_mem _ member) many
        | goesOn _ member unopened => exact .wentOn member unopened
        | wentOn member unopened => exact .wentOn (List.mem_of_mem_tail member) unopened
      · rw [same]
        cases exceeds with
        | failing _ many => exact .failing running (Nat.lt_succ_of_lt many)
        | failed member many => exact .failed member many
        | goesOn _ member unopened => exact .goesOn running member unopened
        | wentOn member unopened => exact .wentOn member unopened

theorem exceeds_fail (running : loop.returned = false) (many : loop.failed = startAttempts)
    (counts : Nat) : Exceeds (loop.fail opencount counts) := by
  have over_ : startAttempts < loop.failed + 1 := by omega
  rw [fail_eq]
  split
  case isTrue => exact .failed List.mem_cons_self over_
  case isFalse => exact .failing running over_

theorem Exceeds.run (exceeds : Exceeds loop) (passes : Nat) :
    Exceeds (loop.run opencount attempt position passes) := by
  induction passes with
  | zero => exact exceeds
  | succ passes ih => exact ih.pass _

theorem Exceeds.not_ends (exceeds : Exceeds loop) : ¬Ends opencount attempt loop position := by
  intro ends
  obtain ⟨passes, returned, limited⟩ := ends
  have after := @Exceeds.run opencount attempt loop position exceeds passes
  cases after with
  | failing running many =>
      rw [returned] at running
      cases running
  | failed member many => exact absurd (limited.few _ member) (Nat.not_le.mpr many)
  | goesOn running member unopened =>
      rw [returned] at running
      cases running
  | wentOn member unopened =>
      rw [limited.opened _ member] at unopened
      cases unopened

/-! ## One connection -/

/-- How many of the attempts count. -/
def counted (attempt : Nat → Attempt) (position : Nat) : Nat → Nat
  | 0 => 0
  | passes + 1 => counted attempt position passes +
      if (attempt (position + passes)).counts then 1 else 0

theorem counted_le (passes : Nat) : counted attempt position passes ≤ passes := by
  induction passes with
  | zero => exact Nat.le_refl 0
  | succ passes ih =>
      rw [counted]
      split
      · exact Nat.succ_le_succ ih
      · exact Nat.le_succ_of_le ih

theorem counted_eq_iff (passes : Nat) : counted attempt position passes = passes ↔
    ∀ pass < passes, (attempt (position + pass)).counts = true := by
  induction passes with
  | zero => simp [counted]
  | succ passes ih =>
      have most := @counted_le attempt position passes
      rw [Nat.forall_lt_succ_right, ← ih, counted]
      split
      case isTrue counts => simp [counts]
      case isFalse counts =>
        apply iff_of_false
        · omega
        · exact fun all => counts all.2

theorem givesUp_iff : GivesUp attempt position ↔ counted attempt position startAttempts =
    startAttempts :=
  (counted_eq_iff startAttempts).symm

/-- As long as too few attempts count and none starts the connection, the loop stays with it. -/
theorem run_failing (running : loop.returned = false) {passes : Nat}
    (fails : ∀ pass < passes, attempt (position + pass) ≠ .started)
    (few : loop.attempts + counted attempt position passes < startAttempts) :
    loop.run opencount attempt position passes =
      loop.failMore (counted attempt position passes) passes := by
  induction passes with
  | zero => rfl
  | succ passes ih =>
      rw [counted] at few
      have before := ih (fun pass earlier => fails pass (Nat.lt_succ_of_lt earlier)) (by omega)
      have goesOn : ¬(loop.failMore (counted attempt position passes) passes).attempts +
          (if (attempt (position + passes)).counts then 1 else 0) = startAttempts := by
        rw [Loop.failMore]
        dsimp only
        omega
      have stillRunning : (loop.failMore (counted attempt position passes) passes).returned = false :=
        running
      rw [Loop.run, before, pass_of_counts stillRunning (fails passes (Nat.lt_succ_self passes)),
        fail_eq, if_neg goesOn, counted]
      simp [Loop.failMore, Nat.add_assoc]

theorem run_started (running : loop.returned = false) {passes : Nat}
    (fails : ∀ pass < passes, attempt (position + pass) ≠ .started)
    (few : loop.attempts + counted attempt position passes < startAttempts)
    (starts : attempt (position + passes) = .started) :
    loop.run opencount attempt position (passes + 1) =
      loop.leave opencount loop.i ⟨loop.failed + passes, true⟩ := by
  have notLast : loop.attempts + counted attempt position passes ≠ startAttempts := Nat.ne_of_lt few
  rw [Loop.run, run_failing running fails few, starts]
  simp [Loop.pass, Loop.failMore, running, notLast, Loop.leave]

/-- A loop that begins with a connection. -/
structure Begins (loop : Loop) : Prop where
  running : loop.returned = false
  attempts : loop.attempts = 0
  failed : loop.failed = 0

theorem run_givesUp (begins : Begins loop) (givesUp : GivesUp attempt position) :
    loop.run opencount attempt position startAttempts =
      loop.leave opencount opencount ⟨startAttempts, false⟩ := by
  have fails : ∀ pass < startAttempts, attempt (position + pass) ≠ .started := by
    intro pass before starts
    have counts := givesUp pass before
    rw [starts] at counts
    cases counts
  have four : counted attempt position 4 = 4 :=
    (counted_eq_iff 4).mpr fun pass before => givesUp pass (Nat.lt_succ_of_lt before)
  have last : (attempt (position + 4)).counts = true := givesUp 4 (by decide)
  have before := @run_failing opencount attempt loop position begins.running 4
    (fun pass earlier => fails pass (Nat.lt_succ_of_lt earlier))
    (by rw [four, begins.attempts]; decide)
  have running : (loop.failMore (counted attempt position 4) 4).returned = false := begins.running
  change loop.run opencount attempt position (4 + 1) = _
  rw [Loop.run, before, pass_of_counts running (fails 4 (by decide)), Loop.fail, if_pos]
  · simp [Loop.failMore, begins.failed, Loop.leave, startAttempts]
  · simp [Loop.failMore, four, begins.attempts, last, startAttempts]

/-- A connection that is not given up has one attempt left when the first ones are made. -/
theorem Begins.counted_lt (begins : Begins loop) (goesOn : ¬GivesUp attempt position) {passes : Nat}
    (fits : passes ≤ startAttempts) :
    loop.attempts + counted attempt position passes < startAttempts := by
  have most := @counted_le attempt position passes
  rw [begins.attempts]
  rcases Nat.lt_or_eq_of_le fits with fewer | all
  · omega
  · subst all
    rw [givesUp_iff] at goesOn
    omega

/-- If a spawn has failed, one attempt too many can be made. -/
theorem exceeds_of_noStart (begins : Begins loop) (goesOn : ¬GivesUp attempt position)
    (fails : ∀ pass ≤ startAttempts, attempt (position + pass) ≠ .started) :
    Exceeds (loop.run opencount attempt position (startAttempts + 1)) := by
  have few : loop.attempts + counted attempt position startAttempts < startAttempts :=
    begins.counted_lt goesOn (Nat.le_refl _)
  have before := @run_failing opencount attempt loop position begins.running startAttempts
    (fun pass earlier => fails pass (Nat.le_of_lt earlier)) few
  have running : (loop.failMore (counted attempt position startAttempts) startAttempts).returned =
      false := begins.running
  have many : (loop.failMore (counted attempt position startAttempts) startAttempts).failed =
      startAttempts := by
    rw [Loop.failMore, begins.failed]
    exact Nat.zero_add startAttempts
  rw [Loop.run, before, pass_of_counts running (fails startAttempts (Nat.le_refl _))]
  exact exceeds_fail running many _

/-! ## All connections -/

/-- The loop begins with a connection, and has opened all those before it within the limit. -/
structure Orderly (opencount : UInt32) (others : Nat) (loop : Loop) : Prop extends Begins loop where
  left : loop.i.toNat + others + 1 = opencount.toNat
  limited : ∀ connection ∈ loop.tried, connection.failed ≤ startAttempts ∧ connection.opened = true

theorem Orderly.limited_cons {others : Nat} (orderly : Orderly opencount others loop)
    {connection : Tried} (few : connection.failed ≤ startAttempts) :
    Limited (connection :: loop.tried) where
  few := by
    intro other member
    cases member with
    | head => exact few
    | tail _ member => exact (orderly.limited other member).1
  opened := fun other member => (orderly.limited other member).2

/-- The end of a call that gives a connection up. -/
theorem ends_givesUp_iff {others : Nat} (orderly : Orderly opencount others loop) :
    Ends opencount attempt (loop.leave opencount opencount ⟨startAttempts, false⟩) position ↔
      opencount ≠ 4294967295 := by
  constructor
  · intro ends last
    have running : (loop.leave opencount opencount ⟨startAttempts, false⟩).returned = false := by
      subst last
      rfl
    exact (Exceeds.goesOn running List.mem_cons_self rfl).not_ends ends
  · intro notLast
    refine ⟨0, ?_, orderly.limited_cons (Nat.le_refl _)⟩
    have below : opencount.toNat ≠ 4294967295 := by
      intro last
      exact notLast (UInt32.toNat_inj.mp last)
    have fits := opencount.toNat_lt
    have next : (opencount + 1).toNat = opencount.toNat + 1 := by
      rw [UInt32.toNat_add]
      change (opencount.toNat + 1) % 2 ^ 32 = _
      omega
    have after : opencount ≤ opencount + 1 := by
      rw [UInt32.le_iff_toNat_le, next]
      omega
    simpa [Loop.run, Loop.leave] using after

theorem Orderly.next {others : Nat} (orderly : Orderly opencount others loop) :
    (loop.i + 1).toNat = loop.i.toNat + 1 := by
  have left := orderly.left
  have fits := opencount.toNat_lt
  rw [UInt32.toNat_add]
  change (loop.i.toNat + 1) % 2 ^ 32 = _
  omega

/-- What comes after a connection that was opened. -/
theorem orderly_leave {others failed : Nat} (orderly : Orderly opencount (others + 1) loop)
    (few : failed ≤ startAttempts) :
    Orderly opencount others (loop.leave opencount loop.i ⟨failed, true⟩) := by
  have left := orderly.left
  have next := orderly.next
  have more : ¬opencount ≤ loop.i + 1 := by
    rw [UInt32.le_iff_toNat_le, next]
    omega
  constructor
  · exact ⟨by simp [Loop.leave] at more ⊢; simpa using more, rfl, rfl⟩
  · change (loop.i + 1).toNat + others + 1 = opencount.toNat
    omega
  · intro connection member
    cases member with
    | head => exact ⟨few, rfl⟩
    | tail _ member => exact orderly.limited connection member

/-- Opening the last connection is the end. -/
theorem ends_leave_last {failed : Nat} (orderly : Orderly opencount 0 loop)
    (few : failed ≤ startAttempts) :
    Ends opencount attempt (loop.leave opencount loop.i ⟨failed, true⟩) position := by
  refine ⟨0, ?_, orderly.limited_cons few⟩
  have left := orderly.left
  have last : opencount ≤ loop.i + 1 := by
    rw [UInt32.le_iff_toNat_le, orderly.next]
    omega
  simpa [Loop.run, Loop.leave] using last

/-- The first of the attempts that starts the connection. -/
theorem exists_first (starts : ∃ pass ≤ startAttempts, attempt (position + pass) = .started) :
    ∃ pass ≤ startAttempts, attempt (position + pass) = .started ∧
      ∀ earlier < pass, attempt (position + earlier) ≠ .started := by
  obtain ⟨some_, fits, started⟩ := starts
  have found : ∃ pass, attempt (position + pass) = .started := ⟨some_, started⟩
  refine ⟨Nat.find found, Nat.le_trans (Nat.find_min' found started) fits, Nat.find_spec found, ?_⟩
  exact fun earlier before => Nat.find_min found before

/-- One connection, and whatever comes after it. -/
theorem ends_connection_iff {others : Nat} (orderly : Orderly opencount others loop)
    {later : Nat → Prop}
    (goesOn : ∀ failed ≤ startAttempts, ∀ position,
      Ends opencount attempt (loop.leave opencount loop.i ⟨failed, true⟩) position ↔ later position) :
    Ends opencount attempt loop position ↔
      GivesUp attempt position ∧ opencount ≠ 4294967295 ∨
        ¬GivesUp attempt position ∧ ∃ pass ≤ startAttempts,
          attempt (position + pass) = .started ∧
            (∀ earlier < pass, attempt (position + earlier) ≠ .started) ∧
            later (position + pass + 1) := by
  have begins : Begins loop := orderly.toBegins
  by_cases givesUp : GivesUp attempt position
  case pos =>
    rw [ends_run_iff startAttempts, run_givesUp begins givesUp, ends_givesUp_iff orderly]
    simp [givesUp]
  case neg =>
    rw [and_iff_right givesUp, or_iff_right (fun given => givesUp given.1)]
    by_cases starts : ∃ pass ≤ startAttempts, attempt (position + pass) = .started
    case pos =>
      obtain ⟨pass, fits, started, fails⟩ := exists_first starts
      have few : loop.attempts + counted attempt position pass < startAttempts :=
        begins.counted_lt givesUp fits
      rw [ends_run_iff (pass + 1), run_started begins.running fails few started,
        goesOn _ (by rw [begins.failed]; omega), ← Nat.add_assoc]
      constructor
      · intro isLater
        exact ⟨pass, fits, started, fails, isLater⟩
      · intro met
        obtain ⟨other, _, otherStarted, otherFails, isLater⟩ := met
        have same : other = pass := by
          apply Nat.le_antisymm
          · exact Nat.not_lt.mp fun later => otherFails pass later started
          · exact Nat.not_lt.mp fun later => fails other later otherStarted
        rw [← same]
        exact isLater
    case neg =>
      apply iff_of_false
      · intro ends
        rw [ends_run_iff (startAttempts + 1)] at ends
        apply (exceeds_of_noStart begins givesUp _).not_ends ends
        intro pass fits started
        exact starts ⟨pass, fits, started⟩
      · intro met
        obtain ⟨pass, fits, started, _⟩ := met
        exact starts ⟨pass, fits, started⟩

theorem ends_iff {others : Nat} (orderly : Orderly opencount others loop) :
    Ends opencount attempt loop position ↔
      WithinLimit opencount attempt (others + 1) position := by
  induction others generalizing loop position with
  | zero =>
      apply ends_connection_iff orderly
      intro failed few position
      exact iff_of_true (ends_leave_last orderly few) trivial
  | succ others ih =>
      apply ends_connection_iff orderly
      intro failed few position
      exact ih (orderly_leave orderly few)

end Passes

/-! ## A call -/

section Calls

variable (config : Config) (connectedclients currentconnections : Nat) (answers : Nat → Answers)

/-- The call returns, no connection has failed more than `startAttempts` times, and there are none
after one that was given up. -/
def AttemptsBounded : Prop :=
  ∃ passes,
    (openMoreConnections config connectedclients currentconnections answers passes).returned = true ∧
      Limited (openMoreConnections config connectedclients currentconnections answers passes).tried

theorem orderly_start {opencount : UInt32} {others : Nat} (more : opencount.toNat = others + 1) :
    Orderly opencount others (Loop.start opencount) := by
  have running : ¬opencount ≤ 0 := by
    rw [UInt32.le_iff_toNat_le, more]
    exact Nat.not_succ_le_zero others
  constructor
  · exact ⟨decide_eq_false running, rfl, rfl⟩
  · change 0 + others + 1 = opencount.toNat
    omega
  · intro connection member
    cases member

/-- A call keeps to the limit and returns exactly if each connection in turn starts within the limit,
or uses its attempts up without a failed spawn. -/
theorem attemptsBounded_iff :
    AttemptsBounded config connectedclients currentconnections answers ↔
      WithinLimit (UInt32.ofNat (openCount config connectedclients currentconnections))
        (fun pass => (answers pass).attempt currentconnections)
        (UInt32.ofNat (openCount config connectedclients currentconnections)).toNat 0 := by
  change Ends (UInt32.ofNat (openCount config connectedclients currentconnections))
    (fun pass => (answers pass).attempt currentconnections)
    (Loop.start (UInt32.ofNat (openCount config connectedclients currentconnections))) 0 ↔ _
  generalize UInt32.ofNat (openCount config connectedclients currentconnections) = opencount
  cases more : opencount.toNat with
  | zero =>
      have nothing : opencount = 0 := UInt32.toNat_inj.mp more
      subst nothing
      apply iff_of_true _ trivial
      exact ⟨0, rfl, Limited.mk (fun _ member => by cases member) (fun _ member => by cases member)⟩
  | succ others => exact ends_iff (orderly_start more)

end Calls

/-- The first connection of a pool of one. -/
def oneConnection : Config := ⟨1, 1, 0, 1, Nat.le_refl 1⟩

theorem run_spawnFails (passes : Nat) :
    (Loop.start 1).run 1 (fun _ => .spawnFails) 0 passes = ⟨0, 0, passes, [], false⟩ := by
  induction passes with
  | zero => rfl
  | succ passes ih =>
      rw [Loop.run, ih]
      rfl

/-- If processes can never be spawned, the call does not return. -/
theorem spawnFails_forever :
    ¬∀ (config : Config) (connectedclients currentconnections : Nat) (answers : Nat → Answers),
      AttemptsBounded config connectedclients currentconnections answers := by
  intro every
  have bounded := every oneConnection 0 0 (fun _ => ⟨true, false, false⟩)
  obtain ⟨passes, returned, _⟩ := bounded
  have one : openCount oneConnection 0 0 = 1 := by decide
  have stays : (openMoreConnections oneConnection 0 0 (fun _ => ⟨true, false, false⟩)
      passes).returned = false := by
    rw [openMoreConnections, one]
    exact congrArg Loop.returned (run_spawnFails passes)
  rw [stays] at returned
  cases returned

end SqlRelay.Scaler
