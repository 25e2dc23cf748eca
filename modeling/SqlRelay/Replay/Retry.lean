import Mathlib.Data.List.Infix
import SqlRelay.Foundation.CString
import SqlRelay.Foundation.Suffix

/-!
# Replaying a log

`replayCondition` and the loop of `replay`, from the replay trigger.  What the database makes
of each query that is run again is input, one execution after the other.  A transaction-scope
condition means that the database has rolled the transaction back, so after the last of them
the whole log has to be run.
-/

namespace SqlRelay.Replay

open SqlRelay.Foundation SqlRelay.Foundation.CString

/-- What a cursor says about its last error; a cursor without one says nothing. -/
structure ErrorReport where
  error : List Byte
  number : Int
  sqlstate : List Byte
  deriving DecidableEq, Repr

def ErrorReport.none : ErrorReport := ⟨[], 0, []⟩

/-- `condition_t`, with what a condition of that kind compares. -/
inductive Pattern where
  | error (text : List Byte)
  | errorcode (code : Nat)
  | sqlstate (state : List Byte)
  deriving DecidableEq, Repr

/-- `condition`, as it is configured. -/
structure Condition where
  pattern : Pattern
  replaytx : Bool
  query : Option (List Byte)
  logfile : Option (List Byte)
  deriving DecidableEq, Repr

namespace Condition

/-- The test that `replayCondition` makes for one condition. -/
def matchesReport (condition : Condition) (report : ErrorReport) : Bool :=
  let haserrorsizeornumber := report.error != [] || report.number != 0
  match condition.pattern with
  | .error text => haserrorsizeornumber && decide (text <:+: contents report.error)
  | .errorcode code => haserrorsizeornumber && report.number == code
  | .sqlstate state =>
      report.sqlstate != [] && report.sqlstate.map toLowerCase == state.map toLowerCase

/-- `writeReplayConditionToLogFile` runs a query of its own. -/
def runsLogQuery (condition : Condition) : Bool :=
  condition.logfile.isSome && condition.query.isSome

end Condition

/-- `replayCondition` -/
def replayCondition (conditions : List Condition) (report : ErrorReport) : Option Condition :=
  if report = .none then none else conditions.find? fun condition => condition.matchesReport report

/-- How a query of the log fared: whether it was prepared, and the error after its execution. -/
structure Execution where
  prepared : Bool
  report : ErrorReport
  deriving DecidableEq, Repr

/-- What is configured. -/
structure Settings where
  conditions : List Condition
  maxretries : Nat

variable {Details : Type}

/-- A query that was run again. -/
structure Attempt (Details : Type) where
  details : Details
  execution : Execution
  found : Option Condition

/-- What the loop of `replay` did; without a result it waits for the database, and `unused` is
what the database had yet to say. -/
structure Replayed (Details : Type) where
  attempts : List (Attempt Details)
  returned : Option Bool
  unused : List Execution

def Replayed.after (replayed : Replayed Details) (attempt : Attempt Details) : Replayed Details :=
  { replayed with attempts := attempt :: replayed.attempts }

/-- The retry counter has 32 bits. -/
def nextRetry (retry : Nat) : Nat := (retry + 1) % 4294967296

/-- The loop of `replay`; `current` is the log from the current query on. -/
def replayFrom (settings : Settings) (condition : Condition) (log : List Details) :
    Nat → List Details → List Execution → Replayed Details
  | _, [], unused => ⟨[], some true, unused⟩
  | _, _ :: _, [] => ⟨[], none, []⟩
  | retry, details :: later, execution :: executions =>
      if execution.prepared then
        let found := replayCondition settings.conditions execution.report
        let attempt := ⟨details, execution, found⟩
        match found with
        | none => (replayFrom settings condition log retry later executions).after attempt
        | some _ =>
            let retry := nextRetry retry
            if settings.maxretries ≠ 0 ∧ settings.maxretries < retry then
              ⟨[attempt], some false, executions⟩
            else
              let current := if condition.replaytx then log else details :: later
              (replayFrom settings condition log retry current executions).after attempt
      else ⟨[⟨details, execution, none⟩], some false, executions⟩

example (settings : Settings) (condition : Condition) (log : List Details) :
    (replayFrom settings condition log 0 [] []).returned = some true := by
  rw [replayFrom]

/-- `replay`, for the condition that the triggering query met. -/
def replay (settings : Settings) (condition : Condition) (log : List Details)
    (executions : List Execution) : Replayed Details :=
  replayFrom settings condition log 0
    (if condition.replaytx then log else log.getLast?.toList) executions

/-! ## The log is whole again -/

/-- The condition means that the transaction was rolled back. -/
def transactionScope (found : Option Condition) : Bool := found.any (·.replaytx)

/-- The attempts after the last transaction-scope condition, if the triggering query or one of
them met such a condition. -/
def afterLastRollback (condition : Condition) (attempts : List (Attempt Details)) :
    Option (List (Attempt Details)) :=
  if condition.replaytx ∨ ∃ attempt ∈ attempts, transactionScope attempt.found = true then
    some (attempts.rtakeWhile fun attempt => !transactionScope attempt.found)
  else none

/-- The queries that went through: a query that met a condition has no effect. -/
def wentThrough (attempts : List (Attempt Details)) : List Details :=
  (attempts.filter fun attempt => attempt.found.isNone).map (·.details)

/-- After the last rollback every query of the log went through, in order and once. -/
def Complete (condition : Condition) (log : List Details) (attempts : List (Attempt Details)) :
    Prop :=
  ∀ tail, afterLastRollback condition attempts = some tail → wentThrough tail = log

/-- The condition that an execution met. -/
def Settings.found (settings : Settings) (execution : Execution) : Option Condition :=
  replayCondition settings.conditions execution.report

/-- No query has to be run again that went through since the last rollback, and a rollback is
made good from the first query of the log on. -/
def StartsOver (settings : Settings) (condition : Condition) (log : List Details)
    (executions : List Execution) : Prop :=
  if condition.replaytx then
    (executions.rtakeWhile fun execution => !transactionScope (settings.found execution)).Pairwise
      fun earlier later => settings.found earlier = none → settings.found later = none
  else (∀ execution ∈ executions, transactionScope (settings.found execution) = false) ∨
    log.length = 1

section Loop

variable {settings : Settings} {condition : Condition} {log : List Details}

@[simp] theorem after_attempts (replayed : Replayed Details) (attempt : Attempt Details) :
    (replayed.after attempt).attempts = attempt :: replayed.attempts := rfl

@[simp] theorem after_returned (replayed : Replayed Details) (attempt : Attempt Details) :
    (replayed.after attempt).returned = replayed.returned := rfl

@[simp] theorem after_unused (replayed : Replayed Details) (attempt : Attempt Details) :
    (replayed.after attempt).unused = replayed.unused := rfl

/-- An execution that met no condition: the loop goes on to the next query. -/
theorem replayFrom_through {retry : Nat} {details : Details} {later : List Details}
    {execution : Execution} {executions : List Execution} (prepared : execution.prepared = true)
    (through : settings.found execution = none) :
    replayFrom settings condition log retry (details :: later) (execution :: executions) =
      (replayFrom settings condition log retry later executions).after
        ⟨details, execution, none⟩ := by
  rw [replayFrom, if_pos prepared]
  rw [Settings.found] at through
  simp only [through]

/-- An execution that met one: the loop gives up, or resumes where the condition of the
triggering query says. -/
theorem replayFrom_condition {retry : Nat} {details : Details} {later : List Details}
    {execution : Execution} {executions : List Execution} {found : Condition}
    (prepared : execution.prepared = true) (met : settings.found execution = some found)
    (returned : (replayFrom settings condition log retry (details :: later)
      (execution :: executions)).returned = some true) :
    replayFrom settings condition log retry (details :: later) (execution :: executions) =
      (replayFrom settings condition log (nextRetry retry)
        (if condition.replaytx then log else details :: later) executions).after
          ⟨details, execution, some found⟩ := by
  rw [Settings.found] at met
  rw [replayFrom, if_pos prepared] at returned ⊢
  simp only [met] at returned ⊢
  split
  case isTrue many =>
    rw [if_pos many] at returned
    simp at returned
  case isFalse => rfl

theorem replayFrom_prepared {retry : Nat} {details : Details} {later : List Details}
    {execution : Execution} {executions : List Execution}
    (returned : (replayFrom settings condition log retry (details :: later)
      (execution :: executions)).returned = some true) : execution.prepared = true := by
  by_contra unprepared
  rw [replayFrom, if_neg unprepared] at returned
  simp at returned

/-- Each execution belongs to one attempt. -/
theorem replayFrom_attempts {retry : Nat} {current : List Details} {executions : List Execution}
    (returned : (replayFrom settings condition log retry current executions).returned = some true) :
    let replayed := replayFrom settings condition log retry current executions
    replayed.attempts.map (·.execution) ++ replayed.unused = executions ∧
      ∀ attempt ∈ replayed.attempts, attempt.found = settings.found attempt.execution := by
  induction executions generalizing retry current with
  | nil =>
      cases current with
      | nil => simp [replayFrom]
      | cons details later => simp [replayFrom] at returned
  | cons execution executions ih =>
      cases current with
      | nil => simp [replayFrom]
      | cons details later =>
          have prepared := replayFrom_prepared returned
          cases met : settings.found execution with
          | none =>
              have goes := @replayFrom_through _ _ condition log retry details later _ executions
                prepared met
              rw [goes, after_returned] at returned
              obtain ⟨rest, founds⟩ := ih returned
              simp only [goes]
              simp [met, rest]
              exact fun attempt member => founds attempt member
          | some found =>
              have goes := replayFrom_condition prepared met returned
              rw [goes, after_returned] at returned
              obtain ⟨rest, founds⟩ := ih returned
              simp only [goes]
              simp [met, rest]
              exact fun attempt member => founds attempt member

/-- Only queries of the log are run. -/
theorem replayFrom_details {retry : Nat} {current : List Details} {executions : List Execution}
    (queries : ∀ details ∈ current, details ∈ log) :
    ∀ attempt ∈ (replayFrom settings condition log retry current executions).attempts,
      attempt.details ∈ log := by
  induction executions generalizing retry current with
  | nil => cases current <;> simp [replayFrom]
  | cons execution executions ih =>
      cases current with
      | nil => simp [replayFrom]
      | cons details later =>
          have first : details ∈ log := queries details List.mem_cons_self
          have rest : ∀ other ∈ later, other ∈ log := fun other member =>
            queries other (List.mem_cons_of_mem _ member)
          rw [replayFrom]
          split
          case isFalse => simpa using first
          case isTrue =>
            dsimp only
            split
            · simpa [first] using ih rest
            · split
              · simpa using first
              · split
                · simpa [first] using ih fun _ member => member
                · simpa [first] using ih queries

theorem replay_details (settings : Settings) (condition : Condition) (log : List Details)
    (executions : List Execution) :
    ∀ attempt ∈ (replay settings condition log executions).attempts, attempt.details ∈ log := by
  apply replayFrom_details
  intro details member
  split at member
  · exact member
  · exact List.mem_of_getLast? (Option.mem_toList.mp member)

/-- Without a condition the rest of the log goes through. -/
theorem replayFrom_clean {retry : Nat} {current : List Details} {executions : List Execution}
    (returned : (replayFrom settings condition log retry current executions).returned = some true)
    (clean : ∀ execution ∈ executions, settings.found execution = none) :
    let replayed := replayFrom settings condition log retry current executions
    wentThrough replayed.attempts = current ∧ ∀ attempt ∈ replayed.attempts, attempt.found = none := by
  induction executions generalizing retry current with
  | nil =>
      cases current with
      | nil => simp [replayFrom, wentThrough]
      | cons details later => simp [replayFrom] at returned
  | cons execution executions ih =>
      cases current with
      | nil => simp [replayFrom, wentThrough]
      | cons details later =>
          have goes := @replayFrom_through _ _ condition log retry details later _ executions
            (replayFrom_prepared returned) (clean execution List.mem_cons_self)
          rw [goes, after_returned] at returned
          obtain ⟨rest, allThrough⟩ := ih returned fun other member =>
            clean other (List.mem_cons_of_mem _ member)
          simp only [goes]
          refine ⟨?_, by simpa using allThrough⟩
          simpa [wentThrough] using rest

/-- In a transaction-scope replay every condition leads back to the first query. -/
theorem replayFrom_restart (scope : condition.replaytx = true) {retry : Nat}
    {current : List Details} {before : List Execution} {execution : Execution}
    {executions : List Execution} (met : settings.found execution ≠ none)
    (returned : (replayFrom settings condition log retry current
      (before ++ execution :: executions)).returned = some true)
    (used : (replayFrom settings condition log retry current
      (before ++ execution :: executions)).unused = []) :
    ∃ again front, (replayFrom settings condition log retry current
        (before ++ execution :: executions)).attempts =
          front ++ (replayFrom settings condition log again log executions).attempts ∧
      front.map (·.execution) = before ++ [execution] ∧
      (replayFrom settings condition log again log executions).returned = some true ∧
      (replayFrom settings condition log again log executions).unused = [] := by
  induction before generalizing retry current with
  | nil =>
      obtain ⟨found, met⟩ := Option.ne_none_iff_exists'.mp met
      cases current with
      | nil => simp [replayFrom] at used
      | cons details later =>
          rw [List.nil_append] at returned used ⊢
          have goes := replayFrom_condition (replayFrom_prepared returned) met returned
          rw [if_pos scope] at goes
          rw [goes] at returned used ⊢
          exact ⟨nextRetry retry, [⟨details, execution, some found⟩], rfl, rfl, returned, used⟩
  | cons first before ih =>
      cases current with
      | nil => simp [replayFrom] at used
      | cons details later =>
          rw [List.cons_append] at returned used ⊢
          have prepared := replayFrom_prepared returned
          cases firstMet : settings.found first with
          | none =>
              have goes := @replayFrom_through _ _ condition log retry details later _
                (before ++ execution :: executions) prepared firstMet
              rw [goes] at returned used ⊢
              obtain ⟨again, front, attempts, executed, rest⟩ := ih returned used
              exact ⟨again, ⟨details, first, none⟩ :: front, by simp [attempts],
                by simp [executed], rest⟩
          | some found =>
              have goes := replayFrom_condition prepared firstMet returned
              rw [goes] at returned used ⊢
              obtain ⟨again, front, attempts, executed, rest⟩ := ih returned used
              exact ⟨again, ⟨details, first, some found⟩ :: front, by simp [attempts],
                by simp [executed], rest⟩

/-- In a query-scope replay the query is run until it goes through. -/
theorem replayFrom_repeat (scope : condition.replaytx = false) {retry : Nat}
    {current : List Details} {executions : List Execution}
    (returned : (replayFrom settings condition log retry current executions).returned = some true) :
    let replayed := replayFrom settings condition log retry current executions
    wentThrough replayed.attempts = current ∧
      ∀ last ∈ replayed.attempts.getLast?, last.found = none := by
  induction executions generalizing retry current with
  | nil =>
      cases current with
      | nil => simp [replayFrom, wentThrough]
      | cons details later => simp [replayFrom] at returned
  | cons execution executions ih =>
      cases current with
      | nil => simp [replayFrom, wentThrough]
      | cons details later =>
          have prepared := replayFrom_prepared returned
          cases met : settings.found execution with
          | none =>
              have goes := @replayFrom_through _ _ condition log retry details later _ executions
                prepared met
              rw [goes, after_returned] at returned
              obtain ⟨rest, clean⟩ := ih returned
              simp only [goes, after_attempts]
              refine ⟨by simpa [wentThrough] using rest, ?_⟩
              intro last final
              rw [List.getLast?_cons, Option.mem_some_iff] at final
              cases later_last : (replayFrom settings condition log retry later
                  executions).attempts.getLast? with
              | none => rw [← final, later_last, Option.getD_none]
              | some other =>
                  rw [← final, later_last, Option.getD_some]
                  exact clean other later_last
          | some found =>
              have goes := replayFrom_condition prepared met returned
              rw [if_neg (by simp [scope])] at goes
              rw [goes, after_returned] at returned
              obtain ⟨rest, clean⟩ := ih returned
              simp only [goes, after_attempts]
              refine ⟨by simpa [wentThrough] using rest, ?_⟩
              intro last final
              rw [List.getLast?_cons, Option.mem_some_iff] at final
              cases later_last : (replayFrom settings condition log (nextRetry retry)
                  (details :: later) executions).attempts.getLast? with
              | none =>
                  rw [List.getLast?_eq_none_iff.mp later_last] at rest
                  simp [wentThrough] at rest
              | some other =>
                  rw [← final, later_last, Option.getD_some]
                  exact clean other later_last

theorem wentThrough_append (front back : List (Attempt Details)) :
    wentThrough (front ++ back) = wentThrough front ++ wentThrough back := by
  simp [wentThrough]

theorem wentThrough_eq_nil_iff (attempts : List (Attempt Details)) :
    wentThrough attempts = [] ↔ ∀ attempt ∈ attempts, attempt.found ≠ none := by
  simp [wentThrough, List.filter_eq_nil_iff]

end Loop

variable {settings : Settings} {condition : Condition} {log : List Details}
variable {executions : List Execution}

/-- The attempts and the executions have the same tail. -/
theorem tail_executions {attempts : List (Attempt Details)} {ran : List Execution}
    (executed : attempts.map (·.execution) = ran)
    (founds : ∀ attempt ∈ attempts, attempt.found = settings.found attempt.execution) :
    ran.rtakeWhile (fun execution => !transactionScope (settings.found execution)) =
      (attempts.rtakeWhile fun attempt => !transactionScope attempt.found).map (·.execution) := by
  rw [← executed, rtakeWhile_map]
  congr 1
  apply rtakeWhile_congr
  intro attempt member
  rw [Function.comp_apply, ← founds attempt member]

/-- In front of executions that met no condition there is none that went through. -/
theorem pairwise_iff {front clean : List Execution}
    (last : ∀ execution ∈ front.getLast?, settings.found execution ≠ none)
    (through : ∀ execution ∈ clean, settings.found execution = none) :
    ((front ++ clean).Pairwise fun earlier later =>
        settings.found earlier = none → settings.found later = none) ↔
      ∀ execution ∈ front, settings.found execution ≠ none := by
  constructor
  · intro pairwise
    have inFront := (List.pairwise_append.mp pairwise).1
    induction front using List.reverseRecOn with
    | nil => simp
    | append_singleton before final ih =>
        have ends : settings.found final ≠ none := last final (by simp)
        intro execution member
        rcases List.mem_append.mp member with earlier | isFinal
        · intro went
          exact ends ((List.pairwise_append.mp inFront).2.2 execution earlier final (by simp) went)
        · obtain rfl := List.mem_singleton.mp isFinal
          exact ends
  · intro met
    rw [List.pairwise_append]
    constructor
    · exact List.Pairwise.imp_of_mem (fun first _ _ went => absurd went (met _ first))
        (List.pairwise_of_forall fun _ _ => trivial)
    · constructor
      · exact List.Pairwise.imp_of_mem (fun _ second _ _ => through _ second)
          (List.pairwise_of_forall fun _ _ => trivial)
      · intro _ _ later member _
        exact through later member

/-- A tail without a transaction-scope condition ends in the last condition of all, if it holds
a condition. -/
theorem tail_last (before : List Execution) (last : Execution)
    (met : settings.found last ≠ none) :
    ∀ execution ∈ ((before ++ [last]).rtakeWhile
        fun execution => !transactionScope (settings.found execution)).getLast?,
      settings.found execution ≠ none := by
  intro execution final
  rw [List.rtakeWhile_concat] at final
  split at final
  · rw [List.getLast?_append] at final
    simp only [List.getLast?_singleton, Option.some_or, Option.mem_some_iff] at final
    exact final ▸ met
  · simp at final

/-- A transaction-scope replay. -/
theorem complete_transaction_iff (scope : condition.replaytx = true)
    (returned : (replay settings condition log executions).returned = some true)
    (used : (replay settings condition log executions).unused = []) :
    Complete condition log (replay settings condition log executions).attempts ↔
      StartsOver settings condition log executions := by
  have start : replay settings condition log executions =
      replayFrom settings condition log 0 log executions := by
    rw [replay, if_pos scope]
  rw [start] at returned used ⊢
  obtain ⟨executed, founds⟩ := replayFrom_attempts returned
  rw [used, List.append_nil] at executed
  have complete : ∀ attempts : List (Attempt Details), Complete condition log attempts ↔
      wentThrough (attempts.rtakeWhile fun attempt => !transactionScope attempt.found) = log := by
    intro attempts
    rw [Complete, afterLastRollback, if_pos (Or.inl scope)]
    simp
  rw [complete, StartsOver, if_pos scope]
  by_cases conditions : ∃ execution ∈ executions, settings.found execution ≠ none
  · obtain ⟨before, last, after, rfl, met, clean⟩ := exists_last conditions
    simp only [ne_eq, not_not] at clean
    obtain ⟨again, front, attempts, ran, goesOn, rest⟩ :=
      replayFrom_restart scope met returned used
    obtain ⟨through, allThrough⟩ := replayFrom_clean goesOn clean
    have frontFounds : ∀ attempt ∈ front, attempt.found = settings.found attempt.execution := by
      intro attempt member
      apply founds
      rw [attempts]
      exact List.mem_append_left _ member
    have back : (replayFrom settings condition log 0 log (before ++ last :: after)).attempts.rtakeWhile
        (fun attempt => !transactionScope attempt.found) =
          front.rtakeWhile (fun attempt => !transactionScope attempt.found) ++
            (replayFrom settings condition log again log after).attempts := by
      rw [attempts]
      apply rtakeWhile_append_of_forall
      intro attempt member
      simp [allThrough attempt member, transactionScope]
    have backRan : (before ++ last :: after).rtakeWhile
        (fun execution => !transactionScope (settings.found execution)) =
          (before ++ [last]).rtakeWhile
            (fun execution => !transactionScope (settings.found execution)) ++ after := by
      rw [List.append_cons]
      apply rtakeWhile_append_of_forall
      intro execution member
      simp [clean execution member, transactionScope]
    rw [back, wentThrough_append, through, List.append_left_eq_self, wentThrough_eq_nil_iff, backRan,
      pairwise_iff (tail_last before last met) clean, tail_executions ran frontFounds]
    simp only [List.forall_mem_map]
    apply forall₂_congr
    intro attempt member
    rw [frontFounds attempt ((List.rtakeWhile_suffix _ _).subset member)]
  · simp only [not_exists, not_and, ne_eq, not_not] at conditions
    obtain ⟨through, allThrough⟩ := replayFrom_clean returned conditions
    have whole : (replayFrom settings condition log 0 log executions).attempts.rtakeWhile
        (fun attempt => !transactionScope attempt.found) =
          (replayFrom settings condition log 0 log executions).attempts := by
      apply List.rtakeWhile_eq_self_iff.mpr
      intro attempt member
      simp [allThrough attempt member, transactionScope]
    rw [whole]
    apply iff_of_true through
    exact List.Pairwise.imp_of_mem (fun _ second _ _ => conditions _ ((List.rtakeWhile_suffix _ _).subset second))
      (List.pairwise_of_forall fun _ _ => trivial)

/-- The last attempt of a query-scope replay is the only one that goes through. -/
theorem wentThrough_tail {attempts : List (Attempt Details)} {details : Details}
    (through : wentThrough attempts = [details])
    (final : ∀ last ∈ attempts.getLast?, last.found = none) :
    wentThrough (attempts.rtakeWhile fun attempt => !transactionScope attempt.found) = [details] := by
  rcases List.eq_nil_or_concat attempts with rfl | ⟨before, last, rfl⟩
  · exact through
  · have clean : last.found = none := final last (by simp)
    have one : wentThrough [last] = [last.details] := by simp [wentThrough, clean]
    rw [List.concat_eq_append, wentThrough_append, one] at through
    have nothing : wentThrough before = [] := by
      have length := congrArg List.length through
      simpa using length
    rw [nothing, List.nil_append] at through
    rw [List.concat_eq_append, List.rtakeWhile_concat,
      if_pos (by simp [clean, transactionScope]), wentThrough_append, one, through]
    rw [List.append_left_eq_self, wentThrough_eq_nil_iff]
    intro attempt member
    exact (wentThrough_eq_nil_iff before).mp nothing attempt
      ((List.rtakeWhile_suffix _ _).subset member)

/-- A query-scope replay. -/
theorem complete_query_iff (scope : condition.replaytx = false)
    (returned : (replay settings condition log executions).returned = some true)
    (used : (replay settings condition log executions).unused = []) :
    Complete condition log (replay settings condition log executions).attempts ↔
      StartsOver settings condition log executions := by
  have start : replay settings condition log executions =
      replayFrom settings condition log 0 log.getLast?.toList executions := by
    rw [replay, if_neg (by simp [scope])]
  rw [start] at returned used ⊢
  obtain ⟨executed, founds⟩ := replayFrom_attempts returned
  rw [used, List.append_nil] at executed
  obtain ⟨through, final⟩ := replayFrom_repeat scope returned
  have nothing : log = [] →
      (replayFrom settings condition log 0 log.getLast?.toList executions).attempts = [] := by
    rintro rfl
    simp [replayFrom]
  generalize replayFrom settings condition log 0 log.getLast?.toList executions = replayed at *
  rw [StartsOver, if_neg (by simp [scope])]
  have rolledBack : (∃ attempt ∈ replayed.attempts, transactionScope attempt.found = true) ↔
      ¬ ∀ execution ∈ executions, transactionScope (settings.found execution) = false := by
    rw [← executed]
    simp only [List.forall_mem_map, not_forall, Bool.not_eq_false, exists_prop]
    apply exists_congr
    intro attempt
    apply and_congr_right
    intro member
    rw [founds attempt member]
  by_cases rollback : ∃ attempt ∈ replayed.attempts, transactionScope attempt.found = true
  · rw [Complete, afterLastRollback, if_pos (Or.inr rollback),
      or_iff_right (rolledBack.mp rollback)]
    simp only [Option.some.injEq, forall_eq']
    rcases List.eq_nil_or_concat log with rfl | ⟨before, last, rfl⟩
    · obtain ⟨attempt, member, _⟩ := rollback
      rw [nothing rfl] at member
      exact absurd member List.not_mem_nil
    · rw [List.concat_eq_append, List.getLast?_append] at through
      simp only [List.getLast?_singleton, Option.some_or, Option.toList_some] at through
      rw [wentThrough_tail through final, List.concat_eq_append]
      simp
  · rw [Complete, afterLastRollback, if_neg (by simpa [scope] using rollback)]
    apply iff_of_true
    · intro tail impossible
      simp at impossible
    · exact Or.inl (not_not.mp (mt rolledBack.mpr rollback))

/-- A replay that succeeds has run the whole log after the last rollback exactly if it starts
over whenever it has to, and only then. -/
theorem complete_iff (settings : Settings) (condition : Condition) (log : List Details)
    (executions : List Execution)
    (returned : (replay settings condition log executions).returned = some true)
    (used : (replay settings condition log executions).unused = []) :
    Complete condition log (replay settings condition log executions).attempts ↔
      StartsOver settings condition log executions := by
  cases scope : condition.replaytx with
  | true => exact complete_transaction_iff scope returned used
  | false => exact complete_query_iff scope returned used

/-- A lock wait that costs the query alone, and a deadlock that costs the transaction. -/
def lockWait : Condition := ⟨.errorcode 1205, false, none, none⟩

def deadlock : Condition := ⟨.errorcode 1213, true, none, none⟩

def lockSettings : Settings := ⟨[lockWait, deadlock], 10⟩

/-- A deadlock on the first retry of the first query, after which the log is run to its end. -/
theorem complete_iff_deadlock :
    Complete deadlock [1, 2] (replay lockSettings deadlock [1, 2]
        [⟨true, ⟨[], 1213, []⟩⟩, ⟨true, .none⟩, ⟨true, .none⟩]).attempts ↔
      StartsOver lockSettings deadlock [1, 2]
        [⟨true, ⟨[], 1213, []⟩⟩, ⟨true, .none⟩, ⟨true, .none⟩] :=
  complete_iff lockSettings deadlock [1, 2]
    [⟨true, ⟨[], 1213, []⟩⟩, ⟨true, .none⟩, ⟨true, .none⟩] (by decide) (by decide)

/-- The last query waited for a lock, and its retry meets a deadlock: the transaction is gone, and
only the last query is run again. -/
theorem lockWait_then_deadlock :
    ¬ ∀ (settings : Settings) (condition : Condition) (log : List Nat)
      (executions : List Execution),
      (replay settings condition log executions).returned = some true →
      (replay settings condition log executions).unused = [] →
      Complete condition log (replay settings condition log executions).attempts := by
  intro complete
  have whole := complete lockSettings lockWait [1, 2]
    [⟨true, ⟨[], 1213, []⟩⟩, ⟨true, .none⟩] (by decide) (by decide)
  exact absurd (whole _ rfl) (by decide)

end SqlRelay.Replay
