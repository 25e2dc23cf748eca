import SqlRelay.Foundation.Run
import SqlRelay.Pipeline.Cursor

/-!
# Executing a prepared query again

One `prepareQuery` and then any number of `executeQuery` calls.  The flags of the
cursor that survive a call decide which path the next one takes; the question is
when that path leads to the same result as the first one.
-/

namespace SqlRelay.Pipeline

open SqlRelay.Foundation SqlRelay.Bind SqlRelay.Query

/-- The driver prepares the query, takes the binds, and no trigger fails or
suppresses the query. -/
structure ExecuteCall.Succeeds (call : ExecuteCall) : Prop where
  prepares : call.prepares = true
  afterPrepare : call.afterPrepare = true
  handlesBinds : call.handlesBinds = true
  beforeExecute : call.beforeExecute = true
  notSuppressed : call.suppressed = false
  afterExecute : call.afterExecute = true

abbrev SucceedingCall := { call : ExecuteCall // call.Succeeds }

/-- What the driver was told to execute. -/
def executions (events : List Event) : List (List Byte) :=
  events.filterMap fun
    | .execute _ given => some given
    | _ => none

/-- The binds the driver was given. -/
def boundBinds (events : List Event) : List Binds :=
  events.filterMap fun
    | .bind binds => some binds
    | _ => none

@[simp] theorem executions_append (first second : List Event) :
    executions (first ++ second) = executions first ++ executions second :=
  List.filterMap_append

@[simp] theorem boundBinds_append (first second : List Event) :
    boundBinds (first ++ second) = boundBinds first ++ boundBinds second :=
  List.filterMap_append

/-- What comes of one `executeQuery`. -/
structure Outcome where
  returns : Bool
  executions : List (List Byte)
  bound : List Binds
  error : CursorError
  deriving DecidableEq

def outcome (stage : Stage) : Outcome :=
  ⟨stage.ok, executions stage.events, boundBinds stage.events, stage.state.error⟩

/-- A cursor, and the binds as its client last set them. -/
structure BoundCursor where
  cursor : Cursor
  set : Binds

namespace Server

variable {Tree : Type} (server : Server Tree) (enabled : Enabled)

/-- The query of the cursor, preprocessed. -/
def processed (cursor : Cursor) : Stage :=
  if cursor.hasBeenPreProcessed then .pass cursor else server.preProcess enabled cursor

def step (state : BoundCursor) (call : SucceedingCall) : BoundCursor :=
  ⟨(server.executeQuery enabled call.1 state.cursor).state, call.1.rebind.getD state.set⟩

/-- There are binds to fake. -/
def fakesNow (query : Cursor) (binds : Binds) : Bool :=
  query.fakeInputBindsForThisQuery && !binds.input.isEmpty

/-- The one text that is to reach the driver. -/
def sentText (query : Cursor) (binds : Binds) : List Byte :=
  if fakesNow query binds then
    sized (server.faker.fakeInputBinds binds.input query.query)
  else query.query

/-- The query goes to the driver once, and all comes out as if this were the
first execution. -/
def LikeFirst (start : Cursor) (state : BoundCursor) (call : SucceedingCall) : Prop :=
  let set := call.1.rebind.getD state.set
  let stage := server.executeQuery enabled call.1 state.cursor
  executions stage.events = [server.sentText (server.processed enabled start).state set] ∧
    outcome stage =
      outcome (server.executeQuery enabled { call.1 with rebind := some set } start)

/-- What a call needs: a special case is not met with a prepared query, unless
triggers run; faked binds are not left behind by an earlier execution; and binds
that were renamed by one, and not set again, come out the same. -/
def Repeats (start : Cursor) (state : BoundCursor) (call : SucceedingCall) : Prop :=
  let query := (server.processed enabled start).state
  let set := call.1.rebind.getD state.set
  let binds := call.1.rebind.getD state.cursor.binds
  (query.needsIntercept = true → (enabled.triggers && server.triggers) = true ∨
      query.fakeInputBindsForThisQuery = true ∨ state.cursor.hasBeenPrepared = false) ∧
    (query.fakeInputBindsForThisQuery = true → binds.input = [] →
      state.cursor.bindsWereFaked = false) ∧
    (if fakesNow query binds then server.sentText query binds = server.sentText query set
    else binds.rename query.bindMappings = set.rename query.bindMappings)

end Server

/-! ## Preprocessing -/

/-- Events of the rewriting of a query. -/
def Event.Rewrites : Event → Prop
  | .write .. | .handOver .. | .append .. => True
  | .prepare .. | .bind .. | .execute .. => False

theorem executions_of_rewrites {events : List Event}
    (rewrites : ∀ event ∈ events, event.Rewrites) : executions events = [] := by
  rw [executions, List.filterMap_eq_nil_iff]
  intro event member
  have := rewrites event member
  cases event <;> simp_all [Event.Rewrites]

theorem boundBinds_of_rewrites {events : List Event}
    (rewrites : ∀ event ∈ events, event.Rewrites) : boundBinds events = [] := by
  rw [boundBinds, List.filterMap_eq_nil_iff]
  intro event member
  have := rewrites event member
  cases event <;> simp_all [Event.Rewrites]

theorem Translations.runTree_rewrites {Tree : Type} (translations : Translations Tree)
    (run : Tree → Except (List Byte) Tree) (state : TranslationState Tree) :
    ∀ event ∈ (translations.runTree run state).1, event.Rewrites := by
  have events : (translations.runTree run state).1 =
      (translations.parsed state).1 := by
    rw [Translations.runTree]
    split
    next parsed => rw [parsed]
    next parsed =>
      rw [parsed]
      split <;> rfl
  rw [events, Translations.parsed]
  split <;> simp [Event.Rewrites]

theorem Translations.runModules_rewrites {Tree : Type} (translations : Translations Tree)
    (memory : List Byte) (modules : List (Translation Tree)) (state : TranslationState Tree) :
    ∀ event ∈ (translations.runModules memory modules state).1,
      event.Rewrites := by
  induction modules generalizing state with
  | nil =>
      rw [Translations.runModules, Translations.finish]
      split
      · simp [Event.Rewrites]
      · split <;> simp
  | cons module later ih =>
      cases module with
      | text run =>
          rw [Translations.runModules]
          cases written : translations.writeTree state with
          | error error => simp [Translations.runText, written]
          | ok next =>
              cases answer : run (next.given memory) with
              | error error => simp [Translations.runText, written, answer, Event.Rewrites]
              | ok text =>
                  simp only [Translations.runText, written, answer, List.cons_append,
                    List.nil_append, List.mem_cons]
                  intro event member
                  rcases member with rfl | rfl | member
                  · trivial
                  · trivial
                  · exact ih _ event member
      | tree run =>
          rw [Translations.runModules]
          have rewrites := translations.runTree_rewrites run state
          cases answer : translations.runTree run state with
          | mk events result =>
              rw [answer] at rewrites
              cases result with
              | error error => exact rewrites
              | ok next =>
                  intro event member
                  rcases List.mem_append.mp member with here | there
                  · exact rewrites event here
                  · exact ih next event there

theorem outcome_prepend {events : List Event}
    (rewrites : ∀ event ∈ events, event.Rewrites) (stage : Stage) :
    outcome (stage.prepend events) = outcome stage := by
  simp [outcome, executions_of_rewrites rewrites, boundBinds_of_rewrites rewrites]

/-- The cursor with other binds. -/
def Cursor.withBinds (binds : Binds) (cursor : Cursor) : Cursor := { cursor with binds := binds }

/-- What the rewriting of a query leaves alone. -/
structure Cursor.Untouched (before after : Cursor) : Prop where
  prepared : after.hasBeenPrepared = before.hasBeenPrepared
  executed : after.hasBeenExecuted = before.hasBeenExecuted
  faked : after.bindsWereFaked = before.bindsWereFaked
  handled : after.resultSetHeaderHasBeenHandled = before.resultSetHeaderHasBeenHandled
  fakedQuery : after.queryWithFakeInputBinds = before.queryWithFakeInputBinds
  binds : after.binds = before.binds
  error : after.error = before.error
  fakes : before.fakeInputBindsForThisQuery = true → after.fakeInputBindsForThisQuery = true

theorem Cursor.Untouched.trans {before between after : Cursor} (first : before.Untouched between)
    (second : between.Untouched after) : before.Untouched after :=
  ⟨second.prepared.trans first.prepared, second.executed.trans first.executed,
    second.faked.trans first.faked, second.handled.trans first.handled,
    second.fakedQuery.trans first.fakedQuery, second.binds.trans first.binds,
    second.error.trans first.error, fun fakes => second.fakes (first.fakes fakes)⟩

namespace Server

variable {Tree : Type} (server : Server Tree) (enabled : Enabled)

section Rewriting

variable (cursor : Cursor) (binds : Binds)

theorem filterQuery_all (before : Bool) :
    (server.filterQuery enabled before cursor).All Event.Rewrites := by
  rw [filterQuery]
  repeat' split
  all_goals simp

theorem filterQuery_goesOnIn (before : Bool) :
    (server.filterQuery enabled before cursor).GoesOnIn (cursor = ·) := by
  rw [filterQuery]
  repeat' split
  all_goals simp

theorem filterQuery_withBinds (before : Bool) :
    server.filterQuery enabled before (cursor.withBinds binds) =
      (server.filterQuery enabled before cursor).map (Cursor.withBinds binds) := by
  cases filters : server.filters with
  | none => simp [filterQuery, filters]
  | some filters => 
      simp only [filterQuery, filters, Cursor.withBinds]
      repeat' split
      all_goals simp_all [Cursor.withBinds]

theorem translateQuery_of_unused
    (unused : ∀ translations, server.translations = some translations → enabled.translations = false) :
    server.translateQuery enabled cursor = .pass cursor := by
  cases present : server.translations with
  | none => simp [translateQuery, present]
  | some translations => simp [translateQuery, present, unused translations present]

section Used

variable {server enabled cursor} {translations : Translations Tree} {events : List Event}
variable (present : server.translations = some translations) (used : enabled.translations = true)

/-- A module may have asked for the binds to be faked. -/
def asked (translations : Translations Tree) (cursor : Cursor) : Cursor :=
  { cursor with
    fakeInputBindsForThisQuery :=
      cursor.fakeInputBindsForThisQuery || translations.fakesInputBinds cursor.query }

include present used

theorem translateQuery_of_ok {text : List Byte}
    (answer : translations.run server.memory cursor.query = (events, .ok text)) :
    server.translateQuery enabled cursor =
      ⟨events ++ (server.storeTranslated text (asked translations cursor)).events,
        (server.storeTranslated text (asked translations cursor)).state,
        (server.storeTranslated text (asked translations cursor)).ok⟩ := by
  simp only [translateQuery, present, used, answer, if_true]
  rfl

theorem translateQuery_of_error {error : List Byte}
    (answer : translations.run server.memory cursor.query = (events, .error error)) :
    server.translateQuery enabled cursor =
      if translations.useOriginalOnError then ⟨events, asked translations cursor, true⟩
      else ⟨events, { asked translations cursor with error := queryTranslationError error },
        false⟩ := by
  simp only [translateQuery, present, used, answer, if_true]
  rfl

end Used

/-- The three ways that `translateQuery` takes. -/
theorem translateQuery_cases :
    (∀ translations, server.translations = some translations → enabled.translations = false) ∨
      ∃ translations events result, server.translations = some translations ∧
        enabled.translations = true ∧
        translations.run server.memory cursor.query = (events, result) := by
  cases present : server.translations with
  | none => exact .inl (by simp)
  | some translations =>
      cases used : enabled.translations with
      | false => exact .inl fun _ _ => rfl
      | true => exact .inr ⟨translations, _, _, rfl, rfl, rfl⟩

theorem storeTranslated_all (text : List Byte) :
    (server.storeTranslated text cursor).All Event.Rewrites := by
  rw [storeTranslated]
  split
  · simp
  · simp [store, Progress.All, Event.Rewrites]

theorem storeTranslated_goesOnIn (text : List Byte) :
    (server.storeTranslated text cursor).GoesOnIn cursor.Untouched := by
  rw [storeTranslated]
  split
  · simp
  · exact fun _ => ⟨rfl, rfl, rfl, rfl, rfl, rfl, rfl, id⟩

theorem storeTranslated_withBinds (text : List Byte) :
    server.storeTranslated text (cursor.withBinds binds) =
      (server.storeTranslated text cursor).map (Cursor.withBinds binds) := by
  simp only [storeTranslated]
  split <;> rfl

theorem translateQuery_all : (server.translateQuery enabled cursor).All Event.Rewrites := by
  rcases server.translateQuery_cases enabled cursor with
    unused | ⟨translations, events, result, present, used, answer⟩
  · rw [translateQuery_of_unused server enabled cursor unused]
    simp
  have rewrites : ∀ event ∈ events, event.Rewrites := by
    have translated := translations.runModules_rewrites server.memory translations.modules
      ⟨cursor.query, cursor.query.length, none, [], []⟩
    rw [Translations.run] at answer
    rwa [answer] at translated
  cases result with
  | error error =>
      rw [translateQuery_of_error present used answer]
      split <;> exact rewrites
  | ok text =>
      rw [translateQuery_of_ok present used answer]
      intro event member
      rcases List.mem_append.mp member with here | stored
      · exact rewrites event here
      · exact server.storeTranslated_all _ text event stored

theorem translateQuery_goesOnIn :
    (server.translateQuery enabled cursor).GoesOnIn cursor.Untouched := by
  rcases server.translateQuery_cases enabled cursor with
    unused | ⟨translations, events, result, present, used, answer⟩
  · rw [translateQuery_of_unused server enabled cursor unused, Progress.goesOnIn_pass]
    exact ⟨rfl, rfl, rfl, rfl, rfl, rfl, rfl, id⟩
  cases result with
  | error error =>
      rw [translateQuery_of_error present used answer]
      split
      · exact fun _ => ⟨rfl, rfl, rfl, rfl, rfl, rfl, rfl,
          fun fakes => by simp [asked, fakes]⟩
      · simp [Progress.GoesOnIn]
  | ok text =>
      rw [translateQuery_of_ok present used answer]
      intro stored
      have after := server.storeTranslated_goesOnIn (asked translations cursor) text stored
      exact ⟨after.1, after.2, after.3, after.4, after.5, after.6, after.7,
        fun fakes => after.fakes (by simp [asked, fakes])⟩

theorem translateQuery_withBinds :
    server.translateQuery enabled (cursor.withBinds binds) =
      (server.translateQuery enabled cursor).map (Cursor.withBinds binds) := by
  rcases server.translateQuery_cases enabled cursor with
    unused | ⟨translations, events, result, present, used, answer⟩
  · simp [translateQuery_of_unused server enabled _ unused]
  have answer' :
      translations.run server.memory (cursor.withBinds binds).query = (events, result) := answer
  cases result with
  | error error =>
      rw [translateQuery_of_error present used answer, translateQuery_of_error present used answer']
      split <;> rfl
  | ok text =>
      have stored := server.storeTranslated_withBinds (asked translations cursor) binds text
      rw [translateQuery_of_ok present used answer, translateQuery_of_ok present used answer']
      change Progress.mk (events ++ (server.storeTranslated text
        ((asked translations cursor).withBinds binds)).events) _ _ = _
      simp only [show asked translations (cursor.withBinds binds) =
        (asked translations cursor).withBinds binds from rfl, stored]
      rfl

theorem translateBindVariables_all :
    (server.translateBindVariables enabled cursor).All Event.Rewrites := by
  simp only [translateBindVariables]
  repeat' split
  all_goals simp [store, Progress.All, Event.Rewrites]

theorem translateBindVariables_goesOnIn :
    (server.translateBindVariables enabled cursor).GoesOnIn cursor.Untouched := by
  simp only [translateBindVariables]
  repeat' split
  all_goals exact fun _ => ⟨rfl, rfl, rfl, rfl, rfl, rfl, rfl, id⟩

theorem translateBindVariables_withBinds :
    server.translateBindVariables enabled (cursor.withBinds binds) =
      (server.translateBindVariables enabled cursor).map (Cursor.withBinds binds) := by
  have same : (cursor.withBinds binds).query = cursor.query := rfl
  simp only [translateBindVariables, same]
  repeat' split
  all_goals rfl

theorem translateBeginTransaction_all :
    (server.translateBeginTransaction enabled cursor).All Event.Rewrites := by
  rw [translateBeginTransaction]
  split <;> simp [store, Progress.All, Event.Rewrites]

theorem translateBeginTransaction_goesOnIn :
    (server.translateBeginTransaction enabled cursor).GoesOnIn cursor.Untouched := by
  rw [translateBeginTransaction]
  split <;> exact fun _ => ⟨rfl, rfl, rfl, rfl, rfl, rfl, rfl, id⟩

theorem translateBeginTransaction_withBinds :
    server.translateBeginTransaction enabled (cursor.withBinds binds) =
      (server.translateBeginTransaction enabled cursor).map (Cursor.withBinds binds) := by
  have same : (cursor.withBinds binds).queryType = cursor.queryType := rfl
  simp only [translateBeginTransaction, same]
  split <;> rfl

/-! The stages together. -/

theorem preProcess_all : (server.preProcess enabled cursor).All Event.Rewrites := by
  apply Progress.all_andThen (server.filterQuery_all enabled _ true)
  intro cursor
  apply Progress.all_andThen (server.translateQuery_all enabled cursor)
  intro cursor
  apply Progress.all_andThen (server.translateBindVariables_all enabled _)
  intro cursor
  apply Progress.all_andThen (server.translateBeginTransaction_all enabled cursor)
  intro cursor
  apply Progress.all_andThen (server.filterQuery_all enabled cursor false)
  intro cursor
  simp

theorem preProcess_goesOnIn :
    (server.preProcess enabled cursor).GoesOnIn fun after =>
      cursor.Untouched after ∧ after.hasBeenPreProcessed = true := by
  rw [preProcess]
  refine Progress.goesOnIn_andThen (server.filterQuery_goesOnIn enabled _ true) ?_
  intro filtered same
  refine Progress.goesOnIn_andThen (server.translateQuery_goesOnIn enabled filtered) ?_
  intro translated first
  refine Progress.goesOnIn_andThen (server.translateBindVariables_goesOnIn enabled _) ?_
  intro bound second
  refine Progress.goesOnIn_andThen (server.translateBeginTransaction_goesOnIn enabled bound) ?_
  intro begun third
  refine Progress.goesOnIn_andThen (server.filterQuery_goesOnIn enabled begun false) ?_
  intro last rest
  rw [Progress.goesOnIn_pass]
  subst same rest
  have all := (first.trans ⟨second.1, second.2, second.3, second.4, second.5, second.6,
    second.7, second.8⟩).trans third
  constructor
  · exact ⟨all.1, all.2, all.3, all.4, all.5, all.6, all.7,
      fun fakes => by simp [finishPreProcessing, all.8 fakes]⟩
  · rfl

/-- The rewriting does not look at the binds. -/
theorem preProcess_withBinds :
    server.preProcess enabled (cursor.withBinds binds) =
      (server.preProcess enabled cursor).map (Cursor.withBinds binds) := by
  have first := server.filterQuery_withBinds enabled
    (determineQueryType { cursor with bindMappings := [] }) binds true
  have bound := fun cursor =>
    server.translateBindVariables_withBinds enabled (determineQueryType cursor) binds
  simp only [preProcess]
  refine (congrArg (Progress.andThen · _) first).trans (Progress.map_andThen ?_)
  intro cursor
  rw [translateQuery_withBinds]
  apply Progress.map_andThen
  intro cursor
  refine (congrArg (Progress.andThen · _) (bound cursor)).trans (Progress.map_andThen ?_)
  intro cursor
  rw [translateBeginTransaction_withBinds]
  apply Progress.map_andThen
  intro cursor
  rw [filterQuery_withBinds]
  apply Progress.map_andThen
  intro cursor
  rfl

end Rewriting

/-! ## One execution -/

/-- The error that the driver and the triggers leave. -/
def errorAfter (call : ExecuteCall) (success : Bool) : CursorError :=
  let saved := if success then CursorError.cleared else CursorError.cleared.save call.executeError
  if enabled.triggers && server.triggers then call.afterTriggers saved else saved

/-- What they make of success. -/
def successAfter (call : ExecuteCall) (success : Bool) : Bool :=
  if enabled.triggers && server.triggers then !(server.errorAfter enabled call success).isSet
  else success

/-- The outcome of an execution that gives the driver these binds and this text,
if it gives it any. -/
def result (call : ExecuteCall) (sends : Bool) (text : List Byte) (bound : List Binds) : Outcome :=
  ⟨server.successAfter enabled call (sends && call.executes) && server.translatesHeader text,
    if sends then [text] else [], bound, server.errorAfter enabled call (sends && call.executes)⟩

/-! Faking the binds changes the faked query and its flag. -/

section FakeBinds

variable (cursor : Cursor)

@[simp] theorem fakeBinds_query : (server.fakeBinds cursor).query = cursor.query := by
  rw [fakeBinds]; split <;> rfl

@[simp] theorem fakeBinds_queryType : (server.fakeBinds cursor).queryType = cursor.queryType := by
  rw [fakeBinds]; split <;> rfl

@[simp] theorem fakeBinds_needsIntercept :
    (server.fakeBinds cursor).needsIntercept = cursor.needsIntercept := by
  rw [fakeBinds]; split <;> rfl

@[simp] theorem fakeBinds_hasBeenPrepared :
    (server.fakeBinds cursor).hasBeenPrepared = cursor.hasBeenPrepared := by
  rw [fakeBinds]; split <;> rfl

@[simp] theorem fakeBinds_hasBeenPreProcessed :
    (server.fakeBinds cursor).hasBeenPreProcessed = cursor.hasBeenPreProcessed := by
  rw [fakeBinds]; split <;> rfl

@[simp] theorem fakeBinds_fakeInputBindsForThisQuery :
    (server.fakeBinds cursor).fakeInputBindsForThisQuery = cursor.fakeInputBindsForThisQuery := by
  rw [fakeBinds]; split <;> rfl

@[simp] theorem fakeBinds_resultSetHeaderHasBeenHandled :
    (server.fakeBinds cursor).resultSetHeaderHasBeenHandled =
      cursor.resultSetHeaderHasBeenHandled := by
  rw [fakeBinds]; split <;> rfl

@[simp] theorem fakeBinds_binds : (server.fakeBinds cursor).binds = cursor.binds := by
  rw [fakeBinds]; split <;> rfl

@[simp] theorem fakeBinds_bindMappings :
    (server.fakeBinds cursor).bindMappings = cursor.bindMappings := by
  rw [fakeBinds]; split <;> rfl

@[simp] theorem fakeBinds_error : (server.fakeBinds cursor).error = cursor.error := by
  rw [fakeBinds]; split <;> rfl

end FakeBinds

section Execution

variable {server enabled} {call : ExecuteCall} (succeeds : call.Succeeds) (cursor : Cursor)

include succeeds

theorem prepare_of_succeeds (text given : List Byte) :
    server.prepare enabled call.toPrepareAnswers text given cursor =
      ⟨[.prepare text given], { cursor with hasBeenPrepared := true }, true⟩ := by
  simp [prepare, succeeds.prepares, succeeds.afterPrepare]

theorem handleBinds_of_succeeds :
    handleBinds call cursor =
      ⟨if cursor.bindsWereFaked then [] else [.bind (cursor.binds.rename cursor.bindMappings)],
        cursor.withBinds (cursor.binds.rename cursor.bindMappings), true⟩ := by
  cases faked : cursor.bindsWereFaked <;>
    simp [handleBinds, faked, succeeds.handlesBinds, Cursor.withBinds, Progress.pass]

theorem run_of_succeeds (success : Bool) (cleared : cursor.error = .cleared) :
    let sends := (enabled.triggers && server.triggers) || success
    server.run enabled call success cursor =
      ⟨if sends then [.execute (driverQuery cursor) (handedOver cursor)] else [],
        { cursor with
          hasBeenExecuted := true
          error := server.errorAfter enabled call (sends && call.executes) },
        server.successAfter enabled call (sends && call.executes)⟩ := by
  cases triggers : enabled.triggers && server.triggers with
  | true =>
      cases executes : call.executes <;>
        simp [run, triggers, executes, succeeds.beforeExecute, succeeds.notSuppressed,
          succeeds.afterExecute, cleared, errorAfter, successAfter, driverQuery, handedOver]
  | false =>
      cases success <;> cases executes : call.executes <;>
        simp [run, triggers, executes, cleared, errorAfter, successAfter, driverQuery, handedOver]

omit succeeds in
/-- The header of the result set is handled without a word to the driver. -/
theorem andThen_handleResultSetHeader (stage : Stage) :
    (stage.andThen fun cursor => server.handleResultSetHeader (handedOver cursor) cursor).events =
        stage.events ∧
      (stage.andThen fun cursor =>
        server.handleResultSetHeader (handedOver cursor) cursor).state.error = stage.state.error := by
  cases ok : stage.ok <;> simp [Progress.andThen, ok, handleResultSetHeader]

/-- The cursor that is to be run. -/
def ready (cursor : Cursor) : Cursor :=
  { cursor with
    hasBeenPrepared := true
    wasIntercepted := false
    binds := cursor.binds.rename cursor.bindMappings }

/-- What an execution comes to, once the binds have been faked. -/
theorem executeFaked_of_succeeds (notIntercepted : cursor.queryType.intercepted = false) :
    server.executeFaked enabled call cursor =
      ((server.run enabled call (!cursor.needsIntercept || !cursor.hasBeenPrepared)
            (ready cursor)).andThen fun cursor =>
          server.handleResultSetHeader (handedOver cursor) cursor).prepend
        (.handOver (driverQuery cursor) (handedOver cursor) ::
          (if cursor.hasBeenPrepared then [] else
            [.prepare (driverQuery cursor) (handedOver cursor)]) ++
          if cursor.bindsWereFaked then [] else
            [.bind (cursor.binds.rename cursor.bindMappings)]) := by
  simp only [executeFaked, notIntercepted, Bool.and_false, Bool.false_eq_true, if_false,
    handleBinds_of_succeeds succeeds, prepare_of_succeeds succeeds, Progress.mk_true_andThen]
  rw [getQuery, Progress.mk_true_andThen]
  cases prepared : cursor.hasBeenPrepared with
  | true =>
      rw [if_pos rfl, if_pos rfl, Progress.pass_andThen, Progress.prepend_prepend, ready, ← prepared]
      rfl
  | false =>
      rw [if_neg Bool.false_ne_true, if_neg Bool.false_ne_true, Progress.mk_true_andThen,
        Progress.prepend_prepend, Progress.prepend_prepend]
      rfl

variable (cleared : cursor.error = .cleared)
  (notIntercepted : cursor.queryType.intercepted = false)

include cleared notIntercepted

theorem executeFaked_outcome
    (handled : cursor.resultSetHeaderHasBeenHandled = true →
      server.translatesHeader (handedOver cursor) = true) :
    outcome (server.executeFaked enabled call cursor) =
      server.result enabled call
        ((enabled.triggers && server.triggers) || !cursor.needsIntercept || !cursor.hasBeenPrepared)
        (handedOver cursor)
        (if cursor.bindsWereFaked then [] else [cursor.binds.rename cursor.bindMappings]) := by
  have accepted : (cursor.resultSetHeaderHasBeenHandled ||
      server.translatesHeader (handedOver cursor)) = server.translatesHeader (handedOver cursor) := by
    cases done : cursor.resultSetHeaderHasBeenHandled with
    | true => rw [handled done, Bool.or_true]
    | false => rw [Bool.false_or]
  rw [executeFaked_of_succeeds succeeds cursor notIntercepted,
    run_of_succeeds succeeds (ready cursor) _ cleared, ← Bool.or_assoc]
  generalize (enabled.triggers && server.triggers || !cursor.needsIntercept ||
    !cursor.hasBeenPrepared) = sends
  have given : handedOver (ready cursor) = handedOver cursor := rfl
  have prepared :
      let events : List Event := .handOver (driverQuery cursor) (handedOver cursor) ::
        if cursor.hasBeenPrepared then [] else [.prepare (driverQuery cursor) (handedOver cursor)]
      executions events = [] ∧ boundBinds events = [] := by
    intro events
    cases ready : cursor.hasBeenPrepared <;> simp only [events, ready] <;> exact ⟨rfl, rfl⟩
  simp only [outcome, result, Outcome.mk.injEq, Progress.prepend_events, Progress.prepend_state,
    Progress.prepend_ok, Progress.andThen_ok, executions_append, boundBinds_append, prepared,
    List.nil_append]
  rw [(andThen_handleResultSetHeader _).1, (andThen_handleResultSetHeader _).2]
  refine ⟨congrArg _ accepted, ?_, ?_, rfl⟩
  · cases cursor.bindsWereFaked <;> cases sends <;> rfl
  · cases cursor.bindsWereFaked <;> cases sends <;> rfl

theorem executeFaked_state :
    ∃ error handled, (server.executeFaked enabled call cursor).state =
      { ready cursor with
        hasBeenExecuted := true
        error := error
        resultSetHeaderHasBeenHandled := handled } := by
  rw [executeFaked_of_succeeds succeeds cursor notIntercepted,
    run_of_succeeds succeeds (ready cursor) _ cleared]
  simp only [Progress.andThen, Progress.prepend_state]
  split
  · exact ⟨_, true, rfl⟩
  · exact ⟨_, cursor.resultSetHeaderHasBeenHandled, rfl⟩

end Execution

/-! ## From call to call -/

/-- The same query, as the rewriting left it. -/
structure SameQuery (query cursor : Cursor) : Prop where
  text : cursor.query = query.query
  queryType : cursor.queryType = query.queryType
  needsIntercept : cursor.needsIntercept = query.needsIntercept
  fakes : cursor.fakeInputBindsForThisQuery = query.fakeInputBindsForThisQuery
  mappings : cursor.bindMappings = query.bindMappings

/-- What an execution of a cursor goes on with. -/
structure Continues (query cursor : Cursor) (binds : Binds) (next : Cursor) : Prop where
  same : SameQuery query next
  binds : next.binds = binds
  cleared : next.error = .cleared
  faked : next.bindsWereFaked = cursor.bindsWereFaked
  fakedQuery : next.queryWithFakeInputBinds = cursor.queryWithFakeInputBinds
  preProcessed : next.hasBeenPreProcessed = true
  prepared :
    next.hasBeenPrepared = (cursor.hasBeenPrepared && !query.fakeInputBindsForThisQuery)
  handled : next.resultSetHeaderHasBeenHandled = true →
    query.fakeInputBindsForThisQuery = false ∧ server.translatesHeader query.query = true

/-- Every execution of the cursor goes on with this query. -/
def Executable (query cursor : Cursor) : Prop :=
  ∀ call : ExecuteCall, ∃ events next, (∀ event ∈ events, event.Rewrites) ∧
    server.Continues query cursor (call.rebind.getD cursor.binds) next ∧
    server.executeQuery enabled call cursor =
      (server.executeFaked enabled call (server.fakeBinds next)).prepend events

/-- A cursor that has been executed can be executed again. -/
theorem executable_of_executed {query cursor : Cursor} (same : SameQuery query cursor)
    (executed : cursor.hasBeenExecuted = true) (preProcessed : cursor.hasBeenPreProcessed = true) :
    server.Executable enabled query cursor := by
  intro call
  refine ⟨[], resetForReexecution { cursor with binds := call.rebind.getD cursor.binds }, by simp,
    ?_, ?_⟩
  · simp only [resetForReexecution, executed, if_true]
    exact {
      same := ⟨same.text, same.queryType, same.needsIntercept, same.fakes, same.mappings⟩
      binds := rfl
      cleared := rfl
      faked := rfl
      fakedQuery := rfl
      preProcessed := preProcessed
      prepared := by rw [same.fakes]
      handled := by simp }
  · simp [executeQuery, resetForReexecution, executed, preProcessed]

/-- What `prepareQuery` leaves when it succeeds. -/
structure Prepared (start : Cursor) : Prop where
  notExecuted : start.hasBeenExecuted = false
  notFaked : start.bindsWereFaked = false
  cleared : start.error = .cleared
  prepared : start.hasBeenPrepared = true → start.hasBeenPreProcessed = true ∧
    start.needsIntercept = false ∧ start.fakeInputBindsForThisQuery = false
  handled : start.resultSetHeaderHasBeenHandled = true → start.hasBeenPrepared = true ∧
    server.translatesHeader start.query = true

theorem prepare_goesOnIn (answers : PrepareAnswers) (cursor : Cursor) :
    (server.prepare enabled answers cursor.query cursor.query cursor).GoesOnIn
      (· = { cursor with hasBeenPrepared := true }) := by
  intro ok
  simp only [prepare, Bool.and_eq_true] at ok
  simp only [prepare, ok.1, ok.2, if_true, Bool.true_and, Bool.or_true]

theorem prepared_of_prepareQuery {answers : PrepareAnswers} {text : List Byte} {before : Cursor}
    (prepares : (server.prepareQuery enabled answers text before).ok = true) :
    server.Prepared (server.prepareQuery enabled answers text before).state := by
  revert prepares
  change (server.prepareQuery enabled answers text before).GoesOnIn server.Prepared
  rw [prepareQuery]
  have first : (store text (text.take server.maxQuerySize) (server.resetFlags before)).GoesOnIn
      (· = { server.resetFlags before with query := text.take server.maxQuerySize }) :=
    fun _ => rfl
  refine Progress.goesOnIn_andThen first ?_
  intro start stored
  split
  · rw [Progress.goesOnIn_pass, stored]
    exact ⟨rfl, rfl, rfl, by simp [resetFlags], by simp [resetFlags]⟩
  refine Progress.goesOnIn_andThen (server.preProcess_goesOnIn enabled start) ?_
  intro query ⟨untouched, preProcessed⟩
  rw [stored] at untouched
  have unprepared : query.hasBeenPrepared = false := untouched.prepared
  have unhandled : query.resultSetHeaderHasBeenHandled = false := untouched.handled
  rw [prepareNow]
  split
  next deferred =>
    rw [Progress.goesOnIn_pass]
    exact ⟨untouched.executed, untouched.faked, untouched.error, by simp [unprepared],
      by simp [unhandled]⟩
  next native =>
    rw [Bool.not_eq_true, Bool.or_eq_false_iff] at native
    have ready : server.Prepared { query with hasBeenPrepared := true } :=
      ⟨untouched.executed, untouched.faked, untouched.error,
        fun _ => ⟨preProcessed, native.1, native.2⟩, by simp [unhandled]⟩
    refine Progress.goesOnIn_andThen (server.prepare_goesOnIn enabled answers query) ?_
    intro prepared same
    rw [same]
    split
    · intro accepted
      have accepted : server.translatesHeader query.query = true := by
        simpa [handleResultSetHeader, unhandled] using accepted
      exact ⟨ready.notExecuted, ready.notFaked, ready.cleared, ready.prepared,
        fun _ => ⟨rfl, accepted⟩⟩
    · rwa [Progress.goesOnIn_pass]

/-- A prepared cursor can be executed. -/
theorem executable_of_prepared {start : Cursor} (prepared : server.Prepared start)
    (processed : (server.processed enabled start).ok = true) :
    server.Executable enabled (server.processed enabled start).state start := by
  intro call
  have fresh (binds : Binds) : resetForReexecution { start with binds := binds } =
      start.withBinds binds := by
    rw [resetForReexecution, if_neg (by simp [prepared.notExecuted]), Cursor.withBinds]
  rw [executeQuery, fresh]
  generalize call.rebind.getD start.binds = binds
  cases done : start.hasBeenPreProcessed with
  | true =>
      refine ⟨[], start.withBinds binds, by simp, ?_, by simp [Cursor.withBinds, done]⟩
      rw [Server.processed, if_pos done]
      exact {
        same := ⟨rfl, rfl, rfl, rfl, rfl⟩
        binds := rfl
        cleared := prepared.cleared
        faked := rfl
        fakedQuery := rfl
        preProcessed := done
        prepared := by
          cases ready : start.hasBeenPrepared with
          | true => simp [Cursor.withBinds, ready, (prepared.prepared ready).2.2]
          | false => simp [Cursor.withBinds, ready]
        handled := by
          intro handled
          have ready := prepared.handled handled
          exact ⟨(prepared.prepared ready.1).2.2, ready.2⟩ }
  | false =>
      have unprepared : start.hasBeenPrepared = false := by
        cases ready : start.hasBeenPrepared with
        | true => simp [(prepared.prepared ready).1] at done
        | false => rfl
      have unhandled : start.resultSetHeaderHasBeenHandled = false := by
        cases handled : start.resultSetHeaderHasBeenHandled with
        | true => simp [(prepared.handled handled).1] at unprepared
        | false => rfl
      have query : server.processed enabled start = server.preProcess enabled start := by
        rw [Server.processed, if_neg (by simp [done])]
      rw [query] at processed ⊢
      obtain ⟨untouched, preProcessed⟩ := server.preProcess_goesOnIn enabled start processed
      refine ⟨(server.preProcess enabled start).events,
        (server.preProcess enabled start).state.withBinds binds,
        server.preProcess_all enabled start, ?_, ?_⟩
      · exact {
          same := ⟨rfl, rfl, rfl, rfl, rfl⟩
          binds := rfl
          cleared := untouched.error.trans prepared.cleared
          faked := untouched.faked
          fakedQuery := untouched.fakedQuery
          preProcessed := preProcessed
          prepared := by
            rw [unprepared, Bool.false_and]
            exact untouched.prepared.trans unprepared
          handled := by
            intro handled
            have := (untouched.handled.trans unhandled).symm.trans handled
            contradiction }
      · have split : (start.withBinds binds).hasBeenPreProcessed = false := done
        have rewritten :
            ((server.preProcess enabled start).map (Cursor.withBinds binds)).ok = true := processed
        rw [if_neg (by simp [split]), preProcess_withBinds, Progress.andThen_of_ok rewritten]
        rfl

section Outcome

variable {server enabled} {query cursor : Cursor} {call : ExecuteCall}

/-- The text that an execution sends. -/
def textFor (server : Server Tree) (query cursor : Cursor) (binds : Binds) : List Byte :=
  if fakesNow query binds then sized (server.faker.fakeInputBinds binds.input query.query)
  else if cursor.bindsWereFaked then sized cursor.queryWithFakeInputBinds
  else query.query

/-- The binds that the driver gets besides. -/
def boundFor (query cursor : Cursor) (binds : Binds) : List Binds :=
  if fakesNow query binds || cursor.bindsWereFaked then []
  else [binds.rename query.bindMappings]

/-- The driver gets the query at all. -/
def sends (server : Server Tree) (enabled : Enabled) (query cursor : Cursor) : Bool :=
  (enabled.triggers && server.triggers) || !query.needsIntercept ||
    !(cursor.hasBeenPrepared && !query.fakeInputBindsForThisQuery)

theorem fakeBinds_of_continues {binds : Binds} {next : Cursor}
    (continues : server.Continues query cursor binds next) :
    handedOver (server.fakeBinds next) = server.textFor query cursor binds ∧
      (server.fakeBinds next).bindsWereFaked = (fakesNow query binds || cursor.bindsWereFaked) := by
  rw [handedOver, fakeBinds, continues.same.fakes, continues.binds, textFor, fakesNow]
  cases query.fakeInputBindsForThisQuery && !binds.input.isEmpty with
  | true => simp [continues.same.text]
  | false => simp [continues.faked, continues.fakedQuery, continues.same.text]

/-- The outcome of an execution, in terms of what it goes on with. -/
theorem outcome_of_executable (executable : server.Executable enabled query cursor)
    (succeeds : call.Succeeds) (notIntercepted : query.queryType.intercepted = false)
    (stale : cursor.bindsWereFaked = true → query.fakeInputBindsForThisQuery = true) :
    outcome (server.executeQuery enabled call cursor) =
      server.result enabled call (server.sends enabled query cursor)
        (server.textFor query cursor (call.rebind.getD cursor.binds))
        (boundFor query cursor (call.rebind.getD cursor.binds)) := by
  obtain ⟨events, next, rewrites, continues, executes⟩ := executable call
  obtain ⟨text, faked⟩ := server.fakeBinds_of_continues continues
  have cleared : (server.fakeBinds next).error = .cleared := by
    rw [fakeBinds_error, continues.cleared]
  have type : (server.fakeBinds next).queryType.intercepted = false := by
    rw [fakeBinds_queryType, continues.same.queryType, notIntercepted]
  have handled (done : (server.fakeBinds next).resultSetHeaderHasBeenHandled = true) :
      server.translatesHeader (handedOver (server.fakeBinds next)) = true := by
    rw [fakeBinds_resultSetHeaderHasBeenHandled] at done
    obtain ⟨native, accepted⟩ := continues.handled done
    have fresh : cursor.bindsWereFaked = false := by
      cases left : cursor.bindsWereFaked with
      | true => simp [stale left] at native
      | false => rfl
    rw [text, textFor, fakesNow, native, fresh]
    exact accepted
  rw [executes, outcome_prepend rewrites, executeFaked_outcome succeeds _ cleared type handled, text,
    faked, fakeBinds_binds, fakeBinds_bindMappings, continues.binds, continues.same.mappings,
    fakeBinds_needsIntercept, fakeBinds_hasBeenPrepared, continues.same.needsIntercept,
    continues.prepared]
  rfl

end Outcome

section Run

variable {server enabled} {query start : Cursor} {state : BoundCursor}

/-- What a run of executions keeps. -/
structure Running (server : Server Tree) (enabled : Enabled) (query : Cursor)
    (state : BoundCursor) : Prop where
  executable : server.Executable enabled query state.cursor
  stale : state.cursor.bindsWereFaked = true → query.fakeInputBindsForThisQuery = true
  inputs : state.cursor.binds.input.isEmpty = state.set.input.isEmpty

theorem Running.rebind_inputs (running : Running server enabled query state)
    (call : ExecuteCall) :
    (call.rebind.getD state.cursor.binds).input.isEmpty =
      (call.rebind.getD state.set).input.isEmpty := by
  cases call.rebind with
  | none => exact running.inputs
  | some binds => rfl

theorem Running.step (notIntercepted : query.queryType.intercepted = false)
    (running : Running server enabled query state) (call : SucceedingCall) :
    Running server enabled query (server.step enabled state call) := by
  obtain ⟨events, next, -, continues, executes⟩ := running.executable call.1
  obtain ⟨_, faked⟩ := server.fakeBinds_of_continues continues
  have cleared : (server.fakeBinds next).error = .cleared := by
    rw [fakeBinds_error, continues.cleared]
  have type : (server.fakeBinds next).queryType.intercepted = false := by
    rw [fakeBinds_queryType, continues.same.queryType, notIntercepted]
  obtain ⟨error, handled, after⟩ := @executeFaked_state _ server enabled _ call.2 _ cleared type
  have left : (server.step enabled state call).cursor = { ready (server.fakeBinds next) with
      hasBeenExecuted := true
      error := error
      resultSetHeaderHasBeenHandled := handled } := by
    rw [Server.step, executes, Progress.prepend_state, after]
  constructor
  · apply executable_of_executed
    · rw [left]
      exact ⟨(fakeBinds_query ..).trans continues.same.text,
        (fakeBinds_queryType ..).trans continues.same.queryType,
        (fakeBinds_needsIntercept ..).trans continues.same.needsIntercept,
        (fakeBinds_fakeInputBindsForThisQuery ..).trans continues.same.fakes,
        (fakeBinds_bindMappings ..).trans continues.same.mappings⟩
    · rw [left]
    · rw [left]
      exact (fakeBinds_hasBeenPreProcessed ..).trans continues.preProcessed
  · rw [left]
    change (server.fakeBinds next).bindsWereFaked = true → _
    rw [faked, Bool.or_eq_true]
    intro set
    rcases set with now | before
    · rw [fakesNow, Bool.and_eq_true] at now
      exact now.1
    · exact running.stale before
  · rw [left]
    change ((server.fakeBinds next).binds.rename _).input.isEmpty = _
    rw [fakeBinds_binds, continues.binds, Binds.rename, List.isEmpty_map,
      running.rebind_inputs call.1]
    rfl

/-- The start of a run, as every execution is compared with it. -/
structure Starts (server : Server Tree) (enabled : Enabled) (query start : Cursor) : Prop where
  executable : server.Executable enabled query start
  notFaked : start.bindsWereFaked = false
  unprepared : query.needsIntercept = true → start.hasBeenPrepared = false

theorem starts_of_prepared (prepared : server.Prepared start)
    (processed : (server.processed enabled start).ok = true) :
    Starts server enabled (server.processed enabled start).state start := by
  refine ⟨server.executable_of_prepared enabled prepared processed, prepared.notFaked, ?_⟩
  intro intercept
  cases ready : start.hasBeenPrepared with
  | false => rfl
  | true =>
      obtain ⟨preProcessed, noIntercept, _⟩ := prepared.prepared ready
      rw [Server.processed, if_pos preProcessed, Progress.pass_state, noIntercept] at intercept
      contradiction

/-- A first execution sends the one text. -/
theorem Starts.outcome (starts : Starts server enabled query start)
    (notIntercepted : query.queryType.intercepted = false) (call : SucceedingCall) (set : Binds) :
    outcome (server.executeQuery enabled { call.1 with rebind := some set } start) =
      server.result enabled call.1 true (server.sentText query set) (boundFor query start set) := by
  have succeeds : ExecuteCall.Succeeds { call.1 with rebind := some set } :=
    ⟨call.2.1, call.2.2, call.2.3, call.2.4, call.2.5, call.2.6⟩
  have sent : server.sends enabled query start = true := by
    cases intercept : query.needsIntercept with
    | false => simp [sends, intercept]
    | true => simp [sends, starts.unprepared intercept]
  rw [outcome_of_executable starts.executable succeeds notIntercepted (by simp [starts.notFaked]),
    sent, textFor, starts.notFaked]
  rfl

theorem result_sent_iff {call : ExecuteCall} {sent : Bool} {text expected : List Byte}
    {bound expectedBound : List Binds} :
    ((server.result enabled call sent text bound).executions = [expected] ∧
      server.result enabled call sent text bound =
        server.result enabled call true expected expectedBound) ↔
      sent = true ∧ text = expected ∧ bound = expectedBound := by
  constructor
  · rintro ⟨once, same⟩
    have sameBound : bound = expectedBound := congrArg Outcome.bound same
    cases sent with
    | false => simp [result] at once
    | true => exact ⟨rfl, by simpa [result] using once, sameBound⟩
  · rintro ⟨sent, text, bound⟩
    subst sent text bound
    exact ⟨rfl, rfl⟩

theorem sends_iff {query cursor : Cursor} : server.sends enabled query cursor = true ↔
    (query.needsIntercept = true → (enabled.triggers && server.triggers) = true ∨
      query.fakeInputBindsForThisQuery = true ∨ cursor.hasBeenPrepared = false) := by
  rw [sends]
  cases enabled.triggers && server.triggers <;> cases query.needsIntercept <;>
    cases query.fakeInputBindsForThisQuery <;> cases cursor.hasBeenPrepared <;> simp

/-- The query goes out as the first time exactly if the condition is met. -/
theorem likeFirst_iff (starts : Starts server enabled (server.processed enabled start).state start)
    (notIntercepted : (server.processed enabled start).state.queryType.intercepted = false)
    (running : Running server enabled (server.processed enabled start).state state)
    (call : SucceedingCall) :
    server.LikeFirst enabled start state call ↔ server.Repeats enabled start state call := by
  have inputs := running.rebind_inputs call.1
  have now := outcome_of_executable running.executable call.2 notIntercepted running.stale
  have first := starts.outcome notIntercepted call (call.1.rebind.getD state.set)
  have sent : executions (server.executeQuery enabled call.1 state.cursor).events =
      (outcome (server.executeQuery enabled call.1 state.cursor)).executions := rfl
  simp only [LikeFirst, Repeats]
  rw [sent, now, first, result_sent_iff, sends_iff]
  apply and_congr_right
  intro _
  have noneLeft := starts.notFaked
  have stale := running.stale
  generalize (server.processed enabled start).state = query at stale ⊢
  generalize call.1.rebind.getD state.set = set at inputs ⊢
  generalize call.1.rebind.getD state.cursor.binds = binds at inputs ⊢
  have same : fakesNow query binds = fakesNow query set := by rw [fakesNow, fakesNow, inputs]
  simp only [textFor, boundFor, sentText, same, noneLeft]
  cases now : fakesNow query set with
  | true =>
      -- the text is made from the binds
      have nonempty : binds.input ≠ [] := by
        rw [← same, fakesNow, Bool.and_eq_true, Bool.not_eq_true'] at now
        exact List.isEmpty_eq_false_iff.mp now.2
      simp [nonempty]
  | false =>
      cases left : state.cursor.bindsWereFaked with
      | true =>
          -- an old text goes out and the binds do not
          have empty : binds.input = [] := by
            rw [← same, fakesNow, stale left, Bool.true_and, Bool.not_eq_false'] at now
            exact List.isEmpty_iff.mp now
          simp [stale left, empty]
      | false => simp

end Run

/-- For every server, every cursor and every query that is neither filtered nor
replaced by a controller call, and every run of executions in which the preparation,
the binds and the triggers succeed: each of them sends the query once and comes out
like the first exactly if each of them meets its condition. -/
theorem executions_likeFirst_iff (answers : PrepareAnswers) (text : List Byte) (before : Cursor)
    (calls : List SucceedingCall) :
    let start := (server.prepareQuery enabled answers text before).state
    (server.prepareQuery enabled answers text before).ok = true →
      (server.processed enabled start).ok = true →
      (server.processed enabled start).state.queryType.intercepted = false →
      (Along (server.step enabled) (server.LikeFirst enabled start) ⟨start, start.binds⟩ calls ↔
        Along (server.step enabled) (server.Repeats enabled start) ⟨start, start.binds⟩ calls) := by
  intro start prepares processed notIntercepted
  have prepared := server.prepared_of_prepareQuery enabled prepares
  have starts := starts_of_prepared prepared processed
  have initial : Running server enabled (server.processed enabled start).state
      ⟨start, start.binds⟩ :=
    ⟨starts.executable, fun left => by simp [start, starts.notFaked] at left, rfl⟩
  exact Along.iff_guard (fun _ call running _ => running.step notIntercepted call)
    (fun _ call running => likeFirst_iff starts notIntercepted running call) initial

end Server

/-! ## One query, executed twice -/

/-- Nothing is loaded or configured. -/
def plainServer : Server Empty where
  translator := ⟨⟨true, true, true, true⟩, false, .colon, 64, by decide, fun _ => false⟩
  faker := ⟨⟨true, true, true, true⟩, false, false⟩
  fakeInputBinds := false
  filters := none
  translations := none
  triggers := false
  noopQuery := []
  beginTransactionQuery := ascii "begin"
  supportsNativeBinds := fun _ => true
  columnInfoIsValidAfterPrepare := false
  translatesHeader := fun _ => true
  memory := []

def nothingEnabled : Enabled := ⟨false, false, false, false, false⟩

def plainAnswers : PrepareAnswers := ⟨true, .cleared, true⟩

/-- A query without binds that the driver executes. -/
def plainCall : SucceedingCall :=
  ⟨⟨plainAnswers, none, true, .cleared, true, .cleared, true, false, true, .cleared, true, id⟩,
    ⟨rfl, rfl, rfl, rfl, rfl, rfl⟩⟩

def newCursor : Cursor :=
  ⟨[], .etc, false, false, false, false, false, false, false, false, [], [], ⟨[], [], []⟩, .cleared⟩

/-- `select 1` -/
theorem executions_likeFirst_iff_select :
    let start := (plainServer.prepareQuery nothingEnabled plainAnswers (ascii "select 1")
      newCursor).state
    Along (plainServer.step nothingEnabled) (plainServer.LikeFirst nothingEnabled start)
      ⟨start, start.binds⟩ [plainCall, plainCall] := by
  refine (plainServer.executions_likeFirst_iff nothingEnabled plainAnswers (ascii "select 1")
    newCursor [plainCall, plainCall] (by decide) (by decide) (by decide)).mpr ?_
  refine ⟨⟨?_, ?_, ?_⟩, ⟨?_, ?_, ?_⟩, trivial⟩
  all_goals decide

/-- The database is to run `set autocommit=1` with other settings; executed a second
time without triggers, the query is not sent and the call fails. -/
theorem not_executions_likeFirst :
    let start := (plainServer.prepareQuery nothingEnabled plainAnswers
      (ascii "set names=1, autocommit = 1") newCursor).state
    ¬Along (plainServer.step nothingEnabled) (plainServer.LikeFirst nothingEnabled start)
      ⟨start, start.binds⟩ [plainCall, plainCall] := by
  intro start along
  have once : executions (plainServer.executeQuery nothingEnabled plainCall.1
      (plainServer.step nothingEnabled ⟨start, start.binds⟩ plainCall).cursor).events = [] := by
    decide
  have sent := along.2.1.1
  rw [once] at sent
  contradiction

end SqlRelay.Pipeline
