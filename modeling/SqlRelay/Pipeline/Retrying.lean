import SqlRelay.Pipeline.WholeQuery

/-!
# Trying a query again

When the database has gone away, the client protocol logs in again and has the query prepared and executed
once more, out of the query buffer and with the binds of the cursor, which earlier attempts have rewritten.
It comes to the same if the rewriting leaves what it has made as it is.
-/

namespace SqlRelay.Pipeline

open SqlRelay.Foundation SqlRelay.Bind SqlRelay.Query

/-- What the driver and the triggers answer while a query is prepared and executed. -/
structure Attempt where
  prepare : PrepareAnswers
  execute : ExecuteCall

/-- The binds of a query that is tried again are not read again. -/
def Attempt.call (answers : Attempt) : ExecuteCall := { answers.execute with rebind := none }

/-- Whether an event is a call of the driver. -/
def Event.reachesDriver : Event → Bool
  | .prepare .. | .bind .. | .execute .. => true
  | .write .. | .handOver .. | .append .. => false

/-- What the driver is given. -/
def reaching (events : List Event) : List Event := events.filter Event.reachesDriver

namespace Server

variable {Tree : Type} (server : Server Tree) (enabled : Enabled)

/-- One round of the loop in `processQueryOrBindCursor`.  The binds are those that the cursor has. -/
def attempt (answers : Attempt) (cursor : Cursor) : Stage :=
  (server.prepareQuery enabled answers.prepare cursor.query cursor).andThen
    (server.executeQuery enabled answers.call)

/-- What an attempt leaves, which the next one begins with. -/
def retry (cursor : Cursor) (answers : Attempt) : Cursor := (server.attempt enabled answers cursor).state

/-- The cursor with its query and its flags reset. -/
def given (cursor : Cursor) : Cursor :=
  { server.resetFlags cursor with query := cursor.query.take server.maxQuerySize }

/-- The query of the cursor, rewritten. -/
def rewritten (cursor : Cursor) : Stage := server.preProcess enabled (server.given cursor)

/-- An attempt fails with a query that was rewritten.  One that is rejected by a filter or can't be translated
is not tried again, as the database is still there then. -/
def Fails (cursor : Cursor) (answers : Attempt) : Prop :=
  (server.rewritten enabled cursor).ok = true ∧ (server.attempt enabled answers cursor).ok = false

/-- The names that the binds may have by the time of an attempt: each attempt that comes to the binds renames
them, the first one as the query of the client says, and later ones as the rewritten query does. -/
inductive Renamed (first again : Mappings) (binds : Binds) : Binds → Prop where
  | set : Renamed first again binds binds
  | first : Renamed first again binds (binds.rename first)
  | again {renamed : Binds} (earlier : Renamed first again binds renamed) :
      Renamed first again binds (renamed.rename again)

/-- The query is not for the driver. -/
def intercepts (query : Cursor) : Bool := query.needsIntercept && query.queryType.intercepted

/-- The text for the driver, and the binds if they are not in the text. -/
def sent (query : Cursor) (binds : Binds) : List Byte × Option Binds :=
  if fakesNow query binds then (server.faker.fakeInputBinds binds.input query.query, none)
  else (query.query, some (binds.rename query.bindMappings))

/-- The rewriting accepts what it has made itself and leaves it as it is, its text and how its binds are
handled, and whatever their names are by then, the binds come to the same. -/
structure Stable (cursor : Cursor) : Prop where
  ok : (server.rewritten enabled (server.rewritten enabled cursor).state).ok = true
  query : (server.rewritten enabled (server.rewritten enabled cursor).state).state.query =
    (server.rewritten enabled cursor).state.query
  queryType : (server.rewritten enabled (server.rewritten enabled cursor).state).state.queryType =
    (server.rewritten enabled cursor).state.queryType
  fakes :
    (server.rewritten enabled (server.rewritten enabled cursor).state).state.fakeInputBindsForThisQuery =
      (server.rewritten enabled cursor).state.fakeInputBindsForThisQuery
  binds : intercepts (server.rewritten enabled cursor).state = false → ∀ binds,
    Renamed (server.rewritten enabled cursor).state.bindMappings
        (server.rewritten enabled (server.rewritten enabled cursor).state).state.bindMappings
        cursor.binds binds →
      server.sent (server.rewritten enabled (server.rewritten enabled cursor).state).state binds =
        server.sent (server.rewritten enabled cursor).state cursor.binds

/-! ## What the rewriting depends on -/

/-- Two cursors with the same query, as far as it has been rewritten. -/
structure SameRewriting (cursor other : Cursor) : Prop where
  query : cursor.query = other.query
  queryType : cursor.queryType = other.queryType
  fakes : cursor.fakeInputBindsForThisQuery = other.fakeInputBindsForThisQuery
  mappings : cursor.bindMappings = other.bindMappings

/-- And it is rewritten, but neither prepared nor executed. -/
structure SameProcessed (cursor other : Cursor) : Prop extends SameRewriting cursor other where
  needsIntercept : cursor.needsIntercept = other.needsIntercept

variable {server enabled} {cursor other : Cursor}

/-- To whom sees the driver only. -/
abbrev SeemsAlike (related : Cursor → Cursor → Prop) (stage otherStage : Stage) : Prop :=
  stage.Alike Event.reachesDriver related otherStage

theorem seemsAlike_pass {related : Cursor → Cursor → Prop} (same : related cursor other) :
    SeemsAlike related (.pass cursor) (.pass other) :=
  ⟨rfl, rfl, fun _ => same⟩

theorem seemsAlike_stop {related : Cursor → Cursor → Prop} (cursor other : Cursor) :
    SeemsAlike related (.stop cursor) (.stop other) :=
  ⟨rfl, rfl, fun impossible => absurd impossible Bool.false_ne_true⟩

theorem SameRewriting.store (same : SameRewriting cursor other) (text written : List Byte) :
    SeemsAlike SameRewriting (store text written cursor) (store text written other) :=
  ⟨rfl, rfl, fun _ => ⟨rfl, same.queryType, same.fakes, same.mappings⟩⟩

theorem SameRewriting.filterQuery (same : SameRewriting cursor other) (before : Bool) :
    SeemsAlike SameRewriting (server.filterQuery enabled before cursor)
      (server.filterQuery enabled before other) := by
  unfold Server.filterQuery
  rw [same.query]
  cases server.filters with
  | none => exact seemsAlike_pass same
  | some filters =>
      dsimp only
      split
      · split
        · exact seemsAlike_pass same
        · exact seemsAlike_stop _ _
      · exact seemsAlike_pass same

theorem SameRewriting.storeTranslated (same : SameRewriting cursor other) (text : List Byte) :
    SeemsAlike SameRewriting (server.storeTranslated text cursor)
      (server.storeTranslated text other) := by
  unfold Server.storeTranslated
  split
  · exact seemsAlike_stop _ _
  · exact same.store _ _

theorem SameRewriting.asked (same : SameRewriting cursor other) (translations : Translations Tree) :
    SameRewriting (asked translations cursor) (asked translations other) := by
  refine ⟨same.query, same.queryType, ?_, same.mappings⟩
  unfold Server.asked
  dsimp only
  rw [same.fakes, same.query]

theorem SameRewriting.translateQuery (same : SameRewriting cursor other) :
    SeemsAlike SameRewriting (server.translateQuery enabled cursor)
      (server.translateQuery enabled other) := by
  rcases server.translateQuery_cases enabled cursor with
    unused | ⟨translations, events, result, present, used, answer⟩
  · rw [translateQuery_of_unused server enabled cursor unused,
      translateQuery_of_unused server enabled other unused]
    exact seemsAlike_pass same
  · have asked := same.asked translations
    have sameAnswer := answer
    rw [same.query] at sameAnswer
    cases result with
    | error error =>
        rw [translateQuery_of_error present used answer, translateQuery_of_error present used sameAnswer]
        split
        · exact ⟨rfl, rfl, fun _ => asked⟩
        · exact ⟨rfl, rfl, fun impossible => absurd impossible Bool.false_ne_true⟩
    | ok text =>
        rw [translateQuery_of_ok present used answer, translateQuery_of_ok present used sameAnswer]
        have stored := @SameRewriting.storeTranslated Tree server _ _ asked text
        refine ⟨stored.ok, ?_, stored.state⟩
        rw [List.filter_append, List.filter_append, stored.events]

theorem SameRewriting.determineQueryType (same : SameRewriting cursor other) :
    SameRewriting (determineQueryType cursor) (determineQueryType other) := by
  refine ⟨same.query, ?_, same.fakes, same.mappings⟩
  unfold Server.determineQueryType
  dsimp only
  rw [same.query]

theorem SameRewriting.translateBindVariables (same : SameRewriting cursor other) :
    SeemsAlike SameRewriting (server.translateBindVariables enabled cursor)
      (server.translateBindVariables enabled other) := by
  unfold Server.translateBindVariables
  dsimp only
  rw [same.query]
  split
  · split
    · exact ⟨rfl, rfl, fun _ => ⟨rfl, same.queryType, same.fakes, rfl⟩⟩
    · exact seemsAlike_pass ⟨rfl, same.queryType, same.fakes, rfl⟩
  · exact seemsAlike_pass same

theorem SameRewriting.translateBeginTransaction (same : SameRewriting cursor other) :
    SeemsAlike SameRewriting (server.translateBeginTransaction enabled cursor)
      (server.translateBeginTransaction enabled other) := by
  unfold Server.translateBeginTransaction
  rw [same.queryType]
  split
  · exact same.store _ _
  · exact seemsAlike_pass same

theorem SameRewriting.finishPreProcessing (same : SameRewriting cursor other) :
    SameProcessed (server.finishPreProcessing cursor) (server.finishPreProcessing other) := by
  unfold Server.finishPreProcessing
  refine ⟨⟨same.query, same.queryType, ?_, same.mappings⟩, ?_⟩
  · dsimp only
    rw [same.fakes, same.query]
  · dsimp only
    rw [same.queryType]

/-- The rewriting depends on the query, and whether its binds are to be faked. -/
theorem preProcess_seemsAlike (query : cursor.query = other.query)
    (fakes : cursor.fakeInputBindsForThisQuery = other.fakeInputBindsForThisQuery) :
    SeemsAlike SameProcessed (server.preProcess enabled cursor) (server.preProcess enabled other) := by
  have start : SameRewriting (determineQueryType { cursor with bindMappings := [] })
      (determineQueryType { other with bindMappings := [] }) := by
    refine ⟨query, ?_, fakes, rfl⟩
    unfold determineQueryType
    dsimp only
    rw [query]
  unfold preProcess
  apply Progress.alike_andThen (start.filterQuery true)
  intro cursor other same
  apply Progress.alike_andThen same.translateQuery
  intro cursor other same
  apply Progress.alike_andThen same.determineQueryType.translateBindVariables
  intro cursor other same
  apply Progress.alike_andThen same.translateBeginTransaction
  intro cursor other same
  apply Progress.alike_andThen (same.filterQuery false)
  intro cursor other same
  exact seemsAlike_pass same.finishPreProcessing

theorem rewritten_seemsAlike (query : cursor.query = other.query) :
    SeemsAlike SameProcessed (server.rewritten enabled cursor) (server.rewritten enabled other) := by
  apply preProcess_seemsAlike
  · change cursor.query.take _ = other.query.take _
    rw [query]
  · rfl

/-! ## One attempt -/

/-- An execution of a query that has been rewritten. -/
theorem executeQuery_of_preProcessed (answers : Attempt) (executed : cursor.hasBeenExecuted = false)
    (preProcessed : cursor.hasBeenPreProcessed = true) :
    server.executeQuery enabled answers.call cursor =
      server.executeFaked enabled answers.call (server.fakeBinds cursor) := by
  have fresh : resetForReexecution { cursor with binds := answers.call.rebind.getD cursor.binds } = cursor := by
    rw [resetForReexecution, if_neg (by simp [executed])]
    rfl
  rw [executeQuery, fresh, if_pos preProcessed, Progress.pass_andThen]

theorem executeQuery_of_not_preProcessed (answers : Attempt) (executed : cursor.hasBeenExecuted = false)
    (notPreProcessed : cursor.hasBeenPreProcessed = false) :
    server.executeQuery enabled answers.call cursor =
      (server.preProcess enabled cursor).andThen fun query =>
        server.executeFaked enabled answers.call (server.fakeBinds query) := by
  have fresh : resetForReexecution { cursor with binds := answers.call.rebind.getD cursor.binds } = cursor := by
    rw [resetForReexecution, if_neg (by simp [executed])]
    rfl
  rw [executeQuery, fresh, if_neg (by simp [notPreProcessed])]

/-- The query is in the query buffer already. -/
theorem prepareQuery_given (answers : PrepareAnswers) (cursor : Cursor) :
    server.prepareQuery enabled answers cursor.query cursor =
      (if server.fakeInputBinds then .pass (server.given cursor)
        else (server.rewritten enabled cursor).andThen (server.prepareNow enabled answers)).prepend
        [.write cursor.query (cursor.query.take server.maxQuerySize)] := by
  rw [prepareQuery, store, Progress.mk_true_andThen]
  rfl

/-- Whether a query is prepared at once or not, an attempt rewrites it once. -/
theorem attempt_eq (answers : Attempt) (cursor : Cursor) :
    server.attempt enabled answers cursor =
      ((server.rewritten enabled cursor).andThen fun query =>
        (server.prepareNow enabled answers.prepare query).andThen fun prepared =>
          server.executeFaked enabled answers.call (server.fakeBinds prepared)).prepend
        [.write cursor.query (cursor.query.take server.maxQuerySize)] := by
  have rewrites := server.preProcess_goesOnIn enabled (server.given cursor)
  rw [attempt, prepareQuery_given, Progress.prepend_andThen]
  apply congrArg (Progress.prepend _)
  cases fakes : server.fakeInputBinds with
  | true =>
      rw [if_pos rfl, Progress.pass_andThen, executeQuery_of_not_preProcessed answers rfl rfl]
      apply Progress.andThen_congr
      intro ok
      have faked := (rewrites ok).1.fakes fakes
      rw [prepareNow, faked, Bool.or_true, if_pos rfl, Progress.pass_andThen]
  | false =>
      rw [if_neg Bool.false_ne_true, Progress.andThen_assoc]
      apply Progress.andThen_congr
      intro ok
      obtain ⟨untouched, preProcessed⟩ := rewrites ok
      apply Progress.andThen_congr
      intro _
      obtain ⟨_, prepared, handled, error, state⟩ :=
        server.prepareNow_leaves enabled answers.prepare (server.rewritten enabled cursor).state
      apply executeQuery_of_preProcessed
      · rw [state]
        exact untouched.executed
      · rw [state]
        exact preProcessed

/-! ## The driver's part -/

/-- Two cursors that give the driver the same text, and have come as far. -/
structure SameHanded (cursor other : Cursor) : Prop where
  text : driverQuery cursor = driverQuery other
  given : handedOver cursor = handedOver other
  faked : cursor.bindsWereFaked = other.bindsWereFaked
  prepared : cursor.hasBeenPrepared = other.hasBeenPrepared
  handled : cursor.resultSetHeaderHasBeenHandled = other.resultSetHeaderHasBeenHandled
  error : cursor.error = other.error

/-- And the same binds, unless they are in the text. -/
structure SameNamed (cursor other : Cursor) : Prop extends SameHanded cursor other where
  bound : cursor.bindsWereFaked = false →
    cursor.binds.rename cursor.bindMappings = other.binds.rename other.bindMappings

theorem prepare_seemsAlike {related : Cursor → Cursor → Prop} (answers : PrepareAnswers)
    (text handed : List Byte) (error : cursor.error = other.error)
    (prepared : cursor.hasBeenPrepared = other.hasBeenPrepared)
    (kept : ∀ error prepared, related { cursor with error := error, hasBeenPrepared := prepared }
      { other with error := error, hasBeenPrepared := prepared }) :
    SeemsAlike related (server.prepare enabled answers text handed cursor)
      (server.prepare enabled answers text handed other) := by
  unfold Server.prepare
  rw [error, prepared]
  exact ⟨rfl, rfl, fun _ => kept _ _⟩

theorem handleResultSetHeader_seemsAlike {related : Cursor → Cursor → Prop} (text : List Byte)
    (handled : cursor.resultSetHeaderHasBeenHandled = other.resultSetHeaderHasBeenHandled)
    (kept : related { cursor with resultSetHeaderHasBeenHandled := true }
      { other with resultSetHeaderHasBeenHandled := true }) :
    SeemsAlike related (server.handleResultSetHeader text cursor)
      (server.handleResultSetHeader text other) := by
  unfold Server.handleResultSetHeader
  rw [handled]
  exact ⟨rfl, rfl, fun _ => kept⟩

theorem SameNamed.getQuery (same : SameNamed cursor other) :
    SeemsAlike SameNamed (getQuery { cursor with wasIntercepted := false })
      (getQuery { other with wasIntercepted := false }) := by
  refine ⟨rfl, rfl, fun _ => ⟨⟨same.text, same.given, same.faked, same.prepared, same.handled, ?_⟩, ?_⟩⟩
  · exact same.error
  · exact same.bound

theorem SameNamed.prepare (same : SameNamed cursor other) (answers : PrepareAnswers) :
    SeemsAlike SameNamed
      (if cursor.hasBeenPrepared then .pass cursor
        else server.prepare enabled answers (driverQuery cursor) (handedOver cursor) cursor)
      (if other.hasBeenPrepared then .pass other
        else server.prepare enabled answers (driverQuery other) (handedOver other) other) := by
  rw [same.prepared, same.text, same.given]
  split
  · exact seemsAlike_pass same
  · apply prepare_seemsAlike answers _ _ same.error same.prepared
    intro error prepared
    exact ⟨⟨same.text, same.given, same.faked, rfl, same.handled, rfl⟩, same.bound⟩

theorem SameNamed.handleBinds (same : SameNamed cursor other) (call : ExecuteCall) :
    SeemsAlike SameHanded (handleBinds call cursor) (handleBinds call other) := by
  unfold Server.handleBinds
  dsimp only
  by_cases faked : cursor.bindsWereFaked = true
  · rw [if_pos faked, if_pos (same.faked.symm.trans faked)]
    exact seemsAlike_pass ⟨same.text, same.given, same.faked, same.prepared, same.handled, same.error⟩
  · have names := same.bound (Bool.eq_false_iff.mpr faked)
    have otherFaked : ¬other.bindsWereFaked = true := by rwa [← same.faked]
    rw [if_neg faked, if_neg otherFaked, names]
    split
    · exact ⟨rfl, rfl,
        fun _ => ⟨same.text, same.given, same.faked, same.prepared, same.handled, same.error⟩⟩
    · exact ⟨rfl, rfl, fun impossible => absurd impossible Bool.false_ne_true⟩

theorem SameHanded.run (same : SameHanded cursor other) (call : ExecuteCall) (success : Bool) :
    SeemsAlike SameHanded (server.run enabled call success cursor)
      (server.run enabled call success other) := by
  have text : ∀ error, driverQuery { cursor with hasBeenExecuted := true, error := error } =
      driverQuery { other with hasBeenExecuted := true, error := error } := fun _ => same.text
  have given : ∀ error, handedOver { cursor with hasBeenExecuted := true, error := error } =
      handedOver { other with hasBeenExecuted := true, error := error } := fun _ => same.given
  unfold Server.run
  cases (enabled.triggers && server.triggers) with
  | true =>
      simp only [if_true, same.error, text, given]
      exact ⟨rfl, rfl, fun _ => ⟨same.text, same.given, same.faked, same.prepared, same.handled, rfl⟩⟩
  | false =>
      simp only [Bool.false_eq_true, if_false, same.error, text, given]
      exact ⟨rfl, rfl, fun _ => ⟨same.text, same.given, same.faked, same.prepared, same.handled, rfl⟩⟩

/-- Two cursors that are executed come to the same if they are for the driver, and give it the same. -/
theorem executeFaked_seemsAlike (answers : Attempt) (needsIntercept : cursor.needsIntercept = other.needsIntercept)
    (queryType : cursor.queryType = other.queryType)
    (same : intercepts cursor = false → SameNamed cursor other) :
    SeemsAlike (fun _ _ => True) (server.executeFaked enabled answers.call cursor)
      (server.executeFaked enabled answers.call other) := by
  have intercepted : intercepts cursor = intercepts other := by
    rw [intercepts, intercepts, needsIntercept, queryType]
  unfold executeFaked
  change SeemsAlike _ (if intercepts cursor then _ else _) (if intercepts other then _ else _)
  rw [← intercepted]
  split
  case isTrue => exact ⟨rfl, rfl, fun _ => trivial⟩
  case isFalse driver =>
    have named := same (Bool.eq_false_iff.mpr driver)
    have success : (!cursor.needsIntercept || !cursor.hasBeenPrepared) =
        (!other.needsIntercept || !other.hasBeenPrepared) := by
      rw [needsIntercept, named.prepared]
    dsimp only
    rw [success]
    apply Progress.alike_andThen named.getQuery
    intro cursor other same
    apply Progress.alike_andThen (same.prepare answers.call.toPrepareAnswers)
    intro cursor other same
    apply Progress.alike_andThen (same.handleBinds answers.call)
    intro cursor other same
    apply Progress.alike_andThen (same.run answers.call _)
    intro cursor other same
    rw [same.given]
    exact handleResultSetHeader_seemsAlike _ same.handled trivial

/-! ## What is left of an attempt -/

/-- The query and its binds are still the same. -/
structure SameBound (before after : Cursor) : Prop where
  query : after.query = before.query
  mappings : after.bindMappings = before.bindMappings
  binds : after.binds = before.binds

/-- The query is still the same, the binds are as they were, or under their new names, or gone if the query was
intercepted. -/
structure Leaves (before after : Cursor) : Prop where
  query : after.query = before.query
  binds : after.binds = before.binds ∨ after.binds = before.binds.rename before.bindMappings ∨
    intercepts before = true

theorem SameBound.leaves (same : SameBound cursor other) : Leaves cursor other :=
  ⟨same.query, Or.inl same.binds⟩

theorem leaves_executeFaked (call : ExecuteCall) (cursor : Cursor) :
    Leaves cursor (server.executeFaked enabled call cursor).state := by
  unfold executeFaked
  split
  case isTrue intercepted => exact ⟨rfl, Or.inr (Or.inr intercepted)⟩
  case isFalse =>
    apply Progress.endsIn_andThen
    · intro _
      exact ⟨rfl, Or.inl rfl⟩
    · intro _
      exact (⟨rfl, rfl, rfl⟩ : SameBound cursor { cursor with wasIntercepted := false })
    intro fetched same
    have keeps : SameBound cursor (if fetched.hasBeenPrepared then .pass fetched
        else server.prepare enabled call.toPrepareAnswers (driverQuery fetched) (handedOver fetched)
          fetched : Stage).state := by
      split
      · exact same
      · exact ⟨same.query, same.mappings, same.binds⟩
    apply Progress.endsIn_andThen (fun _ => keeps.leaves) (fun _ => keeps)
    intro prepared same
    have renames : (handleBinds call prepared).state.query = cursor.query ∧
        (handleBinds call prepared).state.binds = cursor.binds.rename cursor.bindMappings := by
      unfold handleBinds
      dsimp only
      rw [same.binds, same.mappings]
      split
      · exact ⟨same.query, rfl⟩
      · split <;> exact ⟨same.query, rfl⟩
    have renamed : Leaves cursor (handleBinds call prepared).state :=
      ⟨renames.1, Or.inr (Or.inl renames.2)⟩
    apply Progress.endsIn_andThen (fun _ => renamed) (fun _ => renamed)
    intro bound leaves
    obtain ⟨sends, error, _, state⟩ := server.run_leaves enabled bound call
      (!cursor.needsIntercept || !cursor.hasBeenPrepared)
    have after : Leaves cursor (server.run enabled call (!cursor.needsIntercept || !cursor.hasBeenPrepared)
        bound).state := by
      rw [state]
      exact ⟨leaves.query, leaves.binds⟩
    apply Progress.endsIn_andThen (fun _ => after) (fun _ => after)
    intro executed leaves
    exact ⟨leaves.query, leaves.binds⟩

/-- Once the query has been rewritten, an attempt leaves it so. -/
theorem leaves_attempt (answers : Attempt) (rewritten : (server.rewritten enabled cursor).ok = true) :
    Leaves (server.rewritten enabled cursor).state (server.retry enabled cursor answers) := by
  rw [retry, attempt_eq, Progress.prepend_state, Progress.andThen_of_ok rewritten]
  generalize (server.rewritten enabled cursor).state = query
  dsimp only
  obtain ⟨_, prepared, handled, error, state⟩ := server.prepareNow_leaves enabled answers.prepare query
  have same : SameBound query (server.prepareNow enabled answers.prepare query).state ∧
      intercepts (server.prepareNow enabled answers.prepare query).state = intercepts query := by
    rw [state]
    exact ⟨⟨rfl, rfl, rfl⟩, rfl⟩
  have goesOn : (server.prepareNow enabled answers.prepare query).GoesOnIn fun prepared =>
      SameBound query prepared ∧ intercepts prepared = intercepts query := fun _ => same
  apply Progress.endsIn_andThen (fun _ => same.1.leaves) goesOn
  intro prepared same
  have leaves := @leaves_executeFaked Tree server enabled answers.call (server.fakeBinds prepared)
  constructor
  · rw [leaves.query, fakeBinds_query, same.1.query]
  · have binds := leaves.binds
    rw [intercepts, fakeBinds_needsIntercept, fakeBinds_queryType, ← intercepts, same.2, fakeBinds_binds,
      fakeBinds_bindMappings, same.1.binds, same.1.mappings] at binds
    exact binds

/-! ## Two attempts -/

/-- Two rewritten queries that come to the same for the driver. -/
structure SameSent (server : Server Tree) (cursor other : Cursor) : Prop where
  query : cursor.query = other.query
  queryType : cursor.queryType = other.queryType
  needsIntercept : cursor.needsIntercept = other.needsIntercept
  fakes : cursor.fakeInputBindsForThisQuery = other.fakeInputBindsForThisQuery
  prepared : cursor.hasBeenPrepared = other.hasBeenPrepared
  handled : cursor.resultSetHeaderHasBeenHandled = other.resultSetHeaderHasBeenHandled
  error : cursor.error = other.error
  notFaked : cursor.bindsWereFaked = false
  otherNotFaked : other.bindsWereFaked = false
  sent : intercepts cursor = false → server.sent cursor cursor.binds = server.sent other other.binds

theorem SameSent.prepareNow (same : server.SameSent cursor other) (answers : PrepareAnswers) :
    SeemsAlike server.SameSent (server.prepareNow enabled answers cursor)
      (server.prepareNow enabled answers other) := by
  unfold Server.prepareNow
  rw [same.needsIntercept, same.fakes]
  split
  · exact seemsAlike_pass same
  · have prepared : SeemsAlike server.SameSent
        (server.prepare enabled answers cursor.query cursor.query cursor)
        (server.prepare enabled answers other.query other.query other) := by
      rw [← same.query]
      apply prepare_seemsAlike answers _ _ same.error same.prepared
      intro error prepared
      exact ⟨same.query, same.queryType, same.needsIntercept, same.fakes, rfl, same.handled, rfl,
        same.notFaked, same.otherNotFaked, same.sent⟩
    apply Progress.alike_andThen prepared
    · intro cursor other same
      split
      · rw [same.query]
        apply handleResultSetHeader_seemsAlike _ same.handled
        exact ⟨same.query, same.queryType, same.needsIntercept, same.fakes, same.prepared, rfl, same.error,
          same.notFaked, same.otherNotFaked, same.sent⟩
      · exact seemsAlike_pass same

/-- A query whose binds are faked now. -/
theorem fakeBinds_of_fakesNow (fakes : fakesNow cursor cursor.binds = true) :
    server.fakeBinds cursor = { cursor with
      queryWithFakeInputBinds := server.faker.fakeInputBinds cursor.binds.input cursor.query
      bindsWereFaked := true } := by
  rw [fakeBinds]
  exact if_pos fakes

theorem fakeBinds_of_not_fakesNow (native : fakesNow cursor cursor.binds = false) :
    server.fakeBinds cursor = cursor := by
  rw [fakeBinds]
  exact if_neg (Bool.eq_false_iff.mp native)

theorem SameSent.fakeBinds (same : server.SameSent cursor other) (driver : intercepts cursor = false) :
    SameNamed (server.fakeBinds cursor) (server.fakeBinds other) := by
  have sent := same.sent driver
  unfold Server.sent at sent
  cases fakes : fakesNow cursor cursor.binds with
  | true =>
      cases otherFakes : fakesNow other other.binds with
      | true =>
          rw [if_pos fakes, if_pos otherFakes] at sent
          have text := congrArg Prod.fst sent
          dsimp only at text
          rw [fakeBinds_of_fakesNow fakes, fakeBinds_of_fakesNow otherFakes]
          refine ⟨⟨text, congrArg sized text, rfl, same.prepared, same.handled, same.error⟩, ?_⟩
          intro impossible
          cases impossible
      | false =>
          rw [if_pos fakes, if_neg (Bool.eq_false_iff.mp otherFakes)] at sent
          cases congrArg Prod.snd sent
  | false =>
      cases otherFakes : fakesNow other other.binds with
      | true =>
          rw [if_neg (Bool.eq_false_iff.mp fakes), if_pos otherFakes] at sent
          cases congrArg Prod.snd sent
      | false =>
          rw [if_neg (Bool.eq_false_iff.mp fakes), if_neg (Bool.eq_false_iff.mp otherFakes)] at sent
          have binds := Option.some.inj (congrArg Prod.snd sent)
          rw [fakeBinds_of_not_fakesNow fakes, fakeBinds_of_not_fakesNow otherFakes]
          have text : driverQuery cursor = driverQuery other := by
            rw [driverQuery, driverQuery, same.notFaked, same.otherNotFaked, same.query]
            rfl
          have given : handedOver cursor = handedOver other := by
            rw [handedOver, handedOver, same.notFaked, same.otherNotFaked, same.query]
            rfl
          have faked := same.notFaked.trans same.otherNotFaked.symm
          exact ⟨⟨text, given, faked, same.prepared, same.handled, same.error⟩, fun _ => binds⟩

/-- What follows the rewriting. -/
theorem SameSent.prepareAndExecute (enabled : Enabled) (answers : Attempt)
    (same : server.SameSent cursor other) :
    SeemsAlike (fun _ _ => True)
      ((server.prepareNow enabled answers.prepare cursor).andThen fun prepared =>
        server.executeFaked enabled answers.call (server.fakeBinds prepared))
      ((server.prepareNow enabled answers.prepare other).andThen fun prepared =>
        server.executeFaked enabled answers.call (server.fakeBinds prepared)) := by
  apply Progress.alike_andThen (same.prepareNow answers.prepare)
  intro cursor other same
  apply executeFaked_seemsAlike
  · rw [fakeBinds_needsIntercept, fakeBinds_needsIntercept, same.needsIntercept]
  · rw [fakeBinds_queryType, fakeBinds_queryType, same.queryType]
  · intro driver
    rw [intercepts, fakeBinds_needsIntercept, fakeBinds_queryType] at driver
    exact same.fakeBinds driver

theorem not_reachesDriver_of_rewrites {event : Event} (rewrites : event.Rewrites) :
    ¬event.reachesDriver = true := by
  cases event with
  | write => exact Bool.false_ne_true
  | handOver => exact Bool.false_ne_true
  | append => exact Bool.false_ne_true
  | prepare => exact rewrites.elim
  | bind => exact rewrites.elim
  | execute => exact rewrites.elim

/-- Two attempts with the same answers. -/
theorem SameSent.attempt (answers : Attempt)
    (rewritten : (server.rewritten enabled cursor).ok = (server.rewritten enabled other).ok)
    (same : (server.rewritten enabled cursor).ok = true → server.SameSent (server.rewritten enabled cursor).state
      (server.rewritten enabled other).state) :
    reaching (server.attempt enabled answers cursor).events =
      reaching (server.attempt enabled answers other).events := by
  have rewrites : SeemsAlike server.SameSent (server.rewritten enabled cursor)
      (server.rewritten enabled other) := by
    refine ⟨rewritten, ?_, same⟩
    have events := fun cursor => List.filter_eq_nil_iff.mpr fun event member =>
      not_reachesDriver_of_rewrites (server.preProcess_all enabled (server.given cursor) event member)
    exact (events cursor).trans (events other).symm
  have rest := Progress.alike_andThen rewrites fun _ _ same =>
    same.prepareAndExecute enabled answers
  rw [attempt_eq, attempt_eq, reaching, reaching, Progress.prepend_events, Progress.prepend_events,
    List.filter_append, List.filter_append, rest.events]
  rfl

/-! ## Any number of attempts -/

/-- Whether a query is intercepted is decided by its type. -/
theorem preProcess_needsIntercept (cursor : Cursor) :
    (server.preProcess enabled cursor).GoesOnIn fun query =>
      query.needsIntercept = checkInterceptQuery query.queryType := by
  unfold preProcess
  apply Progress.goesOnIn_andThen_of_next
  intro cursor
  apply Progress.goesOnIn_andThen_of_next
  intro cursor
  apply Progress.goesOnIn_andThen_of_next
  intro cursor
  apply Progress.goesOnIn_andThen_of_next
  intro cursor
  apply Progress.goesOnIn_andThen_of_next
  intro cursor
  rw [Progress.goesOnIn_pass]
  rfl

theorem rewritten_needsIntercept (rewritten : (server.rewritten enabled cursor).ok = true) :
    (server.rewritten enabled cursor).state.needsIntercept =
      checkInterceptQuery (server.rewritten enabled cursor).state.queryType :=
  preProcess_needsIntercept _ rewritten

theorem rewritten_untouched (rewritten : (server.rewritten enabled cursor).ok = true) :
    (server.given cursor).Untouched (server.rewritten enabled cursor).state :=
  (server.preProcess_goesOnIn enabled (server.given cursor) rewritten).1

theorem rewritten_binds (rewritten : (server.rewritten enabled cursor).ok = true) :
    (server.rewritten enabled cursor).state.binds = cursor.binds :=
  (rewritten_untouched rewritten).binds

theorem intercepts_rewritten (rewritten : (server.rewritten enabled cursor).ok = true) :
    intercepts (server.rewritten enabled cursor).state =
      (checkInterceptQuery (server.rewritten enabled cursor).state.queryType &&
        (server.rewritten enabled cursor).state.queryType.intercepted) := by
  rw [intercepts, rewritten_needsIntercept rewritten]

theorem SameProcessed.sent (same : SameProcessed cursor other) (binds : Binds) :
    server.sent cursor binds = server.sent other binds := by
  rw [Server.sent, Server.sent, fakesNow, fakesNow, same.fakes, same.query, same.mappings]

/-- What has been tried at least once: the query is the rewritten one, its binds have one of the names that
they may have. -/
structure Tried (server : Server Tree) (enabled : Enabled) (start cursor : Cursor) : Prop where
  ok : (server.rewritten enabled start).ok = true
  query : cursor.query = (server.rewritten enabled start).state.query
  binds : intercepts (server.rewritten enabled start).state = true ∨
    Renamed (server.rewritten enabled start).state.bindMappings
      (server.rewritten enabled (server.rewritten enabled start).state).state.bindMappings
      start.binds cursor.binds

variable {start : Cursor} {answers : Attempt}

/-- What the next attempt makes of the query. -/
theorem Tried.rewritten_again (tried : server.Tried enabled start cursor) :
    SeemsAlike SameProcessed (server.rewritten enabled cursor)
      (server.rewritten enabled (server.rewritten enabled start).state) :=
  rewritten_seemsAlike tried.query

theorem Tried.intercepts_again (tried : server.Tried enabled start cursor)
    (stable : server.Stable enabled start) :
    intercepts (server.rewritten enabled cursor).state =
      intercepts (server.rewritten enabled start).state := by
  have again := tried.rewritten_again
  have ok := again.ok.trans stable.ok
  rw [intercepts_rewritten ok, intercepts_rewritten tried.ok, (again.state ok).queryType, stable.queryType]

theorem Tried.retry (tried : server.Tried enabled start cursor) (stable : server.Stable enabled start)
    (fails : server.Fails enabled cursor answers) :
    server.Tried enabled start (server.retry enabled cursor answers) := by
  have leaves := leaves_attempt answers fails.1
  have same := tried.rewritten_again.state fails.1
  constructor
  · exact tried.ok
  · rw [leaves.query, same.query, stable.query]
  · cases tried.binds with
    | inl intercepted => exact Or.inl intercepted
    | inr names =>
        rcases leaves.binds with unchanged | renamed | intercepted
        · right
          rw [unchanged, rewritten_binds fails.1]
          exact names
        · right
          rw [renamed, same.mappings, rewritten_binds fails.1]
          exact names.again
        · left
          rwa [tried.intercepts_again stable] at intercepted

end Server

/-! ## A query that is lost and tried again -/

end SqlRelay.Pipeline
