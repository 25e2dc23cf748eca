import SqlRelay.Pipeline.Complete
import SqlRelay.Pipeline.Reexecution

/-!
# No partial query runs

The rewriting steps share one query buffer, and each has its own way with a text
that does not fit.  What reaches the driver is the complete query, and a query that
is refused is refused with an error, exactly if every text on the way fits.
-/

namespace SqlRelay.Pipeline

open SqlRelay.Foundation SqlRelay.Foundation.CString SqlRelay.Bind SqlRelay.Query

namespace Server

variable {Tree : Type} (server : Server Tree) (enabled : Enabled)

/-- What the translations of a query need. -/
def TranslationsFit (query : List Byte) : Prop :=
  ∀ translations, server.translations = some translations → enabled.translations = true →
    translations.Fits translations.modules (.text query) [] query.length

/-- What the rewriting of a query needs: a filter that rejects it says why, and each
text that a step makes of the whole query fits the query buffer. -/
def RewritingFits (query : List Byte) : Prop :=
  match server.rejected enabled true query with
  | some rejection => rejection.isSet = true
  | none =>
      server.TranslationsFit enabled query ∧
        match server.completeTranslation enabled query with
        | .error none => False
        | .error (some _) => True
        | .ok translated =>
            translated.length ≤ server.maxQuerySize ∧
            (server.completeBinds enabled translated).length ≤ server.maxQuerySize ∧
            (server.completeRest enabled translated).text.length ≤ server.maxQuerySize ∧
            ∀ rejection,
              server.rejected enabled false (server.completeRest enabled translated).text =
                some rejection → rejection.isSet = true

/-- Whole texts, and an error where the query is refused. -/
def WholeSoFar (stage : Stage) : Prop :=
  stage.Safe (Event.Whole server.maxQuerySize) fun cursor => cursor.error.isSet = true

/-- A stage that comes to this. -/
def Completes (result : Except (Option CursorError) Rewritten) (stage : Stage) : Prop :=
  match result with
  | .error _ => stage.ok = false
  | .ok rewritten =>
      stage.ok = true ∧ stage.state.query = rewritten.text ∧
        stage.state.queryType = rewritten.type ∧
        stage.state.needsIntercept = checkInterceptQuery rewritten.type

/-- The steps after the translations. -/
def rewriteRest (cursor : Cursor) : Stage :=
  (server.translateBindVariables enabled (determineQueryType cursor)).andThen
    fun cursor => (server.translateBeginTransaction enabled cursor).andThen
    fun cursor => (server.filterQuery enabled false cursor).andThen
    fun cursor => .pass (server.finishPreProcessing cursor)

/-! ## The steps -/

section Steps

variable {server enabled} {cursor : Cursor}

theorem filterQuery_eq (before : Bool) :
    server.filterQuery enabled before cursor =
      match server.rejected enabled before cursor.query with
      | none => .pass cursor
      | some error => .stop { cursor with error := error } := by
  rw [filterQuery, rejected]
  cases server.filters with
  | none => rfl
  | some filters =>
      cases enabled.filters with
      | false => rfl
      | true =>
          cases verdict : (if before = true then filters.before else filters.after) cursor.query <;>
            simp [verdict]

theorem store_whole_iff (text written : List Byte) :
    server.WholeSoFar (store text written cursor) ↔
      written = text ∧ written.length ≤ server.maxQuerySize := by
  simp [WholeSoFar, Progress.Safe, Progress.All, Progress.StopsIn, store, Event.Whole]

theorem storeTranslated_whole_iff (server : Server Tree) {cursor : Cursor} (noError : cursor.error.isSet = false)
    (text : List Byte) :
    server.WholeSoFar (server.storeTranslated text cursor) ↔
      text.length ≤ server.maxQuerySize ∧ (server.orNoop text).length ≤ server.maxQuerySize := by
  rw [storeTranslated]
  split
  next large =>
    simp [WholeSoFar, noError, Nat.not_le.mpr large]
  next small =>
    rw [store_whole_iff, ← orNoop]
    simp only [true_and]
    exact (and_iff_right (Nat.le_of_not_lt small)).symm

theorem storeTranslated_of_small {text : List Byte} (small : text.length ≤ server.maxQuerySize) :
    server.storeTranslated text cursor =
      store (server.orNoop text) (server.orNoop text) cursor := by
  rw [storeTranslated, if_neg (Nat.not_lt.mpr small), orNoop]

/-- What `translateQuery` leaves of a whole query. -/
def Translated (server : Server Tree) (enabled : Enabled) (cursor : Cursor) (stage : Stage) :
    Prop :=
  match server.completeTranslation enabled cursor.query with
  | .error _ => stage.ok = false
  | .ok translated => stage.ok = true ∧ stage.state.query = translated

theorem run_fits_iff (server : Server Tree) (translations : Translations Tree)
    (query : List Byte) :
    (∀ event ∈ (translations.run server.memory query).1, event.Whole server.maxQuerySize) ↔
      translations.Fits translations.modules (.text query) [] query.length := by
  rw [Translations.run]
  apply Translations.runModules_whole_iff
  exact Translations.start_has query

theorem run_complete (server : Server Tree) {translations : Translations Tree}
    {query : List Byte}
    (fits : translations.Fits translations.modules (.text query) [] query.length) :
    (translations.run server.memory query).2 =
      translations.complete translations.modules (.text query) := by
  rw [Translations.run]
  apply Translations.runModules_complete _ _ fits
  exact Translations.start_has query

theorem translateQuery_whole_iff (noError : cursor.error.isSet = false)
    (small : cursor.query.length ≤ server.maxQuerySize) :
    (server.WholeSoFar (server.translateQuery enabled cursor) ↔
      server.TranslationsFit enabled cursor.query ∧
        match server.completeTranslation enabled cursor.query with
        | .error none => False
        | .error (some _) => True
        | .ok translated => translated.length ≤ server.maxQuerySize) := by
  rcases server.translateQuery_cases enabled cursor with
    unused | ⟨translations, events, result, present, used, answer⟩
  · have passes : server.completeTranslation enabled cursor.query = .ok cursor.query := by
      rw [completeTranslation]
      cases present : server.translations with
      | none => rfl
      | some translations => simp [unused translations present]
    have fits : server.TranslationsFit enabled cursor.query := by
      intro translations present used
      rw [unused translations present] at used
      contradiction
    simp [translateQuery_of_unused server enabled cursor unused, WholeSoFar, passes, fits, small]
  have chain := server.run_fits_iff translations cursor.query
  have completes := @run_complete _ server translations cursor.query
  rw [answer] at chain completes
  have fits : server.TranslationsFit enabled cursor.query ↔
      translations.Fits translations.modules (.text cursor.query) [] cursor.query.length := by
    simp [TranslationsFit, present, used]
  rw [fits, ← chain]
  cases result with
  | error error =>
      rw [translateQuery_of_error present used answer]
      have translation (whole : ∀ event ∈ events, event.Whole server.maxQuerySize) :
          server.completeTranslation enabled cursor.query =
            if translations.useOriginalOnError then .ok cursor.query
            else .error (some (queryTranslationError error)) := by
        simp only [completeTranslation, present, used, if_true, ← completes (chain.mp whole)]
      have errorSet : (queryTranslationError error).isSet = true := by
        simp [queryTranslationError, CursorError.isSet]
      cases useOriginal : translations.useOriginalOnError with
      | true =>
          simp only [useOriginal, if_true] at translation ⊢
          constructor
          · intro whole
            exact ⟨whole.1, by rw [translation whole.1]; exact small⟩
          · rintro ⟨whole, _⟩
            exact ⟨whole, fun stops => by simp at stops⟩
      | false =>
          simp only [useOriginal, Bool.false_eq_true, if_false] at translation ⊢
          constructor
          · intro whole
            exact ⟨whole.1, by rw [translation whole.1]; trivial⟩
          · rintro ⟨whole, _⟩
            exact ⟨whole, fun _ => errorSet⟩
  | ok text =>
      rw [translateQuery_of_ok present used answer]
      have unset : (asked translations cursor).error.isSet = false := noError
      have stored := server.storeTranslated_whole_iff unset text
      have translation (whole : ∀ event ∈ events, event.Whole server.maxQuerySize) :
          server.completeTranslation enabled cursor.query =
            if server.maxQuerySize < text.length then .error none
            else .ok (server.orNoop text) := by
        simp only [completeTranslation, present, used, if_true, ← completes (chain.mp whole)]
      have split : server.WholeSoFar
            ⟨events ++ (server.storeTranslated text (asked translations cursor)).events,
              (server.storeTranslated text (asked translations cursor)).state,
              (server.storeTranslated text (asked translations cursor)).ok⟩ ↔
          (∀ event ∈ events, event.Whole server.maxQuerySize) ∧
            server.WholeSoFar (server.storeTranslated text (asked translations cursor)) := by
        simp [WholeSoFar, Progress.Safe, Progress.All, Progress.StopsIn, or_imp, forall_and,
          and_assoc]
      rw [split, stored]
      apply and_congr_right
      intro whole
      rw [translation whole]
      by_cases large : server.maxQuerySize < text.length
      · simp [large, Nat.not_le.mpr large]
      · rw [if_neg large]
        exact and_iff_right (Nat.le_of_not_lt large)

theorem translateQuery_translated {cursor : Cursor}
    (fits : server.TranslationsFit enabled cursor.query) :
    server.Translated enabled cursor (server.translateQuery enabled cursor) := by
  rw [Translated]
  rcases server.translateQuery_cases enabled cursor with
    unused | ⟨translations, events, result, present, used, answer⟩
  · have passes : server.completeTranslation enabled cursor.query = .ok cursor.query := by
      rw [completeTranslation]
      cases present : server.translations with
      | none => rfl
      | some translations => simp [unused translations present]
    rw [translateQuery_of_unused server enabled cursor unused, passes]
    exact ⟨rfl, rfl⟩
  have completes := server.run_complete (fits translations present used)
  rw [answer] at completes
  simp only [completeTranslation, present, used, if_true, ← completes]
  cases result with
  | error error =>
      rw [translateQuery_of_error present used answer]
      cases translations.useOriginalOnError with
      | true => exact ⟨rfl, rfl⟩
      | false => rfl
  | ok text =>
      rw [translateQuery_of_ok present used answer]
      by_cases large : server.maxQuerySize < text.length
      · simp [storeTranslated, large]
      · simp only [large, if_false, storeTranslated_of_small (Nat.le_of_not_lt large)]
        exact ⟨rfl, rfl⟩

/-- The two ways that `translateBindVariables` takes. -/
theorem translateBindVariables_cases (server : Server Tree) (enabled : Enabled)
    (cursor : Cursor) :
    (server.completeBinds enabled cursor.query = cursor.query ∧
      ∃ mappings, server.translateBindVariables enabled cursor =
        .pass { cursor with bindMappings := mappings }) ∨
      ∃ mappings, server.translateBindVariables enabled cursor =
        store (server.completeBinds enabled cursor.query)
          (server.translator.fit (server.completeBinds enabled cursor.query))
          { cursor with bindMappings := mappings } := by
  have start := server.translator.run_start cursor.query
  cases used : enabled.translateBinds with
  | false => exact .inl ⟨by simp [completeBinds, used], cursor.bindMappings,
      by simp [translateBindVariables, used]⟩
  | true =>
      cases translates : server.translator.translates (server.translator.pieces cursor.query) with
      | false =>
          refine .inl
            ⟨?_, (server.translator.run Translator.Loop.start cursor.query).mappings, ?_⟩
          · rw [completeBinds, used, if_pos rfl,
              server.translator.translatedText_of_not_translates translates]
          · simp only [translateBindVariables, used, if_true, start.2, translates,
              Bool.false_eq_true, if_false]
      | true =>
          refine .inr ⟨(server.translator.run Translator.Loop.start cursor.query).mappings, ?_⟩
          simp only [completeBinds, used, if_true, translateBindVariables, start.2, translates,
            server.translator.translatedText_of_translates translates,
            Translator.translateBindVariables]

theorem translateBindVariables_whole_iff (enabled : Enabled) {cursor : Cursor}
    (small : cursor.query.length ≤ server.maxQuerySize) :
    server.WholeSoFar (server.translateBindVariables enabled cursor) ↔
      (server.completeBinds enabled cursor.query).length ≤ server.maxQuerySize := by
  rcases server.translateBindVariables_cases enabled cursor with
    ⟨same, mappings, passes⟩ | ⟨mappings, stores⟩
  · simp [passes, same, WholeSoFar, small]
  · rw [stores, store_whole_iff]
    have whole := server.translator.fit_eq_self_iff (server.completeBinds enabled cursor.query)
    constructor
    · exact fun fits => whole.mp fits.1
    · intro fits
      rw [whole.mpr fits]
      exact ⟨rfl, fits⟩

theorem translateBindVariables_bound {cursor : Cursor}
    (fits : (server.completeBinds enabled cursor.query).length ≤ server.maxQuerySize) :
    (server.translateBindVariables enabled cursor).ok = true ∧
      (server.translateBindVariables enabled cursor).state.query =
        server.completeBinds enabled cursor.query ∧
      (server.translateBindVariables enabled cursor).state.queryType = cursor.queryType := by
  rcases server.translateBindVariables_cases enabled cursor with
    ⟨same, mappings, passes⟩ | ⟨mappings, stores⟩
  · rw [passes, same]
    exact ⟨rfl, rfl, rfl⟩
  · rw [stores, (server.translator.fit_eq_self_iff _).mpr fits]
    exact ⟨rfl, rfl, rfl⟩

theorem translateBeginTransaction_whole_iff (small : cursor.query.length ≤ server.maxQuerySize) :
    server.WholeSoFar (server.translateBeginTransaction enabled cursor) ↔
      (server.completeBegin enabled cursor.queryType cursor.query).length ≤
        server.maxQuerySize := by
  rw [translateBeginTransaction, completeBegin, replacesBegin]
  split
  · rw [store_whole_iff]
    exact and_iff_right rfl
  · simp [WholeSoFar, small]

theorem translateBeginTransaction_begun (server : Server Tree) (enabled : Enabled)
    (cursor : Cursor) :
    (server.translateBeginTransaction enabled cursor).ok = true ∧
      (server.translateBeginTransaction enabled cursor).state.query =
        server.completeBegin enabled cursor.queryType cursor.query ∧
      (server.translateBeginTransaction enabled cursor).state.queryType = cursor.queryType := by
  rw [translateBeginTransaction, completeBegin, replacesBegin]
  split <;> exact ⟨rfl, rfl, rfl⟩

theorem rewriteRest_whole_iff (small : cursor.query.length ≤ server.maxQuerySize) :
    server.WholeSoFar (server.rewriteRest enabled cursor) ↔
      (server.completeBinds enabled cursor.query).length ≤ server.maxQuerySize ∧
        (server.completeRest enabled cursor.query).text.length ≤ server.maxQuerySize ∧
        ∀ rejection,
          server.rejected enabled false (server.completeRest enabled cursor.query).text =
            some rejection → rejection.isSet = true := by
  have same : (determineQueryType cursor).query = cursor.query := rfl
  have sized : (determineQueryType cursor).query.length ≤ server.maxQuerySize := small
  have rest : (server.completeRest enabled cursor.query).text =
      server.completeBegin enabled (determineQueryType cursor).queryType
        (server.completeBinds enabled cursor.query) := rfl
  rw [WholeSoFar, rewriteRest, Progress.safe_andThen_iff, ← WholeSoFar,
    translateBindVariables_whole_iff enabled sized]
  apply and_congr_right
  intro fits
  obtain ⟨bound, boundQuery, boundType⟩ := translateBindVariables_bound fits
  simp only [bound, forall_const]
  generalize (server.translateBindVariables enabled (determineQueryType cursor)).state = after
    at boundQuery boundType ⊢
  have afterSmall : after.query.length ≤ server.maxQuerySize := by
    rw [boundQuery]
    exact fits
  obtain ⟨begun, begunQuery, _⟩ := server.translateBeginTransaction_begun enabled after
  rw [Progress.safe_andThen_iff, ← WholeSoFar, translateBeginTransaction_whole_iff afterSmall]
  rw [boundQuery, boundType, same] at begunQuery ⊢
  rw [rest]
  apply and_congr_right
  intro _
  simp only [begun, forall_const]
  rw [filterQuery_eq, begunQuery]
  cases server.rejected enabled false (server.completeBegin enabled
      (determineQueryType cursor).queryType (server.completeBinds enabled cursor.query)) with
  | none => simp
  | some rejection => simp

theorem completes_andThen {first : Stage} {next : Cursor → Stage} (ok : first.ok = true)
    {result : Except (Option CursorError) Rewritten} (completes : Completes result (next first.state)) :
    Completes result (first.andThen next) := by
  rw [Progress.andThen_of_ok ok]
  exact completes

theorem rewriteRest_completes
    (fits : (server.completeBinds enabled cursor.query).length ≤ server.maxQuerySize) :
    Completes
      (match server.rejected enabled false (server.completeRest enabled cursor.query).text with
        | some error => .error (some error)
        | none => .ok (server.completeRest enabled cursor.query))
      (server.rewriteRest enabled cursor) := by
  have typed : (server.completeBinds enabled (determineQueryType cursor).query).length ≤
    server.maxQuerySize := fits
  obtain ⟨bound, boundQuery, boundType⟩ := translateBindVariables_bound typed
  apply completes_andThen bound
  obtain ⟨begun, begunQuery, begunType⟩ := server.translateBeginTransaction_begun enabled
    (server.translateBindVariables enabled (determineQueryType cursor)).state
  apply completes_andThen begun
  rw [boundQuery, boundType] at begunQuery
  rw [boundType] at begunType
  generalize (server.translateBeginTransaction enabled _).state = after at begunQuery begunType ⊢
  have text : after.query = (server.completeRest enabled cursor.query).text := begunQuery
  have type : after.queryType = (server.completeRest enabled cursor.query).type := begunType
  rw [filterQuery_eq, text]
  cases server.rejected enabled false (server.completeRest enabled cursor.query).text with
  | some rejection => rfl
  | none => exact ⟨rfl, text, type, congrArg checkInterceptQuery type⟩

/-- The rewriting of a query hands on whole texts, and refuses with an error, exactly
if all of them fit. -/
theorem preProcess_whole_iff (noError : cursor.error.isSet = false)
    (small : cursor.query.length ≤ server.maxQuerySize) :
    server.WholeSoFar (server.preProcess enabled cursor) ↔
      server.RewritingFits enabled cursor.query := by
  rw [preProcess, filterQuery_eq, RewritingFits]
  change server.WholeSoFar (Progress.andThen
    (match server.rejected enabled true cursor.query with | none => _ | some error => _) _) ↔ _
  cases server.rejected enabled true cursor.query with
  | some rejection => simp [WholeSoFar]
  | none =>
      simp only [Progress.pass_andThen]
      generalize start : determineQueryType { cursor with bindMappings := [] } = typed
      have query : typed.query = cursor.query := by rw [← start]; rfl
      have unset : typed.error.isSet = false := by rw [← start]; exact noError
      rw [WholeSoFar, Progress.safe_andThen_iff, ← WholeSoFar,
        translateQuery_whole_iff unset (by rw [query]; exact small), query, and_assoc]
      apply and_congr_right
      intro fits
      have typedFits : server.TranslationsFit enabled typed.query := by
        rw [query]
        exact fits
      have translated := translateQuery_translated typedFits
      rw [Translated, query] at translated
      cases result : server.completeTranslation enabled cursor.query with
      | error refusal =>
          simp only [result] at translated
          cases refusal <;> simp [translated]
      | ok text =>
          simp only [result] at translated
          apply and_congr_right
          intro textFits
          rw [← WholeSoFar, ← rewriteRest, rewriteRest_whole_iff (by rw [translated.2]; exact textFits),
            translated.2]
          simp [translated.1]

/-- Then the query it leaves is the complete one. -/
theorem preProcess_completes (fits : server.RewritingFits enabled cursor.query) :
    Completes (server.completeQuery enabled cursor.query) (server.preProcess enabled cursor) := by
  rw [RewritingFits] at fits
  rw [preProcess, filterQuery_eq, completeQuery]
  generalize start : determineQueryType { cursor with bindMappings := [] } = typed
  have query : typed.query = cursor.query := by rw [← start]; rfl
  rw [query]
  cases verdict : server.rejected enabled true cursor.query with
  | some rejection => rfl
  | none =>
      simp only [verdict] at fits
      apply completes_andThen rfl
      have typedFits : server.TranslationsFit enabled typed.query := by
        rw [query]
        exact fits.1
      have translated := translateQuery_translated typedFits
      rw [Translated, query] at translated
      cases result : server.completeTranslation enabled cursor.query with
      | error refusal =>
          simp only [result] at translated
          exact (Progress.andThen_of_not_ok translated).symm ▸ translated
      | ok text =>
          simp only [result] at translated fits
          apply completes_andThen translated.1
          have bindsFit : (server.completeBinds enabled
              (server.translateQuery enabled typed).state.query).length ≤ server.maxQuerySize := by
            rw [translated.2]
            exact fits.2.2.1
          have rest := rewriteRest_completes bindsFit
          rw [translated.2] at rest
          exact rest

end Steps

/-! ## The calls -/

/-- What the driver gets is the complete query, as it is or with binds in it. -/
def IsComplete (text : List Byte) : Event → Prop
  | .prepare _ given | .execute _ given =>
      ∃ rewritten, server.completeQuery enabled text = .ok rewritten ∧
        (given = rewritten.text ∨ ∃ binds, given = server.faker.fakeInputBinds binds rewritten.text)
  | _ => True

/-- A query that the rewriting refuses leaves an error. -/
def Refuses (cursor : Cursor) : Prop :=
  cursor.hasBeenPreProcessed = false → cursor.error.isSet = true

/-- One call for a query: every text is handed on whole, the query buffer holds what is
written to it, the driver gets the complete query, and a refusal comes with an error. -/
def Whole (text : List Byte) (stage : Stage) : Prop :=
  stage.Safe (fun event => event.Whole server.maxQuerySize ∧ server.IsComplete enabled text event)
    Refuses

/-- What `prepareQuery` needs. -/
def PrepareFits (text : List Byte) : Prop :=
  text.length ≤ server.maxQuerySize ∧
    (server.fakeInputBinds = false → server.RewritingFits enabled text)

/-- What `executeQuery` needs: the rewriting, if it has been put off, and a query with
faked binds whose size a `uint32_t` can hold. -/
def ExecuteFits (text : List Byte) (cursor : Cursor) (call : ExecuteCall) : Prop :=
  (cursor.hasBeenPreProcessed = false → server.RewritingFits enabled text) ∧
    ∀ rewritten, server.completeQuery enabled text = .ok rewritten →
      rewritten.type.intercepted = false → cursor.fakeInputBindsForThisQuery = true →
      let binds := (call.rebind.getD cursor.binds).input
      binds ≠ [] → (server.faker.fakeInputBinds binds rewritten.text).length < 2 ^ 32

/-- The next call, unless the query has been refused. -/
def next (state : Option Cursor) (call : ExecuteCall) : Option Cursor :=
  state.bind fun cursor =>
    let after := (server.executeQuery enabled call cursor).state
    if after.hasBeenPreProcessed then some after else none

/-- A call for a query that has not been refused. -/
def WholeCall (text : List Byte) (state : Option Cursor) (call : ExecuteCall) : Prop :=
  ∀ cursor, state = some cursor →
    server.Whole enabled text (server.executeQuery enabled call cursor)

def FitsCall (text : List Byte) (state : Option Cursor) (call : ExecuteCall) : Prop :=
  ∀ cursor, state = some cursor → server.ExecuteFits enabled text cursor call

section Calls

variable {server enabled} {cursor : Cursor} {text : List Byte}

theorem isComplete_of_rewrites {event : Event} (rewrites : event.Rewrites) :
    server.IsComplete enabled text event := by
  cases event <;> trivial

theorem filterQuery_flag (before : Bool) :
    (server.filterQuery enabled before cursor).state.hasBeenPreProcessed =
      cursor.hasBeenPreProcessed := by
  rw [filterQuery_eq]
  cases server.rejected enabled before cursor.query <;> rfl

theorem translateQuery_flag :
    (server.translateQuery enabled cursor).state.hasBeenPreProcessed =
      cursor.hasBeenPreProcessed := by
  rcases server.translateQuery_cases enabled cursor with
    unused | ⟨translations, events, result, present, used, answer⟩
  · rw [translateQuery_of_unused server enabled cursor unused]
    rfl
  cases result with
  | error error =>
      rw [translateQuery_of_error present used answer]
      split <;> rfl
  | ok text =>
      rw [translateQuery_of_ok present used answer]
      simp only [storeTranslated]
      split <;> rfl

theorem translateBindVariables_flag :
    (server.translateBindVariables enabled cursor).state.hasBeenPreProcessed =
      cursor.hasBeenPreProcessed := by
  rcases server.translateBindVariables_cases enabled cursor with
    ⟨_, mappings, passes⟩ | ⟨mappings, stores⟩
  · rw [passes]
    rfl
  · rw [stores]
    rfl

theorem translateBeginTransaction_flag :
    (server.translateBeginTransaction enabled cursor).state.hasBeenPreProcessed =
      cursor.hasBeenPreProcessed := by
  rw [translateBeginTransaction]
  split <;> rfl

/-- A query that has been refused has not been preprocessed. -/
theorem preProcess_stopsIn (server : Server Tree) (enabled : Enabled)
    (fresh : cursor.hasBeenPreProcessed = false) :
    (server.preProcess enabled cursor).StopsIn (·.hasBeenPreProcessed = false) := by
  rw [preProcess]
  refine Progress.stopsIn_andThen ((filterQuery_flag true).trans fresh) fun kept => ?_
  refine Progress.stopsIn_andThen (translateQuery_flag.trans kept) fun kept => ?_
  refine Progress.stopsIn_andThen (translateBindVariables_flag.trans kept) fun kept => ?_
  refine Progress.stopsIn_andThen (translateBeginTransaction_flag.trans kept) fun kept => ?_
  refine Progress.stopsIn_andThen ((filterQuery_flag false).trans kept) fun kept => ?_
  exact Progress.stopsIn_pass _

/-- The rewriting, as part of a call. -/
theorem preProcess_safe_iff (enabled : Enabled) (text : List Byte)
    (fresh : cursor.hasBeenPreProcessed = false)
    (noError : cursor.error.isSet = false) (small : cursor.query.length ≤ server.maxQuerySize) :
    server.Whole enabled text (server.preProcess enabled cursor) ↔
      server.RewritingFits enabled cursor.query := by
  rw [← preProcess_whole_iff noError small, Whole, WholeSoFar, Progress.Safe, Progress.Safe]
  have unprocessed := server.preProcess_stopsIn enabled fresh
  have rewrites := server.preProcess_all enabled cursor
  constructor
  · rintro ⟨events, refuses⟩
    exact ⟨fun event member => (events event member).1,
      fun stops => refuses stops (unprocessed stops)⟩
  · rintro ⟨events, stops⟩
    exact ⟨fun event member =>
        ⟨events event member, isComplete_of_rewrites (rewrites event member)⟩,
      fun stopped _ => stops stopped⟩

/-! `prepareQuery` -/

/-- The complete query is in the buffer. -/
def Holds (server : Server Tree) (enabled : Enabled) (text : List Byte) (cursor : Cursor) : Prop :=
  cursor.hasBeenPreProcessed = true ∧
    ∃ rewritten, server.completeQuery enabled text = .ok rewritten ∧
      cursor.query = rewritten.text ∧ cursor.queryType = rewritten.type ∧
      cursor.needsIntercept = checkInterceptQuery rewritten.type

theorem holds_of_completes (completes : Completes (server.completeQuery enabled cursor.query)
      (server.preProcess enabled cursor))
    (ok : (server.preProcess enabled cursor).ok = true) :
    server.Holds enabled cursor.query (server.preProcess enabled cursor).state := by
  refine ⟨(server.preProcess_goesOnIn enabled cursor ok).2, ?_⟩
  cases result : server.completeQuery enabled cursor.query with
  | error refusal =>
      rw [result] at completes
      exact absurd ok (by rw [show (server.preProcess enabled cursor).ok = false from completes]
                          exact Bool.false_ne_true)
  | ok rewritten =>
      rw [result] at completes
      exact ⟨rewritten, rfl, completes.2⟩

/-- A call that gets past the rewriting. -/
theorem whole_of_processed {stage : Stage} (processed : stage.state.hasBeenPreProcessed = true)
    (events : ∀ event ∈ stage.events,
      event.Whole server.maxQuerySize ∧ server.IsComplete enabled text event) :
    server.Whole enabled text stage :=
  ⟨events, fun _ fresh => by rw [processed] at fresh; contradiction⟩

/-- The driver's `prepareQuery` and what follows it leave the query as it is. -/
theorem prepareNow_leaves (server : Server Tree) (enabled : Enabled) (answers : PrepareAnswers)
    (cursor : Cursor) :
    (server.prepareNow enabled answers cursor).events =
        (if cursor.needsIntercept || cursor.fakeInputBindsForThisQuery then []
          else [.prepare cursor.query cursor.query]) ∧
      ∃ prepared handled error, (server.prepareNow enabled answers cursor).state =
        { cursor with
          hasBeenPrepared := prepared
          resultSetHeaderHasBeenHandled := handled
          error := error } := by
  rw [prepareNow]
  split
  · exact ⟨rfl, _, _, _, rfl⟩
  rw [Progress.andThen]
  split
  · split <;> exact ⟨rfl, _, _, _, rfl⟩
  · exact ⟨rfl, _, _, _, rfl⟩

theorem prepareNow_whole (answers : PrepareAnswers) (holds : server.Holds enabled text cursor) :
    server.Whole enabled text (server.prepareNow enabled answers cursor) ∧
      server.Holds enabled text (server.prepareNow enabled answers cursor).state := by
  obtain ⟨processed, rewritten, complete, query, type, intercept⟩ := holds
  obtain ⟨events, prepared, handled, error, state⟩ :=
    server.prepareNow_leaves enabled answers cursor
  constructor
  · apply whole_of_processed
    · rw [state]
      exact processed
    · rw [events]
      intro event member
      split at member
      · contradiction
      · rw [List.mem_singleton.mp member]
        exact ⟨rfl, rewritten, complete, .inl query⟩
  · rw [state]
    exact ⟨processed, rewritten, complete, query, type, intercept⟩

/-- `prepareQuery` hands on whole texts exactly if they fit. -/
theorem prepareQuery_whole_iff (answers : PrepareAnswers) (text : List Byte) (before : Cursor) :
    server.Whole enabled text (server.prepareQuery enabled answers text before) ↔
      server.PrepareFits enabled text := by
  rw [prepareQuery, Whole, Progress.safe_andThen_iff, PrepareFits]
  have stored : (store text (text.take server.maxQuerySize) (server.resetFlags before)).Safe
      (fun event => event.Whole server.maxQuerySize ∧ server.IsComplete enabled text event)
      Refuses ↔ text.length ≤ server.maxQuerySize := by
    simp [store, Progress.Safe, Progress.All, Progress.StopsIn, Event.Whole, IsComplete,
      Nat.min_le_left]
  rw [stored]
  apply and_congr_right
  intro small
  simp only [store, forall_const, List.take_of_length_le small]
  generalize start : ({ server.resetFlags before with query := text } : Cursor) = cursor
  have query : cursor.query = text := by rw [← start]
  have fakes : (server.resetFlags before).fakeInputBindsForThisQuery = server.fakeInputBinds := rfl
  have fresh : cursor.hasBeenPreProcessed = false := by rw [← start]; rfl
  have noError : cursor.error.isSet = false := by rw [← start]; rfl
  rw [fakes]
  cases server.fakeInputBinds with
  | true => simp
  | false =>
      have rewriting := preProcess_safe_iff enabled text fresh noError (by rw [query]; exact small)
      rw [query] at rewriting
      simp only [Bool.false_eq_true, if_false, forall_const]
      rw [Progress.safe_andThen_iff, ← Whole, rewriting]
      apply and_iff_left_of_imp
      intro fits ok
      rw [← query] at fits
      have holds := holds_of_completes (preProcess_completes fits) ok
      rw [query] at holds
      exact (prepareNow_whole answers holds).1

/-! `executeQuery` -/

/-- The text for the driver has not changed. -/
structure SameText (before after : Cursor) : Prop where
  query : after.query = before.query
  queryType : after.queryType = before.queryType
  needsIntercept : after.needsIntercept = before.needsIntercept
  preProcessed : after.hasBeenPreProcessed = before.hasBeenPreProcessed
  faked : after.bindsWereFaked = before.bindsWereFaked
  fakedQuery : after.queryWithFakeInputBinds = before.queryWithFakeInputBinds

theorem SameText.trans {before between after : Cursor} (first : SameText before between)
    (second : SameText between after) : SameText before after :=
  ⟨second.query.trans first.query, second.queryType.trans first.queryType,
    second.needsIntercept.trans first.needsIntercept,
    second.preProcessed.trans first.preProcessed, second.faked.trans first.faked,
    second.fakedQuery.trans first.fakedQuery⟩

theorem SameText.driverQuery {before after : Cursor} (same : SameText before after) :
    driverQuery after = driverQuery before := by
  rw [Server.driverQuery, Server.driverQuery, same.faked, same.fakedQuery, same.query]

theorem SameText.handedOver {before after : Cursor} (same : SameText before after) :
    handedOver after = handedOver before := by
  rw [Server.handedOver, Server.handedOver, same.faked, same.fakedQuery, same.query]

/-- What an execution does with the driver. -/
def Hands (text given : List Byte) (event : Event) : Prop :=
  event = .handOver text given ∨ event = .prepare text given ∨ event = .execute text given ∨
    ∃ binds, event = .bind binds

theorem run_leaves (server : Server Tree) (enabled : Enabled) (cursor : Cursor)
    (call : ExecuteCall) (success : Bool) :
    ∃ sends error,
      (server.run enabled call success cursor).events =
        (if sends = true then [.execute (driverQuery cursor) (handedOver cursor)] else []) ∧
      (server.run enabled call success cursor).state =
        { cursor with hasBeenExecuted := true, error := error } := by
  rw [run]
  cases enabled.triggers && server.triggers <;> exact ⟨_, _, rfl, rfl⟩

/-- An execution hands the one text to the driver. -/
theorem executeFaked_keeps (server : Server Tree) (enabled : Enabled) (call : ExecuteCall)
    (cursor : Cursor) :
    (server.executeFaked enabled call cursor).Keeps
      (Hands (driverQuery cursor) (handedOver cursor)) (SameText cursor) := by
  rw [executeFaked]
  split
  · exact ⟨by simp [Progress.All], rfl, rfl, rfl, rfl, rfl, rfl⟩
  refine Progress.keeps_andThen ⟨?_, rfl, rfl, rfl, rfl, rfl, rfl⟩ ?_
  · intro event member
    rw [List.mem_singleton.mp member]
    exact .inl rfl
  intro fetched same
  refine Progress.keeps_andThen ?_ ?_
  · split
    · exact ⟨by simp, same⟩
    · refine ⟨?_, same.trans ⟨rfl, rfl, rfl, rfl, rfl, rfl⟩⟩
      intro event member
      rw [List.mem_singleton.mp member, same.driverQuery, same.handedOver]
      exact .inr (.inl rfl)
  intro prepared same
  refine Progress.keeps_andThen ?_ ?_
  · rw [handleBinds]
    split
    · exact ⟨by simp, same.trans ⟨rfl, rfl, rfl, rfl, rfl, rfl⟩⟩
    · split <;>
      · refine ⟨?_, same.trans ⟨rfl, rfl, rfl, rfl, rfl, rfl⟩⟩
        intro event member
        rw [List.mem_singleton.mp member]
        exact .inr (.inr (.inr ⟨_, rfl⟩))
  intro bound same
  refine Progress.keeps_andThen ?_ ?_
  · obtain ⟨sends, error, events, state⟩ := server.run_leaves enabled bound call
      (!cursor.needsIntercept || !cursor.hasBeenPrepared)
    refine ⟨?_, ?_⟩
    · rw [Progress.All, events, same.driverQuery, same.handedOver]
      intro event member
      split at member
      · rw [List.mem_singleton.mp member]
        exact .inr (.inr (.inl rfl))
      · contradiction
    · rw [state]
      exact same.trans ⟨rfl, rfl, rfl, rfl, rfl, rfl⟩
  intro run same
  exact ⟨by simp [Progress.All, handleResultSetHeader], same.trans ⟨rfl, rfl, rfl, rfl, rfl, rfl⟩⟩

theorem sized_eq_iff (text : List Byte) : sized text = text ↔ text.length < 2 ^ 32 := by
  rw [sized, List.take_eq_self_iff]
  constructor
  · intro fits
    exact Nat.lt_of_le_of_lt fits (Nat.mod_lt _ (by decide))
  · intro small
    exact Nat.le_of_eq (Nat.mod_eq_of_lt small).symm

theorem handedOver_eq_iff (cursor : Cursor) :
    handedOver cursor = driverQuery cursor ↔
      (cursor.bindsWereFaked = true → cursor.queryWithFakeInputBinds.length < 2 ^ 32) := by
  rw [handedOver, driverQuery]
  cases cursor.bindsWereFaked with
  | true => simpa using sized_eq_iff cursor.queryWithFakeInputBinds
  | false => simp

/-- A query with faked binds is the complete query with binds in it. -/
def FakedComplete (server : Server Tree) (enabled : Enabled) (text : List Byte) (cursor : Cursor) :
    Prop :=
  cursor.bindsWereFaked = true → ∃ rewritten binds,
    server.completeQuery enabled text = .ok rewritten ∧
      cursor.queryWithFakeInputBinds = server.faker.fakeInputBinds binds rewritten.text

theorem executeFaked_whole_iff (call : ExecuteCall) (holds : server.Holds enabled text cursor)
    (faked : server.FakedComplete enabled text cursor) :
    server.Whole enabled text (server.executeFaked enabled call cursor) ↔
      ((cursor.needsIntercept && cursor.queryType.intercepted) = false →
        handedOver cursor = driverQuery cursor) := by
  obtain ⟨hands, same⟩ := server.executeFaked_keeps enabled call cursor
  constructor
  · intro whole notIntercepted
    have fetched : .handOver (driverQuery cursor) (handedOver cursor) ∈
        (server.executeFaked enabled call cursor).events := by
      rw [executeFaked, notIntercepted, if_neg Bool.false_ne_true, getQuery,
        Progress.mk_true_andThen]
      exact List.mem_cons_self
    exact (whole.1 _ fetched).1
  · intro given
    apply whole_of_processed (same.preProcessed.trans holds.1)
    cases intercepted : cursor.needsIntercept && cursor.queryType.intercepted with
    | true =>
        rw [executeFaked, intercepted]
        simp
    | false =>
        intro event member
        have complete : ∃ rewritten, server.completeQuery enabled text = .ok rewritten ∧
            (handedOver cursor = rewritten.text ∨
              ∃ binds, handedOver cursor = server.faker.fakeInputBinds binds rewritten.text) := by
          rw [given intercepted, driverQuery]
          cases left : cursor.bindsWereFaked with
          | true =>
              obtain ⟨rewritten, binds, complete, query⟩ := faked left
              exact ⟨rewritten, complete, .inr ⟨binds, query⟩⟩
          | false =>
              obtain ⟨_, rewritten, complete, query, _⟩ := holds
              exact ⟨rewritten, complete, .inl query⟩
        rcases hands event member with rfl | rfl | rfl | ⟨binds, rfl⟩
        · exact ⟨given intercepted, trivial⟩
        · exact ⟨given intercepted, complete⟩
        · exact ⟨given intercepted, complete⟩
        · exact ⟨trivial, trivial⟩

/-- What holds of the cursor between the calls for a query. -/
structure InRun (server : Server Tree) (enabled : Enabled) (text : List Byte) (cursor : Cursor) :
    Prop where
  faked : server.FakedComplete enabled text cursor
  fits : cursor.bindsWereFaked = true →
    ∀ rewritten, server.completeQuery enabled text = .ok rewritten →
      rewritten.type.intercepted = false → cursor.queryWithFakeInputBinds.length < 2 ^ 32
  query : server.Holds enabled text cursor ∨
    (cursor.hasBeenPreProcessed = false ∧ cursor.query = text ∧
      text.length ≤ server.maxQuerySize ∧ cursor.error.isSet = false ∧
      cursor.fakeInputBindsForThisQuery = true)

/-- The binds of a query that the rewriting is done with are faked, and it is executed. -/
theorem fakeBinds_whole_iff (call : ExecuteCall) (holds : server.Holds enabled text cursor)
    (inRun : server.InRun enabled text cursor) :
    (server.Whole enabled text (server.executeFaked enabled call (server.fakeBinds cursor)) ↔
      ∀ rewritten, server.completeQuery enabled text = .ok rewritten →
        rewritten.type.intercepted = false → cursor.fakeInputBindsForThisQuery = true →
        cursor.binds.input ≠ [] →
        (server.faker.fakeInputBinds cursor.binds.input rewritten.text).length < 2 ^ 32) ∧
      server.FakedComplete enabled text (server.fakeBinds cursor) := by
  have held := holds
  obtain ⟨processed, rewritten, complete, query, type, intercept⟩ := holds
  have notIntercepted : (cursor.needsIntercept && cursor.queryType.intercepted) =
      rewritten.type.intercepted := by
    rw [intercept, type]
    cases replaced : rewritten.type.intercepted with
    | true => rw [checkInterceptQuery_of_intercepted replaced, Bool.and_self]
    | false => rw [Bool.and_false]
  cases now : fakesNow cursor cursor.binds with
  | false =>
      have same : server.fakeBinds cursor = cursor := by
        rw [fakeBinds, ← fakesNow, now, if_neg Bool.false_ne_true]
      rw [same, executeFaked_whole_iff call held inRun.faked, handedOver_eq_iff, notIntercepted]
      refine ⟨iff_of_true (fun sent left => inRun.fits left rewritten complete sent) ?_,
        inRun.faked⟩
      intro _ _ _ fakes nonempty
      rw [fakesNow, fakes, Bool.true_and, Bool.not_eq_false', List.isEmpty_iff] at now
      contradiction
  | true =>
      have same : server.fakeBinds cursor = { cursor with
          queryWithFakeInputBinds := server.faker.fakeInputBinds cursor.binds.input cursor.query
          bindsWereFaked := true } := by
        rw [fakeBinds, ← fakesNow, now, if_pos rfl]
      have fakedComplete : server.FakedComplete enabled text (server.fakeBinds cursor) := by
        intro _
        refine ⟨rewritten, cursor.binds.input, complete, ?_⟩
        rw [same, query]
      have fakedHeld : server.Holds enabled text (server.fakeBinds cursor) := by
        rw [same]
        exact held
      refine ⟨?_, fakedComplete⟩
      rw [fakesNow, Bool.and_eq_true, Bool.not_eq_true', List.isEmpty_eq_false_iff] at now
      rw [executeFaked_whole_iff call fakedHeld fakedComplete, handedOver_eq_iff]
      simp only [same, notIntercepted, query, forall_const, complete, Except.ok.injEq, forall_eq',
        now.1, ne_eq, now.2, not_false_eq_true]

theorem resetForReexecution_leaves (cursor : Cursor) :
    SameText cursor (resetForReexecution cursor) ∧
      (resetForReexecution cursor).fakeInputBindsForThisQuery =
        cursor.fakeInputBindsForThisQuery ∧
      (resetForReexecution cursor).binds = cursor.binds ∧
      (cursor.error.isSet = false → (resetForReexecution cursor).error.isSet = false) := by
  rw [resetForReexecution]
  split
  · exact ⟨⟨rfl, rfl, rfl, rfl, rfl, rfl⟩, rfl, rfl, fun _ => rfl⟩
  · exact ⟨⟨rfl, rfl, rfl, rfl, rfl, rfl⟩, rfl, rfl, id⟩

theorem InRun.of_sameText {before after : Cursor} (inRun : server.InRun enabled text before)
    (same : SameText before after)
    (fakes : after.fakeInputBindsForThisQuery = before.fakeInputBindsForThisQuery)
    (error : before.error.isSet = false → after.error.isSet = false) :
    server.InRun enabled text after := by
  constructor
  · intro left
    rw [same.faked] at left
    rw [same.fakedQuery]
    exact inRun.faked left
  · intro left
    rw [same.faked] at left
    rw [same.fakedQuery]
    exact inRun.fits left
  · rcases inRun.query with ⟨processed, rewritten, complete, query, type, intercept⟩ |
      ⟨fresh, query, small, noError, faking⟩
    · exact .inl ⟨same.preProcessed.trans processed, rewritten, complete, same.query.trans query,
        same.queryType.trans type, same.needsIntercept.trans intercept⟩
    · exact .inr ⟨same.preProcessed.trans fresh, same.query.trans query, small, error noError,
        fakes.trans faking⟩

/-- What the rewriting leaves of a query whose rewriting has been put off. -/
theorem preProcess_inRun (fits : server.RewritingFits enabled text)
    (inRun : server.InRun enabled text cursor) (fresh : cursor.hasBeenPreProcessed = false)
    (ok : (server.preProcess enabled cursor).ok = true) :
    server.Holds enabled text (server.preProcess enabled cursor).state ∧
      server.InRun enabled text (server.preProcess enabled cursor).state ∧
      (server.preProcess enabled cursor).state.fakeInputBindsForThisQuery = true ∧
      (server.preProcess enabled cursor).state.binds = cursor.binds := by
  obtain ⟨untouched, _⟩ := server.preProcess_goesOnIn enabled cursor ok
  rcases inRun.query with ⟨processed, _⟩ | ⟨_, query, small, noError, fakes⟩
  · rw [fresh] at processed
    contradiction
  have holds : server.Holds enabled text (server.preProcess enabled cursor).state := by
    rw [← query] at fits
    have left := holds_of_completes (preProcess_completes fits) ok
    rwa [query] at left
  refine ⟨holds, ⟨?_, ?_, .inl holds⟩, untouched.fakes fakes, untouched.binds⟩
  · intro left
    rw [untouched.faked] at left
    rw [untouched.fakedQuery]
    exact inRun.faked left
  · intro left
    rw [untouched.faked] at left
    rw [untouched.fakedQuery]
    exact inRun.fits left

/-- `executeQuery` hands on whole texts exactly if they fit. -/
theorem executeQuery_whole_iff (call : ExecuteCall) (inRun : server.InRun enabled text cursor) :
    server.Whole enabled text (server.executeQuery enabled call cursor) ↔
      server.ExecuteFits enabled text cursor call := by
  obtain ⟨same, fakes, binds, error⟩ :=
    resetForReexecution_leaves { cursor with binds := call.rebind.getD cursor.binds }
  rw [executeQuery, ExecuteFits]
  generalize resetForReexecution { cursor with binds := call.rebind.getD cursor.binds } = reset
    at same fakes binds error ⊢
  have resetRun : server.InRun enabled text reset :=
    inRun.of_sameText ⟨same.1, same.2, same.3, same.4, same.5, same.6⟩ fakes error
  have flag : reset.hasBeenPreProcessed = cursor.hasBeenPreProcessed := same.preProcessed
  have fakesFlag : reset.fakeInputBindsForThisQuery = cursor.fakeInputBindsForThisQuery := fakes
  have bindsSet : reset.binds = call.rebind.getD cursor.binds := binds
  rw [← flag, ← fakesFlag, ← bindsSet]
  cases processed : reset.hasBeenPreProcessed with
  | true =>
      have holds : server.Holds enabled text reset := by
        rcases resetRun.query with holds | ⟨fresh, _⟩
        · exact holds
        · rw [processed] at fresh
          contradiction
      simp only [if_true, Progress.pass_andThen, Bool.true_eq_false, false_imp_iff, true_and]
      exact (fakeBinds_whole_iff call holds resetRun).1
  | false =>
      rcases resetRun.query with ⟨set, _⟩ | ⟨_, query, small, noError, faking⟩
      · rw [processed] at set
        contradiction
      simp only [Bool.false_eq_true, if_false, forall_const]
      have rewriting := preProcess_safe_iff enabled text processed noError (by rw [query]; exact small)
      rw [query] at rewriting
      rw [Whole, Progress.safe_andThen_iff, ← Whole, rewriting]
      apply and_congr_right
      intro fits
      cases ok : (server.preProcess enabled reset).ok with
      | false =>
          rw [← query] at fits
          have completes := preProcess_completes fits
          rw [query] at completes
          refine iff_of_true (by simp) ?_
          intro rewritten complete
          rw [complete, Completes, ok] at completes
          exact absurd completes.1 Bool.false_ne_true
      | true =>
          obtain ⟨holds, left, fakesStill, bindsStill⟩ := preProcess_inRun fits resetRun processed ok
          have whole := (fakeBinds_whole_iff call holds left).1
          rw [fakesStill, bindsStill, Whole] at whole
          simpa only [forall_const, faking] using whole

theorem executeFaked_inRun (call : ExecuteCall) (holds : server.Holds enabled text cursor)
    (inRun : server.InRun enabled text cursor)
    (fits : ∀ rewritten, server.completeQuery enabled text = .ok rewritten →
      rewritten.type.intercepted = false → cursor.fakeInputBindsForThisQuery = true →
      cursor.binds.input ≠ [] →
      (server.faker.fakeInputBinds cursor.binds.input rewritten.text).length < 2 ^ 32) :
    server.InRun enabled text
      (server.executeFaked enabled call (server.fakeBinds cursor)).state := by
  have same := (server.executeFaked_keeps enabled call (server.fakeBinds cursor)).2
  have faked := (fakeBinds_whole_iff call holds inRun).2
  obtain ⟨processed, rewritten, complete, query, type, intercept⟩ := holds
  constructor
  · intro left
    rw [same.faked] at left
    rw [same.fakedQuery]
    exact faked left
  · intro left result completes notIntercepted
    rw [same.fakedQuery]
    rw [same.faked] at left
    rw [fakeBinds] at left ⊢
    split at left
    next now =>
      rw [Bool.and_eq_true, Bool.not_eq_true', List.isEmpty_eq_false_iff] at now
      rw [if_pos (by simp [now.1, now.2])]
      have sameResult : result = rewritten := Except.ok.inj (completes.symm.trans complete)
      rw [query, ← sameResult]
      exact fits result completes notIntercepted now.1 now.2
    next notNow =>
      rw [if_neg notNow]
      exact inRun.fits left result completes notIntercepted
  · refine .inl ⟨?_, rewritten, complete, ?_, ?_, ?_⟩
    · rw [same.preProcessed, fakeBinds_hasBeenPreProcessed, processed]
    · rw [same.query, fakeBinds_query, query]
    · rw [same.queryType, fakeBinds_queryType, type]
    · rw [same.needsIntercept, fakeBinds_needsIntercept, intercept]

/-- A call that fits leaves the query as the next call is to find it. -/
theorem executeQuery_inRun (call : ExecuteCall) (inRun : server.InRun enabled text cursor)
    (fits : server.ExecuteFits enabled text cursor call)
    (after : (server.executeQuery enabled call cursor).state.hasBeenPreProcessed = true) :
    server.InRun enabled text (server.executeQuery enabled call cursor).state := by
  obtain ⟨same, fakes, binds, error⟩ :=
    resetForReexecution_leaves { cursor with binds := call.rebind.getD cursor.binds }
  rw [ExecuteFits] at fits
  rw [executeQuery] at after ⊢
  generalize resetForReexecution { cursor with binds := call.rebind.getD cursor.binds } = reset
    at same fakes binds error after ⊢
  have resetRun : server.InRun enabled text reset :=
    inRun.of_sameText ⟨same.1, same.2, same.3, same.4, same.5, same.6⟩ fakes error
  have flag : reset.hasBeenPreProcessed = cursor.hasBeenPreProcessed := same.preProcessed
  have fakesFlag : reset.fakeInputBindsForThisQuery = cursor.fakeInputBindsForThisQuery := fakes
  have bindsSet : reset.binds = call.rebind.getD cursor.binds := binds
  rw [← flag, ← fakesFlag, ← bindsSet] at fits
  cases processed : reset.hasBeenPreProcessed with
  | true =>
      have holds : server.Holds enabled text reset := by
        rcases resetRun.query with holds | ⟨fresh, _⟩
        · exact holds
        · rw [processed] at fresh
          contradiction
      rw [if_pos rfl, Progress.pass_andThen]
      exact executeFaked_inRun call holds resetRun fits.2
  | false =>
      rw [processed, if_neg Bool.false_ne_true] at after
      rw [if_neg Bool.false_ne_true]
      cases ok : (server.preProcess enabled reset).ok with
      | false =>
          rw [Progress.andThen_of_not_ok ok] at after
          have stopped : (server.preProcess enabled reset).state.hasBeenPreProcessed = false :=
            server.preProcess_stopsIn enabled processed ok
          rw [after] at stopped
          contradiction
      | true =>
          obtain ⟨holds, left, fakesStill, bindsStill⟩ :=
            preProcess_inRun (fits.1 processed) resetRun processed ok
          rw [Progress.andThen_of_ok ok]
          apply executeFaked_inRun call holds left
          rw [bindsStill]
          intro rewritten complete notIntercepted _
          apply fits.2 rewritten complete notIntercepted
          rcases resetRun.query with ⟨set, _⟩ | ⟨_, _, _, _, faking⟩
          · rw [processed] at set
            contradiction
          · exact faking

/-- The next call finds a cursor that an earlier one has left. -/
theorem next_eq_some {state : Option Cursor} {call : ExecuteCall} {after : Cursor}
    (reached : server.next enabled state call = some after) :
    ∃ before, state = some before ∧ (server.executeQuery enabled call before).state = after ∧
      after.hasBeenPreProcessed = true := by
  obtain ⟨before, found, kept⟩ := Option.bind_eq_some_iff.mp reached
  rw [Option.ite_none_right_eq_some, Option.some.injEq] at kept
  exact ⟨before, found, kept.2, kept.2 ▸ kept.1⟩

theorem along_whole_iff (inRun : server.InRun enabled text cursor) (calls : List ExecuteCall) :
    Along (server.next enabled) (server.WholeCall enabled text) (some cursor) calls ↔
      Along (server.next enabled) (server.FitsCall enabled text) (some cursor) calls := by
  have preserves (state : Option Cursor) (call : ExecuteCall)
      (inRun : ∀ cursor, state = some cursor → server.InRun enabled text cursor)
      (fits : server.FitsCall enabled text state call) (after : Cursor)
      (reached : server.next enabled state call = some after) :
      server.InRun enabled text after := by
    obtain ⟨before, found, left, processed⟩ := next_eq_some reached
    rw [← left] at processed ⊢
    exact executeQuery_inRun call (inRun before found) (fits before found) processed
  have exact_step (state : Option Cursor) (call : ExecuteCall)
      (inRun : ∀ cursor, state = some cursor → server.InRun enabled text cursor) :
      server.WholeCall enabled text state call ↔ server.FitsCall enabled text state call := by
    rw [WholeCall, FitsCall]
    apply forall_congr'
    intro before
    apply imp_congr_right
    intro found
    exact executeQuery_whole_iff call (inRun before found)
  apply Along.iff_guard preserves exact_step
  intro start same
  rwa [← Option.some.inj same]

theorem inRun_of_notFaked (notFaked : cursor.bindsWereFaked = false)
    (query : server.Holds enabled text cursor ∨
      (cursor.hasBeenPreProcessed = false ∧ cursor.query = text ∧
        text.length ≤ server.maxQuerySize ∧ cursor.error.isSet = false ∧
        cursor.fakeInputBindsForThisQuery = true)) : server.InRun enabled text cursor := by
  refine ⟨?_, ?_, query⟩
  · intro left
    rw [notFaked] at left
    contradiction
  · intro left
    rw [notFaked] at left
    contradiction

/-- What `prepareQuery` leaves for the first execution. -/
theorem prepareQuery_inRun (answers : PrepareAnswers) (text : List Byte) (before : Cursor)
    (fits : server.PrepareFits enabled text)
    (ok : (server.prepareQuery enabled answers text before).ok = true) :
    server.InRun enabled text (server.prepareQuery enabled answers text before).state := by
  obtain ⟨small, fits⟩ := fits
  rw [prepareQuery, store, Progress.mk_true_andThen, List.take_of_length_le small] at ok ⊢
  rw [Progress.prepend_ok] at ok
  rw [Progress.prepend_state]
  generalize start : ({ server.resetFlags before with query := text } : Cursor) = cursor at ok ⊢
  have query : cursor.query = text := by rw [← start]
  have fakes : cursor.fakeInputBindsForThisQuery = server.fakeInputBinds := by rw [← start]; rfl
  have fresh : cursor.hasBeenPreProcessed = false := by rw [← start]; rfl
  have noError : cursor.error.isSet = false := by rw [← start]; rfl
  have notFaked : cursor.bindsWereFaked = false := by rw [← start]; rfl
  cases faking : cursor.fakeInputBindsForThisQuery with
  | true =>
      rw [if_pos rfl]
      exact inRun_of_notFaked notFaked (.inr ⟨fresh, query, small, noError, faking⟩)
  | false =>
      rw [faking, if_neg Bool.false_ne_true, Progress.andThen_ok, Bool.and_eq_true] at ok
      rw [if_neg Bool.false_ne_true, Progress.andThen_of_ok ok.1]
      have rewriting := fits (fakes.symm.trans faking)
      rw [← query] at rewriting
      have holds := holds_of_completes (preProcess_completes rewriting) ok.1
      rw [query] at holds
      have left := (server.preProcess_goesOnIn enabled cursor ok.1).1.faked.trans notFaked
      obtain ⟨_, prepared, handled, error, state⟩ := server.prepareNow_leaves enabled answers
        (server.preProcess enabled cursor).state
      apply inRun_of_notFaked
      · rw [state]
        exact left
      · exact .inl (prepareNow_whole answers holds).2

end Calls

/-- Once `prepareQuery` has a query, and any number of `executeQuery` calls follow, with
any binds and whatever the driver and the triggers answer: every text is handed on
whole, the driver gets the complete query and a refusal comes with an error, exactly if
every text on the way fits. -/
theorem whole_throughout_iff (answers : PrepareAnswers) (text : List Byte) (before : Cursor)
    (calls : List ExecuteCall) :
    let prepared := server.prepareQuery enabled answers text before
    (server.Whole enabled text prepared ∧ (prepared.ok = true →
        Along (server.next enabled) (server.WholeCall enabled text) (some prepared.state)
          calls)) ↔
      server.PrepareFits enabled text ∧ (prepared.ok = true →
        Along (server.next enabled) (server.FitsCall enabled text) (some prepared.state)
          calls) := by
  intro prepared
  rw [prepareQuery_whole_iff]
  apply and_congr_right
  intro fits
  apply imp_congr_right
  intro ok
  exact along_whole_iff (prepareQuery_inRun answers text before fits ok) calls

end Server

/-- A query that is one byte longer than the buffer of 64. -/
def longQuery : List Byte :=
  ascii "delete from invoice where paid = 1 and year < 2001 and owner = 34"

/-- The last digit is cut off, and the driver prepares what is left of the query. -/
theorem not_whole_throughout :
    let prepared := plainServer.prepareQuery nothingEnabled plainAnswers longQuery newCursor
    ¬plainServer.Whole nothingEnabled longQuery prepared ∧ prepared.ok = true ∧
      .prepare (longQuery.take 64) (longQuery.take 64) ∈ prepared.events := by
  intro prepared
  refine ⟨?_, by decide, by decide⟩
  intro whole
  have written : Event.write longQuery (longQuery.take 64) ∈ prepared.events := by decide
  have kept : longQuery.take 64 = longQuery := (whole.1 _ written).1.1
  revert kept
  decide

end SqlRelay.Pipeline
