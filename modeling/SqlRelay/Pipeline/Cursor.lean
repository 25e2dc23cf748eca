import SqlRelay.Bind.FakedBinds
import SqlRelay.Bind.Translate
import SqlRelay.Foundation.Progress
import SqlRelay.Pipeline.Translations
import SqlRelay.Query.Classify

/-!
# Preparing and executing a query

`prepareQuery` and `executeQuery` of the server controller, on one cursor: the
filters, the rewriting of the query in the cursor's query buffer, faked binds, the
calls of the driver and the triggers, and the flags that survive from one call to
the next.  What modules, triggers and the driver answer is input.
-/

namespace SqlRelay.Pipeline

open SqlRelay.Foundation SqlRelay.Foundation.CString SqlRelay.Bind SqlRelay.Query

/-- The error of a cursor: its text and number. -/
structure CursorError where
  text : List Byte
  number : Int
  deriving DecidableEq, Repr

namespace CursorError

/-- `clearError` -/
def cleared : CursorError := ⟨[], 0⟩

def isSet (error : CursorError) : Bool := error.number != 0 || error.text != []

/-- `saveError` does not overwrite an error that has been saved. -/
def save (error driverError : CursorError) : CursorError :=
  if error.isSet then error else driverError

end CursorError

/-- `SQLR_ERROR_QUERYTRANSLATION` -/
def queryTranslationError (text : List Byte) : CursorError := ⟨text, 900027⟩

abbrev Mappings := List (Option (List Byte) × List Byte)

/-- The new name of a variable; the latest mapping of a name counts. -/
def mapped (mappings : Mappings) (name : List Byte) : List Byte :=
  ((mappings.reverse.find? fun mapping => mapping.1 == some name).map Prod.snd).getD name

def BindVar.rename (mappings : Mappings) (bind : BindVar) : BindVar :=
  { bind with name := mapped mappings bind.name }

/-- `translateBindVariablesFromMappings` -/
def Binds.rename (mappings : Mappings) (binds : Binds) : Binds :=
  ⟨binds.input.map (BindVar.rename mappings), binds.output.map (BindVar.rename mappings),
    binds.inputOutput.map (BindVar.rename mappings)⟩

/-- The before- and after-filters: the error of the first that rejects a query. -/
structure Filters where
  before : List Byte → Option CursorError
  after : List Byte → Option CursorError

/-- The configuration, the modules and what is known of the driver. -/
structure Server (Tree : Type) where
  translator : Translator
  faker : BindFaker
  fakeInputBinds : Bool
  filters : Option Filters
  translations : Option (Translations Tree)
  /-- Trigger modules are loaded. -/
  triggers : Bool
  noopQuery : List Byte
  beginTransactionQuery : List Byte
  supportsNativeBinds : List Byte → Bool
  columnInfoIsValidAfterPrepare : Bool
  /-- The result set header translations accept the columns of a query. -/
  translatesHeader : List Byte → Bool
  /-- What lies behind a query in memory. -/
  memory : List Byte

/-- What is enabled for a query. -/
structure Enabled where
  translations : Bool
  filters : Bool
  triggers : Bool
  /-- Bind translation is configured or required, and not disabled for this query. -/
  translateBinds : Bool
  /-- Explicit transactions are supported or faked. -/
  explicitTransactions : Bool

structure Cursor where
  /-- The query buffer, up to the query size. -/
  query : List Byte
  queryType : QueryType
  hasBeenPreProcessed : Bool
  hasBeenPrepared : Bool
  hasBeenExecuted : Bool
  needsIntercept : Bool
  wasIntercepted : Bool
  bindsWereFaked : Bool
  fakeInputBindsForThisQuery : Bool
  resultSetHeaderHasBeenHandled : Bool
  queryWithFakeInputBinds : List Byte
  bindMappings : Mappings
  binds : Binds
  error : CursorError

/-- What a driver and the triggers answer while a query is prepared. -/
structure PrepareAnswers where
  prepares : Bool
  error : CursorError
  afterPrepare : Bool

/-- What a controller call, the driver and the triggers answer during one
`executeQuery`, and the binds that the client has set before it, if it has. -/
structure ExecuteCall extends PrepareAnswers where
  rebind : Option Binds
  controllerCall : Bool
  connectionError : CursorError
  handlesBinds : Bool
  bindError : CursorError
  beforeExecute : Bool
  suppressed : Bool
  executes : Bool
  executeError : CursorError
  afterExecute : Bool
  /-- What the after-execute triggers make of the error of the cursor. -/
  afterTriggers : CursorError → CursorError

abbrev Stage := Progress Cursor Event

/-- A text that is handed on with its size in a `uint32_t`. -/
def sized (text : List Byte) : List Byte := text.take (text.length % 2 ^ 32)

namespace Server

variable {Tree : Type} (server : Server Tree) (enabled : Enabled)

def maxQuerySize : Nat := server.translator.maxQuerySize

/-- A copy into the query buffer. -/
def store (text written : List Byte) (cursor : Cursor) : Stage :=
  ⟨[.write text written], { cursor with query := written }, true⟩

def determineQueryType (cursor : Cursor) : Cursor :=
  { cursor with queryType := SqlRelay.Query.determineQueryType cursor.query }

def filterQuery (before : Bool) (cursor : Cursor) : Stage :=
  match server.filters with
  | none => .pass cursor
  | some filters =>
      if enabled.filters then
        match (if before then filters.before else filters.after) cursor.query with
        | none => .pass cursor
        | some error => .stop { cursor with error := error }
      else .pass cursor

/-- A translated query: too large, empty, or fine.  The no-op query is appended
after the size has been checked. -/
def storeTranslated (text : List Byte) (cursor : Cursor) : Stage :=
  if server.maxQuerySize < text.length then .stop cursor
  else
    let text := if peek text = 0 then text ++ server.noopQuery else text
    store text text cursor

def translateQuery (cursor : Cursor) : Stage :=
  match server.translations with
  | none => .pass cursor
  | some translations =>
      if enabled.translations then
        let (events, result) := translations.run server.memory cursor.query
        let cursor := { cursor with
          fakeInputBindsForThisQuery :=
            cursor.fakeInputBindsForThisQuery || translations.fakesInputBinds cursor.query }
        match result with
        | .ok text => { server.storeTranslated text cursor with
            events := events ++ (server.storeTranslated text cursor).events }
        | .error error =>
            if translations.useOriginalOnError then ⟨events, cursor, true⟩
            else ⟨events, { cursor with error := queryTranslationError error }, false⟩
      else .pass cursor

def translateBindVariables (cursor : Cursor) : Stage :=
  if enabled.translateBinds then
    let loop := server.translator.run Translator.Loop.start cursor.query
    let cursor := { cursor with bindMappings := loop.mappings }
    if loop.translated then
      store loop.newQuery (server.translator.translateBindVariables cursor.query).1 cursor
    else .pass cursor
  else .pass cursor

def translateBeginTransaction (cursor : Cursor) : Stage :=
  if enabled.explicitTransactions && cursor.queryType == .begin then
    store server.beginTransactionQuery server.beginTransactionQuery cursor
  else .pass cursor

/-- Natively supported binds or not, and whether the query is to be intercepted. -/
def finishPreProcessing (cursor : Cursor) : Cursor :=
  { cursor with
    fakeInputBindsForThisQuery :=
      cursor.fakeInputBindsForThisQuery || !server.supportsNativeBinds cursor.query
    needsIntercept := checkInterceptQuery cursor.queryType
    hasBeenPreProcessed := true }

/-- The part that `prepareQuery` and `executeQuery` share. -/
def preProcess (cursor : Cursor) : Stage :=
  (server.filterQuery enabled true (determineQueryType { cursor with bindMappings := [] })).andThen
    fun cursor => (server.translateQuery enabled cursor).andThen
    fun cursor => (server.translateBindVariables enabled (determineQueryType cursor)).andThen
    fun cursor => (server.translateBeginTransaction enabled cursor).andThen
    fun cursor => (server.filterQuery enabled false cursor).andThen
    fun cursor => .pass (server.finishPreProcessing cursor)

/-- The driver's `prepareQuery`, and the triggers around it. -/
def prepare (answers : PrepareAnswers) (text given : List Byte) (cursor : Cursor) : Stage :=
  let saved :=
    if answers.prepares then cursor.error else cursor.error.save answers.error
  let success :=
    answers.prepares && (!(enabled.triggers && server.triggers) || answers.afterPrepare)
  ⟨[.prepare text given],
    { cursor with error := saved, hasBeenPrepared := cursor.hasBeenPrepared || success },
    success⟩

/-- It does its work once for a result set. -/
def handleResultSetHeader (text : List Byte) (cursor : Cursor) : Stage :=
  ⟨[], { cursor with resultSetHeaderHasBeenHandled := true },
    cursor.resultSetHeaderHasBeenHandled || server.translatesHeader text⟩

/-- The flags at the beginning of `prepareQuery`. -/
def resetFlags (cursor : Cursor) : Cursor :=
  { cursor with
    queryType := .etc
    hasBeenPreProcessed := false
    hasBeenPrepared := false
    hasBeenExecuted := false
    needsIntercept := false
    wasIntercepted := false
    bindsWereFaked := false
    fakeInputBindsForThisQuery := server.fakeInputBinds
    resultSetHeaderHasBeenHandled := false
    error := .cleared }

/-- The part of `prepareQuery` after the query has been preprocessed. -/
def prepareNow (answers : PrepareAnswers) (cursor : Cursor) : Stage :=
  if cursor.needsIntercept || cursor.fakeInputBindsForThisQuery then .pass cursor
  else
    (server.prepare enabled answers cursor.query cursor.query cursor).andThen fun cursor =>
      if server.columnInfoIsValidAfterPrepare then
        server.handleResultSetHeader cursor.query cursor
      else .pass cursor

/-- The copy is left out where the client protocol has put the query into the
buffer itself. -/
def prepareQuery (answers : PrepareAnswers) (text : List Byte) (cursor : Cursor) : Stage :=
  (store text (text.take server.maxQuerySize) (server.resetFlags cursor)).andThen fun cursor =>
    if cursor.fakeInputBindsForThisQuery then .pass cursor
    else (server.preProcess enabled cursor).andThen (server.prepareNow enabled answers)

/-- What a repeated execution begins with. -/
def resetForReexecution (cursor : Cursor) : Cursor :=
  if cursor.hasBeenExecuted then
    { cursor with
      error := .cleared
      resultSetHeaderHasBeenHandled := false
      hasBeenPrepared := cursor.hasBeenPrepared && !cursor.fakeInputBindsForThisQuery }
  else cursor

/-- A query without input binds leaves the buffer and the flag as they are. -/
def fakeBinds (cursor : Cursor) : Cursor :=
  if cursor.fakeInputBindsForThisQuery && !cursor.binds.input.isEmpty then
    { cursor with
      queryWithFakeInputBinds := server.faker.fakeInputBinds cursor.binds.input cursor.query
      bindsWereFaked := true }
  else cursor

/-- The text that goes to the driver. -/
def driverQuery (cursor : Cursor) : List Byte :=
  if cursor.bindsWereFaked then cursor.queryWithFakeInputBinds else cursor.query

/-- The size of the query in the buffer is its size; that of the query with faked
binds is read into a `uint32_t`. -/
def handedOver (cursor : Cursor) : List Byte :=
  if cursor.bindsWereFaked then sized cursor.queryWithFakeInputBinds else cursor.query

/-- The text and its size, as they are taken for the driver. -/
def getQuery (cursor : Cursor) : Stage :=
  ⟨[.handOver (driverQuery cursor) (handedOver cursor)], cursor, true⟩

/-- The binds, under the names of the database, unless they are in the text. -/
def handleBinds (call : ExecuteCall) (cursor : Cursor) : Stage :=
  let renamed := { cursor with binds := cursor.binds.rename cursor.bindMappings }
  if cursor.bindsWereFaked then .pass renamed
  else if call.handlesBinds then ⟨[.bind renamed.binds], renamed, true⟩
  else ⟨[.bind renamed.binds], { renamed with error := renamed.error.save call.bindError }, false⟩

/-- The driver's `executeQuery`, and the triggers around it. -/
def run (call : ExecuteCall) (success : Bool) (cursor : Cursor) : Stage :=
  let triggers := enabled.triggers && server.triggers
  let attempted := if triggers then call.beforeExecute else success
  let sends := attempted && !(triggers && call.suppressed)
  let success := if sends then call.executes else attempted
  let cursor := { cursor with
    hasBeenExecuted := true
    error := if success then cursor.error else cursor.error.save call.executeError }
  let cursor := if triggers then { cursor with error := call.afterTriggers cursor.error } else cursor
  let success := if triggers then call.afterExecute && !cursor.error.isSet else success
  ⟨if sends then [.execute (driverQuery cursor) (handedOver cursor)] else [], cursor, success⟩

/-- The part of `executeQuery` after the binds have been faked. -/
def executeFaked (call : ExecuteCall) (cursor : Cursor) : Stage :=
  if cursor.needsIntercept && cursor.queryType.intercepted then
    ⟨[], { cursor with
        wasIntercepted := true
        binds := ⟨[], [], []⟩
        error := if call.controllerCall then cursor.error else call.connectionError },
      call.controllerCall⟩
  else
    -- for the special cases `interceptQuery` returns false and does nothing
    let success := !cursor.needsIntercept || !cursor.hasBeenPrepared
    (getQuery { cursor with wasIntercepted := false }).andThen
      fun cursor => (if cursor.hasBeenPrepared then .pass cursor
        else server.prepare enabled call.toPrepareAnswers (driverQuery cursor) (handedOver cursor)
          cursor).andThen
      fun cursor => (handleBinds call cursor).andThen
      fun cursor => (server.run enabled call success cursor).andThen
      fun cursor => server.handleResultSetHeader (handedOver cursor) cursor

def executeQuery (call : ExecuteCall) (cursor : Cursor) : Stage :=
  let cursor := resetForReexecution { cursor with binds := call.rebind.getD cursor.binds }
  (if cursor.hasBeenPreProcessed then .pass cursor
    else server.preProcess enabled cursor).andThen
    fun cursor => server.executeFaked enabled call (server.fakeBinds cursor)

end Server

end SqlRelay.Pipeline
