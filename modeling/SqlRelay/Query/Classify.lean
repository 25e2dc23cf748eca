import SqlRelay.Foundation.CString

/-!
# Query classification

`sqlrservercursor::determineQueryType` and the predicates it is built from,
with `checkInterceptQuery`, which sends the transaction queries to controller
calls instead of to the database.  The classifier never looks at the size of
the query: it reads a C string.

A comment runs from `--` to the end of its line; no other comment syntax is known
to the controller's scanners.
-/

namespace SqlRelay.Query

open SqlRelay.Foundation SqlRelay.Foundation.CString

/-- The loop of `skipWhitespaceAndComments`; `inComment` says that the inner
loop is looking for the end of the line. -/
def skipFrom (inComment : Bool) : List Byte → List Byte
  | [] => []
  | byte :: rest =>
      if byte = 0 then byte :: rest
      else if inComment then skipFrom (byte != chr '\n') rest
      else if isWhitespace byte then skipFrom false rest
      else if byte = chr '-' ∧ peek rest = chr '-' then skipFrom true rest
      else byte :: rest

def skipWhitespaceAndComments (query : List Byte) : List Byte := skipFrom false query

/-- `sqlrquerytype_t` -/
inductive QueryType where
  | select | insert | insertSelect | selectInto | multiInsert | update | delete
  | create | drop | alter | custom | etc
  | begin | commit | rollback | autoCommitOn | autoCommitOff
  | setIncludingAutoCommitOn | setIncludingAutoCommitOff
  deriving DecidableEq, Repr

/-- A block is intercepted unless it mentions a commit or a rollback.  The
source keeps two other tests disabled. -/
def blockCanBeIntercepted (block : List Byte) : Bool :=
  !(containsIgnoringCase (ascii "commit") block || containsIgnoringCase (ascii "rollback") block)

def isBeginTransactionQuery (query : List Byte) : Bool :=
  if startsWithIgnoringCase query (ascii "begin") then
    let after := skipWhitespaceAndComments (query.drop 5)
    peek after = 0 ||
      (startsWithIgnoringCase after (ascii "work") && blockCanBeIntercepted (after.drop 4)) ||
      (startsWithIgnoringCase after (ascii "transaction") && blockCanBeIntercepted (after.drop 11))
  else if startsWithIgnoringCase query (ascii "start ") then true
  else startsWithIgnoringCase query (ascii "bt") && peek (query.drop 2) = 0

/-- The optional `=` or `to` between `autocommit` and its value. -/
def skipAssignment (query : List Byte) : List Byte :=
  if peek query = chr '=' then query.drop 1
  else if startsWithIgnoringCase query (ascii "to") then query.drop 2
  else query

/-- The text after the value of an `autocommit` query, if it has one of the
spellings asked for. -/
def skipAutoCommitValue (on : Bool) (query : List Byte) : Option (List Byte) :=
  if on then
    if peek query = chr '1' then some (query.drop 1)
    else if startsWithIgnoringCase query (ascii "on") then some (query.drop 2)
    else if startsWithIgnoringCase query (ascii "yes") then some (query.drop 3)
    else if startsWithIgnoringCase query (ascii "immediate") then some (query.drop 9)
    else none
  else
    if peek query = chr '0' then some (query.drop 1)
    else if startsWithIgnoringCase query (ascii "off") then some (query.drop 3)
    else if startsWithIgnoringCase query (ascii "no") then some (query.drop 2)
    else none

def isAutoCommitQuery (query : List Byte) (on : Bool) : Bool :=
  startsWithIgnoringCase query (ascii "autocommit") &&
    match skipAutoCommitValue on (skipWhitespaceAndComments
        (skipAssignment (skipWhitespaceAndComments (query.drop 10)))) with
    | none => false
    | some after => peek (skipWhitespaceAndComments after) = 0

def isAutoCommitOnQuery (query : List Byte) : Bool := isAutoCommitQuery query true

def isAutoCommitOffQuery (query : List Byte) : Bool := isAutoCommitQuery query false

/-- The text after one of the names of the autocommit setting. -/
def skipAutoCommitName (query : List Byte) : Option (List Byte) :=
  if startsWithIgnoringCase query (ascii "autocommit") then some (query.drop 10)
  else if startsWithIgnoringCase query (ascii "auto") then some (query.drop 4)
  else if startsWithIgnoringCase query (ascii "implicit_transactions") then some (query.drop 21)
  else none

/-- `while (*query && *query!=',') query++;` -/
def skipToComma (query : List Byte) : List Byte :=
  query.dropWhile fun byte => byte != 0 && byte != chr ','

/-- The loop that looks for the setting in a `set` list.  Each round drops a
comma, so as many rounds as the text has bytes are enough. -/
def findAutoCommitName : Nat → List Byte → Option (List Byte)
  | 0, _ => none
  | rounds + 1, query =>
      let query := skipWhitespaceAndComments query
      match skipAutoCommitName query with
      | some after => some after
      | none =>
          let query := skipToComma query
          if peek query = 0 then none else findAutoCommitName rounds (query.drop 1)

/-- `isSetIncludingAutoCommitQuery`: `some on` where the source returns true
with that value in `on`. -/
def isSetIncludingAutoCommitQuery (query : List Byte) : Option Bool :=
  if startsWithIgnoringCase query (ascii "set") then
    match findAutoCommitName (query.length + 1) (query.drop 3) with
    | none => none
    | some after =>
        let query := skipWhitespaceAndComments after
        if peek query = chr '=' then
          let query := skipWhitespaceAndComments (query.drop 1)
          if peek query = chr '1' then some true
          else if peek query = chr '0' then some false
          else none
        else none
  else none

/-- The query types that are recognised by their first word alone. -/
def leadingKeyword (ptr : List Byte) : Option (QueryType × List Byte) :=
  if startsWithIgnoringCase ptr (ascii "select") then some (.select, ptr.drop 6)
  else if startsWithIgnoringCase ptr (ascii "insert") then some (.insert, ptr.drop 6)
  else if startsWithIgnoringCase ptr (ascii "update") then some (.update, ptr.drop 6)
  else if startsWithIgnoringCase ptr (ascii "delete") then some (.delete, ptr.drop 6)
  else if startsWithIgnoringCase ptr (ascii "create") then some (.create, ptr.drop 6)
  else if startsWithIgnoringCase ptr (ascii "drop") then some (.drop, ptr.drop 4)
  else if startsWithIgnoringCase ptr (ascii "alter") then some (.alter, ptr.drop 5)
  else none

def isCommitQuery (ptr : List Byte) : Bool :=
  startsWithIgnoringCase ptr (ascii "commit") ||
    (startsWithIgnoringCase ptr (ascii "et") && peek (ptr.drop 2) = 0)

/-- The savepoint special case of `determineQueryType`. -/
def isRollbackTo (ptr : List Byte) : Bool :=
  let after := skipWhitespaceAndComments (ptr.drop 8)
  startsWithIgnoringCase after (ascii "to") && isWhitespace (peek (after.drop 2))

def determineQueryType (query : List Byte) : QueryType :=
  let ptr := skipWhitespaceAndComments query
  match leadingKeyword ptr with
  | some (type, after) => if isWhitespace (peek after) then type else .etc
  | none =>
      if isBeginTransactionQuery ptr then .begin
      else if isCommitQuery ptr then .commit
      else if startsWithIgnoringCase ptr (ascii "rollback") then
        if isRollbackTo ptr then .etc else .rollback
      else if isAutoCommitOnQuery ptr then .autoCommitOn
      else if isAutoCommitOffQuery ptr then .autoCommitOff
      else
        match isSetIncludingAutoCommitQuery ptr with
        | some true => .setIncludingAutoCommitOn
        | some false => .setIncludingAutoCommitOff
        | none => .etc

/-- Query types that `checkInterceptQuery` marks for interception. -/
def checkInterceptQuery : QueryType → Bool
  | .begin | .commit | .rollback | .autoCommitOn | .autoCommitOff => true
  | .setIncludingAutoCommitOn | .setIncludingAutoCommitOff => true
  | _ => false

/-- Query types that `interceptQuery` replaces by a controller call; the text
of such a query is never sent to the database. -/
def QueryType.intercepted : QueryType → Bool
  | .begin | .commit | .rollback | .autoCommitOn | .autoCommitOff => true
  | _ => false

/-- `queryIsNotSelect`, the inner `select into` test included. -/
def queryIsNotSelect (query : List Byte) : Bool :=
  let ptr := skipWhitespaceAndComments query
  !(startsWithIgnoringCase ptr (ascii "select") &&
    !startsWithIgnoringCase ptr (ascii "select into "))

def queryIsCommitOrRollback (query : List Byte) : Bool :=
  let ptr := skipWhitespaceAndComments query
  startsWithIgnoringCase ptr (ascii "commit") || startsWithIgnoringCase ptr (ascii "rollback")

/-- The words after a `for` that make `hasForUpdate` true. -/
def isForUpdateAt (ptr : List Byte) : Bool :=
  let after := ptr.drop 3
  isWhitespace (peek after) &&
    let after := after.dropWhile isWhitespace
    startsWithIgnoringCase after (ascii "update") && !isAlphanumeric (peek (after.drop 6))

/-- The loop of `hasForUpdate`; `previous` is the byte before the pointer. -/
def hasForUpdateFrom (previous : Option Byte) : List Byte → Bool
  | [] => false
  | byte :: rest =>
      byte != 0 &&
        (((previous.all fun before => !isAlphanumeric before) &&
            startsWithIgnoringCase (byte :: rest) (ascii "for") &&
            isForUpdateAt (byte :: rest)) ||
          hasForUpdateFrom (some byte) rest)

def hasForUpdate (query : List Byte) : Bool := hasForUpdateFrom none query

/-- A query type is replaced by a controller call only if it was marked. -/
theorem checkInterceptQuery_of_intercepted {type : QueryType}
    (intercepted : type.intercepted = true) : checkInterceptQuery type = true := by
  cases type <;> simp_all [QueryType.intercepted, checkInterceptQuery]

example : determineQueryType (ascii "  -- go\n Begin  Work ") = .begin := by decide
example : determineQueryType (ascii "rollback to savepoint s") = .etc := by decide
example : determineQueryType (ascii "set names=1, autocommit = 0") = .setIncludingAutoCommitOff := by
  decide

end SqlRelay.Query
