import SqlRelay.Foundation.Lexemes
import SqlRelay.Insert.Parse
import SqlRelay.Query.Classify
import SqlRelay.Query.Interception

/-!
# The statements of a Query message

A Query message holds one string, and the module looks for the semicolons in it.  A pointer is the
bytes of the packet from there on, which may be read past: the string is ended by a NUL if the client
has sent one.
-/

namespace SqlRelay.Postgresql

open SqlRelay.Foundation SqlRelay.Foundation.CString SqlRelay.Query SqlRelay.Insert

/-- Where a literal ends, from behind its first quote on.  After a backslash, and for the second of two
quotes, the next byte belongs to it whatever it is. -/
def closing (quote : Byte) (backslash quotedoubles : Bool) : Bool → List Byte → Option Nat
  | _, [] => none
  | true, _ :: rest => (closing quote backslash quotedoubles false rest).map (· + 1)
  | false, byte :: rest =>
      if backslash && byte == chr '\\' then
        (closing quote backslash quotedoubles true rest).map (· + 1)
      else if byte = quote then
        if quotedoubles && peek rest == quote then
          (closing quote backslash quotedoubles true rest).map (· + 1)
        else some 1
      else (closing quote backslash quotedoubles false rest).map (· + 1)

/-- How many bytes the literal takes that a text starts with, if it has an end. -/
def literalEnd (quote : Byte) (backslash quotedoubles : Bool) : List Byte → Option Nat
  | [] => none
  | _ :: rest => (closing quote backslash quotedoubles false rest).map (· + 1)

/-- A backend: how it quotes, and `findEndOfQuotedString`, which says how many bytes a literal takes if
it ends in as many as it may look at.  The length is the difference of two pointers. -/
structure Backend where
  backslashEscapesQuotes : Bool
  quoteEscapesQuotes : Bool
  postgresql : Bool
  findEndOfQuotedString : List Byte → Int → Byte → Bool → Bool → Nat
  finds : ∀ text (length : Int) quote backslash quotedoubles count,
    literalEnd quote backslash quotedoubles text = some count → count ≤ length →
      findEndOfQuotedString text length quote backslash quotedoubles = count

namespace Backend

variable (backend : Backend)

/-- A backslash does not escape a back quote. -/
def backslashEscapes (quote : Byte) : Bool := backend.backslashEscapesQuotes && quote != 96

/-- The loop of `getQuery`: the bytes up to a semicolon or NUL, and those from there on.  There is
nothing if the packet is read past, or the loop goes on for ever. -/
def scan : Nat → Int → List Byte → Option (List Byte × List Byte)
  | 0, _, _ => none
  | _, _, [] => none
  | fuel + 1, left, byte :: rest =>
      if byte = 0 ∨ byte = chr ';' then some ([], byte :: rest)
      else
        let count :=
          if isQuote byte then
            backend.findEndOfQuotedString (byte :: rest) left byte (backend.backslashEscapes byte)
              backend.quoteEscapesQuotes
          else 1
        if rest.length + 1 < count then none
        else
          (scan fuel (left - count) ((byte :: rest).drop count)).map fun found =>
            ((byte :: rest).take count ++ found.1, found.2)

/-- A query, and the bytes from its end on. -/
def getQuery (query : List Byte) (querysize : Nat) : Option (List Byte × List Byte) :=
  let start := skipWhitespaceAndComments query
  backend.scan (start.length + 1) (querysize - (query.length - start.length : Nat)) start

/-- `skipWhitespace` -/
def skipWhitespace (text : List Byte) : List Byte := text.dropWhile isWhitespace

/-- The queries that the loop of `query` goes through if nothing stops it, and whether the packet is
not read past in between.  What is left of the string is taken to be as long as the query before. -/
def queriesFrom : Nat → List Byte → Nat → List (List Byte) × Bool
  | 0, _, _ => ([], false)
  | fuel + 1, query, querysize =>
      match backend.getQuery query querysize with
      | none => ([], false)
      | some (statement, found) =>
          let next := skipWhitespace found.tail
          if peek found = 0 then ([statement], true)
          else if next = [] then ([statement], false)
          else if peek next = 0 then ([statement], true)
          else
            let more := queriesFrom fuel next statement.length
            (statement :: more.1, more.2)

/-! ## What the string says -/

/-- A comment from `--` to the end of the line, or from `/*` to `*/`. -/
def commentLength : Region → List Byte → Nat
  | _, [] => 0
  | .lineComment, byte :: rest => if byte = chr '\n' then 1 else commentLength .lineComment rest + 1
  | .blockOpen, _ :: rest => commentLength .blockComment rest + 1
  | .blockComment, byte :: rest =>
      commentLength (if byte = chr '*' then .blockStar else .blockComment) rest + 1
  | .blockStar, byte :: rest =>
      if byte = chr '/' then 1
      else commentLength (if byte = chr '*' then .blockStar else .blockComment) rest + 1
  | .text, byte :: rest =>
      if byte = chr '-' ∧ peek rest = chr '-' then commentLength .lineComment rest + 1
      else if byte = chr '/' ∧ peek rest = chr '*' then commentLength .blockOpen rest + 1
      else 0

/-- The literals and comments of a string. -/
def cut : Cut Byte
  | [] => 0
  | byte :: rest =>
      if isQuote byte then
        (literalEnd byte (backend.backslashEscapes byte) backend.quoteEscapesQuotes
          (byte :: rest)).getD (rest.length + 1)
      else if backend.postgresql && byte == chr '$' then skipDollarQuotedLiteral (byte :: rest)
      else commentLength .text (byte :: rest)

/-- A lexeme that says nothing: white space, or a comment to the end of a line. -/
def isBlank (lexeme : List Byte) : Bool :=
  isWhitespace (peek lexeme) || (peek lexeme == chr '-' && decide (2 ≤ lexeme.length))

/-- The pieces between the semicolons outside of literals and comments. -/
def pieces (text : List Byte) : List (List (List Byte)) :=
  (backend.cut.lexemes text).splitOn [chr ';']

/-- The statements of a string, each without what says nothing before it. -/
def statements (text : List Byte) : List (List Byte) :=
  ((backend.pieces text).map fun piece => (piece.dropWhile isBlank).flatten).filter (· ≠ [])

end Backend

end SqlRelay.Postgresql
