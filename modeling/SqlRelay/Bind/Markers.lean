import SqlRelay.Foundation.QuotedLiteral

/-!
# Bind markers in query text

The predicates of `bindvariables.h`, and the scan that finds the bind markers of
a query.  The scan is stated for an arbitrary test for the end of a marker: the
test the source uses is one instance, the maximal run of name characters is
another.
-/

namespace SqlRelay.Bind

open SqlRelay.Foundation SqlRelay.Foundation.CString SqlRelay.Foundation.QuotedLiteral

/-- The delimiters that the configuration accepts. -/
structure Delimiters where
  questionMark : Bool
  colon : Bool
  atSign : Bool
  dollarSign : Bool
  deriving DecidableEq, Repr

def beforeBindVariable (byte : Byte) : Bool :=
  (ascii " \t\n\r=<>,(+-*/%|&!~^").contains byte

/-- A bind variable begins at the pointer. -/
def isBindDelimiter (delimiters : Delimiters) (text : List Byte) : Bool :=
  (delimiters.questionMark && peek text == chr '?') ||
    (delimiters.colon && peek text == chr ':' && peek (text.drop 1) != chr '=') ||
    (delimiters.atSign && peek text == chr '@' && peek (text.drop 1) != chr '@') ||
    (delimiters.dollarSign && peek text == chr '$')

def isBindVariableNameCharacter (byte : Byte) : Bool :=
  isAlphanumeric byte || byte == chr '_' || byte == chr '$' || byte == chr '#'

/-- The source's test for the end of a bind variable. -/
def afterBindVariable (text : List Byte) : Bool :=
  !isBindVariableNameCharacter (peek text) &&
    ((ascii " \t\n\r,);=<>!").contains (peek text) ||
      (peek text == chr ':' && peek (text.drop 1) == chr '='))

/-- The name is over: the byte at the pointer is not a name character. -/
def afterName (text : List Byte) : Bool := !isBindVariableNameCharacter (peek text)

/-- `queryparsestate_t` -/
inductive ParseState where
  | inQuery | inQuotes | beforeBind | inBind
  deriving DecidableEq, Repr

/-- `prev` after a byte; an escaped backslash escapes nothing. -/
def nextPrev (prev byte : Byte) : Byte :=
  if byte = backslash ∧ prev = backslash then 0 else byte

/-- The state after a byte of query text. -/
def afterQueryByte (byte : Byte) : ParseState :=
  if beforeBindVariable byte then .beforeBind
  else if byte = quote then .inQuotes
  else .inQuery

/-- What a scan depends on: the delimiters, whether the backend takes backslash
for an escape, and where a marker ends. -/
structure Scanner where
  delimiters : Delimiters
  escapes : Bool
  ends : List Byte → Bool

namespace Scanner

/-- The state after the byte at the pointer. -/
def advance (scanner : Scanner) (state : ParseState) (prev byte : Byte) (rest : List Byte) :
    ParseState :=
  match state with
  | .inQuery => afterQueryByte byte
  | .inQuotes =>
      if byte = quote ∧ (scanner.escapes = false ∨ prev ≠ backslash) then .inQuery
      else .inQuotes
  | .beforeBind =>
      if isBindDelimiter scanner.delimiters (byte :: rest) then .inBind else afterQueryByte byte
  | .inBind => if scanner.ends (byte :: rest) then afterQueryByte byte else .inBind

/-- The bytes up to the end of the marker. -/
def takeBind (scanner : Scanner) : List Byte → List Byte
  | [] => []
  | byte :: rest => if scanner.ends (byte :: rest) then [] else byte :: takeBind scanner rest

end Scanner

/-- A byte of text, or a whole marker. -/
inductive Piece where
  | text (byte : Byte)
  | bind (marker : List Byte)
  deriving DecidableEq, Repr

/-- The pieces of a query, in order.  In state `inBind` the marker has already
been emitted and its bytes are passed over. -/
def Scanner.pieces (scanner : Scanner) : ParseState → Byte → List Byte → List Piece
  | _, _, [] => []
  | state, prev, byte :: rest =>
      let later := pieces scanner (scanner.advance state prev byte rest) (nextPrev prev byte) rest
      if state = .beforeBind ∧ isBindDelimiter scanner.delimiters (byte :: rest) = true then
        .bind (byte :: scanner.takeBind rest) :: later
      else if state = .inBind ∧ scanner.ends (byte :: rest) = false then later
      else .text byte :: later

theorem afterQueryByte_ne_inBind (byte : Byte) : afterQueryByte byte ≠ .inBind := by
  rw [afterQueryByte]
  split
  · decide
  · split <;> decide

def Piece.bytes : Piece → List Byte
  | .text byte => [byte]
  | .bind marker => marker

/-- Scanning loses nothing. -/
theorem Scanner.flatMap_pieces (scanner : Scanner) (state : ParseState) (prev : Byte)
    (text : List Byte) :
    (if state = .inBind then scanner.takeBind text else []) ++
      (scanner.pieces state prev text).flatMap Piece.bytes = text := by
  induction text generalizing state prev with
  | nil => simp [Scanner.pieces, Scanner.takeBind]
  | cons byte rest ih =>
      have later := ih (scanner.advance state prev byte rest) (nextPrev prev byte)
      cases state with
      | inQuery =>
          simpa [Scanner.pieces, Scanner.advance, Piece.bytes, afterQueryByte_ne_inBind]
            using later
      | inQuotes =>
          have notBind : scanner.advance .inQuotes prev byte rest ≠ .inBind := by
            rw [Scanner.advance]
            split <;> decide
          simpa [Scanner.pieces, Piece.bytes, notBind] using later
      | beforeBind =>
          by_cases delimiter : isBindDelimiter scanner.delimiters (byte :: rest) = true
          · simpa [Scanner.pieces, Scanner.advance, Piece.bytes, delimiter] using later
          · simpa [Scanner.pieces, Scanner.advance, Piece.bytes, delimiter,
              afterQueryByte_ne_inBind] using later
      | inBind =>
          cases ends : scanner.ends (byte :: rest) with
          | true =>
              simpa [Scanner.pieces, Scanner.advance, Scanner.takeBind, Piece.bytes, ends,
                afterQueryByte_ne_inBind] using later
          | false =>
              simpa [Scanner.pieces, Scanner.advance, Scanner.takeBind, Piece.bytes, ends]
                using later

end SqlRelay.Bind
