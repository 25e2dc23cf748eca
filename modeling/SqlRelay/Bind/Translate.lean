import Mathlib.Algebra.Group.Nat.Defs
import Mathlib.Data.List.TakeDrop
import SqlRelay.Bind.Markers

/-!
# Bind translation

`sqlrservercontroller::translateBindVariables`: the loop over the query buffer
and what it appends for each bind variable.  `isNumber` is the string library's
test for a number; nothing here depends on which texts it accepts.
-/

namespace SqlRelay.Bind

open SqlRelay.Foundation SqlRelay.Foundation.CString SqlRelay.Foundation.QuotedLiteral

/-- The bind formats of the databases, `getBindFormat()`. -/
inductive BindFormat where
  | questionMark | colon | atSign | dollarSign
  deriving DecidableEq, Repr

def BindFormat.text : BindFormat → List Byte
  | .questionMark => ascii "?"
  | .colon => ascii ":*"
  | .atSign => ascii "@*"
  | .dollarSign => ascii "$1"

/-- `bindformat[0]` -/
def BindFormat.delimiter (format : BindFormat) : Byte := peek format.text

/-- What the translation depends on besides the query.  The query buffer holds
`maxQuerySize` bytes and a terminator; its size is a `uint32_t`. -/
structure Translator where
  delimiters : Delimiters
  backslashEscapesQuotes : Bool
  bindFormat : BindFormat
  maxQuerySize : Nat
  maxQuerySize_lt : maxQuerySize < 2 ^ 32 := by decide
  isNumber : List Byte → Bool

namespace Translator

variable (translator : Translator)

/-- The scan with the source's test for the end of a bind variable. -/
def scanner : Scanner :=
  ⟨translator.delimiters, translator.backslashEscapesQuotes, afterBindVariable⟩

def matchesNativeBindFormat (bind : List Byte) : Bool :=
  let format := translator.bindFormat.text
  peek bind == peek format &&
    (format.length == 1 ||
      (peek (format.drop 1) == chr '1' && isDigit (peek (bind.drop 1))) ||
      (peek (format.drop 1) == chr '*' && isAlphanumeric (peek (bind.drop 1))))

/-- `charstring::parseNumber` of a bind index. -/
def decimal (index : UInt16) : List Byte := (Nat.toDigits 10 index.toNat).map Char.toUInt8

/-- What `translateBindVariableInStringAndMap` appends after the delimiter of
the native format, and whether it maps the variable to its number. -/
def translateBindVariable (bind : List Byte) (index : UInt16) : List Byte × Bool :=
  let second := peek (translator.bindFormat.text.drop 1)
  if second = 0 then ([], true)
  else if second = chr '1' ∧ translator.isNumber (contents (bind.drop 1)) = false then
    (decimal index, true)
  else if (contents (translator.bindFormat.delimiter :: bind.drop 1)).length = 1 then
    (decimal index, true)
  else (bind.drop 1, false)

/-- `mapBindVariable`: the old name, unless it is a `?`, and the new one. -/
def mapBindVariable (bind : List Byte) (index : UInt16) : Option (List Byte) × List Byte :=
  let old := contents (translator.bindFormat.delimiter :: bind.drop 1)
  (if old = ascii "?" then none else some old, translator.bindFormat.delimiter :: decimal index)

/-- The locals of the loop. -/
structure Loop where
  parseState : ParseState
  prev : Byte
  currentBind : List Byte
  bindIndex : UInt16
  newQuery : List Byte
  translated : Bool
  mappings : List (Option (List Byte) × List Byte)

def Loop.start : Loop := ⟨.inQuery, 0, [], 1, [], false, []⟩

/-- Append a byte that is not part of a bind variable. -/
def Loop.append (loop : Loop) (state : ParseState) (byte : Byte) : Loop :=
  { loop with
    parseState := state
    newQuery := loop.newQuery ++ [byte]
    prev := nextPrev loop.prev byte }

/-- Add a byte to the current bind variable. -/
def Loop.appendToBind (loop : Loop) (byte : Byte) : Loop :=
  { loop with
    parseState := .inBind
    currentBind := loop.currentBind ++ [byte]
    prev := nextPrev loop.prev byte }

/-- The current bind variable has ended. -/
def endBind (loop : Loop) : Loop :=
  if translator.matchesNativeBindFormat loop.currentBind then
    { loop with
      parseState := .inQuery
      newQuery := loop.newQuery ++ contents loop.currentBind
      bindIndex := loop.bindIndex + 1 }
  else
    let (appended, mapped) :=
      translator.translateBindVariable loop.currentBind loop.bindIndex
    { loop with
      parseState := .inQuery
      newQuery := loop.newQuery ++ translator.bindFormat.delimiter :: appended
      bindIndex := loop.bindIndex + 1
      translated := true
      mappings :=
        if mapped then
          loop.mappings ++ [translator.mapBindVariable loop.currentBind loop.bindIndex]
        else loop.mappings }

/-- The iterations of the loop for the byte at the pointer. -/
def step (loop : Loop) (byte : Byte) (rest : List Byte) : Loop :=
  match loop.parseState with
  | .inQuery => loop.append (afterQueryByte byte) byte
  | .inQuotes =>
      let closes := byte = quote ∧ (translator.backslashEscapesQuotes = false ∨
        loop.prev ≠ backslash)
      loop.append (if closes then .inQuery else .inQuotes) byte
  | .beforeBind =>
      if isBindDelimiter translator.delimiters (byte :: rest) then
        { loop with currentBind := [] }.appendToBind byte
      else loop.append (afterQueryByte byte) byte
  | .inBind =>
      if afterBindVariable (byte :: rest) then
        (translator.endBind loop).append (afterQueryByte byte) byte
      else loop.appendToBind byte

/-- The loop; the last byte of the query ends a bind variable. -/
def run (loop : Loop) : List Byte → Loop
  | [] => if loop.parseState = .inBind then translator.endBind loop else loop
  | byte :: rest => run (translator.step loop byte rest) rest

/-- What is copied of the new query: its size is read into a `uint32_t`, and cut
to the size of the buffer. -/
def fit (newQuery : List Byte) : List Byte :=
  newQuery.take (min (newQuery.length % 2 ^ 32) translator.maxQuerySize)

/-- The query buffer and the bind mappings afterwards. -/
def translateBindVariables (query : List Byte) :
    List Byte × List (Option (List Byte) × List Byte) :=
  let loop := translator.run Loop.start query
  (if loop.translated then translator.fit loop.newQuery else query, loop.mappings)

/-! ## The query as a list of pieces -/

/-- What ends up in the buffer for one bind variable.  A variable in the native
format is copied as a C string, unless nothing at all is translated. -/
def emit (rewritten : Bool) (index : UInt16) (bind : List Byte) : List Byte :=
  if translator.matchesNativeBindFormat bind then
    if rewritten then contents bind else bind
  else translator.bindFormat.delimiter :: (translator.translateBindVariable bind index).1

/-- What ends up in the buffer for a list of pieces. -/
def render (rewritten : Bool) : UInt16 → List Piece → List Byte
  | _, [] => []
  | index, .text byte :: later => byte :: render rewritten index later
  | index, .bind bind :: later =>
      translator.emit rewritten index bind ++ render rewritten (index + 1) later

/-- The scan finds a bind variable that is not in the native format. -/
def translates (pieces : List Piece) : Bool :=
  pieces.any fun
    | .text _ => false
    | .bind bind => !translator.matchesNativeBindFormat bind

/-- What is still to be emitted when the scan stands at a text. -/
def outstanding (loop : Loop) (text : List Byte) : List Piece :=
  (if loop.parseState = .inBind then
    [.bind (loop.currentBind ++ translator.scanner.takeBind text)] else []) ++
    translator.scanner.pieces loop.parseState loop.prev text

theorem endBind_newQuery (loop : Loop) :
    (translator.endBind loop).newQuery =
      loop.newQuery ++ translator.emit true loop.bindIndex loop.currentBind := by
  rw [endBind, emit]
  split <;> rfl

theorem endBind_translated (loop : Loop) :
    (translator.endBind loop).translated =
      (loop.translated || !translator.matchesNativeBindFormat loop.currentBind) := by
  rw [endBind]
  split <;> simp_all

@[simp] theorem endBind_parseState (loop : Loop) :
    (translator.endBind loop).parseState = .inQuery := by
  rw [endBind]
  split <;> rfl

@[simp] theorem endBind_prev (loop : Loop) : (translator.endBind loop).prev = loop.prev := by
  rw [endBind]
  split <;> rfl

@[simp] theorem endBind_bindIndex (loop : Loop) :
    (translator.endBind loop).bindIndex = loop.bindIndex + 1 := by
  rw [endBind]
  split <;> rfl

/-- The text the loop ends with, and whether it ends up translated, as seen
from the middle of it. -/
def outcome (loop : Loop) (text : List Byte) : List Byte × Bool :=
  let pieces := translator.outstanding loop text
  (loop.newQuery ++ translator.render true loop.bindIndex pieces,
    loop.translated || translator.translates pieces)

@[simp] theorem render_nil (rewritten : Bool) (index : UInt16) :
    translator.render rewritten index [] = [] := rfl

@[simp] theorem render_text (rewritten : Bool) (index : UInt16) (byte : Byte)
    (later : List Piece) :
    translator.render rewritten index (.text byte :: later) =
      byte :: translator.render rewritten index later := rfl

@[simp] theorem render_bind (rewritten : Bool) (index : UInt16) (bind : List Byte)
    (later : List Piece) :
    translator.render rewritten index (.bind bind :: later) =
      translator.emit rewritten index bind ++ translator.render rewritten (index + 1) later :=
  rfl

@[simp] theorem translates_nil : translator.translates [] = false := rfl

@[simp] theorem translates_text (byte : Byte) (later : List Piece) :
    translator.translates (.text byte :: later) = translator.translates later := rfl

@[simp] theorem translates_bind (bind : List Byte) (later : List Piece) :
    translator.translates (.bind bind :: later) =
      (!translator.matchesNativeBindFormat bind || translator.translates later) := rfl

/-- An iteration changes nothing about how the loop will end. -/
theorem outcome_step (loop : Loop) (byte : Byte) (rest : List Byte) :
    translator.outcome (translator.step loop byte rest) rest =
      translator.outcome loop (byte :: rest) := by
  have notBind := afterQueryByte_ne_inBind
  obtain ⟨state, prev, current, index, newQuery, translated, mappings⟩ := loop
  cases state with
  | inQuery =>
      simp [step, Loop.append, outcome, outstanding, Scanner.pieces, Scanner.advance, notBind]
  | inQuotes =>
      simp only [step, Loop.append, outcome, outstanding, Scanner.pieces, Scanner.advance, scanner]
      split <;> (rename_i closes; simp only [ne_eq] at closes; simp [closes])
  | beforeBind =>
      simp only [step]
      split
      · rename_i delimiter
        simp [Loop.appendToBind, outcome, outstanding, Scanner.pieces, Scanner.advance, scanner,
          delimiter]
      · rename_i notDelimiter
        simp [Loop.append, outcome, outstanding, Scanner.pieces, Scanner.advance, scanner,
          notDelimiter, notBind]
  | inBind =>
      simp only [step]
      split
      · rename_i ends
        simp [Loop.append, outcome, outstanding, Scanner.pieces, Scanner.advance, scanner,
          Scanner.takeBind, ends, notBind, endBind_newQuery, endBind_translated, Bool.or_assoc]
      · rename_i goesOn
        simp [Loop.appendToBind, outcome, outstanding, Scanner.pieces, Scanner.advance, scanner,
          Scanner.takeBind, goesOn]

theorem outcome_run (loop : Loop) (text : List Byte) :
    ((translator.run loop text).newQuery, (translator.run loop text).translated) =
      translator.outcome loop text := by
  induction text generalizing loop with
  | nil =>
      rw [run]
      split
      · rename_i inBind
        simp [outcome, outstanding, inBind, Scanner.takeBind, Scanner.pieces, endBind_newQuery,
          endBind_translated]
      · rename_i notBind
        simp [outcome, outstanding, notBind, Scanner.pieces]
  | cons byte rest ih => rw [run, ih, outcome_step]

/-- The pieces of a query, as the source scans it. -/
def pieces (query : List Byte) : List Piece := translator.scanner.pieces .inQuery 0 query

/-- Where nothing is translated, the pieces stay as they are. -/
theorem render_of_not_translates (index : UInt16) (pieces : List Piece)
    (nothing : translator.translates pieces = false) :
    translator.render false index pieces = pieces.flatMap Piece.bytes := by
  induction pieces generalizing index with
  | nil => rfl
  | cons piece later ih =>
      cases piece with
      | text byte => simpa [Piece.bytes] using ih index (by simpa using nothing)
      | bind bind =>
          simp only [translates_bind, Bool.or_eq_false_iff, Bool.not_eq_false'] at nothing
          simp [Piece.bytes, emit, nothing.1, ih (index + 1) nothing.2]

/-- The text before it is cut to the size of the buffer. -/
def translatedText (query : List Byte) : List Byte :=
  let pieces := translator.pieces query
  translator.render (translator.translates pieces) 1 pieces

/-- The copy is whole exactly if the buffer can hold the text. -/
theorem fit_eq_self_iff (newQuery : List Byte) :
    translator.fit newQuery = newQuery ↔ newQuery.length ≤ translator.maxQuerySize := by
  have bound := translator.maxQuerySize_lt
  rw [fit, List.take_eq_self_iff, Nat.le_min]
  constructor
  · exact And.right
  · intro fits
    exact ⟨Nat.le_of_eq (Nat.mod_eq_of_lt (by omega)).symm, fits⟩

/-- The loop over a whole query ends with the rendering of its pieces. -/
theorem run_start (query : List Byte) :
    (translator.run Loop.start query).newQuery =
        translator.render true 1 (translator.pieces query) ∧
      (translator.run Loop.start query).translated =
        translator.translates (translator.pieces query) := by
  have result := translator.outcome_run Loop.start query
  have start : translator.outcome Loop.start query =
      (translator.render true 1 (translator.pieces query),
        translator.translates (translator.pieces query)) := by
    simp [outcome, outstanding, Loop.start, pieces]
  rw [start, Prod.mk.injEq] at result
  exact result

/-- Where the loop translates nothing, the query is the rendering. -/
theorem translatedText_of_not_translates {query : List Byte}
    (nothing : translator.translates (translator.pieces query) = false) :
    translator.translatedText query = query := by
  rw [translatedText, nothing, render_of_not_translates _ _ _ nothing]
  simpa [pieces] using translator.scanner.flatMap_pieces .inQuery 0 query

/-- Where it translates something, the new query is. -/
theorem translatedText_of_translates {query : List Byte}
    (translates : translator.translates (translator.pieces query) = true) :
    translator.translatedText query = (translator.run Loop.start query).newQuery := by
  rw [translatedText, translates, (translator.run_start query).1]

/-- A translation that fits the buffer is the rendering of the pieces. -/
theorem translateBindVariables_of_fits (query : List Byte)
    (fits : (translator.translatedText query).length ≤ translator.maxQuerySize) :
    (translator.translateBindVariables query).1 = translator.translatedText query := by
  simp only [translateBindVariables, (translator.run_start query).2]
  cases translates : translator.translates (translator.pieces query) with
  | true =>
      rw [translatedText_of_translates _ translates] at fits ⊢
      exact (translator.fit_eq_self_iff _).mpr fits
  | false => exact (translatedText_of_not_translates _ translates).symm

end Translator

end SqlRelay.Bind
