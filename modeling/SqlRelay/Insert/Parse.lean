import SqlRelay.Foundation.Parens
import SqlRelay.Query.Classify

/-!
# Parsing an insert

`parseInsert`: the kind of an insert and where its values start.  What it finds out about the
table's columns from the database is left out.  A pointer into the query is the text from there to
the end of the query.
-/

namespace SqlRelay.Insert

open SqlRelay.Foundation SqlRelay.Foundation.CString SqlRelay.Query

/-- One of the characters that a literal or a quoted name starts with. -/
def isQuote (byte : Byte) : Bool := byte == chr '\'' || byte == chr '"' || byte == 96

/-- How a backend quotes: how many bytes the literal takes that a text starts with, and whether
there are dollar-quoted literals too. -/
structure Quoting where
  stringLiteral : List Byte → Nat
  postgresql : Bool
  progress : ∀ byte rest, isQuote byte = true → 0 < stringLiteral (byte :: rest)

/-- The bytes up to the next quote. -/
def toQuote (quote : Byte) : List Byte → Nat
  | [] => 0
  | byte :: rest => if byte = quote then 1 else toQuote quote rest + 1

/-- A backend whose literals end at the next quote. -/
def plainQuoting : Quoting where
  stringLiteral := fun text => toQuote (peek text) text.tail + 1
  postgresql := false
  progress := fun _ _ _ => Nat.succ_pos _

/-- The tag of a dollar-quoted literal. -/
def dollarTag : List Byte → List Byte
  | [] => []
  | byte :: rest =>
      if isAlphabetical byte || byte == chr '_' then
        byte :: rest.takeWhile fun byte => isAlphanumeric byte || byte == chr '_'
      else []

/-- How far away the delimiter is. -/
def findDelimiter (delimiter : List Byte) : List Byte → Option Nat
  | [] => none
  | byte :: rest =>
      if startsWith (byte :: rest) delimiter then some 0
      else (findDelimiter delimiter rest).map (· + 1)

/-- `skipDollarQuotedLiteral`: how many bytes it skips. -/
def skipDollarQuotedLiteral : List Byte → Nat
  | [] => 0
  | byte :: rest =>
      if byte != chr '$' then 0
      else
        let tag := dollarTag rest
        if peek (rest.drop tag.length) != chr '$' then 0
        else
          let delimiter := chr '$' :: (tag ++ [chr '$'])
          match findDelimiter delimiter (rest.drop (tag.length + 1)) with
          | some before => delimiter.length + before + delimiter.length
          | none => rest.length + 1

namespace Quoting

variable (quoting : Quoting)

/-- How many bytes a scanner skips at once: the two kinds of literals. -/
def skipLiteral : List Byte → Nat
  | [] => 0
  | byte :: rest =>
      if isQuote byte then quoting.stringLiteral (byte :: rest)
      else if quoting.postgresql && byte == chr '$' then skipDollarQuotedLiteral (byte :: rest)
      else 0

/-- What the scanners for values take for parentheses and literals. -/
def brackets : Brackets Byte where
  opens := fun byte => byte == chr '('
  closes := fun byte => byte == chr ')'
  literal := quoting.skipLiteral

/-- `findCommaOrCloseParen`: the text from what was found. -/
def findCommaOrCloseParen : Nat → Nat → List Byte → Option (List Byte)
  | 0, _, _ => none
  | _ + 1, _, [] => none
  | fuel + 1, depth, byte :: rest =>
      match quoting.skipLiteral (byte :: rest) with
      | skipped + 1 => findCommaOrCloseParen fuel depth (rest.drop skipped)
      | 0 =>
          if byte = chr '(' then findCommaOrCloseParen fuel (depth + 1) rest
          else if byte = chr ')' then
            match depth with
            | 0 => some (byte :: rest)
            | depth + 1 => findCommaOrCloseParen fuel depth rest
          else if byte = chr ',' ∧ depth = 0 then some (byte :: rest)
          else findCommaOrCloseParen fuel depth rest

/-- The text from the parenthesis that closes the list of columns. -/
def columnsEnd : Nat → List Byte → Option (List Byte)
  | 0, _ => none
  | fuel + 1, text =>
      match quoting.findCommaOrCloseParen text.length 0 text with
      | none => none
      | some found =>
          if peek found = chr ')' then some found else columnsEnd fuel (found.drop 1)

end Quoting

/-- The text from this character on, if the C string has it. -/
def findFirst (needle : Byte) : List Byte → Option (List Byte)
  | [] => none
  | byte :: rest =>
      if byte = needle then some (byte :: rest)
      else if byte = 0 then none
      else findFirst needle rest

/-- Past the space after the table name; a quoted name may be followed by the list of columns at
once. -/
def skipSpace (quotedTableName : Bool) : List Byte → Option (List Byte)
  | [] => none
  | byte :: rest => if !quotedTableName || byte == chr ' ' then some rest else some (byte :: rest)

/-- The text past the table name. -/
def skipTableName (quoting : Quoting) (start : List Byte) : Option (List Byte) :=
  if isQuote (peek start) then skipSpace true (start.drop (quoting.stringLiteral start))
  else (findFirst (chr ' ') start).bind (skipSpace false)

def insertInto : List Byte := ascii "insert into "

/-- The values after the keyword; the query has to go on after the parenthesis. -/
def valuesKeyword (text : List Byte) : Option (List Byte) :=
  if 7 < text.length ∧ startsWithIgnoringCase text (ascii "values(") = true then
    some (text.drop 7)
  else if 8 < text.length ∧ startsWithIgnoringCase text (ascii "values (") = true then
    some (text.drop 8)
  else none

/-- What `parseInsert` says about a query; an insert without values is an insert-select. -/
structure Parsed where
  queryType : QueryType
  rawValues : Option (List Byte)
  deriving DecidableEq, Repr

/-- `multiinsert` of `getFirstValuesFromInsertQuery`: there is a comma after the first values. -/
def firstValuesMulti (quoting : Quoting) (values : List Byte) : Bool :=
  match quoting.brackets.close id values.length 0 values with
  | none => false
  | some (_, rest) => rest.head? == some (chr ',')

/-- The text past the list of columns, if there is one, and past any whitespace after it. -/
def skipColumns (quoting : Quoting) (text : List Byte) : Option (List Byte) :=
  if peek text = chr '(' then
    (quoting.columnsEnd text.length (text.drop 1)).map fun close =>
      (close.drop 1).dropWhile isWhitespace
  else some text

/-- `parseInsert`; it fails on a query that is cut short. -/
def parseInsert (quoting : Quoting) (query : List Byte) : Option Parsed :=
  let start := skipWhitespaceAndComments query
  if 12 < query.length ∧ startsWithIgnoringCase start insertInto = true then
    match skipTableName quoting (start.drop 12) with
    | none | some [] => none
    | some (byte :: rest) =>
        match skipColumns quoting (byte :: rest) with
        | none | some [] => none
        | some (byte :: rest) =>
            match valuesKeyword (byte :: rest) with
            | some rawValues =>
                some ⟨if firstValuesMulti quoting rawValues then .multiInsert else .insert,
                  some rawValues⟩
            | none => some ⟨.insertSelect, none⟩
  else if 7 < query.length ∧ startsWithIgnoringCase start (ascii "select ") = true then
    some ⟨.select, none⟩
  else some ⟨.etc, none⟩

/-- The number of whitespace characters after the list of columns, if there is one. -/
def columnGap (quoting : Quoting) (query : List Byte) : Option Nat :=
  match skipTableName quoting ((skipWhitespaceAndComments query).drop 12) with
  | none => none
  | some text =>
      if peek text = chr '(' then
        (quoting.columnsEnd text.length (text.drop 1)).map fun close =>
          ((close.drop 1).takeWhile isWhitespace).length
      else none

end SqlRelay.Insert
