import SqlRelay.Lists.Parameters
import SqlRelay.Query.Classify

/-!
# The insert of a bulk load

`bulkLoadParseInsert` takes the table, the columns and the binds out of an insert query.  It steps
over the keywords by their lengths, and over one byte for the parenthesis that closes the columns,
whether there are any or not.
-/

namespace SqlRelay.BulkLoad

open SqlRelay.Foundation SqlRelay.Foundation.CString SqlRelay.Query

/-- What is returned, as far as the parse has come. -/
structure ParsedInsert where
  table : Option (List Byte)
  cols : List (List Byte)
  binds : List (List Byte)
  deriving DecidableEq, Repr

/-- `skipWhitespaceAndComments`, and a return at the end of the query. -/
def beyondBlanks (ptr : List Byte) : Option (List Byte) :=
  let after := skipWhitespaceAndComments ptr
  if peek after = 0 then none else some after

/-- A keyword of that length is stepped over, and what may follow it; the end of the query is a
return. -/
def beyondKeyword (size : Nat) (ptr : List Byte) : Option (List Byte) :=
  if ptr.length ≤ size then none else beyondBlanks (ptr.drop size)

/-- The byte ends a parenthesized list. -/
def closesList (byte : Byte) : Bool := byte == 0 || byte == chr ')'

/-- From an opening parenthesis: the text of the list, and the pointer at what closes it. -/
def parenthesized (ptr : List Byte) : Option (List Byte × List Byte) :=
  let start := ptr.drop 1
  if peek start = 0 then none
  else
    let after := start.dropWhile fun byte => !closesList byte
    if peek after = 0 then none else some (start.takeWhile fun byte => !closesList byte, after)

/-- `charstring::split` at commas, with its `collapse` argument not set. -/
def splitList (text : List Byte) : List (List Byte) := text.splitOn (chr ',')

/-- `parts[i][0]=getBindFormat()[0]`, which in an empty part replaces the terminator. -/
def setFirst (native : Byte) (part : List Byte) : List Byte := native :: part.drop 1

/-- The column list, if there is one, and the pointer behind it. -/
def parseColumns (ptr : List Byte) : Option (List (List Byte) × List Byte) :=
  if peek ptr = chr '(' then
    (parenthesized ptr).map fun list => ((splitList list.1).map Lists.bothTrim, list.2)
  else some ([], ptr)

/-- `native` is the first byte of the native bind format. -/
def parseBinds (native : Byte) (ptr : List Byte) : List (List Byte) :=
  if peek ptr = chr '(' then
    match parenthesized ptr with
    | some list => (splitList list.1).map fun part => setFirst native (Lists.bothTrim part)
    | none => []
  else []

/-- From the pointer behind the columns: one byte is taken for their parenthesis. -/
def parseValues (native : Byte) (ptr : List Byte) : List (List Byte) :=
  let ptr := ptr.drop 1
  if peek ptr = 0 then []
  else ((beyondBlanks ptr).bind (beyondKeyword 6)).elim [] (parseBinds native)

/-- From the column list on. -/
def parseLists (native : Byte) (table ptr : List Byte) : ParsedInsert :=
  match parseColumns ptr with
  | none => ⟨some table, [], []⟩
  | some (cols, ptr) => ⟨some table, cols, parseValues native ptr⟩

def bulkLoadParseInsert (native : Byte) (query : List Byte) : ParsedInsert :=
  match ((beyondBlanks query).bind (beyondKeyword 6)).bind (beyondKeyword 4) with
  | none => ⟨none, [], []⟩
  | some start =>
      let ends := fun byte => byte == 0 || isWhitespace byte
      let table := start.takeWhile fun byte => !ends byte
      let ptr := start.dropWhile fun byte => !ends byte
      if peek ptr = 0 then ⟨none, [], []⟩
      else
        match beyondBlanks ptr with
        | none => ⟨some table, [], []⟩
        | some ptr => parseLists native table ptr

end SqlRelay.BulkLoad
