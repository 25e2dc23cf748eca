import SqlRelay.Foundation.Lexemes
import SqlRelay.Insert.Parse
import SqlRelay.Query.Interception

/-!
# Recognizing that a set list sets autocommit

What a `set` list assigns, with commas in literals and in comments that do not separate, and what
`isSetIncludingAutoCommitQuery` makes of it: it goes by the first place behind any comma where it
reads one of the names, and does not look at what follows the value.
-/

namespace SqlRelay.Query

open SqlRelay.Foundation SqlRelay.Foundation.CString SqlRelay.Insert

/-! ## What a list assigns -/

/-- What comes after a name, if it assigns 0 or 1: the value, and what follows it. -/
def assigned (text : List Byte) : Option (Bool × List Byte) :=
  let sign := skipWhitespaceAndComments text
  if peek sign = chr '=' then
    let value := skipWhitespaceAndComments (sign.drop 1)
    if peek value = chr '1' then some (true, skipWhitespaceAndComments (value.drop 1))
    else if peek value = chr '0' then some (false, skipWhitespaceAndComments (value.drop 1))
    else none
  else none

/-- An assignment of 0 or 1 to the name at the start of the text. -/
def assignment (text name : List Byte) : Option (Bool × List Byte) :=
  if startsWithIgnoringCase text name then assigned (text.drop name.length) else none

end SqlRelay.Query
