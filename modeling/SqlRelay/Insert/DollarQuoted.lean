import SqlRelay.Insert.Parse

/-!
# Dollar-quoted literals

There are two scanners for them: `skipDollarQuotedLiteral`, for the literals in a query, and
`isDollarQuotedLiteral`, which asks whether a text is such a literal from its start to its end.
-/

namespace SqlRelay.Insert

open SqlRelay.Foundation SqlRelay.Foundation.CString

end SqlRelay.Insert
