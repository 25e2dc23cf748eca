import SqlRelay.Insert.Parse

/-!
# Refining the kind of an insert

`refineInsertQueryType` of the mysql module goes over an insert a second time, to tell the client
what kind it was.  It reads the table name and the list of columns as `parseInsert` does, and
decides by itself what comes after them.
-/

namespace SqlRelay.Insert

open SqlRelay.Foundation SqlRelay.Foundation.CString SqlRelay.Query

/-- What the loop over the values takes for parentheses and literals: it knows of no dollar-quoted
literals. -/
def Quoting.quotedBrackets (quoting : Quoting) : Brackets Byte where
  opens := fun byte => byte == chr '('
  closes := fun byte => byte == chr ')'
  literal := fun text => if isQuote (peek text) then quoting.stringLiteral text else 0

/-- The next keyword is a select, or the `with` of one. -/
def isSelect (text : List Byte) : Bool :=
  (decide (7 < text.length) && startsWithIgnoringCase text (ascii "select ")) ||
    (decide (5 < text.length) && startsWithIgnoringCase text (ascii "with "))

/-- There is a comma, allowing for whitespace before it. -/
def commaFollows (text : List Byte) : Bool :=
  (text.dropWhile isWhitespace).head? == some (chr ',')

/-- The kind of an insert with these values. -/
def refineValues (quoting : Quoting) (rawvalues : List Byte) : QueryType :=
  match quoting.quotedBrackets.close id rawvalues.length 0 rawvalues with
  | none => .insert
  | some (_, rest) => if commaFollows rest then .multiInsert else .insert

/-- The kind of an insert that goes on with this text after its table name and columns. -/
def refineText (quoting : Quoting) (text : List Byte) : QueryType :=
  match valuesKeyword text with
  | none => if isSelect text then .insertSelect else .insert
  | some rawvalues => refineValues quoting rawvalues

def refineInsertQueryType (quoting : Quoting) (query : List Byte) : QueryType :=
  let start := skipWhitespaceAndComments query
  if query.length < 12 ∨ startsWithIgnoringCase start insertInto = false then .insert
  else
    match skipTableName quoting (start.drop 12) with
    | none => .insert
    | some text =>
        match skipColumns quoting text with
        | none => .insert
        | some text => refineText quoting text

/-- What `parseInsert` takes for an insert. -/
def IsInsert (query : List Byte) : Prop :=
  12 < query.length ∧
    startsWithIgnoringCase (skipWhitespaceAndComments query) insertInto = true

/-- The rest of an insert after its table name and its columns. -/
def afterColumns (quoting : Quoting) (query : List Byte) : Option (List Byte) :=
  (skipTableName quoting ((skipWhitespaceAndComments query).drop 12)).bind (skipColumns quoting)

/-- What `parseInsert` makes of that rest. -/
def parseText (quoting : Quoting) (text : List Byte) : Parsed :=
  match valuesKeyword text with
  | none => ⟨.insertSelect, none⟩
  | some rawvalues =>
      ⟨if firstValuesMulti quoting rawvalues then .multiInsert else .insert, some rawvalues⟩

/-- No dollar-quoted literal starts in this text, if the backend has them. -/
def NoDollarQuoted (quoting : Quoting) (text : List Byte) : Prop :=
  quoting.postgresql = true → ∀ suffix, suffix <:+ text → skipDollarQuotedLiteral suffix = 0

/-- There is whitespace between the first set of values and the comma after it. -/
def gapBeforeComma (quoting : Quoting) (rawvalues : List Byte) : Bool :=
  match quoting.brackets.close id rawvalues.length 0 rawvalues with
  | none => false
  | some (_, rest) => commaFollows rest && rest.head? != some (chr ',')

/-- The rest is a select, or values without such a gap. -/
def readAlike (quoting : Quoting) (text : List Byte) : Bool :=
  match valuesKeyword text with
  | none => isSelect text
  | some rawvalues => !gapBeforeComma quoting rawvalues

variable {quoting : Quoting} {query text rawvalues : List Byte} {parsed : Parsed}

theorem skipColumns_nil : skipColumns quoting [] = some [] := by
  have noColumns : peek [] ≠ chr '(' := by decide
  rw [skipColumns, if_neg noColumns]

/-- `parseInsert` fails if nothing is left after the columns. -/
theorem parseInsert_insert (insert : IsInsert query) :
    parseInsert quoting query =
      match afterColumns quoting query with
      | none | some [] => none
      | some text => some (parseText quoting text) := by
  obtain ⟨long, starts⟩ := insert
  unfold parseInsert afterColumns
  simp only [long, starts, and_self, if_true]
  cases skipTableName quoting ((skipWhitespaceAndComments query).drop 12) with
  | none => rfl
  | some text =>
      cases text with
      | nil => rw [Option.bind_some, skipColumns_nil]
      | cons byte rest =>
          simp only [Option.bind_some]
          cases skipColumns quoting (byte :: rest) with
          | none => rfl
          | some text =>
              cases text with
              | nil => rfl
              | cons byte rest =>
                  simp only [parseText]
                  cases valuesKeyword (byte :: rest) with
                  | none => rfl
                  | some rawvalues => rfl

/-- `refineInsertQueryType` then says that it is a plain insert. -/
theorem refineInsertQueryType_insert (insert : IsInsert query) :
    refineInsertQueryType quoting query =
      match afterColumns quoting query with
      | none => .insert
      | some text => refineText quoting text := by
  obtain ⟨long, starts⟩ := insert
  have longer : ¬(query.length < 12 ∨
      startsWithIgnoringCase (skipWhitespaceAndComments query) insertInto = false) := by
    simp [starts, Nat.le_of_lt long]
  unfold refineInsertQueryType afterColumns
  rw [if_neg longer]
  cases skipTableName quoting ((skipWhitespaceAndComments query).drop 12) with
  | none => rfl
  | some text => cases skipColumns quoting text <;> rfl

theorem afterColumns_of_parseInsert (insert : IsInsert query)
    (parses : parseInsert quoting query = some parsed) :
    ∃ text, afterColumns quoting query = some text ∧ parsed = parseText quoting text := by
  rw [parseInsert_insert insert] at parses
  cases rest : afterColumns quoting query with
  | none => simp [rest] at parses
  | some text =>
      cases text with
      | nil => simp [rest] at parses
      | cons byte text =>
          rw [rest] at parses
          cases parses
          exact ⟨byte :: text, rfl, rfl⟩

/-- Where no dollar-quoted literal starts, both loops over the values skip the same. -/
theorem literal_eq_skipLiteral (plain : NoDollarQuoted quoting rawvalues) {suffix : List Byte}
    (inside : suffix <:+ rawvalues) :
    quoting.quotedBrackets.literal suffix = quoting.skipLiteral suffix := by
  cases suffix with
  | nil => rfl
  | cons byte rest =>
      change (if isQuote byte then quoting.stringLiteral (byte :: rest) else 0) = _
      rw [Quoting.skipLiteral]
      cases quote : isQuote byte with
      | true => rfl
      | false =>
          cases postgresql : quoting.postgresql with
          | false => rfl
          | true => simp [plain postgresql _ inside]

theorem close_quotedBrackets (plain : NoDollarQuoted quoting rawvalues) :
    quoting.quotedBrackets.close id rawvalues.length 0 rawvalues =
      quoting.brackets.close id rawvalues.length 0 rawvalues :=
  Brackets.close_congr rfl rfl fun _ inside => literal_eq_skipLiteral plain inside

/-- A comma is a comma, and not whitespace. -/
theorem commaFollows_of_head (comma : text.head? = some (chr ',')) : commaFollows text = true := by
  obtain ⟨rest, rfl⟩ := List.head?_eq_some_iff.mp comma
  rfl

/-- With values, the two kinds differ exactly if there is whitespace before the comma. -/
theorem refineValues_eq_iff (plain : NoDollarQuoted quoting rawvalues) :
    refineValues quoting rawvalues =
        (if firstValuesMulti quoting rawvalues then .multiInsert else .insert) ↔
      gapBeforeComma quoting rawvalues = false := by
  rw [refineValues, firstValuesMulti, close_quotedBrackets plain, gapBeforeComma]
  cases quoting.brackets.close id rawvalues.length 0 rawvalues with
  | none => simp
  | some found =>
      obtain ⟨values, rest⟩ := found
      by_cases comma : rest.head? = some (chr ',')
      · simp [comma, commaFollows_of_head comma]
      · cases follows : commaFollows rest <;> simp [comma, follows]

theorem refineText_eq_iff
    (plain : ∀ rawvalues, valuesKeyword text = some rawvalues →
      NoDollarQuoted quoting rawvalues) :
    refineText quoting text = (parseText quoting text).queryType ↔
      readAlike quoting text = true := by
  rw [refineText, parseText, readAlike]
  cases values : valuesKeyword text with
  | none => cases isSelect text <;> simp
  | some rawvalues =>
      rw [Bool.not_eq_true']
      exact refineValues_eq_iff (plain rawvalues values)

theorem parseText_rawValues : (parseText quoting text).rawValues = valuesKeyword text := by
  rw [parseText]
  cases valuesKeyword text <;> rfl

/-- Both classifiers report the same kind of an insert exactly if it has values, with no gap before
a comma after the first set of them, or a select. -/
theorem refineInsertQueryType_eq_iff (insert : IsInsert query)
    (parses : parseInsert quoting query = some parsed)
    (plain : ∀ rawvalues, parsed.rawValues = some rawvalues → NoDollarQuoted quoting rawvalues) :
    refineInsertQueryType quoting query = parsed.queryType ↔
      (afterColumns quoting query).any (readAlike quoting) = true := by
  obtain ⟨text, rest, rfl⟩ := afterColumns_of_parseInsert insert parses
  rw [parseText_rawValues] at plain
  rw [refineInsertQueryType_insert insert, rest, Option.any_some]
  exact refineText_eq_iff plain

theorem refineInsertQueryType_eq_iff_twoRows :
    refineInsertQueryType plainQuoting (ascii "insert into t values(1),(2)") = .multiInsert :=
  (@refineInsertQueryType_eq_iff plainQuoting _ ⟨.multiInsert, some (ascii "1),(2)")⟩
    ⟨by decide, by decide⟩ (by decide)
    fun _ _ postgresql => absurd postgresql (by decide)).mpr (by decide)

/-- An insert without values or a select is an insert-select for the one and a plain insert for the
other. -/
theorem refineInsertQueryType_ne_set :
    ¬∀ parsed, parseInsert plainQuoting (ascii "insert into t set a=1") = some parsed →
      refineInsertQueryType plainQuoting (ascii "insert into t set a=1") = parsed.queryType := by
  intro agrees
  have same := agrees ⟨.insertSelect, none⟩ (by decide)
  revert same
  decide

end SqlRelay.Insert
