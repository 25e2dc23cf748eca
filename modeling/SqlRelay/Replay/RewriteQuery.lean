import Mathlib.Data.List.TakeWhile
import SqlRelay.Foundation.Decimal
import SqlRelay.Insert.Values

/-!
# The parts of a rewritten insert

`rewriteQuery` of the replay trigger.  An insert that leaves its auto-increment column to the
database, or gives it a null, is logged with the id that the database generated.
-/

namespace SqlRelay.Replay

open SqlRelay.Foundation SqlRelay.Foundation.CString SqlRelay.Foundation.Brackets
open SqlRelay.Query SqlRelay.Insert

/-! ## The source -/

/-- `!charstring::compareIgnoringCase(value,"null")`. -/
def isNull (value : List Byte) : Bool := value.map toLowerCase == ascii "null"

/-- A name without the quotes or square brackets around it. -/
def unquoted : List Byte → List Byte
  | [] => []
  | first :: rest =>
      if isQuote first || first == chr '[' then rest.dropLast else first :: rest

/-- `!compareQuoted(str1,str2)`. -/
def compareQuoted (str1 str2 : List Byte) : Bool := unquoted str1 == unquoted str2

/-- The rules of a scan that knows no dollar-quoted literals. -/
def withoutDollars (quoting : Quoting) : Quoting := { quoting with postgresql := false }

/-- What an insert gives to `rewriteQuery`. -/
structure RewriteCall where
  query : List Byte
  columns : List (List Byte)
  autoinccolumn : List Byte
  liid : Nat
  rawvalues : List Byte

namespace RewriteCall

variable (call : RewriteCall)

/-- `columnsincludeautoinccolumn`. -/
def includesAutoincColumn : Bool := call.columns.any fun column =>
  compareQuoted column call.autoinccolumn

/-- The last-insert-id, as it is appended. -/
def idText : List Byte := digits call.liid

/-- What is appended up to the columns.  Without a space there is no pointer to append up to. -/
def copiedTable : Option (List Byte) :=
  let start := skipWhitespaceAndComments call.query
  (findFirst (chr ' ') (start.drop 12)).map fun found =>
    start.take (start.length - (found.length - 1))

/-- The columns, and the keyword after them. -/
def copiedColumns : List Byte :=
  ascii "(" ++ (if call.includesAutoincColumn then [] else call.autoinccolumn ++ ascii ",") ++
    [chr ','].intercalate call.columns ++ ascii ") values ("

/-- The value, or the last-insert-id if it is a null of the auto-increment column.  A value is
appended as a C string. -/
def appendedValue (columns : List (List Byte)) (value : List Byte) : List Byte :=
  if (columns.head?.any fun column => compareQuoted column call.autoinccolumn) &&
      isNull (contents value) then call.idText
  else contents value

/-- The loop of `appendValues`: what is appended, and the text after it.  Unlike the parser it does
not know dollar-quoted literals. -/
def appendValues (quoting : Quoting) :
    (fuel parens : Nat) → (value : List Byte) → (columns : List (List Byte)) → List Byte →
      List Byte × List Byte
  | 0, _, value, _, _ => (contents value ++ ascii ")", [])
  | _ + 1, _, value, _, [] => (contents value ++ ascii ")", [])
  | fuel + 1, parens, value, columns, byte :: rest =>
      match (withoutDollars quoting).skipLiteral (byte :: rest) with
      | skipped + 1 =>
          appendValues quoting fuel parens (value ++ byte :: rest.take skipped) columns
            (rest.drop skipped)
      | 0 =>
          if byte = chr '(' then appendValues quoting fuel (parens + 1) (value ++ [byte]) columns rest
          else if byte = chr ')' then
            match parens with
            | parens + 1 => appendValues quoting fuel parens (value ++ [byte]) columns rest
            | 0 => (call.appendedValue columns value ++ ascii ")", rest)
          else if byte = chr ',' ∧ parens = 0 then
            let later := appendValues quoting fuel parens [] columns.tail rest
            (call.appendedValue columns value ++ ascii "," ++ later.1, later.2)
          else appendValues quoting fuel parens (value ++ [byte]) columns rest

/-- The values and what follows them. -/
def copiedValues (quoting : Quoting) : List Byte :=
  if call.includesAutoincColumn then
    let appended := call.appendValues quoting call.rawvalues.length 0 [] call.columns call.rawvalues
    appended.1 ++ appended.2
  else call.idText ++ ascii "," ++ call.rawvalues

end RewriteCall

/-- The columns of an insert, as `parseInsert` has them: those in the query, or as many of the
table's columns as there are values. -/
def insertColumns (quoting : Quoting) (bothTrim : List Byte → List Byte)
    (allColumns : List (List Byte)) (query rawValues : List Byte) : List (List Byte) :=
  let listed :=
    match skipTableName quoting ((skipWhitespaceAndComments query).drop 12) with
    | some (byte :: rest) =>
        if byte = chr '(' then
          ((quoting.getColumnsFromInsertQuery bothTrim rest).map Prod.fst).getD []
        else []
    | _ => []
  if listed = [] then
    allColumns.take (quoting.getFirstValuesFromInsertQuery rawValues).1.length
  else listed

/-! ## What is meant -/

/-- A single-row insert: the parser takes it for one, and its values are closed. -/
structure SingleRow (quoting : Quoting) (query rawValues : List Byte)
    (lexemes : List (Lexeme Byte)) (clause : List Byte) : Prop where
  parsed : parseInsert quoting query = some ⟨.insert, some rawValues⟩
  closed : quoting.brackets.Read clause 0 lexemes rawValues

/-- The name of the table, quotes included. -/
def tableName (quoting : Quoting) (query : List Byte) : List Byte :=
  let text := (skipWhitespaceAndComments query).drop 12
  if isQuote (peek text) then text.take (quoting.stringLiteral text)
  else text.takeWhile (· ≠ chr ' ')

/-- The values; between parentheses with nothing in them there is none. -/
def insertValues (lexemes : List (Lexeme Byte)) : List (List Byte) :=
  if lexemes = [] then [] else Lexeme.fieldTexts (chr ',') lexemes

/-- The nulls of the auto-increment column replaced. -/
def fixedValues (id : List Byte) : (isAutoinc : List Bool) → List (List Byte) → List (List Byte)
  | _, [] => []
  | [], values => values
  | isAutoinc :: others, value :: values =>
      (if isAutoinc && isNull value then id else value) :: fixedValues id others values

namespace RewriteCall

variable (call : RewriteCall)

/-- Which of the columns are the auto-increment column. -/
def autoincColumns : List Bool :=
  call.columns.map fun column => compareQuoted column call.autoinccolumn

/-- The logged query is the insert with only the value of the auto-increment column fixed: the
column and the value in front of the others, or the value in place of the null. -/
structure Rewritten (quoting : Quoting) (lexemes : List (Lexeme Byte)) (clause : List Byte) :
    Prop where
  table : call.copiedTable =
    some ((skipWhitespaceAndComments call.query).take 12 ++ tableName quoting call.query ++
      ascii " ")
  columns : call.copiedColumns =
    ascii "(" ++ [chr ','].intercalate
      (if call.includesAutoincColumn then call.columns else call.autoinccolumn :: call.columns) ++
      ascii ") values ("
  values : call.copiedValues quoting =
    [chr ','].intercalate
      (if call.includesAutoincColumn then
        fixedValues call.idText call.autoincColumns (insertValues lexemes)
      else call.idText :: insertValues lexemes) ++ ascii ")" ++ clause

/-- The bytes between the nulls of the auto-increment column. -/
def nullGaps : (before : Nat) → (isAutoinc : List Bool) → List (List Byte) → List Nat
  | _, _, [] => []
  | _, [], _ => []
  | before, isAutoinc :: others, value :: values =>
      if isAutoinc && isNull value then before :: nullGaps 1 others values
      else nullGaps (before + value.length + 1) others values

/-- A quoted name of the table has no space in it and one behind it.  If the column is absent there
are other columns and values.  If it is present, reading the values without dollar-quoted literals
gets to the end of them, finds no NUL, and finds the nulls of the column where they are. -/
structure Kept (quoting : Quoting) (lexemes : List (Lexeme Byte)) : Prop where
  table : isQuote (peek ((skipWhitespaceAndComments call.query).drop 12)) = true →
    chr ' ' ∉ tableName quoting call.query ∧ 0 ∉ tableName quoting call.query ∧
      peek (((skipWhitespaceAndComments call.query).drop 12).drop
        (tableName quoting call.query).length) = chr ' '
  absent : call.includesAutoincColumn = false → call.columns ≠ [] ∧ lexemes ≠ []
  present : call.includesAutoincColumn = true → ∃ rest plain,
    (withoutDollars quoting).brackets.Read rest 0 plain call.rawvalues ∧
      (∀ value ∈ Lexeme.fieldTexts (chr ',') plain, 0 ∉ value) ∧
      nullGaps 0 call.autoincColumns (Lexeme.fieldTexts (chr ',') plain) =
        nullGaps 0 call.autoincColumns (Lexeme.fieldTexts (chr ',') lexemes)

end RewriteCall

/-! ## The table -/

theorem findFirst_eq_some_iff {needle : Byte} {text found : List Byte} (notNul : needle ≠ 0) :
    findFirst needle text = some found ↔
      0 ∉ text.takeWhile (· ≠ needle) ∧ text = text.takeWhile (· ≠ needle) ++ found ∧
        peek found = needle := by
  induction text with
  | nil =>
      constructor
      · intro found
        cases found
      · intro parts
        rw [List.takeWhile_nil, List.nil_append] at parts
        rw [← parts.2.1, peek_nil] at parts
        exact absurd parts.2.2.symm notNul
  | cons byte rest ih =>
      by_cases here : byte = needle
      · subst here
        rw [findFirst, if_pos rfl, List.takeWhile_cons_of_neg (by simp), List.nil_append,
          Option.some.injEq]
        constructor
        · intro same
          rw [← same]
          exact ⟨by simp, rfl, rfl⟩
        · exact fun parts => parts.2.1
      · have goesOn : (byte :: rest).takeWhile (· ≠ needle) =
            byte :: rest.takeWhile (· ≠ needle) :=
          List.takeWhile_cons_of_pos (by simpa using here)
        rw [findFirst, if_neg here, goesOn, List.mem_cons, not_or, List.cons_append,
          List.cons.injEq, and_iff_right rfl, and_assoc]
        by_cases nul : byte = 0
        · simp [nul]
        · rw [if_neg nul, ih, and_iff_right (Ne.symm nul)]

/-- What is appended up to the columns ends with the first space. -/
theorem copiedTable_of_found {call : RewriteCall} {found : List Byte}
    (finds : findFirst (chr ' ') ((skipWhitespaceAndComments call.query).drop 12) = some found) :
    call.copiedTable = some ((skipWhitespaceAndComments call.query).take 12 ++
      ((skipWhitespaceAndComments call.query).drop 12).takeWhile (· ≠ chr ' ') ++ ascii " ") := by
  obtain ⟨-, parts, isSpace⟩ := (findFirst_eq_some_iff (by decide)).mp finds
  rw [RewriteCall.copiedTable, finds, Option.map_some, Option.some.injEq]
  generalize skipWhitespaceAndComments call.query = start at parts ⊢
  generalize (start.drop 12).takeWhile (· ≠ chr ' ') = name at parts ⊢
  have whole := (List.take_append_drop 12 start).symm
  generalize start.take 12 = front at whole ⊢
  rw [parts] at whole
  cases found with
  | nil => exact absurd isSpace (by decide)
  | cons byte found =>
      rw [peek_cons] at isSpace
      subst isSpace
      have length : start.length - ((chr ' ' :: found).length - 1) =
          (front ++ name ++ ascii " ").length := by
        rw [whole]
        simp only [List.length_append, List.length_cons, show (ascii " ").length = 1 from rfl]
        omega
      have prefixed : start = front ++ name ++ ascii " " ++ found := by
        rw [whole]
        simp [show ascii " " = [chr ' '] from rfl]
      rw [length, prefixed, List.take_left]

theorem copiedTable_eq_some_iff (call : RewriteCall) (table : List Byte) :
    call.copiedTable = some ((skipWhitespaceAndComments call.query).take 12 ++ table ++ ascii " ") ↔
      ((skipWhitespaceAndComments call.query).drop 12).takeWhile (· ≠ chr ' ') = table ∧
        0 ∉ table ∧ peek (((skipWhitespaceAndComments call.query).drop 12).drop table.length) =
          chr ' ' := by
  constructor
  · intro copied
    cases finds : findFirst (chr ' ') ((skipWhitespaceAndComments call.query).drop 12) with
    | none =>
        rw [RewriteCall.copiedTable, finds] at copied
        cases copied
    | some found =>
        obtain ⟨noNul, parts, isSpace⟩ := (findFirst_eq_some_iff (by decide)).mp finds
        rw [copiedTable_of_found finds, Option.some.injEq, List.append_cancel_right_eq,
          List.append_cancel_left_eq] at copied
        rw [copied] at noNul parts
        refine ⟨copied, noNul, ?_⟩
        rw [parts, List.drop_left]
        exact isSpace
  · intro front
    obtain ⟨rfl, noNul, isSpace⟩ := front
    apply copiedTable_of_found ((findFirst_eq_some_iff (by decide)).mpr ⟨noNul, ?_, isSpace⟩)
    exact (List.prefix_iff_eq_append.mp (List.takeWhile_prefix _)).symm

theorem skipTableName_of_parsed {quoting : Quoting} {query rawValues : List Byte}
    {kind : QueryType} (parsed : parseInsert quoting query = some ⟨kind, some rawValues⟩) :
    ∃ text, skipTableName quoting ((skipWhitespaceAndComments query).drop 12) = some text := by
  simp only [parseInsert] at parsed
  split at parsed
  case isTrue =>
    split at parsed
    case h_1 => cases parsed
    case h_2 => cases parsed
    case h_3 byte rest table => exact ⟨_, table⟩
  case isFalse =>
    split at parsed
    · simp at parsed
    · simp at parsed

/-- The name of the table is copied whole exactly if the scan for a space gets past it. -/
theorem table_iff {quoting : Quoting} {call : RewriteCall} {rawValues : List Byte} {kind : QueryType}
    (parsed : parseInsert quoting call.query = some ⟨kind, some rawValues⟩) :
    call.copiedTable = some ((skipWhitespaceAndComments call.query).take 12 ++
        tableName quoting call.query ++ ascii " ") ↔
      (isQuote (peek ((skipWhitespaceAndComments call.query).drop 12)) = true →
        chr ' ' ∉ tableName quoting call.query ∧ 0 ∉ tableName quoting call.query ∧
          peek (((skipWhitespaceAndComments call.query).drop 12).drop
            (tableName quoting call.query).length) = chr ' ') := by
  obtain ⟨text, named⟩ := skipTableName_of_parsed parsed
  rw [copiedTable_eq_some_iff]
  rw [skipTableName] at named
  rw [tableName]
  generalize (skipWhitespaceAndComments call.query).drop 12 = start at named ⊢
  cases quoted : isQuote (peek start) with
  | true =>
      simp only [if_true, true_imp_iff]
      have parts : start.take (quoting.stringLiteral start) ++
          start.drop (start.take (quoting.stringLiteral start)).length = start :=
        List.prefix_iff_eq_append.mp (List.take_prefix _ _)
      generalize start.take (quoting.stringLiteral start) = name at parts ⊢
      constructor
      · intro front
        refine ⟨?_, front.2⟩
        rw [← front.1]
        intro member
        have notSpace := List.mem_takeWhile_imp member
        simp at notSpace
      · intro front
        refine ⟨?_, front.2⟩
        conv_lhs => rw [← parts]
        rw [List.takeWhile_append_of_pos]
        · cases after : start.drop name.length with
          | nil => simp
          | cons byte rest =>
              have isSpace := front.2.2
              rw [after, peek_cons] at isSpace
              rw [List.takeWhile_cons_of_neg (by simp [isSpace]), List.append_nil]
        · intro byte member
          simp only [ne_eq, decide_eq_true_eq]
          intro isSpace
          exact front.1 (isSpace ▸ member)
  | false =>
      simp only [quoted, Bool.false_eq_true, if_false] at named
      obtain ⟨found, finds, -⟩ := Option.bind_eq_some_iff.mp named
      obtain ⟨noNul, parts, isSpace⟩ := (findFirst_eq_some_iff (by decide)).mp finds
      simp only [Bool.false_eq_true, if_false, false_imp_iff, iff_true, true_and]
      generalize start.takeWhile (· ≠ chr ' ') = name at parts noNul ⊢
      refine ⟨noNul, ?_⟩
      rw [parts, List.drop_left]
      exact isSpace

/-! ## The columns -/

theorem columns_iff (call : RewriteCall) :
    call.copiedColumns = ascii "(" ++ [chr ','].intercalate
        (if call.includesAutoincColumn then call.columns
          else call.autoinccolumn :: call.columns) ++ ascii ") values (" ↔
      (call.includesAutoincColumn = false → call.columns ≠ []) := by
  rw [RewriteCall.copiedColumns, List.append_cancel_right_eq]
  cases call.includesAutoincColumn with
  | true => simp
  | false =>
      cases call.columns with
      | nil => simp [show ascii "," = [chr ','] from rfl]
      | cons column columns => simp [show ascii "," = [chr ','] from rfl, List.intercalate_cons_cons]

end SqlRelay.Replay
