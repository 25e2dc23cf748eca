import SqlRelay.Insert.Parse

/-!
# Splitting a multi-insert

`runBeforeExecute` of the splitmultiinsert trigger.  A multi-insert is suppressed, and an insert
for each of its sets of values is run in its place, until one of them fails.
-/

namespace SqlRelay.Insert

open SqlRelay.Foundation SqlRelay.Foundation.CString SqlRelay.Query

variable (quoting : Quoting)

/-- Past the keyword, to the first parenthesis. -/
def skipValuesKeyword (text : List Byte) : List Byte :=
  if startsWithIgnoringCase text (ascii "values(") then text.drop 6
  else if startsWithIgnoringCase text (ascii "values (") then text.drop 7
  else text

/-- `parsePrefix`: the text from the first set of values on. -/
def parsePrefix (query : List Byte) : Option (List Byte) :=
  match skipTableName quoting ((skipWhitespaceAndComments query).drop 12) with
  | none => none
  | some text =>
      let afterColumns :=
        if peek text = chr '(' then
          (quoting.columnsEnd text.length (text.drop 1)).map fun close => close.drop 2
        else some text
      afterColumns.map skipValuesKeyword

/-- `parseValues`: a set of values, and the text after it.  The depth has 16 bits. -/
def parseValues (text : List Byte) : List Byte × List Byte :=
  match quoting.brackets.close (· % 65536) text.tail.length 0 text.tail with
  | some (inside, rest) => (text.take 1 ++ inside, rest)
  | none => ([], [])

/-- The text after a set of values, if another one follows. -/
def nextValues : List Byte → Option (List Byte)
  | [] => none
  | byte :: rest => if byte = chr ',' then some rest else none

/-- `parseSuffix`, up to the terminator. -/
def parseSuffix : Nat → List Byte → List Byte
  | 0, _ => []
  | fuel + 1, text =>
      let rest := (parseValues quoting text).2
      match nextValues rest with
      | some text => parseSuffix fuel text
      | none => contents rest

/-- What was run, the rows it affected and whether all of it succeeded. -/
structure SingleInserts where
  statements : List (List Byte)
  affectedRows : Nat
  succeeded : Bool
  deriving DecidableEq, Repr

def SingleInserts.after (statement : List Byte) (rows : Nat) (later : SingleInserts) :
    SingleInserts :=
  ⟨statement :: later.statements, rows + later.affectedRows, later.succeeded⟩

/-- The loop over the sets of values.  `outcome` is what the database makes of the insert with
this number: the rows it affects, if it succeeds. -/
def singleInserts (outcome : Nat → Option Nat) (before suffix : List Byte) :
    Nat → Nat → List Byte → SingleInserts
  | 0, _, _ => ⟨[], 0, true⟩
  | fuel + 1, number, text =>
      let (values, rest) := parseValues quoting text
      let statement := before ++ values ++ suffix
      match outcome number with
      | none => ⟨[statement], 0, false⟩
      | some rows =>
          match nextValues rest with
          | some text =>
              (singleInserts outcome before suffix fuel (number + 1) text).after statement rows
          | none => ⟨[statement], rows, true⟩

example : (singleInserts quoting (fun _ => none) [] [] 0 0 []).succeeded = true := by
  rw [singleInserts]

/-- What the trigger did, and whether the original query is still to be run. -/
structure SplitResult where
  querySuppressed : Bool
  inserts : SingleInserts
  deriving DecidableEq, Repr

def notSplit (querySuppressed : Bool) : SplitResult := ⟨querySuppressed, [], 0, true⟩

/-- The query as it comes to the trigger: whether another trigger has suppressed it, whether a
cursor for the single inserts can be had, and what the database makes of them. -/
structure Execution where
  querySuppressed : Bool
  cursorOpens : Bool
  outcome : Nat → Option Nat

/-- `runBeforeExecute` -/
def splitMultiInsert (execution : Execution) (query : List Byte) : SplitResult :=
  if execution.querySuppressed then notSplit true
  else if determineQueryType query ≠ .insert then notSplit false
  else if (parseInsert quoting query).map Parsed.queryType ≠ some .multiInsert then notSplit false
  else
    match parsePrefix quoting query with
    | none => notSplit false
    | some values =>
        if execution.cursorOpens then
          let before := query.take (query.length - values.length)
          let suffix := parseSuffix quoting (values.length + 1) values
          ⟨true, singleInserts quoting execution.outcome before suffix (values.length + 1) 0 values⟩
        else ⟨true, [], 0, false⟩

/-- What the trigger can do with a query. -/
theorem splitMultiInsert_cases (execution : Execution) (query : List Byte) :
    (∃ suppressed, splitMultiInsert quoting execution query = notSplit suppressed) ∨
      (execution.querySuppressed = false ∧ execution.cursorOpens = false ∧
        splitMultiInsert quoting execution query = ⟨true, [], 0, false⟩) ∨
      (execution.querySuppressed = false ∧ execution.cursorOpens = true ∧
        ∃ values, parsePrefix quoting query = some values ∧
          splitMultiInsert quoting execution query =
            ⟨true, singleInserts quoting execution.outcome
              (query.take (query.length - values.length))
              (parseSuffix quoting (values.length + 1) values) (values.length + 1) 0 values⟩) := by
  rw [splitMultiInsert]
  split
  case isTrue => exact Or.inl ⟨_, rfl⟩
  case isFalse unsuppressed =>
    rw [Bool.not_eq_true] at unsuppressed
    split
    · exact Or.inl ⟨_, rfl⟩
    · split
      · exact Or.inl ⟨_, rfl⟩
      · split
        case h_1 => exact Or.inl ⟨_, rfl⟩
        case h_2 values found =>
          split
          case isTrue opens => exact Or.inr (Or.inr ⟨unsuppressed, opens, values, found, rfl⟩)
          case isFalse closed =>
            exact Or.inr (Or.inl ⟨unsuppressed, by simpa using closed, rfl⟩)

/-! ## What the statements have to be -/

/-- A text consists of these sets of values, with commas between them, and of a suffix; so deep
are the parentheses nested in them. -/
inductive Tuples : List Byte → List (List Byte) → List Byte → Nat → Prop where
  | last {body inside suffix : List Byte}
      (closes : quoting.brackets.close id body.length 0 body = some (inside, suffix))
      (ends : nextValues suffix = none) :
      Tuples (chr '(' :: body) [chr '(' :: inside] suffix
        (quoting.brackets.nesting body.length 0 body)
  | more {body inside rest suffix : List Byte} {tuples : List (List Byte)} {deepest : Nat}
      (closes : quoting.brackets.close id body.length 0 body = some (inside, chr ',' :: rest))
      (later : Tuples rest tuples suffix deepest) :
      Tuples (chr '(' :: body) ((chr '(' :: inside) :: tuples) suffix
        (max (quoting.brackets.nesting body.length 0 body) deepest)

/-- A multi-insert: a header up to its first set of values, its tuples, and its suffix. -/
structure MultiInsert (query header : List Byte) (tuples : List (List Byte)) (suffix : List Byte)
    (deepest : Nat) (rawValues : List Byte) : Prop where
  classified : parseInsert quoting query = some ⟨.multiInsert, some rawValues⟩
  whole : query = header ++ chr '(' :: rawValues
  values : Tuples quoting (chr '(' :: rawValues) tuples suffix deepest

/-- A single insert for each tuple. -/
def SplitExactly (execution : Execution) (query header : List Byte) (tuples : List (List Byte))
    (suffix : List Byte) : Prop :=
  (splitMultiInsert quoting execution query).inserts.statements =
    tuples.map fun tuple => header ++ tuple ++ suffix

end SqlRelay.Insert
