import SqlRelay.Foundation.Fields
import SqlRelay.Insert.Parse

/-!
# Splitting the values of an insert

`getFirstValuesFromInsertQuery` goes over the first tuple once, with a count of open parentheses.
`getColumnsFromInsertQuery` looks for one boundary after another.  On a tuple that is closed both
find the fields of what stands in the parentheses.
-/

namespace SqlRelay.Insert

open SqlRelay.Foundation SqlRelay.Foundation.CString SqlRelay.Foundation.Brackets

namespace Quoting

variable (quoting : Quoting)

/-- The loop of `getFirstValuesFromInsertQuery`, with what stands between the start of the value
and where it is.  The values and whether there are more tuples; a value is a C string. -/
def firstValues : Nat → Nat → List Byte → List Byte → List (List Byte) × Bool
  | 0, _, _, _ => ([], false)
  | _ + 1, _, _, [] => ([], false)
  | fuel + 1, parens, value, byte :: rest =>
      match quoting.skipLiteral (byte :: rest) with
      | skipped + 1 =>
          firstValues fuel parens (value ++ byte :: rest.take skipped) (rest.drop skipped)
      | 0 =>
          if byte = chr '(' then firstValues fuel (parens + 1) (value ++ [byte]) rest
          else if byte = chr ')' then
            match parens with
            | parens + 1 => firstValues fuel parens (value ++ [byte]) rest
            | 0 => ([contents value], rest.head? == some (chr ','))
          else if byte = chr ',' ∧ parens = 0 then
            let later := firstValues fuel parens [] rest
            (contents value :: later.1, later.2)
          else firstValues fuel parens (value ++ [byte]) rest

/-- `getFirstValuesFromInsertQuery`. -/
def getFirstValuesFromInsertQuery (start : List Byte) : List (List Byte) × Bool :=
  quoting.firstValues start.length 0 [] start

/-- What `getColumnsFromInsertQuery` finds from boundary to boundary, and the text from the
parenthesis on that ends it. -/
def columnTexts : Nat → List Byte → Option (List (List Byte) × List Byte)
  | 0, _ => none
  | fuel + 1, startofcolumn =>
      match quoting.findCommaOrCloseParen startofcolumn.length 0 startofcolumn with
      | none => none
      | some found =>
          let column := startofcolumn.take (startofcolumn.length - found.length)
          if peek found = chr ')' then some ([column], found)
          else (columnTexts fuel (found.drop 1)).map fun later => (column :: later.1, later.2)

/-- `getColumnsFromInsertQuery`; `bothTrim` removes the spaces at both ends of a C string, and
empty columns are skipped. -/
def getColumnsFromInsertQuery (bothTrim : List Byte → List Byte) (start : List Byte) :
    Option (List (List Byte) × List Byte) :=
  (quoting.columnTexts start.length start).map fun found =>
    ((((found.1.filter (· ≠ [])).map contents).map bothTrim).filter (· ≠ []), found.2)

/-- The fields of what was read in the parentheses: joined with commas they are all of it, no comma
between values is left in one of them, and both scanners find them. -/
structure SplitInto (text rest : List Byte) (lexemes : List (Lexeme Byte))
    (fields : List (List (Lexeme Byte))) : Prop where
  whole : [Lexeme.outer (chr ',')].intercalate fields = lexemes
  joined : [chr ','].intercalate (fields.map Lexeme.texts) ++ chr ')' :: rest = text
  uncut : ∀ field ∈ fields, Lexeme.outer (chr ',') ∉ field
  values : (quoting.getFirstValuesFromInsertQuery text).1 =
    fields.map fun field => contents (Lexeme.texts field)
  multi : (quoting.getFirstValuesFromInsertQuery text).2 = true ↔ rest.head? = some (chr ',')
  columns : quoting.columnTexts text.length text =
    some (fields.map Lexeme.texts, chr ')' :: rest)

end Quoting

variable {quoting : Quoting} {fuel depth : Nat} {rest text : List Byte}
  {lexemes : List (Lexeme Byte)}

@[simp] theorem brackets_literal : quoting.brackets.literal text = quoting.skipLiteral text := rfl

@[simp] theorem brackets_opens (byte : Byte) : quoting.brackets.opens byte = (byte == chr '(') :=
  rfl

@[simp] theorem brackets_closes (byte : Byte) : quoting.brackets.closes byte = (byte == chr ')') :=
  rfl

theorem close_ne_open : chr ')' ≠ chr '(' := by decide

theorem comma_ne_open : chr ',' ≠ chr '(' := by decide

theorem comma_ne_close : chr ',' ≠ chr ')' := by decide

/-! ## The count of parentheses -/

/-- The fields, after what was already there of the first one. -/
def continued (value : List Byte) (fields : List (List Byte)) : List (List Byte) :=
  (fields.modifyHead (value ++ ·)).map contents

theorem continued_nil (fields : List (List Byte)) : continued [] fields = fields.map contents := by
  rw [continued]
  cases fields with
  | nil => rfl
  | cons field fields => rfl

theorem continued_other {lexeme : Lexeme Byte} (differs : lexeme ≠ Lexeme.outer (chr ','))
    (value : List Byte) (lexemes : List (Lexeme Byte)) :
    continued value (Lexeme.fieldTexts (chr ',') (lexeme :: lexemes)) =
      continued (value ++ lexeme.symbols) (Lexeme.fieldTexts (chr ',') lexemes) := by
  rw [Lexeme.fieldTexts_other _ differs, continued, continued, List.modifyHead_modifyHead]
  congr 2
  funext field
  exact (List.append_assoc _ _ _).symm

theorem firstValues_of_read (read : quoting.brackets.Read rest depth lexemes text)
    (enough : text.length ≤ fuel) (value : List Byte) :
    quoting.firstValues fuel depth value text =
      (continued value (Lexeme.fieldTexts (chr ',') lexemes), rest.head? == some (chr ',')) := by
  induction read generalizing fuel value with
  | closer literal closes =>
      cases fuel with
      | zero => cases enough
      | succ fuel =>
          rw [brackets_closes, beq_iff_eq] at closes
          subst closes
          rw [brackets_literal] at literal
          simp [Quoting.firstValues, literal, close_ne_open, Lexeme.fieldTexts_nil, continued]
  | inner literal closes later ih =>
      cases fuel with
      | zero => cases enough
      | succ fuel =>
          rw [brackets_closes, beq_iff_eq] at closes
          subst closes
          rw [brackets_literal] at literal
          rw [continued_other (by simp [Lexeme.outer]), ← ih (Nat.le_of_succ_le_succ enough)]
          simp [Quoting.firstValues, literal, close_ne_open]
  | @other symbol text depth lexemes literal closes later ih =>
      cases fuel with
      | zero => cases enough
      | succ fuel =>
          have ih := fun value => ih (Nat.le_of_succ_le_succ enough) value
          rw [brackets_closes, beq_eq_false_iff_ne] at closes
          rw [brackets_literal] at literal
          by_cases separates : symbol = chr ',' ∧ depth = 0
          · obtain ⟨rfl, rfl⟩ := separates
            have next := ih []
            rw [brackets_opens, if_neg (by decide), continued_nil] at next
            change _ = (continued value (Lexeme.fieldTexts _ (Lexeme.outer (chr ',') :: lexemes)), _)
            rw [Lexeme.fieldTexts_outer]
            simp [Quoting.firstValues, literal, comma_ne_open, closes, next, continued]
          · rw [continued_other (by simpa [Lexeme.outer, and_comm] using separates), ← ih]
            by_cases opens : symbol = chr '('
            · subst opens
              simp [Quoting.firstValues, literal]
            · simp [Quoting.firstValues, literal, opens, closes, separates]
  | @literal symbol text depth skipped lexemes literal later ih =>
      cases fuel with
      | zero => cases enough
      | succ fuel =>
          have shorter : (text.drop skipped).length ≤ fuel := by
            simp only [List.length_cons, List.length_drop] at enough ⊢
            omega
          rw [brackets_literal] at literal
          rw [continued_other (by simp [Lexeme.outer]), ← ih shorter]
          simp [Quoting.firstValues, literal]

/-! ## One boundary after another -/

/-- The boundary of the first field: the parenthesis that closes, or a comma, with the other fields
after it. -/
inductive Boundary (quoting : Quoting) (rest : List Byte) (lexemes : List (Lexeme Byte))
    (text : List Byte) : List Byte → Prop where
  | last (field : List Byte) (fields : Lexeme.fieldTexts (chr ',') lexemes = [field])
      (same : text = field ++ chr ')' :: rest) : Boundary quoting rest lexemes text (chr ')' :: rest)
  | next (field after : List Byte) (others : List (Lexeme Byte))
      (fields : Lexeme.fieldTexts (chr ',') lexemes = field :: Lexeme.fieldTexts (chr ',') others)
      (same : text = field ++ chr ',' :: after) (later : quoting.brackets.Read rest 0 others after) :
      Boundary quoting rest lexemes text (chr ',' :: after)

/-- What does not separate belongs to the first field. -/
theorem Boundary.cons {found : List Byte} (lexeme : Lexeme Byte)
    (differs : lexeme ≠ Lexeme.outer (chr ',')) (boundary : Boundary quoting rest lexemes text found) :
    Boundary quoting rest (lexeme :: lexemes) (lexeme.symbols ++ text) found := by
  cases boundary with
  | last field fields same =>
      apply Boundary.last (lexeme.symbols ++ field)
      · rw [Lexeme.fieldTexts_other _ differs, fields]
        rfl
      · rw [same, List.append_assoc]
  | next field after others fields same later =>
      apply Boundary.next (lexeme.symbols ++ field) after others
      · rw [Lexeme.fieldTexts_other _ differs, fields]
        rfl
      · rw [same, List.append_assoc]
      · exact later

theorem findCommaOrCloseParen_of_read (read : quoting.brackets.Read rest depth lexemes text)
    (enough : text.length ≤ fuel) :
    ∃ found, quoting.findCommaOrCloseParen fuel depth text = some found ∧
      Boundary quoting rest lexemes text found := by
  induction read generalizing fuel with
  | closer literal closes =>
      cases fuel with
      | zero => cases enough
      | succ fuel =>
          rw [brackets_closes, beq_iff_eq] at closes
          subst closes
          rw [brackets_literal] at literal
          refine ⟨chr ')' :: rest, ?_, Boundary.last [] (Lexeme.fieldTexts_nil _) rfl⟩
          simp [Quoting.findCommaOrCloseParen, literal, close_ne_open]
  | inner literal closes later ih =>
      cases fuel with
      | zero => cases enough
      | succ fuel =>
          rw [brackets_closes, beq_iff_eq] at closes
          subst closes
          rw [brackets_literal] at literal
          obtain ⟨found, finds, boundary⟩ := ih (Nat.le_of_succ_le_succ enough)
          refine ⟨found, ?_, boundary.cons _ (by simp [Lexeme.outer])⟩
          simpa [Quoting.findCommaOrCloseParen, literal, close_ne_open] using finds
  | @other symbol text depth lexemes literal closes later ih =>
      cases fuel with
      | zero => cases enough
      | succ fuel =>
          rw [brackets_closes, beq_eq_false_iff_ne] at closes
          rw [brackets_literal] at literal
          by_cases separates : symbol = chr ',' ∧ depth = 0
          · obtain ⟨rfl, rfl⟩ := separates
            rw [brackets_opens, if_neg (by decide)] at later
            refine ⟨chr ',' :: text, ?_,
              Boundary.next [] text lexemes (Lexeme.fieldTexts_outer _ lexemes) rfl later⟩
            simp [Quoting.findCommaOrCloseParen, literal, comma_ne_open, closes]
          · obtain ⟨found, finds, boundary⟩ := ih (Nat.le_of_succ_le_succ enough)
            refine ⟨found, ?_, boundary.cons _ (by simpa [Lexeme.outer, and_comm] using separates)⟩
            by_cases opens : symbol = chr '('
            · subst opens
              simpa [Quoting.findCommaOrCloseParen, literal] using finds
            · simpa [Quoting.findCommaOrCloseParen, literal, opens, closes, separates] using finds
  | @literal symbol text depth skipped lexemes literal later ih =>
      cases fuel with
      | zero => cases enough
      | succ fuel =>
          have shorter : (text.drop skipped).length ≤ fuel := by
            simp only [List.length_cons, List.length_drop] at enough ⊢
            omega
          rw [brackets_literal] at literal
          obtain ⟨found, finds, boundary⟩ := ih shorter
          refine ⟨found, ?_, ?_⟩
          · simpa [Quoting.findCommaOrCloseParen, literal] using finds
          · simpa using boundary.cons ⟨depth, true, symbol :: text.take skipped⟩
              (by simp [Lexeme.outer])

theorem columnTexts_of_read (read : quoting.brackets.Read rest 0 lexemes text)
    (enough : text.length ≤ fuel) :
    quoting.columnTexts fuel text =
      some (Lexeme.fieldTexts (chr ',') lexemes, chr ')' :: rest) := by
  induction fuel generalizing lexemes text with
  | zero =>
      obtain ⟨closer, -, same⟩ := read.text_eq
      rw [same] at enough
      simp at enough
  | succ fuel ih =>
      obtain ⟨found, finds, boundary⟩ := findCommaOrCloseParen_of_read read (Nat.le_refl _)
      rw [Quoting.columnTexts, finds]
      cases boundary with
      | last field fields same => simp [same, fields]
      | next field after others fields same later =>
          have shorter : after.length ≤ fuel := by
            rw [same, List.length_append, List.length_cons] at enough
            omega
          simp [same, fields, comma_ne_close, ih later shorter]

/-! ## Both scanners -/

/-- Under every quoting rule a tuple that is closed is split into its fields, and by both scanners
alike. -/
theorem splitInto_fields (quoting : Quoting) (text rest : List Byte) (lexemes : List (Lexeme Byte))
    (closed : quoting.brackets.Read rest 0 lexemes text) :
    quoting.SplitInto text rest lexemes (Lexeme.fields (chr ',') lexemes) := by
  have first : quoting.getFirstValuesFromInsertQuery text =
      ((Lexeme.fieldTexts (chr ',') lexemes).map contents, rest.head? == some (chr ',')) := by
    rw [← continued_nil]
    exact firstValues_of_read closed (Nat.le_refl _) []
  constructor
  · exact Lexeme.intercalate_fields _ lexemes
  · obtain ⟨closer, closes, same⟩ := closed.text_eq
    rw [brackets_closes, beq_iff_eq] at closes
    rw [same, closes, ← Lexeme.intercalate_fieldTexts (chr ',') lexemes, Lexeme.fieldTexts]
  · exact Lexeme.outer_not_mem_fields _ lexemes
  · rw [first, Lexeme.fieldTexts, List.map_map]
    rfl
  · rw [first]
    exact beq_iff_eq
  · exact columnTexts_of_read closed (Nat.le_refl _)

/-- The lexemes of two values, a literal and a call. -/
def literalAndCall : List (Lexeme Byte) :=
  [⟨0, true, ascii "'a,b'"⟩, ⟨0, false, ascii ","⟩, ⟨0, false, ascii "f"⟩, ⟨0, false, ascii "("⟩,
    ⟨1, false, ascii "1"⟩, ⟨1, false, ascii ")"⟩]

theorem splitInto_literalAndCall :
    plainQuoting.SplitInto (ascii "'a,b',f(1)),(2)") (ascii ",(2)") literalAndCall
      (Lexeme.fields (chr ',') literalAndCall) :=
  splitInto_fields plainQuoting _ _ _ <|
    @Read.literal _ _ _ (chr '\'') (ascii "a,b',f(1)),(2)") 0 4 literalAndCall.tail rfl <|
      .other rfl rfl <| .other rfl rfl <| .other rfl rfl <| .other rfl rfl <|
      .inner rfl rfl <| .closer rfl rfl

/-- A comma and a parenthesis follow, with whitespace around the comma at most. -/
def TupleFollows (rest : List Byte) : Prop :=
  ∃ after, rest.dropWhile isWhitespace = chr ',' :: after ∧
    peek (after.dropWhile isWhitespace) = chr '('

/-- A tuple after whitespace does not count. -/
theorem spacedTuple_missed :
    ¬∀ (quoting : Quoting) (text rest : List Byte) (lexemes : List (Lexeme Byte)),
      quoting.brackets.Read rest 0 lexemes text →
        [chr ','].intercalate (quoting.getFirstValuesFromInsertQuery text).1 ++ chr ')' :: rest =
            text ∧
          ((quoting.getFirstValuesFromInsertQuery text).2 = true ↔ TupleFollows rest) := by
  intro every
  have spaced : plainQuoting.brackets.Read (ascii " ,(2)") 0 [⟨0, false, ascii "1"⟩]
      (ascii "1) ,(2)") :=
    .other rfl rfl <| .closer rfl rfl
  have follows : TupleFollows (ascii " ,(2)") := ⟨ascii "(2)", rfl, rfl⟩
  have multi := (every plainQuoting _ _ _ spaced).2.mpr follows
  exact absurd multi (by decide)

end SqlRelay.Insert
