import SqlRelay.Foundation.Edits
import SqlRelay.Replay.RewriteQuery

/-!
# Rewriting an insert for the replay log

What is written for the values, and the whole query.  To replace the nulls of the auto-increment
column is to edit the text of the values in some places; what is logged is right if the code edits
it in the right ones.
-/

namespace SqlRelay.Replay

open SqlRelay.Foundation SqlRelay.Foundation.CString SqlRelay.Foundation.Brackets
open SqlRelay.Query SqlRelay.Insert

/-! ## The values -/

section Values

variable {quoting : Quoting} {call : RewriteCall} {rest text : List Byte} {depth fuel : Nat}
variable {lexemes : List (Lexeme Byte)}

/-- What is appended for the values, after what was already there of the first one. -/
def appendedTexts (call : RewriteCall) (value : List Byte) (columns values : List (List Byte)) :
    List Byte :=
  [chr ','].intercalate (fixedValues call.idText
    (columns.map fun column => compareQuoted column call.autoinccolumn) (continued value values))

theorem appendedValue_eq (columns : List (List Byte)) (value : List Byte) (values : List (List Byte)) :
    fixedValues call.idText (columns.map fun column => compareQuoted column call.autoinccolumn)
        (contents value :: values) =
      call.appendedValue columns value :: fixedValues call.idText
        (columns.tail.map fun column => compareQuoted column call.autoinccolumn) values := by
  cases columns with
  | nil => cases values <;> simp [fixedValues, RewriteCall.appendedValue]
  | cons column columns =>
      rw [List.map_cons, fixedValues]
      simp [RewriteCall.appendedValue]

theorem appendedTexts_last (call : RewriteCall) (value : List Byte) (columns : List (List Byte)) :
    appendedTexts call value columns [[]] = call.appendedValue columns value := by
  rw [appendedTexts, continued, List.modifyHead_cons, List.append_nil, List.map_cons, List.map_nil,
    appendedValue_eq, fixedValues, List.intercalate_singleton]

theorem appendedTexts_next (call : RewriteCall) (value : List Byte) (columns : List (List Byte))
    {fields : List (List Byte)} (several : fields ≠ []) :
    appendedTexts call value columns ([] :: fields) =
      call.appendedValue columns value ++ ascii "," ++ appendedTexts call [] columns.tail fields := by
  have first : continued value ([] :: fields) = contents value :: fields.map contents := by
    rw [continued, List.modifyHead_cons, List.append_nil, List.map_cons]
  rw [appendedTexts, first, appendedValue_eq, appendedTexts, continued_nil]
  cases fields with
  | nil => exact absurd rfl several
  | cons field fields =>
      rw [List.map_cons, appendedValue_eq, List.intercalate_cons_cons]
      rfl

theorem appendedTexts_other {lexeme : Lexeme Byte} (differs : lexeme ≠ Lexeme.outer (chr ','))
    (value : List Byte) (columns : List (List Byte)) (lexemes : List (Lexeme Byte)) :
    appendedTexts call value columns (Lexeme.fieldTexts (chr ',') (lexeme :: lexemes)) =
      appendedTexts call (value ++ lexeme.symbols) columns
        (Lexeme.fieldTexts (chr ',') lexemes) := by
  rw [appendedTexts, continued_other differs, appendedTexts]

theorem fieldTexts_ne_nil (lexemes : List (Lexeme Byte)) :
    Lexeme.fieldTexts (chr ',') lexemes ≠ [] := by
  intro isNil
  exact Lexeme.fields_ne_nil _ lexemes (List.map_eq_nil_iff.mp isNil)

theorem appendValues_of_read
    (read : (withoutDollars quoting).brackets.Read rest depth lexemes text)
    (enough : text.length ≤ fuel) (value : List Byte) (columns : List (List Byte)) :
    call.appendValues quoting fuel depth value columns text =
      (appendedTexts call value columns (Lexeme.fieldTexts (chr ',') lexemes) ++ ascii ")",
        rest) := by
  induction read generalizing fuel value columns with
  | closer literal closes =>
      cases fuel with
      | zero => cases enough
      | succ fuel =>
          rw [brackets_closes, beq_iff_eq] at closes
          subst closes
          rw [brackets_literal] at literal
          rw [Lexeme.fieldTexts_nil, appendedTexts_last]
          simp [RewriteCall.appendValues, literal, close_ne_open]
  | inner literal closes later ih =>
      cases fuel with
      | zero => cases enough
      | succ fuel =>
          rw [brackets_closes, beq_iff_eq] at closes
          subst closes
          rw [brackets_literal] at literal
          rw [appendedTexts_other (by simp [Lexeme.outer]), ← ih (Nat.le_of_succ_le_succ enough)]
          simp [RewriteCall.appendValues, literal, close_ne_open]
  | @other symbol text depth lexemes literal closes later ih =>
      cases fuel with
      | zero => cases enough
      | succ fuel =>
          have ih := fun value columns => ih (Nat.le_of_succ_le_succ enough) value columns
          rw [brackets_closes, beq_eq_false_iff_ne] at closes
          rw [brackets_literal] at literal
          by_cases separates : symbol = chr ',' ∧ depth = 0
          · obtain ⟨rfl, rfl⟩ := separates
            have next := ih [] columns.tail
            rw [brackets_opens, if_neg (by decide)] at next
            change _ = (appendedTexts call value columns
              (Lexeme.fieldTexts _ (Lexeme.outer (chr ',') :: lexemes)) ++ _, _)
            rw [Lexeme.fieldTexts_outer, appendedTexts_next _ _ _ (fieldTexts_ne_nil lexemes)]
            simp [RewriteCall.appendValues, literal, comma_ne_open, closes, next]
          · rw [appendedTexts_other (by simpa [Lexeme.outer, and_comm] using separates), ← ih]
            by_cases opens : symbol = chr '('
            · subst opens
              simp [RewriteCall.appendValues, literal]
            · simp [RewriteCall.appendValues, literal, opens, closes, separates]
  | @literal symbol text depth skipped lexemes literal later ih =>
      cases fuel with
      | zero => cases enough
      | succ fuel =>
          have shorter : (text.drop skipped).length ≤ fuel := by
            simp only [List.length_cons, List.length_drop] at enough ⊢
            omega
          rw [brackets_literal] at literal
          rw [appendedTexts_other (by simp [Lexeme.outer]), ← ih shorter]
          simp [RewriteCall.appendValues, literal]

/-- A byte that is in no null and in no number. -/
structure OtherByte (call : RewriteCall) (byte : Byte) : Prop where
  notId : byte ∉ call.idText
  notNull : toLowerCase byte ∉ ascii "null"

theorem otherByte (call : RewriteCall) :
    OtherByte call 0 ∧ OtherByte call (chr ')') := by
  have digit : ∀ byte ∈ call.idText, isDigit byte = true :=
    fun _ => isDigit_of_mem_digits
  constructor
  · constructor
    · intro member
      exact absurd (digit 0 member) (by decide)
    · decide
  · constructor
    · intro member
      exact absurd (digit _ member) (by decide)
    · decide

theorem count_isNull {byte : Byte} (other : OtherByte call byte) {value : List Byte}
    (null : isNull value = true) : value.count byte = 0 := by
  rw [List.count_eq_zero]
  intro member
  rw [isNull, beq_iff_eq] at null
  exact other.notNull (null ▸ List.mem_map_of_mem member)

theorem count_appendedValue {byte : Byte} (other : OtherByte call byte) (columns : List (List Byte))
    (value : List Byte) :
    (call.appendedValue columns value).count byte = (contents value).count byte := by
  rw [RewriteCall.appendedValue]
  split
  case isTrue null =>
    rw [Bool.and_eq_true] at null
    rw [count_isNull other null.2, List.count_eq_zero]
    exact other.notId
  case isFalse => rfl

/-- Where the values are not closed, the text runs out, and a parenthesis is added. -/
theorem appendValues_of_unclosed
    (unclosed : (withoutDollars quoting).brackets.close id fuel depth text = none)
    (enough : text.length ≤ fuel) (value : List Byte) (columns : List (List Byte)) :
    (call.appendValues quoting fuel depth value columns text).2 = [] ∧
      (call.appendValues quoting fuel depth value columns text).1.count 0 = 0 ∧
      (0 ∉ value ++ text →
        (call.appendValues quoting fuel depth value columns text).1.count (chr ')') =
          (value ++ text).count (chr ')') + 1) := by
  have ends : ∀ value : List Byte, (contents value ++ ascii ")").count 0 = 0 ∧
      (0 ∉ value → (contents value ++ ascii ")").count (chr ')') = value.count (chr ')') + 1) := by
    intro value
    rw [List.count_append, List.count_append, List.count_eq_zero.mpr (zero_notMem_contents value)]
    constructor
    · decide
    · intro noNul
      rw [contents_eq_self noNul]
      rfl
  induction fuel generalizing depth value columns text with
  | zero =>
      have isNil := List.length_eq_zero_iff.mp (Nat.le_zero.mp enough)
      subst isNil
      rw [RewriteCall.appendValues, List.append_nil]
      exact ⟨rfl, ends value⟩
  | succ fuel ih =>
      cases text with
      | nil =>
          rw [RewriteCall.appendValues, List.append_nil]
          exact ⟨rfl, ends value⟩
      | cons byte rest =>
          have shorter : rest.length ≤ fuel := Nat.le_of_succ_le_succ enough
          have moved : value ++ byte :: rest = (value ++ [byte]) ++ rest := by simp
          cases literal : (withoutDollars quoting).skipLiteral (byte :: rest) with
          | succ skipped =>
              rw [close_literal literal, Option.map_eq_none_iff] at unclosed
              have dropped : (rest.drop skipped).length ≤ fuel := by
                rw [List.length_drop]
                omega
              have later := ih unclosed dropped (value ++ byte :: rest.take skipped) columns
              rw [List.append_assoc, List.cons_append, List.take_append_drop] at later
              simpa [RewriteCall.appendValues, literal] using later
          | zero =>
              by_cases closes : byte = chr ')'
              · subst closes
                cases depth with
                | zero =>
                    rw [close_outer literal rfl] at unclosed
                    cases unclosed
                | succ depth =>
                    rw [close_inner literal rfl, Option.map_eq_none_iff] at unclosed
                    have later := ih unclosed shorter (value ++ [chr ')']) columns
                    rw [← moved] at later
                    simpa [RewriteCall.appendValues, literal, close_ne_open] using later
              · rw [close_other literal (by simpa using closes), Option.map_eq_none_iff] at unclosed
                by_cases separates : byte = chr ',' ∧ depth = 0
                · obtain ⟨rfl, rfl⟩ := separates
                  have later := ih unclosed shorter [] columns.tail
                  rw [brackets_opens, if_neg (by decide), List.nil_append] at later
                  have run : call.appendValues quoting (fuel + 1) 0 value columns
                      (chr ',' :: rest) =
                      (call.appendedValue columns value ++ ascii "," ++
                        (call.appendValues quoting fuel 0 [] columns.tail rest).1,
                        (call.appendValues quoting fuel 0 [] columns.tail rest).2) := by
                    simp [RewriteCall.appendValues, literal, comma_ne_open, closes]
                  have comma : (ascii ",").count 0 = 0 ∧ (ascii ",").count (chr ')') = 0 := by
                    decide
                  rw [run]
                  simp only [List.count_append, comma.1, comma.2,
                    count_appendedValue (otherByte call).1, count_appendedValue (otherByte call).2,
                    later.2.1, List.count_eq_zero.mpr (zero_notMem_contents value), List.mem_append,
                    not_or]
                  refine ⟨later.1, by simp, ?_⟩
                  intro noNul
                  rw [later.2.2 fun member => noNul.2 (List.mem_cons_of_mem _ member),
                    contents_eq_self noNul.1, List.count_cons_of_ne comma_ne_close]
                  omega
                · have later := ih unclosed shorter (value ++ [byte]) columns
                  rw [← moved] at later
                  by_cases opens : byte = chr '('
                  · subst opens
                    simpa [RewriteCall.appendValues, literal] using later
                  · simpa [RewriteCall.appendValues, literal, opens, closes, separates] using later

/-- A byte that a null starts with. -/
def StartsNull (byte : Byte) : Prop := toLowerCase byte = chr 'n'

theorem exists_of_isNull {value : List Byte} (null : isNull value = true) :
    value.length = 4 ∧ ∃ byte rest, value = byte :: rest ∧ StartsNull byte := by
  rw [isNull, beq_iff_eq] at null
  have length : value.length = 4 := by
    rw [← List.length_map (f := toLowerCase), null]
    rfl
  cases value with
  | nil => cases length
  | cons byte rest => exact ⟨length, byte, rest, rfl, (List.cons.inj null).1⟩

theorem intercalate_fixedValues {idText : List Byte} {isAutoinc : List Bool}
    {value next : List Byte} {values : List (List Byte)} :
    [chr ','].intercalate (value :: fixedValues idText isAutoinc (next :: values)) =
      value ++ [chr ','] ++ [chr ','].intercalate (fixedValues idText isAutoinc (next :: values)) := by
  cases isAutoinc <;> simp [fixedValues, List.intercalate_cons_cons]

/-- To replace the nulls among the values is to edit the text. -/
theorem edit_nullGaps (idText : List Byte) (front : List Byte) (isAutoinc : List Bool)
    (values : List (List Byte)) (tail : List Byte) :
    Editable StartsNull 4 (RewriteCall.nullGaps front.length isAutoinc values)
        (front ++ ([chr ','].intercalate values ++ tail)) ∧
      edit idText 4 (RewriteCall.nullGaps front.length isAutoinc values)
          (front ++ ([chr ','].intercalate values ++ tail)) =
        front ++ ([chr ','].intercalate (fixedValues idText isAutoinc values) ++ tail) := by
  induction values generalizing front isAutoinc with
  | nil => simp [RewriteCall.nullGaps, Editable, edit, fixedValues]
  | cons value values ih =>
      cases isAutoinc with
      | nil => simp [RewriteCall.nullGaps, Editable, edit, fixedValues]
      | cons isAutoinc others =>
          rw [RewriteCall.nullGaps, fixedValues]
          cases hit : isAutoinc && isNull value with
          | false =>
              rw [if_neg (by simp), if_neg (by simp)]
              cases values with
              | nil => simp [RewriteCall.nullGaps, Editable, edit, fixedValues]
              | cons next values =>
                  have later := ih (front ++ value ++ [chr ',']) others
                  have length : (front ++ value ++ [chr ',']).length =
                      front.length + value.length + 1 := by
                    simp [Nat.add_assoc]
                  have fixed := @intercalate_fixedValues idText others value next values
                  rw [length] at later
                  rw [List.intercalate_cons_cons, fixed]
                  simpa only [List.append_assoc] using later
          | true =>
              rw [if_pos rfl, if_pos rfl]
              rw [Bool.and_eq_true] at hit
              obtain ⟨length, byte, rest, same, starts⟩ := exists_of_isNull hit.2
              have first : ∀ more, (front ++ (value ++ more))[front.length]? = some byte := by
                intro more
                rw [List.getElem?_append_right (Nat.le_refl _), Nat.sub_self, same]
                rfl
              have behind : ∀ more, (front ++ (value ++ more)).drop (front.length + 4) = more := by
                intro more
                rw [← List.append_assoc, ← length, ← List.length_append, List.drop_left]
              rw [Editable, edit]
              cases values with
              | nil =>
                  rw [List.intercalate_singleton, behind, List.take_left]
                  constructor
                  · exact ⟨⟨byte, first tail, starts⟩, by simp [RewriteCall.nullGaps, Editable]⟩
                  · simp [RewriteCall.nullGaps, edit, fixedValues]
              | cons next values =>
                  have later := ih [chr ','] others
                  rw [List.intercalate_cons_cons, intercalate_fixedValues, List.append_assoc,
                    List.append_assoc, behind, List.take_left]
                  constructor
                  · exact ⟨⟨byte, first _, starts⟩, later.1⟩
                  · simp only [List.append_assoc] at later ⊢
                    exact congrArg (fun more => front ++ (idText ++ more)) later.2

theorem count_fixedValues {byte : Byte} (other : OtherByte call byte) (isAutoinc : List Bool)
    (values : List (List Byte)) :
    ([chr ','].intercalate (fixedValues call.idText isAutoinc values)).count byte =
      ([chr ','].intercalate values).count byte := by
  induction values generalizing isAutoinc with
  | nil => simp [fixedValues]
  | cons value values ih =>
      cases isAutoinc with
      | nil => rfl
      | cons isAutoinc others =>
          have same : (if isAutoinc && isNull value then call.idText else value).count byte =
              value.count byte := by
            split
            case isTrue null =>
              rw [Bool.and_eq_true] at null
              rw [count_isNull other null.2, List.count_eq_zero]
              exact other.notId
            case isFalse => rfl
          rw [fixedValues]
          cases values with
          | nil => simpa [fixedValues] using same
          | cons next values =>
              rw [intercalate_fixedValues, List.intercalate_cons_cons]
              simp only [List.count_append, same, ih]

theorem notMem_of_intercalate {byte : Byte} {values : List (List Byte)}
    (absent : byte ∉ [chr ','].intercalate values) : ∀ value ∈ values, byte ∉ value := by
  induction values with
  | nil => simp
  | cons value values ih =>
      cases values with
      | nil => simpa using absent
      | cons next values =>
          rw [List.intercalate_cons_cons, List.mem_append, List.mem_append, not_or, not_or] at absent
          rw [List.forall_mem_cons]
          exact ⟨absent.1.1, ih absent.2⟩

theorem intercalate_contents (values : List (List Byte)) :
    0 ∉ [chr ','].intercalate (values.map contents) := by
  induction values with
  | nil => simp
  | cons value values ih =>
      cases values with
      | nil => simpa using zero_notMem_contents value
      | cons next values =>
          rw [List.map_cons, List.map_cons, List.intercalate_cons_cons, List.mem_append,
            List.mem_append, not_or, not_or]
          exact ⟨⟨zero_notMem_contents value, by decide⟩, ih⟩

theorem text_of_read (read : quoting.brackets.Read rest 0 lexemes text) :
    text = [chr ','].intercalate (Lexeme.fieldTexts (chr ',') lexemes) ++ (ascii ")" ++ rest) := by
  obtain ⟨closer, closes, same⟩ := read.text_eq
  rw [brackets_closes, beq_iff_eq] at closes
  rw [same, closes, Lexeme.intercalate_fieldTexts]
  rfl

theorem intercalate_insertValues (idText : List Byte) (isAutoinc : List Bool)
    (lexemes : List (Lexeme Byte)) :
    [chr ','].intercalate (fixedValues idText isAutoinc (insertValues lexemes)) =
      [chr ','].intercalate (fixedValues idText isAutoinc (Lexeme.fieldTexts (chr ',') lexemes)) := by
  rw [insertValues]
  split
  case isTrue isNil =>
    subst isNil
    rw [Lexeme.fieldTexts_nil]
    have notNull : isNull [] = false := by decide
    cases isAutoinc with
    | nil => rfl
    | cons isAutoinc others => simp [fixedValues, notNull]
  case isFalse => rfl

theorem exists_idText (call : RewriteCall) :
    ∃ first, call.idText.head? = some first ∧ ¬StartsNull first := by
  have nonempty : call.idText ≠ [] := by
    rw [RewriteCall.idText, digits]
    simp [Nat.toDigits_ne_nil]
  cases idText : call.idText with
  | nil => exact absurd idText nonempty
  | cons first rest =>
      refine ⟨first, rfl, ?_⟩
      intro starts
      have isDigit : isDigit first = true := by
        apply @isDigit_of_mem_digits call.liid
        rw [← RewriteCall.idText, idText]
        exact List.mem_cons_self
      have every : ∀ index : Fin 256, CString.isDigit (UInt8.ofFin index) = true →
          toLowerCase (UInt8.ofFin index) ≠ chr 'n' := by
        decide +kernel
      exact every first.toFin isDigit starts

/-- In place of the nulls of the auto-increment column the number is written, and nothing else is
changed, exactly if those nulls are found without a knowledge of dollar-quoted literals. -/
theorem values_iff {clause : List Byte} (present : call.includesAutoincColumn = true)
    (closed : quoting.brackets.Read clause 0 lexemes call.rawvalues) :
    call.copiedValues quoting =
        [chr ','].intercalate
          (fixedValues call.idText call.autoincColumns (insertValues lexemes)) ++
          ascii ")" ++ clause ↔
      ∃ rest plain, (withoutDollars quoting).brackets.Read rest 0 plain call.rawvalues ∧
        (∀ value ∈ Lexeme.fieldTexts (chr ',') plain, 0 ∉ value) ∧
        RewriteCall.nullGaps 0 call.autoincColumns (Lexeme.fieldTexts (chr ',') plain) =
          RewriteCall.nullGaps 0 call.autoincColumns (Lexeme.fieldTexts (chr ',') lexemes) := by
  have text := text_of_read closed
  have expected := edit_nullGaps call.idText [] call.autoincColumns
    (Lexeme.fieldTexts (chr ',') lexemes) (ascii ")" ++ clause)
  rw [List.nil_append, List.nil_append, List.length_nil, ← text] at expected
  rw [intercalate_insertValues, List.append_assoc, ← expected.2, RewriteCall.copiedValues,
    if_pos present]
  dsimp only
  -- what the code writes where its reading is closed and finds no NUL
  have written : ∀ rest plain, (withoutDollars quoting).brackets.Read rest 0 plain call.rawvalues →
      (∀ value ∈ Lexeme.fieldTexts (chr ',') plain, 0 ∉ value) →
      Editable StartsNull 4 (RewriteCall.nullGaps 0 call.autoincColumns
          (Lexeme.fieldTexts (chr ',') plain)) call.rawvalues ∧
        edit call.idText 4 (RewriteCall.nullGaps 0 call.autoincColumns
            (Lexeme.fieldTexts (chr ',') plain)) call.rawvalues =
          (call.appendValues quoting call.rawvalues.length 0 [] call.columns call.rawvalues).1 ++
          (call.appendValues quoting call.rawvalues.length 0 [] call.columns call.rawvalues).2 := by
    intro rest plain read noNul
    have edits := edit_nullGaps call.idText [] call.autoincColumns
      (Lexeme.fieldTexts (chr ',') plain) (ascii ")" ++ rest)
    have whole : (Lexeme.fieldTexts (chr ',') plain).map contents =
        Lexeme.fieldTexts (chr ',') plain :=
      (List.map_congr_left fun value member => contents_eq_self (noNul value member)).trans
        (List.map_id _)
    rw [List.nil_append, List.nil_append, List.length_nil, ← text_of_read read] at edits
    rw [appendValues_of_read read (Nat.le_refl _), appendedTexts, continued_nil, whole]
    exact ⟨edits.1, edits.2.trans (List.append_assoc _ _ _).symm⟩
  constructor
  · intro same
    have counted : ∀ byte, OtherByte call byte →
        ((call.appendValues quoting call.rawvalues.length 0 [] call.columns call.rawvalues).1 ++
          (call.appendValues quoting call.rawvalues.length 0 [] call.columns call.rawvalues).2).count
            byte = call.rawvalues.count byte := by
      intro byte other
      rw [same, expected.2, List.count_append, count_fixedValues other, ← List.count_append, ← text]
    have zeros := counted 0 (otherByte call).1
    cases closes : (withoutDollars quoting).brackets.close id call.rawvalues.length 0
        call.rawvalues with
    | none =>
        have unclosed := @appendValues_of_unclosed quoting call _ 0 _ closes (Nat.le_refl _) []
          call.columns
        rw [unclosed.1, List.append_nil, unclosed.2.1] at zeros
        have parens := counted (chr ')') (otherByte call).2
        rw [unclosed.1, List.append_nil,
          unclosed.2.2 (List.count_eq_zero.mp zeros.symm), List.nil_append] at parens
        omega
    | some found =>
        obtain ⟨plain, read⟩ := exists_read_of_close closes
        have noNul : ∀ value ∈ Lexeme.fieldTexts (chr ',') plain, 0 ∉ value := by
          apply notMem_of_intercalate
          rw [← List.count_eq_zero]
          rw [appendValues_of_read read (Nat.le_refl _)] at zeros
          dsimp only at zeros
          rw [appendedTexts, continued_nil, List.append_assoc, List.count_append,
            count_fixedValues (otherByte call).1, List.count_eq_zero.mpr (intercalate_contents _),
            congrArg (List.count 0) (text_of_read read)] at zeros
          simp only [List.count_append] at zeros ⊢
          omega
        refine ⟨found.2, plain, read, noNul, ?_⟩
        have edits := written found.2 plain read noNul
        obtain ⟨first, begins, told⟩ := exists_idText call
        rw [← edits.2] at same
        exact ((edit_append_eq_iff begins told edits.1 expected.1).mp
          ((List.append_nil _).trans same)).1
  · intro found
    obtain ⟨rest, plain, read, noNul, gaps⟩ := found
    rw [← (written rest plain read noNul).2, gaps]

/-- In front of the values the number is written, unless there are none. -/
theorem absentValues_iff {clause : List Byte} (absent : call.includesAutoincColumn = false)
    (closed : quoting.brackets.Read clause 0 lexemes call.rawvalues) :
    call.copiedValues quoting =
        [chr ','].intercalate (call.idText :: insertValues lexemes) ++ ascii ")" ++ clause ↔
      lexemes ≠ [] := by
  have comma : ascii "," = [chr ','] := rfl
  have paren : ascii ")" = [chr ')'] := rfl
  rw [RewriteCall.copiedValues, if_neg (by simp [absent]), text_of_read closed, insertValues]
  by_cases isNil : lexemes = []
  · subst isNil
    simp [Lexeme.fieldTexts_nil, comma, paren]
  · cases fields : Lexeme.fieldTexts (chr ',') lexemes with
    | nil => exact absurd fields (fieldTexts_ne_nil lexemes)
    | cons field fields => simp [isNil, comma, List.intercalate_cons_cons]

end Values

/-! ## The logged query -/

theorem rewritten_iff_of_row {quoting : Quoting} {call : RewriteCall} {lexemes : List (Lexeme Byte)}
    {clause : List Byte} (row : SingleRow quoting call.query call.rawvalues lexemes clause) :
    call.Rewritten quoting lexemes clause ↔ call.Kept quoting lexemes := by
  have table := table_iff row.parsed
  have columns := columns_iff call
  constructor
  · intro rewritten
    have values := rewritten.values
    constructor
    · exact table.mp rewritten.table
    · intro absent
      rw [if_neg (by simp [absent])] at values
      exact ⟨columns.mp rewritten.columns absent, (absentValues_iff absent row.closed).mp values⟩
    · intro present
      rw [if_pos present] at values
      exact (values_iff present row.closed).mp values
  · intro kept
    constructor
    · exact table.mpr kept.table
    · exact columns.mpr fun absent => (kept.absent absent).1
    · cases includes : call.includesAutoincColumn with
      | false => exact (absentValues_iff includes row.closed).mpr (kept.absent includes).2
      | true => exact (values_iff includes row.closed).mpr (kept.present includes)

/-- What the trigger calls `rewriteQuery` with for an insert. -/
def insertCall (quoting : Quoting) (bothTrim : List Byte → List Byte)
    (allColumns : List (List Byte)) (autoinccolumn : List Byte) (liid : Nat)
    (query rawValues : List Byte) : RewriteCall where
  query := query
  columns := insertColumns quoting bothTrim allColumns query rawValues
  autoinccolumn := autoinccolumn
  liid := liid
  rawvalues := rawValues

/-- An insert is logged as it was, with its auto-increment value fixed, exactly if its table's name
has no space in it and the null is found. -/
theorem rewritten_iff (quoting : Quoting) (bothTrim : List Byte → List Byte)
    (allColumns : List (List Byte)) (autoinccolumn : List Byte) (liid : Nat)
    (query rawValues clause : List Byte) (lexemes : List (Lexeme Byte))
    (row : SingleRow quoting query rawValues lexemes clause) :
    (insertCall quoting bothTrim allColumns autoinccolumn liid query rawValues).Rewritten quoting
        lexemes clause ↔
      (insertCall quoting bothTrim allColumns autoinccolumn liid query rawValues).Kept quoting
        lexemes :=
  rewritten_iff_of_row row

/-- The values `null,2`. -/
def nullAndNumber : List (Lexeme Byte) := (ascii "null,2").map fun byte => ⟨0, false, [byte]⟩

theorem rewritten_nullAndNumber :
    SingleRow plainQuoting (ascii "insert into t (id,x) values (null,2)") (ascii "null,2)")
        nullAndNumber [] ∧
      ((insertCall plainQuoting (fun column => column) [] (ascii "id") 5
          (ascii "insert into t (id,x) values (null,2)") (ascii "null,2)")).Rewritten plainQuoting
          nullAndNumber [] ↔
        (insertCall plainQuoting (fun column => column) [] (ascii "id") 5
          (ascii "insert into t (id,x) values (null,2)") (ascii "null,2)")).Kept plainQuoting
          nullAndNumber) := by
  have row : SingleRow plainQuoting (ascii "insert into t (id,x) values (null,2)") (ascii "null,2)")
      nullAndNumber [] := by
    constructor
    · decide +kernel
    · exact .other rfl rfl <| .other rfl rfl <| .other rfl rfl <| .other rfl rfl <|
        .other rfl rfl <| .other rfl rfl <| .closer rfl rfl
  exact ⟨row, rewritten_iff plainQuoting _ [] (ascii "id") 5 _ _ [] _ row⟩

/-- A quoted name with a space in it is cut at the space. -/
theorem spacedName_cut :
    ¬∀ (quoting : Quoting) (bothTrim : List Byte → List Byte) (allColumns : List (List Byte))
        (autoinccolumn : List Byte) (liid : Nat) (query rawValues clause : List Byte)
        (lexemes : List (Lexeme Byte)),
      SingleRow quoting query rawValues lexemes clause →
        (insertCall quoting bothTrim allColumns autoinccolumn liid query rawValues).Rewritten
          quoting lexemes clause := by
  intro every
  have row : SingleRow plainQuoting (ascii "insert into \"my t\" (x) values (1)") (ascii "1)")
      [⟨0, false, ascii "1"⟩] [] := by
    constructor
    · decide +kernel
    · exact .other rfl rfl <| .closer rfl rfl
  have table := (every plainQuoting (fun column => column) [] (ascii "id") 5 _ _ _ _ row).table
  exact absurd table (by decide +kernel)

end SqlRelay.Replay
