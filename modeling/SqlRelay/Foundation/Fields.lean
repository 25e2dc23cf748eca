import Mathlib.Data.List.Basic
import SqlRelay.Foundation.Parens

/-!
# Fields in brackets

What stands in brackets reads as lexemes: symbols, and literals as a whole, each with the number of
brackets that are open around it.  Its fields are what lies between the separators around which no
inner bracket is open.
-/

namespace SqlRelay.Foundation

universe u v

variable {α : Type u}

namespace Brackets

/-- A symbol or a literal. -/
structure Lexeme (α : Type u) where
  depth : Nat
  literal : Bool
  symbols : List α
  deriving DecidableEq, Repr

/-- The symbols of lexemes. -/
def Lexeme.texts (lexemes : List (Lexeme α)) : List α := lexemes.flatMap Lexeme.symbols

/-- A symbol that is no literal, with no inner bracket open around it. -/
def Lexeme.outer (symbol : α) : Lexeme α := ⟨0, false, [symbol]⟩

theorem Lexeme.texts_intercalate (separator : α) (fields : List (List (Lexeme α))) :
    texts ([outer separator].intercalate fields) =
      [separator].intercalate (fields.map texts) := by
  induction fields with
  | nil => rfl
  | cons field fields ih =>
      cases fields with
      | nil => simp
      | cons next fields =>
          rw [List.intercalate_cons_cons, List.map_cons, List.map_cons, List.intercalate_cons_cons,
            ← List.map_cons, ← ih]
          simp [texts, outer]

variable (brackets : Brackets α)

/-- The text reads as the lexemes, the bracket that closes all the others, and the rest. -/
inductive Read (rest : List α) : Nat → List (Lexeme α) → List α → Prop where
  | closer {symbol : α} (literal : brackets.literal (symbol :: rest) = 0)
      (closes : brackets.closes symbol = true) : Read rest 0 [] (symbol :: rest)
  | inner {symbol : α} {text : List α} {depth : Nat} {lexemes : List (Lexeme α)}
      (literal : brackets.literal (symbol :: text) = 0)
      (closes : brackets.closes symbol = true) (later : Read rest depth lexemes text) :
      Read rest (depth + 1) (⟨depth + 1, false, [symbol]⟩ :: lexemes) (symbol :: text)
  | other {symbol : α} {text : List α} {depth : Nat} {lexemes : List (Lexeme α)}
      (literal : brackets.literal (symbol :: text) = 0)
      (closes : brackets.closes symbol = false)
      (later : Read rest (if brackets.opens symbol then depth + 1 else depth) lexemes text) :
      Read rest depth (⟨depth, false, [symbol]⟩ :: lexemes) (symbol :: text)
  | literal {symbol : α} {text : List α} {depth skipped : Nat} {lexemes : List (Lexeme α)}
      (literal : brackets.literal (symbol :: text) = skipped + 1)
      (later : Read rest depth lexemes (text.drop skipped)) :
      Read rest depth (⟨depth, true, symbol :: text.take skipped⟩ :: lexemes) (symbol :: text)

variable {brackets} {rest text : List α} {depth fuel : Nat} {lexemes : List (Lexeme α)}

/-- Whatever is closed can be read. -/
theorem exists_read_of_close {inside : List α}
    (found : brackets.close id fuel depth text = some (inside, rest)) :
    ∃ lexemes, brackets.Read rest depth lexemes text := by
  induction fuel generalizing depth text inside with
  | zero => simp [close] at found
  | succ fuel ih =>
      cases text with
      | nil => simp [close] at found
      | cons symbol text =>
          cases literal : brackets.literal (symbol :: text) with
          | succ skipped =>
              rw [close_literal literal] at found
              obtain ⟨within, deeper, _⟩ := map_passed_eq_some found
              obtain ⟨lexemes, later⟩ := ih deeper
              exact ⟨_, Read.literal literal later⟩
          | zero =>
              cases closes : brackets.closes symbol with
              | true =>
                  cases depth with
                  | zero =>
                      rw [close_outer literal closes] at found
                      cases found
                      exact ⟨[], Read.closer literal closes⟩
                  | succ depth =>
                      rw [close_inner literal closes] at found
                      obtain ⟨within, deeper, _⟩ := map_passed_eq_some found
                      obtain ⟨lexemes, later⟩ := ih deeper
                      exact ⟨_, Read.inner literal closes later⟩
              | false =>
                  rw [close_other literal closes] at found
                  obtain ⟨within, deeper, _⟩ := map_passed_eq_some found
                  obtain ⟨lexemes, later⟩ := ih deeper
                  exact ⟨_, Read.other literal closes later⟩

namespace Read

/-- What is read is the text. -/
theorem text_eq (read : brackets.Read rest depth lexemes text) :
    ∃ closer, brackets.closes closer = true ∧ text = Lexeme.texts lexemes ++ closer :: rest := by
  induction read with
  | @closer symbol _ closes => exact ⟨symbol, closes, rfl⟩
  | inner _ _ _ ih =>
      obtain ⟨closer, closes, rfl⟩ := ih
      exact ⟨closer, closes, rfl⟩
  | other _ _ _ ih =>
      obtain ⟨closer, closes, rfl⟩ := ih
      exact ⟨closer, closes, rfl⟩
  | @literal symbol text _ skipped lexemes _ _ ih =>
      obtain ⟨closer, closes, same⟩ := ih
      refine ⟨closer, closes, ?_⟩
      rw [Lexeme.texts, List.flatMap_cons, List.append_assoc, ← Lexeme.texts, ← same,
        List.cons_append, List.take_append_drop]

end Read

/-! ## Fields -/

variable [DecidableEq α]

/-- The lexemes of the fields. -/
def Lexeme.fields (separator : α) (lexemes : List (Lexeme α)) : List (List (Lexeme α)) :=
  lexemes.splitOn (Lexeme.outer separator)

namespace Lexeme

variable (separator : α)

/-- With separators between them the fields are all that was read. -/
theorem intercalate_fields (lexemes : List (Lexeme α)) :
    [outer separator].intercalate (fields separator lexemes) = lexemes :=
  List.intercalate_splitOn _

theorem fields_ne_nil (lexemes : List (Lexeme α)) : fields separator lexemes ≠ [] :=
  List.splitOn_ne_nil _ _

theorem fields_cons (lexeme : Lexeme α) (lexemes : List (Lexeme α)) :
    fields separator (lexeme :: lexemes) =
      if lexeme = outer separator then [] :: fields separator lexemes
      else (fields separator lexemes).modifyHead (lexeme :: ·) := by
  rw [fields, List.splitOn_cons_eq_if_modifyHead]
  simp only [beq_iff_eq, fields]

/-- No field has a separator around which no inner bracket is open. -/
theorem outer_not_mem_fields (lexemes : List (Lexeme α)) :
    ∀ field ∈ fields separator lexemes, outer separator ∉ field := by
  induction lexemes with
  | nil => simp [fields]
  | cons lexeme lexemes ih =>
      rw [fields_cons]
      split
      case isTrue => simpa using ih
      case isFalse differs =>
        cases split : fields separator lexemes with
        | nil => exact absurd split (fields_ne_nil separator lexemes)
        | cons field fields =>
            rw [split, List.forall_mem_cons] at ih
            rw [List.modifyHead_cons, List.forall_mem_cons]
            constructor
            · simpa [ih.1] using fun same => differs same.symm
            · exact ih.2

/-- The texts of the fields. -/
def fieldTexts (lexemes : List (Lexeme α)) : List (List α) := (fields separator lexemes).map texts

theorem fieldTexts_nil : fieldTexts separator ([] : List (Lexeme α)) = [[]] := rfl

theorem fieldTexts_outer (lexemes : List (Lexeme α)) :
    fieldTexts separator (outer separator :: lexemes) = [] :: fieldTexts separator lexemes := by
  rw [fieldTexts, fields_cons, if_pos rfl]
  rfl

theorem fieldTexts_other {lexeme : Lexeme α} (differs : lexeme ≠ outer separator)
    (lexemes : List (Lexeme α)) :
    fieldTexts separator (lexeme :: lexemes) =
      (fieldTexts separator lexemes).modifyHead (lexeme.symbols ++ ·) := by
  rw [fieldTexts, fields_cons, if_neg differs, fieldTexts]
  cases fields separator lexemes with
  | nil => rfl
  | cons field fields => rfl

/-- With separators between them the texts of the fields are the text that was read. -/
theorem intercalate_fieldTexts (lexemes : List (Lexeme α)) :
    [separator].intercalate (fieldTexts separator lexemes) = texts lexemes := by
  rw [fieldTexts, ← texts_intercalate, intercalate_fields]

end Lexeme

end Brackets

end SqlRelay.Foundation
