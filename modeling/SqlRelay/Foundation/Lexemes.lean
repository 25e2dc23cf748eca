import Mathlib.Data.List.Basic

/-!
# Lexemes

A text is cut into lexemes: where some of its items belong together, as those of a literal or a
comment, they are one lexeme, and every other item is a lexeme of its own.
-/

namespace SqlRelay.Foundation

variable {α : Type}

/-- A way to cut a text: how many items at its head belong together, or zero. -/
abbrev Cut (α : Type) := List α → Nat

namespace Cut

variable (cut : Cut α)

/-- The lexemes of a text, given as much fuel as it has items. -/
def lexemesFrom : Nat → List α → List (List α)
  | 0, _ => []
  | _, [] => []
  | fuel + 1, item :: rest =>
      let more := cut (item :: rest) - 1
      (item :: rest.take more) :: lexemesFrom fuel (rest.drop more)

def lexemes (text : List α) : List (List α) := cut.lexemesFrom text.length text

/-- These are the lexemes of the text. -/
inductive Lexed : List (List α) → List α → Prop where
  | nil : Lexed [] []
  | cons {item : α} {front rest : List α} {others : List (List α)}
      (whole : (front ++ rest).take (cut (item :: (front ++ rest)) - 1) = front)
      (lexed : Lexed others rest) : Lexed ((item :: front) :: others) (item :: (front ++ rest))

variable {cut}

theorem lexed_lexemesFrom {fuel : Nat} {text : List α} (enough : text.length ≤ fuel) :
    cut.Lexed (cut.lexemesFrom fuel text) text := by
  induction fuel generalizing text with
  | zero =>
      cases text with
      | nil => exact Lexed.nil
      | cons item rest => cases enough
  | succ fuel ih =>
      cases text with
      | nil => exact Lexed.nil
      | cons item rest =>
          simp only [lexemesFrom]
          have split := List.take_append_drop (cut (item :: rest) - 1) rest
          have shorter : (rest.drop (cut (item :: rest) - 1)).length ≤ fuel := by
            simp only [List.length_cons, List.length_drop] at enough ⊢
            omega
          have lexed : cut.Lexed _ (item ::
              (rest.take (cut (item :: rest) - 1) ++ rest.drop (cut (item :: rest) - 1))) :=
            Lexed.cons (by rw [split]) (ih shorter)
          rw [split] at lexed
          exact lexed

theorem lexed_lexemes (text : List α) : cut.Lexed (cut.lexemes text) text :=
  lexed_lexemesFrom (Nat.le_refl _)

/-- More fuel makes no difference. -/
theorem lexemesFrom_eq_lexemes {fuel : Nat} {text : List α} (enough : text.length ≤ fuel) :
    cut.lexemesFrom fuel text = cut.lexemes text := by
  have any : ∀ least text, text.length ≤ least → ∀ fuel, text.length ≤ fuel →
      cut.lexemesFrom fuel text = cut.lexemesFrom least text := by
    intro least
    induction least with
    | zero =>
        intro text short fuel _
        rw [List.length_eq_zero_iff.mp (Nat.le_zero.mp short)]
        cases fuel with
        | zero => rfl
        | succ fuel => rfl
    | succ least ih =>
        intro text short fuel enough
        cases text with
        | nil =>
            cases fuel with
            | zero => rfl
            | succ fuel => rfl
        | cons item rest =>
            cases fuel with
            | zero => cases enough
            | succ fuel =>
                rw [List.length_cons] at short enough
                simp only [lexemesFrom]
                rw [ih _ (by rw [List.length_drop]; omega) fuel (by rw [List.length_drop]; omega)]
  exact any _ _ (Nat.le_refl _) _ enough

theorem lexemes_cons (item : α) (rest : List α) :
    cut.lexemes (item :: rest) =
      (item :: rest.take (cut (item :: rest) - 1)) ::
        cut.lexemes (rest.drop (cut (item :: rest) - 1)) := by
  have enough : (rest.drop (cut (item :: rest) - 1)).length ≤ rest.length := by
    rw [List.length_drop]
    omega
  rw [← lexemesFrom_eq_lexemes enough]
  rfl

/-- An item that nothing belongs to. -/
theorem lexemes_cons_of_zero {item : α} {rest : List α} (single : cut (item :: rest) = 0) :
    cut.lexemes (item :: rest) = [item] :: cut.lexemes rest := by
  rw [lexemes_cons, single]
  rfl

/-- Items that belong together. -/
theorem lexemes_append {front back : List α} (nonempty : front ≠ [])
    (whole : cut (front ++ back) = front.length) :
    cut.lexemes (front ++ back) = front :: cut.lexemes back := by
  cases front with
  | nil => exact absurd rfl nonempty
  | cons item front =>
      rw [List.cons_append] at whole ⊢
      rw [lexemes_cons, whole, List.length_cons, Nat.add_sub_cancel, List.take_left, List.drop_left]

theorem Lexed.flatten {lexemes : List (List α)} {text : List α}
    (lexed : cut.Lexed lexemes text) : lexemes.flatten = text := by
  induction lexed with
  | nil => rfl
  | cons whole lexed ih => rw [List.flatten_cons, ih, List.cons_append]

/-- The lexemes behind some of them are those of the text behind them. -/
theorem Lexed.append {front back : List (List α)} {text : List α}
    (lexed : cut.Lexed (front ++ back) text) : cut.Lexed back back.flatten := by
  induction front generalizing text with
  | nil =>
      rw [← lexed.flatten] at lexed
      exact lexed
  | cons first front ih =>
      cases lexed with
      | cons whole lexed => exact ih lexed

end Cut

end SqlRelay.Foundation
