import Mathlib.Data.Nat.Basic

/-!
# Closing a bracket

A scanner goes over a text, passes over literals, counts the brackets that open, and stops at
the one that closes what was open before.  The counter may be narrower than the text is deep; it
then wraps, and the scanner stops too early.
-/

namespace SqlRelay.Foundation

universe u

variable {α : Type u}

/-- What a scanner takes for brackets and literals; `literal` is the length of the literal that a
text starts with, 0 if it starts with none. -/
structure Brackets (α : Type u) where
  opens : α → Bool
  closes : α → Bool
  literal : List α → Nat

namespace Brackets

/-- Put what was passed in front of what is found later. -/
def passed (front : List α) (found : List α × List α) : List α × List α :=
  (front ++ found.1, found.2)

variable (brackets : Brackets α)

/-- The text up to and including the symbol that closes, and the text after it.  `count` is what
the counter makes of its next value. -/
def close (count : Nat → Nat) : Nat → Nat → List α → Option (List α × List α)
  | 0, _, _ => none
  | _ + 1, _, [] => none
  | fuel + 1, depth, symbol :: rest =>
      match brackets.literal (symbol :: rest) with
      | skipped + 1 =>
          (close count fuel depth (rest.drop skipped)).map (passed (symbol :: rest.take skipped))
      | 0 =>
          if brackets.closes symbol then
            match depth with
            | 0 => some ([symbol], rest)
            | depth + 1 => (close count fuel depth rest).map (passed [symbol])
          else
            (close count fuel (if brackets.opens symbol then count (depth + 1) else depth) rest).map
              (passed [symbol])

/-- The largest value that the counter takes before that. -/
def nesting : Nat → Nat → List α → Nat
  | 0, _, _ => 0
  | _ + 1, _, [] => 0
  | fuel + 1, depth, symbol :: rest =>
      match brackets.literal (symbol :: rest) with
      | skipped + 1 => nesting fuel depth (rest.drop skipped)
      | 0 =>
          if brackets.closes symbol then
            match depth with
            | 0 => 0
            | depth + 1 => nesting fuel depth rest
          else if brackets.opens symbol then max (depth + 1) (nesting fuel (depth + 1) rest)
          else nesting fuel depth rest

variable {brackets : Brackets α} {count : Nat → Nat} {fuel depth skipped : Nat}
variable {symbol : α} {rest text inside : List α}

theorem close_literal (literal : brackets.literal (symbol :: rest) = skipped + 1) :
    brackets.close count (fuel + 1) depth (symbol :: rest) =
      (brackets.close count fuel depth (rest.drop skipped)).map
        (passed (symbol :: rest.take skipped)) := by
  simp [close, literal]

theorem close_outer (literal : brackets.literal (symbol :: rest) = 0)
    (closes : brackets.closes symbol = true) :
    brackets.close count (fuel + 1) 0 (symbol :: rest) = some ([symbol], rest) := by
  simp [close, literal, closes]

theorem close_inner (literal : brackets.literal (symbol :: rest) = 0)
    (closes : brackets.closes symbol = true) :
    brackets.close count (fuel + 1) (depth + 1) (symbol :: rest) =
      (brackets.close count fuel depth rest).map (passed [symbol]) := by
  simp [close, literal, closes]

theorem close_other (literal : brackets.literal (symbol :: rest) = 0)
    (closes : brackets.closes symbol = false) :
    brackets.close count (fuel + 1) depth (symbol :: rest) =
      (brackets.close count fuel (if brackets.opens symbol then count (depth + 1) else depth)
        rest).map (passed [symbol]) := by
  simp [close, literal, closes]

theorem map_passed_eq_some {front : List α} {found : Option (List α × List α)}
    (some : found.map (passed front) = some (inside, rest)) :
    ∃ within, found = .some (within, rest) ∧ inside = front ++ within := by
  obtain ⟨⟨within, after⟩, found, same⟩ := Option.map_eq_some_iff.mp some
  cases same
  exact ⟨within, found, rfl⟩

theorem map_passed_append_iff {front within : List α} {found : Option (List α × List α)} :
    found.map (passed front) = some (front ++ within, rest) ↔ found = some (within, rest) := by
  cases found with
  | none => simp
  | some found => simp [passed, Prod.ext_iff]

theorem map_passed_shorter (front : List α) {within : List α} {found : Option (List α × List α)}
    (shorter : ∃ early after, found = some (early, after) ∧ early.length < within.length) :
    ∃ early after, found.map (passed front) = some (early, after) ∧
      early.length < (front ++ within).length := by
  obtain ⟨early, after, rfl, shorter⟩ := shorter
  exact ⟨front ++ early, after, rfl, by simpa using shorter⟩

theorem nesting_literal (literal : brackets.literal (symbol :: rest) = skipped + 1) :
    brackets.nesting (fuel + 1) depth (symbol :: rest) =
      brackets.nesting fuel depth (rest.drop skipped) := by
  simp [nesting, literal]

theorem nesting_inner (literal : brackets.literal (symbol :: rest) = 0)
    (closes : brackets.closes symbol = true) :
    brackets.nesting (fuel + 1) (depth + 1) (symbol :: rest) = brackets.nesting fuel depth rest := by
  simp [nesting, literal, closes]

theorem nesting_opens (literal : brackets.literal (symbol :: rest) = 0)
    (closes : brackets.closes symbol = false) (opens : brackets.opens symbol = true) :
    brackets.nesting (fuel + 1) depth (symbol :: rest) =
      max (depth + 1) (brackets.nesting fuel (depth + 1) rest) := by
  simp [nesting, literal, closes, opens]

theorem nesting_other (literal : brackets.literal (symbol :: rest) = 0)
    (closes : brackets.closes symbol = false) (opens : brackets.opens symbol = false) :
    brackets.nesting (fuel + 1) depth (symbol :: rest) = brackets.nesting fuel depth rest := by
  simp [nesting, literal, closes, opens]

/-- Nothing of the text is lost. -/
theorem close_append (found : brackets.close count fuel depth text = some (inside, rest)) :
    inside ++ rest = text := by
  induction fuel generalizing depth text inside with
  | zero => simp [close] at found
  | succ fuel ih =>
      cases text with
      | nil => simp [close] at found
      | cons symbol later =>
          cases literal : brackets.literal (symbol :: later) with
          | succ skipped =>
              rw [close_literal literal] at found
              obtain ⟨within, deeper, rfl⟩ := map_passed_eq_some found
              rw [List.append_assoc, ih deeper]
              simp
          | zero =>
              cases closes : brackets.closes symbol with
              | true =>
                  cases depth with
                  | zero =>
                      rw [close_outer literal closes] at found
                      cases found
                      rfl
                  | succ depth =>
                      rw [close_inner literal closes] at found
                      obtain ⟨within, deeper, rfl⟩ := map_passed_eq_some found
                      rw [List.append_assoc, ih deeper]
                      rfl
              | false =>
                  rw [close_other literal closes] at found
                  obtain ⟨within, deeper, rfl⟩ := map_passed_eq_some found
                  rw [List.append_assoc, ih deeper]
                  rfl

theorem close_length_pos (found : brackets.close count fuel depth text = some (inside, rest)) :
    0 < inside.length := by
  cases fuel with
  | zero => simp [close] at found
  | succ fuel =>
      cases text with
      | nil => simp [close] at found
      | cons symbol after =>
          cases literal : brackets.literal (symbol :: after) with
          | succ skipped =>
              rw [close_literal literal] at found
              obtain ⟨within, _, rfl⟩ := map_passed_eq_some found
              simp
          | zero =>
              cases closes : brackets.closes symbol with
              | true =>
                  cases depth with
                  | zero =>
                      rw [close_outer literal closes] at found
                      cases found
                      simp
                  | succ depth =>
                      rw [close_inner literal closes] at found
                      obtain ⟨within, _, rfl⟩ := map_passed_eq_some found
                      simp
              | false =>
                  rw [close_other literal closes] at found
                  obtain ⟨within, _, rfl⟩ := map_passed_eq_some found
                  simp

/-- Two scanners that see the same brackets, and the same literals in this text, find the same
bracket. -/
theorem close_congr {first second : Brackets α} (opens : first.opens = second.opens)
    (closes : first.closes = second.closes)
    (literals : ∀ suffix, suffix <:+ text → first.literal suffix = second.literal suffix) :
    first.close count fuel depth text = second.close count fuel depth text := by
  induction fuel generalizing depth text with
  | zero => rfl
  | succ fuel ih =>
      cases text with
      | nil => rfl
      | cons symbol rest =>
          have within : ∀ {later}, later <:+ rest → ∀ suffix, suffix <:+ later →
              first.literal suffix = second.literal suffix := by
            intro later tail suffix inside
            exact literals suffix ((inside.trans tail).trans (List.suffix_cons symbol rest))
          have same := literals _ List.suffix_rfl
          simp only [close, same, opens, closes, ih (within List.suffix_rfl)]
          cases second.literal (symbol :: rest) with
          | zero => rfl
          | succ skipped =>
              exact congrArg (Option.map (passed (symbol :: rest.take skipped)))
                (ih (within (List.drop_suffix skipped rest)))

/-- A counter that has wrapped closes too early. -/
theorem close_early {width stored turns : Nat} (small : stored < width)
    (found : brackets.close id fuel (stored + width * (turns + 1)) text = some (inside, rest)) :
    ∃ early after, brackets.close (· % width) fuel stored text = some (early, after) ∧
      early.length < inside.length := by
  induction fuel generalizing stored turns text inside with
  | zero => simp [close] at found
  | succ fuel ih =>
      cases text with
      | nil => simp [close] at found
      | cons symbol after =>
          cases literal : brackets.literal (symbol :: after) with
          | succ skipped =>
              rw [close_literal literal] at found ⊢
              obtain ⟨within, deeper, rfl⟩ := map_passed_eq_some found
              exact map_passed_shorter _ (ih small deeper)
          | zero =>
              cases closes : brackets.closes symbol with
              | true =>
                  cases stored with
                  | zero =>
                      have positive : 0 + width * (turns + 1) ≠ 0 := by
                        rw [Nat.zero_add]
                        exact Nat.ne_of_gt (Nat.mul_pos small (Nat.succ_pos turns))
                      obtain ⟨depth, same⟩ := Nat.exists_eq_succ_of_ne_zero positive
                      rw [same, close_inner literal closes] at found
                      obtain ⟨within, deeper, rfl⟩ := map_passed_eq_some found
                      rw [close_outer literal closes]
                      exact ⟨[symbol], after, rfl, by simpa using close_length_pos deeper⟩
                  | succ stored =>
                      rw [Nat.add_right_comm, close_inner literal closes] at found
                      rw [close_inner literal closes]
                      obtain ⟨within, deeper, rfl⟩ := map_passed_eq_some found
                      exact map_passed_shorter _ (ih (Nat.lt_of_succ_lt small) deeper)
              | false =>
                  rw [close_other literal closes] at found ⊢
                  obtain ⟨within, deeper, rfl⟩ := map_passed_eq_some found
                  apply map_passed_shorter
                  cases opens : brackets.opens symbol with
                  | false =>
                      rw [opens] at deeper
                      exact ih small deeper
                  | true =>
                      rw [opens, if_pos rfl, id_eq, Nat.add_right_comm] at deeper
                      rw [if_pos rfl]
                      by_cases wraps : stored + 1 < width
                      · rw [Nat.mod_eq_of_lt wraps]
                        exact ih wraps deeper
                      · have full : stored + 1 = width := by omega
                        have again : width + width * (turns + 1) = 0 + width * (turns + 1 + 1) := by
                          rw [Nat.zero_add, Nat.mul_succ width (turns + 1), Nat.add_comm]
                        rw [full, again] at deeper
                        rw [full, Nat.mod_self]
                        exact ih (Nat.zero_lt_of_lt small) deeper

/-- The narrow counter finds the same bracket exactly if it never wraps. -/
theorem close_wrapped_iff {width : Nat} (small : depth < width)
    (found : brackets.close id fuel depth text = some (inside, rest)) :
    brackets.close (· % width) fuel depth text = some (inside, rest) ↔
      brackets.nesting fuel depth text < width := by
  induction fuel generalizing depth text inside with
  | zero => simp [close] at found
  | succ fuel ih =>
      cases text with
      | nil => simp [close] at found
      | cons symbol after =>
          cases literal : brackets.literal (symbol :: after) with
          | succ skipped =>
              rw [close_literal literal] at found ⊢
              obtain ⟨within, deeper, rfl⟩ := map_passed_eq_some found
              rw [map_passed_append_iff, nesting_literal literal]
              exact ih small deeper
          | zero =>
              cases closes : brackets.closes symbol with
              | true =>
                  cases depth with
                  | zero =>
                      rw [close_outer literal closes] at found ⊢
                      simp [found, nesting, literal, closes, small]
                  | succ depth =>
                      rw [close_inner literal closes] at found ⊢
                      obtain ⟨within, deeper, rfl⟩ := map_passed_eq_some found
                      rw [map_passed_append_iff, nesting_inner literal closes]
                      exact ih (Nat.lt_of_succ_lt small) deeper
              | false =>
                  rw [close_other literal closes] at found ⊢
                  obtain ⟨within, deeper, rfl⟩ := map_passed_eq_some found
                  rw [map_passed_append_iff]
                  cases opens : brackets.opens symbol with
                  | false =>
                      rw [opens] at deeper
                      rw [nesting_other literal closes opens]
                      exact ih small deeper
                  | true =>
                      rw [opens, if_pos rfl, id_eq] at deeper
                      rw [if_pos rfl, nesting_opens literal closes opens, Nat.max_lt]
                      by_cases wraps : depth + 1 < width
                      · rw [Nat.mod_eq_of_lt wraps, and_iff_right wraps]
                        exact ih wraps deeper
                      · have full : depth + 1 = width := by omega
                        have real : width = 0 + width * (0 + 1) := by omega
                        rw [full, real] at deeper
                        obtain ⟨early, later, stops, shorter⟩ :=
                          close_early (Nat.zero_lt_of_lt small) deeper
                        rw [full, Nat.mod_self, stops]
                        apply iff_of_false
                        · intro same
                          cases same
                          exact absurd shorter (Nat.lt_irrefl _)
                        · exact fun both => Nat.lt_irrefl _ both.1

end Brackets

end SqlRelay.Foundation
