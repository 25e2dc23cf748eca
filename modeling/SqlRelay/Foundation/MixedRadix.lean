import Mathlib.Algebra.BigOperators.Group.List.Basic
import Mathlib.Algebra.Order.Ring.Nat

/-!
# Mixed radices

A number is written with one digit for each radix, the last digit for the units.  The digits are taken
off from the last one on, and put together from the first one on.
-/

namespace SqlRelay.Foundation.MixedRadix

/-- The digits of a number, and what is left of it. -/
def digits (radices : List Nat) (number : Nat) : List Nat × Nat :=
  radices.foldr (fun radix taken => (taken.2 % radix :: taken.1, taken.2 / radix)) ([], number)

/-- The number with these digits, after those that make up `start`. -/
def number : Nat → List Nat → List Nat → Nat
  | start, radix :: radices, digit :: digits => number (start * radix + digit) radices digits
  | start, _, _ => start

variable {radices : List Nat}

@[simp] theorem digits_cons (radix : Nat) (radices : List Nat) (value : Nat) :
    digits (radix :: radices) value =
      ((digits radices value).2 % radix :: (digits radices value).1,
        (digits radices value).2 / radix) :=
  rfl

theorem digits_rest (value : Nat) : (digits radices value).2 = value / radices.prod := by
  induction radices with
  | nil => simp [digits]
  | cons radix radices ih => rw [digits_cons, ih, List.prod_cons, Nat.mul_comm, Nat.div_div_eq_div_mul]

/-- All of a number is in its digits if it is small enough. -/
theorem digits_rest_eq_zero {value : Nat} (small : value < radices.prod) :
    (digits radices value).2 = 0 := by
  rw [digits_rest, Nat.div_eq_of_lt small]

theorem digits_lt (value : Nat) (positive : ∀ radix ∈ radices, 0 < radix) :
    List.Forall₂ (fun digit radix => digit < radix) (digits radices value).1 radices := by
  induction radices with
  | nil => exact List.Forall₂.nil
  | cons radix radices ih =>
      constructor
      · exact Nat.mod_lt _ (positive radix List.mem_cons_self)
      · exact ih fun other member => positive other (List.mem_cons_of_mem _ member)

theorem number_digits (value : Nat) :
    number (digits radices value).2 radices (digits radices value).1 = value := by
  induction radices with
  | nil => rfl
  | cons radix radices ih =>
      rw [digits_cons, number, Nat.mul_comm, Nat.div_add_mod]
      exact ih

theorem digits_number {values : List Nat}
    (small : List.Forall₂ (fun digit radix => digit < radix) values radices) (start : Nat) :
    digits radices (number start radices values) = (values, start) := by
  induction small generalizing start with
  | nil => rfl
  | cons less _ ih =>
      rw [number, digits_cons, ih, Nat.mul_comm, Nat.mul_add_mod, Nat.mod_eq_of_lt less,
        Nat.mul_add_div (Nat.zero_lt_of_lt less), Nat.div_eq_of_lt less, Nat.add_zero]

theorem number_lt {values : List Nat}
    (small : List.Forall₂ (fun digit radix => digit < radix) values radices) (start : Nat) :
    number start radices values < (start + 1) * radices.prod := by
  induction small generalizing start with
  | nil => simp [number]
  | @cons digit radix digits radices less _ ih =>
      have more : start * radix + digit + 1 ≤ (start + 1) * radix := by
        rw [Nat.add_mul, Nat.one_mul]
        omega
      rw [number, List.prod_cons, ← Nat.mul_assoc]
      exact Nat.lt_of_lt_of_le (ih _) (Nat.mul_le_mul_right _ more)

end SqlRelay.Foundation.MixedRadix
