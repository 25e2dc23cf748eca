import Mathlib.Algebra.BigOperators.Fin
import Mathlib.Algebra.Order.Floor.Semifield
import Mathlib.Data.List.DropRight
import Mathlib.Data.Rat.Floor
import Mathlib.Tactic.Positivity
import Mathlib.Tactic.Ring

/-!
# Positional numbers

The number that digits of one base stand for, the first digit being the most significant, and the value
of digits that go on behind the point.  Cutting a value off behind some of its places leaves the number
that the digits in front of there stand for.
-/

namespace SqlRelay.Foundation.Positional

variable {base : Nat}

/-- The number that digits stand for. -/
def number (base : Nat) (digits : List Nat) : Nat :=
  digits.foldl (fun sum digit => base * sum + digit) 0

theorem foldl_eq (base start : Nat) (digits : List Nat) :
    digits.foldl (fun sum digit => base * sum + digit) start =
      start * base ^ digits.length + number base digits := by
  induction digits generalizing start with
  | nil => simp [number]
  | cons digit digits ih =>
      rw [number, List.foldl_cons, List.foldl_cons, ih, ih (base * 0 + digit), List.length_cons, pow_succ]
      ring

@[simp] theorem number_nil (base : Nat) : number base [] = 0 := rfl

theorem number_append (base : Nat) (front rest : List Nat) :
    number base (front ++ rest) = number base front * base ^ rest.length + number base rest := by
  rw [number, List.foldl_append, foldl_eq]
  rfl

theorem number_cons (base digit : Nat) (digits : List Nat) :
    number base (digit :: digits) = digit * base ^ digits.length + number base digits := by
  rw [← List.singleton_append, number_append]
  simp [number]

theorem number_replicate_zero (base count : Nat) : number base (List.replicate count 0) = 0 := by
  induction count with
  | zero => rfl
  | succ count ih => rw [List.replicate_succ, number_cons, ih, Nat.zero_mul]

theorem number_lt {digits : List Nat} (small : ∀ digit ∈ digits, digit < base) :
    number base digits < base ^ digits.length := by
  induction digits with
  | nil => simp
  | cons digit digits ih =>
      rw [List.forall_mem_cons] at small
      have rest := ih small.2
      have first : (digit + 1) * base ^ digits.length ≤ base * base ^ digits.length :=
        Nat.mul_le_mul_right _ small.1
      rw [Nat.add_mul, Nat.one_mul] at first
      rw [number_cons, List.length_cons, pow_succ']
      omega

/-- The first digits are what is left when the others are divided off. -/
theorem number_take {digits : List Nat} (small : ∀ digit ∈ digits, digit < base) (count : Nat) :
    number base (digits.take count) = number base digits / base ^ (digits.length - count) := by
  have rest : number base (digits.drop count) < base ^ (digits.drop count).length :=
    number_lt fun digit listed => small digit (List.mem_of_mem_drop listed)
  have whole := number_append base (digits.take count) (digits.drop count)
  rw [List.length_drop] at rest whole
  rw [List.take_append_drop] at whole
  rw [whole, Nat.mul_comm, Nat.mul_add_div (Nat.zero_lt_of_lt rest), Nat.div_eq_of_lt rest,
    Nat.add_zero]

/-- Digits that come in blocks of one size are the digits of another base. -/
theorem number_flatMap {size : Nat} {blocks : List Nat} {block : Nat → List Nat}
    (sized : ∀ digit ∈ blocks, (block digit).length = size ∧ number base (block digit) = digit) :
    number base (blocks.flatMap block) = number (base ^ size) blocks ∧
      (blocks.flatMap block).length = size * blocks.length := by
  induction blocks with
  | nil => simp
  | cons digit blocks ih =>
      rw [List.forall_mem_cons] at sized
      rcases ih sized.2 with ⟨number_eq, length_eq⟩
      rw [List.flatMap_cons, number_append, number_cons, number_eq, length_eq, sized.1.2, pow_mul,
        List.length_append, length_eq, sized.1.1, List.length_cons, Nat.mul_succ]
      exact ⟨rfl, Nat.add_comm _ _⟩

/-- Digits that are taken from places in front of the first one on, where there are zeros only. -/
theorem number_shifted (base count : Nat) {digit : Int → Nat} {first : Int}
    (zero : ∀ place < 0, digit place = 0) (negative : first ≤ 0) :
    number base ((List.range count).map fun place : Nat => digit (first + place)) =
      number base ((List.range (first + count).toNat).map fun place : Nat => digit place) := by
  induction count with
  | zero =>
      have none_there : (first + (0 : Nat)).toNat = 0 := by omega
      rw [none_there]
      rfl
  | succ count ih =>
      rw [List.range_succ, List.map_append, number_append, ih, List.map_singleton]
      by_cases there : 0 ≤ first + count
      · have next : (first + (count + 1 : Nat)).toNat = (first + count).toNat + 1 := by omega
        have here : ((first + count).toNat : Int) = first + count := Int.toNat_of_nonneg there
        rw [next, List.range_succ, List.map_append, number_append, List.map_singleton, here]
      · have none_there : (first + count).toNat = 0 := by omega
        have none_next : (first + (count + 1 : Nat)).toNat = 0 := by omega
        rw [none_there, none_next, zero _ (Int.not_le.mp there)]
        simp [number]

/-! ## Values -/

/-- The value of digits of which the first is worth so many places. -/
def value (base : Nat) (weight : Int) (digits : List Nat) : ℚ :=
  ∑ d ∈ Finset.range digits.length, (digits.getD d 0 : ℚ) * (base : ℚ) ^ (weight - d)

@[simp] theorem value_nil (base : Nat) (weight : Int) : value base weight [] = 0 := rfl

theorem value_cons (base : Nat) (weight : Int) (digit : Nat) (digits : List Nat) :
    value base weight (digit :: digits) =
      digit * (base : ℚ) ^ weight + value base (weight - 1) digits := by
  rw [value, List.length_cons, Finset.sum_range_succ', add_comm]
  congr 1
  · simp
  · apply Finset.sum_congr rfl
    intro d _
    rw [List.getD_cons_succ]
    congr 2
    push_cast
    ring

theorem value_append (base : Nat) (weight : Int) (front rest : List Nat) :
    value base weight (front ++ rest) =
      value base weight front + value base (weight - front.length) rest := by
  induction front generalizing weight with
  | nil => simp
  | cons digit front ih =>
      have exponent : weight - 1 - (front.length : Int) = weight - (front.length + 1 : Nat) := by
        push_cast
        ring
      rw [List.cons_append, value_cons, value_cons, ih, List.length_cons, exponent, add_assoc]

theorem value_replicate_zero (base : Nat) (weight : Int) (count : Nat) :
    value base weight (List.replicate count 0) = 0 := by
  induction count generalizing weight with
  | zero => rfl
  | succ count ih => rw [List.replicate_succ, value_cons, ih]; simp

theorem value_eq_number (positive : 0 < base) (weight : Int) (digits : List Nat) :
    value base weight digits = number base digits * (base : ℚ) ^ (weight + 1 - digits.length) := by
  have nonzero : (base : ℚ) ≠ 0 := Nat.cast_ne_zero.mpr positive.ne'
  induction digits generalizing weight with
  | nil => simp
  | cons digit digits ih =>
      have exponent : weight - 1 + 1 - (digits.length : Int) = weight + 1 - (digits.length + 1) := by ring
      have whole : weight = digits.length + (weight + 1 - (digits.length + 1)) := by ring
      rw [value_cons, ih, number_cons, List.length_cons]
      push_cast
      rw [exponent, add_mul, mul_assoc, ← zpow_natCast, ← zpow_add₀ nonzero, ← whole]

theorem value_nonneg (base : Nat) (weight : Int) (digits : List Nat) : 0 ≤ value base weight digits :=
  Finset.sum_nonneg fun _ _ =>
    mul_nonneg (Nat.cast_nonneg _) (zpow_nonneg (Nat.cast_nonneg _) _)

theorem value_lt (positive : 0 < base) (weight : Int) {digits : List Nat}
    (small : ∀ digit ∈ digits, digit < base) :
    value base weight digits < (base : ℚ) ^ (weight + 1) := by
  have nonzero : (base : ℚ) ≠ 0 := Nat.cast_ne_zero.mpr positive.ne'
  have below : (number base digits : ℚ) < (base : ℚ) ^ (digits.length : Int) := by
    rw [zpow_natCast]
    exact_mod_cast number_lt small
  have split : weight + 1 = digits.length + (weight + 1 - digits.length) := by ring
  rw [value_eq_number positive, split, zpow_add₀ nonzero, ← split]
  exact mul_lt_mul_of_pos_right below (zpow_pos (Nat.cast_pos.mpr positive) _)

/-! ## Zeros at the ends -/

/-- The number that the first digits stand for; digits that aren't there are zero. -/
def leading (base count : Nat) (digits : List Nat) : Nat :=
  number base ((digits ++ List.replicate count 0).take count)

theorem leading_eq (base count : Nat) (digits : List Nat) :
    leading base count digits = number base ((List.range count).map fun d => digits.getD d 0) := by
  rw [leading]
  congr 1
  apply List.ext_getElem
  · simp
  · intro d inside _
    have below : d < count := by
      rw [List.length_take] at inside
      omega
    rw [List.getElem_take, List.getElem_map, List.getElem_range, List.getD_eq_getElem?_getD]
    rcases Nat.lt_or_ge d digits.length with there | behind
    · rw [List.getElem_append_left there, List.getElem?_eq_getElem there, Option.getD_some]
    · rw [List.getElem_append_right behind, List.getElem_replicate, List.getElem?_eq_none behind,
        Option.getD_none]

/-- What is left of a value that is cut off behind so many places. -/
theorem floor_value (positive : 1 < base) (weight : Int) {digits : List Nat}
    (small : ∀ digit ∈ digits, digit < base) (places : Nat) :
    ⌊value base weight digits * (base : ℚ) ^ places⌋₊ =
      leading base (weight + 1 + places).toNat digits := by
  have positive' : (0 : ℚ) < base := Nat.cast_pos.mpr (Nat.zero_lt_of_lt positive)
  have atLeastOne : (1 : ℚ) ≤ base := by exact_mod_cast positive.le
  generalize count_eq : (weight + 1 + places).toNat = count
  have padded : value base weight digits = value base weight (digits ++ List.replicate count 0) := by
    rw [value_append, value_replicate_zero, add_zero]
  have front : ((digits ++ List.replicate count 0).take count).length = count := by simp
  have smallRest : ∀ digit ∈ (digits ++ List.replicate count 0).drop count, digit < base := by
    intro digit listed
    rcases List.mem_append.mp (List.mem_of_mem_drop listed) with inside | zero
    · exact small digit inside
    · rw [(List.mem_replicate.mp zero).2]
      exact Nat.zero_lt_of_lt positive
  have split := value_append base weight ((digits ++ List.replicate count 0).take count)
    ((digits ++ List.replicate count 0).drop count)
  rw [List.take_append_drop, front, ← padded,
    value_eq_number (Nat.zero_lt_of_lt positive) weight (List.take _ _), front] at split
  -- All of the places are in the front, unless even the first digit is behind them.
  have whole : (number base ((digits ++ List.replicate count 0).take count) : ℚ) *
      (base : ℚ) ^ (weight + 1 - count) * (base : ℚ) ^ places =
        number base ((digits ++ List.replicate count 0).take count) := by
    rcases Nat.eq_zero_or_pos count with none_there | some_there
    · rw [none_there, List.take_zero, number_nil]
      simp
    · have exponent : weight + 1 - count + places = 0 := by omega
      rw [mul_assoc, ← zpow_natCast, ← zpow_add₀ positive'.ne', exponent, zpow_zero, mul_one]
  have below : value base (weight - count) ((digits ++ List.replicate count 0).drop count) *
      (base : ℚ) ^ places < 1 := by
    have bound := mul_lt_mul_of_pos_right
      (value_lt (Nat.zero_lt_of_lt positive) (weight - count) smallRest) (pow_pos positive' places)
    rw [← zpow_natCast, ← zpow_add₀ positive'.ne', zpow_natCast] at bound
    apply lt_of_lt_of_le bound
    exact zpow_le_one_of_nonpos₀ atLeastOne (by omega)
  have above := mul_nonneg (value_nonneg base (weight - count)
    ((digits ++ List.replicate count 0).drop count)) (pow_pos positive' places).le
  rw [split, add_mul, whole, leading, add_comm, Nat.floor_add_natCast above,
    Nat.floor_eq_zero.mpr below, Nat.zero_add]

end SqlRelay.Foundation.Positional
