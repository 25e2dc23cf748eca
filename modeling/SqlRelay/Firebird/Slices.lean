import SqlRelay.Firebird.Sdl
import SqlRelay.Foundation.MixedRadix

/-!
# The elements of a slice

A slice of so many dimensions is counted through row by row.  Bounds are 32-bit numbers, of which the
difference is taken before it is widened.
-/

namespace SqlRelay.Firebird

open SqlRelay.Foundation

/-! ## The source -/

/-- `(uint64_t)(upper-lower)+1` -/
def dimcount (lower upper : Int32) : UInt64 := (upper - lower).toInt64.toUInt64 + 1

/-- `(uint64_t)-1` -/
def maxCount : UInt64 := 0 - 1

/-- The loop of `getElementCount`. -/
def elementCount : UInt64 → List Bound → UInt64
  | count, [] => count
  | count, bound :: bounds =>
      if bound.upper < bound.lower then 0
      else if dimcount bound.lower bound.upper ≠ 0 ∧
          maxCount / dimcount bound.lower bound.upper < count then 0
      else elementCount (count * dimcount bound.lower bound.upper) bounds

def getElementCount (slice : Slice) : UInt64 :=
  if slice.bounds.length = 0 then 0 else elementCount 1 slice.bounds

/-- The loop of `getSubscripts`, from the last dimension on, with the remainder. -/
def subscriptsOf (bounds : List Bound) (index : UInt64) : List Int32 × UInt64 :=
  bounds.foldr (fun bound taken =>
    ((bound.lower + (taken.2 % dimcount bound.lower bound.upper).toUInt32.toInt32) :: taken.1,
      taken.2 / dimcount bound.lower bound.upper)) ([], index)

def getSubscripts (slice : Slice) (index : UInt64) : Option (List Int32) :=
  if getElementCount slice ≤ index then none else some (subscriptsOf slice.bounds index).1

/-- The loop of `getArrayIndex`; the arrays have an element for each dimension. -/
def arrayIndex : Nat → UInt64 → List Int32 → List Int32 → List Int32 → Option UInt64
  | 0, result, _, _, _ => some result
  | dimensions + 1, result, subscript :: subscripts, lower :: arraylower, upper :: arrayupper =>
      if upper < lower ∨ subscript < lower ∨ upper < subscript then none
      else arrayIndex dimensions
        (result * dimcount lower upper + (subscript - lower).toInt64.toUInt64)
        subscripts arraylower arrayupper
  | _, _, _, _, _ => none

def getArrayIndex (slice : Slice) (subscripts arraylower arrayupper : List Int32) : Option UInt64 :=
  if slice.bounds.length = 0 then none
  else arrayIndex slice.bounds.length 0 subscripts arraylower arrayupper

/-! ## What is meant -/

namespace Bound

/-- How many subscripts there are. -/
def width (bound : Bound) : Nat := (bound.upper.toInt - bound.lower.toInt + 1).toNat

def Contains (bound : Bound) (subscript : Int32) : Prop :=
  bound.lower ≤ subscript ∧ subscript ≤ bound.upper

/-- A range without a subscript. -/
def Inverted (bound : Bound) : Prop := bound.upper < bound.lower

end Bound

namespace Slice

def widths (slice : Slice) : List Nat := slice.bounds.map Bound.width

def lowerBounds (slice : Slice) : List Int32 := slice.bounds.map Bound.lower

def upperBounds (slice : Slice) : List Int32 := slice.bounds.map Bound.upper

/-- One subscript for each dimension, within its bounds. -/
def Contains (slice : Slice) (subscripts : List Int32) : Prop :=
  List.Forall₂ Bound.Contains slice.bounds subscripts

end Slice

/-- The elements are counted, each index has its own subscripts, and these have that index. -/
structure Indexes (slice : Slice) : Prop where
  count : slice.widths.prod < 2 ^ 64 → (getElementCount slice).toNat = slice.widths.prod
  subscripts : ∀ index < getElementCount slice, ∃ subscripts,
    getSubscripts slice index = some subscripts ∧ slice.Contains subscripts ∧
      getArrayIndex slice subscripts slice.lowerBounds slice.upperBounds = some index
  distinct : ∀ first < getElementCount slice, ∀ second < getElementCount slice,
    getSubscripts slice first = getSubscripts slice second → first = second
  onto : slice.widths.prod < 2 ^ 64 → ∀ subscripts, slice.Contains subscripts →
    ∃ index < getElementCount slice, getSubscripts slice index = some subscripts

/-- There is no element, there are too many of them, or no dimension has more than `2^31`. -/
def Countable (slice : Slice) : Prop :=
  (∃ bound ∈ slice.bounds, bound.Inverted) ∨ 2 ^ 64 ≤ slice.widths.prod ∨
    ∀ bound ∈ slice.bounds, bound.width ≤ 2 ^ 31

/-! ## One dimension -/

section Dimensions

variable {bound : Bound} {bounds : List Bound}

theorem Bound.inverted_iff : bound.Inverted ↔ bound.width = 0 := by
  rw [Bound.Inverted, Int32.lt_iff_toInt_lt, Bound.width]
  omega

theorem Bound.width_le (bound : Bound) : bound.width ≤ 2 ^ 32 := by
  have high := bound.upper.toInt_lt
  have low := bound.lower.le_toInt
  rw [Bound.width]
  omega

theorem toNat_widened (value : Int32) :
    (value.toInt64.toUInt64.toNat : Int) = value.toInt % 2 ^ 64 := by
  have small := value.toInt64.toUInt64.toNat_lt
  have same : value.toInt64.toInt = value.toInt := Int32.toInt_toInt64 value
  have signed : value.toInt64.toInt = if 2 * value.toInt64.toUInt64.toNat < 2 ^ 64
      then (value.toInt64.toUInt64.toNat : Int) else value.toInt64.toUInt64.toNat - (2 ^ 64 : Nat) :=
    BitVec.toInt_eq_toNat_cond value.toInt64.toBitVec
  rw [← same, signed]
  split <;> omega

/-- The difference of the bounds, in 32 bits: it is negative if there are more than `2^31`
subscripts. -/
theorem toInt_sub_bounds (proper : ¬bound.Inverted) :
    (bound.upper - bound.lower).toInt =
      if bound.width ≤ 2 ^ 31 then (bound.width : Int) - 1 else (bound.width : Int) - 1 - 2 ^ 32 := by
  have high := bound.upper.toInt_lt
  have low := bound.lower.le_toInt
  have lowHigh := bound.lower.toInt_lt
  have highLow := bound.upper.le_toInt
  rw [Bound.inverted_iff] at proper
  have width : (bound.width : Int) = bound.upper.toInt - bound.lower.toInt + 1 := by
    rw [Bound.width] at proper ⊢
    omega
  rw [Int32.toInt_sub, Int.bmod_def]
  split
  all_goals split
  all_goals omega

theorem toNat_dimcount (proper : ¬bound.Inverted) :
    (dimcount bound.lower bound.upper).toNat =
      if bound.width ≤ 2 ^ 31 then bound.width else (2 ^ 64 - 2 ^ 32 + bound.width) % 2 ^ 64 := by
  have widened := toNat_widened (bound.upper - bound.lower)
  have most := bound.width_le
  have some_width := Bound.inverted_iff.not.mp proper
  have one : (1 : UInt64).toNat = 1 := rfl
  rw [dimcount, UInt64.toNat_add, one]
  rw [toInt_sub_bounds proper] at widened
  split
  case isTrue narrow =>
    rw [if_pos narrow] at widened
    omega
  case isFalse wide =>
    rw [if_neg wide] at widened
    omega

end Dimensions

/-! ## How many elements there are -/

section Counts

variable {bound : Bound} {bounds : List Bound} {count : UInt64}

/-- How many elements these bounds make. -/
def elements (bounds : List Bound) : Nat := (bounds.map Bound.width).prod

@[simp] theorem elements_nil : elements [] = 1 := rfl

@[simp] theorem elements_cons (bound : Bound) (bounds : List Bound) :
    elements (bound :: bounds) = bound.width * elements bounds := by
  rw [elements, elements, List.map_cons, List.prod_cons]

theorem elements_pos (proper : ∀ bound ∈ bounds, ¬bound.Inverted) : 0 < elements bounds := by
  induction bounds with
  | nil => exact Nat.one_pos
  | cons bound bounds ih =>
      rw [elements_cons]
      apply Nat.mul_pos
      · exact Nat.pos_of_ne_zero (Bound.inverted_iff.not.mp (proper bound List.mem_cons_self))
      · exact ih fun other member => proper other (List.mem_cons_of_mem _ member)

theorem elements_eq_zero (inverted : ∃ bound ∈ bounds, bound.Inverted) : elements bounds = 0 := by
  induction bounds with
  | nil =>
      obtain ⟨bound, member, _⟩ := inverted
      cases member
  | cons bound bounds ih =>
      obtain ⟨other, member, isInverted⟩ := inverted
      rw [elements_cons, Nat.mul_eq_zero]
      cases member with
      | head => exact Or.inl (Bound.inverted_iff.mp isInverted)
      | tail _ member => exact Or.inr (ih ⟨other, member, isInverted⟩)

theorem elementCount_zero (bounds : List Bound) : elementCount 0 bounds = 0 := by
  induction bounds with
  | nil => rfl
  | cons bound bounds ih =>
      rw [elementCount]
      split
      · rfl
      · split
        · rfl
        · rw [UInt64.zero_mul]
          exact ih

theorem elementCount_inverted (inverted : ∃ bound ∈ bounds, bound.Inverted) :
    elementCount count bounds = 0 := by
  induction bounds generalizing count with
  | nil =>
      obtain ⟨bound, member, _⟩ := inverted
      cases member
  | cons bound bounds ih =>
      rw [elementCount]
      split
      case isTrue => rfl
      case isFalse proper =>
        split
        case isTrue => rfl
        case isFalse =>
          apply ih
          obtain ⟨other, member, isInverted⟩ := inverted
          cases member with
          | head => exact absurd isInverted proper
          | tail _ member => exact ⟨other, member, isInverted⟩

/-- The check for an overflow. -/
theorem overflows_iff {factor : UInt64} (some_factor : factor.toNat ≠ 0) :
    maxCount / factor < count ↔ 2 ^ 64 ≤ count.toNat * factor.toNat := by
  have most : maxCount.toNat = 2 ^ 64 - 1 := rfl
  rw [UInt64.lt_iff_toNat_lt, UInt64.toNat_div, most,
    Nat.div_lt_iff_lt_mul (Nat.pos_of_ne_zero some_factor)]
  omega

theorem toNat_mul_of_lt {factor : UInt64} (fits : count.toNat * factor.toNat < 2 ^ 64) :
    (count * factor).toNat = count.toNat * factor.toNat := by
  rw [UInt64.toNat_mul, Nat.mod_eq_of_lt fits]

/-- A dimension of at most `2^31` elements: the count is multiplied by as many, or is too high. -/
theorem elementCount_narrow (proper : ¬bound.Inverted) (narrow : bound.width ≤ 2 ^ 31) :
    elementCount count (bound :: bounds) =
      if 2 ^ 64 ≤ count.toNat * bound.width then 0
      else elementCount (count * dimcount bound.lower bound.upper) bounds := by
  have dimension : (dimcount bound.lower bound.upper).toNat = bound.width := by
    rw [toNat_dimcount proper, if_pos narrow]
  have some_width := Bound.inverted_iff.not.mp proper
  have some_count : dimcount bound.lower bound.upper ≠ 0 := by
    intro zero
    rw [zero] at dimension
    exact some_width dimension.symm
  have notInverted : ¬bound.upper < bound.lower := proper
  rw [elementCount, if_neg notInverted]
  simp only [some_count, ne_eq, not_false_eq_true, true_and,
    overflows_iff (dimension.symm ▸ some_width), dimension]

theorem elementCount_exact (proper : ∀ bound ∈ bounds, ¬bound.Inverted)
    (narrow : ∀ bound ∈ bounds, bound.width ≤ 2 ^ 31) (some_count : count.toNat ≠ 0) :
    (elementCount count bounds).toNat =
      if count.toNat * elements bounds < 2 ^ 64 then count.toNat * elements bounds else 0 := by
  induction bounds generalizing count with
  | nil =>
      rw [elements_nil, Nat.mul_one, if_pos count.toNat_lt]
      rfl
  | cons bound bounds ih =>
      have first := proper bound List.mem_cons_self
      have fits := narrow bound List.mem_cons_self
      have others : ∀ bound ∈ bounds, ¬bound.Inverted :=
        fun other member => proper other (List.mem_cons_of_mem _ member)
      rw [elementCount_narrow first fits, elements_cons, ← Nat.mul_assoc]
      split
      case isTrue many =>
        have more : 2 ^ 64 ≤ count.toNat * bound.width * elements bounds :=
          Nat.le_trans many (Nat.le_mul_of_pos_right _ (elements_pos others))
        rw [if_neg (Nat.not_lt.mpr more)]
        rfl
      case isFalse few =>
        have dimension : (dimcount bound.lower bound.upper).toNat = bound.width := by
          rw [toNat_dimcount first, if_pos fits]
        have product : (count * dimcount bound.lower bound.upper).toNat =
            count.toNat * bound.width := by
          rw [toNat_mul_of_lt (by rw [dimension]; omega), dimension]
        rw [ih others (fun other member => narrow other (List.mem_cons_of_mem _ member)), product]
        rw [product]
        exact Nat.mul_ne_zero some_count (Bound.inverted_iff.not.mp first)

/-- A dimension of more elements: counted before any others, it makes the count much too high. -/
theorem elementCount_wide (proper : ¬bound.Inverted) (wide : ¬bound.width ≤ 2 ^ 31) :
    elementCount count (bound :: bounds) = 0 ∨
      count.toNat = 1 ∧ ∃ high : UInt64, 2 ^ 63 ≤ high.toNat ∧
        elementCount count (bound :: bounds) = elementCount high bounds := by
  have notInverted : ¬bound.upper < bound.lower := proper
  have most := bound.width_le
  have dimension := toNat_dimcount proper
  rw [if_neg wide] at dimension
  by_cases all : bound.width = 2 ^ 32
  case pos =>
    have zero : dimcount bound.lower bound.upper = 0 := by
      apply UInt64.toNat_inj.mp
      rw [dimension, all]
      rfl
    apply Or.inl
    rw [elementCount, if_neg notInverted, zero, if_neg (by simp), UInt64.mul_zero,
      elementCount_zero]
  case neg =>
    have high : 2 ^ 63 ≤ (dimcount bound.lower bound.upper).toNat := by omega
    have some_count : dimcount bound.lower bound.upper ≠ 0 := by
      intro zero
      rw [zero] at high
      cases high
    have overflows := @overflows_iff count (dimcount bound.lower bound.upper) (by omega)
    rw [elementCount, if_neg notInverted]
    by_cases many : 2 ^ 64 ≤ count.toNat * (dimcount bound.lower bound.upper).toNat
    case pos => exact Or.inl (if_pos ⟨some_count, overflows.mpr many⟩)
    case neg =>
      rw [if_neg fun both => many (overflows.mp both.2)]
      by_cases none_yet : count.toNat = 0
      case pos =>
        have zero : count = 0 := UInt64.toNat_inj.mp none_yet
        rw [zero, UInt64.zero_mul, elementCount_zero]
        exact Or.inl rfl
      case neg =>
        have one : count.toNat = 1 := by
          apply Decidable.of_not_not
          intro more
          have twice : 2 * 2 ^ 63 ≤ count.toNat * (dimcount bound.lower bound.upper).toNat :=
            Nat.mul_le_mul (by omega) high
          omega
        apply Or.inr
        refine ⟨one, count * dimcount bound.lower bound.upper, ?_, rfl⟩
        rw [toNat_mul_of_lt (by omega), one, Nat.one_mul]
        exact high

/-- Such a count stays as it is, if there is one element in each of the other dimensions, or becomes
0. -/
theorem elementCount_high (proper : ∀ bound ∈ bounds, ¬bound.Inverted)
    (high : 2 ^ 63 ≤ count.toNat) :
    elementCount count bounds = 0 ∨ elementCount count bounds = count ∧ elements bounds = 1 := by
  induction bounds with
  | nil => exact Or.inr ⟨rfl, rfl⟩
  | cons bound bounds ih =>
      have first := proper bound List.mem_cons_self
      have others : ∀ bound ∈ bounds, ¬bound.Inverted :=
        fun other member => proper other (List.mem_cons_of_mem _ member)
      by_cases narrow : bound.width ≤ 2 ^ 31
      case pos =>
        rw [elementCount_narrow first narrow]
        split
        case isTrue => exact Or.inl rfl
        case isFalse few =>
          have some_width := Bound.inverted_iff.not.mp first
          have one : bound.width = 1 := by
            apply Decidable.of_not_not
            intro more
            have twice : 2 ^ 63 * 2 ≤ count.toNat * bound.width := Nat.mul_le_mul high (by omega)
            omega
          have dimension : dimcount bound.lower bound.upper = 1 := by
            apply UInt64.toNat_inj.mp
            rw [toNat_dimcount first, if_pos narrow, one]
            rfl
          rw [dimension, UInt64.mul_one, elements_cons, one, Nat.one_mul]
          exact ih others
      case neg =>
        cases @elementCount_wide bound bounds count first narrow with
        | inl zero => exact Or.inl zero
        | inr single =>
            have one := single.1
            omega

theorem elementCount_of_wide (proper : ∀ bound ∈ bounds, ¬bound.Inverted)
    (wide : ∃ bound ∈ bounds, ¬bound.width ≤ 2 ^ 31) (some_count : count.toNat ≠ 0) :
    elementCount count bounds = 0 ∨
      2 ^ 63 ≤ (elementCount count bounds).toNat ∧ count.toNat * elements bounds ≤ 2 ^ 32 := by
  induction bounds generalizing count with
  | nil =>
      obtain ⟨bound, member, _⟩ := wide
      cases member
  | cons bound bounds ih =>
      have first := proper bound List.mem_cons_self
      have others : ∀ bound ∈ bounds, ¬bound.Inverted :=
        fun other member => proper other (List.mem_cons_of_mem _ member)
      by_cases narrow : bound.width ≤ 2 ^ 31
      case pos =>
        rw [elementCount_narrow first narrow, elements_cons, ← Nat.mul_assoc]
        split
        case isTrue => exact Or.inl rfl
        case isFalse few =>
          have product : (count * dimcount bound.lower bound.upper).toNat =
              count.toNat * bound.width := by
            have dimension : (dimcount bound.lower bound.upper).toNat = bound.width := by
              rw [toNat_dimcount first, if_pos narrow]
            rw [toNat_mul_of_lt (by rw [dimension]; omega), dimension]
          rw [← product]
          apply ih others
          · obtain ⟨other, member, isWide⟩ := wide
            cases member with
            | head => exact absurd narrow isWide
            | tail _ member => exact ⟨other, member, isWide⟩
          · rw [product]
            exact Nat.mul_ne_zero some_count (Bound.inverted_iff.not.mp first)
      case neg =>
        cases @elementCount_wide bound bounds count first narrow with
        | inl zero => exact Or.inl zero
        | inr single =>
            obtain ⟨one, high, isHigh, same⟩ := single
            rw [same]
            cases elementCount_high others isHigh with
            | inl zero => exact Or.inl zero
            | inr stays =>
                apply Or.inr
                rw [stays.1, elements_cons, stays.2, one, Nat.one_mul, Nat.mul_one]
                exact ⟨isHigh, bound.width_le⟩

end Counts

end SqlRelay.Firebird
