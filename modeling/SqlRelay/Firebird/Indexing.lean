import SqlRelay.Firebird.Exactness
import SqlRelay.Firebird.Slices

/-!
# Slices are indexed one to one

As long as no dimension is too wide, an index of an element is a number in the mixed radix of the
widths of the dimensions, and the subscripts are its digits, from the lower bounds on.
-/

namespace SqlRelay.Firebird

open SqlRelay.Foundation

/-! ## Subscripts and digits -/

namespace Bound

/-- The subscript so far from the lower bound. -/
def subscriptAt (bound : Bound) (digit : Nat) : Int32 := Int32.ofInt (bound.lower.toInt + digit)

/-- How far a subscript is from the lower bound. -/
def offset (bound : Bound) (subscript : Int32) : Nat :=
  (subscript.toInt - bound.lower.toInt).toNat

variable {bound : Bound} {digit : Nat} {subscript : Int32}

theorem toInt_subscriptAt (inside : digit < bound.width) :
    (bound.subscriptAt digit).toInt = bound.lower.toInt + digit := by
  have low := bound.lower.le_toInt
  have high := bound.upper.toInt_lt
  rw [width] at inside
  apply Int32.toInt_ofInt_of_le
  · omega
  · omega

theorem contains_subscriptAt (inside : digit < bound.width) : bound.Contains (bound.subscriptAt digit) := by
  have place := toInt_subscriptAt inside
  rw [width] at inside
  rw [Contains, Int32.le_iff_toInt_le, Int32.le_iff_toInt_le, place]
  omega

theorem offset_subscriptAt (inside : digit < bound.width) : bound.offset (bound.subscriptAt digit) = digit := by
  rw [offset, toInt_subscriptAt inside]
  omega

theorem offset_lt (contains : bound.Contains subscript) : bound.offset subscript < bound.width := by
  rw [Contains, Int32.le_iff_toInt_le, Int32.le_iff_toInt_le] at contains
  rw [offset, width]
  omega

theorem subscriptAt_offset (contains : bound.Contains subscript) :
    bound.subscriptAt (bound.offset subscript) = subscript := by
  apply Int32.toInt_inj.mp
  rw [toInt_subscriptAt (offset_lt contains)]
  rw [Contains, Int32.le_iff_toInt_le] at contains
  rw [offset]
  omega

end Bound

/-- A dimension with elements, and not too many of them. -/
structure Narrow (bound : Bound) : Prop where
  proper : ¬bound.Inverted
  narrow : bound.width ≤ 2 ^ 31

section Digits

variable {bound : Bound} {bounds : List Bound}

theorem Narrow.dimcount (narrow : Narrow bound) :
    (dimcount bound.lower bound.upper).toNat = bound.width := by
  rw [toNat_dimcount narrow.proper, if_pos narrow.narrow]

theorem Narrow.positive (narrow : Narrow bound) : 0 < bound.width :=
  Nat.pos_of_ne_zero (Bound.inverted_iff.not.mp narrow.proper)

theorem toInt32_of_toNat {number : UInt64} {digit : Nat} (same : number.toNat = digit) :
    number.toUInt32.toInt32 = Int32.ofInt digit := by
  subst same
  rw [Int32.ofInt_eq_ofNat]
  apply Int32.toBitVec.inj
  rfl

/-- A digit is added to the lower bound. -/
theorem Narrow.subscript_eq (narrow : Narrow bound) (rest : UInt64) :
    bound.lower + (rest % Firebird.dimcount bound.lower bound.upper).toUInt32.toInt32 =
      bound.subscriptAt (rest.toNat % bound.width) := by
  have digit : (rest % Firebird.dimcount bound.lower bound.upper).toNat =
      rest.toNat % bound.width := by
    rw [UInt64.toNat_mod, narrow.dimcount]
  rw [toInt32_of_toNat digit, Bound.subscriptAt, Int32.ofInt_add, Int32.ofInt_toInt]

theorem subscriptsOf_eq (narrow : ∀ bound ∈ bounds, Narrow bound) (index : UInt64) :
    (subscriptsOf bounds index).2.toNat =
        (MixedRadix.digits (bounds.map Bound.width) index.toNat).2 ∧
      (subscriptsOf bounds index).1 = List.zipWith Bound.subscriptAt bounds
        (MixedRadix.digits (bounds.map Bound.width) index.toNat).1 := by
  induction bounds with
  | nil => exact ⟨rfl, rfl⟩
  | cons bound bounds ih =>
      have first := narrow bound List.mem_cons_self
      have others := ih fun other member => narrow other (List.mem_cons_of_mem _ member)
      have step : subscriptsOf (bound :: bounds) index =
          ((bound.lower + ((subscriptsOf bounds index).2 %
              dimcount bound.lower bound.upper).toUInt32.toInt32) :: (subscriptsOf bounds index).1,
            (subscriptsOf bounds index).2 / dimcount bound.lower bound.upper) := rfl
      rw [step, List.map_cons, MixedRadix.digits_cons]
      constructor
      · rw [UInt64.toNat_div, first.dimcount, others.1]
      · rw [first.subscript_eq, others.1, others.2]
        rfl

/-- How far the subscript is from the lower bound, as the index takes it. -/
theorem Narrow.widened_offset (narrow : Narrow bound) {subscript : Int32}
    (contains : bound.Contains subscript) :
    (subscript - bound.lower).toInt64.toUInt64 = UInt64.ofNat (bound.offset subscript) := by
  have place := Bound.offset_lt contains
  have few := narrow.narrow
  have low := contains.1
  rw [Int32.le_iff_toInt_le] at low
  have distance : (bound.offset subscript : Int) = subscript.toInt - bound.lower.toInt := by
    rw [Bound.offset]
    omega
  have difference : (subscript - bound.lower).toInt = bound.offset subscript := by
    rw [Int32.toInt_sub, Int.bmod_eq_of_le (by omega) (by omega), distance]
  have widened := toNat_widened (subscript - bound.lower)
  rw [difference] at widened
  apply UInt64.toNat_inj.mp
  rw [UInt64.toNat_ofNat']
  omega

theorem arrayIndex_eq (narrow : ∀ bound ∈ bounds, Narrow bound) {subscripts : List Int32}
    (contains : List.Forall₂ Bound.Contains bounds subscripts) (start : Nat) :
    arrayIndex bounds.length (UInt64.ofNat start) subscripts (bounds.map Bound.lower)
        (bounds.map Bound.upper) =
      some (UInt64.ofNat (MixedRadix.number start (bounds.map Bound.width)
        (List.zipWith Bound.offset bounds subscripts))) := by
  induction contains generalizing start with
  | nil => rfl
  | @cons bound subscript bounds subscripts inside _ ih =>
      have first := narrow bound List.mem_cons_self
      have others := ih fun other member => narrow other (List.mem_cons_of_mem _ member)
      have within : ¬(bound.upper < bound.lower ∨ subscript < bound.lower ∨ bound.upper < subscript) := by
        have proper := first.proper
        have low := inside.1
        have high := inside.2
        rw [Bound.Inverted, Int32.lt_iff_toInt_lt] at proper
        rw [Int32.le_iff_toInt_le] at low high
        rw [Int32.lt_iff_toInt_lt, Int32.lt_iff_toInt_lt, Int32.lt_iff_toInt_lt]
        omega
      have dimension : dimcount bound.lower bound.upper = UInt64.ofNat bound.width := by
        rw [← first.dimcount, UInt64.ofNat_toNat]
      rw [List.length_cons, List.map_cons, List.map_cons, arrayIndex, if_neg within,
        first.widened_offset inside, dimension, ← UInt64.ofNat_mul, ← UInt64.ofNat_add, others]
      rfl

theorem zipWith_offset_subscriptAt {digits : List Nat}
    (small : List.Forall₂ (fun digit radix => digit < radix) digits (bounds.map Bound.width)) :
    List.Forall₂ Bound.Contains bounds (List.zipWith Bound.subscriptAt bounds digits) ∧
      List.zipWith Bound.offset bounds (List.zipWith Bound.subscriptAt bounds digits) = digits := by
  induction bounds generalizing digits with
  | nil =>
      cases small
      exact ⟨List.Forall₂.nil, rfl⟩
  | cons bound bounds ih =>
      cases small with
      | cons inside rest =>
          have others := ih rest
          constructor
          · exact List.Forall₂.cons (Bound.contains_subscriptAt inside) others.1
          · rw [List.zipWith_cons_cons, List.zipWith_cons_cons, others.2,
              Bound.offset_subscriptAt inside]

theorem zipWith_subscriptAt_offset {subscripts : List Int32}
    (contains : List.Forall₂ Bound.Contains bounds subscripts) :
    List.Forall₂ (fun digit radix => digit < radix) (List.zipWith Bound.offset bounds subscripts)
        (bounds.map Bound.width) ∧
      List.zipWith Bound.subscriptAt bounds (List.zipWith Bound.offset bounds subscripts) =
        subscripts := by
  induction contains with
  | nil => exact ⟨List.Forall₂.nil, rfl⟩
  | cons inside _ ih =>
      constructor
      · exact List.Forall₂.cons (Bound.offset_lt inside) ih.1
      · rw [List.zipWith_cons_cons, List.zipWith_cons_cons, ih.2, Bound.subscriptAt_offset inside]

end Digits

/-! ## Slices -/

section Slices

variable {slice : Slice}

/-- The subscripts of an index, and their index. -/
structure Subscripts (slice : Slice) (index : UInt64) (subscripts : List Int32) : Prop where
  found : getSubscripts slice index = some subscripts
  contains : slice.Contains subscripts
  index : getArrayIndex slice subscripts slice.lowerBounds slice.upperBounds = some index

theorem subscripts_of_lt (some_bounds : slice.bounds ≠ [])
    (narrow : ∀ bound ∈ slice.bounds, Narrow bound) {index : UInt64}
    (inside : index < getElementCount slice) (fits : index.toNat < slice.widths.prod) :
    ∃ subscripts, Subscripts slice index subscripts := by
  have positive : ∀ radix ∈ slice.widths, 0 < radix := by
    intro radix member
    obtain ⟨bound, isBound, rfl⟩ := List.mem_map.mp member
    exact (narrow bound isBound).positive
  have digits := zipWith_offset_subscriptAt (MixedRadix.digits_lt index.toNat positive)
  have taken := (subscriptsOf_eq narrow index).2
  refine ⟨(subscriptsOf slice.bounds index).1, ?_, ?_, ?_⟩
  · rw [getSubscripts, if_neg (UInt64.not_le.mpr inside)]
  · rw [taken]
    exact digits.1
  · have whole := @MixedRadix.number_digits slice.widths index.toNat
    rw [MixedRadix.digits_rest_eq_zero fits] at whole
    have array := arrayIndex_eq narrow digits.1 0
    rw [digits.2] at array
    rw [getArrayIndex, if_neg (List.length_eq_zero_iff.not.mpr some_bounds), taken]
    exact array.trans (congrArg some ((congrArg UInt64.ofNat whole).trans UInt64.ofNat_toNat))

theorem index_of_contains (narrow : ∀ bound ∈ slice.bounds, Narrow bound)
    (counted : (getElementCount slice).toNat = slice.widths.prod) {subscripts : List Int32}
    (contains : slice.Contains subscripts) :
    ∃ index < getElementCount slice, getSubscripts slice index = some subscripts := by
  have offsets := zipWith_subscriptAt_offset contains
  have less := MixedRadix.number_lt offsets.1 0
  have digits := MixedRadix.digits_number offsets.1 0
  rw [Nat.zero_add, Nat.one_mul] at less
  have most := (getElementCount slice).toNat_lt
  have fits : MixedRadix.number 0 slice.widths
      (List.zipWith Bound.offset slice.bounds subscripts) < 2 ^ 64 :=
    Nat.lt_of_lt_of_le less (counted ▸ Nat.le_of_lt most)
  have place : (UInt64.ofNat (MixedRadix.number 0 slice.widths
      (List.zipWith Bound.offset slice.bounds subscripts))).toNat =
        MixedRadix.number 0 slice.widths (List.zipWith Bound.offset slice.bounds subscripts) := by
    rw [UInt64.toNat_ofNat', Nat.mod_eq_of_lt fits]
  have inside : UInt64.ofNat (MixedRadix.number 0 slice.widths
      (List.zipWith Bound.offset slice.bounds subscripts)) < getElementCount slice := by
    rw [UInt64.lt_iff_toNat_lt, place, counted]
    exact less
  refine ⟨_, inside, ?_⟩
  have taken := (subscriptsOf_eq narrow (UInt64.ofNat (MixedRadix.number 0 slice.widths
    (List.zipWith Bound.offset slice.bounds subscripts)))).2
  rw [getSubscripts, if_neg (UInt64.not_le.mpr inside), taken, place]
  have back : (MixedRadix.digits (slice.bounds.map Bound.width) (MixedRadix.number 0 slice.widths
      (List.zipWith Bound.offset slice.bounds subscripts))).1 =
        List.zipWith Bound.offset slice.bounds subscripts :=
    congrArg Prod.fst digits
  rw [back, offsets.2]

theorem proper_of_contains {bounds : List Bound} {subscripts : List Int32}
    (contains : List.Forall₂ Bound.Contains bounds subscripts) :
    ∀ bound ∈ bounds, ¬bound.Inverted := by
  induction contains with
  | nil =>
      intro bound member
      cases member
  | cons inside _ ih =>
      intro bound member
      cases member with
      | head =>
          rw [Bound.inverted_iff]
          exact Nat.ne_zero_of_lt (Bound.offset_lt inside)
      | tail _ member => exact ih bound member

/-- A slice that is taken to have no elements. -/
theorem indexes_of_zero (zero : getElementCount slice = 0)
    (none_left : slice.widths.prod < 2 ^ 64 → slice.widths.prod = 0) : Indexes slice := by
  constructor
  · intro fits
    rw [zero, none_left fits]
    rfl
  · intro index inside
    rw [zero] at inside
    exact absurd inside UInt64.not_lt_zero
  · intro first inside
    rw [zero] at inside
    exact absurd inside UInt64.not_lt_zero
  · intro fits subscripts contains
    exact absurd (none_left fits) (Nat.ne_of_gt (elements_pos (proper_of_contains contains)))

theorem indexes_of_narrow (some_bounds : slice.bounds ≠ [])
    (narrow : ∀ bound ∈ slice.bounds, Narrow bound)
    (counted : (getElementCount slice).toNat = slice.widths.prod) : Indexes slice := by
  have found : ∀ index < getElementCount slice, ∃ subscripts, Subscripts slice index subscripts := by
    intro index inside
    apply subscripts_of_lt some_bounds narrow inside
    rw [← counted]
    exact UInt64.lt_iff_toNat_lt.mp inside
  constructor
  · intro _
    exact counted
  · intro index inside
    obtain ⟨subscripts, taken⟩ := found index inside
    exact ⟨subscripts, taken.found, taken.contains, taken.index⟩
  · intro first firstInside second secondInside same
    obtain ⟨ones, one⟩ := found first firstInside
    obtain ⟨others, other⟩ := found second secondInside
    rw [one.found, other.found, Option.some.injEq] at same
    have index := one.index
    rw [same, other.index] at index
    exact (Option.some.inj index).symm
  · intro _ subscripts contains
    exact index_of_contains narrow counted contains

theorem bounds_of_parse {sdl : List Byte} {stop : Nat}
    (accepted : parse sdl = .accepted slice stop) : slice.bounds ≠ [] := by
  rw [parse, parsePasses] at accepted
  split at accepted
  case isTrue => cases accepted
  case isFalse =>
    split at accepted
    case h_1 progress ptr _ =>
      obtain ⟨_, finished, same, _⟩ := finish_accepted_iff.mp accepted
      rw [← same]
      exact List.length_eq_zero_iff.not.mp finished.loops
    all_goals cases accepted

/-- A slice whose description is accepted is indexed one to one exactly if it has no element, or too
many to be counted, or no dimension with more than `2^31`. -/
theorem indexes_iff {sdl : List Byte} {stop : Nat}
    (accepted : parse sdl = .accepted slice stop) : Indexes slice ↔ Countable slice := by
  have some_bounds := bounds_of_parse accepted
  have counts : getElementCount slice = elementCount 1 slice.bounds := by
    rw [getElementCount, if_neg (List.length_eq_zero_iff.not.mpr some_bounds)]
  have product : slice.widths.prod = elements slice.bounds := rfl
  have one : (1 : UInt64).toNat = 1 := rfl
  by_cases inverted : ∃ bound ∈ slice.bounds, bound.Inverted
  case pos =>
    apply iff_of_true _ (Or.inl inverted)
    apply indexes_of_zero
    · rw [counts, elementCount_inverted inverted]
    · intro _
      rw [product, elements_eq_zero inverted]
  case neg =>
    have proper : ∀ bound ∈ slice.bounds, ¬bound.Inverted :=
      fun bound member isInverted => inverted ⟨bound, member, isInverted⟩
    by_cases wide : ∃ bound ∈ slice.bounds, ¬bound.width ≤ 2 ^ 31
    case pos =>
      have off := @elementCount_of_wide slice.bounds 1 proper wide (by decide)
      rw [← counts, ← product, one, Nat.one_mul] at off
      by_cases many : 2 ^ 64 ≤ slice.widths.prod
      case pos =>
        apply iff_of_true _ (Or.inr (Or.inl many))
        apply indexes_of_zero
        · exact off.resolve_right fun high => by omega
        · intro fits
          omega
      case neg =>
        apply iff_of_false
        · intro indexes
          have counted := indexes.count (Nat.not_le.mp many)
          have some_elements := elements_pos proper
          rw [← product] at some_elements
          cases off with
          | inl zero =>
              rw [zero] at counted
              exact Nat.ne_of_gt some_elements counted.symm
          | inr high => omega
        · intro countable
          cases countable with
          | inl isInverted => exact inverted isInverted
          | inr others =>
              cases others with
              | inl isMany => exact many isMany
              | inr narrow =>
                  obtain ⟨bound, member, isWide⟩ := wide
                  exact isWide (narrow bound member)
    case neg =>
      have narrow : ∀ bound ∈ slice.bounds, bound.width ≤ 2 ^ 31 :=
        fun bound member => Decidable.of_not_not fun isWide => wide ⟨bound, member, isWide⟩
      apply iff_of_true _ (Or.inr (Or.inr narrow))
      have counted := @elementCount_exact slice.bounds 1 proper narrow (by decide)
      rw [← counts, ← product, one, Nat.one_mul] at counted
      by_cases fits : slice.widths.prod < 2 ^ 64
      case pos =>
        rw [if_pos fits] at counted
        exact indexes_of_narrow some_bounds
          (fun bound member => ⟨proper bound member, narrow bound member⟩) counted
      case neg =>
        rw [if_neg fits] at counted
        apply indexes_of_zero
        · exact UInt64.toNat_inj.mp counted
        · exact fun small => absurd small fits

end Slices

/-- The description of a slice of booleans with one dimension, from a lower bound to 0. -/
def upToZero (lower : Int32) : List Byte :=
  descriptionOf [.struct (.plain Blr.bool rfl), .loop 0 (.do2 (.long lower) (.tiny 0)),
    .element [0]]

def sliceUpToZero (lower : Int32) : Slice :=
  ⟨none, none, none, none, none, Blr.bool, 0, 0, [⟨0, lower, 0⟩]⟩

theorem indexes_upToZero : parse (upToZero (-5)) = .accepted (sliceUpToZero (-5)) 21 ∧
    (Indexes (sliceUpToZero (-5)) ↔ Countable (sliceUpToZero (-5))) := by
  have accepted : parse (upToZero (-5)) = .accepted (sliceUpToZero (-5)) 21 := by decide
  exact ⟨accepted, indexes_iff accepted⟩

/-- With one subscript more than `2^31` the count is far too high. -/
theorem wideDimension_miscounted : ¬∀ (sdl : List Byte) (slice : Slice) (stop : Nat),
    parse sdl = .accepted slice stop → Indexes slice := by
  intro every
  have accepted : parse (upToZero (-2147483648)) = .accepted (sliceUpToZero (-2147483648)) 21 := by
    decide
  have counted := (every _ _ _ accepted).count (by decide)
  exact absurd counted (by decide)

end SqlRelay.Firebird
