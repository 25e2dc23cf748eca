import Mathlib.Algebra.Group.Int.Defs

/-!
# Spans

A line is laid out in spans, one behind the other from zero on.  A position lies in one span, which is
found by a walk from any other: back as long as the position is in front of a span, and then on as long
as it is behind it.
-/

namespace SqlRelay.Foundation.Spans

variable (size : Nat → Int)

/-- Where a span starts. -/
def start : Nat → Int
  | 0 => 0
  | index + 1 => start index + size index

/-- On over so many spans at most: the span, and how far the position is into it. -/
def walkOn : Nat → Nat → Int → Nat × Int
  | 0, index, offset => (index, offset)
  | count + 1, index, offset =>
      if offset < size index then (index, offset) else walkOn count (index + 1) (offset - size index)

/-- Back over spans, but not over the first one. -/
def walkBack : Nat → Int → Nat × Int
  | index + 1, offset =>
      if offset < 0 then walkBack index (offset + size index) else (index + 1, offset)
  | 0, offset => (0, offset)

variable {size}

/-- A span ends where a later one starts or before. -/
theorem start_add_le {index later : Nat} (positive : ∀ index < later, 0 < size index)
    (lt : index < later) : start size index + size index ≤ start size later := by
  induction lt with
  | refl => exact Int.le_refl _
  | @step middle lt induction =>
    have some_size := positive middle (Nat.lt_succ_self middle)
    have ends := induction fun index below => positive index (Nat.lt_succ_of_lt below)
    rw [start]
    omega

/-- Positions have the order of their spans. -/
theorem position_lt {index later : Nat} {offset offset' : Int}
    (positive : ∀ index < later, 0 < size index) (inside : offset < size index)
    (some_offset : 0 ≤ offset') (lt : index < later) :
    start size index + offset < start size later + offset' := by
  have ends := start_add_le positive lt
  omega

/-- A walk that starts in front of a position or in its span comes to the span. -/
theorem walkOn_eq {count index target : Nat} {offset : Int}
    (positive : ∀ index < target, 0 < size index) (front : index ≤ target)
    (near : target ≤ index + count) (some_offset : 0 ≤ offset) (inside : offset < size target) :
    walkOn size count index (start size target + offset - start size index) = (target, offset) := by
  induction count generalizing index with
  | zero =>
    have same : index = target := by omega
    rw [walkOn, same]
    congr 1
    omega
  | succ count induction =>
    rw [walkOn]
    cases Nat.lt_or_eq_of_le front with
    | inl before =>
      have ends := start_add_le positive before
      have next := induction before (by omega)
      rw [start] at next
      rw [if_neg (by omega), ← next]
      congr 1
      omega
    | inr same =>
      rw [same]
      have here : start size target + offset - start size target = offset := by omega
      rw [here, if_pos inside]

/-- A walk back from behind a position comes to its span. -/
theorem walkBack_eq {index target : Nat} {offset : Int}
    (positive : ∀ other < index, 0 < size other) (behind : target ≤ index)
    (some_offset : 0 ≤ offset) (inside : offset < size target) :
    walkBack size index (start size target + offset - start size index) = (target, offset) := by
  induction index with
  | zero =>
    have same : target = 0 := by omega
    rw [walkBack, same]
    congr 1
    omega
  | succ index induction =>
    rw [walkBack]
    cases Nat.lt_or_eq_of_le behind with
    | inl before =>
      have starts := position_lt positive inside (Int.le_refl 0) before
      have next := induction (fun other below => positive other (Nat.lt_succ_of_lt below)) (by omega)
      rw [if_pos (by omega), ← next, start]
      congr 1
      omega
    | inr same =>
      rw [same]
      have here : start size (index + 1) + offset - start size (index + 1) = offset := by omega
      rw [here, if_neg (by omega)]

/-- There is nothing to walk back over from a span in front of the position. -/
theorem walkBack_of_nonneg {index : Nat} {offset : Int} (some_offset : 0 ≤ offset) :
    walkBack size index offset = (index, offset) := by
  cases index with
  | zero => rfl
  | succ index => rw [walkBack, if_neg (by omega)]

/-- Wherever a walk starts, it comes to the span of the position. -/
theorem walkOn_walkBack (count : Nat → Nat) {index target : Nat} {offset : Int}
    (positive : ∀ index, 0 < size index) (near : ∀ index ≤ target, target ≤ index + count index)
    (some_offset : 0 ≤ offset) (inside : offset < size target) :
    let found := walkBack size index (start size target + offset - start size index)
    walkOn size (count found.1) found.1 found.2 = (target, offset) := by
  intro found
  cases Nat.lt_or_ge index target with
  | inl front =>
    have starts := start_add_le (fun index _ => positive index) front
    have some_size := positive index
    have back : found = _ := walkBack_of_nonneg (by omega)
    rw [back]
    exact walkOn_eq (fun index _ => positive index) (Nat.le_of_lt front)
      (near index (Nat.le_of_lt front)) some_offset inside
  | inr behind =>
    have back : found = _ := walkBack_eq (fun index _ => positive index) behind some_offset inside
    have on := walkOn_eq (fun index _ => positive index) (Nat.le_refl target)
      (near target (Nat.le_refl target)) some_offset inside
    have here : start size target + offset - start size target = offset := by omega
    rw [here] at on
    rw [back]
    exact on

end SqlRelay.Foundation.Spans
