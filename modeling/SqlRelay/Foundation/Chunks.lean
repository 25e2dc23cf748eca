import Mathlib.Data.List.Basic
import Mathlib.Algebra.Order.Ring.Nat

/-!
# Lists in blocks and in chunks

A list that is worked on in blocks of `count` elements: the block in which an element lies, and the
element of the changed block that stands at a position.

A list is cut into chunks of a size as long as there is anything left of it.  All of them are full if
the size divides the length of the list, and otherwise all but the last one, which is short.
-/

namespace SqlRelay.Foundation

universe u

variable {Element : Type u} {count size : Nat}

/-! ## Blocks -/

theorem succ_mod (positive : 0 < count) (position : Nat) :
    (position + 1) % count =
      if position % count + 1 = count then 0 else position % count + 1 := by
  have small := Nat.mod_lt position positive
  rw [← Nat.mod_add_mod]
  split
  case isTrue full => rw [full, Nat.mod_self]
  case isFalse => exact Nat.mod_eq_of_lt (by omega)

/-- The block that holds a position; the last one may be shorter. -/
def blockOf (count : Nat) (elements : List Element) (position : Nat) : List Element :=
  (elements.drop (position - position % count)).take count

/-- What stands at a position when each block is changed as a whole. -/
def blockwise (count : Nat) (change : List Element → List Element) (elements : List Element)
    (position : Nat) : Option Element :=
  (change (blockOf count elements position))[position % count]?

namespace blockOf

variable {elements : List Element} {position : Nat}

theorem at_start (start : position % count = 0) :
    blockOf count elements position = (elements.drop position).take count := by
  rw [blockOf, start, Nat.sub_zero]

/-- The next position is in the same block, unless it starts one. -/
theorem succ (positive : 0 < count) (inside : (position + 1) % count ≠ 0) :
    blockOf count elements (position + 1) = blockOf count elements position := by
  have next := succ_mod positive position
  rw [blockOf, blockOf]
  split at next
  case isTrue => exact absurd next inside
  case isFalse => rw [next, Nat.add_sub_add_right]

theorem length : (blockOf count elements position).length =
    min count (elements.length - (position - position % count)) := by
  rw [blockOf, List.length_take, List.length_drop]

/-- A position of the list is one of its block. -/
theorem mod_lt_length (positive : 0 < count) :
    position % count < (blockOf count elements position).length ↔ position < elements.length := by
  have small := Nat.mod_lt position positive
  have inside := Nat.mod_le position count
  rw [length]
  omega

end blockOf

theorem blockwise_isSome {change : List Element → List Element} {elements : List Element}
    {position : Nat} (positive : 0 < count)
    (keeps : ∀ elements, (change elements).length = elements.length) :
    (blockwise count change elements position).isSome ↔ position < elements.length := by
  rw [blockwise, Option.isSome_iff_ne_none, ne_eq, List.getElem?_eq_none_iff, keeps, Nat.not_le,
    blockOf.mod_lt_length positive]

/-! ## Chunks -/

/-- The chunks of a list; all of it is one chunk if the size is zero. -/
def chunks (size : Nat) : List Element → List (List Element)
  | [] => []
  | element :: rest =>
      if size = 0 then [element :: rest]
      else (element :: rest).take size :: chunks size ((element :: rest).drop size)
termination_by elements => elements.length
decreasing_by
  simp only [List.length_drop, List.length_cons]
  omega

@[simp] theorem chunks_nil : chunks size ([] : List Element) = [] := by
  rw [chunks]

theorem chunks_of_ne_nil (positive : 0 < size) {elements : List Element} (some_left : elements ≠ []) :
    chunks size elements = elements.take size :: chunks size (elements.drop size) := by
  cases elements with
  | nil => contradiction
  | cons element rest => rw [chunks, if_neg (Nat.ne_of_gt positive)]

/-- What is not more than a chunk is one. -/
theorem chunks_of_le (positive : 0 < size) {elements : List Element} (some_left : elements ≠ [])
    (few : elements.length ≤ size) : chunks size elements = [elements] := by
  rw [chunks_of_ne_nil positive some_left, List.take_of_length_le few, List.drop_of_length_le few,
    chunks_nil]

theorem chunks_append (positive : 0 < size) {chunk : List Element} (full : chunk.length = size)
    (rest : List Element) : chunks size (chunk ++ rest) = chunk :: chunks size rest := by
  have some_left : chunk ++ rest ≠ [] := by
    intro empty
    have lengths := congrArg List.length empty
    simp only [List.length_append, List.length_nil] at lengths
    omega
  rw [chunks_of_ne_nil positive some_left, ← full, List.take_left, List.drop_left]

/-- A list is some full chunks and less than one more. -/
theorem exists_full_chunks (positive : 0 < size) (elements : List Element) :
    ∃ (full : List (List Element)) (last : List Element), elements = full.flatten ++ last ∧
      (∀ chunk ∈ full, chunk.length = size) ∧ last.length < size := by
  induction lengths : elements.length using Nat.strong_induction_on generalizing elements with
  | _ total induction =>
    by_cases few : elements.length < size
    · exact ⟨[], elements, rfl, by simp, few⟩
    · have fewer : (elements.drop size).length < total := by
        rw [List.length_drop]
        omega
      rcases induction _ fewer _ rfl with ⟨full, last, parts, sizes, short⟩
      refine ⟨elements.take size :: full, last, ?_, ?_, short⟩
      · rw [List.flatten_cons, List.append_assoc, ← parts, List.take_append_drop]
      · rw [List.forall_mem_cons, List.length_take]
        exact ⟨by omega, sizes⟩

theorem length_flatten_full {full : List (List Element)}
    (sizes : ∀ chunk ∈ full, chunk.length = size) : full.flatten.length = full.length * size := by
  induction full with
  | nil => simp
  | cons chunk full ih =>
    rw [List.forall_mem_cons] at sizes
    rw [List.flatten_cons, List.length_append, sizes.1, ih sizes.2, List.length_cons, Nat.succ_mul,
      Nat.add_comm]

theorem chunks_flatten (positive : 0 < size) {full : List (List Element)}
    (sizes : ∀ chunk ∈ full, chunk.length = size) (rest : List Element) :
    chunks size (full.flatten ++ rest) = full ++ chunks size rest := by
  induction full with
  | nil => rfl
  | cons chunk full ih =>
    rw [List.forall_mem_cons] at sizes
    rw [List.flatten_cons, List.append_assoc, chunks_append positive sizes.1, ih sizes.2,
      List.cons_append]

/-- Which of the two ways it ends depends on the length alone. -/
theorem dvd_length_iff {full : List (List Element)} {last : List Element}
    (sizes : ∀ chunk ∈ full, chunk.length = size) (short : last.length < size) :
    size ∣ (full.flatten ++ last).length ↔ last = [] := by
  rw [List.length_append, length_flatten_full sizes, Nat.dvd_add_right ⟨_, Nat.mul_comm _ _⟩,
    ← List.length_eq_zero_iff]
  constructor
  · intro divides
    exact Nat.eq_zero_of_dvd_of_lt divides short
  · intro none_left
    rw [none_left]
    exact Nat.dvd_zero size

end SqlRelay.Foundation
