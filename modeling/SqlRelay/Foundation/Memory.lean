import SqlRelay.Foundation.CString

/-!
# Memory

Bytes by their addresses, counted from some start.  What was stored is loaded again as long as nothing
that is stored later overlaps it.
-/

namespace SqlRelay.Foundation

abbrev Memory := Nat → Byte

/-- So many bytes, written at once. -/
structure Store where
  position : Nat
  bytes : List Byte
deriving DecidableEq

namespace Store

def stop (store : Store) : Nat := store.position + store.bytes.length

/-- No byte of the store lies in a range. -/
def Apart (store : Store) (position count : Nat) : Prop :=
  store.stop ≤ position ∨ position + count ≤ store.position

end Store

namespace Memory

def store (memory : Memory) (written : Store) : Memory := fun address =>
  if written.position ≤ address then
    written.bytes.getD (address - written.position) (memory address)
  else memory address

def stores (memory : Memory) (writes : List Store) : Memory := writes.foldl store memory

def load (memory : Memory) (position count : Nat) : List Byte :=
  (List.range count).map fun i => memory (position + i)

/-- Where a C string ends, if it does before the limit. -/
def stringLength (memory : Memory) (position limit : Nat) : Option Nat :=
  (List.range limit).find? fun i => memory (position + i) == 0

variable {memory : Memory} {written : Store} {position count : Nat}

@[simp] theorem length_load (memory : Memory) (position count : Nat) :
    (memory.load position count).length = count := by
  simp [load]

theorem load_add (memory : Memory) (position count more : Nat) :
    memory.load position (count + more) =
      memory.load position count ++ memory.load (position + count) more := by
  rw [load, List.range_add, List.map_append, List.map_map]
  congr 1
  apply List.map_congr_left
  intro i _
  rw [Function.comp_apply, Nat.add_assoc]

theorem load_store_self : (memory.store written).load written.position written.bytes.length =
    written.bytes := by
  apply List.ext_getElem
  · simp
  · intro i _ inside
    simp [load, store, List.getD_eq_getElem?_getD, List.getElem?_eq_getElem inside]

theorem load_store_apart (apart : written.Apart position count) :
    (memory.store written).load position count = memory.load position count := by
  apply List.map_congr_left
  intro i member
  have inside := List.mem_range.mp member
  rw [store]
  cases apart with
  | inl before =>
      rw [Store.stop] at before
      split
      case isTrue =>
        rw [List.getD_eq_getElem?_getD, List.getElem?_eq_none (by omega)]
        rfl
      case isFalse => rfl
  | inr behind => rw [if_neg (by omega)]

theorem load_stores_apart {writes : List Store}
    (apart : ∀ written ∈ writes, written.Apart position count) :
    (memory.stores writes).load position count = memory.load position count := by
  induction writes generalizing memory with
  | nil => rfl
  | cons first writes ih =>
      have others := fun written member => apart written (List.mem_cons_of_mem first member)
      rw [stores, List.foldl_cons, ← stores, ih others,
        load_store_apart (apart first List.mem_cons_self)]

/-- What was stored is still there after stores to other places. -/
theorem load_stores {earlier later : List Store} (written : Store)
    (apart : ∀ other ∈ later, other.Apart written.position written.bytes.length) :
    (memory.stores (earlier ++ written :: later)).load written.position written.bytes.length =
      written.bytes := by
  rw [stores, List.foldl_append, List.foldl_cons, ← stores, ← stores, load_stores_apart apart,
    load_store_self]

/-- Stores one behind the other, from a position on. -/
def InSequence : Nat → List Store → Prop
  | _, [] => True
  | position, written :: writes => position ≤ written.position ∧ InSequence written.stop writes

theorem InSequence.behind {writes : List Store} (sequence : InSequence position writes)
    (member : written ∈ writes) : position ≤ written.position := by
  induction writes generalizing position with
  | nil => cases member
  | cons first writes ih =>
      cases member with
      | head => exact sequence.1
      | tail _ member =>
          have after := ih sequence.2 member
          have first_stop : first.stop = first.position + first.bytes.length := rfl
          have before := sequence.1
          omega

theorem InSequence.load {writes : List Store} (sequence : InSequence position writes)
    (member : written ∈ writes) :
    (memory.stores writes).load written.position written.bytes.length = written.bytes := by
  induction writes generalizing position memory with
  | nil => cases member
  | cons first writes ih =>
      cases member with
      | head =>
          apply @load_stores memory [] writes written
          intro other later
          exact Or.inr (sequence.2.behind later)
      | tail _ member => exact ih sequence.2 member

/-- A C string is as long as what comes before its NUL. -/
theorem stringLength_eq {text : List Byte} {limit : Nat} (noNul : 0 ∉ text)
    (there : memory.load position text.length = text)
    (ends : memory (position + text.length) = 0) (inside : text.length < limit) :
    memory.stringLength position limit = some text.length := by
  rw [stringLength, List.find?_range_eq_some]
  refine ⟨by simpa using ends, List.mem_range.mpr inside, ?_⟩
  intro i before
  have byte : memory (position + i) = text[i] := by
    have same := congrArg (fun bytes => bytes[i]?) there
    simp only [load, List.getElem?_map, List.getElem?_range before, Option.map_some,
      List.getElem?_eq_getElem before, Option.some.injEq] at same
    exact same
  rw [byte]
  simp only [Bool.not_eq_eq_eq_not, Bool.not_true, beq_eq_false_iff_ne]
  intro isNul
  exact noNul (isNul ▸ List.getElem_mem before)

end Memory

end SqlRelay.Foundation
