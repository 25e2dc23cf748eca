import Mathlib.Logic.Function.Basic

/-!
# Mutual exclusion by a semaphore

A semaphore of one permit guards a section.  Whoever enters takes the permit and whoever leaves
gives it back; then at most one party is inside, and it is inside exactly while the permit is
taken.
-/

namespace SqlRelay.Foundation

variable {Party : Type}

/-- The permit is there and nobody is inside, or it is taken and one party is inside. -/
def Exclusive (permits : Nat) (inside : Party → Bool) : Prop :=
  (permits = 1 ∧ ∀ party, inside party = false) ∨
    (permits = 0 ∧ ∃ holder, ∀ party, inside party = true ↔ party = holder)

namespace Exclusive

variable {permits : Nat} {inside : Party → Bool}

/-- Two parties that are inside are one. -/
theorem unique (exclusive : Exclusive permits inside) {one other : Party}
    (first : inside one = true) (second : inside other = true) : one = other := by
  rcases exclusive with ⟨_, empty⟩ | ⟨_, holder, holds⟩
  · rw [empty one] at first
    contradiction
  · rw [(holds one).mp first, (holds other).mp second]

/-- While the permit is there, nobody is inside. -/
theorem outside (exclusive : Exclusive permits inside) (free : permits ≠ 0) (party : Party) :
    inside party = false := by
  rcases exclusive with ⟨_, empty⟩ | ⟨taken, _⟩
  · exact empty party
  · exact absurd taken free

variable [DecidableEq Party]

/-- A party takes the permit and enters. -/
theorem enter (exclusive : Exclusive permits inside) (free : permits ≠ 0) (party : Party) :
    Exclusive (permits - 1) (Function.update inside party true) := by
  rcases exclusive with ⟨single, empty⟩ | ⟨taken, _⟩
  · right
    refine ⟨by omega, party, ?_⟩
    intro other
    rw [Function.update_apply, empty other]
    split <;> simp_all
  · exact absurd taken free

/-- The party that is inside leaves and gives the permit back. -/
theorem leave (exclusive : Exclusive permits inside) {party : Party}
    (held : inside party = true) :
    Exclusive (permits + 1) (Function.update inside party false) := by
  rcases exclusive with ⟨_, empty⟩ | ⟨taken, holder, holds⟩
  · rw [empty party] at held
    contradiction
  · left
    refine ⟨by omega, ?_⟩
    intro other
    rw [Function.update_apply]
    split
    next => rfl
    next another =>
      rw [Bool.eq_false_iff]
      intro alsoHeld
      exact another (((holds other).mp alsoHeld).trans ((holds party).mp held).symm)

/-- A party that goes on where it is. -/
theorem stay (exclusive : Exclusive permits inside) {party : Party} {now : Bool}
    (same : now = inside party) : Exclusive permits (Function.update inside party now) := by
  rw [same, Function.update_eq_self]
  exact exclusive

end Exclusive

/-- What a step of a party does to the permits: it takes one and is inside, it is inside and gives one
back, or neither. -/
inductive Passes (permits : Nat) (before : Bool) : Nat → Bool → Prop where
  | enters (free : permits ≠ 0) : Passes permits before (permits - 1) true
  | leaves (held : before = true) : Passes permits before (permits + 1) false
  | stays : Passes permits before permits before

theorem Passes.of_same {permits : Nat} {before now : Bool} (same : now = before) :
    Passes permits before permits now :=
  same ▸ .stays

theorem Exclusive.pass [DecidableEq Party] {permits later : Nat} {inside : Party → Bool}
    {party : Party} {now : Bool} (exclusive : Exclusive permits inside)
    (passes : Passes permits (inside party) later now) :
    Exclusive later (Function.update inside party now) := by
  cases passes with
  | enters free => exact exclusive.enter free party
  | leaves held => exact exclusive.leave held
  | stays => exact exclusive.stay rfl

end SqlRelay.Foundation
