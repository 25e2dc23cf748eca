import Mathlib.Logic.Function.Basic

/-!
# Names that own slots

Slots are allocated to names: a name owns at most one slot, and every slot that is owned is
allocated, and owned once.
-/

namespace SqlRelay.Foundation

universe u v

variable {Name : Type u} {Slot : Type v}

/-- Every slot that a name owns is allocated, and no two names own the same one. -/
structure Owns (allocated : Slot → Prop) (owned : Name → Option Slot) : Prop where
  allocated : ∀ name slot, owned name = some slot → allocated slot
  apart : ∀ first second slot, owned first = some slot → owned second = some slot → first = second

namespace Owns

variable {allocated after : Slot → Prop} {owned : Name → Option Slot}

theorem empty (allocated : Slot → Prop) : Owns allocated fun _ : Name => none where
  allocated name slot found := by cases found
  apart first second slot found := by cases found

theorem mono (owns : Owns allocated owned) (grows : ∀ slot, allocated slot → after slot) :
    Owns after owned where
  allocated name slot found := grows slot (owns.allocated name slot found)
  apart := owns.apart

/-- A slot that is not allocated is nobody's. -/
theorem unowned (owns : Owns allocated owned) {slot : Slot} (free : ¬allocated slot) (name : Name) :
    owned name ≠ some slot := by
  intro found
  exact free (owns.allocated name slot found)

variable [DecidableEq Name]

/-- A name may take a slot that was not allocated. -/
theorem take (owns : Owns allocated owned) (name : Name) {slot : Slot} (free : ¬allocated slot)
    (grows : ∀ other, allocated other → after other) (taken : after slot) :
    Owns after (Function.update owned name (some slot)) := by
  constructor
  · intro other found owner
    by_cases same : other = name
    · subst same
      rw [Function.update_self] at owner
      exact Option.some.inj owner ▸ taken
    · rw [Function.update_of_ne same] at owner
      exact grows found (owns.allocated other found owner)
  · intro first second found owner also
    by_cases isFirst : first = name
    · by_cases isSecond : second = name
      · exact isFirst.trans isSecond.symm
      · subst isFirst
        rw [Function.update_self] at owner
        rw [Function.update_of_ne isSecond] at also
        exact absurd also (Option.some.inj owner ▸ owns.unowned free second)
    · rw [Function.update_of_ne isFirst] at owner
      by_cases isSecond : second = name
      · subst isSecond
        rw [Function.update_self] at also
        exact absurd owner (Option.some.inj also ▸ owns.unowned free first)
      · rw [Function.update_of_ne isSecond] at also
        exact owns.apart first second found owner also

/-- A name may give up its slot, which may be released then. -/
theorem drop (owns : Owns allocated owned) {name : Name} {slot : Slot}
    (mine : owned name = some slot) (keeps : ∀ other, other ≠ slot → allocated other → after other) :
    Owns after (Function.update owned name none) := by
  have others : ∀ {other found}, Function.update owned name none other = some found →
      other ≠ name ∧ owned other = some found := by
    intro other found owner
    by_cases same : other = name
    · subst same
      rw [Function.update_self] at owner
      cases owner
    · rw [Function.update_of_ne same] at owner
      exact ⟨same, owner⟩
  constructor
  · intro other found owner
    obtain ⟨different, owner⟩ := others owner
    apply keeps found _ (owns.allocated other found owner)
    intro same
    exact different (owns.apart other name found owner (same ▸ mine))
  · intro first second found owner also
    exact owns.apart first second found (others owner).2 (others also).2

/-- Releasing a slot behind the names' backs is harmless exactly if nobody owns it. -/
theorem release_iff (owns : Owns allocated owned) {slot : Slot} (released : ¬after slot)
    (keeps : ∀ other, other ≠ slot → allocated other → after other) :
    Owns after owned ↔ ∀ name, owned name ≠ some slot := by
  constructor
  · intro still name
    exact still.unowned released name
  · intro nobody
    constructor
    · intro name found owner
      apply keeps found _ (owns.allocated name found owner)
      intro same
      exact nobody name (same ▸ owner)
    · exact owns.apart

end Owns

end SqlRelay.Foundation
