/-!
# A token that is used at most once

A token may lie in places, of which there are arbitrarily many, and it may have been used.  It is
unplaced, or all of it is at one place and in its use, and then it lies there or has been used,
not both.
-/

namespace SqlRelay.Foundation.Token

variable {Place : Type}

/-- The token has neither been placed nor used. -/
def Unplaced (placed : Place → Nat) (used : Nat) : Prop :=
  used = 0 ∧ ∀ place, placed place = 0

/-- The token lies nowhere but at this place, once, and only if it has not been used. -/
def Once (place : Place) (placed : Place → Nat) (used : Nat) : Prop :=
  (∀ other, other ≠ place → placed other = 0) ∧ placed place + used ≤ 1

variable {place : Place} {placed after : Place → Nat} {used : Nat}

theorem Unplaced.once (unplaced : Unplaced placed used) (place : Place) :
    Once place placed used := by
  obtain ⟨unused, nowhere⟩ := unplaced
  constructor
  · intro other _
    exact nowhere other
  · have absent := nowhere place
    omega

theorem Once.used_le (once : Once place placed used) : used ≤ 1 := by
  have bound := once.2
  omega

/-- Losing a token is harmless. -/
theorem Unplaced.mono (unplaced : Unplaced placed used)
    (fewer : ∀ place, after place ≤ placed place) : Unplaced after used := by
  refine ⟨unplaced.1, ?_⟩
  intro place
  have gone := fewer place
  rw [unplaced.2 place] at gone
  omega

/-- Losing a token is harmless. -/
theorem Once.mono (once : Once place placed used)
    (fewer : ∀ place, after place ≤ placed place) : Once place after used := by
  constructor
  · intro other elsewhere
    have gone := fewer other
    rw [once.1 other elsewhere] at gone
    omega
  · have bound := once.2
    have gone := fewer place
    omega

/-- An unplaced token is placed once. -/
theorem Unplaced.put (unplaced : Unplaced placed used) (place : Place)
    (here : after place ≤ placed place + 1)
    (fewer : ∀ other, other ≠ place → after other ≤ placed other) : Once place after used := by
  constructor
  · intro other elsewhere
    have gone := fewer other elsewhere
    rw [unplaced.2 other] at gone
    omega
  · rw [unplaced.2 place] at here
    have unused := unplaced.1
    omega

/-- A token may be used without having been placed. -/
theorem Unplaced.use (unplaced : Unplaced placed used) (place : Place) :
    Once place placed (used + 1) := by
  obtain ⟨unused, nowhere⟩ := unplaced
  constructor
  · intro other _
    exact nowhere other
  · have absent := nowhere place
    omega

/-- A placed token is taken from where it lies, and used. -/
theorem Once.use (once : Once place placed used) {taken : Place}
    (there : after taken + 1 ≤ placed taken)
    (fewer : ∀ other, other ≠ taken → after other ≤ placed other) :
    taken = place ∧ used = 0 ∧ Once place after (used + 1) := by
  by_cases here : taken = place
  case neg =>
    have gone := once.1 taken here
    omega
  subst here
  have bound := once.2
  refine ⟨rfl, by omega, ?_, by omega⟩
  intro other elsewhere
  have gone := fewer other elsewhere
  rw [once.1 other elsewhere] at gone
  omega

/-- Once it has been lost unused, it is as if it had never been placed. -/
theorem Once.unplaced (once : Once place placed used) (lost : placed place = 0)
    (unused : used = 0) : Unplaced placed used := by
  refine ⟨unused, ?_⟩
  intro other
  by_cases here : other = place
  · rw [here, lost]
  · exact once.1 other here

end SqlRelay.Foundation.Token
