import Mathlib.Data.List.Basic

/-!
# Finite runs of a step function

A deterministic system is a step function; everything its environment decides
is part of the input.  This module fixes one vocabulary for statements about
all finite runs: a property observed at every step, an invariant preserved by
the steps that meet a guard, and two systems kept in a relation.  Every rule
turns a fact about one step into a fact about every run.
-/

namespace SqlRelay.Foundation

universe u v w

variable {State : Type u} {Other : Type v} {Input : Type w}

/-- `observe` holds of every input of the run and of the state it is taken
from. -/
def Along (step : State → Input → State) (observe : State → Input → Prop) :
    State → List Input → Prop
  | _, [] => True
  | state, input :: rest =>
      observe state input ∧ Along step observe (step state input) rest

namespace Along

variable {step : State → Input → State}
variable {guard observe : State → Input → Prop} {inv : State → Prop}

@[simp] theorem nil (state : State) : Along step observe state [] := trivial

@[simp] theorem cons_iff (state : State) (input : Input) (rest : List Input) :
    Along step observe state (input :: rest) ↔
      observe state input ∧ Along step observe (step state input) rest := Iff.rfl

/-- A run can be checked by running it. -/
instance decidable [∀ state input, Decidable (observe state input)] (state : State)
    (inputs : List Input) : Decidable (Along step observe state inputs) :=
  match inputs with
  | [] => isTrue trivial
  | input :: rest =>
      have := decidable (step state input) rest
      inferInstanceAs (Decidable (observe state input ∧ Along step observe (step state input) rest))

theorem append_iff (state : State) (front back : List Input) :
    Along step observe state (front ++ back) ↔
      Along step observe state front ∧
        Along step observe (front.foldl step state) back := by
  induction front generalizing state with
  | nil => simp
  | cons input rest ih => simp [ih, and_assoc]

theorem mono (imp : ∀ state input, guard state input → observe state input)
    {state : State} {inputs : List Input} (along : Along step guard state inputs) :
    Along step observe state inputs := by
  induction inputs generalizing state with
  | nil => trivial
  | cons input rest ih => exact ⟨imp _ _ along.1, ih along.2⟩

theorem and_iff (state : State) (inputs : List Input) :
    Along step (fun state input => guard state input ∧ observe state input) state inputs ↔
      Along step guard state inputs ∧ Along step observe state inputs := by
  induction inputs generalizing state with
  | nil => simp
  | cons input rest ih =>
      rw [cons_iff, cons_iff, cons_iff, ih]
      exact and_and_and_comm

/-- Invariant rule: steps that meet the guard preserve the invariant, so a
guarded run from a state that has it ends in one. -/
theorem invariant
    (preserves : ∀ state input, inv state → guard state input → inv (step state input))
    {state : State} {inputs : List Input} (initial : inv state)
    (along : Along step guard state inputs) : inv (inputs.foldl step state) := by
  induction inputs generalizing state with
  | nil => exact initial
  | cons input rest ih =>
      exact ih (preserves state input initial along.1) along.2

/-- What a guarded step shows while the invariant holds, a guarded run shows at
every step. -/
theorem of_guard
    (preserves : ∀ state input, inv state → guard state input → inv (step state input))
    (shows : ∀ state input, inv state → guard state input → observe state input)
    {state : State} {inputs : List Input} (initial : inv state)
    (along : Along step guard state inputs) : Along step observe state inputs := by
  induction inputs generalizing state with
  | nil => trivial
  | cons input rest ih =>
      exact ⟨shows state input initial along.1,
        ih (preserves state input initial along.1) along.2⟩

/-- What every step shows while the invariant holds, which every step preserves. -/
theorem of_invariant (preserves : ∀ state input, inv state → inv (step state input))
    (shows : ∀ state input, inv state → observe state input) {state : State} (initial : inv state)
    (inputs : List Input) : Along step observe state inputs := by
  induction inputs generalizing state with
  | nil => trivial
  | cons input rest ih => exact ⟨shows state input initial, ih (preserves state input initial)⟩

/-- If, under the invariant, the guard is exactly what a step needs to show the
observation, then it is exactly what a run needs. -/
theorem iff_guard
    (preserves : ∀ state input, inv state → guard state input → inv (step state input))
    (exact_step : ∀ state input, inv state → (observe state input ↔ guard state input))
    {state : State} {inputs : List Input} (initial : inv state) :
    Along step observe state inputs ↔ Along step guard state inputs := by
  induction inputs generalizing state with
  | nil => simp
  | cons input rest ih =>
      simp only [cons_iff, exact_step state input initial]
      constructor
      · rintro ⟨met, later⟩
        exact ⟨met, (ih (preserves state input initial met)).mp later⟩
      · rintro ⟨met, later⟩
        exact ⟨met, (ih (preserves state input initial met)).mpr later⟩

end Along

/-- Unguarded invariant rule. -/
theorem foldl_invariant {step : State → Input → State} {inv : State → Prop}
    (preserves : ∀ state input, inv state → inv (step state input))
    {state : State} (initial : inv state) (inputs : List Input) :
    inv (inputs.foldl step state) := by
  induction inputs generalizing state with
  | nil => exact initial
  | cons input rest ih => exact ih (preserves state input initial)

end SqlRelay.Foundation
