import Mathlib.Data.List.Basic

/-!
# Counting the entries of a list

How many entries have a property, as one entry changes or one is added.
-/

namespace SqlRelay.Foundation.Tally

variable {Entry : Type} {entries : List Entry} {place : Nat} {old new : Entry}

/-- A change at one place trades what the old entry counts for what the new one does. -/
theorem countP_set (has : Entry → Bool) (found : entries[place]? = some old) :
    (entries.set place new).countP has + (has old).toNat =
      entries.countP has + (has new).toNat := by
  induction entries generalizing place with
  | nil => simp at found
  | cons first entries ih =>
      cases place with
      | zero =>
          have same : first = old := by simpa using found
          subst same
          simp only [List.set_cons_zero, List.countP_cons]
          cases has first <;> cases has new <;> simp
      | succ place =>
          have rest := ih (by simpa using found)
          simp only [List.set_cons_succ, List.countP_cons]
          omega

theorem countP_append_singleton (has : Entry → Bool) :
    (entries ++ [new]).countP has = entries.countP has + (has new).toNat := by
  rw [List.countP_append]
  cases held : has new <;> simp [held]

theorem getElem?_set_same (found : entries[place]? = some old) :
    (entries.set place new)[place]? = some new := by
  have inside : place < entries.length := (List.getElem?_eq_some_iff.mp found).1
  simp [inside]

/-- What is at a place after one was changed: the new entry there, the old ones elsewhere. -/
theorem getElem?_set_eq_some (found : entries[place]? = some old) {other : Nat} {entry : Entry}
    (there : (entries.set place new)[other]? = some entry) :
    (other = place ∧ entry = new) ∨ (other ≠ place ∧ entries[other]? = some entry) := by
  by_cases same : other = place
  · subst same
    rw [getElem?_set_same found] at there
    exact Or.inl ⟨rfl, (Option.some.inj there).symm⟩
  · rw [List.getElem?_set_ne (Ne.symm same)] at there
    exact Or.inr ⟨same, there⟩

/-- What is at a place after an entry was added. -/
theorem getElem?_append_eq_some {other : Nat} {entry : Entry}
    (there : (entries ++ [new])[other]? = some entry) :
    entries[other]? = some entry ∨ (other = entries.length ∧ entry = new) := by
  by_cases inside : other < entries.length
  · rw [List.getElem?_append_left inside] at there
    exact Or.inl there
  · rw [List.getElem?_append_right (Nat.le_of_not_lt inside)] at there
    have first : other - entries.length = 0 := by
      have bound := (List.getElem?_eq_some_iff.mp there).1
      simp only [List.length_singleton] at bound
      omega
    rw [first] at there
    apply Or.inr
    constructor
    · omega
    · simpa using there.symm

end SqlRelay.Foundation.Tally
