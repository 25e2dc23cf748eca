import Mathlib.Data.List.Basic

/-!
# What is kept

Where the items are that `filterMap` keeps of a list, and when two functions keep the same.
-/

namespace SqlRelay.Foundation.Kept

variable {α β : Type} {f g : α → Option β}

theorem getElem?_filterMap_of_kept {list : List α} {index : Nat} {item : α} {result : β}
    (found : list[index]? = some item) (kept : f item = some result)
    (before : ∀ other, other < index → ∀ item, list[other]? = some item → f item ≠ none) :
    (list.filterMap f)[index]? = some result := by
  induction list generalizing index with
  | nil => simp at found
  | cons head list induction =>
    cases index with
    | zero =>
      cases found
      simp [List.filterMap_cons_some kept]
    | succ index =>
      cases first : f head with
      | none => exact absurd first (before 0 (Nat.succ_pos index) head rfl)
      | some result' =>
        rw [List.filterMap_cons_some first, List.getElem?_cons_succ]
        apply induction (List.getElem?_cons_succ ▸ found)
        intro other less item there
        exact before (other + 1) (Nat.succ_lt_succ less) item there

/-- What is kept does not move up, and stays where it is only when all before it is kept. -/
theorem exists_of_getElem?_filterMap {list : List α} {index : Nat} {result : β}
    (found : (list.filterMap f)[index]? = some result) :
    ∃ place item, list[place]? = some item ∧ f item = some result ∧ index ≤ place ∧
      (place = index →
        ∀ other, other < index → ∀ item, list[other]? = some item → f item ≠ none) := by
  induction list generalizing index with
  | nil => simp at found
  | cons head list induction =>
    cases first : f head with
    | none =>
      rw [List.filterMap_cons_none first] at found
      cases induction found with
      | intro place later =>
        cases later with
        | intro item later =>
          exact ⟨place + 1, item, later.1, later.2.1, Nat.le_succ_of_le later.2.2.1, by omega⟩
    | some result' =>
      rw [List.filterMap_cons_some first] at found
      cases index with
      | zero =>
        cases found
        exact ⟨0, head, rfl, first, Nat.le_refl 0, by omega⟩
      | succ index =>
        cases induction (List.getElem?_cons_succ ▸ found) with
        | intro place later =>
          cases later with
          | intro item later =>
            have before := later.2.2.2
            exact ⟨place + 1, item, later.1, later.2.1, Nat.succ_le_succ later.2.2.1, by
              intro same other less item there
              cases other with
              | zero =>
                cases there
                simp [first]
              | succ other => exact before (by omega) other (by omega) item there⟩

/-- When what is kept tells which item it comes from, lists are the same only if each item's are. -/
theorem filterMap_eq_iff {list : List α}
    (tells : ∀ item other result, f item = some result → g other = some result → item = other) :
    list.filterMap f = list.filterMap g ↔ ∀ item ∈ list, f item = g item := by
  constructor
  · intro same item member
    apply Option.ext
    intro result
    constructor
    · intro kept
      have there : result ∈ list.filterMap g := same ▸ List.mem_filterMap.mpr ⟨item, member, kept⟩
      cases List.mem_filterMap.mp there with
      | intro other found =>
        rw [tells item other result kept found.2]
        exact found.2
    · intro kept
      have there : result ∈ list.filterMap f := same ▸ List.mem_filterMap.mpr ⟨item, member, kept⟩
      cases List.mem_filterMap.mp there with
      | intro other found =>
        rw [← tells other item result found.2 kept]
        exact found.2
  · intro same
    exact List.filterMap_congr same

/-- All of a list is kept as it is when each item is. -/
theorem map_eq_self_iff {change : α → α} {list : List α} :
    list.map change = list ↔ ∀ item ∈ list, change item = item := by
  have same : list.map change = list.map id ↔ ∀ item ∈ list, change item = id item :=
    List.map_inj_left
  rw [List.map_id] at same
  exact same

end SqlRelay.Foundation.Kept
