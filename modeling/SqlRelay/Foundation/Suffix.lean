import Mathlib.Data.List.DropRight

/-!
# The end of a list

What comes after the last entry of some kind: splitting there, and the longest suffix without
such an entry.
-/

namespace SqlRelay.Foundation

universe u v

variable {α : Type u} {β : Type v}

/-- A list with an entry of the kind has a last one. -/
theorem exists_last {property : α → Prop} {list : List α} (some : ∃ entry ∈ list, property entry) :
    ∃ before last after, list = before ++ last :: after ∧ property last ∧
      ∀ entry ∈ after, ¬ property entry := by
  induction list using List.reverseRecOn with
  | nil => simp at some
  | append_singleton list final ih =>
      by_cases ends : property final
      · exact ⟨list, final, [], rfl, ends, by simp⟩
      · obtain ⟨entry, member, kind⟩ := some
        have earlier : entry ∈ list := by
          rcases List.mem_append.mp member with inside | isFinal
          · exact inside
          · obtain rfl := List.mem_singleton.mp isFinal
            exact absurd kind ends
        obtain ⟨before, last, after, split, is, none⟩ := ih ⟨entry, earlier, kind⟩
        refine ⟨before, last, after ++ [final], by simp [split], is, ?_⟩
        intro later member
        rcases List.mem_append.mp member with inside | isFinal
        · exact none later inside
        · obtain rfl := List.mem_singleton.mp isFinal
          exact ends

theorem rtakeWhile_append_of_forall {test : α → Bool} (front : List α) {back : List α}
    (all : ∀ entry ∈ back, test entry = true) :
    (front ++ back).rtakeWhile test = front.rtakeWhile test ++ back := by
  have reversed : ∀ entry ∈ back.reverse, test entry = true := by simpa using all
  rw [List.rtakeWhile, List.rtakeWhile, List.reverse_append, List.takeWhile_append_of_pos reversed]
  simp

theorem rtakeWhile_map (test : β → Bool) (image : α → β) (list : List α) :
    (list.map image).rtakeWhile test = (list.rtakeWhile (test ∘ image)).map image := by
  rw [List.rtakeWhile, List.rtakeWhile, ← List.map_reverse, List.takeWhile_map, List.map_reverse]

theorem rtakeWhile_congr {test other : α → Bool} {list : List α}
    (agree : ∀ entry ∈ list, test entry = other entry) :
    list.rtakeWhile test = list.rtakeWhile other := by
  induction list using List.reverseRecOn with
  | nil => rfl
  | append_singleton list final ih =>
      have earlier := ih fun entry member => agree entry (List.mem_append_left _ member)
      rw [List.rtakeWhile_concat, List.rtakeWhile_concat, agree final (by simp), earlier]

/-- Two texts that are cut at the same separator, and agree when what does not start with it is
put there instead. -/
theorem append_inj_of_separator {separator : α} {left right after later ending final : List α}
    (whole : left ++ separator :: after = right ++ separator :: later)
    (same : left ++ ending = right ++ final) (notEnding : ending.head? ≠ some separator)
    (notFinal : final.head? ≠ some separator) : left = right ∧ after = later ∧ ending = final := by
  have none_between : ∀ {left right after later ending final : List α},
      left ++ separator :: after = right ++ separator :: later → left ++ ending = right ++ final →
        ending.head? ≠ some separator → ∀ between, right = left ++ between → between = [] := by
    intro left right after later ending final whole same notEnding between split
    subst split
    cases between with
    | nil => rfl
    | cons first between =>
        simp only [List.append_assoc, List.append_cancel_left_eq, List.cons_append,
          List.cons.injEq] at whole same
        rw [same, List.head?_cons, ← whole.1] at notEnding
        exact absurd rfl notEnding
  have equal : left = right := by
    rcases List.append_eq_append_iff.mp same with ⟨between, split, _⟩ | ⟨between, split, _⟩
    · rw [split, none_between whole same notEnding between split, List.append_nil]
    · rw [split, none_between whole.symm same.symm notFinal between split, List.append_nil]
  subst equal
  simp only [List.append_cancel_left_eq, List.cons.injEq, true_and] at whole same
  exact ⟨rfl, whole, same⟩

end SqlRelay.Foundation
