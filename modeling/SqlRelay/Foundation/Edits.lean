import Mathlib.Data.List.Basic

/-!
# Edits of a text

A replacement is put in place of stretches of one width.  Where the replacement can be told from
what it replaces, the result tells which stretches were replaced.
-/

namespace SqlRelay.Foundation

universe u

variable {α : Type u}

/-- Put the replacement in place of `width` symbols after each of the gaps. -/
def edit (replacement : List α) (width : Nat) : List Nat → List α → List α
  | [], text => text
  | gap :: gaps, text =>
      text.take gap ++ replacement ++ edit replacement width gaps (text.drop (gap + width))

/-- After each gap there is a symbol that may be replaced. -/
def Editable (replaceable : α → Prop) (width : Nat) : List Nat → List α → Prop
  | [], _ => True
  | gap :: gaps, text =>
      (∃ symbol, text[gap]? = some symbol ∧ replaceable symbol) ∧
        Editable replaceable width gaps (text.drop (gap + width))

variable {replacement extra text : List α} {first : α} {replaceable : α → Prop} {width : Nat}

theorem length_take_of_getElem? {place : Nat} {symbol : α} (here : text[place]? = some symbol) :
    (text.take place).length = place := by
  rw [List.length_take, Nat.min_eq_left]
  exact Nat.le_of_lt (List.getElem?_eq_some_iff.mp here).1

theorem getElem?_append_of_some {place : Nat} {symbol : α} (here : text[place]? = some symbol)
    (extra : List α) : (text ++ extra)[place]? = some symbol := by
  rw [List.getElem?_append_left (List.getElem?_eq_some_iff.mp here).1, here]

/-- At the first gap the replacement begins. -/
theorem edit_at_gap {gap : Nat} {gaps : List Nat} {symbol : α} (here : text[gap]? = some symbol)
    (begins : replacement.head? = some first) :
    (edit replacement width (gap :: gaps) text)[gap]? = some first := by
  have length := length_take_of_getElem? here
  rw [edit, List.append_assoc, List.getElem?_append_right (Nat.le_of_eq length), length,
    Nat.sub_self]
  cases replacement with
  | nil => cases begins
  | cons symbol rest => simpa using begins

/-- Before the first gap nothing is replaced. -/
theorem edit_before {place gap : Nat} {gaps : List Nat} {symbol : α}
    (here : text[gap]? = some symbol) (before : place < gap) :
    (edit replacement width (gap :: gaps) text)[place]? = text[place]? := by
  have length := length_take_of_getElem? here
  rw [edit, List.append_assoc, List.getElem?_append_left (by rw [length]; exact before),
    List.getElem?_take, if_pos before]

/-- Two ways to edit a text give the same only if they replace the same. -/
theorem edit_append_eq_iff (begins : replacement.head? = some first)
    (told : ¬replaceable first) {gaps others : List Nat}
    (editable : Editable replaceable width gaps text)
    (editable' : Editable replaceable width others text) :
    edit replacement width gaps text ++ extra = edit replacement width others text ↔
      gaps = others ∧ extra = [] := by
  constructor
  · intro same
    induction gaps generalizing others text with
    | nil =>
        cases others with
        | nil => exact ⟨rfl, List.append_cancel_left (same.trans (List.append_nil _).symm)⟩
        | cons gap others =>
            obtain ⟨⟨symbol, here, isReplaceable⟩, -⟩ := editable'
            have inside := (List.getElem?_eq_some_iff.mp here).1
            have atGap := @edit_at_gap _ replacement _ _ width _ others _ here begins
            rw [← same, edit, List.getElem?_append_left inside, here, Option.some.injEq] at atGap
            exact absurd (atGap ▸ isReplaceable) told
    | cons gap gaps ih =>
        obtain ⟨⟨symbol, here, isReplaceable⟩, later⟩ := editable
        have atGap := getElem?_append_of_some
          (@edit_at_gap _ replacement _ _ width _ gaps _ here begins) extra
        cases others with
        | nil =>
            rw [same, edit, here, Option.some.injEq] at atGap
            exact absurd (atGap ▸ isReplaceable) told
        | cons other others =>
            obtain ⟨⟨symbol', there, isReplaceable'⟩, later'⟩ := editable'
            rcases Nat.lt_trichotomy gap other with before | equal | behind
            · rw [same, edit_before there before, here, Option.some.injEq] at atGap
              exact absurd (atGap ▸ isReplaceable) told
            · subst equal
              rw [edit, edit, List.append_assoc, List.append_cancel_left_eq] at same
              have both := ih later later' same
              exact ⟨by rw [both.1], both.2⟩
            · have atOther := @edit_at_gap _ replacement _ _ width _ others _ there begins
              have unchanged := getElem?_append_of_some
                ((@edit_before _ replacement _ width _ _ gaps _ here behind).trans there) extra
              rw [same, atOther, Option.some.injEq] at unchanged
              exact absurd (unchanged ▸ isReplaceable') told
  · intro both
    rw [both.1, both.2, List.append_nil]

end SqlRelay.Foundation
