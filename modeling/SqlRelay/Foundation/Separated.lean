import Mathlib.Data.List.TakeWhile

/-!
# Lists of separated items

A list of items is written with a separator between them and a closing mark behind the last one.  It
is read back by cutting at the first closing mark and splitting at the separators.  An item that has
a separator or a closing mark in it is cut there, so that what is read back says which items have
none.
-/

namespace SqlRelay.Foundation.Separated

variable {α : Type} [BEq α] [LawfulBEq α]

/-- The items, the closing mark, and what stands behind it. -/
def write (separator closing : α) (rest : List α) : List (List α) → List α
  | [] => closing :: rest
  | [item] => item ++ closing :: rest
  | item :: other :: others =>
      item ++ separator :: write separator closing rest (other :: others)

/-- The parts before the first element that `closes` the list. -/
def parts (separator : α) (closes : α → Bool) (text : List α) : List (List α) :=
  (text.takeWhile fun element => !closes element).splitOn separator

omit [BEq α] [LawfulBEq α] in
/-- What is written begins with the first item. -/
theorem write_cons (separator closing : α) (rest item : List α) (others : List (List α)) :
    ∃ behind, write separator closing rest (item :: others) = item ++ behind ∧ behind ≠ [] := by
  cases others with
  | nil => exact ⟨_, rfl, List.cons_ne_nil _ _⟩
  | cons other others => exact ⟨_, rfl, List.cons_ne_nil _ _⟩

/-- The element neither separates items nor closes the list. -/
def inside (separator : α) (closes : α → Bool) (element : α) : Bool :=
  element != separator && !closes element

variable {separator closing : α} {closes : α → Bool} {text item rest : List α}

theorem head_splitOn (text : List α) :
    (text.splitOn separator).head? = some (text.takeWhile fun element => element != separator) := by
  by_cases found : separator ∈ text
  · obtain ⟨front, back, split, first⟩ := List.eq_append_cons_of_mem found
    have before : ∀ element ∈ front, (element != separator) = true := by
      intro element listed
      exact bne_iff_ne.mpr fun same => first (same ▸ listed)
    rw [split, List.splitOn_append_cons_self_of_not_mem first, List.takeWhile_append_of_pos before]
    simp
  · have none_there : ∀ element ∈ text, (element != separator) = true := by
      intro element listed
      exact bne_iff_ne.mpr fun same => found (same ▸ listed)
    rw [List.splitOn_eq_singleton found, List.takeWhile_eq_self_iff.mpr none_there]
    rfl

omit [LawfulBEq α] in
theorem length_splitOn (separator : α) (text : List α) :
    (text.splitOn separator).length = text.count separator + 1 := by
  induction text with
  | nil => rfl
  | cons element text ih =>
      rw [List.splitOn_cons_eq_if_modifyHead, List.count_cons]
      split
      case isTrue => rw [List.length_cons, ih]
      case isFalse => rw [List.length_modifyHead, ih]

theorem notMem_of_mem_splitOn (separator : α) (text : List α) :
    ∀ part ∈ text.splitOn separator, separator ∉ part := by
  induction text with
  | nil => simp
  | cons element text ih =>
      rw [List.splitOn_cons_eq_if_modifyHead]
      split
      case isTrue =>
        rw [List.forall_mem_cons]
        exact ⟨List.not_mem_nil, ih⟩
      case isFalse other =>
        cases parts : text.splitOn separator with
        | nil => simp
        | cons part rest =>
            rw [parts, List.forall_mem_cons] at ih
            rw [List.modifyHead_cons, List.forall_mem_cons, List.mem_cons, not_or]
            refine ⟨⟨?_, ih.1⟩, ih.2⟩
            intro same
            exact other (beq_iff_eq.mpr same.symm)

omit [BEq α] [LawfulBEq α] in
/-- A separator that neither of the items has stands behind both, so that they are the same. -/
theorem append_cons_inj {left right after later : List α} (absent : separator ∉ left)
    (absent' : separator ∉ right) :
    left ++ separator :: after = right ++ separator :: later ↔ left = right ∧ after = later := by
  constructor
  · intro whole
    induction left generalizing right with
    | nil =>
        cases right with
        | nil => exact ⟨rfl, List.cons_inj_right _ |>.mp whole⟩
        | cons element right =>
            rw [List.nil_append, List.cons_append, List.cons.injEq] at whole
            rw [whole.1] at absent'
            exact absurd (List.mem_cons_self ..) absent'
    | cons element left ih =>
        rw [List.mem_cons, not_or] at absent
        cases right with
        | nil =>
            rw [List.nil_append, List.cons_append, List.cons.injEq] at whole
            exact absurd whole.1.symm absent.1
        | cons element' right =>
            rw [List.mem_cons, not_or] at absent'
            rw [List.cons_append, List.cons_append, List.cons.injEq] at whole
            rcases ih absent.2 absent'.2 whole.2 with ⟨rfl, rfl⟩
            exact ⟨by rw [whole.1], rfl⟩
  · rintro ⟨rfl, rfl⟩
    rfl

/-- The first part is the first item up to what ends it. -/
theorem head_parts {mark : α} (ends : inside separator closes mark = false) (item rest : List α) :
    (parts separator closes (item ++ mark :: rest)).head? =
      some (item.takeWhile (inside separator closes)) := by
  rw [parts, head_splitOn, List.takeWhile_takeWhile]
  have same : (fun element => decide ((element != separator) = true ∧ (!closes element) = true)) =
      inside separator closes := by
    funext element
    simp [inside, Bool.decide_and]
  rw [same, List.takeWhile_append]
  split
  case isTrue whole => simp [ends, (List.takeWhile_sublist _).eq_of_length whole]
  case isFalse => rfl

omit [LawfulBEq α] in
theorem not_closes_of_inside (whole : ∀ element ∈ item, inside separator closes element = true) :
    ∀ element ∈ item, (!closes element) = true := by
  intro element listed
  have found := whole element listed
  rw [inside, Bool.and_eq_true] at found
  exact found.2

theorem notMem_of_inside (whole : ∀ element ∈ item, inside separator closes element = true) :
    separator ∉ item := by
  intro listed
  have found := whole separator listed
  simp [inside] at found

/-- An item that nothing ends early is a part. -/
theorem parts_separator (separates : closes separator = false)
    (whole : ∀ element ∈ item, inside separator closes element = true) (rest : List α) :
    parts separator closes (item ++ separator :: rest) = item :: parts separator closes rest := by
  rw [parts, List.takeWhile_append_of_pos (not_closes_of_inside whole),
    List.takeWhile_cons_of_pos (by simp [separates]),
    List.splitOn_append_cons_self_of_not_mem (notMem_of_inside whole)]
  rfl

theorem parts_closing (closed : closes closing = true)
    (whole : ∀ element ∈ item, inside separator closes element = true) (rest : List α) :
    parts separator closes (item ++ closing :: rest) = [item] := by
  rw [parts, List.takeWhile_append_of_pos (not_closes_of_inside whole),
    List.takeWhile_cons_of_neg (by simp [closed]), List.append_nil,
    List.splitOn_eq_singleton (notMem_of_inside whole)]

/-- An item whose part gives what is expected of it is all of that part. -/
theorem inside_of_map_parts {β : Type} {mark : α} {read : List α → β} {value : β} {values : List β}
    (ends : inside separator closes mark = false) (rest : List α)
    (only : read (item.takeWhile (inside separator closes)) = value →
      ∀ element ∈ item, inside separator closes element = true)
    (same : (parts separator closes (item ++ mark :: rest)).map read = value :: values) :
    ∀ element ∈ item, inside separator closes element = true := by
  have started := congrArg List.head? same
  rw [List.head?_map, head_parts ends item rest] at started
  exact only (Option.some.inj started)

/-- What is read back of the items is what is expected of them, if and only if nothing ends an item
early and it is so for every item.  `only` is what the reader can tell: a part that was ended early
does not give what is expected. -/
theorem map_parts_iff {ι β : Type} {raw : ι → List α} {read : List α → β} {expected : ι → β}
    (separates : closes separator = false) (closed : closes closing = true) (rest : List α)
    {items : List ι} (some_item : items ≠ [])
    (only : ∀ item ∈ items, read ((raw item).takeWhile (inside separator closes)) = expected item →
      ∀ element ∈ raw item, inside separator closes element = true) :
    (parts separator closes (write separator closing rest (items.map raw))).map read =
        items.map expected ↔
      ∀ item ∈ items, (∀ element ∈ raw item, inside separator closes element = true) ∧
        read (raw item) = expected item := by
  have ends_closing : inside separator closes closing = false := by simp [inside, closed]
  have ends_separator : inside separator closes separator = false := by simp [inside]
  induction items with
  | nil => exact absurd rfl some_item
  | cons item others ih =>
      have here := only item (List.mem_cons_self ..)
      cases others with
      | nil =>
          simp only [List.map_cons, List.map_nil, write, List.mem_singleton, forall_eq]
          constructor
          · intro same
            have whole := inside_of_map_parts ends_closing rest here same
            rw [parts_closing closed whole] at same
            exact ⟨whole, by simpa using same⟩
          · intro good
            rw [parts_closing closed good.1]
            simpa using good.2
      | cons other others =>
          have later := ih (by simp)
            fun item listed => only item (List.mem_cons_of_mem _ listed)
          simp only [List.map_cons, write] at later ⊢
          constructor
          · intro same
            have whole := inside_of_map_parts ends_separator _ here same
            rw [parts_separator separates whole, List.map_cons] at same
            have split := List.cons.inj same
            intro element listed
            cases List.mem_cons.mp listed with
            | inl isFirst =>
                rw [isFirst]
                exact ⟨whole, split.1⟩
            | inr behind => exact later.mp split.2 element behind
          · intro good
            have goodHere := good item (List.mem_cons_self ..)
            rw [parts_separator separates goodHere.1, List.map_cons, goodHere.2,
              later.mpr fun element listed => good element (List.mem_cons_of_mem _ listed)]

omit [LawfulBEq α] in
/-- The closing mark is found where no item closes the list. -/
theorem dropWhile_write (separates : closes separator = false) (closed : closes closing = true)
    (rest : List α) {items : List (List α)}
    (whole : ∀ item ∈ items, ∀ element ∈ item, inside separator closes element = true) :
    (write separator closing rest items).dropWhile (fun element => !closes element) =
      closing :: rest := by
  induction items with
  | nil => simp [write, closed]
  | cons item others ih =>
      have here := not_closes_of_inside (whole item (List.mem_cons_self ..))
      have later := ih fun other listed => whole other (List.mem_cons_of_mem _ listed)
      cases others with
      | nil =>
          rw [write, List.dropWhile_append_of_pos here, List.dropWhile_cons_of_neg (by simp [closed])]
      | cons other others =>
          rw [write, List.dropWhile_append_of_pos here,
            List.dropWhile_cons_of_pos (by simp [separates]), later]

end SqlRelay.Foundation.Separated
