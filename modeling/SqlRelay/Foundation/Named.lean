import Mathlib.Data.List.Nodup

/-!
# Named entries

A list of entries with names, where an entry of a name takes the place of the one that had the name.
-/

namespace SqlRelay.Foundation.Named

variable {Name Value : Type} [DecidableEq Name]

def names (entries : List (Name × Value)) : List Name := entries.map (·.1)

/-- The entry of this name is replaced, or goes behind the others. -/
def set (name : Name) (value : Value) : List (Name × Value) → List (Name × Value)
  | [] => [(name, value)]
  | entry :: entries =>
      if entry.1 = name then (name, value) :: entries else entry :: set name value entries

def setAll (entries : List (Name × Value)) : List (Name × Value) :=
  entries.foldl (fun done entry => set entry.1 entry.2 done) []

theorem set_of_not_mem {name : Name} {value : Value} {entries : List (Name × Value)}
    (absent : name ∉ names entries) : set name value entries = entries ++ [(name, value)] := by
  induction entries with
  | nil => rfl
  | cons entry entries induction =>
    simp only [names, List.map_cons, List.mem_cons, not_or] at absent
    have other : entry.1 ≠ name := fun same => absent.1 same.symm
    simp only [set, other, if_false, List.cons_append]
    rw [induction absent.2]

theorem mem_names_set (name other : Name) (value : Value) (entries : List (Name × Value)) :
    other ∈ names (set name value entries) ↔ other = name ∨ other ∈ names entries := by
  induction entries with
  | nil => simp [set, names]
  | cons entry entries induction =>
    simp only [names] at induction
    cases decEq entry.1 name with
    | isTrue same => simp [set, same, names]
    | isFalse different =>
      simp only [set, different, if_false, names, List.map_cons, List.mem_cons, induction]
      exact or_left_comm

theorem nodup_names_set {name : Name} {value : Value} {entries : List (Name × Value)}
    (nodup : (names entries).Nodup) : (names (set name value entries)).Nodup := by
  induction entries with
  | nil => exact List.nodup_singleton name
  | cons entry entries induction =>
    have later := List.nodup_cons.mp nodup
    cases decEq entry.1 name with
    | isTrue same =>
      simp only [set, same, if_true]
      rw [← same]
      exact nodup
    | isFalse different =>
      simp only [set, different, if_false]
      apply List.nodup_cons.mpr
      constructor
      · intro member
        cases (mem_names_set name entry.1 value entries).mp member with
        | inl same => exact different same
        | inr there => exact later.1 there
      · exact induction later.2

theorem nodup_names_setAll (entries : List (Name × Value)) : (names (setAll entries)).Nodup := by
  have keeps : ∀ done : List (Name × Value), (names done).Nodup →
      (names (entries.foldl (fun done entry => set entry.1 entry.2 done) done)).Nodup := by
    induction entries with
    | nil =>
      intro done nodup
      exact nodup
    | cons entry entries induction =>
      intro done nodup
      exact induction _ (nodup_names_set nodup)
  exact keeps [] List.nodup_nil

theorem names_setAll_subset (entries : List (Name × Value)) :
    names (setAll entries) ⊆ names entries := by
  have within : ∀ done : List (Name × Value),
      names (entries.foldl (fun done entry => set entry.1 entry.2 done) done) ⊆
        names done ++ names entries := by
    induction entries with
    | nil =>
      intro done
      simp [names]
    | cons entry entries induction =>
      intro done name member
      have there := List.mem_append.mp (induction (set entry.1 entry.2 done) member)
      rw [mem_names_set] at there
      simp only [names, List.map_cons, List.mem_append, List.mem_cons] at there ⊢
      tauto
  exact within []

/-- Entries with names of their own stay as they are. -/
theorem setAll_eq_self {entries : List (Name × Value)} (nodup : (names entries).Nodup) :
    setAll entries = entries := by
  have goes : ∀ done : List (Name × Value), (names (done ++ entries)).Nodup →
      entries.foldl (fun done entry => set entry.1 entry.2 done) done = done ++ entries := by
    clear nodup
    induction entries with
    | nil =>
      intro done _
      simp
    | cons entry entries induction =>
      intro done nodup
      have absent : entry.1 ∉ names done := by
        intro member
        simp only [names, List.map_append, List.map_cons] at nodup member
        exact (List.nodup_append.mp nodup).2.2 _ member _ (by simp) rfl
      rw [List.foldl_cons, set_of_not_mem absent, induction]
      · simp
      · simpa using nodup
  exact goes [] nodup

omit [DecidableEq Name] in
theorem lookup_of_mem [BEq Name] [LawfulBEq Name] {entries : List (Name × Value)} (nodup : (names entries).Nodup)
    {name : Name} {value : Value} (member : (name, value) ∈ entries) :
    entries.lookup name = some value := by
  induction entries with
  | nil => cases member
  | cons first entries induction =>
    have later := List.nodup_cons.mp nodup
    cases first with
    | mk other held =>
      cases List.mem_cons.mp member with
      | inl same =>
        cases same
        simp
      | inr there =>
        have ne : name ≠ other := by
          intro same
          apply later.1
          exact List.mem_map.mpr ⟨(name, value), there, same⟩
        simp only [List.lookup_cons, beq_eq_false_iff_ne.mpr ne]
        exact induction later.2 there

end SqlRelay.Foundation.Named

/-!
## Dictionaries

A dictionary keeps its entries in the order in which their keys came in, and has each key once.
-/

namespace SqlRelay.Foundation

structure Dictionary (Key Value : Type) where
  entries : List (Key × Value)
  nodup : (Named.names entries).Nodup

namespace Dictionary

variable {Key Value : Type} [DecidableEq Key]

omit [DecidableEq Key] in
theorem nodup_empty : (Named.names ([] : List (Key × Value))).Nodup := List.nodup_nil

def empty : Dictionary Key Value := ⟨[], nodup_empty⟩

def getValue (dictionary : Dictionary Key Value) (key : Key) : Option Value :=
  dictionary.entries.lookup key

/-- A key that is there keeps its place. -/
def setValue (dictionary : Dictionary Key Value) (key : Key) (value : Value) :
    Dictionary Key Value :=
  ⟨Named.set key value dictionary.entries, Named.nodup_names_set dictionary.nodup⟩

omit [DecidableEq Key] in
theorem nodup_filter (dictionary : Dictionary Key Value) (keeps : Key × Value → Bool) :
    (Named.names (dictionary.entries.filter keeps)).Nodup :=
  (List.filter_sublist.map _).nodup dictionary.nodup

def filter (dictionary : Dictionary Key Value) (keeps : Key × Value → Bool) :
    Dictionary Key Value :=
  ⟨dictionary.entries.filter keeps, dictionary.nodup_filter keeps⟩

def remove (dictionary : Dictionary Key Value) (key : Key) : Dictionary Key Value :=
  dictionary.filter fun entry => entry.1 ≠ key

variable {dictionary : Dictionary Key Value} {key other : Key} {value held : Value}

theorem getValue_eq_some : dictionary.getValue key = some value ↔ (key, value) ∈ dictionary.entries := by
  constructor
  · intro found
    cases dictionary with
    | mk entries nodup =>
      simp only [getValue] at found
      induction entries with
      | nil => cases found
      | cons entry entries induction =>
        cases entry with
        | mk first value' =>
          simp only [List.lookup_cons] at found
          split at found
          · next same =>
            rw [beq_iff_eq.mp same, Option.some.inj found]
            exact List.mem_cons_self
          · exact List.mem_cons_of_mem _ (induction (List.nodup_cons.mp nodup).2 found)
  · intro member
    exact Named.lookup_of_mem dictionary.nodup member

theorem getValue_filter {keeps : Key × Value → Bool} :
    (dictionary.filter keeps).getValue key = some value ↔
      dictionary.getValue key = some value ∧ keeps (key, value) = true := by
  rw [getValue_eq_some, getValue_eq_some]
  exact List.mem_filter

theorem getValue_remove :
    (dictionary.remove other).getValue key = some value ↔
      dictionary.getValue key = some value ∧ key ≠ other := by
  rw [remove, getValue_filter, decide_eq_true_eq]

theorem lookup_set (entries : List (Key × Value)) :
    (Named.set other held entries).lookup key =
      if key = other then some held else entries.lookup key := by
  induction entries with
  | nil =>
    cases decEq key other with
    | isTrue same => simp [Named.set, same]
    | isFalse different =>
      have missed : (key == other) = false := beq_eq_false_iff_ne.mpr different
      simp [Named.set, List.lookup_cons, missed, different]
  | cons entry entries induction =>
    cases entry with
    | mk first value' =>
      cases decEq first other with
      | isTrue same =>
        cases decEq key other with
        | isTrue equal => simp [Named.set, same, equal]
        | isFalse different =>
          have missed : (key == other) = false := beq_eq_false_iff_ne.mpr different
          simp [Named.set, same, List.lookup_cons, missed, different]
      | isFalse apart =>
        cases decEq key first with
        | isTrue equal =>
          subst equal
          simp [Named.set, apart]
        | isFalse different =>
          have missed : (key == first) = false := beq_eq_false_iff_ne.mpr different
          simp only [Named.set, apart, if_false, List.lookup_cons, missed, induction]

theorem getValue_setValue :
    (dictionary.setValue other held).getValue key =
      if key = other then some held else dictionary.getValue key :=
  lookup_set dictionary.entries

end Dictionary

end SqlRelay.Foundation
