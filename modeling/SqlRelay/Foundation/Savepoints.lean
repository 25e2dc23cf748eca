import Mathlib.Order.Lattice

/-!
# Savepoints of a transaction

A transaction keeps one stack of savepoints.  Releasing one destroys it and every later one; rolling
back to one undoes all work after it and destroys the later ones.  Where savepoints are named in
rising order, a name tells which savepoints are later.
-/

namespace SqlRelay.Foundation

/-- What a transaction has done so far, and its savepoints, the newest first, each with how much had
been done when it was taken. -/
structure Transaction (Name Effect : Type) where
  work : List Effect
  savepoints : List (Name × Nat)

namespace Transaction

variable {Name Effect : Type}

def empty : Transaction Name Effect := ⟨[], []⟩

def savepoint (transaction : Transaction Name Effect) (name : Name) : Transaction Name Effect :=
  { transaction with savepoints := (name, transaction.work.length) :: transaction.savepoints }

def run (transaction : Transaction Name Effect) (effects : List Effect) :
    Transaction Name Effect :=
  { transaction with work := transaction.work ++ effects }

/-- The savepoint of that name exists. -/
def Exists (transaction : Transaction Name Effect) (name : Name) : Prop :=
  ∃ position, (name, position) ∈ transaction.savepoints

variable [LinearOrder Name]

/-- The latest savepoint of that name: where it was taken, and the ones before it. -/
def find (name : Name) : List (Name × Nat) → Option (Nat × List (Name × Nat))
  | [] => none
  | (other, position) :: earlier =>
      if name = other then some (position, earlier) else find name earlier

/-- A savepoint that does not exist is an error, and changes nothing. -/
def release (transaction : Transaction Name Effect) (name : Name) : Transaction Name Effect :=
  match find name transaction.savepoints with
  | some (_, earlier) => { transaction with savepoints := earlier }
  | none => transaction

def rollbackTo (transaction : Transaction Name Effect) (name : Name) : Transaction Name Effect :=
  match find name transaction.savepoints with
  | some (position, earlier) =>
      ⟨transaction.work.take position, (name, position) :: earlier⟩
  | none => transaction

/-- The savepoints are named in rising order, none of them was taken before one below it, and none
of them after the end of the work. -/
structure Ordered (transaction : Transaction Name Effect) : Prop where
  rising : transaction.savepoints.Pairwise fun later earlier =>
    earlier.1 < later.1 ∧ earlier.2 ≤ later.2
  bounded : ∀ name position, (name, position) ∈ transaction.savepoints →
    position ≤ transaction.work.length

theorem Ordered.empty : Ordered (empty : Transaction Name Effect) where
  rising := List.Pairwise.nil
  bounded _ _ inside := absurd inside List.not_mem_nil

theorem find_of_mem {savepoints : List (Name × Nat)} {name : Name} {position : Nat}
    (rising : savepoints.Pairwise fun later earlier => earlier.1 < later.1 ∧ earlier.2 ≤ later.2)
    (inside : (name, position) ∈ savepoints) :
    find name savepoints = some (position, savepoints.filter fun other => other.1 < name) := by
  induction savepoints with
  | nil => exact absurd inside List.not_mem_nil
  | cons newest savepoints ih =>
      obtain ⟨other, start⟩ := newest
      have below := List.pairwise_cons.mp rising
      rw [find]
      cases List.mem_cons.mp inside with
      | inl here =>
          cases here
          have all : savepoints.filter (fun other => other.1 < name) = savepoints := by
            apply List.filter_eq_self.mpr
            intro earlier listed
            exact decide_eq_true (below.1 earlier listed).1
          simp [all]
      | inr later =>
          have smaller : name < other := (below.1 _ later).1
          rw [if_neg (ne_of_lt smaller), ih below.2 later]
          simp [not_lt_of_gt smaller]

variable {transaction : Transaction Name Effect}

theorem Ordered.release_eq (ordered : transaction.Ordered) {name : Name}
    (live : transaction.Exists name) :
    transaction.release name =
      ⟨transaction.work, transaction.savepoints.filter fun other => other.1 < name⟩ := by
  obtain ⟨position, inside⟩ := live
  rw [Transaction.release, find_of_mem ordered.rising inside]

theorem Ordered.rollbackTo_eq (ordered : transaction.Ordered) {name : Name} {position : Nat}
    (inside : (name, position) ∈ transaction.savepoints) :
    transaction.rollbackTo name =
      ⟨transaction.work.take position,
        (name, position) :: transaction.savepoints.filter fun other => other.1 < name⟩ := by
  rw [Transaction.rollbackTo, find_of_mem ordered.rising inside]

theorem Ordered.position_unique (ordered : transaction.Ordered) {name : Name}
    {position other : Nat} (inside : (name, position) ∈ transaction.savepoints)
    (also : (name, other) ∈ transaction.savepoints) : position = other := by
  have first := find_of_mem ordered.rising inside
  have second := find_of_mem ordered.rising also
  have same := Option.some.inj (first.symm.trans second)
  exact congrArg Prod.fst same

theorem Ordered.savepoint (ordered : transaction.Ordered) {name : Name}
    (newer : ∀ other, transaction.Exists other → other < name) :
    (transaction.savepoint name).Ordered where
  rising := by
    apply List.Pairwise.cons
    · intro earlier inside
      exact ⟨newer earlier.1 ⟨earlier.2, inside⟩, ordered.bounded earlier.1 earlier.2 inside⟩
    · exact ordered.rising
  bounded other position inside := by
    cases List.mem_cons.mp inside with
    | inl here =>
        cases here
        exact Nat.le_refl _
    | inr earlier => exact ordered.bounded other position earlier

theorem Ordered.run (ordered : transaction.Ordered) (effects : List Effect) :
    (transaction.run effects).Ordered where
  rising := ordered.rising
  bounded name position inside := by
    have before := ordered.bounded name position inside
    simp only [Transaction.run, List.length_append]
    omega

theorem Ordered.release (ordered : transaction.Ordered) {name : Name}
    (live : transaction.Exists name) : (transaction.release name).Ordered := by
  rw [ordered.release_eq live]
  constructor
  · exact ordered.rising.filter _
  · intro other position inside
    exact ordered.bounded other position (List.mem_filter.mp inside).1

/-- What is named lower was taken no later. -/
theorem position_le {savepoints : List (Name × Nat)} {first second : Name × Nat}
    (rising : savepoints.Pairwise fun later earlier => earlier.1 < later.1 ∧ earlier.2 ≤ later.2)
    (listed : first ∈ savepoints) (also : second ∈ savepoints) (lower : second.1 < first.1) :
    second.2 ≤ first.2 := by
  induction savepoints with
  | nil => exact absurd listed List.not_mem_nil
  | cons newest savepoints ih =>
      have below := List.pairwise_cons.mp rising
      cases List.mem_cons.mp listed with
      | inl isNewest =>
          subst isNewest
          cases List.mem_cons.mp also with
          | inl same =>
              subst same
              exact absurd lower (lt_irrefl _)
          | inr earlier => exact (below.1 second earlier).2
      | inr older =>
          cases List.mem_cons.mp also with
          | inl isNewest =>
              subst isNewest
              exact absurd lower (not_lt_of_gt (below.1 first older).1)
          | inr earlier => exact ih below.2 older earlier

theorem Ordered.rollbackTo (ordered : transaction.Ordered) {name : Name}
    (live : transaction.Exists name) : (transaction.rollbackTo name).Ordered := by
  obtain ⟨position, inside⟩ := live
  have ending := ordered.bounded name position inside
  have below : ∀ other ∈ transaction.savepoints, other.1 < name → other.2 ≤ position := by
    intro other listed lower
    exact position_le ordered.rising inside listed lower
  rw [ordered.rollbackTo_eq inside]
  constructor
  · apply List.Pairwise.cons
    · intro earlier listed
      obtain ⟨listed, lower⟩ := List.mem_filter.mp listed
      exact ⟨of_decide_eq_true lower, below earlier listed (of_decide_eq_true lower)⟩
    · exact ordered.rising.filter _
  · intro other start listed
    simp only [List.length_take]
    cases List.mem_cons.mp listed with
    | inl here =>
        cases here
        omega
    | inr earlier =>
        obtain ⟨listed, lower⟩ := List.mem_filter.mp earlier
        have early := below (other, start) listed (of_decide_eq_true lower)
        simp only at early
        omega

theorem Ordered.exists_release (ordered : transaction.Ordered) {name : Name}
    (live : transaction.Exists name) (other : Name) :
    (transaction.release name).Exists other ↔ transaction.Exists other ∧ other < name := by
  rw [ordered.release_eq live]
  simp [Exists, List.mem_filter]

theorem Ordered.exists_rollbackTo (ordered : transaction.Ordered) {name : Name}
    (live : transaction.Exists name) (other : Name) :
    (transaction.rollbackTo name).Exists other ↔
      transaction.Exists other ∧ other ≤ name := by
  obtain ⟨position, inside⟩ := live
  rw [ordered.rollbackTo_eq inside]
  constructor
  · intro found
    obtain ⟨start, listed⟩ := found
    cases List.mem_cons.mp listed with
    | inl here =>
        cases here
        exact ⟨⟨position, inside⟩, le_refl _⟩
    | inr earlier =>
        obtain ⟨listed, lower⟩ := List.mem_filter.mp earlier
        exact ⟨⟨start, listed⟩, le_of_lt (of_decide_eq_true lower)⟩
  · intro found
    obtain ⟨⟨start, listed⟩, lower⟩ := found
    cases lt_or_eq_of_le lower with
    | inl strictly =>
        exact ⟨start, List.mem_cons_of_mem _
          (List.mem_filter.mpr ⟨listed, decide_eq_true strictly⟩)⟩
    | inr same =>
        subst same
        exact ⟨position, List.mem_cons_self ..⟩

end Transaction

end SqlRelay.Foundation
