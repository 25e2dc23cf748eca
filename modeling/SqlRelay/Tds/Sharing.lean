import Mathlib.Logic.Function.Basic

/-!
# Shared cursors

A cursor may have a handle of the statement that it is prepared for, and handles of the cursors that have
been opened from the statement.  This is about any set of handles and cursors: what each change of them has
to be like so that every cursor that is taken keeps a handle, and no cursor without one is taken.
-/

namespace SqlRelay.Tds

/-- A handle of a prepared statement or of an open cursor. -/
inductive Handle where
  | statement (handle : Nat)
  | cursor (handle : Nat)
  deriving DecidableEq, Repr

/-- What refers to a cursor, if more than one handle does, is a statement and cursors opened from it. -/
def Apart (refers : Handle → Nat → Prop) (openedFrom : Nat → Option Nat) (cursor : Nat) : Prop :=
  ∀ one other, one ≠ other → refers one cursor → refers other cursor →
    ∃ statement, refers (.statement statement) cursor ∧
      ∀ handle, refers handle cursor → handle = .statement statement ∨
        ∃ opened, handle = .cursor opened ∧ openedFrom opened = some statement

/-- The handles share the busy cursors, but for one that is held and has no handle yet. -/
structure Shares (refers : Handle → Nat → Prop) (busy : Nat → Prop) (openedFrom : Nat → Option Nat)
    (held : Option Nat) : Prop where
  single : ∀ handle one other, refers handle one → refers handle other → one = other
  taken : ∀ handle cursor, refers handle cursor → busy cursor
  apart : ∀ cursor, Apart refers openedFrom cursor
  returned : ∀ cursor, busy cursor → held = some cursor ∨ ∃ handle, refers handle cursor
  holds : ∀ cursor, held = some cursor → busy cursor ∧ ∀ handle, ¬refers handle cursor

namespace Shares

variable {refers after : Handle → Nat → Prop} {busy busyAfter : Nat → Prop}
  {openedFrom openedAfter : Nat → Option Nat} {held : Option Nat} {cursor : Nat}

/-- A cursor goes with all its handles. -/
theorem drop (shares : Shares refers busy openedFrom held) (cursor : Nat)
    (given : ∀ other, held = some other → other = cursor)
    (refersIff : ∀ handle other, after handle other ↔ refers handle other ∧ other ≠ cursor)
    (busyIff : ∀ other, busyAfter other ↔ other ≠ cursor ∧ busy other) :
    Shares after busyAfter openedFrom none := by
  constructor
  · intro handle one other first second
    exact shares.single handle one other ((refersIff _ _).mp first).1 ((refersIff _ _).mp second).1
  · intro handle other found
    have before := (refersIff _ _).mp found
    exact (busyIff other).mpr ⟨before.2, shares.taken handle other before.1⟩
  · intro other one two different first second
    have before := (refersIff _ _).mp first
    cases shares.apart other one two different before.1 ((refersIff _ _).mp second).1 with
    | intro statement found =>
      refine ⟨statement, (refersIff _ _).mpr ⟨found.1, before.2⟩, ?_⟩
      intro handle still
      exact found.2 handle ((refersIff _ _).mp still).1
  · intro other taken
    have before := (busyIff other).mp taken
    cases shares.returned other before.2 with
    | inl holding => exact absurd (given other holding) before.1
    | inr found =>
      cases found with
      | intro handle found => exact Or.inr ⟨handle, (refersIff _ _).mpr ⟨found, before.1⟩⟩
  · intro other nobody
    cases nobody

/-- A cursor is taken and held. -/
theorem take (shares : Shares refers busy openedFrom none) (free : ¬busy cursor)
    (busyIff : ∀ other, busyAfter other ↔ other = cursor ∨ busy other) :
    Shares refers busyAfter openedFrom (some cursor) := by
  constructor
  · exact shares.single
  · intro handle other found
    exact (busyIff other).mpr (Or.inr (shares.taken handle other found))
  · exact shares.apart
  · intro other taken
    cases (busyIff other).mp taken with
    | inl same => exact Or.inl (congrArg some same.symm)
    | inr before =>
      cases shares.returned other before with
      | inl nobody => cases nobody
      | inr found => exact Or.inr found
  · intro other same
    cases same
    constructor
    · exact (busyIff cursor).mpr (Or.inl rfl)
    · intro handle found
      exact free (shares.taken handle cursor found)

/-- What is busy does not matter otherwise. -/
theorem congr (shares : Shares refers busy openedFrom held)
    (refersIff : ∀ handle other, after handle other ↔ refers handle other)
    (busyIff : ∀ other, busyAfter other ↔ busy other) : Shares after busyAfter openedFrom held := by
  have sameRefers : after = refers := funext fun handle => funext fun other =>
    propext (refersIff handle other)
  have sameBusy : busyAfter = busy := funext fun other => propext (busyIff other)
  rw [sameRefers, sameBusy]
  exact shares

/-- The cursor that is held gets new handles. -/
theorem keep (shares : Shares refers busy openedFrom (some cursor)) (new : Handle → Prop)
    (named : ∃ handle, new handle) (fresh : ∀ handle, new handle → ∀ other, ¬refers handle other)
    (refersIff : ∀ handle other, after handle other ↔ refers handle other ∨ new handle ∧ other = cursor)
    (newApart : Apart (fun handle _ => new handle) openedAfter cursor)
    (unchanged : ∀ opened, ¬new (.cursor opened) → openedAfter opened = openedFrom opened) :
    Shares after busy openedAfter none := by
  have held := shares.holds cursor rfl
  have mine : ∀ handle, after handle cursor → new handle := by
    intro handle found
    cases (refersIff _ _).mp found with
    | inl before => exact absurd before (held.2 handle)
    | inr added => exact added.1
  have others : ∀ handle other, other ≠ cursor → after handle other → refers handle other := by
    intro handle other different found
    cases (refersIff _ _).mp found with
    | inl before => exact before
    | inr added => exact absurd added.2 different
  constructor
  · intro handle one other first second
    cases (refersIff _ _).mp first with
    | inl before =>
      cases (refersIff _ _).mp second with
      | inl before' => exact shares.single handle one other before before'
      | inr added => exact absurd before (fresh handle added.1 one)
    | inr added =>
      cases (refersIff _ _).mp second with
      | inl before => exact absurd before (fresh handle added.1 other)
      | inr added' => exact added.2.trans added'.2.symm
  · intro handle other found
    cases (refersIff _ _).mp found with
    | inl before => exact shares.taken handle other before
    | inr added => exact added.2 ▸ held.1
  · intro other one two different first second
    cases decEq other cursor with
    | isTrue same =>
      subst same
      cases newApart one two different (mine one first) (mine two second) with
      | intro statement found =>
        refine ⟨statement, (refersIff _ _).mpr (Or.inr ⟨found.1, rfl⟩), ?_⟩
        intro handle still
        exact found.2 handle (mine handle still)
    | isFalse apart =>
      cases shares.apart other one two different (others one other apart first)
        (others two other apart second) with
      | intro statement found =>
        refine ⟨statement, (refersIff _ _).mpr (Or.inl found.1), ?_⟩
        intro handle still
        have before := others handle other apart still
        cases found.2 handle before with
        | inl same => exact Or.inl same
        | inr opened =>
          cases opened with
          | intro opened found =>
            refine Or.inr ⟨opened, found.1, (unchanged opened ?_).trans found.2⟩
            intro added
            exact fresh _ added other (found.1 ▸ before)
  · intro other taken
    cases shares.returned other taken with
    | inl same =>
      cases named with
      | intro handle added =>
        exact Or.inr ⟨handle, (refersIff _ _).mpr (Or.inr ⟨added, (Option.some.inj same).symm⟩)⟩
    | inr found =>
      cases found with
      | intro handle found => exact Or.inr ⟨handle, (refersIff _ _).mpr (Or.inl found)⟩
  · intro other nobody
    cases nobody

/-- The cursor that is held gets one new handle. -/
theorem keepOne (shares : Shares refers busy openedFrom (some cursor)) (new : Handle)
    (fresh : ∀ other, ¬refers new other)
    (refersIff : ∀ handle other, after handle other ↔ refers handle other ∨ handle = new ∧ other = cursor)
    (unchanged : ∀ opened, .cursor opened ≠ new → openedAfter opened = openedFrom opened) :
    Shares after busy openedAfter none := by
  apply shares.keep (fun handle => handle = new)
  · exact ⟨new, rfl⟩
  · intro handle same other
    rw [same]
    exact fresh other
  · exact refersIff
  · intro one other different first second
    exact absurd (first.trans second.symm) different
  · exact unchanged

/-- A statement's handle is the only one of a statement on its cursor. -/
theorem of_statement (shares : Shares refers busy openedFrom held) {statement : Nat}
    (refersTo : refers (.statement statement) cursor) (handle : Handle) (found : refers handle cursor) :
    handle = .statement statement ∨
      ∃ opened, handle = .cursor opened ∧ openedFrom opened = some statement := by
  cases decEq handle (.statement statement) with
  | isTrue same => exact Or.inl same
  | isFalse different =>
    cases shares.apart cursor handle (.statement statement) different found refersTo with
    | intro other shared =>
      cases shared.2 _ refersTo with
      | inl same =>
        cases same
        exact shared.2 handle found
      | inr opened =>
        cases opened with
        | intro opened impossible => cases impossible.1

/-- A cursor is opened from a statement. -/
theorem share (shares : Shares refers busy openedFrom none) {statement opened : Nat}
    (refersTo : refers (.statement statement) cursor)
    (fresh : ∀ other, ¬refers (.cursor opened) other)
    (refersIff : ∀ handle other,
      after handle other ↔ refers handle other ∨ handle = .cursor opened ∧ other = cursor) :
    Shares after busy (Function.update openedFrom opened (some statement)) none := by
  have keeps : ∀ handle other, refers handle other → after handle other := by
    intro handle other found
    exact (refersIff handle other).mpr (Or.inl found)
  have stays : ∀ {other cursor origin}, refers (.cursor other) cursor →
      openedFrom other = some origin →
      Function.update openedFrom opened (some statement) other = some origin := by
    intro other cursor origin found from_statement
    cases decEq other opened with
    | isTrue same => exact absurd (same ▸ found) (fresh cursor)
    | isFalse different => rw [Function.update_of_ne different, from_statement]
  constructor
  · intro handle one other first second
    cases (refersIff _ _).mp first with
    | inl before =>
      cases (refersIff _ _).mp second with
      | inl before' => exact shares.single handle one other before before'
      | inr added => exact absurd (added.1 ▸ before) (fresh one)
    | inr added =>
      cases (refersIff _ _).mp second with
      | inl before => exact absurd (added.1 ▸ before) (fresh other)
      | inr added' => exact added.2.trans added'.2.symm
  · intro handle other found
    cases (refersIff _ _).mp found with
    | inl before => exact shares.taken handle other before
    | inr added => exact added.2 ▸ shares.taken _ cursor refersTo
  · intro other one two different first second
    cases decEq other cursor with
    | isTrue same =>
      subst same
      refine ⟨statement, keeps _ _ refersTo, ?_⟩
      intro handle still
      cases (refersIff _ _).mp still with
      | inl before =>
        cases shares.of_statement refersTo handle before with
        | inl same => exact Or.inl same
        | inr found =>
          cases found with
          | intro earlier found =>
            exact Or.inr ⟨earlier, found.1, stays (found.1 ▸ before) found.2⟩
      | inr added => exact Or.inr ⟨opened, added.1, Function.update_self opened _ _⟩
    | isFalse apart =>
      have before : ∀ handle, after handle other → refers handle other := by
        intro handle found
        cases (refersIff _ _).mp found with
        | inl before => exact before
        | inr added => exact absurd added.2 apart
      cases shares.apart other one two different (before one first) (before two second) with
      | intro others found =>
        refine ⟨others, keeps _ _ found.1, ?_⟩
        intro handle still
        cases found.2 handle (before handle still) with
        | inl same => exact Or.inl same
        | inr earlier =>
          cases earlier with
          | intro earlier from_statement =>
            exact Or.inr ⟨earlier, from_statement.1,
              stays (from_statement.1 ▸ before handle still) from_statement.2⟩
  · intro other taken
    cases shares.returned other taken with
    | inl nobody => cases nobody
    | inr found =>
      cases found with
      | intro handle found => exact Or.inr ⟨handle, keeps handle other found⟩
  · intro other nobody
    cases nobody

/-- A handle goes, and its cursor stays with another one. -/
theorem forget (shares : Shares refers busy openedFrom none) (handle : Handle)
    (stays : ∀ other, refers handle other → ∃ another, another ≠ handle ∧ refers another other)
    (unshared : (∃ opened, handle = .cursor opened) ∨ ∀ other, refers handle other → ∀ one two,
      one ≠ handle → two ≠ handle → refers one other → refers two other → one = two)
    (refersIff : ∀ another other, after another other ↔ refers another other ∧ another ≠ handle) :
    Shares after busy openedFrom none := by
  constructor
  · intro another one other first second
    exact shares.single another one other ((refersIff _ _).mp first).1 ((refersIff _ _).mp second).1
  · intro another other found
    exact shares.taken another other ((refersIff _ _).mp found).1
  · intro other one two different first second
    have before := (refersIff _ _).mp first
    have before' := (refersIff _ _).mp second
    cases shares.apart other one two different before.1 before'.1 with
    | intro statement found =>
      have remains : Handle.statement statement ≠ handle := by
        intro same
        cases unshared with
        | inl opened =>
          cases opened with
          | intro opened isCursor =>
            rw [isCursor] at same
            cases same
        | inr only =>
          exact different (only other (same ▸ found.1) one two before.2 before'.2 before.1 before'.1)
      refine ⟨statement, (refersIff _ _).mpr ⟨found.1, remains⟩, ?_⟩
      intro another still
      exact found.2 another ((refersIff _ _).mp still).1
  · intro other taken
    cases shares.returned other taken with
    | inl nobody => cases nobody
    | inr found =>
      cases found with
      | intro one found =>
        cases decEq one handle with
        | isTrue same =>
          cases stays other (same ▸ found) with
          | intro another remains =>
            exact Or.inr ⟨another, (refersIff _ _).mpr ⟨remains.2, remains.1⟩⟩
        | isFalse different => exact Or.inr ⟨one, (refersIff _ _).mpr ⟨found, different⟩⟩
  · intro other nobody
    cases nobody

end Shares

end SqlRelay.Tds
