import Mathlib.Data.List.Basic

/-!
# The cursors of a connection

A connection has an array of cursors.  A protocol asks for one that is available, and gives it back
when it is done.  The array grows when none is available, up to the configured maximum.
-/

namespace SqlRelay.Cursors

/-- `sqlrcursorstate_t` -/
inductive CursorState where
  | available
  | busy
  | suspended
  deriving DecidableEq, Repr

structure PoolConfig where
  maxcursorcount : Nat
  cursorsgrowby : Nat

/-- The states of the cursors.  The id of a cursor is its index. -/
abbrev Pool := List CursorState

namespace Pool

/-- Cursors are created until there are enough of them, or until one can't be opened. -/
def create (opens : Nat → Bool) : Nat → Pool → Bool × Pool
  | 0, pool => (true, pool)
  | missing + 1, pool =>
      if opens pool.length then create opens missing (pool ++ [.available]) else (false, pool)

/-- How many cursors the loop creates: one at least.  The sum is a `uint16_t`. -/
def missing (config : PoolConfig) (cursorcount : Nat) : Nat :=
  max 1 (min ((cursorcount + config.cursorsgrowby) % 65536) config.maxcursorcount - cursorcount)

/-- `sqlrservercontroller::getCursor` -/
def getCursor (config : PoolConfig) (opens : Nat → Bool) (pool : Pool) : Option Nat × Pool :=
  match pool.findIdx? (· = .available) with
  | some cursor => (some cursor, pool.set cursor .busy)
  | none =>
      if pool.length = config.maxcursorcount then (none, pool)
      else
        match create opens (missing config pool.length) pool with
        | (true, grown) => (some pool.length, grown.set pool.length .busy)
        | (false, grown) => (none, grown)

def release (pool : Pool) (cursor : Nat) : Pool := pool.set cursor .available

/-- The cursor is allocated, and not released. -/
def Busy (pool : Pool) (cursor : Nat) : Prop := pool[cursor]? = some .busy

instance (pool : Pool) (cursor : Nat) : Decidable (pool.Busy cursor) :=
  inferInstanceAs (Decidable (pool[cursor]? = some .busy))

theorem create_eq (opens : Nat → Bool) (count : Nat) (pool : Pool) :
    ∃ added, added ≤ count ∧
      (create opens count pool).2 = pool ++ List.replicate added .available ∧
      ((create opens count pool).1 = true → added = count) := by
  induction count generalizing pool with
  | zero => exact ⟨0, Nat.le_refl _, by simp [create], fun _ => rfl⟩
  | succ count ih =>
      cases opened : opens pool.length with
      | true =>
          obtain ⟨added, bounded, grown, all⟩ := ih (pool ++ [.available])
          refine ⟨added + 1, Nat.succ_le_succ bounded, ?_, ?_⟩
          · simp [create, opened, grown, List.replicate_succ]
          · intro created
            rw [create, if_pos opened] at created
            rw [all created]
      | false => exact ⟨0, Nat.zero_le _, by simp [create, opened], by simp [create, opened]⟩

theorem busy_set_busy {pool : Pool} {cursor other : Nat} (inside : cursor < pool.length) :
    Busy (pool.set cursor .busy) other ↔ other = cursor ∨ pool.Busy other := by
  by_cases same : other = cursor
  · subst same
    simp [Busy, inside]
  · simp [Busy, List.getElem?_set_ne (Ne.symm same), same]

theorem busy_append_available {pool : Pool} {added cursor : Nat} :
    Busy (pool ++ List.replicate added .available) cursor ↔ pool.Busy cursor := by
  simp only [Busy]
  by_cases inside : cursor < pool.length
  · rw [List.getElem?_append_left inside]
  · have outside := Nat.le_of_not_lt inside
    rw [List.getElem?_append_right outside, List.getElem?_eq_none outside]
    simp [List.getElem?_replicate]

theorem busy_release {pool : Pool} {cursor other : Nat} :
    (pool.release cursor).Busy other ↔ other ≠ cursor ∧ pool.Busy other := by
  by_cases same : other = cursor
  · subst same
    simp [Busy, release, List.getElem?_set]
  · simp [Busy, release, List.getElem?_set_ne (Ne.symm same), same]

/-- The cursor that is handed out was not busy, and becomes so. -/
theorem getCursor_some {config : PoolConfig} {opens : Nat → Bool} {pool : Pool} {cursor : Nat}
    (given : (getCursor config opens pool).1 = some cursor) :
    ¬pool.Busy cursor ∧
      ∀ other, (getCursor config opens pool).2.Busy other ↔ other = cursor ∨ pool.Busy other := by
  cases found : pool.findIdx? (· = .available) with
  | some first =>
      simp only [getCursor, found] at given ⊢
      cases given
      obtain ⟨inside, available, _⟩ := List.findIdx?_eq_some_iff_getElem.mp found
      constructor
      · intro busy
        rw [Busy, List.getElem?_eq_getElem inside] at busy
        simp_all
      · intro other
        exact busy_set_busy inside
  | none =>
      by_cases full : pool.length = config.maxcursorcount
      · simp [getCursor, found, full] at given
      · obtain ⟨added, _, grown, all⟩ := create_eq opens (missing config pool.length) pool
        cases created : create opens (missing config pool.length) pool with
        | mk succeeded after =>
            rw [created] at grown all
            cases succeeded with
            | false => simp [getCursor, found, full, created] at given
            | true =>
                have least := Nat.le_max_left 1
                  (min ((pool.length + config.cursorsgrowby) % 65536) config.maxcursorcount -
                    pool.length)
                have positive : 0 < added := by
                  rw [all rfl]
                  exact least
                simp only [getCursor, found, full, created, if_false] at given ⊢
                cases given
                constructor
                · simp [Busy]
                · intro other
                  subst grown
                  rw [busy_set_busy (by simpa using positive), busy_append_available]

theorem getCursor_none {config : PoolConfig} {opens : Nat → Bool} {pool : Pool}
    (refused : (getCursor config opens pool).1 = none) (other : Nat) :
    (getCursor config opens pool).2.Busy other ↔ pool.Busy other := by
  cases found : pool.findIdx? (· = .available) with
  | some first => simp [getCursor, found] at refused
  | none =>
      by_cases full : pool.length = config.maxcursorcount
      · simp [getCursor, found, full]
      · obtain ⟨added, _, grown, _⟩ := create_eq opens (missing config pool.length) pool
        cases created : create opens (missing config pool.length) pool with
        | mk succeeded after =>
            rw [created] at grown
            cases succeeded with
            | true => simp [getCursor, found, full, created] at refused
            | false =>
                simp only [getCursor, found, full, created, if_false]
                subst grown
                exact busy_append_available

/-- The array does not grow beyond the maximum. -/
theorem length_getCursor_le {config : PoolConfig} (opens : Nat → Bool) {pool : Pool}
    (bounded : pool.length ≤ config.maxcursorcount) :
    (getCursor config opens pool).2.length ≤ config.maxcursorcount := by
  cases found : pool.findIdx? (· = .available) with
  | some first => simpa [getCursor, found] using bounded
  | none =>
      by_cases full : pool.length = config.maxcursorcount
      · simpa [getCursor, found, full] using bounded
      · obtain ⟨added, few, grown, _⟩ := create_eq opens (missing config pool.length) pool
        have room : pool.length + missing config pool.length ≤ config.maxcursorcount := by
          simp only [missing]
          omega
        have length : (create opens (missing config pool.length) pool).2.length ≤
            config.maxcursorcount := by
          rw [grown, List.length_append, List.length_replicate]
          omega
        simp only [getCursor, found, full, if_false]
        split
        · next created =>
            rw [created] at length
            simpa using length
        · next created =>
            rw [created] at length
            exact length

theorem not_busy_replicate (count cursor : Nat) :
    ¬Busy (List.replicate count .available) cursor := by
  simp [Busy, List.getElem?_replicate]

theorem Busy.lt {pool : Pool} {cursor : Nat} (busy : pool.Busy cursor) : cursor < pool.length :=
  (List.getElem?_eq_some_iff.mp busy).1

end Pool

end SqlRelay.Cursors
