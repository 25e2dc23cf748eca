import SqlRelay.Foundation.Run
import SqlRelay.Tds.Handles
import SqlRelay.Tds.Sharing

/-!
# Whose cursors are whose

The handles of a session share the cursors that it has taken, as long as no statement goes while it is open
as a cursor: some of the requests that drop a statement release its cursor without looking for the handles
of the cursors that have been opened from it.
-/

namespace SqlRelay.Tds

open SqlRelay.Foundation SqlRelay.Cursors

theorem handlesContain_iff {handles : Dictionary Nat Nat} {cursor : Nat} :
    handlesContain handles cursor = true ↔ ∃ handle, handles.getValue handle = some cursor := by
  simp only [handlesContain, List.any_eq_true, beq_iff_eq, Dictionary.getValue_eq_some]
  constructor
  · intro found
    cases found with
    | intro entry found => exact ⟨entry.1, found.2 ▸ found.1⟩
  · intro found
    cases found with
    | intro handle found => exact ⟨(handle, cursor), found, rfl⟩

theorem getValue_of_handleCursor {handles : Dictionary Nat Nat} {handle cursor : Nat}
    (found : handleCursor handles handle = some cursor) : handles.getValue handle = some cursor := by
  rw [handleCursor] at found
  split at found
  · cases found
  · exact found

namespace Handles

/-- The cursor that a handle stands for. -/
def Refers (handles : Handles) : Handle → Nat → Prop
  | .statement handle, cursor => handles.stmthandles.getValue handle = some cursor
  | .cursor handle, cursor => handles.cursorhandles.getValue handle = some cursor

/-- The handles share the cursors that are taken, but for one that is held. -/
def Owns (handles : Handles) (openedFrom : Nat → Option Nat) (held : Option Nat) : Prop :=
  Shares handles.Refers handles.pool.Busy openedFrom held

variable {config : PoolConfig} {openings : Openings} {handles : Handles}
  {openedFrom : Nat → Option Nat} {held : Option Nat} {cursor : Nat}

theorem owns_releaseCursor (owns : handles.Owns openedFrom (some cursor)) :
    (handles.releaseCursor cursor).Owns openedFrom none := by
  apply Shares.drop owns cursor
  · intro other same
    exact (Option.some.inj same).symm
  · intro handle other
    constructor
    · intro found
      refine ⟨found, ?_⟩
      intro same
      exact (owns.holds cursor rfl).2 handle (same ▸ found)
    · intro found
      exact found.1
  · intro other
    exact Pool.busy_release

theorem owns_releaseCursorHandles (owns : handles.Owns openedFrom none) (cursor : Nat) :
    (handles.releaseCursorHandles cursor).Owns openedFrom none := by
  apply Shares.drop owns cursor
  · intro other nobody
    cases nobody
  · intro handle other
    cases handle with
    | statement handle =>
      simp only [Refers, releaseCursorHandles, Dictionary.getValue_filter, decide_eq_true_eq]
    | cursor handle =>
      simp only [Refers, releaseCursorHandles, Dictionary.getValue_filter, decide_eq_true_eq]
  · intro other
    exact Pool.busy_release

theorem owns_evictOldestHandle (owns : handles.Owns openedFrom none) :
    handles.evictOldestHandle.Owns openedFrom none := by
  rw [evictOldestHandle]
  split
  · exact owns
  · exact owns_releaseCursorHandles owns _

variable (config) in
theorem owns_getCursor (owns : handles.Owns openedFrom none) (opens : Nat → Bool) :
    (handles.getCursor config opens).2.Owns openedFrom (handles.getCursor config opens).1 := by
  cases given : (Pool.getCursor config opens handles.pool).1 with
  | none =>
    simp only [getCursor, given]
    apply Shares.congr owns
    · intro handle other
      exact Iff.rfl
    · exact Pool.getCursor_none given
  | some cursor =>
    have got := Pool.getCursor_some given
    simp only [getCursor, given]
    exact Shares.take owns got.1 got.2

variable (config) (openings) in
theorem owns_availableCursor (owns : handles.Owns openedFrom none) :
    (handles.availableCursor config openings).2.Owns openedFrom
      (handles.availableCursor config openings).1 := by
  have first := owns_getCursor config owns openings.opens
  rw [availableCursor]
  split
  · next cursor got given =>
    rw [given] at first
    exact first
  · next got given =>
    rw [given] at first
    exact owns_getCursor config (owns_evictOldestHandle first) _

/-- A handle that is free stays free while a cursor is looked for. -/
theorem refers_availableCursor {handle : Handle}
    (found : (handles.availableCursor config openings).2.Refers handle cursor) :
    handles.Refers handle cursor := by
  rw [availableCursor] at found
  split at found
  · next got given =>
    have same : got = (handles.getCursor config openings.opens).2 := by rw [given]
    rw [same] at found
    cases handle with
    | statement handle => exact found
    | cursor handle => exact found
  · next got given =>
    have same : got = (handles.getCursor config openings.opens).2 := by rw [given]
    have before : got.Refers handle cursor := by
      rw [evictOldestHandle] at found
      split at found
      · cases handle with
        | statement handle => exact found
        | cursor handle => exact found
      · cases handle with
        | statement handle => exact (Dictionary.getValue_filter.mp found).1
        | cursor handle => exact (Dictionary.getValue_filter.mp found).1
    rw [same] at before
    cases handle with
    | statement handle => exact before
    | cursor handle => exact before

theorem nexthandle_availableCursor :
    (handles.availableCursor config openings).2.nexthandle = handles.nexthandle := by
  rw [availableCursor]
  split
  · next got given =>
    have same : got = (handles.getCursor config openings.opens).2 := by rw [given]
    rw [same]
    rfl
  · next got given =>
    have same : got = (handles.getCursor config openings.opens).2 := by rw [given]
    have evicted : got.evictOldestHandle.nexthandle = got.nexthandle := by
      rw [evictOldestHandle]
      split
      · rfl
      · rfl
    have kept : got.nexthandle = handles.nexthandle := by rw [same]; rfl
    have again : (got.evictOldestHandle.getCursor config openings.reopens).2.nexthandle =
        got.evictOldestHandle.nexthandle := rfl
    rw [again, evicted, kept]

theorem owns_onCursor (owns : handles.Owns openedFrom none) :
    (handles.onCursor config openings).Owns openedFrom none := by
  have available := owns_availableCursor config openings owns
  rw [onCursor]
  split
  · next got given =>
    rw [given] at available
    exact available
  · next cursor got given =>
    rw [given] at available
    exact owns_releaseCursor available

theorem owns_backendHandle (owns : handles.Owns openedFrom none) (handle : Nat) :
    (handles.backendHandle config openings handle).Owns openedFrom none := by
  rw [backendHandle]
  split
  · exact owns_onCursor owns
  · exact owns

/-! ## New handles -/

theorem refers_setStatement {handle : Nat} (free : ∀ other, ¬handles.Refers (.statement handle) other)
    (nexthandle : Nat) (another : Handle) (other : Nat) :
    Refers { handles with
      stmthandles := handles.stmthandles.setValue handle cursor
      nexthandle := nexthandle } another other ↔
      handles.Refers another other ∨ another = .statement handle ∧ other = cursor := by
  cases another with
  | statement name =>
    simp only [Refers, Dictionary.getValue_setValue, Handle.statement.injEq]
    cases decEq name handle with
    | isTrue same =>
      have nothing : ¬handles.stmthandles.getValue handle = some other := free other
      simp only [same, if_true, nothing, Option.some.injEq, true_and, false_or]
      exact eq_comm
    | isFalse different => simp only [different, if_false, false_and, or_false]
  | cursor name => simp [Refers]

theorem refers_setCursor {handle : Nat} (free : ∀ other, ¬handles.Refers (.cursor handle) other)
    (nexthandle : Nat) (another : Handle) (other : Nat) :
    Refers { handles with
      cursorhandles := handles.cursorhandles.setValue handle cursor
      nexthandle := nexthandle } another other ↔
      handles.Refers another other ∨ another = .cursor handle ∧ other = cursor := by
  cases another with
  | statement name => simp [Refers]
  | cursor name =>
    simp only [Refers, Dictionary.getValue_setValue, Handle.cursor.injEq]
    cases decEq name handle with
    | isTrue same =>
      have nothing : ¬handles.cursorhandles.getValue handle = some other := free other
      simp only [same, if_true, nothing, Option.some.injEq, true_and, false_or]
      exact eq_comm
    | isFalse different => simp only [different, if_false, false_and, or_false]

theorem owns_setStatement (owns : handles.Owns openedFrom (some cursor)) {handle : Nat}
    (free : ∀ other, ¬handles.Refers (.statement handle) other) (nexthandle : Nat) :
    Owns { handles with
      stmthandles := handles.stmthandles.setValue handle cursor
      nexthandle := nexthandle } openedFrom none := by
  apply Shares.keepOne owns (.statement handle) free
  · exact refers_setStatement free nexthandle
  · intro opened _
    rfl

theorem owns_setCursor (owns : handles.Owns openedFrom (some cursor)) {handle : Nat}
    (free : ∀ other, ¬handles.Refers (.cursor handle) other) (nexthandle : Nat)
    (origin : Option Nat) :
    Owns { handles with
      cursorhandles := handles.cursorhandles.setValue handle cursor
      nexthandle := nexthandle } (Function.update openedFrom handle origin) none := by
  apply Shares.keepOne owns (.cursor handle) free
  · exact refers_setCursor free nexthandle
  · intro opened different
    apply Function.update_of_ne
    intro same
    exact different (congrArg Handle.cursor same)

theorem owns_setBoth (owns : handles.Owns openedFrom (some cursor)) {statement opened : Nat}
    (free : ∀ other, ¬handles.Refers (.statement statement) other)
    (free' : ∀ other, ¬handles.Refers (.cursor opened) other) (nexthandle : Nat) :
    Owns { handles with
      stmthandles := handles.stmthandles.setValue statement cursor
      cursorhandles := handles.cursorhandles.setValue opened cursor
      nexthandle := nexthandle } (Function.update openedFrom opened (some statement)) none := by
  apply Shares.keep owns (fun handle => handle = .statement statement ∨ handle = .cursor opened)
  · exact ⟨.statement statement, Or.inl rfl⟩
  · intro handle new other
    cases new with
    | inl same => exact same ▸ free other
    | inr same => exact same ▸ free' other
  · intro another other
    cases another with
    | statement name =>
      have first := (refers_setStatement free nexthandle (.statement name) other :
        Refers { handles with
          stmthandles := handles.stmthandles.setValue statement cursor
          nexthandle := nexthandle } _ _ ↔ _)
      simpa [Refers] using first
    | cursor name =>
      have first := (refers_setCursor free' nexthandle (.cursor name) other :
        Refers { handles with
          cursorhandles := handles.cursorhandles.setValue opened cursor
          nexthandle := nexthandle } _ _ ↔ _)
      simpa [Refers] using first
  · intro one other _ _ _
    refine ⟨statement, Or.inl rfl, ?_⟩
    intro handle new
    cases new with
    | inl same => exact Or.inl same
    | inr same => exact Or.inr ⟨opened, same, Function.update_self opened _ _⟩
  · intro other different
    apply Function.update_of_ne
    intro same
    exact different (Or.inr (congrArg Handle.cursor same))

/-! ## Handles that go -/

theorem refers_removeStatement (handle : Nat) (another : Handle) (other : Nat) :
    Refers { handles with stmthandles := handles.stmthandles.remove handle } another other ↔
      handles.Refers another other ∧ another ≠ .statement handle := by
  cases another with
  | statement name => simp [Refers, Dictionary.getValue_remove]
  | cursor name => simp [Refers]

theorem refers_removeCursor (handle : Nat) (another : Handle) (other : Nat) :
    Refers { handles with cursorhandles := handles.cursorhandles.remove handle } another other ↔
      handles.Refers another other ∧ another ≠ .cursor handle := by
  cases another with
  | statement name => simp [Refers]
  | cursor name => simp [Refers, Dictionary.getValue_remove]

/-- The last handle of a cursor goes with it. -/
theorem owns_dropLast (owns : handles.Owns openedFrom none) {handle : Handle}
    (refersTo : handles.Refers handle cursor)
    (last : ∀ another, handles.Refers another cursor → another = handle) {after : Handles}
    (pool : after.pool = handles.pool)
    (refersIff : ∀ another other,
      after.Refers another other ↔ handles.Refers another other ∧ another ≠ handle) :
    (after.releaseCursor cursor).Owns openedFrom none := by
  apply Shares.drop owns cursor
  · intro other nobody
    cases nobody
  · intro another other
    have kept : (after.releaseCursor cursor).Refers another other ↔ after.Refers another other := by
      cases another with
      | statement name => exact Iff.rfl
      | cursor name => exact Iff.rfl
    rw [kept, refersIff]
    constructor
    · intro found
      refine ⟨found.1, ?_⟩
      intro same
      exact found.2 (last another (same ▸ found.1))
    · intro found
      refine ⟨found.1, ?_⟩
      intro same
      exact found.2 (owns.single handle other cursor (same ▸ found.1) refersTo)
  · intro other
    rw [releaseCursor, pool]
    exact Pool.busy_release

/-- A cursor handle that is not the only one has a statement. -/
theorem statement_of_two (owns : handles.Owns openedFrom held) {one other : Handle}
    (different : one ≠ other) (first : handles.Refers one cursor)
    (second : handles.Refers other cursor) :
    handlesContain handles.stmthandles cursor = true := by
  cases owns.apart cursor one other different first second with
  | intro statement found => exact handlesContain_iff.mpr ⟨statement, found.1⟩

theorem owns_dropStatement (owns : handles.Owns openedFrom none) {handle : Nat}
    (refersTo : handles.Refers (.statement handle) cursor)
    (unopened : handlesContain handles.cursorhandles cursor = false) :
    (releaseCursor { handles with stmthandles := handles.stmthandles.remove handle } cursor).Owns
      openedFrom none := by
  apply owns_dropLast owns refersTo
  · intro another found
    cases owns.of_statement refersTo another found with
    | inl same => exact same
    | inr opened =>
      cases opened with
      | intro opened isCursor =>
        rw [isCursor.1] at found
        rw [handlesContain_iff.mpr ⟨opened, found⟩] at unopened
        cases unopened
  · rfl
  · exact refers_removeStatement handle

theorem owns_forgetStatement (owns : handles.Owns openedFrom none) {handle : Nat}
    (refersTo : handles.Refers (.statement handle) cursor)
    (opened : handlesContain handles.cursorhandles cursor = true)
    (once : ∀ one other, handles.cursorhandles.getValue one = some cursor →
      handles.cursorhandles.getValue other = some cursor → one = other) :
    Owns { handles with stmthandles := handles.stmthandles.remove handle } openedFrom none := by
  have only : ∀ other, handles.Refers (.statement handle) other → other = cursor := by
    intro other found
    exact owns.single _ other cursor found refersTo
  have opens : ∀ another, another ≠ .statement handle → handles.Refers another cursor →
      ∃ name, another = .cursor name := by
    intro another different found
    cases owns.of_statement refersTo another found with
    | inl same => exact absurd same different
    | inr opened =>
      cases opened with
      | intro name isCursor => exact ⟨name, isCursor.1⟩
  apply Shares.forget owns (.statement handle)
  · intro other found
    cases handlesContain_iff.mp opened with
    | intro name opened => exact ⟨.cursor name, by simp, (only other found).symm ▸ opened⟩
  · apply Or.inr
    intro other found one two first second refersOne refersTwo
    rw [only other found] at refersOne refersTwo
    cases opens one first refersOne with
    | intro name isCursor =>
      cases opens two second refersTwo with
      | intro name' isCursor' =>
        rw [isCursor] at refersOne ⊢
        rw [isCursor'] at refersTwo ⊢
        rw [once name name' refersOne refersTwo]
  · exact refers_removeStatement handle

theorem owns_closeCursorStatement (owns : handles.Owns openedFrom none) {handle : Nat}
    (refersTo : handles.Refers (.cursor handle) cursor) :
    (handles.closeCursorStatement handle cursor).Owns openedFrom none := by
  rw [closeCursorStatement]
  cases prepared : handlesContain handles.stmthandles cursor with
  | true =>
    simp only [if_true]
    apply Shares.forget owns (.cursor handle)
    · intro other found
      have same := owns.single _ other cursor found refersTo
      cases handlesContain_iff.mp prepared with
      | intro statement found => exact ⟨.statement statement, by simp, same ▸ found⟩
    · exact Or.inl ⟨handle, rfl⟩
    · exact refers_removeCursor handle
  | false =>
    simp only [Bool.false_eq_true, if_false]
    apply owns_dropLast owns refersTo
    · intro another found
      cases decEq another (.cursor handle) with
      | isTrue same => exact same
      | isFalse different =>
        rw [statement_of_two owns different found refersTo] at prepared
        cases prepared
    · rfl
    · exact refers_removeCursor handle

theorem busy_foldl_release (cursors : List Nat) (pool : Pool) (cursor : Nat) :
    (cursors.foldl Pool.release pool).Busy cursor ↔ cursor ∉ cursors ∧ pool.Busy cursor := by
  induction cursors generalizing pool with
  | nil => simp
  | cons first cursors induction =>
    rw [List.foldl_cons, induction, Pool.busy_release, List.mem_cons, not_or]
    constructor
    · intro found
      exact ⟨⟨found.2.1, found.1⟩, found.2.2⟩
    · intro found
      exact ⟨found.1.2, found.1.1, found.2⟩

theorem busy_releaseHandles {released other : Dictionary Nat Nat} {pool : Pool} {cursor : Nat} :
    (releaseHandles released other pool).Busy cursor ↔
      (handlesContain released cursor = true → handlesContain other cursor = true) ∧
        pool.Busy cursor := by
  have member : cursor ∈ released.entries.map (·.2) ↔ handlesContain released cursor = true := by
    simp [handlesContain]
  rw [releaseHandles, busy_foldl_release, List.mem_filter, member]
  simp

theorem owns_closeAll (owns : handles.Owns openedFrom none) :
    Owns { handles with
      cursorhandles := Dictionary.empty
      pool := releaseHandles handles.cursorhandles handles.stmthandles handles.pool }
      openedFrom none := by
  have statements : ∀ handle cursor, Refers { handles with
      cursorhandles := Dictionary.empty
      pool := releaseHandles handles.cursorhandles handles.stmthandles handles.pool } handle cursor →
      handles.Refers handle cursor ∧ ∃ name, handle = .statement name := by
    intro handle cursor found
    cases handle with
    | statement name => exact ⟨found, name, rfl⟩
    | cursor name => cases found
  constructor
  · intro handle one other first second
    exact owns.single handle one other (statements _ _ first).1 (statements _ _ second).1
  · intro handle cursor found
    apply busy_releaseHandles.mpr
    constructor
    · intro _
      cases (statements handle cursor found).2 with
      | intro name isStatement =>
        rw [isStatement] at found
        exact handlesContain_iff.mpr ⟨name, found⟩
    · exact owns.taken handle cursor (statements handle cursor found).1
  · intro cursor one two different first second
    cases (statements one cursor first).2 with
    | intro name isStatement =>
      cases (statements two cursor second).2 with
      | intro name' isStatement' =>
        have before := (statements one cursor first).1
        rw [isStatement] at before
        cases owns.of_statement before two (statements two cursor second).1 with
        | inl same => exact absurd (isStatement.trans same.symm) different
        | inr opened =>
          cases opened with
          | intro opened isCursor =>
            rw [isStatement'] at isCursor
            cases isCursor.1
  · intro cursor busy
    have before := busy_releaseHandles.mp busy
    cases owns.returned cursor before.2 with
    | inl nobody => cases nobody
    | inr found =>
      cases found with
      | intro handle found =>
        cases handle with
        | statement name => exact Or.inr ⟨.statement name, found⟩
        | cursor name =>
          cases handlesContain_iff.mp (before.1 (handlesContain_iff.mpr ⟨name, found⟩)) with
          | intro statement found => exact Or.inr ⟨.statement statement, found⟩
  · intro cursor nobody
    cases nobody

/-! ## Requests -/

/-- The cursor of this handle has no handles of open cursors. -/
def Unopened (handles : Handles) (handle : Nat) : Prop :=
  ∀ cursor, handleCursor handles.stmthandles handle = some cursor →
    handlesContain handles.cursorhandles cursor = false

/-- A request that drops a statement drops none that is open, or only the statement of one open cursor where
it looks for that.  The numbers of new handles are not in use. -/
def Proper (handles : Handles) : Request → Prop
  | .prepare oldhandle exec prepares executes =>
      handles.Unopened oldhandle ∧ ((prepares && (!exec || executes)) = true →
        (handles.dropOldHandle oldhandle).stmthandles.getValue handles.freshHandle = none)
  | .unprepare handle => handles.Unopened handle
  | .cursorOpen prepares executes =>
      (prepares && executes) = true → handles.cursorhandles.getValue handles.freshHandle = none
  | .cursorPrepare prepares =>
      prepares = true → handles.stmthandles.getValue handles.freshHandle = none
  | .cursorExecute handle executes =>
      (handleCursor handles.stmthandles handle).isSome ∧ executes = true →
        handles.cursorhandles.getValue handles.freshHandle = none
  | .cursorPrepExec prepares executes =>
      (prepares && executes) = true →
        handles.stmthandles.getValue handles.freshHandle = none ∧
          handles.cursorhandles.getValue handles.newHandle.2.freshHandle = none
  | .cursorUnprepare handle =>
      ∀ cursor, handleCursor handles.stmthandles handle = some cursor →
        ∀ one other, handles.cursorhandles.getValue one = some cursor →
          handles.cursorhandles.getValue other = some cursor → one = other
  | .execute _ | .cursorClose _ | .sqlBatch => True

/-- Which statement each cursor handle has been opened from, after a request. -/
def openedAfter (config : PoolConfig) (openings : Openings) (handles : Handles)
    (openedFrom : Nat → Option Nat) : Request → Nat → Option Nat
  | .cursorOpen prepares executes =>
      if (handles.availableCursor config openings).1.isSome ∧ (prepares && executes) = true then
        Function.update openedFrom handles.freshHandle none
      else openedFrom
  | .cursorExecute handle executes =>
      if (handleCursor handles.stmthandles handle).isSome ∧ executes = true then
        Function.update openedFrom handles.freshHandle (some handle)
      else openedFrom
  | .cursorPrepExec prepares executes =>
      if (handles.availableCursor config openings).1.isSome ∧ (prepares && executes) = true then
        Function.update openedFrom handles.newHandle.2.freshHandle (some handles.freshHandle)
      else openedFrom
  | _ => openedFrom

theorem freshHandle_availableCursor :
    (handles.availableCursor config openings).2.freshHandle = handles.freshHandle := by
  rw [freshHandle, freshHandle, nexthandle_availableCursor]

theorem freshHandle_newHandle : handles.newHandle.2.freshHandle =
    if handleMax < handles.freshHandle + 1 then handleBase else handles.freshHandle + 1 := by
  have unfolds : handles.newHandle.2.freshHandle =
      if handles.freshHandle + 1 = 0 ∨ handleMax < handles.freshHandle + 1 then handleBase
      else handles.freshHandle + 1 := rfl
  simp only [unfolds, Nat.add_one_ne_zero, false_or]

theorem owns_dropOldHandle (owns : handles.Owns openedFrom none) {oldhandle : Nat}
    (unopened : handles.Unopened oldhandle) :
    (handles.dropOldHandle oldhandle).Owns openedFrom none := by
  rw [dropOldHandle]
  split
  · exact owns
  · next cursor found =>
    exact owns_dropStatement owns (getValue_of_handleCursor found) (unopened cursor found)

theorem freshHandle_dropOldHandle (oldhandle : Nat) :
    (handles.dropOldHandle oldhandle).freshHandle = handles.freshHandle := by
  rw [dropOldHandle]
  split
  · rfl
  · rfl

/-- A cursor has been found for a request. -/
structure Holding (handles : Handles) (openedFrom : Nat → Option Nat) (cursor : Nat)
    (got : Handles) : Prop where
  owns : got.Owns openedFrom (some cursor)
  fresh : got.freshHandle = handles.freshHandle
  free : ∀ handle, (∀ other, ¬handles.Refers handle other) → ∀ other, ¬got.Refers handle other

variable {got : Handles}

theorem holding_of_available (owns : handles.Owns openedFrom none)
    (given : handles.availableCursor config openings = (some cursor, got)) :
    handles.Holding openedFrom cursor got := by
  have available := owns_availableCursor config openings owns
  have fresh : (handles.availableCursor config openings).2.freshHandle = handles.freshHandle :=
    freshHandle_availableCursor
  rw [given] at available fresh
  constructor
  · exact available
  · exact fresh
  · intro handle free other found
    have there : (handles.availableCursor config openings).2.Refers handle other := by
      rw [given]
      exact found
    exact free other (refers_availableCursor there)

theorem owns_of_unavailable (owns : handles.Owns openedFrom none)
    (given : handles.availableCursor config openings = (none, got)) :
    got.Owns openedFrom none := by
  have available := owns_availableCursor config openings owns
  rw [given] at available
  exact available

theorem not_refers_statement {handle : Nat} (free : handles.stmthandles.getValue handle = none)
    (other : Nat) : ¬handles.Refers (.statement handle) other := by
  simp [Refers, free]

theorem not_refers_cursor {handle : Nat} (free : handles.cursorhandles.getValue handle = none)
    (other : Nat) : ¬handles.Refers (.cursor handle) other := by
  simp [Refers, free]

theorem owns_prepare (owns : handles.Owns openedFrom none) {oldhandle : Nat}
    {exec prepares executes : Bool}
    (proper : handles.Proper (.prepare oldhandle exec prepares executes)) :
    (handles.prepare config openings oldhandle exec prepares executes).Owns openedFrom none := by
  have dropped := owns_dropOldHandle owns proper.1
  rw [prepare]
  split
  · next got given => exact owns_of_unavailable dropped given
  · next cursor got given =>
    have holding := holding_of_available dropped given
    simp only [newHandle]
    split
    · next success =>
      have free := proper.2 success
      rw [← freshHandle_dropOldHandle oldhandle, ← holding.fresh] at free
      exact owns_setStatement holding.owns (holding.free _ (not_refers_statement free)) _
    · apply owns_releaseCursor
      exact holding.owns

theorem owns_unprepare (owns : handles.Owns openedFrom none) {handle : Nat}
    (proper : handles.Proper (.unprepare handle)) :
    (handles.unprepare config openings handle).Owns openedFrom none := by
  rw [unprepare]
  split
  · exact owns_backendHandle owns handle
  · next cursor found =>
    exact owns_dropStatement owns (getValue_of_handleCursor found) (proper cursor found)

theorem owns_execute (owns : handles.Owns openedFrom none) (handle : Nat) :
    (handles.execute config openings handle).Owns openedFrom none := by
  rw [execute]
  split
  · exact owns_backendHandle owns handle
  · exact owns

theorem owns_cursorOpen (owns : handles.Owns openedFrom none) {prepares executes : Bool}
    (proper : handles.Proper (.cursorOpen prepares executes)) :
    (handles.cursorOpen config openings prepares executes).Owns
      (handles.openedAfter config openings openedFrom (.cursorOpen prepares executes)) none := by
  rw [cursorOpen, openedAfter]
  split
  · next got given =>
    rw [given]
    exact owns_of_unavailable owns given
  · next cursor got given =>
    have holding := holding_of_available owns given
    rw [given]
    split
    · next success =>
      have free := proper success
      rw [if_pos ⟨rfl, success⟩, ← holding.fresh]
      rw [← holding.fresh] at free
      exact owns_setCursor holding.owns (holding.free _ (not_refers_cursor free)) _ _
    · next failure =>
      rw [if_neg fun both => failure both.2]
      exact owns_releaseCursor holding.owns

theorem owns_cursorPrepare (owns : handles.Owns openedFrom none) {prepares : Bool}
    (proper : handles.Proper (.cursorPrepare prepares)) :
    (handles.cursorPrepare config openings prepares).Owns openedFrom none := by
  rw [cursorPrepare]
  split
  · next got given => exact owns_of_unavailable owns given
  · next cursor got given =>
    have holding := holding_of_available owns given
    split
    · next success =>
      have free := proper success
      rw [← holding.fresh] at free
      exact owns_setStatement holding.owns (holding.free _ (not_refers_statement free)) _
    · exact owns_releaseCursor holding.owns

theorem owns_cursorExecute (owns : handles.Owns openedFrom none) {handle : Nat} {executes : Bool}
    (proper : handles.Proper (.cursorExecute handle executes)) :
    (handles.cursorExecute config openings handle executes).Owns
      (handles.openedAfter config openings openedFrom (.cursorExecute handle executes)) none := by
  rw [cursorExecute, openedAfter]
  split
  · next missing =>
    simp only [missing, Option.isSome_none, Bool.false_eq_true, false_and, if_false]
    exact owns_backendHandle owns handle
  · next cursor found =>
    simp only [found, Option.isSome_some, true_and]
    split
    · next success =>
      have free := not_refers_cursor (proper ⟨by rw [found]; rfl, success⟩)
      apply Shares.share owns (getValue_of_handleCursor found) free
      exact refers_setCursor free _
    · exact owns

theorem owns_cursorPrepExec (owns : handles.Owns openedFrom none) {prepares executes : Bool}
    (proper : handles.Proper (.cursorPrepExec prepares executes)) :
    (handles.cursorPrepExec config openings prepares executes).Owns
      (handles.openedAfter config openings openedFrom (.cursorPrepExec prepares executes)) none := by
  rw [cursorPrepExec, openedAfter]
  split
  · next got given =>
    rw [given]
    exact owns_of_unavailable owns given
  · next cursor got given =>
    have holding := holding_of_available owns given
    have next : got.newHandle.2.freshHandle = handles.newHandle.2.freshHandle := by
      rw [freshHandle_newHandle, freshHandle_newHandle, holding.fresh]
    rw [given]
    split
    · next success =>
      have free := proper success
      rw [if_pos ⟨rfl, success⟩, ← holding.fresh, ← next]
      rw [← holding.fresh, ← next] at free
      exact owns_setBoth holding.owns (holding.free _ (not_refers_statement free.1))
        (holding.free _ (not_refers_cursor free.2)) _
    · next failure =>
      rw [if_neg fun both => failure both.2]
      exact owns_releaseCursor holding.owns

theorem owns_cursorUnprepare (owns : handles.Owns openedFrom none) {handle : Nat}
    (proper : handles.Proper (.cursorUnprepare handle)) :
    (handles.cursorUnprepare config openings handle).Owns openedFrom none := by
  rw [cursorUnprepare]
  split
  · exact owns_backendHandle owns handle
  · next cursor found =>
    have refersTo := getValue_of_handleCursor found
    cases opened : handlesContain handles.cursorhandles cursor with
    | true => exact owns_forgetStatement owns refersTo opened (proper cursor found)
    | false => exact owns_dropStatement owns refersTo opened

theorem owns_cursorClose (owns : handles.Owns openedFrom none) (handle : Nat) :
    (handles.cursorClose handle).Owns openedFrom none := by
  rw [cursorClose]
  split
  · exact owns_closeAll owns
  · split
    · exact owns
    · next cursor found => exact owns_closeCursorStatement owns (getValue_of_handleCursor found)

/-- A proper request leaves every cursor with its handles. -/
theorem owns_serve (owns : handles.Owns openedFrom none) {request : Request}
    (proper : handles.Proper request) :
    (handles.serve config openings request).Owns
      (handles.openedAfter config openings openedFrom request) none := by
  cases request with
  | prepare oldhandle exec prepares executes => exact owns_prepare owns proper
  | execute handle => exact owns_execute owns handle
  | unprepare handle => exact owns_unprepare owns proper
  | cursorOpen prepares executes => exact owns_cursorOpen owns proper
  | cursorPrepare prepares => exact owns_cursorPrepare owns proper
  | cursorExecute handle executes => exact owns_cursorExecute owns proper
  | cursorPrepExec prepares executes => exact owns_cursorPrepExec owns proper
  | cursorUnprepare handle => exact owns_cursorUnprepare owns proper
  | cursorClose handle => exact owns_cursorClose owns handle
  | sqlBatch => exact owns_onCursor owns

end Handles

/-! ## Runs -/

/-- A session, with the statement that each cursor handle has been opened from, which the module does not
keep. -/
structure Traced where
  handles : Handles
  openedFrom : Nat → Option Nat

structure Call where
  request : Request
  openings : Openings

namespace Traced

def step (config : PoolConfig) (traced : Traced) (call : Call) : Traced :=
  ⟨traced.handles.serve config call.openings call.request,
    traced.handles.openedAfter config call.openings traced.openedFrom call.request⟩

/-- The beginning of a session: all cursors are available. -/
def start (count : Nat) : Traced :=
  ⟨⟨Dictionary.empty, Dictionary.empty, List.replicate count .available, handleBase⟩, fun _ => none⟩

/-- Every handle stands for a cursor that is taken, handles that share a cursor are its statement and cursors
opened from it, and every cursor that is taken has a handle. -/
def Owned (traced : Traced) : Prop := traced.handles.Owns traced.openedFrom none

theorem owned_start (count : Nat) : (start count).Owned := by
  constructor
  · intro handle one other found
    cases handle with
    | statement name => cases found
    | cursor name => cases found
  · intro handle cursor found
    cases handle with
    | statement name => cases found
    | cursor name => cases found
  · intro cursor one other _ found
    cases one with
    | statement name => cases found
    | cursor name => cases found
  · intro cursor busy
    exact absurd busy (Pool.not_busy_replicate count cursor)
  · intro cursor nobody
    cases nobody

/-- In a run of proper requests, the handles own their cursors after each request. -/
theorem owned_along (config : PoolConfig) (count : Nat) {calls : List Call}
    (proper : Along (step config) (fun traced call => traced.handles.Proper call.request)
      (start count) calls) :
    Along (step config) (fun traced call => (traced.step config call).Owned) (start count) calls := by
  have preserves : ∀ traced call, Owned traced → traced.handles.Proper call.request →
      (traced.step config call).Owned := by
    intro traced call owned proper
    exact Handles.owns_serve owned proper
  exact Along.of_guard preserves preserves (owned_start count) proper

def opens : Openings := ⟨fun _ => true, fun _ => true⟩

/-- A statement that is prepared and opened at once, closed and dropped. -/
theorem owned_along_prepExec :
    let calls : List Call := [⟨.cursorPrepExec true true, opens⟩,
      ⟨.cursorClose (handleBase + 1), opens⟩, ⟨.unprepare handleBase, opens⟩]
    Along (step ⟨5, 1⟩) (fun traced call => (traced.step ⟨5, 1⟩ call).Owned) (start 1) calls := by
  apply owned_along
  refine ⟨fun _ => ⟨rfl, rfl⟩, trivial, ?_, trivial⟩
  intro cursor found
  cases found
  rfl

/-- A statement that is dropped while it is open as a cursor leaves the cursor's handle on a cursor that is
released. -/
theorem not_owned_along_unprepare :
    ¬∀ (config : PoolConfig) (count : Nat) (calls : List Call),
      Along (step config) (fun traced call => (traced.step config call).Owned) (start count) calls := by
  intro always
  have along := always ⟨5, 1⟩ 1
    [⟨.cursorPrepExec true true, opens⟩, ⟨.unprepare handleBase, opens⟩]
  have taken := along.2.1.taken (.cursor (handleBase + 1)) 0 rfl
  revert taken
  decide

end Traced

end SqlRelay.Tds
