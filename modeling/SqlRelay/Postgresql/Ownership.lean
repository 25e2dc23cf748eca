import SqlRelay.Foundation.Owners
import SqlRelay.Foundation.Run
import SqlRelay.Postgresql.Session

/-!
# Whose cursor it is

A statement owns the cursor that it was given, until it is closed.  A portal only shares it, but
closing the portal releases the cursor as well, so the statement keeps it only if no portal is closed
before its statement.
-/

namespace SqlRelay.Postgresql

open SqlRelay.Foundation SqlRelay.Cursors

/-- A session, with the statement that each portal was bound from, while that statement is open. -/
structure Watched where
  session : Session
  origins : Name → Option Name

namespace Watched

def originsAfter (watched : Watched) : Message → Name → Option Name
  | .bind request =>
      match watched.session.stmtcursormap request.stmtname with
      | some _ => Function.update watched.origins request.portal (some request.stmtname)
      | none => watched.origins
  | .close true name => fun portal =>
      if watched.origins portal = some name then none else watched.origins portal
  | .close false name => Function.update watched.origins name none
  | _ => watched.origins

/-- After the end of the session no message is read. -/
def step (wellFormed : List Byte → Bool) (limits : Limits) (watched : Watched)
    (message : Message) : Watched :=
  if watched.session.loop then
    ⟨(watched.session.handle wellFormed limits message).session, watched.originsAfter message⟩
  else watched

/-- The cursor that is handed out for the message. -/
def given (wellFormed : List Byte → Bool) (limits : Limits) (watched : Watched)
    (message : Message) : Option Nat :=
  if watched.session.loop then (watched.session.handle wellFormed limits message).cursor else none

/-- Every statement has a cursor that is allocated, no two have the same, and a portal has the cursor
of the statement that it was bound from. -/
structure Owned (watched : Watched) : Prop where
  owns : Owns watched.session.pool.Busy watched.session.stmtcursormap
  portals : ∀ portal stmtname, watched.origins portal = some stmtname →
    ∃ cursor, watched.session.stmtcursormap stmtname = some cursor ∧
      watched.session.portalcursormap portal = some cursor

/-- What is asked of a message: statements own their cursors afterwards, and the cursor that is handed
out for it was no statement's. -/
structure KeepsOwners (wellFormed : List Byte → Bool) (limits : Limits) (watched : Watched)
    (message : Message) : Prop where
  owned : (watched.step wellFormed limits message).Owned
  unowned : ∀ cursor, watched.given wellFormed limits message = some cursor →
    ∀ stmtname, watched.session.stmtcursormap stmtname ≠ some cursor

/-- A portal is closed only when no statement that is open has its cursor. -/
def ClosesLast (watched : Watched) : Message → Prop
  | .close false portal =>
      watched.session.loop = true → ∀ cursor,
        watched.session.portalcursormap portal = some cursor →
          ∀ stmtname, watched.session.stmtcursormap stmtname ≠ some cursor
  | _ => True

/-- The beginning of a session: there are no statements, and no portals. -/
def start (pool : Pool) (cursors : Nat → ServerCursor) : Watched :=
  ⟨⟨pool, fun _ => none, fun _ => none, cursors, true⟩, fun _ => none⟩

theorem owned_start (pool : Pool) (cursors : Nat → ServerCursor) : (start pool cursors).Owned where
  owns := Owns.empty _
  portals portal stmtname found := by cases found

/-! ## What the handlers do to the maps -/

@[simp] theorem pool_set (session : Session) (cursor : Nat) (contents : ServerCursor) :
    (session.set cursor contents).pool = session.pool := rfl

@[simp] theorem stmtcursormap_set (session : Session) (cursor : Nat) (contents : ServerCursor) :
    (session.set cursor contents).stmtcursormap = session.stmtcursormap := rfl

@[simp] theorem portalcursormap_set (session : Session) (cursor : Nat) (contents : ServerCursor) :
    (session.set cursor contents).portalcursormap = session.portalcursormap := rfl

/-- Once there is a cursor, a Parse changes only the contents of it. -/
theorem parseInto_eq (limits : Limits) (session : Session) (cursor : Nat)
    (query : Option (List Byte)) (paramtypes : List Nat) (prepared : Bool) (given : Option Nat) :
    ∃ contents, (session.parseInto limits cursor query paramtypes prepared given).session =
      session.set cursor contents := by
  simp only [Session.parseInto]
  cases query with
  | none => exact ⟨_, rfl⟩
  | some query =>
      simp only
      split
      · exact ⟨_, rfl⟩
      · split <;> exact ⟨_, rfl⟩

@[simp] theorem parseInto_cursor (limits : Limits) (session : Session) (cursor : Nat)
    (query : Option (List Byte)) (paramtypes : List Nat) (prepared : Bool) (given : Option Nat) :
    (session.parseInto limits cursor query paramtypes prepared given).cursor = given := by
  simp only [Session.parseInto]
  cases query with
  | none => rfl
  | some query =>
      simp only
      split
      · rfl
      · split <;> rfl

/-- A Bind for a statement that is known sets the portal and the binds, however far it gets. -/
theorem bind_known (wellFormed : List Byte → Bool) (limits : Limits) {session : Session}
    {request : BindRequest} {cursor : Nat}
    (known : session.stmtcursormap request.stmtname = some cursor) :
    ∃ inputbinds loop, (session.bind wellFormed limits request).session =
        { session with
          portalcursormap := Function.update session.portalcursormap request.portal (some cursor)
          cursors := Function.update session.cursors cursor { session.cursors cursor with
            inputbinds := inputbinds
            executeflag := true }
          loop := loop } ∧
      ((session.bind wellFormed limits request).error = false →
        request.params wellFormed limits (session.cursors cursor).paramtypes =
          .bound inputbinds) := by
  cases params : request.params wellFormed limits (session.cursors cursor).paramtypes with
  | refused =>
      simp only [Session.bind, known, params]
      exact ⟨[], session.loop, rfl, fun fine => Bool.noConfusion fine⟩
  | unsupported =>
      simp only [Session.bind, known, params]
      exact ⟨[], false, rfl, fun fine => Bool.noConfusion fine⟩
  | bound binds =>
      refine ⟨binds, session.loop, ?_, fun _ => rfl⟩
      simp only [Session.bind, known, params]
      cases request.resultformats <;> rfl

theorem bind_cursor (wellFormed : List Byte → Bool) (limits : Limits) (session : Session)
    (request : BindRequest) : (session.bind wellFormed limits request).cursor = none := by
  simp only [Session.bind]
  split
  · rfl
  · split
    · rfl
    · rfl
    · split <;> rfl

theorem execute_eq (session : Session) (portal : Name) (executed fetched : Bool) :
    ∃ cursors, (session.execute portal executed fetched).session =
      { session with cursors := cursors } := by
  simp only [Session.execute]
  split
  · exact ⟨_, rfl⟩
  · split
    · split <;> exact ⟨_, rfl⟩
    · exact ⟨_, rfl⟩

/-! ## Steps -/

variable {wellFormed : List Byte → Bool} {limits : Limits} {watched : Watched}

theorem Owned.parse (owned : watched.Owned) (stmtname query : Option (List Byte))
    (paramtypes : List Nat) (prepared : Bool) (opens : Nat → Bool) :
    Owned ⟨(watched.session.parse limits stmtname query paramtypes prepared opens).session,
        watched.origins⟩ ∧
      ∀ cursor,
        (watched.session.parse limits stmtname query paramtypes prepared opens).cursor =
          some cursor → ¬watched.session.pool.Busy cursor := by
  cases stmtname with
  | none =>
      constructor
      · exact ⟨owned.owns, owned.portals⟩
      · intro cursor found
        cases found
  | some name =>
      cases known : watched.session.stmtcursormap name with
      | some cursor =>
          obtain ⟨contents, same⟩ :=
            parseInto_eq limits watched.session cursor query paramtypes prepared none
          simp only [Session.parse, known, same, parseInto_cursor]
          constructor
          · exact ⟨owned.owns, owned.portals⟩
          · intro other found
            cases found
      | none =>
          cases taken : Pool.getCursor limits.pool opens watched.session.pool with
          | mk cursor pool =>
              have given := congrArg Prod.fst taken
              have grown := congrArg Prod.snd taken
              simp only at given grown
              cases cursor with
              | none =>
                  simp only [Session.parse, known, taken]
                  have busy := Pool.getCursor_none given
                  rw [grown] at busy
                  constructor
                  · exact ⟨owned.owns.mono fun other => (busy other).mpr, owned.portals⟩
                  · intro other found
                    cases found
              | some cursor =>
                  obtain ⟨free, busy⟩ := Pool.getCursor_some given
                  rw [grown] at busy
                  simp only [Session.parse, known, taken, parseInto_cursor]
                  obtain ⟨contents, same⟩ := parseInto_eq limits
                    { watched.session with
                      pool := pool
                      stmtcursormap :=
                        Function.update watched.session.stmtcursormap name (some cursor) }
                    cursor query paramtypes prepared (some cursor)
                  rw [same]
                  constructor
                  · constructor
                    · apply owned.owns.take name free
                      · intro other allocated
                        exact (busy other).mpr (Or.inr allocated)
                      · exact (busy cursor).mpr (Or.inl rfl)
                    · intro portal stmtname bound
                      obtain ⟨mine, open_, mapped⟩ := owned.portals portal stmtname bound
                      refine ⟨mine, ?_, mapped⟩
                      have different : stmtname ≠ name := by
                        intro same
                        rw [same, known] at open_
                        cases open_
                      simp [different, open_]
                  · intro other found
                    cases found
                    exact free

theorem Owned.query (owned : watched.Owned) (prepared : Option (List Byte))
    (opens : Nat → Bool) :
    Owned ⟨(watched.session.query limits prepared opens).session, watched.origins⟩ ∧
      ∀ cursor, (watched.session.query limits prepared opens).cursor = some cursor →
        ¬watched.session.pool.Busy cursor := by
  cases taken : Pool.getCursor limits.pool opens watched.session.pool with
  | mk cursor pool =>
      have given := congrArg Prod.fst taken
      have grown := congrArg Prod.snd taken
      simp only at given grown
      cases cursor with
      | none =>
          simp only [Session.query, taken]
          have busy := Pool.getCursor_none given
          rw [grown] at busy
          constructor
          · exact ⟨owned.owns.mono fun other => (busy other).mpr, owned.portals⟩
          · intro other found
            cases found
      | some cursor =>
          obtain ⟨free, busy⟩ := Pool.getCursor_some given
          rw [grown] at busy
          simp only [Session.query, taken]
          constructor
          · constructor
            · apply owned.owns.mono
              intro other allocated
              apply Pool.busy_release.mpr
              constructor
              · intro same
                exact free (same ▸ allocated)
              · exact (busy other).mpr (Or.inr allocated)
            · exact owned.portals
          · intro other found
            cases found
            exact free

theorem Owned.bind (owned : watched.Owned) (request : BindRequest) :
    Owned ⟨(watched.session.bind wellFormed limits request).session,
      watched.originsAfter (.bind request)⟩ := by
  cases known : watched.session.stmtcursormap request.stmtname with
  | none =>
      simp only [Session.bind, originsAfter, known]
      exact ⟨owned.owns, owned.portals⟩
  | some cursor =>
      obtain ⟨inputbinds, loop, after, _⟩ := bind_known wellFormed limits known
      rw [after]
      simp only [originsAfter, known]
      constructor
      · exact owned.owns
      · intro portal stmtname bound
        simp only at bound ⊢
        by_cases same : portal = request.portal
        · subst same
          rw [Function.update_self] at bound ⊢
          cases bound
          exact ⟨cursor, known, rfl⟩
        · rw [Function.update_of_ne same] at bound ⊢
          exact owned.portals portal stmtname bound

theorem Owned.closeStatement (owned : watched.Owned) (name : Name) :
    Owned ⟨(watched.session.close true name).session, watched.originsAfter (.close true name)⟩ := by
  have origins : ∀ portal stmtname, watched.originsAfter (.close true name) portal = some stmtname →
      stmtname ≠ name ∧ watched.origins portal = some stmtname := by
    intro portal stmtname bound
    simp only [originsAfter] at bound
    split at bound
    · cases bound
    · next different =>
        constructor
        · intro same
          exact different (same ▸ bound)
        · exact bound
  cases known : watched.session.stmtcursormap name with
  | none =>
      simp only [Session.close, Session.lookup, if_true, known]
      constructor
      · exact owned.owns
      · intro portal stmtname bound
        exact owned.portals portal stmtname (origins portal stmtname bound).2
  | some cursor =>
      simp only [Session.close, Session.lookup, if_true, known]
      constructor
      · apply owned.owns.drop known
        intro other different allocated
        exact Pool.busy_release.mpr ⟨different, allocated⟩
      · intro portal stmtname bound
        obtain ⟨different, before⟩ := origins portal stmtname bound
        obtain ⟨mine, open_, mapped⟩ := owned.portals portal stmtname before
        exact ⟨mine, (Function.update_of_ne different ..).trans open_, mapped⟩

theorem Owned.closePortal_iff (owned : watched.Owned) (portal : Name) :
    Owned ⟨(watched.session.close false portal).session,
        watched.originsAfter (.close false portal)⟩ ↔
      ∀ cursor, watched.session.portalcursormap portal = some cursor →
        ∀ stmtname, watched.session.stmtcursormap stmtname ≠ some cursor := by
  have origins : ∀ other stmtname,
      watched.originsAfter (.close false portal) other = some stmtname →
        other ≠ portal ∧ watched.origins other = some stmtname := by
    intro other stmtname bound
    simp only [originsAfter, Function.update_apply] at bound
    split at bound
    · cases bound
    · next different => exact ⟨different, bound⟩
  cases known : watched.session.portalcursormap portal with
  | none =>
      simp only [Session.close, Session.lookup, Bool.false_eq_true, if_false, known]
      apply iff_of_true
      · constructor
        · exact owned.owns
        · intro other stmtname bound
          exact owned.portals other stmtname (origins other stmtname bound).2
      · intro cursor found
        cases found
  | some cursor =>
      have gone : ¬(watched.session.pool.release cursor).Busy cursor := by
        intro busy
        exact (Pool.busy_release.mp busy).1 rfl
      have released := owned.owns.release_iff gone
        (fun other different allocated => Pool.busy_release.mpr ⟨different, allocated⟩)
      simp only [Session.close, Session.lookup, Bool.false_eq_true, if_false, known]
      constructor
      · intro after other same stmtname
        cases same
        exact released.mp after.owns stmtname
      · intro nobody
        constructor
        · exact released.mpr (nobody cursor rfl)
        · intro other stmtname bound
          obtain ⟨different, before⟩ := origins other stmtname bound
          obtain ⟨mine, open_, mapped⟩ := owned.portals other stmtname before
          exact ⟨mine, open_, (Function.update_of_ne different ..).trans mapped⟩

theorem Owned.describe (owned : watched.Owned) (statement : Bool) (name : Name) :
    Owned ⟨(watched.session.describe statement name).session, watched.origins⟩ := by
  simp only [Session.describe]
  split <;> exact ⟨owned.owns, owned.portals⟩

theorem Owned.execute (owned : watched.Owned) (portal : Name) (executed fetched : Bool) :
    Owned ⟨(watched.session.execute portal executed fetched).session, watched.origins⟩ := by
  obtain ⟨cursors, same⟩ := execute_eq watched.session portal executed fetched
  rw [same]
  exact ⟨owned.owns, owned.portals⟩

/-- Messages other than Parse and Query hand out no cursor. -/
theorem handle_cursor (session : Session) (message : Message) {cursor : Nat}
    (found : (session.handle wellFormed limits message).cursor = some cursor) :
    (∃ stmtname query paramtypes prepared opens,
        message = .parse stmtname query paramtypes prepared opens) ∨
      ∃ prepared opens, message = .query prepared opens := by
  cases message with
  | parse stmtname query paramtypes prepared opens => exact Or.inl ⟨_, _, _, _, _, rfl⟩
  | query prepared opens => exact Or.inr ⟨_, _, rfl⟩
  | bind request =>
      rw [Session.handle, bind_cursor] at found
      cases found
  | describe statement name =>
      simp only [Session.handle, Session.describe] at found
      split at found <;> cases found
  | execute portal executed fetched =>
      simp only [Session.handle, Session.execute] at found
      split at found
      · cases found
      · split at found
        · split at found <;> cases found
        · cases found
  | close statement name =>
      simp only [Session.handle, Session.close] at found
      split at found
      · cases found
      · split at found <;> cases found
  | sync => cases found

theorem Owned.step_iff (owned : watched.Owned) (message : Message) :
    (watched.step wellFormed limits message).Owned ↔ watched.ClosesLast message := by
  cases loop : watched.session.loop with
  | false =>
      have same : watched.step wellFormed limits message = watched := by simp [step, loop]
      rw [same]
      apply iff_of_true owned
      cases message with
      | close statement name =>
          cases statement with
          | true => trivial
          | false =>
              intro goesOn
              rw [loop] at goesOn
              cases goesOn
      | _ => trivial
  | true =>
      have next : watched.step wellFormed limits message =
          ⟨(watched.session.handle wellFormed limits message).session,
            watched.originsAfter message⟩ := by
        simp [step, loop]
      rw [next]
      cases message with
      | parse stmtname query paramtypes prepared opens =>
          exact iff_of_true (owned.parse stmtname query paramtypes prepared opens).1 trivial
      | bind request => exact iff_of_true (owned.bind request) trivial
      | describe statement name => exact iff_of_true (owned.describe statement name) trivial
      | execute portal executed fetched =>
          exact iff_of_true (owned.execute portal executed fetched) trivial
      | close statement name =>
          cases statement with
          | true => exact iff_of_true (owned.closeStatement name) trivial
          | false =>
              apply (owned.closePortal_iff name).trans
              simp [ClosesLast, loop]
      | sync => exact iff_of_true ⟨owned.owns, owned.portals⟩ trivial
      | query prepared opens => exact iff_of_true (owned.query prepared opens).1 trivial

theorem Owned.unowned (owned : watched.Owned) (message : Message) {cursor : Nat}
    (found : watched.given wellFormed limits message = some cursor) (stmtname : Name) :
    watched.session.stmtcursormap stmtname ≠ some cursor := by
  simp only [given] at found
  split at found
  · apply owned.owns.unowned
    cases handle_cursor watched.session message found with
    | inl parsed =>
        obtain ⟨name, query, paramtypes, prepared, opens, same⟩ := parsed
        subst same
        exact (owned.parse name query paramtypes prepared opens).2 cursor found
    | inr queried =>
        obtain ⟨prepared, opens, same⟩ := queried
        subst same
        exact (owned.query prepared opens).2 cursor found
  · cases found

theorem Owned.keepsOwners_iff (owned : watched.Owned) (message : Message) :
    KeepsOwners wellFormed limits watched message ↔ watched.ClosesLast message := by
  constructor
  · intro keeps
    exact (owned.step_iff message).mp keeps.owned
  · intro closesLast
    constructor
    · exact (owned.step_iff message).mpr closesLast
    · intro cursor found
      exact owned.unowned message found

/-- In a session statements own their cursors all along exactly if every portal is closed when no
statement that is open has its cursor. -/
theorem keepsOwners_along_iff (wellFormed : List Byte → Bool) (limits : Limits) (pool : Pool)
    (cursors : Nat → ServerCursor) (messages : List Message) :
    Along (step wellFormed limits) (KeepsOwners wellFormed limits) (start pool cursors) messages ↔
      Along (step wellFormed limits) ClosesLast (start pool cursors) messages := by
  apply Along.iff_guard _ _ (owned_start pool cursors)
  · intro watched message owned closesLast
    exact (owned.step_iff message).mpr closesLast
  · intro watched message owned
    exact owned.keepsOwners_iff message

def oneCursor : Limits := ⟨65536, 256, ⟨1, 1⟩⟩

/-- A statement is prepared and bound, its portal is closed, and another statement is prepared. -/
def portalClosed : List Message :=
  [.parse (some [65]) (some (ascii "select 1")) [] true fun _ => true,
    .bind ⟨[80], [65], [], [], true⟩, .close false [80],
    .parse (some [66]) (some (ascii "select 2")) [] true fun _ => true]

/-- The first statement has lost its cursor when its portal was closed, and the second one gets it. -/
theorem portalClosed_shares :
    ¬∀ (wellFormed : List Byte → Bool) (limits : Limits) (pool : Pool)
      (cursors : Nat → ServerCursor) (messages : List Message),
      Along (step wellFormed limits) (KeepsOwners wellFormed limits) (start pool cursors)
        messages := by
  intro keeps
  have along := keeps (fun _ => true) oneCursor [.available] (fun _ => ⟨[], [], [], false⟩)
    portalClosed
  exact absurd (along.2.2.2.1.unowned 0 (by decide) [65]) (by decide)

end Watched

end SqlRelay.Postgresql
