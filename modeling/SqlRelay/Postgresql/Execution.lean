import SqlRelay.Postgresql.Ownership

/-!
# What an Execute runs

A portal has no query and no binds of its own: an Execute runs what its cursor holds, also after an
error.  That is what the client has sent if it executes a portal only while the last Bind of its
statement was the one of this portal, and it went well.
-/

namespace SqlRelay.Postgresql

open SqlRelay.Foundation SqlRelay.Cursors

/-- A session, with what the client has sent so far. -/
structure Conversation where
  watched : Watched
  /-- The query and the parameter types of the last Parse for each statement. -/
  queries : Name → Option (List Byte × List Nat)
  /-- The last Bind for each portal. -/
  binds : Name → Option BindRequest
  /-- An ErrorResponse has been sent since the last Sync. -/
  skipping : Bool
  /-- The last Parse for the statement has got as far as the query buffer of its cursor. -/
  accepted : Name → Bool
  /-- The statement that the portal is bound from, while no other Parse or Bind for the statement has
  come since the Bind of this portal, and that one was answered with a BindComplete. -/
  ready : Name → Option Name

namespace Conversation

def session (conversation : Conversation) : Session := conversation.watched.session

/-- No portal of the statement is ready any more. -/
def unready (conversation : Conversation) (stmtname portal : Name) : Option Name :=
  if conversation.ready portal = some stmtname then none else conversation.ready portal

/-- A Parse that is neither malformed nor too large. -/
def acceptable (limits : Limits) (query : Option (List Byte)) (paramtypes : List Nat) : Bool :=
  match query with
  | none => false
  | some query =>
      decide (paramtypes.length ≤ limits.maxbindcount) &&
        decide (query.length ≤ limits.maxquerysize)

def step (wellFormed : List Byte → Bool) (limits : Limits) (conversation : Conversation)
    (message : Message) : Conversation :=
  if conversation.session.loop then
    let response := conversation.session.handle wellFormed limits message
    let after := { conversation with
      watched := conversation.watched.step wellFormed limits message
      skipping := conversation.skipping || response.error }
    match message with
    | .parse (some stmtname) query paramtypes _ _ =>
        { after with
          queries := Function.update conversation.queries stmtname
            (query.map fun query => (query, paramtypes))
          accepted := Function.update conversation.accepted stmtname
            ((response.session.stmtcursormap stmtname).isSome &&
              acceptable limits query paramtypes)
          ready := conversation.unready stmtname }
    | .bind request =>
        { after with
          binds := Function.update conversation.binds request.portal (some request)
          ready := Function.update (conversation.unready request.stmtname) request.portal
            (if conversation.accepted request.stmtname && !response.error then
              some request.stmtname
            else none) }
    | .close true stmtname =>
        { after with
          accepted := Function.update conversation.accepted stmtname false
          ready := conversation.unready stmtname }
    | .close false portal => { after with ready := Function.update conversation.ready portal none }
    | .sync => { after with skipping := false }
    | _ => after
  else conversation

/-- The query that is executed for the message, with its binds. -/
def executed (wellFormed : List Byte → Bool) (limits : Limits) (conversation : Conversation)
    (message : Message) : Option (List Byte × List BindVar) :=
  if conversation.session.loop then
    (conversation.session.handle wellFormed limits message).executed
  else none

/-- The message is an Execute, the query is the one of the last Parse for the statement of the
portal, and the binds are those of the last Bind for the portal. -/
def Asked (wellFormed : List Byte → Bool) (limits : Limits) (conversation : Conversation)
    (message : Message) (query : List Byte) (inputbinds : List BindVar) : Prop :=
  match message with
  | .execute portal _ _ =>
      ∃ request paramtypes, conversation.binds portal = some request ∧
        conversation.queries request.stmtname = some (query, paramtypes) ∧
        request.params wellFormed limits paramtypes = .bound inputbinds
  | _ => False

/-- Nothing is executed between an ErrorResponse and the next Sync, and nothing that the client has
not asked for. -/
structure Proper (wellFormed : List Byte → Bool) (limits : Limits) (conversation : Conversation)
    (message : Message) : Prop where
  skipped : conversation.skipping = true →
    conversation.executed wellFormed limits message = none
  asked : ∀ query inputbinds,
    conversation.executed wellFormed limits message = some (query, inputbinds) →
      conversation.Asked wellFormed limits message query inputbinds

/-- What has to be so before a message.  A portal is closed after its statement.  Where an Execute is
going to execute a query, no ErrorResponse has been sent since the last Sync, and the portal is
ready. -/
def Orderly (conversation : Conversation) : Message → Prop
  | .close false portal => conversation.watched.ClosesLast (.close false portal)
  | .execute portal _ _ =>
      match conversation.session.portalcursormap portal with
      | none => True
      | some cursor =>
          (conversation.session.cursors cursor).executeflag = true →
            Session.emptyQuery (conversation.session.cursors cursor).querybuffer = false →
              conversation.skipping = false ∧ (conversation.ready portal).isSome = true
  | _ => True

def start (pool : Pool) (cursors : Nat → ServerCursor) : Conversation :=
  ⟨Watched.start pool cursors, fun _ => none, fun _ => none, false, fun _ => false,
    fun _ => none⟩

/-- The cursor of the statement holds the query of its last Parse. -/
structure Holds (conversation : Conversation) (stmtname : Name) (cursor : Nat) : Prop where
  mapped : conversation.session.stmtcursormap stmtname = some cursor
  query : conversation.queries stmtname =
    some ((conversation.session.cursors cursor).querybuffer,
      (conversation.session.cursors cursor).paramtypes)

/-- The cursor of the statement holds the binds of the portal. -/
structure Bound (wellFormed : List Byte → Bool) (limits : Limits) (conversation : Conversation)
    (portal stmtname : Name) (cursor : Nat) (request : BindRequest) : Prop where
  holds : conversation.Holds stmtname cursor
  shares : conversation.session.portalcursormap portal = some cursor
  sent : conversation.binds portal = some request
  names : request.stmtname = stmtname
  binds : request.params wellFormed limits (conversation.session.cursors cursor).paramtypes =
    .bound (conversation.session.cursors cursor).inputbinds

structure Sound (wellFormed : List Byte → Bool) (limits : Limits) (conversation : Conversation) :
    Prop where
  owned : conversation.watched.Owned
  accepted : ∀ stmtname, conversation.accepted stmtname = true →
    ∃ cursor, conversation.Holds stmtname cursor
  ready : ∀ portal stmtname, conversation.ready portal = some stmtname →
    ∃ cursor request, conversation.Bound wellFormed limits portal stmtname cursor request

theorem sound_start (wellFormed : List Byte → Bool) (limits : Limits) (pool : Pool)
    (cursors : Nat → ServerCursor) : (start pool cursors).Sound wellFormed limits where
  owned := Watched.owned_start pool cursors
  accepted stmtname found := by cases found
  ready portal stmtname found := by cases found

/-! ## What the handlers leave as it is -/

variable {wellFormed : List Byte → Bool} {limits : Limits}

/-- What a Parse leaves as it is, where another statement owns the cursor. -/
structure ParseFrame (limits : Limits) (session after : Session) (stmtname : Name)
    (query : Option (List Byte)) (paramtypes : List Nat) : Prop where
  others : ∀ other, other ≠ stmtname → after.stmtcursormap other = session.stmtcursormap other
  portals : after.portalcursormap = session.portalcursormap
  cursors : ∀ cursor, session.pool.Busy cursor → session.stmtcursormap stmtname ≠ some cursor →
    after.cursors cursor = session.cursors cursor
  accepted : acceptable limits query paramtypes = true → ∀ cursor,
    after.stmtcursormap stmtname = some cursor →
      query.map (fun query => (query, paramtypes)) =
        some ((after.cursors cursor).querybuffer, (after.cursors cursor).paramtypes)

theorem parseInto_acceptable {query : Option (List Byte)} {paramtypes : List Nat}
    (accepted : acceptable limits query paramtypes = true) (session : Session) (cursor : Nat)
    (prepared : Bool) (given : Option Nat) :
    query.map (fun query => (query, paramtypes)) =
      some ((((session.parseInto limits cursor query paramtypes prepared given).session).cursors
          cursor).querybuffer,
        (((session.parseInto limits cursor query paramtypes prepared given).session).cursors
          cursor).paramtypes) := by
  cases query with
  | none => cases accepted
  | some query =>
      simp only [acceptable, Bool.and_eq_true, decide_eq_true_eq] at accepted
      have notMany := Nat.not_lt.mpr accepted.1
      have notLarge := Nat.not_lt.mpr accepted.2
      simp [Session.parseInto, notMany, notLarge, Session.set]

theorem parse_frame (session : Session) (stmtname : Name) (query : Option (List Byte))
    (paramtypes : List Nat) (prepared : Bool) (opens : Nat → Bool) :
    ParseFrame limits session
      (session.parse limits (some stmtname) query paramtypes prepared opens).session stmtname
      query paramtypes := by
  cases known : session.stmtcursormap stmtname with
  | some cursor =>
      obtain ⟨contents, same⟩ :=
        Watched.parseInto_eq limits session cursor query paramtypes prepared none
      have accepted := fun accepted : acceptable limits query paramtypes = true =>
        parseInto_acceptable accepted session cursor prepared none
      simp only [Session.parse, known]
      rw [same] at accepted ⊢
      constructor
      · intro other _
        rfl
      · rfl
      · intro other _ different
        rw [known] at different
        exact Function.update_of_ne (fun found => different (congrArg some found.symm)) ..
      · intro fine other found
        cases Option.some.inj (known.symm.trans found)
        exact accepted fine
  | none =>
      cases taken : Pool.getCursor limits.pool opens session.pool with
      | mk cursor pool =>
          cases cursor with
          | none =>
              simp only [Session.parse, known, taken]
              constructor
              · intro other _
                rfl
              · rfl
              · intro other _ _
                rfl
              · intro _ cursor found
                exact absurd (known.symm.trans found) (Option.some_ne_none cursor).symm
          | some cursor =>
              obtain ⟨free, _⟩ := Pool.getCursor_some (congrArg Prod.fst taken)
              let opened := { session with
                pool := pool
                stmtcursormap := Function.update session.stmtcursormap stmtname (some cursor) }
              obtain ⟨contents, same⟩ := Watched.parseInto_eq limits opened cursor query paramtypes
                prepared (some cursor)
              have accepted := fun accepted : acceptable limits query paramtypes = true =>
                parseInto_acceptable accepted opened cursor prepared (some cursor)
              simp only [Session.parse, known, taken]
              rw [same] at accepted ⊢
              constructor
              · intro other different
                exact Function.update_of_ne different ..
              · rfl
              · intro other busy _
                have different : other ≠ cursor := by
                  intro same
                  exact free (same ▸ busy)
                exact Function.update_of_ne different ..
              · intro fine other found
                have mine : other = cursor := by
                  simpa [opened] using found.symm
                rw [mine]
                exact accepted fine

/-- What a Bind leaves as it is, and what it does where it is answered with a BindComplete. -/
structure BindFrame (wellFormed : List Byte → Bool) (limits : Limits) (session : Session)
    (response : Response) (request : BindRequest) : Prop where
  statements : response.session.stmtcursormap = session.stmtcursormap
  portals : ∀ portal, portal ≠ request.portal →
    response.session.portalcursormap portal = session.portalcursormap portal
  cursors : ∀ cursor, session.stmtcursormap request.stmtname ≠ some cursor →
    response.session.cursors cursor = session.cursors cursor
  query : ∀ cursor, (response.session.cursors cursor).querybuffer =
    (session.cursors cursor).querybuffer
  paramtypes : ∀ cursor, (response.session.cursors cursor).paramtypes =
    (session.cursors cursor).paramtypes
  complete : response.error = false → ∀ cursor,
    session.stmtcursormap request.stmtname = some cursor →
      response.session.portalcursormap request.portal = some cursor ∧
        request.params wellFormed limits (session.cursors cursor).paramtypes =
          .bound (response.session.cursors cursor).inputbinds

theorem bind_frame (session : Session) (request : BindRequest) :
    BindFrame wellFormed limits session (session.bind wellFormed limits request) request := by
  cases known : session.stmtcursormap request.stmtname with
  | none =>
      simp only [Session.bind, known]
      constructor
      · rfl
      · intro portal _
        rfl
      · intro cursor _
        rfl
      · intro cursor
        rfl
      · intro cursor
        rfl
      · intro fine
        cases fine
  | some cursor =>
      obtain ⟨inputbinds, loop, after, complete⟩ := Watched.bind_known wellFormed limits known
      constructor
      · rw [after]
      · intro portal different
        rw [after]
        exact Function.update_of_ne different ..
      · intro other different
        rw [known] at different
        rw [after]
        exact Function.update_of_ne (fun found => different (congrArg some found.symm)) ..
      · intro other
        rw [after]
        by_cases same : other = cursor <;> simp [same]
      · intro other
        rw [after]
        by_cases same : other = cursor <;> simp [same]
      · intro fine other found
        cases Option.some.inj (known.symm.trans found)
        rw [after]
        simp [complete fine]

/-- A Query leaves the maps as they are, and the cursors that are busy. -/
theorem query_frame (limits : Limits) (session : Session) (prepared : Option (List Byte))
    (opens : Nat → Bool) :
    (session.query limits prepared opens).session.stmtcursormap = session.stmtcursormap ∧
      (session.query limits prepared opens).session.portalcursormap = session.portalcursormap ∧
      ∀ cursor, session.pool.Busy cursor →
        (session.query limits prepared opens).session.cursors cursor = session.cursors cursor := by
  cases taken : Pool.getCursor limits.pool opens session.pool with
  | mk cursor pool =>
      cases cursor with
      | none =>
          simp only [Session.query, taken]
          exact ⟨rfl, rfl, fun _ _ => rfl⟩
      | some cursor =>
          obtain ⟨free, _⟩ := Pool.getCursor_some (congrArg Prod.fst taken)
          simp only [Session.query, taken]
          refine ⟨rfl, rfl, ?_⟩
          intro other busy
          have different : other ≠ cursor := by
            intro same
            exact free (same ▸ busy)
          exact Function.update_of_ne different ..

/-- An Execute changes only the execute flag of a cursor. -/
theorem execute_frame (session : Session) (portal : Name) (executed fetched : Bool) (other : Nat) :
    let after := (session.execute portal executed fetched).session.cursors other
    after.querybuffer = (session.cursors other).querybuffer ∧
      after.paramtypes = (session.cursors other).paramtypes ∧
      after.inputbinds = (session.cursors other).inputbinds := by
  simp only [Session.execute]
  split
  · exact ⟨rfl, rfl, rfl⟩
  · next cursor _ =>
      by_cases same : other = cursor
      · subst same
        split
        · split <;> simp [Session.set, Session.answer]
        · exact ⟨rfl, rfl, rfl⟩
      · split
        · split <;> simp [Session.set, Session.answer, same]
        · exact ⟨rfl, rfl, rfl⟩

/-! ## Steps -/

variable {conversation after : Conversation}

theorem Holds.frame {stmtname : Name} {cursor : Nat} (holds : conversation.Holds stmtname cursor)
    (mapped : after.session.stmtcursormap stmtname = conversation.session.stmtcursormap stmtname)
    (queries : after.queries stmtname = conversation.queries stmtname)
    (querybuffer : (after.session.cursors cursor).querybuffer =
      (conversation.session.cursors cursor).querybuffer)
    (paramtypes : (after.session.cursors cursor).paramtypes =
      (conversation.session.cursors cursor).paramtypes) : after.Holds stmtname cursor where
  mapped := mapped.trans holds.mapped
  query := by rw [queries, querybuffer, paramtypes, holds.query]

theorem Bound.frame {portal stmtname : Name} {cursor : Nat} {request : BindRequest}
    (bound : conversation.Bound wellFormed limits portal stmtname cursor request)
    (holds : after.Holds stmtname cursor)
    (shares : after.session.portalcursormap portal = conversation.session.portalcursormap portal)
    (sent : after.binds portal = conversation.binds portal)
    (paramtypes : (after.session.cursors cursor).paramtypes =
      (conversation.session.cursors cursor).paramtypes)
    (inputbinds : (after.session.cursors cursor).inputbinds =
      (conversation.session.cursors cursor).inputbinds) :
    after.Bound wellFormed limits portal stmtname cursor request where
  holds := holds
  shares := shares.trans bound.shares
  sent := sent.trans bound.sent
  names := bound.names
  binds := by rw [paramtypes, inputbinds, bound.binds]

theorem unready_some {stmtname portal other : Name}
    (found : conversation.unready stmtname portal = some other) :
    other ≠ stmtname ∧ conversation.ready portal = some other := by
  simp only [unready] at found
  split at found
  · cases found
  · next different =>
      constructor
      · intro same
        exact different (same ▸ found)
      · exact found

theorem watched_step (loop : conversation.session.loop = true) (message : Message) :
    (conversation.step wellFormed limits message).watched =
      conversation.watched.step wellFormed limits message := by
  cases message with
  | parse stmtname query paramtypes prepared opens => cases stmtname <;> simp [step, loop]
  | close statement name => cases statement <;> simp [step, loop]
  | _ => simp [step, loop]

theorem session_step (loop : conversation.session.loop = true) (message : Message) :
    (conversation.step wellFormed limits message).session =
      (conversation.session.handle wellFormed limits message).session := by
  have goesOn : conversation.watched.session.loop = true := loop
  simp only [session, watched_step loop, Watched.step, goesOn, if_true]

/-- The cursor of a statement is busy, and no other statement's. -/
theorem Holds.apart {stmtname other : Name} {cursor : Nat} (owned : conversation.watched.Owned)
    (holds : conversation.Holds stmtname cursor) (different : stmtname ≠ other) :
    conversation.session.pool.Busy cursor ∧
      conversation.session.stmtcursormap other ≠ some cursor := by
  constructor
  · exact owned.owns.allocated stmtname cursor holds.mapped
  · intro found
    exact different (owned.owns.apart stmtname other cursor holds.mapped found)

theorem Sound.parse (sound : conversation.Sound wellFormed limits)
    (loop : conversation.session.loop = true) (stmtname : Name) (query : Option (List Byte))
    (paramtypes : List Nat) (prepared : Bool) (opens : Nat → Bool)
    (owned : (conversation.step wellFormed limits
      (.parse (some stmtname) query paramtypes prepared opens)).watched.Owned) :
    (conversation.step wellFormed limits
      (.parse (some stmtname) query paramtypes prepared opens)).Sound wellFormed limits := by
  have frame : ParseFrame limits conversation.session
      (conversation.step wellFormed limits
        (.parse (some stmtname) query paramtypes prepared opens)).session stmtname query
      paramtypes := by
    rw [session_step loop]
    exact parse_frame conversation.session stmtname query paramtypes prepared opens
  have others : ∀ {other cursor}, other ≠ stmtname → conversation.Holds other cursor →
      (conversation.step wellFormed limits
        (.parse (some stmtname) query paramtypes prepared opens)).Holds other cursor ∧
      (conversation.step wellFormed limits
        (.parse (some stmtname) query paramtypes prepared opens)).session.cursors cursor =
          conversation.session.cursors cursor := by
    intro other cursor different holds
    obtain ⟨busy, notMine⟩ := holds.apart sound.owned different
    have contents := frame.cursors cursor busy notMine
    constructor
    · apply holds.frame (frame.others other different)
      · simp [step, loop, different]
      · rw [contents]
      · rw [contents]
    · exact contents
  constructor
  · exact owned
  · intro other found
    by_cases same : other = stmtname
    · subst same
      have accepted : ((conversation.step wellFormed limits
          (.parse (some other) query paramtypes prepared opens)).session.stmtcursormap
            other).isSome = true ∧ acceptable limits query paramtypes = true := by
        rw [session_step loop]
        simpa [step, loop] using found
      obtain ⟨cursor, mapped⟩ := Option.isSome_iff_exists.mp accepted.1
      refine ⟨cursor, mapped, ?_⟩
      rw [← frame.accepted accepted.2 cursor mapped]
      simp [step, loop]
    · have before : conversation.accepted other = true := by
        simpa [step, loop, same] using found
      obtain ⟨cursor, holds⟩ := sound.accepted other before
      exact ⟨cursor, (others same holds).1⟩
  · intro portal other found
    have before : conversation.unready stmtname portal = some other := by
      simpa [step, loop] using found
    obtain ⟨different, before⟩ := unready_some before
    obtain ⟨cursor, request, bound⟩ := sound.ready portal other before
    obtain ⟨holds, contents⟩ := others different bound.holds
    refine ⟨cursor, request, ?_⟩
    apply bound.frame holds
    · rw [frame.portals]
    · simp [step, loop]
    · rw [contents]
    · rw [contents]

theorem Sound.bind (sound : conversation.Sound wellFormed limits)
    (loop : conversation.session.loop = true) (request : BindRequest)
    (owned : (conversation.step wellFormed limits (.bind request)).watched.Owned) :
    (conversation.step wellFormed limits (.bind request)).Sound wellFormed limits := by
  have frame : BindFrame wellFormed limits conversation.session
      (conversation.session.handle wellFormed limits (.bind request)) request :=
    bind_frame conversation.session request
  have next : (conversation.step wellFormed limits (.bind request)).session =
      (conversation.session.handle wellFormed limits (.bind request)).session :=
    session_step loop _
  have holds : ∀ {stmtname cursor}, conversation.Holds stmtname cursor →
      (conversation.step wellFormed limits (.bind request)).Holds stmtname cursor := by
    intro stmtname cursor holds
    apply holds.frame
    · rw [next, frame.statements]
    · simp [step, loop]
    · rw [next, frame.query]
    · rw [next, frame.paramtypes]
  constructor
  · exact owned
  · intro stmtname found
    have before : conversation.accepted stmtname = true := by
      simpa [step, loop] using found
    obtain ⟨cursor, held⟩ := sound.accepted stmtname before
    exact ⟨cursor, holds held⟩
  · intro portal stmtname found
    have before : Function.update (conversation.unready request.stmtname) request.portal
        (if conversation.accepted request.stmtname &&
            !(conversation.session.handle wellFormed limits (.bind request)).error then
          some request.stmtname
        else none) portal = some stmtname := by
      simpa only [step, loop, if_true] using found
    by_cases same : portal = request.portal
    · subst same
      rw [Function.update_self] at before
      split at before
      · next fine =>
          cases before
          simp only [Bool.and_eq_true, Bool.not_eq_true'] at fine
          obtain ⟨cursor, held⟩ := sound.accepted request.stmtname fine.1
          obtain ⟨shares, params⟩ := frame.complete fine.2 cursor held.mapped
          refine ⟨cursor, request, holds held, ?_, ?_, rfl, ?_⟩
          · rw [next, shares]
          · simp [step, loop]
          · rw [next, frame.paramtypes, params]
      · cases before
    · rw [Function.update_of_ne same] at before
      obtain ⟨different, before⟩ := unready_some before
      obtain ⟨cursor, earlier, bound⟩ := sound.ready portal stmtname before
      obtain ⟨_, notMine⟩ := bound.holds.apart sound.owned different
      refine ⟨cursor, earlier, ?_⟩
      apply bound.frame (holds bound.holds)
      · rw [next, frame.portals portal same]
      · simp [step, loop, same]
      · rw [next, frame.paramtypes]
      · rw [next, frame.cursors cursor notMine]

/-- What a message that is neither a Parse nor a Bind leaves as it is. -/
structure Quiet (before after : Conversation) : Prop where
  owned : after.watched.Owned
  queries : after.queries = before.queries
  binds : after.binds = before.binds
  accepted : ∀ stmtname, after.accepted stmtname = true → before.accepted stmtname = true ∧
    after.session.stmtcursormap stmtname = before.session.stmtcursormap stmtname
  ready : ∀ portal stmtname, after.ready portal = some stmtname →
    before.ready portal = some stmtname ∧
      after.session.stmtcursormap stmtname = before.session.stmtcursormap stmtname ∧
      after.session.portalcursormap portal = before.session.portalcursormap portal
  cursors : ∀ cursor, before.session.pool.Busy cursor →
    (after.session.cursors cursor).querybuffer = (before.session.cursors cursor).querybuffer ∧
      (after.session.cursors cursor).paramtypes = (before.session.cursors cursor).paramtypes ∧
      (after.session.cursors cursor).inputbinds = (before.session.cursors cursor).inputbinds

theorem Quiet.sound (quiet : Quiet conversation after)
    (sound : conversation.Sound wellFormed limits) : after.Sound wellFormed limits := by
  have holds : ∀ {stmtname cursor}, conversation.Holds stmtname cursor →
      after.session.stmtcursormap stmtname = conversation.session.stmtcursormap stmtname →
        after.Holds stmtname cursor := by
    intro stmtname cursor holds mapped
    have contents := quiet.cursors cursor
      (sound.owned.owns.allocated stmtname cursor holds.mapped)
    apply holds.frame mapped (by rw [quiet.queries])
    · exact contents.1
    · exact contents.2.1
  constructor
  · exact quiet.owned
  · intro stmtname found
    obtain ⟨before, mapped⟩ := quiet.accepted stmtname found
    obtain ⟨cursor, held⟩ := sound.accepted stmtname before
    exact ⟨cursor, holds held mapped⟩
  · intro portal stmtname found
    obtain ⟨before, mapped, shares⟩ := quiet.ready portal stmtname found
    obtain ⟨cursor, request, bound⟩ := sound.ready portal stmtname before
    have contents := quiet.cursors cursor
      (sound.owned.owns.allocated stmtname cursor bound.holds.mapped)
    refine ⟨cursor, request, ?_⟩
    apply bound.frame (holds bound.holds mapped) shares (by rw [quiet.binds])
    · exact contents.2.1
    · exact contents.2.2

theorem orderly_execute {portal : Name} (fine : conversation.skipping = false)
    (isReady : (conversation.ready portal).isSome = true) (executed fetched : Bool) :
    conversation.Orderly (.execute portal executed fetched) := by
  simp only [Orderly]
  split
  · trivial
  · intro _ _
    exact ⟨fine, isReady⟩

theorem Orderly.closesLast {message : Message} (orderly : conversation.Orderly message) :
    conversation.watched.ClosesLast message := by
  cases message with
  | close statement name =>
      cases statement with
      | true => trivial
      | false => exact orderly
  | _ => trivial

theorem Quiet.of_same (owned : after.watched.Owned) (queries : after.queries = conversation.queries)
    (binds : after.binds = conversation.binds) (accepted : after.accepted = conversation.accepted)
    (ready : after.ready = conversation.ready)
    (statements : after.session.stmtcursormap = conversation.session.stmtcursormap)
    (portals : after.session.portalcursormap = conversation.session.portalcursormap)
    (cursors : ∀ cursor, conversation.session.pool.Busy cursor →
      (after.session.cursors cursor).querybuffer =
          (conversation.session.cursors cursor).querybuffer ∧
        (after.session.cursors cursor).paramtypes =
          (conversation.session.cursors cursor).paramtypes ∧
        (after.session.cursors cursor).inputbinds =
          (conversation.session.cursors cursor).inputbinds) : Quiet conversation after where
  owned := owned
  queries := queries
  binds := binds
  accepted stmtname found := ⟨accepted ▸ found, by rw [statements]⟩
  ready portal stmtname found := ⟨ready ▸ found, by rw [statements], by rw [portals]⟩
  cursors := cursors

theorem quiet_close (loop : conversation.session.loop = true) {statement : Bool} {name : Name}
    (owned : (conversation.step wellFormed limits (.close statement name)).watched.Owned) :
    Quiet conversation (conversation.step wellFormed limits (.close statement name)) := by
  have next : (conversation.step wellFormed limits (.close statement name)).session =
      (conversation.session.close statement name).session := session_step loop _
  cases statement with
  | true =>
      have statements : ∀ stmtname, stmtname ≠ name →
          (conversation.session.close true name).session.stmtcursormap stmtname =
            conversation.session.stmtcursormap stmtname := by
        intro stmtname different
        simp only [Session.close]
        split
        · rfl
        · exact Function.update_of_ne different ..
      have others : (conversation.session.close true name).session.portalcursormap =
            conversation.session.portalcursormap ∧
          (conversation.session.close true name).session.cursors =
            conversation.session.cursors := by
        simp only [Session.close]
        split <;> exact ⟨rfl, rfl⟩
      constructor
      · exact owned
      · simp [step, loop]
      · simp [step, loop]
      · intro stmtname found
        have open_ : stmtname ≠ name ∧ conversation.accepted stmtname = true := by
          by_cases same : stmtname = name
          · simp [step, loop, same] at found
          · exact ⟨same, by simpa [step, loop, same] using found⟩
        exact ⟨open_.2, by rw [next, statements stmtname open_.1]⟩
      · intro portal stmtname found
        have before : conversation.unready name portal = some stmtname := by
          simpa [step, loop] using found
        obtain ⟨different, before⟩ := unready_some before
        exact ⟨before, by rw [next, statements stmtname different], by rw [next, others.1]⟩
      · intro cursor _
        rw [next, others.2]
        exact ⟨rfl, rfl, rfl⟩
  | false =>
      have portals : ∀ portal, portal ≠ name →
          (conversation.session.close false name).session.portalcursormap portal =
            conversation.session.portalcursormap portal := by
        intro portal different
        simp only [Session.close]
        split
        · rfl
        · exact Function.update_of_ne different ..
      have others : (conversation.session.close false name).session.stmtcursormap =
            conversation.session.stmtcursormap ∧
          (conversation.session.close false name).session.cursors =
            conversation.session.cursors := by
        simp only [Session.close]
        split <;> exact ⟨rfl, rfl⟩
      constructor
      · exact owned
      · simp [step, loop]
      · simp [step, loop]
      · intro stmtname found
        exact ⟨by simpa [step, loop] using found, by rw [next, others.1]⟩
      · intro portal stmtname found
        have kept : portal ≠ name ∧ conversation.ready portal = some stmtname := by
          by_cases same : portal = name
          · simp [step, loop, same] at found
          · exact ⟨same, by simpa [step, loop, same] using found⟩
        exact ⟨kept.2, by rw [next, others.1], by rw [next, portals portal kept.1]⟩
      · intro cursor _
        rw [next, others.2]
        exact ⟨rfl, rfl, rfl⟩

theorem quiet_execute (loop : conversation.session.loop = true) {portal : Name}
    {executed fetched : Bool}
    (owned : (conversation.step wellFormed limits
      (.execute portal executed fetched)).watched.Owned) :
    Quiet conversation (conversation.step wellFormed limits (.execute portal executed fetched)) := by
  have next : (conversation.step wellFormed limits (.execute portal executed fetched)).session =
      (conversation.session.execute portal executed fetched).session := session_step loop _
  obtain ⟨cursors, maps⟩ := Watched.execute_eq conversation.session portal executed fetched
  apply Quiet.of_same owned (by simp [step, loop]) (by simp [step, loop]) (by simp [step, loop])
    (by simp [step, loop])
  · rw [next, maps]
  · rw [next, maps]
  · intro cursor _
    rw [next]
    exact execute_frame conversation.session portal executed fetched cursor

theorem quiet_query (loop : conversation.session.loop = true) {prepared : Option (List Byte)}
    {opens : Nat → Bool}
    (owned : (conversation.step wellFormed limits (.query prepared opens)).watched.Owned) :
    Quiet conversation (conversation.step wellFormed limits (.query prepared opens)) := by
  have next : (conversation.step wellFormed limits (.query prepared opens)).session =
      (conversation.session.query limits prepared opens).session := session_step loop _
  have frame := query_frame limits conversation.session prepared opens
  apply Quiet.of_same owned (by simp [step, loop]) (by simp [step, loop]) (by simp [step, loop])
    (by simp [step, loop])
  · rw [next, frame.1]
  · rw [next, frame.2.1]
  · intro cursor busy
    rw [next, frame.2.2 cursor busy]
    exact ⟨rfl, rfl, rfl⟩

/-- A message that leaves the session as it is. -/
theorem quiet_of_unchanged (loop : conversation.session.loop = true) {message : Message}
    (owned : (conversation.step wellFormed limits message).watched.Owned)
    (queries : (conversation.step wellFormed limits message).queries = conversation.queries)
    (binds : (conversation.step wellFormed limits message).binds = conversation.binds)
    (accepted : (conversation.step wellFormed limits message).accepted = conversation.accepted)
    (ready : (conversation.step wellFormed limits message).ready = conversation.ready)
    (unchanged : (conversation.session.handle wellFormed limits message).session =
      conversation.session) :
    Quiet conversation (conversation.step wellFormed limits message) := by
  have next : (conversation.step wellFormed limits message).session = conversation.session :=
    (session_step loop message).trans unchanged
  apply Quiet.of_same owned queries binds accepted ready
  · rw [next]
  · rw [next]
  · intro cursor _
    rw [next]
    exact ⟨rfl, rfl, rfl⟩

theorem Sound.step (sound : conversation.Sound wellFormed limits) {message : Message}
    (orderly : conversation.Orderly message) :
    (conversation.step wellFormed limits message).Sound wellFormed limits := by
  cases loop : conversation.session.loop with
  | false =>
      have same : conversation.step wellFormed limits message = conversation := by
        simp [Conversation.step, loop]
      rw [same]
      exact sound
  | true =>
      have owned : (conversation.step wellFormed limits message).watched.Owned := by
        rw [watched_step loop]
        exact (sound.owned.step_iff message).mpr orderly.closesLast
      cases message with
      | parse stmtname query paramtypes prepared opens =>
          cases stmtname with
          | some stmtname => exact sound.parse loop stmtname query paramtypes prepared opens owned
          | none =>
              have quiet := quiet_of_unchanged loop owned (by simp [Conversation.step, loop])
                (by simp [Conversation.step, loop]) (by simp [Conversation.step, loop])
                (by simp [Conversation.step, loop]) rfl
              exact quiet.sound sound
      | bind request => exact sound.bind loop request owned
      | describe statement name =>
          have unchanged : (conversation.session.describe statement name).session =
              conversation.session := by
            simp only [Session.describe]
            split <;> rfl
          have quiet := quiet_of_unchanged loop owned (by simp [Conversation.step, loop])
            (by simp [Conversation.step, loop]) (by simp [Conversation.step, loop])
            (by simp [Conversation.step, loop]) unchanged
          exact quiet.sound sound
      | execute portal executed fetched => exact (quiet_execute loop owned).sound sound
      | close statement name => exact (quiet_close loop owned).sound sound
      | sync =>
          have quiet := quiet_of_unchanged loop owned (by simp [Conversation.step, loop])
            (by simp [Conversation.step, loop]) (by simp [Conversation.step, loop])
            (by simp [Conversation.step, loop]) rfl
          exact quiet.sound sound
      | query prepared opens => exact (quiet_query loop owned).sound sound

theorem parse_executed (session : Session) (stmtname query : Option (List Byte))
    (paramtypes : List Nat) (prepared : Bool) (opens : Nat → Bool) :
    (session.parse limits stmtname query paramtypes prepared opens).executed = none := by
  have parsed : ∀ (session : Session) cursor given,
      (session.parseInto limits cursor query paramtypes prepared given).executed = none := by
    intro session cursor given
    simp only [Session.parseInto]
    split
    · rfl
    · split
      · rfl
      · split <;> rfl
  simp only [Session.parse]
  split
  · rfl
  · split
    · exact parsed _ _ _
    · split
      · rfl
      · exact parsed _ _ _

theorem bind_executed (session : Session) (request : BindRequest) :
    (session.bind wellFormed limits request).executed = none := by
  simp only [Session.bind]
  split
  · rfl
  · split
    · rfl
    · rfl
    · split <;> rfl

/-- Only an Execute whose portal has a cursor with the execute flag set executes a query. -/
theorem handle_executed {session : Session} {message : Message} {query : List Byte}
    {inputbinds : List BindVar}
    (found : (session.handle wellFormed limits message).executed = some (query, inputbinds)) :
    ∃ portal executed fetched cursor, message = .execute portal executed fetched ∧
      session.portalcursormap portal = some cursor ∧
      (session.cursors cursor).executeflag = true ∧
      Session.emptyQuery (session.cursors cursor).querybuffer = false ∧
      (session.cursors cursor).querybuffer = query ∧
      (session.cursors cursor).inputbinds = inputbinds := by
  cases message with
  | execute portal executed fetched =>
      simp only [Session.handle, Session.execute] at found
      split at found
      · cases found
      · next cursor mapped =>
          split at found
          · next flag =>
              split at found
              · cases found
              · next full =>
                  cases found
                  exact ⟨portal, executed, fetched, cursor, rfl, mapped, flag,
                    eq_false_of_ne_true full, rfl, rfl⟩
          · cases found
  | parse stmtname query paramtypes prepared opens =>
      rw [Session.handle, parse_executed] at found
      cases found
  | bind request =>
      rw [Session.handle, bind_executed] at found
      cases found
  | describe statement name =>
      simp only [Session.handle, Session.describe] at found
      split at found <;> cases found
  | close statement name =>
      simp only [Session.handle, Session.close] at found
      split at found
      · cases found
      · split at found <;> cases found
  | sync => cases found
  | query prepared opens =>
      simp only [Session.handle, Session.query] at found
      split at found <;> cases found

theorem Sound.proper (sound : conversation.Sound wellFormed limits) {message : Message}
    (orderly : conversation.Orderly message) :
    Proper wellFormed limits conversation message := by
  have asked : ∀ query inputbinds,
      conversation.executed wellFormed limits message = some (query, inputbinds) →
        conversation.skipping = false ∧
          conversation.Asked wellFormed limits message query inputbinds := by
    intro query inputbinds found
    simp only [executed] at found
    split at found
    · obtain ⟨portal, executed, fetched, cursor, isExecute, mapped, flag, full, isQuery, isBinds⟩ :=
        handle_executed found
      subst isExecute
      simp only [Orderly, mapped] at orderly
      obtain ⟨notSkipping, isReady⟩ := orderly flag full
      obtain ⟨stmtname, ready⟩ := Option.isSome_iff_exists.mp isReady
      obtain ⟨held, request, bound⟩ := sound.ready portal stmtname ready
      have same : held = cursor := Option.some.inj (bound.shares.symm.trans mapped)
      subst same
      refine ⟨notSkipping, request, (conversation.session.cursors held).paramtypes, bound.sent, ?_,
        ?_⟩
      · rw [bound.names, bound.holds.query, isQuery]
      · rw [bound.binds, isBinds]
    · cases found
  constructor
  · intro skipping
    cases found : conversation.executed wellFormed limits message with
    | none => rfl
    | some ran =>
        have notSkipping := (asked ran.1 ran.2 found).1
        rw [skipping] at notSkipping
        cases notSkipping
  · intro query inputbinds found
    exact (asked query inputbinds found).2

/-- In a session whose messages are all orderly, nothing is executed between an ErrorResponse and the
next Sync, and an Execute runs what the client has sent for its portal. -/
theorem proper_along (wellFormed : List Byte → Bool) (limits : Limits) (pool : Pool)
    (cursors : Nat → ServerCursor) (messages : List Message)
    (orderly : Along (step wellFormed limits) Orderly (start pool cursors) messages) :
    Along (step wellFormed limits) (Proper wellFormed limits) (start pool cursors) messages := by
  apply Along.of_guard _ _ (sound_start wellFormed limits pool cursors) orderly
  · intro conversation message sound met
    exact sound.step met
  · intro conversation message sound met
    exact sound.proper met

def fiveCursors : Limits := ⟨65536, 256, ⟨5, 1⟩⟩

/-- A statement is prepared, bound with a parameter, and executed. -/
def insertion : List Message :=
  [.parse (some [65]) (some (ascii "insert")) [23] true fun _ => true,
    .bind ⟨[80], [65], [1], [.value [0, 0, 0, 7]], true⟩, .execute [80] true true, .sync]

theorem proper_along_insertion :
    Along (step (fun _ => true) fiveCursors) (Proper (fun _ => true) fiveCursors)
      (start [.available] fun _ => ⟨[], [], [], false⟩) insertion :=
  proper_along (fun _ => true) fiveCursors [.available] (fun _ => ⟨[], [], [], false⟩) insertion
    ⟨trivial, trivial, orderly_execute rfl rfl true true, trivial, trivial⟩

/-- The client does not wait for the answers: a Parse fails before the portal of another statement is
executed. -/
def pipelined : List Message :=
  [.parse (some [65]) (some (ascii "insert")) [] true fun _ => true,
    .bind ⟨[80], [65], [], [], true⟩,
    .parse (some [66]) (some (ascii "update")) [] false fun _ => true, .execute [80] true true]

/-- The query is executed although an ErrorResponse has been sent. -/
theorem pipelined_executes :
    ¬∀ (wellFormed : List Byte → Bool) (limits : Limits) (pool : Pool)
      (cursors : Nat → ServerCursor) (messages : List Message),
      Along (step wellFormed limits) (Proper wellFormed limits) (start pool cursors) messages := by
  intro proper
  have along := proper (fun _ => true) fiveCursors [.available] (fun _ => ⟨[], [], [], false⟩)
    pipelined
  exact absurd (along.2.2.2.1.skipped (by decide)) (by decide)

end Conversation

end SqlRelay.Postgresql
