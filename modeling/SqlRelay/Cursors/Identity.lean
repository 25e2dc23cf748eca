import Mathlib.Logic.Function.Basic
import SqlRelay.Cursors.Pool

/-!
# The cursors of a client

The cursors of a client's connection keep the id of the server's cursor that they were given, and
whether the next execution is another one of the same query.  The server gives a cursor that was
released to whichever of them asks next.
-/

namespace SqlRelay.Cursors

/-! ## The source -/

/-- What a `sqlrcursor` keeps; it is prepared if it has a query. -/
structure ClientCursor where
  prepared : Bool
  reexecute : Bool
  cursorid : Nat
  havecursorid : Bool
  endofresultset : Bool
  deriving DecidableEq, Repr

/-- The commands of the protocol; a new query needs a new cursor, or asks for the one that it has. -/
inductive Command where
  | newQuery (cursorid : Option Nat)
  | reExecuteQuery (cursorid : Nat)
  | fetchResultSet (cursorid : Nat)
  | abortResultSet (cursorid : Nat)
  deriving DecidableEq, Repr

namespace ClientCursor

def initial : ClientCursor := ⟨false, false, 0, false, true⟩

variable (cursor : ClientCursor)

/-- `prepareQuery` -/
def prepareQuery : ClientCursor := { cursor with prepared := true, reexecute := false }

/-- `sendQueryInternal` -/
def sendQueryInternal : Command :=
  if cursor.reexecute then .reExecuteQuery cursor.cursorid
  else .newQuery (if cursor.havecursorid then some cursor.cursorid else none)

/-- `processInitialResultSet`, and that the query is executed again unless another one is prepared.
There is no id in the answer if there was no cursor; `ended` is that the result set has come to its
end, as it has if there was an error. -/
def executed (answer : Option Nat) (ended : Bool) : ClientCursor :=
  match answer with
  | none => { cursor with reexecute := true, endofresultset := true }
  | some cursorid =>
      { cursor with
        reexecute := true
        cursorid := cursorid
        havecursorid := true
        endofresultset := ended }

/-- `fetchRowIntoBuffer`, for a row behind those that there are. -/
def fetchRowIntoBuffer : Option Command :=
  if cursor.endofresultset then none else some (.fetchResultSet cursor.cursorid)

/-- `parseResults`; nothing can be parsed if there was no such cursor. -/
def fetched (answer : Option Nat) (ended : Bool) : ClientCursor :=
  match answer with
  | none => cursor
  | some _ => { cursor with endofresultset := ended }

/-- `closeResultSet`, where nothing is cached. -/
def closeResultSet : Option Command :=
  if cursor.havecursorid then some (.abortResultSet cursor.cursorid) else none

def closed : ClientCursor := { cursor with havecursorid := false }

end ClientCursor

/-- The client's cursors, the server's, and whom each of these is assigned to: who was given it last
and has not released it. -/
structure Connected (Name : Type) where
  clients : Name → ClientCursor
  pool : Pool
  holder : Nat → Option Name

/-- What the client does with one of its cursors.  `opens` is which of the server's cursors can be opened,
and `succeeds` whether the query does. -/
inductive Operation (Name : Type) where
  | opened (name : Name)
  | prepare (name : Name)
  | execute (name : Name) (opens : Nat → Bool) (succeeds ended : Bool)
  | fetch (name : Name) (ended : Bool)
  | close (name : Name)

namespace Connected

variable {Name : Type} [DecidableEq Name] (config : PoolConfig)

def setClient (state : Connected Name) (name : Name) (cursor : ClientCursor) : Connected Name :=
  { state with clients := Function.update state.clients name cursor }

/-- The server's cursors are these now, and one of them is somebody's, or nobody's. -/
def assign (state : Connected Name) (pool : Pool) (cursorid : Nat) (name : Option Name) :
    Connected Name :=
  { state with pool := pool, holder := Function.update state.holder cursorid name }

/-- The server has found its cursor, and returns a result set. -/
def busy (state : Connected Name) (cursorid : Nat) (succeeds : Bool) : Connected Name :=
  if succeeds then { state with pool := state.pool.set cursorid .busy } else state

/-- What the server does with a command, and the cursor that it has reached. -/
def serve (state : Connected Name) (name : Name) (opens : Nat → Bool) (succeeds : Bool) :
    Command → Option Nat × Connected Name
  | .newQuery none =>
      match Pool.getCursor config opens state.pool with
      | (none, pool) => (none, { state with pool := pool })
      | (some cursorid, pool) =>
          (some cursorid, busy (state.assign pool cursorid (some name)) cursorid succeeds)
  | .newQuery (some cursorid) =>
      if cursorid < state.pool.length then
        (some cursorid, busy (state.assign state.pool cursorid (some name)) cursorid succeeds)
      else (none, state)
  | .reExecuteQuery cursorid | .fetchResultSet cursorid =>
      if cursorid < state.pool.length then (some cursorid, busy state cursorid succeeds)
      else (none, state)
  | .abortResultSet cursorid =>
      if cursorid < state.pool.length then
        (some cursorid, state.assign (state.pool.release cursorid) cursorid none)
      else (none, state)

/-- The command that is sent, and for which cursor. -/
def sent (state : Connected Name) : Operation Name → Option (Name × Command)
  | .opened name | .close name => (state.clients name).closeResultSet.map (name, ·)
  | .prepare _ => none
  | .execute name _ _ _ =>
      if (state.clients name).prepared then some (name, (state.clients name).sendQueryInternal)
      else none
  | .fetch name _ => (state.clients name).fetchRowIntoBuffer.map (name, ·)

/-- The server, if the command is sent. -/
def abort (state : Connected Name) (name : Name) : Connected Name :=
  match (state.clients name).closeResultSet with
  | none => state
  | some command => (state.serve config name (fun _ => false) true command).2

def step (state : Connected Name) : Operation Name → Connected Name
  | .opened name => (state.abort config name).setClient name .initial
  | .prepare name => state.setClient name (state.clients name).prepareQuery
  | .execute name opens succeeds ended =>
      if (state.clients name).prepared then
        let answer := state.serve config name opens succeeds (state.clients name).sendQueryInternal
        answer.2.setClient name ((state.clients name).executed answer.1 (ended || !succeeds))
      else state
  | .fetch name ended =>
      match (state.clients name).fetchRowIntoBuffer with
      | none => state
      | some command =>
          let answer := state.serve config name (fun _ => false) true command
          answer.2.setClient name ((state.clients name).fetched answer.1 ended)
  | .close name => (state.abort config name).setClient name (state.clients name).closed

/-- None of the client's cursors has been used. -/
def start (pool : Pool) : Connected Name := ⟨fun _ => .initial, pool, fun _ => none⟩

end Connected

/-! ## What is meant -/

namespace Connected

variable {Name : Type} [DecidableEq Name] (config : PoolConfig)

/-- In each state of the run, something holds of what is done next. -/
def Throughout (holds : Connected Name → Operation Name → Prop) :
    Connected Name → List (Operation Name) → Prop
  | _, [] => True
  | state, operation :: operations =>
      holds state operation ∧ Throughout holds (state.step config operation) operations

/-- A command for an earlier query reaches a cursor that is assigned to the one that sends it. -/
def Reaches (state : Connected Name) (name : Name) : Command → Prop
  | .newQuery _ => True
  | .reExecuteQuery cursorid | .fetchResultSet cursorid | .abortResultSet cursorid =>
      state.holder cursorid = some name

def Identified (state : Connected Name) (operation : Operation Name) : Prop :=
  ∀ name command, state.sent operation = some (name, command) → state.Reaches name command

/-- A query is not executed again, and rows are not fetched, by one that has no cursor of the server. -/
def Settled (state : Connected Name) : Operation Name → Prop
  | .execute name _ _ _ =>
      (state.clients name).prepared = true → (state.clients name).reexecute = true →
        (state.clients name).havecursorid = true
  | .fetch name _ =>
      (state.clients name).endofresultset = false → (state.clients name).havecursorid = true
  | _ => True

end Connected

/-! ## Steps -/

def ClientCursor.held (cursor : ClientCursor) : Option Nat :=
  if cursor.havecursorid then some cursor.cursorid else none

theorem ClientCursor.held_eq_some {cursor : ClientCursor} {cursorid : Nat} :
    cursor.held = some cursorid ↔ cursor.havecursorid = true ∧ cursor.cursorid = cursorid := by
  rw [held]
  split
  case isTrue has => simp [has]
  case isFalse hasNot => simp [hasNot]

namespace Connected

variable {Name : Type}

/-- Each cursor of the server is assigned to the one that has its id, and busy then. -/
structure Held (state : Connected Name) : Prop where
  held : ∀ name cursorid,
    state.holder cursorid = some name ↔ (state.clients name).held = some cursorid
  busy : ∀ name cursorid, state.holder cursorid = some name → state.pool.Busy cursorid

variable {config : PoolConfig} {state : Connected Name}

theorem identified_iff (held : state.Held) (operation : Operation Name) :
    state.Identified operation ↔ state.Settled operation := by
  have own : ∀ name, state.holder (state.clients name).cursorid = some name ↔
      (state.clients name).havecursorid = true := by
    intro name
    rw [held.held, ClientCursor.held_eq_some]
    exact and_iff_left rfl
  have closing : ∀ name, ∀ owner command,
      (state.clients name).closeResultSet.map (name, ·) = some (owner, command) →
        state.Reaches owner command := by
    intro name owner command given
    rw [ClientCursor.closeResultSet] at given
    split at given
    case isTrue has =>
      cases given
      exact (own name).mpr has
    case isFalse => cases given
  cases operation with
  | opened name => exact iff_of_true (closing name) trivial
  | close name => exact iff_of_true (closing name) trivial
  | prepare name => exact iff_of_true (fun owner command given => by cases given) trivial
  | execute name opens succeeds ended =>
      constructor
      · intro identified prepared again
        have reaches := identified name (state.clients name).sendQueryInternal
          (by rw [sent, if_pos prepared])
        rw [ClientCursor.sendQueryInternal, if_pos again] at reaches
        exact (own name).mp reaches
      · intro settled owner command given
        rw [sent] at given
        split at given
        case isTrue prepared =>
          cases given
          rw [ClientCursor.sendQueryInternal]
          split
          case isTrue again => exact (own name).mpr (settled prepared again)
          case isFalse => trivial
        case isFalse => cases given
  | fetch name ended =>
      constructor
      · intro identified more
        have reaches := identified name (.fetchResultSet (state.clients name).cursorid)
          (by simp [sent, ClientCursor.fetchRowIntoBuffer, more])
        exact (own name).mp reaches
      · intro settled owner command given
        rw [sent, ClientCursor.fetchRowIntoBuffer] at given
        split at given
        case isTrue => cases given
        case isFalse more =>
          cases given
          exact (own name).mpr (settled (Bool.eq_false_iff.mpr more))

theorem Held.lt (held : state.Held) {name : Name} {cursorid : Nat}
    (mine : (state.clients name).held = some cursorid) : cursorid < state.pool.length :=
  (held.busy name cursorid ((held.held name cursorid).mpr mine)).lt

theorem Held.busied (held : state.Held) {cursorid : Nat} (inside : cursorid < state.pool.length)
    (succeeds : Bool) : (Connected.busy state cursorid succeeds).Held := by
  rw [Connected.busy]
  split
  case isTrue =>
    constructor
    · exact held.held
    · intro name other mine
      exact (Pool.busy_set_busy inside).mpr (Or.inr (held.busy name other mine))
  case isFalse => exact held

/-- There was no cursor to be given. -/
theorem Held.refused (held : state.Held) {opens : Nat → Bool} {pool : Pool}
    (given : Pool.getCursor config opens state.pool = (none, pool)) :
    Connected.Held { state with pool := pool } := by
  have kept := @Pool.getCursor_none config opens state.pool (by rw [given])
  rw [given] at kept
  constructor
  · exact held.held
  · intro name cursorid owned
    exact (kept cursorid).mpr (held.busy name cursorid owned)

variable [DecidableEq Name]

/-- A cursor of the client changes, but not in what it has of the server. -/
theorem Held.keep (held : state.Held) {name : Name} {cursor : ClientCursor}
    (same : cursor.held = (state.clients name).held) : (state.setClient name cursor).Held := by
  constructor
  · intro other cursorid
    rw [setClient]
    dsimp only
    rw [held.held]
    by_cases isName : other = name
    · subst isName
      rw [Function.update_self, same]
    · rw [Function.update_of_ne isName]
  · exact held.busy

/-- One that has none of the server's cursors is given one that was not busy. -/
theorem Held.take (held : state.Held) {name : Name} {opens : Nat → Bool} {cursorid : Nat} {pool : Pool}
    (without : (state.clients name).held = none)
    (given : Pool.getCursor config opens state.pool = (some cursorid, pool))
    {cursor : ClientCursor} (mine : cursor.held = some cursorid) :
    ((state.assign pool cursorid (some name)).setClient name cursor).Held := by
  have taken := @Pool.getCursor_some config opens state.pool cursorid (by rw [given])
  rw [given] at taken
  constructor
  · intro other found
    have before := held.held other found
    rw [setClient, assign]
    dsimp only
    by_cases isCursor : found = cursorid
    · subst isCursor
      have free : ¬state.holder found = some other := mt (held.busy other found) taken.1
      rw [Function.update_self]
      by_cases isName : other = name
      · subst isName
        rw [Function.update_self, mine]
        simp
      · rw [Function.update_of_ne isName, ← before]
        simp [free, Ne.symm isName]
    · rw [Function.update_of_ne isCursor]
      by_cases isName : other = name
      · subst isName
        rw [Function.update_self, mine, before, without]
        simp [Ne.symm isCursor]
      · rw [Function.update_of_ne isName, before]
  · intro other found owned
    apply (taken.2 found).mpr
    by_cases isCursor : found = cursorid
    · exact Or.inl isCursor
    · right
      apply held.busy other
      rw [setClient, assign] at owned
      dsimp only at owned
      rwa [Function.update_of_ne isCursor] at owned

/-- A cursor is released by the one that it is assigned to. -/
theorem Held.drop (held : state.Held) {name : Name} {cursorid : Nat} {cursor : ClientCursor}
    (mine : (state.clients name).held = some cursorid) (without : cursor.held = none) :
    ((state.assign (state.pool.release cursorid) cursorid none).setClient name cursor).Held := by
  have owned := (held.held name cursorid).mpr mine
  constructor
  · intro other found
    have before := held.held other found
    rw [setClient, assign]
    dsimp only
    by_cases isName : other = name
    · subst isName
      rw [Function.update_self, without]
      by_cases isCursor : found = cursorid
      · subst isCursor
        simp
      · rw [Function.update_of_ne isCursor, before, mine]
        simp [Ne.symm isCursor]
    · rw [Function.update_of_ne isName]
      by_cases isCursor : found = cursorid
      · subst isCursor
        rw [Function.update_self, ← before, owned]
        simp [Ne.symm isName]
      · rw [Function.update_of_ne isCursor, before]
  · intro other found still
    rw [setClient, assign] at still
    dsimp only at still
    by_cases isCursor : found = cursorid
    · subst isCursor
      rw [Function.update_self] at still
      cases still
    · rw [Function.update_of_ne isCursor] at still
      exact Pool.busy_release.mpr ⟨isCursor, held.busy other found still⟩

theorem Held.abort (held : state.Held) {name : Name} {cursor : ClientCursor}
    (without : cursor.held = none) : ((state.abort config name).setClient name cursor).Held := by
  rw [Connected.abort]
  cases has : (state.clients name).havecursorid with
  | false =>
      rw [ClientCursor.closeResultSet, if_neg (by simp [has])]
      apply held.keep
      rw [without, ClientCursor.held, has]
      rfl
  | true =>
      have mine : (state.clients name).held = some (state.clients name).cursorid :=
        ClientCursor.held_eq_some.mpr ⟨has, rfl⟩
      rw [ClientCursor.closeResultSet, if_pos has]
      dsimp only
      rw [serve, if_pos (held.lt mine)]
      exact held.drop mine without

theorem setClient_busy (name : Name) (cursor : ClientCursor) (cursorid : Nat) (succeeds : Bool) :
    (Connected.busy state cursorid succeeds).setClient name cursor =
      Connected.busy (state.setClient name cursor) cursorid succeeds := by
  cases succeeds <;> rfl

omit [DecidableEq Name] in
theorem Held.assigned (held : state.Held) {name : Name} {cursorid : Nat}
    (mine : (state.clients name).held = some cursorid) :
    state.assign state.pool cursorid (some name) = state := by
  have owned := (held.held name cursorid).mpr mine
  rw [assign, ← owned, Function.update_eq_self]

/-- One that has a cursor of the server uses it again. -/
theorem Held.again (held : state.Held) {name : Name} {cursorid : Nat} {cursor : ClientCursor}
    (mine : (state.clients name).held = some cursorid) (still : cursor.held = some cursorid)
    (succeeds : Bool) : ((Connected.busy state cursorid succeeds).setClient name cursor).Held := by
  rw [setClient_busy]
  apply (held.keep (still.trans mine.symm)).busied
  exact held.lt mine

theorem Held.execute (held : state.Held) {name : Name} {opens : Nat → Bool} {succeeds ended : Bool}
    (settled : state.Settled (.execute name opens succeeds ended)) :
    (state.step config (.execute name opens succeeds ended)).Held := by
  rw [step]
  split
  case isFalse => exact held
  case isTrue prepared =>
    rw [ClientCursor.sendQueryInternal]
    cases has : (state.clients name).havecursorid with
    | true =>
        have mine : (state.clients name).held = some (state.clients name).cursorid :=
          ClientCursor.held_eq_some.mpr ⟨has, rfl⟩
        split
        case isTrue =>
          simp only [serve, if_pos (held.lt mine)]
          exact held.again mine rfl succeeds
        case isFalse =>
          simp only [if_true, serve, if_pos (held.lt mine), held.assigned mine]
          exact held.again mine rfl succeeds
    | false =>
        have without : (state.clients name).held = none := by
          rw [ClientCursor.held, has]
          rfl
        have first : ¬(state.clients name).reexecute = true := by
          intro again
          have having := settled prepared again
          rw [has] at having
          cases having
        rw [if_neg first]
        simp only [Bool.false_eq_true, if_false, serve]
        cases given : Pool.getCursor config opens state.pool with
        | mk answer pool =>
            cases answer with
            | none =>
                apply (held.refused given).keep
                rw [without, ClientCursor.executed, ClientCursor.held, has]
                rfl
            | some cursorid =>
                dsimp only
                rw [setClient_busy]
                apply (held.take without given rfl).busied
                have taken := @Pool.getCursor_some config opens state.pool cursorid (by rw [given])
                rw [given] at taken
                exact ((taken.2 cursorid).mpr (Or.inl rfl)).lt

theorem Held.step (held : state.Held) {operation : Operation Name}
    (settled : state.Settled operation) : (state.step config operation).Held := by
  cases operation with
  | opened name => exact held.abort rfl
  | close name => exact held.abort rfl
  | prepare name => exact held.keep rfl
  | execute name opens succeeds ended => exact held.execute settled
  | fetch name ended =>
      rw [Connected.step, ClientCursor.fetchRowIntoBuffer]
      cases more : (state.clients name).endofresultset with
      | true => exact held
      | false =>
          have mine : (state.clients name).held = some (state.clients name).cursorid :=
            ClientCursor.held_eq_some.mpr ⟨settled more, rfl⟩
          simp only [Bool.false_eq_true, if_false, serve, if_pos (held.lt mine)]
          apply held.again mine _ true
          exact mine

/-! ## Runs -/

omit [DecidableEq Name] in
theorem held_start (pool : Pool) : (start pool : Connected Name).Held := by
  constructor
  · intro name cursorid
    exact iff_of_false (by simp [start]) (by simp [start, ClientCursor.held, ClientCursor.initial])
  · intro name cursorid owned
    cases owned

theorem throughout_identified_iff (held : state.Held) (operations : List (Operation Name)) :
    Throughout config Identified state operations ↔ Throughout config Settled state operations := by
  induction operations generalizing state with
  | nil => exact Iff.rfl
  | cons operation operations ih =>
      rw [Throughout, Throughout, identified_iff held]
      constructor
      · intro both
        exact ⟨both.1, (ih (held.step both.1)).mp both.2⟩
      · intro both
        exact ⟨both.1, (ih (held.step both.1)).mpr both.2⟩

/-- What the client sends for an earlier query reaches the cursor that is assigned to it, in each run that
executes and fetches with a cursor of the server only, and in no other. -/
theorem identified_throughout_iff (pool : Pool) (operations : List (Operation Name)) :
    Throughout config Identified (start pool) operations ↔
      Throughout config Settled (start pool) operations :=
  throughout_identified_iff (held_start pool) operations

/-- The first cursor is closed, and the second one executes another query, before the first one executes
its query again. -/
theorem closed_reexecutes : ¬Throughout ⟨5, 1⟩ Identified (start [.available])
    [.prepare false, .execute false (fun _ => true) true true, .close false, .prepare true,
      .execute true (fun _ => true) true true, .execute false (fun _ => true) true true] := by
  intro throughout
  have last := throughout.2.2.2.2.2.1 false (.reExecuteQuery 0) rfl
  cases last

end Connected

end SqlRelay.Cursors
