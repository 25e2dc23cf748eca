import SqlRelay.Cursors.Controller
import SqlRelay.Foundation.Run

/-!
# Which cursors are there, and who has them

Through any sequence of calls the controller counts the cursors with the ids below its count, hands out none
that somebody has, and gives its temporary cursors ids that none of the others can have.
-/

namespace SqlRelay.Cursors

open SqlRelay.Foundation

/-! ## Runs -/

/-- What is asked of the controller, with what the database answers.  A protocol may put a cursor to use
without asking for it, and suspend it. -/
inductive Call where
  | getCursor (opens : Opens)
  | getCursorById (id : Nat)
  | release (cursor : Nat)
  | use (cursor : Nat)
  | suspendResultSet (cursor : Nat)
  | suspendSession
  | endSession (relogin : Option (List Attempt))
  | newCursor

/-- The controller, the cursors that it has handed out and that have not been released since, and the ids of
the temporary cursors that it has created. -/
structure System where
  controller : Controller
  handed : List Nat
  temporary : List Nat

namespace System

variable (config : Config)

def start : System := ⟨initial config, [], []⟩

def step (system : System) : Call → System
  | .getCursor opens =>
      { system with
        controller := (getCursor config opens system.controller).2
        handed := (getCursor config opens system.controller).1.toList ++ system.handed }
  | .getCursorById _ => system
  | .release cursor =>
      { system with
        controller := system.controller.release cursor
        handed := system.handed.filter (· ≠ cursor) }
  | .use cursor => { system with controller := system.controller.setState cursor .busy }
  | .suspendResultSet cursor => { system with controller := system.controller.setState cursor .suspended }
  | .suspendSession =>
      { system with
        controller := suspendSession system.controller
        handed := system.handed.filter fun index =>
          (system.controller.cur index).all fun cursor => cursor.state ≠ .busy }
  | .endSession relogin =>
      { system with controller := endSession config relogin system.controller, handed := [] }
  | .newCursor =>
      { system with
        controller := (newCursor config system.controller).2
        temporary := (newCursor config system.controller).1 :: system.temporary }

/-- The ids of the cursors that are counted. -/
def ids (system : System) : List (Option Nat) :=
  (List.range system.controller.cursorcount).map fun index => (system.controller.cur index).map Cursor.id

/-- The cursors that are counted have the ids below the count, which does not exceed the maximum, and no
temporary cursor has one of these ids. -/
structure Sound (system : System) : Prop where
  ids : system.ids = (List.range system.controller.cursorcount).map some
  bounded : system.controller.cursorcount ≤ config.maxcursorcount
  apart : ∀ id ∈ system.temporary, some id ∉ system.ids

/-- A cursor that is handed out is not one that somebody has; one that is asked for by its id is there just if
the id is below the count. -/
def Gives (system : System) : Call → Prop
  | .getCursor opens =>
      ∀ cursor, (getCursor config opens system.controller).1 = some cursor → cursor ∉ system.handed
  | .getCursorById id =>
      getCursorById id system.controller = if id < system.controller.cursorcount then some id else none
  | _ => True

end System

/-! ## The array -/

/-- A cursor has its index for its id, and those that are counted are there. -/
structure Controller.Filled (controller : Controller) : Prop where
  ids : ∀ index cursor, controller.cur index = some cursor → cursor.id = index
  there : ∀ index < controller.cursorcount, (controller.cur index).isSome

namespace Controller

variable {controller : Controller} {config : Config} {opens : Opens}

theorem cur_put (index other : Nat) (cursor : Option Cursor) :
    (controller.put index cursor).cur other = if other = index then cursor else controller.cur other :=
  rfl

theorem find_eq_some {wanted : Cursor → Bool} {index : Nat} (found : controller.find wanted = some index) :
    index < controller.cursorcount ∧ ∃ cursor, controller.cur index = some cursor ∧ wanted cursor := by
  have member := List.mem_of_find?_eq_some found
  have holds := List.find?_some found
  rw [Option.any_eq_true] at holds
  exact ⟨List.mem_range.mp member, holds⟩

namespace Filled

theorem setState (filled : controller.Filled) (index : Nat) (state : CursorState) :
    (controller.setState index state).Filled := by
  constructor
  · intro other cursor there
    rw [Controller.setState, cur_put] at there
    split at there
    case isTrue same =>
      obtain ⟨before, present, changed⟩ := Option.map_eq_some_iff.mp there
      rw [← changed, same]
      exact filled.ids index before present
    case isFalse => exact filled.ids other cursor there
  · intro other counted
    have present := filled.there other counted
    rw [Controller.setState, cur_put]
    split
    case isTrue same => rwa [Option.isSome_map, ← same]
    case isFalse => exact present

theorem each (filled : controller.Filled) {change : Cursor → Cursor}
    (keeps : ∀ cursor, (change cursor).id = cursor.id) : (controller.each change).Filled := by
  constructor
  · intro index cursor there
    unfold Controller.each at there
    dsimp only at there
    split at there
    case isTrue =>
      obtain ⟨before, present, changed⟩ := Option.map_eq_some_iff.mp there
      rw [← changed, keeps]
      exact filled.ids index before present
    case isFalse => exact filled.ids index cursor there
  · intro index counted
    have present := filled.there index counted
    change index < controller.cursorcount at counted
    unfold Controller.each
    dsimp only
    rwa [if_pos counted, Option.isSome_map]

/-- A new cursor at its index keeps the ids, wherever the count is. -/
theorem ids_put {index : Nat} (ids : ∀ other cursor, controller.cur other = some cursor → cursor.id = other) :
    ∀ other cursor, (controller.put index (some ⟨index, .available⟩)).cur other = some cursor →
      cursor.id = other := by
  intro other cursor there
  rw [cur_put] at there
  split at there
  case isTrue same =>
    cases there
    exact same.symm
  case isFalse => exact ids other cursor there

end Filled

/-- A cursor that is counted, and not available. -/
def Taken (controller : Controller) (index : Nat) : Prop :=
  index < controller.cursorcount ∧
    ∃ cursor, controller.cur index = some cursor ∧ cursor.state ≠ .available

theorem taken_setState_self (filled : controller.Filled) {index : Nat} {state : CursorState}
    (counted : index < controller.cursorcount) (notAvailable : state ≠ .available) :
    (controller.setState index state).Taken index := by
  obtain ⟨cursor, there⟩ := Option.isSome_iff_exists.mp (filled.there index counted)
  constructor
  · exact counted
  · refine ⟨{ cursor with state }, ?_, notAvailable⟩
    rw [setState, cur_put, if_pos rfl, there, Option.map_some]

/-- Whatever state another cursor is put into, a cursor stays as it is. -/
theorem Taken.setState_of_ne {index other : Nat} (taken : controller.Taken other) (state : CursorState)
    (apart : other ≠ index) : (controller.setState index state).Taken other := by
  obtain ⟨counted, cursor, there, notAvailable⟩ := taken
  refine ⟨counted, cursor, ?_, notAvailable⟩
  rw [Controller.setState, cur_put, if_neg apart, there]

theorem Taken.setState {index other : Nat} (taken : controller.Taken other) {state : CursorState}
    (notAvailable : state ≠ .available) : (controller.setState index state).Taken other := by
  by_cases same : other = index
  · obtain ⟨counted, cursor, there, _⟩ := taken
    refine ⟨counted, { cursor with state }, ?_, notAvailable⟩
    rw [Controller.setState, cur_put, if_pos same, ← same, there, Option.map_some]
  · exact taken.setState_of_ne state same

/-! ## Handing out -/

/-- The array has grown, by so many cursors at most, and what was counted is as it was. -/
structure Grown (before after : Controller) (most : Nat) : Prop where
  filled : after.Filled
  least : before.cursorcount ≤ after.cursorcount
  most : after.cursorcount ≤ before.cursorcount + most
  same : ∀ index < before.cursorcount, after.cur index = before.cur index

theorem grown_createCursors (filled : controller.Filled) (missing : Nat) :
    Grown controller (createCursors opens missing controller).2 missing ∧
      ((createCursors opens missing controller).1 = true →
        (createCursors opens missing controller).2.cursorcount = controller.cursorcount + missing) := by
  induction missing generalizing controller with
  | zero => exact ⟨⟨filled, Nat.le_refl _, Nat.le_refl _, fun _ _ => rfl⟩, fun _ => rfl⟩
  | succ missing ih =>
      have same : ∀ index < controller.cursorcount,
          (controller.put controller.cursorcount (some ⟨controller.cursorcount, .available⟩)).cur index =
            controller.cur index := by
        intro index counted
        rw [cur_put, if_neg (Nat.ne_of_lt counted)]
      have ids := @Filled.ids_put controller controller.cursorcount filled.ids
      rw [createCursors]
      split
      case isTrue =>
        have created : Filled
            { controller.put controller.cursorcount (some ⟨controller.cursorcount, .available⟩) with
              cursorcount := controller.cursorcount + 1 } := by
          constructor
          · exact ids
          · intro index counted
            dsimp only
            rw [cur_put]
            split
            case isTrue => rfl
            case isFalse other =>
              change index < controller.cursorcount + 1 at counted
              exact filled.there index (by omega)
        obtain ⟨grown, all⟩ := ih created
        constructor
        · constructor
          · exact grown.filled
          · exact Nat.le_trans (Nat.le_succ _) grown.least
          · have most := grown.most
            dsimp only at most
            omega
          · intro index counted
            rw [grown.same index (Nat.lt_succ_of_lt counted)]
            exact same index counted
        · intro succeeds
          rw [all succeeds]
          dsimp only
          omega
      case isFalse =>
        constructor
        · constructor
          · constructor
            · exact ids
            · intro index counted
              rw [same index counted]
              exact filled.there index counted
          · exact Nat.le_refl _
          · exact Nat.le_add_right _ _
          · exact same
        · intro succeeds
          cases succeeds

theorem Grown.taken {before after : Controller} {most index : Nat} (grown : Grown before after most)
    (taken : before.Taken index) : after.Taken index := by
  obtain ⟨counted, cursor, there, notAvailable⟩ := taken
  refine ⟨Nat.lt_of_lt_of_le counted grown.least, cursor, ?_, notAvailable⟩
  rw [grown.same index counted, there]

/-- One cursor at least, and none beyond the maximum. -/
theorem missing_bounds (config : PoolConfig) {cursorcount : Nat}
    (room : cursorcount < config.maxcursorcount) :
    0 < Pool.missing config cursorcount ∧
      cursorcount + Pool.missing config cursorcount ≤ config.maxcursorcount := by
  unfold Pool.missing
  omega

/-- What a cursor that is handed out was before, and what it is then. -/
structure Hands (config : Config) (before after : Controller) (given : Option Nat) : Prop where
  filled : after.Filled
  bounded : after.cursorcount ≤ config.maxcursorcount
  taken : ∀ index, before.Taken index → after.Taken index
  given : ∀ cursor, given = some cursor → ¬before.Taken cursor ∧ after.Taken cursor

theorem hands_getCursor (filled : controller.Filled)
    (bounded : controller.cursorcount ≤ config.maxcursorcount) (opens : Opens) :
    Hands config controller (getCursor config opens controller).2 (getCursor config opens controller).1 := by
  unfold getCursor
  split
  · next first found =>
      obtain ⟨counted, cursor, there, available⟩ := find_eq_some found
      constructor
      · exact filled.setState first .busy
      · exact bounded
      · intro index taken
        exact taken.setState (by decide)
      · intro given same
        cases same
        constructor
        · intro taken
          obtain ⟨_, other, present, notAvailable⟩ := taken
          rw [there] at present
          cases present
          exact notAvailable (of_decide_eq_true available)
        · exact taken_setState_self filled counted (by decide)
  · split
    case isTrue =>
      constructor
      · exact filled
      · exact bounded
      · intro index taken
        exact taken
      · intro given impossible
        cases impossible
    case isFalse notFull =>
      have room := missing_bounds config.toPoolConfig (Nat.lt_of_le_of_ne bounded notFull)
      have grown := @grown_createCursors controller opens filled
        (Pool.missing config.toPoolConfig controller.cursorcount)
      obtain ⟨grown, all⟩ := grown
      have most := grown.most
      split
      · next after created =>
          rw [created] at grown all most
          have more : controller.cursorcount < after.cursorcount := by
            have count := all rfl
            dsimp only at count
            omega
          constructor
          · exact grown.filled.setState _ _
          · change after.cursorcount ≤ _
            dsimp only at most
            omega
          · intro index taken
            exact (grown.taken taken).setState (by decide)
          · intro given same
            cases same
            constructor
            · intro taken
              exact absurd taken.1 (Nat.lt_irrefl _)
            · exact taken_setState_self grown.filled more (by decide)
      · next after created =>
          rw [created] at grown most
          constructor
          · exact grown.filled
          · dsimp only at most ⊢
            omega
          · intro index taken
            exact grown.taken taken
          · intro given impossible
            cases impossible

theorem getCursorById_eq (filled : controller.Filled) (id : Nat) :
    getCursorById id controller = if id < controller.cursorcount then some id else none := by
  have wanted : ∀ index < controller.cursorcount,
      ((controller.cur index).any fun cursor => decide (cursor.id = id)) = decide (index = id) := by
    intro index counted
    obtain ⟨cursor, there⟩ := Option.isSome_iff_exists.mp (filled.there index counted)
    rw [there, Option.any_some, filled.ids index cursor there]
  unfold getCursorById Controller.find
  split
  case isTrue counted =>
    rw [List.find?_range_eq_some]
    refine ⟨?_, List.mem_range.mpr counted, ?_⟩
    · rw [wanted id counted]
      exact decide_eq_true rfl
    · intro index before
      rw [wanted index (Nat.lt_trans before counted), decide_eq_false (Nat.ne_of_lt before)]
      rfl
  case isFalse beyond =>
    rw [List.find?_eq_none]
    intro index member isWanted
    have counted := List.mem_range.mp member
    rw [wanted index counted, decide_eq_true_iff] at isWanted
    exact beyond (isWanted ▸ counted)

/-! ## The ends of sessions -/

/-- A cursor that is handed out stays if it is not busy. -/
theorem taken_suspendSession {index : Nat} (taken : controller.Taken index)
    (notBusy : (controller.cur index).all fun cursor => decide (cursor.state ≠ .busy)) :
    (suspendSession controller).Taken index := by
  obtain ⟨counted, cursor, there, notAvailable⟩ := taken
  rw [there, Option.all_some, decide_eq_true_iff] at notBusy
  refine ⟨counted, cursor, ?_, notAvailable⟩
  unfold suspendSession Controller.each
  dsimp only
  rw [if_pos counted, there, Option.map_some, if_neg notBusy]

theorem filled_closeLast (filled : controller.Filled) (more : Nat) :
    (closeLast more controller).Filled ∧
      (closeLast more controller).cursorcount = controller.cursorcount - more := by
  induction more generalizing controller with
  | zero => exact ⟨filled, rfl⟩
  | succ more ih =>
      have closed : Filled
          { controller.put (controller.cursorcount - 1) none with
            cursorcount := controller.cursorcount - 1 } := by
        constructor
        · intro index cursor there
          change (if index = controller.cursorcount - 1 then none else controller.cur index) = _ at there
          split at there
          case isTrue => cases there
          case isFalse => exact filled.ids index cursor there
        · intro index counted
          change index < controller.cursorcount - 1 at counted
          change ((if index = controller.cursorcount - 1 then none else controller.cur index)).isSome
          rw [if_neg (by omega)]
          exact filled.there index (by omega)
      obtain ⟨isFilled, count⟩ := ih closed
      constructor
      · exact isFilled
      · rw [closeLast, count]
        dsimp only
        omega

/-- Cursors that are there already stay, and when all could be opened, all are there. -/
theorem openCursors_spec (opens : Opens) (indexes : List Nat)
    (ids : ∀ index cursor, controller.cur index = some cursor → cursor.id = index) :
    (∀ index cursor, (openCursors opens indexes controller).2.cur index = some cursor → cursor.id = index) ∧
      (openCursors opens indexes controller).2.cursorcount = controller.cursorcount ∧
      (∀ index, (controller.cur index).isSome →
        ((openCursors opens indexes controller).2.cur index).isSome) ∧
      ((openCursors opens indexes controller).1 = true → ∀ index ∈ indexes,
        ((openCursors opens indexes controller).2.cur index).isSome) := by
  induction indexes generalizing controller with
  | nil =>
      refine ⟨ids, rfl, fun _ there => there, ?_⟩
      intro _ index member
      cases member
  | cons first indexes ih =>
      rw [openCursors]
      generalize made : (if controller.cur first = none then
        controller.put first (some ⟨first, .available⟩) else controller) = created
      have idsCreated : ∀ index cursor, created.cur index = some cursor → cursor.id = index := by
        rw [← made]
        split
        · exact Filled.ids_put ids
        · exact ids
      have count : created.cursorcount = controller.cursorcount := by
        rw [← made]
        split <;> rfl
      have stays : ∀ index, (controller.cur index).isSome → (created.cur index).isSome := by
        intro index there
        rw [← made]
        split
        · rw [cur_put]
          split
          · rfl
          · exact there
        · exact there
      have there : (created.cur first).isSome := by
        rw [← made]
        split
        · rw [cur_put, if_pos rfl]
          rfl
        · next present => exact Option.isSome_iff_ne_none.mpr present
      split
      · obtain ⟨idsAfter, countAfter, staysAfter, allAfter⟩ := ih idsCreated
        refine ⟨idsAfter, countAfter.trans count, fun index present => staysAfter index (stays index present),
          ?_⟩
        intro succeeds index member
        cases member with
        | head => exact staysAfter first there
        | tail _ member => exact allAfter succeeds index member
      · refine ⟨idsCreated, count, stays, ?_⟩
        intro succeeds
        cases succeeds

theorem Filled.closeCursors (filled : controller.Filled) : (closeCursors controller).Filled := by
  constructor
  · exact filled.ids
  · intro index impossible
    cases impossible

theorem filled_initCursors (filled : controller.Filled) (opens : Opens) (count : Nat) :
    (initCursors opens count controller).2.cursorcount = count ∧
      (closeCursors (initCursors opens count controller).2).Filled ∧
      ((initCursors opens count controller).1 = true → (initCursors opens count controller).2.Filled) := by
  obtain ⟨ids, counted, _, all⟩ :=
    @openCursors_spec { controller with cursorcount := count } opens (List.range count) filled.ids
  refine ⟨counted, ⟨ids, ?_⟩, ?_⟩
  · intro index impossible
    cases impossible
  · intro succeeds
    constructor
    · exact ids
    · intro index inside
      rw [initCursors, counted] at inside
      exact all succeeds index (List.mem_range.mpr inside)

theorem filled_logInAgain (filled : controller.Filled) {oldcursorcount : Nat} (attempts : List Attempt)
    (few : controller.cursorcount ≤ oldcursorcount) :
    (logInAgain oldcursorcount attempts controller).Filled ∧
      (logInAgain oldcursorcount attempts controller).cursorcount ≤ oldcursorcount := by
  induction attempts generalizing controller with
  | nil => exact ⟨filled, few⟩
  | cons attempt attempts ih =>
      obtain ⟨count, closed, opened⟩ := filled_initCursors filled attempt.opens oldcursorcount
      rw [logInAgain]
      split
      · split
        · next after made =>
            rw [made] at count opened
            exact ⟨opened rfl, Nat.le_of_eq count⟩
        · next after made =>
            rw [made] at closed
            exact ih closed (Nat.zero_le _)
      · exact ih filled few

theorem filled_endSession (filled : controller.Filled) (config : Config)
    (bounded : controller.cursorcount ≤ config.maxcursorcount) (relogin : Option (List Attempt)) :
    (endSession config relogin controller).Filled ∧
      (endSession config relogin controller).cursorcount ≤ config.maxcursorcount := by
  have released : Filled (controller.each fun cursor => { cursor with state := .available }) :=
    filled.each fun _ => rfl
  obtain ⟨shrunk, count⟩ := filled_closeLast released
    ((controller.each fun cursor => { cursor with state := .available }).cursorcount -
      config.mincursorcount)
  have few := Nat.le_trans (Nat.le_trans (Nat.le_of_eq count) (Nat.sub_le _ _)) bounded
  cases relogin with
  | none => exact ⟨shrunk, few⟩
  | some attempts =>
      obtain ⟨isFilled, least⟩ := filled_logInAgain shrunk.closeCursors attempts (Nat.zero_le _)
      exact ⟨isFilled, Nat.le_trans least few⟩

theorem openCursors_of_opens (indexes : List Nat) (controller : Controller) :
    (openCursors (fun _ => true) indexes controller).1 = true := by
  induction indexes generalizing controller with
  | nil => rfl
  | cons first indexes ih => exact ih _

theorem filled_initial (config : Config) :
    (initial config).Filled ∧ (initial config).cursorcount = config.mincursorcount := by
  have empty : Filled ⟨fun _ => none, 0, 0⟩ := by
    constructor
    · intro index cursor impossible
      cases impossible
    · intro index impossible
      cases impossible
  obtain ⟨count, _, opened⟩ := filled_initCursors empty (fun _ => true) config.mincursorcount
  exact ⟨opened (openCursors_of_opens _ _), count⟩

end Controller

/-! ## Runs -/

namespace System

variable {config : Config} {system : System}

/-- What holds of every state that is reached. -/
structure Invariant (config : Config) (system : System) : Prop where
  filled : system.controller.Filled
  bounded : system.controller.cursorcount ≤ config.maxcursorcount
  taken : ∀ cursor ∈ system.handed, system.controller.Taken cursor
  temporary : ∀ id ∈ system.temporary, config.maxcursorcount ≤ id

theorem invariant_start (config : Config) : Invariant config (start config) := by
  obtain ⟨filled, count⟩ := Controller.filled_initial config
  constructor
  · exact filled
  · exact Nat.le_trans (Nat.le_of_eq count) config.fits
  · intro cursor impossible
    cases impossible
  · intro id impossible
    cases impossible

/-- The id of a temporary cursor is at or above the maximum. -/
theorem le_newCursor (config : Config) (controller : Controller) :
    config.maxcursorcount ≤ (newCursor config controller).1 := by
  unfold newCursor
  dsimp only
  split <;> omega

theorem Invariant.step (invariant : Invariant config system) (call : Call) :
    Invariant config (system.step config call) := by
  have bounded := invariant.bounded
  cases call with
  | getCursor opens =>
      have hands := Controller.hands_getCursor invariant.filled bounded opens
      constructor
      · exact hands.filled
      · exact hands.bounded
      · intro cursor member
        cases List.mem_append.mp member with
        | inl now => exact (hands.given cursor (Option.mem_toList.mp now)).2
        | inr before => exact hands.taken cursor (invariant.taken cursor before)
      · exact invariant.temporary
  | getCursorById id => exact invariant
  | release released =>
      constructor
      · exact invariant.filled.setState released .available
      · exact bounded
      · intro cursor member
        obtain ⟨before, other⟩ := List.mem_filter.mp member
        exact (invariant.taken cursor before).setState_of_ne .available (of_decide_eq_true other)
      · exact invariant.temporary
  | use used =>
      constructor
      · exact invariant.filled.setState used .busy
      · exact bounded
      · intro cursor member
        exact (invariant.taken cursor member).setState (by decide)
      · exact invariant.temporary
  | suspendResultSet suspended =>
      constructor
      · exact invariant.filled.setState suspended .suspended
      · exact bounded
      · intro cursor member
        exact (invariant.taken cursor member).setState (by decide)
      · exact invariant.temporary
  | suspendSession =>
      constructor
      · apply invariant.filled.each
        intro cursor
        split <;> rfl
      · exact bounded
      · intro cursor member
        obtain ⟨before, notBusy⟩ := List.mem_filter.mp member
        exact Controller.taken_suspendSession (invariant.taken cursor before) notBusy
      · exact invariant.temporary
  | endSession relogin =>
      obtain ⟨filled, few⟩ := Controller.filled_endSession invariant.filled config bounded relogin
      constructor
      · exact filled
      · exact few
      · intro cursor impossible
        cases impossible
      · exact invariant.temporary
  | newCursor =>
      constructor
      · exact ⟨invariant.filled.ids, invariant.filled.there⟩
      · exact bounded
      · exact invariant.taken
      · intro id member
        cases member with
        | head => exact le_newCursor config system.controller
        | tail _ before => exact invariant.temporary id before

theorem Invariant.gives (invariant : Invariant config system) (call : Call) :
    system.Gives config call := by
  cases call with
  | getCursor opens =>
      intro cursor given handed
      have hands := Controller.hands_getCursor invariant.filled invariant.bounded opens
      exact (hands.given cursor given).1 (invariant.taken cursor handed)
  | getCursorById id => exact Controller.getCursorById_eq invariant.filled id
  | release cursor => trivial
  | use cursor => trivial
  | suspendResultSet cursor => trivial
  | suspendSession => trivial
  | endSession relogin => trivial
  | newCursor => trivial

theorem Invariant.sound (invariant : Invariant config system) : system.Sound config := by
  have ids : system.ids = (List.range system.controller.cursorcount).map some := by
    apply List.map_congr_left
    intro index member
    obtain ⟨cursor, there⟩ :=
      Option.isSome_iff_exists.mp (invariant.filled.there index (List.mem_range.mp member))
    rw [there, Option.map_some, invariant.filled.ids index cursor there]
  constructor
  · exact ids
  · exact invariant.bounded
  · intro id temporary pooled
    rw [ids] at pooled
    obtain ⟨index, member, same⟩ := List.mem_map.mp pooled
    have counted := List.mem_range.mp member
    have least := invariant.temporary id temporary
    have bounded := invariant.bounded
    cases same
    omega

/-- Whatever is asked of the controller, its cursors are sound, and each call gives what it should. -/
theorem sound_and_gives (config : Config) (calls : List Call) :
    (calls.foldl (step config) (start config)).Sound config ∧
      Along (step config) (Gives config) (start config) calls := by
  have preserves : ∀ system call, Invariant config system → Invariant config (system.step config call) :=
    fun _ call invariant => invariant.step call
  constructor
  · exact (foldl_invariant preserves (invariant_start config) calls).sound
  · exact Along.of_invariant preserves (fun _ call invariant => invariant.gives call)
      (invariant_start config) calls

end System

end SqlRelay.Cursors
