import SqlRelay.Foundation.Run

/-!
# The ways out of a session

A connection daemon serves one client after the other.  The session loop of the protocol module takes
one command in each pass, and leaves in about ten places; a flag that most of these leave as it is says
whether the session is to be ended then.  A suspended session waits for its client outside of the loop.
-/

namespace SqlRelay.Session

open SqlRelay.Foundation

/-! ## Commands -/

def SQLRCLIENT_PROTOCOL_VERSION : UInt16 := 21331
def SQLRCLIENT_PROTOCOL_VERSION_MIN : UInt16 := 1
def SQLRCLIENT_PROTOCOL_VERSION_MAX : UInt16 := 3

def ABORT_RESULT_SET : UInt16 := 2
def SUSPEND_RESULT_SET : UInt16 := 3
def SUSPEND_SESSION : UInt16 := 5
def END_SESSION : UInt16 := 6
def PING : UInt16 := 7
def IDENTIFY : UInt16 := 8
def AUTH : UInt16 := 11
def NO_COMMAND : UInt16 := 26
def MAX_COMMAND : UInt16 := 57

/-- The commands, other than those above, that are handled without a cursor. -/
def connectionCommands : List UInt16 :=
  [9, 10, 12, 15, 16, 17, 21, 22, 23, 24, 27, 28, 37, 40, 41, 42, 43, 44, 45, 47, 48, 49, 51, 52, 53, 54,
    55, 56]

/-- What a pass of the loop comes upon: what the socket gives, and what the handler of the command makes
of it. -/
structure Pass where
  instanceDisabled : Bool
  /-- Nothing if the client is gone, or sends nothing or only half a command. -/
  command : Option UInt16
  /-- What comes behind the command that tells the version of the protocol. -/
  version : Option UInt16
  authCommand : Bool
  getCursor : Bool
  /-- What the handler gives back. -/
  loop : Bool
  /-- Whether the handler runs a query. -/
  runs : Bool
  deriving DecidableEq

/-- What the daemon and the protocol module keep from one client to the next. -/
structure Daemon where
  inclientsession : Bool
  suspendedsession : Bool
  resumedsession : Bool
  authenticated : Bool
  protocolversion : UInt16
  /-- Whether a query has run since the last `endSession`. -/
  unended : Bool
  deriving DecidableEq

namespace Daemon

variable (daemon : Daemon) (pass : Pass)

/-- A daemon that has just been started. -/
def started : Daemon := ⟨false, false, false, false, 0, false⟩

def ran (runs : Bool) : Daemon := { daemon with unended := daemon.unended || runs }

def initSession : Daemon := { daemon with suspendedsession := false, resumedsession := false }

def endSession : Daemon := { daemon with suspendedsession := false, unended := false }

/-- Tells the version of the protocol. -/
def protocolVersion : Option Bool × Daemon :=
  match pass.version with
  | none => (some false, daemon)
  | some version =>
      if version < SQLRCLIENT_PROTOCOL_VERSION_MIN ∨ SQLRCLIENT_PROTOCOL_VERSION_MAX < version then
        (some false, { daemon with protocolversion := version })
      else (none, { daemon with protocolversion := version })

/-- A client that may stay gets its session start queries. -/
def auth : Option Bool × Daemon :=
  if daemon.protocolversion < SQLRCLIENT_PROTOCOL_VERSION_MIN then (some false, daemon)
  else if pass.authCommand then (none, { daemon.ran pass.runs with authenticated := true })
  else (some false, daemon)

/-- A command that needs a cursor.  There is nothing left to do without one. -/
def cursorCommand (command : UInt16) : Option Bool × Daemon :=
  if !pass.getCursor then (none, daemon)
  else if command = NO_COMMAND then (some true, daemon)
  else if command = ABORT_RESULT_SET ∨ command = SUSPEND_RESULT_SET then (none, daemon)
  else if pass.loop then (none, daemon.ran pass.runs)
  else (some true, daemon.ran pass.runs)

/-- What a client may send before it has been authenticated. -/
def exempt (command : UInt16) : Prop :=
  command = AUTH ∨ command = PING ∨ command = IDENTIFY ∨ command = END_SESSION

instance (command : UInt16) : Decidable (exempt command) := by
  unfold exempt
  infer_instance

/-- One pass of the loop: it goes on, or it is left with or without the session being ended. -/
def takeCommand : Option Bool × Daemon :=
  if pass.instanceDisabled then (some true, daemon)
  else
    match pass.command with
    | none => (some true, daemon)
    | some command =>
        if command = SQLRCLIENT_PROTOCOL_VERSION then daemon.protocolVersion pass
        else if MAX_COMMAND < command then (some true, daemon)
        else if daemon.authenticated = false ∧ ¬ exempt command then (some false, daemon)
        else if command = AUTH then daemon.auth pass
        else if command = SUSPEND_SESSION then (some false, { daemon with suspendedsession := true })
        else if command = END_SESSION then (some true, daemon)
        else if command = PING then (none, daemon.ran pass.runs)
        else if command = IDENTIFY then (none, daemon)
        else if command ∈ connectionCommands then (none, daemon.ran pass.runs)
        else daemon.cursorCommand pass command

/-- The protocol module is done with the client.  Unless the session is suspended, the daemon goes back to
where the next one begins. -/
def leave (endsession : Bool) : Daemon :=
  let left := if endsession then daemon.endSession else daemon
  let outside := { left with inclientsession := false }
  if outside.suspendedsession then outside else outside.initSession

/-- A client has come, and is told apart from one that comes back.  A security context that is not accepted
is a way out as well. -/
def clientSession (acceptSecurityContext : Bool) : Daemon :=
  let greeted :=
    { daemon with
      inclientsession := true
      resumedsession := daemon.suspendedsession
      suspendedsession := false
      authenticated := daemon.suspendedsession && daemon.authenticated }
  if acceptSecurityContext then greeted else greeted.leave false

/-- What happens to the daemon. -/
inductive Event where
  /-- A client comes to the daemon that waits for one. -/
  | client (acceptSecurityContext : Bool)
  /-- `waitForClient` gives up, or the listener wants the daemon to log in again. -/
  | nobody
  /-- The loop makes another pass. -/
  | pass (pass : Pass)
  deriving DecidableEq

/-- `listen`, one event at a time.  A suspended session that nobody comes back to is rolled back, and then
the next session begins. -/
def step (daemon : Daemon) : Event → Daemon
  | .client acceptSecurityContext =>
      if daemon.inclientsession then daemon else daemon.clientSession acceptSecurityContext
  | .nobody => if daemon.inclientsession then daemon else daemon.initSession
  | .pass pass =>
      if daemon.inclientsession then
        match daemon.takeCommand pass with
        | (none, after) => after
        | (some endsession, after) => after.leave endsession
      else daemon

/-! ## What is left behind -/

/-- Where the daemon may serve the next client, no query has run since the last `endSession`. -/
def Clean : Prop :=
  daemon.inclientsession = false → daemon.suspendedsession = false → daemon.unended = false

instance : Decidable daemon.Clean := by
  unfold Clean
  infer_instance

/-- A version that the server supports comes with the command. -/
def Supported : Prop :=
  ∃ version, pass.version = some version ∧ SQLRCLIENT_PROTOCOL_VERSION_MIN ≤ version ∧
    version ≤ SQLRCLIENT_PROTOCOL_VERSION_MAX

/-- The server turns the client away because of the version, or because it is not authenticated. -/
def TurnsAway : Prop :=
  pass.instanceDisabled = false ∧ ∃ command, pass.command = some command ∧
    (command = SQLRCLIENT_PROTOCOL_VERSION ∧ ¬ Supported pass ∨
      command ≤ MAX_COMMAND ∧ daemon.authenticated = false ∧ ¬ exempt command ∨
      command = AUTH ∧
        (daemon.protocolversion < SQLRCLIENT_PROTOCOL_VERSION_MIN ∨ pass.authCommand = false))

/-- A client is turned away, and a suspended session given up, only while nothing has been left. -/
def Keeps (daemon : Daemon) : Event → Prop
  | .client acceptSecurityContext => daemon.inclientsession = false → daemon.suspendedsession = true →
      acceptSecurityContext = false → daemon.unended = false
  | .nobody => daemon.inclientsession = false → daemon.suspendedsession = true → daemon.unended = false
  | .pass pass => daemon.inclientsession = true → daemon.TurnsAway pass → daemon.unended = false

section Passes

variable {daemon pass} {after : Daemon}

/-- The ways a pass can end. -/
inductive Taken (daemon : Daemon) (pass : Pass) : Option Bool × Daemon → Prop where
  | goesOn {after : Daemon} (stays : ¬ daemon.TurnsAway pass)
      (serves : after.inclientsession = daemon.inclientsession)
      (same : after.suspendedsession = daemon.suspendedsession) : Taken daemon pass (none, after)
  | ended {after : Daemon} (stays : ¬ daemon.TurnsAway pass) : Taken daemon pass (some true, after)
  | suspended (stays : ¬ daemon.TurnsAway pass) :
      Taken daemon pass (some false, { daemon with suspendedsession := true })
  | turnedAway {after : Daemon} (turnsAway : daemon.TurnsAway pass)
      (same : after.suspendedsession = daemon.suspendedsession)
      (leaves : after.unended = daemon.unended) : Taken daemon pass (some false, after)

/-- With a command in hand, the client is turned away for one of three reasons. -/
theorem turnsAway_iff {command : UInt16} (enabled : pass.instanceDisabled = false)
    (came : pass.command = some command) : daemon.TurnsAway pass ↔
      (command = SQLRCLIENT_PROTOCOL_VERSION ∧ ¬ Supported pass ∨
        command ≤ MAX_COMMAND ∧ daemon.authenticated = false ∧ ¬ exempt command ∨
        command = AUTH ∧
          (daemon.protocolversion < SQLRCLIENT_PROTOCOL_VERSION_MIN ∨ pass.authCommand = false)) := by
  unfold TurnsAway
  simp only [enabled, came, true_and, Option.some.injEq, exists_eq_left']

theorem taken_protocolVersion (turnsAway : daemon.TurnsAway pass ↔ ¬ Supported pass) :
    Taken daemon pass (daemon.protocolVersion pass) := by
  unfold protocolVersion
  cases told : pass.version with
  | none =>
      refine Taken.turnedAway ?_ rfl rfl
      rw [turnsAway]
      simp [Supported, told]
  | some version =>
      dsimp only
      by_cases outside : version < SQLRCLIENT_PROTOCOL_VERSION_MIN ∨
          SQLRCLIENT_PROTOCOL_VERSION_MAX < version
      · rw [if_pos outside]
        refine Taken.turnedAway ?_ rfl rfl
        rw [turnsAway]
        intro supported
        obtain ⟨other, same, least, most⟩ := supported
        rw [told, Option.some.injEq] at same
        subst same
        cases outside with
        | inl below => exact absurd least (UInt16.not_le.mpr below)
        | inr above => exact absurd most (UInt16.not_le.mpr above)
      · rw [if_neg outside]
        refine Taken.goesOn ?_ rfl rfl
        rw [turnsAway, not_not]
        rw [not_or, UInt16.not_lt, UInt16.not_lt] at outside
        exact ⟨version, told, outside.1, outside.2⟩

theorem taken_auth (turnsAway : daemon.TurnsAway pass ↔
      daemon.protocolversion < SQLRCLIENT_PROTOCOL_VERSION_MIN ∨ pass.authCommand = false) :
    Taken daemon pass (daemon.auth pass) := by
  unfold auth
  by_cases old : daemon.protocolversion < SQLRCLIENT_PROTOCOL_VERSION_MIN
  · rw [if_pos old]
    exact Taken.turnedAway (turnsAway.mpr (.inl old)) rfl rfl
  · rw [if_neg old]
    cases accepted : pass.authCommand with
    | true =>
        rw [if_pos rfl]
        refine Taken.goesOn ?_ rfl rfl
        rw [turnsAway]
        simp [old, accepted]
    | false =>
        rw [if_neg Bool.false_ne_true]
        exact Taken.turnedAway (turnsAway.mpr (.inr accepted)) rfl rfl

theorem taken_cursorCommand (stays : ¬ daemon.TurnsAway pass) (command : UInt16) :
    Taken daemon pass (daemon.cursorCommand pass command) := by
  unfold cursorCommand
  split
  · exact Taken.goesOn stays rfl rfl
  split
  · exact Taken.ended stays
  split
  · exact Taken.goesOn stays rfl rfl
  split
  · exact Taken.goesOn stays rfl rfl
  · exact Taken.ended stays

/-- What is left of the commands when the client may stay. -/
theorem taken_others (stays : ¬ daemon.TurnsAway pass) (command : UInt16) :
    Taken daemon pass
      (if command = SUSPEND_SESSION then (some false, { daemon with suspendedsession := true })
      else if command = END_SESSION then (some true, daemon)
      else if command = PING then (none, daemon.ran pass.runs)
      else if command = IDENTIFY then (none, daemon)
      else if command ∈ connectionCommands then (none, daemon.ran pass.runs)
      else daemon.cursorCommand pass command) := by
  split
  · exact Taken.suspended stays
  split
  · exact Taken.ended stays
  split
  · exact Taken.goesOn stays rfl rfl
  split
  · exact Taken.goesOn stays rfl rfl
  split
  · exact Taken.goesOn stays rfl rfl
  · exact taken_cursorCommand stays command

theorem taken_takeCommand (daemon : Daemon) (pass : Pass) :
    Taken daemon pass (daemon.takeCommand pass) := by
  unfold takeCommand
  cases enabled : pass.instanceDisabled with
  | true =>
      apply Taken.ended
      intro turnsAway
      rw [turnsAway.1] at enabled
      cases enabled
  | false =>
      rw [if_neg Bool.false_ne_true]
      cases came : pass.command with
      | none =>
          apply Taken.ended
          intro turnsAway
          obtain ⟨_, command, other, _⟩ := turnsAway
          rw [came] at other
          cases other
      | some command =>
          have reasons := @turnsAway_iff daemon pass command enabled came
          dsimp only
          split
          case isTrue isVersion =>
            subst isVersion
            apply taken_protocolVersion
            rw [reasons]
            simp [MAX_COMMAND, SQLRCLIENT_PROTOCOL_VERSION, AUTH]
          case isFalse notVersion =>
            simp only [notVersion, false_and, false_or] at reasons
            split
            case isTrue beyond =>
              apply Taken.ended
              have notAuth : command ≠ AUTH := by
                intro isAuth
                rw [isAuth] at beyond
                exact absurd beyond (by decide)
              simp [reasons, notAuth, UInt16.not_le.mpr beyond]
            case isFalse inside =>
              simp only [UInt16.not_lt.mp inside, true_and] at reasons
              split
              case isTrue unknown => exact Taken.turnedAway (reasons.mpr (.inl unknown)) rfl rfl
              case isFalse known =>
                simp only [known, false_or] at reasons
                split
                case isTrue isAuth =>
                  apply taken_auth
                  rw [reasons]
                  simp only [isAuth, true_and]
                case isFalse notAuth =>
                  have stays : ¬ daemon.TurnsAway pass := by simp [reasons, notAuth]
                  exact taken_others stays command

/-- While a client is served, no session is suspended; otherwise the daemon is clean. -/
structure Sound (daemon : Daemon) : Prop where
  clean : daemon.Clean
  serving : daemon.inclientsession = true → daemon.suspendedsession = false

theorem leave_ended_clean (daemon : Daemon) : (daemon.leave true).Clean := by
  intro _ _
  rfl

theorem leave_suspended_clean (suspended : daemon.suspendedsession = true) :
    (daemon.leave false).Clean := by
  intro _ notSuspended
  simp [leave, suspended] at notSuspended

theorem leave_clean_iff (notSuspended : daemon.suspendedsession = false) :
    (daemon.leave false).Clean ↔ daemon.unended = false := by
  simp [leave, notSuspended, Clean, initSession]

theorem leave_outside (daemon : Daemon) (endsession : Bool) :
    (daemon.leave endsession).inclientsession = false := by
  cases endsession with
  | true => rfl
  | false => cases suspended : daemon.suspendedsession <;> simp [leave, suspended, initSession]

theorem sound_of_serving (inside : daemon.inclientsession = true)
    (notSuspended : daemon.suspendedsession = false) : daemon.Sound where
  clean := by
    intro outside _
    rw [inside] at outside
    cases outside
  serving _ := notSuspended

/-! ### One event -/

theorem client_clean_iff (sound : daemon.Sound) (acceptSecurityContext : Bool) :
    (daemon.step (.client acceptSecurityContext)).Clean ↔ daemon.Keeps (.client acceptSecurityContext) := by
  cases inside : daemon.inclientsession with
  | true => simp [step, Keeps, Clean, inside]
  | false =>
      cases accepted : acceptSecurityContext with
      | true => simp [step, Keeps, Clean, clientSession, inside]
      | false =>
          have clean := sound.clean inside
          simp only [step, Keeps, clientSession, inside, Bool.false_eq_true, if_false]
          rw [leave_clean_iff rfl]
          cases suspended : daemon.suspendedsession with
          | true => simp
          | false => simp [clean suspended]

theorem nobody_clean_iff (sound : daemon.Sound) :
    (daemon.step .nobody).Clean ↔ daemon.Keeps .nobody := by
  cases inside : daemon.inclientsession with
  | true => simp [step, Keeps, Clean, inside]
  | false =>
      have clean := sound.clean inside
      cases suspended : daemon.suspendedsession with
      | true => simp [step, Keeps, Clean, initSession, inside, suspended]
      | false => simp [step, Keeps, Clean, initSession, inside, suspended, clean suspended]

theorem pass_clean_iff (sound : daemon.Sound) (pass : Pass) :
    (daemon.step (.pass pass)).Clean ↔ daemon.Keeps (.pass pass) := by
  cases inside : daemon.inclientsession with
  | false =>
      have clean := sound.clean
      simp only [step, Keeps, inside, Bool.false_eq_true, if_false, false_implies, iff_true]
      exact clean
  | true =>
      have notSuspended := sound.serving inside
      simp only [step, Keeps, inside, if_true, true_implies]
      have taken := taken_takeCommand daemon pass
      generalize daemon.takeCommand pass = outcome at taken
      cases taken with
      | goesOn stays serves same =>
          rw [inside] at serves
          exact iff_of_true (sound_of_serving serves (same.trans notSuspended)).clean
            fun turnsAway => absurd turnsAway stays
      | ended stays =>
          exact iff_of_true (leave_ended_clean _) fun turnsAway => absurd turnsAway stays
      | suspended stays =>
          exact iff_of_true (leave_suspended_clean rfl) fun turnsAway => absurd turnsAway stays
      | turnedAway turnsAway same leaves =>
          rw [leave_clean_iff (same.trans notSuspended), leaves]
          simp only [turnsAway, true_implies]

/-- What an event leaves is clean exactly if the event keeps it so. -/
theorem clean_iff (sound : daemon.Sound) (event : Event) :
    (daemon.step event).Clean ↔ daemon.Keeps event := by
  cases event with
  | client acceptSecurityContext => exact client_clean_iff sound acceptSecurityContext
  | nobody => exact nobody_clean_iff sound
  | pass pass => exact pass_clean_iff sound pass

theorem step_serving (sound : daemon.Sound) (event : Event) :
    (daemon.step event).inclientsession = true → (daemon.step event).suspendedsession = false := by
  cases inside : daemon.inclientsession with
  | false =>
      cases event with
      | client acceptSecurityContext =>
          simp only [step, inside, Bool.false_eq_true, if_false, clientSession]
          cases acceptSecurityContext with
          | true => simp
          | false => simp [leave_outside]
      | nobody => simp [step, inside, initSession]
      | pass pass => simp [step, inside]
  | true =>
      have notSuspended := sound.serving inside
      cases event with
      | client acceptSecurityContext => simp [step, inside, notSuspended]
      | nobody => simp [step, inside, notSuspended]
      | pass pass =>
          simp only [step, inside, if_true]
          have taken := taken_takeCommand daemon pass
          generalize daemon.takeCommand pass = outcome at taken
          cases taken with
          | goesOn stays serves same =>
              intro _
              exact same.trans notSuspended
          | ended stays => simp [leave_outside]
          | suspended stays => simp [leave_outside]
          | turnedAway turnsAway same leaves => simp [leave_outside]

theorem step_sound (sound : daemon.Sound) {event : Event} (keeps : daemon.Keeps event) :
    (daemon.step event).Sound where
  clean := (clean_iff sound event).mpr keeps
  serving := step_serving sound event

end Passes

/-! ## Runs -/

/-- Whenever the daemon may serve the next client in a run, no query has run since the last `endSession`. -/
def CleansUp (events : List Event) : Prop :=
  Along step (fun daemon event => (daemon.step event).Clean) started events

theorem started_sound : started.Sound where
  clean := fun _ _ => rfl
  serving := by
    intro inside
    cases inside

/-- A run of the daemon cleans up exactly if no client is turned away, and no suspended session is given up
or fails to resume, after a query has run in the session. -/
theorem cleansUp_iff (events : List Event) :
    CleansUp events ↔ Along step Keeps started events :=
  Along.iff_guard (fun _ _ sound keeps => step_sound sound keeps)
    (fun _ event sound => clean_iff sound event) started_sound

/-- A command, with nothing else that matters. -/
def sends (command : UInt16) : Pass := ⟨false, some command, some 2, true, true, true, true⟩

/-- A client that has run a query tries another password. -/
def secondAuth : List Event :=
  [.client true, .pass (sends SQLRCLIENT_PROTOCOL_VERSION), .pass (sends AUTH), .pass (sends 0),
    .pass { sends AUTH with authCommand := false }]

theorem not_cleansUp_secondAuth : ¬ CleansUp secondAuth := by
  intro cleansUp
  have last := cleansUp.2.2.2.2.1
  exact absurd last (by decide)

end Daemon

end SqlRelay.Session
