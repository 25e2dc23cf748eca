import SqlRelay.Tls.Client

/-!
# The start of a PostgreSQL session

A client asks for TLS, or sends its startup message.  It can ask once, and it is asked for its password
when its startup message has been taken.
-/

namespace SqlRelay.Postgresql

open SqlRelay.Foundation SqlRelay.Tls

def sslRequestCode : Nat := 80877103
def protocolVersion3 : Nat := 196608
def maxStartupPacketSize : Nat := 10000
def messagePassword : Byte := chr 'p'
def messageTerminate : Byte := chr 'X'

/-- The parameters of an instance, and whether it uses TLS.  `parseOptions` looks for the end of its
string past the NUL, and `stops` says whether it finds one before the process is killed. -/
structure Listener where
  usetls : Bool
  authmethod : List Byte
  maxquerysize : Nat
  stops : List Byte → Bool

structure Starting where
  wire : Wire
  user : Option (List Byte)
  password : List Byte

/-- The size counts itself, and no packet is larger than the limit. -/
def recvBody (env : Environment) (limit : Nat) (wire : Wire) : Option (Buffer × Wire) := do
  let (header, wire) ← wire.read 4
  let size := littleEndian header.reverse
  if size < 4 ∨ limit < size - 4 then none
  else
    let (bytes, wire) ← wire.read (size - 4)
    some (wire.packet env bytes)

/-- A packet with its type. -/
def recvPacket (listener : Listener) (env : Environment) (wire : Wire) :
    Option (Byte × Buffer × Wire) := do
  let (reqtype, wire) ← wire.read 1
  let (packet, wire) ← recvBody env listener.maxquerysize wire
  some (reqtype.headD 0, packet, wire)

/-- The first four bytes of a startup packet, which may be shorter. -/
def protocolversion (packet : Buffer) : Nat :=
  littleEndian (Reader.read packet ⟨0, true⟩ 4).1.reverse

/-- The loop of `recvStartupMessage`, up to the options.  A client that asks for TLS a second time is
refused, so that the loop goes round twice at most. -/
def startupLoop (listener : Listener) (env : Environment) :
    Nat → Bool → Bool → List (List Byte) → Wire → List Event × Option (Buffer × Wire)
  | 0, _, _, _, _ => ([], none)
  | rounds + 1, first, usingtls, sessions, wire =>
      match recvBody env maxStartupPacketSize wire with
      | none => ([], none)
      | some (packet, wire) =>
          if protocolversion packet = sslRequestCode then
            if !first then ([], none)
            else
              match wire.sendPacket env with
              | none => ([], none)
              | some wire =>
                  if listener.usetls then
                    match sessions with
                    | [] => ([], none)
                    | bytes :: sessions =>
                        let (events, result) := startupLoop listener env rounds false true sessions
                          { wire with bytes := bytes }
                        (.tls :: events, result)
                  else startupLoop listener env rounds false usingtls sessions wire
          else if protocolversion packet = protocolVersion3 then
            if listener.usetls && !usingtls then ([], none) else ([], some (packet, wire))
          else ([], none)

/-- The options: pairs of a name and a value.  A value that is not kept stays in front of the next. -/
def readOptions (listener : Listener) :
    Nat → Option (List Byte) → List Byte → List Byte → Option (Option (List Byte))
  | 0, user, _, _ => some user
  | fuel + 1, user, value, text =>
      if text = [] then some user
      else
        let name := CString.contents text
        let text := text.drop (name.length + 1)
        let value := value ++ CString.contents text
        let text := text.drop ((CString.contents text).length + 1)
        if name = ascii "user" then readOptions listener fuel (some value) [] text
        else if name = ascii "options" then
          if listener.stops value then readOptions listener fuel user value text else none
        else if name = [] then readOptions listener fuel user value text
        else readOptions listener fuel user [] text

def recvStartupMessage (listener : Listener) (env : Environment) (client : Client) :
    List Event × Option Starting :=
  match startupLoop listener env 2 true false client.sessions ⟨client.bytes, 0, 0⟩ with
  | (events, none) => (events, none)
  | (events, some (packet, wire)) =>
      let options := packet.bytes.drop 4
      (events, (readOptions listener options.length none [] options).map fun user =>
        ⟨wire, user, []⟩)

def sendPackets (env : Environment) : Nat → Wire → Option Wire
  | 0, wire => some wire
  | count + 1, wire => (wire.sendPacket env).bind (sendPackets env count)

/-- The client is asked for its password. -/
def sendStartupMessageResponse (env : Environment) (session : Starting) : Option Starting :=
  match session.user with
  | none => none
  | some _ => (session.wire.sendPacket env).map fun wire => { session with wire := wire }

def recvPasswordMessage (listener : Listener) (env : Environment) (session : Starting) :
    Option Starting := do
  let (reqtype, packet, wire) ← recvPacket listener env session.wire
  if reqtype ≠ messagePassword then none
  else some { session with wire := wire, password := CString.contents packet.bytes }

/-- After AuthenticationOk come BackendKeyData, eleven ParameterStatus and ReadyForQuery. -/
def initialHandshake (listener : Listener) (env : Environment) (client : Client) :
    List Event × Option Wire :=
  match recvStartupMessage listener env client with
  | (opened, none) => (opened, none)
  | (opened, some session) =>
      match (sendStartupMessageResponse env session).bind (recvPasswordMessage listener env) with
      | none => (opened ++ [.admitted], none)
      | some session =>
          if env.auth ⟨session.user, session.password, listener.authmethod⟩ then
            (opened ++ [.admitted, .authenticated], sendPackets env 14 session.wire)
          else (opened ++ [.admitted], none)

/-- The loop of `clientSession`. -/
def serveRequests (listener : Listener) (env : Environment) : Nat → Wire → List Event
  | 0, _ => []
  | fuel + 1, wire =>
      match recvPacket listener env wire with
      | none => []
      | some (reqtype, packet, wire) =>
          let request := reqtype :: packet.bytes
          if reqtype = messageTerminate then []
          else if env.loops request then .served request :: serveRequests listener env fuel wire
          else [.served request]

def clientSession (listener : Listener) (env : Environment) (client : Client) : List Event :=
  match initialHandshake listener env client with
  | (events, none) => events
  | (events, some wire) => events ++ serveRequests listener env wire.bytes.length wire

/-! ## What a client gets without TLS -/

variable {listener : Listener} {env : Environment}

/-- A startup message is taken in a TLS session only. -/
theorem startupLoop_guarded (usetls : listener.usetls = true) (env : Environment) (rounds : Nat) (first : Bool)
    (sessions : List (List Byte)) (wire : Wire) :
    startupLoop listener env rounds first false sessions wire = ([], none) ∨
      ∃ events result,
        startupLoop listener env rounds first false sessions wire = (.tls :: events, result) := by
  cases rounds with
  | zero => exact Or.inl rfl
  | succ rounds =>
      simp only [startupLoop]
      split
      · exact Or.inl rfl
      · next packet wire received =>
          split
          · split
            · exact Or.inl rfl
            · split
              · exact Or.inl rfl
              · split
                · exact Or.inl rfl
                · next bytes sessions => exact Or.inr ⟨_, _, rfl⟩
          · split
            · rw [usetls]
              exact Or.inl rfl
            · exact Or.inl rfl

theorem clientSession_refused {client : Client} {opened : List Event}
    (received : recvStartupMessage listener env client = (opened, none)) :
    clientSession listener env client = opened := by
  simp only [clientSession, initialHandshake, received]

theorem clientSession_opened {client : Client} {opened : List Event} {result : Option Starting}
    (received : recvStartupMessage listener env client = (opened, result)) :
    ∃ rest, clientSession listener env client = opened ++ rest := by
  have handshake : ∃ rest next,
      initialHandshake listener env client = (opened ++ rest, next) := by
    simp only [initialHandshake, received]
    cases result with
    | none => exact ⟨[], _, by rw [List.append_nil]⟩
    | some session =>
        simp only
        split
        · exact ⟨_, _, rfl⟩
        · split
          · exact ⟨_, _, rfl⟩
          · exact ⟨_, _, rfl⟩
  obtain ⟨rest, next, handshake⟩ := handshake
  simp only [clientSession, handshake]
  cases next with
  | none => exact ⟨rest, rfl⟩
  | some wire => exact ⟨_, List.append_assoc ..⟩

/-- Where TLS is configured, a client gets nothing before a TLS handshake has succeeded. -/
theorem clientSession_guarded (usetls : listener.usetls = true) (env : Environment)
    (client : Client) : Guarded (clientSession listener env client) := by
  have startup := startupLoop_guarded usetls env 2 true client.sessions ⟨client.bytes, 0, 0⟩
  cases startup with
  | inl refused =>
      have received : recvStartupMessage listener env client = ([], none) := by
        simp only [recvStartupMessage, refused]
      rw [clientSession_refused received]
      exact guarded_nil
  | inr opened =>
      obtain ⟨events, result, opened⟩ := opened
      have received : ∃ result,
          recvStartupMessage listener env client = (.tls :: events, result) := by
        simp only [recvStartupMessage, opened]
        cases result with
        | none => exact ⟨_, rfl⟩
        | some read => exact ⟨_, rfl⟩
      obtain ⟨result, received⟩ := received
      obtain ⟨rest, session⟩ := clientSession_opened received
      rw [session]
      exact guarded_tls _

end SqlRelay.Postgresql
