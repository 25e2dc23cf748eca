import SqlRelay.Mysql.Parameters
import SqlRelay.Tls.Client

/-!
# The MySQL handshake

The module sends its handshake, and the client answers with its credentials, or asks for TLS first.
A client that asks for TLS sets a flag and sends nothing behind it, and the module tells by the length
of the packet whether anything follows.
-/

namespace SqlRelay.Mysql

open SqlRelay.Foundation SqlRelay.Tls

/-- The bits of the capability flags. -/
def clientConnectWithDb : Nat := 3
def clientProtocol41 : Nat := 9
def clientSsl : Nat := 11
def clientSecureConnection : Nat := 15
def clientPluginAuth : Nat := 19
def clientConnectAttrs : Nat := 20
def clientPluginAuthLenencClientData : Nat := 21

def oldPassword : List Byte := ascii "mysql_old_password"
def nativePassword : List Byte := ascii "mysql_native_password"
def clearPassword : List Byte := ascii "mysql_clear_password"

def supportedauthplugins : List (List Byte) := [nativePassword, clearPassword]

/-- The parameters of an instance, and whether it uses TLS. -/
structure Listener where
  handshake : Nat
  clientprotocol : Nat
  usetls : Bool

/-- The strings are null until they have been read. -/
structure Session where
  wire : Wire
  servercapabilityflags : Nat
  clientcapabilityflags : Nat
  username : Option (List Byte)
  response : Option (List Byte)
  database : Option (List Byte)
  serverauthpluginname : List Byte
  clientauthpluginname : Option (List Byte)

def isNullOrEmpty : Option (List Byte) → Bool
  | none => true
  | some text => text.headD 0 == 0

/-- The chunks of a packet, until one is smaller than 16 MB. -/
def recvChunks : Nat → Wire → Option (List Byte × Wire)
  | 0, _ => none
  | fuel + 1, wire => do
      let (header, wire) ← wire.read 4
      let (chunk, wire) ← wire.read (littleEndian (header.take 3))
      if chunk.length < 16777215 then some (chunk, wire)
      else
        let (more, wire) ← recvChunks fuel wire
        some (chunk ++ more, wire)

def recvPacket (env : Environment) (wire : Wire) : Option (Buffer × Wire) :=
  (recvChunks wire.bytes.length wire).map fun read => read.2.packet env read.1

/-- `buildHandshake10` sets the flags, and `buildHandshake9` leaves them. -/
def sendHandshake (listener : Listener) (env : Environment) (session : Session) : Option Session :=
  let session :=
    if listener.handshake ≠ 10 then { session with serverauthpluginname := oldPassword }
    else
      { session with
        serverauthpluginname := nativePassword
        servercapabilityflags :=
          0x0130a00d ||| (if listener.clientprotocol = 41 then 0x00080200 else 0) |||
            if listener.usetls then 0x00000800 else 0 }
  (session.wire.sendPacket env).map fun wire => { session with wire := wire }

/-- What a handshake response comes to.  Its credentials have been read, or it is malformed, or the
process has been killed reading it; or it asks for TLS; or it does not, although it has to. -/
inductive HandshakeResponse where
  | parsed (session : Session)
  | refused
  | tlsRequest (session : Session)
  | noClientTls (session : Session)

/-- The challenge response: with a size, or with a size of one byte, or up to a NUL. -/
def readChallengeResponse (session : Session) (packet : Buffer) (rp : Nat) :
    Option (List Byte × Nat) :=
  let size := packet.bytes.length
  let both := fun flag =>
    session.servercapabilityflags.testBit flag && session.clientcapabilityflags.testBit flag
  if both clientPluginAuthLenencClientData then
    (readSized packet ⟨rp, true⟩).map fun read => (read.1, read.2.rp)
  else if both clientSecureConnection then
    if rp ≥ size then none
    else
      let responsesize := (packet.byteAt rp).toNat
      if responsesize > size - (rp + 1) then none
      else some ((packet.bytes.drop (rp + 1)).take responsesize, rp + 1 + responsesize)
  else
    let response := CString.contents (packet.bytes.drop rp)
    let rp := rp + response.length
    some (response, if rp < size then rp + 1 else rp)

/-- The connection attributes are looked through, and nothing is done with them. -/
def readConnectAttrs (attrs : Buffer) : Nat → Reader → Option Unit
  | 0, _ => some ()
  | fuel + 1, reader =>
      if reader.rp < attrs.bytes.length then do
        let (_, reader) ← readSized attrs reader
        let (_, reader) ← readSized attrs reader
        readConnectAttrs attrs fuel reader
      else some ()

/-- `parseHandshakeResponse41`, from the username on. -/
def parseCredentials41 (env : Environment) (session : Session) (packet : Buffer) (rp : Nat) :
    Option Session := do
  let size := packet.bytes.length
  let flags := session.clientcapabilityflags
  let username ← stringAt packet env.readable rp
  let (response, rp) ← readChallengeResponse session packet (rp + username.length + 1)
  let rp := if rp < size ∧ packet.byteAt rp = 0 then rp + 1 else rp
  let (database, rp) ←
    if rp < size ∧ flags.testBit clientConnectWithDb then
      (stringAt packet env.readable rp).map fun text => (some text, rp + text.length + 1)
    else some (none, rp)
  let (clientauthpluginname, rp) ←
    if rp < size ∧ flags.testBit clientPluginAuth then
      (stringAt packet env.readable rp).map fun text => (some text, rp + text.length + 1)
    else some (session.clientauthpluginname, rp)
  if rp < size ∧ flags.testBit clientConnectAttrs then
    let (allsize, reader) ← readLenEncInt packet ⟨rp, true⟩
    if allsize > size - reader.rp then none
    else
      readConnectAttrs ⟨packet.bytes.take (reader.rp + allsize), packet.beyond⟩ size reader
  some { session with
    username := some username
    response := some response
    database := database
    clientauthpluginname :=
      -- The first byte of a response without bytes is whatever is in memory.
      if !flags.testBit clientConnectAttrs && (response.headD env.heap != 0) then
        some session.serverauthpluginname
      else clientauthpluginname }

/-- `parseHandshakeResponse320`, from the username on. -/
def parseCredentials320 (env : Environment) (session : Session) (packet : Buffer) (rp : Nat) :
    Option Session := do
  let username ← stringAt packet env.readable rp
  let rp := rp + username.length + 1
  let response ← stringAt packet env.readable rp
  let rp := rp + response.length + 1
  let database ←
    if session.clientcapabilityflags.testBit clientConnectWithDb then
      (stringAt packet env.readable rp).map some
    else some none
  some { session with
    username := some username
    response := some response
    database := database
    serverauthpluginname := oldPassword
    clientauthpluginname := some oldPassword }

/-- Both forms of a handshake response: how many bytes of flags there are, what comes before the
username, and how the rest is parsed. -/
structure Form where
  flagbytes : Nat
  header : Nat
  parse : Environment → Session → Buffer → Nat → Option Session

def form41 : Form := ⟨4, 32, parseCredentials41⟩

def form320 : Form := ⟨2, 5, parseCredentials320⟩

def capabilityflags (packet : Buffer) (count : Nat) : Nat :=
  littleEndian (Reader.read packet ⟨0, true⟩ count).1

/-- A handshake response of a form.  The packet of a client that asks for TLS ends behind the
header. -/
def parseHandshakeResponse (form : Form) (listener : Listener) (env : Environment)
    (session : Session) (packet : Buffer) : HandshakeResponse :=
  let session := { session with clientcapabilityflags := capabilityflags packet form.flagbytes }
  let parsed := match form.parse env session packet form.header with
    | none => .refused
    | some session => .parsed session
  if session.clientcapabilityflags.testBit clientSsl then
    if packet.bytes.length = form.header then .tlsRequest session else parsed
  else if listener.usetls then .noClientTls session
  else parsed

def parseHandshakeResponse41 := parseHandshakeResponse form41

def parseHandshakeResponse320 := parseHandshakeResponse form320

/-- `recvHandshakeResponse`, given `handleTlsRequest`.  The error is all that a client gets that does
not ask for TLS, and the result is whether it can be sent. -/
def recvResponse (listener : Listener) (env : Environment) (session : Session)
    (handleTlsRequest : Session → List Event × Option Session) : List Event × Option Session :=
  match recvPacket env session.wire with
  | none => ([], none)
  | some (packet, wire) =>
      let parse :=
        if (capabilityflags packet 4).testBit clientProtocol41 then parseHandshakeResponse41
        else parseHandshakeResponse320
      match parse listener env { session with wire := wire } packet with
      | .parsed session => ([], some session)
      | .refused => ([], none)
      | .noClientTls session =>
          ([], (session.wire.sendPacket env).map fun wire => { session with wire := wire })
      | .tlsRequest session => handleTlsRequest session

/-- For a client that is able to open these TLS sessions, one in the other. -/
def recvHandshakeResponse (listener : Listener) (env : Environment) :
    List (List Byte) → Session → List Event × Option Session
  | [], session => recvResponse listener env session fun _ => ([], none)
  | bytes :: sessions, session =>
      recvResponse listener env session fun session =>
        let (events, result) := recvHandshakeResponse listener env sessions
          { session with wire := { session.wire with bytes := bytes } }
        (.tls :: events, result)

/-- An auth switch request, old or new, and its answer. -/
def switchAuth (env : Environment) (session : Session) (plugin : List Byte) : Option Session := do
  let wire ← session.wire.sendPacket env
  let (packet, wire) ← recvPacket env wire
  some { session with
    wire := wire
    response := some packet.bytes
    serverauthpluginname := plugin
    clientauthpluginname := some plugin }

/-- All plugins, one at a time, until the client answers. -/
def tryPlugins (env : Environment) (session : Session) : List (List Byte) → Option Session
  | [] => none
  | plugin :: plugins => do
      let session ← switchAuth env session plugin
      if isNullOrEmpty session.response then tryPlugins env session plugins else some session

def negotiateAuthMethod (env : Environment) (session : Session) : Option Session :=
  if session.clientauthpluginname = some session.serverauthpluginname then some session
  else if !session.clientcapabilityflags.testBit clientPluginAuth &&
      isNullOrEmpty session.clientauthpluginname then
    switchAuth env session oldPassword
  else
    match session.clientauthpluginname with
    | none => tryPlugins env session supportedauthplugins
    | some plugin =>
        if plugin ∈ supportedauthplugins then do
          let session ← switchAuth env session plugin
          if isNullOrEmpty session.response then tryPlugins env session supportedauthplugins
          else some session
        else tryPlugins env session supportedauthplugins

/-- Every answer of one byte 0x01 asks for more data. -/
def negotiateMoreData (env : Environment) : Nat → Session → Option Session
  | 0, _ => none
  | fuel + 1, session =>
      if session.response = some [0x01] then do
        let session ← switchAuth env session session.serverauthpluginname
        negotiateMoreData env fuel session
      else some session

/-- Whether the client has been let in, and whether the session goes on. -/
def authenticate (env : Environment) (session : Session) : Bool × Option Session :=
  let next := (session.wire.sendPacket env).map fun wire => { session with wire := wire }
  if env.auth ⟨session.username, session.response.getD [],
      session.clientauthpluginname.getD []⟩ then
    -- An error of the database is sent in place of the OK packet.
    (true, next)
  else (false, none)

/-- `init` -/
def Session.start (client : Client) : Session :=
  ⟨⟨client.bytes, 0, 0⟩, 0, 0, none, none, none, nativePassword, none⟩

def initialHandshake (listener : Listener) (env : Environment) (client : Client) :
    List Event × Option Session :=
  match sendHandshake listener env (.start client) with
  | none => ([], none)
  | some session =>
      match recvHandshakeResponse listener env client.sessions session with
      | (opened, none) => (opened, none)
      | (opened, some session) =>
          match negotiateAuthMethod env session with
          | none => (opened ++ [.admitted], none)
          | some session =>
              match negotiateMoreData env (session.wire.bytes.length + 1) session with
              | none => (opened ++ [.admitted], none)
              | some session =>
                  match authenticate env session with
                  | (true, result) => (opened ++ [.admitted, .authenticated], result)
                  | (false, result) => (opened ++ [.admitted], result)

def comQuit : Byte := 0x01

/-- The loop of `clientSession`.  A packet without bytes is no request. -/
def serveRequests (env : Environment) : Nat → Wire → List Event
  | 0, _ => []
  | fuel + 1, wire =>
      match recvPacket env wire with
      | none => []
      | some (packet, wire) =>
          if packet.bytes = [] ∨ packet.bytes.head? = some comQuit then []
          else if env.loops packet.bytes then .served packet.bytes :: serveRequests env fuel wire
          else [.served packet.bytes]

def clientSession (listener : Listener) (env : Environment) (client : Client) : List Event :=
  match initialHandshake listener env client with
  | (events, none) => events
  | (events, some session) =>
      events ++ serveRequests env session.wire.bytes.length session.wire

/-! ## What a client gets without TLS -/

def formOf (packet : Buffer) : Form :=
  if (capabilityflags packet 4).testBit clientProtocol41 then form41 else form320

/-- The flags that a handshake response is parsed with. -/
def responseflags (packet : Buffer) : Nat := capabilityflags packet (formOf packet).flagbytes

/-- A packet that has the flag, and ends behind the header. -/
structure AsksForTls (packet : Buffer) : Prop where
  flag : (responseflags packet).testBit clientSsl = true
  ends : packet.bytes.length = (formOf packet).header

/-- A packet that has the flag and is malformed, or has no flag and can't be answered. -/
def Refused (env : Environment) (session : Session) (packet : Buffer) : Prop :=
  if (responseflags packet).testBit clientSsl then
    (formOf packet).parse env { session with clientcapabilityflags := responseflags packet } packet
      (formOf packet).header = none
  else session.wire.sendPacket env = none

/-- What has to be so before a session.  The first packet, if there is one, asks for TLS, unless it is
refused. -/
def Secured (listener : Listener) (env : Environment) (client : Client) : Prop :=
  ∀ session packet wire, sendHandshake listener env (.start client) = some session →
    recvPacket env session.wire = some (packet, wire) →
      AsksForTls packet ∨ Refused env { session with wire := wire } packet

variable {listener : Listener} {env : Environment}

/-- What the first packet comes to, where TLS is configured. -/
theorem recvHandshakeResponse_eq (usetls : listener.usetls = true) {session : Session}
    {packet : Buffer} {wire : Wire} (received : recvPacket env session.wire = some (packet, wire))
    (sessions : List (List Byte)) :
    (Refused env { session with wire := wire } packet ∧
        recvHandshakeResponse listener env sessions session = ([], none)) ∨
      (AsksForTls packet ∧ (recvHandshakeResponse listener env sessions session = ([], none) ∨
        ∃ events result,
          recvHandshakeResponse listener env sessions session = (.tls :: events, result))) ∨
      (¬Refused env { session with wire := wire } packet ∧ ¬AsksForTls packet ∧
        ∃ next, recvHandshakeResponse listener env sessions session = ([], some next)) := by
  have parses : (if (capabilityflags packet 4).testBit clientProtocol41 then
      parseHandshakeResponse41 else parseHandshakeResponse320) =
        parseHandshakeResponse (formOf packet) := by
    simp only [formOf, parseHandshakeResponse41, parseHandshakeResponse320]
    split <;> rfl
  have flags : capabilityflags packet (formOf packet).flagbytes = responseflags packet := rfl
  -- A handshake that succeeds is followed by whatever the client sends then.
  have isResponse : ∃ handleTlsRequest,
      recvHandshakeResponse listener env sessions session =
          recvResponse listener env session handleTlsRequest ∧
        ∀ session, handleTlsRequest session = ([], none) ∨
          ∃ events result, handleTlsRequest session = (.tls :: events, result) := by
    cases sessions with
    | nil => exact ⟨_, rfl, fun _ => Or.inl rfl⟩
    | cons bytes sessions => exact ⟨_, rfl, fun _ => Or.inr ⟨_, _, rfl⟩⟩
  obtain ⟨handleTlsRequest, response, handles⟩ := isResponse
  rw [response]
  simp only [recvResponse, received, parses, parseHandshakeResponse, flags]
  cases flag : (responseflags packet).testBit clientSsl with
  | true =>
      simp only [if_true]
      by_cases ends : packet.bytes.length = (formOf packet).header
      · apply Or.inr
        apply Or.inl
        refine ⟨⟨flag, ends⟩, ?_⟩
        rw [if_pos ends]
        exact handles _
      · simp only [if_neg ends]
        cases parsed : (formOf packet).parse env
            { session with wire := wire, clientcapabilityflags := responseflags packet } packet
            (formOf packet).header with
        | none =>
            apply Or.inl
            constructor
            · rw [Refused, if_pos flag]
              exact parsed
            · simp only
        | some next =>
            apply Or.inr
            apply Or.inr
            refine ⟨?_, fun asks => ends asks.ends, next, by simp only⟩
            rw [Refused, if_pos flag, parsed]
            exact Option.some_ne_none next
  | false =>
      have notFlag : ¬(responseflags packet).testBit clientSsl = true := by simp [flag]
      simp only [Bool.false_eq_true, if_false, usetls, if_true]
      cases sent : wire.sendPacket env with
      | none =>
          apply Or.inl
          constructor
          · rw [Refused, if_neg notFlag]
            exact sent
          · rfl
      | some next =>
          apply Or.inr
          apply Or.inr
          refine ⟨?_, fun asks => notFlag asks.flag, _, rfl⟩
          rw [Refused, if_neg notFlag, sent]
          exact Option.some_ne_none next

theorem clientSession_refused {client : Client} {session : Session} {opened : List Event}
    (sent : sendHandshake listener env (.start client) = some session)
    (received : recvHandshakeResponse listener env client.sessions session = (opened, none)) :
    clientSession listener env client = opened := by
  simp only [clientSession, initialHandshake, sent, received]

/-- A client that is not refused is negotiated with, whatever comes of it. -/
theorem clientSession_admitted {client : Client} {session next : Session} {opened : List Event}
    (sent : sendHandshake listener env (.start client) = some session)
    (received : recvHandshakeResponse listener env client.sessions session =
      (opened, some next)) :
    ∃ rest, clientSession listener env client = opened ++ .admitted :: rest := by
  have handshake : ∃ rest result,
      initialHandshake listener env client = (opened ++ .admitted :: rest, result) := by
    simp only [initialHandshake, sent, received]
    split
    · exact ⟨_, _, rfl⟩
    · split
      · exact ⟨_, _, rfl⟩
      · split
        · exact ⟨_, _, rfl⟩
        · exact ⟨_, _, rfl⟩
  obtain ⟨rest, result, handshake⟩ := handshake
  simp only [clientSession, handshake]
  cases result with
  | none => exact ⟨rest, rfl⟩
  | some session => exact ⟨_, List.append_assoc ..⟩

/-- Where TLS is configured, a client gets nothing before a TLS handshake has succeeded, exactly if its
first packet asks for TLS or is refused. -/
theorem clientSession_guarded_iff (usetls : listener.usetls = true) (env : Environment)
    (client : Client) :
    Guarded (clientSession listener env client) ↔ Secured listener env client := by
  cases sent : sendHandshake listener env (.start client) with
  | none =>
      have session : clientSession listener env client = [] := by
        simp only [clientSession, initialHandshake, sent]
      rw [session]
      apply iff_of_true guarded_nil
      intro session packet wire greeted
      rw [sent] at greeted
      cases greeted
  | some session =>
      cases received : recvPacket env session.wire with
      | none =>
          have refused : recvHandshakeResponse listener env client.sessions session =
              ([], none) := by
            cases client.sessions <;> simp only [recvHandshakeResponse, recvResponse, received]
          rw [clientSession_refused sent refused]
          apply iff_of_true guarded_nil
          intro other packet wire greeted got
          cases sent.symm.trans greeted
          rw [received] at got
          cases got
      | some read =>
          obtain ⟨packet, wire⟩ := read
          have secured : Secured listener env client ↔
              AsksForTls packet ∨ Refused env { session with wire := wire } packet := by
            constructor
            · intro secured
              exact secured session packet wire sent received
            · intro safe other packet wire greeted got
              cases sent.symm.trans greeted
              cases received.symm.trans got
              exact safe
          rw [secured]
          cases recvHandshakeResponse_eq usetls received client.sessions with
          | inl refused =>
              rw [clientSession_refused sent refused.2]
              exact iff_of_true guarded_nil (Or.inr refused.1)
          | inr others =>
              cases others with
              | inl asked =>
                  apply iff_of_true _ (Or.inl asked.1)
                  cases asked.2 with
                  | inl failed =>
                      rw [clientSession_refused sent failed]
                      exact guarded_nil
                  | inr opened =>
                      obtain ⟨events, result, opened⟩ := opened
                      cases result with
                      | none =>
                          rw [clientSession_refused sent opened]
                          exact guarded_tls events
                      | some next =>
                          obtain ⟨rest, isSession⟩ := clientSession_admitted sent opened
                          rw [isSession]
                          exact guarded_tls _
              | inr admitted =>
                  obtain ⟨notRefused, notAsked, next, opened⟩ := admitted
                  obtain ⟨rest, isSession⟩ := clientSession_admitted sent opened
                  rw [isSession]
                  apply iff_of_false
                  · exact not_guarded (by simp) rest
                  · exact not_or.mpr ⟨notAsked, notRefused⟩

end SqlRelay.Mysql
