import SqlRelay.Foundation.ByteOrder
import SqlRelay.Foundation.Decoder

/-!
# The packets of a request

A request is read into one buffer.  It starts with one packet, and a parse that runs short of
bytes appends the bodies of the packets behind it, in place.  Nothing on the wire says that a
packet continues the one before it, so a parse may ask for one only when a value needs it.
-/

namespace SqlRelay.Oracle

open SqlRelay.Foundation

def packetData : Nat := 6

def minMaxRequestSize : Nat := 64 * 1024

def maxMaxRequestSize : Nat := 16 * 1024 * 1024

/-- What is settled when a session begins. -/
structure Settings where
  sdu : Nat
  maxrequestsize : Nat
  largeheader : Bool
  bigchunks : Bool
  sdu_ge : 512 ≤ sdu
  sdu_le : sdu ≤ 4086
  maxrequestsize_ge : minMaxRequestSize ≤ maxrequestsize
  maxrequestsize_le : maxrequestsize ≤ maxMaxRequestSize

/-- The session data unit that a client which asks for so much gets. -/
def negotiatedSdu (requested : Nat) : Nat :=
  let sdu := if 4086 < requested then 4086 else requested
  if sdu < 512 then 512 else sdu

theorem negotiatedSdu_bounds (requested : Nat) :
    512 ≤ negotiatedSdu requested ∧ negotiatedSdu requested ≤ 4086 := by
  unfold negotiatedSdu
  constructor <;> grind

/-- How large a request may be where a query may be so large. -/
def requestSizeLimit (maxquerysize : Nat) : Nat :=
  let limit := maxquerysize * 16
  let limit := if limit < minMaxRequestSize then minMaxRequestSize else limit
  if maxMaxRequestSize < limit then maxMaxRequestSize else limit

theorem requestSizeLimit_bounds (maxquerysize : Nat) :
    minMaxRequestSize ≤ requestSizeLimit maxquerysize ∧
      requestSizeLimit maxquerysize ≤ maxMaxRequestSize := by
  have ordered : minMaxRequestSize ≤ maxMaxRequestSize := by decide
  unfold requestSizeLimit
  constructor <;> grind

/-- The settings of a session with a client that asks for such a session data unit. -/
def Settings.negotiated (requested maxquerysize : Nat) (largeheader bigchunks : Bool) :
    Settings where
  sdu := negotiatedSdu requested
  maxrequestsize := requestSizeLimit maxquerysize
  largeheader := largeheader
  bigchunks := bigchunks
  sdu_ge := (negotiatedSdu_bounds requested).1
  sdu_le := (negotiatedSdu_bounds requested).2
  maxrequestsize_ge := (requestSizeLimit_bounds maxquerysize).1
  maxrequestsize_le := (requestSizeLimit_bounds maxquerysize).2

/-- A request in the middle of being parsed: the bytes that `resppacket` holds, the room that is
left for values and how much the pool has given to them, whether the call may ask for packets, and
what the client has sent behind what was received. -/
structure Session where
  resppacket : List Byte
  requestvalueavail : Nat
  resppacketpool : Nat
  reassemble : Bool
  socket : List Byte

/-- `clientsock->read`.  Where the client sends fewer bytes, they are gone and the read fails. -/
def readBytes (size : Nat) (socket : List Byte) : Except (List Byte) (List Byte × List Byte) :=
  if size ≤ socket.length then .ok (socket.take size, socket.drop size) else .error []

/-- A number, most significant byte first. -/
def readBE (size : Nat) (socket : List Byte) : Except (List Byte) (Nat × List Byte) := do
  let (bytes, socket) ← readBytes size socket
  return (ByteOrder.big.read bytes, socket)

/-- Refuses a packet that is not as it must be. -/
def refuse (bad : Prop) [Decidable bad] (socket : List Byte) : Except (List Byte) Unit :=
  if bad then .error socket else .ok ()

/-- The size of a packet, and the checksum that a small header has behind it. -/
def readPacketSize (settings : Settings) (socket : List Byte) :
    Except (List Byte) (Nat × List Byte) :=
  if settings.largeheader then readBE 4 socket
  else do
    let (smallsize, socket) ← readBE 2 socket
    let (_, socket) ← readBE 2 socket
    return (smallsize, socket)

/-- Receives the packet that a request starts with, and says what type of packet it is. -/
def recvPacket (settings : Settings) (session : Session) :
    Except (List Byte) (Nat × Session) := do
  let (packetsize, socket) ← readPacketSize settings session.socket
  refuse (packetsize < 8 ∨ settings.sdu < packetsize ∨ settings.maxrequestsize < packetsize) socket
  let (packettype, socket) ← readBE 1 socket
  let (_, socket) ← readBE 1 socket
  let (_, socket) ← readBE 2 socket
  let (body, socket) ← readBytes (packetsize - 8) socket
  return (packettype,
    { session with
      resppacket := body, resppacketpool := 0
      requestvalueavail := settings.maxrequestsize, socket })

/-- Appends the body of the next packet to the request, or says what is left of what the client has
sent. -/
def refillPacket (settings : Settings) (session : Session) : Except (List Byte) Session := do
  let (packetsize, socket) ← readPacketSize settings session.socket
  refuse (packetsize < 8 ∨ settings.sdu < packetsize) socket
  let (packettype, socket) ← readBE 1 socket
  let (_, socket) ← readBE 1 socket
  let (_, socket) ← readBE 2 socket
  refuse (packettype ≠ packetData) socket
  -- a packet with nothing behind its data flags would leave the parse where it was
  refuse (packetsize - 8 ≤ 2) socket
  let (_, socket) ← readBE 2 socket
  let bodysize := packetsize - 8 - 2
  refuse (settings.maxrequestsize < session.resppacket.length + bodysize) socket
  let (body, socket) ← readBytes bodysize socket
  return { session with resppacket := session.resppacket ++ body, socket }

/-! ## What a refill can do -/

theorem bind_eq_ok {Value Other : Type} {read : Except (List Byte) Value}
    {next : Value → Except (List Byte) Other} {result : Other} :
    (read >>= next) = .ok result ↔ ∃ value, read = .ok value ∧ next value = .ok result := by
  cases read <;> simp [bind, Except.bind]

theorem readBytes_eq_ok {size : Nat} {socket : List Byte} {result : List Byte × List Byte} :
    readBytes size socket = .ok result ↔
      size ≤ socket.length ∧ result = (socket.take size, socket.drop size) := by
  unfold readBytes
  split
  case isTrue enough => simp [enough, eq_comm]
  case isFalse beyond => simp [beyond]

theorem readBE_length {size : Nat} {socket : List Byte} {result : Nat × List Byte}
    (found : readBE size socket = .ok result) :
    size ≤ socket.length ∧ result.2.length + size = socket.length := by
  cases bind_eq_ok.mp found with
  | intro bytes parts =>
    have bounds := readBytes_eq_ok.mp parts.1
    have value := Except.ok.inj parts.2
    rw [← value, bounds.2]
    simp only [List.length_drop]
    omega

theorem readPacketSize_length {settings : Settings} {socket : List Byte}
    {result : Nat × List Byte} (found : readPacketSize settings socket = .ok result) :
    result.2.length + 4 = socket.length := by
  rw [readPacketSize] at found
  split at found
  case isTrue => exact (readBE_length found).2
  case isFalse =>
    cases bind_eq_ok.mp found with
    | intro size parts =>
      cases bind_eq_ok.mp parts.2 with
      | intro checksum more =>
        have first := (readBE_length parts.1).2
        have second := (readBE_length more.1).2
        have value := Except.ok.inj more.2
        rw [← value]
        simp only
        omega

theorem refuse_eq_ok {bad : Prop} [Decidable bad] {socket : List Byte} {result : Unit} :
    refuse bad socket = .ok result ↔ ¬bad := by
  unfold refuse
  split
  case isTrue is_bad => simp [is_bad]
  case isFalse good => simp [good]

/-- A packet that was taken in has a body, which the request has room for. -/
theorem refillPacket_cases {settings : Settings} {session refilled : Session}
    (found : refillPacket settings session = .ok refilled) :
    ∃ body socket, 0 < body.length ∧ body.length + socket.length < session.socket.length ∧
      session.resppacket.length + body.length ≤ settings.maxrequestsize ∧
      refilled = { session with resppacket := session.resppacket ++ body, socket := socket } := by
  simp only [refillPacket, bind_eq_ok, refuse_eq_ok] at found
  obtain ⟨size, sized, _, _, kind, kinded, flags, flagged, sum, summed, _, _, _, some, data, dated,
    _, room, body, read, result⟩ := found
  have sizes := readPacketSize_length sized
  have kinds := (readBE_length kinded).2
  have flagses := (readBE_length flagged).2
  have sums := (readBE_length summed).2
  have datas := (readBE_length dated).2
  have bodies := readBytes_eq_ok.mp read
  have length : body.1.length = size.1 - 8 - 2 := by
    rw [bodies.2, List.length_take]
    omega
  have rest : body.2.length = data.2.length - (size.1 - 8 - 2) := by
    rw [bodies.2, List.length_drop]
  refine ⟨body.1, body.2, ?_, ?_, ?_, (Except.ok.inj result).symm⟩
  · omega
  · omega
  · omega

/-- A read that fails leaves at most so many bytes. -/
def Leaves (length : Nat) {Value : Type} (read : Except (List Byte) Value) : Prop :=
  ∀ socket, read = .error socket → socket.length ≤ length

namespace Leaves

theorem bind {length : Nat} {Value Other : Type} {read : Except (List Byte) Value}
    {next : Value → Except (List Byte) Other} (first : Leaves length read)
    (second : ∀ value, read = .ok value → Leaves length (next value)) :
    Leaves length (read >>= next) := by
  intro socket failed
  cases found : read with
  | error left =>
    rw [found] at failed
    cases failed
    exact first _ found
  | ok value =>
    rw [found] at failed
    exact second value found socket failed

theorem readBytes (length size : Nat) (socket : List Byte) :
    Leaves length (readBytes size socket) := by
  intro left failed
  unfold Oracle.readBytes at failed
  split at failed
  case isTrue => cases failed
  case isFalse =>
    cases failed
    exact Nat.zero_le _

theorem pure (length : Nat) {Value : Type} (value : Value) :
    Leaves length (.ok value) := fun _ failed => nomatch failed

theorem readBE (length size : Nat) (socket : List Byte) : Leaves length (readBE size socket) :=
  (readBytes length size socket).bind fun _ _ => pure length _

theorem readPacketSize (length : Nat) (settings : Settings) (socket : List Byte) :
    Leaves length (readPacketSize settings socket) := by
  unfold Oracle.readPacketSize
  split
  case isTrue => exact readBE length 4 socket
  case isFalse =>
    apply (readBE length 2 socket).bind
    intro size _
    apply (readBE length 2 size.2).bind
    intro _ _
    exact pure length _

theorem refuse {length : Nat} (bad : Prop) [Decidable bad] {socket : List Byte}
    (few : socket.length ≤ length) : Leaves length (refuse bad socket) := by
  intro left failed
  unfold Oracle.refuse at failed
  split at failed
  case isTrue =>
    cases failed
    exact few
  case isFalse => cases failed

end Leaves

theorem refillPacket_leaves (settings : Settings) (session : Session) :
    Leaves session.socket.length (refillPacket settings session) := by
  unfold refillPacket
  apply (Leaves.readPacketSize _ settings _).bind
  intro size sized
  have sizes := readPacketSize_length sized
  apply (Leaves.refuse _ (by omega)).bind
  intro _ _
  apply (Leaves.readBE _ 1 _).bind
  intro kind kinded
  have kinds := (readBE_length kinded).2
  apply (Leaves.readBE _ 1 _).bind
  intro flags flagged
  have flagses := (readBE_length flagged).2
  apply (Leaves.readBE _ 2 _).bind
  intro sum summed
  have sums := (readBE_length summed).2
  apply (Leaves.refuse _ (by omega)).bind
  intro _ _
  apply (Leaves.refuse _ (by omega)).bind
  intro _ _
  apply (Leaves.readBE _ 2 _).bind
  intro data dated
  have datas := (readBE_length dated).2
  apply (Leaves.refuse _ (by omega)).bind
  intro _ _
  apply (Leaves.readBytes _ _ _).bind
  intro body _
  exact Leaves.pure _ _

/-! ## Asking for bytes -/

/-- The loop of `have`: as long as there are too few bytes before `stop`, another packet. -/
def haveLoop (settings : Settings) (rp bytes stop : Nat) (session : Session) :
    Bool × Nat × Session :=
  if stop - rp < bytes then
    if session.reassemble then
      match _ : refillPacket settings session with
      | .error socket => (false, stop, { session with socket })
      | .ok refilled => haveLoop settings rp bytes refilled.resppacket.length refilled
    else (false, stop, session)
  else (true, stop, session)
termination_by session.socket.length
decreasing_by
  obtain ⟨body, socket, some, shorter, _, rfl⟩ := refillPacket_cases ‹_›
  simp only
  omega

/-- The end that a parse knows of, moved to where the request now ends. -/
def Session.currentEnd (session : Session) (stop : Nat) : Nat :=
  if stop < session.resppacket.length then session.resppacket.length else stop

/-- `have`: makes sure of the bytes that a parse is about to read, and moves the end that it knows
of to where the request now ends. -/
def haveBytes (settings : Settings) (session : Session) (rp bytes stop : Nat) :
    Bool × Nat × Session :=
  if session.currentEnd stop < rp then (false, session.currentEnd stop, session)
  else haveLoop settings rp bytes (session.currentEnd stop) session

/-! ## The packets a request is split into -/

/-- A data packet within the session data unit that holds some part of a request. -/
structure Fragment (settings : Settings) where
  checksum : UInt16
  packetflags : Byte
  headerchecksum : UInt16
  dataflags : UInt16
  body : List Byte
  occupied : 0 < body.length
  within : body.length + 10 ≤ settings.sdu

namespace Fragment

variable {settings : Settings}

/-- The header, the data flags and the body, as they go over the wire. -/
def bytes (fragment : Fragment settings) : List Byte :=
  let packetsize := fragment.body.length + 10
  (if settings.largeheader then ByteOrder.big.write 4 packetsize
    else ByteOrder.big.write 2 packetsize ++ ByteOrder.big.write 2 fragment.checksum.toNat) ++
  (ByteOrder.big.write 1 packetData ++ (ByteOrder.big.write 1 fragment.packetflags.toNat ++
    (ByteOrder.big.write 2 fragment.headerchecksum.toNat ++
      (ByteOrder.big.write 2 fragment.dataflags.toNat ++ fragment.body))))

end Fragment

theorem readBytes_append (front rest : List Byte) :
    readBytes front.length (front ++ rest) = .ok (front, rest) := by
  apply readBytes_eq_ok.mpr
  simp

theorem readBE_write {size value : Nat} (rest : List Byte) (fits : value < 256 ^ size) :
    readBE size (ByteOrder.big.write size value ++ rest) = .ok (value, rest) := by
  have read := readBytes_append (ByteOrder.big.write size value) rest
  rw [ByteOrder.length_write] at read
  rw [readBE, read]
  exact congrArg (fun value => Except.ok (value, rest)) (ByteOrder.read_write .big fits)

theorem readPacketSize_fragment {settings : Settings} (fragment : Fragment settings)
    (rest : List Byte) : readPacketSize settings (fragment.bytes ++ rest) =
      .ok (fragment.body.length + 10, ByteOrder.big.write 1 packetData ++
        (ByteOrder.big.write 1 fragment.packetflags.toNat ++
          (ByteOrder.big.write 2 fragment.headerchecksum.toNat ++
            (ByteOrder.big.write 2 fragment.dataflags.toNat ++ (fragment.body ++ rest))))) := by
  have within := fragment.within
  have bounded := settings.sdu_le
  have small : fragment.body.length + 10 < 256 ^ 2 := by omega
  have large : fragment.body.length + 10 < 256 ^ 4 := by omega
  have sum : fragment.checksum.toNat < 256 ^ 2 := fragment.checksum.toNat_lt
  unfold readPacketSize Fragment.bytes
  split
  case isTrue =>
    simp only [List.append_assoc]
    exact readBE_write _ large
  case isFalse =>
    simp only [List.append_assoc]
    rw [readBE_write _ small]
    simp only [bind, Except.bind]
    rw [readBE_write _ sum]
    rfl

/-- A fragment that the request has room for is appended to it. -/
theorem refillPacket_fragment {settings : Settings} {session : Session}
    (fragment : Fragment settings) {rest : List Byte}
    (socket : session.socket = fragment.bytes ++ rest)
    (room : session.resppacket.length + fragment.body.length ≤ settings.maxrequestsize) :
    refillPacket settings session =
      .ok { session with resppacket := session.resppacket ++ fragment.body, socket := rest } := by
  have occupied := fragment.occupied
  have within := fragment.within
  have flags : fragment.packetflags.toNat < 256 ^ 1 := fragment.packetflags.toNat_lt
  have sum : fragment.headerchecksum.toNat < 256 ^ 2 := fragment.headerchecksum.toNat_lt
  have data : fragment.dataflags.toNat < 256 ^ 2 := fragment.dataflags.toNat_lt
  have kind : packetData < 256 ^ 1 := by decide
  have size : fragment.body.length + 10 - 8 - 2 = fragment.body.length := by omega
  have fits : ¬(fragment.body.length + 10 < 8 ∨ settings.sdu < fragment.body.length + 10) := by
    omega
  have some : ¬fragment.body.length + 10 - 8 ≤ 2 := by omega
  have inside : ¬settings.maxrequestsize <
      session.resppacket.length + fragment.body.length := by omega
  rw [refillPacket, socket, readPacketSize_fragment]
  simp only [bind, Except.bind, refuse, if_neg fits, readBE_write _ kind, readBE_write _ flags,
    readBE_write _ sum, readBE_write _ data, if_neg some, size, if_neg inside, ne_eq, not_true,
    if_false, readBytes_append]
  rfl

end SqlRelay.Oracle
