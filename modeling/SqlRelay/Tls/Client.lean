import Mathlib.Data.List.Basic
import SqlRelay.Foundation.Reader

/-!
# A client and what it gets

A client sends bytes in the clear, and goes on in a TLS session if a handshake succeeds.  What matters
is what it gets before one has succeeded.
-/

namespace SqlRelay.Tls

open SqlRelay.Foundation

/-- What a client sends until a TLS handshake, and in each TLS session that it is able to open from
there.  What it sends to open one is not part of it. -/
structure Client where
  bytes : List Byte
  sessions : List (List Byte)

/-- `sqlrcredentials`, without the challenge that was sent. -/
structure Credentials where
  user : Option (List Byte)
  password : List Byte
  method : List Byte

/-- What the module depends on: which packets can be sent, whom the auth modules let in, whether the
session goes on after a request, and the memory behind each packet that it reads.  An allocation
without bytes points at `heap`, and memory can be read so far before the process is killed. -/
structure Environment where
  sends : Nat → Bool
  auth : Credentials → Bool
  loops : List Byte → Bool
  beyond : Nat → Nat → Byte
  heap : Byte
  readable : Nat

/-- The socket: the bytes that the client still sends, how many packets have been sent to it, and how
many have been received. -/
structure Wire where
  bytes : List Byte
  sent : Nat
  received : Nat

namespace Wire

def sendPacket (env : Environment) (wire : Wire) : Option Wire :=
  if env.sends wire.sent then some { wire with sent := wire.sent + 1 } else none

def read (wire : Wire) (count : Nat) : Option (List Byte × Wire) :=
  if count ≤ wire.bytes.length then
    some (wire.bytes.take count, { wire with bytes := wire.bytes.drop count })
  else none

/-- A packet, with the memory behind it. -/
def packet (env : Environment) (wire : Wire) (bytes : List Byte) : Buffer × Wire :=
  (⟨bytes, env.beyond wire.received⟩, { wire with received := wire.received + 1 })

end Wire

/-- A string in memory: its bytes up to a NUL, unless none is found before the process is killed. -/
def stringAt (packet : Buffer) : Nat → Nat → Option (List Byte)
  | 0, _ => none
  | readable + 1, rp =>
      if packet.byteAt rp = 0 then some []
      else (stringAt packet readable (rp + 1)).map fun rest => packet.byteAt rp :: rest

inductive Event where
  /-- A TLS handshake has succeeded. -/
  | tls
  /-- The client has not been refused, and its credentials are looked at. -/
  | admitted
  | authenticated
  | served (request : List Byte)
  deriving DecidableEq, Repr

/-- Nothing happens for the client before a TLS handshake has succeeded. -/
def Guarded (events : List Event) : Prop :=
  ∀ before event after, events = before ++ event :: after → event ≠ .tls → Event.tls ∈ before

theorem guarded_nil : Guarded [] := by
  intro before event after split
  cases before <;> cases split

theorem guarded_tls (events : List Event) : Guarded (.tls :: events) := by
  intro before event after split other
  cases before with
  | nil =>
      cases split
      exact absurd rfl other
  | cons first before =>
      cases split
      exact List.mem_cons_self

theorem not_guarded {event : Event} (other : event ≠ .tls) (events : List Event) :
    ¬Guarded (event :: events) := by
  intro guarded
  cases guarded [] event events rfl other

end SqlRelay.Tls
