import SqlRelay.Oracle.Transparency

/-!
# A whole request

A request is received with the first of its packets, and then read value by value.  What is read of
it does not depend on how it was split, in particular not when it was split as this side splits
what it sends itself.
-/

namespace SqlRelay.Oracle

open SqlRelay.Foundation

variable {settings : Settings} {session : Session} {coming : List (Fragment settings)}

/-- Reads values one behind the other, up to the first that is not there. -/
def readAll (settings : Settings) : List Kind → Session → Nat → Nat → List Returned
  | [], _, _, _ => []
  | kind :: kinds, session, rp, stop =>
      let read := kind.read settings session rp stop
      if read.1.ok then read.1 :: readAll settings kinds read.2.2 read.1.rpout read.2.1
      else [read.1]

/-- From wherever it is read in the packet that was received, what is read value by value is what is read
of the whole request. -/
def ReadsAs (settings : Settings) (received : Session) (whole : List Byte) : Prop :=
  ∀ kinds rp stop, rp ≤ received.resppacket.length → stop ≤ received.resppacket.length →
    readAll settings kinds { received with reassemble := true } rp stop =
      readAll settings kinds { received with
        resppacket := whole, reassemble := true, socket := [] } rp stop

end SqlRelay.Oracle
