import Mathlib.Data.List.Induction
import SqlRelay.Foundation.ByteOrder

/-!
# Integers between the host and the wire

What is appended to a buffer, or copied out of one, are the bytes of an integer as the host keeps
them.  Before the one and after the other the bytes are swapped if the wire has them in the other
order.
-/

namespace SqlRelay.Protocol

open SqlRelay.Foundation

/-- `hostToLE` and `hostToBE`: the integer that the host keeps as the bytes for the wire. -/
def hostTo (host wire : ByteOrder) (size value : Nat) : Nat := host.read (wire.write size value)

/-- `leToHost`, of an integer that was copied from the wire. -/
def toHost (host wire : ByteOrder) (size value : Nat) : Nat := wire.read (host.write size value)

/-- `append` of an integer. -/
def append (host : ByteOrder) (size value : Nat) : List Byte := host.write size value

theorem append_hostTo (host wire : ByteOrder) (size value : Nat) :
    append host size (hostTo host wire size value) = wire.write size value := by
  have whole := host.write_read (wire.write size value)
  rw [ByteOrder.length_write] at whole
  exact whole

theorem toHost_read (host wire : ByteOrder) (bytes : List Byte) :
    toHost host wire bytes.length (host.read bytes) = wire.read bytes := by
  rw [toHost, ByteOrder.write_read]

theorem or_shiftLeft {low shift : Nat} (fits : low < 2 ^ shift) (high : Nat) :
    low ||| high <<< shift = 2 ^ shift * high + low := by
  rw [Nat.two_pow_add_eq_or_of_lt fits, Nat.or_comm, Nat.shiftLeft_eq, Nat.mul_comm]

/-- Bytes that are shifted into a register of a fixed size, one after the other, leave the number
that they stand for there, as far as it fits. -/
theorem toNat_foldl_shift {Register : Type} {toNat : Register → Nat}
    {shift : Register → Byte → Register} {modulus : Nat} (start : Register)
    (fits : toNat start < modulus)
    (shifts : ∀ register byte,
      toNat (shift register byte) = (toNat register * 256 + byte.toNat) % modulus)
    (bytes : List Byte) :
    toNat (bytes.foldl shift start) =
      (toNat start * 256 ^ bytes.length + ByteOrder.big.read bytes) % modulus := by
  rw [← ByteOrder.big_read_foldl]
  induction bytes using List.reverseRecOn with
  | nil => exact (Nat.mod_eq_of_lt fits).symm
  | append_singleton bytes byte ih =>
      rw [List.foldl_append, List.foldl_append, List.foldl_cons, List.foldl_cons, List.foldl_nil,
        List.foldl_nil, shifts, ih, Nat.add_mod, Nat.mod_mul_mod, ← Nat.add_mod]

/-- `writeTriplet` -/
def writeTriplet (host : ByteOrder) (value : Nat) : List Byte :=
  let valuebytes := append host 4 (hostTo host .big 4 value)
  [valuebytes.getD 3 0, valuebytes.getD 2 0, valuebytes.getD 1 0]

/-- The first three bytes in little-endian order, whatever the host. -/
theorem writeTriplet_eq (host : ByteOrder) (value : Nat) :
    writeTriplet host value = toLittleEndian 3 value := by
  rw [writeTriplet, append_hostTo]
  rfl

end SqlRelay.Protocol
