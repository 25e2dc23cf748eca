import Mathlib.Algebra.Group.Nat.Defs
import Mathlib.Data.List.Basic
import SqlRelay.Foundation.CString

/-!
# Reading numbers from a buffer

A reader walks over a buffer in memory and does not stop at the end of it.  What lies behind the
buffer can be read as well, and the reader remembers whether it has read any of that.  A walk that
may be given up remembers all that it has accessed, and how far it was from its limit then.
-/

namespace SqlRelay.Foundation

/-- The value of little-endian bytes. -/
def littleEndian : List Byte → Nat
  | [] => 0
  | byte :: rest => byte.toNat + 256 * littleEndian rest

@[simp] theorem littleEndian_singleton (byte : Byte) : littleEndian [byte] = byte.toNat := by
  simp [littleEndian]

/-- A number of so many bits, as two's complement. -/
def signed (bits value : Nat) : Int := (BitVec.ofNat bits value).toInt

theorem signed_of_lt {bits value : Nat} (small : 2 * value < 2 ^ bits) :
    signed bits value = value := by
  have below : value < 2 ^ bits := by omega
  simp [signed, BitVec.toInt, Nat.mod_eq_of_lt below, small]

/-- The bytes of a buffer, and what lies behind them in memory. -/
structure Buffer where
  bytes : List Byte
  beyond : Nat → Byte

namespace Buffer

/-- The byte at a position, counted from the start of the buffer. -/
def byteAt (buffer : Buffer) (position : Nat) : Byte :=
  buffer.bytes.getD position (buffer.beyond position)

end Buffer

/-- Where a reader is, and whether all that it has read so far lay in the buffer. -/
structure Reader where
  rp : Nat
  inside : Bool

namespace Reader

variable {buffer : Buffer} {reader : Reader}

def advance (reader : Reader) (count : Nat) : Reader := { reader with rp := reader.rp + count }

def read (buffer : Buffer) (reader : Reader) (count : Nat) : List Byte × Reader :=
  ((List.range count).map fun i => buffer.byteAt (reader.rp + i),
    { reader.advance count with
      inside := reader.inside && decide (reader.rp + count ≤ buffer.bytes.length) })

/-- The rest of the buffer, from where the reader is. -/
structure At (buffer : Buffer) (reader : Reader) (rest : List Byte) : Prop where
  bounded : reader.rp ≤ buffer.bytes.length
  rest_eq : buffer.bytes.drop reader.rp = rest

theorem At.length {rest : List Byte} (here : At buffer reader rest) :
    reader.rp + rest.length = buffer.bytes.length := by
  have bounded := here.bounded
  rw [← here.rest_eq, List.length_drop]
  omega

theorem At.at_eq {front rest : List Byte} (here : At buffer reader (front ++ rest)) {i : Nat}
    (inside : i < front.length) : buffer.byteAt (reader.rp + i) = front[i] := by
  have found : buffer.bytes[reader.rp + i]? = some front[i] := by
    rw [← List.getElem?_drop, here.rest_eq, List.getElem?_append_left inside,
      List.getElem?_eq_getElem inside]
  rw [Buffer.byteAt, List.getD_eq_getElem?_getD, found]
  rfl

theorem At.advance {front rest : List Byte} (here : At buffer reader (front ++ rest)) :
    At buffer (reader.advance front.length) rest where
  bounded := by
    have length := here.length
    simp only [List.length_append] at length
    simp only [Reader.advance]
    omega
  rest_eq := by
    rw [Reader.advance, ← List.drop_drop, here.rest_eq, List.drop_left]

/-- What is in the buffer is read as it is. -/
theorem At.read {front rest : List Byte} (here : At buffer reader (front ++ rest)) :
    Reader.read buffer reader front.length = (front, reader.advance front.length) := by
  have bytes : (List.range front.length).map (fun i => buffer.byteAt (reader.rp + i)) = front := by
    apply List.ext_getElem
    · simp
    · intro i _ inside
      rw [List.getElem_map, List.getElem_range]
      exact here.at_eq inside
  have length := here.length
  simp only [List.length_append] at length
  have inside : reader.rp + front.length ≤ buffer.bytes.length := by omega
  simp [Reader.read, bytes, inside, Reader.advance]

/-- As long as it keeps to the buffer, the reader only moves on. -/
theorem read_snd (buffer : Buffer) {reader : Reader} {count : Nat}
    (enough : reader.rp + count ≤ buffer.bytes.length) :
    (Reader.read buffer reader count).2 = reader.advance count := by
  simp [Reader.read, Reader.advance, enough]

/-- A read that keeps to the buffer gives the bytes that are there. -/
theorem read_fst (buffer : Buffer) {reader : Reader} {count : Nat}
    (enough : reader.rp + count ≤ buffer.bytes.length) :
    (Reader.read buffer reader count).1 = (buffer.bytes.drop reader.rp).take count := by
  have length : ((buffer.bytes.drop reader.rp).take count).length = count := by
    rw [List.length_take, List.length_drop]
    omega
  have here : At buffer reader ((buffer.bytes.drop reader.rp).take count ++
      (buffer.bytes.drop reader.rp).drop count) := by
    constructor
    · omega
    · rw [List.take_append_drop]
  have bytes := congrArg Prod.fst here.read
  rw [length] at bytes
  exact bytes

theorem At.read_cons {byte : Byte} {rest : List Byte} (here : At buffer reader (byte :: rest)) :
    Reader.read buffer reader 1 = ([byte], reader.advance 1) := by
  have split : At buffer reader ([byte] ++ rest) := here
  exact split.read

theorem At.advance_cons {byte : Byte} {rest : List Byte} (here : At buffer reader (byte :: rest)) :
    At buffer (reader.advance 1) rest := by
  have split : At buffer reader ([byte] ++ rest) := here
  exact split.advance

theorem at_behind (front rest : List Byte) (beyond : Nat → Byte) :
    At ⟨front ++ rest, beyond⟩ ⟨front.length, true⟩ rest where
  bounded := by simp
  rest_eq := by simp

@[simp] theorem advance_advance (reader : Reader) (first second : Nat) :
    (reader.advance first).advance second = reader.advance (first + second) := by
  simp [advance, Nat.add_assoc]

end Reader

end SqlRelay.Foundation
