import Mathlib.Data.Nat.Notation
import Mathlib.Algebra.Order.Ring.Nat
import Mathlib.Tactic.Ring
import SqlRelay.Foundation.Reader

/-!
# Numbers of a fixed size on the wire

A number is written as so many bytes, least or most significant first, and read back as the number
it was whenever it fits them.
-/

namespace SqlRelay.Foundation

/-- The low bytes of a number, least significant first. -/
def toLittleEndian : Nat → Nat → List Byte
  | 0, _ => []
  | size + 1, value => UInt8.ofNat value :: toLittleEndian size (value / 256)

@[simp] theorem length_toLittleEndian (size value : Nat) :
    (toLittleEndian size value).length = size := by
  induction size generalizing value with
  | zero => rfl
  | succ size induction => simp [toLittleEndian, induction]

theorem littleEndian_toLittleEndian {size value : Nat} (fits : value < 256 ^ size) :
    littleEndian (toLittleEndian size value) = value := by
  induction size generalizing value with
  | zero =>
    have zero : value = 0 := by simpa using fits
    rw [zero]
    rfl
  | succ size induction =>
    have upper : value / 256 < 256 ^ size := by
      apply Nat.div_lt_of_lt_mul
      rwa [Nat.mul_comm, ← Nat.pow_succ]
    rw [toLittleEndian, littleEndian, induction upper]
    simp only [UInt8.toNat_ofNat']
    omega

theorem toLittleEndian_littleEndian (bytes : List Byte) :
    toLittleEndian bytes.length (littleEndian bytes) = bytes := by
  induction bytes with
  | nil => rfl
  | cons byte rest ih =>
    have small := byte.toNat_lt
    have upper : (byte.toNat + 256 * littleEndian rest) / 256 = littleEndian rest := by omega
    have lower : UInt8.ofNat (byte.toNat + 256 * littleEndian rest) = byte := by
      apply UInt8.toNat_inj.mp
      rw [UInt8.toNat_ofNat']
      omega
    rw [List.length_cons, littleEndian, toLittleEndian, upper, lower, ih]

theorem littleEndian_append (front rest : List Byte) :
    littleEndian (front ++ rest) = littleEndian front + 256 ^ front.length * littleEndian rest := by
  induction front with
  | nil => simp [littleEndian]
  | cons byte front ih =>
    rw [List.cons_append, littleEndian, littleEndian, ih, List.length_cons, Nat.pow_succ]
    ring

/-- Which byte of a number goes first. -/
inductive ByteOrder where
  | little
  | big
deriving DecidableEq

namespace ByteOrder

/-- A number as so many bytes. -/
def write : ByteOrder → Nat → Nat → List Byte
  | little, size, value => toLittleEndian size value
  | big, size, value => (toLittleEndian size value).reverse

/-- The number that bytes stand for. -/
def read : ByteOrder → List Byte → Nat
  | little, bytes => littleEndian bytes
  | big, bytes => littleEndian bytes.reverse

@[simp] theorem length_write (order : ByteOrder) (size value : Nat) :
    (order.write size value).length = size := by
  cases order <;> simp [write]

theorem read_write (order : ByteOrder) {size value : Nat} (fits : value < 256 ^ size) :
    order.read (order.write size value) = value := by
  cases order <;> simp [read, write, littleEndian_toLittleEndian fits]

theorem big_read_cons (byte : Byte) (rest : List Byte) :
    big.read (byte :: rest) = byte.toNat * 256 ^ rest.length + big.read rest := by
  rw [read, read, List.reverse_cons, littleEndian_append, List.length_reverse,
    littleEndian_singleton]
  ring

/-- A number that is made of its bytes one after the other, most significant first. -/
theorem big_read_foldl (bytes : List Byte) (start : Nat) :
    bytes.foldl (fun value byte => value * 256 + byte.toNat) start =
      start * 256 ^ bytes.length + big.read bytes := by
  induction bytes generalizing start with
  | nil => simp [read, littleEndian]
  | cons byte rest ih =>
    rw [List.foldl_cons, ih, big_read_cons, List.length_cons, Nat.pow_succ]
    ring

theorem big_read_lt (bytes : List Byte) : big.read bytes < 256 ^ bytes.length := by
  induction bytes with
  | nil => simp [read, littleEndian]
  | cons byte rest ih =>
    have small := byte.toNat_lt
    have step : byte.toNat * 256 ^ rest.length ≤ 255 * 256 ^ rest.length :=
      Nat.mul_le_mul_right _ (by omega)
    rw [big_read_cons, List.length_cons, Nat.pow_succ]
    omega

theorem write_read (order : ByteOrder) (bytes : List Byte) :
    order.write bytes.length (order.read bytes) = bytes := by
  cases order with
  | little => exact toLittleEndian_littleEndian bytes
  | big =>
    rw [write, read, ← List.length_reverse, toLittleEndian_littleEndian, List.reverse_reverse]

end ByteOrder

end SqlRelay.Foundation
