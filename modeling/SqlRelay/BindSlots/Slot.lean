import Mathlib.Algebra.Group.Nat.Defs
import Mathlib.Data.List.Basic
import SqlRelay.Foundation.CString

/-!
# Bind slots

A cursor of the server has its binds in arrays that live as long as it does.  A slot of an array is used
for one bind after the other, in place, and the members of the value of a bind lie over each other.  The
texts of a bind are in a memory pool, which is cleared, but not zeroed.
-/

namespace SqlRelay.BindSlots

open SqlRelay.Foundation

/-! ## Memory -/

/-- An address, and the memory from there on. -/
structure Pointer where
  address : UInt64
  memory : List Byte
  deriving DecidableEq, Repr

/-- The memory that is not in use still holds what it has been used for. -/
structure MemoryPool where
  next : UInt64
  residue : Nat → Byte

namespace MemoryPool

def allocate (pool : MemoryPool) (size : Nat) : Pointer × MemoryPool :=
  (⟨pool.next, (List.range size).map pool.residue⟩,
    ⟨pool.next + UInt64.ofNat size, fun position => pool.residue (size + position)⟩)

end MemoryPool

namespace Pointer

def write (pointer : Pointer) (written : List Byte) : Pointer :=
  { pointer with memory := written ++ pointer.memory.drop written.length }

/-- `charstring::copy` ends behind the first NUL of the source. -/
def copy (pointer : Pointer) (source : List Byte) : Pointer :=
  pointer.write (CString.contents source ++ [0])

@[simp] theorem memory_write (pointer : Pointer) (written : List Byte) :
    (pointer.write written).memory = written ++ pointer.memory.drop written.length := rfl

end Pointer

/-! ## Slots -/

/-- `sqlrserverbindvartype_t`, as it is read from the wire. -/
inductive BindType where
  | null | string | integer | double | blob | clob | cursor | date
  | delimiter | newline
  | array | nullBlob | nullClob
  | other (code : UInt16)
  deriving DecidableEq, Repr

def BindType.ofShort : UInt16 → BindType
  | 0 => .null
  | 1 => .string
  | 2 => .integer
  | 3 => .double
  | 4 => .blob
  | 5 => .clob
  | 6 => .cursor
  | 7 => .date
  | 8 => .delimiter
  | 9 => .newline
  | 10 => .array
  | 11 => .nullBlob
  | 12 => .nullClob
  | code => .other code

/-- The union of the members of a value.  `stringval` and `integerval` are its first word, as is the number
of a double; what else a double has is in its second word.  A date has its shorts in the first word and a
half of the second one.  Only a date reaches beyond the second word. -/
structure Members where
  first : Pointer
  second : UInt64
  tz : Option (List Byte)
  isnegative : Bool
  deriving DecidableEq, Repr

/-- A value by the member that its type says. -/
inductive Value where
  | text (bytes : List Byte)
  | integer (value : UInt64)
  | double (value : UInt64) (precision scale : UInt32)
  | date (year month day hour minute second : UInt16) (microsecond : UInt32) (tz : Option (List Byte))
      (isnegative : Bool)
  | cursor (cursorid : UInt16)
  | members (value : Members)
  deriving DecidableEq, Repr

/-- The `index`th short of a word, as it lies in memory. -/
def shortAt (index : Nat) (word : UInt64) : UInt16 := UInt16.ofNat (word.toNat / 65536 ^ index)

/-- A half of a word. -/
def longAt (index : Nat) (word : UInt64) : UInt32 := UInt32.ofNat (word.toNat / 4294967296 ^ index)

def wordOfShorts (shorts : List UInt16) : UInt64 :=
  UInt64.ofNat (shorts.foldr (fun short sum => short.toNat + 65536 * sum) 0)

def wordOfLongs (low high : UInt32) : UInt64 := UInt64.ofNat (low.toNat + 4294967296 * high.toNat)

structure Slot where
  /-- As many bytes as `variablesize` says. -/
  name : List Byte
  type : BindType
  value : Members
  valuesize : UInt32
  isnull : Int16
  /-- NULL, or as many lengths as `segmentcount` says. -/
  segmentlengths : Option (List UInt32)
  deriving DecidableEq, Repr

namespace Slot

/-- A text has as many bytes as `valuesize` says, and a time zone is a C string. -/
def view (slot : Slot) : Value :=
  match slot.type with
  | .null | .nullBlob | .nullClob | .string | .array | .blob | .clob =>
      .text (slot.value.first.memory.take slot.valuesize.toNat)
  | .integer => .integer slot.value.first.address
  | .double =>
      .double slot.value.first.address (longAt 0 slot.value.second) (longAt 1 slot.value.second)
  | .date =>
      .date (shortAt 0 slot.value.first.address) (shortAt 1 slot.value.first.address)
        (shortAt 2 slot.value.first.address) (shortAt 3 slot.value.first.address)
        (shortAt 0 slot.value.second) (shortAt 1 slot.value.second) (longAt 1 slot.value.second)
        (slot.value.tz.map CString.contents) slot.value.isnegative
  | .cursor => .cursor (shortAt 0 slot.value.first.address)
  | .delimiter | .newline | .other _ => .members slot.value

end Slot

end SqlRelay.BindSlots
