import SqlRelay.BindSlots.Slot
import SqlRelay.Foundation.Wire

/-!
# Reading a bind into a slot

`getInputBinds`, `getOutputBinds` and `getInputOutputBinds` read one bind after the other into the slots of
a cursor.  Each type has a reader of its own, and each reader sets what it is about.
-/

namespace SqlRelay.BindSlots

open SqlRelay.Foundation

/-! ## The source -/

/-- What a bind is read with: the limits, the flags of nulls, and the memory.  `available` is the cursor
that `getCursor` gives. -/
structure Setting where
  bindFormat : Byte
  maxbindnamesize : UInt16
  maxstringbindvaluesize : UInt32
  maxlobbindvaluesize : UInt32
  nonNullBindValue : Int16
  nullBindValue : Int16
  bindpool : MemoryPool
  memory : UInt64 → List Byte
  available : Option UInt16

/-- Which array of the cursor a bind is read into. -/
inductive Kind where
  | input | output | inputOutput
  deriving DecidableEq, Repr

namespace Setting

variable (setting : Setting)

def getBindVarName : Receiver (List Byte) := do
  let bindnamesize ← Receiver.short
  if setting.maxbindnamesize < bindnamesize then Receiver.fail
  else do
    let name ← Receiver.bytes bindnamesize.toNat
    pure (setting.bindFormat :: name)

def getBindVarType : Receiver BindType := do
  let type ← Receiver.short
  pure (BindType.ofShort type)

def getBindSize (maxsize : UInt32) : Receiver UInt32 := do
  let valuesize ← Receiver.long
  if maxsize < valuesize then Receiver.fail else pure valuesize

/-- A buffer for a text and its terminator. -/
def buffer (text : List Byte) : Pointer :=
  (setting.bindpool.allocate (text.length + 1)).1.write (text ++ [0])

/-- A buffer full of zeros. -/
def zeroed (valuesize : UInt32) : Pointer :=
  (setting.bindpool.allocate (valuesize.toNat + 1)).1.write (List.replicate (valuesize.toNat + 1) 0)

def getNullBind (slot : Slot) : Slot :=
  { slot with
    value := { slot.value with first := setting.buffer [] }
    valuesize := 0
    isnull := setting.nullBindValue
    segmentlengths := none }

/-- A size, and a text of this size. -/
def readText (maxsize : UInt32) : Receiver (UInt32 × List Byte) := do
  let valuesize ← getBindSize maxsize
  let value ← Receiver.bytes valuesize.toNat
  pure (valuesize, value)

/-- `getStringBind` and `getLobBind` -/
def getTextBind (maxsize : UInt32) (slot : Slot) : Receiver Slot := do
  let text ← readText maxsize
  pure { slot with
    value := { slot.value with first := setting.buffer text.2 }
    valuesize := text.1
    isnull := setting.nonNullBindValue }

def getStringBind (slot : Slot) : Receiver Slot :=
  setting.getTextBind setting.maxstringbindvaluesize slot

def getLobBind (slot : Slot) : Receiver Slot := setting.getTextBind setting.maxlobbindvaluesize slot

def getIntegerBind (slot : Slot) : Receiver Slot := do
  let value ← Receiver.longLong
  pure { slot with value := { slot.value with first := ⟨value, setting.memory value⟩ } }

/-- The number, the precision and the scale. -/
def readDouble : Receiver (UInt64 × UInt32 × UInt32) := do
  let value ← Receiver.longLong
  let precision ← Receiver.long
  let scale ← Receiver.long
  pure (value, precision, scale)

def getDoubleBind (slot : Slot) : Receiver Slot := do
  let double ← readDouble
  pure { slot with value := { slot.value with
    first := ⟨double.1, setting.memory double.1⟩
    second := wordOfLongs double.2.1 double.2.2 } }

/-- The members of a date, as they lie in memory. -/
def readDate : Receiver Members := do
  let year ← Receiver.short
  let month ← Receiver.short
  let day ← Receiver.short
  let hour ← Receiver.short
  let minute ← Receiver.short
  let second ← Receiver.short
  let microsecond ← Receiver.long
  let size ← Receiver.short
  let tz ← Receiver.bytes size.toNat
  let isnegative ← Receiver.bool
  let date := wordOfShorts [year, month, day, hour]
  let time := wordOfShorts [minute, second, shortAt 0 microsecond.toUInt64, shortAt 1 microsecond.toUInt64]
  pure ⟨⟨date, setting.memory date⟩, time, some (tz ++ [0]), isnegative⟩

def getDateBind (slot : Slot) : Receiver Slot := do
  let date ← setting.readDate
  pure { slot with value := date, isnull := setting.nonNullBindValue }

/-- The value of an input bind.  A type that is none of these has none. -/
def getInputBind (slot : Slot) : Receiver Slot :=
  match slot.type with
  | .null | .nullBlob | .nullClob => pure (setting.getNullBind slot)
  | .string => setting.getStringBind slot
  | .integer => setting.getIntegerBind slot
  | .double => setting.getDoubleBind slot
  | .date => setting.getDateBind slot
  | .blob => setting.getLobBind slot
  | .clob => setting.getLobBind slot
  | .array => setting.getStringBind slot
  | _ => pure slot

/-- A reader, and then the null flag. -/
def notNull (reader : Slot → Receiver Slot) (slot : Slot) : Receiver Slot := do
  let slot ← reader slot
  pure { slot with isnull := setting.nonNullBindValue }

/-- A string that nothing has been put into. -/
def initString (slot : Slot) : Receiver Slot := do
  let valuesize ← getBindSize setting.maxstringbindvaluesize
  pure { slot with value := { slot.value with first := setting.zeroed valuesize }, valuesize }

def initLob (slot : Slot) : Receiver Slot := do
  let valuesize ← getBindSize setting.maxlobbindvaluesize
  pure { slot with valuesize }

/-- The id of a cursor is in the first short of the value. -/
def initCursor (slot : Slot) : Receiver Slot :=
  match setting.available with
  | none => Receiver.fail
  | some cursorid =>
      let first := slot.value.first.address
      let changed := first - (shortAt 0 first).toUInt64 + cursorid.toUInt64
      pure { slot with value := { slot.value with first := ⟨changed, setting.memory changed⟩ } }

/-- What is set of an output bind before the null flag. -/
def initOutputBind (slot : Slot) : Receiver Slot :=
  match slot.type with
  | .string => setting.initString slot
  | .double => pure { slot with value := { slot.value with second := 0 } }
  | .date => pure { slot with value := ⟨⟨0, setting.memory 0⟩, 0, none, false⟩ }
  | .blob | .clob => setting.initLob slot
  | .cursor => setting.initCursor slot
  | _ => pure slot

def getOutputBind : Slot → Receiver Slot := setting.notNull setting.initOutputBind

/-- A null among the input/output binds becomes a string that nothing has been put into. -/
def getNullString (slot : Slot) : Receiver Slot := do
  let slot ← setting.initString slot
  pure { slot with type := .string, isnull := setting.nullBindValue }

def getInputOutputBind (slot : Slot) : Receiver Slot :=
  match slot.type with
  | .null => setting.getNullString slot
  | .string => setting.getStringBind slot
  | .integer => setting.notNull setting.getIntegerBind slot
  | .double => setting.notNull setting.getDoubleBind slot
  | .date => setting.getDateBind slot
  | _ => pure slot

def getValue : Kind → Slot → Receiver Slot
  | .input => setting.getInputBind
  | .output => setting.getOutputBind
  | .inputOutput => setting.getInputOutputBind

/-- What stands before the value of a bind. -/
def getNameAndType : Receiver (List Byte × BindType) := do
  let name ← setting.getBindVarName
  let type ← getBindVarType
  pure (name, type)

/-- One bind. -/
def getBind (kind : Kind) (slot : Slot) : Receiver Slot := do
  let (name, type) ← setting.getNameAndType
  setting.getValue kind { slot with name, type }

end Setting

end SqlRelay.BindSlots
