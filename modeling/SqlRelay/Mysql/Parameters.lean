import SqlRelay.Foundation.Reader

/-!
# Binary parameters

The parameters of a COM_STMT_EXECUTE are a bitmap of nulls, a type for each, and the values of those
that are not null, one after the other.  The module reads most values without asking where the packet
ends, and looks at a type together with the flag in its high byte.
-/

namespace SqlRelay.Mysql

open SqlRelay.Foundation

/-- A `sqlrserverbindvar`.  The bytes of a floating-point number are not interpreted. -/
inductive BindVar where
  | null
  | nullBlob
  | integer (value : Int)
  | float (bytes : List Byte)
  | double (bytes : List Byte)
  | date (year month day hour minute second microsecond : Int) (isnegative : Bool)
  | blob (bytes : List Byte)
  | string (bytes : List Byte)
  deriving DecidableEq, Repr

/-- `*((char *)rp)`, where a `char` is signed. -/
def readChar (packet : Buffer) (reader : Reader) : Int × Reader :=
  let (bytes, reader) := Reader.read packet reader 1
  (signed 8 (littleEndian bytes), reader)

/-- `readLenEncInt`, which keeps to the packet. -/
def readLenEncInt (packet : Buffer) (reader : Reader) : Option (Nat × Reader) :=
  let left := packet.bytes.length - reader.rp
  if left = 0 then none
  else
    let marker := packet.byteAt reader.rp
    let wide := fun count =>
      if left < count + 1 then none
      else
        let (bytes, reader) := Reader.read packet reader (count + 1)
        some (littleEndian bytes.tail, reader)
    if marker = 0xfe then wide 8
    else if marker = 0xfd then wide 3
    else if marker = 0xfc then wide 2
    else some (marker.toNat, reader.advance 1)

/-- The bytes of a blob or a string, as many as its size says. -/
def readSized (packet : Buffer) (reader : Reader) : Option (List Byte × Reader) :=
  match readLenEncInt packet reader with
  | none => none
  | some (size, reader) =>
      if size > packet.bytes.length - reader.rp then none
      else some (Reader.read packet reader size)

def readTime (packet : Buffer) (reader : Reader) : BindVar × Reader :=
  let (size, reader) := readChar packet reader
  if size = 0 then (.date (-1) (-1) 0 0 0 0 0 false, reader)
  else
    let (isneg, reader) := readChar packet reader
    let (days, reader) := Reader.read packet reader 4
    let (hour, reader) := readChar packet reader
    let (minute, reader) := readChar packet reader
    let (second, reader) := readChar packet reader
    let day := signed 16 (littleEndian days)
    if size > 8 then
      let (ms, reader) := Reader.read packet reader 4
      (.date (-1) (-1) day hour minute second (signed 32 (littleEndian ms)) (isneg != 0), reader)
    else (.date (-1) (-1) day hour minute second 0 (isneg != 0), reader)

/-- The time parts are ignored. -/
def readDate (packet : Buffer) (reader : Reader) : BindVar × Reader :=
  let (size, reader) := readChar packet reader
  if size = 0 then (.date 0 0 0 (-1) (-1) (-1) (-1) false, reader)
  else
    let (year, reader) := Reader.read packet reader 2
    let (month, reader) := readChar packet reader
    let (day, reader) := readChar packet reader
    let bindvar := .date (signed 16 (littleEndian year)) month day (-1) (-1) (-1) (-1) false
    if size > 4 then
      if size > 7 then (bindvar, (reader.advance 3).advance 4) else (bindvar, reader.advance 3)
    else (bindvar, reader)

def readDateTime (packet : Buffer) (reader : Reader) : BindVar × Reader :=
  let (size, reader) := readChar packet reader
  if size = 0 then (.date 0 0 0 0 0 0 0 false, reader)
  else
    let (year, reader) := Reader.read packet reader 2
    let (month, reader) := readChar packet reader
    let (day, reader) := readChar packet reader
    let year := signed 16 (littleEndian year)
    if size > 4 then
      let (hour, reader) := readChar packet reader
      let (minute, reader) := readChar packet reader
      let (second, reader) := readChar packet reader
      if size > 7 then
        let (ms, reader) := Reader.read packet reader 4
        (.date year month day hour minute second (signed 32 (littleEndian ms)) false, reader)
      else (.date year month day hour minute second 0 false, reader)
    else (.date year month day 0 0 0 0 false, reader)

/-- The size of an integer of that type. -/
def integerSize (ptype : Nat) : Option Nat :=
  match ptype with
  | 0x01 => some 1
  | 0x02 => some 2
  | 0x03 => some 4
  | 0x08 => some 8
  | _ => none

def isBlobType (ptype : Nat) : Bool :=
  ptype = 0xf9 || ptype = 0xfa || ptype = 0xfb || ptype = 0xfc

/-- One value, by its type: all types that are not listed are read as strings. -/
def readValue (packet : Buffer) (ptype : Nat) (reader : Reader) : Option (BindVar × Reader) :=
  match integerSize ptype with
  | some size =>
      let (bytes, reader) := Reader.read packet reader size
      some (.integer (signed (8 * size) (littleEndian bytes)), reader)
  | none =>
      if ptype = 0x04 then
        let (bytes, reader) := Reader.read packet reader 4
        some (.float bytes, reader)
      else if ptype = 0x05 then
        let (bytes, reader) := Reader.read packet reader 8
        some (.double bytes, reader)
      else if ptype = 0x0b then some (readTime packet reader)
      else if ptype = 0x0a then some (readDate packet reader)
      else if ptype = 0x0c ∨ ptype = 0x07 then some (readDateTime packet reader)
      else if isBlobType ptype then
        (readSized packet reader).map fun read => (.blob read.1, read.2)
      else (readSized packet reader).map fun read => (.string read.1, read.2)

/-- The bit of parameter `i` in the bitmap. -/
def isNull (packet : Buffer) (nullbitmap i : Nat) : Bool :=
  (packet.byteAt (nullbitmap + i / 8)).toNat.testBit (i % 8)

/-- `bindParameters`, from parameter `i` on. -/
def bindParameters (packet : Buffer) (ptypes : Nat → Nat) (nullbitmap : Nat) :
    Nat → Nat → Reader → Option (List BindVar × Reader)
  | 0, _, reader => some ([], reader)
  | count + 1, i, reader =>
      let reader := { reader with
        inside := reader.inside && decide (nullbitmap + i / 8 < packet.bytes.length) }
      let bound :=
        if isNull packet nullbitmap i then
          some (if isBlobType (ptypes i) then BindVar.nullBlob else .null, reader)
        else readValue packet (ptypes i) reader
      match bound with
      | none => none
      | some (bindvar, reader) =>
          (bindParameters packet ptypes nullbitmap count (i + 1) reader).map fun rest =>
            (bindvar :: rest.1, rest.2)

/-! ## The encodings of the protocol -/

/-- The first so many bytes, and the rest. -/
def splitExactly (count : Nat) (bytes : List Byte) : Option (List Byte × List Byte) :=
  if count ≤ bytes.length then some (bytes.take count, bytes.drop count) else none

/-- A size that is one byte, or a marker and two, three or eight bytes. -/
def decodeSize : List Byte → Option (Nat × List Byte)
  | [] => none
  | marker :: rest =>
      let wide := fun count =>
        (splitExactly count rest).map fun split => (littleEndian split.1, split.2)
      if marker < 0xfb then some (marker.toNat, rest)
      else if marker = 0xfc then wide 2
      else if marker = 0xfd then wide 3
      else if marker = 0xfe then wide 8
      else none

def decodeSized (bytes : List Byte) : Option (List Byte × List Byte) :=
  match decodeSize bytes with
  | none => none
  | some (size, rest) => splitExactly size rest

/-- A time is no bytes, or a sign, the days, the time of day, and perhaps microseconds. -/
def decodeTime : List Byte → Option (BindVar × List Byte)
  | [] => none
  | size :: rest =>
      if size = 0 then some (.date (-1) (-1) 0 0 0 0 0 false, rest)
      else
        match rest with
        | isneg :: d0 :: d1 :: d2 :: d3 :: hour :: minute :: second :: rest =>
            let day := littleEndian [d0, d1, d2, d3]
            if size = 8 then
              some (.date (-1) (-1) day hour.toNat minute.toNat second.toNat 0 (isneg != 0), rest)
            else if size = 12 then
              (splitExactly 4 rest).map fun split =>
                (.date (-1) (-1) day hour.toNat minute.toNat second.toNat (littleEndian split.1)
                  (isneg != 0), split.2)
            else none
        | _ => none

/-- A date is no bytes, or the date, perhaps a time of day, and perhaps microseconds: without them, and
for a type without time parts, `part` stands for them. -/
def decodeDate (timed : Bool) : List Byte → Option (BindVar × List Byte)
  | [] => none
  | size :: rest =>
      let part : Int := if timed then 0 else -1
      if size = 0 then some (.date 0 0 0 part part part part false, rest)
      else
        match rest with
        | y0 :: y1 :: month :: day :: rest =>
            let year := littleEndian [y0, y1]
            if size = 4 then
              some (.date year month.toNat day.toNat part part part part false, rest)
            else
              match rest with
              | hour :: minute :: second :: rest =>
                  let value := fun microsecond : Int =>
                    if timed then
                      BindVar.date year month.toNat day.toNat hour.toNat minute.toNat second.toNat
                        microsecond false
                    else .date year month.toNat day.toNat part part part part false
                  if size = 7 then some (value 0, rest)
                  else if size = 11 then
                    (splitExactly 4 rest).map fun split => (value (littleEndian split.1), split.2)
                  else none
              | _ => none
        | _ => none

/-- A value of a type, which is the low byte of what the client sends.  The flag says whether an
integer is unsigned, and nothing about other types. -/
def decodeValue (ptype : Nat) (bytes : List Byte) : Option (BindVar × List Byte) :=
  let code := ptype % 256
  match integerSize code with
  | some size =>
      (splitExactly size bytes).map fun split =>
        let value := littleEndian split.1
        (.integer (if 0x8000 ≤ ptype then value else signed (8 * size) value), split.2)
  | none =>
      if code = 0x04 then (splitExactly 4 bytes).map fun split => (.float split.1, split.2)
      else if code = 0x05 then (splitExactly 8 bytes).map fun split => (.double split.1, split.2)
      else if code = 0x0b then decodeTime bytes
      else if code = 0x0a then decodeDate false bytes
      else if code = 0x0c ∨ code = 0x07 then decodeDate true bytes
      else if isBlobType code then (decodeSized bytes).map fun split => (.blob split.1, split.2)
      else (decodeSized bytes).map fun split => (.string split.1, split.2)

/-- The values of the parameters, from parameter `i` on. -/
def decodeParameters (null : Nat → Bool) (ptypes : Nat → Nat) :
    Nat → Nat → List Byte → Option (List BindVar)
  | 0, _, _ => some []
  | count + 1, i, bytes =>
      if null i then (decodeParameters null ptypes count (i + 1) bytes).map fun rest => .null :: rest
      else
        match decodeValue (ptypes i) bytes with
        | none => none
        | some (value, bytes) =>
            (decodeParameters null ptypes count (i + 1) bytes).map fun rest => value :: rest

end SqlRelay.Mysql
