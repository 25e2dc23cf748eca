import SqlRelay.Tds.Values

/-!
# The decoders of a bulk load and of a procedure call

`bulkTypeInfo` and `bulkValue` read a column of a bulk load, and `paramValue` reads a parameter of a
remote procedure call.  They take the same bytes for the same value, but for the text pointers that
values have in a row only, and for the types that one of them does not read as the other does.
-/

namespace SqlRelay.Tds.Values

open SqlRelay.Foundation

/-- What a value of a type is bound as if it is null. -/
def nullValue : TdsType → Value
  | .binary | .varbinary | .bigBinary | .bigVarBin | .image => .nullBlob
  | _ => .null

/-- A value of a size that stands in front of it. -/
def sizedValue (lengthSize nullLength : Nat) (absent : Value) (value : List Byte → Value)
    (rp : List Byte) : Decoded :=
  (readSized lengthSize nullLength rp).map fun (bytes, rest) => (bytes.elim absent value, rest)

/-- A value of a fixed size. -/
def fixedValue (size : Nat) (value : Nat → Value) (rp : List Byte) : Decoded :=
  (readLE size rp).map fun (number, rest) => (value number, rest)

/-- A value of two parts of the same size. -/
def pairValue (size : Nat) (value : Nat → Nat → Value) (rp : List Byte) : Decoded :=
  (readLE (2 * size) rp).map fun (_, rest) =>
    (value (littleEndian (rp.take size)) (littleEndian ((rp.drop size).take size)), rest)

def intValue (size : Nat) : List Byte → Decoded :=
  fixedValue size fun number => .integer size (signed (8 * size) number)

/-- A money has its upper half first. -/
def tenthousandths (high low : Nat) : Int := signed 64 (2 ^ 32 * high + low)

/-- What `bulkDecimal` prints of a sign and a magnitude. -/
def decimalValue (scale : Nat) (bytes : List Byte) : Value :=
  .number (bulkDecimal (bytes.headD 0) (bytes.tail.take 8) scale) scale

namespace Decoder

variable (decoder : Decoder)

/-! ## Bulk loads -/

/-- The sizes of a type that is not of a fixed size. -/
def bulkSizes (tdstype : TdsType) (rp : List Byte) : Except Failure (TypeInfo × List Byte) :=
  match tdstype with
  | .decimal | .numeric | .decimalN | .numericN =>
      match rp with
      | size :: _ :: scale :: rest => .ok (⟨size.toNat, scale.toNat, false⟩, rest)
      | _ => .error .rejected
  | .dateN => .ok (⟨0, 0, false⟩, rp)
  | .timeN | .datetime2N | .datetimeOffsetN => do
      let (scale, rp) ← readLE 1 rp
      .ok (⟨0, scale, false⟩, rp)
  | .ssVariant | .text | .ntext | .image => do
      let (size, rp) ← readLE 4 rp
      .ok (⟨size, 0, false⟩, rp)
  | .bigChar | .bigVarChr | .bigBinary | .bigVarBin | .nchar | .nvarchar | .udt => do
      let (size, rp) ← readLE 2 rp
      if size = 0xFFFF ∧ tdstype ≠ .udt then .ok (⟨0, 0, true⟩, rp) else .ok (⟨size, 0, false⟩, rp)
  | .xml => do
      let rp ← parseXmlInfo rp
      .ok (⟨0, 0, true⟩, rp)
  | _ => do
      let (size, rp) ← readLE 1 rp
      .ok (⟨size, 0, false⟩, rp)

/-- The type of a column, and what is known of it. -/
def bulkTypeInfo (rp : List Byte) : Except Failure (TdsType × TypeInfo × List Byte) :=
  match rp with
  | [] => .error .rejected
  | byte :: rp =>
      match TdsType.ofByte byte with
      | none => .error .rejected
      | some tdstype =>
          if tdstype.isFixedLenType then .ok (tdstype, ⟨0, 0, false⟩, rp)
          else if tdstype.isVarLenType decoder.dbisase then do
            let (info, rp) ← bulkSizes tdstype rp
            let rp ← decoder.skipCollation tdstype rp
            .ok (tdstype, info, rp)
          else .error .rejected

/-- The text pointer and the timestamp in front of a value; none if there is a zero in their place. -/
def skipTextPointer (rp : List Byte) : Except Failure (Option Unit × List Byte) := do
  let (ptrsize, rp) ← readLE 1 rp
  if ptrsize = 0 then .ok (none, rp)
  else if rp.length < ptrsize + 8 then .error .rejected
  else .ok (some (), rp.drop (ptrsize + 8))

/-- The text of a date and a time in so many bytes. -/
def bulkDateTime2 (tdstype : TdsType) (scale : Nat) (bytes : List Byte) : List Byte :=
  let timesize := min (if scale ≤ 2 then 3 else if scale ≤ 4 then 4 else 5) bytes.length
  let increments := littleEndian (bytes.take timesize)
  (if tdstype ≠ .timeN ∧ timesize + 3 ≤ bytes.length then
      bulkYmd (littleEndian ((bytes.drop timesize).take 3)) 1 ++ [chr ' ']
    else []) ++ bulkTime increments scale

/-- The value of a concrete type. -/
def bulkData (scale : Nat) (tdstype : TdsType) (rp : List Byte) : Decoded :=
  match tdstype with
  | .int1 | .bit => fixedValue 1 (fun number => .integer 1 number) rp
  | .int2 => intValue 2 rp
  | .int4 => intValue 4 rp
  | .int8 => intValue 8 rp
  | .flt4 => fixedValue 4 (.float 4) rp
  | .flt8 => fixedValue 8 (.float 8) rp
  | .money => pairValue 4 (fun high low => .string (bulkMoney (tenthousandths high low))) rp
  | .money4 => fixedValue 4 (fun number => .string (bulkMoney (signed 32 number))) rp
  | .datetim4 =>
      pairValue 2 (fun days minutes => .string (bulkDateTime days (minutes * 60 * 300))) rp
  | .datetime => pairValue 4 (fun days time => .string (bulkDateTime (signed 32 days) time)) rp
  | .guid =>
      -- no length of one byte means null
      sizedValue 1 256 .null (fun g => if g.length = 16 then .string (bulkGuid g) else .null) rp
  | .decimal | .numeric | .decimalN | .numericN => sizedValue 1 0 .null (decimalValue scale) rp
  | .dateN =>
      sizedValue 1 0 .null (fun bytes => .string (bulkYmd (littleEndian (bytes.take 3)) 1)) rp
  | .timeN | .datetime2N | .datetimeOffsetN => do
      let (bytes, rest) ← readSized 1 0 rp
      match bytes with
      | none => .ok (.null, rest)
      | some bytes =>
          if units scale = 0 then .error .trapped
          else .ok (.string (bulkDateTime2 tdstype scale bytes), rest)
  | .char | .varchar => sizedValue 1 0 .null .string rp
  | .binary | .varbinary => sizedValue 1 0 .nullBlob .blob rp
  | .bigChar | .bigVarChr => sizedValue 2 0xFFFF .null .string rp
  | .bigBinary | .bigVarBin => sizedValue 2 0xFFFF .nullBlob .blob rp
  | .nchar | .nvarchar => sizedValue 2 0xFFFF .null decoder.ucs2 rp
  | .ntext => sizedValue 4 0xFFFFFFFF .null decoder.ucs2 rp
  | .image => sizedValue 4 0xFFFFFFFF .nullBlob .blob rp
  | .text | .ssVariant => sizedValue 4 0xFFFFFFFF .null .string rp
  | _ => .error .rejected

/-- `bulkValue` behind the text pointer, if there was one. -/
def bulkTyped (tdstype : TdsType) (info : TypeInfo) (rp : List Byte) : Decoded := do
  let (concrete, rp) ← resolve tdstype rp
  match concrete with
  | none => .ok (nullValue tdstype, rp)
  | some concrete => decoder.bulkData info.scale concrete rp

def bulkValue (tdstype : TdsType) (info : TypeInfo) (rp : List Byte) : Decoded :=
  if info.partlen then decoder.plpValue tdstype rp
  else if tdstype.hasTextPointer then do
    let (pointer, rp) ← skipTextPointer rp
    match pointer with
    | none => .ok (nullValue tdstype, rp)
    | some () => decoder.bulkTyped tdstype info rp
  else decoder.bulkTyped tdstype info rp

/-- `bulkTypeInfo` and then `bulkValue`. -/
def bulkDecode (rp : List Byte) : Decoded := do
  let (tdstype, info, rp) ← decoder.bulkTypeInfo rp
  decoder.bulkValue tdstype info rp

/-! ## Parameters -/

/-- The maxsize of a type that is not of a fixed size, and whether there is none. -/
def paramMaxsize (tdstype : TdsType) (rp : List Byte) : Except Failure (Nat × Bool × List Byte) :=
  match tdstype with
  | .ssVariant | .text | .ntext | .image => do
      let (maxsize, rp) ← readLE 4 rp
      .ok (maxsize, false, rp)
  | .bigChar | .bigVarChr | .nchar | .nvarchar | .bigBinary | .bigVarBin => do
      let (size, rp) ← readLE 2 rp
      if size = 0xFFFF then .ok (0, true, rp) else .ok (size, false, rp)
  | .xml => do
      let rp ← parseXmlInfo rp
      .ok (0, true, rp)
  | .dateN | .timeN | .datetime2N | .datetimeOffsetN => .ok (0, false, rp)
  | _ => do
      let (maxsize, rp) ← readLE 1 rp
      .ok (maxsize, false, rp)

/-- A byte that only some types have. -/
def readByteIf (there : Bool) (rp : List Byte) : Except Failure (Nat × List Byte) :=
  if there then readLE 1 rp else .ok (0, rp)

def hasPrecision : TdsType → Bool
  | .numeric | .numericN | .decimal | .decimalN => true
  | _ => false

def hasScale : TdsType → Bool
  | .numeric | .numericN | .decimal | .decimalN | .timeN | .datetime2N | .datetimeOffsetN => true
  | _ => false

/-- The maxsize, the precision and the scale of a parameter. -/
def paramSizes (tdstype : TdsType) (rp : List Byte) : Except Failure (TypeInfo × List Byte) := do
  let (maxsize, partlen, rp) ← paramMaxsize tdstype rp
  let (_, rp) ← readByteIf (hasPrecision tdstype) rp
  let (scale, rp) ← readByteIf (hasScale tdstype) rp
  .ok (⟨maxsize, scale, partlen⟩, rp)

/-- How many bytes a value is padded with. -/
def padding (pads : Bool) (maxsize limit size : Nat) : Nat :=
  if pads = true ∧ size < maxsize ∧ maxsize ≤ limit then maxsize - size else 0

def blankPadded (count : Nat) (bytes : List Byte) : List Byte :=
  bytes ++ List.replicate count (chr ' ')

def zeroBytes (count : Nat) (bytes : List Byte) : List Byte := bytes ++ List.replicate count 0

/-- `moneyValue` -/
def moneyValue (tenthousandths : Int) : Value := .number (bulkMoney tenthousandths) 4

/-- `dateTimeValue`: the value stays null if the text is not taken for a date. -/
def dateTimeValue (dayssince1900 : Int) (threehundredths : Nat) : Value :=
  match decoder.parseDateTime (bulkDateTime dayssince1900 threehundredths) with
  | none => .null
  | some date => .date date

/-- The value of a concrete type. -/
def paramData (info : TypeInfo) (tdstype : TdsType) (rp : List Byte) : Decoded :=
  match tdstype with
  | .null => .ok (.null, rp)
  | .int1 | .bit =>
      fixedValue 1
        (fun number => .integer 1 (if decoder.signedChar then signed 8 number else number)) rp
  | .int2 => intValue 2 rp
  | .int4 => intValue 4 rp
  | .int8 => intValue 8 rp
  | .flt4 => fixedValue 4 (.float 4) rp
  | .flt8 => fixedValue 8 (.float 8) rp
  | .money => pairValue 4 (fun high low => moneyValue (tenthousandths high low)) rp
  | .money4 => fixedValue 4 (fun number => moneyValue (signed 32 number)) rp
  | .datetim4 => pairValue 2 (fun days minutes => decoder.dateTimeValue days (minutes * 60 * 300)) rp
  | .datetime => pairValue 4 (fun days time => decoder.dateTimeValue (signed 32 days) time) rp
  | .guid =>
      sizedValue 1 256 .null (fun g => if g.length = 16 then .string (paramGuid g) else .null) rp
  | .decimalN | .numericN => do
      let (size, rp) ← readLE 1 rp
      if size = 0 then .ok (.null, rp)
      else if 17 < size then .error .rejected
      else if rp.length < size then .error .rejected
      else .ok (decimalValue info.scale (rp.take size), rp.drop size)
  | .decimal | .numeric =>
      if rp.length < 17 then .error .rejected
      else .ok (decimalValue info.scale (rp.take 17), rp.drop 17)
  | .dateN | .timeN | .datetime2N | .datetimeOffsetN => sizedValue 1 0 .null (fun _ => .null) rp
  | .char | .varchar => sizedValue 1 0 .null .string rp
  | .longBinary =>
      if decoder.dbisase then sizedValue 1 0 .nullBlob .blob rp else .error .rejected
  | .binary | .varbinary =>
      sizedValue 1 0 .nullBlob (fun bytes => .blob (zeroBytes
        (padding (tdstype = .binary) info.maxsize 8000 bytes.length) bytes)) rp
  | .bigBinary | .bigVarBin =>
      sizedValue 2 0xFFFF .nullBlob (fun bytes => .blob (zeroBytes
        (padding (tdstype = .bigBinary) info.maxsize 8000 bytes.length) bytes)) rp
  | .bigChar | .bigVarChr =>
      sizedValue 2 0xFFFF .null (fun bytes => .string (blankPadded
        (padding (tdstype = .bigChar) info.maxsize 8000 bytes.length) bytes)) rp
  | .nchar | .nvarchar =>
      sizedValue 2 0xFFFF .null (fun bytes =>
        let count :=
          if tdstype = .nchar ∧ bytes.length / 2 < info.maxsize / 2 ∧ info.maxsize ≤ 8000 then
            info.maxsize / 2 - bytes.length / 2
          else 0
        .string (blankPadded count (decoder.ucs2ToUtf8 (bytes.take (2 * (bytes.length / 2)))))) rp
  | .xml | .text => sizedValue 4 0xFFFFFFFF .null .string rp
  | .ntext => sizedValue 4 0xFFFFFFFF .null decoder.ucs2 rp
  | .image => sizedValue 4 0xFFFFFFFF .nullBlob .blob rp
  | .ssVariant => sizedValue 4 0xFFFFFFFF .null (fun _ => .null) rp
  | _ => .error .rejected

/-- What is behind the type of a parameter.  A type that is not known has no sizes. -/
def paramTyped (tdstype : TdsType) (rp : List Byte) : Decoded := do
  let (info, rp) ←
    if !tdstype.isFixedLenType && tdstype.isVarLenType decoder.dbisase then paramSizes tdstype rp
    else .ok (⟨0, 0, false⟩, rp)
  let (concrete, rp) ← resolve tdstype rp
  let concrete := concrete.getD .null
  let rp ← decoder.skipCollation concrete rp
  if info.partlen = true ∧ concrete ≠ .null then decoder.plpValue concrete rp
  else decoder.paramData info concrete rp

def paramValue (rp : List Byte) : Decoded :=
  match rp with
  | [] => .error .rejected
  | byte :: rp =>
      match TdsType.ofByte byte with
      | none => .error .rejected
      | some tdstype => decoder.paramTyped tdstype rp

end Decoder

end SqlRelay.Tds.Values
