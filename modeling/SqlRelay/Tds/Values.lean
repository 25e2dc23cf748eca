import Mathlib.Algebra.Group.Int.Defs
import SqlRelay.Foundation.Decimal
import SqlRelay.Foundation.Reader

/-!
# Reading typed values

A value on the wire comes behind the information about its type.  A bulk load reads the information
about a column once, and the values of the column in every row; a parameter of a remote procedure call
brings both.  The two decoders were written separately.
-/

namespace SqlRelay.Tds.Values

open SqlRelay.Foundation

/-! ## Values as text -/

/-- `%0*lld` -/
def zeroPadded (width : Nat) (number : Int) : List Byte :=
  let sign := if number < 0 then [chr '-'] else []
  let printed := digits number.natAbs
  sign ++ (List.replicate (width - sign.length - printed.length) (chr '0') ++ printed)

/-- `charstring::printf` into a buffer of so many bytes. -/
def printed (buffersize : Nat) (text : List Byte) : List Byte := text.take (buffersize - 1)

/-- The sign and the magnitude of a decimal, with a point so many places from the right. -/
def bulkDecimal (ispositive : Byte) (val : List Byte) (scale : Nat) : List Byte :=
  let digits := printInteger (signed 64 (littleEndian val))
  let whole := digits.length - scale
  (if ispositive = 0 then [chr '-'] else []) ++
    if scale = 0 then digits
    else (if scale < digits.length then digits.take whole else [chr '0']) ++
      chr '.' :: (List.replicate (scale - digits.length) (chr '0') ++
        digits.drop (if scale < digits.length then whole else 0))

/-- The least number has no opposite, and stays as it is. -/
def bulkMoney (tenthousandths : Int) : List Byte :=
  let negative := decide (tenthousandths < 0)
  let amount := if negative then signed 64 ((-tenthousandths) % 2 ^ 64).toNat else tenthousandths
  (if negative then [chr '-'] else []) ++ digits (amount.tdiv 10000 % 2 ^ 64).toNat ++
    chr '.' :: printed 8 (zeroPadded 4 (amount.tmod 10000))

def mdays : List Nat := [31, 28, 31, 30, 31, 30, 31, 31, 30, 31, 30, 31]

def isLeapYear (year : Nat) : Bool :=
  year % 4 == 0 && (year % 100 != 0 || year % 400 == 0)

def yearDays (year : Nat) : Int := if isLeapYear year then 366 else 365

def monthDays (year month : Nat) : Int :=
  mdays.getD (month - 1) 0 + if month = 2 ∧ isLeapYear year = true then 1 else 0

/-- Back over the years, but not over the first one. -/
def yearsBack : Nat → Int → Nat × Int
  | year + 2, days =>
      if days < 0 then yearsBack (year + 1) (days + yearDays (year + 1)) else (year + 2, days)
  | year, days => (year, days)

/-- On over so many years at most. -/
def yearsOn : Nat → Nat → Int → Nat × Int
  | 0, year, days => (year, days)
  | count + 1, year, days =>
      if days < yearDays year then (year, days) else yearsOn count (year + 1) (days - yearDays year)

def monthsOn (year : Nat) : Nat → Nat → Int → Nat × Int
  | 0, month, days => (month, days)
  | count + 1, month, days =>
      if days < monthDays year month then (month, days)
      else monthsOn year count (month + 1) (days - monthDays year month)

/-- The date so many days from the start of a year. -/
def bulkYmd (days : Int) (startyear : Nat) : List Byte :=
  let (year, days) := yearsBack startyear days
  let (year, days) := yearsOn (9999 - year) year days
  let (month, days) := monthsOn year 11 1 days
  let day := if days < 0 then 1 else days + 1
  printed 16 (zeroPadded 4 year ++ chr '-' :: zeroPadded 2 month ++ chr '-' :: zeroPadded 2 day)

def bulkDateTime (dayssince1900 : Int) (threehundredths : Nat) : List Byte :=
  let seconds := threehundredths / 300
  let milliseconds := threehundredths % 300 * 1000 / 300
  bulkYmd dayssince1900 1900 ++
    printed 16 (chr ' ' :: zeroPadded 2 (seconds / 3600 : Nat) ++
      chr ':' :: zeroPadded 2 (seconds / 60 % 60 : Nat) ++
      chr ':' :: zeroPadded 2 (seconds % 60 : Nat) ++ chr '.' :: zeroPadded 3 milliseconds)

/-- How many increments a second has. -/
def units (scale : Nat) : Nat := 10 ^ scale % 2 ^ 64

/-- The time so many increments after midnight. -/
def bulkTime (increments scale : Nat) : List Byte :=
  let seconds := increments / units scale
  let fraction := digits (increments % units scale)
  printed 24 (zeroPadded 2 (seconds / 3600 : Nat) ++
      chr ':' :: zeroPadded 2 (seconds / 60 % 60 : Nat) ++ chr ':' :: zeroPadded 2 (seconds % 60 : Nat)) ++
    if scale = 0 then []
    else chr '.' :: (List.replicate (scale - fraction.length) (chr '0') ++ fraction)

/-- `%02X` -/
def hexByte (byte : Byte) : List Byte :=
  let hex := ascii "0123456789ABCDEF"
  [hex.getD (byte.toNat / 16) 0, hex.getD (byte.toNat % 16) 0]

def bulkGuid (g : List Byte) : List Byte :=
  let hex := fun i => hexByte (g.getD i 0)
  hex 3 ++ hex 2 ++ hex 1 ++ hex 0 ++ chr '-' :: (hex 5 ++ hex 4 ++ chr '-' :: (hex 7 ++ hex 6 ++
    chr '-' :: (hex 8 ++ hex 9 ++ chr '-' :: (hex 10 ++ hex 11 ++ hex 12 ++ hex 13 ++ hex 14 ++ hex 15))))

/-- The loop over the bytes of a guid in `paramValue`. -/
def paramGuid (g : List Byte) : List Byte :=
  let order := [3, 2, 1, 0, 5, 4, 7, 6, 8, 9, 10, 11, 12, 13, 14, 15]
  (List.range 16).flatMap fun i =>
    (if i = 4 ∨ i = 6 ∨ i = 8 ∨ i = 10 then [chr '-'] else []) ++ hexByte (g.getD (order.getD i 0) 0)

/-! ## Types -/

inductive TdsType where
  | null | int1 | bit | int2 | int4 | datetim4 | flt4 | money | datetime | flt8 | money4 | int8
  | guid | intN | decimal | numeric | bitN | decimalN | numericN | fltN | moneyN | datetimN
  | dateN | timeN | datetime2N | datetimeOffsetN
  | char | varchar | binary | varbinary
  | bigVarBin | bigVarChr | bigBinary | bigChar | nvarchar | nchar
  | longBinary | xml | udt | text | image | ntext | ssVariant | tvp
  deriving DecidableEq, Repr

namespace TdsType

def ofByte (byte : Byte) : Option TdsType :=
  match byte.toNat with
  | 0x1F => some null
  | 0x30 => some int1
  | 0x32 => some bit
  | 0x34 => some int2
  | 0x38 => some int4
  | 0x3A => some datetim4
  | 0x3B => some flt4
  | 0x3C => some money
  | 0x3D => some datetime
  | 0x3E => some flt8
  | 0x7A => some money4
  | 0x7F => some int8
  | 0x24 => some guid
  | 0x26 => some intN
  | 0x37 => some decimal
  | 0x3F => some numeric
  | 0x68 => some bitN
  | 0x6A => some decimalN
  | 0x6C => some numericN
  | 0x6D => some fltN
  | 0x6E => some moneyN
  | 0x6F => some datetimN
  | 0x28 => some dateN
  | 0x29 => some timeN
  | 0x2A => some datetime2N
  | 0x2B => some datetimeOffsetN
  | 0x2F => some char
  | 0x27 => some varchar
  | 0x2D => some binary
  | 0x25 => some varbinary
  | 0xA5 => some bigVarBin
  | 0xA7 => some bigVarChr
  | 0xAD => some bigBinary
  | 0xAF => some bigChar
  | 0xE7 => some nvarchar
  | 0xEF => some nchar
  | 0xE1 => some longBinary
  | 0xF1 => some xml
  | 0xF0 => some udt
  | 0x23 => some text
  | 0x22 => some image
  | 0x63 => some ntext
  | 0x62 => some ssVariant
  | 0xF3 => some tvp
  | _ => none

def isFixedLenType : TdsType → Bool
  | null | int1 | bit | int2 | int4 | datetim4 | flt4 | money | datetime | flt8 | money4 | int8 => true
  | _ => false

def isVarLenType (dbisase : Bool) : TdsType → Bool
  | guid | intN | decimal | numeric | bitN | decimalN | numericN | fltN | moneyN | datetimN => true
  | dateN | timeN | datetime2N | datetimeOffsetN | char | varchar | binary | varbinary => true
  | bigVarBin | bigVarChr | bigBinary | bigChar | nvarchar | nchar => true
  | xml | udt | text | image | ntext | ssVariant => true
  | longBinary => dbisase
  | _ => false

def isCollated : TdsType → Bool
  | bigChar | bigVarChr | text | ntext | nchar | nvarchar => true
  | _ => false

/-- The types whose values come behind a text pointer in a row. -/
def hasTextPointer : TdsType → Bool
  | text | ntext | image => true
  | _ => false

/-- The types whose values say how large they are, and of which concrete type. -/
def isSized : TdsType → Bool
  | intN | bitN | fltN | moneyN | datetimN => true
  | _ => false

/-- The type of a value of this size. -/
def concrete : TdsType → Nat → Option TdsType
  | intN, 1 => some int1
  | intN, 2 => some int2
  | intN, 4 => some int4
  | intN, 8 => some int8
  | bitN, 1 => some bit
  | fltN, 4 => some flt4
  | fltN, 8 => some flt8
  | moneyN, 4 => some money4
  | moneyN, 8 => some money
  | datetimN, 4 => some datetim4
  | datetimN, 8 => some datetime
  | _, _ => none

end TdsType

/-! ## Reading -/

/-- Why a decoder has given no value: it rejects the bytes, or divides by zero. -/
inductive Failure where
  | rejected
  | trapped
  deriving DecidableEq, Repr

/-- `readLE` of so many bytes, behind the check that they are there. -/
def readLE (size : Nat) (rp : List Byte) : Except Failure (Nat × List Byte) :=
  if rp.length < size then .error .rejected
  else .ok (littleEndian (rp.take size), rp.drop size)

/-- A length, of which one value means null, and as many bytes. -/
def readSized (lengthSize nullLength : Nat) (rp : List Byte) :
    Except Failure (Option (List Byte) × List Byte) := do
  let (size, rp) ← readLE lengthSize rp
  if size = nullLength then .ok (none, rp)
  else if rp.length < size then .error .rejected
  else .ok (some (rp.take size), rp.drop size)

/-- What is known of the type of a value beside the type itself. -/
structure TypeInfo where
  maxsize : Nat
  scale : Nat
  partlen : Bool
  deriving DecidableEq, Repr

structure Date where
  year : Int
  month : Int
  day : Int
  hour : Int
  minute : Int
  second : Int
  microsecond : Int
  deriving DecidableEq, Repr

/-- What is bound.  A number is bound as the double that its numeral is converted to, and a float by its
bits. -/
inductive Value where
  | null
  | nullBlob
  | integer (size : Nat) (value : Int)
  | float (size bits : Nat)
  | number (numeral : List Byte) (scale : Nat)
  | string (bytes : List Byte)
  | blob (bytes : List Byte)
  | date (date : Date)
  deriving DecidableEq, Repr

/-- The value, and the bytes behind it. -/
abbrev Decoded := Except Failure (Value × List Byte)

/-- What the decoders depend on: the version that was negotiated, whether the database is an ase, whether
a `char` is signed, how text is converted, and which texts `parseDateTime` takes for a date. -/
structure Decoder where
  negotiatedtdsversion : Nat
  dbisase : Bool
  signedChar : Bool
  ucs2ToUtf8 : List Byte → List Byte
  parseDateTime : List Byte → Option Date

/-- The names in an XML_INFO. -/
def skipNames : List Nat → List Byte → Except Failure (List Byte)
  | [], rp => .ok rp
  | lengthSize :: others, rp => do
      let (length, rp) ← readLE lengthSize rp
      if rp.length < 2 * length then .error .rejected else skipNames others (rp.drop (2 * length))

def parseXmlInfo (rp : List Byte) : Except Failure (List Byte) := do
  let (schemapresent, rp) ← readLE 1 rp
  if schemapresent = 0 then .ok rp else skipNames [1, 1, 2] rp

/-- The chunks of a value up to the one without a length; each one is in what was left. -/
def readChunks : Nat → List Byte → Except Failure (List Byte × List Byte)
  | 0, _ => .error .rejected
  | fuel + 1, rp => do
      let (chunksize, rp) ← readLE 4 rp
      if chunksize = 0 then .ok ([], rp)
      else if rp.length < chunksize then .error .rejected
      else
        let (data, rest) ← readChunks fuel (rp.drop chunksize)
        .ok (rp.take chunksize ++ data, rest)

namespace Decoder

variable (decoder : Decoder)

/-- Text of so many whole characters. -/
def ucs2 (bytes : List Byte) : Value :=
  .string (decoder.ucs2ToUtf8 (bytes.take (2 * (bytes.length / 2))))

def plpValue (tdstype : TdsType) (rp : List Byte) : Decoded := do
  let (totalsize, rp) ← readLE 8 rp
  if totalsize = 2 ^ 64 - 1 then
    .ok (if tdstype = .bigVarBin then .nullBlob else .null, rp)
  else
    let (data, rp) ← readChunks rp.length rp
    match tdstype with
    | .bigVarBin => .ok (.blob data, rp)
    | .nvarchar | .xml => .ok (decoder.ucs2 data, rp)
    | _ => .ok (.string data, rp)

/-- The collation, which nothing is done with. -/
def skipCollation (tdstype : TdsType) (rp : List Byte) : Except Failure (List Byte) :=
  if 710 ≤ decoder.negotiatedtdsversion ∧ tdstype.isCollated = true then
    if rp.length < 5 then .error .rejected else .ok (rp.drop 5)
  else .ok rp

/-- The size of a value of a type that has none of its own, and its concrete type; none for a null. -/
def resolve (tdstype : TdsType) (rp : List Byte) :
    Except Failure (Option TdsType × List Byte) :=
  if tdstype.isSized then do
    let (size, rp) ← readLE 1 rp
    if size = 0 then .ok (none, rp)
    else
      match tdstype.concrete size with
      | none => .error .rejected
      | some concrete => .ok (some concrete, rp)
  else .ok (some tdstype, rp)

end Decoder

end SqlRelay.Tds.Values
