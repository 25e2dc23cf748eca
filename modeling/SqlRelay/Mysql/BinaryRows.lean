import SqlRelay.Protocol.LenEnc

/-!
# Binary rows

The rows of a result set that a prepared statement returns.  A row has a bitmap of the columns that are
null and behind it the other fields, each in the form that its type calls for.  A client takes the row
apart by the types of the column definitions.
-/

namespace SqlRelay.Mysql.BinaryRows

open SqlRelay.Foundation SqlRelay.Protocol

/-! ## Types -/

/-- The types of columns, `MYSQL_TYPE_DECIMAL` to `MYSQL_TYPE_GEOMETRY`. -/
inductive MysqlType where
  | decimal | tiny | short | long | float | double | null | timestamp | longlong | int24 | date | time
  | datetime | year | newdate | varchar | bit | timestamp2 | datetime2 | time2 | newdecimal | enum | set
  | tinyBlob | mediumBlob | longBlob | blob | varString | string | geometry
  deriving DecidableEq, Repr

/-- `dataTypeStrings` -/
def dataTypeStrings : List String :=
  ["UNKNOWN", "CHAR", "INT", "SMALLINT", "TINYINT", "MONEY", "DATETIME", "NUMERIC", "DECIMAL",
   "SMALLDATETIME", "SMALLMONEY", "IMAGE", "BINARY", "BIT", "REAL", "FLOAT", "TEXT",
   "VARCHAR", "VARBINARY", "LONGCHAR", "LONGBINARY", "LONG", "ILLEGAL", "SENSITIVITY",
   "BOUNDARY", "VOID", "USHORT", "UNDEFINED", "DOUBLE", "DATE", "TIME", "TIMESTAMP", "UINT",
   "LASTREAL", "STRING", "VARSTRING", "LONGLONG", "MEDIUMINT", "YEAR", "NEWDATE", "NULL",
   "ENUM", "SET", "TINYBLOB", "MEDIUMBLOB", "LONGBLOB", "BLOB", "VARCHAR2", "NUMBER", "ROWID",
   "RAW", "LONG_RAW", "MLSLABEL", "CLOB", "BFILE", "BIGINT", "INTEGER", "LONGVARBINARY",
   "LONGVARCHAR", "GRAPHIC", "VARGRAPHIC", "LONGVARGRAPHIC", "DBCLOB", "DATALINK",
   "USER_DEFINED_TYPE", "SHORT", "TINY", "D_FLOAT", "ARRAY", "QUAD", "INT64",
   "DOUBLE PRECISION", "BOOL", "BYTEA", "NAME", "INT8", "INT2", "INT2VECTOR", "INT4",
   "REGPROC", "OID", "TID", "XID", "CID", "OIDVECTOR", "SMGR", "POINT", "LSEG", "PATH", "BOX",
   "POLYGON", "LINE", "LINE_ARRAY", "FLOAT4", "FLOAT8", "ABSTIME", "RELTIME", "TINTERVAL",
   "CIRCLE", "CIRCLE_ARRAY", "MONEY_ARRAY", "MACADDR", "INET", "CIDR", "BOOL_ARRAY",
   "BYTEA_ARRAY", "CHAR_ARRAY", "NAME_ARRAY", "INT2_ARRAY", "INT2VECTOR_ARRAY", "INT4_ARRAY",
   "REGPROC_ARRAY", "TEXT_ARRAY", "OID_ARRAY", "TID_ARRAY", "XID_ARRAY", "CID_ARRAY",
   "OIDVECTOR_ARRAY", "BPCHAR_ARRAY", "VARCHAR_ARRAY", "INT8_ARRAY", "POINT_ARRAY",
   "LSEG_ARRAY", "PATH_ARRAY", "BOX_ARRAY", "FLOAT4_ARRAY", "FLOAT8_ARRAY", "ABSTIME_ARRAY",
   "RELTIME_ARRAY", "TINTERVAL_ARRAY", "POLYGON_ARRAY", "ACLITEM", "ACLITEM_ARRAY",
   "MACADDR_ARRAY", "INET_ARRAY", "CIDR_ARRAY", "BPCHAR", "TIMESTAMP_ARRAY", "DATE_ARRAY",
   "TIME_ARRAY", "TIMESTAMPTZ", "TIMESTAMPTZ_ARRAY", "INTERVAL", "INTERVAL_ARRAY",
   "NUMERIC_ARRAY", "TIMETZ", "TIMETZ_ARRAY", "BIT_ARRAY", "VARBIT", "VARBIT_ARRAY",
   "REFCURSOR", "REFCURSOR_ARRAY", "REGPROCEDURE", "REGOPER", "REGOPERATOR", "REGCLASS",
   "REGTYPE", "REGPROCEDURE_ARRAY", "REGOPER_ARRAY", "REGOPERATOR_ARRAY", "REGCLASS_ARRAY",
   "REGTYPE_ARRAY", "RECORD", "CSTRING", "ANY", "ANYARRAY", "TRIGGER", "LANGUAGE_HANDLER",
   "INTERNAL", "OPAQUE", "ANYELEMENT", "PG_TYPE", "PG_ATTRIBUTE", "PG_PROC", "PG_CLASS",
   "UBIGINT", "UNIQUEIDENTIFIER", "SMALLFLOAT", "BYTE", "BOOLEAN", "TINYTEXT", "MEDIUMTEXT",
   "LONGTEXT", "JSON", "GEOMETRY", "SDO_GEOMETRY", "NCHAR", "NVARCHAR", "NTEXT", "XML",
   "DATETIMEOFFSET", "LVARCHAR", "TIMESTAMPLTZ"]

/-- The types for the names, except for the last one. -/
def mysqltypemap : List MysqlType :=
  [.null, .string, .long, .short, .tiny, .newdecimal, .datetime, .newdecimal, .newdecimal,
   .datetime, .newdecimal, .blob, .blob, .tiny, .double, .float, .blob, .varString, .blob,
   .blob, .blob, .blob, .null, .string, .string, .null, .short, .null, .double, .date, .time,
   .timestamp, .long, .double, .string, .varString, .longlong, .int24, .year, .newdate, .null,
   .enum, .set, .blob, .blob, .blob, .blob, .varString, .newdecimal, .longlong, .blob, .blob,
   .blob, .blob, .blob, .longlong, .long, .blob, .blob, .blob, .blob, .blob, .blob, .string,
   .string, .short, .tiny, .double, .set, .set, .longlong, .double, .tiny, .blob, .string,
   .long, .short, .set, .long, .long, .long, .long, .long, .long, .set, .string, .string,
   .string, .string, .string, .string, .string, .set, .float, .double, .long, .long, .long,
   .string, .set, .set, .string, .string, .string, .set, .set, .set, .set, .set, .set, .set,
   .set, .set, .set, .set, .set, .set, .set, .set, .set, .set, .set, .set, .set, .set, .set,
   .set, .set, .set, .set, .set, .set, .set, .set, .set, .set, .string, .set, .set, .set,
   .string, .set, .long, .set, .set, .string, .set, .set, .string, .set, .long, .set, .long,
   .long, .long, .long, .long, .set, .set, .set, .set, .set, .set, .string, .string, .set,
   .string, .string, .string, .string, .string, .string, .string, .string, .string, .longlong,
   .string, .float, .blob, .tiny, .blob, .blob, .blob, .blob, .blob, .blob, .string,
   .varString, .blob, .blob, .datetime, .varString]

/-- Whether numbers without decimals are reported as `BIGINT`, and dates with their times. -/
structure TypeOptions where
  zeroscaledecimaltobigint : Bool
  datetodatetime : Bool

/-- The name of a type, up to a parenthesis as in `CHAR(40)`. -/
def typeName (columntypestring : List Byte) : List Byte :=
  columntypestring.takeWhile fun byte => byte != chr '('

def getColumnType (options : TypeOptions) (columntypestring : List Byte) (scale : Nat) : MysqlType :=
  let named := fun datatype : String =>
    (ascii datatype).map CString.toLowerCase == (typeName columntypestring).map CString.toLowerCase
  match dataTypeStrings.findIdx? named with
  | none => .null
  | some index =>
      match mysqltypemap[index]? with
      | none => .null
      | some retval =>
          if (retval = .decimal ∨ retval = .newdecimal) ∧ scale = 0 ∧
              options.zeroscaledecimaltobigint = true then .longlong
          else if retval = .date ∧ options.datetodatetime = true then .datetime
          else retval

/-! ## Fields -/

/-- What `datetime::parse` finds in a text. -/
structure DateTime where
  year : Int
  month : Int
  day : Int
  hour : Int
  minute : Int
  second : Int
  usec : Int

/-- The byte order of the host, and the library that reads numbers and dates, which is not part of the
repository.  Floating-point numbers are their bits. -/
structure Conversions where
  host : ByteOrder
  convertToInteger : List Byte → Int
  convertToDouble : List Byte → Nat
  convertToFloat : List Byte → Nat
  parse : List Byte → DateTime

/-- The text from the first place on where it begins with the literal. -/
def findFirst (literal : List Byte) : List Byte → Option (List Byte)
  | [] => none
  | byte :: rest =>
      if CString.startsWith (byte :: rest) literal then some (byte :: rest) else findFirst literal rest

section Build

variable (conversions : Conversions)

/-- `writeLE` of an integer of so many bytes. -/
def writeLE (size : Nat) (value : Int) : List Byte :=
  append conversions.host size
    (hostTo conversions.host .little size (value % 256 ^ size).toNat)

def writeLenEncStr (string : List Byte) : List Byte :=
  writeLenEncInt conversions.host (UInt64.ofNat string.length) ++ string

/-- A date, and the time of day unless the type is `MYSQL_TYPE_DATE`. -/
def buildDate (field : List Byte) (timed : Bool) : List Byte :=
  let value := conversions.parse field
  let date := writeLE conversions 2 value.year ++ writeLE conversions 1 value.month ++
    writeLE conversions 1 value.day
  if timed then
    11 :: date ++ writeLE conversions 1 value.hour ++ writeLE conversions 1 value.minute ++
      writeLE conversions 1 value.second ++ writeLE conversions 4 value.usec
  else 4 :: date

/-- A time, which may have a sign and days in front of it. -/
def buildTime (field : List Byte) : List Byte :=
  let isneg := CString.peek field = chr '-'
  let field := if isneg then field.drop 1 else field
  let (days, field) :=
    match findFirst (ascii "d ") field with
    | some found => (conversions.convertToInteger field, found.drop 2)
    | none => (0, field)
  let value := conversions.parse field
  12 :: (if isneg then 1 else 0) :: writeLE conversions 4 days ++ writeLE conversions 1 value.hour ++
    writeLE conversions 1 value.minute ++ writeLE conversions 1 value.second ++
    writeLE conversions 4 value.usec

def buildBinaryField (field : List Byte) : MysqlType → List Byte
  | .string | .varchar | .varString | .enum | .set | .geometry | .bit | .decimal | .newdecimal
  | .tinyBlob | .mediumBlob | .longBlob | .blob => writeLenEncStr conversions field
  | .longlong => writeLE conversions 8 (conversions.convertToInteger field)
  | .long | .int24 => writeLE conversions 4 (conversions.convertToInteger field)
  | .short | .year => writeLE conversions 2 (conversions.convertToInteger field)
  | .tiny => writeLE conversions 1 (conversions.convertToInteger field)
  | .double => writeLE conversions 8 (conversions.convertToDouble field)
  | .float => writeLE conversions 4 (conversions.convertToFloat field)
  | .date => buildDate conversions field false
  | .datetime | .timestamp => buildDate conversions field true
  | .time => buildTime conversions field
  | _ => []

/-- What has been read of a lob when there is no segment any more, of segments that may be larger than
`lobbuffer`. -/
def readLob : List (List Byte) → List Byte
  | [] => []
  | segment :: rest => if segment = [] then [] else segment.take 32768 ++ readLob rest

/-- What `getField` says about a column of the row, and the segments that its lob has. -/
structure Column where
  columntype : MysqlType
  field : List Byte
  lob : Bool
  null : Bool
  segments : List (List Byte)
  fieldsize : field.length < 2 ^ 64
  lobsize : (readLob segments).length < 2 ^ 64

def buildLobField (column : Column) : List Byte :=
  writeLenEncStr conversions (readLob column.segments)

/-- What is appended for a column behind the bitmap. -/
def buildField (column : Column) : List Byte :=
  if column.lob then buildLobField conversions column
  else if column.null then []
  else buildBinaryField conversions column.field column.columntype

/-- A row; the number of its columns is a `uint32_t`. -/
structure Row where
  columns : List Column
  colcount : columns.length < 2 ^ 32

/-- A column's bit of the bitmap, where there is one. -/
def setNull (nb : List Byte) (i : Nat) (null : Bool) : List Byte :=
  nb.modify ((i + 2) / 8) fun byte => byte ||| UInt8.ofNat (null.toNat <<< ((i + 2) % 8))

/-- The first pass over the columns, from column `i` on. -/
def fillBitmap : Nat → List Column → List Byte → List Byte
  | _, [], nb => nb
  | i, column :: rest, nb => fillBitmap (i + 1) rest (setNull nb i column.null)

/-- The number of bytes of the bitmap, which is a `uint16_t`. -/
def nullbitmapsize (row : Row) : Nat := (row.columns.length + 7 + 2) % 2 ^ 32 / 8 % 2 ^ 16

def buildBinaryRow (row : Row) : List Byte :=
  0 :: fillBitmap 0 row.columns (List.replicate (nullbitmapsize row) 0) ++
    row.columns.flatMap (buildField conversions)

end Build

/-! ## What a client reads -/

/-- The form of a value. -/
inductive Form where
  | sized (size : Nat)
  | lengthEncoded
  /-- One byte for the size, and so many bytes. -/
  | counted (sizes : List Byte)
  /-- There are no values of the type in a row. -/
  | absent
  deriving DecidableEq, Repr

/-- The forms of the types, in the binary protocol. -/
def MysqlType.form : MysqlType → Form
  | .string | .varchar | .varString | .enum | .set | .geometry | .bit | .decimal | .newdecimal
  | .tinyBlob | .mediumBlob | .longBlob | .blob => .lengthEncoded
  | .longlong | .double => .sized 8
  | .long | .int24 | .float => .sized 4
  | .short | .year => .sized 2
  | .tiny => .sized 1
  | .date | .datetime | .timestamp => .counted [0, 4, 7, 11]
  | .time => .counted [0, 8, 12]
  | .null | .newdate | .timestamp2 | .datetime2 | .time2 => .absent

/-- The number of bytes that a value takes at the front of these. -/
def Form.valueSize : Form → List Byte → Option Nat
  | .sized size, _ => some size
  | .lengthEncoded, bytes =>
      (decodeSize bytes).map fun split => bytes.length - split.2.length + split.1
  | .counted sizes, bytes =>
      bytes.head?.bind fun size => if size ∈ sizes then some (1 + size.toNat) else none
  | .absent, _ => none

/-- The column is null in the bitmap. -/
def isNull (nb : List Byte) (i : Nat) : Bool := (nb.getD ((i + 2) / 8) 0).toNat.testBit ((i + 2) % 8)

/-- The bytes of the fields, from column `i` on, and nothing behind the last one. -/
def decodeFields (nb : List Byte) : Nat → List MysqlType → List Byte → Option (List (Option (List Byte)))
  | _, [], bytes => if bytes = [] then some [] else none
  | i, columntype :: rest, bytes =>
      if isNull nb i then (decodeFields nb (i + 1) rest bytes).map (none :: ·)
      else
        match columntype.form.valueSize bytes with
        | none => none
        | some size =>
            if size ≤ bytes.length then
              (decodeFields nb (i + 1) rest (bytes.drop size)).map (some (bytes.take size) :: ·)
            else none

/-- The bytes of the fields of a packet whose columns are of these types. -/
def decodeRow (types : List MysqlType) (packet : List Byte) : Option (List (Option (List Byte))) :=
  match packet with
  | [] => none
  | header :: bytes =>
      let size := (types.length + 9) / 8
      if header = 0 ∧ size ≤ bytes.length then
        decodeFields (bytes.take size) 0 types (bytes.drop size)
      else none

/-- What is meant to be read of a column. -/
def Column.own (conversions : Conversions) (column : Column) : Option (List Byte) :=
  if column.null then none else some (buildField conversions column)

/-- A client reads each field that is not null from the bytes that have been written for it, and ends at
the end of the packet; and for those that are null nothing has been written. -/
structure Decodes (conversions : Conversions) (row : Row) : Prop where
  decoded : decodeRow (row.columns.map Column.columntype) (buildBinaryRow conversions row) =
    some (row.columns.map (Column.own conversions))
  nothing : ∀ column ∈ row.columns, column.null = true → buildField conversions column = []

/-- A lob whose bytes, with their size in front of them, are what its type calls for. -/
def LobFits (conversions : Conversions) (column : Column) : Prop :=
  match column.columntype.form with
  | .sized size => (buildLobField conversions column).length = size
  | .lengthEncoded => True
  | .counted sizes => (readLob column.segments).length ∈ sizes.map UInt8.toNat
  | .absent => False

/-- A column that is sent as its type and the bitmap say. -/
structure Column.Fine (conversions : Conversions) (column : Column) : Prop where
  null : column.null = true → column.lob = false
  field : column.null = false → column.lob = false → column.columntype.form ≠ .absent
  lob : column.null = false → column.lob = true → LobFits conversions column

/-! ## The bitmap -/

section Bitmap

@[simp] theorem length_setNull (nb : List Byte) (i : Nat) (null : Bool) :
    (setNull nb i null).length = nb.length :=
  List.length_modify _ _ _

@[simp] theorem length_fillBitmap (columns : List Column) (i : Nat) (nb : List Byte) :
    (fillBitmap i columns nb).length = nb.length := by
  induction columns generalizing i nb with
  | nil => rfl
  | cons column rest ih => rw [fillBitmap, ih, length_setNull]

/-- A bit is set on top of those that are. -/
theorem testBit_or_shiftLeft (byte : Byte) (null : Bool) {place : Nat} (inByte : place < 8)
    (bit : Nat) : (byte ||| UInt8.ofNat (null.toNat <<< place)).toNat.testBit bit =
      (byte.toNat.testBit bit || (null && place == bit)) := by
  have shifted : (UInt8.ofNat (null.toNat <<< place)).toNat = null.toNat <<< place := by
    rw [UInt8.toNat_ofNat', Nat.shiftLeft_eq]
    apply Nat.mod_eq_of_lt
    have small : null.toNat ≤ 1 := Bool.toNat_le null
    have power : 2 ^ place ≤ 2 ^ 7 := Nat.pow_le_pow_right (by decide) (by omega)
    exact Nat.lt_of_le_of_lt (Nat.mul_le_mul small power) (by decide)
  rw [UInt8.toNat_or, Nat.testBit_or, shifted, Nat.testBit_shiftLeft]
  congr 1
  cases null with
  | false => simp
  | true =>
      rw [Bool.toNat_true, Bool.true_and, Bool.eq_iff_iff, Bool.and_eq_true, decide_eq_true_eq,
        Nat.testBit_one_eq_true_iff_self_eq_zero, beq_iff_eq]
      omega

theorem isNull_setNull {nb : List Byte} (i : Nat) (null : Bool) {j : Nat}
    (inside : (j + 2) / 8 < nb.length) :
    isNull (setNull nb i null) j = (isNull nb j || (null && i == j)) := by
  have found := List.getElem?_eq_getElem inside
  rw [isNull, isNull, setNull, List.getD_eq_getElem?_getD, List.getD_eq_getElem?_getD,
    List.getElem?_modify, found, Option.map_eq_map, Option.map_some, Option.getD_some, Option.getD_some]
  by_cases sameByte : (i + 2) / 8 = (j + 2) / 8
  · have sameBit : ((i + 2) % 8 == (j + 2) % 8) = (i == j) := by
      rw [Bool.eq_iff_iff, beq_iff_eq, beq_iff_eq]
      omega
    rw [if_pos sameByte, testBit_or_shiftLeft _ _ (Nat.mod_lt _ (by decide)), sameBit]
  · have other : (i == j) = false := by
      rw [beq_eq_false_iff_ne]
      rintro rfl
      exact sameByte rfl
    rw [if_neg sameByte, other, Bool.and_false, Bool.or_false]

/-- The first pass sets the bits of the columns that are null, and no others. -/
theorem isNull_fillBitmap (columns : List Column) (i : Nat) {nb : List Byte} {j : Nat}
    (inside : (j + 2) / 8 < nb.length) : isNull (fillBitmap i columns nb) j =
      (isNull nb j || (decide (i ≤ j) && (columns[j - i]?.map Column.null).getD false)) := by
  induction columns generalizing i nb with
  | nil => simp [fillBitmap]
  | cons column rest ih =>
      rw [fillBitmap, ih (i + 1) (by rwa [length_setNull]), isNull_setNull i column.null inside,
        Bool.or_assoc]
      congr 1
      rcases Nat.lt_trichotomy i j with before | rfl | behind
      · have other : (i == j) = false := beq_eq_false_iff_ne.mpr (Nat.ne_of_lt before)
        have step : j - i = j - (i + 1) + 1 := by omega
        have next : i + 1 ≤ j := before
        rw [other, step, List.getElem?_cons_succ, decide_eq_true next, decide_eq_true before.le]
        simp
      · simp
      · have other : (i == j) = false := beq_eq_false_iff_ne.mpr (Nat.ne_of_gt behind)
        have notYet : ¬i ≤ j := by omega
        have notNext : ¬i + 1 ≤ j := by omega
        rw [other, decide_eq_false notYet, decide_eq_false notNext]
        simp

theorem isNull_zeros (size j : Nat) : isNull (List.replicate size 0) j = false := by
  have zero : (List.replicate size (0 : Byte)).getD ((j + 2) / 8) 0 = 0 := by
    rw [List.getD_eq_getElem?_getD, List.getElem?_replicate]
    split <;> rfl
  rw [isNull, zero]
  exact Nat.zero_testBit _

end Bitmap

/-! ## The sizes of the fields -/

section Sizes

variable (conversions : Conversions)

@[simp] theorem length_writeLE (size : Nat) (value : Int) :
    (writeLE conversions size value).length = size := by
  rw [writeLE, append_hostTo, ByteOrder.length_write]

/-- What a client makes of a size that the module has written. -/
theorem decodeSize_writeLenEncInt (host : ByteOrder) (value : UInt64) (rest : List Byte) :
    decodeSize (writeLenEncInt host value ++ rest) = some (value.toNat, rest) := by
  have split {count : Nat} {val : List Byte} (isCount : val.length = count) :
      splitExactly count (val ++ rest) = some (val, rest) := by
    rw [splitExactly, if_pos (by rw [List.length_append]; omega), ← isCount, List.take_left,
      List.drop_left]
  have encodes := writeLenEncInt_encodes host value
  generalize writeLenEncInt host value = bytes at encodes
  cases encodes with
  | @one marker small same =>
      have isSize : marker < 0xfb := UInt8.lt_iff_toNat_lt.mpr small
      rw [List.singleton_append, decodeSize, if_pos isSize, same]
  | two isTwo same =>
      rw [List.cons_append, decodeSize]
      simp [split isTwo, same]
  | three isThree same =>
      rw [List.cons_append, decodeSize]
      simp [split isThree, same]
  | eight isEight same =>
      rw [List.cons_append, decodeSize]
      simp [split isEight, same]

theorem valueSize_writeLenEncStr {string : List Byte} (fits : string.length < 2 ^ 64)
    (rest : List Byte) : Form.lengthEncoded.valueSize (writeLenEncStr conversions string ++ rest) =
      some (writeLenEncStr conversions string).length := by
  have size : (UInt64.ofNat string.length).toNat = string.length := by
    rw [UInt64.toNat_ofNat']
    exact Nat.mod_eq_of_lt fits
  rw [writeLenEncStr, List.append_assoc, Form.valueSize, decodeSize_writeLenEncInt, size]
  simp only [Option.map_some, List.length_append]
  congr 1
  omega

/-- A field that is sent has the size that its type calls for, and the others are not sent. -/
theorem valueSize_buildBinaryField {field : List Byte} (fits : field.length < 2 ^ 64)
    (columntype : MysqlType) (rest : List Byte) :
    columntype.form.valueSize (buildBinaryField conversions field columntype ++ rest) =
      if columntype.form = .absent then none
      else some (buildBinaryField conversions field columntype).length := by
  cases columntype with
  | string | varchar | varString | enum | set | geometry | bit | decimal | newdecimal | tinyBlob
  | mediumBlob | longBlob | blob => exact valueSize_writeLenEncStr conversions fits rest
  | longlong | double | long | int24 | float | short | year | tiny =>
      rw [buildBinaryField, length_writeLE]
      rfl
  | date | datetime | timestamp => simp [buildBinaryField, buildDate, MysqlType.form, Form.valueSize]
  | time => simp [buildBinaryField, buildTime, MysqlType.form, Form.valueSize]
  | null | newdate | timestamp2 | datetime2 | time2 => rfl

/-- Sizes below 251 are sent as they are, and larger ones begin with a mark. -/
theorem writeLenEncInt_head (host : ByteOrder) (value : UInt64) :
    ∃ marker more, writeLenEncInt host value = marker :: more ∧
      (value.toNat < 251 → marker.toNat = value.toNat ∧ more = []) ∧
      (251 ≤ value.toNat → 251 < marker.toNat) := by
  rw [writeLenEncInt]
  split
  case isTrue large =>
    have large : 16777216 ≤ value.toNat := UInt64.le_iff_toNat_le.mp large
    exact ⟨_, _, rfl, fun small => absurd small (by omega), fun _ => by decide⟩
  case isFalse =>
    split
    case isTrue large =>
      have large : 65536 ≤ value.toNat := UInt64.le_iff_toNat_le.mp large
      exact ⟨_, _, rfl, fun small => absurd small (by omega), fun _ => by decide⟩
    case isFalse =>
      split
      case isTrue large =>
        have large : 251 ≤ value.toNat := UInt64.le_iff_toNat_le.mp large
        exact ⟨_, _, rfl, fun small => absurd small (by omega), fun _ => by decide⟩
      case isFalse small =>
        have small : value.toNat < 251 := UInt64.lt_iff_toNat_lt.mp (UInt64.not_le.mp small)
        refine ⟨_, _, rfl, fun _ => ⟨?_, rfl⟩, fun large => absurd large (by omega)⟩
        rw [UInt64.toNat_toUInt8]
        omega

theorem counted_le (columntype : MysqlType) {sizes : List Byte}
    (form : columntype.form = .counted sizes) : ∀ size ∈ sizes, size.toNat ≤ 12 := by
  intro size listed
  cases columntype <;> cases form <;> simp only [List.mem_cons, List.not_mem_nil, or_false] at listed
  all_goals
    rcases listed with rfl | rfl | rfl | rfl <;> decide

/-- The marker of a long string is none of the sizes that a value is counted with. -/
theorem valueSize_counted_iff {columntype : MysqlType} {sizes : List Byte}
    (form : columntype.form = .counted sizes) {value : List Byte} (fits : value.length < 2 ^ 64)
    (rest : List Byte) :
    (Form.counted sizes).valueSize (writeLenEncStr conversions value ++ rest) =
        some (writeLenEncStr conversions value).length ↔
      value.length ∈ sizes.map UInt8.toNat := by
  have small := counted_le columntype form
  have size : (UInt64.ofNat value.length).toNat = value.length := by
    rw [UInt64.toNat_ofNat']
    exact Nat.mod_eq_of_lt fits
  rcases writeLenEncInt_head conversions.host (UInt64.ofNat value.length) with
    ⟨marker, more, written, short, long⟩
  rw [size] at short long
  rw [writeLenEncStr, written, Form.valueSize]
  simp only [List.cons_append, List.head?_cons, Option.bind_some, List.length_cons, List.length_append]
  by_cases isShort : value.length < 251
  · rcases short isShort with ⟨same, rfl⟩
    have member : marker ∈ sizes ↔ value.length ∈ sizes.map UInt8.toNat := by
      rw [← same]
      exact (List.mem_map_of_injective fun _ _ => UInt8.toNat_inj.mp).symm
    rw [← member, same, List.length_nil]
    split
    case isTrue listed => exact iff_of_true (congrArg some (by omega)) listed
    case isFalse other => exact iff_of_false nofun other
  · have mark := long (Nat.not_lt.mp isShort)
    have notMarker : marker ∉ sizes := by
      intro listed
      have bound := small marker listed
      omega
    have notLength : value.length ∉ sizes.map UInt8.toNat := by
      intro listed
      rcases List.mem_map.mp listed with ⟨size, inSizes, same⟩
      have bound := small size inSizes
      omega
    rw [if_neg notMarker]
    exact iff_of_false nofun notLength

/-- A lob is read as a value of its type if it fits. -/
theorem valueSize_buildLobField (column : Column) (rest : List Byte) :
    column.columntype.form.valueSize (buildLobField conversions column ++ rest) =
        some (buildLobField conversions column).length ↔
      LobFits conversions column := by
  rw [LobFits]
  cases form : column.columntype.form with
  | sized size =>
      rw [Form.valueSize, Option.some_inj]
      exact eq_comm
  | lengthEncoded =>
      exact iff_true_intro (valueSize_writeLenEncStr conversions column.lobsize rest)
  | counted sizes => exact valueSize_counted_iff conversions form column.lobsize rest
  | absent =>
      rw [Form.valueSize]
      simp

end Sizes

/-! ## Rows -/

section Rows

variable (conversions : Conversions)

/-- What a client reads is all there is. -/
theorem decodeFields_bytes {nb : List Byte} {i : Nat} {types : List MysqlType} {bytes : List Byte}
    {fields : List (Option (List Byte))} (decoded : decodeFields nb i types bytes = some fields) :
    bytes = (fields.map fun field => field.getD []).flatten := by
  induction types generalizing i bytes fields with
  | nil =>
      rw [decodeFields] at decoded
      split at decoded
      case isTrue empty =>
        cases decoded
        exact empty
      case isFalse => cases decoded
  | cons columntype rest ih =>
      rw [decodeFields] at decoded
      split at decoded
      case isTrue =>
        rcases Option.map_eq_some_iff.mp decoded with ⟨others, later, rfl⟩
        rw [List.map_cons, List.flatten_cons, ← ih later]
        rfl
      case isFalse =>
        split at decoded
        case h_1 => cases decoded
        case h_2 size _ =>
          split at decoded
          case isTrue =>
            rcases Option.map_eq_some_iff.mp decoded with ⟨others, later, rfl⟩
            rw [List.map_cons, List.flatten_cons, ← ih later, Option.getD_some,
              List.take_append_drop]
          case isFalse => cases decoded

theorem buildField_eq_own {column : Column} (nothing : column.null = true → buildField conversions column = []) :
    (column.own conversions).getD [] = buildField conversions column := by
  rw [Column.own]
  split
  case isTrue null => exact (nothing null).symm
  case isFalse => rfl

/-- Nothing is written for a null unless it is a lob. -/
theorem buildField_null_iff {column : Column} (null : column.null = true) :
    buildField conversions column = [] ↔ column.lob = false := by
  rw [buildField, null]
  cases column.lob with
  | false => exact iff_of_true rfl rfl
  | true =>
      rcases writeLenEncInt_head conversions.host (UInt64.ofNat (readLob column.segments).length) with
        ⟨marker, more, written, _, _⟩
      rw [if_pos rfl, buildLobField, writeLenEncStr, written]
      simp

/-- A field that is not null is read from its own bytes exactly if its column is fine. -/
theorem valueSize_buildField_iff {column : Column} (notNull : column.null = false) (rest : List Byte) :
    column.columntype.form.valueSize (buildField conversions column ++ rest) =
        some (buildField conversions column).length ↔
      column.Fine conversions := by
  cases isLob : column.lob with
  | true =>
      rw [buildField, isLob, if_pos rfl, valueSize_buildLobField]
      constructor
      · exact fun fits => ⟨fun null => absurd (notNull.symm.trans null) nofun,
          fun _ notLob => absurd (isLob.symm.trans notLob) nofun, fun _ _ => fits⟩
      · exact fun fine => fine.lob notNull isLob
  | false =>
      have written : buildField conversions column =
          buildBinaryField conversions column.field column.columntype := by
        rw [buildField, isLob, notNull]
        rfl
      rw [written, valueSize_buildBinaryField conversions column.fieldsize]
      constructor
      · intro same
        refine ⟨fun null => absurd (notNull.symm.trans null) nofun, fun _ _ absent => ?_,
          fun _ lob => absurd (isLob.symm.trans lob) nofun⟩
        rw [if_pos absent] at same
        cases same
      · intro fine
        rw [if_neg (fine.field notNull isLob)]

theorem fine_of_null {column : Column} (null : column.null = true) :
    column.Fine conversions ↔ column.lob = false := by
  constructor
  · exact fun fine => fine.null null
  · exact fun notLob => ⟨fun _ => notLob, fun notNull => absurd (null.symm.trans notNull) nofun,
      fun notNull => absurd (null.symm.trans notNull) nofun⟩

theorem map_cons_eq_some_iff {α : Type} {decoded : Option (List α)} {first other : α} {fields : List α} :
    decoded.map (first :: ·) = some (other :: fields) ↔ first = other ∧ decoded = some fields := by
  cases decoded with
  | none => simp
  | some others => simp

/-- A field is read from the bytes that have been written for it exactly if it is taken to be of their
size. -/
theorem fieldOfSize_iff {decode : List Byte → Option (List (Option (List Byte)))} {size : Nat}
    {field rest : List Byte} {others : List (Option (List Byte))} :
    (if size ≤ (field ++ rest).length then
        (decode ((field ++ rest).drop size)).map (some ((field ++ rest).take size) :: ·)
      else none) = some (some field :: others) ↔
      size = field.length ∧ decode rest = some others := by
  by_cases own : size = field.length
  · rw [own, if_pos (by rw [List.length_append]; omega), List.take_left, List.drop_left,
      map_cons_eq_some_iff, and_iff_right rfl, and_iff_right rfl]
  · apply iff_of_false _ fun both => own both.1
    split
    case isFalse => nofun
    case isTrue inside =>
      rw [map_cons_eq_some_iff, Option.some_inj]
      intro both
      have lengths := congrArg List.length both.1
      rw [List.length_take_of_le inside] at lengths
      exact own lengths

/-- With the right bits in the bitmap, the fields are read as they are meant to be exactly if their
columns are fine. -/
theorem decodeFields_iff {nb : List Byte} {i : Nat} {columns : List Column}
    (bits : ∀ j column, columns[j]? = some column → isNull nb (i + j) = column.null)
    (nothing : ∀ column ∈ columns, column.null = true → buildField conversions column = []) :
    decodeFields nb i (columns.map Column.columntype) (columns.flatMap (buildField conversions)) =
        some (columns.map (Column.own conversions)) ↔
      ∀ column ∈ columns, column.Fine conversions := by
  induction columns generalizing i with
  | nil => exact iff_of_true rfl (by simp)
  | cons column rest ih =>
      rw [List.forall_mem_cons] at nothing
      have first := bits 0 column rfl
      have later := @ih (i + 1) (fun j other found => by
        rw [Nat.add_assoc, Nat.add_comm 1]
        exact bits (j + 1) other found) nothing.2
      rw [Nat.add_zero] at first
      rw [List.map_cons, List.map_cons, List.flatMap_cons, decodeFields, first, List.forall_mem_cons,
        Column.own]
      cases null : column.null with
      | true =>
          rw [if_pos rfl, if_pos rfl, nothing.1 null, List.nil_append, ← later,
            fine_of_null conversions null, ← buildField_null_iff conversions null,
            and_iff_right (nothing.1 null), map_cons_eq_some_iff, and_iff_right rfl]
      | false =>
          rw [if_neg Bool.false_ne_true, if_neg Bool.false_ne_true, ← later,
            ← valueSize_buildField_iff conversions null (rest.flatMap (buildField conversions))]
          cases read : column.columntype.form.valueSize
              (buildField conversions column ++ rest.flatMap (buildField conversions)) with
          | none => exact iff_of_false nofun fun both => nomatch both.1
          | some size =>
              dsimp only
              rw [Option.some_inj]
              exact fieldOfSize_iff

theorem nullbitmapsize_eq_iff (row : Row) :
    nullbitmapsize row = (row.columns.length + 9) / 8 ↔ (row.columns.length + 9) / 8 < 2 ^ 16 := by
  have counted := row.colcount
  rw [nullbitmapsize]
  omega

theorem flatten_own {columns : List Column}
    (nothing : ∀ column ∈ columns, column.null = true → buildField conversions column = []) :
    ((columns.map (Column.own conversions)).map fun field => field.getD []).flatten =
      columns.flatMap (buildField conversions) := by
  rw [List.map_map, ← List.flatMap_def]
  exact List.flatMap_congr fun column listed => buildField_eq_own conversions (nothing column listed)

section Whole

variable (row : Row)

/-- The bitmap as it is sent. -/
def bitmap : List Byte := fillBitmap 0 row.columns (List.replicate (nullbitmapsize row) 0)

theorem length_bitmap : (bitmap row).length = nullbitmapsize row := by
  rw [bitmap, length_fillBitmap, List.length_replicate]

theorem isNull_bitmap (same : nullbitmapsize row = (row.columns.length + 9) / 8) {j : Nat}
    {column : Column} (found : row.columns[j]? = some column) :
    isNull (bitmap row) j = column.null := by
  have inside := (List.getElem?_eq_some_iff.mp found).1
  rw [bitmap, isNull_fillBitmap row.columns 0 (by rw [List.length_replicate]; omega), isNull_zeros,
    Nat.sub_zero, found]
  simp

theorem decodeRow_buildBinaryRow :
    decodeRow (row.columns.map Column.columntype) (buildBinaryRow conversions row) =
      let size := (row.columns.length + 9) / 8
      let bytes := bitmap row ++ row.columns.flatMap (buildField conversions)
      if size ≤ bytes.length then
        decodeFields (bytes.take size) 0 (row.columns.map Column.columntype) (bytes.drop size)
      else none := by
  rw [buildBinaryRow, List.cons_append, decodeRow, List.length_map, ← bitmap]
  simp

variable {conversions row}

/-- All that a client reads behind the bitmap is what has been written there. -/
theorem Decodes.nullbitmapsize_eq (decodes : Decodes conversions row) :
    nullbitmapsize row = (row.columns.length + 9) / 8 := by
  have decoded := decodes.decoded
  rw [decodeRow_buildBinaryRow] at decoded
  dsimp only at decoded
  split at decoded
  case isTrue enough =>
    have read := congrArg List.length (decodeFields_bytes decoded)
    rw [flatten_own conversions decodes.nothing, List.length_drop, List.length_append, length_bitmap] at read
    rw [List.length_append, length_bitmap] at enough
    omega
  case isFalse => cases decoded

theorem decodeRow_iff (same : nullbitmapsize row = (row.columns.length + 9) / 8)
    (nothing : ∀ column ∈ row.columns, column.null = true → buildField conversions column = []) :
    decodeRow (row.columns.map Column.columntype) (buildBinaryRow conversions row) =
        some (row.columns.map (Column.own conversions)) ↔
      ∀ column ∈ row.columns, column.Fine conversions := by
  have enough : (row.columns.length + 9) / 8 ≤
      (bitmap row ++ row.columns.flatMap (buildField conversions)).length := by
    rw [List.length_append, length_bitmap]
    omega
  rw [decodeRow_buildBinaryRow]
  dsimp only
  rw [if_pos enough, ← same, List.take_left' (length_bitmap row), List.drop_left' (length_bitmap row)]
  apply decodeFields_iff conversions _ nothing
  intro j column found
  rw [Nat.zero_add]
  exact isNull_bitmap row same found

theorem Decodes.fine (decodes : Decodes conversions row) :
    ∀ column ∈ row.columns, column.Fine conversions :=
  (decodeRow_iff decodes.nullbitmapsize_eq decodes.nothing).mp decodes.decoded

end Whole

/-- A client reads what is sent of a row exactly if the size of the bitmap does not wrap around and each
column is fine: no lob is null, no field has a type without values, and every lob has a type of the
length-encoded form, or is just as long as its type. -/
theorem decodes_iff_fine (row : Row) : Decodes conversions row ↔
    (row.columns.length + 9) / 8 < 2 ^ 16 ∧ ∀ column ∈ row.columns, column.Fine conversions := by
  rw [← nullbitmapsize_eq_iff]
  constructor
  · exact fun decodes => ⟨decodes.nullbitmapsize_eq, decodes.fine⟩
  · rintro ⟨same, fine⟩
    have nothing : ∀ column ∈ row.columns, column.null = true → buildField conversions column = [] :=
      fun column listed null =>
        (buildField_null_iff conversions null).mpr ((fine column listed).null null)
    exact ⟨(decodeRow_iff same nothing).mpr fine, nothing⟩

/-- A library that reads every number as 0. -/
def zeros : Conversions where
  host := .little
  convertToInteger _ := 0
  convertToDouble _ := 0
  convertToFloat _ := 0
  parse _ := ⟨0, 0, 0, 0, 0, 0, 0⟩

/-- A text of a type that the module does not know. -/
theorem not_decodes_unknown : ¬Decodes zeros
    ⟨[⟨getColumnType ⟨false, false⟩ (ascii "UNKNOWN") 0, ascii "a", false, false, [], by decide,
      by decide⟩], by decide⟩ :=
  fun decodes => (decodes.fine _ List.mem_cons_self).field rfl rfl rfl

set_option maxRecDepth 2000 in
/-- The types that are reported and have no values. -/
theorem getColumnType_absent {options : TypeOptions} {columntypestring : List Byte} {scale : Nat}
    {columntype : MysqlType} (reported : getColumnType options columntypestring scale = columntype)
    (absent : columntype.form = .absent) : columntype = .null ∨ columntype = .newdate := by
  have mapped : ∀ columntype ∈ mysqltypemap, columntype.form = .absent →
      columntype = .null ∨ columntype = .newdate := by decide
  rw [getColumnType] at reported
  split at reported
  case h_1 => exact Or.inl reported.symm
  case h_2 =>
    split at reported
    case h_1 => exact Or.inl reported.symm
    case h_2 retval found =>
      split at reported
      case isTrue =>
        subst reported
        cases absent
      case isFalse =>
        split at reported
        case isTrue =>
          subst reported
          cases absent
        case isFalse =>
          subst reported
          exact mapped _ (List.mem_of_getElem? found) absent

end Rows

end SqlRelay.Mysql.BinaryRows
