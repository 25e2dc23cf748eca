import SqlRelay.Foundation.Named
import SqlRelay.Foundation.Wire

/-!
# Output binds between server and client

The client defines its output binds by name and type.  Those that are not found in the query are not
sent.  The server sends back the values of the binds that it has been sent, one after the other and
without their names, and the client puts the values into its variables, one after the other as well.
-/

namespace SqlRelay.OutputBinds

open SqlRelay.Foundation

def NULL_DATA : UInt16 := 0
def STRING_DATA : UInt16 := 1
def START_LONG_DATA : UInt16 := 2
def END_LONG_DATA : UInt16 := 3
def CURSOR_DATA : UInt16 := 4
def INTEGER_DATA : UInt16 := 5
def DOUBLE_DATA : UInt16 := 6
def DATE_DATA : UInt16 := 7
def END_BIND_VARS : UInt16 := 8

/-! ## Definitions -/

/-- The type of an output bind.  A string has the size of its buffer. -/
inductive BindType where
  | string (valuesize : UInt32)
  | integer
  | double
  | date
  | blob
  | clob
  | cursor
  deriving DecidableEq

/-- How a variable is defined, and whether it is sent. -/
structure Defined where
  type : BindType
  send : Bool
  deriving DecidableEq

/-- The output binds of a cursor, no two of which have the same name. -/
structure Binds where
  definitions : List (List Byte × Defined)
  nodup : (Named.names definitions).Nodup

namespace Binds

def cleared : Binds := ⟨[], List.nodup_nil⟩

/-- `defineOutputBindGeneric` -/
def defineOutputBind (binds : Binds) (name : List Byte) (type : BindType) : Binds :=
  if name = [] then binds
  else ⟨Named.set name ⟨type, true⟩ binds.definitions, Named.nodup_names_set binds.nodup⟩

/-- Whether a variable is found in the query decides whether it is sent, unless its name is a position. -/
def validate (isInteger validateBind : List Byte → Bool) (definition : List Byte × Defined) :
    List Byte × Defined :=
  if isInteger definition.1 then definition
  else (definition.1, { definition.2 with send := validateBind definition.1 })

theorem names_validate (isInteger validateBind : List Byte → Bool)
    (definitions : List (List Byte × Defined)) :
    Named.names (definitions.map (validate isInteger validateBind)) = Named.names definitions := by
  rw [Named.names, Named.names, List.map_map]
  apply List.map_congr_left
  intro definition _
  rw [Function.comp_apply, validate]
  split <;> rfl

/-- `validateBinds`, as far as the output binds go. -/
def validateBinds (isInteger validateBind : List Byte → Bool) (binds : Binds) : Binds where
  definitions := binds.definitions.map (validate isInteger validateBind)
  nodup := by
    rw [names_validate]
    exact binds.nodup

/-- The count is a short. -/
def total (binds : Binds) : Nat := binds.definitions.length % 65536

/-- The variables that `sendOutputBinds` looks at. -/
def considered (binds : Binds) : List (List Byte × Defined) := binds.definitions.take binds.total

/-- The binds that the server gets. -/
def sendOutputBinds (binds : Binds) : List (List Byte × Defined) :=
  binds.considered.filter fun definition => definition.2.send

end Binds

/-! ## The server -/

/-- A date and time of day. -/
structure Moment where
  year : Int16
  month : Int16
  day : Int16
  hour : Int16
  minute : Int16
  second : Int16
  microsecond : Int32
  deriving DecidableEq

/-- The name of a time zone ends at its first NUL, and its length is a short. -/
structure Zone where
  text : List Byte
  noNul : 0 ∉ text
  short : text.length < 65536
  deriving DecidableEq

/-- What one read of a long value gives: something, and no more than the buffer holds. -/
structure Segment where
  data : List Byte
  nonempty : data ≠ []
  fits : data.length ≤ 32768
  deriving DecidableEq

/-- A long value: the length that the database tells, if it does, and what one read after the other
gives. -/
structure Lob where
  length : Option UInt64
  segments : List Segment
  deriving DecidableEq

/-- All that the database has of a long value. -/
def Lob.data (lob : Lob) : List Byte := lob.segments.flatMap Segment.data

/-- What the server holds for an output bind.  A double is its bits. -/
inductive Held where
  | null
  | string (value : List Byte)
  | integer (value : UInt64)
  | double (value : UInt64) (precision scale : UInt32)
  | date (moment : Moment) (tz : Zone) (isnegative : Bool)
  | blob (lob : Lob)
  | clob (lob : Lob)
  | cursor (cursorid : UInt16)
  deriving DecidableEq

/-- Any bind may be null.  A string fits into its buffer. -/
def Held.fits : BindType → Held → Bool
  | _, .null => true
  | .string valuesize, .string value => value.length ≤ valuesize.toNat
  | .integer, .integer _ => true
  | .double, .double _ _ _ => true
  | .date, .date _ _ _ => true
  | .blob, .blob _ => true
  | .clob, .clob _ => true
  | .cursor, .cursor _ => true
  | _, _ => false

def sendNullField : List Byte := Wire.short NULL_DATA

def startSendingLong (longsize : UInt64) : List Byte :=
  Wire.short START_LONG_DATA ++ Wire.longLong longsize

def sendLongSegment (data : List Byte) : List Byte :=
  Wire.short STRING_DATA ++ Wire.long (UInt32.ofNat data.length) ++ data

def endSendingLong : List Byte := Wire.short END_LONG_DATA

/-- The loop of `sendLobOutputBind`.  A value of which nothing has been sent yet is a null. -/
def sendSegments (loblength : UInt64) : Bool → List Segment → List Byte
  | true, [] => sendNullField
  | false, [] => endSendingLong
  | start, segment :: segments =>
      (if start then startSendingLong loblength else []) ++ sendLongSegment segment.data ++
        sendSegments loblength false segments

def sendLobOutputBind (lob : Lob) : List Byte :=
  match lob.length with
  | none => sendNullField
  | some loblength =>
      if loblength = 0 then startSendingLong 0 ++ sendLongSegment [] ++ endSendingLong
      else sendSegments loblength true lob.segments

def writeMoment (moment : Moment) : List Byte :=
  Wire.short moment.year.toUInt16 ++ Wire.short moment.month.toUInt16 ++
    Wire.short moment.day.toUInt16 ++ Wire.short moment.hour.toUInt16 ++
    Wire.short moment.minute.toUInt16 ++ Wire.short moment.second.toUInt16 ++
    Wire.long moment.microsecond.toUInt32

/-- A string is sent up to its first NUL. -/
def returnOutputBindValue : Held → List Byte
  | .null => sendNullField
  | .blob lob => sendLobOutputBind lob
  | .clob lob => sendLobOutputBind lob
  | .string value =>
      Wire.short STRING_DATA ++ Wire.long (UInt32.ofNat (CString.contents value).length) ++
        CString.contents value
  | .integer value => Wire.short INTEGER_DATA ++ Wire.longLong value
  | .double value precision scale =>
      Wire.short DOUBLE_DATA ++ Wire.longLong value ++ Wire.long precision ++ Wire.long scale
  | .date moment tz isnegative =>
      Wire.short DATE_DATA ++ writeMoment moment ++ Wire.short (UInt16.ofNat tz.text.length) ++
        tz.text ++ Wire.bool isnegative
  | .cursor cursorid => Wire.short CURSOR_DATA ++ Wire.short cursorid

def returnOutputBindValues (values : List Held) : List Byte :=
  values.flatMap returnOutputBindValue ++ Wire.short END_BIND_VARS

/-! ## The client -/

/-- What a variable of the client holds. -/
inductive Content where
  | string (stringval : Option (List Byte))
  | integer (integerval : UInt64)
  | double (value : UInt64) (precision scale : UInt32)
  | date (moment : Moment) (tz : Option (List Byte)) (isnegative : Bool)
  | lob (lobval : Option (List Byte))
  | cursor (cursorid : UInt16)
  deriving DecidableEq

/-- What a variable of the type holds unless a value of another type has been put into it. -/
def Content.fits : BindType → Content → Bool
  | .string _, .string _ => true
  | .integer, .integer _ => true
  | .double, .double _ _ _ => true
  | .date, .date _ _ _ => true
  | .blob, .lob _ => true
  | .clob, .lob _ => true
  | .cursor, .cursor _ => true
  | _, _ => false

structure Var where
  name : List Byte
  defined : Defined
  content : Content
  resultvaluesize : UInt32
  deriving DecidableEq

/-- A value as it comes in. -/
inductive Received where
  | null
  | string (value : List Byte)
  | integer (value : UInt64)
  | double (value : UInt64) (precision scale : UInt32)
  | date (moment : Moment) (tz : List Byte) (isnegative : Bool)
  | cursor (cursorid : UInt16)
  | long (totallength : UInt64) (data : List Byte)
  deriving DecidableEq

def readMoment : Receiver Moment := do
  let year ← Receiver.short
  let month ← Receiver.short
  let day ← Receiver.short
  let hour ← Receiver.short
  let minute ← Receiver.short
  let second ← Receiver.short
  let microsecond ← Receiver.long
  pure ⟨year.toInt16, month.toInt16, day.toInt16, hour.toInt16, minute.toInt16, second.toInt16,
    microsecond.toInt32⟩

/-- A chunk goes behind those that have come in, until the end of the long data. -/
def readChunk (data : List Byte) : Receiver (List Byte ⊕ List Byte) := do
  let type ← Receiver.short
  if type = END_LONG_DATA then pure (.inl data)
  else do
    let length ← Receiver.long
    let chunk ← Receiver.bytes length.toNat
    pure (.inr (data ++ chunk))

/-- The value behind its type.  A type that is none of these must be that of long data. -/
def readValue (type : UInt16) : Receiver Received :=
  if type = NULL_DATA then pure .null
  else if type = STRING_DATA then do
    let length ← Receiver.long
    let value ← Receiver.bytes length.toNat
    pure (.string value)
  else if type = INTEGER_DATA then do
    let value ← Receiver.longLong
    pure (.integer value)
  else if type = DOUBLE_DATA then do
    let value ← Receiver.longLong
    let precision ← Receiver.long
    let scale ← Receiver.long
    pure (.double value precision scale)
  else if type = DATE_DATA then do
    let moment ← readMoment
    let length ← Receiver.short
    let tz ← Receiver.bytes length.toNat
    let isnegative ← Receiver.bool
    pure (.date moment tz isnegative)
  else if type = CURSOR_DATA then do
    let cursorid ← Receiver.short
    pure (.cursor cursorid)
  else do
    let totallength ← Receiver.longLong
    let data ← Receiver.repeatedly readChunk []
    pure (.long totallength data)

def Moment.zero : Moment := ⟨0, 0, 0, 0, 0, 0, 0⟩

/-- What is put in place of a text that is null. -/
def nullText (returnnulls : Bool) : Option (List Byte) := if returnnulls then none else some []

/-- A null leaves long data, cursors and the sign of a date as they are. -/
def Content.setNull (returnnulls : Bool) : BindType → Content → Content
  | .string _, _ => .string (nullText returnnulls)
  | .integer, _ => .integer 0
  | .double, _ => .double 0 0 0
  | .date, .date _ _ isnegative => .date Moment.zero (nullText returnnulls) isnegative
  | .date, _ => .date Moment.zero (nullText returnnulls) false
  | _, content => content

/-- Puts a value into a variable, whatever the type of the variable.  Long data goes into a buffer of the
length that was told, and is terminated there. -/
def Var.store (returnnulls : Bool) (var : Var) : Received → Var
  | .null =>
      { var with
        content := var.content.setNull returnnulls var.defined.type
        resultvaluesize := 0 }
  | .string value =>
      { var with content := .string (some value), resultvaluesize := UInt32.ofNat value.length }
  | .integer value => { var with content := .integer value }
  | .double value precision scale => { var with content := .double value precision scale }
  | .date moment tz isnegative => { var with content := .date moment (some tz) isnegative }
  | .cursor cursorid => { var with content := .cursor cursorid }
  | .long totallength data =>
      { var with
        content := .lob (some (data.set totallength.toNat 0))
        resultvaluesize := totallength.toUInt32 }

/-- A value goes into the next variable.  When there is none left, it is discarded. -/
def parseOutputBind (returnnulls : Bool) (vars : List Var × List Var) :
    Receiver (List Var ⊕ List Var × List Var) := do
  let type ← Receiver.short
  if type = END_BIND_VARS then pure (.inl (vars.1 ++ vars.2))
  else do
    let received ← readValue type
    match vars.2 with
    | [] => pure (.inr vars)
    | var :: rest => pure (.inr (vars.1 ++ [var.store returnnulls received], rest))

def parseOutputBinds (returnnulls : Bool) (vars : List Var) : Receiver (List Var) :=
  Receiver.repeatedly (parseOutputBind returnnulls) ([], vars)

/-- The variable that the getters find. -/
def getOutputBind (vars : List Var) (name : List Byte) : Option Var :=
  vars.find? fun var => var.name = name

end SqlRelay.OutputBinds
