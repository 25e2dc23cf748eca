import SqlRelay.Foundation.Parsing

/-!
# Slice descriptions

What a Firebird client sends to say which slice of an array it wants: a version, clauses that name the
column, describe an element and give the bounds of each dimension, and the end.
-/

namespace SqlRelay.Firebird

open SqlRelay.Foundation SqlRelay.Foundation.Parser

/-! ## Codes -/

namespace Sdl

def version1 : Byte := 1
def relation : Byte := 2
def rid : Byte := 3
def field : Byte := 4
def fid : Byte := 5
def struct : Byte := 6
def loopVariable : Byte := 7
def scalar : Byte := 8
def tinyInteger : Byte := 9
def shortInteger : Byte := 10
def longInteger : Byte := 11
def do3 : Byte := 33
def do2 : Byte := 34
def do1 : Byte := 35
def element : Byte := 36
def schema : Byte := 37
def eoc : Byte := 255

end Sdl

namespace Blr

def short : Byte := 7
def long : Byte := 8
def quad : Byte := 9
def float : Byte := 10
def dFloat : Byte := 11
def sqlDate : Byte := 12
def sqlTime : Byte := 13
def text : Byte := 14
def text2 : Byte := 15
def int64 : Byte := 16
def bool : Byte := 23
def dec64 : Byte := 24
def dec128 : Byte := 25
def int128 : Byte := 26
def double : Byte := 27
def sqlTimeTz : Byte := 28
def timestampTz : Byte := 29
def exTimeTz : Byte := 30
def exTimestampTz : Byte := 31
def timestamp : Byte := 35
def varying : Byte := 37
def varying2 : Byte := 38
def cstring : Byte := 40
def cstring2 : Byte := 41

end Blr

/-- What comes after the type of an element: a character set and a length, a length, a scale, or
nothing. -/
inductive Details where
  | charsetAndLength
  | length
  | scale
  | nothing
  deriving DecidableEq, Repr

def details (elementtype : Byte) : Option Details :=
  if elementtype ∈ [Blr.text2, Blr.cstring2, Blr.varying2] then some .charsetAndLength
  else if elementtype ∈ [Blr.text, Blr.cstring, Blr.varying] then some .length
  else if elementtype ∈ [Blr.short, Blr.long, Blr.quad, Blr.int64, Blr.int128] then some .scale
  else if elementtype ∈ [Blr.float, Blr.double, Blr.dFloat, Blr.dec64, Blr.dec128, Blr.sqlDate,
      Blr.sqlTime, Blr.sqlTimeTz, Blr.exTimeTz, Blr.timestamp, Blr.timestampTz, Blr.exTimestampTz,
      Blr.bool] then some .nothing
  else none

/-! ## What is recorded -/

/-- `SQLRFIREBIRDSDL_MAX_DIMENSIONS` -/
def maxDimensions : Nat := 16

/-- The bounds of a dimension, and the loop variable that stands for it. -/
structure Bound where
  loopVariable : Byte
  lower : Int32
  upper : Int32
  deriving DecidableEq, Repr

/-- Names are C strings.  An id is there if it is set, and there are `dimensioncount` bounds. -/
structure Slice where
  schemaname : Option (List Byte)
  relationname : Option (List Byte)
  fieldname : Option (List Byte)
  relationid : Option UInt16
  fieldid : Option UInt16
  elementtype : Byte
  elementscale : Int8
  elementlength : UInt16
  bounds : List Bound
  deriving DecidableEq

/-- After `init`. -/
def Slice.init : Slice := ⟨none, none, none, none, none, 0, 0, 0, []⟩

def Slice.describe (slice : Slice) (elementtype : Byte) (elementscale : Int8)
    (elementlength : UInt16) : Slice :=
  { slice with elementtype, elementscale, elementlength }

/-- `bounds[dimensioncount++]=bound` -/
def Slice.addBound (slice : Slice) (bound : Bound) : Slice :=
  { slice with bounds := slice.bounds ++ [bound] }

/-! ## Bytes and numbers -/

/-- The error of all callers if the bytes they ask for are not there. -/
def truncated : String := "truncated SDL"

def getByte : Parser Byte := fun sdl ptr =>
  if ptr ≥ sdl.length then .refused truncated else load 1 CString.peek sdl ptr

/-- `*(ptr+i)`, of bytes that have been loaded. -/
def byteAt (bytes : List Byte) (i : Nat) : Byte := bytes.getD i 0

def word (bytes : List Byte) : UInt16 :=
  (byteAt bytes 0).toUInt16 ||| (byteAt bytes 1).toUInt16 <<< 8

def getWord : Parser UInt16 := fun sdl ptr =>
  if ptr + 2 > sdl.length then .refused truncated else load 2 word sdl ptr

def long (bytes : List Byte) : UInt32 :=
  (byteAt bytes 0).toUInt32 ||| (byteAt bytes 1).toUInt32 <<< 8 |||
    (byteAt bytes 2).toUInt32 <<< 16 ||| (byteAt bytes 3).toUInt32 <<< 24

def getLong : Parser UInt32 := fun sdl ptr =>
  if ptr + 4 > sdl.length then .refused truncated else load 4 long sdl ptr

/-- The bytes of a name, as `charstring::duplicate` keeps them. -/
def getName (len : Nat) : Parser (List Byte) := fun sdl ptr =>
  if ptr + len > sdl.length then .refused truncated else load len CString.contents sdl ptr

/-! ## Clauses -/

/-- The rest of an element descriptor, after the type. -/
def parseDetails (slice : Slice) (elementtype : Byte) : Parser Slice :=
  match details elementtype with
  | some .charsetAndLength => do
      let _charsetandcollation ← getWord
      let elementlength ← getWord
      require (elementlength ≠ 0) "invalid SDL element length"
      return slice.describe elementtype slice.elementscale elementlength
  | some .length => do
      let elementlength ← getWord
      require (elementlength ≠ 0) "invalid SDL element length"
      return slice.describe elementtype slice.elementscale elementlength
  | some .scale => do
      let scale ← getByte
      return slice.describe elementtype scale.toInt8 slice.elementlength
  | some .nothing => return slice.describe elementtype slice.elementscale slice.elementlength
  | none => refuse "unsupported SDL element type"

def parseElementDescriptor (slice : Slice) : Parser Slice := do
  let count ← getByte
  require (count = 1) "unsupported SDL struct count"
  let elementtype ← getByte
  parseDetails slice elementtype

def parseName : Parser (List Byte) := do
  let len ← getByte
  getName len.toNat

def parseId : Parser UInt16 := getWord

/-- A literal, after its opcode. -/
def parseInteger (op : Byte) : Parser Int32 :=
  if op = Sdl.tinyInteger then do
    let tiny ← getByte
    return tiny.toInt8.toInt32
  else if op = Sdl.shortInteger then do
    let shrt ← getWord
    return shrt.toInt16.toInt32
  else if op = Sdl.longInteger then do
    let lng ← getLong
    return lng.toInt32
  else refuse "unsupported SDL bound expression"

def parseLiteral : Parser Int32 := do
  let op ← getByte
  parseInteger op

/-- The lower bound is 1 if it is left out. -/
def parseLower (op : Byte) : Parser Int32 := if op ≠ Sdl.do1 then parseLiteral else pure 1

/-- Other increments would skip elements. -/
def parseIncrement (op : Byte) : Parser Unit :=
  if op = Sdl.do3 then do
    let increment ← parseLiteral
    require (increment = 1) "unsupported SDL loop increment"
  else pure ()

def parseLoop (slice : Slice) (op : Byte) : Parser Slice := do
  require (slice.bounds.length ≠ maxDimensions) "too many SDL dimensions"
  let loopVariable ← getByte
  let lower ← parseLower op
  let upper ← parseLiteral
  parseIncrement op
  return slice.addBound ⟨loopVariable, lower, upper⟩

/-- Each subscript is the loop variable of the dimension that it indexes. -/
def parseSubscripts : List Bound → Parser Unit
  | [] => pure ()
  | bound :: bounds => do
      let op ← getByte
      require (op = Sdl.loopVariable) "unsupported SDL scalar subscript"
      let loopVariable ← getByte
      require (loopVariable = bound.loopVariable) "SDL scalar/loop variable mismatch"
      parseSubscripts bounds

def parseScalar (slice : Slice) : Parser Unit := do
  let member ← getByte
  require (member = 0) "unsupported SDL scalar member"
  let count ← getByte
  require (count.toNat = slice.bounds.length) "SDL scalar/loop dimension mismatch"
  parseSubscripts slice.bounds

def parseElement (slice : Slice) : Parser Unit := do
  let count ← getByte
  require (count = 1) "unsupported SDL element count"
  let op ← getByte
  require (op = Sdl.scalar) "unsupported SDL element expression"
  parseScalar slice

/-! ## Descriptions -/

/-- The members, and the variables of `parse`. -/
structure Progress where
  slice : Slice
  gotstruct : Bool
  gotelement : Bool
  deriving DecidableEq

def Progress.start : Progress := ⟨.init, false, false⟩

def parseClause (progress : Progress) (op : Byte) : Parser Progress :=
  if op = Sdl.struct then do
    require (progress.gotstruct = false) "duplicate SDL struct clause"
    let slice ← parseElementDescriptor progress.slice
    return { progress with slice, gotstruct := true }
  else if op = Sdl.schema then do
    let name ← parseName
    return { progress with slice := { progress.slice with schemaname := some name } }
  else if op = Sdl.relation then do
    let name ← parseName
    return { progress with slice := { progress.slice with relationname := some name } }
  else if op = Sdl.field then do
    let name ← parseName
    return { progress with slice := { progress.slice with fieldname := some name } }
  else if op = Sdl.rid then do
    let id ← parseId
    return { progress with slice := { progress.slice with relationid := some id } }
  else if op = Sdl.fid then do
    let id ← parseId
    return { progress with slice := { progress.slice with fieldid := some id } }
  else if op = Sdl.do1 ∨ op = Sdl.do2 ∨ op = Sdl.do3 then do
    require (progress.gotelement = false) "SDL loop after element clause"
    let slice ← parseLoop progress.slice op
    return { progress with slice }
  else if op = Sdl.element then do
    require (progress.gotelement = false) "duplicate SDL element clause"
    parseElement progress.slice
    return { progress with gotelement := true }
  else refuse "unsupported SDL opcode"

/-- So many passes of the loop over the clauses. -/
def parseClauses : Nat → Progress → Parser Progress
  | 0, _ => outOfPasses
  | passes + 1, progress => do
      let op ← getByte
      if op = Sdl.eoc then return progress
      else
        let progress ← parseClause progress op
        parseClauses passes progress

def parseVersion (passes : Nat) : Parser Progress := do
  let version ← getByte
  require (version = Sdl.version1) "unsupported SDL version"
  parseClauses passes .start

/-- What is checked at the end. -/
def finish (sdl : List Byte) (progress : Progress) (ptr : Nat) : Parsed Slice :=
  if ptr ≠ sdl.length then .refused "trailing bytes after SDL"
  else if progress.gotstruct = false then .refused "missing SDL struct clause"
  else if progress.slice.bounds.length = 0 then .refused "missing SDL loop clause"
  else if progress.gotelement = false then .refused "missing SDL element clause"
  else .accepted progress.slice ptr

def parsePasses (passes : Nat) (sdl : List Byte) : Parsed Slice :=
  if sdl = [] then .refused "empty SDL"
  else
    match parseVersion passes sdl 0 with
    | .accepted progress ptr => finish sdl progress ptr
    | .refused error => .refused error
    | .outside => .outside
    | .running => .running

/-- Each clause takes a byte, and the version takes one. -/
def parse (sdl : List Byte) : Parsed Slice := parsePasses sdl.length sdl

end SqlRelay.Firebird
