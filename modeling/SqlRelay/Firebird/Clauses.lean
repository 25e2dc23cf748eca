import SqlRelay.Firebird.Sdl
import SqlRelay.Foundation.ByteOrder

/-!
# What a slice description says

The grammar of slice descriptions.  The clauses are given with what they say and with the bytes that
they are written as, so that no clause can be built that could not be written.
-/

namespace SqlRelay.Firebird

open SqlRelay.Foundation SqlRelay.Foundation.Parser

/-! ## The grammar -/

/-- A number, and the width that it is written in. -/
inductive Literal where
  | tiny (value : Int8)
  | short (value : Int16)
  | long (value : Int32)
  deriving DecidableEq

namespace Literal

def value : Literal → Int32
  | tiny value => value.toInt32
  | short value => value.toInt32
  | long value => value

def bytes : Literal → List Byte
  | tiny value => [Sdl.tinyInteger, value.toUInt8]
  | short value => Sdl.shortInteger :: toLittleEndian 2 value.toUInt16.toNat
  | long value => Sdl.longInteger :: toLittleEndian 4 value.toUInt32.toNat

end Literal

/-- The description of an element, by its type. -/
inductive Element where
  | text2 (elementtype : Byte) (charsetandcollation length : UInt16)
      (detailed : details elementtype = some .charsetAndLength) (some_length : length ≠ 0)
  | text (elementtype : Byte) (length : UInt16)
      (detailed : details elementtype = some .length) (some_length : length ≠ 0)
  | scaled (elementtype : Byte) (scale : Int8) (detailed : details elementtype = some .scale)
  | plain (elementtype : Byte) (detailed : details elementtype = some .nothing)

namespace Element

def bytes : Element → List Byte
  | text2 elementtype charsetandcollation length _ _ =>
      elementtype :: (toLittleEndian 2 charsetandcollation.toNat ++ toLittleEndian 2 length.toNat)
  | text elementtype length _ _ => elementtype :: toLittleEndian 2 length.toNat
  | scaled elementtype scale _ => [elementtype, scale.toUInt8]
  | plain elementtype _ => [elementtype]

/-- What the type says that it has. -/
def kind : Element → Details
  | text2 _ _ _ _ _ => .charsetAndLength
  | text _ _ _ _ => .length
  | scaled _ _ _ => .scale
  | plain _ _ => .nothing

/-- A slice of such elements. -/
def record (slice : Slice) : Element → Slice
  | text2 elementtype _ length _ _ => slice.describe elementtype slice.elementscale length
  | text elementtype length _ _ => slice.describe elementtype slice.elementscale length
  | scaled elementtype scale _ => slice.describe elementtype scale slice.elementlength
  | plain elementtype _ => slice.describe elementtype slice.elementscale slice.elementlength

end Element

/-- A name is as long as a byte can say. -/
structure Name where
  name : List Byte
  fits : name.length < 256

namespace Name

def bytes (name : Name) : List Byte := UInt8.ofNat name.name.length :: name.name

end Name

/-- The range of a loop: with its lower bound left out, with both bounds, or with an increment, which
is 1. -/
inductive Range where
  | do1 (upper : Literal)
  | do2 (lower upper : Literal)
  | do3 (lower upper increment : Literal) (one : increment.value = 1)

namespace Range

def op : Range → Byte
  | do1 _ => Sdl.do1
  | do2 _ _ => Sdl.do2
  | do3 _ _ _ _ => Sdl.do3

def bytes : Range → List Byte
  | do1 upper => upper.bytes
  | do2 lower upper => lower.bytes ++ upper.bytes
  | do3 lower upper increment _ => lower.bytes ++ upper.bytes ++ increment.bytes

def lower : Range → Int32
  | do1 _ => 1
  | do2 lower _ => lower.value
  | do3 lower _ _ _ => lower.value

def upper : Range → Int32
  | do1 upper => upper.value
  | do2 _ upper => upper.value
  | do3 _ upper _ _ => upper.value

end Range

inductive Clause where
  | struct (described : Element)
  | schema (name : Name)
  | relation (name : Name)
  | field (name : Name)
  | rid (id : UInt16)
  | fid (id : UInt16)
  | loop (loopVariable : Byte) (range : Range)
  | element (subscripts : List Byte)

namespace Clause

def bytes : Clause → List Byte
  | struct described => Sdl.struct :: 1 :: described.bytes
  | schema name => Sdl.schema :: name.bytes
  | relation name => Sdl.relation :: name.bytes
  | field name => Sdl.field :: name.bytes
  | rid id => Sdl.rid :: toLittleEndian 2 id.toNat
  | fid id => Sdl.fid :: toLittleEndian 2 id.toNat
  | loop loopVariable range => range.op :: loopVariable :: range.bytes
  | element subscripts => Sdl.element :: 1 :: Sdl.scalar :: 0 :: UInt8.ofNat subscripts.length ::
      subscripts.flatMap fun loopVariable => [Sdl.loopVariable, loopVariable]

/-! What a clause says, if it is one that says such a thing. -/

def element? : Clause → Option Element
  | struct described => some described
  | _ => none

def schema? : Clause → Option Name
  | schema name => some name
  | _ => none

def relation? : Clause → Option Name
  | relation name => some name
  | _ => none

def field? : Clause → Option Name
  | field name => some name
  | _ => none

def rid? : Clause → Option UInt16
  | rid id => some id
  | _ => none

def fid? : Clause → Option UInt16
  | fid id => some id
  | _ => none

def bound? : Clause → Option Bound
  | loop loopVariable range => some ⟨loopVariable, range.lower, range.upper⟩
  | _ => none

def subscripts? : Clause → Option (List Byte)
  | element subscripts => some subscripts
  | _ => none

end Clause

/-- The bounds of the dimensions, first dimension first. -/
def boundsOf (clauses : List Clause) : List Bound := clauses.filterMap Clause.bound?

/-- One struct clause; one to so many loops; and one element clause after all loops, whose subscripts
are the loop variables in order. -/
structure WellFormed (clauses : List Clause) : Prop where
  struct : (clauses.filterMap Clause.element?).length = 1
  loops : 1 ≤ (boundsOf clauses).length ∧ (boundsOf clauses).length ≤ maxDimensions
  element : ∃ before subscripts after, clauses = before ++ .element subscripts :: after ∧
    before.filterMap Clause.subscripts? = [] ∧ after.filterMap Clause.subscripts? = [] ∧
      boundsOf after = [] ∧ subscripts = (boundsOf before).map Bound.loopVariable

/-- What the clauses say, of which a later one replaces an earlier one of the same kind, and with
names kept as `kept` says. -/
def recorded (kept : List Byte → List Byte) (clauses : List Clause) : Slice :=
  ((clauses.filterMap Clause.element?).foldl Element.record
    { Slice.init with
      schemaname := (clauses.filterMap Clause.schema?).getLast?.map fun name => kept name.name
      relationname := (clauses.filterMap Clause.relation?).getLast?.map fun name => kept name.name
      fieldname := (clauses.filterMap Clause.field?).getLast?.map fun name => kept name.name
      relationid := (clauses.filterMap Clause.rid?).getLast?
      fieldid := (clauses.filterMap Clause.fid?).getLast?
      bounds := boundsOf clauses })

/-- The bytes of a description. -/
def descriptionOf (clauses : List Clause) : List Byte :=
  Sdl.version1 :: (clauses.flatMap Clause.bytes ++ [Sdl.eoc])

/-- A byte sequence is parsed to its end without a read outside of it, and is accepted exactly if it is
the description of well-formed clauses, which are then what is recorded. -/
structure ParsedExactly (kept : List Byte → List Byte) (sdl : List Byte) : Prop where
  inside : parse sdl ≠ .outside
  ends : parse sdl ≠ .running
  accepts : ∀ slice stop, parse sdl = .accepted slice stop ↔
    stop = sdl.length ∧ ∃ clauses, WellFormed clauses ∧ sdl = descriptionOf clauses ∧
      slice = recorded kept clauses

end SqlRelay.Firebird
