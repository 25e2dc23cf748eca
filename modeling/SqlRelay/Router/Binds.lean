import SqlRelay.Foundation.CString
import SqlRelay.Foundation.Named
import SqlRelay.Window.Reading

/-!
# Binds and rows through the router

The cursor of the router passes the binds of a query on to a cursor of the backend, and brings the output
binds and the rows back.  The cursor of the backend is a client cursor: it has its binds by name, and a
window of the rows.  What the backend says is given.
-/

namespace SqlRelay.Router

open SqlRelay.Foundation SqlRelay.Window

structure Date where
  year : Int16
  month : Int16
  day : Int16
  hour : Int16
  minute : Int16
  second : Int16
  microsecond : Int32
  tz : List Byte
  isnegative : Bool
  deriving DecidableEq

/-- The value of an input bind, or null.  A double is its bits, with its precision and scale. -/
inductive InputValue where
  | string (value : Option (List Byte))
  | integer (value : Int64)
  | double (value : UInt64) (precision scale : UInt32)
  | date (value : Option Date)
  | blob (value : Option (List Byte))
  | clob (value : Option (List Byte))
  | array (value : Option (List Byte))
  deriving DecidableEq

/-- The name of a variable begins with the character that marks it as one. -/
structure Input where
  name : List Byte
  value : InputValue

/-- The type of an output bind, with the declared size of a string. -/
inductive OutputType where
  | string (size : Nat)
  | integer | double | date | blob | clob | cursor
  deriving DecidableEq

structure Output where
  name : List Byte
  type : OutputType

/-- The value of an output bind. -/
inductive Value where
  | null
  | string (value : List Byte)
  | integer (value : Int64)
  | double (value : UInt64)
  | date (value : Date)
  | lob (value : List Byte)
  | cursor
  deriving DecidableEq

/-- Whether a backend answers with this value where it is asked for this type. -/
def Value.fits : OutputType → Value → Bool
  | .cursor, .cursor => true
  | .cursor, _ => false
  | _, .null => true
  | .string _, .string _ => true
  | .integer, .integer _ => true
  | .double, .double _ => true
  | .date, .date _ => true
  | .blob, .lob _ => true
  | .clob, .lob _ => true
  | _, _ => false

abbrev Row := List (Option (List Byte))

/-- A result set has fewer rows than can be counted. -/
structure ResultSet where
  rows : List Row
  fails : Bool
  counted : rows.length < word

/-- What the backend says when the query runs: the output binds, by name and by the type it is asked for,
the rows, and the rows of the cursors among the output binds. -/
structure Backend where
  answer : List Byte → OutputType → Value
  fits : ∀ name type, (answer name type).fits type
  resultSet : ResultSet
  cursorResultSet : List Byte → ResultSet

/-! ## The cursor of the backend -/

/-- Lengths are unsigned and of 32 bits. -/
def lengthWord : Nat := 4294967296

structure BackendCursor where
  inbindvars : List (List Byte × InputValue)
  outbindvars : List (List Byte × OutputType)

namespace BackendCursor

def cleared : BackendCursor := ⟨[], []⟩

def inputBind (name : List Byte) (value : InputValue) (cursor : BackendCursor) : BackendCursor :=
  if name = [] then cursor
  else { cursor with inbindvars := Named.set name value cursor.inbindvars }

/-- A string without a size ends at its first NUL. -/
def inputBindString (name : List Byte) (value : Option (List Byte)) (cursor : BackendCursor) :
    BackendCursor :=
  cursor.inputBind name (.string (value.map CString.contents))

/-- `defineOutputBindGeneric` -/
def defineOutputBind (name : List Byte) (type : OutputType) (cursor : BackendCursor) :
    BackendCursor :=
  if name = [] then cursor
  else { cursor with outbindvars := Named.set name type cursor.outbindvars }

section Getters

variable (backend : Backend) (cursor : BackendCursor) (name : List Byte)

/-- Nulls are not empty strings here. -/
def getOutputBindString : Option (List Byte) :=
  match cursor.outbindvars.lookup name with
  | some (.string size) =>
      match backend.answer name (.string size) with
      | .string value => some value
      | _ => none
  | _ => none

/-- A null is 0, and where there is no such bind it is -1. -/
def getOutputBindInteger : Int64 :=
  match cursor.outbindvars.lookup name with
  | some .integer =>
      match backend.answer name .integer with
      | .integer value => value
      | _ => 0
  | _ => -1

/-- A null is 0, and where there is no such bind it is -1. -/
def getOutputBindDouble : UInt64 :=
  match cursor.outbindvars.lookup name with
  | some .double =>
      match backend.answer name .double with
      | .double value => value
      | _ => 0
  | _ => 13830554455654793216

def getOutputBindDate : Option Date :=
  match cursor.outbindvars.lookup name with
  | some .date =>
      match backend.answer name .date with
      | .date value => some value
      | _ => some ⟨0, 0, 0, 0, 0, 0, 0, [], false⟩
  | _ => none

def getOutputBindLength : Nat :=
  match cursor.outbindvars.lookup name with
  | some type =>
      match backend.answer name type with
      | .string value => value.length % lengthWord
      | .lob value => value.length % lengthWord
      | _ => 0
  | none => 0

def getOutputBindBlob : Option (List Byte) :=
  match cursor.outbindvars.lookup name with
  | some .blob =>
      match backend.answer name .blob with
      | .lob value => some value
      | _ => none
  | _ => none

def getOutputBindClob : Option (List Byte) :=
  match cursor.outbindvars.lookup name with
  | some .clob =>
      match backend.answer name .clob with
      | .lob value => some value
      | _ => none
  | _ => none

end Getters

end BackendCursor

/-! ## The binds of the router -/

/-- The cursor of the backend and the output binds that are not cursors. -/
structure Binding where
  cursor : BackendCursor
  obv : List (List Byte × OutputType)

namespace Binding

def cleared : Binding := ⟨BackendCursor.cleared, []⟩

section Inputs

variable (name : List Byte) (binding : Binding)

/-- A name goes on without the character that marks it. -/
def inputBindString (value : Option (List Byte)) : Binding :=
  { binding with cursor := binding.cursor.inputBindString name.tail value }

def inputBindInteger (value : Int64) : Binding :=
  { binding with cursor := binding.cursor.inputBind name.tail (.integer value) }

def inputBindDouble (value : UInt64) (precision scale : UInt32) : Binding :=
  { binding with cursor := binding.cursor.inputBind name.tail (.double value precision scale) }

def inputBindDate (value : Option Date) : Binding :=
  match value with
  | none => { binding with cursor := binding.cursor.inputBindString name.tail none }
  | some date => { binding with cursor := binding.cursor.inputBind name.tail (.date date) }

def inputBindBlob (value : Option (List Byte)) : Binding :=
  { binding with cursor := binding.cursor.inputBind name.tail (.blob value) }

def inputBindClob (value : Option (List Byte)) : Binding :=
  { binding with cursor := binding.cursor.inputBind name.tail (.clob value) }

/-- Without a bind for arrays of its own, a cursor binds an array as a string. -/
def inputBindArray (value : Option (List Byte)) : Binding :=
  inputBindString name binding value

end Inputs

def inputBind (binding : Binding) (input : Input) : Binding :=
  match input.value with
  | .string value => binding.inputBindString input.name value
  | .integer value => binding.inputBindInteger input.name value
  | .double value precision scale => binding.inputBindDouble input.name value precision scale
  | .date value => binding.inputBindDate input.name value
  | .blob value => binding.inputBindBlob input.name value
  | .clob value => binding.inputBindClob input.name value
  | .array value => binding.inputBindArray input.name value

section Outputs

variable (name : List Byte) (binding : Binding)

/-- An output bind is defined at the backend as one type and kept as another. -/
def outputBindAs (defined kept : OutputType) : Binding :=
  { cursor := binding.cursor.defineOutputBind name.tail defined
    obv := binding.obv ++ [(name.tail, kept)] }

/-- The buffer has a byte more than the declared size, which the backend is not told of. -/
def outputBindString (valuesize : Nat) : Binding :=
  outputBindAs name binding (.string (valuesize - 1)) (.string valuesize)

def outputBindInteger : Binding := outputBindAs name binding .integer .integer
def outputBindDouble : Binding := outputBindAs name binding .double .double

/-- A date is defined as a double. -/
def outputBindDate : Binding := outputBindAs name binding .double .date

def outputBindBlob : Binding := outputBindAs name binding .blob .blob
def outputBindClob : Binding := outputBindAs name binding .clob .clob

/-- Cursors are kept apart. -/
def outputBindCursor : Binding :=
  { binding with cursor := binding.cursor.defineOutputBind name.tail .cursor }

end Outputs

def outputBind (binding : Binding) (output : Output) : Binding :=
  match output.type with
  | .string size => binding.outputBindString output.name (size + 1)
  | .integer => binding.outputBindInteger output.name
  | .double => binding.outputBindDouble output.name
  | .date => binding.outputBindDate output.name
  | .blob => binding.outputBindBlob output.name
  | .clob => binding.outputBindClob output.name
  | .cursor => binding.outputBindCursor output.name

/-- `handleBinds` -/
def handleBinds (inputs : List Input) (outputs : List Output) : Binding :=
  outputs.foldl outputBind (inputs.foldl inputBind cleared)

/-! ## What comes back -/

section Execution

variable (backend : Backend) (binding : Binding)

/-- What `executeQuery` puts into an output bind.  A date that the backend does not have leaves what was
there before.  Only a string can be null, and nothing is put into a lob. -/
def populate (before : Date) (bind : List Byte × OutputType) : Value :=
  match bind.2 with
  | .string valuesize =>
      match binding.cursor.getOutputBindString backend bind.1 with
      | none => .null
      | some text =>
          let size := binding.cursor.getOutputBindLength backend bind.1
          .string (CString.contents (text.take (min size (valuesize - 1))))
  | .integer => .integer (binding.cursor.getOutputBindInteger backend bind.1)
  | .double => .double (binding.cursor.getOutputBindDouble backend bind.1)
  | .date => .date ((binding.cursor.getOutputBindDate backend bind.1).getD before)
  | .blob | .clob => .lob []
  | .cursor => .cursor

def getLobOutputBindLength (name : List Byte) : Nat :=
  binding.cursor.getOutputBindLength backend name

def getLobOutputBindSegment (name : List Byte) (offset charstoread : Nat) : Option (List Byte) :=
  let text := ((binding.cursor.getOutputBindClob backend name).or
    (binding.cursor.getOutputBindBlob backend name)).getD []
  let size := binding.cursor.getOutputBindLength backend name
  if size < offset then none
  else some ((text.drop offset).take (min charstoread (size - offset)))

/-- The segments of a lob, from an offset on, as far as there are any. -/
def lobSegments (charstoread : Nat) (name : List Byte) : Nat → Nat → List Byte
  | 0, _ => []
  | fuel + 1, offset =>
      match getLobOutputBindSegment backend binding name offset charstoread with
      | none | some [] => []
      | some segment => segment ++ lobSegments charstoread name fuel (offset + segment.length)

/-- A lob is read in segments of what fits into the buffer at four bytes a character. -/
def sendLobOutputBind (name : List Byte) : List Byte :=
  let length := getLobOutputBindLength backend binding name
  if length = 0 then [] else lobSegments backend binding 8192 name (length + 1) 0

/-- What an output bind is given back with, and the name it has been asked for by. -/
structure Returned where
  source : Option (List Byte)
  value : Value
  deriving DecidableEq

/-- A lob is looked for among the binds that are not cursors by its index among all output binds. -/
def returnLob (index : Nat) : Returned :=
  match binding.obv[index]? with
  | none => ⟨none, .lob []⟩
  | some bind => ⟨some bind.1, .lob (sendLobOutputBind backend binding bind.1)⟩

def returnOutputBind (before : Date) (output : Output × Nat) : Returned :=
  match output.1.type with
  | .string size => ⟨some output.1.name.tail,
      populate backend binding before (output.1.name.tail, .string (size + 1))⟩
  | .blob | .clob => returnLob backend binding output.2
  | type => ⟨some output.1.name.tail, populate backend binding before (output.1.name.tail, type)⟩

/-- `returnOutputBindValues` -/
def returnOutputBindValues (before : Date) (outputs : List Output) : List Returned :=
  outputs.zipIdx.map (returnOutputBind backend binding before)

end Execution

end Binding

/-! ## Rows -/

/-- A cursor of the backend that is an output bind is not told to tell nulls from empty strings. -/
def getField (returnsNulls : Bool) (field : Option (List Byte)) : Option (List Byte) :=
  match field with
  | none => if returnsNulls then none else some []
  | some text => some (text.take (text.length % lengthWord))

namespace ResultSet

variable (resultSet : ResultSet)

/-- The cursor of the backend when the query has run. -/
def opened (fetchatonce : Nat) : Window.Session :=
  Session.opened (Client.cleared fetchatonce false false none)
    ⟨resultSet.rows.length, resultSet.fails, 0, false⟩

/-- `fetchRow`: the first field of the next row is asked for, so that there are more rows if there can be.
A row has a field. -/
def fetchRow (session : Window.Session) (nextrow : Nat) : Bool × Window.Session :=
  let fetched := (session.fetchRowIntoBuffer (resultSet.rows.length + 1) nextrow).2
  (nextrow < fetched.client.rowcount, fetched)

/-- The row that the fields are taken from. -/
def currentRow (session : Window.Session) (row : Nat) : Row :=
  ((((session.fetchRowIntoBuffer (resultSet.rows.length + 1) row).1.bind fun index =>
    session.client.rows[index]?).bind fun number => resultSet.rows[number]?).getD [])

/-- The rows that the client gets, from the next one on. -/
def deliver (returnsNulls : Bool) : Nat → Window.Session → Nat → List Row
  | 0, _, _ => []
  | fuel + 1, session, nextrow =>
      let fetched := resultSet.fetchRow session nextrow
      if fetched.1 then
        (resultSet.currentRow fetched.2 nextrow).map (getField returnsNulls) ::
          deliver returnsNulls fuel fetched.2 (nextrow + 1)
      else []

/-- All rows, with a round for the end of the result set. -/
def delivered (fetchatonce : Nat) (returnsNulls : Bool) : List Row :=
  resultSet.deliver returnsNulls (resultSet.rows.length + 1) (resultSet.opened fetchatonce) 0

end ResultSet

end SqlRelay.Router
