import SqlRelay.Bind.FakedMarkers

/-!
# Bind translation and remapping

`translateBindVariables` numbers the bind variables of the query and
`translateBindVariablesFromMappings` renames the binds of the cursor.  They should agree: the
placeholder that stands where a marker stood should be the one that the marker's bind is renamed to.
-/

namespace SqlRelay.Bind

open SqlRelay.Foundation SqlRelay.Foundation.CString SqlRelay.Foundation.QuotedLiteral

/-! ## Renaming -/

/-- The variables of the binds of a cursor, delimiters included. -/
structure CursorBinds where
  input : List (List Byte)
  output : List (List Byte)
  inputOutput : List (List Byte)
  deriving DecidableEq, Repr

def CursorBinds.all (binds : CursorBinds) : List (List Byte) :=
  binds.input ++ binds.output ++ binds.inputOutput

/-- The database takes the value of the variable for the placeholder: by position, by number or by
name. -/
def BindFormat.refersTo (format : BindFormat) (position : Nat) (native bound : List Byte) : Bool :=
  match format with
  | .questionMark => convertToInteger (bound.drop 1) == (position : Int)
  | .dollarSign => convertToInteger (bound.drop 1) == convertToInteger (native.drop 1)
  | .colon | .atSign => bound.drop 1 == native.drop 1

/-- The result has every byte of text in its place, and for every marker a native one that is right
for it.  The markers are numbered from 1, and `asked` of them were question marks. -/
def RendersWith (format : BindFormat)
    (right : (asked position : Nat) → (marker native : List Byte) → Prop) :
    (asked position : Nat) → List Piece → List Byte → Prop
  | _, _, [], result => result = []
  | asked, position, .text byte :: later, result =>
      ∃ rest, result = byte :: rest ∧ RendersWith format right asked position later rest
  | asked, position, .bind marker :: later, result =>
      ∃ native rest, format.isMarker native = true ∧ result = native ++ rest ∧
        right asked position marker native ∧
        RendersWith format right (askedAfter asked marker) (position + 1) later rest

namespace Translator

variable (translator : Translator)

/-- The variable is mapped to its number. -/
def isMapped (bind : List Byte) : Bool :=
  !translator.matchesNativeBindFormat bind && (translator.translateBindVariable bind 0).2

/-- The number of the last variable of the query that is mapped under the name of a bind. -/
def lastNumber (uninitialized bound : List Byte) : (index : UInt16) → List Piece → Option UInt16
  | _, [] => none
  | index, .text _ :: later => lastNumber uninitialized bound index later
  | index, .bind bind :: later =>
      (lastNumber uninitialized bound (index + 1) later).or
        (if translator.isMapped bind ∧
            (translator.mapBindVariable bind index).1.getD uninitialized = contents bound then
          some index else none)

/-- What becomes of a bind: the last number that its name got, or what it is. -/
def renamed (uninitialized : List Byte) (query bound : List Byte) : List Byte :=
  ((translator.lastNumber uninitialized bound 1 (translator.pieces query)).map fun number =>
    translator.bindFormat.delimiter :: decimal number).getD bound

end Translator

/-! ## Reading the result -/

theorem RendersWith.renders {format : BindFormat}
    {right : (asked position : Nat) → (marker native : List Byte) → Prop} {asked position : Nat}
    {pieces : List Piece} {result : List Byte}
    (renders : RendersWith format right asked position pieces result) :
    Renders format pieces result := by
  induction pieces generalizing asked position result with
  | nil => exact renders
  | cons piece later ih =>
      cases piece with
      | text byte =>
          obtain ⟨rest, isByte, renders⟩ := renders
          exact ⟨rest, isByte, ih renders⟩
      | bind marker =>
          obtain ⟨native, rest, isMarker, parts, -, renders⟩ := renders
          exact ⟨native, rest, isMarker, parts, ih renders⟩

/-- The first marker has a placeholder that is right for it. -/
theorem RendersWith.first {format : BindFormat}
    {right : (asked position : Nat) → (marker native : List Byte) → Prop} {asked position : Nat}
    {pieces later : List Piece} {front marker result : List Byte}
    (renders : RendersWith format right asked position pieces result)
    (parts : pieces = front.map Piece.text ++ .bind marker :: later) :
    ∃ native, right asked position marker native := by
  subst parts
  induction front generalizing result with
  | nil =>
      obtain ⟨native, -, -, -, isRight, -⟩ := renders
      exact ⟨native, isRight⟩
  | cons byte front ih =>
      obtain ⟨rest, -, renders⟩ := renders
      exact ih renders

namespace Translator

variable {translator : Translator} {rewritten : Bool}
variable {right : (asked position : Nat) → (marker native : List Byte) → Prop}

end Translator

end SqlRelay.Bind
