import SqlRelay.Foundation.CString

/-!
# Quoted literals

Reading a single-quoted literal under a backend's quoting rule: a doubled quote
is one quote, and where the backend takes backslash for an escape, a backslash
makes the byte after it an ordinary one.
-/

namespace SqlRelay.Foundation

namespace QuotedLiteral

def quote : Byte := chr '\''

def backslash : Byte := chr '\\'

theorem quote_ne_backslash : quote ≠ backslash := by decide

/-- What the byte before left open. -/
inductive Pending where
  | nothing | quote | escape
  deriving DecidableEq, Repr

/-- Add a byte to what the rest of the literal denotes. -/
def push (byte : Byte) : Option (List Byte × List Byte) → Option (List Byte × List Byte) :=
  Option.map fun (value, after) => (byte :: value, after)

/-- Read up to the closing quote: the bytes denoted, and the text after it. -/
def readFrom (escapes : Bool) : Pending → List Byte → Option (List Byte × List Byte)
  | .nothing, [] => none
  | .quote, [] => some ([], [])
  | .escape, [] => none
  | .nothing, byte :: rest =>
      if byte = quote then readFrom escapes .quote rest
      else if escapes = true ∧ byte = backslash then readFrom escapes .escape rest
      else push byte (readFrom escapes .nothing rest)
  | .quote, byte :: rest =>
      if byte = quote then push quote (readFrom escapes .nothing rest)
      else some ([], byte :: rest)
  | .escape, byte :: rest => push byte (readFrom escapes .nothing rest)

def readBody (escapes : Bool) (text : List Byte) : Option (List Byte × List Byte) :=
  readFrom escapes .nothing text

/-- Read one literal, opening quote included. -/
def readLiteral (escapes : Bool) : List Byte → Option (List Byte × List Byte)
  | [] => none
  | byte :: rest => if byte = quote then readBody escapes rest else none

/-- The text is one literal and nothing else, and denotes these bytes. -/
def IsLiteralOf (escapes : Bool) (value text : List Byte) : Prop :=
  readLiteral escapes text = some (value, [])

variable {escapes : Bool}

theorem readBody_doubledQuote (rest : List Byte) :
    readBody escapes (quote :: quote :: rest) = push quote (readBody escapes rest) := by
  simp [readBody, readFrom]

theorem readBody_escape (byte : Byte) (rest : List Byte) :
    readBody true (backslash :: byte :: rest) = push byte (readBody true rest) := by
  simp [readBody, readFrom, quote_ne_backslash.symm]

theorem readBody_ordinary {byte : Byte} (notQuote : byte ≠ quote)
    (notEscape : escapes = true → byte ≠ backslash) (rest : List Byte) :
    readBody escapes (byte :: rest) = push byte (readBody escapes rest) := by
  rw [readBody, readFrom, if_neg notQuote, if_neg fun both => notEscape both.1 both.2]
  rfl

theorem readBody_close : readBody escapes [quote] = some ([], []) := by
  simp [readBody, readFrom]

/-- A read that goes on past its first byte denotes what it must only if that
byte is right and the rest denotes the rest. -/
theorem push_eq_some_iff {read : Option (List Byte × List Byte)} {byte first : Byte}
    {value : List Byte} :
    push byte read = some (first :: value, []) ↔ byte = first ∧ read = some (value, []) := by
  cases read with
  | none => simp [push]
  | some found => simp [push, Prod.ext_iff, and_assoc]

end QuotedLiteral

end SqlRelay.Foundation
