import SqlRelay.Bind.Markers
import SqlRelay.Bind.Substitution

/-!
# Faked input binds: the query

`sqlrservercursor::fakeInputBinds`: the values of the input binds are written into
a copy of the query in place of its bind variables.
-/

namespace SqlRelay.Bind

open SqlRelay.Foundation SqlRelay.Foundation.CString SqlRelay.Foundation.QuotedLiteral

/-- A bind variable of a cursor: its name, delimiter included, and its value. -/
structure BindVar where
  name : List Byte
  value : BindValue
  deriving DecidableEq, Repr

/-- What the loop depends on besides the query and the binds. -/
structure BindFaker where
  delimiters : Delimiters
  backslashEscapesQuotes : Bool
  unicodeStrings : Bool

/-- `charstring::convertToInteger` -/
def convertToInteger (text : List Byte) : Int :=
  let number (digits : List Byte) : Nat :=
    (digits.takeWhile isDigit).foldl (fun sum digit => 10 * sum + (digit.toNat - 48)) 0
  match text.dropWhile isWhitespace with
  | [] => 0
  | byte :: rest =>
      if byte = chr '-' then -(number rest : Int)
      else if byte = chr '+' then number rest
      else number (byte :: rest)

theorem digit_is_plain {byte : Byte} (isDigit : CString.isDigit byte = true) :
    isWhitespace byte = false ∧ byte ≠ chr '-' ∧ byte ≠ chr '+' := by
  have every : ∀ index : Fin 256, CString.isDigit (UInt8.ofFin index) = true →
      isWhitespace (UInt8.ofFin index) = false ∧ UInt8.ofFin index ≠ chr '-' ∧
        UInt8.ofFin index ≠ chr '+' := by
    decide +kernel
  exact every byte.toFin isDigit

/-- The number ends with the digits at the pointer. -/
theorem convertToInteger_digits {text rest : List Byte} (written : text ≠ [])
    (areDigits : ∀ byte ∈ text, isDigit byte = true)
    (ends : ∀ byte, rest.head? = some byte → isDigit byte = false) :
    convertToInteger (text ++ rest) =
      (text.foldl (fun sum digit => 10 * sum + (digit.toNat - 48)) 0 : Nat) := by
  have prefixed : (text ++ rest).takeWhile isDigit = text := by
    rw [List.takeWhile_append_of_pos areDigits]
    cases rest with
    | nil => rw [List.takeWhile_nil, List.append_nil]
    | cons byte rest => simp [ends byte rfl]
  cases text with
  | nil => exact absurd rfl written
  | cons byte text =>
      have plain := digit_is_plain (areDigits byte List.mem_cons_self)
      rw [List.cons_append] at prefixed ⊢
      rw [convertToInteger]
      simp only [List.dropWhile_cons, plain.1, Bool.false_eq_true, if_false, plain.2]
      rw [prefixed]

/-- The bind variable at the pointer is this one, by position or by name. -/
def BindVar.isAt (bindIndex : Nat) (text : List Byte) (bind : BindVar) : Bool :=
  (peek text == chr '?' && convertToInteger (bind.name.drop 1) == (bindIndex : Int)) ||
    (contents ((text.drop 1).take (bind.name.length - 1)) == contents (bind.name.drop 1) &&
      (afterBindVariable (text.drop bind.name.length) || bind.name.length == text.length))

namespace BindFaker

variable (faker : BindFaker)

/-- The loop.  `passOver` bytes belong to a variable already replaced. -/
def loop (binds : List BindVar) :
    (passOver : Nat) → ParseState → (prev : Byte) → (bindIndex : Nat) → List Byte → List Byte
  | _, _, _, _, [] => []
  | passOver + 1, state, prev, bindIndex, _ :: rest =>
      loop binds passOver state prev bindIndex rest
  | 0, .inQuotes, prev, bindIndex, byte :: rest =>
      let closes := byte = quote ∧ (faker.backslashEscapesQuotes = false ∨ prev ≠ backslash)
      byte :: loop binds 0 (if closes then .inQuery else .inQuotes) (nextPrev prev byte)
        bindIndex rest
  | 0, state, prev, bindIndex, byte :: rest =>
      let found :=
        if state = .beforeBind ∧ isBindDelimiter faker.delimiters (byte :: rest) = true then
          binds.find? (BindVar.isAt bindIndex (byte :: rest))
        else none
      match found with
      | some bind =>
          performSubstitution faker.unicodeStrings bind.value ++
            loop binds (if byte = chr '?' then 0 else bind.name.length - 1) .inQuery prev
              (bindIndex + 1) rest
      | none =>
          -- no bind variable after all, so the byte is query text
          byte :: loop binds 0 (afterQueryByte byte) (nextPrev prev byte) bindIndex rest

/-- The query with the values in it.  The loop runs once even if the query is
empty, and copies the terminator. -/
def fakeInputBinds (binds : List BindVar) (query : List Byte) : List Byte :=
  if query = [] then [0] else faker.loop binds 0 .inQuery 0 1 query

end BindFaker

/-- The variable `:var15` is not taken for `:var1`. -/
example : (BindFaker.mk ⟨true, true, true, true⟩ false false).fakeInputBinds
    [⟨ascii ":var1", .integer (ascii "3")⟩, ⟨ascii ":var15", .string (ascii "a'b")⟩]
    (ascii "select :var1,:var15, ':var1'") = ascii "select 3,'a''b', ':var1'" := by
  decide

end SqlRelay.Bind
