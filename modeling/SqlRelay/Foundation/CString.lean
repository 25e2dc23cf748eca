import Mathlib.Data.List.Basic

/-!
# Scanning NUL-terminated text

A pointer into a text is modelled by the bytes from that pointer on.  Reading
past the last byte yields the terminating NUL, and a NUL inside the text ends
it for every scanner, exactly as it does for code that walks a `char *`.
-/

namespace SqlRelay.Foundation

/-- One `char`. -/
abbrev Byte := UInt8

/-- The bytes of an ASCII literal. -/
def ascii (literal : String) : List Byte := literal.toList.map Char.toUInt8

/-- The byte of an ASCII character literal. -/
def chr (literal : Char) : Byte := literal.toUInt8

namespace CString

/-- `*ptr`: the byte at the pointer, or the terminator at the end. -/
def peek : List Byte → Byte
  | [] => 0
  | byte :: _ => byte

@[simp] theorem peek_nil : peek [] = 0 := rfl
@[simp] theorem peek_cons (byte : Byte) (rest : List Byte) : peek (byte :: rest) = byte := rfl

/-- The bytes before the terminator. -/
def contents (text : List Byte) : List Byte := text.takeWhile fun byte => byte != 0

/-- `isspace` in the C locale. -/
def isWhitespace (byte : Byte) : Bool :=
  byte == chr ' ' || byte == chr '\t' || byte == chr '\n' || byte == 11 || byte == 12 ||
    byte == chr '\r'

/-- `isdigit` in the C locale. -/
def isDigit (byte : Byte) : Bool := chr '0' ≤ byte && byte ≤ chr '9'

/-- `isalpha` in the C locale. -/
def isAlphabetical (byte : Byte) : Bool :=
  (chr 'a' ≤ byte && byte ≤ chr 'z') || (chr 'A' ≤ byte && byte ≤ chr 'Z')

/-- `isalnum` in the C locale. -/
def isAlphanumeric (byte : Byte) : Bool := isAlphabetical byte || isDigit byte

/-- `tolower` in the C locale. -/
def toLowerCase (byte : Byte) : Byte :=
  if chr 'A' ≤ byte && byte ≤ chr 'Z' then byte + 32 else byte

/-- The text at the pointer begins with exactly these bytes. -/
def startsWith (text literal : List Byte) : Bool := text.take literal.length == literal

/-- The text at the pointer begins with these bytes, ASCII case aside. -/
def startsWithIgnoringCase (text literal : List Byte) : Bool :=
  (text.take literal.length).map toLowerCase == literal.map toLowerCase

/-- Some position of the C string begins with these bytes, ASCII case aside. -/
def containsIgnoringCase (literal : List Byte) : List Byte → Bool
  | [] => false
  | byte :: rest =>
      byte != 0 &&
        (startsWithIgnoringCase (byte :: rest) literal || containsIgnoringCase literal rest)

@[simp] theorem contents_nil : contents [] = [] := rfl

theorem contents_cons (byte : Byte) (rest : List Byte) :
    contents (byte :: rest) = if byte = 0 then [] else byte :: contents rest := by
  by_cases nul : byte = 0 <;> simp [contents, nul]

theorem contents_eq_self {text : List Byte} (noNul : 0 ∉ text) : contents text = text := by
  induction text with
  | nil => rfl
  | cons byte text ih =>
      simp only [List.mem_cons, not_or] at noNul
      rw [contents_cons, if_neg (Ne.symm noNul.1), ih noNul.2]

theorem contents_append {front : List Byte} (noNul : 0 ∉ front) (rest : List Byte) :
    contents (front ++ rest) = front ++ contents rest := by
  induction front with
  | nil => rfl
  | cons byte front ih =>
      simp only [List.mem_cons, not_or] at noNul
      rw [List.cons_append, contents_cons, if_neg (Ne.symm noNul.1), ih noNul.2, List.cons_append]

/-- A text with a NUL in it is cut there. -/
theorem contents_append_nul {text : List Byte} (nul : 0 ∈ text) :
    ∃ rest, text = contents text ++ 0 :: rest := by
  induction text with
  | nil => simp at nul
  | cons byte text ih =>
      rw [contents_cons]
      by_cases isNul : byte = 0
      · exact ⟨text, by simp [isNul]⟩
      · obtain ⟨rest, equal⟩ := ih (by simpa [Ne.symm isNul] using nul)
        refine ⟨rest, ?_⟩
        rw [if_neg isNul, List.cons_append, ← equal]

theorem zero_notMem_contents (text : List Byte) : 0 ∉ contents text := by
  induction text with
  | nil => simp
  | cons byte text ih =>
      rw [contents_cons]
      split
      · simp
      · rename_i notNul
        simp [ih, Ne.symm notNul]

theorem startsWith_iff {text literal : List Byte} :
    startsWith text literal = true ↔ literal <+: text := by
  rw [startsWith, beq_iff_eq, List.prefix_iff_eq_take, eq_comm]

theorem startsWithIgnoringCase_iff {text literal : List Byte} :
    startsWithIgnoringCase text literal = true ↔
      ∃ written rest, text = written ++ rest ∧
        written.map toLowerCase = literal.map toLowerCase := by
  rw [startsWithIgnoringCase, beq_iff_eq]
  constructor
  · intro equal
    exact ⟨_, text.drop literal.length, (List.take_append_drop _ _).symm, equal⟩
  · rintro ⟨written, rest, rfl, equal⟩
    have sameLength : written.length = literal.length := by
      simpa using congrArg List.length equal
    rw [← sameLength, List.take_left', equal]
    rfl

end CString

end SqlRelay.Foundation
