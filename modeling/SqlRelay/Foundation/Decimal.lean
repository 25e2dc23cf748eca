import Mathlib.Algebra.Group.Nat.Defs
import SqlRelay.Foundation.CString

/-!
# Decimal numbers as text

How numbers are printed, and that a text is printed of one number only.
-/

namespace SqlRelay.Foundation

/-- A natural number, as `%d` prints it. -/
def digits (number : Nat) : List Byte := (Nat.toDigits 10 number).map Char.toUInt8

/-- An integer, as `%lld` prints it. -/
def printInteger (number : Int) : List Byte :=
  if number < 0 then chr '-' :: digits number.natAbs else digits number.natAbs

theorem toUInt8_inj_of_isDigit {digit other : Char} (isDigit : digit.isDigit)
    (isDigit' : other.isDigit) (same : digit.toUInt8 = other.toUInt8) : digit = other := by
  have bounds := Char.isDigit_iff_toNat.mp isDigit
  have bounds' := Char.isDigit_iff_toNat.mp isDigit'
  have low : '0'.toNat = 48 ∧ '9'.toNat = 57 := by decide
  have values := congrArg UInt8.toNat same
  rw [← Char.toUInt8_val, ← Char.toUInt8_val, UInt32.toNat_toUInt8, UInt32.toNat_toUInt8] at values
  apply Char.toNat_inj.mp
  simp only [Char.toNat] at bounds bounds' low ⊢
  omega

theorem isDigit_of_mem_digits {number : Nat} {byte : Byte} (member : byte ∈ digits number) :
    CString.isDigit byte = true := by
  rw [digits, List.mem_map] at member
  obtain ⟨digit, member, rfl⟩ := member
  have bounds := Char.isDigit_iff_toNat.mp
    (Nat.isDigit_of_mem_toDigits (by decide) (by decide) member)
  have low : '0'.toNat = 48 ∧ '9'.toNat = 57 := by decide
  have value : digit.toUInt8.toNat = digit.toNat := by
    rw [← Char.toUInt8_val, UInt32.toNat_toUInt8]
    simp only [Char.toNat] at bounds low ⊢
    omega
  have range : (chr '0').toNat = 48 ∧ (chr '9').toNat = 57 := by decide
  simp only [CString.isDigit, Bool.and_eq_true, decide_eq_true_eq, UInt8.le_iff_toNat_le, value,
    range.1, range.2]
  omega

/-- Texts of digits are the same bytes only when they are the same digits. -/
theorem map_toUInt8_inj {text other : List Char} (isDigit : ∀ digit ∈ text, digit.isDigit)
    (isDigit' : ∀ digit ∈ other, digit.isDigit)
    (same : text.map Char.toUInt8 = other.map Char.toUInt8) : text = other := by
  induction text generalizing other with
  | nil => exact (List.map_eq_nil_iff.mp same.symm).symm
  | cons digit text induction =>
    cases other with
    | nil => cases same
    | cons digit' other =>
      have parts := List.cons.inj same
      have head := toUInt8_inj_of_isDigit (isDigit digit List.mem_cons_self)
        (isDigit' digit' List.mem_cons_self) parts.1
      have tail := induction (fun digit member => isDigit digit (List.mem_cons_of_mem _ member))
        (fun digit member => isDigit' digit (List.mem_cons_of_mem _ member)) parts.2
      rw [head, tail]

theorem digits_inj {number other : Nat} : digits number = digits other ↔ number = other := by
  constructor
  · intro same
    have chars : Nat.toDigits 10 number = Nat.toDigits 10 other := by
      apply map_toUInt8_inj _ _ same
      · intro digit member
        exact Nat.isDigit_of_mem_toDigits (by decide) (by decide) member
      · intro digit member
        exact Nat.isDigit_of_mem_toDigits (by decide) (by decide) member
    rw [← Nat.ofDigitChars_ten_toDigits (n := number), chars, Nat.ofDigitChars_ten_toDigits]
  · intro same
    rw [same]

/-- Reading the bytes of a number digit by digit. -/
theorem foldl_digits {text : List Char} (isDigit : ∀ digit ∈ text, digit.isDigit) (start : Nat) :
    (text.map Char.toUInt8).foldl (fun sum digit => 10 * sum + (digit.toNat - 48)) start =
      Nat.ofDigitChars 10 text start := by
  induction text generalizing start with
  | nil => rfl
  | cons digit text ih =>
      rw [List.forall_mem_cons] at isDigit
      have bounds := Char.isDigit_iff_toNat.mp isDigit.1
      have value : digit.toUInt8.toNat = digit.toNat := by
        rw [← Char.toUInt8_val, UInt32.toNat_toUInt8]
        have low : '0'.toNat = 48 ∧ '9'.toNat = 57 := by decide
        simp only [Char.toNat] at bounds low ⊢
        omega
      rw [List.map_cons, List.foldl_cons, ih isDigit.2, value, Nat.ofDigitChars_cons]
      rfl

theorem length_digits_le {number width : Nat} (positive : 0 < width) (small : number < 10 ^ width) :
    (digits number).length ≤ width := by
  rw [digits, List.length_map]
  exact (Nat.length_toDigits_le_iff (by decide) positive).mpr small

end SqlRelay.Foundation
