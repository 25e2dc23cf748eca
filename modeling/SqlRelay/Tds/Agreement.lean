import SqlRelay.Tds.Decoders

/-!
# The same values

What it means that the decoders agree, and when they agree on a value of a concrete type: as long as the
value is not one that one of them reads otherwise.
-/

namespace SqlRelay.Tds.Values

open SqlRelay.Foundation

/-- The types whose values are padded out to their size. -/
def TdsType.isPadded : TdsType → Bool
  | .binary | .bigBinary | .bigChar | .nchar => true
  | _ => false

namespace Decoder

variable (decoder : Decoder)

/-- The same value: a number may be bound as its numeral, a date as its text, and a value of a fixed
size with its padding. -/
inductive SameValue (padded : Bool) : Value → Value → Prop where
  | same (value : Value) : SameValue padded value value
  | numeral (numeral : List Byte) (scale : Nat) :
      SameValue padded (.string numeral) (.number numeral scale)
  | date {text : List Byte} {date : Date} (taken : decoder.parseDateTime text = some date) :
      SameValue padded (.string text) (.date date)
  | blanks (pads : padded = true) (bytes : List Byte) (count : Nat) :
      SameValue padded (.string bytes) (.string (blankPadded count bytes))
  | zeros (pads : padded = true) (bytes : List Byte) (count : Nat) :
      SameValue padded (.blob bytes) (.blob (zeroBytes count bytes))

/-- Both have taken the same bytes for the same value, or have rejected them. -/
def Agree (padded : Bool) : Decoded → Decoded → Prop
  | .ok (value, rest), .ok (other, rest') =>
      rest = rest' ∧ decoder.SameValue padded value other
  | .error .rejected, .error .rejected => True
  | _, _ => False

/-- A value of a concrete type that one decoder reads otherwise: a byte that is negative as a `char`, a
decimal of a type without a length, one with a length over the limit, a variant or one of the later
types of dates and times that is not null, and a time that is not taken for one. -/
def ReadsOtherwise (concrete : TdsType) (rp : List Byte) : Prop :=
  match concrete with
  | .int1 | .bit => decoder.signedChar = true ∧ 128 ≤ littleEndian (rp.take 1)
  | .decimal | .numeric => rp ≠ [] ∧ (littleEndian (rp.take 1) < rp.length ∨ 17 ≤ rp.length)
  | .decimalN | .numericN => 17 < littleEndian (rp.take 1) ∧ littleEndian (rp.take 1) < rp.length
  | .dateN | .timeN | .datetime2N | .datetimeOffsetN =>
      ∃ bytes rest, readSized 1 0 rp = .ok (some bytes, rest)
  | .ssVariant => ∃ bytes rest, readSized 4 0xFFFFFFFF rp = .ok (some bytes, rest)
  | .datetim4 => 4 ≤ rp.length ∧ decoder.parseDateTime (bulkDateTime (littleEndian (rp.take 2))
      (littleEndian ((rp.drop 2).take 2) * 60 * 300)) = none
  | .datetime => 8 ≤ rp.length ∧ decoder.parseDateTime (bulkDateTime
      (signed 32 (littleEndian (rp.take 4))) (littleEndian ((rp.drop 4).take 4))) = none
  | _ => False

variable {decoder} {padded : Bool} {tdstype concrete : TdsType} {info : TypeInfo}
variable {rp rest : List Byte} {α β : Type}

/-! ## Steps that do not trap -/

theorem untrapped_bind {step : Except Failure α} {next : α → Except Failure β}
    (untrapped : step ≠ .error .trapped) (others : ∀ a, next a ≠ .error .trapped) :
    step >>= next ≠ .error .trapped := by
  cases step with
  | error failure => exact fun trapped => untrapped (congrArg _ (Except.error.inj trapped))
  | ok a => exact others a

theorem readLE_untrapped (size : Nat) (rp : List Byte) : readLE size rp ≠ .error .trapped := by
  rw [readLE]
  split <;> nofun

theorem readSized_untrapped (lengthSize nullLength : Nat) (rp : List Byte) :
    readSized lengthSize nullLength rp ≠ .error .trapped := by
  refine untrapped_bind (readLE_untrapped lengthSize rp) fun ⟨size, rp⟩ => ?_
  dsimp only
  split
  case isTrue => nofun
  case isFalse => split <;> nofun

/-! ## Steps that both take -/

theorem agree_self {decoded : Decoded} (untrapped : decoded ≠ .error .trapped) :
    decoder.Agree padded decoded decoded := by
  cases decoded with
  | ok taken => exact ⟨rfl, .same taken.1⟩
  | error failure =>
    cases failure with
    | rejected => trivial
    | trapped => exact absurd rfl untrapped

theorem agree_bind {step : Except Failure α} {first second : α → Decoded}
    (untrapped : step ≠ .error .trapped)
    (alike : ∀ a, step = .ok a → decoder.Agree padded (first a) (second a)) :
    decoder.Agree padded (step >>= first) (step >>= second) := by
  cases step with
  | ok a => exact alike a rfl
  | error failure =>
    cases failure with
    | rejected => trivial
    | trapped => exact absurd rfl untrapped

/-! ## Values -/

theorem agree_sizedValue {lengthSize nullLength : Nat} {absent : Value}
    {first second : List Byte → Value}
    (alike : ∀ bytes rest, readSized lengthSize nullLength rp = .ok (some bytes, rest) →
      decoder.SameValue padded (first bytes) (second bytes)) :
    decoder.Agree padded (sizedValue lengthSize nullLength absent first rp)
      (sizedValue lengthSize nullLength absent second rp) := by
  rw [sizedValue, sizedValue]
  cases read : readSized lengthSize nullLength rp with
  | error failure =>
    cases failure with
    | rejected => trivial
    | trapped => exact absurd read (readSized_untrapped _ _ rp)
  | ok taken =>
    obtain ⟨bytes, rest⟩ := taken
    cases bytes with
    | none => exact ⟨rfl, .same absent⟩
    | some bytes => exact ⟨rfl, alike bytes rest read⟩

theorem agree_fixedValue {size : Nat} {first second : Nat → Value}
    (alike : size ≤ rp.length → decoder.SameValue padded (first (littleEndian (rp.take size)))
      (second (littleEndian (rp.take size)))) :
    decoder.Agree padded (fixedValue size first rp) (fixedValue size second rp) := by
  rw [fixedValue, fixedValue, readLE]
  split
  case isTrue => trivial
  case isFalse long => exact ⟨rfl, alike (Nat.not_lt.mp long)⟩

theorem agree_pairValue {size : Nat} {first second : Nat → Nat → Value}
    (alike : 2 * size ≤ rp.length →
      decoder.SameValue padded
        (first (littleEndian (rp.take size)) (littleEndian ((rp.drop size).take size)))
        (second (littleEndian (rp.take size)) (littleEndian ((rp.drop size).take size)))) :
    decoder.Agree padded (pairValue size first rp) (pairValue size second rp) := by
  rw [pairValue, pairValue, readLE]
  split
  case isTrue => trivial
  case isFalse long => exact ⟨rfl, alike (Nat.not_lt.mp long)⟩

/-- A byte is the same number to both unless it is negative as a `char`. -/
theorem agree_byte (alike : ¬(decoder.signedChar = true ∧ 128 ≤ littleEndian (rp.take 1))) :
    decoder.Agree padded (fixedValue 1 (fun number => .integer 1 number) rp)
      (fixedValue 1
        (fun number => .integer 1 (if decoder.signedChar then signed 8 number else number)) rp) := by
  refine agree_fixedValue fun _ => ?_
  by_cases isSigned : decoder.signedChar = true
  case pos =>
    have small : littleEndian (rp.take 1) < 128 := Nat.not_le.mp fun large => alike ⟨isSigned, large⟩
    rw [if_pos isSigned, signed_of_lt (by omega)]
    exact .same _
  case neg =>
    rw [if_neg isSigned]
    exact .same _

theorem dateTimeValue_same {days : Int} {threehundredths : Nat}
    (taken : decoder.parseDateTime (bulkDateTime days threehundredths) ≠ none) :
    decoder.SameValue padded (.string (bulkDateTime days threehundredths))
      (decoder.dateTimeValue days threehundredths) := by
  obtain ⟨date, taken⟩ := Option.ne_none_iff_exists'.mp taken
  rw [dateTimeValue, taken]
  exact .date taken

/-- A decimal with a length that is over the limit is rejected by both if it is not all there. -/
theorem agree_decimal {scale : Nat}
    (short : ¬(17 < littleEndian (rp.take 1) ∧ littleEndian (rp.take 1) < rp.length)) :
    decoder.Agree padded (sizedValue 1 0 .null (decimalValue scale) rp) (do
      let (size, rp) ← readLE 1 rp
      if size = 0 then .ok (.null, rp)
      else if 17 < size then .error .rejected
      else if rp.length < size then .error .rejected
      else .ok (decimalValue scale (rp.take size), rp.drop size)) := by
  rw [sizedValue, readSized, readLE]
  by_cases empty : rp.length < 1
  case pos =>
    rw [if_pos empty]
    trivial
  case neg =>
    rw [if_neg empty]
    simp only [bind, Except.bind]
    by_cases null : littleEndian (rp.take 1) = 0
    case pos =>
      rw [if_pos null, if_pos null]
      exact ⟨rfl, .same .null⟩
    case neg =>
      rw [if_neg null, if_neg null]
      by_cases there : (rp.drop 1).length < littleEndian (rp.take 1)
      case pos =>
        rw [if_pos there, if_pos there, ite_self]
        trivial
      case neg =>
        have small : ¬17 < littleEndian (rp.take 1) := fun large => short ⟨large, by
          rw [List.length_drop] at there
          omega⟩
        rw [if_neg there, if_neg small, if_neg there]
        exact ⟨rfl, .same _⟩

/-- A decimal of a type without a length is rejected by both if neither finds all of it. -/
theorem agree_legacyDecimal {first second : List Byte → Value}
    (short : ¬(rp ≠ [] ∧ (littleEndian (rp.take 1) < rp.length ∨ 17 ≤ rp.length))) :
    decoder.Agree padded (sizedValue 1 0 .null first rp)
      (if rp.length < 17 then .error .rejected
      else .ok (second (rp.take 17), rp.drop 17)) := by
  cases rp with
  | nil => trivial
  | cons size rest =>
    simp only [ne_eq, reduceCtorEq, not_false_iff, true_and, not_or, Nat.not_lt,
      Nat.not_le, List.length_cons, List.take_succ_cons, List.take_zero, littleEndian_singleton] at short
    obtain ⟨cut, below⟩ := short
    have nonzero : size.toNat ≠ 0 := by omega
    have cut : rest.length < size.toNat := by omega
    have below : (size :: rest).length < 17 := by
      rw [List.length_cons]
      omega
    rw [if_pos below, sizedValue, readSized, readLE, if_neg (by simp)]
    simp only [bind, Except.bind, List.take_succ_cons, List.take_zero, littleEndian_singleton,
      List.drop_succ_cons, List.drop_zero, if_neg nonzero, if_pos cut]
    trivial

theorem padding_eq_zero (maxsize limit size : Nat) : padding false maxsize limit size = 0 := by
  simp [padding]

theorem zeros_same {pads : Bool} (padded_of : pads = true → padded = true)
    (maxsize : Nat) (bytes : List Byte) :
    decoder.SameValue padded (.blob bytes)
      (.blob (zeroBytes (padding pads maxsize 8000 bytes.length) bytes)) := by
  cases pads with
  | true => exact .zeros (padded_of rfl) bytes _
  | false =>
    rw [padding_eq_zero, zeroBytes, List.replicate_zero, List.append_nil]
    exact .same _

theorem blanks_same {pads : Bool} (padded_of : pads = true → padded = true)
    (maxsize : Nat) (bytes : List Byte) :
    decoder.SameValue padded (.string bytes)
      (.string (blankPadded (padding pads maxsize 8000 bytes.length) bytes)) := by
  cases pads with
  | true => exact .blanks (padded_of rfl) bytes _
  | false =>
    rw [padding_eq_zero, blankPadded, List.replicate_zero, List.append_nil]
    exact .same _

/-- The types of the values that both decoders give. -/
def Known : TdsType → Prop
  | .null | .intN | .bitN | .fltN | .moneyN | .datetimN => False
  | .longBinary | .xml | .udt | .tvp => False
  | _ => True

/-- A value of a concrete type is the same to both. -/
theorem agree_data (known : Known concrete) (alike : ¬decoder.ReadsOtherwise concrete rp) :
    decoder.Agree concrete.isPadded (decoder.bulkData info.scale concrete rp)
      (decoder.paramData info concrete rp) := by
  cases concrete
  case null | intN | bitN | fltN | moneyN | datetimN | longBinary | xml | udt | tvp =>
    exact known.elim
  case int1 | bit =>
    rw [bulkData, paramData]
    exact agree_byte alike
  case int2 | int4 | int8 =>
    rw [bulkData, paramData, intValue]
    exact agree_fixedValue fun _ => .same _
  case flt4 | flt8 =>
    rw [bulkData, paramData]
    exact agree_fixedValue fun _ => .same _
  case money =>
    rw [bulkData, paramData]
    exact agree_pairValue fun _ => .numeral _ 4
  case money4 =>
    rw [bulkData, paramData]
    exact agree_fixedValue fun _ => .numeral _ 4
  case datetim4 | datetime =>
    rw [bulkData, paramData]
    exact agree_pairValue fun long => dateTimeValue_same fun none => alike ⟨long, none⟩
  case guid => exact agree_sizedValue fun _ _ _ => .same _
  case decimal | numeric => exact agree_legacyDecimal alike
  case decimalN | numericN => exact agree_decimal alike
  case dateN => exact agree_sizedValue fun bytes rest read => (alike ⟨bytes, rest, read⟩).elim
  case timeN | datetime2N | datetimeOffsetN =>
    rw [bulkData, paramData, sizedValue]
    cases read : readSized 1 0 rp with
    | error failure =>
      cases failure with
      | rejected => trivial
      | trapped => exact absurd read (readSized_untrapped 1 0 rp)
    | ok taken =>
      obtain ⟨none | bytes, rest⟩ := taken
      · exact ⟨rfl, .same .null⟩
      · exact (alike ⟨bytes, rest, read⟩).elim
  case ssVariant => exact agree_sizedValue fun bytes rest read => (alike ⟨bytes, rest, read⟩).elim
  case char | varchar | text | ntext | image => exact agree_sizedValue fun _ _ _ => .same _
  case binary | varbinary | bigBinary | bigVarBin =>
    exact agree_sizedValue fun bytes _ _ => zeros_same (by decide) info.maxsize bytes
  case bigChar | bigVarChr =>
    exact agree_sizedValue fun bytes _ _ => blanks_same (by decide) info.maxsize bytes
  case nchar => exact agree_sizedValue fun bytes _ _ => .blanks rfl _ _
  case nvarchar =>
    rw [bulkData, paramData]
    refine agree_sizedValue fun bytes _ _ => ?_
    simp only [reduceCtorEq, false_and, if_false, blankPadded, List.replicate_zero, List.append_nil]
    exact .same _

end Decoder

end SqlRelay.Tds.Values
