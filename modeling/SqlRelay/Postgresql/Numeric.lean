import SqlRelay.Foundation.ByteOrder
import SqlRelay.Foundation.Decimal
import SqlRelay.Foundation.Positional

/-!
# Binary numerics

A numeric is sent as groups of four decimal digits, with the weight of the first group, a sign and the
number of digits behind the point.  The module prints it, and gives the text to the database.
-/

namespace SqlRelay.Postgresql.Numeric

open SqlRelay.Foundation

/-! ## Printing -/

/-- `readBE` of a `uint16_t`. -/
def readBE (rp : List Byte) : Nat := ByteOrder.big.read (rp.take 2)

/-- `%04d` of a number that is not negative. -/
def fourDigits (number : Nat) : List Byte :=
  List.replicate (4 - (digits number).length) (chr '0') ++ digits number

/-- What the loops have done: the text so far, the pointer, and the number of digit groups that have
been read. -/
structure Printing where
  str : List Byte
  rp : List Byte
  digitsread : Nat

/-- The group `d`, which is 0 unless it has been sent. -/
def Printing.digit (printing : Printing) (sent : Bool) : Nat × Printing :=
  if sent then
    (readBE printing.rp, { printing with
      rp := printing.rp.drop 2
      digitsread := printing.digitsread + 1 })
  else (0, printing)

/-- The loop over the integer part, for so many groups from group `d` on; there is none if a group is
no group of four digits. -/
def integerPart (ndigits : Nat) : Nat → Nat → Printing → Option Printing
  | 0, _, printing => some printing
  | count + 1, d, printing =>
      let (digit, after) := printing.digit (d < ndigits)
      if d < ndigits ∧ digit ≥ 10000 then none
      else
        integerPart ndigits count (d + 1) { after with
          str := after.str ++ if d = 0 then digits digit else fourDigits digit }

/-- The loop over the fraction. -/
def fraction (ndigits : Nat) : Nat → Int → Printing → Printing
  | 0, _, printing => printing
  | count + 1, d, printing =>
      let (digit, after) := printing.digit (0 ≤ d ∧ d < ndigits)
      fraction ndigits count (d + 1) { after with str := after.str ++ fourDigits digit }

/-- The header of a numeric. -/
structure Header where
  ndigits : Nat
  weight : Int
  sign : Nat
  dscale : Nat
  deriving DecidableEq, Repr

def readHeader (rp : List Byte) : Header where
  ndigits := readBE rp
  weight := signed 16 (readBE (rp.drop 2))
  sign := readBE (rp.drop 4)
  dscale := readBE (rp.drop 6)

/-- The fraction, chopped to `dscale` digits. -/
def printFraction (header : Header) (printing : Printing) : Printing :=
  if header.dscale = 0 then printing
  else
    let pointed := { printing with str := printing.str ++ [chr '.'] }
    let printed := fraction header.ndigits ((header.dscale + 3) / 4) (header.weight + 1) pointed
    { printed with str := printed.str.take (pointed.str.length + header.dscale) }

/-- The text of a value that is finite. -/
def printFinite (header : Header) (printing : Printing) : Option Printing :=
  let whole :=
    if header.weight < 0 then some { printing with str := printing.str ++ [chr '0'] }
    else integerPart header.ndigits (header.weight + 1).toNat 0 printing
  whole.map (printFraction header)

/-- What a sign begins the text with, and whether digits follow. -/
def signText (sign : Nat) : Option (List Byte × Bool) :=
  match sign with
  | 0x0000 => some ([], true)
  | 0x4000 => some ([chr '-'], true)
  | 0xC000 => some (ascii "NaN", false)
  | 0xD000 => some (ascii "Infinity", false)
  | 0xF000 => some (ascii "-Infinity", false)
  | _ => none

/-- `bindBinaryParameter` of a numeric: the text that is bound and the rest of the packet, or what the
ErrorResponse says. -/
def bindNumeric (paramsize : Nat) (rp : List Byte) : Except String (List Byte × List Byte) :=
  let header := readHeader rp
  if rp.length < 8 ∨ paramsize < 8 then .error "Invalid parameter size"
  else if rp.length - 8 < 2 * header.ndigits ∨ paramsize - 8 < 2 * header.ndigits then
    .error "Invalid parameter size"
  else if header.dscale > 0x3fff then .error "Invalid parameter scale"
  else
    match signText header.sign with
    | none => .error "Invalid parameter sign"
    | some (str, finite) =>
        let start := ⟨str, rp.drop 8, 0⟩
        match if finite then printFinite header start else some start with
        | none => .error "Invalid parameter digit"
        | some printing =>
            .ok (printing.str, printing.rp.drop (2 * (header.ndigits - printing.digitsread)))

/-! ## What is meant -/

/-- The digit groups that have been sent. -/
def groups (rp : List Byte) : List Nat :=
  (List.range (readHeader rp).ndigits).map fun d => readBE (rp.drop (8 + 2 * d))

/-- The number that decimal digits stand for. -/
def decimalValue (text : List Byte) : Nat :=
  Positional.number 10 (text.map fun digit => digit.toNat - 48)

/-- A decimal numeral for so many units, of which the last of so many fraction digits counts one. -/
def IsNumeral (sign : List Byte) (scale units : Nat) (text : List Byte) : Prop :=
  ∃ whole fraction, text = sign ++ (whole ++ if scale = 0 then [] else chr '.' :: fraction) ∧
    whole ≠ [] ∧ fraction.length = scale ∧
    (∀ digit ∈ whole ++ fraction, CString.isDigit digit = true) ∧
    decimalValue (whole ++ fraction) = units

/-- The text of a numeric: a numeral for its value, which is cut off behind the digits that are to be
shown, or a name. -/
def IsText (header : Header) (groups : List Nat) (text : List Byte) : Prop :=
  let units := ⌊Positional.value 10000 header.weight groups * 10 ^ header.dscale⌋₊
  match header.sign with
  | 0x0000 => IsNumeral [] header.dscale units text
  | 0x4000 => IsNumeral [chr '-'] header.dscale units text
  | 0xC000 => text = ascii "NaN"
  | 0xD000 => text = ascii "Infinity"
  | 0xF000 => text = ascii "-Infinity"
  | _ => False

/-- A numeric whose groups are not all of four digits is rejected, and any other one that is not is
bound as its text. -/
def Decodes (paramsize : Nat) (rp : List Byte) : Prop :=
  ∀ text rest, bindNumeric paramsize rp = .ok (text, rest) →
    (∀ group ∈ groups rp, group < 10000) ∧ IsText (readHeader rp) (groups rp) text

/-- The size, the scale or the sign of a numeric is refused. -/
def Refused (paramsize : Nat) (rp : List Byte) : Prop :=
  let header := readHeader rp
  (rp.length < 8 ∨ paramsize < 8) ∨
    (rp.length - 8 < 2 * header.ndigits ∨ paramsize - 8 < 2 * header.ndigits) ∨
      header.dscale > 0x3fff ∨ signText header.sign = none

/-! ## Decimal digits -/

theorem decimalValue_digits (number : Nat) : decimalValue (digits number) = number := by
  rw [decimalValue, Positional.number, List.foldl_map, digits,
    foldl_digits fun digit listed => Nat.isDigit_of_mem_toDigits (by decide) (by decide) listed,
    Nat.ofDigitChars_ten_toDigits]

theorem decimalValue_append (front rest : List Byte) :
    decimalValue (front ++ rest) = decimalValue front * 10 ^ rest.length + decimalValue rest := by
  rw [decimalValue, List.map_append, Positional.number_append, List.length_map]
  rfl

theorem decimalValue_zeros (count : Nat) : decimalValue (List.replicate count (chr '0')) = 0 := by
  rw [decimalValue, List.map_replicate]
  exact Positional.number_replicate_zero 10 count

theorem decimalValue_fourDigits (number : Nat) : decimalValue (fourDigits number) = number := by
  rw [fourDigits, decimalValue_append, decimalValue_zeros, Nat.zero_mul, Nat.zero_add,
    decimalValue_digits]

theorem length_fourDigits {number : Nat} (small : number < 10000) : (fourDigits number).length = 4 := by
  have enough : (digits number).length ≤ 4 := by
    rw [digits, List.length_map]
    exact (Nat.length_toDigits_le_iff (by decide) (by decide)).mpr small
  rw [fourDigits, List.length_append, List.length_replicate]
  omega

theorem isDigit_of_mem_fourDigits {number : Nat} {byte : Byte} (listed : byte ∈ fourDigits number) :
    CString.isDigit byte = true := by
  rcases List.mem_append.mp listed with zero | digit
  · rw [(List.mem_replicate.mp zero).2]
    decide
  · exact isDigit_of_mem_digits digit

/-- Groups that are printed with four digits each stand for the number that they make up. -/
theorem decimalValue_flatMap {groups : List Nat} (small : ∀ group ∈ groups, group < 10000) :
    decimalValue (groups.flatMap fourDigits) = Positional.number 10000 groups ∧
      (groups.flatMap fourDigits).length = 4 * groups.length := by
  have sized : ∀ group ∈ groups,
      ((fourDigits group).map fun digit => digit.toNat - 48).length = 4 ∧
        Positional.number 10 ((fourDigits group).map fun digit => digit.toNat - 48) = group := by
    intro group listed
    rw [List.length_map, length_fourDigits (small group listed), ← decimalValue,
      decimalValue_fourDigits]
    exact ⟨rfl, rfl⟩
  rcases Positional.number_flatMap sized with ⟨number_eq, length_eq⟩
  rw [← List.map_flatMap] at number_eq length_eq
  rw [List.length_map] at length_eq
  exact ⟨number_eq, length_eq⟩

/-! ## The loops -/

section Loops

variable {start : List Byte} {ndigits : Nat}

/-- The group `d` of those behind the header, which is 0 unless it has been sent. -/
def groupAt (start : List Byte) (ndigits : Nat) (d : Int) : Nat :=
  if 0 ≤ d ∧ d < ndigits then readBE (start.drop (2 * d.toNat)) else 0

/-- What has been printed before group `d` is printed. -/
def Printing.before (start : List Byte) (ndigits : Nat) (str : List Byte) (d : Int) : Printing :=
  ⟨str, start.drop (2 * min d.toNat ndigits), min d.toNat ndigits⟩

theorem Printing.digit_before (str : List Byte) (d : Int) :
    (Printing.before start ndigits str d).digit (0 ≤ d ∧ d < ndigits) =
      (groupAt start ndigits d, Printing.before start ndigits str (d + 1)) := by
  rw [Printing.digit, groupAt]
  by_cases sent : 0 ≤ d ∧ d < ndigits
  · have here : min d.toNat ndigits = d.toNat := by omega
    have next : min (d + 1).toNat ndigits = d.toNat + 1 := by omega
    simp only [sent, and_self, decide_true, if_true, Printing.before, here, next, List.drop_drop,
      Nat.mul_add, Nat.mul_one]
  · have next : min (d + 1).toNat ndigits = min d.toNat ndigits := by omega
    simp only [sent, decide_false, Bool.false_eq_true, if_false, Printing.before, next]

/-- How the loop over the integer part prints a group. -/
def wholeText (start : List Byte) (ndigits d : Nat) : List Byte :=
  if d = 0 then digits (groupAt start ndigits d) else fourDigits (groupAt start ndigits d)

theorem integerPart_eq (count d : Nat) (str : List Byte) :
    integerPart ndigits count d (.before start ndigits str d) =
      if ∀ e ∈ List.range' d count, groupAt start ndigits e < 10000 then
        some (.before start ndigits
          (str ++ (List.range' d count).flatMap (wholeText start ndigits)) (d + count : Nat))
      else none := by
  induction count generalizing d str with
  | zero => simp [integerPart]
  | succ count ih =>
      have printed := @Printing.digit_before start ndigits str d
      have sent : (0 ≤ (d : Int) ∧ (d : Int) < ndigits) ↔ d < ndigits := by omega
      simp only [sent] at printed
      rw [integerPart, printed]
      dsimp only
      have refused : (d < ndigits ∧ groupAt start ndigits d ≥ 10000) ↔
          ¬groupAt start ndigits d < 10000 := by
        rw [groupAt]
        split <;> omega
      rw [if_congr refused rfl rfl, ite_not, List.range'_succ, List.flatMap_cons]
      simp only [List.forall_mem_cons]
      by_cases small : groupAt start ndigits d < 10000
      · have next := ih (d + 1) (str ++ wholeText start ndigits d)
        have behind : ((d + 1 + count : Nat) : Int) = (d + (count + 1) : Nat) := by omega
        rw [if_pos small, if_congr (and_iff_right small) rfl rfl, ← behind, ← List.append_assoc, ← next]
        rfl
      · rw [if_neg small, if_neg fun both => small both.1]

theorem fraction_eq (count : Nat) (d : Int) (str : List Byte) :
    fraction ndigits count d (.before start ndigits str d) =
      .before start ndigits
        (str ++ ((List.range count).map fun e : Nat => groupAt start ndigits (d + e)).flatMap fourDigits)
        (d + count) := by
  induction count generalizing d str with
  | zero => simp [fraction]
  | succ count ih =>
      have next := ih (d + 1) (str ++ fourDigits (groupAt start ndigits d))
      have behind : d + 1 + (count : Int) = d + (count + 1 : Nat) := by omega
      rw [fraction, Printing.digit_before]
      dsimp only
      have shifted : (fun e : Nat => groupAt start ndigits (d + e)) ∘ Nat.succ =
          fun e : Nat => groupAt start ndigits (d + 1 + e) := by
        funext e
        rw [Function.comp, Nat.cast_succ, add_assoc, add_comm 1]
      rw [List.range_succ_eq_map, List.map_cons, List.flatMap_cons, List.map_map, shifted, ← behind,
        ← List.append_assoc, Nat.cast_zero, add_zero, ← next]
      rfl

end Loops

/-! ## The text -/

section Text

variable (header : Header) (start : List Byte)

/-- The digits in front of the point. -/
def wholePart : List Byte :=
  if header.weight < 0 then [chr '0']
  else (List.range' 0 (header.weight + 1).toNat).flatMap (wholeText start header.ndigits)

/-- The groups that the fraction is printed from. -/
def fractionGroups : List Nat :=
  (List.range ((header.dscale + 3) / 4)).map fun e : Nat =>
    groupAt start header.ndigits (header.weight + 1 + e)

/-- The digits behind the point. -/
def fractionPart : List Byte := ((fractionGroups header start).flatMap fourDigits).take header.dscale

theorem printFraction_before (text : List Byte) (d : Int)
    (next : d.toNat = (header.weight + 1).toNat) :
    (printFraction header (.before start header.ndigits text d)).str =
      text ++ if header.dscale = 0 then [] else chr '.' :: fractionPart header start := by
  rw [printFraction]
  split
  case isTrue => rw [List.append_nil]; rfl
  case isFalse =>
    have pointed : ({ Printing.before start header.ndigits text d with
        str := (Printing.before start header.ndigits text d).str ++ [chr '.'] } : Printing) =
          .before start header.ndigits (text ++ [chr '.']) (header.weight + 1) := by
      simp only [Printing.before, next]
    have behind : text ++ chr '.' :: fractionPart header start =
        text ++ [chr '.'] ++ fractionPart header start := by simp
    rw [pointed]
    dsimp only
    rw [fraction_eq, behind]
    exact List.take_length_add_append _

theorem printFinite_str (str : List Byte) :
    (printFinite header ⟨str, start, 0⟩).map Printing.str =
      if ∀ d ∈ List.range' 0 (header.weight + 1).toNat, groupAt start header.ndigits d < 10000 then
        some (str ++ (wholePart header start ++
          if header.dscale = 0 then [] else chr '.' :: fractionPart header start))
      else none := by
  have begun : (⟨str, start, 0⟩ : Printing) = .before start header.ndigits str 0 := by
    simp [Printing.before]
  rw [printFinite, Option.map_map, begun, ← List.append_assoc]
  by_cases negative : header.weight < 0
  · have none_there : (header.weight + 1).toNat = 0 := by omega
    have text := printFraction_before header start (str ++ [chr '0']) 0 none_there.symm
    simp only [none_there, List.range'_zero, List.not_mem_nil, false_imp_iff, implies_true, if_true]
    rw [wholePart, if_pos negative, if_pos negative, ← text]
    rfl
  · have printed := @integerPart_eq start header.ndigits (header.weight + 1).toNat 0 str
    rw [Nat.cast_zero, Nat.zero_add] at printed
    rw [wholePart, if_neg negative, if_neg negative, printed]
    split
    case isTrue =>
      have text := printFraction_before header start
        (str ++ (List.range' 0 (header.weight + 1).toNat).flatMap (wholeText start header.ndigits))
        (header.weight + 1).toNat (Int.toNat_natCast _)
      rw [← text]
      rfl
    case isFalse => rfl

/-! ## Its value -/

theorem groupAt_of_neg {ndigits : Nat} {d : Int} (negative : d < 0) : groupAt start ndigits d = 0 :=
  if_neg fun sent => Int.not_le.mpr negative sent.1

/-- The first group is printed without zeros in front of it, and stands for itself all the same. -/
theorem decimalValue_wholeText {ndigits weight : Nat}
    (small : ∀ d : Nat, groupAt start ndigits d < 10000) :
    decimalValue ((List.range' 0 (weight + 1)).flatMap (wholeText start ndigits)) =
      Positional.number 10000 ((List.range (weight + 1)).map fun e : Nat => groupAt start ndigits e) := by
  have others : ∀ d ∈ List.range' 1 weight,
      wholeText start ndigits d = fourDigits (groupAt start ndigits d) := by
    intro d listed
    rw [wholeText, if_neg]
    have positive := (List.mem_range'_1.mp listed).1
    omega
  have smallOthers : ∀ group ∈ (List.range' 1 weight).map fun e : Nat => groupAt start ndigits e,
      group < 10000 := by
    intro group listed
    rcases List.mem_map.mp listed with ⟨d, _, rfl⟩
    exact small d
  rcases decimalValue_flatMap smallOthers with ⟨number_eq, length_eq⟩
  have first : wholeText start ndigits 0 = digits (groupAt start ndigits 0) := rfl
  rw [List.flatMap_map] at number_eq length_eq
  rw [List.range_eq_range', List.range'_succ, List.flatMap_cons, List.flatMap_congr others,
    decimalValue_append, number_eq, length_eq, first, decimalValue_digits, List.map_cons,
    Positional.number_cons, pow_mul]
  rfl

/-- All groups that are printed, one after the other. -/
theorem decimalValue_parts
    (small : ∀ d : Nat, groupAt start header.ndigits d < 10000) :
    decimalValue (wholePart header start ++ (fractionGroups header start).flatMap fourDigits) =
      Positional.number 10000 ((List.range (header.weight + 1 + ((header.dscale + 3) / 4 : Nat)).toNat).map
        fun e : Nat => groupAt start header.ndigits e) := by
  have smallAt (d : Int) : groupAt start header.ndigits d < 10000 := by
    by_cases sent : 0 ≤ d
    · rw [← Int.toNat_of_nonneg sent]
      exact small d.toNat
    · rw [groupAt_of_neg start (Int.not_le.mp sent)]
      decide
  have smallFraction : ∀ group ∈ fractionGroups header start, group < 10000 := by
    intro group listed
    rcases List.mem_map.mp listed with ⟨e, _, rfl⟩
    exact smallAt _
  rcases decimalValue_flatMap smallFraction with ⟨fraction_eq, length_eq⟩
  rw [decimalValue_append, fraction_eq, length_eq, wholePart]
  by_cases negative : header.weight < 0
  · have zero : decimalValue [chr '0'] = 0 := decimalValue_zeros 1
    rw [if_pos negative, zero, Nat.zero_mul, Nat.zero_add]
    exact Positional.number_shifted 10000 _ (fun d negative => groupAt_of_neg start negative)
      (by omega)
  · obtain ⟨weight, weight_eq⟩ := Int.eq_ofNat_of_zero_le (Int.not_lt.mp negative)
    have count_eq : (header.weight + 1).toNat = weight + 1 := by omega
    have all_eq : (header.weight + 1 + ((header.dscale + 3) / 4 : Nat)).toNat =
        weight + 1 + (header.dscale + 3) / 4 := by omega
    have behind : (fun e : Nat => groupAt start header.ndigits e) ∘ (weight + 1 + ·) =
        fun e : Nat => groupAt start header.ndigits (header.weight + 1 + e) := by
      funext e
      rw [Function.comp, weight_eq]
      congr 1
    have length : (fractionGroups header start).length = (header.dscale + 3) / 4 := by
      rw [fractionGroups, List.length_map, List.length_range]
    rw [if_neg negative, count_eq, all_eq, decimalValue_wholeText start small,
      @List.range_add (weight + 1),
      List.map_append, List.map_map, behind, Positional.number_append, ← fractionGroups, length, pow_mul]
    rfl

theorem length_fractionGroups :
    (fractionGroups header start).length = (header.dscale + 3) / 4 := by
  rw [fractionGroups, List.length_map, List.length_range]

theorem isDigit_of_mem_wholePart {byte : Byte} (listed : byte ∈ wholePart header start) :
    CString.isDigit byte = true := by
  rw [wholePart] at listed
  split at listed
  case isTrue =>
    rw [List.mem_singleton.mp listed]
    decide
  case isFalse =>
    rcases List.mem_flatMap.mp listed with ⟨d, _, inText⟩
    rw [wholeText] at inText
    split at inText
    case isTrue => exact isDigit_of_mem_digits inText
    case isFalse => exact isDigit_of_mem_fourDigits inText

theorem wholePart_ne_nil : wholePart header start ≠ [] := by
  rw [wholePart]
  split
  case isTrue => exact List.cons_ne_nil _ _
  case isFalse negative =>
    obtain ⟨others, count_eq⟩ : ∃ others, (header.weight + 1).toNat = others + 1 := by
      apply Nat.exists_eq_add_one.mpr
      omega
    rw [count_eq, List.range'_succ, List.flatMap_cons]
    apply List.append_ne_nil_of_left_ne_nil
    rw [wholeText, if_pos rfl, digits, Ne, List.map_eq_nil_iff]
    exact List.ne_nil_of_length_pos Nat.length_toDigits_pos

theorem isDigit_sub_lt {digit : Byte} (isDigit : CString.isDigit digit = true) :
    digit.toNat - 48 < 10 := by
  simp only [CString.isDigit, Bool.and_eq_true, decide_eq_true_eq, UInt8.le_iff_toNat_le] at isDigit
  have last : (chr '9').toNat = 57 := by decide
  omega

theorem decimalValue_take {text : List Byte} (isDigit : ∀ digit ∈ text, CString.isDigit digit = true)
    (count : Nat) : decimalValue (text.take count) = decimalValue text / 10 ^ (text.length - count) := by
  have small : ∀ digit ∈ text.map fun digit : Byte => digit.toNat - 48, digit < 10 := by
    intro digit listed
    rcases List.mem_map.mp listed with ⟨byte, inText, rfl⟩
    exact isDigit_sub_lt (isDigit byte inText)
  rw [decimalValue, List.map_take, Positional.number_take small, List.length_map]
  rfl

/-- What is printed is a numeral for the groups, from the first one to the last one that the scale shows,
cut off behind the last digit that is shown. -/
theorem printed_isNumeral (sign : List Byte)
    (small : ∀ d : Nat, groupAt start header.ndigits d < 10000) :
    IsNumeral sign header.dscale
      (Positional.number 10000
        ((List.range (header.weight + 1 + ((header.dscale + 3) / 4 : Nat)).toNat).map
          fun e : Nat => groupAt start header.ndigits e) /
            10 ^ (4 * ((header.dscale + 3) / 4) - header.dscale))
      (sign ++ (wholePart header start ++
        if header.dscale = 0 then [] else chr '.' :: fractionPart header start)) := by
  have smallFraction : ∀ group ∈ fractionGroups header start, group < 10000 := by
    intro group listed
    rcases List.mem_map.mp listed with ⟨e, _, rfl⟩
    by_cases sent : 0 ≤ header.weight + 1 + (e : Int)
    · rw [← Int.toNat_of_nonneg sent]
      exact small _
    · rw [groupAt_of_neg start (Int.not_le.mp sent)]
      decide
  have full := (decimalValue_flatMap smallFraction).2
  rw [length_fractionGroups] at full
  have isDigit : ∀ digit ∈ wholePart header start ++ (fractionGroups header start).flatMap fourDigits,
      CString.isDigit digit = true := by
    intro digit listed
    rcases List.mem_append.mp listed with inWhole | inFraction
    · exact isDigit_of_mem_wholePart header start inWhole
    · rcases List.mem_flatMap.mp inFraction with ⟨group, _, inGroup⟩
      exact isDigit_of_mem_fourDigits inGroup
  have cut : (wholePart header start ++ (fractionGroups header start).flatMap fourDigits).take
      ((wholePart header start).length + header.dscale) =
        wholePart header start ++ fractionPart header start := List.take_length_add_append _
  refine ⟨_, _, rfl, wholePart_ne_nil header start, ?_, ?_, ?_⟩
  · rw [fractionPart, List.length_take, full]
    omega
  · rw [← cut]
    exact fun digit listed => isDigit digit (List.mem_of_mem_take listed)
  · have behind : (wholePart header start).length + 4 * ((header.dscale + 3) / 4) -
        ((wholePart header start).length + header.dscale) =
          4 * ((header.dscale + 3) / 4) - header.dscale := by omega
    rw [← cut, decimalValue_take isDigit, decimalValue_parts header start small, List.length_append,
      full, behind]

end Text

/-- The value of a numeric, cut off behind the last digit that is shown. -/
theorem floor_value_eq (weight : Int) {groups : List Nat} (small : ∀ group ∈ groups, group < 10000)
    (dscale : Nat) : ⌊Positional.value 10000 weight groups * 10 ^ dscale⌋₊ =
      Positional.leading 10000 (weight + 1 + ((dscale + 3) / 4 : Nat)).toNat groups /
        10 ^ (4 * ((dscale + 3) / 4) - dscale) := by
  have places : (10 : ℚ) ^ dscale = (10000 : Nat) ^ ((dscale + 3) / 4) /
      (10 ^ (4 * ((dscale + 3) / 4) - dscale) : Nat) := by
    have split : 4 * ((dscale + 3) / 4) = dscale + (4 * ((dscale + 3) / 4) - dscale) := by omega
    have power : ((10000 : Nat) : ℚ) = 10 ^ 4 := by norm_num
    rw [power, ← pow_mul, split, pow_add, ← split, Nat.cast_pow, Nat.cast_ofNat]
    exact (mul_div_cancel_right₀ _ (pow_ne_zero _ (by norm_num))).symm
  rw [places, mul_div_assoc', Nat.floor_div_natCast,
    Positional.floor_value (by decide) weight small ((dscale + 3) / 4)]

/-! ## Which numerics are decoded -/

section Decoding

variable {paramsize : Nat} {rp : List Byte} {str : List Byte}

/-- The text that is bound, if there is one. -/
def boundText (paramsize : Nat) (rp : List Byte) : Option (List Byte) :=
  (bindNumeric paramsize rp).toOption.map Prod.fst

theorem decodes_iff_boundText : Decodes paramsize rp ↔ ∀ text, boundText paramsize rp = some text →
    (∀ group ∈ groups rp, group < 10000) ∧ IsText (readHeader rp) (groups rp) text := by
  rw [Decodes, boundText]
  cases bindNumeric paramsize rp with
  | error message => exact iff_of_true (fun _ _ same => by cases same) (fun _ same => by cases same)
  | ok bound =>
      rcases bound with ⟨bound, rest⟩
      constructor
      · intro decodes text same
        cases same
        exact decodes bound rest rfl
      · intro decodes text rest' same
        cases same
        exact decodes bound rfl

theorem boundText_of_refused (refused : Refused paramsize rp) : boundText paramsize rp = none := by
  rw [boundText, bindNumeric]
  dsimp only
  rcases refused with size | size | scale | sign
  · rw [if_pos size]
    rfl
  · split <;> rfl
  · split
    case isTrue => rfl
    case isFalse => split <;> rfl
  · rw [sign]
    split
    case isTrue => rfl
    case isFalse =>
      split
      case isTrue => rfl
      case isFalse => split <;> rfl

theorem boundText_of_accepted (accepted : ¬Refused paramsize rp) {finite : Bool}
    (sign : signText (readHeader rp).sign = some (str, finite)) :
    boundText paramsize rp =
      if finite then (printFinite (readHeader rp) ⟨str, rp.drop 8, 0⟩).map Printing.str
      else some str := by
  simp only [Refused, not_or] at accepted
  rw [boundText, bindNumeric]
  dsimp only
  rw [if_neg (not_or.mpr accepted.1), if_neg (not_or.mpr accepted.2.1), if_neg accepted.2.2.1, sign]
  dsimp only
  cases finite with
  | false => rfl
  | true =>
      simp only [if_true]
      cases printFinite (readHeader rp) ⟨str, rp.drop 8, 0⟩ <;> rfl

theorem groupAt_eq_getD (rp : List Byte) (d : Nat) :
    groupAt (rp.drop 8) (readHeader rp).ndigits d = (groups rp).getD d 0 := by
  rw [groupAt, groups, List.getD_eq_getElem?_getD, List.getElem?_map]
  by_cases sent : d < (readHeader rp).ndigits
  · rw [if_pos ⟨by omega, by omega⟩, List.getElem?_range sent, List.drop_drop]
    rfl
  · rw [if_neg fun both => sent (by omega), List.getElem?_eq_none (by simpa using sent)]
    rfl

theorem groupAt_lt_iff : (∀ d : Nat, groupAt (rp.drop 8) (readHeader rp).ndigits d < 10000) ↔
    ∀ group ∈ groups rp, group < 10000 := by
  constructor
  · intro small group listed
    rcases List.mem_iff_getElem.mp listed with ⟨d, inside, rfl⟩
    have here := small d
    rw [groupAt_eq_getD, List.getD_eq_getElem?_getD, List.getElem?_eq_getElem inside] at here
    exact here
  · intro small d
    rw [groupAt_eq_getD, List.getD_eq_getElem?_getD]
    cases found : (groups rp)[d]? with
    | none => decide
    | some group => exact small group (List.mem_of_getElem? found)

/-- The sign of a value that is finite. -/
def Header.Finite (header : Header) : Prop := header.sign = 0x0000 ∨ header.sign = 0x4000

/-- A group of the integer part is no group of four digits. -/
def WholeGroupTooLarge (rp : List Byte) : Prop :=
  ∃ d : Nat, (d : Int) ≤ (readHeader rp).weight ∧ 10000 ≤ (groups rp).getD d 0

theorem wholeGroups_iff : (∀ d ∈ List.range' 0 ((readHeader rp).weight + 1).toNat,
    groupAt (rp.drop 8) (readHeader rp).ndigits d < 10000) ↔ ¬WholeGroupTooLarge rp := by
  simp only [WholeGroupTooLarge, not_exists, not_and, Nat.not_le, groupAt_eq_getD, List.mem_range'_1]
  constructor
  · exact fun small d inside => small d (by omega)
  · exact fun small d listed => small d (by omega)

/-- The text of a finite value. -/
theorem boundText_finite (accepted : ¬Refused paramsize rp)
    (sign : signText (readHeader rp).sign = some (str, true)) (whole : ¬WholeGroupTooLarge rp) :
    ∃ text, boundText paramsize rp = some text ∧ ((∀ group ∈ groups rp, group < 10000) →
      IsNumeral str (readHeader rp).dscale
        ⌊Positional.value 10000 (readHeader rp).weight (groups rp) * 10 ^ (readHeader rp).dscale⌋₊
        text) := by
  refine ⟨str ++ (wholePart (readHeader rp) (rp.drop 8) ++ if (readHeader rp).dscale = 0 then []
    else chr '.' :: fractionPart (readHeader rp) (rp.drop 8)), ?_, ?_⟩
  · rw [boundText_of_accepted accepted sign, if_pos rfl, printFinite_str,
      if_pos (wholeGroups_iff.mpr whole)]
  · intro small
    have printed := printed_isNumeral (readHeader rp) (rp.drop 8) str (groupAt_lt_iff.mpr small)
    simp only [groupAt_eq_getD] at printed
    rw [floor_value_eq _ small, Positional.leading_eq]
    exact printed

theorem decodes_of_finite (accepted : ¬Refused paramsize rp)
    (sign : signText (readHeader rp).sign = some (str, true))
    (isText : ∀ text, IsText (readHeader rp) (groups rp) text ↔ IsNumeral str (readHeader rp).dscale
      ⌊Positional.value 10000 (readHeader rp).weight (groups rp) * 10 ^ (readHeader rp).dscale⌋₊ text) :
    Decodes paramsize rp ↔ (∀ group ∈ groups rp, group < 10000) ∨ WholeGroupTooLarge rp := by
  rw [decodes_iff_boundText]
  by_cases whole : WholeGroupTooLarge rp
  · have rejected : boundText paramsize rp = none := by
      rw [boundText_of_accepted accepted sign, if_pos rfl, printFinite_str,
        if_neg fun small => wholeGroups_iff.mp small whole]
    rw [rejected]
    exact iff_of_true (fun _ same => by cases same) (Or.inr whole)
  · rcases boundText_finite accepted sign whole with ⟨text, bound, numeral⟩
    rw [bound, or_iff_left whole]
    constructor
    · exact fun decodes => (decodes text rfl).1
    · intro small text' same
      cases same
      exact ⟨small, (isText text).mpr (numeral small)⟩

theorem decodes_of_name (accepted : ¬Refused paramsize rp)
    (sign : signText (readHeader rp).sign = some (str, false))
    (isText : IsText (readHeader rp) (groups rp) str) :
    Decodes paramsize rp ↔ ∀ group ∈ groups rp, group < 10000 := by
  rw [decodes_iff_boundText, boundText_of_accepted accepted sign, if_neg Bool.false_ne_true]
  constructor
  · exact fun decodes => (decodes str rfl).1
  · intro small text same
    cases same
    exact ⟨small, isText⟩

theorem signText_ne_none {sign : Nat} (known : signText sign ≠ none) : sign = 0x0000 ∨
    sign = 0x4000 ∨ sign = 0xC000 ∨ sign = 0xD000 ∨ sign = 0xF000 := by
  unfold signText at known
  split at known
  case h_1 => exact Or.inl rfl
  case h_2 => exact Or.inr (Or.inl rfl)
  case h_3 => exact Or.inr (Or.inr (Or.inl rfl))
  case h_4 => exact Or.inr (Or.inr (Or.inr (Or.inl rfl)))
  case h_5 => exact Or.inr (Or.inr (Or.inr (Or.inr rfl)))
  case h_6 => contradiction

/-- A numeric that is not refused for its size, scale or sign is decoded as it has to be if and only if
all of its groups are groups of four digits, or one that is not is in the integer part of a finite
value: no other group is looked at. -/
theorem decodes_iff_groups (paramsize : Nat) (rp : List Byte) : Decodes paramsize rp ↔
    Refused paramsize rp ∨ (∀ group ∈ groups rp, group < 10000) ∨
      (readHeader rp).Finite ∧ WholeGroupTooLarge rp := by
  by_cases accepted : Refused paramsize rp
  · apply iff_of_true _ (Or.inl accepted)
    rw [decodes_iff_boundText, boundText_of_refused accepted]
    exact fun _ same => by cases same
  · rw [or_iff_right accepted]
    have known : signText (readHeader rp).sign ≠ none := fun none_there =>
      accepted (Or.inr (Or.inr (Or.inr none_there)))
    by_cases finite : (readHeader rp).Finite
    · rw [and_iff_right finite]
      rcases finite with sign | sign
      · exact decodes_of_finite accepted (by rw [sign]; rfl) fun text => by rw [IsText, sign]; rfl
      · exact decodes_of_finite accepted (by rw [sign]; rfl) fun text => by rw [IsText, sign]; rfl
    · rw [or_iff_left fun both => finite both.1]
      rw [Header.Finite, not_or] at finite
      rcases signText_ne_none known with sign | sign | sign | sign | sign
      · exact absurd sign finite.1
      · exact absurd sign finite.2
      · exact decodes_of_name accepted (by rw [sign]; rfl) (by rw [IsText, sign]; rfl)
      · exact decodes_of_name accepted (by rw [sign]; rfl) (by rw [IsText, sign]; rfl)
      · exact decodes_of_name accepted (by rw [sign]; rfl) (by rw [IsText, sign]; rfl)

/-- A group that is behind the point, of the value 1 with one group of 10000 in its fraction. -/
theorem not_decodes_fractionGroup :
    ¬Decodes 12 [0, 2, 0, 0, 0, 0, 0, 4, 0, 1, 39, 16] := by
  intro decodes
  have bound : bindNumeric 12 [0, 2, 0, 0, 0, 0, 0, 4, 0, 1, 39, 16] =
      .ok (ascii "1.1000", []) := by decide
  exact absurd ((decodes _ _ bound).1 10000 (by decide)) (by decide)

end Decoding

end SqlRelay.Postgresql.Numeric
