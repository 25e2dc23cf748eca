import SqlRelay.Postgresql.Numeric

/-!
# The bytes that a numeric is read from

The digit groups of a binary numeric are read as the loops need them, and the pointer moves over those
that they did not need.  The loops keep to the groups that have been counted, and the pointer stops
behind the last of them, whatever the size of the parameter is.
-/

namespace SqlRelay.Postgresql.Numeric

open SqlRelay.Foundation

/-- `digit`; none if the group is not in the packet. -/
def Printing.digitWithin (printing : Printing) (sent : Bool) : Option (Nat × Printing) :=
  if sent = true ∧ printing.rp.length < 2 then none else some (printing.digit sent)

/-- `integerPart`; none if it reads outside of the packet. -/
def integerPartWithin (ndigits : Nat) : Nat → Nat → Printing → Option (Option Printing)
  | 0, _, printing => some (some printing)
  | count + 1, d, printing => do
      let (digit, after) ← printing.digitWithin (d < ndigits)
      if d < ndigits ∧ digit ≥ 10000 then some none
      else
        integerPartWithin ndigits count (d + 1) { after with
          str := after.str ++ if d = 0 then digits digit else fourDigits digit }

/-- `fraction`; none if it reads outside of the packet. -/
def fractionWithin (ndigits : Nat) : Nat → Int → Printing → Option Printing
  | 0, _, printing => some printing
  | count + 1, d, printing => do
      let (digit, after) ← printing.digitWithin (0 ≤ d ∧ d < ndigits)
      fractionWithin ndigits count (d + 1) { after with str := after.str ++ fourDigits digit }

def printFractionWithin (header : Header) (printing : Printing) : Option Printing :=
  if header.dscale = 0 then some printing
  else do
    let pointed := { printing with str := printing.str ++ [chr '.'] }
    let printed ← fractionWithin header.ndigits ((header.dscale + 3) / 4) (header.weight + 1) pointed
    some { printed with str := printed.str.take (pointed.str.length + header.dscale) }

def printFiniteWithin (header : Header) (printing : Printing) : Option (Option Printing) := do
  let whole ←
    if header.weight < 0 then some (some { printing with str := printing.str ++ [chr '0'] })
    else integerPartWithin header.ndigits (header.weight + 1).toNat 0 printing
  match whole with
  | none => some none
  | some printing => (printFractionWithin header printing).map some

/-- `bindNumeric`; none if it reads outside of the packet. -/
def bindNumericWithin (paramsize : Nat) (rp : List Byte) :
    Option (Except String (List Byte × List Byte)) :=
  let header := readHeader rp
  if rp.length < 8 ∨ paramsize < 8 then some (.error "Invalid parameter size")
  else if rp.length - 8 < 2 * header.ndigits ∨ paramsize - 8 < 2 * header.ndigits then
    some (.error "Invalid parameter size")
  else if header.dscale > 0x3fff then some (.error "Invalid parameter scale")
  else
    match signText header.sign with
    | none => some (.error "Invalid parameter sign")
    | some (str, finite) => do
        let start := ⟨str, rp.drop 8, 0⟩
        match ← if finite then printFiniteWithin header start else some (some start) with
        | none => some (.error "Invalid parameter digit")
        | some printing =>
            some (.ok (printing.str, printing.rp.drop (2 * (header.ndigits - printing.digitsread))))

/-- The pointer is at a group, and as many have been read as are in front of it. -/
structure Printing.At (start : List Byte) (ndigits : Nat) (printing : Printing) (d : Int) : Prop where
  digitsread : printing.digitsread = min d.toNat ndigits
  rp : printing.rp = start.drop (2 * printing.digitsread)

variable {start : List Byte} {ndigits : Nat} {printing : Printing}

theorem Printing.At.before_eq {d : Int} (here : printing.At start ndigits d) :
    printing = .before start ndigits printing.str d := by
  rcases printing with ⟨str, rp, digitsread⟩
  have counted : digitsread = min d.toNat ndigits := here.digitsread
  have pointer : rp = start.drop (2 * digitsread) := here.rp
  rw [pointer, counted]
  rfl

theorem Printing.before_at (str : List Byte) (d : Int) :
    (Printing.before start ndigits str d).At start ndigits d := ⟨rfl, rfl⟩

/-- With all groups in the packet, the next one can be read. -/
theorem Printing.digitWithin_before (enough : 2 * ndigits ≤ start.length) (str : List Byte) (d : Int) :
    (Printing.before start ndigits str d).digitWithin (0 ≤ d ∧ d < ndigits) =
      some ((Printing.before start ndigits str d).digit (0 ≤ d ∧ d < ndigits)) := by
  rw [Printing.digitWithin, if_neg]
  rintro ⟨sent, short⟩
  rw [decide_eq_true_eq] at sent
  rw [Printing.before, List.length_drop] at short
  omega

theorem integerPartWithin_eq (enough : 2 * ndigits ≤ start.length) (count d : Nat) (str : List Byte) :
    integerPartWithin ndigits count d (.before start ndigits str d) =
      some (integerPart ndigits count d (.before start ndigits str d)) := by
  induction count generalizing d str with
  | zero => rfl
  | succ count ih =>
      have within := Printing.digitWithin_before enough str d
      have printed := @Printing.digit_before start ndigits str d
      have sent : (0 ≤ (d : Int) ∧ (d : Int) < ndigits) ↔ d < ndigits := by omega
      simp only [sent] at printed within
      rw [printed] at within
      rw [integerPartWithin, integerPart, printed, within, Option.bind_eq_bind, Option.bind_some]
      dsimp only
      split
      case isTrue => rfl
      case isFalse => exact ih (d + 1) _

theorem fractionWithin_eq (enough : 2 * ndigits ≤ start.length) (count : Nat) (d : Int)
    (str : List Byte) :
    fractionWithin ndigits count d (.before start ndigits str d) =
      some (fraction ndigits count d (.before start ndigits str d)) := by
  induction count generalizing d str with
  | zero => rfl
  | succ count ih =>
      rw [fractionWithin, fraction, Printing.digitWithin_before enough, Printing.digit_before,
        Option.bind_eq_bind, Option.bind_some]
      exact ih (d + 1) _

/-- Behind the integer part, the pointer is at the first group of the fraction. -/
theorem integerPart_at {count d : Nat} {str : List Byte} {printed : Printing}
    (some : integerPart ndigits count d (.before start ndigits str d) = some printed) :
    printed.At start ndigits (d + count : Nat) := by
  rw [integerPart_eq] at some
  split at some
  case isTrue =>
    cases some
    exact Printing.before_at _ _
  case isFalse => cases some

theorem fraction_at (count : Nat) (d : Int) (str : List Byte) :
    (fraction ndigits count d (.before start ndigits str d)).At start ndigits (d + count) := by
  rw [fraction_eq]
  exact Printing.before_at _ _

/-- Only the number of groups in front of the pointer counts. -/
theorem Printing.At.congr {d e : Int} (here : printing.At start ndigits d)
    (same : d.toNat = e.toNat) : printing.At start ndigits e := by
  refine ⟨?_, here.rp⟩
  rw [here.digitsread, same]

/-- What is appended to the text does not move the pointer. -/
theorem Printing.At.append {d : Int} (here : printing.At start ndigits d) (str : List Byte) :
    ({ printing with str := str } : Printing).At start ndigits d := ⟨here.digitsread, here.rp⟩

/-- The pointer is behind the last group once it has been moved over those that were not read. -/
theorem Printing.At.drop_rest {d : Int} (here : printing.At start ndigits d) :
    printing.rp.drop (2 * (ndigits - printing.digitsread)) = start.drop (2 * ndigits) := by
  have counted := here.digitsread
  rw [here.rp, List.drop_drop]
  congr 1
  omega

section Text

variable {header : Header}

theorem printFraction_at (here : printing.At start header.ndigits (header.weight + 1)) :
    ∃ d, (printFraction header printing).At start header.ndigits d := by
  rw [printFraction]
  split
  case isTrue => exact ⟨_, here⟩
  case isFalse =>
    dsimp only
    rw [(here.append (printing.str ++ [chr '.'])).before_eq]
    exact ⟨_, (fraction_at _ _ _).append _⟩

theorem printFractionWithin_eq (enough : 2 * header.ndigits ≤ start.length)
    (here : printing.At start header.ndigits (header.weight + 1)) :
    printFractionWithin header printing = some (printFraction header printing) := by
  rw [printFractionWithin, printFraction]
  split
  case isTrue => rfl
  case isFalse =>
    dsimp only
    rw [(here.append (printing.str ++ [chr '.'])).before_eq, fractionWithin_eq enough]
    rfl

/-- A value begins at the first group. -/
theorem begin_at (str : List Byte) :
    (⟨str, start, 0⟩ : Printing) = .before start ndigits str 0 := by
  simp [Printing.before]

theorem begin_of_neg (negative : header.weight < 0) (str : List Byte) :
    (⟨str, start, 0⟩ : Printing).At start header.ndigits (header.weight + 1) := by
  rw [@begin_at start header.ndigits]
  exact (Printing.before_at str 0).congr (by omega)

theorem whole_at {str : List Byte} {printed : Printing} (positive : ¬header.weight < 0)
    (some : integerPart header.ndigits (header.weight + 1).toNat 0
      (.before start header.ndigits str 0) = some printed) :
    printed.At start header.ndigits (header.weight + 1) :=
  (integerPart_at (d := 0) some).congr (by omega)

theorem printFinite_at {str : List Byte} {printed : Printing}
    (some : printFinite header ⟨str, start, 0⟩ = some printed) :
    ∃ d, printed.At start header.ndigits d := by
  rw [printFinite] at some
  dsimp only at some
  by_cases negative : header.weight < 0
  · rw [if_pos negative] at some
    cases some
    exact printFraction_at ((begin_of_neg negative str).append _)
  · rw [if_neg negative, @begin_at start header.ndigits] at some
    obtain ⟨whole, found, rfl⟩ := Option.map_eq_some_iff.mp some
    exact printFraction_at (whole_at negative found)

theorem printFiniteWithin_eq (enough : 2 * header.ndigits ≤ start.length) (str : List Byte) :
    printFiniteWithin header ⟨str, start, 0⟩ = some (printFinite header ⟨str, start, 0⟩) := by
  rw [printFiniteWithin, printFinite]
  by_cases negative : header.weight < 0
  · rw [if_pos negative, if_pos negative, Option.bind_eq_bind, Option.bind_some]
    dsimp only
    rw [printFractionWithin_eq enough ((begin_of_neg negative str).append _)]
    rfl
  · have within := integerPartWithin_eq enough (header.weight + 1).toNat 0 str
    rw [Nat.cast_zero] at within
    rw [if_neg negative, if_neg negative, @begin_at start header.ndigits, within,
      Option.bind_eq_bind, Option.bind_some]
    cases found : integerPart header.ndigits (header.weight + 1).toNat 0
        (.before start header.ndigits str 0) with
    | none => rfl
    | some printed =>
        dsimp only
        rw [printFractionWithin_eq enough (whole_at negative found)]
        rfl

end Text

variable {paramsize : Nat} {rp : List Byte}

/-- A numeric is read from the packet only, whatever it is. -/
theorem bindNumericWithin_eq (paramsize : Nat) (rp : List Byte) :
    bindNumericWithin paramsize rp = some (bindNumeric paramsize rp) := by
  rw [bindNumericWithin, bindNumeric]
  dsimp only
  split
  case isTrue => rfl
  case isFalse header =>
    split
    case isTrue => rfl
    case isFalse counted =>
      have enough : 2 * (readHeader rp).ndigits ≤ (rp.drop 8).length := by
        rw [List.length_drop]
        omega
      split
      case isTrue => rfl
      case isFalse =>
        cases signText (readHeader rp).sign with
        | none => rfl
        | some text =>
            rcases text with ⟨str, finite⟩
            cases finite with
            | false => rfl
            | true =>
                simp only [if_true]
                rw [printFiniteWithin_eq enough, Option.bind_eq_bind, Option.bind_some]
                cases printFinite (readHeader rp) ⟨str, rp.drop 8, 0⟩ <;> rfl

/-- It takes its header and the groups that it counts, all of them in the parameter. -/
theorem bindNumeric_ok {text rest : List Byte} (bound : bindNumeric paramsize rp = .ok (text, rest)) :
    rest = rp.drop (8 + 2 * (readHeader rp).ndigits) ∧
      8 + 2 * (readHeader rp).ndigits ≤ paramsize ∧
        8 + 2 * (readHeader rp).ndigits ≤ rp.length := by
  rw [bindNumeric] at bound
  dsimp only at bound
  split at bound
  case isTrue => cases bound
  case isFalse header =>
    split at bound
    case isTrue => cases bound
    case isFalse counted =>
      refine ⟨?_, by omega, by omega⟩
      split at bound
      case isTrue => cases bound
      case isFalse =>
        rw [← List.drop_drop]
        cases sign : signText (readHeader rp).sign with
        | none =>
            rw [sign] at bound
            cases bound
        | some text =>
            rcases text with ⟨str, finite⟩
            rw [sign] at bound
            dsimp only at bound
            cases finite with
            | false =>
                simp only [Bool.false_eq_true, if_false] at bound
                cases bound
                rfl
            | true =>
                simp only [if_true] at bound
                cases printed : printFinite (readHeader rp) ⟨str, rp.drop 8, 0⟩ with
                | none =>
                    rw [printed] at bound
                    cases bound
                | some printing =>
                    rw [printed] at bound
                    cases bound
                    rcases printFinite_at printed with ⟨d, here⟩
                    exact here.drop_rest

/-- A numeric is bound unless its size, scale or sign is refused, or a group of the integer part of a
finite value is. -/
theorem bindNumeric_ok_iff : (∃ text rest, bindNumeric paramsize rp = .ok (text, rest)) ↔
    ¬Refused paramsize rp ∧ ¬((readHeader rp).Finite ∧ WholeGroupTooLarge rp) := by
  have bound_iff : (∃ text rest, bindNumeric paramsize rp = .ok (text, rest)) ↔
      (boundText paramsize rp).isSome = true := by
    rw [boundText]
    cases bindNumeric paramsize rp with
    | error message => simp [Except.toOption]
    | ok bound => exact iff_of_true ⟨bound.1, bound.2, rfl⟩ rfl
  rw [bound_iff]
  by_cases refused : Refused paramsize rp
  · rw [boundText_of_refused refused]
    simp [refused]
  · rw [and_iff_right refused]
    have known : signText (readHeader rp).sign ≠ none := fun none_there =>
      refused (Or.inr (Or.inr (Or.inr none_there)))
    have finite_iff : ∀ str finite, signText (readHeader rp).sign = some (str, finite) →
        ((readHeader rp).Finite ↔ finite = true) := by
      intro str finite found
      rw [Header.Finite]
      rcases signText_ne_none known with sign | sign | sign | sign | sign <;>
        (rw [sign] at found ⊢; cases found; decide)
    obtain ⟨⟨str, finite⟩, found⟩ := Option.ne_none_iff_exists'.mp known
    rw [boundText_of_accepted refused found, finite_iff str finite found]
    cases finite with
    | false => simp
    | true =>
        rw [if_pos rfl, printFinite_str, and_iff_right rfl, ← wholeGroups_iff]
        split
        case isTrue small => exact iff_of_true rfl small
        case isFalse large => exact iff_of_false Bool.false_ne_true large

end SqlRelay.Postgresql.Numeric
