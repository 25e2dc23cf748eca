import SqlRelay.Firebird.Clauses
import SqlRelay.Protocol.HostOrder

/-!
# Slice descriptions are parsed as they are meant

Each function of the parser accepts what the grammar says it should, from the numbers up to the
clauses, and the loop over the clauses accepts all of them in an order that is well formed.
-/

namespace SqlRelay.Firebird

open SqlRelay.Foundation SqlRelay.Foundation.Parser SqlRelay.Protocol

/-! ## Numbers and names -/

section Numbers

variable {limit : Nat}

theorem reads_getByte : Reads limit getByte (fun value bytes => bytes = [value]) := by
  have checked : ∀ sdl ptr, getByte sdl ptr =
      if sdl.length < ptr + 1 then .refused truncated else load 1 CString.peek sdl ptr := by
    intro sdl ptr
    simp [getByte, Nat.lt_succ_iff]
  apply (reads_load checked).congr
  intro value bytes
  constructor
  · intro read
    obtain ⟨byte, rfl⟩ := List.length_eq_one_iff.mp read.1
    rw [← read.2, CString.peek_cons]
  · intro same
    subst same
    exact ⟨rfl, rfl⟩

theorem toNat_word (low high : Byte) : (word [low, high]).toNat = littleEndian [low, high] := by
  have eight : (8 : UInt16).toNat % 16 = 8 := by decide
  have small := high.toNat_lt
  have fits : high.toNat <<< 8 % 2 ^ 16 = high.toNat <<< 8 := by
    rw [Nat.shiftLeft_eq]
    omega
  change (low.toUInt16 ||| high.toUInt16 <<< 8).toNat = _
  rw [UInt16.toNat_or, UInt16.toNat_shiftLeft, UInt8.toNat_toUInt16, UInt8.toNat_toUInt16, eight,
    fits, or_shiftLeft low.toNat_lt, littleEndian, littleEndian_singleton]
  omega

theorem toNat_long (first second third fourth : Byte) :
    (long [first, second, third, fourth]).toNat = littleEndian [first, second, third, fourth] := by
  have eight : (8 : UInt32).toNat % 32 = 8 := by decide
  have sixteen : (16 : UInt32).toNat % 32 = 16 := by decide
  have twentyFour : (24 : UInt32).toNat % 32 = 24 := by decide
  have firstSmall := first.toNat_lt
  have secondSmall := second.toNat_lt
  have thirdSmall := third.toNat_lt
  have fourthSmall := fourth.toNat_lt
  have secondFits : second.toNat <<< 8 % 2 ^ 32 = second.toNat <<< 8 := by
    rw [Nat.shiftLeft_eq]
    omega
  have thirdFits : third.toNat <<< 16 % 2 ^ 32 = third.toNat <<< 16 := by
    rw [Nat.shiftLeft_eq]
    omega
  have fourthFits : fourth.toNat <<< 24 % 2 ^ 32 = fourth.toNat <<< 24 := by
    rw [Nat.shiftLeft_eq]
    omega
  change (first.toUInt32 ||| second.toUInt32 <<< 8 ||| third.toUInt32 <<< 16 |||
    fourth.toUInt32 <<< 24).toNat = _
  simp only [UInt32.toNat_or, UInt32.toNat_shiftLeft, UInt8.toNat_toUInt32]
  have twoSmall : 2 ^ 8 * second.toNat + first.toNat < 2 ^ 16 := by omega
  have threeSmall : 2 ^ 16 * third.toNat + (2 ^ 8 * second.toNat + first.toNat) < 2 ^ 24 := by omega
  rw [eight, sixteen, twentyFour, secondFits, thirdFits, fourthFits, or_shiftLeft firstSmall,
    or_shiftLeft twoSmall, or_shiftLeft threeSmall]
  simp only [littleEndian]
  omega

theorem word_eq_iff {bytes : List Byte} {value : UInt16} :
    bytes.length = 2 ∧ word bytes = value ↔ bytes = toLittleEndian 2 value.toNat := by
  constructor
  · intro read
    obtain ⟨low, high, rfl⟩ := List.length_eq_two.mp read.1
    rw [← read.2, toNat_word]
    exact (toLittleEndian_littleEndian [low, high]).symm
  · intro same
    have length : bytes.length = 2 := by rw [same, length_toLittleEndian]
    obtain ⟨low, high, parts⟩ := List.length_eq_two.mp length
    have fits := value.toNat_lt
    refine ⟨length, UInt16.toNat_inj.mp ?_⟩
    rw [parts, toNat_word, ← parts, same, littleEndian_toLittleEndian (by omega)]

theorem long_eq_iff {bytes : List Byte} {value : UInt32} :
    bytes.length = 4 ∧ long bytes = value ↔ bytes = toLittleEndian 4 value.toNat := by
  have four : ∀ bytes : List Byte, bytes.length = 4 →
      ∃ first second third fourth, bytes = [first, second, third, fourth] := by
    intro bytes length
    obtain ⟨first, rest, rfl⟩ := List.exists_cons_of_length_eq_add_one length
    obtain ⟨second, third, fourth, rfl⟩ := List.length_eq_three.mp (Nat.succ.inj length)
    exact ⟨first, second, third, fourth, rfl⟩
  constructor
  · intro read
    obtain ⟨first, second, third, fourth, rfl⟩ := four bytes read.1
    rw [← read.2, toNat_long]
    exact (toLittleEndian_littleEndian [first, second, third, fourth]).symm
  · intro same
    have length : bytes.length = 4 := by rw [same, length_toLittleEndian]
    obtain ⟨first, second, third, fourth, parts⟩ := four bytes length
    have fits := value.toNat_lt
    refine ⟨length, UInt32.toNat_inj.mp ?_⟩
    rw [parts, toNat_long, ← parts, same, littleEndian_toLittleEndian (by omega)]

theorem reads_getWord :
    Reads limit getWord (fun value bytes => bytes = toLittleEndian 2 value.toNat) := by
  have checked : ∀ sdl ptr, getWord sdl ptr =
      if sdl.length < ptr + 2 then .refused truncated else load 2 word sdl ptr := fun _ _ => rfl
  exact (reads_load checked).congr fun _ _ => word_eq_iff

theorem reads_getLong :
    Reads limit getLong (fun value bytes => bytes = toLittleEndian 4 value.toNat) := by
  have checked : ∀ sdl ptr, getLong sdl ptr =
      if sdl.length < ptr + 4 then .refused truncated else load 4 long sdl ptr := fun _ _ => rfl
  exact (reads_load checked).congr fun _ _ => long_eq_iff

theorem reads_parseName : Reads limit parseName (fun kept bytes => ∃ name : Name,
    bytes = name.bytes ∧ kept = CString.contents name.name) := by
  have reads : ∀ len : Byte, Reads limit (getName len.toNat)
      (fun kept bytes => bytes.length = len.toNat ∧ CString.contents bytes = kept) := by
    intro len
    have checked : ∀ sdl ptr, getName len.toNat sdl ptr =
        if sdl.length < ptr + len.toNat then .refused truncated
        else load len.toNat CString.contents sdl ptr := fun _ _ => rfl
    exact reads_load checked
  apply (reads_getByte.andThen reads).congr
  intro kept bytes
  constructor
  · intro read
    obtain ⟨len, front, back, parts, one, length, same⟩ := read
    subst parts one
    have fits : back.length < 256 := by
      rw [length]
      exact len.toNat_lt
    refine ⟨⟨back, fits⟩, ?_, same.symm⟩
    simp [Name.bytes, length]
  · intro read
    obtain ⟨name, written, same⟩ := read
    refine ⟨UInt8.ofNat name.name.length, [UInt8.ofNat name.name.length], name.name, written, rfl, ?_,
      same.symm⟩
    rw [UInt8.toNat_ofNat', Nat.mod_eq_of_lt name.fits]

end Numbers

/-! ## Parts of clauses -/

section Parts

variable {limit : Nat} {slice : Slice}

theorem reads_parseInteger (op : Byte) : Reads limit (parseInteger op) (fun value bytes =>
    ∃ literal : Literal, op :: bytes = literal.bytes ∧ value = literal.value) := by
  rw [parseInteger]
  split
  case isTrue tiny =>
    apply (reads_getByte.map fun tiny => tiny.toInt8.toInt32).congr
    intro value bytes
    constructor
    · intro read
      obtain ⟨byte, one, same⟩ := read
      subst one
      exact ⟨.tiny byte.toInt8, by rw [tiny]; rfl, same.symm⟩
    · intro read
      obtain ⟨literal, written, same⟩ := read
      subst tiny
      cases literal with
      | tiny value => exact ⟨value.toUInt8, (List.cons.inj written).2, same.symm⟩
      | short value => exact absurd (List.cons.inj written).1 (by decide)
      | long value => exact absurd (List.cons.inj written).1 (by decide)
  case isFalse notTiny =>
    split
    case isTrue short =>
      apply (reads_getWord.map fun shrt => shrt.toInt16.toInt32).congr
      intro value bytes
      constructor
      · intro read
        obtain ⟨shrt, two, same⟩ := read
        exact ⟨.short shrt.toInt16, by rw [short, two]; rfl, same.symm⟩
      · intro read
        obtain ⟨literal, written, same⟩ := read
        subst short
        cases literal with
        | tiny value => exact absurd (List.cons.inj written).1 (by decide)
        | short value => exact ⟨value.toUInt16, (List.cons.inj written).2, same.symm⟩
        | long value => exact absurd (List.cons.inj written).1 (by decide)
    case isFalse notShort =>
      split
      case isTrue long =>
        apply (reads_getLong.map fun lng => lng.toInt32).congr
        intro value bytes
        constructor
        · intro read
          obtain ⟨lng, four, same⟩ := read
          exact ⟨.long lng.toInt32, by rw [long, four]; rfl, same.symm⟩
        · intro read
          obtain ⟨literal, written, same⟩ := read
          subst long
          cases literal with
          | tiny value => exact absurd (List.cons.inj written).1 (by decide)
          | short value => exact absurd (List.cons.inj written).1 (by decide)
          | long value => exact ⟨value.toUInt32, (List.cons.inj written).2, same.symm⟩
      case isFalse notLong =>
        apply (reads_refuse _).congr
        intro value bytes
        apply iff_of_false not_false
        intro read
        obtain ⟨literal, written, _⟩ := read
        cases literal with
        | tiny value => exact notTiny (List.cons.inj written).1
        | short value => exact notShort (List.cons.inj written).1
        | long value => exact notLong (List.cons.inj written).1

theorem reads_parseLiteral : Reads limit parseLiteral (fun value bytes =>
    ∃ literal : Literal, bytes = literal.bytes ∧ value = literal.value) := by
  apply (reads_getByte.andThen reads_parseInteger).congr
  intro value bytes
  constructor
  · intro read
    obtain ⟨op, front, back, parts, one, literal, written, same⟩ := read
    subst parts one
    exact ⟨literal, written, same⟩
  · intro read
    obtain ⟨literal, written, same⟩ := read
    cases literal with
    | tiny value => exact ⟨_, _, _, written, rfl, .tiny value, rfl, same⟩
    | short value => exact ⟨_, [_], _, written, rfl, .short value, rfl, same⟩
    | long value => exact ⟨_, [_], _, written, rfl, .long value, rfl, same⟩

theorem reads_parseLower (op : Byte) : Reads limit (parseLower op) (fun value bytes =>
    (op = Sdl.do1 ∧ bytes = [] ∧ value = 1) ∨
      op ≠ Sdl.do1 ∧ ∃ literal : Literal, bytes = literal.bytes ∧ value = literal.value) := by
  by_cases leftOut : op = Sdl.do1
  · rw [parseLower, if_neg (not_not.mpr leftOut)]
    apply (reads_pure 1).congr
    intro value bytes
    simp [leftOut, and_comm, eq_comm]
  · rw [parseLower, if_pos leftOut]
    apply reads_parseLiteral.congr
    intro value bytes
    simp [leftOut]

theorem reads_parseIncrement (op : Byte) : Reads limit (parseIncrement op) (fun _ bytes =>
    (op ≠ Sdl.do3 ∧ bytes = []) ∨
      op = Sdl.do3 ∧ ∃ literal : Literal, bytes = literal.bytes ∧ literal.value = 1) := by
  by_cases given : op = Sdl.do3
  · rw [parseIncrement, if_pos given]
    apply (reads_parseLiteral.andThen fun increment => reads_require (increment = 1) _).congr
    intro _ bytes
    constructor
    · intro read
      obtain ⟨value, front, back, parts, ⟨literal, written, same⟩, one, none_left⟩ := read
      subst none_left
      rw [List.append_nil] at parts
      exact Or.inr ⟨given, literal, parts.trans written, same.symm.trans one⟩
    · intro read
      cases read with
      | inl other => exact absurd given other.1
      | inr found =>
          obtain ⟨_, literal, written, one⟩ := found
          exact ⟨literal.value, bytes, [], (List.append_nil bytes).symm, ⟨literal, written, rfl⟩, one, rfl⟩
  · rw [parseIncrement, if_neg given]
    apply (reads_pure ()).congr
    intro _ bytes
    simp [given]

/-- The ranges that a loop may have, by its opcode. -/
theorem range_iff {op : Byte} (loops : op = Sdl.do1 ∨ op = Sdl.do2 ∨ op = Sdl.do3)
    {lower upper : Int32} {bytes : List Byte} :
    (∃ first second third : List Byte, bytes = first ++ (second ++ third) ∧
      ((op = Sdl.do1 ∧ first = [] ∧ lower = 1) ∨
        op ≠ Sdl.do1 ∧ ∃ literal : Literal, first = literal.bytes ∧ lower = literal.value) ∧
      (∃ literal : Literal, second = literal.bytes ∧ upper = literal.value) ∧
      ((op ≠ Sdl.do3 ∧ third = []) ∨
        op = Sdl.do3 ∧ ∃ literal : Literal, third = literal.bytes ∧ literal.value = 1)) ↔
      ∃ range : Range, range.op = op ∧ bytes = range.bytes ∧ lower = range.lower ∧
        upper = range.upper := by
  constructor
  · intro read
    obtain ⟨first, second, third, parts, low, ⟨high, written, same⟩, increment⟩ := read
    subst written same
    cases low with
    | inl leftOut =>
        obtain ⟨isDo1, empty, one⟩ := leftOut
        subst isDo1 empty one
        cases increment with
        | inl nothing =>
            refine ⟨.do1 high, rfl, ?_, rfl, rfl⟩
            rw [parts, nothing.2]
            exact List.append_nil _
        | inr given => exact absurd given.1 (by decide)
    | inr given =>
        obtain ⟨notDo1, lowest, written, same⟩ := given
        subst written same
        cases increment with
        | inl nothing =>
            have isDo2 : op = Sdl.do2 := (loops.resolve_left notDo1).resolve_right nothing.1
            refine ⟨.do2 lowest high, isDo2.symm, ?_, rfl, rfl⟩
            rw [parts, nothing.2, List.append_nil]
            rfl
        | inr incremented =>
            obtain ⟨isDo3, step, written, one⟩ := incremented
            refine ⟨.do3 lowest high step one, isDo3.symm, ?_, rfl, rfl⟩
            rw [parts, written, ← List.append_assoc]
            rfl
  · intro read
    obtain ⟨range, same, written, low, high⟩ := read
    subst same written low high
    cases range with
    | do1 upper =>
        exact ⟨[], upper.bytes, [], (List.append_nil _).symm, Or.inl ⟨rfl, rfl, rfl⟩,
          ⟨upper, rfl, rfl⟩, Or.inl ⟨(by decide : Sdl.do1 ≠ Sdl.do3), rfl⟩⟩
    | do2 lower upper =>
        refine ⟨lower.bytes, upper.bytes, [], ?_,
          Or.inr ⟨(by decide : Sdl.do2 ≠ Sdl.do1), lower, rfl, rfl⟩, ⟨upper, rfl, rfl⟩,
          Or.inl ⟨(by decide : Sdl.do2 ≠ Sdl.do3), rfl⟩⟩
        rw [List.append_nil]
        rfl
    | do3 lower upper increment one =>
        refine ⟨lower.bytes, upper.bytes, increment.bytes, ?_,
          Or.inr ⟨(by decide : Sdl.do3 ≠ Sdl.do1), lower, rfl, rfl⟩, ⟨upper, rfl, rfl⟩,
          Or.inr ⟨rfl, increment, rfl, one⟩⟩
        exact List.append_assoc _ _ _

theorem reads_parseLoop {op : Byte} (loops : op = Sdl.do1 ∨ op = Sdl.do2 ∨ op = Sdl.do3) :
    Reads limit (parseLoop slice op) (fun read bytes => slice.bounds.length ≠ maxDimensions ∧
      ∃ loopVariable, ∃ range : Range, range.op = op ∧ bytes = loopVariable :: range.bytes ∧
        read = slice.addBound ⟨loopVariable, range.lower, range.upper⟩) := by
  apply Reads.required
  intro _
  apply (reads_getByte.andThen fun loopVariable => (reads_parseLower op).andThen fun lower =>
    reads_parseLiteral.andThen fun upper => (reads_parseIncrement op).map fun _ =>
      slice.addBound ⟨loopVariable, lower, upper⟩).congr
  intro read bytes
  constructor
  · intro accepted
    obtain ⟨loopVariable, front, back, parts, one, lower, first, later, split, low, upper, second, third,
      ends, high, _, step, same⟩ := accepted
    subst parts one split ends
    obtain ⟨range, sameOp, written, sameLower, sameUpper⟩ :=
      (range_iff loops).mp ⟨first, second, third, rfl, low, high, step⟩
    subst sameLower sameUpper
    exact ⟨loopVariable, range, sameOp, congrArg (loopVariable :: ·) written, same.symm⟩
  · intro described
    obtain ⟨loopVariable, range, sameOp, written, same⟩ := described
    obtain ⟨first, second, third, parts, low, high, step⟩ :=
      (range_iff loops).mpr ⟨range, sameOp, rfl, rfl, rfl⟩
    refine ⟨loopVariable, [loopVariable], range.bytes, written, rfl, range.lower, first,
      second ++ third, parts, low, range.upper, second, third, rfl, high, (), step, same.symm⟩

theorem reads_parseSubscripts (bounds : List Bound) : Reads limit (parseSubscripts bounds)
    (fun _ bytes => bytes = bounds.flatMap fun bound => [Sdl.loopVariable, bound.loopVariable]) := by
  induction bounds with
  | nil =>
      apply (reads_pure ()).congr
      intro _ bytes
      simp
  | cons bound bounds ih =>
      apply (reads_getByte.andThen fun op => Reads.required fun _ =>
        reads_getByte.andThen fun loopVariable => Reads.required fun _ => ih).congr
      intro _ bytes
      constructor
      · intro read
        obtain ⟨op, front, back, parts, one, isVariable, loopVariable, second, rest, split, next, same,
          written⟩ := read
        subst parts one split next isVariable same written
        rfl
      · intro written
        exact ⟨Sdl.loopVariable, [_], _, written, rfl, rfl, bound.loopVariable, [_], _, rfl, rfl, rfl,
          rfl⟩

theorem reads_parseElement (few : slice.bounds.length ≤ maxDimensions) :
    Reads limit (parseElement slice) (fun _ bytes =>
      Sdl.element :: bytes = (Clause.element (slice.bounds.map Bound.loopVariable)).bytes) := by
  apply (reads_getByte.andThen fun count => Reads.required fun _ =>
    reads_getByte.andThen fun op => Reads.required fun _ =>
    reads_getByte.andThen fun member => Reads.required fun _ =>
    reads_getByte.andThen fun count => Reads.required fun _ =>
      reads_parseSubscripts slice.bounds).congr
  intro _ bytes
  have counted : (UInt8.ofNat slice.bounds.length).toNat = slice.bounds.length := by
    rw [UInt8.toNat_ofNat', Nat.mod_eq_of_lt]
    exact Nat.lt_of_le_of_lt few (by decide)
  have written : (Clause.element (slice.bounds.map Bound.loopVariable)).bytes =
      Sdl.element :: 1 :: Sdl.scalar :: 0 :: UInt8.ofNat slice.bounds.length ::
        slice.bounds.flatMap fun bound => [Sdl.loopVariable, bound.loopVariable] := by
    rw [Clause.bytes, List.length_map, List.flatMap_map]
  rw [written, List.cons.injEq, and_iff_right rfl]
  constructor
  · intro read
    obtain ⟨count, _, _, parts, first, isOne, op, _, _, more, second, isScalar, member, _, _, others,
      third, isFirst, dimensions, _, _, last, fourth, same, subscripts⟩ := read
    have isCount : dimensions = UInt8.ofNat slice.bounds.length := by
      rw [← same, UInt8.ofNat_toNat]
    subst parts first isOne more second isScalar others third isFirst last fourth isCount subscripts
    rfl
  · intro same
    exact ⟨1, [_], _, same, rfl, rfl, Sdl.scalar, [_], _, rfl, rfl, rfl, 0, [_], _, rfl, rfl, rfl,
      _, [_], _, rfl, rfl, counted, rfl⟩

theorem Element.details_eq {element : Element} {elementtype : Byte} {bytes : List Byte}
    (written : elementtype :: bytes = element.bytes) : details elementtype = some element.kind := by
  cases element with
  | text2 _ _ _ detailed _ => rwa [(List.cons.inj written).1]
  | text _ _ detailed _ => rwa [(List.cons.inj written).1]
  | scaled _ _ detailed => rwa [(List.cons.inj written).1]
  | plain _ detailed => rwa [(List.cons.inj written).1]

theorem reads_parseDetails (elementtype : Byte) : Reads limit (parseDetails slice elementtype)
    (fun read bytes => ∃ element : Element, elementtype :: bytes = element.bytes ∧
      read = element.record slice) := by
  rw [parseDetails]
  split
  case h_1 detailed =>
    apply (reads_getWord.andThen fun charset => reads_getWord.andThen fun elementlength =>
      Reads.required fun _ =>
        reads_pure (slice.describe elementtype slice.elementscale elementlength)).congr
    intro read bytes
    constructor
    · intro accepted
      obtain ⟨charset, _, _, parts, first, length, _, _, more, second, some_length, same, empty⟩ :=
        accepted
      subst parts first more second same empty
      refine ⟨.text2 elementtype charset length detailed some_length, ?_, rfl⟩
      rw [List.append_nil]
      rfl
    · intro described
      obtain ⟨element, written, same⟩ := described
      have kind := Option.some.inj (detailed.symm.trans (Element.details_eq written))
      cases element with
      | text2 other charset length _ some_length =>
          obtain ⟨rfl, rest⟩ := List.cons.inj written
          exact ⟨charset, _, _, rest, rfl, length, _, [], (List.append_nil _).symm, rfl, some_length,
            same.symm, rfl⟩
      | _ => exact Details.noConfusion kind
  case h_2 detailed =>
    apply (reads_getWord.andThen fun elementlength => Reads.required fun _ =>
      reads_pure (slice.describe elementtype slice.elementscale elementlength)).congr
    intro read bytes
    constructor
    · intro accepted
      obtain ⟨length, _, _, parts, first, some_length, same, empty⟩ := accepted
      subst parts first same empty
      refine ⟨.text elementtype length detailed some_length, ?_, rfl⟩
      rw [List.append_nil]
      rfl
    · intro described
      obtain ⟨element, written, same⟩ := described
      have kind := Option.some.inj (detailed.symm.trans (Element.details_eq written))
      cases element with
      | text other length _ some_length =>
          obtain ⟨rfl, rest⟩ := List.cons.inj written
          exact ⟨length, _, [], rest.trans (List.append_nil _).symm, rfl, some_length, same.symm, rfl⟩
      | _ => exact Details.noConfusion kind
  case h_3 detailed =>
    apply (reads_getByte.map fun scale =>
      slice.describe elementtype scale.toInt8 slice.elementlength).congr
    intro read bytes
    constructor
    · intro accepted
      obtain ⟨scale, one, same⟩ := accepted
      subst one same
      exact ⟨.scaled elementtype scale.toInt8 detailed, rfl, rfl⟩
    · intro described
      obtain ⟨element, written, same⟩ := described
      have kind := Option.some.inj (detailed.symm.trans (Element.details_eq written))
      cases element with
      | scaled other scale _ =>
          obtain ⟨rfl, rest⟩ := List.cons.inj written
          exact ⟨scale.toUInt8, rest, same.symm⟩
      | _ => exact Details.noConfusion kind
  case h_4 detailed =>
    apply (reads_pure _).congr
    intro read bytes
    constructor
    · intro accepted
      obtain ⟨same, empty⟩ := accepted
      subst same empty
      exact ⟨.plain elementtype detailed, rfl, rfl⟩
    · intro described
      obtain ⟨element, written, same⟩ := described
      have kind := Option.some.inj (detailed.symm.trans (Element.details_eq written))
      cases element with
      | plain other _ =>
          obtain ⟨rfl, rest⟩ := List.cons.inj written
          exact ⟨same.symm, rest⟩
      | _ => exact Details.noConfusion kind
  case h_5 detailed =>
    apply (reads_refuse _).congr
    intro read bytes
    apply iff_of_false not_false
    intro described
    obtain ⟨element, written, _⟩ := described
    rw [Element.details_eq written] at detailed
    cases detailed

theorem reads_parseElementDescriptor : Reads limit (parseElementDescriptor slice)
    (fun read bytes => ∃ element : Element, bytes = 1 :: element.bytes ∧
      read = element.record slice) := by
  apply (reads_getByte.andThen fun count => Reads.required fun _ =>
    reads_getByte.andThen reads_parseDetails).congr
  intro read bytes
  constructor
  · intro accepted
    obtain ⟨count, _, _, parts, first, isOne, elementtype, _, _, more, second, element, written,
      same⟩ := accepted
    subst parts first isOne more second same
    exact ⟨element, congrArg (1 :: ·) written, rfl⟩
  · intro described
    obtain ⟨element, written, same⟩ := described
    cases element with
    | text2 elementtype _ _ _ _ =>
        exact ⟨1, [_], _, written, rfl, rfl, elementtype, [_], _, rfl, rfl, _, rfl, same⟩
    | text elementtype _ _ _ =>
        exact ⟨1, [_], _, written, rfl, rfl, elementtype, [_], _, rfl, rfl, _, rfl, same⟩
    | scaled elementtype _ _ =>
        exact ⟨1, [_], _, written, rfl, rfl, elementtype, [_], _, rfl, rfl, _, rfl, same⟩
    | plain elementtype _ =>
        exact ⟨1, [_], _, written, rfl, rfl, elementtype, [_], _, rfl, rfl, _, rfl, same⟩

end Parts

/-! ## Clauses -/

namespace Clause

def op : Clause → Byte
  | struct _ => Sdl.struct
  | schema _ => Sdl.schema
  | relation _ => Sdl.relation
  | field _ => Sdl.field
  | rid _ => Sdl.rid
  | fid _ => Sdl.fid
  | loop _ range => range.op
  | element _ => Sdl.element

theorem op_eq {clause : Clause} {op : Byte} {bytes : List Byte}
    (written : op :: bytes = clause.bytes) : clause.op = op := by
  cases clause <;> exact (List.cons.inj written).1.symm

/-- Whether the clause may come now. -/
def Allowed (progress : Progress) : Clause → Prop
  | struct _ => progress.gotstruct = false
  | loop _ _ => progress.gotelement = false ∧ progress.slice.bounds.length ≠ maxDimensions
  | element subscripts => progress.gotelement = false ∧
      subscripts = progress.slice.bounds.map Bound.loopVariable
  | _ => True

end Clause

namespace Progress

/-- What a clause records. -/
def after (progress : Progress) : Clause → Progress
  | .struct described =>
      { progress with slice := described.record progress.slice, gotstruct := true }
  | .schema name => { progress with
      slice := { progress.slice with schemaname := some (CString.contents name.name) } }
  | .relation name => { progress with
      slice := { progress.slice with relationname := some (CString.contents name.name) } }
  | .field name => { progress with
      slice := { progress.slice with fieldname := some (CString.contents name.name) } }
  | .rid id => { progress with slice := { progress.slice with relationid := some id } }
  | .fid id => { progress with slice := { progress.slice with fieldid := some id } }
  | .loop loopVariable range => { progress with
      slice := progress.slice.addBound ⟨loopVariable, range.lower, range.upper⟩ }
  | .element _ => { progress with gotelement := true }

end Progress

section Clauses

variable {limit : Nat} {progress : Progress}

/-- Clauses with an opcode that stands for one kind of clause. -/
theorem exists_clause_iff {Content : Type} {make : Content → Clause} {op : Byte}
    (only : ∀ clause : Clause, clause.op = op → ∃ content, clause = make content)
    {bytes : List Byte} {holds : Clause → Prop} :
    (∃ clause : Clause, op :: bytes = clause.bytes ∧ holds clause) ↔
      ∃ content, op :: bytes = (make content).bytes ∧ holds (make content) := by
  constructor
  · intro found
    obtain ⟨clause, written, held⟩ := found
    obtain ⟨content, rfl⟩ := only clause (Clause.op_eq written)
    exact ⟨content, written, held⟩
  · intro found
    obtain ⟨content, written, held⟩ := found
    exact ⟨make content, written, held⟩

theorem reads_named {op : Byte} {make : Name → Clause} {change : List Byte → Progress}
    (only : ∀ clause : Clause, clause.op = op → ∃ name, clause = make name)
    (written : ∀ name, (make name).bytes = op :: name.bytes)
    (allowed : ∀ name, (make name).Allowed progress)
    (after : ∀ name : Name, progress.after (make name) = change (CString.contents name.name)) :
    Reads limit (parseName >>= fun name => pure (change name)) (fun next bytes =>
      ∃ clause : Clause, op :: bytes = clause.bytes ∧ clause.Allowed progress ∧
        next = progress.after clause) := by
  apply (reads_parseName.map change).congr
  intro next bytes
  rw [exists_clause_iff only]
  simp only [written, allowed, after, true_and, List.cons.injEq]
  constructor
  · intro read
    obtain ⟨kept, ⟨name, isName, same⟩, changed⟩ := read
    exact ⟨name, isName, by rw [← changed, same]⟩
  · intro described
    obtain ⟨name, isName, same⟩ := described
    exact ⟨_, ⟨name, isName, rfl⟩, same.symm⟩

theorem reads_identified {op : Byte} {make : UInt16 → Clause} {change : UInt16 → Progress}
    (only : ∀ clause : Clause, clause.op = op → ∃ id, clause = make id)
    (written : ∀ id, (make id).bytes = op :: toLittleEndian 2 id.toNat)
    (allowed : ∀ id, (make id).Allowed progress)
    (after : ∀ id, progress.after (make id) = change id) :
    Reads limit (parseId >>= fun id => pure (change id)) (fun next bytes =>
      ∃ clause : Clause, op :: bytes = clause.bytes ∧ clause.Allowed progress ∧
        next = progress.after clause) := by
  apply (reads_getWord.map change).congr
  intro next bytes
  rw [exists_clause_iff only]
  simp only [written, allowed, after, true_and, List.cons.injEq, eq_comm]

/-- Each clause with this opcode is accepted where it is allowed, and records what it says. -/
def ReadsClauses (limit : Nat) (progress : Progress) (op : Byte) : Prop :=
  Reads limit (parseClause progress op) fun next bytes =>
    ∃ clause : Clause, op :: bytes = clause.bytes ∧ clause.Allowed progress ∧
      next = progress.after clause

theorem reads_struct : ReadsClauses limit progress Sdl.struct := by
  have only : ∀ clause : Clause, clause.op = Sdl.struct → ∃ element, clause = .struct element := by
    intro clause isOp
    cases clause with
    | struct element => exact ⟨element, rfl⟩
    | loop _ range => cases range <;> exact absurd isOp (of_decide_eq_false rfl)
    | _ => exact absurd isOp (of_decide_eq_false rfl)
  apply (Reads.required fun _ => reads_parseElementDescriptor.map fun slice =>
    { progress with slice, gotstruct := true }).congr
  intro next bytes
  rw [exists_clause_iff only]
  constructor
  · intro read
    obtain ⟨first, slice, ⟨element, written, same⟩, changed⟩ := read
    refine ⟨element, congrArg (Sdl.struct :: ·) written, first, ?_⟩
    rw [← changed, same]
    rfl
  · intro described
    obtain ⟨element, written, first, same⟩ := described
    exact ⟨first, _, ⟨element, (List.cons.inj written).2, rfl⟩, same.symm⟩

theorem reads_schema : ReadsClauses limit progress Sdl.schema := by
  apply @reads_named limit progress Sdl.schema Clause.schema
  · intro clause isOp
    cases clause with
    | schema name => exact ⟨name, rfl⟩
    | loop _ range => cases range <;> exact absurd isOp (of_decide_eq_false rfl)
    | _ => exact absurd isOp (of_decide_eq_false rfl)
  · exact fun _ => rfl
  · exact fun _ => trivial
  · exact fun _ => rfl

theorem reads_relation : ReadsClauses limit progress Sdl.relation := by
  apply @reads_named limit progress Sdl.relation Clause.relation
  · intro clause isOp
    cases clause with
    | relation name => exact ⟨name, rfl⟩
    | loop _ range => cases range <;> exact absurd isOp (of_decide_eq_false rfl)
    | _ => exact absurd isOp (of_decide_eq_false rfl)
  · exact fun _ => rfl
  · exact fun _ => trivial
  · exact fun _ => rfl

theorem reads_field : ReadsClauses limit progress Sdl.field := by
  apply @reads_named limit progress Sdl.field Clause.field
  · intro clause isOp
    cases clause with
    | field name => exact ⟨name, rfl⟩
    | loop _ range => cases range <;> exact absurd isOp (of_decide_eq_false rfl)
    | _ => exact absurd isOp (of_decide_eq_false rfl)
  · exact fun _ => rfl
  · exact fun _ => trivial
  · exact fun _ => rfl

theorem reads_rid : ReadsClauses limit progress Sdl.rid := by
  apply @reads_identified limit progress Sdl.rid Clause.rid
  · intro clause isOp
    cases clause with
    | rid id => exact ⟨id, rfl⟩
    | loop _ range => cases range <;> exact absurd isOp (of_decide_eq_false rfl)
    | _ => exact absurd isOp (of_decide_eq_false rfl)
  · exact fun _ => rfl
  · exact fun _ => trivial
  · exact fun _ => rfl

theorem reads_fid : ReadsClauses limit progress Sdl.fid := by
  apply @reads_identified limit progress Sdl.fid Clause.fid
  · intro clause isOp
    cases clause with
    | fid id => exact ⟨id, rfl⟩
    | loop _ range => cases range <;> exact absurd isOp (of_decide_eq_false rfl)
    | _ => exact absurd isOp (of_decide_eq_false rfl)
  · exact fun _ => rfl
  · exact fun _ => trivial
  · exact fun _ => rfl

theorem reads_loop {op : Byte} (loops : op = Sdl.do1 ∨ op = Sdl.do2 ∨ op = Sdl.do3) :
    ReadsClauses limit progress op := by
  have parses : parseClause progress op = (do
      require (progress.gotelement = false) "SDL loop after element clause"
      let slice ← parseLoop progress.slice op
      return { progress with slice }) := by
    rcases loops with same | same | same <;> subst same <;> rfl
  rw [ReadsClauses, parses]
  apply (Reads.required fun _ => (reads_parseLoop loops).map fun slice =>
    { progress with slice }).congr
  intro next bytes
  constructor
  · intro read
    obtain ⟨notYet, slice, ⟨room, loopVariable, range, isOp, written, same⟩, changed⟩ := read
    refine ⟨.loop loopVariable range, ?_, ⟨notYet, room⟩, ?_⟩
    · rw [← isOp, written]
      rfl
    · rw [← changed, same]
      rfl
  · intro described
    obtain ⟨clause, written, allowed, same⟩ := described
    have isOp := Clause.op_eq written
    cases clause with
    | loop loopVariable range =>
        exact ⟨allowed.1, _, ⟨allowed.2, loopVariable, range, isOp, (List.cons.inj written).2, rfl⟩,
          same.symm⟩
    | _ =>
        rw [← isOp] at loops
        exact absurd loops (of_decide_eq_false rfl)

theorem reads_element (few : progress.slice.bounds.length ≤ maxDimensions) :
    ReadsClauses limit progress Sdl.element := by
  have only : ∀ clause : Clause, clause.op = Sdl.element →
      ∃ subscripts, clause = .element subscripts := by
    intro clause isOp
    cases clause with
    | element subscripts => exact ⟨subscripts, rfl⟩
    | loop _ range => cases range <;> exact absurd isOp (of_decide_eq_false rfl)
    | _ => exact absurd isOp (of_decide_eq_false rfl)
  apply (Reads.required fun _ => (reads_parseElement few).map fun _ =>
    { progress with gotelement := true }).congr
  intro next bytes
  rw [exists_clause_iff only]
  constructor
  · intro read
    obtain ⟨notYet, _, written, changed⟩ := read
    exact ⟨_, written, ⟨notYet, rfl⟩, changed.symm⟩
  · intro described
    obtain ⟨subscripts, written, ⟨notYet, same⟩, changed⟩ := described
    subst same
    exact ⟨notYet, (), written, changed.symm⟩

theorem reads_parseClause (few : progress.slice.bounds.length ≤ maxDimensions) (op : Byte) :
    ReadsClauses limit progress op := by
  by_cases known : op ∈ [Sdl.struct, Sdl.schema, Sdl.relation, Sdl.field, Sdl.rid, Sdl.fid,
    Sdl.do1, Sdl.do2, Sdl.do3, Sdl.element]
  case pos =>
    simp only [List.mem_cons, List.not_mem_nil, or_false] at known
    rcases known with isOp | isOp | isOp | isOp | isOp | isOp | isOp | isOp | isOp | isOp
    all_goals rw [isOp]
    · exact reads_struct
    · exact reads_schema
    · exact reads_relation
    · exact reads_field
    · exact reads_rid
    · exact reads_fid
    · exact reads_loop (Or.inl rfl)
    · exact reads_loop (Or.inr (Or.inl rfl))
    · exact reads_loop (Or.inr (Or.inr rfl))
    · exact reads_element few
  case neg =>
    have refuses : parseClause progress op = refuse "unsupported SDL opcode" := by
      simp only [List.mem_cons, List.not_mem_nil, or_false, not_or] at known
      simp [parseClause, known]
    rw [ReadsClauses, refuses]
    apply (reads_refuse _).congr
    intro next bytes
    apply iff_of_false not_false
    intro described
    obtain ⟨clause, written, _⟩ := described
    have isOp := Clause.op_eq written
    apply known
    rw [← isOp]
    cases clause with
    | loop _ range => cases range <;> simp [Clause.op, Range.op]
    | _ => simp [Clause.op]

end Clauses

end SqlRelay.Firebird
