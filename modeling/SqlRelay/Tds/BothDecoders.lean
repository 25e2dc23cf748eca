import SqlRelay.Tds.Agreement

/-!
# The decoders agree

Both decoders give the same value for the same bytes behind the same type, or both reject them.  A text,
ntext or image is sent in a row as it is sent as a parameter, but behind a text pointer.
-/

namespace SqlRelay.Tds.Values

open SqlRelay.Foundation

namespace Decoder

variable (decoder : Decoder)

/-- The value behind the information about its type is such a one. -/
def LeftOut (byte : Byte) (bytes : List Byte) : Prop :=
  ∃ tdstype info rp concrete rest, decoder.bulkTypeInfo (byte :: bytes) = .ok (tdstype, info, rp) ∧
    resolve tdstype rp = .ok (some concrete, rest) ∧ decoder.ReadsOtherwise concrete rest

/-- The type is one that both decoders give values of. -/
def Accepts (byte : Byte) : Prop :=
  (∃ bytes value, decoder.bulkDecode (byte :: bytes) = .ok value) ∧
    ∃ bytes value, decoder.paramValue (byte :: bytes) = .ok value

/-- What is sent without a text pointer; a null has a length of its own. -/
def withoutPointer : List Byte → List Byte
  | [] => []
  | ptrsize :: rest =>
      if ptrsize = 0 then [0xFF, 0xFF, 0xFF, 0xFF] ++ rest else rest.drop (ptrsize.toNat + 8)

/-- The size of the collation of a type. -/
def collationSize (tdstype : TdsType) : Nat :=
  if 710 ≤ decoder.negotiatedtdsversion ∧ tdstype.isCollated = true then 5 else 0

/-- What follows the type of a column, as it follows the type of a parameter. -/
def asParameter (byte : Byte) (bytes : List Byte) : List Byte :=
  match TdsType.ofByte byte with
  | none => bytes
  | some tdstype =>
      if tdstype.hasTextPointer then
        let size := 4 + decoder.collationSize tdstype
        bytes.take size ++ withoutPointer (bytes.drop size)
      else bytes

variable {decoder} {tdstype concrete : TdsType} {info : TypeInfo}
variable {rp rest : List Byte} {α β : Type}

/-! ## Steps that do not trap -/

theorem skipNames_untrapped (sizes : List Nat) (rp : List Byte) :
    skipNames sizes rp ≠ .error .trapped := by
  induction sizes generalizing rp with
  | nil => nofun
  | cons size sizes untrapped =>
    refine untrapped_bind (readLE_untrapped size rp) fun ⟨length, rp⟩ => ?_
    dsimp only
    split
    case isTrue => nofun
    case isFalse => exact untrapped _

theorem parseXmlInfo_untrapped (rp : List Byte) : parseXmlInfo rp ≠ .error .trapped := by
  refine untrapped_bind (readLE_untrapped 1 rp) fun ⟨schemapresent, rp⟩ => ?_
  dsimp only
  split
  case isTrue => nofun
  case isFalse => exact skipNames_untrapped _ rp

theorem readChunks_untrapped (fuel : Nat) (rp : List Byte) :
    readChunks fuel rp ≠ .error .trapped := by
  induction fuel generalizing rp with
  | zero => nofun
  | succ fuel untrapped =>
    refine untrapped_bind (readLE_untrapped 4 rp) fun ⟨chunksize, rp⟩ => ?_
    dsimp only
    split
    case isTrue => nofun
    case isFalse =>
      split
      case isTrue => nofun
      case isFalse => exact untrapped_bind (untrapped _) fun _ => nofun

theorem plpValue_untrapped (tdstype : TdsType) (rp : List Byte) :
    decoder.plpValue tdstype rp ≠ .error .trapped := by
  refine untrapped_bind (readLE_untrapped 8 rp) fun ⟨totalsize, rp⟩ => ?_
  dsimp only
  split
  case isTrue => nofun
  case isFalse =>
    refine untrapped_bind (readChunks_untrapped _ rp) fun ⟨data, rp⟩ => ?_
    dsimp only
    split <;> nofun

theorem skipCollation_untrapped (tdstype : TdsType) (rp : List Byte) :
    decoder.skipCollation tdstype rp ≠ .error .trapped := by
  rw [skipCollation]
  split
  case isTrue => split <;> nofun
  case isFalse => nofun

theorem resolve_untrapped (tdstype : TdsType) (rp : List Byte) :
    resolve tdstype rp ≠ .error .trapped := by
  rw [resolve]
  split
  case isTrue =>
    refine untrapped_bind (readLE_untrapped 1 rp) fun ⟨size, rp⟩ => ?_
    dsimp only
    split
    case isTrue => nofun
    case isFalse => split <;> nofun
  case isFalse => nofun

theorem plainMaxsize_untrapped (size : Nat) (rp : List Byte) :
    (do
      let (maxsize, rp) ← readLE size rp
      .ok (maxsize, false, rp)) ≠ (.error .trapped : Except Failure (Nat × Bool × List Byte)) :=
  untrapped_bind (readLE_untrapped size rp) fun _ trapped => by cases trapped

theorem shortMaxsize_untrapped (rp : List Byte) :
    (do
      let (size, rp) ← readLE 2 rp
      if size = 0xFFFF then .ok (0, true, rp) else .ok (size, false, rp)) ≠
        (.error .trapped : Except Failure (Nat × Bool × List Byte)) := by
  refine untrapped_bind (readLE_untrapped 2 rp) fun ⟨size, rp⟩ trapped => ?_
  dsimp only at trapped
  split at trapped <;> cases trapped

theorem paramMaxsize_untrapped (tdstype : TdsType) (rp : List Byte) :
    paramMaxsize tdstype rp ≠ .error .trapped := by
  intro trapped
  cases tdstype
  case ssVariant | text | ntext | image => exact plainMaxsize_untrapped 4 rp trapped
  case bigChar | bigVarChr | nchar | nvarchar | bigBinary | bigVarBin =>
    exact shortMaxsize_untrapped rp trapped
  case xml => exact untrapped_bind (parseXmlInfo_untrapped rp) (fun _ given => by cases given) trapped
  case dateN | timeN | datetime2N | datetimeOffsetN => cases trapped
  all_goals exact plainMaxsize_untrapped 1 rp trapped

theorem paramSizes_untrapped (tdstype : TdsType) (rp : List Byte) :
    paramSizes tdstype rp ≠ .error .trapped := by
  have byte (there : Bool) (rp : List Byte) : readByteIf there rp ≠ .error .trapped := by
    rw [readByteIf]
    split
    case isTrue => exact readLE_untrapped 1 rp
    case isFalse => nofun
  refine untrapped_bind (paramMaxsize_untrapped tdstype rp) fun ⟨maxsize, partlen, rp⟩ => ?_
  refine untrapped_bind (byte _ rp) fun ⟨_, rp⟩ => ?_
  exact untrapped_bind (byte _ rp) fun ⟨_, _⟩ => nofun

/-! ## The type of a value -/

/-- Both take the same bytes for the sizes of a type. -/
theorem bulkSizes_eq_paramSizes (known : tdstype ≠ .udt) (rp : List Byte) :
    bulkSizes tdstype rp = paramSizes tdstype rp := by
  cases tdstype
  case udt => exact absurd rfl known
  case decimal | numeric | decimalN | numericN =>
    match rp with
    | [] | [_] | [_, _] => rfl
    | size :: precision :: scale :: rest =>
      simp [bulkSizes, paramSizes, paramMaxsize, readByteIf, hasPrecision, hasScale, readLE, bind,
        Except.bind]
  case bigChar | bigVarChr | nchar | nvarchar | bigBinary | bigVarBin =>
    simp only [bulkSizes, paramSizes, paramMaxsize, bind, Except.bind]
    cases readLE 2 rp with
    | error => rfl
    | ok taken =>
      by_cases max : taken.1 = 0xFFFF
      case pos =>
        simp only [max]
        rfl
      case neg =>
        simp only [max, false_and, if_false]
        rfl
  case xml =>
    simp only [bulkSizes, paramSizes, paramMaxsize, bind, Except.bind]
    cases parseXmlInfo rp <;> rfl
  case timeN | datetime2N | datetimeOffsetN =>
    simp [bulkSizes, paramSizes, paramMaxsize, readByteIf, hasPrecision, hasScale, bind, Except.bind]
  case dateN => rfl
  case ssVariant | text | ntext | image =>
    simp only [bulkSizes, paramSizes, paramMaxsize, bind, Except.bind]
    cases readLE 4 rp <;> rfl
  all_goals
    simp only [bulkSizes, paramSizes, paramMaxsize, bind, Except.bind]
    cases readLE 1 rp <;> rfl

theorem resolve_of_not_isSized (isSized : tdstype.isSized = false) (rp : List Byte) :
    resolve tdstype rp = .ok (some tdstype, rp) := by
  rw [resolve, isSized]
  rfl

theorem skipCollation_of_not_isCollated (isCollated : tdstype.isCollated = false)
    (rp : List Byte) : decoder.skipCollation tdstype rp = .ok rp := by
  rw [skipCollation, isCollated]
  exact if_neg fun collated => Bool.false_ne_true collated.2

/-- The concrete type of a sized one has no collation, and is not one that is padded. -/
theorem concrete_cases {size : Nat} (found : tdstype.concrete size = some concrete) :
    tdstype.isSized = true ∧ concrete.isCollated = false ∧ concrete.isPadded = tdstype.isPadded ∧
      Known concrete := by
  rw [TdsType.concrete.eq_def] at found
  split at found <;> cases found <;> exact ⟨rfl, rfl, rfl, trivial⟩

theorem bind_ok {step : Except Failure α} {next : α → Except Failure β} {b : β}
    (taken : step >>= next = .ok b) : ∃ a, step = .ok a ∧ next a = .ok b := by
  cases step with
  | error failure => nomatch taken
  | ok a => exact ⟨a, rfl, taken⟩

theorem resolved_of_isSized (isSized : tdstype.isSized = true) {found : Option TdsType}
    (resolved : resolve tdstype rp = .ok (found, rest)) :
    ∀ concrete ∈ found, ∃ size, tdstype.concrete size = some concrete := by
  rw [resolve, if_pos isSized] at resolved
  obtain ⟨⟨size, rp⟩, _, resolved⟩ := bind_ok resolved
  dsimp only at resolved
  split at resolved
  case isTrue =>
    cases resolved
    nofun
  case isFalse =>
    split at resolved
    case h_1 => nomatch resolved
    case h_2 concrete concrete_eq =>
      cases resolved
      intro other same
      cases same
      exact ⟨size, concrete_eq⟩

theorem resolved_isCollated (isSized : tdstype.isSized = true) {found : Option TdsType}
    (resolved : resolve tdstype rp = .ok (found, rest)) :
    (found.getD .null).isCollated = false := by
  cases found with
  | none => rfl
  | some concrete =>
    obtain ⟨size, found⟩ := resolved_of_isSized isSized resolved concrete rfl
    exact (concrete_cases found).2.1

/-- Only a type with a maximum has values without a size. -/
theorem partlen_of_paramSizes (sizes : paramSizes tdstype rp = .ok (info, rest))
    (bounded : tdstype.isSized = true ∨ tdstype.hasTextPointer = true ∨ tdstype = .longBinary ∨
      tdstype = .udt) : info.partlen = false := by
  obtain ⟨⟨maxsize, partlen, rp'⟩, maxsizes, sizes⟩ := bind_ok sizes
  obtain ⟨_, _, sizes⟩ := bind_ok sizes
  obtain ⟨_, _, sizes⟩ := bind_ok sizes
  have partlen_eq : partlen = false := by
    cases tdstype
    case intN | bitN | fltN | moneyN | datetimN | text | ntext | image | longBinary | udt =>
      obtain ⟨_, _, maxsizes⟩ := bind_ok maxsizes
      cases maxsizes
      rfl
    all_goals simp [TdsType.isSized, TdsType.hasTextPointer] at bounded
  cases sizes
  exact partlen_eq

theorem partlen_of_paramSizes_xml (sizes : paramSizes .xml rp = .ok (info, rest)) :
    info.partlen = true := by
  obtain ⟨_, maxsizes, sizes⟩ := bind_ok sizes
  obtain ⟨_, _, sizes⟩ := bind_ok sizes
  obtain ⟨_, _, sizes⟩ := bind_ok sizes
  obtain ⟨_, _, maxsizes⟩ := bind_ok maxsizes
  cases maxsizes
  cases sizes
  rfl

variable (decoder) in
/-- What stands between the type and the value of a type that is not of a fixed size. -/
def header (tdstype : TdsType) (rp : List Byte) : Except Failure (TypeInfo × List Byte) := do
  let (info, rp) ← paramSizes tdstype rp
  let rp ← decoder.skipCollation tdstype rp
  .ok (info, rp)

theorem header_untrapped (tdstype : TdsType) (rp : List Byte) :
    decoder.header tdstype rp ≠ .error .trapped :=
  untrapped_bind (paramSizes_untrapped tdstype rp) fun _ =>
    untrapped_bind (skipCollation_untrapped tdstype _) fun _ => nofun

theorem paramSizes_of_header (found : decoder.header tdstype rp = .ok (info, rest)) :
    ∃ rest', paramSizes tdstype rp = .ok (info, rest') := by
  obtain ⟨⟨info', rest'⟩, sizes, found⟩ := bind_ok found
  obtain ⟨_, _, found⟩ := bind_ok found
  cases found
  exact ⟨rest', sizes⟩

variable (decoder) in
/-- The types that both decoders know, but for those of a fixed size. -/
structure Varying (tdstype : TdsType) : Prop where
  notFixed : tdstype.isFixedLenType = false
  isVarLen : tdstype.isVarLenType decoder.dbisase = true
  notUdt : tdstype ≠ .udt

theorem bulkTypeInfo_of_varying {byte : Byte} (byte_eq : TdsType.ofByte byte = some tdstype)
    (varying : decoder.Varying tdstype) (bytes : List Byte) :
    decoder.bulkTypeInfo (byte :: bytes) =
      (decoder.header tdstype bytes).map fun (info, rp) => (tdstype, info, rp) := by
  simp only [bulkTypeInfo, byte_eq, varying.notFixed, varying.isVarLen, header,
    bulkSizes_eq_paramSizes varying.notUdt]
  cases paramSizes tdstype bytes with
  | error => rfl
  | ok taken =>
    dsimp only [bind, Except.bind]
    cases decoder.skipCollation tdstype taken.2 <;> rfl

theorem bulkDecode_of_varying {byte : Byte} (byte_eq : TdsType.ofByte byte = some tdstype)
    (varying : decoder.Varying tdstype) (bytes : List Byte) :
    decoder.bulkDecode (byte :: bytes) = (do
      let (info, rp) ← decoder.header tdstype bytes
      decoder.bulkValue tdstype info rp) := by
  rw [bulkDecode, bulkTypeInfo_of_varying byte_eq varying]
  cases decoder.header tdstype bytes <;> rfl

theorem paramTyped_of_not_isSized (varying : decoder.Varying tdstype)
    (isSized : tdstype.isSized = false) (isNull : tdstype ≠ .null) (rp : List Byte) :
    decoder.paramTyped tdstype rp = (do
      let (info, rp) ← decoder.header tdstype rp
      if info.partlen then decoder.plpValue tdstype rp else decoder.paramData info tdstype rp) := by
  simp only [paramTyped, header, varying.notFixed, varying.isVarLen, Bool.not_false, Bool.true_and,
    if_true, resolve_of_not_isSized isSized]
  cases paramSizes tdstype rp with
  | error => rfl
  | ok taken =>
    dsimp only [bind, Except.bind, Option.getD_some]
    cases decoder.skipCollation tdstype taken.2 with
    | error => rfl
    | ok rp => simp only [isNull, ne_eq, not_false_iff, and_true]

theorem paramTyped_of_isSized (varying : decoder.Varying tdstype)
    (isSized : tdstype.isSized = true) (rp : List Byte) :
    decoder.paramTyped tdstype rp = (do
      let (info, rp) ← decoder.header tdstype rp
      let (concrete, rp) ← resolve tdstype rp
      decoder.paramData info (concrete.getD .null) rp) := by
  have isCollated : tdstype.isCollated = false := by
    cases tdstype <;> first | rfl | nomatch isSized
  simp only [paramTyped, header, varying.notFixed, varying.isVarLen, Bool.not_false, Bool.true_and,
    if_true, skipCollation_of_not_isCollated isCollated]
  cases sizes : paramSizes tdstype rp with
  | error => rfl
  | ok taken =>
    dsimp only [bind, Except.bind]
    cases resolved : resolve tdstype taken.2 with
    | error => rfl
    | ok found =>
      obtain ⟨concrete, rest⟩ := found
      have partlen : taken.1.partlen = false := partlen_of_paramSizes sizes (.inl isSized)
      dsimp only
      rw [skipCollation_of_not_isCollated (resolved_isCollated isSized resolved)]
      simp only [partlen, Bool.false_eq_true, false_and, if_false]

/-! ## Both decoders -/

theorem bulkValue_of_not_partlen (partlen : info.partlen = false)
    (pointer : tdstype.hasTextPointer = false) (rp : List Byte) :
    decoder.bulkValue tdstype info rp = decoder.bulkTyped tdstype info rp := by
  rw [bulkValue, partlen, pointer]
  rfl

theorem bulkTyped_of_not_isSized (isSized : tdstype.isSized = false) (rp : List Byte) :
    decoder.bulkTyped tdstype info rp = decoder.bulkData info.scale tdstype rp := by
  rw [bulkTyped, resolve_of_not_isSized isSized]
  rfl

theorem nullValue_of_isSized (isSized : tdstype.isSized = true) : nullValue tdstype = .null := by
  cases tdstype <;> first | rfl | nomatch isSized

variable {byte : Byte} {bytes : List Byte}

theorem leftOut_of_header (byte_eq : TdsType.ofByte byte = some tdstype)
    (varying : decoder.Varying tdstype) (header : decoder.header tdstype bytes = .ok (info, rp))
    (resolved : resolve tdstype rp = .ok (some concrete, rest))
    (otherwise : decoder.ReadsOtherwise concrete rest) : decoder.LeftOut byte bytes := by
  refine ⟨tdstype, info, rp, concrete, rest, ?_, resolved, otherwise⟩
  rw [bulkTypeInfo_of_varying byte_eq varying, header]
  rfl

theorem agree_fixed (byte_eq : TdsType.ofByte byte = some tdstype)
    (isFixed : tdstype.isFixedLenType = true) (known : Known tdstype)
    (alike : ¬decoder.LeftOut byte bytes) :
    decoder.Agree tdstype.isPadded (decoder.bulkDecode (byte :: bytes))
      (decoder.paramTyped tdstype bytes) := by
  have isSized : tdstype.isSized = false := by cases tdstype <;> first | rfl | nomatch isFixed
  have isCollated : tdstype.isCollated = false := by
    cases tdstype <;> first | rfl | nomatch isFixed
  have pointer : tdstype.hasTextPointer = false := by
    cases tdstype <;> first | rfl | nomatch isFixed
  have typeInfo : decoder.bulkTypeInfo (byte :: bytes) = .ok (tdstype, ⟨0, 0, false⟩, bytes) := by
    simp only [bulkTypeInfo, byte_eq, isFixed, if_true]
  have bulk : decoder.bulkDecode (byte :: bytes) =
      decoder.bulkData (TypeInfo.scale ⟨0, 0, false⟩) tdstype bytes := by
    rw [bulkDecode, typeInfo]
    change decoder.bulkValue tdstype ⟨0, 0, false⟩ bytes = _
    rw [bulkValue_of_not_partlen rfl pointer, bulkTyped_of_not_isSized isSized]
  have param : decoder.paramTyped tdstype bytes =
      decoder.paramData ⟨0, 0, false⟩ tdstype bytes := by
    simp only [paramTyped, isFixed, Bool.not_true, Bool.false_and, Bool.false_eq_true, if_false,
      resolve_of_not_isSized isSized, bind, Except.bind, Option.getD_some,
      skipCollation_of_not_isCollated isCollated, false_and]
  rw [bulk, param]
  exact agree_data known fun otherwise => alike
    ⟨tdstype, _, bytes, tdstype, bytes, typeInfo, resolve_of_not_isSized isSized bytes, otherwise⟩

theorem agree_sized (byte_eq : TdsType.ofByte byte = some tdstype)
    (varying : decoder.Varying tdstype) (isSized : tdstype.isSized = true)
    (alike : ¬decoder.LeftOut byte bytes) :
    decoder.Agree tdstype.isPadded (decoder.bulkDecode (byte :: bytes))
      (decoder.paramTyped tdstype bytes) := by
  have pointer : tdstype.hasTextPointer = false := by
    cases tdstype <;> first | rfl | nomatch isSized
  rw [bulkDecode_of_varying byte_eq varying, paramTyped_of_isSized varying isSized]
  refine agree_bind (header_untrapped tdstype bytes) fun ⟨info, rp⟩ header => ?_
  obtain ⟨_, sizes⟩ := paramSizes_of_header header
  dsimp only
  rw [bulkValue_of_not_partlen (partlen_of_paramSizes sizes (.inl isSized)) pointer]
  refine agree_bind (resolve_untrapped tdstype rp) fun ⟨found, rest⟩ resolved => ?_
  cases found with
  | none =>
    rw [nullValue_of_isSized isSized]
    exact ⟨rfl, .same .null⟩
  | some concrete =>
    obtain ⟨size, found⟩ := resolved_of_isSized isSized resolved concrete rfl
    obtain ⟨_, _, isPadded, known⟩ := concrete_cases found
    rw [← isPadded]
    exact agree_data known fun otherwise =>
      alike (leftOut_of_header byte_eq varying header resolved otherwise)

theorem agree_varying (byte_eq : TdsType.ofByte byte = some tdstype)
    (varying : decoder.Varying tdstype) (known : Known tdstype ∨ tdstype = .xml)
    (pointer : tdstype.hasTextPointer = false) (alike : ¬decoder.LeftOut byte bytes) :
    decoder.Agree tdstype.isPadded (decoder.bulkDecode (byte :: bytes))
      (decoder.paramTyped tdstype bytes) := by
  have isSized : tdstype.isSized = false := by
    obtain known | rfl := known
    · cases tdstype <;> first | rfl | exact known.elim
    · rfl
  have isNull : tdstype ≠ .null := by
    rintro rfl
    nomatch varying.notFixed
  rw [bulkDecode_of_varying byte_eq varying, paramTyped_of_not_isSized varying isSized isNull]
  refine agree_bind (header_untrapped tdstype bytes) fun ⟨info, rp⟩ header => ?_
  dsimp only
  cases partlen : info.partlen with
  | true =>
    rw [bulkValue, if_pos partlen, if_pos rfl]
    exact agree_self (plpValue_untrapped tdstype rp)
  | false =>
    rw [bulkValue_of_not_partlen partlen pointer, bulkTyped_of_not_isSized isSized,
      if_neg Bool.false_ne_true]
    obtain known | rfl := known
    · exact agree_data known fun otherwise => alike
        (leftOut_of_header byte_eq varying header (resolve_of_not_isSized isSized rp) otherwise)
    · obtain ⟨_, sizes⟩ := paramSizes_of_header header
      rw [partlen_of_paramSizes_xml sizes] at partlen
      nomatch partlen

/-! ## Text pointers -/

theorem skipCollation_append {collation : List Byte}
    (whole : collation.length = decoder.collationSize tdstype) (rp : List Byte) :
    decoder.skipCollation tdstype (collation ++ rp) = .ok rp := by
  rw [collationSize] at whole
  rw [skipCollation]
  split at whole
  case isTrue collated =>
    rw [if_pos collated, if_neg (by simp [whole]), List.drop_left' whole]
  case isFalse uncollated =>
    rw [if_neg uncollated, List.eq_nil_of_length_eq_zero whole]
    rfl

theorem skipCollation_short (short : rp.length < decoder.collationSize tdstype) :
    decoder.skipCollation tdstype rp = .error .rejected := by
  rw [collationSize] at short
  rw [skipCollation]
  split at short
  case isTrue collated => rw [if_pos collated, if_pos short]
  case isFalse => exact absurd short (Nat.not_lt_zero _)

theorem paramSizes_of_hasTextPointer (pointer : tdstype.hasTextPointer = true) (rp : List Byte) :
    paramSizes tdstype rp = (readLE 4 rp).map fun (size, rp) => (⟨size, 0, false⟩, rp) := by
  cases tdstype
  case text | ntext | image =>
    simp only [paramSizes, paramMaxsize, bind, Except.bind]
    cases readLE 4 rp <;> rfl
  all_goals nomatch pointer

theorem header_short (pointer : tdstype.hasTextPointer = true)
    (short : rp.length < 4 + decoder.collationSize tdstype) :
    decoder.header tdstype rp = .error .rejected := by
  rw [header, paramSizes_of_hasTextPointer pointer, readLE]
  split
  case isTrue => rfl
  case isFalse long =>
    change (decoder.skipCollation tdstype (rp.drop 4)).bind _ = _
    rw [skipCollation_short (by rw [List.length_drop]; omega)]
    rfl

theorem header_append (pointer : tdstype.hasTextPointer = true) {front : List Byte}
    (whole : front.length = 4 + decoder.collationSize tdstype) (rp : List Byte) :
    decoder.header tdstype (front ++ rp) = .ok (⟨littleEndian (front.take 4), 0, false⟩, rp) := by
  have long : ¬(front ++ rp).length < 4 := by
    rw [List.length_append]
    omega
  rw [header, paramSizes_of_hasTextPointer pointer, readLE, if_neg long,
    List.take_append_of_le_length (by omega), List.drop_append_of_le_length (by omega)]
  change (decoder.skipCollation tdstype (front.drop 4 ++ rp)).bind _ = _
  rw [skipCollation_append (by rw [List.length_drop]; omega)]
  rfl

theorem skipTextPointer_cons (ptrsize : Byte) (rp : List Byte) :
    skipTextPointer (ptrsize :: rp) =
      if ptrsize = 0 then .ok (none, rp)
      else if rp.length < ptrsize.toNat + 8 then .error .rejected
      else .ok (some (), rp.drop (ptrsize.toNat + 8)) := by
  have long : ¬(ptrsize :: rp).length < 1 := by simp
  have isZero : ptrsize.toNat = 0 ↔ ptrsize = 0 := by
    rw [← UInt8.toNat_inj]
    rfl
  rw [skipTextPointer, readLE, if_neg long]
  simp [bind, Except.bind, isZero]

/-- A null has a zero in place of a text pointer in a row, and a length of its own elsewhere. -/
theorem agree_pointer (pointer : tdstype.hasTextPointer = true) (rp : List Byte) :
    decoder.Agree tdstype.isPadded
      (do
        let (pointer, rp) ← skipTextPointer rp
        match pointer with
        | none => .ok (nullValue tdstype, rp)
        | some () => decoder.bulkTyped tdstype info rp)
      (decoder.paramData info tdstype (withoutPointer rp)) := by
  have known : Known tdstype := by cases tdstype <;> trivial
  have isSized : tdstype.isSized = false := by cases tdstype <;> first | rfl | nomatch pointer
  have alike (rp : List Byte) : ¬decoder.ReadsOtherwise tdstype rp := by
    cases tdstype <;> first | exact id | cases pointer
  have short : decoder.paramData info tdstype [] = .error .rejected := by
    cases tdstype <;> first | rfl | nomatch pointer
  have null (rest : List Byte) : decoder.paramData info tdstype ([0xFF, 0xFF, 0xFF, 0xFF] ++ rest) =
      .ok (nullValue tdstype, rest) := by
    cases tdstype <;> first | rfl | nomatch pointer
  cases rp with
  | nil =>
    rw [withoutPointer, short]
    trivial
  | cons ptrsize rest =>
    rw [withoutPointer]
    by_cases absent : ptrsize = 0
    case pos =>
      rw [if_pos absent, null]
      subst absent
      exact ⟨rfl, .same _⟩
    case neg =>
      rw [skipTextPointer_cons, if_neg absent, if_neg absent]
      split
      case isTrue cut =>
        rw [List.drop_eq_nil_of_le (Nat.le_of_lt cut), short]
        trivial
      case isFalse =>
        change decoder.Agree _ (decoder.bulkTyped tdstype info _) _
        rw [bulkTyped_of_not_isSized isSized]
        exact agree_data known (alike _)

theorem bulkValue_of_hasTextPointer (pointer : tdstype.hasTextPointer = true)
    (partlen : info.partlen = false) (rp : List Byte) :
    decoder.bulkValue tdstype info rp = (do
      let (pointer, rp) ← skipTextPointer rp
      match pointer with
      | none => .ok (nullValue tdstype, rp)
      | some () => decoder.bulkTyped tdstype info rp) := by
  rw [bulkValue, partlen, pointer]
  rfl

theorem agree_hasTextPointer (byte_eq : TdsType.ofByte byte = some tdstype)
    (pointer : tdstype.hasTextPointer = true) :
    decoder.Agree tdstype.isPadded (decoder.bulkDecode (byte :: bytes))
      (decoder.paramTyped tdstype (decoder.asParameter byte bytes)) := by
  have varying : decoder.Varying tdstype := by
    cases tdstype
    case text | ntext | image => exact ⟨rfl, rfl, nofun⟩
    all_goals nomatch pointer
  have isSized : tdstype.isSized = false := by cases tdstype <;> first | rfl | nomatch pointer
  have isNull : tdstype ≠ .null := by
    rintro rfl
    nomatch pointer
  rw [bulkDecode_of_varying byte_eq varying, paramTyped_of_not_isSized varying isSized isNull,
    asParameter, byte_eq]
  dsimp only
  rw [if_pos pointer]
  by_cases short : bytes.length < 4 + decoder.collationSize tdstype
  case pos =>
    have nothing : bytes.take (4 + decoder.collationSize tdstype) ++
        withoutPointer (bytes.drop (4 + decoder.collationSize tdstype)) = bytes := by
      rw [List.take_of_length_le (Nat.le_of_lt short), List.drop_eq_nil_of_le (Nat.le_of_lt short)]
      exact List.append_nil bytes
    rw [nothing, header_short pointer short]
    trivial
  case neg =>
    have whole : (bytes.take (4 + decoder.collationSize tdstype)).length =
        4 + decoder.collationSize tdstype := by
      rw [List.length_take]
      omega
    have split_eq := List.take_append_drop (4 + decoder.collationSize tdstype) bytes
    rw [header_append pointer whole]
    nth_rewrite 1 [← split_eq]
    rw [header_append pointer whole]
    dsimp only [bind, Except.bind]
    rw [bulkValue_of_hasTextPointer pointer rfl, if_neg Bool.false_ne_true]
    exact agree_pointer pointer _

/-! ## Accepted types -/

variable (decoder) in
/-- The types that both decoders give values of. -/
inductive Shared (tdstype : TdsType) : Prop where
  | fixed (isFixed : tdstype.isFixedLenType = true) (known : Known tdstype)
  | varying (varying : decoder.Varying tdstype) (known : Known tdstype ∨ tdstype = .xml)
  | sized (isSized : tdstype.isSized = true)

/-- A column of this type has no values. -/
theorem bulkDecode_longBinary (byte_eq : TdsType.ofByte byte = some .longBinary)
    (bytes : List Byte) (taken : Value × List Byte) :
    decoder.bulkDecode (byte :: bytes) ≠ .ok taken := by
  intro decoded
  cases isase : decoder.dbisase with
  | false =>
    have typeInfo : decoder.bulkTypeInfo (byte :: bytes) = .error .rejected := by
      simp [bulkTypeInfo, byte_eq, TdsType.isFixedLenType, TdsType.isVarLenType, isase]
    rw [bulkDecode, typeInfo] at decoded
    cases decoded
  | true =>
    rw [bulkDecode_of_varying byte_eq ⟨rfl, isase, by decide⟩] at decoded
    obtain ⟨⟨info, rp⟩, header, decoded⟩ := bind_ok decoded
    obtain ⟨_, sizes⟩ := paramSizes_of_header header
    have partlen := partlen_of_paramSizes sizes (.inr (.inr (.inl rfl)))
    dsimp only at decoded
    rw [bulkValue_of_not_partlen partlen rfl, bulkTyped_of_not_isSized rfl] at decoded
    cases decoded

/-- A parameter of this type has no values. -/
theorem paramTyped_udt (bytes : List Byte) (taken : Value × List Byte) :
    decoder.paramTyped .udt bytes ≠ .ok taken := by
  intro decoded
  obtain ⟨⟨info, rp⟩, sizes, decoded⟩ := bind_ok decoded
  have partlen : info.partlen = false := partlen_of_paramSizes sizes (.inr (.inr (.inr rfl)))
  obtain ⟨⟨concrete, rp⟩, resolved, decoded⟩ := bind_ok decoded
  cases resolved
  obtain ⟨rp, _, decoded⟩ := bind_ok decoded
  rw [if_neg fun max => Bool.false_ne_true (partlen.symm.trans max.1)] at decoded
  nomatch decoded

theorem shared_of_accepts (accepted : decoder.Accepts byte) :
    ∃ tdstype, TdsType.ofByte byte = some tdstype ∧ decoder.Shared tdstype := by
  obtain ⟨⟨bytes, taken, decoded⟩, bytes', taken', decoded'⟩ := accepted
  cases byte_eq : TdsType.ofByte byte with
  | none =>
    rw [paramValue, byte_eq] at decoded'
    cases decoded'
  | some tdstype =>
    refine ⟨tdstype, rfl, ?_⟩
    rw [paramValue, byte_eq] at decoded'
    cases tdstype
    case null =>
      rw [bulkDecode, bulkTypeInfo, byte_eq] at decoded
      cases decoded
    case longBinary => exact absurd decoded (bulkDecode_longBinary byte_eq bytes taken)
    case udt => exact absurd decoded' (paramTyped_udt bytes' taken')
    case tvp =>
      rw [bulkDecode, bulkTypeInfo, byte_eq] at decoded
      cases decoded
    case intN | bitN | fltN | moneyN | datetimN => exact .sized rfl
    case xml => exact .varying ⟨rfl, rfl, by decide⟩ (.inr rfl)
    case int1 | bit | int2 | int4 | datetim4 | flt4 | money | datetime | flt8 | money4 | int8 =>
      exact .fixed rfl trivial
    all_goals exact .varying ⟨rfl, rfl, by decide⟩ (.inl trivial)

theorem asParameter_of_not_hasTextPointer (byte_eq : TdsType.ofByte byte = some tdstype)
    (pointer : tdstype.hasTextPointer = false) (bytes : List Byte) :
    decoder.asParameter byte bytes = bytes := by
  rw [asParameter, byte_eq]
  exact if_neg (Bool.eq_false_iff.mp pointer)

/-- The two decoders agree on every value of every type that both accept, behind whatever its type
says, if none of them reads it otherwise. -/
theorem decoders_agree (decoder : Decoder) (byte : Byte) (bytes : List Byte)
    (accepted : decoder.Accepts byte) (alike : ¬decoder.LeftOut byte bytes) :
    decoder.Agree ((TdsType.ofByte byte).any TdsType.isPadded)
      (decoder.bulkDecode (byte :: bytes))
      (decoder.paramValue (byte :: decoder.asParameter byte bytes)) := by
  obtain ⟨tdstype, byte_eq, shared⟩ := shared_of_accepts accepted
  rw [paramValue, byte_eq]
  change decoder.Agree tdstype.isPadded _ (decoder.paramTyped tdstype _)
  cases pointer : tdstype.hasTextPointer with
  | true => exact agree_hasTextPointer byte_eq pointer
  | false =>
    rw [asParameter_of_not_hasTextPointer byte_eq pointer]
    cases shared with
    | fixed isFixed known => exact agree_fixed byte_eq isFixed known alike
    | varying varying known => exact agree_varying byte_eq varying known pointer alike
    | sized isSized =>
      have varying : decoder.Varying tdstype := by
        cases tdstype
        case intN | bitN | fltN | moneyN | datetimN => exact ⟨rfl, rfl, by decide⟩
        all_goals cases isSized
      exact agree_sized byte_eq varying isSized alike

/-- A decoder at 7.4 that takes text as it is, and no text for a date. -/
def plain : Decoder where
  negotiatedtdsversion := 740
  dbisase := false
  signedChar := true
  ucs2ToUtf8 := id
  parseDateTime := fun _ => none

theorem decoders_agree_oneByte : plain.Accepts 0x26 ∧ ¬plain.LeftOut 0x26 [8, 1, 127] ∧
    plain.Agree false (plain.bulkDecode [0x26, 8, 1, 127])
      (plain.paramValue (0x26 :: plain.asParameter 0x26 [8, 1, 127])) := by
  have accepted : plain.Accepts 0x26 := ⟨⟨[8, 0], _, rfl⟩, [8, 0], _, rfl⟩
  have alike : ¬plain.LeftOut 0x26 [8, 1, 127] := by
    rintro ⟨tdstype, info, rp, concrete, rest, typeInfo, resolved, otherwise⟩
    cases typeInfo
    cases resolved
    exact absurd otherwise.2 (by decide)
  exact ⟨accepted, alike, decoders_agree plain 0x26 [8, 1, 127] accepted alike⟩

/-- A null text has a single zero in a row, which is not the length of a parameter. -/
theorem not_decoders_agree_nullText : plain.Accepts 0x23 ∧
    ¬plain.Agree false (plain.bulkDecode [0x23, 0, 0, 0, 128, 9, 4, 208, 0, 52, 0])
      (plain.paramValue [0x23, 0, 0, 0, 128, 9, 4, 208, 0, 52, 0]) := by
  have accepted : plain.Accepts 0x23 :=
    ⟨⟨[0, 0, 0, 128, 9, 4, 208, 0, 52, 0], _, rfl⟩,
      [0, 0, 0, 128, 9, 4, 208, 0, 52, 255, 255, 255, 255], _, rfl⟩
  exact ⟨accepted, id⟩

end Decoder

end SqlRelay.Tds.Values
