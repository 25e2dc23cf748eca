import SqlRelay.BindSlots.Reading

/-!
# What a slot keeps of the binds before

The slots are not cleared between two binds, so what the reader of a type does not set is what an earlier
bind has left there.  Only the reader of an input bind that is null sets everything.
-/

namespace SqlRelay.BindSlots

open SqlRelay.Foundation

/-- Two slots hold the same bind, names aside. -/
structure Slot.Same (one other : Slot) : Prop where
  type : one.type = other.type
  value : one.view = other.view
  valuesize : one.valuesize = other.valuesize
  isnull : one.isnull = other.isnull
  segmentlengths : one.segmentlengths = other.segmentlengths

/-- What a reader sets, all of it or nothing of it. -/
structure Sets where
  value : Bool
  valuesize : Bool
  isnull : Bool
  segmentlengths : Bool

/-- What the reader of a type sets.  A double among the output binds gets a precision and a scale only. -/
def sets : Kind → BindType → Sets
  | .input, .null | .input, .nullBlob | .input, .nullClob => ⟨true, true, true, true⟩
  | .input, .string | .input, .array | .input, .blob | .input, .clob => ⟨true, true, true, false⟩
  | .input, .integer | .input, .double => ⟨true, false, false, false⟩
  | .input, .date => ⟨true, false, true, false⟩
  | .output, .string => ⟨true, true, true, false⟩
  | .output, .date | .output, .cursor => ⟨true, false, true, false⟩
  | .output, .blob | .output, .clob => ⟨false, true, true, false⟩
  | .output, _ => ⟨false, false, true, false⟩
  | .inputOutput, .null | .inputOutput, .string => ⟨true, true, true, false⟩
  | .inputOutput, .integer | .inputOutput, .double | .inputOutput, .date => ⟨true, false, true, false⟩
  | _, _ => ⟨false, false, false, false⟩

/-- The size that a payload begins with, if it begins with one. -/
def announcedSize (payload : List Byte) : UInt32 := ((Receiver.long payload).map Prod.fst).getD 0

/-- The values agree as far as the reader leaves them. -/
def ValuesAgree (kind : Kind) (announced : UInt32) : BindType → Slot → Slot → Prop
  | .double, one, other => one.value.first.address = other.value.first.address
  | type, one, other =>
      let settled (slot : Slot) : Slot := { slot with
        type
        valuesize := if (sets kind type).valuesize then announced else slot.valuesize }
      (settled one).view = (settled other).view

/-- The slots agree in what the reader of the type does not set. -/
structure Agree (kind : Kind) (type : BindType) (announced : UInt32) (one other : Slot) : Prop where
  value : (sets kind type).value = false → ValuesAgree kind announced type one other
  valuesize : (sets kind type).valuesize = false → one.valuesize = other.valuesize
  isnull : (sets kind type).isnull = false → one.isnull = other.isnull
  segmentlengths : (sets kind type).segmentlengths = false →
    one.segmentlengths = other.segmentlengths

namespace Setting

variable {setting : Setting} {kind : Kind} {type : BindType} {maxsize valuesize : UInt32}
variable {one other after : Slot} {payload rest : List Byte}

/-! ## Whatever the slot was -/

theorem getBindSize_announced (reads : getBindSize maxsize payload = some (valuesize, rest)) :
    valuesize = announcedSize payload := by
  obtain ⟨size, behind, long, checked⟩ := Receiver.bind_eq_some_iff.mp reads
  rw [announcedSize, long]
  split at checked
  case isTrue => cases checked
  case isFalse =>
    cases checked
    rfl

/-- For this payload the reader takes the same whatever the slot was, and then makes slots of the type the
same exactly if they agree in what the reader of the type leaves. -/
def SetsAlike (reader : Slot → Receiver Slot) (kind : Kind) (type : BindType)
    (payload rest : List Byte) : Prop :=
  ∃ set : Slot → Slot, (∀ slot, slot.type = type → reader slot payload = some (set slot, rest)) ∧
    ∀ one other, one.type = type → other.type = type →
      ((set one).Same (set other) ↔ Agree kind type (announcedSize payload) one other)

/-- A reader that takes something and then sets the slot takes the same whatever the slot was. -/
theorem SetsAlike.of_take {Taken : Type} {take : Receiver Taken} {set : Taken → Slot → Slot}
    {reader : Slot → Receiver Slot} (same : ∀ slot, reader slot = take >>= fun taken => pure (set taken slot))
    (reads : reader one payload = some (after, rest))
    (alike : ∀ taken one other, take payload = some (taken, rest) → one.type = type → other.type = type →
      ((set taken one).Same (set taken other) ↔ Agree kind type (announcedSize payload) one other)) :
    SetsAlike reader kind type payload rest := by
  rw [same] at reads
  obtain ⟨taken, behind, found, made⟩ := Receiver.bind_eq_some_iff.mp reads
  cases made
  refine ⟨set taken, ?_, fun one other => alike taken one other found⟩
  intro slot _
  rw [same, Receiver.bind_eq_some_iff]
  exact ⟨taken, rest, found, rfl⟩

/-- What is changed at the end is changed in the same way, too. -/
theorem SetsAlike.of_take_then {Taken : Type} {take : Receiver Taken} {set : Taken → Slot → Slot}
    {reader : Slot → Receiver Slot} {change : Slot → Slot}
    (same : ∀ slot, reader slot = take >>= fun taken => pure (set taken slot))
    (reads : (reader one >>= fun slot => pure (change slot)) payload = some (after, rest))
    (alike : ∀ taken one other, take payload = some (taken, rest) → one.type = type → other.type = type →
      ((change (set taken one)).Same (change (set taken other)) ↔
        Agree kind type (announcedSize payload) one other)) :
    SetsAlike (fun slot => reader slot >>= fun slot => pure (change slot)) kind type payload rest := by
  have whole (slot : Slot) : (reader slot >>= fun slot => pure (change slot)) =
      take >>= fun taken => pure (change (set taken slot)) := by
    rw [same]
    funext stream
    change Receiver.bind (Receiver.bind take _) _ stream = Receiver.bind take _ stream
    unfold Receiver.bind
    cases take stream <;> rfl
  exact SetsAlike.of_take whole reads alike

theorem SetsAlike.congr {reader inner : Slot → Receiver Slot}
    (same : ∀ slot, slot.type = type → reader slot = inner slot) (typed : one.type = type)
    (reads : reader one payload = some (after, rest))
    (alike : inner one payload = some (after, rest) → SetsAlike inner kind type payload rest) :
    SetsAlike reader kind type payload rest := by
  rw [same one typed] at reads
  obtain ⟨set, takes, iff⟩ := alike reads
  refine ⟨set, ?_, iff⟩
  intro slot slotTyped
  rw [same slot slotTyped]
  exact takes slot slotTyped

/-- A reader that takes nothing. -/
theorem SetsAlike.of_pure (set : Slot → Slot) {reader : Slot → Receiver Slot}
    (same : ∀ slot, slot.type = type → reader slot = pure (set slot)) (typed : one.type = type)
    (reads : reader one payload = some (after, rest))
    (alike : ∀ one other : Slot, one.type = type → other.type = type →
      ((set one).Same (set other) ↔ Agree kind type (announcedSize payload) one other)) :
    SetsAlike reader kind type payload rest := by
  rw [same one typed] at reads
  cases reads
  refine ⟨set, ?_, alike⟩
  intro slot slotTyped
  rw [same slot slotTyped]
  rfl

theorem same_iff : one.Same other ↔ one.type = other.type ∧ one.view = other.view ∧
    one.valuesize = other.valuesize ∧ one.isnull = other.isnull ∧
    one.segmentlengths = other.segmentlengths := by
  constructor
  · intro same
    exact ⟨same.type, same.value, same.valuesize, same.isnull, same.segmentlengths⟩
  · intro same
    exact ⟨same.1, same.2.1, same.2.2.1, same.2.2.2.1, same.2.2.2.2⟩

theorem agree_iff {announced : UInt32} : Agree kind type announced one other ↔
    ((sets kind type).value = false → ValuesAgree kind announced type one other) ∧
    ((sets kind type).valuesize = false → one.valuesize = other.valuesize) ∧
    ((sets kind type).isnull = false → one.isnull = other.isnull) ∧
    ((sets kind type).segmentlengths = false → one.segmentlengths = other.segmentlengths) := by
  constructor
  · intro agree
    exact ⟨agree.value, agree.valuesize, agree.isnull, agree.segmentlengths⟩
  · intro agree
    exact ⟨agree.1, agree.2.1, agree.2.2.1, agree.2.2.2⟩

/-! ## What each reader leaves -/

section Readers

variable (setting)

theorem getTextBind_setsAlike (maxsize : UInt32)
    (text : type = .string ∨ type = .array ∨ type = .blob ∨ type = .clob)
    (leaves : sets kind type = ⟨true, true, true, false⟩)
    (reads : setting.getTextBind maxsize one payload = some (after, rest)) :
    SetsAlike (setting.getTextBind maxsize) kind type payload rest := by
  apply SetsAlike.of_take (fun _ => rfl) reads
  intro taken one other _ first second
  rw [same_iff, agree_iff, leaves]
  rcases text with rfl | rfl | rfl | rfl <;> simp [Slot.view, first, second]

theorem getIntegerBind_setsAlike (reads : setting.getIntegerBind one payload = some (after, rest)) :
    SetsAlike setting.getIntegerBind .input .integer payload rest := by
  have leaves : sets .input .integer = ⟨true, false, false, false⟩ := rfl
  apply SetsAlike.of_take (fun _ => rfl) reads
  intro value one other _ first second
  simp [same_iff, agree_iff, Slot.view, first, second, leaves]

theorem getDoubleBind_setsAlike (reads : setting.getDoubleBind one payload = some (after, rest)) :
    SetsAlike setting.getDoubleBind .input .double payload rest := by
  have leaves : sets .input .double = ⟨true, false, false, false⟩ := rfl
  apply SetsAlike.of_take (fun _ => rfl) reads
  intro double one other _ first second
  simp [same_iff, agree_iff, Slot.view, first, second, leaves]

theorem getDateBind_setsAlike (leaves : sets kind .date = ⟨true, false, true, false⟩)
    (reads : setting.getDateBind one payload = some (after, rest)) :
    SetsAlike setting.getDateBind kind .date payload rest := by
  apply SetsAlike.of_take (fun _ => rfl) reads
  intro date one other _ first second
  simp [same_iff, agree_iff, leaves, Slot.view, first, second]

theorem getInputBind_setsAlike (typed : one.type = type)
    (reads : setting.getInputBind one payload = some (after, rest)) :
    SetsAlike setting.getInputBind .input type payload rest := by
  cases type with
  | null | nullBlob | nullClob =>
      apply SetsAlike.of_pure setting.getNullBind ?_ typed reads
      · have leaves : sets .input one.type = ⟨true, true, true, true⟩ := by
          rw [typed]
          rfl
        rw [typed] at leaves
        intro one other first second
        simp [same_iff, agree_iff, Slot.view, getNullBind, first, second, leaves]
      · intro slot typed
        rw [getInputBind, typed]
  | string | array =>
      refine SetsAlike.congr (fun slot typed => ?_) typed reads
        (getTextBind_setsAlike setting setting.maxstringbindvaluesize (by simp) rfl)
      rw [getInputBind, typed]
      rfl
  | blob | clob =>
      refine SetsAlike.congr (fun slot typed => ?_) typed reads
        (getTextBind_setsAlike setting setting.maxlobbindvaluesize (by simp) rfl)
      rw [getInputBind, typed]
      rfl
  | integer =>
      refine SetsAlike.congr (fun slot typed => ?_) typed reads (getIntegerBind_setsAlike setting)
      rw [getInputBind, typed]
  | double =>
      refine SetsAlike.congr (fun slot typed => ?_) typed reads (getDoubleBind_setsAlike setting)
      rw [getInputBind, typed]
  | date =>
      refine SetsAlike.congr (fun slot typed => ?_) typed reads (getDateBind_setsAlike setting rfl)
      rw [getInputBind, typed]
  | cursor | delimiter | newline | other code =>
      apply SetsAlike.of_pure id ?_ typed reads
      · have leaves : sets .input one.type = ⟨false, false, false, false⟩ := by
          rw [typed]
          rfl
        rw [typed] at leaves
        intro one other first second
        simp [same_iff, agree_iff, ValuesAgree, Slot.view, first, second, leaves]
      · intro slot typed
        rw [getInputBind, typed]
        rfl

theorem getNullString_setsAlike (reads : setting.getNullString one payload = some (after, rest)) :
    SetsAlike setting.getNullString .inputOutput .null payload rest := by
  have leaves : sets .inputOutput .null = ⟨true, true, true, false⟩ := rfl
  apply SetsAlike.of_take_then (fun _ => rfl) reads
  intro valuesize one other _ first second
  simp [same_iff, agree_iff, Slot.view, leaves]

theorem notNull_getIntegerBind_setsAlike
    (reads : setting.notNull setting.getIntegerBind one payload = some (after, rest)) :
    SetsAlike (setting.notNull setting.getIntegerBind) .inputOutput .integer payload rest := by
  have leaves : sets .inputOutput .integer = ⟨true, false, true, false⟩ := rfl
  apply SetsAlike.of_take_then (fun _ => rfl) reads
  intro value one other _ first second
  simp [same_iff, agree_iff, Slot.view, first, second, leaves]

theorem notNull_getDoubleBind_setsAlike
    (reads : setting.notNull setting.getDoubleBind one payload = some (after, rest)) :
    SetsAlike (setting.notNull setting.getDoubleBind) .inputOutput .double payload rest := by
  have leaves : sets .inputOutput .double = ⟨true, false, true, false⟩ := rfl
  apply SetsAlike.of_take_then (fun _ => rfl) reads
  intro double one other _ first second
  simp [same_iff, agree_iff, Slot.view, first, second, leaves]

theorem getInputOutputBind_setsAlike (typed : one.type = type)
    (reads : setting.getInputOutputBind one payload = some (after, rest)) :
    SetsAlike setting.getInputOutputBind .inputOutput type payload rest := by
  cases type with
  | null =>
      refine SetsAlike.congr (fun slot typed => ?_) typed reads (getNullString_setsAlike setting)
      rw [getInputOutputBind, typed]
  | string =>
      refine SetsAlike.congr (fun slot typed => ?_) typed reads
        (getTextBind_setsAlike setting setting.maxstringbindvaluesize (by simp) rfl)
      rw [getInputOutputBind, typed]
      rfl
  | integer =>
      refine SetsAlike.congr (fun slot typed => ?_) typed reads (notNull_getIntegerBind_setsAlike setting)
      rw [getInputOutputBind, typed]
  | double =>
      refine SetsAlike.congr (fun slot typed => ?_) typed reads (notNull_getDoubleBind_setsAlike setting)
      rw [getInputOutputBind, typed]
  | date =>
      refine SetsAlike.congr (fun slot typed => ?_) typed reads (getDateBind_setsAlike setting rfl)
      rw [getInputOutputBind, typed]
  | blob | clob | cursor | delimiter | newline | array | nullBlob | nullClob | other code =>
      apply SetsAlike.of_pure id ?_ typed reads
      · have leaves : sets .inputOutput one.type = ⟨false, false, false, false⟩ := by
          rw [typed]
          rfl
        rw [typed] at leaves
        intro one other first second
        simp [same_iff, agree_iff, ValuesAgree, Slot.view, first, second, leaves]
      · intro slot typed
        rw [getInputOutputBind, typed]
        rfl

theorem shortAt_replaced (word : UInt64) (short : UInt16) :
    shortAt 0 (word - (shortAt 0 word).toUInt64 + short.toUInt64) = short := by
  have low := short.toNat_lt
  have whole := word.toNat_lt
  have within : (shortAt 0 word).toUInt64 ≤ word := by
    rw [UInt64.le_iff_toNat_le, UInt16.toNat_toUInt64, shortAt, UInt16.toNat_ofNat']
    omega
  apply UInt16.toNat_inj.mp
  rw [shortAt, UInt16.toNat_ofNat', UInt64.toNat_add, UInt64.toNat_sub_of_le _ _ within,
    UInt16.toNat_toUInt64, UInt16.toNat_toUInt64, shortAt, UInt16.toNat_ofNat']
  omega

theorem notNull_initString_setsAlike
    (reads : setting.notNull setting.initString one payload = some (after, rest)) :
    SetsAlike (setting.notNull setting.initString) .output .string payload rest := by
  have leaves : sets .output .string = ⟨true, true, true, false⟩ := rfl
  apply SetsAlike.of_take_then (fun _ => rfl) reads
  intro valuesize one other _ first second
  simp [same_iff, agree_iff, Slot.view, first, second, leaves]

theorem notNull_initLob_setsAlike (lob : type = .blob ∨ type = .clob)
    (reads : setting.notNull setting.initLob one payload = some (after, rest)) :
    SetsAlike (setting.notNull setting.initLob) .output type payload rest := by
  apply SetsAlike.of_take_then (fun _ => rfl) reads
  intro valuesize one other sized first second
  have leaves : sets .output type = ⟨false, true, true, false⟩ := by
    rcases lob with rfl | rfl <;> rfl
  rw [getBindSize_announced sized]
  rcases lob with rfl | rfl <;>
    simp [same_iff, agree_iff, ValuesAgree, Slot.view, first, second, leaves]

theorem notNull_initCursor_setsAlike (typed : one.type = .cursor)
    (reads : setting.notNull setting.initCursor one payload = some (after, rest)) :
    SetsAlike (setting.notNull setting.initCursor) .output .cursor payload rest := by
  cases available : setting.available with
  | none =>
      rw [notNull, initCursor, available] at reads
      cases reads
  | some cursorid =>
      let changed (slot : Slot) : UInt64 := slot.value.first.address -
        (shortAt 0 slot.value.first.address).toUInt64 + cursorid.toUInt64
      apply SetsAlike.of_pure (fun slot => { slot with
        value := { slot.value with first := ⟨changed slot, setting.memory (changed slot)⟩ }
        isnull := setting.nonNullBindValue }) ?_ typed reads
      · intro one other first second
        have leaves : sets .output .cursor = ⟨true, false, true, false⟩ := rfl
        simp [same_iff, agree_iff, Slot.view, first, second, leaves, changed, shortAt_replaced]
      · intro slot _
        rw [notNull, initCursor, available]
        rfl

theorem getOutputBind_setsAlike (typed : one.type = type)
    (reads : setting.getOutputBind one payload = some (after, rest)) :
    SetsAlike setting.getOutputBind .output type payload rest := by
  cases type with
  | string =>
      refine SetsAlike.congr (fun slot typed => ?_) typed reads (notNull_initString_setsAlike setting)
      rw [getOutputBind, notNull, initOutputBind, typed]
      rfl
  | blob | clob =>
      refine SetsAlike.congr (fun slot typed => ?_) typed reads (notNull_initLob_setsAlike setting ?_)
      · rw [getOutputBind, notNull, initOutputBind, typed]
        rfl
      · simp
  | cursor =>
      refine SetsAlike.congr (fun slot typed => ?_) typed reads
        (notNull_initCursor_setsAlike setting typed)
      rw [getOutputBind, notNull, initOutputBind, typed]
      rfl
  | double =>
      apply SetsAlike.of_pure (fun slot => { slot with
        value := { slot.value with second := 0 }
        isnull := setting.nonNullBindValue }) ?_ typed reads
      · intro one other first second
        have leaves : sets .output .double = ⟨false, false, true, false⟩ := rfl
        simp [same_iff, agree_iff, ValuesAgree, Slot.view, first, second, leaves]
      · intro slot typed
        rw [getOutputBind, notNull, initOutputBind, typed]
        rfl
  | date =>
      apply SetsAlike.of_pure (fun slot => { slot with
        value := ⟨⟨0, setting.memory 0⟩, 0, none, false⟩
        isnull := setting.nonNullBindValue }) ?_ typed reads
      · intro one other first second
        have leaves : sets .output .date = ⟨true, false, true, false⟩ := rfl
        simp [same_iff, agree_iff, Slot.view, first, second, leaves]
      · intro slot typed
        rw [getOutputBind, notNull, initOutputBind, typed]
        rfl
  | null | integer | delimiter | newline | array | nullBlob | nullClob | other code =>
      apply SetsAlike.of_pure (fun slot => { slot with isnull := setting.nonNullBindValue }) ?_ typed reads
      · have leaves : sets .output one.type = ⟨false, false, true, false⟩ := by
          rw [typed]
          rfl
        rw [typed] at leaves
        intro one other first second
        simp [same_iff, agree_iff, ValuesAgree, Slot.view, first, second, leaves]
      · intro slot typed
        have init : setting.initOutputBind slot = pure slot := by rw [initOutputBind, typed]
        rw [getOutputBind, notNull, init]
        rfl

theorem getValue_setsAlike (typed : one.type = type)
    (reads : setting.getValue kind one payload = some (after, rest)) :
    SetsAlike (setting.getValue kind) kind type payload rest := by
  cases kind with
  | input => exact getInputBind_setsAlike setting typed reads
  | output => exact getOutputBind_setsAlike setting typed reads
  | inputOutput => exact getInputOutputBind_setsAlike setting typed reads

end Readers

/-! ## One bind -/

/-- What `one` and another slot hold after the same bind has been read into both. -/
def LeavesNoResidue (setting : Setting) (kind : Kind) (stream : List Byte) (one other : Slot) : Prop :=
  ∀ after rest, setting.getBind kind one stream = some (after, rest) →
    ∃ also, setting.getBind kind other stream = some (also, rest) ∧ after.Same also

/-- The slots agree in what the reader of the type that the bytes begin with leaves. -/
def AgreesFor (setting : Setting) (kind : Kind) (stream : List Byte) (one other : Slot) : Prop :=
  ∀ name type payload, setting.getNameAndType stream = some ((name, type), payload) →
    Agree kind type (announcedSize payload) one other

theorem leavesNoResidue_iff {stream : List Byte} {one after : Slot} {rest : List Byte}
    (isBind : setting.getBind kind one stream = some (after, rest)) (other : Slot) :
    setting.LeavesNoResidue kind stream one other ↔ setting.AgreesFor kind stream one other := by
  obtain ⟨front, payload, named, reads⟩ := Receiver.bind_eq_some_iff.mp isBind
  obtain ⟨name, type⟩ := front
  have setsAlike : SetsAlike (setting.getValue kind) kind type payload rest :=
    getValue_setsAlike setting rfl reads
  obtain ⟨set, takes, alike⟩ := setsAlike
  have read (slot : Slot) : setting.getBind kind slot stream =
      some (set { slot with name, type }, rest) := by
    rw [getBind, Receiver.bind_eq_some_iff]
    exact ⟨(name, type), payload, named, takes _ rfl⟩
  have made : after = set { one with name, type } := by
    rw [read one] at isBind
    cases isBind
    rfl
  have agree : after.Same (set { other with name, type }) ↔
      Agree kind type (announcedSize payload) one other := by
    rw [made, alike { one with name, type } { other with name, type } rfl rfl, agree_iff, agree_iff]
    cases type <;> rfl
  constructor
  · intro same found foundType foundPayload front
    rw [named] at front
    cases front
    obtain ⟨also, readsAlso, same⟩ := same after rest isBind
    rw [read other] at readsAlso
    cases readsAlso
    exact agree.mp same
  · intro agrees found foundRest foundReads
    rw [isBind] at foundReads
    cases foundReads
    exact ⟨_, read other, agree.mpr (agrees name type payload named)⟩

/-- A small server. -/
def small : Setting where
  bindFormat := chr ':'
  maxbindnamesize := 64
  maxstringbindvaluesize := 4000
  maxlobbindvaluesize := 71680
  nonNullBindValue := 0
  nullBindValue := -1
  bindpool := ⟨4096, fun _ => 0⟩
  memory := fun _ => []
  available := none

/-- A slot as the cursor is created with it. -/
def created : Slot where
  name := []
  type := .null
  value := ⟨⟨0, []⟩, 0, none, false⟩
  valuesize := 0
  isnull := 0
  segmentlengths := none

/-- The integer 5 for the variable `1`. -/
def five : List Byte := [0, 1, chr '1', 0, 2, 0, 0, 0, 0, 0, 0, 0, 5]

/-- The integer is null if the bind before was. -/
theorem not_leavesNoResidue_integer :
    ¬ ∀ (setting : Setting) (kind : Kind) (stream : List Byte) (one other : Slot),
      setting.LeavesNoResidue kind stream one other := by
  intro always
  have same := always small .input five created (small.getNullBind created) _ [] rfl
  obtain ⟨also, reads, same⟩ := same
  cases reads
  exact absurd same.isnull (by decide)

theorem leavesNoResidue_iff_integer :
    small.LeavesNoResidue .input five created (small.getNullBind created) ↔
      small.AgreesFor .input five created (small.getNullBind created) :=
  leavesNoResidue_iff rfl _

end Setting

end SqlRelay.BindSlots
