import Mathlib.Data.List.Induction
import SqlRelay.OutputBinds.Values

/-!
# Which values reach their variables

The values go into the variables in order, the first value into the first variable.  So all is well
as long as only the last variables are not sent, and each value is one that comes across whole: a
string without a NUL, long data of the length that the database tells, and a null for a variable that
a null clears.
-/

namespace SqlRelay.OutputBinds

open SqlRelay.Foundation

/-! ## A value on the wire -/

/-- What the client receives of long data. -/
def Lob.sent (lob : Lob) : Received :=
  match lob.length with
  | none => .null
  | some loblength =>
      if loblength = 0 then .long 0 []
      else if lob.segments = [] then .null
      else .long loblength lob.data

/-- What the client receives of a value. -/
def Held.sent : Held → Received
  | .null => .null
  | .string value => .string (CString.contents value)
  | .integer value => .integer value
  | .double value precision scale => .double value precision scale
  | .date moment tz isnegative => .date moment tz.text isnegative
  | .blob lob => lob.sent
  | .clob lob => lob.sent
  | .cursor cursorid => .cursor cursorid

theorem reads_moment (moment : Moment) : Reads readMoment moment (writeMoment moment) := by
  simp only [writeMoment, List.append_assoc]
  apply (Reads.short _).bind
  apply (Reads.short _).bind
  apply (Reads.short _).bind
  apply (Reads.short _).bind
  apply (Reads.short _).bind
  apply (Reads.short _).bind
  exact (Reads.long _).map fun microsecond =>
    (⟨moment.year, moment.month, moment.day, moment.hour, moment.minute, moment.second,
      microsecond.toInt32⟩ : Moment)

/-- Bytes behind their count. -/
theorem reads_counted {data : List Byte} (short : data.length < 4294967296) {Value : Type}
    (change : List Byte → Value) :
    Reads (do
        let length ← Receiver.long
        let value ← Receiver.bytes length.toNat
        pure (change value))
      (change data) (Wire.long (UInt32.ofNat data.length) ++ data) := by
  apply (Reads.long _).bind
  have length : (UInt32.ofNat data.length).toNat = data.length := UInt32.toNat_ofNat_of_lt' short
  rw [length]
  exact (Reads.bytes data).map change

/-! ### Long data -/

theorem reads_chunk (before : List Byte) {data : List Byte} (short : data.length < 4294967296) :
    Reads (readChunk before) (.inr (before ++ data)) (sendLongSegment data) := by
  rw [sendLongSegment, List.append_assoc]
  apply (Reads.short STRING_DATA).bind
  rw [if_neg (by decide)]
  exact reads_counted short fun chunk => Sum.inr (before ++ chunk)

theorem reads_lastChunk (data : List Byte) :
    Reads (readChunk data) (.inl data) endSendingLong := by
  rw [endSendingLong, ← List.append_nil (Wire.short END_LONG_DATA)]
  apply (Reads.short END_LONG_DATA).bind
  rw [if_pos rfl]
  exact Reads.pure _

theorem sendLongSegment_ne_nil (data : List Byte) : sendLongSegment data ≠ [] := by
  simp [sendLongSegment, Wire.short_ne_nil]

/-- What comes behind the first segment. -/
theorem rounds_segments (loblength : UInt64) (segments : List Segment) (before : List Byte) :
    Rounds readChunk (before ++ segments.flatMap Segment.data) before
      (sendSegments loblength false segments) := by
  induction segments generalizing before with
  | nil =>
      rw [sendSegments, List.flatMap_nil, List.append_nil]
      exact Rounds.last (reads_lastChunk before)
  | cons segment segments induction =>
      have short : segment.data.length < 4294967296 := by
        have fits := segment.fits
        omega
      have later := induction (before ++ segment.data)
      rw [List.append_assoc, ← List.flatMap_cons] at later
      exact Rounds.next (reads_chunk before short) (sendLongSegment_ne_nil _) later

theorem reads_long {totallength : UInt64} {data written : List Byte}
    (rounds : Rounds readChunk data [] written) :
    Reads (readValue START_LONG_DATA) (.long totallength data)
      (Wire.longLong totallength ++ written) := by
  apply (Reads.longLong totallength).bind
  exact rounds.reads.map (Received.long totallength)

theorem reads_null : Reads (readValue NULL_DATA) .null [] := Reads.pure _

/-- A value goes behind its type, which is not that of the end. -/
def Framed (received : Received) (written : List Byte) : Prop :=
  ∃ type payload, written = Wire.short type ++ payload ∧ type ≠ END_BIND_VARS ∧
    Reads (readValue type) received payload

theorem framed_null : Framed .null sendNullField :=
  ⟨NULL_DATA, [], (List.append_nil _).symm, by decide, reads_null⟩

theorem framed_lob (lob : Lob) : Framed lob.sent (sendLobOutputBind lob) := by
  unfold Lob.sent sendLobOutputBind
  cases lob.length with
  | none => exact framed_null
  | some loblength =>
      dsimp only
      by_cases empty : loblength = 0
      · rw [if_pos empty, if_pos empty]
        have rounds := Rounds.next (@reads_chunk [] [] (by decide))
          (sendLongSegment_ne_nil []) (Rounds.last (reads_lastChunk []))
        refine ⟨START_LONG_DATA, _, ?_, by decide, reads_long rounds⟩
        rw [startSendingLong, List.append_assoc, List.append_assoc]
      · rw [if_neg empty, if_neg empty, Lob.data]
        cases lob.segments with
        | nil =>
            rw [if_pos rfl]
            exact framed_null
        | cons segment segments =>
            rw [if_neg (List.cons_ne_nil _ _)]
            have rounds := rounds_segments loblength (segment :: segments) []
            refine ⟨START_LONG_DATA, _, ?_, by decide, reads_long rounds⟩
            simp [sendSegments, startSendingLong]

theorem framed {type : BindType} {held : Held} (fits : held.fits type = true) :
    Framed held.sent (returnOutputBindValue held) := by
  cases held with
  | null => exact framed_null
  | blob lob => exact framed_lob lob
  | clob lob => exact framed_lob lob
  | string value =>
      have short : (CString.contents value).length < 4294967296 := by
        cases type with
        | string valuesize =>
            have within : value.length ≤ valuesize.toNat := of_decide_eq_true fits
            have less : (CString.contents value).length ≤ value.length :=
              (List.takeWhile_sublist _).length_le
            have bound := valuesize.toNat_lt
            omega
        | _ => cases fits
      refine ⟨STRING_DATA, _, List.append_assoc _ _ _, by decide, ?_⟩
      exact reads_counted short Received.string
  | integer value =>
      exact ⟨INTEGER_DATA, _, rfl, by decide, (Reads.longLong value).map Received.integer⟩
  | double value precision scale =>
      refine ⟨DOUBLE_DATA, Wire.longLong value ++ (Wire.long precision ++ Wire.long scale), ?_,
        by decide, ?_⟩
      · simp only [returnOutputBindValue, List.append_assoc]
      · apply (Reads.longLong value).bind
        apply (Reads.long precision).bind
        exact (Reads.long scale).map (Received.double value precision)
  | date moment tz isnegative =>
      refine ⟨DATE_DATA, writeMoment moment ++ (Wire.short (UInt16.ofNat tz.text.length) ++
        (tz.text ++ Wire.bool isnegative)), ?_, by decide, ?_⟩
      · simp only [returnOutputBindValue, List.append_assoc]
      · apply (reads_moment moment).bind
        apply (Reads.short _).bind
        have length : (UInt16.ofNat tz.text.length).toNat = tz.text.length :=
          UInt16.toNat_ofNat_of_lt' tz.short
        rw [length]
        apply (Reads.bytes tz.text).bind
        exact (Reads.bool isnegative).map (Received.date moment tz.text)
  | cursor cursorid =>
      exact ⟨CURSOR_DATA, _, rfl, by decide, (Reads.short cursorid).map Received.cursor⟩

/-! ## All values -/

/-- One value after the other goes into one variable after the other. -/
def storeAll (returnnulls : Bool) : List Received → List Var → List Var
  | [], vars => vars
  | _ :: _, [] => []
  | received :: more, var :: vars => var.store returnnulls received :: storeAll returnnulls more vars

@[simp] theorem storeAll_nil (returnnulls : Bool) (received : List Received) :
    storeAll returnnulls received [] = [] := by
  cases received <;> rfl

section Run

variable {returnnulls : Bool} {received : Received} {written : List Byte}

theorem Framed.ne_nil (framed : Framed received written) : written ≠ [] := by
  obtain ⟨type, payload, rfl, _, _⟩ := framed
  simp [Wire.short_ne_nil]

theorem Framed.stored (framed : Framed received written) (done vars : List Var) (var : Var) :
    Reads (parseOutputBind returnnulls (done, var :: vars))
      (.inr (done ++ [var.store returnnulls received], vars)) written := by
  obtain ⟨type, payload, rfl, notEnd, reads⟩ := framed
  apply (Reads.short type).bind
  rw [if_neg notEnd]
  exact reads.map fun received => Sum.inr (done ++ [var.store returnnulls received], vars)

theorem Framed.discarded (framed : Framed received written) (done : List Var) :
    Reads (parseOutputBind returnnulls (done, [])) (.inr (done, [])) written := by
  obtain ⟨type, payload, rfl, notEnd, reads⟩ := framed
  apply (Reads.short type).bind
  rw [if_neg notEnd]
  exact reads.map fun _ => Sum.inr (done, [])

theorem reads_endBindVars (done vars : List Var) :
    Reads (parseOutputBind returnnulls (done, vars)) (.inl (done ++ vars))
      (Wire.short END_BIND_VARS) := by
  rw [← List.append_nil (Wire.short END_BIND_VARS)]
  apply (Reads.short END_BIND_VARS).bind
  rw [if_pos rfl]
  exact Reads.pure _

theorem rounds_values (values : List Held)
    (framed : ∀ held ∈ values, Framed held.sent (returnOutputBindValue held)) (done vars : List Var) :
    Rounds (parseOutputBind returnnulls) (done ++ storeAll returnnulls (values.map Held.sent) vars)
      (done, vars) (returnOutputBindValues values) := by
  induction values generalizing done vars with
  | nil =>
      rw [List.map_nil, storeAll, returnOutputBindValues, List.flatMap_nil, List.nil_append]
      exact Rounds.last (reads_endBindVars done vars)
  | cons held values induction =>
      have first := framed held List.mem_cons_self
      have later := induction fun other member => framed other (List.mem_cons_of_mem _ member)
      rw [returnOutputBindValues, List.flatMap_cons, List.append_assoc, ← returnOutputBindValues]
      cases vars with
      | nil =>
          have rest := later done []
          rw [storeAll_nil] at rest ⊢
          exact Rounds.next (first.discarded done) first.ne_nil rest
      | cons var vars =>
          have rest := later (done ++ [var.store returnnulls held.sent]) vars
          rw [List.append_assoc] at rest
          exact Rounds.next (first.stored done vars var) first.ne_nil rest

/-- The first value goes into the first variable, and so on, whatever the variables are. -/
theorem reads_parseOutputBinds (values : List Held)
    (framed : ∀ held ∈ values, Framed held.sent (returnOutputBindValue held)) (vars : List Var) :
    Reads (parseOutputBinds returnnulls vars) (storeAll returnnulls (values.map Held.sent) vars)
      (returnOutputBindValues values) :=
  (rounds_values values framed [] vars).reads

end Run

@[simp] theorem Var.store_name (returnnulls : Bool) (var : Var) (received : Received) :
    (var.store returnnulls received).name = var.name := by
  cases received <;> rfl

theorem names_storeAll (returnnulls : Bool) (received : List Received) (vars : List Var) :
    (storeAll returnnulls received vars).map Var.name = vars.map Var.name := by
  induction received generalizing vars with
  | nil => rfl
  | cons first received induction =>
      cases vars with
      | nil => rfl
      | cons var vars => simp [storeAll, induction]

/-- A variable that there is a value for gets this value. -/
theorem storeAll_stores (returnnulls : Bool) {received : List Received} {vars : List Var} {i : Nat}
    {value : Received} {var : Var} (hasValue : received[i]? = some value) (there : vars[i]? = some var) :
    (storeAll returnnulls received vars)[i]? = some (var.store returnnulls value) := by
  induction received generalizing vars i with
  | nil => cases hasValue
  | cons first received induction =>
      cases vars with
      | nil => cases there
      | cons next vars =>
          cases i with
          | zero =>
              cases hasValue
              cases there
              rfl
          | succ i => exact induction hasValue there

/-- The others stay as they are. -/
theorem storeAll_keeps (returnnulls : Bool) {received : List Received} {vars : List Var} {i : Nat}
    (behind : received.length ≤ i) : (storeAll returnnulls received vars)[i]? = vars[i]? := by
  induction received generalizing vars i with
  | nil => rfl
  | cons first received induction =>
      cases vars with
      | nil => rfl
      | cons next vars =>
          cases i with
          | zero => cases behind
          | succ i => exact induction (Nat.le_of_succ_le_succ behind)

/-! ## What a variable shows -/

/-- What a null looks like to the client. -/
def Content.IsNull (returnnulls : Bool) (content : Content) : BindType → Prop
  | .string _ => content = .string (nullText returnnulls)
  | .integer => content = .integer 0
  | .double => content = .double 0 0 0
  | .date => content = .date Moment.zero (nullText returnnulls) false
  | .blob | .clob => content = .lob none ∨ content = .lob (some [])
  | .cursor => content = .cursor 0

/-- The value and the length of the variable are what the server holds. -/
def Var.Shows (returnnulls : Bool) (var : Var) : Held → Prop
  | .null => var.content.IsNull returnnulls var.defined.type ∧ var.resultvaluesize = 0
  | .string value => var.content = .string (some value) ∧ var.resultvaluesize.toNat = value.length
  | .integer value => var.content = .integer value
  | .double value precision scale => var.content = .double value precision scale
  | .date moment tz isnegative => var.content = .date moment (some tz.text) isnegative
  | .blob lob | .clob lob =>
      var.content = .lob (some lob.data) ∧ var.resultvaluesize.toNat = lob.data.length
  | .cursor cursorid => var.content = .cursor cursorid

/-- The database tells the length of the data, as far as a length of 32 bits goes. -/
def Lob.Counted (lob : Lob) : Prop :=
  ∃ loblength, lob.length = some loblength ∧ loblength.toUInt32.toNat = lob.data.length ∧
    (lob.data = [] → loblength = 0)

/-- The value comes across whole. -/
def Held.Carried : BindType → Held → Prop
  | .string _, .null | .integer, .null | .double, .null => True
  | _, .null => False
  | _, .string value => 0 ∉ value
  | _, .blob lob | _, .clob lob => lob.Counted
  | _, _ => True

theorem Segment.flatMap_eq_nil {segments : List Segment} :
    segments.flatMap Segment.data = [] ↔ segments = [] := by
  cases segments with
  | nil => simp
  | cons segment segments => simp [segment.nonempty]

section Shows

variable {returnnulls : Bool} {var : Var} {type : BindType} {held : Held} {lob : Lob}

theorem store_null : (var.store returnnulls .null).content =
    var.content.setNull returnnulls var.defined.type := rfl

theorem shows_lob (counted : lob.Counted) :
    (var.store returnnulls lob.sent).content = .lob (some lob.data) ∧
      (var.store returnnulls lob.sent).resultvaluesize.toNat = lob.data.length := by
  obtain ⟨loblength, told, same, empty⟩ := counted
  rw [Lob.sent, told]
  dsimp only
  by_cases zero : loblength = 0
  · rw [zero] at same
    have nothing : lob.data = [] := List.eq_nil_of_length_eq_zero same.symm
    rw [if_pos zero, nothing]
    exact ⟨rfl, rfl⟩
  · have something : lob.segments ≠ [] := by
      intro nothing
      apply zero
      apply empty
      rw [Lob.data, nothing]
      rfl
    have within : lob.data.length ≤ loblength.toNat := by
      rw [← same, UInt64.toNat_toUInt32]
      exact Nat.mod_le _ _
    rw [if_neg zero, if_neg something]
    constructor
    · rw [Var.store, List.set_eq_of_length_le within]
    · exact same

theorem lob_counted (shown : (Var.store returnnulls var lob.sent).content = .lob (some lob.data) ∧
      (Var.store returnnulls var lob.sent).resultvaluesize.toNat = lob.data.length)
    (before : var.content = .lob none) (type : var.defined.type = .blob ∨ var.defined.type = .clob) :
    lob.Counted := by
  have isNull : (Var.store returnnulls var .null).content = .lob none := by
    rw [store_null, before]
    cases type with
    | inl blob =>
        rw [blob]
        rfl
    | inr clob =>
        rw [clob]
        rfl
  obtain ⟨data, size⟩ := shown
  unfold Lob.sent at data size
  cases told : lob.length with
  | none =>
      rw [told] at data
      rw [isNull] at data
      cases data
  | some loblength =>
      rw [told] at data size
      dsimp only at data size
      refine ⟨loblength, told, ?_⟩
      by_cases zero : loblength = 0
      · rw [if_pos zero] at data
        have empty : lob.data = [] := by simpa [Var.store] using data.symm
        rw [empty, zero]
        exact ⟨rfl, fun _ => rfl⟩
      · rw [if_neg zero] at data size
        by_cases nothing : lob.segments = []
        · rw [if_pos nothing, isNull] at data
          cases data
        · rw [if_neg nothing] at size
          constructor
          · exact size
          · intro empty
            exact absurd (Segment.flatMap_eq_nil.mp empty) nothing

/-- Whatever has been in the variable, a value that comes across whole is shown. -/
theorem shows_of_carried (fits : held.fits var.defined.type = true) (carried : held.Carried var.defined.type) :
    (var.store returnnulls held.sent).Shows returnnulls held := by
  cases held with
  | null =>
      constructor
      · change (var.content.setNull returnnulls var.defined.type).IsNull returnnulls var.defined.type
        cases type : var.defined.type <;> rw [type] at carried <;> first | rfl | exact carried.elim
      · rfl
  | string value =>
      have whole : CString.contents value = value := by
        apply CString.contents_eq_self
        cases type : var.defined.type <;> rw [type] at carried <;> exact carried
      have short : value.length < 4294967296 := by
        cases type : var.defined.type with
        | string valuesize =>
            rw [type] at fits
            have within : value.length ≤ valuesize.toNat := of_decide_eq_true fits
            have bound := valuesize.toNat_lt
            omega
        | _ =>
            rw [type] at fits
            cases fits
      rw [Held.sent, whole]
      exact ⟨rfl, UInt32.toNat_ofNat_of_lt' short⟩
  | integer value => rfl
  | double value precision scale => rfl
  | date moment tz isnegative => rfl
  | blob lob =>
      apply shows_lob
      cases type : var.defined.type <;> rw [type] at carried <;> exact carried
  | clob lob =>
      apply shows_lob
      cases type : var.defined.type <;> rw [type] at carried <;> exact carried
  | cursor cursorid => rfl

/-- A content of the type that is not what the server holds, and that what does not come across whole
leaves or replaces by something else. -/
def Held.otherContent : BindType → Held → Content
  | .string _, .null => .string (some [1])
  | .integer, .null => .integer 1
  | .double, .null => .double 1 0 0
  | .date, .null => .date Moment.zero (some []) true
  | .blob, .null | .clob, .null => .lob (some [1])
  | .cursor, .null => .cursor 1
  | _, .string _ => .string none
  | _, .integer value => .integer (value + 1)
  | _, .double value precision scale => .double (value + 1) precision scale
  | _, .date moment _ _ => .date moment none false
  | _, .blob _ | _, .clob _ => .lob none
  | _, .cursor cursorid => .cursor (cursorid + 1)

theorem otherContent_fits (fits : held.fits type = true) :
    (held.otherContent type).fits type = true := by
  cases type <;> cases held <;> first | rfl | cases fits

theorem not_shows_otherContent (other : var.content = held.otherContent var.defined.type) :
    ¬ var.Shows returnnulls held := by
  intro shown
  cases held with
  | null =>
      have isNull := shown.1
      cases type : var.defined.type <;> rw [type] at isNull other <;>
        cases returnnulls <;> simp [Content.IsNull, other, Held.otherContent, nullText, Moment.zero] at isNull
  | string value => simp [Var.Shows, other, Held.otherContent] at shown
  | integer value => simp [Var.Shows, other, Held.otherContent] at shown
  | double value precision scale => simp [Var.Shows, other, Held.otherContent] at shown
  | date moment tz isnegative => simp [Var.Shows, other, Held.otherContent] at shown
  | blob lob => simp [Var.Shows, other, Held.otherContent] at shown
  | clob lob => simp [Var.Shows, other, Held.otherContent] at shown
  | cursor cursorid => simp [Var.Shows, other, Held.otherContent] at shown

/-- A variable with other content only shows what comes across whole. -/
theorem carried_of_shows (other : var.content = held.otherContent var.defined.type)
    (fits : held.fits var.defined.type = true)
    (shown : (var.store returnnulls held.sent).Shows returnnulls held) :
    held.Carried var.defined.type := by
  cases held with
  | null =>
      have isNull : (var.content.setNull returnnulls var.defined.type).IsNull returnnulls var.defined.type :=
        shown.1
      rw [other] at isNull
      cases type : var.defined.type with
      | string valuesize => trivial
      | integer => trivial
      | double => trivial
      | date =>
          rw [type] at isNull
          cases isNull
      | blob =>
          rw [type] at isNull
          cases isNull with
          | inl same => cases same
          | inr same => cases same
      | clob =>
          rw [type] at isNull
          cases isNull with
          | inl same => cases same
          | inr same => cases same
      | cursor =>
          rw [type] at isNull
          cases isNull
  | string value =>
      have same : CString.contents value = value := by simpa [Var.Shows, Var.store, Held.sent] using shown.1
      have noNul : 0 ∉ value := by
        rw [← same]
        exact CString.zero_notMem_contents value
      cases type : var.defined.type <;> exact noNul
  | integer value => cases type : var.defined.type <;> trivial
  | double value precision scale => cases type : var.defined.type <;> trivial
  | date moment tz isnegative => cases type : var.defined.type <;> trivial
  | blob lob =>
      have counted : lob.Counted := by
        apply lob_counted shown
        · rw [other]
          cases type : var.defined.type <;> rfl
        · left
          cases type : var.defined.type <;> rw [type] at fits <;> first | rfl | cases fits
      cases type : var.defined.type <;> exact counted
  | clob lob =>
      have counted : lob.Counted := by
        apply lob_counted shown
        · rw [other]
          cases type : var.defined.type <;> rfl
        · right
          cases type : var.defined.type <;> rw [type] at fits <;> first | rfl | cases fits
      cases type : var.defined.type <;> exact counted
  | cursor cursorid => cases type : var.defined.type <;> trivial

end Shows

/-! ## Delivery -/

/-- What the database gives for a bind of this name and type. -/
structure Database where
  answer : List Byte → BindType → Held
  fits : ∀ name type, (answer name type).fits type = true

def Var.definition (var : Var) : List Byte × Defined := (var.name, var.defined)

namespace Binds

/-- What the server holds for each of the binds that it has got. -/
def held (binds : Binds) (database : Database) : List Held :=
  binds.sendOutputBinds.map fun definition => database.answer definition.1 definition.2.type

/-- Variables with these definitions, each of which holds something of its type. -/
structure Defines (binds : Binds) (vars : List Var) : Prop where
  definitions : vars.map Var.definition = binds.definitions
  fits : ∀ var ∈ vars, var.content.fits var.defined.type = true

/-- Whatever the variables were before, the client then finds under the name of each bind what the server
holds for it, and has what it had under the names that are not sent. -/
def Delivers (binds : Binds) (returnnulls : Bool) (database : Database) : Prop :=
  ∀ before, binds.Defines before →
    ∃ after, Reads (parseOutputBinds returnnulls before) after
        (returnOutputBindValues (binds.held database)) ∧
      (∀ definition ∈ binds.sendOutputBinds, ∃ var, getOutputBind after definition.1 = some var ∧
        var.Shows returnnulls (database.answer definition.1 definition.2.type)) ∧
      ∀ definition ∈ binds.definitions, definition.2.send = false →
        getOutputBind after definition.1 = getOutputBind before definition.1

variable {α : Type}

/-- Where all that count come first, they begin the list. -/
theorem filter_isPrefix {counts : α → Bool} {list : List α}
    (first : list.Pairwise fun earlier later => counts later = true → counts earlier = true) :
    list.filter counts <+: list := by
  induction list with
  | nil => exact List.prefix_rfl
  | cons head tail induction =>
      rw [List.pairwise_cons] at first
      by_cases here : counts head = true
      · rw [List.filter_cons_of_pos here]
        exact (List.prefix_cons_inj head).mpr (induction first.2)
      · have nothing : tail.filter counts = [] := by
          apply List.filter_eq_nil_iff.mpr
          intro later member counted
          exact here (first.1 later member counted)
        rw [List.filter_cons_of_neg here, nothing]
        exact List.nil_prefix

theorem getElem?_of_isPrefix {front list : List α} (isPrefix : front <+: list) {i : Nat} {value : α}
    (there : front[i]? = some value) : list[i]? = some value := by
  obtain ⟨inside, same⟩ := List.getElem?_eq_some_iff.mp there
  rw [List.prefix_iff_getElem?.mp isPrefix i inside, same]

/-- When none of those that count comes later than there are of them, they come first. -/
theorem pairwise_of_lt_length {counts : α → Bool} {list : List α}
    (early : ∀ (i : Nat) (value : α), list[i]? = some value → counts value = true →
      i < (list.filter counts).length) :
    list.Pairwise fun earlier later => counts later = true → counts earlier = true := by
  induction list using List.reverseRecOn with
  | nil => exact List.Pairwise.nil
  | append_singleton list last induction =>
      apply List.pairwise_append.mpr
      by_cases here : counts last = true
      · have within := early list.length last (by simp) here
        rw [List.filter_append, List.filter_cons_of_pos here, List.filter_nil, List.length_append] at within
        have every := List.length_filter_eq_length_iff.mp
          (Nat.le_antisymm (List.length_filter_le counts list) (Nat.le_of_lt_succ within))
        refine ⟨?_, List.pairwise_singleton _ _, ?_⟩
        · apply List.pairwise_of_forall_mem_list
          intro earlier member _ _ _
          exact every earlier member
        · intro earlier member _ _ _
          exact every earlier member
      · refine ⟨?_, List.pairwise_singleton _ _, ?_⟩
        · apply induction
          intro i value there counted
          have within := early i value (by
            rw [List.getElem?_append_left (List.getElem?_eq_some_iff.mp there).1]
            exact there) counted
          rwa [List.filter_append, List.filter_cons_of_neg here, List.filter_nil,
            List.append_nil] at within
        · intro earlier _ later member counted
          rw [List.mem_singleton.mp member] at counted
          exact absurd counted here

/-- No variable that is sent comes behind one that is not. -/
def SentFirst (binds : Binds) : Prop :=
  binds.considered.Pairwise fun earlier later => later.2.send = true → earlier.2.send = true

section Positions

variable {binds : Binds} {database : Database} {returnnulls : Bool} {before vars : List Var}
variable {definition : List Byte × Defined} {var : Var} {i : Nat}

theorem getOutputBind_of_mem (nodup : (vars.map Var.name).Nodup) (member : var ∈ vars) :
    getOutputBind vars var.name = some var := by
  induction vars with
  | nil => cases member
  | cons first vars induction =>
      rw [List.map_cons, List.nodup_cons] at nodup
      rw [getOutputBind, List.find?_cons]
      cases member with
      | head => simp
      | tail _ later =>
          have differs : first.name ≠ var.name := by
            intro same
            apply nodup.1
            rw [same]
            exact List.mem_map_of_mem later
          simp only [differs, decide_false]
          exact induction nodup.2 later

theorem Defines.nodup (defines : binds.Defines before) : (before.map Var.name).Nodup := by
  have names : before.map Var.name = Named.names binds.definitions := by
    rw [Named.names, ← defines.definitions, List.map_map]
    rfl
  rw [names]
  exact binds.nodup

theorem Defines.exists_var (defines : binds.Defines before)
    (there : binds.definitions[i]? = some definition) :
    ∃ var, before[i]? = some var ∧ var.definition = definition := by
  rw [← defines.definitions, List.getElem?_map, Option.map_eq_some_iff] at there
  exact there

/-- The variables as the values are in. -/
def stored (binds : Binds) (returnnulls : Bool) (database : Database) (before : List Var) : List Var :=
  storeAll returnnulls ((binds.held database).map Held.sent) before

theorem reads_stored (binds : Binds) (returnnulls : Bool) (database : Database) (before : List Var) :
    Reads (parseOutputBinds returnnulls before) (binds.stored returnnulls database before)
      (returnOutputBindValues (binds.held database)) := by
  apply reads_parseOutputBinds
  intro held member
  obtain ⟨definition, _, same⟩ := List.mem_map.mp member
  rw [← same]
  exact framed (database.fits definition.1 definition.2.type)

/-- Under a name the client finds the variable that has the position of the name. -/
theorem Defines.getOutputBind_stored (defines : binds.Defines before) {after : Var}
    (stores : (binds.stored returnnulls database before)[i]? = some after)
    (same : after.name = var.name) :
    getOutputBind (binds.stored returnnulls database before) var.name = some after := by
  rw [← same]
  apply getOutputBind_of_mem
  · rw [stored, names_storeAll]
    exact defines.nodup
  · exact List.mem_of_getElem? stores

/-- The value for a position is stored in the variable there. -/
theorem Defines.stored_sent (defines : binds.Defines before) (found : before[i]? = some var)
    (sent : binds.sendOutputBinds[i]? = some definition) :
    getOutputBind (binds.stored returnnulls database before) var.name =
      some (var.store returnnulls (database.answer definition.1 definition.2.type).sent) := by
  have received : ((binds.held database).map Held.sent)[i]? =
      some (database.answer definition.1 definition.2.type).sent := by
    rw [List.getElem?_map, held, List.getElem?_map, sent]
    rfl
  exact defines.getOutputBind_stored (storeAll_stores returnnulls received found)
    (Var.store_name _ _ _)

/-- Where there is no value for a position, the variable there stays as it is. -/
theorem Defines.stored_behind (defines : binds.Defines before) (found : before[i]? = some var)
    (behind : binds.sendOutputBinds.length ≤ i) :
    getOutputBind (binds.stored returnnulls database before) var.name = some var := by
  apply defines.getOutputBind_stored (i := i) ?_ rfl
  have behind : ((binds.held database).map Held.sent).length ≤ i := by
    rwa [List.length_map, held, List.length_map]
  rw [stored, storeAll_keeps returnnulls behind, found]

/-! ### Positions -/

/-- What is sent begins what is looked at. -/
theorem SentFirst.isPrefix (sentFirst : binds.SentFirst) :
    binds.sendOutputBinds <+: binds.definitions := by
  apply List.IsPrefix.trans (filter_isPrefix sentFirst)
  exact List.take_prefix _ _

theorem SentFirst.behind (sentFirst : binds.SentFirst)
    (there : binds.definitions[i]? = some definition) (excluded : definition.2.send = false) :
    binds.sendOutputBinds.length ≤ i := by
  apply Nat.le_of_not_lt
  intro before
  have same := List.prefix_iff_getElem?.mp sentFirst.isPrefix i before
  rw [there, Option.some.injEq] at same
  have sent : definition ∈ binds.sendOutputBinds := by
    rw [same]
    exact List.getElem_mem before
  have kept := (List.mem_filter.mp sent).2
  rw [excluded] at kept
  cases kept

/-- What is sent first reaches its variables, if it comes across whole. -/
theorem SentFirst.delivers (sentFirst : binds.SentFirst)
    (carried : ∀ definition ∈ binds.sendOutputBinds,
      (database.answer definition.1 definition.2.type).Carried definition.2.type) :
    binds.Delivers returnnulls database := by
  intro before defines
  refine ⟨_, reads_stored binds returnnulls database before, ?_, ?_⟩
  · intro definition sent
    obtain ⟨i, position⟩ := List.mem_iff_getElem?.mp sent
    obtain ⟨var, found, same⟩ := defines.exists_var (getElem?_of_isPrefix sentFirst.isPrefix position)
    subst same
    refine ⟨_, defines.stored_sent found position, ?_⟩
    exact shows_of_carried (database.fits var.name var.defined.type) (carried var.definition sent)
  · intro definition member excluded
    obtain ⟨i, position⟩ := List.mem_iff_getElem?.mp member
    obtain ⟨var, found, same⟩ := defines.exists_var position
    subst same
    rw [Var.definition, defines.stored_behind found (sentFirst.behind position excluded),
      getOutputBind_of_mem defines.nodup (List.mem_of_getElem? found)]

/-! ### Variables that hold something else -/

/-- A variable that holds something else than the server does. -/
def otherVar (database : Database) (definition : List Byte × Defined) : Var :=
  let content := (database.answer definition.1 definition.2.type).otherContent definition.2.type
  ⟨definition.1, definition.2, content, match content with
    | .string (some value) | .lob (some value) => UInt32.ofNat value.length
    | _ => 0⟩

theorem defines_otherVars (binds : Binds) (database : Database) :
    binds.Defines (binds.definitions.map (otherVar database)) where
  definitions := by
    rw [List.map_map]
    exact List.map_id _
  fits := by
    intro var member
    obtain ⟨definition, _, same⟩ := List.mem_map.mp member
    rw [← same]
    exact otherContent_fits (database.fits definition.1 definition.2.type)

/-- Under the name of a bind there is what the server holds, whatever was there before. -/
theorem Delivers.shows (delivers : binds.Delivers returnnulls database)
    (sent : definition ∈ binds.sendOutputBinds)
    (found : getOutputBind (binds.stored returnnulls database
      (binds.definitions.map (otherVar database))) definition.1 = some var) :
    var.Shows returnnulls (database.answer definition.1 definition.2.type) := by
  obtain ⟨after, reads, shows_, _⟩ := delivers _ (defines_otherVars binds database)
  rw [reads.unique (reads_stored binds returnnulls database _)] at shows_
  obtain ⟨shown, same, shows_⟩ := shows_ definition sent
  rw [found, Option.some.injEq] at same
  rwa [same]

theorem Delivers.sentFirst (delivers : binds.Delivers returnnulls database) : binds.SentFirst := by
  apply pairwise_of_lt_length
  intro i definition there counted
  apply Nat.lt_of_not_le
  intro behind
  have sent : definition ∈ binds.sendOutputBinds :=
    List.mem_filter.mpr ⟨List.mem_of_getElem? there, counted⟩
  have found : (binds.definitions.map (otherVar database))[i]? = some (otherVar database definition) := by
    rw [List.getElem?_map, getElem?_of_isPrefix (List.take_prefix _ _) there]
    rfl
  have left : getOutputBind (binds.stored returnnulls database
      (binds.definitions.map (otherVar database))) (otherVar database definition).name =
        some (otherVar database definition) :=
    (defines_otherVars binds database).stored_behind found behind
  exact not_shows_otherContent rfl (delivers.shows sent left)

theorem Delivers.carried (delivers : binds.Delivers returnnulls database)
    (sent : definition ∈ binds.sendOutputBinds) :
    (database.answer definition.1 definition.2.type).Carried definition.2.type := by
  obtain ⟨i, position⟩ := List.mem_iff_getElem?.mp sent
  have found : (binds.definitions.map (otherVar database))[i]? = some (otherVar database definition) := by
    rw [List.getElem?_map, getElem?_of_isPrefix delivers.sentFirst.isPrefix position]
    rfl
  have stores : getOutputBind (binds.stored returnnulls database
      (binds.definitions.map (otherVar database))) (otherVar database definition).name =
        some ((otherVar database definition).store returnnulls
          (database.answer definition.1 definition.2.type).sent) :=
    (defines_otherVars binds database).stored_sent found position
  have shown := delivers.shows sent stores
  exact @carried_of_shows _ (otherVar database definition) _ rfl
    (database.fits definition.1 definition.2.type) shown

end Positions

/-- The values reach the variables exactly if the variables that are not sent are the last ones and every
value comes across whole. -/
theorem delivers_iff (binds : Binds) (returnnulls : Bool) (database : Database) :
    binds.Delivers returnnulls database ↔ binds.SentFirst ∧ ∀ definition ∈ binds.sendOutputBinds,
      (database.answer definition.1 definition.2.type).Carried definition.2.type := by
  constructor
  · intro delivers
    exact ⟨delivers.sentFirst, fun _ sent => delivers.carried sent⟩
  · intro well
    exact well.1.delivers well.2

/-- The first of two strings is not sent. -/
def secondOnly : Binds :=
  validateBinds (fun _ => false) (fun name => name == [121])
    ((cleared.defineOutputBind [120] (.string 20)).defineOutputBind [121] (.string 20))

def oneLetter : Database where
  answer _ type :=
    match type with
    | .string valuesize => if 1 ≤ valuesize.toNat then .string [98] else .null
    | _ => .null
  fits _ type := by
    cases type with
    | string valuesize =>
        dsimp only
        split
        case isTrue enough => exact decide_eq_true enough
        case isFalse => rfl
    | _ => rfl

/-- The value of the second goes into the first. -/
theorem not_delivers_secondOnly : ¬ secondOnly.Delivers false oneLetter := by
  intro delivers
  have defines : secondOnly.Defines
      [⟨[120], ⟨.string 20, false⟩, .string none, 0⟩, ⟨[121], ⟨.string 20, true⟩, .string none, 0⟩] :=
    ⟨rfl, by decide⟩
  obtain ⟨after, reads, _, keeps⟩ := delivers _ defines
  rw [reads.unique (reads_stored secondOnly false oneLetter _)] at keeps
  have first := keeps ([120], ⟨.string 20, false⟩) (by decide) rfl
  exact absurd first (by decide)

end Binds

end SqlRelay.OutputBinds
