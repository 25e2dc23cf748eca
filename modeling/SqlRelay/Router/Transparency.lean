import SqlRelay.Foundation.Kept
import SqlRelay.Router.Delivery

/-!
# Transparency

A query that goes through the router has the binds that the client gave it, and the client gets the output
binds and rows of the backend.  That is so for values that the router has a way to pass on: it takes no
length for strings, defines a date as a double, and does not ask whether a number or a lob is null.
-/

namespace SqlRelay.Router

open SqlRelay.Foundation SqlRelay.Foundation.CString

/-! ## The inputs -/

/-- What an input bind says, apart from the type of a null. -/
def InputValue.said : InputValue → InputValue
  | .string none | .date none | .blob none | .clob none | .array none => .string none
  | value => value

/-- An input bind as the backend gets it. -/
def InputValue.forwarded : InputValue → InputValue
  | .string value => .string (value.map contents)
  | .date none => .string none
  | .array value => .string (value.map contents)
  | value => value

/-- A value that the router has a way to pass on. -/
def InputValue.Passes : InputValue → Prop
  | .string (some text) => 0 ∉ text
  | .array (some _) => False
  | _ => True

theorem contents_eq_iff {text : List Byte} : contents text = text ↔ 0 ∉ text := by
  constructor
  · intro same
    rw [← same]
    exact zero_notMem_contents text
  · exact contents_eq_self

theorem InputValue.said_forwarded (value : InputValue) :
    value.forwarded.said = value.said ↔ value.Passes := by
  cases value with
  | string value =>
    cases value with
    | none => simp [forwarded, said, Passes]
    | some text => simp [forwarded, said, Passes, contents_eq_iff]
  | date value =>
    cases value with
    | none => simp [forwarded, said, Passes]
    | some date => simp [forwarded, Passes]
  | array value =>
    cases value with
    | none => simp [forwarded, said, Passes]
    | some text => simp [forwarded, said, Passes]
  | integer value | double value precision scale | blob value | clob value =>
    simp [forwarded, Passes]

/-! ## What is cut -/

/-- The part of a text that is read when its length is cut to what a length can hold. -/
theorem take_length_mod_eq_iff (text : List Byte) :
    text.take (text.length % lengthWord) = text ↔ text.length < lengthWord := by
  constructor
  · intro whole
    have length := congrArg List.length whole
    rw [List.length_take] at length
    have bounded := Nat.mod_lt text.length (show 0 < lengthWord by decide)
    omega
  · intro short
    rw [Nat.mod_eq_of_lt short, List.take_length]

/-- A string comes back when it has no NUL, and fits into the buffer and into a length. -/
theorem contents_take_eq_iff (text : List Byte) (size : Nat) :
    contents (text.take (min (text.length % lengthWord) size)) = text ↔
      0 ∉ text ∧ text.length ≤ size ∧ text.length < lengthWord := by
  constructor
  · intro same
    have clean : 0 ∉ text := by
      rw [← same]
      exact zero_notMem_contents _
    have length := congrArg List.length same
    have cut : (contents (text.take (min (text.length % lengthWord) size))).length ≤ _ :=
      (List.takeWhile_prefix _).length_le
    have less := List.length_take_le (min (text.length % lengthWord) size) text
    have bounded := Nat.mod_lt text.length (show 0 < lengthWord by decide)
    exact ⟨clean, by omega, by omega⟩
  · intro passes
    rw [Nat.mod_eq_of_lt passes.2.2, List.take_of_length_le (Nat.le_min.mpr ⟨Nat.le_refl _,
      passes.2.1⟩)]
    exact contents_eq_self passes.1

/-! ## The binds of the backend -/

/-- Names that a backend tells apart: each has a character, and there is none twice. -/
structure Proper (names : List (List Byte)) : Prop where
  nodup : names.Nodup
  nonempty : [] ∉ names

/-- Binds with a name. -/
def nonempty {α : Type} (binds : List (List Byte × α)) : List (List Byte × α) :=
  binds.filter fun bind => bind.1 ≠ []

theorem nonempty_eq_self {α : Type} {binds : List (List Byte × α)}
    (proper : Proper (Named.names binds)) : nonempty binds = binds := by
  apply List.filter_eq_self.mpr
  intro bind member
  simp only [decide_eq_true_eq]
  intro empty
  exact proper.nonempty (List.mem_map.mpr ⟨bind, member, empty⟩)

/-- The backend has all binds if and only if it can tell them apart. -/
theorem names_setAll_eq_iff {α : Type} (binds : List (List Byte × α)) :
    Named.names (Named.setAll (nonempty binds)) = Named.names binds ↔
      Proper (Named.names binds) := by
  constructor
  · intro same
    constructor
    · rw [← same]
      exact Named.nodup_names_setAll _
    · intro empty
      rw [← same] at empty
      have there := Named.names_setAll_subset _ empty
      simp [Named.names, nonempty] at there
  · intro proper
    rw [nonempty_eq_self proper, Named.setAll_eq_self proper.nodup]

theorem setAll_of_proper {α : Type} {binds : List (List Byte × α)}
    (proper : Proper (Named.names binds)) : Named.setAll (nonempty binds) = binds := by
  rw [nonempty_eq_self proper, Named.setAll_eq_self proper.nodup]

namespace Binding

theorem inputBind_eq (binding : Binding) (input : Input) :
    binding.inputBind input =
      { binding with
        cursor := binding.cursor.inputBind input.name.tail input.value.forwarded } := by
  cases input with
  | mk name value =>
    cases value with
    | date value =>
      cases value with
      | none => rfl
      | some date => rfl
    | string value | integer value | double value precision scale | blob value | clob value
    | array value => rfl

/-- The type that an output bind is defined as at the backend. -/
def definedAs : OutputType → OutputType
  | .date => .double
  | type => type

/-- An output bind as the router keeps it, unless it is a cursor. -/
def keptAs (output : Output) : Option (List Byte × OutputType) :=
  match output.type with
  | .string size => some (output.name.tail, .string (size + 1))
  | .cursor => none
  | type => some (output.name.tail, type)

theorem outputBind_eq (binding : Binding) (output : Output) :
    binding.outputBind output =
      ⟨binding.cursor.defineOutputBind output.name.tail (definedAs output.type),
        binding.obv ++ (keptAs output).toList⟩ := by
  cases output with
  | mk name type =>
    cases type with
    | cursor => simp [outputBind, outputBindCursor, keptAs, definedAs]
    | string size | integer | double | date | blob | clob => rfl

section Handling

variable (inputs : List Input) (outputs : List Output)

/-- The inputs as they go to the backend. -/
def forwardedInputs : List (List Byte × InputValue) :=
  inputs.map fun input => (input.name.tail, input.value.forwarded)

def definedOutputs : List (List Byte × OutputType) :=
  outputs.map fun output => (output.name.tail, definedAs output.type)

theorem inputs_foldl (binding : Binding) :
    inputs.foldl inputBind binding =
      { binding with
        cursor := { binding.cursor with
          inbindvars := (nonempty (forwardedInputs inputs)).foldl
            (fun done entry => Named.set entry.1 entry.2 done) binding.cursor.inbindvars } } := by
  induction inputs generalizing binding with
  | nil => rfl
  | cons input inputs induction =>
    rw [List.foldl_cons, inputBind_eq, induction]
    cases decEq input.name.tail [] with
    | isTrue empty => simp [BackendCursor.inputBind, forwardedInputs, nonempty, empty]
    | isFalse named => simp [BackendCursor.inputBind, forwardedInputs, nonempty, named]

theorem outputs_foldl (binding : Binding) :
    outputs.foldl outputBind binding =
      ⟨{ binding.cursor with
          outbindvars := (nonempty (definedOutputs outputs)).foldl
            (fun done entry => Named.set entry.1 entry.2 done) binding.cursor.outbindvars },
        binding.obv ++ outputs.filterMap keptAs⟩ := by
  induction outputs generalizing binding with
  | nil => simp [definedOutputs, nonempty]
  | cons output outputs induction =>
    have kept : (keptAs output).toList ++ outputs.filterMap keptAs =
        (output :: outputs).filterMap keptAs := by
      cases found : keptAs output with
      | none => simp [found]
      | some bind => simp [found]
    rw [List.foldl_cons, outputBind_eq, induction]
    cases decEq output.name.tail [] with
    | isTrue empty =>
      simp [BackendCursor.defineOutputBind, definedOutputs, nonempty, empty, ← kept]
    | isFalse named =>
      simp [BackendCursor.defineOutputBind, definedOutputs, nonempty, named, ← kept]

theorem handleBinds_eq :
    handleBinds inputs outputs =
      ⟨⟨Named.setAll (nonempty (forwardedInputs inputs)),
          Named.setAll (nonempty (definedOutputs outputs))⟩,
        outputs.filterMap keptAs⟩ := by
  rw [handleBinds, inputs_foldl, outputs_foldl]
  rfl

end Handling

/-! ## The outputs -/

section Lobs

variable (backend : Backend) {binding : Binding} {name : List Byte}

/-- The segments make up what is left of a lob. -/
theorem lobSegments_eq {text : List Byte} {charstoread : Nat}
    (segments : ∀ offset, getLobOutputBindSegment backend binding name offset charstoread =
      if text.length < offset then none else some ((text.drop offset).take charstoread))
    (reads : 0 < charstoread) (fuel offset : Nat) (inside : offset ≤ text.length)
    (enough : text.length - offset < fuel) :
    lobSegments backend binding charstoread name fuel offset = text.drop offset := by
  induction fuel generalizing offset with
  | zero => omega
  | succ fuel induction =>
    have length : ((text.drop offset).take charstoread).length =
        min charstoread (text.length - offset) := by
      rw [List.length_take, List.length_drop]
    have starts := List.prefix_iff_eq_append.mp (List.take_prefix charstoread (text.drop offset))
    simp only [lobSegments, segments, Nat.not_lt.mpr inside, if_false]
    cases first : (text.drop offset).take charstoread with
    | nil =>
      rw [first, List.length_nil] at length
      exact (List.drop_of_length_le (by omega)).symm
    | cons byte rest =>
      rw [first] at length starts
      have moves : (byte :: rest).length = rest.length + 1 := rfl
      have next := induction (offset + (byte :: rest).length) (by omega) (by omega)
      rw [List.drop_drop] at starts
      exact (congrArg _ next).trans starts

/-- A lob is read up to the length that the backend says it has. -/
theorem sendLobOutputBind_eq {type : OutputType} {text : List Byte}
    (lob : type = .blob ∨ type = .clob)
    (found : binding.cursor.outbindvars.lookup name = some type)
    (answered : backend.answer name type = .lob text) :
    sendLobOutputBind backend binding name = text.take (text.length % lengthWord) := by
  have length : binding.cursor.getOutputBindLength backend name = text.length % lengthWord := by
    simp only [BackendCursor.getOutputBindLength, found, answered]
  have value : (binding.cursor.getOutputBindClob backend name).or
      (binding.cursor.getOutputBindBlob backend name) = some text := by
    cases lob with
    | inl blob =>
      rw [blob] at found answered
      simp [BackendCursor.getOutputBindClob, BackendCursor.getOutputBindBlob, found, answered]
    | inr clob =>
      rw [clob] at found answered
      simp [BackendCursor.getOutputBindClob, found, answered]
  have short : (text.take (text.length % lengthWord)).length = text.length % lengthWord := by
    rw [List.length_take]
    exact Nat.min_eq_left (Nat.mod_le _ _)
  have segments : ∀ offset, getLobOutputBindSegment backend binding name offset 8192 =
      if (text.take (text.length % lengthWord)).length < offset then none
      else some (((text.take (text.length % lengthWord)).drop offset).take 8192) := by
    intro offset
    rw [getLobOutputBindSegment, value, length, short, List.drop_take, List.take_take]
    rfl
  rw [sendLobOutputBind, getLobOutputBindLength, length]
  cases decEq (text.length % lengthWord) 0 with
  | isTrue empty => simp [empty]
  | isFalse some =>
    rw [if_neg some]
    exact lobSegments_eq backend segments (by decide) _ 0 (Nat.zero_le _) (by rw [short]; omega)

end Lobs

/-- A value that the router has a way to bring back: its output bind is the one of this index. -/
def Returnable (backend : Backend) (outputs : List Output) (index : Nat) (output : Output) :
    Prop :=
  let answer := backend.answer output.name.tail output.type
  match output.type with
  | .string size =>
      ∀ text, answer = .string text → 0 ∉ text ∧ text.length ≤ size ∧ text.length < lengthWord
  | .integer | .double => answer ≠ .null
  | .date => False
  | .blob | .clob =>
      (∀ other ∈ outputs.take index, other.type ≠ .cursor) ∧
      ∃ text, answer = .lob text ∧ text.length < lengthWord
  | .cursor => True

section Returning

variable (backend : Backend) (inputs : List Input) {outputs : List Output} (before : Date)
  (proper : Proper (outputs.map fun output => output.name.tail))

theorem names_definedOutputs (outputs : List Output) :
    Named.names (definedOutputs outputs) = outputs.map fun output => output.name.tail := by
  simp [Named.names, definedOutputs]

include proper in
theorem outbindvars_of_proper :
    (handleBinds inputs outputs).cursor.outbindvars = definedOutputs outputs := by
  rw [handleBinds_eq]
  apply setAll_of_proper
  rw [names_definedOutputs]
  exact proper

include proper in
theorem lookup_outbindvars {output : Output} (member : output ∈ outputs) :
    (handleBinds inputs outputs).cursor.outbindvars.lookup output.name.tail =
      some (definedAs output.type) := by
  rw [outbindvars_of_proper inputs proper]
  apply Named.lookup_of_mem
  · rw [names_definedOutputs]
    exact proper.nodup
  · exact List.mem_map.mpr ⟨output, member, rfl⟩

theorem keptAs_eq_none (output : Output) : keptAs output = none ↔ output.type = .cursor := by
  cases output with
  | mk name type =>
    cases type with
    | string size | integer | double | date | blob | clob | cursor => simp [keptAs]

theorem name_of_keptAs {output : Output} {bind : List Byte × OutputType}
    (kept : keptAs output = some bind) : bind.1 = output.name.tail := by
  cases output with
  | mk name type =>
    cases type with
    | cursor => simp [keptAs] at kept
    | string size | integer | double | date | blob | clob =>
      simp only [keptAs, Option.some.injEq] at kept
      rw [← kept]

include proper in
/-- The bind of an index among those that are not cursors is the output bind of that index if and only if
there is no cursor before it. -/
theorem obv_getElem? {index : Nat} {output : Output} (found : outputs[index]? = some output)
    (noCursor : output.type ≠ .cursor) :
    ((handleBinds inputs outputs).obv[index]?.map fun bind => bind.1) = some output.name.tail ↔
      ∀ other ∈ outputs.take index, other.type ≠ .cursor := by
  have obv : (handleBinds inputs outputs).obv = outputs.filterMap keptAs := by rw [handleBinds_eq]
  rw [obv]
  constructor
  · intro same
    cases there : (outputs.filterMap keptAs)[index]? with
    | none => simp [there] at same
    | some bind =>
      rw [there, Option.map_some, Option.some.injEq] at same
      obtain ⟨place, item, at_place, kept, _, stays⟩ :=
        Kept.exists_of_getElem?_filterMap there
      have name : (outputs.map fun output => output.name.tail)[index]? =
          (outputs.map fun output => output.name.tail)[place]? := by
        rw [List.getElem?_map, List.getElem?_map, found, at_place, Option.map_some,
          Option.map_some, ← name_of_keptAs kept, same]
      have inside : index < (outputs.map fun output => output.name.tail).length := by
        rw [List.length_map]
        exact (List.getElem?_eq_some_iff.mp found).1
      have here := (List.getElem?_inj inside proper.nodup).mp name
      intro other member cursor
      obtain ⟨position, less, position_eq⟩ := List.mem_take_iff_getElem.mp member
      apply stays here.symm position (by omega) other
      · rw [← position_eq]
        exact List.getElem?_eq_getElem _
      · exact (keptAs_eq_none other).mpr cursor
  · intro none
    cases kept : keptAs output with
    | none => exact absurd ((keptAs_eq_none output).mp kept) noCursor
    | some bind =>
      have there := Kept.getElem?_filterMap_of_kept found kept (by
        intro other less item at_other cursor
        apply none item _ ((keptAs_eq_none item).mp cursor)
        apply List.mem_of_getElem? (i := other)
        rw [List.getElem?_take_of_lt less, at_other])
      rw [there, Option.map_some, name_of_keptAs kept]

include proper in
theorem returnOutputBind_lob_iff {index : Nat} {output : Output}
    (found : outputs[index]? = some output)
    (lob : output.type = .blob ∨ output.type = .clob) :
    returnLob backend (handleBinds inputs outputs) index =
        ⟨some output.name.tail, backend.answer output.name.tail output.type⟩ ↔
      (∀ other ∈ outputs.take index, other.type ≠ .cursor) ∧
      ∃ text, backend.answer output.name.tail output.type = .lob text ∧
        text.length < lengthWord := by
  have noCursor : output.type ≠ .cursor := by
    intro cursor
    rw [cursor] at lob
    cases lob with
    | inl blob => cases blob
    | inr clob => cases clob
  have same : definedAs output.type = output.type := by
    cases lob with
    | inl blob => rw [blob, definedAs]; intro date; cases date
    | inr clob => rw [clob, definedAs]; intro date; cases date
  have there := lookup_outbindvars inputs proper (List.mem_of_getElem? found)
  rw [same] at there
  rw [← obv_getElem? inputs proper found noCursor, returnLob]
  cases bound : (handleBinds inputs outputs).obv[index]? with
  | none => simp
  | some bind =>
    simp only [Returned.mk.injEq, Option.map_some, Option.some.injEq]
    apply and_congr_right
    intro name
    rw [name]
    constructor
    · intro sent
      have text : ∃ text, backend.answer output.name.tail output.type = .lob text :=
        ⟨_, sent.symm⟩
      cases text with
      | intro text answered =>
        rw [sendLobOutputBind_eq backend lob there answered, answered, Value.lob.injEq,
          take_length_mod_eq_iff] at sent
        exact ⟨text, answered, sent⟩
    · intro text
      cases text with
      | intro text answered =>
        rw [sendLobOutputBind_eq backend lob there answered.1, answered.1,
          (take_length_mod_eq_iff text).mpr answered.2]

include proper in
/-- A value comes back as it is if and only if the router has a way to bring it back. -/
theorem returnOutputBind_iff {index : Nat} {output : Output}
    (found : outputs[index]? = some output) (noDate : output.type ≠ .date) :
    returnOutputBind backend (handleBinds inputs outputs) before (output, index) =
        ⟨some output.name.tail, backend.answer output.name.tail output.type⟩ ↔
      Returnable backend outputs index output := by
  have there := lookup_outbindvars inputs proper (List.mem_of_getElem? found)
  have lob := returnOutputBind_lob_iff backend inputs proper found
  have fits := backend.fits output.name.tail output.type
  cases output with
  | mk name type =>
    simp only [returnOutputBind, Returnable] at there lob fits ⊢
    cases type with
    | string size =>
      cases answered : backend.answer name.tail (.string size) with
      | string text =>
        simp [populate, BackendCursor.getOutputBindString, BackendCursor.getOutputBindLength,
          there, definedAs, answered, contents_take_eq_iff]
      | null =>
        simp [populate, BackendCursor.getOutputBindString, there, definedAs, answered]
      | integer | double | date | lob | cursor =>
        rw [answered] at fits
        cases fits
    | integer =>
      cases answered : backend.answer name.tail .integer with
      | integer value =>
        simp [populate, BackendCursor.getOutputBindInteger, there, definedAs, answered]
      | null => simp [populate]
      | string | double | date | lob | cursor =>
        rw [answered] at fits
        cases fits
    | double =>
      cases answered : backend.answer name.tail .double with
      | double value =>
        simp [populate, BackendCursor.getOutputBindDouble, there, definedAs, answered]
      | null => simp [populate]
      | string | integer | date | lob | cursor =>
        rw [answered] at fits
        cases fits
    | date => exact absurd rfl noDate
    | blob => exact lob (Or.inl rfl)
    | clob => exact lob (Or.inr rfl)
    | cursor =>
      cases answered : backend.answer name.tail .cursor with
      | cursor => simp [populate]
      | null | string | integer | double | date | lob =>
        rw [answered] at fits
        cases fits

end Returning

end Binding

/-! ## Rows -/

theorem getField_eq_iff (returnsNulls : Bool) (field : Option (List Byte)) :
    getField returnsNulls field = field ↔
      (field = none → returnsNulls) ∧ ∀ text, field = some text → text.length < lengthWord := by
  cases field with
  | none => simp [getField]
  | some text =>
    simp only [getField, Option.some.injEq, take_length_mod_eq_iff, reduceCtorEq, false_implies,
      true_and, forall_eq']

/-- Rows that can be passed on by a cursor that tells nulls from empty strings or does not. -/
def ResultSet.Passes (resultSet : ResultSet) (returnsNulls : Bool) : Prop :=
  ∀ row ∈ resultSet.rows, ∀ field ∈ row,
    (field = none → returnsNulls) ∧ ∀ text, field = some text → text.length < lengthWord

theorem ResultSet.delivered_iff (resultSet : ResultSet) (fetchatonce : Nat)
    (returnsNulls : Bool) :
    resultSet.delivered fetchatonce returnsNulls = resultSet.rows ↔
      resultSet.Passes returnsNulls := by
  rw [delivered_eq, Kept.map_eq_self_iff]
  constructor
  · intro same row member field there
    have rowSame := (Kept.map_eq_self_iff.mp (same row member)) field there
    exact (getField_eq_iff returnsNulls field).mp rowSame
  · intro passes row member
    apply Kept.map_eq_self_iff.mpr
    intro field there
    exact (getField_eq_iff returnsNulls field).mpr (passes row member field there)

/-! ## Transparency -/

section Queries

variable (inputs : List Input) (outputs : List Output) (backend : Backend) (before : Date)
  (fetchatonce : Nat)

/-- The backend has the binds of the client, and the client gets the values and rows of the backend, those
of the cursors among the output binds too. -/
structure Transparent : Prop where
  inputBinds : (Binding.handleBinds inputs outputs).cursor.inbindvars.map
      (fun bind => (bind.1, bind.2.said)) =
    inputs.map fun input => (input.name.tail, input.value.said)
  outputBinds : (Binding.handleBinds inputs outputs).cursor.outbindvars =
    outputs.map fun output => (output.name.tail, output.type)
  values : (Binding.handleBinds inputs outputs).returnOutputBindValues backend before outputs =
    outputs.map fun output =>
      ⟨some output.name.tail, backend.answer output.name.tail output.type⟩
  rows : backend.resultSet.delivered fetchatonce true = backend.resultSet.rows
  cursorRows : ∀ output ∈ outputs, output.type = .cursor →
    (backend.cursorResultSet output.name.tail).delivered fetchatonce false =
      (backend.cursorResultSet output.name.tail).rows

/-- What the router can pass on and bring back. -/
structure Passable : Prop where
  inputNames : Proper (inputs.map fun input => input.name.tail)
  inputValues : ∀ input ∈ inputs, input.value.Passes
  outputNames : Proper (outputs.map fun output => output.name.tail)
  outputValues : ∀ index output, outputs[index]? = some output →
    Binding.Returnable backend outputs index output
  rows : backend.resultSet.Passes true
  cursorRows : ∀ output ∈ outputs, output.type = .cursor →
    (backend.cursorResultSet output.name.tail).Passes false

theorem inputBinds_iff :
    (Binding.handleBinds inputs outputs).cursor.inbindvars.map (fun bind => (bind.1, bind.2.said)) =
        inputs.map (fun input => (input.name.tail, input.value.said)) ↔
      Proper (inputs.map fun input => input.name.tail) ∧
        ∀ input ∈ inputs, input.value.Passes := by
  have names : Named.names (Binding.forwardedInputs inputs) =
      inputs.map fun input => input.name.tail := by
    simp [Named.names, Binding.forwardedInputs]
  rw [Binding.handleBinds_eq, ← names]
  constructor
  · intro same
    have proper : Proper (Named.names (Binding.forwardedInputs inputs)) := by
      apply (names_setAll_eq_iff _).mp
      have first := congrArg (List.map Prod.fst) same
      simpa [Named.names, Binding.forwardedInputs, Function.comp_def] using first
    constructor
    · exact proper
    · intro input member
      rw [setAll_of_proper proper, Binding.forwardedInputs, List.map_map] at same
      have each := List.map_inj_left.mp same input member
      exact input.value.said_forwarded.mp (congrArg Prod.snd each)
  · intro passes
    rw [setAll_of_proper passes.1, Binding.forwardedInputs, List.map_map]
    apply List.map_inj_left.mpr
    intro input member
    exact congrArg (Prod.mk input.name.tail) (input.value.said_forwarded.mpr (passes.2 input member))

theorem definedAs_eq_iff (type : OutputType) : Binding.definedAs type = type ↔ type ≠ .date := by
  cases type with
  | date => simp [Binding.definedAs]
  | string size | integer | double | blob | clob | cursor => simp [Binding.definedAs]

theorem outputBinds_iff :
    (Binding.handleBinds inputs outputs).cursor.outbindvars =
        outputs.map (fun output => (output.name.tail, output.type)) ↔
      Proper (outputs.map fun output => output.name.tail) ∧
        ∀ output ∈ outputs, output.type ≠ .date := by
  have names := Binding.names_definedOutputs outputs
  rw [Binding.handleBinds_eq, ← names]
  constructor
  · intro same
    have proper : Proper (Named.names (Binding.definedOutputs outputs)) := by
      apply (names_setAll_eq_iff _).mp
      have first := congrArg (List.map Prod.fst) same
      simpa [Named.names, Binding.definedOutputs, Function.comp_def] using first
    constructor
    · exact proper
    · intro output member
      simp only [setAll_of_proper proper] at same
      rw [Binding.definedOutputs] at same
      have each := List.map_inj_left.mp same output member
      exact (definedAs_eq_iff output.type).mp (congrArg Prod.snd each)
  · intro passes
    simp only [setAll_of_proper passes.1]
    rw [Binding.definedOutputs]
    apply List.map_inj_left.mpr
    intro output member
    exact congrArg (Prod.mk output.name.tail) ((definedAs_eq_iff _).mpr (passes.2 output member))

theorem values_iff {outputs : List Output}
    (proper : Proper (outputs.map fun output => output.name.tail))
    (noDate : ∀ output ∈ outputs, output.type ≠ .date) :
    (Binding.handleBinds inputs outputs).returnOutputBindValues backend before outputs =
        outputs.map (fun output =>
          ⟨some output.name.tail, backend.answer output.name.tail output.type⟩) ↔
      ∀ index output, outputs[index]? = some output →
        Binding.Returnable backend outputs index output := by
  have each : ∀ index output, outputs[index]? = some output →
      (Binding.returnOutputBind backend (Binding.handleBinds inputs outputs) before
          (output, index) =
        ⟨some output.name.tail, backend.answer output.name.tail output.type⟩ ↔
      Binding.Returnable backend outputs index output) := by
    intro index output found
    exact Binding.returnOutputBind_iff backend inputs before proper found
      (noDate output (List.mem_of_getElem? found))
  constructor
  · intro same index output found
    apply (each index output found).mp
    have here := congrArg (fun list => list[index]?) same
    simpa [Binding.returnOutputBindValues, found] using here
  · intro returnable
    apply List.ext_getElem?
    intro index
    cases found : outputs[index]? with
    | none => simp [Binding.returnOutputBindValues, found]
    | some output =>
      simp [Binding.returnOutputBindValues, found,
        (each index output found).mpr (returnable index output found)]

/-- A query goes through the router as it is if and only if all of it can be passed on. -/
theorem transparent_iff :
    Transparent inputs outputs backend before fetchatonce ↔ Passable inputs outputs backend := by
  constructor
  · intro transparent
    have inputNames := (inputBinds_iff inputs outputs).mp transparent.inputBinds
    have outputNames := (outputBinds_iff inputs outputs).mp transparent.outputBinds
    constructor
    · exact inputNames.1
    · exact inputNames.2
    · exact outputNames.1
    · exact (values_iff inputs backend before outputNames.1 outputNames.2).mp transparent.values
    · exact (backend.resultSet.delivered_iff fetchatonce true).mp transparent.rows
    · intro output member cursor
      exact (ResultSet.delivered_iff _ fetchatonce false).mp
        (transparent.cursorRows output member cursor)
  · intro passable
    have noDate : ∀ output ∈ outputs, output.type ≠ .date := by
      intro output member date
      cases List.mem_iff_getElem?.mp member with
      | intro index found =>
        have returnable := passable.outputValues index output found
        simp [Binding.Returnable, date] at returnable
    constructor
    · exact (inputBinds_iff inputs outputs).mpr ⟨passable.inputNames, passable.inputValues⟩
    · exact (outputBinds_iff inputs outputs).mpr ⟨passable.outputNames, noDate⟩
    · exact (values_iff inputs backend before passable.outputNames noDate).mpr
        passable.outputValues
    · exact (backend.resultSet.delivered_iff fetchatonce true).mpr passable.rows
    · intro output member cursor
      exact (ResultSet.delivered_iff _ fetchatonce false).mpr
        (passable.cursorRows output member cursor)

end Queries

/-- A backend without rows that answers with nulls. -/
def Backend.silent : Backend where
  answer _ type := if type = .cursor then .cursor else .null
  fits _ type := by cases type <;> rfl
  resultSet := ⟨[], false, by decide⟩
  cursorResultSet _ := ⟨[], false, by decide⟩

/-- A string with a NUL is cut there on its way. -/
theorem not_transparent_nul :
    ¬Transparent [⟨[58, 97], .string (some [120, 0, 121])⟩] [] Backend.silent
      ⟨0, 0, 0, 0, 0, 0, 0, [], false⟩ 0 := by
  intro transparent
  have same := transparent.inputBinds
  revert same
  decide

end SqlRelay.Router
