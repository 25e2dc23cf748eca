import SqlRelay.BulkLoad.Layout
import Mathlib.Data.List.Induction

/-!
# Binding a row

A row of bulk data is taken apart as the data format says: what is a string goes to the next bind, and
delimiters and newlines are skipped.
-/

namespace SqlRelay.BulkLoad

open SqlRelay.Foundation

/-! ## The source -/

namespace BindVarType

def string : UInt32 := 1
def integer : UInt32 := 2
def double : UInt32 := 3
def blob : UInt32 := 4
def clob : UInt32 := 5
def date : UInt32 := 7
def delimiter : UInt32 := 8
def newline : UInt32 := 9

end BindVarType

/-- The functions that convert a C string at a pointer. -/
structure Conversions (Double Date : Type) where
  bothTrim : List Byte → List Byte
  convertToInteger : List Byte → Int64
  convertToFloat : List Byte → Double
  isNegative : Double → Bool
  parse : List Byte → Date

/-- The value of a bind. -/
inductive BindValue (Double Date : Type) where
  | stringval (bytes : List Byte)
  | integerval (value : Int64)
  | doubleval (value : Double) (precision scale : UInt32)
  | dateval (value : Date) (tz : Option (List Byte))
  deriving DecidableEq

/-- What the loop sets of a bind; for some types it leaves the value alone. -/
structure BoundVar (Double Date : Type) where
  valuesize : UInt32
  value : Option (BindValue Double Date)
  deriving DecidableEq

section Values

variable {Double Date : Type} (conversions : Conversions Double Date)

/-- A number, from a copy of its bytes. -/
def doubleValue (size : UInt32) (bytes : List Byte) : BindValue Double Date :=
  let temp := CString.contents bytes
  let value := conversions.convertToFloat temp
  let precision := size - if conversions.isNegative value then 1 else 0
  match temp.findIdx? (· == chr '.') with
  | some dot => .doubleval value (precision - 1) (UInt32.ofNat (size.toNat - (dot + 1)))
  | none => .doubleval value precision 0

/-- A date, from a copy of its bytes: what is behind the last of several spaces is the time zone. -/
def dateValue (bytes : List Byte) : BindValue Double Date :=
  let temp := conversions.bothTrim (CString.contents bytes)
  let firstspace := temp.findIdx? (· == chr ' ')
  let lastspace := (temp.reverse.findIdx? (· == chr ' ')).map fun back => temp.length - 1 - back
  match lastspace with
  | some last =>
      if lastspace = firstspace then .dateval (conversions.parse temp) none
      else .dateval (conversions.parse (temp.take last)) (some (temp.drop (last + 1)))
  | none => .dateval (conversions.parse temp) none

/-- What is given to a bind of a type: by a pointer and a size, by a copy of so many bytes, or by a
pointer alone. -/
def valueAt (type size : UInt32) (text : List Byte) : Option (BindValue Double Date) :=
  if type = BindVarType.string ∨ type = BindVarType.blob ∨ type = BindVarType.clob then
    some (.stringval (text.take size.toNat))
  else if type = BindVarType.integer then some (.integerval (conversions.convertToInteger text))
  else if type = BindVarType.double then some (doubleValue conversions size (text.take size.toNat))
  else if type = BindVarType.date then some (dateValue conversions (text.take size.toNat))
  else none

end Values

/-- What `bulkLoadBindRow` works on: the data format in the segment, the binds of the cursor, the row,
and what is in memory behind the row. -/
structure BindRow (Double Date : Type) where
  conversions : Conversions Double Date
  controller : Controller
  segment : Memory
  bulkdataformat : Nat
  inbindcount : UInt16
  inbindtype : Nat → UInt32
  data : List Byte
  behind : List Byte

/-- The variables of the loop, and how many elements it has examined. -/
structure Binding (Double Date : Type) where
  examined : Nat
  formatindex : UInt16
  inbindindex : UInt16
  consumed : Nat
  inbinds : Nat → Option (BoundVar Double Date)
  stopped : Bool

namespace BindRow

variable {Double Date : Type} (row : BindRow Double Date)

def formatcount : UInt16 :=
  UInt16.ofNat (row.controller.host.read (row.segment.load row.bulkdataformat 2))

/-- The elements are read one behind the other, however many there are. -/
def element (i : Nat) : FormatElement :=
  let ptr := row.bulkdataformat + 2 + (4 + 4) * i
  ⟨UInt32.ofNat (row.controller.host.read (row.segment.load ptr 4)),
    UInt32.ofNat (row.controller.host.read (row.segment.load (ptr + 4) 4))⟩

def start : Binding Double Date := ⟨0, 0, 0, 0, fun _ => none, false⟩

/-- A pass of the loop. -/
def pass (binding : Binding Double Date) : Binding Double Date :=
  if binding.stopped then binding
  else
    let element := row.element binding.examined
    let next := { binding with examined := binding.examined + 1 }
    if element.type = BindVarType.delimiter ∨ element.type = BindVarType.newline then
      { next with
        formatindex := binding.formatindex + 1
        consumed := binding.consumed + element.size.toNat }
    else if element.type ≠ BindVarType.string then { next with stopped := true }
    else
      let index := binding.inbindindex.toNat
      let bound := ⟨element.size, valueAt row.conversions (row.inbindtype index) element.size
        ((row.data ++ row.behind).drop binding.consumed)⟩
      let bind := { next with
        consumed := binding.consumed + element.size.toNat
        inbinds := fun other => if other = index then some bound else binding.inbinds other
        inbindindex := binding.inbindindex + 1 }
      if bind.inbindindex = row.inbindcount then { bind with stopped := true }
      else
        { bind with
          formatindex := binding.formatindex + 1
          stopped := decide (binding.formatindex + 1 = row.formatcount) }

def run : Nat → Binding Double Date
  | 0 => start
  | passes + 1 => row.pass (run passes)

end BindRow

/-! ## What is meant -/

namespace FormatElement

/-- A delimiter or a newline. -/
def Skipped (element : FormatElement) : Prop :=
  element.type = BindVarType.delimiter ∨ element.type = BindVarType.newline

def IsString (element : FormatElement) : Prop := element.type = BindVarType.string

instance (element : FormatElement) : Decidable element.Skipped :=
  inferInstanceAs (Decidable (_ ∨ _))

instance (element : FormatElement) : Decidable element.IsString :=
  inferInstanceAs (Decidable (_ = _))

theorem Skipped.not_isString {element : FormatElement} (skipped : element.Skipped) :
    ¬element.IsString := by
  intro isString
  rw [IsString] at isString
  rw [Skipped, isString] at skipped
  exact absurd skipped (by decide)

end FormatElement

def sizes (elements : List FormatElement) : Nat :=
  (elements.map fun element => element.size.toNat).sum

/-- How many strings there are. -/
def strings (elements : List FormatElement) : Nat :=
  elements.countP fun element => decide element.IsString

/-- Where the strings of a row are, the row being behind so many bytes. -/
def fields : Nat → List FormatElement → List (Nat × UInt32)
  | _, [] => []
  | offset, element :: elements =>
      if element.IsString then
        (offset, element.size) :: fields (offset + element.size.toNat) elements
      else fields (offset + element.size.toNat) elements

namespace BindRow

variable {Double Date : Type} (row : BindRow Double Date)

def format : List FormatElement := (List.range row.formatcount.toNat).map row.element

/-- The loop has stayed within the data format, and in the row behind the elements that it has
examined, and each bind has got the bytes of its string and nothing else. -/
structure Kept (binding : Binding Double Date) : Prop where
  examined : binding.examined ≤ row.formatcount.toNat
  consumed : binding.consumed = sizes (row.format.take binding.examined)
  inside : binding.consumed ≤ row.data.length
  bound : ∀ (index offset : Nat) (size : UInt32), index < row.inbindcount.toNat →
    (fields 0 row.format)[index]? = some (offset, size) →
    ∃ value, binding.inbinds index = some ⟨size, some value⟩ ∧
      valueAt row.conversions (row.inbindtype index) size
        ((row.data.drop offset).take size.toNat) = some value

def StaysInData : Prop := ∃ passes, (row.run passes).stopped = true ∧ row.Kept (row.run passes)

/-- Up to an element that is no delimiter and no newline there are only those and strings, too few for
all binds; and this one cannot be bound, or it is a string for the last bind, or the last element. -/
structure StopsAt (front : List FormatElement) (last : FormatElement)
    (rest : List FormatElement) : Prop where
  split : row.format = front ++ last :: rest
  passed : ∀ element ∈ front, element.Skipped ∨ element.IsString
  left : row.inbindcount.toNat = 0 ∨ strings front < row.inbindcount.toNat
  stops : ¬last.Skipped ∧ ¬last.IsString ∨
    last.IsString ∧ (strings front + 1 = row.inbindcount.toNat ∨ rest = [])

/-- The type of the bind is one that is given a value, and what comes behind the bytes of a number in
memory is not taken for a part of it. -/
structure Converts (index offset : Nat) (size : UInt32) : Prop where
  known : row.inbindtype index ∈ [BindVarType.string, BindVarType.blob, BindVarType.clob,
    BindVarType.integer, BindVarType.double, BindVarType.date]
  number : row.inbindtype index = BindVarType.integer →
    row.conversions.convertToInteger ((row.data ++ row.behind).drop offset) =
      row.conversions.convertToInteger ((row.data.drop offset).take size.toNat)

/-- The data format comes to a stop at a string, or at an empty element behind which there is nothing to
bind; the row is long enough up to there; and what is bound can be told from what is behind it. -/
structure Matches (front : List FormatElement) (last : FormatElement) (rest : List FormatElement) :
    Prop where
  stops : row.StopsAt front last rest
  bindable : last.IsString ∨ last.size = 0 ∧
    (row.inbindcount.toNat ≤ strings front ∨ ∀ element ∈ rest, ¬element.IsString)
  inside : sizes (front ++ [last]) ≤ row.data.length
  converts : ∀ (index offset : Nat) (size : UInt32), index < row.inbindcount.toNat →
    (fields 0 row.format)[index]? = some (offset, size) → row.Converts index offset size

end BindRow

/-! ## The data format -/

section Format

variable {elements others : List FormatElement} {element : FormatElement}

theorem strings_append : strings (elements ++ others) = strings elements + strings others :=
  List.countP_append

theorem fields_append (offset : Nat) : fields offset (elements ++ others) =
    fields offset elements ++ fields (offset + sizes elements) others := by
  induction elements generalizing offset with
  | nil => rfl
  | cons element elements ih =>
      have shifted : offset + sizes (element :: elements) =
          offset + element.size.toNat + sizes elements := by simp [sizes, Nat.add_assoc]
      rw [List.cons_append, fields, fields, ih, shifted]
      split <;> rfl

theorem length_fields (offset : Nat) : (fields offset elements).length = strings elements := by
  induction elements generalizing offset with
  | nil => rfl
  | cons element elements ih =>
      rw [fields, strings, List.countP_cons]
      split
      case isTrue isString => simp [ih, strings, isString]
      case isFalse notString => simp [ih, strings, notString]

theorem fields_inside {start offset : Nat} {size : UInt32}
    (member : (offset, size) ∈ fields start elements) :
    offset + size.toNat ≤ start + sizes elements := by
  induction elements generalizing start with
  | nil => cases member
  | cons element elements ih =>
      have longer : sizes (element :: elements) = element.size.toNat + sizes elements := by
        simp [sizes]
      rw [fields] at member
      split at member
      case isTrue =>
        cases member with
        | head => omega
        | tail _ member =>
            have inside := ih member
            omega
      case isFalse =>
        have inside := ih member
        omega

end Format

/-! ## The loop -/

namespace BindRow

variable {Double Date : Type} {row : BindRow Double Date} {front rest : List FormatElement}
  {element last : FormatElement}

variable (row) in
/-- What a bind is given for a string that is so far into the row. -/
def boundAt (index : Nat) (field : Nat × UInt32) : BoundVar Double Date :=
  ⟨field.2, valueAt row.conversions (row.inbindtype index) field.2
    ((row.data ++ row.behind).drop field.1)⟩

variable (row) in
/-- The variables of the loop behind these elements, if it goes on. -/
def reached (front : List FormatElement) : Binding Double Date where
  examined := front.length
  formatindex := UInt16.ofNat front.length
  inbindindex := UInt16.ofNat (strings front)
  consumed := sizes front
  inbinds index := (fields 0 front)[index]?.map (row.boundAt index)
  stopped := false

theorem length_format : row.format.length = row.formatcount.toNat := by simp [format]

theorem element_eq (split : row.format = front ++ element :: rest) :
    row.element front.length = element := by
  have found : row.format[front.length]? = some element := by simp [split]
  rw [format, List.getElem?_map, Option.map_eq_some_iff] at found
  obtain ⟨i, inside, same⟩ := found
  obtain ⟨_, index⟩ := List.getElem?_eq_some_iff.mp inside
  rw [List.getElem_range] at index
  rw [index, same]

theorem length_front (split : row.format = front ++ element :: rest) :
    front.length + 1 + rest.length = row.formatcount.toNat := by
  have lengths := congrArg List.length split
  rw [length_format, List.length_append, List.length_cons] at lengths
  omega

theorem strings_le : strings front ≤ front.length := List.countP_le_length

theorem toNat_inbindindex (split : row.format = front ++ element :: rest) :
    (UInt16.ofNat (strings front)).toNat = strings front := by
  have length := length_front split
  have few := @strings_le front
  have limit := row.formatcount.toNat_lt
  have small : strings front < UInt16.size := by
    rw [UInt16.size]
    omega
  exact UInt16.toNat_ofNat_of_lt' small

theorem strings_string (isString : element.IsString) :
    strings (front ++ [element]) = strings front + 1 := by
  simp [strings, isString]

theorem strings_other (notString : ¬element.IsString) :
    strings (front ++ [element]) = strings front := by
  simp [strings, notString]

theorem fields_string (isString : element.IsString) :
    fields 0 (front ++ [element]) = fields 0 front ++ [(sizes front, element.size)] := by
  rw [fields_append, Nat.zero_add, fields, if_pos isString, fields]

theorem fields_other (notString : ¬element.IsString) :
    fields 0 (front ++ [element]) = fields 0 front := by
  rw [fields_append, fields, if_neg notString, fields, List.append_nil]

theorem sizes_snoc : sizes (front ++ [element]) = sizes front + element.size.toNat := by
  simp [sizes]

theorem ofNat_succ (count : Nat) : UInt16.ofNat (count + 1) = UInt16.ofNat count + 1 := by
  rw [UInt16.ofNat_add]
  rfl

/-- At a delimiter or a newline the loop goes on, whatever the number of the element. -/
theorem pass_skipped (split : row.format = front ++ element :: rest) (skipped : element.Skipped) :
    row.pass (row.reached front) = row.reached (front ++ [element]) := by
  have notString := skipped.not_isString
  have examined : row.element (row.reached front).examined = element := element_eq split
  have known : element.type = BindVarType.delimiter ∨ element.type = BindVarType.newline := skipped
  rw [pass, if_neg (by simp [reached]), examined]
  dsimp only
  rw [if_pos known]
  simp only [reached, strings_other notString, fields_other notString, sizes_snoc, ofNat_succ,
    List.length_append, List.length_singleton]

theorem pass_unsupported (split : row.format = front ++ element :: rest)
    (notSkipped : ¬element.Skipped) (notString : ¬element.IsString) :
    row.pass (row.reached front) =
      { row.reached front with examined := front.length + 1, stopped := true } := by
  have examined : row.element (row.reached front).examined = element := element_eq split
  have known : ¬(element.type = BindVarType.delimiter ∨ element.type = BindVarType.newline) :=
    notSkipped
  have unsupported : element.type ≠ BindVarType.string := notString
  rw [pass, if_neg (by simp [reached]), examined]
  dsimp only
  rw [if_neg known, if_pos unsupported]
  rfl

/-- A string goes to the bind of its number. -/
theorem inbinds_string (isString : element.IsString) :
    (row.reached (front ++ [element])).inbinds = fun other =>
      if other = strings front then some (row.boundAt (strings front) (sizes front, element.size))
      else (row.reached front).inbinds other := by
  funext other
  rw [reached, fields_string isString, ← @length_fields front 0]
  dsimp only [reached]
  rcases Nat.lt_trichotomy other (fields 0 front).length with before | here | behind
  · rw [if_neg (Nat.ne_of_lt before), List.getElem?_append_left before]
  · rw [if_pos here, here, List.getElem?_concat_length, Option.map_some]
  · have outside : (fields 0 front ++ [(sizes front, element.size)]).length ≤ other := by
      rw [List.length_append, List.length_singleton]
      exact behind
    rw [if_neg (Nat.ne_of_gt behind), List.getElem?_eq_none outside,
      List.getElem?_eq_none (Nat.le_of_lt behind)]

theorem reached_string (isString : element.IsString) : row.reached (front ++ [element]) =
    { examined := front.length + 1
      formatindex := UInt16.ofNat front.length + 1
      inbindindex := UInt16.ofNat (strings front) + 1
      consumed := sizes front + element.size.toNat
      inbinds := fun other =>
        if other = strings front then some (row.boundAt (strings front) (sizes front, element.size))
        else (row.reached front).inbinds other
      stopped := false } := by
  rw [← inbinds_string isString]
  simp only [reached, strings_string isString, sizes_snoc, ofNat_succ, List.length_append,
    List.length_singleton]

theorem inbindindex_eq_iff (split : row.format = front ++ element :: rest) :
    UInt16.ofNat (strings front) + 1 = row.inbindcount ↔
      strings front + 1 = row.inbindcount.toNat := by
  have length := length_front split
  have few := @strings_le front
  have limit := row.formatcount.toNat_lt
  have small : strings front + 1 < UInt16.size := by
    rw [UInt16.size]
    omega
  rw [← ofNat_succ, ← UInt16.toNat_inj, UInt16.toNat_ofNat_of_lt' small]

theorem formatindex_eq_iff (split : row.format = front ++ element :: rest) :
    UInt16.ofNat front.length + 1 = row.formatcount ↔ rest = [] := by
  have length := length_front split
  have limit := row.formatcount.toNat_lt
  have small : front.length + 1 < UInt16.size := by
    rw [UInt16.size]
    omega
  rw [← ofNat_succ, ← UInt16.toNat_inj, UInt16.toNat_ofNat_of_lt' small, ← List.length_eq_zero_iff]
  omega

/-- Behind a string the loop has come to its end if it was for the last bind, or the last element. -/
theorem pass_string (split : row.format = front ++ element :: rest) (isString : element.IsString) :
    row.pass (row.reached front) =
      if strings front + 1 = row.inbindcount.toNat then
        { row.reached (front ++ [element]) with
          formatindex := UInt16.ofNat front.length
          stopped := true }
      else { row.reached (front ++ [element]) with stopped := decide (rest = []) } := by
  have examined : row.element (row.reached front).examined = element := element_eq split
  have notSkipped : ¬(element.type = BindVarType.delimiter ∨ element.type = BindVarType.newline) :=
    fun skipped => FormatElement.Skipped.not_isString skipped isString
  have known : ¬element.type ≠ BindVarType.string := not_not_intro isString
  have index : (row.reached front).inbindindex.toNat = strings front := toNat_inbindindex split
  rw [pass, if_neg (by simp [reached]), examined]
  dsimp only
  rw [if_neg notSkipped, if_neg known, index, reached_string isString]
  dsimp only [reached]
  simp only [inbindindex_eq_iff split, formatindex_eq_iff split]
  rfl

/-! ## A run -/

theorem run_stopped {passes : Nat} (stopped : (row.run passes).stopped = true) (more : Nat) :
    row.run (passes + more) = row.run passes := by
  induction more with
  | zero => rfl
  | succ more ih => rw [← Nat.add_assoc, run, ih, pass, if_pos stopped]

/-- However often the loop is run, it stops in one state. -/
theorem run_unique {passes others : Nat} (stopped : (row.run passes).stopped = true)
    (stoppedToo : (row.run others).stopped = true) : row.run passes = row.run others := by
  cases Nat.le_total passes others with
  | inl before =>
      obtain ⟨more, rfl⟩ := Nat.exists_eq_add_of_le before
      exact (run_stopped stopped more).symm
  | inr before =>
      obtain ⟨more, rfl⟩ := Nat.exists_eq_add_of_le before
      exact run_stopped stoppedToo more

theorem examined_pass (binding : Binding Double Date) : (row.pass binding).examined =
    if binding.stopped then binding.examined else binding.examined + 1 := by
  rw [pass]
  dsimp only
  split
  · rfl
  · split
    · rfl
    · split
      · rfl
      · split <;> rfl

theorem examined_run_le (passes more : Nat) :
    (row.run passes).examined ≤ (row.run (passes + more)).examined := by
  induction more with
  | zero => exact Nat.le_refl _
  | succ more ih =>
      rw [← Nat.add_assoc, run, examined_pass]
      split
      · exact ih
      · exact Nat.le_succ_of_le ih

/-- As long as there are elements, and binds, the loop goes on. -/
theorem run_reached (split : row.format = front ++ element :: rest)
    (passed : ∀ before ∈ front, before.Skipped ∨ before.IsString)
    (left : row.inbindcount.toNat = 0 ∨ strings front < row.inbindcount.toNat) :
    row.run front.length = row.reached front := by
  induction front using List.reverseRecOn generalizing element rest with
  | nil => rfl
  | append_singleton front before ih =>
      have earlier : row.format = front ++ before :: element :: rest := by simpa using split
      have fewer : strings front ≤ strings (front ++ [before]) := by
        rw [strings_append]
        exact Nat.le_add_right _ _
      have ran : row.run front.length = row.reached front := by
        apply ih earlier
        · intro one member
          exact passed one (List.mem_append_left _ member)
        · omega
      rw [List.length_append, List.length_singleton, run, ran]
      cases passed before (by simp) with
      | inl skipped => exact pass_skipped earlier skipped
      | inr isString =>
          have more := @strings_string front before isString
          have notAll : strings front + 1 ≠ row.inbindcount.toNat := by omega
          rw [pass_string earlier isString, if_neg notAll]
          rfl

/-- The loop stops somewhere in the data format, or runs out of it. -/
theorem stops_or_runsOut (split : row.format = front ++ rest)
    (passed : ∀ before ∈ front, before.Skipped ∨ before.IsString)
    (left : row.inbindcount.toNat = 0 ∨ strings front < row.inbindcount.toNat)
    (ran : row.run front.length = row.reached front) :
    (∃ front last rest, row.StopsAt front last rest) ∨
      row.run row.format.length = row.reached row.format := by
  induction rest generalizing front with
  | nil =>
      rw [List.append_nil] at split
      right
      rw [split, ran]
  | cons element rest ih =>
      have next : row.format = (front ++ [element]) ++ rest := by simpa using split
      have step : row.run (front ++ [element]).length = row.pass (row.reached front) := by
        rw [List.length_append, List.length_singleton, run, ran]
      have passedToo : element.Skipped ∨ element.IsString →
          ∀ before ∈ front ++ [element], before.Skipped ∨ before.IsString := by
        intro known before member
        cases List.mem_append.mp member with
        | inl member => exact passed before member
        | inr member => rwa [List.mem_singleton.mp member]
      by_cases skipped : element.Skipped
      · apply ih next (passedToo (Or.inl skipped))
        · rwa [strings_other skipped.not_isString]
        · rw [step, pass_skipped split skipped]
      · by_cases isString : element.IsString
        · by_cases ends : strings front + 1 = row.inbindcount.toNat ∨ rest = []
          · exact Or.inl ⟨front, element, rest, split, passed, left, Or.inr ⟨isString, ends⟩⟩
          · have notAll : strings front + 1 ≠ row.inbindcount.toNat := fun all => ends (Or.inl all)
            have notEnd : rest ≠ [] := fun atEnd => ends (Or.inr atEnd)
            apply ih next (passedToo (Or.inr isString))
            · rw [strings_string isString]
              omega
            · rw [step, pass_string split isString, if_neg notAll, decide_eq_false notEnd]
              rfl
        · exact Or.inl ⟨front, element, rest, split, passed, left, Or.inl ⟨skipped, isString⟩⟩

/-- Where the loop stops, and what it has done by then. -/
theorem run_stops (stops : row.StopsAt front last rest) :
    ∃ formatindex inbindindex, row.run (front.length + 1) =
      { examined := front.length + 1
        formatindex := formatindex
        inbindindex := inbindindex
        consumed := sizes front + if last.IsString then last.size.toNat else 0
        inbinds := (row.reached (front ++ [last])).inbinds
        stopped := true } := by
  have ran := run_reached stops.split stops.passed stops.left
  rw [run, ran]
  cases stops.stops with
  | inl unsupported =>
      refine ⟨UInt16.ofNat front.length, UInt16.ofNat (strings front), ?_⟩
      rw [pass_unsupported stops.split unsupported.1 unsupported.2, if_neg unsupported.2]
      simp only [reached, fields_other unsupported.2, Nat.add_zero]
  | inr found =>
      rw [pass_string stops.split found.1, if_pos found.1]
      by_cases all : strings front + 1 = row.inbindcount.toNat
      · refine ⟨UInt16.ofNat front.length, UInt16.ofNat (strings front) + 1, ?_⟩
        rw [if_pos all, reached_string found.1]
      · have atEnd : rest = [] := found.2.resolve_left all
        refine ⟨UInt16.ofNat front.length + 1, UInt16.ofNat (strings front) + 1, ?_⟩
        rw [if_neg all, reached_string found.1, decide_eq_true atEnd]

/-- Behind the last element the loop goes on. -/
theorem not_kept_of_runsOut (ran : row.run row.format.length = row.reached row.format)
    {passes : Nat} (stopped : (row.run passes).stopped = true) : ¬row.Kept (row.run passes) := by
  intro kept
  have few := kept.examined
  have more : row.formatcount.toNat + 1 ≤ passes := by
    apply Nat.lt_of_not_le
    intro early
    obtain ⟨further, same⟩ := Nat.exists_eq_add_of_le early
    have still := run_stopped stopped further
    rw [← same, ← length_format, ran] at still
    rw [← still] at stopped
    cases stopped
  obtain ⟨further, rfl⟩ := Nat.exists_eq_add_of_le more
  have least := @examined_run_le _ _ row (row.formatcount.toNat + 1) further
  have next : (row.run (row.formatcount.toNat + 1)).examined = row.format.length + 1 := by
    rw [run, ← length_format, ran, examined_pass]
    rfl
  rw [length_format] at next
  omega

/-! ## The values -/

section Values

variable {conversions : Conversions Double Date} {type size : UInt32} {text : List Byte}

theorem valueAt_take (notInteger : type ≠ BindVarType.integer) :
    valueAt conversions type size (text.take size.toNat) = valueAt conversions type size text := by
  rw [valueAt, valueAt, List.take_take, Nat.min_self, if_neg notInteger, if_neg notInteger]

theorem isSome_valueAt : (valueAt conversions type size text).isSome ↔
    type ∈ [BindVarType.string, BindVarType.blob, BindVarType.clob, BindVarType.integer,
      BindVarType.double, BindVarType.date] := by
  simp only [List.mem_cons, List.not_mem_nil, or_false]
  rw [valueAt]
  split
  case isTrue known => exact iff_of_true rfl (by tauto)
  case isFalse notText =>
    split
    case isTrue known => exact iff_of_true rfl (by tauto)
    case isFalse notInteger =>
      split
      case isTrue known => exact iff_of_true rfl (by tauto)
      case isFalse notDouble =>
        split
        case isTrue known => exact iff_of_true rfl (by tauto)
        case isFalse notDate => exact iff_of_false Bool.false_ne_true (by tauto)

theorem valueAt_integer : valueAt conversions BindVarType.integer size text =
    some (.integerval (conversions.convertToInteger text)) := rfl

end Values

/-- A bind that is given a value is given the one of its string, unless it reads a number beyond it. -/
theorem converts_iff {index offset : Nat} {size : UInt32}
    (inside : offset + size.toNat ≤ row.data.length) :
    (∃ value, row.boundAt index (offset, size) = ⟨size, some value⟩ ∧
      valueAt row.conversions (row.inbindtype index) size
        ((row.data.drop offset).take size.toNat) = some value) ↔
      row.Converts index offset size := by
  have own : ((row.data ++ row.behind).drop offset).take size.toNat =
      (row.data.drop offset).take size.toNat := by
    rw [List.drop_append_of_le_length (by omega), List.take_append_of_le_length]
    rw [List.length_drop]
    omega
  constructor
  · intro given
    obtain ⟨value, bound, same⟩ := given
    have read : valueAt row.conversions (row.inbindtype index) size
        ((row.data ++ row.behind).drop offset) = some value := congrArg BoundVar.value bound
    constructor
    · apply isSome_valueAt.mp
      rw [same]
      rfl
    · intro integer
      rw [integer, valueAt_integer] at same read
      rw [← same] at read
      exact BindValue.integerval.inj (Option.some.inj read)
  · intro converts
    by_cases integer : row.inbindtype index = BindVarType.integer
    · refine ⟨.integerval (row.conversions.convertToInteger ((row.data ++ row.behind).drop offset)),
        ?_, ?_⟩
      · rw [boundAt, integer, valueAt_integer]
      · rw [integer, valueAt_integer, converts.number integer]
    · have known := (@isSome_valueAt _ _ row.conversions _ size
        ((row.data ++ row.behind).drop offset)).mpr converts.known
      obtain ⟨value, given⟩ := Option.isSome_iff_exists.mp known
      refine ⟨value, ?_, ?_⟩
      · rw [boundAt, given]
      · rw [← own, valueAt_take integer, given]

/-! ## The result -/

theorem StopsAt.take (stops : row.StopsAt front last rest) :
    row.format.take (front.length + 1) = front ++ [last] := by
  have split : row.format = (front ++ [last]) ++ rest := by simp [stops.split]
  have length : front.length + 1 = (front ++ [last]).length := by simp
  rw [split, length, List.take_left]

/-- The strings that the loop has come to are those of the data format with these numbers. -/
theorem StopsAt.fields (stops : row.StopsAt front last rest) : ∃ behind,
    fields 0 row.format = fields 0 (front ++ [last]) ++ behind ∧
      behind.length = strings rest := by
  have split : row.format = (front ++ [last]) ++ rest := by simp [stops.split]
  rw [split, fields_append]
  exact ⟨_, rfl, length_fields _⟩

/-- If there is a bind behind the strings that the loop has come to, there is no string for it. -/
theorem Matches.strings_rest (matched : row.Matches front last rest)
    (more : strings (front ++ [last]) < row.inbindcount.toNat) : strings rest = 0 := by
  have longer : strings front ≤ strings (front ++ [last]) := by
    rw [strings_append]
    exact Nat.le_add_right _ _
  cases matched.bindable with
  | inl isString =>
      have counted := @strings_string front last isString
      cases matched.stops.stops with
      | inl unsupported => exact absurd isString unsupported.2
      | inr found =>
          cases found.2 with
          | inl all => omega
          | inr atEnd => rw [atEnd]; rfl
  | inr unsupported =>
      cases unsupported.2 with
      | inl few => omega
      | inr without =>
          apply List.countP_eq_zero.mpr
          intro element member
          simpa using without element member

/-- All strings that are for a bind have been examined where a data format stops that can be bound. -/
theorem Matches.field (matched : row.Matches front last rest) {index : Nat} {field : Nat × UInt32}
    (inside : index < row.inbindcount.toNat) (at_index : (fields 0 row.format)[index]? = some field) :
    (fields 0 (front ++ [last]))[index]? = some field := by
  obtain ⟨behind, same, length⟩ := matched.stops.fields
  rw [same] at at_index
  by_cases examined : index < (fields 0 (front ++ [last])).length
  · rwa [List.getElem?_append_left examined] at at_index
  · rw [length_fields] at examined
    rw [matched.strings_rest (by omega)] at length
    rwa [List.length_eq_zero_iff.mp length, List.append_nil] at at_index

theorem field_inside {index offset : Nat} {size : UInt32}
    (at_index : (BulkLoad.fields 0 front)[index]? = some (offset, size)) :
    offset + size.toNat ≤ sizes front := by
  have inside := fields_inside (List.mem_of_getElem? at_index)
  omega

/-- If each bind has got its string, the loop has come to these strings. -/
theorem Kept.field (stops : row.StopsAt front last rest)
    (kept : row.Kept (row.run (front.length + 1))) {index offset : Nat} {size : UInt32}
    (inside : index < row.inbindcount.toNat)
    (at_index : (fields 0 row.format)[index]? = some (offset, size)) :
    (fields 0 (front ++ [last]))[index]? = some (offset, size) ∧
      ∃ value, row.boundAt index (offset, size) = ⟨size, some value⟩ ∧
        valueAt row.conversions (row.inbindtype index) size
          ((row.data.drop offset).take size.toNat) = some value := by
  obtain ⟨formatindex, inbindindex, ran⟩ := run_stops stops
  obtain ⟨behind, same, _⟩ := stops.fields
  obtain ⟨value, bound, own⟩ := kept.bound index offset size inside at_index
  rw [ran] at bound
  obtain ⟨field, found, given⟩ := Option.map_eq_some_iff.mp bound
  have examined := (List.getElem?_eq_some_iff.mp found).1
  rw [same, List.getElem?_append_left examined, found] at at_index
  cases at_index
  exact ⟨found, value, given, own⟩

theorem Kept.strings_rest (stops : row.StopsAt front last rest)
    (kept : row.Kept (row.run (front.length + 1)))
    (more : strings (front ++ [last]) < row.inbindcount.toNat) : strings rest = 0 := by
  obtain ⟨behind, same, length⟩ := stops.fields
  rw [← length]
  cases behind with
  | nil => rfl
  | cons field behind =>
      have at_index : (fields 0 row.format)[strings (front ++ [last])]? = some field := by
        rw [same, ← @length_fields (front ++ [last]) 0]
        simp
      have outside := (Kept.field stops kept more at_index).1
      rw [← @length_fields (front ++ [last]) 0, List.getElem?_eq_none (Nat.le_refl _)] at outside
      cases outside

/-- Where the loop stops, all is as it is meant to be exactly if the data format can be bound there. -/
theorem kept_iff (stops : row.StopsAt front last rest) :
    row.Kept (row.run (front.length + 1)) ↔ row.Matches front last rest := by
  obtain ⟨formatindex, inbindindex, ran⟩ := run_stops stops
  have lengths := length_front stops.split
  have total := @sizes_snoc front last
  constructor
  · intro kept
    have consumed := kept.consumed
    have inside := kept.inside
    rw [ran] at consumed inside
    dsimp only at consumed inside
    rw [stops.take, total] at consumed
    rw [consumed, ← total] at inside
    refine ⟨stops, ?_, inside, ?_⟩
    · cases stops.stops with
      | inr found => exact Or.inl found.1
      | inl unsupported =>
          rw [if_neg unsupported.2] at consumed
          right
          constructor
          · apply UInt32.toNat_inj.mp
            rw [UInt32.toNat_zero]
            omega
          · have counted := @strings_other front last unsupported.2
            cases Nat.lt_or_ge (strings front) row.inbindcount.toNat with
            | inr few => exact Or.inl few
            | inl more =>
                right
                intro element member isString
                have without := Kept.strings_rest stops kept (by omega)
                have none := List.countP_eq_zero.mp without element member
                exact none (decide_eq_true isString)
    · intro index offset size few at_index
      have field := Kept.field stops kept few at_index
      have short := field_inside field.1
      exact (converts_iff (by omega)).mp field.2
  · intro matched
    have inside := matched.inside
    have consumed : (sizes front + if last.IsString then last.size.toNat else 0) =
        sizes (front ++ [last]) := by
      rw [total]
      split
      case isTrue => rfl
      case isFalse notString =>
        have empty := (matched.bindable.resolve_left notString).1
        rw [empty, UInt32.toNat_zero]
    rw [ran, consumed]
    constructor
    · dsimp only
      omega
    · dsimp only
      rw [stops.take]
    · exact inside
    · intro index offset size few at_index
      have field := matched.field few at_index
      have short := field_inside field
      obtain ⟨value, bound, own⟩ := (converts_iff (by omega)).mpr
        (matched.converts index offset size few at_index)
      refine ⟨value, ?_, own⟩
      dsimp only [reached]
      rw [field, Option.map_some, bound]

/-- A row is bound as it is meant to be exactly if the data format stops at what can be bound. -/
theorem staysInData_iff :
    row.StaysInData ↔ ∃ front last rest, row.Matches front last rest := by
  constructor
  · intro stays
    obtain ⟨passes, stopped, kept⟩ := stays
    have dichotomy := @stops_or_runsOut _ _ row [] row.format rfl (by simp) (by simp [strings]; omega) rfl
    cases dichotomy with
    | inl stops =>
        obtain ⟨front, last, rest, stops⟩ := stops
        obtain ⟨formatindex, inbindindex, ran⟩ := run_stops stops
        have same : row.run passes = row.run (front.length + 1) :=
          run_unique stopped (by rw [ran])
        rw [same] at kept
        exact ⟨front, last, rest, (kept_iff stops).mp kept⟩
    | inr ran => exact absurd kept (not_kept_of_runsOut ran stopped)
  · intro found
    obtain ⟨front, last, rest, matched⟩ := found
    obtain ⟨formatindex, inbindindex, ran⟩ := run_stops matched.stops
    refine ⟨front.length + 1, ?_, (kept_iff matched.stops).mpr matched⟩
    rw [ran]

/-- Rows of one character and a newline, where the query has two binds. -/
def trailingNewline : BindRow Unit Unit where
  conversions := ⟨id, fun _ => 0, fun _ => (), fun _ => false, fun _ => ()⟩
  controller := ⟨.little, 100, 10⟩
  segment position := [2, 0, 1, 0, 0, 0, 1, 0, 0, 0, 9, 0, 0, 0, 1, 0, 0, 0].getD position 0
  bulkdataformat := 0
  inbindcount := 2
  inbindtype _ := BindVarType.string
  data := ascii "a\n"
  behind := []

/-- What comes behind the newline in memory is examined as if it were an element. -/
theorem trailingNewline_examinesMore : ¬trailingNewline.StaysInData := by
  intro stays
  obtain ⟨passes, stopped, kept⟩ := stays
  have stops : (trailingNewline.run 3).stopped = true := by decide +kernel
  have few := kept.examined
  rw [run_unique stopped stops] at few
  exact absurd few (by decide +kernel)

end BindRow

end SqlRelay.BulkLoad
