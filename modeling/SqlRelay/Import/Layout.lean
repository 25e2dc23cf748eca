import Mathlib.Data.List.Chain
import Mathlib.Data.Nat.Count
import SqlRelay.Import.Row

/-!
# The layout of a row

Which columns a statement has, and in which order, before names and fields are put in.  The two passes put
together the same columns.  When the primary key gets its turn, every column of the layout is known from
its index alone.
-/

namespace SqlRelay.Import

/-- The columns go after those that are there. -/
def Pass.extend {α : Type} (pass : Pass α) (origins : List Origin) (content : Origin → α) : Pass α :=
  ⟨pass.current + origins.length, pass.items ++ origins.map fun origin => (origin, content origin)⟩

@[simp]
theorem Pass.extend_nil {α : Type} (pass : Pass α) (content : Origin → α) :
    pass.extend [] content = pass := by
  simp [Pass.extend]

theorem Pass.extend_extend {α : Type} (pass : Pass α) (first second : List Origin)
    (content : Origin → α) :
    (pass.extend first content).extend second content = pass.extend (first ++ second) content := by
  simp [Pass.extend, Nat.add_assoc]

theorem Pass.append_eq {α : Type} (pass : Pass α) (origin : Origin) (content : Origin → α) :
    pass.append origin (content origin) = pass.extend [origin] content := by
  simp [Pass.extend, Pass.append]

namespace Config

variable (config : Config)

/-- The static values that go one after the other from this column on. -/
def staticsFrom : Nat → Nat → List Origin
  | 0, _ => []
  | fuel + 1, current =>
      if (config.staticAt current).isSome then
        .static current :: staticsFrom fuel (current + 1)
      else []

/-- The columns before the next column of the file. -/
def extrasFrom (current : Nat) : List Origin :=
  if (config.keyAt current).isSome then
    .primaryKey :: config.staticsFrom config.staticValues.length (current + 1)
  else config.staticsFrom config.staticValues.length current

/-- All columns of a row with this many fields, from these columns on. -/
def slotsFrom : Nat → Nat → Nat → List Origin
  | 0, _, _ => []
  | count + 1, column, current =>
      let extras := config.extrasFrom current
      extras ++ .file column :: slotsFrom count (column + 1) (current + extras.length + 1)

def slots (count : Nat) : List Origin := config.slotsFrom count 0 0

/-! ## The passes -/

section Passes

variable {config} {α β : Type} {ofKey : PrimaryKey → α} {ofStatic : StaticValue → α}
variable {content : Origin → α}

theorem keyAt_eq_some {index : Nat} {key : PrimaryKey} :
    config.keyAt index = some key ↔ config.primaryKey = some key ∧ key.index = index := by
  simp [keyAt, Option.filter_eq_some_iff]

/-- What a pass puts at the columns that the file does not have. -/
structure Extras (config : Config) (ofKey : PrimaryKey → α) (ofStatic : StaticValue → α)
    (content : Origin → α) : Prop where
  primaryKey : ∀ key, config.primaryKey = some key → ofKey key = content .primaryKey
  static : ∀ index value, config.staticAt index = some value →
    ofStatic value = content (.static index)

theorem insertStatics_eq (extras : Extras config ofKey ofStatic content) (fuel : Nat)
    (pass : Pass α) :
    config.insertStatics ofStatic fuel pass =
      pass.extend (config.staticsFrom fuel pass.current) content := by
  induction fuel generalizing pass with
  | zero => simp [insertStatics, staticsFrom]
  | succ fuel induction =>
    cases found : config.staticAt pass.current with
    | none => simp [insertStatics, staticsFrom, found]
    | some value =>
      simp only [insertStatics, staticsFrom, found, Option.isSome_some, if_true]
      rw [induction, extras.static _ value found, Pass.append_eq, Pass.extend_extend]
      simp [Pass.extend]

theorem insertExtras_eq (extras : Extras config ofKey ofStatic content) (pass : Pass α) :
    config.insertExtras ofKey ofStatic pass =
      pass.extend (config.extrasFrom pass.current) content := by
  cases found : config.keyAt pass.current with
  | none => simp [insertExtras, extrasFrom, found, insertStatics_eq extras]
  | some key =>
    have put := extras.primaryKey key (keyAt_eq_some.mp found).1
    simp only [insertExtras, extrasFrom, found, Option.isSome_some, if_true]
    rw [insertStatics_eq extras, put, Pass.append_eq, Pass.extend_extend]
    simp [Pass.extend]

/-- A pass puts together the columns of the layout when it knows what to put for a column of the file
from where that column is. -/
theorem pass_eq (extras : Extras config ofKey ofStatic content) (ofFile : Nat → β × Nat → α)
    (process : Pass α → β × Nat → Pass α)
    (processes : ∀ pass column, process pass column =
      (config.insertExtras ofKey ofStatic pass).append (.file column.2)
        (ofFile (config.insertExtras ofKey ofStatic pass).current column))
    {whole : List Origin} (taken : List Origin) (columns : List β) (start : Nat) (pass : Pass α)
    (split : whole = taken ++ config.slotsFrom columns.length start pass.current)
    (length : taken.length = pass.current)
    (own : ∀ column ∈ columns.zipIdx start, ∀ current,
      whole[current]? = some (.file column.2) → ofFile current column = content (.file column.2)) :
    (columns.zipIdx start).foldl process pass =
      pass.extend (config.slotsFrom columns.length start pass.current) content := by
  induction columns generalizing start pass taken with
  | nil => simp [slotsFrom]
  | cons column columns induction =>
    have put : process pass (column, start) =
        pass.extend (config.extrasFrom pass.current ++ [.file start]) content := by
      rw [processes, insertExtras_eq extras, own (column, start) (by simp), Pass.append_eq,
        Pass.extend_extend]
      simp [split, slotsFrom, Pass.extend, ← length]
    simp only [List.zipIdx_cons, List.foldl_cons, put]
    rw [induction (taken ++ (config.extrasFrom pass.current ++ [.file start]))]
    · rw [Pass.extend_extend]
      simp [Pass.extend, slotsFrom, Nat.add_assoc]
    · simp [split, slotsFrom, Pass.extend, Nat.add_assoc]
    · simp [Pass.extend, length]
    · intro later member
      apply own later
      simp [member]

end Passes

/-! ## Where the columns are -/

/-- Whether the file has no column for this index. -/
def isExtra (index : Nat) : Bool := (config.keyAt index).isSome || (config.staticAt index).isSome

/-- How many columns of the file go before this index. -/
def filesBefore (index : Nat) : Nat := Nat.count (fun index => config.isExtra index = false) index

/-- The primary key gets its turn: there is no static value in its place, nor right before it. -/
structure Apart : Prop where
  place : ∀ key, config.primaryKey = some key → config.staticAt key.index = none
  before : ∀ key index, config.primaryKey = some key → index + 1 = key.index →
    config.staticAt index = none

/-- The column at this index of a layout where every column gets its turn. -/
def layoutAt (index : Nat) : Origin :=
  if (config.keyAt index).isSome then .primaryKey
  else if (config.staticAt index).isSome then .static index
  else .file (config.filesBefore index)

/-- A column that the file does not have is at its own index. -/
def Belongs (index : Nat) : Origin → Prop
  | .primaryKey => (config.keyAt index).isSome
  | .static own => own = index ∧ (config.staticAt index).isSome
  | .file _ => True

/-- Only a column of the file goes before the primary key. -/
def Follows (first second : Origin) : Prop := second = .primaryKey → first.isFile

section Layout

variable {config}

theorem filesBefore_succ (index : Nat) :
    config.filesBefore (index + 1) =
      config.filesBefore index + if config.isExtra index = false then 1 else 0 := by
  simp [filesBefore, Nat.count_succ]

theorem filesBefore_mono {first second : Nat} (le : first ≤ second) :
    config.filesBefore first ≤ config.filesBefore second :=
  Nat.count_monotone _ le

theorem staticsFrom_eq (fuel current : Nat) :
    config.staticsFrom fuel current =
      (List.range' current (config.staticsFrom fuel current).length).map Origin.static := by
  induction fuel generalizing current with
  | zero => simp [staticsFrom]
  | succ fuel induction =>
    cases found : config.staticAt current with
    | none => simp [staticsFrom, found]
    | some value =>
      simp only [staticsFrom, found, Option.isSome_some, if_true, List.length_cons,
        List.range'_succ, List.map_cons]
      rw [← induction]

/-- There is a static value for each. -/
theorem staticAt_of_lt {fuel current index : Nat} (le : current ≤ index)
    (lt : index < current + (config.staticsFrom fuel current).length) :
    (config.staticAt index).isSome := by
  induction fuel generalizing current with
  | zero =>
    simp only [staticsFrom, List.length_nil] at lt
    omega
  | succ fuel induction =>
    cases found : config.staticAt current with
    | none =>
      simp [staticsFrom, found] at lt
      omega
    | some value =>
      simp only [staticsFrom, found, Option.isSome_some, if_true, List.length_cons] at lt
      cases Nat.lt_or_eq_of_le le with
      | inl later =>
        have within : index < current + 1 + (config.staticsFrom fuel (current + 1)).length := by
          omega
        exact induction later within
      | inr same => simp [← same, found]

theorem isSome_staticAt {index : Nat} :
    (config.staticAt index).isSome ↔ index ∈ config.staticValues.map (·.1) := by
  simp only [staticAt, List.lookup_isSome_iff, beq_iff_eq, List.mem_map]
  constructor
  · intro found
    cases found with
    | intro value found => exact ⟨value, found.1, found.2.symm⟩
  · intro found
    cases found with
    | intro value found => exact ⟨value, found.1, found.2.symm⟩

/-- The loop ends where there is none. -/
theorem staticAt_end {fuel current : Nat}
    (enough : ((config.staticValues.map (·.1)).filter (current ≤ ·)).length ≤ fuel) :
    config.staticAt (current + (config.staticsFrom fuel current).length) = none := by
  induction fuel generalizing current with
  | zero =>
    have absent := List.length_eq_zero_iff.mp (Nat.le_zero.mp enough)
    cases found : config.staticAt current with
    | none => simp [staticsFrom, found]
    | some value =>
      have member := isSome_staticAt.mp (Option.isSome_of_eq_some found)
      simpa using List.filter_eq_nil_iff.mp absent current member
  | succ fuel induction =>
    cases found : config.staticAt current with
    | none => simp [staticsFrom, found]
    | some value =>
      have member := isSome_staticAt.mp (Option.isSome_of_eq_some found)
      have fewer : ((config.staticValues.map (·.1)).filter (current + 1 ≤ ·)).length <
          ((config.staticValues.map (·.1)).filter (current ≤ ·)).length := by
        have within : (config.staticValues.map (·.1)).filter (current + 1 ≤ ·) =
            ((config.staticValues.map (·.1)).filter (current ≤ ·)).filter (current + 1 ≤ ·) := by
          rw [List.filter_filter]
          apply List.filter_congr
          intro index _
          simp
          omega
        rw [within, List.length_filter_lt_length_iff_exists]
        exact ⟨current, by simp [member], by simp⟩
      have ends := induction (Nat.le_of_lt_succ (Nat.lt_of_lt_of_le fewer enough))
      simp only [staticsFrom, found, Option.isSome_some, if_true, List.length_cons]
      rwa [Nat.add_right_comm] at ends

/-! ### The columns of the file -/

theorem filter_staticsFrom (fuel current : Nat) :
    (config.staticsFrom fuel current).filter Origin.isFile = [] := by
  induction fuel generalizing current with
  | zero => rfl
  | succ fuel induction =>
    cases found : config.staticAt current with
    | none => simp [staticsFrom, found]
    | some value =>
      simp only [staticsFrom, found, Option.isSome_some, if_true]
      rw [List.filter_cons_of_neg (by simp [Origin.isFile]), induction]

theorem filter_extrasFrom (current : Nat) :
    (config.extrasFrom current).filter Origin.isFile = [] := by
  cases key : config.keyAt current with
  | none =>
    simp only [extrasFrom, key, Option.isSome_none]
    exact filter_staticsFrom _ _
  | some key' =>
    simp only [extrasFrom, key, Option.isSome_some, if_true]
    rw [List.filter_cons_of_neg (by simp [Origin.isFile]), filter_staticsFrom]

/-- Each column of the file is there once, and in the order of the file. -/
theorem filter_slotsFrom (count column current : Nat) :
    (config.slotsFrom count column current).filter Origin.isFile =
      (List.range' column count).map Origin.file := by
  induction count generalizing column current with
  | zero => simp [slotsFrom]
  | succ count induction =>
    simp only [slotsFrom, List.filter_append, filter_extrasFrom, List.nil_append, List.range'_succ,
      List.map_cons]
    rw [List.filter_cons_of_pos rfl, induction]

theorem filter_slots (count : Nat) :
    (config.slots count).filter Origin.isFile = (List.range count).map Origin.file := by
  rw [slots, filter_slotsFrom, List.range_eq_range']

/-! ### At their own index -/

theorem belongs_staticsFrom {fuel current offset : Nat} {origin : Origin}
    (found : (config.staticsFrom fuel current)[offset]? = some origin) :
    config.Belongs (current + offset) origin := by
  have lt := (List.getElem?_eq_some_iff.mp found).1
  rw [staticsFrom_eq, List.getElem?_map, List.getElem?_range' lt] at found
  cases found
  have static : (config.staticAt (current + offset)).isSome :=
    staticAt_of_lt (Nat.le_add_right current offset) (Nat.add_lt_add_left lt current)
  constructor
  · simp
  · exact static

theorem belongs_extrasFrom {current offset : Nat} {origin : Origin}
    (found : (config.extrasFrom current)[offset]? = some origin) :
    config.Belongs (current + offset) origin := by
  cases key : config.keyAt current with
  | none =>
    simp only [extrasFrom, key, Option.isSome_none] at found
    exact belongs_staticsFrom found
  | some key' =>
    simp only [extrasFrom, key, Option.isSome_some, if_true] at found
    cases offset with
    | zero =>
      cases found
      simp [Belongs, key]
    | succ offset =>
      have belongs := belongs_staticsFrom (List.getElem?_cons_succ ▸ found)
      rwa [Nat.add_right_comm] at belongs

theorem belongs_slotsFrom {count column current offset : Nat} {origin : Origin}
    (found : (config.slotsFrom count column current)[offset]? = some origin) :
    config.Belongs (current + offset) origin := by
  induction count generalizing column current offset with
  | zero => simp [slotsFrom] at found
  | succ count induction =>
    simp only [slotsFrom] at found
    cases Nat.lt_or_ge offset (config.extrasFrom current).length with
    | inl before =>
      rw [List.getElem?_append_left before] at found
      exact belongs_extrasFrom found
    | inr after =>
      rw [List.getElem?_append_right after] at found
      cases split : offset - (config.extrasFrom current).length with
      | zero =>
        rw [split] at found
        cases found
        trivial
      | succ later =>
        rw [split] at found
        have belongs := induction (List.getElem?_cons_succ ▸ found)
        have index : current + (config.extrasFrom current).length + 1 + later =
            current + offset := by
          omega
        rwa [index] at belongs

/-! ### Behind a column of the file -/

theorem follows_staticsFrom (fuel current : Nat) (first : Origin) :
    List.IsChain Follows (first :: config.staticsFrom fuel current) := by
  induction fuel generalizing current first with
  | zero => simp [staticsFrom]
  | succ fuel induction =>
    cases found : config.staticAt current with
    | none => simp [staticsFrom, found]
    | some value =>
      simp only [staticsFrom, found, Option.isSome_some, if_true, List.isChain_cons_cons]
      constructor
      · intro key
        cases key
      · exact induction (current + 1) (.static current)

theorem follows_slotsFrom (count column current before : Nat) :
    List.IsChain Follows (.file before :: config.slotsFrom count column current) := by
  induction count generalizing column current before with
  | zero => simp [slotsFrom]
  | succ count induction =>
    have extras : List.IsChain Follows (.file before :: config.extrasFrom current) := by
      cases key : config.keyAt current with
      | none =>
        simp only [extrasFrom, key, Option.isSome_none]
        exact follows_staticsFrom _ _ _
      | some key' =>
        simp only [extrasFrom, key, Option.isSome_some, if_true, List.isChain_cons_cons]
        constructor
        · intro _
          rfl
        · exact follows_staticsFrom _ _ _
    simp only [slotsFrom, ← List.cons_append]
    apply List.isChain_append.mpr
    constructor
    · exact extras
    constructor
    · exact induction _ _ _
    intro last _ next found key
    simp only [List.head?_cons, Option.mem_def, Option.some.injEq] at found
    simp [← found] at key

theorem follows_slots {count index : Nat} {first second : Origin}
    (here : (config.slots count)[index]? = some first)
    (next : (config.slots count)[index + 1]? = some second) : Follows first second := by
  have lt := (List.getElem?_eq_some_iff.mp next).1
  have chain : List.IsChain Follows (config.slots count) := (follows_slotsFrom count 0 0 0).tail
  have follows := List.isChain_iff_getElem.mp chain index lt
  rw [List.getElem?_eq_some_iff] at here next
  rwa [here.2, next.2] at follows

/-! ### Every column gets its turn -/

theorem Apart.keyAt_eq_none (apart : config.Apart) {index : Nat}
    (static : (config.staticAt index).isSome) : config.keyAt index = none := by
  cases found : config.keyAt index with
  | none => rfl
  | some key =>
    have here := keyAt_eq_some.mp found
    have clear := apart.place key here.1
    rw [here.2] at clear
    simp [clear] at static

theorem Apart.staticsFrom_eq (apart : config.Apart) (fuel current : Nat) :
    config.staticsFrom fuel current =
      (List.range' current (config.staticsFrom fuel current).length).map config.layoutAt := by
  rw [Config.staticsFrom_eq]
  simp only [List.length_map, List.length_range']
  apply List.map_congr_left
  intro index member
  simp only [List.mem_range'_1] at member
  have static := staticAt_of_lt member.1 member.2
  simp [layoutAt, apart.keyAt_eq_none static, static]

/-- The loop does not end at the primary key. -/
theorem Apart.isExtra_end (apart : config.Apart) {current : Nat}
    (key : config.keyAt current = none) :
    config.isExtra
      (current + (config.staticsFrom config.staticValues.length current).length) = false := by
  have ends : config.staticAt
      (current + (config.staticsFrom config.staticValues.length current).length) = none := by
    apply staticAt_end
    have le := List.length_filter_le (current ≤ ·) (config.staticValues.map (·.1))
    simpa using le
  cases length : (config.staticsFrom config.staticValues.length current).length with
  | zero =>
    rw [length] at ends
    simp_all [isExtra]
  | succ before =>
    rw [length] at ends
    have last : before < (config.staticsFrom config.staticValues.length current).length := by
      omega
    have static : (config.staticAt (current + before)).isSome :=
      staticAt_of_lt (Nat.le_add_right current before) (Nat.add_lt_add_left last current)
    cases found : config.keyAt (current + (before + 1)) with
    | none => simp [isExtra, found, ends]
    | some key' =>
      have here := keyAt_eq_some.mp found
      have clear := apart.before key' (current + before) here.1 (by omega)
      simp [clear] at static

theorem Apart.extrasFrom_eq (apart : config.Apart) (current : Nat) :
    config.extrasFrom current =
      (List.range' current (config.extrasFrom current).length).map config.layoutAt := by
  cases key : config.keyAt current with
  | none =>
    simp only [extrasFrom, key, Option.isSome_none]
    exact apart.staticsFrom_eq _ _
  | some key' =>
    simp only [extrasFrom, key, Option.isSome_some, if_true, List.length_cons, List.range'_succ,
      List.map_cons]
    rw [← apart.staticsFrom_eq]
    simp [layoutAt, key]

theorem Apart.isExtra_extrasFrom (apart : config.Apart) (current : Nat) :
    config.isExtra (current + (config.extrasFrom current).length) = false := by
  cases key : config.keyAt current with
  | none =>
    simp only [extrasFrom, key, Option.isSome_none]
    exact apart.isExtra_end key
  | some key' =>
    simp only [extrasFrom, key, Option.isSome_some, if_true, List.length_cons]
    have after : config.keyAt (current + 1) = none := by
      cases found : config.keyAt (current + 1) with
      | none => rfl
      | some other =>
        have here := keyAt_eq_some.mp key
        have there := keyAt_eq_some.mp found
        have same : key' = other := Option.some.inj (here.1.symm.trans there.1)
        rw [← same] at there
        omega
    have ends := apart.isExtra_end after
    rwa [Nat.add_right_comm] at ends

theorem isExtra_of_lt {current offset : Nat} (lt : offset < (config.extrasFrom current).length) :
    config.isExtra (current + offset) = true := by
  cases key : config.keyAt current with
  | none =>
    simp only [extrasFrom, key, Option.isSome_none] at lt
    have static := staticAt_of_lt (Nat.le_add_right current offset) (Nat.add_lt_add_left lt current)
    simp [isExtra, static]
  | some key' =>
    simp only [extrasFrom, key, Option.isSome_some, if_true, List.length_cons] at lt
    cases offset with
    | zero => simp [isExtra, key]
    | succ offset =>
      have static := staticAt_of_lt (Nat.le_add_right (current + 1) offset)
        (Nat.add_lt_add_left (Nat.succ_lt_succ_iff.mp lt) (current + 1))
      rw [Nat.add_right_comm] at static
      simp [isExtra, ← Nat.add_assoc, static]

/-- None of the columns before the next column of the file is a column of the file. -/
theorem filesBefore_extrasFrom {current offset : Nat}
    (le : offset ≤ (config.extrasFrom current).length) :
    config.filesBefore (current + offset) = config.filesBefore current := by
  induction offset with
  | zero => rfl
  | succ offset induction =>
    rw [← Nat.add_assoc, filesBefore_succ, induction (Nat.le_of_succ_le le), isExtra_of_lt le]
    simp

/-- The columns are those of the layout, and as many as it takes for the columns of the file. -/
theorem Apart.slotsFrom_eq (apart : config.Apart) (count current : Nat) :
    let slots := config.slotsFrom count (config.filesBefore current) current
    slots = (List.range' current slots.length).map config.layoutAt ∧
      config.filesBefore (current + slots.length) = config.filesBefore current + count ∧
      ∀ index, current ≤ index → index < current + slots.length →
        config.filesBefore index < config.filesBefore current + count := by
  induction count generalizing current with
  | zero =>
    simp only [slotsFrom, List.length_nil, List.range'_zero, List.map_nil, Nat.add_zero, true_and]
    omega
  | succ count induction =>
    have extras := apart.extrasFrom_eq current
    have file := apart.isExtra_extrasFrom current
    have same : config.filesBefore (current + (config.extrasFrom current).length) =
        config.filesBefore current := filesBefore_extrasFrom le_rfl
    have next : config.filesBefore (current + (config.extrasFrom current).length + 1) =
        config.filesBefore current + 1 := by
      rw [filesBefore_succ, same, file]
      simp
    have later := induction (current + (config.extrasFrom current).length + 1)
    rw [next] at later
    have here : config.layoutAt (current + (config.extrasFrom current).length) =
        .file (config.filesBefore current) := by
      simp only [isExtra, Bool.or_eq_false_iff] at file
      simp [layoutAt, file.1, file.2, same]
    simp only [slotsFrom, List.length_append, List.length_cons]
    constructor
    · rw [← List.range'_append_1, List.map_append, ← extras, List.range'_succ, List.map_cons, here,
        ← later.1]
    constructor
    · have total := later.2.1
      simp only [Nat.add_assoc, Nat.add_comm 1] at total ⊢
      exact total
    · intro index le lt
      cases Nat.lt_or_ge (current + (config.extrasFrom current).length) index with
      | inl after =>
        have fewer := later.2.2 index after (by omega)
        omega
      | inr before =>
        have le : config.filesBefore index ≤
            config.filesBefore (current + (config.extrasFrom current).length) :=
          filesBefore_mono before
        omega

theorem Apart.slots_eq (apart : config.Apart) (count : Nat) :
    config.slots count = (List.range (config.slots count).length).map config.layoutAt := by
  have layout := (apart.slotsFrom_eq count 0).1
  rwa [← List.range_eq_range'] at layout

/-- A column is there when not all columns of the file go before it. -/
theorem Apart.lt_length_slots (apart : config.Apart) {index count : Nat} :
    index < (config.slots count).length ↔ config.filesBefore index < count := by
  have layout := apart.slotsFrom_eq count 0
  have none : config.filesBefore 0 = 0 := by simp [filesBefore]
  simp only [none, Nat.zero_add] at layout
  constructor
  · intro lt
    exact layout.2.2 index (Nat.zero_le index) lt
  · intro lt
    cases Nat.lt_or_ge index (config.slots count).length with
    | inl less => exact less
    | inr ge =>
      have all : config.filesBefore (config.slots count).length ≤ config.filesBefore index :=
        filesBefore_mono ge
      have total := layout.2.1
      simp only [slots] at all
      omega

theorem Apart.getElem?_slots (apart : config.Apart) {index count : Nat}
    (before : config.filesBefore index < count) :
    (config.slots count)[index]? = some (config.layoutAt index) := by
  have lt := apart.lt_length_slots.mpr before
  rw [apart.slots_eq, List.getElem?_map, List.getElem?_range lt]
  rfl

end Layout

end Config

end SqlRelay.Import
