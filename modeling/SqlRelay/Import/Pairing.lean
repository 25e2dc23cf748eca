import SqlRelay.Foundation.Kept
import SqlRelay.Import.Layout

/-!
# Pairing

The insert statement pairs the names of its columns with their values, as the two passes put together the
same columns.  Whether the names are those that the configuration asks for is another matter.  The names of
the columns of the file are mapped twice, and a column that the file does not have is left out when
nothing of the file goes behind it, or when the primary key goes right behind a static value.
-/

namespace SqlRelay.Import.Config

open SqlRelay.Foundation

variable (config : Config) (header row : List (List Byte))

/-- The name of a column before it is put into the statement. -/
def nameOf : Origin → List Byte
  | .primaryKey => (config.primaryKey.map PrimaryKey.name).getD []
  | .static index => ((config.staticAt index).map StaticValue.name).getD []
  | .file column => config.mappedName (header.getD column [])

def typeOf (name : List Byte) : ColumnType := if name = [] then .other else config.columnType name

/-- What belongs into a column: the expression for the next value of the sequence, the static value, or
the column's own field of the row. -/
def fieldOf : Origin → Field
  | .primaryKey => (config.primaryKey.map config.keyField).getD ⟨none, false⟩
  | .static index => ((config.staticAt index).map config.staticField).getD ⟨none, false⟩
  | .file column => config.fileField (config.typeOf (config.nameOf header (.file column)))
      (row.getD column [])

/-- A value in the statement says what is in a field. -/
def Gives (binds : List (Nat × List Byte)) (field : Field) : Value → Prop
  | .null => field.text = none
  | .literal text quoted => field = ⟨some text, quoted⟩
  | .placeholder number => ∃ text, field.text = some text ∧ binds.lookup number = some text

/-- The name of a column in the statement. -/
def named (origin : Origin) : Option (Origin × List Byte) :=
  (config.written (config.mappedName (config.nameOf header origin))).map fun name => (origin, name)

/-! ## The two passes -/

section Passes

variable {header row}

theorem getD_of_mem_zipIdx {columns : List (List Byte)} {column : List Byte × Nat}
    (member : column ∈ columns.zipIdx) : columns.getD column.2 [] = column.1 := by
  have found := List.mem_zipIdx_iff_getElem?.mp member
  simp [found]

variable (header row)

theorem columnNames_eq :
    config.columnNames header =
      (config.slots header.length).map fun origin => (origin, config.nameOf header origin) := by
  have extras : Extras config PrimaryKey.name StaticValue.name (config.nameOf header) := by
    constructor
    · intro key found
      simp [nameOf, found]
    · intro index value found
      simp [nameOf, found]
  have pass := pass_eq extras (fun _ column => config.mappedName column.1) config.processColumnName
    (fun _ _ => rfl) [] header 0 Pass.start rfl rfl
    (by
      intro column member current _
      simp only [nameOf]
      rw [getD_of_mem_zipIdx member])
  rw [columnNames, pass]
  rfl

/-- The type of a column is that of its name. -/
theorem determineColumnTypes_eq :
    config.determineColumnTypes (config.columnNames header) =
      (config.slots header.length).map fun origin => config.typeOf (config.nameOf header origin) := by
  rw [columnNames_eq, determineColumnTypes, List.map_map]
  rfl

theorem fields_eq (same : row.length = header.length) :
    config.fields (config.determineColumnTypes (config.columnNames header)) row =
      (config.slots header.length).map fun origin =>
        (origin, config.fieldOf header row origin) := by
  have extras : Extras config config.keyField config.staticField (config.fieldOf header row) := by
    constructor
    · intro key found
      simp [fieldOf, found]
    · intro index value found
      simp [fieldOf, found]
  rw [determineColumnTypes_eq, ← same]
  have pass := pass_eq extras
    (fun current column => config.fileField
      (((config.slots row.length).map fun origin =>
        config.typeOf (config.nameOf header origin)).getD current .other) column.1)
    (config.processField ((config.slots row.length).map fun origin =>
      config.typeOf (config.nameOf header origin)))
    (fun _ _ => rfl) [] row 0 Pass.start rfl rfl
    (by
      intro column member current found
      have found : (config.slots row.length)[current]? = some (.file column.2) := found
      simp only [fieldOf, getD_of_mem_zipIdx member]
      simp [List.getD_eq_getElem?_getD, found])
  rw [fields, pass]
  rfl

end Passes

/-! ## The statement -/

section Statement

theorem insertNames_eq (origins : List Origin) :
    config.insertNames (origins.map fun origin => (origin, config.nameOf header origin)) =
      origins.filterMap (config.named header) := by
  rw [insertNames, List.filterMap_map]
  rfl

variable {config header row}

/-- A bind keeps its number. -/
theorem Gives.append {binds more : List (Nat × List Byte)} {field : Field} {value : Value}
    (gives : Gives binds field value) : Gives (binds ++ more) field value := by
  cases value with
  | null => exact gives
  | literal text quoted => exact gives
  | placeholder number =>
    cases gives with
    | intro text found => exact ⟨text, found.1, by simp [List.lookup_append, found.2]⟩

/-- What the loop over the fields has bound goes behind what had been bound. -/
theorem binds_insertValues (fields : List (Origin × Field)) (names : List (Origin × List Byte))
    (binds : List (Nat × List Byte)) :
    ∃ more, (config.insertValues fields names binds).2 = binds ++ more := by
  induction fields generalizing names binds with
  | nil => exact ⟨[], by simp [insertValues]⟩
  | cons field fields induction =>
    simp only [insertValues]
    split
    · exact induction _ _
    · split
      · exact induction _ _
      · split
        · cases induction names.tail (binds ++ [(binds.length + 1, _)]) with
          | intro more found => exact ⟨_ :: more, by simpa using found⟩
        · exact induction _ _

/-- Binds are numbered from one. -/
def Numbered (binds : List (Nat × List Byte)) : Prop := ∀ bind ∈ binds, bind.1 ≤ binds.length

theorem Numbered.lookup_next {binds : List (Nat × List Byte)} (numbered : Numbered binds)
    (text : List Byte) :
    (binds ++ [(binds.length + 1, text)]).lookup (binds.length + 1) = some text := by
  have absent : binds.lookup (binds.length + 1) = none := by
    rw [List.lookup_eq_none_iff]
    intro bind member
    have le := numbered bind member
    simp only [bne_iff_ne, ne_eq]
    omega
  simp [List.lookup_append, absent]

theorem Numbered.next {binds : List (Nat × List Byte)} (numbered : Numbered binds)
    (text : List Byte) : Numbered (binds ++ [(binds.length + 1, text)]) := by
  intro bind member
  simp only [List.mem_append, List.mem_singleton] at member
  simp only [List.length_append, List.length_singleton]
  cases member with
  | inl before => exact Nat.le_succ_of_le (numbered bind before)
  | inr last => simp [last]

theorem insertValues_skip {origin : Origin} (field : Field) (fields : List (Origin × Field))
    {name : List Byte} (names : List (Origin × List Byte)) (binds : List (Nat × List Byte))
    (unnamed : config.written (config.mappedName name) = none) :
    config.insertValues ((origin, field) :: fields) ((origin, name) :: names) binds =
      config.insertValues fields names binds := by
  simp [insertValues, unnamed]

/-- A field whose column has a name puts a value in, and at most one bind. -/
theorem insertValues_put {origin : Origin} (field : Field) (fields : List (Origin × Field))
    {name : List Byte} (names : List (Origin × List Byte)) {binds : List (Nat × List Byte)}
    (numbered : Numbered binds) (named : config.written (config.mappedName name) ≠ none) :
    ∃ value bound, Numbered bound ∧
      config.insertValues ((origin, field) :: fields) ((origin, name) :: names) binds =
        ((origin, value) :: (config.insertValues fields names bound).1,
          (config.insertValues fields names bound).2) ∧
      Gives (config.insertValues fields names bound).2 field value := by
  cases field with
  | mk text quoted =>
    cases text with
    | none => exact ⟨.null, binds, numbered, by simp [insertValues, named], rfl⟩
    | some text =>
      cases Decidable.em (0 ∈ text) with
      | inl embedded =>
        cases binds_insertValues fields names (binds ++ [(binds.length + 1, text)]) with
        | intro more found =>
          have put : Gives (binds ++ [(binds.length + 1, text)] ++ more) ⟨some text, quoted⟩
              (.placeholder (binds.length + 1)) :=
            Gives.append ⟨text, rfl, numbered.lookup_next text⟩
          rw [← found] at put
          exact ⟨.placeholder (binds.length + 1), _, numbered.next text,
            by simp [insertValues, named, embedded], put⟩
      | inr plain =>
        exact ⟨.literal text quoted, binds, numbered, by simp [insertValues, named, plain], rfl⟩

/-- The values are those of the columns that have a name, one after the other. -/
theorem insertValues_spec (origins : List Origin) {binds : List (Nat × List Byte)}
    (numbered : Numbered binds) :
    let values := config.insertValues
      (origins.map fun origin => (origin, config.fieldOf header row origin))
      (origins.map fun origin => (origin, config.nameOf header origin)) binds
    values.1.map (·.1) = (origins.filterMap (config.named header)).map (·.1) ∧
      ∀ value ∈ values.1, Gives values.2 (config.fieldOf header row value.1) value.2 := by
  induction origins generalizing binds with
  | nil => simp [insertValues]
  | cons origin origins induction =>
    simp only [List.map_cons]
    cases name : config.written (config.mappedName (config.nameOf header origin)) with
    | none =>
      have unnamed : config.named header origin = none := by simp [named, name]
      rw [insertValues_skip _ _ _ _ name, List.filterMap_cons_none unnamed]
      exact induction numbered
    | some written =>
      have found : config.named header origin = some (origin, written) := by simp [named, name]
      have kept : config.written (config.mappedName (config.nameOf header origin)) ≠ none := by
        simp [name]
      cases insertValues_put (config.fieldOf header row origin)
        (origins.map fun origin => (origin, config.fieldOf header row origin))
        (origins.map fun origin => (origin, config.nameOf header origin)) numbered kept with
      | intro value put =>
        cases put with
        | intro bound put =>
          have later := induction put.1
          rw [put.2.1, List.filterMap_cons_some found]
          constructor
          · simp [later.1]
          · intro pair member
            cases List.mem_cons.mp member with
            | inl first =>
              rw [first]
              exact put.2.2
            | inr more => exact later.2 pair more

/-- The statement of a row whose fields are as many as the columns. -/
theorem names_importRow :
    (config.importRow header row).names =
      (config.slots header.length).filterMap (config.named header) := by
  simp only [importRow, insertRow]
  rw [columnNames_eq, insertNames_eq]

theorem values_importRow (same : row.length = header.length) :
    let statement := config.importRow header row
    statement.values.map (·.1) = statement.names.map (·.1) ∧
      ∀ value ∈ statement.values,
        Gives statement.binds (config.fieldOf header row value.1) value.2 := by
  have numbered : Numbered [] := by
    intro bind member
    cases member
  simp only [names_importRow]
  simp only [importRow, insertRow]
  rw [fields_eq config header row same, columnNames_eq]
  exact insertValues_spec (config.slots header.length) numbered

end Statement

/-! ## What the statement has to say -/

/-- The statement pairs every value with its column. -/
structure Pairs : Prop where
  paired : (config.importRow header row).values.map (·.1) =
    (config.importRow header row).names.map (·.1)
  values : ∀ value ∈ (config.importRow header row).values,
    Gives (config.importRow header row).binds (config.fieldOf header row value.1) value.2
  files : (config.importRow header row).names.filter (·.1.isFile) =
    (List.range header.length).filterMap fun column =>
      (config.written (config.mappedName (header.getD column []))).map fun name =>
        (.file column, name)
  primaryKey : ∀ key, config.primaryKey = some key →
    ∃ name, config.written (config.mappedName key.name) = some name ∧
      (config.importRow header row).names[key.index]? = some (.primaryKey, name)
  static : ∀ index value, config.staticAt index = some value →
    ∃ name, config.written (config.mappedName value.name) = some name ∧
      (config.importRow header row).names[index]? = some (.static index, name)

/-- A column that the file does not have is not ignored.  A column of the file goes behind it, and none
that is ignored goes before it. -/
structure Placed (index : Nat) (name : List Byte) : Prop where
  named : config.written (config.mappedName name) ≠ none
  behind : config.filesBefore index < header.length
  before : ∀ column ∈ header.take (config.filesBefore index),
    config.written (config.mappedName column) ≠ none

/-- Mapping a name again does not change it, and every column that the file does not have gets its
turn. -/
structure Aligned : Prop where
  once : ∀ name ∈ header, config.written (config.mappedName (config.mappedName name)) =
    config.written (config.mappedName name)
  apart : config.Apart
  primaryKey : ∀ key, config.primaryKey = some key → config.Placed header key.index key.name
  static : ∀ index value, config.staticAt index = some value →
    config.Placed header index value.name

section Exact

variable {config header row}

theorem source_of_named {origin : Origin} {result : Origin × List Byte}
    (named : config.named header origin = some result) : result.1 = origin := by
  simp only [Config.named, Option.map_eq_some_iff] at named
  cases named with
  | intro name found => rw [← found.2]

theorem files_iff :
    ((config.importRow header row).names.filter (·.1.isFile) =
      (List.range header.length).filterMap fun column =>
        (config.written (config.mappedName (header.getD column []))).map fun name =>
          (Origin.file column, name)) ↔
      ∀ name ∈ header, config.written (config.mappedName (config.mappedName name)) =
        config.written (config.mappedName name) := by
  have files : (config.importRow header row).names.filter (·.1.isFile) =
      (List.range header.length).filterMap fun column => config.named header (.file column) := by
    have keeps : (config.slots header.length).filterMap
        (fun origin => (config.named header origin).filter (·.1.isFile)) =
        ((config.slots header.length).filter Origin.isFile).filterMap (config.named header) := by
      rw [List.filterMap_filter]
      apply List.filterMap_congr
      intro origin _
      cases named : config.named header origin with
      | none => simp
      | some result =>
        have same := source_of_named named
        cases file : origin.isFile with
        | true => simp [same, file]
        | false => simp [same, file]
    rw [names_importRow, List.filter_filterMap, keeps, filter_slots, List.filterMap_map]
    rfl
  rw [files, Kept.filterMap_eq_iff]
  · constructor
    · intro same name member
      cases List.mem_iff_getElem?.mp member with
      | intro column found =>
        have lt := (List.getElem?_eq_some_iff.mp found).1
        have here := same column (List.mem_range.mpr lt)
        simp only [named, nameOf, List.getD_eq_getElem?_getD, found, Option.getD_some] at here
        exact Option.map_injective (fun _ _ same => (Prod.mk.inj same).2) here
    · intro once column member
      have lt := List.mem_range.mp member
      have there : header.getD column [] ∈ header := by
        rw [List.getD_eq_getElem?_getD, List.getElem?_eq_getElem lt]
        exact List.getElem_mem lt
      simp only [named, nameOf, once _ there]
  · intro column other result first second
    have same := source_of_named first
    simp only [Option.map_eq_some_iff] at second
    cases second with
    | intro name found =>
      rw [← found.2] at same
      exact (Origin.file.inj same).symm

/-- A column is at this index of the layout, and neither it nor a column before it is ignored. -/
structure There (config : Config) (header : List (List Byte)) (index : Nat) (origin : Origin)
    (name : List Byte) : Prop where
  found : (config.slots header.length)[index]? = some origin
  kept : config.named header origin = some (origin, name)
  before : ∀ other, other < index → ∀ origin,
    (config.slots header.length)[other]? = some origin → config.named header origin ≠ none

theorem There.names {index : Nat} {origin : Origin} {name : List Byte}
    (there : There config header index origin name) :
    (config.importRow header row).names[index]? = some (origin, name) := by
  rw [names_importRow]
  exact Kept.getElem?_filterMap_of_kept there.found there.kept there.before

/-- A column that has one index only is at that index of the layout. -/
theorem There.of_names {index : Nat} {origin : Origin} {name : List Byte}
    (only : ∀ place, config.Belongs place origin → place = index)
    (found : (config.importRow header row).names[index]? = some (origin, name)) :
    There config header index origin name := by
  rw [names_importRow] at found
  cases Kept.exists_of_getElem?_filterMap found with
  | intro place kept =>
    cases kept with
    | intro item kept =>
      have same : origin = item := source_of_named kept.2.1
      subst same
      have belongs := belongs_slotsFrom kept.1
      rw [Nat.zero_add] at belongs
      have here := only place belongs
      subst here
      exact ⟨kept.1, kept.2.1, kept.2.2.2 rfl⟩

theorem eq_of_belongs_primaryKey {key : PrimaryKey} (configured : config.primaryKey = some key)
    (place : Nat) (belongs : config.Belongs place .primaryKey) : place = key.index := by
  cases Option.isSome_iff_exists.mp belongs with
  | intro other found =>
    have here := keyAt_eq_some.mp found
    rw [configured, Option.some.injEq] at here
    rw [here.1, here.2]

theorem eq_of_belongs_static {index : Nat} (place : Nat)
    (belongs : config.Belongs place (.static index)) : place = index :=
  belongs.1.symm

/-- Each column of the file that goes before an index is at one before it. -/
theorem exists_filesBefore_eq {column index : Nat} (lt : column < config.filesBefore index) :
    ∃ place, place < index ∧ config.isExtra place = false ∧ config.filesBefore place = column := by
  induction index with
  | zero => simp [filesBefore] at lt
  | succ index induction =>
    cases extra : config.isExtra index with
    | true =>
      simp only [filesBefore_succ, extra, Bool.true_eq_false, if_false, Nat.add_zero] at lt
      cases induction lt with
      | intro place found => exact ⟨place, Nat.lt_succ_of_lt found.1, found.2⟩
    | false =>
      simp only [filesBefore_succ, extra, if_true] at lt
      cases Nat.lt_or_eq_of_le (Nat.le_of_lt_succ lt) with
      | inl less =>
        cases induction less with
        | intro place found => exact ⟨place, Nat.lt_succ_of_lt found.1, found.2⟩
      | inr same => exact ⟨index, Nat.lt_succ_self index, extra, same.symm⟩

theorem layoutAt_of_file {index : Nat} (file : config.isExtra index = false) :
    config.layoutAt index = .file (config.filesBefore index) := by
  simp only [isExtra, Bool.or_eq_false_iff] at file
  simp [layoutAt, file.1, file.2]

/-- A column that is there has been placed. -/
theorem Placed.of_there (apart : config.Apart)
    (once : ∀ name ∈ header, config.written (config.mappedName (config.mappedName name)) =
      config.written (config.mappedName name))
    {index : Nat} {origin : Origin} {name own : List Byte}
    (there : There config header index origin name)
    (named : config.written (config.mappedName own) = some name) :
    config.Placed header index own := by
  have behind : config.filesBefore index < header.length :=
    apart.lt_length_slots.mp (List.getElem?_eq_some_iff.mp there.found).1
  constructor
  · simp [named]
  · exact behind
  · intro column member
    cases List.mem_iff_getElem?.mp member with
    | intro number found =>
      rw [List.getElem?_take] at found
      cases Nat.lt_or_ge number (config.filesBefore index) with
      | inr ge => simp [Nat.not_lt.mpr ge] at found
      | inl less =>
        simp only [less, if_true] at found
        cases exists_filesBefore_eq less with
        | intro place before =>
          have slot : (config.slots header.length)[place]? = some (.file number) := by
            rw [apart.getElem?_slots (by omega), layoutAt_of_file before.2.1, before.2.2]
          have kept := there.before place before.1 _ slot
          simp only [Config.named, nameOf, List.getD_eq_getElem?_getD, found, Option.getD_some,
            once column (List.mem_of_getElem? found)] at kept
          intro ignored
          simp [ignored] at kept

/-- A column that has been placed is there. -/
theorem Aligned.there (aligned : config.Aligned header) {index : Nat} {name own : List Byte}
    (placed : config.Placed header index own)
    (nameOf : config.nameOf header (config.layoutAt index) = own)
    (named : config.written (config.mappedName own) = some name) :
    There config header index (config.layoutAt index) name := by
  constructor
  · exact aligned.apart.getElem?_slots placed.behind
  · simp [Config.named, nameOf, named]
  · intro other less origin found
    have behind : config.filesBefore other < header.length :=
      Nat.lt_of_le_of_lt (filesBefore_mono (Nat.le_of_lt less)) placed.behind
    rw [aligned.apart.getElem?_slots behind, Option.some.injEq] at found
    rw [← found]
    cases key : config.keyAt other with
    | some key' =>
      have here := keyAt_eq_some.mp key
      have kept := (aligned.primaryKey key' here.1).named
      simpa [layoutAt, key, Config.named, Config.nameOf, here.1] using kept
    | none =>
      cases static : config.staticAt other with
      | some value =>
        have kept := (aligned.static other value static).named
        simpa [layoutAt, key, static, Config.named, Config.nameOf] using kept
      | none =>
        have file : config.isExtra other = false := by simp [isExtra, key, static]
        have before : config.filesBefore other < config.filesBefore index := by
          have later : config.filesBefore (other + 1) ≤ config.filesBefore index :=
            filesBefore_mono (Nat.succ_le_of_lt less)
          simp only [filesBefore_succ, file, if_true] at later
          omega
        have there : header.getD (config.filesBefore other) [] ∈
            header.take (config.filesBefore index) := by
          rw [List.getD_eq_getElem?_getD, List.getElem?_eq_getElem behind]
          exact List.mem_take_iff_getElem.mpr ⟨config.filesBefore other, by omega, rfl⟩
        have kept := placed.before _ there
        rw [← aligned.once _ (List.mem_of_mem_take there)] at kept
        rw [layoutAt_of_file file]
        simpa [Config.named, Config.nameOf] using kept

theorem Aligned.pairs (same : row.length = header.length) (aligned : config.Aligned header) :
    config.Pairs header row := by
  have values := @values_importRow config header row same
  constructor
  · exact values.1
  · exact values.2
  · exact files_iff.mpr aligned.once
  · intro key configured
    have placed := aligned.primaryKey key configured
    have here : config.keyAt key.index = some key := keyAt_eq_some.mpr ⟨configured, rfl⟩
    have layout : config.layoutAt key.index = .primaryKey := by simp [layoutAt, here]
    cases Option.ne_none_iff_exists'.mp placed.named with
    | intro name named =>
      have there := aligned.there placed (by simp [layout, nameOf, configured]) named
      rw [layout] at there
      exact ⟨name, named, there.names⟩
  · intro index value configured
    have placed := aligned.static index value configured
    have static : (config.staticAt index).isSome := by simp [configured]
    have layout : config.layoutAt index = .static index := by
      simp [layoutAt, aligned.apart.keyAt_eq_none static, static]
    cases Option.ne_none_iff_exists'.mp placed.named with
    | intro name named =>
      have there := aligned.there placed (by simp [layout, nameOf, configured]) named
      rw [layout] at there
      exact ⟨name, named, there.names⟩

theorem Pairs.there_primaryKey (pairs : config.Pairs header row) {key : PrimaryKey}
    (configured : config.primaryKey = some key) :
    ∃ name, config.written (config.mappedName key.name) = some name ∧
      There config header key.index .primaryKey name := by
  cases pairs.primaryKey key configured with
  | intro name found =>
    exact ⟨name, found.1, There.of_names (eq_of_belongs_primaryKey configured) found.2⟩

theorem Pairs.there_static (pairs : config.Pairs header row) {index : Nat} {value : StaticValue}
    (configured : config.staticAt index = some value) :
    ∃ name, config.written (config.mappedName value.name) = some name ∧
      There config header index (.static index) name := by
  cases pairs.static index value configured with
  | intro name found => exact ⟨name, found.1, There.of_names eq_of_belongs_static found.2⟩

/-- A static value would be in the way of the primary key. -/
theorem Pairs.apart (pairs : config.Pairs header row) : config.Apart := by
  constructor
  · intro key configured
    cases static : config.staticAt key.index with
    | none => rfl
    | some value =>
      cases pairs.there_primaryKey configured with
      | intro name first =>
        cases pairs.there_static static with
        | intro other second =>
          have same := first.2.found.symm.trans second.2.found
          cases same
  · intro key index configured next
    cases static : config.staticAt index with
    | none => rfl
    | some value =>
      cases pairs.there_primaryKey configured with
      | intro name second =>
        cases pairs.there_static static with
        | intro other first =>
          have found := second.2.found
          rw [← next] at found
          have file := follows_slots first.2.found found rfl
          cases file

end Exact

/-- The insert statement of a row pairs every value with its column if and only if mapping names twice
makes no difference and every column that the file does not have gets its turn. -/
theorem pairs_iff (same : row.length = header.length) :
    config.Pairs header row ↔ config.Aligned header := by
  constructor
  · intro pairs
    have once := files_iff.mp pairs.files
    constructor
    · exact once
    · exact pairs.apart
    · intro key configured
      cases pairs.there_primaryKey configured with
      | intro name there => exact Placed.of_there pairs.apart once there.2 there.1
    · intro index value configured
      cases pairs.there_static configured with
      | intro name there => exact Placed.of_there pairs.apart once there.2 there.1
  · intro aligned
    exact aligned.pairs same

/-- Values that are written as they are. -/
def verbatim : Format := ⟨id, fun _ => true, none, false⟩

/-- A key before the two columns of the file, and a static value between them. -/
def contacts : Config where
  primaryKey := some ⟨ascii "id", 0, some (ascii "ids")⟩
  staticValues := [(2, ⟨ascii "source", some (ascii "import")⟩)]
  distinct := List.nodup_singleton 2
  columnMap := fun _ => none
  fieldMap := fun _ => none
  ignoreColumnsWithEmptyNames := false
  nameCase := .mixed
  format := verbatim
  columnType := fun _ => .other
  nextval := id

theorem pairs_iff_contacts :
    [ascii "Ann", ascii "555"].length = [ascii "name", ascii "phone"].length ∧
      (contacts.Pairs [ascii "name", ascii "phone"] [ascii "Ann", ascii "555"] ↔
        contacts.Aligned [ascii "name", ascii "phone"]) :=
  ⟨rfl, pairs_iff contacts _ _ rfl⟩

/-- The names of two columns are swapped. -/
def swapped : Config where
  primaryKey := none
  staticValues := []
  distinct := List.nodup_nil
  columnMap := fun name =>
    if name = ascii "a" then some (ascii "b")
    else if name = ascii "b" then some (ascii "a")
    else none
  fieldMap := fun _ => none
  ignoreColumnsWithEmptyNames := false
  nameCase := .mixed
  format := verbatim
  columnType := fun _ => .other
  nextval := id

/-- The columns are swapped, and swapped back. -/
theorem not_pairs_swapped :
    ¬∀ (config : Config) (header row : List (List Byte)), row.length = header.length →
      config.Pairs header row := by
  intro claim
  have files := (claim swapped [ascii "a", ascii "b"] [ascii "1", ascii "2"] rfl).files
  revert files
  decide

end SqlRelay.Import.Config
