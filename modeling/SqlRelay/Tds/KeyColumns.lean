import SqlRelay.Tds.Positioned

/-!
# Reading the key columns

The names of the key columns go through a buffer in which they are separated by nulls, and are counted with
16 bits.  All of them come out of it again just when all of them are read and can be told apart there.
-/

namespace SqlRelay.Tds

open SqlRelay.Foundation SqlRelay.Foundation.CString

/-- The names that are taken out of the buffer. -/
def keyNames : Nat → List Byte → List (List Byte)
  | 0, _ => []
  | count + 1, buffer =>
      contents buffer :: keyNames count (buffer.drop ((contents buffer).length + 1))

@[simp]
theorem length_keyNames (count : Nat) (buffer : List Byte) :
    (keyNames count buffer).length = count := by
  induction count generalizing buffer with
  | zero => rfl
  | succ count induction => simp [keyNames, induction]

theorem zero_notMem_of_mem_keyNames {count : Nat} {buffer name : List Byte}
    (member : name ∈ keyNames count buffer) : 0 ∉ name := by
  induction count generalizing buffer with
  | zero => cases member
  | succ count induction =>
    rw [keyNames, List.mem_cons] at member
    cases member with
    | inl first =>
      rw [first]
      exact zero_notMem_contents buffer
    | inr later => exact induction later

/-- Names behind the first, each with the null before it. -/
theorem keyNames_flatMap {names : List (List Byte)} (noNul : ∀ name ∈ names, 0 ∉ name)
    {first : List Byte} (first_noNul : 0 ∉ first) :
    keyNames (names.length + 1) (first ++ names.flatMap (0 :: ·)) = first :: names := by
  induction names generalizing first with
  | nil =>
    rw [List.flatMap_nil, List.append_nil, List.length_nil, keyNames,
      contents_eq_self first_noNul, keyNames]
  | cons name names induction =>
    have later := induction (fun other member => noNul other (List.mem_cons_of_mem _ member))
      (noNul name List.mem_cons_self)
    have start : contents (first ++ (name :: names).flatMap (0 :: ·)) = first := by
      rw [contents, List.flatMap_cons, List.cons_append, List.takeWhile_append_of_pos]
      · simp
      · intro byte member
        simp only [bne_iff_ne]
        intro zero
        exact first_noNul (zero ▸ member)
    have rest : (first ++ (name :: names).flatMap (0 :: ·)).drop (first.length + 1) =
        name ++ names.flatMap (0 :: ·) := by
      rw [← List.drop_drop, List.drop_left, List.flatMap_cons]
      rfl
    rw [keyNames, start, rest, List.length_cons, later]

namespace KeyCols

theorem count_foldl (names : List (List Byte)) (keycols : KeyCols) :
    (names.foldl append keycols).count % 65536 = (keycols.count + names.length) % 65536 := by
  induction names generalizing keycols with
  | nil => rfl
  | cons name names induction =>
    rw [List.foldl_cons, induction, List.length_cons]
    simp only [append]
    omega

theorem count_lt (names : List (List Byte)) (keycols : KeyCols) (less : keycols.count < 65536) :
    (names.foldl append keycols).count < 65536 := by
  induction names generalizing keycols with
  | nil => exact less
  | cons name names induction =>
    apply induction
    exact Nat.mod_lt _ (by decide)

/-- As long as the number does not wrap, every name gets a null before it. -/
theorem buffer_foldl (names : List (List Byte)) (keycols : KeyCols) (some : keycols.count ≠ 0)
    (fits : keycols.count + names.length < 65536) :
    (names.foldl append keycols).buffer = keycols.buffer ++ names.flatMap (0 :: ·) := by
  induction names generalizing keycols with
  | nil => simp
  | cons name names induction =>
    rw [List.length_cons] at fits
    have next : (keycols.append name).count = keycols.count + 1 :=
      Nat.mod_eq_of_lt (by omega)
    rw [List.foldl_cons, induction (keycols.append name) (by omega) (by omega)]
    simp [append, some]

end KeyCols

namespace KeyList

/-- The names that go into the buffer. -/
def fetchedNames (keys : KeyList) : List (List Byte) :=
  if keys.listed then
    ((keys.columns.take keys.fetched).filter fun column =>
      column.reads = true ∧ column.name ≠ []).map (·.name)
  else []

/-- The names that come out of it. -/
def names (keys : KeyList) : List (List Byte) := keyNames keys.read.count keys.read.buffer

/-- The whole list is read, and its names are such that they can be kept in one buffer. -/
structure Readable (keys : KeyList) : Prop where
  fetched : keys.columns.length ≤ keys.fetched
  reads : ∀ column ∈ keys.columns, column.reads = true
  named : ∀ column ∈ keys.columns, column.name ≠ []
  noNul : ∀ column ∈ keys.columns, 0 ∉ column.name
  counted : keys.columns.length < 65536

theorem read_eq (keys : KeyList) :
    keys.read = keys.fetchedNames.foldl KeyCols.append ⟨[], 0⟩ := by
  rw [read, fetchedNames]
  split
  · rw [List.foldl_map, List.foldl_filter]
    simp
  · rfl

theorem count_read (keys : KeyList) : keys.read.count = keys.fetchedNames.length % 65536 := by
  have less := KeyCols.count_lt keys.fetchedNames ⟨[], 0⟩ (by decide)
  have counted := KeyCols.count_foldl keys.fetchedNames ⟨[], 0⟩
  rw [read_eq, ← Nat.mod_eq_of_lt less, counted, Nat.zero_add]

/-- Names that can be kept come out as they went in. -/
theorem names_eq_fetchedNames {keys : KeyList} (noNul : ∀ name ∈ keys.fetchedNames, 0 ∉ name)
    (counted : keys.fetchedNames.length < 65536) : keys.names = keys.fetchedNames := by
  have count := keys.count_read
  rw [Nat.mod_eq_of_lt counted] at count
  rw [names, count, read_eq]
  cases fetched : keys.fetchedNames with
  | nil => rfl
  | cons name others =>
    rw [fetched] at noNul counted
    have starts : KeyCols.append ⟨[], 0⟩ name = ⟨name, 1⟩ := rfl
    rw [List.foldl_cons, starts, KeyCols.buffer_foldl others ⟨name, 1⟩ Nat.one_ne_zero
      (by rw [Nat.add_comm]; exact counted)]
    exact keyNames_flatMap (fun other member => noNul other (List.mem_cons_of_mem _ member))
      (noNul name List.mem_cons_self)

theorem length_names_le (keys : KeyList) : keys.names.length ≤ keys.fetchedNames.length := by
  rw [names, length_keyNames, count_read]
  exact Nat.mod_le _ _

theorem fetchedNames_sublist (keys : KeyList) :
    keys.fetchedNames.Sublist ((keys.columns.take keys.fetched).map (·.name)) := by
  rw [fetchedNames]
  split
  · exact List.filter_sublist.map _
  · exact List.nil_sublist _

/-- When there is a name at all, they are all of the key if and only if the whole list is read. -/
theorem names_eq_iff {keys : KeyList} (some : keys.names ≠ []) :
    keys.names = keys.columns.map (·.name) ↔ keys.Readable := by
  have listed : keys.listed = true := by
    cases given : keys.listed with
    | true => rfl
    | false =>
      have none : keys.fetchedNames = [] := by simp [fetchedNames, given]
      have short := keys.length_names_le
      rw [none] at short
      exact absurd (List.length_eq_zero_iff.mp (Nat.le_zero.mp short)) some
  constructor
  · intro all
    have length : keys.names.length = keys.columns.length := by rw [all, List.length_map]
    have fewer := keys.length_names_le
    have taken := keys.fetchedNames_sublist.length_le
    rw [List.length_map, List.length_take] at taken
    have counted : keys.names.length < 65536 := by
      rw [names, length_keyNames, count_read]
      exact Nat.mod_lt _ (by decide)
    have whole : keys.columns.take keys.fetched = keys.columns :=
      List.take_of_length_le (by omega)
    have kept : (keys.columns.filter fun column => column.reads = true ∧ column.name ≠ []).length =
        keys.columns.length := by
      have filtered : keys.fetchedNames.length =
          (keys.columns.filter fun column => column.reads = true ∧ column.name ≠ []).length := by
        rw [fetchedNames, if_pos listed, whole, List.length_map]
      omega
    have each := List.length_filter_eq_length_iff.mp kept
    simp only [decide_eq_true_eq] at each
    constructor
    · omega
    · intro column member
      exact (each column member).1
    · intro column member
      exact (each column member).2
    · intro column member
      have there : column.name ∈ keys.names := all ▸ List.mem_map.mpr ⟨column, member, rfl⟩
      exact zero_notMem_of_mem_keyNames there
    · omega
  · intro readable
    have fetched : keys.fetchedNames = keys.columns.map (·.name) := by
      rw [fetchedNames, if_pos listed, List.take_of_length_le readable.fetched,
        List.filter_eq_self.mpr]
      intro column member
      simp [readable.reads column member, readable.named column member]
    rw [names_eq_fetchedNames, fetched]
    · intro name member
      rw [fetched, List.mem_map] at member
      cases member with
      | intro column found => exact found.2 ▸ readable.noNul column found.1
    · rw [fetched, List.length_map]
      exact readable.counted

end KeyList

end SqlRelay.Tds
