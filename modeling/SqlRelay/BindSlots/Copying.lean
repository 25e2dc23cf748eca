import SqlRelay.BindSlots.Slot

/-!
# Copying binds

`copyInputBinds`, `copyOutputBinds` and `copyInputOutputBinds` append the binds of a cursor to those of
another one, as many as there is room for.  A slot is copied byte by byte, and then the texts that it points
to are copied, names and strings as C strings.
-/

namespace SqlRelay.BindSlots

open SqlRelay.Foundation

/-! ## The source -/

/-- The slots of a cursor for one kind of binds, the first of which are in use. -/
structure BindArray (maxbindcount : Nat) where
  slots : List Slot
  count : Nat
  length_slots : slots.length = maxbindcount
  count_le : count ≤ maxbindcount

/-- The binds that are in use. -/
def BindArray.bound {maxbindcount : Nat} (binds : BindArray maxbindcount) : List Slot :=
  binds.slots.take binds.count

structure Cursor (maxbindcount : Nat) where
  input : BindArray maxbindcount
  output : BindArray maxbindcount
  inputOutput : BindArray maxbindcount
  bindpool : MemoryPool

/-- `copyBind`.  The name and the value of a copy are as long as they were. -/
def copyBind (source : Slot) (pool : MemoryPool) : Slot × MemoryPool :=
  let (variable_, pool) := pool.allocate (source.name.length + 1)
  let dest := { source with name := (variable_.copy source.name).memory.take source.name.length }
  match source.type with
  | .string | .array =>
      let (stringval, pool) := pool.allocate (source.valuesize.toNat + 1)
      ({ dest with value := { source.value with first := stringval.copy source.value.first.memory } }, pool)
  | .date =>
      match source.value.tz with
      | none => (dest, pool)
      | some sourcetz =>
          let (tz, pool) := pool.allocate ((CString.contents sourcetz).length + 1)
          ({ dest with value := { source.value with tz := some (tz.copy sourcetz).memory } }, pool)
  | _ => (dest, pool)

/-- The loop: the slots, the index of the next one, and the pool, and whether all binds have been copied. -/
def copyLoop (maxbindcount : Nat) : List Slot → List Slot → Nat → MemoryPool →
    Bool × List Slot × Nat × MemoryPool
  | [], slots, destindex, pool => (true, slots, destindex, pool)
  | source :: sources, slots, destindex, pool =>
      if destindex < maxbindcount then
        let (copy, pool) := copyBind source pool
        copyLoop maxbindcount sources (slots.set destindex copy) (destindex + 1) pool
      else (false, slots, destindex, pool)

theorem length_copyLoop {maxbindcount : Nat} (sources slots : List Slot) (destindex : Nat)
    (pool : MemoryPool) :
    (copyLoop maxbindcount sources slots destindex pool).2.1.length = slots.length := by
  induction sources generalizing slots destindex pool with
  | nil => rfl
  | cons source sources ih =>
      rw [copyLoop]
      split
      · rw [ih, List.length_set]
      · rfl

theorem copyLoop_count {maxbindcount : Nat} (sources slots : List Slot) {destindex : Nat}
    (within : destindex ≤ maxbindcount) (pool : MemoryPool) :
    (copyLoop maxbindcount sources slots destindex pool).2.2.1 =
      min maxbindcount (destindex + sources.length) := by
  induction sources generalizing slots destindex pool with
  | nil =>
      change destindex = min maxbindcount (destindex + 0)
      omega
  | cons source sources ih =>
      rw [copyLoop, List.length_cons]
      split
      case isTrue room =>
        rw [ih _ room]
        omega
      case isFalse full =>
        dsimp only
        omega

namespace Cursor

variable {maxbindcount : Nat}

/-- The binds of one kind of the source, appended to those of the destination. -/
def copyBinds (source dest : BindArray maxbindcount) (pool : MemoryPool) :
    Bool × BindArray maxbindcount × MemoryPool :=
  let copied := copyLoop maxbindcount source.bound dest.slots dest.count pool
  (copied.1,
    { slots := copied.2.1
      count := copied.2.2.1
      length_slots := (length_copyLoop _ _ _ _).trans dest.length_slots
      count_le := by
        rw [copyLoop_count _ _ dest.count_le]
        exact Nat.min_le_left _ _ },
    copied.2.2.2)

def copyInputBinds (sourcecur destcur : Cursor maxbindcount) : Bool × Cursor maxbindcount :=
  let (all, input, bindpool) := copyBinds sourcecur.input destcur.input destcur.bindpool
  (all, { destcur with input, bindpool })

def copyOutputBinds (sourcecur destcur : Cursor maxbindcount) : Bool × Cursor maxbindcount :=
  let (all, output, bindpool) := copyBinds sourcecur.output destcur.output destcur.bindpool
  (all, { destcur with output, bindpool })

def copyInputOutputBinds (sourcecur destcur : Cursor maxbindcount) : Bool × Cursor maxbindcount :=
  let (all, inputOutput, bindpool) :=
    copyBinds sourcecur.inputOutput destcur.inputOutput destcur.bindpool
  (all, { destcur with inputOutput, bindpool })

end Cursor

/-! ## One bind -/

/-- No byte but perhaps the last one is a NUL. -/
def Plain (text : List Byte) : Prop := 0 ∉ text.dropLast

/-- A string or an array has a terminator behind a plain text of its size. -/
def Slot.PlainValue (slot : Slot) : Prop :=
  slot.type = .string ∨ slot.type = .array →
    ∃ text rest, slot.value.first.memory = text ++ 0 :: rest ∧ text.length = slot.valuesize.toNat ∧
      Plain text

/-- The copy of a bind, as far as nothing depends on what its texts are. -/
structure Slot.CopyOf (source copy : Slot) : Prop where
  type : copy.type = source.type
  valuesize : copy.valuesize = source.valuesize
  isnull : copy.isnull = source.isnull
  segmentlengths : copy.segmentlengths = source.segmentlengths
  name : Plain source.name → copy.name = source.name
  value : source.PlainValue → copy.view = source.view

/-- What is copied of a plain text is all of it. -/
theorem take_copy {text source : List Byte} (plain : Plain text)
    (same : CString.contents source = CString.contents text) (pointer : Pointer) :
    (pointer.copy source).memory.take text.length = text := by
  rw [Pointer.copy, Pointer.memory_write, same]
  by_cases empty : text = []
  · rw [empty]
    rfl
  · have split := List.dropLast_append_getLast empty
    rw [← split, CString.contents_append plain, CString.contents_cons, CString.contents_nil]
    split
    case isTrue nul =>
      rw [nul, List.append_nil]
      exact List.take_left' (by simp)
    case isFalse notNul =>
      rw [List.append_assoc]
      exact List.take_left' (by simp)

theorem contents_terminated (text rest : List Byte) :
    CString.contents (text ++ 0 :: rest) = CString.contents text := by
  induction text with
  | nil => rfl
  | cons byte text ih => rw [List.cons_append, CString.contents_cons, CString.contents_cons, ih]

/-- The copy of a C string is the same C string. -/
theorem contents_copy (pointer : Pointer) (source : List Byte) :
    CString.contents (pointer.copy source).memory = CString.contents source := by
  have noNul := CString.zero_notMem_contents source
  rw [Pointer.copy, Pointer.memory_write, List.append_assoc, List.singleton_append, contents_terminated,
    CString.contents_eq_self noNul]

/-- What `copyBind` changes: the name, and the texts of the value. -/
theorem copyBind_eq (source : Slot) (pool : MemoryPool) :
    ∃ value, (copyBind source pool).1 = { source with
      name := ((pool.allocate (source.name.length + 1)).1.copy source.name).memory.take
        source.name.length
      value } ∧
      (source.PlainValue → ({ source with value } : Slot).view = source.view) := by
  unfold copyBind
  cases type : source.type with
  | string | array =>
      refine ⟨_, rfl, ?_⟩
      intro plain
      obtain ⟨text, rest, memory, size, plain⟩ := plain (by simp [type])
      have whole := (take_copy plain (contents_terminated text rest)
        ((pool.allocate (source.name.length + 1)).2.allocate (source.valuesize.toNat + 1)).1)
      rw [size] at whole
      simp only [Slot.view, type, memory]
      rw [whole, ← size, List.take_left]
  | date =>
      cases tz : source.value.tz with
      | none =>
          refine ⟨source.value, rfl, ?_⟩
          intro _
          rw [← type]
      | some sourcetz =>
          refine ⟨_, rfl, ?_⟩
          intro _
          simp [Slot.view, type, tz, contents_copy]
  | _ =>
      refine ⟨source.value, rfl, ?_⟩
      intro _
      rw [← type]

theorem copyBind_copyOf (source : Slot) (pool : MemoryPool) : source.CopyOf (copyBind source pool).1 := by
  obtain ⟨value, copied, same⟩ := copyBind_eq source pool
  rw [copied]
  exact ⟨rfl, rfl, rfl, rfl, fun plain => take_copy plain rfl _, same⟩

/-! ## A list of binds -/

section Loop

variable {maxbindcount : Nat} (sources slots : List Slot) {destindex : Nat} (pool : MemoryPool)

theorem copyLoop_all (within : destindex ≤ maxbindcount) :
    (copyLoop maxbindcount sources slots destindex pool).1 = true ↔
      destindex + sources.length ≤ maxbindcount := by
  induction sources generalizing slots destindex pool with
  | nil => simp [copyLoop, within]
  | cons source sources ih =>
      rw [copyLoop, List.length_cons]
      split
      case isTrue room =>
        rw [ih _ _ room]
        omega
      case isFalse full =>
        have tooMany : ¬ destindex + (sources.length + 1) ≤ maxbindcount := by omega
        simp [tooMany]

theorem copyLoop_kept {position : Nat} (outside : position < destindex ∨ destindex + sources.length ≤ position) :
    (copyLoop maxbindcount sources slots destindex pool).2.1[position]? = slots[position]? := by
  induction sources generalizing slots destindex pool with
  | nil => rfl
  | cons source sources ih =>
      rw [List.length_cons] at outside
      rw [copyLoop]
      split
      · rw [ih _ _ (by omega), List.getElem?_set_ne (by omega)]
      · rfl

theorem copyLoop_copied (enough : maxbindcount ≤ slots.length) {index : Nat} {source : Slot}
    (found : sources[index]? = some source) (room : destindex + index < maxbindcount) :
    ∃ copy, (copyLoop maxbindcount sources slots destindex pool).2.1[destindex + index]? = some copy ∧
      source.CopyOf copy := by
  induction sources generalizing slots destindex pool index with
  | nil => cases found
  | cons first sources ih =>
      rw [copyLoop, if_pos (by omega)]
      cases index with
      | zero =>
          cases found
          refine ⟨(copyBind source pool).1, ?_, copyBind_copyOf source pool⟩
          rw [copyLoop_kept _ _ _ (.inl (by omega))]
          exact List.getElem?_set_self (by omega)
      | succ index =>
          rw [List.getElem?_cons_succ] at found
          have copied := @ih (slots.set destindex (copyBind first pool).1) (destindex + 1)
            (copyBind first pool).2 (by rwa [List.length_set]) index found (by omega)
          rwa [show destindex + (index + 1) = destindex + 1 + index by omega]

end Loop

namespace Cursor

variable {maxbindcount : Nat}

/-- What a call that copies binds does to those of its kind. -/
structure Appends (source before after : BindArray maxbindcount) (all : Bool) : Prop where
  count : after.count = min maxbindcount (before.count + source.count)
  all : all = true ↔ before.count + source.count ≤ maxbindcount
  copied : ∀ index bind, source.bound[index]? = some bind → before.count + index < maxbindcount →
    ∃ copy, after.slots[before.count + index]? = some copy ∧ bind.CopyOf copy
  kept : ∀ position, position < before.count ∨ before.count + source.count ≤ position →
    after.slots[position]? = before.slots[position]?

theorem length_bound (binds : BindArray maxbindcount) : binds.bound.length = binds.count := by
  rw [BindArray.bound, List.length_take, binds.length_slots]
  exact Nat.min_eq_left binds.count_le

theorem copyBinds_appends (source dest : BindArray maxbindcount) (pool : MemoryPool) :
    Appends source dest (copyBinds source dest pool).2.1 (copyBinds source dest pool).1 where
  count := by
    rw [← length_bound source]
    exact copyLoop_count _ _ dest.count_le _
  all := by
    rw [← length_bound source]
    exact copyLoop_all _ _ _ dest.count_le
  copied := fun _ _ found room => 
    copyLoop_copied _ _ _ (Nat.le_of_eq dest.length_slots.symm) found room
  kept := by
    intro position outside
    rw [← length_bound source] at outside
    exact copyLoop_kept _ _ _ outside

/-- The binds are appended in order as long as there is room, each with its name and value as long as these
are plain; the binds of the other kinds stay. -/
theorem copies_binds (sourcecur destcur : Cursor maxbindcount) :
    (Appends sourcecur.input destcur.input (copyInputBinds sourcecur destcur).2.input
        (copyInputBinds sourcecur destcur).1 ∧
      (copyInputBinds sourcecur destcur).2.output = destcur.output ∧
      (copyInputBinds sourcecur destcur).2.inputOutput = destcur.inputOutput) ∧
    (Appends sourcecur.output destcur.output (copyOutputBinds sourcecur destcur).2.output
        (copyOutputBinds sourcecur destcur).1 ∧
      (copyOutputBinds sourcecur destcur).2.input = destcur.input ∧
      (copyOutputBinds sourcecur destcur).2.inputOutput = destcur.inputOutput) ∧
    (Appends sourcecur.inputOutput destcur.inputOutput
        (copyInputOutputBinds sourcecur destcur).2.inputOutput
        (copyInputOutputBinds sourcecur destcur).1 ∧
      (copyInputOutputBinds sourcecur destcur).2.input = destcur.input ∧
      (copyInputOutputBinds sourcecur destcur).2.output = destcur.output) := by
  refine ⟨⟨?_, rfl, rfl⟩, ⟨?_, rfl, rfl⟩, ?_, rfl, rfl⟩
  · exact copyBinds_appends sourcecur.input destcur.input destcur.bindpool
  · exact copyBinds_appends sourcecur.output destcur.output destcur.bindpool
  · exact copyBinds_appends sourcecur.inputOutput destcur.inputOutput destcur.bindpool

/-- All binds are copied, whatever they are, or the destination stays as it was. -/
def CopiesOrLeaves (source before after : BindArray maxbindcount) (all : Bool) : Prop :=
  (all = true ∧ after.count = before.count + source.count ∧
    ∀ index bind, source.bound[index]? = some bind → ∃ copy,
      after.slots[before.count + index]? = some copy ∧ copy.name = bind.name ∧ copy.type = bind.type ∧
        copy.isnull = bind.isnull ∧ copy.valuesize = bind.valuesize ∧ copy.view = bind.view) ∨
  (all = false ∧ after.count = before.count ∧ after.slots = before.slots)

/-- An integer of the name `:a`. -/
def integerBind : Slot where
  name := [chr ':', chr 'a']
  type := .integer
  value := ⟨⟨5, []⟩, 0, none, false⟩
  valuesize := 0
  isnull := 0
  segmentlengths := none

/-- A cursor with room for two input binds. -/
def withInputs (count : Nat) (within : count ≤ 2) : Cursor 2 where
  input := ⟨[integerBind, integerBind], count, rfl, within⟩
  output := ⟨[integerBind, integerBind], 0, rfl, Nat.zero_le 2⟩
  inputOutput := ⟨[integerBind, integerBind], 0, rfl, Nat.zero_le 2⟩
  bindpool := ⟨4096, fun _ => 0⟩

/-- The first of two binds is copied although the second one finds no room. -/
theorem not_copiesOrLeaves_twoToOne : ¬ ∀ (maxbindcount : Nat) (sourcecur destcur : Cursor maxbindcount),
    CopiesOrLeaves sourcecur.input destcur.input (copyInputBinds sourcecur destcur).2.input
      (copyInputBinds sourcecur destcur).1 := by
  intro always
  cases always 2 (withInputs 2 (Nat.le_refl 2)) (withInputs 1 (by decide)) with
  | inl copies => exact absurd copies.1 (by decide)
  | inr leaves => exact absurd leaves.2.1 (by decide)

end Cursor

end SqlRelay.BindSlots
