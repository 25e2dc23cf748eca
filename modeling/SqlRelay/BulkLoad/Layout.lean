import SqlRelay.Foundation.ByteOrder
import SqlRelay.Foundation.Memory
import SqlRelay.Query.Classify

/-!
# The shared memory of a bulk load

The process that begins a bulk load puts into a segment of shared memory what the processes that join
it need: the names of the error tables, when to stop, the query, and the format of the data.
-/

namespace SqlRelay.BulkLoad

open SqlRelay.Foundation

/-! ## The source -/

/-- What the controller is configured with, and how its host keeps numbers. -/
structure Controller where
  host : ByteOrder
  maxquerysize : UInt32
  maxbindcount : UInt16

/-- An element of the data format, as a `sqlrserverbindvartype_t` and a size. -/
structure FormatElement where
  type : UInt32
  size : UInt32
  deriving DecidableEq, Repr

/-- A segment that has been begun: what was stored, and where the query and the data format go. -/
structure Begun where
  shmsize : Nat
  stores : List Store
  shmquery : Nat
  shmdataformat : Nat

namespace Controller

variable (controller : Controller)

def shmsize (errorfieldtable errorrowtable : List Byte) : Nat :=
  (CString.contents errorfieldtable).length + 1 + (CString.contents errorrowtable).length + 1 + 8 + 1 +
    controller.maxquerysize.toNat + 1 + 2 + controller.maxbindcount.toNat * (4 + 4)

/-- `bulkLoadBegin`, once there is a segment. -/
def bulkLoadBegin (errorfieldtable errorrowtable : List Byte) (maxerrorcount : UInt64)
    (droperrortables : Bool) : Begun :=
  let field := CString.contents errorfieldtable
  let row := CString.contents errorrowtable
  let second := field.length + 1
  let third := second + row.length + 1
  let fourth := third + 8
  let ptr := fourth + 1
  { shmsize := controller.shmsize errorfieldtable errorrowtable
    stores := [
      ⟨0, List.replicate (controller.maxquerysize + 1).toNat 0⟩,
      ⟨0, field⟩, ⟨field.length, [0]⟩,
      ⟨second, row⟩, ⟨second + row.length, [0]⟩,
      ⟨third, controller.host.write 8 maxerrorcount.toNat⟩,
      ⟨fourth, [if droperrortables then 1 else 0]⟩]
    shmquery := ptr
    shmdataformat := ptr + 8 + controller.maxquerysize.toNat + 1 }

/-- The loop over the elements of the data format. -/
def formatStores (host : ByteOrder) : Nat → List FormatElement → List Store
  | _, [] => []
  | ptr, inbind :: inbinds =>
      ⟨ptr, host.write 4 inbind.type.toNat⟩ :: ⟨ptr + 4, host.write 4 inbind.size.toNat⟩ ::
        formatStores host (ptr + 4 + 4) inbinds

def isInsert (query : List Byte) : Bool :=
  let ptr := Query.skipWhitespaceAndComments query
  CString.startsWithIgnoringCase ptr (ascii "insert") &&
    CString.isWhitespace (CString.peek (ptr.drop 6))

/-- `bulkLoadPrepareQuery`, with what `bulkLoadCreateErrorTables` returns. -/
def bulkLoadPrepareQuery (begun : Begun) (createErrorTables : Bool) (query : List Byte)
    (inbinds : List FormatElement) : Option (List Store) :=
  if isInsert query = false then none
  else if createErrorTables = false then none
  else
    let qptr := begun.shmquery + 8
    some (⟨begun.shmquery, controller.host.write 8 query.length⟩ ::
      ⟨qptr, query⟩ :: ⟨qptr + query.length, [0]⟩ ::
      ⟨begun.shmdataformat, controller.host.write 2 inbinds.length⟩ ::
      formatStores controller.host (begun.shmdataformat + 2) inbinds)

end Controller

/-- What `bulkLoadJoin` finds in the segment; the query and the data format stay there. -/
structure Joined where
  errorfieldtable : List Byte
  errorrowtable : List Byte
  maxerrorcount : Nat
  droperrortables : Bool
  querysize : Nat
  query : Nat
  dataformat : Nat

namespace Controller

variable (controller : Controller)

/-- `bulkLoadJoin`, once it has attached to a segment of this size; nothing is returned if a name does
not end in it. -/
def bulkLoadJoin (memory : Memory) (shmsize : Nat) : Option Joined := do
  let fieldLength ← memory.stringLength 0 shmsize
  let second := fieldLength + 1
  let rowLength ← memory.stringLength second (shmsize - second)
  let third := second + rowLength + 1
  let fourth := third + 8
  let fifth := fourth + 1
  let sixth := fifth + 8
  return {
    errorfieldtable := memory.load 0 fieldLength
    errorrowtable := memory.load second rowLength
    maxerrorcount := controller.host.read (memory.load third 8)
    droperrortables := memory fourth != 0
    querysize := controller.host.read (memory.load fifth 8)
    query := sixth
    dataformat := sixth + (controller.maxquerysize + 1).toNat }

/-- The data format, as `bulkLoadBindRow` reads it. -/
def formatAt (memory : Memory) (ptr : Nat) : List FormatElement :=
  (List.range (controller.host.read (memory.load ptr 2))).map fun i =>
    ⟨UInt32.ofNat (controller.host.read (memory.load (ptr + 2 + (4 + 4) * i) 4)),
      UInt32.ofNat (controller.host.read (memory.load (ptr + 2 + (4 + 4) * i + 4) 4))⟩

end Controller

/-! ## What is meant -/

/-- All that a bulk load is given: what is in memory before it, what it is begun with, and the query and
the data format that are prepared. -/
structure Given where
  controller : Controller
  memory : Memory
  errorfieldtable : List Byte
  errorrowtable : List Byte
  maxerrorcount : UInt64
  droperrortables : Bool
  createErrorTables : Bool
  query : List Byte
  inbinds : List FormatElement

namespace Given

variable (given : Given)

def begun : Begun :=
  given.controller.bulkLoadBegin given.errorfieldtable given.errorrowtable given.maxerrorcount
    given.droperrortables

def prepared : Option (List Store) :=
  given.controller.bulkLoadPrepareQuery given.begun given.createErrorTables given.query given.inbinds

/-- The memory once this has been stored, too. -/
def after (prepared : List Store) : Memory := given.memory.stores (given.begun.stores ++ prepared)

/-- The query and the data format are as large as the configuration allows, at most. -/
structure Fits : Prop where
  query : given.query.length ≤ given.controller.maxquerysize.toNat
  inbinds : given.inbinds.length ≤ given.controller.maxbindcount.toNat

/-- What a process finds that joins is what was given, in the places where it was stored. -/
structure Found (memory : Memory) (joined : Joined) : Prop where
  errorfieldtable : joined.errorfieldtable = CString.contents given.errorfieldtable
  errorrowtable : joined.errorrowtable = CString.contents given.errorrowtable
  maxerrorcount : joined.maxerrorcount = given.maxerrorcount.toNat
  droperrortables : joined.droperrortables = given.droperrortables
  query : memory.load joined.query joined.querysize = given.query
  dataformat : joined.dataformat = given.begun.shmdataformat
  inbinds : given.controller.formatAt memory joined.dataformat = given.inbinds

/-- What is begun and prepared is stored in the segment, and found there by a process that joins. -/
structure Shared (prepared : List Store) : Prop where
  inside : ∀ written ∈ given.begun.stores ++ prepared, written.stop ≤ given.begun.shmsize
  joined : ∃ joined,
    given.controller.bulkLoadJoin (given.after prepared) given.begun.shmsize = some joined ∧
      given.Found (given.after prepared) joined

end Given

/-! ## The stores -/

section Stores

open Controller Memory

variable {host : ByteOrder} {inbinds : List FormatElement} {ptr position : Nat}

theorem formatStores_inSequence (before : position ≤ ptr) :
    InSequence position (formatStores host ptr inbinds) := by
  induction inbinds generalizing position ptr with
  | nil => trivial
  | cons inbind inbinds ih =>
      refine ⟨before, ?_, ih ?_⟩
      · rw [Store.stop, ByteOrder.length_write]
      · rw [Store.stop, ByteOrder.length_write]

theorem formatStores_stop {written : Store} (member : written ∈ formatStores host ptr inbinds) :
    written.stop ≤ ptr + (4 + 4) * inbinds.length := by
  induction inbinds generalizing ptr with
  | nil => cases member
  | cons inbind inbinds ih =>
      rw [List.length_cons]
      cases member with
      | head =>
          rw [Store.stop, ByteOrder.length_write]
          dsimp only
          omega
      | tail _ member =>
          cases member with
          | head =>
              rw [Store.stop, ByteOrder.length_write]
              dsimp only
              omega
          | tail _ member =>
              have inside := ih member
              omega

/-- The stores of the data format end where the last element does. -/
theorem exists_formatStores_stop {first : Store} (begins : first.stop = ptr) :
    ∃ written ∈ first :: formatStores host ptr inbinds,
      written.stop = ptr + (4 + 4) * inbinds.length := by
  induction inbinds generalizing ptr first with
  | nil => exact ⟨first, List.mem_cons_self, begins⟩
  | cons inbind inbinds ih =>
      have next : Store.stop ⟨ptr + 4, host.write 4 inbind.size.toNat⟩ = ptr + 4 + 4 := by
        rw [Store.stop, ByteOrder.length_write]
      obtain ⟨written, member, ends⟩ := ih next
      refine ⟨written, ?_, ?_⟩
      · rw [formatStores]
        exact List.mem_cons_of_mem _ (List.mem_cons_of_mem _ member)
      · rw [ends, List.length_cons]
        omega

theorem mem_formatStores {inbind : FormatElement} {i : Nat} (at_i : inbinds[i]? = some inbind) :
    ⟨ptr + (4 + 4) * i, host.write 4 inbind.type.toNat⟩ ∈ formatStores host ptr inbinds ∧
      ⟨ptr + (4 + 4) * i + 4, host.write 4 inbind.size.toNat⟩ ∈
        formatStores host ptr inbinds := by
  induction inbinds generalizing ptr i with
  | nil => cases at_i
  | cons first inbinds ih =>
      cases i with
      | zero =>
          cases at_i
          exact ⟨List.mem_cons_self, List.mem_cons_of_mem _ List.mem_cons_self⟩
      | succ i =>
          have found := @ih (ptr + 4 + 4) i at_i
          have place : ptr + 4 + 4 + (4 + 4) * i = ptr + (4 + 4) * (i + 1) := by omega
          rw [place] at found
          exact ⟨List.mem_cons_of_mem _ (List.mem_cons_of_mem _ found.1),
            List.mem_cons_of_mem _ (List.mem_cons_of_mem _ found.2)⟩

end Stores

/-! ## The segment -/

namespace Given

open Controller Memory

variable {given : Given} {stores : List Store}

/-- What is stored when the query is prepared. -/
theorem prepared_eq (prepared : given.prepared = some stores) : stores =
    ⟨given.begun.shmquery, given.controller.host.write 8 given.query.length⟩ ::
      ⟨given.begun.shmquery + 8, given.query⟩ ::
      ⟨given.begun.shmquery + 8 + given.query.length, [0]⟩ ::
      ⟨given.begun.shmdataformat, given.controller.host.write 2 given.inbinds.length⟩ ::
      formatStores given.controller.host (given.begun.shmdataformat + 2) given.inbinds := by
  rw [Given.prepared, bulkLoadPrepareQuery] at prepared
  split at prepared
  case isTrue => cases prepared
  case isFalse =>
    split at prepared
    case isTrue => cases prepared
    case isFalse => exact (Option.some.inj prepared).symm

theorem inSequence (prepared : given.prepared = some stores) (fits : given.Fits) :
    InSequence 0 (given.begun.stores.tail ++ stores) := by
  have query := fits.query
  rw [prepared_eq prepared]
  simp only [begun, bulkLoadBegin, List.tail_cons, List.cons_append, List.nil_append,
    InSequence, Store.stop, ByteOrder.length_write, List.length_singleton, Nat.zero_le, true_and]
  refine ⟨by omega, by omega, by omega, by omega, by omega, by omega, by omega, by omega, by omega, ?_⟩
  exact formatStores_inSequence (Nat.le_refl _)

/-- What is stored after the zeros is still there in the end. -/
theorem after_load (prepared : given.prepared = some stores) (fits : given.Fits) {position : Nat}
    {bytes : List Byte} (member : ⟨position, bytes⟩ ∈ given.begun.stores.tail ++ stores) :
    (given.after stores).load position bytes.length = bytes :=
  (inSequence prepared fits).load member

theorem after_at (prepared : given.prepared = some stores) (fits : given.Fits) {position : Nat}
    {byte : Byte} (member : ⟨position, [byte]⟩ ∈ given.begun.stores.tail ++ stores) :
    given.after stores position = byte :=
  (List.cons.inj (after_load prepared fits member)).1

/-- A number that was stored. -/
theorem after_read (prepared : given.prepared = some stores) (fits : given.Fits)
    {position size value : Nat} (small : value < 256 ^ size)
    (member : ⟨position, given.controller.host.write size value⟩ ∈
      given.begun.stores.tail ++ stores) :
    given.controller.host.read ((given.after stores).load position size) = value := by
  have loaded := after_load prepared fits member
  rw [ByteOrder.length_write] at loaded
  rw [loaded, ByteOrder.read_write _ small]

/-- What a process that joins finds.  The place of the data format is the only thing that it works out
in another way. -/
theorem bulkLoadJoin_eq (prepared : given.prepared = some stores) (fits : given.Fits) :
    given.controller.bulkLoadJoin (given.after stores) given.begun.shmsize =
      some {
        errorfieldtable := CString.contents given.errorfieldtable
        errorrowtable := CString.contents given.errorrowtable
        maxerrorcount := given.maxerrorcount.toNat
        droperrortables := given.droperrortables
        querysize := given.query.length
        query := given.begun.shmquery + 8
        dataformat := given.begun.shmquery + 8 + (given.controller.maxquerysize + 1).toNat } := by
  have parts := prepared_eq prepared
  have query := fits.query
  have largest := given.controller.maxquerysize.toNat_lt
  have limit := given.maxerrorcount.toNat_lt
  have field := @after_load given stores prepared fits 0 (CString.contents given.errorfieldtable)
    (by simp [begun, bulkLoadBegin])
  have fieldEnd := @after_at given stores prepared fits
    (0 + (CString.contents given.errorfieldtable).length) 0 (by simp [begun, bulkLoadBegin])
  have row := @after_load given stores prepared fits
    ((CString.contents given.errorfieldtable).length + 1) (CString.contents given.errorrowtable)
    (by simp [begun, bulkLoadBegin])
  have rowEnd := @after_at given stores prepared fits
    ((CString.contents given.errorfieldtable).length + 1 +
      (CString.contents given.errorrowtable).length) 0 (by simp [begun, bulkLoadBegin])
  have count := @after_read given stores prepared fits
    ((CString.contents given.errorfieldtable).length + 1 +
      (CString.contents given.errorrowtable).length + 1) 8 given.maxerrorcount.toNat (by omega)
    (by simp [begun, bulkLoadBegin])
  have flag := @after_at given stores prepared fits
    ((CString.contents given.errorfieldtable).length + 1 +
      (CString.contents given.errorrowtable).length + 1 + 8)
    (if given.droperrortables then 1 else 0) (by simp [begun, bulkLoadBegin])
  have size := @after_read given stores prepared fits
    ((CString.contents given.errorfieldtable).length + 1 +
      (CString.contents given.errorrowtable).length + 1 + 8 + 1) 8 given.query.length (by omega)
    (by simp [parts, begun, bulkLoadBegin])
  have fieldLength := @stringLength_eq (given.after stores) 0 _ given.begun.shmsize
    (CString.zero_notMem_contents given.errorfieldtable) field fieldEnd
    (by simp only [begun, bulkLoadBegin, shmsize]; omega)
  have rowLength := @stringLength_eq (given.after stores)
    ((CString.contents given.errorfieldtable).length + 1) _
    (given.begun.shmsize - ((CString.contents given.errorfieldtable).length + 1))
    (CString.zero_notMem_contents given.errorrowtable) row rowEnd
    (by simp only [begun, bulkLoadBegin, shmsize]; omega)
  have isSet : ((if given.droperrortables then (1 : Byte) else 0) != 0) = given.droperrortables := by
    cases given.droperrortables <;> rfl
  simp only [bulkLoadJoin, fieldLength, rowLength, Option.bind_eq_bind, Option.bind_some, field, row,
    count, flag, size, isSet]
  rfl

theorem formatAt_eq (prepared : given.prepared = some stores) (fits : given.Fits) :
    given.controller.formatAt (given.after stores) given.begun.shmdataformat = given.inbinds := by
  have parts := prepared_eq prepared
  have few := fits.inbinds
  have most := given.controller.maxbindcount.toNat_lt
  have count := @after_read given stores prepared fits given.begun.shmdataformat 2
    given.inbinds.length (by omega) (by simp [parts])
  rw [formatAt, count]
  apply List.ext_getElem
  · simp
  · intro i _ inside
    have member : ∀ written ∈ formatStores given.controller.host (given.begun.shmdataformat + 2)
        given.inbinds, written ∈ given.begun.stores.tail ++ stores := by
      intro written element
      simp [parts, element]
    have element := @mem_formatStores given.controller.host given.inbinds
      (given.begun.shmdataformat + 2) _ i (List.getElem?_eq_getElem inside)
    have type := @after_read given stores prepared fits _ 4 _ given.inbinds[i].type.toNat_lt
      (member _ element.1)
    have size := @after_read given stores prepared fits _ 4 _ given.inbinds[i].size.toNat_lt
      (member _ element.2)
    rw [List.getElem_map, List.getElem_range, type, size, UInt32.ofNat_toNat, UInt32.ofNat_toNat]

theorem after_query (prepared : given.prepared = some stores) (fits : given.Fits) :
    (given.after stores).load (given.begun.shmquery + 8) given.query.length = given.query :=
  after_load prepared fits (by simp [prepared_eq prepared])

theorem begun_inside (written : Store) (member : written ∈ given.begun.stores) :
    written.stop ≤ given.begun.shmsize := by
  have zeros : (given.controller.maxquerysize + 1).toNat ≤
      given.controller.maxquerysize.toNat + 1 := by
    rw [UInt32.toNat_add]
    exact Nat.mod_le _ _
  simp only [begun, bulkLoadBegin, List.mem_cons, List.not_mem_nil, or_false] at member
  have size : given.begun.shmsize = given.controller.shmsize given.errorfieldtable
    given.errorrowtable := rfl
  rw [size, shmsize]
  rcases member with same | same | same | same | same | same | same
  all_goals
    rw [same, Store.stop]
    simp only [List.length_replicate, List.length_singleton, ByteOrder.length_write]
    omega

/-- The stores keep to the segment exactly if there is an element less than there may be. -/
theorem inside_iff (prepared : given.prepared = some stores) (fits : given.Fits) :
    (∀ written ∈ given.begun.stores ++ stores, written.stop ≤ given.begun.shmsize) ↔
      given.inbinds.length < given.controller.maxbindcount.toNat := by
  have dataformat : given.begun.shmdataformat + 8 * given.controller.maxbindcount.toNat + 2 =
      given.begun.shmsize + 8 := by
    simp only [begun, bulkLoadBegin, shmsize]
    omega
  rw [prepared_eq prepared]
  constructor
  · intro inside
    have count : Store.stop ⟨given.begun.shmdataformat,
        given.controller.host.write 2 given.inbinds.length⟩ = given.begun.shmdataformat + 2 := by
      rw [Store.stop, ByteOrder.length_write]
    obtain ⟨last, member, ends⟩ :=
      @exists_formatStores_stop given.controller.host given.inbinds _ _ count
    have lastInside := inside last (by
      simp only [List.mem_append, List.mem_cons] at member ⊢
      exact Or.inr (Or.inr (Or.inr (Or.inr member))))
    omega
  · intro few written member
    have query := fits.query
    have begins : given.begun.shmdataformat =
        given.begun.shmquery + 8 + given.controller.maxquerysize.toNat + 1 := rfl
    cases List.mem_append.mp member with
    | inl early => exact begun_inside written early
    | inr late =>
        simp only [List.mem_cons] at late
        rcases late with same | same | same | same | element
        · rw [same, Store.stop, ByteOrder.length_write]
          dsimp only
          omega
        · rw [same, Store.stop]
          dsimp only
          omega
        · rw [same, Store.stop, List.length_singleton]
          dsimp only
          omega
        · rw [same, Store.stop, ByteOrder.length_write]
          dsimp only
          omega
        · have ends := formatStores_stop element
          omega

/-- What is stored is in the segment and is found there exactly if the data format has fewer elements
than it may have, and the largest query is smaller than a `uint32_t` can say. -/
theorem shared_iff (prepared : given.prepared = some stores) (fits : given.Fits) :
    given.Shared stores ↔
      given.inbinds.length < given.controller.maxbindcount.toNat ∧
        given.controller.maxquerysize ≠ 4294967295 := by
  have join := bulkLoadJoin_eq prepared fits
  have place : given.begun.shmquery + 8 + (given.controller.maxquerysize + 1).toNat =
      given.begun.shmdataformat ↔ given.controller.maxquerysize ≠ 4294967295 := by
    have begins : given.begun.shmdataformat =
        given.begun.shmquery + 8 + given.controller.maxquerysize.toNat + 1 := rfl
    have small := given.controller.maxquerysize.toNat_lt
    have one : (1 : UInt32).toNat = 1 := rfl
    have largest : (4294967295 : UInt32).toNat = 4294967295 := rfl
    rw [begins, UInt32.toNat_add, one, ne_eq, ← UInt32.toNat_inj, largest]
    omega
  constructor
  · intro shared
    obtain ⟨joined, isJoined, found⟩ := shared.joined
    rw [join, Option.some.injEq] at isJoined
    subst isJoined
    exact ⟨(inside_iff prepared fits).mp shared.inside, place.mp found.dataformat⟩
  · intro few
    refine ⟨(inside_iff prepared fits).mpr few.1, _, join, ?_⟩
    constructor
    · rfl
    · rfl
    · rfl
    · rfl
    · exact after_query prepared fits
    · exact place.mpr few.2
    · dsimp only
      rw [place.mpr few.2]
      exact formatAt_eq prepared fits

end Given

/-- A bulk load of an element, where there may be so many. -/
def oneElement (maxbindcount : UInt16) : Given where
  controller := ⟨.little, 8, maxbindcount⟩
  memory := fun _ => 0
  errorfieldtable := ascii "e"
  errorrowtable := ascii "r"
  maxerrorcount := 0
  droperrortables := false
  createErrorTables := true
  query := ascii "insert x"
  inbinds := [⟨1, 4⟩]

theorem fits_oneElement {maxbindcount : UInt16} (some_binds : 1 ≤ maxbindcount.toNat) :
    (oneElement maxbindcount).Fits := ⟨Nat.le_refl 8, some_binds⟩

theorem shared_oneElement : ∃ stores, (oneElement 2).prepared = some stores ∧
    ((oneElement 2).Shared stores ↔
      (oneElement 2).inbinds.length < (oneElement 2).controller.maxbindcount.toNat ∧
        (oneElement 2).controller.maxquerysize ≠ 4294967295) :=
  ⟨_, rfl, Given.shared_iff rfl (fits_oneElement (by decide))⟩

/-- With as many elements as there may be, the last of them lies behind the segment. -/
theorem lastElement_outside : ¬∀ (given : Given) (stores : List Store),
    given.prepared = some stores → given.Fits → given.Shared stores := by
  intro every
  have shared := every (oneElement 1) _ rfl (fits_oneElement (by decide))
  exact absurd shared.inside (by decide)

end SqlRelay.BulkLoad
