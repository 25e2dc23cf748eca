import SqlRelay.Foundation.Memory
import SqlRelay.OutputBinds.Delivery
import SqlRelay.OutputBinds.Values

/-!
# Long data at the client

The server announces a total length, and sends the data in chunks until it says that there are no more.
The client puts the chunks one behind the other into a buffer.  It does so in three places: for a field
of the result set, where the buffer grows, and for output binds and input/output binds, where it does not.
-/

namespace SqlRelay.LongData

open SqlRelay.Foundation
open SqlRelay.OutputBinds

/-! ## The server -/

/-- The bytes between a chunk's length and the next type.  `getString` takes their number as an `int32_t`. -/
structure Chunk where
  data : List Byte
  fits : data.length < 2 ^ 31
  deriving DecidableEq

/-- What has been received when all of the chunks have. -/
def received (chunks : List Chunk) : List Byte := chunks.flatMap Chunk.data

/-- The chunks, and the end of the long data. -/
def sendChunks : List Chunk → List Byte
  | [] => endSendingLong
  | chunk :: chunks => sendLongSegment chunk.data ++ sendChunks chunks

/-- All that comes behind the type of the long data. -/
def sendLong (totallength : UInt64) (chunks : List Chunk) : List Byte :=
  Wire.longLong totallength ++ sendChunks chunks

/-! ## The client -/

/-- A buffer of so many bytes. -/
structure Buffer where
  size : Nat
  memory : Memory

/-- The variables of a decoder, and whether everything has been written into its buffer so far. -/
structure Receiving where
  buffer : Buffer
  offset : UInt64
  totallength : UInt64
  contained : Bool

/-- What is added to the row, or put into the variable. -/
structure Decoded where
  buffer : Buffer
  length : UInt32
  contained : Bool

/-- Which of the functions decodes the long data. -/
inductive Decoder where
  | parseResults
  | parseOutputBinds
  | parseInputOutputBinds
  deriving DecidableEq

/-- What lies in a new buffer of some size. -/
abbrev Heap := Nat → Memory

variable (heap : Heap)

/-- `new char[size]` -/
def allocate (size : UInt64) : Buffer := ⟨size.toNat, heap size.toNat⟩

def Receiving.write (receiving : Receiving) (position : Nat) (bytes : List Byte) : Receiving :=
  { receiving with
    buffer := ⟨receiving.buffer.size, receiving.buffer.memory.store ⟨position, bytes⟩⟩
    contained := receiving.contained && decide (position + bytes.length ≤ receiving.buffer.size) }

/-- The number of characters is taken as a starting point, and the buffer is extended if necessary. -/
def Receiving.extend (receiving : Receiving) (length : UInt32) : Receiving :=
  if receiving.offset + length.toUInt64 > receiving.totallength then
    Receiving.write
      { receiving with
        buffer := allocate heap (receiving.offset + length.toUInt64 + 1)
        totallength := receiving.offset + length.toUInt64 }
      0 (receiving.buffer.memory.load 0 receiving.offset.toNat)
  else receiving

namespace Decoder

/-- The buffer that holds the data at first. -/
def create (totallength : UInt64) : Decoder → Buffer
  | parseResults => if totallength ≠ 0 then allocate heap (totallength + 1) else allocate heap 1
  | parseOutputBinds => allocate heap (totallength + 1)
  | parseInputOutputBinds => allocate heap (totallength + 1)

/-- What is done before a chunk is read. -/
def prepare (receiving : Receiving) (length : UInt32) : Decoder → Receiving
  | parseResults => receiving.extend heap length
  | parseOutputBinds => receiving
  | parseInputOutputBinds => receiving

variable (decoder : Decoder)

def start (totallength : UInt64) : Receiving := ⟨decoder.create heap totallength, 0, totallength, true⟩

/-- Gets a chunk of so many bytes. -/
def getChunk (receiving : Receiving) (length : UInt32) (chunk : List Byte) : Receiving :=
  let prepared := decoder.prepare heap receiving length
  { prepared.write prepared.offset.toNat chunk with offset := prepared.offset + length.toUInt64 }

/-- The buffer is terminated behind the total length, which becomes the length of the value. -/
def finish (receiving : Receiving) : Decoded where
  buffer := (receiving.write receiving.totallength.toNat [0]).buffer
  length := receiving.totallength.toUInt32
  contained := (receiving.write receiving.totallength.toNat [0]).contained

/-- One round of the loop: the type of the chunk, its length and its data. -/
def getNext (receiving : Receiving) : Receiver (Decoded ⊕ Receiving) := do
  let type ← Receiver.short
  if type = END_LONG_DATA then pure (.inl (finish receiving))
  else do
    let length ← Receiver.long
    let chunk ← Receiver.bytes length.toNat
    pure (.inr (decoder.getChunk heap receiving length chunk))

/-- What comes behind the type of the long data. -/
def getLongData : Receiver Decoded := do
  let totallength ← Receiver.longLong
  Receiver.repeatedly (decoder.getNext heap) (decoder.start heap totallength)

/-- The chunks one after the other. -/
def getChunks (receiving : Receiving) (chunks : List Chunk) : Receiving :=
  chunks.foldl (fun receiving chunk =>
    decoder.getChunk heap receiving (UInt32.ofNat chunk.data.length) chunk.data) receiving

/-- What becomes of the data that was announced with this total length and came in these chunks. -/
def decode (totallength : UInt64) (chunks : List Chunk) : Decoded :=
  finish (decoder.getChunks heap (decoder.start heap totallength) chunks)

end Decoder

/-!
## Reassembling long data

Whether the value is what has been received, and nothing has been written outside of the buffer, depends
on the total length that was announced only.  A buffer that grows holds any data that is longer, one that
does not grow has to be of the right size from the start.
-/

/-! ## The property and its condition -/

/-- The value is the data, its length that of the data, and everything was written into the buffer. -/
structure Decoded.Reassembles (decoded : Decoded) (data : List Byte) : Prop where
  contained : decoded.contained = true
  length : decoded.length.toNat = data.length
  value : decoded.buffer.memory.load 0 decoded.length.toNat = data

/-- The length goes into a `uint32_t`, and the buffer has one more byte than the `uint64_t` says. -/
def Tells (totallength : UInt64) (count : Nat) : Prop :=
  totallength.toNat % 2 ^ 32 = count ∧ totallength.toNat ≠ 2 ^ 64 - 1

/-- A field may be announced with a smaller length than it has, a bind may not. -/
def Decoder.Announced (totallength : UInt64) (count : Nat) : Decoder → Prop
  | .parseResults => count < 2 ^ 32 ∧ (totallength.toNat ≤ count ∨ Tells totallength count)
  | .parseOutputBinds => Tells totallength count
  | .parseInputOutputBinds => Tells totallength count

/-! ## The invariant of the loop -/

/-- What the total length has become when so many bytes have been received. -/
def Decoder.lengthened (totallength count : Nat) : Decoder → Nat
  | .parseResults => max totallength count
  | .parseOutputBinds => totallength
  | .parseInputOutputBinds => totallength

/-- The data so far is in the memory of the buffer, and inside of the buffer if it is long enough. -/
structure Receiving.Holds (receiving : Receiving) (data : List Byte) (totallength : Nat) : Prop where
  offset : receiving.offset.toNat = data.length
  totallength : receiving.totallength.toNat = totallength
  size : receiving.buffer.size = (receiving.totallength + 1).toNat
  contained : receiving.contained = decide (data.length ≤ receiving.buffer.size)
  data : receiving.buffer.memory.load 0 data.length = data

variable {heap : Heap} {decoder : Decoder} {receiving : Receiving} {data : List Byte} {totallength : Nat}

theorem holds_start (heap : Heap) (decoder : Decoder) (totallength : UInt64) :
    (decoder.start heap totallength).Holds [] (decoder.lengthened totallength.toNat 0) := by
  have size : (decoder.create heap totallength).size = (totallength + 1).toNat := by
    cases decoder with
    | parseResults =>
        unfold Decoder.create
        dsimp only
        split
        case isTrue => rfl
        case isFalse zero =>
          rw [not_not.mp zero]
          rfl
    | parseOutputBinds => rfl
    | parseInputOutputBinds => rfl
  have lengthened : totallength.toNat = decoder.lengthened totallength.toNat 0 := by
    cases decoder with
    | parseResults => exact (Nat.max_eq_left (Nat.zero_le _)).symm
    | parseOutputBinds => rfl
    | parseInputOutputBinds => rfl
  constructor
  · rfl
  · exact lengthened
  · exact size
  · rfl
  · rfl

/-- The sum does not wrap around. -/
theorem toNat_offset_add {offset : UInt64} {count : Nat} {chunk : List Byte} (here : offset.toNat = count)
    (short : count + chunk.length < 2 ^ 32) :
    (offset + (UInt32.ofNat chunk.length).toUInt64).toNat = count + chunk.length := by
  have length : (UInt32.ofNat chunk.length).toUInt64.toNat = chunk.length := by
    rw [UInt32.toNat_toUInt64, UInt32.toNat_ofNat_of_lt' (by change chunk.length < 2 ^ 32; omega)]
  rw [UInt64.toNat_add, length, here, Nat.mod_eq_of_lt (by omega)]

theorem load_store_front (memory other : Memory) (count : Nat) :
    (memory.store ⟨0, other.load 0 count⟩).load 0 count = other.load 0 count := by
  have loaded := @Memory.load_store_self memory ⟨0, other.load 0 count⟩
  rwa [Memory.length_load] at loaded

/-- A buffer that is too small is replaced by one that is large enough and holds the same. -/
theorem Receiving.Holds.extend {before : Nat} {chunk : List Byte}
    (holds : receiving.Holds data (max before data.length))
    (short : data.length + chunk.length < 2 ^ 32) :
    (receiving.extend heap (UInt32.ofNat chunk.length)).Holds data
      (max before (data.length + chunk.length)) := by
  have sum := toNat_offset_add holds.offset short
  have total := holds.totallength
  unfold Receiving.extend
  split
  case isTrue grows =>
    rw [gt_iff_lt, UInt64.lt_iff_toNat_lt, sum] at grows
    have old : receiving.buffer.size = receiving.totallength.toNat + 1 := by
      rw [holds.size, UInt64.toNat_add, UInt64.toNat_one, Nat.mod_eq_of_lt (by omega)]
    have new : (receiving.offset + (UInt32.ofNat chunk.length).toUInt64 + 1).toNat =
        data.length + chunk.length + 1 := by
      rw [UInt64.toNat_add, sum, UInt64.toNat_one, Nat.mod_eq_of_lt (by omega)]
    constructor
    · exact holds.offset
    · change (receiving.offset + (UInt32.ofNat chunk.length).toUInt64).toNat = _
      omega
    · rfl
    · change (receiving.contained && decide (0 + (receiving.buffer.memory.load 0 _).length ≤
        (receiving.offset + (UInt32.ofNat chunk.length).toUInt64 + 1).toNat)) = decide (data.length ≤
          (receiving.offset + (UInt32.ofNat chunk.length).toUInt64 + 1).toNat)
      rw [holds.contained, old, new, Memory.length_load, holds.offset, Nat.zero_add, decide_eq_true (by omega),
        Bool.true_and]
    · change ((heap _).store ⟨0, receiving.buffer.memory.load 0 receiving.offset.toNat⟩).load 0 _ = data
      rw [holds.offset, load_store_front, holds.data]
  case isFalse enough =>
    rw [gt_iff_lt, UInt64.lt_iff_toNat_lt, sum] at enough
    have same : max before (data.length + chunk.length) = max before data.length := by omega
    rw [same]
    exact holds

theorem Receiving.Holds.prepare {before : Nat} {chunk : List Byte}
    (holds : receiving.Holds data (decoder.lengthened before data.length))
    (short : data.length + chunk.length < 2 ^ 32) :
    (decoder.prepare heap receiving (UInt32.ofNat chunk.length)).Holds data
      (decoder.lengthened before (data.length + chunk.length)) := by
  cases decoder with
  | parseResults => exact Receiving.Holds.extend holds short
  | parseOutputBinds => exact holds
  | parseInputOutputBinds => exact holds

/-- Each chunk is put behind the data so far. -/
theorem Receiving.Holds.getChunk {before : Nat} {chunk : List Byte}
    (holds : receiving.Holds data (decoder.lengthened before data.length))
    (short : (data ++ chunk).length < 2 ^ 32) :
    (decoder.getChunk heap receiving (UInt32.ofNat chunk.length) chunk).Holds (data ++ chunk)
      (decoder.lengthened before (data ++ chunk).length) := by
  rw [List.length_append] at short
  have prepared := @Receiving.Holds.prepare heap decoder receiving data before chunk holds short
  rw [← List.length_append] at prepared
  unfold Decoder.getChunk
  generalize decoder.prepare heap receiving (UInt32.ofNat chunk.length) = receiving at prepared ⊢
  constructor
  · change (receiving.offset + (UInt32.ofNat chunk.length).toUInt64).toNat = _
    rw [toNat_offset_add prepared.offset short, List.length_append]
  · exact prepared.totallength
  · exact prepared.size
  · change (receiving.contained && decide (receiving.offset.toNat + chunk.length ≤ receiving.buffer.size)) =
      decide ((data ++ chunk).length ≤ receiving.buffer.size)
    rw [prepared.contained, prepared.offset, List.length_append, ← Bool.decide_and]
    apply decide_eq_decide.mpr
    omega
  · change (receiving.buffer.memory.store ⟨receiving.offset.toNat, chunk⟩).load 0 (data ++ chunk).length = _
    rw [prepared.offset, List.length_append, Memory.load_add, Nat.zero_add,
      Memory.load_store_apart (Or.inr (Nat.zero_add _).le), prepared.data]
    congr 1
    exact @Memory.load_store_self receiving.buffer.memory ⟨data.length, chunk⟩

/-- All of the chunks. -/
theorem Receiving.Holds.getChunks {before : Nat} {chunks : List Chunk}
    (holds : receiving.Holds data (decoder.lengthened before data.length))
    (short : (data ++ received chunks).length < 2 ^ 32) :
    (decoder.getChunks heap receiving chunks).Holds (data ++ received chunks)
      (decoder.lengthened before (data ++ received chunks).length) := by
  induction chunks generalizing receiving data with
  | nil =>
      rw [received, List.flatMap_nil, List.append_nil]
      exact holds
  | cons chunk chunks ih =>
      rw [received, List.flatMap_cons, ← List.append_assoc] at short ⊢
      apply ih
      · apply holds.getChunk
        rw [List.length_append] at short
        omega
      · exact short

/-! ## The whole value -/

/-- The terminator is the last byte of the buffer, if there is such a byte. -/
theorem Receiving.Holds.reassembles_iff (holds : receiving.Holds data totallength) :
    (Decoder.finish receiving).Reassembles data ↔
      totallength % 2 ^ 32 = data.length ∧ totallength ≠ 2 ^ 64 - 1 := by
  have total := holds.totallength
  have bound := receiving.totallength.toNat_lt
  have length : (Decoder.finish receiving).length.toNat = totallength % 2 ^ 32 := by
    change receiving.totallength.toUInt32.toNat = _
    rw [UInt64.toNat_toUInt32, total]
  have contained : (Decoder.finish receiving).contained =
      (decide (data.length ≤ receiving.buffer.size) &&
        decide (totallength + 1 ≤ receiving.buffer.size)) := by
    rw [← holds.contained, ← total]
    rfl
  have size : receiving.buffer.size = (totallength + 1) % 2 ^ 64 := by
    rw [holds.size, UInt64.toNat_add, UInt64.toNat_one, total]
  constructor
  · intro reassembles
    have whole := reassembles.contained
    rw [contained, Bool.and_eq_true, decide_eq_true_iff, decide_eq_true_iff, size] at whole
    constructor
    · rw [← length, reassembles.length]
    · omega
  · intro told
    obtain ⟨count, fits⟩ := told
    constructor
    · rw [contained, Bool.and_eq_true, decide_eq_true_iff, decide_eq_true_iff, size]
      omega
    · rw [length, count]
    · rw [length, count]
      change (receiving.buffer.memory.store ⟨receiving.totallength.toNat, [0]⟩).load 0 data.length = data
      rw [Memory.load_store_apart, holds.data]
      apply Or.inr
      change 0 + data.length ≤ receiving.totallength.toNat
      omega

theorem lengthened_iff_announced {totallength : UInt64} {count : Nat} (short : count < 2 ^ 32) :
    (decoder.lengthened totallength.toNat count % 2 ^ 32 = count ∧
      decoder.lengthened totallength.toNat count ≠ 2 ^ 64 - 1) ↔ decoder.Announced totallength count := by
  cases decoder with
  | parseResults =>
      unfold Decoder.lengthened Decoder.Announced Tells
      dsimp only
      omega
  | parseOutputBinds => rfl
  | parseInputOutputBinds => rfl

theorem Decoder.Announced.short {totallength : UInt64} {count : Nat}
    (announced : decoder.Announced totallength count) : count < 2 ^ 32 := by
  cases decoder with
  | parseResults => exact announced.1
  | parseOutputBinds => exact announced.1 ▸ Nat.mod_lt _ (by decide)
  | parseInputOutputBinds => exact announced.1 ▸ Nat.mod_lt _ (by decide)

theorem reassembles_decode_iff (heap : Heap) (decoder : Decoder) (totallength : UInt64)
    (chunks : List Chunk) :
    (decoder.decode heap totallength chunks).Reassembles (received chunks) ↔
      decoder.Announced totallength (received chunks).length := by
  by_cases short : (received chunks).length < 2 ^ 32
  · have holds := @Receiving.Holds.getChunks heap decoder _ [] totallength.toNat chunks
      (holds_start heap decoder totallength) short
    exact holds.reassembles_iff.trans (lengthened_iff_announced short)
  · constructor
    · intro reassembles
      have fits := (decoder.decode heap totallength chunks).length.toNat_lt
      rw [reassembles.length] at fits
      exact absurd fits short
    · intro announced
      exact absurd announced.short short

/-! ## On the wire -/

theorem reads_getNext (chunk : Chunk) :
    Reads (decoder.getNext heap receiving)
      (.inr (decoder.getChunk heap receiving (UInt32.ofNat chunk.data.length) chunk.data))
      (sendLongSegment chunk.data) := by
  have fits := chunk.fits
  have length : (UInt32.ofNat chunk.data.length).toNat = chunk.data.length :=
    UInt32.toNat_ofNat_of_lt' (by change _ < 2 ^ 32; omega)
  rw [sendLongSegment, List.append_assoc]
  apply (Reads.short STRING_DATA).bind
  rw [if_neg (by decide)]
  apply (Reads.long _).bind
  rw [length]
  exact (Reads.bytes chunk.data).map fun bytes =>
    Sum.inr (decoder.getChunk heap receiving (UInt32.ofNat chunk.data.length) bytes)

theorem reads_end : Reads (decoder.getNext heap receiving) (.inl (Decoder.finish receiving))
    endSendingLong := by
  rw [endSendingLong, ← List.append_nil (Wire.short END_LONG_DATA)]
  apply (Reads.short END_LONG_DATA).bind
  rw [if_pos rfl]
  exact Reads.pure _

theorem rounds_chunks (chunks : List Chunk) :
    Rounds (decoder.getNext heap) (Decoder.finish (decoder.getChunks heap receiving chunks)) receiving
      (sendChunks chunks) := by
  induction chunks generalizing receiving with
  | nil => exact Rounds.last reads_end
  | cons chunk chunks ih => exact Rounds.next (reads_getNext chunk) (sendLongSegment_ne_nil _) ih

/-- However the data is announced and sent, the client decodes it, and gets a value that is the data just
if it has been announced as it has to be. -/
theorem Decoder.getLongData_reassembles_iff (heap : Heap) (decoder : Decoder) (totallength : UInt64)
    (chunks : List Chunk) :
    ∃ decoded, Reads (decoder.getLongData heap) decoded (sendLong totallength chunks) ∧
      (decoded.Reassembles (received chunks) ↔
        decoder.Announced totallength (received chunks).length) := by
  refine ⟨decoder.decode heap totallength chunks, ?_, ?_⟩
  · apply (Reads.longLong totallength).bind
    exact (rounds_chunks chunks).reads
  · exact reassembles_decode_iff heap decoder totallength chunks

/-- Two characters of two bytes each, which Oracle announces as two. -/
theorem not_getLongData_reassembles_twoCharacters :
    ¬∀ (heap : Heap) (decoder : Decoder) (totallength : UInt64) (chunks : List Chunk),
      ∃ decoded, Reads (decoder.getLongData heap) decoded (sendLong totallength chunks) ∧
        decoded.Reassembles (received chunks) := by
  intro reassembles
  obtain ⟨decoded, reads, whole⟩ := reassembles (fun _ _ => 0) .parseOutputBinds 2
    [⟨[195, 169, 195, 169], by decide⟩]
  have other : Reads (Decoder.getLongData (fun _ _ => 0) .parseOutputBinds) _
      (sendLong 2 [⟨[195, 169, 195, 169], by decide⟩]) :=
    (Reads.longLong 2).bind (rounds_chunks _).reads
  rw [reads.unique other] at whole
  have contained := whole.contained
  revert contained
  decide

end SqlRelay.LongData
