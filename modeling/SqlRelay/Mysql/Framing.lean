import Mathlib.Data.List.TakeDrop
import SqlRelay.Foundation.ByteOrder
import SqlRelay.Foundation.Chunks

/-!
# Packets on the wire

A payload goes out in packets of at most `maxPacketSize` bytes.  `sendPacket` writes the header of each
over the bytes in front of it, and `recvPacket` takes a packet that is not full for the last one.
-/

namespace SqlRelay.Mysql.Framing

open SqlRelay.Foundation

/-- The most that one packet carries. -/
def maxPacketSize : Nat := 16777215

/-- The three bytes of the size, and the sequence number. -/
def header (size : Nat) (seq : Byte) : List Byte := toLittleEndian 3 size ++ [seq]

@[simp] theorem length_header (size : Nat) (seq : Byte) : (header size seq).length = 4 := by
  simp [header]

/-! ## Sending -/

/-- `resppacket.write`, at a position inside the buffer. -/
def overwrite (buffer : List Byte) (position : Nat) (bytes : List Byte) : List Byte :=
  buffer.take position ++ bytes ++ buffer.drop (position + bytes.length)

/-- `resetSendPacketBuffer`, and the payload that is written behind the first header. -/
def resppacketOf (payload : List Byte) : List Byte := [0, 0, 0, 0] ++ payload

/-- What went to a socket that takes all that is written, and the sequence number that comes next. -/
structure Sent where
  written : List Byte
  seq : Byte
  deriving DecidableEq, Repr

/-- The loop of `sendPacket`, whose position and sizes are 32-bit numbers. -/
def sendChunks : Nat → List Byte → UInt32 → Byte → Option Sent
  | 0, _, _, _ => none
  | fuel + 1, resppacket, resppacketpos, seq =>
      let totalsendsize := UInt32.ofNat (resppacket.length - resppacketpos.toNat)
      if totalsendsize ≤ 4 then some ⟨[], seq⟩
      else
        let totalsendsize := if totalsendsize > 16777215 + 4 then 16777215 + 4 else totalsendsize
        let resppacket :=
          overwrite resppacket resppacketpos.toNat (header (totalsendsize - 4).toNat seq)
        let chunk := (resppacket.drop resppacketpos.toNat).take totalsendsize.toNat
        (sendChunks fuel resppacket (resppacketpos + (totalsendsize - 4)) (seq + 1)).map
          fun sent => ⟨chunk ++ sent.written, sent.seq⟩

/-- `sendPacket`; a chunk takes at least one byte of the payload. -/
def sendPacket (payload : List Byte) (seq : Byte) : Option Sent :=
  sendChunks (payload.length + 1) (resppacketOf payload) 0 seq

/-! ## Receiving -/

/-- A payload with the sequence numbers of its packets, and what is left on the socket. -/
structure Received where
  payload : List Byte
  seqs : List Byte
  left : List Byte
  deriving DecidableEq, Repr

/-- `recvPacket`, on a socket with so much to read.  It waits for more if that is too little. -/
def recvFrom (longreqpacketbuffer stream : List Byte) : Option Received :=
  if 4 ≤ stream.length then
    let localreqpacketsize := littleEndian (stream.take 3)
    let seq := stream.getD 3 0
    let behind := stream.drop 4
    if behind.length < localreqpacketsize then none
    else
      let reqpacket := behind.take localreqpacketsize
      if localreqpacketsize < maxPacketSize then
        let payload :=
          if longreqpacketbuffer = [] then reqpacket else longreqpacketbuffer ++ reqpacket
        some ⟨payload, [seq], behind.drop localreqpacketsize⟩
      else
        (recvFrom (longreqpacketbuffer ++ reqpacket) (behind.drop localreqpacketsize)).map
          fun received => { received with seqs := seq :: received.seqs }
  else none
termination_by stream.length
decreasing_by
  simp only [List.length_drop]
  omega

def recvPacket (stream : List Byte) : Option Received := recvFrom [] stream

/-- So many sequence numbers, each one more than the last modulo 256. -/
def consecutive (seq : Byte) : Nat → List Byte
  | 0 => []
  | count + 1 => seq :: consecutive (seq + 1) count

/-- A peer that reads as `recvPacket` does gets exactly the payload out of what is sent. -/
def RoundTrips (payload : List Byte) (seq : Byte) : Prop :=
  ∃ sent received count, sendPacket payload seq = some sent ∧
    recvPacket sent.written = some received ∧
    received = ⟨payload, consecutive seq count, []⟩ ∧ sent.seq = seq + UInt8.ofNat count

/-! ## Packets -/

/-- Packets that carry these chunks. -/
def packets (seq : Byte) : List (List Byte) → List Byte
  | [] => []
  | chunk :: rest => header chunk.length seq ++ chunk ++ packets (seq + 1) rest

/-- What `sendPacket` sends of a payload whose size, with the header, does not fit 32 bits. -/
def sendable (payload : List Byte) : List Byte := payload.take ((payload.length + 4) % 2 ^ 32 - 4)

theorem sendable_eq_self_iff {payload : List Byte} :
    sendable payload = payload ↔ payload.length + 4 < 2 ^ 32 := by
  rw [sendable, List.take_eq_self_iff]
  omega

/-- What is sent first, and what of the rest. -/
theorem chunks_sendable {payload : List Byte} {count : Nat} (some_left : 4 < (payload.length + 4) % 2 ^ 32)
    (first : count = min ((payload.length + 4) % 2 ^ 32 - 4) maxPacketSize) :
    chunks maxPacketSize (sendable payload) =
      payload.take count :: chunks maxPacketSize (sendable (payload.drop count)) := by
  have positive : 0 < maxPacketSize := by decide
  have fewer : count ≤ payload.length := by omega
  have left : (payload.length - count + 4) % 2 ^ 32 = (payload.length + 4) % 2 ^ 32 - count := by omega
  have length : (sendable payload).length = (payload.length + 4) % 2 ^ 32 - 4 := by
    rw [sendable, List.length_take]
    omega
  have nonempty : sendable payload ≠ [] := by
    intro empty
    rw [empty, List.length_nil] at length
    omega
  rw [chunks_of_ne_nil positive nonempty, sendable, sendable, List.length_drop, left, List.take_take,
    List.drop_take, Nat.min_comm, ← first]
  by_cases full : count = maxPacketSize
  · rw [← full, Nat.sub_right_comm]
  · have none_left : (payload.length + 4) % 2 ^ 32 - 4 - maxPacketSize = 0 := by omega
    have all_sent : (payload.length + 4) % 2 ^ 32 - count - 4 = 0 := by omega
    rw [none_left, all_sent, List.take_zero, List.take_zero]

/-- The header goes over the last four bytes in front of the chunk. -/
theorem overwrite_header {front rest : List Byte} {pos : Nat} (behind : front.length = pos + 4)
    (size : Nat) (seq : Byte) :
    overwrite (front ++ rest) pos (header size seq) = front.take pos ++ (header size seq ++ rest) := by
  have before : pos ≤ front.length := by omega
  rw [overwrite, length_header, ← behind, List.drop_left, List.take_append_of_le_length before,
    List.append_assoc]

/-- How many bytes of the payload go out next. -/
theorem totalsendsize_toNat {rest : List Byte} {count : Nat} {total : UInt32}
    (isCount : min ((rest.length + 4) % 2 ^ 32 - 4) maxPacketSize = count)
    (isTotal : (if UInt32.ofNat (rest.length + 4) > 16777215 + 4 then 16777215 + 4
      else UInt32.ofNat (rest.length + 4)) = total)
    (some_left : 4 < (rest.length + 4) % 2 ^ 32) : total.toNat = count + 4 := by
  have most : ((16777215 : UInt32) + 4).toNat = 16777219 := by decide
  simp only [maxPacketSize] at isCount
  rw [← isTotal]
  split
  case isTrue large =>
    rw [gt_iff_lt, UInt32.lt_iff_toNat_lt, most, UInt32.toNat_ofNat'] at large
    rw [most]
    omega
  case isFalse small =>
    rw [gt_iff_lt, UInt32.lt_iff_toNat_lt, most, UInt32.toNat_ofNat'] at small
    rw [UInt32.toNat_ofNat']
    omega

section Chunk

variable {front rest : List Byte} {pos : UInt32} {count : Nat}

/-- One packet goes out, and the last four bytes in front of the next chunk were sent in it. -/
theorem sendChunks_step (fuel : Nat) (seq : Byte) (behind : front.length = pos.toNat + 4)
    (some_left : 4 < (rest.length + 4) % 2 ^ 32)
    (isCount : min ((rest.length + 4) % 2 ^ 32 - 4) maxPacketSize = count) :
    sendChunks (fuel + 1) (front ++ rest) pos seq =
      (sendChunks fuel ((front.take pos.toNat ++ (header count seq ++ rest.take count)) ++
        rest.drop count) (pos + UInt32.ofNat count) (seq + 1)).map fun sent =>
          ⟨header count seq ++ rest.take count ++ sent.written, sent.seq⟩ := by
  have left : (front ++ rest).length - pos.toNat = rest.length + 4 := by
    rw [List.length_append]
    omega
  have goesOn : ¬UInt32.ofNat (rest.length + 4) ≤ 4 := by
    rw [UInt32.le_iff_toNat_le, UInt32.toNat_ofNat']
    exact Nat.not_le_of_lt some_left
  rw [sendChunks, left, if_neg goesOn]
  generalize isTotal : (if UInt32.ofNat (rest.length + 4) > 16777215 + 4 then 16777215 + 4
    else UInt32.ofNat (rest.length + 4)) = total
  have total_eq := totalsendsize_toNat isCount isTotal some_left
  have size_eq : (total - 4).toNat = count := by
    have four : (4 : UInt32) ≤ total := by
      rw [UInt32.le_iff_toNat_le, total_eq]
      exact Nat.le_add_left _ _
    rw [UInt32.toNat_sub_of_le _ _ four, total_eq]
    rfl
  have isSize : total - 4 = UInt32.ofNat count := by rw [← size_eq, UInt32.ofNat_toNat]
  have before : (front.take pos.toNat).length = pos.toNat := by
    rw [List.length_take]
    omega
  have chunk : ((front.take pos.toNat ++ (header count seq ++ rest)).drop pos.toNat).take
      (count + 4) = header count seq ++ rest.take count := by
    rw [List.drop_left' before, List.take_append, length_header, Nat.add_sub_cancel,
      List.take_of_length_le (by simp)]
  have later : front.take pos.toNat ++ (header count seq ++ rest) =
      (front.take pos.toNat ++ (header count seq ++ rest.take count)) ++ rest.drop count := by
    rw [List.append_assoc, List.append_assoc, List.take_append_drop]
  dsimp only
  rw [size_eq, total_eq, overwrite_header behind, chunk, later, isSize]

/-- The chunks behind a position, where the last four bytes of `front` are those that the header is
written over. -/
theorem sendChunks_eq {fuel : Nat} (seq : Byte) (behind : front.length = pos.toNat + 4)
    (fits : pos.toNat + (rest.length + 4) % 2 ^ 32 < 2 ^ 32) (enough : rest.length < fuel) :
    sendChunks fuel (front ++ rest) pos seq =
      some ⟨packets seq (chunks maxPacketSize (sendable rest)),
        seq + UInt8.ofNat (chunks maxPacketSize (sendable rest)).length⟩ := by
  induction fuel generalizing front rest pos seq with
  | zero => omega
  | succ fuel ih =>
    by_cases some_left : 4 < (rest.length + 4) % 2 ^ 32
    · generalize isCount : min ((rest.length + 4) % 2 ^ 32 - 4) maxPacketSize = count
      have positive : 0 < count := by
        simp only [maxPacketSize] at isCount
        omega
      have length : (rest.take count).length = count := by
        rw [List.length_take]
        omega
      have next : (pos + UInt32.ofNat count).toNat = pos.toNat + count := by
        rw [UInt32.toNat_add, UInt32.toNat_ofNat']
        omega
      rw [sendChunks_step fuel seq behind some_left isCount, ih (seq + 1),
        chunks_sendable some_left isCount.symm]
      · simp only [Option.map_some, packets, length, List.length_cons, UInt8.ofNat_add,
          UInt8.ofNat_one]
        rw [UInt8.add_assoc, UInt8.add_comm 1]
      · simp only [List.length_append, List.length_take, length_header, next]
        omega
      · simp only [List.length_drop, next]
        omega
      · simp only [List.length_drop]
        omega
    · have left : (front ++ rest).length - pos.toNat = rest.length + 4 := by
        rw [List.length_append]
        omega
      have nothing : sendable rest = [] := by
        rw [sendable, Nat.sub_eq_zero_of_le (Nat.le_of_not_lt some_left), List.take_zero]
      have stops : UInt32.ofNat (rest.length + 4) ≤ 4 := by
        rw [UInt32.le_iff_toNat_le, UInt32.toNat_ofNat']
        exact Nat.le_of_not_lt some_left
      rw [sendChunks, left, if_pos stops, nothing, chunks_nil]
      simp [packets]

end Chunk

/-- What is sent is the packets of the payload's chunks, none of which is empty. -/
theorem sendPacket_eq (payload : List Byte) (seq : Byte) :
    sendPacket payload seq = some ⟨packets seq (chunks maxPacketSize (sendable payload)),
      seq + UInt8.ofNat (chunks maxPacketSize (sendable payload)).length⟩ := by
  apply sendChunks_eq seq
  · rfl
  · have none_sent : (0 : UInt32).toNat = 0 := rfl
    rw [none_sent]
    omega
  · exact Nat.lt_succ_self _

/-! ## Reassembly -/

section Reassembly

variable {chunk rest long : List Byte} {seq : Byte}

/-- The parts of a packet at the front of a stream. -/
theorem packet_parts (size : Nat) (seq : Byte) (behind : List Byte) :
    (header size seq ++ behind).take 3 = toLittleEndian 3 size ∧
      (header size seq ++ behind).getD 3 0 = seq ∧ (header size seq ++ behind).drop 4 = behind := by
  have three : (toLittleEndian 3 size).length = 3 := length_toLittleEndian 3 size
  have four := length_header size seq
  refine ⟨?_, ?_, List.drop_left' four⟩
  · rw [header, List.append_assoc, List.take_left' three]
  · rw [header, List.append_assoc, List.getD_eq_getElem?_getD,
      List.getElem?_append_right (Nat.le_of_eq three), three]
    rfl

/-- One packet: it is the last one if it is not full. -/
theorem recvFrom_packet (fits : chunk.length ≤ maxPacketSize) :
    recvFrom long (header chunk.length seq ++ chunk ++ rest) =
      if chunk.length < maxPacketSize then some ⟨long ++ chunk, [seq], rest⟩
      else (recvFrom (long ++ chunk) rest).map
        fun received => { received with seqs := seq :: received.seqs } := by
  rcases packet_parts chunk.length seq (chunk ++ rest) with ⟨size, sequence, behind⟩
  have headed : 4 ≤ (header chunk.length seq ++ (chunk ++ rest)).length := by simp
  have number : littleEndian (toLittleEndian 3 chunk.length) = chunk.length := by
    apply littleEndian_toLittleEndian
    exact Nat.lt_of_le_of_lt fits (by decide)
  have enough : ¬(chunk ++ rest).length < chunk.length := by simp
  have joined : (if long = [] then chunk else long ++ chunk) = long ++ chunk := by
    split
    case isTrue empty => rw [empty, List.nil_append]
    case isFalse => rfl
  rw [List.append_assoc, recvFrom, if_pos headed, size, number, behind, sequence]
  dsimp only
  rw [if_neg enough, List.take_left, List.drop_left, joined]

/-- The payload of full packets and of one that is not full, behind what was read before. -/
theorem recvFrom_packets {full : List (List Byte)} {last : List Byte}
    (sizes : ∀ chunk ∈ full, chunk.length = maxPacketSize) (short : last.length < maxPacketSize) :
    recvFrom long (packets seq (full ++ [last])) =
      some ⟨long ++ full.flatten ++ last, consecutive seq (full.length + 1), []⟩ := by
  induction full generalizing long seq with
  | nil =>
    rw [List.nil_append, packets, packets, recvFrom_packet (Nat.le_of_lt short), if_pos short]
    simp [consecutive]
  | cons chunk full ih =>
    rw [List.forall_mem_cons] at sizes
    have isFull : ¬chunk.length < maxPacketSize := by
      rw [sizes.1]
      exact Nat.lt_irrefl _
    rw [List.cons_append, packets, recvFrom_packet (Nat.le_of_eq sizes.1), if_neg isFull, ih sizes.2]
    simp [consecutive]

/-- Behind packets that are all full it waits for one more. -/
theorem recvFrom_full {full : List (List Byte)}
    (sizes : ∀ chunk ∈ full, chunk.length = maxPacketSize) :
    recvFrom long (packets seq full) = none := by
  induction full generalizing long seq with
  | nil =>
    rw [packets, recvFrom]
    rfl
  | cons chunk full ih =>
    rw [List.forall_mem_cons] at sizes
    have isFull : ¬chunk.length < maxPacketSize := by
      rw [sizes.1]
      exact Nat.lt_irrefl _
    rw [packets, recvFrom_packet (Nat.le_of_eq sizes.1), if_neg isFull, ih sizes.2]
    rfl

/-- What the peer makes of the packets of a payload. -/
theorem recvPacket_chunks (payload : List Byte) (seq : Byte) :
    recvPacket (packets seq (chunks maxPacketSize payload)) =
      if maxPacketSize ∣ payload.length then none
      else some ⟨payload, consecutive seq (chunks maxPacketSize payload).length, []⟩ := by
  have positive : 0 < maxPacketSize := by decide
  rcases exists_full_chunks positive payload with ⟨full, last, rfl, sizes, short⟩
  rw [chunks_flatten positive sizes, recvPacket]
  cases last with
  | nil =>
    rw [if_pos ((dvd_length_iff sizes short).mpr rfl), chunks_nil, List.append_nil,
      recvFrom_full sizes]
  | cons byte last =>
    have more : ¬maxPacketSize ∣ (full.flatten ++ byte :: last).length := by
      rw [dvd_length_iff sizes short]
      exact List.cons_ne_nil byte last
    rw [if_neg more, chunks_of_le positive (List.cons_ne_nil byte last) (Nat.le_of_lt short),
      recvFrom_packets sizes short, List.length_append, List.nil_append]
    rfl

end Reassembly

/-- The payload comes back unless its last packet is full or there is none, as long as its size and the
header's together fit 32 bits. -/
theorem roundTrips_iff (payload : List Byte) (seq : Byte) : RoundTrips payload seq ↔
    ¬ maxPacketSize ∣ payload.length ∧ payload.length + 4 < 2 ^ 32 := by
  have received := recvPacket_chunks (sendable payload) seq
  unfold RoundTrips
  constructor
  · rintro ⟨sent, other, count, sends, receives, rfl, _⟩
    rw [sendPacket_eq] at sends
    cases sends
    rw [received] at receives
    split at receives
    case isTrue => contradiction
    case isFalse short =>
      have whole : sendable payload = payload := congrArg Received.payload (Option.some.inj receives)
      rw [whole] at short
      exact ⟨short, sendable_eq_self_iff.mp whole⟩
  · rintro ⟨short, small⟩
    have sends := sendPacket_eq payload seq
    rw [sendable_eq_self_iff.mpr small] at sends received
    rw [if_neg short] at received
    exact ⟨_, _, _, sends, received, rfl, rfl⟩

/-- A payload of exactly one full packet is sent as that packet only. -/
theorem not_roundTrips_full : ¬RoundTrips (List.replicate maxPacketSize 0) 0 := by
  rintro ⟨sent, other, count, sends, receives, _, _⟩
  have length : (List.replicate maxPacketSize (0 : Byte)).length = maxPacketSize :=
    List.length_replicate
  have small : sendable (List.replicate maxPacketSize 0) = List.replicate maxPacketSize 0 := by
    rw [sendable_eq_self_iff, length]
    decide
  have divides : maxPacketSize ∣ (List.replicate maxPacketSize (0 : Byte)).length := by rw [length]
  rw [sendPacket_eq, small] at sends
  cases sends
  rw [recvPacket_chunks, if_pos divides] at receives
  cases receives

/-! ## Responses -/

/-- A response of several payloads; the sequence number goes on from one to the next. -/
def sendAll : List (List Byte) → Byte → Option Sent
  | [], seq => some ⟨[], seq⟩
  | payload :: rest, seq =>
      (sendPacket payload seq).bind fun sent =>
        (sendAll rest sent.seq).map fun later => ⟨sent.written ++ later.written, later.seq⟩

/-- The payloads that a peer reads, one after the other, with the sequence numbers of all packets. -/
structure Response where
  payloads : List (List Byte)
  seqs : List Byte
  left : List Byte
  deriving DecidableEq, Repr

def recvAll : Nat → List Byte → Option Response
  | 0, stream => some ⟨[], [], stream⟩
  | count + 1, stream =>
      (recvPacket stream).bind fun received =>
        (recvAll count received.left).map fun later =>
          ⟨received.payload :: later.payloads, received.seqs ++ later.seqs, later.left⟩

theorem consecutive_add (seq : Byte) (first more : Nat) :
    consecutive seq (first + more) =
      consecutive seq first ++ consecutive (seq + UInt8.ofNat first) more := by
  induction first generalizing seq with
  | zero => simp [consecutive]
  | succ first ih =>
    have next : seq + 1 + UInt8.ofNat first = seq + UInt8.ofNat (first + 1) := by
      rw [UInt8.ofNat_add, UInt8.add_assoc, UInt8.add_comm 1]
      rfl
    rw [Nat.add_right_comm, consecutive, consecutive, ih, next, List.cons_append]

/-- The header of a packet is read as it is, whatever comes in behind the packet. -/
theorem header_append {stream : List Byte} (headed : 4 ≤ stream.length) (behind : List Byte) :
    4 ≤ (stream ++ behind).length ∧ (stream ++ behind).take 3 = stream.take 3 ∧
      (stream ++ behind).getD 3 0 = stream.getD 3 0 ∧
      (stream ++ behind).drop 4 = stream.drop 4 ++ behind := by
  refine ⟨?_, List.take_append_of_le_length (by omega), ?_, List.drop_append_of_le_length headed⟩
  · rw [List.length_append]
    omega
  · rw [List.getD_eq_getElem?_getD, List.getD_eq_getElem?_getD, List.getElem?_append_left (by omega)]

theorem body_append {stream : List Byte} {size : Nat} (enough : ¬stream.length < size)
    (behind : List Byte) : ¬(stream ++ behind).length < size ∧
      (stream ++ behind).take size = stream.take size ∧
      (stream ++ behind).drop size = stream.drop size ++ behind := by
  have within : size ≤ stream.length := Nat.le_of_not_lt enough
  refine ⟨?_, List.take_append_of_le_length within, List.drop_append_of_le_length within⟩
  rw [List.length_append]
  omega

/-- A payload ends at its first packet that is not full, whatever comes in behind that. -/
theorem recvFrom_append {long stream : List Byte} {received : Received}
    (reads : recvFrom long stream = some received) (behind : List Byte) :
    recvFrom long (stream ++ behind) = some { received with left := received.left ++ behind } := by
  fun_induction recvFrom long stream generalizing received with
  | case1 | case4 => contradiction
  | case2 long stream headed size seq rest enough packet short =>
    obtain ⟨headed', size_eq, seq_eq, rest_eq⟩ := header_append headed behind
    obtain ⟨enough', body_eq, left_eq⟩ := body_append enough behind
    cases reads
    rw [recvFrom, if_pos headed']
    simp only [size_eq, seq_eq, rest_eq]
    rw [if_neg enough', if_pos short, body_eq, left_eq]
    rfl
  | case3 long stream headed size seq rest enough packet full =>
    rename_i ih
    obtain ⟨headed', size_eq, seq_eq, rest_eq⟩ := header_append headed behind
    obtain ⟨enough', body_eq, left_eq⟩ := body_append enough behind
    obtain ⟨later, found, rfl⟩ := Option.map_eq_some_iff.mp reads
    rw [recvFrom, if_pos headed']
    simp only [size_eq, seq_eq, rest_eq]
    rw [if_neg enough', if_neg full, body_eq, left_eq, ih found]
    rfl

/-- Every payload of a response comes back by itself, in order, and the sequence numbers of all packets
follow one another. -/
theorem recvAll_sendAll (payloads : List (List Byte)) (seq : Byte)
    (fit : ∀ payload ∈ payloads, ¬maxPacketSize ∣ payload.length ∧ payload.length + 4 < 2 ^ 32) :
    ∃ sent count, sendAll payloads seq = some sent ∧
      recvAll payloads.length sent.written = some ⟨payloads, consecutive seq count, []⟩ ∧
      sent.seq = seq + UInt8.ofNat count := by
  induction payloads generalizing seq with
  | nil => exact ⟨_, 0, rfl, rfl, by simp⟩
  | cons payload rest ih =>
    rw [List.forall_mem_cons] at fit
    have small := sendable_eq_self_iff.mpr fit.1.2
    have sends := sendPacket_eq payload seq
    have reads := recvPacket_chunks payload seq
    rw [small] at sends
    rw [if_neg fit.1.1] at reads
    generalize (chunks maxPacketSize payload).length = first at sends reads
    obtain ⟨later, more, sendsRest, readsRest, last⟩ := ih (seq + UInt8.ofNat first) fit.2
    refine ⟨⟨packets seq (chunks maxPacketSize payload) ++ later.written, later.seq⟩, first + more,
      ?_, ?_, ?_⟩
    · rw [sendAll, sends, Option.bind_some, sendsRest, Option.map_some]
    · rw [List.length_cons, recvAll, recvPacket, recvFrom_append reads, Option.bind_some,
        List.nil_append, readsRest, Option.map_some, consecutive_add]
    · dsimp only
      rw [last, UInt8.ofNat_add, UInt8.add_assoc]

/-- A response of two payloads, with the last two sequence numbers. -/
theorem recvAll_sendAll_two : ∃ sent count, sendAll [[1], [2, 3]] 254 = some sent ∧
    recvAll 2 sent.written = some ⟨[[1], [2, 3]], consecutive 254 count, []⟩ ∧
    sent.seq = 254 + UInt8.ofNat count := by
  have fit : ∀ payload ∈ [[1], [2, 3]],
      ¬maxPacketSize ∣ (payload : List Byte).length ∧ payload.length + 4 < 2 ^ 32 := by
    simp [maxPacketSize]
  exact recvAll_sendAll [[1], [2, 3]] 254 fit

end SqlRelay.Mysql.Framing
