import SqlRelay.Oracle.Values
import SqlRelay.Protocol.HostOrder

/-!
# Length-prefixed integers

The number of bytes, and the bytes, most significant first.  The writer uses none, one, two or four;
the reader takes any number up to four, and asks for all of them before it reads one.
-/

namespace SqlRelay.Protocol

open SqlRelay.Foundation

/-! ## The source -/

/-- `writeLenPreInt`: what is appended to the buffer. -/
def writeLenPreInt (host : ByteOrder) (value : UInt32) : List Byte :=
  if value = 0 then [0]
  else if value ≤ 0xff then [1, value.toUInt8]
  else if value ≤ 0xffff then 2 :: append host 2 (hostTo host .big 2 value.toUInt16.toNat)
  else 4 :: append host 4 (hostTo host .big 4 value.toNat)

/-- `writeLenPreInt` of a signed value. -/
def writeLenPreSignedInt (host : ByteOrder) (value : Int32) : List Byte :=
  writeLenPreInt host value.toUInt32

/-- What a read returns and what it leaves behind its pointers. -/
structure LenPreInt where
  ok : Bool
  value : UInt32
  rpout : Reader

/-- `readLenPreInt` -/
def readLenPreInt (packet : Buffer) (rp : Reader) : LenPreInt :=
  if packet.bytes.length - rp.rp < 1 then ⟨false, 0, rp⟩
  else
    let (count, next) := Reader.read packet rp 1
    let count := (count.headD 0).toNat
    if 4 < count ∨ packet.bytes.length - next.rp < count then
      ⟨false, 0, { next with rp := rp.rp }⟩
    else
      let (bytes, next) := Reader.read packet next count
      ⟨true, bytes.foldl (fun value byte => value <<< 8 ||| byte.toUInt32) 0, next⟩

/-! ## Reading -/

variable {host : ByteOrder} {packet : Buffer} {rp : Reader} {bytes rest : List Byte}

theorem toNat_shift32 (value : UInt32) (byte : Byte) :
    (value <<< 8 ||| byte.toUInt32).toNat = (value.toNat * 256 + byte.toNat) % 2 ^ 32 := by
  have small := byte.toNat_lt
  have eight : (8 : UInt32).toNat % 32 = 8 := by decide
  have shifted : value.toNat <<< 8 % 2 ^ 32 = (value.toNat % 2 ^ 24) <<< 8 := by
    rw [Nat.shiftLeft_eq, Nat.shiftLeft_eq]
    omega
  rw [UInt32.toNat_or, UInt32.toNat_shiftLeft, UInt8.toNat_toUInt32, eight, shifted, Nat.or_comm,
    or_shiftLeft byte.toNat_lt]
  omega

theorem readLenPreInt_counted {count : Byte} (counts : count.toNat = bytes.length)
    (few : bytes.length ≤ 4) (here : Reader.At packet rp (count :: bytes ++ rest)) :
    readLenPreInt packet rp =
      ⟨true, UInt32.ofNat (ByteOrder.big.read bytes), rp.advance (1 + bytes.length)⟩ := by
  rw [List.cons_append] at here
  have length := here.length
  simp only [List.length_cons, List.length_append] at length
  have behind := here.advance_cons.read
  have some_left : ¬packet.bytes.length - rp.rp < 1 := by omega
  have enough : ¬(4 < bytes.length ∨ packet.bytes.length - (rp.advance 1).rp < bytes.length) := by
    change ¬(4 < bytes.length ∨ packet.bytes.length - (rp.rp + 1) < bytes.length)
    omega
  have number : bytes.foldl (fun (value : UInt32) byte => value <<< 8 ||| byte.toUInt32) 0 =
      UInt32.ofNat (ByteOrder.big.read bytes) := by
    apply UInt32.toNat_inj.mp
    rw [toNat_foldl_shift 0 (by decide) toNat_shift32, UInt32.toNat_ofNat']
    simp
  rw [readLenPreInt, if_neg some_left, here.read_cons]
  simp only [List.headD_cons, counts]
  rw [if_neg enough, behind, number, Reader.advance_advance]

/-- A read refuses and stays where it is, or it takes the count and so many bytes, all of them in the
packet. -/
structure LenPreKeeps (packet : Buffer) (rp : Reader) : Prop where
  refused : (readLenPreInt packet rp).ok = false → (readLenPreInt packet rp).rpout = rp
  accepted : (readLenPreInt packet rp).ok = true → ∃ count ≤ 4,
    count = (packet.byteAt rp.rp).toNat ∧ rp.rp + (1 + count) ≤ packet.bytes.length ∧
      (readLenPreInt packet rp).rpout = rp.advance (1 + count)

/-- The read, with what it has asked for made out. -/
theorem readLenPreInt_eq (packet : Buffer) (rp : Reader) :
    readLenPreInt packet rp =
      if packet.bytes.length < rp.rp + 1 ∨ 4 < (packet.byteAt rp.rp).toNat ∨
          packet.bytes.length < rp.rp + 1 + (packet.byteAt rp.rp).toNat then ⟨false, 0, rp⟩
      else
        ⟨true, (Reader.read packet (rp.advance 1) (packet.byteAt rp.rp).toNat).1.foldl
          (fun (value : UInt32) byte => value <<< 8 ||| byte.toUInt32) 0,
          rp.advance (1 + (packet.byteAt rp.rp).toNat)⟩ := by
  have byte : (Reader.read packet rp 1).1.headD 0 = packet.byteAt rp.rp := by simp [Reader.read]
  rw [readLenPreInt]
  split
  case isTrue empty => rw [if_pos (Or.inl (by omega))]
  case isFalse some_left =>
    have next := @Reader.read_snd packet rp 1 (by omega)
    simp only [byte, next]
    split
    case isTrue refused =>
      rw [if_pos]
      · rfl
      · have left : (rp.advance 1).rp = rp.rp + 1 := rfl
        omega
    case isFalse accepted =>
      have left : (rp.advance 1).rp = rp.rp + 1 := rfl
      rw [if_neg (by omega), Reader.read_snd packet (by omega), Reader.advance_advance]

theorem readLenPreInt_keeps (packet : Buffer) (rp : Reader) : LenPreKeeps packet rp := by
  have reads := readLenPreInt_eq packet rp
  split at reads
  case isTrue =>
    constructor
    · intro _
      rw [reads]
    · intro accepted
      rw [reads] at accepted
      cases accepted
  case isFalse enough =>
    constructor
    · intro refused
      rw [reads] at refused
      cases refused
    · intro _
      rw [reads]
      exact ⟨(packet.byteAt rp.rp).toNat, by omega, rfl, by omega, rfl⟩

/-! ## Round trips -/

/-- What was written is read back as the value, whatever is before and behind it in the packet. -/
def LenPreReads (written : List Byte) (value : UInt32) : Prop :=
  ∀ (before following : List Byte) (beyond : Nat → Byte),
    readLenPreInt ⟨before ++ (written ++ following), beyond⟩ ⟨before.length, true⟩ =
      ⟨true, value, ⟨before.length + written.length, true⟩⟩

theorem lenPreReads_of_bytes {written : List Byte} {value : UInt32} {count : Byte}
    (form : written = count :: bytes) (counts : count.toNat = bytes.length)
    (few : bytes.length ≤ 4) (same : ByteOrder.big.read bytes = value.toNat) :
    LenPreReads written value := by
  intro before following beyond
  rw [form, readLenPreInt_counted counts few (Reader.at_behind before _ beyond), same,
    UInt32.ofNat_toNat, List.length_cons, Nat.add_comm 1]
  rfl

theorem writeLenPreInt_reads (host : ByteOrder) (value : UInt32) :
    LenPreReads (writeLenPreInt host value) value := by
  have fits := value.toNat_lt
  have one : value ≤ 0xff ↔ value.toNat ≤ 255 := UInt32.le_iff_toNat_le
  have two : value ≤ 0xffff ↔ value.toNat ≤ 65535 := UInt32.le_iff_toNat_le
  rw [writeLenPreInt]
  simp only [one, two, append_hostTo]
  split
  case isTrue zero =>
    subst zero
    exact lenPreReads_of_bytes rfl rfl (by decide) rfl
  case isFalse =>
    split
    case isTrue small =>
      have single : ByteOrder.big.read [value.toUInt8] = value.toNat := by
        rw [ByteOrder.read, List.reverse_singleton, littleEndian_singleton, UInt32.toNat_toUInt8]
        omega
      exact lenPreReads_of_bytes rfl rfl (by simp) single
    case isFalse =>
      split
      case isTrue small =>
        have same : value.toUInt16.toNat = value.toNat := by
          rw [UInt32.toNat_toUInt16]
          omega
        rw [same]
        exact lenPreReads_of_bytes rfl (by simp) (by simp) (ByteOrder.read_write .big (by omega))
      case isFalse =>
        exact lenPreReads_of_bytes rfl (by simp) (by simp) (ByteOrder.read_write .big (by omega))

/-- Every value makes the round trip, a signed one as the bits that it has; and no read, of
whatever bytes, goes outside of the packet. -/
theorem lenPreInt_roundTrips (host : ByteOrder) :
    (∀ value : UInt32, LenPreReads (writeLenPreInt host value) value) ∧
      (∀ value : Int32, LenPreReads (writeLenPreSignedInt host value) value.toUInt32) ∧
      ∀ (packet : Buffer) (rp : Reader), LenPreKeeps packet rp := by
  refine ⟨writeLenPreInt_reads host, ?_, readLenPreInt_keeps⟩
  intro value
  exact writeLenPreInt_reads host value.toUInt32

/-! ## Other protocols -/

/-- What a session of the oracle protocol reads is what the read that all protocols share reads of
its packet. -/
theorem readLenPreInt_oracle (session : Oracle.Session) {rp stop : Nat}
    (inside : stop ≤ session.resppacket.length) (beyond : Nat → Byte) :
    let answer := readLenPreInt ⟨session.resppacket.take stop, beyond⟩ ⟨rp, true⟩
    Oracle.readLenPreInt session rp stop = ⟨answer.ok, answer.value, answer.rpout.rp⟩ := by
  intro answer
  have length : (session.resppacket.take stop).length = stop := List.length_take_of_le inside
  have reads : answer = readLenPreInt ⟨session.resppacket.take stop, beyond⟩ ⟨rp, true⟩ := rfl
  rw [readLenPreInt_eq] at reads
  simp only [length] at reads
  rw [Oracle.readLenPreInt]
  split
  case isTrue empty =>
    rw [if_pos (Or.inl (by omega))] at reads
    rw [reads]
  case isFalse some_left =>
    have byte : Buffer.byteAt ⟨session.resppacket.take stop, beyond⟩ rp = session.byteAt rp := by
      have before : (session.resppacket.take stop)[rp]? = session.resppacket[rp]? :=
        List.getElem?_take_of_lt (by omega)
      have there : session.resppacket[rp]? = some session.resppacket[rp] :=
        List.getElem?_eq_getElem (by omega)
      rw [Buffer.byteAt, Oracle.Session.byteAt, List.getD_eq_getElem?_getD,
        List.getD_eq_getElem?_getD, before, there]
      rfl
    rw [byte] at reads
    split
    case isTrue refused =>
      rw [if_pos (by omega)] at reads
      rw [reads]
    case isFalse accepted =>
      have enough : (Reader.advance ⟨rp, true⟩ 1).rp + (session.byteAt rp).toNat ≤
          (Buffer.mk (session.resppacket.take stop) beyond).bytes.length := by
        change rp + 1 + (session.byteAt rp).toNat ≤ (session.resppacket.take stop).length
        omega
      rw [if_neg (by omega), Reader.read_fst _ enough] at reads
      have bytes : ((session.resppacket.take stop).drop (rp + 1)).take (session.byteAt rp).toNat =
          session.bytesAt (rp + 1) (session.byteAt rp).toNat := by
        rw [List.drop_take, List.take_take, Nat.min_eq_left (by omega)]
        rfl
      rw [reads]
      change _ = (⟨true, (((session.resppacket.take stop).drop (rp + 1)).take
        (session.byteAt rp).toNat).foldl _ 0, rp + (1 + (session.byteAt rp).toNat)⟩ :
          Oracle.Answer UInt32)
      rw [bytes, Nat.add_assoc]
      rfl

end SqlRelay.Protocol
