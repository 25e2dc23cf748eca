import SqlRelay.Mysql.Parameters
import SqlRelay.Protocol.HostOrder

/-!
# Length-encoded integers

One byte, or a marker and two, three or eight bytes.  The markers are the bytes from 0xfb on, so that
a single byte goes up to 250.
-/

namespace SqlRelay.Protocol

open SqlRelay.Foundation

/-! ## The source -/

/-- `writeLenEncInt`: what is appended to the buffer. -/
def writeLenEncInt (host : ByteOrder) (value : UInt64) : List Byte :=
  if value ≥ 16777216 then 0xfe :: append host 8 (hostTo host .little 8 value.toNat)
  else if value ≥ 65536 then 0xfd :: writeTriplet host value.toUInt32.toNat
  else if value ≥ 251 then 0xfc :: append host 2 (hostTo host .little 2 value.toUInt16.toNat)
  else [value.toUInt8]

/-- What a read returns and what it leaves behind its pointers. -/
structure LenEncInt where
  ok : Bool
  value : UInt64
  isnull : Bool
  rpout : Reader

/-- A read that returns false. -/
def LenEncInt.refused (rpout : Reader) : LenEncInt := ⟨false, 0, false, rpout⟩

/-- `readLenEncInt`; `asksNull` is whether there is a pointer for `isnull`. -/
def readLenEncInt (host : ByteOrder) (asksNull : Bool) (packet : Buffer) (rp : Reader) :
    LenEncInt :=
  let left := packet.bytes.length - rp.rp
  if left = 0 then .refused rp
  else
    let (marker, next) := Reader.read packet rp 1
    let rpin := { next with rp := rp.rp }
    if marker = [0xfe] then
      if left < 9 then .refused rpin
      else
        let (val, next) := Reader.read packet next 8
        ⟨true, UInt64.ofNat (toHost host .little 8 (host.read val)), false, next⟩
    else if marker = [0xfd] then
      if left < 4 then .refused rpin
      else
        let (val, next) := Reader.read packet next 3
        let val := (val.getD 0 0).toUInt32 ||| (val.getD 1 0).toUInt32 <<< 8 |||
          (val.getD 2 0).toUInt32 <<< 16
        ⟨true, val.toUInt64, false, next⟩
    else if marker = [0xfc] then
      if left < 3 then .refused rpin
      else
        let (val, next) := Reader.read packet next 2
        ⟨true, UInt64.ofNat (toHost host .little 2 (host.read val)), false, next⟩
    else if marker = [0xfb] ∧ asksNull = true then ⟨true, 0, true, next⟩
    else ⟨true, UInt64.ofNat (littleEndian marker), false, next⟩

/-! ## Reading back -/

variable {host : ByteOrder} {asksNull : Bool} {packet : Buffer} {rp : Reader}
variable {marker : Byte} {val rest : List Byte}

theorem readLenEncInt_eight (isEight : val.length = 8)
    (here : Reader.At packet rp (0xfe :: val ++ rest)) :
    readLenEncInt host asksNull packet rp =
      ⟨true, UInt64.ofNat (littleEndian val), false, rp.advance 9⟩ := by
  rw [List.cons_append] at here
  have length := here.length
  simp only [List.length_cons, List.length_append, isEight] at length
  have some_left : ¬packet.bytes.length - rp.rp = 0 := by omega
  have enough : ¬packet.bytes.length - rp.rp < 9 := by omega
  have behind := here.advance_cons.read
  have number : toHost host .little val.length (host.read val) = littleEndian val :=
    toHost_read host .little val
  rw [isEight] at behind number
  simp [readLenEncInt, some_left, enough, here.read_cons, behind, number]

theorem readLenEncInt_two (isTwo : val.length = 2)
    (here : Reader.At packet rp (0xfc :: val ++ rest)) :
    readLenEncInt host asksNull packet rp =
      ⟨true, UInt64.ofNat (littleEndian val), false, rp.advance 3⟩ := by
  rw [List.cons_append] at here
  have length := here.length
  simp only [List.length_cons, List.length_append, isTwo] at length
  have some_left : ¬packet.bytes.length - rp.rp = 0 := by omega
  have enough : ¬packet.bytes.length - rp.rp < 3 := by omega
  have behind := here.advance_cons.read
  have number : toHost host .little val.length (host.read val) = littleEndian val :=
    toHost_read host .little val
  rw [isTwo] at behind number
  simp [readLenEncInt, some_left, enough, here.read_cons, behind, number]

/-- Three bytes that are shifted into their places. -/
theorem shifted_toUInt64 (first second third : Byte) :
    (first.toUInt32 ||| second.toUInt32 <<< 8 ||| third.toUInt32 <<< 16).toUInt64 =
      UInt64.ofNat (littleEndian [first, second, third]) := by
  have firstSmall := first.toNat_lt
  have secondSmall := second.toNat_lt
  have thirdSmall := third.toNat_lt
  have secondFits : second.toNat <<< 8 % 2 ^ 32 = second.toNat <<< 8 := by
    rw [Nat.shiftLeft_eq]
    omega
  have thirdFits : third.toNat <<< 16 % 2 ^ 32 = third.toNat <<< 16 := by
    rw [Nat.shiftLeft_eq]
    omega
  have eight : (8 : UInt32).toNat % 32 = 8 := by decide
  have sixteen : (16 : UInt32).toNat % 32 = 16 := by decide
  apply UInt64.toNat_inj.mp
  simp only [UInt32.toNat_toUInt64, UInt32.toNat_or, UInt32.toNat_shiftLeft, UInt8.toNat_toUInt32,
    UInt64.toNat_ofNat', littleEndian]
  rw [eight, sixteen, secondFits, thirdFits, or_shiftLeft firstSmall, or_shiftLeft (by omega)]
  omega

theorem readLenEncInt_three (isThree : val.length = 3)
    (here : Reader.At packet rp (0xfd :: val ++ rest)) :
    readLenEncInt host asksNull packet rp =
      ⟨true, UInt64.ofNat (littleEndian val), false, rp.advance 4⟩ := by
  rw [List.cons_append] at here
  have length := here.length
  simp only [List.length_cons, List.length_append, isThree] at length
  have some_left : ¬packet.bytes.length - rp.rp = 0 := by omega
  have enough : ¬packet.bytes.length - rp.rp < 4 := by omega
  have behind := here.advance_cons.read
  rw [isThree] at behind
  obtain ⟨first, second, third, rfl⟩ := List.length_eq_three.mp isThree
  rw [← shifted_toUInt64]
  simp [readLenEncInt, some_left, enough, here.read_cons, behind]

theorem readLenEncInt_one (small : marker.toNat < 251)
    (here : Reader.At packet rp (marker :: rest)) :
    readLenEncInt host asksNull packet rp =
      ⟨true, UInt64.ofNat marker.toNat, false, rp.advance 1⟩ := by
  have length := here.length
  simp only [List.length_cons] at length
  have some_left : ¬packet.bytes.length - rp.rp = 0 := by omega
  have noMarker : ∀ other : Byte, 251 ≤ other.toNat → marker ≠ other := by
    intro other large same
    rw [same] at small
    omega
  have notFe := noMarker 0xfe (by decide)
  have notFd := noMarker 0xfd (by decide)
  have notFc := noMarker 0xfc (by decide)
  have notFb := noMarker 0xfb (by decide)
  simp [readLenEncInt, some_left, here.read_cons, notFe, notFd, notFc, notFb]

/-- Whatever form the marker stands for, it is refused if its bytes are not all there. -/
theorem readLenEncInt_short {left : List Byte}
    (short : left = [] ∨ (marker = 0xfe ∧ val.length = 8 ∨ marker = 0xfd ∧ val.length = 3 ∨
      marker = 0xfc ∧ val.length = 2) ∧ ∃ count < val.length, left = marker :: val.take count)
    (here : Reader.At packet rp left) :
    readLenEncInt host asksNull packet rp = .refused rp := by
  have length := here.length
  rcases short with rfl | ⟨form, count, few, rfl⟩
  · have none_left : packet.bytes.length - rp.rp = 0 := by
      rw [List.length_nil] at length
      omega
    simp [readLenEncInt, none_left]
  · simp only [List.length_cons, List.length_take] at length
    have some_left : ¬packet.bytes.length - rp.rp = 0 := by omega
    rcases form with ⟨rfl, isLength⟩ | ⟨rfl, isLength⟩ | ⟨rfl, isLength⟩
    · have few : packet.bytes.length - rp.rp < 9 := by omega
      simp [readLenEncInt, some_left, few, here.read_cons, Reader.advance]
    · have few : packet.bytes.length - rp.rp < 4 := by omega
      simp [readLenEncInt, some_left, few, here.read_cons, Reader.advance]
    · have few : packet.bytes.length - rp.rp < 3 := by omega
      simp [readLenEncInt, some_left, few, here.read_cons, Reader.advance]

/-! ## What is written -/

/-- The bytes that stand for a value, in one of the four forms. -/
inductive LenEncodes (value : UInt64) : List Byte → Prop where
  | one {marker : Byte} (small : marker.toNat < 251) (same : marker.toNat = value.toNat) :
      LenEncodes value [marker]
  | two {val : List Byte} (isTwo : val.length = 2) (same : littleEndian val = value.toNat) :
      LenEncodes value (0xfc :: val)
  | three {val : List Byte} (isThree : val.length = 3) (same : littleEndian val = value.toNat) :
      LenEncodes value (0xfd :: val)
  | eight {val : List Byte} (isEight : val.length = 8) (same : littleEndian val = value.toNat) :
      LenEncodes value (0xfe :: val)

theorem writeLenEncInt_encodes (host : ByteOrder) (value : UInt64) :
    LenEncodes value (writeLenEncInt host value) := by
  have fits := value.toNat_lt
  rw [writeLenEncInt]
  split
  case isTrue =>
    rw [append_hostTo]
    exact .eight (by simp) (littleEndian_toLittleEndian (by omega))
  case isFalse belowEight =>
    have belowEight : value.toNat < 16777216 := by
      simpa [UInt64.le_iff_toNat_le] using belowEight
    split
    case isTrue =>
      have same : value.toUInt32.toNat = value.toNat := by
        rw [UInt64.toNat_toUInt32]
        omega
      rw [writeTriplet_eq, same]
      exact .three (by simp) (littleEndian_toLittleEndian (by omega))
    case isFalse belowThree =>
      have belowThree : value.toNat < 65536 := by
        simpa [UInt64.le_iff_toNat_le] using belowThree
      split
      case isTrue =>
        have same : value.toUInt16.toNat = value.toNat := by
          rw [UInt64.toNat_toUInt16]
          omega
        rw [append_hostTo, same]
        exact .two (by simp) (littleEndian_toLittleEndian (by omega))
      case isFalse belowTwo =>
        have belowTwo : value.toNat < 251 := by
          simpa [UInt64.le_iff_toNat_le] using belowTwo
        have same : value.toUInt8.toNat = value.toNat := by
          rw [UInt64.toNat_toUInt8]
          omega
        exact .one (by omega) same

theorem LenEncodes.read {value : UInt64} {bytes : List Byte} (encodes : LenEncodes value bytes)
    (here : Reader.At packet rp (bytes ++ rest)) :
    readLenEncInt host asksNull packet rp = ⟨true, value, false, rp.advance bytes.length⟩ := by
  cases encodes with
  | one small same =>
      rw [readLenEncInt_one small here, same, UInt64.ofNat_toNat]
      rfl
  | two isTwo same =>
      rw [readLenEncInt_two isTwo here, same, UInt64.ofNat_toNat, List.length_cons, isTwo]
  | three isThree same =>
      rw [readLenEncInt_three isThree here, same, UInt64.ofNat_toNat, List.length_cons, isThree]
  | eight isEight same =>
      rw [readLenEncInt_eight isEight here, same, UInt64.ofNat_toNat, List.length_cons, isEight]

theorem LenEncodes.truncated {value : UInt64} {bytes : List Byte}
    (encodes : LenEncodes value bytes) {count : Nat} (few : count < bytes.length)
    (here : Reader.At packet rp (bytes.take count)) :
    readLenEncInt host asksNull packet rp = .refused rp := by
  cases count with
  | zero => exact @readLenEncInt_short host asksNull packet rp 0 [] _ (Or.inl rfl) here
  | succ count =>
      cases encodes with
      | one small same => simp at few
      | two isTwo same =>
          exact readLenEncInt_short
            (Or.inr ⟨Or.inr (Or.inr ⟨rfl, isTwo⟩), count, by simpa using few, rfl⟩) here
      | three isThree same =>
          exact readLenEncInt_short
            (Or.inr ⟨Or.inr (Or.inl ⟨rfl, isThree⟩), count, by simpa using few, rfl⟩) here
      | eight isEight same =>
          exact readLenEncInt_short
            (Or.inr ⟨Or.inl ⟨rfl, isEight⟩, count, by simpa using few, rfl⟩) here

/-! ## Round trips -/

/-- What was written for a value is read back, whatever is before and behind it in the packet; and a
packet that ends before it does is refused.  Neither reads outside of the packet. -/
structure LenEncRoundTrips (host : ByteOrder) (value : UInt64) : Prop where
  whole : ∀ (asksNull : Bool) (before following : List Byte) (beyond : Nat → Byte),
    readLenEncInt host asksNull ⟨before ++ (writeLenEncInt host value ++ following), beyond⟩
        ⟨before.length, true⟩ =
      ⟨true, value, false, ⟨before.length + (writeLenEncInt host value).length, true⟩⟩
  truncated : ∀ (asksNull : Bool) (before : List Byte) (beyond : Nat → Byte) (count : Nat),
    count < (writeLenEncInt host value).length →
      readLenEncInt host asksNull ⟨before ++ (writeLenEncInt host value).take count, beyond⟩
          ⟨before.length, true⟩ =
        .refused ⟨before.length, true⟩

/-- Every value makes the round trip, on hosts of either byte order. -/
theorem lenEncInt_roundTrips (host : ByteOrder) (value : UInt64) : LenEncRoundTrips host value := by
  have encodes := writeLenEncInt_encodes host value
  constructor
  · intro asksNull before following beyond
    exact encodes.read (Reader.at_behind before _ beyond)
  · intro asksNull before beyond count few
    exact encodes.truncated few (Reader.at_behind before _ beyond)

end SqlRelay.Protocol
