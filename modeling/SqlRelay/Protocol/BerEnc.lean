import SqlRelay.Protocol.HostOrder

/-!
# BER-encoded integers

One byte up to 127, or the number of bytes and the bytes, most significant first.  The reader takes up
to eight of them; the writer has forms for up to four, and swaps the bytes of the three-byte form
twice.
-/

namespace SqlRelay.Protocol

open SqlRelay.Foundation

/-! ## The source -/

/-- `writeBerEncInt`: what is appended to the buffer. -/
def writeBerEncInt (host : ByteOrder) (value : UInt64) : List Byte :=
  if value < 128 then [value.toUInt8]
  else if value ≤ 0x000000FF then [0x81, value.toUInt8]
  else if value ≤ 0x0000FFFF then
    0x82 :: append host 2 (hostTo host .big 2 value.toUInt16.toNat)
  else if value ≤ 0x00FFFFFF then
    0x83 :: writeTriplet host (hostTo host .big 4 value.toUInt32.toNat)
  else if value ≤ 0xFFFFFFFF then
    0x84 :: append host 4 (hostTo host .big 4 value.toUInt32.toNat)
  else []

/-- `readBerEncInt`, which does not know where the packet ends.  If it returns false it leaves what
its pointers point to as it is. -/
def readBerEncInt (packet : Buffer) (rp : Reader) : Option (UInt64 × Reader) :=
  let (first, next) := Reader.read packet rp 1
  let first := first.headD 0
  if first < 128 then some (first.toUInt64, next)
  else
    let n := first &&& 0x7f
    if n > 8 then none
    else
      let (bytes, next) := Reader.read packet next n.toNat
      some (bytes.foldl (fun value byte => value <<< 8 ||| byte.toUInt64) 0, next)

/-! ## Reading -/

variable {host : ByteOrder} {packet : Buffer} {rp : Reader} {bytes rest : List Byte}

theorem toNat_shift (value : UInt64) (byte : Byte) :
    (value <<< 8 ||| byte.toUInt64).toNat = (value.toNat * 256 + byte.toNat) % 2 ^ 64 := by
  have small := byte.toNat_lt
  have eight : (8 : UInt64).toNat % 64 = 8 := by decide
  have shifted : value.toNat <<< 8 % 2 ^ 64 = (value.toNat % 2 ^ 56) <<< 8 := by
    rw [Nat.shiftLeft_eq, Nat.shiftLeft_eq]
    omega
  rw [UInt64.toNat_or, UInt64.toNat_shiftLeft, UInt8.toNat_toUInt64, eight, shifted, Nat.or_comm,
    or_shiftLeft byte.toNat_lt]
  omega

theorem readBerEncInt_one {first : Byte} (small : first < 128)
    (here : Reader.At packet rp (first :: rest)) :
    readBerEncInt packet rp = some (first.toUInt64, rp.advance 1) := by
  simp [readBerEncInt, here.read_cons, small]

theorem readBerEncInt_counted {first : Byte} (counts : first.toNat = 128 + bytes.length)
    (few : bytes.length ≤ 8) (here : Reader.At packet rp (first :: bytes ++ rest)) :
    readBerEncInt packet rp =
      some (UInt64.ofNat (ByteOrder.big.read bytes), rp.advance (1 + bytes.length)) := by
  rw [List.cons_append] at here
  have behind := here.advance_cons.read
  have large : ¬first < 128 := by
    rw [UInt8.lt_iff_toNat_lt]
    change ¬first.toNat < 128
    omega
  have masked : (first &&& 0x7f).toNat = bytes.length := by
    have low : first.toNat &&& 2 ^ 7 - 1 = first.toNat % 2 ^ 7 := Nat.and_two_pow_sub_one_eq_mod _ 7
    rw [UInt8.toNat_and]
    change first.toNat &&& 2 ^ 7 - 1 = bytes.length
    omega
  have fits : ¬first &&& 0x7f > 8 := by
    rw [gt_iff_lt, UInt8.lt_iff_toNat_lt, masked]
    change ¬8 < bytes.length
    omega
  have number : bytes.foldl (fun (value : UInt64) byte => value <<< 8 ||| byte.toUInt64) 0 =
      UInt64.ofNat (ByteOrder.big.read bytes) := by
    apply UInt64.toNat_inj.mp
    rw [toNat_foldl_shift 0 (by decide) toNat_shift, UInt64.toNat_ofNat']
    simp
  simp [readBerEncInt, here.read_cons, large, fits, masked, behind, number]

/-! ## What is written -/

/-- What was written for a value is read back, and what the read consumes is what was written. -/
def BerRoundTrips (host : ByteOrder) (value : UInt64) : Prop :=
  ∀ (before following : List Byte) (beyond : Nat → Byte),
    readBerEncInt ⟨before ++ (writeBerEncInt host value ++ following), beyond⟩
        ⟨before.length, true⟩ =
      some (value, ⟨before.length + (writeBerEncInt host value).length, true⟩)

/-- The value has a form that the writer gets right: it takes one, two or four bytes; or it takes
three on a big-endian host, and the first and the last of them are the same. -/
def BerWritable (host : ByteOrder) (value : UInt64) : Prop :=
  value.toNat < 65536 ∨ 16777216 ≤ value.toNat ∧ value.toNat < 4294967296 ∨
    host = .big ∧ value.toNat < 16777216 ∧ value.toNat % 256 = value.toNat / 65536

/-- A form with the bytes counted is read back if the bytes are those of the value. -/
theorem berRoundTrips_counted_iff {value : UInt64} {first : Byte}
    (written : writeBerEncInt host value = first :: bytes)
    (counts : first.toNat = 128 + bytes.length) (few : bytes.length ≤ 8) :
    BerRoundTrips host value ↔ ByteOrder.big.read bytes = value.toNat := by
  have reads : ∀ (before following : List Byte) (beyond : Nat → Byte),
      readBerEncInt ⟨before ++ (writeBerEncInt host value ++ following), beyond⟩
          ⟨before.length, true⟩ =
        some (UInt64.ofNat (ByteOrder.big.read bytes),
          ⟨before.length + (writeBerEncInt host value).length, true⟩) := by
    intro before following beyond
    rw [written, readBerEncInt_counted counts few (Reader.at_behind before _ beyond),
      List.length_cons, Nat.add_comm 1]
    rfl
  have fits : ByteOrder.big.read bytes < 2 ^ 64 :=
    Nat.lt_of_lt_of_le (ByteOrder.big_read_lt bytes) (Nat.pow_le_pow_right (by decide) few)
  constructor
  · intro roundTrips
    have same := (reads [] [] fun _ => 0).symm.trans (roundTrips [] [] fun _ => 0)
    have value_eq := (Prod.mk.inj (Option.some.inj same)).1
    rw [← value_eq, UInt64.toNat_ofNat']
    exact (Nat.mod_eq_of_lt fits).symm
  · intro same before following beyond
    rw [reads, same, UInt64.ofNat_toNat]

/-- The bytes of the three-byte form are swapped twice: a little-endian host writes them without the
last one, and a big-endian host in reverse. -/
theorem writeTriplet_hostTo (host : ByteOrder) (first second third : Byte) :
    writeTriplet host (hostTo host .big 4 (ByteOrder.big.read [0, first, second, third])) =
      match host with
      | .little => [0, first, second]
      | .big => [third, second, first] := by
  have whole : ByteOrder.big.write 4 (ByteOrder.big.read [0, first, second, third]) =
      [0, first, second, third] :=
    ByteOrder.big.write_read [0, first, second, third]
  rw [writeTriplet, append_hostTo, hostTo, whole]
  cases host with
  | big =>
      dsimp only
      rw [whole]
      rfl
  | little =>
      have reversed : ByteOrder.big.write 4 (ByteOrder.little.read [0, first, second, third]) =
          [third, second, first, 0] :=
        ByteOrder.big.write_read [third, second, first, 0]
      dsimp only
      rw [reversed]
      rfl

theorem big_read_three (first second third : Byte) :
    ByteOrder.big.read [first, second, third] =
      first.toNat * 65536 + second.toNat * 256 + third.toNat := by
  simp only [ByteOrder.read, littleEndian, List.reverse_cons, List.reverse_nil, List.nil_append,
    List.cons_append]
  omega

/-- The writer, with the value as a number. -/
theorem writeBerEncInt_eq (host : ByteOrder) (value : UInt64) :
    writeBerEncInt host value =
      if value.toNat < 128 then [value.toUInt8]
      else if value.toNat ≤ 255 then [0x81, value.toUInt8]
      else if value.toNat ≤ 65535 then 0x82 :: ByteOrder.big.write 2 value.toNat
      else if value.toNat ≤ 16777215 then
        0x83 :: writeTriplet host (hostTo host .big 4 value.toNat)
      else if value.toNat ≤ 4294967295 then 0x84 :: ByteOrder.big.write 4 value.toNat
      else [] := by
  have small : value < 128 ↔ value.toNat < 128 := UInt64.lt_iff_toNat_lt
  have one : value ≤ 0x000000FF ↔ value.toNat ≤ 255 := UInt64.le_iff_toNat_le
  have two : value ≤ 0x0000FFFF ↔ value.toNat ≤ 65535 := UInt64.le_iff_toNat_le
  have three : value ≤ 0x00FFFFFF ↔ value.toNat ≤ 16777215 := UInt64.le_iff_toNat_le
  have four : value ≤ 0xFFFFFFFF ↔ value.toNat ≤ 4294967295 := UInt64.le_iff_toNat_le
  rw [writeBerEncInt]
  simp only [small, one, two, three, four, append_hostTo, UInt64.toNat_toUInt16,
    UInt64.toNat_toUInt32]
  split
  case isTrue => rfl
  case isFalse =>
    split
    case isTrue => rfl
    case isFalse =>
      split
      case isTrue fits => rw [Nat.mod_eq_of_lt (by omega)]
      case isFalse =>
        split
        case isTrue fits => rw [Nat.mod_eq_of_lt (by omega)]
        case isFalse =>
          split
          case isTrue fits => rw [Nat.mod_eq_of_lt (by omega)]
          case isFalse => rfl

/-- The three-byte form is read back on a big-endian host only, and only if it is the same in
reverse. -/
theorem berRoundTrips_triplet_iff {value : UInt64} (large : 65535 < value.toNat)
    (fits : value.toNat ≤ 16777215) :
    BerRoundTrips host value ↔ host = .big ∧ value.toNat % 256 = value.toNat / 65536 := by
  obtain ⟨first, second, third, firstIs, secondIs, thirdIs⟩ :
      ∃ first second third : Byte, first.toNat = value.toNat / 65536 ∧
        second.toNat = value.toNat / 256 % 256 ∧ third.toNat = value.toNat % 256 := by
    refine ⟨UInt8.ofNat (value.toNat / 65536), UInt8.ofNat (value.toNat / 256),
      UInt8.ofNat value.toNat, ?_, UInt8.toNat_ofNat', UInt8.toNat_ofNat'⟩
    rw [UInt8.toNat_ofNat']
    omega
  have whole : value.toNat = ByteOrder.big.read [0, first, second, third] := by
    have zero : (0 : Byte).toNat = 0 := rfl
    rw [ByteOrder.big_read_cons, big_read_three, firstIs, secondIs, thirdIs, zero, Nat.zero_mul]
    omega
  have written := writeBerEncInt_eq host value
  rw [if_neg (by omega), if_neg (by omega), if_neg (by omega), if_pos fits, whole,
    writeTriplet_hostTo] at written
  cases host with
  | little =>
      dsimp only at written
      rw [berRoundTrips_counted_iff written rfl (by simp), big_read_three]
      have zero : (0 : Byte).toNat = 0 := rfl
      constructor
      · intro same
        omega
      · intro wrong
        cases wrong.1
  | big =>
      dsimp only at written
      rw [berRoundTrips_counted_iff written rfl (by simp), big_read_three, and_iff_right rfl]
      omega

/-- A value is read back as it was written exactly if it has a form that the writer gets right. -/
theorem berRoundTrips_iff (host : ByteOrder) (value : UInt64) :
    BerRoundTrips host value ↔ BerWritable host value := by
  have written := writeBerEncInt_eq host value
  rw [BerWritable]
  split at written
  case isTrue small =>
    apply iff_of_true
    · intro before following beyond
      have isSmall : value.toUInt8 < 128 := by
        rw [UInt8.lt_iff_toNat_lt, UInt64.toNat_toUInt8]
        change value.toNat % 2 ^ 8 < 128
        omega
      have same : value.toUInt8.toUInt64 = value := by
        apply UInt64.toNat_inj.mp
        rw [UInt8.toNat_toUInt64, UInt64.toNat_toUInt8]
        omega
      have here : Reader.At ⟨before ++ ([value.toUInt8] ++ following), beyond⟩
          ⟨before.length, true⟩ (value.toUInt8 :: following) :=
        Reader.at_behind before _ beyond
      rw [written, readBerEncInt_one isSmall here, same]
      rfl
    · exact Or.inl (by omega)
  case isFalse =>
    split at written
    case isTrue fits =>
      have single : ByteOrder.big.read [value.toUInt8] = value.toNat := by
        rw [ByteOrder.read, List.reverse_singleton, littleEndian_singleton, UInt64.toNat_toUInt8]
        omega
      rw [berRoundTrips_counted_iff written rfl (by simp)]
      exact iff_of_true single (Or.inl (by omega))
    case isFalse =>
      split at written
      case isTrue fits =>
        rw [berRoundTrips_counted_iff written (by simp) (by simp)]
        exact iff_of_true (ByteOrder.read_write .big (by omega)) (Or.inl (by omega))
      case isFalse =>
        split at written
        case isTrue fits =>
          rw [berRoundTrips_triplet_iff (by omega) fits]
          constructor
          · intro mirrored
            exact Or.inr (Or.inr ⟨mirrored.1, by omega, mirrored.2⟩)
          · intro writable
            rcases writable with small | four | mirrored
            · omega
            · omega
            · exact ⟨mirrored.1, mirrored.2.2⟩
        case isFalse =>
          split at written
          case isTrue fits =>
            rw [berRoundTrips_counted_iff written (by simp) (by simp)]
            exact iff_of_true (ByteOrder.read_write .big (by omega)) (Or.inr (Or.inl (by omega)))
          case isFalse large =>
            apply iff_of_false
            · intro roundTrips
              have outside := roundTrips [] [] fun _ => 0
              rw [written] at outside
              have zero : Buffer.byteAt ⟨[], fun _ => 0⟩ 0 = 0 := rfl
              simp [readBerEncInt, Reader.read, zero] at outside
            · omega

/-- 65536 is read back as 256 on a little-endian host. -/
theorem berTriplet_cut : ¬∀ (host : ByteOrder) (value : UInt64), BerRoundTrips host value := by
  intro every
  have same := congrArg (Option.map Prod.fst) (every .little 65536 [] [] fun _ => 0)
  exact absurd same (by decide +kernel)

end SqlRelay.Protocol
