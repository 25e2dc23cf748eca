import SqlRelay.Oracle.Values

/-!
# The formats of values

What the bytes of a request mean, whatever packets they came in.
-/

namespace SqlRelay.Oracle.Format

open SqlRelay.Foundation

variable {Value : Type}

def byte : Decoder Byte Byte := (Decoder.take 1).map fun bytes => bytes.headD 0

theorem byte_run (held : List Byte) (rp : Nat) : byte.run held rp =
    if rp + 1 ≤ held.length then .complete (held.getD rp 0) (rp + 1) else .short := by
  rw [byte, Decoder.map_run, Decoder.take]
  simp only [Decoder.takeAt]
  split
  case isTrue enough =>
    have first : ((held.drop rp).take 1).headD 0 = held.getD rp 0 := by
      have inside : rp < held.length := by omega
      rw [List.drop_eq_getElem_cons inside, List.getD_eq_getElem?_getD,
        List.getElem?_eq_getElem inside]
      rfl
    rw [Decoded.complete_bind, first]
  case isFalse => rfl

/-- A count byte, which says how many bytes follow it, and these bytes. -/
def counted (size : Byte → Nat) (value : Byte → List Byte → Value) : Decoder Byte Value :=
  byte.bind fun count =>
    if 4 < size count then .fail else (Decoder.take (size count)).map (value count)

theorem counted_run {size : Byte → Nat} {value : Byte → List Byte → Value} (held : List Byte)
    (rp : Nat) : (counted size value).run held rp =
      if held.length < rp + 1 then .short
      else if 4 < size (held.getD rp 0) then .malformed
      else if held.length < rp + 1 + size (held.getD rp 0) then .short
      else .complete (value (held.getD rp 0) ((held.drop (rp + 1)).take (size (held.getD rp 0))))
        (rp + 1 + size (held.getD rp 0)) := by
  rw [counted, Decoder.bind_run, byte_run]
  split
  case isFalse beyond => rw [if_pos (by omega), Decoded.short_bind]
  case isTrue one =>
    rw [if_neg (by omega), Decoded.complete_bind]
    split
    case isTrue => rfl
    case isFalse =>
      rw [Decoder.map_run, Decoder.take]
      simp only [Decoder.takeAt]
      split
      case isTrue enough => rw [if_neg (by omega), Decoded.complete_bind]
      case isFalse beyond => rw [if_pos (by omega), Decoded.short_bind]

def lenPreInt : Decoder Byte UInt32 := counted UInt8.toNat fun _ bytes => shiftIn bytes

/-- The high bit of the count is the sign. -/
def lenPreSignedInt : Decoder Byte Int32 :=
  counted (fun count => (count &&& 0x7f).toNat) fun count bytes =>
    withSign (count &&& 0x80 ≠ 0) (shiftIn bytes)

/-- The length of a chunk. -/
def chunkSize (bigchunks : Bool) : Decoder Byte Nat :=
  if bigchunks then lenPreInt.map UInt32.toNat else byte.map UInt8.toNat

/-- A chunk of such a length.  An empty one says that there are no more. -/
def chunkOf (size : Nat) : Decoder Byte (Option (List Byte)) :=
  if size = 0 then .pure none else (Decoder.take size).map some

def chunk (bigchunks : Bool) : Decoder Byte (Option (List Byte)) :=
  (chunkSize bigchunks).bind chunkOf

section Stop

variable {held : List Byte} {rp stop : Nat}

theorem lt_stop_of_byte {next : Byte → Decoder Byte Value} {value : Value}
    (found : (byte.bind next).run held rp = .complete value stop) : rp < stop := by
  rw [Decoder.bind_run, byte_run] at found
  split at found
  case isTrue =>
    have frugal := (next _).frugal held (rp + 1) value stop found
    omega
  case isFalse => cases found

theorem lt_stop_of_chunkSize {bigchunks : Bool} {size : Nat}
    (found : (chunkSize bigchunks).run held rp = .complete size stop) : rp < stop := by
  rw [chunkSize] at found
  split at found
  case isTrue =>
    rw [Decoder.map_run] at found
    cases read : lenPreInt.run held rp with
    | complete value last =>
      rw [read] at found
      cases found
      exact lt_stop_of_byte read
    | malformed =>
      rw [read] at found
      cases found
    | short =>
      rw [read] at found
      cases found
  case isFalse => exact lt_stop_of_byte found

theorem chunk_advances (bigchunks : Bool) : (chunk bigchunks).Advances := by
  intro held rp value stop found
  rw [chunk, Decoder.bind_run] at found
  cases sized : (chunkSize bigchunks).run held rp with
  | complete size middle =>
    rw [sized, Decoded.complete_bind, chunkOf] at found
    have further := lt_stop_of_chunkSize sized
    split at found
    case isTrue => cases found
    case isFalse =>
      rw [Decoder.map_run] at found
      cases taken : (Decoder.take size).run held middle with
      | complete bytes last =>
        rw [taken] at found
        cases found
        have parts := Decoder.takeAt_eq_complete.mp taken
        omega
      | malformed =>
        rw [taken] at found
        cases found
      | short =>
        rw [taken] at found
        cases found
  | malformed =>
    rw [sized] at found
    cases found
  | short =>
    rw [sized] at found
    cases found

end Stop

/-- The chunks of a value in the long form. -/
def chunks (bigchunks : Bool) : Decoder Byte (List (List Byte)) :=
  Decoder.untilNone (chunk_advances bigchunks)

/-- A length prefixed value, in each of its forms. -/
inductive LenBytes where
  | null
  | bytes (value : List Byte)
  | chunks (chunks : List (List Byte))
deriving DecidableEq

/-- What a length byte says that follows it. -/
def lenBytesOf (bigchunks : Bool) (length : Byte) : Decoder Byte LenBytes :=
  if length.toNat = 0 then .pure .null
  else if length.toNat = clrNullMarker then (Decoder.take 1).map fun _ => .null
  else if length.toNat ≤ clrMaxShortLength then (Decoder.take length.toNat).map .bytes
  else if length.toNat ≠ clrLongFormMarker then .fail
  else (chunks bigchunks).map .chunks

def lenBytes (bigchunks : Bool) : Decoder Byte LenBytes := byte.bind (lenBytesOf bigchunks)

end SqlRelay.Oracle.Format
