import SqlRelay.Foundation.Chunks
import SqlRelay.Oracle.Transparency
import SqlRelay.Protocol.LenPre

/-!
# Byte values

What is written of a value is read as the value: in the short form, or in the long form, whose chunks
have their lengths in one byte or as length prefixed integers.
-/

namespace SqlRelay.Oracle

open SqlRelay.Foundation SqlRelay.Protocol

/-! ## The source -/

def clrMaxChunkSize : Nat := 255

def clrMaxBigChunkSize : Nat := 32767

/-- The longest chunk that is written. -/
def maxChunk (bigchunks : Bool) : Nat := if bigchunks then clrMaxBigChunkSize else clrMaxChunkSize

/-- What is written of the length of a chunk. -/
def putChunkSize (host : ByteOrder) (bigchunks : Bool) (chunk : UInt32) : List Byte :=
  if bigchunks then writeLenPreInt host chunk else [chunk.toUInt8]

/-- `putLenBytesChunks`: the chunks without the marker before and the empty chunk behind them. -/
def putLenBytesChunks (host : ByteOrder) (bigchunks : Bool) (bytes : List Byte) : List Byte :=
  (chunks (maxChunk bigchunks) bytes).flatMap fun chunk =>
    putChunkSize host bigchunks (UInt32.ofNat chunk.length) ++ chunk

/-- A value that is made of runs of bytes, in the long form. -/
def putLongForm (host : ByteOrder) (bigchunks : Bool) (runs : List (List Byte)) : List Byte :=
  UInt8.ofNat clrLongFormMarker :: (runs.flatMap (putLenBytesChunks host bigchunks) ++ [0])

/-- `putLenBytes` -/
def putLenBytes (host : ByteOrder) (bigchunks : Bool) (bytes : List Byte) : List Byte :=
  if bytes.length ≤ clrMaxShortLength then UInt8.ofNat bytes.length :: bytes
  else putLongForm host bigchunks [bytes]

/-! ## Chunks -/

section Chunks

variable (host : ByteOrder) {bigchunks : Bool} {bytes : List Byte}

theorem byte_reads (value : Byte) : Format.byte.Reads value [value] :=
  (Decoder.Reads.take [value]).map fun bytes => bytes.headD 0

theorem lenPreInt_reads (value : UInt32) :
    Format.lenPreInt.Reads value (writeLenPreInt host value) := by
  intro before following
  let session : Session :=
    ⟨before ++ (writeLenPreInt host value ++ following), 0, 0, false, []⟩
  have shared := @readLenPreInt_oracle session before.length session.resppacket.length
    (Nat.le_refl _) fun _ => 0
  have reads := writeLenPreInt_reads host value before following fun _ => 0
  have found := readLenPreInt_eq session before.length
  simp only [List.take_length] at shared
  rw [shared, reads] at found
  change Format.lenPreInt.run session.resppacket before.length = _
  generalize Format.lenPreInt.run session.resppacket before.length = outcome at found ⊢
  cases outcome with
  | complete read stop =>
    cases found
    rfl
  | malformed => cases found
  | short => cases found

theorem chunkSize_reads {chunk : UInt32} (within : chunk.toNat ≤ maxChunk bigchunks) :
    (Format.chunkSize bigchunks).Reads chunk.toNat (putChunkSize host bigchunks chunk) := by
  cases bigchunks with
  | true => exact (lenPreInt_reads host chunk).map UInt32.toNat
  | false =>
    have small : chunk.toUInt8.toNat = chunk.toNat := by
      rw [maxChunk, if_neg Bool.false_ne_true, clrMaxChunkSize] at within
      rw [UInt32.toNat_toUInt8]
      omega
    rw [← small]
    exact (byte_reads chunk.toUInt8).map UInt8.toNat

theorem maxChunk_pos (bigchunks : Bool) : 0 < maxChunk bigchunks := by
  cases bigchunks <;> decide

theorem maxChunk_lt (bigchunks : Bool) : maxChunk bigchunks < 2 ^ 32 := by
  cases bigchunks <;> decide

/-- A chunk behind its length. -/
theorem chunk_reads (occupied : bytes ≠ []) (within : bytes.length ≤ maxChunk bigchunks) :
    (Format.chunk bigchunks).Reads (some bytes)
      (putChunkSize host bigchunks (UInt32.ofNat bytes.length) ++ bytes) := by
  have size : (UInt32.ofNat bytes.length).toNat = bytes.length :=
    UInt32.toNat_ofNat_of_lt' (Nat.lt_of_le_of_lt within (maxChunk_lt bigchunks))
  have some_left : bytes.length ≠ 0 := fun empty => occupied (List.length_eq_zero_iff.mp empty)
  have sized := chunkSize_reads host (size.trans_le within)
  apply sized.bind
  rw [size, Format.chunkOf, if_neg some_left]
  exact (Decoder.Reads.take bytes).map some

/-- The empty chunk has the same length in both encodings. -/
theorem chunk_reads_none : (Format.chunk bigchunks).Reads none [0] := by
  have sized := (chunkSize_reads .big (Nat.zero_le _) : (Format.chunkSize bigchunks).Reads (0 : UInt32).toNat _)
  have written : putChunkSize .big bigchunks 0 = [0] := by
    cases bigchunks <;> rfl
  rw [written] at sized
  have last : (Format.chunkOf 0).Reads none [] := Decoder.Reads.pure none
  exact sized.bind last

/-- In front of chunks that are read, the chunks of a run are. -/
theorem chunks_reads_cons (run : List Byte) {rest : List (List Byte)} {back : List Byte}
    (later : (Format.chunks bigchunks).Reads rest back) :
    (Format.chunks bigchunks).Reads (chunks (maxChunk bigchunks) run ++ rest)
      (putLenBytesChunks host bigchunks run ++ back) := by
  have positive := maxChunk_pos bigchunks
  rw [putLenBytesChunks]
  induction run using chunks.induct (maxChunk bigchunks) with
  | case1 =>
    rw [chunks_nil]
    exact later
  | case2 byte run none => omega
  | case3 byte run some_size induction =>
    have occupied : (byte :: run).take (maxChunk bigchunks) ≠ [] := by
      rw [ne_eq, List.take_eq_nil_iff]
      simp [some_size]
    have first := chunk_reads host occupied (List.length_take_le _ _)
    rw [chunks_of_ne_nil positive (List.cons_ne_nil _ _), List.flatMap_cons, List.append_assoc]
    exact Decoder.Reads.untilNone_cons _ first induction

theorem chunks_reads (bigchunks : Bool) (runs : List (List Byte)) :
    (Format.chunks bigchunks).Reads (runs.flatMap (chunks (maxChunk bigchunks)))
      (runs.flatMap (putLenBytesChunks host bigchunks) ++ [0]) := by
  induction runs with
  | nil => exact Decoder.Reads.untilNone_nil _ chunk_reads_none
  | cons run runs induction =>
    rw [List.flatMap_cons, List.flatMap_cons, List.append_assoc]
    exact chunks_reads_cons host run induction

end Chunks

/-! ## Values -/

/-- What a value is written as: by `putLenBytes`, or as runs of bytes between the marker and the empty
chunk. -/
inductive Written (host : ByteOrder) (bigchunks : Bool) (value : List Byte) : List Byte → Prop
  | lenBytes : Written host bigchunks value (putLenBytes host bigchunks value)
  | longForm {runs : List (List Byte)} (parts : runs.flatten = value) :
      Written host bigchunks value (putLongForm host bigchunks runs)

/-- The bytes that a value in one of its forms is made of. -/
def Format.LenBytes.bytesOf : Format.LenBytes → Option (List Byte)
  | .null => none
  | .bytes value => some value
  | .chunks pieces => some pieces.flatten

theorem flatten_chunks (size : Nat) (bytes : List Byte) : (chunks size bytes).flatten = bytes := by
  induction bytes using chunks.induct size with
  | case1 => rw [chunks_nil, List.flatten_nil]
  | case2 byte rest none => rw [chunks, if_pos none, List.flatten_singleton]
  | case3 byte rest some_size induction =>
    rw [chunks, if_neg some_size, List.flatten_cons, induction, List.take_append_drop]

section Values

variable {host : ByteOrder} {bigchunks : Bool} {value written : List Byte}

theorem short_reads (occupied : value ≠ []) (small : value.length ≤ clrMaxShortLength) :
    (Format.lenBytes bigchunks).Reads (.bytes value) (UInt8.ofNat value.length :: value) := by
  have length : (UInt8.ofNat value.length).toNat = value.length := by
    rw [clrMaxShortLength] at small
    rw [UInt8.toNat_ofNat']
    omega
  have some_left : value.length ≠ 0 := fun empty => occupied (List.length_eq_zero_iff.mp empty)
  have plain : value.length ≠ clrNullMarker := by
    rw [clrMaxShortLength] at small
    rw [clrNullMarker]
    omega
  apply (byte_reads (UInt8.ofNat value.length)).bind
  rw [Format.lenBytesOf, length, if_neg some_left, if_neg plain, if_pos small]
  exact (Decoder.Reads.take value).map Format.LenBytes.bytes

theorem longForm_reads (host : ByteOrder) (runs : List (List Byte)) :
    (Format.lenBytes bigchunks).Reads (.chunks (runs.flatMap (chunks (maxChunk bigchunks))))
      (putLongForm host bigchunks runs) := by
  have later := (chunks_reads host bigchunks runs).map Format.LenBytes.chunks
  have form : Format.lenBytesOf bigchunks (UInt8.ofNat clrLongFormMarker) =
      (Format.chunks bigchunks).map Format.LenBytes.chunks := rfl
  rw [← form] at later
  exact (byte_reads (UInt8.ofNat clrLongFormMarker)).bind later

/-- Whatever form a value is written in, it is read in one that is made of the same bytes. -/
theorem written_reads (occupied : value ≠ []) (wrote : Written host bigchunks value written) :
    ∃ form, (Format.lenBytes bigchunks).Reads form written ∧ form.bytesOf = some value := by
  have long (runs : List (List Byte)) :
      (runs.flatMap (chunks (maxChunk bigchunks))).flatten = runs.flatten := by
    induction runs with
    | nil => rfl
    | cons run runs induction =>
      rw [List.flatMap_cons, List.flatten_append, flatten_chunks, induction, List.flatten_cons]
  cases wrote with
  | lenBytes =>
    rw [putLenBytes]
    split
    case isTrue small => exact ⟨_, short_reads occupied small, rfl⟩
    case isFalse =>
      refine ⟨_, longForm_reads host [value], ?_⟩
      rw [Format.LenBytes.bytesOf, long, List.flatten_singleton]
  | longForm parts =>
    refine ⟨_, longForm_reads host _, ?_⟩
    rw [Format.LenBytes.bytesOf, long, parts]

end Values

/-! ## Requests whose packets have all come -/

variable {settings : Settings} {session : Session} {coming : List (Fragment settings)}
variable {rp stop : Nat}

section Alone

variable (settings)

/-- The session if its call could ask for packets, of which no more come. -/
def Session.alone (session : Session) : Session :=
  { session with reassemble := true, socket := [] }

theorem refillPacket_alone : refillPacket settings session.alone = .error [] := by
  cases large : settings.largeheader with
  | false => simp [refillPacket, readPacketSize, large, readBE, readBytes, Session.alone, bind,
      Except.bind]
  | true => simp [refillPacket, readPacketSize, large, readBE, readBytes, Session.alone, bind,
      Except.bind]

/-- A call that asks for no packets gets the same answers. -/
theorem haveBytes_alone (off : session.reassemble = false) (rp bytes stop : Nat) :
    ∃ enough stop', haveBytes settings session.alone rp bytes stop =
        (enough, stop', session.alone) ∧
      haveBytes settings session rp bytes stop = (enough, stop', session) := by
  have ends : session.alone.currentEnd stop = session.currentEnd stop := rfl
  rw [haveBytes, haveBytes, ends]
  split
  case isTrue => exact ⟨_, _, rfl, rfl⟩
  case isFalse =>
    rw [haveLoop, haveLoop]
    split
    case isTrue =>
      have asks : session.alone.reassemble = true := rfl
      rw [if_pos asks, if_neg (by simp [off])]
      split
      case h_1 socket refused =>
        rw [refillPacket_alone] at refused
        cases refused
        exact ⟨_, _, rfl, rfl⟩
      case h_2 refilled found =>
        rw [refillPacket_alone] at found
        cases found
    case isFalse => exact ⟨_, _, rfl, rfl⟩

theorem getLenPreInt_alone (off : session.reassemble = false) (rp stop : Nat) :
    ∃ answer stop', getLenPreInt settings session.alone rp stop = (answer, stop', session.alone) ∧
      getLenPreInt settings session rp stop = (answer, stop', session) := by
  obtain ⟨one, middle, alone, held⟩ := haveBytes_alone settings off rp 1 stop
  obtain ⟨all, last, alone', held'⟩ :=
    haveBytes_alone settings off rp ((session.byteAt rp).toNat + 1) middle
  have bytes : session.alone.byteAt rp = session.byteAt rp := rfl
  rw [getLenPreInt, getLenPreInt, alone, held]
  simp only [bytes]
  split
  case isTrue =>
    rw [alone', held']
    exact ⟨_, _, rfl, rfl⟩
  case isFalse => exact ⟨_, _, rfl, rfl⟩

theorem readChunkSize_alone (off : session.reassemble = false) (rp stop : Nat) :
    ∃ size, readChunkSize settings session.alone rp stop = (size, session.alone) ∧
      readChunkSize settings session rp stop = (size, session) := by
  obtain ⟨one, middle, alone, held⟩ := haveBytes_alone settings off rp 1 stop
  obtain ⟨answer, last, alone', held'⟩ := getLenPreInt_alone settings off rp middle
  rw [readChunkSize, readChunkSize, alone, held]
  cases one with
  | false => exact ⟨_, rfl, rfl⟩
  | true =>
    simp only
    split
    case isTrue =>
      rw [alone', held']
      simp only
      split
      · exact ⟨_, rfl, rfl⟩
      · exact ⟨_, rfl, rfl⟩
    case isFalse => exact ⟨_, rfl, rfl⟩

theorem readLongFormChunks_alone (off : session.reassemble = false) (valueavail : Option Nat)
    (rp stop : Nat) (value : List Byte) (valuesize : Nat) :
    ∃ walked, readLongFormChunks settings valueavail session.alone rp stop value valuesize =
        (walked, session.alone) ∧
      readLongFormChunks settings valueavail session rp stop value valuesize =
        (walked, session) := by
  induction far : session.horizon stop - rp using Nat.strongRecOn
    generalizing rp stop value valuesize with
  | ind distance induction =>
    obtain ⟨size, alone, held⟩ := readChunkSize_alone settings off rp stop
    rw [readLongFormChunks_unfold, readLongFormChunks_unfold, alone, held]
    cases size with
    | none => exact ⟨_, rfl, rfl⟩
    | some sized =>
      obtain ⟨size, rp', stop'⟩ := sized
      simp only
      split
      case isTrue => exact ⟨_, rfl, rfl⟩
      case isFalse occupied =>
        obtain ⟨all, last, alone', held'⟩ :=
          haveBytes_alone settings off rp' size stop'
        rw [alone', held']
        cases all with
        | false => exact ⟨_, rfl, rfl⟩
        | true =>
          simp only
          split
          case isTrue => exact ⟨_, rfl, rfl⟩
          case isFalse =>
            have further := walk_advances held occupied held'
            exact induction _ (by omega) _ _ _ _ rfl

theorem getLongFormBytes_alone (off : session.reassemble = false) (rp stop : Nat) :
    (getLongFormBytes settings session.alone rp stop).1 =
      (getLongFormBytes settings session rp stop).1 := by
  obtain ⟨sized, alone, held⟩ := readLongFormChunks_alone settings off none rp stop [] 0
  rw [getLongFormBytes, getLongFormBytes, alone, held]
  cases sized with
  | none => rfl
  | some sized =>
    have avail : session.alone.requestvalueavail = session.requestvalueavail := rfl
    simp only [avail]
    split
    case isTrue => rfl
    case isFalse =>
      let allocated := { session with
        resppacketpool := session.resppacketpool + (sized.size + 1) % 2 ^ 32 }
      have still : allocated.reassemble = false := off
      obtain ⟨copied, alone', held'⟩ :=
        readLongFormChunks_alone settings still (some sized.size) rp stop [] 0
      simp only [Session.alone, allocated] at alone' held' ⊢
      rw [alone', held']
      cases copied <;> rfl

theorem getLenBytes_alone (off : session.reassemble = false) (rp stop : Nat) :
    (getLenBytes settings session.alone rp stop).1 = (getLenBytes settings session rp stop).1 := by
  obtain ⟨one, middle, alone, held⟩ := haveBytes_alone settings off rp 1 stop
  rw [getLenBytes, getLenBytes, alone, held]
  cases one with
  | false => rfl
  | true =>
    have bytes : session.alone.byteAt rp = session.byteAt rp := rfl
    simp only [bytes]
    split
    case isTrue => rfl
    case isFalse =>
      split
      case isTrue =>
        obtain ⟨two, last, alone', held'⟩ :=
          haveBytes_alone settings off (rp + 1) 1 middle
        rw [alone', held']
        cases two <;> rfl
      case isFalse =>
        split
        case isTrue =>
          obtain ⟨all, last, alone', held'⟩ :=
            haveBytes_alone settings off (rp + 1) (session.byteAt rp).toNat middle
          rw [alone', held']
          cases all <;> rfl
        case isFalse =>
          split
          case isTrue => rfl
          case isFalse =>
            simp only [getLongFormBytes_alone settings off (rp + 1) middle]

end Alone

/-! ## Room for values -/

/-- What values have taken of the room that a request has for them is no more than what is before the
position. -/
def Session.Roomy (settings : Settings) (session : Session) (rp : Nat) : Prop :=
  settings.maxrequestsize ≤ session.requestvalueavail + rp

theorem Session.Roomy.receiving (resppacket : List Byte) :
    (Session.receiving settings resppacket coming).Roomy settings rp :=
  Nat.le_add_right _ _

/-- The chunks of a value take less room than what they were read of. -/
theorem total_lt_stop {bigchunks : Bool} {held : List Byte} {pieces : List (List Byte)}
    (found : (Format.lenBytes bigchunks).run held rp = .complete (.chunks pieces) stop) :
    rp + total pieces < stop := by
  rw [Format.lenBytes, Decoder.bind_run, Format.byte_run] at found
  split at found
  case isFalse => cases found
  case isTrue =>
    rw [Decoded.complete_bind, Format.lenBytesOf] at found
    split at found
    · cases found
    · split at found
      · rw [Decoder.map_take_run] at found
        split at found <;> cases found
      · split at found
        · rw [Decoder.map_take_run] at found
          split at found <;> cases found
        · split at found
          · cases found
          · rw [Decoder.map_run] at found
            cases walked : (Format.chunks bigchunks).run held (rp + 1) with
            | complete others last =>
              rw [walked] at found
              cases found
              have inside := total_le walked
              omega
            | malformed =>
              rw [walked] at found
              cases found
            | short =>
              rw [walked] at found
              cases found

/-! ## Round trips -/

/-- What a parse reads of.  Where it may ask for packets, their bodies belong to it. -/
inductive Session.Holds (settings : Settings) (session : Session) : List Byte → Prop
  | asking {coming : List (Fragment settings)} (behind : Behind settings session coming) :
      Holds settings session (session.unsplit coming).resppacket
  | alone (off : session.reassemble = false) (bounded : session.Bounded settings) :
      Holds settings session session.resppacket

theorem lenBytesAnswer_of_bytesOf {bigchunks : Bool} {held : List Byte} {form : Format.LenBytes}
    {value : List Byte} (found : (Format.lenBytes bigchunks).run held rp = .complete form stop)
    (bytes : form.bytesOf = some value) (bounded : stop ≤ settings.maxrequestsize)
    (roomy : session.Roomy settings rp) (length : Byte) :
    lenBytesAnswer session.requestvalueavail rp length (.complete form stop) =
      ⟨true, ⟨some value, value.length, false⟩, stop⟩ := by
  cases form with
  | null => cases bytes
  | bytes other =>
    cases bytes
    rfl
  | chunks pieces =>
    cases bytes
    have inside := total_lt_stop found
    have size : pieces.flatten.length = total pieces := List.length_flatten
    rw [Session.Roomy] at roomy
    rw [lenBytesAnswer, if_neg (by omega), size]

/-- A value that is read of the whole request is what the reader returns. -/
theorem getLenBytes_of_run {form : Format.LenBytes} {value : List Byte} {stop' : Nat}
    (behind : Behind settings session coming) (reached : rp ≤ session.resppacket.length)
    (stale : stop ≤ session.resppacket.length) (roomy : session.Roomy settings rp)
    (found : (Format.lenBytes settings.bigchunks).run (session.unsplit coming).resppacket rp =
      .complete form stop')
    (bytes : form.bytesOf = some value) :
    (getLenBytes settings session rp stop).1 =
      ⟨true, ⟨some value, value.length, false⟩, stop'⟩ := by
  have fits := behind.fits
  have within : rp ≤ (session.unsplit coming).resppacket.length := by
    rw [Session.unsplit, List.length_append]
    omega
  have inside := (Format.lenBytes settings.bigchunks).inside _ _ _ _ found within
  rw [Session.unsplit, List.length_append] at inside
  rw [getLenBytes_eq behind reached stale, run_pulled_eq, found]
  exact lenBytesAnswer_of_bytesOf found bytes (inside.trans fits) roomy _

/-- Where a request holds what was written of a value, the value is read from it, and the position
behind it is where what follows begins. -/
theorem getLenBytes_written {host : ByteOrder} {before written following value : List Byte}
    (occupied : value ≠ []) (wrote : Written host settings.bigchunks value written)
    (holds : session.Holds settings (before ++ (written ++ following)))
    (reached : before.length ≤ session.resppacket.length)
    (stale : stop ≤ session.resppacket.length) (roomy : session.Roomy settings before.length) :
    (getLenBytes settings session before.length stop).1 =
      ⟨true, ⟨some value, value.length, false⟩, before.length + written.length⟩ := by
  obtain ⟨form, reads, bytes⟩ := written_reads occupied wrote
  have found := reads before following
  generalize before ++ (written ++ following) = request at holds found
  cases holds with
  | asking behind => exact getLenBytes_of_run behind reached stale roomy found bytes
  | alone off bounded =>
    have behind : Behind settings session.alone ([] : List (Fragment settings)) :=
      ⟨rfl, bounded, rfl⟩
    have held : (session.alone.unsplit ([] : List (Fragment settings))).resppacket =
        session.resppacket := List.append_nil _
    have alone : session.alone.Roomy settings before.length := roomy
    rw [← held] at found
    rw [← getLenBytes_alone settings off]
    exact getLenBytes_of_run behind reached stale alone found bytes

/-- The packet behind the first bytes of a value in the long form. -/
def lateChunks : List (Fragment (.negotiated 2048 32768 false false)) :=
  [⟨0, 0, 0, 0, [9, 1, 5, 0, 3], by decide, by decide⟩]

theorem getLenBytes_written_lateChunks :
    (getLenBytes (.negotiated 2048 32768 false false)
      (.receiving _ [7, 254, 2, 8] lateChunks) 1 4).1 =
        ⟨true, ⟨some [8, 9, 5], 3, false⟩, 8⟩ := by
  have form : putLongForm .big false [[8, 9], [5]] = [254, 2, 8, 9, 1, 5, 0] := by
    simp [putLongForm, putLenBytesChunks, putChunkSize, maxChunk, chunks_of_le, clrMaxChunkSize,
      clrLongFormMarker]
  have wrote : Written .big false [8, 9, 5] [254, 2, 8, 9, 1, 5, 0] := by
    rw [← form]
    exact .longForm rfl
  have holds : (Session.receiving _ [7, 254, 2, 8] lateChunks).Holds _
      ([7] ++ ([254, 2, 8, 9, 1, 5, 0] ++ [3])) := .asking (.receiving (by decide))
  exact getLenBytes_written (by decide) wrote holds (by decide) (by decide) (.receiving _)

end SqlRelay.Oracle
