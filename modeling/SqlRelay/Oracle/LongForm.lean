import SqlRelay.Oracle.Reassembly

/-!
# Values in the long form

A value in the long form is a run of chunks, which is walked twice, once for its size and once to
copy it.  The first walk pulls in all the packets that the value is in, so the second walk sees the
same chunks and needs no more.
-/

namespace SqlRelay.Oracle

open SqlRelay.Foundation

variable {Value Other : Type}
variable {settings : Settings} {session : Session} {coming : List (Fragment settings)}
variable {rp stop : Nat}

/-- The length of a chunk, the position behind it, and the end. -/
def sizeAnswer (stop : Nat) : Decoded Nat → Option (Nat × Nat × Nat)
  | .complete size rp => some (size, rp, stop)
  | .malformed => none
  | .short => none

theorem readChunkSize_eq (behind : Behind settings session coming)
    (reached : rp ≤ session.resppacket.length) (stale : stop ≤ session.resppacket.length) :
    readChunkSize settings session rp stop =
      (sizeAnswer (session.pulled (Format.chunkSize settings.bigchunks) rp coming).resppacket.length
          ((Format.chunkSize settings.bigchunks).run
            (session.pulled (Format.chunkSize settings.bigchunks) rp coming).resppacket rp),
        session.pulled (Format.chunkSize settings.bigchunks) rp coming) := by
  have between := behind.pulled (.take 1) rp
  have further := length_le_pulled (.take 1) session rp coming
  have within : rp ≤ (session.pulled (.take 1) rp coming).resppacket.length := by omega
  rw [readChunkSize, haveBytes_eq behind reached stale]
  cases settings.bigchunks with
  | true =>
    have sooner : ∀ held, (Decoder.take 1).shortAt rp held = true →
        Format.lenPreInt.shortAt rp held = true := by
      intro held few
      rw [Decoder.take_shortAt, decide_eq_true_iff] at few
      rw [Decoder.shortAt, Format.lenPreInt, Format.counted_run, if_pos few]
      rfl
    have whole := pulled_pulled session coming sooner
    have map := pulled_map session Format.lenPreInt rp coming UInt32.toNat
    rw [Format.chunkSize, if_pos rfl, map.1, Decoder.map_run]
    by_cases one : rp + 1 ≤ (session.pulled (.take 1) rp coming).resppacket.length
    · rw [decide_eq_true one]
      simp only [if_true]
      rw [getLenPreInt_eq between within (Nat.le_refl _), whole.1]
      cases Format.lenPreInt.run (session.pulled Format.lenPreInt rp coming).resppacket rp <;> rfl
    · rw [decide_eq_false one, Format.lenPreInt, counted_run_at, Format.counted,
        (pulled_byte_bind_of_none _ (by omega)).1, if_pos (by omega)]
      rfl
  | false =>
    have map := pulled_map session Format.byte rp coming UInt8.toNat
    have first := pulled_byte session rp coming
    rw [Format.chunkSize, if_neg Bool.false_ne_true, map.1, Decoder.map_run, Format.byte_run,
      first.1]
    by_cases one : rp + 1 ≤ (session.pulled (.take 1) rp coming).resppacket.length
    · rw [decide_eq_true one, if_pos one]
      rfl
    · rw [decide_eq_false one, if_neg one]
      rfl

/-- How many bytes there are in chunks. -/
def total (chunks : List (List Byte)) : Nat := (chunks.map List.length).sum

/-- A walk over chunks that are all there, and that there is room for where they are copied. -/
def walk (valueavail : Option Nat) (value : List Byte) (valuesize : Nat) :
    Decoded (List (List Byte)) → Option Walk
  | .complete chunks stop =>
      some ⟨if valueavail.isSome then value ++ chunks.flatten else value,
        valuesize + total chunks, stop⟩
  | .malformed => none
  | .short => none

theorem walk_nil (valueavail : Option Nat) (value : List Byte) (valuesize stop : Nat) :
    walk valueavail value valuesize (.complete [] stop) = some ⟨value, valuesize, stop⟩ := by
  simp [walk, total]

theorem walk_cons (valueavail : Option Nat) (value chunk : List Byte) (valuesize : Nat)
    (outcome : Decoded (List (List Byte))) :
    walk valueavail value valuesize
        (outcome.bind fun chunks => .complete (chunk :: chunks)) =
      walk valueavail (if valueavail.isSome then value ++ chunk else value)
        (valuesize + chunk.length) outcome := by
  cases outcome with
  | complete chunks stop => cases valueavail <;> simp [walk, total, Nat.add_assoc]
  | malformed => rfl
  | short => rfl

/-- A copy is made only of chunks that are all there, and only where there is room for them. -/
def Room (valueavail : Option Nat) (valuesize : Nat) (outcome : Decoded (List (List Byte))) :
    Prop :=
  ∀ avail, valueavail = some avail →
    ∃ chunks stop, outcome = .complete chunks stop ∧ valuesize + total chunks ≤ avail

namespace Room

variable {valueavail : Option Nat} {valuesize : Nat} {chunk : List Byte}
variable {outcome rest : Decoded (List (List Byte))}

/-- Where there is room for chunks, there is for the first of them, and then for the rest. -/
theorem of_cons (room : Room valueavail valuesize outcome)
    (cons : outcome = rest.bind fun chunks => .complete (chunk :: chunks)) :
    (∀ avail, valueavail = some avail → valuesize + chunk.length ≤ avail) ∧
      Room valueavail (valuesize + chunk.length) rest := by
  have parts : ∀ avail, valueavail = some avail → ∃ chunks stop,
      rest = .complete chunks stop ∧ valuesize + chunk.length + total chunks ≤ avail := by
    intro avail given
    obtain ⟨chunks, stop, found, enough⟩ := room avail given
    rw [cons] at found
    cases rest with
    | complete others last =>
      cases found
      refine ⟨others, stop, rfl, ?_⟩
      simp only [total, List.map_cons, List.sum_cons] at enough ⊢
      omega
    | malformed => cases found
    | short => cases found
  constructor
  · intro avail given
    obtain ⟨chunks, stop, _, enough⟩ := parts avail given
    omega
  · exact parts

end Room

/-! ## One chunk -/

section Chunk

variable {big : Bool}

theorem chunks_run (held : List Byte) (rp : Nat) : (Format.chunks big).run held rp =
    ((Format.chunk big).run held rp).bind fun item =>
      (Decoder.moreItems (Format.chunk_advances big) item).run held :=
  Decoder.untilNone_run _ held rp

/-- Chunks are read one after the other, up to the one that says there are no more. -/
theorem pulled_chunks : session.pulled (Format.chunks big) rp coming =
      session.pulled ((Format.chunk big).bind
        (Decoder.moreItems (Format.chunk_advances big))) rp coming := by
  apply (pulled_congr _).1
  intro more
  rw [Decoder.shortAt, Decoder.shortAt, chunks_run, Decoder.bind_run]

/-- Where a length or a chunk is missing, so is the value. -/
theorem walk_of_stuck (valueavail : Option Nat) (value : List Byte) (valuesize : Nat)
    (stuck : ∀ item middle, (Format.chunk big).run
      (session.pulled (Format.chunk big) rp coming).resppacket rp ≠ .complete item middle) :
    session.pulled (Format.chunks big) rp coming = session.pulled (Format.chunk big) rp coming ∧
      walk valueavail value valuesize ((Format.chunks big).run
        (session.pulled (Format.chunks big) rp coming).resppacket rp) = none := by
  have pulled :=
    (pulled_bind_of_not_complete (Decoder.moreItems (Format.chunk_advances big)) stuck).1
  rw [pulled_chunks, pulled]
  constructor
  · rfl
  · rw [chunks_run]
    cases found : (Format.chunk big).run
        (session.pulled (Format.chunk big) rp coming).resppacket rp with
    | complete item middle => exact absurd found (stuck item middle)
    | malformed => rfl
    | short => rfl

theorem pulled_chunks_of_item {item : Option (List Byte)} {middle : Nat}
    (found : (Format.chunk big).run (session.pulled (Format.chunk big) rp coming).resppacket rp =
      .complete item middle) :
    session.pulled (Format.chunks big) rp coming =
      (session.pulled (Format.chunk big) rp coming).pulled
        (Decoder.moreItems (Format.chunk_advances big) item) middle
        (session.left (Format.chunk big) rp coming) := by
  rw [pulled_chunks]
  exact (pulled_bind _ found).1

theorem chunk_of_no_size
    (stuck : ∀ size middle, (Format.chunkSize big).run
      (session.pulled (Format.chunkSize big) rp coming).resppacket rp ≠ .complete size middle) :
    session.pulled (Format.chunk big) rp coming =
        session.pulled (Format.chunkSize big) rp coming ∧
      ∀ item middle, (Format.chunk big).run
        (session.pulled (Format.chunk big) rp coming).resppacket rp ≠ .complete item middle := by
  have pulled := (pulled_bind_of_not_complete Format.chunkOf stuck).1
  rw [Format.chunk, pulled]
  constructor
  · rfl
  · intro item middle found
    rw [Decoder.bind_run] at found
    cases sized : (Format.chunkSize big).run
        (session.pulled (Format.chunkSize big) rp coming).resppacket rp with
    | complete size middle => exact stuck size middle sized
    | malformed =>
      rw [sized] at found
      cases found
    | short =>
      rw [sized] at found
      cases found

/-- No chunk behind the last one. -/
theorem chunk_of_zero (behind : Behind settings session coming) {middle : Nat}
    (sized : (Format.chunkSize big).run
      (session.pulled (Format.chunkSize big) rp coming).resppacket rp = .complete 0 middle) :
    session.pulled (Format.chunk big) rp coming =
        session.pulled (Format.chunkSize big) rp coming ∧
      session.left (Format.chunk big) rp coming =
        session.left (Format.chunkSize big) rp coming ∧
      (Format.chunk big).run (session.pulled (Format.chunk big) rp coming).resppacket rp =
        .complete none middle := by
  have pulled := pulled_bind Format.chunkOf sized
  have settled := (behind.pulled (Format.chunkSize big) rp).pulled_of_enough (Format.chunkOf 0)
    middle rfl
  rw [settled.1, settled.2] at pulled
  rw [Format.chunk, pulled.1, pulled.2]
  refine ⟨rfl, rfl, ?_⟩
  rw [Decoder.bind_run, sized]
  rfl

/-- A chunk is read behind its length. -/
theorem chunk_of_size {size middle : Nat} (occupied : size ≠ 0)
    (sized : (Format.chunkSize big).run
      (session.pulled (Format.chunkSize big) rp coming).resppacket rp = .complete size middle) :
    session.pulled (Format.chunk big) rp coming =
        (session.pulled (Format.chunkSize big) rp coming).pulled (.take size) middle
          (session.left (Format.chunkSize big) rp coming) ∧
      session.left (Format.chunk big) rp coming =
        (session.pulled (Format.chunkSize big) rp coming).left (.take size) middle
          (session.left (Format.chunkSize big) rp coming) ∧
      (Format.chunk big).run (session.pulled (Format.chunk big) rp coming).resppacket rp =
        if middle + size ≤ (session.pulled (Format.chunk big) rp coming).resppacket.length then
          .complete (some ((session.pulled (Format.chunk big) rp coming).bytesAt middle size))
            (middle + size)
        else .short := by
  have pulled := pulled_bind Format.chunkOf sized
  have taken := pulled_map (session.pulled (Format.chunkSize big) rp coming) (.take size) middle
    (session.left (Format.chunkSize big) rp coming) some
  rw [Format.chunkOf, if_neg occupied, taken.1, taken.2] at pulled
  refine ⟨pulled.1, pulled.2, ?_⟩
  have found := run_pulled_of_complete sized (.take size) middle
    (session.left (Format.chunkSize big) rp coming)
  rw [Format.chunk, Decoder.bind_run, pulled.1, found, Decoded.complete_bind, Format.chunkOf,
    if_neg occupied, Decoder.map_take_run]
  rfl

theorem walk_of_no_size (valueavail : Option Nat) (value : List Byte) (valuesize : Nat)
    (stuck : ∀ size middle, (Format.chunkSize big).run
      (session.pulled (Format.chunkSize big) rp coming).resppacket rp ≠ .complete size middle) :
    session.pulled (Format.chunks big) rp coming =
        session.pulled (Format.chunkSize big) rp coming ∧
      walk valueavail value valuesize ((Format.chunks big).run
        (session.pulled (Format.chunks big) rp coming).resppacket rp) = none := by
  have none := chunk_of_no_size stuck
  have nothing := walk_of_stuck valueavail value valuesize none.2
  exact ⟨nothing.1.trans none.1, nothing.2⟩

end Chunk

theorem not_any_of_le {valueavail : Option Nat} {size : Nat}
    (enough : ∀ avail, valueavail = some avail → size ≤ avail) :
    ¬(valueavail.any fun avail => avail < size) = true := by
  cases valueavail with
  | none => simp
  | some avail =>
    have within := enough avail rfl
    simpa using within

/-- The walk over the chunks of a value pulls in what the value is in, and no more. -/
theorem readLongFormChunks_eq (valueavail : Option Nat) (value : List Byte) (valuesize : Nat)
    (behind : Behind settings session coming)
    (reached : rp ≤ session.resppacket.length) (stale : stop ≤ session.resppacket.length)
    (small : valuesize + settings.maxrequestsize < 2 ^ 32 + rp)
    (room : Room valueavail valuesize ((Format.chunks settings.bigchunks).run
      (session.pulled (Format.chunks settings.bigchunks) rp coming).resppacket rp)) :
    readLongFormChunks settings valueavail session rp stop value valuesize =
      (walk valueavail value valuesize ((Format.chunks settings.bigchunks).run
          (session.pulled (Format.chunks settings.bigchunks) rp coming).resppacket rp),
        session.pulled (Format.chunks settings.bigchunks) rp coming) := by
  induction further : settings.maxrequestsize - rp using Nat.strongRecOn
    generalizing session coming rp stop value valuesize with
  | ind distance induction =>
  have sized := behind.pulled (Format.chunkSize settings.bigchunks) rp
  have longer := length_le_pulled (Format.chunkSize settings.bigchunks) session rp coming
  rw [readLongFormChunks_unfold, readChunkSize_eq behind reached stale]
  cases length : (Format.chunkSize settings.bigchunks).run
      (session.pulled (Format.chunkSize settings.bigchunks) rp coming).resppacket rp with
  | malformed =>
    have nothing := walk_of_no_size valueavail value valuesize
      (fun size middle found => nomatch length.symm.trans found)
    rw [nothing.2, nothing.1]
    rfl
  | short =>
    have nothing := walk_of_no_size valueavail value valuesize
      (fun size middle found => nomatch length.symm.trans found)
    rw [nothing.2, nothing.1]
    rfl
  | complete size middle =>
    have inside := (Format.chunkSize settings.bigchunks).inside _ _ _ _ length (by omega)
    simp only [sizeAnswer]
    by_cases empty : size = 0
    · rw [empty] at length
      have last := chunk_of_zero behind length
      have pulled := pulled_chunks_of_item last.2.2
      have settled := (behind.pulled (Format.chunk settings.bigchunks) rp).pulled_of_enough
        (Decoder.moreItems (Format.chunk_advances settings.bigchunks) none) middle rfl
      rw [settled.1] at pulled
      rw [if_pos empty, pulled, chunks_run, last.2.2, last.1, Decoded.complete_bind]
      exact congrArg (fun walked => (walked, _)) (walk_nil valueavail value valuesize middle).symm
    · have one := chunk_of_size empty length
      have taken := behind.pulled (Format.chunk settings.bigchunks) rp
      rw [if_neg empty, haveBytes_eq sized inside (Nat.le_refl _), ← one.1]
      by_cases enough : middle + size ≤
          (session.pulled (Format.chunk settings.bigchunks) rp coming).resppacket.length
      · have found := one.2.2
        rw [if_pos enough] at found
        have rest := pulled_map (session.pulled (Format.chunk settings.bigchunks) rp coming)
          (Format.chunks settings.bigchunks) (middle + size)
          (session.left (Format.chunk settings.bigchunks) rp coming)
          ((session.pulled (Format.chunk settings.bigchunks) rp coming).bytesAt middle size :: ·)
        have pulled := (pulled_chunks_of_item found).trans rest.1
        have forth := (Format.chunkSize settings.bigchunks).frugal _ _ _ _ length
        have fits := taken.fits
        have bytes : ((session.pulled (Format.chunk settings.bigchunks) rp coming).bytesAt middle
            size).length = size := by
          rw [Session.bytesAt, List.length_take, List.length_drop]
          omega
        have run : (Format.chunks settings.bigchunks).run
            (session.pulled (Format.chunks settings.bigchunks) rp coming).resppacket rp =
            ((Format.chunks settings.bigchunks).run
              (session.pulled (Format.chunks settings.bigchunks) rp coming).resppacket
              (middle + size)).bind fun chunks => .complete
                ((session.pulled (Format.chunk settings.bigchunks) rp coming).bytesAt middle size ::
                  chunks) := by
          rw [chunks_run, pulled, run_pulled_of_complete found]
          rfl
        have within := room.of_cons run
        rw [bytes] at within
        rw [run, walk_cons, bytes, pulled, decide_eq_true enough]
        rw [pulled] at within
        simp only
        rw [if_neg (not_any_of_le within.1), Nat.mod_eq_of_lt (by omega)]
        exact induction _ (by omega) _ _ taken enough (Nat.le_refl _) (by omega) within.2 rfl
      · have found := one.2.2
        rw [if_neg enough] at found
        have nothing := walk_of_stuck valueavail value valuesize
          (fun item stop again => nomatch found.symm.trans again)
        rw [decide_eq_false enough, nothing.2, nothing.1]

/-! ## The value that the chunks make up -/

theorem chunk_length_le {big : Bool} {held chunk : List Byte} {rp stop : Nat}
    (found : (Format.chunk big).run held rp = .complete (some chunk) stop) :
    rp + chunk.length ≤ stop := by
  rw [Format.chunk, Decoder.bind_run] at found
  cases sized : (Format.chunkSize big).run held rp with
  | malformed =>
    rw [sized] at found
    cases found
  | short =>
    rw [sized] at found
    cases found
  | complete size middle =>
    have further := Format.lt_stop_of_chunkSize sized
    rw [sized, Decoded.complete_bind, Format.chunkOf] at found
    split at found
    case isTrue => cases found
    case isFalse =>
      rw [Decoder.map_take_run] at found
      split at found
      case isTrue =>
        cases found
        rw [List.length_take]
        omega
      case isFalse => cases found

/-- What is copied out of a request is no longer than the request. -/
theorem total_le {big : Bool} {held : List Byte} {chunks : List (List Byte)} {rp stop : Nat}
    (found : (Format.chunks big).run held rp = .complete chunks stop) :
    rp + total chunks ≤ stop := by
  induction chunks generalizing rp with
  | nil => simpa [total] using ((Format.chunks big).frugal _ _ _ _ found).1
  | cons chunk chunks induction =>
    rw [chunks_run] at found
    cases item : (Format.chunk big).run held rp with
    | malformed =>
      rw [item] at found
      cases found
    | short =>
      rw [item] at found
      cases found
    | complete value middle =>
      rw [item, Decoded.complete_bind] at found
      cases value with
      | none => cases found
      | some first =>
        rw [Decoder.moreItems, Decoder.map_run] at found
        cases rest : (Decoder.untilNone (Format.chunk_advances big)).run held middle with
        | malformed =>
          rw [rest] at found
          cases found
        | short =>
          rw [rest] at found
          cases found
        | complete others last =>
          rw [rest] at found
          cases found
          have here := chunk_length_le item
          have there := induction rest
          simp only [total, List.map_cons, List.sum_cons] at there ⊢
          omega

/-- What a value in the long form comes to, where there is so much room left for values. -/
def longAnswer (avail rp : Nat) :
    Decoded (List (List Byte)) → Answer (Option (List Byte) × Nat)
  | .complete chunks stop =>
      if avail < total chunks + 1 then ⟨false, (none, 0), stop⟩
      else ⟨true, (some chunks.flatten, total chunks), stop⟩
  | .malformed => ⟨false, (none, 0), rp⟩
  | .short => ⟨false, (none, 0), rp⟩

/-- The session with the value that it has room for in its pool. -/
def Session.stored (session : Session) : Decoded (List (List Byte)) → Session
  | .complete chunks _ =>
      if session.requestvalueavail < total chunks + 1 then session
      else
        { session with
          resppacketpool := session.resppacketpool + (total chunks + 1)
          requestvalueavail := session.requestvalueavail - (total chunks + 1) }
  | .malformed => session
  | .short => session

/-- What the pool gives away has no effect on what comes behind. -/
theorem Behind.allocated (behind : Behind settings session coming) (size : Nat) :
    Behind settings { session with resppacketpool := session.resppacketpool + size } coming where
  socket := behind.socket
  fits := behind.fits
  reassemble := behind.reassemble

/-- The copying pass finds the chunks that the sizing pass has found, and asks for nothing. -/
theorem copy_eq {chunks : List (List Byte)} {last : Nat} (behind : Behind settings session coming)
    (found : (Format.chunks settings.bigchunks).run session.resppacket rp = .complete chunks last)
    (reached : rp ≤ session.resppacket.length) (stale : stop ≤ session.resppacket.length) :
    readLongFormChunks settings (some (total chunks)) session rp stop [] 0 =
      (some ⟨chunks.flatten, total chunks, last⟩, session) := by
  have bounded := settings.maxrequestsize_le
  have limit : maxMaxRequestSize < 2 ^ 32 := by decide
  have settled := behind.pulled_of_enough (Format.chunks settings.bigchunks) rp
    (by rw [Decoder.shortAt, found]; rfl)
  have copying := readLongFormChunks_eq (some (total chunks)) [] 0 behind reached stale (by omega)
  rw [settled.1, found] at copying
  rw [copying]
  · simp [walk]
  · intro avail given
    cases given
    exact ⟨chunks, last, rfl, by omega⟩

theorem getLongFormBytes_eq (behind : Behind settings session coming)
    (reached : rp ≤ session.resppacket.length) (stale : stop ≤ session.resppacket.length) :
    getLongFormBytes settings session rp stop =
      (longAnswer session.requestvalueavail rp ((Format.chunks settings.bigchunks).run
          (session.pulled (Format.chunks settings.bigchunks) rp coming).resppacket rp),
        (session.pulled (Format.chunks settings.bigchunks) rp coming).stored
          ((Format.chunks settings.bigchunks).run
            (session.pulled (Format.chunks settings.bigchunks) rp coming).resppacket rp)) := by
  have bounded := settings.maxrequestsize_le
  have limit : maxMaxRequestSize < 2 ^ 32 - 1 := by decide
  have pulled := behind.pulled (Format.chunks settings.bigchunks) rp
  have longer := length_le_pulled (Format.chunks settings.bigchunks) session rp coming
  have sizing := readLongFormChunks_eq none [] 0 behind reached stale (by omega)
    (fun avail given => nomatch given)
  rw [getLongFormBytes, sizing]
  cases found : (Format.chunks settings.bigchunks).run
      (session.pulled (Format.chunks settings.bigchunks) rp coming).resppacket rp with
  | malformed => rfl
  | short => rfl
  | complete chunks last =>
    have far := total_le found
    have inside := (Format.chunks settings.bigchunks).inside _ _ _ _ found (by omega)
    have fits := pulled.fits
    have alloc : (total chunks + 1) % 2 ^ 32 = total chunks + 1 := Nat.mod_eq_of_lt (by omega)
    simp only [walk, longAnswer, Session.stored, Option.isSome_none, Bool.false_eq_true, if_false,
      Nat.zero_add, alloc]
    have avail : (session.pulled (Format.chunks settings.bigchunks) rp coming).requestvalueavail =
        session.requestvalueavail := rfl
    rw [avail]
    by_cases little : session.requestvalueavail < total chunks + 1
    · rw [if_pos little, if_pos little, if_pos little]
    · rw [if_neg little, if_neg little, if_neg little]
      have copying := copy_eq (pulled.allocated (total chunks + 1)) found
        (Nat.le_trans reached longer) (Nat.le_trans stale longer)
      rw [avail] at copying
      rw [copying]

end SqlRelay.Oracle
