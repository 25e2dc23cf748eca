import SqlRelay.Oracle.Formats

/-!
# Reading a request that arrives in packets

Behind what was received of a request come the packets with the rest of it.  Each reader then asks
for packets exactly as a decoder of its format takes in pieces, and returns what the decoder finds
in what is held in the end.
-/

namespace SqlRelay.Oracle

open SqlRelay.Foundation

variable {Value Other : Type}

/-- Behind what was received come these packets and nothing else, in a call that may ask for them,
and the request as a whole fits the request buffer. -/
structure Behind (settings : Settings) (session : Session)
    (coming : List (Fragment settings)) : Prop where
  socket : session.socket = coming.flatMap Fragment.bytes
  fits : session.resppacket.length + (coming.flatMap Fragment.body).length ≤
    settings.maxrequestsize
  reassemble : session.reassemble = true

/-- The packets that a decoder leaves. -/
def Session.left (session : Session) (decoder : Decoder Byte Value) (rp : Nat)
    {settings : Settings} (coming : List (Fragment settings)) : List (Fragment settings) :=
  (decoder.pulled Fragment.body rp session.resppacket coming).2

/-- The session once a decoder has taken in the packets it was short of. -/
def Session.pulled (session : Session) (decoder : Decoder Byte Value) (rp : Nat)
    {settings : Settings} (coming : List (Fragment settings)) : Session :=
  { session with
    resppacket := (decoder.pulled Fragment.body rp session.resppacket coming).1
    socket := (session.left decoder rp coming).flatMap Fragment.bytes }

section Pulled

variable {settings : Settings} {session : Session} {coming : List (Fragment settings)}
variable {decoder : Decoder Byte Value} {rp stop bytes : Nat}

theorem pulled_append (decoder : Decoder Byte Value) (session : Session) (rp : Nat)
    (coming : List (Fragment settings)) : (session.pulled decoder rp coming).resppacket ++
      (session.left decoder rp coming).flatMap Fragment.body =
        session.resppacket ++ coming.flatMap Fragment.body :=
  pull_append _ _ _ _

theorem pulled_eq_append (decoder : Decoder Byte Value) (session : Session) (rp : Nat)
    (coming : List (Fragment settings)) :
    ∃ more, (session.pulled decoder rp coming).resppacket = session.resppacket ++ more := by
  cases pull_asked Fragment.body (decoder.shortAt rp) session.resppacket coming with
  | intro taken parts => exact ⟨taken.flatMap Fragment.body, parts.2.1⟩

theorem length_le_pulled (decoder : Decoder Byte Value) (session : Session) (rp : Nat)
    (coming : List (Fragment settings)) :
    session.resppacket.length ≤ (session.pulled decoder rp coming).resppacket.length := by
  cases pulled_eq_append decoder session rp coming with
  | intro more longer =>
    rw [longer, List.length_append]
    exact Nat.le_add_right _ _

theorem Behind.pulled (behind : Behind settings session coming) (decoder : Decoder Byte Value)
    (rp : Nat) :
    Behind settings (session.pulled decoder rp coming) (session.left decoder rp coming) where
  socket := rfl
  fits := by
    rw [← List.length_append, pulled_append, List.length_append]
    exact behind.fits
  reassemble := behind.reassemble

theorem Behind.pulled_of_enough (behind : Behind settings session coming)
    (decoder : Decoder Byte Value) (rp : Nat)
    (enough : decoder.shortAt rp session.resppacket = false) :
    session.pulled decoder rp coming = session ∧ session.left decoder rp coming = coming := by
  have same := pull_of_enough Fragment.body coming enough
  have left : session.left decoder rp coming = coming := congrArg Prod.snd same
  constructor
  · rw [Session.pulled, left, ← behind.socket, Decoder.pulled, same]
  · exact left

theorem pulled_cons_of_short {fragment : Fragment settings}
    (short : decoder.shortAt rp session.resppacket = true) :
    session.pulled decoder rp (fragment :: coming) =
      { session with
        resppacket := session.resppacket ++ fragment.body
        socket := coming.flatMap Fragment.bytes : Session }.pulled decoder rp coming := by
  simp only [Session.pulled, Session.left, Decoder.pulled, pull_cons_of_needs short]

theorem shortAt_take_iff : (Decoder.take bytes).shortAt rp session.resppacket = true ↔
    session.resppacket.length < rp + bytes := by
  rw [Decoder.take_shortAt, decide_eq_true_iff]

theorem shortAt_take_eq_false_iff : (Decoder.take bytes).shortAt rp session.resppacket = false ↔
    rp + bytes ≤ session.resppacket.length := by
  rw [← Bool.not_eq_true, shortAt_take_iff, Nat.not_lt]

/-- The loop pulls in packets until the bytes are there, or there are no more packets. -/
theorem haveLoop_eq (behind : Behind settings session coming)
    (reached : rp ≤ session.resppacket.length) :
    haveLoop settings rp bytes session.resppacket.length session =
      (decide (rp + bytes ≤ (session.pulled (.take bytes) rp coming).resppacket.length),
        (session.pulled (.take bytes) rp coming).resppacket.length,
        session.pulled (.take bytes) rp coming) := by
  induction coming generalizing session with
  | nil =>
    have pulled : session.pulled (.take bytes) rp ([] : List (Fragment settings)) = session := by
      rw [Session.pulled, Session.left, Decoder.pulled, pull_nil, ← behind.socket]
    have refused : refillPacket settings session = .error [] := by
      have empty : session.socket = [] := behind.socket
      rw [refillPacket, empty, readPacketSize]
      split <;> rfl
    rw [haveLoop, pulled]
    split
    case isTrue few =>
      rw [if_pos behind.reassemble]
      split
      case h_1 socket again =>
        cases refused.symm.trans again
        have far : ¬rp + bytes ≤ session.resppacket.length := by omega
        have empty : session.socket = [] := behind.socket
        rw [decide_eq_false far, ← empty]
      case h_2 again =>
        rw [refused] at again
        cases again
    case isFalse enough =>
      have near : rp + bytes ≤ session.resppacket.length := by omega
      rw [decide_eq_true near]
  | cons fragment coming induction =>
    rw [haveLoop]
    split
    case isTrue few =>
      have short : (Decoder.take bytes).shortAt rp session.resppacket = true := by
        rw [shortAt_take_iff]
        omega
      have fits := behind.fits
      simp only [List.flatMap_cons, List.length_append] at fits
      have refilled := refillPacket_fragment fragment behind.socket (by omega)
      rw [if_pos behind.reassemble]
      split
      case h_1 again =>
        rw [refilled] at again
        cases again
      case h_2 again =>
        cases refilled.symm.trans again
        rw [pulled_cons_of_short short]
        apply induction
        · constructor
          · rfl
          · simp only [List.length_append]
            omega
          · exact behind.reassemble
        · simp only [List.length_append]
          omega
    case isFalse enough =>
      have near : rp + bytes ≤ session.resppacket.length := by omega
      rw [(behind.pulled_of_enough _ rp (shortAt_take_eq_false_iff.mpr near)).1, decide_eq_true near]

/-- However old the end is that a parse knows of, it gets the bytes that it asks for. -/
theorem haveBytes_eq (behind : Behind settings session coming)
    (reached : rp ≤ session.resppacket.length) (stale : stop ≤ session.resppacket.length)
    (bytes : Nat) : haveBytes settings session rp bytes stop =
      (decide (rp + bytes ≤ (session.pulled (.take bytes) rp coming).resppacket.length),
        (session.pulled (.take bytes) rp coming).resppacket.length,
        session.pulled (.take bytes) rp coming) := by
  have current : session.currentEnd stop = session.resppacket.length := by
    rw [Session.currentEnd]
    split
    · rfl
    · omega
  rw [haveBytes, current, if_neg (by omega), haveLoop_eq behind reached]

/-- Decoders that are short of the same bytes leave the same session. -/
theorem pulled_congr {other : Decoder Byte Other} {rp' : Nat}
    (same : ∀ more, decoder.shortAt rp (session.resppacket ++ more) =
      other.shortAt rp' (session.resppacket ++ more)) :
    session.pulled decoder rp coming = session.pulled other rp' coming ∧
      session.left decoder rp coming = session.left other rp' coming := by
  have pulled : decoder.pulled Fragment.body rp session.resppacket coming =
      other.pulled Fragment.body rp' session.resppacket coming := pull_congr same
  constructor
  · rw [Session.pulled, Session.pulled, Session.left, Session.left, pulled]
  · rw [Session.left, Session.left, pulled]

theorem pulled_map (session : Session) (decoder : Decoder Byte Value) (rp : Nat)
    (coming : List (Fragment settings)) (change : Value → Other) :
    session.pulled (decoder.map change) rp coming = session.pulled decoder rp coming ∧
      session.left (decoder.map change) rp coming = session.left decoder rp coming := by
  apply pulled_congr
  intro more
  rw [Decoder.map_shortAt]

variable (next : Value → Decoder Byte Other)

theorem pulled_bind {value : Value} {middle : Nat}
    (found : decoder.run (session.pulled decoder rp coming).resppacket rp =
      .complete value middle) :
    session.pulled (decoder.bind next) rp coming =
        (session.pulled decoder rp coming).pulled (next value) middle
          (session.left decoder rp coming) ∧
      session.left (decoder.bind next) rp coming =
        (session.pulled decoder rp coming).left (next value) middle
          (session.left decoder rp coming) := by
  have pulled := Decoder.pulled_bind next found
  constructor
  · simp only [Session.pulled, Session.left, pulled]
  · simp only [Session.pulled, Session.left, pulled]

theorem pulled_bind_of_not_complete
    (stuck : ∀ value middle, decoder.run (session.pulled decoder rp coming).resppacket rp ≠
      .complete value middle) :
    session.pulled (decoder.bind next) rp coming = session.pulled decoder rp coming ∧
      session.left (decoder.bind next) rp coming = session.left decoder rp coming := by
  have pulled := Decoder.pulled_bind_of_not_complete next stuck
  constructor
  · simp only [Session.pulled, Session.left, pulled]
  · simp only [Session.left, pulled]

end Pulled

section Sequence

variable {settings : Settings} {session : Session} {coming : List (Fragment settings)}
variable {decoder : Decoder Byte Value} {other : Decoder Byte Other} {rp rp' stop : Nat}

/-- A value that was found stays where it is. -/
theorem run_pulled_of_complete {value : Value}
    (found : decoder.run session.resppacket rp = .complete value stop)
    (other : Decoder Byte Other) (rp' : Nat) (coming : List (Fragment settings)) :
    decoder.run (session.pulled other rp' coming).resppacket rp = .complete value stop := by
  cases pulled_eq_append other session rp' coming with
  | intro more longer => rw [longer, decoder.settled _ more rp (by rw [found]; rfl), found]

/-- What is needed first makes no difference to what is needed anyway. -/
theorem pulled_pulled (session : Session) (coming : List (Fragment settings))
    (sooner : ∀ held, decoder.shortAt rp held = true →
    other.shortAt rp' held = true) :
    (session.pulled decoder rp coming).pulled other rp' (session.left decoder rp coming) =
        session.pulled other rp' coming ∧
      (session.pulled decoder rp coming).left other rp' (session.left decoder rp coming) =
        session.left other rp' coming := by
  have pulled := pull_pull Fragment.body session.resppacket coming sooner
  constructor
  · simp only [Session.pulled, Session.left, Decoder.pulled, pulled]
  · simp only [Session.pulled, Session.left, Decoder.pulled, pulled]

end Sequence

/-! ## Integers -/

section Integers

variable {settings : Settings} {session : Session} {coming : List (Fragment settings)}
variable {rp stop : Nat}

/-- A value that is not there leaves the position where it was. -/
def answer (unset : Value) (rp : Nat) : Decoded Value → Answer Value
  | .complete value stop => ⟨true, value, stop⟩
  | .malformed => ⟨false, unset, rp⟩
  | .short => ⟨false, unset, rp⟩

theorem pulled_byte (session : Session) (rp : Nat) (coming : List (Fragment settings)) :
    session.pulled Format.byte rp coming = session.pulled (.take 1) rp coming ∧
      session.left Format.byte rp coming = session.left (.take 1) rp coming :=
  pulled_map _ _ _ _ _

variable (next : Byte → Decoder Byte Value)

/-- Once a byte is there, what depends on it is read behind it. -/
theorem pulled_byte_bind
    (one : rp + 1 ≤ (session.pulled (.take 1) rp coming).resppacket.length) :
    session.pulled (Format.byte.bind next) rp coming =
        (session.pulled (.take 1) rp coming).pulled
          (next ((session.pulled (.take 1) rp coming).byteAt rp)) (rp + 1)
          (session.left (.take 1) rp coming) ∧
      session.left (Format.byte.bind next) rp coming =
        (session.pulled (.take 1) rp coming).left
          (next ((session.pulled (.take 1) rp coming).byteAt rp)) (rp + 1)
          (session.left (.take 1) rp coming) := by
  have first := pulled_byte session rp coming
  have found := Format.byte_run (session.pulled Format.byte rp coming).resppacket rp
  rw [first.1, if_pos one, ← first.1] at found
  have pulled := pulled_bind next found
  rw [first.1, first.2] at pulled
  exact pulled

/-- Where not even one byte is there, everything was pulled in. -/
theorem pulled_byte_bind_of_none
    (none : (session.pulled (.take 1) rp coming).resppacket.length < rp + 1) :
    session.pulled (Format.byte.bind next) rp coming = session.pulled (.take 1) rp coming ∧
      session.left (Format.byte.bind next) rp coming = session.left (.take 1) rp coming := by
  have first := pulled_byte session rp coming
  rw [← first.1, ← first.2]
  apply pulled_bind_of_not_complete
  intro value middle
  rw [Format.byte_run, first.1, if_neg (by omega)]
  exact fun found => nomatch found

section Counted

variable {size : Byte → Nat} {value : Byte → List Byte → Value}

theorem pulled_counted
    (one : rp + 1 ≤ (session.pulled (.take 1) rp coming).resppacket.length)
    (small : size ((session.pulled (.take 1) rp coming).byteAt rp) ≤ 4) :
    session.pulled (Format.counted size value) rp coming =
      (session.pulled (.take 1) rp coming).pulled
        (.take (size ((session.pulled (.take 1) rp coming).byteAt rp) + 1)) rp
        (session.left (.take 1) rp coming) := by
  rw [Format.counted, (pulled_byte_bind _ one).1, if_neg (Nat.not_lt.mpr small)]
  apply (pulled_congr _).1
  intro more
  rw [Decoder.map_shortAt, Decoder.take_shortAt, Decoder.take_shortAt, Nat.add_assoc,
    Nat.add_comm 1]

theorem pulled_counted_of_large (behind : Behind settings session coming)
    (one : rp + 1 ≤ (session.pulled (.take 1) rp coming).resppacket.length)
    (large : 4 < size ((session.pulled (.take 1) rp coming).byteAt rp)) :
    session.pulled (Format.counted size value) rp coming = session.pulled (.take 1) rp coming := by
  rw [Format.counted, (pulled_byte_bind _ one).1, if_pos large]
  exact ((behind.pulled (.take 1) rp).pulled_of_enough _ _ rfl).1

/-- What a count prefixed integer takes is there before it is read. -/
theorem getLenPreInt_session (behind : Behind settings session coming)
    (reached : rp ≤ session.resppacket.length) (stale : stop ≤ session.resppacket.length) :
    (getLenPreInt settings session rp stop).2 =
      ((session.pulled Format.lenPreInt rp coming).resppacket.length,
        session.pulled Format.lenPreInt rp coming) := by
  have first := haveBytes_eq behind reached stale 1
  have between := behind.pulled (.take 1) rp
  have further := length_le_pulled (.take 1) session rp coming
  rw [getLenPreInt, first]
  simp only [decide_eq_true_eq]
  split
  case isTrue parts =>
    have within : rp ≤ (session.pulled (.take 1) rp coming).resppacket.length := by omega
    rw [haveBytes_eq between within (Nat.le_refl _), Format.lenPreInt, pulled_counted parts.1 parts.2]
  case isFalse parts =>
    by_cases one : rp + 1 ≤ (session.pulled (.take 1) rp coming).resppacket.length
    · have large : 4 < ((session.pulled (.take 1) rp coming).byteAt rp).toNat := by omega
      rw [Format.lenPreInt, pulled_counted_of_large behind one large]
    · rw [Format.lenPreInt, Format.counted, (pulled_byte_bind_of_none _ (by omega)).1]

theorem counted_run_at (session : Session) (rp : Nat) :
    (Format.counted size value).run session.resppacket rp =
      if session.resppacket.length < rp + 1 then .short
      else if 4 < size (session.byteAt rp) then .malformed
      else if session.resppacket.length < rp + 1 + size (session.byteAt rp) then .short
      else .complete (value (session.byteAt rp)
        (session.bytesAt (rp + 1) (size (session.byteAt rp)))) (rp + 1 + size (session.byteAt rp)) :=
  Format.counted_run session.resppacket rp

/-- The read that is bounded by the end of the request finds what is there. -/
theorem readLenPreInt_eq (session : Session) (rp : Nat) :
    readLenPreInt session rp session.resppacket.length =
      answer 0 rp (Format.lenPreInt.run session.resppacket rp) := by
  rw [readLenPreInt, Format.lenPreInt, counted_run_at]
  by_cases none : session.resppacket.length < rp + 1
  · rw [if_pos (by omega), if_pos none, answer]
  · rw [if_neg (by omega), if_neg none]
    by_cases large : 4 < (session.byteAt rp).toNat
    · rw [if_pos (Or.inl large), if_pos large, answer]
    · rw [if_neg large]
      by_cases few : session.resppacket.length < rp + 1 + (session.byteAt rp).toNat
      · rw [if_pos (by omega), if_pos few, answer]
      · rw [if_neg (by omega), if_neg few, answer]

theorem getLenPreInt_eq (behind : Behind settings session coming)
    (reached : rp ≤ session.resppacket.length) (stale : stop ≤ session.resppacket.length) :
    getLenPreInt settings session rp stop =
      (answer 0 rp (Format.lenPreInt.run
          (session.pulled Format.lenPreInt rp coming).resppacket rp),
        (session.pulled Format.lenPreInt rp coming).resppacket.length,
        session.pulled Format.lenPreInt rp coming) := by
  have sessions := getLenPreInt_session behind reached stale
  rw [← readLenPreInt_eq]
  apply Prod.ext
  · rw [getLenPreInt] at sessions ⊢
    simp only at sessions ⊢
    rw [(Prod.mk.inj sessions).1, (Prod.mk.inj sessions).2]
  · exact sessions

theorem byteAt_pulled {decoder : Decoder Byte Value} {position : Nat}
    (inside : rp < session.resppacket.length) :
    (session.pulled decoder position coming).byteAt rp = session.byteAt rp := by
  cases pulled_eq_append decoder session position coming with
  | intro more longer =>
    rw [Session.byteAt, Session.byteAt, longer, List.getD_eq_getElem?_getD,
      List.getD_eq_getElem?_getD, List.getElem?_append_left inside]

theorem getLenPreSignedInt_eq (behind : Behind settings session coming)
    (reached : rp ≤ session.resppacket.length) (stale : stop ≤ session.resppacket.length) :
    getLenPreSignedInt settings session rp stop =
      (answer 0 rp (Format.lenPreSignedInt.run
          (session.pulled Format.lenPreSignedInt rp coming).resppacket rp),
        (session.pulled Format.lenPreSignedInt rp coming).resppacket.length,
        session.pulled Format.lenPreSignedInt rp coming) := by
  have between := behind.pulled (.take 1) rp
  have further := length_le_pulled (.take 1) session rp coming
  have within : rp ≤ (session.pulled (.take 1) rp coming).resppacket.length := by omega
  rw [getLenPreSignedInt, haveBytes_eq behind reached stale]
  by_cases one : rp + 1 ≤ (session.pulled (.take 1) rp coming).resppacket.length
  · rw [decide_eq_true one]
    simp only
    split
    case isTrue large =>
      rw [Format.lenPreSignedInt, pulled_counted_of_large behind one large, counted_run_at,
        if_neg (by omega), if_pos large, answer]
    case isFalse small =>
      have pulled : session.pulled Format.lenPreSignedInt rp coming =
          (session.pulled (.take 1) rp coming).pulled
            (.take (((session.pulled (.take 1) rp coming).byteAt rp &&& 0x7f).toNat + 1)) rp
            (session.left (.take 1) rp coming) := pulled_counted one (Nat.not_lt.mp small)
      have same : (session.pulled Format.lenPreSignedInt rp coming).byteAt rp =
          (session.pulled (.take 1) rp coming).byteAt rp := by
        rw [pulled]
        exact byteAt_pulled one
      have longer : rp + 1 ≤ (session.pulled Format.lenPreSignedInt rp coming).resppacket.length := by
        rw [pulled]
        exact Nat.le_trans one (length_le_pulled _ _ _ _)
      rw [haveBytes_eq between within (Nat.le_refl _), ← pulled, ← same]
      rw [← same] at small
      rw [Format.lenPreSignedInt] at small longer ⊢
      rw [counted_run_at, if_neg (by omega), if_neg small]
      split
      case h_1 few =>
        have far := of_decide_eq_false (Prod.mk.inj few).1
        rw [if_pos (by omega), answer]
        exact Prod.ext rfl (Prod.mk.inj few).2.symm
      case h_2 all =>
        have near := of_decide_eq_true (Prod.mk.inj all).1
        have sessions := Prod.mk.inj (Prod.mk.inj all).2
        rw [if_neg (by omega), answer, ← sessions.1, ← sessions.2]
  · rw [decide_eq_false one, Format.lenPreSignedInt, counted_run_at, Format.counted,
      (pulled_byte_bind_of_none _ (by omega)).1, if_pos (by omega), answer]

end Counted

end Integers

end SqlRelay.Oracle
