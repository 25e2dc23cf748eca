import SqlRelay.Oracle.Bounded
import SqlRelay.Oracle.LenBytes

/-!
# Reassembly is transparent

However a request is split into packets, what is read of it is what would be read if it had come as
a whole.  A packet is asked for only where the value is longer than what was received.
-/

namespace SqlRelay.Oracle

open SqlRelay.Foundation

/-- The readers of values that may lie in more than one packet. -/
inductive Kind where
  | lenPreInt
  | lenPreSignedInt
  | lenBytes
deriving DecidableEq

/-- What a reader returns. -/
inductive Returned where
  | integer (answer : Answer UInt32)
  | signed (answer : Answer Int32)
  | bytes (answer : Answer Clr)
deriving DecidableEq

namespace Returned

def ok : Returned → Bool
  | integer answer => answer.ok
  | signed answer => answer.ok
  | bytes answer => answer.ok

def rpout : Returned → Nat
  | integer answer => answer.rpout
  | signed answer => answer.rpout
  | bytes answer => answer.rpout

end Returned

namespace Kind

/-- Reads a value.  A reader of integers moves the end that its caller knows of, a reader of length
prefixed values has a copy of it. -/
def read (settings : Settings) (session : Session) (rp stop : Nat) :
    Kind → Returned × Nat × Session
  | lenPreInt =>
      let (answer, stop, session) := getLenPreInt settings session rp stop
      (.integer answer, stop, session)
  | lenPreSignedInt =>
      let (answer, stop, session) := getLenPreSignedInt settings session rp stop
      (.signed answer, stop, session)
  | lenBytes =>
      let (answer, session) := getLenBytes settings session rp stop
      (.bytes answer, stop, session)

/-- What is held ends before it is known what the value is. -/
def shortAt (settings : Settings) (rp : Nat) (held : List Byte) : Kind → Bool
  | lenPreInt => Format.lenPreInt.shortAt rp held
  | lenPreSignedInt => Format.lenPreSignedInt.shortAt rp held
  | lenBytes => (Format.lenBytes settings.bigchunks).shortAt rp held

end Kind

variable {settings : Settings} {session : Session} {coming : List (Fragment settings)}
variable {rp stop : Nat} {Value : Type}

/-- The session if the request had come as a whole. -/
def Session.unsplit (session : Session) (coming : List (Fragment settings)) : Session :=
  { session with
    resppacket := session.resppacket ++ coming.flatMap Fragment.body
    socket := [] }

/-- The packets that a value needs were asked for, and no others: before each of them, what was
held ended before the value. -/
structure Asked (settings : Settings) (kind : Kind) (rp : Nat) (returned : Returned)
    (before : List Byte) (taken : List (Fragment settings)) : Prop where
  short : ∀ front fragment later, taken = front ++ fragment :: later →
    kind.shortAt settings rp (before ++ front.flatMap Fragment.body) = true
  needed : returned.ok = true → ∀ front fragment later, taken = front ++ fragment :: later →
    (before ++ front.flatMap Fragment.body).length < returned.rpout

/-- A value is read as it is of the whole request, whatever ends are known of, and the session is
left with the packets behind the value still to come. -/
structure Transparent (settings : Settings) (kind : Kind) (session : Session)
    (coming : List (Fragment settings)) (rp stop stop' : Nat) : Prop where
  returned : (kind.read settings session rp stop).1 =
    (kind.read settings (session.unsplit coming) rp stop').1
  reached : (kind.read settings session rp stop).1.rpout ≤
    (kind.read settings session rp stop).2.2.resppacket.length
  stale : (kind.read settings session rp stop).2.1 ≤
    (kind.read settings session rp stop).2.2.resppacket.length
  room : (kind.read settings session rp stop).2.2.resppacketpool +
      (kind.read settings session rp stop).2.2.requestvalueavail =
    session.resppacketpool + session.requestvalueavail
  asked : ∃ taken rest, coming = taken ++ rest ∧
    Behind settings (kind.read settings session rp stop).2.2 rest ∧
    (kind.read settings session rp stop).2.2.resppacket =
      session.resppacket ++ taken.flatMap Fragment.body ∧
    (kind.read settings (session.unsplit coming) rp stop').2.2 =
      (kind.read settings session rp stop).2.2.unsplit rest ∧
    Asked settings kind rp (kind.read settings session rp stop).1 session.resppacket taken

theorem Behind.unsplit (behind : Behind settings session coming) :
    Behind settings (session.unsplit coming) ([] : List (Fragment settings)) where
  socket := rfl
  fits := by
    have fits := behind.fits
    rw [Session.unsplit, List.length_append]
    exact fits
  reassemble := behind.reassemble

theorem run_pulled_eq (decoder : Decoder Byte Value) (session : Session) (rp : Nat)
    (coming : List (Fragment settings)) :
    decoder.run (session.pulled decoder rp coming).resppacket rp =
      decoder.run (session.unsplit coming).resppacket rp :=
  Decoder.run_pulled

theorem unsplit_pulled (decoder : Decoder Byte Value) (session : Session) (rp : Nat)
    (coming : List (Fragment settings)) :
    (session.pulled decoder rp coming).unsplit (session.left decoder rp coming) =
      session.unsplit coming := by
  rw [Session.unsplit, pulled_append]
  rfl

theorem pulled_unsplit (decoder : Decoder Byte Value) (session : Session) (rp : Nat)
    (coming : List (Fragment settings)) :
    (session.unsplit coming).pulled decoder rp ([] : List (Fragment settings)) =
      session.unsplit coming :=
  rfl

theorem asked_pulled (decoder : Decoder Byte Value) (session : Session) (rp : Nat)
    (coming : List (Fragment settings)) :
    ∃ taken, coming = taken ++ session.left decoder rp coming ∧
      (session.pulled decoder rp coming).resppacket =
        session.resppacket ++ taken.flatMap Fragment.body ∧
      ∀ front fragment later, taken = front ++ fragment :: later →
        decoder.shortAt rp (session.resppacket ++ front.flatMap Fragment.body) = true :=
  pull_asked Fragment.body (decoder.shortAt rp) session.resppacket coming

/-- What a decoder was short of, the value that it found in the end needed. -/
theorem asked_of_complete (kind : Kind) (returned : Returned) (decoder : Decoder Byte Value)
    (session : Session) (rp : Nat) (coming : List (Fragment settings))
    (same : ∀ held, kind.shortAt settings rp held = decoder.shortAt rp held)
    (found : returned.ok = true → ∃ value,
      decoder.run (session.unsplit coming).resppacket rp = .complete value returned.rpout) :
    ∃ taken, coming = taken ++ session.left decoder rp coming ∧
      (session.pulled decoder rp coming).resppacket =
        session.resppacket ++ taken.flatMap Fragment.body ∧
      Asked settings kind rp returned session.resppacket taken := by
  obtain ⟨taken, parts, held, short⟩ := asked_pulled decoder session rp coming
  refine ⟨taken, parts, held, ?_, ?_⟩
  · intro front fragment later split
    rw [same]
    exact short front fragment later split
  · intro ok front fragment later split
    obtain ⟨value, complete⟩ := found ok
    have whole : (session.unsplit coming).resppacket =
        (session.resppacket ++ front.flatMap Fragment.body) ++
          (fragment :: later ++ session.left decoder rp coming).flatMap Fragment.body := by
      rw [Session.unsplit]
      nth_rewrite 1 [parts, split]
      simp only [List.append_assoc, List.flatMap_append]
    rw [whole] at complete
    exact Decoder.length_lt_of_short (short front fragment later split) complete

/-! ## Integers -/

theorem answer_ok {unset : Value} {outcome : Decoded Value}
    (ok : (answer unset rp outcome).ok = true) :
    ∃ value, outcome = .complete value (answer unset rp outcome).rpout := by
  cases outcome with
  | complete value stop => exact ⟨value, rfl⟩
  | malformed => cases ok
  | short => cases ok

theorem answer_rpout_le {decoder : Decoder Byte Value} {unset : Value}
    (reached : rp ≤ session.resppacket.length) :
    (answer unset rp (decoder.run session.resppacket rp)).rpout ≤ session.resppacket.length := by
  cases found : decoder.run session.resppacket rp with
  | complete value stop => exact decoder.inside _ _ _ _ found reached
  | malformed => exact reached
  | short => exact reached

section Integers

variable {stop' : Nat}

/-- A reader that returns what a decoder finds is transparent. -/
theorem transparent_of_answer {kind : Kind} (decoder : Decoder Byte Value) (unset : Value)
    (wrap : Answer Value → Returned)
    (wrapped : ∀ answer, (wrap answer).ok = answer.ok ∧ (wrap answer).rpout = answer.rpout)
    (same : ∀ held, kind.shortAt settings rp held = decoder.shortAt rp held)
    (reads : ∀ (session : Session) (coming : List (Fragment settings)) (stop : Nat),
      Behind settings session coming → rp ≤ session.resppacket.length →
      stop ≤ session.resppacket.length → kind.read settings session rp stop =
        (wrap (answer unset rp (decoder.run (session.pulled decoder rp coming).resppacket rp)),
          (session.pulled decoder rp coming).resppacket.length, session.pulled decoder rp coming))
    (behind : Behind settings session coming)
    (reached : rp ≤ session.resppacket.length) (stale : stop ≤ session.resppacket.length)
    (stale' : stop' ≤ (session.unsplit coming).resppacket.length) :
    Transparent settings kind session coming rp stop stop' := by
  have longer := length_le_pulled decoder session rp coming
  have within : rp ≤ (session.unsplit coming).resppacket.length := by
    rw [Session.unsplit, List.length_append]
    omega
  have split := reads session coming stop behind reached stale
  have whole := reads (session.unsplit coming) [] stop' behind.unsplit within stale'
  rw [pulled_unsplit] at whole
  rw [run_pulled_eq] at split
  constructor
  · rw [split, whole]
  · rw [split, ← run_pulled_eq]
    simp only
    rw [(wrapped _).2]
    exact answer_rpout_le (Nat.le_trans reached longer)
  · rw [split]
  · rw [split]
    rfl
  · have complete : (wrap (answer unset rp (decoder.run (session.unsplit coming).resppacket
        rp))).ok = true → ∃ value, decoder.run (session.unsplit coming).resppacket rp =
        .complete value (wrap (answer unset rp (decoder.run (session.unsplit coming).resppacket
          rp))).rpout := by
      rw [(wrapped _).1, (wrapped _).2]
      exact answer_ok
    obtain ⟨taken, parts, held, asked⟩ :=
      asked_of_complete kind _ decoder session rp coming same complete
    refine ⟨taken, session.left decoder rp coming, parts, ?_⟩
    rw [split, whole]
    exact ⟨behind.pulled decoder rp, held, (unsplit_pulled decoder session rp coming).symm, asked⟩

theorem transparent_lenPreInt (behind : Behind settings session coming)
    (reached : rp ≤ session.resppacket.length) (stale : stop ≤ session.resppacket.length)
    (stale' : stop' ≤ (session.unsplit coming).resppacket.length) :
    Transparent settings .lenPreInt session coming rp stop stop' := by
  apply transparent_of_answer Format.lenPreInt 0 .integer (fun _ => ⟨rfl, rfl⟩) (fun _ => rfl) _
    behind reached stale stale'
  intro session coming stop behind reached stale
  rw [Kind.read, getLenPreInt_eq behind reached stale]

theorem transparent_lenPreSignedInt (behind : Behind settings session coming)
    (reached : rp ≤ session.resppacket.length) (stale : stop ≤ session.resppacket.length)
    (stale' : stop' ≤ (session.unsplit coming).resppacket.length) :
    Transparent settings .lenPreSignedInt session coming rp stop stop' := by
  apply transparent_of_answer Format.lenPreSignedInt 0 .signed (fun _ => ⟨rfl, rfl⟩)
    (fun _ => rfl) _ behind reached stale stale'
  intro session coming stop behind reached stale
  rw [Kind.read, getLenPreSignedInt_eq behind reached stale]

end Integers

/-! ## Length prefixed values -/

section LenBytes

variable {stop' : Nat}

theorem lenBytesAnswer_ok {avail : Nat} {length : Byte} {outcome : Decoded Format.LenBytes}
    (ok : (lenBytesAnswer avail rp length outcome).ok = true) :
    ∃ value, outcome = .complete value (lenBytesAnswer avail rp length outcome).rpout := by
  cases outcome with
  | malformed => cases ok
  | short => cases ok
  | complete value stop =>
    cases value with
    | null => exact ⟨.null, rfl⟩
    | bytes value => exact ⟨.bytes value, rfl⟩
    | chunks chunks =>
      rw [lenBytesAnswer]
      split
      · exact ⟨_, rfl⟩
      · exact ⟨_, rfl⟩

/-- A marker is in the request. -/
theorem inside_of_marker (marker : (session.byteAt rp).toNat = clrLongFormMarker) :
    rp < session.resppacket.length := by
  apply Decidable.of_not_not
  intro beyond
  rw [Session.byteAt, List.getD_eq_getElem?_getD, List.getElem?_eq_none (by omega)] at marker
  cases marker

theorem lenBytesAnswer_rpout_le {decoder : Decoder Byte Format.LenBytes} {avail : Nat}
    (reached : rp ≤ session.resppacket.length) :
    (lenBytesAnswer avail rp (session.byteAt rp) (decoder.run session.resppacket rp)).rpout ≤
      session.resppacket.length := by
  have failed : (if (session.byteAt rp).toNat = clrLongFormMarker then rp + 1 else rp) ≤
      session.resppacket.length := by
    split
    case isTrue marker => exact inside_of_marker marker
    case isFalse => exact reached
  cases found : decoder.run session.resppacket rp with
  | malformed => exact failed
  | short => exact failed
  | complete value stop =>
    have within := decoder.inside _ _ _ _ found reached
    cases value with
    | null => exact within
    | bytes value => exact within
    | chunks chunks =>
      rw [lenBytesAnswer]
      split
      · exact within
      · exact within

theorem lenBytes_short (big : Bool) {held : List Byte} (beyond : held.length ≤ rp) :
    (Format.lenBytes big).shortAt rp held = true := by
  rw [Decoder.shortAt, Format.lenBytes, Decoder.bind_run, Format.byte_run, if_neg (by omega)]
  rfl

/-- The length byte is the one of the whole request. -/
theorem byteAt_pulled_lenBytes (big : Bool) (session : Session) (rp : Nat)
    (coming : List (Fragment settings)) :
    (session.pulled (Format.lenBytes big) rp coming).byteAt rp =
      (session.unsplit coming).byteAt rp := by
  rw [← unsplit_pulled (Format.lenBytes big) session rp coming]
  by_cases inside : rp < (session.pulled (Format.lenBytes big) rp coming).resppacket.length
  · rw [Session.byteAt, Session.byteAt, Session.unsplit, List.getD_eq_getElem?_getD,
      List.getD_eq_getElem?_getD, List.getElem?_append_left inside]
  · have left : session.left (Format.lenBytes big) rp coming = [] := by
      cases pull_enough Fragment.body ((Format.lenBytes big).shortAt rp) session.resppacket
          coming with
      | inr used => exact used
      | inl enough =>
        have short := lenBytes_short big (Nat.not_lt.mp inside)
        exact absurd (enough.symm.trans short) Bool.false_ne_true
    rw [left, Session.unsplit, List.flatMap_nil, List.append_nil]
    rfl

theorem storedValue_resppacket (session : Session) (outcome : Decoded Format.LenBytes) :
    (session.storedValue outcome).resppacket = session.resppacket := by
  cases outcome with
  | malformed => rfl
  | short => rfl
  | complete value stop =>
    cases value with
    | null => rfl
    | bytes value => rfl
    | chunks chunks =>
      rw [Session.storedValue, Session.stored]
      split
      · rfl
      · rfl

/-- What the pool gives to values is what there is less room for. -/
theorem storedValue_room (session : Session) (outcome : Decoded Format.LenBytes) :
    (session.storedValue outcome).resppacketpool + (session.storedValue outcome).requestvalueavail =
      session.resppacketpool + session.requestvalueavail := by
  cases outcome with
  | malformed => rfl
  | short => rfl
  | complete value stop =>
    cases value with
    | null => rfl
    | bytes value => rfl
    | chunks chunks =>
      rw [Session.storedValue, Session.stored]
      split
      case isTrue => rfl
      case isFalse enough =>
        simp only
        omega

theorem Behind.storedValue (behind : Behind settings session coming)
    (outcome : Decoded Format.LenBytes) : Behind settings (session.storedValue outcome) coming := by
  cases outcome with
  | malformed => exact behind
  | short => exact behind
  | complete value stop =>
    cases value with
    | null => exact behind
    | bytes value => exact behind
    | chunks chunks =>
      rw [Session.storedValue, Session.stored]
      split
      · exact behind
      · exact ⟨behind.socket, behind.fits, behind.reassemble⟩

theorem unsplit_storedValue (session : Session) (coming : List (Fragment settings))
    (outcome : Decoded Format.LenBytes) :
    (session.storedValue outcome).unsplit coming =
      (session.unsplit coming).storedValue outcome := by
  cases outcome with
  | malformed => rfl
  | short => rfl
  | complete value stop =>
    cases value with
    | null => rfl
    | bytes value => rfl
    | chunks chunks =>
      have avail : (session.unsplit coming).requestvalueavail = session.requestvalueavail := rfl
      rw [Session.storedValue, Session.storedValue, Session.stored, Session.stored, avail]
      split
      · rfl
      · rfl

theorem transparent_lenBytes (behind : Behind settings session coming)
    (reached : rp ≤ session.resppacket.length) (stale : stop ≤ session.resppacket.length)
    (stale' : stop' ≤ (session.unsplit coming).resppacket.length) :
    Transparent settings .lenBytes session coming rp stop stop' := by
  have longer := length_le_pulled (Format.lenBytes settings.bigchunks) session rp coming
  have within : rp ≤ (session.unsplit coming).resppacket.length := by
    rw [Session.unsplit, List.length_append]
    omega
  have split := getLenBytes_eq behind reached stale
  have whole := getLenBytes_eq behind.unsplit within stale'
  rw [pulled_unsplit] at whole
  constructor
  · rw [Kind.read, Kind.read, split, whole, run_pulled_eq, byteAt_pulled_lenBytes]
    rfl
  · rw [Kind.read, split]
    simp only [storedValue_resppacket]
    exact lenBytesAnswer_rpout_le (Nat.le_trans reached longer)
  · rw [Kind.read, split]
    simp only [storedValue_resppacket]
    exact Nat.le_trans stale longer
  · rw [Kind.read, split]
    exact storedValue_room _ _
  · rw [run_pulled_eq, byteAt_pulled_lenBytes] at split
    obtain ⟨taken, parts, held, asked⟩ := asked_of_complete .lenBytes
      (.bytes (lenBytesAnswer session.requestvalueavail rp ((session.unsplit coming).byteAt rp)
        ((Format.lenBytes settings.bigchunks).run (session.unsplit coming).resppacket rp)))
      (Format.lenBytes settings.bigchunks) session rp coming (fun _ => rfl) lenBytesAnswer_ok
    refine ⟨taken, session.left (Format.lenBytes settings.bigchunks) rp coming, parts, ?_⟩
    rw [Kind.read, Kind.read, split, whole]
    simp only [storedValue_resppacket]
    exact ⟨(behind.pulled _ rp).storedValue _, held,
      by rw [unsplit_storedValue, unsplit_pulled], asked⟩

end LenBytes

/-! ## Every reader, and both passes over chunks -/

theorem Kind.read_bounded (kind : Kind) (bounded : session.Bounded settings) (rp stop : Nat) :
    (kind.read settings session rp stop).2.2.Bounded settings := by
  cases kind with
  | lenPreInt => exact bounded.getLenPreInt rp stop
  | lenPreSignedInt => exact bounded.getLenPreSignedInt rp stop
  | lenBytes => exact bounded.getLenBytes rp stop

theorem Kind.transparent (kind : Kind) {stop' : Nat} (behind : Behind settings session coming)
    (reached : rp ≤ session.resppacket.length) (stale : stop ≤ session.resppacket.length)
    (stale' : stop' ≤ (session.unsplit coming).resppacket.length) :
    Transparent settings kind session coming rp stop stop' := by
  cases kind with
  | lenPreInt => exact transparent_lenPreInt behind reached stale stale'
  | lenPreSignedInt => exact transparent_lenPreSignedInt behind reached stale stale'
  | lenBytes => exact transparent_lenBytes behind reached stale stale'

/-- Where the sizing pass finds a value, the copying pass over what it has left finds the same
chunks, whatever the pool has given away in between. -/
def SameChunks (settings : Settings) (session : Session) (rp stop : Nat) : Prop :=
  ∀ sized after, readLongFormChunks settings none session rp stop [] 0 = (some sized, after) →
    ∃ chunks, (Format.chunks settings.bigchunks).run after.resppacket rp =
        .complete chunks sized.rp ∧
      sized.size = total chunks ∧
      ∀ size, readLongFormChunks settings (some sized.size)
          { after with resppacketpool := after.resppacketpool + size } rp stop [] 0 =
        (some ⟨chunks.flatten, total chunks, sized.rp⟩,
          { after with resppacketpool := after.resppacketpool + size })

theorem sameChunks (behind : Behind settings session coming)
    (reached : rp ≤ session.resppacket.length) (stale : stop ≤ session.resppacket.length) :
    SameChunks settings session rp stop := by
  intro sized after walked
  have bounded := settings.maxrequestsize_le
  have limit : maxMaxRequestSize < 2 ^ 32 := by decide
  have longer := length_le_pulled (Format.chunks settings.bigchunks) session rp coming
  have sizing := readLongFormChunks_eq none [] 0 behind reached stale (by omega)
    (fun avail given => nomatch given)
  rw [walked] at sizing
  cases found : (Format.chunks settings.bigchunks).run
      (session.pulled (Format.chunks settings.bigchunks) rp coming).resppacket rp with
  | malformed =>
    rw [found] at sizing
    cases sizing
  | short =>
    rw [found] at sizing
    cases sizing
  | complete chunks last =>
    rw [found] at sizing
    cases sizing
    refine ⟨chunks, found, Nat.zero_add _, ?_⟩
    intro size
    rw [Nat.zero_add]
    exact copy_eq ((behind.pulled _ rp).allocated size) found (Nat.le_trans reached longer)
      (Nat.le_trans stale longer)

/-- Whatever a client sends, a request is never larger than it may be.  However it is split, every
reader returns at every position what it would return of the whole, and asks for no packet that the
value does not need, and the two passes over a value see the same chunks. -/
theorem reassembly_transparent (settings : Settings) :
    (∀ (kind : Kind) (session : Session) (rp stop : Nat), session.Bounded settings →
      (kind.read settings session rp stop).2.2.Bounded settings) ∧
    ∀ (session : Session) (coming : List (Fragment settings)) (rp stop stop' : Nat),
      Behind settings session coming → rp ≤ session.resppacket.length →
      stop ≤ session.resppacket.length → stop' ≤ (session.unsplit coming).resppacket.length →
      (∀ kind, Transparent settings kind session coming rp stop stop') ∧
        SameChunks settings session rp stop := by
  constructor
  · intro kind session rp stop bounded
    exact kind.read_bounded bounded rp stop
  · intro session coming rp stop stop' behind reached stale stale'
    constructor
    · intro kind
      exact kind.transparent behind reached stale stale'
    · exact sameChunks behind reached stale

/-- A request that starts with such bytes, in a call that may ask for the packets behind it. -/
def Session.receiving (settings : Settings) (resppacket : List Byte)
    (coming : List (Fragment settings)) : Session where
  resppacket := resppacket
  requestvalueavail := settings.maxrequestsize
  resppacketpool := 0
  reassemble := true
  socket := coming.flatMap Fragment.bytes

theorem Behind.receiving {resppacket : List Byte}
    (fits : resppacket.length + (coming.flatMap Fragment.body).length ≤ settings.maxrequestsize) :
    Behind settings (.receiving settings resppacket coming) coming where
  socket := rfl
  fits := fits
  reassemble := rfl

/-- Two data packets behind the first two bytes of a value. -/
def fragments : List (Fragment (.negotiated 2048 32768 false false)) :=
  [⟨0, 0, 0, 0, [2, 3], by decide, by decide⟩, ⟨0, 0, 0, 0, [4, 5, 6], by decide, by decide⟩]

theorem reassembly_transparent_fragments :
    (∀ kind, Transparent (.negotiated 2048 32768 false false) kind
      (.receiving _ [5, 1] fragments) fragments 0 2 7) ∧
      SameChunks (.negotiated 2048 32768 false false) (.receiving _ [5, 1] fragments) 0 2 :=
  (reassembly_transparent (.negotiated 2048 32768 false false)).2
    (.receiving _ [5, 1] fragments) fragments 0 2
    7 (.receiving (by decide)) (by decide) (by decide) (by decide)

end SqlRelay.Oracle
