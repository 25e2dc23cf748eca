import SqlRelay.Oracle.Packets

/-!
# Reading values out of a request

Count prefixed integers and length prefixed values, as a parse reads them.  Each of them asks for
the bytes it is about to read, so a packet may be pulled in from anywhere inside them.
-/

namespace SqlRelay.Oracle

open SqlRelay.Foundation

def clrMaxShortLength : Nat := 252

def clrNullMarker : Nat := 0xfd

def clrLongFormMarker : Nat := 0xfe

/-- What a reader returns: whether it read a value, the value, and where the parse is behind it. -/
structure Answer (Value : Type) where
  ok : Bool
  value : Value
  rpout : Nat
deriving DecidableEq

def Session.byteAt (session : Session) (rp : Nat) : Byte := session.resppacket.getD rp 0

/-- So many bytes of the request, from a position on. -/
def Session.bytesAt (session : Session) (rp count : Nat) : List Byte :=
  (session.resppacket.drop rp).take count

/-- Shifts in one byte after the other. -/
def shiftIn (bytes : List Byte) : UInt32 :=
  bytes.foldl (fun value byte => value <<< 8 ||| byte.toUInt32) 0

/-- The read that all protocols share, which keeps to what is before `stop`. -/
def readLenPreInt (session : Session) (rp stop : Nat) : Answer UInt32 :=
  if stop - rp < 1 then ⟨false, 0, rp⟩
  else
    if 4 < (session.byteAt rp).toNat ∨ stop - (rp + 1) < (session.byteAt rp).toNat then
      ⟨false, 0, rp⟩
    else
      ⟨true, shiftIn (session.bytesAt (rp + 1) (session.byteAt rp).toNat),
        rp + 1 + (session.byteAt rp).toNat⟩

def getLenPreInt (settings : Settings) (session : Session) (rp stop : Nat) :
    Answer UInt32 × Nat × Session :=
  let (one, stop, session) := haveBytes settings session rp 1 stop
  -- a count too large to be one is left to the read below to refuse
  let (stop, session) :=
    if one ∧ (session.byteAt rp).toNat ≤ 4 then
      (haveBytes settings session rp ((session.byteAt rp).toNat + 1) stop).2
    else (stop, session)
  (readLenPreInt session rp stop, stop, session)

/-- A magnitude with the sign that the count byte gives it. -/
def withSign (negative : Bool) (magnitude : UInt32) : Int32 :=
  (if negative then 0 - magnitude else magnitude).toInt32

def getLenPreSignedInt (settings : Settings) (session : Session) (rp stop : Nat) :
    Answer Int32 × Nat × Session :=
  match haveBytes settings session rp 1 stop with
  | (false, stop, session) => (⟨false, 0, rp⟩, stop, session)
  | (true, stop, session) =>
    let negative := session.byteAt rp &&& 0x80 ≠ 0
    let count := (session.byteAt rp &&& 0x7f).toNat
    if 4 < count then (⟨false, 0, rp⟩, stop, session)
    else
      match haveBytes settings session rp (count + 1) stop with
      | (false, stop, session) => (⟨false, 0, rp⟩, stop, session)
      | (true, stop, session) =>
        (⟨true, withSign negative (shiftIn (session.bytesAt (rp + 1) count)), rp + 1 + count⟩,
          stop, session)

/-- Where a walk over the chunks of a value ended: what it copied, the size, and the position. -/
structure Walk where
  value : List Byte
  size : Nat
  rp : Nat
deriving DecidableEq

/-- The length of a chunk, with the position and the end behind it. -/
def readChunkSize (settings : Settings) (session : Session) (rp stop : Nat) :
    Option (Nat × Nat × Nat) × Session :=
  match haveBytes settings session rp 1 stop with
  | (false, _, session) => (none, session)
  | (true, stop, session) =>
    if settings.bigchunks then
      match getLenPreInt settings session rp stop with
      | (answer, stop, session) =>
        if answer.ok then (some (answer.value.toNat, answer.rpout, stop), session)
        else (none, session)
    else (some ((session.byteAt rp).toNat, rp + 1, stop), session)

/-! ## That a walk ends -/

/-- How far a parse can get, whatever it asks for. -/
def Session.horizon (session : Session) (stop : Nat) : Nat :=
  max stop (session.resppacket.length + session.socket.length)

theorem haveLoop_horizon (settings : Settings) (rp bytes stop : Nat) (session : Session) :
    (haveLoop settings rp bytes stop session).2.2.horizon
      (haveLoop settings rp bytes stop session).2.1 ≤ session.horizon stop := by
  induction stop, session using haveLoop.induct settings rp bytes with
  | case1 stop session few reassemble socket refused =>
    rw [haveLoop, if_pos few, if_pos reassemble]
    split
    case h_1 left again =>
      have gone := refillPacket_leaves settings session left again
      simp only [Session.horizon]
      omega
    case h_2 found =>
      rw [refused] at found
      cases found
  | case2 stop session few reassemble refilled found induction =>
    rw [haveLoop, if_pos few, if_pos reassemble]
    split
    case h_1 refused =>
      rw [found] at refused
      cases refused
    case h_2 other again =>
      cases Except.ok.inj (found.symm.trans again)
      obtain ⟨body, socket, _, shorter, _, rfl⟩ := refillPacket_cases found
      apply Nat.le_trans induction
      simp only [Session.horizon, List.length_append]
      omega
  | case3 stop session few off =>
    rw [haveLoop, if_pos few, if_neg off]
  | case4 stop session enough =>
    rw [haveLoop, if_neg enough]

theorem haveBytes_horizon (settings : Settings) (session : Session) (rp bytes stop : Nat) :
    (haveBytes settings session rp bytes stop).2.2.horizon
      (haveBytes settings session rp bytes stop).2.1 ≤ session.horizon stop := by
  have moved : session.horizon (session.currentEnd stop) ≤ session.horizon stop := by
    simp only [Session.horizon, Session.currentEnd]
    grind
  unfold haveBytes
  split
  case isTrue => exact moved
  case isFalse => exact Nat.le_trans (haveLoop_horizon settings rp bytes _ session) moved

/-- A loop that ends well has found the bytes before the end. -/
theorem haveLoop_enough (settings : Settings) (rp bytes stop : Nat) (session : Session)
    (wanted : 0 < bytes) (ok : (haveLoop settings rp bytes stop session).1 = true) :
    rp + bytes ≤ (haveLoop settings rp bytes stop session).2.1 := by
  induction stop, session using haveLoop.induct settings rp bytes with
  | case1 stop session few reassemble socket refused =>
    rw [haveLoop, if_pos few, if_pos reassemble] at ok
    split at ok
    case h_1 => cases ok
    case h_2 found =>
      rw [refused] at found
      cases found
  | case2 stop session few reassemble refilled found induction =>
    rw [haveLoop, if_pos few, if_pos reassemble] at ok ⊢
    split
    case h_1 refused =>
      rw [found] at refused
      cases refused
    case h_2 other again =>
      cases Except.ok.inj (found.symm.trans again)
      split at ok
      case h_1 => cases ok
      case h_2 once =>
        cases Except.ok.inj (found.symm.trans once)
        exact induction ok
  | case3 stop session few off =>
    rw [haveLoop, if_pos few, if_neg off] at ok
    cases ok
  | case4 stop session enough =>
    rw [haveLoop, if_neg enough]
    simp only
    omega

theorem haveBytes_enough (settings : Settings) (session : Session) (rp bytes stop : Nat)
    (wanted : 0 < bytes) (ok : (haveBytes settings session rp bytes stop).1 = true) :
    rp + bytes ≤ (haveBytes settings session rp bytes stop).2.1 := by
  unfold haveBytes at ok ⊢
  split
  case isTrue behind =>
    rw [if_pos behind] at ok
    cases ok
  case isFalse inside =>
    rw [if_neg inside] at ok
    exact haveLoop_enough settings rp bytes _ session wanted ok

theorem getLenPreInt_horizon (settings : Settings) (session : Session) (rp stop : Nat) :
    (getLenPreInt settings session rp stop).2.2.horizon
      (getLenPreInt settings session rp stop).2.1 ≤ session.horizon stop := by
  have first := haveBytes_horizon settings session rp 1 stop
  unfold getLenPreInt
  simp only
  split
  case isTrue => exact Nat.le_trans (haveBytes_horizon settings _ rp _ _) first
  case isFalse => exact first

theorem readLenPreInt_rpout (session : Session) (rp stop : Nat)
    (ok : (readLenPreInt session rp stop).ok = true) :
    rp < (readLenPreInt session rp stop).rpout := by
  unfold readLenPreInt at ok ⊢
  split
  case isTrue empty =>
    rw [if_pos empty] at ok
    cases ok
  case isFalse occupied =>
    rw [if_neg occupied] at ok
    split
    case isTrue bad =>
      rw [if_pos bad] at ok
      cases ok
    case isFalse =>
      simp only
      omega

/-- The length of a chunk takes a byte, and reading it does not make more of the request. -/
theorem readChunkSize_horizon {settings : Settings} {session after : Session}
    {rp stop size rp' stop' : Nat}
    (found : readChunkSize settings session rp stop = (some (size, rp', stop'), after)) :
    rp < rp' ∧ after.horizon stop' ≤ session.horizon stop := by
  have first := haveBytes_horizon settings session rp 1 stop
  rw [readChunkSize] at found
  split at found
  case h_1 => cases found
  case h_2 middle between one =>
    rw [one] at first
    split at found
    case isTrue =>
      have second := getLenPreInt_horizon settings between rp middle
      simp only at found
      split at found
      case isTrue ok =>
        cases found
        exact ⟨readLenPreInt_rpout _ _ _ ok, Nat.le_trans second first⟩
      case isFalse => cases found
    case isFalse =>
      cases found
      exact ⟨Nat.lt_succ_self rp, first⟩

/-- A chunk that is all there brings a walk closer to the end of what there is. -/
theorem walk_advances {settings : Settings} {session between after : Session}
    {rp stop size rp' stop' stop'' : Nat}
    (sized : readChunkSize settings session rp stop = (some (size, rp', stop'), between))
    (occupied : ¬size = 0)
    (had : haveBytes settings between rp' size stop' = (true, stop'', after)) :
    after.horizon stop'' - (rp' + size) < session.horizon stop - rp := by
  have further := readChunkSize_horizon sized
  have enough := haveBytes_enough settings between rp' size stop' (by omega)
    (congrArg Prod.fst had)
  have kept := haveBytes_horizon settings between rp' size stop'
  rw [had] at enough kept
  simp only [Session.horizon] at further enough kept ⊢
  omega

/-- Walks over the chunks of a value, and copies them where there is room given for them. -/
def readLongFormChunks (settings : Settings) (valueavail : Option Nat) (session : Session)
    (rp stop : Nat) (value : List Byte) (valuesize : Nat) : Option Walk × Session :=
  match _ : readChunkSize settings session rp stop with
  | (none, session) => (none, session)
  | (some (chunksize, rp, stop), session) =>
    if chunksize = 0 then (some ⟨value, valuesize, rp⟩, session)
    else
      match _ : haveBytes settings session rp chunksize stop with
      | (false, _, session) => (none, session)
      | (true, stop, session) =>
        -- the copy is bounded by what the sizing pass has come to
        if valueavail.any fun avail => avail < valuesize + chunksize then (none, session)
        else
          let value := if valueavail.isSome then value ++ session.bytesAt rp chunksize else value
          readLongFormChunks settings valueavail session (rp + chunksize) stop value
            ((valuesize + chunksize) % 2 ^ 32)
termination_by session.horizon stop - rp
decreasing_by exact walk_advances ‹_› ‹_› ‹_›

theorem readLongFormChunks_unfold (settings : Settings) (valueavail : Option Nat)
    (session : Session) (rp stop : Nat) (value : List Byte) (valuesize : Nat) :
    readLongFormChunks settings valueavail session rp stop value valuesize =
      match readChunkSize settings session rp stop with
      | (none, session) => (none, session)
      | (some (chunksize, rp, stop), session) =>
        if chunksize = 0 then (some ⟨value, valuesize, rp⟩, session)
        else
          match haveBytes settings session rp chunksize stop with
          | (false, _, session) => (none, session)
          | (true, stop, session) =>
            if valueavail.any fun avail => avail < valuesize + chunksize then (none, session)
            else readLongFormChunks settings valueavail session (rp + chunksize) stop
              (if valueavail.isSome then value ++ session.bytesAt rp chunksize else value)
              ((valuesize + chunksize) % 2 ^ 32) := by
  rw [readLongFormChunks]
  split
  case h_1 sized => rw [sized]
  case h_2 sized =>
    rw [sized]
    simp only
    split
    · rfl
    · split
      case h_1 had => rw [had]
      case h_2 had => rw [had]

/-! ## Length prefixed values -/

/-- The chunked long form: one walk for the size, and another to copy the chunks into the pool. -/
def getLongFormBytes (settings : Settings) (session : Session) (rp stop : Nat) :
    Answer (Option (List Byte) × Nat) × Session :=
  match readLongFormChunks settings none session rp stop [] 0 with
  | (none, session) => (⟨false, (none, 0), rp⟩, session)
  | (some sized, session) =>
    let allocsize := (sized.size + 1) % 2 ^ 32
    if session.requestvalueavail < allocsize then (⟨false, (none, 0), sized.rp⟩, session)
    else
      let session := { session with resppacketpool := session.resppacketpool + allocsize }
      match readLongFormChunks settings (some sized.size) session rp stop [] 0 with
      | (none, session) => (⟨false, (none, 0), sized.rp⟩, session)
      | (some copied, session) =>
        (⟨true, (some copied.value, copied.size), copied.rp⟩,
          { session with requestvalueavail := session.requestvalueavail - allocsize })

/-- A length prefixed value: where its bytes are, how many there are, and whether it is null. -/
structure Clr where
  bytes : Option (List Byte)
  size : Nat
  isnull : Bool
deriving DecidableEq

namespace Clr

/-- What the outputs are set to before anything is read. -/
def unset : Clr := ⟨none, 0, false⟩

def null : Clr := ⟨none, 0, true⟩

end Clr

/-- `getLenBytes`: a length byte and so many bytes, a null, or the chunked long form. -/
def getLenBytes (settings : Settings) (session : Session) (rp stop : Nat) :
    Answer Clr × Session :=
  match haveBytes settings session rp 1 stop with
  | (false, _, session) => (⟨false, .unset, rp⟩, session)
  | (true, stop, session) =>
    let length := (session.byteAt rp).toNat
    if length = 0 then (⟨true, .null, rp + 1⟩, session)
    else if length = clrNullMarker then
      match haveBytes settings session (rp + 1) 1 stop with
      | (false, _, session) => (⟨false, .unset, rp⟩, session)
      -- the null carries a count byte of its own
      | (true, _, session) => (⟨true, .null, rp + 2⟩, session)
    else if length ≤ clrMaxShortLength then
      match haveBytes settings session (rp + 1) length stop with
      | (false, _, session) => (⟨false, .unset, rp⟩, session)
      | (true, _, session) =>
        (⟨true, ⟨some (session.bytesAt (rp + 1) length), length, false⟩, rp + 1 + length⟩, session)
    else if length ≠ clrLongFormMarker then (⟨false, .unset, rp⟩, session)
    else
      let (answer, session) := getLongFormBytes settings session (rp + 1) stop
      (⟨answer.ok, ⟨answer.value.1, answer.value.2, false⟩, answer.rpout⟩, session)

end SqlRelay.Oracle
