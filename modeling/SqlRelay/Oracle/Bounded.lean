import SqlRelay.Oracle.Values

/-!
# How large a request gets

Whatever a client sends, and whatever a parse asks for, what is held of a request does not outgrow
the request buffer.
-/

namespace SqlRelay.Oracle

variable {settings : Settings} {session : Session}

/-- The request fits the buffer that was allocated for it. -/
def Session.Bounded (settings : Settings) (session : Session) : Prop :=
  session.resppacket.length ≤ settings.maxrequestsize

namespace Session.Bounded

theorem haveLoop (bounded : session.Bounded settings) (rp bytes stop : Nat) :
    (Oracle.haveLoop settings rp bytes stop session).2.2.Bounded settings := by
  induction stop, session using haveLoop.induct settings rp bytes with
  | case1 stop session few reassemble socket refused =>
    rw [Oracle.haveLoop, if_pos few, if_pos reassemble]
    split
    case h_1 => exact bounded
    case h_2 found =>
      rw [refused] at found
      cases found
  | case2 stop session few reassemble refilled found induction =>
    rw [Oracle.haveLoop, if_pos few, if_pos reassemble]
    split
    case h_1 refused =>
      rw [found] at refused
      cases refused
    case h_2 other again =>
      cases Except.ok.inj (found.symm.trans again)
      obtain ⟨body, socket, _, _, room, rfl⟩ := refillPacket_cases found
      apply induction
      rw [Session.Bounded, List.length_append]
      exact room
  | case3 stop session few off =>
    rw [Oracle.haveLoop, if_pos few, if_neg off]
    exact bounded
  | case4 stop session enough =>
    rw [Oracle.haveLoop, if_neg enough]
    exact bounded

theorem haveBytes (bounded : session.Bounded settings) (rp bytes stop : Nat) :
    (Oracle.haveBytes settings session rp bytes stop).2.2.Bounded settings := by
  rw [Oracle.haveBytes]
  split
  case isTrue => exact bounded
  case isFalse => exact bounded.haveLoop rp bytes _

theorem getLenPreInt (bounded : session.Bounded settings) (rp stop : Nat) :
    (Oracle.getLenPreInt settings session rp stop).2.2.Bounded settings := by
  have first := bounded.haveBytes rp 1 stop
  rw [Oracle.getLenPreInt]
  simp only
  split
  case isTrue => exact first.haveBytes rp _ _
  case isFalse => exact first

theorem getLenPreSignedInt (bounded : session.Bounded settings) (rp stop : Nat) :
    (Oracle.getLenPreSignedInt settings session rp stop).2.2.Bounded settings := by
  have first := bounded.haveBytes rp 1 stop
  rw [Oracle.getLenPreSignedInt]
  split
  case h_1 had =>
    rw [had] at first
    exact first
  case h_2 middle between had =>
    rw [had] at first
    simp only
    split
    case isTrue => exact first
    case isFalse =>
      have second := first.haveBytes rp ((between.byteAt rp &&& 0x7f).toNat + 1) middle
      split
      case h_1 all =>
        rw [all] at second
        exact second
      case h_2 all =>
        rw [all] at second
        exact second

theorem readChunkSize (bounded : session.Bounded settings) (rp stop : Nat) :
    (Oracle.readChunkSize settings session rp stop).2.Bounded settings := by
  have first := bounded.haveBytes rp 1 stop
  rw [Oracle.readChunkSize]
  split
  case h_1 had =>
    rw [had] at first
    exact first
  case h_2 middle between had =>
    rw [had] at first
    split
    case isTrue =>
      have second := first.getLenPreInt rp middle
      simp only
      split
      case isTrue => exact second
      case isFalse => exact second
    case isFalse => exact first

theorem readLongFormChunks (bounded : session.Bounded settings) (valueavail : Option Nat)
    (rp stop : Nat) (value : List Foundation.Byte) (valuesize : Nat) :
    (Oracle.readLongFormChunks settings valueavail session rp stop value valuesize).2.Bounded
      settings := by
  induction session, rp, stop, value, valuesize using
    readLongFormChunks.induct settings valueavail with
  | case1 session rp stop value valuesize after sized =>
    have first := bounded.readChunkSize rp stop
    rw [sized] at first
    rw [readLongFormChunks_unfold, sized]
    exact first
  | case2 session rp stop value valuesize last end' after sized =>
    have first := bounded.readChunkSize rp stop
    rw [sized] at first
    rw [readLongFormChunks_unfold, sized]
    exact first
  | case3 session rp stop value valuesize size middle end' between sized occupied last after had =>
    have first := bounded.readChunkSize rp stop
    rw [sized] at first
    have second := first.haveBytes middle size end'
    rw [had] at second
    rw [readLongFormChunks_unfold, sized]
    simp only
    rw [if_neg occupied, had]
    exact second
  | case4 session rp stop value valuesize size middle end' between sized occupied last after had
      little =>
    have first := bounded.readChunkSize rp stop
    rw [sized] at first
    have second := first.haveBytes middle size end'
    rw [had] at second
    rw [readLongFormChunks_unfold, sized]
    simp only
    rw [if_neg occupied, had]
    simp only
    rw [if_pos little]
    exact second
  | case5 session rp stop value valuesize size middle end' between sized occupied last after had
      enough copied induction =>
    have first := bounded.readChunkSize rp stop
    rw [sized] at first
    have second := first.haveBytes middle size end'
    rw [had] at second
    rw [readLongFormChunks_unfold, sized]
    simp only
    rw [if_neg occupied, had]
    simp only
    rw [if_neg enough]
    exact induction second

theorem getLongFormBytes (bounded : session.Bounded settings) (rp stop : Nat) :
    (Oracle.getLongFormBytes settings session rp stop).2.Bounded settings := by
  have first := bounded.readLongFormChunks none rp stop [] 0
  rw [Oracle.getLongFormBytes]
  split
  case h_1 walked =>
    rw [walked] at first
    exact first
  case h_2 sized between walked =>
    rw [walked] at first
    simp only
    split
    case isTrue => exact first
    case isFalse =>
      have allocated : Session.Bounded settings { between with
          resppacketpool := between.resppacketpool + (sized.size + 1) % 2 ^ 32 } := first
      have second := allocated.readLongFormChunks (some sized.size) rp stop [] 0
      split
      case h_1 copied =>
        rw [copied] at second
        exact second
      case h_2 copied =>
        rw [copied] at second
        exact second

theorem getLenBytes (bounded : session.Bounded settings) (rp stop : Nat) :
    (Oracle.getLenBytes settings session rp stop).2.Bounded settings := by
  have first := bounded.haveBytes rp 1 stop
  rw [Oracle.getLenBytes]
  split
  case h_1 had =>
    rw [had] at first
    exact first
  case h_2 middle between had =>
    rw [had] at first
    simp only
    split
    case isTrue => exact first
    case isFalse =>
      split
      case isTrue =>
        have second := first.haveBytes (rp + 1) 1 middle
        split
        case h_1 count =>
          rw [count] at second
          exact second
        case h_2 count =>
          rw [count] at second
          exact second
      case isFalse =>
        split
        case isTrue =>
          have second := first.haveBytes (rp + 1) (between.byteAt rp).toNat middle
          split
          case h_1 all =>
            rw [all] at second
            exact second
          case h_2 all =>
            rw [all] at second
            exact second
        case isFalse =>
          split
          case isTrue => exact first
          case isFalse => exact first.getLongFormBytes (rp + 1) middle

end Session.Bounded

end SqlRelay.Oracle
