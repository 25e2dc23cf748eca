import SqlRelay.Oracle.LongForm

/-!
# Length prefixed values of a request

A value is a null, bytes that lie in the request buffer, or chunks that are copied out of it.
-/

namespace SqlRelay.Oracle

open SqlRelay.Foundation

variable {settings : Settings} {session : Session} {coming : List (Fragment settings)}
variable {rp stop : Nat}

/-- What a value comes to, where there is so much room left for values.  A value in the long form
that is not there leaves the position behind its marker. -/
def lenBytesAnswer (avail rp : Nat) (length : Byte) : Decoded Format.LenBytes → Answer Clr
  | .complete .null stop => ⟨true, .null, stop⟩
  | .complete (.bytes value) stop => ⟨true, ⟨some value, value.length, false⟩, stop⟩
  | .complete (.chunks chunks) stop =>
      if avail < total chunks + 1 then ⟨false, .unset, stop⟩
      else ⟨true, ⟨some chunks.flatten, total chunks, false⟩, stop⟩
  | .malformed => ⟨false, .unset, if length.toNat = clrLongFormMarker then rp + 1 else rp⟩
  | .short => ⟨false, .unset, if length.toNat = clrLongFormMarker then rp + 1 else rp⟩

/-- The session with what a value takes of its pool. -/
def Session.storedValue (session : Session) : Decoded Format.LenBytes → Session
  | .complete .null _ => session
  | .complete (.bytes _) _ => session
  | .complete (.chunks chunks) stop => session.stored (.complete chunks stop)
  | .malformed => session
  | .short => session

/-- Behind a length byte that is there, a value is read as the byte says. -/
theorem pulled_lenBytes (big : Bool)
    (one : rp + 1 ≤ (session.pulled (.take 1) rp coming).resppacket.length) :
    session.pulled (Format.lenBytes big) rp coming =
        (session.pulled (.take 1) rp coming).pulled
          (Format.lenBytesOf big ((session.pulled (.take 1) rp coming).byteAt rp)) (rp + 1)
          (session.left (.take 1) rp coming) ∧
      (session.pulled (Format.lenBytes big) rp coming).byteAt rp =
        (session.pulled (.take 1) rp coming).byteAt rp ∧
      (Format.lenBytes big).run (session.pulled (Format.lenBytes big) rp coming).resppacket rp =
        (Format.lenBytesOf big ((session.pulled (.take 1) rp coming).byteAt rp)).run
          (session.pulled (Format.lenBytes big) rp coming).resppacket (rp + 1) := by
  have pulled := (pulled_byte_bind (Format.lenBytesOf big) one).1
  have same : (session.pulled (Format.lenBytes big) rp coming).byteAt rp =
      (session.pulled (.take 1) rp coming).byteAt rp := by
    rw [Format.lenBytes, pulled]
    exact byteAt_pulled one
  have longer : rp + 1 ≤ (session.pulled (Format.lenBytes big) rp coming).resppacket.length := by
    rw [Format.lenBytes, pulled]
    exact Nat.le_trans one (length_le_pulled _ _ _ _)
  refine ⟨pulled, same, ?_⟩
  rw [← same]
  nth_rewrite 1 [Format.lenBytes]
  rw [Decoder.bind_run, Format.byte_run, if_pos longer]
  rfl

theorem getLenBytes_eq (behind : Behind settings session coming)
    (reached : rp ≤ session.resppacket.length) (stale : stop ≤ session.resppacket.length) :
    getLenBytes settings session rp stop =
      (lenBytesAnswer session.requestvalueavail rp
          ((session.pulled (Format.lenBytes settings.bigchunks) rp coming).byteAt rp)
          ((Format.lenBytes settings.bigchunks).run
            (session.pulled (Format.lenBytes settings.bigchunks) rp coming).resppacket rp),
        (session.pulled (Format.lenBytes settings.bigchunks) rp coming).storedValue
          ((Format.lenBytes settings.bigchunks).run
            (session.pulled (Format.lenBytes settings.bigchunks) rp coming).resppacket rp)) := by
  have between := behind.pulled (.take 1) rp
  rw [getLenBytes, haveBytes_eq behind reached stale]
  by_cases one : rp + 1 ≤ (session.pulled (.take 1) rp coming).resppacket.length
  · have parts := pulled_lenBytes settings.bigchunks one
    have room : session.requestvalueavail =
        (session.pulled (.take 1) rp coming).requestvalueavail := rfl
    rw [decide_eq_true one, parts.2.2, parts.2.1, parts.1, room]
    simp only
    clear parts room
    generalize session.left (.take 1) rp coming = rest at between ⊢
    generalize session.pulled (.take 1) rp coming = first at between one ⊢
    generalize length : first.byteAt rp = byte
    split
    case isTrue zero =>
      have form : Format.lenBytesOf settings.bigchunks byte = .pure .null := if_pos zero
      have settled := between.pulled_of_enough (.pure Format.LenBytes.null) (rp + 1) rfl
      rw [form, settled.1]
      rfl
    case isFalse occupied =>
      split
      case isTrue null =>
        have form : Format.lenBytesOf settings.bigchunks byte =
            (Decoder.take 1).map fun _ => .null := by
          rw [Format.lenBytesOf, if_neg occupied, if_pos null]
        rw [haveBytes_eq between one (Nat.le_refl _), form, (pulled_map _ _ _ _ _).1,
          Decoder.map_take_run]
        by_cases two : rp + 1 + 1 ≤ (first.pulled (.take 1) (rp + 1) rest).resppacket.length
        · rw [decide_eq_true two, if_pos two]
          rfl
        · rw [decide_eq_false two, if_neg two, lenBytesAnswer, null, if_neg (by decide)]
          rfl
      case isFalse valued =>
        split
        case isTrue small =>
          have form : Format.lenBytesOf settings.bigchunks byte =
              (Decoder.take byte.toNat).map .bytes := by
            rw [Format.lenBytesOf, if_neg occupied, if_neg valued, if_pos small]
          have plain : byte.toNat ≠ clrLongFormMarker := by
            simp only [clrMaxShortLength] at small
            simp only [clrLongFormMarker]
            omega
          rw [haveBytes_eq between one (Nat.le_refl _), form, (pulled_map _ _ _ _ _).1,
            Decoder.map_take_run]
          by_cases all : rp + 1 + byte.toNat ≤
              (first.pulled (.take byte.toNat) (rp + 1) rest).resppacket.length
          · have size : ((first.pulled (.take byte.toNat) (rp + 1) rest).bytesAt (rp + 1)
                byte.toNat).length = byte.toNat := by
              rw [Session.bytesAt, List.length_take, List.length_drop]
              omega
            rw [Session.bytesAt] at size
            rw [decide_eq_true all, if_pos all, lenBytesAnswer, size]
            rfl
          · rw [decide_eq_false all, if_neg all, lenBytesAnswer, if_neg plain]
            rfl
        case isFalse large =>
          split
          case isTrue bad =>
            have form : Format.lenBytesOf settings.bigchunks byte = .fail := by
              rw [Format.lenBytesOf, if_neg occupied, if_neg valued, if_neg large, if_pos bad]
            have settled := between.pulled_of_enough (.fail : Decoder Byte Format.LenBytes)
              (rp + 1) rfl
            rw [form, settled.1, Decoder.fail, lenBytesAnswer, if_neg bad]
            rfl
          case isFalse long =>
            have form : Format.lenBytesOf settings.bigchunks byte =
                (Format.chunks settings.bigchunks).map .chunks := by
              rw [Format.lenBytesOf, if_neg occupied, if_neg valued, if_neg large, if_neg long]
            rw [getLongFormBytes_eq between one (Nat.le_refl _), form, (pulled_map _ _ _ _ _).1,
              Decoder.map_run]
            cases (Format.chunks settings.bigchunks).run
                (first.pulled (Format.chunks settings.bigchunks) (rp + 1) rest).resppacket
                (rp + 1) with
            | malformed => rw [longAnswer, Decoded.malformed_bind, lenBytesAnswer,
                if_pos (Decidable.not_not.mp long)]; rfl
            | short => rw [longAnswer, Decoded.short_bind, lenBytesAnswer,
                if_pos (Decidable.not_not.mp long)]; rfl
            | complete chunks last =>
              rw [longAnswer, Decoded.complete_bind, lenBytesAnswer]
              split
              · rfl
              · rfl
  · have beyond : (session.pulled (.take 1) rp coming).byteAt rp = 0 := by
      rw [Session.byteAt, List.getD_eq_getElem?_getD, List.getElem?_eq_none (by omega)]
      rfl
    rw [decide_eq_false one, Format.lenBytes, (pulled_byte_bind_of_none _ (by omega)).1,
      Decoder.bind_run, Format.byte_run, if_neg one, Decoded.short_bind, lenBytesAnswer, beyond,
      if_neg (by decide)]
    rfl

end SqlRelay.Oracle
