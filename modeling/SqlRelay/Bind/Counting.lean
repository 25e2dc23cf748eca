import SqlRelay.Bind.Preservation

/-!
# Counting bind markers

`countBindVariables` and `substituteNullForBindVariables`.  The counter looks for the markers of all
kinds at once, the substituter for those of one kind at a time.  Both see the same markers of a kind
where none of its delimiters, and no quote, lies inside a marker of another kind.
-/

namespace SqlRelay.Bind

open SqlRelay.Foundation SqlRelay.Foundation.CString SqlRelay.Foundation.QuotedLiteral

/-- The kinds of markers. -/
inductive Kind where
  | dollarSign | questionMark | colon | atSign
  deriving DecidableEq, Repr

namespace Kind

/-- All of them, those that the counter prefers first. -/
def all : List Kind := [.dollarSign, .questionMark, .colon, .atSign]

def byte : Kind → Byte
  | .dollarSign => chr '$'
  | .questionMark => chr '?'
  | .colon => chr ':'
  | .atSign => chr '@'

/-- Accept this kind alone. -/
def only (kind : Kind) : Delimiters where
  questionMark := kind == .questionMark
  colon := kind == .colon
  atSign := kind == .atSign
  dollarSign := kind == .dollarSign

end Kind

def Delimiters.accepts (delimiters : Delimiters) : Kind → Bool
  | .dollarSign => delimiters.dollarSign
  | .questionMark => delimiters.questionMark
  | .colon => delimiters.colon
  | .atSign => delimiters.atSign

/-- The scan that both functions do. -/
def markerScanner (delimiters : Delimiters) (backslash : Bool) : Scanner :=
  ⟨delimiters, backslash, afterBindVariable⟩

def markerPieces (delimiters : Delimiters) (backslash : Bool) (query : List Byte) : List Piece :=
  (markerScanner delimiters backslash).pieces .inQuery 0 query

/-- A marker of this kind. -/
def Piece.isMarker (kind : Kind) : Piece → Bool
  | .text _ => false
  | .bind marker => marker.head? == some kind.byte

/-- The counter of a kind; it is a `uint16_t`. -/
def kindCount (delimiters : Delimiters) (backslash : Bool) (query : List Byte) (kind : Kind) : Nat :=
  (markerPieces delimiters backslash query).countP (Piece.isMarker kind) % 65536

/-- `countBindVariables`: the first counter in the order of preference that is not zero. -/
def countBindVariables (delimiters : Delimiters) (backslash : Bool) (query : List Byte) : Nat :=
  ((Kind.all.map (kindCount delimiters backslash query)).find? (· ≠ 0)).getD 0

/-- The kind that is substituted. -/
def substitutedKind (delimiters : Delimiters) (backslash : Bool) (query : List Byte) :
    Option Kind :=
  Kind.all.find? fun kind =>
    delimiters.accepts kind && countBindVariables kind.only backslash query != 0

def Piece.isBind : Piece → Bool
  | .text _ => false
  | .bind _ => true

/-- `NULL` in place of a marker. -/
def Piece.nullified : Piece → List Byte
  | .text byte => [byte]
  | .bind _ => ascii "NULL"

/-- `substituteNullForBindVariables`: the number of markers and the output. -/
def substituteNullForBindVariables (delimiters : Delimiters) (backslash : Bool)
    (query : List Byte) : Nat × List Byte :=
  match substitutedKind delimiters backslash query with
  | none => (0, query)
  | some kind =>
      let pieces := markerPieces kind.only backslash query
      (pieces.countP Piece.isBind % 65536, pieces.flatMap Piece.nullified)

/-! ## Delimiters -/

theorem isBindDelimiter_only (kind : Kind) (byte : Byte) (rest : List Byte) :
    isBindDelimiter kind.only (byte :: rest) = true ↔
      byte = kind.byte ∧ (kind = .colon → peek rest ≠ chr '=') ∧
        (kind = .atSign → peek rest ≠ chr '@') := by
  cases kind <;> simp [isBindDelimiter, Kind.only, Kind.byte]

theorem isBindDelimiter_iff (delimiters : Delimiters) (text : List Byte) :
    isBindDelimiter delimiters text = true ↔
      ∃ kind, delimiters.accepts kind = true ∧ isBindDelimiter kind.only text = true := by
  constructor
  · intro delimiter
    simp only [isBindDelimiter, Bool.or_eq_true, Bool.and_eq_true] at delimiter
    obtain ((question | colon) | at') | dollar := delimiter
    · exact ⟨.questionMark, question.1, by simp [isBindDelimiter, Kind.only, question.2]⟩
    · exact ⟨.colon, colon.1.1, by simp_all [isBindDelimiter, Kind.only]⟩
    · exact ⟨.atSign, at'.1.1, by simp_all [isBindDelimiter, Kind.only]⟩
    · exact ⟨.dollarSign, dollar.1, by simp [isBindDelimiter, Kind.only, dollar.2]⟩
  · intro one
    obtain ⟨kind, accepts, delimiter⟩ := one
    cases kind <;> simp_all [isBindDelimiter, Kind.only, Delimiters.accepts]

theorem kind_byte_injective {kind other : Kind} (same : kind.byte = other.byte) : kind = other := by
  cases kind <;> cases other <;> first | rfl | exact absurd same (by decide)

/-! ## What is inside a marker -/

/-- The kind's own scan comes through these bytes and does not find a marker. -/
structure PassedOver (kind : Kind) (bytes : List Byte) : Prop where
  unquoted : quote ∉ bytes
  unmarked : ∀ front byte rest, bytes = front ++ byte :: rest → beforeBindVariable byte = true →
    isBindDelimiter kind.only rest = false

/-- A marker of another kind hides nothing from the kind's own scan. -/
def Hides (kind : Kind) (marker : List Byte) : Prop :=
  marker.head? ≠ some kind.byte ∧ ¬PassedOver kind marker

theorem PassedOver.tail {kind : Kind} {byte : Byte} {rest : List Byte}
    (passed : PassedOver kind (byte :: rest)) : PassedOver kind rest where
  unquoted := fun member => passed.unquoted (List.mem_cons_of_mem _ member)
  unmarked := by
    intro front other later same before
    exact passed.unmarked (byte :: front) other later (by rw [same]; rfl) before

theorem PassedOver.next {kind : Kind} {byte : Byte} {rest : List Byte}
    (passed : PassedOver kind (byte :: rest)) (before : beforeBindVariable byte = true) :
    isBindDelimiter kind.only rest = false :=
  passed.unmarked [] byte rest rfl before

section Beside

variable {kind : Kind} {delimiters : Delimiters} {escapes : Bool}

/-- Nothing hides a marker of the kind. -/
def Unhidden (kind : Kind) (pieces : List Piece) : Prop :=
  ∀ marker, Piece.bind marker ∈ pieces → ¬Hides kind marker

theorem pieces_text {scanner : Scanner} {state : ParseState} {prev byte : Byte} {rest : List Byte}
    (outside : state = .inQuery ∨
      (state = .beforeBind ∧ isBindDelimiter scanner.delimiters (byte :: rest) = false)) :
    scanner.pieces state prev (byte :: rest) =
      .text byte :: scanner.pieces (afterQueryByte byte) (nextPrev prev byte) rest := by
  obtain rfl | ⟨rfl, noDelimiter⟩ := outside
  · simp [Scanner.pieces, Scanner.advance]
  · simp [Scanner.pieces, Scanner.advance, noDelimiter]

theorem pieces_marker {scanner : Scanner} {prev byte : Byte} {rest : List Byte}
    (delimiter : isBindDelimiter scanner.delimiters (byte :: rest) = true) :
    scanner.pieces .beforeBind prev (byte :: rest) =
      .bind (byte :: scanner.takeBind rest) ::
        scanner.pieces .inBind (nextPrev prev byte) rest := by
  simp [Scanner.pieces, Scanner.advance, delimiter]

theorem pieces_ending {scanner : Scanner} {prev byte : Byte} {rest : List Byte}
    (ends : scanner.ends (byte :: rest) = true) :
    scanner.pieces .inBind prev (byte :: rest) =
      .text byte :: scanner.pieces (afterQueryByte byte) (nextPrev prev byte) rest := by
  simp [Scanner.pieces, Scanner.advance, ends]

theorem pieces_passing {scanner : Scanner} {prev byte : Byte} {rest : List Byte}
    (goesOn : scanner.ends (byte :: rest) = false) :
    scanner.pieces .inBind prev (byte :: rest) =
      scanner.pieces .inBind (nextPrev prev byte) rest := by
  simp [Scanner.pieces, Scanner.advance, goesOn]

theorem pieces_quoted {scanner : Scanner} {prev byte : Byte} {rest : List Byte} :
    scanner.pieces .inQuotes prev (byte :: rest) =
      .text byte :: scanner.pieces
        (if byte = quote ∧ (scanner.escapes = false ∨ prev ≠ backslash) then .inQuery
          else .inQuotes) (nextPrev prev byte) rest := by
  simp [Scanner.pieces, Scanner.advance]

theorem Unhidden.tail {piece : Piece} {pieces : List Piece}
    (unhidden : Unhidden kind (piece :: pieces)) : Unhidden kind pieces :=
  fun marker member => unhidden marker (List.mem_cons_of_mem _ member)

end Beside

/-! ## Counters -/

/-- A marker is of a kind that is accepted. -/
theorem kind_of_bind {scanner : Scanner} {state : ParseState} {prev : Byte} {text marker : List Byte}
    (member : Piece.bind marker ∈ scanner.pieces state prev text) :
    ∃ kind, scanner.delimiters.accepts kind = true ∧ marker.head? = some kind.byte := by
  induction text generalizing state prev with
  | nil => cases member
  | cons byte rest ih =>
      rw [Scanner.pieces] at member
      split at member
      case isTrue delimiter =>
        cases member with
        | head =>
            obtain ⟨kind, accepts, own⟩ := (isBindDelimiter_iff _ _).mp delimiter.2
            exact ⟨kind, accepts, congrArg some ((isBindDelimiter_only _ _ _).mp own).1⟩
        | tail _ later => exact ih later
      case isFalse =>
        split at member
        case isTrue => exact ih member
        case isFalse =>
          cases member with
          | tail _ later => exact ih later

theorem isMarker_iff {kind : Kind} {piece : Piece} :
    piece.isMarker kind = true ↔ ∃ marker, piece = .bind marker ∧ marker.head? = some kind.byte := by
  cases piece with
  | text byte => simp [Piece.isMarker]
  | bind marker => simp [Piece.isMarker]

theorem kindCount_of_not_accepts {delimiters : Delimiters} {kind : Kind}
    (rejects : delimiters.accepts kind = false) (escapes : Bool) (query : List Byte) :
    kindCount delimiters escapes query kind = 0 := by
  have none : (markerPieces delimiters escapes query).countP (Piece.isMarker kind) = 0 := by
    rw [List.countP_eq_zero]
    intro piece member marker
    obtain ⟨marker, rfl, isKind⟩ := isMarker_iff.mp marker
    obtain ⟨other, accepts, isOther⟩ := kind_of_bind member
    have accepts : delimiters.accepts other = true := accepts
    rw [isKind, Option.some.injEq] at isOther
    rw [← kind_byte_injective isOther, rejects] at accepts
    cases accepts
  rw [kindCount, none]

theorem accepts_only (kind other : Kind) : kind.only.accepts other = true ↔ other = kind := by
  cases kind <;> cases other <;> decide

/-- The counter for one kind alone. -/
theorem countBindVariables_only (kind : Kind) (escapes : Bool) (query : List Byte) :
    countBindVariables kind.only escapes query = kindCount kind.only escapes query kind := by
  have others : ∀ other, other ≠ kind → kindCount kind.only escapes query other = 0 := by
    intro other differs
    apply kindCount_of_not_accepts
    rw [Bool.eq_false_iff]
    exact fun accepts => differs ((accepts_only kind other).mp accepts)
  rw [countBindVariables]
  cases count : kindCount kind.only escapes query kind with
  | zero => cases kind <;> simp [Kind.all, others, count]
  | succ number => cases kind <;> simp [Kind.all, others, count]

/-- The scan for one kind finds markers of that kind only. -/
theorem countP_isBind (kind : Kind) (escapes : Bool) (query : List Byte) :
    (markerPieces kind.only escapes query).countP Piece.isBind =
      (markerPieces kind.only escapes query).countP (Piece.isMarker kind) := by
  apply List.countP_congr
  intro piece member
  cases piece with
  | text byte => rfl
  | bind marker =>
      obtain ⟨other, accepts, isOther⟩ := kind_of_bind member
      rw [(accepts_only kind other).mp accepts] at isOther
      simp [Piece.isBind, Piece.isMarker, isOther]

/-! ## What is left -/

/-- The output of a scan. -/
def nullify (pieces : List Piece) : List Byte := pieces.flatMap Piece.nullified

theorem isBindDelimiter_congr {delimiters : Delimiters} {byte : Byte} {rest other : List Byte}
    (same : byte = chr ':' ∨ byte = chr '@' → peek rest = peek other) :
    isBindDelimiter delimiters (byte :: rest) = isBindDelimiter delimiters (byte :: other) := by
  by_cases looks : byte = chr ':' ∨ byte = chr '@'
  · simp [isBindDelimiter, same looks]
  · have notColon : (byte == chr ':') = false := by simpa using fun same => looks (Or.inl same)
    have notAt : (byte == chr '@') = false := by simpa using fun same => looks (Or.inr same)
    simp [isBindDelimiter, notColon, notAt]

/-- Where no marker is expected, the output goes on like the query. -/
theorem peek_nullify (scanner : Scanner) (prev : Byte) (text : List Byte) :
    peek (nullify (scanner.pieces .inQuery prev text)) = peek text := by
  cases text with
  | nil => rfl
  | cons byte rest =>
      rw [pieces_text (Or.inl rfl)]
      rfl

theorem nextPrev_of_ends {byte : Byte} {rest : List Byte}
    (ends : afterBindVariable (byte :: rest) = true) (prev : Byte) : nextPrev prev byte = byte := by
  rw [nextPrev, if_neg]
  rintro ⟨rfl, -⟩
  rw [afterBindVariable_cons_iff] at ends
  cases ends.2 with
  | inl listed => exact absurd listed (by decide)
  | inr assignment => exact absurd assignment.1 (by decide)

/-- Bytes after which nothing is expected. -/
theorem pieces_plain (scanner : Scanner) {bytes : List Byte}
    (plain : ∀ byte ∈ bytes, afterQueryByte byte = .inQuery) (prev : Byte) (text : List Byte) :
    scanner.pieces .inQuery prev (bytes ++ text) =
      bytes.map .text ++ scanner.pieces .inQuery (bytes.foldl nextPrev prev) text := by
  induction bytes generalizing prev with
  | nil => rfl
  | cons byte bytes ih =>
      obtain ⟨isPlain, plain⟩ := List.forall_mem_cons.mp plain
      rw [List.cons_append, pieces_text (Or.inl rfl), isPlain, ih plain]
      rfl

/-- A `NULL` is no marker, and none is expected after it. -/
theorem pieces_null (scanner : Scanner) (prev : Byte) (text : List Byte) :
    ∃ last, scanner.pieces .beforeBind prev (ascii "NULL" ++ text) =
      (ascii "NULL").map .text ++ scanner.pieces .inQuery last text := by
  have letter : isBindDelimiter scanner.delimiters (ascii "NULL" ++ text) = false := by
    rw [Bool.eq_false_iff]
    intro delimiter
    obtain ⟨kind, _, own⟩ := (isBindDelimiter_iff _ _).mp delimiter
    have isByte := ((isBindDelimiter_only kind (chr 'N') (ascii "ULL" ++ text)).mp own).1
    cases kind <;> exact absurd isByte (by decide)
  have first : scanner.pieces .beforeBind prev (ascii "NULL" ++ text) =
      .text (chr 'N') :: scanner.pieces .inQuery (nextPrev prev (chr 'N')) (ascii "ULL" ++ text) :=
    pieces_text (Or.inr ⟨rfl, letter⟩)
  rw [first, pieces_plain scanner (by decide +kernel)]
  exact ⟨_, rfl⟩

/-- A scan of the output beside the scan of the query: they are in the same state, or the scan of
the query is in a marker, for which there already is a `NULL` in the output. -/
theorem no_bind_nullify (scanner : Scanner) (isAfter : scanner.ends = afterBindVariable)
    {state own : ParseState} {prev last : Byte} {text : List Byte}
    (beside : (state = .inBind ∧ own = .inQuery) ∨
      (state ≠ .inBind ∧ own = state ∧ last = prev)) :
    ∀ piece ∈ scanner.pieces own last (nullify (scanner.pieces state prev text)),
      piece.isBind = false := by
  induction text generalizing state own prev last with
  | nil => simp [Scanner.pieces, nullify]
  | cons byte rest ih =>
      have textStep : ∀ next, next ≠ ParseState.inBind →
          ∀ piece ∈ Piece.text byte :: scanner.pieces next (nextPrev prev byte)
              (nullify (scanner.pieces next (nextPrev prev byte) rest)),
            piece.isBind = false := by
        intro next outside
        rw [List.forall_mem_cons]
        exact ⟨rfl, ih (Or.inr ⟨outside, rfl, rfl⟩)⟩
      cases beside with
      | inl inside =>
          obtain ⟨rfl, rfl⟩ := inside
          cases ends : scanner.ends (byte :: rest) with
          | true =>
              have stops := nextPrev_of_ends (isAfter ▸ ends)
              have same : nextPrev last byte = nextPrev prev byte :=
                (stops last).trans (stops prev).symm
              rw [pieces_ending ends]
              change ∀ piece ∈ scanner.pieces _ _ (byte :: nullify _), _
              rw [pieces_text (Or.inl rfl), same]
              exact textStep _ (afterQueryByte_ne_inBind byte)
          | false =>
              rw [pieces_passing ends]
              exact ih (Or.inl ⟨rfl, rfl⟩)
      | inr outside =>
          obtain ⟨outside, rfl, rfl⟩ := outside
          cases own with
          | inBind => exact absurd rfl outside
          | inQuery =>
              rw [pieces_text (Or.inl rfl)]
              change ∀ piece ∈ scanner.pieces _ _ (byte :: nullify _), _
              rw [pieces_text (Or.inl rfl)]
              exact textStep _ (afterQueryByte_ne_inBind byte)
          | inQuotes =>
              rw [pieces_quoted]
              change ∀ piece ∈ scanner.pieces _ _ (byte :: nullify _), _
              rw [pieces_quoted]
              apply textStep
              split <;> decide
          | beforeBind =>
              cases delimiter : isBindDelimiter scanner.delimiters (byte :: rest) with
              | false =>
                  rw [pieces_text (Or.inr ⟨rfl, delimiter⟩)]
                  change ∀ piece ∈ scanner.pieces _ _ (byte :: nullify _), _
                  rw [pieces_text]
                  · exact textStep _ (afterQueryByte_ne_inBind byte)
                  · refine Or.inr ⟨rfl, ?_⟩
                    rw [← delimiter]
                    apply isBindDelimiter_congr
                    intro looks
                    have plain : afterQueryByte byte = .inQuery := by
                      obtain rfl | rfl := looks <;> decide
                    rw [plain, peek_nullify]
              | true =>
                  rw [pieces_marker delimiter]
                  change ∀ piece ∈ scanner.pieces _ _ (ascii "NULL" ++ nullify _), _
                  obtain ⟨_, null⟩ := pieces_null scanner last
                    (nullify (scanner.pieces .inBind (nextPrev last byte) rest))
                  rw [null, List.forall_mem_append]
                  constructor
                  · simp [Piece.isBind]
                  · exact ih (Or.inl ⟨rfl, rfl⟩)

/-! ## Counting and substituting -/

/-- Nothing of the substituted kind is ever left. -/
theorem none_left {delimiters : Delimiters} {escapes : Bool} {query : List Byte} {kind : Kind}
    (substituted : substitutedKind delimiters escapes query = some kind) :
    countBindVariables kind.only escapes
      (substituteNullForBindVariables delimiters escapes query).2 = 0 := by
  have none : (markerPieces kind.only escapes
      (nullify (markerPieces kind.only escapes query))).countP Piece.isBind = 0 := by
    rw [List.countP_eq_zero]
    intro piece member
    rw [no_bind_nullify (markerScanner kind.only escapes) rfl (Or.inr ⟨by decide, rfl, rfl⟩) piece
      member]
    decide
  rw [countBindVariables_only, kindCount, ← countP_isBind, substituteNullForBindVariables,
    substituted]
  exact congrArg (· % 65536) none

end SqlRelay.Bind
