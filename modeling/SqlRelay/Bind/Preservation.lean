import SqlRelay.Bind.Translate

/-!
# What bind translation preserves

A translated query should be the original with each marker, a delimiter and the
maximal run of name characters after it, replaced by one marker of the native
format.  The source ends a bind variable later than that, and this module says
exactly for which queries it makes no difference.
-/

namespace SqlRelay.Bind

open SqlRelay.Foundation SqlRelay.Foundation.CString SqlRelay.Foundation.QuotedLiteral

/-- One marker of a native format, by the two characters of the format. -/
def BindFormat.isMarker (format : BindFormat) : List Byte → Bool
  | [] => false
  | first :: name =>
      first == format.delimiter &&
        match format with
        | .questionMark => name == []
        | .dollarSign => name != [] && name.all isDigit
        | .colon | .atSign => name != [] && name.all isBindVariableNameCharacter

/-- The result has every byte of text in its place, and one native marker for
every marker. -/
def Renders (format : BindFormat) : List Piece → List Byte → Prop
  | [], result => result = []
  | .text byte :: later, result => ∃ rest, result = byte :: rest ∧ Renders format later rest
  | .bind _ :: later, result =>
      ∃ native rest, format.isMarker native = true ∧ result = native ++ rest ∧
        Renders format later rest

theorem isMarker_ne_nil {format : BindFormat} {native : List Byte}
    (marker : format.isMarker native = true) : native ≠ [] := by
  rintro rfl
  cases marker

/-- No piece disappears. -/
theorem Renders.length_le {format : BindFormat} {pieces : List Piece} {result : List Byte}
    (renders : Renders format pieces result) : pieces.length ≤ result.length := by
  induction pieces generalizing result with
  | nil => simp
  | cons piece later ih =>
      cases piece with
      | text byte =>
          obtain ⟨rest, rfl, renders⟩ := renders
          simpa using ih renders
      | bind marker =>
          obtain ⟨native, rest, isMarker, rfl, renders⟩ := renders
          have nonempty := List.length_pos_iff.mpr (isMarker_ne_nil isMarker)
          have := ih renders
          simp only [List.length_cons, List.length_append]
          omega

namespace Translator

variable (translator : Translator)

/-- The scan that ends a marker with its name. -/
def nameScanner : Scanner :=
  ⟨translator.delimiters, translator.backslashEscapesQuotes, afterName⟩

/-- The result differs from the query only inside its markers. -/
def PreservesQuery (query result : List Byte) : Prop :=
  Renders translator.bindFormat (translator.nameScanner.pieces .inQuery 0 query) result

/-- All that the source takes for a bind variable is kept, except that its
delimiter becomes the native one. -/
def KeepsTail (rewritten : Bool) (bind : List Byte) : Prop :=
  (translator.matchesNativeBindFormat bind = true ∧ (rewritten = true → 0 ∉ bind)) ∨
    (translator.matchesNativeBindFormat bind = false ∧
      (match translator.bindFormat with
        | .questionMark => False
        | .dollarSign => translator.isNumber (contents (bind.drop 1)) = true
        | .colon | .atSign => True) ∧
      peek (bind.drop 1) ≠ 0)

/-- What is required where a marker, or what the source takes for one, begins.
`named` is the state of the scan that ends a marker with its name and `scanned`
that of the source's scan. -/
def MarkerKept (rewritten : Bool) (named scanned : ParseState) (byte : Byte)
    (rest : List Byte) : Prop :=
  let marker := byte :: translator.nameScanner.takeBind rest
  let bind := byte :: translator.scanner.takeBind rest
  let delimiter := translator.bindFormat.delimiter
  (named = .beforeBind → scanned = .beforeBind →
    (translator.KeepsTail rewritten bind ∧
        translator.bindFormat.isMarker (delimiter :: marker.tail) = true) ∨
      (¬translator.KeepsTail rewritten bind ∧ bind = marker)) ∧
  (named = .beforeBind → scanned ≠ .beforeBind → translator.bindFormat.isMarker marker = true) ∧
  (named ≠ .beforeBind → scanned = .beforeBind →
    translator.KeepsTail rewritten bind ∧ byte = delimiter)

/-- `MarkerKept` wherever a delimiter stands. -/
def MarkersKeptFrom (rewritten : Bool) : ParseState → ParseState → Byte → List Byte → Prop
  | _, _, _, [] => True
  | named, scanned, prev, byte :: rest =>
      (isBindDelimiter translator.delimiters (byte :: rest) = true →
        translator.MarkerKept rewritten named scanned byte rest) ∧
      MarkersKeptFrom rewritten (translator.nameScanner.advance named prev byte rest)
        (translator.scanner.advance scanned prev byte rest) (nextPrev prev byte) rest

/-- Every marker of the query is kept a marker and nothing else is touched. -/
def MarkersKept (query : List Byte) : Prop :=
  translator.MarkersKeptFrom (translator.translates (translator.pieces query))
    .inQuery .inQuery 0 query

end Translator

/-! ## Reading across a name -/

theorem afterName_of_afterBindVariable {text : List Byte} (ends : afterBindVariable text = true) :
    afterName text = true := by
  rw [afterBindVariable, Bool.and_eq_true] at ends
  exact ends.1

theorem afterName_cons {byte : Byte} {rest : List Byte}
    (isName : isBindVariableNameCharacter byte = true) : afterName (byte :: rest) = false := by
  simp [afterName, isName]

theorem afterBindVariable_cons_iff {byte : Byte} {rest : List Byte} :
    afterBindVariable (byte :: rest) = true ↔
      isBindVariableNameCharacter byte = false ∧
        (byte ∈ ascii " \t\n\r,);=<>!" ∨ (byte = chr ':' ∧ peek rest = chr '=')) := by
  simp [afterBindVariable]

theorem afterBindVariable_eq_false {byte : Byte} {rest : List Byte}
    (ordinary : byte ∉ ascii " \t\n\r,);=<>!")
    (notAssignment : byte = chr ':' → peek rest ≠ chr '=') :
    afterBindVariable (byte :: rest) = false := by
  rw [← Bool.not_eq_true, afterBindVariable_cons_iff]
  rintro ⟨-, member | ⟨colon, assignment⟩⟩
  · exact ordinary member
  · exact notAssignment colon assignment

/-- A delimiter neither ends a bind variable nor quotes, and nothing is expected
after it. -/
theorem delimiter_is_plain {delimiters : Delimiters} {byte : Byte} {rest : List Byte}
    (delimiter : isBindDelimiter delimiters (byte :: rest) = true) :
    afterBindVariable (byte :: rest) = false ∧ byte ≠ quote ∧
      afterQueryByte byte = .inQuery ∧ byte ≠ 0 := by
  have cases : byte = chr '?' ∨ (byte = chr ':' ∧ peek rest ≠ chr '=') ∨ byte = chr '@' ∨
      byte = chr '$' := by
    simp only [isBindDelimiter, peek_cons, List.drop_succ_cons, List.drop_zero,
      Bool.or_eq_true, Bool.and_eq_true, beq_iff_eq, bne_iff_ne] at delimiter
    tauto
  rcases cases with rfl | ⟨rfl, notAssignment⟩ | rfl | rfl
  · exact ⟨afterBindVariable_eq_false (by decide) fun colon => absurd colon (by decide),
      by decide, by decide, by decide⟩
  · exact ⟨afterBindVariable_eq_false (by decide) fun _ => notAssignment, by decide, by decide,
      by decide⟩
  · exact ⟨afterBindVariable_eq_false (by decide) fun colon => absurd colon (by decide),
      by decide, by decide, by decide⟩
  · exact ⟨afterBindVariable_eq_false (by decide) fun colon => absurd colon (by decide),
      by decide, by decide, by decide⟩

theorem name_is_plain {byte : Byte} (isName : isBindVariableNameCharacter byte = true) :
    byte ≠ quote ∧ afterQueryByte byte = .inQuery ∧ byte ≠ 0 := by
  have every : ∀ index : Fin 256, isBindVariableNameCharacter (UInt8.ofFin index) = true →
      UInt8.ofFin index ≠ quote ∧ afterQueryByte (UInt8.ofFin index) = .inQuery ∧
        UInt8.ofFin index ≠ 0 := by
    decide +kernel
  exact every byte.toFin isName

section Names

variable {scanner : Scanner}
variable (runsLong : ∀ text, scanner.ends text = true → afterName text = true)
include runsLong

theorem ends_name {byte : Byte} {rest : List Byte}
    (isName : isBindVariableNameCharacter byte = true) : scanner.ends (byte :: rest) = false := by
  cases ends : scanner.ends (byte :: rest) with
  | false => rfl
  | true => simpa [afterName_cons isName] using runsLong _ ends

theorem takeBind_name {name : List Byte}
    (names : ∀ byte ∈ name, isBindVariableNameCharacter byte = true) (after : List Byte) :
    scanner.takeBind (name ++ after) = name ++ scanner.takeBind after := by
  induction name with
  | nil => rfl
  | cons byte name ih =>
      rw [List.cons_append, Scanner.takeBind, ends_name runsLong (names byte (by simp)),
        if_neg (by simp), ih fun other member => names other (by simp [member]), List.cons_append]

theorem pieces_name {name : List Byte}
    (names : ∀ byte ∈ name, isBindVariableNameCharacter byte = true) (prev : Byte)
    (after : List Byte) :
    scanner.pieces .inBind prev (name ++ after) =
      scanner.pieces .inBind (name.foldl nextPrev prev) after := by
  induction name generalizing prev with
  | nil => rfl
  | cons byte name ih =>
      have goesOn : scanner.ends (byte :: (name ++ after)) = false :=
        ends_name runsLong (names byte (by simp))
      rw [List.cons_append, List.foldl_cons,
        ← ih fun other member => names other (by simp [member])]
      simp [Scanner.pieces, Scanner.advance, goesOn]

end Names

/-- Past the end of a marker the scan is back in the query. -/
theorem pieces_inBind_of_ends {scanner : Scanner} {after : List Byte}
    (ended : after = [] ∨ scanner.ends after = true) (prev : Byte) :
    scanner.pieces .inBind prev after = scanner.pieces .inQuery prev after := by
  cases after with
  | nil => rfl
  | cons byte rest =>
      have ends : scanner.ends (byte :: rest) = true := by simpa using ended
      simp [Scanner.pieces, Scanner.advance, ends]

/-- From inside a marker the scan goes on behind the marker's end. -/
theorem takeBind_append (scanner : Scanner) (prev : Byte) (text : List Byte) :
    ∃ after last, text = scanner.takeBind text ++ after ∧
      (after = [] ∨ scanner.ends after = true) ∧
      scanner.pieces .inBind prev text = scanner.pieces .inQuery last after := by
  induction text generalizing prev with
  | nil => exact ⟨[], prev, rfl, .inl rfl, rfl⟩
  | cons byte rest ih =>
      cases ends : scanner.ends (byte :: rest) with
      | true =>
          refine ⟨byte :: rest, prev, ?_, .inr ends, pieces_inBind_of_ends (.inr ends) prev⟩
          simp [Scanner.takeBind, ends]
      | false =>
          obtain ⟨after, last, equal, ended, later⟩ := ih (nextPrev prev byte)
          refine ⟨after, last, ?_, ended, ?_⟩
          · rw [Scanner.takeBind, ends, if_neg (by simp), List.cons_append, ← equal]
          · rw [← later]
            simp [Scanner.pieces, Scanner.advance, ends]

theorem takeBind_afterName (translator : Translator) (text : List Byte) :
    ∃ after, text = translator.nameScanner.takeBind text ++ after ∧ afterName after = true ∧
      ∀ byte ∈ translator.nameScanner.takeBind text, isBindVariableNameCharacter byte = true := by
  induction text with
  | nil => exact ⟨[], rfl, by decide, by simp [Scanner.takeBind]⟩
  | cons byte rest ih =>
      obtain ⟨after, equal, stops, names⟩ := ih
      cases isName : isBindVariableNameCharacter byte with
      | false =>
          have ends : translator.nameScanner.ends (byte :: rest) = true := by
            simp [Translator.nameScanner, afterName, isName]
          refine ⟨byte :: rest, ?_, by simp [afterName, isName], ?_⟩ <;>
            simp [Scanner.takeBind, ends]
      | true =>
          have goesOn : translator.nameScanner.ends (byte :: rest) = false :=
            afterName_cons isName
          refine ⟨after, ?_, stops, ?_⟩
          · rw [Scanner.takeBind, goesOn, if_neg (by simp), List.cons_append, ← equal]
          · intro other member
            rw [Scanner.takeBind, goesOn, if_neg (by simp), List.mem_cons] at member
            rcases member with rfl | member
            · exact isName
            · exact names other member

/-! ## One marker in the result -/

/-- Two texts that are names followed by something else are equal only part by
part. -/
theorem append_eq_of_names {name other after later : List Byte}
    (names : ∀ byte ∈ name, isBindVariableNameCharacter byte = true)
    (others : ∀ byte ∈ other, isBindVariableNameCharacter byte = true)
    (stops : afterName after = true) (stopsLater : afterName later = true)
    (equal : name ++ after = other ++ later) : name = other ∧ after = later := by
  induction name generalizing other with
  | nil =>
      cases other with
      | nil => exact ⟨rfl, equal⟩
      | cons byte other =>
          rw [List.nil_append, List.cons_append] at equal
          rw [equal, afterName_cons (others byte (by simp))] at stops
          cases stops
  | cons byte name ih =>
      cases other with
      | nil =>
          rw [List.nil_append, List.cons_append] at equal
          rw [← equal, afterName_cons (names byte (by simp))] at stopsLater
          cases stopsLater
      | cons first other =>
          simp only [List.cons_append, List.cons.injEq] at equal
          obtain ⟨rfl, equal⟩ := equal
          obtain ⟨rfl, same⟩ := ih (fun byte member => names byte (by simp [member]))
            (fun byte member => others byte (by simp [member])) equal
          exact ⟨rfl, same⟩

theorem isDigit_isName {byte : Byte} (digit : isDigit byte = true) :
    isBindVariableNameCharacter byte = true := by
  simp [isBindVariableNameCharacter, isAlphanumeric, digit]

/-- A native marker is its delimiter and a name, which may be empty. -/
theorem isMarker_cases {format : BindFormat} {native : List Byte}
    (marker : format.isMarker native = true) :
    ∃ name, native = format.delimiter :: name ∧
      ∀ byte ∈ name, isBindVariableNameCharacter byte = true := by
  cases native with
  | nil => cases marker
  | cons first name =>
      simp only [BindFormat.isMarker, Bool.and_eq_true, beq_iff_eq] at marker
      refine ⟨name, by rw [marker.1], ?_⟩
      cases format with
      | questionMark => simp_all
      | dollarSign => exact fun byte member => isDigit_isName (by simp_all)
      | colon | atSign => simp_all

/-- A native marker in front of a text can be read in one way only. -/
theorem isMarker_append {format : BindFormat} {native name rest later : List Byte} {first : Byte}
    (marker : format.isMarker native = true)
    (names : ∀ byte ∈ name, isBindVariableNameCharacter byte = true)
    (stops : afterName rest = true) (stopsLater : afterName later = true)
    (equal : first :: (name ++ later) = native ++ rest) :
    native = first :: name ∧ rest = later := by
  obtain ⟨other, rfl, others⟩ := isMarker_cases marker
  rw [List.cons_append, List.cons.injEq] at equal
  obtain ⟨rfl, equal⟩ := equal
  obtain ⟨rfl, same⟩ := append_eq_of_names names others stopsLater stops equal
  exact ⟨rfl, same.symm⟩

/-! ## The query, marker by marker -/

namespace Translator

variable {translator : Translator}

/-- The source's test ends a variable no earlier than its name ends. -/
theorem scanner_runsLong (translator : Translator) (text : List Byte)
    (ends : translator.scanner.ends text = true) : afterName text = true :=
  afterName_of_afterBindVariable ends

/-- A byte of text of the query stands in the result as it is. -/
theorem renders_text_iff {named : ParseState} {prev byte : Byte} {rest result : List Byte}
    (outside : named ≠ .inBind)
    (isText : named = .beforeBind → isBindDelimiter translator.delimiters (byte :: rest) = false) :
    Renders translator.bindFormat (translator.nameScanner.pieces named prev (byte :: rest))
        result ↔
      ∃ after, result = byte :: after ∧
        Renders translator.bindFormat
          (translator.nameScanner.pieces (translator.nameScanner.advance named prev byte rest)
            (nextPrev prev byte) rest) after := by
  have notMarker : ¬(named = .beforeBind ∧
      isBindDelimiter translator.nameScanner.delimiters (byte :: rest) = true) := by
    rintro ⟨before, delimiter⟩
    exact absurd (isText before) (by simpa [nameScanner] using delimiter)
  simp only [Scanner.pieces, notMarker, if_false, outside, false_and, Renders]

theorem advance_ne_inBind {scanner : Scanner} {state : ParseState} {prev byte : Byte}
    {rest : List Byte} (outside : state ≠ .inBind)
    (isText : state = .beforeBind → isBindDelimiter scanner.delimiters (byte :: rest) = false) :
    scanner.advance state prev byte rest ≠ .inBind := by
  cases state with
  | inQuery => exact afterQueryByte_ne_inBind byte
  | inQuotes =>
      rw [Scanner.advance]
      split <;> decide
  | beforeBind =>
      rw [Scanner.advance, isText rfl]
      exact afterQueryByte_ne_inBind byte
  | inBind => exact absurd rfl outside

/-- What stands after a name begins with the same byte in the result. -/
theorem afterName_of_renders {prev : Byte} {after result : List Byte}
    (stops : afterName after = true)
    (renders : Renders translator.bindFormat (translator.nameScanner.pieces .inQuery prev after)
      result) : afterName result = true := by
  cases after with
  | nil =>
      rw [show result = [] from renders]
      decide
  | cons byte rest =>
      rw [renders_text_iff (by decide) (by simp)] at renders
      obtain ⟨later, rfl, -⟩ := renders
      exact stops

/-- A marker of the query stands in the result as a native marker. -/
theorem renders_marker_iff {prev byte : Byte} {name after result : List Byte}
    (delimiter : isBindDelimiter translator.delimiters (byte :: (name ++ after)) = true)
    (names : ∀ byte ∈ name, isBindVariableNameCharacter byte = true)
    (stops : afterName after = true) :
    Renders translator.bindFormat
        (translator.nameScanner.pieces .beforeBind prev (byte :: (name ++ after))) result ↔
      ∃ native rest, translator.bindFormat.isMarker native = true ∧ result = native ++ rest ∧
        Renders translator.bindFormat
          (translator.nameScanner.pieces .inQuery (name.foldl nextPrev (nextPrev prev byte)) after)
          rest := by
  have marker : isBindDelimiter translator.nameScanner.delimiters (byte :: (name ++ after)) = true :=
    delimiter
  have later : translator.nameScanner.pieces .inBind (nextPrev prev byte) (name ++ after) =
      translator.nameScanner.pieces .inQuery (name.foldl nextPrev (nextPrev prev byte)) after := by
    rw [pieces_name (fun _ ends => ends) names, pieces_inBind_of_ends (.inr stops)]
  simp only [Scanner.pieces, marker, and_self, if_true, Scanner.advance, later, Renders]

/-- A NUL that follows a text in the query follows it in the result. -/
theorem renders_nul {named : ParseState} {prev : Byte} {front later result : List Byte}
    (outside : named ≠ .inBind) (stops : afterName result = true)
    (renders : Renders translator.bindFormat
      (translator.nameScanner.pieces named prev (front ++ 0 :: later)) (front ++ result)) :
    ∃ after, result = 0 :: after := by
  induction size : front.length using Nat.strongRecOn generalizing front named prev with
  | ind size ih =>
  cases front with
  | nil =>
      rw [List.nil_append, List.nil_append, renders_text_iff outside] at renders
      · obtain ⟨after, equal, -⟩ := renders
        exact ⟨after, equal⟩
      · intro _
        cases delimiter : isBindDelimiter translator.delimiters (0 :: later) with
        | false => rfl
        | true => exact absurd rfl (delimiter_is_plain delimiter).2.2.2
  | cons byte front =>
      rw [List.length_cons] at size
      by_cases isText : named = .beforeBind →
          isBindDelimiter translator.delimiters (byte :: (front ++ 0 :: later)) = false
      · rw [List.cons_append, List.cons_append, renders_text_iff outside isText] at renders
        obtain ⟨after, equal, renders⟩ := renders
        rw [List.cons.injEq] at equal
        rw [← equal.2] at renders
        exact ih front.length (by omega) (advance_ne_inBind outside isText) renders rfl
      · simp only [Classical.not_imp, Bool.not_eq_false] at isText
        obtain ⟨rfl, delimiter⟩ := isText
        obtain ⟨rest, equal, stopsRest, names⟩ := takeBind_afterName translator front
        generalize translator.nameScanner.takeBind front = name at equal names
        subst equal
        have stopsNul : afterName (rest ++ 0 :: later) = true := by
          cases rest with
          | nil => simp [afterName]; decide
          | cons => exact stopsRest
        have stopsResult : afterName (rest ++ result) = true := by
          cases rest with
          | nil => exact stops
          | cons => exact stopsRest
        rw [List.append_assoc] at delimiter
        rw [List.cons_append, List.append_assoc, List.cons_append, List.append_assoc,
          renders_marker_iff delimiter names stopsNul] at renders
        obtain ⟨native, tail, marker, equal, renders⟩ := renders
        have same := isMarker_append marker names (afterName_of_renders stopsNul renders)
          stopsResult equal
        rw [same.2] at renders
        rw [List.length_append] at size
        exact ih rest.length (by omega) (by decide) renders rfl

/-! ## The result, byte by byte -/

/-- What is still to be written when the source's scan stands at a text.  In
state `inBind` all but the delimiter of the current variable is still to be
copied. -/
def written (translator : Translator) (rewritten : Bool) (scanned : ParseState) (prev : Byte)
    (index : UInt16) (text : List Byte) : List Byte :=
  (if scanned = .inBind then translator.scanner.takeBind text else []) ++
    translator.render rewritten index (translator.scanner.pieces scanned prev text)

variable {rewritten : Bool}

theorem written_text {scanned : ParseState} {prev byte : Byte} {index : UInt16}
    {rest : List Byte}
    (isText : scanned = .beforeBind →
      isBindDelimiter translator.delimiters (byte :: rest) = false) :
    translator.written rewritten scanned prev index (byte :: rest) =
      byte :: translator.written rewritten (translator.scanner.advance scanned prev byte rest)
        (nextPrev prev byte) index rest := by
  cases scanned with
  | inQuery =>
      simp [written, Scanner.pieces, Scanner.advance, afterQueryByte_ne_inBind]
  | inQuotes =>
      have outside : translator.scanner.advance .inQuotes prev byte rest ≠ .inBind :=
        advance_ne_inBind (by decide) (by simp)
      simp [written, Scanner.pieces, outside]
  | beforeBind =>
      have notDelimiter : isBindDelimiter translator.scanner.delimiters (byte :: rest) = false :=
        isText rfl
      simp [written, Scanner.pieces, Scanner.advance, notDelimiter, afterQueryByte_ne_inBind]
  | inBind =>
      cases ends : translator.scanner.ends (byte :: rest) <;>
        simp [written, Scanner.pieces, Scanner.advance, Scanner.takeBind, ends,
          afterQueryByte_ne_inBind]

theorem written_bind {prev byte : Byte} {index : UInt16} {rest : List Byte}
    (delimiter : isBindDelimiter translator.delimiters (byte :: rest) = true) :
    translator.written rewritten .beforeBind prev index (byte :: rest) =
      translator.emit rewritten index (byte :: translator.scanner.takeBind rest) ++
        translator.render rewritten (index + 1)
          (translator.scanner.pieces .inBind (nextPrev prev byte) rest) := by
  have marker : isBindDelimiter translator.scanner.delimiters (byte :: rest) = true := delimiter
  simp [written, Scanner.pieces, Scanner.advance, marker]

/-- Where the source's variable goes on after the name, the result of dropping
the rest of it shows: the next byte of the query cannot be the next byte of the
result. -/
theorem not_renders_of_goesOn {prev : Byte} {index : UInt16} {last byte : Byte}
    {rest : List Byte} (goesOn : afterBindVariable (byte :: rest) = false)
    (isName : isBindVariableNameCharacter byte = false) :
    ¬Renders translator.bindFormat (translator.nameScanner.pieces .inQuery prev (byte :: rest))
      (translator.render rewritten index (translator.scanner.pieces .inBind last (byte :: rest))) := by
  obtain ⟨after, state, equal, ended, later⟩ :=
    takeBind_append translator.scanner last (byte :: rest)
  have notEnded : translator.scanner.ends (byte :: rest) = false := goesOn
  rw [Scanner.takeBind, notEnded, if_neg (by simp), List.cons_append, List.cons.injEq] at equal
  rw [later, renders_text_iff (by decide) (by simp)]
  rintro ⟨result, written, renders⟩
  cases after with
  | nil => simp [Scanner.pieces] at written
  | cons first after =>
      have ends : afterBindVariable (first :: after) = true :=
        ended.resolve_left (List.cons_ne_nil _ _)
      have shown : translator.render rewritten index
          (translator.scanner.pieces .inQuery state (first :: after)) =
            translator.written rewritten .inQuery state index (first :: after) := by
        simp [Translator.written]
      rw [shown, written_text (by simp), List.cons.injEq] at written
      obtain ⟨rfl, written⟩ := written
      -- the two positions carry the same byte, so it is a colon and only the
      -- later one is part of an assignment
      rw [← Bool.not_eq_true, afterBindVariable_cons_iff] at goesOn
      rw [afterBindVariable_cons_iff] at ends
      obtain ⟨-, member | ⟨rfl, assignment⟩⟩ := ends
      · exact goesOn ⟨isName, .inl member⟩
      have notAssignment : peek rest ≠ chr '=' :=
        fun same => goesOn ⟨isName, .inr ⟨rfl, same⟩⟩
      have afterColon : afterQueryByte (chr ':') = .inQuery := by decide
      rw [Scanner.advance, afterColon] at written renders
      cases after with
      | nil => exact absurd assignment (by decide)
      | cons second after =>
          rw [written_text (by simp)] at written
          rw [peek_cons] at assignment
          cases rest with
          | nil => simp at equal
          | cons next rest =>
              rw [renders_text_iff (by decide) (by simp)] at renders
              obtain ⟨more, same, -⟩ := renders
              rw [same, List.cons.injEq] at written
              rw [assignment] at written
              exact notAssignment written.1.symm

/-! ### What is written for one variable -/

theorem isDigit_of_mem_decimal {index : UInt16} {byte : Byte} (member : byte ∈ decimal index) :
    isDigit byte = true := by
  rw [decimal, List.mem_map] at member
  obtain ⟨digit, member, rfl⟩ := member
  have range := Nat.isDigit_of_mem_toDigits (by decide) (by decide) member
  simp only [Char.isDigit, Bool.and_eq_true, decide_eq_true_eq, UInt32.le_iff_toNat_le] at range
  have value : digit.toUInt8.toNat = digit.val.toNat % 256 := by
    rw [← Char.toUInt8_val, UInt32.toNat_toUInt8]
  have low : (48 : Nat) ≤ digit.val.toNat := range.1
  have high : digit.val.toNat ≤ 57 := range.2
  have bounds : (chr '0').toNat = 48 ∧ (chr '9').toNat = 57 := by decide
  simp only [isDigit, Bool.and_eq_true, decide_eq_true_eq, UInt8.le_iff_toNat_le, value, bounds.1,
    bounds.2]
  omega

theorem decimal_ne_nil (index : UInt16) : decimal index ≠ [] := by
  simp [decimal, Nat.toDigits_ne_nil]

theorem isMarker_decimal {format : BindFormat} (index : UInt16)
    (several : format ≠ .questionMark) :
    format.isMarker (format.delimiter :: decimal index) = true := by
  cases format with
  | questionMark => exact absurd rfl several
  | colon | atSign =>
      simpa [BindFormat.isMarker, decimal_ne_nil] using
        fun byte member => isDigit_isName (isDigit_of_mem_decimal member)
  | dollarSign =>
      simpa [BindFormat.isMarker, decimal_ne_nil] using
        fun byte member => isDigit_of_mem_decimal member

theorem length_contents_cons {byte : Byte} {tail : List Byte} (notNul : byte ≠ 0) :
    (contents (byte :: tail)).length = 1 ↔ peek tail = 0 := by
  cases tail with
  | nil => simp [contents_cons, notNul]
  | cons next tail =>
      rw [contents_cons, if_neg notNul, contents_cons]
      by_cases nul : next = 0 <;> simp [nul]

theorem delimiter_ne_zero (format : BindFormat) : format.delimiter ≠ 0 := by
  cases format <;> decide

/-- What follows the delimiter, format by format. -/
theorem translateBindVariable_eq (byte : Byte) (tail : List Byte) (index : UInt16) :
    (translator.translateBindVariable (byte :: tail) index).1 =
      match translator.bindFormat with
      | .questionMark => []
      | .dollarSign =>
          if translator.isNumber (contents tail) = false ∨ peek tail = 0 then decimal index
          else tail
      | .colon | .atSign => if peek tail = 0 then decimal index else tail := by
  have short : (contents (translator.bindFormat.delimiter :: tail)).length = 1 ↔
      peek tail = 0 :=
    length_contents_cons (delimiter_ne_zero translator.bindFormat)
  rw [translateBindVariable]
  simp only [List.drop_succ_cons, List.drop_zero, short]
  have seconds : peek (BindFormat.questionMark.text.tail) = 0 ∧
      peek (BindFormat.dollarSign.text.tail) = chr '1' ∧
      peek (BindFormat.colon.text.tail) = chr '*' ∧
      peek (BindFormat.atSign.text.tail) = chr '*' ∧
      chr '1' ≠ 0 ∧ chr '*' ≠ 0 ∧ chr '*' ≠ chr '1' := by
    decide
  obtain ⟨question, dollar, colon, atSign, one, star, notOne⟩ := seconds
  cases format : translator.bindFormat with
  | questionMark => simp [question]
  | dollarSign =>
      by_cases number : translator.isNumber (contents tail) = false
      · simp [dollar, one, number]
      · by_cases empty : peek tail = 0 <;> simp [dollar, one, number, empty]
  | colon => by_cases empty : peek tail = 0 <;> simp [colon, star, notOne, empty]
  | atSign => by_cases empty : peek tail = 0 <;> simp [atSign, star, notOne, empty]

/-- A variable that begins like a native one but is not goes on without what the
format wants there. -/
theorem not_matches_of_delimiter {tail : List Byte}
    (foreign : translator.matchesNativeBindFormat (translator.bindFormat.delimiter :: tail) =
      false) :
    translator.bindFormat ≠ .questionMark ∧ isDigit (peek tail) = false := by
  simp only [matchesNativeBindFormat, BindFormat.delimiter, peek_cons, beq_self_eq_true,
    Bool.true_and, Bool.or_eq_false_iff, List.drop_succ_cons, List.drop_zero] at foreign
  obtain ⟨⟨several, numbered⟩, named⟩ := foreign
  cases format : translator.bindFormat with
  | questionMark => simp [format, BindFormat.text, ascii] at several
  | dollarSign =>
      rw [format] at numbered
      exact ⟨by decide, by simpa [BindFormat.text, ascii, chr] using numbered⟩
  | colon | atSign =>
      rw [format] at named
      have notAlphanumeric : isAlphanumeric (peek tail) = false := by
        simpa [BindFormat.text, ascii, chr] using named
      rw [isAlphanumeric, Bool.or_eq_false_iff] at notAlphanumeric
      exact ⟨by decide, notAlphanumeric.2⟩

theorem emit_of_keepsTail {index : UInt16} {byte : Byte} {tail : List Byte}
    (keeps : translator.KeepsTail rewritten (byte :: tail)) :
    translator.emit rewritten index (byte :: tail) = translator.bindFormat.delimiter :: tail := by
  rcases keeps with ⟨native, noNul⟩ | ⟨foreign, format, notEmpty⟩
  · have sameDelimiter : byte = translator.bindFormat.delimiter := by
      simp only [matchesNativeBindFormat, peek_cons, Bool.and_eq_true, beq_iff_eq] at native
      exact native.1
    rw [emit, native, if_pos rfl, sameDelimiter]
    cases rewritten with
    | false => rfl
    | true => rw [if_pos rfl, contents_eq_self (sameDelimiter ▸ noNul rfl)]
  · rw [emit, foreign, if_neg (by simp), translateBindVariable_eq]
    rw [List.drop_succ_cons, List.drop_zero] at format notEmpty
    cases shape : translator.bindFormat with
    | questionMark => simp [shape] at format
    | dollarSign =>
        rw [shape] at format
        simp [format, notEmpty]
    | colon | atSign => simp [notEmpty]

/-- A variable whose tail is not kept is cut at a NUL or becomes a marker with a
number. -/
theorem emit_of_not_keepsTail (index : UInt16) {byte : Byte} {tail : List Byte}
    (drops : ¬translator.KeepsTail rewritten (byte :: tail)) :
    (0 ∈ byte :: tail ∧
      translator.emit rewritten index (byte :: tail) = contents (byte :: tail)) ∨
    ∃ digits, translator.emit rewritten index (byte :: tail) =
        translator.bindFormat.delimiter :: digits ∧
      translator.bindFormat.isMarker (translator.bindFormat.delimiter :: digits) = true ∧
      (∀ digit ∈ digits, isDigit digit = true) ∧
      (byte = translator.bindFormat.delimiter → digits ≠ [] ∧ isDigit (peek tail) = false) := by
  cases native : translator.matchesNativeBindFormat (byte :: tail) with
  | true =>
      left
      have cut : rewritten = true ∧ 0 ∈ byte :: tail := by
        by_contra kept
        exact drops (.inl ⟨native, fun on nul => kept ⟨on, nul⟩⟩)
      exact ⟨cut.2, by rw [emit, native, if_pos rfl, if_pos cut.1]⟩
  | false =>
      right
      have sameDelimiter (same : byte = translator.bindFormat.delimiter) :=
        not_matches_of_delimiter (same ▸ native)
      rw [emit, native, if_neg (by simp), translateBindVariable_eq]
      cases shape : translator.bindFormat with
      | questionMark =>
          refine ⟨[], rfl, by decide, by simp, fun same => ?_⟩
          exact absurd shape (sameDelimiter (shape ▸ same)).1
      | dollarSign =>
          have numbered : translator.isNumber (contents tail) = false ∨ peek tail = 0 := by
            by_contra other
            rw [not_or, Bool.not_eq_false] at other
            exact drops (.inr ⟨native, by rw [shape]; exact other.1, other.2⟩)
          refine ⟨decimal index, by simp only [numbered, if_true],
            isMarker_decimal index (by decide), fun _ => isDigit_of_mem_decimal, fun same => ?_⟩
          exact ⟨decimal_ne_nil index, (sameDelimiter (shape ▸ same)).2⟩
      | colon | atSign =>
          have numbered : peek tail = 0 := by
            by_contra other
            exact drops (.inr ⟨native, by rw [shape]; trivial, other⟩)
          refine ⟨decimal index, by simp only [numbered, if_true],
            isMarker_decimal index (by decide), fun _ => isDigit_of_mem_decimal, fun same => ?_⟩
          exact ⟨decimal_ne_nil index, (sameDelimiter (shape ▸ same)).2⟩

/-! ### Both scans across one marker -/

theorem advance_plain {scanned : ParseState} {prev byte : Byte} {rest : List Byte}
    (expected : scanned ≠ .beforeBind) (goesOn : afterBindVariable (byte :: rest) = false)
    (plain : byte ≠ quote ∧ afterQueryByte byte = .inQuery) :
    translator.scanner.advance scanned prev byte rest = scanned := by
  have notEnded : translator.scanner.ends (byte :: rest) = false := goesOn
  cases scanned with
  | inQuery => exact plain.2
  | inQuotes => simp [Scanner.advance, plain.1]
  | beforeBind => exact absurd rfl expected
  | inBind => simp [Scanner.advance, notEnded]

theorem written_name {scanned : ParseState} {index : UInt16} {name after : List Byte}
    (expected : scanned ≠ .beforeBind)
    (names : ∀ byte ∈ name, isBindVariableNameCharacter byte = true) (prev : Byte) :
    translator.written rewritten scanned prev index (name ++ after) =
      name ++ translator.written rewritten scanned (name.foldl nextPrev prev) index after := by
  induction name generalizing prev with
  | nil => rfl
  | cons byte name ih =>
      have isName := names byte (by simp)
      have goesOn : afterBindVariable (byte :: (name ++ after)) = false :=
        ends_name (scanner_runsLong translator) isName
      have plain := name_is_plain isName
      rw [List.cons_append, written_text fun before => absurd before expected,
        advance_plain expected goesOn ⟨plain.1, plain.2.1⟩,
        ih fun other member => names other (by simp [member]), List.cons_append, List.foldl_cons]

/-- Nothing is required of the bytes of a name, nor does it matter afterwards
that there was one. -/
theorem markersKeptFrom_name {scanned : ParseState} {name after : List Byte}
    (expected : scanned ≠ .beforeBind)
    (names : ∀ byte ∈ name, isBindVariableNameCharacter byte = true)
    (stops : afterName after = true) (prev : Byte) :
    translator.MarkersKeptFrom rewritten .inBind scanned prev (name ++ after) ↔
      translator.MarkersKeptFrom rewritten .inQuery scanned (name.foldl nextPrev prev) after := by
  have unasked {named : ParseState} {byte : Byte} {rest : List Byte} (other : named ≠ .beforeBind) :
      translator.MarkerKept rewritten named scanned byte rest := by
    simp [MarkerKept, other, expected]
  induction name generalizing prev with
  | nil =>
      cases after with
      | nil => simp [MarkersKeptFrom]
      | cons byte rest =>
          have ends : translator.nameScanner.ends (byte :: rest) = true := stops
          have advanced : translator.nameScanner.advance .inBind prev byte rest =
              translator.nameScanner.advance .inQuery prev byte rest := by
            simp [Scanner.advance, ends]
          simp [MarkersKeptFrom, unasked, advanced]
  | cons byte name ih =>
      have isName := names byte (by simp)
      have goesOn : afterBindVariable (byte :: (name ++ after)) = false :=
        ends_name (scanner_runsLong translator) isName
      have inName : translator.nameScanner.ends (byte :: (name ++ after)) = false :=
        afterName_cons isName
      have plain := name_is_plain isName
      have later := ih (fun other member => names other (by simp [member])) (nextPrev prev byte)
      rw [List.cons_append, MarkersKeptFrom, advance_plain expected goesOn ⟨plain.1, plain.2.1⟩,
        Scanner.advance, inName, if_neg (by simp), List.foldl_cons]
      exact (and_iff_right fun _ => unasked (by decide)).trans later

theorem advance_named_plain {named : ParseState} {prev byte : Byte} {rest : List Byte}
    (expected : named ≠ .beforeBind) (outside : named ≠ .inBind)
    (plain : byte ≠ quote ∧ afterQueryByte byte = .inQuery) :
    translator.nameScanner.advance named prev byte rest = named := by
  cases named with
  | inQuery => exact plain.2
  | inQuotes => simp [Scanner.advance, plain.1]
  | beforeBind => exact absurd rfl expected
  | inBind => exact absurd rfl outside

/-- Behind a bind variable the result is over or goes on with a byte that ends
bind variables. -/
theorem render_behind_bind (rewritten : Bool) (prev : Byte) (index : UInt16) (text : List Byte) :
    let result := translator.render rewritten index (translator.scanner.pieces .inBind prev text)
    result = [] ∨ ∃ byte later rest,
      result = byte :: later ∧ afterBindVariable (byte :: rest) = true := by
  obtain ⟨after, last, -, ended, later⟩ := takeBind_append translator.scanner prev text
  rw [later]
  cases after with
  | nil => exact .inl rfl
  | cons byte rest =>
      have shown : translator.render rewritten index
          (translator.scanner.pieces .inQuery last (byte :: rest)) =
            translator.written rewritten .inQuery last index (byte :: rest) := by
        simp [Translator.written]
      rw [shown, written_text (by simp)]
      exact .inr ⟨byte, _, rest, rfl, ended.resolve_left (List.cons_ne_nil _ _)⟩

theorem afterName_render_behind_bind (rewritten : Bool) (prev : Byte) (index : UInt16) (text : List Byte) :
    afterName (translator.render rewritten index (translator.scanner.pieces .inBind prev text)) =
      true := by
  rcases translator.render_behind_bind rewritten prev index text with
    nothing | ⟨byte, later, rest, equal, ends⟩
  · rw [nothing]
    decide
  · have stops : afterName (byte :: rest) = true := afterName_of_afterBindVariable ends
    rw [equal]
    exact stops

theorem afterName_written {scanned : ParseState} {prev : Byte} {index : UInt16}
    {after : List Byte} (expected : scanned ≠ .beforeBind) (stops : afterName after = true) :
    afterName (translator.written rewritten scanned prev index after) = true := by
  cases after with
  | nil =>
      have nothing : translator.written rewritten scanned prev index [] = [] := by
        simp [written, Scanner.pieces, Scanner.takeBind]
      rw [nothing]
      decide
  | cons byte rest =>
      rw [written_text fun before => absurd before expected]
      exact stops

/-- A result that begins with a delimiter and a name has its marker there. -/
theorem marker_at_front_iff {prev first : Byte} {name after result : List Byte}
    (names : ∀ byte ∈ name, isBindVariableNameCharacter byte = true)
    (stops : afterName after = true) (stopsResult : afterName result = true) :
    (∃ native rest, translator.bindFormat.isMarker native = true ∧
        first :: (name ++ result) = native ++ rest ∧
        Renders translator.bindFormat (translator.nameScanner.pieces .inQuery prev after) rest) ↔
      translator.bindFormat.isMarker (first :: name) = true ∧
        Renders translator.bindFormat (translator.nameScanner.pieces .inQuery prev after)
          result := by
  constructor
  · rintro ⟨native, rest, marker, equal, renders⟩
    obtain ⟨rfl, rfl⟩ := isMarker_append marker names (afterName_of_renders stops renders)
      stopsResult equal
    exact ⟨marker, renders⟩
  · rintro ⟨marker, renders⟩
    exact ⟨first :: name, result, marker, rfl, renders⟩

/-- A variable that is cut at a NUL leaves a hole in the result. -/
theorem not_renders_of_cut {named : ParseState} {prev byte : Byte} {index : UInt16}
    {rest : List Byte} (outside : named ≠ .inBind)
    (nul : 0 ∈ byte :: translator.scanner.takeBind rest) :
    ¬Renders translator.bindFormat (translator.nameScanner.pieces named prev (byte :: rest))
      (contents (byte :: translator.scanner.takeBind rest) ++
        translator.render rewritten index
          (translator.scanner.pieces .inBind (nextPrev prev byte) rest)) := by
  intro renders
  obtain ⟨more, cut⟩ := contents_append_nul nul
  obtain ⟨after, -, equal, -, -⟩ := takeBind_append translator.scanner (nextPrev prev byte) rest
  have split : byte :: rest =
      contents (byte :: translator.scanner.takeBind rest) ++ 0 :: (more ++ after) := by
    rw [← List.cons_append, ← List.append_assoc, ← cut, List.cons_append, ← equal]
  rw [split] at renders
  obtain ⟨later, behind⟩ := renders_nul outside (afterName_render_behind_bind _ _ _ _) renders
  rcases translator.render_behind_bind rewritten (nextPrev prev byte) index rest
    with nothing | ⟨first, _, following, equal, ends⟩
  · rw [nothing] at behind
    cases behind
  · rw [behind, List.cons.injEq] at equal
    rw [← equal.1, afterBindVariable_cons_iff] at ends
    rcases ends with ⟨-, member | ⟨colon, -⟩⟩
    · exact absurd member (by decide)
    · exact absurd colon (by decide)

theorem written_bind_of_keepsTail {prev byte : Byte} {index : UInt16} {rest : List Byte}
    (delimiter : isBindDelimiter translator.delimiters (byte :: rest) = true)
    (keeps : translator.KeepsTail rewritten (byte :: translator.scanner.takeBind rest)) :
    translator.written rewritten .beforeBind prev index (byte :: rest) =
      translator.bindFormat.delimiter ::
        translator.written rewritten .inBind (nextPrev prev byte) (index + 1) rest := by
  rw [written_bind delimiter, emit_of_keepsTail keeps, List.cons_append]
  simp [written]

/-! ## The exact condition -/

/-- Where the source takes text for a variable, it must keep all of it. -/
theorem not_renders_of_text {named : ParseState} {prev byte : Byte} {index : UInt16}
    {rest : List Byte} (outside : named ≠ .inBind) (isText : named ≠ .beforeBind)
    (delimiter : isBindDelimiter translator.delimiters (byte :: rest) = true)
    (lost : ¬(translator.KeepsTail rewritten (byte :: translator.scanner.takeBind rest) ∧
      byte = translator.bindFormat.delimiter)) :
    ¬Renders translator.bindFormat (translator.nameScanner.pieces named prev (byte :: rest))
      (translator.written rewritten .beforeBind prev index (byte :: rest)) := by
  by_cases keeps : translator.KeepsTail rewritten (byte :: translator.scanner.takeBind rest)
  · rw [written_bind_of_keepsTail delimiter keeps,
      renders_text_iff outside fun before => absurd before isText]
    rintro ⟨after, equal, -⟩
    rw [List.cons.injEq] at equal
    exact lost ⟨keeps, equal.1.symm⟩
  · rw [written_bind delimiter]
    rcases emit_of_not_keepsTail index keeps with
      ⟨nul, cut⟩ | ⟨digits, emitted, -, areDigits, foreign⟩
    · rw [cut]
      exact not_renders_of_cut outside nul
    · rw [emitted, List.cons_append, renders_text_iff outside fun before => absurd before isText]
      rintro ⟨after, equal, renders⟩
      rw [List.cons.injEq] at equal
      obtain ⟨same, rfl⟩ := equal
      obtain ⟨several, notDigit⟩ := foreign same.symm
      obtain ⟨digit, digits, rfl⟩ := List.exists_cons_of_ne_nil several
      have plain := delimiter_is_plain delimiter
      rw [advance_named_plain isText outside ⟨plain.2.1, plain.2.2.1⟩] at renders
      cases rest with
      | nil => cases renders
      | cons next rest =>
          rw [renders_text_iff outside fun before => absurd before isText] at renders
          obtain ⟨after, equal, -⟩ := renders
          rw [List.cons_append, List.cons.injEq] at equal
          have isDigitNext : isDigit next = true := equal.1 ▸ areDigits digit (by simp)
          have goesOn : translator.scanner.ends (next :: rest) = false :=
            ends_name (fun _ ends => afterName_of_afterBindVariable ends)
              (isDigit_isName isDigitNext)
          rw [Scanner.takeBind, goesOn, if_neg (by simp), peek_cons] at notDigit
          rw [notDigit] at isDigitNext
          cases isDigitNext

/-- Where the source takes a marker for a variable and does not keep its tail,
the variable must be the marker. -/
theorem renders_replaced_iff {prev byte : Byte} {index : UInt16} {name after : List Byte}
    (delimiter : isBindDelimiter translator.delimiters (byte :: (name ++ after)) = true)
    (names : ∀ byte ∈ name, isBindVariableNameCharacter byte = true)
    (stops : afterName after = true)
    (drops : ¬translator.KeepsTail rewritten
      (byte :: translator.scanner.takeBind (name ++ after))) :
    Renders translator.bindFormat
        (translator.nameScanner.pieces .beforeBind prev (byte :: (name ++ after)))
        (translator.written rewritten .beforeBind prev index (byte :: (name ++ after))) ↔
      translator.scanner.takeBind after = [] ∧
        Renders translator.bindFormat
          (translator.nameScanner.pieces .inQuery (name.foldl nextPrev (nextPrev prev byte)) after)
          (translator.written rewritten .inBind (name.foldl nextPrev (nextPrev prev byte))
            (index + 1) after) := by
  have runsLong := scanner_runsLong translator
  have behind := translator.afterName_render_behind_bind rewritten
    (name.foldl nextPrev (nextPrev prev byte)) (index + 1) after
  have isBind := takeBind_name runsLong names after
  rw [written_bind delimiter]
  rcases emit_of_not_keepsTail index drops with
    ⟨nul, cut⟩ | ⟨digits, emitted, marker, areDigits, -⟩
  · constructor
    · rw [cut]
      exact fun renders => absurd renders (not_renders_of_cut (by decide) nul)
    · rintro ⟨clean, -⟩
      rw [isBind, clean, List.append_nil, List.mem_cons] at nul
      rcases nul with nul | member
      · exact absurd nul.symm (delimiter_is_plain delimiter).2.2.2
      · exact absurd rfl (name_is_plain (names 0 member)).2.2
  · rw [emitted, List.cons_append, pieces_name runsLong names,
      renders_marker_iff delimiter names stops,
      marker_at_front_iff (fun _ member => isDigit_isName (areDigits _ member)) stops behind,
      and_iff_right marker]
    by_cases clean : translator.scanner.takeBind after = []
    · simp [clean, written]
    · simp only [clean, false_and, iff_false]
      cases after with
      | nil => exact absurd rfl clean
      | cons next rest =>
          refine not_renders_of_goesOn ?_ (by simpa [afterName] using stops)
          rw [Scanner.takeBind] at clean
          exact Bool.eq_false_iff.mpr fun ends => clean (if_pos ends)

theorem advance_delimiter {scanner : Scanner} {prev byte : Byte} {rest : List Byte}
    (delimiter : isBindDelimiter scanner.delimiters (byte :: rest) = true) :
    scanner.advance .beforeBind prev byte rest = .inBind := by
  simp [Scanner.advance, delimiter]

/-- From any two states of the scans, the rest of the result renders the rest of
the query exactly if every marker in it is kept. -/
theorem renders_written_iff {named scanned : ParseState} (outside : named ≠ .inBind)
    (prev : Byte) (index : UInt16) (text : List Byte) :
    Renders translator.bindFormat (translator.nameScanner.pieces named prev text)
        (translator.written rewritten scanned prev index text) ↔
      translator.MarkersKeptFrom rewritten named scanned prev text := by
  induction size : text.length using Nat.strongRecOn generalizing named scanned prev index text with
  | ind size ih =>
  cases text with
  | nil => simp [Scanner.pieces, Renders, written, Scanner.takeBind, MarkersKeptFrom]
  | cons byte rest =>
  rw [List.length_cons] at size
  rw [MarkersKeptFrom]
  cases delimiter : isBindDelimiter translator.delimiters (byte :: rest) with
  | false =>
      rw [renders_text_iff outside fun _ => delimiter, written_text fun _ => delimiter]
      simp only [List.cons.injEq, true_and, exists_eq_left', Bool.false_eq_true, false_imp_iff]
      exact ih _ (by omega) (advance_ne_inBind outside fun _ => delimiter) _ _ _ rfl
  | true =>
  rw [eq_self_iff_true, true_imp_iff]
  have plain := delimiter_is_plain delimiter
  by_cases isText : named = .beforeBind
  · -- a marker of the query
    subst isText
    obtain ⟨after, equal, stops, names⟩ := takeBind_afterName translator rest
    generalize isName : translator.nameScanner.takeBind rest = name at equal names
    subst equal
    rw [List.length_append] at size
    rw [@advance_delimiter translator.nameScanner _ _ _ delimiter]
    by_cases scans : scanned = .beforeBind
    · subst scans
      have isBind := takeBind_name (scanner_runsLong translator) names after
      rw [@advance_delimiter translator.scanner _ _ _ delimiter, markersKeptFrom_name (by decide) names stops,
        ← ih after.length (by omega) (by decide) _ (index + 1) after rfl]
      by_cases keeps : translator.KeepsTail rewritten
          (byte :: translator.scanner.takeBind (name ++ after))
      · rw [written_bind_of_keepsTail delimiter keeps, written_name (by decide) names,
          renders_marker_iff delimiter names stops,
          marker_at_front_iff names stops (afterName_written (by decide) stops)]
        simp [MarkerKept, keeps, isName]
      · rw [renders_replaced_iff delimiter names stops keeps]
        rw [isBind] at keeps
        simp [MarkerKept, keeps, isName, isBind]
    · rw [advance_plain scans plain.1 ⟨plain.2.1, plain.2.2.1⟩,
        written_text fun before => absurd before scans,
        advance_plain scans plain.1 ⟨plain.2.1, plain.2.2.1⟩, written_name scans names,
        renders_marker_iff delimiter names stops,
        marker_at_front_iff names stops (afterName_written scans stops),
        markersKeptFrom_name scans names stops,
        ← ih after.length (by omega) (by decide) _ index after rfl]
      simp [MarkerKept, scans, isName]
  · -- text of the query
    have later : translator.nameScanner.advance named prev byte rest ≠ .inBind :=
      advance_ne_inBind outside fun before => absurd before isText
    by_cases scans : scanned = .beforeBind
    · subst scans
      by_cases kept : translator.KeepsTail rewritten (byte :: translator.scanner.takeBind rest) ∧
          byte = translator.bindFormat.delimiter
      · obtain ⟨keeps, same⟩ := kept
        rw [written_bind_of_keepsTail delimiter keeps, ← same,
          renders_text_iff outside fun before => absurd before isText,
          @advance_delimiter translator.scanner _ _ _ delimiter,
          ← ih rest.length (by omega) later _ (index + 1) rest rfl]
        have required : translator.MarkerKept rewritten named .beforeBind byte rest :=
          ⟨fun before => absurd before isText, fun before => absurd before isText,
            fun _ _ => ⟨keeps, same⟩⟩
        simp [required]
      · exact iff_of_false (not_renders_of_text outside isText delimiter kept)
          fun all => kept (all.1.2.2 isText rfl)
    · rw [renders_text_iff outside fun before => absurd before isText,
        written_text fun before => absurd before scans,
        ← ih rest.length (by omega) later _ index rest rfl]
      simp [MarkerKept, isText, scans]

end Translator

/-- Whenever the result fits the query buffer, it differs from the query only in
its markers exactly if every marker is kept. -/
theorem translateBindVariables_preserves_iff (translator : Translator) (query : List Byte)
    (fits : (translator.translatedText query).length ≤ translator.maxQuerySize) :
    translator.PreservesQuery query (translator.translateBindVariables query).1 ↔
      translator.MarkersKept query := by
  have result : translator.translatedText query =
      translator.written (translator.translates (translator.pieces query)) .inQuery 0 1 query := by
    simp [Translator.translatedText, Translator.written, Translator.pieces]
  rw [translator.translateBindVariables_of_fits query fits, result]
  exact Translator.renders_written_iff (by decide) 0 1 query

/-- Queries for a database with `?` markers, all delimiters accepted. -/
def questionMarkTranslator : Translator where
  delimiters := ⟨true, true, true, true⟩
  backslashEscapesQuotes := false
  bindFormat := .questionMark
  maxQuerySize := 65536
  isNumber := fun text => text != [] && text.all isDigit

theorem translateBindVariables_preserves_iff_select :
    (questionMarkTranslator.translatedText (ascii "select :a, 'b :c' from t where d=:d")).length ≤
        questionMarkTranslator.maxQuerySize ∧
      (questionMarkTranslator.PreservesQuery (ascii "select :a, 'b :c' from t where d=:d")
          (questionMarkTranslator.translateBindVariables
            (ascii "select :a, 'b :c' from t where d=:d")).1 ↔
        questionMarkTranslator.MarkersKept (ascii "select :a, 'b :c' from t where d=:d")) :=
  ⟨by decide, translateBindVariables_preserves_iff questionMarkTranslator
    (ascii "select :a, 'b :c' from t where d=:d") (by decide)⟩

/-- Of `select :a+:b` the second operand disappears. -/
theorem translateBindVariables_drops_operand :
    ¬∀ (translator : Translator) (query : List Byte),
      (translator.translatedText query).length ≤ translator.maxQuerySize →
        translator.PreservesQuery query (translator.translateBindVariables query).1 := by
  intro every
  have renders := every questionMarkTranslator (ascii "select :a+:b") (by decide)
  have result : (questionMarkTranslator.translateBindVariables (ascii "select :a+:b")).1 =
      ascii "select ?" := by
    decide
  rw [result] at renders
  exact absurd renders.length_le (by decide)

end SqlRelay.Bind
