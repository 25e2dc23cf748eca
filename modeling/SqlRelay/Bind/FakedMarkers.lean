import Mathlib.Data.List.TakeWhile
import SqlRelay.Bind.Counting
import SqlRelay.Bind.FakedBinds

/-!
# Faked input binds: which markers are replaced

What `fakeInputBinds` should write is read off the markers of the query, where a marker ends with
its name and the question marks are counted.  The loop writes the same, whatever the values are, if
its comparison picks the bind variable that each marker names.
-/

namespace SqlRelay.Bind

open SqlRelay.Foundation SqlRelay.Foundation.CString SqlRelay.Foundation.QuotedLiteral

/-! ## What is meant -/

def isQuestionMark (marker : List Byte) : Bool := marker.head? == some (chr '?')

/-- The bind variable that a marker names: a question mark the one with its number, another marker
the one of its name.  `asked` question marks come before. -/
def isNamedBy (asked : Nat) (marker name : List Byte) : Bool :=
  if isQuestionMark marker then convertToInteger (name.drop 1) == ((asked + 1 : Nat) : Int)
  else name.drop 1 == marker.drop 1

/-- A question mark is followed by text, not by a name. -/
def behindMark (marker : List Byte) : List Byte :=
  if isQuestionMark marker then marker.drop 1 else []

/-- The question marks so far. -/
def askedAfter (asked : Nat) (marker : List Byte) : Nat :=
  if isQuestionMark marker then asked + 1 else asked

namespace BindFaker

variable (faker : BindFaker)

/-- The scan that ends a marker with its name. -/
def nameScanner : Scanner := ⟨faker.delimiters, faker.backslashEscapesQuotes, afterName⟩

/-- The literal of the bind variable in place of each marker that names one. -/
def intended (binds : List BindVar) : (asked : Nat) → List Piece → List Byte
  | _, [] => []
  | asked, .text byte :: later => byte :: intended binds asked later
  | asked, .bind marker :: later =>
      (match binds.find? fun bind => isNamedBy asked marker bind.name with
        | some bind => performSubstitution faker.unicodeStrings bind.value ++ behindMark marker
        | none => marker) ++ intended binds (askedAfter asked marker) later

/-- The query that is sent: without input binds it is the query itself. -/
def fakedQuery (binds : List BindVar) (query : List Byte) : List Byte :=
  if binds = [] then query else faker.fakeInputBinds binds query

end BindFaker

/-! ## The condition -/

/-- The comparison of the source, by the name alone. -/
def nameIsAt (bindIndex : Nat) (text name : List Byte) : Bool :=
  BindVar.isAt bindIndex text ⟨name, .null⟩

/-- The bind variable that the marker names passes the comparison of the source, and the first one
that passes is one that the marker names.  The source counts the `replaced` markers. -/
structure Clear (names : List (List Byte)) (asked replaced : Nat) (marker after : List Byte) :
    Prop where
  taken : ∀ name, names.find? (isNamedBy asked marker) = some name →
    nameIsAt (replaced + 1) (marker ++ after) name = true
  meant : ∀ name, names.find? (nameIsAt (replaced + 1) (marker ++ after)) = some name →
    isNamedBy asked marker name = true

/-- The markers replaced so far. -/
def replacedAfter (names : List (List Byte)) (asked replaced : Nat) (marker : List Byte) : Nat :=
  if (names.find? (isNamedBy asked marker)).isSome then replaced + 1 else replaced

/-- `Clear` at every marker. -/
def ClearFrom (names : List (List Byte)) : (asked replaced : Nat) → List Piece → Prop
  | _, _, [] => True
  | asked, replaced, .text _ :: later => ClearFrom names asked replaced later
  | asked, replaced, .bind marker :: later =>
      Clear names asked replaced marker (later.flatMap Piece.bytes) ∧
        ClearFrom names (askedAfter asked marker) (replacedAfter names asked replaced marker) later

/-- Two searches of one list find the same if what either finds passes for the other. -/
theorem find?_eq_iff {Element : Type} (list : List Element) (first second : Element → Bool) :
    list.find? first = list.find? second ↔
      (∀ element, list.find? second = some element → first element = true) ∧
        ∀ element, list.find? first = some element → second element = true := by
  constructor
  · intro same
    constructor
    · intro element found
      exact List.find?_some (same.trans found)
    · intro element found
      exact List.find?_some (same.symm.trans found)
  · intro passes
    induction list with
    | nil => rfl
    | cons element list ih =>
        rw [List.find?_cons, List.find?_cons] at *
        cases isFirst : first element with
        | true =>
            have isSecond := passes.2 element (by simp [isFirst])
            simp [isSecond]
        | false =>
            cases isSecond : second element with
            | true =>
                have isFirst' := passes.1 element (by simp [isSecond])
                rw [isFirst] at isFirst'
                cases isFirst'
            | false =>
                simp only [isFirst, isSecond] at passes ⊢
                exact ih passes

theorem clear_iff {names : List (List Byte)} {asked replaced : Nat} {marker after : List Byte} :
    Clear names asked replaced marker after ↔
      names.find? (nameIsAt (replaced + 1) (marker ++ after)) =
        names.find? (isNamedBy asked marker) := by
  rw [find?_eq_iff]
  constructor
  · intro clear
    exact ⟨clear.taken, clear.meant⟩
  · intro both
    exact ⟨both.1, both.2⟩

/-! ## Reading past a name -/

theorem nextPrev_ne_backslash {prev byte : Byte} (ordinary : byte ≠ backslash) :
    nextPrev prev byte ≠ backslash := by
  simp [nextPrev, ordinary]

theorem name_ne_backslash {byte : Byte} (isName : isBindVariableNameCharacter byte = true) :
    byte ≠ backslash := by
  intro same
  rw [same] at isName
  exact absurd isName (by decide)

theorem foldl_nextPrev_ne_backslash {name : List Byte} {prev : Byte} (ordinary : prev ≠ backslash)
    (names : ∀ byte ∈ name, isBindVariableNameCharacter byte = true) :
    name.foldl nextPrev prev ≠ backslash := by
  induction name generalizing prev with
  | nil => exact ordinary
  | cons byte name ih =>
      rw [List.forall_mem_cons] at names
      exact ih (nextPrev_ne_backslash (name_ne_backslash names.1)) names.2

theorem takeBind_eq_takeWhile {scanner : Scanner} (ends : scanner.ends = afterName)
    (text : List Byte) : scanner.takeBind text = text.takeWhile isBindVariableNameCharacter := by
  induction text with
  | nil => rfl
  | cons byte rest ih =>
      rw [Scanner.takeBind, ends, List.takeWhile_cons, ih]
      cases isName : isBindVariableNameCharacter byte <;> simp [afterName, isName]

theorem afterName_dropWhile (text : List Byte) :
    text.dropWhile isBindVariableNameCharacter = [] ∨
      afterName (text.dropWhile isBindVariableNameCharacter) = true := by
  cases after : text.dropWhile isBindVariableNameCharacter with
  | nil => exact Or.inl rfl
  | cons byte rest =>
      apply Or.inr
      have stops := List.head?_dropWhile_not isBindVariableNameCharacter text
      rw [after] at stops
      simpa [afterName] using stops

/-- Only whether the byte before is a backslash makes a difference. -/
theorem pieces_inQuery_congr (scanner : Scanner) {prev last : Byte} (ordinary : prev ≠ backslash)
    (other : last ≠ backslash) (text : List Byte) :
    scanner.pieces .inQuery prev text = scanner.pieces .inQuery last text := by
  cases text with
  | nil => rfl
  | cons byte rest =>
      rw [pieces_text (Or.inl rfl), pieces_text (Or.inl rfl)]
      simp [nextPrev, ordinary, other]

/-- The delimiters are the bytes of the kinds. -/
theorem delimiter_ne_of_not_kind {delimiters : Delimiters} {byte other : Byte} {rest : List Byte}
    (delimiter : isBindDelimiter delimiters (byte :: rest) = true)
    (notKind : ∀ kind : Kind, kind.byte ≠ other) : byte ≠ other := by
  obtain ⟨kind, -, only⟩ := (isBindDelimiter_iff _ _).mp delimiter
  rw [((isBindDelimiter_only _ _ _).mp only).1]
  exact notKind kind

theorem delimiter_ne_backslash {delimiters : Delimiters} {byte : Byte} {rest : List Byte}
    (delimiter : isBindDelimiter delimiters (byte :: rest) = true) : byte ≠ backslash := by
  apply delimiter_ne_of_not_kind delimiter
  intro kind
  cases kind <;> decide

theorem pieces_named {scanner : Scanner} (ends : scanner.ends = afterName) {prev last byte : Byte}
    {rest : List Byte} (delimiter : isBindDelimiter scanner.delimiters (byte :: rest) = true)
    (ordinary : last ≠ backslash) :
    scanner.pieces .beforeBind prev (byte :: rest) =
      .bind (byte :: rest.takeWhile isBindVariableNameCharacter) ::
        scanner.pieces .inQuery last (rest.dropWhile isBindVariableNameCharacter) := by
  have names : ∀ other ∈ rest.takeWhile isBindVariableNameCharacter,
      isBindVariableNameCharacter other = true := fun _ => List.mem_takeWhile_imp
  have notBackslash := delimiter_ne_backslash delimiter
  rw [pieces_marker delimiter, takeBind_eq_takeWhile ends]
  congr 1
  conv_lhs => rw [← List.takeWhile_append_dropWhile (p := isBindVariableNameCharacter) (l := rest)]
  rw [pieces_name (fun text stops => by rwa [ends] at stops) names, pieces_inBind_of_ends]
  · apply pieces_inQuery_congr scanner _ ordinary
    exact foldl_nextPrev_ne_backslash (nextPrev_ne_backslash notBackslash) names
  · rw [ends]
    exact afterName_dropWhile rest

/-! ## The loop -/

namespace BindFaker

variable {faker : BindFaker} {binds : List BindVar}

theorem loop_passOver (passed : List Byte) (state : ParseState) (prev : Byte) (index : Nat)
    (after : List Byte) :
    faker.loop binds passed.length state prev index (passed ++ after) =
      faker.loop binds 0 state prev index after := by
  induction passed with
  | nil => rfl
  | cons byte passed ih => rw [List.cons_append, List.length_cons, loop, ih]

theorem loop_text {state : ParseState} {prev byte : Byte} {index : Nat} {rest : List Byte}
    (outside : state = .inQuery ∨
      (state = .beforeBind ∧ isBindDelimiter faker.delimiters (byte :: rest) = false)) :
    faker.loop binds 0 state prev index (byte :: rest) =
      byte :: faker.loop binds 0 (afterQueryByte byte) (nextPrev prev byte) index rest := by
  obtain rfl | ⟨rfl, noDelimiter⟩ := outside
  · simp [loop]
  · simp [loop, noDelimiter]

theorem loop_quoted {prev byte : Byte} {index : Nat} {rest : List Byte} :
    faker.loop binds 0 .inQuotes prev index (byte :: rest) =
      byte :: faker.loop binds 0
        (if byte = quote ∧ (faker.backslashEscapesQuotes = false ∨ prev ≠ backslash) then .inQuery
          else .inQuotes) (nextPrev prev byte) index rest := by
  simp [loop]

theorem loop_inQuery_congr {prev last : Byte} (ordinary : prev ≠ backslash)
    (other : last ≠ backslash) (index : Nat) (text : List Byte) :
    faker.loop binds 0 .inQuery prev index text = faker.loop binds 0 .inQuery last index text := by
  cases text with
  | nil => rfl
  | cons byte rest =>
      rw [loop_text (Or.inl rfl), loop_text (Or.inl rfl)]
      simp [nextPrev, ordinary, other]

/-- A name is copied as text. -/
theorem loop_name {name : List Byte} {prev last : Byte} {index : Nat} (ordinary : prev ≠ backslash)
    (other : last ≠ backslash)
    (names : ∀ byte ∈ name, isBindVariableNameCharacter byte = true) (after : List Byte) :
    faker.loop binds 0 .inQuery prev index (name ++ after) =
      name ++ faker.loop binds 0 .inQuery last index after := by
  induction name generalizing prev with
  | nil => exact loop_inQuery_congr ordinary other index after
  | cons byte name ih =>
      rw [List.forall_mem_cons] at names
      rw [List.cons_append, loop_text (Or.inl rfl), (name_is_plain names.1).2.1,
        ih (nextPrev_ne_backslash (name_ne_backslash names.1)) names.2, List.cons_append]

/-- What the loop writes at a marker. -/
theorem loop_marker {prev byte : Byte} {index : Nat} {rest : List Byte}
    (delimiter : isBindDelimiter faker.delimiters (byte :: rest) = true) :
    faker.loop binds 0 .beforeBind prev index (byte :: rest) =
      match binds.find? (fun bind => nameIsAt index (byte :: rest) bind.name) with
      | some bind =>
          performSubstitution faker.unicodeStrings bind.value ++
            faker.loop binds (if byte = chr '?' then 0 else bind.name.length - 1) .inQuery prev
              (index + 1) rest
      | none => byte :: faker.loop binds 0 .inQuery (nextPrev prev byte) index rest := by
  have plain := (delimiter_is_plain delimiter).2.2.1
  have same : (fun bind : BindVar => nameIsAt index (byte :: rest) bind.name) =
      BindVar.isAt index (byte :: rest) := rfl
  rw [same]
  cases found : binds.find? (BindVar.isAt index (byte :: rest)) with
  | none => simp [loop, delimiter, plain, found]
  | some bind => simp [loop, delimiter, found]

theorem find?_names (binds : List BindVar) (passes : List Byte → Bool) :
    (binds.map BindVar.name).find? passes =
      (binds.find? fun bind => passes bind.name).map BindVar.name := by
  rw [List.find?_map]
  rfl

/-- Where the comparison picks what the marker names, the loop does at the marker what is meant. -/
theorem loop_marker_of_clear {prev last byte : Byte} {asked replaced : Nat} {rest : List Byte}
    (delimiter : isBindDelimiter faker.delimiters (byte :: rest) = true)
    (ordinary : prev ≠ backslash) (other : last ≠ backslash)
    {name after : List Byte} (parts : rest = name ++ after)
    (names : ∀ byte ∈ name, isBindVariableNameCharacter byte = true)
    (clear : Clear (binds.map BindVar.name) asked replaced (byte :: name) after) :
    faker.loop binds 0 .beforeBind prev (replaced + 1) (byte :: rest) =
      (match binds.find? fun bind => isNamedBy asked (byte :: name) bind.name with
        | some bind =>
            performSubstitution faker.unicodeStrings bind.value ++ behindMark (byte :: name)
        | none => byte :: name) ++
      faker.loop binds 0 .inQuery last
        (replacedAfter (binds.map BindVar.name) asked replaced (byte :: name) + 1) after := by
  have same : binds.find? (fun bind => nameIsAt (replaced + 1) (byte :: rest) bind.name) =
      binds.find? fun bind => isNamedBy asked (byte :: name) bind.name := by
    rw [find?_eq_iff]
    constructor
    · intro bind found
      have taken := clear.taken bind.name (by rw [find?_names, found]; rfl)
      rwa [List.cons_append, ← parts] at taken
    · intro bind found
      apply clear.meant
      rw [List.cons_append, ← parts, find?_names, found]
      rfl
  rw [loop_marker delimiter, same, replacedAfter, find?_names]
  cases found : binds.find? fun bind => isNamedBy asked (byte :: name) bind.name with
  | none =>
      have notBackslash : nextPrev prev byte ≠ backslash :=
        nextPrev_ne_backslash (delimiter_ne_backslash delimiter)
      simp [parts, loop_name notBackslash other names]
  | some bind =>
      have named : isNamedBy asked (byte :: name) bind.name = true := by
        simpa using List.find?_some found
      by_cases question : byte = chr '?'
      · simp [behindMark, isQuestionMark, question, parts, loop_name ordinary other names]
      · have isName : bind.name.drop 1 = name := by
          simpa [isNamedBy, isQuestionMark, question] using named
        have length : bind.name.length - 1 = name.length := by
          rw [← isName, List.length_drop]
        have passed := (@loop_passOver faker binds name .inQuery prev (replaced + 2) after).trans
          (loop_inQuery_congr ordinary other (replaced + 2) after)
        simpa [behindMark, isQuestionMark, question, parts, length] using passed

/-- Where the comparison picks something else than the marker names, there are values for which the
first bytes that are written differ. -/
theorem exists_values_of_not_clear {names : List (List Byte)} {prev byte : Byte}
    {asked replaced : Nat} {rest : List Byte}
    (delimiter : isBindDelimiter faker.delimiters (byte :: rest) = true)
    {name after : List Byte} (parts : rest = name ++ after)
    (mixed : ¬Clear names asked replaced (byte :: name) after) :
    ∃ binds : List BindVar, binds.map BindVar.name = names ∧ ∀ later,
      faker.loop binds 0 .beforeBind prev (replaced + 1) (byte :: rest) ≠
        (match binds.find? fun bind => isNamedBy asked (byte :: name) bind.name with
          | some bind =>
              performSubstitution faker.unicodeStrings bind.value ++ behindMark (byte :: name)
          | none => byte :: name) ++ later := by
  rw [clear_iff, List.cons_append, ← parts] at mixed
  have notDigit : byte ≠ chr '1' ∧ byte ≠ chr '2' := by
    constructor
    · apply delimiter_ne_of_not_kind delimiter
      intro kind
      cases kind <;> decide
    · apply delimiter_ne_of_not_kind delimiter
      intro kind
      cases kind <;> decide
  -- every value is 1, but that of the bind variable that the marker names
  let digit (picked : List Byte) : Byte :=
    if names.find? (isNamedBy asked (byte :: name)) = some picked then chr '2' else chr '1'
  let bound (picked : List Byte) : BindVar := ⟨picked, .integer [digit picked]⟩
  have found : ∀ passes : List Byte → Bool,
      (names.map bound).find? (fun bind => passes bind.name) = (names.find? passes).map bound := by
    intro passes
    rw [List.find?_map]
    rfl
  refine ⟨names.map bound, by simp [bound, Function.comp_def], ?_⟩
  intro later same
  rw [loop_marker delimiter, found, found] at same
  have heads := congrArg List.head? same
  cases taken : names.find? (nameIsAt (replaced + 1) (byte :: rest)) with
  | none =>
      cases meant : names.find? (isNamedBy asked (byte :: name)) with
      | none => exact mixed (taken.trans meant.symm)
      | some picked =>
          have first : byte = digit picked := by
            simpa [taken, meant, bound, performSubstitution] using heads
          exact notDigit.2 (first.trans (if_pos meant))
  | some other =>
      cases meant : names.find? (isNamedBy asked (byte :: name)) with
      | none =>
          have first : digit other = byte := by
            simpa [taken, meant, bound, performSubstitution] using heads
          exact notDigit.1 (first.symm.trans (if_neg (by simp [meant])))
      | some picked =>
          have first : digit other = digit picked := by
            simpa [taken, meant, bound, performSubstitution] using heads
          have different : other ≠ picked := by
            intro equal
            exact mixed (by rw [taken, meant, equal])
          have isOne : digit other = chr '1' :=
            if_neg (by rw [meant, Option.some.injEq]; exact different.symm)
          rw [isOne, show digit picked = chr '2' from if_pos meant] at first
          exact absurd first (by decide)

theorem before_ne_backslash {prev byte : Byte} (before : afterQueryByte byte = .beforeBind) :
    nextPrev prev byte ≠ backslash := by
  apply nextPrev_ne_backslash
  intro same
  rw [same] at before
  exact absurd before (by decide)

theorem flatMap_pieces_inQuery (scanner : Scanner) (prev : Byte) (text : List Byte) :
    (scanner.pieces .inQuery prev text).flatMap Piece.bytes = text := by
  simpa using scanner.flatMap_pieces .inQuery prev text

/-- From the same state on, the loop writes what is meant, whatever the values are, exactly if the
markers that are left are clear. -/
theorem loop_eq_intended_iff {names : List (List Byte)} {state : ParseState} {prev : Byte}
    {asked replaced : Nat} {text : List Byte} (outside : state ≠ .inBind)
    (ordinary : state = .beforeBind → prev ≠ backslash) :
    (∀ binds : List BindVar, binds.map BindVar.name = names →
        faker.loop binds 0 state prev (replaced + 1) text =
          faker.intended binds asked (faker.nameScanner.pieces state prev text)) ↔
      ClearFrom names asked replaced (faker.nameScanner.pieces state prev text) := by
  induction size : text.length using Nat.strong_induction_on
    generalizing state prev asked replaced text with
  | _ bound ih =>
  cases text with
  | nil => simp [loop, Scanner.pieces, intended, ClearFrom]
  | cons byte rest =>
      have shorter : rest.length < bound := by
        rw [← size, List.length_cons]
        exact Nat.lt_succ_self _
      have textStep : ∀ next : ParseState, next ≠ .inBind →
          (next = .beforeBind → nextPrev prev byte ≠ backslash) →
          ((∀ binds : List BindVar, binds.map BindVar.name = names →
              byte :: faker.loop binds 0 next (nextPrev prev byte) (replaced + 1) rest =
                faker.intended binds asked
                  (.text byte :: faker.nameScanner.pieces next (nextPrev prev byte) rest)) ↔
            ClearFrom names asked replaced
              (.text byte :: faker.nameScanner.pieces next (nextPrev prev byte) rest)) := by
        intro next notInBind before
        rw [ClearFrom, ← ih _ shorter notInBind before rfl]
        apply forall_congr'
        intro binds
        rw [intended, List.cons.injEq, and_iff_right rfl]
      cases state with
      | inBind => exact absurd rfl outside
      | inQuery =>
          simp only [loop_text (Or.inl rfl), pieces_text (Or.inl rfl)]
          exact textStep _ (afterQueryByte_ne_inBind byte) before_ne_backslash
      | inQuotes =>
          simp only [loop_quoted, pieces_quoted]
          apply textStep
          · split <;> decide
          · intro isBefore
            split at isBefore <;> cases isBefore
      | beforeBind =>
          cases delimiter : isBindDelimiter faker.delimiters (byte :: rest) with
          | false =>
              simp only [loop_text (Or.inr ⟨rfl, delimiter⟩)]
              rw [pieces_text (Or.inr ⟨rfl, delimiter⟩)]
              exact textStep _ (afterQueryByte_ne_inBind byte) before_ne_backslash
          | true =>
              have notBackslash := ordinary rfl
              have parts := (List.takeWhile_append_dropWhile
                (p := isBindVariableNameCharacter) (l := rest)).symm
              have isName : ∀ other ∈ rest.takeWhile isBindVariableNameCharacter,
                  isBindVariableNameCharacter other = true :=
                fun _ => List.mem_takeWhile_imp
              rw [@pieces_named faker.nameScanner rfl prev prev byte rest delimiter notBackslash]
              rw [ClearFrom, flatMap_pieces_inQuery]
              by_cases clear : Clear names asked replaced
                (byte :: rest.takeWhile isBindVariableNameCharacter)
                (rest.dropWhile isBindVariableNameCharacter)
              · have behind : (rest.dropWhile isBindVariableNameCharacter).length < bound :=
                  Nat.lt_of_le_of_lt (List.length_dropWhile_le _ _) shorter
                rw [and_iff_right clear, ← ih _ behind (by decide) (fun _ => notBackslash) rfl]
                apply forall_congr'
                intro binds
                apply imp_congr_right
                rintro rfl
                rw [loop_marker_of_clear delimiter notBackslash notBackslash parts isName clear,
                  intended, List.append_cancel_left_eq]
              · apply iff_of_false
                · intro every
                  obtain ⟨binds, sameNames, differs⟩ := @exists_values_of_not_clear faker names
                    prev byte asked replaced rest delimiter _ _ parts clear
                  exact differs _ (every binds sameNames)
                · exact fun both => clear both.1

/-- The condition for a query and the names of the binds. -/
def MarkersClear (faker : BindFaker) (names : List (List Byte)) (query : List Byte) : Prop :=
  (query = [] → names = []) ∧
    ClearFrom names 0 0 (faker.nameScanner.pieces .inQuery 0 query)

theorem intended_nil (asked : Nat) (pieces : List Piece) :
    faker.intended [] asked pieces = pieces.flatMap Piece.bytes := by
  induction pieces generalizing asked with
  | nil => rfl
  | cons piece later ih => cases piece <;> simp [intended, ih, Piece.bytes]

theorem clearFrom_nil (asked replaced : Nat) (pieces : List Piece) :
    ClearFrom [] asked replaced pieces := by
  induction pieces generalizing asked replaced with
  | nil => trivial
  | cons piece later ih =>
      cases piece with
      | text byte => exact ih asked replaced
      | bind marker => exact ⟨clear_iff.mpr rfl, ih _ _⟩

/-- What is sent is what is meant, whatever the values are, exactly if every marker is clear. -/
theorem fakedQuery_eq_intended_iff (faker : BindFaker) (names : List (List Byte))
    (query : List Byte) :
    (∀ binds : List BindVar, binds.map BindVar.name = names →
        faker.fakedQuery binds query =
          faker.intended binds 0 (faker.nameScanner.pieces .inQuery 0 query)) ↔
      faker.MarkersClear names query := by
  cases names with
  | nil =>
      apply iff_of_true
      · intro binds sameNames
        rw [List.map_eq_nil_iff] at sameNames
        rw [sameNames, intended_nil, flatMap_pieces_inQuery]
        rfl
      · exact ⟨fun _ => rfl, clearFrom_nil _ _ _⟩
  | cons name names =>
      have bound : ∀ binds : List BindVar, binds.map BindVar.name = name :: names → binds ≠ [] := by
        intro binds sameNames isNil
        simp [isNil] at sameNames
      cases query with
      | nil =>
          apply iff_of_false
          · intro every
            let binds := (name :: names).map fun bind => BindVar.mk bind .null
            have sameNames : binds.map BindVar.name = name :: names := by
              simp [binds, Function.comp_def]
            have written := every binds sameNames
            rw [fakedQuery, if_neg (bound binds sameNames)] at written
            simp [fakeInputBinds, Scanner.pieces, intended] at written
          · intro clear
            exact absurd (clear.1 rfl) (by simp)
      | cons byte rest =>
          have run := @loop_eq_intended_iff faker (name :: names) .inQuery 0 0 0 (byte :: rest)
            (by decide) (fun _ => by decide)
          rw [MarkersClear, and_iff_right (fun isNil => by cases isNil), ← run]
          apply forall_congr'
          intro binds
          apply imp_congr_right
          intro sameNames
          rw [fakedQuery, if_neg (bound binds sameNames), fakeInputBinds, if_neg (by simp)]

/-- A plus sign behind a marker keeps it from being replaced. -/
theorem operand_not_replaced :
    ¬∀ (faker : BindFaker) (binds : List BindVar) (query : List Byte),
      faker.fakedQuery binds query =
        faker.intended binds 0 (faker.nameScanner.pieces .inQuery 0 query) := by
  intro every
  exact absurd (every ⟨⟨true, true, true, true⟩, false, false⟩
    [⟨ascii ":a", .integer (ascii "1")⟩] (ascii "select :a+1")) (by decide)

end BindFaker

end SqlRelay.Bind
