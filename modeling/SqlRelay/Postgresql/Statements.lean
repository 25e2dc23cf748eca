import SqlRelay.Postgresql.Splitting

/-!
# Which strings are split where they should be

The module knows literals, if it may look at enough bytes to find their ends, and no comments but those
before a statement.  So a string is split right if every literal in it ends soon enough, and no comment
or dollar-quoted literal contains what the module looks for.
-/

namespace SqlRelay.Postgresql

open SqlRelay.Foundation SqlRelay.Foundation.CString SqlRelay.Query SqlRelay.Insert

namespace Backend

variable {backend : Backend}

/-- The bytes that the module looks for. -/
def isPlain (byte : Byte) : Bool := !isQuote byte && byte != chr ';' && byte != 0

def isSpace (lexeme : List Byte) : Bool := isWhitespace (peek lexeme)

variable (backend) in
/-- A piece can be read, looking at so many bytes from where its white space ends: each literal has an
end, and ends before that, and what else there is in the statement is plain. -/
structure Readable (limit : Nat) (piece : List (List Byte)) : Prop where
  closed : ∀ before lexeme after, piece = before ++ lexeme :: after → isQuote (peek lexeme) = true →
    (literalEnd (peek lexeme) (backend.backslashEscapes (peek lexeme)) backend.quoteEscapesQuotes
      lexeme).isSome = true ∧ (before ++ [lexeme]).flatten.length ≤ limit
  plain : ∀ lexeme ∈ piece.dropWhile isBlank, isQuote (peek lexeme) = false →
    ∀ byte ∈ lexeme, isPlain byte = true

variable (backend) in
/-- Each piece can be read, looking at as many bytes as the statement before it has. -/
def ReadableFrom : Nat → List (List (List Byte)) → Prop
  | _, [] => True
  | limit, piece :: pieces =>
      backend.Readable limit (piece.dropWhile isSpace) ∧
        ReadableFrom (piece.dropWhile isBlank).flatten.length pieces

/-! ## Literals -/

theorem closing_pos {quote : Byte} {backslash quotedoubles escaped : Bool} {text : List Byte}
    {count : Nat} (found : closing quote backslash quotedoubles escaped text = some count) :
    0 < count ∧ count ≤ text.length := by
  induction text generalizing escaped count with
  | nil => cases escaped <;> cases found
  | cons byte rest ih =>
      have next : ∀ {escaped}, (closing quote backslash quotedoubles escaped rest).map (· + 1) =
          some count → 0 < count ∧ count ≤ (byte :: rest).length := by
        intro escaped found
        cases closes : closing quote backslash quotedoubles escaped rest with
        | none => simp [closes] at found
        | some more =>
            simp only [closes, Option.map_some, Option.some.injEq] at found
            have bound := ih closes
            simp only [List.length_cons]
            omega
      cases escaped with
      | true => exact next found
      | false =>
          simp only [closing] at found
          split at found
          · exact next found
          · split at found
            · split at found
              · exact next found
              · cases found
                simp
            · exact next found

theorem literalEnd_le {quote : Byte} {backslash quotedoubles : Bool} {text : List Byte}
    {count : Nat} (found : literalEnd quote backslash quotedoubles text = some count) :
    0 < count ∧ count ≤ text.length := by
  cases text with
  | nil => cases found
  | cons byte rest =>
      simp only [literalEnd] at found
      cases closes : closing quote backslash quotedoubles false rest with
      | none => simp [closes] at found
      | some more =>
          simp only [closes, Option.map_some, Option.some.injEq] at found
          have bound := closing_pos closes
          simp only [List.length_cons]
          omega

/-- A literal ends where it does whatever comes behind the string, but for a quote. -/
theorem closing_append {quote : Byte} {backslash quotedoubles escaped : Bool} {text more : List Byte}
    {count : Nat} (found : closing quote backslash quotedoubles escaped text = some count)
    (other : peek more ≠ quote) :
    closing quote backslash quotedoubles escaped (text ++ more) = some count := by
  induction text generalizing escaped count with
  | nil => cases escaped <;> cases found
  | cons byte rest ih =>
      have next : ∀ {escaped}, (closing quote backslash quotedoubles escaped rest).map (· + 1) =
          some count →
            (closing quote backslash quotedoubles escaped (rest ++ more)).map (· + 1) =
              some count := by
        intro escaped found
        cases closes : closing quote backslash quotedoubles escaped rest with
        | none => simp [closes] at found
        | some inner => rw [ih closes, ← found, closes]
      cases escaped with
      | true => exact next found
      | false =>
          simp only [closing, List.cons_append] at found ⊢
          split at found
          · next isEscape =>
              rw [if_pos isEscape]
              exact next found
          · next notEscape =>
              rw [if_neg notEscape]
              split at found
              · next isQuote =>
                  rw [if_pos isQuote]
                  by_cases doubled : (quotedoubles && peek rest == quote) = true
                  · rw [if_pos doubled] at found
                    cases rest with
                    | nil => cases found
                    | cons second rest =>
                        have still : (quotedoubles && peek (second :: rest ++ more) == quote) =
                            true := doubled
                        rw [if_pos still]
                        exact next found
                  · rw [if_neg doubled] at found
                    have still : ¬(quotedoubles && peek (rest ++ more) == quote) = true := by
                      cases rest with
                      | nil => simp [other]
                      | cons second rest => exact doubled
                    rw [if_neg still]
                    exact found
              · next notQuote =>
                  rw [if_neg notQuote]
                  exact next found

theorem literalEnd_append {quote : Byte} {backslash quotedoubles : Bool} {text more : List Byte}
    {count : Nat} (found : literalEnd quote backslash quotedoubles text = some count)
    (other : peek more ≠ quote) :
    literalEnd quote backslash quotedoubles (text ++ more) = some count := by
  cases text with
  | nil => cases found
  | cons byte rest =>
      simp only [literalEnd, List.cons_append] at found ⊢
      cases closes : closing quote backslash quotedoubles false rest with
      | none => simp [closes] at found
      | some inner => rw [closing_append closes other, ← found, closes]

/-- A literal that has an end is a lexeme up to there. -/
theorem literalEnd_of_whole {byte : Byte} {front rest : List Byte} (quoted : isQuote byte = true)
    (whole : (front ++ rest).take (backend.cut (byte :: (front ++ rest)) - 1) = front)
    (closed : (literalEnd byte (backend.backslashEscapes byte) backend.quoteEscapesQuotes
      (byte :: front)).isSome = true) :
    literalEnd byte (backend.backslashEscapes byte) backend.quoteEscapesQuotes
      (byte :: (front ++ rest)) = some (front.length + 1) := by
  simp only [cut, quoted, if_true] at whole
  cases found : literalEnd byte (backend.backslashEscapes byte) backend.quoteEscapesQuotes
      (byte :: (front ++ rest)) with
  | none =>
      simp only [found, Option.getD_none, Nat.add_sub_cancel, List.take_length] at whole
      have nothing : rest = [] := List.append_right_eq_self.mp whole
      rw [nothing, List.append_nil] at found
      rw [found] at closed
      cases closed
  | some count =>
      simp only [found, Option.getD_some] at whole
      have bound := literalEnd_le found
      have length := congrArg List.length whole
      simp only [List.length_take, List.length_cons, List.length_append] at bound length
      rw [Option.some.injEq]
      omega

/-! ## The end of a statement -/

/-- Bytes that the module does not look for are passed over. -/
theorem scan_plain {front rest : List Byte} (plain : ∀ byte ∈ front, isPlain byte = true)
    (fuel : Nat) (left : Int) :
    backend.scan (fuel + front.length) left (front ++ rest) =
      (backend.scan fuel (left - front.length) rest).map fun found =>
        (front ++ found.1, found.2) := by
  induction front generalizing left with
  | nil => simp
  | cons byte front ih =>
      have here := plain byte List.mem_cons_self
      have others : ∀ other ∈ front, isPlain other = true := by
        intro other listed
        exact plain other (List.mem_cons_of_mem _ listed)
      simp only [isPlain, Bool.and_eq_true, Bool.not_eq_true', bne_iff_ne, ne_eq] at here
      obtain ⟨⟨notQuote, notSemicolon⟩, notNul⟩ := here
      have goesOn : ¬(byte = 0 ∨ byte = chr ';') := not_or.mpr ⟨notNul, notSemicolon⟩
      have enough : ¬(front ++ rest).length + 1 < 1 := by omega
      have moved : left - (front.length + 1 : Nat) = left - (1 : Nat) - front.length := by omega
      rw [List.cons_append, List.length_cons, ← Nat.add_assoc]
      simp only [scan, if_neg goesOn, notQuote, Bool.false_eq_true, if_false, if_neg enough,
        List.drop_succ_cons, List.drop_zero, List.take_succ_cons, List.take_zero]
      rw [ih others, moved]
      cases backend.scan fuel (left - (1 : Nat) - front.length) rest with
      | none => rfl
      | some found => rfl

/-- A literal is passed over at once, if the module may look at all of it. -/
theorem scan_literal {byte : Byte} {front rest : List Byte} (quoted : isQuote byte = true)
    (found : literalEnd byte (backend.backslashEscapes byte) backend.quoteEscapesQuotes
      (byte :: (front ++ rest)) = some (front.length + 1))
    (fuel : Nat) {left : Int} (enough : (front.length + 1 : Nat) ≤ left) :
    backend.scan (fuel + 1) left (byte :: (front ++ rest)) =
      (backend.scan fuel (left - (front.length + 1 : Nat)) rest).map fun found =>
        (byte :: front ++ found.1, found.2) := by
  have goesOn : ¬(byte = 0 ∨ byte = chr ';') := by
    intro ends
    cases ends with
    | inl isNul =>
        rw [isNul] at quoted
        cases quoted
    | inr isSemicolon =>
        rw [isSemicolon] at quoted
        cases quoted
  have inside : ¬(front ++ rest).length + 1 < front.length + 1 := by
    rw [List.length_append]
    omega
  simp only [scan, if_neg goesOn, quoted, if_true, backend.finds _ _ _ _ _ _ found enough,
    if_neg inside, List.drop_succ_cons, List.take_succ_cons, List.drop_left, List.take_left]

/-- The end of a statement is found where the next piece starts, or at the NUL behind the string. -/
theorem scan_piece {piece others : List (List Byte)} {text junk : List Byte}
    (lexed : backend.cut.Lexed (piece ++ others) text)
    (ends : others = [] ∨ ∃ rest, others = [chr ';'] :: rest) {left : Int}
    (closed : ∀ before lexeme after, piece = before ++ lexeme :: after →
      isQuote (peek lexeme) = true →
        (literalEnd (peek lexeme) (backend.backslashEscapes (peek lexeme))
          backend.quoteEscapesQuotes lexeme).isSome = true ∧
        ((before ++ [lexeme]).flatten.length : Int) ≤ left)
    (plain : ∀ lexeme ∈ piece, isQuote (peek lexeme) = false → ∀ byte ∈ lexeme,
      isPlain byte = true)
    {fuel : Nat} (enough : piece.flatten.length < fuel) :
    backend.scan fuel left (text ++ 0 :: junk) =
      some (piece.flatten, others.flatten ++ 0 :: junk) := by
  induction piece generalizing text left fuel with
  | nil =>
      rw [← lexed.flatten]
      cases fuel with
      | zero => cases enough
      | succ fuel =>
          cases ends with
          | inl nothing =>
              subst nothing
              simp [scan]
          | inr more =>
              obtain ⟨rest, isSeparator⟩ := more
              subst isSeparator
              simp [scan]
  | cons lexeme piece ih =>
      have others_closed : ∀ before inner after, piece = before ++ inner :: after →
          isQuote (peek inner) = true →
            (literalEnd (peek inner) (backend.backslashEscapes (peek inner))
              backend.quoteEscapesQuotes inner).isSome = true ∧
            ((before ++ [inner]).flatten.length : Int) ≤ left - lexeme.length := by
        intro before inner after split quoted
        have whole := closed (lexeme :: before) inner after (by rw [split, List.cons_append]) quoted
        refine ⟨whole.1, ?_⟩
        have bound := whole.2
        simp only [List.cons_append, List.flatten_cons, List.length_append] at bound
        omega
      have others_plain : ∀ inner ∈ piece, isQuote (peek inner) = false → ∀ byte ∈ inner,
          isPlain byte = true := by
        intro inner listed
        exact plain inner (List.mem_cons_of_mem _ listed)
      simp only [List.flatten_cons, List.length_append] at enough
      cases lexed with
      | @cons item front rest _ whole lexed =>
          have bound : (item :: front).length = front.length + 1 := List.length_cons
          rw [bound] at enough others_closed
          cases quoted : isQuote item with
          | true =>
              have here := closed [] (item :: front) piece rfl quoted
              have found := literalEnd_of_whole quoted whole here.1
              have other : peek (0 :: junk) ≠ item := by
                intro same
                rw [← same] at quoted
                cases quoted
              have still := literalEnd_append found other
              have fits : (front.length + 1 : Nat) ≤ left := by simpa using here.2
              obtain ⟨fuel, rfl⟩ : ∃ before, fuel = before + 1 := ⟨fuel - 1, by omega⟩
              rw [List.cons_append, List.append_assoc] at still ⊢
              rw [scan_literal quoted still fuel fits,
                ih lexed others_closed others_plain (by omega)]
              simp
          | false =>
              have here := plain (item :: front) List.mem_cons_self quoted
              obtain ⟨fuel, rfl⟩ : ∃ before, fuel = before + (item :: front).length :=
                ⟨fuel - (item :: front).length, by rw [bound]; omega⟩
              have split : item :: (front ++ rest) ++ 0 :: junk =
                  (item :: front) ++ (rest ++ 0 :: junk) := by simp
              rw [split, scan_plain here, bound, ih lexed others_closed others_plain (by
                rw [bound] at enough
                omega)]
              simp

/-! ## The start of a statement -/

/-- A comment that starts with `--` is passed over up to the end of its line. -/
theorem skipFrom_comment {text : List Byte} (noNul : 0 ∉ text) (tail : List Byte) :
    skipFrom true (text ++ 0 :: tail) =
      skipFrom false (text.drop (commentLength .lineComment text) ++ 0 :: tail) := by
  induction text with
  | nil => simp [skipFrom, commentLength]
  | cons byte rest ih =>
      have notNul : ¬byte = 0 := fun same => noNul (same ▸ List.mem_cons_self)
      have noMore : 0 ∉ rest := fun listed => noNul (List.mem_cons_of_mem _ listed)
      simp only [List.cons_append, skipFrom, if_neg notNul, if_true, commentLength]
      by_cases ends : byte = chr '\n'
      · simp [ends]
      · simp only [if_neg ends, List.drop_succ_cons]
        have goesOn : (byte != chr '\n') = true := by simp [ends]
        rw [goesOn]
        exact ih noMore

theorem not_white {byte other : Byte} (white : isWhitespace byte = true)
    (visible : isWhitespace other = false) : byte ≠ other := by
  intro same
  rw [same, visible] at white
  cases white

theorem cut_ordinary {byte : Byte} {rest : List Byte} (notQuote : isQuote byte = false)
    (notDollar : byte ≠ chr '$') (notSlash : byte ≠ chr '/')
    (noComment : ¬(byte = chr '-' ∧ peek rest = chr '-')) : backend.cut (byte :: rest) = 0 := by
  simp [cut, notQuote, notDollar, commentLength, notSlash, noComment]

theorem cut_white {byte : Byte} (white : isWhitespace byte = true) (rest : List Byte) :
    backend.cut (byte :: rest) = 0 := by
  apply cut_ordinary
  · simp only [isQuote, Bool.or_eq_false_iff, beq_eq_false_iff_ne]
    exact ⟨⟨not_white white (by decide), not_white white (by decide)⟩, not_white white (by decide)⟩
  · exact not_white white (by decide)
  · exact not_white white (by decide)
  · intro comment
    exact not_white white (by decide) comment.1

theorem cut_comment {rest : List Byte} (comment : peek rest = chr '-') :
    backend.cut (chr '-' :: rest) = commentLength .lineComment rest + 1 := by
  have notQuote : isQuote (chr '-') = false := by decide
  have notDollar : (chr '-' == chr '$') = false := by decide
  simp [cut, notQuote, notDollar, commentLength, comment]

/-- What says nothing at the head of a text. -/
theorem skipFrom_lexed {lexemes : List (List Byte)} {text : List Byte}
    (lexed : backend.cut.Lexed lexemes text) (noNul : 0 ∉ text) (tail : List Byte) :
    skipWhitespaceAndComments (text ++ 0 :: tail) =
      (lexemes.dropWhile isBlank).flatten ++ 0 :: tail := by
  simp only [skipWhitespaceAndComments]
  induction lexed with
  | nil => simp [skipFrom]
  | @cons item front rest others whole lexed ih =>
      have notNul : ¬item = 0 := fun same => noNul (same ▸ List.mem_cons_self)
      have noMore : 0 ∉ front ++ rest := fun listed => noNul (List.mem_cons_of_mem _ listed)
      have noRest : 0 ∉ rest := fun listed => noMore (List.mem_append_right _ listed)
      have samePeek : peek (front ++ rest ++ 0 :: tail) = peek (front ++ rest) := by
        cases front ++ rest <;> rfl
      rw [List.cons_append]
      simp only [skipFrom, if_neg notNul, Bool.false_eq_true, if_false, samePeek]
      cases white : isWhitespace item with
      | true =>
          rw [cut_white white] at whole
          have alone : front = [] := by simpa using whole.symm
          have blank : isBlank (item :: front) = true := by simp [isBlank, white]
          rw [if_pos rfl, List.dropWhile_cons, if_pos blank, alone, List.nil_append]
          exact ih noRest
      | false =>
          rw [if_neg Bool.false_ne_true]
          by_cases comment : item = chr '-' ∧ peek (front ++ rest) = chr '-'
          · have isDash := comment.1
            subst isDash
            rw [cut_comment comment.2, Nat.add_sub_cancel] at whole
            have behind : (front ++ rest).drop (commentLength .lineComment (front ++ rest)) =
                rest := by
              have split :=
                List.take_append_drop (commentLength .lineComment (front ++ rest)) (front ++ rest)
              rw [whole] at split
              exact List.append_cancel_left split
            have some_front : front ≠ [] := by
              intro nothing
              rw [nothing, List.nil_append] at whole comment
              cases rest with
              | nil => cases comment.2
              | cons first rest =>
                  simp only [commentLength] at whole
                  split at whole <;> cases whole
            have blank : isBlank (chr '-' :: front) = true := by
              cases front with
              | nil => exact absurd rfl some_front
              | cons first front => simp [isBlank]
            rw [if_pos comment, skipFrom_comment noMore, behind, List.dropWhile_cons,
              if_pos blank]
            exact ih noRest
          · have notBlank : ¬isBlank (item :: front) = true := by
              intro blank
              simp only [isBlank, peek_cons, white, Bool.false_or, Bool.and_eq_true, beq_iff_eq,
                decide_eq_true_eq, List.length_cons] at blank
              have isDash := blank.1
              subst isDash
              rw [cut_ordinary (by decide) (by decide) (by decide) comment] at whole
              have alone : front = [] := by simpa using whole.symm
              rw [alone] at blank
              exact absurd blank.2 (by decide)
            rw [if_neg comment, List.dropWhile_cons, if_neg notBlank, List.flatten_cons,
              lexed.flatten, List.cons_append, List.cons_append]

/-- White space at the head of a text. -/
theorem skipWhitespace_lexed {lexemes : List (List Byte)} {text : List Byte}
    (lexed : backend.cut.Lexed lexemes text) (tail : List Byte) :
    skipWhitespace (text ++ 0 :: tail) = (lexemes.dropWhile isSpace).flatten ++ 0 :: tail := by
  simp only [skipWhitespace]
  induction lexed with
  | nil => rfl
  | @cons item front rest others whole lexed ih =>
      rw [List.cons_append, List.dropWhile_cons, List.dropWhile_cons]
      cases white : isWhitespace item with
      | true =>
          rw [cut_white white] at whole
          have alone : front = [] := by simpa using whole.symm
          have space : isSpace (item :: front) = true := white
          rw [if_pos rfl, if_pos space, alone, List.nil_append]
          exact ih
      | false =>
          have notSpace : ¬isSpace (item :: front) = true := by simp [isSpace, white]
          rw [if_neg Bool.false_ne_true, if_neg notSpace, List.flatten_cons, lexed.flatten,
            List.cons_append, List.cons_append]

/-! ## One query after the other -/

/-- White space is nothing that is said. -/
theorem dropWhile_space (piece : List (List Byte)) :
    (piece.dropWhile isSpace).dropWhile isBlank = piece.dropWhile isBlank := by
  induction piece with
  | nil => rfl
  | cons lexeme piece ih =>
      rw [List.dropWhile_cons]
      split
      · next space =>
          have blank : isBlank lexeme = true := by
            have white : isWhitespace (peek lexeme) = true := space
            simp [isBlank, white]
          rw [ih, List.dropWhile_cons, if_pos blank]
      · rfl

/-- A semicolon says something. -/
theorem dropWhile_ends {skips : List Byte → Bool} (stops : skips [chr ';'] = false)
    {piece others : List (List Byte)} (ends : others = [] ∨ ∃ rest, others = [chr ';'] :: rest) :
    (piece ++ others).dropWhile skips = piece.dropWhile skips ++ others := by
  induction piece with
  | nil =>
      cases ends with
      | inl nothing =>
          subst nothing
          rfl
      | inr more =>
          obtain ⟨rest, isSeparator⟩ := more
          subst isSeparator
          simp [stops]
  | cons lexeme piece ih =>
      rw [List.cons_append, List.dropWhile_cons, List.dropWhile_cons]
      split
      · exact ih
      · rfl

/-- The statement is found, and where its piece ends. -/
theorem getQuery_piece {piece others : List (List Byte)} {text : List Byte} (junk : List Byte)
    (lexed : backend.cut.Lexed (piece ++ others) text) (noNul : 0 ∉ text)
    (ends : others = [] ∨ ∃ rest, others = [chr ';'] :: rest) {limit : Nat}
    (readable : backend.Readable limit piece) :
    backend.getQuery (text ++ 0 :: junk) limit =
      some ((piece.dropWhile isBlank).flatten, others.flatten ++ 0 :: junk) := by
  have split : piece.takeWhile isBlank ++ piece.dropWhile isBlank = piece :=
    List.takeWhile_append_dropWhile
  have start : skipWhitespaceAndComments (text ++ 0 :: junk) =
      (piece.dropWhile isBlank ++ others).flatten ++ 0 :: junk := by
    rw [skipFrom_lexed lexed noNul, dropWhile_ends (by decide) ends]
  have behind : backend.cut.Lexed (piece.dropWhile isBlank ++ others)
      (piece.dropWhile isBlank ++ others).flatten := by
    rw [← split, List.append_assoc] at lexed
    exact lexed.append
  have skipped : (text ++ 0 :: junk).length -
      ((piece.dropWhile isBlank ++ others).flatten ++ 0 :: junk).length =
        (piece.takeWhile isBlank).flatten.length := by
    have whole := congrArg List.length lexed.flatten
    rw [← split] at whole
    simp only [List.flatten_append, List.length_append] at whole ⊢
    omega
  simp only [getQuery, start, skipped]
  apply scan_piece behind ends
  · intro before lexeme after isSplit quoted
    have isPiece : piece = (piece.takeWhile isBlank ++ before) ++ lexeme :: after := by
      rw [List.append_assoc, ← isSplit, split]
    have closed := readable.closed _ _ _ isPiece quoted
    refine ⟨closed.1, ?_⟩
    have bound := closed.2
    simp only [List.flatten_append, List.append_assoc, List.length_append] at bound ⊢
    omega
  · exact readable.plain
  · simp only [List.flatten_append, List.length_append]
    omega

/-- The white space of the first piece. -/
theorem splitOn_dropWhile {lexemes first : List (List Byte)} {others : List (List (List Byte))}
    (pieces : lexemes.splitOn [chr ';'] = first :: others) :
    (lexemes.dropWhile isSpace).splitOn [chr ';'] = first.dropWhile isSpace :: others := by
  by_cases separated : [chr ';'] ∈ lexemes
  · obtain ⟨piece, rest, isSplit, notIn⟩ := List.eq_append_cons_of_mem separated
    subst isSplit
    rw [List.splitOn_append_cons_self_of_not_mem notIn] at pieces
    cases pieces
    have still : [chr ';'] ∉ first.dropWhile isSpace := fun listed =>
      notIn ((List.dropWhile_suffix isSpace).subset listed)
    rw [dropWhile_ends (by decide) (Or.inr ⟨rest, rfl⟩),
      List.splitOn_append_cons_self_of_not_mem still]
  · rw [List.splitOn_eq_singleton separated] at pieces
    cases pieces
    have still : [chr ';'] ∉ lexemes.dropWhile isSpace := fun listed =>
      separated ((List.dropWhile_suffix isSpace).subset listed)
    exact List.splitOn_eq_singleton still

/-- What is behind a semicolon and white space. -/
theorem lexed_behind {first rest : List (List Byte)} {text : List Byte}
    (lexed : backend.cut.Lexed (first ++ [chr ';'] :: rest) text) :
    backend.cut.Lexed (rest.dropWhile isSpace) (rest.dropWhile isSpace).flatten := by
  have whole : first ++ [chr ';'] :: rest =
      (first ++ [chr ';'] :: rest.takeWhile isSpace) ++ rest.dropWhile isSpace := by
    rw [List.append_assoc, List.cons_append, List.takeWhile_append_dropWhile]
  rw [whole] at lexed
  exact lexed.append

/-- It is a part of the string, and not all of it. -/
theorem suffix_behind {first rest : List (List Byte)} {text : List Byte}
    (lexed : backend.cut.Lexed (first ++ [chr ';'] :: rest) text) :
    (rest.dropWhile isSpace).flatten <:+ text ∧
      (rest.dropWhile isSpace).flatten.length < text.length := by
  have split : rest.takeWhile isSpace ++ rest.dropWhile isSpace = rest :=
    List.takeWhile_append_dropWhile
  have whole : first.flatten ++ chr ';' :: (rest.takeWhile isSpace).flatten ++
      (rest.dropWhile isSpace).flatten = text := by
    rw [← lexed.flatten, List.append_assoc, List.cons_append, ← List.flatten_append, split]
    simp
  refine ⟨⟨_, whole⟩, ?_⟩
  rw [← whole]
  simp only [List.length_append, List.length_cons]
  omega

theorem peek_lexed_ne_zero {lexemes : List (List Byte)} {text : List Byte}
    (lexed : backend.cut.Lexed lexemes text) (present : lexemes ≠ []) (noNul : 0 ∉ text)
    (junk : List Byte) : peek (text ++ junk) ≠ 0 := by
  cases lexed with
  | nil => exact absurd rfl present
  | cons =>
      intro isNul
      apply noNul
      rw [← isNul]
      exact List.mem_cons_self

/-- Behind a statement that a semicolon ends, the next one is looked for behind the white space. -/
theorem queriesFrom_separated {first rest : List (List Byte)} {text : List Byte} (junk : List Byte)
    (lexed : backend.cut.Lexed (first ++ [chr ';'] :: rest) text) (noNul : 0 ∉ text) {limit : Nat}
    (readable : backend.Readable limit first) (fuel : Nat) :
    backend.queriesFrom (fuel + 1) (text ++ 0 :: junk) limit =
      if rest.dropWhile isSpace = [] then ([(first.dropWhile isBlank).flatten], true)
      else
        let more := backend.queriesFrom fuel ((rest.dropWhile isSpace).flatten ++ 0 :: junk)
          (first.dropWhile isBlank).flatten.length
        ((first.dropWhile isBlank).flatten :: more.1, more.2) := by
  have found := getQuery_piece junk lexed noNul (Or.inr ⟨rest, rfl⟩) readable
  have behind : backend.cut.Lexed rest rest.flatten := by
    have whole : first ++ [chr ';'] :: rest = (first ++ [[chr ';']]) ++ rest := by simp
    rw [whole] at lexed
    exact lexed.append
  have next : skipWhitespace (([chr ';'] :: rest).flatten ++ 0 :: junk).tail =
      (rest.dropWhile isSpace).flatten ++ 0 :: junk := by
    simp [skipWhitespace_lexed behind]
  have goesOn : ¬peek (([chr ';'] :: rest).flatten ++ 0 :: junk) = 0 := by
    simp only [List.flatten_cons, List.cons_append, peek_cons]
    decide
  have inside : ¬(rest.dropWhile isSpace).flatten ++ 0 :: junk = [] := by simp
  simp only [queriesFrom, found, next, if_neg goesOn, if_neg inside]
  by_cases nothing : rest.dropWhile isSpace = []
  · rw [if_pos nothing, nothing, List.flatten_nil, List.nil_append, peek_cons, if_pos rfl]
  · have visible := peek_lexed_ne_zero (lexed_behind lexed) nothing
      (fun listed => noNul ((suffix_behind lexed).1.subset listed)) (0 :: junk)
    rw [if_neg nothing, if_neg visible]

/-- The queries are the statements, and for a piece that says nothing an empty query, unless the string
ends with it. -/
theorem queriesFrom_eq {lexemes : List (List Byte)} {text : List Byte} (junk : List Byte)
    (lexed : backend.cut.Lexed lexemes text) (noNul : 0 ∉ text) {limit : Nat}
    {first : List (List Byte)} {others : List (List (List Byte))}
    (pieces : lexemes.splitOn [chr ';'] = first :: others)
    (readable : backend.Readable limit first)
    (later : backend.ReadableFrom (first.dropWhile isBlank).flatten.length others)
    {fuel : Nat} (enough : text.length < fuel) :
    ∃ queries, backend.queriesFrom fuel (text ++ 0 :: junk) limit = (queries, true) ∧
      queries.filter (· ≠ []) =
        ((first :: others).map fun piece => (piece.dropWhile isBlank).flatten).filter (· ≠ []) := by
  induction fuel generalizing lexemes text limit first others with
  | zero => cases enough
  | succ fuel ih =>
      by_cases separated : [chr ';'] ∈ lexemes
      · obtain ⟨piece, rest, isSplit, notIn⟩ := List.eq_append_cons_of_mem separated
        subst isSplit
        rw [List.splitOn_append_cons_self_of_not_mem notIn] at pieces
        cases pieces
        rw [queriesFrom_separated junk lexed noNul readable]
        obtain ⟨suffix, shorter⟩ := suffix_behind lexed
        cases later_ : rest.splitOn [chr ';'] with
        | nil => exact absurd later_ (List.splitOn_ne_nil _ _)
        | cons second others =>
            rw [later_] at later
            have pieces := splitOn_dropWhile later_
            by_cases nothing : rest.dropWhile isSpace = []
            · rw [nothing, List.splitOn_nil, List.cons.injEq] at pieces
              have blank : second.dropWhile isBlank = [] := by
                rw [← dropWhile_space, ← pieces.1]
                rfl
              rw [if_pos nothing]
              refine ⟨_, rfl, ?_⟩
              rw [← pieces.2]
              simp [blank, List.filter_cons]
            · have noMore : 0 ∉ (rest.dropWhile isSpace).flatten := fun listed =>
                noNul (suffix.subset listed)
              have moreLater : backend.ReadableFrom
                  ((second.dropWhile isSpace).dropWhile isBlank).flatten.length others := by
                rw [dropWhile_space]
                exact later.2
              obtain ⟨queries, found, same⟩ :=
                ih (lexed_behind lexed) noMore pieces later.1 moreLater (by omega)
              rw [if_neg nothing, found]
              refine ⟨_, rfl, ?_⟩
              rw [List.map_cons, List.filter_cons, List.filter_cons, same, List.map_cons,
                List.map_cons, dropWhile_space]
      · rw [List.splitOn_eq_singleton separated] at pieces
        cases pieces
        have alone : backend.cut.Lexed (lexemes ++ []) text := by simpa using lexed
        have found := getQuery_piece junk alone noNul (Or.inl rfl) readable
        simp only [queriesFrom, found, List.flatten_nil, List.nil_append, peek_cons, if_true]
        exact ⟨_, rfl, rfl⟩

end Backend

end SqlRelay.Postgresql
