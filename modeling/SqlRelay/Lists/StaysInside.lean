import SqlRelay.Lists.Drivers

/-!
# Parameters of list commands stay inside their literals

The query that answers a list command reads as its template, with each literal that a name is put in
denoting that name, unless the backend takes backslashes for escapes and the name has one, the name
that the server fills in has a quote in it, the driver puts the name outside of a literal, or the
query does not fit into the query buffer.
-/

namespace SqlRelay.Lists

open SqlRelay.Foundation SqlRelay.Foundation.QuotedLiteral SqlRelay.Foundation.QuotedText

/-! ### The query -/

/-- The query that the driver builds, as `safeCopy` puts it into the query buffer. -/
def query (server : Server) (template : Template) (request : Request) : List Byte :=
  let names := request.names server
  ((template.parts names).flatMap (Part.bytes names)).take server.maxQuerySize

/-- The driver's parts, with what is asked for in the places of the names. -/
def pieces (server : Server) (template : Template) (request : Request) : List Piece :=
  (template.parts (request.names server)).map (Part.piece (request.asked server))

/-- The query has the template's text outside of the literals that the names are put in, and these
denote the names, with what the template puts around them. -/
def StaysInLiterals (server : Server) (template : Template) (request : Request) : Prop :=
  ReadsAs server.backslashEscapesQuotes (pieces server template request)
    (query server template request)

theorem query_eq_render (server : Server) (template : Template) (request : Request) :
    query server template request =
      (render (pieces server template request)).take server.maxQuerySize := by
  have bytes : ∀ part : Part,
      part.bytes (request.names server) = (part.piece (request.asked server)).bytes := by
    intro part
    rw [Part.piece_bytes, Request.names_eq_asked]
  simp only [query, pieces, render, List.flatMap_map]
  rw [List.flatMap_congr fun part _ => bytes part]

/-! ### Names that can be quoted -/

namespace Inserted

/-- A backend that takes backslashes for escapes finds none in the name, and a name that is not
escaped has no quote. -/
def Ordinary (escapes : Bool) : Inserted → Prop
  | .sent value => escapes = true → backslash ∉ value
  | .current value => quote ∉ value ∧ (escapes = true → backslash ∉ value)

def size : Inserted → Nat
  | .sent value => value.length + value.count quote
  | .current value => value.length

end Inserted

theorem escapeParameter_length (value : List Byte) :
    (escapeParameter value).length = value.length + value.count quote := by
  induction value with
  | nil => rfl
  | cons byte value ih =>
      rw [escapeParameter]
      split
      · rename_i isQuote
        simp only [isQuote, List.length_cons, List.count_cons_self, ih]
        omega
      · rename_i notQuote
        simp only [List.length_cons, List.count_cons_of_ne notQuote, ih]
        omega

variable {escapes : Bool}

theorem cost_escape {byte : Byte} (isEscape : escapes = true ∧ byte = backslash) :
    cost escapes (.holds byte) = 2 := by
  simp only [cost]
  rw [if_pos (Or.inr isEscape)]

/-- An escaped name has as many bytes as it takes to denote the name, or too few: one for each
backslash that is taken for an escape. -/
theorem escapeParameter_weight (value : List Byte) :
    (escapeParameter value).length ≤ weight escapes (denotes value) ∧
      ((escapeParameter value).length = weight escapes (denotes value) →
        escapes = true → backslash ∉ value) := by
  induction value with
  | nil => simp [denotes, escapeParameter]
  | cons byte value ih =>
      have rest : weight escapes (denotes (byte :: value)) =
          cost escapes (.holds byte) + weight escapes (denotes value) := weight_cons ..
      by_cases isQuote : byte = quote
      · have two : cost escapes (.holds byte) = 2 := by rw [isQuote, cost_holds_quote]
        rw [rest, two, escapeParameter, if_pos isQuote]
        simp only [List.length_cons, List.mem_cons, not_or]
        constructor
        · omega
        · intro lengths escaped
          constructor
          · rw [isQuote]
            exact quote_ne_backslash.symm
          · exact ih.2 (by omega) escaped
      · rw [rest, escapeParameter, if_neg isQuote]
        simp only [List.length_cons, List.mem_cons, not_or]
        by_cases isEscape : escapes = true ∧ byte = backslash
        · rw [cost_escape isEscape]
          constructor
          · omega
          · intro lengths
            omega
        · rw [cost_holds_ordinary escapes isQuote isEscape]
          constructor
          · omega
          · intro lengths escaped
            constructor
            · intro isBackslash
              exact isEscape ⟨escaped, isBackslash.symm⟩
            · exact ih.2 (by omega) escaped

theorem escapeParameter_holds {value : List Byte}
    (noBackslash : escapes = true → backslash ∉ value) :
    Holds escapes value (escapeParameter value) := by
  induction value with
  | nil => exact Holds.nil
  | cons byte value ih =>
      have others : escapes = true → backslash ∉ value := fun escaped inside =>
        noBackslash escaped (List.mem_cons_of_mem _ inside)
      rw [escapeParameter]
      split
      · rename_i isQuote
        rw [isQuote]
        exact (ih others).doubled
      · rename_i notQuote
        apply Holds.ordinary notQuote
        · intro escaped isBackslash
          exact noBackslash escaped (isBackslash ▸ List.mem_cons_self ..)
        · exact ih others

/-- A name that is put in as it is has too few bytes if it has a quote, or a backslash that is taken
for an escape. -/
theorem plain_weight (value : List Byte) :
    value.length ≤ weight escapes (denotes value) ∧
      (value.length = weight escapes (denotes value) →
        quote ∉ value ∧ (escapes = true → backslash ∉ value)) := by
  induction value with
  | nil => simp [denotes]
  | cons byte value ih =>
      have rest : weight escapes (denotes (byte :: value)) =
          cost escapes (.holds byte) + weight escapes (denotes value) := weight_cons ..
      rw [rest]
      simp only [List.length_cons, List.mem_cons, not_or]
      by_cases isQuote : byte = quote
      · rw [isQuote, cost_holds_quote]
        constructor
        · omega
        · intro lengths
          omega
      · by_cases isEscape : escapes = true ∧ byte = backslash
        · rw [cost_escape isEscape]
          constructor
          · omega
          · intro lengths
            omega
        · rw [cost_holds_ordinary escapes isQuote isEscape]
          constructor
          · omega
          · intro lengths
            have others := ih.2 (by omega)
            constructor
            · exact ⟨Ne.symm isQuote, others.1⟩
            · intro escaped
              exact ⟨fun isBackslash => isEscape ⟨escaped, isBackslash.symm⟩, others.2 escaped⟩

theorem plain_holds {value : List Byte} (noQuote : quote ∉ value)
    (noBackslash : escapes = true → backslash ∉ value) : Holds escapes value value := by
  induction value with
  | nil => exact Holds.nil
  | cons byte value ih =>
      simp only [List.mem_cons, not_or] at noQuote
      apply Holds.ordinary (Ne.symm noQuote.1)
      · intro escaped isBackslash
        exact noBackslash escaped (isBackslash ▸ List.mem_cons_self ..)
      · exact ih noQuote.2 fun escaped inside =>
          noBackslash escaped (List.mem_cons_of_mem _ inside)

namespace Inserted

theorem written_length (inserted : Inserted) : inserted.written.length = inserted.size := by
  cases inserted with
  | sent value => exact escapeParameter_length value
  | current value => rfl

theorem written_short (inserted : Inserted) :
    inserted.written.length ≤ weight escapes (denotes inserted.value) := by
  cases inserted with
  | sent value => exact (escapeParameter_weight value).1
  | current value => exact (plain_weight value).1

theorem ordinary_of_exact {inserted : Inserted}
    (sameLength : inserted.written.length = weight escapes (denotes inserted.value)) :
    inserted.Ordinary escapes := by
  cases inserted with
  | sent value => exact (escapeParameter_weight value).2 sameLength
  | current value => exact (plain_weight value).2 sameLength

theorem Ordinary.holds {inserted : Inserted} (ordinary : inserted.Ordinary escapes) :
    Holds escapes inserted.value inserted.written := by
  cases inserted with
  | sent value => exact escapeParameter_holds ordinary
  | current value => exact plain_holds ordinary.1 ordinary.2

end Inserted

/-! ### When a parameter stays inside -/

def Part.size (names : Names Inserted) : Part → Nat
  | .text bytes => bytes.length
  | .name field =>
      match names.get field with
      | some inserted => inserted.size
      | none => 0

/-- The size of the query that the parts make up. -/
def querySize (names : Names Inserted) : List Part → Nat
  | [] => 0
  | part :: parts => part.size names + querySize names parts

theorem Part.piece_length (names : Names Inserted) (part : Part) :
    (part.piece names).bytes.length = part.size names := by
  cases part with
  | text bytes => rfl
  | name field =>
      simp only [Part.piece, Part.size]
      cases names.get field with
      | none => rfl
      | some inserted => exact inserted.written_length

theorem render_pieces_length (names : Names Inserted) (parts : List Part) :
    (render (parts.map (Part.piece names))).length = querySize names parts := by
  induction parts with
  | nil => rfl
  | cons part parts ih =>
      simp only [render] at ih
      simp only [render, List.map_cons, List.flatMap_cons, List.length_append, querySize,
        Part.piece_length, ih]

/-- The driver puts every name in a literal, every name that it puts in can be quoted by doubling
its quotes, or needs no quoting where the server filled it in, and the query is short enough. -/
structure Quotable (server : Server) (template : Template) (request : Request) : Prop where
  inLiterals : PutsInLiterals server.backslashEscapesQuotes
    (template.parts ((request.asked server).map Inserted.written))
  ordinary : ∀ field inserted,
    .name field ∈ template.parts ((request.asked server).map Inserted.written) →
      (request.asked server).get field = some inserted →
        inserted.Ordinary server.backslashEscapesQuotes
  fits : querySize (request.asked server)
    (template.parts ((request.asked server).map Inserted.written)) ≤ server.maxQuerySize

/-- A value and the bytes written for it come from a name that was asked for, or there was none. -/
theorem mem_pieces {names : Names Inserted} {parts : List Part} {value written : List Byte}
    (inside : .slot value written ∈ parts.map (Part.piece names)) :
    (value = [] ∧ written = []) ∨
      ∃ field inserted, .name field ∈ parts ∧ names.get field = some inserted ∧
        value = inserted.value ∧ written = inserted.written := by
  obtain ⟨part, listed, same⟩ := List.mem_map.mp inside
  cases part with
  | text bytes => simp [Part.piece] at same
  | name field =>
      simp only [Part.piece] at same
      cases found : names.get field with
      | none =>
          simp only [found, Piece.slot.injEq] at same
          exact Or.inl ⟨same.1.symm, same.2.symm⟩
      | some inserted =>
          simp only [found, Piece.slot.injEq] at same
          exact Or.inr ⟨field, inserted, listed, found, same.1.symm, same.2.symm⟩

theorem slot_mem_pieces {names : Names Inserted} {parts : List Part} {field : Field}
    {inserted : Inserted} (listed : .name field ∈ parts) (found : names.get field = some inserted) :
    .slot inserted.value inserted.written ∈ parts.map (Part.piece names) := by
  apply List.mem_map.mpr
  exact ⟨.name field, listed, by simp only [Part.piece, found]⟩

section Exactness

variable (server : Server) (template : Template) (request : Request)

theorem pieces_blank :
    (pieces server template request).map Piece.blank =
      (template.parts (request.names server)).map (Part.piece .empty) := by
  rw [pieces, List.map_map]
  exact List.map_congr_left fun part _ => part.piece_blank _

theorem pieces_sized :
    Sized server.backslashEscapesQuotes (pieces server template request) where
  plain bytes inside := by
    obtain ⟨part, listed, same⟩ := List.mem_map.mp inside
    cases part with
    | text other =>
        have equal : other = bytes := by simpa [Part.piece] using same
        rw [← equal]
        exact (template.balanced _).plain other listed
    | name field =>
        simp only [Part.piece] at same
        split at same <;> cases same
  short value written inside := by
    cases mem_pieces inside with
    | inl nothing => simp [nothing.1, nothing.2]
    | inr asked =>
        obtain ⟨field, inserted, listed, found, isValue, isWritten⟩ := asked
        rw [isValue, isWritten]
        exact inserted.written_short

theorem pieces_exact_holds {value written : List Byte}
    (inside : .slot value written ∈ pieces server template request)
    (sameLength : written.length = weight server.backslashEscapesQuotes (denotes value)) :
    Holds server.backslashEscapesQuotes value written := by
  cases mem_pieces inside with
  | inl nothing =>
      rw [nothing.1, nothing.2]
      exact Holds.nil
  | inr asked =>
      obtain ⟨field, inserted, listed, found, isValue, isWritten⟩ := asked
      subst isValue isWritten
      exact (Inserted.ordinary_of_exact sameLength).holds

theorem staysInLiterals_iff :
    StaysInLiterals server template request ↔
      InLiterals server.backslashEscapesQuotes .outside (pieces server template request) ∧
        (∀ value written, .slot value written ∈ pieces server template request →
          written.length = weight server.backslashEscapesQuotes (denotes value)) ∧
        (render (pieces server template request)).length ≤ server.maxQuerySize := by
  rw [StaysInLiterals, query_eq_render]
  apply readsAs_take_iff (pieces_sized server template request)
  · intro value written inside sameLength
    exact pieces_exact_holds server template request inside sameLength
  · intro inLiterals
    have ends : (meant server.backslashEscapesQuotes .outside
        (pieces server template request)).2 = .outside := by
      rw [← meant_blank, pieces_blank]
      exact (template.balanced _).closed _
    rw [complete, ends]
    rfl

theorem inLiterals_iff :
    InLiterals server.backslashEscapesQuotes .outside (pieces server template request) ↔
      PutsInLiterals server.backslashEscapesQuotes
        (template.parts ((request.asked server).map Inserted.written)) := by
  rw [← inLiterals_blank, pieces_blank, Request.names_eq_asked]
  exact Iff.rfl

theorem quotable_of_staysInLiterals (stays : StaysInLiterals server template request) :
    Quotable server template request := by
  obtain ⟨inLiterals, sameLength, fits⟩ := (staysInLiterals_iff server template request).mp stays
  constructor
  · exact (inLiterals_iff server template request).mp inLiterals
  · intro field inserted listed found
    apply Inserted.ordinary_of_exact
    apply sameLength
    rw [← Request.names_eq_asked] at listed
    exact slot_mem_pieces listed found
  · rw [← Request.names_eq_asked, ← render_pieces_length]
    exact fits

theorem staysInLiterals_of_quotable (quotable : Quotable server template request) :
    StaysInLiterals server template request := by
  apply (staysInLiterals_iff server template request).mpr
  constructor
  · exact (inLiterals_iff server template request).mpr quotable.inLiterals
  · constructor
    · intro value written inside
      cases mem_pieces inside with
      | inl nothing => simp [nothing.1, nothing.2, denotes]
      | inr asked =>
          obtain ⟨field, inserted, listed, found, isValue, isWritten⟩ := asked
          rw [Request.names_eq_asked] at listed
          have ordinary := quotable.ordinary field inserted listed found
          have back := scan_weight server.backslashEscapesQuotes (.inside .nothing)
            inserted.written
          rw [ordinary.holds] at back
          subst isValue isWritten
          apply Nat.le_antisymm
          · exact inserted.written_short
          · simpa [credit] using back
    · have fits := quotable.fits
      rw [← Request.names_eq_asked, ← render_pieces_length] at fits
      exact fits

end Exactness

/-- The query that answers a list command reads as its template with the parameters in their
literals just when the parameters can be quoted. -/
theorem staysInLiterals_iff_quotable (server : Server) (template : Template)
    (request : Request) :
    StaysInLiterals server template request ↔ Quotable server template request := by
  constructor
  · exact quotable_of_staysInLiterals server template request
  · exact staysInLiterals_of_quotable server template request

/-- A MySQL backend, which takes backslashes for escapes. -/
def mySqlServer : Server where
  currentCatalog := some (ascii "orders")
  currentSchema := none
  databaseIsSchema := false
  tableNameMap := []
  quoteEscapesOverride := none
  quoteEscapes := some (ascii "'\\")
  maxQuerySize := 65536

/-- The columns of a table, of those that are named like a backslash. -/
def backslashRequest : Request where
  queryType := .columnList
  listFormat := .mysql
  object := ascii "t"
  component := [backslash]

/-- A backslash escapes the quote that should close its literal. -/
theorem backslash_leaves_literal :
    ¬StaysInLiterals mySqlServer MySql.getColumnListQuery backslashRequest := by
  intro stays
  have quotable := quotable_of_staysInLiterals _ _ _ stays
  have ordinary := quotable.ordinary .column (.sent [backslash]) (by decide +kernel)
    (by decide +kernel)
  exact ordinary (by decide +kernel) (List.mem_singleton_self _)

end SqlRelay.Lists
