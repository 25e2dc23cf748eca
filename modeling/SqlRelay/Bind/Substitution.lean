import SqlRelay.Foundation.QuotedLiteral

/-!
# Faked input binds: what is written for a value

`sqlrservercursor::performSubstitution`.  String values are quoted by doubling
their quotes; backslashes are copied through.
-/

namespace SqlRelay.Bind

open SqlRelay.Foundation SqlRelay.Foundation.QuotedLiteral

/-- The value of an input bind, by `sqlrserverbindvartype_t`.  Numbers and dates
come with the text the number formatter and `dateToString` give for them. -/
inductive BindValue where
  | null | nullBlob | nullClob
  | string (value : List Byte)
  | clob (value : List Byte)
  | array (value : List Byte)
  | blob (data : List Byte)
  | integer (text : List Byte)
  | double (text : List Byte)
  | date (text : List Byte)
  | cursor | delimiter | newline
  deriving DecidableEq, Repr

/-- The bytes of a STRING, CLOB or ARRAY bind. -/
def BindValue.stringValue? : BindValue → Option (List Byte)
  | .string value | .clob value | .array value => some value
  | _ => none

/-- What the quoting loop appends for one byte of a string value. -/
def escapeByte (byte : Byte) : List Byte :=
  if byte = quote then [quote, byte]
  else if byte = 0 then [backslash, chr '0', byte]
  else [byte]

/-- The quoting loop. -/
def escapeValue (value : List Byte) : List Byte := value.flatMap escapeByte

/-- The text written for a string value; `unicodeStrings` is the configured
`N` prefix. -/
def quoteValue (unicodeStrings : Bool) (value : List Byte) : List Byte :=
  (if unicodeStrings then [chr 'N'] else []) ++ quote :: (escapeValue value ++ [quote])

def hexDigit (nibble : Nat) : Byte := (ascii "0123456789ABCDEF").getD nibble 0

/-- `asciiToHex` -/
def asciiToHex (byte : Byte) : List Byte :=
  [hexDigit (byte.toNat / 16), hexDigit (byte.toNat % 16)]

def encodeBlob (data : List Byte) : List Byte :=
  ascii "X'" ++ data.flatMap asciiToHex ++ [quote]

def performSubstitution (unicodeStrings : Bool) : BindValue → List Byte
  | .string value | .clob value | .array value => quoteValue unicodeStrings value
  | .blob data => encodeBlob data
  | .integer text => text
  | .double text => text.map fun byte => if byte = chr ',' then chr '.' else byte
  | .date text => quote :: (text ++ [quote])
  | .null | .nullBlob | .nullClob => ascii "NULL"
  | .cursor | .delimiter | .newline => []

/-- The text is one string literal, with the `N` prefix if one is configured,
and reads back as the value. -/
def ReadsBackAs (unicodeStrings escapes : Bool) (value text : List Byte) : Prop :=
  ∃ literal, text = (if unicodeStrings then [chr 'N'] else []) ++ literal ∧
    IsLiteralOf escapes value literal

/-- No byte of the value means anything to a reader but itself and its quotes. -/
def QuotesOnly (escapes : Bool) (value : List Byte) : Prop :=
  ∀ byte ∈ value, byte ≠ 0 ∧ (escapes = true → byte ≠ backslash)

variable {escapes : Bool}

theorem escapeValue_cons (byte : Byte) (value : List Byte) :
    escapeValue (byte :: value) = escapeByte byte ++ escapeValue value := rfl

theorem readBody_escapeByte_quote (rest : List Byte) :
    readBody escapes (escapeByte quote ++ rest) = push quote (readBody escapes rest) :=
  readBody_doubledQuote rest

theorem readBody_escapeByte {byte : Byte} (notNul : byte ≠ 0)
    (notEscape : escapes = true → byte ≠ backslash) (rest : List Byte) :
    readBody escapes (escapeByte byte ++ rest) = push byte (readBody escapes rest) := by
  by_cases isQuote : byte = quote
  · subst isQuote
    exact readBody_escapeByte_quote rest
  · simp only [escapeByte, isQuote, notNul, if_false]
    exact readBody_ordinary isQuote notEscape rest

/-- Where a NUL was written, a reader finds something else first. -/
theorem readBody_nul (escapes : Bool) (rest : List Byte) :
    ∃ byte read, byte ≠ 0 ∧ (escapes = true → byte ≠ backslash) ∧
      readBody escapes (escapeByte 0 ++ rest) = push byte read := by
  cases escapes with
  | true =>
      refine ⟨chr '0', readBody true (0 :: rest), by decide, fun _ => by decide, ?_⟩
      exact readBody_escape (chr '0') (0 :: rest)
  | false =>
      refine ⟨backslash, readBody false (chr '0' :: 0 :: rest), by decide, by simp, ?_⟩
      exact readBody_ordinary quote_ne_backslash.symm (by simp) _

/-- A backslash of the value takes the byte written after it.  If that byte is
itself a backslash, one backslash is missing from then on, which is what
`surplus` counts. -/
theorem readBody_backslash_ne (value : List Byte)
    (later : ∀ rest, value = backslash :: rest → ∀ surplus,
      readBody true (escapeValue rest ++ [quote]) ≠
        some (List.replicate (surplus + 1) backslash ++ rest, []))
    (surplus : Nat) :
    readBody true (escapeByte backslash ++ (escapeValue value ++ [quote])) ≠
      some (backslash :: (List.replicate surplus backslash ++ value), []) := by
  have written : escapeByte backslash = [backslash] := by decide
  rw [written, List.singleton_append]
  cases value with
  | nil =>
      rw [show escapeValue [] = [] from rfl, List.nil_append, readBody_escape, Ne,
        push_eq_some_iff]
      exact fun both => quote_ne_backslash both.1
  | cons next rest =>
      by_cases isBackslash : next = backslash
      · subst isBackslash
        rw [escapeValue_cons, written, List.singleton_append, List.cons_append,
          readBody_escape, Ne, push_eq_some_iff]
        intro both
        apply later rest rfl surplus
        rw [both.2, List.replicate_succ']
        simp
      · have first : ∃ byte more, byte ≠ backslash ∧ escapeByte next = byte :: more ∨
            (next = 0 ∧ escapeByte next = backslash :: chr '0' :: more) := by
          by_cases isQuote : next = quote
          · exact ⟨quote, [next], .inl ⟨quote_ne_backslash, by simp [escapeByte, isQuote]⟩⟩
          · by_cases nul : next = 0
            · exact ⟨next, [0], .inr ⟨nul, by subst nul; decide⟩⟩
            · exact ⟨next, [], .inl ⟨isBackslash, by simp [escapeByte, isQuote, nul]⟩⟩
        obtain ⟨byte, more, ⟨notBackslash, shown⟩ | ⟨rfl, shown⟩⟩ := first
        · rw [escapeValue_cons, shown, List.cons_append, List.cons_append, readBody_escape, Ne,
            push_eq_some_iff]
          exact fun both => notBackslash both.1
        · -- the NUL was written as `\0`, whose backslash is the one taken
          rw [escapeValue_cons, shown, List.cons_append, List.cons_append, List.cons_append,
            List.cons_append, readBody_escape, readBody_ordinary (by decide) (by decide), Ne,
            push_eq_some_iff]
          cases surplus with
          | zero =>
              rw [List.replicate_zero, List.nil_append, push_eq_some_iff]
              exact fun both => absurd both.2.1 (by decide)
          | succ surplus =>
              rw [List.replicate_succ, List.cons_append, push_eq_some_iff]
              exact fun both => absurd both.2.1 (by decide)

/-- A literal that has to begin with backslashes its value does not have never
reads back as that. -/
theorem readBody_ne_backslashes (value : List Byte) (surplus : Nat) :
    readBody true (escapeValue value ++ [quote]) ≠
      some (List.replicate (surplus + 1) backslash ++ value, []) := by
  match value with
  | [] =>
      rw [show escapeValue [] = [] from rfl, List.nil_append, readBody_close]
      simp [List.replicate_succ]
  | byte :: value =>
      rw [escapeValue_cons, List.append_assoc]
      by_cases isBackslash : byte = backslash
      · subst isBackslash
        have surplusBackslash :
            List.replicate (surplus + 1) backslash ++ backslash :: value =
              backslash :: (List.replicate (surplus + 1) backslash ++ value) := by
          rw [List.append_cons, ← List.replicate_succ', List.replicate_succ, List.cons_append]
        rw [surplusBackslash]
        exact readBody_backslash_ne value (fun rest _ => readBody_ne_backslashes rest) (surplus + 1)
      · rw [List.replicate_succ, List.cons_append]
        by_cases nul : byte = 0
        · subst nul
          obtain ⟨first, read, -, notBackslash, shown⟩ :=
            readBody_nul true (escapeValue value ++ [quote])
          rw [shown, Ne, push_eq_some_iff]
          exact fun both => notBackslash rfl both.1
        · rw [readBody_escapeByte nul fun _ => isBackslash, Ne, push_eq_some_iff]
          exact fun both => isBackslash both.1
termination_by value.length
decreasing_by all_goals simp_all <;> omega

theorem readBody_escapeValue_iff (value : List Byte) :
    readBody escapes (escapeValue value ++ [quote]) = some (value, []) ↔
      QuotesOnly escapes value := by
  induction value with
  | nil =>
      rw [show escapeValue [] = [] from rfl, List.nil_append, readBody_close]
      simp [QuotesOnly]
  | cons byte value ih =>
      have split : QuotesOnly escapes (byte :: value) ↔
          (byte ≠ 0 ∧ (escapes = true → byte ≠ backslash)) ∧ QuotesOnly escapes value := by
        simp [QuotesOnly]
      rw [escapeValue_cons, List.append_assoc, split]
      by_cases nul : byte = 0
      · subst nul
        obtain ⟨first, read, notNul, -, shown⟩ :=
          readBody_nul escapes (escapeValue value ++ [quote])
        rw [shown, push_eq_some_iff]
        exact ⟨fun both => absurd both.1 notNul, fun both => absurd rfl both.1.1⟩
      · by_cases escape : escapes = true ∧ byte = backslash
        · obtain ⟨rfl, rfl⟩ := escape
          have never :=
            readBody_backslash_ne value (fun rest _ => readBody_ne_backslashes rest) 0
          rw [List.replicate_zero, List.nil_append] at never
          exact ⟨fun read => absurd read never, fun both => absurd rfl (both.1.2 rfl)⟩
        · have notEscape : escapes = true → byte ≠ backslash :=
            fun on same => escape ⟨on, same⟩
          rw [readBody_escapeByte nul notEscape, push_eq_some_iff, ih]
          exact ⟨fun both => ⟨⟨nul, notEscape⟩, both.2⟩, fun both => ⟨rfl, both.2⟩⟩

/-- What is written for a string value is one literal that reads back as the
value exactly if the value has no NUL byte and, where backslash is an escape,
no backslash. -/
theorem performSubstitution_readsBack_iff (unicodeStrings escapes : Bool) (bind : BindValue)
    (value : List Byte) (isString : bind.stringValue? = some value) :
    ReadsBackAs unicodeStrings escapes value (performSubstitution unicodeStrings bind) ↔
      QuotesOnly escapes value := by
  have written : performSubstitution unicodeStrings bind = quoteValue unicodeStrings value := by
    cases bind <;> cases isString <;> rfl
  rw [written, ← readBody_escapeValue_iff]
  constructor
  · rintro ⟨literal, equal, reads⟩
    rw [quoteValue, List.append_cancel_left_eq] at equal
    subst equal
    simpa [IsLiteralOf, readLiteral] using reads
  · intro reads
    exact ⟨_, rfl, by simpa [IsLiteralOf, readLiteral] using reads⟩

/-- The rule is met by a clob full of quotes, under both quoting rules. -/
theorem performSubstitution_readsBack_iff_quotes :
    (BindValue.clob (ascii "O''Brien")).stringValue? = some (ascii "O''Brien") ∧
      (ReadsBackAs true true (ascii "O''Brien")
          (performSubstitution true (.clob (ascii "O''Brien"))) ↔
        QuotesOnly true (ascii "O''Brien")) :=
  ⟨rfl, performSubstitution_readsBack_iff true true (.clob (ascii "O''Brien"))
    (ascii "O''Brien") rfl⟩

/-- With backslash an escape, the value `\' or 1=1 --` closes its literal after
one byte. -/
theorem performSubstitution_closes_early :
    ¬∀ (escapes : Bool) (value : List Byte),
      ReadsBackAs false escapes value (performSubstitution false (.string value)) := by
  intro every
  obtain ⟨literal, written, reads⟩ := every true (ascii "\\' or 1=1 --")
  have closed : readLiteral true (performSubstitution false (.string (ascii "\\' or 1=1 --"))) =
      some (ascii "'", ascii " or 1=1 --'") := by decide
  have same : performSubstitution false (.string (ascii "\\' or 1=1 --")) = literal := written
  rw [same] at closed
  rw [IsLiteralOf, closed] at reads
  revert reads
  decide

end SqlRelay.Bind
