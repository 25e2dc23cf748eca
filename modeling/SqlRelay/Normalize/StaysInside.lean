import SqlRelay.Normalize.Passes

/-!
# When the normalize translation stays inside its buffers

A loop that looks for an end-quote tests for the end of the buffer only after its first step, so that
it leaves the buffer if the quote that opens a string is its last byte.  Two passes look back without
asking whether they are at the start.
-/

namespace SqlRelay.Normalize

open SqlRelay.Foundation SqlRelay.Foundation.CString

variable {config : Config}

/-! ## Scanners -/

/-- A scanner for strings that start with such quotes leaves the buffer at a quote that is the last
byte, and takes more than the quote otherwise. -/
inductive Scan.Reads (opens : Byte → Bool) : List Byte → Scan → Prop where
  | absent {text : List Byte} (notOpen : ∀ byte ∈ text.head?, opens byte = false) :
      Reads opens text .absent
  | outside {quote : Byte} (isOpen : opens quote = true) : Reads opens [quote] .outside
  | found {written front after : List Byte} (nonempty : front ≠ [])
      (notLone : ∀ quote, opens quote = true → front ≠ [quote]) :
      Reads opens (front ++ after) (.found written after)

theorem toEndQuote_nil (change : Byte → Byte) (quote : Byte) :
    config.toEndQuote change quote [] = none := by
  rw [Config.toEndQuote]

/-- The loop goes over some bytes and stops at a quote, or has gone over at least one byte. -/
theorem exists_toEndQuote (change : Byte → Byte) (quote : Byte) {text : List Byte}
    (nonempty : text ≠ []) :
    ∃ written front after, config.toEndQuote change quote text = some (written, after) ∧
      text = front ++ after ∧ (front = [] → after ≠ []) := by
  have map_written : ∀ {text : List Byte} (taken front : List Byte), taken ≠ [] →
      (∃ written front after, config.toEndQuote change quote text = some (written, after) ∧
        text = front ++ after ∧ (front = [] → after ≠ [])) →
      ∃ written' front' after',
        (config.toEndQuote change quote text).map (written front) = some (written', after') ∧
          taken ++ text = front' ++ after' ∧ (front' = [] → after' ≠ []) := by
    intro text taken front notEmpty found
    obtain ⟨inside, between, after, found, rfl, -⟩ := found
    refine ⟨front ++ inside, taken ++ between, after, by rw [found]; rfl, by simp, ?_⟩
    intro empty
    exact absurd (List.append_eq_nil_iff.mp empty).1 notEmpty
  fun_induction Config.toEndQuote config change quote text with
  | case1 => exact absurd rfl nonempty
  | case2 => exact ⟨[], [], _, rfl, rfl, fun _ => nonempty⟩
  | case3 byte => exact ⟨_, [byte], [], rfl, rfl, fun same => by cases same⟩
  | case4 byte next rest => exact ⟨_, [byte, next], rest, rfl, rfl, fun same => by cases same⟩
  | case5 byte next rest _ more ih => 
      exact map_written [byte, next] _ (by simp) (ih (fun empty => more (Or.inl empty)))
  | case6 byte next rest => exact ⟨_, [byte, next], rest, rfl, rfl, fun same => by cases same⟩
  | case7 byte next rest _ _ more ih => 
      exact map_written [byte, next] _ (by simp) (ih (fun empty => more (Or.inl empty)))
  | case8 => exact ⟨[], [], _, rfl, rfl, fun _ => nonempty⟩
  | case9 byte rest => exact ⟨_, [byte], _, rfl, rfl, fun same => by cases same⟩
  | case10 byte next rest _ _ _ _ ih => exact map_written [byte] _ (by simp) (ih (by simp))

theorem toEnd_nil (change : Byte → Byte) (quote : Byte) (front : List Byte) :
    config.toEnd change quote front [] = .outside := by
  rw [Config.toEnd, toEndQuote_nil]

theorem toEnd_ne_absent (change : Byte → Byte) (quote : Byte) (front text : List Byte) :
    config.toEnd change quote front text ≠ .absent := by
  rw [Config.toEnd]
  split <;> simp

theorem exists_toEnd (change : Byte → Byte) (quote : Byte) (front : List Byte) {text : List Byte}
    (nonempty : text ≠ []) :
    ∃ written inside after, config.toEnd change quote front text = .found written after ∧
      text = inside ++ after ∧ inside ≠ [] := by
  obtain ⟨written, inside, after, found, same, more⟩ :=
    @exists_toEndQuote config change quote text nonempty
  rw [Config.toEnd, found]
  cases after with
  | nil => exact ⟨_, inside, [], rfl, same, fun empty => more empty rfl⟩
  | cons endQuote rest => exact ⟨_, inside ++ [endQuote], rest, rfl, by simp [same], by simp⟩

/-- Scanning for an end-quote from behind a quote on. -/
theorem reads_toEnd {opens : Byte → Bool} (change : Byte → Byte) {quote : Byte}
    (isOpen : opens quote = true) (front rest : List Byte) :
    Scan.Reads opens (quote :: rest) (config.toEnd change quote front rest) := by
  cases rest with
  | nil =>
      rw [toEnd_nil]
      exact Scan.Reads.outside isOpen
  | cons byte rest =>
      obtain ⟨written, inside, after, found, same, more⟩ :=
        @exists_toEnd config change quote front (byte :: rest) (List.cons_ne_nil _ _)
      rw [found, same, ← List.cons_append]
      apply Scan.Reads.found (List.cons_ne_nil _ _)
      intro other _ lone
      exact more (List.cons.inj lone).2

theorem reads_skipQuotedStrings (set : Byte → Bool) (text : List Byte) :
    Scan.Reads set text (config.skipQuotedStrings set text) := by
  cases text with
  | nil => exact Scan.Reads.absent (by simp)
  | cons byte rest =>
      rw [Config.skipQuotedStrings]
      split
      case isTrue isOpen => exact reads_toEnd id isOpen [byte] rest
      case isFalse closed =>
        apply Scan.Reads.absent
        simpa using closed

/-! ## Lone quotes -/

/-- What the scanner takes belongs together. -/
def cutOf (scan : List Byte → Scan) : Cut Byte := fun text =>
  match scan text with
  | .absent => 0
  | .outside => 1
  | .found _ after => text.length - after.length

/-- No string of the text consists of the quote that opens it alone. -/
def NoLoneQuote (opens : Byte → Bool) (scan : List Byte → Scan) (text : List Byte) : Prop :=
  ∀ quote, opens quote = true → [quote] ∉ (cutOf scan).lexemes text

section

variable {opens : Byte → Bool} {scan : List Byte → Scan}

theorem noLoneQuote_nil : NoLoneQuote opens scan [] := by
  intro quote _ member
  cases member

theorem noLoneQuote_cons {byte : Byte} {rest : List Byte} (absent : scan (byte :: rest) = .absent)
    (notOpen : opens byte = false) :
    NoLoneQuote opens scan (byte :: rest) ↔ NoLoneQuote opens scan rest := by
  have single : cutOf scan (byte :: rest) = 0 := by rw [cutOf, absent]
  have other : ∀ quote, opens quote = true → [quote] ≠ [byte] := by
    intro quote isOpen same
    rw [(List.cons.inj same).1, notOpen] at isOpen
    cases isOpen
  rw [NoLoneQuote, Cut.lexemes_cons_of_zero single]
  apply forall₂_congr
  intro quote isOpen
  rw [List.mem_cons, not_or]
  exact and_iff_right (other quote isOpen)

theorem noLoneQuote_append {front after written : List Byte}
    (found : scan (front ++ after) = .found written after) (nonempty : front ≠ [])
    (notLone : ∀ quote, opens quote = true → front ≠ [quote]) :
    NoLoneQuote opens scan (front ++ after) ↔ NoLoneQuote opens scan after := by
  have whole : cutOf scan (front ++ after) = front.length := by
    rw [cutOf, found]
    simp
  rw [NoLoneQuote, Cut.lexemes_append nonempty whole]
  apply forall₂_congr
  intro quote isOpen
  rw [List.mem_cons, not_or]
  exact and_iff_right (notLone quote isOpen).symm

theorem not_noLoneQuote {quote : Byte} (outside : scan [quote] = .outside)
    (isOpen : opens quote = true) : ¬NoLoneQuote opens scan [quote] := by
  intro clear
  apply clear quote isOpen
  rw [Cut.lexemes_cons]
  simp [cutOf, outside]

end

/-- The strings that every pass but the first one skips. -/
abbrev Quoted (config : Config) (text : List Byte) : Prop :=
  NoLoneQuote isQuote (config.skipQuotedStrings isQuote) text

theorem Scan.Reads.head_closed {opens : Byte → Bool} {text : List Byte}
    (reads : Scan.Reads opens text .absent) : ∀ byte ∈ text.head?, opens byte = false := by
  cases reads with
  | absent notOpen => exact notOpen

/-! ## Fourth pass -/

/-- A string that is scanned from behind its quote on ends where the whole string does. -/
theorem skipInside_eq (text : List Byte) :
    (config.skipQuotedStringsInside singleQuote text = .outside ∧ text = []) ∨
      ∃ written inside whole front after,
        config.skipQuotedStringsInside singleQuote text = .found written after ∧
          config.skipQuotedStrings isQuote (singleQuote :: text) = .found whole after ∧
          singleQuote :: text = front ++ after ∧ inside ≠ [] ∧ front = singleQuote :: inside := by
  have isOpen : isQuote singleQuote = true := by decide
  rw [Config.skipQuotedStringsInside, Config.skipQuotedStrings, if_pos isOpen]
  cases text with
  | nil => exact Or.inl ⟨toEnd_nil _ _ _, rfl⟩
  | cons byte rest =>
      right
      obtain ⟨taken, part, after, found, same, more⟩ :=
        @exists_toEndQuote config id singleQuote (byte :: rest) (List.cons_ne_nil _ _)
      rw [Config.toEnd, Config.toEnd, found]
      cases after with
      | nil =>
          exact ⟨_, part, _, singleQuote :: part, [], rfl, rfl, by rw [same]; rfl,
            fun empty => more empty rfl, rfl⟩
      | cons endQuote later =>
          exact ⟨_, part ++ [endQuote], _, singleQuote :: (part ++ [endQuote]), later, rfl, rfl,
            by rw [same]; simp, by simp, rfl⟩

theorem quoted_cons {byte : Byte} (closed : isQuote byte = false) (rest : List Byte) :
    Quoted config (byte :: rest) ↔ Quoted config rest := by
  apply noLoneQuote_cons _ closed
  rw [Config.skipQuotedStrings, closed]
  rfl

theorem concatenated_eq_some {before text inside : List Byte}
    (behind : Config.concatenated before text = some inside) :
    text = chr '|' :: chr '|' :: singleQuote :: inside := by
  rw [Config.concatenated] at behind
  split at behind
  case isFalse => cases behind
  case isTrue starts =>
    obtain ⟨later, rfl⟩ := startsWith_iff.mp starts.2
    rw [Option.some.injEq] at behind
    rw [← behind]
    rfl

theorem fourthPassFrom_isSome_iff {fuel : Nat} {before translated text : List Byte}
    (enough : text.length < fuel) :
    (config.fourthPassFrom fuel before translated text).isSome = true ↔ Quoted config text := by
  induction fuel generalizing before translated text with
  | zero => cases enough
  | succ fuel ih =>
      have reads := @reads_skipQuotedStrings config isQuote text
      rw [Config.fourthPassFrom.eq_def]
      dsimp only
      cases scanned : config.skipQuotedStrings isQuote text with
      | outside =>
          rw [scanned] at reads
          cases reads with
          | outside isOpen => simpa using not_noLoneQuote scanned isOpen
      | found written after =>
          rw [scanned] at reads
          cases reads with
          | @found _ front _ nonempty notLone =>
              have shorter : after.length < fuel := by
                have positive := List.length_pos_iff.mpr nonempty
                rw [List.length_append] at enough
                omega
              exact (ih shorter).trans (noLoneQuote_append scanned nonempty notLone).symm
      | absent =>
          rw [scanned] at reads
          have closed := reads.head_closed
          cases behind : Config.concatenated before text with
          | none =>
              cases text with
              | nil => exact iff_of_true rfl noLoneQuote_nil
              | cons byte rest =>
                  exact (ih (Nat.lt_of_succ_lt_succ enough)).trans
                    (noLoneQuote_cons scanned (closed byte rfl)).symm
          | some inside =>
              obtain rfl := concatenated_eq_some behind
              have bar : isQuote (chr '|') = false := by decide
              dsimp only
              rw [quoted_cons bar, quoted_cons bar]
              obtain ⟨outside, rfl⟩ | ⟨_, part, _, front, after, found, whole, same, more, rfl⟩ :=
                @skipInside_eq config inside
              · rw [outside]
                apply iff_of_false Bool.false_ne_true
                apply not_noLoneQuote
                · rfl
                · decide
              · rw [found]
                have same' : inside = part ++ after := (List.cons.inj same).2
                have shorter : after.length < fuel := by
                  rw [same'] at enough
                  simp only [List.length_cons, List.length_append] at enough
                  omega
                rw [same] at whole ⊢
                have closes := @noLoneQuote_append isQuote _ _ _ _ whole (List.cons_ne_nil _ _)
                  fun quote _ lone => more (List.cons.inj lone).2
                exact (ih shorter).trans closes.symm

/-! ## Third pass -/

/-- The text starts with a space that is not before a symbol. -/
def LeadingSpace (text : List Byte) : Prop :=
  text.head? = some (chr ' ') ∧ Config.symbols.contains (peek (text.drop 1)) = false

theorem either_isSome {first second : Option Bool} (one : first.isSome = true)
    (other : second.isSome = true) : (either first second).isSome = true := by
  obtain ⟨holds, rfl⟩ := Option.isSome_iff_exists.mp one
  cases holds with
  | true => rfl
  | false => exact other

theorem both_isSome {first second : Option Bool} (one : first.isSome = true)
    (other : second.isSome = true) : (both first second).isSome = true := by
  obtain ⟨holds, rfl⟩ := Option.isSome_iff_exists.mp one
  cases holds with
  | true => exact other
  | false => rfl

theorem isUnary_nil (next : List Byte) : Config.isUnary [] next = false := by
  have longer : ∀ word ∈ Config.unaryWords, Config.endsWord [] next word = false := by
    intro word listed
    have long : ∀ word ∈ Config.unaryWords, ¬word.length - 1 ≤ 0 := by decide
    rw [Config.endsWord, List.length_nil, decide_eq_false (long word listed), Bool.false_and]
  rw [Config.isUnary, List.any_eq_false.mpr fun word listed => by simp [longer word listed]]
  simp

theorem quote_of_found {text written after : List Byte}
    (found : config.skipQuotedStrings isQuote text = .found written after) :
    ∃ quote rest, text = quote :: rest ∧ isQuote quote = true := by
  cases text with
  | nil => cases found
  | cons byte rest =>
      rw [Config.skipQuotedStrings] at found
      split at found
      case isTrue isOpen => exact ⟨byte, rest, rfl, isOpen⟩
      case isFalse => cases found

theorem passedBack_append (front after : List Byte) :
    passedBack (front ++ after) after = front.reverse := by
  simp [passedBack]

/-- Whether to remove a space can be decided unless it is the first byte and not before a symbol. -/
theorem removesSpace_isSome_iff (before next : List Byte) :
    (Config.removesSpace before next).isSome = true ↔
      ¬(before = [] ∧ Config.symbols.contains (peek next) = false) := by
  rw [Config.removesSpace, Config.besideSymbol, Config.besideBracket, Config.besideParenthesis]
  cases before with
  | cons previous before =>
      apply iff_of_true
      · apply either_isSome
        · exact both_isSome (either_isSome rfl (either_isSome rfl rfl)) rfl
        · apply either_isSome
          · exact either_isSome rfl (either_isSome rfl rfl)
          · exact either_isSome (either_isSome rfl rfl) rfl
      · exact fun start => List.cons_ne_nil _ _ start.1
  | nil =>
      cases symbol : Config.symbols.contains (peek next) with
      | false => simp [either, both]
      | true =>
          simp [either, both, isUnary_nil]

theorem thirdPassFrom_isSome_iff {fuel : Nat} {before pass3 text : List Byte}
    (enough : text.length < fuel) :
    (config.thirdPassFrom fuel before pass3 text).isSome = true ↔
      Quoted config text ∧ ¬(before = [] ∧ LeadingSpace text) := by
  induction fuel generalizing before pass3 text with
  | zero => cases enough
  | succ fuel ih =>
      have reads := @reads_skipQuotedStrings config isQuote text
      rw [Config.thirdPassFrom.eq_def]
      dsimp only
      cases scanned : config.skipQuotedStrings isQuote text with
      | outside =>
          rw [scanned] at reads
          cases reads with
          | outside isOpen =>
              apply iff_of_false Bool.false_ne_true
              intro both
              exact not_noLoneQuote scanned isOpen both.1
      | found written after =>
          rw [scanned] at reads
          have noSpace : ¬LeadingSpace text := by
            intro leading
            obtain ⟨quote, rest, rfl, isOpen⟩ := quote_of_found scanned
            obtain rfl : quote = chr ' ' := Option.some.inj leading.1
            exact absurd isOpen (by decide)
          cases reads with
          | @found _ front _ nonempty notLone =>
              have shorter : after.length < fuel := by
                have positive := List.length_pos_iff.mpr nonempty
                rw [List.length_append] at enough
                omega
              dsimp only
              rw [ih shorter, passedBack_append, Quoted, Quoted,
                noLoneQuote_append scanned nonempty notLone]
              simp [nonempty, noSpace]
      | absent =>
          rw [scanned] at reads
          have closed := reads.head_closed
          cases text with
          | nil => exact iff_of_true rfl ⟨noLoneQuote_nil, fun leading => by cases leading.2.1⟩
          | cons byte next =>
              have shorter := Nat.lt_of_succ_lt_succ enough
              have more : ∀ pass3, (config.thirdPassFrom fuel (byte :: before) pass3 next).isSome =
                  true ↔ Quoted config (byte :: next) := by
                intro pass3
                rw [ih shorter, quoted_cons (closed byte rfl)]
                simp
              dsimp only
              split
              case isTrue space =>
                subst space
                have decided := removesSpace_isSome_iff before next
                have leading : LeadingSpace (chr ' ' :: next) ↔
                    Config.symbols.contains (peek next) = false :=
                  and_iff_right rfl
                rw [leading, ← decided]
                cases Config.removesSpace before next with
                | none => simp
                | some removed => simp [more]
              case isFalse other =>
                have noSpace : ¬LeadingSpace (byte :: next) := fun leading =>
                  other (Option.some.inj leading.1)
                rw [more]
                simp [noSpace]

/-! ## Second pass -/

/-- Digits, a comma and a digit. -/
def DecimalAt (text : List Byte) : Prop :=
  peek (text.dropWhile isDigit) = chr ',' ∧ isDigit (peek ((text.dropWhile isDigit).drop 1)) = true

/-- The text starts with a minus sign, digits, if any, a comma and a digit. -/
def LeadingDecimal (text : List Byte) : Prop :=
  text.head? = some (chr '-') ∧ DecimalAt (text.drop 1)

/-- Before the pointer there are only a minus sign, at the start of the buffer, and digits. -/
def NegativeBehind (before : List Byte) : Prop :=
  ∃ digits, before = digits ++ [chr '-'] ∧ ∀ byte ∈ digits, isDigit byte = true

theorem negativeBehind_cons {byte : Byte} {before : List Byte} :
    NegativeBehind (byte :: before) ↔
      (before = [] ∧ byte = chr '-') ∨ (isDigit byte = true ∧ NegativeBehind before) := by
  constructor
  · intro negative
    obtain ⟨digits, same, each⟩ := negative
    cases digits with
    | nil => exact Or.inl ⟨(List.cons.inj same).2, (List.cons.inj same).1⟩
    | cons digit digits =>
        obtain ⟨rfl, rfl⟩ := List.cons.inj same
        rw [List.forall_mem_cons] at each
        exact Or.inr ⟨each.1, digits, rfl, each.2⟩
  · intro either
    obtain ⟨rfl, rfl⟩ | ⟨isDigit, digits, rfl, each⟩ := either
    · exact ⟨[], rfl, by simp⟩
    · exact ⟨byte :: digits, rfl, List.forall_mem_cons.mpr ⟨isDigit, each⟩⟩

theorem not_negativeBehind_nil : ¬NegativeBehind [] := by
  intro negative
  obtain ⟨digits, same, -⟩ := negative
  simp at same

theorem skipDigitsBack_ne_nil {before : List Byte} (nonempty : before ≠ []) :
    Config.skipDigitsBack before ≠ [] := by
  fun_induction Config.skipDigitsBack before with
  | case1 => exact absurd rfl nonempty
  | case2 => exact List.cons_ne_nil _ _
  | case3 byte next more _ ih => exact ih (List.cons_ne_nil _ _)
  | case4 => exact List.cons_ne_nil _ _

/-- Looking back leaves the buffer if there is only a negative number. -/
theorem isDecimalComma_isSome_iff {before : List Byte} (nonempty : before ≠ [])
    (rest : List Byte) :
    (Config.isDecimalComma before rest).isSome = true ↔ ¬NegativeBehind before := by
  have number : Config.skipDigitsBack before = [chr '-'] ↔ NegativeBehind before := by
    induction before with
    | nil => exact absurd rfl nonempty
    | cons byte before ih =>
        rw [negativeBehind_cons]
        cases before with
        | nil => simp [Config.skipDigitsBack, not_negativeBehind_nil]
        | cons next more =>
            rw [Config.skipDigitsBack]
            cases digit : isDigit byte with
            | true => simpa using ih (List.cons_ne_nil _ _)
            | false => simp
  rw [Config.isDecimalComma, ← number]
  cases found : Config.skipDigitsBack before with
  | nil => exact absurd found (skipDigitsBack_ne_nil nonempty)
  | cons byte more =>
      by_cases minus : byte = chr '-'
      · subst minus
        cases more with
        | nil => simp
        | cons next more => simp
      · simp [minus]

theorem decimalAt_cons_digit {byte : Byte} (digit : isDigit byte = true) (rest : List Byte) :
    DecimalAt (byte :: rest) ↔ DecimalAt rest := by
  rw [DecimalAt, DecimalAt, List.dropWhile_cons, if_pos digit]

theorem decimalAt_cons_other {byte : Byte} (other : isDigit byte = false) (rest : List Byte) :
    DecimalAt (byte :: rest) ↔ byte = chr ',' ∧ isDigit (peek rest) = true := by
  rw [DecimalAt, List.dropWhile_cons, other]
  rfl

/-- Where the pass may not look back: at the comma of a decimal that is all there is before it but for
a minus sign. -/
def MeetsStart (before text : List Byte) : Prop :=
  (before = [] ∧ LeadingDecimal text) ∨ (NegativeBehind before ∧ DecimalAt text)

/-- A byte that is not the comma of such a decimal. -/
theorem meetsStart_cons {byte : Byte} {before rest : List Byte}
    (passes : ¬(byte = chr ',' ∧ isDigit (peek rest) = true ∧ before ≠ [])) :
    MeetsStart before (byte :: rest) ↔ MeetsStart (byte :: before) rest := by
  have notStart : ¬(byte :: before = [] ∧ LeadingDecimal rest) := fun start =>
    List.cons_ne_nil _ _ start.1
  rw [MeetsStart, MeetsStart, or_iff_right notStart, negativeBehind_cons]
  have leading : LeadingDecimal (byte :: rest) ↔ byte = chr '-' ∧ DecimalAt rest := by
    rw [LeadingDecimal, List.head?_cons, Option.some.injEq]
    rfl
  rw [leading]
  cases digit : isDigit byte with
  | true =>
      rw [decimalAt_cons_digit digit]
      tauto
  | false =>
      rw [decimalAt_cons_other digit]
      have noComma : ¬(NegativeBehind before ∧ byte = chr ',' ∧ isDigit (peek rest) = true) := by
        intro both
        apply passes
        refine ⟨both.2.1, both.2.2, ?_⟩
        intro empty
        exact not_negativeBehind_nil (empty ▸ both.1)
      simp only [noComma, or_false, Bool.false_eq_true, false_and, and_assoc]

theorem isDigit_or_minus {before : List Byte} (negative : NegativeBehind before) :
    ∀ byte ∈ before, isDigit byte = true ∨ byte = chr '-' := by
  obtain ⟨digits, rfl, each⟩ := negative
  intro byte member
  cases List.mem_append.mp member with
  | inl digit => exact Or.inl (each byte digit)
  | inr minus => exact Or.inr (List.mem_singleton.mp minus)

theorem not_isQuote_of_isWhitespace {byte : Byte} (blank : isWhitespace byte = true) :
    isQuote byte = false := by
  have differs : ∀ other, isWhitespace other = false → byte ≠ other := by
    intro other solid same
    rw [same, solid] at blank
    cases blank
  simp [isQuote, differs singleQuote (by decide), differs doubleQuote (by decide),
    differs backQuote (by decide)]

theorem eq_of_isQuote {byte : Byte} (quote : isQuote byte = true) :
    byte = singleQuote ∨ byte = doubleQuote ∨ byte = backQuote := by
  simpa [isQuote, or_assoc] using quote

/-- A string is no part of a negative number. -/
theorem not_meetsStart_of_isQuote {before front after : List Byte} {quote : Byte}
    (isOpen : isQuote quote = true) (member : quote ∈ front) :
    ¬MeetsStart (front.reverse ++ before) after := by
  intro meets
  cases meets with
  | inl start =>
      rw [(List.reverse_eq_nil_iff.mp (List.append_eq_nil_iff.mp start.1).1)] at member
      cases member
  | inr negative =>
      have inside : quote ∈ front.reverse ++ before :=
        List.mem_append_left _ (List.mem_reverse.mpr member)
      obtain rfl | rfl | rfl := eq_of_isQuote isOpen
      · exact absurd (isDigit_or_minus negative.1 _ inside) (by decide)
      · exact absurd (isDigit_or_minus negative.1 _ inside) (by decide)
      · exact absurd (isDigit_or_minus negative.1 _ inside) (by decide)

theorem not_meetsStart_quote {before rest : List Byte} {quote : Byte}
    (isOpen : isQuote quote = true) : ¬MeetsStart before (quote :: rest) := by
  have notComma : quote ≠ chr ',' := by
    rintro rfl
    exact absurd isOpen (by decide)
  rw [meetsStart_cons fun comma => notComma comma.1]
  exact @not_meetsStart_of_isQuote before [quote] rest quote isOpen List.mem_cons_self

theorem not_meetsStart_nil (before : List Byte) : ¬MeetsStart before [] := by
  have none : ¬DecimalAt [] := fun decimal => absurd decimal.1 (by decide)
  intro meets
  cases meets with
  | inl start => cases start.2.1
  | inr negative => exact none negative.2

theorem secondPassFrom_isSome_iff {fuel : Nat} {before pass2 text : List Byte}
    (enough : text.length < fuel) :
    (config.secondPassFrom fuel before pass2 text).isSome = true ↔
      Quoted config text ∧ ¬MeetsStart before text := by
  induction fuel generalizing before pass2 text with
  | zero => cases enough
  | succ fuel ih =>
      cases text with
      | nil => exact iff_of_true rfl ⟨noLoneQuote_nil, not_meetsStart_nil before⟩
      | cons byte rest =>
          have shorter := Nat.lt_of_succ_lt_succ enough
          have step : isQuote byte = false →
              ¬(byte = chr ',' ∧ isDigit (peek rest) = true ∧ before ≠ []) → ∀ pass2,
              ((config.secondPassFrom fuel (byte :: before) pass2 rest).isSome = true ↔
                Quoted config (byte :: rest) ∧ ¬MeetsStart before (byte :: rest)) := by
            intro closed passes pass2
            rw [ih shorter, quoted_cons closed, meetsStart_cons passes]
          rw [Config.secondPassFrom]
          split
          case isTrue blank =>
            apply step (not_isQuote_of_isWhitespace blank)
            intro comma
            rw [comma.1] at blank
            exact absurd blank (by decide)
          case isFalse =>
            have reads := @reads_skipQuotedStrings config isQuote (byte :: rest)
            cases scanned : config.skipQuotedStrings isQuote (byte :: rest) with
            | outside =>
                rw [scanned] at reads
                apply iff_of_false Bool.false_ne_true
                intro inside
                generalize byte :: rest = text at reads scanned inside
                cases reads with
                | outside isOpen => exact not_noLoneQuote scanned isOpen inside.1
            | found written after =>
                obtain ⟨quote, _, same, isOpen⟩ := quote_of_found scanned
                obtain ⟨rfl, rfl⟩ := List.cons.inj same
                have noStart := @not_meetsStart_quote before rest byte isOpen
                rw [scanned] at reads
                generalize whole : byte :: rest = text at reads scanned noStart enough
                cases reads with
                | @found _ front _ nonempty notLone =>
                    have shorter : after.length < fuel := by
                      have positive := List.length_pos_iff.mpr nonempty
                      rw [List.length_append] at enough
                      omega
                    have member : byte ∈ front := by
                      cases front with
                      | nil => exact absurd rfl nonempty
                      | cons first more => exact (List.cons.inj whole).1 ▸ List.mem_cons_self
                    dsimp only
                    rw [ih shorter, passedBack_append, Quoted, Quoted,
                      noLoneQuote_append scanned nonempty notLone]
                    simp [noStart, not_meetsStart_of_isQuote isOpen member]
            | absent =>
                rw [scanned] at reads
                have closed := reads.head_closed byte rfl
                dsimp only
                split
                case isFalse passes => exact step closed passes _
                case isTrue comma =>
                  obtain ⟨rfl, digit, nonempty⟩ := comma
                  have meets : MeetsStart before (chr ',' :: rest) ↔ NegativeBehind before := by
                    rw [MeetsStart, decimalAt_cons_other (by decide)]
                    simp [nonempty, digit]
                  have later : ¬MeetsStart (chr ',' :: before) rest := by
                    have noDigit : isDigit (chr ',') = false := by decide
                    rw [MeetsStart, negativeBehind_cons]
                    simp [nonempty, noDigit]
                  rw [meets, ← isDecimalComma_isSome_iff nonempty rest]
                  cases Config.isDecimalComma before rest with
                  | none => simp
                  | some decimal =>
                      rw [Option.bind_some, ih shorter, quoted_cons closed]
                      simp [later]

/-! ## First pass -/

/-- The quotes that the first pass looks for an end-quote to. -/
def Config.opensQuote (config : Config) (byte : Byte) : Bool :=
  byte == singleQuote || (byte == doubleQuote && !config.removedq) ||
    (byte == backQuote && !config.removebq)

/-- What the first pass takes at once. -/
def Config.firstScan (config : Config) (text : List Byte) : Scan :=
  if config.isBlank text then .found [] (config.skipBlanks text.length text)
  else config.firstQuoted text

theorem endOfBlock_suffix (text : List Byte) : Config.endOfBlock text <:+ text := by
  induction text with
  | nil => exact List.suffix_refl _
  | cons byte rest ih =>
      rw [Config.endOfBlock]
      split
      · exact (List.drop_suffix 1 rest).trans (List.suffix_cons byte rest)
      · exact ih.trans (List.suffix_cons byte rest)

/-- One comment, or whitespace. -/
theorem exists_skipBlanks_succ {text : List Byte} (blank : config.isBlank text = true)
    (fuel : Nat) :
    ∃ byte rest next, text = byte :: rest ∧ isQuote byte = false ∧ next <:+ rest ∧
      config.skipBlanks (fuel + 1) text = config.skipBlanks fuel next := by
  rw [Config.skipBlanks]
  split
  case isTrue line =>
    cases text with
    | nil => cases line
    | cons first rest =>
        cases rest with
        | nil => cases line
        | cons second rest =>
            have dashes : first = chr '-' ∧ second = chr '-' := by
              simp only [Config.isLineComment, Bool.and_eq_true, beq_iff_eq] at line
              exact line.1
            obtain ⟨rfl, rfl⟩ := dashes
            refine ⟨chr '-', chr '-' :: rest, _, rfl, by decide, ?_, rfl⟩
            rw [List.dropWhile_cons, if_pos (by decide)]
            exact (List.drop_suffix 1 _).trans (List.dropWhile_suffix _)
  case isFalse noLine =>
    split
    case isTrue block =>
      obtain ⟨rest, rfl⟩ := startsWith_iff.mp block
      exact ⟨chr '/', chr '*' :: rest, _, rfl, by decide,
        (endOfBlock_suffix rest).trans (List.suffix_cons _ rest), rfl⟩
    case isFalse noBlock =>
      have white : isWhitespace (peek text) = true := by
        rw [Bool.not_eq_true] at noLine noBlock
        simpa [Config.isBlank, noLine, noBlock] using blank
      rw [if_pos white]
      cases text with
      | nil => cases white
      | cons byte rest =>
          refine ⟨byte, rest, _, rfl, not_isQuote_of_isWhitespace white, ?_, rfl⟩
          · rw [List.dropWhile_cons, if_pos (by exact white)]
            exact List.dropWhile_suffix _

theorem skipBlanks_suffix (fuel : Nat) (text : List Byte) :
    config.skipBlanks fuel text <:+ text := by
  induction fuel generalizing text with
  | zero => exact List.suffix_refl _
  | succ fuel ih =>
      cases blank : config.isBlank text with
      | true =>
          obtain ⟨byte, rest, next, rfl, -, suffix, same⟩ := exists_skipBlanks_succ blank fuel
          rw [same]
          exact (ih next).trans (suffix.trans (List.suffix_cons byte rest))
      | false =>
          simp only [Config.isBlank, Bool.or_eq_false_iff] at blank
          simp [Config.skipBlanks, blank]

theorem unquote_suffix (change : Byte → Byte) (quote : Byte) (text : List Byte) :
    (config.unquote change quote text).2 <:+ text := by
  fun_induction Config.unquote config change quote text with
  | case1 => exact List.suffix_refl _
  | case2 => exact List.suffix_refl _
  | case3 byte => exact List.nil_suffix
  | case4 byte next rest _ ih =>
      exact ih.trans ((List.suffix_cons next rest).trans (List.suffix_cons byte _))
  | case5 => exact List.suffix_refl _
  | case6 byte next rest _ _ ih => exact ih.trans (List.suffix_cons byte _)

theorem isQuote_of_opensQuote {byte : Byte} (isOpen : config.opensQuote byte = true) :
    isQuote byte = true := by
  rw [Config.opensQuote] at isOpen
  rw [isQuote]
  grind

/-- What becomes of strings in double or in back quotes that the pass does not keep as they are. -/
theorem reads_changeQuoted {remove upper lower : Bool} {quote : Byte}
    (opens : config.opensQuote quote = !remove) (byte : Byte) (rest : List Byte) :
    (config.changeQuoted remove upper lower quote (byte :: rest) = .absent ∧
        (byte = quote → (remove || upper || lower) = false)) ∨
      (config.changeQuoted remove upper lower quote (byte :: rest) ≠ .absent ∧
        Scan.Reads config.opensQuote (byte :: rest)
          (config.changeQuoted remove upper lower quote (byte :: rest))) := by
  rw [Config.changeQuoted]
  cases remove with
  | true =>
      rw [if_pos rfl, Config.removeQuotes]
      split
      case isFalse differs => exact Or.inl ⟨rfl, fun same => absurd same differs⟩
      case isTrue same =>
        subst same
        right
        refine ⟨by simp, ?_⟩
        dsimp only
        generalize Config.convert config.uppercase config.lowercase = change
        obtain ⟨front, same⟩ :=
          (List.drop_suffix 1 _).trans (@unquote_suffix config change byte rest)
        generalize config.unquote change byte rest = inside at same
        subst same
        apply @Scan.Reads.found _ _ (byte :: front) _ (List.cons_ne_nil _ _)
        intro other isOpen lone
        rw [← (List.cons.inj lone).1, opens] at isOpen
        cases isOpen
  | false =>
      rw [if_neg Bool.false_ne_true]
      cases changes : (upper || lower) with
      | false =>
          left
          constructor
          · rfl
          · intro _
            rw [Bool.false_or, changes]
      | true =>
          rw [if_pos rfl, Config.caseConvertQuotedStrings]
          split
          case isFalse differs => exact Or.inl ⟨rfl, fun same => absurd same differs⟩
          case isTrue same =>
            subst same
            exact Or.inr ⟨toEnd_ne_absent _ _ _ _, reads_toEnd _ opens [byte] rest⟩

/-- The second scanner is asked if the first one finds nothing. -/
theorem reads_orElse {opens : Byte → Bool} {text : List Byte} {first second : Scan}
    (one : first = .absent ∨ Scan.Reads opens text first)
    (other : first = .absent → Scan.Reads opens text second) :
    Scan.Reads opens text (first.orElse second) := by
  cases first with
  | absent => exact other rfl
  | outside => exact one.resolve_left (by simp)
  | found written after => exact one.resolve_left (by simp)

theorem reads_firstQuoted (text : List Byte) :
    Scan.Reads config.opensQuote text (config.firstQuoted text) := by
  cases text with
  | nil =>
      have absent : config.firstQuoted [] = .absent := by
        simp [Config.firstQuoted, Scan.orElse, Config.skipQuotedStrings, Config.changeDoubleQuoted,
          Config.changeBackQuoted, Config.changeQuoted, Config.removeQuotes,
          Config.caseConvertQuotedStrings]
      rw [absent]
      exact Scan.Reads.absent (by simp)
  | cons byte rest =>
      have double := @reads_changeQuoted config config.removedq config.uppercasedq
        config.lowercasedq doubleQuote (by simp [Config.opensQuote, doubleQuote, singleQuote,
          backQuote]) byte rest
      have back := @reads_changeQuoted config config.removebq config.uppercasebq
        config.lowercasebq backQuote (by simp [Config.opensQuote, doubleQuote, singleQuote,
          backQuote]) byte rest
      apply reads_orElse
      · rw [Config.skipQuotedStrings]
        cases keeps : config.keepsQuote byte with
        | false => exact Or.inl rfl
        | true =>
            have isOpen : config.opensQuote byte = true := by
              rw [Config.keepsQuote] at keeps
              rw [Config.opensQuote]
              grind
            exact Or.inr (reads_toEnd id isOpen [byte] rest)
      · intro notKept
        have reads := @reads_skipQuotedStrings config config.keepsQuote (byte :: rest)
        rw [notKept] at reads
        have notKept := reads.head_closed byte rfl
        apply reads_orElse
        · exact double.imp And.left And.right
        · intro notDouble
          have plainDouble := (double.resolve_right fun changed => changed.1 notDouble).2
          cases back with
          | inr changed => exact changed.2
          | inl same =>
              rw [Config.changeBackQuoted, same.1]
              apply Scan.Reads.absent
              intro first isFirst
              cases isFirst
              have plainBack := same.2
              rw [Config.keepsQuote] at notKept
              rw [Config.opensQuote]
              grind

theorem reads_firstScan (text : List Byte) :
    Scan.Reads config.opensQuote text (config.firstScan text) := by
  rw [Config.firstScan]
  split
  case isFalse => exact reads_firstQuoted text
  case isTrue blank =>
    cases text with
    | nil => cases blank
    | cons byte rest =>
        obtain ⟨_, _, next, same, closed, suffix, skips⟩ :=
          exists_skipBlanks_succ blank rest.length
        obtain ⟨rfl, rfl⟩ := List.cons.inj same
        rw [List.length_cons, skips]
        obtain ⟨front, whole⟩ := (@skipBlanks_suffix config rest.length next).trans suffix
        generalize config.skipBlanks rest.length next = after at whole
        subst whole
        apply @Scan.Reads.found _ _ (byte :: front) _ (List.cons_ne_nil _ _)
        intro quote isOpen lone
        rw [(List.cons.inj lone).1, isQuote_of_opensQuote isOpen] at closed
        cases closed

theorem firstPassFrom_isSome_iff {fuel : Nat} {pass1 text : List Byte}
    (enough : text.length < fuel) :
    (config.firstPassFrom fuel pass1 text).isSome = true ↔
      NoLoneQuote config.opensQuote config.firstScan text := by
  induction fuel generalizing pass1 text with
  | zero => cases enough
  | succ fuel ih =>
      have reads := @reads_firstScan config text
      have goesOn : ∀ pass1 written after, config.firstScan text = .found written after →
          ((config.firstPassFrom fuel pass1 after).isSome = true ↔
            NoLoneQuote config.opensQuote config.firstScan text) := by
        intro pass1 written after found
        rw [found] at reads
        cases reads with
        | @found _ front _ nonempty notLone =>
            have shorter : after.length < fuel := by
              have positive := List.length_pos_iff.mpr nonempty
              rw [List.length_append] at enough
              omega
            exact (ih shorter).trans (noLoneQuote_append found nonempty notLone).symm
      rw [Config.firstPassFrom.eq_def]
      dsimp only
      split
      case isTrue blank => exact goesOn _ _ _ (by rw [Config.firstScan, if_pos blank])
      case isFalse notBlank =>
        have scan : config.firstScan text = config.firstQuoted text := by
          rw [Config.firstScan, if_neg notBlank]
        cases scanned : config.firstQuoted text with
        | outside =>
            rw [scan, scanned] at reads
            cases reads with
            | outside isOpen =>
                apply iff_of_false Bool.false_ne_true
                exact not_noLoneQuote (scan.trans scanned) isOpen
        | found written after => exact goesOn _ _ _ (scan.trans scanned)
        | absent =>
            rw [scan, scanned] at reads
            cases text with
            | nil => exact iff_of_true rfl noLoneQuote_nil
            | cons byte rest =>
                exact (ih (Nat.lt_of_succ_lt_succ enough)).trans
                  (noLoneQuote_cons (scan.trans scanned) (reads.head_closed byte rfl)).symm

/-! ## All passes -/

/-- In no pass does the buffer end with a quote that opens a string; the second pass, if decimals
are converted, does not begin with a negative decimal, and the third not with a space that is not
before a symbol. -/
structure StaysInside (config : Config) (query : List Byte) : Prop where
  first : NoLoneQuote config.opensQuote config.firstScan query
  second : ∀ pass1, config.firstPass query = some pass1 → config.foreigndecimals = true →
    Quoted config pass1 ∧ ¬LeadingDecimal pass1
  third : ∀ pass1 pass2, config.firstPass query = some pass1 → config.secondPass pass1 = some pass2 →
    Quoted config pass2 ∧ ¬LeadingSpace pass2
  fourth : ∀ pass1 pass2 pass3, config.firstPass query = some pass1 →
    config.secondPass pass1 = some pass2 → config.thirdPass pass2 = some pass3 →
    Quoted config pass3

theorem firstPass_isSome_iff (query : List Byte) :
    (config.firstPass query).isSome = true ↔
      NoLoneQuote config.opensQuote config.firstScan query :=
  firstPassFrom_isSome_iff (Nat.lt_succ_self _)

theorem secondPass_isSome_iff (pass1 : List Byte) :
    (config.secondPass pass1).isSome = true ↔
      (config.foreigndecimals = true → Quoted config pass1 ∧ ¬LeadingDecimal pass1) := by
  rw [Config.secondPass]
  cases config.foreigndecimals with
  | false => simp
  | true =>
      have start : MeetsStart [] pass1 ↔ LeadingDecimal pass1 := by
        simp [MeetsStart, not_negativeBehind_nil]
      rw [if_pos rfl, secondPassFrom_isSome_iff (Nat.lt_succ_self _), start]
      simp

theorem thirdPass_isSome_iff (pass2 : List Byte) :
    (config.thirdPass pass2).isSome = true ↔ Quoted config pass2 ∧ ¬LeadingSpace pass2 := by
  rw [Config.thirdPass, thirdPassFrom_isSome_iff (Nat.lt_succ_self _)]
  simp

theorem fourthPass_isSome_iff (pass3 : List Byte) :
    (config.fourthPass pass3).isSome = true ↔ Quoted config pass3 :=
  fourthPassFrom_isSome_iff (Nat.lt_succ_self _)

theorem bind_isSome_iff {α β : Type} {found : Option α} {next : α → Option β} :
    (found.bind next).isSome = true ↔
      found.isSome = true ∧ ∀ value, found = some value → (next value).isSome = true := by
  cases found with
  | none => simp
  | some value => simp

/-- The translation ends without a read outside of its buffers exactly if none of the passes comes
upon one of these. -/
theorem run_isSome_iff (config : Config) (query : List Byte) :
    (config.run query).isSome = true ↔ StaysInside config query := by
  rw [Config.run, bind_isSome_iff, firstPass_isSome_iff]
  simp only [bind_isSome_iff, secondPass_isSome_iff, thirdPass_isSome_iff, fourthPass_isSome_iff]
  constructor
  · intro ends
    constructor
    · exact ends.1
    · intro pass1 first
      exact (ends.2 pass1 first).1
    · intro pass1 pass2 first second
      exact ((ends.2 pass1 first).2 pass2 second).1
    · intro pass1 pass2 pass3 first second third
      exact ((ends.2 pass1 first).2 pass2 second).2 pass3 third
  · intro inside
    constructor
    · exact inside.first
    · intro pass1 first
      constructor
      · exact inside.second pass1 first
      · intro pass2 second
        constructor
        · exact inside.third pass1 pass2 first second
        · intro pass3 third
          exact inside.fourth pass1 pass2 pass3 first second third

/-- The parameters that the translation has if none is given, for a backend that is not mysql. -/
def defaultConfig : Config where
  foreigndecimals := false
  uppercase := false
  lowercase := true
  uppercasedq := false
  lowercasedq := false
  removedq := false
  uppercasebq := false
  lowercasebq := false
  removebq := false
  doubleescape := true
  slashescape := false
  convertslashescape := false
  mysqlnativedb := false

theorem openQuote_leaves :
    ¬∀ (config : Config) (query : List Byte), (config.run query).isSome = true := by
  intro every
  exact absurd (every defaultConfig (ascii "select '")) (by decide)

end SqlRelay.Normalize
