import SqlRelay.Foundation.Suffix
import SqlRelay.Insert.Split

/-!
# When a multi-insert is split exactly

The trigger finds the first set of values on its own, and has to find it where `parseInsert` did.
From there on the sets of values that it cuts out are the query's own as long as the counter of
parentheses does not wrap.
-/

namespace SqlRelay.Insert

open SqlRelay.Foundation SqlRelay.Foundation.CString SqlRelay.Query

variable {quoting : Quoting}

/-! ## A set of values -/

theorem nextValues_eq_some {text rest : List Byte} :
    nextValues text = some rest ↔ text = chr ',' :: rest := by
  cases text with
  | nil => simp [nextValues]
  | cons byte later => simp [nextValues]

theorem head?_of_nextValues {text : List Byte} (ends : nextValues text = none) :
    text.head? ≠ some (chr ',') := by
  cases text with
  | nil => simp
  | cons byte rest => simpa [nextValues] using ends

/-- What is cut out is a part of the text, unless the text ends first. -/
theorem parseValues_append (text : List Byte) :
    (parseValues quoting text).1 ++ (parseValues quoting text).2 = text ∨
      parseValues quoting text = ([], []) := by
  rw [parseValues]
  split
  case h_1 inside rest closes =>
    left
    rw [List.append_assoc, Brackets.close_append closes]
    cases text <;> rfl
  case h_2 => exact Or.inr rfl

/-- The tuple is cut out exactly if its parentheses can be counted. -/
theorem parseValues_tuple_iff {body inside rest : List Byte}
    (closes : quoting.brackets.close id body.length 0 body = some (inside, rest)) :
    (parseValues quoting (chr '(' :: body)).1 = chr '(' :: inside ↔
      quoting.brackets.nesting body.length 0 body < 65536 := by
  rw [← Brackets.close_wrapped_iff (by decide) closes]
  have whole := Brackets.close_append closes
  constructor
  · intro same
    rw [parseValues] at same
    split at same
    case h_1 within after found =>
      simp only [List.take_succ_cons, List.take_zero, List.singleton_append, List.cons.injEq,
        true_and] at same
      subst same
      have after_eq : after = rest := by
        have split := Brackets.close_append found
        exact List.append_cancel_left (split.trans whole.symm)
      rw [← after_eq]
      exact found
    case h_2 => simp at same
  · intro found
    rw [parseValues]
    simp only [List.tail_cons, found]
    rfl

theorem parseValues_tuple {body inside rest : List Byte}
    (closes : quoting.brackets.close id body.length 0 body = some (inside, rest))
    (counted : quoting.brackets.nesting body.length 0 body < 65536) :
    parseValues quoting (chr '(' :: body) = (chr '(' :: inside, rest) := by
  have found := (Brackets.close_wrapped_iff (by decide) closes).mpr counted
  rw [parseValues]
  simp only [List.tail_cons, found]
  rfl

/-! ## The loops -/

theorem tuples_rest_length {body inside rest : List Byte}
    (closes : quoting.brackets.close id body.length 0 body = some (inside, chr ',' :: rest)) :
    rest.length < body.length := by
  have length := congrArg List.length (Brackets.close_append closes)
  simp only [List.length_append, List.length_cons] at length
  omega

/-- The suffix is found behind the last tuple. -/
theorem parseSuffix_tuples {text suffix : List Byte} {tuples : List (List Byte)}
    {deepest fuel : Nat} (values : Tuples quoting text tuples suffix deepest)
    (counted : deepest < 65536) (enough : text.length < fuel) :
    parseSuffix quoting fuel text = contents suffix := by
  induction values generalizing fuel with
  | last closes ends =>
      cases fuel with
      | zero => simp at enough
      | succ fuel =>
          rw [parseSuffix, parseValues_tuple closes counted]
          simp only [ends]
  | more closes later ih =>
      cases fuel with
      | zero => simp at enough
      | succ fuel =>
          have shallow : quoting.brackets.nesting _ 0 _ < 65536 :=
            Nat.lt_of_le_of_lt (Nat.le_max_left _ _) counted
          rw [parseSuffix, parseValues_tuple closes shallow]
          have shorter := tuples_rest_length closes
          simp only [nextValues, if_true]
          apply ih (Nat.lt_of_le_of_lt (Nat.le_max_right _ _) counted)
          rw [List.length_cons] at enough
          omega

/-- The suffix does not go on with another set of values. -/
theorem parseSuffix_head? {text : List Byte} {fuel : Nat} (enough : text.length < fuel) :
    (parseSuffix quoting fuel text).head? ≠ some (chr ',') := by
  induction fuel generalizing text with
  | zero => simp at enough
  | succ fuel ih =>
      rw [parseSuffix]
      split
      case h_1 later next =>
        apply ih
        rw [nextValues_eq_some] at next
        rcases @parseValues_append quoting text with whole | nothing
        · have length := congrArg List.length whole
          rw [next, List.length_append, List.length_cons] at length
          omega
        · simp [nothing] at next
      case h_2 ends =>
        have head := head?_of_nextValues ends
        generalize (parseValues quoting text).2 = rest at head
        cases rest with
        | nil => simp
        | cons byte rest =>
            rw [contents_cons]
            split
            · simp
            · simpa using head

section Loop

variable {outcome : Nat → Option Nat} {before suffix text rest : List Byte} {fuel number rows : Nat}

theorem singleInserts_failed (failed : outcome number = none) :
    (singleInserts quoting outcome before suffix (fuel + 1) number text).statements =
      [before ++ (parseValues quoting text).1 ++ suffix] := by
  rw [singleInserts, failed]

theorem singleInserts_last (succeeded : outcome number = some rows)
    (ends : nextValues (parseValues quoting text).2 = none) :
    (singleInserts quoting outcome before suffix (fuel + 1) number text).statements =
      [before ++ (parseValues quoting text).1 ++ suffix] := by
  rw [singleInserts, succeeded]
  simp only [ends]

theorem singleInserts_more (succeeded : outcome number = some rows)
    (next : (parseValues quoting text).2 = chr ',' :: rest) :
    (singleInserts quoting outcome before suffix (fuel + 1) number text).statements =
      (before ++ (parseValues quoting text).1 ++ suffix) ::
        (singleInserts quoting outcome before suffix fuel (number + 1) rest).statements := by
  rw [singleInserts, succeeded]
  simp only [next, nextValues, if_true]
  rfl

/-- The first statement has the first set of values. -/
theorem singleInserts_first {first : List Byte} {later : List (List Byte)}
    (ran : (singleInserts quoting outcome before suffix fuel number text).statements =
      first :: later) : first = before ++ (parseValues quoting text).1 ++ suffix := by
  cases fuel with
  | zero => simp [singleInserts] at ran
  | succ fuel =>
      cases result : outcome number with
      | none =>
          rw [singleInserts_failed result] at ran
          exact (List.cons.inj ran).1.symm
      | some rows =>
          cases next : nextValues (parseValues quoting text).2 with
          | none =>
              rw [singleInserts_last result next] at ran
              exact (List.cons.inj ran).1.symm
          | some rest =>
              rw [singleInserts_more result (nextValues_eq_some.mp next)] at ran
              exact (List.cons.inj ran).1.symm

/-- Two statements were run: a comma was found after the values of the first. -/
theorem singleInserts_two {first second : List Byte} {later : List (List Byte)}
    (ran : (singleInserts quoting outcome before suffix fuel number text).statements =
      first :: second :: later) :
    ∃ rest, (parseValues quoting text).2 = chr ',' :: rest ∧
      second = before ++ (parseValues quoting rest).1 ++ suffix := by
  cases fuel with
  | zero => simp [singleInserts] at ran
  | succ fuel =>
      cases result : outcome number with
      | none =>
          rw [singleInserts_failed result] at ran
          simp at ran
      | some rows =>
          cases next : nextValues (parseValues quoting text).2 with
          | none =>
              rw [singleInserts_last result next] at ran
              simp at ran
          | some rest =>
              rw [nextValues_eq_some] at next
              rw [singleInserts_more result next] at ran
              exact ⟨rest, next, singleInserts_first (List.cons.inj ran).2⟩

/-- From the first tuple on, the statements are those of the tuples exactly if every parenthesis is
counted and no statement but the last fails. -/
theorem singleInserts_tuples_iff {ending : List Byte} {tuples : List (List Byte)} {deepest : Nat}
    (values : Tuples quoting text tuples suffix deepest) (enough : text.length < fuel) :
    (singleInserts quoting outcome before ending fuel number text).statements =
        tuples.map (fun tuple => before ++ tuple ++ ending) ↔
      deepest < 65536 ∧
        ∀ index, index + 1 < tuples.length → (outcome (number + index)).isSome = true := by
  induction values generalizing fuel number with
  | @last body inside suffix closes ends =>
      cases fuel with
      | zero => simp at enough
      | succ fuel =>
          rw [← parseValues_tuple_iff closes]
          constructor
          · intro same
            have first := singleInserts_first same
            simp only [List.append_cancel_right_eq, List.append_cancel_left_eq] at first
            simp [first]
          · rintro ⟨first, _⟩
            rw [parseValues_tuple_iff closes] at first
            have cut := parseValues_tuple closes first
            cases result : outcome number with
            | none => rw [singleInserts_failed result, cut, List.map_singleton]
            | some rows =>
                rw [singleInserts_last result (by rw [cut]; exact ends), cut, List.map_singleton]
  | @more body inside rest suffix tuples deepest closes later ih =>
      cases fuel with
      | zero => simp at enough
      | succ fuel =>
          have shorter := tuples_rest_length closes
          rw [List.length_cons] at enough
          have onwards := @ih fuel (number + 1) (by omega)
          have some_later : tuples ≠ [] := by cases later <;> simp
          rw [Nat.max_lt, ← parseValues_tuple_iff closes, and_assoc]
          constructor
          · intro same
            have first := singleInserts_first same
            simp only [List.append_cancel_right_eq, List.append_cancel_left_eq] at first
            have counted := (parseValues_tuple_iff closes).mp first.symm
            have cut := parseValues_tuple closes counted
            cases result : outcome number with
            | none =>
                rw [singleInserts_failed result] at same
                have nothing := (List.cons.inj same).2
                exact absurd (List.map_eq_nil_iff.mp nothing.symm) some_later
            | some rows =>
                rw [singleInserts_more result (by rw [cut])] at same
                obtain ⟨deep, successes⟩ := onwards.mp (List.cons.inj same).2
                refine ⟨first.symm, deep, ?_⟩
                intro index within
                cases index with
                | zero => simp [result]
                | succ index =>
                    have success := successes index (by simpa using within)
                    rwa [Nat.add_right_comm, Nat.add_assoc] at success
          · rintro ⟨first, deep, successes⟩
            rw [parseValues_tuple_iff closes] at first
            have cut := parseValues_tuple closes first
            have one : (outcome number).isSome = true :=
              successes 0 (by simpa [List.length_pos_iff] using some_later)
            obtain ⟨rows, result⟩ := Option.isSome_iff_exists.mp one
            rw [singleInserts_more result (by rw [cut]), cut, List.map_cons]
            congr 1
            apply onwards.mpr
            refine ⟨deep, ?_⟩
            intro index within
            have success := successes (index + 1) (by simpa using within)
            rwa [← Nat.add_assoc, Nat.add_right_comm] at success

end Loop

/-! ## The header -/

/-- Only letters have another lower case. -/
theorem eq_of_toLowerCase {byte other : Byte} (lower : toLowerCase byte = other)
    (small : other < chr 'a') : byte = other := by
  rw [toLowerCase] at lower
  split at lower
  case isTrue upper =>
    have isA : (chr 'A').toNat = 65 := by decide
    have isZ : (chr 'Z').toNat = 90 := by decide
    have isa : (chr 'a').toNat = 97 := by decide
    simp only [Bool.and_eq_true, decide_eq_true_eq, UInt8.le_iff_toNat_le] at upper
    rw [← lower, UInt8.lt_iff_toNat_lt, UInt8.toNat_add] at small
    have plus : (32 : Byte).toNat = 32 := by decide
    omega
  case isFalse => exact lower

/-- A keyword that a parenthesis follows. -/
theorem keyword_paren {text front : List Byte}
    (starts : startsWithIgnoringCase text (front ++ [chr '(']) = true) :
    ∃ keyword, text = keyword ++ chr '(' :: text.drop (front.length + 1) ∧
      keyword.length = front.length ∧ keyword.map toLowerCase = front.map toLowerCase := by
  obtain ⟨written, rest, rfl, same⟩ := startsWithIgnoringCase_iff.mp starts
  rw [List.map_append, List.map_singleton] at same
  obtain ⟨keyword, last, rfl, lower, paren⟩ := List.map_eq_append_iff.mp same
  obtain ⟨byte, rfl, isParen⟩ := List.map_eq_singleton_iff.mp paren
  obtain rfl := eq_of_toLowerCase (isParen.trans (by decide : _ = chr '(')) (by decide)
  have length : keyword.length = front.length := by simpa using congrArg List.length lower
  refine ⟨keyword, ?_, length, lower⟩
  rw [← length, List.append_assoc, List.singleton_append, ← List.drop_drop, List.drop_left]
  rfl

/-- A keyword that starts with these letters. -/
theorem keyword_letters {keyword rest : List Byte}
    (lower : keyword.map toLowerCase = chr 'v' :: chr 'a' :: rest) :
    ∃ first second later, keyword = first :: second :: later ∧ toLowerCase first = chr 'v' ∧
      toLowerCase second = chr 'a' := by
  obtain ⟨first, tail, rfl, isFirst, lower⟩ := List.map_eq_cons_iff.mp lower
  obtain ⟨second, later, rfl, isSecond, _⟩ := List.map_eq_cons_iff.mp lower
  exact ⟨first, second, later, rfl, isFirst, isSecond⟩

/-- What stands before the parenthesis, and where the trigger finds the parenthesis. -/
theorem valuesKeyword_eq {text rawValues : List Byte}
    (keyword : valuesKeyword text = some rawValues) :
    ∃ first second later, text = first :: second :: later ++ chr '(' :: rawValues ∧
      toLowerCase first = chr 'v' ∧ toLowerCase second = chr 'a' ∧
      skipValuesKeyword text = chr '(' :: rawValues := by
  rw [valuesKeyword] at keyword
  split at keyword
  case isTrue starts =>
    obtain ⟨word, whole, length, lower⟩ :=
      @keyword_paren text (ascii "values") (starts.2 : startsWithIgnoringCase text _ = true)
    obtain ⟨first, second, later, rfl, isFirst, isSecond⟩ := keyword_letters lower
    obtain rfl := Option.some.inj keyword
    have dropped := congrArg (List.drop (ascii "values").length) whole
    rw [← length, List.drop_left, length] at dropped
    refine ⟨first, second, later, whole, isFirst, isSecond, ?_⟩
    rw [skipValuesKeyword, if_pos starts.2]
    exact dropped
  case isFalse notTight =>
    split at keyword
    case isTrue starts =>
      have spaced : startsWithIgnoringCase text (ascii "values(") = false := by
        rw [← Bool.not_eq_true]
        intro tight
        exact notTight ⟨Nat.lt_of_succ_lt starts.1, tight⟩
      obtain ⟨word, whole, length, lower⟩ :=
        @keyword_paren text (ascii "values ") (starts.2 : startsWithIgnoringCase text _ = true)
      obtain ⟨first, second, later, rfl, isFirst, isSecond⟩ := keyword_letters lower
      obtain rfl := Option.some.inj keyword
      have dropped := congrArg (List.drop (ascii "values ").length) whole
      rw [← length, List.drop_left, length] at dropped
      refine ⟨first, second, later, whole, isFirst, isSecond, ?_⟩
      rw [skipValuesKeyword, spaced, if_neg (by simp), if_pos starts.2]
      exact dropped
    case isFalse => contradiction

theorem skipValuesKeyword_of_ne {byte : Byte} {rest : List Byte}
    (differs : toLowerCase byte ≠ chr 'v') :
    skipValuesKeyword (byte :: rest) = byte :: rest := by
  have no : ∀ literal : List Byte,
      startsWithIgnoringCase (byte :: rest) (chr 'v' :: literal) = false := by
    intro literal
    have lower : toLowerCase (chr 'v') = chr 'v' := by decide
    simp [startsWithIgnoringCase, lower, differs]
  rw [skipValuesKeyword, if_neg, if_neg]
  · rw [Bool.not_eq_true]
    exact no (ascii "alues (")
  · rw [Bool.not_eq_true]
    exact no (ascii "alues(")

/-! ### Scanners go forward -/

theorem skipFrom_suffix (inComment : Bool) (text : List Byte) : skipFrom inComment text <:+ text := by
  induction text generalizing inComment with
  | nil => exact List.suffix_refl _
  | cons byte rest ih =>
      rw [skipFrom]
      split_ifs
      · exact List.suffix_refl _
      · exact (ih _).trans (List.suffix_cons _ _)
      · exact (ih _).trans (List.suffix_cons _ _)
      · exact (ih _).trans (List.suffix_cons _ _)
      · exact List.suffix_refl _

theorem findFirst_suffix {needle : Byte} {text found : List Byte}
    (finds : findFirst needle text = some found) : found <:+ text := by
  induction text with
  | nil => simp [findFirst] at finds
  | cons byte rest ih =>
      rw [findFirst] at finds
      split_ifs at finds
      · exact Option.some.inj finds ▸ List.suffix_refl _
      · exact (ih finds).trans (List.suffix_cons _ _)

theorem skipSpace_suffix {quoted : Bool} {text after : List Byte}
    (skips : skipSpace quoted text = some after) : after <:+ text := by
  cases text with
  | nil => simp [skipSpace] at skips
  | cons byte rest =>
      rw [skipSpace] at skips
      split at skips
      · exact Option.some.inj skips ▸ List.suffix_cons _ _
      · exact Option.some.inj skips ▸ List.suffix_refl _

theorem skipTableName_suffix {start after : List Byte}
    (skips : skipTableName quoting start = some after) : after <:+ start := by
  rw [skipTableName] at skips
  split at skips
  · exact (skipSpace_suffix skips).trans (List.drop_suffix _ _)
  · obtain ⟨found, finds, skips⟩ := Option.bind_eq_some_iff.mp skips
    exact (skipSpace_suffix skips).trans (findFirst_suffix finds)

theorem findCommaOrCloseParen_suffix {fuel depth : Nat} {text found : List Byte}
    (finds : quoting.findCommaOrCloseParen fuel depth text = some found) : found <:+ text := by
  induction fuel generalizing depth text with
  | zero => simp [Quoting.findCommaOrCloseParen] at finds
  | succ fuel ih =>
      cases text with
      | nil => simp [Quoting.findCommaOrCloseParen] at finds
      | cons byte rest =>
          have later : ∀ {depth : Nat} {text : List Byte}, text <:+ rest →
              quoting.findCommaOrCloseParen fuel depth text = some found →
                found <:+ byte :: rest := fun suffix finds =>
            (ih finds).trans (suffix.trans (List.suffix_cons _ _))
          unfold Quoting.findCommaOrCloseParen at finds
          split at finds
          · exact later (List.drop_suffix _ _) finds
          · split at finds
            · exact later (List.suffix_refl _) finds
            · split at finds
              · split at finds
                · exact Option.some.inj finds ▸ List.suffix_refl _
                · exact later (List.suffix_refl _) finds
              · split at finds
                · exact Option.some.inj finds ▸ List.suffix_refl _
                · exact later (List.suffix_refl _) finds

theorem columnsEnd_suffix {fuel : Nat} {text close : List Byte}
    (ends : quoting.columnsEnd fuel text = some close) : close <:+ text := by
  induction fuel generalizing text with
  | zero => simp [Quoting.columnsEnd] at ends
  | succ fuel ih =>
      rw [Quoting.columnsEnd] at ends
      split at ends
      case h_1 => contradiction
      case h_2 found finds =>
        split at ends
        · exact Option.some.inj ends ▸ findCommaOrCloseParen_suffix finds
        · exact (ih ends).trans ((List.drop_suffix _ _).trans (findCommaOrCloseParen_suffix finds))

/-! ### Two ways to the first set of values -/

/-- What `parseInsert` has gone through when it reports a multi-insert. -/
theorem parseInsert_multi {query rawValues : List Byte}
    (parsed : parseInsert quoting query = some ⟨.multiInsert, some rawValues⟩) :
    startsWithIgnoringCase (skipWhitespaceAndComments query) insertInto = true ∧
      ∃ table columns, skipTableName quoting ((skipWhitespaceAndComments query).drop 12) =
          some table ∧
        skipColumns quoting table = some columns ∧ valuesKeyword columns = some rawValues ∧
        firstValuesMulti quoting rawValues = true := by
  simp only [parseInsert] at parsed
  split at parsed
  case isTrue starts =>
    refine ⟨starts.2, ?_⟩
    split at parsed
    case h_1 => contradiction
    case h_2 => contradiction
    case h_3 byte rest table =>
      split at parsed
      case h_1 => contradiction
      case h_2 => contradiction
      case h_3 byte' rest' columns =>
        split at parsed
        case h_1 values keyword =>
          simp only [Option.some.injEq, Parsed.mk.injEq] at parsed
          obtain ⟨kind, rfl⟩ := parsed
          refine ⟨_, _, table, columns, keyword, ?_⟩
          by_contra single
          rw [if_neg single] at kind
          contradiction
        case h_2 => simp at parsed
  case isFalse =>
    split at parsed
    · simp at parsed
    · simp at parsed

theorem whitespace_lower {byte : Byte} (white : isWhitespace byte = true) :
    toLowerCase byte ≠ chr 'v' ∧ byte ≠ chr '(' := by
  simp only [isWhitespace, Bool.or_eq_true, beq_iff_eq] at white
  rcases white with ((((rfl | rfl) | rfl) | rfl) | rfl) | rfl <;> decide

/-- The trigger finds the first parenthesis after `shift` bytes that it should have passed; there
are none exactly if a list of columns is followed by one whitespace character. -/
theorem parsePrefix_shift {query rawValues : List Byte}
    (parsed : parseInsert quoting query = some ⟨.multiInsert, some rawValues⟩) :
    ∃ shift, parsePrefix quoting query = some (shift ++ chr '(' :: rawValues) ∧
      shift ++ chr '(' :: rawValues <:+ query ∧ shift.head? ≠ some (chr '(') ∧
      (shift = [] ↔ ∀ gap ∈ columnGap quoting query, gap = 1) := by
  obtain ⟨_, table, columns, named, listed, keyword, _⟩ := parseInsert_multi parsed
  have tableSuffix : table <:+ query := (skipTableName_suffix named).trans
    ((List.drop_suffix _ _).trans (skipFrom_suffix _ _))
  obtain ⟨first, second, later, whole, isFirst, isSecond, skipped⟩ := valuesKeyword_eq keyword
  by_cases list : peek table = chr '('
  · rw [skipColumns, if_pos list] at listed
    obtain ⟨close, ends, rfl⟩ := Option.map_eq_some_iff.mp listed
    have closeSuffix : close.drop 1 <:+ query := (List.drop_suffix _ _).trans
      ((columnsEnd_suffix ends).trans ((List.drop_suffix _ _).trans tableSuffix))
    have found : parsePrefix quoting query = some (skipValuesKeyword ((close.drop 1).drop 1)) := by
      simp only [parsePrefix, named, if_pos list, ends, Option.map_some, List.drop_drop]
    have gaps : columnGap quoting query = some ((close.drop 1).takeWhile isWhitespace).length := by
      simp only [columnGap, named, if_pos list, ends, Option.map_some]
    rw [found, gaps]
    have split := (List.takeWhile_append_dropWhile (p := isWhitespace) (l := close.drop 1)).symm
    have whites : ∀ byte ∈ (close.drop 1).takeWhile isWhitespace, isWhitespace byte = true :=
      fun _ member => List.mem_takeWhile_imp member
    generalize (close.drop 1).takeWhile isWhitespace = gap at split whites
    generalize (close.drop 1).dropWhile isWhitespace = columns at *
    rw [split] at closeSuffix ⊢
    cases gap with
    | nil =>
        refine ⟨second :: later, ?_, ?_, ?_, by simp⟩
        · rw [List.nil_append, whole, List.cons_append, List.drop_one, List.tail_cons,
            List.cons_append, skipValuesKeyword_of_ne (by rw [isSecond]; decide)]
        · rw [List.nil_append, whole, List.cons_append] at closeSuffix
          exact (List.suffix_cons _ _).trans closeSuffix
        · intro paren
          rw [List.head?_cons, Option.some.injEq] at paren
          rw [paren] at isSecond
          exact absurd isSecond (by decide)
    | cons white gap =>
        cases gap with
        | nil =>
            refine ⟨[], ?_, ?_, by simp, by simp⟩
            · rw [List.singleton_append, List.drop_one, List.tail_cons, skipped, List.nil_append]
            · rw [whole] at closeSuffix
              exact (List.suffix_append _ _).trans ((List.suffix_append _ _).trans closeSuffix)
        | cons other gap =>
            obtain ⟨lower, notParen⟩ := whitespace_lower (whites other (by simp))
            refine ⟨other :: gap ++ (first :: second :: later), ?_, ?_, ?_, by simp⟩
            · rw [List.cons_append, List.drop_one, List.tail_cons, List.cons_append,
                skipValuesKeyword_of_ne lower, whole]
              simp
            · rw [whole, List.cons_append] at closeSuffix
              rw [List.append_assoc]
              exact (List.suffix_cons _ _).trans closeSuffix
            · simpa using notParen
  · rw [skipColumns, if_neg list] at listed
    obtain rfl := Option.some.inj listed
    refine ⟨[], ?_, ?_, by simp, ?_⟩
    · simp only [parsePrefix, named, if_neg list, Option.map_some, skipped, List.nil_append]
    · rw [whole] at tableSuffix
      exact (List.suffix_append _ _).trans tableSuffix
    · simp [columnGap, named, list]

theorem determineQueryType_insert {query : List Byte}
    (starts : startsWithIgnoringCase (skipWhitespaceAndComments query) insertInto = true) :
    determineQueryType query = .insert := by
  obtain ⟨written, rest, split, same⟩ := startsWithIgnoringCase_iff.mp starts
  have parts : insertInto.map toLowerCase =
      (ascii "insert").map toLowerCase ++ chr ' ' :: (ascii "into ").map toLowerCase := by decide
  rw [parts] at same
  obtain ⟨word, later, rfl, isInsert, spaced⟩ := List.map_eq_append_iff.mp same
  obtain ⟨space, others, rfl, isSpace, _⟩ := List.map_eq_cons_iff.mp spaced
  obtain rfl := eq_of_toLowerCase isSpace (by decide)
  have length : word.length = 6 := by
    have six : (ascii "insert").length = 6 := by decide
    rw [← six]
    simpa using congrArg List.length isInsert
  have front : ((skipWhitespaceAndComments query).take 6).map toLowerCase =
      (ascii "insert").map toLowerCase := by
    rw [split, List.append_assoc, ← length, List.take_left, isInsert]
  have back : (skipWhitespaceAndComments query).drop 6 = chr ' ' :: others ++ rest := by
    rw [split, List.append_assoc, ← length, List.drop_left]
  have notSelect : startsWithIgnoringCase (skipWhitespaceAndComments query) (ascii "select") =
      false := by
    rw [← Bool.not_eq_true, startsWithIgnoringCase, beq_iff_eq]
    intro isSelect
    exact absurd (front.symm.trans isSelect) (by decide)
  have isKeyword : startsWithIgnoringCase (skipWhitespaceAndComments query) (ascii "insert") =
      true := by
    rw [startsWithIgnoringCase, beq_iff_eq]
    exact front
  rw [determineQueryType, leadingKeyword, notSelect, isKeyword, if_neg (by simp), if_pos rfl]
  simp only [back, List.cons_append, peek_cons]
  decide

/-! ## The whole query -/

variable {query header suffix rawValues : List Byte} {tuples : List (List Byte)} {deepest : Nat}

theorem Tuples.head? {text : List Byte} (parts : Tuples quoting text tuples suffix deepest) :
    (∃ tuple later, tuples = tuple :: later) ∧ text.head? = some (chr '(') ∧
      suffix.head? ≠ some (chr ',') := by
  induction parts with
  | last closes ends => exact ⟨⟨_, _, rfl⟩, rfl, head?_of_nextValues ends⟩
  | more closes later ih => exact ⟨⟨_, _, rfl⟩, rfl, ih.2.2⟩

/-- There are at least two tuples. -/
theorem MultiInsert.two
    (multi : MultiInsert quoting query header tuples suffix deepest rawValues) :
    ∃ first second later rest, tuples = first :: second :: later ∧
      chr '(' :: rawValues = first ++ chr ',' :: rest ∧ rest.head? = some (chr '(') := by
  obtain ⟨_, _, _, _, _, _, multiple⟩ := parseInsert_multi multi.classified
  have values := multi.values
  cases values with
  | last closes ends =>
      rw [firstValuesMulti, closes] at multiple
      exact absurd (beq_iff_eq.mp multiple) (head?_of_nextValues ends)
  | @more _ inside rest _ tuples _ closes later =>
      obtain ⟨⟨second, others, rfl⟩, opens, _⟩ := later.head?
      refine ⟨_, second, others, rest, rfl, ?_, opens⟩
      rw [List.cons_append, Brackets.close_append closes]

/-- What is run for the query, when anything is. -/
theorem splitMultiInsert_statements {execution : Execution} {values before : List Byte}
    (parsed : parseInsert quoting query = some ⟨.multiInsert, some rawValues⟩)
    (found : parsePrefix quoting query = some values) (whole : before ++ values = query)
    (unsuppressed : execution.querySuppressed = false) (opens : execution.cursorOpens = true) :
    (splitMultiInsert quoting execution query).inserts.statements =
      (singleInserts quoting execution.outcome before
        (parseSuffix quoting (values.length + 1) values) (values.length + 1) 0
        values).statements := by
  have kind := determineQueryType_insert (parseInsert_multi parsed).1
  have cut : query.take (query.length - values.length) = before := by
    rw [← whole, List.length_append, Nat.add_sub_cancel, List.take_left]
  rw [splitMultiInsert, unsuppressed, if_neg (by simp), if_neg (by simp [kind]),
    if_neg (by simp [parsed]), found]
  simp only [opens, if_true, cut]

/-- Where something is run, the query was not suppressed and the cursor was opened. -/
theorem splitMultiInsert_runs {execution : Execution}
    (ran : (splitMultiInsert quoting execution query).inserts.statements ≠ []) :
    execution.querySuppressed = false ∧ execution.cursorOpens = true := by
  rcases splitMultiInsert_cases quoting execution query with
    ⟨suppressed, result⟩ | ⟨_, _, result⟩ | ⟨unsuppressed, opens, _⟩
  · simp [result, notSplit] at ran
  · simp [result] at ran
  · exact ⟨unsuppressed, opens⟩

/-- The trigger runs a single insert for each tuple exactly if it is run at all, a list of columns
is followed by one whitespace character, the parentheses can be counted, the suffix is a C string
and no insert but the last fails. -/
theorem splitExactly_iff (quoting : Quoting) (execution : Execution) (query header : List Byte)
    (tuples : List (List Byte)) (suffix : List Byte) (deepest : Nat) (rawValues : List Byte)
    (multi : MultiInsert quoting query header tuples suffix deepest rawValues) :
    SplitExactly quoting execution query header tuples suffix ↔
      execution.querySuppressed = false ∧ execution.cursorOpens = true ∧
        (∀ gap ∈ columnGap quoting query, gap = 1) ∧ deepest < 65536 ∧ 0 ∉ suffix ∧
        ∀ number, number + 1 < tuples.length → (execution.outcome number).isSome = true := by
  obtain ⟨shift, found, ⟨before, whole⟩, notParen, gaps⟩ := parsePrefix_shift multi.classified
  have headed : header = before ++ shift := by
    rw [← List.append_assoc] at whole
    exact (List.append_cancel_right (whole.trans multi.whole)).symm
  rw [← gaps]
  constructor
  · intro exactly
    obtain ⟨first, second, later, rest, listed, start, opens⟩ := multi.two
    have runs : execution.querySuppressed = false ∧ execution.cursorOpens = true := by
      apply splitMultiInsert_runs
      rw [SplitExactly] at exactly
      rw [exactly, listed]
      simp
    rw [SplitExactly, splitMultiInsert_statements multi.classified found whole runs.1 runs.2]
      at exactly
    have statements := exactly
    rw [listed, List.map_cons, List.map_cons] at statements
    have one := singleInserts_first statements
    obtain ⟨others, next, two⟩ := singleInserts_two statements
    have cut : (parseValues quoting (shift ++ chr '(' :: rawValues)).1 ++ chr ',' :: others =
        shift ++ chr '(' :: rawValues := by
      rcases @parseValues_append quoting (shift ++ chr '(' :: rawValues) with all | nothing
      · rw [← next, all]
      · rw [nothing] at next
        contradiction
    have commas : (before ++ (parseValues quoting (shift ++ chr '(' :: rawValues)).1) ++
        chr ',' :: others = (header ++ first) ++ chr ',' :: rest := by
      rw [List.append_assoc, cut, whole, multi.whole, start, List.append_assoc]
    obtain ⟨_, _, suffixHead⟩ := multi.values.head?
    obtain ⟨same, afterComma, ending⟩ := append_inj_of_separator commas one.symm
      (parseSuffix_head? (Nat.lt_succ_self _)) suffixHead
    have nothing : shift = [] := by
      rw [ending, List.append_cancel_right_eq, headed, List.append_assoc,
        List.append_cancel_left_eq, afterComma] at two
      cases shift with
      | nil => rfl
      | cons byte shift =>
          rcases @parseValues_append quoting rest with all | nothing
          · rw [← two, List.cons_append, List.cons_append] at all
            rw [← all] at opens
            exact absurd opens notParen
          · rw [nothing] at two
            contradiction
    subst nothing
    rw [List.append_nil] at headed
    subst headed
    rw [ending, List.nil_append] at exactly
    obtain ⟨counted, successes⟩ :=
      (singleInserts_tuples_iff multi.values (Nat.lt_succ_self _)).mp exactly
    rw [List.nil_append, parseSuffix_tuples multi.values counted (Nat.lt_succ_self _)] at ending
    refine ⟨runs.1, runs.2, rfl, counted, ?_, by simpa using successes⟩
    rw [← ending]
    exact zero_notMem_contents suffix
  · rintro ⟨unsuppressed, cursor, rfl, counted, noNul, successes⟩
    rw [List.append_nil] at headed
    rw [List.nil_append] at found whole
    subst headed
    rw [SplitExactly, splitMultiInsert_statements multi.classified found whole unsuppressed cursor,
      parseSuffix_tuples multi.values counted (Nat.lt_succ_self _), contents_eq_self noNul]
    exact (singleInserts_tuples_iff multi.values (Nat.lt_succ_self _)).mpr
      ⟨counted, by simpa using successes⟩

/-! ## Two queries -/

/-- The trigger is the first one, and the database accepts everything. -/
def undisturbed : Execution := ⟨false, true, fun _ => some 1⟩

def spacedInsert : List Byte := ascii "insert into t (a) values ('x)'),(f(2)) on conflict"

theorem spacedInsert_multi : MultiInsert plainQuoting spacedInsert (ascii "insert into t (a) values ")
    [ascii "('x)')", ascii "(f(2))"] (ascii " on conflict") 1
    (ascii "'x)'),(f(2)) on conflict") where
  classified := by decide
  whole := by decide
  values := Tuples.more rfl (Tuples.last rfl rfl)

theorem splitExactly_spaced :
    SplitExactly plainQuoting undisturbed spacedInsert (ascii "insert into t (a) values ")
        [ascii "('x)')", ascii "(f(2))"] (ascii " on conflict") ↔
      undisturbed.querySuppressed = false ∧ undisturbed.cursorOpens = true ∧
        (∀ gap ∈ columnGap plainQuoting spacedInsert, gap = 1) ∧ 1 < 65536 ∧
        0 ∉ ascii " on conflict" ∧
        ∀ number, number + 1 < [ascii "('x)')", ascii "(f(2))"].length →
          (undisturbed.outcome number).isSome = true :=
  splitExactly_iff _ _ _ _ _ _ _ _ spacedInsert_multi

/-- Without a space after the list of columns the first letter of the keyword is taken for one. -/
theorem tightInsert_lost :
    ¬ ∀ (quoting : Quoting) (execution : Execution) (query header : List Byte)
      (tuples : List (List Byte)) (suffix : List Byte) (deepest : Nat) (rawValues : List Byte),
      MultiInsert quoting query header tuples suffix deepest rawValues →
        SplitExactly quoting execution query header tuples suffix := by
  intro exactly
  have tight : MultiInsert plainQuoting (ascii "insert into t (a)values (1),(2)")
      (ascii "insert into t (a)values ") [ascii "(1)", ascii "(2)"] [] 0 (ascii "1),(2)") :=
    ⟨by decide, by decide, Tuples.more rfl (Tuples.last rfl rfl)⟩
  have split := exactly plainQuoting undisturbed _ _ _ _ _ _ tight
  rw [SplitExactly] at split
  exact absurd split (by decide)

end SqlRelay.Insert
