import SqlRelay.Query.Classify

/-!
# What an intercepted text says

An intercepted query is replaced by a controller call and its text is dropped,
so nothing is lost only if the text says no more than the call does.  The text
is read here word by word, independently of the classifier: comments (`--` and
`/* */`) separate words, `;` and `=` are words of their own, and a NUL byte is
neither blank nor part of a comment.
-/

namespace SqlRelay.Query

open SqlRelay.Foundation SqlRelay.Foundation.CString

/-- Where the reader of a text stands.  `blockOpen` is between the two bytes
that open a block comment and `blockStar` after a `*` inside one. -/
inductive Region where
  | text | lineComment | blockOpen | blockComment | blockStar
  deriving DecidableEq, Repr

/-- The text with each comment replaced by a blank. -/
def stripComments : Region → List Byte → List Byte
  | _, [] => []
  | .text, byte :: rest =>
      if byte = chr '-' ∧ peek rest = chr '-' then chr ' ' :: stripComments .lineComment rest
      else if byte = chr '/' ∧ peek rest = chr '*' then
        chr ' ' :: stripComments .blockOpen rest
      else byte :: stripComments .text rest
  | .lineComment, byte :: rest =>
      if byte = 0 ∨ byte = chr '\n' then byte :: stripComments .text rest
      else stripComments .lineComment rest
  | .blockOpen, _ :: rest => stripComments .blockComment rest
  | .blockComment, byte :: rest =>
      if byte = 0 then byte :: stripComments .text rest
      else stripComments (if byte = chr '*' then .blockStar else .blockComment) rest
  | .blockStar, byte :: rest =>
      if byte = 0 then byte :: stripComments .text rest
      else if byte = chr '/' then stripComments .text rest
      else stripComments (if byte = chr '*' then .blockStar else .blockComment) rest

/-- Bytes that are words of their own. -/
def isPunctuation (byte : Byte) : Bool := byte == chr ';' || byte == chr '='

/-- Bytes that end a word. -/
def isSeparator (byte : Byte) : Bool := isWhitespace byte || isPunctuation byte

/-- Split a text without comments into words; `current` is the word being
read. -/
def wordsFrom (current : List Byte) : List Byte → List (List Byte)
  | [] => if current = [] then [] else [current]
  | byte :: rest =>
      if isSeparator byte then
        (if current = [] then [] else [current]) ++
          (if isPunctuation byte then [[byte]] else []) ++ wordsFrom [] rest
      else wordsFrom (current ++ [byte]) rest

/-- The words of a text, in lower case. -/
def words (text : List Byte) : List (List Byte) :=
  (wordsFrom [] (stripComments .text text)).map fun word => word.map toLowerCase

/-- Words that say nothing in a statement that begins or ends a transaction. -/
def isNoiseWord (word : List Byte) : Bool :=
  word == ascii "work" || word == ascii "transaction" || word == ascii "tran"

def dropTrailingSemicolon (words : List (List Byte)) : List (List Byte) :=
  if words.getLast? = some (ascii ";") then words.dropLast else words

/-- The words that say something. -/
def significant (words : List (List Byte)) : List (List Byte) :=
  (dropTrailingSemicolon words).filter fun word => !isNoiseWord word

/-- The first words that stand for a query type. -/
def QueryType.keywords : QueryType → List (List Byte)
  | .begin => [ascii "begin", ascii "start", ascii "bt"]
  | .commit => [ascii "commit", ascii "et"]
  | .rollback => [ascii "rollback"]
  | .autoCommitOn | .autoCommitOff => [ascii "autocommit"]
  | _ => []

def autoCommitValues (on : Bool) : List (List Byte) :=
  if on then [ascii "1", ascii "on", ascii "yes", ascii "immediate"]
  else [ascii "0", ascii "off", ascii "no"]

/-- The significant words of an assignment to `autocommit`, after its name. -/
def IsAssignment (on : Bool) (words : List (List Byte)) : Prop :=
  ∃ value ∈ autoCommitValues on,
    words = [value] ∨ words = [ascii "=", value] ∨ words = [ascii "to", value]

/-- The text is the statement its type stands for and nothing else. -/
def SaysOnly (type : QueryType) (text : List Byte) : Prop :=
  ∃ keyword ∈ type.keywords, ∃ more,
    significant (words text) = keyword :: more ∧
      match type with
      | .autoCommitOn => IsAssignment true more
      | .autoCommitOff => IsAssignment false more
      | _ => more = []

/-- A word that ends where this text begins is complete. -/
def wordEnds (text : List Byte) : Bool :=
  match stripComments .text text with
  | [] => true
  | byte :: _ => isSeparator byte

/-! ## Words and scanners -/

/-! ### Splitting off one word -/

theorem strip_append {word : List Byte}
    (plain : ∀ byte ∈ word, byte ≠ chr '-' ∧ byte ≠ chr '/') (rest : List Byte) :
    stripComments .text (word ++ rest) = word ++ stripComments .text rest := by
  induction word with
  | nil => rfl
  | cons byte word ih =>
      have ⟨notDash, notSlash⟩ := plain byte (by simp)
      simp only [List.cons_append, stripComments, notDash, notSlash, false_and, if_false]
      rw [ih fun other member => plain other (by simp [member])]

theorem wordsFrom_append {word : List Byte} (current : List Byte)
    (plain : ∀ byte ∈ word, isSeparator byte = false) (rest : List Byte) :
    wordsFrom current (word ++ rest) = wordsFrom (current ++ word) rest := by
  induction word generalizing current with
  | nil => simp
  | cons byte word ih =>
      simp only [List.cons_append, wordsFrom, plain byte (by simp)]
      rw [if_neg (by simp), ih _ fun other member => plain other (by simp [member])]
      simp

/-- A nonempty word in progress ends at a separator or goes on. -/
theorem wordsFrom_of_ne_nil {current : List Byte} (nonempty : current ≠ [])
    (rest : List Byte) :
    (rest.head?.all isSeparator = true ∧ wordsFrom current rest = current :: wordsFrom [] rest) ∨
    (rest.head?.all isSeparator = false ∧
      ∃ byte more later, wordsFrom current rest = (current ++ byte :: more) :: later) := by
  induction rest generalizing current with
  | nil => exact .inl ⟨rfl, by simp [wordsFrom, nonempty]⟩
  | cons byte rest ih =>
      cases separator : isSeparator byte with
      | true =>
          refine .inl ⟨by simpa using separator, ?_⟩
          simp [wordsFrom, separator, nonempty]
      | false =>
          refine .inr ⟨by simpa using separator, byte, ?_⟩
          rw [wordsFrom, if_neg (by simp [separator])]
          obtain ⟨-, equal⟩ | ⟨-, next, more, later, equal⟩ :=
            ih (show current ++ [byte] ≠ [] by simp)
          · exact ⟨[], _, equal⟩
          · exact ⟨next :: more, later, by simp [equal]⟩

theorem wordEnds_iff (text : List Byte) :
    wordEnds text = (stripComments .text text).head?.all isSeparator := by
  unfold wordEnds
  cases stripComments .text text <;> rfl

/-- Skipping blanks and line comments changes none of the words that follow. -/
theorem wordsFrom_skipFrom (inComment : Bool) (text : List Byte) :
    wordsFrom [] (stripComments (if inComment then .lineComment else .text) text) =
      wordsFrom [] (stripComments .text (skipFrom inComment text)) := by
  induction text generalizing inComment with
  | nil => cases inComment <;> rfl
  | cons byte rest ih =>
      have newlineSeparates : isSeparator (chr '\n') = true := by decide
      have blankSeparates : isSeparator (chr ' ') = true := by decide
      have newlineBlank : isPunctuation (chr '\n') = false := by decide
      have blankBlank : isPunctuation (chr ' ') = false := by decide
      cases inComment with
      | true =>
          by_cases nul : byte = 0
          · subst nul
            rfl
          · by_cases newline : byte = chr '\n'
            · subst newline
              simpa [stripComments, skipFrom, nul, wordsFrom, newlineSeparates, newlineBlank]
                using ih false
            · have goesOn : (byte != chr '\n') = true := bne_iff_ne.mpr newline
              simpa [stripComments, skipFrom, nul, newline, goesOn] using ih true
      | false =>
          by_cases nul : byte = 0
          · simp [skipFrom, nul]
          · by_cases blank : isWhitespace byte
            · have notPunctuation : isPunctuation byte = false := by
                simp only [isWhitespace, Bool.or_eq_true, beq_iff_eq] at blank
                rcases blank with ((((rfl | rfl) | rfl) | rfl) | rfl) | rfl <;> decide
              have notDash : byte ≠ chr '-' := by rintro rfl; revert blank; decide
              have notSlash : byte ≠ chr '/' := by rintro rfl; revert blank; decide
              simpa [stripComments, skipFrom, nul, blank, notDash, notSlash, wordsFrom,
                isSeparator, notPunctuation] using ih false
            · by_cases comment : byte = chr '-' ∧ peek rest = chr '-'
              · obtain ⟨rfl, dash⟩ := comment
                have notNul : chr '-' ≠ 0 := by decide
                have notBlank : isWhitespace (chr '-') = false := by decide
                simpa [stripComments, skipFrom, notNul, notBlank, dash, wordsFrom,
                  blankSeparates, blankBlank] using ih true
              · simp [skipFrom, nul, blank, comment]

@[simp] theorem words_skip (text : List Byte) :
    words (skipWhitespaceAndComments text) = words text := by
  have same := wordsFrom_skipFrom false text
  simp only [Bool.false_eq_true, if_false] at same
  rw [words, words, same, skipWhitespaceAndComments]

theorem isAlphanumeric_of_toLowerCase {byte : Byte}
    (letter : isAlphanumeric (toLowerCase byte) = true) : isAlphanumeric byte = true := by
  unfold toLowerCase at letter
  split at letter
  next upper =>
    simp only [isAlphanumeric, isAlphabetical, upper, Bool.or_true, Bool.true_or]
  next => exact letter

theorem plain_of_isAlphanumeric {byte : Byte} (letter : isAlphanumeric byte = true) :
    isSeparator byte = false ∧ byte ≠ chr '-' ∧ byte ≠ chr '/' := by
  have differs : ∀ other, isAlphanumeric other = false → byte ≠ other := by
    rintro other notLetter rfl
    simp [letter] at notLetter
  refine ⟨?_, differs _ (by decide), differs _ (by decide)⟩
  simp only [isSeparator, isWhitespace, isPunctuation, Bool.or_eq_false_iff, beq_eq_false_iff_ne]
  exact ⟨⟨⟨⟨⟨⟨differs _ (by decide), differs _ (by decide)⟩, differs _ (by decide)⟩,
    differs _ (by decide)⟩, differs _ (by decide)⟩, differs _ (by decide)⟩,
    differs _ (by decide), differs _ (by decide)⟩

/-- A keyword the scanner found is the first word of the text, or begins it. -/
theorem words_of_startsWith {text keyword : List Byte} (nonempty : keyword ≠ [])
    (lower : keyword.map toLowerCase = keyword)
    (letters : ∀ byte ∈ keyword, isAlphanumeric byte = true)
    (starts : startsWithIgnoringCase text keyword = true) :
    (wordEnds (text.drop keyword.length) = true ∧
      words text = keyword :: words (text.drop keyword.length)) ∨
    (wordEnds (text.drop keyword.length) = false ∧
      ∃ byte more later, words text = (keyword ++ byte :: more) :: later) := by
  obtain ⟨written, rest, rfl, equal⟩ := startsWithIgnoringCase_iff.mp starts
  rw [lower] at equal
  have sameLength : keyword.length = written.length := by simp [← equal]
  have plain : ∀ byte ∈ written,
      isSeparator byte = false ∧ byte ≠ chr '-' ∧ byte ≠ chr '/' := by
    intro byte member
    have letter : isAlphanumeric (toLowerCase byte) = true := by
      apply letters
      rw [← equal]
      exact List.mem_map_of_mem member
    exact plain_of_isAlphanumeric (isAlphanumeric_of_toLowerCase letter)
  have split : wordsFrom [] (stripComments .text (written ++ rest)) =
      wordsFrom written (stripComments .text rest) := by
    rw [strip_append (fun byte member => (plain byte member).2),
      wordsFrom_append [] (fun byte member => (plain byte member).1), List.nil_append]
  have writtenNonempty : written ≠ [] := by
    rintro rfl
    exact nonempty (by simpa using equal.symm)
  rw [sameLength, List.drop_left, wordEnds_iff, words, words, split]
  obtain ⟨ends, first⟩ | ⟨goesOn, byte, more, later, first⟩ :=
    wordsFrom_of_ne_nil writtenNonempty (stripComments .text rest)
  · exact .inl ⟨ends, by simp [first, equal]⟩
  · exact .inr ⟨goesOn, toLowerCase byte, more.map toLowerCase, _, by simp [first, equal]; rfl⟩

/-! ### Significant words -/

theorem significant_cons {word : List Byte} (notSemicolon : word ≠ ascii ";")
    (notNoise : isNoiseWord word = false) (rest : List (List Byte)) :
    significant (word :: rest) = word :: significant rest := by
  cases rest with
  | nil => simp [significant, dropTrailingSemicolon, notSemicolon, notNoise]
  | cons next rest =>
      unfold significant dropTrailingSemicolon
      rw [List.getLast?_cons_cons]
      split <;> simp [notNoise]

/-- A lower-case word that no noise word and no other word of the list begins
with. -/
def standsAlone (siblings : List (List Byte)) (keyword : List Byte) : Bool :=
  keyword != [] && keyword.map toLowerCase == keyword && keyword.all isAlphanumeric &&
    [ascii ";", ascii "work", ascii "transaction", ascii "tran"].all
      (fun other => !keyword.isPrefixOf other) &&
    siblings.all fun other => !keyword.isPrefixOf other || other == keyword

theorem not_isNoiseWord {keyword : List Byte} {siblings : List (List Byte)}
    (alone : standsAlone siblings keyword = true) (more : List Byte) :
    keyword ++ more ≠ ascii ";" ∧ isNoiseWord (keyword ++ more) = false := by
  simp only [standsAlone, Bool.and_eq_true, List.all_cons, List.all_nil, Bool.not_eq_true'] at alone
  obtain ⟨⟨-, semicolon, work, transaction, tran, -⟩, -⟩ := alone
  have differs : ∀ other, keyword.isPrefixOf other = false → keyword ++ more ≠ other := by
    rintro other notPrefix rfl
    have isPrefix : keyword.isPrefixOf (keyword ++ more) = true :=
      List.isPrefixOf_iff_prefix.mpr (List.prefix_append keyword more)
    simp [isPrefix] at notPrefix
  refine ⟨differs _ semicolon, ?_⟩
  simp only [isNoiseWord, Bool.or_eq_false_iff, beq_eq_false_iff_ne]
  exact ⟨⟨differs _ work, differs _ transaction⟩, differs _ tran⟩

/-- What the first word of a text is, once the scanner found a keyword there. -/
theorem significant_of_startsWith {siblings : List (List Byte)} {text keyword : List Byte}
    (alone : standsAlone siblings keyword = true)
    (starts : startsWithIgnoringCase text keyword = true) :
    (wordEnds (text.drop keyword.length) = true ∧
      significant (words text) =
        keyword :: significant (words (text.drop keyword.length))) ∨
    (wordEnds (text.drop keyword.length) = false ∧
      ∃ first later, significant (words text) = first :: later ∧ first ∉ siblings) := by
  have apart := not_isNoiseWord alone
  simp only [standsAlone, Bool.and_eq_true, bne_iff_ne, beq_iff_eq, List.all_eq_true] at alone
  obtain ⟨⟨⟨⟨nonempty, lower⟩, letters⟩, -⟩, siblingsApart⟩ := alone
  obtain ⟨ends, split⟩ | ⟨goesOn, byte, more, later, split⟩ :=
    words_of_startsWith nonempty lower letters starts
  · have notNoise := apart []
    rw [List.append_nil] at notNoise
    exact .inl ⟨ends, by rw [split, significant_cons notNoise.1 notNoise.2]⟩
  · have notNoise := apart (byte :: more)
    refine .inr ⟨goesOn, _, _, by rw [split, significant_cons notNoise.1 notNoise.2], ?_⟩
    intro member
    have notPrefix := siblingsApart _ member
    simp only [Bool.or_eq_true, Bool.not_eq_true', beq_iff_eq] at notPrefix
    rcases notPrefix with notPrefix | same
    · have isPrefix : keyword.isPrefixOf (keyword ++ byte :: more) = true :=
        List.isPrefixOf_iff_prefix.mpr (List.prefix_append _ _)
      simp [isPrefix] at notPrefix
    · simp at same

theorem standsAlone_of_mem_keywords {type : QueryType} {keyword : List Byte}
    (member : keyword ∈ type.keywords) : standsAlone type.keywords keyword = true := by
  cases type <;> simp only [QueryType.keywords, List.mem_cons, List.not_mem_nil, or_false] at member
  case begin => rcases member with rfl | rfl | rfl <;> decide
  case commit => rcases member with rfl | rfl <;> decide
  all_goals subst member; decide

theorem significant_nil : significant (words []) = [] := rfl

/-- A NUL byte starts a word that nothing drops. -/
theorem significant_ne_nil_of_nul (rest : List Byte) : significant (words (0 :: rest)) ≠ [] := by
  have strip : stripComments .text (0 :: rest) = 0 :: stripComments .text rest := rfl
  have read : wordsFrom [] (0 :: stripComments .text rest) =
      wordsFrom [0] (stripComments .text rest) := rfl
  have first : ∃ more later, words (0 :: rest) = (0 :: more) :: later := by
    obtain ⟨-, split⟩ | ⟨-, byte, more, later, split⟩ :=
      wordsFrom_of_ne_nil (show ([0] : List Byte) ≠ [] by simp) (stripComments .text rest)
    · exact ⟨[], _, by rw [words, strip, read, split]; rfl⟩
    · exact ⟨_, _, by rw [words, strip, read, split]; rfl⟩
  obtain ⟨more, later, split⟩ := first
  have differs : ∀ other : List Byte, other.head? ≠ some 0 → 0 :: more ≠ other := by
    rintro other head rfl
    simp at head
  have notNoise : isNoiseWord (0 :: more) = false := by
    simp only [isNoiseWord, Bool.or_eq_false_iff, beq_eq_false_iff_ne]
    exact ⟨⟨differs _ (by decide), differs _ (by decide)⟩, differs _ (by decide)⟩
  rw [split, significant_cons (differs _ (by decide)) notNoise]
  simp

theorem wordEnds_of_skip_eq_nil {text : List Byte}
    (blank : skipWhitespaceAndComments text = []) : wordEnds text = true := by
  cases text with
  | nil => rfl
  | cons byte rest =>
      simp only [skipWhitespaceAndComments, skipFrom] at blank
      by_cases nul : byte = 0
      · simp [nul] at blank
      · by_cases space : isWhitespace byte
        · have notDash : byte ≠ chr '-' := by rintro rfl; revert space; decide
          have notSlash : byte ≠ chr '/' := by rintro rfl; revert space; decide
          simp [wordEnds, stripComments, notDash, notSlash, isSeparator, space]
        · by_cases comment : byte = chr '-' ∧ peek rest = chr '-'
          · have blankSeparates : isSeparator (chr ' ') = true := by decide
            obtain ⟨rfl, dash⟩ := comment
            simp [wordEnds, stripComments, dash, blankSeparates]
          · simp [nul, space, comment] at blank

/-! ## The classifier against the words -/

/-- The text after the keyword that gave a query its type. -/
def afterKeyword (type : QueryType) (ptr : List Byte) : List Byte :=
  match type.keywords.find? (startsWithIgnoringCase ptr) with
  | some keyword => ptr.drop keyword.length
  | none => ptr

/-- The keyword is a whole word and only blanks, comments, noise words and a
semicolon follow it.  The classifier checks neither of a commit or a rollback,
and of a begin only that what follows names no commit and no rollback. -/
def NothingFollows (type : QueryType) (ptr : List Byte) : Prop :=
  wordEnds (afterKeyword type ptr) = true ∧ significant (words (afterKeyword type ptr)) = []

/-- `autocommit` and `to` are whole words and no NUL byte hides a rest. -/
def AutoCommitIsSeparated (on : Bool) (ptr : List Byte) : Prop :=
  let sign := skipWhitespaceAndComments (ptr.drop 10)
  wordEnds (ptr.drop 10) = true ∧
    (startsWithIgnoringCase sign (ascii "to") = true → wordEnds (sign.drop 2) = true) ∧
    ∀ after, skipAutoCommitValue on (skipWhitespaceAndComments (skipAssignment sign)) =
        some after → skipWhitespaceAndComments after = []

/-- What an intercepted text has to meet for nothing of it to be lost. -/
def ReadToTheEnd (type : QueryType) (text : List Byte) : Prop :=
  let ptr := skipWhitespaceAndComments text
  match type with
  | .autoCommitOn => AutoCommitIsSeparated true ptr
  | .autoCommitOff => AutoCommitIsSeparated false ptr
  | _ => NothingFollows type ptr

theorem startsWithIgnoringCase_of_append {text front : List Byte} (back : List Byte)
    (starts : startsWithIgnoringCase text (front ++ back) = true) :
    startsWithIgnoringCase text front = true := by
  rw [startsWithIgnoringCase, beq_iff_eq] at starts ⊢
  have cut := congrArg (List.take front.length) starts
  rwa [← List.map_take, List.take_take, List.length_append,
    Nat.min_eq_left (Nat.le_add_right _ _), ← List.map_take, List.take_left] at cut

theorem leadingKeyword_not_intercepted {ptr after : List Byte} {type : QueryType}
    (found : leadingKeyword ptr = some (type, after)) : type.intercepted = false := by
  unfold leadingKeyword at found
  split_ifs at found <;> (cases found; rfl)

/-- The branches of the classifier that give an intercepted type. -/
theorem determineQueryType_cases {text : List Byte} {type : QueryType}
    (classified : determineQueryType text = type) (intercepted : type.intercepted = true) :
    let ptr := skipWhitespaceAndComments text
    (type = .begin ∧ isBeginTransactionQuery ptr = true) ∨
    (type = .commit ∧ isCommitQuery ptr = true) ∨
    (type = .rollback ∧ startsWithIgnoringCase ptr (ascii "rollback") = true) ∨
    (type = .autoCommitOn ∧ isAutoCommitQuery ptr true = true) ∨
    (type = .autoCommitOff ∧ isAutoCommitQuery ptr false = true) := by
  unfold determineQueryType at classified
  generalize skipWhitespaceAndComments text = ptr at classified ⊢
  cases leading : leadingKeyword ptr with
  | some found =>
      have notIntercepted : found.1.intercepted = false := leadingKeyword_not_intercepted leading
      simp only [leading] at classified
      split at classified <;> subst classified
      · simp [notIntercepted] at intercepted
      · simp [QueryType.intercepted] at intercepted
  | none =>
      simp only [leading] at classified
      split_ifs at classified with begins commits rolls savepoint on off
      · exact .inl ⟨classified.symm, begins⟩
      · exact .inr (.inl ⟨classified.symm, commits⟩)
      · simp [← classified, QueryType.intercepted] at intercepted
      · exact .inr (.inr (.inl ⟨classified.symm, rolls⟩))
      · exact .inr (.inr (.inr (.inl ⟨classified.symm, on⟩)))
      · exact .inr (.inr (.inr (.inr ⟨classified.symm, off⟩)))
      · split at classified <;> simp [← classified, QueryType.intercepted] at intercepted

/-- An intercepted type comes with its keyword at the start of the text. -/
theorem exists_keyword {text : List Byte} {type : QueryType}
    (classified : determineQueryType text = type) (intercepted : type.intercepted = true) :
    ∃ keyword ∈ type.keywords,
      startsWithIgnoringCase (skipWhitespaceAndComments text) keyword = true := by
  obtain ⟨rfl, begins⟩ | ⟨rfl, commits⟩ | ⟨rfl, rolls⟩ | ⟨rfl, on⟩ | ⟨rfl, off⟩ :=
    determineQueryType_cases classified intercepted
  · unfold isBeginTransactionQuery at begins
    split_ifs at begins with begin start
    · exact ⟨_, by simp [QueryType.keywords], begin⟩
    · refine ⟨ascii "start", by simp [QueryType.keywords], ?_⟩
      exact startsWithIgnoringCase_of_append (ascii " ") start
    · simp only [Bool.and_eq_true] at begins
      exact ⟨_, by simp [QueryType.keywords], begins.1⟩
  · simp only [isCommitQuery, Bool.or_eq_true, Bool.and_eq_true] at commits
    rcases commits with commits | ⟨ends, -⟩
    · exact ⟨_, by simp [QueryType.keywords], commits⟩
    · exact ⟨_, by simp [QueryType.keywords], ends⟩
  · exact ⟨_, by simp [QueryType.keywords], rolls⟩
  · simp only [isAutoCommitQuery, Bool.and_eq_true] at on
    exact ⟨_, by simp [QueryType.keywords], on.1⟩
  · simp only [isAutoCommitQuery, Bool.and_eq_true] at off
    exact ⟨_, by simp [QueryType.keywords], off.1⟩

theorem afterKeyword_eq {type : QueryType} {ptr : List Byte}
    (found : ∃ keyword ∈ type.keywords, startsWithIgnoringCase ptr keyword = true) :
    ∃ keyword ∈ type.keywords, startsWithIgnoringCase ptr keyword = true ∧
      afterKeyword type ptr = ptr.drop keyword.length := by
  unfold afterKeyword
  cases first : type.keywords.find? (startsWithIgnoringCase ptr) with
  | some keyword =>
      exact ⟨keyword, List.mem_of_find?_eq_some first, List.find?_some first, rfl⟩
  | none =>
      obtain ⟨keyword, member, starts⟩ := found
      have missed := List.find?_eq_none.mp first keyword member
      exact absurd starts missed

/-- The significant words of an intercepted text. -/
theorem significant_of_keyword {type : QueryType} {ptr : List Byte}
    (found : ∃ keyword ∈ type.keywords, startsWithIgnoringCase ptr keyword = true) :
    (wordEnds (afterKeyword type ptr) = true ∧ ∃ keyword ∈ type.keywords,
      significant (words ptr) =
        keyword :: significant (words (afterKeyword type ptr))) ∨
    (wordEnds (afterKeyword type ptr) = false ∧
      ∃ first later, significant (words ptr) = first :: later ∧ first ∉ type.keywords) := by
  obtain ⟨keyword, member, starts, after⟩ := afterKeyword_eq found
  rw [after]
  rcases significant_of_startsWith (standsAlone_of_mem_keywords member) starts with
    ⟨ends, split⟩ | longer
  · exact .inl ⟨ends, keyword, member, split⟩
  · exact .inr longer

theorem saysOnly_keyword_iff {type : QueryType} {text : List Byte}
    (found : ∃ keyword ∈ type.keywords,
      startsWithIgnoringCase (skipWhitespaceAndComments text) keyword = true) :
    (∃ keyword ∈ type.keywords, ∃ more, significant (words text) = keyword :: more ∧ more = []) ↔
      NothingFollows type (skipWhitespaceAndComments text) := by
  rw [← words_skip text]
  rcases significant_of_keyword found with
    ⟨ends, keyword, member, split⟩ | ⟨goesOn, first, later, split, notKeyword⟩
  · simp only [NothingFollows, ends, split, true_and]
    constructor
    · rintro ⟨_, -, more, equal, rfl⟩
      exact (List.cons.inj equal).2
    · intro nothing
      exact ⟨keyword, member, _, rfl, nothing⟩
  · simp only [NothingFollows, goesOn, split]
    constructor
    · rintro ⟨keyword, member, more, equal, -⟩
      exact absurd ((List.cons.inj equal).1 ▸ member) notKeyword
    · rintro ⟨impossible, -⟩
      cases impossible

/-! ### Autocommit queries -/

theorem skipAutoCommitValue_cases {on : Bool} {text after : List Byte}
    (found : skipAutoCommitValue on text = some after) :
    ∃ value ∈ autoCommitValues on,
      startsWithIgnoringCase text value = true ∧ after = text.drop value.length := by
  have digit : ∀ {byte : Byte}, peek text = byte → byte ≠ 0 →
      startsWithIgnoringCase text [byte] = true := by
    intro byte head notNul
    cases text with
    | nil => exact absurd head.symm notNul
    | cons first rest => cases head; simp [startsWithIgnoringCase]
  unfold skipAutoCommitValue at found
  split_ifs at found with isOn one word yes immediate zero offWord no
  all_goals cases found
  · exact ⟨ascii "1", by simp [autoCommitValues, isOn], digit one (by decide), rfl⟩
  · exact ⟨ascii "on", by simp [autoCommitValues, isOn], word, rfl⟩
  · exact ⟨ascii "yes", by simp [autoCommitValues, isOn], yes, rfl⟩
  · exact ⟨ascii "immediate", by simp [autoCommitValues, isOn], immediate, rfl⟩
  · exact ⟨ascii "0", by simp [autoCommitValues, isOn], digit zero (by decide), rfl⟩
  · exact ⟨ascii "off", by simp [autoCommitValues, isOn], offWord, rfl⟩
  · exact ⟨ascii "no", by simp [autoCommitValues, isOn], no, rfl⟩

/-- The words an assignment is made of. -/
def assignmentWords (on : Bool) : List (List Byte) :=
  ascii "=" :: ascii "to" :: autoCommitValues on

theorem standsAlone_value {on : Bool} {value : List Byte}
    (member : value ∈ autoCommitValues on) :
    standsAlone (assignmentWords on) value = true ∧ value ≠ ascii "=" ∧ value ≠ ascii "to" := by
  cases on <;> simp only [autoCommitValues, Bool.false_eq_true, if_false, if_true,
    List.mem_cons, List.not_mem_nil, or_false] at member
  · rcases member with rfl | rfl | rfl <;> decide
  · rcases member with rfl | rfl | rfl | rfl <;> decide

/-- Once the scanner found a value with nothing visible after it, the words
from there on are an assigned value exactly if nothing is hidden after it. -/
theorem value_iff {on : Bool} {text after : List Byte}
    (found : skipAutoCommitValue on text = some after)
    (ends : peek (skipWhitespaceAndComments after) = 0) :
    (∃ first later, significant (words text) = first :: later ∧
      first ≠ ascii "=" ∧ first ≠ ascii "to") ∧
    ((∃ value ∈ autoCommitValues on, significant (words text) = [value]) ↔
      skipWhitespaceAndComments after = []) := by
  obtain ⟨value, member, starts, rfl⟩ := skipAutoCommitValue_cases found
  obtain ⟨alone, notSign, notTo⟩ := standsAlone_value member
  rcases significant_of_startsWith alone starts with
    ⟨-, split⟩ | ⟨goesOn, first, later, split, notWord⟩
  · refine ⟨⟨value, _, split, notSign, notTo⟩, ?_⟩
    rw [split, ← words_skip (text.drop value.length)]
    generalize skipWhitespaceAndComments (text.drop value.length) = rest at ends
    cases rest with
    | nil => simpa [significant_nil] using member
    | cons byte rest =>
        cases ends
        have hidden := significant_ne_nil_of_nul rest
        simp [hidden]
  · simp only [assignmentWords, List.mem_cons, not_or] at notWord
    refine ⟨⟨first, later, split, notWord.1, notWord.2.1⟩, ?_⟩
    rw [split]
    constructor
    · rintro ⟨value, isValue, equal⟩
      exact absurd ((List.cons.inj equal).1 ▸ isValue) notWord.2.2
    · intro nothing
      rw [wordEnds_of_skip_eq_nil nothing] at goesOn
      cases goesOn

theorem isAssignment_value_iff {on : Bool} {text after : List Byte}
    (found : skipAutoCommitValue on text = some after)
    (ends : peek (skipWhitespaceAndComments after) = 0) :
    IsAssignment on (significant (words text)) ↔ skipWhitespaceAndComments after = [] := by
  obtain ⟨⟨first, later, split, notSign, notTo⟩, exact_value⟩ := value_iff found ends
  rw [← exact_value, IsAssignment]
  constructor
  · rintro ⟨value, member, bare | sign | toWord⟩
    · exact ⟨value, member, bare⟩
    · exact absurd (List.cons.inj (split.symm.trans sign)).1 notSign
    · exact absurd (List.cons.inj (split.symm.trans toWord)).1 notTo
  · rintro ⟨value, member, bare⟩
    exact ⟨value, member, .inl bare⟩

theorem isAssignment_sign_iff {on : Bool} {sign : List Byte}
    (isSign : sign = ascii "=" ∨ sign = ascii "to") (rest : List (List Byte)) :
    IsAssignment on (sign :: rest) ↔ ∃ value ∈ autoCommitValues on, rest = [value] := by
  constructor
  · rintro ⟨value, member, bare | equals | toWord⟩
    · obtain ⟨-, notEquals, notTo⟩ := standsAlone_value member
      have same : sign = value := (List.cons.inj bare).1
      rcases isSign with rfl | rfl
      · exact absurd same.symm notEquals
      · exact absurd same.symm notTo
    · exact ⟨value, member, (List.cons.inj equals).2⟩
    · exact ⟨value, member, (List.cons.inj toWord).2⟩
  · rintro ⟨value, member, rfl⟩
    rcases isSign with rfl | rfl
    · exact ⟨value, member, .inr (.inl rfl)⟩
    · exact ⟨value, member, .inr (.inr rfl)⟩

theorem significant_equals (rest : List Byte) :
    significant (words (chr '=' :: rest)) = ascii "=" :: significant (words rest) := by
  have split : words (chr '=' :: rest) = ascii "=" :: words rest := by
    have strip : stripComments .text (chr '=' :: rest) = chr '=' :: stripComments .text rest := by
      rw [stripComments, if_neg (by rintro ⟨dash, -⟩; revert dash; decide),
        if_neg (by rintro ⟨slash, -⟩; revert slash; decide)]
    have separates : isSeparator (chr '=') = true := by decide
    have punctuates : isPunctuation (chr '=') = true := by decide
    simp [words, strip, wordsFrom, separates, punctuates]
    rfl
  rw [split, significant_cons (by decide) (by decide)]

/-- The assignment is what the words after `autocommit` say exactly if its own
words are whole and nothing is hidden after the value. -/
theorem isAssignment_iff {on : Bool} {sign after : List Byte}
    (found : skipAutoCommitValue on (skipWhitespaceAndComments (skipAssignment sign)) =
      some after)
    (ends : peek (skipWhitespaceAndComments after) = 0) :
    IsAssignment on (significant (words sign)) ↔
      (startsWithIgnoringCase sign (ascii "to") = true → wordEnds (sign.drop 2) = true) ∧
        skipWhitespaceAndComments after = [] := by
  unfold skipAssignment at found
  split_ifs at found with equals toWord
  · -- the sign is `=`, a word of its own
    cases sign with
    | nil => exact absurd equals (by decide)
    | cons byte rest =>
        obtain rfl : byte = chr '=' := equals
        have notTo : startsWithIgnoringCase (chr '=' :: rest) (ascii "to") = false := by
          rw [startsWithIgnoringCase, beq_eq_false_iff_ne]
          intro equal
          have head : toLowerCase (chr '=') = toLowerCase (chr 't') := (List.cons.inj equal).1
          revert head
          decide
        have exact_value := (value_iff found ends).2
        rw [List.drop_one, List.tail_cons, words_skip] at exact_value
        rw [significant_equals, isAssignment_sign_iff (.inl rfl), exact_value]
        simp [notTo]
  · -- the sign is `to`, which has to end before the value
    have alone : standsAlone (assignmentWords on) (ascii "to") = true := by cases on <;> decide
    have exact_value := (value_iff found ends).2
    rw [words_skip] at exact_value
    have cases_of_to := significant_of_startsWith alone toWord
    rw [show (ascii "to").length = 2 by decide] at cases_of_to
    rcases cases_of_to with ⟨wordEnd, split⟩ | ⟨goesOn, first, later, split, notWord⟩
    · rw [split, isAssignment_sign_iff (.inr rfl)]
      simpa [wordEnd] using exact_value
    · simp only [assignmentWords, List.mem_cons, not_or] at notWord
      simp only [toWord, goesOn, split]
      constructor
      · rintro ⟨value, member, bare | isEquals | isTo⟩
        · exact absurd ((List.cons.inj bare).1 ▸ member) notWord.2.2
        · exact absurd (List.cons.inj isEquals).1 notWord.1
        · exact absurd (List.cons.inj isTo).1 notWord.2.1
      · rintro ⟨impossible, -⟩
        cases impossible trivial
  · -- no sign
    have exact_value := isAssignment_value_iff found ends
    rw [words_skip] at exact_value
    simpa [toWord] using exact_value

theorem saysOnly_autoCommit_iff {on : Bool} {type : QueryType} {text : List Byte}
    (isType : type.keywords = [ascii "autocommit"])
    (found : isAutoCommitQuery (skipWhitespaceAndComments text) on = true) :
    (∃ keyword ∈ type.keywords, ∃ more,
        significant (words text) = keyword :: more ∧ IsAssignment on more) ↔
      AutoCommitIsSeparated on (skipWhitespaceAndComments text) := by
  simp only [isAutoCommitQuery, Bool.and_eq_true] at found
  obtain ⟨starts, found⟩ := found
  split at found
  · cases found
  next after value =>
    have ends : peek (skipWhitespaceAndComments after) = 0 := of_decide_eq_true found
    have assignment := isAssignment_iff value ends
    rw [words_skip] at assignment
    have alone : standsAlone type.keywords (ascii "autocommit") = true := by
      rw [isType]
      decide
    have keyword := significant_of_startsWith alone starts
    rw [show (ascii "autocommit").length = 10 by decide, words_skip] at keyword
    simp only [AutoCommitIsSeparated, value, Option.some.injEq, forall_eq']
    rcases keyword with ⟨wordEnd, split⟩ | ⟨goesOn, first, later, split, notKeyword⟩
    · simp only [split, isType, wordEnd, true_and, List.mem_singleton, exists_eq_left,
        List.cons.injEq]
      rw [← assignment]
      constructor
      · rintro ⟨more, rfl, assigned⟩
        exact assigned
      · intro assigned
        exact ⟨_, rfl, assigned⟩
    · simp only [split, goesOn]
      constructor
      · rintro ⟨keyword, member, more, equal, -⟩
        exact absurd ((List.cons.inj equal).1 ▸ member) notKeyword
      · rintro ⟨impossible, -⟩
        cases impossible

/-- An intercepted text says only what the controller call does exactly if what
the classifier leaves unread of it says nothing. -/
theorem saysOnly_iff_readToTheEnd (text : List Byte)
    (intercepted : (determineQueryType text).intercepted = true) :
    SaysOnly (determineQueryType text) text ↔ ReadToTheEnd (determineQueryType text) text := by
  have keyword := exists_keyword rfl intercepted
  have branch := determineQueryType_cases rfl intercepted
  generalize determineQueryType text = type at *
  obtain ⟨rfl, -⟩ | ⟨rfl, -⟩ | ⟨rfl, -⟩ | ⟨rfl, on⟩ | ⟨rfl, off⟩ := branch
  · exact saysOnly_keyword_iff keyword
  · exact saysOnly_keyword_iff keyword
  · exact saysOnly_keyword_iff keyword
  · exact saysOnly_autoCommit_iff rfl on
  · exact saysOnly_autoCommit_iff rfl off

/-- The rule is met by a plain commit. -/
theorem saysOnly_iff_readToTheEnd_commit :
    (determineQueryType (ascii "commit work;")).intercepted = true ∧
      (SaysOnly .commit (ascii "commit work;") ↔ ReadToTheEnd .commit (ascii "commit work;")) :=
  ⟨by decide, saysOnly_iff_readToTheEnd (ascii "commit work;") (by decide)⟩

/-- `start slave` is taken for the start of a transaction. -/
theorem not_saysOnly_of_intercepted :
    ¬∀ text, (determineQueryType text).intercepted = true →
      SaysOnly (determineQueryType text) text := by
  intro every
  have asBegin : determineQueryType (ascii "start slave") = .begin := by decide
  have said : significant (words (ascii "start slave")) = [ascii "start", ascii "slave"] := by
    decide
  have only := every (ascii "start slave")
  rw [asBegin] at only
  obtain ⟨keyword, -, more, equal, rfl⟩ := only rfl
  rw [said] at equal
  simp at equal

end SqlRelay.Query
