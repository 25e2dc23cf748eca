import SqlRelay.Pipeline.Cursor

/-!
# The complete query

What the rewriting of a query is for: each step works on the whole of what the
step before it made.  Here there are no buffers and no sizes.  The translations of
`sqlrquerytranslations::run` are compared with it.
-/

namespace SqlRelay.Pipeline

open SqlRelay.Foundation SqlRelay.Foundation.CString SqlRelay.Bind SqlRelay.Query

/-- What becomes of a text is all of it, and the query buffer can hold it. -/
def Event.Whole (maxQuerySize : Nat) : Event → Prop
  | .write text written => written = text ∧ written.length ≤ maxQuerySize
  | .handOver text given => given = text
  | .append text buffer => buffer = text
  | .prepare text given => given = text
  | .bind _ => True
  | .execute text given => given = text

/-- A query between two translations. -/
inductive Form (Tree : Type) where
  | text (query : List Byte)
  | tree (tree : Tree)

/-- What a text translation finds in its buffer, if an earlier one has left a text. -/
def Form.found {Tree : Type} (left : List Byte) : Form Tree → List Byte
  | .text _ => []
  | .tree _ => left

namespace Translations

variable {Tree : Type} (translations : Translations Tree)

def textOf : Form Tree → Except (List Byte) (List Byte)
  | .text query => .ok query
  | .tree tree =>
      match translations.parser.bind fun parser => parser.write tree with
      | none => .error notWritten
      | some text => .ok text

def treeOf (form : Form Tree) : Except (List Byte) Tree :=
  match translations.parser, form with
  | none, _ => .error noParser
  | some _, .tree tree => .ok tree
  | some parser, .text query => parseText parser query

/-- The translations of a query, one after the other. -/
def complete : List (Translation Tree) → Form Tree → Except (List Byte) (List Byte)
  | [], .text query => .ok query
  | [], .tree tree =>
      match translations.parser.bind fun parser => parser.write tree with
      | none => .error notWrittenAtLast
      | some text => .ok text
  | .text run :: later, form =>
      match translations.textOf form with
      | .error error => .error error
      | .ok text =>
          match run text with
          | .error error => .error error
          | .ok output => complete later (.text output)
  | .tree run :: later, form =>
      match translations.treeOf form with
      | .error error => .error error
      | .ok tree =>
          match run tree with
          | .error error => .error error
          | .ok tree => complete later (.tree tree)

/-- What the loop over the translations needs: the size it has kept is that of the
text, a text translation that follows a tree finds no text of an earlier one, and a
text to be parsed has no terminator in it. -/
def Fits : List (Translation Tree) → Form Tree → (left : List Byte) → (size : Nat) → Prop
  | [], .text query, _, size => size = query.length
  | [], .tree _, _, _ => True
  | .text run :: later, form, left, size =>
      match translations.textOf form with
      | .error _ => True
      | .ok text =>
          size = text.length ∧
            match run text with
            | .error _ => True
            | .ok output =>
                form.found left = [] ∧
                  Fits later (.text output) output (output.length % 2 ^ 32)
  | .tree run :: later, form, left, size =>
      (∀ query, form = .text query → translations.parser.isSome = true →
        contents query = query) ∧
        match translations.treeOf form with
        | .error _ => True
        | .ok tree =>
            match run tree with
            | .error _ => True
            | .ok tree => Fits later (.tree tree) left size

end Translations

/-- The locals of the loop are those of a query in this form. -/
structure TranslationState.Has {Tree : Type} (form : Form Tree) (left : List Byte) (size : Nat)
    (state : TranslationState Tree) : Prop where
  query : ∀ query, form = .text query → state.query = query ∧ state.tree = none
  tree : ∀ tree, form = .tree tree → state.tree = some tree
  left : state.other = left
  size : state.querySize = size

namespace Translations

variable {Tree : Type} {translations : Translations Tree} {memory : List Byte}
variable {form : Form Tree} {left : List Byte} {size : Nat} {state : TranslationState Tree}

theorem given_eq_iff (state : TranslationState Tree) (memory : List Byte) :
    state.given memory = state.query ↔ state.querySize = state.query.length := by
  constructor
  · intro whole
    have lengths := congrArg List.length whole
    simp only [TranslationState.given, List.length_take, List.length_append,
      List.length_cons] at lengths
    omega
  · intro size
    rw [TranslationState.given, size, List.take_left']
    rfl

theorem writeTree_of_error {error : List Byte} (has : state.Has form left size)
    (unwritten : translations.textOf form = .error error) :
    translations.writeTree state = .error error := by
  cases form with
  | text query => simp [textOf] at unwritten
  | tree tree =>
      rw [writeTree, has.tree tree rfl]
      cases present : translations.parser with
      | none => simpa [textOf, present] using unwritten
      | some parser =>
          cases written : parser.write tree with
          | none => simpa [textOf, present, written] using unwritten
          | some text => simp [textOf, present, written] at unwritten

theorem writeTree_of_ok {text : List Byte} (has : state.Has form left size)
    (written : translations.textOf form = .ok text) :
    ∃ next, translations.writeTree state = .ok next ∧ next.query = text ∧
      next.querySize = size ∧ next.buffer = form.found left := by
  cases form with
  | text query =>
      obtain ⟨same, noTree⟩ := has.query query rfl
      simp only [textOf, Except.ok.injEq] at written
      refine ⟨{ state with buffer := [] }, ?_, same.trans written, has.size, rfl⟩
      simp [writeTree, noTree]
  | tree tree =>
      cases present : translations.parser with
      | none => simp [textOf, present] at written
      | some parser =>
          cases output : parser.write tree with
          | none => simp [textOf, present, output] at written
          | some output =>
              simp_all [textOf, writeTree, has.tree tree rfl, has.size, has.left, Form.found]

/-- A text translation gets the whole text and appends to nothing. -/
theorem runText_whole_iff (memory : List Byte) (maxQuerySize : Nat) {text : List Byte}
    (run : List Byte → Except (List Byte) (List Byte)) (has : state.Has form left size)
    (written : translations.textOf form = .ok text) :
    (∀ event ∈ (translations.runText memory run state).1,
        event.Whole maxQuerySize) ↔
      size = text.length ∧ ∀ output, run text = .ok output → form.found left = [] := by
  obtain ⟨next, wrote, query, sizeKept, buffer⟩ := writeTree_of_ok has written
  have given := given_eq_iff next memory
  rw [query, sizeKept] at given
  cases answer : run (next.given memory) with
  | error error =>
      simp only [runText, wrote, answer, List.mem_singleton, forall_eq, Event.Whole, query, given]
      constructor
      · intro whole
        refine ⟨whole, ?_⟩
        rw [← given.mpr whole, answer]
        simp
      · exact And.left
  | ok output =>
      simp only [runText, wrote, answer, List.mem_cons, List.not_mem_nil, or_false, forall_eq_or_imp,
        forall_eq, Event.Whole, query, given, buffer, List.append_left_eq_self]
      apply and_congr_right
      intro whole
      rw [given.mpr whole] at answer
      simp [answer]

theorem runText_of_error {error : List Byte} (run : List Byte → Except (List Byte) (List Byte))
    (has : state.Has form left size) (unwritten : translations.textOf form = .error error) :
    translations.runText memory run state = ([], .error error) := by
  rw [runText, writeTree_of_error has unwritten]

section WholeText

variable {text : List Byte} {run : List Byte → Except (List Byte) (List Byte)}
variable (has : state.Has form left size) (written : translations.textOf form = .ok text)
  (whole : size = text.length) (memory)

include has written whole

/-- What a text translation leaves, if it gets the whole text. -/
theorem runText_fails {error : List Byte} (answer : run text = .error error) :
    (translations.runText memory run state).2 = .error error := by
  obtain ⟨next, wrote, query, sizeKept, _⟩ := writeTree_of_ok has written
  have given : next.given memory = text := by
    rw [← query]
    exact (given_eq_iff next memory).mpr (by rw [sizeKept, query, whole])
  simp [runText, wrote, given, answer]

theorem runText_succeeds {output : List Byte} (answer : run text = .ok output)
    (clear : form.found left = []) :
    ∃ next, (translations.runText memory run state).2 = .ok next ∧
      next.Has (.text output) output (output.length % 2 ^ 32) := by
  obtain ⟨next, wrote, query, sizeKept, buffer⟩ := writeTree_of_ok has written
  have given : next.given memory = text := by
    rw [← query]
    exact (given_eq_iff next memory).mpr (by rw [sizeKept, query, whole])
  simp only [runText, wrote, given, answer, buffer, clear, List.nil_append]
  refine ⟨_, rfl, ?_, by simp, rfl, rfl⟩
  intro query same
  simp only [Form.text.injEq] at same
  exact ⟨same, rfl⟩

end WholeText

/-- The parser gets the whole text if there is no terminator in it. -/
def ParsesWhole (translations : Translations Tree) (form : Form Tree) : Prop :=
  ∀ query, form = .text query → translations.parser.isSome = true → contents query = query

theorem runTree_events (run : Tree → Except (List Byte) Tree) :
    (translations.runTree run state).1 =
      (translations.parsed state).1 := by
  rw [runTree]
  split
  next parsed => rw [parsed]
  next parsed =>
    rw [parsed]
    split <;> rfl

theorem runTree_whole_iff (translations : Translations Tree) (maxQuerySize : Nat)
    (run : Tree → Except (List Byte) Tree) (has : state.Has form left size) :
    (∀ event ∈ (translations.runTree run state).1,
        event.Whole maxQuerySize) ↔
      translations.ParsesWhole form := by
  rw [runTree_events, ParsesWhole]
  cases form with
  | tree tree =>
      rw [parsed, has.tree tree rfl]
      cases translations.parser <;> simp
  | text query =>
      obtain ⟨same, noTree⟩ := has.query query rfl
      rw [parsed, same, noTree]
      cases translations.parser with
      | none => simp
      | some parser => simp [Event.Whole]

theorem parsed_of_whole (has : state.Has form left size)
    (whole : translations.ParsesWhole form) :
    (translations.parsed state).2 = translations.treeOf form := by
  cases present : translations.parser with
  | none => rw [parsed, treeOf.eq_def, present]
  | some parser =>
      cases form with
      | tree tree =>
          rw [parsed, present, has.tree tree rfl, treeOf.eq_def, present]
      | text query =>
          obtain ⟨same, noTree⟩ := has.query query rfl
          have given := whole query rfl (by simp [present])
          rw [parsed, present, noTree, same, treeOf.eq_def, present]
          simp only [given]

theorem runTree_result (run : Tree → Except (List Byte) Tree) :
    (translations.runTree run state).2 =
      match (translations.parsed state).2 with
      | .error error => .error error
      | .ok tree =>
          match run tree with
          | .error error => .error error
          | .ok tree => .ok { state with tree := some tree } := by
  rw [runTree]
  split
  next parsed => rw [parsed]
  next events tree parsed =>
    rw [parsed]
    cases answer : run tree <;> simp only [answer]

theorem has_tree (has : state.Has form left size) (tree : Tree) :
    TranslationState.Has (.tree tree) left size { state with tree := some tree } := by
  refine ⟨by simp, ?_, has.left, has.size⟩
  intro tree same
  simp only [Form.tree.injEq] at same
  rw [same]

/-! ## The loop -/

section Loop

variable (later : List (Translation Tree)) (kind : Event → Prop)

theorem all_runModules_text (run : List Byte → Except (List Byte) (List Byte)) :
    (∀ event ∈ (translations.runModules memory (.text run :: later) state).1, kind event) ↔
      (∀ event ∈ (translations.runText memory run state).1, kind event) ∧
        ∀ next, (translations.runText memory run state).2 = .ok next →
          ∀ event ∈ (translations.runModules memory later next).1, kind event := by
  rw [runModules]
  split
  next answer => simp [answer]
  next answer => simp [answer, or_imp, forall_and]

theorem all_runModules_tree (run : Tree → Except (List Byte) Tree) :
    (∀ event ∈ (translations.runModules memory (.tree run :: later) state).1, kind event) ↔
      (∀ event ∈ (translations.runTree run state).1, kind event) ∧
        ∀ next, (translations.runTree run state).2 = .ok next →
          ∀ event ∈ (translations.runModules memory later next).1, kind event := by
  rw [runModules]
  split
  next answer => simp [answer]
  next answer => simp [answer, or_imp, forall_and]

theorem runModules_text_result (run : List Byte → Except (List Byte) (List Byte)) :
    (translations.runModules memory (.text run :: later) state).2 =
      match (translations.runText memory run state).2 with
      | .error error => .error error
      | .ok next => (translations.runModules memory later next).2 := by
  rw [runModules]
  split
  next answer => rw [answer]
  next answer => rw [answer]

theorem runModules_tree_result (run : Tree → Except (List Byte) Tree) :
    (translations.runModules memory (.tree run :: later) state).2 =
      match (translations.runTree run state).2 with
      | .error error => .error error
      | .ok next => (translations.runModules memory later next).2 := by
  rw [runModules]
  split
  next answer => rw [answer]
  next answer => rw [answer]

end Loop

/-- The translations pass on whole texts exactly if they fit. -/
theorem runModules_whole_iff (maxQuerySize : Nat) (modules : List (Translation Tree))
    (has : state.Has form left size) :
    (∀ event ∈ (translations.runModules memory modules state).1, event.Whole maxQuerySize) ↔
      translations.Fits modules form left size := by
  induction modules generalizing form left size state with
  | nil =>
      cases form with
      | tree tree =>
          rw [runModules, finish, has.tree tree rfl, Fits]
          cases written : translations.parser.bind fun parser => parser.write tree <;>
            simp only [written] <;> simp
      | text query =>
          obtain ⟨same, noTree⟩ := has.query query rfl
          have given := given_eq_iff state memory
          rw [same, has.size] at given
          rw [runModules, finish, noTree, Fits, same]
          simpa [Event.Whole] using given
  | cons module later ih =>
      cases module with
      | text run =>
          rw [all_runModules_text, Fits]
          cases written : translations.textOf form with
          | error error => simp [runText_of_error run has written]
          | ok text =>
              rw [runText_whole_iff memory maxQuerySize run has written, and_assoc]
              apply and_congr_right
              intro whole
              cases answer : run text with
              | error error => simp [runText_fails memory has written whole answer]
              | ok output =>
                  simp only [Except.ok.injEq, forall_eq']
                  apply and_congr_right
                  intro clear
                  obtain ⟨next, left, after⟩ :=
                    runText_succeeds memory has written whole answer clear
                  simp only [left, Except.ok.injEq, forall_eq']
                  exact ih after
      | tree run =>
          rw [all_runModules_tree, Fits, ← ParsesWhole,
            runTree_whole_iff translations maxQuerySize run has]
          apply and_congr_right
          intro whole
          rw [runTree_result, parsed_of_whole has whole]
          cases read : translations.treeOf form with
          | error error => simp
          | ok tree =>
              cases answer : run tree with
              | error error => simp [answer]
              | ok changed =>
                  simp only [answer, Except.ok.injEq, forall_eq']
                  exact ih (has_tree has changed)

/-- What they then come to. -/
theorem runModules_complete (modules : List (Translation Tree)) (has : state.Has form left size)
    (fits : translations.Fits modules form left size) :
    (translations.runModules memory modules state).2 = translations.complete modules form := by
  induction modules generalizing form left size state with
  | nil =>
      cases form with
      | tree tree =>
          rw [runModules, finish, has.tree tree rfl, complete]
          cases written : translations.parser.bind fun parser => parser.write tree <;>
            simp only [written]
      | text query =>
          obtain ⟨same, noTree⟩ := has.query query rfl
          rw [runModules, finish, noTree, complete]
          rw [Fits, ← same, ← has.size] at fits
          simp only [(given_eq_iff state memory).mpr fits, same]
  | cons module later ih =>
      cases module with
      | text run =>
          rw [runModules_text_result, complete]
          rw [Fits] at fits
          cases written : translations.textOf form with
          | error error => simp [runText_of_error run has written]
          | ok text =>
              simp only [written] at fits
              cases answer : run text with
              | error error => simp only [answer, runText_fails memory has written fits.1 answer]
              | ok output =>
                  simp only [answer] at fits
                  obtain ⟨next, left, after⟩ :=
                    runText_succeeds memory has written fits.1 answer fits.2.1
                  simp only [left, answer]
                  exact ih after fits.2.2
      | tree run =>
          rw [Fits, ← ParsesWhole] at fits
          rw [runModules_tree_result, complete, runTree_result, parsed_of_whole has fits.1]
          cases read : translations.treeOf form with
          | error error => rfl
          | ok tree =>
              cases answer : run tree with
              | error error => simp only [answer]
              | ok changed =>
                  simp only [read, answer] at fits ⊢
                  exact ih (has_tree has changed) fits.2

/-- The locals of the loop at its start. -/
theorem start_has (query : List Byte) :
    TranslationState.Has (.text query : Form Tree) [] query.length
      ⟨query, query.length, none, [], []⟩ := by
  constructor
  · intro text same
    exact ⟨Form.text.inj same, rfl⟩
  · intro tree same
    cases same
  · rfl
  · rfl

end Translations

/-- A query after all rewriting steps. -/
structure Rewritten where
  text : List Byte
  type : QueryType

namespace Server

variable {Tree : Type} (server : Server Tree) (enabled : Enabled)

/-- The verdict of the filters. -/
def rejected (before : Bool) (query : List Byte) : Option CursorError :=
  match server.filters with
  | none => none
  | some filters =>
      if enabled.filters then (if before then filters.before else filters.after) query else none

/-- The no-op query takes the place of an empty one. -/
def orNoop (query : List Byte) : List Byte :=
  if peek query = 0 then query ++ server.noopQuery else query

/-- The translated query, unless a translation fails or there is no room for it.
There is no error for the latter. -/
def completeTranslation (query : List Byte) : Except (Option CursorError) (List Byte) :=
  match server.translations with
  | none => .ok query
  | some translations =>
      if enabled.translations then
        match translations.complete translations.modules (.text query) with
        | .ok text =>
            if server.maxQuerySize < text.length then .error none else .ok (server.orNoop text)
        | .error error =>
            if translations.useOriginalOnError then .ok query
            else .error (some (queryTranslationError error))
      else .ok query

def completeBinds (query : List Byte) : List Byte :=
  if enabled.translateBinds then server.translator.translatedText query else query

def replacesBegin (type : QueryType) : Bool := enabled.explicitTransactions && type == .begin

def completeBegin (type : QueryType) (query : List Byte) : List Byte :=
  if replacesBegin enabled type then server.beginTransactionQuery else query

/-- What the steps after the translations make of a query. -/
def completeRest (translated : List Byte) : Rewritten :=
  let type := SqlRelay.Query.determineQueryType translated
  ⟨server.completeBegin enabled type (server.completeBinds enabled translated), type⟩

/-- The query after all rewriting steps, unless one of them refuses it. -/
def completeQuery (query : List Byte) : Except (Option CursorError) Rewritten :=
  match server.rejected enabled true query with
  | some error => .error (some error)
  | none =>
      match server.completeTranslation enabled query with
      | .error error => .error error
      | .ok translated =>
          let rewritten := server.completeRest enabled translated
          match server.rejected enabled false rewritten.text with
          | some error => .error (some error)
          | none => .ok rewritten

end Server

end SqlRelay.Pipeline

/-!
## Chains of translations

`sqlrquerytranslations::run` on a query that every translation, the parser and the writer succeed on.
The buffers and sizes of its loop are compared with the bare composition of the translations.
-/

namespace SqlRelay.Pipeline

open SqlRelay.Foundation SqlRelay.Foundation.CString SqlRelay.Bind

namespace Translations

variable {Tree : Type} (translations : Translations Tree)

/-- The result is that of the translations in their order, each is given the whole of its text, and what
it makes is all that its buffer holds then. -/
structure Composes (memory : List Byte) (maxQuerySize : Nat) (query text : List Byte) : Prop where
  result : (translations.run memory query).2 = .ok text
  whole : ∀ event ∈ (translations.run memory query).1, event.Whole maxQuerySize

variable {translations}

/-- The loop composes the translations exactly if their texts fit. -/
theorem composes_iff (memory : List Byte) (maxQuerySize : Nat) {query text : List Byte}
    (succeeds : translations.complete translations.modules (.text query) = .ok text) :
    translations.Composes memory maxQuerySize query text ↔
      translations.Fits translations.modules (.text query) [] query.length := by
  have start : TranslationState.Has (.text query : Form Tree) _ _ _ := start_has query
  have whole : (∀ event ∈ (translations.run memory query).1, event.Whole maxQuerySize) ↔ _ :=
    runModules_whole_iff maxQuerySize translations.modules start
  constructor
  · intro composes
    exact whole.mp composes.whole
  · intro fits
    constructor
    · rw [← succeeds]
      exact runModules_complete translations.modules start fits
    · exact whole.mpr fits

end Translations

/-- Texts that are their own trees. -/
def plainParser : Parser (List Byte) := ⟨some, some⟩

def appending (more : List Byte) (text : List Byte) : Except (List Byte) (List Byte) :=
  .ok (text ++ more)

/-- A text translation, a tree translation and another text translation. -/
def mixed : Translations (List Byte) where
  modules := [.text (appending (ascii "a")), .tree .ok, .text (appending (ascii "b"))]
  parser := some plainParser
  useOriginalOnError := true
  fakesInputBinds := fun _ => false

/-- A tree translation and a text translation behind it. -/
def treeFirst : Translations (List Byte) :=
  { mixed with modules := [.tree .ok, .text (appending (ascii "b"))] }

theorem composes_iff_treeFirst :
    treeFirst.Composes [] 64 (ascii "q") (ascii "qb") ↔
      treeFirst.Fits treeFirst.modules (.text (ascii "q")) [] 1 :=
  Translations.composes_iff [] 64 (by rfl)

/-- The last translation appends to what the first one has left in the buffer. -/
theorem not_composes_mixed :
    mixed.complete mixed.modules (.text (ascii "q")) = .ok (ascii "qab") ∧
      ¬mixed.Composes [] 64 (ascii "q") (ascii "qab") := by
  constructor
  · rfl
  · intro composes
    exact absurd composes.result (by decide)

end SqlRelay.Pipeline
