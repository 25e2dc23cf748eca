import Mathlib.Data.List.Basic
import SqlRelay.Foundation.CString

/-!
# Trees of patterns

The patterns of `querytranslations/patterns.cpp` and of `errortranslations/patterns.cpp`.  A pattern
replaces text, or hands each match of an expression to the patterns nested in it, in the whole text or
only outside or inside of its literals.  The two modules differ in what they make of an empty list.
-/

namespace SqlRelay.Patterns

open SqlRelay.Foundation SqlRelay.Foundation.CString

def quote : Byte := chr '\''

/-! ## What comes from the library -/

/-- Where a substring of a match starts and ends. -/
structure Span (text : List Byte) where
  start : Nat
  stop : Nat
  ordered : start ≤ stop
  inside : stop ≤ text.length

/-- Expressions and replacements, which are not part of the repository.  Nor is `charstring::split`,
which may or may not report the empty part in front of a quote that a text starts with. -/
structure Library (Regex : Type) where
  search : Regex → (text : List Byte) → Option (List (Span text))
  replaceRegex : List Byte → Regex → Option (List Byte) → Bool → List Byte
  replace : List Byte → Option (List Byte) → Option (List Byte) → List Byte
  replaceIgnoringCase : List Byte → Option (List Byte) → Option (List Byte) → List Byte
  split : List Byte → List (List Byte)
  split_eq : ∀ text, split text = text.splitOn quote ∨
    (text.splitOn quote).head? = some [] ∧ split text = (text.splitOn quote).tail

/-! ## The tree -/

inductive Scope where
  | query
  | outsideQuotes
  | insideQuotes
  deriving DecidableEq, Repr

/-- A `pattern_t`; the text that `matchre` was built from is not used. -/
structure Pattern (Regex : Type) where
  matchre : Option Regex
  matchglobal : Bool
  fromText : Option (List Byte)
  fromre : Option Regex
  replaceglobal : Bool
  backrefs : Bool
  toText : Option (List Byte)
  ignorecase : Bool
  scope : Scope
  patterns : List (Pattern Regex)

/-- The module that a tree belongs to. -/
inductive PatternsModule where
  | queryTranslation
  | errorTranslation
  deriving DecidableEq, Repr

variable {Regex : Type} (library : Library Regex)

/-! ## Matching -/

/-- The whole match, which is the first substring, if there are any. -/
def Library.found (re : Regex) (text : List Byte) : Option (Span text) :=
  (library.search re text).bind List.head?

/-- The loop of `matchAndReplace`: `passed` is the text between `start` and `ptr`. -/
def matchFrom (re : Regex) (matchglobal : Bool) (transform : List Byte → List Byte)
    (passed ptr : List Byte) : List Byte :=
  match ptr with
  | [] => passed
  | byte :: rest =>
      match library.found re (byte :: rest) with
      | none => passed ++ byte :: rest
      | some bounds =>
          if bounds.stop = bounds.start then
            matchFrom re matchglobal transform (passed ++ [byte]) rest
          else
            let matchchunk :=
              ((byte :: rest).drop bounds.start).take (bounds.stop - bounds.start)
            let start := (byte :: rest).drop bounds.stop
            passed ++ (byte :: rest).take bounds.start ++ transform matchchunk ++
              if matchglobal then matchFrom re matchglobal transform [] start else start
termination_by ptr.length
decreasing_by
  · simp
  · have ordered := bounds.ordered
    simp only [List.length_drop, List.length_cons]
    omega

/-! ## Applying patterns -/

/-- A literal backslash is doubled, which is how `charstring::replace` takes it for one. -/
def escapeBackslashes (toText : List Byte) : List Byte :=
  toText.flatMap fun ch => if ch = chr '\\' then [chr '\\', ch] else [ch]

/-- What is appended to the output, and what it was made from. -/
structure Edit where
  old : List Byte
  new : List Byte
  deriving DecidableEq, Repr

/-- A quote that is appended as it is. -/
def Edit.mark : Edit := ⟨[quote], [quote]⟩

/-- What `applyPatterns` appends for each of the parts.  Every other one of them is taken for a literal:
the second and so on, but if the text starts with a quote, the first. -/
def scopedEdits (scope : Scope) (apply : List Byte → List Byte) (str : List Byte) : List Edit :=
  let mod := if peek str ≠ quote then 1 else 0
  ((library.split str).mapIdx fun j part =>
    let quoted := decide (j % 2 = mod)
    let edit :=
      if (quoted = true ∧ scope = .insideQuotes) ∨ scope = .outsideQuotes then ⟨part, apply part⟩
      else ⟨part, part⟩
    if quoted then [.mark, edit, .mark] else [edit]).flatten

/-- One round of the loop of `applyPatterns`. -/
def applyScoped (scope : Scope) (apply : List Byte → List Byte) (str : List Byte) : List Byte :=
  if scope = .query then apply str
  else (scopedEdits library scope apply str).flatMap Edit.new

/-- What `applyPatterns` appends if there are no patterns. -/
def PatternsModule.withoutPatterns (owner : PatternsModule) (str : List Byte) : List Byte :=
  match owner with
  | .queryTranslation => []
  | .errorTranslation => str

mutual

def applyPattern (owner : PatternsModule) : Pattern Regex → List Byte → List Byte
  | ⟨some matchre, matchglobal, _, _, _, _, _, _, _, patterns⟩, str =>
      matchFrom library matchre matchglobal
        (fun matchchunk =>
          if patterns.isEmpty then owner.withoutPatterns matchchunk
          else applyEach owner patterns matchchunk) [] str
  | ⟨none, _, _, some fromre, replaceglobal, backrefs, toText, _, _, _⟩, str =>
      library.replaceRegex str fromre
        (if backrefs then toText else toText.map escapeBackslashes) replaceglobal
  | ⟨none, _, fromText, none, _, _, toText, ignorecase, _, _⟩, str =>
      if ignorecase then library.replaceIgnoringCase str fromText toText
      else library.replace str fromText toText

/-- The patterns one after the other, each on what the last one gave.  Two buffers take turns, so that
none is written while it is read. -/
def applyEach (owner : PatternsModule) : List (Pattern Regex) → List Byte → List Byte
  | [], str => str
  | p :: rest, str =>
      applyEach owner rest (applyScoped library p.scope (applyPattern owner p) str)

end

def applyPatterns (owner : PatternsModule) (patterns : List (Pattern Regex)) (str : List Byte) :
    List Byte :=
  if patterns.isEmpty then owner.withoutPatterns str else applyEach library owner patterns str

/-- `matchAndReplace`, of a pattern with the expression `matchre`. -/
def matchAndReplace (owner : PatternsModule) (matchre : Regex) (p : Pattern Regex) (str : List Byte) :
    List Byte :=
  matchFrom library matchre p.matchglobal (applyPatterns library owner p.patterns) [] str

/-! ## Expressions that stand for themselves -/

/-- Where a literal is first found. -/
def findLiteral (literal : List Byte) : List Byte → Option Nat
  | [] => if literal = [] then some 0 else none
  | byte :: rest =>
      if startsWith (byte :: rest) literal then some 0
      else (findLiteral literal rest).map fun place => place + 1

/-- Each place where `old` begins, `begins` has it, is replaced. -/
def replaceLiteral (begins : List Byte → List Byte → Bool) (old new : List Byte) :
    Nat → List Byte → List Byte
  | 0, text => text
  | _ + 1, [] => []
  | fuel + 1, byte :: rest =>
      if old ≠ [] ∧ begins (byte :: rest) old = true then
        new ++ replaceLiteral begins old new fuel ((byte :: rest).drop old.length)
      else byte :: replaceLiteral begins old new fuel rest

/-- A library whose expressions have no special characters. -/
def literalLibrary : Library (List Byte) where
  search := fun re text =>
    match findLiteral re text with
    | none => none
    | some start =>
        if inside : start + re.length ≤ text.length then
          some [⟨start, start + re.length, Nat.le_add_right _ _, inside⟩]
        else none
  replaceRegex := fun text re toText _ => replaceLiteral startsWith re (toText.getD []) text.length text
  replace := fun text fromText toText =>
    replaceLiteral startsWith (fromText.getD []) (toText.getD []) text.length text
  replaceIgnoringCase := fun text fromText toText =>
    replaceLiteral startsWithIgnoringCase (fromText.getD []) (toText.getD []) text.length text
  split := fun text => text.splitOn quote
  split_eq := fun _ => Or.inl rfl

end SqlRelay.Patterns
