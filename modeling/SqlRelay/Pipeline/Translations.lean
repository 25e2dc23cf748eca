import Mathlib.Algebra.Group.Nat.Defs
import SqlRelay.Bind.FakedBinds

/-!
# Query translations

`sqlrquerytranslations::run`: the configured modules, some of which work on the
text of the query and some on its tree.  Two string buffers take turns.  The trees
and the parser are plugins, and so are the modules.
-/

namespace SqlRelay.Pipeline

open SqlRelay.Foundation SqlRelay.Foundation.CString SqlRelay.Bind

/-- The binds of a cursor. -/
structure Binds where
  input : List BindVar
  output : List BindVar
  inputOutput : List BindVar
  deriving DecidableEq, Repr

/-- What the pipeline does with a query.  Where a text is copied or handed on, the
event has the whole text and what became of it. -/
inductive Event where
  /-- A copy into the query buffer. -/
  | write (text written : List Byte)
  /-- A text handed to a translation module, or to the caller. -/
  | handOver (text given : List Byte)
  /-- A text appended to what a string buffer holds. -/
  | append (text buffer : List Byte)
  /-- The driver's `prepareQuery`. -/
  | prepare (text given : List Byte)
  /-- The binds handed to the driver. -/
  | bind (binds : Binds)
  /-- The driver's `executeQuery`. -/
  | execute (text given : List Byte)
  deriving DecidableEq, Repr

/-- A translation module.  A module that fails has an error text. -/
inductive Translation (Tree : Type) where
  | text (run : List Byte → Except (List Byte) (List Byte))
  | tree (run : Tree → Except (List Byte) Tree)

structure Parser (Tree : Type) where
  parse : List Byte → Option Tree
  write : Tree → Option (List Byte)

/-- The modules, the parser, and what to do with a query they fail on.  A module
may ask for the binds of a query to be faked. -/
structure Translations (Tree : Type) where
  modules : List (Translation Tree)
  parser : Option (Parser Tree)
  useOriginalOnError : Bool
  fakesInputBinds : List Byte → Bool

/-- The locals of the loop: the query and its size, the tree, the buffer that is
written next and the other one, which holds the query. -/
structure TranslationState (Tree : Type) where
  query : List Byte
  querySize : Nat
  tree : Option Tree
  buffer : List Byte
  other : List Byte

/-- The bytes from the query's pointer on, as many as its size says.  Behind the
query comes its terminator and then other memory. -/
def TranslationState.given {Tree : Type} (state : TranslationState Tree)
    (memory : List Byte) : List Byte :=
  (state.query ++ 0 :: memory).take state.querySize

namespace Translations

variable {Tree : Type} (translations : Translations Tree) (memory : List Byte)

def noParser : List Byte := ascii "query translation requires query tree but no parser available"
def notParsed : List Byte :=
  ascii "query translation requires query tree but query failed to parse"
def notWritten : List Byte := ascii "write-query failed"
def notWrittenAtLast : List Byte := ascii "final write-query failed"

def parseText (parser : Parser Tree) (text : List Byte) : Except (List Byte) Tree :=
  match parser.parse text with
  | none => .error notParsed
  | some tree => .ok tree

/-- The tree of the query, parsed if it has not been yet.  The parser gets a C
string. -/
def parsed (state : TranslationState Tree) : List Event × Except (List Byte) Tree :=
  match translations.parser, state.tree with
  | none, _ => ([], .error noParser)
  | some _, some tree => ([], .ok tree)
  | some parser, none =>
      let given := contents state.query
      ([.handOver state.query given], parseText parser given)

/-- A tree is written out before a text translation; the buffers swap, the size
stays. -/
def writeTree (state : TranslationState Tree) :
    Except (List Byte) (TranslationState Tree) :=
  let cleared := { state with buffer := [] }
  match state.tree, translations.parser with
  | none, _ => .ok cleared
  | some _, none => .error notWritten
  | some tree, some parser =>
      match parser.write tree with
      | none => .error notWritten
      | some text =>
          .ok { cleared with query := text, tree := none, buffer := state.other, other := text }

/-- One text module.  The size is a `uint32_t`. -/
def runText (run : List Byte → Except (List Byte) (List Byte)) (state : TranslationState Tree) :
    List Event × Except (List Byte) (TranslationState Tree) :=
  match translations.writeTree state with
  | .error error => ([], .error error)
  | .ok state =>
      let given := state.given memory
      match run given with
      | .error error => ([.handOver state.query given], .error error)
      | .ok text =>
          let output := state.buffer ++ text
          ([.handOver state.query given, .append text output],
            .ok { query := output, querySize := output.length % 2 ^ 32, tree := none
                  buffer := state.other, other := output })

/-- One tree module. -/
def runTree (run : Tree → Except (List Byte) Tree) (state : TranslationState Tree) :
    List Event × Except (List Byte) (TranslationState Tree) :=
  match translations.parsed state with
  | (events, .error error) => (events, .error error)
  | (events, .ok tree) =>
      match run tree with
      | .error error => (events, .error error)
      | .ok tree => (events, .ok { state with tree := some tree })

/-- The translated query, once the modules have run. -/
def finish (state : TranslationState Tree) :
    List Event × Except (List Byte) (List Byte) :=
  match state.tree with
  | none => ([.handOver state.query (state.given memory)], .ok (state.given memory))
  | some tree =>
      match translations.parser.bind fun parser => parser.write tree with
      | none => ([], .error notWrittenAtLast)
      | some text => ([], .ok text)

/-- The loop over the modules. -/
def runModules : List (Translation Tree) → TranslationState Tree →
    List Event × Except (List Byte) (List Byte)
  | [], state => translations.finish memory state
  | .text run :: later, state =>
      match translations.runText memory run state with
      | (events, .error error) => (events, .error error)
      | (events, .ok state) =>
          let (more, result) := runModules later state
          (events ++ more, result)
  | .tree run :: later, state =>
      match translations.runTree run state with
      | (events, .error error) => (events, .error error)
      | (events, .ok state) =>
          let (more, result) := runModules later state
          (events ++ more, result)

example (state : TranslationState Tree) :
    translations.runModules memory [] state = translations.finish memory state := by
  rw [runModules]

def run (query : List Byte) : List Event × Except (List Byte) (List Byte) :=
  translations.runModules memory translations.modules ⟨query, query.length, none, [], []⟩

end Translations

end SqlRelay.Pipeline
