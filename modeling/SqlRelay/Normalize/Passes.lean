import SqlRelay.Foundation.CString
import SqlRelay.Foundation.Lexemes

/-!
# Quoted strings in the normalize translation

`skipQuotedStrings`, `caseConvertQuotedStrings` and `removeQuotes`.  A pointer is the text from there
to the end of the buffer, and the NUL that ends the buffer is what is read where nothing is left.
A scanner that goes on behind the NUL is outside.
-/

namespace SqlRelay.Normalize

open SqlRelay.Foundation SqlRelay.Foundation.CString

/-- The parameters of the translation, with `slashescape` and `doubleescape` as `run` resolves
them. -/
structure Config where
  foreigndecimals : Bool
  uppercase : Bool
  lowercase : Bool
  uppercasedq : Bool
  lowercasedq : Bool
  removedq : Bool
  uppercasebq : Bool
  lowercasebq : Bool
  removebq : Bool
  doubleescape : Bool
  slashescape : Bool
  convertslashescape : Bool
  mysqlnativedb : Bool
  deriving DecidableEq, Repr

def backslash : Byte := 92

def singleQuote : Byte := 39

def doubleQuote : Byte := 34

def backQuote : Byte := 96

/-- What a scanner makes of the text at the pointer: what it writes and where it leaves the
pointer. -/
inductive Scan where
  | absent
  | outside
  | found (written rest : List Byte)
  deriving DecidableEq, Repr

/-- Another scanner, if there is nothing for this one. -/
def Scan.orElse (first second : Scan) : Scan :=
  match first with
  | .absent => second
  | scan => scan

/-- Put what was written in front of what is written later. -/
def written (front : List Byte) (later : List Byte × List Byte) : List Byte × List Byte :=
  (front ++ later.1, later.2)

namespace Config

variable (config : Config)

/-- A doubled quote. -/
def isDoubled (quote byte next : Byte) : Bool :=
  config.doubleescape && byte == quote && next == quote

/-- A backslash before a quote or a backslash. -/
def isSlashed (quote byte next : Byte) : Bool :=
  (config.slashescape || config.convertslashescape) && byte == backslash &&
    (next == quote || next == backslash)

/-- `upper` and `lower` are the case to convert to. -/
def convert (upper lower : Bool) (byte : Byte) : Byte :=
  if upper then toUpperCase byte else if lower then toLowerCase byte else byte
where
  /-- `toupper` in the C locale. -/
  toUpperCase (byte : Byte) : Byte :=
    if chr 'a' ≤ byte && byte ≤ chr 'z' then byte - 32 else byte

/-- The loop `do { .. } while (ptr!=end && *ptr!=quote);` that looks for the end-quote: what it
writes, and the text from where it stops.  At the NUL there is no quote and no backslash, so that
it is written, and the loop goes on behind it. -/
def toEndQuote (change : Byte → Byte) (quote : Byte) :
    List Byte → Option (List Byte × List Byte)
  | [] => none
  | [byte] => if byte = quote then some ([], [byte]) else some ([change byte], [])
  | byte :: next :: rest =>
      if config.isDoubled quote byte next then
        if rest = [] ∨ peek rest = quote then some ([byte, byte], rest)
        else (toEndQuote change quote rest).map (written [byte, byte])
      else if config.isSlashed quote byte next then
        if rest = [] ∨ peek rest = quote then some ([next, next], rest)
        else (toEndQuote change quote rest).map (written [next, next])
      else if byte = quote then some ([], byte :: next :: rest)
      else if next = quote then some ([change byte], next :: rest)
      else (toEndQuote change quote (next :: rest)).map (written [change byte])

/-- The loop and the end-quote, if the loop stopped at one. -/
def toEnd (change : Byte → Byte) (quote : Byte) (front text : List Byte) : Scan :=
  match config.toEndQuote change quote text with
  | none => .outside
  | some (inside, []) => .found (front ++ inside) []
  | some (inside, endQuote :: rest) => .found (front ++ (inside ++ [endQuote])) rest

/-- `skipQuotedStrings`; `set` says which quotes to skip. -/
def skipQuotedStrings (set : Byte → Bool) : List Byte → Scan
  | [] => .absent
  | byte :: rest => if set byte then config.toEnd id byte [byte] rest else .absent

/-- `skipQuotedStrings` with `alreadyinside`; `quote` is the byte before the pointer. -/
def skipQuotedStringsInside (quote : Byte) (text : List Byte) : Scan :=
  config.toEnd id quote [] text

/-- `caseConvertQuotedStrings` -/
def caseConvertQuotedStrings (upper : Bool) (quote : Byte) : List Byte → Scan
  | [] => .absent
  | byte :: rest =>
      if byte = quote then config.toEnd (convert upper !upper) quote [byte] rest else .absent

/-- The loop of `removeQuotes`, up to the end-quote or the end of the text. -/
def unquote (change : Byte → Byte) (quote : Byte) : List Byte → List Byte × List Byte
  | [] => ([], [])
  | [byte] => if byte = quote then ([], [byte]) else ([change byte], [])
  | byte :: next :: rest =>
      if config.isDoubled quote byte next || config.isSlashed quote byte next then
        written [next] (unquote change quote rest)
      else if byte = quote then ([], byte :: next :: rest)
      else written [change byte] (unquote change quote (next :: rest))

/-- `removeQuotes` -/
def removeQuotes (upper lower : Bool) (quote : Byte) : List Byte → Scan
  | [] => .absent
  | byte :: rest =>
      if byte = quote then
        let inside := config.unquote (convert upper lower) quote rest
        .found inside.1 (inside.2.drop 1)
      else .absent

end Config

/-!
## The passes of the normalize translation

`run` goes over the query four times.  A pass gives nothing if it reads outside of its buffer: before
its start or behind the NUL at its end.  Where a pass looks back, what is before the pointer is there
with the nearest byte first.
-/

/-- `||` of conditions that read. -/
def either (first second : Option Bool) : Option Bool :=
  first.bind fun holds => if holds then some true else second

/-- `&&` of conditions that read. -/
def both (first second : Option Bool) : Option Bool :=
  first.bind fun holds => if holds then second else some false

/-- What was passed between two pointers, the last byte first. -/
def passedBack (text after : List Byte) : List Byte :=
  (text.take (text.length - after.length)).reverse

def isQuote (byte : Byte) : Bool :=
  byte == singleQuote || byte == doubleQuote || byte == backQuote

namespace Config

variable (config : Config)

/-! ## First pass -/

/-- A comment up to the end of the line; for mysql only with whitespace behind the dashes. -/
def isLineComment : List Byte → Bool
  | first :: second :: rest =>
      first == chr '-' && second == chr '-' &&
        (!config.mysqlnativedb || rest.isEmpty || isWhitespace (peek rest))
  | _ => false

def isBlockComment (text : List Byte) : Bool := startsWith text (ascii "/*")

/-- The text behind the end of a comment. -/
def endOfBlock : List Byte → List Byte
  | [] => []
  | byte :: rest => if startsWith (byte :: rest) (ascii "*/") then rest.drop 1 else endOfBlock rest

def isBlank (text : List Byte) : Bool :=
  config.isLineComment text || isBlockComment text || isWhitespace (peek text)

/-- The loop over a run of comments and whitespace. -/
def skipBlanks : Nat → List Byte → List Byte
  | 0, text => text
  | fuel + 1, text =>
      if config.isLineComment text then
        skipBlanks fuel ((text.dropWhile fun byte => byte != chr '\n').drop 1)
      else if isBlockComment text then skipBlanks fuel (endOfBlock (text.drop 2))
      else if isWhitespace (peek text) then skipBlanks fuel (text.dropWhile isWhitespace)
      else text

/-- The quotes that the first pass does not change. -/
def keepsQuote (byte : Byte) : Bool :=
  byte == singleQuote ||
    (byte == doubleQuote && !config.uppercasedq && !config.lowercasedq && !config.removedq) ||
    (byte == backQuote && !config.uppercasebq && !config.lowercasebq && !config.removebq)

/-- Remove such quotes, or change the case between them. -/
def changeQuoted (remove upper lower : Bool) (quote : Byte) (text : List Byte) : Scan :=
  if remove then config.removeQuotes config.uppercase config.lowercase quote text
  else if upper || lower then config.caseConvertQuotedStrings upper quote text
  else .absent

def changeDoubleQuoted (text : List Byte) : Scan :=
  config.changeQuoted config.removedq config.uppercasedq config.lowercasedq doubleQuote text

def changeBackQuoted (text : List Byte) : Scan :=
  config.changeQuoted config.removebq config.uppercasebq config.lowercasebq backQuote text

/-- The quoted string at the pointer. -/
def firstQuoted (text : List Byte) : Scan :=
  (config.skipQuotedStrings config.keepsQuote text).orElse
    ((config.changeDoubleQuoted text).orElse (config.changeBackQuoted text))

def firstPassFrom : Nat → List Byte → List Byte → Option (List Byte)
  | 0, _, _ => none
  | fuel + 1, pass1, text =>
      if config.isBlank text then
        let after := config.skipBlanks text.length text
        firstPassFrom fuel (if after ≠ [] ∧ pass1 ≠ [] then pass1 ++ [chr ' '] else pass1) after
      else
        match config.firstQuoted text with
        | .outside => none
        | .found written rest => firstPassFrom fuel (pass1 ++ written) rest
        | .absent =>
            match text with
            | [] => some pass1
            | byte :: rest =>
                firstPassFrom fuel (pass1 ++ [convert config.uppercase config.lowercase byte]) rest

def firstPass (query : List Byte) : Option (List Byte) :=
  config.firstPassFrom (query.length + 1) [] query

/-! ## Second pass -/

def beforeset : List Byte := ascii " +-/*=<>("

def afterset : List Byte := ascii " +-/*=<>)"

/-- Back over digits, but not over the start of the buffer. -/
def skipDigitsBack : List Byte → List Byte
  | [] => []
  | [byte] => [byte]
  | byte :: next :: more =>
      if isDigit byte then skipDigitsBack (next :: more) else byte :: next :: more

/-- The comma between these is a decimal's. -/
def isDecimalComma (before rest : List Byte) : Option Bool :=
  let number := skipDigitsBack before
  let front := if peek number = chr '-' then number.drop 1 else number
  let after := rest.dropWhile isDigit
  match front with
  | [] => none
  | byte :: _ =>
      some (!(byte == chr '(' && peek after == chr ')') && beforeset.contains byte &&
        (afterset.contains (peek after) || peek after == 0 ||
          (peek after == chr ',' && isWhitespace (peek (after.drop 1)))))

def secondPassFrom : Nat → List Byte → List Byte → List Byte → Option (List Byte)
  | 0, _, _, _ => none
  | _ + 1, _, pass2, [] => some pass2
  | fuel + 1, before, pass2, byte :: rest =>
      if isWhitespace byte then secondPassFrom fuel (byte :: before) (pass2 ++ [byte]) rest
      else
        match config.skipQuotedStrings isQuote (byte :: rest) with
        | .outside => none
        | .found written after =>
            secondPassFrom fuel (passedBack (byte :: rest) after ++ before) (pass2 ++ written) after
        | .absent =>
            if byte = chr ',' ∧ isDigit (peek rest) = true ∧ before ≠ [] then
              (isDecimalComma before rest).bind fun decimal =>
                secondPassFrom fuel (byte :: before)
                  (pass2 ++ [if decimal then chr '.' else chr ',']) rest
            else secondPassFrom fuel (byte :: before) (pass2 ++ [byte]) rest

def secondPass (pass1 : List Byte) : Option (List Byte) :=
  if config.foreigndecimals then config.secondPassFrom (pass1.length + 1) [] [] pass1
  else some pass1

/-! ## Third pass -/

def symbols : List Byte := ascii "!%^-+=[\x7b\x7d\\|;,<.>/"

/-- The words after which a sign is not an operator between two operands. -/
def unaryWords : List (List Byte) :=
  [ascii "(select ", ascii " select ", ascii " regexp ", ascii " having ", ascii " offset ",
    ascii " where ", ascii " rlike ", ascii " limit ", ascii " and ", ascii " div ", ascii " mod ",
    ascii " not ", ascii " for ", ascii " or ", ascii " between ", ascii " matches ",
    ascii " like ", ascii " case ", ascii " then ", ascii " when ", ascii " else ",
    ascii " from ", ascii " order by ", ascii " interval "]

/-- The word ends with the space at the pointer. -/
def endsWord (before next word : List Byte) : Bool :=
  decide (word.length - 1 ≤ before.length) &&
    startsWith ((before.take (word.length - 1)).reverse ++ chr ' ' :: next) word

/-- The space is between such a word and a sign. -/
def isUnary (before next : List Byte) : Bool :=
  (peek next == chr '-' || peek next == chr '!') &&
    ((before.length == 6 && endsWord before next (ascii "select ")) ||
      unaryWords.any (endsWord before next))

/-- There is a symbol before or after the space. -/
def besideSymbol (before next : List Byte) : Option Bool :=
  either (some (symbols.contains (peek next)))
    (either (before.head?.map symbols.contains) (some (startsWith next (ascii ":="))))

def besideBracket (before next : List Byte) : Option Bool :=
  either (some (peek next == chr '['))
    (either (before.head?.map (· == chr '[')) (some (peek next == chr ']')))

def besideParenthesis (before next : List Byte) : Option Bool :=
  either (before.head?.map (· == chr '(')) (some (peek next == chr ')'))

/-- There is an asterisk before or after the space that does not mean all columns. -/
def besideAsterisk (before next : List Byte) : Bool :=
  match before with
  | [] => false
  | previous :: _ =>
      (startsWith next (ascii "*") && !startsWith (previous :: chr ' ' :: next) (ascii ". *") &&
          peek (next.drop 1) != chr ',' && !startsWith (next.drop 1) (ascii " ,") &&
          !startsWith (next.drop 1) (ascii " from ") && peek (next.drop 1) != 0) ||
        (previous == chr '*' && !startsWith (chr ' ' :: next) (ascii " from "))

/-- The space at the pointer is removed. -/
def removesSpace (before next : List Byte) : Option Bool :=
  either (both (besideSymbol before next) (some (!isUnary before next)))
    (either (besideBracket before next)
      (either (besideParenthesis before next) (some (besideAsterisk before next))))

def thirdPassFrom : Nat → List Byte → List Byte → List Byte → Option (List Byte)
  | 0, _, _, _ => none
  | fuel + 1, before, pass3, text =>
      match config.skipQuotedStrings isQuote text with
      | .outside => none
      | .found written after =>
          thirdPassFrom fuel (passedBack text after ++ before) (pass3 ++ written) after
      | .absent =>
          match text with
          | [] => some pass3
          | byte :: next =>
              if byte = chr ' ' then
                (removesSpace before next).bind fun removed =>
                  thirdPassFrom fuel (byte :: before) (if removed then pass3 else pass3 ++ [byte])
                    next
              else thirdPassFrom fuel (byte :: before) (pass3 ++ [byte]) next

def thirdPass (pass2 : List Byte) : Option (List Byte) :=
  config.thirdPassFrom (pass2.length + 1) [] [] pass2

/-! ## Fourth pass -/

/-- The text behind `||'`, if a string ends before the pointer. -/
def concatenated (before text : List Byte) : Option (List Byte) :=
  if before.head? = some singleQuote ∧ startsWith text (ascii "||'") = true then some (text.drop 3)
  else none

def fourthPassFrom : Nat → List Byte → List Byte → List Byte → Option (List Byte)
  | 0, _, _, _ => none
  | fuel + 1, before, translatedquery, text =>
      match config.skipQuotedStrings isQuote text with
      | .outside => none
      | .found written after =>
          fourthPassFrom fuel (passedBack text after ++ before) (translatedquery ++ written) after
      | .absent =>
          match concatenated before text with
          | some inside =>
              match config.skipQuotedStringsInside singleQuote inside with
              -- what is written next overwrites the end-quote
              | .found written after =>
                  fourthPassFrom fuel (passedBack text after ++ before)
                    (translatedquery.dropLast ++ written) after
              | _ => none
          | none =>
              match text with
              | [] => some translatedquery
              | byte :: rest => fourthPassFrom fuel (byte :: before) (translatedquery ++ [byte]) rest

def fourthPass (pass3 : List Byte) : Option (List Byte) :=
  config.fourthPassFrom (pass3.length + 1) [] [] pass3

/-- `run`: the translated query. -/
def run (query : List Byte) : Option (List Byte) :=
  (config.firstPass query).bind fun pass1 =>
    (config.secondPass pass1).bind fun pass2 =>
      (config.thirdPass pass2).bind config.fourthPass

end Config

end SqlRelay.Normalize
