import Mathlib.Data.List.GetD
import Mathlib.Data.List.TakeWhile
import SqlRelay.Postgresql.Statements
import SqlRelay.Session.EndSession

/-!
# The Query message

`query` runs the queries of a string one after the other, in a transaction of its own if there are
several.  The text of a query is all that its reply depends on here, besides the database and the
network.
-/

namespace SqlRelay.Postgresql

open SqlRelay.Foundation SqlRelay.Foundation.CString SqlRelay.Query SqlRelay.Transaction
  SqlRelay.Insert
open SqlRelay.Session (Statement executeQuery)

variable {Db : Type}

/-- What becomes of the result of a query that has been executed: the client is told all of it and of
success, or a row cannot be fetched and an error is sent instead, or the network fails. -/
inductive Delivery where
  | told
  | failed (errorSent : Bool)
  | broken
  deriving DecidableEq, Repr

/-- The return value of `sendQueryResult`. -/
def Delivery.sent : Delivery → Bool
  | .told => true
  | .failed errorSent => errorSent
  | .broken => false

/-- What comes of a query: what the database makes of it, how its result gets to the client, and
whether an error or an empty response would. -/
structure Reply (Db : Type) where
  run : Db → Bool × Db
  delivery : Delivery
  errorSent : Bool
  emptySent : Bool

/-- A query of the string, and what comes of it. -/
abbrev Turn (Db : Type) := List Byte × Reply Db

/-- What the loop of `query` has done.  `executed` are the queries that have been prepared and executed,
or refused, and `carriedOut` says how many of them have succeeded; `told` says that the client knows of
the success of each query of the string. -/
structure Answer (Db : Type) where
  state : Controller Db
  result : Bool
  error : Bool
  executed : List (List Byte)
  carriedOut : Nat
  told : Bool

/-- The query has succeeded. -/
def Answer.after (turn : Turn Db) (answer : Answer Db) : Answer Db :=
  { answer with
    executed := turn.1 :: answer.executed
    carriedOut := answer.carriedOut + 1
    told := turn.2.delivery == .told && answer.told }

variable (connection : Connection Db)

/-- The loop of `query`. -/
def executeQueries : List (Turn Db) → Controller Db → Answer Db
  | [], state => ⟨state, true, false, [], 0, true⟩
  | (query, reply) :: turns, state =>
      if query = [] then
        if reply.emptySent then executeQueries turns state
        else ⟨state, false, false, [], 0, turns.all (·.1.isEmpty)⟩
      else
        let ran := executeQuery connection ⟨query, reply.run⟩ state
        if ran.1 then
          if reply.delivery.sent then (executeQueries turns ran.2).after (query, reply)
          else Answer.after (query, reply) ⟨ran.2, false, false, [], 0, false⟩
        else ⟨ran.2, reply.errorSent, true, [query], 0, false⟩

namespace Backend

variable (backend : Backend)

/-- Whether there is something behind the first query, and whether the packet is not read past to find
out. -/
def several (packet : List Byte) : Bool × Bool :=
  match backend.getQuery packet packet.length with
  | none => (false, false)
  | some (_, found) =>
      if peek found = 0 then (false, true)
      else
        let next := skipWhitespaceAndComments found.tail
        (peek next != 0, !next.isEmpty)

/-- The queries of a packet. -/
def queries (packet : List Byte) : List (List Byte) × Bool :=
  backend.queriesFrom (packet.length + 1) packet packet.length

/-- The queries of a packet, each with what comes of it. -/
def turns (replies : Nat → Reply Db) (packet : List Byte) : List (Turn Db) :=
  (backend.queries packet).1.mapIdx fun index query => (query, replies index)

/-- `query`, which has got a cursor.  What comes of beginning and of ending the transaction is
ignored. -/
def query (replies : Nat → Reply Db) (packet : List Byte) (state : Controller Db) : Answer Db :=
  let newtx := (backend.several packet).1 && !state.inTransaction
  let begun := if newtx then (connection.begin state).2 else state
  let answer := executeQueries connection (backend.turns replies packet) begun
  if newtx then
    if answer.error then { answer with state := (connection.rollback answer.state).2 }
    else { answer with state := (connection.commit answer.state).2 }
  else answer

/-- No byte behind the packet is looked at, however far the loop gets. -/
def staysInside (packet : List Byte) : Bool :=
  (backend.several packet).2 && (backend.queries packet).2

/-! ## What is executed -/

/-- The statements of the string are executed, in order, as they stand there, and all of them unless
one fails or its result does not get to the client. -/
structure ExecutesStatements (packet : List Byte) (answer : Answer Db) : Prop where
  inside : backend.staysInside packet = true
  inOrder : answer.executed <+: backend.statements (contents packet)
  all : answer.result = true → answer.error = false →
    answer.executed = backend.statements (contents packet)

/-- The string is ended in the packet, and each piece of it can be read. -/
def Splits (packet : List Byte) : Prop :=
  0 ∈ packet ∧ backend.ReadableFrom packet.length (backend.pieces (contents packet))

end Backend

theorem executeQueries_executed (turns : List (Turn Db)) (state : Controller Db) :
    (executeQueries connection turns state).executed <+: (turns.map (·.1)).filter (· ≠ []) ∧
      ((executeQueries connection turns state).result = true →
        (executeQueries connection turns state).error = false →
          (executeQueries connection turns state).executed = (turns.map (·.1)).filter (· ≠ [])) := by
  induction turns generalizing state with
  | nil => exact ⟨List.prefix_rfl, fun _ _ => rfl⟩
  | cons turn turns ih =>
      obtain ⟨query, reply⟩ := turn
      simp only [executeQueries, List.map_cons]
      by_cases nothing : query = []
      · rw [if_pos nothing, List.filter_cons_of_neg (by simp [nothing])]
        cases sent : reply.emptySent with
        | true => exact ih state
        | false => exact And.intro List.nil_prefix (fun answered => nomatch answered)
      · rw [if_neg nothing, List.filter_cons_of_pos (by simp [nothing])]
        have alone : [query] <+: query :: (turns.map (·.1)).filter (· ≠ []) :=
          List.cons_prefix_cons.mpr (And.intro rfl List.nil_prefix )
        split
        · split
          · have rest := ih (executeQuery connection ⟨query, reply.run⟩ state).2
            constructor
            · exact List.cons_prefix_cons.mpr ⟨rfl, rest.1⟩
            · intro answered right
              exact congrArg (query :: ·) (rest.2 answered right)
          · exact ⟨alone, fun answered => nomatch answered⟩
        · exact ⟨alone, fun _ right => nomatch right⟩

namespace Backend

variable {backend : Backend}

theorem turns_queries (replies : Nat → Reply Db) (packet : List Byte) :
    (backend.turns replies packet).map (·.1) = (backend.queries packet).1 := by
  apply List.ext_getElem
  · simp [turns]
  · intro index _ _
    simp [turns]

variable (backend) in
/-- The transaction that `query` has begun is ended, and nothing else changes. -/
theorem query_executed (replies : Nat → Reply Db) (packet : List Byte) (state : Controller Db) :
    ∃ begun, (backend.query connection replies packet state).executed =
        (executeQueries connection (backend.turns replies packet) begun).executed ∧
      (backend.query connection replies packet state).result =
        (executeQueries connection (backend.turns replies packet) begun).result ∧
      (backend.query connection replies packet state).error =
        (executeQueries connection (backend.turns replies packet) begun).error := by
  simp only [query]
  split
  · split
    · exact ⟨_, rfl, rfl, rfl⟩
    · exact ⟨_, rfl, rfl, rfl⟩
  · exact ⟨_, rfl, rfl, rfl⟩

theorem skipFrom_inside {text : List Byte} (ended : 0 ∈ text) (inComment : Bool) :
    skipFrom inComment text ≠ [] := by
  induction text generalizing inComment with
  | nil => cases ended
  | cons byte rest ih =>
      simp only [skipFrom]
      split
      · exact List.cons_ne_nil _ _
      · next notNul =>
          have behind : 0 ∈ rest := by
            cases ended with
            | head => exact absurd rfl notNul
            | tail _ behind => exact behind
          split
          · exact ih behind _
          · split
            · exact ih behind _
            · split
              · exact ih behind _
              · exact List.cons_ne_nil _ _

/-- The string of a packet that has one. -/
theorem contents_split {packet : List Byte} (ended : 0 ∈ packet) :
    0 ∉ contents packet ∧ ∃ junk, packet = contents packet ++ 0 :: junk := by
  induction packet with
  | nil => cases ended
  | cons byte packet ih =>
      by_cases isNul : byte = 0
      · subst isNul
        exact ⟨by simp [contents], packet, by simp [contents]⟩
      · have behind : 0 ∈ packet := by
          cases ended with
          | head => exact absurd rfl isNul
          | tail _ behind => exact behind
        have same : contents (byte :: packet) = byte :: contents packet := by
          simp [contents, isNul]
        rw [same]
        obtain ⟨noNul, junk, split⟩ := ih behind
        refine ⟨?_, junk, ?_⟩
        · intro listed
          cases listed with
          | head => exact isNul rfl
          | tail _ listed => exact noNul listed
        · rw [List.cons_append, ← split]

/-- A piece that can be read from where its white space ends can be read from its start on if the
module looks at enough bytes for all of it. -/
theorem Readable.ofTrimmed {limit : Nat} {piece : List (List Byte)}
    (readable : backend.Readable limit (piece.dropWhile isSpace)) {whole : Nat}
    (fits : piece.flatten.length ≤ whole) : backend.Readable whole piece := by
  have split : piece.takeWhile isSpace ++ piece.dropWhile isSpace = piece :=
    List.takeWhile_append_dropWhile
  constructor
  · intro before lexeme after isPiece quoted
    constructor
    · have listed : lexeme ∈ piece.dropWhile isSpace := by
        have somewhere : lexeme ∈ piece.takeWhile isSpace ++ piece.dropWhile isSpace := by
          rw [split, isPiece]
          simp
        cases List.mem_append.mp somewhere with
        | inl white =>
            have space : isSpace lexeme = true := List.mem_takeWhile_imp white
            simp only [isQuote, Bool.or_eq_true, beq_iff_eq] at quoted
            exfalso
            rcases quoted with (quoted | quoted) | quoted <;>
              · rw [isSpace, quoted] at space
                exact absurd space (by decide)
        | inr visible => exact visible
      obtain ⟨front, back, isSplit⟩ := List.append_of_mem listed
      exact (readable.closed front lexeme back isSplit quoted).1
    · have long := congrArg (fun piece => piece.flatten.length) isPiece
      simp only [List.flatten_append, List.flatten_cons, List.length_append] at long ⊢
      simp only [List.flatten_nil, List.length_nil]
      omega
  · rw [← dropWhile_space]
    exact readable.plain

theorem splitOn_first {lexemes first : List (List Byte)} {others : List (List (List Byte))}
    (pieces : lexemes.splitOn [chr ';'] = first :: others) :
    ∃ rest, lexemes = first ++ rest ∧ (rest = [] ∨ ∃ more, rest = [chr ';'] :: more) := by
  by_cases separated : [chr ';'] ∈ lexemes
  · obtain ⟨piece, more, isSplit, notIn⟩ := List.eq_append_cons_of_mem separated
    subst isSplit
    rw [List.splitOn_append_cons_self_of_not_mem notIn] at pieces
    cases pieces
    exact ⟨_, rfl, Or.inr ⟨more, rfl⟩⟩
  · rw [List.splitOn_eq_singleton separated] at pieces
    cases pieces
    exact ⟨[], (List.append_nil _).symm, Or.inl rfl⟩

/-- To look behind the first query stays inside of the packet. -/
theorem several_inside {lexemes first rest : List (List Byte)} {text : List Byte} (junk : List Byte)
    (lexed : backend.cut.Lexed lexemes text) (noNul : 0 ∉ text) (split : lexemes = first ++ rest)
    (ends : rest = [] ∨ ∃ more, rest = [chr ';'] :: more)
    (readable : backend.Readable (text ++ 0 :: junk).length first) :
    (backend.several (text ++ 0 :: junk)).2 = true := by
  rw [split] at lexed
  have found := getQuery_piece junk lexed noNul ends readable
  simp only [several, found]
  split
  · rfl
  · next notNul =>
      have behind : 0 ∈ (rest.flatten ++ 0 :: junk).tail := by
        cases ends with
        | inl nothing =>
            subst nothing
            exact absurd rfl notNul
        | inr more =>
            obtain ⟨more, isRest⟩ := more
            subst isRest
            simp
      simpa [List.isEmpty_iff, skipWhitespaceAndComments] using skipFrom_inside behind false

/-- The queries of a string that is split right are its statements, besides empty ones. -/
theorem Splits.queries {packet : List Byte} (splits : backend.Splits packet) :
    backend.staysInside packet = true ∧
      (backend.queries packet).1.filter (· ≠ []) = backend.statements (contents packet) := by
  have ended := splits.1
  have readable := splits.2
  obtain ⟨noNul, junk, isPacket⟩ := contents_split ended
  have lexed : backend.cut.Lexed _ (contents packet) := Cut.lexed_lexemes (contents packet)
  cases pieces : backend.pieces (contents packet) with
  | nil => exact absurd pieces (List.splitOn_ne_nil _ _)
  | cons first others =>
      rw [pieces] at readable
      obtain ⟨rest, split, ends⟩ := splitOn_first pieces
      have long : first.flatten.length ≤ packet.length := by
        have whole := congrArg List.length lexed.flatten
        have longer := congrArg List.length isPacket
        rw [split] at whole
        simp only [List.flatten_append, List.length_append] at whole longer
        omega
      have here := readable.1.ofTrimmed long
      have enough : (contents packet).length < packet.length + 1 := by
        have longer := congrArg List.length isPacket
        simp only [List.length_append] at longer
        omega
      obtain ⟨queries, found, same⟩ := queriesFrom_eq junk lexed noNul pieces here readable.2 enough
      rw [← isPacket] at found
      constructor
      · rw [staysInside, Backend.queries, found, isPacket]
        rw [isPacket] at here
        simp [several_inside junk lexed noNul split ends here]
      · rw [Backend.queries, found, statements, pieces]
        exact same

variable (backend) in
/-- `Readable`, to be evaluated. -/
def readable (limit : Nat) (piece : List (List Byte)) : Bool :=
  ((List.range piece.length).all fun index =>
    let lexeme := piece.getD index []
    !isQuote (peek lexeme) ||
      (literalEnd (peek lexeme) (backend.backslashEscapes (peek lexeme)) backend.quoteEscapesQuotes
        lexeme).isSome && decide ((piece.take (index + 1)).flatten.length ≤ limit)) &&
  (piece.dropWhile isBlank).all fun lexeme => isQuote (peek lexeme) || lexeme.all isPlain

theorem readable_iff {limit : Nat} {piece : List (List Byte)} :
    backend.readable limit piece = true ↔ backend.Readable limit piece := by
  simp only [readable, Bool.and_eq_true, List.all_eq_true, List.mem_range, Bool.or_eq_true,
    Bool.not_eq_true', decide_eq_true_eq]
  constructor
  · intro checked
    constructor
    · intro before lexeme after split quoted
      subst split
      have inside : before.length < (before ++ lexeme :: after).length := by simp
      have front : (before ++ lexeme :: after).take (before.length + 1) = before ++ [lexeme] := by
        simp [List.take_append, List.take_of_length_le]
      have here := checked.1 before.length inside
      rw [List.getD_append_right _ _ _ _ (Nat.le_refl _), Nat.sub_self, List.getD_cons_zero, front,
        quoted] at here
      exact here.resolve_left Bool.noConfusion
    · intro lexeme listed quoted byte inside
      exact (checked.2 lexeme listed).resolve_left (by simp [quoted]) byte inside
  · intro readable
    constructor
    · intro index inside
      cases quoted : isQuote (peek (piece.getD index [])) with
      | false => exact Or.inl rfl
      | true =>
          have here : piece.getD index [] = piece[index] := by simp [inside]
          rw [here] at quoted ⊢
          have split : piece = piece.take index ++ piece[index] :: piece.drop (index + 1) := by
            simp
          have closed := readable.closed _ _ _ split quoted
          rw [List.take_append_getElem] at closed
          exact Or.inr closed
    · intro lexeme listed
      cases quoted : isQuote (peek lexeme) with
      | true => exact Or.inl rfl
      | false => exact Or.inr (readable.plain lexeme listed quoted)

instance (limit : Nat) (piece : List (List Byte)) : Decidable (backend.Readable limit piece) :=
  decidable_of_iff _ readable_iff

instance decidableReadableFrom :
    ∀ limit pieces, Decidable (backend.ReadableFrom limit pieces)
  | _, [] => isTrue trivial
  | limit, piece :: pieces =>
      have : Decidable (backend.ReadableFrom (piece.dropWhile isBlank).flatten.length pieces) :=
        decidableReadableFrom _ pieces
      inferInstanceAs (Decidable (backend.Readable limit (piece.dropWhile isSpace) ∧
        backend.ReadableFrom (piece.dropWhile isBlank).flatten.length pieces))

instance (packet : List Byte) : Decidable (backend.Splits packet) :=
  inferInstanceAs (Decidable (_ ∧ _))

/-- A string is split where it should be if each piece of it can be read. -/
theorem query_executesStatements {connection : Connection Db} {packet : List Byte}
    (splits : backend.Splits packet) (replies : Nat → Reply Db) (state : Controller Db) :
    backend.ExecutesStatements packet (backend.query connection replies packet state) := by
  obtain ⟨begun, executed, result, error⟩ :=
    query_executed connection backend replies packet state
  have ran := executeQueries_executed connection (backend.turns replies packet) begun
  rw [turns_queries, splits.queries.2] at ran
  constructor
  · exact splits.queries.1
  · rw [executed]
    exact ran.1
  · rw [executed, result, error]
    exact ran.2

end Backend

/-- A backend whose quotes are escaped by quotes.  Of a literal that does not end soon enough all that
there is is passed over. -/
def plainBackend : Backend where
  backslashEscapesQuotes := false
  quoteEscapesQuotes := true
  postgresql := true
  findEndOfQuotedString text length quote backslash quotedoubles :=
    min ((literalEnd quote backslash quotedoubles text).getD text.length) length.toNat
  finds := by
    intro text length quote backslash quotedoubles count found fits
    rw [found]
    simp only [Option.getD_some]
    omega

theorem explicit_on (_other : TransactionModel.explicit ≠ .implicit) : true = true := rfl

theorem explicit_off (same : TransactionModel.explicit = .implicit) (_manual : true = false) :
    true = false := by
  cases same

/-- A database that does what it is asked. -/
def willing : Connection Unit where
  nativeTransactionModel := .explicit
  supportsAutoCommit := true
  defaultAutoCommit := true
  default_on := explicit_on
  default_off := explicit_off
  call := fun _ db => (true, db)
  flag := ⟨true, true, true⟩

def idle : Controller Unit where
  txModel := .explicit
  autoCommit := true
  inTransaction := false
  eotAutoCommit := false
  needsCommitOrRollback := false
  error := none
  db := ()

def answered (_index : Nat) : Reply Unit := ⟨fun db => (true, db), .told, true, true⟩

namespace Backend

theorem query_executesStatements_literal :
    plainBackend.ExecutesStatements (ascii "put ';';get '1'\x00")
      (plainBackend.query willing answered (ascii "put ';';get '1'\x00") idle) :=
  query_executesStatements (by decide +kernel) answered idle

/-- The semicolon of a comment is taken for the end of a statement. -/
theorem query_splits_comment :
    ¬plainBackend.ExecutesStatements (ascii "select 1 /* ; */; select 2\x00")
      (plainBackend.query willing answered (ascii "select 1 /* ; */; select 2\x00") idle) := by
  intro executes
  have all := executes.all (by decide) (by decide)
  exact absurd all (by decide)

end Backend

end SqlRelay.Postgresql
