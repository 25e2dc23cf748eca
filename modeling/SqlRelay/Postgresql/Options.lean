import SqlRelay.Foundation.CString
import SqlRelay.Foundation.Separated

/-!
# The options of a startup message

`parseOptions` takes a string of options apart: pairs of a name and a value with a space between
them, in which a backslash makes the next character literal.  The loop tests its pointer and not the
character, so that nothing but a backslash in front of the terminator stops it, and it moves on
twice after a character that was escaped.
-/

namespace SqlRelay.Postgresql.Options

open SqlRelay.Foundation SqlRelay.Foundation.CString

abbrev Pair := List Byte × List Byte

/-- What a character is for the loop. -/
inductive Item where
  | literal (byte : Byte)
  | equals
  | space
  deriving DecidableEq, Repr

def backslash : Byte := chr '\\'

/-- What a character is that was not escaped. -/
def item (byte : Byte) : Item :=
  if byte = chr ' ' then .space else if byte = chr '=' then .equals else .literal byte

/-- The buffers, whether `strb` is the one of the value, and the options so far. -/
structure Loop where
  name : List Byte
  value : List Byte
  inValue : Bool
  options : List Pair
  deriving DecidableEq, Repr

namespace Loop

def start : Loop := ⟨[], [], false, []⟩

/-- `strb->append` -/
def append (loop : Loop) (byte : Byte) : Loop :=
  if loop.inValue then { loop with value := loop.value ++ [byte] }
  else { loop with name := loop.name ++ [byte] }

/-- `options.setValue`, and both buffers are empty again. -/
def store (loop : Loop) : Loop := ⟨[], [], false, loop.options ++ [(loop.name, loop.value)]⟩

def act (loop : Loop) : Item → Loop
  | .space => loop.store
  | .equals => { loop with inValue := !loop.inValue }
  | .literal byte => loop.append byte

/-- The options behind the loop: the last one is stored if it has a name. -/
def finish (loop : Loop) : List Pair :=
  if loop.name = [] then loop.options else loop.options ++ [(loop.name, loop.value)]

end Loop

/-- The loop over the characters; none if it reads past the terminator.  The terminator itself is
appended like any other character. -/
def parseFrom (loop : Loop) : List Byte → Option Loop
  | [] => none
  | byte :: rest =>
      if byte = backslash then
        match rest with
        | [] => some loop
        | [_] => none
        | escaped :: _ :: rest => parseFrom (loop.append escaped) rest
      else parseFrom (loop.act (item byte)) rest

/-- The string without its leading whitespace. -/
def skipWhitespace (opts : List Byte) : List Byte := (contents opts).dropWhile isWhitespace

/-- `parseOptions`: the options in the order in which they are stored. -/
def parseOptions (opts : List Byte) : Option (List Pair) :=
  (parseFrom .start (skipWhitespace opts)).map Loop.finish

/-! ## What the string says -/

/-- The characters of a string, where a backslash makes the next one literal. -/
def characters : List Byte → List Item
  | [] => []
  | byte :: rest =>
      if byte = backslash then
        match rest with
        | [] => []
        | escaped :: rest => .literal escaped :: characters rest
      else item byte :: characters rest

def Item.byte : Item → Byte
  | .literal byte => byte
  | .equals => chr '='
  | .space => chr ' '

/-- The name up to the first equals sign, and the value after it. -/
def pair (piece : List Item) : Option Pair :=
  match piece.takeWhile (· != .equals), piece.dropWhile (· != .equals) with
  | name :: rest, _ :: value => some ((name :: rest).map Item.byte, value.map Item.byte)
  | _, _ => none

/-- The pairs that the unescaped spaces separate. -/
def pairsOf (items : List Item) : List Pair := (items.splitOn .space).filterMap pair

def pairs (opts : List Byte) : List Pair := pairsOf (characters (skipWhitespace opts))

/-! ## What the loop makes of it -/

/-- The characters that the loop acts on. -/
def actsOn : List Byte → Option (List Item)
  | [] => none
  | byte :: rest =>
      if byte = backslash then
        match rest with
        | [] => some []
        | [_] => none
        | escaped :: _ :: rest => (actsOn rest).map (.literal escaped :: ·)
      else (actsOn rest).map (item byte :: ·)

/-- The loop meets a backslash in front of the terminator. -/
def stops : List Byte → Bool
  | [] => false
  | byte :: rest =>
      if byte = backslash then
        match rest with
        | [] => true
        | [_] => false
        | _ :: _ :: rest => stops rest
      else stops rest

/-- It does, and what it leaves out after an escaped character is the backslash of the next one,
which would have been literal without it. -/
def readable : List Byte → Bool
  | [] => false
  | byte :: rest =>
      if byte = backslash then
        match rest with
        | [] => true
        | _ :: left :: next :: rest =>
            left == backslash && next != backslash && item next == .literal next && readable rest
        | _ => false
      else readable rest

/-- A piece with one equals sign and something in front of it. -/
def proper (piece : List Item) : Bool :=
  piece.count .equals == 1 && piece.head? != some .equals

/-- Nothing of this is written to the name. -/
def nameless (inValue : Bool) : List Item → Bool
  | [] => true
  | .equals :: rest => nameless (!inValue) rest
  | _ :: rest => inValue && nameless inValue rest

/-- The pieces are pairs, and the last one may also have no name. -/
def wellFormed : List (List Item) → Bool
  | [] => true
  | [last] => proper last || nameless false last
  | piece :: pieces => proper piece && wellFormed pieces

/-- What the loop writes of a piece to the name and to the value. -/
def halves (inValue : Bool) : List Item → Pair
  | [] => ([], [])
  | .equals :: rest => halves (!inValue) rest
  | item :: rest =>
      let (name, value) := halves inValue rest
      if inValue then (name, item.byte :: value) else (item.byte :: name, value)

/-- The string is one that the loop takes apart as it should. -/
def wellRead (opts : List Byte) : Bool :=
  readable (skipWhitespace opts) &&
    wellFormed ((characters (skipWhitespace opts)).splitOn .space)

/-- The loop stops within the string, has taken each character for what it is, and has stored the
pairs. -/
def ParsesExactly (opts : List Byte) : Prop :=
  actsOn (skipWhitespace opts) = some (characters (skipWhitespace opts)) ∧
    parseOptions opts = some (pairs opts)

variable {loop : Loop} {text : List Byte} {items piece : List Item} {pieces : List (List Item)}

section Characters

variable {byte escaped left : Byte} {rest : List Byte}

theorem actsOn_plain (plain : byte ≠ backslash) :
    actsOn (byte :: rest) = (actsOn rest).map (item byte :: ·) := by
  rw [actsOn.eq_def]
  exact if_neg plain

@[simp] theorem actsOn_escaped :
    actsOn (backslash :: escaped :: left :: rest) =
      (actsOn rest).map (.literal escaped :: ·) := by
  simp [actsOn]

theorem characters_plain (plain : byte ≠ backslash) :
    characters (byte :: rest) = item byte :: characters rest := by
  rw [characters.eq_def]
  exact if_neg plain

@[simp] theorem characters_escaped :
    characters (backslash :: escaped :: rest) = .literal escaped :: characters rest := by
  simp [characters]

theorem stops_plain (plain : byte ≠ backslash) : stops (byte :: rest) = stops rest := by
  rw [stops.eq_def]
  exact if_neg plain

theorem readable_plain (plain : byte ≠ backslash) : readable (byte :: rest) = readable rest := by
  rw [readable.eq_def]
  exact if_neg plain

end Characters

theorem parseFrom_eq (loop : Loop) (text : List Byte) :
    parseFrom loop text = (actsOn text).map (·.foldl Loop.act loop) := by
  fun_induction parseFrom loop text with
  | case1 loop => rfl
  | case2 loop => simp [actsOn]
  | case3 loop => simp [actsOn]
  | case4 loop escaped left rest ih => simp [ih, Function.comp_def, Loop.act]
  | case5 loop byte rest plain ih => simp [actsOn_plain plain, ih, Function.comp_def]

theorem isSome_actsOn (text : List Byte) : (actsOn text).isSome = stops text := by
  fun_induction actsOn text with
  | case1 => rfl
  | case2 => simp [stops]
  | case3 => simp [stops]
  | case4 escaped left rest ih => simp [stops, ih]
  | case5 byte rest plain ih => simp [stops_plain plain, ih]

/-- One character more makes at most one item more, and no item less. -/
theorem length_characters_cons (byte : Byte) (text : List Byte) :
    (characters text).length ≤ (characters (byte :: text)).length ∧
      (characters (byte :: text)).length ≤ (characters text).length + 1 := by
  induction text generalizing byte with
  | nil => by_cases plain : byte = backslash <;> simp [characters, plain]
  | cons next text ih =>
      have shorter := ih next
      by_cases plain : byte = backslash
      · rw [plain, characters_escaped, List.length_cons]
        omega
      · rw [characters_plain plain, List.length_cons]
        omega

/-- The loop acts on no more characters than there are. -/
theorem length_actsOn (acted : actsOn text = some items) :
    items.length ≤ (characters text).length := by
  induction text using actsOn.induct generalizing items with
  | case1 => simp [actsOn] at acted
  | case2 =>
      cases acted
      exact Nat.zero_le _
  | case3 => simp [actsOn] at acted
  | case4 escaped left rest ih =>
      rw [actsOn_escaped] at acted
      obtain ⟨later, found, rfl⟩ := Option.map_eq_some_iff.mp acted
      have longer := (length_characters_cons left rest).1
      rw [characters_escaped, List.length_cons, List.length_cons]
      exact Nat.succ_le_succ ((ih found).trans longer)
  | case5 byte rest plain ih =>
      rw [actsOn_plain plain] at acted
      obtain ⟨later, found, rfl⟩ := Option.map_eq_some_iff.mp acted
      rw [characters_plain plain, List.length_cons, List.length_cons]
      exact Nat.succ_le_succ (ih found)

/-- It never makes up for a character that it has left out. -/
theorem actsOn_ne_cons (head : Item) (text : List Byte) :
    actsOn text ≠ some (head :: characters text) := by
  intro acted
  have longer := length_actsOn acted
  rw [List.length_cons] at longer
  exact absurd longer (Nat.not_succ_le_self _)

theorem map_cons_eq_some {α : Type} {head head' : α} {tail : List α} {later : Option (List α)} :
    later.map (head :: ·) = some (head' :: tail) ↔ head = head' ∧ later = some tail := by
  cases later <;> simp

/-- After an escaped character, the loop goes on as it should only with the next escaped one. -/
theorem actsOn_left_iff {left next : Byte} {rest : List Byte} :
    actsOn (next :: rest) = some (characters (left :: next :: rest)) ↔
      left = backslash ∧ next ≠ backslash ∧ item next = .literal next ∧
        actsOn rest = some (characters rest) := by
  by_cases escapes : left = backslash
  · rw [escapes, characters_escaped]
    by_cases plain : next = backslash
    · rw [plain]
      constructor
      · intro acted
        cases rest with
        | nil => simp [actsOn] at acted
        | cons escaped rest =>
            cases rest with
            | nil => simp [actsOn] at acted
            | cons left rest =>
                rw [actsOn_escaped, map_cons_eq_some, Item.literal.injEq] at acted
                rw [acted.1, characters_escaped] at acted
                exact absurd acted.2 (actsOn_ne_cons _ _)
      · rintro ⟨_, other, _⟩
        exact absurd rfl other
    · rw [actsOn_plain plain, map_cons_eq_some]
      simp [plain]
  · rw [characters_plain escapes]
    constructor
    · intro acted
      exact absurd acted (actsOn_ne_cons _ _)
    · rintro ⟨same, _⟩
      exact absurd same escapes

theorem actsOn_eq_characters_iff (text : List Byte) :
    actsOn text = some (characters text) ↔ readable text = true := by
  induction text using readable.induct with
  | case1 => simp [actsOn, readable]
  | case2 => simp [actsOn, readable, characters]
  | case3 escaped left next rest ih =>
      rw [actsOn_escaped, characters_escaped, map_cons_eq_some, actsOn_left_iff, ih]
      simp [readable, and_assoc]
  | case4 rest short long =>
      rcases rest with _ | ⟨escaped, _ | ⟨left, _ | ⟨next, rest⟩⟩⟩
      · exact absurd rfl short
      · simp [actsOn, readable]
      · simp [actsOn, readable]
      · exact absurd rfl (long escaped left next rest)
  | case5 byte rest plain ih =>
      rw [actsOn_plain plain, characters_plain plain, readable_plain plain, map_cons_eq_some, ih]
      simp

/-- Within a piece, the loop only writes to its buffers. -/
theorem foldl_piece (noSpace : Item.space ∉ piece) (loop : Loop) :
    ∃ inValue, piece.foldl Loop.act loop =
      ⟨loop.name ++ (halves loop.inValue piece).1, loop.value ++ (halves loop.inValue piece).2,
        inValue, loop.options⟩ := by
  induction piece generalizing loop with
  | nil => exact ⟨loop.inValue, by simp [halves]⟩
  | cons item piece ih =>
      rw [List.mem_cons, not_or] at noSpace
      obtain ⟨inValue, later⟩ := ih noSpace.2 (loop.act item)
      refine ⟨inValue, ?_⟩
      rw [List.foldl_cons, later]
      cases item with
      | space => exact absurd rfl noSpace.1
      | equals => rfl
      | literal byte => cases side : loop.inValue <;> simp [Loop.act, Loop.append, halves, side, Item.byte]

/-- What is stored of the last piece. -/
def ended (piece : List Item) : List Pair :=
  if (halves false piece).1 = [] then [] else [halves false piece]

/-- Every piece but the last one is stored. -/
theorem finish_foldl (options : List Pair) (last : List Item) (pieces : List (List Item))
    (noSpace : ∀ piece ∈ pieces ++ [last], Item.space ∉ piece) :
    (([Item.space].intercalate (pieces ++ [last])).foldl Loop.act
        ⟨[], [], false, options⟩).finish =
      options ++ pieces.map (halves false) ++ ended last := by
  induction pieces generalizing options with
  | nil =>
      obtain ⟨inValue, folded⟩ := foldl_piece (noSpace last (by simp)) ⟨[], [], false, options⟩
      rw [List.nil_append, List.intercalate_singleton, folded, Loop.finish, ended]
      split <;> simp_all
  | cons piece pieces ih =>
      rw [List.cons_append, List.forall_mem_cons] at noSpace
      obtain ⟨inValue, folded⟩ := foldl_piece noSpace.1 ⟨[], [], false, options⟩
      have later : pieces ++ [last] ≠ [] := by simp
      rw [List.cons_append, List.intercalate_cons_of_ne_nil later, List.append_assoc,
        List.foldl_append, folded, List.singleton_append, List.foldl_cons]
      simp only [Loop.act, Loop.store, List.nil_append]
      rw [ih _ noSpace.2]
      simp

theorem length_halves (inValue : Bool) (piece : List Item) :
    (halves inValue piece).1.length + (halves inValue piece).2.length + piece.count .equals =
      piece.length := by
  induction piece generalizing inValue with
  | nil => rfl
  | cons item piece ih =>
      have later := ih inValue
      cases item with
      | equals =>
          have toggled := ih (!inValue)
          rw [halves, List.count_cons_self, List.length_cons]
          omega
      | space => cases inValue <;> simp [halves] <;> omega
      | literal byte => cases inValue <;> simp [halves] <;> omega

theorem halves_plain (plain : Item.equals ∉ piece) (inValue : Bool) :
    halves inValue piece =
      if inValue then ([], piece.map Item.byte) else (piece.map Item.byte, []) := by
  induction piece with
  | nil => cases inValue <;> rfl
  | cons item piece ih =>
      rw [List.mem_cons, not_or] at plain
      cases item with
      | equals => exact absurd rfl plain.1
      | space => cases inValue <;> simp [halves, ih plain.2]
      | literal byte => cases inValue <;> simp [halves, ih plain.2]

theorem halves_append {front : List Item} (plain : Item.equals ∉ front) (back : List Item) :
    halves false (front ++ .equals :: back) =
      (front.map Item.byte ++ (halves true back).1, (halves true back).2) := by
  induction front with
  | nil => rfl
  | cons item front ih =>
      rw [List.mem_cons, not_or] at plain
      cases item with
      | equals => exact absurd rfl plain.1
      | space => simp [halves, ih plain.2]
      | literal byte => simp [halves, ih plain.2]

theorem pair_plain (plain : Item.equals ∉ piece) : pair piece = none := by
  have whole : ∀ item ∈ piece, (item != Item.equals) = true := by
    intro item listed
    exact bne_iff_ne.mpr fun same => plain (same ▸ listed)
  rw [pair, List.dropWhile_eq_nil_iff.mpr whole]
  cases piece.takeWhile (· != Item.equals) <;> rfl

theorem pair_append {front : List Item} (plain : Item.equals ∉ front) (back : List Item) :
    pair (front ++ .equals :: back) =
      if front = [] then none else some (front.map Item.byte, back.map Item.byte) := by
  have whole : ∀ item ∈ front, (item != Item.equals) = true := by
    intro item listed
    exact bne_iff_ne.mpr fun same => plain (same ▸ listed)
  rw [pair, List.takeWhile_append_of_pos whole, List.dropWhile_append_of_pos whole]
  cases front <;> simp

/-- What is a pair has a name. -/
theorem halves_of_pair {stored : Pair} (found : pair piece = some stored) :
    (halves false piece).1 ≠ [] := by
  by_cases signs : Item.equals ∈ piece
  · obtain ⟨front, back, rfl, plain⟩ := List.eq_append_cons_of_mem signs
    rw [pair_append plain] at found
    rw [halves_append plain]
    cases front with
    | nil => simp at found
    | cons item front => simp
  · simp [pair_plain signs] at found

/-- A piece is stored as the pair that it is exactly if it is a proper one. -/
theorem pair_eq_halves_iff (piece : List Item) :
    pair piece = some (halves false piece) ↔ proper piece = true := by
  by_cases signs : Item.equals ∈ piece
  · obtain ⟨front, back, rfl, plain⟩ := List.eq_append_cons_of_mem signs
    rw [pair_append plain, halves_append plain, proper, List.count_append,
      List.count_eq_zero.mpr plain, List.count_cons_self]
    cases front with
    | nil => simp
    | cons item front =>
        have named : item ≠ .equals := fun same => plain (same ▸ List.mem_cons_self ..)
        have whole := length_halves true back
        rw [if_neg (List.cons_ne_nil _ _), Option.some_inj, Prod.mk.injEq]
        simp only [List.cons_append, List.head?_cons, Bool.and_eq_true, beq_iff_eq, bne_iff_ne,
          ne_eq, Option.some_inj, named, not_false_eq_true, and_true]
        constructor
        · rintro ⟨_, value⟩
          have lengths := congrArg List.length value
          rw [List.length_map] at lengths
          omega
        · intro once
          have none_left : Item.equals ∉ back := List.count_eq_zero.mp (by omega)
          rw [halves_plain none_left]
          exact ⟨(List.append_nil _).symm, rfl⟩
  · rw [pair_plain signs, proper, List.count_eq_zero.mpr signs]
    simp

theorem nameless_iff (inValue : Bool) (piece : List Item) :
    nameless inValue piece = true ↔ (halves inValue piece).1 = [] := by
  induction piece generalizing inValue with
  | nil => simp [nameless, halves]
  | cons item piece ih =>
      cases item with
      | equals => exact ih (!inValue)
      | space => cases inValue <;> simp [nameless, halves, ih]
      | literal byte => cases inValue <;> simp [nameless, halves, ih]

/-- The last piece is stored as it should be if it is a proper one, or if neither stores it. -/
theorem ended_iff (last : List Item) :
    [last].filterMap pair = ended last ↔ (proper last || nameless false last) = true := by
  rw [Bool.or_eq_true, nameless_iff, ← pair_eq_halves_iff, ended]
  cases found : pair last with
  | none => by_cases unnamed : (halves false last).1 = [] <;> simp [found, unnamed]
  | some stored =>
      have named := halves_of_pair found
      simp [found, named]

theorem wellFormed_append (pieces : List (List Item)) (last : List Item) :
    wellFormed (pieces ++ [last]) =
      (pieces.all proper && (proper last || nameless false last)) := by
  induction pieces with
  | nil => rfl
  | cons piece pieces ih =>
      cases pieces with
      | nil => simp [wellFormed]
      | cons next pieces =>
          rw [List.all_cons, Bool.and_assoc, ← ih]
          rfl

/-- Parts that are no longer make up the same list only if they are the same. -/
theorem append_eq_append_iff_of_length_le {α : Type} {front back front' back' : List α}
    (fronts : front.length ≤ front'.length) (backs : back.length ≤ back'.length) :
    front ++ back = front' ++ back' ↔ front = front' ∧ back = back' := by
  constructor
  · intro same
    have lengths := congrArg List.length same
    rw [List.length_append, List.length_append] at lengths
    exact List.append_inj same (by omega)
  · rintro ⟨rfl, rfl⟩
    rfl

theorem length_filterMap_last (last : List Item) :
    ([last].filterMap pair).length ≤ (ended last).length := by
  rw [ended]
  cases found : pair last with
  | none => simp [found]
  | some stored => simp [found, halves_of_pair found]

/-- Of characters that it takes for what they are, the loop stores the pairs exactly if all pieces
are well formed. -/
theorem finish_eq_pairsOf_iff (items : List Item) :
    (items.foldl Loop.act .start).finish = pairsOf items ↔
      wellFormed (items.splitOn .space) = true := by
  have noSpace := Separated.notMem_of_mem_splitOn Item.space items
  have joined : [Item.space].intercalate (items.splitOn .space) = items :=
    List.intercalate_splitOn Item.space
  rw [pairsOf]
  rcases List.eq_nil_or_concat (items.splitOn .space) with empty | ⟨pieces, last, split⟩
  · exact absurd empty (List.splitOn_ne_nil _ _)
  · rw [List.concat_eq_append] at split
    rw [split] at noSpace joined ⊢
    have stored := finish_foldl [] last pieces noSpace
    rw [joined, List.nil_append] at stored
    rw [Loop.start, stored, List.filterMap_append, wellFormed_append, eq_comm,
      append_eq_append_iff_of_length_le (by
        rw [List.length_map]
        exact List.length_filterMap_le _ _) (length_filterMap_last last),
      List.filterMap_eq_map_iff_forall_eq_some, ended_iff, Bool.and_eq_true, List.all_eq_true]
    simp only [pair_eq_halves_iff]

theorem parseOptions_of_actsOn {opts : List Byte}
    (acted : actsOn (skipWhitespace opts) = some items) :
    parseOptions opts = some (items.foldl Loop.act .start).finish := by
  rw [parseOptions, parseFrom_eq, acted]
  rfl

/-- The loop stops within the string exactly if it meets a backslash in front of the terminator. -/
theorem isSome_parseOptions (opts : List Byte) :
    (parseOptions opts).isSome = stops (skipWhitespace opts) := by
  rw [parseOptions, parseFrom_eq, Option.isSome_map, Option.isSome_map, isSome_actsOn]

/-- The loop stays within the string exactly if it meets a backslash in front of the terminator; and
it takes each character for what it is and stores the pairs exactly if, besides, the only other
backslashes it meets come in twos and all pieces are well formed. -/
theorem parsesExactly_iff (opts : List Byte) :
    ((parseOptions opts).isSome = true ↔ stops (skipWhitespace opts) = true) ∧
      (ParsesExactly opts ↔ wellRead opts = true) := by
  rw [isSome_parseOptions, wellRead, Bool.and_eq_true, ← actsOn_eq_characters_iff, ParsesExactly]
  refine ⟨Iff.rfl, and_congr_right_iff.mpr fun acted => ?_⟩
  rw [parseOptions_of_actsOn acted, Option.some_inj, pairs, finish_eq_pairsOf_iff]

/-- One pair is enough to read past the terminator. -/
theorem not_parseOptions_eq_pairs : parseOptions (ascii "a=b") ≠ some (pairs (ascii "a=b")) := by
  decide

end SqlRelay.Postgresql.Options
