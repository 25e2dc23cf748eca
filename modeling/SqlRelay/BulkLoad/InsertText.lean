import SqlRelay.Bind.Markers
import SqlRelay.BulkLoad.ParseInsert
import SqlRelay.Foundation.Separated
import SqlRelay.Query.Interception

/-!
# What the parse of an insert returns

Every text of the form `insert into T [(c1,...,cn)] values (b1,...,bm)`, with what stands between its
parts.  For each of them, when the parse returns the table, the columns and the binds: where nothing
but blanks ends the table's name and pads the items of the lists, and, without a column list, where
one byte behind `values` can be spared.
-/

namespace SqlRelay.BulkLoad

open SqlRelay.Foundation SqlRelay.Foundation.CString SqlRelay.Query SqlRelay.Bind

/-- What may stand between two parts: a white space, or a comment up to the end of its line. -/
inductive Blank where
  | space (byte : Byte) (white : isWhitespace byte = true)
  | comment (text : List Byte) (oneLine : chr '\n' ∉ text) (noNul : 0 ∉ text)

def Blank.text : Blank → List Byte
  | .space byte _ => [byte]
  | .comment text _ _ => chr '-' :: chr '-' :: (text ++ [chr '\n'])

/-- Any number of them, also none. -/
abbrev Gap := List Blank

def Gap.text (gap : Gap) : List Byte := gap.flatMap Blank.text

/-- A keyword, in any case. -/
structure Keyword (literal : String) where
  text : List Byte
  spells : text.map toLowerCase = ascii literal

/-- The name of a table or of a column, which may be quoted and then have anything in it but a NUL.
It begins and ends visibly, and not like a comment. -/
structure Word where
  first : Byte
  others : List Byte
  visible : isWhitespace first = false
  noDash : first ≠ chr '-'
  noNul : 0 ∉ first :: others
  closed : ∀ last ∈ others.getLast?, isWhitespace last = false

def Word.text (word : Word) : List Byte := word.first :: word.others

/-- A bind: a delimiter, and a name, which a positional one may be without. -/
structure BindMarker where
  delimiter : Byte
  name : List Byte
  delimits : delimiter ∈ ascii "?:@$"
  named : ∀ byte ∈ name, isBindVariableNameCharacter byte = true

def BindMarker.text (marker : BindMarker) : List Byte := marker.delimiter :: marker.name

/-- The marker with the native delimiter. -/
def BindMarker.native (native : Byte) (marker : BindMarker) : List Byte := native :: marker.name

/-- An item of a list, with what stands before and behind it. -/
structure Padded (Item : Type) where
  before : Gap
  item : Item
  behind : Gap

def Padded.text {Item : Type} (itemText : Item → List Byte) (padded : Padded Item) : List Byte :=
  padded.before.text ++ itemText padded.item ++ padded.behind.text

/-- A list in parentheses, which is not empty, and what stands behind it. -/
def listText {Item : Type} (itemText : Item → List Byte) (items : List (Padded Item))
    (rest : List Byte) : List Byte :=
  chr '(' :: Separated.write (chr ',') (chr ')') rest (items.map (Padded.text itemText))

/-- A column list, and what stands between it and `values`. -/
structure Columns where
  items : List (Padded Word)
  some_item : items ≠ []
  behind : Gap

/-- The parts of an insert text, in their order.  Where nothing need stand between two parts, the
gap may be empty. -/
structure InsertText where
  start : Gap
  insert : Keyword "insert"
  afterInsert : Gap
  into : Keyword "into"
  afterInto : Gap
  table : Word
  afterTable : Gap
  columns : Option Columns
  values : Keyword "values"
  afterValues : Gap
  binds : List (Padded BindMarker)
  some_bind : binds ≠ []
  rest : List Byte

namespace InsertText

variable (insert : InsertText)

/-- From `values` on. -/
def valuesText : List Byte :=
  insert.values.text ++
    (insert.afterValues.text ++ listText BindMarker.text insert.binds insert.rest)

/-- From the column list on. -/
def columnsText : List Byte :=
  match insert.columns with
  | some columns =>
      listText Word.text columns.items (columns.behind.text ++ insert.valuesText)
  | none => insert.valuesText

def text : List Byte :=
  insert.start.text ++ (insert.insert.text ++ (insert.afterInsert.text ++ (insert.into.text ++
    (insert.afterInto.text ++ (insert.table.text ++
      (insert.afterTable.text ++ insert.columnsText))))))

/-- The names of the columns, none when the list is absent. -/
def columnNames : List (List Byte) :=
  match insert.columns with
  | some columns => columns.items.map fun column => column.item.text
  | none => []

/-- The table, the columns and the binds, as they stand in the text, and the binds with the native
delimiter. -/
def parsed (native : Byte) : ParsedInsert where
  table := some insert.table.text
  cols := insert.columnNames
  binds := insert.binds.map fun bind => bind.item.native native

end InsertText

/-! ## Where the parse returns them -/

/-- Only spaces. -/
def Gap.Spaces (gap : Gap) : Prop := ∀ byte ∈ gap.text, byte = chr ' '

/-- It begins with a white space. -/
def Gap.StartsWhite : Gap → Prop
  | .space _ _ :: _ => True
  | .comment _ _ _ :: _ => False
  | [] => False

/-- It is one also without its first byte: a white space, or a comment that begins with three
dashes. -/
def Gap.SparesFirst : Gap → Prop
  | .space _ _ :: _ => True
  | .comment text _ _ :: _ => peek text = chr '-'
  | [] => False

/-- The byte neither ends an item nor the list. -/
abbrev InList (byte : Byte) : Prop := Separated.inside (chr ',') closesList byte = true

/-- Only spaces around the item, and nothing in it that ends an item or the list. -/
structure Padded.Plain {Item : Type} (itemText : Item → List Byte) (padded : Padded Item) :
    Prop where
  before : padded.before.Spaces
  behind : padded.behind.Spaces
  item : ∀ byte ∈ itemText padded.item, InList byte

/-- The parse tells where the parts of the text are. -/
structure InsertText.Readable (insert : InsertText) : Prop where
  table : ∀ byte ∈ insert.table.text, isWhitespace byte = false
  afterTable : insert.afterTable.StartsWhite
  columns : ∀ columns ∈ insert.columns, ∀ column ∈ columns.items, column.Plain Word.text
  afterValues : insert.columns = none → insert.afterValues.SparesFirst
  binds : ∀ bind ∈ insert.binds, bind.Plain BindMarker.text

/-! ## Gaps -/

theorem ne_of_white {byte other : Byte} (white : isWhitespace byte = true)
    (visible : isWhitespace other = false) : byte ≠ other := by
  intro same
  rw [same, visible] at white
  cases white

theorem skipFrom_line {text : List Byte} (oneLine : chr '\n' ∉ text) (noNul : 0 ∉ text)
    (rest : List Byte) :
    skipFrom true (text ++ chr '\n' :: rest) = skipFrom false rest := by
  induction text with
  | nil => simp [skipFrom, show chr '\n' ≠ 0 by decide]
  | cons byte text ih =>
      simp only [List.mem_cons, not_or] at oneLine noNul
      have inside : (byte != chr '\n') = true := bne_iff_ne.mpr (Ne.symm oneLine.1)
      rw [List.cons_append, skipFrom, if_neg (Ne.symm noNul.1), if_pos rfl, inside]
      exact ih oneLine.2 noNul.2

/-- A gap is skipped. -/
theorem skip_gap (gap : Gap) (rest : List Byte) :
    skipWhitespaceAndComments (gap.text ++ rest) = skipWhitespaceAndComments rest := by
  induction gap with
  | nil => rfl
  | cons blank gap ih =>
      rw [Gap.text, List.flatMap_cons, List.append_assoc]
      cases blank with
      | space byte white =>
          have notNul : byte ≠ 0 := ne_of_white white (by decide)
          simp only [Blank.text, List.singleton_append, skipWhitespaceAndComments]
          rw [skipFrom, if_neg notNul, if_neg (by simp), if_pos white]
          exact ih
      | comment text oneLine noNul =>
          simp only [Blank.text, List.cons_append, List.append_assoc, skipWhitespaceAndComments]
          rw [skipFrom, if_neg (by decide), if_neg (by simp), if_neg (by decide), if_pos (by simp),
            skipFrom, if_neg (by decide), if_pos rfl]
          have line := skipFrom_line oneLine noNul (Gap.text gap ++ rest)
          have dash : (chr '-' != chr '\n') = true := by decide
          rw [dash]
          exact line.trans ih

/-- What cannot be skipped. -/
theorem skip_visible {byte : Byte} {rest : List Byte} (visible : isWhitespace byte = false)
    (noComment : ¬(byte = chr '-' ∧ peek rest = chr '-')) :
    skipWhitespaceAndComments (byte :: rest) = byte :: rest := by
  rw [skipWhitespaceAndComments, skipFrom, visible, if_neg noComment]
  split
  case isTrue => rfl
  case isFalse => rw [if_neg Bool.false_ne_true, if_neg Bool.false_ne_true]

/-- What a gap is like behind its spaces: there is nothing more, or a white space and the rest of
the gap, or a comment. -/
inductive Gap.Shape : List Byte → Prop where
  | spaces {text : List Byte} (all : ∀ byte ∈ text, byte = chr ' ') : Gap.Shape text
  | white {spaces : List Byte} (all : ∀ byte ∈ spaces, byte = chr ' ') (byte : Byte)
      (different : byte ≠ chr ' ') (white : isWhitespace byte = true) (gap : Gap) :
      Gap.Shape (spaces ++ byte :: gap.text)
  | comment {spaces : List Byte} (all : ∀ byte ∈ spaces, byte = chr ' ') (rest : List Byte) :
      Gap.Shape (spaces ++ chr '-' :: chr '-' :: rest)

theorem Gap.shape (gap : Gap) : Gap.Shape gap.text := by
  induction gap with
  | nil => exact .spaces (by simp [Gap.text])
  | cons blank gap ih =>
      rw [Gap.text, List.flatMap_cons]
      cases blank with
      | space byte white =>
          by_cases isSpace : byte = chr ' '
          · have more : ∀ {spaces : List Byte}, (∀ byte ∈ spaces, byte = chr ' ') →
                ∀ other ∈ byte :: spaces, other = chr ' ' := by
              intro spaces all other listed
              cases List.mem_cons.mp listed with
              | inl here => rw [here, isSpace]
              | inr behind => exact all other behind
            generalize same : List.flatMap Blank.text gap = text
            rw [Gap.text, same] at ih
            cases ih with
            | spaces all => exact .spaces (more all)
            | white all other different white gap =>
                exact .white (more all) other different white gap
            | comment all rest => exact .comment (more all) rest
          · exact @Gap.Shape.white [] (by simp) byte isSpace white gap
      | comment text oneLine noNul =>
          simp only [Blank.text, List.cons_append]
          exact @Gap.Shape.comment [] (by simp) _

/-! ## Trimming -/

/-- What `bothTrim` takes off. -/
def isSpace (byte : Byte) : Bool := byte = chr ' '

theorem rdropWhile_spaces {text spaces : List Byte} (all : ∀ byte ∈ spaces, byte = chr ' ') :
    (text ++ spaces).rdropWhile isSpace = text.rdropWhile isSpace := by
  have reversed : ∀ byte ∈ spaces.reverse, isSpace byte = true := by
    intro byte listed
    exact decide_eq_true (all byte (List.mem_reverse.mp listed))
  rw [List.rdropWhile, List.reverse_append, List.dropWhile_append_of_pos reversed]
  rfl

/-- What is left was there, and spaces behind it. -/
theorem eq_append_of_rdropWhile {text left : List Byte} (trimmed : text.rdropWhile isSpace = left) :
    ∃ spaces, (∀ byte ∈ spaces, byte = chr ' ') ∧ text = left ++ spaces := by
  refine ⟨text.rtakeWhile isSpace, ?_, ?_⟩
  · intro byte listed
    have isBlank : isSpace byte = true := List.mem_rtakeWhile_imp listed
    exact of_decide_eq_true isBlank
  · rw [← trimmed]
    exact List.rdropWhile_append_rtakeWhile.symm

theorem bothTrim_spaces {spaces : List Byte} (all : ∀ byte ∈ spaces, byte = chr ' ') :
    Lists.bothTrim spaces = [] := by
  rw [Lists.bothTrim, List.dropWhile_eq_nil_iff.mpr]
  · rfl
  · intro byte listed
    exact decide_eq_true (all byte listed)

theorem rdropWhile_visible {byte : Byte} (different : byte ≠ chr ' ') (rest : List Byte) :
    (byte :: rest).rdropWhile isSpace = byte :: rest.rdropWhile isSpace := by
  have stays : isSpace byte = false := decide_eq_false different
  rw [List.rdropWhile, List.reverse_cons, List.dropWhile_append, List.rdropWhile]
  split
  case isTrue nothing => simp [stays, List.isEmpty_iff.mp nothing]
  case isFalse => simp

theorem bothTrim_visible {spaces : List Byte} (all : ∀ byte ∈ spaces, byte = chr ' ') {byte : Byte}
    (different : byte ≠ chr ' ') (rest : List Byte) :
    Lists.bothTrim (spaces ++ byte :: rest) = byte :: rest.rdropWhile isSpace := by
  have front : ∀ other ∈ spaces, decide (other = chr ' ') = true := by
    intro other listed
    exact decide_eq_true (all other listed)
  rw [Lists.bothTrim, List.dropWhile_append_of_pos front,
    List.dropWhile_cons_of_neg (by simpa using different)]
  exact rdropWhile_visible different rest

/-! ## Items -/

theorem not_name_of_white {byte : Byte} (white : isWhitespace byte = true) :
    isBindVariableNameCharacter byte = false := by
  simp only [isWhitespace, Bool.or_eq_true, beq_iff_eq] at white
  obtain ((((same | same) | same) | same) | same) | same := white <;> rw [same] <;> decide

theorem inList_of_name {byte : Byte} (named : isBindVariableNameCharacter byte = true) :
    InList byte := by
  have apart : ∀ other, isBindVariableNameCharacter other = false → byte ≠ other := by
    intro other different same
    rw [← same, named] at different
    cases different
  have notComma := apart (chr ',') (by decide)
  have notNul := apart 0 (by decide)
  have notClosing := apart (chr ')') (by decide)
  simp [InList, Separated.inside, closesList, notComma, notNul, notClosing]

theorem inList_of_white {byte : Byte} (white : isWhitespace byte = true) : InList byte := by
  have notComma := ne_of_white white (show isWhitespace (chr ',') = false by decide)
  have notNul := ne_of_white white (show isWhitespace 0 = false by decide)
  have notClosing := ne_of_white white (show isWhitespace (chr ')') = false by decide)
  simp [InList, Separated.inside, closesList, notComma, notNul, notClosing]

theorem inList_space {byte : Byte} (isSpace : byte = chr ' ') : InList byte := by
  rw [isSpace]
  exact inList_of_white (by decide)

theorem Padded.Plain.inside {Item : Type} {itemText : Item → List Byte} {padded : Padded Item}
    (plain : padded.Plain itemText) : ∀ byte ∈ padded.text itemText, InList byte := by
  intro byte listed
  simp only [Padded.text, List.mem_append] at listed
  cases listed with
  | inl front =>
      cases front with
      | inl before => exact inList_space (plain.before byte before)
      | inr item => exact plain.item byte item
  | inr behind => exact inList_space (plain.behind byte behind)

/-- If only spaces are left of a gap up to its first byte that ends an item, there is nothing else
in it. -/
theorem spaces_of_takeWhile {gap : Gap}
    (all : ∀ byte ∈ gap.text.takeWhile (Separated.inside (chr ',') closesList), byte = chr ' ') :
    gap.Spaces := by
  have shape := gap.shape
  have stays : ∀ {spaces : List Byte} {byte : Byte} {rest : List Byte},
      (∀ byte ∈ spaces, byte = chr ' ') → InList byte →
      byte ∈ (spaces ++ byte :: rest).takeWhile (Separated.inside (chr ',') closesList) := by
    intro spaces byte rest front inside
    rw [List.takeWhile_append_of_pos fun other listed => inList_space (front other listed),
      List.takeWhile_cons_of_pos inside]
    simp
  unfold Gap.Spaces
  generalize gap.text = text at shape all ⊢
  cases shape with
  | spaces only => exact only
  | white front byte different white behind =>
      exact absurd (all byte (stays front (inList_of_white white))) different
  | comment front rest =>
      exact absurd (all (chr '-') (stays front (by decide))) (by decide)

/-- An item behind spaces, up to the first byte that ends it. -/
theorem takeWhile_item {before rest : List Byte} {first : Byte}
    (spaces : ∀ byte ∈ before, byte = chr ' ') (inside : InList first) :
    (before ++ first :: rest).takeWhile (Separated.inside (chr ',') closesList) =
      before ++ first :: rest.takeWhile (Separated.inside (chr ',') closesList) := by
  rw [List.takeWhile_append_of_pos fun byte listed => inList_space (spaces byte listed),
    List.takeWhile_cons_of_pos inside]

/-- What is read of an item after its first byte tells that the rest of it is plain. -/
theorem plain_of_rest {others left : List Byte} {gap : Gap}
    (trimmed : ((others ++ gap.text).takeWhile
      (Separated.inside (chr ',') closesList)).rdropWhile isSpace = left)
    (same : left = others) : (∀ byte ∈ others, InList byte) ∧ gap.Spaces := by
  obtain ⟨spaces, all, split⟩ := eq_append_of_rdropWhile trimmed
  rw [same] at split
  have inside : ∀ byte ∈ others, InList byte := by
    intro byte listed
    have kept : byte ∈ (others ++ gap.text).takeWhile (Separated.inside (chr ',') closesList) := by
      rw [split]
      exact List.mem_append_left _ listed
    exact List.mem_takeWhile_imp kept
  constructor
  · exact inside
  · rw [List.takeWhile_append_of_pos inside] at split
    have rest := List.append_cancel_left split
    apply spaces_of_takeWhile
    rw [rest]
    exact all

/-- The column is read as it stands only if it is plain. -/
theorem plain_of_column {column : Padded Word}
    (read : Lists.bothTrim ((column.text Word.text).takeWhile
      (Separated.inside (chr ',') closesList)) = column.item.text) :
    column.Plain Word.text := by
  obtain ⟨before, word, behind⟩ := column
  have shape := before.shape
  simp only [Padded.text, Word.text, List.append_assoc, List.cons_append] at read
  generalize starts : before.text = text at shape read
  cases shape with
  | spaces all =>
      by_cases inside : InList word.first
      · rw [takeWhile_item all inside,
          bothTrim_visible all (Ne.symm (ne_of_white (by decide) word.visible))] at read
        have rest := plain_of_rest rfl (List.cons.inj read).2
        constructor
        · rw [Gap.Spaces, starts]
          exact all
        · exact rest.2
        · exact List.forall_mem_cons.mpr ⟨inside, rest.1⟩
      · rw [List.takeWhile_append_of_pos fun byte listed => inList_space (all byte listed),
          List.takeWhile_cons_of_neg inside, List.append_nil, bothTrim_spaces all] at read
        cases read
  | white all byte different white gap =>
      rw [List.append_assoc, List.cons_append, takeWhile_item all (inList_of_white white),
        bothTrim_visible all different] at read
      have same := (List.cons.inj read).1
      rw [same, word.visible] at white
      cases white
  | comment all rest =>
      rw [List.append_assoc, List.cons_append, takeWhile_item all (by decide),
        bothTrim_visible all (by decide)] at read
      exact absurd (List.cons.inj read).1.symm word.noDash

theorem delimiter_cases (marker : BindMarker) :
    marker.delimiter = chr '?' ∨ marker.delimiter = chr ':' ∨ marker.delimiter = chr '@' ∨
      marker.delimiter = chr '$' := by
  have four : ascii "?:@$" = [chr '?', chr ':', chr '@', chr '$'] := by decide
  have delimits := marker.delimits
  rw [four] at delimits
  simpa using delimits

/-- A property of all four delimiters. -/
theorem delimiter_all {property : Byte → Prop} (marker : BindMarker) (question : property (chr '?'))
    (colon : property (chr ':')) (atSign : property (chr '@')) (dollar : property (chr '$')) :
    property marker.delimiter := by
  obtain same | same | same | same := delimiter_cases marker <;> rw [same] <;> assumption

theorem delimiter_ne (marker : BindMarker) {other : Byte} (different : other ∉ ascii "?:@$") :
    marker.delimiter ≠ other := fun same => different (same ▸ marker.delimits)

theorem inList_delimiter (marker : BindMarker) : InList marker.delimiter :=
  delimiter_all marker (by decide) (by decide) (by decide) (by decide)

theorem delimiter_ne_space (marker : BindMarker) : marker.delimiter ≠ chr ' ' :=
  delimiter_ne marker (by decide)

/-- A name is never what is read behind a white space, of a gap that goes on and of a bind. -/
theorem not_name_of_gap (gap : Gap) (marker : BindMarker) (rest : List Byte) :
    ((gap.text ++ (marker.text ++ rest)).takeWhile
      (Separated.inside (chr ',') closesList)).rdropWhile isSpace ≠ marker.name := by
  intro read
  obtain ⟨spaces, all, split⟩ := eq_append_of_rdropWhile read
  have foreign : ∀ byte, isBindVariableNameCharacter byte = false → byte ≠ chr ' ' →
      byte ∉ marker.name ++ spaces := by
    intro byte other different listed
    cases List.mem_append.mp listed with
    | inl inName =>
        rw [marker.named byte inName] at other
        cases other
    | inr inSpaces => exact different (all byte inSpaces)
  have shape := gap.shape
  generalize gap.text = text at shape split
  cases shape with
  | spaces only =>
      have counted := congrArg (List.countP fun byte => !isSpace byte) split
      have delimits : isSpace marker.delimiter = false := decide_eq_false (delimiter_ne_space marker)
      have nothing : spaces.countP (fun byte => !isSpace byte) = 0 := by
        rw [List.countP_eq_zero]
        intro byte listed
        simp [isSpace, all byte listed]
      rw [BindMarker.text, List.cons_append, takeWhile_item only (inList_delimiter marker),
        List.takeWhile_append_of_pos fun byte listed => inList_of_name (marker.named byte listed),
        List.countP_append, List.countP_append, List.countP_cons, List.countP_append, nothing,
        delimits] at counted
      simp only [Bool.not_false, if_true] at counted
      omega
  | white front byte different white gap =>
      rw [List.append_assoc, List.cons_append, takeWhile_item front (inList_of_white white)] at split
      apply foreign byte (not_name_of_white white) different
      rw [← split]
      simp
  | comment front rest =>
      rw [List.append_assoc, List.cons_append, takeWhile_item front (by decide)] at split
      apply foreign (chr '-') (by decide) (by decide)
      rw [← split]
      simp

/-- The bind is read as it stands, but for its delimiter, only if it is plain. -/
theorem plain_of_bind {native : Byte} {bind : Padded BindMarker}
    (read : setFirst native (Lists.bothTrim ((bind.text BindMarker.text).takeWhile
      (Separated.inside (chr ',') closesList))) = bind.item.native native) :
    bind.Plain BindMarker.text := by
  obtain ⟨before, marker, behind⟩ := bind
  have shape := before.shape
  have name := (List.cons.inj read).2
  simp only [Padded.text, List.append_assoc] at name
  generalize starts : before.text = text at shape name
  cases shape with
  | spaces all =>
      rw [BindMarker.text, List.cons_append, takeWhile_item all (inList_delimiter marker),
        bothTrim_visible all (delimiter_ne_space marker), List.drop_one, List.tail_cons] at name
      have rest := plain_of_rest rfl name
      constructor
      · rw [Gap.Spaces, starts]
        exact all
      · exact rest.2
      · exact List.forall_mem_cons.mpr ⟨inList_delimiter marker, rest.1⟩
  | white all byte different white gap =>
      rw [List.append_assoc, List.cons_append, takeWhile_item all (inList_of_white white),
        bothTrim_visible all different, List.drop_one, List.tail_cons] at name
      exact absurd name (not_name_of_gap gap marker behind.text)
  | comment all rest =>
      have dash : InList (chr '-') := by decide
      rw [List.append_assoc, List.cons_append, List.cons_append, takeWhile_item all dash,
        bothTrim_visible all (by decide), List.takeWhile_cons_of_pos dash,
        rdropWhile_visible (by decide), List.drop_one, List.tail_cons] at name
      have named := marker.named (chr '-') (by rw [← name]; exact List.mem_cons_self ..)
      exact absurd named (by decide)

theorem Padded.Plain.read_column {column : Padded Word} (plain : column.Plain Word.text) :
    Lists.bothTrim (column.text Word.text) = column.item.text := by
  have visible := Ne.symm (ne_of_white (show isWhitespace (chr ' ') = true by decide)
    column.item.visible)
  rw [Padded.text, Word.text, List.append_assoc, List.cons_append,
    bothTrim_visible plain.before visible, rdropWhile_spaces plain.behind]
  congr 1
  rw [List.rdropWhile_eq_self_iff]
  intro some_other isBlank
  have last := column.item.closed _ (List.getLast?_eq_getLast_of_ne_nil some_other)
  rw [of_decide_eq_true isBlank] at last
  cases last

theorem Padded.Plain.read_bind {native : Byte} {bind : Padded BindMarker}
    (plain : bind.Plain BindMarker.text) :
    setFirst native (Lists.bothTrim (bind.text BindMarker.text)) = bind.item.native native := by
  rw [Padded.text, BindMarker.text, List.append_assoc, List.cons_append,
    bothTrim_visible plain.before (delimiter_ne_space bind.item), rdropWhile_spaces plain.behind,
    setFirst, List.drop_one, List.tail_cons, BindMarker.native]
  congr 1
  rw [List.rdropWhile_eq_self_iff]
  intro some_other isBlank
  have named := bind.item.named _ (List.getLast_mem some_other)
  rw [of_decide_eq_true isBlank] at named
  exact absurd named (by decide)

/-! ## Lists -/

/-- The columns are read as they stand if and only if they are plain. -/
theorem columns_read_iff {columns : List (Padded Word)} (some_column : columns ≠ [])
    (rest : List Byte) :
    (Separated.parts (chr ',') closesList (Separated.write (chr ',') (chr ')') rest
        (columns.map (Padded.text Word.text)))).map Lists.bothTrim =
        columns.map (fun column => column.item.text) ↔
      ∀ column ∈ columns, column.Plain Word.text := by
  rw [Separated.map_parts_iff (by decide) (by decide) rest some_column
    fun column _ read => (plain_of_column read).inside]
  constructor
  · intro good column listed
    have read := (good column listed).2
    rw [← List.takeWhile_eq_self_iff.mpr (good column listed).1] at read
    exact plain_of_column read
  · intro plain column listed
    exact ⟨(plain column listed).inside, (plain column listed).read_column⟩

/-- The binds are read with the native delimiter if and only if they are plain. -/
theorem binds_read_iff (native : Byte) {binds : List (Padded BindMarker)} (some_bind : binds ≠ [])
    (rest : List Byte) :
    (Separated.parts (chr ',') closesList (Separated.write (chr ',') (chr ')') rest
        (binds.map (Padded.text BindMarker.text)))).map
          (fun part => setFirst native (Lists.bothTrim part)) =
        binds.map (fun bind => bind.item.native native) ↔
      ∀ bind ∈ binds, bind.Plain BindMarker.text := by
  rw [Separated.map_parts_iff (by decide) (by decide) rest some_bind
    fun bind _ read => (plain_of_bind read).inside]
  constructor
  · intro good bind listed
    have read := (good bind listed).2
    rw [← List.takeWhile_eq_self_iff.mpr (good bind listed).1] at read
    exact plain_of_bind read
  · intro plain bind listed
    exact ⟨(plain bind listed).inside, (plain bind listed).read_bind⟩

/-! ## From one part to the next -/

theorem Keyword.length_text {literal : String} (keyword : Keyword literal) :
    keyword.text.length = (ascii literal).length := by
  rw [← keyword.spells, List.length_map]

theorem Keyword.letters {literal : String} (keyword : Keyword literal)
    (letters : ∀ byte ∈ ascii literal, isAlphanumeric byte = true) :
    ∀ byte ∈ keyword.text, isAlphanumeric byte = true := by
  intro byte listed
  have lower : toLowerCase byte ∈ ascii literal := by
    rw [← keyword.spells]
    exact List.mem_map_of_mem listed
  exact isAlphanumeric_of_toLowerCase (letters _ lower)

theorem ne_of_letter {byte other : Byte} (letter : isAlphanumeric byte = true)
    (notLetter : isAlphanumeric other = false) : byte ≠ other := by
  intro same
  rw [same, notLetter] at letter
  cases letter

theorem visible_of_letter {byte : Byte} (letter : isAlphanumeric byte = true) :
    isWhitespace byte = false := by
  cases white : isWhitespace byte with
  | false => rfl
  | true =>
      have other := not_name_of_white white
      simp [isBindVariableNameCharacter, letter] at other

/-- A part that stands behind a gap is found. -/
theorem beyondBlanks_gap (gap : Gap) {byte : Byte} {rest : List Byte} (notNul : byte ≠ 0)
    (visible : isWhitespace byte = false)
    (noComment : ¬(byte = chr '-' ∧ peek rest = chr '-')) :
    beyondBlanks (gap.text ++ byte :: rest) = some (byte :: rest) := by
  rw [beyondBlanks, skip_gap, skip_visible visible noComment]
  exact if_neg notNul

theorem beyondBlanks_letter (gap : Gap) {text rest : List Byte} (nonempty : text ≠ [])
    (letters : ∀ byte ∈ text, isAlphanumeric byte = true) :
    beyondBlanks (gap.text ++ (text ++ rest)) = some (text ++ rest) := by
  cases text with
  | nil => exact absurd rfl nonempty
  | cons byte text =>
      have letter := letters byte (List.mem_cons_self ..)
      apply beyondBlanks_gap gap (ne_of_letter letter (by decide)) (visible_of_letter letter)
      intro comment
      exact ne_of_letter letter (by decide) comment.1

theorem beyondKeyword_append {text rest : List Byte} {size : Nat} (length : text.length = size)
    (nonempty : rest ≠ []) : beyondKeyword size (text ++ rest) = beyondBlanks rest := by
  have more : ¬(text ++ rest).length ≤ size := by
    have some_rest := List.length_pos_iff.mpr nonempty
    rw [List.length_append]
    omega
  rw [beyondKeyword, if_neg more, ← length, List.drop_left]

theorem peek_gap_ne (gap : Gap) {rest : List Byte} (notNul : peek rest ≠ 0) :
    peek (gap.text ++ rest) ≠ 0 := by
  cases gap with
  | nil => exact notNul
  | cons blank gap =>
      cases blank with
      | space byte white => exact ne_of_white white (by decide)
      | comment text oneLine noNul => exact (show chr '-' ≠ 0 by decide)

namespace InsertText

variable (insert : InsertText)

theorem values_letters : ∀ byte ∈ insert.values.text, isAlphanumeric byte = true :=
  insert.values.letters (by decide +kernel)

theorem values_cons : ∃ first others, insert.values.text = first :: others ∧
    others.length = 5 ∧ isAlphanumeric first = true ∧
      ∀ byte ∈ others, isAlphanumeric byte = true := by
  have length : insert.values.text.length = 6 := insert.values.length_text
  have letters := insert.values_letters
  generalize insert.values.text = text at length letters
  cases text with
  | nil => cases length
  | cons first others =>
      exact ⟨first, others, rfl, Nat.succ.inj length, letters first (List.mem_cons_self ..),
        fun byte listed => letters byte (List.mem_cons_of_mem _ listed)⟩

/-- What follows the table begins with a visible byte. -/
theorem columnsText_cons : ∃ first others, insert.columnsText = first :: others ∧ first ≠ 0 ∧
    isWhitespace first = false ∧ first ≠ chr '-' := by
  unfold columnsText
  split
  · exact ⟨chr '(', _, rfl, by decide, by decide, by decide⟩
  · obtain ⟨first, others, values, _, letter, _⟩ := insert.values_cons
    rw [valuesText, values, List.cons_append]
    exact ⟨first, _, rfl, ne_of_letter letter (by decide), visible_of_letter letter,
      ne_of_letter letter (by decide)⟩

/-- The parse comes to the table. -/
theorem reaches_table : ((beyondBlanks insert.text).bind (beyondKeyword 6)).bind (beyondKeyword 4) =
    some (insert.table.text ++ (insert.afterTable.text ++ insert.columnsText)) := by
  have insert_length : insert.insert.text.length = 6 := insert.insert.length_text
  have into_length : insert.into.text.length = 4 := insert.into.length_text
  have insert_some : insert.insert.text ≠ [] := List.ne_nil_of_length_eq_add_one insert_length
  have into_some : insert.into.text ≠ [] := List.ne_nil_of_length_eq_add_one into_length
  rw [text, beyondBlanks_letter insert.start insert_some (insert.insert.letters (by decide +kernel)),
    Option.bind_some, beyondKeyword_append insert_length (by simp [into_some]),
    beyondBlanks_letter insert.afterInsert into_some (insert.into.letters (by decide +kernel)),
    Option.bind_some, beyondKeyword_append into_length (by simp [Word.text]), Word.text,
    List.cons_append]
  have notNul : insert.table.first ≠ 0 := fun same =>
    insert.table.noNul (same ▸ List.mem_cons_self ..)
  apply beyondBlanks_gap insert.afterInto notNul insert.table.visible
  intro comment
  exact insert.table.noDash comment.1

/-- The parse comes to what follows the table. -/
theorem reaches_columns (afterTable : Gap) :
    beyondBlanks (afterTable.text ++ insert.columnsText) = some insert.columnsText := by
  obtain ⟨first, others, columns, notNul, visible, notDash⟩ := insert.columnsText_cons
  rw [columns]
  apply beyondBlanks_gap afterTable notNul visible
  intro comment
  exact notDash comment.1

/-- The list of binds. -/
def bindsText : List Byte := listText BindMarker.text insert.binds insert.rest

theorem beyondBlanks_bindsText (gap : Gap) :
    beyondBlanks (gap.text ++ insert.bindsText) = some insert.bindsText := by
  rw [bindsText, listText]
  apply beyondBlanks_gap gap (by decide) (by decide)
  intro comment
  exact absurd comment.1 (by decide)

/-- The first bind stands behind the parenthesis. -/
theorem bindsText_cons : ∃ (before : Gap) (marker : BindMarker) (behind : List Byte),
    insert.bindsText = chr '(' :: (before.text ++ marker.delimiter :: behind) := by
  rw [bindsText, listText]
  have some_bind := insert.some_bind
  generalize insert.binds = binds at some_bind
  cases binds with
  | nil => exact absurd rfl some_bind
  | cons bind others =>
      obtain ⟨behind, written, _⟩ := Separated.write_cons (chr ',') (chr ')') insert.rest
        (bind.text BindMarker.text) (others.map (Padded.text BindMarker.text))
      refine ⟨bind.before, bind.item, bind.item.name ++ (bind.behind.text ++ behind), ?_⟩
      rw [List.map_cons, written, Padded.text, BindMarker.text]
      simp

/-- Behind a column list, one byte is stepped over to some purpose. -/
theorem parseValues_closing (native : Byte) (behind : Gap) :
    parseValues native (chr ')' :: (behind.text ++ insert.valuesText)) =
      parseBinds native insert.bindsText := by
  obtain ⟨first, others, values, length, letter, letters⟩ := insert.values_cons
  have values_length : insert.values.text.length = 6 := insert.values.length_text
  have notNul : peek insert.valuesText ≠ 0 := by
    rw [valuesText, values]
    exact ne_of_letter letter (by decide)
  have nonempty : insert.values.text ≠ [] := List.ne_nil_of_length_eq_add_one values_length
  have found : (beyondBlanks (behind.text ++ insert.valuesText)).bind (beyondKeyword 6) =
      some insert.bindsText := by
    rw [valuesText, beyondBlanks_letter behind nonempty insert.values_letters, Option.bind_some,
      beyondKeyword_append values_length (by simp [listText]), ← bindsText,
      beyondBlanks_bindsText]
  simp only [parseValues, List.drop_one, List.tail_cons]
  rw [if_neg (peek_gap_ne behind notNul), found, Option.elim_some]

/-- Without one, the first letter of `values` is stepped over for it, and then one byte too many. -/
theorem parseValues_bare (native : Byte) :
    parseValues native insert.valuesText =
      (beyondBlanks ((insert.afterValues.text ++ insert.bindsText).drop 1)).elim []
        (parseBinds native) := by
  obtain ⟨first, others, values, length, letter, letters⟩ := insert.values_cons
  have nonempty : others ≠ [] := List.ne_nil_of_length_eq_add_one length
  have notNul : peek (others ++ (insert.afterValues.text ++ insert.bindsText)) ≠ 0 := by
    cases others with
    | nil => exact absurd rfl nonempty
    | cons second others => exact ne_of_letter (letters second (List.mem_cons_self ..)) (by decide)
  have found : (beyondBlanks (others ++ (insert.afterValues.text ++ insert.bindsText))).bind
      (beyondKeyword 6) =
        beyondBlanks ((insert.afterValues.text ++ insert.bindsText).drop 1) := by
    have letters_first := @beyondBlanks_letter [] others
      (insert.afterValues.text ++ insert.bindsText) nonempty letters
    rw [Gap.text, List.flatMap_nil, List.nil_append] at letters_first
    have more : ¬(others ++ (insert.afterValues.text ++ insert.bindsText)).length ≤ 6 := by
      obtain ⟨before, marker, behind, binds⟩ := insert.bindsText_cons
      rw [binds]
      simp only [List.length_append, List.length_cons, length]
      omega
    have dropped : (others ++ (insert.afterValues.text ++ insert.bindsText)).drop 6 =
        (insert.afterValues.text ++ insert.bindsText).drop 1 := by
      rw [show 6 = others.length + 1 by omega, List.drop_append, List.drop_eq_nil_of_le (by omega)]
      simp
    rw [letters_first, Option.bind_some, beyondKeyword, if_neg more, dropped]
  simp only [parseValues]
  rw [valuesText, ← bindsText, values, List.cons_append, List.drop_one, List.tail_cons,
    if_neg notNul, found]

theorem parseBinds_other (native : Byte) {ptr : List Byte} (other : peek ptr ≠ chr '(') :
    parseBinds native ptr = [] := if_neg other

theorem parseValues_spares (native : Byte) (spares : insert.afterValues.SparesFirst) :
    parseValues native insert.valuesText = parseBinds native insert.bindsText := by
  rw [parseValues_bare]
  generalize insert.afterValues = gap at spares
  cases gap with
  | nil => exact absurd spares id
  | cons blank gap =>
      cases blank with
      | space byte white =>
          have found := insert.beyondBlanks_bindsText gap
          have dropped : (Gap.text (.space byte white :: gap) ++ insert.bindsText).drop 1 =
              Gap.text gap ++ insert.bindsText := rfl
          rw [dropped, found]
          rfl
      | comment text oneLine noNul =>
          cases text with
          | nil => exact absurd spares (show ¬peek [] = chr '-' by decide)
          | cons dash text =>
              have isDash : dash = chr '-' := spares
              subst isDash
              have lineHere : chr '\n' ∉ text := fun listed => oneLine (List.mem_cons_of_mem _ listed)
              have nulHere : 0 ∉ text := fun listed => noNul (List.mem_cons_of_mem _ listed)
              have found := insert.beyondBlanks_bindsText (.comment text lineHere nulHere :: gap)
              have dropped : (Gap.text (.comment (chr '-' :: text) oneLine noNul :: gap) ++
                  insert.bindsText).drop 1 =
                  Gap.text (.comment text lineHere nulHere :: gap) ++ insert.bindsText := rfl
              rw [dropped, found]
              rfl

/-- Where the byte behind `values` cannot be spared, no binds are found. -/
theorem parseValues_eats (native : Byte) (eats : ¬insert.afterValues.SparesFirst) :
    parseValues native insert.valuesText = [] := by
  rw [parseValues_bare]
  generalize insert.afterValues = gap at eats
  cases gap with
  | nil =>
      obtain ⟨before, marker, behind, binds⟩ := insert.bindsText_cons
      have found : beyondBlanks (before.text ++ marker.delimiter :: behind) =
          some (marker.delimiter :: behind) := by
        apply beyondBlanks_gap before (delimiter_ne marker (by decide))
        · exact @delimiter_all (fun byte => isWhitespace byte = false) marker (by decide) (by decide)
            (by decide) (by decide)
        · intro comment
          exact delimiter_ne marker (by decide) comment.1
      rw [binds, Gap.text, List.flatMap_nil, List.nil_append, List.drop_one, List.tail_cons, found]
      exact parseBinds_other native (delimiter_ne marker (by decide))
  | cons blank gap =>
      cases blank with
      | space byte white => exact absurd trivial eats
      | comment text oneLine noNul =>
          have single : peek (text ++ chr '\n' :: (Gap.text gap ++ insert.bindsText)) ≠ chr '-' := by
            cases text with
            | nil => exact (show chr '\n' ≠ chr '-' by decide)
            | cons byte text => exact eats
          have dropped : (Gap.text (.comment text oneLine noNul :: gap) ++ insert.bindsText).drop 1 =
              chr '-' :: (text ++ chr '\n' :: (Gap.text gap ++ insert.bindsText)) := by
            simp [Gap.text, Blank.text]
          have found := @beyondBlanks_gap [] (chr '-') _ (by decide) (by decide)
            fun comment => single comment.2
          rw [Gap.text, List.flatMap_nil, List.nil_append] at found
          rw [dropped, found]
          exact parseBinds_other native (show chr '-' ≠ chr '(' by decide)

end InsertText

/-! ## The whole parse -/

/-- A list that is read at all is read up to what closes it. -/
theorem parenthesized_cases (text : List Byte) :
    parenthesized (chr '(' :: text) = none ∨ ∃ after, parenthesized (chr '(' :: text) =
      some (text.takeWhile fun byte => !closesList byte, after) := by
  simp only [parenthesized, List.drop_one, List.tail_cons]
  split
  · exact .inl rfl
  · split
    · exact .inl rfl
    · exact .inr ⟨_, rfl⟩

/-- A list of plain items is read up to its end. -/
theorem parenthesized_list {Item : Type} {itemText : Item → List Byte} {items : List (Padded Item)}
    {rest : List Byte}
    (notNul : peek (Separated.write (chr ',') (chr ')') rest (items.map (Padded.text itemText))) ≠ 0)
    (plain : ∀ item ∈ items, item.Plain itemText) :
    parenthesized (listText itemText items rest) =
      some ((Separated.write (chr ',') (chr ')') rest
        (items.map (Padded.text itemText))).takeWhile fun byte => !closesList byte,
        chr ')' :: rest) := by
  have whole : ∀ item ∈ items.map (Padded.text itemText), ∀ byte ∈ item, InList byte := by
    intro item listed
    obtain ⟨padded, among, same⟩ := List.mem_map.mp listed
    rw [← same]
    exact (plain padded among).inside
  have closed : (Separated.write (chr ',') (chr ')') rest
      (items.map (Padded.text itemText))).dropWhile (fun byte => !closesList byte) =
        chr ')' :: rest :=
    Separated.dropWhile_write (by decide) (by decide) rest whole
  simp only [parenthesized, listText, List.drop_one, List.tail_cons]
  rw [if_neg notNul, closed]
  exact if_neg (show chr ')' ≠ 0 by decide)

theorem peek_write_ne {Item : Type} {itemText : Item → List Byte} {items : List (Padded Item)}
    {rest : List Byte} (notNul : ∀ item rest, peek (itemText item ++ rest) ≠ 0) :
    peek (Separated.write (chr ',') (chr ')') rest (items.map (Padded.text itemText))) ≠ 0 := by
  cases items with
  | nil => exact (show chr ')' ≠ 0 by decide)
  | cons item others =>
      obtain ⟨behind, written, _⟩ := Separated.write_cons (chr ',') (chr ')') rest
        (item.text itemText) (others.map (Padded.text itemText))
      rw [List.map_cons, written, Padded.text, List.append_assoc, List.append_assoc]
      exact peek_gap_ne item.before (notNul item.item _)

theorem Word.peek_ne (word : Word) (rest : List Byte) : peek (word.text ++ rest) ≠ 0 :=
  fun same => word.noNul (same ▸ List.mem_cons_self ..)

theorem BindMarker.peek_ne (marker : BindMarker) (rest : List Byte) :
    peek (marker.text ++ rest) ≠ 0 := delimiter_ne marker (by decide)

namespace InsertText

variable (insert : InsertText)

/-- The binds are found at their list if and only if they are plain. -/
theorem parseBinds_iff (native : Byte) :
    parseBinds native insert.bindsText =
        insert.binds.map (fun bind => bind.item.native native) ↔
      ∀ bind ∈ insert.binds, bind.Plain BindMarker.text := by
  have reads := binds_read_iff native insert.some_bind insert.rest
  rw [parseBinds, if_pos (show peek insert.bindsText = chr '(' from rfl)]
  constructor
  · intro same
    cases parenthesized_cases (Separated.write (chr ',') (chr ')') insert.rest
        (insert.binds.map (Padded.text BindMarker.text))) with
    | inl nothing =>
        rw [bindsText, listText, nothing] at same
        exact absurd (List.map_eq_nil_iff.mp same.symm) insert.some_bind
    | inr found =>
        obtain ⟨after, found⟩ := found
        rw [bindsText, listText, found] at same
        exact reads.mp same
  · intro plain
    rw [bindsText, parenthesized_list (peek_write_ne BindMarker.peek_ne) plain]
    exact reads.mpr plain

/-- The name of the table is read if and only if it has no white space in it and one behind it. -/
theorem table_iff :
    ((insert.table.text ++ (insert.afterTable.text ++ insert.columnsText)).takeWhile
        fun byte => !(byte == 0 || isWhitespace byte)) = insert.table.text ↔
      (∀ byte ∈ insert.table.text, isWhitespace byte = false) ∧ insert.afterTable.StartsWhite := by
  obtain ⟨first, others, columns, notNul, visible, _⟩ := insert.columnsText_cons
  constructor
  · intro same
    have inName : ∀ byte ∈ insert.table.text, (!(byte == 0 || isWhitespace byte)) = true := by
      intro byte listed
      rw [← same] at listed
      exact @List.mem_takeWhile_imp _ (fun byte => !(byte == 0 || isWhitespace byte)) _ _ listed
    rw [List.takeWhile_append_of_pos inName] at same
    have ends := List.append_cancel_left (same.trans (List.append_nil _).symm)
    constructor
    · intro byte listed
      have here := inName byte listed
      simp only [Bool.not_eq_true', Bool.or_eq_false_iff] at here
      exact here.2
    · generalize insert.afterTable = gap at ends
      cases gap with
      | nil => simp [Gap.text, columns, notNul, visible] at ends
      | cons blank gap =>
          cases blank with
          | space byte white => trivial
          | comment text oneLine noNul =>
              rw [Gap.text, List.flatMap_cons, Blank.text, List.cons_append, List.cons_append,
                List.takeWhile_cons_of_pos (by decide)] at ends
              cases ends
  · intro good
    have inName : ∀ byte ∈ insert.table.text, (!(byte == 0 || isWhitespace byte)) = true := by
      intro byte listed
      have notNul : byte ≠ 0 := fun same => insert.table.noNul (same ▸ listed)
      simp [notNul, good.1 byte listed]
    have ends : (insert.afterTable.text ++ insert.columnsText).takeWhile
        (fun byte => !(byte == 0 || isWhitespace byte)) = [] := by
      have starts := good.2
      generalize insert.afterTable = gap at starts
      cases gap with
      | nil => exact absurd starts id
      | cons blank gap =>
          cases blank with
          | space byte white =>
              rw [Gap.text, List.flatMap_cons, Blank.text, List.singleton_append, List.cons_append,
                List.takeWhile_cons_of_neg (by simp [white])]
          | comment text oneLine noNul => exact absurd starts id
    rw [List.takeWhile_append_of_pos inName, ends, List.append_nil]

/-- Once the table is read, the rest depends on the lists alone. -/
theorem parse_eq (native : Byte)
    (good : (∀ byte ∈ insert.table.text, isWhitespace byte = false) ∧
      insert.afterTable.StartsWhite) :
    bulkLoadParseInsert native insert.text =
      parseLists native insert.table.text insert.columnsText := by
  have table := insert.table_iff.mpr good
  have rest : ((insert.table.text ++ (insert.afterTable.text ++ insert.columnsText)).dropWhile
      fun byte => !(byte == 0 || isWhitespace byte)) =
        insert.afterTable.text ++ insert.columnsText := by
    have split := @List.takeWhile_append_dropWhile _
      (fun byte => !(byte == 0 || isWhitespace byte))
      (insert.table.text ++ (insert.afterTable.text ++ insert.columnsText))
    rw [table] at split
    exact List.append_cancel_left split
  have notNul : peek (insert.afterTable.text ++ insert.columnsText) ≠ 0 := by
    obtain ⟨first, others, columns, notNul, _⟩ := insert.columnsText_cons
    exact peek_gap_ne insert.afterTable (by rw [columns]; exact notNul)
  rw [bulkLoadParseInsert, insert.reaches_table]
  simp only [table, rest]
  rw [if_neg notNul, reaches_columns]

/-- The table that is returned is the table of the text. -/
theorem table_of_parsed {native : Byte}
    (same : bulkLoadParseInsert native insert.text = insert.parsed native) :
    (∀ byte ∈ insert.table.text, isWhitespace byte = false) ∧ insert.afterTable.StartsWhite := by
  rw [← table_iff]
  have table := congrArg ParsedInsert.table same
  rw [bulkLoadParseInsert, insert.reaches_table] at table
  simp only at table
  split at table
  · cases table
  · split at table
    · exact Option.some.inj table
    · rw [parseLists] at table
      split at table
      · exact Option.some.inj table
      · exact Option.some.inj table

/-- With a column list, what is in the lists decides. -/
theorem parseLists_columns {columns : Columns} (there : insert.columns = some columns)
    (native : Byte) :
    parseLists native insert.table.text insert.columnsText = insert.parsed native ↔
      (∀ column ∈ columns.items, column.Plain Word.text) ∧
        ∀ bind ∈ insert.binds, bind.Plain BindMarker.text := by
  have text : insert.columnsText = chr '(' :: Separated.write (chr ',') (chr ')')
      (columns.behind.text ++ insert.valuesText) (columns.items.map (Padded.text Word.text)) := by
    rw [columnsText, there]
    rfl
  have names : insert.columnNames = columns.items.map fun column => column.item.text := by
    rw [columnNames, there]
  have reads := columns_read_iff columns.some_item (columns.behind.text ++ insert.valuesText)
  have whole : (∀ column ∈ columns.items, column.Plain Word.text) →
      parseLists native insert.table.text insert.columnsText =
        ⟨some insert.table.text, insert.columnNames, parseBinds native insert.bindsText⟩ := by
    intro plain
    have list := @parenthesized_list _ Word.text columns.items
      (columns.behind.text ++ insert.valuesText) (peek_write_ne Word.peek_ne) plain
    rw [listText] at list
    have parsed := reads.mpr plain
    rw [Separated.parts] at parsed
    rw [parseLists, parseColumns, text, if_pos (peek_cons ..), list, Option.map_some]
    simp only [splitList]
    rw [parsed, names, parseValues_closing]
  constructor
  · intro same
    have plain : ∀ column ∈ columns.items, column.Plain Word.text := by
      have cols := congrArg ParsedInsert.cols same
      rw [parsed, names, parseLists, parseColumns, text, if_pos (peek_cons ..)] at cols
      cases parenthesized_cases (Separated.write (chr ',') (chr ')')
          (columns.behind.text ++ insert.valuesText)
          (columns.items.map (Padded.text Word.text))) with
      | inl nothing =>
          rw [nothing] at cols
          exact absurd (List.map_eq_nil_iff.mp cols.symm) columns.some_item
      | inr found =>
          obtain ⟨after, found⟩ := found
          rw [found] at cols
          exact reads.mp cols
    have binds := congrArg ParsedInsert.binds same
    rw [whole plain] at binds
    exact ⟨plain, (insert.parseBinds_iff native).mp binds⟩
  · intro plain
    rw [whole plain.1, (insert.parseBinds_iff native).mpr plain.2, parsed]

/-- Without one, also the byte behind `values` does. -/
theorem parseLists_bare (absent : insert.columns = none) (native : Byte) :
    parseLists native insert.table.text insert.columnsText = insert.parsed native ↔
      insert.afterValues.SparesFirst ∧ ∀ bind ∈ insert.binds, bind.Plain BindMarker.text := by
  obtain ⟨first, others, values, _, letter, _⟩ := insert.values_cons
  have text : insert.columnsText = insert.valuesText := by rw [columnsText, absent]
  have names : insert.columnNames = [] := by rw [columnNames, absent]
  have noList : peek insert.valuesText ≠ chr '(' := by
    rw [valuesText, values]
    exact ne_of_letter letter (by decide)
  have lists : parseLists native insert.table.text insert.columnsText =
      ⟨some insert.table.text, [], parseValues native insert.valuesText⟩ := by
    rw [parseLists, parseColumns, text, if_neg noList]
  rw [lists, parsed, names]
  constructor
  · intro same
    have binds := congrArg ParsedInsert.binds same
    by_cases spares : insert.afterValues.SparesFirst
    · rw [insert.parseValues_spares native spares] at binds
      exact ⟨spares, (insert.parseBinds_iff native).mp binds⟩
    · rw [insert.parseValues_eats native spares] at binds
      exact absurd (List.map_eq_nil_iff.mp binds.symm) insert.some_bind
  · intro good
    rw [insert.parseValues_spares native good.1, (insert.parseBinds_iff native).mpr good.2]

/-- The parse returns the table, the columns and the binds of a text if and only if the text is
readable. -/
theorem parse_iff (native : Byte) :
    bulkLoadParseInsert native insert.text = insert.parsed native ↔ insert.Readable := by
  constructor
  · intro same
    have table := insert.table_of_parsed same
    rw [insert.parse_eq native table] at same
    cases there : insert.columns with
    | some columns =>
        have plain := (insert.parseLists_columns there native).mp same
        refine ⟨table.1, table.2, ?_, ?_, plain.2⟩
        · intro other same
          rw [there] at same
          exact Option.some.inj same ▸ plain.1
        · intro absent
          rw [there] at absent
          cases absent
    | none =>
        have good := (insert.parseLists_bare there native).mp same
        refine ⟨table.1, table.2, ?_, fun _ => good.1, good.2⟩
        intro other same
        rw [there] at same
        cases same
  · intro readable
    rw [insert.parse_eq native ⟨readable.table, readable.afterTable⟩]
    cases there : insert.columns with
    | some columns =>
        exact (insert.parseLists_columns there native).mpr
          ⟨readable.columns columns there, readable.binds⟩
    | none =>
        exact (insert.parseLists_bare there native).mpr
          ⟨readable.afterValues there, readable.binds⟩

end InsertText

/-- No blank before the parenthesis of the column list, as many clients write it. -/
def unblanked : InsertText where
  start := []
  insert := ⟨ascii "insert", by decide⟩
  afterInsert := [.space (chr ' ') (by decide)]
  into := ⟨ascii "into", by decide⟩
  afterInto := [.space (chr ' ') (by decide)]
  table := ⟨chr 't', [], by decide, by decide, by decide, by simp⟩
  afterTable := []
  columns := some ⟨[⟨[], ⟨chr 'a', [], by decide, by decide, by decide, by simp⟩, []⟩], by simp,
    [.space (chr ' ') (by decide)]⟩
  values := ⟨ascii "values", by decide⟩
  afterValues := [.space (chr ' ') (by decide)]
  binds := [⟨[], ⟨chr ':', ascii "a", by decide +kernel, by decide +kernel⟩, []⟩]
  some_bind := by simp
  rest := []

/-- The parenthesis and the column are taken for a part of the table's name. -/
theorem not_parsed_unblanked :
    unblanked.text = ascii "insert into t(a) values (:a)" ∧
      bulkLoadParseInsert (chr '?') unblanked.text ≠ unblanked.parsed (chr '?') := by
  constructor
  · decide
  · decide

end SqlRelay.BulkLoad
