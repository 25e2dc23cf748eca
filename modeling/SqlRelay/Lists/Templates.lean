import SqlRelay.Foundation.QuotedText
import SqlRelay.Lists.Parameters

/-!
# List query templates

A driver answers a list command with a query that it puts together from text of its own and from the
names that it is given.  Which text, and where the names go, is up to the driver.
-/

namespace SqlRelay.Lists

open SqlRelay.Foundation SqlRelay.Foundation.QuotedLiteral SqlRelay.Foundation.QuotedText

inductive Field where
  | catalog | schema | object | column
  deriving DecidableEq, Repr

def Names.get {Name : Type} (names : Names Name) : Field → Option Name
  | .catalog => names.catalog
  | .schema => names.schema
  | .object => names.object
  | .column => names.column

/-- What a driver appends to the query. -/
inductive Part where
  | text (bytes : List Byte)
  | name (field : Field)
  deriving DecidableEq, Repr

/-- Appending a name that is `NULL` appends nothing. -/
def Part.bytes (names : Names (List Byte)) : Part → List Byte
  | .text bytes => bytes
  | .name field => (names.get field).getD []

/-- The part together with what is to be read there. -/
def Part.piece (names : Names Inserted) : Part → Piece
  | .text bytes => .text bytes
  | .name field =>
      match names.get field with
      | some inserted => .slot inserted.value inserted.written
      | none => .slot [] []

theorem Part.piece_bytes (names : Names Inserted) (part : Part) :
    (part.piece names).bytes = part.bytes (names.map Inserted.written) := by
  cases part with
  | text bytes => rfl
  | name field =>
      have found : (names.map Inserted.written).get field =
          (names.get field).map Inserted.written := by
        cases field <;> rfl
      simp only [Part.piece, Part.bytes, found]
      cases names.get field <;> rfl

theorem Part.piece_blank (names : Names Inserted) (part : Part) :
    (part.piece names).blank = part.piece .empty := by
  cases part with
  | text bytes => rfl
  | name field =>
      have nothing : (Names.empty : Names Inserted).get field = Option.none := by
        cases field <;> rfl
      simp only [Part.piece, nothing]
      cases names.get field <;> rfl

/-! ### Balanced text -/

/-- A text without backslashes that leads a reader from one place to another, under either quoting
rule. -/
def Leads (start stop : Place) (bytes : List Byte) : Prop :=
  backslash ∉ bytes ∧ ∀ escapes, (scan escapes start bytes).2 = stop

instance (start stop : Place) (bytes : List Byte) : Decidable (Leads start stop bytes) :=
  inferInstanceAs (Decidable (_ ∧ _))

/-- The characters of a string decide what its text does. -/
theorem Leads.ascii {start stop : Place} {characters : List Char}
    (leads : Leads start stop (characters.map Char.toUInt8)) :
    Leads start stop (Foundation.ascii (String.ofList characters)) := by
  rw [Foundation.ascii, String.toList_ofList]
  exact leads

/-- A text that is appended string by string. -/
def lines (strings : List String) : List Byte := strings.flatMap ascii

theorem Leads.append {start middle stop : Place} {first second : List Byte}
    (leads : Leads start middle first) (others : Leads middle stop second) :
    Leads start stop (first ++ second) := by
  constructor
  · simp only [List.mem_append, not_or]
    exact ⟨leads.1, others.1⟩
  · intro escapes
    rw [scan_append, leads.2 escapes]
    exact others.2 escapes

theorem Leads.nil (place : Place) : Leads place place (lines []) := by
  constructor
  · exact List.not_mem_nil
  · intro escapes
    rfl

theorem Leads.cons {place : Place} {string : String} {strings : List String}
    (leads : Leads place place (Foundation.ascii string))
    (others : Leads place place (lines strings)) :
    Leads place place (lines (string :: strings)) :=
  Leads.append leads others

/-- Parts whose text has no backslash and that leave no literal open. -/
structure Balanced (parts : List Part) : Prop where
  plain : ∀ bytes, .text bytes ∈ parts → backslash ∉ bytes
  closed : ∀ escapes, (meant escapes .outside (parts.map (Part.piece .empty))).2 = .outside

namespace Balanced

theorem nil : Balanced [] where
  plain _ inside := absurd inside List.not_mem_nil
  closed _ := rfl

theorem text {bytes : List Byte} (leads : Leads .outside .outside bytes) :
    Balanced [.text bytes] where
  plain other inside := by
    simp only [List.mem_singleton, Part.text.injEq] at inside
    rw [inside]
    exact leads.1
  closed escapes := leads.2 escapes

/-- A name between a text that opens a literal and one that closes it. -/
theorem quoted {before after : List Byte} (opens : Leads .outside (.inside .nothing) before)
    (closes : Leads (.inside .nothing) .outside after) (field : Field) :
    Balanced [.text before, .name field, .text after] where
  plain other inside := by
    simp only [List.mem_cons, Part.text.injEq, reduceCtorEq, List.not_mem_nil, or_false,
      false_or] at inside
    cases inside with
    | inl same =>
        rw [same]
        exact opens.1
    | inr same =>
        rw [same]
        exact closes.1
  closed escapes := by
    have nothing : (Names.empty : Names Inserted).get field = Option.none := by
      cases field <;> rfl
    simp only [List.map_cons, List.map_nil, Part.piece, nothing, meant, opens.2 escapes]
    exact closes.2 escapes

theorem append {first second : List Part} (balanced : Balanced first) (others : Balanced second) :
    Balanced (first ++ second) where
  plain bytes inside := by
    cases List.mem_append.mp inside with
    | inl inside => exact balanced.plain bytes inside
    | inr inside => exact others.plain bytes inside
  closed escapes := by
    rw [List.map_append, meant_append, balanced.closed]
    exact others.closed escapes

theorem ite {condition : Prop} [Decidable condition] {first second : List Part}
    (balanced : Balanced first) (others : Balanced second) :
    Balanced (if condition then first else second) := by
  split
  · exact balanced
  · exact others

end Balanced

/-- Parts that put every name in a literal. -/
def PutsInLiterals (escapes : Bool) (parts : List Part) : Prop :=
  InLiterals escapes .outside (parts.map (Part.piece .empty))

/-- A driver's template for one list query. -/
structure Template where
  parts : Names (List Byte) → List Part
  balanced : ∀ names, Balanced (parts names)

/-! ### Templates of the drivers -/

/-- `charstring::isNullOrEmpty`. -/
def isNullOrEmpty (name : Option (List Byte)) : Bool := name.getD [] = []

/-- A filter: what to compare with the name, and the ends of the literal that the name goes into. -/
structure Filter where
  before : List Byte
  field : Field
  after : List Byte
  opens : Leads .outside (.inside .nothing) before
  closes : Leads (.inside .nothing) .outside after

def Filter.parts (filter : Filter) : List Part :=
  [.text filter.before, .name filter.field, .text filter.after]

theorem Filter.balanced (filter : Filter) : Balanced filter.parts :=
  Balanced.quoted filter.opens filter.closes filter.field

theorem closesLiteral : Leads (.inside .nothing) .outside (ascii "' ") :=
  Leads.ascii (by decide +kernel)

def whereClause : List Part := [.text (ascii "where ")]

def andClause : List Part := [.text (ascii "\tand ")]

theorem whereClause_balanced : Balanced whereClause :=
  Balanced.text (Leads.ascii (by decide +kernel))

theorem andClause_balanced : Balanced andClause :=
  Balanced.text (Leads.ascii (by decide +kernel))

/-- The filters whose names are given, the first after `where` and the others after `and`. -/
def filterBy (names : Names (List Byte)) : Bool → List Filter → List Part
  | _, [] => []
  | first, filter :: filters =>
      if isNullOrEmpty (names.get filter.field) = true then filterBy names first filters
      else (if first = true then whereClause else andClause) ++ filter.parts ++
        filterBy names false filters

theorem filterBy_balanced (names : Names (List Byte)) (first : Bool) (filters : List Filter) :
    Balanced (filterBy names first filters) := by
  induction filters generalizing first with
  | nil => exact Balanced.nil
  | cons filter filters ih =>
      apply Balanced.ite
      · exact ih first
      · apply Balanced.append
        · apply Balanced.append
          · exact Balanced.ite whereClause_balanced andClause_balanced
          · exact filter.balanced
        · exact ih false

end SqlRelay.Lists
