import SqlRelay.Foundation.QuotedLiteral

/-!
# Text with quoted literals in it

Reading a whole text under a backend's quoting rule: what stands outside its literals, byte by byte,
and what each literal denotes.  A text is put together from pieces that are written as they are and
from values, each meant to be denoted by the literal that it is put in.  Whether it reads as it was
meant is a matter of size: no reading denotes more than the text has bytes for.
-/

namespace SqlRelay.Foundation

namespace QuotedText

open QuotedLiteral

/-- What a reader makes of a text: a byte outside every literal, or a literal's bounds and the bytes
that it denotes. -/
inductive Item where
  | code (byte : Byte)
  | opening
  | holds (byte : Byte)
  | closing
  deriving DecidableEq, Repr

inductive Place where
  | outside
  | inside (pending : Pending)
  deriving DecidableEq, Repr

variable (escapes : Bool)

/-- Read one byte.  The quote that may close a literal does so at the byte after it. -/
def feed : Place → Byte → List Item × Place
  | .outside, byte =>
      if byte = quote then ([.opening], .inside .nothing) else ([.code byte], .outside)
  | .inside .nothing, byte =>
      if byte = quote then ([], .inside .quote)
      else if escapes = true ∧ byte = backslash then ([], .inside .escape)
      else ([.holds byte], .inside .nothing)
  | .inside .quote, byte =>
      if byte = quote then ([.holds quote], .inside .nothing)
      else ([.closing, .code byte], .outside)
  | .inside .escape, byte => ([.holds byte], .inside .nothing)

def scan : Place → List Byte → List Item × Place
  | place, [] => ([], place)
  | place, byte :: rest =>
      let fed := feed escapes place byte
      let scanned := scan fed.2 rest
      (fed.1 ++ scanned.1, scanned.2)

/-- A text may end outside of a literal, or right after the quote that closes one. -/
def finish : Place → Option (List Item)
  | .outside => some []
  | .inside .quote => some [.closing]
  | .inside _ => none

def complete (scanned : List Item × Place) : Option (List Item) :=
  (finish scanned.2).map (scanned.1 ++ ·)

def read (text : List Byte) : Option (List Item) := complete (scan escapes .outside text)

theorem scan_append (place : Place) (first second : List Byte) :
    scan escapes place (first ++ second) =
      ((scan escapes place first).1 ++ (scan escapes (scan escapes place first).2 second).1,
        (scan escapes (scan escapes place first).2 second).2) := by
  induction first generalizing place with
  | nil => rfl
  | cons byte first ih => simp [scan, ih]

/-- The bytes that it takes to write the item. -/
def cost : Item → Nat
  | .holds byte => if byte = quote ∨ (escapes = true ∧ byte = backslash) then 2 else 1
  | _ => 1

def weight : List Item → Nat
  | [] => 0
  | item :: items => cost escapes item + weight items

/-- The bytes that have been read of an item that is not there yet. -/
def credit : Place → Nat
  | .outside => 0
  | .inside .nothing => 0
  | .inside _ => 1

@[simp] theorem weight_nil : weight escapes [] = 0 := rfl

@[simp] theorem weight_cons (item : Item) (items : List Item) :
    weight escapes (item :: items) = cost escapes item + weight escapes items := rfl

@[simp] theorem weight_append (first second : List Item) :
    weight escapes (first ++ second) = weight escapes first + weight escapes second := by
  induction first with
  | nil => simp
  | cons item first ih =>
      rw [List.cons_append, weight_cons, weight_cons, ih]
      omega

theorem cost_holds_le (byte : Byte) : cost escapes (.holds byte) ≤ 2 := by
  simp only [cost]
  split <;> omega

theorem cost_holds_ordinary {byte : Byte} (notQuote : byte ≠ quote)
    (notEscape : ¬(escapes = true ∧ byte = backslash)) : cost escapes (.holds byte) = 1 := by
  simp only [cost]
  rw [if_neg fun either => either.elim notQuote notEscape]

@[simp] theorem cost_holds_quote : cost escapes (.holds quote) = 2 := by simp [cost]

/-- A byte pays for the items that it completes. -/
theorem feed_weight (place : Place) (byte : Byte) :
    weight escapes (feed escapes place byte).1 + credit (feed escapes place byte).2 ≤
      1 + credit place := by
  cases place with
  | outside =>
      simp only [feed]
      split <;> simp [credit, cost]
  | inside pending =>
      cases pending with
      | nothing =>
          simp only [feed]
          split
          · simp [credit]
          · split
            · simp [credit]
            · rename_i notQuote notEscape
              simp [credit, cost_holds_ordinary escapes notQuote notEscape]
      | quote =>
          simp only [feed]
          split <;> simp [credit, cost]
      | escape =>
          have most := cost_holds_le escapes byte
          simpa [feed, credit] using most

theorem scan_weight (place : Place) (text : List Byte) :
    weight escapes (scan escapes place text).1 + credit (scan escapes place text).2 ≤
      text.length + credit place := by
  induction text generalizing place with
  | nil => simp [scan]
  | cons byte text ih =>
      have here := feed_weight escapes place byte
      have later := ih (feed escapes place byte).2
      simp only [scan, weight_append, List.length_cons]
      omega

theorem complete_weight {scanned : List Item × Place} {items : List Item}
    (completed : complete scanned = some items) :
    weight escapes items = weight escapes scanned.1 + credit scanned.2 := by
  obtain ⟨found, place⟩ := scanned
  cases place with
  | outside =>
      have same : found = items := by simpa [complete, finish] using completed
      simp [← same, credit]
  | inside pending =>
      cases pending with
      | nothing => simp [complete, finish] at completed
      | escape => simp [complete, finish] at completed
      | quote =>
          have same : found ++ [.closing] = items := by
            simpa [complete, finish] using completed
          simp [← same, credit, cost]

/-- What a text reads as takes no more bytes than the text has. -/
theorem read_weight {text : List Byte} {items : List Item}
    (reads : read escapes text = some items) : weight escapes items ≤ text.length := by
  have most := scan_weight escapes .outside text
  rw [complete_weight escapes reads]
  exact most

/-! ### Text without a backslash is read one item a byte -/

theorem feed_plain {place : Place} {byte : Byte} (plain : byte ≠ backslash)
    (noEscape : place ≠ .inside .escape) :
    weight escapes (feed escapes place byte).1 + credit (feed escapes place byte).2 =
        1 + credit place ∧
      (feed escapes place byte).2 ≠ .inside .escape := by
  cases place with
  | outside =>
      simp only [feed]
      split <;> simp [credit, cost]
  | inside pending =>
      cases pending with
      | nothing =>
          have notEscape : ¬(escapes = true ∧ byte = backslash) := fun both => plain both.2
          simp only [feed, if_neg notEscape]
          split
          · simp [credit]
          · rename_i notQuote
            simp [credit, cost_holds_ordinary escapes notQuote notEscape]
      | quote =>
          simp only [feed]
          split <;> simp [credit, cost]
      | escape => exact absurd rfl noEscape

theorem scan_plain {place : Place} {text : List Byte} (plain : backslash ∉ text)
    (noEscape : place ≠ .inside .escape) :
    weight escapes (scan escapes place text).1 + credit (scan escapes place text).2 =
        text.length + credit place ∧
      (scan escapes place text).2 ≠ .inside .escape := by
  induction text generalizing place with
  | nil => exact ⟨by simp [scan], noEscape⟩
  | cons byte text ih =>
      simp only [List.mem_cons, not_or] at plain
      have here := feed_plain escapes (Ne.symm plain.1) noEscape
      have later := ih plain.2 here.2
      constructor
      · simp only [scan, weight_append, List.length_cons]
        omega
      · exact later.2

/-! ### Values in a literal -/

def denotes (value : List Byte) : List Item := value.map .holds

/-- Put in the middle of a literal, the written bytes are read as the value and leave the literal
open. -/
def Holds (value written : List Byte) : Prop :=
  scan escapes (.inside .nothing) written = (denotes value, .inside .nothing)

variable {escapes}

theorem Holds.nil : Holds escapes [] [] := rfl

theorem Holds.ordinary {byte : Byte} {value written : List Byte} (notQuote : byte ≠ quote)
    (notEscape : escapes = true → byte ≠ backslash) (holds : Holds escapes value written) :
    Holds escapes (byte :: value) (byte :: written) := by
  rw [Holds] at holds ⊢
  rw [scan]
  have fed : feed escapes (.inside .nothing) byte = ([.holds byte], .inside .nothing) := by
    rw [feed, if_neg notQuote, if_neg fun both => notEscape both.1 both.2]
  simp [fed, holds, denotes]

theorem Holds.doubled {value written : List Byte} (holds : Holds escapes value written) :
    Holds escapes (quote :: value) (quote :: quote :: written) := by
  rw [Holds] at holds ⊢
  simp [scan, feed, holds, denotes]

/-! ### Texts with values put in -/

/-- A piece of a text that is put together: bytes as they are, or a value and how it is written. -/
inductive Piece where
  | text (bytes : List Byte)
  | slot (value written : List Byte)
  deriving DecidableEq, Repr

def Piece.bytes : Piece → List Byte
  | .text bytes => bytes
  | .slot _ written => written

/-- The text as it is written. -/
def render (pieces : List Piece) : List Byte := pieces.flatMap Piece.bytes

variable (escapes)

/-- What a value put here is to be read as: a part of the literal that is open, or else a literal of
its own. -/
def put (value : List Byte) : Place → List Item × Place
  | .inside .nothing => (denotes value, .inside .nothing)
  | .inside .quote => (.closing :: .opening :: denotes value ++ [.closing], .outside)
  | _ => (.opening :: denotes value ++ [.closing], .outside)

/-- What the pieces are to be read as. -/
def meant : Place → List Piece → List Item × Place
  | place, [] => ([], place)
  | place, .text bytes :: rest =>
      let scanned := scan escapes place bytes
      let others := meant scanned.2 rest
      (scanned.1 ++ others.1, others.2)
  | place, .slot value _ :: rest =>
      let placed := put value place
      let others := meant placed.2 rest
      (placed.1 ++ others.1, others.2)

/-- The piece with nothing put in. -/
def Piece.blank : Piece → Piece
  | .text bytes => .text bytes
  | .slot _ _ => .slot [] []

/-- Where the pieces end does not depend on the values. -/
theorem meant_blank (pieces : List Piece) (place : Place) :
    (meant escapes place (pieces.map Piece.blank)).2 = (meant escapes place pieces).2 := by
  induction pieces generalizing place with
  | nil => rfl
  | cons piece pieces ih =>
      cases piece with
      | text bytes => exact ih _
      | slot value written =>
          have here : (put [] place).2 = (put value place).2 := by
            cases place with
            | outside => rfl
            | inside pending => cases pending <;> rfl
          simp only [List.map_cons, Piece.blank, meant, here]
          exact ih _

theorem meant_append (first second : List Piece) (place : Place) :
    (meant escapes place (first ++ second)).2 =
      (meant escapes (meant escapes place first).2 second).2 := by
  induction first generalizing place with
  | nil => rfl
  | cons piece first ih => cases piece <;> exact ih _

/-- The text reads as the pieces are meant. -/
def ReadsAs (pieces : List Piece) (text : List Byte) : Prop :=
  ∃ items, complete (meant escapes .outside pieces) = some items ∧ read escapes text = some items

/-- Every value is put where a literal is open. -/
def InLiterals : Place → List Piece → Prop
  | _, [] => True
  | place, .text bytes :: rest => InLiterals (scan escapes place bytes).2 rest
  | place, .slot _ _ :: rest => place = .inside .nothing ∧ InLiterals place rest

/-- Where the values are put does not depend on what they are. -/
theorem inLiterals_blank (pieces : List Piece) (place : Place) :
    InLiterals escapes place (pieces.map Piece.blank) ↔ InLiterals escapes place pieces := by
  induction pieces generalizing place with
  | nil => exact Iff.rfl
  | cons piece pieces ih =>
      cases piece with
      | text bytes => exact ih _
      | slot value written => exact and_congr_right fun _ => ih place

variable {escapes}

/-- Values that stand in literals and are read back there leave the rest of the text as it is
meant. -/
theorem scan_render {pieces : List Piece} {place : Place}
    (inLiterals : InLiterals escapes place pieces)
    (holds : ∀ value written, .slot value written ∈ pieces → Holds escapes value written) :
    scan escapes place (render pieces) = meant escapes place pieces := by
  induction pieces generalizing place with
  | nil => rfl
  | cons piece pieces ih =>
      have later : ∀ value written, .slot value written ∈ pieces →
          Holds escapes value written := fun value written inside =>
        holds value written (List.mem_cons_of_mem _ inside)
      cases piece with
      | text bytes =>
          have tail := ih inLiterals later
          simp only [render, List.flatMap_cons, Piece.bytes, scan_append, meant]
          rw [← tail]
          rfl
      | slot value written =>
          obtain ⟨here, others⟩ := inLiterals
          subst here
          have tail := ih others later
          have back : scan escapes (.inside .nothing) written =
              (denotes value, .inside .nothing) :=
            holds value written (List.mem_cons_self ..)
          simp only [render, List.flatMap_cons, Piece.bytes, scan_append, meant, put, back]
          rw [← tail]
          rfl

theorem put_weight (escapes : Bool) (value : List Byte) {place : Place} (noEscape : place ≠ .inside .escape) :
    (put value place).2 ≠ .inside .escape ∧
      (place ≠ .inside .nothing →
        weight escapes (denotes value) + credit place <
          weight escapes (put value place).1 + credit (put value place).2) ∧
      weight escapes (denotes value) + credit place ≤
        weight escapes (put value place).1 + credit (put value place).2 := by
  cases place with
  | outside => simp [put, credit, cost]; omega
  | inside pending =>
      cases pending with
      | nothing => simp [put, credit]
      | quote => simp [put, credit, cost]; omega
      | escape => exact absurd rfl noEscape

/-- The pieces' plain texts have no backslash, and no value is written longer than it weighs. -/
structure Sized (escapes : Bool) (pieces : List Piece) : Prop where
  plain : ∀ bytes, .text bytes ∈ pieces → backslash ∉ bytes
  short : ∀ value written, .slot value written ∈ pieces →
    written.length ≤ weight escapes (denotes value)

theorem Sized.tail {piece : Piece} {pieces : List Piece} (sized : Sized escapes (piece :: pieces)) :
    Sized escapes pieces where
  plain bytes inside := sized.plain bytes (List.mem_cons_of_mem _ inside)
  short value written inside := sized.short value written (List.mem_cons_of_mem _ inside)

/-- What the pieces are meant to be read as needs every byte that they are written with. -/
theorem render_le_meant {pieces : List Piece} (place : Place) (sized : Sized escapes pieces)
    (noEscape : place ≠ .inside .escape) :
    (render pieces).length + credit place ≤
      weight escapes (meant escapes place pieces).1 +
        credit (meant escapes place pieces).2 := by
  induction pieces generalizing place with
  | nil => simp [render, meant]
  | cons piece pieces ih =>
      cases piece with
      | text bytes =>
          have here := scan_plain escapes (sized.plain bytes (List.mem_cons_self ..)) noEscape
          have later := ih _ sized.tail here.2
          simp only [render, List.flatMap_cons, Piece.bytes, List.length_append, meant,
            weight_append] at later ⊢
          omega
      | slot value written =>
          have here := put_weight escapes value noEscape
          have short := sized.short value written (List.mem_cons_self ..)
          have later := ih _ sized.tail here.1
          simp only [render, List.flatMap_cons, Piece.bytes, List.length_append, meant,
            weight_append] at later ⊢
          omega

/-- If the bytes suffice, then every value is put in a literal and is written with just the bytes
that it needs. -/
theorem exact_of_meant_le {pieces : List Piece} (place : Place) (sized : Sized escapes pieces)
    (noEscape : place ≠ .inside .escape)
    (fits : weight escapes (meant escapes place pieces).1 +
      credit (meant escapes place pieces).2 ≤ (render pieces).length + credit place) :
    InLiterals escapes place pieces ∧
      ∀ value written, .slot value written ∈ pieces →
        written.length = weight escapes (denotes value) := by
  induction pieces generalizing place with
  | nil => exact ⟨trivial, fun _ _ inside => absurd inside List.not_mem_nil⟩
  | cons piece pieces ih =>
      cases piece with
      | text bytes =>
          have here := scan_plain escapes (sized.plain bytes (List.mem_cons_self ..)) noEscape
          have later := render_le_meant _ sized.tail here.2
          simp only [render, List.flatMap_cons, Piece.bytes, List.length_append, meant,
            weight_append] at later fits
          have tail := ih _ sized.tail here.2 (by simp only [render]; omega)
          constructor
          · exact tail.1
          · intro value written inside
            apply tail.2
            simpa using inside
      | slot value written =>
          have here := put_weight escapes value noEscape
          have short := sized.short value written (List.mem_cons_self ..)
          have later := render_le_meant _ sized.tail here.1
          simp only [render, List.flatMap_cons, Piece.bytes, List.length_append, meant,
            weight_append] at later fits
          have inLiteral : place = .inside .nothing := by
            apply Decidable.byContradiction
            intro elsewhere
            have more := here.2.1 elsewhere
            omega
          subst inLiteral
          have tail := ih _ sized.tail here.1 (by simp only [render]; omega)
          constructor
          · exact ⟨rfl, tail.1⟩
          · intro other otherWritten inside
            cases List.mem_cons.mp inside with
            | inl same =>
                cases same
                omega
            | inr inside => exact tail.2 other otherWritten inside

/-- A text that was cut reads as its pieces are meant just when nothing was cut off, every value is
put in a literal, and every value is written with just the bytes that it needs. -/
theorem readsAs_take_iff {pieces : List Piece} {limit : Nat} (sized : Sized escapes pieces)
    (holds : ∀ value written, .slot value written ∈ pieces →
      written.length = weight escapes (denotes value) → Holds escapes value written)
    (closed : InLiterals escapes .outside pieces →
      (complete (meant escapes .outside pieces)).isSome = true) :
    ReadsAs escapes pieces ((render pieces).take limit) ↔
      InLiterals escapes .outside pieces ∧
        (∀ value written, .slot value written ∈ pieces →
          written.length = weight escapes (denotes value)) ∧
        (render pieces).length ≤ limit := by
  constructor
  · intro readsAs
    obtain ⟨items, asMeant, asRead⟩ := readsAs
    have enough := read_weight escapes asRead
    rw [complete_weight escapes asMeant, List.length_take] at enough
    have needed := render_le_meant .outside sized (by simp)
    have fits := exact_of_meant_le .outside sized (by simp) (by omega)
    have started : credit .outside = 0 := rfl
    have whole : (render pieces).length ≤ limit := by omega
    exact ⟨fits.1, fits.2, whole⟩
  · intro conditions
    obtain ⟨inLiterals, lengths, whole⟩ := conditions
    obtain ⟨items, asMeant⟩ := Option.isSome_iff_exists.mp (closed inLiterals)
    have scanned := scan_render inLiterals fun value written inside =>
      holds value written inside (lengths value written inside)
    apply Exists.intro items
    constructor
    · exact asMeant
    · rw [List.take_of_length_le whole, read, scanned, asMeant]

end QuotedText

end SqlRelay.Foundation
