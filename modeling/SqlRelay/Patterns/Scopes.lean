import SqlRelay.Foundation.Separated
import SqlRelay.Patterns.Tree

/-!
# Scopes

The pieces of a text are cut at its quotes, and every other piece is a literal.  A pattern with a scope
is meant to be applied to the pieces outside of the literals, or to the literals.  What is appended is
compared with that piece by piece.
-/

namespace SqlRelay.Patterns

open SqlRelay.Foundation SqlRelay.Foundation.CString

/-! ## Pieces -/

/-- The pieces between a quote and the next one. -/
def literalsOf : List (List Byte) → List (List Byte)
  | [] => []
  | [_] => []
  | _ :: literal :: rest => literal :: literalsOf rest

/-- The contents of the literals of a text whose quotes are balanced. -/
def literals (text : List Byte) : List (List Byte) := literalsOf (text.splitOn quote)

/-! ## What is meant -/

section Meant

variable (scope : Scope) (apply : List Byte → List Byte)

/-- A piece that is in the scope is rewritten, any other piece is kept. -/
def intendedEdit (literal : Bool) (part : List Byte) : Edit :=
  if literal = decide (scope = .insideQuotes) then ⟨part, apply part⟩ else ⟨part, part⟩

/-- The pieces from one on that is a literal or not, with the quotes between them. -/
def intendedFrom : Bool → List (List Byte) → List Edit
  | _, [] => []
  | literal, [part] => [intendedEdit scope apply literal part]
  | literal, part :: other :: rest =>
      intendedEdit scope apply literal part :: .mark :: intendedFrom (!literal) (other :: rest)

def intendedEdits (text : List Byte) : List Edit :=
  intendedFrom scope apply false (text.splitOn quote)

/-- What a pattern is meant to make of a text. -/
def intendedScoped (str : List Byte) : List Byte :=
  if scope = .query then apply str else (intendedEdits scope apply str).flatMap Edit.new

end Meant

/-- Edits without those that neither take nor give anything. -/
def significant (edits : List Edit) : List Edit := edits.filter fun edit => edit != ⟨[], []⟩

variable {Regex : Type} (library : Library Regex)

/-- What is appended for the pieces of the text is what is meant. -/
def ScopedExactly (scope : Scope) (apply : List Byte → List Byte) (str : List Byte) : Prop :=
  significant (scopedEdits library scope apply str) = significant (intendedEdits scope apply str)

/-- Each pattern that has a scope is applied to exactly the pieces in it, of the text that it meets. -/
def AppliesExactly (owner : PatternsModule) : List (Pattern Regex) → List Byte → Prop
  | [], _ => True
  | p :: rest, str =>
      (p.scope ≠ .query → ScopedExactly library p.scope (applyPattern library owner p) str) ∧
        AppliesExactly owner rest
          (applyScoped library p.scope (applyPattern library owner p) str)

/-- A text on which a scope works: its quotes are balanced, it does not start with one unless the empty
part in front of that is left out, and where all parts are rewritten, the literals stay what they are. -/
structure Spares (scope : Scope) (apply : List Byte → List Byte) (str : List Byte) : Prop where
  balanced : str.count quote % 2 = 0
  leading : str.head? = some quote → library.split str = (str.splitOn quote).tail
  leftOut : scope = .outsideQuotes → library.split str = (str.splitOn quote).tail → apply [] = []
  unchanged : scope = .outsideQuotes → ∀ literal ∈ literals str, apply literal = literal

/-- That of the text that each pattern is meant to meet. -/
def Spared (owner : PatternsModule) : List (Pattern Regex) → List Byte → Prop
  | [], _ => True
  | p :: rest, str =>
      (p.scope ≠ .query → Spares library p.scope (applyPattern library owner p) str) ∧
        Spared owner rest (intendedScoped p.scope (applyPattern library owner p) str)

/-! ## The parts, with and without the quotes around them -/

section Parts

variable (scope : Scope) (apply : List Byte → List Byte)

/-- What is appended for one part. -/
def codeEdit (quoted : Bool) (part : List Byte) : Edit :=
  if (quoted = true ∧ scope = .insideQuotes) ∨ scope = .outsideQuotes then ⟨part, apply part⟩
  else ⟨part, part⟩

/-- What is appended for the parts from one on that is taken for a literal or not. -/
def codeFrom : Bool → List (List Byte) → List Edit
  | _, [] => []
  | true, part :: rest => .mark :: codeEdit scope apply true part :: .mark :: codeFrom false rest
  | false, part :: rest => codeEdit scope apply false part :: codeFrom true rest

theorem mapIdx_parity_eq_codeFrom (parts : List (List Byte)) (mod shift : Nat) (binary : mod < 2) :
    (parts.mapIdx fun j part =>
      if decide ((j + shift) % 2 = mod) then
        [.mark, codeEdit scope apply (decide ((j + shift) % 2 = mod)) part, .mark]
      else [codeEdit scope apply (decide ((j + shift) % 2 = mod)) part]).flatten =
        codeFrom scope apply (decide (shift % 2 = mod)) parts := by
  induction parts generalizing shift with
  | nil => rw [codeFrom]; rfl
  | cons part rest ih =>
      have shifted := ih (shift + 1)
      rw [List.mapIdx_cons, List.flatten_cons]
      simp only [Nat.add_assoc, Nat.add_comm 1 shift]
      rw [shifted, Nat.zero_add]
      by_cases quoted : shift % 2 = mod
      · have next : ¬(shift + 1) % 2 = mod := by omega
        simp [quoted, next, codeFrom]
      · have next : (shift + 1) % 2 = mod := by omega
        simp [quoted, next, codeFrom]

theorem scopedEdits_eq_codeFrom (str : List Byte) : scopedEdits library scope apply str =
    codeFrom scope apply (decide (str.head? = some quote)) (library.split str) := by
  have parity := mapIdx_parity_eq_codeFrom scope apply (library.split str)
    (if peek str ≠ quote then 1 else 0) 0 (by split <;> decide)
  have first : (0 % 2 = if peek str ≠ quote then 1 else 0) ↔ str.head? = some quote := by
    cases str with
    | nil => decide
    | cons byte rest => by_cases starts : byte = quote <;> simp [starts]
  rw [decide_eq_decide.mpr first] at parity
  rw [← parity]
  rfl

theorem codeEdit_old (quoted : Bool) (part : List Byte) :
    (codeEdit scope apply quoted part).old = part := by
  rw [codeEdit]
  split <;> rfl

theorem intendedEdit_old (literal : Bool) (part : List Byte) :
    (intendedEdit scope apply literal part).old = part := by
  rw [intendedEdit]
  split <;> rfl

theorem mark_ne_of_old {edit : Edit} {part : List Byte} (old : edit.old = part)
    (plain : quote ∉ part) : edit ≠ .mark := by
  rintro rfl
  rw [← old] at plain
  exact plain (List.mem_singleton_self quote)

variable {scope} {apply} {parts : List (List Byte)}

/-- Two quotes for each part that is taken for a literal. -/
theorem count_mark_codeFrom (quoted : Bool) (plain : ∀ part ∈ parts, quote ∉ part) :
    (codeFrom scope apply quoted parts).count .mark = 2 * ((parts.length + quoted.toNat) / 2) := by
  induction parts generalizing quoted with
  | nil =>
      rw [codeFrom, List.count_nil, List.length_nil]
      cases quoted <;> rfl
  | cons part rest ih =>
      rw [List.forall_mem_cons] at plain
      have others := mark_ne_of_old (codeEdit_old scope apply quoted part) plain.1
      cases quoted with
      | false =>
          rw [codeFrom, List.count_cons_of_ne others, ih true plain.2, List.length_cons]
          rfl
      | true =>
          rw [codeFrom, List.count_cons_self, List.count_cons_of_ne others, List.count_cons_self,
            ih false plain.2, List.length_cons, Bool.toNat_false, Bool.toNat_true]
          omega

/-- A quote between any two parts. -/
theorem count_mark_intendedFrom (literal : Bool) (plain : ∀ part ∈ parts, quote ∉ part) :
    (intendedFrom scope apply literal parts).count .mark = parts.length - 1 := by
  induction parts generalizing literal with
  | nil => rfl
  | cons part rest ih =>
      rw [List.forall_mem_cons] at plain
      have others := mark_ne_of_old (intendedEdit_old scope apply literal part) plain.1
      cases rest with
      | nil =>
          rw [intendedFrom, List.count_cons_of_ne others]
          rfl
      | cons other rest =>
          rw [intendedFrom, List.count_cons_of_ne others, List.count_cons_self, ih (!literal) plain.2]
          simp

theorem count_mark_significant (edits : List Edit) :
    (significant edits).count .mark = edits.count .mark :=
  List.count_filter (by decide)

theorem significant_cons (edit : Edit) (edits : List Edit) :
    significant (edit :: edits) = significant [edit] ++ significant edits :=
  List.filter_append [edit] edits

theorem significant_mark_cons (edits : List Edit) :
    significant (.mark :: edits) = .mark :: significant edits :=
  List.filter_cons_of_pos (by decide)

theorem significant_singleton_inj {old new new' : List Byte} :
    significant [⟨old, new⟩] = significant [⟨old, new'⟩] ↔ new = new' := by
  constructor
  · intro same
    have outputs := congrArg (List.flatMap Edit.new) same
    by_cases nothing : (⟨old, new⟩ : Edit) = ⟨[], []⟩ <;>
      by_cases nothing' : (⟨old, new'⟩ : Edit) = ⟨[], []⟩ <;>
      simp_all [significant]
  · rintro rfl
    rfl

theorem mark_notMem_significant {edit : Edit} (other : edit ≠ .mark) :
    Edit.mark ∉ significant [edit] := by
  intro member
  exact other (List.mem_singleton.mp (List.mem_of_mem_filter member)).symm

/-- A quote that is in neither of two edits has the same place behind both only if they are the same. -/
theorem significant_cons_mark_inj {edit edit' : Edit} {edits edits' : List Edit}
    (other : edit ≠ .mark) (other' : edit' ≠ .mark) :
    significant (edit :: .mark :: edits) = significant (edit' :: .mark :: edits') ↔
      significant [edit] = significant [edit'] ∧ significant edits = significant edits' := by
  rw [significant_cons, significant_cons edit', significant_mark_cons, significant_mark_cons,
    Separated.append_cons_inj (mark_notMem_significant other) (mark_notMem_significant other')]

/-! ## An odd number of parts -/

theorem intendedEdit_false_eq (part : List Byte) (restricted : scope ≠ .query) :
    intendedEdit scope apply false part = codeEdit scope apply false part := by
  cases scope with
  | query => contradiction
  | outsideQuotes => rfl
  | insideQuotes => rfl

theorem significant_literal_iff (restricted : scope ≠ .query) (literal : List Byte) :
    significant [codeEdit scope apply true literal] = significant [intendedEdit scope apply true literal] ↔
      (scope = .outsideQuotes → apply literal = literal) := by
  cases scope with
  | query => contradiction
  | outsideQuotes =>
      have code : codeEdit .outsideQuotes apply true literal = ⟨literal, apply literal⟩ := rfl
      have intended : intendedEdit .outsideQuotes apply true literal = ⟨literal, literal⟩ := rfl
      rw [code, intended, significant_singleton_inj]
      simp
  | insideQuotes => exact iff_of_true rfl fun other => by cases other

/-- What is appended for a literal and what follows it has its quotes in the same places as what is
meant. -/
theorem significant_literal_cons_iff (restricted : scope ≠ .query) {first first' : Edit}
    (other : first ≠ .mark) (other' : first' ≠ .mark) {literal next : List Byte}
    {rest : List (List Byte)} (plain : quote ∉ literal) :
    significant (first :: codeFrom scope apply true (literal :: next :: rest)) =
        significant (first' :: .mark :: intendedFrom scope apply true (literal :: next :: rest)) ↔
      significant [first] = significant [first'] ∧
        (scope = .outsideQuotes → apply literal = literal) ∧
        significant (codeFrom scope apply false (next :: rest)) =
          significant (intendedFrom scope apply false (next :: rest)) := by
  rw [codeFrom, intendedFrom, Bool.not_true, significant_cons_mark_inj other other',
    significant_cons_mark_inj (mark_ne_of_old (codeEdit_old _ _ _ _) plain)
      (mark_ne_of_old (intendedEdit_old _ _ _ _) plain),
    significant_literal_iff restricted]

theorem literalsOf_unchanged_iff {part literal : List Byte} {rest : List (List Byte)} :
    (scope = .outsideQuotes → ∀ other ∈ literalsOf (part :: literal :: rest), apply other = other) ↔
      (scope = .outsideQuotes → apply literal = literal) ∧
        (scope = .outsideQuotes → ∀ other ∈ literalsOf rest, apply other = other) := by
  rw [literalsOf, List.forall_mem_cons, imp_and]

/-- Outside of the literals the parts are what is meant, and so are the literals unless they are
rewritten although they are to be left alone. -/
theorem codeFrom_false_iff (restricted : scope ≠ .query) (plain : ∀ part ∈ parts, quote ∉ part)
    (odd : parts.length % 2 = 1) :
    significant (codeFrom scope apply false parts) = significant (intendedFrom scope apply false parts) ↔
      (scope = .outsideQuotes → ∀ literal ∈ literalsOf parts, apply literal = literal) := by
  induction parts using literalsOf.induct with
  | case1 => contradiction
  | case2 part =>
      rw [intendedFrom, codeFrom, codeFrom, intendedEdit_false_eq _ restricted]
      simp [literalsOf]
  | case3 part literal rest ih =>
      rw [List.forall_mem_cons, List.forall_mem_cons] at plain
      rw [List.length_cons, List.length_cons] at odd
      have sameParity : rest.length % 2 = 1 := by omega
      have nonempty : rest ≠ [] := by
        rintro rfl
        contradiction
      rcases List.exists_cons_of_ne_nil nonempty with ⟨next, others, rfl⟩
      have notMark := mark_ne_of_old (codeEdit_old scope apply false part) plain.1
      rw [codeFrom, intendedFrom, intendedEdit_false_eq _ restricted, Bool.not_false,
        significant_literal_cons_iff restricted notMark notMark plain.2.1, ih plain.2.2 sameParity,
        literalsOf_unchanged_iff, and_iff_right rfl]

end Parts

/-! ## The text -/

section Text

variable {scope : Scope} {apply : List Byte → List Byte} {str : List Byte}

theorem plain_splitOn (str : List Byte) : ∀ part ∈ str.splitOn quote, quote ∉ part :=
  Separated.notMem_of_mem_splitOn quote str

/-- Where the quotes that are appended are not as many as those of the text, the text is not what is
meant. -/
theorem not_scopedExactly_of_count
    (different : (scopedEdits library scope apply str).count .mark ≠ str.count quote) :
    ¬ScopedExactly library scope apply str := by
  intro exactly
  have counts := congrArg (List.count Edit.mark) exactly
  rw [count_mark_significant, count_mark_significant, intendedEdits,
    count_mark_intendedFrom false (plain_splitOn str), Separated.length_splitOn,
    Nat.add_sub_cancel] at counts
  exact different counts

theorem head?_splitOn_of_quote (starts : str.head? = some quote) :
    str.splitOn quote = [] :: str.tail.splitOn quote := by
  cases str with
  | nil => contradiction
  | cons byte rest =>
      rw [List.head?_cons, Option.some_inj] at starts
      rw [List.splitOn_cons_eq_if_modifyHead, starts, if_pos BEq.rfl, List.tail_cons]

/-- All of the parts are there, and the text does not start with a quote. -/
theorem scopedExactly_iff_of_whole (restricted : scope ≠ .query)
    (whole : library.split str = str.splitOn quote) (other : str.head? ≠ some quote) :
    ScopedExactly library scope apply str ↔ str.count quote % 2 = 0 ∧
      (scope = .outsideQuotes → ∀ literal ∈ literals str, apply literal = literal) := by
  have edits := scopedEdits_eq_codeFrom library scope apply str
  rw [whole, decide_eq_false other] at edits
  by_cases balanced : str.count quote % 2 = 0
  · have odd : (str.splitOn quote).length % 2 = 1 := by
      rw [Separated.length_splitOn]
      omega
    rw [ScopedExactly, edits, intendedEdits, codeFrom_false_iff restricted (plain_splitOn str) odd]
    exact (and_iff_right balanced).symm
  · apply iff_of_false _ fun both => balanced both.1
    apply not_scopedExactly_of_count
    rw [edits, count_mark_codeFrom false (plain_splitOn str), Separated.length_splitOn,
      Bool.toNat_false]
    omega

/-- The text starts with a quote, and so does what is appended for its first part, which is the empty
one in front of that quote. -/
theorem not_scopedExactly_of_leading (whole : library.split str = str.splitOn quote)
    (starts : str.head? = some quote) : ¬ScopedExactly library scope apply str := by
  apply not_scopedExactly_of_count
  rw [scopedEdits_eq_codeFrom, whole, decide_eq_true starts,
    count_mark_codeFrom true (plain_splitOn str), Separated.length_splitOn, Bool.toNat_true]
  omega

/-- Nothing is appended for the empty part that is left out. -/
theorem significant_leftOut_iff : significant [⟨[], []⟩] = significant [codeEdit scope apply false []] ↔
    (scope = .outsideQuotes → apply [] = []) := by
  by_cases outside : scope = .outsideQuotes
  · have rewritten : codeEdit scope apply false [] = ⟨[], apply []⟩ := if_pos (Or.inr outside)
    rw [rewritten, significant_singleton_inj, eq_comm]
    exact ⟨fun same _ => same, fun same => same outside⟩
  · have kept : codeEdit scope apply false [] = ⟨[], []⟩ := by
      rw [codeEdit, if_neg]
      rintro (both | other)
      · exact Bool.false_ne_true both.1
      · exact outside other
    rw [kept]
    exact iff_of_true rfl fun other => absurd other outside

/-- The text starts with a quote, and the empty part in front of that is left out. -/
theorem scopedExactly_iff_of_tail (restricted : scope ≠ .query)
    (dropped : library.split str = (str.splitOn quote).tail) (starts : str.head? = some quote) :
    ScopedExactly library scope apply str ↔ str.count quote % 2 = 0 ∧
      (scope = .outsideQuotes → apply [] = []) ∧
      (scope = .outsideQuotes → ∀ literal ∈ literals str, apply literal = literal) := by
  have edits := scopedEdits_eq_codeFrom library scope apply str
  have parts := head?_splitOn_of_quote starts
  have plain := plain_splitOn str
  have length := Separated.length_splitOn quote str
  rw [dropped, decide_eq_true starts] at edits
  rw [parts, List.forall_mem_cons] at plain
  rw [parts, List.length_cons] at length
  rw [parts, List.tail_cons] at edits
  by_cases balanced : str.count quote % 2 = 0
  · rcases split : str.tail.splitOn quote with _ | ⟨literal, rest⟩
    · exact absurd split (List.splitOn_ne_nil _ _)
    · rw [split] at length edits plain parts
      rw [List.forall_mem_cons] at plain
      rw [List.length_cons] at length
      have odd : rest.length % 2 = 1 := by omega
      have nonempty : rest ≠ [] := by
        rintro rfl
        contradiction
      rcases List.exists_cons_of_ne_nil nonempty with ⟨next, others, rfl⟩
      have nothing (edits : List Edit) : significant edits = significant (⟨[], []⟩ :: edits) := rfl
      have notMark := mark_ne_of_old (codeEdit_old scope apply false []) List.not_mem_nil
      rw [ScopedExactly, edits, intendedEdits, parts, literals, parts, intendedFrom, Bool.not_false,
        intendedEdit_false_eq _ restricted, nothing,
        significant_literal_cons_iff restricted (by decide) notMark plain.2.1,
        codeFrom_false_iff restricted plain.2.2 odd, significant_leftOut_iff, literalsOf_unchanged_iff,
        and_iff_right balanced]
  · apply iff_of_false _ fun both => balanced both.1
    apply not_scopedExactly_of_count
    rw [edits, count_mark_codeFrom true plain.2, Bool.toNat_true]
    omega

/-- There is no text, nor a part of it. -/
theorem scopedExactly_iff_of_empty (restricted : scope ≠ .query)
    (dropped : library.split [] = (([] : List Byte).splitOn quote).tail) :
    ScopedExactly library scope apply [] ↔ (scope = .outsideQuotes → apply [] = []) := by
  have edits := scopedEdits_eq_codeFrom library scope apply []
  rw [dropped] at edits
  have none_intended : intendedEdits scope apply [] = [codeEdit scope apply false []] := by
    rw [← intendedEdit_false_eq _ restricted]
    rfl
  have nothing : significant [] = significant [⟨[], []⟩] := rfl
  rw [ScopedExactly, edits, none_intended]
  exact significant_leftOut_iff

/-- A scope works on exactly the texts that it spares. -/
theorem scopedExactly_iff_spares (restricted : scope ≠ .query) (str : List Byte) :
    ScopedExactly library scope apply str ↔ Spares library scope apply str := by
  have longer : (str.splitOn quote).tail ≠ str.splitOn quote := by
    intro same
    have lengths := congrArg List.length same
    have length := Separated.length_splitOn quote str
    rw [List.length_tail] at lengths
    omega
  rcases library.split_eq str with whole | ⟨leading, dropped⟩
  · have notDropped : library.split str ≠ (str.splitOn quote).tail := by
      rw [whole]
      exact longer.symm
    by_cases starts : str.head? = some quote
    · apply iff_of_false (not_scopedExactly_of_leading library whole starts)
      exact fun spared => notDropped (spared.leading starts)
    · rw [scopedExactly_iff_of_whole library restricted whole starts]
      constructor
      · rintro ⟨balanced, unchanged⟩
        exact ⟨balanced, fun other => absurd other starts, fun _ other => absurd other notDropped,
          unchanged⟩
      · intro spared
        exact ⟨spared.balanced, spared.unchanged⟩
  · by_cases empty : str = []
    · subst empty
      rw [scopedExactly_iff_of_empty library restricted dropped]
      constructor
      · intro leftOut
        exact ⟨rfl, fun _ => dropped, fun outside _ => leftOut outside, fun _ _ listed => by cases listed⟩
      · intro spared outside
        exact spared.leftOut outside dropped
    · have starts : str.head? = some quote := by
        rcases List.exists_cons_of_ne_nil empty with ⟨byte, rest, rfl⟩
        rw [Separated.head_splitOn, Option.some_inj, List.takeWhile_cons] at leading
        split at leading
        case isTrue => cases leading
        case isFalse same => simpa using same
      rw [scopedExactly_iff_of_tail library restricted dropped starts]
      constructor
      · rintro ⟨balanced, leftOut, unchanged⟩
        exact ⟨balanced, fun _ => dropped, fun outside _ => leftOut outside, unchanged⟩
      · intro spared
        exact ⟨spared.balanced, fun outside => spared.leftOut outside dropped, spared.unchanged⟩

end Text

/-! ## The patterns of a list -/

theorem flatMap_significant (edits : List Edit) :
    (significant edits).flatMap Edit.new = edits.flatMap Edit.new := by
  induction edits with
  | nil => rfl
  | cons edit edits ih =>
      rw [significant, List.filter_cons]
      split
      case isTrue => rw [List.flatMap_cons, List.flatMap_cons, ← ih, significant]
      case isFalse nothing =>
        have empty : edit = ⟨[], []⟩ := by simpa using nothing
        rw [empty, List.flatMap_cons, List.nil_append, ← ih, significant]

/-- What is appended for the text as a whole then is what is meant, too. -/
theorem ScopedExactly.applyScoped_eq {scope : Scope} {apply : List Byte → List Byte} {str : List Byte}
    (exactly : scope ≠ .query → ScopedExactly library scope apply str) :
    applyScoped library scope apply str = intendedScoped scope apply str := by
  rw [applyScoped, intendedScoped]
  split
  case isTrue => rfl
  case isFalse restricted =>
    rw [← flatMap_significant, exactly restricted, flatMap_significant]

/-- In each of the texts that the patterns of a list meet one after the other, they rewrite exactly what
is in their scopes if and only if these are texts that the scopes spare. -/
theorem appliesExactly_iff (owner : PatternsModule) (patterns : List (Pattern Regex))
    (str : List Byte) :
    AppliesExactly library owner patterns str ↔ Spared library owner patterns str := by
  induction patterns generalizing str with
  | nil => exact Iff.rfl
  | cons p rest ih =>
      rw [AppliesExactly, Spared, ih]
      have here : (p.scope ≠ .query → ScopedExactly library p.scope (applyPattern library owner p) str) ↔
          (p.scope ≠ .query → Spares library p.scope (applyPattern library owner p) str) :=
        forall_congr' fun restricted => scopedExactly_iff_spares library restricted str
      constructor
      · rintro ⟨exactly, others⟩
        rw [ScopedExactly.applyScoped_eq library exactly] at others
        exact ⟨here.mp exactly, others⟩
      · rintro ⟨spared, others⟩
        rw [← ScopedExactly.applyScoped_eq library (here.mpr spared)] at others
        exact ⟨here.mpr spared, others⟩

/-- A literal is rewritten by a pattern for what is outside of the literals. -/
theorem not_appliesExactly_literal : ¬AppliesExactly literalLibrary .queryTranslation
    [⟨none, true, some (ascii "a"), none, true, false, some (ascii "b"), false, .outsideQuotes, []⟩]
    (ascii "x='a'") := by
  intro exactly
  have spared := ((appliesExactly_iff _ _ _ _).mp exactly).1 (by decide)
  have unchanged := spared.unchanged rfl (ascii "a") (by decide)
  rw [applyPattern] at unchanged
  exact absurd unchanged (by decide)

end SqlRelay.Patterns
