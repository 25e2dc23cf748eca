import SqlRelay.Firebird.Acceptance

/-!
# Slice descriptions are parsed exactly

The loop over the clauses takes them in as long as each is allowed where it comes.  In the end exactly
the well-formed descriptions are accepted, and what is recorded is what they say.
-/

namespace SqlRelay.Firebird

open SqlRelay.Foundation SqlRelay.Foundation.Parser

/-! ## The loop -/

/-- The clauses are allowed, one after the other, and this is what they record. -/
def Runs : Progress → List Clause → Progress → Prop
  | progress, [], final => final = progress
  | progress, clause :: clauses, final =>
      clause.Allowed progress ∧ Runs (progress.after clause) clauses final

theorem Progress.after_few {progress : Progress} {clause : Clause}
    (few : progress.slice.bounds.length ≤ maxDimensions) (allowed : clause.Allowed progress) :
    (progress.after clause).slice.bounds.length ≤ maxDimensions := by
  cases clause with
  | loop loopVariable range =>
      have room := allowed.2
      simp only [Progress.after, Slice.addBound, List.length_append, List.length_singleton]
      omega
  | struct described => cases described <;> exact few
  | _ => exact few

theorem Clause.exists_bytes (clause : Clause) : ∃ rest, clause.bytes = clause.op :: rest := by
  cases clause <;> exact ⟨_, rfl⟩

theorem Clause.op_ne_eoc (clause : Clause) : clause.op ≠ Sdl.eoc := by
  cases clause with
  | loop _ range => cases range <;> exact of_decide_eq_false rfl
  | _ => exact of_decide_eq_false rfl

/-- What the loop reads in so many passes. -/
def ReadsAll (passes : Nat) (progress : Progress) : Prop :=
  Reads passes (parseClauses passes progress) fun final bytes =>
    ∃ clauses, bytes = clauses.flatMap Clause.bytes ++ [Sdl.eoc] ∧ Runs progress clauses final

/-- A pass, after the opcode. -/
theorem readsAll_pass {passes : Nat} {progress : Progress}
    (few : progress.slice.bounds.length ≤ maxDimensions)
    (rest : ∀ next : Progress, next.slice.bounds.length ≤ maxDimensions → ReadsAll passes next)
    (op : Byte) :
    Reads passes (if op = Sdl.eoc then pure progress
      else parseClause progress op >>= fun progress => parseClauses passes progress)
      (fun final bytes => ∃ clauses,
        op :: bytes = clauses.flatMap Clause.bytes ++ [Sdl.eoc] ∧ Runs progress clauses final) := by
  split
  case isTrue eoc =>
    apply (reads_pure progress).congr
    intro final bytes
    constructor
    · intro read
      obtain ⟨same, empty⟩ := read
      subst same empty eoc
      exact ⟨[], rfl, rfl⟩
    · intro described
      obtain ⟨clauses, written, runs⟩ := described
      cases clauses with
      | nil => exact ⟨runs.symm, (List.cons.inj written).2⟩
      | cons clause clauses =>
          obtain ⟨more, begins⟩ := clause.exists_bytes
          rw [List.flatMap_cons, begins] at written
          exact absurd ((List.cons.inj written).1.symm.trans eoc) clause.op_ne_eoc
  case isFalse goesOn =>
    have later : ∀ next front, (∃ clause : Clause, op :: front = clause.bytes ∧
        clause.Allowed progress ∧ next = progress.after clause) →
        Reads (passes - front.length) (parseClauses passes next) (fun final bytes =>
          ∃ clauses, bytes = clauses.flatMap Clause.bytes ++ [Sdl.eoc] ∧ Runs next clauses final) := by
      intro next front described
      obtain ⟨clause, _, allowed, same⟩ := described
      subst same
      exact (rest _ (Progress.after_few few allowed)).mono (Nat.sub_le _ _)
    apply (Reads.bind (reads_parseClause few op) later).congr
    intro final bytes
    constructor
    · intro read
      obtain ⟨next, front, back, parts, ⟨clause, written, allowed, same⟩, clauses, others, runs⟩ := read
      subst parts same others
      refine ⟨clause :: clauses, ?_, allowed, runs⟩
      rw [List.flatMap_cons, ← written, List.append_assoc]
      rfl
    · intro described
      obtain ⟨clauses, written, runs⟩ := described
      cases clauses with
      | nil => exact absurd (List.cons.inj written).1 goesOn
      | cons clause clauses =>
          obtain ⟨more, begins⟩ := clause.exists_bytes
          rw [List.flatMap_cons, begins, List.append_assoc] at written
          obtain ⟨isOp, others⟩ := List.cons.inj written
          refine ⟨progress.after clause, more, _, others, ⟨clause, ?_, runs.1, rfl⟩, clauses, rfl,
            runs.2⟩
          rw [begins, isOp]

theorem readsAll (passes : Nat) {progress : Progress}
    (few : progress.slice.bounds.length ≤ maxDimensions) : ReadsAll passes progress := by
  induction passes generalizing progress with
  | zero =>
      constructor
      · intro before rest never
        exact absurd never (Nat.not_lt_zero _)
      · intro before rest never
        exact absurd never (Nat.not_lt_zero _)
  | succ passes ih =>
      have later : ∀ op front, front = [op] → Reads (passes + 1 - front.length)
          (if op = Sdl.eoc then pure progress
            else parseClause progress op >>= fun progress => parseClauses passes progress)
          (fun final bytes => ∃ clauses, op :: bytes = clauses.flatMap Clause.bytes ++ [Sdl.eoc] ∧
            Runs progress clauses final) := by
        intro op front one
        subst one
        exact readsAll_pass few (fun next few => ih few) op
      apply (Reads.bind reads_getByte later).congr
      intro final bytes
      constructor
      · intro read
        obtain ⟨op, front, back, parts, one, clauses, written, runs⟩ := read
        subst parts one
        exact ⟨clauses, written, runs⟩
      · intro described
        obtain ⟨clauses, written, runs⟩ := described
        cases bytes with
        | nil => exact absurd written.symm (List.append_ne_nil_of_right_ne_nil _ (List.cons_ne_nil _ _))
        | cons op bytes => exact ⟨op, [op], bytes, rfl, rfl, clauses, written, runs⟩

theorem reads_parseVersion (passes : Nat) : Reads (passes + 1) (parseVersion passes)
    (fun final bytes => ∃ clauses, bytes = descriptionOf clauses ∧ Runs .start clauses final) := by
  have later : ∀ version front, front = [version] → Reads (passes + 1 - front.length)
      (require (version = Sdl.version1) "unsupported SDL version" >>= fun _ =>
        parseClauses passes .start)
      (fun final bytes => version = Sdl.version1 ∧ ∃ clauses,
        bytes = clauses.flatMap Clause.bytes ++ [Sdl.eoc] ∧ Runs .start clauses final) := by
    intro version front one
    subst one
    exact Reads.required fun _ => readsAll passes (Nat.zero_le _)
  apply (Reads.bind reads_getByte later).congr
  intro final bytes
  constructor
  · intro read
    obtain ⟨version, front, back, parts, one, isVersion, clauses, written, runs⟩ := read
    subst parts one isVersion written
    exact ⟨clauses, rfl, runs⟩
  · intro described
    obtain ⟨clauses, written, runs⟩ := described
    exact ⟨Sdl.version1, [_], _, written, rfl, rfl, clauses, rfl, runs⟩

/-! ## The order of the clauses -/

/-- The one element clause, after loops some of which are known. -/
def EndsInElement (bounds : List Bound) (clauses : List Clause) : Prop :=
  ∃ before subscripts after, clauses = before ++ .element subscripts :: after ∧
    before.filterMap Clause.subscripts? = [] ∧ after.filterMap Clause.subscripts? = [] ∧
      boundsOf after = [] ∧ subscripts = (bounds ++ boundsOf before).map Bound.loopVariable

section Order

variable {bounds : List Bound} {clauses : List Clause}

theorem boundsOf_cons (clause : Clause) (clauses : List Clause) :
    boundsOf (clause :: clauses) = clause.bound?.toList ++ boundsOf clauses := by
  rw [boundsOf, List.filterMap_cons]
  cases clause.bound? <;> rfl

theorem not_endsInElement_nil : ¬EndsInElement bounds [] := by
  intro ends
  obtain ⟨before, subscripts, after, split, _⟩ := ends
  exact absurd split.symm (List.append_ne_nil_of_right_ne_nil _ (List.cons_ne_nil _ _))

theorem endsInElement_element {subscripts : List Byte} :
    EndsInElement bounds (.element subscripts :: clauses) ↔
      subscripts = bounds.map Bound.loopVariable ∧
        clauses.filterMap Clause.subscripts? = [] ∧ boundsOf clauses = [] := by
  constructor
  · intro ends
    obtain ⟨before, others, after, split, first, last, loops, same⟩ := ends
    cases before with
    | nil =>
        obtain ⟨head, rest⟩ := List.cons.inj split
        cases head
        subst rest
        rw [boundsOf, List.filterMap_nil, List.append_nil] at same
        exact ⟨same, last, loops⟩
    | cons clause before =>
        obtain ⟨head, _⟩ := List.cons.inj split
        subst head
        cases first
  · intro found
    refine ⟨[], subscripts, clauses, rfl, rfl, found.2.1, found.2.2, ?_⟩
    rw [found.1, boundsOf, List.filterMap_nil, List.append_nil]

theorem endsInElement_other {clause : Clause} (other : clause.subscripts? = none) :
    EndsInElement bounds (clause :: clauses) ↔
      EndsInElement (bounds ++ clause.bound?.toList) clauses := by
  constructor
  · intro ends
    obtain ⟨before, subscripts, after, split, first, last, loops, same⟩ := ends
    cases before with
    | nil =>
        obtain ⟨head, _⟩ := List.cons.inj split
        subst head
        cases other
    | cons earlier before =>
        obtain ⟨head, rest⟩ := List.cons.inj split
        subst head rest
        rw [List.filterMap_cons_none other] at first
        rw [boundsOf_cons, ← List.append_assoc] at same
        exact ⟨before, subscripts, after, rfl, first, last, loops, same⟩
  · intro ends
    obtain ⟨before, subscripts, after, split, first, last, loops, same⟩ := ends
    refine ⟨clause :: before, subscripts, after, by rw [split]; rfl, ?_, last, loops, ?_⟩
    · rw [List.filterMap_cons_none other]
      exact first
    · rw [boundsOf_cons, ← List.append_assoc]
      exact same

/-- Clauses that are well formed after what was there before them. -/
structure WellFormedAfter (progress : Progress) (clauses : List Clause) : Prop where
  struct : (clauses.filterMap Clause.element?).length + progress.gotstruct.toNat = 1
  loops : 1 ≤ (progress.slice.bounds ++ boundsOf clauses).length ∧
    (progress.slice.bounds ++ boundsOf clauses).length ≤ maxDimensions
  element : progress.gotelement = true ∧ clauses.filterMap Clause.subscripts? = [] ∧
      boundsOf clauses = [] ∨
    progress.gotelement = false ∧ EndsInElement progress.slice.bounds clauses

/-- What `parse` asks for in the end. -/
structure Finished (progress : Progress) : Prop where
  struct : progress.gotstruct = true
  loops : progress.slice.bounds.length ≠ 0
  element : progress.gotelement = true

theorem Element.record_bounds (described : Element) (slice : Slice) :
    (described.record slice).bounds = slice.bounds := by
  cases described <;> rfl

theorem wellFormedAfter_iff {progress : Progress} : WellFormedAfter progress clauses ↔
    (clauses.filterMap Clause.element?).length + progress.gotstruct.toNat = 1 ∧
      (1 ≤ (progress.slice.bounds ++ boundsOf clauses).length ∧
        (progress.slice.bounds ++ boundsOf clauses).length ≤ maxDimensions) ∧
      (progress.gotelement = true ∧ clauses.filterMap Clause.subscripts? = [] ∧
          boundsOf clauses = [] ∨
        progress.gotelement = false ∧ EndsInElement progress.slice.bounds clauses) :=
  ⟨fun formed => ⟨formed.struct, formed.loops, formed.element⟩, fun parts => ⟨parts.1, parts.2.1, parts.2.2⟩⟩

/-- A clause that may come anywhere. -/
theorem wellFormedAfter_anywhere {progress : Progress} {clause : Clause}
    (allowed : clause.Allowed progress) (noElement : clause.element? = none)
    (noBound : clause.bound? = none) (noSubscripts : clause.subscripts? = none)
    (gotstruct : (progress.after clause).gotstruct = progress.gotstruct)
    (gotelement : (progress.after clause).gotelement = progress.gotelement)
    (bounds : (progress.after clause).slice.bounds = progress.slice.bounds) :
    WellFormedAfter progress (clause :: clauses) ↔
      clause.Allowed progress ∧ WellFormedAfter (progress.after clause) clauses := by
  rw [and_iff_right allowed, wellFormedAfter_iff, wellFormedAfter_iff,
    List.filterMap_cons_none noElement, List.filterMap_cons_none noSubscripts, boundsOf_cons, noBound,
    endsInElement_other noSubscripts, noBound, gotstruct, gotelement, bounds]
  simp only [Option.toList_none, List.nil_append, List.append_nil]

theorem wellFormedAfter_struct {progress : Progress} {described : Element} :
    WellFormedAfter progress (.struct described :: clauses) ↔
      progress.gotstruct = false ∧ WellFormedAfter (progress.after (.struct described)) clauses := by
  have sameBounds : (progress.after (.struct described)).slice.bounds = progress.slice.bounds :=
    described.record_bounds progress.slice
  have element : (Clause.struct described).element? = some described := rfl
  have noSubscripts : (Clause.struct described).subscripts? = none := rfl
  have noBound : (Clause.struct described).bound? = none := rfl
  have count : (clauses.filterMap Clause.element?).length + 1 + progress.gotstruct.toNat = 1 ↔
      progress.gotstruct = false ∧ (clauses.filterMap Clause.element?).length + 1 = 1 := by
    cases progress.gotstruct with
    | false => simp
    | true => simp
  rw [wellFormedAfter_iff, wellFormedAfter_iff, List.filterMap_cons_some element,
    List.filterMap_cons_none noSubscripts, boundsOf_cons, noBound, endsInElement_other noSubscripts,
    noBound, sameBounds, List.length_cons, count, and_assoc]
  simp only [Option.toList_none, List.nil_append, List.append_nil]
  rfl

theorem wellFormedAfter_loop {progress : Progress} {loopVariable : Byte} {range : Range} :
    WellFormedAfter progress (.loop loopVariable range :: clauses) ↔
      (progress.gotelement = false ∧ progress.slice.bounds.length ≠ maxDimensions) ∧
        WellFormedAfter (progress.after (.loop loopVariable range)) clauses := by
  have noElement : (Clause.loop loopVariable range).element? = none := rfl
  have noSubscripts : (Clause.loop loopVariable range).subscripts? = none := rfl
  have bound : (Clause.loop loopVariable range).bound?.toList =
      [⟨loopVariable, range.lower, range.upper⟩] := rfl
  have bounds : (progress.after (.loop loopVariable range)).slice.bounds =
      progress.slice.bounds ++ [⟨loopVariable, range.lower, range.upper⟩] := rfl
  have gotelement : (progress.after (.loop loopVariable range)).gotelement = progress.gotelement := rfl
  have gotstruct : (progress.after (.loop loopVariable range)).gotstruct = progress.gotstruct := rfl
  rw [wellFormedAfter_iff, wellFormedAfter_iff, List.filterMap_cons_none noElement,
    List.filterMap_cons_none noSubscripts, boundsOf_cons, bound, endsInElement_other noSubscripts,
    bound, gotstruct, gotelement, bounds, List.append_assoc]
  constructor
  · intro formed
    obtain ⟨struct, loops, element⟩ := formed
    have ends := element.resolve_left fun got => List.cons_ne_nil _ _ got.2.2
    refine ⟨⟨ends.1, ?_⟩, struct, loops, Or.inr ends⟩
    have most := loops.2
    rw [List.length_append, List.length_append, List.length_singleton] at most
    omega
  · intro formed
    obtain ⟨⟨notYet, _⟩, struct, loops, element⟩ := formed
    refine ⟨struct, loops, Or.inr ?_⟩
    apply element.resolve_left
    intro got
    rw [notYet] at got
    cases got.1

theorem wellFormedAfter_element {progress : Progress} {subscripts : List Byte} :
    WellFormedAfter progress (.element subscripts :: clauses) ↔
      (progress.gotelement = false ∧
          subscripts = progress.slice.bounds.map Bound.loopVariable) ∧
        WellFormedAfter (progress.after (.element subscripts)) clauses := by
  have noElement : (Clause.element subscripts).element? = none := rfl
  have indexes : (Clause.element subscripts).subscripts? = some subscripts := rfl
  have noBound : (Clause.element subscripts).bound? = none := rfl
  have got : (progress.after (.element subscripts)).gotelement = true := rfl
  rw [wellFormedAfter_iff, wellFormedAfter_iff, List.filterMap_cons_none noElement,
    List.filterMap_cons_some indexes, boundsOf_cons, noBound, endsInElement_element, got,
    Option.toList_none, List.nil_append]
  constructor
  · intro formed
    obtain ⟨struct, loops, element⟩ := formed
    have ends := element.resolve_left fun got => List.cons_ne_nil _ _ got.2.1
    exact ⟨⟨ends.1, ends.2.1⟩, struct, loops, Or.inl ⟨rfl, ends.2.2⟩⟩
  · intro formed
    obtain ⟨⟨notYet, same⟩, struct, loops, element⟩ := formed
    have last := element.resolve_right fun later => Bool.noConfusion later.1
    exact ⟨struct, loops, Or.inr ⟨notYet, same, last.2⟩⟩

theorem wellFormedAfter_cons {progress : Progress} {clause : Clause} :
    WellFormedAfter progress (clause :: clauses) ↔
      clause.Allowed progress ∧ WellFormedAfter (progress.after clause) clauses := by
  cases clause with
  | struct described => exact wellFormedAfter_struct
  | loop loopVariable range => exact wellFormedAfter_loop
  | element subscripts => exact wellFormedAfter_element
  | _ => exact wellFormedAfter_anywhere trivial rfl rfl rfl rfl rfl rfl

theorem runs_iff {progress : Progress} (few : progress.slice.bounds.length ≤ maxDimensions) :
    (∃ final, Runs progress clauses final ∧ Finished final) ↔ WellFormedAfter progress clauses := by
  induction clauses generalizing progress with
  | nil =>
      constructor
      · intro ends
        obtain ⟨final, same, finished⟩ := ends
        subst same
        constructor
        · rw [finished.struct]
          rfl
        · have loops := finished.loops
          rw [boundsOf, List.filterMap_nil, List.append_nil]
          omega
        · exact Or.inl ⟨finished.element, rfl, rfl⟩
      · intro formed
        have struct := formed.struct
        have loops := formed.loops
        rw [boundsOf, List.filterMap_nil, List.append_nil] at loops
        refine ⟨progress, rfl, ?_, by omega, ?_⟩
        · cases got : progress.gotstruct with
          | true => rfl
          | false =>
              rw [got] at struct
              cases struct
        · cases formed.element with
          | inl got => exact got.1
          | inr ends => exact absurd ends.2 not_endsInElement_nil
  | cons clause clauses ih =>
      rw [wellFormedAfter_cons]
      constructor
      · intro ends
        obtain ⟨final, ⟨allowed, runs⟩, finished⟩ := ends
        exact ⟨allowed, (ih (Progress.after_few few allowed)).mp ⟨final, runs, finished⟩⟩
      · intro formed
        obtain ⟨final, runs, finished⟩ := (ih (Progress.after_few few formed.1)).mpr formed.2
        exact ⟨final, ⟨formed.1, runs⟩, finished⟩

end Order

/-! ## What is recorded -/

/-- The last thing that is said, or what was there before. -/
def lastOr {Content Kept : Type} (contents : List Content) (keep : Content → Kept)
    (before : Option Kept) : Option Kept :=
  (contents.getLast?.map keep).or before

theorem lastOr_cons {Content Kept : Type} (content : Content) (contents : List Content)
    (keep : Content → Kept) (before : Option Kept) :
    lastOr (content :: contents) keep before = lastOr contents keep (some (keep content)) := by
  rw [lastOr, lastOr, List.getLast?_cons]
  cases contents.getLast? <;> rfl

def keptName (name : Name) : List Byte := CString.contents name.name

/-- What the clauses record over what was there before them. -/
def recordedAfter (slice : Slice) (clauses : List Clause) : Slice :=
  (clauses.filterMap Clause.element?).foldl Element.record
    { slice with
      schemaname := lastOr (clauses.filterMap Clause.schema?) keptName slice.schemaname
      relationname := lastOr (clauses.filterMap Clause.relation?) keptName slice.relationname
      fieldname := lastOr (clauses.filterMap Clause.field?) keptName slice.fieldname
      relationid := lastOr (clauses.filterMap Clause.rid?) id slice.relationid
      fieldid := lastOr (clauses.filterMap Clause.fid?) id slice.fieldid
      bounds := slice.bounds ++ boundsOf clauses }

theorem recordedAfter_cons (progress : Progress) (clause : Clause) (clauses : List Clause) :
    recordedAfter progress.slice (clause :: clauses) =
      recordedAfter (progress.after clause).slice clauses := by
  cases clause with
  | struct described => cases described <;> rfl
  | schema name =>
      simp only [recordedAfter, List.filterMap_cons, Clause.schema?, lastOr_cons]
      rfl
  | relation name =>
      simp only [recordedAfter, List.filterMap_cons, Clause.relation?, lastOr_cons]
      rfl
  | field name =>
      simp only [recordedAfter, List.filterMap_cons, Clause.field?, lastOr_cons]
      rfl
  | rid id =>
      simp only [recordedAfter, List.filterMap_cons, Clause.rid?, lastOr_cons]
      rfl
  | fid id =>
      simp only [recordedAfter, List.filterMap_cons, Clause.fid?, lastOr_cons]
      rfl
  | loop loopVariable range =>
      simp only [recordedAfter, boundsOf_cons, ← List.append_assoc]
      rfl
  | element subscripts => rfl

theorem Runs.slice {progress final : Progress} {clauses : List Clause}
    (runs : Runs progress clauses final) : final.slice = recordedAfter progress.slice clauses := by
  induction clauses generalizing progress with
  | nil =>
      have same : final = progress := runs
      rw [same]
      simp [recordedAfter, lastOr, boundsOf]
  | cons clause clauses ih =>
      rw [recordedAfter_cons]
      exact ih runs.2

theorem recordedAfter_init (clauses : List Clause) :
    recordedAfter .init clauses = recorded CString.contents clauses := by
  have kept : (fun name : Name => CString.contents name.name) = keptName := rfl
  simp [recordedAfter, recorded, lastOr, Slice.init, kept]

/-! ## All of it -/

theorem wellFormedAfter_start (clauses : List Clause) :
    WellFormedAfter .start clauses ↔ WellFormed clauses := by
  constructor
  · intro formed
    constructor
    · exact formed.struct
    · exact formed.loops
    · exact (formed.element.resolve_left fun got => Bool.noConfusion got.1).2
  · intro formed
    constructor
    · exact formed.struct
    · exact formed.loops
    · exact Or.inr ⟨rfl, formed.element⟩

theorem finish_accepted_iff {sdl : List Byte} {progress : Progress} {ptr stop : Nat} {slice : Slice} :
    finish sdl progress ptr = .accepted slice stop ↔
      ptr = sdl.length ∧ Finished progress ∧ progress.slice = slice ∧ ptr = stop := by
  by_cases isEnd : ptr = sdl.length
  case neg => simp [finish, isEnd]
  case pos =>
    by_cases finished : Finished progress
    case pos =>
      have struct := finished.struct
      have loops := List.length_eq_zero_iff.not.mp finished.loops
      have element := finished.element
      simp [finish, isEnd, struct, loops, element, finished]
    case neg =>
      apply iff_of_false
      · intro accepted
        apply finished
        rw [finish, if_neg (not_not.mpr isEnd)] at accepted
        split at accepted
        case isTrue => cases accepted
        case isFalse struct =>
          split at accepted
          case isTrue => cases accepted
          case isFalse loops =>
            split at accepted
            case isTrue => cases accepted
            case isFalse element =>
              exact ⟨Bool.of_not_eq_false struct, loops, Bool.of_not_eq_false element⟩
      · intro parts
        exact finished parts.2.1

theorem finish_settles (sdl : List Byte) (progress : Progress) (ptr : Nat) :
    (finish sdl progress ptr).Settles := by
  rw [finish]
  split
  case isTrue => exact Or.inr ⟨_, rfl⟩
  case isFalse =>
    split
    case isTrue => exact Or.inr ⟨_, rfl⟩
    case isFalse =>
      split
      case isTrue => exact Or.inr ⟨_, rfl⟩
      case isFalse =>
        split
        case isTrue => exact Or.inr ⟨_, rfl⟩
        case isFalse => exact Or.inl ⟨_, _, rfl⟩

/-- A description is accepted exactly if it is well formed, and what is recorded is what it says, with
names as C strings. -/
theorem parse_exactly (sdl : List Byte) : ParsedExactly CString.contents sdl := by
  by_cases empty : sdl = []
  case pos =>
    have refused : parse sdl = .refused "empty SDL" := by rw [parse, parsePasses, if_pos empty]
    have settles : (parse sdl).Settles := Or.inr ⟨_, refused⟩
    constructor
    · exact settles.ne_outside
    · exact settles.ne_running
    · intro slice stop
      apply iff_of_false
      · intro accepted
        rw [refused] at accepted
        cases accepted
      · intro described
        obtain ⟨_, clauses, _, written, _⟩ := described
        rw [empty] at written
        cases written
  case neg =>
    have reads := reads_parseVersion sdl.length
    have accepts := reads.accepts [] sdl (Nat.lt_succ_self _)
    have settles := reads.settles [] sdl (Nat.lt_succ_self _)
    rw [List.nil_append, List.length_nil] at settles accepts
    have ends : (parse sdl).Settles := by
      rw [parse, parsePasses, if_neg empty]
      cases settles with
      | inl accepted =>
          obtain ⟨progress, ptr, begun⟩ := accepted
          rw [begun]
          exact finish_settles sdl progress ptr
      | inr refused =>
          obtain ⟨error, begun⟩ := refused
          rw [begun]
          exact Or.inr ⟨error, rfl⟩
    constructor
    · exact ends.ne_outside
    · exact ends.ne_running
    · intro slice stop
      rw [parse, parsePasses, if_neg empty]
      constructor
      · intro accepted
        cases settles with
        | inr refused =>
            obtain ⟨error, begun⟩ := refused
            rw [begun] at accepted
            cases accepted
        | inl begins =>
            obtain ⟨progress, ptr, begun⟩ := begins
            rw [begun] at accepted
            obtain ⟨isEnd, finished, same, stops⟩ := finish_accepted_iff.mp accepted
            obtain ⟨bytes, rest, split, ptrIs, clauses, written, runs⟩ := (accepts progress ptr).mp begun
            have nothing : rest = [] := by
              rw [isEnd, split, List.length_append] at ptrIs
              exact List.length_eq_zero_iff.mp (by omega)
            rw [nothing, List.append_nil] at split
            refine ⟨stops.symm.trans isEnd, clauses, ?_, split.trans written, ?_⟩
            · rw [← wellFormedAfter_start]
              exact (runs_iff (Nat.zero_le _)).mp ⟨progress, runs, finished⟩
            · rw [← same, runs.slice]
              exact recordedAfter_init clauses
      · intro described
        obtain ⟨stops, clauses, formed, written, same⟩ := described
        obtain ⟨final, runs, finished⟩ :=
          (runs_iff (Nat.zero_le _)).mpr ((wellFormedAfter_start clauses).mpr formed)
        have begun := (accepts final sdl.length).mpr
          ⟨sdl, [], (List.append_nil sdl).symm, (Nat.zero_add _).symm, clauses, written, runs⟩
        rw [begun]
        apply finish_accepted_iff.mpr
        refine ⟨rfl, finished, ?_, stops.symm⟩
        rw [same, runs.slice]
        exact recordedAfter_init clauses

/-- A slice of booleans, of a relation with a NUL in its name. -/
def cutName : List Clause :=
  [.struct (.plain Blr.bool (by decide)), .relation ⟨[97, 0, 98], by decide⟩,
    .loop 0 (.do1 (.tiny 1)), .element [0]]

theorem wellFormed_cutName : WellFormed cutName where
  struct := by decide
  loops := by decide
  element := ⟨cutName.take 3, [0], [], rfl, rfl, rfl, rfl, rfl⟩

/-- Of such a name only what is before the NUL is recorded. -/
theorem relationname_cut : ¬∀ sdl : List Byte, ParsedExactly id sdl := by
  intro every
  have accepted := ((every (descriptionOf cutName)).accepts (recorded id cutName) _).mpr
    ⟨rfl, cutName, wellFormed_cutName, rfl, rfl⟩
  exact absurd accepted (by decide)

end SqlRelay.Firebird
