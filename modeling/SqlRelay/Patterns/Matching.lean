import SqlRelay.Patterns.Tree

/-!
# What matching makes of a text

A text is what lies between its successive matches and these matches.  Matching and replacing puts
what the nested patterns make of each match in its place, which for an empty list of them has to be the
match itself.
-/

namespace SqlRelay.Patterns

open SqlRelay.Foundation

variable {Regex : Type} (library : Library Regex)

/-! ## Matches -/

/-- The first match of a text that is not empty.  Where an empty match is found, the search goes on one
byte further. -/
inductive FirstMatch (re : Regex) : (text before chunk after : List Byte) → Prop where
  | here {text : List Byte} {bounds : Span text} (found : library.found re text = some bounds)
      (some_text : text ≠ []) (nonempty : bounds.start < bounds.stop) :
      FirstMatch re text (text.take bounds.start)
        ((text.drop bounds.start).take (bounds.stop - bounds.start)) (text.drop bounds.stop)
  | further {byte : Byte} {rest before chunk after : List Byte} {bounds : Span (byte :: rest)}
      (found : library.found re (byte :: rest) = some bounds) (empty : bounds.stop = bounds.start)
      (later : FirstMatch re rest before chunk after) :
      FirstMatch re (byte :: rest) (byte :: before) chunk after

/-- The successive matches of a text, each with what lies before it, and what is left: all of the
matches, or the first one only. -/
inductive Partition (re : Regex) (matchglobal : Bool) :
    (text : List Byte) → List (List Byte × List Byte) → (last : List Byte) → Prop where
  | done {text : List Byte}
      (unmatched : ∀ before chunk after, ¬FirstMatch library re text before chunk after) :
      Partition re matchglobal text [] text
  | once {text before chunk after : List Byte} (first : FirstMatch library re text before chunk after)
      (only : matchglobal = false) : Partition re matchglobal text [(before, chunk)] after
  | again {text before chunk after last : List Byte} {pieces : List (List Byte × List Byte)}
      (first : FirstMatch library re text before chunk after) (global : matchglobal = true)
      (others : Partition re matchglobal after pieces last) :
      Partition re matchglobal text ((before, chunk) :: pieces) last

/-- The text with something in place of each match. -/
def rendered (transform : List Byte → List Byte) (pieces : List (List Byte × List Byte))
    (last : List Byte) : List Byte :=
  pieces.flatMap (fun piece => piece.1 ++ transform piece.2) ++ last

@[simp] theorem rendered_nil (transform : List Byte → List Byte) (last : List Byte) :
    rendered transform [] last = last :=
  rfl

theorem rendered_cons (transform : List Byte → List Byte) (before chunk : List Byte)
    (pieces : List (List Byte × List Byte)) (last : List Byte) :
    rendered transform ((before, chunk) :: pieces) last =
      before ++ (transform chunk ++ rendered transform pieces last) := by
  rw [rendered, List.flatMap_cons, List.append_assoc, List.append_assoc, ← rendered]

/-- The nested patterns one after the other, which is nothing to do if there are none. -/
def Pattern.transform (p : Pattern Regex) (owner : PatternsModule) (chunk : List Byte) : List Byte :=
  applyEach library owner p.patterns chunk

/-- The matches of the text are replaced by what the nested patterns make of them, and all else of it
is kept. -/
def Replaces (owner : PatternsModule) (matchre : Regex) (p : Pattern Regex) (str : List Byte) : Prop :=
  ∃ pieces last, Partition library matchre p.matchglobal str pieces last ∧
    rendered id pieces last = str ∧
    matchAndReplace library owner matchre p str = rendered (p.transform library owner) pieces last

/-! ## Their shape -/

section Shape

variable {library} {re : Regex} {text before chunk after : List Byte}

theorem Span.parts (bounds : Span text) : text.take bounds.start ++
    ((text.drop bounds.start).take (bounds.stop - bounds.start) ++ text.drop bounds.stop) = text := by
  have ordered := bounds.ordered
  have behind : text.drop bounds.stop =
      (text.drop bounds.start).drop (bounds.stop - bounds.start) := by
    rw [List.drop_drop, Nat.add_sub_cancel' ordered]
  rw [behind, List.take_append_drop, List.take_append_drop]

theorem FirstMatch.text_eq (first : FirstMatch library re text before chunk after) :
    before ++ (chunk ++ after) = text := by
  induction first with
  | here found some_text nonempty => exact Span.parts _
  | further found empty later ih => rw [List.cons_append, ih]

theorem FirstMatch.chunk_ne_nil (first : FirstMatch library re text before chunk after) :
    chunk ≠ [] := by
  induction first with
  | @here text bounds found some_text nonempty =>
      have inside := bounds.inside
      apply List.ne_nil_of_length_pos
      rw [List.length_take, List.length_drop]
      omega
  | further found empty later ih => exact ih

theorem FirstMatch.length_lt (first : FirstMatch library re text before chunk after) :
    after.length < text.length := by
  have lengths := congrArg List.length first.text_eq
  have positive := List.length_pos_of_ne_nil first.chunk_ne_nil
  simp only [List.length_append] at lengths
  omega

theorem Partition.rendered_id {matchglobal : Bool} {pieces : List (List Byte × List Byte)}
    {last : List Byte} (partition : Partition library re matchglobal text pieces last) :
    rendered id pieces last = text := by
  induction partition with
  | done unmatched => rfl
  | once first only => rw [rendered_cons, rendered_nil, id, first.text_eq]
  | again first global others ih => rw [rendered_cons, ih, id, first.text_eq]

/-- There is a match among the pieces if there is one in the text. -/
theorem Partition.pieces_eq_nil_iff {matchglobal : Bool} {pieces : List (List Byte × List Byte)}
    {last : List Byte} (partition : Partition library re matchglobal text pieces last) :
    pieces = [] ↔ ∀ before chunk after, ¬FirstMatch library re text before chunk after := by
  cases partition with
  | done unmatched => exact ⟨fun _ => unmatched, fun _ => rfl⟩
  | once first only =>
      apply iff_of_false (List.cons_ne_nil _ _)
      exact fun unmatched => unmatched _ _ _ first
  | again first global others =>
      apply iff_of_false (List.cons_ne_nil _ _)
      exact fun unmatched => unmatched _ _ _ first

theorem Partition.chunks_ne_nil {matchglobal : Bool} {pieces : List (List Byte × List Byte)}
    {last : List Byte} (partition : Partition library re matchglobal text pieces last) :
    ∀ piece ∈ pieces, piece.2 ≠ [] := by
  induction partition with
  | done unmatched => simp
  | once first only =>
      rw [List.forall_mem_singleton]
      exact first.chunk_ne_nil
  | again first global others ih =>
      rw [List.forall_mem_cons]
      exact ⟨first.chunk_ne_nil, ih⟩

/-- Matches that are left out are missing. -/
theorem length_rendered_nil {pieces : List (List Byte × List Byte)} (last : List Byte)
    (some_pieces : pieces ≠ []) (chunks : ∀ piece ∈ pieces, piece.2 ≠ []) :
    (rendered (fun _ => []) pieces last).length < (rendered id pieces last).length := by
  induction pieces with
  | nil => contradiction
  | cons piece pieces ih =>
      rcases piece with ⟨before, chunk⟩
      rw [List.forall_mem_cons] at chunks
      have positive : 0 < chunk.length := List.length_pos_of_ne_nil chunks.1
      have others : (rendered (fun _ => []) pieces last).length ≤ (rendered id pieces last).length := by
        cases pieces with
        | nil => exact Nat.le_refl _
        | cons other others => exact Nat.le_of_lt (ih (List.cons_ne_nil _ _) chunks.2)
      simp only [rendered_cons, List.length_append, List.length_nil, id]
      omega

end Shape

/-! ## The loop -/

section Loop

variable {library} {re : Regex} {matchglobal : Bool} {byte : Byte} {rest : List Byte}

theorem not_firstMatch_of_none {text : List Byte} (missing : library.found re text = none)
    (before chunk after : List Byte) : ¬FirstMatch library re text before chunk after := by
  intro first
  cases first with
  | here found some_text nonempty =>
      rw [missing] at found
      cases found
  | further found empty later =>
      rw [missing] at found
      cases found

theorem matchFrom_of_none (found : library.found re (byte :: rest) = none)
    (transform : List Byte → List Byte) (passed : List Byte) :
    matchFrom library re matchglobal transform passed (byte :: rest) = passed ++ byte :: rest := by
  rw [matchFrom, found]

theorem matchFrom_of_empty {bounds : Span (byte :: rest)}
    (found : library.found re (byte :: rest) = some bounds) (empty : bounds.stop = bounds.start)
    (transform : List Byte → List Byte) (passed : List Byte) :
    matchFrom library re matchglobal transform passed (byte :: rest) =
      matchFrom library re matchglobal transform (passed ++ [byte]) rest := by
  rw [matchFrom, found]
  dsimp only
  rw [if_pos empty]

theorem matchFrom_of_nonempty {bounds : Span (byte :: rest)}
    (found : library.found re (byte :: rest) = some bounds) (nonempty : bounds.stop ≠ bounds.start)
    (transform : List Byte → List Byte) (passed : List Byte) :
    matchFrom library re matchglobal transform passed (byte :: rest) =
      passed ++ ((byte :: rest).take bounds.start ++
        (transform (((byte :: rest).drop bounds.start).take (bounds.stop - bounds.start)) ++
          if matchglobal then
            matchFrom library re matchglobal transform [] ((byte :: rest).drop bounds.stop)
          else (byte :: rest).drop bounds.stop)) := by
  rw [matchFrom, found]
  dsimp only
  rw [if_neg nonempty, List.append_assoc, List.append_assoc]

/-- Behind an empty match, a byte further on, the partition is that of the rest. -/
theorem Partition.further {bounds : Span (byte :: rest)}
    {pieces : List (List Byte × List Byte)} {last : List Byte}
    (found : library.found re (byte :: rest) = some bounds) (empty : bounds.stop = bounds.start)
    (partition : Partition library re matchglobal rest pieces last) :
    ∃ pieces' last', Partition library re matchglobal (byte :: rest) pieces' last' ∧
      ∀ transform, rendered transform pieces' last' = byte :: rendered transform pieces last := by
  cases partition with
  | done unmatched =>
      refine ⟨[], byte :: rest, .done ?_, fun _ => rfl⟩
      intro before chunk after first
      cases first with
      | here found' some_text nonempty =>
          rw [found] at found'
          cases found'
          omega
      | further found' empty' later => exact unmatched _ _ _ later
  | once first only =>
      exact ⟨_, _, .once (.further found empty first) only, fun _ => rfl⟩
  | again first global others =>
      exact ⟨_, _, .again (.further found empty first) global others, fun _ => rfl⟩

/-- Whatever is made of the matches, the loop puts it in the places of the same ones. -/
theorem matchFrom_partition (library : Library Regex) (re : Regex) (matchglobal : Bool)
    (ptr : List Byte) : ∃ pieces last, Partition library re matchglobal ptr pieces last ∧
      ∀ transform passed, matchFrom library re matchglobal transform passed ptr =
        passed ++ rendered transform pieces last := by
  induction length : ptr.length using Nat.strongRecOn generalizing ptr with
  | _ count induction =>
    cases ptr with
    | nil =>
        refine ⟨[], [], .done fun before chunk after first => ?_, fun transform passed => ?_⟩
        · exact Nat.not_lt_zero _ first.length_lt
        · rw [matchFrom, rendered_nil, List.append_nil]
    | cons byte rest =>
        cases found : library.found re (byte :: rest) with
        | none => exact ⟨[], byte :: rest, .done (not_firstMatch_of_none found), matchFrom_of_none found⟩
        | some bounds =>
            by_cases empty : bounds.stop = bounds.start
            · rcases induction rest.length (by rw [← length]; simp) rest rfl with
                ⟨pieces, last, partition, outputs⟩
              rcases partition.further found empty with ⟨pieces', last', partition', shifts⟩
              refine ⟨pieces', last', partition', fun transform passed => ?_⟩
              rw [matchFrom_of_empty found empty, outputs, shifts, List.append_assoc,
                List.singleton_append]
            · have ordered := bounds.ordered
              have first : FirstMatch library re (byte :: rest) _ _ _ :=
                .here found (List.cons_ne_nil byte rest) (by omega)
              have shorter := first.length_lt
              rw [length] at shorter
              rcases induction _ shorter _ rfl with ⟨pieces, last, partition, outputs⟩
              cases matchglobal with
              | true =>
                  refine ⟨_, last, .again first rfl partition, fun transform passed => ?_⟩
                  rw [matchFrom_of_nonempty found empty, if_pos rfl, outputs, rendered_cons,
                    List.nil_append]
              | false =>
                  refine ⟨_, _, .once first rfl, fun transform passed => ?_⟩
                  rw [matchFrom_of_nonempty found empty, if_neg Bool.false_ne_true, rendered_cons,
                    rendered_nil]

end Loop

/-! ## Replacing -/

theorem applyPatterns_of_ne_nil {owner : PatternsModule} {patterns : List (Pattern Regex)}
    (some_patterns : patterns ≠ []) (str : List Byte) :
    applyPatterns library owner patterns str = applyEach library owner patterns str := by
  rw [applyPatterns, List.isEmpty_eq_false_iff.mpr some_patterns]
  rfl

/-- A query keeps what is matched unless there is a match and nothing nested that it is handed to. -/
theorem replaces_iff (matchre : Regex) (p : Pattern Regex) (str : List Byte) :
    Replaces library .queryTranslation matchre p str ↔
      p.patterns ≠ [] ∨ ∀ before chunk after, ¬FirstMatch library matchre str before chunk after := by
  rcases matchFrom_partition library matchre p.matchglobal str with ⟨pieces, last, partition, outputs⟩
  constructor
  · rintro ⟨pieces', last', partition', whole, replaced⟩
    by_cases none_nested : p.patterns = []
    · right
      rw [← partition.pieces_eq_nil_iff]
      by_cases some_pieces : pieces = []
      · exact some_pieces
      · have lost := length_rendered_nil last some_pieces partition.chunks_ne_nil
        have nothing : applyPatterns library .queryTranslation p.patterns = fun _ => [] := by
          funext chunk
          rw [none_nested]
          rfl
        have identity : p.transform library .queryTranslation = id := by
          funext chunk
          rw [Pattern.transform, none_nested, applyEach]
          rfl
        rw [matchAndReplace, outputs, nothing, identity, whole, List.nil_append] at replaced
        rw [replaced, partition.rendered_id] at lost
        exact absurd lost (Nat.lt_irrefl _)
    · exact Or.inl none_nested
  · intro kept
    refine ⟨pieces, last, partition, partition.rendered_id, ?_⟩
    rw [matchAndReplace, outputs, List.nil_append]
    rcases kept with some_nested | unmatched
    · have same : applyPatterns library .queryTranslation p.patterns =
          p.transform library .queryTranslation := by
        funext chunk
        exact applyPatterns_of_ne_nil library some_nested chunk
      rw [same]
    · rw [partition.pieces_eq_nil_iff.mpr unmatched]
      rfl

/-- The match of a pattern with nothing nested in it is gone. -/
theorem not_replaces_nothingNested : ¬Replaces literalLibrary .queryTranslation (ascii "a")
    ⟨some (ascii "a"), true, none, none, true, false, none, false, .query, []⟩ (ascii "ab") := by
  rintro ⟨pieces, last, partition, whole, replaced⟩
  have gone : matchAndReplace literalLibrary .queryTranslation (ascii "a")
      ⟨some (ascii "a"), true, none, none, true, false, none, false, .query, []⟩ (ascii "ab") =
        ascii "b" := by
    have text : ascii "ab" = [97, 98] := by decide
    have first : literalLibrary.found (ascii "a") [97, 98] =
        some ⟨0, 1, by decide, by decide⟩ := rfl
    have second : literalLibrary.found (ascii "a") [98] = none := rfl
    rw [matchAndReplace, text, matchFrom_of_nonempty first (by decide), if_pos rfl, List.drop_one,
      List.tail_cons, matchFrom_of_none second]
    rfl
  have identity : Pattern.transform literalLibrary ⟨some (ascii "a"), true, none, none, true, false,
      none, false, .query, []⟩ .queryTranslation = id := by
    funext chunk
    rw [Pattern.transform, applyEach]
    rfl
  rw [gone, identity, whole] at replaced
  exact absurd replaced (by decide)

end SqlRelay.Patterns
