import SqlRelay.Foundation.CString

/-!
# Parsing a buffer along a pointer

A parser walks over a buffer with a pointer.  It accepts with a value or refuses with an error.  A byte
that it loads may also lie outside of the buffer, and a loop may not have come to its end in the
passes that it was given.

What a parser accepts is described by a relation between the values and the bytes that stand for
them.  The description of a parser is built from those of its parts.
-/

namespace SqlRelay.Foundation

universe u

/-- What parsing comes to. -/
inductive Parsed (Value : Type u) where
  | accepted (value : Value) (ptr : Nat)
  | refused (error : String)
  | outside
  | running
deriving DecidableEq

namespace Parsed

variable {Value : Type u} {parsed : Parsed Value}

/-- The parser has come to an end, and has kept to the buffer. -/
def Settles (parsed : Parsed Value) : Prop :=
  (∃ value stop, parsed = .accepted value stop) ∨ ∃ error, parsed = .refused error

theorem Settles.ne_outside (settles : parsed.Settles) : parsed ≠ .outside := by
  intro outside
  subst outside
  cases settles with
  | inl accepted =>
      obtain ⟨value, stop, same⟩ := accepted
      cases same
  | inr refused =>
      obtain ⟨error, same⟩ := refused
      cases same

theorem Settles.ne_running (settles : parsed.Settles) : parsed ≠ .running := by
  intro running
  subst running
  cases settles with
  | inl accepted =>
      obtain ⟨value, stop, same⟩ := accepted
      cases same
  | inr refused =>
      obtain ⟨error, same⟩ := refused
      cases same

end Parsed

/-- A parser gets the buffer and where the pointer is in it. -/
def Parser (Value : Type) := List Byte → Nat → Parsed Value

namespace Parser

variable {Value Other : Type}

def bind (first : Parser Value) (next : Value → Parser Other) : Parser Other := fun buffer ptr =>
  match first buffer ptr with
  | .accepted value ptr => next value buffer ptr
  | .refused error => .refused error
  | .outside => .outside
  | .running => .running

instance : Monad Parser where
  pure value := fun _ ptr => .accepted value ptr
  bind := bind

def refuse (error : String) : Parser Value := fun _ _ => .refused error

def require (condition : Prop) [Decidable condition] (error : String) : Parser Unit :=
  if condition then pure () else refuse error

/-- Loads so many bytes, without a look at where the buffer ends. -/
def load (count : Nat) (value : List Byte → Value) : Parser Value := fun buffer ptr =>
  if ptr + count ≤ buffer.length then
    .accepted (value ((buffer.drop ptr).take count)) (ptr + count)
  else .outside

/-- A loop that may not make another pass. -/
def outOfPasses : Parser Value := fun _ _ => .running

/-- With fewer than `limit` bytes behind the pointer, the parser accepts exactly the bytes that
describe a value, whatever comes after them, and otherwise it refuses. -/
structure Reads (limit : Nat) (parser : Parser Value) (describes : Value → List Byte → Prop) :
    Prop where
  accepts : ∀ before rest, rest.length < limit → ∀ value stop,
    parser (before ++ rest) before.length = .accepted value stop ↔
      ∃ bytes after, rest = bytes ++ after ∧ stop = before.length + bytes.length ∧
        describes value bytes
  settles : ∀ before rest, rest.length < limit →
    (parser (before ++ rest) before.length).Settles

section Rules

variable {limit : Nat} {parser first : Parser Value} {next : Value → Parser Other}
variable {describes : Value → List Byte → Prop} {follows : Value → Other → List Byte → Prop}

theorem Reads.mono (reads : Reads limit parser describes) {smaller : Nat} (less : smaller ≤ limit) :
    Reads smaller parser describes where
  accepts before rest few := reads.accepts before rest (Nat.lt_of_lt_of_le few less)
  settles before rest few := reads.settles before rest (Nat.lt_of_lt_of_le few less)

theorem Reads.congr (reads : Reads limit parser describes) {also : Value → List Byte → Prop}
    (same : ∀ value bytes, describes value bytes ↔ also value bytes) : Reads limit parser also where
  accepts before rest few value stop := by
    rw [reads.accepts before rest few]
    simp only [same]
  settles := reads.settles

theorem reads_pure (value : Value) :
    Reads limit (pure value) (fun other bytes => value = other ∧ bytes = []) where
  accepts before rest few other stop := by
    constructor
    · intro accepted
      cases accepted
      exact ⟨[], rest, rfl, rfl, rfl, rfl⟩
    · intro described
      obtain ⟨bytes, after, _, stops, same, empty⟩ := described
      subst same empty stops
      rfl
  settles before rest _ := Or.inl ⟨value, before.length, rfl⟩

theorem reads_refuse (error : String) :
    Reads limit (refuse error : Parser Value) (fun _ _ => False) where
  accepts before rest few value stop := by
    constructor
    · intro accepted
      cases accepted
    · intro described
      obtain ⟨_, _, _, _, never⟩ := described
      exact never.elim
  settles before rest few := Or.inr ⟨error, rfl⟩

theorem reads_require (condition : Prop) [Decidable condition] (error : String) :
    Reads limit (require condition error) (fun _ bytes => condition ∧ bytes = []) := by
  by_cases met : condition
  · rw [require, if_pos met]
    apply (reads_pure ()).congr
    intro _ bytes
    simp [met]
  · rw [require, if_neg met]
    apply (reads_refuse error).congr
    intro _ bytes
    simp [met]

/-- A load of bytes that the parser has checked to be there. -/
theorem reads_load {count : Nat} {value : List Byte → Value} {error : String}
    (checked : ∀ buffer ptr, parser buffer ptr =
      if buffer.length < ptr + count then .refused error else load count value buffer ptr) :
    Reads limit parser (fun loaded bytes => bytes.length = count ∧ value bytes = loaded) where
  accepts before rest few loaded stop := by
    have taken : ((before ++ rest).drop before.length).take count = rest.take count := by
      rw [List.drop_left]
    rw [checked, List.length_append]
    by_cases enough : before.length + rest.length < before.length + count
    · rw [if_pos enough]
      apply iff_of_false
      · intro accepted
        cases accepted
      · intro described
        obtain ⟨bytes, after, split, _, length, _⟩ := described
        have lengths := congrArg List.length split
        rw [List.length_append] at lengths
        omega
    · have fits : before.length + count ≤ (before ++ rest).length := by
        rw [List.length_append]
        omega
      rw [if_neg enough, load, if_pos fits, taken, Parsed.accepted.injEq]
      constructor
      · intro same
        have length : (rest.take count).length = count := List.length_take_of_le (by omega)
        refine ⟨rest.take count, rest.drop count, (List.take_append_drop count rest).symm, ?_,
          length, same.1⟩
        rw [length]
        exact same.2.symm
      · intro described
        obtain ⟨bytes, after, split, stops, length, same⟩ := described
        have front : rest.take count = bytes := by
          rw [split, ← length, List.take_left]
        rw [front, stops, length]
        exact ⟨same, rfl⟩
  settles before rest few := by
    rw [checked, List.length_append]
    by_cases enough : before.length + rest.length < before.length + count
    · rw [if_pos enough]
      exact Or.inr ⟨error, rfl⟩
    · have fits : before.length + count ≤ (before ++ rest).length := by
        rw [List.length_append]
        omega
      rw [if_neg enough, load, if_pos fits]
      exact Or.inl ⟨_, _, rfl⟩

theorem bind_eq (buffer : List Byte) (ptr : Nat) : (first >>= next) buffer ptr =
    match first buffer ptr with
    | .accepted value ptr => next value buffer ptr
    | .refused error => .refused error
    | .outside => .outside
    | .running => .running :=
  rfl

/-- One thing after the other.  What comes later may rely on what the first part has read, and has so
many bytes fewer behind it. -/
theorem Reads.bind (reads : Reads limit first describes)
    (later : ∀ value front, describes value front →
      Reads (limit - front.length) (next value) (follows value)) :
    Reads limit (first >>= next) (fun other bytes => ∃ value front back, bytes = front ++ back ∧
      describes value front ∧ follows value other back) where
  accepts before rest few other stop := by
    rw [bind_eq]
    constructor
    · intro accepted
      cases begun : first (before ++ rest) before.length with
      | accepted value middle =>
          rw [begun] at accepted
          obtain ⟨front, after, split, stops, described⟩ :=
            (reads.accepts before rest few value middle).mp begun
          subst split stops
          rw [List.length_append] at few
          have fewer : after.length < limit - front.length := by omega
          dsimp only at accepted
          rw [← List.append_assoc, ← List.length_append] at accepted
          obtain ⟨back, last, split, stops, followed⟩ :=
            ((later value front described).accepts (before ++ front) after fewer other stop).mp accepted
          subst split stops
          refine ⟨front ++ back, last, (List.append_assoc _ _ _).symm, ?_, value, front, back, rfl,
            described, followed⟩
          simp only [List.length_append, Nat.add_assoc]
      | refused error => simp [begun] at accepted
      | outside => simp [begun] at accepted
      | running => simp [begun] at accepted
    · intro described
      obtain ⟨bytes, last, split, stops, value, front, back, parts, described, followed⟩ := described
      subst parts split stops
      have begun := (reads.accepts before _ few value (before.length + front.length)).mpr
        ⟨front, back ++ last, List.append_assoc _ _ _, rfl, described⟩
      rw [begun]
      simp only [List.length_append] at few
      have fewer : (back ++ last).length < limit - front.length := by
        rw [List.length_append]
        omega
      have goesOn := ((later value front described).accepts (before ++ front) (back ++ last) fewer other
        (before.length + front.length + back.length)).mpr
        ⟨back, last, rfl, by rw [List.length_append], followed⟩
      rw [List.length_append] at goesOn
      simpa only [List.append_assoc, List.length_append, Nat.add_assoc] using goesOn
  settles before rest few := by
    rw [bind_eq]
    cases reads.settles before rest few with
    | inl accepts =>
        obtain ⟨value, middle, begun⟩ := accepts
        rw [begun]
        obtain ⟨front, after, split, stops, described⟩ :=
          (reads.accepts before rest few value middle).mp begun
        subst split stops
        rw [List.length_append] at few
        have fewer : after.length < limit - front.length := by omega
        have settled := (later value front described).settles (before ++ front) after fewer
        simpa only [List.append_assoc, List.length_append] using settled
    | inr refuses =>
        obtain ⟨error, begun⟩ := refuses
        rw [begun]
        exact Or.inr ⟨error, rfl⟩

/-- The same, where the later part does not depend on how much is left. -/
theorem Reads.andThen (reads : Reads limit first describes)
    (later : ∀ value, Reads limit (next value) (follows value)) :
    Reads limit (first >>= next) (fun other bytes => ∃ value front back, bytes = front ++ back ∧
      describes value front ∧ follows value other back) :=
  reads.bind fun value _ _ => (later value).mono (Nat.sub_le _ _)

/-- What is made of a value that was read. -/
theorem Reads.map (reads : Reads limit first describes) (change : Value → Other) :
    Reads limit (first >>= fun value => pure (change value))
      (fun other bytes => ∃ value, describes value bytes ∧ change value = other) := by
  apply (reads.andThen fun value => reads_pure (change value)).congr
  intro other bytes
  constructor
  · intro read
    obtain ⟨value, front, back, parts, described, same, empty⟩ := read
    subst empty
    rw [List.append_nil] at parts
    subst parts
    exact ⟨value, described, same⟩
  · intro read
    obtain ⟨value, described, same⟩ := read
    exact ⟨value, bytes, [], (List.append_nil bytes).symm, described, same, rfl⟩

/-- A condition, and what is read if it is met. -/
theorem Reads.required {condition : Prop} [Decidable condition] {error : String}
    {other : Parser Other} {meets : Other → List Byte → Prop}
    (reads : condition → Reads limit other meets) :
    Reads limit (require condition error >>= fun _ => other)
      (fun value bytes => condition ∧ meets value bytes) := by
  by_cases met : condition
  · apply ((reads_require condition error).andThen fun _ => reads met).congr
    intro value bytes
    simp [met]
  · have refuses : (require condition error >>= fun _ => other) = refuse error := by
      rw [require, if_neg met]
      rfl
    rw [refuses]
    apply (reads_refuse error).congr
    intro value bytes
    simp [met]

end Rules

end Parser

end SqlRelay.Foundation
