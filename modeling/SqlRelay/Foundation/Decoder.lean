import Mathlib.Data.List.Basic

/-!
# Decoding what arrives in pieces

A decoder reads a value at a position of what is held so far.  It may find the value complete, find
that no value is there, or find that what it holds ends too early.  Whatever it makes of what is
held, more behind it does not change, unless it was short of it.

A value that arrives in pieces is then read by taking in pieces as long as the decoder is short of
them.  It comes out as it does of all the pieces at once, and every piece was needed.
-/

namespace SqlRelay.Foundation

universe u v w

variable {Symbol : Type u} {Value : Type v} {Other : Type w} {Piece : Type*}

/-- What reading at a position comes to.  A complete value says where it stops. -/
inductive Decoded (Value : Type v) where
  | complete (value : Value) (stop : Nat)
  | malformed
  | short
deriving DecidableEq

namespace Decoded

def isShort : Decoded Value → Bool
  | complete _ _ => false
  | malformed => false
  | short => true

def bind (outcome : Decoded Value) (next : Value → Nat → Decoded Other) : Decoded Other :=
  match outcome with
  | complete value stop => next value stop
  | malformed => malformed
  | short => short

@[simp] theorem complete_isShort (value : Value) (stop : Nat) :
    (complete value stop).isShort = false := rfl

@[simp] theorem malformed_isShort : (malformed : Decoded Value).isShort = false := rfl

@[simp] theorem short_isShort : (short : Decoded Value).isShort = true := rfl

theorem isShort_iff {outcome : Decoded Value} : outcome.isShort = true ↔ outcome = short := by
  cases outcome <;> simp

@[simp] theorem complete_bind (value : Value) (stop : Nat)
    (next : Value → Nat → Decoded Other) : (complete value stop).bind next = next value stop := rfl

@[simp] theorem malformed_bind (next : Value → Nat → Decoded Other) :
    (malformed : Decoded Value).bind next = malformed := rfl

@[simp] theorem short_bind (next : Value → Nat → Decoded Other) :
    (short : Decoded Value).bind next = short := rfl

end Decoded

/-- Reads a value at a position.  Only a decoder that is short looks at what comes behind, and only
what lies before its stop, which is not beyond what is held, decides a value. -/
structure Decoder (Symbol : Type u) (Value : Type v) where
  run : List Symbol → Nat → Decoded Value
  settled : ∀ held more position, (run held position).isShort = false →
    run (held ++ more) position = run held position
  frugal : ∀ held position value stop, run held position = .complete value stop →
    position ≤ stop ∧ run (held.take stop) position = .complete value stop
  inside : ∀ held position value stop, run held position = .complete value stop →
    position ≤ held.length → stop ≤ held.length

namespace Decoder

/-- A value that takes nothing. -/
def pure (value : Value) : Decoder Symbol Value where
  run _ position := .complete value position
  settled _ _ _ _ := rfl
  frugal _ _ _ _ found := by
    cases found
    exact ⟨Nat.le_refl _, rfl⟩
  inside _ _ _ _ found within := by
    cases found
    exact within

/-- No value. -/
def fail : Decoder Symbol Value where
  run _ _ := .malformed
  settled _ _ _ _ := rfl
  frugal _ _ _ _ found := nomatch found
  inside _ _ _ _ found := nomatch found

def takeAt (held : List Symbol) (position count : Nat) : Decoded (List Symbol) :=
  if position + count ≤ held.length then
    .complete ((held.drop position).take count) (position + count)
  else .short

theorem takeAt_eq_complete {held : List Symbol} {position count stop : Nat}
    {taken : List Symbol} : takeAt held position count = .complete taken stop ↔
      position + count ≤ held.length ∧ (held.drop position).take count = taken ∧
        position + count = stop := by
  unfold takeAt
  split
  case isTrue enough => simp [enough]
  case isFalse beyond => simp [beyond]

theorem takeAt_append {held : List Symbol} {position count : Nat} (more : List Symbol)
    (enough : position + count ≤ held.length) :
    takeAt (held ++ more) position count = takeAt held position count := by
  have inside : position ≤ held.length := by omega
  have within : count ≤ (held.drop position).length := by
    rw [List.length_drop]
    omega
  have longer : position + count ≤ (held ++ more).length := by
    rw [List.length_append]
    omega
  rw [takeAt, takeAt, if_pos enough, if_pos longer, List.drop_append_of_le_length inside,
    List.take_append_of_le_length within]

theorem takeAt_settled (held more : List Symbol) (position count : Nat)
    (enough : (takeAt held position count).isShort = false) :
    takeAt (held ++ more) position count = takeAt held position count := by
  apply takeAt_append
  apply Decidable.of_not_not
  intro beyond
  rw [takeAt, if_neg beyond] at enough
  cases enough

theorem takeAt_frugal (held : List Symbol) (position count : Nat) (taken : List Symbol)
    (stop : Nat) (found : takeAt held position count = .complete taken stop) :
    position ≤ stop ∧ takeAt (held.take stop) position count = .complete taken stop := by
  have parts := takeAt_eq_complete.mp found
  have length : (held.take stop).length = stop := by
    rw [List.length_take]
    omega
  have enough : position + count ≤ (held.take stop).length := by omega
  constructor
  · omega
  · rw [← takeAt_append (held.drop stop) enough, List.take_append_drop]
    exact found

/-- So many symbols. -/
def take (count : Nat) : Decoder Symbol (List Symbol) where
  run held position := takeAt held position count
  settled held more position := takeAt_settled held more position count
  frugal held position := takeAt_frugal held position count
  inside held position taken stop found _ := by
    have parts := takeAt_eq_complete.mp found
    omega

section Bind

variable (first : Decoder Symbol Value) (next : Value → Decoder Symbol Other)

theorem bind_settled (held more : List Symbol) (position : Nat)
    (enough : ((first.run held position).bind fun value => (next value).run held).isShort =
      false) :
    ((first.run (held ++ more) position).bind fun value => (next value).run (held ++ more)) =
      (first.run held position).bind fun value => (next value).run held := by
  cases found : first.run held position with
  | short =>
    rw [found] at enough
    cases enough
  | malformed =>
    have settled := first.settled held more position (by rw [found]; rfl)
    rw [settled, found]
    rfl
  | complete value stop =>
    have settled := first.settled held more position (by rw [found]; rfl)
    rw [found] at enough
    rw [settled, found]
    exact (next value).settled held more stop enough

/-- A decoder that has found its value finds it in all that goes at least so far. -/
theorem run_take {held : List Symbol} {position stop : Nat} {value : Value} (length : Nat)
    (found : first.run held position = .complete value stop) (far : stop ≤ length) :
    first.run (held.take length) position = .complete value stop := by
  have frugal := (first.frugal held position value stop found).2
  have parts : held.take stop ++ (held.drop stop).take (length - stop) = held.take length := by
    rw [← List.take_add]
    congr 1
    omega
  rw [← parts, first.settled _ _ _ (by rw [frugal]; rfl), frugal]

theorem bind_frugal (held : List Symbol) (position : Nat) (value : Other) (stop : Nat)
    (found : ((first.run held position).bind fun value => (next value).run held) =
      .complete value stop) :
    position ≤ stop ∧ ((first.run (held.take stop) position).bind fun value =>
      (next value).run (held.take stop)) = .complete value stop := by
  cases begun : first.run held position with
  | short =>
    rw [begun] at found
    cases found
  | malformed =>
    rw [begun] at found
    cases found
  | complete early middle =>
    rw [begun] at found
    have forth := first.frugal held position early middle begun
    have back := (next early).frugal held middle value stop found
    constructor
    · exact Nat.le_trans forth.1 back.1
    · rw [first.run_take stop begun back.1]
      exact back.2

theorem bind_inside (held : List Symbol) (position : Nat) (value : Other) (stop : Nat)
    (found : ((first.run held position).bind fun value => (next value).run held) =
      .complete value stop) (within : position ≤ held.length) : stop ≤ held.length := by
  cases begun : first.run held position with
  | short =>
    rw [begun] at found
    cases found
  | malformed =>
    rw [begun] at found
    cases found
  | complete early middle =>
    rw [begun] at found
    exact (next early).inside held middle value stop found
      (first.inside held position early middle begun within)

/-- One value and then, depending on it, another. -/
def bind : Decoder Symbol Other where
  run held position := (first.run held position).bind fun value => (next value).run held
  settled := first.bind_settled next
  frugal := first.bind_frugal next
  inside := first.bind_inside next

theorem bind_run (held : List Symbol) (position : Nat) : (first.bind next).run held position =
    (first.run held position).bind fun value => (next value).run held := rfl

end Bind

/-- What a value stands for. -/
def map (change : Value → Other) (decoder : Decoder Symbol Value) : Decoder Symbol Other :=
  decoder.bind fun value => pure (change value)

theorem map_run (change : Value → Other) (decoder : Decoder Symbol Value) (held : List Symbol)
    (position : Nat) : (decoder.map change).run held position =
      (decoder.run held position).bind fun value => .complete (change value) := rfl

theorem map_take_run (change : List Symbol → Other) (count : Nat) (held : List Symbol)
    (position : Nat) : ((take count).map change).run held position =
      if position + count ≤ held.length then
        .complete (change ((held.drop position).take count)) (position + count)
      else .short := by
  rw [map_run, take]
  simp only [takeAt]
  split <;> rfl

section UntilNone

/-- Every item takes at least one symbol, and ends in what is held. -/
def Advances (item : Decoder Symbol (Option Value)) : Prop :=
  ∀ held position value stop, item.run held position = .complete (some value) stop →
    position < stop ∧ stop ≤ held.length

def untilNoneAt {item : Decoder Symbol (Option Value)} (advances : item.Advances)
    (held : List Symbol) (position : Nat) : Decoded (List Value) :=
  match _ : item.run held position with
  | .complete none stop => .complete [] stop
  | .complete (some value) stop =>
      (untilNoneAt advances held stop).bind fun values => .complete (value :: values)
  | .malformed => .malformed
  | .short => .short
termination_by held.length - position
decreasing_by
  have further := advances held position value stop ‹_›
  omega

variable {item : Decoder Symbol (Option Value)} (advances : item.Advances)

theorem untilNoneAt_eq (held : List Symbol) (position : Nat) :
    untilNoneAt advances held position = (item.run held position).bind fun value stop =>
      match value with
      | none => .complete [] stop
      | some value =>
          (untilNoneAt advances held stop).bind fun values => .complete (value :: values) := by
  rw [untilNoneAt]
  split
  case h_1 stop found => rw [found, Decoded.complete_bind]
  case h_2 value stop found => rw [found, Decoded.complete_bind]
  case h_3 found => rw [found, Decoded.malformed_bind]
  case h_4 found => rw [found, Decoded.short_bind]

theorem untilNoneAt_settled (held more : List Symbol) (position : Nat)
    (enough : (untilNoneAt advances held position).isShort = false) :
    untilNoneAt advances (held ++ more) position = untilNoneAt advances held position := by
  induction position using untilNoneAt.induct advances held with
  | case1 position stop found =>
    rw [untilNoneAt_eq, untilNoneAt_eq, item.settled held more position (by rw [found]; rfl), found]
    rfl
  | case2 position value stop found induction =>
    rw [untilNoneAt_eq, found, Decoded.complete_bind] at enough
    rw [untilNoneAt_eq, untilNoneAt_eq, item.settled held more position (by rw [found]; rfl), found,
      Decoded.complete_bind, Decoded.complete_bind]
    have rest : (untilNoneAt advances held stop).isShort = false := by
      cases later : untilNoneAt advances held stop with
      | short =>
        rw [later] at enough
        cases enough
      | malformed => rfl
      | complete values stop => rfl
    rw [induction rest]
  | case3 position found =>
    rw [untilNoneAt_eq, untilNoneAt_eq, item.settled held more position (by rw [found]; rfl), found]
    rfl
  | case4 position found =>
    rw [untilNoneAt_eq, found] at enough
    cases enough

theorem untilNoneAt_frugal (held : List Symbol) (position : Nat) (values : List Value)
    (stop : Nat) (found : untilNoneAt advances held position = .complete values stop) :
    position ≤ stop ∧ untilNoneAt advances (held.take stop) position = .complete values stop := by
  induction position using untilNoneAt.induct advances held generalizing values with
  | case1 position last ended =>
    rw [untilNoneAt_eq, ended, Decoded.complete_bind] at found
    have frugal := item.frugal _ _ _ _ ended
    cases found
    constructor
    · exact frugal.1
    · rw [untilNoneAt_eq, frugal.2]
      rfl
  | case2 position value middle begun induction =>
    rw [untilNoneAt_eq, begun, Decoded.complete_bind] at found
    cases later : untilNoneAt advances held middle with
    | short =>
      rw [later] at found
      cases found
    | malformed =>
      rw [later] at found
      cases found
    | complete rest last =>
      rw [later] at found
      cases found
      have back := induction rest later
      have further := advances held position value middle begun
      constructor
      · omega
      · rw [untilNoneAt_eq, item.run_take stop begun back.1, Decoded.complete_bind, back.2]
        rfl
  | case3 position stuck =>
    rw [untilNoneAt_eq, stuck] at found
    cases found
  | case4 position stuck =>
    rw [untilNoneAt_eq, stuck] at found
    cases found

theorem untilNoneAt_inside (held : List Symbol) (position : Nat) (values : List Value)
    (stop : Nat) (found : untilNoneAt advances held position = .complete values stop)
    (within : position ≤ held.length) : stop ≤ held.length := by
  induction position using untilNoneAt.induct advances held generalizing values with
  | case1 position last ended =>
    rw [untilNoneAt_eq, ended, Decoded.complete_bind] at found
    cases found
    exact item.inside held position none _ ended within
  | case2 position value middle begun induction =>
    have further := advances held position value middle begun
    rw [untilNoneAt_eq, begun, Decoded.complete_bind] at found
    cases later : untilNoneAt advances held middle with
    | short =>
      rw [later] at found
      cases found
    | malformed =>
      rw [later] at found
      cases found
    | complete rest last =>
      rw [later] at found
      cases found
      exact induction rest later further.2
  | case3 position stuck =>
    rw [untilNoneAt_eq, stuck] at found
    cases found
  | case4 position stuck =>
    rw [untilNoneAt_eq, stuck] at found
    cases found

/-- Items, up to the one that says there are no more. -/
def untilNone : Decoder Symbol (List Value) where
  run := untilNoneAt advances
  settled := untilNoneAt_settled advances
  frugal := untilNoneAt_frugal advances
  inside := untilNoneAt_inside advances

/-- What follows an item: nothing, or the rest of them. -/
def moreItems : Option Value → Decoder Symbol (List Value)
  | none => pure []
  | some value => (untilNone advances).map (value :: ·)

theorem untilNone_run (held : List Symbol) (position : Nat) :
    (untilNone advances).run held position = (item.bind (moreItems advances)).run held position := by
  rw [untilNone]
  simp only
  rw [untilNoneAt_eq, bind_run]
  congr 1
  funext value stop
  cases value <;> rfl

end UntilNone

end Decoder

/-! ## Taking in pieces -/

section Pull

variable (body : Piece → List Symbol)

/-- Takes in pieces for as long as more is needed and there are any. -/
def pull (needs : List Symbol → Bool) : List Symbol → List Piece → List Symbol × List Piece
  | held, [] => (held, [])
  | held, piece :: coming =>
      if needs held then pull needs (held ++ body piece) coming else (held, piece :: coming)

variable {body} {needs : List Symbol → Bool} {held : List Symbol} {coming : List Piece}

theorem pull_of_enough (body : Piece → List Symbol) (coming : List Piece)
    (enough : needs held = false) : pull body needs held coming = (held, coming) := by
  cases coming <;> simp [pull, enough]

@[simp] theorem pull_nil : pull body needs held [] = (held, []) := rfl

theorem pull_cons_of_needs {piece : Piece} (short : needs held = true) :
    pull body needs held (piece :: coming) = pull body needs (held ++ body piece) coming := by
  rw [pull, if_pos short]

section Whole

variable (body) (needs) (held) (coming)

/-- Nothing is lost or reordered. -/
theorem pull_append : (pull body needs held coming).1 ++
    (pull body needs held coming).2.flatMap body = held ++ coming.flatMap body := by
  induction coming generalizing held with
  | nil => rfl
  | cons piece coming induction =>
    rw [pull]
    split
    · rw [induction, List.flatMap_cons, List.append_assoc]
    · rfl

/-- In the end there is enough, or nothing left to take in. -/
theorem pull_enough : needs (pull body needs held coming).1 = false ∨
    (pull body needs held coming).2 = [] := by
  induction coming generalizing held with
  | nil => exact .inr rfl
  | cons piece coming induction =>
    rw [pull]
    split
    case isTrue => exact induction _
    case isFalse enough => exact .inl (Bool.eq_false_iff.mpr enough)

/-- Each piece was taken in because what was held before it was not enough. -/
theorem pull_asked : ∃ taken, coming = taken ++ (pull body needs held coming).2 ∧
    (pull body needs held coming).1 = held ++ taken.flatMap body ∧
    ∀ before piece after, taken = before ++ piece :: after →
      needs (held ++ before.flatMap body) = true := by
  induction coming generalizing held with
  | nil => exact ⟨[], rfl, by simp, by simp⟩
  | cons piece coming induction =>
    rw [pull]
    split
    case isTrue short =>
      cases induction (held ++ body piece) with
      | intro taken parts =>
        refine ⟨piece :: taken, ?_, ?_, ?_⟩
        · rw [List.cons_append, ← parts.1]
        · rw [parts.2.1, List.flatMap_cons, List.append_assoc]
        · intro before other after split
          cases before with
          | nil => simpa using short
          | cons first before =>
            have heads := List.cons.inj split
            have asked := parts.2.2 before other after heads.2
            rwa [heads.1, List.append_assoc, ← List.flatMap_cons] at asked
    case isFalse => exact ⟨[], rfl, by simp, by simp⟩

end Whole

/-- What is needed first is needed anyway. -/
theorem pull_pull (body : Piece → List Symbol) (held : List Symbol) (coming : List Piece)
    {first : List Symbol → Bool} (sooner : ∀ held, first held = true → needs held = true) :
    pull body needs (pull body first held coming).1 (pull body first held coming).2 =
      pull body needs held coming := by
  induction coming generalizing held with
  | nil => rfl
  | cons piece coming induction =>
    cases short : first held with
    | false => rw [pull_of_enough body _ short]
    | true => rw [pull_cons_of_needs short, pull_cons_of_needs (sooner held short), induction]

theorem pull_congr {other : List Symbol → Bool}
    (same : ∀ more, needs (held ++ more) = other (held ++ more)) :
    pull body needs held coming = pull body other held coming := by
  induction coming generalizing held with
  | nil => rfl
  | cons piece coming induction =>
    have here := same []
    rw [List.append_nil] at here
    rw [pull, pull, here, induction]
    intro more
    rw [List.append_assoc]
    exact same (body piece ++ more)

end Pull

namespace Decoder

variable (decoder : Decoder Symbol Value)

/-- What is held ends before the value does. -/
def shortAt (position : Nat) (held : List Symbol) : Bool := (decoder.run held position).isShort

theorem map_shortAt (change : Value → Other) (position : Nat) (held : List Symbol) :
    (decoder.map change).shortAt position held = decoder.shortAt position held := by
  rw [shortAt, shortAt, map_run]
  cases decoder.run held position <;> rfl

theorem take_shortAt (count position : Nat) (held : List Symbol) :
    (take count).shortAt position held = decide (held.length < position + count) := by
  rw [shortAt, take]
  simp only [takeAt]
  split
  case isTrue enough => rw [decide_eq_false (by omega), Decoded.complete_isShort]
  case isFalse beyond => rw [decide_eq_true (by omega), Decoded.short_isShort]

variable (body : Piece → List Symbol)

/-- What is held, and what is still to come, once a value has been read. -/
def pulled (position : Nat) (held : List Symbol) (coming : List Piece) :
    List Symbol × List Piece :=
  pull body (decoder.shortAt position) held coming

variable {body} {decoder} {position : Nat} {held : List Symbol} {coming : List Piece}

/-- Read from the pieces or from all of it at once, a value comes out the same. -/
theorem run_pulled : decoder.run (decoder.pulled body position held coming).1 position =
    decoder.run (held ++ coming.flatMap body) position := by
  have whole := pull_append body (decoder.shortAt position) held coming
  cases pull_enough body (decoder.shortAt position) held coming with
  | inl enough => rw [← whole, decoder.settled _ _ _ enough, pulled]
  | inr used =>
    rw [used] at whole
    rw [← whole, List.flatMap_nil, List.append_nil, pulled]

/-- What was too short for a value ends before the value does. -/
theorem length_lt_of_short {held more : List Symbol} {value : Value} {stop : Nat}
    (short : decoder.shortAt position held = true)
    (found : decoder.run (held ++ more) position = .complete value stop) :
    held.length < stop := by
  apply Decidable.of_not_not
  intro within
  have frugal := (decoder.frugal _ _ _ _ found).2
  rw [List.take_append_of_le_length (by omega)] at frugal
  have settled := decoder.settled (held.take stop) (held.drop stop) position (by rw [frugal]; rfl)
  rw [List.take_append_drop, frugal] at settled
  rw [shortAt, settled] at short
  cases short

variable (next : Value → Decoder Symbol Other)

/-- A value that was found is read before the one that depends on it. -/
theorem pulled_bind {value : Value} {stop : Nat}
    (found : decoder.run (decoder.pulled body position held coming).1 position =
      .complete value stop) :
    (decoder.bind next).pulled body position held coming =
      (next value).pulled body stop (decoder.pulled body position held coming).1
        (decoder.pulled body position held coming).2 := by
  have sooner : ∀ held, decoder.shortAt position held = true →
      (decoder.bind next).shortAt position held = true := by
    intro held short
    rw [shortAt, bind_run, Decoded.isShort_iff.mp short]
    rfl
  rw [pulled, ← pull_pull body held coming sooner]
  apply pull_congr
  intro more
  have settled := decoder.settled _ more position (by rw [found]; rfl)
  rw [found] at settled
  rw [pulled] at settled
  rw [shortAt, bind_run, settled]
  rfl

/-- Where no value is found, there is none to depend on it. -/
theorem pulled_bind_of_not_complete
    (stuck : ∀ value stop, decoder.run (decoder.pulled body position held coming).1 position ≠
      .complete value stop) :
    (decoder.bind next).pulled body position held coming =
      decoder.pulled body position held coming := by
  have sooner : ∀ held, decoder.shortAt position held = true →
      (decoder.bind next).shortAt position held = true := by
    intro held short
    rw [shortAt, bind_run, Decoded.isShort_iff.mp short]
    rfl
  cases found : decoder.run (decoder.pulled body position held coming).1 position with
  | complete value stop => exact absurd found (stuck value stop)
  | malformed =>
    rw [pulled, ← pull_pull body held coming sooner]
    apply pull_of_enough
    rw [pulled] at found
    rw [shortAt, bind_run, found]
    rfl
  | short =>
    have used : (decoder.pulled body position held coming).2 = [] := by
      cases pull_enough body (decoder.shortAt position) held coming with
      | inl enough =>
        have short := Decoded.isShort_iff.mpr found
        rw [pulled] at short
        rw [shortAt, short] at enough
        cases enough
      | inr used => exact used
    rw [pulled, ← pull_pull body held coming sooner]
    rw [pulled] at used
    rw [used]
    rw [pull_nil, pulled, ← used]

/-! ## Round trips -/

/-- Reads such symbols, with anything before and behind them, as the value, and stops behind them. -/
def Reads (decoder : Decoder Symbol Value) (value : Value) (written : List Symbol) : Prop :=
  ∀ before following, decoder.run (before ++ (written ++ following)) before.length =
    .complete value (before.length + written.length)

namespace Reads

variable {written front back : List Symbol} {value : Value} {other : Other}
variable {next : Value → Decoder Symbol Other}

theorem pure (value : Value) : (Decoder.pure value).Reads value ([] : List Symbol) :=
  fun _ _ => rfl

theorem bind (reads : decoder.Reads value front) (later : (next value).Reads other back) :
    (decoder.bind next).Reads other (front ++ back) := by
  intro before following
  have rest := later (before ++ front) following
  rw [List.append_assoc, List.length_append] at rest
  rw [bind_run, List.append_assoc, reads before, Decoded.complete_bind, rest, List.length_append,
    Nat.add_assoc]

theorem map (reads : decoder.Reads value written) (change : Value → Other) :
    (decoder.map change).Reads (change value) written := by
  intro before following
  rw [map_run, reads before, Decoded.complete_bind]

theorem take (written : List Symbol) : (Decoder.take written.length).Reads written written := by
  intro before following
  apply takeAt_eq_complete.mpr
  refine ⟨?_, ?_, rfl⟩
  · rw [List.length_append, List.length_append]
    omega
  · rw [List.drop_left, List.take_left]

section UntilNone

variable {item : Decoder Symbol (Option Value)} (advances : item.Advances)

theorem untilNone_nil (last : item.Reads none written) :
    (untilNone advances).Reads [] written := by
  intro before following
  rw [untilNone_run, bind_run, last before]
  rfl

theorem untilNone_cons {values : List Value} (first : item.Reads (some value) front)
    (rest : (untilNone advances).Reads values back) :
    (untilNone advances).Reads (value :: values) (front ++ back) := by
  have more : (moreItems advances (some value)).Reads (value :: values) back := rest.map _
  intro before following
  rw [untilNone_run]
  exact first.bind more before following

end UntilNone

end Reads

end Decoder

end SqlRelay.Foundation
