import SqlRelay.Foundation.ByteOrder

/-!
# Values on the wire

A receiver takes a value from the front of what comes in, and fails where there is too little of it.
It reads what was written when it takes exactly that, whatever comes in behind it.
-/

namespace SqlRelay.Foundation

variable {Value Other State : Type}

/-- The value, and what is still to come in. -/
def Receiver (Value : Type) := List Byte → Option (Value × List Byte)

namespace Receiver

def bind (first : Receiver Value) (next : Value → Receiver Other) : Receiver Other := fun stream =>
  match first stream with
  | some (value, rest) => next value rest
  | none => none

instance : Monad Receiver where
  pure value := fun stream => some (value, stream)
  bind := bind

def fail : Receiver Value := fun _ => none

def bytes (count : Nat) : Receiver (List Byte) := fun stream =>
  if count ≤ stream.length then some (stream.take count, stream.drop count) else none

/-- A number of so many bytes, most significant first. -/
def number (size : Nat) : Receiver Nat := do
  let bytes ← bytes size
  pure (ByteOrder.big.read bytes)

def short : Receiver UInt16 := do
  let value ← number 2
  pure (UInt16.ofNat value)

def long : Receiver UInt32 := do
  let value ← number 4
  pure (UInt32.ofNat value)

def longLong : Receiver UInt64 := do
  let value ← number 8
  pure (UInt64.ofNat value)

def bool : Receiver Bool := do
  let value ← number 1
  pure (value != 0)

/-- One round after the other, until one gives a result. -/
def rounds (round : State → Receiver (Value ⊕ State)) : Nat → State → Receiver Value
  | 0, _ => fail
  | fuel + 1, state => do
      match ← round state with
      | .inl value => pure value
      | .inr state => rounds round fuel state

/-- Every round but the last one takes something, so that there are no more rounds than bytes. -/
def repeatedly (round : State → Receiver (Value ⊕ State)) (state : State) : Receiver Value :=
  fun stream => rounds round (stream.length + 1) state stream

theorem bind_eq_some_iff {first : Receiver Value} {next : Value → Receiver Other} {stream : List Byte}
    {result : Other × List Byte} : (first >>= next) stream = some result ↔
      ∃ value rest, first stream = some (value, rest) ∧ next value rest = some result := by
  change Receiver.bind first next stream = some result ↔ _
  unfold Receiver.bind
  cases first stream with
  | none => simp
  | some taken =>
      obtain ⟨value, rest⟩ := taken
      simp

end Receiver

/-! ## What is written -/

namespace Wire

def short (value : UInt16) : List Byte := ByteOrder.big.write 2 value.toNat
def long (value : UInt32) : List Byte := ByteOrder.big.write 4 value.toNat
def longLong (value : UInt64) : List Byte := ByteOrder.big.write 8 value.toNat
def bool (value : Bool) : List Byte := ByteOrder.big.write 1 value.toNat

theorem short_ne_nil (value : UInt16) : short value ≠ [] := by
  apply List.ne_nil_of_length_pos
  rw [short, ByteOrder.length_write]
  omega

end Wire

/-- The receiver takes exactly what was written, and gives this value for it. -/
def Reads (receiver : Receiver Value) (value : Value) (written : List Byte) : Prop :=
  ∀ rest, receiver (written ++ rest) = some (value, rest)

namespace Reads

variable {first : Receiver Value} {next : Value → Receiver Other} {front back : List Byte}
variable {value : Value} {other : Other}

theorem pure (value : Value) : Reads (pure value) value [] := by
  intro rest
  rfl

theorem bind (reads : Reads first value front) (later : Reads (next value) other back) :
    Reads (first >>= next) other (front ++ back) := by
  intro rest
  change Receiver.bind first next _ = _
  rw [Receiver.bind, List.append_assoc, reads]
  exact later rest

theorem map (reads : Reads first value front) (change : Value → Other) :
    Reads (first >>= fun value => Pure.pure (change value)) (change value) front := by
  have read : Reads (first >>= fun value => Pure.pure (change value)) (change value) (front ++ []) :=
    reads.bind (pure (change value))
  rwa [List.append_nil] at read

theorem bytes (written : List Byte) : Reads (Receiver.bytes written.length) written written := by
  intro rest
  have enough : written.length ≤ (written ++ rest).length := by simp
  rw [Receiver.bytes, if_pos enough, List.take_left, List.drop_left]

theorem number {size value : Nat} (fits : value < 256 ^ size) :
    Reads (Receiver.number size) value (ByteOrder.big.write size value) := by
  have read := bytes (ByteOrder.big.write size value)
  rw [ByteOrder.length_write] at read
  have whole := read.map ByteOrder.big.read
  rwa [ByteOrder.read_write _ fits] at whole

theorem short (value : UInt16) : Reads Receiver.short value (Wire.short value) := by
  have read := (@number 2 _ value.toNat_lt).map UInt16.ofNat
  rwa [UInt16.ofNat_toNat] at read

theorem long (value : UInt32) : Reads Receiver.long value (Wire.long value) := by
  have read := (@number 4 _ value.toNat_lt).map UInt32.ofNat
  rwa [UInt32.ofNat_toNat] at read

theorem longLong (value : UInt64) : Reads Receiver.longLong value (Wire.longLong value) := by
  have read := (@number 8 _ value.toNat_lt).map UInt64.ofNat
  rwa [UInt64.ofNat_toNat] at read

theorem bool (value : Bool) : Reads Receiver.bool value (Wire.bool value) := by
  cases value with
  | false => exact (@number 1 0 (by omega)).map (· != 0)
  | true => exact (@number 1 1 (by omega)).map (· != 0)

/-- A receiver gives one value only. -/
theorem unique {receiver : Receiver Value} {value other : Value} {written : List Byte}
    (reads : Reads receiver value written) (also : Reads receiver other written) : value = other := by
  have first := reads []
  have second := also []
  rw [first] at second
  cases second
  rfl

end Reads

/-! ## Rounds -/

section Rounds

variable {round : State → Receiver (Value ⊕ State)} {state after : State} {value : Value}
variable {front back : List Byte}

/-- One round after the other reads this, the last one of which gives the value. -/
inductive Rounds (round : State → Receiver (Value ⊕ State)) (value : Value) :
    State → List Byte → Prop where
  | last {state : State} {written : List Byte} (reads : Reads (round state) (.inl value) written) :
      Rounds round value state written
  | next {state after : State} {front back : List Byte}
      (reads : Reads (round state) (.inr after) front) (takes : front ≠ [])
      (later : Rounds round value after back) : Rounds round value state (front ++ back)

theorem rounds_of_last {written : List Byte} (reads : Reads (round state) (.inl value) written)
    (fuel : Nat) : Reads (Receiver.rounds round (fuel + 1) state) value written := by
  have read : Reads (Receiver.rounds round (fuel + 1) state) value (written ++ []) :=
    reads.bind (Reads.pure value)
  rwa [List.append_nil] at read

theorem rounds_of_next {fuel : Nat} (reads : Reads (round state) (.inr after) front)
    (later : Reads (Receiver.rounds round fuel after) value back) :
    Reads (Receiver.rounds round (fuel + 1) state) value (front ++ back) :=
  reads.bind later

theorem Rounds.reads_rounds {written : List Byte} (rounds : Rounds round value state written) :
    ∀ fuel, written.length < fuel → Reads (Receiver.rounds round fuel state) value written := by
  induction rounds with
  | last reads =>
      intro fuel enough
      cases fuel with
      | zero => omega
      | succ fuel => exact rounds_of_last reads fuel
  | @next state after front back reads takes _ induction =>
      intro fuel enough
      cases fuel with
      | zero => omega
      | succ fuel =>
          apply rounds_of_next reads
          apply induction
          have taken := List.length_pos_of_ne_nil takes
          rw [List.length_append] at enough
          omega

/-- There are enough rounds for whatever comes in. -/
theorem Rounds.reads {written : List Byte} (rounds : Rounds round value state written) :
    Reads (Receiver.repeatedly round state) value written := by
  intro rest
  apply rounds.reads_rounds
  rw [List.length_append]
  omega

end Rounds

end SqlRelay.Foundation
