import SqlRelay.Foundation.CString
import SqlRelay.Foundation.Run

/-!
# Proxying a client

A listener that cannot pass the client on to a connection reads from either of them and writes what
it has read to the other one.  A write may accept only a part of what it is offered, and the next one
is offered the same bytes again, from the first one on.
-/

namespace SqlRelay.Handoff.Proxy

open SqlRelay.Foundation

/-! ## The source -/

inductive Side where
  | client
  | server
  deriving DecidableEq, Repr

def Side.other : Side → Side
  | .client => .server
  | .server => .client

theorem Side.other_inj {side source : Side} : side.other = source.other ↔ side = source := by
  cases side <;> cases source <;> decide

/-- What was read, and how much of it the writes say they have accepted. -/
structure Chunk where
  source : Side
  readbuffer : List Byte
  writecount : Int

/-- How the loop was left. -/
inductive Exit where
  | shutDown
  | closed (endsession : Bool)
  deriving DecidableEq, Repr

structure State where
  chunk : Option Chunk
  exit : Option Exit
  received : Side → List Byte
  delivered : Side → List Byte

/-- What the calls return. -/
inductive Event where
  /-- `getShutDownFlag` returns true. -/
  | shutDown
  /-- `listen` returns without data to read. -/
  | noData
  /-- `read` returns these bytes; none at the end, or if it fails. -/
  | read (source : Side) (bytes : List Byte)
  | write (result : Int)

/-- More bytes at a side. -/
def add (bytes : Side → List Byte) (side : Side) (more : List Byte) : Side → List Byte :=
  fun other => if other = side then bytes other ++ more else bytes other

namespace State

/-- Before the loop. -/
def start : State := ⟨none, none, fun _ => [], fun _ => []⟩

/-- `writecount+=wfd->write(readbuffer,readcount)`, and the test of the inner loop. -/
def write (state : State) (chunk : Chunk) (result : Int) : State :=
  let writecount := chunk.writecount + result
  { state with
    chunk := if writecount = chunk.readbuffer.length then none
      else some { chunk with writecount := writecount }
    delivered := add state.delivered chunk.source.other (chunk.readbuffer.take result.toNat) }

/-- The loop of `proxyClient`. -/
def step (state : State) (event : Event) : State :=
  match state.exit, state.chunk, event with
  | none, _, .shutDown => { state with exit := some .shutDown }
  | none, none, .noData => { state with exit := some (.closed true) }
  | none, none, .read source [] =>
      { state with exit := some (.closed (source = .client)) }
  | none, none, .read source bytes =>
      { state with
        chunk := some ⟨source, bytes, 0⟩
        received := add state.received source bytes }
  | none, some chunk, .write result => state.write chunk result
  -- the other calls are not made now
  | _, _, _ => state

/-! ## What is meant -/

/-- What was read from a side and was not accepted by the other one yet. -/
def pending (state : State) (side : Side) : List Byte :=
  match state.chunk with
  | none => []
  | some chunk =>
      if side = chunk.source then chunk.readbuffer.drop chunk.writecount.toNat else []

/-- Each side has got exactly what was read from the other one, but for the rest of the chunk that is
being written, of which there is some. -/
structure Lossless (state : State) : Prop where
  whole : ∀ side, state.delivered side.other ++ state.pending side = state.received side
  unfinished : ∀ chunk ∈ state.chunk,
    0 ≤ chunk.writecount ∧ chunk.writecount < chunk.readbuffer.length

/-- A write accepts between one byte and all that it is offered. -/
def Admissible (state : State) : Event → Prop
  | .write result => ∀ chunk ∈ state.chunk, 1 ≤ result ∧ result ≤ chunk.readbuffer.length
  | _ => True

/-- The bytes that a write accepts, from the start of the chunk, are the ones that are to be written
next, and there are so many of them. -/
def Repeats (state : State) : Event → Prop
  | .write result => state.exit = none → ∀ chunk ∈ state.chunk,
      chunk.writecount + result ≤ chunk.readbuffer.length ∧
        chunk.readbuffer.take result.toNat =
          (chunk.readbuffer.drop chunk.writecount.toNat).take result.toNat
  | _ => True

/-! ## One call -/

section Step

variable {state : State} {chunk : Chunk} {result : Int}

/-- What is left of a chunk is what a write accepts of it and what is left then. -/
theorem resent_iff {Symbol : Type} {buffer : List Symbol} {count more : Nat} :
    buffer.take more ++ buffer.drop (count + more) = buffer.drop count ↔
      buffer.take more = (buffer.drop count).take more := by
  have parts : (buffer.drop count).take more ++ buffer.drop (count + more) = buffer.drop count := by
    rw [← List.drop_drop, List.take_append_drop]
  constructor
  · intro whole
    exact List.append_cancel_right (whole.trans parts.symm)
  · intro same
    rw [same, parts]

theorem pending_write (side : Side) (fits : 0 ≤ chunk.writecount ∧ 0 ≤ result) :
    (state.write chunk result).pending side =
      if side = chunk.source then
        chunk.readbuffer.drop (chunk.writecount.toNat + result.toNat)
      else [] := by
  have count : (chunk.writecount + result).toNat = chunk.writecount.toNat + result.toNat :=
    Int.toNat_add fits.1 fits.2
  rw [pending, write]
  by_cases ends : chunk.writecount + result = chunk.readbuffer.length
  · have none_left : chunk.readbuffer.drop (chunk.writecount.toNat + result.toNat) = [] := by
      rw [List.drop_eq_nil_iff]
      omega
    simp [ends, none_left]
  · simp [ends, count]

theorem delivered_write (side : Side) :
    (state.write chunk result).delivered side.other =
      if side = chunk.source then
        state.delivered side.other ++ chunk.readbuffer.take result.toNat
      else state.delivered side.other := by
  rw [write]
  simp [add, Side.other_inj]

/-- A write keeps what is delivered right exactly if it accepts the next bytes of the chunk. -/
theorem lossless_write_iff (lossless : state.Lossless) (writes : state.chunk = some chunk)
    (accepts : 1 ≤ result) :
    (state.write chunk result).Lossless ↔
      chunk.writecount + result ≤ chunk.readbuffer.length ∧
        chunk.readbuffer.take result.toNat =
          (chunk.readbuffer.drop chunk.writecount.toNat).take result.toNat := by
  have unfinished := lossless.unfinished chunk (by rw [writes]; rfl)
  have fits : 0 ≤ chunk.writecount ∧ 0 ≤ result := by omega
  have received : (state.write chunk result).received = state.received := rfl
  -- what the side that the chunk goes to gets
  have source : (state.write chunk result).delivered chunk.source.other ++
        (state.write chunk result).pending chunk.source =
          (state.write chunk result).received chunk.source ↔
      chunk.readbuffer.take result.toNat =
        (chunk.readbuffer.drop chunk.writecount.toNat).take result.toNat := by
    have before := lossless.whole chunk.source
    rw [pending, writes] at before
    dsimp only at before
    rw [if_pos rfl] at before
    rw [pending_write _ fits, delivered_write, if_pos rfl, if_pos rfl, received, ← before,
      List.append_assoc, List.append_cancel_left_eq, resent_iff]
  constructor
  · intro after
    constructor
    · by_cases ends : chunk.writecount + result = chunk.readbuffer.length
      · omega
      · have left := after.unfinished { chunk with writecount := chunk.writecount + result }
          (by simp [write, ends])
        exact Int.le_of_lt left.2
    · exact source.mp (after.whole chunk.source)
  · intro repeats
    constructor
    · intro side
      by_cases own : side = chunk.source
      · rw [own]
        exact source.mpr repeats.2
      · have before := lossless.whole side
        rw [pending, writes] at before
        dsimp only at before
        rw [if_neg own] at before
        rw [pending_write _ fits, delivered_write, if_neg own, if_neg own, received]
        exact before
    · intro later isLater
      by_cases ends : chunk.writecount + result = chunk.readbuffer.length
      · simp [write, ends] at isLater
      · simp only [write, if_neg ends, Option.mem_def, Option.some.injEq] at isLater
        subst isLater
        dsimp only
        omega

theorem lossless_read (lossless : state.Lossless) (waits : state.chunk = none) (source : Side)
    {bytes : List Byte} (some_read : bytes ≠ []) :
    Lossless { state with
      chunk := some ⟨source, bytes, 0⟩
      received := add state.received source bytes } := by
  constructor
  · intro side
    have before := lossless.whole side
    rw [pending, waits] at before
    dsimp only at before
    rw [List.append_nil] at before
    by_cases own : side = source
    · subst own
      simp [pending, add, before]
    · simp [pending, add, own, before]
  · intro chunk isChunk
    rw [Option.mem_def, Option.some.injEq] at isChunk
    subst isChunk
    have positive := List.length_pos_iff.mpr some_read
    exact ⟨Int.le_refl 0, by simpa using positive⟩

theorem Lossless.leave (lossless : state.Lossless) (exit : Option Exit) :
    Lossless { state with exit := exit } :=
  ⟨lossless.whole, lossless.unfinished⟩

/-- A call keeps what is delivered right exactly if it is no write that accepts other bytes than the
next ones. -/
theorem lossless_step_iff (lossless : state.Lossless) (event : Event)
    (admissible : state.Admissible event) :
    (state.step event).Lossless ↔ state.Repeats event := by
  cases left : state.exit with
  | some exit =>
      have stays : state.step event = state := by simp [step, left]
      rw [stays]
      apply iff_of_true lossless
      cases event with
      | write result =>
          intro running
          rw [left] at running
          cases running
      | _ => trivial
  | none =>
      cases event with
      | shutDown =>
          have stops : state.step .shutDown = { state with exit := some .shutDown } := by
            simp [step, left]
          rw [stops]
          exact iff_of_true (lossless.leave _) trivial
      | noData =>
          apply iff_of_true _ trivial
          cases writes : state.chunk with
          | none =>
              have stops : state.step .noData = { state with exit := some (.closed true) } := by
                simp [step, left, writes]
              rw [stops]
              exact lossless.leave _
          | some chunk =>
              have stays : state.step .noData = state := by simp [step, left, writes]
              rw [stays]
              exact lossless
      | read source bytes =>
          apply iff_of_true _ trivial
          cases writes : state.chunk with
          | none =>
              cases bytes with
              | nil =>
                  have stops : state.step (.read source []) =
                      { state with exit := some (.closed (source = .client)) } := by
                    simp [step, left, writes]
                  rw [stops]
                  exact lossless.leave _
              | cons byte bytes =>
                  have reads := lossless_read lossless writes source (List.cons_ne_nil byte bytes)
                  simpa [step, left, writes] using reads
          | some chunk =>
              have stays : state.step (.read source bytes) = state := by simp [step, left, writes]
              rw [stays]
              exact lossless
      | write result =>
          cases writes : state.chunk with
          | none =>
              have stays : state.step (.write result) = state := by simp [step, left, writes]
              rw [stays]
              apply iff_of_true lossless
              intro _ chunk isChunk
              rw [writes] at isChunk
              cases isChunk
          | some chunk =>
              have accepts := admissible chunk (by rw [writes]; rfl)
              have written : state.step (.write result) = state.write chunk result := by
                simp [step, left, writes]
              rw [written, lossless_write_iff lossless writes accepts.1]
              simp [Repeats, left, writes]

end Step

/-! ## A run -/

theorem lossless_start : start.Lossless where
  whole _ := rfl
  unfinished _ isChunk := by cases isChunk

/-- In a run the bytes that were read from a side are delivered to the other one in order and once,
and all of them before the next ones are read, exactly if each write call accepts the bytes that are
to be written next. -/
theorem lossless_along_iff (events : List Event) (admissible : Along step Admissible start events) :
    Along step (fun state event => (state.step event).Lossless) start events ↔
      Along step Repeats start events := by
  have guarded : Along step (fun state event => state.Admissible event ∧
        (state.step event).Lossless) start events ↔
      Along step (fun state event => state.Admissible event ∧ state.Repeats event) start events := by
    apply @Along.iff_guard _ _ step _ _ Lossless _ _ start events lossless_start
    · intro state event lossless guard
      exact (lossless_step_iff lossless event guard.1).mpr guard.2
    · intro state event lossless
      constructor
      · intro met
        exact ⟨met.1, (lossless_step_iff lossless event met.1).mp met.2⟩
      · intro met
        exact ⟨met.1, (lossless_step_iff lossless event met.1).mpr met.2⟩
  rw [Along.and_iff, Along.and_iff, and_iff_right admissible, and_iff_right admissible] at guarded
  exact guarded

/-- A chunk that is accepted at once, and one that repeats its first byte. -/
def wholeChunks : List Event :=
  [.read .client (ascii "ab"), .write 2, .read .server (ascii "aa"), .write 1, .write 1]

theorem lossless_along_wholeChunks :
    Along step Admissible start wholeChunks ∧
      (Along step (fun state event => (state.step event).Lossless) start wholeChunks ↔
        Along step Repeats start wholeChunks) := by
  have admissible : Along step Admissible start wholeChunks := by
    simp [wholeChunks, Admissible, step, start, write, ascii]
  exact ⟨admissible, lossless_along_iff wholeChunks admissible⟩

/-- If a write accepts the first byte of two, the next one accepts the first byte again. -/
theorem partialWrite_repeated :
    ¬∀ events : List Event, Along step Admissible start events →
      Along step (fun state event => (state.step event).Lossless) start events := by
  intro every
  have admissible : Along step Admissible start
      [.read .client (ascii "ab"), .write 1, .write 1] := by
    simp [Admissible, step, start, write, ascii]
  have lossless := (every _ admissible).2.2.1.whole .client
  exact absurd lossless (by decide)

end State

end SqlRelay.Handoff.Proxy
