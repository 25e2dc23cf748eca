import SqlRelay.Mysql.Lifecycle

/-!
# Which parameters are bound as they were sent

The module binds what the client has encoded if the packet holds all of it, no type that is read in a
way of its own carries the unsigned flag, and the numbers of a date fit the fields that they are kept
in.  How many parameters there are, and their types, it remembers by the id of the cursor.
-/

namespace SqlRelay.Mysql

open SqlRelay.Foundation SqlRelay.Cursors

/-- The parts of a date fit in a `char`, or in an `int16_t` or `int32_t`.  The days of a time, which
has no month, have an `int16_t`. -/
def BindVar.Fits : BindVar → Prop
  | .date year month day hour minute second microsecond _ =>
      year < 32768 ∧ month < 128 ∧ (month = -1 → day < 32768) ∧ (month ≠ -1 → day < 128) ∧
        hour < 128 ∧ minute < 128 ∧ second < 128 ∧ microsecond < 2147483648
  | _ => True

/-- A type that is read as a string, whatever its flag. -/
def isStringType (code : Nat) : Bool :=
  (integerSize code).isNone && code != 0x04 && code != 0x05 && code != 0x0b && code != 0x0a &&
    code != 0x0c && code != 0x07 && !isBlobType code

/-- A type without flags, or one that is read as a string anyway. -/
def Plain (ptype : Nat) : Prop := ptype < 256 ∨ isStringType (ptype % 256) = true

/-- The reader has read what was before `rest`, and nothing behind the buffer. -/
structure Reads (packet : Buffer) (reader next : Reader) (rest : List Byte) : Prop where
  here : Reader.At packet next rest
  inside : next.inside = reader.inside

variable {packet : Buffer} {reader : Reader}

theorem reads_advance {front rest : List Byte} (here : Reader.At packet reader (front ++ rest)) :
    Reads packet reader (reader.advance front.length) rest where
  here := here.advance
  inside := rfl

theorem splitExactly_eq_some {count : Nat} {bytes front rest : List Byte}
    (split : splitExactly count bytes = some (front, rest)) :
    bytes = front ++ rest ∧ front.length = count := by
  simp only [splitExactly] at split
  split at split
  · next enough =>
      cases split
      simp [enough]
  · cases split

theorem readChar_eq {byte : Byte} {rest : List Byte} (here : Reader.At packet reader (byte :: rest)) :
    readChar packet reader = (signed 8 byte.toNat, reader.advance 1) := by
  simp [readChar, here.read_cons]

/-! ## Sizes -/

theorem byteAt_cons {byte : Byte} {rest : List Byte} (here : Reader.At packet reader (byte :: rest)) :
    packet.byteAt reader.rp = byte := by
  have split : Reader.At packet reader ([byte] ++ rest) := here
  have first := split.at_eq (i := 0) Nat.zero_lt_one
  simpa using first

theorem readLenEncInt_eq {bytes rest : List Byte} {size : Nat}
    (here : Reader.At packet reader bytes) (decoded : decodeSize bytes = some (size, rest)) :
    ∃ next, readLenEncInt packet reader = some (size, next) ∧ Reads packet reader next rest := by
  cases bytes with
  | nil => cases decoded
  | cons marker bytes =>
      have length := here.length
      simp only [List.length_cons] at length
      have some_left : ¬packet.bytes.length - reader.rp = 0 := by omega
      have byte := byteAt_cons here
      -- The bytes after the marker are all in the packet.
      have wide : ∀ {count}, (splitExactly count bytes).map
            (fun split => (littleEndian split.1, split.2)) = some (size, rest) →
          ¬packet.bytes.length - reader.rp < count + 1 ∧
            (littleEndian (Reader.read packet reader (count + 1)).1.tail = size) ∧
            Reads packet reader (Reader.read packet reader (count + 1)).2 rest := by
        intro count found
        cases split : splitExactly count bytes with
        | none => simp [split] at found
        | some parts =>
            obtain ⟨front, back⟩ := parts
            simp only [split, Option.map_some, Option.some.injEq, Prod.mk.injEq] at found
            obtain ⟨same, isCount⟩ := splitExactly_eq_some split
            have whole : Reader.At packet reader ((marker :: front) ++ rest) := by
              rw [List.cons_append, ← found.2, ← same]
              exact here
            have isLength : (marker :: front).length = count + 1 := by simp [isCount]
            have read := whole.read
            rw [isLength] at read
            have bytesLength := congrArg List.length same
            rw [List.length_append] at bytesLength
            refine ⟨by omega, ?_, ?_⟩
            · rw [read]
              exact found.1
            · rw [read, ← isLength]
              exact reads_advance whole
      simp only [decodeSize] at decoded
      simp only [readLenEncInt, some_left, if_false, byte]
      split at decoded
      · next small =>
          cases decoded
          have notFe : marker ≠ 0xfe := by
            intro same
            subst same
            exact absurd small (by decide)
          have notFd : marker ≠ 0xfd := by
            intro same
            subst same
            exact absurd small (by decide)
          have notFc : marker ≠ 0xfc := by
            intro same
            subst same
            exact absurd small (by decide)
          rw [if_neg notFe, if_neg notFd, if_neg notFc]
          exact ⟨_, rfl, ⟨here.advance_cons, rfl⟩⟩
      · split at decoded
        · next isFc =>
            obtain ⟨enough, isSize, reads⟩ := wide decoded
            subst isFc
            exact ⟨_, by simp [enough, isSize], reads⟩
        · split at decoded
          · next isFd =>
              obtain ⟨enough, isSize, reads⟩ := wide decoded
              subst isFd
              exact ⟨_, by simp [enough, isSize], reads⟩
          · split at decoded
            · next isFe =>
                obtain ⟨enough, isSize, reads⟩ := wide decoded
                subst isFe
                exact ⟨_, by simp [enough, isSize], reads⟩
            · cases decoded

theorem readSized_eq {bytes body rest : List Byte} (here : Reader.At packet reader bytes)
    (decoded : decodeSized bytes = some (body, rest)) :
    ∃ next, readSized packet reader = some (body, next) ∧ Reads packet reader next rest := by
  simp only [decodeSized] at decoded
  split at decoded
  · cases decoded
  · next size after isSize =>
      obtain ⟨next, read, reads⟩ := readLenEncInt_eq here isSize
      obtain ⟨same, length⟩ := splitExactly_eq_some decoded
      have whole : Reader.At packet next (body ++ rest) := same ▸ reads.here
      have fits := whole.length
      rw [List.length_append] at fits
      have enough : ¬size > packet.bytes.length - next.rp := by omega
      have body_eq := whole.read
      rw [length] at body_eq
      refine ⟨next.advance size, by simp [readSized, read, enough, body_eq], ?_⟩
      have advanced := reads_advance whole
      rw [length] at advanced
      exact ⟨advanced.here, advanced.inside.trans reads.inside⟩

/-- A fixed number of bytes. -/
theorem read_eq {count : Nat} {bytes front rest : List Byte} (here : Reader.At packet reader bytes)
    (split : splitExactly count bytes = some (front, rest)) :
    Reader.read packet reader count = (front, reader.advance count) ∧
      Reads packet reader (reader.advance count) rest := by
  obtain ⟨same, length⟩ := splitExactly_eq_some split
  subst same
  have read := here.read
  have reads := reads_advance here
  rw [length] at read reads
  exact ⟨read, reads⟩

/-! ## Dates and times -/

theorem signed_char {byte : Byte} (small : (byte.toNat : Int) < 128) :
    signed 8 byte.toNat = byte.toNat := by
  apply signed_of_lt
  omega

theorem readChar_small {byte : Byte} {rest : List Byte}
    (here : Reader.At packet reader (byte :: rest)) (small : (byte.toNat : Int) < 128) :
    readChar packet reader = ((byte.toNat : Int), reader.advance 1) := by
  rw [readChar_eq here, signed_char small]

theorem signed_char_eq_zero {byte : Byte} : signed 8 byte.toNat = 0 ↔ byte = 0 := by
  have same : BitVec.ofNat 8 byte.toNat = byte.toBitVec := by simp
  rw [signed, same]
  constructor
  · intro zero
    have bits : byte.toBitVec = 0 := BitVec.toInt_inj.mp zero
    exact UInt8.toBitVec_inj.mp bits
  · intro zero
    subst zero
    rfl

/-- The hour, the minute and the second of a time or a datetime. -/
theorem read_clock {hour minute second : Byte} {after : List Byte}
    (here : Reader.At packet reader (hour :: minute :: second :: after))
    (hours : (hour.toNat : Int) < 128) (minutes : (minute.toNat : Int) < 128)
    (seconds : (second.toNat : Int) < 128) :
    readChar packet reader = ((hour.toNat : Int), reader.advance 1) ∧
      readChar packet (reader.advance 1) = ((minute.toNat : Int), (reader.advance 1).advance 1) ∧
      readChar packet ((reader.advance 1).advance 1) =
        ((second.toNat : Int), ((reader.advance 1).advance 1).advance 1) ∧
      Reader.At packet (((reader.advance 1).advance 1).advance 1) after := by
  have atMinute := here.advance_cons
  have atSecond := atMinute.advance_cons
  exact ⟨readChar_small here hours, readChar_small atMinute minutes,
    readChar_small atSecond seconds, atSecond.advance_cons⟩

/-- The microseconds behind them. -/
theorem read_microseconds {bytes ms rest : List Byte} (here : Reader.At packet reader bytes)
    (split : splitExactly 4 bytes = some (ms, rest)) (few : (littleEndian ms : Int) < 2147483648) :
    Reader.read packet reader 4 = (ms, reader.advance 4) ∧
      signed 32 (littleEndian ms) = littleEndian ms ∧
      Reader.At packet (reader.advance 4) rest := by
  obtain ⟨read, reads⟩ := read_eq here split
  have small : 2 * littleEndian ms < 2 ^ 32 := by omega
  exact ⟨read, signed_of_lt small, reads.here⟩

/-- The sign and the days at the head of a time. -/
theorem read_days {size isneg d0 d1 d2 d3 : Byte} {after : List Byte}
    (here : Reader.At packet reader (size :: isneg :: d0 :: d1 :: d2 :: d3 :: after))
    (days : (littleEndian [d0, d1, d2, d3] : Int) < 32768) :
    readChar packet (reader.advance 1) = (signed 8 isneg.toNat, (reader.advance 1).advance 1) ∧
      Reader.read packet ((reader.advance 1).advance 1) 4 =
        ([d0, d1, d2, d3], ((reader.advance 1).advance 1).advance 4) ∧
      signed 16 (littleEndian [d0, d1, d2, d3]) = littleEndian [d0, d1, d2, d3] ∧
      Reader.At packet (((reader.advance 1).advance 1).advance 4) after := by
  have atSign := here.advance_cons
  have atDays : Reader.At packet ((reader.advance 1).advance 1) ([d0, d1, d2, d3] ++ after) :=
    atSign.advance_cons
  have small : 2 * littleEndian [d0, d1, d2, d3] < 2 ^ 16 := by omega
  exact ⟨readChar_eq atSign, atDays.read, signed_of_lt small, atDays.advance⟩

theorem signed_char_bne_zero (byte : Byte) : (signed 8 byte.toNat != 0) = (byte != 0) := by
  rw [Bool.eq_iff_iff]
  simp [signed_char_eq_zero]

theorem readTime_eq {bytes rest : List Byte} {value : BindVar}
    (here : Reader.At packet reader bytes) (decoded : decodeTime bytes = some (value, rest))
    (fits : value.Fits) :
    (readTime packet reader).1 = value ∧ Reads packet reader (readTime packet reader).2 rest := by
  cases bytes with
  | nil => cases decoded
  | cons size bytes =>
      simp only [decodeTime] at decoded
      split at decoded
      · next zero =>
          cases decoded
          subst zero
          have read := readChar_eq here
          have isZero : signed 8 (0 : Byte).toNat = 0 := by decide
          simp only [readTime, read, isZero, if_true]
          exact ⟨trivial, here.advance_cons, rfl⟩
      · split at decoded
        · next isneg d0 d1 d2 d3 hour minute second after =>
            split at decoded
            · next eight =>
                cases decoded
                subst eight
                obtain ⟨_, _, day, _, hours, minutes, seconds, _⟩ := fits
                obtain ⟨readSign, readDays, isDay, atHour⟩ := read_days here (day rfl)
                obtain ⟨readHour, readMinute, readSecond, atAfter⟩ :=
                  read_clock atHour hours minutes seconds
                have isEight : signed 8 (8 : Byte).toNat = 8 := by decide
                simp only [readTime, readChar_eq here, readSign, readDays, readHour, readMinute,
                  readSecond, isDay, isEight, signed_char_bne_zero]
                exact ⟨rfl, atAfter, rfl⟩
            · split at decoded
              · next twelve =>
                  cases split : splitExactly 4 after with
                  | none => simp [split] at decoded
                  | some parts =>
                      rw [split] at decoded
                      cases decoded
                      subst twelve
                      obtain ⟨_, _, day, _, hours, minutes, seconds, micros⟩ := fits
                      obtain ⟨readSign, readDays, isDay, atHour⟩ := read_days here (day rfl)
                      obtain ⟨readHour, readMinute, readSecond, atAfter⟩ :=
                        read_clock atHour hours minutes seconds
                      obtain ⟨readMs, isMs, atRest⟩ := read_microseconds atAfter split micros
                      have isTwelve : signed 8 (12 : Byte).toNat = 12 := by decide
                      simp only [readTime, readChar_eq here, readSign, readDays, readHour,
                        readMinute, readSecond, isDay, isTwelve, signed_char_bne_zero, readMs, isMs]
                      exact ⟨rfl, atRest, rfl⟩
              · cases decoded
        · cases decoded

/-- The date at the head of a date or a datetime. -/
theorem read_head {size y0 y1 month day : Byte} {after : List Byte}
    (here : Reader.At packet reader (size :: y0 :: y1 :: month :: day :: after))
    (years : (littleEndian [y0, y1] : Int) < 32768) (months : (month.toNat : Int) < 128)
    (days : (day.toNat : Int) < 128) :
    Reader.read packet (reader.advance 1) 2 = ([y0, y1], (reader.advance 1).advance 2) ∧
      signed 16 (littleEndian [y0, y1]) = littleEndian [y0, y1] ∧
      readChar packet ((reader.advance 1).advance 2) =
        ((month.toNat : Int), ((reader.advance 1).advance 2).advance 1) ∧
      readChar packet (((reader.advance 1).advance 2).advance 1) =
        ((day.toNat : Int), (((reader.advance 1).advance 2).advance 1).advance 1) ∧
      Reader.At packet ((((reader.advance 1).advance 2).advance 1).advance 1) after := by
  have atYear : Reader.At packet (reader.advance 1) ([y0, y1] ++ month :: day :: after) :=
    here.advance_cons
  have atMonth : Reader.At packet ((reader.advance 1).advance 2) (month :: day :: after) :=
    atYear.advance
  have atDay := atMonth.advance_cons
  have small : 2 * littleEndian [y0, y1] < 2 ^ 16 := by omega
  exact ⟨atYear.read, signed_of_lt small, readChar_small atMonth months,
    readChar_small atDay days, atDay.advance_cons⟩

/-- A date is encoded as nothing, as a date, or as one with a time of day and perhaps microseconds,
which only a type with time parts keeps. -/
inductive DateForm (timed : Bool) : (bytes : List Byte) → BindVar → (rest : List Byte) → Prop where
  | empty (rest : List Byte) : DateForm timed (0 :: rest)
      (let part : Int := if timed then 0 else -1
      .date 0 0 0 part part part part false) rest
  | day (y0 y1 month day : Byte) (rest : List Byte) :
      DateForm timed (4 :: y0 :: y1 :: month :: day :: rest)
        (let part : Int := if timed then 0 else -1
        .date (littleEndian [y0, y1]) month.toNat day.toNat part part part part false) rest
  | clock (y0 y1 month day hour minute second : Byte) (rest : List Byte) :
      DateForm timed (7 :: y0 :: y1 :: month :: day :: hour :: minute :: second :: rest)
        (if timed then .date (littleEndian [y0, y1]) month.toNat day.toNat hour.toNat minute.toNat
            second.toNat 0 false
          else .date (littleEndian [y0, y1]) month.toNat day.toNat (-1) (-1) (-1) (-1) false) rest
  | microseconds (y0 y1 month day hour minute second : Byte) {after ms rest : List Byte}
      (split : splitExactly 4 after = some (ms, rest)) :
      DateForm timed (11 :: y0 :: y1 :: month :: day :: hour :: minute :: second :: after)
        (if timed then .date (littleEndian [y0, y1]) month.toNat day.toNat hour.toNat minute.toNat
            second.toNat (littleEndian ms) false
          else .date (littleEndian [y0, y1]) month.toNat day.toNat (-1) (-1) (-1) (-1) false) rest

theorem dateForm_of_decodeDate {timed : Bool} {bytes rest : List Byte} {value : BindVar}
    (decoded : decodeDate timed bytes = some (value, rest)) : DateForm timed bytes value rest := by
  cases bytes with
  | nil => cases decoded
  | cons size bytes =>
      simp only [decodeDate] at decoded
      split at decoded
      · next zero =>
          cases decoded
          subst zero
          exact .empty rest
      · split at decoded
        · next y0 y1 month day after =>
            split at decoded
            · next four =>
                cases decoded
                subst four
                exact .day y0 y1 month day rest
            · split at decoded
              · next hour minute second back =>
                  split at decoded
                  · next seven =>
                      cases decoded
                      subst seven
                      cases timed <;> exact .clock y0 y1 month day hour minute second rest
                  · split at decoded
                    · next eleven =>
                        cases split : splitExactly 4 back with
                        | none => simp [split] at decoded
                        | some parts =>
                            rw [split] at decoded
                            cases decoded
                            subst eleven
                            cases timed <;>
                              exact .microseconds y0 y1 month day hour minute second split
                    · cases decoded
              · cases decoded
        · cases decoded

theorem readDate_eq {bytes rest : List Byte} {value : BindVar}
    (here : Reader.At packet reader bytes) (decoded : decodeDate false bytes = some (value, rest))
    (fits : value.Fits) :
    (readDate packet reader).1 = value ∧ Reads packet reader (readDate packet reader).2 rest := by
  cases dateForm_of_decodeDate decoded with
  | empty =>
      have isZero : signed 8 (0 : Byte).toNat = 0 := by decide
      simp only [readDate, readChar_eq here, isZero, if_true]
      exact ⟨rfl, here.advance_cons, rfl⟩
  | day y0 y1 month day =>
      have notTime : (month.toNat : Int) ≠ -1 := by omega
      obtain ⟨years, months, _, days, _⟩ := fits
      obtain ⟨readYear, isYear, readMonth, readDay, atAfter⟩ :=
        read_head here years months (days notTime)
      have isFour : signed 8 (4 : Byte).toNat = 4 := by decide
      simp only [readDate, readChar_eq here, isFour, readYear, isYear, readMonth, readDay]
      exact ⟨rfl, atAfter, rfl⟩
  | clock y0 y1 month day hour minute second =>
      have notTime : (month.toNat : Int) ≠ -1 := by omega
      obtain ⟨years, months, _, days, _⟩ := fits
      obtain ⟨readYear, isYear, readMonth, readDay, atAfter⟩ :=
        read_head here years months (days notTime)
      have atTime : Reader.At packet _ ([hour, minute, second] ++ rest) := atAfter
      have isSeven : signed 8 (7 : Byte).toNat = 7 := by decide
      simp only [readDate, readChar_eq here, isSeven, readYear, isYear, readMonth, readDay]
      exact ⟨rfl, atTime.advance, rfl⟩
  | @microseconds y0 y1 month day hour minute second after ms _ split =>
      have notTime : (month.toNat : Int) ≠ -1 := by omega
      obtain ⟨years, months, _, days, _⟩ := fits
      obtain ⟨readYear, isYear, readMonth, readDay, atAfter⟩ :=
        read_head here years months (days notTime)
      have atTime : Reader.At packet _ ([hour, minute, second] ++ after) := atAfter
      obtain ⟨_, reads⟩ := read_eq atTime.advance split
      have isEleven : signed 8 (11 : Byte).toNat = 11 := by decide
      simp only [readDate, readChar_eq here, isEleven, readYear, isYear, readMonth, readDay]
      exact ⟨rfl, reads.here, rfl⟩

theorem readDateTime_eq {bytes rest : List Byte} {value : BindVar}
    (here : Reader.At packet reader bytes) (decoded : decodeDate true bytes = some (value, rest))
    (fits : value.Fits) :
    (readDateTime packet reader).1 = value ∧
      Reads packet reader (readDateTime packet reader).2 rest := by
  cases dateForm_of_decodeDate decoded with
  | empty =>
      have isZero : signed 8 (0 : Byte).toNat = 0 := by decide
      simp only [readDateTime, readChar_eq here, isZero, if_true]
      exact ⟨trivial, here.advance_cons, rfl⟩
  | day y0 y1 month day =>
      have notTime : (month.toNat : Int) ≠ -1 := by omega
      obtain ⟨years, months, _, days, _⟩ := fits
      obtain ⟨readYear, isYear, readMonth, readDay, atAfter⟩ :=
        read_head here years months (days notTime)
      have isFour : signed 8 (4 : Byte).toNat = 4 := by decide
      simp only [readDateTime, readChar_eq here, isFour, readYear, isYear, readMonth, readDay]
      exact ⟨rfl, atAfter, rfl⟩
  | clock y0 y1 month day hour minute second =>
      have notTime : (month.toNat : Int) ≠ -1 := by omega
      obtain ⟨years, months, _, days, hours, minutes, seconds, _⟩ := fits
      obtain ⟨readYear, isYear, readMonth, readDay, atHour⟩ :=
        read_head here years months (days notTime)
      obtain ⟨readHour, readMinute, readSecond, atAfter⟩ :=
        read_clock atHour hours minutes seconds
      have isSeven : signed 8 (7 : Byte).toNat = 7 := by decide
      simp only [readDateTime, readChar_eq here, isSeven, readYear, isYear, readMonth, readDay,
        readHour, readMinute, readSecond]
      exact ⟨rfl, atAfter, rfl⟩
  | microseconds y0 y1 month day hour minute second split =>
      have notTime : (month.toNat : Int) ≠ -1 := by omega
      obtain ⟨years, months, _, days, hours, minutes, seconds, micros⟩ := fits
      obtain ⟨readYear, isYear, readMonth, readDay, atHour⟩ :=
        read_head here years months (days notTime)
      obtain ⟨readHour, readMinute, readSecond, atAfter⟩ :=
        read_clock atHour hours minutes seconds
      obtain ⟨readMs, isMs, atRest⟩ := read_microseconds atAfter split micros
      have isEleven : signed 8 (11 : Byte).toNat = 11 := by decide
      simp only [readDateTime, readChar_eq here, isEleven, readYear, isYear, readMonth, readDay,
        readHour, readMinute, readSecond, readMs, isMs]
      exact ⟨rfl, atRest, rfl⟩

/-! ## Values -/

theorem integerSize_of_large {ptype : Nat} (large : 256 ≤ ptype) : integerSize ptype = none := by
  simp only [integerSize]
  split
  all_goals first | omega | rfl

theorem isBlobType_of_large {ptype : Nat} (large : 256 ≤ ptype) : isBlobType ptype = false := by
  simp only [isBlobType, Bool.or_eq_false_iff, decide_eq_false_iff_not]
  refine ⟨⟨⟨?_, ?_⟩, ?_⟩, ?_⟩
  all_goals omega

/-- A value of a fixed number of bytes. -/
theorem read_fixed (make : List Byte → BindVar) {count : Nat} {bytes rest : List Byte}
    {value : BindVar} (here : Reader.At packet reader bytes)
    (decoded : (splitExactly count bytes).map (fun split => (make split.1, split.2)) =
      some (value, rest)) :
    make (Reader.read packet reader count).1 = value ∧
      Reads packet reader (Reader.read packet reader count).2 rest := by
  cases split : splitExactly count bytes with
  | none => simp [split] at decoded
  | some parts =>
      rw [split] at decoded
      cases decoded
      obtain ⟨read, reads⟩ := read_eq here split
      rw [read]
      exact ⟨rfl, reads⟩

/-- A value that its size precedes. -/
theorem read_varying (make : List Byte → BindVar) {bytes rest : List Byte} {value : BindVar}
    (here : Reader.At packet reader bytes)
    (decoded : (decodeSized bytes).map (fun split => (make split.1, split.2)) =
      some (value, rest)) :
    ∃ next, (readSized packet reader).map (fun read => (make read.1, read.2)) =
      some (value, next) ∧ Reads packet reader next rest := by
  cases sized : decodeSized bytes with
  | none => simp [sized] at decoded
  | some parts =>
      rw [sized] at decoded
      cases decoded
      obtain ⟨next, read, reads⟩ := readSized_eq here sized
      exact ⟨next, by rw [read, Option.map_some], reads⟩

/-- A type that carries a flag, and is read as a string. -/
theorem readValue_flagged {ptype : Nat} (large : 256 ≤ ptype)
    (isString : isStringType (ptype % 256) = true) {bytes rest : List Byte} {value : BindVar}
    (here : Reader.At packet reader bytes) (decoded : decodeValue ptype bytes = some (value, rest)) :
    ∃ next, readValue packet ptype reader = some (value, next) ∧ Reads packet reader next rest := by
  simp only [isStringType, Bool.and_eq_true, Option.isNone_iff_eq_none, bne_iff_ne, ne_eq,
    Bool.not_eq_true'] at isString
  obtain ⟨⟨⟨⟨⟨⟨⟨notInteger, not4⟩, not5⟩, notB⟩, notA⟩, notC⟩, not7⟩, notBlob⟩ := isString
  have notDateTime : ¬(ptype % 256 = 0x0c ∨ ptype % 256 = 0x07) := by omega
  simp only [decodeValue, notInteger, not4, not5, notB, notA, notDateTime, notBlob, if_false,
    Bool.false_eq_true] at decoded
  have large4 : ptype ≠ 0x04 := by omega
  have large5 : ptype ≠ 0x05 := by omega
  have largeB : ptype ≠ 0x0b := by omega
  have largeA : ptype ≠ 0x0a := by omega
  have largeDateTime : ¬(ptype = 0x0c ∨ ptype = 0x07) := by omega
  simp only [readValue, integerSize_of_large large, isBlobType_of_large large, large4, large5,
    largeB, largeA, largeDateTime, if_false, Bool.false_eq_true]
  exact read_varying .string here decoded

/-- A type without flags. -/
theorem readValue_plain {ptype : Nat} (small : ptype < 256) {bytes rest : List Byte}
    {value : BindVar} (here : Reader.At packet reader bytes)
    (decoded : decodeValue ptype bytes = some (value, rest)) (fits : value.Fits) :
    ∃ next, readValue packet ptype reader = some (value, next) ∧ Reads packet reader next rest := by
  have code : ptype % 256 = ptype := Nat.mod_eq_of_lt small
  have isSigned : ¬0x8000 ≤ ptype := by omega
  simp only [decodeValue, code, isSigned, if_false] at decoded
  simp only [readValue]
  cases known : integerSize ptype with
  | some size =>
      simp only [known] at decoded ⊢
      obtain ⟨same, reads⟩ :=
        read_fixed (fun bytes => .integer (signed (8 * size) (littleEndian bytes))) here decoded
      exact ⟨_, by rw [← same], reads⟩
  | none =>
      simp only [known] at decoded ⊢
      split at decoded
      · next isFloat =>
          obtain ⟨same, reads⟩ := read_fixed .float here decoded
          exact ⟨_, by rw [if_pos isFloat, ← same], reads⟩
      · next notFloat =>
          rw [if_neg notFloat]
          split at decoded
          · next isDouble =>
              obtain ⟨same, reads⟩ := read_fixed .double here decoded
              exact ⟨_, by rw [if_pos isDouble, ← same], reads⟩
          · next notDouble =>
              rw [if_neg notDouble]
              split at decoded
              · next isTime =>
                  rw [if_pos isTime]
                  obtain ⟨same, reads⟩ := readTime_eq here decoded fits
                  exact ⟨_, by rw [← same], reads⟩
              · next notTime =>
                  rw [if_neg notTime]
                  split at decoded
                  · next isDate =>
                      rw [if_pos isDate]
                      obtain ⟨same, reads⟩ := readDate_eq here decoded fits
                      exact ⟨_, by rw [← same], reads⟩
                  · next notDate =>
                      rw [if_neg notDate]
                      split at decoded
                      · next isDateTime =>
                          rw [if_pos isDateTime]
                          obtain ⟨same, reads⟩ := readDateTime_eq here decoded fits
                          exact ⟨_, by rw [← same], reads⟩
                      · next notDateTime =>
                          rw [if_neg notDateTime]
                          split at decoded
                          · next isBlob =>
                              rw [if_pos isBlob]
                              exact read_varying .blob here decoded
                          · next notBlob =>
                              rw [if_neg notBlob]
                              exact read_varying .string here decoded

theorem readValue_eq {ptype : Nat} (plain : Plain ptype) {bytes rest : List Byte}
    {value : BindVar} (here : Reader.At packet reader bytes)
    (decoded : decodeValue ptype bytes = some (value, rest)) (fits : value.Fits) :
    ∃ next, readValue packet ptype reader = some (value, next) ∧ Reads packet reader next rest := by
  cases Nat.lt_or_ge ptype 256 with
  | inl small => exact readValue_plain small here decoded fits
  | inr large =>
      cases plain with
      | inl small => exact absurd small (Nat.not_lt.mpr large)
      | inr isString => exact readValue_flagged large isString here decoded

/-- A null is a null, whatever kind of null is bound. -/
def BindVar.value : BindVar → BindVar
  | .nullBlob => .null
  | bindvar => bindvar

/-- The parameters are bound as they were sent, and nothing behind the packet is read. -/
theorem bindParameters_eq {ptypes : Nat → Nat} {nullbitmap : Nat} {count i : Nat}
    {bytes : List Byte} {values : List BindVar} (here : Reader.At packet reader bytes)
    (bitmap : ∀ index, i ≤ index → index < i + count →
      nullbitmap + index / 8 < packet.bytes.length)
    (plain : ∀ index, i ≤ index → index < i + count → isNull packet nullbitmap index = false →
      Plain (ptypes index))
    (decoded : decodeParameters (isNull packet nullbitmap) ptypes count i bytes = some values)
    (fits : ∀ value ∈ values, value.Fits) :
    ∃ binds next, bindParameters packet ptypes nullbitmap count i reader = some (binds, next) ∧
      binds.map BindVar.value = values.map BindVar.value ∧ next.inside = reader.inside := by
  induction count generalizing i reader bytes values with
  | zero =>
      cases decoded
      exact ⟨[], reader, rfl, rfl, rfl⟩
  | succ count ih =>
      have bit : nullbitmap + i / 8 < packet.bytes.length := bitmap i (Nat.le_refl _) (by omega)
      have same : ({ reader with
          inside := reader.inside && decide (nullbitmap + i / 8 < packet.bytes.length) } : Reader) =
            reader := by
        simp [bit]
      have bitmapRest : ∀ index, i + 1 ≤ index → index < i + 1 + count →
          nullbitmap + index / 8 < packet.bytes.length := by
        intro index low high
        exact bitmap index (by omega) (by omega)
      have plainRest : ∀ index, i + 1 ≤ index → index < i + 1 + count →
          isNull packet nullbitmap index = false → Plain (ptypes index) := by
        intro index low high
        exact plain index (by omega) (by omega)
      simp only [bindParameters, same]
      simp only [decodeParameters] at decoded
      cases null : isNull packet nullbitmap i with
      | true =>
          rw [null, if_pos rfl] at decoded
          cases others : decodeParameters (isNull packet nullbitmap) ptypes count (i + 1) bytes with
          | none => simp [others] at decoded
          | some rest =>
              rw [others] at decoded
              cases decoded
              have fitsRest : ∀ value ∈ rest, value.Fits := by
                intro value listed
                exact fits value (List.mem_cons_of_mem _ listed)
              obtain ⟨binds, next, bound, values, inside⟩ :=
                ih here bitmapRest plainRest others fitsRest
              simp only [if_true, bound, Option.map_some]
              refine ⟨_, next, rfl, ?_, inside⟩
              simp only [List.map_cons, values, List.cons.injEq, and_true]
              cases isBlobType (ptypes i) <;> rfl
      | false =>
          rw [null, if_neg Bool.false_ne_true] at decoded
          cases first : decodeValue (ptypes i) bytes with
          | none => simp [first] at decoded
          | some parts =>
              obtain ⟨value, after⟩ := parts
              simp only [first] at decoded
              cases others : decodeParameters (isNull packet nullbitmap) ptypes count (i + 1)
                  after with
              | none => simp [others] at decoded
              | some rest =>
                  rw [others] at decoded
                  cases decoded
                  have fitsRest : ∀ value ∈ rest, value.Fits := by
                    intro value listed
                    exact fits value (List.mem_cons_of_mem _ listed)
                  obtain ⟨middle, read, reads⟩ :=
                    readValue_eq (plain i (Nat.le_refl _) (by omega) null) here first
                      (fits value List.mem_cons_self)
                  obtain ⟨binds, next, bound, values, inside⟩ :=
                    ih reads.here bitmapRest plainRest others fitsRest
                  simp only [Bool.false_eq_true, if_false, read, bound, Option.map_some]
                  refine ⟨_, next, rfl, ?_, inside.trans reads.inside⟩
                  rw [List.map_cons, List.map_cons, values]

end SqlRelay.Mysql
