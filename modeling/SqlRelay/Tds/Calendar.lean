import Mathlib.Tactic.IntervalCases
import SqlRelay.Foundation.Spans
import SqlRelay.Tds.Values

/-!
# Dates

A date goes over the wire as the number of days since the first day of 1900, or of the year 1.  Three
parts of the protocol count leap days: one walks over the years, one has a formula for them, and one
walks from the year of its epoch.
-/

namespace SqlRelay.Tds.Calendar

open SqlRelay.Foundation SqlRelay.Tds.Values

/-! ## The source -/

/-- The parts of a date and time. -/
structure DateTime where
  year : Int
  month : Int
  day : Int
  hour : Int
  minute : Int
  second : Int
  usec : Int
  tzoffset : Int
  deriving DecidableEq, Repr

/-- A parse of a text without an offset, which leaves a part that the text does not have at -1. -/
abbrev Parse := List Byte → Option DateTime

/-- The value of a digit. -/
def digitOf (byte : Byte) : Int := byte.toNat - (chr '0').toNat

/-- The offset behind the last blank, in minutes. -/
def offsetOf (behind : List Byte) : Option Int :=
  match behind with
  | [sign, hour, hour', colon, minute, minute'] =>
      if (sign = chr '+' ∨ sign = chr '-') ∧ CString.isDigit hour ∧ CString.isDigit hour' ∧
          colon = chr ':' ∧ CString.isDigit minute ∧ CString.isDigit minute' then
        let offset := (digitOf hour * 10 + digitOf hour') * 60 + (digitOf minute * 10 + digitOf minute')
        some (if sign = chr '-' then -offset else offset)
      else none
  | _ => none

/-- A part that a text does not have, or that is too small, is the least one. -/
def floored (least part : Int) : Int := if part < least then least else part

/-- `parseDateTime`: whether there is a date and time, and its parts.  The offset is split off first, and
is there even if the rest is not a date and time. -/
def parseDateTime (parse : Parse) (datetime : List Byte) : Bool × DateTime :=
  let behind := (datetime.reverse.takeWhile (· != chr ' ')).reverse
  let offset := if behind.length < datetime.length then offsetOf behind else none
  let text :=
    if offset.isSome then datetime.take (datetime.length - (behind.length + 1)) else datetime
  match parse text with
  | none => (false, ⟨1, 1, 1, 0, 0, 0, 0, offset.getD 0⟩)
  | some fields => (true, {
      year := floored 1 fields.year
      month := floored 1 fields.month
      day := floored 1 fields.day
      hour := floored 0 fields.hour
      minute := floored 0 fields.minute
      second := floored 0 fields.second
      usec := floored 0 fields.usec
      tzoffset := offset.getD 0 })

/-- The day that a leap year has more. -/
def leapDay (year : Int) : Int :=
  if year % 4 ≠ 0 then 0
  else if year % 100 ≠ 0 then 1
  else if year % 400 ≠ 0 then 0
  else 1

def threeHundredthsSince12AM (secs : Nat) (usec : Int) : Nat :=
  let ticks := secs * 300 + ((if usec < 0 then 0 else usec).toNat * 3 + 5000) / 10000
  if 25919999 < ticks then 25919999 else ticks

/-- The days of `dateTime`, and the ticks of a three-hundredth of a second. -/
def dateTimeOf (fields : DateTime) : Int × Nat :=
  let months := (mdays.take (fields.month - 1).toNat).sum
  let leapYears := ((List.range (fields.year - 1900).toNat).map fun i : Nat => leapDay (1900 + i)).sum
  let thisYear :=
    if 2 < fields.month then leapDay fields.year
    else if fields.month = 2 ∧ fields.day = 29 then 1
    else 0
  ((fields.year - 1900) * 365 + months + (fields.day - 1) + leapYears + thisYear,
    threeHundredthsSince12AM (fields.hour * 60 * 60 + fields.minute * 60 + fields.second).toNat
      fields.usec)

/-- `dateTime`.  A text that is not a date and time is sent as the epoch. -/
def dateTime (parse : Parse) (datetime : List Byte) : Int × Nat :=
  let (parsed, fields) := parseDateTime parse datetime
  if parsed then dateTimeOf fields else (0, 0)

/-- `isLeapYear` of a short year. -/
def isLeapYear16 (year : Int) : Bool :=
  if year % 4 ≠ 0 then false
  else if year % 100 ≠ 0 then true
  else year % 400 = 0

def daysSince1 (year month day : Int) : Nat :=
  let prevyears := (year - 1).toNat
  prevyears * 365 + prevyears / 4 - prevyears / 100 + prevyears / 400 +
    (mdays.take (month - 1).toNat).sum + (if 2 < month ∧ isLeapYear16 year = true then 1 else 0) +
    if 0 < day then (day - 1).toNat else 0

/-! ## The calendar -/

/-- A date of the gregorian calendar, in the years that the format has. -/
structure Date where
  year : Nat
  month : Nat
  day : Nat
  year_pos : 1 ≤ year
  year_le : year ≤ 9999
  month_pos : 1 ≤ month
  month_le : month ≤ 12
  day_pos : 1 ≤ day
  day_le : (day : Int) ≤ monthDays year month

/-- The days before a year. -/
def yearStart (year : Nat) : Int := Spans.start (fun index => yearDays (index + 1)) (year - 1)

/-- The days of a year before a month. -/
def monthStart (year month : Nat) : Int :=
  Spans.start (fun index => monthDays year (index + 1)) (month - 1)

namespace Date

/-- How many days come before a date. -/
def number (date : Date) : Int :=
  yearStart date.year + (monthStart date.year date.month + (date.day - 1))

/-- Year, month and day. -/
def text (date : Date) : List Byte :=
  zeroPadded 4 date.year ++ chr '-' :: zeroPadded 2 date.month ++ chr '-' :: zeroPadded 2 date.day

end Date

theorem yearDays_pos (year : Nat) : 0 < yearDays year := by
  rw [yearDays]
  split <;> decide

/-- The formula for the days before a year. -/
theorem yearStart_succ (count : Nat) : yearStart (count + 1) =
    ((count * 365 + count / 4 - count / 100 + count / 400 : Nat) : Int) := by
  rw [yearStart, Nat.add_sub_cancel]
  induction count with
  | zero => rfl
  | succ count induction =>
    rw [Spans.start, induction, yearDays]
    have leap : isLeapYear (count + 1) = true ↔
        (count + 1) % 4 = 0 ∧ ((count + 1) % 100 ≠ 0 ∨ (count + 1) % 400 = 0) := by
      simp [isLeapYear]
    split
    case isTrue is_leap =>
      have rule := leap.mp is_leap
      omega
    case isFalse common =>
      have rule := mt leap.mpr common
      omega

theorem monthDays_pos {year month : Nat} (some_month : 1 ≤ month) (few : month ≤ 12) :
    0 < monthDays year month := by
  rw [monthDays]
  generalize isLeapYear year = leap
  cases leap <;> interval_cases month <;> decide

theorem monthDays_le {year month : Nat} (some_month : 1 ≤ month) (few : month ≤ 12) :
    monthDays year month ≤ 31 := by
  rw [monthDays]
  generalize isLeapYear year = leap
  cases leap <;> interval_cases month <;> decide

/-- The days before a month, with the leap day if February is one of them. -/
theorem monthStart_eq {year month : Nat} (some_month : 1 ≤ month) (few : month ≤ 12) :
    monthStart year month = ((mdays.take (month - 1)).sum : Nat) +
      if 2 < month ∧ isLeapYear year = true then 1 else 0 := by
  interval_cases month <;> simp [monthStart, Spans.start, monthDays, mdays] <;> split <;> rfl

/-- The two rules for leap years are the same. -/
theorem isLeapYear16_eq (year : Nat) : isLeapYear16 year = isLeapYear year := by
  rw [Bool.eq_iff_iff, isLeapYear16]
  simp [isLeapYear]
  grind

theorem leapDay_eq (year : Nat) : leapDay year = if isLeapYear year then 1 else 0 := by
  simp only [leapDay, isLeapYear]
  grind

/-! ## Counting days -/

variable {date : Date}

theorem daysSince1_eq (date : Date) :
    (daysSince1 date.year date.month date.day : Int) = date.number := by
  have years := yearStart_succ (date.year - 1)
  have months := @monthStart_eq date.year date.month date.month_pos date.month_le
  have year : date.year - 1 + 1 = date.year := Nat.sub_add_cancel date.year_pos
  have some_day := date.day_pos
  have prevyears : ((date.year : Int) - 1).toNat = date.year - 1 := by omega
  have before : ((date.month : Int) - 1).toNat = date.month - 1 := by omega
  have later : ((2 : Int) < date.month) ↔ 2 < date.month := by omega
  have positive : (0 : Int) < date.day := by omega
  rw [year] at years
  rw [Date.number, years, months, daysSince1, prevyears, before, isLeapYear16_eq, if_pos positive]
  simp only [later]
  split <;> omega

theorem yearStart_next {year : Nat} (some_year : 1 ≤ year) :
    yearStart (year + 1) = yearStart year + yearDays year := by
  obtain ⟨index, rfl⟩ : ∃ index, year = index + 1 := ⟨year - 1, by omega⟩
  rfl

/-- The leap days from 1900 on before a year. -/
theorem leapDays_eq (count : Nat) :
    ((List.range count).map fun i : Nat => leapDay (1900 + i)).sum =
      yearStart (1900 + count) - yearStart 1900 - 365 * count := by
  induction count with
  | zero => simp
  | succ count induction =>
    have next := @yearStart_next (1900 + count) (by omega)
    have leap := leapDay_eq (1900 + count)
    rw [Nat.cast_add] at leap
    rw [List.range_succ, List.map_append, List.sum_append, induction, ← Nat.add_assoc, next, yearDays,
      List.map_singleton, List.sum_singleton]
    simp only [Nat.cast_ofNat] at leap
    rw [leap]
    split <;> omega

/-- How many days `dateTime` has too many: the leap days of the years before 1900, which it does not take
off, and one on the leap day itself. -/
def excess (date : Date) : Int :=
  (if date.year < 1900 then yearStart 1900 - yearStart date.year - 365 * (1900 - date.year) else 0) +
    if date.month = 2 ∧ date.day = 29 then 1 else 0

/-- The parts of a date and time are those of a date. -/
def DateTime.On (fields : DateTime) (date : Date) : Prop :=
  fields.year = date.year ∧ fields.month = date.month ∧ fields.day = date.day

theorem dateTimeOf_eq {fields : DateTime} (on : fields.On date) :
    (dateTimeOf fields).1 = date.number - yearStart 1900 + excess date := by
  obtain ⟨year, month, day⟩ := on
  have months := @monthStart_eq date.year date.month date.month_pos date.month_le
  have before : ((date.month : Int) - 1).toNat = date.month - 1 := by omega
  have thisYear : (if 2 < (date.month : Int) then leapDay date.year
      else if (date.month : Int) = 2 ∧ (date.day : Int) = 29 then 1 else 0) =
      (if 2 < date.month ∧ isLeapYear date.year = true then 1 else 0) +
        if date.month = 2 ∧ date.day = 29 then 1 else 0 := by
    rw [leapDay_eq]
    grind
  rw [Date.number, months, dateTimeOf, excess]
  simp only [year, month, day, before, thisYear]
  have sums : ((List.range ((date.year : Int) - 1900).toNat).map fun i : Nat => leapDay (1900 + i)).sum =
      yearStart date.year - yearStart 1900 - 365 * (date.year - 1900) +
        if date.year < 1900 then yearStart 1900 - yearStart date.year - 365 * (1900 - date.year)
        else 0 := by
    by_cases early : date.year < 1900
    · have none_walked : ((date.year : Int) - 1900).toNat = 0 := by omega
      rw [none_walked, if_pos early, List.range_zero, List.map_nil, List.sum_nil]
      omega
    · have walked : ((date.year : Int) - 1900).toNat = date.year - 1900 := by omega
      have year : 1900 + (date.year - 1900) = date.year := by omega
      have sum := leapDays_eq (date.year - 1900)
      rw [year] at sum
      rw [walked, if_neg early, sum]
      omega
  rw [sums]
  omega

/-- The leap days between a year before 1897 and 1900 are missing. -/
theorem excess_eq_zero_iff (date : Date) :
    excess date = 0 ↔ 1897 ≤ date.year ∧ ¬(date.month = 2 ∧ date.day = 29) := by
  have years := yearStart_succ (date.year - 1)
  have epoch := yearStart_succ 1899
  have year : date.year - 1 + 1 = date.year := Nat.sub_add_cancel date.year_pos
  have some_year := date.year_pos
  rw [year] at years
  rw [excess, years, epoch]
  split <;> split <;> omega

/-! ## Finding the date -/

theorem yearsBack_eq (index : Nat) (days : Int) : yearsBack (index + 1) days =
    ((Spans.walkBack (fun index => yearDays (index + 1)) index days).1 + 1,
      (Spans.walkBack (fun index => yearDays (index + 1)) index days).2) := by
  induction index generalizing days with
  | zero => rfl
  | succ index induction =>
    rw [yearsBack, Spans.walkBack]
    split
    · exact induction _
    · rfl

theorem yearsOn_eq (count index : Nat) (days : Int) : yearsOn count (index + 1) days =
    ((Spans.walkOn (fun index => yearDays (index + 1)) count index days).1 + 1,
      (Spans.walkOn (fun index => yearDays (index + 1)) count index days).2) := by
  induction count generalizing index days with
  | zero => rfl
  | succ count induction =>
    rw [yearsOn, Spans.walkOn]
    split
    · rfl
    · exact induction _ _

theorem monthsOn_eq (year count index : Nat) (days : Int) : monthsOn year count (index + 1) days =
    ((Spans.walkOn (fun index => monthDays year (index + 1)) count index days).1 + 1,
      (Spans.walkOn (fun index => monthDays year (index + 1)) count index days).2) := by
  induction count generalizing index days with
  | zero => rfl
  | succ count induction =>
    rw [monthsOn, Spans.walkOn]
    split
    · rfl
    · exact induction _ _

/-- A date is in its month, and its month in its year. -/
theorem monthStart_add_lt (date : Date) :
    0 ≤ monthStart date.year date.month + (date.day - 1) ∧
      monthStart date.year date.month + (date.day - 1) < yearDays date.year := by
  have months := @monthStart_eq date.year date.month date.month_pos date.month_le
  have some_day := date.day_pos
  have few := date.day_le
  obtain ⟨year, month, day, _, _, some_month, few_months, _, _⟩ := date
  simp only at months some_day few ⊢
  rw [months, yearDays]
  rw [monthDays] at few
  generalize isLeapYear year = leap at few ⊢
  interval_cases month <;> cases leap <;> simp [mdays] at few ⊢ <;> omega

/-- The walk over the years, from whatever year it starts, comes to the year of the date. -/
theorem years_of_number (date : Date) {startyear : Nat} (some_year : 1 ≤ startyear)
    (few : startyear ≤ 9999) :
    let found := yearsBack startyear (date.number - yearStart startyear)
    yearsOn (9999 - found.1) found.1 found.2 =
      (date.year, monthStart date.year date.month + (date.day - 1)) := by
  have place := monthStart_add_lt date
  have target := date.year_pos
  have last := date.year_le
  obtain ⟨index, rfl⟩ : ∃ index, startyear = index + 1 := ⟨startyear - 1, by omega⟩
  have year : date.year - 1 + 1 = date.year := by omega
  have walked := @Spans.walkOn_walkBack (fun index => yearDays (index + 1))
    (fun index => 9999 - (index + 1)) index (date.year - 1)
    (monthStart date.year date.month + (date.day - 1)) (fun index => yearDays_pos (index + 1))
    (fun index _ => by omega) place.1 (by rw [year]; exact place.2)
  have from_start : date.number - yearStart (index + 1) =
      Spans.start (fun index => yearDays (index + 1)) (date.year - 1) +
        (monthStart date.year date.month + (date.day - 1)) -
        Spans.start (fun index => yearDays (index + 1)) index := rfl
  rw [from_start, yearsBack_eq]
  simp only at walked ⊢
  rw [yearsOn_eq, walked, year]

theorem months_of_number (date : Date) :
    monthsOn date.year 11 1 (monthStart date.year date.month + (date.day - 1)) =
      (date.month, (date.day : Int) - 1) := by
  have found := @Spans.walkOn_eq (fun index => monthDays date.year (index + 1)) 11 0 (date.month - 1)
    (date.day - 1)
  have some_day := date.day_pos
  have few := date.day_le
  have some_month := date.month_pos
  have few_months := date.month_le
  have month : date.month - 1 + 1 = date.month := by omega
  have walked := found (fun index below => monthDays_pos (by omega) (by omega)) (by omega) (by omega)
    (by omega) (by rw [month]; omega)
  rw [Spans.start, Int.sub_zero] at walked
  rw [monthsOn_eq, monthStart, walked, month]

/-- A number is padded to a width that it does not exceed. -/
theorem length_zeroPadded {width number : Nat} (positive : 0 < width) (small : number < 10 ^ width) :
    (zeroPadded width number).length = width := by
  have few := length_digits_le positive small
  rw [zeroPadded, if_neg (by omega), Int.natAbs_natCast]
  simp only [List.nil_append, List.length_nil, List.length_append, List.length_replicate]
  omega

theorem length_text (date : Date) : date.text.length = 10 := by
  have last := date.year_le
  have few_months := date.month_le
  have few := date.day_le
  have long := @monthDays_le date.year date.month date.month_pos date.month_le
  have year := @length_zeroPadded 4 date.year (by decide) (by omega)
  have month := @length_zeroPadded 2 date.month (by decide) (by omega)
  have day := @length_zeroPadded 2 date.day (by decide) (by omega)
  rw [Date.text, List.length_append, List.length_cons, List.length_append, List.length_cons, year, month,
    day]

/-- Wherever the days are counted from, the date is the one that was counted. -/
theorem bulkYmd_eq (date : Date) {startyear : Nat} (some_year : 1 ≤ startyear)
    (few : startyear ≤ 9999) :
    bulkYmd (date.number - yearStart startyear) startyear = date.text := by
  have years := years_of_number date some_year few
  have months := months_of_number date
  have some_day := date.day_pos
  have day : (if (date.day : Int) - 1 < 0 then (1 : Int) else date.day - 1 + 1) = date.day := by
    rw [if_neg (by omega)]
    omega
  have length := length_text date
  rw [Date.text] at length
  simp only at years
  rw [bulkYmd, Date.text]
  simp only [years, months, day]
  rw [printed, List.take_of_length_le (by omega)]

/-! ## The three of them -/

/-- The first day of a year. -/
def firstOf (year : Nat) (some_year : 1 ≤ year) (few : year ≤ 9999) : Date where
  year := year
  month := 1
  day := 1
  year_pos := some_year
  year_le := few
  month_pos := Nat.one_pos
  month_le := by decide
  day_pos := Nat.one_pos
  day_le := monthDays_pos (Nat.le_refl 1) (by decide)

theorem number_firstOf {year : Nat} (some_year : 1 ≤ year) (few : year ≤ 9999) :
    (firstOf year some_year few).number = yearStart year := by
  rw [Date.number, firstOf]
  exact Int.add_zero _

/-- The first day of 1900. -/
def epoch : Date := firstOf 1900 (by decide) (by decide)

/-- The days that go over the wire for a text are those from the epoch to the date, whichever way they
are counted, and come back as the date. -/
structure Converts (parse : Parse) (datetime : List Byte) (date : Date) : Prop where
  days : (dateTime parse datetime).1 = date.number - epoch.number
  since1 : (dateTime parse datetime).1 =
    daysSince1 date.year date.month date.day - daysSince1 epoch.year epoch.month epoch.day
  printed : bulkYmd (dateTime parse datetime).1 1900 = date.text
  printed1 : bulkYmd (daysSince1 date.year date.month date.day) 1 = date.text

/-- The order of dates. -/
def Date.Before (date later : Date) : Prop :=
  date.year < later.year ∨ date.year = later.year ∧
    (date.month < later.month ∨ date.month = later.month ∧ date.day < later.day)

theorem number_lt {later : Date} (before : date.Before later) : date.number < later.number := by
  have place := monthStart_add_lt date
  have place' := monthStart_add_lt later
  have year := date.year_pos
  have month := date.month_pos
  rw [Date.number, Date.number]
  cases before with
  | inl earlier =>
    have index : date.year - 1 + 1 = date.year := by omega
    have inside : monthStart date.year date.month + (date.day - 1) < yearDays (date.year - 1 + 1) := by
      rw [index]
      exact place.2
    exact Spans.position_lt (fun index _ => yearDays_pos (index + 1)) inside place'.1 (by omega)
  | inr same =>
    have days : monthStart date.year date.month + (date.day - 1) <
        monthStart later.year later.month + (later.day - 1) := by
      rw [same.1]
      cases same.2 with
      | inl earlier =>
        have index : date.month - 1 + 1 = date.month := by omega
        have few := later.month_le
        have some_day := later.day_pos
        have inside := date.day_le
        rw [same.1, ← index] at inside
        exact Spans.position_lt (fun index below => monthDays_pos (by omega) (by omega)) (by omega)
          (by omega) (by omega)
      | inr day =>
        rw [day.1]
        omega
    rw [same.1] at days ⊢
    omega

/-- The dates whose days `dateTime` gets right: from 1897 on, but no leap day. -/
def Date.Counted (date : Date) : Prop := 1897 ≤ date.year ∧ ¬(date.month = 2 ∧ date.day = 29)

theorem dateTime_converts_iff {parse : Parse} {datetime : List Byte} {fields : DateTime}
    (parsed : parseDateTime parse datetime = (true, fields)) (on : fields.On date) :
    Converts parse datetime date ↔ date.Counted := by
  have days : (dateTime parse datetime).1 = date.number - yearStart 1900 + excess date := by
    rw [dateTime, parsed]
    exact dateTimeOf_eq on
  have start := @number_firstOf 1900 (by decide) (by decide)
  rw [Date.Counted, ← excess_eq_zero_iff]
  constructor
  · intro converts
    have same := converts.days
    rw [epoch, start, days] at same
    omega
  · intro none_missing
    rw [none_missing, Int.add_zero] at days
    constructor
    · rw [epoch, start, days]
    · rw [daysSince1_eq, daysSince1_eq, epoch, start, days]
    · rw [days]
      exact bulkYmd_eq date (by decide) (by decide)
    · have printed := @bulkYmd_eq date 1 (Nat.le_refl 1) (by decide)
      have first : yearStart 1 = 0 := rfl
      rw [first, Int.sub_zero] at printed
      rw [daysSince1_eq, printed]

/-- The days of a text come out right exactly if its date is counted right, and of two such texts the one
with the later date has more of them. -/
theorem dateTime_calendar (parse : Parse) :
    (∀ datetime fields date, parseDateTime parse datetime = (true, fields) → fields.On date →
      (Converts parse datetime date ↔ date.Counted)) ∧
    ∀ datetime datetime' fields fields' date later,
      parseDateTime parse datetime = (true, fields) → parseDateTime parse datetime' = (true, fields') →
      fields.On date → fields'.On later → date.Counted → later.Counted → date.Before later →
      (dateTime parse datetime).1 < (dateTime parse datetime').1 := by
  constructor
  · intro datetime fields date parsed on
    exact dateTime_converts_iff parsed on
  · intro datetime datetime' fields fields' date later parsed parsed' on on' counted counted' before
    have converts := (dateTime_converts_iff parsed on).mpr counted
    have converts' := (dateTime_converts_iff parsed' on').mpr counted'
    have less := number_lt before
    rw [converts.days, converts'.days]
    omega

/-- The parse of a text that has a year, a month and a day. -/
def parseYmd : Parse
  | [y, y1, y2, y3, _, m, m1, _, d, d1] =>
      some {
        year := digitOf y * 1000 + digitOf y1 * 100 + digitOf y2 * 10 + digitOf y3
        month := digitOf m * 10 + digitOf m1
        day := digitOf d * 10 + digitOf d1
        hour := -1, minute := -1, second := -1, usec := -1, tzoffset := 0 }
  | _ => none

theorem dateTime_calendar_epoch : Converts parseYmd (ascii "1900-01-01") epoch :=
  ((dateTime_calendar parseYmd).1 (ascii "1900-01-01") ⟨1900, 1, 1, 0, 0, 0, 0, 0⟩ epoch rfl
    ⟨rfl, rfl, rfl⟩).mpr ⟨by decide, by decide⟩

/-- A leap day is sent as the day behind it, and the last day of 1896 as the first one of 1897. -/
theorem not_dateTime_calendar :
    (dateTime parseYmd (ascii "2000-02-29")).1 = (dateTime parseYmd (ascii "2000-03-01")).1 ∧
      (dateTime parseYmd (ascii "2000-02-29")).1 ≠ daysSince1 2000 2 29 - daysSince1 1900 1 1 ∧
      (dateTime parseYmd (ascii "1896-12-31")).1 = (dateTime parseYmd (ascii "1897-01-01")).1 ∧
      bulkYmd (dateTime parseYmd (ascii "2000-02-29")).1 1900 = ascii "2000-03-01" := by
  decide +kernel

end SqlRelay.Tds.Calendar
