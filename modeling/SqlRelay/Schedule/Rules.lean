import SqlRelay.Bind.FakedBinds
import SqlRelay.Lists.Parameters

/-!
# Schedule rules

A rule of a schedule allows or denies access at the times that its five lists name.  The lists are
texts: the years, the months, the days of the month, the days of the week, and the parts of the day.
-/

namespace SqlRelay.Schedule

open SqlRelay.Foundation SqlRelay.Foundation.CString
open SqlRelay.Bind (convertToInteger convertToInteger_digits)
open SqlRelay.Lists (split splitFrom)

/-! ## The source -/

/-- `sqlrscheduleperiod` -/
structure Period where
  start : UInt16
  stop : UInt16
  deriving DecidableEq, Repr

/-- `sqlrscheduledaypart` -/
structure DayPart where
  starthour : UInt16
  startminute : UInt16
  endhour : UInt16
  endminute : UInt16
  deriving DecidableEq, Repr

/-- What is read of a `datetime`.  Where a time of day is meant, an hour has sixty minutes. -/
structure Datetime where
  year : Int
  month : Int
  dayOfMonth : Int
  dayOfWeek : Int
  hour : Int
  minute : Int
  minute_range : 0 ≤ minute ∧ minute < 60

/-- `charstring::convertToInteger`, of 64 bits, put into a `uint16_t`. -/
def toUint16 (text : List Byte) : UInt16 :=
  let number := convertToInteger text
  if number < -9223372036854775808 then UInt16.ofInt (-9223372036854775808)
  else if number > 9223372036854775807 then UInt16.ofInt 9223372036854775807
  else UInt16.ofInt number

/-- A part without anything in it splits into no parts, of which the first cannot be read. -/
def splitPeriod (timepart : List Byte) : Option Period :=
  match split (chr '-') timepart with
  | [] => none
  | [start] => some ⟨toUint16 start, toUint16 start⟩
  | start :: stop :: _ => some ⟨toUint16 start, toUint16 stop⟩

/-- `every` is what an asterisk stands for in this list. -/
def splitTimePart (every : Period) (timepartlist : List Byte) : Option (List Period) :=
  let timepartlist := contents timepartlist
  if timepartlist = ascii "*" then some [every]
  else (split (chr ',') timepartlist).mapM splitPeriod

/-- What is behind the first colon, or `"0"`. -/
def minuteText (daypart : List Byte) : List Byte :=
  match daypart.dropWhile fun byte => byte != chr ':' with
  | [] => ascii "0"
  | _ :: minute => minute

def splitDayPart (daypart : List Byte) : Option DayPart :=
  match split (chr '-') daypart with
  | [] => none
  | [start] =>
      some ⟨toUint16 start, toUint16 (minuteText start), toUint16 start, toUint16 (minuteText start)⟩
  | start :: stop :: _ =>
      some ⟨toUint16 start, toUint16 (minuteText start), toUint16 stop, toUint16 (minuteText stop)⟩

def splitDayParts (daypartlist : List Byte) : Option (List DayPart) :=
  let daypartlist := contents daypartlist
  if daypartlist = ascii "*" then some [⟨0, 0, 23, 59⟩]
  else (split (chr ',') daypartlist).mapM splitDayPart

/-- `sqlrschedulerule` -/
structure Rule where
  allow : Bool
  years : List Period
  months : List Period
  daysofmonth : List Period
  daysofweek : List Period
  dayparts : List DayPart
  deriving DecidableEq, Repr

def inPeriods (periods : List Period) (timepart : Int) : Bool :=
  periods.any fun p => decide (timepart ≥ p.start.toNat) && decide (timepart ≤ p.stop.toNat)

namespace Rule

def init (allow : Bool) (years months daysofmonth daysofweek dayparts : List Byte) : Option Rule := do
  let years ← splitTimePart ⟨0, 65535⟩ years
  let months ← splitTimePart ⟨1, 12⟩ months
  let daysofmonth ← splitTimePart ⟨1, 31⟩ daysofmonth
  let daysofweek ← splitTimePart ⟨1, 7⟩ daysofweek
  let dayparts ← splitDayParts dayparts
  return ⟨allow, years, months, daysofmonth, daysofweek, dayparts⟩

variable (rule : Rule)

def inDayParts (hour minute : Int) : Bool :=
  rule.dayparts.any fun dp =>
    decide (hour ≥ dp.starthour.toNat) && decide (minute ≥ dp.startminute.toNat) &&
      decide (hour ≤ dp.endhour.toNat) && decide (minute ≤ dp.endminute.toNat)

def allowed (dt : Datetime) (currentlyallowed : Bool) : Bool :=
  if inPeriods rule.years dt.year && inPeriods rule.months dt.month &&
      inPeriods rule.daysofmonth dt.dayOfMonth && inPeriods rule.daysofweek dt.dayOfWeek &&
      rule.inDayParts dt.hour dt.minute then
    if rule.allow != currentlyallowed then !currentlyallowed else currentlyallowed
  else currentlyallowed

end Rule

/-- The loop over the rules of a schedule. -/
def rulesAllow (rules : List Rule) (dt : Datetime) (currentlyallowed : Bool) : Bool :=
  rules.foldl (fun currentlyallowed rule => rule.allowed dt currentlyallowed) currentlyallowed

/-! ## Splitting a text -/

section Split

variable {delimiter : Byte} {part rest : List Byte}

theorem splitFrom_plain (plain : delimiter ∉ part) : splitFrom delimiter part = [part] := by
  induction part with
  | nil => rfl
  | cons byte part ih =>
      rw [List.mem_cons, not_or] at plain
      rw [splitFrom, if_neg (Ne.symm plain.1), ih plain.2]

/-- A part is peeled off, unless there is another delimiter behind it. -/
theorem splitFrom_append (plain : delimiter ∉ part) (single : rest.head? ≠ some delimiter) :
    splitFrom delimiter (part ++ delimiter :: rest) = part :: splitFrom delimiter rest := by
  induction part with
  | nil => rw [List.nil_append, splitFrom, if_pos rfl, if_neg single]
  | cons byte part ih =>
      rw [List.mem_cons, not_or] at plain
      rw [List.cons_append, splitFrom, if_neg (Ne.symm plain.1), ih plain.2]

theorem head?_intercalate (written : part ≠ []) (others : List (List Byte)) :
    ([delimiter].intercalate (part :: others)).head? = part.head? := by
  cases part with
  | nil => exact absurd rfl written
  | cons byte part => cases others <;> simp

theorem splitFrom_intercalate {others : List (List Byte)}
    (written : ∀ member ∈ part :: others, member ≠ [] ∧ delimiter ∉ member) :
    splitFrom delimiter ([delimiter].intercalate (part :: others)) = part :: others := by
  induction others generalizing part with
  | nil =>
      rw [List.intercalate_singleton]
      exact splitFrom_plain (written part List.mem_cons_self).2
  | cons next others ih =>
      have later := fun member listed => written member (List.mem_cons_of_mem _ listed)
      have next' := later next List.mem_cons_self
      rw [List.intercalate_cons_cons, List.append_assoc, List.singleton_append,
        splitFrom_append (written part List.mem_cons_self).2, ih later]
      rw [head?_intercalate next'.1]
      intro same
      exact next'.2 (List.mem_of_head? same)

/-- Parts that are not empty come back as they were put together. -/
theorem split_intercalate {parts : List (List Byte)} (listed : parts ≠ [])
    (written : ∀ part ∈ parts, part ≠ [] ∧ delimiter ∉ part) :
    split delimiter ([delimiter].intercalate parts) = parts := by
  cases parts with
  | nil => exact absurd rfl listed
  | cons part others =>
      have notEmpty : [delimiter].intercalate (part :: others) ≠ [] := by
        have first := (written part List.mem_cons_self).1
        intro empty
        have same := @head?_intercalate delimiter part first others
        rw [empty, List.head?_nil, eq_comm, List.head?_eq_none_iff] at same
        exact first same
      rw [split, if_neg notEmpty, splitFrom_intercalate written]

theorem split_pair {first second : List Byte} (plain : delimiter ∉ first)
    (plainToo : delimiter ∉ second) :
    split delimiter (first ++ delimiter :: second) = [first, second] := by
  have single : second.head? ≠ some delimiter := fun same => plainToo (List.mem_of_head? same)
  have notEmpty : first ++ delimiter :: second ≠ [] := by simp
  rw [split, if_neg notEmpty, splitFrom_append plain single, splitFrom_plain plainToo]

end Split

/-! ## What is written -/

/-- A number: one or more digits. -/
structure Numeral where
  bytes : List Byte
  written : bytes ≠ []
  digits : ∀ byte ∈ bytes, isDigit byte = true

def Numeral.value (numeral : Numeral) : Nat :=
  numeral.bytes.foldl (fun sum digit => 10 * sum + (digit.toNat - 48)) 0

/-- A time of day, as `8:30`. -/
structure Clock where
  hour : Numeral
  minute : Numeral
  hour_lt : hour.value < 65536
  minute_lt : minute.value < 60

namespace Clock

variable (clock : Clock)

def minutes : Nat := 60 * clock.hour.value + clock.minute.value

def text : List Byte := clock.hour.bytes ++ chr ':' :: clock.minute.bytes

end Clock

/-- A part of the day, as `8:30-17:15`. -/
structure Range where
  start : Clock
  stop : Clock
  ordered : start.minutes ≤ stop.minutes

namespace Range

variable (range : Range)

def text : List Byte := range.start.text ++ chr '-' :: range.stop.text

def dayPart : DayPart where
  starthour := UInt16.ofNat range.start.hour.value
  startminute := UInt16.ofNat range.start.minute.value
  endhour := UInt16.ofNat range.stop.hour.value
  endminute := UInt16.ofNat range.stop.minute.value

/-- `0:00-23:59` -/
def day : Range where
  start := ⟨⟨ascii "0", by decide, by decide +kernel⟩, ⟨ascii "00", by decide, by decide +kernel⟩,
    by decide, by decide⟩
  stop := ⟨⟨ascii "23", by decide, by decide +kernel⟩, ⟨ascii "59", by decide, by decide +kernel⟩,
    by decide, by decide⟩
  ordered := by decide

/-- `8:00-17:00` -/
def businessHours : Range where
  start := ⟨⟨ascii "8", by decide, by decide +kernel⟩, ⟨ascii "00", by decide, by decide +kernel⟩,
    by decide, by decide⟩
  stop := ⟨⟨ascii "17", by decide, by decide +kernel⟩, ⟨ascii "00", by decide, by decide +kernel⟩,
    by decide, by decide⟩
  ordered := by decide

end Range

/-- A list of parts of the day. -/
inductive DayParts where
  | every
  | ranges (list : List Range) (listed : list ≠ [])

namespace DayParts

def list : DayParts → List Range
  | every => [Range.day]
  | ranges list _ => list

def text : DayParts → List Byte
  | every => ascii "*"
  | ranges list _ => [chr ','].intercalate (list.map Range.text)

end DayParts

/-! ## What is read -/

section Reading

variable {numeral : Numeral} {clock : Clock} {range : Range} {rest : List Byte}

theorem toUint16_numeral (small : numeral.value < 65536)
    (ends : ∀ byte, rest.head? = some byte → isDigit byte = false) :
    toUint16 (numeral.bytes ++ rest) = UInt16.ofNat numeral.value := by
  have number : convertToInteger (numeral.bytes ++ rest) = numeral.value :=
    convertToInteger_digits numeral.written numeral.digits ends
  rw [toUint16, number, if_neg (by omega), if_neg (by omega), UInt16.ofInt]
  congr 1
  omega

/-- A digit is none of the signs that separate. -/
theorem digit_ne {byte : Byte} (digit : isDigit byte = true) :
    byte ≠ chr ':' ∧ byte ≠ chr '-' ∧ byte ≠ chr ',' ∧ byte ≠ chr '*' ∧ byte ≠ chr ' ' ∧
      byte ≠ 0 := by
  have every : ∀ index : Fin 256, isDigit (UInt8.ofFin index) = true →
      UInt8.ofFin index ≠ chr ':' ∧ UInt8.ofFin index ≠ chr '-' ∧ UInt8.ofFin index ≠ chr ',' ∧
        UInt8.ofFin index ≠ chr '*' ∧ UInt8.ofFin index ≠ chr ' ' ∧ UInt8.ofFin index ≠ 0 := by
    decide +kernel
  exact every byte.toFin digit

theorem toUint16_hour : toUint16 clock.text = UInt16.ofNat clock.hour.value := by
  apply toUint16_numeral clock.hour_lt
  intro byte first
  cases first
  decide

theorem minuteText_text : minuteText clock.text = clock.minute.bytes := by
  have before : ∀ byte ∈ clock.hour.bytes, (byte != chr ':') = true := by
    intro byte member
    exact bne_iff_ne.mpr (digit_ne (clock.hour.digits byte member)).1
  rw [minuteText, Clock.text, List.dropWhile_append_of_pos before]
  simp

theorem toUint16_minute :
    toUint16 (minuteText clock.text) = UInt16.ofNat clock.minute.value := by
  have small := clock.minute_lt
  rw [minuteText_text, ← List.append_nil clock.minute.bytes]
  exact toUint16_numeral (by omega) (by simp)

/-- What a time of day is written with. -/
theorem mem_clock_text {byte : Byte} (member : byte ∈ clock.text) :
    isDigit byte = true ∨ byte = chr ':' := by
  rw [Clock.text, List.mem_append, List.mem_cons] at member
  rcases member with hour | colon | minute
  · exact Or.inl (clock.hour.digits byte hour)
  · exact Or.inr colon
  · exact Or.inl (clock.minute.digits byte minute)

theorem dash_notMem : chr '-' ∉ clock.text := by
  intro member
  cases mem_clock_text member with
  | inl digit => exact absurd digit (by decide)
  | inr colon => exact absurd colon (by decide)

theorem splitDayPart_text : splitDayPart range.text = some range.dayPart := by
  have parts : split (chr '-') range.text = [range.start.text, range.stop.text] :=
    split_pair dash_notMem dash_notMem
  rw [splitDayPart, parts]
  simp only [toUint16_hour, toUint16_minute]
  rfl

theorem mem_range_text {byte : Byte} (member : byte ∈ range.text) :
    isDigit byte = true ∨ byte = chr ':' ∨ byte = chr '-' := by
  rw [Range.text, List.mem_append, List.mem_cons] at member
  rcases member with start | dash | stop
  · exact (mem_clock_text start).imp_right Or.inl
  · exact Or.inr (Or.inr dash)
  · exact (mem_clock_text stop).imp_right Or.inl

theorem mem_intercalate {delimiter byte : Byte} {parts : List (List Byte)}
    (member : byte ∈ [delimiter].intercalate parts) :
    byte = delimiter ∨ ∃ part ∈ parts, byte ∈ part := by
  induction parts with
  | nil => cases member
  | cons part parts ih =>
      cases parts with
      | nil =>
          rw [List.intercalate_singleton] at member
          exact Or.inr ⟨part, List.mem_cons_self, member⟩
      | cons next parts =>
          rw [List.intercalate_cons_cons, List.mem_append, List.mem_append] at member
          rcases member with (own | between) | later
          · exact Or.inr ⟨part, List.mem_cons_self, own⟩
          · exact Or.inl (List.mem_singleton.mp between)
          · cases ih later with
            | inl isDelimiter => exact Or.inl isDelimiter
            | inr found =>
                obtain ⟨other, listed, inside⟩ := found
                exact Or.inr ⟨other, List.mem_cons_of_mem _ listed, inside⟩

/-- Texts without these signs can be told apart in a list, and the list from an asterisk. -/
structure Plain (part : List Byte) : Prop where
  written : part ≠ []
  comma : chr ',' ∉ part
  asterisk : chr '*' ∉ part
  nul : 0 ∉ part

theorem split_plain {parts : List (List Byte)} (listed : parts ≠ [])
    (plain : ∀ part ∈ parts, Plain part) :
    contents ([chr ','].intercalate parts) = [chr ','].intercalate parts ∧
      [chr ','].intercalate parts ≠ ascii "*" ∧
      split (chr ',') ([chr ','].intercalate parts) = parts := by
  have without : ∀ byte : Byte, byte ≠ chr ',' → (∀ part ∈ parts, byte ∉ part) →
      byte ∉ [chr ','].intercalate parts := by
    intro byte other absent member
    cases mem_intercalate member with
    | inl isComma => exact other isComma
    | inr found =>
        obtain ⟨part, inside, member⟩ := found
        exact absent part inside member
  refine ⟨?_, ?_, ?_⟩
  · apply contents_eq_self
    exact without 0 (by decide) fun part member => (plain part member).nul
  · intro same
    apply without (chr '*') (by decide) fun part member => (plain part member).asterisk
    rw [same]
    decide
  · exact split_intercalate listed fun part member =>
      ⟨(plain part member).written, (plain part member).comma⟩

theorem mapM_written {Item Value : Type} {read : List Byte → Option Value} {write : Item → List Byte}
    {value : Item → Value} (reads : ∀ item, read (write item) = some (value item))
    (list : List Item) : (list.map write).mapM read = some (list.map value) := by
  induction list with
  | nil => rfl
  | cons item list ih => simp [reads item, ih]

theorem plain_range : Plain range.text := by
  constructor
  · rw [Range.text]
    simp
  · exact mt mem_range_text (by decide)
  · exact mt mem_range_text (by decide)
  · exact mt mem_range_text (by decide)

/-- The parts of the day that a rule holds are those that were written. -/
theorem splitDayParts_text (dayparts : DayParts) :
    splitDayParts dayparts.text = some (dayparts.list.map Range.dayPart) := by
  cases dayparts with
  | every => decide
  | ranges list listed =>
      have notEmpty : list.map Range.text ≠ [] := by simpa using listed
      obtain ⟨whole, notEvery, parts⟩ := split_plain notEmpty (by simp [plain_range])
      rw [splitDayParts, DayParts.text, whole, if_neg notEvery, parts]
      exact mapM_written (fun range => splitDayPart_text) list

end Reading

end SqlRelay.Schedule
