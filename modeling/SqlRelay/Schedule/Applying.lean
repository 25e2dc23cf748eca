import SqlRelay.Schedule.Rules

/-!
# When a rule applies

A rule is meant to apply at a time that is in all of its lists, and the last rule that applies decides.
The hours and the minutes of a part of the day are compared separately, though, so that most of
`8:00-17:00` is missed.
-/

namespace SqlRelay.Schedule

open SqlRelay.Foundation

/-! ## What is meant -/

def Period.Contains (period : Period) (timepart : Int) : Prop :=
  period.start.toNat ≤ timepart ∧ timepart ≤ period.stop.toNat

instance (period : Period) (timepart : Int) : Decidable (period.Contains timepart) :=
  inferInstanceAs (Decidable (_ ∧ _))

def Datetime.minutes (dt : Datetime) : Int := 60 * dt.hour + dt.minute

namespace Range

variable (range : Range) (dt : Datetime)

def Contains : Prop := range.start.minutes ≤ dt.minutes ∧ dt.minutes ≤ range.stop.minutes

instance : Decidable (range.Contains dt) := inferInstanceAs (Decidable (_ ∧ _))

/-- The time is in the range, and its minute is between those of the ends, too. -/
structure Notices : Prop where
  contains : range.Contains dt
  start : range.start.minute.value ≤ dt.minute
  stop : dt.minute ≤ range.stop.minute.value

end Range

def DayParts.Contains (dayparts : DayParts) (dt : Datetime) : Prop :=
  ∃ range ∈ dayparts.list, range.Contains dt

/-- A rule as it is configured. -/
structure Configured where
  allow : Bool
  years : List Byte
  months : List Byte
  daysofmonth : List Byte
  daysofweek : List Byte
  dayparts : DayParts
  rule : Rule
  made : Rule.init allow years months daysofmonth daysofweek dayparts.text = some rule

namespace Configured

variable (configured : Configured) (dt : Datetime)

/-- The time is in all five lists. -/
def Listed : Prop :=
  (∃ period ∈ configured.rule.years, period.Contains dt.year) ∧
    (∃ period ∈ configured.rule.months, period.Contains dt.month) ∧
    (∃ period ∈ configured.rule.daysofmonth, period.Contains dt.dayOfMonth) ∧
    (∃ period ∈ configured.rule.daysofweek, period.Contains dt.dayOfWeek) ∧
    configured.dayparts.Contains dt

instance : Decidable (configured.dayparts.Contains dt) :=
  inferInstanceAs (Decidable (∃ range ∈ configured.dayparts.list, range.Contains dt))

instance : Decidable (configured.Listed dt) := inferInstanceAs (Decidable (_ ∧ _))

end Configured

section

variable (rules : List Configured) (dt : Datetime) (default : Bool)

/-- The verdict of the last rule that lists the time. -/
def verdict : Bool :=
  ((rules.filter fun rule => rule.Listed dt).getLast?.map Configured.allow).getD default

/-- At this time the rules apply, and the schedule allows access, as it is meant. -/
structure Scheduled : Prop where
  inDayParts : ∀ configured ∈ rules,
    configured.rule.inDayParts dt.hour dt.minute = true ↔ configured.dayparts.Contains dt
  applies : ∀ configured ∈ rules, ∀ currentlyallowed,
    configured.rule.allowed dt currentlyallowed =
      if configured.Listed dt then configured.allow else currentlyallowed
  rulesAllow : rulesAllow (rules.map Configured.rule) dt default = verdict rules dt default

end

/-! ## Day parts -/

theorem inPeriods_iff {periods : List Period} {timepart : Int} :
    inPeriods periods timepart = true ↔ ∃ period ∈ periods, period.Contains timepart := by
  rw [inPeriods, List.any_eq_true]
  simp only [Bool.and_eq_true, decide_eq_true_eq, Period.Contains, ge_iff_le]

/-- What the rule does with a part of the day. -/
theorem notices_iff {range : Range} {dt : Datetime} :
    (decide (dt.hour ≥ range.dayPart.starthour.toNat) &&
      decide (dt.minute ≥ range.dayPart.startminute.toNat) &&
      decide (dt.hour ≤ range.dayPart.endhour.toNat) &&
      decide (dt.minute ≤ range.dayPart.endminute.toNat)) = true ↔ range.Notices dt := by
  have minute := dt.minute_range
  have start := range.start.minute_lt
  have stop := range.stop.minute_lt
  have starthour : range.dayPart.starthour.toNat = range.start.hour.value :=
    UInt16.toNat_ofNat_of_lt' range.start.hour_lt
  have startminute : range.dayPart.startminute.toNat = range.start.minute.value :=
    UInt16.toNat_ofNat_of_lt' (Nat.lt_trans start (by decide))
  have endhour : range.dayPart.endhour.toNat = range.stop.hour.value :=
    UInt16.toNat_ofNat_of_lt' range.stop.hour_lt
  have endminute : range.dayPart.endminute.toNat = range.stop.minute.value :=
    UInt16.toNat_ofNat_of_lt' (Nat.lt_trans stop (by decide))
  rw [starthour, startminute, endhour, endminute]
  simp only [Bool.and_eq_true, decide_eq_true_eq, ge_iff_le]
  constructor
  · intro inside
    refine ⟨⟨?_, ?_⟩, inside.1.1.2, inside.2⟩
    · rw [Clock.minutes, Datetime.minutes]
      omega
    · rw [Clock.minutes, Datetime.minutes]
      omega
  · intro notices
    have contains := notices.contains
    rw [Range.Contains, Clock.minutes, Datetime.minutes, Clock.minutes] at contains
    have first := notices.start
    have last := notices.stop
    omega

namespace Configured

variable {configured : Configured} {dt : Datetime}

theorem rule_eq : configured.rule.allow = configured.allow ∧
    configured.rule.dayparts = configured.dayparts.list.map Range.dayPart := by
  have made := configured.made
  rw [Rule.init, splitDayParts_text] at made
  simp only [Option.bind_eq_bind, Option.bind_eq_some_iff] at made
  obtain ⟨_, _, _, _, _, _, _, _, _, dayparts, rule⟩ := made
  cases Option.some.inj dayparts
  rw [← Option.some.inj rule]
  exact ⟨rfl, rfl⟩

theorem inDayParts_iff : configured.rule.inDayParts dt.hour dt.minute = true ↔
    ∃ range ∈ configured.dayparts.list, range.Notices dt := by
  rw [Rule.inDayParts, rule_eq.2, List.any_map, List.any_eq_true]
  simp only [Function.comp_def, notices_iff]

/-- If its parts of the day are understood, a rule applies at the times that it lists. -/
theorem allowed_eq
    (inDayParts : configured.rule.inDayParts dt.hour dt.minute = true ↔
      configured.dayparts.Contains dt) (currentlyallowed : Bool) :
    configured.rule.allowed dt currentlyallowed =
      if configured.Listed dt then configured.allow else currentlyallowed := by
  have listed : (inPeriods configured.rule.years dt.year &&
      inPeriods configured.rule.months dt.month &&
      inPeriods configured.rule.daysofmonth dt.dayOfMonth &&
      inPeriods configured.rule.daysofweek dt.dayOfWeek &&
      configured.rule.inDayParts dt.hour dt.minute) = true ↔ configured.Listed dt := by
    simp only [Bool.and_eq_true, inPeriods_iff, inDayParts, and_assoc, Listed]
  rw [Rule.allowed, rule_eq.1]
  by_cases applies : configured.Listed dt
  · rw [if_pos (listed.mpr applies), if_pos applies]
    cases configured.allow <;> cases currentlyallowed <;> rfl
  · rw [if_neg (mt listed.mp applies), if_neg applies]

end Configured

/-! ## Schedules -/

/-- Where each rule that applies gives its own verdict, that of the last one is left. -/
theorem foldl_getLast {Given State : Type} {step : State → Given → State} {applies : Given → Bool}
    {verdict : Given → State} {rules : List Given}
    (steps : ∀ rule ∈ rules, ∀ state, step state rule = if applies rule then verdict rule else state)
    (state : State) :
    rules.foldl step state = ((rules.filter applies).getLast?.map verdict).getD state := by
  induction rules generalizing state with
  | nil => rfl
  | cons rule rules ih =>
      have first := steps rule List.mem_cons_self state
      rw [List.foldl_cons, first, ih fun rule member => steps rule (List.mem_cons_of_mem _ member)]
      by_cases applied : applies rule
      · rw [if_pos applied, List.filter_cons_of_pos applied, List.getLast?_cons]
        cases (rules.filter applies).getLast? <;> rfl
      · rw [if_neg applied, List.filter_cons_of_neg applied]

/-- The rules apply as they are meant to exactly if no time is missed for its minute. -/
theorem scheduled_iff {rules : List Configured} {dt : Datetime} {default : Bool} :
    Scheduled rules dt default ↔
      ∀ configured ∈ rules, configured.dayparts.Contains dt →
        ∃ range ∈ configured.dayparts.list, range.Notices dt := by
  constructor
  · intro scheduled configured member contains
    exact Configured.inDayParts_iff.mp ((scheduled.inDayParts configured member).mpr contains)
  · intro noticed
    have inDayParts : ∀ configured ∈ rules,
        configured.rule.inDayParts dt.hour dt.minute = true ↔ configured.dayparts.Contains dt := by
      intro configured member
      rw [Configured.inDayParts_iff]
      constructor
      · intro found
        obtain ⟨range, listed, notices⟩ := found
        exact ⟨range, listed, notices.contains⟩
      · exact noticed configured member
    have applies := fun configured member =>
      @Configured.allowed_eq configured dt (inDayParts configured member)
    constructor
    · exact inDayParts
    · exact applies
    · rw [rulesAllow, List.foldl_map, verdict]
      apply foldl_getLast
      intro configured member currentlyallowed
      rw [applies configured member]
      simp

theorem businessHours_made : Rule.init true (ascii "*") (ascii "*") (ascii "*") (ascii "2-5")
    (DayParts.ranges [Range.businessHours] (List.cons_ne_nil _ _)).text =
      some ⟨true, [⟨0, 65535⟩], [⟨1, 12⟩], [⟨1, 31⟩], [⟨2, 5⟩], [⟨8, 0, 17, 0⟩]⟩ := by
  decide +kernel

/-- `<allow when="* * * 2-5 8:00-17:00"/>` -/
def businessHours : Configured where
  allow := true
  years := ascii "*"
  months := ascii "*"
  daysofmonth := ascii "*"
  daysofweek := ascii "2-5"
  dayparts := .ranges [Range.businessHours] (List.cons_ne_nil _ _)
  rule := ⟨true, [⟨0, 65535⟩], [⟨1, 12⟩], [⟨1, 31⟩], [⟨2, 5⟩], [⟨8, 0, 17, 0⟩]⟩
  made := businessHours_made

def halfPastEight : Datetime := ⟨2024, 1, 15, 2, 8, 30, by decide⟩

/-- In business hours access is denied but for the first minute of an hour. -/
theorem businessHours_missed : ¬Scheduled [businessHours] halfPastEight false := by
  intro scheduled
  have understood := scheduled.inDayParts businessHours List.mem_cons_self
  have contains : businessHours.dayparts.Contains halfPastEight := by decide
  exact absurd (understood.mpr contains) (by decide)

end SqlRelay.Schedule
