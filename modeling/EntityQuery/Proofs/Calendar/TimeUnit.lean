import EntityQuery.Calendar.TimeUnit
import EntityQuery.Proofs.Calendar.DateTime

namespace EntityQuery.Calendar.TimeUnit

open DateTime (ofSeconds? ofSeconds?_eq_some_iff)

variable {unit : TimeUnit} {instant start : DateTime} {number : Int}

/-- The number of seconds from the start of the year 0 to the start of a unit. Units are counted
    from that year on, and weeks from the Monday in the first of its two weeks. -/
def firstSecond (unit : TimeUnit) (number : Int) : Int :=
  match unit with
  | second => number
  | minute => 60 * number
  | hour => 3600 * number
  | day => 86400 * number
  | week => 86400 * (7 * number - 5)
  | month => 86400 * daysBeforeMonthIndex number
  | year => 86400 * daysBeforeYear number

/-- The number of the unit that an instant lies in. -/
def numberOf (unit : TimeUnit) (instant : DateTime) : Int :=
  match unit with
  | second => instant.seconds
  | minute => instant.seconds / 60
  | hour => instant.seconds / 3600
  | day => instant.date.day
  | week => (instant.date.day + 5) / 7
  | month => instant.date.monthIndex
  | year => instant.date.year

/-- An instant lies in a unit or after it if the unit has started. -/
theorem le_numberOf_iff (unit : TimeUnit) (number : Int) (instant : DateTime) :
    number ≤ unit.numberOf instant ↔ unit.firstSecond number ≤ instant.seconds := by
  have hsecond := instant.time.second_lt
  cases unit with
  | second => exact Iff.rfl
  | minute | hour =>
    simp only [numberOf, firstSecond]
    omega
  | day | week =>
    simp only [numberOf, firstSecond, DateTime.seconds]
    omega
  | month =>
    have hmonth := instant.date.le_monthIndex_iff number
    simp only [numberOf, firstSecond, DateTime.seconds]
    omega
  | year =>
    have hyear := le_yearOfDay_iff number instant.date.day
    simp only [numberOf, firstSecond, DateTime.seconds]
    change number ≤ yearOfDay _ ↔ _
    omega

/-- An instant lies in the unit that has started and that is not over. -/
theorem numberOf_eq_iff : unit.numberOf instant = number ↔
    unit.firstSecond number ≤ instant.seconds ∧
      instant.seconds < unit.firstSecond (number + 1) := by
  have hlow := le_numberOf_iff unit number instant
  have hhigh := le_numberOf_iff unit (number + 1) instant
  omega

theorem firstSecond_lt_succ (unit : TimeUnit) (number : Int) :
    unit.firstSecond number < unit.firstSecond (number + 1) := by
  cases unit with
  | month =>
    have hmonth := daysBeforeMonthIndex_lt_succ number
    simp only [firstSecond]
    omega
  | year =>
    have hyear := daysBeforeYear_succ number
    simp only [firstSecond]
    omega
  | _ =>
    simp only [firstSecond]
    omega

/-- The start of a unit, if the calendar reaches it. -/
def start? (unit : TimeUnit) (number : Int) : Option DateTime :=
  ofSeconds? (unit.firstSecond number)

theorem start?_eq_some_iff : unit.start? number = some start ↔
    start.seconds = unit.firstSecond number ∧ start.time.nano = 0 := ofSeconds?_eq_some_iff

/-- A unit starts within itself. -/
theorem numberOf_of_start? (hstart : unit.start? number = some start) :
    unit.numberOf start = number := by
  have hseconds := (start?_eq_some_iff.mp hstart).1
  rw [numberOf_eq_iff, hseconds]
  exact ⟨Int.le_refl _, firstSecond_lt_succ unit number⟩

theorem exists_start?_iff : (∃ start, unit.start? number = some start) ↔
    86400 * firstDay ≤ unit.firstSecond number ∧
      unit.firstSecond number < 86400 * (lastDay + 1) := by
  constructor
  · rintro ⟨start, hstart⟩
    have hseconds := (start?_eq_some_iff.mp hstart).1
    have hsecond := start.time.second_lt
    obtain ⟨hfirst, hlast⟩ := start.date.inRange
    rw [DateTime.seconds] at hseconds
    omega
  · rintro ⟨hfirst, hlast⟩
    have hday : firstDay ≤ unit.firstSecond number / 86400 ∧
        unit.firstSecond number / 86400 ≤ lastDay := by omega
    rw [start?, ofSeconds?, DateTime.ofDay?, Date.ofDay?, dif_pos hday]
    exact ⟨_, rfl⟩

/-- The calendar reaches the units around an instant in all but its outermost years. -/
theorem exists_start? (unit : TimeUnit) (instant : DateTime) (offset : Int) (hlow : -1 ≤ offset)
    (hhigh : offset ≤ 2) (hfirst : -262142 ≤ instant.date.year)
    (hlast : instant.date.year ≤ 262140) :
    ∃ start, unit.start? (unit.numberOf instant + offset) = some start := by
  have hsecond := instant.time.second_lt
  have hbegun := (le_yearOfDay_iff _ _).mp hfirst
  have hended := mt (le_yearOfDay_iff _ _).mpr (Int.not_le.mpr (Int.lt_add_one_of_le hlast))
  simp only [exists_start?_iff, firstDay, lastDay]
  simp only [daysBeforeYear] at hbegun hended ⊢
  cases unit with
  | month =>
    have hmonth := Date.month_le instant.date
    have hearliest := daysBeforeMonthIndex_mono (show 12 * (-262143 : Int) ≤
      instant.date.monthIndex + offset by rw [Date.monthIndex]; omega)
    have hlatest := daysBeforeMonthIndex_mono (show instant.date.monthIndex + offset ≤
      12 * (262142 : Int) by rw [Date.monthIndex]; omega)
    simp only [daysBeforeMonthIndex_year, daysBeforeYear] at hearliest hlatest
    simp only [firstSecond, numberOf]
    omega
  | year =>
    simp only [firstSecond, numberOf, daysBeforeYear]
    omega
  | _ =>
    simp only [firstSecond, numberOf, DateTime.seconds]
    omega

/-- Truncation leads to the start of the unit that an instant lies in. -/
theorem truncate?_eq (unit : TimeUnit) (instant : DateTime) :
    unit.truncate? instant = unit.start? (unit.numberOf instant) := by
  have hsecond := instant.time.second_lt
  -- Up to an hour the day stays, so that the start is reached.
  have hwithin : ∀ (time : TimeOfDay) (total : Int), time.nano = 0 →
      86400 * instant.date.day + time.second = total →
      some ⟨instant.date, time⟩ = ofSeconds? total := by
    intro time total hnano hseconds
    have hstart : DateTime.seconds ⟨instant.date, time⟩ = total := hseconds
    exact (ofSeconds?_eq_some_iff.mpr ⟨hstart, hnano⟩).symm
  cases unit with
  | second =>
    refine hwithin _ _ rfl ?_
    simp only [TimeOfDay.atSecond, TimeOfDay.ofSecond, firstSecond, numberOf, DateTime.seconds]
    omega
  | minute =>
    refine hwithin _ _ rfl ?_
    simp only [TimeOfDay.atMinute, TimeOfDay.ofSecond, firstSecond, numberOf, DateTime.seconds]
    omega
  | hour =>
    refine hwithin _ _ rfl ?_
    simp only [TimeOfDay.atHour, TimeOfDay.ofSecond, firstSecond, numberOf, DateTime.seconds]
    omega
  | day => exact hwithin _ _ rfl (Int.add_zero _)
  | week =>
    rw [start?, firstSecond, DateTime.ofSeconds?_day, truncate?, Date.daysSinceMonday, numberOf]
    congr 1
    omega
  | month =>
    have hfields := instant.date.dayOfMonth_spec
    rw [start?, firstSecond, DateTime.ofSeconds?_day, truncate?, numberOf, Date.monthIndex,
      daysBeforeMonthIndex_of_month _ instant.date.one_le_month instant.date.month_le]
    congr 1
    omega
  | year => exact (DateTime.ofSeconds?_day _).symm

/-- From the start of a unit, some units lead to the start of another one. -/
theorem shift?_of_start? (hstart : unit.start? number = some start) (amount : Int) :
    unit.shift? start amount = unit.start? (number + amount) := by
  obtain ⟨hseconds, hnano⟩ := start?_eq_some_iff.mp hstart
  have hsecond := start.time.second_lt
  have hmonths : ∀ {index : Int}, start.seconds = 86400 * daysBeforeMonthIndex index →
      ∀ months, start.addMonths? months =
        ofSeconds? (86400 * daysBeforeMonthIndex (index + months)) := by
    intro index hindex months
    rw [DateTime.seconds] at hindex
    have htime : start.time = TimeOfDay.midnight :=
      TimeOfDay.eq_of_fields (show start.time.second = 0 by omega) hnano
    have hfirst : start.date.day = daysBeforeMonthIndex index := by omega
    rw [DateTime.addMonths?, Date.addMonths?_first hfirst, htime,
      DateTime.ofSeconds?_day]
    rfl
  cases unit with
  | second =>
    rw [shift?, DateTime.addSeconds?_of_nano_eq_zero hnano, hseconds]
    rfl
  | minute | hour | day | week =>
    rw [shift?, DateTime.addSeconds?_of_nano_eq_zero hnano, hseconds, start?]
    refine congrArg ofSeconds? ?_
    simp only [firstSecond]
    omega
  | month => exact hmonths hseconds amount
  | year =>
    rw [firstSecond, ← daysBeforeMonthIndex_year] at hseconds
    rw [shift?, hmonths hseconds, ← Int.mul_add, daysBeforeMonthIndex_year]
    rfl

end EntityQuery.Calendar.TimeUnit
