import EntityQuery.Proofs.Calendar.TimeUnit

namespace EntityQuery.Calendar

namespace Date

variable {date later : Date} {year months : Int} {month day : Nat}

theorem ofYearMonthDay?_eq_some_iff : ofYearMonthDay? year month day = some date ↔
    ((1 ≤ month ∧ month ≤ 12) ∧ 1 ≤ day ∧ day ≤ daysInMonth (isLeapYear year) month) ∧
      date.day = daysBeforeYear year + daysBeforeMonth (isLeapYear year) month +
        (day - 1 : Nat) := by
  simp only [ofYearMonthDay?, Option.ite_none_right_eq_some, Bool.and_eq_true, decide_eq_true_eq,
    ofDay?_eq_some_iff, and_assoc]

/-- Some months later means a later day, even where the day of the month has to give way. -/
theorem day_lt_of_addMonths? (hmonths : 0 < months) (h : date.addMonths? months = some later) :
    date.day < later.day := by
  simp only [addMonths?] at h
  obtain ⟨⟨⟨hfirst, hlast⟩, -⟩, hday⟩ := ofYearMonthDay?_eq_some_iff.mp h
  have hstart := daysBeforeMonthIndex_of_month
    ((12 * date.year + (date.month - 1 : Nat) + months) / 12) hfirst hlast
  have hindex : 12 * ((12 * date.year + (date.month - 1 : Nat) + months) / 12) +
      (((12 * date.year + (date.month - 1 : Nat) + months) % 12).toNat + 1 - 1 : Nat) =
        date.monthIndex + months := by
    rw [monthIndex]
    omega
  rw [hindex] at hstart
  have hover : ¬ date.monthIndex + 1 ≤ date.monthIndex := by omega
  rw [le_monthIndex_iff] at hover
  have hnext := daysBeforeMonthIndex_mono
    (show date.monthIndex + 1 ≤ date.monthIndex + months by omega)
  omega

end Date

namespace DateTime

variable {instant later a b : DateTime} {amount months : Int}

theorem compare_self (a : DateTime) : compare a a = .eq := by
  simp [compare_eq_compare_seconds]

theorem compare_of_seconds_lt (h : a.seconds < b.seconds) : compare a b = .lt := by
  rw [compare_eq_compare_seconds, Int.compare_eq_lt.mpr h]
  rfl

/-- Forward from an instant, seconds are counted off exactly, also out of a leap second. -/
theorem seconds_of_addSeconds? (hamount : 0 ≤ amount)
    (h : instant.addSeconds? amount = some later) : later.seconds = instant.seconds + amount := by
  rw [addSeconds?] at h
  split at h
  case isTrue hzero =>
    cases h
    rw [eq_of_beq hzero, Int.add_zero]
  case isFalse =>
    have hforward : (instant.time.isLeap && decide (amount < 0)) = false := by
      rw [decide_eq_false (Int.not_lt.mpr hamount), Bool.and_false]
    simp only [hforward, Bool.false_eq_true, if_false, Int.add_zero, ofDay?,
      Option.map_eq_some_iff, Date.ofDay?_eq_some_iff] at h
    obtain ⟨date, hday, rfl⟩ := h
    simp only [seconds, hday, TimeOfDay.ofSecond]
    omega

theorem seconds_lt_of_addMonths? (hmonths : 0 < months)
    (h : instant.addMonths? months = some later) : instant.seconds < later.seconds := by
  obtain ⟨date, hdate, rfl⟩ := Option.map_eq_some_iff.mp h
  have hday := Date.day_lt_of_addMonths? hmonths hdate
  simp only [seconds]
  omega

end DateTime

namespace TimeUnit

variable {unit : TimeUnit} {instant later : DateTime} {amount : Int}

/-- Any number of units later is a later second. -/
theorem seconds_lt_of_shift? (hamount : 0 < amount) (h : unit.shift? instant amount = some later) :
    instant.seconds < later.seconds := by
  have hseconds : ∀ {total : Int}, 0 < total → instant.addSeconds? total = some later →
      instant.seconds < later.seconds := by
    intro total htotal hlater
    have hexact := DateTime.seconds_of_addSeconds? (Int.le_of_lt htotal) hlater
    omega
  cases unit with
  | second => exact hseconds hamount h
  | minute | hour | day | week => exact hseconds (by omega) h
  | month => exact DateTime.seconds_lt_of_addMonths? hamount h
  | year => exact DateTime.seconds_lt_of_addMonths? (by omega) h

end TimeUnit

end EntityQuery.Calendar
