import EntityQuery.Calendar.Date
import Mathlib.Order.Monotone.Basic

namespace EntityQuery.Calendar

theorem daysBeforeYear_succ (year : Int) :
    daysBeforeYear (year + 1) = daysBeforeYear year + 365 + if isLeapYear year then 1 else 0 := by
  simp only [daysBeforeYear, isLeapYear, Bool.and_eq_true, Bool.or_eq_true, beq_iff_eq, bne_iff_ne]
  split <;> omega

theorem daysBeforeYear_le_iff {year other : Int} :
    daysBeforeYear year ≤ daysBeforeYear other ↔ year ≤ other := by
  simp only [daysBeforeYear]
  omega

/-- A day lies between the starts of its year and of the next one. -/
theorem yearOfDay_spec (day : Int) :
    daysBeforeYear (yearOfDay day) ≤ day ∧ day < daysBeforeYear (yearOfDay day + 1) := by
  -- The guess is at most one year away: years start less than two days from the average.
  have hguess : daysBeforeYear (400 * day / 146097 - 1) ≤ day ∧
      day < daysBeforeYear (400 * day / 146097 + 1 + 1) := by
    simp only [daysBeforeYear]
    omega
  simp only [yearOfDay]
  split
  case isTrue hlow =>
    rw [Int.sub_add_cancel]
    exact ⟨hguess.1, hlow⟩
  case isFalse hlow =>
    split
    case isTrue hhigh => exact ⟨hhigh, hguess.2⟩
    case isFalse hhigh => exact ⟨Int.not_lt.mp hlow, Int.not_le.mp hhigh⟩

theorem le_yearOfDay_iff (year day : Int) : year ≤ yearOfDay day ↔ daysBeforeYear year ≤ day := by
  have hspec := yearOfDay_spec day
  constructor
  · intro hle
    exact Int.le_trans (daysBeforeYear_le_iff.mpr hle) hspec.1
  · intro hle
    have hlt : ¬ yearOfDay day + 1 ≤ year := fun hnext =>
      absurd (daysBeforeYear_le_iff.mpr hnext) (by omega)
    omega

/-- How many numbers have a property that passes on to all smaller ones. -/
private theorem lt_countP_range_iff (p : Nat → Bool) {count i : Nat}
    (hp : ∀ {i j}, i ≤ j → j < count → p j = true → p i = true) (hi : i < count) :
    i < (List.range count).countP p ↔ p i = true := by
  induction count with
  | zero => omega
  | succ count ih =>
    rw [List.range_succ, List.countP_append, List.countP_singleton]
    by_cases hcount : p count = true
    · have hall : (List.range count).countP p = count := by
        rw [List.countP_eq_length.mpr fun j hj => hp (Nat.le_of_lt (List.mem_range.mp hj))
          (Nat.lt_succ_self count) hcount, List.length_range]
      simp [hall, hcount, hi, hp (Nat.le_of_lt_succ hi) (Nat.lt_succ_self count) hcount]
    · rw [if_neg hcount, Nat.add_zero]
      rcases Nat.lt_or_eq_of_le (Nat.le_of_lt_succ hi) with hlt | rfl
      · exact ih (fun hij hj => hp hij (Nat.lt_succ_of_lt hj)) hlt
      · have hbound := List.countP_le_length (p := p) (l := List.range i)
        rw [List.length_range] at hbound
        exact ⟨fun h => absurd h (by omega), fun h => absurd h hcount⟩

theorem daysBeforeMonth_succ_le {leap : Bool} {month : Nat} (hmonth : month ≤ 12) :
    daysBeforeMonth leap month ≤ daysBeforeMonth leap (month + 1) := by
  revert month leap
  decide

theorem daysBeforeMonth_mono (leap : Bool) {month other : Nat} (h : month ≤ other)
    (hother : other ≤ 13) : daysBeforeMonth leap month ≤ daysBeforeMonth leap other := by
  induction h with
  | refl => exact Nat.le_refl _
  | step _ ih => exact Nat.le_trans (ih (by omega)) (daysBeforeMonth_succ_le (by omega))

/-- The twelve months make up a year. -/
theorem daysBeforeYear_succ_eq_months (year : Int) :
    daysBeforeYear (year + 1) = daysBeforeYear year + daysBeforeMonth (isLeapYear year) 13 := by
  rw [daysBeforeYear_succ]
  cases isLeapYear year with
  | false => exact Int.add_assoc _ _ _
  | true => exact Int.add_assoc _ _ _

theorem daysInMonth_pos (leap : Bool) {month : Nat} (hfirst : 1 ≤ month) (hlast : month ≤ 12) :
    1 ≤ daysInMonth leap month := by
  revert hfirst
  revert month leap
  decide

theorem daysInMonth_le (leap : Bool) {month : Nat} (hlast : month ≤ 12) :
    daysInMonth leap month ≤ 31 := by
  revert month leap
  decide

theorem le_monthOfDay_iff {leap : Bool} {month dayOfYear : Nat} (hfirst : 1 ≤ month)
    (hlast : month ≤ 12) :
    month ≤ monthOfDay leap dayOfYear ↔ daysBeforeMonth leap month ≤ dayOfYear := by
  have hcount := lt_countP_range_iff
    (fun month => decide (daysBeforeMonth leap (month + 1) ≤ dayOfYear)) ?_
    (show month - 1 < 12 by omega)
  · rw [decide_eq_true_iff, Nat.sub_add_cancel hfirst] at hcount
    rw [← hcount, monthOfDay]
    omega
  · intro i j hij hj hbegun
    rw [decide_eq_true_iff] at hbegun ⊢
    exact Nat.le_trans (daysBeforeMonth_mono leap (by omega) (by omega)) hbegun

theorem monthOfDay_le (leap : Bool) (dayOfYear : Nat) : monthOfDay leap dayOfYear ≤ 12 :=
  List.countP_le_length

theorem one_le_monthOfDay (leap : Bool) (dayOfYear : Nat) : 1 ≤ monthOfDay leap dayOfYear :=
  (le_monthOfDay_iff (Nat.le_refl 1) (by decide)).mpr (Nat.zero_le _)

/-- The number of days from the start of the year 0 to the start of a month, where the months are
    counted from the first one of that year. -/
def daysBeforeMonthIndex (index : Int) : Int :=
  daysBeforeYear (index / 12) +
    daysBeforeMonth (isLeapYear (index / 12)) ((index % 12).toNat + 1)

theorem daysBeforeMonthIndex_of_month (year : Int) {month : Nat} (hfirst : 1 ≤ month)
    (hlast : month ≤ 12) : daysBeforeMonthIndex (12 * year + (month - 1 : Nat)) =
      daysBeforeYear year + daysBeforeMonth (isLeapYear year) month := by
  have hyear : (12 * year + ((month - 1 : Nat) : Int)) / 12 = year := by omega
  have hmonth : ((12 * year + ((month - 1 : Nat) : Int)) % 12).toNat + 1 = month := by omega
  rw [daysBeforeMonthIndex, hyear, hmonth]

theorem daysBeforeMonthIndex_year (year : Int) :
    daysBeforeMonthIndex (12 * year) = daysBeforeYear year := by
  have hfirst := daysBeforeMonthIndex_of_month year (Nat.le_refl 1) (by decide)
  rw [show daysBeforeMonth (isLeapYear year) 1 = 0 from rfl] at hfirst
  simpa using hfirst

/-- Every number is the one of a month of some year. -/
private theorem exists_month (index : Int) : ∃ (year : Int) (month : Nat), 1 ≤ month ∧ month ≤ 12 ∧
    index = 12 * year + (month - 1 : Nat) :=
  ⟨index / 12, (index % 12).toNat + 1, by omega, by omega, by omega⟩

theorem daysBeforeMonthIndex_lt_succ (index : Int) :
    daysBeforeMonthIndex index < daysBeforeMonthIndex (index + 1) := by
  obtain ⟨year, month, hfirst, hlast, rfl⟩ := exists_month index
  have hlength := daysInMonth_pos (isLeapYear year) hfirst hlast
  rw [daysInMonth] at hlength
  rw [daysBeforeMonthIndex_of_month year hfirst hlast]
  by_cases hend : month = 12
  · have hyears := daysBeforeYear_succ_eq_months year
    subst hend
    rw [show 12 + 1 = 13 from rfl] at hlength
    rw [show 12 * year + ((12 - 1 : Nat) : Int) + 1 = 12 * (year + 1) by omega,
      daysBeforeMonthIndex_year]
    omega
  · have hnext := daysBeforeMonthIndex_of_month year (show 1 ≤ month + 1 by omega) (by omega)
    rw [show 12 * year + ((month - 1 : Nat) : Int) + 1 = 12 * year + (month + 1 - 1 : Nat) by omega,
      hnext]
    omega

theorem daysBeforeMonthIndex_mono {index other : Int} (h : index ≤ other) :
    daysBeforeMonthIndex index ≤ daysBeforeMonthIndex other :=
  (strictMono_int_of_lt_succ daysBeforeMonthIndex_lt_succ).monotone h

namespace Date

variable {date : Date}

theorem dayOfYear_spec (date : Date) :
    date.day = daysBeforeYear date.year + date.dayOfYear ∧
      date.dayOfYear < daysBeforeMonth (isLeapYear date.year) 13 := by
  have hspec : daysBeforeYear date.year ≤ date.day ∧ date.day < daysBeforeYear (date.year + 1) :=
    yearOfDay_spec date.day
  rw [daysBeforeYear_succ_eq_months] at hspec
  rw [dayOfYear]
  omega

theorem one_le_month (date : Date) : 1 ≤ date.month := one_le_monthOfDay _ _

theorem month_le (date : Date) : date.month ≤ 12 := monthOfDay_le _ _

theorem le_month_iff (date : Date) {month : Nat} (hfirst : 1 ≤ month) (hlast : month ≤ 12) :
    month ≤ date.month ↔ daysBeforeMonth (isLeapYear date.year) month ≤ date.dayOfYear :=
  le_monthOfDay_iff hfirst hlast

/-- A day lies between the starts of its month and of the next one. -/
theorem month_spec (date : Date) :
    daysBeforeMonth (isLeapYear date.year) date.month ≤ date.dayOfYear ∧
      date.dayOfYear < daysBeforeMonth (isLeapYear date.year) (date.month + 1) := by
  refine ⟨(date.le_month_iff date.one_le_month date.month_le).mp (Nat.le_refl _), ?_⟩
  by_cases hlast : date.month = 12
  · rw [hlast]
    exact date.dayOfYear_spec.2
  · have hmonth := date.month_le
    have hnext := date.le_month_iff (show 1 ≤ date.month + 1 by omega) (by omega)
    omega

theorem dayOfMonth_spec (date : Date) :
    date.day = daysBeforeYear date.year + daysBeforeMonth (isLeapYear date.year) date.month +
        (date.dayOfMonth - 1 : Nat) ∧
      1 ≤ date.dayOfMonth ∧ date.dayOfMonth ≤ daysInMonth (isLeapYear date.year) date.month := by
  have hyear := date.dayOfYear_spec
  have hmonth := date.month_spec
  rw [dayOfMonth, daysInMonth]
  omega

theorem dayOfMonth_le (date : Date) : date.dayOfMonth ≤ 31 :=
  Nat.le_trans date.dayOfMonth_spec.2.2 (daysInMonth_le _ date.month_le)

theorem ofDay?_day (date : Date) : ofDay? date.day = some date := dif_pos date.inRange

/-- A date is found again by its fields. -/
theorem ofYearMonthDay?_fields (date : Date) :
    ofYearMonthDay? date.year date.month date.dayOfMonth = some date := by
  obtain ⟨hday, hfirst, hlast⟩ := date.dayOfMonth_spec
  simp only [ofYearMonthDay?, date.one_le_month, date.month_le, hfirst, hlast, decide_true,
    Bool.and_self, if_true]
  rw [← hday, ofDay?_day]

/-- The first day of a month. -/
theorem ofYearMonthDay?_first (year : Int) {month : Nat} (hfirst : 1 ≤ month) (hlast : month ≤ 12) :
    ofYearMonthDay? year month 1 =
      ofDay? (daysBeforeMonthIndex (12 * year + (month - 1 : Nat))) := by
  rw [daysBeforeMonthIndex_of_month year hfirst hlast]
  simp [ofYearMonthDay?, hfirst, hlast, daysInMonth_pos _ hfirst hlast]

/-- The number of a date's month, counted from the first month of the year 0. -/
def monthIndex (date : Date) : Int := 12 * date.year + (date.month - 1 : Nat)

theorem le_monthIndex_iff (date : Date) (index : Int) :
    index ≤ date.monthIndex ↔ daysBeforeMonthIndex index ≤ date.day := by
  obtain ⟨year, month, hfirst, hlast, rfl⟩ := exists_month index
  rw [daysBeforeMonthIndex_of_month year hfirst hlast, monthIndex]
  have hone := date.one_le_month
  have htwelve := date.month_le
  have hfields := date.dayOfYear_spec
  have hlength := daysBeforeMonth_mono (isLeapYear year) (show month ≤ 13 by omega)
    (Nat.le_refl _)
  have hend := daysBeforeYear_succ_eq_months year
  have hown := daysBeforeYear_succ_eq_months date.year
  rcases Int.lt_trichotomy year date.year with hearlier | rfl | hlater
  · have hyears := daysBeforeYear_le_iff.mpr (Int.add_one_le_of_lt hearlier)
    omega
  · have hmonths := date.le_month_iff hfirst hlast
    omega
  · have hyears := daysBeforeYear_le_iff.mpr (Int.add_one_le_of_lt hlater)
    omega

theorem monthIndex_of_day_eq {index : Int} (hfirst : date.day = daysBeforeMonthIndex index) :
    date.monthIndex = index := by
  have hlow := date.le_monthIndex_iff index
  have hhigh := date.le_monthIndex_iff (index + 1)
  have hnext := daysBeforeMonthIndex_lt_succ index
  omega

theorem dayOfMonth_of_day_eq {index : Int} (hfirst : date.day = daysBeforeMonthIndex index) :
    date.dayOfMonth = 1 := by
  have hfields := date.dayOfMonth_spec
  have hmonth := daysBeforeMonthIndex_of_month date.year date.one_le_month date.month_le
  change daysBeforeMonthIndex date.monthIndex = _ at hmonth
  rw [monthIndex_of_day_eq hfirst] at hmonth
  omega

/-- From the first day of a month, some months lead to the first day of another one. -/
theorem addMonths?_first {index : Int} (hfirst : date.day = daysBeforeMonthIndex index)
    (months : Int) : date.addMonths? months = ofDay? (daysBeforeMonthIndex (index + months)) := by
  have hindex : 12 * date.year + ((date.month - 1 : Nat) : Int) = index :=
    monthIndex_of_day_eq hfirst
  have hmonth : 1 ≤ ((index + months) % 12).toNat + 1 := by omega
  have hmonth' : ((index + months) % 12).toNat + 1 ≤ 12 := by omega
  simp only [addMonths?, hindex, dayOfMonth_of_day_eq hfirst]
  rw [Nat.min_eq_left (daysInMonth_pos _ hmonth hmonth'), ofYearMonthDay?_first _ hmonth hmonth']
  congr 2
  omega

end Date

end EntityQuery.Calendar
