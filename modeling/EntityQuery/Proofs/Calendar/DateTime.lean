import EntityQuery.Calendar.DateTime
import EntityQuery.Proofs.Calendar.Date

namespace EntityQuery.Calendar

theorem TimeOfDay.eq_of_fields {a b : TimeOfDay} (hsecond : a.second = b.second)
    (hnano : a.nano = b.nano) : a = b := by
  cases a
  cases b
  cases hsecond
  cases hnano
  rfl

theorem Date.ofDay?_eq_some_iff {day : Int} {date : Date} :
    ofDay? day = some date ↔ date.day = day := by
  constructor
  · intro h
    rw [ofDay?] at h
    split at h
    case isTrue => exact Option.some.inj h ▸ rfl
    case isFalse => cases h
  · rintro rfl
    exact date.ofDay?_day

namespace DateTime

variable {instant : DateTime}

/-- The number of seconds that have passed since the start of the year 0. A leap second is a part
    of the second before it. -/
def seconds (instant : DateTime) : Int := 86400 * instant.date.day + instant.time.second

/-- The instant at which a second starts, if the calendar reaches it. -/
def ofSeconds? (seconds : Int) : Option DateTime :=
  ofDay? (seconds / 86400) (TimeOfDay.ofSecond (seconds % 86400).toNat 0)

theorem ofSeconds?_eq_some_iff {total : Int} :
    ofSeconds? total = some instant ↔ instant.seconds = total ∧ instant.time.nano = 0 := by
  rw [ofSeconds?, ofDay?, Option.map_eq_some_iff, seconds]
  constructor
  · rintro ⟨date, hdate, rfl⟩
    rw [Date.ofDay?_eq_some_iff.mp hdate]
    refine ⟨?_, rfl⟩
    change 86400 * (total / 86400) + (((total % 86400).toNat % 86400 : Nat) : Int) = total
    omega
  · rintro ⟨hseconds, hnano⟩
    have hsecond := instant.time.second_lt
    have hday : instant.date.day = total / 86400 := by omega
    refine ⟨instant.date, Date.ofDay?_eq_some_iff.mpr hday, ?_⟩
    rw [show TimeOfDay.ofSecond (total % 86400).toNat 0 = instant.time from ?_]
    refine TimeOfDay.eq_of_fields ?_ hnano.symm
    change (total % 86400).toNat % 86400 = instant.time.second
    omega

/-- The first second of a day. -/
theorem ofSeconds?_day (day : Int) : ofSeconds? (86400 * day) = ofDay? day TimeOfDay.midnight := by
  rw [ofSeconds?, Int.mul_ediv_cancel_left _ (by decide), Int.mul_emod_right]
  rfl

/-- Seconds are added to an instant at which a second starts. -/
theorem addSeconds?_of_nano_eq_zero (hnano : instant.time.nano = 0) (amount : Int) :
    instant.addSeconds? amount = ofSeconds? (instant.seconds + amount) := by
  rw [addSeconds?]
  split
  case isTrue hzero =>
    rw [eq_of_beq hzero, Int.add_zero]
    exact (ofSeconds?_eq_some_iff.mpr ⟨rfl, hnano⟩).symm
  case isFalse =>
    have hleap : instant.time.isLeap = false := by simp [TimeOfDay.isLeap, hnano]
    have hday : instant.date.day + (instant.time.second + amount) / 86400 =
        (instant.seconds + amount) / 86400 := by
      rw [seconds]
      omega
    have hsecond : (instant.time.second + amount) % 86400 = (instant.seconds + amount) % 86400 := by
      rw [seconds]
      omega
    simp only [hleap, hnano, Bool.false_and, Bool.false_eq_true, if_false, Int.add_zero, hday,
      hsecond]
    rfl

/-- Instants are ordered by the second, and within it by the nanosecond. -/
theorem compare_eq_compare_seconds (a b : DateTime) : compare a b =
    (Ord.compare a.seconds b.seconds).then (Ord.compare a.time.nano b.time.nano) := by
  have ha := a.time.second_lt
  have hb := b.time.second_lt
  rw [compare]
  congr 1
  rcases Int.lt_trichotomy a.date.day b.date.day with hlt | hday | hgt
  · rw [Int.compare_eq_lt.mpr hlt, Int.compare_eq_lt.mpr (by simp only [seconds]; omega)]
    rfl
  · rw [Int.compare_eq_eq.mpr hday, Ordering.eq_then]
    rcases Nat.lt_trichotomy a.time.second b.time.second with hlt | heq | hgt
    · rw [Nat.compare_eq_lt.mpr hlt, Int.compare_eq_lt.mpr (by simp only [seconds]; omega)]
    · rw [Nat.compare_eq_eq.mpr heq, Int.compare_eq_eq.mpr (by simp only [seconds]; omega)]
    · rw [Nat.compare_eq_gt.mpr hgt, Int.compare_eq_gt.mpr (by simp only [seconds]; omega)]
  · rw [Int.compare_eq_gt.mpr hgt, Int.compare_eq_gt.mpr (by simp only [seconds]; omega)]
    rfl

theorem isLE_compare_iff {start : DateTime} (hnano : start.time.nano = 0) :
    (compare start instant).isLE = true ↔ start.seconds ≤ instant.seconds := by
  have hfraction : (Ord.compare start.time.nano instant.time.nano).isLE = true :=
    Nat.isLE_compare.mpr (hnano ▸ Nat.zero_le _)
  rw [compare_eq_compare_seconds, Ordering.isLE_then_iff_and, Int.isLE_compare]
  exact and_iff_left (.inr hfraction)

theorem isLT_compare_iff {stop : DateTime} (hnano : stop.time.nano = 0) :
    (compare instant stop).isLT = true ↔ instant.seconds < stop.seconds := by
  have hfraction : Ord.compare instant.time.nano stop.time.nano ≠ .lt := fun hlt =>
    Nat.not_lt_zero _ (hnano ▸ Nat.compare_eq_lt.mp hlt)
  rw [compare_eq_compare_seconds, Ordering.isLT_iff_eq_lt, Ordering.then_eq_lt, Int.compare_eq_lt]
  exact or_iff_left fun h => hfraction h.2

end DateTime

end EntityQuery.Calendar
