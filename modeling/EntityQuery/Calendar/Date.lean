namespace EntityQuery.Calendar

/-- Whether a year of the Gregorian calendar has a 29th of February. -/
def isLeapYear (year : Int) : Bool := year % 4 == 0 && (year % 100 != 0 || year % 400 == 0)

/-- The number of days from the start of the year 0 to the start of a year, negative for
    years before it. -/
def daysBeforeYear (year : Int) : Int :=
  365 * year + (year + 3) / 4 - (year + 99) / 100 + (year + 399) / 400

/-- The number of days from the start of a year to the start of a month. -/
def daysBeforeMonth (leap : Bool) (month : Nat) : Nat :=
  match month with
  | 0 | 1 => 0
  | 2 => 31
  | month + 3 =>
    (if leap then 1 else 0) + [59, 90, 120, 151, 181, 212, 243, 273, 304, 334].getD month 365

def daysInMonth (leap : Bool) (month : Nat) : Nat :=
  daysBeforeMonth leap (month + 1) - daysBeforeMonth leap month

/-- The first day of the calendar, 1 January of the year -262143. -/
def firstDay : Int := daysBeforeYear (-262143)

/-- The last day of the calendar, 31 December of the year 262142. -/
def lastDay : Int := daysBeforeYear 262143 - 1

/-- The year that a day lies in. Four hundred years have 146097 days, which tells the year
    up to its neighbours. -/
def yearOfDay (day : Int) : Int :=
  let guess := 400 * day / 146097
  if day < daysBeforeYear guess then guess - 1
  else if daysBeforeYear (guess + 1) ≤ day then guess + 1
  else guess

/-- The month that a day of a year lies in, as the number of months that have begun. -/
def monthOfDay (leap : Bool) (dayOfYear : Nat) : Nat :=
  (List.range 12).countP fun month => daysBeforeMonth leap (month + 1) ≤ dayOfYear

/-- A day of the proleptic Gregorian calendar, counted from the start of the year 0. -/
structure Date where
  day : Int
  inRange : firstDay ≤ day ∧ day ≤ lastDay
deriving DecidableEq

namespace Date

/-- The date with a day number, if the calendar reaches it. -/
def ofDay? (day : Int) : Option Date :=
  if h : firstDay ≤ day ∧ day ≤ lastDay then some ⟨day, h⟩ else none

def year (date : Date) : Int := yearOfDay date.day

def dayOfYear (date : Date) : Nat := (date.day - daysBeforeYear date.year).toNat

def month (date : Date) : Nat := monthOfDay (isLeapYear date.year) date.dayOfYear

/-- The day of the month, starting at one. -/
def dayOfMonth (date : Date) : Nat :=
  date.dayOfYear - daysBeforeMonth (isLeapYear date.year) date.month + 1

/-- The date with a year, a month and a day of the month, if there is such a day. -/
def ofYearMonthDay? (year : Int) (month day : Nat) : Option Date :=
  let leap := isLeapYear year
  if 1 ≤ month && month ≤ 12 && 1 ≤ day && day ≤ daysInMonth leap month then
    ofDay? (daysBeforeYear year + daysBeforeMonth leap month + (day - 1 : Nat))
  else none

def daysSinceMonday (date : Date) : Int := (date.day + 5) % 7

/-- The same day of the month some months later, or the last day of the month if it has
    no such day. -/
def addMonths? (date : Date) (months : Int) : Option Date :=
  let count := 12 * date.year + (date.month - 1 : Nat) + months
  let year := count / 12
  let month := (count % 12).toNat + 1
  ofYearMonthDay? year month (min date.dayOfMonth (daysInMonth (isLeapYear year) month))

end Date

end EntityQuery.Calendar
