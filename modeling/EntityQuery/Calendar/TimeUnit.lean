import EntityQuery.Calendar.DateTime

namespace EntityQuery.Calendar

/-- A unit of the calendar. Weeks start on Monday. -/
inductive TimeUnit where
  | second
  | minute
  | hour
  | day
  | week
  | month
  | year
deriving DecidableEq, Repr

namespace TimeUnit

/-- The unit that an English word names, in the singular or the plural. -/
def ofWord? (word : String) : Option TimeUnit :=
  let letters := word.toList
  match String.ofList (if letters.getLast? == some 's' then letters.dropLast else letters) with
  | "second" | "sec" => some .second
  | "minute" | "min" => some .minute
  | "hour" => some .hour
  | "day" => some .day
  | "week" => some .week
  | "month" => some .month
  | "year" => some .year
  | _ => none

/-- The instant some units later, or earlier for a negative amount, if the calendar
    reaches it. -/
def shift? (unit : TimeUnit) (instant : DateTime) (amount : Int) : Option DateTime :=
  match unit with
  | second => instant.addSeconds? amount
  | minute => instant.addSeconds? (60 * amount)
  | hour => instant.addSeconds? (3600 * amount)
  | day => instant.addSeconds? (86400 * amount)
  | week => instant.addSeconds? (604800 * amount)
  | month => instant.addMonths? amount
  | year => instant.addMonths? (12 * amount)

/-- The start of the unit that an instant lies in, if the calendar reaches it. -/
def truncate? (unit : TimeUnit) (instant : DateTime) : Option DateTime :=
  match unit with
  | second => some ⟨instant.date, instant.time.atSecond⟩
  | minute => some ⟨instant.date, instant.time.atMinute⟩
  | hour => some ⟨instant.date, instant.time.atHour⟩
  | day => some ⟨instant.date, TimeOfDay.midnight⟩
  | week => DateTime.ofDay? (instant.date.day - instant.date.daysSinceMonday) TimeOfDay.midnight
  | month =>
    DateTime.ofDay? (instant.date.day - (instant.date.dayOfMonth - 1 : Nat)) TimeOfDay.midnight
  | year => DateTime.ofDay? (daysBeforeYear instant.date.year) TimeOfDay.midnight

end TimeUnit

end EntityQuery.Calendar
