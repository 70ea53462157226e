import EntityQuery.Calendar.Date
import EntityQuery.Calendar.TimeOfDay

namespace EntityQuery.Calendar

/-- A date and a time of day, without a time zone. -/
structure DateTime where
  date : Date
  time : TimeOfDay
deriving DecidableEq

namespace DateTime

/-- Earlier instants are less: first by the day, then by the second, then by the
    nanosecond. -/
def compare (a b : DateTime) : Ordering :=
  ((Ord.compare a.date.day b.date.day).then (Ord.compare a.time.second b.time.second)).then
    (Ord.compare a.time.nano b.time.nano)

instance : Ord DateTime := ⟨compare⟩

def ofDay? (day : Int) (time : TimeOfDay) : Option DateTime :=
  (Date.ofDay? day).map fun date => ⟨date, time⟩

/-- The instant some seconds later. From within a leap second, going on leaves it for the
    same fraction of the next second, and going back first returns to its start. -/
def addSeconds? (instant : DateTime) (seconds : Int) : Option DateTime :=
  if seconds == 0 then some instant
  else
    let start : Int := if instant.time.isLeap && seconds < 0 then 1 else 0
    let total := instant.time.second + start + seconds
    ofDay? (instant.date.day + total / 86400)
      (TimeOfDay.ofSecond (total % 86400).toNat instant.time.nano)

/-- The instant some whole minutes later. A leap second stays one. -/
def addMinutes? (instant : DateTime) (minutes : Int) : Option DateTime :=
  let total := (instant.time.second / 60 : Nat) + minutes
  let second := 60 * (total % 1440).toNat + instant.time.second % 60
  ofDay? (instant.date.day + total / 1440)
    ⟨second, instant.time.nano, by omega, instant.time.nano_lt, fun h => by
      have := instant.time.leap_only_at_minute_end h
      omega⟩

/-- The same time of day, and if possible the same day of the month, some months later. -/
def addMonths? (instant : DateTime) (months : Int) : Option DateTime :=
  (instant.date.addMonths? months).map fun date => ⟨date, instant.time⟩

/-- A number with zeros in front of it up to a width. -/
def padded (width n : Nat) : List Char :=
  let digits := Nat.toDigits 10 n
  List.replicate (width - digits.length) '0' ++ digits

/-- A year in four digits, with a sign when it lies before the year 0 or after 9999. -/
def yearText (year : Int) : List Char :=
  if year < 0 then '-' :: padded 4 year.natAbs
  else if 9999 < year then '+' :: padded 4 year.natAbs
  else padded 4 year.natAbs

/-- The fraction of a second behind a point in three, six or nine digits, or nothing. -/
def fractionText (nano : Nat) : List Char :=
  if nano == 0 then []
  else if nano % 1000000 == 0 then '.' :: padded 3 (nano / 1000000)
  else if nano % 1000 == 0 then '.' :: padded 6 (nano / 1000)
  else '.' :: padded 9 nano

def timeText (time : TimeOfDay) : List Char :=
  padded 2 time.hour ++ ':' :: padded 2 time.minute ++
    ':' :: padded 2 (time.second % 60 + time.nano / 1000000000) ++
    fractionText (time.nano % 1000000000)

def dateText (date : Date) : List Char :=
  yearText date.year ++ '-' :: padded 2 date.month ++ '-' :: padded 2 date.dayOfMonth

def toText (separator : Char) (instant : DateTime) : String :=
  String.ofList (dateText instant.date ++ separator :: timeText instant.time)

/-- Reads the digits of a number up to a hyphen, and what follows the hyphen. -/
def readUpToHyphen (text : List Char) : Option (Nat × List Char) :=
  match text.dropWhile Char.isDigit with
  | '-' :: rest => (Number.readDigits (text.takeWhile Char.isDigit)).map fun n => (n, rest)
  | _ => none

/-- Reads a date and a time with the letter `T` between them. The year may carry a sign. -/
def read? (text : List Char) : Option DateTime := do
  let (negative, rest) := match text with
    | '-' :: rest => (true, rest)
    | '+' :: rest => (false, rest)
    | rest => (false, rest)
  let (year, rest) ← readUpToHyphen rest
  let (month, rest) ← readUpToHyphen rest
  let day ← Number.readDigits (rest.takeWhile Char.isDigit)
  let 'T' :: rest := rest.dropWhile Char.isDigit | none
  let date ← Date.ofYearMonthDay? (if negative then -(year : Int) else year) month day
  let time ← TimeOfDay.read? rest
  return ⟨date, time⟩

end DateTime

end EntityQuery.Calendar
