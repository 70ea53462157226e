import EntityQuery.Calendar.DateTime

namespace EntityQuery.Calendar.Timestamp

/-- Reads a number of exactly so many digits, and returns what follows it. -/
def readFixed (width : Nat) (text : List Char) : Option (Nat × List Char) :=
  let digits := text.take width
  if digits.length == width && digits.all Char.isDigit then
    some (Nat.ofDigitChars 10 digits 0, text.drop width)
  else none

/-- Reads one character out of several, and returns what follows it. -/
def skip (allowed : List Char) : List Char → Option (List Char)
  | c :: rest => if allowed.contains c then some rest else none
  | [] => none

/-- Reads the distance from universal time in minutes: the letter `Z`, or a sign, hours
    and minutes with a colon between them. The hours go up to 23. -/
def readOffset : List Char → Option (Int × List Char)
  | [] => none
  | sign :: rest => do
    if sign == 'Z' || sign == 'z' then some (0, rest)
    else if sign == '+' || sign == '-' || sign == '\u2212' then
      let (hours, rest) ← readFixed 2 rest
      let rest ← skip [':'] rest
      let (minutes, rest) ← readFixed 2 rest
      if hours < 24 && minutes < 60 then
        let offset : Int := (60 * hours + minutes : Nat)
        some (if sign == '+' then offset else -offset, rest)
      else none
    else none

/-- Reads a date and a time of four and two digits each with its distance from universal
    time, and gives the instant in universal time. -/
def read? (text : List Char) : Option DateTime := do
  let (year, rest) ← readFixed 4 text
  let rest ← skip ['-'] rest
  let (month, rest) ← readFixed 2 rest
  let rest ← skip ['-'] rest
  let (day, rest) ← readFixed 2 rest
  let rest ← skip ['T', 't', ' '] rest
  let (hour, rest) ← readFixed 2 rest
  let rest ← skip [':'] rest
  let (minute, rest) ← readFixed 2 rest
  let rest ← skip [':'] rest
  let (second, rest) ← readFixed 2 rest
  let (nano, rest) ← TimeOfDay.readFraction rest
  let (offset, rest) ← readOffset rest
  let date ← Date.ofYearMonthDay? year month day
  let time ← TimeOfDay.ofFields? hour minute second nano
  if rest.isEmpty then DateTime.addMinutes? ⟨date, time⟩ (-offset) else none

end EntityQuery.Calendar.Timestamp
