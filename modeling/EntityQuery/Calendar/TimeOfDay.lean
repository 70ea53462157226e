import EntityQuery.Number.Integer

namespace EntityQuery.Calendar

/-- A time of day in seconds and nanoseconds. During a leap second, which follows the last
    second of a minute, that second goes on and its nanoseconds exceed 999999999. -/
structure TimeOfDay where
  second : Nat
  nano : Nat
  second_lt : second < 86400
  nano_lt : nano < 2000000000
  leap_only_at_minute_end : 1000000000 ≤ nano → second % 60 = 59
deriving DecidableEq

namespace TimeOfDay

/-- A time without a leap second. The remainder of the seconds within the day is taken. -/
def ofSecond (second : Nat) (nano : Nat) : TimeOfDay where
  second := second % 86400
  nano := nano % 1000000000
  second_lt := Nat.mod_lt _ (by decide)
  nano_lt := by have := Nat.mod_lt nano (show 0 < 1000000000 by decide); omega
  leap_only_at_minute_end := by
    intro h
    have := Nat.mod_lt nano (show 0 < 1000000000 by decide)
    omega

def midnight : TimeOfDay := ofSecond 0 0

/-- The time with an hour, a minute, a second and a fraction. A second of 60 is the leap
    second of its minute. -/
def ofFields? (hour minute second nano : Nat) : Option TimeOfDay :=
  if h : hour < 24 ∧ minute < 60 ∧ nano < 1000000000 then
    if hsecond : second < 60 then
      some ⟨3600 * hour + 60 * minute + second, nano, by omega, by omega, by omega⟩
    else if second = 60 then
      some ⟨3600 * hour + 60 * minute + 59, 1000000000 + nano, by omega, by omega, by omega⟩
    else none
  else none

def hour (time : TimeOfDay) : Nat := time.second / 3600

def minute (time : TimeOfDay) : Nat := time.second / 60 % 60

def isLeap (time : TimeOfDay) : Bool := 1000000000 ≤ time.nano

/-- The start of the second. A leap second counts as a part of the second before it. -/
def atSecond (time : TimeOfDay) : TimeOfDay := ofSecond time.second 0

def atMinute (time : TimeOfDay) : TimeOfDay := ofSecond (time.second - time.second % 60) 0

def atHour (time : TimeOfDay) : TimeOfDay := ofSecond (time.second - time.second % 3600) 0

/-- One or two digits behind optional white space, and what follows them. -/
def readField (text : List Char) : Option (Nat × List Char) :=
  match Text.trimStart text with
  | a :: b :: rest =>
    if !a.isDigit then none
    else if b.isDigit then some (Nat.ofDigitChars 10 [a, b] 0, rest)
    else some (Nat.ofDigitChars 10 [a] 0, b :: rest)
  | [a] => if a.isDigit then some (Nat.ofDigitChars 10 [a] 0, []) else none
  | [] => none

/-- The fraction of a second that follows a point, in nanoseconds, and what follows it.
    Digits behind the ninth are passed over. Without a point the fraction is zero. -/
def readFraction : List Char → Option (Nat × List Char)
  | '.' :: rest =>
    let digits := rest.takeWhile Char.isDigit
    if digits.isEmpty then none
    else
      let nano := Nat.ofDigitChars 10 ((digits ++ List.replicate 9 '0').take 9) 0
      some (nano, rest.dropWhile Char.isDigit)
  | rest => some (0, rest)

/-- Reads hours, minutes and seconds between colons, and an optional fraction. -/
def read? (text : List Char) : Option TimeOfDay := do
  let (hour, rest) ← readField text
  let ':' :: rest := rest | none
  let (minute, rest) ← readField rest
  let ':' :: rest := rest | none
  let (second, rest) ← readField rest
  let (nano, rest) ← readFraction rest
  if rest.isEmpty then ofFields? hour minute second nano else none

end TimeOfDay

end EntityQuery.Calendar
