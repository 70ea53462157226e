import EntityQuery.Calendar.Date
import EntityQuery.Number.Integer

namespace EntityQuery.Toml

/-- Whether two characters are the digits of a number up to a greatest one. -/
def isUpTo (greatest : Nat) (tens ones : Char) : Bool :=
  (Number.readDigits [tens, ones]).any (· ≤ greatest)

/-- Whether a text is a day of the calendar, as a year, a month and a day with hyphens
    between them. -/
def isDate (text : List Char) : Bool :=
  match text with
  | [a, b, c, d, '-', e, f, '-', g, h] =>
    Option.isSome do
      let year ← Number.readDigits [a, b, c, d]
      Calendar.Date.ofYearMonthDay? year (← Number.readDigits [e, f]) (← Number.readDigits [g, h])
  | _ => false

/-- Whether a text is a time of day, as hours, minutes and seconds with colons between them.
    The seconds may go on to sixty and have a fraction. -/
def isTime (text : List Char) : Bool :=
  match text with
  | a :: b :: ':' :: c :: d :: ':' :: e :: f :: fraction =>
    isUpTo 23 a b && isUpTo 59 c d && isUpTo 60 e f &&
      match fraction with
      | [] => true
      | point :: digits => point == '.' && Text.isDigits digits
  | _ => false

/-- Whether a text tells how far the clocks are ahead of those at the prime meridian. -/
def isOffset (text : List Char) : Bool :=
  match text with
  | [zulu] => zulu == 'Z' || zulu == 'z'
  | [sign, a, b, ':', c, d] => (sign == '+' || sign == '-') && isUpTo 23 a b && isUpTo 59 c d
  | _ => false

/-- Whether a text is a time of day that may have an offset. -/
def isOffsetTime (text : List Char) : Bool :=
  let isOfTime := fun (c : Char) => c.isDigit || c == ':' || c == '.'
  let offset := text.dropWhile isOfTime
  isTime (text.takeWhile isOfTime) && (offset.isEmpty || isOffset offset)

/-- Whether a text is a date and a time with the letter `T` between them. -/
def isDateTime (text : List Char) : Bool :=
  isDate (text.take 10) &&
    match text.drop 10 with
    | mark :: time => (mark == 'T' || mark == 't') && isOffsetTime time
    | [] => false

end EntityQuery.Toml
