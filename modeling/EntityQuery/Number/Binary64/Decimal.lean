import EntityQuery.Number.Binary64
import EntityQuery.Number.Integer

namespace EntityQuery.Binary64

def digitCount (n : Nat) : Nat := (Nat.toDigits 10 n).length

/-- The magnitude nearest to `digits` times a power of ten. Numbers far outside the range
    are told by their number of digits. -/
def nearestDecimal (digits : Nat) (exponent : Int) : Nat :=
  let size := digitCount digits + exponent
  if digits == 0 || size < -330 then 0
  else if 310 < size then infinity
  else if exponent < 0 then nearest digits (Nat.pow 10 (-exponent).toNat)
  else nearest (digits * Nat.pow 10 exponent.toNat) 1

/-- Reads what follows the digits: nothing, or the letter `e` and a power of ten. -/
def readExponent : List Char → Option Int
  | [] => some 0
  | mark :: rest => if mark == 'e' || mark == 'E' then Number.readInteger rest else none

/-- Reads a decimal number without a sign. Digits may be missing before the point or
    behind it, but not in both places. -/
def readMagnitude (text : List Char) : Option Nat :=
  let whole := text.takeWhile Char.isDigit
  let rest := text.dropWhile Char.isDigit
  let behind := match rest with
    | '.' :: more => more
    | _ => []
  let fraction := behind.takeWhile Char.isDigit
  let rest := match rest with
    | '.' :: more => more.dropWhile Char.isDigit
    | more => more
  if whole.isEmpty && fraction.isEmpty then none
  else (readExponent rest).map fun exponent =>
    nearestDecimal (Nat.ofDigitChars 10 (whole ++ fraction) 0) (exponent - fraction.length)

/-- Reads the name of a number that has no digits. -/
def readName (text : List Char) : Option Nat :=
  if Text.sameIgnoringCase text "inf".toList || Text.sameIgnoringCase text "infinity".toList then
    some infinity
  else if Text.sameIgnoringCase text "nan".toList then some quietNaN
  else none

/-- Reads a number in decimal notation, rounding to the nearest floating point number. -/
def read (text : List Char) : Option Binary64 :=
  let unsigned := fun body => readMagnitude body <|> readName body
  match text with
  | '-' :: body => (unsigned body).map (ofMagnitude true)
  | '+' :: body => (unsigned body).map (ofMagnitude false)
  | body => (unsigned body).map (ofMagnitude false)

/-- The values that round to a finite number, as the numerators of the least, the number
    itself and the greatest over one denominator. -/
structure Interval where
  least : Nat
  value : Nat
  greatest : Nat
  denominator : Nat
  /-- Whether the ends round to the number as well. -/
  closed : Bool

def interval (magnitude : Nat) : Interval :=
  let biased : Nat := magnitude >>> 52
  let fraction : Nat := magnitude % 0x10000000000000
  let significand := if biased == 0 then fraction else 0x10000000000000 + fraction
  let exponent := if biased == 0 then -1076 else (biased : Int) - 1077
  let gap := if fraction == 0 && 1 < biased then 1 else 2
  let scale := 1 <<< exponent.toNat
  { least := (4 * significand - gap) * scale
    value := 4 * significand * scale
    greatest := (4 * significand + 2) * scale
    denominator := 1 <<< (-exponent).toNat
    closed := magnitude % 2 == 0 }

/-- Whether `digits * 10 ^ exponent` lies in an interval. -/
def Interval.contains (i : Interval) (digits : Nat) (exponent : Int) : Bool :=
  let point := digits * Nat.pow 10 exponent.toNat * i.denominator
  let unit := Nat.pow 10 (-exponent).toNat
  if i.closed then i.least * unit ≤ point && point ≤ i.greatest * unit
  else i.least * unit < point && point < i.greatest * unit

/-- The number of digits before the decimal point of the value, and for a value below one
    the number of zeros behind the point as a negative number. -/
def Interval.pointPosition (i : Interval) : Int :=
  if i.denominator ≤ i.value then digitCount (i.value / i.denominator)
  else 1 - (digitCount ((i.denominator - 1) / i.value) : Int)

/-- The nearest decimal with the given power of ten as its unit that lies in the interval,
    if there is one. Of two equally near ones it is the greater. -/
def Interval.nearestOn? (i : Interval) (exponent : Int) : Option Nat :=
  let num := i.value * Nat.pow 10 (-exponent).toNat
  let den := i.denominator * Nat.pow 10 exponent.toNat
  let below := num / den
  let downFits := i.contains below exponent
  let upFits := i.contains (below + 1) exponent
  if upFits && (!downFits || den ≤ 2 * (num % den)) then some (below + 1)
  else if downFits then some below
  else none

/-- The shortest decimal that reads back as the number, as its digits and the power of ten
    of the last one. Seventeen digits are always enough. -/
def shortest (magnitude : Nat) : Nat × Int :=
  let i := interval magnitude
  let found := (List.range 17).findSome? fun (n : Nat) =>
    let exponent := i.pointPosition - n - 1
    (i.nearestOn? exponent).map fun digits => (digits, exponent)
  let (digits, exponent) := found.getD (i.value / i.denominator, 0)
  if digits % 10 == 0 then (digits / 10, exponent + 1) else (digits, exponent)

/-- Writes `digits * 10 ^ exponent` without an exponent. -/
def positional (digits : Nat) (exponent : Int) : List Char :=
  let written := Nat.toDigits 10 digits
  let places := (-exponent).toNat
  if places == 0 then written ++ List.replicate exponent.toNat '0'
  else
    let padded := List.replicate (places + 1 - written.length) '0' ++ written
    padded.take (padded.length - places) ++ '.' :: padded.drop (padded.length - places)

/-- A floating point number in decimal notation: the fewest digits that read back, never
    with an exponent. -/
def toText (x : Binary64) : String :=
  if x.isNaN then "NaN"
  else
    let text :=
      if x.magnitude == infinity then "inf"
      else if x.magnitude == 0 then "0"
      else
        let (digits, exponent) := shortest x.magnitude
        String.ofList (positional digits exponent)
    if x.isNegative then "-" ++ text else text

end EntityQuery.Binary64
