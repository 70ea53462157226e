import EntityQuery.Calendar.Date
import EntityQuery.Number.Binary64.Decimal

namespace EntityQuery

inductive DateOrder where
  | dayMonthYear
  | monthDayYear
  | yearMonthDay
deriving DecidableEq, Repr

/-- How one culture writes numbers and short dates. -/
structure Culture where
  name : String
  decimalSeparator : Char
  groupSeparator : Char
  dateSeparator : Char
  dateOrder : DateOrder
deriving DecidableEq, Repr

namespace Culture

def invariant : Culture := ⟨"invariant", '.', ',', '/', .monthDayYear⟩

def all : List Culture := [
  invariant,
  ⟨"en-US", '.', ',', '/', .monthDayYear⟩,
  ⟨"en-GB", '.', ',', '/', .dayMonthYear⟩,
  ⟨"de-DE", ',', '.', '.', .dayMonthYear⟩,
  ⟨"fr-FR", ',', '\u202f', '/', .dayMonthYear⟩,
  ⟨"ja-JP", '.', ',', '/', .yearMonthDay⟩]

/-- The culture of a name in any letter case, or the invariant culture if there is none. -/
def named (name : String) : Culture :=
  (all.find? fun culture => Text.sameIgnoringCase culture.name.toList name.toList).getD invariant

/-- Whether a character only groups digits. A culture that groups by a kind of space takes
    the plain space as well. -/
def isGroupMark (culture : Culture) (c : Char) : Bool :=
  c == culture.groupSeparator || (c == ' ' && Text.isBlank culture.groupSeparator)

/-- A digit, a sign, an exponent mark or the decimal separator in the form that numbers
    are read in. -/
def plainChar? (culture : Culture) (c : Char) : Option Char :=
  if c == culture.decimalSeparator then some '.'
  else if c.isDigit || c == '+' || c == '-' || c == 'e' || c == 'E' then some c
  else none

/-- A number without its group marks and with a point before the fraction. Other
    characters than those of numbers are refused. -/
def plainNumber? (culture : Culture) (raw : List Char) : Option (List Char) :=
  let trimmed := Text.trim raw
  if trimmed.isEmpty then none
  else (trimmed.filter fun c => !culture.isGroupMark c).mapM culture.plainChar?

def readInt? (culture : Culture) (raw : List Char) : Option Int64 := do
  Number.readInt64 (← culture.plainNumber? raw)

/-- Reads a finite floating point number as this culture writes it. -/
def readFloat? (culture : Culture) (raw : List Char) : Option Binary64 := do
  let value ← Binary64.read (← culture.plainNumber? raw)
  if value.isFinite then some value else none

/-- A year below one hundred counts from the year 2000. -/
def fullYear (year : Nat) : Nat := if year < 100 then year + 2000 else year

/-- Reads a short date as this culture writes it: three numbers of digits only. -/
def readShortDate? (culture : Culture) (raw : List Char) : Option Calendar.Date := do
  let [a, b, c] := (Text.trim raw).splitOn culture.dateSeparator | none
  let a ← Number.readDigits a
  let b ← Number.readDigits b
  let c ← Number.readDigits c
  match culture.dateOrder with
  | .dayMonthYear => Calendar.Date.ofYearMonthDay? (fullYear c) b a
  | .monthDayYear => Calendar.Date.ofYearMonthDay? (fullYear c) a b
  | .yearMonthDay => Calendar.Date.ofYearMonthDay? (fullYear a) b c

end Culture

end EntityQuery
