import EntityQuery.Text.Basic

namespace EntityQuery.Number

/-- The number that one or more decimal digits denote. -/
def readDigits (text : List Char) : Option Nat :=
  if Text.isDigits text then some (Nat.ofDigitChars 10 text 0) else none

/-- Reads a natural number, which may carry a plus sign. -/
def readNatural : List Char → Option Nat
  | '+' :: digits => readDigits digits
  | digits => readDigits digits

/-- Reads an integer, which may carry a sign. -/
def readInteger : List Char → Option Int
  | '-' :: digits => (readDigits digits).map fun n => -(n : Int)
  | '+' :: digits => (readDigits digits).map fun n => (n : Int)
  | digits => (readDigits digits).map fun n => (n : Int)

/-- Whether an integer fits in 64 bits with a sign. -/
def fitsInt64 (n : Int) : Bool := -0x8000000000000000 ≤ n && n < 0x8000000000000000

/-- Reads an integer of 64 bits, which may carry a sign. -/
def readInt64 (text : List Char) : Option Int64 := do
  let n ← readInteger text
  if fitsInt64 n then some (Int64.ofInt n) else none

end EntityQuery.Number
