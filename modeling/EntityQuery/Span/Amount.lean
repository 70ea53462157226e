import EntityQuery.Number.Integer

namespace EntityQuery.Span

/-- The largest amount that a phrase may name. -/
def maxAmount : Nat := 0x7FFFFFFFFFFFFFFF

/-- An amount that has not grown too large. -/
def checked (n : Nat) : Option Nat := if n ≤ maxAmount then some n else none

/-- The English words for single numbers. -/
def numberWords : List (String × Nat) := [
  ("a", 1), ("an", 1), ("one", 1), ("zero", 0), ("two", 2), ("three", 3), ("four", 4), ("five", 5),
  ("six", 6), ("seven", 7), ("eight", 8), ("nine", 9), ("ten", 10), ("eleven", 11), ("twelve", 12),
  ("thirteen", 13), ("fourteen", 14), ("fifteen", 15), ("sixteen", 16), ("seventeen", 17),
  ("eighteen", 18), ("nineteen", 19), ("twenty", 20), ("thirty", 30), ("forty", 40), ("fifty", 50),
  ("sixty", 60), ("seventy", 70), ("eighty", 80), ("ninety", 90)]

/-- The number that a word or a run of digits stands for, whatever its size. -/
def numberOfWord? (word : String) : Option Nat :=
  match numberWords.lookup word with
  | some n => some n
  | none => Number.readDigits word.toList

/-- What has been read of an amount: the complete thousands, and the part that the next
    `hundred` or `thousand` multiplies. -/
structure Tally where
  total : Nat
  current : Nat
deriving DecidableEq, Repr

/-- Reads one more word of an amount, unless the amount grows too large. -/
def Tally.read? (tally : Tally) (word : String) : Option Tally :=
  match word with
  | "and" => some tally
  | "hundred" => do return ⟨tally.total, ← checked (max tally.current 1 * 100)⟩
  | "thousand" => do
    let thousands ← checked (max tally.current 1 * 1000)
    return ⟨← checked (tally.total + thousands), 0⟩
  | word => do
    let n ← checked (← numberOfWord? word)
    return ⟨tally.total, ← checked (tally.current + n)⟩

/-- Reads an amount word by word. -/
def readAmount? (words : List String) : Option Nat := do
  let tally ← words.foldlM Tally.read? ⟨0, 0⟩
  checked (tally.total + tally.current)

/-- The amount that a list of words names, such as `forty two` or `3`. There has to be at
    least one word, and a run of digits by itself is read at once. -/
def amount? (words : List String) : Option Nat :=
  match words with
  | [] => none
  | [word] =>
    match Number.readDigits word.toList with
    | some n => checked n
    | none => readAmount? [word]
  | words => readAmount? words

end EntityQuery.Span
