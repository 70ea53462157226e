import EntityQuery.Number.Binary64.Decimal

namespace EntityQuery.Toml

/-- Whether a text is one or more digits of some kind. A single underscore may stand between
    two of them. -/
def isGrouped (isDigit : Char → Bool) : List Char → Bool
  | [] => false
  | [c] => isDigit c
  | c :: '_' :: rest => isDigit c && isGrouped isDigit rest
  | c :: rest => isDigit c && isGrouped isDigit rest

/-- A number without the underscores that group its digits. -/
def ungrouped (text : List Char) : List Char := text.filter (· != '_')

def withoutSign : List Char → List Char
  | '+' :: rest => rest
  | '-' :: rest => rest
  | rest => rest

/-- Whether a text is a whole number in decimal notation, without zeros in front. -/
def isWhole (text : List Char) : Bool :=
  isGrouped Char.isDigit text && (text.head? != some '0' || text.length == 1)

/-- Whether a text is a number of less than 64 bits in some base. -/
def isInBase (base : Nat) (text : List Char) : Bool :=
  let digit := fun c => (Text.hexValue? c).getD 0
  let number := (ungrouped text).foldl (fun n c => base * n + digit c) 0
  isGrouped (fun c => (Text.hexValue? c).any (· < base)) text && Number.fitsInt64 (number : Nat)

/-- Whether a text is an integer of 64 bits. Only one in decimal notation may have a sign. -/
def isInteger (text : List Char) : Bool :=
  match text with
  | '0' :: 'x' :: digits => isInBase 16 digits
  | '0' :: 'o' :: digits => isInBase 8 digits
  | '0' :: 'b' :: digits => isInBase 2 digits
  | _ => isWhole (withoutSign text) && (Number.readInt64 (ungrouped text)).isSome

/-- Whether a text is a number with a fraction, an exponent or both, and without zeros in
    front. -/
def isFractional (text : List Char) : Bool :=
  let isMark := fun (c : Char) => c == 'e' || c == 'E'
  let mantissa := (withoutSign text).takeWhile fun c => !isMark c
  let exponent := (withoutSign text).dropWhile fun c => !isMark c
  let fraction := mantissa.dropWhile (· != '.')
  isWhole (mantissa.takeWhile (· != '.')) && !(fraction.isEmpty && exponent.isEmpty) &&
    (fraction.isEmpty || isGrouped Char.isDigit (fraction.drop 1)) &&
    (exponent.isEmpty || isGrouped Char.isDigit (withoutSign (exponent.drop 1)))

/-- Whether a text is a floating point number. One with digits may not be too great, but
    there is no such bound below zero. -/
def isFloat (text : List Char) : Bool :=
  let name := withoutSign text
  name == ['i', 'n', 'f'] || name == ['n', 'a', 'n'] ||
    isFractional text &&
      Binary64.read (ungrouped text) != some (Binary64.ofMagnitude false Binary64.infinity)

end EntityQuery.Toml
