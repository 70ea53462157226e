namespace EntityQuery

/-- A floating point number of 64 bits: a sign, eleven bits of exponent and 52 bits
    of fraction. -/
structure Binary64 where
  bits : UInt64
deriving DecidableEq, Inhabited

namespace Binary64

def signWeight : Nat := 0x8000000000000000

def isNegative (x : Binary64) : Bool := signWeight ≤ x.bits.toNat

/-- Exponent and fraction as one number, which grows with the absolute value. -/
def magnitude (x : Binary64) : Nat := x.bits.toNat % signWeight

/-- The magnitude of the infinities. That of a NaN is greater. -/
def infinity : Nat := 0x7FF0000000000000

/-- The magnitude of the NaN that no computation has marked. -/
def quietNaN : Nat := 0x7FF8000000000000

def ofMagnitude (negative : Bool) (magnitude : Nat) : Binary64 :=
  ⟨UInt64.ofNat (if negative then signWeight + magnitude else magnitude)⟩

def isNaN (x : Binary64) : Bool := infinity < x.magnitude

def isFinite (x : Binary64) : Bool := x.magnitude < infinity

/-- The place of a number in the total order of all bit patterns: from the NaNs with a
    sign over the negative numbers, the two zeros and the positive numbers to the NaNs
    without a sign. -/
def totalKey (x : Binary64) : Int := if x.isNegative then -1 - x.magnitude else x.magnitude

def totalCompare (x y : Binary64) : Ordering := compare x.totalKey y.totalKey

/-- The place of a number that is no NaN on the number line, where both zeros are one. -/
def lineKey (x : Binary64) : Int := if x.isNegative then -x.magnitude else x.magnitude

/-- Compares two numbers by value. A NaN is not comparable. -/
def compare? (x y : Binary64) : Option Ordering :=
  if x.isNaN || y.isNaN then none else some (compare x.lineKey y.lineKey)

/-- A quotient rounded to the nearest integer, and to the even one of two that are
    equally near. -/
def roundHalfEven (num den : Nat) : Nat :=
  let quotient := num / den
  let remainder := num % den
  if 2 * remainder < den || 2 * remainder == den && quotient % 2 == 0 then quotient
  else quotient + 1

/-- The quotient `num / den` in units of a power of two, as a new quotient. -/
def inUnits (num den : Nat) (exponent : Int) : Nat × Nat :=
  if exponent < 0 then (num <<< (-exponent).toNat, den) else (num, den <<< exponent.toNat)

/-- The magnitude that is nearest to a quotient. The unit is chosen so that 53 binary
    digits come before the point, or fewer near zero; from the largest finite number
    upwards the result is infinite. -/
def nearest (num den : Nat) : Nat :=
  if num == 0 then 0
  else
    let guess := max ((num.log2 : Int) - den.log2 - 53) (-1074)
    let (n, d) := inUnits num den guess
    let exponent := if n < d <<< 53 then guess else guess + 1
    let (n, d) := inUnits num den exponent
    min infinity (((exponent + 1074).toNat <<< 52) + roundHalfEven n d)

def ofInt (n : Int) : Binary64 := ofMagnitude (n < 0) (nearest n.natAbs 1)

end Binary64

end EntityQuery
