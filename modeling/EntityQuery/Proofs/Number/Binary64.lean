import EntityQuery.Number.Binary64
import Mathlib.Algebra.Order.Group.Nat

namespace EntityQuery.Binary64

variable {m n num den : Nat}

theorem roundHalfEven_mono (h : m ≤ n) (den : Nat) : roundHalfEven m den ≤ roundHalfEven n den := by
  have hquotient : m / den ≤ n / den := Nat.div_le_div_right h
  have hm := Nat.div_add_mod m den
  have hn := Nat.div_add_mod n den
  rcases Nat.lt_or_eq_of_le hquotient with hlt | heq
  · -- The smaller number is rounded to at most the quotient of the greater one.
    calc roundHalfEven m den ≤ m / den + 1 := by rw [roundHalfEven]; split <;> omega
      _ ≤ n / den := hlt
      _ ≤ roundHalfEven n den := by rw [roundHalfEven]; split <;> omega
  · have hremainder : m % den ≤ n % den := by
      rw [heq] at hm
      omega
    simp only [roundHalfEven, heq]
    split
    case isTrue => split <;> omega
    case isFalse hup =>
      rw [if_neg]
      simp only [Bool.or_eq_true, Bool.and_eq_true, decide_eq_true_eq, beq_iff_eq, not_or, not_and]
        at hup ⊢
      omega

/-- A whole number is not rounded. -/
theorem roundHalfEven_mul (hden : 0 < den) (n : Nat) : roundHalfEven (n * den) den = n := by
  simp [roundHalfEven, Nat.mul_div_cancel n hden, hden]

/-- A whole number in units of its fifty-third binary digit, rounded. -/
def significand (n : Nat) : Nat := roundHalfEven (n <<< (52 - n.log2)) (1 <<< (n.log2 - 52))

/-- A whole number as a quotient of two in units of a power of two, of which one is the number or
    one. -/
private theorem inUnits_sub (n exponent places : Nat) :
    inUnits n 1 ((exponent : Int) - places) =
      (n <<< (places - exponent), 1 <<< (exponent - places)) := by
  rw [inUnits]
  split
  case isTrue hneg =>
    rw [show (-((exponent : Int) - places)).toNat = places - exponent by omega,
      show exponent - places = 0 by omega]
    rfl
  case isFalse hpos =>
    rw [show ((exponent : Int) - places).toNat = exponent - places by omega,
      show places - exponent = 0 by omega]
    rfl

theorem nearest_one (hn : n ≠ 0) :
    nearest n 1 = min infinity (((n.log2 + 1022) <<< 52) + significand n) := by
  have hguess : max ((n.log2 : Int) - Nat.log2 1 - 53) (-1074) = n.log2 - (53 : Nat) := by
    rw [show Nat.log2 1 = 0 from rfl]
    omega
  -- The first guess is one too low, as the number has no digit more than it is taken to have.
  have hlow : ¬ n <<< (53 - n.log2) < (1 <<< (n.log2 - 53)) <<< 53 := by
    have hself := Nat.log2_self_le hn
    rw [Nat.not_lt, ← Nat.shiftLeft_add, Nat.one_shiftLeft, Nat.shiftLeft_eq]
    calc 2 ^ (n.log2 - 53 + 53) = 2 ^ n.log2 * 2 ^ (53 - n.log2) := by
          rw [← Nat.pow_add]
          congr 1
          omega
      _ ≤ n * 2 ^ (53 - n.log2) := Nat.mul_le_mul_right _ hself
  have hexponent : (n.log2 : Int) - (53 : Nat) + 1 = n.log2 - (52 : Nat) := by omega
  rw [nearest, if_neg (by simpa using hn)]
  simp only [hguess, inUnits_sub, if_neg hlow, hexponent]
  rw [show ((n.log2 : Int) - (52 : Nat) + 1074).toNat = n.log2 + 1022 by omega]
  rfl

private theorem shiftLeft_mono (h : m ≤ n) (places : Nat) : m <<< places ≤ n <<< places := by
  rw [Nat.shiftLeft_eq, Nat.shiftLeft_eq]
  exact Nat.mul_le_mul_right _ h

private theorem shiftLeft_lt_shiftLeft (h : m < n) (places : Nat) :
    m <<< places < n <<< places := by
  rw [Nat.shiftLeft_eq, Nat.shiftLeft_eq]
  exact Nat.mul_lt_mul_of_pos_right h (Nat.two_pow_pos _)

/-- The same number of binary digits before the point, from either side. -/
private theorem shiftLeft_places (length extra : Nat) :
    (1 <<< (52 + extra)) * 1 <<< (length - 52) = (1 <<< (length + extra)) <<< (52 - length) := by
  simp only [Nat.shiftLeft_eq, Nat.one_mul, ← Nat.pow_add]
  congr 1
  omega

/-- Fifty-three binary digits stand before the point, unless rounding adds one. -/
theorem significand_bounds (hn : n ≠ 0) : 1 <<< 52 ≤ significand n ∧ significand n ≤ 1 <<< 53 := by
  have hlow := Nat.log2_self_le hn
  have hhigh := Nat.lt_log2_self (n := n)
  rw [← Nat.one_shiftLeft] at hlow hhigh
  have hden : 0 < 1 <<< (n.log2 - 52) := by
    rw [Nat.one_shiftLeft]
    exact Nat.two_pow_pos _
  constructor
  · calc 1 <<< 52 = roundHalfEven ((1 <<< 52) * 1 <<< (n.log2 - 52)) (1 <<< (n.log2 - 52)) :=
          (roundHalfEven_mul hden _).symm
      _ ≤ significand n := roundHalfEven_mono ?_ _
    rw [shiftLeft_places n.log2 0]
    exact shiftLeft_mono hlow _
  · calc significand n ≤ roundHalfEven ((1 <<< 53) * 1 <<< (n.log2 - 52)) (1 <<< (n.log2 - 52)) :=
          roundHalfEven_mono ?_ _
      _ = 1 <<< 53 := roundHalfEven_mul hden _
    rw [shiftLeft_places n.log2 1]
    exact shiftLeft_mono hhigh.le _

/-- A whole number of at most fifty-three binary digits is not rounded. -/
theorem significand_of_lt (hn : n < 1 <<< 53) : significand n = n <<< (52 - n.log2) := by
  have hlength : n.log2 - 52 = 0 := by
    by_cases hzero : n = 0
    · rw [hzero]
      rfl
    · have := (Nat.log2_lt hzero).mpr (Nat.one_shiftLeft 53 ▸ hn)
      omega
  rw [significand, hlength]
  have hwhole := roundHalfEven_mul Nat.one_pos (n <<< (52 - n.log2))
  rwa [Nat.mul_one] at hwhole

theorem log2_mono (h : m ≤ n) (hm : m ≠ 0) : m.log2 ≤ n.log2 := by
  rw [Nat.le_log2 (by omega)]
  exact (Nat.log2_self_le hm).trans h

/-- Greater whole numbers are not rounded to smaller numbers. -/
theorem nearest_mono (h : m ≤ n) : nearest m 1 ≤ nearest n 1 := by
  by_cases hm : m = 0
  · rw [hm]
    exact Nat.zero_le _
  have hn : n ≠ 0 := by omega
  rw [nearest_one hm, nearest_one hn]
  refine min_le_min_left infinity ?_
  rcases Nat.lt_or_eq_of_le (log2_mono h hm) with hlt | heq
  · have hm := (significand_bounds hm).2
    have hn := (significand_bounds hn).1
    omega
  · rw [heq]
    refine Nat.add_le_add_left ?_ _
    rw [significand, significand, heq]
    exact roundHalfEven_mono (shiftLeft_mono h _) _

/-- Whole numbers stay apart from each other as long as they have at most fifty-three binary
    digits. -/
theorem nearest_lt (h : m < n) (hn : n ≤ 1 <<< 53) : nearest m 1 < nearest n 1 := by
  have hn0 : n ≠ 0 := by omega
  have hn := significand_bounds hn0
  by_cases hm : m = 0
  · rw [hm, nearest_one hn0]
    refine lt_min (by decide) ?_
    change 0 < _
    omega
  have hm0 := significand_bounds hm
  have hlength : m.log2 ≤ 52 := Nat.le_of_lt_succ ((Nat.log2_lt hm).mpr (by omega))
  have hfinite : ((m.log2 + 1022) <<< 52) + significand m < infinity := by
    rw [infinity]
    omega
  rw [nearest_one hm, nearest_one hn0, min_eq_right hfinite.le]
  refine lt_min hfinite ?_
  rcases Nat.lt_or_eq_of_le (log2_mono h.le hm) with hlt | heq
  · have hsmall : significand m < 1 <<< 53 := by
      rw [significand_of_lt (by omega)]
      calc m <<< (52 - m.log2) < (1 <<< (m.log2 + 1)) <<< (52 - m.log2) :=
            shiftLeft_lt_shiftLeft (Nat.one_shiftLeft _ ▸ Nat.lt_log2_self) _
        _ = 1 <<< 53 := by
            rw [← Nat.shiftLeft_add]
            congr 1
            omega
    omega
  · have hn53 : n < 1 <<< 53 := by
      rw [Nat.one_shiftLeft, ← Nat.log2_lt hn0]
      omega
    rw [significand_of_lt (h.trans hn53), significand_of_lt hn53, heq]
    exact Nat.add_lt_add_left (shiftLeft_lt_shiftLeft h _) _

theorem isNegative_iff {x : Binary64} : x.isNegative = true ↔ signWeight ≤ x.bits.toNat :=
  decide_eq_true_iff

theorem totalKey_ofMagnitude (negative : Bool) {magnitude : Nat} (h : magnitude < signWeight) :
    (ofMagnitude negative magnitude).totalKey =
      if negative then -1 - (magnitude : Int) else magnitude := by
  have hbits : (ofMagnitude negative magnitude).bits.toNat =
      if negative then signWeight + magnitude else magnitude := by
    rw [ofMagnitude, UInt64.toNat_ofNat']
    refine Nat.mod_eq_of_lt ?_
    rw [signWeight] at *
    split <;> omega
  rw [totalKey, isNegative, Binary64.magnitude, hbits]
  cases negative with
  | true =>
    have hmod : (signWeight + magnitude) % signWeight = magnitude := by
      rw [Nat.add_mod_left, Nat.mod_eq_of_lt h]
    simp [hmod]
  | false =>
    simp [Nat.mod_eq_of_lt h, Nat.not_le.mpr h]

theorem nearest_one_lt (n : Nat) : nearest n 1 < signWeight := by
  by_cases hn : n = 0
  · rw [hn]
    decide
  · rw [nearest_one hn]
    exact lt_of_le_of_lt (min_le_left _ _) (by decide)

theorem totalKey_ofInt (n : Int) : (ofInt n).totalKey =
    if n < 0 then -1 - (nearest n.natAbs 1 : Int) else nearest n.natAbs 1 := by
  rw [ofInt, totalKey_ofMagnitude _ (nearest_one_lt _)]
  simp only [decide_eq_true_eq]

/-- Two numbers have one place in the total order only if they are the same. -/
theorem eq_of_totalKey_eq {x y : Binary64} (h : x.totalKey = y.totalKey) : x = y := by
  have hx := x.bits.toNat_lt
  have hy := y.bits.toNat_lt
  have hbits : x.bits.toNat = y.bits.toNat := by
    simp only [totalKey, isNegative_iff, magnitude] at h
    rw [signWeight] at h
    split at h <;> split at h <;> omega
  exact congrArg Binary64.mk (UInt64.toNat_inj.mp hbits)

theorem totalKey_ofInt_mono {m n : Int} (h : m ≤ n) : (ofInt m).totalKey ≤ (ofInt n).totalKey := by
  rw [totalKey_ofInt, totalKey_ofInt]
  split
  case isTrue hm =>
    split
    case isTrue hn =>
      have := nearest_mono (m := n.natAbs) (n := m.natAbs) (by omega)
      omega
    case isFalse => omega
  case isFalse hm =>
    rw [if_neg (by omega)]
    have := nearest_mono (m := m.natAbs) (n := n.natAbs) (by omega)
    omega

theorem totalKey_ofInt_lt {m n : Int} (h : m < n) (hm : m.natAbs ≤ 1 <<< 53)
    (hn : n.natAbs ≤ 1 <<< 53) : (ofInt m).totalKey < (ofInt n).totalKey := by
  rw [totalKey_ofInt, totalKey_ofInt]
  split
  case isTrue =>
    split
    case isTrue =>
      have := nearest_lt (m := n.natAbs) (n := m.natAbs) (by omega) hm
      omega
    case isFalse => omega
  case isFalse =>
    rw [if_neg (by omega)]
    have := nearest_lt (m := m.natAbs) (n := n.natAbs) (by omega) hn
    omega

end EntityQuery.Binary64
