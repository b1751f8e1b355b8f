import Mathlib.Algebra.Order.Archimedean.Basic
import Mathlib.Data.Rat.Floor
import Thaum.Library.PyJson

/-!
# Floats

A float is a dyadic rational with a significand of 53 bits, whose unit in the last place
is at least the smallest subnormal. A number is rounded to the nearest one, halves to the
even one; from 2 ^ 1024 on nothing is finite. The sign of zero is not kept.
-/

namespace PyFloat

open PyJson

/-- The power of two of an integer exponent. -/
def pow2 (e : Int) : Rat := if 0 ≤ e then 2 ^ e.toNat else 1 / 2 ^ (-e).toNat

/-- The exponent of the greatest power of two that is not above a positive number. -/
def floorLog2 (q : Rat) : Int :=
  let e := (Nat.log2 q.num.natAbs : Int) - Nat.log2 q.den
  if q < pow2 e then e - 1 else e

/-- The nearest integer, of two the even one. -/
def roundHalfEven (q : Rat) : Int :=
  let below := q.floor
  if q - below < 1 / 2 then below
  else if 1 / 2 < q - below then below + 1
  else if below % 2 = 0 then below
  else below + 1

/-- The unit in the last place of the floats around a positive number. -/
def ulp (q : Rat) : Rat := pow2 (max (floorLog2 q - 52) (-1074))

/-- The number, rounded as if there were no greatest float. -/
def rounded (q : Rat) : Rat :=
  if q = 0 then 0 else roundHalfEven (q / ulp |q|) * ulp |q|

/-- What is finite is smaller. -/
def limit : Rat := 2 ^ 1024

/-- The float nearest to a number. -/
def ofRat (q : Rat) : PyJson.Float :=
  if limit ≤ |rounded q| then .infinity (decide (q < 0)) else .finite (rounded q)

/-- The float, unless it is infinite or not-a-number. -/
def finite? : PyJson.Float → Option PyJson.Float
  | .finite q => some (.finite q)
  | .infinity _ | .nan => none

/-- `float(n)` of an integer, `none` where it raises `OverflowError`. -/
def ofInt (n : Int) : Option PyJson.Float := finite? (ofRat n)

/-- `x < q` of a float and a number. -/
def isBelow (x : PyJson.Float) (q : Rat) : Bool :=
  match x with
  | .finite p => decide (p < q)
  | .infinity negative => negative
  | .nan => false

/-- `x <= q` of a float and a number. -/
def isAtMost (x : PyJson.Float) (q : Rat) : Bool :=
  match x with
  | .finite p => decide (p ≤ q)
  | .infinity negative => negative
  | .nan => false

/-- The product of a float and a positive number that is a float. -/
def scale (x : PyJson.Float) (q : Rat) : PyJson.Float :=
  match x with
  | .finite p => ofRat (p * q)
  | other => other

/-- The difference of two floats. -/
def minus : PyJson.Float → PyJson.Float → PyJson.Float
  | .finite p, .finite q => ofRat (p - q)
  | .finite _, .infinity negative => .infinity !negative
  | .infinity negative, .finite _ => .infinity negative
  | .infinity negative, .infinity other => if negative = other then .nan else .infinity negative
  | .nan, _ | _, .nan => .nan

section Exact

/-- An integer is rounded to itself. -/
theorem roundHalfEven_int (m : Int) : roundHalfEven m = m := by
  have below : (m : Rat).floor = m := Rat.floor_intCast m
  rw [roundHalfEven, below, sub_self, if_pos (by norm_num)]

/-- A power of two is positive, with a negative exponent too. -/
theorem pow2_pos (e : Int) : 0 < pow2 e := by
  rw [pow2]
  split
  · positivity
  · positivity

/-- A number is a float where it is a multiple of its unit in the last place, as rounding counts
these units. -/
theorem rounded_multiple {q : Rat} {m : Int} (multiple : q = m * ulp |q|) : rounded q = q := by
  rw [rounded]
  split
  · rename_i zero
    exact zero.symm
  · have unit : ulp |q| ≠ 0 := (pow2_pos _).ne'
    have quotient : q / ulp |q| = m := by
      rw [div_eq_iff unit]
      exact multiple
    rw [quotient, roundHalfEven_int]
    exact multiple.symm

/-- For positive integers the exponent is the binary logarithm of natural numbers. -/
theorem floorLog2_natCast {n : Nat} (positive : 0 < n) : floorLog2 n = Nat.log2 n := by
  have least : pow2 (Nat.log2 n : Int) ≤ (n : Rat) := by
    rw [pow2, if_pos (Int.natCast_nonneg _), Int.toNat_natCast]
    exact_mod_cast Nat.log2_self_le positive.ne'
  have log : (Nat.log2 (n : Rat).num.natAbs : Int) - Nat.log2 (n : Rat).den = Nat.log2 n := by
    have one : Nat.log2 1 = 0 := rfl
    simp [one]
  rw [floorLog2, log]
  exact if_neg (not_lt.mpr least)

/-- Positive integers up to 2 ^ 53 are multiples of their unit in the last place, which is at most
one for them. -/
theorem natCast_multiple {n : Nat} (positive : 0 < n) (small : n ≤ 2 ^ 53) :
    ∃ m : Int, (n : Rat) = m * ulp n := by
  have log : Nat.log2 n < 54 := (Nat.log2_lt positive.ne').mpr (by omega)
  rw [ulp, floorLog2_natCast positive]
  by_cases top : Nat.log2 n = 53
  · have least : 2 ^ 53 ≤ n := top ▸ Nat.log2_self_le positive.ne'
    have whole : n = 2 ^ 53 := by omega
    refine ⟨2 ^ 52, ?_⟩
    rw [top, whole]
    norm_num [pow2]
  · have unit : max ((Nat.log2 n : Int) - 52) (-1074) = -((52 - Nat.log2 n : Nat) : Int) := by
      omega
    rw [unit]
    generalize 52 - Nat.log2 n = k
    have unitValue : pow2 (-(k : Int)) * 2 ^ k = 1 := by
      rw [pow2]
      split
      · have none : k = 0 := by omega
        simp [none]
      · rw [neg_neg, Int.toNat_natCast, one_div, inv_mul_cancel₀ (by positivity)]
    refine ⟨n * 2 ^ k, ?_⟩
    push_cast
    rw [mul_assoc, mul_comm ((2 : Rat) ^ k), unitValue, mul_one]

/-- Integers up to 2 ^ 53 are not rounded, whatever their sign. -/
theorem rounded_int {n : Int} (small : n.natAbs ≤ 2 ^ 53) : rounded (n : Rat) = n := by
  rcases Nat.eq_zero_or_pos n.natAbs with zero | positive
  · have none : n = 0 := by omega
    rw [none, rounded, Int.cast_zero, if_pos rfl]
  · obtain ⟨m, multiple⟩ := natCast_multiple positive small
    have size : |(n : Rat)| = n.natAbs := by
      rw [Nat.cast_natAbs, Int.cast_abs]
    rcases Int.natAbs_eq n with same | same
    · apply rounded_multiple (m := m)
      rw [size, ← multiple]
      exact (congrArg (Int.cast : Int → Rat) same).trans (Int.cast_natCast _)
    · apply rounded_multiple (m := -m)
      rw [size, Int.cast_neg, neg_mul, ← multiple]
      refine (congrArg (Int.cast : Int → Rat) same).trans ?_
      rw [Int.cast_neg, Int.cast_natCast]

/-- A number that is not rounded and is below the limit is itself a float. -/
theorem ofRat_small {q : Rat} (kept : rounded q = q) (small : |q| < limit) :
    ofRat q = .finite q := by
  rw [ofRat, kept, if_neg (not_le.mpr small)]

/-- Integers up to 2 ^ 53 are floats. -/
theorem ofInt_exact {n : Int} (small : n.natAbs ≤ 2 ^ 53) : ofInt n = some (.finite n) := by
  have inRange : |(n : Rat)| < limit := by
    have size : |(n : Rat)| = n.natAbs := by
      rw [Nat.cast_natAbs, Int.cast_abs]
    have bound : (n.natAbs : Rat) ≤ 2 ^ 53 := by exact_mod_cast small
    have beyond : (2 : Rat) ^ 53 < limit := pow_lt_pow_right₀ (by norm_num) (by norm_num)
    rw [size]
    exact bound.trans_lt beyond
  rw [ofInt, ofRat_small (rounded_int small) inRange]
  rfl

end Exact

section Error

/-- The power of two is that of the rational numbers. -/
theorem pow2_eq (e : Int) : pow2 e = (2 : Rat) ^ e := by
  rw [pow2]
  split
  · rename_i nonneg
    rw [← zpow_natCast, Int.toNat_of_nonneg nonneg]
  · rename_i negative
    have nonneg : 0 ≤ -e := by omega
    rw [one_div, ← zpow_natCast, Int.toNat_of_nonneg nonneg, zpow_neg, inv_inv]

/-- The power of two of a positive number is not above it; the exponent is counted from its
numerator and denominator. -/
theorem pow2_floorLog2_le {q : Rat} (positive : 0 < q) : pow2 (floorLog2 q) ≤ q := by
  simp only [floorLog2]
  split
  · have numPositive : 0 < q.num := Rat.num_pos.mpr positive
    have num : (2 : Rat) ^ (Nat.log2 q.num.natAbs : Int) ≤ q.num := by
      have whole := Nat.log2_self_le (Int.natAbs_ne_zero.mpr numPositive.ne')
      rw [zpow_natCast, ← Int.natAbs_of_nonneg numPositive.le, Int.cast_natCast]
      exact_mod_cast whole
    have den : (q.den : Rat) ≤ 2 ^ ((Nat.log2 q.den : Int) + 1) := by
      have whole : q.den < 2 ^ (Nat.log2 q.den + 1) := Nat.lt_log2_self
      rw [← Nat.cast_succ, zpow_natCast]
      exact_mod_cast whole.le
    have denPositive : (0 : Rat) < q.den := Nat.cast_pos.mpr q.den_pos
    rw [pow2_eq, sub_sub, zpow_sub₀ two_ne_zero, div_le_iff₀ (zpow_pos two_pos _)]
    calc (2 : Rat) ^ (Nat.log2 q.num.natAbs : Int)
        ≤ q.num := num
      _ = q * q.den := (Rat.mul_den_eq_num q).symm
      _ ≤ q * 2 ^ ((Nat.log2 q.den : Int) + 1) := mul_le_mul_of_nonneg_left den positive.le
  · rename_i notBelow
    exact not_lt.mp notBelow

/-- The unit in the last place of a number below a power of two. -/
theorem ulp_le {q : Rat} {k : Nat} (positive : 0 < q) (below : q < 2 ^ k) :
    ulp q ≤ 2 ^ k / 2 ^ 53 := by
  have log : floorLog2 q < k := by
    have powers := (pow2_floorLog2_le positive).trans_lt below
    rw [pow2_eq, ← zpow_natCast] at powers
    exact (zpow_lt_zpow_iff_right₀ one_lt_two).mp powers
  have exponent : max (floorLog2 q - 52) (-1074) ≤ (k : Int) - 53 := by omega
  rw [ulp, pow2_eq, ← zpow_natCast, ← zpow_natCast, ← zpow_sub₀ two_ne_zero]
  exact zpow_le_zpow_right₀ one_le_two exponent

/-- The nearest integer is at most a half away, on whichever side a half is rounded to. -/
theorem roundHalfEven_error (q : Rat) : |(roundHalfEven q : Rat) - q| ≤ 1 / 2 := by
  have least : (q.floor : Rat) ≤ q := Rat.floor_le q
  have greatest : q < q.floor + 1 := by exact_mod_cast Rat.lt_floor_add_one q
  rw [roundHalfEven]
  split
  · rw [abs_le]
    constructor <;> linarith
  · split
    · push_cast
      rw [abs_le]
      constructor <;> linarith
    · split
      · rw [abs_le]
        constructor <;> linarith
      · push_cast
        rw [abs_le]
        constructor <;> linarith

/-- Rounding is off by at most half a unit in the last place, so for numbers below a power of two by
at most that power's 2 ^ 54-th part. -/
theorem rounded_error {q : Rat} {k : Nat} (below : |q| < 2 ^ k) :
    |rounded q - q| ≤ 2 ^ k / 2 ^ 54 := by
  rw [rounded]
  split
  · rename_i zero
    rw [zero, sub_zero, abs_zero]
    positivity
  · rename_i nonzero
    have unit : 0 < ulp |q| := pow2_pos _
    have apart : (roundHalfEven (q / ulp |q|) : Rat) * ulp |q| - q =
        (roundHalfEven (q / ulp |q|) - q / ulp |q|) * ulp |q| := by
      rw [sub_mul, div_mul_cancel₀ _ unit.ne']
    have small := ulp_le (abs_pos.mpr nonzero) below
    rw [apart, abs_mul, abs_of_pos unit]
    calc |(roundHalfEven (q / ulp |q|) : Rat) - q / (ulp |q|)| * ulp |q|
        ≤ 1 / 2 * (2 ^ k / 2 ^ 53) :=
          mul_le_mul (roundHalfEven_error _) small unit.le (by norm_num)
      _ = 2 ^ k / 2 ^ 54 := by ring

/-- Away from zero the error is relative to the number, since the unit in the last place grows with
it. -/
theorem rounded_relative {q : Rat} (large : 1 ≤ |q|) : |rounded q - q| ≤ |q| / 2 ^ 53 := by
  obtain ⟨k, least, below⟩ := exists_nat_pow_near large one_lt_two
  calc |rounded q - q|
      ≤ 2 ^ (k + 1) / 2 ^ 54 := rounded_error below
    _ = 2 ^ k / 2 ^ 53 := by ring
    _ ≤ |q| / 2 ^ 53 := div_le_div_of_nonneg_right least (by positivity)

end Error

end PyFloat
