import Mathlib.Tactic.Linarith
import Thaum.Library.PyDatetime
import Thaum.Library.PyFloat

/-!
# `datetime.fromtimestamp` of milliseconds

`ms / 1000` is the float nearest to the quotient. `fromtimestamp` of a float in UTC takes it
apart into whole seconds and a fraction, which it rounds to microseconds, and raises outside
the years 1 to 9999. The calendar is wide enough for the float to be microseconds off, but
not for one of its milliseconds to leave it.
-/

namespace PyTimestamp

open PyFloat PyDatetime

/-- `m / n` of two integers, `none` where it raises `OverflowError`. -/
def trueDiv (m n : Int) : Option PyJson.Float := finite? (ofRat (m / n))

/-- The whole seconds of a float, towards zero. -/
def wholeSeconds (t : Rat) : Int := if 0 ≤ t then t.floor else t.ceil

/-- The microseconds since the epoch that a finite float of seconds stands for. -/
def microseconds (t : Rat) : Int :=
  wholeSeconds t * 1000000 + roundHalfEven (rounded ((t - wholeSeconds t) * 1000000))

/-- `datetime.fromtimestamp(t, tz=timezone.utc)` in microseconds since the epoch, `none`
where it raises. -/
def fromTimestamp : PyJson.Float → Option Int
  | .finite t =>
    let instant := microseconds t + secondsBeforeEpoch * 1000000
    if 0 ≤ instant ∧ instant < secondsOfAll * 1000000 then some (microseconds t) else none
  | .infinity _ | .nan => none

/-- `datetime.fromtimestamp(ms / 1000, tz=timezone.utc)`. -/
def fromMilliseconds (ms : Int) : Option Int := (trueDiv ms 1000).bind fromTimestamp

/-- The millisecond lies in one of the years 1 to 9999. -/
def InCalendar (ms : Int) : Prop :=
  0 ≤ ms + secondsBeforeEpoch * 1000 ∧ ms + secondsBeforeEpoch * 1000 < secondsOfAll * 1000

instance (ms : Int) : Decidable (InCalendar ms) := inferInstanceAs (Decidable (_ ∧ _))

variable {ms : Int}

/-- The quotient that the float stands for. -/
def quotient (ms : Int) : Rat := (ms : Rat) / 1000

/-- A bound of the milliseconds bounds the quotient. -/
theorem quotient_below {bound : Rat} (small : |(ms : Rat)| < bound * 1000) :
    |quotient ms| < bound := by
  rw [quotient, abs_div, div_lt_iff₀ (by norm_num)]
  simpa using small

/-- The milliseconds of the calendar are bounded. -/
theorem InCalendar.around (inside : InCalendar ms) : |(ms : Rat)| < 2 ^ 38 * 1000 := by
  rw [InCalendar, secondsBeforeEpoch, secondsOfAll] at inside
  have bounded : |ms| < 2 ^ 38 * 1000 := by
    rw [abs_lt]
    omega
  exact_mod_cast bounded

/-- What is left of a float without its whole seconds is less than one, on either side of zero. -/
theorem fraction_small (t : Rat) : |t - wholeSeconds t| < 1 := by
  rw [wholeSeconds, abs_lt]
  split
  · have least : (t.floor : Rat) ≤ t := Rat.floor_le t
    have greatest : t < t.floor + 1 := by exact_mod_cast Rat.lt_floor_add_one t
    constructor <;> linarith
  · have greatest : t ≤ t.ceil := Rat.le_ceil
    have least : (t.ceil : Rat) < t + 1 := Rat.ceil_lt
    constructor <;> linarith

/-- The microseconds of a float are less than one off: the fraction is smaller than one, so its
product with a million is rounded by little. -/
theorem microseconds_error (t : Rat) :
    |(microseconds t : Rat) - t * 1000000| ≤ 1 / 2 + 1 / 2 ^ 34 := by
  have small : |(t - wholeSeconds t) * 1000000| < 2 ^ 20 := by
    rw [abs_mul]
    have within := fraction_small t
    norm_num
    linarith
  have product := rounded_error small
  have nearest := roundHalfEven_error (rounded ((t - wholeSeconds t) * 1000000))
  have parts : (microseconds t : Rat) - t * 1000000 =
      (roundHalfEven (rounded ((t - wholeSeconds t) * 1000000)) -
          rounded ((t - wholeSeconds t) * 1000000)) +
        (rounded ((t - wholeSeconds t) * 1000000) - (t - wholeSeconds t) * 1000000) := by
    rw [microseconds]
    push_cast
    ring
  rw [parts]
  refine (abs_add_le _ _).trans (add_le_add nearest (product.trans ?_))
  norm_num

/-- The microseconds of milliseconds are off by what the float of the quotient is, a million times,
beside the error of taking the float apart. -/
theorem microseconds_near {error : Rat}
    (close : |rounded (quotient ms) - quotient ms| ≤ error) :
    |(microseconds (rounded (quotient ms)) : Rat) - 1000 * ms| ≤
      1 / 2 + 1 / 2 ^ 34 + error * 1000000 := by
  have parts : (microseconds (rounded (quotient ms)) : Rat) - 1000 * ms =
      (microseconds (rounded (quotient ms)) - rounded (quotient ms) * 1000000) +
        (rounded (quotient ms) - quotient ms) * 1000000 := by
    rw [quotient]
    ring
  rw [parts]
  refine (abs_add_le _ _).trans (add_le_add (microseconds_error _) ?_)
  rw [abs_mul, abs_of_pos (by norm_num : (0 : Rat) < 1000000)]
  linarith

/-- Milliseconds of the years around the epoch are read exactly: they are off by less than half a
microsecond, and both are integers. -/
theorem microseconds_exact (small : |(ms : Rat)| < 2 ^ 33 * 1000) :
    microseconds (rounded (quotient ms)) = 1000 * ms := by
  have near := microseconds_near (rounded_error (quotient_below small))
  have apart : |((microseconds (rounded (quotient ms)) - 1000 * ms : Int) : Rat)| < 1 := by
    push_cast
    refine near.trans_lt ?_
    norm_num
  have none : |microseconds (rounded (quotient ms)) - 1000 * ms| < 1 := by exact_mod_cast apart
  exact sub_eq_zero.mp (Int.abs_lt_one_iff.mp none)

/-- Whole seconds are read exactly, as far as floats are integers; nothing is rounded for them. -/
theorem microseconds_whole {n : Int} (small : n.natAbs ≤ 2 ^ 53) (whole : ms = 1000 * n) :
    microseconds (rounded (quotient ms)) = 1000 * ms := by
  have isWhole : quotient ms = n := by
    rw [quotient, whole]
    push_cast
    ring
  have seconds : wholeSeconds (n : Rat) = n := by
    rw [wholeSeconds, Rat.floor_intCast, Rat.ceil_intCast, ite_self]
  have nothing : roundHalfEven (rounded 0) = 0 := by
    rw [rounded, if_pos rfl]
    exact_mod_cast roundHalfEven_int 0
  rw [isWhole, rounded_int small, microseconds, seconds, sub_self, zero_mul, nothing, whole]
  ring

/-- In and around the calendar, milliseconds are read within microseconds. That is closer than one
millisecond is to the next. -/
theorem microseconds_around (around : |(ms : Rat)| < 2 ^ 38 * 1000) :
    |microseconds (rounded (quotient ms)) - 1000 * ms| < 16 := by
  have near := microseconds_near (rounded_error (quotient_below around))
  have apart : |((microseconds (rounded (quotient ms)) - 1000 * ms : Int) : Rat)| < 16 := by
    push_cast
    refine near.trans_lt ?_
    norm_num
  exact_mod_cast apart

/-- Far from it they are read as being far from it, on the same side, where the error is relative to
the number. -/
theorem microseconds_far (far : 2 ^ 38 * 1000 ≤ |(ms : Rat)|) :
    (0 < ms ∧ (2 ^ 38 - 1) * 1000000 ≤ microseconds (rounded (quotient ms))) ∨
      (ms < 0 ∧ microseconds (rounded (quotient ms)) ≤ -((2 ^ 38 - 1) * 1000000)) := by
  have size : |quotient ms| = |(ms : Rat)| / 1000 := by
    rw [quotient, abs_div]
    norm_num
  have large : 1 ≤ |quotient ms| := by
    rw [size, le_div_iff₀ (by norm_num)]
    refine le_trans ?_ far
    norm_num
  have near := microseconds_near (rounded_relative large)
  rw [size, abs_le] at near
  rcases lt_trichotomy ms 0 with negative | rfl | positive
  · have sign : |(ms : Rat)| = -ms := abs_of_neg (by exact_mod_cast negative)
    rw [sign] at near far
    have bound : ((microseconds (rounded (quotient ms)) : Int) : Rat) ≤
        ((-((2 ^ 38 - 1) * 1000000) : Int) : Rat) := by
      push_cast
      linarith [near.2]
    exact .inr ⟨negative, by exact_mod_cast bound⟩
  · norm_num at far
  · have sign : |(ms : Rat)| = ms := abs_of_pos (by exact_mod_cast positive)
    rw [sign] at near far
    have bound : (((2 ^ 38 - 1) * 1000000 : Int) : Rat) ≤
        (microseconds (rounded (quotient ms)) : Int) := by
      push_cast
      linarith [near.1]
    exact .inl ⟨positive, by exact_mod_cast bound⟩

/-- The microseconds of milliseconds are in the calendar where the milliseconds are.

Proof: around the calendar the two are sixteen microseconds apart at most, while both ends of the
calendar are whole seconds, which are read exactly. Farther away both are outside. -/
theorem microseconds_inCalendar :
    (0 ≤ microseconds (rounded (quotient ms)) + secondsBeforeEpoch * 1000000 ∧
      microseconds (rounded (quotient ms)) + secondsBeforeEpoch * 1000000 <
        secondsOfAll * 1000000) ↔ InCalendar ms := by
  rw [InCalendar, secondsBeforeEpoch, secondsOfAll]
  by_cases around : |(ms : Rat)| < 2 ^ 38 * 1000
  · have near := abs_lt.mp (microseconds_around around)
    by_cases first : ms = 1000 * -62135596800
    · have exact := microseconds_whole (by decide) first
      omega
    · by_cases behind : ms = 1000 * 253402300800
      · have exact := microseconds_whole (by decide) behind
        omega
      · omega
  · rcases microseconds_far (not_lt.mp around) with ⟨positive, bound⟩ | ⟨negative, bound⟩
    · have large : 2 ^ 38 * 1000 ≤ ms := by
        have sign : |(ms : Rat)| = ms := abs_of_pos (by exact_mod_cast positive)
        rw [sign, not_lt] at around
        exact_mod_cast around
      omega
    · have large : ms ≤ -(2 ^ 38 * 1000) := by
        have sign : |(ms : Rat)| = -ms := abs_of_neg (by exact_mod_cast negative)
        rw [sign, not_lt] at around
        have bound : (ms : Rat) ≤ -(2 ^ 38 * 1000) := by linarith
        exact_mod_cast bound
      omega

/-- The quotients of the calendar are finite floats, far below the limit. -/
theorem quotient_finite (inside : InCalendar ms) : |rounded (quotient ms)| < limit := by
  have below := quotient_below inside.around
  have near := rounded_error below
  have finite : |rounded (quotient ms)| < 2 ^ 39 := by
    have parts := abs_sub_abs_le_abs_sub (rounded (quotient ms)) (quotient ms)
    have small : (2 : Rat) ^ 38 / 2 ^ 54 < 1 := by norm_num
    linarith
  exact finite.trans (pow_lt_pow_right₀ (by norm_num) (by norm_num))

/-- Milliseconds of the calendar are read, and no others; the conversion raises on them. -/
theorem fromMilliseconds_eq (ms : Int) : fromMilliseconds ms =
    if InCalendar ms then some (microseconds (rounded (quotient ms))) else none := by
  have cast : (((1000 : Int) : Rat)) = 1000 := by norm_num
  rw [fromMilliseconds, trueDiv, ofRat, cast, ← quotient]
  split
  · rename_i infinite
    have outside : ¬ InCalendar ms := fun inside => not_lt.mpr infinite (quotient_finite inside)
    rw [if_neg outside]
    rfl
  · simp only [finite?, Option.bind_some, fromTimestamp]
    exact if_congr microseconds_inCalendar rfl rfl

/-- A conversion of milliseconds raises exactly outside the calendar. -/
theorem fromMilliseconds_isSome : (fromMilliseconds ms).isSome = true ↔ InCalendar ms := by
  rw [fromMilliseconds_eq]
  split
  · rename_i inside
    exact iff_of_true rfl inside
  · rename_i outside
    exact iff_of_false Bool.false_ne_true outside

/-- A millisecond is read within sixteen microseconds, wherever in the calendar it lies. -/
theorem fromMilliseconds_near {instant : Int} (read : fromMilliseconds ms = some instant) :
    |instant - 1000 * ms| < 16 := by
  have inside : InCalendar ms := fromMilliseconds_isSome.mp (read ▸ rfl)
  rw [fromMilliseconds_eq, if_pos inside] at read
  obtain rfl := Option.some.inj read
  exact microseconds_around inside.around

/-- From 1697 to 2242 it is read exactly. -/
theorem fromMilliseconds_exact (small : |ms| < 2 ^ 33 * 1000) :
    fromMilliseconds ms = some (1000 * ms) := by
  have inside : InCalendar ms := by
    rw [abs_lt] at small
    rw [InCalendar, secondsBeforeEpoch, secondsOfAll]
    omega
  rw [fromMilliseconds_eq, if_pos inside, microseconds_exact (by exact_mod_cast small)]

end PyTimestamp
