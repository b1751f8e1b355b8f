import Mathlib.Algebra.Group.Nat.Defs
import Thaum.Library.PyText

/-!
# Seconds of UTC and their text

`datetime` counts the days of the Gregorian calendar from the first day of the year 1 to the
last of the year 9999. `utcText` is the text of a second since the epoch in the format
`%Y-%m-%dT%H:%M:%S`, with four digits of the year, and `utcSecond` reads such a text when it
ends in the offset of UTC; `offsetSecond` reads it with any offset of hours and minutes. A
second that has a text is read back from it.
-/

namespace PyDatetime

open PyText

/-- The leap years of the Gregorian calendar. -/
def isLeap (year : Nat) : Bool := year % 4 == 0 && (year % 100 != 0 || year % 400 == 0)

/-- The days of the months in front of a month. -/
def daysBeforeMonth (leap : Bool) (month : Nat) : Nat :=
  let days := [0, 31, 59, 90, 120, 151, 181, 212, 243, 273, 304, 334, 365].getD (month - 1) 0
  if 2 < month ∧ leap = true then days + 1 else days

/-- The days of the years in front of a year. -/
def daysBeforeYear (year : Nat) : Nat :=
  let y := year - 1
  y * 365 + y / 4 - y / 100 + y / 400

/-- A year, a month and a day. -/
structure Date where
  year : Nat
  month : Nat
  day : Nat
deriving DecidableEq

/-- The number of a date's day, from the first day of the year 1. -/
def Date.ordinal (date : Date) : Nat :=
  daysBeforeYear date.year + daysBeforeMonth (isLeap date.year) date.month + (date.day - 1)

/-- `datetime` has such a date. -/
def Date.isValid (date : Date) : Bool :=
  decide (1 ≤ date.year ∧ date.year ≤ 9999 ∧ 1 ≤ date.month ∧ date.month ≤ 12 ∧ 1 ≤ date.day ∧
    daysBeforeMonth (isLeap date.year) date.month + date.day ≤
      daysBeforeMonth (isLeap date.year) (date.month + 1))

/-- The year of a day, and the day's number in it. -/
def yearOfOrdinal (n : Nat) : Nat × Nat :=
  let (n400, n) := (n / 146097, n % 146097)
  let (n100, n) := (min (n / 36524) 3, n - min (n / 36524) 3 * 36524)
  let (n4, n) := (n / 1461, n % 1461)
  let (n1, n) := (min (n / 365) 3, n - min (n / 365) 3 * 365)
  (n400 * 400 + n100 * 100 + n4 * 4 + n1 + 1, n)

/-- The month of a day of the year. -/
def monthOfDay (leap : Bool) (n : Nat) : Nat :=
  ((List.range 12).filter fun m => decide (daysBeforeMonth leap (m + 1) ≤ n)).length

/-- The date of a day. -/
def dateOfOrdinal (n : Nat) : Date :=
  let (year, n) := yearOfOrdinal n
  let month := monthOfDay (isLeap year) n
  { year, month, day := n - daysBeforeMonth (isLeap year) month + 1 }

/-- A number in so many digits. -/
def zeroPadded : (width n : Nat) → Text
  | 0, _ => []
  | width + 1, n => zeroPadded width (n / 10) ++ [Nat.digitChar (n % 10)]

/-- The seconds from the first day of the year 1 to the epoch. -/
def secondsBeforeEpoch : Int := 62135596800

/-- The seconds that `datetime` has dates for. -/
def secondsOfAll : Int := 315537897600

/-- The text of a second since the epoch, `none` outside the years 1 to 9999. -/
def utcText (epoch : Int) : Option Text :=
  let seconds := (epoch + secondsBeforeEpoch).toNat
  let date := dateOfOrdinal (seconds / 86400)
  if 0 ≤ epoch + secondsBeforeEpoch ∧ epoch + secondsBeforeEpoch < secondsOfAll then
    some (zeroPadded 4 date.year ++ '-' :: (zeroPadded 2 date.month ++ '-' ::
      (zeroPadded 2 date.day ++ 'T' :: (zeroPadded 2 (seconds % 86400 / 3600) ++ ':' ::
        (zeroPadded 2 (seconds % 3600 / 60) ++ ':' :: zeroPadded 2 (seconds % 60))))))
  else none

/-- The number in so many digits at the front of a text, and the text after it. -/
def readNumber (width : Nat) (s : Text) : Option (Nat × Text) :=
  if (s.take width).length = width ∧ (s.take width).all Char.isDigit = true then
    some ((s.take width).foldl (fun n c => n * 10 + (c.toNat - 48)) 0, s.drop width)
  else none

/-- The text after some characters. -/
def readAfter (front s : Text) : Option Text :=
  if startsWith s front then some (s.drop front.length) else none

/-- The second since the epoch of a text `YYYY-MM-DDTHH:MM:SS+00:00`. -/
def utcSecond (s : Text) : Option Int :=
  (readNumber 4 s).bind fun year => (readAfter ['-'] year.2).bind fun s =>
  (readNumber 2 s).bind fun month => (readAfter ['-'] month.2).bind fun s =>
  (readNumber 2 s).bind fun day => (readAfter ['T'] day.2).bind fun s =>
  (readNumber 2 s).bind fun hour => (readAfter [':'] hour.2).bind fun s =>
  (readNumber 2 s).bind fun minute => (readAfter [':'] minute.2).bind fun s =>
  (readNumber 2 s).bind fun second => (readAfter "+00:00".toList second.2).bind fun rest =>
    let date : Date := ⟨year.1, month.1, day.1⟩
    if rest = [] ∧ date.isValid = true ∧ hour.1 < 24 ∧ minute.1 < 60 ∧ second.1 < 60 then
      some (date.ordinal * 86400 + hour.1 * 3600 + minute.1 * 60 + second.1 - secondsBeforeEpoch)
    else none

/-- The seconds that a text `+HH:MM` or `-HH:MM` is ahead of UTC. -/
def readOffset (s : Text) : Option Int :=
  (readNumber 2 (s.drop 1)).bind fun hours => (readAfter [':'] hours.2).bind fun more =>
  (readNumber 2 more).bind fun minutes =>
    let seconds : Int := hours.1 * 3600 + minutes.1 * 60
    if minutes.2 ≠ [] ∨ 24 ≤ hours.1 ∨ 60 ≤ minutes.1 then none
    else if s.head? = some '+' then some seconds
    else if s.head? = some '-' then some (-seconds)
    else none

/-- The second since the epoch of a text `YYYY-MM-DDTHH:MM:SS` with an offset. In UTC it may
lie outside the calendar. -/
def offsetSecond (s : Text) : Option Int :=
  (utcSecond (s.take 19 ++ "+00:00".toList)).bind fun clock =>
    (readOffset (s.drop 19)).map fun offset => clock - offset

section Calendar

variable {n : Nat}

/-- The year of a day starts at most a year before it. The division by four hundred, hundred, four
and single years is followed with the day's number in each. -/
theorem yearOfOrdinal_days (n : Nat) :
    daysBeforeYear (yearOfOrdinal n).1 + (yearOfOrdinal n).2 = n ∧
      ((yearOfOrdinal n).2 < 365 ∨
        isLeap (yearOfOrdinal n).1 = true ∧ (yearOfOrdinal n).2 = 365) := by
  simp only [yearOfOrdinal, daysBeforeYear, isLeap, Bool.and_eq_true, Bool.or_eq_true, beq_iff_eq,
    bne_iff_ne]
  generalize inCycle : n % 146097 = a
  generalize cycles : n / 146097 = n400
  generalize century : min (a / 36524) 3 = n100
  generalize inCentury : a - n100 * 36524 = b
  generalize fours : b / 1461 = n4
  generalize inFours : b % 1461 = c
  generalize single : min (c / 365) 3 = n1
  have quarters : (n400 * 400 + n100 * 100 + n4 * 4 + n1 + 1 - 1) / 4 =
      n400 * 100 + n100 * 25 + n4 := by omega
  have hundreds : (n400 * 400 + n100 * 100 + n4 * 4 + n1 + 1 - 1) / 100 = n400 * 4 + n100 := by
    omega
  have fourHundreds : (n400 * 400 + n100 * 100 + n4 * 4 + n1 + 1 - 1) / 400 = n400 := by omega
  constructor
  · rw [quarters, hundreds, fourHundreds]
    have cycleParts : n = n400 * 146097 + a := by omega
    have centuryParts : a = n100 * 36524 + b := by omega
    have fourParts : b = n4 * 1461 + c := by omega
    have yearParts : n1 * 365 ≤ c := by omega
    clear inCycle cycles century inCentury fours inFours single quarters hundreds fourHundreds
    omega
  · have inYear : c - n1 * 365 < 365 ∨ c = 1460 ∧ n1 = 3 := by omega
    rcases inYear with before | ⟨rfl, rfl⟩
    · exact Or.inl before
    -- the last day of four years; at the end of a century only every fourth has it
    · have leapCentury : n4 < 24 ∨ n4 = 24 ∧ n100 = 3 := by omega
      clear inCycle cycles century inCentury fours inFours quarters hundreds fourHundreds
      refine Or.inr ⟨⟨by omega, ?_⟩, rfl⟩
      rcases leapCentury with inside | ⟨rfl, rfl⟩
      · left
        omega
      · right
        omega

/-- The days that `datetime` counts lie in the years 1 to 9999. -/
theorem yearOfOrdinal_bounds (early : n < 3652059) :
    1 ≤ (yearOfOrdinal n).1 ∧ (yearOfOrdinal n).1 ≤ 9999 := by
  simp only [yearOfOrdinal]
  omega

/-- The month of a day of a year starts at that day or before it, and ends after it. There are few
enough days to look at each of them. -/
theorem monthOfDay_days (leap : Bool) (inYear : n < 365 ∨ leap = true ∧ n = 365) :
    1 ≤ monthOfDay leap n ∧ monthOfDay leap n ≤ 12 ∧
      daysBeforeMonth leap (monthOfDay leap n) ≤ n ∧
        n < daysBeforeMonth leap (monthOfDay leap n + 1) := by
  have each : ∀ leap, ∀ n < 366, (n < 365 ∨ leap = true ∧ n = 365) →
      1 ≤ monthOfDay leap n ∧ monthOfDay leap n ≤ 12 ∧
        daysBeforeMonth leap (monthOfDay leap n) ≤ n ∧
          n < daysBeforeMonth leap (monthOfDay leap n + 1) := by
    decide +kernel
  apply each leap n
  · omega
  · exact inYear

/-- A day is read back from its date; the year and the month of the day are those it was counted
from. -/
theorem ordinal_dateOfOrdinal (n : Nat) : (dateOfOrdinal n).ordinal = n := by
  obtain ⟨days, inYear⟩ := yearOfOrdinal_days n
  obtain ⟨_, _, starts, _⟩ := monthOfDay_days _ inYear
  simp only [dateOfOrdinal, Date.ordinal]
  omega

/-- A day that `datetime` counts has a date that it accepts. -/
theorem dateOfOrdinal_isValid (early : n < 3652059) : (dateOfOrdinal n).isValid = true := by
  obtain ⟨_, inYear⟩ := yearOfOrdinal_days n
  obtain ⟨first, last⟩ := yearOfOrdinal_bounds early
  obtain ⟨january, december, starts, ends⟩ := monthOfDay_days _ inYear
  simp only [dateOfOrdinal, Date.isValid]
  apply decide_eq_true
  omega

/-- A date has a year of four digits, and a month and a day of two. -/
theorem isValid_small {date : Date} (valid : date.isValid = true) :
    date.year < 10 ^ 4 ∧ date.month < 10 ^ 2 ∧ date.day < 10 ^ 2 := by
  simp only [Date.isValid, decide_eq_true_eq] at valid
  obtain ⟨_, year, january, december, _, inMonth⟩ := valid
  have short : ∀ leap, ∀ month < 13, daysBeforeMonth leap (month + 1) < 400 := by decide
  have ends := short (isLeap date.year) date.month (by omega)
  refine ⟨by omega, by omega, ?_⟩
  have longest : ∀ leap, ∀ month < 13,
      daysBeforeMonth leap (month + 1) ≤ daysBeforeMonth leap month + 31 := by
    decide
  have most := longest (isLeap date.year) date.month (by omega)
  omega

end Calendar

section Digits

variable {n : Nat}

/-- A padded number has exactly its width, as digits beyond it are left out. -/
theorem zeroPadded_length (width n : Nat) : (zeroPadded width n).length = width := by
  induction width generalizing n with
  | zero => rfl
  | succ width inductionHypothesis =>
    rw [zeroPadded, List.length_append, inductionHypothesis]
    rfl

/-- The last digit of a number is a decimal digit of that value. -/
theorem digitChar_digit (n : Nat) : (Nat.digitChar (n % 10)).isDigit = true ∧
    (Nat.digitChar (n % 10)).toNat - 48 = n % 10 := by
  have each : ∀ d < 10, (Nat.digitChar d).isDigit = true ∧ (Nat.digitChar d).toNat - 48 = d := by
    decide
  exact each _ (Nat.mod_lt n (by decide))

/-- A padded number consists of decimal digits. -/
theorem zeroPadded_digits (width n : Nat) : (zeroPadded width n).all Char.isDigit = true := by
  induction width generalizing n with
  | zero => rfl
  | succ width inductionHypothesis =>
    rw [zeroPadded, List.all_append, inductionHypothesis]
    simp [(digitChar_digit n).1]

/-- A number that its width has room for is the value of its digits. -/
theorem zeroPadded_value {width : Nat} (short : n < 10 ^ width) :
    (zeroPadded width n).foldl (fun n c => n * 10 + (c.toNat - 48)) 0 = n := by
  induction width generalizing n with
  | zero =>
    rw [Nat.pow_zero] at short
    exact (Nat.lt_one_iff.mp short).symm
  | succ width inductionHypothesis =>
    have less : n / 10 < 10 ^ width := by
      rw [Nat.pow_succ] at short
      omega
    rw [zeroPadded, List.foldl_append, inductionHypothesis less, List.foldl_cons, List.foldl_nil,
      (digitChar_digit n).2]
    omega

/-- A padded number is read back, whatever text follows it. -/
theorem readNumber_zeroPadded {width : Nat} (short : n < 10 ^ width) (rest : Text) :
    readNumber width (zeroPadded width n ++ rest) = some (n, rest) := by
  have taken : (zeroPadded width n ++ rest).take width = zeroPadded width n :=
    List.take_left' (zeroPadded_length width n)
  have dropped : (zeroPadded width n ++ rest).drop width = rest :=
    List.drop_left' (zeroPadded_length width n)
  rw [readNumber, taken, dropped, if_pos ⟨zeroPadded_length width n, zeroPadded_digits width n⟩,
    zeroPadded_value short]

/-- What stands in front is taken off again. -/
theorem readAfter_append (front rest : Text) : readAfter front (front ++ rest) = some rest := by
  simp [readAfter, startsWith]

/-- A single character in front is taken off. -/
theorem readAfter_cons (c : Char) (rest : Text) : readAfter [c] (c :: rest) = some rest :=
  readAfter_append [c] rest

end Digits

/-- A second is read back from its text. Each field is read with its width, and the date and the
time of day are put together to the second they were taken from. -/
theorem utcSecond_utcText {epoch : Int} {text : Text} (written : utcText epoch = some text) :
    utcSecond (text ++ "+00:00".toList) = some epoch := by
  simp only [utcText] at written
  split at written
  next inRange =>
    obtain rfl := Option.some.inj written
    simp only [secondsOfAll] at inRange
    generalize counted : (epoch + secondsBeforeEpoch).toNat = seconds
    have early : seconds / 86400 < 3652059 := by omega
    have valid := dateOfOrdinal_isValid early
    have day := ordinal_dateOfOrdinal (seconds / 86400)
    obtain ⟨year, month, dayOfMonth⟩ := isValid_small valid
    generalize dateOfOrdinal (seconds / 86400) = date at *
    have hour : seconds % 86400 / 3600 < 10 ^ 2 := by omega
    have minute : seconds % 3600 / 60 < 10 ^ 2 := by omega
    have second : seconds % 60 < 10 ^ 2 := by omega
    simp only [utcSecond, List.append_assoc, List.cons_append, readNumber_zeroPadded year,
      readNumber_zeroPadded month, readNumber_zeroPadded dayOfMonth, readNumber_zeroPadded hour,
      readNumber_zeroPadded minute, readNumber_zeroPadded second, readAfter_cons,
      Option.bind_some]
    have ends : readAfter "+00:00".toList "+00:00".toList = some [] := by decide
    simp only [ends, Option.bind_some]
    rw [if_pos ⟨trivial, valid, by omega, by omega, by omega⟩, day, Option.some.injEq]
    omega
  next => cases written

/-- The text of a second has nineteen characters: every field has its width in the years that
`datetime` has. -/
theorem utcText_length {epoch : Int} {text : Text} (written : utcText epoch = some text) :
    text.length = 19 := by
  simp only [utcText] at written
  split at written
  next =>
    obtain rfl := Option.some.inj written
    simp only [List.length_append, List.length_cons, zeroPadded_length]
  next => cases written

/-- A second that has a text lies in the calendar, so reading its text with the offset of UTC does
not overflow. -/
theorem utcText_inCalendar {epoch : Int} {text : Text} (written : utcText epoch = some text) :
    0 ≤ epoch + secondsBeforeEpoch ∧ epoch + secondsBeforeEpoch < secondsOfAll := by
  simp only [utcText] at written
  split at written
  next inRange => exact inRange
  next => cases written

/-- A second is read back from its text with the offset of UTC, as one of the offsets. -/
theorem offsetSecond_utcText {epoch : Int} {text : Text} (written : utcText epoch = some text) :
    offsetSecond (text ++ "+00:00".toList) = some epoch := by
  have clock : (text ++ "+00:00".toList).take 19 = text :=
    List.take_left' (utcText_length written)
  have offset : (text ++ "+00:00".toList).drop 19 = "+00:00".toList :=
    List.drop_left' (utcText_length written)
  have noOffset : readOffset "+00:00".toList = some 0 := by decide
  rw [offsetSecond, clock, offset, utcSecond_utcText written, noOffset]
  simp

/-- The text of a second starts with a digit. -/
theorem utcText_digit {epoch : Int} {text : Text} (written : utcText epoch = some text) :
    ∃ c more, text = c :: more ∧ c.isDigit = true := by
  simp only [utcText] at written
  split at written
  next =>
    obtain rfl := Option.some.inj written
    generalize dateOfOrdinal _ = date
    have digits := zeroPadded_digits 4 date.year
    cases year : zeroPadded 4 date.year with
    | nil =>
      have length := zeroPadded_length 4 date.year
      rw [year] at length
      cases length
    | cons c more =>
      rw [year, List.all_cons, Bool.and_eq_true] at digits
      exact ⟨c, _, rfl, digits.1⟩
  next => cases written

end PyDatetime
