import Thaum.Library.JsonText

/-!
# `int`, `float` and `str` of decoded values

A text is read as a number after its blanks at the ends are gone; digits may be those of any
script, and single underscores may stand between them. An integer is not read from more than
4300 digits. A float that is too large is infinite when it is read from a text, and an error
when it is made of an integer.
-/

namespace PyNumbers

open PyText JsonText

/-- What a conversion raises. -/
inductive NumberError where
  | typeError | valueError | overflowError
deriving DecidableEq

/-- A code point in a numeric text: blanks and digits outside ASCII become their like. -/
def toAscii (p : CodePoint) : Option Char :=
  (toChar? p).bind fun c =>
    if c.toNat < 127 then some c
    else if isSpace c then some ' '
    else (decimalZeros.find? fun first => decide (first ≤ c.toNat ∧ c.toNat < first + 10)).map
      fun first => Char.ofNat (48 + (c.toNat - first))

/-- The blanks of ASCII. -/
def isBlankAscii (c : Char) : Bool := decide (9 ≤ c.toNat ∧ c.toNat ≤ 13) || c == ' '

/-- The text without underscores, which stand between digits. -/
def ungrouped (digitBefore : Bool) : Text → Option Text
  | [] => some []
  | ['_'] => none
  | '_' :: d :: rest =>
    if digitBefore && d.isDigit then (ungrouped true rest).map (d :: ·) else none
  | c :: rest => (ungrouped c.isDigit rest).map (c :: ·)

/-- The characters that a number is read from. -/
def numericText (s : PyStr) : Option Text :=
  (s.mapM toAscii).bind fun text =>
    ungrouped false ((text.dropWhile isBlankAscii).rdropWhile isBlankAscii)

/-- `int(s)` of a string, `none` where it raises. -/
def intOfStr (s : PyStr) : Option Int :=
  (numericText s).bind fun text =>
    let (negative, digits) := scanSign text
    if digits ≠ [] ∧ digits.all Char.isDigit = true ∧ digits.length ≤ maxStrDigits then
      some (if negative then -(digitsValue digits : Int) else digitsValue digits)
    else none

/-- `float(s)` of a string, `none` where it raises. -/
def floatOfStr (s : PyStr) : Option PyJson.Float :=
  (numericText s).bind fun text =>
    let (negative, size) := scanSign text
    if lower size = "inf".toList ∨ lower size = "infinity".toList then some (.infinity negative)
    else if lower size = "nan".toList then some .nan
    else
      let whole := size.takeWhile Char.isDigit
      let (fraction, rest) :=
        match size.dropWhile Char.isDigit with
        | '.' :: rest => (rest.takeWhile Char.isDigit, rest.dropWhile Char.isDigit)
        | rest => ([], rest)
      let (exponent, rest) := scanExponent rest
      if whole ++ fraction ≠ [] ∧ rest = [] then
        some (PyFloat.ofRat (decimal negative whole fraction (exponent.getD (false, []))))
      else none

/-- `int(value)`; a float is cut off behind its point. -/
def pyInt : Value → Except NumberError Int
  | .bool b => .ok (if b then 1 else 0)
  | .int n => .ok n
  | .float (.finite q) => .ok (if 0 ≤ q then q.floor else q.ceil)
  | .float (.infinity _) => .error .overflowError
  | .float .nan => .error .valueError
  | .str s => (intOfStr s).elim (.error .valueError) .ok
  | .null | .arr _ | .obj _ => .error .typeError

/-- `float(value)`. -/
def pyFloat : Value → Except NumberError PyJson.Float
  | .bool b => .ok (.finite (if b then 1 else 0))
  | .int n => (PyFloat.ofInt n).elim (.error .overflowError) .ok
  | .float f => .ok f
  | .str s => (floatOfStr s).elim (.error .valueError) .ok
  | .null | .arr _ | .obj _ => .error .typeError

/-- `str(value)`, with the text of floats, lists and dictionaries passed in. -/
def pyStr (rendering : Value → PyStr) : Value → Except NumberError PyStr
  | .null => .ok (ofText "None".toList)
  | .bool true => .ok (ofText "True".toList)
  | .bool false => .ok (ofText "False".toList)
  | .int n => ((dumpsInt n).map ofText).elim (.error .valueError) .ok
  | .str s => .ok s
  | other => .ok (rendering other)

end PyNumbers
