import Thaum.Library.PyFloat

/-!
# JSON text

`json.loads` and the parts of `json.dumps`. Strings are lists of code points: an escape can
name half of a surrogate pair, and Python keeps a half that stands alone. A number of more
than 4300 digits is neither read nor written. Objects and arrays nest only so deep.

Blanks, constants, numbers and escapes are those that Python accepts, `NaN` and the
infinities among them. A name that stands in an object twice has its last value.
-/

namespace JsonText

open PyText PyJson

/-- A code point, which may be a surrogate. -/
abbrev CodePoint := Fin 0x110000

/-- A `str` that may hold surrogates. -/
abbrev PyStr := List CodePoint

/-- The code point of a character. -/
def ofChar (c : Char) : CodePoint where
  val := c.toNat
  isLt := by
    rcases c.valid with below | above
    · exact Nat.lt_trans below (by decide)
    · exact above.2

/-- A text is a string without surrogates. -/
def ofText (s : Text) : PyStr := s.map ofChar

/-- The character of a code point that is no surrogate. -/
def toChar? (p : CodePoint) : Option Char :=
  if valid : p.val.isValidChar then some (Char.ofNatAux p.val valid) else none

/-- The text of a string without surrogates. -/
def toText? (s : PyStr) : Option Text := s.mapM toChar?

/-- A decoded value. -/
inductive Value where
  | null : Value
  | bool : Bool → Value
  | int : Int → Value
  | float : PyJson.Float → Value
  | str : PyStr → Value
  | arr : List Value → Value
  | obj : List (PyStr × Value) → Value

/-- What `json.loads` raises: `JSONDecodeError`, the `ValueError` of an integer with too many
digits, and `RecursionError`. -/
inductive LoadError where
  | decodeError | tooManyDigits | tooDeep
deriving DecidableEq

/-- What reading the front of a text comes to: what was read, and the text after it. -/
abbrev Scanned (α : Type) := Except LoadError (α × Text)

/-- `sys.int_info.default_max_str_digits`. -/
def maxStrDigits : Nat := 4300

/-- The digits of an integer with its sign, as `repr` writes them. -/
def intText (n : Int) : Text :=
  if n < 0 then '-' :: Nat.toDigits 10 n.natAbs else Nat.toDigits 10 n.natAbs

/-- `json.dumps(n)`, `none` where it raises. -/
def dumpsInt (n : Int) : Option Text :=
  if (Nat.toDigits 10 n.natAbs).length ≤ maxStrDigits then some (intText n) else none

section Strings

/-- The UTF-16 units of a code point. -/
def unitsOf (p : CodePoint) : List CodePoint :=
  if p.val < 0x10000 then [p]
  else
    [⟨0xd800 + (p.val - 0x10000) / 0x400, by have := p.isLt; omega⟩,
      ⟨0xdc00 + (p.val - 0x10000) % 0x400, by omega⟩]

/-- The UTF-16 units of a string. -/
def units (s : PyStr) : List CodePoint := s.flatMap unitsOf

/-- The unit is the first half of a surrogate pair. -/
def isHigh (p : CodePoint) : Bool := decide (0xd800 ≤ p.val ∧ p.val < 0xdc00)

/-- The unit is the second half of a surrogate pair. -/
def isLow (p : CodePoint) : Bool := decide (0xdc00 ≤ p.val ∧ p.val < 0xe000)

/-- The code point of a surrogate pair. -/
def joinPair (high low : CodePoint) : CodePoint :=
  ⟨0x10000 + (high.val - 0xd800) % 0x400 * 0x400 + (low.val - 0xdc00) % 0x400, by omega⟩

/-- The string of some units: surrogate pairs are joined, other surrogates stay. -/
def joinSurrogates : List CodePoint → PyStr
  | high :: low :: rest =>
    if isHigh high && isLow low then joinPair high low :: joinSurrogates rest
    else high :: joinSurrogates (low :: rest)
  | rest => rest

/-- The hexadecimal digit of a number below 16. -/
def hexDigit (n : Nat) : Char := if n < 10 then Char.ofNat (48 + n) else Char.ofNat (87 + n)

/-- The value of a hexadecimal digit. -/
def hexValue (c : Char) : Option Nat :=
  if c.isDigit then some (c.toNat - 48)
  else if decide ('a' ≤ c ∧ c ≤ 'f') then some (c.toNat - 87)
  else if decide ('A' ≤ c ∧ c ≤ 'F') then some (c.toNat - 55)
  else none

/-- A unit as it stands in the text that `json.dumps` makes. -/
def escapeUnit (p : CodePoint) : Text :=
  if p.val = 0x22 then ['\\', '"']
  else if p.val = 0x5c then ['\\', '\\']
  else if 0x20 ≤ p.val ∧ p.val ≤ 0x7e then [Char.ofNat p.val]
  else if p.val = 0x08 then ['\\', 'b']
  else if p.val = 0x0c then ['\\', 'f']
  else if p.val = 0x0a then ['\\', 'n']
  else if p.val = 0x0d then ['\\', 'r']
  else if p.val = 0x09 then ['\\', 't']
  else
    ['\\', 'u', hexDigit (p.val / 4096 % 16), hexDigit (p.val / 256 % 16),
      hexDigit (p.val / 16 % 16), hexDigit (p.val % 16)]

/-- `json.dumps(s)`. -/
def dumpsStr (s : PyStr) : Text := '"' :: (units s).flatMap escapeUnit ++ ['"']

/-- The unit of four hexadecimal digits. -/
def hexUnit (a b c d : Char) : Option CodePoint :=
  match hexValue a, hexValue b, hexValue c, hexValue d with
  | some a, some b, some c, some d =>
    some ⟨(a * 4096 + b * 256 + c * 16 + d) % 0x10000, by omega⟩
  | _, _, _, _ => none

/-- The unit of an escape of one character. -/
def shortEscape (c : Char) : Option CodePoint :=
  match c with
  | '"' | '\\' | '/' => some (ofChar c)
  | 'b' => some 0x08
  | 'f' => some 0x0c
  | 'n' => some 0x0a
  | 'r' => some 0x0d
  | 't' => some 0x09
  | _ => none

/-- The units of a string, from behind its first quotation mark. -/
def scanUnits : Text → Scanned (List CodePoint)
  | [] => .error .decodeError
  | '"' :: rest => .ok ([], rest)
  | '\\' :: 'u' :: a :: b :: c :: d :: rest =>
    match hexUnit a b c d with
    | some unit => (scanUnits rest).map fun (units, rest) => (unit :: units, rest)
    | none => .error .decodeError
  | '\\' :: c :: rest =>
    match shortEscape c with
    | some unit => (scanUnits rest).map fun (units, rest) => (unit :: units, rest)
    | none => .error .decodeError
  | c :: rest =>
    if c = '\\' ∨ c.toNat < 32 then .error .decodeError
    else (scanUnits rest).map fun (units, rest) => (ofChar c :: units, rest)

/-- `scanstring`. -/
def scanStr (s : Text) : Scanned PyStr :=
  (scanUnits s).map fun (units, rest) => (joinSurrogates units, rest)

end Strings

section Numbers

/-- The digits of a fraction; nothing of the text where there is none. -/
def scanFraction : Text → Option Text × Text
  | '.' :: rest =>
    if rest.takeWhile Char.isDigit = [] then (none, '.' :: rest)
    else (some (rest.takeWhile Char.isDigit), rest.dropWhile Char.isDigit)
  | rest => (none, rest)

/-- The sign of an exponent. -/
def scanSign : Text → Bool × Text
  | '-' :: rest => (true, rest)
  | '+' :: rest => (false, rest)
  | rest => (false, rest)

/-- The sign and the digits of an exponent; nothing of the text where there is none. -/
def scanExponent : Text → Option (Bool × Text) × Text
  | [] => (none, [])
  | e :: rest =>
    let (negative, digits) := scanSign rest
    if (e = 'e' ∨ e = 'E') ∧ digits.takeWhile Char.isDigit ≠ [] then
      (some (negative, digits.takeWhile Char.isDigit), digits.dropWhile Char.isDigit)
    else (none, e :: rest)

/-- The number that some decimal digits stand for. -/
def digitsValue (digits : Text) : Nat := Nat.ofDigitChars 10 digits 0

/-- The number that a decimal literal stands for. -/
def decimal (negative : Bool) (whole fraction : Text) (exponent : Bool × Text) : Rat :=
  let places : Int := digitsValue exponent.2
  let scaled : Rat := digitsValue (whole ++ fraction)
  let e : Int := (if exponent.1 then -places else places) - fraction.length
  let size : Rat := if 0 ≤ e then scaled * 10 ^ e.toNat else scaled / 10 ^ (-e).toNat
  if negative then -size else size

/-- The digits in front of a fraction; no other follows a zero. -/
def wholeDigits : Text → Text
  | '0' :: _ => ['0']
  | s => s.takeWhile Char.isDigit

/-- A number, from behind its sign. -/
def scanUnsigned (negative : Bool) (s : Text) : Scanned Value :=
  let whole := wholeDigits s
  let (fraction, rest) := scanFraction (s.drop whole.length)
  let (exponent, rest) := scanExponent rest
  if whole = [] then .error .decodeError
  else if fraction = none ∧ exponent = none then
    if maxStrDigits < whole.length then .error .tooManyDigits
    else
      let n : Int := digitsValue whole
      .ok (.int (if negative then -n else n), rest)
  else
    let number := decimal negative whole (fraction.getD []) (exponent.getD (false, []))
    .ok (.float (PyFloat.ofRat number), rest)

/-- A constant, or a number. -/
def scanPlain (s : Text) : Scanned Value :=
  if startsWith s "null".toList then .ok (.null, s.drop 4)
  else if startsWith s "true".toList then .ok (.bool true, s.drop 4)
  else if startsWith s "false".toList then .ok (.bool false, s.drop 5)
  else if startsWith s "NaN".toList then .ok (.float .nan, s.drop 3)
  else if startsWith s "Infinity".toList then .ok (.float (.infinity false), s.drop 8)
  else if startsWith s "-Infinity".toList then .ok (.float (.infinity true), s.drop 9)
  else
    match s with
    | '-' :: rest => scanUnsigned true rest
    | _ => scanUnsigned false s

end Numbers

section Nesting

/-- The blanks between the tokens of JSON, which are fewer than those of `str.isspace`. -/
def isBlank (c : Char) : Bool := c == ' ' || c == '\t' || c == '\n' || c == '\r'

/-- The text behind its leading blanks. -/
def skipBlanks (s : Text) : Text := s.dropWhile isBlank

variable {α : Type}

/-- Items with commas between them, up to the character that closes the list. Each comma
takes a character, so the length of the text is fuel enough. -/
def scanItems (item : Text → Scanned α) (closing : Char) : Nat → Text → Scanned (List α)
  | 0, _ => .error .decodeError
  | fuel + 1, s =>
    match item s with
    | .error raised => .error raised
    | .ok (first, rest) =>
      match skipBlanks rest with
      | [] => .error .decodeError
      | c :: rest =>
        if c = closing then .ok ([first], rest)
        else if c = ',' then
          (scanItems item closing fuel (skipBlanks rest)).map fun (more, rest) =>
            (first :: more, rest)
        else .error .decodeError

/-- What stands between brackets, from behind the opening one. -/
def scanList (item : Text → Scanned α) (closing : Char) (s : Text) : Scanned (List α) :=
  let s := skipBlanks s
  if s.head? = some closing then .ok ([], s.drop 1)
  else scanItems item closing (s.length + 1) s

/-- A name, a colon and a value. -/
def scanMember (value : Text → Scanned α) (s : Text) : Scanned (PyStr × α) :=
  match s with
  | '"' :: rest =>
    match scanStr rest with
    | .error raised => .error raised
    | .ok (name, rest) =>
      match skipBlanks rest with
      | ':' :: rest => (value (skipBlanks rest)).map fun (given, rest) => ((name, given), rest)
      | _ => .error .decodeError
  | _ => .error .decodeError

/-- A value that nests at most so deep. -/
def scanValue : Nat → Text → Scanned Value
  | _, '"' :: rest => (scanStr rest).map fun (s, rest) => (.str s, rest)
  | 0, '{' :: _ => .error .tooDeep
  | 0, '[' :: _ => .error .tooDeep
  | depth + 1, '{' :: rest =>
    (scanList (scanMember (scanValue depth)) '}' rest).map fun (members, rest) =>
      (.obj members, rest)
  | depth + 1, '[' :: rest =>
    (scanList (scanValue depth) ']' rest).map fun (items, rest) => (.arr items, rest)
  | _, s => scanPlain s

/-- `json.loads(s)` where objects and arrays can nest so deep. -/
def loads (depth : Nat) (s : Text) : Except LoadError Value :=
  match scanValue depth (skipBlanks s) with
  | .error raised => .error raised
  | .ok (value, rest) => if skipBlanks rest = [] then .ok value else .error .decodeError

end Nesting

mutual

/-- A value of text without lone surrogates, the last of some members with one name in front. -/
def toJson? : Value → Option Json
  | .null => some .null
  | .bool b => some (.bool b)
  | .int n => some (.int n)
  | .float q => some (.float q)
  | .str s => (toText? s).map .str
  | .arr items => (toItems? items).map .arr
  | .obj members => (toFields? members).map fun fields => .obj fields.reverse

def toItems? : List Value → Option (List Json)
  | [] => some []
  | item :: items => (toJson? item).bind fun item => (toItems? items).map (item :: ·)

def toFields? : List (PyStr × Value) → Option (List (Text × Json))
  | [] => some []
  | member :: members => (toField? member).bind fun field => (toFields? members).map (field :: ·)

def toField? : PyStr × Value → Option (Text × Json)
  | (name, value) => (toText? name).bind fun name => (toJson? value).map (name, ·)

end

/-- `fields.get(name)` of a dictionary. -/
def lookup (name : PyStr) (fields : List (PyStr × Value)) : Option Value :=
  fields.reverse.lookup name

section ReadingStrings

variable {rest : Text} {p : CodePoint}

/-- The unit is one of UTF-16. -/
def IsUnit (p : CodePoint) : Prop := p.val < 0x10000

/-- A hexadecimal digit is read as the number it was written for. -/
theorem hexValue_hexDigit {n : Nat} (small : n < 16) : hexValue (hexDigit n) = some n := by
  have each : ∀ n < 16, hexValue (hexDigit n) = some n := by decide
  exact each n small

/-- Four hexadecimal digits give the unit that they were written for, as a unit has sixteen bits. -/
theorem hexUnit_hexDigits (isUnit : IsUnit p) :
    hexUnit (hexDigit (p.val / 4096 % 16)) (hexDigit (p.val / 256 % 16))
      (hexDigit (p.val / 16 % 16)) (hexDigit (p.val % 16)) = some p := by
  rw [hexUnit, hexValue_hexDigit (Nat.mod_lt _ (by decide)),
    hexValue_hexDigit (Nat.mod_lt _ (by decide)), hexValue_hexDigit (Nat.mod_lt _ (by decide)),
    hexValue_hexDigit (Nat.mod_lt _ (by decide))]
  apply congrArg some
  apply Fin.ext
  rw [IsUnit] at isUnit
  dsimp only
  omega

/-- A printable character that is neither a quotation mark nor an escape stands for itself. -/
theorem scanUnits_plain {c : Char} (noQuote : c ≠ '"') (noEscape : c ≠ '\\')
    (printable : 32 ≤ c.toNat) :
    scanUnits (c :: rest) =
      (scanUnits rest).map fun (units, rest) => (ofChar c :: units, rest) := by
  rw [scanUnits]
  · rw [if_neg]
    rintro (escape | control)
    · exact noEscape escape
    · omega
  · exact noQuote
  · intro _ _ _ _ _ escape
    exact absurd escape noEscape
  · intro _ _ escape
    exact absurd escape noEscape

/-- A code point of ASCII is that of a character. -/
theorem toNat_ofNat {n : Nat} (small : n < 128) : (Char.ofNat n).toNat = n := by
  have each : ∀ n < 128, (Char.ofNat n).toNat = n := by decide
  exact each n small

/-- An escape of one character is read as the unit it stands for. -/
theorem scanUnits_short {c : Char} (short : shortEscape c = some p) :
    scanUnits ('\\' :: c :: rest) =
      (scanUnits rest).map fun (units, rest) => (p :: units, rest) := by
  rw [scanUnits]
  · rw [short]
  · rintro a b c' d rest' rfl
    exact nomatch short

/-- An escape of four hexadecimal digits is read as its unit, whether or not that is half of a
surrogate pair. -/
theorem scanUnits_hex (isUnit : IsUnit p) :
    scanUnits ('\\' :: 'u' :: hexDigit (p.val / 4096 % 16) :: hexDigit (p.val / 256 % 16) ::
        hexDigit (p.val / 16 % 16) :: hexDigit (p.val % 16) :: rest) =
      (scanUnits rest).map fun (units, rest) => (p :: units, rest) := by
  rw [scanUnits, hexUnit_hexDigits isUnit]

/-- A unit is read back from the way it is written. The cases are those of `escapeUnit`: the short
escapes, the printable characters of ASCII and everything else in hexadecimal digits. -/
theorem scanUnits_escape (isUnit : IsUnit p) :
    scanUnits (escapeUnit p ++ rest) =
      (scanUnits rest).map fun (units, rest) => (p :: units, rest) := by
  have named {n : Nat} {q : CodePoint} {c : Char} (same : p.val = n) (isName : q.val = n)
      (short : shortEscape c = some q) :
      scanUnits ('\\' :: c :: rest) =
        (scanUnits rest).map fun (units, rest) => (p :: units, rest) := by
    have equal : q = p := Fin.ext (isName.trans same.symm)
    exact scanUnits_short (equal ▸ short)
  rw [escapeUnit]
  split
  · exact named ‹_› rfl rfl
  · split
    · exact named ‹_› rfl rfl
    · split
      · rename_i noQuote noEscape printable
        have value := toNat_ofNat (n := p.val) (by omega)
        have same : ofChar (Char.ofNat p.val) = p := Fin.ext value
        rw [List.singleton_append, scanUnits_plain, same]
        · intro quote
          rw [quote] at value
          exact noQuote value.symm
        · intro escape
          rw [escape] at value
          exact noEscape value.symm
        · omega
      · split
        · exact named ‹_› rfl rfl
        · split
          · exact named ‹_› rfl rfl
          · split
            · exact named ‹_› rfl rfl
            · split
              · exact named ‹_› rfl rfl
              · split
                · exact named ‹_› rfl rfl
                · exact scanUnits_hex isUnit

/-- The units of a string are read back, up to the quotation mark behind them. -/
theorem scanUnits_units (us : List CodePoint) (areUnits : ∀ p ∈ us, IsUnit p) :
    scanUnits (us.flatMap escapeUnit ++ '"' :: rest) = .ok (us, rest) := by
  induction us with
  | nil => rfl
  | cons p us inductionHypothesis =>
    obtain ⟨first, others⟩ := List.forall_mem_cons.mp areUnits
    rw [List.flatMap_cons, List.append_assoc, scanUnits_escape first, inductionHypothesis others]
    rfl

/-- What stands in the units of a string are units of UTF-16. -/
theorem units_areUnits (s : PyStr) : ∀ p ∈ units s, IsUnit p := by
  intro p listed
  obtain ⟨q, _, isUnit⟩ := List.mem_flatMap.mp listed
  rw [unitsOf] at isUnit
  split at isUnit
  · rw [List.mem_singleton.mp isUnit]
    assumption
  · have bound := q.isLt
    rw [IsUnit]
    rcases List.mem_cons.mp isUnit with rfl | isLow
    · dsimp only
      omega
    · rw [List.mem_singleton.mp isLow]
      dsimp only
      omega

/-- A code point that has sixteen bits is its only unit. -/
theorem unitsOf_unit (isUnit : IsUnit p) : unitsOf p = [p] := if_pos isUnit

/-- A surrogate pair is taken apart into the two halves it was joined of. -/
theorem unitsOf_joinPair {high low : CodePoint} (isHigh : isHigh high = true)
    (isLow : isLow low = true) : unitsOf (joinPair high low) = [high, low] := by
  have highBounds := of_decide_eq_true isHigh
  have lowBounds := of_decide_eq_true isLow
  have beyond : ¬(joinPair high low).val < 0x10000 := by
    rw [joinPair]
    dsimp only
    omega
  have first : 0xd800 + ((joinPair high low).val - 0x10000) / 0x400 = high.val := by
    rw [joinPair]
    dsimp only
    omega
  have second : 0xdc00 + ((joinPair high low).val - 0x10000) % 0x400 = low.val := by
    rw [joinPair]
    dsimp only
    omega
  rw [unitsOf, if_neg beyond, List.cons_eq_cons, List.cons_eq_cons]
  exact ⟨Fin.ext first, Fin.ext second, rfl⟩

/-- Joined surrogates are taken apart again. Which halves were joined does not matter for the
units. -/
theorem units_joinSurrogates (us : List CodePoint) (areUnits : ∀ p ∈ us, IsUnit p) :
    units (joinSurrogates us) = us := by
  induction us using joinSurrogates.induct with
  | case1 high low rest isPair inductionHypothesis =>
    obtain ⟨isHigh, isLow⟩ := Bool.and_eq_true_iff.mp isPair
    have others : ∀ p ∈ rest, IsUnit p := by
      intro p listed
      exact areUnits p (List.mem_cons_of_mem _ (List.mem_cons_of_mem _ listed))
    rw [joinSurrogates, if_pos isPair, units, List.flatMap_cons, unitsOf_joinPair isHigh isLow]
    exact congrArg (high :: low :: ·) (inductionHypothesis others)
  | case2 high low rest noPair inductionHypothesis =>
    obtain ⟨first, others⟩ := List.forall_mem_cons.mp areUnits
    rw [joinSurrogates, if_neg noPair, units, List.flatMap_cons, unitsOf_unit first]
    exact congrArg (high :: ·) (inductionHypothesis others)
  | case3 rest short =>
    cases rest with
    | nil => rfl
    | cons p rest =>
      cases rest with
      | nil =>
        rw [joinSurrogates, units, List.flatMap_singleton]
        · exact unitsOf_unit (areUnits p List.mem_cons_self)
        · simp
      | cons q rest => exact absurd rfl (short p q rest)

/-- A string that is written and read is written the same way, although its surrogates may have been
joined by the reading. -/
theorem dumpsStr_read (s : PyStr) : dumpsStr (joinSurrogates (units s)) = dumpsStr s := by
  rw [dumpsStr, units_joinSurrogates (units s) (units_areUnits s), dumpsStr]

/-- A unit that is no first half stays as it is. -/
theorem joinSurrogates_cons (noHigh : isHigh p = false) (us : List CodePoint) :
    joinSurrogates (p :: us) = p :: joinSurrogates us := by
  cases us with
  | nil => rfl
  | cons q us =>
    rw [joinSurrogates, noHigh]
    rfl

/-- The units of a code point that is no first half are joined to it, whatever comes after them. -/
theorem joinSurrogates_unitsOf (noHigh : isHigh p = false) (us : List CodePoint) :
    joinSurrogates (unitsOf p ++ us) = p :: joinSurrogates us := by
  have bound := p.isLt
  rw [unitsOf]
  split
  · exact joinSurrogates_cons noHigh us
  · simp only [List.cons_append, List.nil_append, joinSurrogates]
    rw [if_pos]
    · apply congrArg (· :: joinSurrogates us)
      apply Fin.ext
      simp only [joinPair]
      omega
    · rw [Bool.and_eq_true, isHigh, isLow, decide_eq_true_eq, decide_eq_true_eq]
      constructor
      · dsimp only
        omega
      · dsimp only
        omega

/-- No character is half of a surrogate pair. -/
theorem ofChar_noHigh (c : Char) : isHigh (ofChar c) = false := by
  have valid := c.valid
  rw [isHigh, decide_eq_false_iff_not]
  simp only [ofChar]
  rcases valid with below | above
  · change c.toNat < 55296 at below
    omega
  · have past : 57343 < c.toNat := above.1
    omega

/-- The text of characters is joined as it was. This is why texts go through JSON unchanged, where
strings with lone surrogates may not. -/
theorem joinSurrogates_text (s : Text) : joinSurrogates (units (ofText s)) = ofText s := by
  induction s with
  | nil => rfl
  | cons c s inductionHypothesis =>
    rw [ofText, List.map_cons, units, List.flatMap_cons,
      joinSurrogates_unitsOf (ofChar_noHigh c)]
    exact congrArg (ofChar c :: ·) inductionHypothesis

/-- A text is a string of characters, and is found again in it. -/
theorem toText?_ofText (s : Text) : toText? (ofText s) = some s := by
  have char (c : Char) : toChar? (ofChar c) = some c := by
    rw [toChar?]
    exact dif_pos c.valid
  induction s with
  | nil => rfl
  | cons c s inductionHypothesis =>
    rw [toText?, ofText, List.map_cons, List.mapM_cons, char c]
    change (toText? (ofText s)).bind (fun rest => some (c :: rest)) = _
    rw [inductionHypothesis]
    rfl

/-- A written string is read up to its quotation mark, with its surrogates joined. -/
theorem scanStr_dumps (s : PyStr) :
    ∃ front, dumpsStr s = '"' :: front ∧
      ∀ rest, scanStr (front ++ rest) = .ok (joinSurrogates (units s), rest) := by
  refine ⟨(units s).flatMap escapeUnit ++ ['"'], rfl, ?_⟩
  intro rest
  rw [scanStr, List.append_assoc, List.singleton_append,
    scanUnits_units (units s) (units_areUnits s)]
  rfl

end ReadingStrings

section ReadingNumbers

variable {rest : Text}

/-- The first digit of a positive number is not zero, so its literal is one that JSON admits. -/
theorem toDigits_head (n : Nat) (positive : 0 < n) : (Nat.toDigits 10 n).head? ≠ some '0' := by
  induction n using Nat.strongRecOn with
  | ind n inductionHypothesis =>
    by_cases single : n < 10
    · have each : ∀ n < 10, 0 < n → (Nat.toDigits 10 n).head? ≠ some '0' := by decide
      exact each n single positive
    · have first := inductionHypothesis (n / 10) (by omega) (by omega)
      rw [Nat.toDigits_of_base_le (by decide) (by omega),
        List.head?_append_of_ne_nil _ Nat.toDigits_ne_nil]
      exact first

/-- A number is written with decimal digits only. -/
theorem toDigits_digits {n : Nat} {c : Char} (listed : c ∈ Nat.toDigits 10 n) :
    c.isDigit = true :=
  Nat.isDigit_of_mem_toDigits (by decide) (by decide) listed

/-- An integer is written with decimal digits and a sign. -/
theorem mem_intText {n : Int} {c : Char} (listed : c ∈ intText n) : c.isDigit = true ∨ c = '-' := by
  rw [intText] at listed
  split at listed
  · rcases List.mem_cons.mp listed with rfl | digit
    · exact Or.inr rfl
    · exact Or.inl (toDigits_digits digit)
  · exact Or.inl (toDigits_digits listed)

/-- Numbers with the same digits are the same. -/
theorem toDigits_inj {m n : Nat} (same : Nat.toDigits 10 m = Nat.toDigits 10 n) : m = n := by
  have value := congrArg digitsValue same
  rwa [digitsValue, digitsValue, Nat.ofDigitChars_ten_toDigits,
    Nat.ofDigitChars_ten_toDigits] at value

/-- Two integers are not written alike: the sign tells their signs apart, and the digits their
absolute values. -/
theorem intText_inj {m n : Int} (same : intText m = intText n) : m = n := by
  have noSign {k l : Nat} : '-' :: Nat.toDigits 10 k ≠ Nat.toDigits 10 l := by
    intro signed
    have listed : '-' ∈ Nat.toDigits 10 l := signed ▸ List.mem_cons_self
    exact absurd (toDigits_digits listed) (by decide)
  rw [intText, intText] at same
  split at same
  · split at same
    · have value := toDigits_inj (List.cons.inj same).2
      omega
    · exact absurd same noSign
  · split at same
    · exact absurd same.symm noSign
    · have value := toDigits_inj same
      omega

/-- The digits of an integer are those of Lean's own text of it. -/
theorem toString_intText (n : Int) : (toString n).toList = intText n := by
  rw [Int.toString_eq_repr, Int.repr_eq_if, intText]
  split
  next nonneg =>
    rw [if_neg (by omega), Nat.toList_repr]
    congr 1
    omega
  next negative =>
    rw [if_pos (by omega), String.toList_append, Nat.toList_repr]
    have magnitude : (-n).toNat = n.natAbs := by omega
    rw [magnitude]
    rfl

/-- What follows a value in a text. -/
def IsFollow (c : Char) : Prop := c = ',' ∨ c = '}' ∨ c = ']'

/-- What follows a value neither goes on with its digits nor starts a fraction or an exponent. -/
theorem follow_other {c : Char} (follows : IsFollow c) :
    c.isDigit = false ∧ c ≠ '.' ∧ c ≠ 'e' ∧ c ≠ 'E' := by
  rcases follows with rfl | rfl | rfl <;> decide

/-- The digits of a number end where the number ends. -/
theorem takeWhile_digits {n : Nat} {c : Char} (follows : IsFollow c) :
    (Nat.toDigits 10 n ++ c :: rest).takeWhile Char.isDigit = Nat.toDigits 10 n := by
  rw [List.takeWhile_append_of_pos fun _ listed => toDigits_digits listed,
    List.takeWhile_cons_of_neg (by simp [(follow_other follows).1]), List.append_nil]

/-- The digits of a number in front of what follows it are all read, a zero included. -/
theorem wholeDigits_digits {n : Nat} {c : Char} (follows : IsFollow c) :
    wholeDigits (Nat.toDigits 10 n ++ c :: rest) = Nat.toDigits 10 n := by
  rw [wholeDigits.eq_def]
  split
  · rename_i zero
    rcases Nat.eq_zero_or_pos n with rfl | positive
    · rfl
    · have first := toDigits_head n positive
      cases digits : Nat.toDigits 10 n with
      | nil => exact absurd digits Nat.toDigits_ne_nil
      | cons d others =>
        rw [digits] at zero first
        exact absurd (congrArg some (List.cons.inj zero).1) first
  · exact takeWhile_digits follows

variable (rest) in
/-- The digits of a number that is short enough are read as that number, and with a sign in front as
its opposite. -/
theorem scanUnsigned_digits {n : Nat} {c : Char} (negative : Bool) (follows : IsFollow c)
    (short : (Nat.toDigits 10 n).length ≤ maxStrDigits) :
    scanUnsigned negative (Nat.toDigits 10 n ++ c :: rest) =
      .ok (.int (if negative then -n else n), c :: rest) := by
  obtain ⟨_, noPoint, noSmall, noCapital⟩ := follow_other follows
  have fraction : scanFraction (c :: rest) = (none, c :: rest) := by
    rw [scanFraction]
    intro _ point
    exact absurd (List.cons.inj point).1 noPoint
  have exponent : scanExponent (c :: rest) = (none, c :: rest) := by
    rw [scanExponent]
    simp [noSmall, noCapital]
  have value : digitsValue (Nat.toDigits 10 n) = n := Nat.ofDigitChars_ten_toDigits
  rw [scanUnsigned, wholeDigits_digits follows, List.drop_left, fraction]
  dsimp only
  rw [exponent]
  dsimp only
  rw [if_neg Nat.toDigits_ne_nil, if_pos ⟨rfl, rfl⟩, if_neg (by omega), value]

variable (rest) in
/-- A constant other than a number starts with a letter, or with a sign and a letter. -/
theorem scanPlain_number {c : Char} (digit : c.isDigit = true) :
    scanPlain (c :: rest) = scanUnsigned false (c :: rest) ∧
      scanPlain ('-' :: c :: rest) = scanUnsigned true (c :: rest) := by
  have others : c ≠ 'n' ∧ c ≠ 't' ∧ c ≠ 'f' ∧ c ≠ 'N' ∧ c ≠ 'I' ∧ c ≠ '-' := by
    refine ⟨?_, ?_, ?_, ?_, ?_, ?_⟩ <;> rintro rfl <;> exact absurd digit (by decide)
  obtain ⟨noN, noT, noF, noNan, noInf, noSign⟩ := others
  constructor
  · simp [scanPlain, startsWith, List.isPrefixOf, noN.symm, noT.symm, noF.symm, noNan.symm,
      noInf.symm, noSign.symm, noSign]
  · simp [scanPlain, startsWith, List.isPrefixOf, noInf.symm]

variable (rest) in
/-- An integer is read back, if it could be written: `dumpsInt` writes none with more digits than
are read. -/
theorem scanPlain_int {n : Int} {text : Text} {c : Char} (written : dumpsInt n = some text)
    (follows : IsFollow c) : scanPlain (text ++ c :: rest) = .ok (.int n, c :: rest) := by
  rw [dumpsInt] at written
  split at written
  · rename_i short
    rw [← Option.some.inj written, intText]
    cases digits : Nat.toDigits 10 n.natAbs with
    | nil => exact absurd digits Nat.toDigits_ne_nil
    | cons d others =>
      have digit : d.isDigit = true :=
        toDigits_digits (n := n.natAbs) (digits ▸ List.mem_cons_self)
      obtain ⟨plain, signed⟩ := scanPlain_number (others ++ c :: rest) digit
      split
      · rename_i negative
        have read := scanUnsigned_digits rest true follows short
        rw [digits] at read
        have value : -(n.natAbs : Int) = n := by omega
        rw [List.cons_append, List.cons_append, signed, ← List.cons_append, read, if_pos rfl,
          value]
      · rename_i positive
        have read := scanUnsigned_digits rest false follows short
        rw [digits] at read
        have value : (n.natAbs : Int) = n := by omega
        rw [List.cons_append, plain, ← List.cons_append, read, if_neg Bool.false_ne_true, value]
  · exact nomatch written

end ReadingNumbers

section ReadingValues

variable {α : Type} {item : Text → Scanned α} {text blank rest : Text} {value : α}
  {closing : Char} {depth : Nat}

/-- The text is read as the value wherever a value may stand. -/
structure Written (item : Text → Scanned α) (text : Text) (value : α) : Prop where
  read : ∀ c rest, IsFollow c → item (text ++ c :: rest) = .ok (value, c :: rest)
  solid : ∃ c more, text = c :: more ∧ isBlank c = false ∧ ¬IsFollow c

/-- Texts with commas between them, and the same blanks after each comma. -/
def joinItems (blank : Text) : List Text → Text
  | [] => []
  | [text] => text
  | text :: next :: texts => text ++ ',' :: (blank ++ joinItems blank (next :: texts))

/-- Nothing is skipped in front of a character that is not blank. -/
theorem skipBlanks_solid {c : Char} (solid : isBlank c = false) :
    skipBlanks (c :: rest) = c :: rest :=
  List.dropWhile_cons_of_neg (by simp [solid])

/-- What follows a value is not blank itself. -/
theorem follow_solid {c : Char} (follows : IsFollow c) : isBlank c = false := by
  rcases follows with rfl | rfl | rfl <;> rfl

/-- Blanks in front of a written text are skipped. -/
theorem skipBlanks_written (blanks : ∀ c ∈ blank, isBlank c = true)
    (written : Written item text value) :
    skipBlanks (blank ++ (text ++ rest)) = text ++ rest := by
  obtain ⟨c, more, rfl, solid, _⟩ := written.solid
  rw [skipBlanks, List.dropWhile_append_of_pos blanks]
  exact skipBlanks_solid solid

/-- Items that are written one after the other are read one after the other. The induction is on the
items; each takes a unit of the fuel. -/
theorem scanItems_written (blanks : ∀ c ∈ blank, isBlank c = true)
    (closes : IsFollow closing) (noComma : closing ≠ ',') (items : List (Text × α))
    (written : ∀ entry ∈ items, Written item entry.1 entry.2) (some : items ≠ []) {fuel : Nat}
    (enough : items.length ≤ fuel) :
    scanItems item closing fuel (joinItems blank (items.map Prod.fst) ++ closing :: rest) =
      .ok (items.map Prod.snd, rest) := by
  induction items generalizing fuel with
  | nil => exact absurd rfl some
  | cons entry items inductionHypothesis =>
    obtain ⟨first, others⟩ := List.forall_mem_cons.mp written
    obtain ⟨fuel, rfl⟩ : ∃ less, fuel = less + 1 := ⟨fuel - 1, by simp at enough; omega⟩
    cases items with
    | nil =>
      rw [List.map_singleton, joinItems, scanItems, first.read closing rest closes]
      dsimp only
      rw [skipBlanks_solid (follow_solid closes)]
      dsimp only
      rw [if_pos rfl]
      rfl
    | cons second items =>
      have next := (List.forall_mem_cons.mp others).1
      have more := inductionHypothesis others (List.cons_ne_nil _ _)
        (Nat.le_of_succ_le_succ enough)
      have skipped : skipBlanks (blank ++
          (joinItems blank ((second :: items).map Prod.fst) ++ closing :: rest)) =
          joinItems blank ((second :: items).map Prod.fst) ++ closing :: rest := by
        cases items with
        | nil => exact skipBlanks_written blanks next
        | cons third items =>
          rw [List.map_cons, List.map_cons, joinItems, List.append_assoc]
          exact skipBlanks_written blanks next
      have comma : IsFollow ',' := Or.inl rfl
      rw [List.map_cons, List.map_cons, joinItems, List.append_assoc, List.cons_append, scanItems,
        first.read ',' _ comma]
      dsimp only
      rw [skipBlanks_solid (follow_solid comma)]
      dsimp only
      rw [if_neg noComma.symm, if_pos rfl, List.append_assoc, ← List.map_cons, skipped, more]
      rfl

variable (blank) in
/-- Each item takes a character at least, so the length of a list's text is fuel enough for it. -/
theorem length_joinItems (items : List (Text × α))
    (written : ∀ entry ∈ items, Written item entry.1 entry.2) :
    items.length ≤ (joinItems blank (items.map Prod.fst)).length := by
  induction items with
  | nil => exact Nat.zero_le _
  | cons entry items inductionHypothesis =>
    obtain ⟨first, others⟩ := List.forall_mem_cons.mp written
    obtain ⟨c, more, isText, _⟩ := first.solid
    have shorter := inductionHypothesis others
    cases items with
    | nil => simp [joinItems, isText]
    | cons second items =>
      rw [List.map_cons, List.map_cons, joinItems, ← List.map_cons]
      simp only [List.length_append, List.length_cons] at shorter ⊢
      omega

variable (rest) in
/-- A list is read up to its closing bracket, with all its items in order. -/
theorem scanList_written (blanks : ∀ c ∈ blank, isBlank c = true)
    (closes : IsFollow closing) (noComma : closing ≠ ',') (items : List (Text × α))
    (written : ∀ entry ∈ items, Written item entry.1 entry.2) (some : items ≠ []) :
    scanList item closing (joinItems blank (items.map Prod.fst) ++ closing :: rest) =
      .ok (items.map Prod.snd, rest) := by
  have starts : ∃ c more, joinItems blank (items.map Prod.fst) = c :: more ∧
      isBlank c = false ∧ ¬IsFollow c := by
    cases items with
    | nil => exact absurd rfl some
    | cons entry items =>
      obtain ⟨c, more, isText, solid, noFollow⟩ := (written entry List.mem_cons_self).solid
      cases items with
      | nil => exact ⟨c, more, isText, solid, noFollow⟩
      | cons second items =>
        refine ⟨c, more ++ ',' :: (blank ++ joinItems blank ((second :: items).map Prod.fst)),
          ?_, solid, noFollow⟩
        rw [List.map_cons, List.map_cons, joinItems, isText]
        rfl
  have long := length_joinItems blank items written
  obtain ⟨c, more, isText, solid, noFollow⟩ := starts
  have skipped : skipBlanks (joinItems blank (items.map Prod.fst) ++ closing :: rest) =
      joinItems blank (items.map Prod.fst) ++ closing :: rest := by
    rw [isText]
    exact skipBlanks_solid solid
  rw [scanList]
  rw [skipped, if_neg]
  · apply scanItems_written blanks closes noComma items written some
    rw [List.length_append]
    omega
  · rw [isText]
    intro same
    have isClosing : c = closing := Option.some.inj same
    exact noFollow (isClosing ▸ closes)

/-- A member as it is written. -/
def dumpsMember (blank : Text) (name : PyStr) (text : Text) : Text :=
  dumpsStr name ++ ':' :: (blank ++ text)

/-- A member is read as its name, with the surrogates joined, and its value. -/
theorem scanMember_written (name : PyStr) (blanks : ∀ c ∈ blank, isBlank c = true)
    (written : Written item text value) :
    Written (scanMember item) (dumpsMember blank name text)
      (joinSurrogates (units name), value) := by
  obtain ⟨front, isText, read⟩ := scanStr_dumps name
  rw [dumpsMember, isText]
  constructor
  · intro c rest follows
    rw [List.append_assoc, List.cons_append, scanMember, read]
    dsimp only
    rw [List.cons_append, skipBlanks_solid (by decide), List.append_assoc]
    change Except.map _ (item (skipBlanks (blank ++ (text ++ c :: rest)))) = _
    rw [skipBlanks_written blanks written, written.read c rest follows]
    rfl
  · refine ⟨'"', _, rfl, by decide, ?_⟩
    rw [IsFollow]
    decide

/-- An object as it is written. -/
def dumpsObj (blank : Text) (members : List (PyStr × Text)) : Text :=
  '{' :: (joinItems blank (members.map fun member => dumpsMember blank member.1 member.2) ++ ['}'])

variable (rest) in
/-- The text of an object is read as its members, with their names. -/
theorem scanValue_obj (blanks : ∀ c ∈ blank, isBlank c = true)
    (members : List (PyStr × Text × Value)) (some : members ≠ [])
    (written : ∀ member ∈ members, Written (scanValue depth) member.2.1 member.2.2) :
    scanValue (depth + 1)
        (dumpsObj blank (members.map fun member => (member.1, member.2.1)) ++ rest) =
      .ok (.obj (members.map fun member => (joinSurrogates (units member.1), member.2.2)),
        rest) := by
  have entries : ∀ entry ∈ members.map (fun member =>
      (dumpsMember blank member.1 member.2.1, joinSurrogates (units member.1), member.2.2)),
      Written (scanMember (scanValue depth)) entry.1 entry.2 := by
    intro entry listed
    obtain ⟨member, isMember, rfl⟩ := List.mem_map.mp listed
    exact scanMember_written member.1 blanks (written member isMember)
  have items := scanList_written rest blanks (Or.inr (Or.inl rfl)) (by decide) _
    entries (by simpa using some)
  rw [List.map_map, List.map_map] at items
  rw [dumpsObj, List.cons_append, scanValue, List.append_assoc, List.map_map]
  exact congrArg (Except.map fun read => (Value.obj read.1, read.2)) items

variable (blank depth) in
/-- `json.loads` of the text of an object. Nothing stands behind the closing brace, so the text is
used up. -/
theorem loads_obj (blanks : ∀ c ∈ blank, isBlank c = true)
    (members : List (PyStr × Text × Value)) (some : members ≠ [])
    (written : ∀ member ∈ members, Written (scanValue depth) member.2.1 member.2.2) :
    loads (depth + 1) (dumpsObj blank (members.map fun member => (member.1, member.2.1))) =
      .ok (.obj (members.map fun member => (joinSurrogates (units member.1), member.2.2))) := by
  have read := scanValue_obj [] blanks members some written
  rw [List.append_nil] at read
  have starts : skipBlanks (dumpsObj blank (members.map fun member => (member.1, member.2.1))) =
      dumpsObj blank (members.map fun member => (member.1, member.2.1)) :=
    skipBlanks_solid (by decide)
  rw [loads, starts, read]
  rfl

/-- What starts neither a string nor an object nor an array is a constant or a number. -/
theorem scanValue_plain {c : Char} (noQuote : c ≠ '"') (noBrace : c ≠ '{')
    (noBracket : c ≠ '[') : scanValue depth (c :: rest) = scanPlain (c :: rest) := by
  rw [scanValue.eq_def]
  split
  · exact absurd (List.cons.inj ‹_›).1 noQuote
  · exact absurd (List.cons.inj ‹_›).1 noBrace
  · exact absurd (List.cons.inj ‹_›).1 noBracket
  · exact absurd (List.cons.inj ‹_›).1 noBrace
  · exact absurd (List.cons.inj ‹_›).1 noBracket
  · rfl

/-- An integer that can be written is read wherever a value may stand. -/
theorem written_int {n : Int} (written : dumpsInt n = some text) :
    Written (scanValue depth) text (.int n) := by
  have starts : ∃ c more, text = c :: more ∧ (c = '-' ∨ c.isDigit = true) := by
    rw [dumpsInt] at written
    split at written
    · rw [← Option.some.inj written, intText]
      split
      · exact ⟨'-', _, rfl, Or.inl rfl⟩
      · cases digits : Nat.toDigits 10 n.natAbs with
        | nil => exact absurd digits Nat.toDigits_ne_nil
        | cons d others =>
          exact ⟨d, others, rfl,
            Or.inr (toDigits_digits (n := n.natAbs) (digits ▸ List.mem_cons_self))⟩
    · exact nomatch written
  obtain ⟨c, more, isText, starts⟩ := starts
  have other {d : Char} (noSign : d ≠ '-') (noDigit : d.isDigit = false) : c ≠ d := by
    rintro rfl
    rcases starts with sign | digit
    · exact noSign sign
    · rw [noDigit] at digit
      exact nomatch digit
  constructor
  · intro d rest follows
    have read := scanPlain_int rest written follows
    rw [isText, List.cons_append] at read ⊢
    rw [scanValue_plain (other (by decide) (by decide)) (other (by decide) (by decide))
      (other (by decide) (by decide)), read]
  · refine ⟨c, more, isText, ?_, ?_⟩
    · rcases starts with rfl | digit
      · rfl
      · have noBlank (d : Char) (isBlank : d = ' ' ∨ d = '\t' ∨ d = '\n' ∨ d = '\r') : c ≠ d := by
          rcases isBlank with rfl | rfl | rfl | rfl <;> exact other (by decide) (by decide)
        simp [isBlank, noBlank]
    · rintro (rfl | rfl | rfl) <;> exact other (by decide) (by decide) rfl

/-- The constant `null` is read wherever a value may stand. -/
theorem written_null : Written (scanValue depth) "null".toList .null := by
  constructor
  · intro c rest _
    change scanValue depth ('n' :: _) = _
    rw [scanValue_plain (by decide) (by decide) (by decide)]
    rfl
  · refine ⟨'n', _, rfl, by decide, ?_⟩
    rw [IsFollow]
    decide

/-- A written string is read wherever a value may stand, with its surrogates joined. -/
theorem written_str (s : PyStr) :
    Written (scanValue depth) (dumpsStr s) (.str (joinSurrogates (units s))) := by
  obtain ⟨front, isText, read⟩ := scanStr_dumps s
  rw [isText]
  constructor
  · intro c rest _
    rw [List.cons_append, scanValue, read]
    rfl
  · refine ⟨'"', _, rfl, by decide, ?_⟩
    rw [IsFollow]
    decide

end ReadingValues

section Fuel

variable {α : Type} {item : Text → Scanned α} {closing : Char} {s rest : Text}

/-- What is left of a text is no longer than the text. -/
def Shrinks (item : Text → Scanned α) : Prop :=
  ∀ s value rest, item s = .ok (value, rest) → rest.length ≤ s.length

/-- Skipping blanks makes no text longer. -/
theorem skipBlanks_length (s : Text) : (skipBlanks s).length ≤ s.length :=
  (List.dropWhile_sublist _).length_le

/-- More fuel than the text is long changes nothing, as each comma takes a character and no item
gives any back. -/
theorem scanItems_fuel (shrinks : Shrinks item) {fuel other : Nat} (enough : s.length < fuel)
    (enough' : s.length < other) :
    scanItems item closing fuel s = scanItems item closing other s := by
  induction fuel generalizing other s with
  | zero => omega
  | succ fuel inductionHypothesis =>
    obtain ⟨other, rfl⟩ : ∃ less, other = less + 1 := ⟨other - 1, by omega⟩
    rw [scanItems, scanItems]
    cases read : item s with
    | error raised => rfl
    | ok entry =>
      obtain ⟨first, rest⟩ := entry
      have shorter := shrinks s first rest read
      have skipped := skipBlanks_length rest
      dsimp only
      cases follows : skipBlanks rest with
      | nil => rfl
      | cons c more =>
        rw [follows, List.length_cons] at skipped
        have skipped' := skipBlanks_length more
        dsimp only
        have same : scanItems item closing fuel (skipBlanks more) =
            scanItems item closing other (skipBlanks more) :=
          inductionHypothesis (by omega) (by omega)
        rw [same]

/-- A mapped reading that ended with a result was a reading that did. -/
theorem map_ok {β : Type} {scanned : Scanned α} {f : α × Text → β × Text} {read : β × Text}
    (isRead : scanned.map f = .ok read) : ∃ first, scanned = .ok first ∧ f first = read := by
  cases scanned with
  | error raised => exact nomatch isRead
  | ok first => exact ⟨first, rfl, Except.ok.inj isRead⟩

/-- A string leaves no more than there was behind its quotation mark. -/
theorem scanUnits_shrinks : Shrinks scanUnits := by
  intro s value rest read
  fun_induction scanUnits s generalizing value rest with
  | case1 => exact nomatch read
  | case2 rest' =>
    cases read
    exact Nat.le_succ _
  | case3 a b c d rest' unit _ inductionHypothesis =>
    obtain ⟨⟨us, left⟩, isRead, same⟩ := map_ok read
    cases same
    have shorter := inductionHypothesis us _ isRead
    simp only [List.length_cons]
    omega
  | case4 => exact nomatch read
  | case5 c rest' _ unit _ inductionHypothesis =>
    obtain ⟨⟨us, left⟩, isRead, same⟩ := map_ok read
    cases same
    have shorter := inductionHypothesis us _ isRead
    simp only [List.length_cons]
    omega
  | case6 => exact nomatch read
  | case7 => exact nomatch read
  | case8 c rest' _ _ _ _ inductionHypothesis =>
    obtain ⟨⟨us, left⟩, isRead, same⟩ := map_ok read
    cases same
    have shorter := inductionHypothesis us _ isRead
    simp only [List.length_cons]
    omega

/-- A fraction leaves no more than there was, and all of it where there is none. -/
theorem scanFraction_length (s : Text) : (scanFraction s).2.length ≤ s.length := by
  rw [scanFraction.eq_def]
  split
  · split
    · exact Nat.le_refl _
    · exact Nat.le_succ_of_le (List.dropWhile_sublist _).length_le
  · exact Nat.le_refl _

/-- A sign leaves no more than there was. -/
theorem scanSign_length (s : Text) : (scanSign s).2.length ≤ s.length := by
  rw [scanSign.eq_def]
  split
  · exact Nat.le_succ _
  · exact Nat.le_succ _
  · exact Nat.le_refl _

/-- An exponent leaves no more than there was, and all of it where there is none. -/
theorem scanExponent_length (s : Text) : (scanExponent s).2.length ≤ s.length := by
  rw [scanExponent.eq_def]
  split
  · exact Nat.le_refl _
  · rename_i e rest
    have signed := scanSign_length rest
    dsimp only
    split
    · have digits := (List.dropWhile_sublist Char.isDigit (l := (scanSign rest).2)).length_le
      simp only [List.length_cons]
      omega
    · exact Nat.le_refl _

/-- A number leaves no more than there was, in each of its parts. -/
theorem scanUnsigned_shrinks (negative : Bool) : Shrinks (scanUnsigned negative) := by
  intro s value rest read
  have fraction := scanFraction_length (s.drop (wholeDigits s).length)
  have exponent := scanExponent_length (scanFraction (s.drop (wholeDigits s).length)).2
  rw [List.length_drop] at fraction
  rw [scanUnsigned] at read
  dsimp only at read
  split at read
  · exact nomatch read
  · split at read
    · split at read
      · exact nomatch read
      · cases read
        omega
    · cases read
      omega

/-- A constant or a number leaves no more than there was. -/
theorem scanPlain_shrinks : Shrinks scanPlain := by
  intro s value rest read
  have dropped (n : Nat) : (s.drop n).length ≤ s.length := by
    rw [List.length_drop]
    omega
  unfold scanPlain at read
  split at read
  · cases read
    exact dropped 4
  · split at read
    · cases read
      exact dropped 4
    · split at read
      · cases read
        exact dropped 5
      · split at read
        · cases read
          exact dropped 3
        · split at read
          · cases read
            exact dropped 8
          · split at read
            · cases read
              exact dropped 9
            · split at read
              · exact Nat.le_succ_of_le (scanUnsigned_shrinks true _ _ _ read)
              · exact scanUnsigned_shrinks false _ _ _ read

/-- Items that leave no more than there was do so one after the other. -/
theorem scanItems_shrinks (shrinks : Shrinks item) (fuel : Nat) :
    Shrinks (scanItems item closing fuel) := by
  induction fuel with
  | zero =>
    intro s value rest read
    exact nomatch read
  | succ fuel inductionHypothesis =>
    intro s value rest read
    rw [scanItems] at read
    split at read
    · exact nomatch read
    · rename_i first left isRead
      have shorter := shrinks s first left isRead
      have skipped := skipBlanks_length left
      split at read
      · exact nomatch read
      · rename_i c more follows
        rw [follows, List.length_cons] at skipped
        split at read
        · cases read
          omega
        · split at read
          · obtain ⟨⟨others, left'⟩, isRead', same⟩ := map_ok read
            cases same
            have shorter' := inductionHypothesis _ _ _ isRead'
            have skipped' := skipBlanks_length more
            omega
          · exact nomatch read

/-- A list leaves no more than there was, if its items do. -/
theorem scanList_shrinks (shrinks : Shrinks item) : Shrinks (scanList item closing) := by
  intro s value rest read
  have skipped := skipBlanks_length s
  rw [scanList] at read
  split at read
  · cases read
    rw [List.length_drop]
    omega
  · have shorter := scanItems_shrinks shrinks _ _ _ _ read
    omega

/-- A string leaves no more than there was, from behind its first quotation mark. -/
theorem scanStr_shrinks : Shrinks scanStr := by
  intro s value rest read
  obtain ⟨⟨us, left⟩, isRead, same⟩ := map_ok read
  cases same
  exact scanUnits_shrinks _ _ _ isRead

/-- A member leaves no more than there was, if its value does. -/
theorem scanMember_shrinks (shrinks : Shrinks item) : Shrinks (scanMember item) := by
  intro s value rest read
  rw [scanMember.eq_def] at read
  split at read
  · rename_i quoted
    split at read
    · exact nomatch read
    · rename_i name left isName
      have shorter := scanStr_shrinks _ _ _ isName
      have skipped := skipBlanks_length left
      split at read
      · rename_i more follows
        obtain ⟨⟨given, left'⟩, isRead, same⟩ := map_ok read
        cases same
        have shorter' := shrinks _ _ _ isRead
        have skipped' := skipBlanks_length more
        rw [follows, List.length_cons] at skipped
        rw [List.length_cons]
        omega
      · exact nomatch read
  · exact nomatch read

/-- Reading a value leaves no more than there was, so the fuel of its lists is enough. The induction
is on how deep values nest. -/
theorem scanValue_shrinks (depth : Nat) : Shrinks (scanValue depth) := by
  induction depth with
  | zero =>
    intro s value rest read
    rw [scanValue.eq_def] at read
    split at read
    · obtain ⟨⟨given, left⟩, isRead, same⟩ := map_ok read
      cases same
      exact Nat.le_succ_of_le (scanStr_shrinks _ _ _ isRead)
    · exact nomatch read
    · exact nomatch read
    · omega
    · omega
    · exact scanPlain_shrinks _ _ _ read
  | succ depth inductionHypothesis =>
    intro s value rest read
    rw [scanValue.eq_def] at read
    split at read
    · obtain ⟨⟨given, left⟩, isRead, same⟩ := map_ok read
      cases same
      exact Nat.le_succ_of_le (scanStr_shrinks _ _ _ isRead)
    · exact nomatch read
    · exact nomatch read
    · obtain ⟨⟨given, left⟩, isRead, same⟩ := map_ok read
      cases same
      cases ‹depth + 1 = _›
      exact Nat.le_succ_of_le
        (scanList_shrinks (scanMember_shrinks inductionHypothesis) _ _ _ isRead)
    · obtain ⟨⟨given, left⟩, isRead, same⟩ := map_ok read
      cases same
      cases ‹depth + 1 = _›
      exact Nat.le_succ_of_le (scanList_shrinks inductionHypothesis _ _ _ isRead)
    · exact scanPlain_shrinks _ _ _ read

/-- With any more fuel the lists and objects of a value are read the same. The fuel of `scanList` is
therefore no limit that the text could meet. -/
theorem scanValue_fuel (depth : Nat) {fuel : Nat} (enough : s.length < fuel) :
    scanItems (scanValue depth) ']' fuel s =
        scanItems (scanValue depth) ']' (s.length + 1) s ∧
      scanItems (scanMember (scanValue depth)) '}' fuel s =
        scanItems (scanMember (scanValue depth)) '}' (s.length + 1) s := by
  have shrinks := scanValue_shrinks depth
  constructor
  · apply scanItems_fuel shrinks enough
    omega
  · apply scanItems_fuel (scanMember_shrinks shrinks) enough
    omega

end Fuel

end JsonText
