import Mathlib.Data.List.DropRight

/-!
# Python text: blanks, trimming and letter case

A `str` is a list of code points. Blanks are the characters `str.isspace` and
the regular-expression class `\s` agree on; `strip` removes them at both ends.

Case mapping is exact wherever the argument or the result contains an ASCII
letter: the ASCII letters themselves and the few characters whose mapping is or
contains one. Every other character is kept, which no comparison with an ASCII
constant can observe.
-/

namespace PyText

/-- A Python string, one entry for each code point. -/
abbrev Text := List Char

/-- A condition on the characters of a text is decided along the text. -/
instance (priority := high) decidableForallMem {p : Char → Prop} [DecidablePred p]
    (s : Text) : Decidable (∀ c ∈ s, p c) := List.decidableBAll p s

/-- The characters that `str.isspace`, `str.strip` and `\s` treat as blank. -/
def isSpace (c : Char) : Bool :=
  let n := c.toNat
  decide (9 ≤ n ∧ n ≤ 13) || decide (28 ≤ n ∧ n ≤ 32) || n == 0x85 || n == 0xa0 ||
    n == 0x1680 || decide (0x2000 ≤ n ∧ n ≤ 0x200a) || n == 0x2028 || n == 0x2029 ||
    n == 0x202f || n == 0x205f || n == 0x3000

def lstrip (s : Text) : Text := s.dropWhile isSpace

def rstrip (s : Text) : Text := s.rdropWhile isSpace

/-- `s.strip()`. -/
def strip (s : Text) : Text := rstrip (lstrip s)

/-- One character of `s.lower()`: the Kelvin sign and the dotted capital I are
the only characters outside ASCII with an ASCII letter in their lower case. -/
def lowerChar (c : Char) : Text :=
  if c = '\u212a' then ['k']
  else if c = '\u0130' then ['i', '\u0307']
  else [c.toLower]

/-- `s.lower()`. -/
def lower (s : Text) : Text := s.flatMap lowerChar

/-- The characters outside ASCII with an ASCII letter in their upper case. -/
def upperSpecial : List (Char × Text) :=
  [('\u00df', ['S', 'S']), ('\u0131', ['I']), ('\u0149', ['\u02bc', 'N']), ('\u017f', ['S']),
    ('\u01f0', ['J', '\u030c']), ('\u1e96', ['H', '\u0331']), ('\u1e97', ['T', '\u0308']),
    ('\u1e98', ['W', '\u030a']), ('\u1e99', ['Y', '\u030a']), ('\u1e9a', ['A', '\u02be']),
    ('\ufb00', ['F', 'F']), ('\ufb01', ['F', 'I']), ('\ufb02', ['F', 'L']),
    ('\ufb03', ['F', 'F', 'I']), ('\ufb04', ['F', 'F', 'L']), ('\ufb05', ['S', 'T']),
    ('\ufb06', ['S', 'T'])]

/-- One character of `s.upper()`. -/
def upperChar (c : Char) : Text := (upperSpecial.lookup c).getD [c.toUpper]

/-- `s.upper()`. -/
def upper (s : Text) : Text := s.flatMap upperChar

/-- One character of `s.casefold()`: the lower case of its upper case where that
is special, with the dotless i kept and the capital sharp s folded like the
small one. -/
def casefoldChar (c : Char) : Text :=
  if c = '\u0131' then [c]
  else if c = '\u1e9e' then ['s', 's']
  else match upperSpecial.lookup c with
    | some special => lower special
    | none => lowerChar c

/-- `s.casefold()`. -/
def casefold (s : Text) : Text := s.flatMap casefoldChar

/-- The zeros of the decimal digits of Unicode; each is followed by its nine others. -/
def decimalZeros : List Nat :=
  [0x30, 0x660, 0x6f0, 0x7c0, 0x966, 0x9e6, 0xa66, 0xae6, 0xb66, 0xbe6, 0xc66, 0xce6, 0xd66, 0xde6,
    0xe50, 0xed0, 0xf20, 0x1040, 0x1090, 0x17e0, 0x1810, 0x1946, 0x19d0, 0x1a80, 0x1a90, 0x1b50,
    0x1bb0, 0x1c40, 0x1c50, 0xa620, 0xa8d0, 0xa900, 0xa9d0, 0xa9f0, 0xaa50, 0xabf0, 0xff10,
    0x104a0, 0x10d30, 0x11066, 0x110f0, 0x11136, 0x111d0, 0x112f0, 0x11450, 0x114d0, 0x11650,
    0x116c0, 0x11730, 0x118e0, 0x11950, 0x11c50, 0x11d50, 0x11da0, 0x16a60, 0x16ac0, 0x16b50,
    0x1d7ce, 0x1d7d8, 0x1d7e2, 0x1d7ec, 0x1d7f6, 0x1e140, 0x1e2f0, 0x1e950, 0x1fbf0]

/-- The characters of the regular-expression class `\d`. -/
def isDecimal (c : Char) : Bool :=
  decimalZeros.any fun first => decide (first ≤ c.toNat ∧ c.toNat < first + 10)

/-- `value or fallback` for a string. -/
def orElse (value fallback : Text) : Text := if value = [] then fallback else value

/-- `s` starts with `head`. -/
def startsWith (s head : Text) : Bool := head.isPrefixOf s

/-- No blank at either end. -/
def Trimmed (s : Text) : Prop := strip s = s

/-- Some character is not blank, so something is left after trimming. -/
def NonBlank (s : Text) : Prop := strip s ≠ []

instance (s : Text) : Decidable (Trimmed s) := inferInstanceAs (Decidable (strip s = s))

instance (s : Text) : Decidable (NonBlank s) := inferInstanceAs (Decidable (strip s ≠ []))

@[simp] theorem strip_nil : strip [] = [] := rfl

/-- A text is its leading blanks, its trimmed part and its trailing blanks. What trimming does is
read off this split everywhere below. -/
theorem strip_split (s : Text) :
    ∃ leading trailing, s = leading ++ strip s ++ trailing ∧
      leading.all isSpace = true ∧ trailing.all isSpace = true := by
  refine ⟨s.takeWhile isSpace, (lstrip s).rtakeWhile isSpace, ?_, ?_, ?_⟩
  · rw [List.append_assoc, strip, rstrip, List.rdropWhile_append_rtakeWhile, lstrip,
      List.takeWhile_append_dropWhile]
  · exact List.all_takeWhile
  · rw [List.rtakeWhile, List.all_reverse]
    exact List.all_takeWhile

/-- Trimming leaves nothing exactly of a text of blanks. -/
theorem strip_eq_nil_iff (s : Text) : strip s = [] ↔ s.all isSpace = true := by
  constructor
  · intro blank
    obtain ⟨leading, trailing, parts, before, after⟩ := strip_split s
    rw [parts, blank]
    simp [before, after]
  · intro blank
    have nothing : lstrip s = [] :=
      List.dropWhile_eq_nil_iff.mpr (List.all_eq_true.mp blank)
    rw [strip, nothing]
    rfl

/-- A text that starts and ends with a character that is not blank is trimmed; the empty text has no
ends and is trimmed as well. -/
theorem trimmed_of_ends (s : Text) (first : ∀ c ∈ s.head?, isSpace c = false)
    (last : ∀ c ∈ s.getLast?, isSpace c = false) : Trimmed s := by
  have front : lstrip s = s := by
    cases s with
    | nil => rfl
    | cons c rest => exact List.dropWhile_cons_of_neg (by simp [first c rfl])
  rw [Trimmed, strip, front, rstrip, List.rdropWhile_eq_self_iff]
  intro nonempty
  simpa using last (s.getLast nonempty) (List.getLast?_eq_some_getLast nonempty)

/-- What is left after trimming starts and ends with a character that is not blank. -/
theorem strip_ends (s : Text) :
    (∀ c ∈ (strip s).head?, isSpace c = false) ∧
      ∀ c ∈ (strip s).getLast?, isSpace c = false := by
  have back : ∀ nonempty : strip s ≠ [], isSpace ((strip s).getLast nonempty) = false := by
    intro nonempty
    have kept := List.rdropWhile_eq_self_iff.mp
      (List.rdropWhile_idempotent (p := isSpace) (lstrip s))
    simpa [strip, rstrip] using kept nonempty
  constructor
  · intro c isHead
    obtain ⟨suffix, parts⟩ := List.rdropWhile_prefix isSpace (lstrip s)
    cases left : strip s with
    | nil => simp [left] at isHead
    | cons d rest =>
      have same : d = c := by simpa [left] using isHead
      subst same
      have front : lstrip s = d :: (rest ++ suffix) := by
        rw [← parts, ← List.cons_append, ← left]
        rfl
      have nonempty : lstrip s ≠ [] := by simp [front]
      have notBlank : isSpace ((lstrip s).head nonempty) = false :=
        List.head_dropWhile_not isSpace nonempty
      simpa [front] using notBlank
  · intro c isLast
    obtain ⟨nonempty, same⟩ := List.mem_getLast?_eq_getLast isLast
    exact same ▸ back nonempty

/-- Trimming twice is trimming once. -/
@[simp] theorem strip_strip (s : Text) : strip (strip s) = strip s :=
  trimmed_of_ends (strip s) (strip_ends s).1 (strip_ends s).2

/-- Blanks in front go with the others at the left end. -/
theorem lstrip_append {blank : Text} (s : Text) (blanks : blank.all isSpace = true) :
    lstrip (blank ++ s) = lstrip s :=
  List.dropWhile_append_of_pos (List.all_eq_true.mp blanks)

/-- The right end is trimmed behind the first character, unless all is blank. With this equation
trimming at the right end goes by induction from the left. -/
theorem rstrip_cons (c : Char) (s : Text) :
    rstrip (c :: s) = if (c :: s).all isSpace = true then [] else c :: rstrip s := by
  induction s using List.reverseRecOn with
  | nil => simp [rstrip, List.rdropWhile_singleton]
  | append_singleton s last inductionHypothesis =>
    rw [← List.cons_append]
    by_cases blank : isSpace last = true
    · have shorter : (c :: s ++ [last]).all isSpace = (c :: s).all isSpace := by simp [blank]
      rw [shorter, rstrip, rstrip, List.rdropWhile_concat_pos _ _ _ blank,
        List.rdropWhile_concat_pos _ _ _ blank]
      exact inductionHypothesis
    · rw [rstrip, rstrip, List.rdropWhile_concat_neg _ _ _ blank,
        List.rdropWhile_concat_neg _ _ _ blank]
      simp [blank]

/-- Trimming the right end stops at a character that is not blank. -/
theorem rstrip_append (front : Text) {c : Char} (s : Text) (solid : isSpace c = false) :
    rstrip (front ++ c :: s) = front ++ c :: rstrip s := by
  induction front with
  | nil => simp [rstrip_cons, solid]
  | cons d front inductionHypothesis =>
    rw [List.cons_append, rstrip_cons, inductionHypothesis, if_neg (by simp [solid])]
    rfl

/-- The ends can be trimmed in either order, as neither end reaches over a character that is not
blank. -/
theorem lstrip_rstrip (s : Text) : lstrip (rstrip s) = strip s := by
  induction s with
  | nil => rfl
  | cons c s inductionHypothesis =>
    cases blank : isSpace c with
    | true =>
      have skipped : lstrip (c :: s) = lstrip s := List.dropWhile_cons_of_pos blank
      rw [strip, skipped, ← strip, ← inductionHypothesis, rstrip_cons]
      split
      · rename_i blanks
        have rest : s.all isSpace = true := by
          rw [List.all_cons, blank, Bool.true_and] at blanks
          exact blanks
        rw [inductionHypothesis, (strip_eq_nil_iff s).mpr rest]
        rfl
      · exact List.dropWhile_cons_of_pos blank
    | false =>
      have kept : lstrip (c :: s) = c :: s := List.dropWhile_cons_of_neg (by simp [blank])
      rw [strip, kept, rstrip_cons, if_neg (by simp [blank])]
      exact List.dropWhile_cons_of_neg (by simp [blank])

/-- Blanks in front of a text do not change what is left of it after trimming. -/
theorem strip_append {blank : Text} (s : Text) (blanks : blank.all isSpace = true) :
    strip (blank ++ s) = strip s := by
  rw [strip, lstrip_append s blanks, strip]

/-- Blanks behind go with the others at the right end. -/
theorem rstrip_append_blank (s : Text) {blank : Text} (blanks : blank.all isSpace = true) :
    rstrip (s ++ blank) = rstrip s := by
  have reversed : ∀ c ∈ blank.reverse, isSpace c = true := by simpa using blanks
  rw [rstrip, rstrip, List.rdropWhile, List.rdropWhile, List.reverse_append,
    List.dropWhile_append_of_pos reversed]

/-- What is trimmed at the right end does not end with a blank. -/
theorem rstrip_ends (s : Text) : ∀ c ∈ (rstrip s).getLast?, isSpace c = false := by
  intro c isLast
  obtain ⟨nonempty, same⟩ := List.mem_getLast?_eq_getLast isLast
  rw [same]
  exact Bool.eq_false_iff.mpr (List.rdropWhile_last_not isSpace s nonempty)

section Ends

variable {s rest : Text} {c : Char}

/-- A trimmed text has no blank at either end; the other direction of `trimmed_of_ends`. -/
theorem Trimmed.ends (trimmed : Trimmed s) : (∀ c ∈ s.head?, isSpace c = false) ∧
    ∀ c ∈ s.getLast?, isSpace c = false := by
  have ends := strip_ends s
  rwa [trimmed] at ends

/-- What is trimmed and put together is trimmed, whatever the gap between the two is. The ends of
the whole are ends of the parts, as both are not empty. -/
theorem Trimmed.append (first : Trimmed s) (last : Trimmed rest) (someFirst : s ≠ [])
    (someLast : rest ≠ []) (gap : Text) : Trimmed (s ++ (gap ++ rest)) := by
  apply trimmed_of_ends
  · rw [List.head?_append_of_ne_nil _ someFirst]
    exact first.ends.1
  · rw [List.getLast?_append_of_ne_nil _ (List.append_ne_nil_of_right_ne_nil _ someLast),
      List.getLast?_append_of_ne_nil _ someLast]
    exact last.ends.2

/-- A trimmed text has nothing to trim at its left end. -/
theorem Trimmed.lstrip_eq (trimmed : Trimmed s) : lstrip s = s := by
  cases s with
  | nil => rfl
  | cons c s =>
    have solid := trimmed.ends.1 c rfl
    exact List.dropWhile_cons_of_neg (by simp [solid])

/-- Blanks behind a trimmed text are all that trimming takes. A line end behind a value is the case
that the readers of files meet. -/
theorem Trimmed.strip_append_blank (trimmed : Trimmed s) {blank : Text}
    (blanks : blank.all isSpace = true) : strip (s ++ blank) = s := by
  cases s with
  | nil => exact (strip_eq_nil_iff blank).mpr blanks
  | cons c s =>
    have solid := trimmed.ends.1 c rfl
    have front : lstrip (c :: s ++ blank) = c :: s ++ blank :=
      List.dropWhile_cons_of_neg (by simp [solid])
    calc strip (c :: s ++ blank) = rstrip (c :: s ++ blank) := congrArg rstrip front
      _ = rstrip (c :: s) := rstrip_append_blank _ blanks
      _ = rstrip (lstrip (c :: s)) := by rw [trimmed.lstrip_eq]
      _ = c :: s := trimmed

/-- An end of a trimmed text without blanks in front is trimmed. -/
theorem Trimmed.lstrip_suffix (trimmed : Trimmed s) (behind : rest <:+ s) :
    Trimmed (lstrip rest) := by
  apply trimmed_of_ends
  · intro c isHead
    have solid := List.head?_dropWhile_not isSpace rest
    rw [lstrip] at isHead
    rw [isHead] at solid
    simpa using solid
  · intro c isLast
    obtain ⟨front, parts⟩ := (List.dropWhile_suffix isSpace).trans behind
    have nonempty : lstrip rest ≠ [] := by
      intro nothing
      rw [nothing] at isLast
      cases isLast
    apply trimmed.ends.2 c
    rw [← parts]
    exact (List.getLast?_append_of_ne_nil _ nonempty).trans isLast

/-- Behind a blank of a trimmed text something is left that is not blank. -/
theorem Trimmed.behind_blank (trimmed : Trimmed s) (behind : c :: rest <:+ s)
    (isBlank : isSpace c = true) : lstrip rest ≠ [] := by
  intro nothing
  have blanks : ∀ d ∈ c :: rest, isSpace d = true :=
    List.forall_mem_cons.mpr ⟨isBlank, List.dropWhile_eq_nil_iff.mp nothing⟩
  obtain ⟨front, rfl⟩ := behind
  have isLast := List.getLast?_eq_some_getLast (List.cons_ne_nil c rest)
  have last := List.getLast?_append_of_ne_nil front (List.cons_ne_nil c rest)
  have solid := trimmed.ends.2 _ (last.trans isLast)
  rw [blanks _ (List.getLast_mem _)] at solid
  cases solid

/-- Text behind one that is not blank does not change how the left end is trimmed. -/
theorem lstrip_append_right (nonempty : lstrip s ≠ []) (more : Text) :
    lstrip (s ++ more) = lstrip s ++ more := by
  have kept : ¬ (s.dropWhile isSpace).isEmpty = true := by rwa [List.isEmpty_iff]
  rw [lstrip, List.dropWhile_append, if_neg kept]
  rfl

end Ends

/-- The text is the word up to the case of ASCII letters. -/
def SpelledAs (word s : Text) : Prop := s.map Char.toLower = word

instance (word s : Text) : Decidable (SpelledAs word s) :=
  inferInstanceAs (Decidable (s.map Char.toLower = word))

/-- A capital letter has its lower case 32 code points further on. -/
theorem toLower_capital {c : Char} (capital : c.val ≥ 'A'.val ∧ c.val ≤ 'Z'.val) :
    c.toLower.val = c.val + ('a'.val - 'A'.val) :=
  congrArg Char.val (dif_pos capital)

/-- Every other character is its own lower case. -/
theorem toLower_other {c : Char} (other : ¬ (c.val ≥ 'A'.val ∧ c.val ≤ 'Z'.val)) :
    c.toLower = c :=
  dif_neg other

/-- A capital letter is lowered to a letter that is not one. -/
theorem toLower_small {c : Char} (capital : c.val ≥ 'A'.val ∧ c.val ≤ 'Z'.val) :
    97 ≤ c.toLower.toNat ∧ c.toLower.toNat ≤ 122 := by
  have least : 65 ≤ c.val.toNat := capital.1
  have greatest : c.val.toNat ≤ 90 := capital.2
  have apart : ('a'.val - 'A'.val).toNat = 32 := by decide
  have moved : c.toLower.val.toNat = c.val.toNat + 32 := by
    rw [toLower_capital capital, UInt32.toNat_add, apart]
    exact Nat.mod_eq_of_lt (by omega)
  rw [Char.toNat, moved]
  omega

/-- Only letters change their case, and into letters. So a symbol in a lowered text stands there in
the text itself. -/
theorem toLower_symbol {c symbol : Char} (lowered : c.toLower = symbol)
    (notLetter : symbol.isLower = false) : c = symbol := by
  by_cases capital : c.val ≥ 'A'.val ∧ c.val ≤ 'Z'.val
  · obtain ⟨first, last⟩ := toLower_small capital
    have letter : c.toLower.isLower = true :=
      Bool.and_eq_true_iff.mpr ⟨decide_eq_true first, decide_eq_true last⟩
    rw [lowered, notLetter] at letter
    exact absurd letter Bool.false_ne_true
  · exact (toLower_other capital).symm.trans lowered

/-- What is lowered has nothing left to lower. -/
theorem toLower_toLower (c : Char) : c.toLower.toLower = c.toLower := by
  by_cases capital : c.val ≥ 'A'.val ∧ c.val ≤ 'Z'.val
  · apply toLower_other
    rintro ⟨_, notSmall⟩
    have small := (toLower_small capital).1
    have greatest : c.toLower.toNat ≤ 90 := notSmall
    omega
  · rw [toLower_other capital, toLower_other capital]

/-- Characters of one lower case are equal, or one of them is the lower case of the other. -/
theorem toLower_same {c d : Char} (same : c.toLower = d.toLower) :
    c = d ∨ c = d.toLower ∨ d = c.toLower := by
  by_cases first : c.val ≥ 'A'.val ∧ c.val ≤ 'Z'.val
  · by_cases second : d.val ≥ 'A'.val ∧ d.val ≤ 'Z'.val
    · have moved := congrArg Char.val same
      rw [toLower_capital first, toLower_capital second] at moved
      exact Or.inl (Char.ext ((UInt32.add_left_inj _).mp moved))
    · exact Or.inr (Or.inr ((toLower_other second).symm.trans same.symm))
  · exact Or.inr (Or.inl ((toLower_other first).symm.trans same))

/-- A character from the capitals to the end of ASCII is not blank. -/
theorem letter_solid {c : Char} (least : 65 ≤ c.toNat) (greatest : c.toNat ≤ 122) :
    isSpace c = false := by
  simp only [isSpace, Bool.or_eq_false_iff, decide_eq_false_iff_not, beq_eq_false_iff_ne]
  omega

/-- Lowering neither makes nor removes blanks, so that trimming and lowering can change places. -/
theorem isSpace_toLower (c : Char) : isSpace c.toLower = isSpace c := by
  by_cases capital : c.val ≥ 'A'.val ∧ c.val ≤ 'Z'.val
  · obtain ⟨least, greatest⟩ := toLower_small capital
    have notSmall : c.toNat ≤ 90 := capital.2
    rw [letter_solid capital.1 (by omega), letter_solid (by omega) greatest]
  · rw [toLower_other capital]

/-- A word without blanks is spelled without blanks. -/
theorem spelled_solid {word s : Text} (spelled : SpelledAs word s)
    (solid : ∀ c ∈ word, isSpace c = false) : ∀ c ∈ s, isSpace c = false := by
  intro c listed
  rw [← isSpace_toLower c]
  exact solid _ (spelled ▸ List.mem_map_of_mem listed)

/-- A spelling of two words put together is a spelling of the first with one of the second behind
it. -/
theorem spelledAs_append {first second s : Text} : SpelledAs (first ++ second) s ↔
    ∃ front back, s = front ++ back ∧ SpelledAs first front ∧ SpelledAs second back :=
  List.map_eq_append_iff

/-- The special lower cases contain ASCII letters only beside characters that are not. A text
therefore has a word of ASCII for its lower case if it spells the word with ASCII letters. -/
theorem lower_spelled {word s : Text} (spelled : SpelledAs word s)
    (ascii : ∀ c ∈ word, c.toNat < 128) : lower s = word := by
  subst spelled
  induction s with
  | nil => rfl
  | cons c s inductionHypothesis =>
    obtain ⟨first, others⟩ := List.forall_mem_cons.mp ascii
    have notKelvin : c ≠ '\u212a' := by
      rintro rfl
      exact absurd first (by decide)
    have notDotted : c ≠ '\u0130' := by
      rintro rfl
      exact absurd first (by decide)
    rw [lower, List.flatMap_cons, lowerChar, if_neg notKelvin, if_neg notDotted, List.map_cons]
    exact congrArg (c.toLower :: ·) (inductionHypothesis others)

/-- A word of capital letters and digits is the upper case of each of its spellings. -/
theorem upper_spelled {word s : Text} (spelled : SpelledAs (word.map Char.toLower) s)
    (capitals : ∀ c ∈ word, c.isLower = false ∧ upperChar c = [c] ∧ upperChar c.toLower = [c]) :
    upper s = word := by
  induction s generalizing word with
  | nil => exact (List.map_eq_nil_iff.mp spelled.symm).symm
  | cons c s inductionHypothesis =>
    obtain ⟨d, word, rfl, lowered, others⟩ := List.map_eq_cons_iff.mp spelled.symm
    obtain ⟨⟨notSmall, ofCapital, ofSmall⟩, more⟩ := List.forall_mem_cons.mp capitals
    have first : upperChar c = [d] := by
      rcases toLower_same lowered.symm with rfl | rfl | isLower
      · exact ofCapital
      · exact ofSmall
      · rw [toLower_symbol isLower.symm notSmall, ofCapital]
    rw [upper, List.flatMap_cons, first]
    exact congrArg (d :: ·) (inductionHypothesis others.symm more)

section Casing

/-- A mapping of letter case. `lower` above is one, and so is the lower case of the whole
of Unicode: nothing is left to lower in its results, and blanks stay what they are. -/
structure CaseMapping where
  lower : Text → Text
  lower_lower : ∀ s, lower (lower s) = lower s
  strip_lower : ∀ s, strip (lower s) = lower (strip s)

/-- `s.strip().lower()`. -/
def CaseMapping.key (casing : CaseMapping) (s : Text) : Text := casing.lower (strip s)

variable (casing : CaseMapping) (s : Text)

@[simp] theorem CaseMapping.key_strip : casing.key (strip s) = casing.key s := by
  rw [key, strip_strip, key]

@[simp] theorem CaseMapping.strip_key : strip (casing.key s) = casing.key s := by
  rw [key, casing.strip_lower, strip_strip]

@[simp] theorem CaseMapping.key_key : casing.key (casing.key s) = casing.key s := by
  rw [key, strip_key, key, casing.lower_lower]

/-- A character is kept if it is blank, and lowered to characters that are not if it is not. The
characters with a special lower case are not blank. -/
theorem lowerChar_blank (c : Char) : (isSpace c = true → lowerChar c = [c]) ∧
    (isSpace c = false → lowerChar c ≠ [] ∧ ∀ d ∈ lowerChar c, isSpace d = false) := by
  rw [lowerChar]
  split
  · rename_i kelvin
    subst kelvin
    decide
  · split
    · rename_i dotted
      subst dotted
      decide
    · constructor
      · intro blank
        have other : ¬ (c.val ≥ 'A'.val ∧ c.val ≤ 'Z'.val) := by
          intro capital
          have notSmall : c.toNat ≤ 90 := capital.2
          rw [letter_solid capital.1 (by omega)] at blank
          exact Bool.false_ne_true blank
        rw [toLower_other other]
      · intro solid
        refine ⟨List.cons_ne_nil _ _, ?_⟩
        intro d isLowered
        rw [List.mem_singleton.mp isLowered, isSpace_toLower, solid]

/-- The lower case of a character has nothing left to lower, the special ones included. -/
theorem lower_lowerChar (c : Char) : lower (lowerChar c) = lowerChar c := by
  rw [lowerChar]
  split
  · decide
  · split
    · decide
    · rename_i notKelvin notDotted
      have kept : c.toLower ≠ '\u212a' ∧ c.toLower ≠ '\u0130' := by
        constructor
        · intro kelvin
          exact notKelvin (toLower_symbol kelvin (by decide))
        · intro dotted
          exact notDotted (toLower_symbol dotted (by decide))
      rw [lower, List.flatMap_singleton, lowerChar, if_neg kept.1, if_neg kept.2, toLower_toLower]

/-- A text in lower case stays as it is. -/
theorem lower_lower (s : Text) : lower (lower s) = lower s := by
  rw [lower, lower, List.flatMap_assoc]
  apply List.flatMap_congr
  intro c _
  exact lower_lowerChar c

/-- Blanks have no letter case. -/
theorem lower_blank {s : Text} (blanks : s.all isSpace = true) : lower s = s := by
  induction s with
  | nil => rfl
  | cons c s inductionHypothesis =>
    rw [List.all_cons, Bool.and_eq_true] at blanks
    rw [lower, List.flatMap_cons, (lowerChar_blank c).1 blanks.1]
    exact congrArg (c :: ·) (inductionHypothesis blanks.2)

/-- A trimmed text is trimmed in lower case. -/
theorem trimmed_lower (s : Text) : Trimmed (lower (strip s)) := by
  obtain ⟨front, back⟩ := strip_ends s
  apply trimmed_of_ends
  · intro d isFirst
    cases kept : strip s with
    | nil => simp [kept, lower] at isFirst
    | cons c rest =>
      obtain ⟨nonempty, solid⟩ := (lowerChar_blank c).2 (front c (by simp [kept]))
      rw [kept, lower, List.flatMap_cons, List.head?_append_of_ne_nil _ nonempty] at isFirst
      exact solid d (List.mem_of_mem_head? isFirst)
  · intro d isLast
    rcases List.eq_nil_or_concat (strip s) with kept | ⟨rest, c, kept⟩
    · simp [kept, lower] at isLast
    · obtain ⟨nonempty, solid⟩ := (lowerChar_blank c).2 (back c (by simp [kept]))
      rw [kept, List.concat_eq_append, lower, List.flatMap_append, List.flatMap_singleton,
        List.getLast?_append_of_ne_nil _ nonempty] at isLast
      exact solid d (List.mem_of_mem_getLast? isLast)

/-- Trimming and lowering can be done in either order, as lowering keeps the blanks and makes
none. -/
theorem strip_lower (s : Text) : strip (lower s) = lower (strip s) := by
  obtain ⟨leading, trailing, parts, before, after⟩ := strip_split s
  have lowered : lower s = leading ++ (lower (strip s) ++ trailing) := by
    conv_lhs => rw [parts]
    rw [lower, List.flatMap_append, List.flatMap_append, ← lower, ← lower, ← lower,
      lower_blank before, lower_blank after, List.append_assoc]
  calc strip (lower s)
      = strip (lower (strip s) ++ trailing) := by rw [lowered, strip_append _ before]
    _ = strip (lower (strip s)) := by
        rw [← lstrip_rstrip, rstrip_append_blank _ after, lstrip_rstrip]
    _ = lower (strip s) := trimmed_lower s

/-- The case mapping of `lower`. -/
def asciiCasing : CaseMapping := ⟨lower, lower_lower, strip_lower⟩

end Casing

end PyText
