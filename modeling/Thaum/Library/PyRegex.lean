import Thaum.Library.PyText

/-!
# Regular expressions with backtracking

A pattern lists the ways it matches at a cursor, in the order the backtracking
engine tries them: a repetition takes as many characters as it can first, an
optional part is tried before it is left out, and the left of an alternative comes
before the right. A search returns the first way at the first position that has one.

Repetition is of a character class, `^` holds at the start of the text and `$` at its
end or before a newline that ends it. Letter case is ignored as `re.IGNORECASE`
does for ASCII letters.
-/

namespace PyRegex

open PyText

/-- The patterns that the sources use. -/
inductive Regex where
  | empty : Regex
  | chars : (Char → Bool) → Regex
  | many : (Char → Bool) → Regex
  | seq : Regex → Regex → Regex
  | alt : Regex → Regex → Regex
  | opt : Regex → Regex
  | group : (name : Text) → Regex → Regex
  | start : Regex
  | finish : Regex

/-- Where a match has got to: the rest of the text, and the groups captured so far, the
latest first. -/
structure Cursor where
  rest : Text
  groups : List (Text × Text)
deriving DecidableEq

/-- What a greedy repetition may leave of a text, the shortest first. -/
def leftovers (p : Char → Bool) : Text → List Text
  | [] => [[]]
  | c :: rest => if p c then leftovers p rest ++ [c :: rest] else [c :: rest]

/-- The characters between two cursors. -/
def Cursor.captured (before after : Cursor) : Text :=
  before.rest.take (before.rest.length - after.rest.length)

/-- The ways a pattern matches a text at a cursor, in the order they are tried. -/
def Regex.ways (text : Text) : Regex → Cursor → List Cursor
  | empty, cursor => [cursor]
  | chars p, cursor =>
    match cursor.rest with
    | [] => []
    | c :: rest => if p c then [{ cursor with rest }] else []
  | many p, cursor => (leftovers p cursor.rest).map fun rest => { cursor with rest }
  | seq first second, cursor => (first.ways text cursor).flatMap (second.ways text)
  | alt first second, cursor => first.ways text cursor ++ second.ways text cursor
  | opt inner, cursor => inner.ways text cursor ++ [cursor]
  | group name inner, cursor => (inner.ways text cursor).map fun after =>
      { after with groups := (name, cursor.captured after) :: after.groups }
  | start, cursor => if cursor.rest = text then [cursor] else []
  | finish, cursor => if cursor.rest = [] ∨ cursor.rest = ['\n'] then [cursor] else []

/-- The first match at the given rest of the text or further on. -/
def searchFrom (pattern : Regex) (text : Text) : (rest : Text) → Option Cursor
  | [] => (pattern.ways text ⟨[], []⟩).head?
  | c :: rest =>
    match (pattern.ways text ⟨c :: rest, []⟩).head? with
    | some found => some found
    | none => searchFrom pattern text rest

/-- `pattern.search(text)`. -/
def search (pattern : Regex) (text : Text) : Option Cursor := searchFrom pattern text text

/-- `match.group(name)`, `none` for a group that took no part. -/
def Cursor.group (found : Cursor) (name : Text) : Option Text := found.groups.lookup name

/-- The characters outside ASCII that an ASCII letter matches in ignored case. -/
def caseSpecial : List (Char × Char) :=
  [('i', '\u0130'), ('i', '\u0131'), ('k', '\u212a'), ('s', '\u017f')]

/-- The character matches a small letter, or another ASCII character, in ignored case. -/
def sameLetter (letter c : Char) : Bool := c.toLower == letter || caseSpecial.contains (letter, c)

/-- A word in ignored case. -/
def word (letters : Text) : Regex :=
  letters.foldr (fun letter rest => .seq (.chars (sameLetter letter)) rest) .empty

/-- `.`. -/
def anyButNewline (c : Char) : Bool := c != '\n'

variable {text : Text} {cursor : Cursor} {p : Char → Bool}

/-- The ways of a sequence: for each way of its first part, in order, those of its second part. -/
theorem Regex.ways_seq (first second : Regex) : (Regex.seq first second).ways text cursor =
    (first.ways text cursor).flatMap (second.ways text) := rfl

/-- An optional part is matched first, and left out last. -/
theorem Regex.ways_opt (inner : Regex) :
    (Regex.opt inner).ways text cursor = inner.ways text cursor ++ [cursor] := rfl

/-- A group matches as what is in it, and captures the characters in between. -/
theorem Regex.ways_group (name : Text) (inner : Regex) :
    (Regex.group name inner).ways text cursor = (inner.ways text cursor).map fun after =>
      { after with groups := (name, cursor.captured after) :: after.groups } := rfl

/-- `$` holds at the end of the text, and before a line end that ends it. -/
theorem Regex.ways_finish : Regex.finish.ways text cursor =
    if cursor.rest = [] ∨ cursor.rest = ['\n'] then [cursor] else [] := rfl

/-- A pattern that starts with `^` is tried at the start of the text only, so its search is the
first of its ways there. -/
theorem search_start (pattern : Regex) (text : Text) :
    search (.seq .start pattern) text = (pattern.ways text ⟨text, []⟩).head? := by
  have later (rest : Text) (shorter : rest.length < text.length) :
      searchFrom (.seq .start pattern) text rest = none := by
    induction rest with
    | nil =>
      have moved : ([] : Text) ≠ text := fun same => absurd shorter (by simp [← same])
      simp [searchFrom, Regex.ways, moved]
    | cons c rest inductionHypothesis =>
      have moved : c :: rest ≠ text := fun same => absurd shorter (by simp [← same])
      rw [searchFrom, inductionHypothesis (Nat.lt_of_succ_lt shorter)]
      simp [Regex.ways, moved]
  have here : Regex.ways text (.seq .start pattern) ⟨text, []⟩ = pattern.ways text ⟨text, []⟩ := by
    simp [Regex.ways]
  rw [search, ← here]
  cases text with
  | nil => rfl
  | cons c rest =>
    rw [searchFrom, later rest (Nat.lt_succ_self _)]
    cases (Regex.ways (c :: rest) (.seq .start pattern) ⟨c :: rest, []⟩).head? <;> rfl

/-- A leftover is what remains after characters of the class, however many were taken. -/
theorem mem_leftovers {rest : Text} :
    rest ∈ leftovers p text ↔ ∃ taken, text = taken ++ rest ∧ taken.all p = true := by
  induction text with
  | nil =>
    simp only [leftovers, List.mem_singleton]
    constructor
    · rintro rfl
      exact ⟨[], rfl, rfl⟩
    · rintro ⟨taken, parts, -⟩
      exact (List.append_eq_nil_iff.mp parts.symm).2
  | cons c text inductionHypothesis =>
    constructor
    · intro left
      rw [leftovers] at left
      split at left
      · rename_i inClass
        rcases List.mem_append.mp left with further | all
        · obtain ⟨taken, parts, classed⟩ := inductionHypothesis.mp further
          exact ⟨c :: taken, by rw [parts, List.cons_append], by simp [inClass, classed]⟩
        · exact ⟨[], (List.mem_singleton.mp all).symm, rfl⟩
      · exact ⟨[], (List.mem_singleton.mp left).symm, rfl⟩
    · rintro ⟨taken, parts, classed⟩
      rw [leftovers]
      cases taken with
      | nil =>
        rw [List.nil_append] at parts
        split <;> simp [parts]
      | cons d taken =>
        obtain ⟨rfl, tail⟩ := List.cons.inj parts
        simp only [List.all_cons, Bool.and_eq_true] at classed
        rw [if_pos classed.1]
        exact List.mem_append_left _ (inductionHypothesis.mpr ⟨taken, tail, classed.2⟩)

/-- A greedy repetition takes the whole run of its class first, and gives characters back one by one
after that. -/
theorem leftovers_head (p : Char → Bool) (text : Text) :
    ∃ others, leftovers p text = text.dropWhile p :: others := by
  induction text with
  | nil => exact ⟨[], rfl⟩
  | cons c rest inductionHypothesis =>
    obtain ⟨others, first⟩ := inductionHypothesis
    rw [leftovers]
    by_cases inClass : p c = true
    · rw [if_pos inClass, first, List.dropWhile_cons_of_pos inClass]
      exact ⟨_, rfl⟩
    · rw [if_neg inClass, List.dropWhile_cons_of_neg inClass]
      exact ⟨[], rfl⟩

/-- A repetition before something that cannot start with its class takes the whole run: what it
gives back would be matched by nothing. -/
theorem flatMap_leftovers {α : Type} {f : Text → List α}
    (blocked : ∀ c rest, p c = true → f (c :: rest) = []) (text : Text) :
    (leftovers p text).flatMap f = f (text.dropWhile p) := by
  induction text with
  | nil => simp [leftovers]
  | cons c rest inductionHypothesis =>
    rw [leftovers]
    by_cases inClass : p c = true
    · rw [if_pos inClass, List.flatMap_append, inductionHypothesis, List.flatMap_singleton,
        blocked c rest inClass, List.append_nil, List.dropWhile_cons_of_pos inClass]
    · rw [if_neg inClass, List.flatMap_singleton, List.dropWhile_cons_of_neg inClass]

/-- A pattern behind such a repetition starts where the run ends. -/
theorem many_seq_ways {pattern : Regex}
    (blocked : ∀ c rest groups, p c = true → pattern.ways text ⟨c :: rest, groups⟩ = []) :
    (Regex.seq (.many p) pattern).ways text cursor =
      pattern.ways text { cursor with rest := cursor.rest.dropWhile p } := by
  rw [Regex.ways, Regex.ways, List.flatMap_map]
  exact flatMap_leftovers (fun c rest inClass => blocked c rest cursor.groups inClass) cursor.rest

/-- A repetition before something that matches after the whole run does just that first, and what
comes of giving characters back is never asked for. -/
theorem head_flatMap_leftovers {α : Type} {f : Text → List α} {found : α} {text : Text}
    (first : (f (text.dropWhile p)).head? = some found) :
    ((leftovers p text).flatMap f).head? = some found := by
  obtain ⟨others, parts⟩ := leftovers_head p text
  rw [parts, List.flatMap_cons, List.head?_append, first, Option.some_or]

/-- What a word in ignored case leaves of a text that starts with it. -/
def afterWord : (letters : Text) → (text : Text) → Option Text
  | [], text => some text
  | _ :: _, [] => none
  | letter :: letters, c :: text => if sameLetter letter c then afterWord letters text else none

/-- A word matches in one way at most, as each of its letters takes one character. -/
theorem word_ways (letters : Text) (cursor : Cursor) :
    (word letters).ways text cursor =
      ((afterWord letters cursor.rest).map fun rest => { cursor with rest }).toList := by
  induction letters generalizing cursor with
  | nil => rfl
  | cons letter letters inductionHypothesis =>
    have unfolded : word (letter :: letters) = .seq (.chars (sameLetter letter)) (word letters) :=
      rfl
    rw [unfolded, Regex.ways, Regex.ways]
    cases cursor.rest with
    | nil => rfl
    | cons c rest =>
      dsimp only [afterWord]
      by_cases same : sameLetter letter c = true
      · rw [if_pos same, if_pos same, List.flatMap_singleton, inductionHypothesis]
      · rw [if_neg same, if_neg same]
        rfl

/-- A letter without a special partner outside ASCII matches itself in either case and nothing else;
the letters `i`, `k` and `s` have one. -/
theorem sameLetter_plain {letter : Char} (plain : ∀ partner ∈ caseSpecial, partner.1 ≠ letter)
    (c : Char) : sameLetter letter c = (c.toLower == letter) := by
  have noPartner : caseSpecial.contains (letter, c) = false := by
    rw [Bool.eq_false_iff]
    intro listed
    exact plain (letter, c) (List.contains_iff_mem.mp listed) rfl
  rw [sameLetter, noPartner, Bool.or_false]

/-- The letters of a word are found where it stands in any case, and the word goes on behind
them. -/
theorem afterWord_append {first s : Text} (more rest : Text) (spelled : SpelledAs first s) :
    afterWord (first ++ more) (s ++ rest) = afterWord more rest := by
  subst spelled
  induction s with
  | nil => rfl
  | cons c s inductionHypothesis =>
    have same : sameLetter c.toLower c = true := by simp [sameLetter]
    simp only [List.map_cons, List.cons_append, afterWord, same, if_true]
    exact inductionHypothesis

/-- A word is not found where one with another first letter stands, if no character outside ASCII
matches its own first letter. -/
theorem afterWord_other {letter first : Char} {letters more s : Text} (rest : Text)
    (spelled : SpelledAs (first :: more) s) (different : first ≠ letter)
    (plain : ∀ partner ∈ caseSpecial, partner.1 ≠ letter) :
    afterWord (letter :: letters) (s ++ rest) = none := by
  obtain ⟨c, s, rfl, rfl, _⟩ := List.map_eq_cons_iff.mp spelled
  rw [List.cons_append, afterWord, sameLetter_plain plain]
  simp [different]

/-- A word of plain letters is found only where it is spelled in some case, so that what is found is
known up to its case. -/
theorem afterWord_some {letters rest : Text} (found : afterWord letters text = some rest)
    (plain : ∀ letter ∈ letters, ∀ partner ∈ caseSpecial, partner.1 ≠ letter) :
    ∃ s, text = s ++ rest ∧ SpelledAs letters s := by
  induction letters generalizing text with
  | nil => exact ⟨[], Option.some.inj found, rfl⟩
  | cons letter letters inductionHypothesis =>
    obtain ⟨plainFirst, plainOthers⟩ := List.forall_mem_cons.mp plain
    cases text with
    | nil => simp [afterWord] at found
    | cons c text =>
      rw [afterWord, sameLetter_plain plainFirst] at found
      split at found
      · rename_i same
        obtain ⟨s, parts, spelled⟩ := inductionHypothesis found plainOthers
        refine ⟨c :: s, by rw [parts, List.cons_append], ?_⟩
        rw [SpelledAs, List.map_cons, beq_iff_eq.mp same, spelled]
      · simp at found

/-- A word matches each of its spellings, and nothing behind it. -/
theorem word_ways_spelled {letters s : Text} (rest : Text) (groups : List (Text × Text))
    (spelled : SpelledAs letters s) :
    (word letters).ways text ⟨s ++ rest, groups⟩ = [⟨rest, groups⟩] := by
  have found := afterWord_append [] rest spelled
  rw [List.append_nil] at found
  rw [word_ways, found]
  rfl

/-- A word has no way where another word stands. -/
theorem word_ways_other {letter first : Char} {letters more s : Text} (rest : Text)
    (groups : List (Text × Text)) (spelled : SpelledAs (first :: more) s)
    (different : first ≠ letter) (plain : ∀ partner ∈ caseSpecial, partner.1 ≠ letter) :
    (word (letter :: letters)).ways text ⟨s ++ rest, groups⟩ = [] := by
  rw [word_ways, afterWord_other rest spelled different plain]
  rfl

/-- What a cursor has captured up to another one is the text between the two. -/
theorem captured_append (taken rest : Text) (groups groups' : List (Text × Text)) :
    (Cursor.captured ⟨taken ++ rest, groups⟩ ⟨rest, groups'⟩) = taken := by
  simp [Cursor.captured]

end PyRegex
