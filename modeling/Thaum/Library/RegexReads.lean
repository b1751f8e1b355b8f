import Thaum.Library.PyRegex

/-!
# What a pattern can read

Where only the text matters and not the order of the ways, a pattern is a relation between
the text in front of it and the text it leaves. A search finds a pattern that starts with
`^` exactly where it can read from the start.
-/

namespace PyRegex

open PyText

/-- From `s` the pattern can read up to `rest`. -/
def Regex.Reads (text : Text) : Regex → (s rest : Text) → Prop
  | empty, s, rest => rest = s
  | chars p, s, rest => ∃ c, s = c :: rest ∧ p c = true
  | many p, s, rest => ∃ taken, s = taken ++ rest ∧ taken.all p = true
  | seq first second, s, rest => ∃ between, first.Reads text s between ∧
      second.Reads text between rest
  | alt first second, s, rest => first.Reads text s rest ∨ second.Reads text s rest
  | opt inner, s, rest => inner.Reads text s rest ∨ rest = s
  | group _ inner, s, rest => inner.Reads text s rest
  | start, s, rest => rest = s ∧ s = text
  | finish, s, rest => rest = s ∧ (s = [] ∨ s = ['\n'])

variable {text s rest : Text} {cursor : Cursor} {pattern : Regex}

/-- The ways of a pattern leave what it can read up to. -/
theorem reads_iff : pattern.Reads text cursor.rest rest ↔
    ∃ after ∈ pattern.ways text cursor, after.rest = rest := by
  induction pattern generalizing cursor rest with
  | empty => simp [Regex.Reads, Regex.ways, eq_comm]
  | chars p =>
    simp only [Regex.Reads, Regex.ways]
    split
    · rename_i nothing
      simp [nothing]
    · rename_i c more isRest
      rw [isRest]
      split
      · rename_i inClass
        constructor
        · rintro ⟨d, same, -⟩
          obtain ⟨-, rfl⟩ := List.cons.inj same
          exact ⟨_, List.mem_singleton.mpr rfl, rfl⟩
        · rintro ⟨after, listed, rfl⟩
          rw [List.mem_singleton.mp listed]
          exact ⟨c, rfl, inClass⟩
      · rename_i outside
        simp [outside]
  | many p =>
    simp only [Regex.Reads, Regex.ways, List.mem_map, exists_exists_and_eq_and, exists_eq_right,
      mem_leftovers]
  | seq first second firstHypothesis secondHypothesis =>
    simp only [Regex.Reads, Regex.ways, List.mem_flatMap, firstHypothesis]
    constructor
    · rintro ⟨between, ⟨middle, isMiddle, rfl⟩, further⟩
      obtain ⟨after, isAfter, left⟩ := secondHypothesis.mp further
      exact ⟨after, ⟨middle, isMiddle, isAfter⟩, left⟩
    · rintro ⟨after, ⟨middle, isMiddle, isAfter⟩, left⟩
      exact ⟨middle.rest, ⟨middle, isMiddle, rfl⟩, secondHypothesis.mpr ⟨after, isAfter, left⟩⟩
  | alt first second firstHypothesis secondHypothesis =>
    simp only [Regex.Reads, Regex.ways, List.mem_append, firstHypothesis, secondHypothesis,
      or_and_right, exists_or]
  | opt inner inductionHypothesis =>
    simp only [Regex.Reads, Regex.ways, List.mem_append, List.mem_singleton, inductionHypothesis,
      or_and_right, exists_or, exists_eq_left, @eq_comm _ rest]
  | group name inner inductionHypothesis =>
    simp only [Regex.Reads, Regex.ways, List.mem_map, exists_exists_and_eq_and,
      inductionHypothesis]
  | start =>
    simp only [Regex.Reads, Regex.ways]
    split
    · rename_i atStart
      simp [atStart, eq_comm]
    · rename_i moved
      simp [moved]
  | finish =>
    simp only [Regex.Reads, Regex.ways]
    split
    · rename_i atEnd
      simp [atEnd, eq_comm]
    · rename_i within
      simp [within]

/-- A pattern behind `^` is found exactly where it can read from the start. The groups and the order
of the ways are forgotten here. -/
theorem search_start_isSome : (search (.seq .start pattern) text).isSome = true ↔
    ∃ rest, pattern.Reads text text rest := by
  rw [search_start, List.isSome_head?]
  constructor
  · intro found
    obtain ⟨after, isAfter⟩ := List.exists_mem_of_ne_nil _ (by simpa using found)
    have reads : pattern.Reads text (Cursor.mk text []).rest after.rest :=
      reads_iff.mpr ⟨after, isAfter, rfl⟩
    exact ⟨after.rest, reads⟩
  · rintro ⟨rest, reads⟩
    have listed : ∃ after ∈ pattern.ways text ⟨text, []⟩, after.rest = rest := reads_iff.mp reads
    obtain ⟨after, isAfter, _⟩ := listed
    simpa using List.ne_nil_of_mem isAfter

/-- A word reads up to what it leaves of the text. -/
theorem word_reads {letters : Text} :
    (word letters).Reads text s rest ↔ afterWord letters s = some rest := by
  induction letters generalizing s with
  | nil => simp [word, Regex.Reads, afterWord, eq_comm]
  | cons letter letters inductionHypothesis =>
    have unfolded : word (letter :: letters) = .seq (.chars (sameLetter letter)) (word letters) :=
      rfl
    rw [unfolded]
    simp only [Regex.Reads, inductionHypothesis]
    cases s with
    | nil => simp [afterWord]
    | cons c s => simp [afterWord]

/-- A word is read part by part, the second from where the first has ended. -/
theorem afterWord_parts (first more s : Text) :
    afterWord (first ++ more) s = (afterWord first s).bind (afterWord more) := by
  induction first generalizing s with
  | nil => rfl
  | cons letter first inductionHypothesis =>
    cases s with
    | nil => rfl
    | cons c s =>
      rw [List.cons_append, afterWord, afterWord]
      split
      · exact inductionHypothesis s
      · rfl

section Ways

variable {after : Cursor} {p : Char → Bool}

/-- A way of a character class takes one character of the class and captures nothing. -/
theorem mem_chars : after ∈ (Regex.chars p).ways text cursor ↔
    ∃ c, cursor.rest = c :: after.rest ∧ p c = true ∧ after.groups = cursor.groups := by
  obtain ⟨s, groups⟩ := cursor
  obtain ⟨rest, groups'⟩ := after
  cases s with
  | nil => simp [Regex.ways]
  | cons c s =>
    rw [Regex.ways]
    dsimp only
    split
    · rename_i inClass
      constructor
      · intro listed
        obtain ⟨rfl, rfl⟩ := Cursor.mk.inj (List.mem_singleton.mp listed)
        exact ⟨c, rfl, inClass, rfl⟩
      · rintro ⟨d, same, -, sameGroups⟩
        obtain ⟨-, rfl⟩ := List.cons.inj same
        rw [List.mem_singleton]
        exact congrArg (Cursor.mk s) sameGroups
    · rename_i outside
      constructor
      · intro listed
        cases listed
      · rintro ⟨d, same, inClass, -⟩
        obtain ⟨rfl, -⟩ := List.cons.inj same
        exact absurd inClass outside

/-- A way of a repetition takes some characters of the class and captures nothing. -/
theorem mem_many : after ∈ (Regex.many p).ways text cursor ↔
    ∃ taken, cursor.rest = taken ++ after.rest ∧ taken.all p = true ∧
      after.groups = cursor.groups := by
  rw [Regex.ways, List.mem_map]
  constructor
  · rintro ⟨rest, left, rfl⟩
    obtain ⟨taken, parts, classed⟩ := mem_leftovers.mp left
    exact ⟨taken, parts, classed, rfl⟩
  · rintro ⟨taken, parts, classed, sameGroups⟩
    refine ⟨after.rest, mem_leftovers.mpr ⟨taken, parts, classed⟩, ?_⟩
    rw [← sameGroups]

/-- A way of a word takes its letters and captures nothing. -/
theorem mem_word {letters : Text} : after ∈ (word letters).ways text cursor ↔
    afterWord letters cursor.rest = some after.rest ∧ after.groups = cursor.groups := by
  rw [word_ways, Option.mem_toList, Option.map_eq_some_iff]
  constructor
  · rintro ⟨rest, found, rfl⟩
    exact ⟨found, rfl⟩
  · rintro ⟨found, sameGroups⟩
    refine ⟨after.rest, found, ?_⟩
    rw [← sameGroups]

/-- A way of `$` takes nothing, and is there only at the end or in front of the last line end. -/
theorem mem_finish : after ∈ Regex.finish.ways text cursor ↔
    after = cursor ∧ (cursor.rest = [] ∨ cursor.rest = ['\n']) := by
  rw [Regex.ways_finish]
  split
  · rename_i atEnd
    simp [atEnd]
  · rename_i within
    simp [within]

end Ways

/-- The rest of a text is one line: `.*$` reads it. -/
def OneLine (s : Text) : Prop := '\n' ∉ s ∨ ∃ line, s = line ++ ['\n'] ∧ '\n' ∉ line

/-- A text can be read as a line exactly if no line end is in it but one at its end. -/
theorem line_reads (text : Text) :
    (∃ rest, (Regex.seq (.many anyButNewline) .finish).Reads text s rest) ↔ OneLine s := by
  have inLine (line : Text) : line.all anyButNewline = true ↔ '\n' ∉ line := by
    rw [List.all_eq_true]
    constructor
    · intro each listed
      exact absurd (each _ listed) (by decide)
    · intro absent c listed
      exact bne_iff_ne.mpr fun same => absent (same ▸ listed)
  simp only [Regex.Reads, inLine, OneLine]
  constructor
  · rintro ⟨rest, between, ⟨line, rfl, absent⟩, rfl, rfl | rfl⟩
    · left
      rwa [List.append_nil]
    · exact Or.inr ⟨line, rfl, absent⟩
  · rintro (absent | ⟨line, rfl, absent⟩)
    · exact ⟨[], [], ⟨s, (List.append_nil s).symm, absent⟩, rfl, Or.inl rfl⟩
    · exact ⟨['\n'], ['\n'], ⟨line, rfl, absent⟩, rfl, Or.inr rfl⟩

end PyRegex
