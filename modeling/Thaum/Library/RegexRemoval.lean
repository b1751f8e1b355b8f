import Mathlib.Data.List.Forall2
import Thaum.Library.RegexReads

/-!
# Removing what a pattern finds

`re.sub` with an empty replacement takes the matches of a pattern out of a text, from the
left and without overlap. A pattern that starts with `^` is taken out once at most, and
what it leaves is what its first match leaves.

The patterns here read at least one character: an empty match takes nothing out.
-/

namespace PyRegex

open PyText

/-- What is kept of the rest of a text, of which the first characters may belong to a match
already. -/
def removeFrom (pattern : Regex) (text : Text) : (taken : Nat) → (rest : Text) → Text
  | _, [] => []
  | taken + 1, _ :: rest => removeFrom pattern text taken rest
  | 0, c :: rest =>
    match (pattern.ways text ⟨c :: rest, []⟩).head? with
    | some found =>
      if found.rest.length ≤ rest.length then
        removeFrom pattern text (rest.length - found.rest.length) rest
      else c :: removeFrom pattern text 0 rest
    | none => c :: removeFrom pattern text 0 rest

/-- `re.sub(pattern, "", text)`. -/
def remove (pattern : Regex) (text : Text) : Text := removeFrom pattern text 0 text

/-- A literal text, compared character by character. -/
def literal (same : Char → Char → Bool) (letters : Text) : Regex :=
  letters.foldr (fun letter rest => .seq (.chars (same letter)) rest) .empty

/-- What a literal leaves of a text that starts with it. -/
def afterLiteral (same : Char → Char → Bool) : (letters : Text) → (text : Text) → Option Text
  | [], text => some text
  | _ :: _, [] => none
  | letter :: letters, c :: text =>
    if same letter c then afterLiteral same letters text else none

variable {text s rest : Text} {cursor after : Cursor} {pattern : Regex}
  {same : Char → Char → Bool} {letters : Text}

/-- Every way of a pattern leaves an end of the text in front of it. The induction is on the
pattern. -/
theorem ways_suffix (isWay : after ∈ pattern.ways text cursor) : after.rest <:+ cursor.rest := by
  induction pattern generalizing cursor after with
  | empty =>
    rewrite [List.mem_singleton.mp isWay]
    exact List.suffix_rfl
  | chars p =>
    obtain ⟨c, parts, _⟩ := mem_chars.mp isWay
    rw [parts]
    exact List.suffix_cons c _
  | many p =>
    obtain ⟨taken, parts, _⟩ := mem_many.mp isWay
    rw [parts]
    exact List.suffix_append taken _
  | seq first second firstHypothesis secondHypothesis =>
    obtain ⟨between, isFirst, isSecond⟩ := List.mem_flatMap.mp isWay
    exact (secondHypothesis isSecond).trans (firstHypothesis isFirst)
  | alt first second firstHypothesis secondHypothesis =>
    rcases List.mem_append.mp isWay with isFirst | isSecond
    · exact firstHypothesis isFirst
    · exact secondHypothesis isSecond
  | opt inner inductionHypothesis =>
    rcases List.mem_append.mp isWay with isInner | none
    · exact inductionHypothesis isInner
    · rewrite [List.mem_singleton.mp none]
      exact List.suffix_rfl
  | group name inner inductionHypothesis =>
    obtain ⟨inside, isInner, captured⟩ := List.mem_map.mp isWay
    have left : inside.rest <:+ cursor.rest := inductionHypothesis isInner
    rw [← captured]
    exact left
  | start =>
    rw [Regex.ways] at isWay
    split at isWay
    · rewrite [List.mem_singleton.mp isWay]
      exact List.suffix_rfl
    · cases isWay
  | finish =>
    rewrite [(mem_finish.mp isWay).1]
    exact List.suffix_rfl

/-- Behind the start of the text a pattern with `^` takes nothing out, so only the characters of an
earlier match are still dropped. -/
theorem removeFrom_start (taken : Nat) (shorter : rest.length < text.length) :
    removeFrom (.seq .start pattern) text taken rest = rest.drop taken := by
  induction rest generalizing taken with
  | nil => simp [removeFrom]
  | cons c rest inductionHypothesis =>
    have further : rest.length < text.length := Nat.lt_of_succ_lt shorter
    cases taken with
    | succ taken =>
      rw [removeFrom, inductionHypothesis taken further, List.drop_succ_cons]
    | zero =>
      have moved : c :: rest ≠ text := by
        rintro rfl
        omega
      have nothing : Regex.ways text (.seq .start pattern) ⟨c :: rest, []⟩ = [] := by
        simp [Regex.ways, moved]
      rw [removeFrom, nothing, List.head?_nil]
      dsimp only
      rw [inductionHypothesis 0 further, List.drop_zero, List.drop_zero]

/-- A pattern with `^` that is found leaves what its first match leaves, if that match has read
something. -/
theorem remove_found {found : Cursor} (isFound : search (.seq .start pattern) text = some found)
    (reads : found.rest.length < text.length) :
    remove (.seq .start pattern) text = found.rest := by
  rw [search_start] at isFound
  obtain ⟨front, parts⟩ := ways_suffix (List.mem_of_head? isFound)
  have parts : front ++ found.rest = text := parts
  cases text with
  | nil => cases reads
  | cons c text =>
    have first : (Regex.ways (c :: text) (.seq .start pattern) ⟨c :: text, []⟩).head? =
        some found := by
      simpa [Regex.ways] using isFound
    have within : found.rest.length ≤ text.length := Nat.le_of_lt_succ reads
    rw [remove, removeFrom, first]
    dsimp only
    rw [if_pos within, removeFrom_start _ (Nat.lt_succ_self _)]
    cases front with
    | nil =>
      rw [List.nil_append] at parts
      rw [parts] at reads
      omega
    | cons d front =>
      obtain ⟨-, behind⟩ := List.cons.inj parts
      have behind : text = front ++ found.rest := behind.symm
      rw [behind, List.length_append, Nat.add_sub_cancel, List.drop_left]

/-- A pattern with `^` that is not found takes nothing out. -/
theorem remove_unfound (unfound : search (.seq .start pattern) text = none) :
    remove (.seq .start pattern) text = text := by
  rw [search_start] at unfound
  cases text with
  | nil => rfl
  | cons c text =>
    have nothing : (Regex.ways (c :: text) (.seq .start pattern) ⟨c :: text, []⟩).head? =
        none := by
      simpa [Regex.ways] using unfound
    rw [remove, removeFrom, nothing]
    dsimp only
    rw [removeFrom_start _ (Nat.lt_succ_self _), List.drop_zero]

section Literal

/-- A literal matches in one way at most. -/
theorem literal_ways (letters : Text) (cursor : Cursor) :
    (literal same letters).ways text cursor =
      ((afterLiteral same letters cursor.rest).map fun rest => { cursor with rest }).toList := by
  induction letters generalizing cursor with
  | nil => rfl
  | cons letter letters inductionHypothesis =>
    have unfolded : literal same (letter :: letters) =
        .seq (.chars (same letter)) (literal same letters) := rfl
    rw [unfolded, Regex.ways, Regex.ways]
    cases cursor.rest with
    | nil => rfl
    | cons c rest =>
      dsimp only [afterLiteral]
      by_cases equal : same letter c = true
      · rw [if_pos equal, if_pos equal, List.flatMap_singleton, inductionHypothesis]
      · rw [if_neg equal, if_neg equal]
        rfl

/-- A literal stands at the start of a text where as many characters are the same, each with the
letter at its place. -/
theorem afterLiteral_iff : afterLiteral same letters s = some rest ↔
    ∃ front, s = front ++ rest ∧ List.Forall₂ (fun letter c => same letter c = true)
      letters front := by
  induction letters generalizing s with
  | nil =>
    constructor
    · intro found
      obtain rfl := Option.some.inj found
      exact ⟨[], rfl, .nil⟩
    · rintro ⟨front, rfl, pairs⟩
      cases pairs
      rfl
  | cons letter letters inductionHypothesis =>
    constructor
    · intro found
      cases s with
      | nil => cases found
      | cons c s =>
        rw [afterLiteral] at found
        split at found
        · rename_i equal
          obtain ⟨front, rfl, pairs⟩ := inductionHypothesis.mp found
          exact ⟨c :: front, rfl, .cons equal pairs⟩
        · cases found
    · rintro ⟨front, rfl, pairs⟩
      cases pairs with
      | cons equal pairs =>
        rw [List.cons_append, afterLiteral, if_pos equal]
        exact inductionHypothesis.mpr ⟨_, rfl, pairs⟩

/-- Each character that a literal stands for is the same as one of its letters; blanks are among the
characters only if they are among the letters. -/
theorem exists_letter {front : Text} {c : Char}
    (pairs : List.Forall₂ (fun letter c => same letter c = true) letters front)
    (listed : c ∈ front) : ∃ letter ∈ letters, same letter c = true := by
  induction pairs with
  | nil => cases listed
  | cons equal _ inductionHypothesis =>
    rcases List.mem_cons.mp listed with rfl | further
    · exact ⟨_, List.mem_cons_self, equal⟩
    · obtain ⟨letter, isLetter, equal⟩ := inductionHypothesis further
      exact ⟨letter, List.mem_cons_of_mem _ isLetter, equal⟩

/-- A word is a literal text in ignored case. -/
theorem afterWord_literal : afterWord letters s = afterLiteral sameLetter letters s := by
  induction letters generalizing s with
  | nil => rfl
  | cons letter letters inductionHypothesis =>
    cases s with
    | nil => rfl
    | cons c s => rw [afterWord, afterLiteral, inductionHypothesis]

end Literal

end PyRegex
