import Thaum.Library.JsonText
import Thaum.Library.PyUrl

/-!
# The path of a URL

The path of a URL ends at the first question mark or hash sign behind the network location.
Text that is put behind a URL goes to its path as long as the URL has neither.

`unquote` reads `%` and two hexadecimal digits as a byte, and bytes as UTF-8. Bytes that are
none are replaced, one replacement for the longest start of a character; every other
character stands for itself. The decoder goes through the text once and keeps what it awaits
of a character it has started.
-/

namespace PyUrl

open PyText
open JsonText (hexValue)

/-- What stands in front of a query and a fragment. -/
def cutQuery (s : Text) : Text := (splitFirst '?' (splitFirst '#' s).1).1

/-- What follows the network location of a URL. -/
def pathOnwards (url : Text) : Text := afterNetloc (splitScheme (cleaned url)).2

/-- `urlsplit(url).path`. -/
def pathOf (url : Text) : Text := cutQuery (pathOnwards url)

/-- The URL has a query or a fragment. -/
def hasQuery (url : Text) : Bool := (pathOnwards url).any fun c => c == '?' || c == '#'

/-- The byte that a percent sign and two characters stand for. -/
def escapedByte (high low : Char) : Option Nat :=
  (hexValue high).bind fun first => (hexValue low).map fun second => first * 16 + second

/-- The character for bytes that are no UTF-8. -/
def replacement : Char := Char.ofNat 0xFFFD

/-- A character that has been started: its bits so far, the range of its next byte, and
how many bytes follow that one. -/
structure Started where
  bits : Nat
  least : Nat
  greatest : Nat
  after : Nat
deriving DecidableEq

/-- What a first byte starts. -/
def started (byte : Nat) : Option Started :=
  if 0xC2 ≤ byte ∧ byte ≤ 0xDF then some ⟨byte % 32, 0x80, 0xBF, 0⟩
  else if byte = 0xE0 then some ⟨0, 0xA0, 0xBF, 1⟩
  else if byte = 0xED then some ⟨byte % 16, 0x80, 0x9F, 1⟩
  else if 0xE1 ≤ byte ∧ byte ≤ 0xEF then some ⟨byte % 16, 0x80, 0xBF, 1⟩
  else if byte = 0xF0 then some ⟨0, 0x90, 0xBF, 2⟩
  else if 0xF1 ≤ byte ∧ byte ≤ 0xF3 then some ⟨byte % 8, 0x80, 0xBF, 2⟩
  else if byte = 0xF4 then some ⟨byte % 8, 0x80, 0x8F, 2⟩
  else none

/-- The characters that are complete with a byte, and what is started then. -/
def firstByte (byte : Nat) : Text × Option Started :=
  if byte < 0x80 then ([Char.ofNat byte], none)
  else
    match started byte with
    | some next => ([], some next)
    | none => ([replacement], none)

/-- The replacement for a character that is left unfinished. -/
def flush : Option Started → Text
  | some _ => [replacement]
  | none => []

/-- A byte behind what has been started: it goes on with that, or ends it and starts anew. -/
def takeByte (pending : Option Started) (byte : Nat) : Text × Option Started :=
  match pending with
  | none => firstByte byte
  | some char =>
    if char.least ≤ byte ∧ byte ≤ char.greatest then
      let bits := char.bits * 64 + byte % 64
      match char.after with
      | 0 => ([Char.ofNat bits], none)
      | after + 1 => ([], some ⟨bits, 0x80, 0xBF, after⟩)
    else (replacement :: (firstByte byte).1, (firstByte byte).2)

/-- Decoding from within a character. -/
def unquoteFrom (pending : Option Started) : Text → Text
  | c :: high :: low :: rest =>
    match if c = '%' then escapedByte high low else none with
    | some byte => (takeByte pending byte).1 ++ unquoteFrom (takeByte pending byte).2 rest
    | none => flush pending ++ c :: unquoteFrom none (high :: low :: rest)
  | c :: rest => flush pending ++ c :: unquoteFrom none rest
  | [] => flush pending

/-- `unquote(text)`. -/
def unquote (text : Text) : Text := unquoteFrom none text

variable {pending : Option Started} {byte : Nat} {s front rest : Text}

/-- A slash is no first digit of a byte. -/
theorem escapedByte_slash_left (low : Char) : escapedByte '/' low = none := rfl

/-- A slash is no second digit of a byte. -/
theorem escapedByte_slash_right (high : Char) : escapedByte high '/' = none := by
  unfold escapedByte
  cases hexValue high with
  | none => rfl
  | some first => rfl

/-- A slash ends what was started and stands for itself, as it belongs to no character of several
bytes. -/
theorem unquoteFrom_slash (rest : Text) :
    unquoteFrom pending ('/' :: rest) = flush pending ++ '/' :: unquote rest := by
  match rest with
  | [] => rfl
  | [_] => rfl
  | _ :: _ :: _ => rfl

/-- What stands before a slash and what stands after it are decoded apart. A percent sign in front
of the slash takes no digits from behind it. -/
theorem unquoteFrom_append_slash (front rest : Text) :
    unquoteFrom pending (front ++ '/' :: rest) =
      unquoteFrom pending front ++ '/' :: unquote rest := by
  fun_induction unquoteFrom pending front with
  | case1 pending c high low more byte isByte inductionHypothesis =>
    rw [List.cons_append, List.cons_append, List.cons_append, unquoteFrom, isByte]
    dsimp only
    rw [inductionHypothesis, List.append_assoc]
  | case2 pending c high low more notByte inductionHypothesis =>
    rw [List.cons_append, List.cons_append, List.cons_append, unquoteFrom, notByte]
    dsimp only
    rw [← List.cons_append, ← List.cons_append, inductionHypothesis, List.append_assoc]
    rfl
  | case3 pending c more short inductionHypothesis =>
    -- fewer than two characters of an escape stand in front of the slash
    match more with
    | [] =>
      have alone : unquoteFrom pending (c :: '/' :: rest) =
          flush pending ++ c :: unquote ('/' :: rest) := by
        cases rest with
        | nil => rfl
        | cons low rest =>
          rw [unquoteFrom, escapedByte_slash_left, ite_self]
          rfl
      rw [List.singleton_append, alone, unquote, unquoteFrom_slash, List.append_assoc]
      rfl
    | [high] =>
      have cut : unquoteFrom pending (c :: high :: '/' :: rest) =
          flush pending ++ c :: unquote (high :: '/' :: rest) := by
        rw [unquoteFrom, escapedByte_slash_right, ite_self]
        rfl
      rw [List.cons_append, List.singleton_append, cut, unquote]
      have further := inductionHypothesis
      rw [List.singleton_append] at further
      rw [further, List.append_assoc]
      rfl
    | high :: low :: more => exact absurd rfl (short high low more)
  | case4 pending => exact unquoteFrom_slash rest

/-- A byte completes at most one character more than it leaves started. What is started counts as
the replacement that it may become. -/
theorem takeByte_length : (takeByte pending byte).1.length +
    (flush (takeByte pending byte).2).length ≤ (flush pending).length + 1 := by
  have first : (firstByte byte).1.length + (flush (firstByte byte).2).length = 1 := by
    unfold firstByte
    split
    · rfl
    · cases started byte <;> rfl
  unfold takeByte
  cases pending with
  | none => exact Nat.le_of_eq (first.trans (Nat.zero_add 1).symm)
  | some char =>
    dsimp only
    split
    · cases char.after with
      | zero => exact Nat.le_succ 1
      | succ after => exact Nat.le_succ 1
    · dsimp only
      rw [List.length_cons]
      change _ ≤ 1 + 1
      omega

/-- Decoding does not make a text longer: a byte takes three characters of the text, and gives at
most one. -/
theorem unquoteFrom_length (s : Text) :
    (unquoteFrom pending s).length ≤ (flush pending).length + s.length := by
  fun_induction unquoteFrom pending s with
  | case1 pending c high low more byte isByte inductionHypothesis =>
    have taken : (takeByte pending byte).1.length + (flush (takeByte pending byte).2).length ≤
        (flush pending).length + 1 := takeByte_length
    simp only [List.length_append, List.length_cons]
    omega
  | case2 pending c high low more notByte inductionHypothesis =>
    have rest := inductionHypothesis.trans_eq (Nat.zero_add _)
    simp only [List.length_append, List.length_cons] at rest ⊢
    omega
  | case3 pending c more short inductionHypothesis =>
    have rest := inductionHypothesis.trans_eq (Nat.zero_add _)
    simp only [List.length_append, List.length_cons] at rest ⊢
    omega
  | case4 pending => exact Nat.le_add_right _ _

/-- A decoded text has at most as many characters. -/
theorem unquote_length (s : Text) : (unquote s).length ≤ s.length :=
  (unquoteFrom_length s).trans_eq (Nat.zero_add _)

/-- A text without percent signs stands for itself. -/
theorem unquoteFrom_plain (plain : '%' ∉ s) : unquoteFrom pending s = flush pending ++ s := by
  fun_induction unquoteFrom pending s with
  | case1 pending c high low more byte isByte =>
    have percent : c ≠ '%' := by
      rintro rfl
      exact plain List.mem_cons_self
    rw [if_neg percent] at isByte
    cases isByte
  | case2 pending c high low more notByte inductionHypothesis =>
    rw [inductionHypothesis fun listed => plain (List.mem_cons_of_mem _ listed)]
    rfl
  | case3 pending c more short inductionHypothesis =>
    rw [inductionHypothesis fun listed => plain (List.mem_cons_of_mem _ listed)]
    rfl
  | case4 pending => exact (List.append_nil _).symm

section Path

variable {key more : Text} {url : Text}

/-- What stands in front of the query is a beginning of the text. -/
theorem cutQuery_begins (s : Text) : cutQuery s <+: s :=
  (List.takeWhile_prefix _).trans (List.takeWhile_prefix _)

/-- What is appended behind the character does not change what stands in front of it. -/
theorem splitFirst_listed {c : Char} (listed : c ∈ s) (more : Text) :
    (splitFirst c (s ++ more)).1 = (splitFirst c s).1 := by
  obtain ⟨front, rest, rfl, absent⟩ := List.eq_append_cons_of_mem listed
  have others : ∀ d ∈ front, (d != c) = true :=
    fun d isFront => bne_iff_ne.mpr fun same => absent (same ▸ isFront)
  rw [splitFirst, splitFirst, List.append_assoc, List.takeWhile_append_of_pos others,
    List.takeWhile_append_of_pos others, List.cons_append, List.takeWhile_cons_of_neg (by simp),
    List.takeWhile_cons_of_neg (by simp)]

/-- A text without the character stands in front of it as a whole. -/
theorem splitFirst_absent {c : Char} (absent : c ∉ s) (more : Text) :
    (splitFirst c (s ++ more)).1 = s ++ (splitFirst c more).1 := by
  have others : ∀ d ∈ s, (d != c) = true :=
    fun d listed => bne_iff_ne.mpr fun same => absent (same ▸ listed)
  rw [splitFirst, splitFirst, List.takeWhile_append_of_pos others]

/-- A text without the character is not split. -/
theorem splitFirst_whole {c : Char} (absent : c ∉ s) : (splitFirst c s).1 = s := by
  have whole := splitFirst_absent absent []
  rw [List.append_nil] at whole
  rw [whole]
  exact List.append_nil s

/-- A query ends a path. -/
theorem cutQuery_queried (more : Text)
    (queried : (s.any fun c => c == '?' || c == '#') = true) :
    cutQuery (s ++ more) = cutQuery s := by
  unfold cutQuery
  by_cases fragment : '#' ∈ s
  · rw [splitFirst_listed fragment]
  · have query : '?' ∈ s := by
      obtain ⟨c, listed, isOne⟩ := List.any_eq_true.mp queried
      rcases Bool.or_eq_true .. ▸ isOne with isQuery | isFragment
      · exact eq_of_beq isQuery ▸ listed
      · exact absurd (eq_of_beq isFragment ▸ listed) fragment
    rw [splitFirst_absent fragment, splitFirst_whole fragment, splitFirst_listed query]

/-- Without a query the path goes on. -/
theorem cutQuery_plain (more : Text)
    (plain : (s.any fun c => c == '?' || c == '#') = false) :
    cutQuery (s ++ more) = s ++ cutQuery more := by
  have absent (c : Char) (mark : (c == '?' || c == '#') = true) : c ∉ s := fun listed =>
    absurd mark (List.any_eq_false.mp plain c listed)
  unfold cutQuery
  rw [splitFirst_absent (absent '#' rfl), splitFirst_absent (absent '?' rfl)]

/-- A path has no mark of a query or a fragment in it. -/
theorem cutQuery_unmarked : ∀ c ∈ cutQuery s, (c == '?' || c == '#') = false := by
  intro c listed
  have noQuery : (c != '?') = true := List.mem_takeWhile_imp (p := (· != '?')) listed
  have inFront : c ∈ (splitFirst '#' s).1 := (List.takeWhile_prefix _).subset listed
  have noFragment : (c != '#') = true := List.mem_takeWhile_imp (p := (· != '#')) inFront
  rw [bne_iff_ne] at noQuery noFragment
  rw [Bool.or_eq_false_iff]
  exact ⟨beq_false_of_ne noQuery, beq_false_of_ne noFragment⟩

/-- A text without the two marks has no query to cut off. -/
theorem cutQuery_whole (plain : ∀ c ∈ s, (c == '?' || c == '#') = false) : cutQuery s = s := by
  have unmarked : (s.any fun c => c == '?' || c == '#') = false :=
    List.any_eq_false.mpr fun c listed => by simp [plain c listed]
  have whole := cutQuery_plain [] unmarked
  rw [List.append_nil] at whole
  exact whole.trans (List.append_nil s)

/-- A slash and what follows it do not take part in the scheme. -/
theorem splitScheme_append_slash (s more : Text) :
    (splitScheme (s ++ '/' :: more)).2 = (splitScheme s).2 ++ '/' :: more := by
  by_cases colon : ':' ∈ s
  · rw [splitScheme_append colon]
  · rw [splitScheme_plain colon]
    by_cases later : ':' ∈ s ++ '/' :: more
    · obtain ⟨front, rest, isSplit, noColon⟩ := List.eq_append_cons_of_mem later
      have slashed : '/' ∈ front := by
        rcases List.append_eq_append_iff.mp isSplit with
          ⟨between, rfl, behind⟩ | ⟨between, rfl, behind⟩
        · cases between with
          | nil => exact absurd (List.cons.inj behind).1 (by decide)
          | cons c between =>
            rw [← (List.cons.inj behind).1]
            simp
        · cases between with
          | nil => exact absurd (List.cons.inj behind).1 (by decide)
          | cons c between =>
            refine absurd ?_ colon
            rw [(List.cons.inj behind).1]
            simp
      have noScheme : (front.head?.any Char.isAlpha && front.all schemeChar) = false := by
        rw [Bool.and_eq_false_iff]
        right
        exact List.all_eq_false.mpr ⟨'/', slashed, by decide⟩
      rw [isSplit, splitScheme_colon noColon, noScheme, if_neg Bool.false_ne_true]
    · rw [splitScheme_plain later]

/-- A slash is not dropped, and what stands on its sides is cleaned apart. -/
theorem cleaned_append_slash (s more : Text) :
    cleaned (s ++ '/' :: more) = cleaned s ++ '/' :: more.filter fun c => !isDropped c := by
  have kept : ('/' :: more).dropWhile isControl = '/' :: more :=
    List.dropWhile_cons_of_neg (by decide)
  rw [cleaned, cleaned, List.dropWhile_append, kept]
  split
  · rename_i nothing
    rw [List.isEmpty_iff.mp nothing]
    rfl
  · rw [List.filter_append]
    rfl

/-- Behind the scheme stands one slash at most. -/
def Bare (url : Text) : Prop :=
  (splitScheme (cleaned url)).2 = [] ∨ (splitScheme (cleaned url)).2 = ['/']

/-- A slash and what follows it stand behind the network location, unless the URL has so little in
front that the slash completes the two that introduce one. -/
theorem pathOnwards_append_slash (notBare : ¬ Bare s) (more : Text) :
    pathOnwards (s ++ '/' :: more) =
      pathOnwards s ++ '/' :: more.filter fun c => !isDropped c := by
  unfold Bare at notBare
  rw [pathOnwards, pathOnwards, cleaned_append_slash, splitScheme_append_slash]
  generalize (splitScheme (cleaned s)).2 = rest at notBare ⊢
  generalize more.filter (fun c => !isDropped c) = behind
  match rest, notBare with
  | [], notBare => exact absurd (Or.inl rfl) notBare
  | [c], notBare =>
    have other : c ≠ '/' := by
      rintro rfl
      exact notBare (Or.inr rfl)
    have unlocated (more : Text) : startsWith (c :: more) "//".toList = false := by
      simp [startsWith, List.isPrefixOf, other.symm]
    rw [afterNetloc, afterNetloc, List.singleton_append, unlocated, unlocated,
      if_neg Bool.false_ne_true, if_neg Bool.false_ne_true, List.singleton_append]
  | first :: second :: rest, _ =>
    have same (more : Text) : startsWith (first :: second :: rest ++ more) "//".toList =
        startsWith (first :: second :: rest) "//".toList := by
      simp [startsWith, List.isPrefixOf]
    rw [afterNetloc, afterNetloc, same]
    split
    · change (rest ++ '/' :: behind).dropWhile _ = rest.dropWhile _ ++ '/' :: behind
      rw [List.dropWhile_append]
      split
      · rename_i nothing
        rw [List.isEmpty_iff.mp nothing]
        rfl
      · rfl
    · rfl

/-- A path is no longer than what follows the scheme. -/
theorem pathOf_length (url : Text) :
    (pathOf url).length ≤ (splitScheme (cleaned url)).2.length := by
  have located : (pathOnwards url).length ≤ (splitScheme (cleaned url)).2.length := by
    unfold pathOnwards afterNetloc
    split
    · refine (List.dropWhile_sublist _).length_le.trans ?_
      rw [List.length_drop]
      exact Nat.sub_le _ _
    · exact Nat.le_refl _
  exact (cutQuery_begins _).length_le.trans located

/-- The path of a URL that is put behind nothing but a slash is short: what would have been its
first part may be read as the network location. -/
theorem pathOf_bare (bare : Bare s) (more : Text) :
    (pathOf (s ++ '/' :: more)).length ≤ more.length + 2 := by
  have bound := pathOf_length (s ++ '/' :: more)
  have filtered := List.length_filter_le (fun c => !isDropped c) more
  rw [cleaned_append_slash, splitScheme_append_slash, List.length_append, List.length_cons]
    at bound
  rcases bare with nothing | slash
  · rw [nothing, List.length_nil] at bound
    omega
  · rw [slash, List.length_singleton] at bound
    omega

end Path

end PyUrl
