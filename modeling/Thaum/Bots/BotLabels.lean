import Thaum.Bots.MessageText

/-!
# The labels of the bot

Webex leaves a label of the bot in front of a command. The labels are taken away one after
the other from what is left of the text, the handle first, so that a label that is the
beginning of another one leaves the end of the other in front of the command.
-/

namespace Thaum.Bots

open PyText PyRegex

/-- A trimmed text that no label stands in front of. -/
structure IsCommand (rules : CaseRules) (labels : List Text) (c : Text) : Prop where
  trimmed : Trimmed c
  nonempty : c ≠ []
  unlabelled : ∀ label ∈ labels, behindLabel rules label c = none

/-- The label is taken away from every command behind it. -/
def LabelStripped (rules : CaseRules) (labels : List Text) (l : Text) : Prop :=
  ∀ c, IsCommand rules labels c → stripLeadingBotLabels rules (l ++ ' ' :: c) labels = c

/-- The labels that are tried: those that are long enough and new in lower case. -/
def triedLabels (rules : CaseRules) : (labels seenLower : List Text) → List Text
  | [], _ => []
  | label :: labels, seenLower =>
    if (strip label).length < 2 then triedLabels rules labels seenLower
    else if seenLower.contains (rules.lower (strip label)) then triedLabels rules labels seenLower
    else strip label :: triedLabels rules labels (rules.lower (strip label) :: seenLower)

/-- The labels are the same text in ignored case. -/
def SameLabel (rules : CaseRules) (first second : Text) : Prop :=
  afterLiteral rules.same first second = some []

/-- Words that a command may start with. -/
structure StartsCommand (rules : CaseRules) (labels : List Text) (words : Text) : Prop extends
    IsCommand rules labels words where
  noLabel : ∀ label ∈ labels, ¬ SameLabel rules label words

/-- The tried labels take a label away, whatever follows it. The next one is the whole of
it, or leaves an end of it to the others, or is passed: then it neither stands in front of
the label nor goes on from it into the words of a command. -/
inductive Clears (rules : CaseRules) (labels : List Text) : (tried : List Text) → Text → Prop
  | whole {first l : Text} {later : List Text} (same : SameLabel rules first l) :
      Clears rules labels (first :: later) l
  | front {first l left : Text} {later : List Text}
      (stands : behindLabel rules first l = some left) (clears : Clears rules labels later left) :
      Clears rules labels (first :: later) l
  | passed {first l : Text} {later : List Text} (other : ¬ SameLabel rules first l)
      (apart : behindLabel rules first l = none)
      (within : ∀ words, StartsCommand rules labels words →
        ¬ SameLabel rules first (l ++ ' ' :: words))
      (clears : Clears rules labels later l) : Clears rules labels (first :: later) l

/-- The tried labels take a label away from this command. The next one is the whole of the
label, or leaves an end of it to the others, or does not stand in front of the text. -/
inductive ClearsFrom (rules : CaseRules) (command : Text) : (tried : List Text) → Text → Prop
  | whole {first l : Text} {later : List Text} (same : SameLabel rules first l) :
      ClearsFrom rules command (first :: later) l
  | front {first l left : Text} {later : List Text}
      (stands : behindLabel rules first l = some left)
      (clears : ClearsFrom rules command later left) : ClearsFrom rules command (first :: later) l
  | passed {first l : Text} {later : List Text}
      (apart : behindLabel rules first (l ++ ' ' :: command) = none)
      (clears : ClearsFrom rules command later l) : ClearsFrom rules command (first :: later) l

/-- What is left of a text behind the labels. -/
def takeLabels (rules : CaseRules) (tried : List Text) (s : Text) : Text :=
  tried.foldl (fun s label => (behindLabel rules label s).getD s) s

variable {rules : CaseRules} {labels tried : List Text} {label l s command rest words : Text}
  {c : Char}

/-- The loop over all labels takes away what the tried ones do: it skips a label that is too short
or was tried before in another case. -/
theorem stripLabels_tried (seenLower : List Text) : stripLabels rules labels seenLower s =
    takeLabels rules (triedLabels rules labels seenLower) s := by
  induction labels generalizing seenLower s with
  | nil => rfl
  | cons label labels inductionHypothesis =>
    rw [stripLabels, triedLabels]
    split
    · exact inductionHypothesis seenLower
    · split
      · exact inductionHypothesis seenLower
      · rw [remove_label, inductionHypothesis]
        rfl

/-- A label that is tried is one of the labels, as trimming leaves it as it is. -/
theorem triedLabels_mem (seenLower : List Text) (trimmed : ∀ label ∈ labels, Trimmed label) :
    ∀ label ∈ triedLabels rules labels seenLower, label ∈ labels := by
  induction labels generalizing seenLower with
  | nil => exact fun _ listed => listed
  | cons label labels inductionHypothesis =>
    obtain ⟨first, others⟩ := List.forall_mem_cons.mp trimmed
    have behind (seenLower : List Text) : ∀ other ∈ triedLabels rules labels seenLower,
        other ∈ label :: labels := by
      intro other listed
      exact List.mem_cons_of_mem _ (inductionHypothesis seenLower others other listed)
    intro other listed
    rw [triedLabels] at listed
    split at listed
    · exact behind _ other listed
    · split at listed
      · exact behind _ other listed
      · rcases List.mem_cons.mp listed with rfl | listed
        · rw [first]
          exact List.mem_cons_self
        · exact behind _ other listed

section Labels

/-- A label and the text that it is the same as have their blanks at the same places. Ignoring case
does not mix blanks with other characters. -/
theorem sameLabel_blanks (same : SameLabel rules label s) : label.map isSpace = s.map isSpace := by
  obtain ⟨front, parts, pairs⟩ := afterLiteral_iff.mp same
  rw [List.append_nil] at parts
  rw [parts]
  clear parts same
  induction pairs with
  | nil => rfl
  | cons equal _ inductionHypothesis =>
    rw [List.map_cons, List.map_cons, rules.same_blank _ _ equal, inductionHypothesis]

/-- A text that is the same as a trimmed label ends with a character that is not blank, as the label
does. -/
theorem sameLabel_last (same : SameLabel rules label s) (trimmed : Trimmed label) :
    ∀ c ∈ s.getLast?, isSpace c = false := by
  intro c isLast
  have blanks := congrArg List.getLast? (sameLabel_blanks same)
  rw [List.getLast?_map, List.getLast?_map, Option.mem_def.mp isLast, Option.map_some] at blanks
  obtain ⟨d, isLast', equal⟩ := Option.map_eq_some_iff.mp blanks
  rw [← equal]
  exact trimmed.ends.2 d isLast'

/-- The two have the same length, as they are compared letter by letter. -/
theorem sameLabel_length (same : SameLabel rules label s) : label.length = s.length := by
  have lengths := congrArg List.length (sameLabel_blanks same)
  rwa [List.length_map, List.length_map] at lengths

/-- A label that stands in front of a text, with more behind it, is not the whole of it: it is
shorter. -/
theorem not_same_of_stands {left : Text} (stands : behindLabel rules label s = some left) :
    ¬ SameLabel rules label s := by
  intro same
  obtain ⟨blank, more, after, -⟩ := behindLabel_iff.mp stands
  cases Option.some.inj (same.symm.trans after)

/-- A label with a blank behind it is taken away, and the blanks with it. -/
theorem behindLabel_same (same : SameLabel rules label s) {blank : Char}
    (isBlank : isSpace blank = true) (more : Text) :
    behindLabel rules label (s ++ blank :: more) = some (lstrip more) := by
  obtain ⟨front, parts, pairs⟩ := afterLiteral_iff.mp same
  rw [List.append_nil] at parts
  exact behindLabel_iff.mpr ⟨blank, more, afterLiteral_iff.mpr ⟨s, rfl, parts ▸ pairs⟩, isBlank,
    rfl⟩

/-- What follows an end of a label that is left stays behind it. So how a label is cut does not
depend on the command. -/
theorem behindLabel_append {left : Text} (stands : behindLabel rules label l = some left)
    (trimmed : Trimmed l) (more : Text) : left ≠ [] ∧ Trimmed left ∧
      behindLabel rules label (l ++ more) = some (left ++ more) := by
  obtain ⟨blank, end', after, isBlank, rfl⟩ := behindLabel_iff.mp stands
  obtain ⟨front, parts, pairs⟩ := afterLiteral_iff.mp after
  have behindBlank : blank :: end' <:+ l := ⟨front, parts.symm⟩
  have nonempty := Trimmed.behind_blank trimmed behindBlank isBlank
  have behind : end' <:+ l := (List.suffix_cons blank end').trans behindBlank
  refine ⟨nonempty, Trimmed.lstrip_suffix trimmed behind, behindLabel_iff.mpr
    ⟨blank, end' ++ more, afterLiteral_iff.mpr ⟨front, ?_, pairs⟩, isBlank, ?_⟩⟩
  · rw [parts, List.append_assoc]
    rfl
  · exact lstrip_append_right nonempty more

/-- How a label can stand in front of another one with a command: it is the other one, it
is the beginning of the other one, or it goes on into the command. -/
theorem behindLabel_cases (trimmed : Trimmed l) (isCommand : Trimmed command)
    (stands : behindLabel rules label (l ++ ' ' :: command) = some rest) :
    (SameLabel rules label l ∧ rest = command) ∨
      (∃ left, behindLabel rules label l = some left ∧ rest = left ++ ' ' :: command) ∨
      ∃ words blank more, command = words ++ blank :: more ∧ isSpace blank = true ∧
        SameLabel rules label (l ++ ' ' :: words) := by
  obtain ⟨blank, more, after, isBlank, rfl⟩ := behindLabel_iff.mp stands
  obtain ⟨front, parts, pairs⟩ := afterLiteral_iff.mp after
  have sameAs {s : Text} (isFront : front = s) : SameLabel rules label s :=
    afterLiteral_iff.mpr ⟨front, (List.append_nil front).trans isFront |>.symm, pairs⟩
  rcases List.append_eq_append_iff.mp parts with ⟨within, isFront, isCommand'⟩ |
    ⟨within, isLabel, isRest⟩
  · cases within with
    | nil =>
      obtain ⟨-, rfl⟩ := List.cons.inj isCommand'
      refine Or.inl ⟨sameAs (isFront.trans (List.append_nil l)), ?_⟩
      exact isCommand.lstrip_eq
    | cons d words =>
      obtain ⟨rfl, parts⟩ := List.cons.inj isCommand'
      exact Or.inr (Or.inr ⟨words, blank, more, parts, isBlank, sameAs isFront⟩)
  · cases within with
    | nil =>
      obtain ⟨-, rfl⟩ := List.cons.inj isRest
      rw [List.append_nil] at isLabel
      refine Or.inl ⟨sameAs isLabel.symm, ?_⟩
      exact isCommand.lstrip_eq
    | cons d end' =>
      obtain ⟨rfl, rfl⟩ := List.cons.inj isRest
      have left : behindLabel rules label l = some (lstrip end') :=
        behindLabel_iff.mpr ⟨blank, end', afterLiteral_iff.mpr ⟨front, isLabel, pairs⟩, isBlank,
          rfl⟩
      have nonempty := Trimmed.behind_blank trimmed ⟨front, isLabel.symm⟩ isBlank
      exact Or.inr (Or.inl ⟨_, left, lstrip_append_right nonempty _⟩)

end Labels

section Commands

/-- A word of one letter is a command: a label is longer. Such commands show what every label does
to all of them. -/
theorem letter_isCommand (long : ∀ label ∈ labels, 2 ≤ label.length) {letter : Char}
    (solid : isSpace letter = false) : IsCommand rules labels [letter] := by
  refine ⟨trimmed_of_ends _ ?_ ?_, List.cons_ne_nil _ _, ?_⟩
  · simpa using solid
  · simpa using solid
  · intro label listed
    rw [Option.eq_none_iff_forall_ne_some]
    intro rest stands
    obtain ⟨blank, more, after, _⟩ := behindLabel_iff.mp stands
    obtain ⟨front, parts, pairs⟩ := afterLiteral_iff.mp after
    have lengths := congrArg List.length parts
    rw [List.length_append, ← pairs.length_eq] at lengths
    simp only [List.length_cons, List.length_nil] at lengths
    have := long label listed
    omega

/-- Words that a command may start with make a command with a letter behind them: no label stands in
front, neither in the words nor over the letter. -/
theorem StartsCommand.isCommand (starts : StartsCommand rules labels words)
    (long : ∀ label ∈ labels, 2 ≤ label.length) {letter : Char}
    (solid : isSpace letter = false) : IsCommand rules labels (words ++ ' ' :: [letter]) := by
  have isLetter : IsCommand rules labels [letter] := letter_isCommand long solid
  refine ⟨Trimmed.append starts.trimmed isLetter.trimmed starts.nonempty isLetter.nonempty [' '],
    List.append_ne_nil_of_left_ne_nil starts.nonempty _, ?_⟩
  intro label listed
  rw [Option.eq_none_iff_forall_ne_some]
  intro rest stands
  rcases behindLabel_cases starts.trimmed isLetter.trimmed stands with
    ⟨same, _⟩ | ⟨left, left', _⟩ | ⟨within, blank, more, parts, isBlank, _⟩
  · exact starts.noLabel label listed same
  · rw [starts.unlabelled label listed] at left'
    cases left'
  · have isLetter : blank ∈ [letter] := parts ▸ List.mem_append_right within List.mem_cons_self
    rw [List.mem_singleton.mp isLetter, solid] at isBlank
    cases isBlank

/-- The words of a command up to a blank are words that it may start with, where a label that goes
on into it ends there. Labels that stand in front of the words stand in front of the command. -/
theorem IsCommand.startsCommand {blank : Char} {more : Text}
    (isCommand : IsCommand rules labels (words ++ blank :: more)) (isBlank : isSpace blank = true)
    (trimmed : Trimmed label) (same : SameLabel rules label (l ++ ' ' :: words)) :
    StartsCommand rules labels words := by
  have nonempty : words ≠ [] := by
    rintro rfl
    have last := sameLabel_last same trimmed ' ' (by simp)
    exact absurd last (by decide)
  constructor
  · constructor
    · apply trimmed_of_ends
      · have first := isCommand.trimmed.ends.1
        rwa [List.head?_append_of_ne_nil _ nonempty] at first
      · have last := sameLabel_last same trimmed
        rw [List.getLast?_append_of_ne_nil _ (List.cons_ne_nil _ _),
          List.getLast?_cons_of_ne_nil nonempty] at last
        exact last
    · exact nonempty
    · intro other listed
      rw [Option.eq_none_iff_forall_ne_some]
      intro rest stands
      obtain ⟨blank', more', after, isBlank', -⟩ := behindLabel_iff.mp stands
      obtain ⟨front, parts, pairs⟩ := afterLiteral_iff.mp after
      have further : behindLabel rules other (words ++ blank :: more) =
          some (lstrip (more' ++ blank :: more)) :=
        behindLabel_iff.mpr ⟨blank', more' ++ blank :: more, afterLiteral_iff.mpr
          ⟨front, by rw [parts, List.append_assoc, List.cons_append], pairs⟩, isBlank', rfl⟩
      rw [isCommand.unlabelled other listed] at further
      cases further
  · intro other listed same
    have stands := behindLabel_same same isBlank more
    rw [isCommand.unlabelled other listed] at stands
    cases stands

end Commands

section Runs

/-- A tried label that stands in front is taken away, and the others go on behind it. -/
theorem takeLabels_stands {left : Text} (stands : behindLabel rules label s = some left) :
    takeLabels rules (label :: tried) s = takeLabels rules tried left := by
  rw [takeLabels, List.foldl_cons, stands]
  rfl

/-- A tried label that does not stand in front is passed. -/
theorem takeLabels_apart (apart : behindLabel rules label s = none) :
    takeLabels rules (label :: tried) s = takeLabels rules tried s := by
  rw [takeLabels, List.foldl_cons, apart]
  rfl

/-- In front of a command there is nothing to take away, whichever of the labels are tried. -/
theorem takeLabels_command (isCommand : IsCommand rules labels command)
    (among : ∀ label ∈ tried, label ∈ labels) : takeLabels rules tried command = command := by
  induction tried with
  | nil => rfl
  | cons label tried inductionHypothesis =>
    obtain ⟨listed, others⟩ := List.forall_mem_cons.mp among
    rw [takeLabels_apart (isCommand.unlabelled label listed), inductionHypothesis others]

/-- What is left is an end of the text, and trimmed if the text is. Nothing is ever added to it. -/
theorem takeLabels_suffix (trimmed : Trimmed s) :
    takeLabels rules tried s <:+ s ∧ Trimmed (takeLabels rules tried s) := by
  induction tried generalizing s with
  | nil => exact ⟨List.suffix_rfl, trimmed⟩
  | cons label tried inductionHypothesis =>
    cases left : behindLabel rules label s with
    | none =>
      rw [takeLabels_apart left]
      exact inductionHypothesis trimmed
    | some rest =>
      rw [takeLabels_stands left]
      obtain ⟨blank, more, after, -, rfl⟩ := behindLabel_iff.mp left
      obtain ⟨front, parts, -⟩ := afterLiteral_iff.mp after
      have behind : more <:+ s := (List.suffix_cons blank more).trans ⟨front, parts.symm⟩
      obtain ⟨further, ends⟩ := inductionHypothesis (Trimmed.lstrip_suffix trimmed behind)
      exact ⟨further.trans ((List.dropWhile_suffix _).trans behind), ends⟩

/-- A label that is passed leaves the text as it is: it is not the label, does not begin it, and
does not go on from it into a command. -/
theorem takeLabels_passed (ofLabel : Trimmed label) (trimmed : Trimmed l)
    (other : ¬ SameLabel rules label l) (apart : behindLabel rules label l = none)
    (within : ∀ words, StartsCommand rules labels words →
      ¬ SameLabel rules label (l ++ ' ' :: words))
    (isCommand : IsCommand rules labels command) :
    takeLabels rules (label :: tried) (l ++ ' ' :: command) =
      takeLabels rules tried (l ++ ' ' :: command) := by
  apply takeLabels_apart
  rw [Option.eq_none_iff_forall_ne_some]
  intro rest stands
  rcases behindLabel_cases trimmed isCommand.trimmed stands with
    ⟨same, _⟩ | ⟨left, ofLeft, _⟩ | ⟨words, blank, more, rfl, isBlank, same⟩
  · exact other same
  · rw [apart] at ofLeft
    cases ofLeft
  · exact within words (isCommand.startsCommand isBlank ofLabel same) same

/-- Where every command is left, a label does not go on into the words of one: it takes
the words with it, and a letter behind them is all that is left. -/
theorem within_of_left (long : ∀ label ∈ labels, 2 ≤ label.length)
    (among : ∀ label ∈ tried, label ∈ labels)
    (always : ∀ command, IsCommand rules labels command →
      takeLabels rules (label :: tried) (l ++ ' ' :: command) = command)
    (starts : StartsCommand rules labels words) : ¬ SameLabel rules label (l ++ ' ' :: words) := by
  intro same
  have isLetter : IsCommand rules labels ['x'] := letter_isCommand long (by decide)
  have isCommand := starts.isCommand long (by decide : isSpace 'x' = false)
  have stands := behindLabel_same same (by decide : isSpace ' ' = true) ['x']
  rw [List.append_assoc, List.cons_append] at stands
  have left := always _ isCommand
  rw [takeLabels_stands stands, isLetter.trimmed.lstrip_eq,
    takeLabels_command isLetter among] at left
  have lengths := congrArg List.length left
  simp at lengths

/-- The labels leave this command behind a label exactly where they take the label away from it: a
label that goes on into the command takes some of its words.

Proof: by induction on the tried labels, with the cases of `behindLabel_cases` for the first of
them. -/
theorem takeLabels_from_iff (among : ∀ label ∈ tried, label ∈ labels) (trimmed : Trimmed l)
    (isCommand : IsCommand rules labels command) :
    takeLabels rules tried (l ++ ' ' :: command) = command ↔
      ClearsFrom rules command tried l := by
  induction tried generalizing l with
  | nil =>
    constructor
    · intro left
      have lengths := congrArg List.length left
      simp only [takeLabels, List.foldl_nil, List.length_append, List.length_cons] at lengths
      omega
    · intro clears
      cases clears
  | cons first later inductionHypothesis =>
    obtain ⟨listed, others⟩ := List.forall_mem_cons.mp among
    cases stands : behindLabel rules first (l ++ ' ' :: command) with
    | none =>
      rw [takeLabels_apart stands, inductionHypothesis others trimmed]
      constructor
      · exact ClearsFrom.passed stands
      · intro clears
        cases clears with
        | whole same =>
          rw [behindLabel_same same (by decide : isSpace ' ' = true)] at stands
          cases stands
        | front stands' _ =>
          rw [(behindLabel_append stands' trimmed _).2.2] at stands
          cases stands
        | passed _ clears => exact clears
    | some rest =>
      rw [takeLabels_stands stands]
      rcases behindLabel_cases trimmed isCommand.trimmed stands with
        ⟨same, rfl⟩ | ⟨left, ofLeft, rfl⟩ | ⟨words, blank, more, parts, isBlank, same⟩
      · rw [takeLabels_command isCommand others]
        exact iff_of_true rfl (.whole same)
      · obtain ⟨_, trimmedLeft, _⟩ := behindLabel_append ofLeft trimmed []
        rw [inductionHypothesis others trimmedLeft]
        constructor
        · exact ClearsFrom.front ofLeft
        · intro clears
          cases clears with
          | whole same => exact absurd same (not_same_of_stands ofLeft)
          | front stands' clears =>
            obtain rfl := Option.some.inj (ofLeft.symm.trans stands')
            exact clears
          | passed apart _ =>
            rw [stands] at apart
            cases apart
      · -- the label takes words of the command, and what is left is too short
        have taken := behindLabel_same same isBlank more
        rw [List.append_assoc, List.cons_append, ← parts, stands] at taken
        obtain rfl := Option.some.inj taken
        have shorter : (lstrip more).length < command.length := by
          have atMost : (more.dropWhile isSpace).length ≤ more.length :=
            (List.dropWhile_suffix isSpace).length_le
          rw [parts, List.length_append, List.length_cons, lstrip]
          omega
        refine iff_of_false ?_ ?_
        · intro left
          have trimmedRest : Trimmed (lstrip more) :=
            Trimmed.lstrip_suffix isCommand.trimmed ⟨words ++ [blank], by simp [parts]⟩
          have atMost : (takeLabels rules later (lstrip more)).length ≤ (lstrip more).length :=
            (takeLabels_suffix trimmedRest).1.length_le
          rw [left] at atMost
          omega
        · intro clears
          cases clears with
          | whole ofLabel =>
            have short := sameLabel_length ofLabel
            have long := sameLabel_length same
            simp only [List.length_append, List.length_cons] at long
            omega
          | front stands' _ =>
            have further := (behindLabel_append stands' trimmed (' ' :: command)).2.2
            rw [stands] at further
            have lengths := congrArg List.length (Option.some.inj further)
            simp only [List.length_append, List.length_cons] at lengths
            omega
          | passed apart _ =>
            rw [stands] at apart
            cases apart

/-- The labels leave every command behind a label exactly where they take it away. The induction is
the same, with the command left open: words that a command may start with decide. -/
theorem takeLabels_iff (each : ∀ label ∈ labels, Trimmed label ∧ 2 ≤ label.length)
    (among : ∀ label ∈ tried, label ∈ labels) (trimmed : Trimmed l) (nonempty : l ≠ []) :
    (∀ command, IsCommand rules labels command →
      takeLabels rules tried (l ++ ' ' :: command) = command) ↔ Clears rules labels tried l := by
  have long : ∀ label ∈ labels, 2 ≤ label.length := fun label listed => (each label listed).2
  induction tried generalizing l with
  | nil =>
    constructor
    · intro always
      have isLetter : IsCommand rules labels ['x'] := letter_isCommand long (by decide)
      have lengths := congrArg List.length (always ['x'] isLetter)
      simp [takeLabels] at lengths
    · intro clears
      cases clears
  | cons first later inductionHypothesis =>
    obtain ⟨listed, others⟩ := List.forall_mem_cons.mp among
    by_cases same : SameLabel rules first l
    · have left (command : Text) (isCommand : IsCommand rules labels command) :
          takeLabels rules (first :: later) (l ++ ' ' :: command) = command := by
        have stands := behindLabel_same same (by decide : isSpace ' ' = true) command
        rw [takeLabels_stands stands, isCommand.trimmed.lstrip_eq,
          takeLabels_command isCommand others]
      exact ⟨fun _ => .whole same, fun _ => left⟩
    · cases stands : behindLabel rules first l with
      | some left =>
        obtain ⟨someLeft, trimmedLeft, _⟩ := behindLabel_append stands trimmed []
        have further (command : Text) : takeLabels rules (first :: later) (l ++ ' ' :: command) =
            takeLabels rules later (left ++ ' ' :: command) :=
          takeLabels_stands (behindLabel_append stands trimmed (' ' :: command)).2.2
        simp only [further, inductionHypothesis others trimmedLeft someLeft]
        constructor
        · exact Clears.front stands
        · intro clears
          cases clears with
          | whole same' => exact absurd same' same
          | front stands' clears =>
            obtain rfl := Option.some.inj (stands.symm.trans stands')
            exact clears
          | passed _ apart =>
            rw [stands] at apart
            cases apart
      | none =>
        constructor
        · intro always
          have within : ∀ words, StartsCommand rules labels words →
              ¬ SameLabel rules first (l ++ ' ' :: words) :=
            fun words => within_of_left long others always
          refine .passed same stands within ((inductionHypothesis others trimmed nonempty).mp ?_)
          intro command isCommand
          rw [← takeLabels_passed (each first listed).1 trimmed same stands within isCommand]
          exact always command isCommand
        · intro clears command isCommand
          cases clears with
          | whole same' => exact absurd same' same
          | front stands' _ =>
            rw [stands] at stands'
            cases stands'
          | passed _ _ within clears =>
            rw [takeLabels_passed (each first listed).1 trimmed same stands within isCommand]
            exact (inductionHypothesis others trimmed nonempty).mpr clears command isCommand

end Runs

/-- A label of the bot is taken away from a command behind it exactly where, going through the
tried labels in their order, the first that stands in front of the text is the whole of the
label or leaves an end of it that the later ones take away. It is taken away from every
command behind it exactly where, besides, no label passed before goes on from it into the
words of a command.

Proof: what the tried labels leave is an end of the text. One that goes on into the command
takes some of its words, so the command is not left; for every command that is a question of
the labels alone, as the words behind the label can be the beginning of a command. -/
theorem label_stripped_iff (rules : CaseRules) (handle displayName botKey l : Text)
    (each : ∀ label ∈ [handle, displayName, botKey], Trimmed label ∧ 2 ≤ label.length)
    (isLabel : l ∈ [handle, displayName, botKey]) :
    (∀ command, IsCommand rules [handle, displayName, botKey] command →
      (stripLeadingBotLabels rules (l ++ ' ' :: command) [handle, displayName, botKey] = command ↔
        ClearsFrom rules command (triedLabels rules [handle, displayName, botKey] []) l)) ∧
      (LabelStripped rules [handle, displayName, botKey] l ↔
        Clears rules [handle, displayName, botKey]
          (triedLabels rules [handle, displayName, botKey] []) l) := by
  obtain ⟨trimmed, long⟩ := each l isLabel
  have nonempty : l ≠ [] := by
    rintro rfl
    simp at long
  have among : ∀ label ∈ triedLabels rules [handle, displayName, botKey] [], label ∈ _ :=
    triedLabels_mem [] fun label listed => (each label listed).1
  have tried (command : Text)
      (isCommand : IsCommand rules [handle, displayName, botKey] command) :
      stripLeadingBotLabels rules (l ++ ' ' :: command) [handle, displayName, botKey] =
        takeLabels rules (triedLabels rules [handle, displayName, botKey] [])
          (l ++ ' ' :: command) := by
    have ends : Trimmed (l ++ ' ' :: command) :=
      Trimmed.append trimmed isCommand.trimmed nonempty isCommand.nonempty [' ']
    rw [stripLeadingBotLabels, ends, stripLabels_tried, (takeLabels_suffix ends).2]
  constructor
  · intro command isCommand
    rw [tried command isCommand]
    exact takeLabels_from_iff among trimmed isCommand
  · rw [← takeLabels_iff each among trimmed nonempty, LabelStripped]
    apply forall₂_congr
    intro command isCommand
    rw [tried command isCommand]

section Example

/-- With the handle `Myrddin` and the display name `Myrddin Helpdesk`, the display name in front of
`usage` leaves `Helpdesk usage`: the handle is tried first and stands in front of it. -/
theorem longer_label_left : ¬ ∀ rules handle displayName botKey l,
    (∀ label ∈ [handle, displayName, botKey], Trimmed label ∧ 2 ≤ label.length) →
    l ∈ [handle, displayName, botKey] → LabelStripped rules [handle, displayName, botKey] l := by
  intro always
  have stripped := always asciiRules "Myrddin".toList "Myrddin Helpdesk".toList "myrddin".toList
    "Myrddin Helpdesk".toList (by decide) (by decide)
  have left := stripped "usage".toList ⟨by decide, by decide, by decide⟩
  exact absurd left (by decide +kernel)

/-- With the handle `askDBA` and the display name `Ask DBA`, the display name is taken away, as the
handle does not stand in front of it. -/
theorem display_name_stripped :
    LabelStripped asciiRules ["askDBA".toList, "Ask DBA".toList, "askdba".toList]
      "Ask DBA".toList := by
  apply (label_stripped_iff asciiRules _ _ _ _ (by decide) (by decide)).2.mpr
  have tried : triedLabels asciiRules ["askDBA".toList, "Ask DBA".toList, "askdba".toList] [] =
      ["askDBA".toList, "Ask DBA".toList] := by
    decide
  have other (words : Text) : afterLiteral asciiRules.same "askDBA".toList
      ("Ask DBA".toList ++ words) = none := rfl
  rw [tried]
  apply Clears.passed
  · intro same
    cases (other []).symm.trans same
  · decide
  · intro words _ same
    cases (other (' ' :: words)).symm.trans same
  · exact Clears.whole (by decide +kernel : afterLiteral _ _ _ = _)

end Example

end Thaum.Bots
