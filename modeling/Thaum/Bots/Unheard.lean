import Thaum.Bots.WholeTokens
import Thaum.Bots.MessageText

/-!
# Messages that no route answers

A message to the bot is answered by the first route whose pattern is found in its text.
The route for unknown commands reads a token and blanks behind it, so that a single word
is not among what it answers; and `.` and `$` stay within a line.
-/

namespace Thaum.Bots

open PyText PyRegex

/-- A token, blanks, and one line. -/
structure TokenAndLine (text token gap rest : Text) : Prop where
  parts : text = token ++ (gap ++ rest)
  someToken : token ≠ []
  solid : ∀ c ∈ token, isSpace c = false
  someGap : gap ≠ []
  blank : gap.all isSpace = true
  oneLine : OneLine rest

/-- What may stand behind the word of a call: nothing, or a colon and one line. -/
def CallEnds (s : Text) : Prop :=
  s = [] ∨ s = ['\n'] ∨ ∃ message, lstrip s = ':' :: message ∧ OneLine (lstrip message)

/-- The words of the calls that the bot has. -/
def enabledWords (bot : BotConfig) : List Text :=
  "help".toList :: ((if bot.highPriOn then ["emergency".toList] else []) ++
    if bot.sendAlerts then
      ["alert!".toList, "alert".toList, "oncall".toList, "on-call".toList, "on_call".toList]
    else [])

/-- The words of the usage text. -/
def usageWords : List Text := ["usage".toList, "commands".toList, "?".toList]

/-- The texts that a bot answers. -/
inductive Answered (bot : BotConfig) (text : Text) : Prop where
  | call {word rest : Text} (enabled : word ∈ enabledWords bot)
      (isWord : afterWord word text = some rest) (ends : CallEnds rest)
  | implode {rest : Text} (isWord : afterWord "implode".toList (lstrip text) = some rest)
      (oneLine : OneLine rest)
  | usage {word : Text} (listed : word ∈ usageWords)
      (isWord : (afterWord word (lstrip text)).isSome = true)
  | token {token gap rest : Text} (parts : TokenAndLine text token gap rest)

variable {bot : BotConfig} {text s rest gap alertId : Text} {command : Regex} {name : Text}

section Lines

/-- The end of one line is one line. -/
theorem OneLine.suffix (oneLine : OneLine s) (behind : rest <:+ s) : OneLine rest := by
  obtain ⟨front, rfl⟩ := behind
  rcases oneLine with absent | ⟨line, parts, absent⟩
  · exact Or.inl fun listed => absent (List.mem_append_right front listed)
  · rcases List.eq_nil_or_concat rest with rfl | ⟨start, last, rfl⟩
    · exact Or.inl List.not_mem_nil
    · rw [List.concat_eq_append, ← List.append_assoc] at parts
      obtain ⟨rfl, same⟩ := List.append_inj' parts rfl
      obtain ⟨rfl, -⟩ := List.cons.inj same
      refine Or.inr ⟨start, List.concat_eq_append, ?_⟩
      intro listed
      exact absent (List.mem_append_right front listed)

/-- One line with something in front that has no newline is one line. -/
theorem OneLine.append (oneLine : OneLine s) {front : Text} (absent : '\n' ∉ front) :
    OneLine (front ++ s) := by
  rcases oneLine with missing | ⟨line, rfl, missing⟩
  · refine Or.inl fun listed => ?_
    rcases List.mem_append.mp listed with before | behind
    · exact absent before
    · exact missing behind
  · refine Or.inr ⟨front ++ line, (List.append_assoc _ _ _).symm, ?_⟩
    intro listed
    rcases List.mem_append.mp listed with before | behind
    · exact absent before
    · exact missing behind

end Lines

section Calls

/-- The optional part of a call and `$` read what may stand behind its word, and nothing else. -/
theorem callEnds_reads :
    (∃ left, (Regex.seq (bodyPart name) .finish).Reads text s left) ↔ CallEnds s := by
  constructor
  · rintro ⟨left, between, body | rfl, rfl, ended⟩
    · obtain ⟨front, ⟨blanks, rfl, blank⟩, middle, ⟨c, rfl, colon⟩, line, ⟨blanks', rfl, blank'⟩,
        written⟩ := body
      obtain rfl : c = ':' := beq_iff_eq.mp colon
      have oneLine : OneLine line := (line_reads text).mp ⟨left, left, written, rfl, ended⟩
      refine Or.inr (Or.inr ⟨blanks' ++ line, ?_, ?_⟩)
      · rw [lstrip_append _ blank]
        exact List.dropWhile_cons_of_neg (by decide)
      · rw [lstrip_append _ blank']
        exact OneLine.suffix oneLine (List.dropWhile_suffix _)
    · rcases ended with rfl | rfl
      · exact Or.inl rfl
      · exact Or.inr (Or.inl rfl)
  · rintro (rfl | rfl | ⟨message, colon, oneLine⟩)
    · exact ⟨[], [], Or.inr rfl, rfl, Or.inl rfl⟩
    · exact ⟨['\n'], ['\n'], Or.inr rfl, rfl, Or.inr rfl⟩
    · obtain ⟨left, between, written, rfl, ended⟩ := (line_reads text).mpr oneLine
      have blanks (t : Text) : (Regex.many isSpace).Reads text t (lstrip t) :=
        ⟨t.takeWhile isSpace, List.takeWhile_append_dropWhile.symm, List.all_takeWhile⟩
      refine ⟨left, left, Or.inl ⟨':' :: message, ?_, message, ⟨':', rfl, rfl⟩, lstrip message,
        blanks message, written⟩, rfl, ended⟩
      rw [← colon]
      exact blanks s

/-- The pattern of a call is found where its words stand at the start and what is behind them may
end a call. -/
theorem commandPattern_found : (search (commandPattern command name) text).isSome = true ↔
    ∃ rest, command.Reads text text rest ∧ CallEnds rest := by
  rw [commandPattern, search_start_isSome]
  constructor
  · rintro ⟨left, rest, reads, ends⟩
    exact ⟨rest, reads, callEnds_reads.mp ⟨left, ends⟩⟩
  · rintro ⟨rest, reads, ends⟩
    obtain ⟨left, further⟩ := callEnds_reads.mpr ends
    exact ⟨left, rest, reads, further⟩

/-- A word that goes on with a symbol is read up to the symbol, which has no letter case. -/
theorem afterWord_symbol (letters : Text) {symbol : Char}
    (symbols : symbol = '-' ∨ symbol = '_') :
    afterWord (symbol :: letters) s = some rest ↔
      ∃ more, s = symbol :: more ∧ afterWord letters more = some rest := by
  have same (c : Char) : sameLetter symbol c = true ↔ c = symbol := by
    have plain : ∀ partner ∈ caseSpecial, partner.1 ≠ symbol := by
      rcases symbols with rfl | rfl <;> decide
    have notSmall : symbol.isLower = false := by
      rcases symbols with rfl | rfl <;> decide
    rw [sameLetter_plain plain, beq_iff_eq]
    constructor
    · intro lowered
      exact toLower_symbol lowered notSmall
    · rintro rfl
      rcases symbols with rfl | rfl <;> decide
  cases s with
  | nil => simp [afterWord]
  | cons c s =>
    rw [afterWord]
    split
    · rename_i isSymbol
      obtain rfl := (same c).mp isSymbol
      simp
    · rename_i unlike
      have other : c ≠ symbol := fun isSymbol => unlike ((same c).mpr isSymbol)
      simp [other]

/-- The alert command is one of five words. The alternatives of the pattern are multiplied out
here. -/
theorem alertWords_reads : alertWords.Reads text s rest ↔
    ∃ letters ∈ ["alert!".toList, "alert".toList, "oncall".toList, "on-call".toList,
      "on_call".toList], afterWord letters s = some rest := by
  have onCall (more : Text) : afterWord ("on".toList ++ more) s = some rest ↔
      ∃ between, afterWord "on".toList s = some between ∧ afterWord more between = some rest := by
    rw [afterWord_parts, Option.bind_eq_some_iff]
  have plain : afterWord "oncall".toList s = some rest ↔ _ := onCall "call".toList
  have dash : afterWord "on-call".toList s = some rest ↔ _ := onCall "-call".toList
  have underscore : afterWord "on_call".toList s = some rest ↔ _ := onCall "_call".toList
  have written (between : Text) : (∃ middle, ((∃ c, between = c :: middle ∧ isDash c = true) ∨
      middle = between) ∧ afterWord "call".toList middle = some rest) ↔
        afterWord "call".toList between = some rest ∨
          afterWord "-call".toList between = some rest ∨
            afterWord "_call".toList between = some rest := by
    have dash : afterWord "-call".toList between = some rest ↔ _ :=
      afterWord_symbol "call".toList (Or.inl rfl)
    have underscore : afterWord "_call".toList between = some rest ↔ _ :=
      afterWord_symbol "call".toList (Or.inr rfl)
    rw [dash, underscore]
    constructor
    · rintro ⟨middle, ⟨c, rfl, isSymbol⟩ | rfl, isCall⟩
      · rw [isDash, Bool.or_eq_true, beq_iff_eq, beq_iff_eq] at isSymbol
        rcases isSymbol with rfl | rfl
        · exact Or.inr (Or.inl ⟨middle, rfl, isCall⟩)
        · exact Or.inr (Or.inr ⟨middle, rfl, isCall⟩)
      · exact Or.inl isCall
    · rintro (isCall | ⟨middle, rfl, isCall⟩ | ⟨middle, rfl, isCall⟩)
      · exact ⟨between, Or.inr rfl, isCall⟩
      · exact ⟨middle, Or.inl ⟨'-', rfl, rfl⟩, isCall⟩
      · exact ⟨middle, Or.inl ⟨'_', rfl, rfl⟩, isCall⟩
  simp only [alertWords, Regex.Reads, word_reads, List.mem_cons, List.not_mem_nil, or_false,
    exists_eq_or_imp, exists_eq_left, written, plain, dash, underscore, and_or_left, exists_or]

/-- Some route of a call is found exactly where one of the enabled words stands with what may end
it. Which routes there are depends on the bot. -/
theorem callRoutes_isSome : (∃ route ∈ callRoutes bot, (search route.pattern text).isSome = true) ↔
    ∃ word ∈ enabledWords bot, ∃ rest, afterWord word text = some rest ∧ CallEnds rest := by
  have plain (name word : Text) :
      (search (commandPattern (PyRegex.word word) name) text).isSome = true ↔
        ∃ rest, afterWord word text = some rest ∧ CallEnds rest := by
    simp only [commandPattern_found, word_reads]
  have alerts : (search alertCommandPattern text).isSome = true ↔
      ∃ word ∈ ["alert!".toList, "alert".toList, "oncall".toList, "on-call".toList,
        "on_call".toList], ∃ rest, afterWord word text = some rest ∧ CallEnds rest := by
    rw [alertCommandPattern, commandPattern_found]
    simp only [alertWords_reads]
    constructor
    · rintro ⟨rest, ⟨word, listed, isWord⟩, ends⟩
      exact ⟨word, listed, rest, isWord, ends⟩
    · rintro ⟨word, listed, rest, isWord, ends⟩
      exact ⟨rest, ⟨word, listed, isWord⟩, ends⟩
  obtain ⟨sends, urgent, acknowledges⟩ := bot
  rw [callRoutes, enabledWords]
  simp only [List.mem_append, List.mem_cons, or_and_right, exists_or, exists_eq_left, plain]
  cases sends <;> cases urgent <;> simp [plain, alerts, or_assoc]

end Calls

section Routes

/-- The pattern of the usage text is found where one of its words stands, behind blanks at most. -/
theorem usage_found : (search usagePattern text).isSome = true ↔
    ∃ word ∈ usageWords, (afterWord word (lstrip text)).isSome = true := by
  have reads {between : Text} : (∃ left, (Regex.seq (.alt (word "usage".toList)
      (.alt (word "commands".toList) (word "?".toList))) (.many anyButNewline)).Reads text between
        left) ↔ ∃ word ∈ usageWords, (afterWord word between).isSome = true := by
    have anything (s : Text) : (Regex.many anyButNewline).Reads text s s := ⟨[], rfl, rfl⟩
    constructor
    · rintro ⟨left, rest, isUsage | isCommands | isMark, -⟩
      · exact ⟨"usage".toList, by decide, Option.isSome_of_mem (word_reads.mp isUsage)⟩
      · exact ⟨"commands".toList, by decide, Option.isSome_of_mem (word_reads.mp isCommands)⟩
      · exact ⟨"?".toList, by decide, Option.isSome_of_mem (word_reads.mp isMark)⟩
    · rintro ⟨letters, listed, isWord⟩
      obtain ⟨rest, isWord⟩ := Option.isSome_iff_exists.mp isWord
      have isWord : (word letters).Reads text between rest := word_reads.mpr isWord
      refine ⟨rest, rest, ?_, anything rest⟩
      simp only [usageWords, List.mem_cons, List.not_mem_nil, or_false] at listed
      rcases listed with rfl | rfl | rfl
      · exact Or.inl isWord
      · exact Or.inr (Or.inl isWord)
      · exact Or.inr (Or.inr isWord)
  have starts : ∀ word ∈ usageWords, ∃ letter letters, word = letter :: letters ∧
      isSpace letter = false := by
    simp only [usageWords, List.forall_mem_cons]
    exact ⟨⟨_, _, rfl, by decide⟩, ⟨_, _, rfl, by decide⟩, ⟨_, _, rfl, by decide⟩,
      List.forall_mem_nil _⟩
  rw [usagePattern, search_start_isSome]
  constructor
  · rintro ⟨left, s, blanks, behind⟩
    obtain ⟨letters, listed, isWord⟩ := reads.mp ⟨left, behind⟩
    obtain ⟨rest, isWord⟩ := Option.isSome_iff_exists.mp isWord
    obtain ⟨letter, others, rfl, solid⟩ := starts letters listed
    exact ⟨_, listed, Option.isSome_of_mem ((indented_word solid).mp ⟨s, blanks, isWord⟩)⟩
  · rintro ⟨letters, listed, isWord⟩
    obtain ⟨rest, isWord⟩ := Option.isSome_iff_exists.mp isWord
    obtain ⟨letter, others, rfl, solid⟩ := starts letters listed
    obtain ⟨s, blanks, isWord⟩ := (indented_word solid).mpr isWord
    obtain ⟨left, behind⟩ := reads.mpr ⟨_, listed, Option.isSome_of_mem isWord⟩
    exact ⟨left, s, blanks, behind⟩

/-- The pattern of unknown commands is found in a token, blanks and a line, so it does not find a
token alone. -/
theorem unknown_found : (search unknownPattern text).isSome = true ↔
    ∃ token gap rest, TokenAndLine text token gap rest := by
  rw [unknownPattern, search_start_isSome]
  constructor
  · rintro ⟨left, s, ⟨more, ⟨c, rfl, solidFirst⟩, token, rfl, solid⟩, behind, ⟨d, rfl, blankFirst⟩,
      line, ⟨gap, rfl, blank⟩, isLine⟩
    refine ⟨c :: token, d :: gap, line, rfl, List.cons_ne_nil _ _, ?_, List.cons_ne_nil _ _, ?_,
      (line_reads _).mp ⟨left, isLine⟩⟩
    · intro e listed
      rcases List.mem_cons.mp listed with rfl | listed
      · simpa using solidFirst
      · simpa using List.all_eq_true.mp solid e listed
    · rw [List.all_cons, blankFirst, blank]
      rfl
  · rintro ⟨token, gap, rest, parts, someToken, solid, someGap, blank, oneLine⟩
    obtain ⟨c, token, rfl⟩ := List.exists_cons_of_ne_nil someToken
    obtain ⟨d, gap, rfl⟩ := List.exists_cons_of_ne_nil someGap
    obtain ⟨solidFirst, solid⟩ := List.forall_mem_cons.mp solid
    rw [List.all_cons, Bool.and_eq_true] at blank
    obtain ⟨left, isLine⟩ := (line_reads text).mpr oneLine
    have solidToken : token.all (fun c => !isSpace c) = true := by
      simpa using solid
    exact ⟨left, d :: gap ++ rest, ⟨token ++ (d :: gap ++ rest), ⟨c, parts, by simp [solidFirst]⟩,
      token, rfl, solidToken⟩, gap ++ rest, ⟨d, rfl, blank.1⟩, rest, ⟨gap, rfl, blank.2⟩, isLine⟩

/-- An id behind `ack` is a line behind a token, so the route of `ack` adds nothing to the texts
that are answered. -/
theorem AckParts.tokenAndLine (parts : AckParts text gap alertId rest) :
    ∃ token, TokenAndLine text token gap (alertId ++ rest) := by
  have solidIds : '\n' ∉ alertId := by
    intro listed
    have solid := isAlertIdChar_solid (parts.idChars _ listed)
    exact absurd solid (by decide)
  have isWord : afterLiteral sameLetter "ack".toList text = some (gap ++ (alertId ++ rest)) :=
    afterWord_literal.symm.trans parts.parts
  obtain ⟨token, isText, pairs⟩ := afterLiteral_iff.mp isWord
  have solidWord : ∀ letter ∈ "ack".toList, isSpace letter = false := by decide
  refine ⟨token, isText, ?_, ?_, parts.apart, parts.blank, OneLine.append parts.oneLine solidIds⟩
  · rintro rfl
    cases pairs
  · intro c listed
    obtain ⟨letter, isLetter, same⟩ := exists_letter pairs listed
    exact sameLetter_solid same (solidWord letter isLetter)

/-- A message is answered exactly if the pattern of some route is found in it. -/
theorem dispatch_isSome (routes : List HearsRoute) : (dispatch text routes).isSome = true ↔
    ∃ route ∈ routes, (search route.pattern text).isSome = true := by
  induction routes with
  | nil => simp [dispatch]
  | cons route routes inductionHypothesis =>
    rw [List.exists_mem_cons_iff, ← inductionHypothesis]
    cases isFound : search route.pattern text with
    | none => simp [dispatch_unfound isFound]
    | some found => simp [dispatch_found isFound]

end Routes

/-- A bot answers a message exactly where its text is a call that the bot has, on one line behind
its colon, or starts with the word of another command, or has blanks behind its first token and one
line behind them.

Proof: a message is answered where the pattern of a route is found. The routes are those of the
calls, of `ack`, of `implode` and the usage text, and of unknown commands, and what each of them is
found in was worked out above. -/
theorem heard_iff (bot : BotConfig) (text : Text) :
    (hear bot text).isSome = true ↔ Answered bot text := by
  rw [hear, bindThaumHandlers_parts, dispatch_isSome]
  constructor
  · rintro ⟨route, listed, isFound⟩
    rcases List.mem_append.mp listed with call | listed
    · obtain ⟨word, enabled, rest, isWord, ends⟩ := callRoutes_isSome.mp ⟨route, call, isFound⟩
      exact .call enabled isWord ends
    · rcases List.mem_append.mp listed with ack | common
      · rw [ackRoutes] at ack
        split at ack
        · obtain rfl := List.mem_singleton.mp ack
          obtain ⟨found, isFound⟩ := Option.isSome_iff_exists.mp isFound
          obtain ⟨gap, rest, parts⟩ := ack_found isFound
          obtain ⟨token, tokenAndLine⟩ := parts.tokenAndLine
          exact .token tokenAndLine
        · cases ack
      · simp only [commonRoutes, List.mem_cons, List.not_mem_nil, or_false] at common
        rcases common with rfl | rfl | rfl
        · obtain ⟨rest, isWord, oneLine⟩ := implode_found.mp isFound
          exact .implode isWord oneLine
        · obtain ⟨word, listed, isWord⟩ := usage_found.mp isFound
          exact .usage listed isWord
        · obtain ⟨token, gap, rest, tokenAndLine⟩ := unknown_found.mp isFound
          exact .token tokenAndLine
  · intro answered
    cases answered with
    | call enabled isWord ends =>
      obtain ⟨route, listed, isFound⟩ := callRoutes_isSome.mpr ⟨_, enabled, _, isWord, ends⟩
      exact ⟨route, List.mem_append_left _ listed, isFound⟩
    | implode isWord oneLine =>
      exact ⟨_, List.mem_append_right _ (List.mem_append_right _ List.mem_cons_self),
        implode_found.mpr ⟨_, isWord, oneLine⟩⟩
    | usage listed isWord =>
      exact ⟨_, List.mem_append_right _ (List.mem_append_right _
        (List.mem_cons_of_mem _ List.mem_cons_self)), usage_found.mpr ⟨_, listed, isWord⟩⟩
    | token parts =>
      exact ⟨_, List.mem_append_right _ (List.mem_append_right _
        (List.mem_cons_of_mem _ (List.mem_cons_of_mem _ List.mem_cons_self))),
        unknown_found.mpr ⟨_, _, _, parts⟩⟩

section Example

/-- A direct message of one word that is not a command. -/
def greeting : WebexMessage where
  text := "hello".toList
  markdown := none
  direct := true
  mentionedPeople := []

/-- The bot that it is sent to. -/
def askDBA : BotIdentity where
  handle := "askDBA".toList
  botKey := "askdba".toList
  meId := "Y2lzX3Rlc3Q".toList
  displayName := "Ask DBA".toList
  emails := ["askdba@webex.bot".toList]

/-- A bot with every command does not answer `hello`: no blank stands behind its only token. -/
theorem single_word_unanswered : ¬ ∀ rules me message text,
    processMessage rules me message = some text → ∀ bot, (hear bot text).isSome = true := by
  intro always
  have processed : processMessage asciiRules askDBA greeting = some "hello".toList := by
    decide +kernel
  have heard := always asciiRules askDBA greeting _ processed fullBot
  have silent : hear fullBot "hello".toList = none := by decide +kernel
  rw [silent] at heard
  cases heard

end Example

end Thaum.Bots
