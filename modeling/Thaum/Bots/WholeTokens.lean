import Thaum.Bots.AckCommand
import Thaum.Library.RegexReads

/-!
# Commands and tokens

`implode` deletes the room and `ack` acknowledges an alert. The patterns of the two go on
with `.*` right behind the word and behind the id, so that a longer word and a longer id
are taken for them as well.

Tokens are what stands between blanks. A word is compared in the ignored case of the
patterns.
-/

namespace Thaum.Bots

open PyText PyRegex

/-- The first token of a text. -/
def firstToken (text : Text) : Text := (lstrip text).takeWhile fun c => !isSpace c

/-- What follows the first token. -/
def afterToken (text : Text) : Text := (lstrip text).dropWhile fun c => !isSpace c

/-- The token behind the first one. -/
def secondToken (text : Text) : Text := firstToken (afterToken text)

/-- The text is the word, in ignored case. -/
def IsWord (word s : Text) : Prop := afterWord word s = some []

/-- A room is deleted for the token `implode` only, and an alert is acknowledged for the
token `ack` and a token that is an id, which is the id of the alert.

Letter case and the alphabet of ids are those of the routes' own patterns, which are compiled
with `IGNORECASE`: `[A-Z2-9]` takes the small letters, `I` and `O`, and the four characters
U+0130, U+0131, U+017F and U+212A, whose case is an ASCII letter's. -/
structure ActsOnTokens (bot : BotConfig) (text : Text) : Prop where
  implode : hear bot text = some .implode → IsWord "implode".toList (firstToken text)
  ack : ∀ alertId, hear bot text = some (.acknowledge alertId) →
    IsWord "ack".toList (firstToken text) ∧ secondToken text = alertId ∧ alertId.length = 4 ∧
      ∀ c ∈ alertId, isAlertIdChar c = true

/-- `implode` with more of a word right behind it, on one line from there. -/
def ImplodeContinues (text : Text) : Prop :=
  ∃ c more, afterWord "implode".toList (lstrip text) = some (c :: more) ∧ isSpace c = false ∧
    OneLine (c :: more)

/-- Behind `ack` come blanks, an id of four characters and what is left. -/
structure AckParts (text gap alertId rest : Text) : Prop where
  parts : afterWord "ack".toList text = some (gap ++ (alertId ++ rest))
  apart : gap ≠ []
  blank : gap.all isSpace = true
  four : alertId.length = 4
  idChars : ∀ c ∈ alertId, isAlertIdChar c = true
  oneLine : OneLine rest

/-- `ack` and an id with more of a token right behind it, on one line from there. -/
def AckContinues (text : Text) : Prop :=
  ∃ gap alertId c more, AckParts text gap alertId (c :: more) ∧ isSpace c = false

/-- The routes of the calls. -/
def callRoutes (bot : BotConfig) : List HearsRoute :=
  [⟨10, commandPattern (word "help".toList) "summary".toList, handleHelpEmergency⟩] ++
    (if bot.highPriOn then
      [⟨10, commandPattern (word "emergency".toList) "summary".toList, handleHelpEmergency⟩]
    else []) ++
    (if bot.sendAlerts then [⟨10, alertCommandPattern, handleAlert bot⟩] else [])

/-- The route of `ack`, for a bot that has it. -/
def ackRoutes (bot : BotConfig) : List HearsRoute :=
  if bot.sendAlerts && bot.supportsAcknowledge then [⟨10, ackPattern, handleAck⟩] else []

/-- The routes that every bot has behind those of its calls. -/
def commonRoutes : List HearsRoute :=
  [⟨80, implodePattern, fun _ => .implode⟩, ⟨90, usagePattern, fun _ => .usage⟩,
    ⟨99, unknownPattern, handleUnknown⟩]

/-- What the patterns of the calls start with. -/
def callWords : List Text :=
  ["help".toList, "emergency".toList, "alert".toList, "on".toList]

variable {bot : BotConfig} {text s rest gap alertId : Text} {route : HearsRoute}

/-- The routes of a bot, in the order in which they are tried. -/
theorem bindThaumHandlers_parts (bot : BotConfig) :
    bindThaumHandlers bot = callRoutes bot ++ (ackRoutes bot ++ commonRoutes) := by
  obtain ⟨alerts, urgent, acknowledges⟩ := bot
  cases alerts <;> cases urgent <;> cases acknowledges <;> rfl

/-- Routes that are not found are passed, so the message goes on to those behind them. -/
theorem dispatch_skip {front routes : List HearsRoute}
    (unfound : ∀ route ∈ front, search route.pattern text = none) :
    dispatch text (front ++ routes) = dispatch text routes := by
  induction front with
  | nil => rfl
  | cons route front inductionHypothesis =>
    obtain ⟨first, others⟩ := List.forall_mem_cons.mp unfound
    rw [List.cons_append, dispatch_unfound first, inductionHypothesis others]

section Letters

/-- A character matches one ASCII letter at most, the special ones included. -/
theorem sameLetter_inj {first second c : Char} (isFirst : sameLetter first c = true)
    (isSecond : sameLetter second c = true) (ascii : first.toNat < 128)
    (ascii' : second.toNat < 128) : first = second := by
  have beyond : ∀ partner ∈ caseSpecial, 128 ≤ partner.2.toLower.toNat := by decide
  have single : ∀ partner ∈ caseSpecial, ∀ other ∈ caseSpecial, partner.2 = other.2 →
      partner.1 = other.1 := by decide
  have lowered {letter : Char} (listed : (letter, c) ∈ caseSpecial) :
      128 ≤ c.toLower.toNat := beyond _ listed
  rw [sameLetter, Bool.or_eq_true, beq_iff_eq, List.contains_iff_mem] at isFirst isSecond
  rcases isFirst with isFirst | isFirst
  · rcases isSecond with isSecond | isSecond
    · exact isFirst.symm.trans isSecond
    · have high := lowered isSecond
      rw [isFirst] at high
      omega
  · rcases isSecond with isSecond | isSecond
    · have high := lowered isFirst
      rw [isSecond] at high
      omega
    · exact single _ isFirst _ isSecond rfl

/-- A character that matches a letter is not blank, so a word in ignored case has no blanks in
it. -/
theorem sameLetter_solid {letter c : Char} (same : sameLetter letter c = true)
    (solid : isSpace letter = false) : isSpace c = false := by
  rw [sameLetter, Bool.or_eq_true, beq_iff_eq, List.contains_iff_mem] at same
  rcases same with lowered | listed
  · rw [← isSpace_toLower, lowered, solid]
  · have each : ∀ d ∈ caseSpecial.map Prod.snd, isSpace d = false := by decide
    exact each c (List.mem_map.mpr ⟨_, listed, rfl⟩)

/-- Of two words that a text starts with one starts with the other. This tells the routes apart by
their words. -/
theorem afterWord_common {first second : Text}
    (isFirst : (afterWord first s).isSome = true) (isSecond : (afterWord second s).isSome = true)
    (ascii : ∀ c ∈ first, c.toNat < 128) (ascii' : ∀ c ∈ second, c.toNat < 128) :
    first <+: second ∨ second <+: first := by
  induction first generalizing second s with
  | nil => exact Or.inl List.nil_prefix
  | cons letter letters inductionHypothesis =>
    cases second with
    | nil => exact Or.inr List.nil_prefix
    | cons other others =>
      cases s with
      | nil => cases isFirst
      | cons c s =>
        rw [afterWord] at isFirst isSecond
        split at isFirst
        · rename_i same
          split at isSecond
          · rename_i same'
            obtain ⟨low, lowRest⟩ := List.forall_mem_cons.mp ascii
            obtain ⟨low', lowRest'⟩ := List.forall_mem_cons.mp ascii'
            obtain rfl := sameLetter_inj same same' low low'
            rw [List.cons_prefix_cons, List.cons_prefix_cons]
            exact (inductionHypothesis isFirst isSecond lowRest lowRest').imp (⟨rfl, ·⟩) (⟨rfl, ·⟩)
          · cases isSecond
        · cases isFirst

/-- A text that starts with a word starts with the beginning of the word, so a longer word is taken
for a shorter one unless the pattern looks further. -/
theorem afterWord_begins {letters more : Text}
    (isWord : (afterWord (letters ++ more) s).isSome = true) :
    (afterWord letters s).isSome = true := by
  induction letters generalizing s with
  | nil => rfl
  | cons letter letters inductionHypothesis =>
    cases s with
    | nil => cases isWord
    | cons c s =>
      rw [List.cons_append, afterWord] at isWord
      rw [afterWord]
      split at isWord
      · rename_i same
        rw [if_pos same]
        exact inductionHypothesis isWord
      · cases isWord

/-- A text that starts with a word does not start with a blank, and has nothing to trim there. -/
theorem afterWord_lstrip {letter : Char} {letters : Text}
    (isWord : (afterWord (letter :: letters) s).isSome = true) (solid : isSpace letter = false) :
    lstrip s = s := by
  cases s with
  | nil => rfl
  | cons c s =>
    rw [afterWord] at isWord
    split at isWord
    · rename_i same
      exact List.dropWhile_cons_of_neg (by simp [sameLetter_solid same solid])
    · cases isWord

end Letters

/-- What a command pattern reads starts with its command, whatever message follows. -/
theorem commandPattern_reads {command : Regex} {name : Text} {found : Cursor}
    (isFound : search (commandPattern command name) text = some found) :
    ∃ rest, command.Reads text text rest := by
  obtain ⟨_, rest, reads, _⟩ := search_start_isSome.mp (Option.isSome_of_mem isFound)
  exact ⟨rest, reads⟩

/-- The route of a call is found only where the text starts with one of the words. What may follow
the word is not asked here. -/
theorem callRoutes_found (listed : route ∈ callRoutes bot) {found : Cursor}
    (isFound : search route.pattern text = some found) :
    ∃ word ∈ callWords, (afterWord word text).isSome = true := by
  rw [callRoutes, List.mem_append, List.mem_append] at listed
  rcases listed with (help | emergency) | alert
  · obtain rfl := List.mem_singleton.mp help
    obtain ⟨rest, reads⟩ := commandPattern_reads isFound
    exact ⟨"help".toList, by decide, Option.isSome_of_mem (word_reads.mp reads)⟩
  · split at emergency
    · obtain rfl := List.mem_singleton.mp emergency
      obtain ⟨rest, reads⟩ := commandPattern_reads isFound
      exact ⟨"emergency".toList, by decide, Option.isSome_of_mem (word_reads.mp reads)⟩
    · cases emergency
  · split at alert
    · obtain rfl := List.mem_singleton.mp alert
      obtain ⟨rest, reads⟩ := commandPattern_reads isFound
      rcases reads with bang | plain | onCall
      · have isBang : (afterWord ("alert".toList ++ ['!']) text).isSome = true :=
          Option.isSome_of_mem (word_reads.mp bang)
        exact ⟨"alert".toList, by decide, afterWord_begins isBang⟩
      · exact ⟨"alert".toList, by decide, Option.isSome_of_mem (word_reads.mp plain)⟩
      · obtain ⟨_, on, _⟩ := onCall
        exact ⟨"on".toList, by decide, Option.isSome_of_mem (word_reads.mp on)⟩
    · cases alert

/-- No route of a call is found where another word stands, neither of which begins the other. -/
theorem callRoutes_unfound {word : Text} (isWord : (afterWord word (lstrip text)).isSome = true)
    (ascii : ∀ c ∈ word, c.toNat < 128)
    (apart : ∀ other ∈ callWords, ¬ other <+: word ∧ ¬ word <+: other) :
    ∀ route ∈ callRoutes bot, search route.pattern text = none := by
  intro route listed
  rw [Option.eq_none_iff_forall_ne_some]
  intro found isFound
  obtain ⟨other, isOne, isOther⟩ := callRoutes_found listed isFound
  have lowCalls : ∀ other ∈ callWords, ∀ c ∈ other, c.toNat < 128 := by decide
  have solidCalls : ∀ other ∈ callWords, other.head?.any (fun c => !isSpace c) = true := by decide
  have unblank : lstrip text = text := by
    have solid := solidCalls other isOne
    cases other with
    | nil => cases solid
    | cons letter letters => exact afterWord_lstrip isOther (by simpa using solid)
  rw [unblank] at isWord
  rcases afterWord_common isOther isWord (lowCalls other isOne) ascii with before | behind
  · exact (apart other isOne).1 before
  · exact (apart other isOne).2 behind

/-- Behind any blanks a word stands where the text starts with it without them. The repetition may
give blanks back, but the word does not start with one. -/
theorem indented_word {letter : Char} {letters : Text} (solid : isSpace letter = false) :
    (∃ s, (Regex.many isSpace).Reads text text s ∧ afterWord (letter :: letters) s = some rest) ↔
      afterWord (letter :: letters) (lstrip text) = some rest := by
  constructor
  · rintro ⟨s, ⟨blanks, rfl, blank⟩, isWord⟩
    rw [lstrip_append s blank, afterWord_lstrip (Option.isSome_of_mem isWord) solid, isWord]
  · intro isWord
    exact ⟨lstrip text, ⟨text.takeWhile isSpace, List.takeWhile_append_dropWhile.symm,
      List.all_takeWhile⟩, isWord⟩

/-- The pattern of `implode` is found where the word stands and the rest is one line, whether or not
more of a token follows the word. -/
theorem implode_found : (search implodePattern text).isSome = true ↔
    ∃ rest, afterWord "implode".toList (lstrip text) = some rest ∧ OneLine rest := by
  rw [implodePattern, search_start_isSome]
  constructor
  · rintro ⟨_, s, blanks, rest, isWord, isLine⟩
    have isWord : afterWord "implode".toList s = some rest := word_reads.mp isWord
    exact ⟨rest, (indented_word (by decide)).mp ⟨s, blanks, isWord⟩,
      (line_reads text).mp ⟨_, isLine⟩⟩
  · rintro ⟨rest, isWord, oneLine⟩
    obtain ⟨left, reads⟩ := (line_reads text).mpr oneLine
    obtain ⟨s, blanks, isWord⟩ := (indented_word (by decide)).mpr isWord
    exact ⟨left, s, blanks, rest, word_reads.mpr isWord, reads⟩

/-- The id is captured with its four characters, and what is behind it is not looked at. -/
theorem mem_alertIdGroup {cursor after : Cursor}
    (listed : after ∈ alertIdGroup.ways text cursor) :
    ∃ typed, cursor.rest = typed ++ after.rest ∧ typed.length = 4 ∧
      (∀ c ∈ typed, isAlertIdChar c = true) ∧
      after.groups = ("alert_id".toList, typed) :: cursor.groups := by
  rw [alertIdGroup, Regex.ways_group] at listed
  obtain ⟨fourth, four, rfl⟩ := List.mem_map.mp listed
  obtain ⟨first, isFirst, three⟩ := List.mem_flatMap.mp four
  obtain ⟨second, isSecond, two⟩ := List.mem_flatMap.mp three
  obtain ⟨third, isThird, isFourth⟩ := List.mem_flatMap.mp two
  obtain ⟨a, restA, inA, groupsA⟩ := mem_chars.mp isFirst
  obtain ⟨b, restB, inB, groupsB⟩ := mem_chars.mp isSecond
  obtain ⟨c, restC, inC, groupsC⟩ := mem_chars.mp isThird
  obtain ⟨d, restD, inD, groupsD⟩ := mem_chars.mp isFourth
  have parts : cursor.rest = [a, b, c, d] ++ fourth.rest := by
    rw [restA, restB, restC, restD]
    rfl
  refine ⟨[a, b, c, d], parts, rfl, by simp [inA, inB, inC, inD], ?_⟩
  have taken : cursor.captured fourth = [a, b, c, d] := by
    rw [Cursor.captured, parts, List.length_append, Nat.add_sub_cancel, List.take_left]
  rw [taken, groupsD, groupsC, groupsB, groupsA]

/-- What the acknowledge pattern captures stands behind `ack` and blanks. -/
theorem ack_found {found : Cursor} (isFound : search ackPattern text = some found) :
    ∃ gap rest, AckParts text gap ((found.group "alert_id".toList).getD []) rest := by
  rw [ackPattern, search_start] at isFound
  obtain ⟨behind, isAck, listed⟩ := List.mem_flatMap.mp (List.mem_of_head? isFound)
  obtain ⟨one, isOne, listed⟩ := List.mem_flatMap.mp listed
  obtain ⟨all, isAll, listed⟩ := List.mem_flatMap.mp listed
  obtain ⟨afterId, isId, listed⟩ := List.mem_flatMap.mp listed
  obtain ⟨line, isLine, isEnd⟩ := List.mem_flatMap.mp listed
  obtain ⟨ack, groupsAck⟩ := mem_word.mp isAck
  obtain ⟨c, restOne, blankOne, groupsOne⟩ := mem_chars.mp isOne
  obtain ⟨blanks, restAll, blank, groupsAll⟩ := mem_many.mp isAll
  obtain ⟨typed, restId, four, idChars, groupsId⟩ := mem_alertIdGroup isId
  obtain ⟨taken, restLine, inLine, groupsLine⟩ := mem_many.mp isLine
  obtain ⟨rfl, ended⟩ := mem_finish.mp isEnd
  have captured : (found.group "alert_id".toList).getD [] = typed := by
    rw [Cursor.group, groupsLine, groupsId, List.lookup_cons_self]
    rfl
  rw [captured]
  refine ⟨c :: blanks, afterId.rest, ?_, List.cons_ne_nil _ _, ?_, four, idChars, ?_⟩
  · rw [ack, restOne, restAll, restId]
    rfl
  · rw [List.all_cons, blankOne, blank]
    rfl
  · have isLine : (Regex.seq (.many anyButNewline) .finish).Reads text afterId.rest found.rest :=
      ⟨found.rest, ⟨taken, restLine, inLine⟩, rfl, ended⟩
    exact (line_reads text).mp ⟨_, isLine⟩

/-- Without the blanks behind `ack` the text starts with the id. -/
theorem AckParts.lstrip_gap (parts : AckParts text gap alertId rest) :
    lstrip (gap ++ (alertId ++ rest)) = alertId ++ rest := by
  obtain ⟨c, more, rfl⟩ := List.exists_cons_of_length_eq_add_one parts.four
  have solid := isAlertIdChar_solid (parts.idChars c List.mem_cons_self)
  rw [lstrip_append _ parts.blank]
  exact List.dropWhile_cons_of_neg (by simp [solid])

/-- A text has one id behind `ack`: the blanks end where the id starts, as no character of it is
blank. -/
theorem AckParts.unique {gap' alertId' rest' : Text} (one : AckParts text gap alertId rest)
    (other : AckParts text gap' alertId' rest') : alertId = alertId' := by
  have same := congrArg lstrip (Option.some.inj (one.parts.symm.trans other.parts))
  rw [one.lstrip_gap, other.lstrip_gap] at same
  exact (List.append_inj same (one.four.trans other.four.symm)).1

/-- Where the parts of `ack` stand its pattern is found. -/
theorem AckParts.found (parts : AckParts text gap alertId rest) :
    (search ackPattern text).isSome = true := by
  obtain ⟨c, gap, rfl⟩ := List.exists_cons_of_ne_nil parts.apart
  have blank := parts.blank
  rw [List.all_cons, Bool.and_eq_true] at blank
  obtain ⟨left, isLine⟩ := (line_reads text).mpr parts.oneLine
  have isId : alertIdGroup.Reads text (alertId ++ rest) rest := by
    match alertId, parts.four, parts.idChars with
    | [a, b, c, d], _, idChars =>
      simp only [List.forall_mem_cons] at idChars
      obtain ⟨inA, inB, inC, inD, _⟩ := idChars
      exact ⟨_, ⟨a, rfl, inA⟩, _, ⟨b, rfl, inB⟩, _, ⟨c, rfl, inC⟩, ⟨d, rfl, inD⟩⟩
  rw [ackPattern, search_start_isSome]
  exact ⟨left, _, word_reads.mpr parts.parts, _, ⟨c, rfl, blank.1⟩, _, ⟨gap, rfl, blank.2⟩, rest,
    isId, isLine⟩

/-- The handler of `help` and `emergency` opens a room, and does nothing else. -/
theorem handleHelpEmergency_incident (found : Cursor) :
    ∃ priority summary, handleHelpEmergency found = .incident priority summary :=
  ⟨_, _, rfl⟩

/-- The handlers of the calls neither delete a room nor acknowledge, so those two commands come from
their own routes. -/
theorem callRoutes_handler (listed : route ∈ callRoutes bot) (found : Cursor) :
    route.handler found ≠ .implode ∧ ∀ alertId, route.handler found ≠ .acknowledge alertId := by
  obtain ⟨priority, summary, incident⟩ := handleHelpEmergency_incident found
  rw [callRoutes, List.mem_append, List.mem_append] at listed
  rcases listed with (help | emergency) | alert
  · obtain rfl := List.mem_singleton.mp help
    simp only [incident, ne_eq, reduceCtorEq, not_false_eq_true, implies_true, and_self]
  · split at emergency
    · obtain rfl := List.mem_singleton.mp emergency
      simp only [incident, ne_eq, reduceCtorEq, not_false_eq_true, implies_true, and_self]
    · cases emergency
  · split at alert
    · obtain rfl := List.mem_singleton.mp alert
      simp only [handleAlert]
      split
      · simp only [ne_eq, reduceCtorEq, not_false_eq_true, implies_true, and_self]
      · simp only [ne_eq, reduceCtorEq, not_false_eq_true, implies_true, and_self]
    · cases alert

/-- The acknowledge route is not found where another word stands. -/
theorem ackRoutes_unfound {word : Text} (isWord : (afterWord word (lstrip text)).isSome = true)
    (ascii : ∀ c ∈ word, c.toNat < 128)
    (apart : ¬ "ack".toList <+: word ∧ ¬ word <+: "ack".toList) :
    ∀ route ∈ ackRoutes bot, search route.pattern text = none := by
  intro route listed
  rw [ackRoutes] at listed
  split at listed
  · obtain rfl := List.mem_singleton.mp listed
    rw [Option.eq_none_iff_forall_ne_some]
    intro found isFound
    obtain ⟨_, _, parts⟩ := ack_found isFound
    have isAck := Option.isSome_of_mem parts.parts
    rw [afterWord_lstrip isAck (by decide)] at isWord
    rcases afterWord_common isAck isWord (by decide) ascii with before | behind
    · exact apart.1 before
    · exact apart.2 behind
  · cases listed

/-- A message deletes its room exactly where its first token starts with the word and the rest is
one line. No earlier route is found in such a text. -/
theorem hear_implode : hear bot text = some .implode ↔
    ∃ rest, afterWord "implode".toList (lstrip text) = some rest ∧ OneLine rest := by
  rw [← implode_found, hear, bindThaumHandlers_parts]
  constructor
  · intro dispatched
    obtain ⟨route, listed, found, isFound, handled⟩ := dispatch_some dispatched
    rcases List.mem_append.mp listed with call | listed
    · exact absurd handled.symm (callRoutes_handler call found).1
    · rcases List.mem_append.mp listed with ack | common
      · rw [ackRoutes] at ack
        split at ack
        · obtain rfl := List.mem_singleton.mp ack
          cases handled
        · cases ack
      · simp only [commonRoutes, List.mem_cons, List.not_mem_nil, or_false] at common
        rcases common with rfl | rfl | rfl
        · exact Option.isSome_of_mem isFound
        · cases handled
        · cases handled
  · intro isSome
    obtain ⟨rest, isWord, _⟩ := implode_found.mp isSome
    have isWord := Option.isSome_of_mem isWord
    obtain ⟨found, isFound⟩ := Option.isSome_iff_exists.mp isSome
    rw [dispatch_skip (callRoutes_unfound isWord (by decide) (by decide)),
      dispatch_skip (ackRoutes_unfound isWord (by decide) (by decide)), commonRoutes,
      dispatch_found isFound]

/-- A message acknowledges an alert exactly where the bot acknowledges and the id stands behind
`ack`. No earlier route is found in such a text. -/
theorem hear_acknowledge : hear bot text = some (.acknowledge alertId) ↔
    (bot.sendAlerts && bot.supportsAcknowledge) = true ∧
      ∃ gap rest, AckParts text gap alertId rest := by
  rw [hear, bindThaumHandlers_parts]
  constructor
  · intro dispatched
    obtain ⟨route, listed, found, isFound, handled⟩ := dispatch_some dispatched
    rcases List.mem_append.mp listed with call | listed
    · exact absurd handled.symm ((callRoutes_handler call found).2 alertId)
    · rcases List.mem_append.mp listed with ack | common
      · rw [ackRoutes] at ack
        split at ack
        · rename_i acknowledges
          obtain rfl := List.mem_singleton.mp ack
          rw [Command.acknowledge.inj handled]
          exact ⟨acknowledges, ack_found isFound⟩
        · cases ack
      · simp only [commonRoutes, List.mem_cons, List.not_mem_nil, or_false] at common
        rcases common with rfl | rfl | rfl
        · cases handled
        · cases handled
        · cases handled
  · rintro ⟨acknowledges, gap, rest, parts⟩
    have isAck := Option.isSome_of_mem parts.parts
    have unblank : lstrip text = text := afterWord_lstrip isAck (by decide)
    obtain ⟨found, isFound⟩ := Option.isSome_iff_exists.mp parts.found
    obtain ⟨_, _, parts'⟩ := ack_found isFound
    rw [dispatch_skip (callRoutes_unfound (unblank.symm ▸ isAck) (by decide) (by decide)),
      ackRoutes, if_pos acknowledges, List.singleton_append, dispatch_found isFound]
    exact congrArg (some ∘ Command.acknowledge) (parts'.unique parts)

section Tokens

/-- A word does not end the token that it stands in: it has no blanks, so the token goes on behind
it as the text does. -/
theorem afterWord_token {letters : Text} (isWord : afterWord letters s = some rest)
    (solid : ∀ c ∈ letters, isSpace c = false) :
    afterWord letters (s.takeWhile fun c => !isSpace c) =
        some (rest.takeWhile fun c => !isSpace c) ∧
      (s.dropWhile fun c => !isSpace c) = rest.dropWhile fun c => !isSpace c := by
  induction letters generalizing s with
  | nil =>
    obtain rfl := Option.some.inj isWord
    exact ⟨rfl, rfl⟩
  | cons letter letters inductionHypothesis =>
    obtain ⟨solidLetter, solidRest⟩ := List.forall_mem_cons.mp solid
    cases s with
    | nil => cases isWord
    | cons c s =>
      rw [afterWord] at isWord
      split at isWord
      · rename_i same
        obtain ⟨taken, dropped⟩ := inductionHypothesis isWord solidRest
        have inToken : (!isSpace c) = true := by
          rw [sameLetter_solid same solidLetter]
          rfl
        rw [List.takeWhile_cons, List.dropWhile_cons, if_pos inToken, if_pos inToken, afterWord,
          if_pos same]
        exact ⟨taken, dropped⟩
      · cases isWord

/-- A text that starts with a word has it as its first token where a blank or nothing
follows. -/
theorem isWord_firstToken {letters : Text}
    (isWord : afterWord letters (lstrip text) = some rest)
    (solid : ∀ c ∈ letters, isSpace c = false) :
    IsWord letters (firstToken text) ↔ (rest.takeWhile fun c => !isSpace c) = [] := by
  rw [IsWord, firstToken, (afterWord_token isWord solid).1, Option.some.injEq]

/-- The first token is the word `ack`, as blanks follow it. -/
theorem AckParts.firstToken (parts : AckParts text gap alertId rest) :
    IsWord "ack".toList (firstToken text) := by
  have unblank : lstrip text = text :=
    afterWord_lstrip (Option.isSome_of_mem parts.parts) (by decide)
  rw [isWord_firstToken (unblank.symm ▸ parts.parts) (by decide)]
  obtain ⟨c, gap, rfl⟩ := List.exists_cons_of_ne_nil parts.apart
  have blank := parts.blank
  rw [List.all_cons, Bool.and_eq_true] at blank
  exact List.takeWhile_cons_of_neg (by simp [blank.1])

/-- The second token is the id and what stands right behind it, which the pattern does not look
at. -/
theorem AckParts.secondToken (parts : AckParts text gap alertId rest) :
    secondToken text = alertId ++ rest.takeWhile fun c => !isSpace c := by
  have unblank : lstrip text = text :=
    afterWord_lstrip (Option.isSome_of_mem parts.parts) (by decide)
  have behind : afterToken text = gap ++ (alertId ++ rest) := by
    rw [afterToken, unblank, (afterWord_token parts.parts (by decide)).2]
    obtain ⟨c, gap, rfl⟩ := List.exists_cons_of_ne_nil parts.apart
    have blank := parts.blank
    rw [List.all_cons, Bool.and_eq_true] at blank
    exact List.dropWhile_cons_of_neg (by simp [blank.1])
  rw [Bots.secondToken, behind, Bots.firstToken, parts.lstrip_gap, List.takeWhile_append_of_pos]
  intro c listed
  rw [isAlertIdChar_solid (parts.idChars c listed)]
  rfl

/-- Something stands right behind the id exactly where what is left does not start with a
blank. -/
theorem takeWhile_solid_ne : (rest.takeWhile fun c => !isSpace c) ≠ [] ↔
    ∃ c more, rest = c :: more ∧ isSpace c = false := by
  cases rest with
  | nil => simp
  | cons c more =>
    rw [List.takeWhile_cons]
    split
    · rename_i solid
      simpa using solid
    · rename_i blank
      simpa using blank

end Tokens

/-- The commands act on whole tokens exactly where neither `implode` nor an id for an enabled `ack`
has more of a token right behind it, with the rest on one line.

Proof: when a message deletes its room or acknowledges an alert is known from the patterns. The word
or the id is the whole token exactly if a blank or nothing follows it. -/
theorem acts_on_tokens_iff (bot : BotConfig) (text : Text) :
    ActsOnTokens bot text ↔ ¬ ImplodeContinues text ∧
      ¬ ((bot.sendAlerts && bot.supportsAcknowledge) = true ∧ AckContinues text) := by
  constructor
  · intro acts
    constructor
    · rintro ⟨c, more, isWord, solid, oneLine⟩
      have whole := acts.implode (hear_implode.mpr ⟨_, isWord, oneLine⟩)
      rw [isWord_firstToken isWord (by decide)] at whole
      exact takeWhile_solid_ne.mpr ⟨c, more, rfl, solid⟩ whole
    · rintro ⟨acknowledges, gap, alertId, c, more, parts, solid⟩
      have acknowledged := hear_acknowledge.mpr ⟨acknowledges, gap, c :: more, parts⟩
      have whole := (acts.ack alertId acknowledged).2.1
      rw [parts.secondToken, List.append_right_eq_self] at whole
      exact takeWhile_solid_ne.mpr ⟨c, more, rfl, solid⟩ whole
  · rintro ⟨noLonger, noLongerId⟩
    constructor
    · intro imploded
      obtain ⟨rest, isWord, oneLine⟩ := hear_implode.mp imploded
      rw [isWord_firstToken isWord (by decide)]
      by_contra longer
      obtain ⟨c, more, rfl, solid⟩ := takeWhile_solid_ne.mp longer
      exact noLonger ⟨c, more, isWord, solid, oneLine⟩
    · intro alertId acknowledged
      obtain ⟨acknowledges, gap, rest, parts⟩ := hear_acknowledge.mp acknowledged
      refine ⟨parts.firstToken, ?_, parts.four, parts.idChars⟩
      rw [parts.secondToken, List.append_right_eq_self]
      by_contra longer
      obtain ⟨c, more, rfl, solid⟩ := takeWhile_solid_ne.mp longer
      exact noLongerId ⟨acknowledges, gap, alertId, c, more, parts, solid⟩

section Example

/-- `Imploded again?` deletes the room, as the pattern stops to look behind its word. -/
theorem longer_tokens_acted_on : ¬ ∀ bot text, ActsOnTokens bot text := by
  intro always
  have whole := (always fullBot "Imploded again?".toList).implode (by decide +kernel)
  have notWord : ¬ afterWord "implode".toList (firstToken "Imploded again?".toList) = some [] := by
    decide
  exact notWord whole

end Example

end Thaum.Bots
