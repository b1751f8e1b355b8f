import Thaum.Library.RegexRemoval

/-!
# The text of a message to a bot

A message is heard in a direct room or where it mentions the bot. The markup that mentions
the bot is taken out of its text, and then the labels of the bot at its start, which Webex
leaves there as plain words.

Letter case is that of the whole of Unicode: which characters are the same in ignored case
is a parameter beside the case mapping of `lower`. All that is known of it is that blanks
stay apart from other characters.
-/

namespace Thaum.Bots

open PyText PyRegex

/-- The rules of `str.lower` and of `(?i)`. -/
structure CaseRules extends CaseMapping where
  same : Char → Char → Bool
  same_blank : ∀ letter c, same letter c = true → isSpace letter = isSpace c

/-- The rules for text in ASCII. -/
def asciiRules : CaseRules where
  toCaseMapping := asciiCasing
  same letter c := letter.toLower == c.toLower
  same_blank letter c same := by
    rw [← isSpace_toLower letter, beq_iff_eq.mp same, isSpace_toLower]

/-- What the patterns for a mention end with: `(?:\|[^>]*)?>`. -/
def mentionEnd : Regex :=
  .seq (.opt (.seq (.chars (· == '|')) (.many fun c => c != '>'))) (.chars (· == '>'))

/-- `_me_email_addresses`, from the addresses that the items hold. -/
def meEmailAddresses (emails : List Text) : List Text :=
  (emails.map strip).filter fun email => !email.isEmpty && email.contains '@'

/-- `strip_webex_self_mentions`. -/
def stripWebexSelfMentions (rules : CaseRules) (text personId : Text) (emails : List Text) :
    Text :=
  let cleaned :=
    if personId = [] then text
    else remove (.seq (literal (· == ·) ("<@personId:".toList ++ personId)) mentionEnd) text
  strip (emails.foldl (fun cleaned email =>
    remove (.seq (literal rules.same ("<@personEmail:".toList ++ email)) mentionEnd) cleaned)
      cleaned)

/-- `(?i)^label\s+`. -/
def labelPattern (rules : CaseRules) (label : Text) : Regex :=
  .seq .start (.seq (literal rules.same label) (.seq (.chars isSpace) (.many isSpace)))

/-- The loop of `strip_leading_bot_labels`, with the lower case of the labels tried so
far. -/
def stripLabels (rules : CaseRules) : (labels seenLower : List Text) → (s : Text) → Text
  | [], _, s => s
  | label :: labels, seenLower, s =>
    if (strip label).length < 2 then stripLabels rules labels seenLower s
    else if seenLower.contains (rules.lower (strip label)) then
      stripLabels rules labels seenLower s
    else
      stripLabels rules labels (rules.lower (strip label) :: seenLower)
        (remove (labelPattern rules (strip label)) s)

/-- `strip_leading_bot_labels`. -/
def stripLeadingBotLabels (rules : CaseRules) (text : Text) (labels : List Text) : Text :=
  strip (stripLabels rules labels [] (strip text))

/-- What a bot is to Webex and in its configuration. -/
structure BotIdentity where
  handle : Text
  botKey : Text
  meId : Text
  displayName : Text
  emails : List Text

/-- The fields of a message and of its room that are read. -/
structure WebexMessage where
  text : Text
  markdown : Option Text
  direct : Bool
  mentionedPeople : List Text

/-- `_process_message`. -/
def processMessage (rules : CaseRules) (me : BotIdentity) (message : WebexMessage) :
    Option Text :=
  if !(message.direct || message.mentionedPeople.contains me.meId) then none
  else
    let raw := orElse (strip (message.markdown.getD [])) (strip message.text)
    if raw = [] then none
    else
      let cleaned := stripWebexSelfMentions rules raw me.meId (meEmailAddresses me.emails)
      let cleaned := stripLeadingBotLabels rules cleaned
        [me.handle, strip me.displayName, strip me.botKey]
      if cleaned = [] then none else some cleaned

variable {rules : CaseRules} {label labels text s rest : Text}

/-- What a label leaves of a text: what is behind it and the blanks that follow it. -/
def behindLabel (rules : CaseRules) (label s : Text) : Option Text :=
  match afterLiteral rules.same label s with
  | some (c :: rest) => if isSpace c then some (lstrip rest) else none
  | _ => none

/-- A label stands in front of a text with a blank behind it, and what is left starts behind all the
blanks. -/
theorem behindLabel_iff : behindLabel rules label s = some rest ↔
    ∃ c more, afterLiteral rules.same label s = some (c :: more) ∧ isSpace c = true ∧
      lstrip more = rest := by
  rw [behindLabel]
  split
  · rename_i c more found
    split
    · rename_i blank
      rw [Option.some.injEq]
      constructor
      · intro left
        exact ⟨c, more, found, blank, left⟩
      · rintro ⟨d, others, same, -, left⟩
        obtain ⟨-, rfl⟩ := List.cons.inj (Option.some.inj (found.symm.trans same))
        exact left
    · rename_i solid
      constructor
      · intro nothing
        cases nothing
      · rintro ⟨d, others, same, blank, -⟩
        obtain ⟨rfl, -⟩ := List.cons.inj (Option.some.inj (found.symm.trans same))
        exact absurd blank solid
  · rename_i unlike
    constructor
    · intro nothing
      cases nothing
    · rintro ⟨c, more, found, -⟩
      exact absurd found (unlike c more)

/-- The pattern of a label finds the label with all the blanks behind it, as the repetition of
blanks is greedy and nothing follows it. -/
theorem labelPattern_search : (search (labelPattern rules label) s).map Cursor.rest =
    behindLabel rules label s := by
  rw [labelPattern, search_start, Regex.ways_seq, literal_ways, behindLabel]
  cases afterLiteral rules.same label s with
  | none => rfl
  | some rest =>
    cases rest with
    | nil => simp [Regex.ways]
    | cons c rest =>
      obtain ⟨others, longest⟩ := leftovers_head isSpace rest
      by_cases blank : isSpace c = true
      · simp [Regex.ways, blank, longest, lstrip]
      · simp [Regex.ways, blank]

/-- A label that stands in front of a text is taken away with the blanks behind it; every other text
is left as it is. So the loop over the labels is one over `behindLabel`. -/
theorem remove_label : remove (labelPattern rules label) s =
    (behindLabel rules label s).getD s := by
  rw [← labelPattern_search]
  cases isFound : search (labelPattern rules label) s with
  | none => exact remove_unfound isFound
  | some found =>
    apply remove_found isFound
    have left : behindLabel rules label s = some found.rest := by
      rw [← labelPattern_search, isFound]
      rfl
    obtain ⟨c, more, after, -, stripped⟩ := behindLabel_iff.mp left
    obtain ⟨front, rfl, -⟩ := afterLiteral_iff.mp after
    have shorter : (lstrip more).length ≤ more.length := (List.dropWhile_suffix _).length_le
    rw [stripped] at shorter
    simp only [List.length_append, List.length_cons]
    omega

end Thaum.Bots
