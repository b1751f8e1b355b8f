import Thaum.Bots.Commands

/-!
# The acknowledge command

`ack` and a short id, in any letter case, pass the routes of the calls and reach the
handler of the acknowledge route with the short id as it was typed.
-/

namespace Thaum.Bots

open PyText PyRegex

variable {text ack gap typed rest : Text}

/-- The words of a page do not stand where `ack` does: it goes on otherwise than `alert`. -/
theorem alertWords_ack (spelled : SpelledAs "ack".toList ack) :
    alertWords.ways text ⟨ack ++ rest, []⟩ = [] := by
  obtain ⟨front, back, rfl, first, others⟩ :=
    spelledAs_append.mp (show SpelledAs (['a'] ++ "ck".toList) ack from spelled)
  have unlike (letters : Text) : (word (['a'] ++ 'l' :: letters)).ways text
      ⟨front ++ back ++ rest, []⟩ = [] := by
    rw [word_ways, List.append_assoc, afterWord_append _ _ first,
      afterWord_other rest others (by decide) (by decide)]
    rfl
  rw [alertWords_split, onCall_other spelled (by decide)]
  rw [show "alert!".toList = ['a'] ++ 'l' :: "ert!".toList from rfl, unlike,
    show "alert".toList = ['a'] ++ 'l' :: "ert".toList from rfl, unlike]
  rfl

/-- No character of an id is blank, so the blanks before it are taken to the last one. -/
theorem isAlertIdChar_solid {c : Char} (idChar : isAlertIdChar c = true) : isSpace c = false := by
  rw [isAlertIdChar, Bool.or_eq_true, Bool.or_eq_true, decide_eq_true_eq,
    decide_eq_true_eq] at idChar
  rcases idChar with (letter | digit) | special
  · have least : 97 ≤ c.toLower.toNat := letter.1
    have greatest : c.toLower.toNat ≤ 122 := letter.2
    rw [← isSpace_toLower c]
    exact letter_solid (by omega) greatest
  · have least : 50 ≤ c.toNat := digit.1
    have greatest : c.toNat ≤ 57 := digit.2
    simp only [isSpace, Bool.or_eq_false_iff, decide_eq_false_iff_not, beq_eq_false_iff_ne]
    omega
  · have solid : ∀ d ∈ caseSpecial.map Prod.snd, isSpace d = false := by decide
    exact solid c (List.contains_iff_mem.mp special)

/-- The group of the id takes four characters of an id, as they were typed. -/
theorem alertIdGroup_ways {groups : List (Text × Text)} (four : typed.length = 4)
    (idChars : ∀ c ∈ typed, isAlertIdChar c = true) :
    alertIdGroup.ways text ⟨typed, groups⟩ =
      [⟨[], ("alert_id".toList, typed) :: groups⟩] := by
  match typed, four with
  | [a, b, c, d], _ =>
    simp only [List.forall_mem_cons] at idChars
    obtain ⟨isFirst, isSecond, isThird, isFourth, _⟩ := idChars
    simp [alertIdGroup, Regex.ways, isFirst, isSecond, isThird, isFourth, Cursor.captured]

/-- It takes nothing from a blank on, so giving a blank back leads nowhere. -/
theorem alertIdGroup_blank {c : Char} {groups : List (Text × Text)} (blank : isSpace c = true) :
    alertIdGroup.ways text ⟨c :: rest, groups⟩ = [] := by
  have notId : isAlertIdChar c = false := by
    rw [Bool.eq_false_iff]
    intro idChar
    rw [isAlertIdChar_solid idChar] at blank
    exact absurd blank (by decide)
  simp [alertIdGroup, Regex.ways, notId]

/-- The pattern captures the id behind the command and the blanks, and leaves nothing. -/
theorem ackPattern_search (spelled : SpelledAs "ack".toList ack) (apart : gap ≠ [])
    (blank : gap.all isSpace = true) (four : typed.length = 4)
    (idChars : ∀ c ∈ typed, isAlertIdChar c = true) :
    search ackPattern (ack ++ gap ++ typed) = some ⟨[], [("alert_id".toList, typed)]⟩ := by
  obtain ⟨first, gap, rfl⟩ := List.exists_cons_of_ne_nil apart
  rw [List.all_cons, Bool.and_eq_true] at blank
  have skipped : (gap ++ typed).dropWhile isSpace = typed := by
    have kept : typed.dropWhile isSpace = typed := by
      cases typed with
      | nil => rfl
      | cons c rest =>
        have solid := isAlertIdChar_solid (idChars c List.mem_cons_self)
        exact List.dropWhile_cons_of_neg (by simp [solid])
    exact (lstrip_append typed blank.2).trans kept
  have afterGap (text : Text) : (Regex.seq (.many isSpace) (.seq alertIdGroup
      (.seq (.many anyButNewline) .finish))).ways text ⟨gap ++ typed, []⟩ =
        [⟨[], [("alert_id".toList, typed)]⟩] := by
    rw [many_seq_ways, skipped, Regex.ways_seq, alertIdGroup_ways four idChars]
    · simp [Regex.ways, leftovers]
    · intro c rest groups isBlank
      rw [Regex.ways_seq, alertIdGroup_blank isBlank, List.flatMap_nil]
  have oneBlank (text : Text) : (Regex.chars isSpace).ways text ⟨first :: gap ++ typed, []⟩ =
      [⟨gap ++ typed, []⟩] := by
    simp [Regex.ways, blank.1]
  rw [ackPattern, search_start, List.append_assoc, Regex.ways_seq, word_ways_spelled _ _ spelled,
    List.flatMap_singleton, Regex.ways_seq, oneBlank, List.flatMap_singleton, afterGap]
  rfl

/-- A bot that sends alerts and acknowledges them hears the acknowledge command. The routes of the
calls come first and pass it on. -/
theorem ack_heard (bot : BotConfig) (alerts : bot.sendAlerts = true)
    (acknowledges : bot.supportsAcknowledge = true) (spelled : SpelledAs "ack".toList ack)
    (apart : gap ≠ []) (blank : gap.all isSpace = true) (four : typed.length = 4)
    (idChars : ∀ c ∈ typed, isAlertIdChar c = true) :
    hear bot (ack ++ gap ++ typed) = some (.acknowledge typed) := by
  have unlike {letter : Char} {letters name : Text} (different : 'a' ≠ letter)
      (plain : ∀ partner ∈ caseSpecial, partner.1 ≠ letter) :
      search (commandPattern (word (letter :: letters)) name) (ack ++ gap ++ typed) = none := by
    apply commandPattern_unfound
    rw [List.append_assoc]
    exact word_ways_other _ [] spelled different plain
  have noAlert : search alertCommandPattern (ack ++ gap ++ typed) = none := by
    apply commandPattern_unfound
    rw [List.append_assoc]
    exact alertWords_ack spelled
  have noHelp : search (commandPattern (word "help".toList) "summary".toList)
      (ack ++ gap ++ typed) = none := unlike (by decide) (by decide)
  have noEmergency : search (commandPattern (word "emergency".toList) "summary".toList)
      (ack ++ gap ++ typed) = none := unlike (by decide) (by decide)
  have found := ackPattern_search spelled apart blank four idChars
  have later : laterRoutes bot = ⟨10, ackPattern, handleAck⟩ ::
      [⟨80, implodePattern, fun _ => .implode⟩, ⟨90, usagePattern, fun _ => .usage⟩,
        ⟨99, unknownPattern, handleUnknown⟩] := by
    rw [laterRoutes, if_pos acknowledges]
    rfl
  rw [hear, bindThaumHandlers_calls bot alerts, dispatch_unfound noHelp]
  cases bot.highPriOn with
  | true =>
    rw [if_pos rfl, List.singleton_append, dispatch_unfound noEmergency, dispatch_unfound noAlert,
      later, dispatch_found found]
    rfl
  | false =>
    rw [if_neg (by decide), List.nil_append, dispatch_unfound noAlert, later,
      dispatch_found found]
    rfl

end Thaum.Bots
